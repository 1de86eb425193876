import A9N.Hal.Context

/-!
# The owner word as a page-table entry

Entry 511 of a root table stores the owner bitmap unencoded, and the hardware reads it as a
descriptor. Core 0 owns bit 0, which is the present bit on x86_64 and the valid bit on aarch64.
-/

namespace A9N.Hal

open Kernel

/-- The hardware's reading of a root-table entry: the table it leads to, or a fault. -/
def walkRootEntry (architecture : Architecture) (entry : Word) : Option Word :=
  if entry.getLsbD 0 then
    match architecture with
    | .x86_64 => some (entry &&& 0x000ffffffffff000)
    | .aarch64 => some (entry &&& descriptorAddressMask)
  else none

/-- Every address space faults on the addresses whose root index is 511. -/
def OwnersFault (p : Platform) (st : ProcState) : Prop :=
  ∀ root, walkRootEntry p.architecture (st.owners root) = none

theorem walkRootEntry_eq_none_iff (architecture : Architecture) (entry : Word) :
    walkRootEntry architecture entry = none ↔ entry.getLsbD 0 = false := by
  unfold walkRootEntry
  cases entry.getLsbD 0 <;> cases architecture <;> simp

/-- A context switch that moves no owner bit, or moves one other than bit 0. -/
def KeepsOwnersAbsent (p : Platform) (root : ProcessId → Word) (core : Nat) (next : ProcessId)
    (st : ProcState) : Prop :=
  p.smpEnabled = false ∨ root next = 0 ∨
    translationRoot p.architecture (st.hardwareRoot core) = root next ∨
    (st.processes next).coreAffinity &&& 63 ≠ 0

private theorem shiftLeft_one_getLsbD_zero {count : Word} (h : count.toNat < 64) :
    (shiftLeft 1 count).getLsbD 0 = decide (count = 0) := by
  unfold shiftLeft
  rw [Nat.mod_eq_of_lt h, BitVec.getLsbD_shiftLeft]
  by_cases hzero : count = 0
  · simp [hzero]
  · have hpos : 0 < count.toNat := by
      rw [Nat.pos_iff_ne_zero]
      exact fun heq => hzero (BitVec.eq_of_toNat_eq heq)
    rw [decide_eq_false hzero]
    simp [hpos]

theorem ownerBit_getLsbD_zero (process : Process) :
    (ownerBit process).getLsbD 0 = decide (process.coreAffinity &&& 63 = 0) := by
  apply shiftLeft_one_getLsbD_zero
  rw [BitVec.toNat_and]
  exact lt_of_le_of_lt Nat.and_le_right (by decide)

theorem owners_writeAddressSpaceOwners (st : ProcState) (root owners other : Word) :
    (writeAddressSpaceOwners st root owners).owners other =
      if other = root then owners else st.owners other := by
  unfold writeAddressSpaceOwners
  by_cases h : other = root <;> simp [h]

theorem replaceRoot_getLsbD_zero {p : Platform} {st : ProcState} {core : Nat}
    {currentRoot nextRoot owner : Word} (hsmp : p.smpEnabled = true) (hne : currentRoot ≠ nextRoot)
    (h : ∀ root, (st.owners root).getLsbD 0 = false) (root : Word) :
    ((replaceRoot p st core currentRoot nextRoot owner).owners root).getLsbD 0 =
      (decide (root = nextRoot) && owner.getLsbD 0) := by
  have hwrite : ∀ other, ((loadRoot (writeAddressSpaceOwners st nextRoot
      (st.owners nextRoot ||| owner)) core nextRoot).owners other).getLsbD 0 =
      (decide (other = nextRoot) && owner.getLsbD 0) := by
    intro other
    change ((writeAddressSpaceOwners st nextRoot _).owners other).getLsbD 0 = _
    rw [owners_writeAddressSpaceOwners]
    by_cases heq : other = nextRoot
    · rw [if_pos heq, BitVec.getLsbD_or, h, decide_eq_true heq, Bool.false_or, Bool.true_and]
    · rw [if_neg heq, h, decide_eq_false heq, Bool.false_and]
  unfold replaceRoot
  simp only [hsmp, if_true, true_and]
  split
  case isFalse => exact hwrite root
  case isTrue =>
    rw [owners_writeAddressSpaceOwners]
    split
    case isFalse => exact hwrite root
    case isTrue heq =>
      rw [heq, BitVec.getLsbD_and, hwrite, decide_eq_false hne, Bool.false_and, Bool.false_and]

theorem switchContext_ownersFault_iff {p : Platform} {root : ProcessId → Word} {core : Nat}
    {next : ProcessId} {st : ProcState} (h : OwnersFault p st) :
    OwnersFault p (switchContext p root core next st).state ↔
      KeepsOwnersAbsent p root core next st := by
  have habsent : ∀ r, (st.owners r).getLsbD 0 = false := fun r =>
    (walkRootEntry_eq_none_iff p.architecture _).mp (h r)
  unfold switchContext KeepsOwnersAbsent
  dsimp only
  split
  case isTrue hroot => exact iff_of_true h (.inr (.inl hroot))
  case isFalse hroot =>
    split
    case isTrue hloaded => exact iff_of_true h (.inr (.inr (.inl hloaded)))
    case isFalse hloaded =>
      by_cases hsmp : p.smpEnabled = true
      · simp only [OwnersFault, walkRootEntry_eq_none_iff, Outcome.ok_state,
          replaceRoot_getLsbD_zero hsmp hloaded habsent, ownerBit_getLsbD_zero, hsmp, hroot, hloaded]
        constructor
        · intro hall
          simpa using hall (root next)
        · intro hbit r
          simpa using fun _ => hbit
      · have hstate : ∀ owner, (replaceRoot p st core
            (translationRoot p.architecture (st.hardwareRoot core)) (root next) owner).owners =
            st.owners := by
          intro owner
          simp [replaceRoot, hsmp, loadRoot]
        refine iff_of_true (fun r => ?_) (.inl (by simpa using hsmp))
        rw [Outcome.ok_state, hstate]
        exact h r

/-! ### Runs of context switches -/

/-- A step that may touch the owner words: a context switch on any core to any process, or the
creation of an address space. Processes and cores change freely in between. -/
inductive OwnerStep (p : Platform) (allowed : (ProcessId → Word) → Nat → ProcessId → ProcState → Prop) :
    ProcState → ProcState → Prop
  | switchContext (root : ProcessId → Word) (core : Nat) (next : ProcessId) (st : ProcState)
      (h : allowed root core next st) :
      OwnerStep p allowed st (switchContext p root core next st).state
  | makeAddressSpace (address : Word) (st : ProcState) :
      OwnerStep p allowed st (writeAddressSpaceOwners st address 0)
  | other (st st' : ProcState) (howners : st'.owners = st.owners)
      (hroot : st'.hardwareRoot = st.hardwareRoot) : OwnerStep p allowed st st'

/-- Whatever the run, entry 511 of every root faults as long as no context switch loads a root
for core 0 on an SMP build. -/
theorem owners_run_fault {p : Platform} {st st' : ProcState} (hboot : ∀ root, st.owners root = 0)
    (hrun : Relation.ReflTransGen (OwnerStep p (KeepsOwnersAbsent p)) st st') :
    OwnersFault p st' := by
  induction hrun with
  | refl =>
    intro root
    rw [hboot, walkRootEntry_eq_none_iff]
    rfl
  | tail _ hstep ih =>
    cases hstep with
    | switchContext root core next st h => exact (switchContext_ownersFault_iff ih).mpr h
    | makeAddressSpace address st =>
      intro root
      rw [owners_writeAddressSpaceOwners]
      split
      · rw [walkRootEntry_eq_none_iff]
        rfl
      · exact ih root
    | other st st' howners _ =>
      intro root
      rw [howners]
      exact ih root

def bootCores : ProcState where
  processes id := if id = .user 0x1000 then { status := .ready } else
    { status := .ready, coreAffinity := 1 }
  cpus _ := {}
  hardwareRoot _ := 0x7000
  owners _ := 0
  processCount := 2

def bootRoots : ProcessId → Word := fun _ => 0x5000

def aarch64Platform : Platform := { samplePlatform with architecture := .aarch64 }

def sharedByTwoCores (p : Platform) : ProcState :=
  (switchContext p bootRoots 1 (.user 0x2000)
    (switchContext p bootRoots 0 (.user 0x1000) bootCores).state).state

/-- Entry 511 of a root shared by cores 0 and 1 holds `0b11`: a present entry on x86_64 and a
valid table descriptor on aarch64, leading to physical address 0. -/
theorem core_zero_owner_present :
    Relation.ReflTransGen (OwnerStep samplePlatform fun _ _ _ _ => True) bootCores
        (sharedByTwoCores samplePlatform) ∧
      (sharedByTwoCores samplePlatform).owners 0x5000 = 0b11 ∧
      walkRootEntry .x86_64 ((sharedByTwoCores samplePlatform).owners 0x5000) = some 0 ∧
      Relation.ReflTransGen (OwnerStep aarch64Platform fun _ _ _ _ => True) bootCores
        (sharedByTwoCores aarch64Platform) ∧
      (sharedByTwoCores aarch64Platform).owners 0x5000 = 0b11 ∧
      walkRootEntry .aarch64 ((sharedByTwoCores aarch64Platform).owners 0x5000) = some 0 := by
  have hrun : ∀ p, Relation.ReflTransGen (OwnerStep p fun _ _ _ _ => True) bootCores
      (sharedByTwoCores p) := fun p =>
    (Relation.ReflTransGen.single (.switchContext _ _ _ _ trivial)).tail
      (.switchContext _ _ _ _ trivial)
  exact ⟨hrun _, by decide, by decide, hrun _, by decide, by decide⟩

theorem owners_run_fault_core_one :
    (∀ root, bootCores.owners root = 0) ∧
      OwnersFault samplePlatform
        (switchContext samplePlatform bootRoots 1 (.user 0x2000) bootCores).state :=
  ⟨fun _ => rfl, @owners_run_fault samplePlatform bootCores _ (fun _ => rfl)
    (.single (.switchContext _ _ _ _ (.inr (.inr (.inr (by decide))))))⟩

end A9N.Hal
