import A9N.Hal.Aarch64Paging
import A9N.Hal.Owners

/-!
# Owner words and remote invalidation

The owner word of a root table is its entry 511, so context switches and mappings share one memory.
A switch moves the bit of its core from the old root to the new one.
-/

namespace A9N.Hal

open Kernel BitVec
open X86 (Memory MemoryMapError Objects UserIndex WritesEntry calculatePageTableIndex)

def addressSpaceOwnersIndex : Nat := 511

def convertMemoryMapToCapabilityError : MemoryMapError → CapabilityError
  | .illegalDepth | .invalidPageTable | .invalidFrame | .noSuchPageTable => .invalidDescriptor
  | .illegalAuthority => .permissionDenied
  | .alreadyMapped => .illegalOperation

inductive MapOperation
  | x86_64 (operation : X86.Operation)
  | aarch64 (operation : Aarch64.Operation)

namespace MapOperation

def run (memory : Memory) : MapOperation → Except MemoryMapError Memory
  | .x86_64 operation => (operation.outcome memory).result
  | .aarch64 operation => operation.run memory

def root : MapOperation → Word
  | .x86_64 operation => operation.root.address
  | .aarch64 operation => operation.root.address

def address : MapOperation → Word
  | .x86_64 operation => operation.address
  | .aarch64 operation => operation.address

def Invocable (objects : Objects) : Architecture → MapOperation → Prop
  | .x86_64, .x86_64 operation => operation.Invocable objects
  | .aarch64, .aarch64 operation => operation.Invocable objects
  | _, _ => False

/-- The walk of the operation meets no large leaf above its depth. Only x86_64 would go on. -/
def Clear (memory : Memory) : MapOperation → Prop
  | .x86_64 operation => operation.Clear memory
  | .aarch64 _ => True

end MapOperation

/-! ### The shootdown -/

/-- The loop of `shootdown_remote_tlb` from `core` on; the state is the cores interrupted so far. -/
def shootdownLoop (sendIpi : Nat → Bool) :
    Nat → Nat → Word → List Nat → Outcome CapabilityError (List Nat) Unit
  | 0, _, _, sent => .ok () sent
  | steps + 1, core, owners, sent =>
    if owners = 0 then .ok () sent
    else if owners.getLsbD 0 then
      if sendIpi core then shootdownLoop sendIpi steps (core + 1) (owners >>> 1) (core :: sent)
      else .error .fatal sent
    else shootdownLoop sendIpi steps (core + 1) (owners >>> 1) sent

def shootdownRemoteTlb (p : Platform) (sendIpi : Nat → Bool) (owner : Process) (owners : Word) :
    Outcome CapabilityError (List Nat) Unit :=
  if p.smpEnabled then shootdownLoop sendIpi 64 0 (owners &&& ~~~ownerBit owner) []
  else .ok () []

/-- `complete_address_space_update` of one operation: the memory it leaves and the cores it has
interrupted. -/
def completeAddressSpaceUpdate (p : Platform) (sendIpi : Nat → Bool) (owner : Process)
    (operation : MapOperation) (memory : Memory) :
    Outcome CapabilityError (Memory × List Nat) Unit :=
  match operation.run memory with
  | .error e => .error (convertMemoryMapToCapabilityError e) (memory, [])
  | .ok memory' =>
    let o := shootdownRemoteTlb p sendIpi owner (memory' operation.root addressSpaceOwnersIndex)
    ⟨o.result, (memory', o.state)⟩

theorem shootdownLoop_post (sendIpi : Nat → Bool) (steps core : Nat) (owners : Word)
    (sent : List Nat) :
    (shootdownLoop sendIpi steps core owners sent).Post
      (fun _ sent' => ∀ c, c ∈ sent' ↔ c ∈ sent ∨ ∃ i < steps, c = core + i ∧
        owners.getLsbD i = true) (fun _ _ => True) := by
  induction steps generalizing core owners sent with
  | zero =>
    intro c
    simp [shootdownLoop]
  | succ steps ih =>
    have hshift : ∀ i, (owners >>> 1).getLsbD i = owners.getLsbD (i + 1) := by
      intro i
      rw [getLsbD_ushiftRight, Nat.add_comm]
    -- the bits above the first one are those of the shifted word
    have hsplit : ∀ c, (∃ i < steps + 1, c = core + i ∧ owners.getLsbD i = true) ↔
        c = core ∧ owners.getLsbD 0 = true ∨
          ∃ i < steps, c = core + 1 + i ∧ (owners >>> 1).getLsbD i = true := by
      intro c
      constructor
      · rintro ⟨_ | i, hi, rfl, hbit⟩
        · exact .inl ⟨rfl, hbit⟩
        · exact .inr ⟨i, by omega, by omega, by rwa [hshift]⟩
      · rintro (⟨rfl, hbit⟩ | ⟨i, hi, rfl, hbit⟩)
        · exact ⟨0, by omega, rfl, hbit⟩
        · exact ⟨i + 1, by omega, by omega, by rwa [← hshift]⟩
    unfold shootdownLoop
    split
    next hzero =>
      intro c
      simp [hzero]
    · split
      next hbit =>
        split
        · refine (ih (core + 1) (owners >>> 1) (core :: sent)).mono (fun _ sent' hsent c => ?_)
            fun _ _ h => h
          rw [hsent, hsplit, List.mem_cons]
          tauto
        · trivial
      next hbit =>
        refine (ih (core + 1) (owners >>> 1) sent).mono (fun _ sent' hsent c => ?_)
          fun _ _ h => h
        rw [hsent, hsplit]
        tauto

theorem ownerBit_getLsbD {process : Process} (core : Nat)
    (haffinity : process.coreAffinity.toNat < 64) :
    (ownerBit process).getLsbD core = decide (core = process.coreAffinity.toNat) := by
  have hcount : (process.coreAffinity &&& 63).toNat = process.coreAffinity.toNat := by
    rw [toNat_and, show (63 : Word).toNat = 2 ^ 6 - 1 from rfl,
      Nat.and_two_pow_sub_one_eq_mod, Nat.mod_eq_of_lt haffinity]
  unfold ownerBit shiftLeft
  rw [hcount, Nat.mod_eq_of_lt haffinity, getLsbD_shiftLeft]
  by_cases hlt : core < process.coreAffinity.toNat
  · simp [hlt, hlt.ne]
  · by_cases heq : core = process.coreAffinity.toNat
    · simp [heq, haffinity]
    · simp [heq]
      omega

theorem shootdownRemoteTlb_sent {p : Platform} {sendIpi : Nat → Bool} {owner : Process}
    {owners : Word} (hsmp : p.smpEnabled = true) (haffinity : owner.coreAffinity.toNat < 64)
    (hok : (shootdownRemoteTlb p sendIpi owner owners).result = .ok ()) (core : Nat) :
    core ∈ (shootdownRemoteTlb p sendIpi owner owners).state ↔
      core < 64 ∧ core ≠ owner.coreAffinity.toNat ∧ owners.getLsbD core = true := by
  have hpost := shootdownLoop_post sendIpi 64 0 (owners &&& ~~~ownerBit owner) []
  unfold shootdownRemoteTlb at hok ⊢
  rw [if_pos hsmp] at hok ⊢
  unfold Outcome.Post at hpost
  rw [hok] at hpost
  rw [hpost core]
  constructor
  · rintro (hnil | ⟨i, hi, rfl, hbit⟩)
    · cases hnil
    · rw [getLsbD_and, getLsbD_not, ownerBit_getLsbD i haffinity] at hbit
      simp_all
  · rintro ⟨hlt, hne, hbit⟩
    refine .inr ⟨core, hlt, (Nat.zero_add core).symm, ?_⟩
    rw [getLsbD_and, getLsbD_not, ownerBit_getLsbD core haffinity]
    simp [hlt, hne, hbit]

/-! ### Switches and mappings on one memory -/

/-- The scheduling state beside the memory; the owner words are read from the memory. -/
structure Translation where
  proc : ProcState
  memory : Memory

namespace Translation

variable (p : Platform)

def withOwners (t : Translation) : ProcState :=
  { t.proc with owners := fun root => t.memory root addressSpaceOwnersIndex }

def store (t : Translation) (proc : ProcState) : Translation where
  proc := proc
  memory page index :=
    if index = addressSpaceOwnersIndex then proc.owners page else t.memory page index

/-- `switch_context` on `core`. -/
def switch (root : ProcessId → Word) (core : Nat) (next : ProcessId) (t : Translation) :
    Translation :=
  t.store (switchContext p root core next t.withOwners).state

theorem store_memory (t : Translation) (proc : ProcState) (page : Word) (index : Nat) :
    (t.store proc).memory page index =
      if index = addressSpaceOwnersIndex then proc.owners page else t.memory page index := rfl

def loaded (t : Translation) (core : Nat) : Word :=
  translationRoot p.architecture (t.proc.hardwareRoot core)

/-- `make_address_space`: the user half and the owner word are cleared. -/
def makeAddressSpace (t : Translation) (root : Word) (kernelHalf : Nat → Word) : Translation :=
  { t with memory := Function.update t.memory root fun index =>
      if index < 256 ∨ index = addressSpaceOwnersIndex then 0 else kernelHalf index }

end Translation

/-- The steps of any number of cores. `allowed` restricts the mapping operations. -/
inductive TranslationStep (p : Platform) (objects : Objects)
    (allowed : Memory → MapOperation → Prop) : Translation → Translation → Prop
  | switch {t : Translation} (root : ProcessId → Word) (core : Nat) (next : ProcessId)
      (hcore : core < 64) (haffinity : (t.proc.processes next).coreAffinity.toNat = core)
      (hroot : root next = 0 ∨ objects.root (root next)) :
      TranslationStep p objects allowed t (t.switch p root core next)
  | update {t : Translation} (sendIpi : Nat → Bool) (owner : Process) (operation : MapOperation)
      (hinvoke : operation.Invocable objects p.architecture) (hallowed : allowed t.memory operation) :
      TranslationStep p objects allowed t { t with
        memory := (completeAddressSpaceUpdate p sendIpi owner operation t.memory).state.1 }
  | userWrite {t : Translation} (page : Word) (index : Nat) (value : Word)
      (hpage : objects.FramePage page) :
      TranslationStep p objects allowed t { t with memory := t.memory.write page index value }
  | makeAddressSpace {t : Translation} (root : Word) (kernelHalf : Nat → Word)
      (hroot : objects.root root) (hunused : ∀ core, t.loaded p core ≠ root) :
      TranslationStep p objects allowed t (t.makeAddressSpace root kernelHalf)
  | schedule {t : Translation} (proc : ProcState)
      (hroots : proc.hardwareRoot = t.proc.hardwareRoot) :
      TranslationStep p objects allowed t { t with proc := proc }

/-! ### What a mapping operation leaves alone -/

def TypedFor (objects : Objects) (memory : Memory) : Architecture → Prop
  | .x86_64 => X86.Typed objects memory
  | .aarch64 => Aarch64.Typed objects memory

variable {objects : Objects} {memory memory' : Memory} {architecture : Architecture}

theorem TypedFor.of_kept (h : TypedFor objects memory architecture)
    (hkept : ∀ page depth index, objects.TableAt page depth → UserIndex depth index →
      memory' page index = memory page index ∨ memory' page index = 0) :
    TypedFor objects memory' architecture := by
  cases architecture with
  | x86_64 =>
    intro page depth index htable hdepth hindex hpresent
    rcases hkept page _ index htable hindex with hsame | hzero
    · rw [hsame] at hpresent ⊢
      exact h page depth index htable hdepth hindex hpresent
    · rw [hzero, X86.present_zero] at hpresent
      cases hpresent
  | aarch64 =>
    intro page depth index htable hdepth hindex hvalid
    rcases hkept page _ index htable hindex with hsame | hzero
    · rw [hsame] at hvalid ⊢
      exact h page depth index htable hdepth hindex hvalid
    · rw [hzero] at hvalid
      exact absurd hvalid (by decide)

theorem TypedFor.of_zeroed (h : X86.Zeroed objects memory) (architecture : Architecture) :
    TypedFor objects memory architecture := by
  cases architecture with
  | x86_64 => exact h.typed
  | aarch64 =>
    intro page depth index htable _ hindex hvalid
    rw [h page _ index htable hindex] at hvalid
    exact absurd hvalid (by decide)

theorem MapOperation.run_spec {operation : MapOperation}
    (htyped : TypedFor objects memory architecture)
    (hinvoke : operation.Invocable objects architecture) (hclear : operation.Clear memory)
    (hok : operation.run memory = .ok memory') :
    TypedFor objects memory' architecture ∧
      WritesEntry objects operation.address memory memory' := by
  cases operation with
  | x86_64 operation =>
    cases architecture with
    | aarch64 => exact hinvoke.elim
    | x86_64 =>
      have hpost := X86.Operation.outcome_post htyped hinvoke hclear
      unfold Outcome.Post at hpost
      rw [show (operation.outcome memory).result = .ok memory' from hok] at hpost
      exact ⟨hpost.1, X86.Operation.outcome_writes htyped hinvoke hclear hok⟩
  | aarch64 operation =>
    cases architecture with
    | x86_64 => exact hinvoke.elim
    | aarch64 => exact Aarch64.Operation.run_spec htyped hinvoke hok

section

variable {operation : MapOperation} (hinvoke : operation.Invocable objects architecture)
include hinvoke

theorem MapOperation.userIndex (depth : Nat) :
    UserIndex depth (calculatePageTableIndex operation.address depth) := by
  cases operation with
  | x86_64 operation =>
    cases architecture with
    | aarch64 => exact hinvoke.elim
    | x86_64 => exact X86.userIndex_calculatePageTableIndex hinvoke.2.1 depth
  | aarch64 operation =>
    cases architecture with
    | x86_64 => exact hinvoke.elim
    | aarch64 => exact Aarch64.userIndex_calculatePageTableIndex hinvoke.2.1 depth

theorem MapOperation.owners_eq
    (hwrites : WritesEntry objects operation.address memory memory') {root : Word}
    (hroot : objects.root root) :
    memory' root addressSpaceOwnersIndex = memory root addressSpaceOwnersIndex := by
  obtain ⟨table, depth, entry, htable, rfl⟩ := hwrites
  rw [X86.write_apply, if_neg]
  rintro ⟨rfl, hindex⟩
  have hdepth : depth = X86.pml4 := htable.unique (.inl ⟨hroot, rfl⟩)
  have hlt := operation.userIndex hinvoke depth hdepth
  rw [← hindex] at hlt
  exact absurd hlt (by decide)

end

/-! ### The invariant -/

/-- Every address space has a root that the translation register holds unchanged. -/
def RootsCanonical (objects : Objects) (architecture : Architecture) : Prop :=
  ∀ root, objects.root root → root ≠ 0 ∧ translationRoot architecture root = root

structure OwnersExact (p : Platform) (objects : Objects) (t : Translation) : Prop where
  typed : TypedFor objects t.memory p.architecture
  outside : ∀ core depth, ¬ objects.pageTable (t.loaded p core) depth
  owners : ∀ root, objects.root root → ∀ core, core < 64 →
    (t.memory root addressSpaceOwnersIndex).getLsbD core = decide (t.loaded p core = root)

/-- No core has loaded an address space yet, and every table is clear. -/
structure TranslationBoot (p : Platform) (objects : Objects) (t : Translation) : Prop where
  zeroed : X86.Zeroed objects t.memory
  outside : ∀ core depth, ¬ objects.TableAt (t.loaded p core) depth
  owners : ∀ root, objects.root root → t.memory root addressSpaceOwnersIndex = 0

variable {p : Platform} {t : Translation}

theorem TranslationBoot.ownersExact (h : TranslationBoot p objects t) : OwnersExact p objects t where
  typed := .of_zeroed h.zeroed p.architecture
  outside core depth htable := h.outside core depth (.inr htable)
  owners root hroot core _ := by
    have hloaded : t.loaded p core ≠ root := by
      rintro rfl
      exact h.outside core X86.pml4 (.inl ⟨hroot, rfl⟩)
    rw [h.owners root hroot, decide_eq_false hloaded]
    simp

theorem replaceRoot_owners (hsmp : p.smpEnabled = true) (st : ProcState) (core : Nat)
    (currentRoot nextRoot owner other : Word) :
    (replaceRoot p st core currentRoot nextRoot owner).owners other =
      let added := if other = nextRoot then st.owners nextRoot ||| owner else st.owners other
      if other = currentRoot ∧ (p.architecture = .x86_64 ∨ currentRoot ≠ 0) then
        added &&& ~~~owner
      else added := by
  have hloaded : ∀ other, (loadRoot (writeAddressSpaceOwners st nextRoot
      (st.owners nextRoot ||| owner)) core nextRoot).owners other =
        if other = nextRoot then st.owners nextRoot ||| owner else st.owners other :=
    fun other => owners_writeAddressSpaceOwners _ _ _ _
  unfold replaceRoot
  simp only [hsmp, if_true, true_and]
  by_cases hclears : p.architecture = .x86_64 ∨ currentRoot ≠ 0
  · rw [if_pos hclears, owners_writeAddressSpaceOwners]
    by_cases hother : other = currentRoot
    · rw [if_pos hother, if_pos ⟨hother, hclears⟩, hloaded, hother]
    · rw [if_neg hother, if_neg (fun h => hother h.1), hloaded]
  · rw [if_neg hclears, if_neg (fun h => hclears h.2), hloaded]

theorem replaceRoot_hardwareRoot (st : ProcState) (core : Nat) (currentRoot nextRoot owner : Word) :
    (replaceRoot p st core currentRoot nextRoot owner).hardwareRoot =
      Function.update st.hardwareRoot core nextRoot := by
  unfold replaceRoot
  dsimp only
  split_ifs <;> rfl

namespace OwnersExact

variable (h : OwnersExact p objects t)

include h

section

variable (hsmp : p.smpEnabled = true) (hcanonical : RootsCanonical objects p.architecture)
include hsmp hcanonical

theorem replaceRoot {core : Nat} {next : ProcessId} {nextRoot : Word} (hcore : core < 64)
    (haffinity : (t.proc.processes next).coreAffinity.toNat = core)
    (hroot : objects.root nextRoot) (hne : t.loaded p core ≠ nextRoot) :
    OwnersExact p objects (t.store (Hal.replaceRoot p t.withOwners core (t.loaded p core) nextRoot
      (ownerBit (t.proc.processes next)))) := by
  have hbit : ∀ c, (ownerBit (t.proc.processes next)).getLsbD c = decide (c = core) := by
    intro c
    rw [ownerBit_getLsbD c (by omega), haffinity]
  have hmemory : ∀ page, (t.store (Hal.replaceRoot p t.withOwners core (t.loaded p core) nextRoot
      (ownerBit (t.proc.processes next)))).memory page addressSpaceOwnersIndex =
        (Hal.replaceRoot p t.withOwners core (t.loaded p core) nextRoot
          (ownerBit (t.proc.processes next))).owners page := by
    intro page
    rw [Translation.store_memory, if_pos rfl]
  have hloaded : ∀ c, (t.store (Hal.replaceRoot p t.withOwners core (t.loaded p core) nextRoot
      (ownerBit (t.proc.processes next)))).loaded p c =
        if c = core then nextRoot else t.loaded p c := by
    intro c
    unfold Translation.loaded Translation.store
    rw [replaceRoot_hardwareRoot]
    by_cases hc : c = core
    · rw [hc, Function.update_self, if_pos rfl, (hcanonical nextRoot hroot).2]
    · rw [Function.update_of_ne hc, if_neg hc]
      rfl
  refine ⟨h.typed.of_kept fun page depth index htable hindex => .inl ?_, fun c depth => ?_,
    fun root hr c hc => ?_⟩
  · -- a Page Table is neither of the two roots, and in a root the entry is out of reach
    by_cases hlast : index = addressSpaceOwnersIndex
    · subst hlast
      rcases htable with ⟨-, rfl⟩ | htable
      · exact absurd (hindex rfl) (by decide)
      · have hnext : page ≠ nextRoot := fun heq => objects.root_not_table (heq ▸ hroot) htable
        have hcurrent : page ≠ t.loaded p core := fun heq => h.outside core depth (heq ▸ htable)
        rw [hmemory, replaceRoot_owners hsmp]
        simp [hnext, hcurrent, Translation.withOwners]
    · exact if_neg hlast
  · rw [hloaded]
    split_ifs
    · exact objects.root_not_table hroot
    · exact h.outside c depth
  · have hnonzero := (hcanonical root hr).1
    have hold := h.owners root hr c hc
    rw [hloaded, hmemory, replaceRoot_owners hsmp]
    dsimp only [Translation.withOwners]
    by_cases hnext : root = nextRoot
    · subst hnext
      rw [if_neg (fun hboth => hne hboth.1.symm), if_pos rfl, getLsbD_or, hold, hbit]
      by_cases heq : c = core <;> simp [heq]
    · rw [if_neg hnext]
      by_cases hcurrent : root = t.loaded p core
      · rw [if_pos ⟨hcurrent, .inr (hcurrent ▸ hnonzero)⟩, getLsbD_and, getLsbD_not, hold, hbit]
        by_cases heq : c = core
        · simp [heq, Ne.symm hnext]
        · simp [heq, hc]
      · rw [if_neg (fun hboth => hcurrent hboth.1), hold]
        by_cases heq : c = core
        · simp [heq, Ne.symm hnext, Ne.symm hcurrent]
        · simp [heq]

theorem switch {root : ProcessId → Word} {core : Nat} {next : ProcessId} (hcore : core < 64)
    (haffinity : (t.proc.processes next).coreAffinity.toNat = core)
    (hroot : root next = 0 ∨ objects.root (root next)) :
    OwnersExact p objects (t.switch p root core next) := by
  have hsame : t.store t.withOwners = ⟨t.withOwners, t.memory⟩ := by
    unfold Translation.store Translation.withOwners
    congr 1
    funext page index
    split_ifs with hindex
    · rw [hindex]
    · rfl
  have hkept : OwnersExact p objects ⟨t.withOwners, t.memory⟩ := ⟨h.typed, h.outside, h.owners⟩
  unfold Translation.switch switchContext
  dsimp only
  split
  · rw [Outcome.error_state, hsame]
    exact hkept
  next hnonzero =>
    split
    · rw [Outcome.ok_state, hsame]
      exact hkept
    next hne => exact h.replaceRoot hsmp hcanonical hcore haffinity (hroot.resolve_left hnonzero) hne

end

/-- A mapping operation writes no owner word, so the cores it interrupts are those that have the
address space loaded. -/
theorem run {operation : MapOperation} (hinvoke : operation.Invocable objects p.architecture)
    (hclear : operation.Clear t.memory) (hok : operation.run t.memory = .ok memory') :
    OwnersExact p objects { t with memory := memory' } := by
  obtain ⟨htyped, hwrites⟩ := MapOperation.run_spec h.typed hinvoke hclear hok
  refine ⟨htyped, h.outside, fun root hroot core hcore => ?_⟩
  have hword := operation.owners_eq hinvoke hwrites hroot
  exact (congrArg (getLsbD · core) hword).trans (h.owners root hroot core hcore)

theorem completeAddressSpaceUpdate {sendIpi : Nat → Bool} {owner : Process}
    {operation : MapOperation} (hinvoke : operation.Invocable objects p.architecture)
    (hclear : operation.Clear t.memory) :
    OwnersExact p objects { t with
      memory := (completeAddressSpaceUpdate p sendIpi owner operation t.memory).state.1 } := by
  unfold Hal.completeAddressSpaceUpdate
  split
  · exact h
  next memory' hok => exact h.run hinvoke hclear hok

theorem makeAddressSpace {root : Word} {kernelHalf : Nat → Word} (hroot : objects.root root)
    (hunused : ∀ core, t.loaded p core ≠ root) :
    OwnersExact p objects (t.makeAddressSpace root kernelHalf) := by
  have hmemory : ∀ page index, (t.makeAddressSpace root kernelHalf).memory page index =
      if page = root then
        if index < 256 ∨ index = addressSpaceOwnersIndex then 0 else kernelHalf index
      else t.memory page index := by
    intro page index
    unfold Translation.makeAddressSpace
    by_cases hpage : page = root <;> simp [hpage]
  refine ⟨h.typed.of_kept fun page depth index htable hindex => ?_, h.outside,
    fun other hother core hcore => ?_⟩
  · rw [hmemory]
    by_cases hpage : page = root
    · rw [hpage] at htable
      have hlow := hindex (htable.unique (.inl ⟨hroot, rfl⟩))
      rw [if_pos hpage, if_pos (.inl hlow)]
      exact .inr rfl
    · rw [if_neg hpage]
      exact .inl rfl
  · have hloaded : (t.makeAddressSpace root kernelHalf).loaded p core = t.loaded p core := rfl
    rw [hloaded, hmemory]
    by_cases heq : other = root
    · rw [if_pos heq, if_pos (.inr rfl), heq, decide_eq_false (hunused core)]
      simp
    · rw [if_neg heq]
      exact h.owners other hother core hcore

theorem step (hsmp : p.smpEnabled = true) (hcanonical : RootsCanonical objects p.architecture)
    {t' : Translation}
    (hstep : TranslationStep p objects (fun memory operation => operation.Clear memory) t t') :
    OwnersExact p objects t' := by
  cases hstep with
  | switch root core next hcore haffinity hroot =>
    exact h.switch hsmp hcanonical hcore haffinity hroot
  | update sendIpi owner operation hinvoke hclear =>
    exact h.completeAddressSpaceUpdate hinvoke hclear
  | userWrite page index value hpage =>
    have hother : ∀ table depth i, objects.TableAt table depth →
        t.memory.write page index value table i = t.memory table i := by
      intro table depth i htable
      rw [X86.write_apply, if_neg]
      rintro ⟨rfl, -⟩
      exact hpage.not_tableAt depth htable
    refine ⟨h.typed.of_kept fun table depth i htable _ => .inl (hother table depth i htable),
      h.outside, fun root hroot core hcore => ?_⟩
    have hword := hother root X86.pml4 addressSpaceOwnersIndex (.inl ⟨hroot, rfl⟩)
    exact (congrArg (getLsbD · core) hword).trans (h.owners root hroot core hcore)
  | makeAddressSpace root kernelHalf hroot hunused => exact h.makeAddressSpace hroot hunused
  | schedule proc hroots =>
    have hloaded : ∀ core, Translation.loaded p { t with proc := proc } core = t.loaded p core := by
      intro core
      unfold Translation.loaded
      rw [hroots]
    refine ⟨h.typed, fun core => ?_, fun root hroot core hcore => ?_⟩
    · rw [hloaded]
      exact h.outside core
    · rw [hloaded]
      exact h.owners root hroot core hcore

end OwnersExact

/-- In every interleaving of context switches, mapping operations that meet no large leaf, user
writes and creations of address spaces, the owner words say which cores have loaded what, and a
mapping operation that succeeds has interrupted the other cores that have its address space loaded
and no more. -/
theorem run_ownersExact {t₀ : Translation} (hsmp : p.smpEnabled = true)
    (hcanonical : RootsCanonical objects p.architecture) (hboot : TranslationBoot p objects t₀)
    (hrun : Relation.ReflTransGen
      (TranslationStep p objects fun memory operation => operation.Clear memory) t₀ t) :
    (∀ root, objects.root root → ∀ core, core < 64 →
      ((t.memory root addressSpaceOwnersIndex).getLsbD core = true ↔ t.loaded p core = root)) ∧
    ∀ (sendIpi : Nat → Bool) (owner : Process) (operation : MapOperation),
      owner.coreAffinity.toNat < 64 → operation.Invocable objects p.architecture →
      operation.Clear t.memory →
      (completeAddressSpaceUpdate p sendIpi owner operation t.memory).result = .ok () →
      ∀ core, core ∈ (completeAddressSpaceUpdate p sendIpi owner operation t.memory).state.2 ↔
        core < 64 ∧ core ≠ owner.coreAffinity.toNat ∧ t.loaded p core = operation.root := by
  have hexact : OwnersExact p objects t := by
    induction hrun with
    | refl => exact hboot.ownersExact
    | tail _ hstep ih => exact ih.step hsmp hcanonical hstep
  refine ⟨fun root hroot core hcore => ?_, ?_⟩
  · rw [hexact.owners root hroot core hcore, decide_eq_true_iff]
  · intro sendIpi owner operation haffinity hinvoke hclear hok core
    have hroot : objects.root operation.root := by
      cases operation with
      | x86_64 operation =>
        cases hp : p.architecture with
        | x86_64 => rw [hp] at hinvoke; exact hinvoke.1
        | aarch64 => rw [hp] at hinvoke; exact hinvoke.elim
      | aarch64 operation =>
        cases hp : p.architecture with
        | x86_64 => rw [hp] at hinvoke; exact hinvoke.elim
        | aarch64 => rw [hp] at hinvoke; exact hinvoke.1
    unfold completeAddressSpaceUpdate at hok ⊢
    split at hok
    · cases hok
    next memory' hmapped =>
      have hafter := (hexact.run hinvoke hclear hmapped).owners operation.root hroot
      dsimp only at hok ⊢
      rw [shootdownRemoteTlb_sent hsmp haffinity hok]
      constructor
      · rintro ⟨hlt, hne, hbit⟩
        exact ⟨hlt, hne, of_decide_eq_true ((hafter core hlt).symm.trans hbit)⟩
      · rintro ⟨hlt, hne, hloaded⟩
        exact ⟨hlt, hne, (hafter core hlt).trans (decide_eq_true hloaded)⟩

/-! ### An owner word reached through a large leaf -/

/-- A root, the Page Table above a 1 GiB leaf, a frame of that size and a small one. -/
def hugeLeafObjects : Objects where
  root address := address = 0x1000
  pageTable address depth := address = 0x2000 ∧ depth = 3
  frame f := f = ⟨0x40000000, 30⟩ ∨ f = ⟨0x5000, 12⟩
  table_canonical := by
    rintro address depth ⟨rfl, -⟩
    decide
  table_depth := by
    rintro address depth depth' ⟨-, rfl⟩ ⟨-, rfl⟩
    rfl
  root_not_table := by
    rintro address depth rfl ⟨h, -⟩
    exact absurd h (by decide)
  frame_not_table := by
    rintro f page depth (rfl | rfl) hle _ ⟨rfl, -⟩ <;> exact absurd hle (by decide)
  frame_not_root := by
    rintro f page (rfl | rfl) hle _ rfl <;> exact absurd hle (by decide)

def bootTranslation : Translation := ⟨bootCores, X86.zeroMemory⟩

def loadedByCoreOne : Translation :=
  bootTranslation.switch samplePlatform (fun _ => 0x1000) 1 (.user 0x2000)

def Translation.update (t : Translation) (operation : X86.Operation) : Translation :=
  { t with memory := (completeAddressSpaceUpdate samplePlatform (fun _ => true)
      (t.proc.processes (.user 0x2000)) (.x86_64 operation) t.memory).state.1 }

/-- The 1 GiB frame is mapped at address 0, and the user makes its first word an entry for the
page of the root. -/
def forgedDirectory : Translation :=
  let t := loadedByCoreOne.update (.mapPageTable X86.sampleRoot ⟨0x2000, 3⟩ 0 7)
  let t := t.update (.mapFrame X86.sampleRoot ⟨0x40000000, 30⟩ 0 3)
  { t with memory := t.memory.write 0x40000000 0 0x1007 }

/-- The small frame, to be mapped 4 KiB below the end of the first 2 MiB. -/
def mapBelowForged : X86.Operation := .mapFrame X86.sampleRoot ⟨0x5000, 12⟩ 0x1ff000 3

theorem bootTranslation_boot : TranslationBoot samplePlatform hugeLeafObjects bootTranslation where
  zeroed _ _ _ _ _ := rfl
  outside core depth := by
    have hloaded : bootTranslation.loaded samplePlatform core = 0x7000 := rfl
    rw [hloaded]
    rintro (⟨h, -⟩ | ⟨h, -⟩) <;> cases h
  owners _ _ := rfl

theorem hugeLeafObjects_canonical : RootsCanonical hugeLeafObjects samplePlatform.architecture := by
  rintro root rfl
  decide

/-- Mapping the small frame writes its entry over the owner word: core 0 is in the word and has
been interrupted, with another root loaded. -/
theorem mapFrame_overwrites_owners :
    TranslationBoot samplePlatform hugeLeafObjects bootTranslation ∧
      Relation.ReflTransGen (TranslationStep samplePlatform hugeLeafObjects fun _ _ => True)
        bootTranslation forgedDirectory ∧
      MapOperation.Invocable hugeLeafObjects samplePlatform.architecture (.x86_64 mapBelowForged) ∧
      forgedDirectory.memory 0x1000 addressSpaceOwnersIndex = 0b10 ∧
      (forgedDirectory.update mapBelowForged).memory 0x1000 addressSpaceOwnersIndex =
        0x8000000000005007 ∧
      (forgedDirectory.update mapBelowForged).loaded samplePlatform 0 = 0x7000 ∧
      0 ∈ (completeAddressSpaceUpdate samplePlatform (fun _ => true)
        (forgedDirectory.proc.processes (.user 0x2000)) (.x86_64 mapBelowForged)
        forgedDirectory.memory).state.2 := by
  refine ⟨bootTranslation_boot, ?_, ⟨rfl, by decide, .inr rfl⟩, by decide +kernel,
    by decide +kernel, by decide +kernel, by decide +kernel⟩
  have hswitch : TranslationStep samplePlatform hugeLeafObjects (fun _ _ => True) bootTranslation
      loadedByCoreOne := .switch _ 1 _ (by decide) (by decide) (.inr rfl)
  have hupdate : ∀ (t : Translation) (operation : X86.Operation),
      operation.Invocable hugeLeafObjects →
      TranslationStep samplePlatform hugeLeafObjects (fun _ _ => True) t (t.update operation) :=
    fun t operation hinvoke => .update _ _ (.x86_64 operation) hinvoke trivial
  exact (((Relation.ReflTransGen.single hswitch).tail
    (hupdate _ (.mapPageTable X86.sampleRoot ⟨0x2000, 3⟩ 0 7) ⟨rfl, by decide, rfl, rfl⟩)).tail
    (hupdate _ (.mapFrame X86.sampleRoot ⟨0x40000000, 30⟩ 0 3) ⟨rfl, by decide, .inl rfl⟩)).tail
    (.userWrite 0x40000000 0 0x1007 ⟨_, .inl rfl, by decide, by decide⟩)

theorem run_ownersExact_loadedByCoreOne :
    loadedByCoreOne.loaded samplePlatform 1 = 0x1000 ∧
      (loadedByCoreOne.memory 0x1000 addressSpaceOwnersIndex).getLsbD 1 = true ∧
      ∀ core, core ∈ (completeAddressSpaceUpdate samplePlatform (fun _ => true) {}
          (.x86_64 (.mapPageTable X86.sampleRoot ⟨0x2000, 3⟩ 0 7))
          loadedByCoreOne.memory).state.2 ↔
        core < 64 ∧ core ≠ 0 ∧ loadedByCoreOne.loaded samplePlatform core = 0x1000 := by
  have hexact := run_ownersExact (p := samplePlatform) (t := loadedByCoreOne) rfl
    hugeLeafObjects_canonical bootTranslation_boot
    (.single (.switch _ 1 _ (by decide) (by decide) (.inr rfl)))
  have hloaded : loadedByCoreOne.loaded samplePlatform 1 = 0x1000 := by decide +kernel
  refine ⟨hloaded, (hexact.1 0x1000 rfl 1 (by decide)).mpr hloaded, ?_⟩
  refine hexact.2 (fun _ => true) {} (.x86_64 (.mapPageTable X86.sampleRoot ⟨0x2000, 3⟩ 0 7))
    (by decide) ⟨rfl, by decide, rfl, rfl⟩ ?_ (by decide +kernel)
  intro depth hdepth
  cases hdepth
  exact .inl (by decide)

end A9N.Hal
