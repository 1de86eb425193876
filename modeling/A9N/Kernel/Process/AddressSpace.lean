import A9N.Kernel.Process.Touches

/-!
# Address-space consistency of process switches

A core is consistent when the translation root it has loaded is the one of its current
process. The switch routines make the next process current before they load its root, and the
load refuses a null root; only `try_schedule_and_switch` falls back to the idle process then.
-/

namespace A9N.Kernel

open Hal Outcome

namespace ProcState

/-- The root loaded on `core` is the root of the core's current process. -/
def Consistent (p : Platform) (root : ProcessId → Word) (core : Nat) (st : ProcState) : Prop :=
  ∃ current, (st.cpus core).currentProcess = some current ∧
    translationRoot p.architecture (st.hardwareRoot core) =
      translationRoot p.architecture (root current)

structure SameContext (st st' : ProcState) : Prop where
  hardwareRoot : st'.hardwareRoot = st.hardwareRoot
  currentProcess : ∀ core, (st'.cpus core).currentProcess = (st.cpus core).currentProcess
  isIdle : ∀ core, (st'.cpus core).isIdle = (st.cpus core).isIdle

namespace SameContext

variable {st st' st'' : ProcState}

theorem of_touches (h : Touches (fun grant => ∀ core, grant ≠ .current core) st st') :
    SameContext st st' where
  hardwareRoot := (h.roots.resolve_right (by simp)).1
  currentProcess := h.currentProcess
  isIdle core := ((h.current core).resolve_right (by simp)).2

theorem consistent_iff (h : SameContext st st') {p : Platform} {root : ProcessId → Word}
    {core : Nat} : st'.Consistent p root core ↔ st.Consistent p root core := by
  unfold Consistent
  rw [h.hardwareRoot, h.currentProcess core]

end SameContext

/-! ### Which process a direct switch selects -/

section Selection

variable {st : ProcState} {core : Nat}

def NoHigherReady (st : ProcState) (core : Nat) (priority : Int) : Prop :=
  ∀ i : Nat, priority < i → (i : Int) ≤ st.highestPriority core → (st.queue core i).head = none

def HighestReady (st : ProcState) (core : Nat) (priority : Int) (head : ProcessId) : Prop :=
  ∃ i : Nat, priority < i ∧ (i : Int) ≤ st.highestPriority core ∧
    (st.queue core i).head = some head ∧ NoHigherReady st core i

def DirectSuccessor (st : ProcState) (core : Nat) (target next : ProcessId) : Prop :=
  let process := st.processes target
  0 ≤ process.priority ∧ process.priority < priorityMax ∧
    ((HighestReady st core process.priority next ∧ process.status = .ready ∧
        ¬ (process.isInReadyQueue ∨ process.next.isSome ∨ process.preview.isSome)) ∨
      (NoHigherReady st core process.priority ∧ process.isInReadyQueue = false ∧ next = target))

private theorem lowerBound_spec (st : ProcState) (core : Nat) (limit : Int) :
    ∀ (steps : Nat) (bound : Int), limit ≤ bound → bound ≤ limit + steps →
      limit ≤ st.lowerBound core limit steps bound ∧ st.lowerBound core limit steps bound ≤ bound ∧
      (∀ i : Nat, st.lowerBound core limit steps bound < i → (i : Int) ≤ bound →
        (st.queue core i).head = none) ∧
      (st.lowerBound core limit steps bound = limit ∨
        (st.queue core (st.lowerBound core limit steps bound).toNat).head ≠ none) := by
  intro steps
  induction steps with
  | zero =>
    intro bound hle hge
    have heq : bound = limit := by omega
    exact ⟨hle, Int.le_refl _, fun i hlt hi => by rw [lowerBound] at hlt; omega, .inl heq⟩
  | succ steps ih =>
    intro bound hle hge
    rw [lowerBound]
    split
    case isTrue h =>
      obtain ⟨hlow, hhigh, hempty, hend⟩ := ih (bound - 1) (by omega) (by omega)
      refine ⟨hlow, by omega, fun i hlt hi => ?_, hend⟩
      by_cases heq : (i : Int) = bound
      · rw [← heq, Int.toNat_natCast] at h
        exact h.2
      · exact hempty i hlt (by omega)
    case isFalse h =>
      refine ⟨hle, Int.le_refl _, fun i hlt hi => by omega, ?_⟩
      by_cases heq : bound = limit
      · exact .inl heq
      · exact .inr fun hnone => h ⟨by omega, hnone⟩

/-- The bound after `try_direct_schedule`: at most the target's priority if nothing above it is
ready, and else the highest ready queue. -/
private theorem directBound_spec (st : ProcState) (core : Nat) (priority : Int) :
    (st.directBound core priority ≤ priority ∧ NoHigherReady st core priority) ∨
    (priority < st.directBound core priority ∧
      st.directBound core priority ≤ st.highestPriority core ∧
      ∃ head, (st.queue core (st.directBound core priority).toNat).head = some head ∧
        NoHigherReady st core (st.directBound core priority)) := by
  unfold directBound
  split
  case isFalse h =>
    exact .inl ⟨by omega, fun i hlt hi => by omega⟩
  case isTrue h =>
    obtain ⟨hlow, hhigh, hempty, hend⟩ := lowerBound_spec st core priority
      (st.highestPriority core - priority).toNat (st.highestPriority core) (by omega) (by omega)
    rcases hend with heq | hhead
    · left
      exact ⟨by omega, fun i hlt hi => hempty i (by omega) hi⟩
    · by_cases heq : st.lowerBound core priority (st.highestPriority core - priority).toNat
          (st.highestPriority core) = priority
      · left
        exact ⟨by omega, fun i hlt hi => hempty i (by omega) hi⟩
      · right
        obtain ⟨head, hhead⟩ := Option.ne_none_iff_exists'.mp hhead
        exact ⟨by omega, hhigh, head, hhead, hempty⟩

theorem HighestReady.unique {priority : Int} {head head' : ProcessId}
    (h : HighestReady st core priority head) (h' : HighestReady st core priority head') :
    head = head' := by
  obtain ⟨i, hlt, hle, hhead, hnone⟩ := h
  obtain ⟨j, hlt', hle', hhead', hnone'⟩ := h'
  have heq : i = j := by
    rcases Nat.lt_trichotomy i j with hij | hij | hij
    · have := hnone j (by omega) hle'
      simp [this] at hhead'
    · exact hij
    · have := hnone' i (by omega) hle
      simp [this] at hhead
  subst heq
  simpa [hhead] using hhead'

theorem not_noHigherReady {priority : Int} {head : ProcessId}
    (h : HighestReady st core priority head) : ¬ NoHigherReady st core priority := by
  obtain ⟨i, hlt, hle, hhead, -⟩ := h
  intro hnone
  simp [hnone i hlt hle] at hhead

theorem queue_setQueue_of_ne (st : ProcState) (core : Nat) {priority other : Nat}
    (queue : ProcessQueue) (h : other ≠ priority) :
    (st.setQueue core priority queue).queue core other = st.queue core other := by
  simp [setQueue, modifyScheduler, modifyCpu, ProcState.queue, h]

private theorem addProcess_frame (st : ProcState) (core : Nat) (target : ProcessId)
    (hpriority : (st.processes target).priority ≤ st.highestPriority core) :
    (st.addProcess core target).Post
      (fun _ st' => ¬ ((st.processes target).isInReadyQueue ∨ (st.processes target).next.isSome ∨
          (st.processes target).preview.isSome) ∧
        st'.highestPriority core = st.highestPriority core ∧
        ∀ i, i ≠ (st.processes target).priority.toNat → st'.queue core i = st.queue core i)
      (fun _ _ => (st.processes target).status ≠ .ready ∨ (st.processes target).priority < 0 ∨
        (priorityMax : Int) ≤ (st.processes target).priority ∨
        (st.processes target).isInReadyQueue ∨ (st.processes target).next.isSome ∨
        (st.processes target).preview.isSome) := by
  have hraise : st.raiseBound core (st.processes target).priority = st :=
    if_neg (by omega)
  unfold addProcess
  dsimp only
  rw [hraise]
  split
  case isTrue h => exact .inl h
  case isFalse =>
    split
    case isTrue h => rw [post_error]; tauto
    case isFalse =>
      split
      case isTrue h => rw [post_error]; tauto
      case isFalse hqueued =>
        split
        · refine ⟨hqueued, by simp, fun i hi => ?_⟩
          rw [ok_state, modifyProcess_queue, queue_setQueue_of_ne _ _ _ hi, modifyProcess_queue]
        · refine ⟨hqueued, by simp, fun i hi => ?_⟩
          rw [ok_state, modifyProcess_queue, queue_setQueue_of_ne _ _ _ hi]

theorem tryDirectSchedule_post (st : ProcState) (core : Nat) (target : ProcessId) :
    (st.tryDirectSchedule core target).Post
      (fun next _ => ∀ id, DirectSuccessor st core target id ↔ id = next)
      (fun _ _ => ∀ id, ¬ DirectSuccessor st core target id) := by
  unfold tryDirectSchedule
  dsimp only
  split
  case isTrue h =>
    rintro id ⟨hlow, hhigh, -⟩
    omega
  case isFalse hpriority =>
    rw [not_or, not_lt, not_le] at hpriority
    rcases directBound_spec st core (st.processes target).priority with
      ⟨hbound, hnone⟩ | ⟨hbound, hle, head, hhead, hnone⟩
    · -- nothing above the target is ready
      have hselect : ∀ id, DirectSuccessor st core target id ↔
          (st.processes target).isInReadyQueue = false ∧ id = target := by
        intro id
        constructor
        · rintro ⟨-, -, ⟨hready, -⟩ | ⟨-, hqueued, rfl⟩⟩
          · exact absurd hnone (not_noHigherReady hready)
          · exact ⟨hqueued, rfl⟩
        · rintro ⟨hqueued, rfl⟩
          exact ⟨hpriority.1, hpriority.2, .inr ⟨hnone, hqueued, rfl⟩⟩
      rw [if_neg (by omega)]
      split
      case isTrue hqueued =>
        intro id hid
        simp [((hselect id).mp hid).1] at hqueued
      case isFalse hqueued =>
        intro id
        rw [hselect id]
        simp [hqueued]
    · -- the head of the highest ready queue wins
      have hindex : ((st.directBound core (st.processes target).priority).toNat : Int) =
          st.directBound core (st.processes target).priority := by omega
      have hready : HighestReady st core (st.processes target).priority head :=
        ⟨_, by omega, by omega, hhead, by rw [hindex]; exact hnone⟩
      have hselect : ∀ id, DirectSuccessor st core target id ↔
          (st.processes target).status = .ready ∧
          ¬ ((st.processes target).isInReadyQueue ∨ (st.processes target).next.isSome ∨
            (st.processes target).preview.isSome) ∧ id = head := by
        intro id
        constructor
        · rintro ⟨-, -, ⟨hready', hstatus, hqueued⟩ | ⟨hnone', -, -⟩⟩
          · exact ⟨hstatus, hqueued, hready'.unique hready⟩
          · exact absurd hnone' (not_noHigherReady hready)
        · rintro ⟨hstatus, hqueued, rfl⟩
          exact ⟨hpriority.1, hpriority.2, .inl ⟨hready, hstatus, hqueued⟩⟩
      rw [if_pos hbound]
      split
      case isTrue hstatus =>
        intro id hid
        exact hstatus ((hselect id).mp hid).1
      case isFalse hstatus =>
        rw [not_not] at hstatus
        have hadd := addProcess_frame
          (st.setHighestPriority core (st.directBound core (st.processes target).priority)) core
          target (by rw [setHighestPriority_highestPriority, if_pos rfl]; exact hbound.le)
        simp only [setHighestPriority_processes, setHighestPriority_highestPriority, if_true,
          setHighestPriority_queue] at hadd
        have hfail : (st.processes target).status ≠ .ready ∨ (st.processes target).priority < 0 ∨
            (priorityMax : Int) ≤ (st.processes target).priority ∨
            (st.processes target).isInReadyQueue ∨ (st.processes target).next.isSome ∨
            (st.processes target).preview.isSome → ∀ id, ¬ DirectSuccessor st core target id := by
          intro hcase id hid
          obtain ⟨-, hqueued, -⟩ := (hselect id).mp hid
          rcases hcase with hcase | hcase | hcase | hcase
          · exact hcase hstatus
          · omega
          · omega
          · exact hqueued hcase
        apply (hadd.mono (fun _ _ h => h) (fun _ _ h => hfail h)).andThen
        rintro _ st' ⟨hqueued, hbound', hqueues⟩
        have hhead' : (st'.queue core
            (st.directBound core (st.processes target).priority).toNat).head = some head := by
          rw [hqueues _ (by omega), hhead]
        have hscan : (st'.highestPriority core + 1).toNat =
            (st.directBound core (st.processes target).priority).toNat + 1 := by
          rw [hbound']
          omega
        unfold schedule
        rw [hscan, highestReady, hhead']
        intro id
        rw [hselect id]
        simp [hstatus, hqueued]

end Selection

/-! ### The switch routines -/

section Switch

variable {p : Platform} {root : ProcessId → Word} {core : Nat}

def Loadable (p : Platform) (root : ProcessId → Word) (core : Nat) (st : ProcState)
    (next : ProcessId) : Prop :=
  root next ≠ 0 ∨ translationRoot p.architecture (st.hardwareRoot core) = 0

theorem translationRoot_zero (architecture : Architecture) :
    translationRoot architecture 0 = 0 := by
  cases architecture <;> rfl

theorem translationRoot_idem (architecture : Architecture) (register : Word) :
    translationRoot architecture (translationRoot architecture register) =
      translationRoot architecture register := by
  cases architecture
  · rfl
  · simp only [translationRoot]
    rw [BitVec.and_assoc, BitVec.and_self]

section

variable (p : Platform) (st : ProcState) (core : Nat) (currentRoot nextRoot owner : Word)

theorem hardwareRoot_replaceRoot :
    (replaceRoot p st core currentRoot nextRoot owner).hardwareRoot core = nextRoot := by
  unfold replaceRoot writeAddressSpaceOwners loadRoot
  dsimp only
  split_ifs <;> simp

theorem cpus_replaceRoot : (replaceRoot p st core currentRoot nextRoot owner).cpus = st.cpus := by
  unfold replaceRoot writeAddressSpaceOwners loadRoot
  dsimp only
  split_ifs <;> rfl

end

theorem switchContext_loads (p : Platform) (root : ProcessId → Word) (core : Nat)
    (next : ProcessId) (st : ProcState) (hroot : root next ≠ 0) :
    (switchContext p root core next st).Post (fun _ st' => st'.cpus = st.cpus ∧
        translationRoot p.architecture (st'.hardwareRoot core) =
          translationRoot p.architecture (root next))
      (fun _ _ => False) := by
  unfold switchContext
  dsimp only
  rw [if_neg hroot]
  split
  case isTrue heq =>
    rw [post_ok, ← heq, translationRoot_idem]
    exact ⟨rfl, rfl⟩
  case isFalse =>
    rw [post_ok, hardwareRoot_replaceRoot, cpus_replaceRoot]
    exact ⟨rfl, rfl⟩

theorem currentProcess_setCurrent (st : ProcState) (core : Nat) (id : ProcessId) (idle : Bool) :
    ((st.setCurrent core id idle).cpus core).currentProcess = some id := by
  simp [setCurrent, modifyCpu]

theorem switchTo_consistent_iff (st : ProcState) (next : ProcessId) :
    (st.switchTo p root core next).state.Consistent p root core ↔ Loadable p root core st next := by
  by_cases hroot : root next = 0
  · -- the root is refused after `next` became current
    have hstate : (st.switchTo p root core next).state = st.setCurrent core next false := by
      unfold switchTo switchContext
      simp [hroot]
    rw [hstate]
    unfold Consistent Loadable
    rw [currentProcess_setCurrent]
    simp only [Option.some.injEq, exists_eq_left', hroot, translationRoot_zero, ne_eq,
      not_true_eq_false, false_or]
    rfl
  · have hloads := switchContext_loads p root core next (st.setCurrent core next false) hroot
    refine iff_of_true ?_ (.inl hroot)
    apply hloads.state
    · rintro _ st' ⟨hcpus, hload⟩
      exact ⟨next, by rw [hcpus, currentProcess_setCurrent], hload⟩
    · exact fun _ _ h => h.elim

theorem switchToIdle_consistent {st : ProcState} (hidle : root (.idle core) ≠ 0)
    (h : (st.cpus core).isIdle = true → st.Consistent p root core) :
    (st.switchToIdle p root core).state.Consistent p root core := by
  unfold switchToIdle
  split
  case isTrue hflag => exact h hflag
  case isFalse =>
    have hloads := switchContext_loads p root core (.idle core) st hidle
    have hpost : (((switchContext p root core (.idle core) st).transformError
        convertHalToKernelError).andThen fun _ st =>
          .ok () (st.setCurrent core (.idle core) true)).Post
        (fun _ st' => st'.Consistent p root core) (fun _ _ => False) := by
      apply (Outcome.Post.transformError (F := fun _ _ => False) hloads).andThen
      rintro _ st' ⟨-, hload⟩
      exact ⟨.idle core, currentProcess_setCurrent _ _ _ _, hload⟩
    exact hpost.state (fun _ _ h => h) (fun _ _ h => h.elim)

theorem isIdle_switchTo_error (st : ProcState) (next : ProcessId) :
    (st.switchTo p root core next).Post (fun _ st' => st'.Consistent p root core)
      (fun _ st' => (st'.cpus core).isIdle = false) := by
  by_cases hroot : root next = 0
  · unfold switchTo switchContext
    simp [hroot, setCurrent, modifyCpu]
  · have hloads := switchContext_loads p root core next (st.setCurrent core next false) hroot
    apply hloads.mono
    · rintro _ st' ⟨hcpus, hload⟩
      exact ⟨next, by rw [hcpus, currentProcess_setCurrent], hload⟩
    · exact fun _ _ h => h.elim

theorem tryScheduleAndSwitch_consistent {st : ProcState} (hidle : root (.idle core) ≠ 0)
    (h : st.Consistent p root core) :
    (st.tryScheduleAndSwitch p root core).state.Consistent p root core := by
  unfold tryScheduleAndSwitch trySchedule
  rw [transformError_state]
  have hschedule : ((st.schedule core).transformError fun _ => HalError.tryAgain).Post
      (fun _ _ => True) (fun _ st' => (st'.cpus core).isIdle = true → st'.Consistent p root core) := by
    apply Outcome.Post.transformError
    apply (post_of_state (SameContext.of_touches ((Touches.refl st).schedule core))).mono
    · exact fun _ _ _ => trivial
    · exact fun _ _ hsame _ => hsame.consistent_iff.mpr h
  have hswitch := hschedule.andThen (R := fun _ st' => st'.Consistent p root core)
    fun next st' _ => (isIdle_switchTo_error st' next).mono (fun _ _ h => h)
      (fun _ _ hflag h => by rw [hflag] at h; cases h)
  apply (hswitch.orElse (F := fun _ st' => st'.Consistent p root core) fun _ st' hst' =>
    post_of_state (P := fun st' : ProcState => st'.Consistent p root core) ?_).state
  · exact fun _ _ h => h
  · exact fun _ _ h => h
  · rw [transformError_state]
    exact switchToIdle_consistent hidle hst'

theorem tryDirectScheduleAndSwitchLocal_consistent_iff {st : ProcState} (target : ProcessId)
    (h : st.Consistent p root core) :
    (st.tryDirectScheduleAndSwitchLocal p root core target).state.Consistent p root core ↔
      ∀ next, DirectSuccessor st core target next → Loadable p root core st next := by
  have hselect := tryDirectSchedule_post st core target
  have hsame : SameContext st (st.tryDirectSchedule core target).state :=
    .of_touches ((Touches.refl st).tryDirectSchedule (by simp) core)
  unfold tryDirectScheduleAndSwitchLocal
  rw [transformError_state]
  revert hselect hsame
  generalize st.tryDirectSchedule core target = o
  obtain ⟨_ | next, st'⟩ := o
  · intro hselect hsame
    refine iff_of_true ?_ fun next hnext => absurd hnext (hselect next)
    exact hsame.consistent_iff.mpr h
  · intro hselect hsame
    have hload : Loadable p root core st' next ↔ Loadable p root core st next := by
      unfold Loadable
      rw [hsame.hardwareRoot]
    change (st'.switchTo p root core next).state.Consistent p root core ↔ _
    rw [switchTo_consistent_iff, hload]
    constructor
    · intro hnext id hid
      rw [(hselect id).mp hid]
      exact hnext
    · exact fun hall => hall next ((hselect next).mpr rfl)

theorem removeProcess_post (st : ProcState) (core : Nat) (target : ProcessId) :
    (st.removeProcess core target).Post (fun _ _ => (st.findReady core target).isSome)
      (fun _ st' => st.findReady core target = none ∧ st' = st) := by
  unfold removeProcess
  split
  case h_1 h => exact ⟨h, rfl⟩
  case h_2 h => rw [post_ok, h]; rfl

theorem tryRemoteTargetAndSwitch_consistent_iff {st : ProcState} (target : ProcessId)
    (h : st.Consistent p root core) :
    (st.tryRemoteTargetAndSwitch p root core target).state.Consistent p root core ↔
      ((st.processes target).status = .ready → (st.processes target).isInReadyQueue = true →
        (st.findReady core target).isSome → Loadable p root core st target) := by
  have hremove := removeProcess_post st core target
  have hsame := SameContext.of_touches ((Touches.refl st).removeProcess core target)
  unfold tryRemoteTargetAndSwitch
  split
  case isTrue hskip =>
    refine iff_of_true h fun hstatus hqueued => ?_
    simp [hstatus, hqueued] at hskip
  case isFalse hready =>
    simp only [ne_eq, not_or, not_not] at hready
    revert hremove hsame
    generalize st.removeProcess core target = o
    obtain ⟨_ | _, st'⟩ := o
    · rintro ⟨hnone, -⟩ hsame
      refine iff_of_true (hsame.consistent_iff.mpr h) fun _ _ hfound => ?_
      simp [hnone] at hfound
    · intro hfound hsame
      have hload : Loadable p root core st' target ↔ Loadable p root core st target := by
        unfold Loadable
        rw [hsame.hardwareRoot]
      change ((st'.switchTo p root core target).transformError _).state.Consistent p root core ↔ _
      rw [transformError_state, switchTo_consistent_iff, hload]
      exact ⟨fun hl _ _ _ => hl, fun hl => hl hready.1 hready.2 hfound⟩

/-! ### Routing between cores -/

theorem tryDirectScheduleAndSwitch_remote_consistent {st : ProcState} (sendIpi : Nat → Bool)
    {current target : ProcessId} (hidle : root (.idle core) ≠ 0) (h : st.Consistent p root core)
    (hcurrent : st.affinity p current = core) (htarget : st.affinity p target ≠ core) :
    (st.tryDirectScheduleAndSwitch p root sendIpi current target).state.Consistent p root core := by
  unfold tryDirectScheduleAndSwitch
  dsimp only
  rw [hcurrent, if_neg htarget]
  apply (Outcome.Post.andThen (Q := fun _ => SameContext st) (R := fun _ => Consistent p root core)
    (E := fun _ => Consistent p root core) ?_ fun _ st' hsame => ?_).state
  · exact fun _ _ h => h
  · exact fun _ _ h => h
  · apply (post_of_state (P := SameContext st) (.of_touches ?_)).mono (fun _ _ h => h)
    · exact fun _ _ hsame => hsame.consistent_iff.mpr h
    · exact ((Touches.refl st).markScheduledOn ⟨by simp, by simp, by simp⟩ _).andThen
        fun _ _ hmarked => hmarked.signalRemote (by simp) _ target
  · exact post_of_state (P := Consistent p root core)
      (tryScheduleAndSwitch_consistent hidle (hsame.consistent_iff.mpr h))

end Switch

end ProcState

/-! ### All switch calls -/

inductive SwitchCall
  | tryScheduleAndSwitch
  | tryDirectScheduleAndSwitchLocal (target : ProcessId)
  | tryDirectScheduleAndSwitch (current target : ProcessId)
  | tryRemoteTargetAndSwitch (target : ProcessId)
  | switchToIdle

namespace SwitchCall

variable (p : Platform) (root : ProcessId → Word) (sendIpi : Nat → Bool) (core : Nat)

def run (st : ProcState) : SwitchCall → ProcState
  | .tryScheduleAndSwitch => (st.tryScheduleAndSwitch p root core).state
  | .tryDirectScheduleAndSwitchLocal target =>
    (st.tryDirectScheduleAndSwitchLocal p root core target).state
  | .tryDirectScheduleAndSwitch current target =>
    (st.tryDirectScheduleAndSwitch p root sendIpi current target).state
  | .tryRemoteTargetAndSwitch target => (st.tryRemoteTargetAndSwitch p root core target).state
  | .switchToIdle => (st.switchToIdle p root core).state

def OnCore (st : ProcState) : SwitchCall → Prop
  | .tryDirectScheduleAndSwitch current _ => st.affinity p current = core
  | _ => True

def Loads (st : ProcState) : SwitchCall → Prop
  | .tryScheduleAndSwitch | .switchToIdle => True
  | .tryDirectScheduleAndSwitchLocal target =>
    ∀ next, st.DirectSuccessor core target next → st.Loadable p root core next
  | .tryDirectScheduleAndSwitch _ target => st.affinity p target = core →
      ∀ next, st.DirectSuccessor core target next → st.Loadable p root core next
  | .tryRemoteTargetAndSwitch target =>
    (st.processes target).status = .ready → (st.processes target).isInReadyQueue = true →
      (st.findReady core target).isSome → st.Loadable p root core target

end SwitchCall

/-- From a consistent core, a switch call leaves a consistent core exactly if the process it
makes current has a root, or none was loaded. -/
theorem switchCall_consistent_iff {p : Platform} {root : ProcessId → Word} {sendIpi : Nat → Bool}
    {core : Nat} {st : ProcState} (call : SwitchCall) (hidle : root (.idle core) ≠ 0)
    (hcall : call.OnCore p core st) (h : st.Consistent p root core) :
    (call.run p root sendIpi core st).Consistent p root core ↔ call.Loads p root core st := by
  cases call with
  | tryScheduleAndSwitch =>
    exact iff_of_true (ProcState.tryScheduleAndSwitch_consistent hidle h) trivial
  | tryDirectScheduleAndSwitchLocal target =>
    exact ProcState.tryDirectScheduleAndSwitchLocal_consistent_iff target h
  | tryDirectScheduleAndSwitch current target =>
    have hcurrent : st.affinity p current = core := hcall
    by_cases htarget : st.affinity p target = core
    · have hroute : st.tryDirectScheduleAndSwitch p root sendIpi current target =
          st.tryDirectScheduleAndSwitchLocal p root core target := by
        unfold ProcState.tryDirectScheduleAndSwitch
        dsimp only
        rw [hcurrent, if_pos htarget]
      change (st.tryDirectScheduleAndSwitch p root sendIpi current target).state.Consistent p root
        core ↔ _
      rw [hroute, ProcState.tryDirectScheduleAndSwitchLocal_consistent_iff target h]
      exact ⟨fun hl _ => hl, fun hl => hl htarget⟩
    · refine iff_of_true ?_ fun heq => absurd heq htarget
      exact ProcState.tryDirectScheduleAndSwitch_remote_consistent sendIpi hidle h hcurrent htarget
  | tryRemoteTargetAndSwitch target =>
    exact ProcState.tryRemoteTargetAndSwitch_consistent_iff target h
  | switchToIdle =>
    exact iff_of_true (ProcState.switchToIdle_consistent hidle fun _ => h) trivial

/-- Three ready processes, the first of them current. -/
def unconfiguredPeer : ProcState where
  processes id := if id ∈ [.user 0x1000, .user 0x2000, .user 0x3000] then
    { status := .ready, priority := 10 } else {}
  cpus _ := { currentProcess := some (.user 0x1000) }
  hardwareRoot _ := 0x5000
  owners _ := 0
  processCount := 3

/-- The second process has no root yet. -/
def unconfiguredPeerRoot : ProcessId → Word
  | .user address => if address = 0x1000 then 0x5000 else if address = 0x3000 then 0x6000 else 0
  | .idle _ => 0x8000

theorem unconfiguredPeer_consistent :
    unconfiguredPeer.Consistent samplePlatform unconfiguredPeerRoot 0 :=
  ⟨.user 0x1000, rfl, rfl⟩

/-- A direct switch to the unconfigured process leaves it current on the old page tables. -/
theorem tryDirectScheduleAndSwitch_inconsistent :
    unconfiguredPeer.Consistent samplePlatform unconfiguredPeerRoot 0 ∧
      unconfiguredPeerRoot (.idle 0) ≠ 0 ∧
      ¬ (unconfiguredPeer.tryDirectScheduleAndSwitch samplePlatform unconfiguredPeerRoot
          (fun _ => true) (.user 0x1000) (.user 0x2000)).state.Consistent
        samplePlatform unconfiguredPeerRoot 0 := by
  refine ⟨unconfiguredPeer_consistent, by decide, ?_⟩
  rintro ⟨current, hcurrent, hroot⟩
  have htarget : some (ProcessId.user 0x2000) = some current := hcurrent
  cases htarget
  exact absurd hroot (by decide)

theorem switchCall_consistent_iff_peer :
    unconfiguredPeer.Consistent samplePlatform unconfiguredPeerRoot 0 ∧
      (unconfiguredPeer.tryDirectScheduleAndSwitch samplePlatform unconfiguredPeerRoot
        (fun _ => true) (.user 0x1000) (.user 0x3000)).state.hardwareRoot 0 = 0x6000 ∧
      ((unconfiguredPeer.tryDirectScheduleAndSwitch samplePlatform unconfiguredPeerRoot
          (fun _ => true) (.user 0x1000) (.user 0x3000)).state.Consistent
        samplePlatform unconfiguredPeerRoot 0 ↔
        (SwitchCall.tryDirectScheduleAndSwitch (.user 0x1000) (.user 0x3000)).Loads
          samplePlatform unconfiguredPeerRoot 0 unconfiguredPeer) :=
  ⟨unconfiguredPeer_consistent, by decide +kernel,
    switchCall_consistent_iff (.tryDirectScheduleAndSwitch (.user 0x1000) (.user 0x3000))
      (by decide) rfl unconfiguredPeer_consistent⟩

end A9N.Kernel
