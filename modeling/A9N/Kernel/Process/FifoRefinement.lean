import A9N.Kernel.Process.PrioritySelection

/-!
# The scheduler refines 32 FIFO sequences

The abstract machine keeps one sequence of processes for each core and level and answers from these
alone. The scheduler with its links, flags and cached bound gives the same answers in every run that
leaves the priorities of queued processes as they are.
-/

namespace A9N.Kernel

structure Candidate where
  ready : Bool
  level : Option Nat
deriving DecidableEq, Repr

def ProcState.candidate (st : ProcState) (id : ProcessId) : Candidate where
  ready := (st.processes id).status = .ready
  level :=
    if 0 ≤ (st.processes id).priority ∧ (st.processes id).priority < priorityMax then
      some (st.processes id).priority.toNat
    else none

/-! ## The abstract machine -/

abbrev Sequences := Nat → Nat → List ProcessId

namespace Sequences

def Holds (ready : Sequences) (id : ProcessId) : Prop := ∃ core level, id ∈ ready core level

def highest (sequence : Nat → List ProcessId) : Nat → Option (Nat × ProcessId × List ProcessId)
  | 0 => none
  | level + 1 =>
    match sequence level with
    | head :: rest => some (level, head, rest)
    | [] => highest sequence level

def pop (ready : Sequences) (core : Nat) : SchedulerAnswer × Sequences :=
  match highest (ready core) priorityMax with
  | none => (.failed, ready)
  | some (level, head, rest) => (.process head, ProcState.setReady ready core level rest)

def append (ready : Sequences) (core level : Nat) (id : ProcessId) : Sequences :=
  ProcState.setReady ready core level (ready core level ++ [id])

open Classical in
noncomputable def step (candidate : ProcessId → Candidate) (ready : Sequences) :
    SchedulerOp → SchedulerAnswer × Sequences
  | .addProcess core target =>
    match (candidate target).level with
    | some level =>
      if (candidate target).ready ∧ ¬ ready.Holds target then
        (.done, ready.append core level target)
      else (.failed, ready)
    | none => (.failed, ready)
  | .removeProcess core target =>
    if ∃ level, target ∈ ready core level then
      (.done, fun core' level =>
        if core' = core then (ready core' level).erase target else ready core' level)
    else (.failed, ready)
  | .schedule core => ready.pop core
  | .tryDirectSchedule core target =>
    match (candidate target).level with
    | some level =>
      if ¬ ready.Holds target ∧ ∀ above, level < above → ready core above = [] then
        (.process target, ready)
      else if (candidate target).ready ∧ ¬ ready.Holds target then
        (ready.append core level target).pop core
      else (.failed, ready)
    | none => (.failed, ready)

theorem highest_eq_some {sequence : Nat → List ProcessId} {level : Nat} {head : ProcessId}
    {rest : List ProcessId} (hlevel : sequence level = head :: rest) {bound : Nat}
    (hlt : level < bound) (habove : ∀ above, level < above → sequence above = []) :
    highest sequence bound = some (level, head, rest) := by
  induction bound with
  | zero => omega
  | succ bound ih =>
    rw [highest]
    rcases Nat.lt_succ_iff_lt_or_eq.mp hlt with hbelow | rfl
    · rw [habove bound hbelow]
      exact ih hbelow
    · rw [hlevel]

theorem highest_eq_none {sequence : Nat → List ProcessId} (h : ∀ level, sequence level = [])
    (bound : Nat) : highest sequence bound = none := by
  induction bound with
  | zero => rfl
  | succ bound ih =>
    rw [highest, h bound]
    exact ih

end Sequences

/-! ## The calls -/

namespace ProcState

variable {existing : Finset ProcessId} {st : ProcState} {ready : Sequences}

def Matches (existing : Finset ProcessId) (concrete : SchedulerAnswer × ProcState)
    (abstract : SchedulerAnswer × Sequences) : Prop :=
  concrete.1 = abstract.1 ∧ Represents existing concrete.2 abstract.2

theorem Represents.holds_iff (h : Represents existing st ready) (id : ProcessId) :
    ready.Holds id ↔ (st.processes id).isInReadyQueue = true := (h.queues.flagged id).symm

theorem Represents.schedule (h : Represents existing st ready) (core : Nat) :
    Matches existing (SchedulerOp.answer .process (st.schedule core)) (ready.pop core) := by
  have hspec := schedule_spec h.queues core
  generalize st.schedule core = o at hspec ⊢
  obtain ⟨error | next, st'⟩ := o
  · obtain ⟨rfl, hempty⟩ : st' = st ∧ _ := hspec
    have hnone : ∀ level, ready core level = [] := by
      intro level
      by_cases hle : (level : Int) ≤ st'.highestPriority core
      · exact hempty level hle
      · exact h.bound core level (by omega)
    rw [Sequences.pop, Sequences.highest_eq_none hnone]
    exact ⟨rfl, h⟩
  · obtain ⟨priority, l, -, hready, habove, rfl⟩ := hspec
    have hlt := h.queues.priority_lt (show next ∈ ready core priority by simp [hready])
    rw [Sequences.pop, Sequences.highest_eq_some hready hlt fun above => h.empty_above habove]
    exact ⟨rfl, h.popReady hready habove⟩

theorem candidate_level {id : ProcessId} {level : Nat} (h : (st.candidate id).level = some level) :
    0 ≤ (st.processes id).priority ∧ (st.processes id).priority < priorityMax ∧
      (st.processes id).priority.toNat = level := by
  simp only [candidate, Option.ite_none_right_eq_some, Option.some.injEq] at h
  exact ⟨h.1.1, h.1.2, h.2⟩

theorem candidate_no_level {id : ProcessId} (h : (st.candidate id).level = none) :
    (st.processes id).priority < 0 ∨ (priorityMax : Int) ≤ (st.processes id).priority := by
  simp only [candidate] at h
  split at h
  · cases h
  · omega

section

variable (h : Represents existing st ready) (core : Nat)
include h

theorem Represents.addProcess {target : ProcessId}
    {level : Nat} (hexisting : target ∈ existing) (hlevel : (st.candidate target).level = some level)
    (hready : (st.candidate target).ready = true) (hout : ¬ ready.Holds target) :
    st.addProcess core target = .ok () (st.enqueue core target) ∧
      Represents existing (st.enqueue core target) (ready.append core level target) := by
  obtain ⟨hnonneg, hlt, rfl⟩ := candidate_level hlevel
  have hflag : (st.processes target).isInReadyQueue = false := by
    simpa [h.holds_iff] using hout
  have hloose := h.queues.loose target hflag
  constructor
  · rw [addProcess_eq, if_neg (by simpa [candidate] using hready), if_neg (by omega),
      if_neg (by simp [hflag, hloose])]
  · exact h.enqueue hexisting hflag hnonneg hlt

theorem Represents.addProcess_fails {target : ProcessId}
    (hnot : (st.candidate target).level = none ∨
      ¬ ((st.candidate target).ready = true ∧ ¬ ready.Holds target)) :
    ∃ error, st.addProcess core target = .error error st := by
  rw [addProcess_eq]
  split
  · exact ⟨_, rfl⟩
  case isFalse hready =>
    split
    · exact ⟨_, rfl⟩
    case isFalse hpriority =>
      split
      · exact ⟨_, rfl⟩
      case isFalse hqueued =>
        -- all checks have passed
        exfalso
        rcases hnot with hlevel | hnot
        · exact hpriority (candidate_no_level hlevel)
        · rw [h.holds_iff] at hnot
          simp only [not_or] at hqueued
          exact hnot ⟨by simpa [candidate] using hready, hqueued.1⟩

theorem Represents.addProcess_matches {target : ProcessId} (hexisting : target ∈ existing) :
    Matches existing (SchedulerOp.answer (fun _ => .done) (st.addProcess core target))
      (ready.step st.candidate (.addProcess core target)) := by
  rw [Sequences.step]
  cases hlevel : (st.candidate target).level with
  | none =>
    obtain ⟨error, herror⟩ := h.addProcess_fails core (.inl hlevel)
    rw [herror]
    exact ⟨rfl, h⟩
  | some level =>
    dsimp only
    split
    case isTrue hadds =>
      obtain ⟨hok, hnext⟩ := h.addProcess core hexisting hlevel hadds.1 hadds.2
      rw [hok]
      exact ⟨rfl, hnext⟩
    case isFalse hnot =>
      obtain ⟨error, herror⟩ := h.addProcess_fails core (.inr hnot)
      rw [herror]
      exact ⟨rfl, h⟩

theorem Represents.removeProcess_matches (target : ProcessId) :
    Matches existing (SchedulerOp.answer (fun _ => .done) (st.removeProcess core target))
      (ready.step st.candidate (.removeProcess core target)) := by
  have hspec := removeProcess_spec h.queues core target
  rw [Sequences.step]
  generalize st.removeProcess core target = o at hspec ⊢
  obtain ⟨error | _, st'⟩ := o
  · obtain ⟨-, rfl, hnone⟩ : _ ∧ st' = st ∧ _ := hspec
    rw [if_neg (fun hsome => hnone _ hsome.choose_spec)]
    exact ⟨rfl, h⟩
  · obtain ⟨priority, hmem, rfl⟩ := hspec
    rw [if_pos ⟨priority, hmem⟩]
    -- the process is in no other sequence of the core
    have herase : setReady ready core priority ((ready core priority).erase target) =
        fun core' level => if core' = core then (ready core' level).erase target
          else ready core' level := by
      funext core' level
      by_cases hcore : core' = core
      · subst hcore
        by_cases hlevel : level = priority
        · simp [setReady, hlevel]
        · have hout : target ∉ ready core' level := fun hin => hlevel (h.queues.apart hin hmem).2
          simp [setReady, hlevel, List.erase_of_not_mem hout]
      · simp [setReady, hcore]
    rw [← herase, ← dequeue_highestPriority st core priority core target]
    exact ⟨rfl, (h.dequeue hmem).lowered core 0 _⟩

/-- The bound after the loop of `try_direct_schedule` tells whether a sequence above the level is not
empty. -/
theorem Represents.directBound_le_iff {priority : Int} (hnonneg : 0 ≤ priority) :
    st.directBound core priority ≤ priority ↔
      ∀ above, priority.toNat < above → ready core above = [] := by
  have hbound := h.directBound core priority
  constructor
  · intro hle above habove
    apply hbound.bound core above
    rw [setHighestPriority_highestPriority, if_pos rfl]
    omega
  · intro hempty
    by_contra hgt
    rw [ProcState.directBound] at hgt
    split at hgt
    case isFalse hle => omega
    case isTrue hlt =>
      rcases lowerBound_stops st core priority (st.highestPriority core - priority).toNat
        (st.highestPriority core) (by omega) with hstop | hhead
      · exact hgt hstop
      · exact hhead ((h.queues.queued core _).head_eq_none_iff.mpr (hempty _ (by omega)))

theorem Represents.tryDirectSchedule_matches {target : ProcessId} (hexisting : target ∈ existing) :
    Matches existing (SchedulerOp.answer .process (st.tryDirectSchedule core target))
      (ready.step st.candidate (.tryDirectSchedule core target)) := by
  rw [Sequences.step, ProcState.tryDirectSchedule]
  cases hlevel : (st.candidate target).level with
  | none =>
    rw [if_pos (candidate_no_level hlevel)]
    exact ⟨rfl, h⟩
  | some level =>
    obtain ⟨hnonneg, hlt, rfl⟩ := candidate_level hlevel
    have hbound := h.directBound core (st.processes target).priority
    have hiff := h.directBound_le_iff core hnonneg
    have hholds := h.holds_iff target
    rw [if_neg (by omega)]
    dsimp only
    rw [← hiff]
    split
    case isTrue hhigher =>
      -- a process of higher priority is queued
      have hbusy : ¬ (¬ ready.Holds target ∧ st.directBound core (st.processes target).priority ≤
          (st.processes target).priority) := fun hfree => absurd hfree.2 (not_le.mpr hhigher)
      rw [if_neg hbusy]
      split
      case isTrue hstatus =>
        rw [if_neg (fun hadds => hstatus (by simpa [candidate] using hadds.1))]
        exact ⟨rfl, hbound⟩
      case isFalse hstatus =>
        split
        case isTrue hadds =>
          obtain ⟨hok, hnext⟩ := hbound.addProcess core hexisting hlevel hadds.1 hadds.2
          rw [hok, Outcome.andThen_ok]
          exact hnext.schedule core
        case isFalse hnot =>
          obtain ⟨error, herror⟩ := hbound.addProcess_fails core (.inr hnot)
          rw [herror]
          exact ⟨rfl, hbound⟩
    case isFalse hnone =>
      split
      case isTrue hflag =>
        have hheld := hholds.mpr hflag
        rw [if_neg (fun hfree => hfree.1 hheld), if_neg (fun hadds => hadds.2 hheld)]
        exact ⟨rfl, hbound⟩
      case isFalse hflag =>
        rw [if_pos ⟨fun hheld => hflag (hholds.mp hheld), not_lt.mp hnone⟩]
        exact ⟨rfl, hbound⟩

end

theorem Represents.run_matches (h : Represents existing st ready) {op : SchedulerOp}
    (hnames : op.Names existing) :
    Matches existing (op.run st) (ready.step st.candidate op) := by
  cases op with
  | addProcess core target => exact h.addProcess_matches core hnames
  | removeProcess core target => exact h.removeProcess_matches core target
  | schedule core => exact h.schedule core
  | tryDirectSchedule core target => exact h.tryDirectSchedule_matches core hnames

end ProcState

/-! ## Runs -/

/-- A call with its answer, and with what the processes were like when it was made. -/
structure SchedulerRecord where
  candidate : ProcessId → Candidate
  op : SchedulerOp
  answer : SchedulerAnswer

inductive SchedulerRun (existing : Finset ProcessId) (start : ProcState) :
    List SchedulerRecord → ProcState → Prop
  | start : SchedulerRun existing start [] start
  | call {trace : List SchedulerRecord} {st : ProcState} (op : SchedulerOp)
      (run : SchedulerRun existing start trace st) (names : op.Names existing) :
      SchedulerRun existing start (trace ++ [⟨st.candidate, op, (op.run st).1⟩]) (op.run st).2
  | outside {trace : List SchedulerRecord} {st st' : ProcState}
      (run : SchedulerRun existing start trace st) (frame : st.OutsideScheduler st') :
      SchedulerRun existing start trace st'

inductive FifoRun : List SchedulerRecord → Sequences → Prop
  | start : FifoRun [] fun _ _ => []
  | call {trace : List SchedulerRecord} {ready : Sequences} (candidate : ProcessId → Candidate)
      (op : SchedulerOp) (run : FifoRun trace ready) :
      FifoRun (trace ++ [⟨candidate, op, (ready.step candidate op).1⟩]) (ready.step candidate op).2

/-- Every run of the scheduler has the answers of a run of the abstract machine, whose sequences its
queues represent. -/
theorem scheduler_refines {existing : Finset ProcessId} {start st : ProcState}
    {trace : List SchedulerRecord} (hstart : start.NothingReady existing)
    (hrun : SchedulerRun existing start trace st) :
    ∃ ready, FifoRun trace ready ∧ ProcState.Represents existing st ready := by
  induction hrun with
  | start =>
    exact ⟨_, .start, hstart.readyQueues, by simp, fun _ _ _ => rfl⟩
  | @call trace st op _ hnames ih =>
    obtain ⟨ready, hfifo, hrepresents⟩ := ih
    obtain ⟨hanswer, hnext⟩ := hrepresents.run_matches hnames
    refine ⟨_, ?_, hnext⟩
    rw [hanswer]
    exact .call st.candidate op hfifo
  | outside _ hframe ih =>
    obtain ⟨ready, hfifo, hrepresents⟩ := ih
    exact ⟨ready, hfifo, hrepresents.outside hframe⟩

section Example

open Timed (twoProcesses bothProcesses first_mem second_mem nothingReady_twoProcesses)

/-- Both processes are added, the one of priority 5 leaves, and the other is scheduled directly. -/
theorem scheduler_refines_twoProcesses :
    let one := (SchedulerOp.addProcess 0 (.user 0x1000)).run twoProcesses
    let two := (SchedulerOp.addProcess 0 (.user 0x2000)).run one.2
    let three := (SchedulerOp.schedule 0).run two.2
    let four := (SchedulerOp.tryDirectSchedule 0 (.user 0x1000)).run three.2
    (one.1, two.1, three.1, four.1) =
        (.done, .done, .process (.user 0x1000), .process (.user 0x1000)) ∧
      twoProcesses.NothingReady bothProcesses ∧
      ∃ ready, FifoRun [⟨twoProcesses.candidate, .addProcess 0 (.user 0x1000), one.1⟩,
          ⟨one.2.candidate, .addProcess 0 (.user 0x2000), two.1⟩,
          ⟨two.2.candidate, .schedule 0, three.1⟩,
          ⟨three.2.candidate, .tryDirectSchedule 0 (.user 0x1000), four.1⟩] ready ∧
        ProcState.Represents bothProcesses four.2 ready :=
  ⟨by decide, nothingReady_twoProcesses, scheduler_refines nothingReady_twoProcesses
    (.call (.tryDirectSchedule 0 (.user 0x1000)) (.call (.schedule 0)
      (.call (.addProcess 0 (.user 0x2000)) (.call (.addProcess 0 (.user 0x1000)) .start first_mem)
        second_mem) trivial) first_mem)⟩

end Example

end A9N.Kernel
