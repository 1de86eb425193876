import A9N.Kernel.Process.Levels

/-!
# Strict priority selection

`schedule` must return a process of the highest priority that is ready, and of those the one that
has waited longest. The scheduler keeps one queue per priority and a cached bound, and files a
process under the priority it has when it is added.
-/

namespace A9N.Kernel

namespace ProcState

/-- The part of `operation_configure` behind the flag `PRIORITY`. -/
def configurePriority (st : ProcState) (target : ProcessId) (priority : Word) :
    Outcome CapabilityError ProcState Unit :=
  if priorityMax ≤ priority.toNat then .error .invalidArgument st
  else .ok () (st.modifyProcess target fun process => { process with priority := priority.toNat })

/-- `id` is in a ready queue of `core`: the links lead to it from the head of one. -/
def ReadyOn (st : ProcState) (core : Nat) (id : ProcessId) : Prop :=
  ∃ priority first, (st.queue core priority).head = some first ∧
    Relation.ReflTransGen (fun a b => (st.processes a).next = some b) first id

variable {existing : Finset ProcessId} {st st' : ProcState} {ready : Nat → Nat → List ProcessId}

theorem ReadyQueues.readyOn_iff (h : ReadyQueues existing st ready) {core : Nat} {id : ProcessId} :
    st.ReadyOn core id ↔ ∃ priority, id ∈ ready core priority := by
  unfold ReadyOn
  simp only [(h.queued core _).mem_iff_reachable]

/-- No process is queued anywhere, as when the scheduler is constructed. -/
structure NothingReady (existing : Finset ProcessId) (st : ProcState) : Prop where
  queue : ∀ core priority, st.queue core priority = {}
  process : ∀ id, (st.processes id).isInReadyQueue = false ∧ (st.processes id).next = none ∧
    (st.processes id).preview = none
  bound : ∀ core, st.highestPriority core = 31
  card : existing.card ≤ st.processCount

theorem NothingReady.readyQueues (h : NothingReady existing st) :
    ReadyQueues existing st fun _ _ => [] where
  queued core priority := by
    rw [h.queue core priority]
    exact Queued.empty
  flagged id := by simp [(h.process id).1]
  apart h := by simp at h
  loose id _ := (h.process id).2
  valid _ _ _ := rfl
  mem_existing h := by simp at h
  card := h.card

end ProcState

/-- The entry points of `scheduler`. -/
inductive SchedulerOp
  | addProcess (core : Nat) (target : ProcessId)
  | removeProcess (core : Nat) (target : ProcessId)
  | schedule (core : Nat)
  | tryDirectSchedule (core : Nat) (target : ProcessId)
deriving DecidableEq, Repr

inductive SchedulerAnswer
  | failed
  | done
  | process (id : ProcessId)
deriving DecidableEq, Repr

namespace SchedulerOp

def answer {α : Type} (f : α → SchedulerAnswer) (o : Outcome SchedulerError ProcState α) :
    SchedulerAnswer × ProcState :=
  (match o.result with
    | .ok value => f value
    | .error _ => .failed, o.state)

def run (st : ProcState) : SchedulerOp → SchedulerAnswer × ProcState
  | addProcess core target => answer (fun _ => .done) (st.addProcess core target)
  | removeProcess core target => answer (fun _ => .done) (st.removeProcess core target)
  | schedule core => answer .process (st.schedule core)
  | tryDirectSchedule core target => answer .process (st.tryDirectSchedule core target)

def Names (existing : Finset ProcessId) : SchedulerOp → Prop
  | addProcess _ target | removeProcess _ target | tryDirectSchedule _ target => target ∈ existing
  | schedule _ => True

end SchedulerOp

/-- What may happen to the scheduler: one of its own calls, or CONFIGURE of a priority. -/
inductive SchedulerCall
  | op (op : SchedulerOp)
  | configurePriority (target : ProcessId) (priority : Word)

namespace SchedulerCall

def run (st : ProcState) : SchedulerCall → ProcState
  | .op call => (call.run st).2
  | configurePriority target priority => (st.configurePriority target priority).state

def Names (existing : Finset ProcessId) : SchedulerCall → Prop
  | .op call => call.Names existing
  | configurePriority target _ => target ∈ existing

/-- A priority is only rewritten while the process is in no ready queue, unless the value is
refused or the one it already has. -/
def KeepsQueuedPriorities (st : ProcState) : SchedulerCall → Prop
  | configurePriority target priority => (st.processes target).isInReadyQueue = false ∨
      priorityMax ≤ priority.toNat ∨ (st.processes target).priority = priority.toNat
  | _ => True

end SchedulerCall

structure Timed where
  state : ProcState
  now : Nat
  since : ProcessId → Nat

namespace Timed

def start (st : ProcState) : Timed := ⟨st, 0, fun _ => 0⟩

def advance (t : Timed) (st : ProcState) : Timed :=
  ⟨st, t.now + 1, fun id => if (t.state.processes id).isInReadyQueue then t.since id else t.now⟩

inductive Step (existing : Finset ProcessId) (allowed : ProcState → SchedulerCall → Prop) :
    Timed → Timed → Prop
  | call {t : Timed} (c : SchedulerCall) (hnames : c.Names existing) (hallowed : allowed t.state c) :
      Step existing allowed t (t.advance (c.run t.state))
  | outside {t : Timed} {st : ProcState} (h : t.state.OutsideScheduler st) :
      Step existing allowed t (t.advance st)

/-- What `schedule` must answer: the longest-waiting process of the highest priority that is
ready, and nothing only if nothing is ready. -/
def SelectsHighest (t : Timed) (core : Nat) : Prop :=
  (t.state.schedule core).Post
    (fun next _ => t.state.ReadyOn core next ∧ ∀ id, t.state.ReadyOn core id →
      (t.state.processes id).priority ≤ (t.state.processes next).priority ∧
        ((t.state.processes id).priority = (t.state.processes next).priority → id ≠ next →
          t.since next < t.since id))
    (fun _ _ => ∀ id, ¬ t.state.ReadyOn core id)

end Timed

namespace ProcState

variable {existing : Finset ProcessId} {st st' : ProcState} {ready : Nat → Nat → List ProcessId}
  {since since' : ProcessId → Nat}

/-- The queues represent the sequences, each of which is in the order of arrival. -/
structure Ranked (existing : Finset ProcessId) (since : ProcessId → Nat) (st : ProcState)
    (ready : Nat → Nat → List ProcessId) : Prop extends Represents existing st ready where
  sorted : ∀ core priority, (ready core priority).Pairwise fun a b => since a < since b

namespace Ranked

section

variable (h : Ranked existing since st ready)
include h

theorem congr_since
    (hsince : ∀ id, (st.processes id).isInReadyQueue = true → since' id = since id) :
    Ranked existing since' st ready := by
  refine ⟨h.toRepresents, ?_⟩
  intro core priority
  apply (h.sorted core priority).imp_of_mem
  intro a b ha hb hab
  rw [hsince a (h.flagged ha), hsince b (h.flagged hb)]
  exact hab

theorem popReady {core priority : Nat} {next : ProcessId}
    {l : List ProcessId} (hready : ready core priority = next :: l)
    (habove : ∀ above : Nat, priority < above → (above : Int) ≤ st.highestPriority core →
      ready core above = []) :
    Ranked existing since (st.popReady core priority next) (setReady ready core priority l) := by
  refine ⟨h.toRepresents.popReady hready habove, ?_⟩
  intro core' priority'
  by_cases hat : core' = core ∧ priority' = priority
  · obtain ⟨rfl, rfl⟩ := hat
    rw [setReady, if_pos ⟨rfl, rfl⟩]
    have hsorted := h.sorted core' priority'
    rw [hready] at hsorted
    exact (List.pairwise_cons.mp hsorted).2
  · rw [setReady, if_neg hat]
    exact h.sorted core' priority'

theorem schedule (core : Nat) :
    ∃ ready', Ranked existing since (st.schedule core).state ready' := by
  apply (schedule_spec h.queues core).state (P := fun st => ∃ ready', Ranked existing since st ready')
  · rintro next st' ⟨priority, l, -, hready, habove, rfl⟩
    exact ⟨_, h.popReady hready habove⟩
  · rintro _ st' ⟨rfl, -⟩
    exact ⟨ready, h⟩

theorem enqueue {core : Nat} {target : ProcessId}
    (hexisting : target ∈ existing) (hflag : (st.processes target).isInReadyQueue = false)
    (hnonneg : 0 ≤ (st.processes target).priority)
    (hlt : (st.processes target).priority < priorityMax)
    (hlast : ∀ id, (st.processes id).isInReadyQueue = true → since id < since target) :
    ∃ ready', Ranked existing since (st.enqueue core target) ready' := by
  refine ⟨_, h.toRepresents.enqueue hexisting hflag hnonneg hlt, ?_⟩
  intro core' priority'
  by_cases hat : core' = core ∧ priority' = (st.processes target).priority.toNat
  · obtain ⟨rfl, rfl⟩ := hat
    rw [setReady, if_pos ⟨rfl, rfl⟩, List.pairwise_append]
    refine ⟨h.sorted _ _, by simp, ?_⟩
    intro a ha b hb
    rw [List.mem_singleton] at hb
    rw [hb]
    exact hlast a (h.flagged ha)
  · rw [setReady, if_neg hat]
    exact h.sorted core' priority'

theorem addProcess (core : Nat) {target : ProcessId} (hexisting : target ∈ existing)
    (hlast : (st.processes target).isInReadyQueue = false →
      ∀ id, (st.processes id).isInReadyQueue = true → since id < since target) :
    ∃ ready', Ranked existing since (st.addProcess core target).state ready' := by
  rw [addProcess_eq]
  split_ifs with _ hpriority hqueued
  · exact ⟨ready, h⟩
  · exact ⟨ready, h⟩
  · exact ⟨ready, h⟩
  · have hflag : (st.processes target).isInReadyQueue = false := by
      simpa using not_or.mp hqueued |>.1
    exact h.enqueue hexisting hflag (by omega) (by omega) (hlast hflag)

theorem dequeue {core priority : Nat} {target : ProcessId} (hmem : target ∈ ready core priority) :
    Ranked existing since (st.dequeue core priority target)
      (setReady ready core priority ((ready core priority).erase target)) := by
  refine ⟨h.toRepresents.dequeue hmem, ?_⟩
  intro core' priority'
  exact (h.sorted core' priority').sublist
    (Represents.setReady_erase_sublist ready core priority target core' priority')

theorem lowered (core : Nat) (limit : Int) (steps : Nat) :
    Ranked existing since (st.setHighestPriority core
      (st.lowerBound core limit steps (st.highestPriority core))) ready :=
  ⟨h.toRepresents.lowered core limit steps, h.sorted⟩

theorem removeProcess (core : Nat) (target : ProcessId) :
    ∃ ready', Ranked existing since (st.removeProcess core target).state ready' := by
  apply (removeProcess_spec h.queues core target).state
    (P := fun st => ∃ ready', Ranked existing since st ready')
  · rintro _ st' ⟨priority, hmem, rfl⟩
    have hdequeue := h.dequeue hmem
    rw [← dequeue_highestPriority st core priority core target]
    exact ⟨_, hdequeue.lowered core 0 _⟩
  · rintro _ st' ⟨-, rfl, -⟩
    exact ⟨ready, h⟩

theorem directBound (core : Nat) (priority : Int) :
    Ranked existing since (st.setHighestPriority core (st.directBound core priority)) ready :=
  ⟨h.toRepresents.directBound core priority, h.sorted⟩

theorem tryDirectSchedule {core : Nat} {target : ProcessId} (hexisting : target ∈ existing)
    (hlast : (st.processes target).isInReadyQueue = false →
      ∀ id, (st.processes id).isInReadyQueue = true → since id < since target) :
    ∃ ready', Ranked existing since (st.tryDirectSchedule core target).state ready' := by
  have hbound := h.directBound core (st.processes target).priority
  unfold ProcState.tryDirectSchedule
  dsimp only
  split_ifs
  · exact ⟨ready, h⟩
  · exact ⟨ready, hbound⟩
  · have hadd := hbound.addProcess core hexisting hlast
    generalize (st.setHighestPriority core _).addProcess core target = outcome at hadd ⊢
    obtain ⟨ready', hadd⟩ := hadd
    obtain ⟨_ | _, state⟩ := outcome
    · exact ⟨ready', hadd⟩
    · exact hadd.schedule core
  · exact ⟨ready, hbound⟩
  · exact ⟨ready, hbound⟩

theorem outside (hframe : st.OutsideScheduler st') :
    Ranked existing since st' ready := ⟨h.toRepresents.outside hframe, h.sorted⟩

theorem configurePriority {target : ProcessId}
    {priority : Word} (hkeeps : (SchedulerCall.configurePriority target
      priority).KeepsQueuedPriorities st) :
    Ranked existing since (st.configurePriority target priority).state ready := by
  unfold ProcState.configurePriority
  split
  · exact h
  next hvalid =>
      apply h.outside
      rw [Outcome.ok_state]
      refine ⟨fun id => ?_, fun id hflag => ?_, fun _ => rfl, rfl⟩
      · rw [modifyProcess_processes]
        by_cases hid : id = target <;> simp [hid]
      · rw [modifyProcess_processes]
        split
        case isFalse => rfl
        case isTrue htarget =>
          subst htarget
          rcases hkeeps with hunqueued | hrefused | hsame
          · simp [hunqueued] at hflag
          · exact absurd hrefused hvalid
          · exact hsame.symm

theorem selects (core : Nat) : (st.schedule core).Post
      (fun next _ => st.ReadyOn core next ∧ ∀ id, st.ReadyOn core id →
        (st.processes id).priority ≤ (st.processes next).priority ∧
          ((st.processes id).priority = (st.processes next).priority → id ≠ next →
            since next < since id))
      (fun _ _ => ∀ id, ¬ st.ReadyOn core id) := by
  simp only [h.queues.readyOn_iff]
  apply (schedule_spec h.queues core).mono
  · rintro next _ ⟨priority, l, -, hready, habove, -⟩
    have hin : next ∈ ready core priority := by simp [hready]
    refine ⟨⟨priority, hin⟩, ?_⟩
    rintro id ⟨priority', hid⟩
    rw [h.priority hin, h.priority hid]
    refine ⟨?_, fun heq hne => ?_⟩
    · -- a queue above the one that was popped would be empty
      by_contra hlt
      simp [h.empty_above habove (show priority < priority' by omega)] at hid
    · obtain rfl : priority' = priority := by omega
      have hsorted := h.sorted core priority'
      rw [hready, List.pairwise_cons] at hsorted
      rw [hready, List.mem_cons] at hid
      exact hsorted.1 id (hid.resolve_left hne)
  · rintro _ _ ⟨-, hempty⟩ id ⟨priority, hid⟩
    have hnil : ready core priority = [] := by
      by_cases hle : (priority : Int) ≤ st.highestPriority core
      · exact hempty priority hle
      · exact h.bound core priority (by omega)
    simp [hnil] at hid

end

end Ranked

end ProcState

namespace Timed

variable {existing : Finset ProcessId} {t t' : Timed}

def Ordered (existing : Finset ProcessId) (t : Timed) : Prop :=
  (∃ ready, ProcState.Ranked existing t.since t.state ready) ∧
    ∀ id, (t.state.processes id).isInReadyQueue = true → t.since id < t.now

theorem ordered_start {st : ProcState} (h : st.NothingReady existing) :
    (start st).Ordered existing := by
  refine ⟨⟨fun _ _ => [], ⟨h.readyQueues, by simp, fun _ _ _ => rfl⟩, by simp⟩, ?_⟩
  intro id hid
  rw [show ((start st).state.processes id).isInReadyQueue = false from (h.process id).1] at hid
  simp at hid

theorem ordered_step
    (h : t.Ordered existing) (hstep : Step existing (fun st c => c.KeepsQueuedPriorities st) t t') :
    t'.Ordered existing := by
  obtain ⟨⟨ready, hranked⟩, hpast⟩ := h
  -- the clock of the successor, before the call
  have hnow : ∀ st id, (t.advance st).since id < (t.advance st).now := by
    intro st id
    change (if (t.state.processes id).isInReadyQueue then t.since id else t.now) < t.now + 1
    split
    next hflag => exact (hpast id hflag).trans (Nat.lt_succ_self _)
    · exact Nat.lt_succ_self _
  have hranked' : ∀ st, ProcState.Ranked existing (t.advance st).since t.state ready := by
    intro st
    apply hranked.congr_since
    intro id hflag
    exact if_pos hflag
  have hlast : ∀ st target, (t.state.processes target).isInReadyQueue = false → ∀ id,
      (t.state.processes id).isInReadyQueue = true →
        (t.advance st).since id < (t.advance st).since target := by
    intro st target htarget id hflag
    change (if _ then _ else _) < (if _ then _ else _)
    rw [if_pos hflag, htarget]
    exact hpast id hflag
  cases hstep with
  | outside hframe => exact ⟨⟨ready, (hranked' _).outside hframe⟩, fun id _ => hnow _ id⟩
  | call c hnames hkeeps =>
    refine ⟨?_, fun id _ => hnow _ id⟩
    cases c with
    | op op =>
      cases op with
      | addProcess core target => exact (hranked' _).addProcess core hnames (hlast _ target)
      | removeProcess core target => exact (hranked' _).removeProcess core target
      | schedule core => exact (hranked' _).schedule core
      | tryDirectSchedule core target =>
        exact (hranked' _).tryDirectSchedule hnames (hlast _ target)
    | configurePriority target priority =>
      exact ⟨ready, (hranked' _).configurePriority hkeeps⟩

theorem ordered_run {st : ProcState} (hstart : st.NothingReady existing)
    (hrun : Relation.ReflTransGen (Step existing fun st c => c.KeepsQueuedPriorities st)
      (start st) t) : t.Ordered existing := by
  induction hrun with
  | refl => exact ordered_start hstart
  | tail _ hstep ih => exact ordered_step ih hstep

/-- In every run that rewrites no priority of a queued process, `schedule` selects the
longest-waiting process of the highest ready priority, and fails only when nothing is ready. -/
theorem schedule_selectsHighest {st : ProcState} (hstart : st.NothingReady existing)
    (hrun : Relation.ReflTransGen (Step existing fun st c => c.KeepsQueuedPriorities st)
      (start st) t) (core : Nat) : t.SelectsHighest core := by
  obtain ⟨⟨ready, hranked⟩, -⟩ := ordered_run hstart hrun
  exact hranked.selects core

section Example

def twoProcesses : ProcState where
  processes
    | .user 0x1000 => { status := .ready, priority := 5 }
    | .user 0x2000 => { status := .ready, priority := 3 }
    | _ => {}
  cpus _ := {}
  hardwareRoot _ := 0
  owners _ := 0
  processCount := 2

def bothProcesses : Finset ProcessId := {.user 0x1000, .user 0x2000}

theorem first_mem : ProcessId.user 0x1000 ∈ bothProcesses := by decide

theorem second_mem : ProcessId.user 0x2000 ∈ bothProcesses := by decide

theorem nothingReady_twoProcesses : twoProcesses.NothingReady bothProcesses where
  queue _ _ := rfl
  process id := by
    unfold twoProcesses
    dsimp only
    split <;> exact ⟨rfl, rfl, rfl⟩
  bound _ := rfl
  card := by decide

def afterAdding : Timed :=
  let one := (start twoProcesses).advance
    (SchedulerCall.run twoProcesses (.op (.addProcess 0 (.user 0x1000))))
  one.advance (SchedulerCall.run one.state (.op (.addProcess 0 (.user 0x2000))))

theorem afterAdding_reachable (allowed : ProcState → SchedulerCall → Prop)
    (hallowed : ∀ st core target, allowed st (.op (.addProcess core target))) :
    Relation.ReflTransGen (Step bothProcesses allowed) (start twoProcesses) afterAdding :=
  (Relation.ReflTransGen.single (.call (.op (.addProcess 0 (.user 0x1000))) first_mem
    (hallowed _ _ _))).tail
      (.call (.op (.addProcess 0 (.user 0x2000))) second_mem (hallowed _ _ _))

theorem schedule_selectsHighest_afterAdding :
    twoProcesses.NothingReady bothProcesses ∧ afterAdding.SelectsHighest 0 :=
  ⟨nothingReady_twoProcesses, schedule_selectsHighest nothingReady_twoProcesses
    (afterAdding_reachable _ fun _ _ _ => trivial) 0⟩

/-- A process queued at priority 3 is given priority 10; `schedule` still returns the one of
priority 5. -/
theorem configurePriority_queued_not_selected :
    ∃ t, Relation.ReflTransGen (Step bothProcesses fun _ _ => True) (start twoProcesses) t ∧
      ¬ t.SelectsHighest 0 := by
  refine ⟨afterAdding.advance (SchedulerCall.run afterAdding.state
    (.configurePriority (.user 0x2000) 10)), (afterAdding_reachable _ fun _ _ _ => trivial).tail
      (.call (.configurePriority (.user 0x2000) 10) second_mem trivial), ?_⟩
  intro hselects
  have hready : ProcState.ReadyOn (SchedulerCall.run afterAdding.state
      (.configurePriority (.user 0x2000) 10)) 0 (.user 0x2000) := ⟨3, .user 0x2000, rfl, .refl⟩
  have hpriority := (hselects.2 (.user 0x2000) hready).1
  exact absurd hpriority (by decide)

end Example

end Timed

end A9N.Kernel
