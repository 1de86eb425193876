import A9N.Kernel.Process.ProcessManager

/-!
# What the process manager may write

Each function of the scheduler and of the process manager is described once, by the permissions it
needs: to give a process a status, to let it enter a ready queue, to change what a core runs, to
interrupt another core. What the function leaves alone follows from the permissions that are
withheld.
-/

namespace A9N.Kernel

open Hal

def Process.unlinked (process : Process) : Process :=
  { process with preview := none, next := none, isInReadyQueue := false }

inductive Grant
  | status (id : ProcessId) (status : ProcessStatus)
  | enter (id : ProcessId)
  | current (core : Nat)
  | interrupt

structure Process.Touched (may : Grant → Prop) (id : ProcessId) (before after : Process) : Prop where
  priority : after.priority = before.priority
  coreAffinity : after.coreAffinity = before.coreAffinity
  status : after.status = before.status ∨ may (.status id after.status)
  quantum : after.quantum = before.quantum ∨ ∃ status, may (.status id status)
  entered : after.isInReadyQueue = true → before.isInReadyQueue = true ∨ may (.enter id)

structure ProcState.Touches (may : Grant → Prop) (st st' : ProcState) : Prop where
  process : ∀ id, (st.processes id).Touched may id (st'.processes id)
  current : ∀ core, (st'.cpus core).currentProcess = (st.cpus core).currentProcess ∧
    (st'.cpus core).isIdle = (st.cpus core).isIdle ∨ may (.current core)
  roots : st'.hardwareRoot = st.hardwareRoot ∧ st'.owners = st.owners ∨ ∃ core, may (.current core)
  interrupts : (∀ core, (st'.cpus core).pendingRescheduleTarget =
    (st.cpus core).pendingRescheduleTarget) ∧ st'.ipis = st.ipis ∧
      st'.unsignalled = st.unsignalled ∨ may .interrupt
  processCount : st'.processCount = st.processCount

variable {may : Grant → Prop}

theorem Process.Touched.trans {id : ProcessId} {a b c : Process} (h : a.Touched may id b)
    (h' : b.Touched may id c) : a.Touched may id c where
  priority := h'.priority.trans h.priority
  coreAffinity := h'.coreAffinity.trans h.coreAffinity
  status := by
    rcases h'.status with heq | hmay
    · rw [heq]
      exact h.status
    · exact .inr hmay
  quantum := by
    rcases h'.quantum with heq | hmay
    · rw [heq]
      exact h.quantum
    · exact .inr hmay
  entered hflag := (h'.entered hflag).elim h.entered .inr

theorem switchContext_frame (p : Platform) (root : ProcessId → Word) (core : Nat)
    (next : ProcessId) (proc : ProcState) :
    (switchContext p root core next proc).state.processes = proc.processes ∧
      (switchContext p root core next proc).state.cpus = proc.cpus ∧
      (switchContext p root core next proc).state.processCount = proc.processCount ∧
      (switchContext p root core next proc).state.ipis = proc.ipis ∧
      (switchContext p root core next proc).state.unsignalled = proc.unsignalled := by
  unfold switchContext replaceRoot
  dsimp only
  split_ifs <;> exact ⟨rfl, rfl, rfl, rfl, rfl⟩

namespace ProcState

theorem raiseBound_queue (st : ProcState) (core core' priority' : Nat) (priority : Int) :
    (st.raiseBound core priority).queue core' priority' = st.queue core' priority' := by
  unfold raiseBound
  split
  · simp
  · rfl

def enqueue (st : ProcState) (core : Nat) (target : ProcessId) : ProcState :=
  let priority := (st.processes target).priority.toNat
  let bounded := st.raiseBound core (st.processes target).priority
  match (st.queue core priority).head, (st.queue core priority).tail with
  | some head, some tail =>
    ((bounded.modifyProcess tail fun process => { process with next := some target }).setQueue
      core priority { head := some head, tail := some target }).modifyProcess target
        fun process => { process with preview := some tail, next := none, isInReadyQueue := true }
  | _, _ =>
    (bounded.setQueue core priority { head := some target, tail := some target }).modifyProcess
      target fun process => { process with isInReadyQueue := true }

theorem addProcess_eq (st : ProcState) (core : Nat) (target : ProcessId) :
    st.addProcess core target =
      if (st.processes target).status ≠ .ready then .error .invalidProcess st
      else if (st.processes target).priority < 0 ∨
          (priorityMax : Int) ≤ (st.processes target).priority then .error .invalidPriority st
      else if (st.processes target).isInReadyQueue ∨ (st.processes target).next.isSome ∨
          (st.processes target).preview.isSome then .error .processAlreadyExistsInQueue st
      else .ok () (st.enqueue core target) := by
  unfold addProcess enqueue
  simp only [raiseBound_queue]
  split_ifs
  · rfl
  · rfl
  · rfl
  · cases (st.queue core (st.processes target).priority.toNat).head <;>
      cases (st.queue core (st.processes target).priority.toNat).tail <;> rfl

namespace Touches

variable {p : Platform} {root : ProcessId → Word} {sendIpi : Nat → Bool} {st st' st'' : ProcState}
  {core : Nat} {target : ProcessId}

theorem refl (st : ProcState) : Touches may st st where
  process _ := ⟨rfl, rfl, .inl rfl, .inl rfl, .inl⟩
  current _ := .inl ⟨rfl, rfl⟩
  roots := .inl ⟨rfl, rfl⟩
  interrupts := .inl ⟨fun _ => rfl, rfl, rfl⟩
  processCount := rfl

theorem trans (h : Touches may st st') (h' : Touches may st' st'') : Touches may st st'' where
  process id := (h.process id).trans (h'.process id)
  current core := by
    rcases h'.current core with ⟨heq, hidle⟩ | hmay
    · rw [heq, hidle]
      exact h.current core
    · exact .inr hmay
  roots := by
    rcases h'.roots with ⟨hroot, howners⟩ | hmay
    · rw [hroot, howners]
      exact h.roots
    · exact .inr hmay
  interrupts := by
    rcases h'.interrupts with ⟨hpending, hipis, hunsignalled⟩ | hmay
    · simp only [hpending, hipis, hunsignalled]
      exact h.interrupts
    · exact .inr hmay
  processCount := h'.processCount.trans h.processCount

theorem currentProcess (h : Touches (fun grant => ∀ core, grant ≠ .current core) st st')
    (core : Nat) : (st'.cpus core).currentProcess = (st.cpus core).currentProcess :=
  ((h.current core).resolve_right (by simp)).1

theorem statusOf {id : ProcessId}
    (h : Touches (fun grant => ∀ status, grant ≠ .status id status) st st') :
    (st'.processes id).status = (st.processes id).status :=
  (h.process id).status.resolve_right (by simp)

/-! ## Single writes -/

section

variable (h : Touches may st st')
include h

theorem modifyProcess (id : ProcessId) (f : Process → Process)
    (hf : ∀ process : Process, process.Touched may id (f process)) :
    Touches may st (st'.modifyProcess id f) where
  process other := by
    rw [modifyProcess_processes]
    split_ifs with hother
    · rw [hother]
      exact (h.process id).trans (hf _)
    · exact h.process other
  current := h.current
  roots := h.roots
  interrupts := h.interrupts
  processCount := h.processCount

theorem links (id : ProcessId) (f : Process → Process)
    (hf : ∀ process, (f process).unlinked = process.unlinked ∧
      ((f process).isInReadyQueue = true → process.isInReadyQueue = true ∨ may (.enter id))) :
    Touches may st (st'.modifyProcess id f) := by
  refine h.modifyProcess id f fun process => ?_
  obtain ⟨hsame, hflag⟩ := hf process
  simp only [Process.unlinked, Process.mk.injEq] at hsame
  exact ⟨hsame.2.1, hsame.2.2.2.1, .inl hsame.1, .inl hsame.2.2.1, hflag⟩

theorem modifyScheduler (core : Nat) (f : Scheduler → Scheduler) :
    Touches may st (st'.modifyScheduler core f) := by
  refine h.trans ⟨(refl st').process, fun other => .inl ?_, .inl ⟨rfl, rfl⟩,
    .inl ⟨fun other => ?_, rfl, rfl⟩, rfl⟩ <;>
    by_cases hcore : other = core <;>
    simp [ProcState.modifyScheduler, ProcState.modifyCpu, hcore]

theorem setQueue (core priority : Nat) (q : ProcessQueue) :
    Touches may st (st'.setQueue core priority q) := h.modifyScheduler core _

theorem setHighestPriority (core : Nat) (bound : Int) :
    Touches may st (st'.setHighestPriority core bound) := h.modifyScheduler core _

theorem raiseBound (core : Nat) (priority : Int) :
    Touches may st (st'.raiseBound core priority) := by
  unfold ProcState.raiseBound
  split
  · exact h.setHighestPriority core priority
  · exact h

theorem setCurrent (hcore : may (.current core)) (id : ProcessId)
    (isIdle : Bool) : Touches may st (st'.setCurrent core id isIdle) := by
  refine h.trans ⟨(refl st').process, fun other => ?_, .inl ⟨rfl, rfl⟩,
    .inl ⟨fun other => ?_, rfl, rfl⟩, rfl⟩
  · by_cases hother : other = core
    · exact .inr (hother ▸ hcore)
    · simp [ProcState.setCurrent, ProcState.modifyCpu, hother]
  · by_cases hother : other = core <;> simp [ProcState.setCurrent, ProcState.modifyCpu, hother]

theorem switchContext (hcore : may (.current core)) (next : ProcessId) :
    Touches may st (switchContext p root core next st').state := by
  obtain ⟨hprocesses, hcpus, hcount, hipis⟩ := switchContext_frame p root core next st'
  refine h.trans ⟨fun id => ?_, fun core => ?_, .inr ⟨core, hcore⟩, .inl ⟨fun core => ?_, hipis⟩,
    hcount⟩
  · rw [hprocesses]
    exact (refl st').process id
  · rw [hcpus]
    exact .inl ⟨rfl, rfl⟩
  · rw [hcpus]

theorem signalRemote (hmay : may .interrupt) (core : Nat)
    (target : ProcessId) : Touches may st (st'.signalRemote p sendIpi core target).state := by
  have hpending : Touches may st' (st'.modifyCpu core fun cpu =>
      { cpu with pendingRescheduleTarget := cpu.pendingRescheduleTarget.or (some target) }) := by
    refine ⟨(refl st').process, fun other => .inl ?_, .inl ⟨rfl, rfl⟩, .inr hmay, rfl⟩
    by_cases hother : other = core <;> simp [ProcState.modifyCpu, hother]
  unfold ProcState.signalRemote rescheduleCore
  dsimp only
  split_ifs
  · exact h.trans ⟨hpending.process, hpending.current, hpending.roots, .inr hmay, rfl⟩
  · exact h.trans hpending
  · exact h.trans hpending

end

theorem andThen {ε α β : Type} {o : Outcome ε ProcState α} (h : Touches may st o.state)
    {next : α → ProcState → Outcome ε ProcState β}
    (hnext : ∀ value state, Touches may st state → Touches may st (next value state).state) :
    Touches may st (o.andThen next).state :=
  Outcome.andThen_keeps h hnext

section

variable {ε ε' α : Type} {o : Outcome ε ProcState α} (h : Touches may st o.state)
include h

theorem orElse {next : ε → ProcState → Outcome ε' ProcState α}
    (hnext : ∀ e state, Touches may st state → Touches may st (next e state).state) :
    Touches may st (o.orElse next).state :=
  Outcome.orElse_keeps h hnext

theorem transformError (f : ε → ε') : Touches may st (o.transformError f).state := by
  rw [Outcome.transformError_state]
  exact h

end

/-! ## The scheduler -/

section

variable (h : Touches may st st')
include h

theorem popReady (core priority : Nat) (next : ProcessId) :
    Touches may st (st'.popReady core priority next) := by
  unfold ProcState.popReady
  refine links (setHighestPriority ?_ _ _) _ _ fun _ => ⟨rfl, by simp⟩
  split
  · exact links (h.setQueue _ _ _) _ _ fun _ => ⟨rfl, .inl⟩
  · exact h.setQueue _ _ _

theorem schedule (core : Nat) : Touches may st (st'.schedule core).state := by
  unfold ProcState.schedule
  split
  · exact h
  · exact h.popReady core _ _

section

variable (htarget : may (.enter target)) (core : Nat)
include htarget

theorem enqueue : Touches may st (st'.enqueue core target) := by
  have hbound := h.raiseBound core (st'.processes target).priority
  unfold ProcState.enqueue
  dsimp only
  split
  · refine links (setQueue ?_ _ _ _) _ _ fun _ => ⟨rfl, fun _ => .inr htarget⟩
    exact links hbound _ _ fun _ => ⟨rfl, .inl⟩
  · exact links (hbound.setQueue _ _ _) _ _ fun _ => ⟨rfl, fun _ => .inr htarget⟩

theorem addProcess : Touches may st (st'.addProcess core target).state := by
  rw [addProcess_eq]
  split_ifs
  · exact h
  · exact h
  · exact h
  · exact h.enqueue htarget core

theorem tryDirectSchedule : Touches may st (st'.tryDirectSchedule core target).state := by
  have hbound := h.setHighestPriority core (st'.directBound core (st'.processes target).priority)
  unfold ProcState.tryDirectSchedule
  dsimp only
  split_ifs
  · exact h
  · exact hbound
  · exact (hbound.addProcess htarget core).andThen fun _ _ hadded => hadded.schedule core
  · exact hbound
  · exact hbound

end

section

variable (core priority : Nat) (previous next : Option ProcessId)

theorem linkNext : Touches may st (match previous with
      | some id => st'.modifyProcess id fun process => { process with next := next }
      | none => st'.setQueue core priority { st'.queue core priority with head := next }) := by
  split
  · exact links h _ _ fun _ => ⟨rfl, .inl⟩
  · exact h.setQueue _ _ _

theorem linkPreview : Touches may st (match next with
      | some id => st'.modifyProcess id fun process => { process with preview := previous }
      | none => st'.setQueue core priority { st'.queue core priority with tail := previous }) := by
  split
  · exact links h _ _ fun _ => ⟨rfl, .inl⟩
  · exact h.setQueue _ _ _

end

theorem removeProcess (core : Nat) (target : ProcessId) :
    Touches may st (st'.removeProcess core target).state := by
  unfold ProcState.removeProcess
  split
  · exact h
  next priority previous _ =>
    dsimp only [Outcome.ok_state]
    refine setHighestPriority ?_ _ _
    refine links ?_ _ _ fun _ => ⟨rfl, by simp⟩
    exact (h.linkNext core priority previous _).linkPreview core priority previous _

end

/-! ## The process manager -/

section Switch

variable (hcore : may (.current core))

include hcore

section

variable (h : Touches may st st')
include h

theorem switchTo (next : ProcessId) : Touches may st (st'.switchTo p root core next).state :=
  (h.setCurrent hcore next false).switchContext hcore next

theorem switchToIdle : Touches may st (st'.switchToIdle p root core).state := by
  unfold ProcState.switchToIdle
  split
  · exact h
  · exact ((h.switchContext hcore _).transformError _).andThen fun _ _ hswitched =>
      hswitched.setCurrent hcore _ true

theorem tryScheduleAndSwitch : Touches may st (st'.tryScheduleAndSwitch p root core).state := by
  unfold ProcState.tryScheduleAndSwitch trySchedule
  apply transformError
  apply orElse
  · exact ((h.schedule core).transformError _).andThen fun next _ hnext => hnext.switchTo hcore next
  · exact fun _ _ hfailed => (hfailed.switchToIdle hcore).transformError _

theorem tryDirectScheduleAndSwitchLocal (htarget : may (.enter target)) :
    Touches may st (st'.tryDirectScheduleAndSwitchLocal p root core target).state := by
  unfold ProcState.tryDirectScheduleAndSwitchLocal
  apply transformError
  exact ((h.tryDirectSchedule htarget core).transformError _).andThen fun next _ hnext =>
    hnext.switchTo hcore next

theorem tryRemoteTargetAndSwitch (target : ProcessId) :
    Touches may st (st'.tryRemoteTargetAndSwitch p root core target).state := by
  unfold ProcState.tryRemoteTargetAndSwitch
  split
  · exact h
  · exact ((h.removeProcess core target).transformError _).andThen fun _ _ hremoved =>
      (hremoved.switchTo hcore target).transformError _

end

end Switch

structure Wakes (may : Grant → Prop) (id : ProcessId) : Prop where
  ready : may (.status id .ready)
  idle : ∀ core, id = .idle core → may (.status id .idle)
  enter : may (.enter id)

section

variable (h : Touches may st st')
include h

theorem awake (hready : may (.status target .ready)) :
    Touches may st ((st'.modifyProcess target fun process =>
      { process with quantum := quantumMax }).modifyProcess target fun process =>
        { process with status := .ready }) := by
  refine modifyProcess (h.modifyProcess target _ ?_) target _ ?_
  · exact fun _ => ⟨rfl, rfl, .inl rfl, .inr ⟨_, hready⟩, .inl⟩
  · exact fun _ => ⟨rfl, rfl, .inr hready, .inl rfl, .inl⟩

theorem markScheduledOn (hwakes : Wakes may target) (core : Nat) :
    Touches may st (st'.markScheduledOn core target).state := by
  unfold ProcState.markScheduledOn
  dsimp only
  split
  case isTrue heq =>
    dsimp only [Outcome.ok_state]
    refine modifyProcess (h.modifyProcess target _ ?_) target _ ?_
    · exact fun _ => ⟨rfl, rfl, .inl rfl, .inr ⟨_, hwakes.ready⟩, .inl⟩
    · exact fun _ => ⟨rfl, rfl, .inr (hwakes.idle core heq), .inl rfl, .inl⟩
  case isFalse =>
    apply ((h.awake hwakes.ready).addProcess hwakes.enter core).orElse
    intro _ _ hfailed
    split_ifs <;> exact hfailed

theorem markSuspended (hmay : may (.status target .blockedSuspend))
    (core : Nat) : Touches may st (st'.markSuspended core target).state := by
  unfold ProcState.markSuspended
  apply andThen
  · apply (h.removeProcess core target).orElse
    intro _ _ hfailed
    split_ifs <;> exact hfailed
  · intro _ _ hremoved
    dsimp only [Outcome.ok_state]
    refine modifyProcess hremoved target _ ?_
    exact fun _ => ⟨rfl, rfl, .inr hmay, .inl rfl, .inl⟩

theorem tryDirectScheduleAndSwitch (hwakes : Wakes may target)
    (hcores : ∀ core, may (.current core)) (hmay : may .interrupt) (current : ProcessId) :
    Touches may st (st'.tryDirectScheduleAndSwitch p root sendIpi current target).state := by
  unfold ProcState.tryDirectScheduleAndSwitch
  dsimp only
  split_ifs
  · exact h.tryDirectScheduleAndSwitchLocal (hcores _) hwakes.enter
  · apply ((h.markScheduledOn hwakes _).andThen fun _ _ hmarked =>
      hmarked.signalRemote hmay _ target).andThen
    exact fun _ _ hsignalled => hsignalled.tryScheduleAndSwitch (hcores _)

end

end Touches

end ProcState

end A9N.Kernel
