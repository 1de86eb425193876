import A9N.Kernel.Ipc.Placement

/-!
# Rescheduling from an interrupt

`handle_ipi_reschedule` puts the current process back into its ready queue and then takes either
the process that a remote core has left in `pending_reschedule_target` or the one `schedule`
selects. The selection of `schedule` is the highest; the remembered process is run whatever its
priority.
-/

namespace A9N.Kernel

open Hal

namespace ProcState

def requeueCurrent (core : Nat) (current : ProcessId) (st : ProcState) :
    Outcome KernelError ProcState Unit :=
  let st := st.modifyCpu core fun cpu => { cpu with pendingRescheduleTarget := none }
  if (st.processes current).status = .ready ∨ (st.processes current).status = .idle then
    st.markScheduledOn core current
  else .ok () st

def remoteTarget (core : Nat) (target : Option ProcessId) (st : ProcState) : Option ProcessId :=
  target.filter fun id => (st.processes id).coreAffinity.toNat = core ∧
    (st.processes id).status = .ready ∧ (st.processes id).isInReadyQueue

/-- `handle_ipi_reschedule` on the scheduling state, with its result. -/
def rescheduleFromIpi (p : Platform) (root : ProcessId → Word) (core : Nat) (current : ProcessId)
    (st : ProcState) : Outcome KernelError ProcState Unit :=
  (st.requeueCurrent core current).andThen fun _ st' =>
    match st'.remoteTarget core (st.cpus core).pendingRescheduleTarget with
    | some target => st'.tryRemoteTargetAndSwitch p root core target
    | none => st'.tryScheduleAndSwitch p root core

/-- The queues are as the scheduler keeps them while no queued process is given another priority:
every process is filed under its priority, in some order of arrival, and no queue above the cached
bound holds any. -/
def Filed (existing : Finset ProcessId) (st : ProcState) : Prop :=
  ∃ since ready, Ranked existing since st ready

/-- No process in the ready queues of a core has a higher priority than the one that runs. -/
def HighestRuns (st : ProcState) (core : Nat) : Prop :=
  ∃ current, (st.cpus core).currentProcess = some current ∧
    ∀ id, st.ReadyOn core id → (st.processes id).priority ≤ (st.processes current).priority

/-- The interrupt puts the running process back into a ready queue. -/
def GoesBack (st : ProcState) (core : Nat) (current : ProcessId) : Prop :=
  current ≠ .idle core ∧
    ((st.processes current).status = .ready ∨ (st.processes current).status = .idle)

/-- The processes that compete for the core: those in its ready queues, and the running one if it goes
back and is in no queue yet. -/
def Competes (st : ProcState) (core : Nat) (current id : ProcessId) : Prop :=
  st.ReadyOn core id ∨
    id = current ∧ st.GoesBack core current ∧ (st.processes current).isInReadyQueue = false

/-- The remembered process is taken: it is of this core, READY and queued, or it is the running process
and goes back. -/
def TakenTarget (st : ProcState) (core : Nat) (current target : ProcessId) : Prop :=
  (st.cpus core).pendingRescheduleTarget = some target ∧
    (st.processes target).coreAffinity.toNat = core ∧
    (target ≠ current ∧ (st.processes target).status = .ready ∧
        (st.processes target).isInReadyQueue = true ∨
      target = current ∧ st.GoesBack core current)

variable {existing : Finset ProcessId} {st st' st'' : ProcState} {core : Nat}

/-! ### Outside the scheduler -/

/-- Nothing that the scheduler reads changes, also for processes that are in no queue. -/
structure Elsewhere (st st' : ProcState) : Prop extends OutsideScheduler st st' where
  priorities : ∀ id, (st'.processes id).priority = (st.processes id).priority

theorem Elsewhere.of_scheduler
    (hprocess : ∀ id, (st'.processes id).next = (st.processes id).next ∧
      (st'.processes id).preview = (st.processes id).preview ∧
      (st'.processes id).isInReadyQueue = (st.processes id).isInReadyQueue ∧
      (st'.processes id).priority = (st.processes id).priority)
    (hscheduler : ∀ core, (st'.cpus core).scheduler = (st.cpus core).scheduler)
    (hcount : st'.processCount = st.processCount) : Elsewhere st st' where
  links id := ⟨(hprocess id).1, (hprocess id).2.1, (hprocess id).2.2.1⟩
  priority id _ := (hprocess id).2.2.2
  scheduler := hscheduler
  processCount := hcount
  priorities id := (hprocess id).2.2.2

theorem Elsewhere.trans (h : Elsewhere st st') (h' : Elsewhere st' st'') : Elsewhere st st'' := by
  refine .of_scheduler (fun id => ?_) (fun core => (h'.scheduler core).trans (h.scheduler core))
    (h'.processCount.trans h.processCount)
  obtain ⟨hnext, hpreview, hflag⟩ := h.links id
  obtain ⟨hnext', hpreview', hflag'⟩ := h'.links id
  exact ⟨hnext'.trans hnext, hpreview'.trans hpreview, hflag'.trans hflag,
    (h'.priorities id).trans (h.priorities id)⟩

theorem Elsewhere.readyOn_iff (h : Elsewhere st st') {id : ProcessId} :
    st'.ReadyOn core id ↔ st.ReadyOn core id := by
  unfold ReadyOn ProcState.queue
  rw [h.scheduler core]
  simp only [(h.links _).1]

theorem Elsewhere.modifyProcess (st : ProcState) (id : ProcessId) {f : Process → Process}
    (hf : ∀ process, (f process).next = process.next ∧ (f process).preview = process.preview ∧
      (f process).isInReadyQueue = process.isInReadyQueue ∧
      (f process).priority = process.priority) : Elsewhere st (st.modifyProcess id f) := by
  refine .of_scheduler (fun other => ?_) (fun _ => rfl) rfl
  rw [modifyProcess_processes]
  split_ifs with hother
  · rw [hother]
    exact hf _
  · exact ⟨rfl, rfl, rfl, rfl⟩

theorem Elsewhere.modifyCpu (st : ProcState) (core : Nat) {f : Cpu → Cpu}
    (hf : ∀ cpu, (f cpu).scheduler = cpu.scheduler) : Elsewhere st (st.modifyCpu core f) := by
  refine .of_scheduler (fun _ => ⟨rfl, rfl, rfl, rfl⟩) (fun other => ?_) rfl
  unfold ProcState.modifyCpu
  by_cases hother : other = core <;> simp [hother, hf]

section

variable (p : Platform) (root : ProcessId → Word) (core : Nat) (next : ProcessId) (st : ProcState)

theorem Elsewhere.switchContext : Elsewhere st (switchContext p root core next st).state := by
  obtain ⟨hprocesses, hcpus, hcount, -⟩ := switchContext_frame p root core next st
  refine .of_scheduler (fun id => ?_) (fun core => ?_) hcount
  · rw [hprocesses]
    exact ⟨rfl, rfl, rfl, rfl⟩
  · rw [hcpus]

theorem Elsewhere.switchTo : Elsewhere st (st.switchTo p root core next).state :=
  (Elsewhere.modifyCpu st core
    (f := fun cpu => { cpu with currentProcess := some next, isIdle := false }) fun _ => rfl).trans
    (.switchContext p root core next _)

end

theorem setCurrent_currentProcess (st : ProcState) (core : Nat) (next : ProcessId) (isIdle : Bool) :
    ((st.setCurrent core next isIdle).cpus core).currentProcess = some next := by
  simp [setCurrent, modifyCpu]

theorem switchTo_currentProcess (p : Platform) (root : ProcessId → Word) (core : Nat)
    (next : ProcessId) (st : ProcState) :
    ((st.switchTo p root core next).state.cpus core).currentProcess = some next := by
  unfold switchTo
  rw [(switchContext_frame p root core next _).2.1]
  exact setCurrent_currentProcess st core next false

theorem Filed.elsewhere (h : Filed existing st) (hframe : Elsewhere st st') : Filed existing st' := by
  obtain ⟨since, ready, hranked⟩ := h
  exact ⟨since, ready, hranked.outside hframe.toOutsideScheduler⟩

/-! ### The current process goes back -/

theorem Filed.addProcess (h : Filed existing st) (core : Nat) {target : ProcessId}
    (htarget : target ∈ existing) :
    Filed existing (st.addProcess core target).state := by
  obtain ⟨since, ready, hranked⟩ := h
  let since' : ProcessId → Nat := fun id =>
    if (st.processes id).isInReadyQueue then since id else existing.sup since + 1
  have hranked' : Ranked existing since' st ready :=
    hranked.congr_since fun id hflag => if_pos hflag
  have hlast : (st.processes target).isInReadyQueue = false →
      ∀ id, (st.processes id).isInReadyQueue = true → since' id < since' target := by
    intro hfree id hflag
    obtain ⟨_, _, hid⟩ := (hranked.queues.flagged id).mp hflag
    have hle : since id ≤ existing.sup since := Finset.le_sup (hranked.queues.mem_existing hid)
    have hid' : since' id = since id := if_pos hflag
    have htarget' : since' target = existing.sup since + 1 := by
      change (if _ then _ else _) = _
      rw [hfree]
      rfl
    omega
  exact ⟨since', hranked'.addProcess core htarget hlast⟩

theorem Filed.markScheduledOn (h : Filed existing st) {target : ProcessId}
    (htarget : target ≠ .idle core → target ∈ existing) : Filed existing (st.markScheduledOn core target).state := by
  have hquantum : Elsewhere st (st.modifyProcess target fun process =>
      { process with quantum := quantumMax }) := .modifyProcess st target fun _ => ⟨rfl, rfl, rfl, rfl⟩
  have hstatus : ∀ status, Elsewhere st ((st.modifyProcess target fun process =>
      { process with quantum := quantumMax }).modifyProcess target fun process =>
        { process with status := status }) := fun status =>
    hquantum.trans (.modifyProcess _ target fun _ => ⟨rfl, rfl, rfl, rfl⟩)
  unfold ProcState.markScheduledOn
  dsimp only
  split
  · exact h.elsewhere (hstatus .idle)
  next huser =>
    have hadded := (h.elsewhere (hstatus .ready)).addProcess core (htarget huser)
    generalize ProcState.addProcess _ core target = o at hadded
    obtain ⟨_ | _, state⟩ := o
    · unfold Outcome.orElse
      dsimp only
      split <;> exact hadded
    · exact hadded

theorem Filed.requeueCurrent (h : Filed existing st) {current : ProcessId}
    (hcurrent : current ≠ .idle core → current ∈ existing) :
    Filed existing (st.requeueCurrent core current).state := by
  have hforget := h.elsewhere (Elsewhere.modifyCpu st core
    (f := fun cpu => { cpu with pendingRescheduleTarget := none }) fun _ => rfl)
  unfold ProcState.requeueCurrent
  dsimp only
  split
  · exact hforget.markScheduledOn hcurrent
  · exact hforget

/-! ### The two selections -/

section

variable (h : Filed existing st) {p : Platform} {root : ProcessId → Word}
include h

theorem tryRemoteTargetAndSwitch_highestRuns_iff {target : ProcessId}
    (hok : (st.tryRemoteTargetAndSwitch p root core target).result = .ok ()) :
    (st.tryRemoteTargetAndSwitch p root core target).state.HighestRuns core ↔
      ∀ id, st.ReadyOn core id → (st.processes id).priority ≤ (st.processes target).priority := by
  obtain ⟨since, ready, hranked⟩ := h
  unfold tryRemoteTargetAndSwitch at hok ⊢
  split at hok
  · cases hok
  next hvalid =>
    rw [if_neg hvalid]
    have hremove := removeProcess_spec hranked.queues core target
    generalize st.removeProcess core target = o at hok hremove ⊢
    obtain ⟨_ | _, removed⟩ := o
    · cases hok
    · obtain ⟨priority, hmem, hremoved⟩ := hremove
      change (((removed.switchTo p root core target).transformError
        convertHalToKernelError).state).HighestRuns core ↔ _
      rw [Outcome.transformError_state]
      -- the queue of the target without it
      have hdequeued := hranked.dequeue hmem
      have hranked' : ∃ since, Ranked existing since removed
          (setReady ready core priority ((ready core priority).erase target)) := by
        refine ⟨since, ?_⟩
        dsimp only at hremoved
        rw [hremoved, ← dequeue_highestPriority st core priority core target]
        exact hdequeued.lowered core 0 _
      obtain ⟨since', hranked'⟩ := hranked'
      have hpriority : ∀ id, (removed.processes id).priority = (st.processes id).priority := by
        intro id
        have honly := (SchedulerOnly.dequeue st core priority target).setHighestPriority core
          ((st.dequeue core priority target).lowerBound core 0 (st.highestPriority core).toNat
            (st.highestPriority core))
        rw [← honly.priority id]
        exact congrArg (fun proc : ProcState => (proc.processes id).priority) hremoved
      have helse := Elsewhere.switchTo p root core target removed
      have hready : ∀ id, (removed.switchTo p root core target).state.ReadyOn core id ↔
          id ≠ target ∧ st.ReadyOn core id := by
        intro id
        have hnodup := (hranked.queues.queued core priority).nodup
        rw [helse.readyOn_iff, hranked'.queues.readyOn_iff, hranked.queues.readyOn_iff]
        constructor
        · rintro ⟨priority', hid⟩
          rcases mem_setReady.mp hid with ⟨-, rfl, hleft⟩ | ⟨hat, hold⟩
          · exact ⟨(hnodup.mem_erase_iff.mp hleft).1, priority', List.mem_of_mem_erase hleft⟩
          · refine ⟨?_, priority', hold⟩
            rintro rfl
            exact hat ⟨rfl, (hranked.queues.apart hold hmem).2⟩
        · rintro ⟨hne, priority', hid⟩
          refine ⟨priority', mem_setReady.mpr ?_⟩
          by_cases heq : priority' = priority
          · exact .inl ⟨rfl, heq, (List.mem_erase_of_ne hne).mpr (heq ▸ hid)⟩
          · exact .inr ⟨fun hat => heq hat.2, hid⟩
      unfold HighestRuns
      rw [switchTo_currentProcess]
      simp only [Option.some.injEq, exists_eq_left', hready, helse.priorities, hpriority]
      constructor
      · intro hall id hid
        by_cases heq : id = target
        · rw [heq]
        · exact hall id ⟨heq, hid⟩
      · exact fun hall id hid => hall id hid.2

theorem tryScheduleAndSwitch_highestRuns (hroots : ∀ id, st.ReadyOn core id → root id ≠ 0)
    (hcurrent : (st.cpus core).currentProcess.isSome = true)
    (hok : (st.tryScheduleAndSwitch p root core).result = .ok ()) :
    (st.tryScheduleAndSwitch p root core).state.HighestRuns core := by
  obtain ⟨since, ready, hranked⟩ := h
  have hselects := hranked.selects core
  have hschedule := schedule_spec hranked.queues core
  unfold tryScheduleAndSwitch trySchedule at hok ⊢
  generalize st.schedule core = o at hselects hschedule hok ⊢
  obtain ⟨_ | next, scheduled⟩ := o
  · -- nothing is ready
    obtain ⟨rfl, -⟩ := hschedule
    change (((scheduled.switchToIdle p root core).transformError fun _ =>
      HalError.tryAgain).transformError convertHalToKernelError).result = _ at hok
    change (((scheduled.switchToIdle p root core).transformError fun _ =>
      HalError.tryAgain).transformError convertHalToKernelError).state.HighestRuns core
    rw [Outcome.transformError_state, Outcome.transformError_state]
    obtain ⟨current, hcurrent⟩ := Option.isSome_iff_exists.mp hcurrent
    unfold switchToIdle at hok ⊢
    split at hok
    next hidle =>
      rw [if_pos hidle]
      exact ⟨current, hcurrent, fun id hid => absurd hid (hselects id)⟩
    next hidle =>
      rw [if_neg hidle]
      have helse := Elsewhere.switchContext p root core (.idle core) scheduled
      generalize Hal.switchContext p root core (.idle core) scheduled = switched at hok helse
      obtain ⟨_ | _, switched⟩ := switched
      · cases hok
      · refine ⟨.idle core, setCurrent_currentProcess _ _ _ _, fun id hid => ?_⟩
        have hframe := helse.trans (Elsewhere.modifyCpu switched core
          (f := fun cpu => { cpu with currentProcess := some (.idle core), isIdle := true })
          fun _ => rfl)
        exact absurd (hframe.readyOn_iff.mp hid) (hselects id)
  · obtain ⟨priority, l, -, hready, habove, rfl⟩ := hschedule
    have hnext : st.ReadyOn core next := hselects.1
    have hranked' := hranked.popReady hready habove
    have hsub : ∀ id, (st.popReady core priority next).ReadyOn core id → st.ReadyOn core id := by
      intro id
      rw [hranked'.queues.readyOn_iff, hranked.queues.readyOn_iff]
      rintro ⟨priority', hid⟩
      rcases mem_setReady.mp hid with ⟨-, rfl, hleft⟩ | ⟨-, hold⟩
      · exact ⟨priority', by rw [hready]; exact .tail _ hleft⟩
      · exact ⟨priority', hold⟩
    have helse := Elsewhere.switchTo p root core next (st.popReady core priority next)
    have hswitched : ((st.popReady core priority next).switchTo p root core next).result = .ok () :=
      switchContext_succeeds (hroots next hnext)
    have hcurrent := switchTo_currentProcess p root core next (st.popReady core priority next)
    dsimp only [Outcome.transformError, Outcome.andThen]
    generalize (st.popReady core priority next).switchTo p root core next = switched
      at helse hswitched hcurrent
    obtain ⟨_, switched⟩ := switched
    cases hswitched
    refine ⟨next, hcurrent, fun id hid => ?_⟩
    have hpriority : ∀ id, (switched.processes id).priority = (st.processes id).priority :=
      fun id => (helse.priorities id).trans
        ((SchedulerOnly.popReady st core priority next).priority id)
    change (switched.processes id).priority ≤ (switched.processes next).priority
    rw [hpriority, hpriority]
    exact (hselects.2 id (hsub id (helse.readyOn_iff.mp hid))).1

end

/-! ### The state before the interrupt -/

/-- What putting the running process back changes, as the selection sees it. -/
structure PutsBack (core : Nat) (current : ProcessId) (st st' : ProcState) : Prop where
  currentProcess : (st'.cpus core).currentProcess = (st.cpus core).currentProcess
  priority : ∀ id, (st'.processes id).priority = (st.processes id).priority
  affinity : ∀ id, (st'.processes id).coreAffinity = (st.processes id).coreAffinity
  other : ∀ id, id ≠ current → (st'.processes id).status = (st.processes id).status ∧
    (st'.processes id).isInReadyQueue = (st.processes id).isInReadyQueue
  queued : (st'.processes current).status = .ready ∧
    (st'.processes current).isInReadyQueue = true ↔ st.GoesBack core current
  readyOn : ∀ id, st'.ReadyOn core id ↔ st.Competes core current id

/-- The running process, made READY with a fresh quantum before it is queued. -/
def refreshed (core : Nat) (current : ProcessId) (status : ProcessStatus) (st : ProcState) :
    ProcState :=
  ((st.modifyCpu core fun cpu => { cpu with pendingRescheduleTarget := none }).modifyProcess current
    fun process => { process with quantum := quantumMax }).modifyProcess current
      fun process => { process with status := status }

theorem refreshed_elsewhere (core : Nat) (current : ProcessId) (status : ProcessStatus)
    (st : ProcState) : Elsewhere st (st.refreshed core current status) :=
  ((Elsewhere.modifyCpu st core
    (f := fun cpu => { cpu with pendingRescheduleTarget := none }) fun _ => rfl).trans
      (.modifyProcess _ current (f := fun process => { process with quantum := quantumMax })
        fun _ => ⟨rfl, rfl, rfl, rfl⟩)).trans
          (.modifyProcess _ current (f := fun process => { process with status := status })
            fun _ => ⟨rfl, rfl, rfl, rfl⟩)

theorem refreshed_process (core : Nat) (current : ProcessId) (status : ProcessStatus)
    (st : ProcState) (id : ProcessId) :
    ((st.refreshed core current status).processes id).coreAffinity = (st.processes id).coreAffinity ∧
      ((st.refreshed core current status).processes id).status =
        if id = current then status else (st.processes id).status := by
  unfold refreshed
  by_cases heq : id = current
  · subst heq
    simp [modifyProcess, modifyCpu, setProcess]
  · simp [modifyProcess, modifyCpu, setProcess, heq]

/-- The current process is not queued: it is blocked, or it is the idle process of the core. -/
theorem PutsBack.of_elsewhere {current : ProcessId} (h : Elsewhere st st')
    (hcurrent : (st'.cpus core).currentProcess = (st.cpus core).currentProcess)
    (hprocess : ∀ id, (st'.processes id).coreAffinity = (st.processes id).coreAffinity ∧
      (id ≠ current → (st'.processes id).status = (st.processes id).status))
    (hstatus : (st'.processes current).status ≠ .ready) (hback : ¬ st.GoesBack core current) :
    PutsBack core current st st' where
  currentProcess := hcurrent
  priority := h.priorities
  affinity id := (hprocess id).1
  other id hne := ⟨(hprocess id).2 hne, (h.links id).2.2⟩
  queued := iff_of_false (fun hready => hstatus hready.1) hback
  readyOn id := by
    rw [h.readyOn_iff, Competes]
    exact ⟨.inl, fun hid => hid.resolve_right fun hcurrent => hback hcurrent.2.1⟩

theorem requeueCurrent_putsBack (h : Filed existing st) {current : ProcessId}
    (hexists : current ≠ .idle core → current ∈ existing)
    (hok : (st.requeueCurrent core current).result = .ok ()) :
    PutsBack core current st (st.requeueCurrent core current).state := by
  obtain ⟨since, ready, hranked⟩ := h
  unfold requeueCurrent at hok ⊢
  dsimp only at hok ⊢
  split at hok
  next hstatus =>
    rw [if_pos hstatus]
    unfold ProcState.markScheduledOn at hok ⊢
    dsimp only at hok ⊢
    split at hok
    next hidle =>
      rw [if_pos hidle]
      exact .of_elsewhere (refreshed_elsewhere core current .idle st) (by simp [modifyCpu])
        (fun id => (refreshed_process core current .idle st id).imp_right
          fun hid hne => hid.trans (if_neg hne))
        (by simp [modifyProcess_processes]) fun hback => hback.1 hidle
    next huser =>
      have hback : st.GoesBack core current := ⟨huser, hstatus⟩
      rw [if_neg huser]
      have helse := refreshed_elsewhere core current .ready st
      have hprocess := refreshed_process core current .ready st
      have hkept : ((st.refreshed core current .ready).cpus core).currentProcess =
        (st.cpus core).currentProcess := by simp [refreshed, modifyProcess, setProcess, modifyCpu]
      have hranked' := hranked.outside helse.toOutsideScheduler
      have hself : ((st.refreshed core current .ready).processes current).status = .ready := by
        rw [(hprocess current).2, if_pos rfl]
      change ((st.refreshed core current .ready).addProcess core current |>.orElse _).result = _ at hok
      change PutsBack core current st
        ((st.refreshed core current .ready).addProcess core current |>.orElse _).state
      generalize st.refreshed core current .ready = fresh at *
      rw [addProcess_eq] at hok ⊢
      rw [if_neg (not_not.mpr hself)] at hok ⊢
      split_ifs at hok ⊢ with hpriority hqueued
      · cases hok
      · -- it is in a queue already
        have hflag : (fresh.processes current).isInReadyQueue = true := by
          by_contra hfree
          obtain ⟨hnext, hpreview⟩ := hranked'.queues.loose current (by simpa using hfree)
          simp [hfree, hnext, hpreview] at hqueued
        refine ⟨hkept, helse.priorities, fun id => (hprocess id).1, fun id hne =>
          ⟨(hprocess id).2.trans (if_neg hne), (helse.links id).2.2⟩,
          iff_of_true ⟨hself, hflag⟩ hback, fun id => ?_⟩
        rw [(helse.links current).2.2] at hflag
        show fresh.ReadyOn core id ↔ _
        rw [helse.readyOn_iff, Competes]
        simp [hflag]
      · have hfree : (fresh.processes current).isInReadyQueue = false := by
          simpa using (not_or.mp hqueued).1
        have honly := SchedulerOnly.enqueue fresh core current
        have hqueues : ReadyQueues existing (fresh.enqueue core current) _ :=
          hranked'.queues.enqueue hfree (by omega) (hexists huser)
        have hflags : ∀ id, ((fresh.enqueue core current).processes id).isInReadyQueue =
            if id = current then true else (fresh.processes id).isInReadyQueue := by
          have hq := hranked'.queues.queued core (fresh.processes current).priority.toNat
          exact (enqueue_fields rfl (hq.head_eq_none_iff.trans hq.tail_eq_none_iff.symm)
            (hranked'.queues.loose current hfree)).2.2.1
        refine ⟨(honly.currentProcess core).trans hkept, fun id =>
          (honly.priority id).trans (helse.priorities id), fun id =>
          (honly.coreAffinity id).trans (hprocess id).1, fun id hne => ⟨?_, ?_⟩,
          iff_of_true ⟨(honly.status current).trans hself,
            (hflags current).trans (if_pos rfl)⟩ hback,
          fun id => ?_⟩
        · exact ((honly.status id).trans (hprocess id).2).trans (if_neg hne)
        · exact ((hflags id).trans (if_neg hne)).trans (helse.links id).2.2
        · rw [(helse.links current).2.2] at hfree
          show (fresh.enqueue core current).ReadyOn core id ↔ _
          rw [hqueues.readyOn_iff, Competes, ← helse.readyOn_iff, hranked'.queues.readyOn_iff]
          simp only [mem_setReady, hback, hfree, and_true]
          constructor
          · rintro ⟨priority, ⟨-, rfl, hmem⟩ | ⟨-, hmem⟩⟩
            · rcases List.mem_append.mp hmem with hmem | hmem
              · exact .inl ⟨_, hmem⟩
              · exact .inr (List.mem_singleton.mp hmem)
            · exact .inl ⟨priority, hmem⟩
          · rintro (⟨priority, hmem⟩ | rfl)
            · refine ⟨priority, ?_⟩
              by_cases heq : priority = (fresh.processes current).priority.toNat
              · exact .inl ⟨trivial, heq, List.mem_append_left _ (heq ▸ hmem)⟩
              · exact .inr ⟨fun hat => heq hat.2, hmem⟩
            · exact ⟨_, .inl ⟨trivial, rfl, List.mem_append_right _ List.mem_cons_self⟩⟩
  next hstatus =>
    rw [if_neg hstatus]
    refine .of_elsewhere (Elsewhere.modifyCpu st core
      (f := fun cpu => { cpu with pendingRescheduleTarget := none }) fun _ => rfl) (by simp [modifyCpu])
      (fun _ => ⟨rfl, fun _ => rfl⟩) (fun hready => hstatus (.inl hready)) fun hback => hstatus hback.2

/-- The remembered process that is found after the running one has been put back. -/
theorem PutsBack.remoteTarget_iff {current target : ProcessId} (h : PutsBack core current st st') :
    st'.remoteTarget core (st.cpus core).pendingRescheduleTarget = some target ↔
      st.TakenTarget core current target := by
  rw [remoteTarget, Option.filter_eq_some_iff, TakenTarget, decide_eq_true_iff, h.affinity]
  refine and_congr_right fun _ => and_congr_right fun _ => ?_
  by_cases heq : target = current
  · subst heq
    rw [h.queued]
    simp
  · simp [h.other target heq, heq]

end ProcState

namespace SystemState

variable {e : Entry} {st : SystemState}

theorem onProc_andThen_proc {f : ProcState → Outcome KernelError ProcState Unit}
    {g : Unit → SystemState → Outcome KernelError SystemState Unit}
    {g' : Unit → ProcState → Outcome KernelError ProcState Unit}
    (hg : ∀ a st, (g a st).state.proc = (g' a st.proc).state) :
    ((st.onProc f).andThen g).state.proc = ((f st.proc).andThen g').state := by
  unfold onProc
  generalize f st.proc = o
  obtain ⟨_ | a, proc⟩ := o
  · rfl
  · exact hg a { st with proc := proc }

theorem handleIpiReschedule_proc {current : ProcessId}
    (hcurrent : (st.proc.cpus e.core).currentProcess = some current) :
    (st.handleIpiReschedule e).proc =
      (st.proc.rescheduleFromIpi e.platform e.root e.core current).state := by
  unfold handleIpiReschedule ProcState.rescheduleFromIpi ProcState.requeueCurrent
  rw [hcurrent]
  dsimp only
  -- both continue alike from the requeued state
  have hselect : ∀ (st : SystemState) (pending : Option ProcessId),
      (match st.remoteTarget e pending with
        | some target =>
          st.onProc fun proc => proc.tryRemoteTargetAndSwitch e.platform e.root e.core target
        | none => st.onProc fun proc =>
          proc.tryScheduleAndSwitch e.platform e.root e.core).state.proc =
        (match st.proc.remoteTarget e.core pending with
        | some target => st.proc.tryRemoteTargetAndSwitch e.platform e.root e.core target
        | none => st.proc.tryScheduleAndSwitch e.platform e.root e.core).state := by
    intro st pending
    change _ = (match st.remoteTarget e pending with
      | some target => st.proc.tryRemoteTargetAndSwitch e.platform e.root e.core target
      | none => st.proc.tryScheduleAndSwitch e.platform e.root e.core).state
    split <;> rfl
  split
  · exact onProc_andThen_proc fun _ st => hselect st _
  · exact hselect _ _

end SystemState

section Example

open SystemState

/-! ## A remembered process of low priority

The init process, of priority 31, runs on core 0. A server on core 1 resumes a process of priority 0
whose core is 0. -/

def trio : Machine where
  platform := multiprocessor.platform
  coreCount := 2
  existing := {.user 0x1000, .user 0x2000, .user 0x3000}
  init := 0x1000
  online := multiprocessor.online
  bounded := multiprocessor.bounded
  single := multiprocessor.single
  init_mem := uniprocessor.init_mem

def trioSaid : SystemState :=
  let st := (trio.boot.say 0x1000 [0, 1, 0x200]).say 0x2000 [0, 4]
  let st := st.modifyContext (.user 0x1000) fun context => { context with buffer := some 0x7000 }
  st.setBufferWord 0x7000 12 1

def trioMoved : SystemState := trioSaid.handle (onCore 0 true) (resume 0x2000)
def trioResumed : SystemState := (trioMoved.say 0x1000 [0, 4]).handle (onCore 0 true) (resume 0x2000)
def trioRuns : SystemState := trioResumed.handle (onCore 1 true) .ipiReschedule
def thirdResumed : SystemState := trioRuns.handle (onCore 1 true) (resume 0x3000)

theorem possible_trio {st : SystemState} {entry : KernelEntry} {core : Nat} {sendIpi : Bool}
    (current : ProcessId) (hcore : core < 2)
    (hcurrent : (st.proc.cpus core).currentProcess = some current)
    (hlegal : entry.Legal trio.existing (some current)) :
    trio.Possible (onCore core sendIpi) st entry :=
  ⟨rfl, rfl, hcore, by simp [onCore, hcurrent], by simp [onCore], by
    rwa [← hcurrent] at hlegal⟩

theorem thirdResumed_reachable :
    Relation.ReflTransGen (Step trio fun e st entry => st.Reliable e entry ∧
      Switching e st entry) trio.boot thirdResumed := by
  have hsaid : Alike trio.boot trioSaid := by
    have hwords := (alike_say trio.boot 0x1000 [0, 1, 0x200]).trans (alike_say _ 0x2000 [0, 4])
    have hbuffer := hwords.modifyContext (.user 0x1000)
      (fun context => { context with buffer := some 0x7000 }) fun _ => rfl
    exact ⟨hbuffer.proc, hbuffer.ports, hbuffer.context, hbuffer.notification,
      hbuffer.failedTransfers⟩
  have hlegal : ∀ target current : Word, ProcessId.user target ∈ trio.existing →
      (resume target).Legal trio.existing (some (.user current)) :=
    fun target current hmem => ⟨⟨hmem, by simp⟩, by simp⟩
  refine Relation.ReflTransGen.tail (Relation.ReflTransGen.tail (Relation.ReflTransGen.tail
    (Relation.ReflTransGen.tail (Relation.ReflTransGen.tail (.single (.user hsaid))
      (?moved : Step _ _ _ trioMoved)) (.user (alike_say _ 0x1000 [0, 4])))
      (?resumed : Step _ _ _ trioResumed)) (?runs : Step _ _ _ trioRuns))
      (?third : Step _ _ _ thirdResumed)
  case moved =>
    exact .entry (onCore 0 true) _ (possible_trio (.user 0x1000) (by decide) (by decide +kernel)
      (hlegal _ _ (by decide))) (reliable_onCore (by decide +kernel))
  case resumed =>
    exact .entry (onCore 0 true) _ (possible_trio (.user 0x1000) (by decide) (by decide +kernel)
      (hlegal _ _ (by decide))) (reliable_onCore (by decide +kernel))
  case runs =>
    exact .entry (onCore 1 true) _ (possible_trio (.idle 1) (by decide) (by decide +kernel)
      trivial) (reliable_onCore (by decide +kernel))
  case third =>
    exact .entry (onCore 1 true) _ (possible_trio (.user 0x2000) (by decide) (by decide +kernel)
      (hlegal _ _ (by decide))) (reliable_onCore (by decide +kernel))

def idleRemembers : SystemState :=
  { multiprocessor.boot with
    proc := (Timed.afterAdding.state.modifyProcess (.idle 0) fun process =>
      { process with status := .idle }).modifyCpu 0 fun cpu =>
        { cpu with currentProcess := some (.idle 0), pendingRescheduleTarget := some (.user 0x1000) } }

theorem idleRemembers_elsewhere : Timed.afterAdding.state.Elsewhere idleRemembers.proc :=
  (ProcState.Elsewhere.modifyProcess _ (.idle 0)
    (f := fun process => { process with status := .idle }) fun _ => ⟨rfl, rfl, rfl, rfl⟩).trans
    (.modifyCpu _ 0 (f := fun cpu =>
      { cpu with currentProcess := some (.idle 0), pendingRescheduleTarget := some (.user 0x1000) })
      fun _ => rfl)

theorem idleRemembers_filed : idleRemembers.proc.Filed Timed.bothProcesses := by
  obtain ⟨⟨ready, hranked⟩, -⟩ := Timed.ordered_run Timed.nothingReady_twoProcesses
    (Timed.afterAdding_reachable _ fun _ _ _ => trivial)
  exact ⟨_, ready, hranked.outside idleRemembers_elsewhere.toOutsideScheduler⟩

theorem idleRemembers_priority (id : ProcessId) :
    (idleRemembers.proc.processes id).priority ≤ 5 := by
  rw [idleRemembers_elsewhere.priorities]
  change ((((Timed.twoProcesses.addProcess 0 (.user 0x1000)).state.addProcess 0
    (.user 0x2000)).state).processes id).priority ≤ 5
  rw [(ProcState.SchedulerOnly.addProcess _ 0 _).priority,
    (ProcState.SchedulerOnly.addProcess _ 0 _).priority]
  unfold Timed.twoProcesses
  dsimp only
  split <;> decide

end Example

end A9N.Kernel
