import A9N.Kernel.Ipc.EntrySignals
import A9N.Kernel.Ipc.Effects
import A9N.Kernel.Ipc.PortQueues
import A9N.Kernel.Process.PrioritySelection

/-!
# SUSPEND a second time

What SUSPEND leaves is a state in which each of its conditions is false: the process is in no queue,
does not run on its core, waits for no reply and has no fault. A second SUSPEND changes nothing.
-/

namespace A9N.Kernel.SystemState

open ProcState Outcome

variable {e : Entry} {existing : Finset ProcessId} {ready : Nat → Nat → List ProcessId}
  {target id : ProcessId} {core : Nat} {st st' : SystemState} {proc : ProcState}

structure Shelved (existing : Finset ProcessId) (target : ProcessId) (core : Nat)
    (proc : ProcState) : Prop where
  affinity : (proc.processes target).coreAffinity.toNat = core
  status : (proc.processes target).status = .blockedSuspend
  unqueued : ∃ ready, ReadyQueues existing proc ready ∧ ∀ priority, target ∉ ready core priority

structure Halted (existing : Finset ProcessId) (target : ProcessId) (core : Nat)
    (proc : ProcState) : Prop extends Shelved existing target core proc where
  core_lt : core < cpuCountMax
  pending : (proc.cpus core).pendingRescheduleTarget ≠ some target
  current : (proc.cpus core).currentProcess ≠ some target ∨ (proc.cpus core).isIdle = true

structure Detached (context : IpcContext) : Prop where
  ipcPort : context.currentIpcPort = none
  notificationPort : context.currentNotificationPort = none
  replyTarget : context.sourceReplyTarget = none
  replyState : context.sourceReplyState = .none
  reason : context.faultReason = .none
  code : context.faultCode = 0
  archCode : context.archFaultCode = 0
  address : context.faultAddress = 0

/-! ## The second time -/

theorem Detached.clearFault_eq {context : IpcContext} (h : Detached context) :
    { context with faultReason := .none, faultCode := 0, archFaultCode := 0, faultAddress := 0 } =
      context := by
  obtain ⟨-, -, -, -, hreason, hcode, harchCode, haddress⟩ := h
  cases context
  simp_all

theorem modifyContext_eq_self {f : IpcContext → IpcContext}
    (h : f (st.contexts id) = st.contexts id) : st.modifyContext id f = st := by
  rw [modifyContext, h, Function.update_eq_self]

theorem markSuspended_halted (h : Halted existing target core proc) :
    proc.markSuspended core target = .ok () proc := by
  obtain ⟨ready, hqueues, hout⟩ := h.unqueued
  have hspec := removeProcess_spec hqueues core target
  have hsame : proc.modifyProcess target (fun process =>
      { process with status := .blockedSuspend }) = proc := by
    rw [ProcState.modifyProcess, ← h.status]
    exact congrArg (fun processes => { proc with processes := processes })
      (Function.update_eq_self target proc.processes)
  rw [ProcState.markSuspended]
  generalize proc.removeProcess core target = o at hspec ⊢
  obtain ⟨_ | _, proc'⟩ := o
  · obtain ⟨rfl, rfl, -⟩ : _ ∧ proc' = proc ∧ _ := hspec
    exact congrArg (ok ()) hsame
  · obtain ⟨priority, hin, -⟩ := hspec
    exact absurd hin (hout priority)

theorem clearPending_halted (h : Halted existing target core proc) :
    proc.clearPending core target = proc := by
  rw [clearPending, ProcState.modifyCpu, if_neg h.pending, Function.update_eq_self]

theorem stopProcessForReclamation_halted (e : Entry) (h : Halted existing target core st.proc) :
    st.stopProcessForReclamation e target = .ok () st := by
  have hmark : st.onProc (fun proc => proc.markSuspended core target) = .ok () st := by
    rw [onProc, markSuspended_halted h]
    rfl
  rw [SystemState.stopProcessForReclamation]
  dsimp only
  rw [h.affinity, if_neg (not_le.mpr h.core_lt), hmark, andThen_ok, clearPending_halted h,
    if_pos h.current]

theorem operationSuspend_halted (e : Entry) (hproc : Halted existing target core st.proc)
    (hcontext : Detached (st.contexts target)) : st.operationSuspend e target = .ok () st := by
  have hnative : st.nativeWait target = false := by
    simp [nativeWait, hcontext.ipcPort, hcontext.notificationPort, hcontext.replyState,
      hproc.status]
  have hdetach : st.detachFromWaitQueues target = .ok () st := by
    rw [detachFromWaitQueues, detachFromIpcQueue, hcontext.ipcPort]
    simp [detachFromNotificationQueue, hcontext.notificationPort]
  have hreply : st.modifyContext target (fun context =>
      { context with sourceReplyTarget := none, sourceReplyState := .none }) = st := by
    apply modifyContext_eq_self
    rw [← hcontext.replyTarget, ← hcontext.replyState]
  have hfault : st.clearFault target = st := modifyContext_eq_self hcontext.clearFault_eq
  have hcancel : st.cancelOwnWait e target = .ok () st := by
    rw [cancelOwnWait, hdetach, andThen_ok, cancelReply_detach, dropReply, forgetClient,
      hcontext.replyTarget]
    exact congrArg (ok ()) hreply
  rw [operationSuspend, stopProcessForReclamation_halted e hproc, hnative]
  simp [hcancel, hcontext.reason, hfault]

/-! ## The first time -/

theorem Shelved.frame {proc' : ProcState} (h : Shelved existing target core proc)
    (hprocesses : proc'.processes = proc.processes)
    (hqueue : ∀ core priority, proc'.queue core priority = proc.queue core priority)
    (hcount : proc'.processCount = proc.processCount) : Shelved existing target core proc' where
  affinity := by rw [hprocesses]; exact h.affinity
  status := by rw [hprocesses]; exact h.status
  unqueued := by
    obtain ⟨ready, hqueues, hout⟩ := h.unqueued
    exact ⟨ready, hqueues.congr (fun id => by rw [hprocesses]; exact ⟨rfl, rfl, rfl⟩) hqueue hcount,
      hout⟩

theorem markSuspended_shelves (h : ReadyQueues existing proc ready) (core : Nat)
    (haffinity : (proc.processes target).coreAffinity.toNat = core) :
    (proc.markSuspended core target).Post (fun _ proc' => Shelved existing target core proc')
      (fun _ _ => True) := by
  -- the status is the last thing that changes
  have hlast : ∀ {proc' : ProcState} {ready'}, ReadyQueues existing proc' ready' →
      (∀ priority, target ∉ ready' core priority) →
      (proc'.processes target).coreAffinity = (proc.processes target).coreAffinity →
      Shelved existing target core (proc'.modifyProcess target fun process =>
        { process with status := .blockedSuspend }) := by
    intro proc' ready' hqueues hout hsame
    refine ⟨?_, ?_, ready', hqueues.congr (fun id => ?_) (fun _ _ => by simp) rfl, hout⟩
    · rw [modifyProcess_processes, if_pos rfl, hsame]
      exact haffinity
    · rw [modifyProcess_processes, if_pos rfl]
    · rw [modifyProcess_processes]
      split
      case isTrue heq => simp [heq]
      case isFalse => exact ⟨rfl, rfl, rfl⟩
  have hspec := removeProcess_spec h core target
  rw [ProcState.markSuspended]
  generalize proc.removeProcess core target = o at hspec ⊢
  obtain ⟨_ | _, proc'⟩ := o
  · obtain ⟨rfl, rfl, hout⟩ : _ ∧ proc' = proc ∧ _ := hspec
    exact hlast h hout rfl
  · obtain ⟨priority, hin, rfl⟩ := hspec
    have hdequeued := h.dequeue hin
    have hqueues : ∀ bound, ReadyQueues existing
        ((proc.dequeue core priority target).setHighestPriority core bound) _ := fun bound =>
      hdequeued.congr (fun _ => ⟨rfl, rfl, rfl⟩) (fun _ _ => by simp) rfl
    exact hlast (hqueues _)
      (hdequeued.not_mem_of_unflagged (dequeue_target proc core priority target).2.2 core)
      ((SchedulerOnly.dequeue proc core priority target).coreAffinity target)

theorem clearPending_frame (core : Nat) (target : ProcessId) (proc : ProcState) :
    (proc.clearPending core target).processes = proc.processes ∧
      (∀ core' priority, (proc.clearPending core target).queue core' priority =
        proc.queue core' priority) ∧
      (proc.clearPending core target).processCount = proc.processCount ∧
      ((proc.clearPending core target).cpus core).pendingRescheduleTarget ≠ some target := by
  refine ⟨rfl, fun core' priority => ?_, rfl, ?_⟩
  · by_cases hcore : core' = core
    · subst hcore
      simp only [clearPending, ProcState.modifyCpu, ProcState.queue, Function.update_self]
      split <;> rfl
    · simp [clearPending, ProcState.modifyCpu, ProcState.queue, hcore]
  · simp only [clearPending, ProcState.modifyCpu, Function.update_self]
    split
    · simp
    case isFalse hne => exact hne

theorem Shelved.clearPending (h : Shelved existing target core proc) :
    Shelved existing target core (proc.clearPending core target) := by
  obtain ⟨hprocesses, hqueue, hcount, -⟩ := clearPending_frame core target proc
  exact h.frame hprocesses hqueue hcount

theorem switchToIdle_halts (p : Platform) (root : ProcessId → Word)
    (h : Shelved existing target core proc) (hcore : core < cpuCountMax)
    (hpending : (proc.cpus core).pendingRescheduleTarget ≠ some target) :
    (proc.switchToIdle p root core).Post (fun _ proc' => Halted existing target core proc')
      (fun _ _ => True) := by
  rw [ProcState.switchToIdle]
  split
  case isTrue hidle => exact ⟨h, hcore, hpending, .inr hidle⟩
  case isFalse =>
    obtain ⟨hprocesses, hcpus, hcount, -⟩ := switchContext_frame p root core (.idle core) proc
    generalize Hal.switchContext p root core (.idle core) proc = o at hprocesses hcpus hcount
    obtain ⟨_ | _, proc'⟩ := o
    · trivial
    · change Halted existing target core (proc'.setCurrent core (.idle core) true)
      have hprocesses : proc'.processes = proc.processes := hprocesses
      have hcpus : proc'.cpus = proc.cpus := hcpus
      have hcount : proc'.processCount = proc.processCount := hcount
      refine ⟨h.frame hprocesses (fun core' priority => ?_) hcount, hcore, ?_, .inr ?_⟩
      · by_cases hcore : core' = core
        · subst hcore
          simp [setCurrent, ProcState.modifyCpu, ProcState.queue, hcpus]
        · simp [setCurrent, ProcState.modifyCpu, ProcState.queue, hcore, hcpus]
      · simpa [setCurrent, ProcState.modifyCpu, hcpus] using hpending
      · simp [setCurrent, ProcState.modifyCpu]

theorem servicePendingStopRequest_halts (e : Entry) (h : Shelved existing target core st.proc)
    (hcore : core < cpuCountMax)
    (hpending : (st.proc.cpus core).pendingRescheduleTarget ≠ some target) :
    (st.servicePendingStopRequest e core target).Post
      (fun _ st' => Halted existing target core st'.proc ∧ st'.contexts = st.contexts)
      (fun _ _ => True) := by
  have hidle := switchToIdle_halts e.platform e.root h hcore hpending
  rw [servicePendingStopRequest, onProc]
  generalize st.proc.switchToIdle e.platform e.root core = o at hidle
  obtain ⟨_ | _, proc⟩ := o
  · trivial
  · have hhalted : Halted existing target core proc := hidle
    have hclear : proc.clearPending core target = proc := clearPending_halted hhalted
    dsimp only [post_ok]
    split
    all_goals
      refine ⟨?_, rfl⟩
      change Halted existing target core (proc.clearPending core target)
      rw [hclear]
      exact hhalted

theorem stopProcessForReclamation_halts (e : Entry) (target : ProcessId)
    (h : ReadyQueues existing st.proc ready) :
    (st.stopProcessForReclamation e target).Post
      (fun _ st' => (∃ core, Halted existing target core st'.proc) ∧ st'.contexts = st.contexts)
      (fun _ _ => True) := by
  rw [SystemState.stopProcessForReclamation]
  dsimp only
  generalize haffinity : (st.proc.processes target).coreAffinity.toNat = core
  split
  case isTrue => trivial
  case isFalse hcore =>
    rw [not_le] at hcore
    have hmark := markSuspended_shelves h core haffinity
    rw [onProc]
    generalize st.proc.markSuspended core target = o at hmark
    obtain ⟨_ | _, marked⟩ := o
    · trivial
    · have hshelved : Shelved existing target core (marked.clearPending core target) :=
        Shelved.clearPending hmark
      have hpending := (clearPending_frame core target marked).2.2.2
      change Outcome.Post (if _ then _ else _) _ _
      dsimp only
      generalize marked.clearPending core target = proc at hshelved hpending
      split
      case isTrue hcurrent =>
        exact ⟨⟨core, hshelved, hcore, hpending, hcurrent⟩, rfl⟩
      case isFalse =>
        split
        case isTrue =>
          have hidle := switchToIdle_halts e.platform e.root hshelved hcore hpending
          rw [onProc]
          generalize proc.switchToIdle e.platform e.root core = o at hidle ⊢
          obtain ⟨_ | _, idle⟩ := o
          · trivial
          · exact ⟨⟨core, hidle⟩, rfl⟩
        case isFalse =>
          have hsignalled : Shelved existing target core { proc with ipis := core :: proc.ipis } :=
            hshelved.frame rfl (fun _ _ => rfl) rfl
          rw [onProc, ProcState.rescheduleCore]
          split
          · split
            · exact Outcome.Post.mono (servicePendingStopRequest_halts e hsignalled hcore hpending)
                (fun _ _ h => ⟨⟨core, h.1⟩, h.2⟩) (fun _ _ h => h)
            · trivial
          · trivial

/-! ## Waits and faults -/

section

variable (port : Word) (target : ProcessId) (st : SystemState)

theorem removeIpcQueue_current :
    (st.removeIpcQueue port target).Post (fun _ st' => (st'.contexts target).currentIpcPort = none)
      (fun _ _ => True) := by
  rw [removeIpcQueue]
  split
  · trivial
  · simp [modifyContext_contexts]

theorem removeNotificationQueue_current : (st.removeNotificationQueue port target).Post
      (fun _ st' => (st'.contexts target).currentNotificationPort = none) (fun _ _ => True) := by
  rw [removeNotificationQueue]
  split
  · trivial
  · simp [modifyContext_contexts]

end

theorem detachFromWaitQueues_spec (target : ProcessId) (st : SystemState) :
    (st.detachFromWaitQueues target).Post (fun _ st' => st'.proc = st.proc ∧
      (st'.contexts target).currentIpcPort = none ∧
      (st'.contexts target).currentNotificationPort = none) (fun _ _ => True) := by
  have hipc : (st.detachFromIpcQueue target).Post (fun _ st' => st'.proc = st.proc ∧
      (st'.contexts target).currentIpcPort = none) (fun _ _ => True) := by
    rw [detachFromIpcQueue]
    split
    case h_1 hnone => exact ⟨rfl, hnone⟩
    case h_2 port _ =>
      have hproc := ((IpcOnly.refl st).removeIpcQueue port target).proc
      exact (((removeIpcQueue_current port target st).withState hproc).mono
        (fun _ _ h => ⟨h.2, h.1⟩) (fun _ _ _ => trivial)).transformError
  refine hipc.andThen ?_
  intro _ st1 hst1
  rw [detachFromNotificationQueue]
  split
  case h_1 hnone => exact ⟨hst1.1, hst1.2, hnone⟩
  case h_2 port _ =>
    have honly := (NotificationOnly.refl st1).removeNotificationQueue port target
    exact (((removeNotificationQueue_current port target st1).withState (P := fun st' =>
        st'.proc = st1.proc ∧ (st'.contexts target).currentIpcPort =
          (st1.contexts target).currentIpcPort) ⟨honly.proc,
          honly.field IpcContext.currentIpcPort (fun _ => rfl) target⟩).mono
      (fun _ _ h => ⟨h.2.1.trans hst1.1, h.2.2.trans hst1.2, h.1⟩)
      (fun _ _ _ => trivial)).transformError

section

variable (e : Entry) (target : ProcessId)

theorem cancelOwnWait_spec (st : SystemState) :
    (st.cancelOwnWait e target).Post (fun _ st' => st'.proc = st.proc ∧
      (st'.contexts target).currentIpcPort = none ∧
      (st'.contexts target).currentNotificationPort = none ∧
      (st'.contexts target).sourceReplyTarget = none ∧
      (st'.contexts target).sourceReplyState = .none) (fun _ _ => True) := by
  apply (detachFromWaitQueues_spec target st).andThen
  intro _ st1 ⟨hproc, hipc, hnotification⟩
  rw [cancelReply_detach, post_ok, (dropReply_frame target st1).1, dropReply,
    modifyContext_contexts, if_pos rfl, forgetClient_contexts]
  split <;> exact ⟨hproc, hipc, hnotification, rfl, rfl⟩

theorem endSuspend_frame (restart : Prop) [Decidable restart] (st : SystemState) :
    ((if restart then st.restartSyscall e target else st).clearFault target).proc = st.proc ∧
    ∀ id, ((if restart then st.restartSyscall e target else st).clearFault target).contexts id =
      if id = target then { st.contexts id with
        faultReason := .none, faultCode := 0, archFaultCode := 0, faultAddress := 0 }
      else st.contexts id := by
  rw [clearFault]
  refine ⟨?_, fun id => ?_⟩
  · split <;> rfl
  · rw [modifyContext_contexts]
    split
    case isTrue heq => subst heq; split <;> rfl
    case isFalse => split <;> rfl

theorem operationSuspend_halts (h : ReadyQueues existing st.proc ready) :
    (st.operationSuspend e target).Post
      (fun _ st' => (∃ core, Halted existing target core st'.proc) ∧ Detached (st'.contexts target))
      (fun _ _ => True) := by
  have hstop := (stopProcessForReclamation_halts e target h).transformError
    (f := convertKernelToCapabilityError) (F := fun _ _ => True)
  rw [operationSuspend]
  apply hstop.andThen
  intro _ st1 ⟨hhalted, _⟩
  have hwritten : ∀ native : Bool, Outcome.Post
      (if native then st1.writeMessageRegisters e target [(0, 0), (1, 0)] else .ok () st1)
      (fun _ st' => st'.proc = st1.proc) (fun _ _ => True) := by
    intro native
    cases native <;> exact rfl
  apply (hwritten _).andThen
  intro _ st2 hst2
  apply (cancelOwnWait_spec e target st2).andThen
  intro _ st3 ⟨hproc, hipc, hnotification, htarget, hstate⟩
  obtain ⟨hsame, hcontexts⟩ := endSuspend_frame e target
    ((st.contexts target).faultReason = .invalidKernelCall) st3
  apply (post_ok ..).mpr
  rw [hsame, hproc, hst2, hcontexts, if_pos rfl]
  exact ⟨hhalted, hipc, hnotification, htarget, hstate, rfl, rfl, rfl, rfl⟩

end

/-! ## What the process keeps -/

theorem markSuspended_priority (core : Nat) (target : ProcessId) (proc : ProcState) :
    ((proc.markSuspended core target).state.processes target).priority =
      (proc.processes target).priority := by
  have htouches : Touches (fun _ => True) proc (proc.markSuspended core target).state :=
    (Touches.refl proc).markSuspended trivial core
  exact (htouches.process target).priority

theorem servicePendingStopRequest_processes (e : Entry) (core : Nat) (target : ProcessId)
    (st : SystemState) :
    (st.servicePendingStopRequest e core target).state.proc.processes = st.proc.processes := by
  have hidle := switchToIdle_processes e.platform e.root core st.proc
  rw [servicePendingStopRequest, onProc]
  generalize st.proc.switchToIdle e.platform e.root core = o at hidle
  obtain ⟨_ | _, proc⟩ := o
  · exact hidle
  · dsimp only
    split <;> exact hidle

theorem stopProcessForReclamation_priority (e : Entry) (target : ProcessId) (st : SystemState) :
    ((st.stopProcessForReclamation e target).state.proc.processes target).priority =
      (st.proc.processes target).priority := by
  rw [SystemState.stopProcessForReclamation]
  dsimp only
  split
  · rfl
  · apply andThen_keeps (P := fun st' : SystemState =>
      (st'.proc.processes target).priority = (st.proc.processes target).priority)
      (markSuspended_priority _ target st.proc)
    intro _ st1 hst1
    split
    · exact hst1
    · split
      · dsimp only [onProc]
        rw [switchToIdle_processes]
        exact hst1
      · apply andThen_keeps (P := fun st' : SystemState =>
          (st'.proc.processes target).priority = (st.proc.processes target).priority)
        · rw [onProc, ProcState.rescheduleCore]
          split
          · split <;> exact hst1
          · exact hst1
        · intro _ st2 hst2
          rw [servicePendingStopRequest_processes]
          exact hst2

/-- The client still waits for a reply of the process, and the process still owes it. -/
structure StillServes (target client : ProcessId) (st st' : SystemState) : Prop where
  destination : (st'.contexts target).destinationReplyTarget =
    (st.contexts target).destinationReplyTarget
  destinationState : (st'.contexts target).destinationReplyState =
    (st.contexts target).destinationReplyState
  source : (st'.contexts client).sourceReplyTarget = (st.contexts client).sourceReplyTarget
  sourceState : (st'.contexts client).sourceReplyState = (st.contexts client).sourceReplyState

namespace StillServes

variable {client : ProcessId}

theorem trans {st'' : SystemState} (h : StillServes target client st st')
    (h' : StillServes target client st' st'') : StillServes target client st st'' :=
  ⟨h'.destination.trans h.destination, h'.destinationState.trans h.destinationState,
    h'.source.trans h.source, h'.sourceState.trans h.sourceState⟩

theorem of_links (hlinks : ∀ id, (st'.contexts id).replyLinks = (st.contexts id).replyLinks)
    (hstanding : ∀ id, (st'.contexts id).standing = (st.contexts id).standing) :
    StillServes target client st st' := by
  simp only [IpcContext.replyLinks, IpcContext.standing, Prod.mk.injEq] at hlinks hstanding
  exact ⟨(hlinks target).2.1, (hlinks target).2.2, (hlinks client).1, (hstanding client).2.1⟩

theorem of_contexts (h : st'.contexts = st.contexts) : StillServes target client st st' := by
  constructor <;> rw [h]

theorem cancelReply (e : Entry) (hne : client ≠ target)
    (hclient : (st.contexts target).destinationReplyTarget = some client) :
    StillServes target client st (st.cancelReply e target false).state := by
  have hserved : ¬ (st.contexts target).destinationReplyTarget = some target := by
    rw [hclient]
    exact fun heq => hne (Option.some.inj heq)
  have hown : (st.forgetClient target).contexts target = st.contexts target := by
    rw [forgetClient_contexts, if_neg fun h => hserved h.2]
  have hother : ((st.forgetClient target).contexts client).sourceReplyTarget =
        (st.contexts client).sourceReplyTarget ∧
      ((st.forgetClient target).contexts client).sourceReplyState =
        (st.contexts client).sourceReplyState := by
    rw [forgetClient_contexts]
    split <;> exact ⟨rfl, rfl⟩
  rw [cancelReply_detach, ok_state, dropReply]
  constructor <;> simp [modifyContext_contexts, hown, hother, hne]

end StillServes

theorem detachFromWaitQueues_keeps (target client : ProcessId) (st : SystemState) :
    (st.detachFromWaitQueues target).state.proc = st.proc ∧
      StillServes target client st (st.detachFromWaitQueues target).state := by
  rw [detachFromWaitQueues]
  apply andThen_keeps (P := fun st' : SystemState =>
    st'.proc = st.proc ∧ StillServes target client st st')
  · rw [detachFromIpcQueue]
    split
    case h_1 => exact ⟨rfl, .of_contexts rfl⟩
    case h_2 port _ =>
      have honly := (IpcOnly.refl st).removeIpcQueue port target
      rw [transformError_state]
      exact ⟨honly.proc, .of_links (honly.field _ fun _ => rfl) (honly.field _ fun _ => rfl)⟩
  · intro _ st1 ⟨hproc, hserves⟩
    rw [detachFromNotificationQueue]
    split
    case h_1 => exact ⟨hproc, hserves⟩
    case h_2 port _ =>
      have honly := (NotificationOnly.refl st1).removeNotificationQueue port target
      rw [transformError_state]
      exact ⟨honly.proc.trans hproc,
        hserves.trans (.of_links (honly.field _ fun _ => rfl) (honly.field _ fun _ => rfl))⟩

theorem operationSuspend_proc (e : Entry) (target : ProcessId) (st : SystemState) :
    (st.operationSuspend e target).state.proc =
      (st.stopProcessForReclamation e target).state.proc := by
  rw [operationSuspend]
  generalize st.stopProcessForReclamation e target = stopped
  apply andThen_keeps (P := fun st' : SystemState => st'.proc = stopped.state.proc)
  · rw [transformError_state]
  · intro _ st1 hst1
    apply andThen_keeps (P := fun st' : SystemState => st'.proc = stopped.state.proc)
    · split <;> exact hst1
    · intro _ st2 hst2
      apply andThen_keeps (P := fun st' : SystemState => st'.proc = stopped.state.proc)
      · apply andThen_keeps (P := fun st' : SystemState => st'.proc = stopped.state.proc)
          ((detachFromWaitQueues_keeps target target st2).1.trans hst2)
        intro _ st3 hst3
        exact (dropReply_frame target st3).1.trans hst3
      · exact fun _ st3 hst3 => (endSuspend_frame e target _ st3).1.trans hst3

theorem operationSuspend_stillServes {client : ProcessId} (e : Entry) (hne : client ≠ target)
    (hclient : (st.contexts target).destinationReplyTarget = some client) :
    StillServes target client st (st.operationSuspend e target).state := by
  rw [operationSuspend]
  apply andThen_keeps (P := StillServes target client st)
  · rw [transformError_state]
    exact .of_contexts (stopProcessForReclamation_contexts target st)
  · intro _ st1 hst1
    apply andThen_keeps (P := StillServes target client st)
    · split <;> exact hst1.trans (.of_contexts rfl)
    · intro _ st2 hst2
      apply andThen_keeps (P := StillServes target client st)
      · apply andThen_keeps (P := StillServes target client st)
          (hst2.trans (detachFromWaitQueues_keeps target client st2).2)
        exact fun _ st3 hst3 => hst3.trans (.cancelReply e hne (hst3.destination.trans hclient))
      · intro _ st3 hst3
        have hcontexts := (endSuspend_frame e target
          ((st.contexts target).faultReason = .invalidKernelCall) st3).2
        dsimp only [ok_state]
        apply hst3.trans
        constructor <;> simp [hcontexts, hne]

/-- The first SUSPEND that succeeds has done everything: whatever the process was doing, another
one, from any core, changes nothing of the kernel's state. No SUSPEND changes the priority of the
process or what a client that waits for its reply depends on. -/
theorem operationSuspend_idempotent (e e' : Entry) (target : ProcessId)
    (h : ReadyQueues existing st.proc ready) :
    (∀ st', st.operationSuspend e target = .ok () st' →
      st'.operationSuspend e' target = .ok () st') ∧
    ((st.operationSuspend e target).state.proc.processes target).priority =
      (st.proc.processes target).priority ∧
    ∀ client, client ≠ target → (st.contexts target).destinationReplyTarget = some client →
      StillServes target client st (st.operationSuspend e target).state := by
  refine ⟨fun st' hsuspended => ?_, ?_, fun client hne hclient => ?_⟩
  · have hhalts := operationSuspend_halts e target h
    rw [hsuspended, Outcome.post_ok] at hhalts
    obtain ⟨⟨core, hhalted⟩, hdetached⟩ := hhalts
    exact operationSuspend_halted e' hhalted hdetached
  · rw [operationSuspend_proc]
    exact stopProcessForReclamation_priority e target st
  · exact operationSuspend_stillServes e hne hclient

def faultedServer : SystemState where
  proc := ProcState.modifyProcess Timed.twoProcesses (.user 0x1000) fun process =>
    { process with status := .blockedReply }
  contexts
    | .user 0x1000 => {
        faultReason := .invalidKernelCall, faultCode := 7, sourceReplyState := .wait,
        destinationReplyState := .readyToReply, destinationReplyTarget := some (.user 0x2000) }
    | .user 0x2000 => { sourceReplyState := .wait, sourceReplyTarget := some (.user 0x1000) }
    | _ => {}
  registers _ _ := 0x400000

theorem readyQueues_faultedServer :
    ReadyQueues Timed.bothProcesses faultedServer.proc fun _ _ => [] :=
  Timed.nothingReady_twoProcesses.readyQueues.congr (fun id => by
    simp only [faultedServer, modifyProcess_processes]
    split
    case isTrue heq => subst heq; exact ⟨rfl, rfl, rfl⟩
    case isFalse => exact ⟨rfl, rfl, rfl⟩) (fun _ _ => rfl) rfl

theorem operationSuspend_idempotent_faultedServer :
    ∃ st', faultedServer.operationSuspend onlyCore (.user 0x1000) = .ok () st' ∧
      st'.operationSuspend onlyCore (.user 0x1000) = .ok () st' ∧
      (st'.proc.processes (.user 0x1000)).priority = 5 ∧
      (st'.contexts (.user 0x1000)).destinationReplyTarget = some (.user 0x2000) := by
  have htwice := operationSuspend_idempotent onlyCore onlyCore (.user 0x1000)
    readyQueues_faultedServer
  have hok : (faultedServer.operationSuspend onlyCore (.user 0x1000)).result = .ok () := by
    decide +kernel
  generalize hsuspended : faultedServer.operationSuspend onlyCore (.user 0x1000) = o at hok htwice
  obtain ⟨_, st'⟩ := o
  subst hok
  exact ⟨st', rfl, htwice.1 st' rfl, htwice.2.1,
    (htwice.2.2 (.user 0x2000) (by decide) (by decide)).destination⟩

end A9N.Kernel.SystemState
