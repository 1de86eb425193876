import A9N.Kernel.Ipc.Entries
import A9N.Kernel.Process.ReadyQueues

/-!
# Where every process is

A process runs on a core, waits in a ready queue, at an IPC port or at a notification port, waits
for a reply, or is out of use. The pointers, flags and states that say so are spread over the
scheduler, the ports and the processes themselves.
-/

namespace A9N.Kernel

inductive Place
  | current (core : Nat)
  | ready (core priority : Nat)
  | ipc (port : Word)
  | notification (port : Word)
  | reply
  | parked
  | loose
  | moving
  | idle
deriving DecidableEq

namespace IpcContext

variable (context : IpcContext)

def ipcLinks : Option ProcessId × Option ProcessId × Option Word :=
  (context.nextIpcQueue, context.previewIpcQueue, context.currentIpcPort)

def notificationLinks : Option ProcessId × Option ProcessId × Option Word :=
  (context.nextNotificationQueue, context.previewNotificationQueue, context.currentNotificationPort)

def replyLinks : Option ProcessId × Option ProcessId × DestinationReplyState :=
  (context.sourceReplyTarget, context.destinationReplyTarget, context.destinationReplyState)

/-- What decides, beside its status, how a process may wait. -/
def standing : FaultType × SourceReplyState × DestinationReplyState :=
  (context.faultReason, context.sourceReplyState, context.destinationReplyState)

end IpcContext

def NotificationPort.queue (port : NotificationPort) :
    Option ProcessId × Option ProcessId × NotificationPortState :=
  (port.queueHead, port.queueTail, port.state)

structure Setting where
  platform : Platform
  root : ProcessId → Word
  lax : Bool
  existing : Finset ProcessId

namespace SystemState

variable (s : Setting)

def Waits (st : SystemState) (id : ProcessId) : IpcPortState → Prop
  | .wait => False
  | .readyToSend =>
    ((st.proc.processes id).status = .blockedSend ∧ (st.contexts id).faultReason = .none) ∨
      ((st.proc.processes id).status = .blockedFault ∧ (st.contexts id).faultReason ≠ .none ∧
        (st.contexts id).sourceReplyState = .wait)
  | .readyToReceive => (st.proc.processes id).status = .blockedReceive ∧
      (st.contexts id).faultReason = .none ∧ (st.contexts id).destinationReplyState = .none

def Fits (st : SystemState) (id : ProcessId) : Place → Prop
  | .current core | .ready core _ => (st.proc.processes id).status = .ready ∧
      (st.contexts id).faultReason = .none ∧ st.proc.affinity s.platform id = core
  | .ipc port => st.Waits id (st.ports port).state
  | .notification _ => (st.proc.processes id).status = .blockedWait ∧
      (st.contexts id).faultReason = .none
  | .reply => (st.contexts id).sourceReplyState = .wait ∧
      ((st.proc.processes id).status = .blockedReply ∨
        (st.contexts id).faultReason ≠ .none ∧ ((st.proc.processes id).status = .blockedFault ∨
          s.lax = true ∧ (st.proc.processes id).status = .blockedSuspend))
  | .parked => (st.proc.processes id).status = .unused ∨
      (st.proc.processes id).status = .blockedSuspend
  | .loose => s.lax = true ∧ (st.proc.processes id).status = .ready ∧
      (st.contexts id).faultReason = .none
  | .moving => True
  | .idle => (st.proc.processes id).status = .idle

def ReadyPart (st : SystemState) (place : ProcessId → Place) : Prop :=
  ∃ ready, st.proc.ReadyQueues s.existing ready ∧
    ∀ id core priority, id ∈ ready core priority ↔ place id = .ready core priority

def IpcPart (st : SystemState) (place : ProcessId → Place) : Prop :=
  ∃ waiting : Word → List ProcessId,
    QueueFamily (fun id => (st.contexts id).nextIpcQueue)
      (fun id => (st.contexts id).previewIpcQueue) (fun port => (st.ports port).queueHead)
      (fun port => (st.ports port).queueTail) waiting ∧
    (∀ id port, id ∈ waiting port ↔ place id = .ipc port) ∧
    (∀ id port, (st.contexts id).currentIpcPort = some port ↔ place id = .ipc port) ∧
    ∀ port, (st.ports port).state = .wait ↔ waiting port = []

def NotificationPart (st : SystemState) (place : ProcessId → Place) : Prop :=
  ∃ waiting : Word → List ProcessId,
    QueueFamily (fun id => (st.contexts id).nextNotificationQueue)
      (fun id => (st.contexts id).previewNotificationQueue)
      (fun port => (st.notifications port).queueHead)
      (fun port => (st.notifications port).queueTail) waiting ∧
    (∀ id port, id ∈ waiting port ↔ place id = .notification port) ∧
    (∀ id port, (st.contexts id).currentNotificationPort = some port ↔
      place id = .notification port) ∧
    ∀ port, (st.notifications port).state = .wait ↔ waiting port = []

def CoreHolds (stale : Option Nat) (st : SystemState) (place : ProcessId → Place) (core : Nat) :
    Prop :=
  match (st.proc.cpus core).currentProcess with
  | none => stale ≠ some core
  | some (.idle other) => other = core ∧ (st.proc.cpus core).isIdle = true ∧ stale ≠ some core
  | some (.user address) => (st.proc.cpus core).isIdle = false ∧
      (stale = some core ∨ place (.user address) = .current core)

structure RepliesMatch (st : SystemState) (place : ProcessId → Place) : Prop where
  dual : ∀ client server, (st.contexts client).sourceReplyTarget = some server ↔
    (st.contexts server).destinationReplyTarget = some client
  place : ∀ client, (st.contexts client).sourceReplyTarget ≠ none ↔ place client = .reply
  answer : ∀ server, (st.contexts server).destinationReplyState = .none ↔
    (st.contexts server).destinationReplyTarget = none
  distinct : ∀ client, (st.contexts client).sourceReplyTarget ≠ some client

structure Placed (stale : Option Nat) (hole : Option ProcessId) (st : SystemState)
    (place : ProcessId → Place) : Prop where
  ready : st.ReadyPart s place
  ipc : st.IpcPart place
  notification : st.NotificationPart place
  cores : ∀ core, st.CoreHolds stale place core
  current : ∀ id core, place id = .current core →
    (st.proc.cpus core).currentProcess = some id ∧ stale ≠ some core
  replies : st.RepliesMatch place
  fits : ∀ id, hole ≠ some id → st.Fits s id (place id)
  idle : ∀ id, place id = .idle ↔ ∃ core, id = .idle core
  priority : ∀ id, 0 ≤ (st.proc.processes id).priority ∧
    (st.proc.processes id).priority < priorityMax
  idleAffinity : ∀ core, (st.proc.cpus core).currentProcess ≠ none →
    st.proc.affinity s.platform (.idle core) = core
  aligned : s.platform.smpEnabled = false → ∀ id, (st.proc.processes id).coreAffinity = 0
  idleRoot : ∀ core, s.root (.idle core) ≠ 0
  rooted : s.lax = false → ∀ id, place id ≠ .parked → s.root id ≠ 0
  existing : ∀ id, place id ≠ .parked → place id ≠ .idle → id ∈ s.existing

/-! ## Parts that a step does not concern -/

section Congr

variable {s : Setting} {st st' : SystemState} {place place' : ProcessId → Place}

theorem ReadyPart.congr (h : st.ReadyPart s place)
    (hlinks : ∀ id, (st'.proc.processes id).next = (st.proc.processes id).next ∧
      (st'.proc.processes id).preview = (st.proc.processes id).preview ∧
      (st'.proc.processes id).isInReadyQueue = (st.proc.processes id).isInReadyQueue)
    (hqueue : ∀ core priority, st'.proc.queue core priority = st.proc.queue core priority)
    (hcount : st'.proc.processCount = st.proc.processCount)
    (hplace : ∀ id core priority, place' id = .ready core priority ↔
      place id = .ready core priority) : st'.ReadyPart s place' := by
  obtain ⟨ready, hready, hmem⟩ := h
  refine ⟨ready, hready.congr hlinks hqueue hcount, fun id core priority => ?_⟩
  rw [hmem, hplace]

theorem IpcPart.congr (h : st.IpcPart place)
    (hlinks : ∀ id, (st'.contexts id).ipcLinks = (st.contexts id).ipcLinks)
    (hports : st'.ports = st.ports)
    (hplace : ∀ id port, place' id = .ipc port ↔ place id = .ipc port) : st'.IpcPart place' := by
  simp only [IpcContext.ipcLinks, Prod.mk.injEq] at hlinks
  obtain ⟨waiting, hfamily, hmem, hcurrent, hstate⟩ := h
  refine ⟨waiting, ?_, ?_, ?_, ?_⟩
  · simpa only [hports, (hlinks _).1, (hlinks _).2.1] using hfamily
  · intro id port
    rw [hmem, hplace]
  · intro id port
    rw [(hlinks id).2.2, hcurrent, hplace]
  · intro port
    rw [hports]
    exact hstate port

theorem NotificationPart.congr (h : st.NotificationPart place)
    (hlinks : ∀ id, (st'.contexts id).notificationLinks = (st.contexts id).notificationLinks)
    (hports : ∀ port, (st'.notifications port).queue = (st.notifications port).queue)
    (hplace : ∀ id port, place' id = .notification port ↔ place id = .notification port) :
    st'.NotificationPart place' := by
  simp only [IpcContext.notificationLinks, NotificationPort.queue, Prod.mk.injEq] at hlinks hports
  obtain ⟨waiting, hfamily, hmem, hcurrent, hstate⟩ := h
  refine ⟨waiting, ?_, ?_, ?_, ?_⟩
  · simpa only [(hports _).1, (hports _).2.1, (hlinks _).1, (hlinks _).2.1] using hfamily
  · intro id port
    rw [hmem, hplace]
  · intro id port
    rw [(hlinks id).2.2, hcurrent, hplace]
  · intro port
    rw [(hports port).2.2]
    exact hstate port

theorem CoreHolds.congr {stale : Option Nat} {core : Nat} (h : st.CoreHolds stale place core)
    (hcurrent : (st'.proc.cpus core).currentProcess = (st.proc.cpus core).currentProcess)
    (hidle : (st'.proc.cpus core).isIdle = (st.proc.cpus core).isIdle)
    (hplace : ∀ id, place id = .current core → place' id = .current core) :
    st'.CoreHolds stale place' core := by
  unfold CoreHolds at h ⊢
  rw [hcurrent, hidle]
  cases hcase : (st.proc.cpus core).currentProcess with
  | none => rwa [hcase] at h
  | some id =>
    rw [hcase] at h
    cases id with
    | idle other => exact h
    | user address => exact ⟨h.1, h.2.imp_right (hplace _)⟩

theorem RepliesMatch.congr (h : st.RepliesMatch place)
    (hlinks : ∀ id, (st'.contexts id).replyLinks = (st.contexts id).replyLinks)
    (hplace : ∀ id, place' id = .reply ↔ place id = .reply) : st'.RepliesMatch place' := by
  simp only [IpcContext.replyLinks, Prod.mk.injEq] at hlinks
  refine ⟨fun client server => ?_, fun client => ?_, fun server => ?_, fun client => ?_⟩
  · rw [(hlinks client).1, (hlinks server).2.1]
    exact h.dual client server
  · rw [(hlinks client).1, hplace]
    exact h.place client
  · rw [(hlinks server).2.1, (hlinks server).2.2]
    exact h.answer server
  · rw [(hlinks client).1]
    exact h.distinct client

section

variable {id : ProcessId} {at_ : Place} (h : st.Fits s id at_)
  (hstatus : (st'.proc.processes id).status = (st.proc.processes id).status)
  (haffinity : (st'.proc.processes id).coreAffinity = (st.proc.processes id).coreAffinity)
include h hstatus haffinity

theorem Fits.mono (hfault : (st'.contexts id).faultReason = (st.contexts id).faultReason)
    (hsource : (st'.contexts id).sourceReplyState = (st.contexts id).sourceReplyState)
    (hports : ∀ port, at_ = .ipc port → (st'.ports port).state = (st.ports port).state ∧
      ((st'.contexts id).destinationReplyState = (st.contexts id).destinationReplyState ∨
        (st'.contexts id).destinationReplyState = .none)) : st'.Fits s id at_ := by
  have haff : st'.proc.affinity s.platform id = st.proc.affinity s.platform id := by
    unfold ProcState.affinity
    rw [haffinity]
  cases at_ with
  | ipc port =>
    obtain ⟨hstate, hanswer⟩ := hports port rfl
    simp only [Fits, hstate] at h ⊢
    cases hcase : (st.ports port).state with
    | wait =>
      rw [hcase] at h
      exact h
    | readyToSend =>
      rw [hcase] at h
      simpa only [Waits, hstatus, hfault, hsource] using h
    | readyToReceive =>
      rw [hcase] at h
      obtain ⟨hblocked, hnone, hanswered⟩ := h
      refine ⟨hstatus.trans hblocked, hfault.trans hnone, ?_⟩
      exact hanswer.elim (fun heq => heq.trans hanswered) fun heq => heq
  | _ =>
    simp only [Fits, hstatus, haff, hfault, hsource] at h ⊢
    try exact h

theorem Fits.congr (hcontext : (st'.contexts id).standing = (st.contexts id).standing)
    (hports : ∀ port, at_ = .ipc port → (st'.ports port).state = (st.ports port).state) :
    st'.Fits s id at_ := by
  simp only [IpcContext.standing, Prod.mk.injEq] at hcontext
  exact h.mono hstatus haffinity hcontext.1 hcontext.2.1 fun port hport =>
    ⟨hports port hport, .inl hcontext.2.2⟩

end

theorem Waits.congr {id : ProcessId} {state : IpcPortState} (h : st.Waits id state)
    (hstatus : (st'.proc.processes id).status = (st.proc.processes id).status)
    (hcontext : (st'.contexts id).standing = (st.contexts id).standing) :
    st'.Waits id state := by
  simp only [IpcContext.standing, Prod.mk.injEq] at hcontext
  cases state <;> simp only [Waits, hstatus, hcontext.1, hcontext.2.1, hcontext.2.2] at h ⊢
  · exact h
  · exact h

end Congr

end SystemState

end A9N.Kernel
