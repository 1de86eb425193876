import A9N.Kernel.Ipc.Effects
import A9N.Kernel.Ipc.Messages
import A9N.Kernel.Ipc.RemoteReschedule

/-!
# The two paths of REPLY_RECEIVE

A server that answers its caller and will block on the same core switches to the caller directly,
without a turn through the ready queue. The path is taken for speed only: it must leave what the
long way round would have left, apart from the caller's quantum and from who runs next.
-/

namespace A9N.Kernel

namespace ProcState

variable {p : Platform} {root : ProcessId → Word} {sendIpi : Nat → Bool} {st : ProcState}
  {core : Nat} {target : ProcessId}

/-! ## Results of the scheduler -/

theorem switchTo_ok (hroot : root target ≠ 0) (st : ProcState) (core : Nat) :
    (st.switchTo p root core target).result = .ok () := by
  unfold switchTo Hal.switchContext
  dsimp only
  rw [if_neg hroot]
  split <;> rfl

theorem tryScheduleAndSwitch_ok (hidle : root (.idle core) ≠ 0) (st : ProcState) :
    (st.tryScheduleAndSwitch p root core).result = .ok () := by
  have hswitch : ∀ st : ProcState, (st.switchToIdle p root core).result = .ok () := by
    intro st
    unfold switchToIdle Hal.switchContext
    dsimp only
    rw [if_neg hidle]
    split
    · rfl
    · split <;> rfl
  unfold tryScheduleAndSwitch
  generalize st.trySchedule p root core = o
  obtain ⟨_ | _, st'⟩ := o
  · have h := hswitch st'
    unfold Outcome.orElse
    dsimp only
    generalize st'.switchToIdle p root core = o' at h ⊢
    obtain ⟨_ | _, st''⟩ := o'
    · cases h
    · rfl
  · rfl

theorem highestReady_isSome (priority : Nat) {bound : Nat} (hlt : priority < bound)
    (hhead : (st.queue core priority).head.isSome = true) :
    (st.highestReady core bound).isSome = true := by
  induction bound with
  | zero => omega
  | succ bound ih =>
    rw [highestReady]
    split
    · rfl
    case h_2 hnone =>
      apply ih
      rcases Nat.lt_succ_iff_lt_or_eq.mp hlt with hlt | rfl
      · exact hlt
      · rw [hnone] at hhead
        cases hhead

theorem highestReady_head {priority bound : Nat} {id : ProcessId}
    (h : st.highestReady core bound = some (priority, id)) :
    (st.queue core priority).head = some id := by
  induction bound with
  | zero => cases h
  | succ bound ih =>
    rw [highestReady] at h
    split at h
    case h_1 hhead =>
      cases h
      exact hhead
    case h_2 => exact ih h

theorem enqueue_head (st : ProcState) (core : Nat) (target : ProcessId) (priority : Nat) :
    ((st.enqueue core target).queue core priority).head =
      if priority = (st.processes target).priority.toNat ∧
          ((st.queue core priority).head = none ∨ (st.queue core priority).tail = none) then
        some target
      else (st.queue core priority).head := by
  unfold enqueue
  dsimp only
  split
  case h_1 head tail hhead htail =>
    rw [modifyProcess_queue, setQueue_queue]
    by_cases hpriority : priority = (st.processes target).priority.toNat
    · simp [hpriority, hhead, htail]
    · simp [hpriority, raiseBound_queue]
  case h_2 hnot =>
    rw [modifyProcess_queue, setQueue_queue]
    by_cases hpriority : priority = (st.processes target).priority.toNat
    · have hnone : (st.queue core priority).head = none ∨ (st.queue core priority).tail = none := by
        by_contra hboth
        rw [not_or] at hboth
        obtain ⟨head, hhead⟩ := Option.ne_none_iff_exists'.mp hboth.1
        obtain ⟨tail, htail⟩ := Option.ne_none_iff_exists'.mp hboth.2
        exact hnot head tail (hpriority ▸ hhead) (hpriority ▸ htail)
      rw [if_pos ⟨rfl, hpriority⟩, if_pos ⟨hpriority, hnone⟩]
    · simp [hpriority, raiseBound_queue]

structure Enqueueable (st : ProcState) (target : ProcessId) : Prop where
  ready : (st.processes target).status = .ready
  priority : 0 ≤ (st.processes target).priority ∧ (st.processes target).priority < priorityMax
  unqueued : (st.processes target).isInReadyQueue = false
  next : (st.processes target).next = none
  preview : (st.processes target).preview = none

theorem Enqueueable.addProcess (h : st.Enqueueable target) (core : Nat) :
    st.addProcess core target = .ok () (st.enqueue core target) := by
  have hpriority := h.priority
  rw [addProcess_eq, if_neg (by simp [h.ready]), if_neg (by omega),
    if_neg (by simp [h.unqueued, h.next, h.preview])]

theorem Enqueueable.tryDirectSchedule_ok (h : st.Enqueueable target) (core : Nat) :
    ∃ next, (st.tryDirectSchedule core target).result = .ok next ∧
      (next = target ∨ ∃ priority, (st.queue core priority).head = some next) := by
  have hpriority := h.priority
  unfold tryDirectSchedule
  dsimp only
  rw [if_neg (by omega)]
  generalize st.directBound core (st.processes target).priority = bound
  split
  case isFalse => exact ⟨target, by simp [h.unqueued], .inl rfl⟩
  case isTrue hlt =>
    have hbounded : (st.setHighestPriority core bound).Enqueueable target :=
      ⟨h.ready, h.priority, h.unqueued, h.next, h.preview⟩
    have hhigh : ((st.setHighestPriority core bound).enqueue core target).highestPriority core =
        bound := by
      rw [enqueue_highestPriority, if_pos rfl, setHighestPriority_highestPriority, if_pos rfl]
      exact max_eq_left hlt.le
    rw [if_neg (by simp [h.ready]), hbounded.addProcess, Outcome.andThen_ok, schedule, hhigh]
    have hsome : (((st.setHighestPriority core bound).enqueue core target).highestReady core
        (bound + 1).toNat).isSome = true := by
      apply highestReady_isSome (st.processes target).priority.toNat (by omega)
      rw [enqueue_head]
      split
      · rfl
      case isFalse hnot =>
        rw [not_and_or, not_or] at hnot
        have hhead := (hnot.resolve_left (not_not.mpr rfl)).1
        exact Option.isSome_iff_ne_none.mpr hhead
    obtain ⟨⟨priority, next⟩, hfound⟩ := Option.isSome_iff_exists.mp hsome
    rw [hfound]
    refine ⟨next, rfl, ?_⟩
    have hhead := highestReady_head hfound
    rw [enqueue_head] at hhead
    split at hhead
    · exact .inl (Option.some.inj hhead).symm
    · exact .inr ⟨priority, by simpa using hhead⟩

theorem tryDirectSchedule_queued (hready : (st.processes target).status = .ready)
    (hpriority : 0 ≤ (st.processes target).priority ∧ (st.processes target).priority < priorityMax)
    (hqueued : (st.processes target).isInReadyQueue = true) (core : Nat) :
    (st.tryDirectSchedule core target).result = .error .processAlreadyExistsInQueue := by
  unfold tryDirectSchedule
  dsimp only
  rw [if_neg (by omega)]
  split
  · rw [if_neg (by simp [hready]), addProcess_eq, if_neg (by simp [hready]),
      if_neg (by simpa using by omega), if_pos (by simp [hqueued])]
    rfl
  · rfl

theorem tryDirectScheduleAndSwitchLocal_ok (h : st.Enqueueable target) (core : Nat)
    (hroots : ∀ next, next = target ∨ (∃ priority, (st.queue core priority).head = some next) →
      root next ≠ 0) :
    (st.tryDirectScheduleAndSwitchLocal p root core target).result = .ok () := by
  obtain ⟨next, hnext, hchoice⟩ := h.tryDirectSchedule_ok core
  unfold tryDirectScheduleAndSwitchLocal
  generalize st.tryDirectSchedule core target = o at hnext ⊢
  obtain ⟨result, st'⟩ := o
  obtain rfl : result = .ok next := hnext
  have hswitched := switchTo_ok (p := p) (hroots next hchoice) st' core
  simp only [Outcome.transformError, Outcome.andThen]
  generalize st'.switchTo p root core next = o' at hswitched ⊢
  obtain ⟨_ | _, st''⟩ := o'
  · cases hswitched
  · rfl

theorem tryDirectScheduleAndSwitchLocal_queued (hready : (st.processes target).status = .ready)
    (hpriority : 0 ≤ (st.processes target).priority ∧ (st.processes target).priority < priorityMax)
    (hqueued : (st.processes target).isInReadyQueue = true) (core : Nat) :
    (st.tryDirectScheduleAndSwitchLocal p root core target).result = .error .halError := by
  have hrefused := tryDirectSchedule_queued hready hpriority hqueued core
  unfold tryDirectScheduleAndSwitchLocal
  generalize st.tryDirectSchedule core target = o at hrefused ⊢
  obtain ⟨result, st'⟩ := o
  obtain rfl : result = .error .processAlreadyExistsInQueue := hrefused
  rfl

/-- The process as `mark_scheduled` hands it to the scheduler. -/
def awaken (st : ProcState) (target : ProcessId) : ProcState :=
  (st.modifyProcess target fun process => { process with quantum := quantumMax }).modifyProcess
    target fun process => { process with status := .ready }

theorem markScheduledOn_ok (core : Nat) (hne : target ≠ .idle core)
    (hpriority : 0 ≤ (st.processes target).priority ∧
      (st.processes target).priority < priorityMax) :
    ∃ st', st.markScheduledOn core target = .ok () st' ∧ SchedulerOnly (st.awaken target) st' := by
  have hprocess : ((st.awaken target).processes target).status = .ready ∧
      ((st.awaken target).processes target).priority = (st.processes target).priority := by
    simp [awaken, modifyProcess_processes]
  have honly := SchedulerOnly.addProcess (st.awaken target) core target
  unfold markScheduledOn
  dsimp only
  rw [if_neg hne]
  change ∃ st', ((st.awaken target).addProcess core target).orElse _ = .ok () st' ∧ _
  rw [addProcess_eq, if_neg (by simp [hprocess.1]), if_neg (by rw [hprocess.2]; omega)] at honly ⊢
  split
  case isTrue hqueued =>
    rw [if_pos hqueued] at honly
    exact ⟨_, rfl, honly⟩
  case isFalse hfree =>
    rw [if_neg hfree] at honly
    exact ⟨_, rfl, honly⟩

theorem markScheduled_ok {current : ProcessId} (hne : ∀ core, target ≠ .idle core)
    (hpriority : 0 ≤ (st.processes target).priority ∧ (st.processes target).priority < priorityMax)
    (hlocal : p.smpEnabled = true →
      (st.processes target).coreAffinity = (st.processes current).coreAffinity) :
    ∃ st', st.markScheduled p sendIpi current target = .ok () st' ∧
      SchedulerOnly (st.awaken target) st' := by
  obtain ⟨st', hmarked, honly⟩ := markScheduledOn_ok (st.affinity p target) (hne _) hpriority
  have haffinity : ∀ id, (st'.processes id).coreAffinity = (st.processes id).coreAffinity := by
    intro id
    rw [honly.coreAffinity]
    by_cases hid : id = target <;> simp [awaken, modifyProcess_processes, hid]
  refine ⟨{ st' with unsignalled := target :: st'.unsignalled }, ?_, honly.trans
    ⟨fun _ => rfl, fun _ => rfl, fun _ => rfl, fun _ => rfl, rfl, rfl, rfl, rfl⟩⟩
  unfold markScheduled
  dsimp only
  rw [hmarked, Outcome.andThen_ok, if_neg]
  rintro ⟨hsmp, hremote⟩
  apply hremote
  rw [affinity, affinity, if_pos hsmp, if_pos hsmp, haffinity, hlocal hsmp]

theorem awaken_status (st : ProcState) (target id : ProcessId) :
    ((st.awaken target).processes id).status =
      if id = target then .ready else (st.processes id).status := by
  by_cases hid : id = target <;> simp [awaken, modifyProcess_processes, hid]

end ProcState

/-! ## The two paths -/

namespace SystemState

open ProcState

variable {e : Entry} {st st' st'' : SystemState} {owner client : ProcessId} {port info : Word}
  {self : PortSlot}

/-- The states agree in all but the scheduling, of which they agree in the statuses. -/
structure SameIpc (st st' : SystemState) : Prop where
  registers : st'.registers = st.registers
  buffers : st'.buffers = st.buffers
  contexts : st'.contexts = st.contexts
  ports : st'.ports = st.ports
  notifications : st'.notifications = st.notifications
  status : ∀ id, (st'.proc.processes id).status = (st.proc.processes id).status

namespace SameIpc

theorem refl (st : SystemState) : SameIpc st st := ⟨rfl, rfl, rfl, rfl, rfl, fun _ => rfl⟩

theorem trans (h : SameIpc st st') (h' : SameIpc st' st'') : SameIpc st st'' :=
  ⟨h'.registers.trans h.registers, h'.buffers.trans h.buffers, h'.contexts.trans h.contexts,
    h'.ports.trans h.ports, h'.notifications.trans h.notifications,
    fun id => (h'.status id).trans (h.status id)⟩

theorem symm (h : SameIpc st st') : SameIpc st' st :=
  ⟨h.registers.symm, h.buffers.symm, h.contexts.symm, h.ports.symm, h.notifications.symm,
    fun id => (h.status id).symm⟩

theorem withProc (st : SystemState) {proc : ProcState}
    (hstatus : ∀ id, (proc.processes id).status = (st.proc.processes id).status) :
    SameIpc st { st with proc := proc } := ⟨rfl, rfl, rfl, rfl, rfl, hstatus⟩

section

variable (h : SameIpc st st')
include h

theorem setStatus (id : ProcessId) (status : ProcessStatus) :
    SameIpc (st.setStatus id status) (st'.setStatus id status) := by
  refine ⟨h.registers, h.buffers, h.contexts, h.ports, h.notifications, fun other => ?_⟩
  simp only [SystemState.setStatus, SystemState.modifyProcess, modifyProcess_processes]
  split
  · rfl
  · exact h.status other

theorem modifyPort (port : Word) (f : IpcPort → IpcPort) :
    SameIpc (st.modifyPort port f) (st'.modifyPort port f) :=
  ⟨h.registers, h.buffers, h.contexts, by simp [SystemState.modifyPort, h.ports], h.notifications,
    h.status⟩

theorem modifyContext (id : ProcessId) (f : IpcContext → IpcContext) :
    SameIpc (st.modifyContext id f) (st'.modifyContext id f) :=
  ⟨h.registers, h.buffers, by simp [SystemState.modifyContext, h.contexts], h.ports,
    h.notifications, h.status⟩

theorem pushIpcQueue (port : Word) (target : ProcessId) :
    SameIpc (st.pushIpcQueue port target) (st'.pushIpcQueue port target) := by
  unfold SystemState.pushIpcQueue
  dsimp only
  simp only [modifyContext_ports, h.ports]
  split
  · exact (((h.modifyContext _ _).modifyContext _ _).modifyContext _ _).modifyPort _ _
  · exact ((h.modifyContext _ _).modifyPort _ _).modifyContext _ _

end

end SameIpc

/-- REPLY_RECEIVE the long way: the reply goes through the ready queue, and then the server
receives. -/
def replyThenReceive (e : Entry) (owner : ProcessId) (port info : Word) (st : SystemState) :
    Outcome CapabilityError SystemState Unit :=
  (st.completeReply e true owner info).andThen fun _ st =>
    match (st.ports port).state with
    | .readyToSend => st.tryReceiveFromReadySender e port owner
    | .wait | .readyToReceive => st.receiveWithoutSender e owner port info

def replyDirectly (e : Entry) (owner client : ProcessId) (port info : Word) (st : SystemState) :
    Outcome CapabilityError SystemState Unit :=
  (st.completeReply e false owner info).andThen fun _ st =>
    let st := st.modifyPort port fun port => { port with state := .readyToReceive }
    let st := (st.setStatus owner .blockedReceive).pushIpcQueue port owner
    (st.onProc fun proc => proc.tryDirectScheduleAndSwitchLocal e.platform e.root
      (proc.affinity e.platform owner) client).transformError convertKernelToCapabilityError

theorem operationReplyReceive_direct (hread : self.rights &&& Slot.read ≠ 0)
    (hdirect : st.repliesDirectly e owner self.port info = true)
    (hclient : (st.contexts owner).destinationReplyTarget = some client) :
    st.operationReplyReceive e owner self info = st.replyDirectly e owner client self.port info := by
  unfold operationReplyReceive
  rw [if_neg hread, if_pos hdirect, hclient]
  rfl

theorem of_repliesDirectly (hdirect : st.repliesDirectly e owner port info = true)
    (hclient : (st.contexts owner).destinationReplyTarget = some client) :
    (st.contexts owner).destinationReplyState ≠ .none ∧ (st.contexts client).faultReason = .none ∧
      MessageInfo.isBlock info = true ∧ (st.ports port).state ≠ .readyToSend ∧
      (e.platform.smpEnabled = true → (st.proc.processes client).coreAffinity =
        (st.proc.processes owner).coreAffinity) ∧
      st.hasPendingNotification e owner = false := by
  unfold repliesDirectly at hdirect
  simp only [hclient, decide_eq_true_iff] at hdirect
  obtain ⟨hstate, hfault, hblock, hport, haffinity, hpending⟩ := hdirect
  refine ⟨by simp [hstate], hfault, hblock, hport, fun hsmp => ?_, by simpa using hpending⟩
  exact haffinity.resolve_left (not_not.mpr hsmp)

def replied (owner client : ProcessId) (st : SystemState) : SystemState :=
  (st.setStatus client .ready).unlinkReply owner client

theorem completeReply_eq (enqueue : Bool)
    (hstate : (st.contexts owner).destinationReplyState ≠ .none)
    (hclient : (st.contexts owner).destinationReplyTarget = some client)
    (hfault : (st.contexts client).faultReason = .none) :
    st.completeReply e enqueue owner info =
      (st.transferDirectMessage e client owner info).andThen fun _ st =>
        if enqueue then
          ((st.replied owner client).onProc fun proc =>
            proc.markScheduled e.platform e.sendIpi owner client).transformError
              convertKernelToCapabilityError
        else .ok () (st.replied owner client) := by
  unfold completeReply replyTo
  rw [if_neg hstate, hclient]
  dsimp only
  rw [if_neg (by simp [hfault])]
  rfl

/-- The caller and the processes that may run next are as the scheduler expects them. -/
structure Answerable (e : Entry) (owner client : ProcessId) (st : SystemState) : Prop where
  apart : client ≠ owner
  user : ∀ core, client ≠ .idle core
  priority : 0 ≤ (st.proc.processes client).priority ∧
    (st.proc.processes client).priority < priorityMax
  loose : (st.proc.processes client).isInReadyQueue = false →
    (st.proc.processes client).next = none ∧ (st.proc.processes client).preview = none
  roots : ∀ next, next = client ∨ next = .idle (st.proc.affinity e.platform owner) ∨
    (∃ priority, (st.proc.queue (st.proc.affinity e.platform owner) priority).head = some next) →
    e.root next ≠ 0

def received (owner : ProcessId) (port : Word) (st : SystemState) : SystemState :=
  ((st.modifyPort port fun port => { port with state := .readyToReceive }).setStatus owner
    .blockedReceive).pushIpcQueue port owner

theorem SameIpc.received (h : SameIpc st st') (owner : ProcessId) (port : Word) :
    SameIpc (st.received owner port) (st'.received owner port) :=
  ((h.modifyPort port _).setStatus owner _).pushIpcQueue port owner

section

variable (owner : ProcessId) (port : Word) (st : SystemState)

theorem received_proc :
    (st.received owner port).proc = (st.setStatus owner .blockedReceive).proc := by
  unfold received pushIpcQueue
  dsimp only
  split <;> rfl

theorem received_processes (id : ProcessId) : (st.received owner port).proc.processes id =
      if id = owner then { st.proc.processes owner with status := .blockedReceive }
      else st.proc.processes id := by
  rw [received_proc]
  simp only [SystemState.setStatus, SystemState.modifyProcess, modifyProcess_processes]

end

section Paths

variable (h : Answerable e owner client st)
  (hdirect : st.repliesDirectly e owner port info = true)
  (hclient : (st.contexts owner).destinationReplyTarget = some client)
  {given : SystemState} (hgiven : st.transferDirectMessage e client owner info = .ok () given)

include hgiven in
theorem given_eq : given = { st with registers := given.registers, buffers := given.buffers } := by
  have harrives := transferDirectMessage_arrives e client owner info st
  rw [hgiven, Outcome.post_ok] at harrives
  have hwrote := writeMessageRegisters_spec e client (messageWords e owner info st) st
  rw [harrives.1, Outcome.post_ok] at hwrote
  exact hwrote.1.rest

include hgiven in
theorem replied_processes (id : ProcessId) : ((given.replied owner client).proc.processes id) =
      if id = client then { st.proc.processes client with status := .ready }
      else st.proc.processes id := by
  rw [given_eq hgiven]
  simp [replied, unlinkReply, SystemState.setStatus, SystemState.modifyProcess,
    modifyProcess_processes]

include hgiven in
theorem received_queue (core priority : Nat) :
    (((given.replied owner client).received owner port).proc.queue core priority) =
      st.proc.queue core priority := by
  rw [received_proc, given_eq hgiven]
  rfl

include h hgiven in
theorem received_affinity :
    ((given.replied owner client).received owner port).proc.affinity e.platform owner =
      st.proc.affinity e.platform owner := by
  unfold affinity
  rw [received_processes, if_pos rfl, replied_processes hgiven, if_neg h.apart.symm]

include h hgiven in
theorem received_client : ((given.replied owner client).received owner port).proc.processes client =
      { st.proc.processes client with status := .ready } := by
  rw [received_processes, if_neg h.apart, replied_processes hgiven, if_pos rfl]

/-! ### The direct path -/

include hdirect hclient hgiven in
theorem replyDirectly_eq : st.replyDirectly e owner client port info =
      (((given.replied owner client).received owner port).onProc fun proc =>
        proc.tryDirectScheduleAndSwitchLocal e.platform e.root (proc.affinity e.platform owner)
          client).transformError convertKernelToCapabilityError := by
  obtain ⟨hstate, hfault, -⟩ := of_repliesDirectly hdirect hclient
  unfold replyDirectly
  rw [completeReply_eq false hstate hclient hfault, hgiven]
  rfl

include hdirect hclient hgiven in
theorem replyDirectly_sameIpc : SameIpc ((given.replied owner client).received owner port)
      (st.replyDirectly e owner client port info).state := by
  rw [replyDirectly_eq hdirect hclient hgiven, Outcome.transformError_state]
  apply SameIpc.withProc
  generalize ((given.replied owner client).received owner port).proc = proc
  have hcalm : Calm (fun _ _ => False) proc (proc.tryDirectScheduleAndSwitchLocal e.platform e.root
      (proc.affinity e.platform owner) client).state :=
    .of_touches ((Touches.refl proc).tryDirectScheduleAndSwitchLocal trivial trivial)
  exact fun other => (hcalm other).resolve_right id

include h hdirect hclient hgiven in
theorem replyDirectly_result : (st.replyDirectly e owner client port info).result = .ok () ↔
      (st.proc.processes client).isInReadyQueue = false := by
  rw [replyDirectly_eq hdirect hclient hgiven]
  generalize hstate : (given.replied owner client).received owner port = st1
  have hprocess : st1.proc.processes client = { st.proc.processes client with status := .ready } :=
    hstate ▸ received_client h hgiven
  have haffinity : st1.proc.affinity e.platform owner = st.proc.affinity e.platform owner :=
    hstate ▸ received_affinity h hgiven
  have hqueue : ∀ core priority, st1.proc.queue core priority = st.proc.queue core priority :=
    hstate ▸ received_queue hgiven
  cases hqueued : (st.proc.processes client).isInReadyQueue with
  | true =>
    have hrefused : (st1.proc.tryDirectScheduleAndSwitchLocal e.platform e.root
        (st1.proc.affinity e.platform owner) client).result = .error .halError :=
      tryDirectScheduleAndSwitchLocal_queued (by rw [hprocess])
        (by rw [hprocess]; exact h.priority) (by rw [hprocess]; exact hqueued) _
    refine iff_of_false ?_ (by simp)
    unfold onProc Outcome.transformError
    simp [hrefused]
  | false =>
    have hloose := h.loose hqueued
    have henqueueable : st1.proc.Enqueueable client :=
      ⟨by rw [hprocess], by rw [hprocess]; exact h.priority, by rw [hprocess]; exact hqueued,
        by rw [hprocess]; exact hloose.1, by rw [hprocess]; exact hloose.2⟩
    have hswitched : (st1.proc.tryDirectScheduleAndSwitchLocal e.platform e.root
        (st1.proc.affinity e.platform owner) client).result = .ok () := by
      apply tryDirectScheduleAndSwitchLocal_ok henqueueable
      intro next hnext
      simp only [hqueue, haffinity] at hnext
      exact h.roots next (hnext.imp id .inr)
    refine iff_of_true ?_ rfl
    unfold onProc Outcome.transformError
    simp [hswitched]

/-! ### The long way -/

theorem tryDeliverPendingBindedNotification_eq
    (hpending : st.hasPendingNotification e owner = false) :
    st.tryDeliverPendingBindedNotification e owner = .ok false st := by
  unfold hasPendingNotification at hpending
  unfold tryDeliverPendingBindedNotification
  split at hpending
  · rfl
  · rw [hpending]
    rfl

theorem receiveWithoutSender_eq (hpending : st.hasPendingNotification e owner = false)
    (hblock : MessageInfo.isBlock info = true) :
    st.receiveWithoutSender e owner port info = ((st.received owner port).onProc fun proc =>
        proc.tryScheduleAndSwitchFor e.platform e.root owner).transformError
          convertKernelToCapabilityError := by
  unfold receiveWithoutSender
  rw [tryDeliverPendingBindedNotification_eq hpending, Outcome.andThen_ok, if_neg (by simp),
    if_neg (by simp [hblock])]
  rfl

include h hdirect hclient hgiven in
theorem replyThenReceive_spec : (st.replyThenReceive e owner port info).result = .ok () ∧
      SameIpc ((given.replied owner client).received owner port)
        (st.replyThenReceive e owner port info).state := by
  obtain ⟨hstate, hfault, hblock, hport, haffinity, hpending⟩ := of_repliesDirectly hdirect hclient
  have hgivenEq := given_eq hgiven
  -- the caller is woken on the server's core
  obtain ⟨proc, hmarked, honly⟩ : ∃ proc, (given.replied owner client).proc.markScheduled e.platform
      e.sendIpi owner client = .ok () proc ∧
        SchedulerOnly ((given.replied owner client).proc.awaken client) proc := markScheduled_ok h.user
    (by rw [replied_processes hgiven, if_pos rfl]; exact h.priority)
    (by
      rw [replied_processes hgiven, replied_processes hgiven, if_pos rfl, if_neg h.apart.symm]
      exact haffinity)
  have hwoken : SameIpc (given.replied owner client) { given.replied owner client with proc := proc } := by
    apply SameIpc.withProc
    intro id
    rw [honly.status, awaken_status]
    split
    case isTrue heq => rw [heq, replied_processes hgiven, if_pos rfl]
    case isFalse => rfl
  generalize hnext : ({ given.replied owner client with proc := proc } : SystemState) = st1 at hwoken
  have hcomplete : st.completeReply e true owner info = .ok () st1 := by
    rw [completeReply_eq true hstate hclient hfault, hgiven, Outcome.andThen_ok, if_pos rfl, ← hnext]
    unfold onProc
    dsimp only
    rw [hmarked]
    rfl
  have hreceive : st.replyThenReceive e owner port info =
      st1.receiveWithoutSender e owner port info := by
    have hports : (st1.ports port).state ≠ .readyToSend := by
      rw [hwoken.ports, hgivenEq]
      exact hport
    unfold replyThenReceive
    rw [hcomplete, Outcome.andThen_ok]
    cases hports' : (st1.ports port).state with
    | readyToSend => exact absurd hports' hports
    | wait | readyToReceive => rfl
  have hquiet : st1.hasPendingNotification e owner = false := by
    unfold hasPendingNotification at hpending ⊢
    rw [hwoken.notifications, hgivenEq]
    exact hpending
  have hsame := hwoken.received owner port
  have hidle : e.root (.idle ((st1.received owner port).proc.affinity e.platform owner)) ≠ 0 := by
    have hcore : (st1.received owner port).proc.affinity e.platform owner =
        st.proc.affinity e.platform owner := by
      unfold affinity
      rw [received_processes, if_pos rfl, ← hnext]
      dsimp only
      rw [honly.coreAffinity, awaken, modifyProcess_processes, if_neg h.apart.symm,
        modifyProcess_processes, if_neg h.apart.symm, replied_processes hgiven, if_neg h.apart.symm]
    rw [hcore]
    exact h.roots _ (.inr (.inl rfl))
  rw [hreceive, receiveWithoutSender_eq hquiet hblock]
  constructor
  · have hswitched := tryScheduleAndSwitch_ok (p := e.platform) hidle (st1.received owner port).proc
    unfold onProc tryScheduleAndSwitchFor Outcome.transformError
    simp [hswitched]
  · rw [Outcome.transformError_state]
    apply hsame.trans
    apply SameIpc.withProc
    generalize (st1.received owner port).proc = proc
    have hcalm : Calm (fun _ _ => False) proc (proc.tryScheduleAndSwitch e.platform e.root
        (proc.affinity e.platform owner)).state :=
      .of_touches ((Touches.refl proc).tryScheduleAndSwitch trivial)
    exact fun other => (hcalm other).resolve_right id

end Paths

/-- The two paths of REPLY_RECEIVE agree iff the reply cannot be given or the caller is in no ready
queue. -/
theorem replyReceive_paths_agree_iff (hread : self.rights &&& Slot.read ≠ 0)
    (hdirect : st.repliesDirectly e owner self.port info = true)
    (hclient : (st.contexts owner).destinationReplyTarget = some client)
    (h : Answerable e owner client st) :
    Outcome.Related SameIpc (st.operationReplyReceive e owner self info)
        (st.replyThenReceive e owner self.port info) ↔
      (st.transferDirectMessage e client owner info).succeeded = false ∨
        (st.proc.processes client).isInReadyQueue = false := by
  rw [operationReplyReceive_direct hread hdirect hclient]
  cases hgiven : st.transferDirectMessage e client owner info with
  | mk result given =>
    cases result with
    | error error =>
      -- both paths end with the failed transfer
      obtain ⟨hstate, hfault, -⟩ := of_repliesDirectly hdirect hclient
      refine iff_of_true ?_ (.inl rfl)
      unfold replyDirectly replyThenReceive
      rw [completeReply_eq false hstate hclient hfault,
        completeReply_eq true hstate hclient hfault, hgiven]
      exact .error error (.refl given)
    | ok value =>
      have hlong := replyThenReceive_spec h hdirect hclient hgiven
      have hshort := replyDirectly_sameIpc hdirect hclient hgiven
      have hresult := replyDirectly_result h hdirect hclient hgiven
      constructor
      · intro hrelated
        exact .inr (hresult.mp (hrelated.result.trans hlong.1))
      · rintro (hfailed | hfree)
        · cases hfailed
        · exact ⟨(hresult.mpr hfree).trans hlong.1.symm, hshort.symm.trans hlong.2⟩

end SystemState

/-! ## A caller that is queued

On one core the second process calls the init process, which answers directly. On two cores the
interrupt that should announce a call is lost: the call fails, but the server is woken all the same
and answers, so that the init process is queued on the core that runs it. Its next call blocks it
with the queue entry still there. -/

section Example

open SystemState

def invokeAt (port : Word) : KernelEntry := .capabilityCall (.ipcPort { port := port })

theorem legal_invokeAt {existing : Finset ProcessId} {current : Word} {port : Word} :
    (invokeAt port).Legal existing (some (.user current)) := ⟨trivial, by simp⟩

def initCalled : SystemState := (initReceives.say 0x2000 [0, 3, 1]).handle onlyCore invokePort

theorem replyReceive_paths_agree_initCalled :
    Outcome.Related SameIpc
        (initCalled.operationReplyReceive onlyCore (.user 0x1000) { port := 0x9000 } 1)
        (initCalled.replyThenReceive onlyCore (.user 0x1000) 0x9000 1) ↔
      (initCalled.transferDirectMessage onlyCore (.user 0x2000) (.user 0x1000) 1).succeeded = false ∨
        (initCalled.proc.processes (.user 0x2000)).isInReadyQueue = false :=
  replyReceive_paths_agree_iff (by decide) (by decide +kernel) (by decide +kernel)
    ⟨by decide, by simp, by decide +kernel, by decide +kernel, by simp [onlyCore]⟩

/-- Runs of the three processes in which no transfer and no context switch fails. -/
def TrioReaches (st : SystemState) : Prop :=
  Relation.ReflTransGen (Step trio Switching) trio.boot st

theorem TrioReaches.say {st : SystemState} (h : TrioReaches st) (address : Word)
    (words : List Word) : TrioReaches (st.say address words) := h.tail (.user (alike_say _ _ _))

theorem TrioReaches.handle {st : SystemState} (h : TrioReaches st) {core : Nat} {sendIpi : Bool}
    {entry : KernelEntry} (current : ProcessId) (hcore : core < 2)
    (hcurrent : (st.proc.cpus core).currentProcess = some current)
    (hlegal : entry.Legal trio.existing (some current))
    (hfailed : (st.handle (onCore core sendIpi) entry).failedTransfers = st.failedTransfers) :
    TrioReaches (st.handle (onCore core sendIpi) entry) :=
  h.tail (.entry _ _ (possible_trio current hcore hcurrent hlegal) (switching_onCore hfailed))

def initParks : SystemState :=
  (thirdResumed.say 0x1000 [0, 2, 1]).handle (onCore 0 true) (invokeAt 0xc000)
def thirdWaits : SystemState :=
  (initParks.say 0x3000 [0, 2, 1]).handle (onCore 0 true) (invokeAt 0xb000)
def serverSends : SystemState :=
  (thirdWaits.say 0x2000 [0, 1, 1]).handle (onCore 1 true) (invokeAt 0xc000)
def initRuns : SystemState := serverSends.handle (onCore 0 true) .ipiReschedule

def prioritySaid : SystemState := (initRuns.say 0x1000 [0, 1, 0x100]).setBufferWord 0x7000 11 31
def thirdRaised : SystemState := prioritySaid.handle (onCore 0 true) (resume 0x3000)
def serverReceives : SystemState :=
  (thirdRaised.say 0x2000 [0, 2, 1]).handle (onCore 1 true) invokePort

def callLost : SystemState :=
  (serverReceives.say 0x1000 [0, 3, 1]).handle (onCore 0 false) invokePort
def serverWoken : SystemState := callLost.handle (onCore 1 true) .ipiReschedule
def serverAnswers : SystemState :=
  (serverWoken.say 0x2000 [0, 4]).handle (onCore 1 true) invokePort
def thirdCalled : SystemState :=
  (serverAnswers.say 0x1000 [0, 3, 1]).handle (onCore 0 true) (invokeAt 0xb000)

theorem thirdRaised_reached : TrioReaches thirdRaised := by
  have hresumed : TrioReaches thirdResumed := run_mono (fun _ _ _ h => h.2) thirdResumed_reachable
  have hwaits : TrioReaches initParks :=
    (hresumed.say 0x1000 [0, 2, 1]).handle (.user 0x1000) (by decide) (by decide +kernel)
      legal_invokeAt (by decide +kernel)
  have hthird : TrioReaches thirdWaits :=
    (hwaits.say 0x3000 [0, 2, 1]).handle (.user 0x3000) (by decide) (by decide +kernel)
      legal_invokeAt (by decide +kernel)
  have hsends : TrioReaches serverSends :=
    (hthird.say 0x2000 [0, 1, 1]).handle (.user 0x2000) (by decide) (by decide +kernel)
      legal_invokeAt (by decide +kernel)
  have hruns : TrioReaches initRuns :=
    hsends.handle (.idle 0) (by decide) (by decide +kernel) trivial (by decide +kernel)
  have hsaid : TrioReaches prioritySaid :=
    (hruns.say 0x1000 [0, 1, 0x100]).tail (.user ⟨rfl, rfl, fun _ => rfl, fun _ => rfl, rfl⟩)
  exact hsaid.handle (.user 0x1000) (by decide) (by decide +kernel)
    ⟨⟨by decide, by simp⟩, by simp⟩ (by decide +kernel)

theorem thirdCalled_reached : TrioReaches thirdCalled := by
  have hreceives : TrioReaches serverReceives :=
    (thirdRaised_reached.say 0x2000 [0, 2, 1]).handle (.user 0x2000) (by decide)
      (by decide +kernel) legal_invokePort (by decide +kernel)
  have hlost : TrioReaches callLost :=
    (hreceives.say 0x1000 [0, 3, 1]).handle (.user 0x1000) (by decide) (by decide +kernel)
      legal_invokePort (by decide +kernel)
  have hwoken : TrioReaches serverWoken :=
    hlost.handle (.idle 1) (by decide) (by decide +kernel) trivial (by decide +kernel)
  have hanswers : TrioReaches serverAnswers :=
    (hwoken.say 0x2000 [0, 4]).handle (.user 0x2000) (by decide) (by decide +kernel)
      legal_invokePort (by decide +kernel)
  exact (hanswers.say 0x1000 [0, 3, 1]).handle (.user 0x1000) (by decide) (by decide +kernel)
    legal_invokeAt (by decide +kernel)

/-- The third process answers its waiting caller: the direct path fails, the long way does not. -/
theorem replyReceive_paths_differ :
    TrioReaches thirdCalled ∧
      (thirdCalled.proc.cpus 0).currentProcess = some (.user 0x3000) ∧
      (thirdCalled.contexts (.user 0x3000)).destinationReplyTarget = some (.user 0x1000) ∧
      (thirdCalled.proc.processes (.user 0x1000)).status = .blockedReply ∧
      thirdCalled.repliesDirectly (onCore 0 true) (.user 0x3000) 0xb000 1 = true ∧
      ¬ Outcome.Related SameIpc
        (thirdCalled.operationReplyReceive (onCore 0 true) (.user 0x3000) { port := 0xb000 } 1)
        (thirdCalled.replyThenReceive (onCore 0 true) (.user 0x3000) 0xb000 1) := by
  refine ⟨thirdCalled_reached, by decide +kernel, by decide +kernel, by decide +kernel,
    by decide +kernel, fun hrelated => ?_⟩
  have hfails : (thirdCalled.operationReplyReceive (onCore 0 true) (.user 0x3000)
    { port := 0xb000 } 1).succeeded = false := by decide +kernel
  have hsucceeds : (thirdCalled.replyThenReceive (onCore 0 true) (.user 0x3000) 0xb000
    1).succeeded = true := by decide +kernel
  unfold Outcome.succeeded at hfails hsucceeds
  rw [hrelated.result, hsucceeds] at hfails
  cases hfails

end Example

end A9N.Kernel
