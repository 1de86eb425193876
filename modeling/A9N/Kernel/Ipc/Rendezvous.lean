import A9N.Kernel.Ipc.ReplyReceivePaths

/-!
# Sender and receiver meet in either order

At an empty port the sender may come first and wait in the queue, to be taken out by the receiver,
or the receiver may come first and be handed the message. The two orders run different code.
-/

namespace A9N.Kernel

/-- A context but for the replies it waits for and owes. -/
def IpcContext.withoutReplies (context : IpcContext) : IpcContext :=
  { context with destinationReplyState := .none, destinationReplyTarget := none
                 sourceReplyState := .none, sourceReplyTarget := none }

/-- The context of a process that has queued to SEND or to CALL. -/
def IpcContext.sent (call : Bool) (self : PortSlot) (context : IpcContext) : IpcContext :=
  { context with identifierWhenBlocked := self.identifier
                 sourceReplyState := if call then .wait else context.sourceReplyState }

namespace SystemState

open ProcState MessageInfo Outcome IpcContext

variable {e : Entry} {st st' st'' : SystemState} {sender receiver client : ProcessId} {port : Word}

/-! ## A queue of one -/

theorem popIpcQueue_single (hhead : (st.ports port).queueHead = some sender)
    (hnext : (st.contexts sender).nextIpcQueue = none) :
    st.popIpcQueue port = .ok sender ((st.modifyPort port fun port =>
      { port with queueHead := none, queueTail := none, state := .wait }).modifyContext sender
        fun context => { context with currentIpcPort := none }) := by
  unfold popIpcQueue
  rw [hhead]
  dsimp only
  rw [hnext]

theorem pushIpcQueue_empty (hhead : (st.ports port).queueHead = none) (target : ProcessId) :
    st.pushIpcQueue port target = (st.modifyPort port fun port =>
        { port with queueHead := some target, queueTail := some target }).modifyContext target
          fun context => { context with currentIpcPort := some port, previewIpcQueue := none
                                        nextIpcQueue := none } := by
  unfold pushIpcQueue
  dsimp only
  rw [modifyContext_ports, hhead]
  dsimp only
  simp [modifyContext, modifyPort]

/-! ## Scheduling -/

structure Scheduled (st st' : SystemState) : Prop where
  status : ∀ id, (st'.proc.processes id).status = (st.proc.processes id).status
  priority : ∀ id, (st'.proc.processes id).priority = (st.proc.processes id).priority
  rest : st' = { st with proc := st'.proc }

theorem waitAt_scheduled (e : Entry) (port : Word) (owner : ProcessId) (st : SystemState) :
    Scheduled (st.pushIpcQueue port owner) (st.waitAt e port owner).state := by
  unfold waitAt
  rw [transformError_state]
  have htouches : Touches (fun grant => ∃ core, grant = .current core)
      (st.pushIpcQueue port owner).proc ((st.pushIpcQueue port owner).proc.tryScheduleAndSwitchFor
        e.platform e.root owner).state := (Touches.refl _).tryScheduleAndSwitch ⟨_, rfl⟩
  exact ⟨fun id => (htouches.process id).status.resolve_right (by simp),
    fun id => (htouches.process id).priority, rfl⟩

/-! ## The reply that the receiver drops -/

/-- What is left alone where a reply is dropped: everything but the reply links, the first two message
registers, which take the result of the caller's wait, and the status of the caller. -/
structure Leaves (e : Entry) (sender receiver : ProcessId) (st st' : SystemState) : Prop where
  message : ∀ id index, messageInfoIndex ≤ index → index < messageRegisterCount →
    st'.messageRegister e id index = st.messageRegister e id index
  buffers : st'.buffers = st.buffers
  ports : st'.ports = st.ports
  notifications : st'.notifications = st.notifications
  contexts : ∀ id, (st'.contexts id).withoutReplies = (st.contexts id).withoutReplies
  ready : ∀ id, id = sender ∨ id = receiver → (st.proc.processes id).status = .ready →
    (st'.proc.processes id).status = .ready

namespace Leaves

theorem refl (e : Entry) (sender receiver : ProcessId) (st : SystemState) :
    Leaves e sender receiver st st :=
  ⟨fun _ _ _ _ => rfl, rfl, rfl, rfl, fun _ => rfl, fun _ _ h => h⟩

section

variable (h : Leaves e sender receiver st st')
include h

theorem trans (h' : Leaves e sender receiver st' st'') : Leaves e sender receiver st st'' :=
  ⟨fun id index hlow hhigh => (h'.message id index hlow hhigh).trans (h.message id index hlow hhigh),
    h'.buffers.trans h.buffers, h'.ports.trans h.ports, h'.notifications.trans h.notifications,
    fun id => (h'.contexts id).trans (h.contexts id),
    fun id hid hready => h'.ready id hid (h.ready id hid hready)⟩

theorem buffer (id : ProcessId) : (st'.contexts id).buffer = (st.contexts id).buffer := by
  have hbuffer := congrArg IpcContext.buffer (h.contexts id)
  exact hbuffer

theorem faultReason (id : ProcessId) :
    (st'.contexts id).faultReason = (st.contexts id).faultReason := by
  have hfault := congrArg IpcContext.faultReason (h.contexts id)
  exact hfault

theorem identifierWhenBlocked (id : ProcessId) :
    (st'.contexts id).identifierWhenBlocked = (st.contexts id).identifierWhenBlocked := by
  have hidentifier := congrArg IpcContext.identifierWhenBlocked (h.contexts id)
  exact hidentifier

theorem setRegister (client : ProcessId) (index : Nat) (hindex : index < messageInfoIndex)
    (value : Word) : Leaves e sender receiver st
      (st'.setRegister client (messageRegisterIndex e.platform.architecture index) value) := by
  refine h.trans { refl e sender receiver st' with message := ?_ }
  intro id other hlow hhigh
  unfold messageInfoIndex at hindex hlow
  have hne : messageRegisterIndex e.platform.architecture other ≠
      messageRegisterIndex e.platform.architecture index :=
    messageRegisterIndex_ne (by omega) hhigh (by unfold messageRegisterCount; omega)
  by_cases hid : id = client
  · subst hid
    simp [messageRegister, SystemState.setRegister, hne]
  · simp [messageRegister, SystemState.setRegister, hid]

theorem withProc {proc : ProcState}
    (hready : ∀ id, id = sender ∨ id = receiver → (st'.proc.processes id).status = .ready →
      (proc.processes id).status = .ready) :
    Leaves e sender receiver st { st' with proc := proc } :=
  h.trans { refl e sender receiver st' with ready := hready }

theorem modifyContext (id : ProcessId) (f : IpcContext → IpcContext)
    (hf : ∀ context, (f context).withoutReplies = context.withoutReplies) :
    Leaves e sender receiver st (st'.modifyContext id f) := by
  refine h.trans { refl e sender receiver st' with contexts := ?_ }
  intro other
  rw [modifyContext_contexts]
  split
  · subst other
    exact hf _
  · rfl

end

end Leaves

/-- The server has yet to answer the client. -/
def OwesReply (st : SystemState) (server client : ProcessId) : Prop :=
  (st.contexts server).destinationReplyTarget = some client

instance (st : SystemState) (server client : ProcessId) : Decidable (st.OwesReply server client) :=
  inferInstanceAs (Decidable (_ = _))

/-- The receiver owes a reply only where it says so, whoever waits for it can be woken, and neither of
the two processes carries a fault. -/
structure Owes (sender receiver : ProcessId) (st : SystemState) : Prop where
  none : (st.contexts receiver).destinationReplyState = .none →
    (st.contexts receiver).destinationReplyTarget = none
  wakeable : ∀ client, st.OwesReply receiver client → (∀ core, client ≠ .idle core) ∧
    0 ≤ (st.proc.processes client).priority ∧ (st.proc.processes client).priority < priorityMax
  faultless : ∀ id, id = sender ∨ id = receiver → (st.contexts id).faultReason = .none

section Discard

variable (hfault : ∀ id, id = sender ∨ id = receiver → (st.contexts id).faultReason = .none)
  (huser : ∀ core, client ≠ .idle core)
  (hpriority : 0 ≤ (st.proc.processes client).priority ∧
    (st.proc.processes client).priority < priorityMax)

include hfault huser hpriority

theorem completeRevokedWait_leaves :
    (st.completeRevokedWait e client).Post
      (fun _ st' => Leaves e sender receiver st st' ∧ st'.contexts = st.contexts)
      fun _ _ => False := by
  have hwritten := ((Leaves.refl e sender receiver st).setRegister client 0 (by decide)
    0).setRegister client 1 (by decide) 0
  unfold completeRevokedWait
  rw [show st.writeMessageRegisters e client [(0, 0), (1, 0)] = .ok ()
    ((st.setRegister client (messageRegisterIndex e.platform.architecture 0) 0).setRegister client
      (messageRegisterIndex e.platform.architecture 1) 0) from rfl, andThen_ok]
  generalize hst1 : (st.setRegister client (messageRegisterIndex e.platform.architecture 0)
    0).setRegister client (messageRegisterIndex e.platform.architecture 1) 0 = st1 at hwritten ⊢
  have hproc : st1.proc = st.proc := by rw [← hst1]; rfl
  have hcontexts : st1.contexts = st.contexts := by rw [← hst1]; rfl
  have hwoken : ((st1.onProc fun proc =>
      proc.markScheduled e.platform e.sendIpi client client).transformError
        convertKernelToCapabilityError).Post
          (fun _ st' => Leaves e sender receiver st st' ∧ st'.contexts = st.contexts)
          fun _ _ => False := by
    obtain ⟨proc, hmarked, honly⟩ : ∃ proc,
        st1.proc.markScheduled e.platform e.sendIpi client client = .ok () proc ∧
          ProcState.SchedulerOnly (st1.proc.awaken client) proc :=
      markScheduled_ok huser (by rwa [hproc]) fun _ => rfl
    unfold onProc
    dsimp only
    rw [hmarked]
    refine ⟨hwritten.withProc fun id _ hready => ?_, hcontexts⟩
    rw [ok_state, honly.status, awaken_status]
    split
    · rfl
    · exact hready
  split
  next hfaulty =>
    -- neither of the two carries a fault
    refine ⟨hwritten.withProc fun id hid hready => ?_, hcontexts⟩
    have hne : id ≠ client := by
      rintro rfl
      rw [hcontexts] at hfaulty
      exact hfaulty (hfault id hid)
    simpa [modifyProcess_processes, hne] using hready
  · split
    · exact hwoken
    · exact hwoken
    · exact hwoken
    · exact hwoken
    · exact ⟨hwritten, hcontexts⟩

theorem cancelReply_leaves :
    (st.cancelReply e client true).Post
      (fun _ st' => Leaves e sender receiver st st' ∧
        (st'.contexts sender).sourceReplyState =
          (if client = sender then .none else (st.contexts sender).sourceReplyState) ∧
        (st'.contexts sender).sourceReplyTarget =
          if client = sender then none else (st.contexts sender).sourceReplyTarget)
      fun _ _ => False := by
  have hforgotten : Leaves e sender receiver st (st.forgetClient client) := by
    unfold forgetClient
    split
    · split
      · exact (Leaves.refl e sender receiver st).modifyContext _ _ fun _ => rfl
      · exact .refl e sender receiver st
    · exact .refl e sender receiver st
  have hcleared : Leaves e sender receiver st (st.dropReply client) :=
    hforgotten.modifyContext client (fun context =>
      { context with sourceReplyTarget := none, sourceReplyState := .none }) fun _ => rfl
  have hsource : ((st.dropReply client).contexts sender).sourceReplyState =
        (if client = sender then .none else (st.contexts sender).sourceReplyState) ∧
      ((st.dropReply client).contexts sender).sourceReplyTarget =
        if client = sender then none else (st.contexts sender).sourceReplyTarget := by
    unfold dropReply
    rw [modifyContext_contexts]
    by_cases heq : client = sender
    · simp [heq]
    · rw [if_neg (Ne.symm heq), if_neg heq, if_neg heq, forgetClient_contexts]
      split <;> exact ⟨rfl, rfl⟩
  have hproc := (dropReply_frame client st).1
  unfold cancelReply
  rw [if_pos rfl]
  generalize st.dropReply client = st1 at hcleared hsource hproc
  have hwait := completeRevokedWait_leaves (e := e)
    (fun id hid => (hcleared.faultReason id).trans (hfault id hid)) huser (by rwa [hproc])
  refine hwait.mono (fun _ st' h => ⟨hcleared.trans h.1, ?_⟩) fun _ _ h => h
  rw [h.2]
  exact hsource

end Discard

/-- The receiver has dropped the reply it owed; if the sender has waited for it, it does no longer. -/
structure Discarded (e : Entry) (sender receiver : ProcessId) (st st' : SystemState) : Prop
    extends Leaves e sender receiver st st' where
  free : (st'.contexts receiver).destinationReplyState = .none ∧
    (st'.contexts receiver).destinationReplyTarget = none
  source : (st'.contexts sender).sourceReplyState =
      (if st.OwesReply receiver sender then .none else (st.contexts sender).sourceReplyState) ∧
    (st'.contexts sender).sourceReplyTarget =
      if st.OwesReply receiver sender then none else (st.contexts sender).sourceReplyTarget

theorem discardReply_spec (h : Owes sender receiver st) :
    (st.discardReply e receiver).Post (fun _ st' => Discarded e sender receiver st st')
      fun _ _ => False := by
  have hdrop : ∀ {st'}, Leaves e sender receiver st st' →
      (st'.contexts sender).sourceReplyState =
        (if st.OwesReply receiver sender then .none else (st.contexts sender).sourceReplyState) ∧
      (st'.contexts sender).sourceReplyTarget =
        (if st.OwesReply receiver sender then none else (st.contexts sender).sourceReplyTarget) →
      Discarded e sender receiver st (st'.modifyContext receiver fun context =>
        { context with destinationReplyState := .none, destinationReplyTarget := none }) := by
    intro st' hleaves hsource
    refine ⟨hleaves.modifyContext receiver _ fun _ => rfl, by simp [modifyContext], ?_⟩
    rw [← hsource.1, ← hsource.2, modifyContext_contexts]
    split_ifs with heq <;> simp [heq]
  unfold discardReply
  split
  case isTrue hnone =>
    have htarget := h.none hnone
    have howes : ¬ st.OwesReply receiver sender := by simp [OwesReply, htarget]
    exact ⟨.refl e sender receiver st, ⟨hnone, htarget⟩, by simp [howes]⟩
  case isFalse =>
    split
    case h_1 client hclient =>
      obtain ⟨huser, hpriority⟩ := h.wakeable client hclient
      apply (cancelReply_leaves h.faultless huser hpriority).andThen
      rintro _ st' ⟨hleaves, hsource⟩
      refine hdrop hleaves ?_
      simpa [OwesReply, hclient] using hsource
    case h_2 hnone => exact hdrop (.refl e sender receiver st) (by simp [OwesReply, hnone])

/-! ## The first to come -/

theorem modifyContext_id (st : SystemState) (owner : ProcessId) :
    st.modifyContext owner id = st := by
  simp [modifyContext]

structure WaitsAlone (id : ProcessId) (context : IpcContext) (port : Word) (state : IpcPortState)
    (status : ProcessStatus) (st st' : SystemState) : Prop where
  registers : st'.registers = st.registers
  buffers : st'.buffers = st.buffers
  notifications : st'.notifications = st.notifications
  ports : st'.ports port = ⟨some id, some id, state⟩
  own : st'.contexts id = { context with currentIpcPort := some port, previewIpcQueue := none
                                         nextIpcQueue := none }
  others : ∀ other, other ≠ id → st'.contexts other = st.contexts other
  ownStatus : (st'.proc.processes id).status = status
  status : ∀ other, other ≠ id →
    (st'.proc.processes other).status = (st.proc.processes other).status
  priority : ∀ other, (st'.proc.processes other).priority = (st.proc.processes other).priority

theorem waitAt_waitsAlone (e : Entry) (id : ProcessId) (f : IpcContext → IpcContext)
    (state : IpcPortState) (status : ProcessStatus) (hempty : st.ports port = {}) :
    WaitsAlone id (f (st.contexts id)) port state status st
      (((((st.modifyPort port fun port => { port with state := state }).setStatus id
        status).modifyContext id f).waitAt e port id).state) := by
  have hscheduled := waitAt_scheduled e port id (((st.modifyPort port fun port =>
    { port with state := state }).setStatus id status).modifyContext id f)
  rw [pushIpcQueue_empty (by simp [modifyPort, hempty])] at hscheduled
  obtain ⟨hstatus, hpriority, hrest⟩ := hscheduled
  refine ⟨by rw [hrest]; rfl, by rw [hrest]; rfl, by rw [hrest]; rfl, ?_, ?_, ?_, ?_, ?_, ?_⟩
  · rw [hrest]
    simp [modifyPort, modifyContext, setStatus, SystemState.modifyProcess]
  · rw [hrest]
    simp [modifyPort, modifyContext, setStatus, SystemState.modifyProcess]
  · intro other hother
    rw [hrest]
    simp [modifyPort, modifyContext, setStatus, SystemState.modifyProcess, hother]
  · rw [hstatus]
    simp [setStatus, SystemState.modifyProcess, modifyProcess_processes]
  · intro other hother
    rw [hstatus]
    simp [setStatus, SystemState.modifyProcess, modifyProcess_processes, hother]
  · intro other
    rw [hpriority]
    by_cases hother : other = id <;>
      simp [setStatus, SystemState.modifyProcess, modifyProcess_processes, hother]

/-! ## The transfer -/

theorem transferMessage_ok (e : Entry) (port : Word) {info : Word}
    (haccess : ∀ i < messageLength info, st.HasMessageRegister sender (payloadStart + i) ∧
      st.HasMessageRegister receiver (payloadStart + i))
    (htransfer : transferCount info = 0) :
    ∃ st', st.transferMessage e port receiver sender info = .ok () st' ∧
      Arrives e receiver sender info st st' := by
  have harrives := transferMessage_arrives e port receiver sender info st
  have hcopy := copyMessages_spec e receiver sender (messageLength info) 0
    (st.writeHeader e receiver sender info)
  have hok : (st.transferMessage e port receiver sender info).result = .ok () := by
    unfold transferMessage
    dsimp only
    split
    · rfl
    · generalize (st.writeHeader e receiver sender info).copyMessages e receiver sender
        (messageLength info) 0 = o at hcopy
      obtain ⟨_ | _, st1⟩ := o
      · obtain ⟨j, -, hlt, hmissing⟩ := hcopy
        exact absurd (haccess j (by omega)) hmissing
      · rw [htransfer]
        rfl
  generalize st.transferMessage e port receiver sender info = o at harrives hok ⊢
  obtain ⟨_ | _, st1⟩ := o
  · cases hok
  · exact ⟨st1, rfl, harrives⟩

def sentWords (e : Entry) (sender : ProcessId) (identifier info : Word) (st : SystemState) :
    List (Nat × Word) :=
  (messageInfoIndex, info) :: (identifierIndex, identifier) ::
    payloadWords e sender (MessageInfo.messageLength info) 0 st

structure Carries (e : Entry) (sender : ProcessId) (identifier : Word) (st st' : SystemState) :
    Prop where
  message : ∀ index, messageInfoIndex ≤ index → index < messageRegisterCount →
    st'.messageRegister e sender index = st.messageRegister e sender index
  buffers : st'.buffers = st.buffers
  buffer : ∀ id, (st'.contexts id).buffer = (st.contexts id).buffer
  identifier_eq : (st'.contexts sender).identifierWhenBlocked = identifier

theorem Carries.getMessageRegister {e' : Entry} {identifier : Word}
    (h : Carries e sender identifier st st') (hplatform : e'.platform = e.platform) {index : Nat}
    (hlow : messageInfoIndex ≤ index) :
    st'.getMessageRegister e' sender index = st.getMessageRegister e sender index := by
  unfold SystemState.getMessageRegister
  rw [h.buffers, h.buffer, hplatform]
  split
  next hhigh => exact congrArg _ (h.message index hlow hhigh)
  · rfl

theorem Carries.sameWords {identifier identifier' : Word} (h : Carries e sender identifier st st')
    (hsame : SameWords st' st'')
    (hidentifier : (st''.contexts sender).identifierWhenBlocked = identifier') :
    Carries e sender identifier' st st'' := by
  refine ⟨fun index hlow hhigh => ?_, hsame.buffers.trans h.buffers,
    fun id => (hsame.buffer id).trans (h.buffer id), hidentifier⟩
  rw [← h.message index hlow hhigh, messageRegister, hsame.registers]
  rfl

section

variable {e' : Entry} {identifier info : Word} (h : Carries e sender identifier st st')
include h

theorem Carries.messageWords (hplatform : e'.platform = e.platform) :
    messageWords e' sender info st' = sentWords e sender identifier info st := by
  have hpayload : payloadWords e' sender (messageLength info) 0 st' =
      payloadWords e sender (messageLength info) 0 st := by
    apply List.map_congr_left
    intro i _
    rw [wordAt, wordAt, h.getMessageRegister hplatform (by
      unfold messageInfoIndex payloadStart
      omega)]
  rw [SystemState.messageWords, sentWords, hpayload, h.identifier_eq]

theorem Carries.transferMessage (port : Word) (hplatform : e'.platform = e.platform)
    (haccess : ∀ i < messageLength info, st.HasMessageRegister sender (payloadStart + i) ∧
      st.HasMessageRegister receiver (payloadStart + i))
    (htransfer : transferCount info = 0) :
    ∃ st'', st'.transferMessage e' port receiver sender info = .ok () st'' ∧
      st'' = { st' with registers := st''.registers, buffers := st''.buffers } ∧
      ∀ word ∈ sentWords e sender identifier info st,
        st''.getMessageRegister e receiver word.1 = .ok word.2 := by
  have haccess' : ∀ i < messageLength info, st'.HasMessageRegister sender (payloadStart + i) ∧
        st'.HasMessageRegister receiver (payloadStart + i) := by
    intro i hi
    rw [HasMessageRegister, HasMessageRegister, h.buffer, h.buffer]
    exact haccess i hi
  obtain ⟨st'', htransferred, hwritten, -⟩ := transferMessage_ok e' port haccess' htransfer
  have hspec := writeMessageRegisters_spec e' receiver (SystemState.messageWords e' sender info st') st'
  rw [hwritten, post_ok] at hspec
  refine ⟨st'', htransferred, hspec.1.rest, fun word hword => ?_⟩
  rw [← h.messageWords hplatform] at hword
  rw [← hspec.2 (messageWords_nodup e' sender info st') word hword]
  unfold SystemState.getMessageRegister
  rw [hplatform]

end

/-! ## The second to come -/

def operationSendOrCall (e : Entry) (call : Bool) (owner : ProcessId) (self : PortSlot)
    (info : Word) (st : SystemState) : Outcome CapabilityError SystemState Unit :=
  if call then st.operationCall e owner self info else st.operationSend e owner self info

/-- A sender and a receiver about to meet at an empty port. They enter the kernel as `eₛ` and `eᵣ`
and invoke the capabilities `selfₛ` and `selfᵣ`; `infoᵣ` is the receiver's message word. -/
structure Meeting (eₛ eᵣ : Entry) (sender receiver : ProcessId) (selfₛ selfᵣ : PortSlot)
    (infoᵣ : Word) (st : SystemState) : Prop where
  platform : eᵣ.platform = eₛ.platform
  apart : receiver ≠ sender
  users : ∀ core, sender ≠ .idle core ∧ receiver ≠ .idle core
  ports : selfᵣ.port = selfₛ.port
  write : selfₛ.rights &&& Slot.write ≠ 0
  read : selfᵣ.rights &&& Slot.read ≠ 0
  empty : st.ports selfₛ.port = {}
  blocks : MessageInfo.isBlock (st.messageRegister eₛ sender messageInfoIndex) = true ∧
    MessageInfo.isBlock infoᵣ = true
  untransferred : MessageInfo.transferCount (st.messageRegister eₛ sender messageInfoIndex) = 0
  access : ∀ i < MessageInfo.messageLength (st.messageRegister eₛ sender messageInfoIndex),
    st.HasMessageRegister sender (payloadStart + i) ∧
      st.HasMessageRegister receiver (payloadStart + i)
  quiet : st.hasPendingNotification eₛ sender = false ∧
    st.hasPendingNotification eᵣ receiver = false
  ready : (st.proc.processes sender).status = .ready ∧ (st.proc.processes receiver).status = .ready
  owes : Owes sender receiver st

/-- The message has arrived and the port is free again. The sender is left in `state`, and it and the
receiver are linked or not. -/
structure Met (e : Entry) (state : SourceReplyState) (linked : Bool) (sender receiver : ProcessId)
    (slot : PortSlot) (st st' : SystemState) : Prop where
  words : ∀ word ∈ sentWords e sender slot.identifier (st.messageRegister e sender messageInfoIndex) st,
    st'.getMessageRegister e receiver word.1 = .ok word.2
  port : st'.ports slot.port = {}
  source : (st'.contexts sender).sourceReplyState = state ∧
    (st'.contexts sender).sourceReplyTarget = if linked then some receiver
      else if st.OwesReply receiver sender then none else (st.contexts sender).sourceReplyTarget
  destination : (st'.contexts receiver).destinationReplyState =
      (if linked then .readyToReply else .none) ∧
    (st'.contexts receiver).destinationReplyTarget = if linked then some sender else none
  status : (st'.proc.processes sender).status = (if linked then .blockedReply else .ready) ∧
    (st'.proc.processes receiver).status = .ready

theorem Met.sameIpc {state : SourceReplyState} {linked : Bool} {slot : PortSlot}
    (h : Met e state linked sender receiver slot st st') (h' : SameIpc st' st'') :
    Met e state linked sender receiver slot st st'' := by
  refine ⟨fun word hword => ?_, ?_, ?_, ?_, ?_⟩
  · rw [← h.words word hword]
    unfold getMessageRegister
    rw [h'.registers, h'.contexts, h'.buffers]
  · rw [h'.ports, h.port]
  · rw [h'.contexts]
    exact h.source
  · rw [h'.contexts]
    exact h.destination
  · rw [h'.status, h'.status]
    exact h.status

theorem sameIpc_of_calm {f : ProcState → Outcome KernelError ProcState Unit} {target : ProcessId}
    (hready : (st.proc.processes target).status = .ready)
    (hcalm : Calm (fun id status => id = target ∧ status = .ready) st.proc (f st.proc).state) :
    SameIpc st ((st.onProc f).transformError convertKernelToCapabilityError).state := by
  rw [transformError_state]
  apply SameIpc.withProc
  intro id
  rcases hcalm id with heq | ⟨rfl, hstatus⟩
  · exact heq
  · rw [hready, hstatus]

/-- The sender's mark once the receiver has dropped the reply it owed. -/
def markAfterDrop (st : SystemState) (receiver sender : ProcessId) (mark : SourceReplyState) :
    SourceReplyState :=
  if st.OwesReply receiver sender then .none else mark

/-- The mark with which a sender waits. -/
def markOf (st : SystemState) (call : Bool) (sender : ProcessId) : SourceReplyState :=
  if call then .wait else (st.contexts sender).sourceReplyState

section Orders

variable {eₛ eᵣ : Entry} {selfₛ selfᵣ : PortSlot} {infoᵣ : Word} {call : Bool}
  (h : Meeting eₛ eᵣ sender receiver selfₛ selfᵣ infoᵣ st)

include h

theorem sendOrCall_waitsAlone :
    WaitsAlone sender (sent call selfₛ (st.contexts sender)) selfₛ.port .readyToSend
      .blockedSend st (st.operationSendOrCall eₛ call sender selfₛ
        (st.messageRegister eₛ sender messageInfoIndex)).state := by
  have hstate : (st.ports selfₛ.port).state = .wait := by rw [h.empty]
  have hwaits := waitAt_waitsAlone eₛ sender (sent call selfₛ) .readyToSend .blockedSend h.empty
  unfold operationSendOrCall
  cases call with
  | false =>
    rw [if_neg (by simp)]
    unfold operationSend
    rw [if_neg h.write, hstate]
    dsimp only
    rw [if_neg (by simp [h.blocks.1])]
    exact hwaits
  | true =>
    rw [if_pos rfl]
    unfold operationCall
    rw [if_neg h.write, hstate]
    dsimp only
    rw [if_neg (by simp [h.blocks.1]), tryDeliverPendingBindedNotification_eq h.quiet.1,
      andThen_ok, if_neg (by simp), callBlocked]
    convert hwaits using 3
    simp [identify, modifyContext, sent]

section

variable
  (hwaits : WaitsAlone sender (sent call selfₛ (st.contexts sender)) selfₛ.port .readyToSend .blockedSend st st')
  (hdiscard : Discarded eₛ sender receiver st' st'')
include hwaits hdiscard

theorem popIpcQueue_sender : ∃ taken, st''.popIpcQueue selfₛ.port = .ok sender taken ∧
      taken.ports selfₛ.port = {} ∧
      (taken.contexts sender).faultReason = .none ∧
      (taken.contexts sender).sourceReplyState = st.markAfterDrop receiver sender (st.markOf call sender) ∧
      (taken.contexts sender).sourceReplyTarget =
        (if st.OwesReply receiver sender then none else (st.contexts sender).sourceReplyTarget) ∧
      (taken.contexts receiver).destinationReplyState = .none ∧
      taken.proc = st''.proc ∧ Carries eₛ sender selfₛ.identifier st taken := by
  have hports : st''.ports selfₛ.port = ⟨some sender, some sender, .readyToSend⟩ := by
    rw [hdiscard.ports, hwaits.ports]
  have hown := hdiscard.contexts sender
  rw [hwaits.own] at hown
  have howes : st'.OwesReply receiver sender ↔ st.OwesReply receiver sender := by
    rw [OwesReply, OwesReply, hwaits.others receiver h.apart]
  have hstate : (st'.contexts sender).sourceReplyState = st.markOf call sender := by
    rw [hwaits.own]
    rfl
  have htarget : (st'.contexts sender).sourceReplyTarget = (st.contexts sender).sourceReplyTarget := by
    rw [hwaits.own]
    rfl
  obtain ⟨hsource, hsource'⟩ := hdiscard.source
  simp only [howes, hstate, htarget] at hsource hsource'
  refine ⟨_, popIpcQueue_single (by rw [hports]) (congrArg IpcContext.nextIpcQueue hown), ?_, ?_,
    ?_, ?_, ?_, rfl, ?_, ?_, ?_, ?_⟩
  · simp [modifyPort]
  · rw [modifyContext_contexts, if_pos rfl]
    exact (congrArg IpcContext.faultReason hown).trans (h.owes.faultless sender (.inl rfl))
  · rw [modifyContext_contexts, if_pos rfl]
    exact hsource
  · rw [modifyContext_contexts, if_pos rfl]
    exact hsource'
  · rw [modifyContext_contexts, if_neg h.apart]
    exact hdiscard.free.1
  · intro index hlow hhigh
    exact (hdiscard.message sender index hlow hhigh).trans
      (congrFun (congrFun hwaits.registers sender) _)
  · exact hdiscard.buffers.trans hwaits.buffers
  · intro id
    have hbuffer : (st'.contexts id).buffer = (st.contexts id).buffer := by
      by_cases hid : id = sender
      · rw [hid, hwaits.own]
        rfl
      · rw [hwaits.others id hid]
    rw [← hbuffer, ← hdiscard.buffer id]
    by_cases hid : id = sender <;> simp [modifyContext, hid]
  · rw [modifyContext_contexts, if_pos rfl]
    exact congrArg IpcContext.identifierWhenBlocked hown

theorem tryReceiveFromReadySender_met :
    Met eₛ (st.markAfterDrop receiver sender (st.markOf call sender))
      (st.markAfterDrop receiver sender (st.markOf call sender) ≠ .none) sender receiver selfₛ st
      (st''.tryReceiveFromReadySender eᵣ selfₛ.port receiver).state := by
  obtain ⟨taken, hpop, hports, hfault, hmark, htarget, hfree, hproc, hcarries⟩ :=
    popIpcQueue_sender h hwaits hdiscard
  have hstatus : (taken.proc.processes receiver).status = .ready := by
    rw [hproc]
    apply hdiscard.ready receiver (.inr rfl)
    rw [hwaits.status receiver h.apart, h.ready.2]
  have hinfo : taken.messageRegister eᵣ sender messageInfoIndex =
      st.messageRegister eₛ sender messageInfoIndex := by
    rw [← hcarries.message messageInfoIndex le_rfl (by decide)]
    unfold messageRegister
    rw [h.platform]
  obtain ⟨given, hgiven, hrest, hwords⟩ := hcarries.transferMessage selfₛ.port h.platform
    h.access h.untransferred
  unfold tryReceiveFromReadySender
  rw [if_neg (by rw [hdiscard.ports, hwaits.ports]; simp), hpop, transformError_ok,
    andThen_ok, if_neg (by simp [hfree]), if_neg (by simp [hfault])]
  dsimp only
  rw [hinfo, hgiven, andThen_ok, hmark]
  have hgivenSender : given.contexts sender = taken.contexts sender := by rw [hrest]
  have hgivenPort : given.ports selfₛ.port = {} := by rw [hrest]; exact hports
  have hgivenStatus : (given.proc.processes receiver).status = .ready := by rw [hrest]; exact hstatus
  split
  case isTrue hlinked =>
    have hsame : SameWords given ((given.linkReply receiver sender).setStatus sender .blockedReply) :=
      (((SameWords.refl given).modifyContext (by intro; rfl)).modifyContext
        (by intro; rfl)).setStatus
    rw [decide_eq_true hlinked]
    refine ⟨fun word hword => ?_, hgivenPort, ?_, ?_, ?_⟩
    · rw [ok_state, hsame.getMessageRegister, hwords word hword]
    · simp [linkReply, modifyContext, h.apart.symm, hgivenSender, hmark]
    · simp [linkReply, modifyContext, h.apart]
    · simp [linkReply, setStatus, SystemState.modifyProcess, modifyProcess_processes, h.apart,
        hgivenStatus]
  case isFalse hnot =>
    rw [decide_eq_false hnot]
    generalize hlast : (given.modifyContext receiver fun context =>
      { context with destinationReplyState := .none
                     destinationReplyTarget := none }).setStatus sender .ready = last
    have hsame : SameWords given last := by
      rw [← hlast]
      exact ((SameWords.refl given).modifyContext (by intro; rfl)).setStatus
    have hready : (last.proc.processes sender).status = .ready := by
      simp [← hlast, setStatus, SystemState.modifyProcess, modifyProcess_processes]
    have hmet : Met eₛ (st.markAfterDrop receiver sender (st.markOf call sender)) false sender
        receiver selfₛ st last := by
      refine ⟨fun word hword => ?_, ?_, ?_, ?_, hready, ?_⟩
      · rw [hsame.getMessageRegister, hwords word hword]
      · rw [← hlast]
        exact hgivenPort
      · simp [← hlast, modifyContext, h.apart.symm, hgivenSender, hmark, htarget]
      · simp [← hlast, modifyContext]
      · simp [← hlast, setStatus, SystemState.modifyProcess, modifyProcess_processes, h.apart,
          hgivenStatus]
    refine hmet.sameIpc (sameIpc_of_calm hready ?_)
    exact .of_touches ((Touches.refl _).markScheduled
      ⟨⟨rfl, rfl⟩, fun core heq => absurd heq (h.users core).1, trivial⟩ trivial receiver)

end

theorem Meeting.discarded {st' : SystemState} (howes : Owes sender receiver st') :
    (st'.discardReply eᵣ receiver).Post (fun _ st'' => Discarded eₛ sender receiver st' st'')
      fun _ _ => False := by
  refine (discardReply_spec howes).mono (fun _ st'' hdiscard => ?_) fun _ _ h => h
  refine ⟨⟨fun id index hlow hhigh => ?_, hdiscard.buffers, hdiscard.ports, hdiscard.notifications,
    hdiscard.contexts, hdiscard.ready⟩, hdiscard.free, hdiscard.source⟩
  have hmessage := hdiscard.message id index hlow hhigh
  unfold messageRegister at hmessage ⊢
  rwa [h.platform] at hmessage

variable (call) in
theorem receive_met
    (hwaits : WaitsAlone sender (sent call selfₛ (st.contexts sender)) selfₛ.port
      .readyToSend .blockedSend st st') :
    Met eₛ (st.markAfterDrop receiver sender (st.markOf call sender))
      (st.markAfterDrop receiver sender (st.markOf call sender) ≠ .none) sender receiver selfₛ st
      (st'.operationReceive eᵣ receiver selfᵣ infoᵣ).state := by
  have hreceiver := hwaits.others receiver h.apart
  have howes : Owes sender receiver st' := by
    refine ⟨?_, fun client hclient => ?_, ?_⟩
    · rw [hreceiver]
      exact h.owes.none
    · rw [hwaits.priority]
      rw [OwesReply, hreceiver] at hclient
      exact h.owes.wakeable client hclient
    · rintro id (rfl | rfl)
      · rw [hwaits.own]
        exact h.owes.faultless id (.inl rfl)
      · rw [hreceiver]
        exact h.owes.faultless id (.inr rfl)
  have hdiscard := h.discarded howes
  unfold operationReceive
  rw [if_neg h.read]
  generalize st'.discardReply eᵣ receiver = o at hdiscard ⊢
  obtain ⟨_ | _, st1⟩ := o
  · exact hdiscard.elim
  · have hstate : (st1.ports selfᵣ.port).state = .readyToSend := by
      rw [h.ports, Leaves.ports hdiscard.toLeaves, hwaits.ports]
    dsimp only [andThen]
    rw [hstate, h.ports]
    exact tryReceiveFromReadySender_met h hwaits hdiscard

theorem receive_waitsAlone : ∃ st', Discarded eₛ sender receiver st st' ∧
      WaitsAlone receiver (st'.contexts receiver) selfₛ.port .readyToReceive .blockedReceive st'
        (st.operationReceive eᵣ receiver selfᵣ infoᵣ).state := by
  have hdiscard := h.discarded h.owes
  unfold operationReceive
  rw [if_neg h.read]
  generalize st.discardReply eᵣ receiver = o at hdiscard ⊢
  obtain ⟨_ | _, st'⟩ := o
  · exact hdiscard.elim
  · replace hdiscard : Discarded eₛ sender receiver st st' := hdiscard
    have hempty : st'.ports selfₛ.port = {} := by rw [hdiscard.ports, h.empty]
    have hquiet : st'.hasPendingNotification eᵣ receiver = false := by
      have hpending := h.quiet.2
      unfold hasPendingNotification at hpending ⊢
      rw [hdiscard.notifications]
      exact hpending
    refine ⟨st', hdiscard, ?_⟩
    dsimp only [andThen]
    rw [h.ports, hempty]
    dsimp only
    unfold receiveWithoutSender
    rw [tryDeliverPendingBindedNotification_eq hquiet, andThen_ok, if_neg (by simp),
      if_neg (by simp [h.blocks.2])]
    have hwaits := waitAt_waitsAlone eᵣ receiver id .readyToReceive .blockedReceive hempty
    rw [modifyContext_id] at hwaits
    exact hwaits

theorem popIpcQueue_receiver (hdiscard : Discarded eₛ sender receiver st st')
    (hwaits : WaitsAlone receiver (st'.contexts receiver) selfₛ.port .readyToReceive .blockedReceive
      st' st'') :
    ∃ taken, st''.popIpcQueue selfₛ.port = .ok receiver taken ∧
      taken.ports selfₛ.port = {} ∧ taken.contexts sender = st'.contexts sender ∧
      (taken.contexts receiver).destinationReplyState = .none ∧
      (taken.contexts receiver).destinationReplyTarget = none ∧
      taken.proc = st''.proc ∧
      Carries eₛ sender (st.contexts sender).identifierWhenBlocked st taken := by
  have hsender : st''.contexts sender = st'.contexts sender := hwaits.others sender h.apart.symm
  refine ⟨_, popIpcQueue_single (by rw [hwaits.ports]) (by rw [hwaits.own]), ?_, ?_, ?_, ?_, rfl, ?_,
    ?_, ?_, ?_⟩
  · simp [modifyPort]
  · simp [modifyContext, h.apart.symm, hsender]
  · simp [modifyContext, hwaits.own, hdiscard.free.1]
  · simp [modifyContext, hwaits.own, hdiscard.free.2]
  · intro index hlow hhigh
    rw [← hdiscard.message sender index hlow hhigh]
    exact congrFun (congrFun hwaits.registers sender) _
  · exact hwaits.buffers.trans hdiscard.buffers
  · intro id
    have hbuffer : (st''.contexts id).buffer = (st'.contexts id).buffer := by
      by_cases hid : id = receiver
      · rw [hid, hwaits.own]
      · rw [hwaits.others id hid]
    rw [← hdiscard.buffer id, ← hbuffer]
    by_cases hid : id = receiver <;> simp [modifyContext, hid]
  · rw [modifyContext_contexts, if_neg h.apart.symm]
    exact (congrArg IpcContext.identifierWhenBlocked hsender).trans
      (hdiscard.identifierWhenBlocked sender)

variable (call) in
theorem sendOrCall_met (hdiscard : Discarded eₛ sender receiver st st')
    (hwaits : WaitsAlone receiver (st'.contexts receiver) selfₛ.port .readyToReceive .blockedReceive
      st' st'') :
    Met eₛ (if call then .wait else st.markAfterDrop receiver sender (st.markOf call sender)) call
      sender receiver selfₛ st (st''.operationSendOrCall eₛ call sender selfₛ
        (st''.messageRegister eₛ sender messageInfoIndex)).state := by
  obtain ⟨taken, hpop, hports, hsender, hfree, hfree', hproc, hcarries⟩ :=
    popIpcQueue_receiver h hdiscard hwaits
  obtain ⟨hmark, htarget⟩ := hdiscard.source
  have hstatus : (taken.proc.processes sender).status = .ready := by
    rw [hproc, hwaits.status sender h.apart.symm]
    exact hdiscard.ready sender (.inl rfl) h.ready.1
  have hinfo : st''.messageRegister eₛ sender messageInfoIndex =
      st.messageRegister eₛ sender messageInfoIndex := by
    rw [← hdiscard.message sender messageInfoIndex le_rfl (by decide)]
    exact congrFun (congrFun hwaits.registers sender) _
  unfold operationSendOrCall
  rw [hinfo]
  cases call with
  | false =>
    have hidentified : Carries eₛ sender selfₛ.identifier st
        ((taken.setStatus receiver .ready).identify sender selfₛ) :=
      hcarries.sameWords ((SameWords.refl taken).setStatus.modifyContext (by intro; rfl))
        (by simp [identify, modifyContext])
    obtain ⟨given, hgiven, hrest, hwords⟩ := hidentified.transferMessage selfₛ.port rfl
      h.access h.untransferred
    have hready : (given.proc.processes receiver).status = .ready := by
      rw [hrest]
      simp [identify, setStatus, SystemState.modifyProcess, modifyProcess_processes]
    have hmet : Met eₛ (st.markAfterDrop receiver sender (st.markOf false sender)) false sender
        receiver selfₛ st given := by
      refine ⟨hwords, ?_, ?_, ?_, ?_, hready⟩ <;> rw [hrest]
      · exact hports
      · simp [identify, modifyContext, hsender, hmark, htarget, markAfterDrop, markOf]
      · simp [identify, modifyContext, h.apart, hfree, hfree']
      · simp [identify, setStatus, SystemState.modifyProcess, modifyProcess_processes,
          h.apart.symm, hstatus]
    rw [if_neg (by simp), if_neg (by simp)]
    unfold operationSend
    rw [if_neg h.write, hwaits.ports]
    dsimp only
    rw [hpop, transformError_ok, andThen_ok, sendTo, hgiven, andThen_ok]
    refine hmet.sameIpc (sameIpc_of_calm hready ?_)
    exact .of_touches ((Touches.refl _).markScheduled
      ⟨⟨rfl, rfl⟩, fun core heq => absurd heq (h.users core).2, trivial⟩ trivial sender)
  | true =>
    have hcalled : Carries eₛ sender selfₛ.identifier st
        ((((taken.identify sender selfₛ).linkReply receiver sender).setStatus sender
          .blockedReply).modifyContext sender fun context =>
            { context with sourceReplyState := .wait }) := by
      refine hcarries.sameWords ?_ ?_
      · exact ((((SameWords.refl taken).modifyContext (by intro; rfl)).modifyContext
          (by intro; rfl)).modifyContext (by intro; rfl)).setStatus.modifyContext (by intro; rfl)
      · simp [identify, linkReply, modifyContext, h.apart.symm]
    obtain ⟨given, hgiven, hrest, hwords⟩ := hcalled.transferMessage selfₛ.port rfl
      h.access h.untransferred
    have hready : ((given.setStatus receiver .ready).proc.processes receiver).status = .ready := by
      simp [setStatus, SystemState.modifyProcess, modifyProcess_processes]
    have hmet : Met eₛ .wait true sender receiver selfₛ st (given.setStatus receiver .ready) := by
      refine ⟨hwords, ?_, ?_, ?_, ?_, hready⟩ <;> rw [hrest]
      · exact hports
      · simp [identify, linkReply, modifyContext, h.apart.symm]
      · simp [identify, linkReply, modifyContext, h.apart]
      · simp [identify, linkReply, setStatus, SystemState.modifyProcess, modifyProcess_processes,
          h.apart.symm]
    rw [if_pos rfl, if_pos rfl]
    unfold operationCall
    rw [if_neg h.write, hwaits.ports]
    dsimp only
    rw [hpop, transformError_ok, andThen_ok]
    unfold callTo
    dsimp only
    rw [if_neg (by simp [identify, modifyContext, h.apart, hfree]), hgiven, andThen_ok]
    refine hmet.sameIpc (sameIpc_of_calm hready ?_)
    exact .of_touches ((Touches.refl _).tryDirectScheduleAndSwitch
      ⟨⟨rfl, rfl⟩, fun core heq => absurd heq (h.users core).2, trivial⟩ (fun _ => trivial) trivial
      sender)

end Orders

/-! ## The two orders -/

section Meet

variable (eₛ eᵣ : Entry) (call : Bool) (sender receiver : ProcessId) (selfₛ selfᵣ : PortSlot)
  (infoᵣ : Word) (st : SystemState)

def senderFirst : SystemState :=
  let st := (st.operationSendOrCall eₛ call sender selfₛ
    (st.messageRegister eₛ sender messageInfoIndex)).state
  (st.operationReceive eᵣ receiver selfᵣ infoᵣ).state

def receiverFirst : SystemState :=
  let st := (st.operationReceive eᵣ receiver selfᵣ infoᵣ).state
  (st.operationSendOrCall eₛ call sender selfₛ
    (st.messageRegister eₛ sender messageInfoIndex)).state

end Meet

/-- What the two processes can tell of a meeting at the port over a message of `n` words. -/
structure SameMeeting (e : Entry) (sender receiver : ProcessId) (port : Word) (n : Nat)
    (st st' : SystemState) : Prop where
  message : ∀ index, messageInfoIndex ≤ index → index < payloadStart + n →
    st'.getMessageRegister e receiver index = st.getMessageRegister e receiver index
  source : (st'.contexts sender).sourceReplyState = (st.contexts sender).sourceReplyState ∧
    (st'.contexts sender).sourceReplyTarget = (st.contexts sender).sourceReplyTarget
  destination :
    (st'.contexts receiver).destinationReplyState = (st.contexts receiver).destinationReplyState ∧
      (st'.contexts receiver).destinationReplyTarget =
        (st.contexts receiver).destinationReplyTarget
  status : (st'.proc.processes sender).status = (st.proc.processes sender).status ∧
    (st'.proc.processes receiver).status = (st.proc.processes receiver).status
  free : st.ports port = {} ∧ st'.ports port = {}

theorem exists_mem_sentWords (e : Entry) (st : SystemState) (sender : ProcessId) (identifier : Word)
    {info : Word} {index : Nat}
    (hlow : messageInfoIndex ≤ index)
    (hhigh : index < payloadStart + messageLength info) :
    ∃ word ∈ sentWords e sender identifier info st, word.1 = index := by
  rcases Nat.lt_or_ge index payloadStart with hheader | hpayload
  · unfold messageInfoIndex at hlow
    unfold payloadStart at hheader
    obtain rfl | rfl : index = 2 ∨ index = 3 := by omega
    · exact ⟨_, List.mem_cons_self, rfl⟩
    · exact ⟨_, List.mem_cons_of_mem _ List.mem_cons_self, rfl⟩
  · obtain ⟨i, rfl⟩ := Nat.exists_eq_add_of_le hpayload
    exact ⟨_, List.mem_cons_of_mem _ (List.mem_cons_of_mem _ (mem_payloadWords (by omega))), rfl⟩

theorem Met.sameMeeting {state : SourceReplyState} {linked : Bool} {slot : PortSlot}
    (h : Met e state linked sender receiver slot st st')
    (h' : Met e state linked sender receiver slot st st'') :
    SameMeeting e sender receiver slot.port
      (messageLength (st.messageRegister e sender messageInfoIndex)) st' st'' where
  message index hlow hhigh := by
    obtain ⟨word, hword, rfl⟩ := exists_mem_sentWords e st sender slot.identifier hlow hhigh
    rw [h.words word hword, h'.words word hword]
  source := ⟨h'.source.1.trans h.source.1.symm, h'.source.2.trans h.source.2.symm⟩
  destination :=
    ⟨h'.destination.1.trans h.destination.1.symm, h'.destination.2.trans h.destination.2.symm⟩
  status := ⟨h'.status.1.trans h.status.1.symm, h'.status.2.trans h.status.2.symm⟩
  free := ⟨h.port, h'.port⟩

end SystemState

/-! ## A sender that is marked as a caller

The init process calls the third with seven words, for which that process has no registers. The call
fails, the init process yields, and it runs on with the mark of a caller. It then sends to the server
on the other core. -/

section Example

open SystemState

def TrioMayReach (st : SystemState) : Prop :=
  Relation.ReflTransGen (Step trio fun e _ _ => ∀ id, e.root id ≠ 0) trio.boot st

section

variable {st : SystemState}

theorem TrioReaches.mayReach (h : TrioReaches st) : TrioMayReach st :=
  run_mono (fun _ _ _ h => h.2) h

theorem TrioMayReach.say (h : TrioMayReach st) (address : Word)
    (words : List Word) : TrioMayReach (st.say address words) := h.tail (.user (alike_say _ _ _))

theorem TrioMayReach.handle (h : TrioMayReach st) {core : Nat} {sendIpi : Bool}
    {entry : KernelEntry} (current : ProcessId) (hcore : core < 2)
    (hcurrent : (st.proc.cpus core).currentProcess = some current)
    (hlegal : entry.Legal trio.existing (some current)) :
    TrioMayReach (st.handle (onCore core sendIpi) entry) :=
  h.tail (.entry _ _ (possible_trio current hcore hcurrent hlegal) (by simp [onCore]))

theorem meeting_trio {info : Word}
    (hinfo : st.messageRegister (onCore 0 true) (.user 0x1000) messageInfoIndex = info)
    (hmessage : MessageInfo.isBlock info = true ∧ MessageInfo.transferCount info = 0 ∧
      MessageInfo.messageLength info ≤ 6) (hempty : st.ports 0x9000 = {})
    (hready : (st.proc.processes (.user 0x1000)).status = .ready ∧
      (st.proc.processes (.user 0x2000)).status = .ready)
    (hfault : (st.contexts (.user 0x1000)).faultReason = .none ∧
      (st.contexts (.user 0x2000)).faultReason = .none)
    (htarget : (st.contexts (.user 0x2000)).destinationReplyTarget = none) :
    Meeting (onCore 0 true) (onCore 1 true) (.user 0x1000) (.user 0x2000) { port := 0x9000 }
      { port := 0x9000 } 1 st where
  platform := rfl
  apart := by decide
  users := by simp
  ports := rfl
  write := by decide
  read := by decide
  empty := hempty
  blocks := by
    rw [hinfo]
    exact ⟨hmessage.1, by decide⟩
  untransferred := by
    rw [hinfo]
    exact hmessage.2.1
  access i hi := by
    rw [hinfo] at hi
    have hlow : payloadStart + i < messageRegisterCount := by
      unfold payloadStart messageRegisterCount
      omega
    exact ⟨.inl hlow, .inl hlow⟩
  quiet := ⟨rfl, rfl⟩
  ready := hready
  owes := by
    refine ⟨fun _ => htarget, fun client hclient => ?_, ?_⟩
    · rw [OwesReply, htarget] at hclient
      cases hclient
    · rintro id (rfl | rfl)
      · exact hfault.1
      · exact hfault.2

end

/-- The init process is about to send two words. -/
def trioMeets : SystemState :=
  (thirdRaised.say 0x1000 [0, 1, 5, 0, 0xaa, 0xbb]).say 0x2000 [0, 2, 1]

def longCalled : SystemState :=
  (thirdRaised.say 0x1000 [0, 3, 15]).handle (onCore 0 true) (invokeAt 0xb000)
def callerYields : SystemState := longCalled.handle (onCore 0 true) .yield
def callerMeets : SystemState := (callerYields.say 0x1000 [0, 1, 1]).say 0x2000 [0, 2, 1]

theorem callerMeets_reached : TrioMayReach callerMeets := by
  have hcalled : TrioMayReach longCalled :=
    (thirdRaised_reached.mayReach.say 0x1000 [0, 3, 15]).handle (.user 0x1000) (by decide)
      (by decide +kernel) legal_invokeAt
  have hyields : TrioMayReach callerYields :=
    hcalled.handle (.user 0x1000) (by decide) (by decide +kernel) trivial
  exact (hyields.say 0x1000 [0, 1, 1]).say 0x2000 [0, 2, 1]

end Example

end A9N.Kernel
