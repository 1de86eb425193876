import A9N.Kernel.Ipc.Coherence

/-!
# Steps that move no process

Messages are copied between registers and buffers, notification words are set and consumed,
identifiers and fault codes are recorded. None of this says where a process is: such states are
alike, and alike states place every process alike.
-/

namespace A9N.Kernel

def IpcContext.essential (context : IpcContext) : IpcContext :=
  { context with faultCode := 0, archFaultCode := 0, faultAddress := 0, buffer := none,
                 identifierWhenBlocked := 0 }

def NotificationPort.essential (port : NotificationPort) : NotificationPort :=
  { port with hasFlag := false, flag := 0, bindedProcess := none }

namespace SystemState

structure Alike (st st' : SystemState) : Prop where
  proc : st'.proc = st.proc
  ports : st'.ports = st.ports
  context : ∀ id, (st'.contexts id).essential = (st.contexts id).essential
  notification : ∀ port, (st'.notifications port).essential = (st.notifications port).essential
  failedTransfers : st'.failedTransfers = st.failedTransfers

namespace Alike

variable {st st' st'' : SystemState}

theorem refl (st : SystemState) : Alike st st := ⟨rfl, rfl, fun _ => rfl, fun _ => rfl, rfl⟩

theorem trans (h : Alike st st') (h' : Alike st' st'') : Alike st st'' where
  proc := h'.proc.trans h.proc
  ports := h'.ports.trans h.ports
  context id := (h'.context id).trans (h.context id)
  notification port := (h'.notification port).trans (h.notification port)
  failedTransfers := h'.failedTransfers.trans h.failedTransfers

theorem modifyContext (h : Alike st st') (id : ProcessId) (f : IpcContext → IpcContext)
    (hf : ∀ context, (f context).essential = context.essential) :
    Alike st (st'.modifyContext id f) := by
  refine ⟨h.proc, h.ports, fun other => ?_, h.notification, h.failedTransfers⟩
  rw [modifyContext_contexts]
  by_cases hother : other = id
  · rw [if_pos hother, hf, hother, h.context]
  · rw [if_neg hother, h.context]

theorem modifyNotification (h : Alike st st') (port : Word)
    (f : NotificationPort → NotificationPort)
    (hf : ∀ port, (f port).essential = port.essential) :
    Alike st (st'.modifyNotification port f) := by
  refine ⟨h.proc, h.ports, h.context, fun other => ?_, h.failedTransfers⟩
  rw [modifyNotification_notifications]
  by_cases hother : other = port
  · rw [if_pos hother, hf, hother, h.notification]
  · rw [if_neg hother, h.notification]

theorem setRegister (h : Alike st st') (id : ProcessId) (index : Nat) (value : Word) :
    Alike st (st'.setRegister id index value) :=
  ⟨h.proc, h.ports, h.context, h.notification, h.failedTransfers⟩

variable {e : Entry}

theorem configureMessageRegister (h : Alike st st') (id : ProcessId) (index : Nat) (value : Word) :
    Alike st (st'.configureMessageRegister e id index value).state := by
  unfold SystemState.configureMessageRegister
  split
  · exact h.setRegister _ _ _
  · split
    · exact h
    · exact ⟨h.proc, h.ports, h.context, h.notification, h.failedTransfers⟩

theorem andThen {ε α β : Type} {o : Outcome ε SystemState α} (h : Alike st o.state)
    {next : α → SystemState → Outcome ε SystemState β}
    (hnext : ∀ value state, Alike st state → Alike st (next value state).state) :
    Alike st (o.andThen next).state := by
  obtain ⟨_ | _, state⟩ := o
  · exact h
  · exact hnext _ _ h

theorem transformError {ε ε' α : Type} {o : Outcome ε SystemState α} (h : Alike st o.state)
    (f : ε → ε') : Alike st (o.transformError f).state := by
  rw [Outcome.transformError_state]
  exact h

theorem writeMessageRegisters (id : ProcessId) (message : List (Nat × Word))
    (h : Alike st st') : Alike st (st'.writeMessageRegisters e id message).state := by
  induction message generalizing st' with
  | nil => exact h
  | cons pair message ih =>
    apply Alike.andThen
    · exact (h.configureMessageRegister id _ _).transformError _
    · exact fun _ state hstate => ih hstate

theorem writeHeader (h : Alike st st') (receiver sender : ProcessId) (info : Word) :
    Alike st (st'.writeHeader e receiver sender info) :=
  (h.configureMessageRegister _ _ _).configureMessageRegister _ _ _

theorem copyMessages (destination source : ProcessId) (count index : Nat) (h : Alike st st') :
    Alike st (st'.copyMessages e destination source count index).state := by
  induction count generalizing index st' with
  | zero => exact h
  | succ count ih =>
    unfold SystemState.copyMessages
    split
    · exact h
    · apply Alike.andThen
      · exact (h.configureMessageRegister destination _ _).transformError _
      · exact fun _ state hstate => ih (index + 1) hstate

theorem moveCapabilities (h : Alike st st') (destination source : ProcessId) (count : Nat) :
    Alike st (st'.moveCapabilities e destination source count).state := by
  unfold SystemState.moveCapabilities
  split_ifs <;> exact h

theorem restoreRegisters (owner client : ProcessId) (count index : Nat) (h : Alike st st') :
    Alike st (st'.restoreRegisters e owner client count index).state := by
  induction count generalizing index st' with
  | zero => exact h
  | succ count ih =>
    unfold SystemState.restoreRegisters
    split
    · exact h
    · exact ih (index + 1) (h.setRegister _ _ _)

theorem applyInvalidKernelCallReplyContext (h : Alike st st') (owner client : ProcessId)
    (info : Word) : Alike st (st'.applyInvalidKernelCallReplyContext e owner client info).state := by
  unfold SystemState.applyInvalidKernelCallReplyContext
  split_ifs
  · exact h
  · exact h
  · exact h.restoreRegisters owner client _ _

section

variable (owner target : ProcessId) (count index : Nat) (h : Alike st st')
include h

theorem readRegisters : Alike st (st'.readRegisters e owner target count index).state := by
  induction count generalizing index st' with
  | zero => exact h
  | succ count ih =>
    unfold SystemState.readRegisters
    apply Alike.andThen
    · exact (h.configureMessageRegister owner _ _).transformError _
    · exact fun _ state hstate => ih (index + 1) hstate

theorem writeRegisters : Alike st (st'.writeRegisters e owner target count index).state := by
  induction count generalizing index st' with
  | zero => exact h
  | succ count ih =>
    unfold SystemState.writeRegisters
    split
    · exact h
    · exact ih (index + 1) (h.setRegister _ _ _)

end

theorem identify (h : Alike st st') (owner : ProcessId) (self : PortSlot) :
    Alike st (st'.identify owner self) :=
  h.modifyContext _ _ fun _ => rfl

theorem deliverFlag (h : Alike st st') (port : Word) (target : ProcessId) :
    Alike st (st'.deliverFlag e port target).state := by
  have hconsume := h.modifyNotification port NotificationPort.consume fun _ => rfl
  exact hconsume.writeMessageRegisters target _

theorem tryDeliverPendingBindedNotification (h : Alike st st') (owner : ProcessId) :
    Alike st (st'.tryDeliverPendingBindedNotification e owner).state := by
  unfold SystemState.tryDeliverPendingBindedNotification
  cases e.boundNotification owner with
  | none => exact h
  | some port =>
    have hconsume := h.modifyNotification port NotificationPort.consume fun _ => rfl
    dsimp only
    split
    · apply Alike.andThen
      · exact hconsume.writeMessageRegisters owner _
      · exact fun _ state hstate => hstate
    · exact h

end Alike

/-! ## Transfers -/

variable {e : Entry} {st st' : SystemState}

theorem counted_post {o : Outcome CapabilityError SystemState Unit}
    (hok : ∀ value, o.result = .ok value → Alike st o.state)
    (hfailed : o.state.failedTransfers = st.failedTransfers) :
    (counted o).Post (fun _ st' => Alike st st')
      (fun _ st' => st'.failedTransfers = st.failedTransfers + 1) := by
  obtain ⟨_ | _, state⟩ := o
  · exact congrArg (· + 1) hfailed
  · exact hok _ rfl

theorem transferMessage_post (port : Word) (receiver sender : ProcessId) (info : Word)
    (st : SystemState) :
    (st.transferMessage e port receiver sender info).Post (fun _ st' => Alike st st')
      (fun _ st' => st'.failedTransfers = st.failedTransfers + 1) := by
  have hheader := (Alike.refl st).writeHeader (e := e) receiver sender info
  unfold transferMessage
  dsimp only
  split
  · exact hheader
  · have hcopy := hheader.copyMessages (e := e) receiver sender (MessageInfo.messageLength info) 0
    generalize (st.writeHeader e receiver sender info).copyMessages e receiver sender _ 0 = o at hcopy ⊢
    obtain ⟨_ | _, state⟩ := o
    · exact counted_post (by rintro _ ⟨⟩) hcopy.failedTransfers
    · have hmove := hcopy.moveCapabilities (e := e) receiver sender (MessageInfo.transferCount info)
      exact counted_post (fun _ _ => hmove) hmove.failedTransfers

theorem transferDirectMessage_post (receiver sender : ProcessId) (info : Word) (st : SystemState) :
    (st.transferDirectMessage e receiver sender info).Post (fun _ st' => Alike st st')
      (fun _ st' => st'.failedTransfers = st.failedTransfers + 1) := by
  have hheader := (Alike.refl st).writeHeader (e := e) receiver sender info
  unfold transferDirectMessage
  dsimp only
  split
  · exact hheader
  · have hcopy := hheader.copyMessages (e := e) receiver sender (MessageInfo.messageLength info) 0
    generalize (st.writeHeader e receiver sender info).copyMessages e receiver sender _ 0 = o at hcopy ⊢
    obtain ⟨_ | _, state⟩ := o
    · exact counted_post (by rintro _ ⟨⟩) hcopy.failedTransfers
    · have hmove := hcopy.moveCapabilities (e := e) receiver sender (MessageInfo.transferCount info)
      exact counted_post (fun _ _ => hmove) hmove.failedTransfers

theorem transferFaultMessage_post {port : Word} (receiver sender : ProcessId)
    (hport : (st.ports port).queueHead = none → (st.ports port).state = .wait) :
    (st.transferFaultMessage e port receiver sender).Post (fun _ st' => Alike st st')
      (fun _ st' => st'.failedTransfers = st.failedTransfers + 1) := by
  have hports : (st.modifyPort port fun port =>
      if port.queueHead = none then { port with state := .wait } else port) = st := by
    have : (fun port' => (st.modifyPort port fun port =>
        if port.queueHead = none then { port with state := .wait } else port).ports port') =
        st.ports := by
      funext port'
      rw [modifyPort_ports]
      by_cases hp : port' = port
      · subst hp
        rw [if_pos rfl]
        split
        next hhead => rw [← hport hhead]
        · rfl
      · rw [if_neg hp]
    exact congrArg (fun ports => { st with ports := ports }) this
  unfold transferFaultMessage
  split
  · exact counted_post (by rintro _ ⟨⟩) rfl
  · dsimp only
    rw [hports]
    split
    · exact counted_post (by rintro _ ⟨⟩) rfl
    next message _ =>
        have hwrite := (Alike.refl st).writeMessageRegisters (e := e) receiver message
        exact counted_post (fun _ _ => hwrite) hwrite.failedTransfers

end SystemState

end A9N.Kernel
