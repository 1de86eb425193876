import A9N.Kernel.Ipc.Routing

/-!
# IPC ports

`ipc_port.cpp`. A port keeps one queue for the senders or the receivers that wait at it.
-/

namespace A9N.Kernel.SystemState

open ProcState

variable (e : Entry)

/-! ## The wait queue -/

def pushIpcQueue (port : Word) (target : ProcessId) (st : SystemState) : SystemState :=
  let st := st.modifyContext target fun context => { context with currentIpcPort := some port }
  match (st.ports port).queueHead, (st.ports port).queueTail with
  | some _, some tail =>
    let st := st.modifyContext target fun context =>
      { context with nextIpcQueue := none, previewIpcQueue := some tail }
    let st := st.modifyContext tail fun context => { context with nextIpcQueue := some target }
    st.modifyPort port fun port => { port with queueTail := some target }
  | _, _ =>
    let st := st.modifyPort port fun port =>
      { port with queueHead := some target, queueTail := some target }
    st.modifyContext target fun context =>
      { context with previewIpcQueue := none, nextIpcQueue := none }

def popIpcQueue (port : Word) (st : SystemState) : Outcome KernelError SystemState ProcessId :=
  match (st.ports port).queueHead with
  | none => .error .noSuchAddress st
  | some target =>
    let st := match (st.contexts target).nextIpcQueue with
      | none => st.modifyPort port fun port =>
        { port with queueHead := none, queueTail := none, state := .wait }
      | some head =>
        let st := st.modifyPort port fun port => { port with queueHead := some head }
        let st := st.modifyContext head fun context => { context with previewIpcQueue := none }
        st.modifyContext target fun context => { context with nextIpcQueue := none }
    .ok target (st.modifyContext target fun context => { context with currentIpcPort := none })

def removeIpcQueue (port : Word) (target : ProcessId) (st : SystemState) :
    Outcome KernelError SystemState Unit :=
  if (st.contexts target).currentIpcPort ≠ some port then .error .illegalArgument st
  else
    let previous := (st.contexts target).previewIpcQueue
    let next := (st.contexts target).nextIpcQueue
    let st := match previous with
      | some id => st.modifyContext id fun context => { context with nextIpcQueue := next }
      | none => st.modifyPort port fun port => { port with queueHead := next }
    let st := match next with
      | some id => st.modifyContext id fun context => { context with previewIpcQueue := previous }
      | none => st.modifyPort port fun port => { port with queueTail := previous }
    let st := st.modifyContext target fun context =>
      { context with nextIpcQueue := none, previewIpcQueue := none, currentIpcPort := none }
    .ok () (st.modifyPort port fun port =>
      if port.queueHead = none then { port with queueTail := none, state := .wait } else port)

def waitAt (port : Word) (owner : ProcessId) (st : SystemState) :
    Outcome CapabilityError SystemState Unit :=
  ((st.pushIpcQueue port owner).onProc fun proc =>
    proc.tryScheduleAndSwitchFor e.platform e.root owner).transformError
      convertKernelToCapabilityError

/-! ## Messages -/

def counted (o : Outcome CapabilityError SystemState Unit) :
    Outcome CapabilityError SystemState Unit :=
  match o.result with
  | .ok _ => o
  | .error error => .error error { o.state with failedTransfers := o.state.failedTransfers + 1 }

/-- Both message loops of `copy_messages`: `count` words from `index` on. -/
def copyMessages (destination source : ProcessId) :
    Nat → Nat → SystemState → Outcome KernelError SystemState Unit
  | 0, _, st => .ok () st
  | count + 1, index, st =>
    match st.getMessageRegister e source (payloadStart + index) with
    | .error error => .error (convertHalToKernelError error) st
    | .ok value =>
      ((st.configureMessageRegister e destination (payloadStart + index) value).transformError
        convertHalToKernelError).andThen
          fun _ st => copyMessages destination source count (index + 1) st

def moveCapabilities (destination source : ProcessId) (transferCount : Nat) (st : SystemState) :
    Outcome CapabilityError SystemState Unit :=
  if transferCount = 0 then .ok () st
  else if ((st.contexts destination).buffer = none ∨ ¬ e.bufferFrame destination) ∨
      (st.contexts source).buffer = none ∨ ¬ e.bufferFrame source then
    .error .illegalOperation st
  else ⟨e.moves destination source transferCount, st⟩

def writeHeader (receiver sender : ProcessId) (info : Word) (st : SystemState) : SystemState :=
  let st := (st.configureMessageRegister e receiver messageInfoIndex info).state
  (st.configureMessageRegister e receiver identifierIndex
    (st.contexts sender).identifierWhenBlocked).state

def transferMessage (port : Word) (receiver sender : ProcessId) (info : Word) (st : SystemState) :
    Outcome CapabilityError SystemState Unit :=
  let st := st.writeHeader e receiver sender info
  if MessageInfo.messageLength info = 0 ∧ MessageInfo.transferCount info = 0 then .ok () st
  else
    counted (((st.copyMessages e receiver sender (MessageInfo.messageLength info) 0).orElse
      fun _ st => .error CapabilityError.fatal
        (st.modifyPort port fun port => { port with state := .wait })).andThen
          fun _ st => st.moveCapabilities e receiver sender (MessageInfo.transferCount info))

def transferDirectMessage (receiver sender : ProcessId) (info : Word) (st : SystemState) :
    Outcome CapabilityError SystemState Unit :=
  let st := st.writeHeader e receiver sender info
  if MessageInfo.messageLength info = 0 ∧ MessageInfo.transferCount info = 0 then .ok () st
  else
    counted (((st.copyMessages e receiver sender (MessageInfo.messageLength info) 0).transformError
      fun _ => CapabilityError.fatal).andThen
        fun _ st => st.moveCapabilities e receiver sender (MessageInfo.transferCount info))

def faultHeader (sender : IpcContext) (length : Nat) : List (Nat × Word) :=
  [(0, 1), (1, 0), (messageInfoIndex, MessageInfo.make false length 0 1),
    (identifierIndex, sender.identifierWhenBlocked), (4, sender.faultReason.toWord)]

/-- The saved registers of the faulting process, from `HARDWARE_CONTEXT_START` on. -/
def faultContext (sender : ProcessId) (st : SystemState) : List (Nat × Word) :=
  (List.range (hardwareContextSize e.platform.architecture)).map fun i =>
    (7 + i, st.registers sender i)

/-- The registers `transfer_fault_message` writes for each kind of fault. -/
def faultMessage (sender : ProcessId) (st : SystemState) : Option (List (Nat × Word)) :=
  let context := st.contexts sender
  let counter := st.registers sender (instructionPointerIndex e.platform.architecture)
  match context.faultReason with
  | .memory | .memoryInstructionFetch =>
    some (faultHeader context 8 ++
      [(5, counter), (6, context.faultAddress), (7, context.archFaultCode)])
  | .invalidInstruction | .invalidArithmetic | .architecture =>
    some (faultHeader context 7 ++ [(5, counter), (6, context.archFaultCode)])
  | .invalidKernelCall =>
    some (faultHeader context (7 + hardwareContextSize e.platform.architecture) ++
      [(5, counter), (6, context.faultCode)] ++ st.faultContext e sender)
  | .fatal | .none => none

/-- `is_synchronized`: a port that is not waiting must have a queue. -/
def isSynchronized (port : Word) (st : SystemState) : Bool :=
  (st.ports port).state = .wait ∨
    ((st.ports port).queueHead.isSome ∧ (st.ports port).queueTail.isSome)

def transferFaultMessage (port : Word) (receiver sender : ProcessId) (st : SystemState) :
    Outcome CapabilityError SystemState Unit :=
  counted (if ¬ st.isSynchronized port then
    .error .fatal (st.modifyPort port fun port => { port with state := .wait })
  else
    let st := st.modifyPort port fun port =>
      if port.queueHead = none then { port with state := .wait } else port
    match st.faultMessage e sender with
    | none => .error .fatal st
    | some message => st.writeMessageRegisters e receiver message)

/-! ## Reply links -/

def linkReply (server client : ProcessId) (st : SystemState) : SystemState :=
  let st := st.modifyContext server fun context =>
    { context with destinationReplyState := .readyToReply, destinationReplyTarget := some client }
  st.modifyContext client fun context => { context with sourceReplyTarget := some server }

def unlinkReply (server client : ProcessId) (st : SystemState) : SystemState :=
  let st := st.modifyContext client fun context =>
    { context with sourceReplyState := .none, sourceReplyTarget := none }
  st.modifyContext server fun context =>
    { context with destinationReplyState := .none, destinationReplyTarget := none }

def completeRevokedWait (target : ProcessId) (st : SystemState) :
    Outcome CapabilityError SystemState Unit :=
  (st.writeMessageRegisters e target [(0, 0), (1, 0)]).andThen fun _ st =>
    if (st.contexts target).faultReason ≠ .none then .ok () (st.setStatus target .blockedSuspend)
    else
      match (st.proc.processes target).status with
      | .blockedSend | .blockedReceive | .blockedReply | .blockedWait =>
        (st.onProc fun proc => proc.markScheduled e.platform e.sendIpi target target).transformError
          convertKernelToCapabilityError
      | _ => .ok () st

def forgetClient (client : ProcessId) (st : SystemState) : SystemState :=
  match (st.contexts client).sourceReplyTarget with
  | some server =>
    if (st.contexts server).destinationReplyTarget = some client then
      st.modifyContext server fun context =>
        { context with destinationReplyTarget := none, destinationReplyState := .none }
    else st
  | none => st

/-- The part of `cancel_reply` before the client is resumed. -/
def dropReply (client : ProcessId) (st : SystemState) : SystemState :=
  (st.forgetClient client).modifyContext client fun context =>
    { context with sourceReplyTarget := none, sourceReplyState := .none }

/-- `cancel_reply`; `resume` is `RESUME_WITH_ERROR`. -/
def cancelReply (client : ProcessId) (resume : Bool) (st : SystemState) :
    Outcome CapabilityError SystemState Unit :=
  if resume then (st.dropReply client).completeRevokedWait e client
  else .ok () (st.dropReply client)

/-! ## Operations -/

def tryDeliverPendingBindedNotification (owner : ProcessId) (st : SystemState) :
    Outcome CapabilityError SystemState Bool :=
  match e.boundNotification owner with
  | none => .ok false st
  | some port =>
    if (st.notifications port).hasNotification then
      let identifier := (st.notifications port).flag
      let st := st.modifyNotification port NotificationPort.consume
      (st.writeMessageRegisters e owner
        [(messageInfoIndex, MessageInfo.make false 0 0 2), (identifierIndex, identifier)]).andThen
          fun _ st => .ok true st
    else .ok false st

def hasPendingNotification (owner : ProcessId) (st : SystemState) : Bool :=
  match e.boundNotification owner with
  | none => false
  | some port => (st.notifications port).hasNotification

def identify (owner : ProcessId) (self : PortSlot) (st : SystemState) : SystemState :=
  st.modifyContext owner fun context => { context with identifierWhenBlocked := self.identifier }

/-! `operation_send` and `operation_call` in two halves: the queue is waited at, or a receiver is
met. -/

def sendBlocked (owner : ProcessId) (self : PortSlot) (st : SystemState) :
    Outcome CapabilityError SystemState Unit :=
  (((st.modifyPort self.port fun port => { port with state := .readyToSend }).setStatus owner
    .blockedSend).identify owner self).waitAt e self.port owner

def sendTo (owner : ProcessId) (self : PortSlot) (info : Word) (target : ProcessId)
    (st : SystemState) : Outcome CapabilityError SystemState Unit :=
  (((st.setStatus target .ready).identify owner self).transferMessage e self.port target owner
    info).andThen fun _ st =>
      (st.onProc fun proc => proc.markScheduled e.platform e.sendIpi owner target).transformError
        convertKernelToCapabilityError

def operationSend (owner : ProcessId) (self : PortSlot) (info : Word) (st : SystemState) :
    Outcome CapabilityError SystemState Unit :=
  if self.rights &&& Slot.write = 0 then .error .permissionDenied st
  else
    match (st.ports self.port).state with
    | .wait | .readyToSend =>
      if ¬ MessageInfo.isBlock info then .ok () st else st.sendBlocked e owner self
    | .readyToReceive =>
      ((st.popIpcQueue self.port).transformError convertKernelToCapabilityError).andThen
        (sendTo e owner self info)

def tryReceiveFromReadySender (port : Word) (receiver : ProcessId) (st : SystemState) :
    Outcome CapabilityError SystemState Unit :=
  if (st.ports port).state ≠ .readyToSend then .error .fatal st
  else
    ((st.popIpcQueue port).transformError convertKernelToCapabilityError).andThen fun sender st =>
      if (st.contexts receiver).destinationReplyState ≠ .none then .error .fatal st
      else if (st.contexts sender).faultReason ≠ .none then
        (st.transferFaultMessage e port receiver sender).andThen fun _ st =>
          .ok () ((st.linkReply receiver sender).setStatus sender .blockedReply)
      else
        let isCall := (st.contexts sender).sourceReplyState ≠ .none
        (st.transferMessage e port receiver sender
          (st.messageRegister e sender messageInfoIndex)).andThen fun _ st =>
            if isCall then .ok () ((st.linkReply receiver sender).setStatus sender .blockedReply)
            else
              let st := st.modifyContext receiver fun context =>
                { context with destinationReplyState := .none, destinationReplyTarget := none }
              ((st.setStatus sender .ready).onProc fun proc =>
                proc.markScheduled e.platform e.sendIpi receiver sender).transformError
                  convertKernelToCapabilityError

def receiveWithoutSender (owner : ProcessId) (port : Word) (info : Word) (st : SystemState) :
    Outcome CapabilityError SystemState Unit :=
  (st.tryDeliverPendingBindedNotification e owner).andThen fun delivered st =>
    if delivered then .ok () st
    else if ¬ MessageInfo.isBlock info then .ok () st
    else
      let st := st.modifyPort port fun port => { port with state := .readyToReceive }
      (st.setStatus owner .blockedReceive).waitAt e port owner

def discardReply (owner : ProcessId) (st : SystemState) :
    Outcome CapabilityError SystemState Unit :=
  if (st.contexts owner).destinationReplyState = .none then .ok () st
  else
    (match (st.contexts owner).destinationReplyTarget with
      | some client => st.cancelReply e client true
      | none => .ok () st).andThen fun _ st =>
        .ok () (st.modifyContext owner fun context =>
          { context with destinationReplyState := .none, destinationReplyTarget := none })

def operationReceive (owner : ProcessId) (self : PortSlot) (info : Word) (st : SystemState) :
    Outcome CapabilityError SystemState Unit :=
  if self.rights &&& Slot.read = 0 then .error .permissionDenied st
  else
    (st.discardReply e owner).andThen fun _ st =>
      match (st.ports self.port).state with
      | .wait | .readyToReceive => st.receiveWithoutSender e owner self.port info
      | .readyToSend => st.tryReceiveFromReadySender e self.port owner

def callBlocked (owner : ProcessId) (self : PortSlot) (st : SystemState) :
    Outcome CapabilityError SystemState Unit :=
  ((((st.modifyPort self.port fun port => { port with state := .readyToSend }).setStatus owner
    .blockedSend).modifyContext owner fun context =>
      { context with sourceReplyState := .wait }).identify owner self).waitAt e self.port owner

def callTo (owner : ProcessId) (self : PortSlot) (info : Word) (target : ProcessId)
    (st : SystemState) : Outcome CapabilityError SystemState Unit :=
  let st := st.identify owner self
  if (st.contexts target).destinationReplyState ≠ .none then .error .fatal st
  else
    let st := (st.linkReply target owner).setStatus owner .blockedReply
    let st := st.modifyContext owner fun context => { context with sourceReplyState := .wait }
    (st.transferMessage e self.port target owner info).andThen fun _ st =>
      ((st.setStatus target .ready).onProc fun proc =>
        proc.tryDirectScheduleAndSwitch e.platform e.root e.sendIpi owner target).transformError
          convertKernelToCapabilityError

def operationCall (owner : ProcessId) (self : PortSlot) (info : Word) (st : SystemState) :
    Outcome CapabilityError SystemState Unit :=
  if self.rights &&& Slot.write = 0 then .error .permissionDenied st
  else
    match (st.ports self.port).state with
    | .wait | .readyToSend =>
      if ¬ MessageInfo.isBlock info then .ok () st
      else
        (st.tryDeliverPendingBindedNotification e owner).andThen fun delivered st =>
          if delivered then .ok () st else st.callBlocked e owner self
    | .readyToReceive =>
      ((st.popIpcQueue self.port).transformError convertKernelToCapabilityError).andThen
        (callTo e owner self info)

variable {e} in
theorem operationSend_cases {owner : ProcessId} {self : PortSlot} {info : Word} {st : SystemState}
    {motive : Outcome CapabilityError SystemState Unit → Prop}
    (refused : motive (.error .permissionDenied st)) (passed : motive (.ok () st))
    (blocks : (st.ports self.port).state ≠ .readyToReceive → motive (st.sendBlocked e owner self))
    (meets : (st.ports self.port).state = .readyToReceive →
      motive (((st.popIpcQueue self.port).transformError convertKernelToCapabilityError).andThen
        (sendTo e owner self info))) :
    motive (st.operationSend e owner self info) := by
  unfold operationSend
  split
  · exact refused
  · cases hstate : (st.ports self.port).state with
    | readyToReceive => exact meets hstate
    | wait | readyToSend =>
      dsimp only
      split
      · exact passed
      · exact blocks (by simp [hstate])

variable {e} in
theorem operationCall_cases {owner : ProcessId} {self : PortSlot} {info : Word} {st : SystemState}
    {motive : Outcome CapabilityError SystemState Unit → Prop}
    (refused : motive (.error .permissionDenied st)) (passed : motive (.ok () st))
    (blocks : (st.ports self.port).state ≠ .readyToReceive →
      motive ((st.tryDeliverPendingBindedNotification e owner).andThen fun delivered st =>
        if delivered then .ok () st else st.callBlocked e owner self))
    (meets : (st.ports self.port).state = .readyToReceive →
      motive (((st.popIpcQueue self.port).transformError convertKernelToCapabilityError).andThen
        (callTo e owner self info))) :
    motive (st.operationCall e owner self info) := by
  unfold operationCall
  split
  · exact refused
  · cases hstate : (st.ports self.port).state with
    | readyToReceive => exact meets hstate
    | wait | readyToSend =>
      dsimp only
      split
      · exact passed
      · exact blocks (by simp [hstate])

def restoreRegisters (owner client : ProcessId) :
    Nat → Nat → SystemState → Outcome CapabilityError SystemState Unit
  | 0, _, st => .ok () st
  | count + 1, index, st =>
    match st.getMessageRegister e owner (payloadStart + index) with
    | .error error => .error (convertKernelToCapabilityError (convertHalToKernelError error)) st
    | .ok value => restoreRegisters owner client count (index + 1) (st.setRegister client index value)

def applyInvalidKernelCallReplyContext (owner client : ProcessId) (info : Word) (st : SystemState) :
    Outcome CapabilityError SystemState Unit :=
  if (st.contexts client).faultReason ≠ .invalidKernelCall then .ok () st
  else if hardwareContextSize e.platform.architecture < MessageInfo.messageLength info then
    .error .invalidArgument st
  else st.restoreRegisters e owner client (MessageInfo.messageLength info) 0

def completeFaultReplyWithoutMessageTransfer (owner client : ProcessId) (st : SystemState) :
    Outcome CapabilityError SystemState Unit :=
  let st := (st.setStatus client .ready).unlinkReply owner client
  let st := st.modifyContext client fun context => { context with faultReason := .none }
  (st.onProc fun proc => proc.markScheduled e.platform e.sendIpi owner client).transformError
    convertKernelToCapabilityError

/-- `complete_reply` for a client the owner must answer; `enqueue` is its template argument. -/
def replyTo (enqueue : Bool) (owner client : ProcessId) (info : Word) (st : SystemState) :
    Outcome CapabilityError SystemState Unit :=
  if (st.contexts client).faultReason ≠ .none then
    (st.applyInvalidKernelCallReplyContext e owner client info).andThen fun _ st =>
      st.completeFaultReplyWithoutMessageTransfer e owner client
  else
    (st.transferDirectMessage e client owner info).andThen fun _ st =>
      let st := (st.setStatus client .ready).unlinkReply owner client
      if enqueue then
        (st.onProc fun proc => proc.markScheduled e.platform e.sendIpi owner client).transformError
          convertKernelToCapabilityError
      else .ok () st

def completeReply (enqueue : Bool) (owner : ProcessId) (info : Word) (st : SystemState) :
    Outcome CapabilityError SystemState Unit :=
  if (st.contexts owner).destinationReplyState = .none then .ok () st
  else
    match (st.contexts owner).destinationReplyTarget with
    | none => .error .fatal st
    | some client => st.replyTo e enqueue owner client info

def operationReply (owner : ProcessId) (info : Word) (st : SystemState) :
    Outcome CapabilityError SystemState Unit :=
  if (st.contexts owner).destinationReplyState = .none then .ok () st
  else
    match (st.contexts owner).destinationReplyTarget with
    | none => .error .fatal st
    | some client =>
      (st.replyTo e true owner client info).andThen fun _ st =>
        ((st.setStatus owner .ready).onProc fun proc =>
          proc.tryDirectScheduleAndSwitch e.platform e.root e.sendIpi owner owner).transformError
            convertKernelToCapabilityError

def repliesDirectly (owner : ProcessId) (port : Word) (info : Word) (st : SystemState) : Bool :=
  match (st.contexts owner).destinationReplyTarget with
  | none => false
  | some client =>
    (st.contexts owner).destinationReplyState = .readyToReply ∧
      (st.contexts client).faultReason = .none ∧ MessageInfo.isBlock info ∧
      (st.ports port).state ≠ .readyToSend ∧
      (¬ e.platform.smpEnabled ∨
        (st.proc.processes client).coreAffinity = (st.proc.processes owner).coreAffinity) ∧
      ¬ st.hasPendingNotification e owner

def operationReplyReceive (owner : ProcessId) (self : PortSlot) (info : Word) (st : SystemState) :
    Outcome CapabilityError SystemState Unit :=
  if self.rights &&& Slot.read = 0 then .error .permissionDenied st
  else
    let client := (st.contexts owner).destinationReplyTarget
    if st.repliesDirectly e owner self.port info then
      (st.completeReply e false owner info).andThen fun _ st =>
        let st := st.modifyPort self.port fun port => { port with state := .readyToReceive }
        let st := (st.setStatus owner .blockedReceive).pushIpcQueue self.port owner
        match client with
        | none => .ok () st
        | some client =>
          (st.onProc fun proc =>
            proc.tryDirectScheduleAndSwitchLocal e.platform e.root
              (proc.affinity e.platform owner) client).transformError
                convertKernelToCapabilityError
    else
      (st.completeReply e true owner info).andThen fun _ st =>
        match (st.ports self.port).state with
        | .readyToSend => st.tryReceiveFromReadySender e self.port owner
        | .wait | .readyToReceive => st.receiveWithoutSender e owner self.port info

def faultWait (owner : ProcessId) (port : Word) (st : SystemState) :
    Outcome CapabilityError SystemState Unit :=
  let st := st.setStatus owner .blockedFault
  let st := st.modifyContext owner fun context => { context with sourceReplyState := .wait }
  st.waitAt e port owner

def operationFaultCall (owner : ProcessId) (self : PortSlot) (st : SystemState) :
    Outcome CapabilityError SystemState Unit :=
  if self.rights &&& Slot.write = 0 ∨ self.rights &&& Slot.read = 0 then
    .error .permissionDenied (st.setStatus owner .blockedFault)
  else
    let st := st.identify owner self
    match (st.ports self.port).state with
    | .wait | .readyToSend =>
      (st.modifyPort self.port fun port => { port with state := .readyToSend }).faultWait e owner
        self.port
    | .readyToReceive =>
      ((st.popIpcQueue self.port).transformError convertKernelToCapabilityError).andThen
        fun target st =>
          if (st.contexts target).destinationReplyState ≠ .none then
            st.faultWait e owner self.port
          else
            let st := (st.linkReply target owner).setStatus owner .blockedFault
            let st := st.modifyContext owner fun context =>
              { context with sourceReplyState := .wait }
            (st.transferFaultMessage e self.port target owner).andThen fun _ st =>
              ((st.setStatus target .ready).onProc fun proc =>
                proc.tryDirectScheduleAndSwitch e.platform e.root e.sendIpi owner
                  target).transformError convertKernelToCapabilityError

/-- `ipc_port::execute`. IDENTIFY rewrites the slot it was invoked on and nothing here. -/
def executeIpcPort (owner : ProcessId) (self : PortSlot) (st : SystemState) :
    Outcome CapabilityError SystemState Unit :=
  let info := st.messageRegister e owner messageInfoIndex
  if ¬ MessageInfo.isNormal info then .error .invalidArgument st
  else
    match (st.messageRegister e owner operationTypeIndex).toNat with
    | 1 => st.operationSend e owner self info
    | 2 => st.operationReceive e owner self info
    | 3 => st.operationCall e owner self info
    | 4 => st.operationReply e owner info
    | 5 => st.operationReplyReceive e owner self info
    | 6 => if self.rights &&& Slot.modify = 0 then .error .permissionDenied st else .ok () st
    | _ => .error .illegalOperation st

def revokeWaiters (port : Word) : Nat → SystemState → Outcome CapabilityError SystemState Unit
  | 0, st => .ok () st
  | steps + 1, st =>
    match (st.ports port).queueHead with
    | none => .ok () st
    | some _ =>
      ((st.popIpcQueue port).transformError fun _ => CapabilityError.fatal).andThen
        fun target st =>
          let st := st.modifyContext target fun context =>
            { context with sourceReplyState := .none, sourceReplyTarget := none }
          (st.completeRevokedWait e target).andThen fun _ st => revokeWaiters port steps st

def revokeIpcPort (port : Word) (st : SystemState) : Outcome CapabilityError SystemState Unit :=
  (st.revokeWaiters e port (st.proc.processCount + 1)).andThen fun _ st =>
    .ok () (st.modifyPort port fun port => { port with state := .wait })

end A9N.Kernel.SystemState
