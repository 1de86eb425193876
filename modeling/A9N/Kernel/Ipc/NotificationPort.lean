import A9N.Kernel.Ipc.IpcPort

/-!
# Notification ports

`notification_port.cpp`. A notification sets bits in the port's word and wakes the bound process
when that one waits in RECEIVE, else the first process in the port's own queue.
-/

namespace A9N.Kernel.SystemState

open ProcState

variable (e : Entry)

/-! ## The wait queue -/

def pushNotificationQueue (port : Word) (target : ProcessId) (st : SystemState) : SystemState :=
  let st := st.modifyContext target fun context =>
    { context with currentNotificationPort := some port }
  match (st.notifications port).queueHead, (st.notifications port).queueTail with
  | some _, some tail =>
    let st := st.modifyContext target fun context => { context with nextNotificationQueue := none }
    let st := st.modifyContext tail fun context =>
      { context with nextNotificationQueue := some target }
    let st := st.modifyContext target fun context =>
      { context with previewNotificationQueue := some tail }
    st.modifyNotification port fun port => { port with queueTail := some target }
  | _, _ =>
    let st := st.modifyNotification port fun port =>
      { port with queueHead := some target, queueTail := some target }
    st.modifyContext target fun context =>
      { context with previewNotificationQueue := none, nextNotificationQueue := none }

def popNotificationQueue (port : Word) (st : SystemState) :
    Outcome KernelError SystemState ProcessId :=
  match (st.notifications port).queueHead with
  | none => .error .noSuchAddress st
  | some target =>
    let st := match (st.contexts target).nextNotificationQueue with
      | none => st.modifyNotification port fun port =>
        { port with queueHead := none, queueTail := none, state := .wait }
      | some head =>
        let st := st.modifyNotification port fun port => { port with queueHead := some head }
        st.modifyContext head fun context => { context with previewNotificationQueue := none }
    .ok target (st.modifyContext target fun context =>
      { context with nextNotificationQueue := none, previewNotificationQueue := none,
                     currentNotificationPort := none })

def removeNotificationQueue (port : Word) (target : ProcessId) (st : SystemState) :
    Outcome KernelError SystemState Unit :=
  if (st.contexts target).currentNotificationPort ≠ some port then .error .illegalArgument st
  else
    let previous := (st.contexts target).previewNotificationQueue
    let next := (st.contexts target).nextNotificationQueue
    let st := match previous with
      | some id => st.modifyContext id fun context => { context with nextNotificationQueue := next }
      | none => st.modifyNotification port fun port => { port with queueHead := next }
    let st := match next with
      | some id => st.modifyContext id fun context =>
        { context with previewNotificationQueue := previous }
      | none => st.modifyNotification port fun port => { port with queueTail := previous }
    let st := st.modifyContext target fun context =>
      { context with nextNotificationQueue := none, previewNotificationQueue := none,
                     currentNotificationPort := none }
    .ok () (st.modifyNotification port fun port =>
      if port.queueHead = none then { port with queueTail := none, state := .wait } else port)

/-! ## Operations -/

def flagWordIndex : Nat := 2

def tryWakeBindedProcess (port : Word) (current : ProcessId) (st : SystemState) :
    Outcome CapabilityError SystemState Unit :=
  match (st.notifications port).bindedProcess with
  | none => .error .fatal st
  | some target =>
    if (st.proc.processes target).status ≠ .blockedReceive then .error .fatal st
    else
      match (st.contexts target).currentIpcPort with
      | none => .error .fatal st
      | some ipcPort =>
        ((st.removeIpcQueue ipcPort target).transformError
          convertKernelToCapabilityError).andThen fun _ st =>
            let identifier := (st.notifications port).flag
            let st := st.modifyNotification port NotificationPort.consume
            (st.writeMessageRegisters e target
              [(messageInfoIndex, MessageInfo.make false 0 0 2),
                (identifierIndex, identifier)]).andThen fun _ st =>
                  let st := st.setStatus target .ready
                  let st := st.modifyContext target fun context =>
                    { context with currentIpcPort := none, currentNotificationPort := none }
                  (st.onProc fun proc => proc.markScheduledWithPreemption e.platform e.root
                    e.sendIpi current target).transformError convertKernelToCapabilityError

def deliverFlag (port : Word) (target : ProcessId) (st : SystemState) :
    Outcome CapabilityError SystemState Unit :=
  let flag := (st.notifications port).flag
  let st := st.modifyNotification port NotificationPort.consume
  st.writeMessageRegisters e target [(flagWordIndex, flag)]

def bindedReceives (port : Word) (st : SystemState) : Bool :=
  match (st.notifications port).bindedProcess with
  | none => false
  | some target => (st.proc.processes target).status = .blockedReceive

def operationNotify (owner : ProcessId) (self : PortSlot) (st : SystemState) :
    Outcome CapabilityError SystemState Unit :=
  if self.rights &&& Slot.write = 0 then .error .permissionDenied st
  else
    let st := st.modifyNotification self.port fun port => port.notify self.identifier
    if st.bindedReceives self.port then st.tryWakeBindedProcess e self.port owner
    else
      match (st.notifications self.port).state with
      | .wait => .ok () st
      | .readyToWake =>
        if (st.notifications self.port).queueHead = none then .error .fatal st
        else
          ((st.popNotificationQueue self.port).transformError
            convertKernelToCapabilityError).andThen fun target st =>
              (st.deliverFlag e self.port target).andThen fun _ st =>
                (st.onProc fun proc => proc.markScheduledWithPreemption e.platform e.root
                  e.sendIpi owner target).transformError convertKernelToCapabilityError

def boundToOther (port : Word) (owner : ProcessId) (st : SystemState) : Bool :=
  match (st.notifications port).bindedProcess with
  | none => false
  | some target => target ≠ owner

def operationWait (owner : ProcessId) (self : PortSlot) (st : SystemState) :
    Outcome CapabilityError SystemState Unit :=
  if self.rights &&& Slot.read = 0 then .error .permissionDenied st
  else if st.boundToOther self.port owner then .error .fatal st
  else if (st.notifications self.port).state = .wait ∧
      (st.notifications self.port).hasNotification then
    st.deliverFlag e self.port owner
  else
    let st := st.modifyNotification self.port fun port => { port with state := .readyToWake }
    let st := (st.setStatus owner .blockedWait).pushNotificationQueue self.port owner
    (st.onProc fun proc => proc.tryScheduleAndSwitchFor e.platform e.root owner).transformError
      convertKernelToCapabilityError

def operationPoll (owner : ProcessId) (self : PortSlot) (st : SystemState) :
    Outcome CapabilityError SystemState Unit :=
  if self.rights &&& Slot.read = 0 then .error .permissionDenied st
  else if st.boundToOther self.port owner then .error .fatal st
  else if (st.notifications self.port).hasNotification then st.deliverFlag e self.port owner
  else st.writeMessageRegisters e owner [(flagWordIndex, 0)]

/-- `notification_port::execute`. IDENTIFY rewrites the slot it was invoked on and nothing here. -/
def executeNotificationPort (owner : ProcessId) (self : PortSlot) (st : SystemState) :
    Outcome CapabilityError SystemState Unit :=
  match (st.messageRegister e owner operationTypeIndex).toNat with
  | 1 => st.operationNotify e owner self
  | 2 => st.operationWait e owner self
  | 3 => st.operationPoll e owner self
  | 4 => if self.rights &&& Slot.modify = 0 then .error .permissionDenied st else .ok () st
  | _ => .error .illegalOperation st

def revokeNotificationWaiters (port : Word) :
    Nat → SystemState → Outcome CapabilityError SystemState Unit
  | 0, st => .ok () st
  | steps + 1, st =>
    match (st.notifications port).queueHead with
    | none => .ok () st
    | some _ =>
      ((st.popNotificationQueue port).transformError fun _ => CapabilityError.fatal).andThen
        fun target st =>
          (st.completeRevokedWait e target).andThen
            fun _ st => revokeNotificationWaiters port steps st

/-- `notification_port::revoke`. The slot of the bound process belongs to the capability state. -/
def revokeNotificationPort (port : Word) (st : SystemState) :
    Outcome CapabilityError SystemState Unit :=
  (st.revokeNotificationWaiters e port (st.proc.processCount + 1)).andThen fun _ st =>
    .ok () (st.modifyNotification port fun port =>
      { port.consume with bindedProcess := none, state := .wait })

end A9N.Kernel.SystemState
