import A9N.Kernel.Capability.Slot
import A9N.Kernel.Process.ProcessManager

/-!
# Processes, ports and messages

The state shared by `ipc_port.cpp`, `notification_port.cpp`, `process_control_block.cpp` and the
kernel's entry points: the scheduling state, the IPC fields of every process, the ports, the saved
registers and the IPC buffers. What an entry only reads (the slots of a control block, the answers
of the hardware) is in `Entry`.
-/

namespace A9N.Kernel

/-- `fault_type`. -/
inductive FaultType
  | none | memory | memoryInstructionFetch | invalidInstruction | invalidArithmetic
  | invalidKernelCall | fatal | architecture
deriving DecidableEq, Repr

namespace FaultType

def toWord : FaultType → Word
  | none => 0
  | memory => 1
  | memoryInstructionFetch => 2
  | invalidInstruction => 3
  | invalidArithmetic => 4
  | invalidKernelCall => 5
  | fatal => 6
  | architecture => 7

end FaultType

/-- `source_reply_state_object`. -/
inductive SourceReplyState
  | none | wait
deriving DecidableEq, Repr

/-- `destination_reply_state_object`. -/
inductive DestinationReplyState
  | none | readyToReply
deriving DecidableEq, Repr

structure IpcContext where
  faultReason : FaultType := .none
  faultCode : Word := 0
  archFaultCode : Word := 0
  faultAddress : Word := 0
  buffer : Option Word := none
  nextIpcQueue : Option ProcessId := none
  previewIpcQueue : Option ProcessId := none
  nextNotificationQueue : Option ProcessId := none
  previewNotificationQueue : Option ProcessId := none
  currentIpcPort : Option Word := none
  currentNotificationPort : Option Word := none
  identifierWhenBlocked : Word := 0
  sourceReplyState : SourceReplyState := .none
  destinationReplyState : DestinationReplyState := .none
  sourceReplyTarget : Option ProcessId := none
  destinationReplyTarget : Option ProcessId := none
deriving DecidableEq, Repr

inductive IpcPortState
  | wait | readyToSend | readyToReceive
deriving DecidableEq, Repr

structure IpcPort where
  queueHead : Option ProcessId := none
  queueTail : Option ProcessId := none
  state : IpcPortState := .wait
deriving DecidableEq, Repr

inductive NotificationPortState
  | wait | readyToWake
deriving DecidableEq, Repr

/-- `notification_port` with its `notification`: `hasFlag` is the enumerator `HAS_FLAG`. -/
structure NotificationPort where
  hasFlag : Bool := false
  flag : Word := 0
  queueHead : Option ProcessId := none
  queueTail : Option ProcessId := none
  bindedProcess : Option ProcessId := none
  state : NotificationPortState := .wait
deriving DecidableEq, Repr

namespace NotificationPort

def hasNotification (port : NotificationPort) : Bool := port.hasFlag && port.flag != 0

def notify (port : NotificationPort) (flag : Word) : NotificationPort :=
  { port with flag := port.flag ||| flag, hasFlag := true }

def consume (port : NotificationPort) : NotificationPort := { port with flag := 0, hasFlag := false }

end NotificationPort

/-- The state of the process system. `failedTransfers` is a ghost: it counts the message transfers
that returned an error, and no operation reads it. -/
structure SystemState where
  proc : ProcState
  contexts : ProcessId → IpcContext := fun _ => {}
  ports : Word → IpcPort := fun _ => {}
  notifications : Word → NotificationPort := fun _ => {}
  registers : ProcessId → Nat → Word := fun _ _ => 0
  buffers : Word → Nat → Word := fun _ _ => 0
  failedTransfers : Nat := 0

structure PortSlot where
  port : Word
  rights : BitVec 8 := Slot.all
  identifier : Word := 0
deriving DecidableEq, Repr

/-- What one kernel entry reads and does not change: the executing core, the slots of the control
blocks, and what the hardware and the capability tables answer. -/
structure Entry where
  platform : Platform
  core : Nat
  coreCount : Nat
  root : ProcessId → Word
  sendIpi : Nat → Bool := fun _ => true
  /-- Whether a core that waits at the kernel's entry came through a system call. -/
  entersBySyscall : Nat → Bool := fun _ => false
  /-- The port in `binded_notification_port`. -/
  boundNotification : ProcessId → Option Word := fun _ => none
  /-- The port in `resolver_port`. -/
  resolver : ProcessId → Option PortSlot := fun _ => none
  /-- Whether `buffer_frame` holds a Frame. -/
  bufferFrame : ProcessId → Bool := fun _ => true
  /-- The lookups and moves of `move_capabilities`, once both buffers are there. -/
  moves : ProcessId → ProcessId → Nat → Except CapabilityError Unit := fun _ _ _ => .ok ()
  /-- Whether `revoke` removes the slots of the control block, after which it resets the context. -/
  vacates : ProcessId → Bool := fun _ => true

namespace SystemState

variable {ε α : Type}

def onProc (st : SystemState) (f : ProcState → Outcome ε ProcState α) : Outcome ε SystemState α :=
  ⟨(f st.proc).result, { st with proc := (f st.proc).state }⟩

def modifyProcess (st : SystemState) (id : ProcessId) (f : Process → Process) : SystemState :=
  { st with proc := st.proc.modifyProcess id f }

def setStatus (st : SystemState) (id : ProcessId) (status : ProcessStatus) : SystemState :=
  st.modifyProcess id fun process => { process with status := status }

def modifyContext (st : SystemState) (id : ProcessId) (f : IpcContext → IpcContext) :
    SystemState :=
  { st with contexts := Function.update st.contexts id (f (st.contexts id)) }

def modifyPort (st : SystemState) (port : Word) (f : IpcPort → IpcPort) : SystemState :=
  { st with ports := Function.update st.ports port (f (st.ports port)) }

def modifyNotification (st : SystemState) (port : Word) (f : NotificationPort → NotificationPort) :
    SystemState :=
  { st with notifications := Function.update st.notifications port (f (st.notifications port)) }

def setRegister (st : SystemState) (id : ProcessId) (index : Nat) (value : Word) : SystemState :=
  let saved := Function.update (st.registers id) index value
  { st with registers := Function.update st.registers id saved }

def setBufferWord (st : SystemState) (buffer : Word) (index : Nat) (value : Word) : SystemState :=
  let words := Function.update (st.buffers buffer) index value
  { st with buffers := Function.update st.buffers buffer words }

section Fields

variable (st : SystemState) (id other : ProcessId) (port port' : Word)

theorem modifyContext_contexts (f : IpcContext → IpcContext) :
    (st.modifyContext id f).contexts other =
      if other = id then f (st.contexts id) else st.contexts other := by
  by_cases h : other = id <;> simp [modifyContext, h]

theorem modifyPort_ports (f : IpcPort → IpcPort) : (st.modifyPort port f).ports port' =
      if port' = port then f (st.ports port) else st.ports port' := by
  by_cases h : port' = port <;> simp [modifyPort, h]

theorem modifyNotification_notifications (f : NotificationPort → NotificationPort) :
    (st.modifyNotification port f).notifications port' =
      if port' = port then f (st.notifications port) else st.notifications port' := by
  by_cases h : port' = port <;> simp [modifyNotification, h]

section

variable (f : IpcContext → IpcContext)

@[simp] theorem modifyContext_proc : (st.modifyContext id f).proc = st.proc := rfl

@[simp] theorem modifyContext_ports : (st.modifyContext id f).ports = st.ports := rfl

@[simp] theorem modifyContext_notifications :
    (st.modifyContext id f).notifications = st.notifications := rfl

@[simp] theorem modifyContext_failedTransfers :
    (st.modifyContext id f).failedTransfers = st.failedTransfers := rfl

end

section

variable (f : IpcPort → IpcPort)

@[simp] theorem modifyPort_proc : (st.modifyPort port f).proc = st.proc := rfl

@[simp] theorem modifyPort_contexts : (st.modifyPort port f).contexts = st.contexts := rfl

@[simp] theorem modifyPort_notifications :
    (st.modifyPort port f).notifications = st.notifications := rfl

@[simp] theorem modifyPort_failedTransfers :
    (st.modifyPort port f).failedTransfers = st.failedTransfers := rfl

end

section

variable (f : NotificationPort → NotificationPort)

@[simp] theorem modifyNotification_proc : (st.modifyNotification port f).proc = st.proc := rfl

@[simp] theorem modifyNotification_contexts :
    (st.modifyNotification port f).contexts = st.contexts := rfl

@[simp] theorem modifyNotification_ports : (st.modifyNotification port f).ports = st.ports := rfl

@[simp] theorem modifyNotification_failedTransfers :
    (st.modifyNotification port f).failedTransfers = st.failedTransfers := rfl

end

section

variable (status : ProcessStatus)

@[simp] theorem setStatus_contexts : (st.setStatus id status).contexts = st.contexts := rfl

@[simp] theorem setStatus_ports : (st.setStatus id status).ports = st.ports := rfl

@[simp] theorem setStatus_notifications :
    (st.setStatus id status).notifications = st.notifications := rfl

@[simp] theorem setStatus_failedTransfers :
    (st.setStatus id status).failedTransfers = st.failedTransfers := rfl

end

end Fields

end SystemState

/-! ## Message registers -/

def messageRegisterCount : Nat := 10

def messageRegisterIndex : Architecture → Nat → Nat
  | .x86_64, index => [4, 5, 3, 7, 8, 9, 11, 12, 13, 14].getD index 0
  | .aarch64, index => if index < 8 then index else index + 1

def hardwareContextSize : Architecture → Nat
  | .x86_64 => 23
  | .aarch64 => 35

def instructionPointerIndex : Architecture → Nat
  | .x86_64 => 15
  | .aarch64 => 32

def syscallInstructionBytes : Architecture → Word
  | .x86_64 => 2
  | .aarch64 => 4

/-- What `init_hardware_context` gives a user process: on x86_64 the user segments in `CS` and `SS`,
`RFLAGS` and a mark in `FS_BASE`, and zero everywhere else. -/
def userContext : Architecture → Nat → Word
  | .x86_64, 16 => 0x2b
  | .x86_64, 17 => 0x202
  | .x86_64, 19 => 0x23
  | .x86_64, 21 => 0xfeedface
  | _, _ => 0

namespace SystemState

variable (e : Entry)

def getMessageRegister (st : SystemState) (id : ProcessId) (index : Nat) : Except HalError Word :=
  if index < messageRegisterCount then
    .ok (st.registers id (messageRegisterIndex e.platform.architecture index))
  else
    match (st.contexts id).buffer with
    | none => .error .noSuchAddress
    | some buffer => .ok (st.buffers buffer index)

def messageRegister (st : SystemState) (id : ProcessId) (index : Nat) : Word :=
  st.registers id (messageRegisterIndex e.platform.architecture index)

def configureMessageRegister (st : SystemState) (id : ProcessId) (index : Nat) (value : Word) :
    Outcome HalError SystemState Unit :=
  if index < messageRegisterCount then
    .ok () (st.setRegister id (messageRegisterIndex e.platform.architecture index) value)
  else
    match (st.contexts id).buffer with
    | none => .error .noSuchAddress st
    | some buffer => .ok () (st.setBufferWord buffer index value)

def writeMessageRegisters (id : ProcessId) :
    List (Nat × Word) → SystemState → Outcome CapabilityError SystemState Unit
  | [], st => .ok () st
  | (index, value) :: rest, st =>
    ((st.configureMessageRegister e id index value).transformError
      fun _ => CapabilityError.fatal).andThen fun _ st => writeMessageRegisters id rest st

def initHardwareContext (architecture : Architecture) (id : ProcessId) (st : SystemState) :
    SystemState :=
  { st with registers := Function.update st.registers id (userContext architecture) }

def restartSyscall (st : SystemState) (id : ProcessId) : SystemState :=
  let index := instructionPointerIndex e.platform.architecture
  st.setRegister id index
    (st.registers id index - syscallInstructionBytes e.platform.architecture)

end SystemState

/-! ## `message_info` -/

namespace MessageInfo

def isBlock (info : Word) : Bool := info &&& 1 != 0

def messageLength (info : Word) : Nat := ((info >>> 1) &&& 0xff).toNat

def transferCount (info : Word) : Nat := ((info >>> 9) &&& 0xf).toNat

/-- `message_source`: 0 is `NORMAL`, 1 `FAULT`, 2 `NOTIFICATION`. -/
def source (info : Word) : Nat := ((info >>> 13) &&& 3).toNat

def isNormal (info : Word) : Bool := source info == 0

def make (block : Bool) (length transferCount source : Nat) : Word :=
  (if block then 1 else 0) ||| ((BitVec.ofNat 64 length &&& 0xff) <<< 1) |||
    ((BitVec.ofNat 64 transferCount &&& 0xf) <<< 9) ||| ((BitVec.ofNat 64 source &&& 3) <<< 13)

end MessageInfo

def operationTypeIndex : Nat := 1
def messageInfoIndex : Nat := 2
def identifierIndex : Nat := 3
def payloadStart : Nat := 4

end A9N.Kernel
