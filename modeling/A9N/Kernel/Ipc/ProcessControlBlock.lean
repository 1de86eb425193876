import A9N.Hal.Aarch64Paging
import A9N.Kernel.Ipc.NotificationPort
import A9N.Kernel.Process.PrioritySelection

/-!
# Process control blocks

The operations of `process_control_block.cpp` on the process itself. What CONFIGURE and `revoke`
do to the slots of the control block belongs to the capability state.
-/

namespace A9N.Kernel

/-- The entries of `register_configurations`. -/
inductive RegisterField
  | instructionPointer
  | stackPointer
  | threadLocalBase
deriving DecidableEq, Repr

namespace RegisterField

/-- The saved register that `configure_general_register` writes. -/
def saved : Architecture → RegisterField → Nat
  | architecture, instructionPointer => instructionPointerIndex architecture
  | .x86_64, stackPointer => 18
  | .x86_64, threadLocalBase => 20
  | .aarch64, stackPointer => 31
  | .aarch64, threadLocalBase => 34

def flag : RegisterField → Nat
  | instructionPointer => 5
  | stackPointer => 6
  | threadLocalBase => 7

def messageIndex : RegisterField → Nat
  | instructionPointer => 8
  | stackPointer => 9
  | threadLocalBase => 10

def invalidAddressError : RegisterField → CapabilityError
  | instructionPointer | stackPointer => .illegalOperation
  | threadLocalBase => .fatal

end RegisterField

def isValidUserAddress : Architecture → Word → Bool
  | .x86_64, address => Hal.X86.isValidUserAddress address
  | .aarch64, address => Hal.Aarch64.isValidUserAddress address

namespace SystemState

open ProcState

variable (e : Entry)

def registerCountIndex : Nat := 2
def registerIndex : Nat := 3

def priorityIndex : Nat := 11
def affinityIndex : Nat := 12

def configuresPriority (flags : Word) : Bool := flags.getLsbD 8
def configuresAffinity (flags : Word) : Bool := flags.getLsbD 9

def clearFault (target : ProcessId) (st : SystemState) : SystemState :=
  st.modifyContext target fun context =>
    { context with faultReason := .none, faultCode := 0, archFaultCode := 0, faultAddress := 0 }

def configureAffinity (target : ProcessId) (affinity : Word) (st : SystemState) :
    Outcome CapabilityError SystemState Unit :=
  if e.coreCount ≤ affinity.toNat then .error .invalidArgument st
  else if affinity ≠ (st.proc.processes target).coreAffinity ∧
      ((st.proc.processes target).status = .ready ∨ st.proc.isRunningOnAssignedCore target) then
    .error .invalidArgument st
  else .ok () (st.modifyProcess target fun process => { process with coreAffinity := affinity })

def withValue (owner : ProcessId) (index : Nat) (st : SystemState)
    (next : Word → Outcome CapabilityError SystemState Unit) :
    Outcome CapabilityError SystemState Unit :=
  match st.getMessageRegister e owner index with
  | .error _ => .error .fatal st
  | .ok value => next value

def configureRegister (owner target : ProcessId) (field : RegisterField) (st : SystemState) :
    Outcome CapabilityError SystemState Unit :=
  st.withValue e owner field.messageIndex fun value =>
    if isValidUserAddress e.platform.architecture value then
      .ok () (st.setRegister target (field.saved e.platform.architecture) value)
    else .error field.invalidAddressError st

def configureRegisters (owner target : ProcessId) (flags : Word) :
    List RegisterField → SystemState → Outcome CapabilityError SystemState Unit
  | [], st => .ok () st
  | field :: rest, st =>
    (if flags.getLsbD field.flag then st.configureRegister e owner target field
      else .ok () st).andThen fun _ st => configureRegisters owner target flags rest st

theorem configureRegisters_keeps {e : Entry} {P : SystemState → Prop} {target : ProcessId}
    (hwrite : ∀ (st : SystemState) (field : RegisterField) (value : Word), P st →
      P (st.setRegister target (field.saved e.platform.architecture) value))
    (owner : ProcessId) (flags : Word) (fields : List RegisterField) {st : SystemState} (h : P st) :
    P (st.configureRegisters e owner target flags fields).state := by
  induction fields generalizing st with
  | nil => exact h
  | cons field rest ih =>
    unfold configureRegisters
    apply Outcome.andThen_keeps (P := P)
    · unfold configureRegister withValue
      split
      · split
        · exact h
        · dsimp only
          split
          · exact hwrite st field _ h
          · exact h
      · exact h
    · exact fun _ _ hwritten => ih hwritten

/-- CONFIGURE behind the capabilities it binds, which come first: the registers, the priority and
the affinity. -/
def operationConfigure (owner target : ProcessId) (st : SystemState) :
    Outcome CapabilityError SystemState Unit :=
  let flags := st.messageRegister e owner 2
  (st.configureRegisters e owner target flags
    [.instructionPointer, .stackPointer, .threadLocalBase]).andThen fun _ st =>
      (if configuresPriority flags then
        st.withValue e owner priorityIndex fun priority =>
          st.onProc fun proc => proc.configurePriority target priority
      else Outcome.ok () st).andThen fun _ st =>
        if configuresAffinity flags then
          st.withValue e owner affinityIndex fun affinity => st.configureAffinity e target affinity
        else .ok () st

theorem operationConfigure_keeps {e : Entry} {P : SystemState → Prop} {target : ProcessId}
    (hregister : ∀ (st : SystemState) (field : RegisterField) (value : Word), P st →
      P (st.setRegister target (field.saved e.platform.architecture) value))
    (hpriority : ∀ (st : SystemState) (priority : Word), P st →
      P (st.onProc fun proc => proc.configurePriority target priority).state)
    (haffinity : ∀ (st : SystemState) (affinity : Word), P st →
      P (st.configureAffinity e target affinity).state)
    (owner : ProcessId) {st : SystemState} (h : P st) :
    P (st.operationConfigure e owner target).state := by
  unfold operationConfigure withValue
  apply Outcome.andThen_keeps (P := P)
  · exact configureRegisters_keeps hregister owner _ _ h
  intro _ st1 hwritten
  apply Outcome.andThen_keeps (P := P)
  · split
    · split
      · exact hwritten
      · exact hpriority st1 _ hwritten
    · exact hwritten
  · intro _ st2 hprioritised
    split
    · split
      · exact hprioritised
      · exact haffinity st2 _ hprioritised
    · exact hprioritised

def readRegisters (owner target : ProcessId) :
    Nat → Nat → SystemState → Outcome CapabilityError SystemState Unit
  | 0, _, st => .ok () st
  | count + 1, index, st =>
    ((st.configureMessageRegister e owner (registerIndex + index)
      (st.registers target index)).transformError fun _ => CapabilityError.fatal).andThen
        fun _ st => readRegisters owner target count (index + 1) st

def operationReadRegister (owner target : ProcessId) (st : SystemState) :
    Outcome CapabilityError SystemState Unit :=
  let count := (st.messageRegister e owner registerCountIndex).toNat
  if hardwareContextSize e.platform.architecture < count then .error .invalidArgument st
  else st.readRegisters e owner target count 0

def writeRegisters (owner target : ProcessId) :
    Nat → Nat → SystemState → Outcome CapabilityError SystemState Unit
  | 0, _, st => .ok () st
  | count + 1, index, st =>
    match st.getMessageRegister e owner (registerIndex + index) with
    | .error _ => .error .fatal st
    | .ok value => writeRegisters owner target count (index + 1) (st.setRegister target index value)

def operationWriteRegister (owner target : ProcessId) (st : SystemState) :
    Outcome CapabilityError SystemState Unit :=
  let count := (st.messageRegister e owner registerCountIndex).toNat
  if hardwareContextSize e.platform.architecture < count then .error .invalidArgument st
  else st.writeRegisters e owner target count 0

def detachFromIpcQueue (target : ProcessId) (st : SystemState) :
    Outcome CapabilityError SystemState Unit :=
  match (st.contexts target).currentIpcPort with
  | none => .ok () st
  | some port => (st.removeIpcQueue port target).transformError convertKernelToCapabilityError

def detachFromNotificationQueue (target : ProcessId) (st : SystemState) :
    Outcome CapabilityError SystemState Unit :=
  match (st.contexts target).currentNotificationPort with
  | none => .ok () st
  | some port => (st.removeNotificationQueue port target).transformError
      convertKernelToCapabilityError

def detachFromWaitQueues (target : ProcessId) (st : SystemState) :
    Outcome CapabilityError SystemState Unit :=
  (st.detachFromIpcQueue target).andThen fun _ st => st.detachFromNotificationQueue target

def cancelOwnWait (target : ProcessId) (st : SystemState) :
    Outcome CapabilityError SystemState Unit :=
  (st.detachFromWaitQueues target).andThen fun _ st => st.cancelReply e target false

def operationResume (owner target : ProcessId) (st : SystemState) :
    Outcome CapabilityError SystemState Unit :=
  if st.proc.isRunningOnAssignedCore target then .error .invalidArgument st
  else
    (st.cancelOwnWait e target).andThen fun _ st =>
      let st := (st.clearFault target).setStatus target .ready
      (st.onProc fun proc => proc.markScheduled e.platform e.sendIpi owner target).transformError
        convertKernelToCapabilityError

def nativeWait (target : ProcessId) (st : SystemState) : Bool :=
  let context := st.contexts target
  let status := (st.proc.processes target).status
  context.faultReason = .none ∧
    (context.currentIpcPort.isSome ∨ context.currentNotificationPort.isSome ∨
      context.sourceReplyState = .wait ∨ status = .blockedSend ∨ status = .blockedReceive ∨
      status = .blockedReply ∨ status = .blockedWait)

def operationSuspend (target : ProcessId) (st : SystemState) :
    Outcome CapabilityError SystemState Unit :=
  let fault := (st.contexts target).faultReason
  let native := st.nativeWait target
  ((st.stopProcessForReclamation e target).transformError convertKernelToCapabilityError).andThen
    fun _ st =>
      (if native then st.writeMessageRegisters e target [(0, 0), (1, 0)] else .ok () st).andThen
        fun _ st =>
          (st.cancelOwnWait e target).andThen fun _ st =>
            let st := if fault = .invalidKernelCall then st.restartSyscall e target else st
            .ok () (st.clearFault target)

def executeProcessControlBlock (owner target : ProcessId) (st : SystemState) :
    Outcome CapabilityError SystemState Unit :=
  match (st.messageRegister e owner operationTypeIndex).toNat with
  | 1 => st.operationConfigure e owner target
  | 2 => st.operationReadRegister e owner target
  | 3 => st.operationWriteRegister e owner target
  | 4 => st.operationResume e owner target
  | 5 => st.operationSuspend e target
  | _ => .error .illegalOperation st

def wakeCaller (target : ProcessId) (st : SystemState) :
    Outcome CapabilityError SystemState Unit :=
  match (st.contexts target).destinationReplyTarget with
  | none => .ok () st
  | some client => st.cancelReply e client true

/-- `process_control_block::revoke`. What the removal of the slots does is in the capability state;
here it ends the use of the IPC buffer and, once all are removed, resets the saved context. -/
def revokeProcess (target : ProcessId) (st : SystemState) :
    Outcome CapabilityError SystemState Unit :=
  ((st.stopProcessForReclamation e target).transformError convertKernelToCapabilityError).andThen
    fun _ st =>
      (st.detachFromWaitQueues target).andThen fun _ st =>
        (st.wakeCaller e target).andThen fun _ st =>
          (st.cancelReply e target false).andThen fun _ st =>
            let st := st.modifyContext target fun context => { context with buffer := none }
            .ok () (if e.vacates target then st.initHardwareContext e.platform.architecture target
              else st)

end SystemState

end A9N.Kernel
