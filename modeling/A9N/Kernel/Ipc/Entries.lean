import A9N.Kernel.Ipc.ProcessControlBlock

/-!
# The kernel's entry points

`handle_kernel_call` of `kernel_call.cpp` and the handlers of `interrupt_manager.cpp`. Each runs
under the giant lock from its first to its last step, so that a run of the system is a sequence of
entries on any of its cores.
-/

namespace A9N.Kernel

inductive Callback
  | ipcPort (port : Word)
  | notificationPort (port : Word)
  | process (target : ProcessId)

inductive Invocation
  | unconfigured
  | invalid
  | ipcPort (self : PortSlot)
  | notificationPort (self : PortSlot)
  | processControlBlock (target : ProcessId)
  | other (callbacks : List Callback) (result : Except CapabilityError Unit)

inductive KernelEntry
  | capabilityCall (invocation : Invocation)
  | yield
  | timer
  | interrupt (handler : Option PortSlot)
  | ipiReschedule
  | fault (type : FaultType) (code archCode address : Word)

namespace SystemState

open ProcState

variable (e : Entry)

/-! ## System calls -/

def runCallback : Callback → SystemState → Outcome CapabilityError SystemState Unit
  | .ipcPort port, st => st.revokeIpcPort e port
  | .notificationPort port, st => st.revokeNotificationPort e port
  | .process target, st => st.revokeProcess e target

def runCallbacks : List Callback → SystemState → Outcome CapabilityError SystemState Unit
  | [], st => .ok () st
  | callback :: rest, st =>
    ((st.runCallback e callback).transformError fun _ => CapabilityError.fatal).andThen
      fun _ st => runCallbacks rest st

def execute (owner : ProcessId) (st : SystemState) :
    Invocation → Outcome CapabilityError SystemState Unit
  | .ipcPort self => st.executeIpcPort e owner self
  | .notificationPort self => st.executeNotificationPort e owner self
  | .processControlBlock target => st.executeProcessControlBlock e owner target
  | .other callbacks result => (st.runCallbacks e callbacks).andThen fun _ st => ⟨result, st⟩
  | .unconfigured | .invalid => .error .invalidDescriptor st

def errorCode : CapabilityError → Word
  | .illegalOperation => 0
  | .permissionDenied => 1
  | .invalidDescriptor => 2
  | .invalidDepth => 3
  | .invalidArgument => 4
  | .fatal => 5
  | .debugUnimplemented => 6

/-- `configure_capability_success` and `configure_capability_error`. -/
def reportResult (owner : ProcessId) (o : Outcome CapabilityError SystemState Unit) : SystemState :=
  match o.result with
  | .ok _ => (o.state.configureMessageRegister e owner 0 1).state
  | .error error =>
    ((o.state.configureMessageRegister e owner 0 0).state.configureMessageRegister e owner 1
      (errorCode error)).state

def handleCapabilityCall (owner : ProcessId) (invocation : Invocation) (st : SystemState) :
    SystemState :=
  match invocation with
  | .unconfigured => st
  | invocation => reportResult e owner (st.execute e owner invocation)

def handleYield (st : SystemState) : SystemState :=
  match (st.proc.cpus e.core).currentProcess with
  | none => st
  | some current =>
    let st := st.modifyProcess current fun process => { process with quantum := quantumMax }
    (st.onProc fun proc => (proc.markScheduledOn e.core current).andThen
      fun _ proc => proc.tryScheduleAndSwitch e.platform e.root e.core).state

/-! ## Interrupts and faults -/

def handleTimer (st : SystemState) : SystemState :=
  match (st.proc.cpus e.core).currentProcess with
  | none => st
  | some current =>
    if (st.proc.processes current).status ≠ .ready ∧
        (st.proc.processes current).status ≠ .idle then
      (st.onProc fun proc => proc.tryScheduleAndSwitch e.platform e.root e.core).state
    else
      let st := st.modifyProcess current fun process =>
        { process with quantum := process.quantum - 1 }
      if (st.proc.processes current).quantum ≤ 0 then
        let st := st.modifyProcess current fun process => { process with quantum := quantumMax }
        (st.onProc fun proc => ((proc.markScheduledOn e.core current).andThen
          fun _ proc => proc.tryScheduleAndSwitch e.platform e.root e.core).orElse
            fun _ proc => proc.switchToIdle e.platform e.root e.core).state
      else st

def handleInterrupt (handler : Option PortSlot) (st : SystemState) : SystemState :=
  match handler, (st.proc.cpus e.core).currentProcess with
  | some self, some current => (st.operationNotify e current self).state
  | _, _ => st

/-- The process a remote core left for this one, if it is still ready here. -/
def remoteTarget (target : Option ProcessId) (st : SystemState) : Option ProcessId :=
  target.filter fun id => (st.proc.processes id).coreAffinity.toNat = e.core ∧
    (st.proc.processes id).status = .ready ∧ (st.proc.processes id).isInReadyQueue

def handleIpiReschedule (st : SystemState) : SystemState :=
  match (st.proc.cpus e.core).currentProcess with
  | none => st
  | some current =>
    let target := (st.proc.cpus e.core).pendingRescheduleTarget
    let st := { st with proc := st.proc.modifyCpu e.core fun cpu =>
      { cpu with pendingRescheduleTarget := none } }
    let marked := if (st.proc.processes current).status = .ready ∨
        (st.proc.processes current).status = .idle then
      st.onProc fun proc => proc.markScheduledOn e.core current
    else .ok () st
    (marked.andThen fun _ st =>
      match st.remoteTarget e target with
      | some target =>
        st.onProc fun proc => proc.tryRemoteTargetAndSwitch e.platform e.root e.core target
      | none => st.onProc fun proc => proc.tryScheduleAndSwitch e.platform e.root e.core).state

def deliverFault (current : ProcessId) (st : SystemState) :
    Outcome CapabilityError SystemState Unit :=
  match e.resolver current with
  | none => .error .invalidDescriptor (st.setStatus current .blockedSuspend)
  | some self =>
    (st.operationFaultCall e current self).orElse fun error st =>
      .error error (st.setStatus current .blockedSuspend)

def handleFault (type : FaultType) (code archCode address : Word) (st : SystemState) :
    SystemState :=
  if (st.proc.cpus e.core).isIdle then st
  else
    match (st.proc.cpus e.core).currentProcess with
    | none => (st.onProc fun proc => proc.tryScheduleAndSwitch e.platform e.root e.core).state
    | some current =>
      let st := st.modifyContext current fun context =>
        { context with faultReason := type, faultCode := code, archFaultCode := archCode,
                       faultAddress := address }
      ((st.deliverFault e current).orElse fun _ st =>
        st.onProc fun proc => proc.tryScheduleAndSwitch e.platform e.root e.core).state

def handle (st : SystemState) : KernelEntry → SystemState
  | .capabilityCall invocation =>
    match (st.proc.cpus e.core).currentProcess with
    | none => st
    | some owner => st.handleCapabilityCall e owner invocation
  | .yield => st.handleYield e
  | .timer => st.handleTimer e
  | .interrupt handler => st.handleInterrupt e handler
  | .ipiReschedule => st.handleIpiReschedule e
  | .fault type code archCode address => st.handleFault e type code archCode address

end SystemState

end A9N.Kernel
