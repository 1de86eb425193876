import A9N.Hal.Context
import A9N.Kernel.Process.Scheduler

/-!
# Switching processes

`process_manager.cpp`. `core` is the core that executes the call, which is also the core whose
local variable the callers pass.
-/

namespace A9N.Kernel

open Hal

namespace ProcState

variable (p : Platform) (root : ProcessId → Word) (sendIpi : Nat → Bool)

def setCurrent (st : ProcState) (core : Nat) (process : ProcessId) (isIdle : Bool) : ProcState :=
  st.modifyCpu core fun cpu => { cpu with currentProcess := some process, isIdle := isIdle }

def switchToIdle (core : Nat) (st : ProcState) : Outcome KernelError ProcState Unit :=
  if (st.cpus core).isIdle then .ok () st
  else
    ((switchContext p root core (.idle core) st).transformError convertHalToKernelError).andThen
      fun _ st => .ok () (st.setCurrent core (.idle core) true)

def switchTo (core : Nat) (next : ProcessId) (st : ProcState) : Outcome HalError ProcState Unit :=
  switchContext p root core next (st.setCurrent core next false)

def trySchedule (core : Nat) (st : ProcState) : Outcome HalError ProcState Unit :=
  ((st.schedule core).transformError fun _ => HalError.tryAgain).andThen
    fun next st => st.switchTo p root core next

def tryScheduleAndSwitch (core : Nat) (st : ProcState) : Outcome KernelError ProcState Unit :=
  ((st.trySchedule p root core).orElse fun _ st =>
    (st.switchToIdle p root core).transformError fun _ => HalError.tryAgain).transformError
      convertHalToKernelError

def tryRemoteTargetAndSwitch (core : Nat) (target : ProcessId) (st : ProcState) :
    Outcome KernelError ProcState Unit :=
  if (st.processes target).status ≠ .ready ∨ ¬ (st.processes target).isInReadyQueue then
    .error .tryAgain st
  else
    ((st.removeProcess core target).transformError fun _ => KernelError.unexpected).andThen
      fun _ st => (st.switchTo p root core target).transformError convertHalToKernelError

def tryDirectScheduleAndSwitchLocal (core : Nat) (target : ProcessId) (st : ProcState) :
    Outcome KernelError ProcState Unit :=
  (((st.tryDirectSchedule core target).transformError fun _ => HalError.tryAgain).andThen
    fun next st => st.switchTo p root core next).transformError convertHalToKernelError

def markScheduledOn (core : Nat) (target : ProcessId) (st : ProcState) :
    Outcome KernelError ProcState Unit :=
  let st := st.modifyProcess target fun process => { process with quantum := quantumMax }
  if target = .idle core then
    .ok () (st.modifyProcess target fun process => { process with status := .idle })
  else
    let st := st.modifyProcess target fun process => { process with status := .ready }
    (st.addProcess core target).orElse fun e st =>
      if e = .processAlreadyExistsInQueue then .ok () st else .error .unexpected st

def markSuspended (core : Nat) (target : ProcessId) (st : ProcState) :
    Outcome KernelError ProcState Unit :=
  ((st.removeProcess core target).orElse fun e st =>
    if e = .processNotInQueue then .ok () st else .error KernelError.unexpected st).andThen
      fun _ st => .ok () (st.modifyProcess target fun process =>
        { process with status := .blockedSuspend })

def rescheduleCore (core : Nat) (st : ProcState) : Outcome KernelError ProcState Unit :=
  if p.smpEnabled then
    if sendIpi core then .ok () { st with ipis := core :: st.ipis } else .error .halError st
  else .error .unexpected st

def affinity (st : ProcState) (process : ProcessId) : Nat :=
  if p.smpEnabled then (st.processes process).coreAffinity.toNat else 0

def signalRemote (core : Nat) (target : ProcessId) (st : ProcState) :
    Outcome KernelError ProcState Unit :=
  let st := st.modifyCpu core fun cpu =>
    { cpu with pendingRescheduleTarget := cpu.pendingRescheduleTarget.or (some target) }
  st.rescheduleCore p sendIpi core

def tryDirectScheduleAndSwitch (current target : ProcessId) (st : ProcState) :
    Outcome KernelError ProcState Unit :=
  let core := st.affinity p current
  let targetCore := st.affinity p target
  if targetCore = core then st.tryDirectScheduleAndSwitchLocal p root core target
  else
    ((st.markScheduledOn targetCore target).andThen fun _ st =>
      st.signalRemote p sendIpi targetCore target).andThen fun _ st =>
        st.tryScheduleAndSwitch p root core

end ProcState

end A9N.Kernel
