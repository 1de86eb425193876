import A9N.Kernel.Types

/-!
# Processes and cores

`process.hpp`, `cpu.hpp` and the data of `scheduler.hpp`. A process is named by the address of its
control block; each core also has its own idle process.
-/

namespace A9N.Kernel

inductive ProcessStatus
  | unused | ready | blockedSend | blockedReceive | blockedReply | blockedWait | blockedSuspend
  | blockedFault | idle
deriving DecidableEq, Repr

inductive ProcessId
  | user (address : Word)
  | idle (core : Nat)
deriving DecidableEq, Repr

def quantumMax : Int := 10
def priorityMax : Nat := 32
def cpuCountMax : Nat := 64

structure Process where
  status : ProcessStatus := .unused
  priority : Int := 0
  quantum : Int := 0
  coreAffinity : Word := 0
  preview : Option ProcessId := none
  next : Option ProcessId := none
  isInReadyQueue : Bool := false
deriving DecidableEq, Repr

structure ProcessQueue where
  head : Option ProcessId := none
  tail : Option ProcessId := none
deriving DecidableEq, Repr

structure Scheduler where
  queue : Nat → ProcessQueue := fun _ => {}
  highestPriority : Int := 31

/-- `cpu_local_variable`. -/
structure Cpu where
  currentProcess : Option ProcessId := none
  isIdle : Bool := false
  pendingRescheduleTarget : Option ProcessId := none
  scheduler : Scheduler := {}

/-- Processes, cores, the translation root each core has loaded and the owner word of each root
table. `processCount` bounds the number of processes that exist, `ipis` records the cores a
reschedule interrupt was sent to, the latest first. `unsignalled` is a ghost: it records the
processes that were queued without one. -/
structure ProcState where
  processes : ProcessId → Process
  cpus : Nat → Cpu
  hardwareRoot : Nat → Word
  owners : Word → Word
  processCount : Nat
  ipis : List Nat := []
  unsignalled : List ProcessId := []

namespace ProcState

def setProcess (st : ProcState) (id : ProcessId) (process : Process) : ProcState :=
  { st with processes := Function.update st.processes id process }

def modifyProcess (st : ProcState) (id : ProcessId) (f : Process → Process) : ProcState :=
  st.setProcess id (f (st.processes id))

def modifyCpu (st : ProcState) (core : Nat) (f : Cpu → Cpu) : ProcState :=
  { st with cpus := Function.update st.cpus core (f (st.cpus core)) }

def modifyScheduler (st : ProcState) (core : Nat) (f : Scheduler → Scheduler) : ProcState :=
  st.modifyCpu core fun cpu => { cpu with scheduler := f cpu.scheduler }

def queue (st : ProcState) (core : Nat) (priority : Nat) : ProcessQueue :=
  (st.cpus core).scheduler.queue priority

def setQueue (st : ProcState) (core priority : Nat) (queue : ProcessQueue) : ProcState :=
  st.modifyScheduler core fun scheduler =>
    { scheduler with queue := Function.update scheduler.queue priority queue }

def highestPriority (st : ProcState) (core : Nat) : Int :=
  (st.cpus core).scheduler.highestPriority

def setHighestPriority (st : ProcState) (core : Nat) (priority : Int) : ProcState :=
  st.modifyScheduler core fun scheduler => { scheduler with highestPriority := priority }

section Fields

variable (st : ProcState) (id other : ProcessId) (f : Process → Process)
  (core core' priority priority' : Nat) (q : ProcessQueue) (bound : Int)

theorem modifyProcess_processes : (st.modifyProcess id f).processes other =
    if other = id then f (st.processes id) else st.processes other := by
  by_cases h : other = id <;> simp [modifyProcess, setProcess, h]

@[simp] theorem modifyProcess_cpus : (st.modifyProcess id f).cpus = st.cpus := rfl

@[simp] theorem modifyProcess_queue :
    (st.modifyProcess id f).queue core priority = st.queue core priority := rfl

@[simp] theorem modifyProcess_highestPriority :
    (st.modifyProcess id f).highestPriority core = st.highestPriority core := rfl

@[simp] theorem setQueue_processes : (st.setQueue core priority q).processes = st.processes := rfl

theorem setQueue_queue : (st.setQueue core priority q).queue core' priority' =
    if core' = core ∧ priority' = priority then q else st.queue core' priority' := by
  by_cases hcore : core' = core <;> by_cases hpriority : priority' = priority <;>
    simp [setQueue, queue, modifyScheduler, modifyCpu, hcore, hpriority]

@[simp] theorem setQueue_highestPriority :
    (st.setQueue core priority q).highestPriority core' = st.highestPriority core' := by
  by_cases hcore : core' = core <;>
    simp [setQueue, highestPriority, modifyScheduler, modifyCpu, hcore]

@[simp] theorem setHighestPriority_processes :
    (st.setHighestPriority core bound).processes = st.processes := rfl

@[simp] theorem setHighestPriority_queue :
    (st.setHighestPriority core bound).queue core' priority = st.queue core' priority := by
  by_cases hcore : core' = core <;>
    simp [setHighestPriority, queue, modifyScheduler, modifyCpu, hcore]

theorem setHighestPriority_highestPriority :
    (st.setHighestPriority core bound).highestPriority core' =
      if core' = core then bound else st.highestPriority core' := by
  by_cases hcore : core' = core <;>
    simp [setHighestPriority, highestPriority, modifyScheduler, modifyCpu, hcore]

end Fields

end ProcState

end A9N.Kernel
