import A9N.Kernel.Process.Process

/-!
# The ready queues of a core

`scheduler.cpp`: 32 intrusive doubly linked queues and a cached upper bound on the highest
one that is not empty.
-/

namespace A9N.Kernel

inductive SchedulerError
  | noProcess | invalidProcess | invalidPriority | cpuError | invalidCpuCore | processNotInQueue
  | processAlreadyExistsInQueue | canNotSchedule
deriving DecidableEq, Repr

namespace ProcState

def highestReady (st : ProcState) (core : Nat) : Nat → Option (Nat × ProcessId)
  | 0 => none
  | priority + 1 =>
    match (st.queue core priority).head with
    | some head => some (priority, head)
    | none => st.highestReady core priority

def popReady (st : ProcState) (core priority : Nat) (next : ProcessId) : ProcState :=
  let head := (st.processes next).next
  let st := match head with
    | some id => (st.setQueue core priority { st.queue core priority with head := some id }).modifyProcess
        id fun process => { process with preview := none }
    | none => st.setQueue core priority {}
  let st := st.setHighestPriority core (st.processes next).priority
  st.modifyProcess next fun process =>
    { process with next := none, preview := none, isInReadyQueue := false }

def schedule (st : ProcState) (core : Nat) : Outcome SchedulerError ProcState ProcessId :=
  match st.highestReady core (st.highestPriority core + 1).toNat with
  | none => .error .processNotInQueue st
  | some (priority, next) => .ok next (st.popReady core priority next)

def lowerBound (st : ProcState) (core : Nat) (limit : Int) : Nat → Int → Int
  | 0, bound => bound
  | steps + 1, bound =>
    if limit < bound ∧ (st.queue core bound.toNat).head = none then
      st.lowerBound core limit steps (bound - 1)
    else bound

def raiseBound (st : ProcState) (core : Nat) (priority : Int) : ProcState :=
  if st.highestPriority core < priority then st.setHighestPriority core priority else st

def addProcess (st : ProcState) (core : Nat) (target : ProcessId) :
    Outcome SchedulerError ProcState Unit :=
  let process := st.processes target
  if process.status ≠ .ready then .error .invalidProcess st
  else if process.priority < 0 ∨ (priorityMax : Int) ≤ process.priority then
    .error .invalidPriority st
  else if process.isInReadyQueue ∨ process.next.isSome ∨ process.preview.isSome then
    .error .processAlreadyExistsInQueue st
  else
    let priority := process.priority.toNat
    let st := st.raiseBound core process.priority
    match (st.queue core priority).head, (st.queue core priority).tail with
    | some head, some tail =>
      let st := st.modifyProcess tail fun process => { process with next := some target }
      let st := st.setQueue core priority { head := some head, tail := some target }
      .ok () (st.modifyProcess target fun process =>
        { process with preview := some tail, next := none, isInReadyQueue := true })
    | _, _ =>
      let st := st.setQueue core priority { head := some target, tail := some target }
      .ok () (st.modifyProcess target fun process => { process with isInReadyQueue := true })

def directBound (st : ProcState) (core : Nat) (priority : Int) : Int :=
  if priority < st.highestPriority core then
    st.lowerBound core priority (st.highestPriority core - priority).toNat (st.highestPriority core)
  else st.highestPriority core

def tryDirectSchedule (st : ProcState) (core : Nat) (target : ProcessId) :
    Outcome SchedulerError ProcState ProcessId :=
  let process := st.processes target
  if process.priority < 0 ∨ (priorityMax : Int) ≤ process.priority then .error .invalidPriority st
  else
    let bound := st.directBound core process.priority
    let st := st.setHighestPriority core bound
    if process.priority < bound then
      if process.status ≠ .ready then .error .invalidProcess st
      else (st.addProcess core target).andThen fun _ st => st.schedule core
    else if process.isInReadyQueue then .error .processAlreadyExistsInQueue st
    else .ok target st

/-- The walk of `remove_process` along one queue: the predecessor of `target`, if it is there. -/
def findInQueue (st : ProcState) (target : ProcessId) :
    Nat → Option ProcessId → Option ProcessId → Option (Option ProcessId)
  | 0, _, _ => none
  | _ + 1, _, none => none
  | steps + 1, previous, some current =>
    if current = target then some previous
    else st.findInQueue target steps (some current) (st.processes current).next

def findReady (st : ProcState) (core : Nat) (target : ProcessId) :
    Option (Nat × Option ProcessId) :=
  (List.range priorityMax).findSome? fun priority =>
    (st.findInQueue target (st.processCount + 1) none (st.queue core priority).head).map
      fun previous => (priority, previous)

def removeProcess (st : ProcState) (core : Nat) (target : ProcessId) :
    Outcome SchedulerError ProcState Unit :=
  match st.findReady core target with
  | none => .error .processNotInQueue st
  | some (priority, previous) =>
    let next := (st.processes target).next
    let st := match previous with
      | some id => st.modifyProcess id fun process => { process with next := next }
      | none => st.setQueue core priority { st.queue core priority with head := next }
    let st := match next with
      | some id => st.modifyProcess id fun process => { process with preview := previous }
      | none => st.setQueue core priority { st.queue core priority with tail := previous }
    let st := st.modifyProcess target fun process =>
      { process with next := none, preview := none, isInReadyQueue := false }
    .ok () (st.setHighestPriority core
      (st.lowerBound core 0 (st.highestPriority core).toNat (st.highestPriority core)))

end ProcState

end A9N.Kernel
