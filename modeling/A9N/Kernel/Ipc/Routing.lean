import A9N.Kernel.Ipc.System
import A9N.Kernel.Process.Touches

/-!
# Routing wake-ups and switches to cores

The free functions at the end of `process_manager.cpp`, which take the running process and a
target and pick the manager of the right core, and `stop_process_for_reclamation`.
-/

namespace A9N.Kernel.ProcState

variable (p : Platform) (root : ProcessId → Word) (sendIpi : Nat → Bool)

def markScheduled (current target : ProcessId) (st : ProcState) :
    Outcome KernelError ProcState Unit :=
  let targetCore := st.affinity p target
  (st.markScheduledOn targetCore target).andThen fun _ st =>
    if p.smpEnabled ∧ targetCore ≠ st.affinity p current then
      st.signalRemote p sendIpi targetCore target
    else .ok () { st with unsignalled := target :: st.unsignalled }

/-- `process_manager::schedule_if_preempted_by` on `core`, the core that executes it. -/
def scheduleIfPreemptedBy (core : Nat) (target : ProcessId) (st : ProcState) :
    Outcome KernelError ProcState Unit :=
  match (st.cpus core).currentProcess with
  | none => .error .noSuchAddress st
  | some current =>
    if (st.processes target).priority ≤ (st.processes current).priority then .ok () st
    else
      (if (st.processes current).status = .ready then
        (st.addProcess core current).transformError fun _ => KernelError.unexpected
      else .ok () st).andThen fun _ st => st.tryScheduleAndSwitch p root core

def markScheduledWithPreemption (current target : ProcessId) (st : ProcState) :
    Outcome KernelError ProcState Unit :=
  let targetCore := st.affinity p target
  (st.markScheduledOn targetCore target).andThen fun _ st =>
    if p.smpEnabled ∧ targetCore ≠ st.affinity p current then
      st.signalRemote p sendIpi targetCore target
    else st.scheduleIfPreemptedBy p root targetCore target

def tryScheduleAndSwitchFor (current : ProcessId) (st : ProcState) :
    Outcome KernelError ProcState Unit :=
  st.tryScheduleAndSwitch p root (st.affinity p current)

def isRunningOnAssignedCore (target : ProcessId) (st : ProcState) : Bool :=
  let cpu := st.cpus (st.processes target).coreAffinity.toNat
  cpu.currentProcess = some target ∧ ¬ cpu.isIdle

def clearPending (core : Nat) (target : ProcessId) (st : ProcState) : ProcState :=
  st.modifyCpu core fun cpu =>
    if cpu.pendingRescheduleTarget = some target then { cpu with pendingRescheduleTarget := none }
    else cpu

namespace Touches

variable {p : Platform} {root : ProcessId → Word} {sendIpi : Nat → Bool} {may : Grant → Prop}
  {st st' : ProcState} {target : ProcessId}

theorem markScheduled (h : Touches may st st') (hwakes : Wakes may target) (hmay : may .interrupt)
    (current : ProcessId) :
    Touches may st (st'.markScheduled p sendIpi current target).state := by
  unfold ProcState.markScheduled
  apply (h.markScheduledOn hwakes _).andThen
  intro _ _ hmarked
  split_ifs
  · exact hmarked.signalRemote hmay _ target
  · exact hmarked.trans
      ⟨(Touches.refl _).process, (Touches.refl _).current, .inl ⟨rfl, rfl⟩, .inr hmay, rfl⟩

theorem scheduleIfPreemptedBy {core : Nat} (h : Touches may st st') (hcore : may (.current core))
    (hcurrent : ∀ current, (st'.cpus core).currentProcess = some current → may (.enter current))
    (target : ProcessId) :
    Touches may st (st'.scheduleIfPreemptedBy p root core target).state := by
  unfold ProcState.scheduleIfPreemptedBy
  split
  · exact h
  next current heq =>
    split
    · exact h
    · apply andThen
      · split
        · exact (h.addProcess (hcurrent current heq) core).transformError _
        · exact h
      · exact fun _ _ hadded => hadded.tryScheduleAndSwitch hcore

theorem markScheduledWithPreemption (h : Touches may st st') (hwakes : Wakes may target)
    (hfree : may .interrupt ∧ ∀ core id, may (.current core) ∧ may (.enter id))
    (current : ProcessId) :
    Touches may st (st'.markScheduledWithPreemption p root sendIpi current target).state := by
  unfold ProcState.markScheduledWithPreemption
  apply (h.markScheduledOn hwakes _).andThen
  intro _ _ hmarked
  split_ifs
  · exact hmarked.signalRemote hfree.1 _ target
  · exact hmarked.scheduleIfPreemptedBy (hfree.2 _ target).1 (fun id _ => (hfree.2 0 id).2) target

end Touches

end A9N.Kernel.ProcState

namespace A9N.Kernel.SystemState

open ProcState

variable (e : Entry)

/-- `service_pending_stop_request` of the core that runs `target`. It is waiting for the lock that
the requester holds, so nothing else happens on it before it answers. -/
def servicePendingStopRequest (core : Nat) (target : ProcessId) (st : SystemState) :
    Outcome KernelError SystemState Unit :=
  let stopped := st.onProc fun proc => proc.switchToIdle e.platform e.root core
  let resumed := match stopped.result with
    | .ok _ => if e.entersBySyscall core then stopped.state.restartSyscall e target else stopped.state
    | .error _ => stopped.state
  let cleared := { resumed with proc := resumed.proc.clearPending core target }
  match stopped.result with
  | .ok _ => .ok () cleared
  | .error _ => .error .unexpected cleared

def stopProcessForReclamation (target : ProcessId) (st : SystemState) :
    Outcome KernelError SystemState Unit :=
  let core := (st.proc.processes target).coreAffinity.toNat
  if cpuCountMax ≤ core then .error .illegalArgument st
  else
    (st.onProc fun proc => proc.markSuspended core target).andThen fun _ st =>
      let st := { st with proc := st.proc.clearPending core target }
      if (st.proc.cpus core).currentProcess ≠ some target ∨ (st.proc.cpus core).isIdle then .ok () st
      else if core = e.core then st.onProc fun proc => proc.switchToIdle e.platform e.root core
      else
        (st.onProc fun proc => proc.rescheduleCore e.platform e.sendIpi core).andThen
          fun _ st => st.servicePendingStopRequest e core target

end A9N.Kernel.SystemState
