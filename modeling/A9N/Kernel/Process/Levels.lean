import A9N.Kernel.Process.ReadyQueues

/-!
# The scheduler as a family of FIFO sequences

What the ready queues stand for: one sequence of processes for each core and each of the 32 levels.
The scheduler's state represents such a family if the links and flags are those of its sequences,
each process is in the sequence of its priority, and the cached bound is not below any sequence that
is not empty.
-/

namespace A9N.Kernel

namespace ProcState

variable {existing : Finset ProcessId} {st st' : ProcState} {ready : Nat → Nat → List ProcessId}

structure Represents (existing : Finset ProcessId) (st : ProcState)
    (ready : Nat → Nat → List ProcessId) : Prop where
  queues : ReadyQueues existing st ready
  priority : ∀ {core priority id}, id ∈ ready core priority →
    (st.processes id).priority = (priority : Nat)
  bound : ∀ core (priority : Nat), st.highestPriority core < priority → ready core priority = []

structure OutsideScheduler (st st' : ProcState) : Prop where
  links : ∀ id, (st'.processes id).next = (st.processes id).next ∧
    (st'.processes id).preview = (st.processes id).preview ∧
    (st'.processes id).isInReadyQueue = (st.processes id).isInReadyQueue
  priority : ∀ id, (st.processes id).isInReadyQueue = true →
    (st'.processes id).priority = (st.processes id).priority
  scheduler : ∀ core, (st'.cpus core).scheduler = (st.cpus core).scheduler
  processCount : st'.processCount = st.processCount

namespace Represents

section

variable (h : Represents existing st ready)
include h

theorem flagged {core priority : Nat} {id : ProcessId}
    (hid : id ∈ ready core priority) : (st.processes id).isInReadyQueue = true :=
  (h.queues.flagged id).mpr ⟨core, priority, hid⟩

theorem empty_above {core priority : Nat}
    (habove : ∀ above : Nat, priority < above → (above : Int) ≤ st.highestPriority core →
      ready core above = []) {above : Nat} (hlt : priority < above) : ready core above = [] := by
  by_cases hle : (above : Int) ≤ st.highestPriority core
  · exact habove above hlt hle
  · exact h.bound core above (by omega)

theorem outside (hframe : st.OutsideScheduler st') :
    Represents existing st' ready where
  queues := h.queues.congr hframe.links
    (fun core priority => by rw [ProcState.queue, ProcState.queue, hframe.scheduler core])
    hframe.processCount
  priority hid := by
    rw [hframe.priority _ (h.flagged hid)]
    exact h.priority hid
  bound core priority hlt := by
    rw [ProcState.highestPriority, hframe.scheduler core] at hlt
    exact h.bound core priority hlt

theorem popReady {core priority : Nat} {next : ProcessId}
    {l : List ProcessId} (hready : ready core priority = next :: l)
    (habove : ∀ above : Nat, priority < above → (above : Int) ≤ st.highestPriority core →
      ready core above = []) :
    Represents existing (st.popReady core priority next) (setReady ready core priority l) := by
  have hin : next ∈ ready core priority := by simp [hready]
  have hsub : ∀ {core' priority' id}, id ∈ setReady ready core priority l core' priority' →
      id ∈ ready core' priority' := by
    intro core' priority' id hid
    rcases mem_setReady.mp hid with ⟨rfl, rfl, hl⟩ | ⟨-, hid⟩
    · simp [hready, hl]
    · exact hid
  refine ⟨h.queues.popReady hready, ?_, ?_⟩
  · intro core' priority' id hid
    rw [(SchedulerOnly.popReady st core priority next).priority]
    exact h.priority (hsub hid)
  · intro core' priority' hlt
    rw [List.eq_nil_iff_forall_not_mem]
    intro id hid
    have hold := hsub hid
    rw [popReady_highestPriority, h.priority hin] at hlt
    by_cases hcore : core' = core
    · -- the new bound is the priority of the queue, and the queues above it are empty
      subst hcore
      rw [if_pos rfl] at hlt
      simp [h.empty_above habove (show priority < priority' by omega)] at hold
    · rw [if_neg hcore] at hlt
      simp [h.bound core' priority' hlt] at hold

theorem enqueue {core : Nat} {target : ProcessId}
    (hexisting : target ∈ existing) (hflag : (st.processes target).isInReadyQueue = false)
    (hnonneg : 0 ≤ (st.processes target).priority)
    (hlt : (st.processes target).priority < priorityMax) :
    Represents existing (st.enqueue core target)
      (setReady ready core (st.processes target).priority.toNat
        (ready core (st.processes target).priority.toNat ++ [target])) := by
  refine ⟨h.queues.enqueue hflag hlt hexisting, ?_, ?_⟩
  · intro core' priority' id hid
    rw [(SchedulerOnly.enqueue st core target).priority]
    rcases mem_setReady.mp hid with ⟨rfl, rfl, hl⟩ | ⟨-, hid⟩
    · rw [List.mem_append, List.mem_singleton] at hl
      rcases hl with hl | rfl
      · exact h.priority hl
      · omega
    · exact h.priority hid
  · intro core' priority' hbound
    rw [enqueue_highestPriority] at hbound
    by_cases hcore : core' = core
    · subst hcore
      rw [if_pos rfl] at hbound
      have hne : ¬ (core' = core' ∧ priority' = (st.processes target).priority.toNat) := by
        intro hat
        omega
      rw [setReady, if_neg hne]
      exact h.bound core' priority' (by omega)
    · rw [if_neg hcore] at hbound
      rw [setReady, if_neg (fun hat => hcore hat.1)]
      exact h.bound core' priority' hbound

theorem setHighestPriority (core : Nat) {bound : Int}
    (hempty : ∀ priority : Nat, bound < priority → (priority : Int) ≤ st.highestPriority core →
      ready core priority = []) :
    Represents existing (st.setHighestPriority core bound) ready where
  queues :=
    { queued := fun core' priority' => by
        rw [setHighestPriority_queue]
        exact h.queues.queued core' priority'
      flagged := h.queues.flagged
      apart := h.queues.apart
      loose := h.queues.loose
      valid := h.queues.valid
      mem_existing := h.queues.mem_existing
      card := h.queues.card }
  priority := h.priority
  bound core' priority' hlt := by
    rw [setHighestPriority_highestPriority] at hlt
    by_cases hcore : core' = core
    · subst hcore
      rw [if_pos rfl] at hlt
      by_cases hle : (priority' : Int) ≤ st.highestPriority core'
      · exact hempty priority' hlt hle
      · exact h.bound core' priority' (by omega)
    · rw [if_neg hcore] at hlt
      exact h.bound core' priority' hlt

end

theorem setReady_erase_sublist (ready : Nat → Nat → List ProcessId) (core priority : Nat)
    (target : ProcessId) (core' priority' : Nat) :
    (setReady ready core priority ((ready core priority).erase target) core' priority').Sublist
      (ready core' priority') := by
  by_cases hat : core' = core ∧ priority' = priority
  · obtain ⟨rfl, rfl⟩ := hat
    rw [setReady, if_pos ⟨rfl, rfl⟩]
    exact List.erase_sublist
  · rw [setReady, if_neg hat]

section

variable (h : Represents existing st ready)
include h

theorem dequeue {core priority : Nat} {target : ProcessId} (hmem : target ∈ ready core priority) :
    Represents existing (st.dequeue core priority target)
      (setReady ready core priority ((ready core priority).erase target)) := by
  have hsub := setReady_erase_sublist ready core priority target
  refine ⟨h.queues.dequeue hmem, ?_, ?_⟩
  · intro core' priority' id hid
    rw [(SchedulerOnly.dequeue st core priority target).priority]
    exact h.priority ((hsub core' priority').subset hid)
  · intro core' priority' hlt
    rw [dequeue_highestPriority] at hlt
    have := hsub core' priority'
    rwa [h.bound core' priority' hlt, List.sublist_nil] at this

theorem lowered (core : Nat) (limit : Int) (steps : Nat) :
    Represents existing (st.setHighestPriority core
      (st.lowerBound core limit steps (st.highestPriority core))) ready :=
  h.setHighestPriority core fun other hlow hhigh =>
    lowerBound_empty h.queues core limit _ _ other hlow hhigh

theorem directBound (core : Nat) (priority : Int) :
    Represents existing (st.setHighestPriority core (st.directBound core priority)) ready := by
  apply h.setHighestPriority
  intro other hlow hhigh
  rw [ProcState.directBound] at hlow
  split at hlow
  · exact lowerBound_empty h.queues core priority _ _ other hlow hhigh
  · omega

end

end Represents

end ProcState

end A9N.Kernel
