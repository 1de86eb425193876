import A9N.Framework.Queue
import A9N.Kernel.Process.Touches

/-!
# The ready queues as lists

`ReadyQueues` says which list of processes each ready queue holds. Every scheduler call is
described by what it does to these lists: `add_process` appends, `schedule` takes the first process
of the highest queue it scans, `remove_process` takes one out.
-/

namespace A9N.Kernel

namespace ProcState

structure SchedulerOnly (st st' : ProcState) : Prop where
  unlinked : ∀ id, (st'.processes id).unlinked = (st.processes id).unlinked
  currentProcess : ∀ core, (st'.cpus core).currentProcess = (st.cpus core).currentProcess
  isIdle : ∀ core, (st'.cpus core).isIdle = (st.cpus core).isIdle
  pending : ∀ core, (st'.cpus core).pendingRescheduleTarget =
    (st.cpus core).pendingRescheduleTarget
  hardwareRoot : st'.hardwareRoot = st.hardwareRoot
  owners : st'.owners = st.owners
  processCount : st'.processCount = st.processCount
  ipis : st'.ipis = st.ipis

namespace SchedulerOnly

variable {st st' st'' : ProcState}

theorem refl (st : ProcState) : SchedulerOnly st st :=
  ⟨fun _ => rfl, fun _ => rfl, fun _ => rfl, fun _ => rfl, rfl, rfl, rfl, rfl⟩

theorem trans (h : SchedulerOnly st st') (h' : SchedulerOnly st' st'') : SchedulerOnly st st'' where
  unlinked id := (h'.unlinked id).trans (h.unlinked id)
  currentProcess core := (h'.currentProcess core).trans (h.currentProcess core)
  isIdle core := (h'.isIdle core).trans (h.isIdle core)
  pending core := (h'.pending core).trans (h.pending core)
  hardwareRoot := h'.hardwareRoot.trans h.hardwareRoot
  owners := h'.owners.trans h.owners
  processCount := h'.processCount.trans h.processCount
  ipis := h'.ipis.trans h.ipis

section

variable (h : SchedulerOnly st st') (id : ProcessId)
include h

theorem fields : (st'.processes id).status = (st.processes id).status ∧
      (st'.processes id).priority = (st.processes id).priority ∧
      (st'.processes id).quantum = (st.processes id).quantum ∧
      (st'.processes id).coreAffinity = (st.processes id).coreAffinity := by
  have := h.unlinked id
  simp only [Process.unlinked, Process.mk.injEq] at this
  exact ⟨this.1, this.2.1, this.2.2.1, this.2.2.2.1⟩

theorem status : (st'.processes id).status = (st.processes id).status := (h.fields id).1

theorem priority : (st'.processes id).priority = (st.processes id).priority := (h.fields id).2.1

theorem coreAffinity : (st'.processes id).coreAffinity = (st.processes id).coreAffinity :=
  (h.fields id).2.2.2

end

theorem of_touches (h : Touches (fun grant => ∃ id, grant = .enter id) st st') :
    SchedulerOnly st st' where
  unlinked id := by
    have hprocess := h.process id
    simp [Process.unlinked, hprocess.priority, hprocess.coreAffinity,
      hprocess.status.resolve_right (by simp), hprocess.quantum.resolve_right (by simp)]
  currentProcess core := ((h.current core).resolve_right (by simp)).1
  isIdle core := ((h.current core).resolve_right (by simp)).2
  pending := (h.interrupts.resolve_right (by simp)).1
  hardwareRoot := (h.roots.resolve_right (by simp)).1
  owners := (h.roots.resolve_right (by simp)).2
  processCount := h.processCount
  ipis := (h.interrupts.resolve_right (by simp)).2.1

theorem setHighestPriority (h : SchedulerOnly st st') (core : Nat) (bound : Int) :
    SchedulerOnly st (st'.setHighestPriority core bound) :=
  h.trans (of_touches ((Touches.refl st').setHighestPriority core bound))

theorem popReady (st : ProcState) (core priority : Nat) (next : ProcessId) :
    SchedulerOnly st (st.popReady core priority next) :=
  of_touches ((Touches.refl st).popReady core priority next)

section

variable (st : ProcState) (core : Nat) (target : ProcessId)

theorem enqueue : SchedulerOnly st (st.enqueue core target) :=
  of_touches ((Touches.refl st).enqueue ⟨target, rfl⟩ core)

theorem addProcess : SchedulerOnly st (st.addProcess core target).state :=
  of_touches ((Touches.refl st).addProcess ⟨target, rfl⟩ core)

end

end SchedulerOnly

def setReady (ready : Nat → Nat → List ProcessId) (core priority : Nat) (l : List ProcessId) :
    Nat → Nat → List ProcessId :=
  fun core' priority' => if core' = core ∧ priority' = priority then l else ready core' priority'

/-- `ready core priority` is the list of processes in that queue. A process is flagged when it is
in a queue and has no links when it is in none; the queues hold existing processes only. -/
structure ReadyQueues (existing : Finset ProcessId) (st : ProcState)
    (ready : Nat → Nat → List ProcessId) : Prop where
  queued : ∀ core priority, Queued (fun id => (st.processes id).next)
    (fun id => (st.processes id).preview) (st.queue core priority).head
    (st.queue core priority).tail (ready core priority)
  flagged : ∀ id, (st.processes id).isInReadyQueue = true ↔ ∃ core priority, id ∈ ready core priority
  apart : ∀ {id core priority core' priority'}, id ∈ ready core priority →
    id ∈ ready core' priority' → core = core' ∧ priority = priority'
  loose : ∀ id, (st.processes id).isInReadyQueue = false →
    (st.processes id).next = none ∧ (st.processes id).preview = none
  valid : ∀ core priority, priorityMax ≤ priority → ready core priority = []
  mem_existing : ∀ {id core priority}, id ∈ ready core priority → id ∈ existing
  card : existing.card ≤ st.processCount

namespace ReadyQueues

variable {existing : Finset ProcessId} {st st' : ProcState} {ready : Nat → Nat → List ProcessId}

theorem length_le (h : ReadyQueues existing st ready) (core priority : Nat) :
    (ready core priority).length ≤ st.processCount := by
  have hsub : (ready core priority).toFinset ⊆ existing := by
    intro id hid
    rw [List.mem_toFinset] at hid
    exact h.mem_existing hid
  calc (ready core priority).length = (ready core priority).toFinset.card :=
        (List.toFinset_card_of_nodup (h.queued core priority).nodup).symm
    _ ≤ existing.card := Finset.card_le_card hsub
    _ ≤ st.processCount := h.card

theorem congr (h : ReadyQueues existing st ready)
    (hlinks : ∀ id, (st'.processes id).next = (st.processes id).next ∧
      (st'.processes id).preview = (st.processes id).preview ∧
      (st'.processes id).isInReadyQueue = (st.processes id).isInReadyQueue)
    (hqueue : ∀ core priority, st'.queue core priority = st.queue core priority)
    (hcount : st'.processCount = st.processCount) : ReadyQueues existing st' ready where
  queued core priority := by
    rw [hqueue]
    apply (h.queued core priority).congr
    · exact fun id _ => (hlinks id).1
    · exact fun id _ => (hlinks id).2.1
  flagged id := by
    rw [(hlinks id).2.2]
    exact h.flagged id
  apart := h.apart
  loose id hid := by
    rw [(hlinks id).2.2] at hid
    rw [(hlinks id).1, (hlinks id).2.1]
    exact h.loose id hid
  valid := h.valid
  mem_existing := h.mem_existing
  card := hcount ▸ h.card

end ReadyQueues

/-! ## Taking the head of a queue -/

theorem popReady_processes (st : ProcState) (core priority : Nat) (next id : ProcessId) :
    (st.popReady core priority next).processes id =
      if id = next then (st.processes next).unlinked
      else if (st.processes next).next = some id then { st.processes id with preview := none }
      else st.processes id := by
  unfold popReady
  cases hnext : (st.processes next).next <;>
    simp only [modifyProcess_processes, setQueue_processes, setHighestPriority_processes] <;>
    grind [Process.unlinked]

theorem popReady_queue (st : ProcState) (core priority core' priority' : Nat) (next : ProcessId) :
    (st.popReady core priority next).queue core' priority' =
      if core' = core ∧ priority' = priority then
        { head := (st.processes next).next,
          tail := if (st.processes next).next = none then none else (st.queue core priority).tail }
      else st.queue core' priority' := by
  unfold popReady
  cases hnext : (st.processes next).next <;> simp [setQueue_queue]

theorem popReady_highestPriority (st : ProcState) (core priority core' : Nat) (next : ProcessId) :
    (st.popReady core priority next).highestPriority core' =
      if core' = core then (st.processes next).priority else st.highestPriority core' := by
  unfold popReady
  cases hnext : (st.processes next).next with
  | none => simp [setHighestPriority_highestPriority]
  | some head =>
    by_cases hhead : next = head <;>
      simp [setHighestPriority_highestPriority, modifyProcess_processes, hhead]

variable {existing : Finset ProcessId} {st st' : ProcState} {ready : Nat → Nat → List ProcessId}

theorem mem_setReady {core priority core' priority' : Nat} {l : List ProcessId} {id : ProcessId} :
    id ∈ setReady ready core priority l core' priority' ↔
      (core' = core ∧ priority' = priority ∧ id ∈ l) ∨
        (¬ (core' = core ∧ priority' = priority) ∧ id ∈ ready core' priority') := by
  unfold setReady
  by_cases h : core' = core ∧ priority' = priority
  · simp [h]
  · rw [if_neg h]
    tauto

namespace ReadyQueues

section

variable (h : ReadyQueues existing st ready)
include h

theorem not_mem_of_unflagged {id : ProcessId}
    (hid : (st.processes id).isInReadyQueue = false) (core priority : Nat) :
    id ∉ ready core priority := by
  intro hmem
  have hflag := (h.flagged id).mpr ⟨core, priority, hmem⟩
  rw [hid] at hflag
  simp at hflag

theorem family :
    QueueFamily (fun id => (st.processes id).next) (fun id => (st.processes id).preview)
      (fun k : Nat × Nat => (st.queue k.1 k.2).head) (fun k => (st.queue k.1 k.2).tail)
      fun k => ready k.1 k.2 where
  queued k := h.queued k.1 k.2
  apart hin hin' := Prod.ext_iff.mpr (h.apart hin hin')

section

variable {core priority : Nat}

theorem replace {l : List ProcessId} {x : ProcessId}
    (hfamily : QueueFamily (fun id => (st'.processes id).next) (fun id => (st'.processes id).preview)
      (fun k : Nat × Nat => (st'.queue k.1 k.2).head) (fun k => (st'.queue k.1 k.2).tail)
      (Function.update (fun k => ready k.1 k.2) (core, priority) l))
    (hlinks : ∀ id, id ≠ x → id ∉ ready core priority →
      (st'.processes id).next = (st.processes id).next ∧
        (st'.processes id).preview = (st.processes id).preview)
    (hflag : ∀ id, id ≠ x → (st'.processes id).isInReadyQueue = (st.processes id).isInReadyQueue)
    (hx : (st'.processes x).isInReadyQueue = true ↔ x ∈ l)
    (hfrom : x ∈ ready core priority ∨ (st.processes x).isInReadyQueue = false)
    (hloose : x ∉ l → (st'.processes x).next = none ∧ (st'.processes x).preview = none)
    (hmem : ∀ id, id ≠ x → (id ∈ l ↔ id ∈ ready core priority))
    (hvalid : priority < priorityMax) (hexisting : x ∈ existing)
    (hcount : st'.processCount = st.processCount) :
    ReadyQueues existing st' (setReady ready core priority l) := by
  have hupdate : Function.update (fun k : Nat × Nat => ready k.1 k.2) (core, priority) l =
      fun k => setReady ready core priority l k.1 k.2 := by
    funext k
    simp [setReady, Function.update_apply, Prod.ext_iff]
  rw [hupdate] at hfamily
  -- membership of every other process is what it was
  have hsame : ∀ id, id ≠ x → ∀ core' priority',
      (id ∈ setReady ready core priority l core' priority' ↔ id ∈ ready core' priority') := by
    intro id hid core' priority'
    rw [mem_setReady, hmem id hid]
    by_cases hat : core' = core ∧ priority' = priority
    · simp [hat]
    · simp only [hat, not_false_eq_true, true_and]
      tauto
  have hself : ∀ core' priority', x ∈ setReady ready core priority l core' priority' → x ∈ l := by
    intro core' priority' hin
    rcases mem_setReady.mp hin with hin | ⟨hne, hin⟩
    · exact hin.2.2
    · rcases hfrom with hold | hun
      · exact absurd (h.apart hin hold) hne
      · exact absurd hin (h.not_mem_of_unflagged hun core' priority')
  refine ⟨fun core' priority' => hfamily.queued (core', priority'), ?_,
    fun {_ core1 priority1 core2 priority2} h1 h2 => Prod.ext_iff.mp
      (show (core1, priority1) = (core2, priority2) from hfamily.apart h1 h2),
    ?_, ?_, ?_, hcount ▸ h.card⟩
  · intro id
    by_cases hid : id = x
    · subst hid
      rw [hx]
      constructor
      · exact fun hl => ⟨core, priority, mem_setReady.mpr (.inl ⟨rfl, rfl, hl⟩)⟩
      · rintro ⟨core', priority', hin⟩
        exact hself core' priority' hin
    · rw [hflag id hid, h.flagged]
      simp only [hsame id hid]
  · intro id hid
    by_cases heq : id = x
    · subst heq
      apply hloose
      rw [← hx, hid]
      simp
    · rw [hflag id heq] at hid
      obtain ⟨hnext, hpreview⟩ := hlinks id heq (h.not_mem_of_unflagged hid core priority)
      rw [hnext, hpreview]
      exact h.loose id hid
  · intro core' priority' hp
    have hat : ¬ (core' = core ∧ priority' = priority) := by
      rintro ⟨-, rfl⟩
      omega
    rw [setReady, if_neg hat, h.valid core' priority' hp]
  · intro id core' priority' hin
    by_cases hid : id = x
    · exact hid ▸ hexisting
    · exact h.mem_existing ((hsame id hid core' priority').mp hin)

theorem priority_lt {id : ProcessId}
    (hmem : id ∈ ready core priority) : priority < priorityMax := by
  by_contra hp
  rw [h.valid core priority (by omega)] at hmem
  simp at hmem

theorem leave {x : ProcessId} (hin : x ∈ ready core priority) (hothers : ∀ id, id ≠ x →
      (st'.processes id).next = (if (st.processes x).preview = some id then (st.processes x).next
        else (st.processes id).next) ∧
      (st'.processes id).preview = (if (st.processes x).next = some id
        then (st.processes x).preview else (st.processes id).preview) ∧
      (st'.processes id).isInReadyQueue = (st.processes id).isInReadyQueue)
    (hx : (st'.processes x).next = none ∧ (st'.processes x).preview = none ∧
      (st'.processes x).isInReadyQueue = false)
    (hqueue : ∀ core' priority', st'.queue core' priority' =
      if core' = core ∧ priority' = priority then
        { head := if (st.processes x).preview = none then (st.processes x).next
            else (st.queue core priority).head,
          tail := if (st.processes x).next = none then (st.processes x).preview
            else (st.queue core priority).tail }
      else st.queue core' priority')
    (hcount : st'.processCount = st.processCount) :
    ReadyQueues existing st' (setReady ready core priority ((ready core priority).erase x)) := by
  have hnodup := (h.queued core priority).nodup
  apply h.replace (x := x)
  · apply h.family.remove (k := (core, priority)) hin
    · exact fun id hid => (hothers id hid).1
    · exact fun id hid => (hothers id hid).2.1
    · intro k
      simp only [hqueue, Prod.ext_iff]
      split <;> rfl
    · intro k
      simp only [hqueue, Prod.ext_iff]
      split <;> rfl
  · intro id hid hout
    obtain ⟨hright, hleft⟩ := h.family.link_ne (k := (core, priority)) hin hout
    rw [(hothers id hid).1, (hothers id hid).2.1, if_neg hleft, if_neg hright]
    exact ⟨rfl, rfl⟩
  · exact fun id hid => (hothers id hid).2.2
  · simp [hx, hnodup.mem_erase_iff]
  · exact .inl hin
  · exact fun _ => ⟨hx.1, hx.2.1⟩
  · exact fun id hid => List.mem_erase_of_ne hid
  · exact h.priority_lt hin
  · exact h.mem_existing hin
  · exact hcount

theorem popReady {next : ProcessId}
    {l : List ProcessId} (hready : ready core priority = next :: l) :
    ReadyQueues existing (st.popReady core priority next) (setReady ready core priority l) := by
  have hpreview : (st.processes next).preview = none :=
    ((h.queued core priority).links [] next l hready).1
  have herase : (ready core priority).erase next = l := by simp [hready]
  rw [← herase]
  apply h.leave (by simp [hready])
  · intro id hid
    rw [popReady_processes, if_neg hid, hpreview]
    split <;> simp
  · simp [popReady_processes, Process.unlinked]
  · simp [popReady_queue, hpreview]
  · exact (SchedulerOnly.popReady st core priority next).processCount

end

end

end ReadyQueues

/-! ## `schedule` -/

theorem highestReady_spec (h : ReadyQueues existing st ready) (core bound : Nat) :
    match st.highestReady core bound with
    | none => ∀ priority < bound, ready core priority = []
    | some (priority, next) => priority < bound ∧ (∃ l, ready core priority = next :: l) ∧
        ∀ above, priority < above → above < bound → ready core above = [] := by
  induction bound with
  | zero => simp [highestReady]
  | succ bound ih =>
    have hhead := (h.queued core bound).head_eq
    unfold highestReady
    cases hq : (st.queue core bound).head with
    | some next =>
      rw [hq] at hhead
      refine ⟨Nat.lt_succ_self bound, ?_, fun above h1 h2 => by omega⟩
      exact List.head?_eq_some_iff.mp hhead.symm
    | none =>
      have hempty : ready core bound = [] := (h.queued core bound).head_eq_none_iff.mp hq
      cases hr : st.highestReady core bound with
      | none =>
        rw [hr] at ih
        intro priority hp
        rcases Nat.lt_succ_iff_lt_or_eq.mp hp with hlt | rfl
        · exact ih priority hlt
        · exact hempty
      | some found =>
        rw [hr] at ih
        obtain ⟨hlt, hlist, habove⟩ := ih
        refine ⟨Nat.lt_succ_of_lt hlt, hlist, fun above h1 h2 => ?_⟩
        rcases Nat.lt_succ_iff_lt_or_eq.mp h2 with hlt' | rfl
        · exact habove above h1 hlt'
        · exact hempty

theorem schedule_spec (h : ReadyQueues existing st ready) (core : Nat) : (st.schedule core).Post
      (fun next st' => ∃ (priority : Nat) (l : List ProcessId), (priority : Int) ≤ st.highestPriority core ∧
        ready core priority = next :: l ∧
        (∀ above : Nat, priority < above → (above : Int) ≤ st.highestPriority core →
          ready core above = []) ∧
        st' = st.popReady core priority next)
      (fun _ st' => st' = st ∧
        ∀ priority : Nat, (priority : Int) ≤ st.highestPriority core → ready core priority = []) := by
  have hscan := highestReady_spec h core (st.highestPriority core + 1).toNat
  unfold schedule
  cases hr : st.highestReady core (st.highestPriority core + 1).toNat with
  | none =>
    rw [hr] at hscan
    exact ⟨rfl, fun priority hp => hscan priority (by omega)⟩
  | some found =>
    rw [hr] at hscan
    obtain ⟨hlt, ⟨l, hl⟩, habove⟩ := hscan
    refine ⟨found.1, l, by omega, hl, ?_, rfl⟩
    exact fun above h1 h2 => habove above h1 (by omega)

/-! ## `add_process` -/

theorem raiseBound_processes (st : ProcState) (core : Nat) (priority : Int) :
    (st.raiseBound core priority).processes = st.processes := by
  unfold raiseBound
  split <;> rfl

theorem raiseBound_highestPriority (st : ProcState) (core core' : Nat) (priority : Int) :
    (st.raiseBound core priority).highestPriority core' =
      if core' = core then max (st.highestPriority core) priority else st.highestPriority core' := by
  unfold raiseBound
  by_cases hlt : st.highestPriority core < priority
  · by_cases hcore : core' = core
    · simp [hlt, hcore, setHighestPriority_highestPriority, max_eq_right hlt.le]
    · simp [hlt, hcore, setHighestPriority_highestPriority]
  · by_cases hcore : core' = core
    · simp [hlt, hcore, max_eq_left (not_lt.mp hlt)]
    · simp [hlt, hcore]

theorem enqueue_highestPriority (st : ProcState) (core core' : Nat) (target : ProcessId) :
    (st.enqueue core target).highestPriority core' =
      if core' = core then max (st.highestPriority core) (st.processes target).priority
      else st.highestPriority core' := by
  rw [← raiseBound_highestPriority]
  unfold enqueue
  dsimp only
  split <;> simp

theorem enqueue_fields {core priority : Nat} {target : ProcessId}
    (hpriority : (st.processes target).priority.toNat = priority)
    (hends : (st.queue core priority).head = none ↔ (st.queue core priority).tail = none)
    (hloose : (st.processes target).next = none ∧ (st.processes target).preview = none) :
    (∀ id, ((st.enqueue core target).processes id).next = if id = target then none
      else if (st.queue core priority).tail = some id then some target
      else (st.processes id).next) ∧
    (∀ id, ((st.enqueue core target).processes id).preview =
      if id = target then (st.queue core priority).tail else (st.processes id).preview) ∧
    (∀ id, ((st.enqueue core target).processes id).isInReadyQueue =
      if id = target then true else (st.processes id).isInReadyQueue) ∧
    ∀ core' priority', (st.enqueue core target).queue core' priority' =
      if core' = core ∧ priority' = priority then
        { head := (st.queue core priority).head.or (some target), tail := some target }
      else st.queue core' priority' := by
  unfold enqueue
  dsimp only
  rw [hpriority]
  cases hhead : (st.queue core priority).head with
  | none =>
    simp only [modifyProcess_processes, modifyProcess_queue, setQueue_processes, setQueue_queue,
      raiseBound_processes, raiseBound_queue]
    grind
  | some head =>
    cases hlast : (st.queue core priority).tail with
    | none => simp [hends.mpr hlast] at hhead
    | some tail =>
      simp only [modifyProcess_processes, modifyProcess_queue, setQueue_processes, setQueue_queue,
        raiseBound_processes, raiseBound_queue]
      grind

theorem ReadyQueues.enqueue (h : ReadyQueues existing st ready) {core : Nat} {target : ProcessId}
    (hflag : (st.processes target).isInReadyQueue = false)
    (hpriority : (st.processes target).priority < priorityMax) (hexisting : target ∈ existing) :
    ReadyQueues existing (st.enqueue core target)
      (setReady ready core (st.processes target).priority.toNat
        (ready core (st.processes target).priority.toNat ++ [target])) := by
  generalize hp : (st.processes target).priority.toNat = priority
  have hq := h.queued core priority
  have hout := h.not_mem_of_unflagged hflag
  obtain ⟨hnext, hpreview, hflags, hqueue⟩ := enqueue_fields hp
    (hq.head_eq_none_iff.trans hq.tail_eq_none_iff.symm) (h.loose target hflag)
  apply h.replace (x := target)
  · apply h.family.push (k := (core, priority)) fun k => hout k.1 k.2
    · exact hnext
    · exact hpreview
    · intro k
      simp only [hqueue, Prod.ext_iff]
      split <;> rfl
    · intro k
      simp only [hqueue, Prod.ext_iff]
      split <;> rfl
  · intro id hid hnot
    rw [hnext, hpreview, if_neg hid, if_neg hid,
      if_neg (h.family.tail_ne (k := (core, priority)) hnot)]
    exact ⟨rfl, rfl⟩
  · intro id hid
    rw [hflags, if_neg hid]
  · simp [hflags]
  · exact .inr hflag
  · simp
  · intro id hid
    simp [hid]
  · have : 0 < priorityMax := by decide
    omega
  · exact hexisting
  · exact (SchedulerOnly.enqueue st core target).processCount

/-! ## `remove_process` -/

theorem findInQueue_eq {head tail : Option ProcessId} {l1 l2 : List ProcessId}
    (hq : Queued (fun id => (st.processes id).next) (fun id => (st.processes id).preview) head tail
      (l1 ++ l2)) (target : ProcessId) (steps : Nat) (hsteps : l2.length < steps) :
    st.findInQueue target steps l1.getLast? l2.head? =
      if target ∈ l2 then some (st.processes target).preview else none := by
  induction steps generalizing l1 l2 with
  | zero => omega
  | succ steps ih =>
    cases l2 with
    | nil => simp [findInQueue]
    | cons current l2 =>
      obtain ⟨hpreview, hnext⟩ := hq.links l1 current l2 rfl
      simp only [List.head?_cons, findInQueue]
      by_cases hcurrent : current = target
      · subst hcurrent
        simp [hpreview]
      · rw [if_neg hcurrent, hnext]
        have hq' : Queued (fun id => (st.processes id).next)
            (fun id => (st.processes id).preview) head tail ((l1 ++ [current]) ++ l2) := by
          simpa using hq
        simpa [Ne.symm hcurrent] using ih hq' (by simpa using hsteps)

theorem findReady_spec (h : ReadyQueues existing st ready) (core : Nat) (target : ProcessId) :
    match st.findReady core target with
    | none => ∀ priority, target ∉ ready core priority
    | some (priority, previous) =>
      target ∈ ready core priority ∧ previous = (st.processes target).preview := by
  have hwalk : ∀ priority, st.findInQueue target (st.processCount + 1) none
      (st.queue core priority).head = if target ∈ ready core priority then
        some (st.processes target).preview else none := by
    intro priority
    have hq : Queued _ _ _ _ ([] ++ ready core priority) := h.queued core priority
    rw [hq.head_eq]
    exact findInQueue_eq hq target _ (Nat.lt_succ_of_le (h.length_le core priority))
  unfold findReady
  simp only [hwalk]
  split
  next hnone =>
      intro priority hmem
      rw [List.findSome?_eq_none_iff] at hnone
      have := hnone priority (List.mem_range.mpr (h.priority_lt hmem))
      simp [hmem] at this
  next priority previous hsome =>
      obtain ⟨other, -, hother⟩ := List.exists_of_findSome?_eq_some hsome
      by_cases hmem : target ∈ ready core other
      · rw [if_pos hmem] at hother
        simp only [Option.map_some, Option.some.injEq, Prod.mk.injEq] at hother
        obtain ⟨rfl, rfl⟩ := hother
        exact ⟨hmem, rfl⟩
      · simp [hmem] at hother

def dequeue (st : ProcState) (core priority : Nat) (target : ProcessId) : ProcState :=
  let previous := (st.processes target).preview
  let next := (st.processes target).next
  let left := match previous with
    | some id => st.modifyProcess id fun process => { process with next := next }
    | none => st.setQueue core priority { st.queue core priority with head := next }
  let right := match next with
    | some id => left.modifyProcess id fun process => { process with preview := previous }
    | none => left.setQueue core priority { left.queue core priority with tail := previous }
  right.modifyProcess target fun process =>
    { process with next := none, preview := none, isInReadyQueue := false }

section

variable (st : ProcState)

theorem SchedulerOnly.dequeue (core priority : Nat) (target : ProcessId) :
    SchedulerOnly st (st.dequeue core priority target) := by
  apply of_touches
  unfold ProcState.dequeue
  refine Touches.links ?_ _ _ fun _ => ⟨rfl, by simp⟩
  exact ((Touches.refl st).linkNext core priority _ _).linkPreview core priority
    (st.processes target).preview (st.processes target).next

theorem dequeue_highestPriority (core priority core' : Nat) (target : ProcessId) :
    (st.dequeue core priority target).highestPriority core' = st.highestPriority core' := by
  unfold dequeue
  cases (st.processes target).preview <;> cases (st.processes target).next <;> simp

theorem dequeue_queue (core priority core' priority' : Nat) (target : ProcessId) :
    (st.dequeue core priority target).queue core' priority' =
      if core' = core ∧ priority' = priority then
        { head := if (st.processes target).preview = none then (st.processes target).next
            else (st.queue core priority).head,
          tail := if (st.processes target).next = none then (st.processes target).preview
            else (st.queue core priority).tail }
      else st.queue core' priority' := by
  unfold dequeue
  by_cases hat : core' = core ∧ priority' = priority
  · obtain ⟨rfl, rfl⟩ := hat
    cases (st.processes target).preview <;> cases (st.processes target).next <;>
      simp [setQueue_queue]
  · cases (st.processes target).preview <;> cases (st.processes target).next <;>
      simp [setQueue_queue, hat]

theorem dequeue_processes (core priority : Nat) (target id : ProcessId) (hne : id ≠ target) :
    ((st.dequeue core priority target).processes id).next =
        (if (st.processes target).preview = some id then (st.processes target).next
          else (st.processes id).next) ∧
      ((st.dequeue core priority target).processes id).preview =
        (if (st.processes target).next = some id then (st.processes target).preview
          else (st.processes id).preview) ∧
      ((st.dequeue core priority target).processes id).isInReadyQueue =
        (st.processes id).isInReadyQueue := by
  unfold dequeue
  cases (st.processes target).preview <;> cases (st.processes target).next <;>
    simp only [modifyProcess_processes, setQueue_processes] <;> grind

theorem dequeue_target (core priority : Nat) (target : ProcessId) :
    ((st.dequeue core priority target).processes target).next = none ∧
      ((st.dequeue core priority target).processes target).preview = none ∧
      ((st.dequeue core priority target).processes target).isInReadyQueue = false := by
  unfold dequeue
  simp [modifyProcess_processes]

end

theorem ReadyQueues.dequeue (h : ReadyQueues existing st ready) {core priority : Nat}
    {target : ProcessId} (hmem : target ∈ ready core priority) :
    ReadyQueues existing (st.dequeue core priority target)
      (setReady ready core priority ((ready core priority).erase target)) :=
  h.leave hmem (dequeue_processes st core priority target) (dequeue_target st core priority target)
    (fun core' priority' => dequeue_queue st core priority core' priority' target)
    (SchedulerOnly.dequeue st core priority target).processCount

/-- `remove_process` fails on a process that is in none of the core's queues and otherwise takes
it out of its queue. -/
theorem removeProcess_spec (h : ReadyQueues existing st ready) (core : Nat) (target : ProcessId) :
    (st.removeProcess core target).Post (fun _ st' => ∃ priority, target ∈ ready core priority ∧
        st' = (st.dequeue core priority target).setHighestPriority core
          ((st.dequeue core priority target).lowerBound core 0 (st.highestPriority core).toNat
            (st.highestPriority core)))
      (fun e st' => e = .processNotInQueue ∧ st' = st ∧
        ∀ priority, target ∉ ready core priority) := by
  have hfound := findReady_spec h core target
  unfold removeProcess
  cases hr : st.findReady core target with
  | none =>
    rw [hr] at hfound
    exact ⟨rfl, rfl, hfound⟩
  | some found =>
    obtain ⟨priority, previous⟩ := found
    rw [hr] at hfound
    obtain ⟨hmem, hprevious⟩ := hfound
    refine ⟨priority, hmem, ?_⟩
    rw [← dequeue_highestPriority st core priority core target]
    subst hprevious
    rfl

/-! ## The cached bound -/

theorem lowerBound_empty (h : ReadyQueues existing st ready) (core : Nat) (limit : Int)
    (steps : Nat) (bound : Int) (priority : Nat)
    (hlow : st.lowerBound core limit steps bound < priority) (hhigh : (priority : Int) ≤ bound) :
    ready core priority = [] := by
  induction steps generalizing bound with
  | zero =>
    unfold lowerBound at hlow
    omega
  | succ steps ih =>
    unfold lowerBound at hlow
    split at hlow
    next hstep =>
        by_cases heq : (priority : Int) = bound
        · have hindex : bound.toNat = priority := by omega
          rw [hindex] at hstep
          exact (h.queued core priority).head_eq_none_iff.mp hstep.2
        · exact ih (bound - 1) hlow (by omega)
    · omega

theorem lowerBound_stops (st : ProcState) (core : Nat) (limit : Int) (steps : Nat) (bound : Int)
    (hsteps : bound - limit ≤ steps) :
    st.lowerBound core limit steps bound ≤ limit ∨
      (st.queue core (st.lowerBound core limit steps bound).toNat).head ≠ none := by
  induction steps generalizing bound with
  | zero =>
    left
    unfold lowerBound
    omega
  | succ steps ih =>
    unfold lowerBound
    split
    · exact ih (bound - 1) (by push_cast at hsteps; omega)
    next hstep =>
        rw [not_and_or] at hstep
        rcases hstep with hlimit | hhead
        · left
          omega
        · exact .inr hhead

end ProcState

end A9N.Kernel
