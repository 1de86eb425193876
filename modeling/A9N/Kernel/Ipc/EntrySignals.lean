import A9N.Kernel.Ipc.OperationEffects
import A9N.Kernel.Ipc.Signals

/-!
# Every entry signals the cores it wakes processes on

Whoever an entry puts into a ready queue of another core, it announces there. The one exception is
`complete_revoked_wait`, which passes the woken process for the running one, so that a waiter of
another core is never announced.
-/

namespace A9N.Kernel

namespace SystemState

open ProcState

def Heralds (e : Entry) (omits : ProcessId → Prop) (start st : SystemState) : Prop :=
  Heralded e.platform e.sendIpi e.core omits start.proc st.proc

/-- The kernel runs for a process of the executing core, and on a single processor on core 0. -/
structure RunsAtHome (e : Entry) (st : SystemState) : Prop where
  single : e.platform.smpEnabled = false → e.core = 0
  current : ∀ id, (st.proc.cpus e.core).currentProcess = some id →
    st.proc.affinity e.platform id = e.core

variable {e : Entry} {omits : ProcessId → Prop} {start st st' : SystemState}
  {owner target : ProcessId}

namespace Heralds

theorem refl (st : SystemState) : Heralds e omits st st := Heralded.refl st.proc

theorem congr (h : Heralds e omits start st) (hproc : st'.proc = st.proc) :
    Heralds e omits start st' := by
  unfold Heralds
  rwa [hproc]

section

variable {ε α : Type} (h : Heralds e omits start st) {f : ProcState → Outcome ε ProcState α}
include h

theorem onProc
    (hf : Heralded e.platform e.sendIpi e.core omits st.proc (f st.proc).state) :
    Heralds e omits start (st.onProc f).state :=
  Heralded.trans h hf

theorem quietly (hf : Enters (fun _ => False) st.proc (f st.proc).state) :
    Heralds e omits start (st.onProc f).state :=
  h.onProc (Heralded.quiet hf)

end

theorem affinity (h : Heralds e omits start st) (id : ProcessId) :
    st.proc.affinity e.platform id = start.proc.affinity e.platform id :=
  affinity_congr (Heralded.affinity h id)

theorem modifyProcess (h : Heralds e omits start st) (id : ProcessId) (f : Process → Process)
    (hf : ∀ process, (f process).coreAffinity = process.coreAffinity ∧
      (f process).isInReadyQueue = process.isInReadyQueue) :
    Heralds e omits start (st.modifyProcess id f) := by
  have hsame : ∀ other, ((st.modifyProcess id f).proc.processes other).coreAffinity =
      (st.proc.processes other).coreAffinity ∧
        ((st.modifyProcess id f).proc.processes other).isInReadyQueue =
          (st.proc.processes other).isInReadyQueue := by
    intro other
    by_cases hother : other = id <;>
      simp [SystemState.modifyProcess, modifyProcess_processes, hother, hf]
  exact Heralded.trans h (.quiet ⟨fun other => (hsame other).1, rfl, rfl, fun other hflag =>
    .inl ((hsame other).2 ▸ hflag)⟩)

theorem modifyCpu (h : Heralds e omits start st) (core : Nat) (f : Cpu → Cpu) :
    Heralds e omits start { st with proc := st.proc.modifyCpu core f } :=
  Heralded.trans h (.quiet ⟨fun _ => rfl, rfl, rfl, fun _ hid => .inl hid⟩)

def invariant (e : Entry) (omits : ProcessId → Prop) (start : SystemState) :
    Invariant fun _ => True where
  holds := Heralds e omits start
  write h _ hproc := h.congr hproc
  status h _ := h.modifyProcess _ _ fun _ => ⟨rfl, rfl⟩

def untouched (e : Entry) (omits : ProcessId → Prop) (start : SystemState) :
    Invariant fun _ => True where
  holds st := Heralds e omits start st ∧ st.proc.cpus = start.proc.cpus
  write h _ hproc := ⟨h.1.congr hproc, by rw [hproc]; exact h.2⟩
  status h _ := ⟨h.1.modifyProcess _ _ fun _ => ⟨rfl, rfl⟩, h.2⟩

/-- The walk of an entry. Those that are woken with an error must be among those that `omits`
admits, as all processes of the executing core are. -/
def walk (hhome : start.RunsAtHome e)
    (homits : ∀ id, start.proc.affinity e.platform id = e.core → omits id) :
    Walk e (fun _ => True) fun id => start.proc.affinity e.platform id = e.core where
  drops := omits
  inv := invariant e omits start
  before := untouched e omits start
  now h := h.1
  neighbour h hspeaks hsame := by
    rw [← h.affinity, hsame, h.affinity, hspeaks]
  schedule h := h.quietly (.of_touches ((Touches.refl _).tryScheduleAndSwitch trivial))
  leave h _ := h.quietly (.of_touches ((Touches.refl _).tryScheduleAndSwitch trivial))
  wake h hspeaks _ := h.onProc (Heralded.markScheduled fun hsame => homits _ (by
    rw [h.affinity, h.affinity] at hsame
    exact hsame.trans hspeaks))
  drop h hdrops _ := h.onProc (Heralded.markScheduled fun _ => hdrops)
  preempt h hspeaks _ := by
    apply h.1.onProc (Heralded.markScheduledWithPreemption hhome.single
      ((h.1.affinity _).trans hspeaks) _ _)
    intro id hid
    rw [h.2] at hid
    exact (h.1.affinity id).trans (hhome.current id hid)
  direct h hspeaks _ :=
    h.onProc (Heralded.tryDirectScheduleAndSwitch ((h.affinity _).trans hspeaks) _)
  directHere h _ hspeaks :=
    h.onProc (Heralded.tryDirectScheduleAndSwitchLocal ((h.affinity _).trans hspeaks) _)
  suspend _ h _ := h.quietly (.of_touches ((Touches.refl _).markSuspended trivial _))
  idle core h _ := h.quietly (.of_touches ((Touches.refl _).switchToIdle trivial))
  signal core h := h.onProc (by
    unfold rescheduleCore
    split
    · split
      next haccepted =>
        exact ⟨fun _ => rfl, [_], [], rfl, rfl, by simpa using haccepted, by simp,
          fun _ hid => .inl hid⟩
      · exact .refl _
    · exact .refl _)
  clearPending core _ h := h.modifyCpu core _

end Heralds

/-! ## Who is woken with an error -/

def CallbackDrops (omits : ProcessId → Prop) (st : SystemState) : Callback → Prop
  | .ipcPort port => ∀ id, st.HeldBy id (.ipcPort port) →
      omits id ∨ (st.contexts id).faultReason ≠ .none
  | .notificationPort port => ∀ id, st.HeldBy id (.notificationPort port) →
      omits id ∨ (st.contexts id).faultReason ≠ .none
  | .process target => ∀ client, (st.contexts target).destinationReplyTarget = some client →
      omits client ∨ (st.contexts client).faultReason ≠ .none

def CallbacksDrop (e : Entry) (omits : ProcessId → Prop) : List Callback → SystemState → Prop
  | [], _ => True
  | callback :: rest, st =>
    st.CallbackDrops omits callback ∧ CallbacksDrop e omits rest (st.runCallback e callback).state

/-- Whoever the entry wakes with an error is one that `omits` admits, or is kept suspended by its
fault: the caller that RECEIVE drops if it may read the port, and the waiters of what is
reclaimed. -/
def Drops (e : Entry) (omits : ProcessId → Prop) (st : SystemState) : KernelEntry → Prop
  | .capabilityCall (.ipcPort self) => ∀ owner client,
      (st.proc.cpus e.core).currentProcess = some owner →
      (st.messageRegister e owner operationTypeIndex).toNat = 2 →
      self.rights &&& Slot.read ≠ 0 → (st.contexts owner).destinationReplyState ≠ .none →
      (st.contexts owner).destinationReplyTarget = some client →
        omits client ∨ (st.contexts client).faultReason ≠ .none
  | .capabilityCall (.other callbacks _) => CallbacksDrop e omits callbacks st
  | _ => True

theorem callbacksDrop_true (callbacks : List Callback) (st : SystemState) :
    CallbacksDrop e (fun _ => True) callbacks st := by
  induction callbacks generalizing st with
  | nil => trivial
  | cons callback rest ih =>
    refine ⟨?_, ih _⟩
    cases callback <;> exact fun _ _ => .inl trivial

theorem drops_true (entry : KernelEntry) : st.Drops e (fun _ => True) entry := by
  cases entry with
  | capabilityCall invocation =>
    cases invocation with
    | ipcPort self => exact fun _ _ _ _ _ _ _ => .inl trivial
    | other callbacks result => exact callbacksDrop_true callbacks st
    | _ => trivial
  | _ => trivial

/-! ## What an entry signals -/

/-- The entry puts the process into a ready queue, and it is of another core. -/
def WakesElsewhere (e : Entry) (st st' : SystemState) (id : ProcessId) : Prop :=
  (st.proc.processes id).isInReadyQueue = false ∧ (st'.proc.processes id).isInReadyQueue = true ∧
    st'.proc.affinity e.platform id ≠ e.core

def SendsTo (st st' : SystemState) (core : Nat) : Prop :=
  ∃ sent, st'.proc.ipis = sent ++ st.proc.ipis ∧ core ∈ sent

/-- `mark_scheduled` was given the process together with one of the same core for the running one,
and sent no interrupt. -/
def LeavesOut (st st' : SystemState) (id : ProcessId) : Prop :=
  ∃ omitted, st'.proc.unsignalled = omitted ++ st.proc.unsignalled ∧ id ∈ omitted

/-- Every process that an entry puts into a ready queue of another core is announced there by a
reschedule interrupt of the same entry. -/
def Signalled (e : Entry) (st st' : SystemState) : Prop :=
  ∀ id, WakesElsewhere e st st' id → SendsTo st st' (st'.proc.affinity e.platform id)

theorem SendsTo.mem {core : Nat} {sent : List Nat} (h : SendsTo st st' core)
    (hsent : st'.proc.ipis = sent ++ st.proc.ipis) : core ∈ sent := by
  obtain ⟨sent', hsent', hmem⟩ := h
  rwa [List.append_cancel_right (hsent.symm.trans hsent')]

namespace Heralds

variable (h : Heralds e omits start st)
include h

theorem signalled_iff : Signalled e start st ↔ ∀ id, WakesElsewhere e start st id →
    e.sendIpi (st.proc.affinity e.platform id) = true ∧
      (LeavesOut start st id → SendsTo start st (st.proc.affinity e.platform id)) := by
  obtain ⟨sent, omitted, hsent, homitted, haccepted, -, hqueued⟩ := ProcState.Heralded.signals h
  constructor
  · intro hsignalled id hwakes
    have hsends := hsignalled id hwakes
    exact ⟨haccepted _ (hsends.mem hsent), fun _ => hsends⟩
  · intro hcondition id hwakes
    obtain ⟨hipi, hleft⟩ := hcondition id hwakes
    rw [h.affinity] at hipi hleft ⊢
    have hremote := hwakes.2.2
    rw [h.affinity] at hremote
    rcases hqueued id hwakes.2.1 with hbefore | hcore | hmem | hmem | hrefused
    · rw [hwakes.1] at hbefore
      cases hbefore
    · exact absurd hcore hremote
    · exact ⟨sent, hsent, hmem⟩
    · exact hleft ⟨omitted, homitted, hmem⟩
    · rw [hipi] at hrefused
      cases hrefused

theorem signalled (homits : ∀ id, omits id → start.proc.affinity e.platform id = e.core)
    (hipi : ∀ id, (start.proc.processes id).isInReadyQueue = false →
      start.proc.affinity e.platform id ≠ e.core →
        e.sendIpi (start.proc.affinity e.platform id) = true) : Signalled e start st := by
  refine h.signalled_iff.mpr fun id hwakes => ?_
  have hremote := hwakes.2.2
  rw [h.affinity] at hremote ⊢
  refine ⟨hipi id hwakes.1 hremote, fun ⟨omitted', homitted', hmem⟩ => ?_⟩
  obtain ⟨sent, omitted, -, homitted, -, hadmitted, -⟩ := ProcState.Heralded.signals h
  have hsame : omitted' = omitted := List.append_cancel_right (homitted'.symm.trans homitted)
  exact absurd (homits id (hadmitted id (hsame ▸ hmem))) hremote

end Heralds

theorem operationConfigure_isInReadyQueue (owner target id : ProcessId) (st : SystemState) :
    ((st.operationConfigure e owner target).state.proc.processes id).isInReadyQueue =
      (st.proc.processes id).isInReadyQueue := by
  have hflag : ∀ (proc : ProcState) (f : Process → Process),
      (∀ process, (f process).isInReadyQueue = process.isInReadyQueue) →
      ((proc.modifyProcess target f).processes id).isInReadyQueue =
        (proc.processes id).isInReadyQueue := by
    intro proc f hf
    rw [modifyProcess_processes]
    split_ifs with hid
    · rw [hf, hid]
    · rfl
  apply operationConfigure_keeps (e := e) (P := fun state : SystemState =>
    (state.proc.processes id).isInReadyQueue = (st.proc.processes id).isInReadyQueue) _ _ _ owner rfl
  · exact fun _ _ _ h => h
  · intro st1 priority h
    unfold onProc configurePriority
    dsimp only
    split
    · exact h
    · exact (hflag st1.proc (fun process => { process with priority := priority.toNat })
        fun _ => rfl).trans h
  · intro st1 affinity h
    unfold configureAffinity
    split_ifs
    · exact h
    · exact h
    · exact (hflag st1.proc (fun process => { process with coreAffinity := affinity })
        fun _ => rfl).trans h

theorem moves_true (id : ProcessId) : Moves (fun _ => True) id :=
  ⟨trivial, trivial, trivial, trivial⟩

theorem acts_true (id : ProcessId) : Acts (fun _ => True) id :=
  ⟨⟨moves_true id, fun _ => trivial⟩, trivial, trivial, trivial, trivial⟩

namespace Heralds

section

variable (h : Heralds e omits start st) (htarget : start.proc.affinity e.platform target = e.core)
include h htarget

theorem markScheduledOn : Heralded e.platform e.sendIpi e.core omits start.proc
    (st.proc.markScheduledOn e.core target).state := by
  apply Heralded.trans h
  apply Heralded.of_enters (Enters.markScheduledOn st.proc e.core target)
  rintro id rfl
  exact (h.affinity id).trans htarget

theorem requeue : Heralded e.platform e.sendIpi e.core omits start.proc
    ((st.proc.markScheduledOn e.core target).andThen
      fun _ proc => proc.tryScheduleAndSwitch e.platform e.root e.core).state :=
  (h.markScheduledOn htarget).andThen fun _ _ hmarked =>
    hmarked.trans (.quiet (.of_touches ((Touches.refl _).tryScheduleAndSwitch trivial)))

end

end Heralds

theorem fails_of_omits {id : ProcessId}
    (homitted : omits id ∨ (st.contexts id).faultReason ≠ .none) :
    Fails e (fun _ => True) omits st id := ⟨(acts_true id).errs e, homitted⟩

/-! ## Entries -/

section Entry

variable (hhome : st.RunsAtHome e)

include hhome

theorem handleTimer_heralds : Heralds e omits st (st.handleTimer e) := by
  have h : Heralds e omits st st := .refl st
  unfold handleTimer
  split
  · exact h
  next current hcurrent =>
    split
    · exact h.quietly (.of_touches ((Touches.refl _).tryScheduleAndSwitch trivial))
    · have hcounted := h.modifyProcess current (fun process =>
        { process with quantum := process.quantum - 1 }) fun _ => ⟨rfl, rfl⟩
      dsimp only
      split
      · have hfull := hcounted.modifyProcess current (fun process =>
          { process with quantum := quantumMax }) fun _ => ⟨rfl, rfl⟩
        apply Outcome.orElse_keeps (hfull.requeue (hhome.current current hcurrent))
        exact fun _ _ hfailed =>
          hfailed.trans (.quiet (.of_touches ((Touches.refl _).switchToIdle trivial)))
      · exact hcounted

theorem handleIpiReschedule_heralds : Heralds e omits st (st.handleIpiReschedule e) := by
  have h : Heralds e omits st st := .refl st
  unfold handleIpiReschedule
  split
  · exact h
  next current hcurrent =>
    have hcleared : Heralds e omits st { st with proc := st.proc.modifyCpu e.core fun cpu =>
        { cpu with pendingRescheduleTarget := none } } := h.modifyCpu e.core _
    dsimp only
    apply Outcome.andThen_keeps (P := Heralds e omits st)
    · split
      · exact hcleared.markScheduledOn (hhome.current current hcurrent)
      · exact hcleared
    · intro _ st1 hmarked
      split
      next target _ =>
        exact Heralds.quietly hmarked
          (.of_touches ((Touches.refl _).tryRemoteTargetAndSwitch trivial target))
      · exact Heralds.quietly hmarked (.of_touches ((Touches.refl _).tryScheduleAndSwitch trivial))

variable (homits : ∀ id, st.proc.affinity e.platform id = e.core → omits id)

include homits

theorem callbacksGranted_of_drop (callbacks : List Callback) (h : Heralds e omits st st')
    (hdrop : CallbacksDrop e omits callbacks st') :
    CallbacksGranted e (fun _ => True) omits callbacks st' := by
  induction callbacks generalizing st' with
  | nil => trivial
  | cons callback rest ih =>
    obtain ⟨hfirst, hrest⟩ := hdrop
    have hgranted : CallbackGranted e (fun _ => True) omits st' callback := by
      cases callback with
      | ipcPort port => exact fun id hheld => fails_of_omits (hfirst id hheld)
      | notificationPort port =>
        exact ⟨trivial, trivial, fun id hheld => fails_of_omits (hfirst id hheld)⟩
      | process target =>
        exact ⟨trivial, trivial, fun _ _ => trivial, fun id hcase => fails_of_omits (hfirst id hcase)⟩
    have hrun : Heralds e omits st (st'.runCallback e callback).state :=
      Keeps.runCallback (w := Heralds.walk hhome homits) h callback hgranted
    refine ⟨hgranted, fun st1 hok => ?_⟩
    rw [hok] at hrest hrun
    exact ih hrun hrest

theorem handleCapabilityCall_heralds (invocation : Invocation)
    (howner : (st.proc.cpus e.core).currentProcess = some owner)
    (hdrops : st.Drops e omits (.capabilityCall invocation))
    (hother : ∀ target, invocation = .processControlBlock target → st.operation e owner ≠ 1) :
    Heralds e omits st (st.handleCapabilityCall e owner invocation) := by
  have h : Heralds e omits st st := .refl st
  have hgranted : InvocationGranted (Heralds.walk hhome homits) owner st invocation := by
    cases invocation with
    | ipcPort self =>
      exact ⟨fun _ => trivial, fun _ => trivial, fun _ _ _ => trivial,
        fun _ id _ => (acts_true id).toHandles, fun _ id _ => moves_true id, fun client hclient =>
          ⟨fun hop hreads howes =>
              fails_of_omits (hdrops owner client howner hop hreads howes hclient),
            fun _ => ⟨(acts_true client).toHandles, trivial⟩⟩⟩
    | notificationPort self =>
      exact ⟨fun _ => trivial, trivial, fun id _ _ => (acts_true id).toHandles,
        fun id _ => (acts_true id).toHandles⟩
    | processControlBlock target =>
      exact ⟨fun hop => absurd hop (hother target rfl), fun _ _ => trivial,
        fun _ => ⟨moves_true target, trivial⟩,
        fun _ => ⟨(acts_true target).errs e, trivial, trivial⟩⟩
    | other callbacks result => exact callbacksGranted_of_drop hhome homits callbacks h hdrops
    | _ => trivial
  exact Keeps.handleCapabilityCall (w := Heralds.walk hhome homits) ⟨h, rfl⟩
    (hhome.current owner howner) (acts_true owner) invocation hgranted

/-- Every entry but CONFIGURE, which may change the affinity of a process. -/
theorem handle_heralds (entry : KernelEntry) (hdrops : st.Drops e omits entry)
    (hother : ∀ owner target, (st.proc.cpus e.core).currentProcess = some owner →
      entry = .capabilityCall (.processControlBlock target) → st.operation e owner ≠ 1) :
    Heralds e omits st (st.handle e entry) := by
  have h : Heralds e omits st st := .refl st
  cases entry with
  | capabilityCall invocation =>
    unfold handle
    dsimp only
    split
    · exact h
    next owner howner =>
      exact handleCapabilityCall_heralds hhome homits invocation howner hdrops fun target htarget =>
        hother owner target howner (by rw [htarget])
  | yield =>
    unfold handle handleYield
    dsimp only
    split
    · exact h
    next current hcurrent =>
      have hfull := h.modifyProcess current (fun process =>
        { process with quantum := quantumMax }) fun _ => ⟨rfl, rfl⟩
      exact hfull.requeue (hhome.current current hcurrent)
  | timer => exact handleTimer_heralds hhome
  | interrupt handler =>
    unfold handle handleInterrupt
    dsimp only
    split
    next self current hcurrent =>
      exact Keeps.operationNotify (w := Heralds.walk hhome homits) ⟨h, rfl⟩
        (hhome.current current hcurrent) self trivial trivial
        (fun id _ _ => (acts_true id).toHandles) fun id _ => (acts_true id).toHandles
    · exact h
  | ipiReschedule => exact handleIpiReschedule_heralds hhome
  | fault type code archCode address =>
    exact Keeps.handleFault (w := Heralds.walk hhome homits) h type code archCode address
      (fun current hcurrent => ⟨hhome.current current hcurrent, acts_true current⟩)
      fun _ _ id _ => (acts_true id).toHandles

omit hhome homits in
theorem configure_wakes_nobody {entry : KernelEntry}
    (howner : (st.proc.cpus e.core).currentProcess = some owner)
    (hentry : entry = .capabilityCall (.processControlBlock target))
    (hop : st.operation e owner = 1) (id : ProcessId) :
    ¬ WakesElsewhere e st (st.handle e entry) id := by
  have hproc : (st.handle e entry).proc = (st.operationConfigure e owner target).state.proc := by
    unfold handle
    rw [hentry, howner]
    dsimp only
    unfold handleCapabilityCall execute executeProcessControlBlock
    have hop' : (st.messageRegister e owner operationTypeIndex).toNat = 1 := hop
    simp only [hop']
    exact (Placed.alike_reportResult owner _).proc
  rintro ⟨hbefore, hafter, -⟩
  rw [hproc, operationConfigure_isInReadyQueue, hbefore] at hafter
  cases hafter

end Entry

end SystemState

section Example

open SystemState

end Example

end A9N.Kernel
