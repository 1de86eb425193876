import A9N.Kernel.Ipc.OperationEffects

/-!
# What an entry does to one process

One process is protected: writes to everybody else are permitted. Where an entry is about the
process (it runs it, wakes it as a receiver, a waiter or a sender, answers or drops it, makes it the
target of a control-block operation, or ends its wait with an error), `may` must admit what is done.
-/

namespace A9N.Kernel

open Hal

namespace SystemState

open ProcState

def Writes.invariant (may : Access → Prop) (start : SystemState) : Invariant may where
  holds := Writes may start
  write h hwrite _ := h.tail hwrite
  status h hmay := h.tail (.scheduling _ ((Calm.refl _).modifyProcess _ _ fun _ => .inr hmay))

namespace Writes

variable {e : Entry} {may : Access → Prop} {start st : SystemState}

theorem refl (st : SystemState) : Writes may st st := Relation.ReflTransGen.refl

theorem onProc (h : Writes may start st) {ε α : Type} {f : ProcState → Outcome ε ProcState α}
    (hf : Calm (fun id status => may (.status id status)) st.proc (f st.proc).state) :
    Writes may start (st.onProc f).state := h.tail (.scheduling _ hf)

theorem modifyProcess (h : Writes may start st) (id : ProcessId) (f : Process → Process)
    (hf : ∀ process, (f process).status = process.status ∨ may (.status id (f process).status)) :
    Writes may start (st.modifyProcess id f) :=
  h.tail (.scheduling _ ((Calm.refl _).modifyProcess id f hf))

def walk (e : Entry) (may : Access → Prop) (start : SystemState) : Walk e may fun _ => True where
  drops _ := True
  inv := invariant may start
  before := invariant may start
  now h := h
  neighbour _ _ _ := trivial
  schedule h := onProc h (.of_touches ((Touches.refl _).tryScheduleAndSwitch trivial))
  leave h _ := onProc h (.of_touches ((Touches.refl _).tryScheduleAndSwitch trivial))
  wake h _ ht := onProc h (.of_touches ((Touches.refl _).markScheduled ht.wakes trivial _))
  drop h _ ht := onProc h (.of_touches ((Touches.refl _).markScheduled ht.wakes trivial _))
  preempt h _ ht :=
    onProc h (.of_touches ((Touches.refl _).markScheduledWithPreemption ht.wakes
      ⟨trivial, fun _ _ => ⟨trivial, trivial⟩⟩ _))
  direct h _ ht :=
    onProc h (.of_touches ((Touches.refl _).tryDirectScheduleAndSwitch ht.wakes (fun _ => trivial)
      trivial _))
  directHere h _ _ :=
    onProc h (.of_touches ((Touches.refl _).tryDirectScheduleAndSwitchLocal trivial trivial))
  suspend _ h hmay := onProc h (.of_touches ((Touches.refl _).markSuspended hmay _))
  idle core h _ := onProc h (.of_touches ((Touches.refl _).switchToIdle trivial))
  signal core h := onProc h (by
    unfold rescheduleCore
    split_ifs <;> exact fun _ => .inl rfl)
  clearPending _ _ h := Relation.ReflTransGen.tail h (.scheduling _ fun _ => .inl rfl)

theorem keeps (h : Writes may start st) (e : Entry) : Keeps (walk e may start).inv st := h

theorem operationConfigure (h : Writes may start st) (owner target : ProcessId)
    (hmay : ∀ field : RegisterField,
      may (.registers target (field.saved e.platform.architecture))) :
    Writes may start (st.operationConfigure e owner target).state := by
  apply operationConfigure_keeps (P := Writes may start) _ _ _ owner h
  · exact fun _ field _ hst => hst.tail (.registers target _ _ (hmay field))
  · exact fun _ _ hst => hst.onProc ((Calm.refl _).configurePriority target _)
  · intro st affinity hst
    unfold configureAffinity
    split_ifs
    · exact hst
    · exact hst
    · exact hst.modifyProcess target (fun process => { process with coreAffinity := affinity })
        fun _ => .inl rfl

end Writes

structure Runs (may : Access → Prop) (id : ProcessId) : Prop extends Acts may id where
  receive : may (.status id .blockedReceive)
  reset : may (.reset id)

structure Guards (may : Access → Prop) (id : ProcessId) : Prop where
  runs : ∀ other, other ≠ id → Runs may other
  send : ∀ other, other ≠ id → may (.status other .blockedSend)

structure Protects (may : Access → Prop) (id : ProcessId) : Prop extends Guards may id where
  notify : ∀ port identifier, may (.notify port identifier)
  consume : ∀ port, may (.consume port)
  unbind : ∀ port, may (.unbind port)

/-- What an entry may do to the process if it finds it waiting. -/
structure Found (may : Access → Prop) (id : ProcessId) (st : SystemState) : Prop where
  receiver : ∀ port, (st.ports port).state = .readyToReceive →
    (st.ports port).queueHead = some id → Handles may id
  sender : ∀ port, (st.ports port).state = .readyToSend → (st.ports port).queueHead = some id →
    Moves may id
  waiter : ∀ port, (st.notifications port).queueHead = some id → Handles may id
  bound : (st.proc.processes id).status = .blockedReceive → Handles may id

structure Engaged (may : Access → Prop) (id : ProcessId) (core : Nat) (st : SystemState) : Prop
    extends Found may id st where
  current : (st.proc.cpus core).currentProcess = some id → Acts may id

structure Admitted (may : Access → Prop) (id : ProcessId) (st : SystemState) : Prop
    extends Found may id st where
  current : ∀ core, (st.proc.cpus core).currentProcess = some id → Runs may id

theorem Admitted.engaged {may : Access → Prop} {id : ProcessId} {st : SystemState}
    (h : Admitted may id st) (core : Nat) : Engaged may id core st :=
  ⟨h.toFound, fun hcurrent => (h.current core hcurrent).toActs⟩

def CallbackAdmitted (may : Access → Prop) (id : ProcessId) (e : Entry) (st : SystemState) :
    Callback → Prop
  | .ipcPort port => st.HeldBy id (.ipcPort port) → Errs e may id
  | .notificationPort port => st.HeldBy id (.notificationPort port) → Errs e may id
  | .process target =>
    ((st.contexts target).destinationReplyTarget = some id → Errs e may id) ∧
    (target = id → may (.status id .blockedSuspend) ∧ may (.reset id) ∧
      ∀ core, (st.proc.cpus core).currentProcess = some id →
        may (.registers id (instructionPointerIndex e.platform.architecture)))

def CallbacksAdmitted (may : Access → Prop) (id : ProcessId) (e : Entry) :
    List Callback → SystemState → Prop
  | [], _ => True
  | callback :: rest, st => CallbackAdmitted may id e st callback ∧
      ∀ st', st.runCallback e callback = .ok () st' → CallbacksAdmitted may id e rest st'

def InvocationEngaged (may : Access → Prop) (id : ProcessId) (e : Entry) (owner : ProcessId)
    (st : SystemState) : Invocation → Prop
  | .ipcPort _ =>
    (owner = id → st.operation e owner = 2 ∨ st.operation e owner = 5 →
      may (.status id .blockedReceive)) ∧
    (st.operation e owner = 2 ∨ st.operation e owner = 3 ∨ st.operation e owner = 5 →
      ∀ port, e.boundNotification owner = some port → may (.consume port))
  | .notificationPort self =>
    (st.operation e owner = 1 → may (.notify self.port self.identifier)) ∧
      may (.consume self.port)
  | .other callbacks _ => ∀ port, .notificationPort port ∈ callbacks →
      may (.consume port) ∧ may (.unbind port)
  | _ => True

def InvocationAdmitted (may : Access → Prop) (id : ProcessId) (e : Entry) (owner : ProcessId)
    (st : SystemState) : Invocation → Prop
  | .ipcPort _ =>
    (owner = id → st.operation e owner = 1 ∨ st.operation e owner = 3 →
      may (.status id .blockedSend)) ∧
    ((st.contexts owner).destinationReplyTarget = some id →
      (st.operation e owner = 2 → Errs e may id) ∧
      (st.operation e owner = 4 ∨ st.operation e owner = 5 → Handles may id ∧ may (.fault id)))
  | .processControlBlock target => target = id →
      (st.operation e owner = 1 → ∀ field : RegisterField,
        may (.registers id (field.saved e.platform.architecture))) ∧
      (st.operation e owner = 3 → ∀ index, may (.registers id index)) ∧
      (st.operation e owner = 4 → Moves may id ∧ may (.fault id)) ∧
      (st.operation e owner = 5 → Errs e may id ∧ may (.fault id) ∧
        may (.registers id (instructionPointerIndex e.platform.architecture)))
  | .other callbacks _ => CallbacksAdmitted may id e callbacks st
  | _ => True

variable {e : Entry} {may : Access → Prop} {id owner : ProcessId} {start st : SystemState}

section Invocations

variable {core : Nat} (hguards : Guards may id) (hid : Engaged may id core st)

include hguards

theorem fails_of_guards {P : ProcessId → Prop} (hid : P id → Errs e may id) (other : ProcessId)
    (hother : P other) : Fails e may (fun _ => True) st other := by
  refine ⟨?_, .inl trivial⟩
  by_cases heq : other = id
  · rw [heq] at hother ⊢
    exact hid hother
  · exact (hguards.runs other heq).errs e

include hid

theorem portGranted (self : PortSlot)
    (hengaged : InvocationEngaged may id e owner st (.ipcPort self))
    (hadmitted : InvocationAdmitted may id e owner st (.ipcPort self)) :
    PortGranted e may (fun _ => True) owner st self where
  send hop := by
    by_cases heq : owner = id
    · rw [heq]
      exact hadmitted.1 heq hop
    · exact hguards.send owner heq
  receive hop := by
    by_cases heq : owner = id
    · rw [heq]
      exact hengaged.1 heq hop
    · exact (hguards.runs owner heq).receive
  bound := hengaged.2
  receiver hstate other hother := by
    by_cases heq : other = id
    · rw [heq] at hother ⊢
      exact hid.receiver self.port hstate hother
    · exact (hguards.runs other heq).toHandles
  sender hstate other hother := by
    by_cases heq : other = id
    · rw [heq] at hother ⊢
      exact hid.sender self.port hstate hother
    · exact (hguards.runs other heq).toMoves
  client client hclient := by
    by_cases heq : client = id
    · rw [heq] at hclient ⊢
      obtain ⟨hdropped, hanswered⟩ := hadmitted.2 hclient
      exact ⟨fun hop _ _ => ⟨hdropped hop, .inl trivial⟩, hanswered⟩
    · have hruns := hguards.runs client heq
      exact ⟨fun _ _ _ => ⟨hruns.errs e, .inl trivial⟩, fun _ => ⟨hruns.toHandles, hruns.fault⟩⟩

theorem notified_handles (port : Word) :
    (∀ other, (st.notifications port).bindedProcess = some other →
      (st.proc.processes other).status = .blockedReceive → Handles may other) ∧
    ∀ other, (st.notifications port).queueHead = some other → Handles may other := by
  constructor
  · intro other _ hstatus
    by_cases heq : other = id
    · rw [heq] at hstatus ⊢
      exact hid.bound hstatus
    · exact (hguards.runs other heq).toHandles
  · intro other hhead
    by_cases heq : other = id
    · rw [heq] at hhead ⊢
      exact hid.waiter port hhead
    · exact (hguards.runs other heq).toHandles

omit hid in
theorem controlBlockGranted (target : ProcessId)
    (hadmitted : InvocationAdmitted may id e owner st (.processControlBlock target)) :
    InvocationGranted (Writes.walk e may st) owner st (.processControlBlock target) := by
  refine ⟨fun hop => Writes.operationConfigure (.refl st) owner target ?_, fun hop => ?_,
    fun hop => ?_, fun hop => ?_⟩
  all_goals by_cases heq : target = id
  · rw [heq]
    exact (hadmitted heq).1 hop
  · exact fun _ => (hguards.runs target heq).registers _
  · rw [heq]
    exact (hadmitted heq).2.1 hop
  · exact (hguards.runs target heq).registers
  · rw [heq]
    exact (hadmitted heq).2.2.1 hop
  · exact ⟨(hguards.runs target heq).toMoves, (hguards.runs target heq).fault⟩
  · rw [heq]
    exact (hadmitted heq).2.2.2 hop
  · have hruns := hguards.runs target heq
    exact ⟨hruns.errs e, hruns.fault, hruns.registers _⟩

omit hid in
theorem callbackGranted (callback : Callback)
    (hports : ∀ port, .notificationPort port = callback → may (.consume port) ∧ may (.unbind port))
    (hadmitted : CallbackAdmitted may id e st callback) :
    CallbackGranted e may (fun _ => True) st callback := by
  cases callback with
  | ipcPort port =>
    exact fails_of_guards (P := fun other => st.HeldBy other (.ipcPort port)) hguards hadmitted
  | notificationPort port =>
    exact ⟨(hports port rfl).1, (hports port rfl).2,
      fails_of_guards (P := fun other => st.HeldBy other (.notificationPort port)) hguards hadmitted⟩
  | process target =>
    obtain ⟨hclient, hself⟩ := hadmitted
    have hclients : ∀ client, (st.contexts target).destinationReplyTarget = some client →
        Fails e may (fun _ => True) st client := fails_of_guards hguards hclient
    by_cases htarget : target = id
    · obtain ⟨hsuspend, hreset, hcurrent⟩ := hself htarget
      rw [← htarget] at hsuspend hreset hcurrent
      exact ⟨hsuspend, hreset, hcurrent, hclients⟩
    · have hruns := hguards.runs target htarget
      exact ⟨hruns.suspend, hruns.reset, fun _ _ => hruns.registers _, hclients⟩

omit hid in
theorem callbacksGranted (callbacks : List Callback)
    (hports : ∀ port, .notificationPort port ∈ callbacks → may (.consume port) ∧ may (.unbind port))
    (hadmitted : CallbacksAdmitted may id e callbacks st) :
    CallbacksGranted e may (fun _ => True) callbacks st := by
  induction callbacks generalizing st with
  | nil => trivial
  | cons callback rest ih =>
    exact ⟨callbackGranted hguards callback (fun port hport => hports port (by simp [hport]))
      hadmitted.1, fun st' hrun => ih (fun port hport => hports port (by simp [hport]))
        (hadmitted.2 st' hrun)⟩

end Invocations

theorem Writes.runCallbacks (hguards : Guards may id) (callbacks : List Callback)
    (h : Writes may start st)
    (hports : ∀ port, .notificationPort port ∈ callbacks → may (.consume port) ∧ may (.unbind port))
    (hadmitted : CallbacksAdmitted may id e callbacks st) :
    Writes may start (st.runCallbacks e callbacks).state :=
  Keeps.runCallbacks callbacks (h.keeps e) (callbacksGranted hguards callbacks hports hadmitted)

/-! ## Entries -/

def EntryAdmitted (may : Access → Prop) (id : ProcessId) (e : Entry) (st : SystemState) :
    KernelEntry → Prop
  | .capabilityCall invocation => ∀ owner, (st.proc.cpus e.core).currentProcess = some owner →
      InvocationAdmitted may id e owner st invocation
  | _ => True

def EntryEngaged (may : Access → Prop) (id : ProcessId) (e : Entry) (st : SystemState) :
    KernelEntry → Prop
  | .capabilityCall invocation => ∀ owner, (st.proc.cpus e.core).currentProcess = some owner →
      InvocationEngaged may id e owner st invocation
  | .interrupt (some self) => may (.notify self.port self.identifier) ∧ may (.consume self.port)
  | _ => True

section Entries

variable (hguards : Guards may id) (hid : Engaged may id e.core st)

include hguards hid

theorem acts_of_current (hcurrent : (st.proc.cpus e.core).currentProcess = some owner) :
    Acts may owner := by
  by_cases heq : owner = id
  · rw [heq] at hcurrent ⊢
    exact hid.current hcurrent
  · exact (hguards.runs owner heq).toActs

theorem invocationGranted (invocation : Invocation)
    (hengaged : InvocationEngaged may id e owner st invocation)
    (hadmitted : InvocationAdmitted may id e owner st invocation) :
    InvocationGranted (Writes.walk e may st) owner st invocation := by
  cases invocation with
  | ipcPort self => exact portGranted hguards hid self hengaged hadmitted
  | notificationPort self =>
    exact ⟨hengaged.1, hengaged.2, notified_handles hguards hid self.port⟩
  | processControlBlock target => exact controlBlockGranted hguards target hadmitted
  | other callbacks result => exact callbacksGranted hguards callbacks hengaged hadmitted
  | _ => trivial

theorem handleYield_writes : Writes may st (st.handleYield e) := by
  unfold handleYield
  split
  · exact .refl st
  next current hcurrent =>
    have hruns := acts_of_current hguards hid hcurrent
    have hquantum : Writes may st (st.modifyProcess current fun process =>
        { process with quantum := quantumMax }) :=
      (Writes.refl st).modifyProcess current _ fun _ => .inl rfl
    apply hquantum.onProc
    exact .of_touches (((Touches.refl _).markScheduledOn hruns.wakes e.core).andThen
      fun _ _ hmarked => hmarked.tryScheduleAndSwitch trivial)

theorem handleTimer_writes : Writes may st (st.handleTimer e) := by
  have h : Writes may st st := .refl st
  unfold handleTimer
  split
  · exact h
  next current hcurrent =>
    have hruns := acts_of_current hguards hid hcurrent
    split
    · exact (Writes.walk e may st).schedule h
    · have hcounted : Writes may st (st.modifyProcess current fun process =>
          { process with quantum := process.quantum - 1 }) :=
        h.modifyProcess current _ fun _ => .inl rfl
      dsimp only
      split
      · have hquantum := hcounted.modifyProcess current (fun process =>
          { process with quantum := quantumMax }) fun _ => .inl rfl
        apply hquantum.onProc
        apply Calm.of_touches
        apply Touches.orElse
        · exact ((Touches.refl _).markScheduledOn hruns.wakes e.core).andThen
            fun _ _ hmarked => hmarked.tryScheduleAndSwitch trivial
        · exact fun _ _ hfailed => hfailed.switchToIdle trivial
      · exact hcounted

theorem handleIpiReschedule_writes : Writes may st (st.handleIpiReschedule e) := by
  unfold handleIpiReschedule
  split
  · exact .refl st
  next current hcurrent =>
    have hruns := acts_of_current hguards hid hcurrent
    have hcleared : Writes may st { st with proc := st.proc.modifyCpu e.core fun cpu =>
        { cpu with pendingRescheduleTarget := none } } :=
      (Writes.refl st).tail (.scheduling _ fun _ => .inl rfl)
    dsimp only
    apply Outcome.andThen_keeps (P := Writes may st)
    · split
      · exact hcleared.onProc (.of_touches ((Touches.refl _).markScheduledOn hruns.wakes e.core))
      · exact hcleared
    · intro _ st1 hmarked
      split
      next target _ =>
        exact hmarked.onProc (.of_touches ((Touches.refl _).tryRemoteTargetAndSwitch trivial target))
      · exact (Writes.walk e may st).schedule hmarked

theorem handle_writes_engaged (entry : KernelEntry) (hengaged : EntryEngaged may id e st entry)
    (hadmitted : EntryAdmitted may id e st entry) : Writes may st (st.handle e entry) := by
  cases entry with
  | capabilityCall invocation =>
    unfold handle
    dsimp only
    split
    · exact .refl st
    next owner howner =>
      exact Keeps.handleCapabilityCall ((Writes.refl st).keeps e) trivial
        (acts_of_current hguards hid howner) invocation
        (invocationGranted hguards hid invocation (hengaged owner howner) (hadmitted owner howner))
  | yield => exact handleYield_writes hguards hid
  | timer => exact handleTimer_writes hguards hid
  | interrupt handler =>
    unfold handle handleInterrupt
    dsimp only
    split
    next self _ _ =>
      obtain ⟨hbinded, hhead⟩ := notified_handles hguards hid self.port
      exact Keeps.operationNotify (w := Writes.walk e may st) (Writes.refl st) trivial self
        hengaged.1 hengaged.2 hbinded hhead
    · exact .refl st
  | ipiReschedule => exact handleIpiReschedule_writes hguards hid
  | fault type code archCode address =>
    apply ((Writes.refl st).keeps e).handleFault type code archCode address
    · exact fun current hcurrent => ⟨trivial, acts_of_current hguards hid hcurrent⟩
    · intro port hstate other hother
      by_cases heq : other = id
      · rw [heq] at hother ⊢
        exact hid.receiver port hstate hother
      · exact (hguards.runs other heq).toHandles

end Entries

theorem handle_writes (hprotects : Protects may id) (hid : Admitted may id st) (entry : KernelEntry)
    (hadmitted : EntryAdmitted may id e st entry) : Writes may st (st.handle e entry) := by
  refine handle_writes_engaged hprotects.toGuards (hid.engaged e.core) entry ?_ hadmitted
  cases entry with
  | capabilityCall invocation =>
    intro owner howner
    cases invocation with
    | ipcPort self =>
      refine ⟨fun heq _ => (hid.current e.core ?_).receive,
        fun _ port _ => hprotects.consume port⟩
      rw [howner, heq]
    | notificationPort self => exact ⟨fun _ => hprotects.notify _ _, hprotects.consume _⟩
    | other callbacks result => exact fun port _ => ⟨hprotects.consume port, hprotects.unbind port⟩
    | _ => trivial
  | interrupt handler =>
    cases handler with
    | none => trivial
    | some self => exact ⟨hprotects.notify _ _, hprotects.consume _⟩
  | _ => trivial

/-! ## What is kept -/

section

variable {st' : SystemState} (h : Writes may st st')
include h

/-- A register that only a reset may write keeps a property that its initial value has. -/
theorem Writes.register_kept {index : Nat} {P : Word → Prop} (hmay : ¬ may (.registers id index))
    (hreset : may (.reset id) → ∀ architecture, P (userContext architecture index))
    (hbefore : P (st.registers id index)) : P (st'.registers id index) := by
  induction h with
  | refl => exact hbefore
  | tail _ hwrite ih =>
    cases hwrite with
    | registers other index' value hother =>
      unfold setRegister
      by_cases hid : id = other
      · subst hid
        have hne : index ≠ index' := by
          rintro rfl
          exact hmay hother
        simpa [hne] using ih
      · simpa [hid] using ih
    | reset other architecture hother =>
      unfold initHardwareContext
      by_cases hid : id = other
      · subst hid
        simpa using hreset hother architecture
      · simpa [hid] using ih
    | _ => exact ih

theorem Writes.register_eq {index : Nat} (hmay : ¬ may (.registers id index))
    (hreset : ¬ may (.reset id)) : st'.registers id index = st.registers id index :=
  h.register_kept (P := fun value => value = st.registers id index) hmay
    (fun hwritten => absurd hwritten hreset) rfl

theorem Writes.registers_eq (hmay : ∀ index, ¬ may (.registers id index))
    (hreset : ¬ may (.reset id)) : st'.registers id = st.registers id :=
  funext fun index => h.register_eq (hmay index) hreset

theorem Writes.identifier_eq (hmay : ¬ may (.identify id)) :
    (st'.contexts id).identifierWhenBlocked = (st.contexts id).identifierWhenBlocked := by
  induction h with
  | refl => rfl
  | tail _ hwrite ih =>
    rw [← ih]
    cases hwrite with
    | context other f hupdates =>
      rw [modifyContext_contexts]
      split_ifs with hid
      · subst hid
        exact hupdates.identify.resolve_left hmay _
      · rfl
    | _ => rfl

theorem Writes.faultReason_eq (hmay : ¬ may (.fault id)) :
    (st'.contexts id).faultReason = (st.contexts id).faultReason := by
  induction h with
  | refl => rfl
  | tail _ hwrite ih =>
    rw [← ih]
    cases hwrite with
    | context other f hupdates =>
      rw [modifyContext_contexts]
      split_ifs with hid
      · subst hid
        exact hupdates.fault.resolve_left hmay _
      · rfl
    | _ => rfl

theorem Writes.calm : Calm (fun id status => may (.status id status)) st.proc st'.proc := by
  induction h with
  | refl => exact .refl _
  | tail _ hwrite ih =>
    cases hwrite with
    | scheduling proc hcalm => exact ih.trans hcalm
    | _ => exact ih

end

end SystemState

end A9N.Kernel
