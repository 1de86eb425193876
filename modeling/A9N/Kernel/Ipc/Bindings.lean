import A9N.Kernel.Ipc.Provenance

/-!
# Processes bound to notification ports

PCB CONFIGURE binds a notification port to a process: the port points to the process, and a slot of
the control block names the port. NOTIFY follows the first reference, the IPC operations the second
one.
-/

namespace A9N.Kernel

open Hal

namespace SystemState

open ProcState

/-! ## Who is notified of what -/

def notified (e : Entry) (st : SystemState) (port : Word) : KernelEntry → Word
  | .capabilityCall (.notificationPort self) =>
    match (st.proc.cpus e.core).currentProcess with
    | none => 0
    | some owner =>
      if st.operation e owner = 1 ∧ self.rights &&& Slot.write ≠ 0 ∧ self.port = port then
        self.identifier
      else 0
  | .interrupt (some self) =>
    if (st.proc.cpus e.core).currentProcess.isSome ∧ self.rights &&& Slot.write ≠ 0 ∧
        self.port = port then
      self.identifier
    else 0
  | _ => 0

def notifyTarget (port : Word) (st : SystemState) : Option (ProcessId × Nat) :=
  if st.bindedReceives port then
    (st.notifications port).bindedProcess.bind fun target =>
      (st.contexts target).currentIpcPort.map fun _ => (target, identifierIndex)
  else
    match (st.notifications port).state with
    | .wait => none
    | .readyToWake => (st.notifications port).queueHead.map fun target => (target, flagWordIndex)

def pendingTarget (e : Entry) (owner : ProcessId) (port : Word) (st : SystemState) :
    Option (ProcessId × Nat) :=
  if e.boundNotification owner = some port ∧ (st.notifications port).hasNotification then
    some (owner, identifierIndex)
  else none

def ipcTarget (e : Entry) (owner : ProcessId) (self : PortSlot) (port : Word) (st : SystemState) :
    Option (ProcessId × Nat) :=
  let info := st.messageRegister e owner messageInfoIndex
  if ¬ MessageInfo.isNormal info then none
  else
    match st.operation e owner with
    | 2 =>
      if self.rights &&& Slot.read ≠ 0 ∧ (st.discardReply e owner).succeeded ∧
          (st.ports self.port).state ≠ .readyToSend then
        st.pendingTarget e owner port
      else none
    | 3 =>
      if self.rights &&& Slot.write ≠ 0 ∧ (st.ports self.port).state ≠ .readyToReceive ∧
          MessageInfo.isBlock info then
        st.pendingTarget e owner port
      else none
    | 5 =>
      if self.rights &&& Slot.read ≠ 0 ∧ (st.completeReply e true owner info).succeeded ∧
          (st.ports self.port).state ≠ .readyToSend then
        st.pendingTarget e owner port
      else none
    | _ => none

def notificationTarget (e : Entry) (owner : ProcessId) (self : PortSlot) (port : Word)
    (st : SystemState) : Option (ProcessId × Nat) :=
  if self.port ≠ port then none
  else
    match st.operation e owner with
    | 1 => if self.rights &&& Slot.write ≠ 0 then st.notifyTarget port else none
    | 2 =>
      if self.rights &&& Slot.read ≠ 0 ∧ ¬ st.boundToOther port owner ∧
          (st.notifications port).state = .wait ∧ (st.notifications port).hasNotification then
        some (owner, flagWordIndex)
      else none
    | 3 =>
      if self.rights &&& Slot.read ≠ 0 ∧ ¬ st.boundToOther port owner ∧
          (st.notifications port).hasNotification then
        some (owner, flagWordIndex)
      else none
    | _ => none

def handedTo (e : Entry) (st : SystemState) (port : Word) : KernelEntry → Option (ProcessId × Nat)
  | .capabilityCall (.ipcPort self) =>
    (st.proc.cpus e.core).currentProcess.bind fun owner => st.ipcTarget e owner self port
  | .capabilityCall (.notificationPort self) =>
    (st.proc.cpus e.core).currentProcess.bind fun owner => st.notificationTarget e owner self port
  | .interrupt (some self) =>
    (st.proc.cpus e.core).currentProcess.bind fun _ =>
      if self.port = port ∧ self.rights &&& Slot.write ≠ 0 then st.notifyTarget port else none
  | _ => none

/-! ## Binding -/

/-- `notification_port::unbind_process`, whose result CONFIGURE drops. -/
def unbindProcess (port : Word) (target : ProcessId) (st : SystemState) : SystemState :=
  st.modifyNotification port fun port =>
    if port.bindedProcess = some target then { port with bindedProcess := none } else port

def bindProcess (port : Word) (target : ProcessId) (st : SystemState) :
    Outcome KernelError SystemState Unit :=
  if st.boundToOther port target then .error .illegalArgument st
  else .ok () (st.modifyNotification port fun port => { port with bindedProcess := some target })

end SystemState

/-- The system, the port in the `binded_notification_port` slot of every control block, and as a
ghost the identifiers notified at every port since its word was handed out. -/
structure BoundState where
  system : SystemState
  bound : ProcessId → Option Word
  pending : Word → Word

structure Rebinding where
  port : Word
  last : Bool
  before : List Callback := []
  after : List Callback := []
  result : Except CapabilityError Unit := .ok ()

namespace BoundState

open SystemState

def onSystem (f : SystemState → Outcome CapabilityError SystemState Unit) (b : BoundState) :
    Outcome CapabilityError BoundState Unit :=
  ⟨(f b.system).result, { b with system := (f b.system).state }⟩

def removeBound (e : Entry) (target : ProcessId) (last : Bool) (b : BoundState) :
    Outcome CapabilityError BoundState Unit :=
  match b.bound target with
  | none => .ok () b
  | some old =>
    let cleared := fun b : BoundState => { b with bound := Function.update b.bound target none }
    if last then
      ((b.onSystem fun st => st.revokeNotificationPort e old).transformError
        fun _ => CapabilityError.fatal).andThen fun _ b =>
          .ok () { cleared b with pending := Function.update b.pending old 0 }
    else .ok () (cleared b)

/-- `configure_notification_port` after the descriptor was found to name a port. The copy into the
slot that was just emptied cannot fail. -/
def configureNotificationPort (e : Entry) (target : ProcessId) (r : Rebinding) (b : BoundState) :
    Outcome CapabilityError BoundState Unit :=
  let b := match b.bound target with
    | none => b
    | some old => { b with system := b.system.unbindProcess old target }
  (b.removeBound e target r.last).andThen fun _ b =>
    (b.onSystem fun st => (st.bindProcess r.port target).transformError
      convertKernelToCapabilityError).andThen fun _ b =>
        .ok () { b with bound := Function.update b.bound target (some r.port) }

/-- `operation_configure` with the flag NOTIFICATION_PORT, when the parts before it succeed. -/
def operationConfigure (e : Entry) (owner target : ProcessId) (r : Rebinding) (b : BoundState) :
    Outcome CapabilityError BoundState Unit :=
  (b.onSystem fun st => st.runCallbacks e r.before).andThen fun _ b =>
    (b.configureNotificationPort e target r).andThen fun _ b =>
      (b.onSystem fun st => st.runCallbacks e r.after).andThen fun _ b =>
        match r.result with
        | .error error => .error error b
        | .ok _ => b.onSystem fun st => st.operationConfigure e owner target

def configured (e : Entry) (owner target : ProcessId) (r : Rebinding) (b : BoundState) :
    BoundState :=
  let o := b.operationConfigure e owner target r
  { o.state with system := reportResult e owner ⟨o.result, o.state.system⟩ }

/-- The end of `process_control_block::revoke`: neither side refers to the other any more. -/
def release (target : ProcessId) (b : BoundState) : BoundState :=
  match b.bound target with
  | none => b
  | some old => { b with
      system := b.system.unbindProcess old target
      bound := Function.update b.bound target none }

def handle (e : Entry) (entry : KernelEntry) (b : BoundState) : BoundState where
  system := b.system.handle e entry
  bound := b.bound
  pending := fun port =>
    if (b.system.handedTo e port entry).isSome then 0
    else b.pending port ||| b.system.notified e port entry

end BoundState

open SystemState

def RequestsBinding (e : Entry) (st : SystemState) (owner : ProcessId) : Prop :=
  st.operation e owner = 1 ∧ (st.messageRegister e owner 2).getLsbD 3 = true

def Rebinding.Legal (existing : Finset ProcessId) (r : Rebinding) : Prop :=
  (Invocation.other (r.before ++ r.after) r.result).Legal existing

/-- A run with the bindings. `allowed` restricts the entries, `binds` the CONFIGURE operations. The
slots of a control block that no port points to may be emptied at any time. -/
inductive BindingRun (m : Machine) (allowed : Entry → SystemState → KernelEntry → Prop)
    (binds : Entry → BoundState → ProcessId → Rebinding → Prop) : BoundState → Prop
  | boot : BindingRun m allowed binds ⟨m.boot, fun _ => none, fun _ => 0⟩
  | entry {b : BoundState} (hrun : BindingRun m allowed binds b) (e : Entry) (entry : KernelEntry)
      (hslots : e.boundNotification = b.bound) (hpossible : m.Possible e b.system entry)
      (hallowed : allowed e b.system entry) : BindingRun m allowed binds (b.handle e entry)
  | user {b : BoundState} (hrun : BindingRun m allowed binds b) {st : SystemState}
      (hstep : UserStep b.system st) (hnotifications : st.notifications = b.system.notifications) :
      BindingRun m allowed binds { b with system := st }
  | make {b : BoundState} (hrun : BindingRun m allowed binds b) (address : Word)
      (hstopped : b.system.Stopped (.user address))
      (hsource : (b.system.contexts (.user address)).sourceReplyTarget = none)
      (hdestination : (b.system.contexts (.user address)).destinationReplyTarget = none) :
      BindingRun m allowed binds
        { b with system := b.system.makeProcess m.platform.architecture address }
  | configure {b : BoundState} (hrun : BindingRun m allowed binds b) (e : Entry)
      (owner target : ProcessId) (r : Rebinding)
      (hpossible : m.Possible e b.system (.capabilityCall (.processControlBlock target)))
      (howner : (b.system.proc.cpus e.core).currentProcess = some owner)
      (hrequest : RequestsBinding e b.system owner) (hlegal : r.Legal m.existing)
      (hbinds : binds e b target r) : BindingRun m allowed binds (b.configured e owner target r)
  | release {b : BoundState} (hrun : BindingRun m allowed binds b) (target : ProcessId) :
      BindingRun m allowed binds (b.release target)
  | vacate {b : BoundState} (hrun : BindingRun m allowed binds b) (target : ProcessId)
      (hunbound : ∀ port, (b.system.notifications port).bindedProcess ≠ some target) :
      BindingRun m allowed binds { b with bound := Function.update b.bound target none }

namespace BoundState

variable {e : Entry} {s : Setting} {b : BoundState} {owner target : ProcessId} {r : Rebinding}

section

variable (port : Word) (target : ProcessId) (st : SystemState)

theorem alike_unbindProcess : Alike st (st.unbindProcess port target) := by
  refine (Alike.refl st).modifyNotification port _ fun fields => ?_
  split <;> rfl

theorem alike_bindProcess : Alike st (st.bindProcess port target).state := by
  unfold bindProcess
  split
  · exact .refl st
  · exact (Alike.refl st).modifyNotification port
      (fun fields => { fields with bindedProcess := some target }) fun _ => rfl

end

theorem coherent_runCallbacks (hs : s.Admits e) {callbacks : List Callback}
    (hlegal : ∀ id, .process id ∈ callbacks → ∀ core, id ≠ .idle core)
    (h : Coherent s b.system) :
    Coherent s (b.onSystem fun st => st.runCallbacks e callbacks).state.system :=
  (Placed.runCallbacks hs callbacks h hlegal).state (fun _ _ hc => hc) fun _ _ hc => hc

theorem coherent_removeBound (hs : s.Admits e) (last : Bool) (h : Coherent s b.system) :
    Coherent s (b.removeBound e target last).state.system := by
  unfold removeBound
  split
  · exact h
  next old _ =>
    dsimp only
    split
    · apply Outcome.andThen_keeps (P := fun b : BoundState => Coherent s b.system)
      · rw [Outcome.transformError_state]
        exact (Placed.runCallback hs (.notificationPort old) h (by simp)).state (fun _ _ hc => hc)
          fun _ _ hc => hc
      · exact fun _ _ hrevoked => hrevoked
    · exact h

theorem coherent_configureNotificationPort (hs : s.Admits e) (h : Coherent s b.system) :
    Coherent s (b.configureNotificationPort e target r).state.system := by
  unfold configureNotificationPort
  apply Outcome.andThen_keeps (P := fun b : BoundState => Coherent s b.system)
  · apply coherent_removeBound hs
    split
    · exact h
    · exact h.alike (alike_unbindProcess _ _ _)
  · intro _ b1 hremoved
    apply Outcome.andThen_keeps (P := fun b : BoundState => Coherent s b.system)
    · unfold onSystem
      rw [Outcome.transformError_state]
      exact hremoved.alike (alike_bindProcess r.port target b1.system)
    · exact fun _ _ hbound => hbound

theorem coherent_configured (owner : ProcessId) (hs : s.Admits e) (hlegal : r.Legal s.existing)
    (htarget : ∀ core, target ≠ .idle core) (h : Coherent s b.system) :
    Coherent s (b.configured e owner target r).system := by
  have hbefore : ∀ id, .process id ∈ r.before → ∀ core, id ≠ .idle core :=
    fun id hid => hlegal id (List.mem_append_left _ hid)
  have hafter : ∀ id, .process id ∈ r.after → ∀ core, id ≠ .idle core :=
    fun id hid => hlegal id (List.mem_append_right _ hid)
  have hconfigured : Coherent s (b.operationConfigure e owner target r).state.system := by
    unfold operationConfigure
    apply Outcome.andThen_keeps (P := fun b : BoundState => Coherent s b.system)
      (coherent_runCallbacks hs hbefore h)
    intro _ b1 hfirst
    apply Outcome.andThen_keeps (P := fun b : BoundState => Coherent s b.system)
      (coherent_configureNotificationPort hs hfirst)
    intro _ b2 hbound
    apply Outcome.andThen_keeps (P := fun b : BoundState => Coherent s b.system)
      (coherent_runCallbacks hs hafter hbound)
    intro _ b3 hlast
    split
    · exact hlast
    · obtain ⟨place, hplaced, harrived⟩ := hlast
      have hidle : place target ≠ .idle := by
        intro heq
        obtain ⟨core, hcore⟩ := (hplaced.idle target).mp heq
        exact htarget core hcore
      exact (hplaced.operationConfigure hs harrived hidle owner).state (fun _ _ hc => hc)
        fun _ _ hc => hc
  exact hconfigured.alike (Placed.alike_reportResult (e := e) owner
    ⟨(b.operationConfigure e owner target r).result,
      (b.operationConfigure e owner target r).state.system⟩)

theorem coherent_release (h : Coherent s b.system) : Coherent s (b.release target).system := by
  unfold release
  split
  · exact h
  · exact h.alike (alike_unbindProcess _ _ _)

end BoundState

namespace BindingRun

variable {m : Machine} {allowed : Entry → SystemState → KernelEntry → Prop}
  {binds : Entry → BoundState → ProcessId → Rebinding → Prop} {e : Entry} {b : BoundState}

theorem configure_entered {target : ProcessId} (h : Coherent (m.setting true) b.system)
    (hpossible : m.Possible e b.system (.capabilityCall (.processControlBlock target)))
    (hipi : e.platform.smpEnabled = true → ∀ core, e.sendIpi core = true) :
    Setting.Admits { m.setting true with root := e.root } e ∧
      ∃ place, Placed { m.setting true with root := e.root } none none b.system place ∧
        Arrived place := by
  have hsilent : m.Possible e b.system (.capabilityCall .unconfigured) :=
    { hpossible with legal := ⟨trivial, hpossible.legal.2⟩ }
  apply h.entered hsilent ⟨?_, hipi⟩ (by simp)
  simp only [SystemState.handle, handleCapabilityCall]
  split <;> rfl

theorem coherent (hreliable : ∀ e st entry, allowed e st entry → st.Reliable e entry)
    (hipi : ∀ e b target r, binds e b target r →
      e.platform.smpEnabled = true → ∀ core, e.sendIpi core = true)
    (hrun : BindingRun m allowed binds b) : Coherent (m.setting true) b.system := by
  induction hrun with
  | boot => exact ⟨m.bootPlace, placed_boot m true, arrived_bootPlace⟩
  | entry hrun e entry hslots hpossible hallowed ih =>
    exact coherent_step hreliable (by simp) ih (.entry e entry hpossible hallowed)
  | user hrun hstep hnotifications ih => exact ih.alike hstep.alike
  | make hrun address hstopped hsource hdestination ih =>
    exact coherent_step hreliable (by simp) ih (.make address hstopped hsource hdestination)
  | configure hrun e owner target r hpossible howner hrequest hlegal hbinds ih =>
    obtain ⟨hadmits, hentered⟩ := configure_entered ih hpossible (hipi e _ target r hbinds)
    obtain ⟨place, hplaced, harrived⟩ := BoundState.coherent_configured owner hadmits hlegal
      hpossible.legal.1.2 hentered
    exact ⟨place, hplaced.reroot harrived (fun _ => 1) (by simp) (by simp), harrived⟩
  | release hrun target ih => exact BoundState.coherent_release ih
  | vacate hrun target hunbound ih => exact ih

end BindingRun

end A9N.Kernel
