import A9N.Kernel.Ipc.Bystanders
import A9N.Kernel.Ipc.Messages
import A9N.Kernel.Ipc.ReplyDuality

/-!
# Where a message comes from

The receiver of a message finds its source in register 2 and the identifier of the capability that
was invoked in register 3. Only the kernel may put a source other than NORMAL there.
-/

namespace A9N.Kernel

open Hal

theorem RegisterField.saved_ne {architecture : Architecture} {index : Nat} (field : RegisterField)
    (hindex : index < messageRegisterCount) :
    messageRegisterIndex architecture index ≠ field.saved architecture := by
  unfold messageRegisterCount at hindex
  cases architecture with
  | x86_64 =>
    interval_cases index <;> cases field <;>
      simp [messageRegisterIndex, saved, instructionPointerIndex]
  | aarch64 =>
    cases field <;> simp only [messageRegisterIndex, saved, instructionPointerIndex] <;>
      split_ifs <;> omega

namespace SystemState

open ProcState

/-- The identifiers of the capabilities with which processes last made a SEND or a CALL. -/
def recordInvocation (e : Entry) (st : SystemState) (invoked : ProcessId → Word) :
    KernelEntry → ProcessId → Word
  | .capabilityCall (.ipcPort self) =>
    match (st.proc.cpus e.core).currentProcess with
    | none => invoked
    | some owner =>
      if st.operation e owner = 1 ∨ st.operation e owner = 3 then
        Function.update invoked owner self.identifier
      else invoked
  | _ => invoked

inductive MessageRun (m : Machine) (allowed : Entry → SystemState → KernelEntry → Prop) :
    SystemState → (ProcessId → Word) → Prop
  | boot : MessageRun m allowed m.boot fun _ => 0
  | entry {st : SystemState} {invoked : ProcessId → Word} (hrun : MessageRun m allowed st invoked)
      (e : Entry) (entry : KernelEntry) (hpossible : m.Possible e st entry)
      (hallowed : allowed e st entry) :
      MessageRun m allowed (st.handle e entry) (st.recordInvocation e invoked entry)
  | user {st st' : SystemState} {invoked : ProcessId → Word}
      (hrun : MessageRun m allowed st invoked) (hstep : UserStep st st')
      (hcontexts : st'.contexts = st.contexts) : MessageRun m allowed st' invoked
  | make {st : SystemState} {invoked : ProcessId → Word} (hrun : MessageRun m allowed st invoked)
      (address : Word) (hstopped : st.Stopped (.user address))
      (hsource : (st.contexts (.user address)).sourceReplyTarget = none)
      (hdestination : (st.contexts (.user address)).destinationReplyTarget = none) :
      MessageRun m allowed (st.makeProcess m.platform.architecture address) invoked

/-- The entry hands a message of `sender`, not a fault, to `receiver`: SEND and CALL find a
receiver, RECEIVE and REPLY_RECEIVE find a sender. -/
def Delivers (e : Entry) (st : SystemState) (sender receiver : ProcessId) : KernelEntry → Prop
  | .capabilityCall (.ipcPort self) =>
    ∃ owner, (st.proc.cpus e.core).currentProcess = some owner ∧
      MessageInfo.isNormal (st.messageRegister e owner messageInfoIndex) = true ∧
      ((st.operation e owner = 1 ∨ st.operation e owner = 3) ∧
          self.rights &&& Slot.write ≠ 0 ∧ (st.ports self.port).state = .readyToReceive ∧
          (st.ports self.port).queueHead = some receiver ∧ sender = owner ∨
        (st.operation e owner = 2 ∨ st.operation e owner = 5 ∧ (st.completeReply e true owner
            (st.messageRegister e owner messageInfoIndex)).succeeded = true) ∧
          self.rights &&& Slot.read ≠ 0 ∧ (st.ports self.port).state = .readyToSend ∧
          (st.ports self.port).queueHead = some sender ∧ receiver = owner ∧
          (st.contexts sender).faultReason = .none)
  | _ => False

def Sealed (architecture : Architecture) (invoked : ProcessId → Word) (st : SystemState) : Prop :=
  ∀ id, (st.proc.processes id).status = .blockedSend →
    MessageInfo.isNormal
      (st.registers id (messageRegisterIndex architecture messageInfoIndex)) = true ∧
    (st.contexts id).identifierWhenBlocked = invoked id

/-- Nobody writes the registers of a process that is blocked as a sender. -/
def SparesSenders (e : Entry) (st : SystemState) : KernelEntry → Prop
  | .capabilityCall (.processControlBlock target) =>
    ∀ owner, (st.proc.cpus e.core).currentProcess = some owner → st.operation e owner = 3 →
      (st.proc.processes target).status ≠ .blockedSend
  | _ => True

variable {m : Machine} {e : Entry} {id owner sender receiver : ProcessId} {st st' : SystemState}
  {s : Setting} {place : ProcessId → Place} {invoked : ProcessId → Word} {entry : KernelEntry}

/-! ## Who blocks as a sender -/

def UnblockedAccess (id : ProcessId) (access : Access) : Prop :=
  access ≠ .status id .blockedSend

theorem runs_unblockedAccess (other : ProcessId) : Runs (UnblockedAccess id) other :=
  ⟨⟨⟨⟨by simp [UnblockedAccess], by simp [UnblockedAccess], by simp [UnblockedAccess],
    by simp [UnblockedAccess]⟩, by simp [UnblockedAccess]⟩, by simp [UnblockedAccess],
    by simp [UnblockedAccess], by simp [UnblockedAccess], by simp [UnblockedAccess]⟩,
    by simp [UnblockedAccess], by simp [UnblockedAccess]⟩

theorem Writes.not_blockedSend (h : Writes (UnblockedAccess id) st st')
    (hstatus : (st.proc.processes id).status ≠ .blockedSend) :
    (st'.proc.processes id).status ≠ .blockedSend := by
  rcases h.calm id with heq | hother
  · rwa [heq]
  · intro hblocked
    rw [hblocked] at hother
    exact hother rfl

theorem callbacksAdmitted_of_errs {may : Access → Prop} (herrs : Errs e may id)
    (hreset : may (.reset id))
    (hcounter : may (.registers id (instructionPointerIndex e.platform.architecture)))
    (callbacks : List Callback) (st : SystemState) : CallbacksAdmitted may id e callbacks st := by
  induction callbacks generalizing st with
  | nil => trivial
  | cons callback rest ih =>
    refine ⟨?_, fun st' _ => ih st'⟩
    cases callback with
    | ipcPort port => exact fun _ => herrs
    | notificationPort port => exact fun _ => herrs
    | process target =>
      exact ⟨fun _ => herrs, fun _ => ⟨herrs.suspend, hreset, fun _ _ => hcounter⟩⟩

theorem handle_not_blockedSend (hstatus : (st.proc.processes id).status ≠ .blockedSend)
    (hother : ∀ self, entry = .capabilityCall (.ipcPort self) →
      (st.proc.cpus e.core).currentProcess = some id →
      st.operation e id ≠ 1 ∧ st.operation e id ≠ 3) :
    ((st.handle e entry).proc.processes id).status ≠ .blockedSend := by
  have hruns : Runs (UnblockedAccess id) id := runs_unblockedAccess id
  have hprotects : Protects (UnblockedAccess id) id := ⟨⟨fun other _ => runs_unblockedAccess other,
      fun other hne heq => hne (by simpa [UnblockedAccess] using heq)⟩, by simp [UnblockedAccess],
      by simp [UnblockedAccess], by simp [UnblockedAccess]⟩
  have hadmitted : Admitted (UnblockedAccess id) id st :=
    ⟨⟨fun _ _ _ => hruns.toHandles, fun _ _ _ => hruns.toMoves, fun _ _ => hruns.toHandles,
      fun _ => hruns.toHandles⟩, fun _ _ => hruns⟩
  apply (handle_writes hprotects hadmitted entry _).not_blockedSend hstatus
  cases entry with
  | capabilityCall invocation =>
    intro owner howner
    cases invocation with
    | ipcPort self =>
      refine ⟨fun heq hop => ?_, fun _ => ⟨fun _ => hruns.errs e,
        fun _ => ⟨hruns.toHandles, hruns.fault⟩⟩⟩
      obtain ⟨hsend, hcall⟩ := hother self rfl (heq ▸ howner)
      rw [heq] at hop
      exact hop.elim (fun h => absurd h hsend) fun h => absurd h hcall
    | processControlBlock target =>
      exact fun _ => ⟨fun _ _ => hruns.registers _, fun _ => hruns.registers,
        fun _ => ⟨hruns.toMoves, hruns.fault⟩,
        fun _ => ⟨hruns.errs e, hruns.fault, hruns.registers _⟩⟩
    | other callbacks result =>
      exact callbacksAdmitted_of_errs (hruns.errs e) hruns.reset (hruns.registers _) callbacks st
    | _ => trivial
  | _ => trivial

def BlockingAccess (id : ProcessId) : Access → Prop
  | .registers other _ | .reset other | .identify other => other ≠ id
  | _ => True

theorem identify_identifier (st : SystemState) (owner : ProcessId) (self : PortSlot) :
    ((st.identify owner self).contexts owner).identifierWhenBlocked = self.identifier := by
  unfold identify
  rw [modifyContext_contexts, if_pos rfl]

/-- Where the owner is then blocked in a send, its registers are as before and it has recorded the
identifier of its slot. -/
def Seals (owner : ProcessId) (self : PortSlot) (st st' : SystemState) : Prop :=
  (st'.proc.processes owner).status = .blockedSend →
    st'.registers owner = st.registers owner ∧
      (st'.contexts owner).identifierWhenBlocked = self.identifier

theorem Seals.waitAt {st1 : SystemState} (hkept : st1.registers owner = st.registers owner)
    (port : Word) (self : PortSlot) :
    Seals owner self st ((st1.identify owner self).waitAt e port owner).state := by
  intro _
  have hwrites : Writes (BlockingAccess owner) (st1.identify owner self)
      ((st1.identify owner self).waitAt e port owner).state :=
    ((Writes.refl _).keeps e).waitAt port trivial
  rw [hwrites.registers_eq (fun _ hmay => hmay rfl) fun hmay => hmay rfl,
    hwrites.identifier_eq fun hmay => hmay rfl]
  exact ⟨hkept, identify_identifier st1 owner self⟩

theorem tryDeliverPendingBindedNotification_false (owner : ProcessId) (st1 : SystemState)
    (hnone : st.tryDeliverPendingBindedNotification e owner = .ok false st1) : st1 = st := by
  have hdelivered : ∀ o : Outcome CapabilityError SystemState Unit,
      (o.andThen fun _ st2 => Outcome.ok true st2) ≠ .ok false st1 := by
    rintro ⟨_ | _, _⟩ heq <;> cases heq
  unfold tryDeliverPendingBindedNotification at hnone
  split at hnone
  · cases hnone
    rfl
  · split at hnone
    · exact absurd hnone (hdelivered _)
    · cases hnone
      rfl

section

variable (hstatus : (st.proc.processes owner).status ≠ .blockedSend) (self : PortSlot)
include hstatus

theorem Seals.of_writes (h : Writes (UnblockedAccess owner) st st') : Seals owner self st st' :=
  fun hblocked => absurd hblocked (h.not_blockedSend hstatus)

theorem operationSend_seals (info : Word) :
    Seals owner self st (st.operationSend e owner self info).state := by
  have hunchanged : Seals owner self st st := .of_writes hstatus self (.refl st)
  refine operationSend_cases (motive := fun o => Seals owner self st o.state) hunchanged hunchanged
    (fun _ => ?_) fun _ => ?_
  · apply Seals.waitAt
    rfl
  · apply Seals.of_writes hstatus
    apply Keeps.popIpcQueue_andThen (i := (Writes.walk e (UnblockedAccess owner) st).inv) (.refl st)
      self.port (P := fun _ => True) fun _ _ => trivial
    exact fun target _ _ hpopped => hpopped.sendTo trivial (runs_unblockedAccess owner).identify
      (runs_unblockedAccess target).toHandles self info

theorem operationCall_seals (info : Word) :
    Seals owner self st (st.operationCall e owner self info).state := by
  have howner : Runs (UnblockedAccess owner) owner := runs_unblockedAccess owner
  have hunchanged : Seals owner self st st := .of_writes hstatus self (.refl st)
  refine operationCall_cases (motive := fun o => Seals owner self st o.state) hunchanged hunchanged
    (fun _ => ?_) fun _ => ?_
  · have hdelivery : Writes (UnblockedAccess owner) st
        (st.tryDeliverPendingBindedNotification e owner).state :=
      ((Writes.refl st).keeps e).tryDeliverPendingBindedNotification howner.registers
        fun _ _ => by simp [UnblockedAccess]
    have hundelivered : ∀ st1, st.tryDeliverPendingBindedNotification e owner = .ok false st1 →
        st1 = st := tryDeliverPendingBindedNotification_false owner
    generalize st.tryDeliverPendingBindedNotification e owner = o at hdelivery hundelivered
    obtain ⟨_ | delivered, st1⟩ := o
    · exact .of_writes hstatus self hdelivery
    · cases delivered with
      | true => exact .of_writes hstatus self hdelivery
      | false =>
        obtain rfl := hundelivered st1 rfl
        apply Seals.waitAt
        rfl
  · apply Seals.of_writes hstatus
    apply Keeps.popIpcQueue_andThen (i := (Writes.walk e (UnblockedAccess owner) st).inv) (.refl st)
      self.port (P := fun _ => True) fun _ _ => trivial
    exact fun target _ _ hpopped => hpopped.callTo trivial howner.reply howner.identify
      (runs_unblockedAccess target).toHandles self info

end

/-! ## What waits is sealed -/

def SealAccess (architecture : Architecture) (id : ProcessId) : Access → Prop
  | .registers other index =>
    other = id → index ≠ messageRegisterIndex architecture messageInfoIndex
  | .identify other => other ≠ id
  | _ => True

theorem errs_sealAccess (id other : ProcessId) :
    Errs e (SealAccess e.platform.architecture id) other :=
  ⟨⟨trivial, trivial, trivial, trivial⟩, fun index hindex _ =>
    messageRegisterIndex_ne (by unfold messageInfoIndex; omega)
      (by unfold messageRegisterCount; omega) (by decide)⟩

theorem protects_sealAccess (architecture : Architecture) (id : ProcessId) :
    Protects (SealAccess architecture id) id where
  runs _ hother := ⟨⟨⟨⟨trivial, trivial, trivial, trivial⟩, fun _ heq => absurd heq hother⟩,
    trivial, hother, trivial, trivial⟩, trivial, trivial⟩
  send _ _ := trivial
  notify _ _ := trivial
  consume _ := trivial
  unbind _ := trivial

section Places

variable (h : Placed s none none st place) (harrived : Arrived place)
  (hstatus : (st.proc.processes id).status = .blockedSend)

include h hstatus

include harrived in
theorem Placed.waits_of_blockedSend :
    ∃ port, place id = .ipc port ∧ (st.ports port).state = .readyToSend := by
  have hfit := h.fits id (by simp)
  cases hcase : place id with
  | ipc port =>
    refine ⟨port, rfl, ?_⟩
    rw [hcase] at hfit
    cases hstate : (st.ports port).state with
    | readyToSend => rfl
    | wait => simp [Fits, hstate, Waits] at hfit
    | readyToReceive => simp [Fits, hstate, Waits, hstatus] at hfit
  | moving => exact absurd hcase (harrived id)
  | _ =>
    rw [hcase] at hfit
    simp [Fits, hstatus] at hfit

include harrived in
theorem Placed.not_current_of_blockedSend (core : Nat) :
    (st.proc.cpus core).currentProcess ≠ some id := by
  intro hcurrent
  obtain ⟨port, hplace, -⟩ := h.waits_of_blockedSend harrived hstatus
  rcases h.current_cases hcurrent with hcore | ⟨hidle, -⟩
  · simp [hplace] at hcore
  · simp [(h.idle id).mpr ⟨core, hidle⟩] at hplace

include harrived in
theorem Placed.admitted_sealAccess (architecture : Architecture) :
    Admitted (SealAccess architecture id) id st where
  current core hcurrent := absurd hcurrent (h.not_current_of_blockedSend harrived hstatus core)
  receiver port hstate hhead := by
    have hwaits := h.waits_of_head hhead
    rw [hstate] at hwaits
    simp [Waits, hstatus] at hwaits
  sender _ _ _ := ⟨trivial, trivial, trivial, trivial⟩
  waiter port hhead := by
    have hheld : st.HeldBy id (.notificationPort port) := ⟨id, hhead, .refl⟩
    have hfit := h.fits_at _ (h.heldBy_notificationPort.mp hheld)
    simp [Fits, hstatus] at hfit
  bound hreceive := absurd (hstatus.symm.trans hreceive) (by simp)

include harrived in
theorem Placed.handle_sealAccess (hspares : SparesSenders e st entry) :
    Writes (SealAccess e.platform.architecture id) st (st.handle e entry) := by
  have herrs := errs_sealAccess (e := e) id id
  have hfield : ∀ field : RegisterField, SealAccess e.platform.architecture id
      (.registers id (field.saved e.platform.architecture)) :=
    fun field _ => (RegisterField.saved_ne field (by decide)).symm
  apply handle_writes (protects_sealAccess _ id) (h.admitted_sealAccess harrived hstatus _) entry
  cases entry with
  | capabilityCall invocation =>
    intro owner howner
    cases invocation with
    | ipcPort self =>
      refine ⟨fun _ _ => trivial, fun hclient => ⟨fun _ => herrs, fun _ => ?_⟩⟩
      -- whoever is to be answered waits for its reply, not at a port
      have hreply := (h.replies.place id).mp (by simp [(h.replies.dual id owner).mpr hclient])
      obtain ⟨port, hplace, -⟩ := h.waits_of_blockedSend harrived hstatus
      simp [hplace] at hreply
    | processControlBlock target =>
      rintro rfl
      exact ⟨fun _ => hfield, fun hop => absurd hstatus (hspares owner howner hop),
        fun _ => ⟨herrs.toMoves, trivial⟩,
        fun _ => ⟨herrs, trivial, hfield .instructionPointer⟩⟩
    | other callbacks result =>
      exact callbacksAdmitted_of_errs herrs trivial (hfield .instructionPointer) callbacks st
    | _ => trivial
  | _ => trivial

end Places

def ResultAccess (architecture : Architecture) (owner : ProcessId) : Access → Prop
  | .registers id index =>
    id = owner ∧ ∃ result < 2, index = messageRegisterIndex architecture result
  | _ => False

theorem reportResult_writes (o : Outcome CapabilityError SystemState Unit) :
    Writes (ResultAccess e.platform.architecture owner) o.state (reportResult e owner o) :=
  ((Writes.refl o.state).keeps e).reportResult fun index hindex => ⟨rfl, index, hindex, rfl⟩

theorem reportResult_register (o : Outcome CapabilityError SystemState Unit) {index : Nat}
    (hlower : 2 ≤ index) (hindex : index < messageRegisterCount) (id : ProcessId) :
    (reportResult e owner o).registers id (messageRegisterIndex e.platform.architecture index) =
      o.state.registers id (messageRegisterIndex e.platform.architecture index) := by
  refine (reportResult_writes o).register_eq ?_ fun hfalse => hfalse
  rintro ⟨-, result, hresult, heq⟩
  exact messageRegisterIndex_ne (by omega) hindex (by unfold messageRegisterCount; omega) heq

theorem handle_seals (hcurrent : (st.proc.cpus e.core).currentProcess = some owner)
    (self : PortSlot)
    (hop : st.operation e owner = 1 ∨ st.operation e owner = 3)
    (hstatus : (st.proc.processes owner).status ≠ .blockedSend)
    (hblocked : ((st.handle e (.capabilityCall (.ipcPort self))).proc.processes owner).status =
      .blockedSend) :
    MessageInfo.isNormal ((st.handle e (.capabilityCall (.ipcPort self))).registers owner
        (messageRegisterIndex e.platform.architecture messageInfoIndex)) = true ∧
      ((st.handle e (.capabilityCall (.ipcPort self))).contexts owner).identifierWhenBlocked =
        self.identifier := by
  have hhandle : st.handle e (.capabilityCall (.ipcPort self)) =
      reportResult e owner (st.executeIpcPort e owner self) := by
    unfold SystemState.handle
    rw [hcurrent]
    rfl
  rw [hhandle] at hblocked ⊢
  have hreport : Writes (ResultAccess e.platform.architecture owner) _ _ :=
    reportResult_writes (st.executeIpcPort e owner self)
  have hblocked' : ((st.executeIpcPort e owner self).state.proc.processes owner).status =
      .blockedSend := by
    rcases hreport.calm owner with heq | hfalse
    · rwa [heq] at hblocked
    · exact hfalse.elim
  rw [reportResult_register _ (by decide) (by decide), hreport.identifier_eq fun hfalse => hfalse]
  unfold executeIpcPort at hblocked' ⊢
  dsimp only at hblocked' ⊢
  by_cases hnormal : MessageInfo.isNormal (st.messageRegister e owner messageInfoIndex) = true
  · rw [if_neg (not_not.mpr hnormal)] at hblocked' ⊢
    have hsealed : ∀ o : Outcome CapabilityError SystemState Unit,
        o.state.registers owner = st.registers owner ∧
          (o.state.contexts owner).identifierWhenBlocked = self.identifier →
        MessageInfo.isNormal (o.state.registers owner
          (messageRegisterIndex e.platform.architecture messageInfoIndex)) = true ∧
          (o.state.contexts owner).identifierWhenBlocked = self.identifier := by
      rintro o ⟨hkept, hidentifier⟩
      exact ⟨by rw [hkept]; exact hnormal, hidentifier⟩
    unfold operation at hop
    rcases hop with hop | hop
    · rw [hop] at hblocked' ⊢
      exact hsealed _ (operationSend_seals hstatus self _ hblocked')
    · rw [hop] at hblocked' ⊢
      exact hsealed _ (operationCall_seals hstatus self _ hblocked')
  · rw [if_pos hnormal] at hblocked'
    exact absurd hblocked' hstatus

theorem recordInvocation_of_not_current (hnot : (st.proc.cpus e.core).currentProcess ≠ some id) :
    st.recordInvocation e invoked entry id = invoked id := by
  unfold recordInvocation
  split
  · cases hcurrent : (st.proc.cpus e.core).currentProcess with
    | none => rfl
    | some owner =>
      dsimp only
      split_ifs
      · exact Function.update_of_ne (fun heq => hnot (by rw [hcurrent, heq])) _ _
      · rfl
  · rfl

theorem Sealed.handle (hsealed : Sealed e.platform.architecture invoked st)
    (h : Placed s none none st place) (harrived : Arrived place)
    (hspares : SparesSenders e st entry) :
    Sealed e.platform.architecture (st.recordInvocation e invoked entry) (st.handle e entry) := by
  intro id hblocked
  by_cases hstatus : (st.proc.processes id).status = .blockedSend
  · have hwrites := h.handle_sealAccess harrived hstatus hspares
    have hnot := h.not_current_of_blockedSend harrived hstatus e.core
    rw [hwrites.identifier_eq fun hmay => hmay rfl, recordInvocation_of_not_current hnot]
    refine ⟨?_, (hsealed id hstatus).2⟩
    -- a revocation leaves zero in the register, which is the word of an ordinary message
    apply hwrites.register_kept (P := fun info => MessageInfo.isNormal info = true)
      (fun hmay => hmay rfl rfl) (fun _ architecture => ?_) (hsealed id hstatus).1
    cases architecture <;> cases e.platform.architecture <;> rfl
  · obtain ⟨self, rfl, hcurrent, hop⟩ : ∃ self, entry = .capabilityCall (.ipcPort self) ∧
        (st.proc.cpus e.core).currentProcess = some id ∧
        (st.operation e id = 1 ∨ st.operation e id = 3) := by
      by_contra hnone
      refine handle_not_blockedSend hstatus (fun self hself hcurrent =>
        ⟨fun hop => ?_, fun hop => ?_⟩) hblocked
      · exact hnone ⟨self, hself, hcurrent, .inl hop⟩
      · exact hnone ⟨self, hself, hcurrent, .inr hop⟩
    obtain ⟨hnormal, hidentifier⟩ := handle_seals hcurrent self hop hstatus hblocked
    refine ⟨hnormal, hidentifier.trans ?_⟩
    simp [recordInvocation, hcurrent, hop]

/-! ## Deliveries -/

def Received (architecture : Architecture) (receiver : ProcessId) (info identifier : Word)
    (st : SystemState) : Prop :=
  st.registers receiver (messageRegisterIndex architecture messageInfoIndex) = info ∧
    st.registers receiver (messageRegisterIndex architecture identifierIndex) = identifier

def ReceivedAccess (architecture : Architecture) (receiver : ProcessId) : Access → Prop
  | .registers id index => id = receiver →
      index ≠ messageRegisterIndex architecture messageInfoIndex ∧
        index ≠ messageRegisterIndex architecture identifierIndex
  | .reset id => id ≠ receiver
  | _ => True

theorem moves_receivedAccess (architecture : Architecture) (receiver id : ProcessId) :
    Moves (ReceivedAccess architecture receiver) id :=
  ⟨trivial, trivial, trivial, trivial⟩

section

variable {architecture : Architecture} {info identifier : Word}
  (h : Received architecture receiver info identifier st)
include h

theorem Received.kept (hwrites : Writes (ReceivedAccess architecture receiver) st st') :
    Received architecture receiver info identifier st' :=
  ⟨(hwrites.register_eq (fun hmay => (hmay rfl).1 rfl) fun hmay => hmay rfl).trans h.1,
    (hwrites.register_eq (fun hmay => (hmay rfl).2 rfl) fun hmay => hmay rfl).trans h.2⟩

theorem Received.normal (hnormal : MessageInfo.isNormal info = true) : MessageInfo.isNormal
        (st.registers receiver (messageRegisterIndex architecture messageInfoIndex)) = true ∧
      st.registers receiver (messageRegisterIndex architecture identifierIndex) = identifier :=
  ⟨h.1.symm ▸ hnormal, h.2⟩

end

theorem writeHeader_received (receiver sender : ProcessId) (info : Word) (st : SystemState) :
    Received e.platform.architecture receiver info (st.contexts sender).identifierWhenBlocked
      (st.writeHeader e receiver sender info) := by
  have hne : messageRegisterIndex e.platform.architecture messageInfoIndex ≠
      messageRegisterIndex e.platform.architecture identifierIndex :=
    messageRegisterIndex_ne (by decide) (by decide) (by decide)
  have hinfo : messageInfoIndex < messageRegisterCount := by decide
  have hidentifier : identifierIndex < messageRegisterCount := by decide
  unfold writeHeader configureMessageRegister
  simp [Received, setRegister, hinfo, hidentifier, hne]

theorem transferMessage_received (port : Word) (receiver sender : ProcessId) (info : Word)
    (st : SystemState) :
    Received e.platform.architecture receiver info (st.contexts sender).identifierWhenBlocked
      (st.transferMessage e port receiver sender info).state := by
  have hheader := writeHeader_received (e := e) receiver sender info st
  unfold transferMessage
  dsimp only
  split_ifs
  · exact hheader
  · apply hheader.kept
    change Keeps (Writes.walk e _ (st.writeHeader e receiver sender info)).inv _
    apply Keeps.counted
    apply Keeps.andThen
    · apply Outcome.orElse_keeps (P := Keeps _)
      · apply Keeps.copyMessages _ sender _ _ ((Writes.refl _).keeps e)
        intro index hpayload hindex _
        unfold payloadStart at hpayload
        exact ⟨messageRegisterIndex_ne (by unfold messageInfoIndex; omega) hindex (by decide),
          messageRegisterIndex_ne (by unfold identifierIndex; omega) hindex (by decide)⟩
      · exact fun _ _ hcopied => hcopied.modifyPort port fun port => { port with state := .wait }
    · exact fun _ _ hcopied => hcopied.moveCapabilities receiver sender _

theorem popIpcQueue_then {β : Type} {port : Word} (hhead : (st.ports port).queueHead = some id)
    (next : ProcessId → SystemState → Outcome CapabilityError SystemState β) :
    ((st.popIpcQueue port).transformError convertKernelToCapabilityError).andThen next =
      next id (st.popIpcQueue port).state := by
  rw [popIpcQueue_of_head hhead]
  rfl

theorem operationSend_received (self : PortSlot) (info : Word)
    (hright : self.rights &&& Slot.write ≠ 0)
    (hstate : (st.ports self.port).state = .readyToReceive)
    (hhead : (st.ports self.port).queueHead = some receiver) :
    Received e.platform.architecture receiver info self.identifier
      (st.operationSend e owner self info).state := by
  unfold operationSend
  rw [if_neg hright, hstate]
  dsimp only
  rw [popIpcQueue_then hhead]
  have hreceived := transferMessage_received (e := e) self.port receiver owner info
    (((st.popIpcQueue self.port).state.setStatus receiver .ready).identify owner self)
  rw [identify_identifier] at hreceived
  apply Outcome.andThen_keeps (P := Received _ _ _ _) hreceived
  exact fun _ st1 htransferred => htransferred.kept (Keeps.transformError
    ((Writes.walk e _ st1).wake (.refl st1) trivial (moves_receivedAccess _ _ _)) _)

theorem operationCall_received (h : Placed s none none st place) (self : PortSlot) (info : Word)
    (hright : self.rights &&& Slot.write ≠ 0)
    (hstate : (st.ports self.port).state = .readyToReceive)
    (hhead : (st.ports self.port).queueHead = some receiver) :
    Received e.platform.architecture receiver info self.identifier
      (st.operationCall e owner self info).state := by
  have hfree := h.neverOccupied.popped self.port receiver _ hstate (popIpcQueue_of_head hhead)
  unfold operationCall
  rw [if_neg hright, hstate]
  dsimp only
  rw [popIpcQueue_then hhead]
  generalize (st.popIpcQueue self.port).state = st1 at hfree
  have hfree' : ((st1.identify owner self).contexts receiver).destinationReplyState = .none := by
    unfold identify
    rw [modifyContext_contexts]
    split_ifs with heq
    · rwa [heq] at hfree
    · exact hfree
  have hlinked : Writes (BlockingAccess owner) (st1.identify owner self)
      ((((st1.identify owner self).linkReply receiver owner).setStatus owner
        .blockedReply).modifyContext owner fun context =>
          { context with sourceReplyState := .wait }) :=
    ((((Writes.refl (st1.identify owner self)).keeps e).linkReply receiver owner).setStatus
      trivial).context owner _ fun _ => rfl
  have hreceived := transferMessage_received (e := e) self.port receiver owner info
    ((((st1.identify owner self).linkReply receiver owner).setStatus owner
      .blockedReply).modifyContext owner fun context => { context with sourceReplyState := .wait })
  rw [hlinked.identifier_eq fun hmay => hmay rfl, identify_identifier] at hreceived
  unfold callTo
  dsimp only
  rw [if_neg (not_not.mpr hfree')]
  apply Outcome.andThen_keeps (P := Received _ _ _ _) hreceived
  exact fun _ st2 htransferred => htransferred.kept (Keeps.transformError
    ((Writes.walk e _ st2).direct (((Writes.refl st2).keeps e).setStatus trivial) trivial
      (moves_receivedAccess _ _ _)) _)

theorem tryReceiveFromReadySender_received {port : Word}
    (hstate : (st.ports port).state = .readyToSend)
    (hhead : (st.ports port).queueHead = some sender)
    (hanswered : (st.contexts receiver).destinationReplyState = .none)
    (hfault : (st.contexts sender).faultReason = .none) :
    Received e.platform.architecture receiver (st.messageRegister e sender messageInfoIndex)
      (st.contexts sender).identifierWhenBlocked
      (st.tryReceiveFromReadySender e port receiver).state := by
  have honly := (IpcOnly.refl st).popIpcQueue port
  have hwrites : Writes (BlockingAccess sender) st (st.popIpcQueue port).state :=
    ((Writes.refl st).keeps e).popIpcQueue port
  have hword := congrFun (hwrites.registers_eq (fun _ hmay => hmay rfl) fun hmay => hmay rfl)
    (messageRegisterIndex e.platform.architecture messageInfoIndex)
  have hidentifier : ((st.popIpcQueue port).state.contexts sender).identifierWhenBlocked =
      (st.contexts sender).identifierWhenBlocked := hwrites.identifier_eq fun hmay => hmay rfl
  unfold tryReceiveFromReadySender
  rw [if_neg (by simp [hstate]), popIpcQueue_then hhead]
  have hanswered' := (honly.field IpcContext.destinationReplyState (fun _ => rfl) receiver).trans
    hanswered
  have hfault' := (honly.field IpcContext.faultReason (fun _ => rfl) sender).trans hfault
  generalize (st.popIpcQueue port).state = st1 at hword hidentifier hanswered' hfault'
  have hreceived := transferMessage_received (e := e) port receiver sender
    (st1.messageRegister e sender messageInfoIndex) st1
  rw [hidentifier] at hreceived
  rw [if_neg (not_not.mpr hanswered'), if_neg (not_not.mpr hfault')]
  have hregister : st1.messageRegister e sender messageInfoIndex =
      st.messageRegister e sender messageInfoIndex := hword
  rw [← hregister]
  apply Outcome.andThen_keeps (P := Received _ _ _ _) hreceived
  intro _ st2 htransferred
  apply htransferred.kept
  split
  · exact (((Writes.refl st2).keeps e).linkReply receiver sender).setStatus trivial
  · refine Keeps.transformError ((Writes.walk e _ st2).wake (Keeps.setStatus ?_ trivial) trivial
      (moves_receivedAccess _ _ _)) _
    exact ((Writes.refl st2).keeps e).context receiver _ fun _ => by rfl

def AsideAccess (id : ProcessId) : Access → Prop
  | .registers other _ | .reset other | .identify other | .fault other => other ≠ id
  | _ => True

theorem handles_asideAccess {other : ProcessId} (hne : other ≠ id) :
    Handles (AsideAccess id) other :=
  ⟨⟨trivial, trivial, trivial, trivial⟩, fun _ => hne⟩

theorem tryReceiveFromReadySender_received_aside {port : Word}
    (hstate : (st.ports port).state = .readyToSend)
    (hhead : (st.ports port).queueHead = some sender)
    (hfault : (st.contexts sender).faultReason = .none) (hports : st'.ports = st.ports)
    (hanswers : Answers receiver st') (hwrites : Writes (AsideAccess sender) st st') :
    Received e.platform.architecture receiver (st.messageRegister e sender messageInfoIndex)
      (st.contexts sender).identifierWhenBlocked
      (st'.tryReceiveFromReadySender e port receiver).state := by
  have hword : st'.messageRegister e sender messageInfoIndex =
      st.messageRegister e sender messageInfoIndex :=
    congrFun (hwrites.registers_eq (fun _ hmay => hmay rfl) fun hmay => hmay rfl) _
  rw [← hword, ← hwrites.identifier_eq fun hmay => hmay rfl]
  apply tryReceiveFromReadySender_received (by rw [hports, hstate]) (by rw [hports, hhead]) hanswers
  rw [hwrites.faultReason_eq fun hmay => hmay rfl, hfault]

section Receiving

variable (h : Placed s none none st place) {self : PortSlot}
  (hright : self.rights &&& Slot.read ≠ 0) (hstate : (st.ports self.port).state = .readyToSend)
  (hhead : (st.ports self.port).queueHead = some sender)
  (hfault : (st.contexts sender).faultReason = .none) (info : Word)

include h hhead in
theorem Placed.client_ne_sender {client : ProcessId}
    (hclient : (st.contexts owner).destinationReplyTarget = some client) : client ≠ sender := by
  rintro rfl
  have hheld : st.HeldBy client (.ipcPort self.port) := ⟨client, hhead, .refl⟩
  have hreply := (h.replies.place client).mp (by simp [(h.replies.dual client owner).mpr hclient])
  rw [h.heldBy_ipcPort.mp hheld] at hreply
  cases hreply

include h hright hstate hhead hfault

theorem Placed.operationReceive_received (hs : s.Admits e) (harrived : Arrived place) {core : Nat}
    (howner : place owner = .current core) :
    Received e.platform.architecture owner (st.messageRegister e sender messageInfoIndex)
      (st.contexts sender).identifierWhenBlocked (st.operationReceive e owner self info).state := by
  have hwrites : Writes (AsideAccess sender) st (st.discardReply e owner).state :=
    ((Writes.refl st).keeps e).discardReply owner fun _ client hclient =>
      ⟨(handles_asideAccess (h.client_ne_sender hhead hclient)).errs e, .inl trivial⟩
  have hports := discardReply_ports (e := e) owner st
  have hsettles := h.discardReply hs harrived howner
  unfold SystemState.operationReceive
  rw [if_neg hright]
  generalize st.discardReply e owner = o at hwrites hports hsettles
  obtain ⟨_ | _, st1⟩ := o
  · exact hsettles.elim
  · obtain ⟨-, -, -, -, hanswers, -⟩ := hsettles
    dsimp only [Outcome.andThen]
    have hstate1 : (st1.ports self.port).state = .readyToSend := by rw [hports, hstate]
    rw [hstate1]
    exact tryReceiveFromReadySender_received_aside hstate hhead hfault hports hanswers hwrites

theorem Placed.operationReplyReceive_received
    (hsettled : (st.completeReply e true owner info).succeeded = true) :
    Received e.platform.architecture owner (st.messageRegister e sender messageInfoIndex)
      (st.contexts sender).identifierWhenBlocked
      (st.operationReplyReceive e owner self info).state := by
  have hwrites : Writes (AsideAccess sender) st (st.completeReply e true owner info).state :=
    ((Writes.refl st).keeps e).completeReply trivial (fun client hclient =>
      ⟨handles_asideAccess (h.client_ne_sender hhead hclient), h.client_ne_sender hhead hclient⟩)
      true info
  have hports := completeReply_ports (e := e) true owner info st
  have hanswers : (st.completeReply e true owner info).Post (fun _ => Answers owner) fun _ _ =>
      True := completeReply_answers e owner info
  -- a server that finds a sender does not switch to its caller
  have hindirect : st.repliesDirectly e owner self.port info = false := by
    unfold repliesDirectly
    split <;> simp [hstate]
  unfold SystemState.operationReplyReceive
  rw [if_neg hright]
  dsimp only
  rw [hindirect, if_neg (by simp)]
  generalize st.completeReply e true owner info = o at hwrites hports hanswers hsettled
  obtain ⟨_ | _, st1⟩ := o
  · cases hsettled
  · dsimp only [Outcome.andThen]
    have hsame : st1.ports = st.ports := hports
    have hstate1 : (st1.ports self.port).state = .readyToSend := by rw [hsame, hstate]
    rw [hstate1]
    exact tryReceiveFromReadySender_received_aside hstate hhead hfault hports hanswers hwrites

end Receiving

theorem Sealed.received (hsealed : Sealed e.platform.architecture invoked st)
    (h : Placed s none none st place) (hs : s.Admits e) (harrived : Arrived place)
    (huser : ∀ core, (st.proc.cpus e.core).currentProcess ≠ some (.idle core))
    (hdelivers : st.Delivers e sender receiver entry) :
    MessageInfo.isNormal ((st.handle e entry).registers receiver
        (messageRegisterIndex e.platform.architecture messageInfoIndex)) = true ∧
      (st.handle e entry).registers receiver
          (messageRegisterIndex e.platform.architecture identifierIndex) =
        st.recordInvocation e invoked entry sender := by
  match entry, hdelivers with
  | .capabilityCall (.ipcPort self), hdelivers =>
    obtain ⟨owner, hcurrent, hnormal, hmatched⟩ := hdelivers
    have hhandle : st.handle e (.capabilityCall (.ipcPort self)) =
        reportResult e owner (st.executeIpcPort e owner self) := by
      unfold SystemState.handle
      rw [hcurrent]
      rfl
    rw [hhandle, reportResult_register _ (by decide) (by decide),
      reportResult_register _ (by decide) (by decide)]
    unfold executeIpcPort
    dsimp only
    rw [if_neg (not_not.mpr hnormal)]
    rcases hmatched with ⟨hop, hright, hstate, hhead, rfl⟩ |
      ⟨hop, hright, hstate, hhead, rfl, hfault⟩
    · have hrecorded : st.recordInvocation e invoked (.capabilityCall (.ipcPort self)) sender =
          self.identifier := by
        simp [recordInvocation, hcurrent, hop]
      rw [hrecorded]
      unfold operation at hop
      rcases hop with hop | hop
      · rw [hop]
        exact (operationSend_received self _ hright hstate hhead).normal hnormal
      · rw [hop]
        exact (operationCall_received h self _ hright hstate hhead).normal hnormal
    · have hblocked : (st.proc.processes sender).status = .blockedSend := by
        have hwaits := h.waits_of_head hhead
        rw [hstate] at hwaits
        exact hwaits.elim And.left fun hfaults => absurd hfault hfaults.2.1
      obtain ⟨hword, hinvoked⟩ := hsealed sender hblocked
      rw [recordInvocation_of_not_current
        (h.not_current_of_blockedSend harrived hblocked e.core), ← hinvoked]
      have hplace : place receiver = .current e.core :=
        (h.current_cases hcurrent).resolve_right fun hidle =>
          huser e.core (hcurrent.trans (congrArg some hidle.1))
      unfold operation at hop
      rcases hop with hop | ⟨hop, hsettled⟩
      · rw [hop]
        exact (h.operationReceive_received hright hstate hhead hfault _ hs harrived
          hplace).normal hword
      · rw [hop]
        exact (h.operationReplyReceive_received hright hstate hhead hfault _ hsettled).normal hword

namespace MessageRun

variable {allowed : Entry → SystemState → KernelEntry → Prop}

section

variable (hreliable : ∀ e st entry, allowed e st entry → st.Reliable e entry)
  (hrun : MessageRun m allowed st invoked)
include hreliable hrun

theorem reachable : Relation.ReflTransGen (Step m Reliable) m.boot st := by
  induction hrun with
  | boot => exact .refl
  | entry _ e entry hpossible hallowed ih =>
    exact ih.tail (.entry e entry hpossible (hreliable e _ entry hallowed))
  | user _ hstep _ ih => exact ih.tail (.user hstep.alike)
  | make _ address hstopped hsource hdestination ih =>
    exact ih.tail (.make address hstopped hsource hdestination)

theorem coherent : Coherent (m.setting true) st :=
  coherent_run (fun _ _ _ h => h) (by simp) (hrun.reachable hreliable)

end

theorem is_sealed (hrun : MessageRun m (fun e st entry =>
    st.Reliable e entry ∧ SparesSenders e st entry) st invoked) :
    Sealed m.platform.architecture invoked st := by
  induction hrun with
  | boot =>
    intro id hblocked
    exfalso
    cases id with
    | idle core => simp [Machine.boot] at hblocked
    | user address =>
      simp only [Machine.boot] at hblocked
      split_ifs at hblocked
  | entry hrun e entry hpossible hallowed ih =>
    obtain ⟨-, place, hplaced, harrived⟩ := (hrun.coherent fun _ _ _ h => h.1).entered hpossible
      hallowed.1 (by simp)
    rw [← hpossible.platform] at ih ⊢
    exact ih.handle hplaced harrived hallowed.2
  | user hrun hstep hcontexts ih =>
    obtain ⟨place, hplaced, harrived⟩ := hrun.coherent fun _ _ _ h => h.1
    intro id hblocked
    rw [hstep.alike.proc] at hblocked
    rw [hstep.saved id (hplaced.not_current_of_blockedSend harrived hblocked), hcontexts]
    exact ih id hblocked
  | make hrun address hstopped hsource hdestination ih =>
    intro id hblocked
    by_cases hid : id = .user address
    · subst hid
      simp [makeProcess, initHardwareContext, setProcess] at hblocked
    · simp only [makeProcess, initHardwareContext, setProcess, Function.update_of_ne hid]
        at hblocked ⊢
      exact ih id hblocked

/-- In every run in which no transfer and no interrupt to a core fails and nobody writes the
registers of a blocked sender, a message that is not a fault comes with the source NORMAL and the
identifier its sender invoked. -/
theorem delivers_provenance (hrun : MessageRun m (fun e st entry =>
      st.Reliable e entry ∧ SparesSenders e st entry) st invoked)
    (hpossible : m.Possible e st entry) (hreliable : st.Reliable e entry)
    (hdelivers : st.Delivers e sender receiver entry) :
    MessageInfo.isNormal ((st.handle e entry).registers receiver
        (messageRegisterIndex m.platform.architecture messageInfoIndex)) = true ∧
      (st.handle e entry).registers receiver
          (messageRegisterIndex m.platform.architecture identifierIndex) =
        st.recordInvocation e invoked entry sender := by
  obtain ⟨hadmits, place, hplaced, harrived⟩ := (hrun.coherent fun _ _ _ h => h.1).entered hpossible
    hreliable (by simp)
  have hsealed := hrun.is_sealed
  rw [← hpossible.platform] at hsealed ⊢
  refine hsealed.received hplaced hadmits harrived ?_ hdelivers
  have hlegal := hpossible.legal
  match entry, hdelivers, hlegal with
  | .capabilityCall (.ipcPort self), _, hlegal => exact hlegal.2

theorem mono {allowed' : Entry → SystemState → KernelEntry → Prop}
    (h : ∀ e st entry, allowed e st entry → allowed' e st entry)
    (hrun : MessageRun m allowed st invoked) : MessageRun m allowed' st invoked := by
  induction hrun with
  | boot => exact .boot
  | entry _ e entry hpossible hallowed ih => exact ih.entry e entry hpossible (h e _ entry hallowed)
  | user _ hstep hcontexts ih => exact ih.user hstep hcontexts
  | make _ address hstopped hsource hdestination ih =>
    exact ih.make address hstopped hsource hdestination

end MessageRun

end SystemState

/-! ## A message whose source is forged

The second process sends while nobody receives and blocks. The init process has waited for a
notification in the meantime. When it is woken it takes the message, or it first writes the source
FAULT into the message word of the sender. -/

section Example

open SystemState

def sendPort : KernelEntry := .capabilityCall (.ipcPort { port := 0x9000, identifier := 7 })

def waitPort : KernelEntry := .capabilityCall (.notificationPort { port := 0xb000 })

def secondResumed : SystemState :=
  (uniprocessor.boot.say 0x1000 [0, 4]).handle onlyCore (resume 0x2000)
def initWaits : SystemState := (secondResumed.say 0x1000 [0, 2]).handle onlyCore waitPort
def secondSends : SystemState := (initWaits.say 0x2000 [0, 1, 1]).handle onlyCore sendPort
def initWoken : SystemState :=
  secondSends.handle onlyCore (.interrupt (some { port := 0xb000, identifier := 1 }))

def sourceForged : SystemState :=
  (initWoken.say 0x1000 [0, 3, 3, 0, 1, 0x2001]).handle onlyCore (resume 0x2000)

theorem userStep_say {st : SystemState} (address : Word) (words : List Word)
    (hcurrent : (st.proc.cpus 0).currentProcess = some (.user address)) :
    UserStep st (st.say address words) :=
  ⟨alike_say st address words, fun _ hid =>
    Function.update_of_ne (fun heq => hid 0 (by rw [hcurrent, heq])) _ _⟩

def sendInvoked : ProcessId → Word := Function.update (fun _ => 0) (.user 0x2000) 7

theorem messageRun_initWoken : MessageRun uniprocessor (fun e st entry =>
    st.Reliable e entry ∧ SparesSenders e st entry) initWoken sendInvoked := by
  have hresumed : MessageRun uniprocessor (fun e st entry =>
      st.Reliable e entry ∧ SparesSenders e st entry) secondResumed fun _ => 0 :=
    (MessageRun.boot.user (userStep_say 0x1000 [0, 4] (by decide +kernel)) rfl).entry onlyCore
      (resume 0x2000) (possible_onlyCore 0x1000 (by decide +kernel) (legal_resume (by decide)))
      ⟨(unfailing_onlyCore (by decide +kernel)).1, fun _ _ _ => by decide +kernel⟩
  have hwaits := (hresumed.user (userStep_say 0x1000 [0, 2] (by decide +kernel)) rfl).entry onlyCore
    waitPort (possible_onlyCore 0x1000 (by decide +kernel) ⟨trivial, by simp⟩)
    ⟨(unfailing_onlyCore (by decide +kernel)).1, trivial⟩
  have hsends := (hwaits.user (userStep_say 0x2000 [0, 1, 1] (by decide +kernel)) rfl).entry
    onlyCore sendPort (possible_onlyCore 0x2000 (by decide +kernel) ⟨trivial, by simp⟩)
    ⟨(unfailing_onlyCore (by decide +kernel)).1, trivial⟩
  exact hsends.entry onlyCore (.interrupt (some { port := 0xb000, identifier := 1 }))
    ⟨rfl, rfl, by decide, by decide +kernel, by simp [onlyCore], trivial⟩
    ⟨(unfailing_onlyCore (by decide +kernel)).1, trivial⟩

theorem delivers_sendPort {st : SystemState}
    (hcurrent : (st.proc.cpus 0).currentProcess = some (.user 0x1000))
    (hhead : (st.ports 0x9000).queueHead = some (.user 0x2000))
    (hstate : (st.ports 0x9000).state = .readyToSend)
    (hfault : (st.contexts (.user 0x2000)).faultReason = .none) :
    (st.say 0x1000 [0, 2, 1]).Delivers onlyCore (.user 0x2000) (.user 0x1000) invokePort := by
  have hregisters : (st.say 0x1000 [0, 2, 1]).registers (.user 0x1000) =
      fun index => ([0, 2, 1] : List Word).getD index 0 := by
    simp [SystemState.say]
  refine ⟨.user 0x1000, hcurrent, ?_, .inr ⟨.inl ?_, by decide, hstate, hhead, rfl, hfault⟩⟩
  · unfold messageRegister
    rw [hregisters]
    decide
  · unfold operation messageRegister
    rw [hregisters]
    decide

theorem delivers_provenance_secondSends :
    MessageInfo.source (((initWoken.say 0x1000 [0, 2, 1]).handle onlyCore invokePort).registers
        (.user 0x1000) 2) = 0 ∧
      ((initWoken.say 0x1000 [0, 2, 1]).handle onlyCore invokePort).registers (.user 0x1000) 3 =
        (initWoken.say 0x1000 [0, 2, 1]).recordInvocation onlyCore sendInvoked invokePort
          (.user 0x2000) := by
  have hprovenance := (messageRun_initWoken.user (userStep_say 0x1000 [0, 2, 1] (by decide +kernel))
    rfl).delivers_provenance (possible_onlyCore 0x1000 (by decide +kernel) legal_invokePort)
    (unfailing_onlyCore (by decide +kernel)).1 (delivers_sendPort (by decide +kernel)
      (by decide +kernel) (by decide +kernel) (by decide +kernel))
  exact ⟨beq_iff_eq.mp hprovenance.1, hprovenance.2⟩

/-- A message that no fault has caused is received with the source FAULT. -/
theorem written_sender_forges_source :
    ∃ st invoked, MessageRun uniprocessor Reliable st invoked ∧
      uniprocessor.Possible onlyCore st invokePort ∧ st.Reliable onlyCore invokePort ∧
      st.Delivers onlyCore (.user 0x2000) (.user 0x1000) invokePort ∧
      MessageInfo.source ((st.handle onlyCore invokePort).registers (.user 0x1000) 2) = 1 := by
  have hforged := (((messageRun_initWoken.mono fun _ _ _ h => h.1).user
    (userStep_say 0x1000 [0, 3, 3, 0, 1, 0x2001] (by decide +kernel)) rfl).entry onlyCore
      (resume 0x2000) (possible_onlyCore 0x1000 (by decide +kernel) (legal_resume (by decide)))
      (unfailing_onlyCore (by decide +kernel)).1)
  refine ⟨sourceForged.say 0x1000 [0, 2, 1], _, hforged.user (userStep_say 0x1000 [0, 2, 1]
    (by decide +kernel)) rfl, ?_, ?_, ?_, by decide +kernel⟩
  · exact possible_onlyCore 0x1000 (by decide +kernel) legal_invokePort
  · exact (unfailing_onlyCore (by decide +kernel)).1
  · exact delivers_sendPort (by decide +kernel) (by decide +kernel) (by decide +kernel)
      (by decide +kernel)

end Example

end A9N.Kernel
