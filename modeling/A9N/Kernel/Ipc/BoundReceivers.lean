import A9N.Kernel.Ipc.Bindings

/-!
# Bound processes that wait in RECEIVE

RECEIVE looks at the word of the bound port before it blocks, and NOTIFY wakes a bound process that
has blocked. CONFIGURE does neither: a process that is already blocked can be bound to a port with a
word, and then sleeps over it until the next NOTIFY.
-/

namespace A9N.Kernel

open Hal Outcome NotificationPort

namespace SystemState

open ProcState

def Clean (st : SystemState) : Prop :=
  ∀ port, (st.notifications port).hasFlag = false → (st.notifications port).flag = 0

def Attends (port : Word) (id : ProcessId) (st : SystemState) : Prop :=
  (st.proc.processes id).status = .blockedReceive → (st.notifications port).flag = 0

@[simp] def WakefulAccess (id : ProcessId) (access : Access) : Prop :=
  access ≠ .status id .blockedReceive

@[simp] def SilentAccess (port : Word) (access : Access) : Prop :=
  ∀ identifier, access ≠ .notify port identifier

@[simp] def HushedAccess (port : Word) (id : ProcessId) (access : Access) : Prop :=
  WakefulAccess id access ∧ SilentAccess port access

variable {m : Machine} {e : Entry} {may : Access → Prop} {port : Word} {id owner : ProcessId}
  {st st' : SystemState} {s : Setting} {place : ProcessId → Place} {entry : KernelEntry}

/-! ## The words along an operation -/

theorem Write.pending_cases (h : Write may st st') (port : Word) :
    (st'.notifications port).pending = (st.notifications port).pending ∨
      (∃ identifier, may (.notify port identifier) ∧ (st'.notifications port).pending =
        ((st.notifications port).notify identifier).pending) ∨
      may (.consume port) ∧
        (st'.notifications port).pending = (st.notifications port).consume.pending ∨
      may (.unbind port) ∧ (st'.notifications port).pending =
        ((st.notifications port).hasFlag, (st.notifications port).flag, none) := by
  cases h with
  | notification other f hpending =>
    rw [modifyNotification_notifications]
    split_ifs with heq
    · exact .inl (heq ▸ hpending _)
    · exact .inl rfl
  | notify other identifier hmay =>
    rw [modifyNotification_notifications]
    split_ifs with heq
    · exact .inr (.inl ⟨identifier, heq ▸ hmay, by rw [heq]⟩)
    · exact .inl rfl
  | consume other hmay =>
    rw [modifyNotification_notifications]
    split_ifs with heq
    · exact .inr (.inr (.inl ⟨heq ▸ hmay, by rw [heq]⟩))
    · exact .inl rfl
  | unbind other hmay =>
    rw [modifyNotification_notifications]
    split_ifs with heq
    · exact .inr (.inr (.inr ⟨heq ▸ hmay, by rw [heq]; rfl⟩))
    · exact .inl rfl
  | _ => exact .inl rfl

section

variable (h : Writes may st st')
include h

theorem Writes.clean (hclean : Clean st) : Clean st' := by
  induction h with
  | refl => exact hclean
  | tail _ hwrite ih =>
    intro port
    have hport := ih port
    rcases hwrite.pending_cases port with heq | ⟨_, -, heq⟩ | ⟨-, heq⟩ | ⟨-, heq⟩ <;>
      simp_all [pending, notify, consume]

theorem Writes.flag_cases (hmay : ∀ identifier, ¬ may (.notify port identifier)) :
    (st'.notifications port).flag = (st.notifications port).flag ∨
      (st'.notifications port).flag = 0 := by
  induction h with
  | refl => exact .inl rfl
  | tail _ hwrite ih =>
    rcases hwrite.pending_cases port with heq | ⟨identifier, hnotify, -⟩ | ⟨-, heq⟩ | ⟨-, heq⟩
    · exact ih.imp (Eq.trans (congrArg (·.2.1) heq)) (Eq.trans (congrArg (·.2.1) heq))
    · exact absurd hnotify (hmay identifier)
    · exact .inr (congrArg (·.2.1) heq)
    · exact ih.imp (Eq.trans (congrArg (·.2.1) heq)) (Eq.trans (congrArg (·.2.1) heq))

theorem Writes.flag_zero (hmay : ∀ identifier, ¬ may (.notify port identifier))
    (hzero : (st.notifications port).flag = 0) : (st'.notifications port).flag = 0 :=
  (h.flag_cases hmay).elim (fun heq => heq.trans hzero) fun hempty => hempty

theorem Writes.bindedProcess (hbinded : (st'.notifications port).bindedProcess = some id) :
    (st.notifications port).bindedProcess = some id := by
  induction h with
  | refl => exact hbinded
  | tail _ hwrite ih =>
    apply ih
    rcases hwrite.pending_cases port with heq | ⟨_, -, heq⟩ | ⟨-, heq⟩ | ⟨-, heq⟩ <;>
      simp_all [pending, notify, consume]

theorem Writes.not_blockedReceive (hmay : ¬ may (.status id .blockedReceive))
    (hstatus : (st.proc.processes id).status ≠ .blockedReceive) :
    (st'.proc.processes id).status ≠ .blockedReceive := by
  rcases h.calm id with heq | hother
  · rwa [heq]
  · intro hblocked
    rw [hblocked] at hother
    exact hmay hother

end

theorem Writes.attends (h : Writes (HushedAccess port id) st st') (hattends : Attends port id st) :
    Attends port id st' := by
  intro hblocked
  by_cases hstatus : (st.proc.processes id).status = .blockedReceive
  · rcases h.flag_cases (fun identifier hmay => hmay.2 identifier rfl) with heq | hzero
    · exact heq.trans (hattends hstatus)
    · exact hzero
  · exact absurd hblocked (h.not_blockedReceive (fun hmay => hmay.1 rfl) hstatus)

theorem acts_hushedAccess (port : Word) (id other : ProcessId) : Acts (HushedAccess port id) other :=
  ⟨⟨⟨by simp, by simp, by simp, by simp⟩, by simp⟩, by simp, by simp, by simp, by simp⟩

/-! ## RECEIVE and REPLY_RECEIVE -/

section Receive

variable (hclean : Clean st) (hbound : e.boundNotification owner = some port)
  (hattends : Attends port owner st)

include hclean in
theorem Clean.flag_of_nothing (hnone : (st.notifications port).hasNotification = false) :
    (st.notifications port).flag = 0 := by
  unfold hasNotification at hnone
  cases hflag : (st.notifications port).hasFlag with
  | false => exact hclean port hflag
  | true => simpa [hflag] using hnone

include hclean hbound in
theorem undelivered (st1 : SystemState)
    (hnone : st.tryDeliverPendingBindedNotification e owner = .ok false st1) :
    st1 = st ∧ (st.notifications port).flag = 0 := by
  refine ⟨tryDeliverPendingBindedNotification_false owner st1 hnone, hclean.flag_of_nothing ?_⟩
  by_contra hsome
  rw [Bool.not_eq_false] at hsome
  have hdelivered : ∀ o : Outcome CapabilityError SystemState Unit,
      (o.andThen fun _ st2 => ok true st2) ≠ .ok false st1 := by
    rintro ⟨_ | _, _⟩ heq <;> cases heq
  unfold tryDeliverPendingBindedNotification at hnone
  simp only [hbound, hsome, if_true] at hnone
  exact hdelivered _ hnone

include hclean hbound hattends

omit hclean hbound in
theorem tryReceiveFromReadySender_attends (ipcPort : Word) :
    Attends port owner (st.tryReceiveFromReadySender e ipcPort owner).state := by
  have hreceived : Writes (HushedAccess port owner) st
      (st.tryReceiveFromReadySender e ipcPort owner).state :=
    ((Writes.refl st).keeps e).tryReceiveFromReadySender trivial
      (acts_hushedAccess port owner owner).registers ipcPort
      fun _ sender _ => (acts_hushedAccess port owner sender).toMoves
  exact hreceived.attends hattends

theorem receiveWithoutSender_attends (ipcPort info : Word) :
    Attends port owner (st.receiveWithoutSender e owner ipcPort info).state := by
  have hdelivery : Writes (HushedAccess port owner) st
      (st.tryDeliverPendingBindedNotification e owner).state :=
    ((Writes.refl st).keeps e).tryDeliverPendingBindedNotification
      (acts_hushedAccess port owner owner).registers fun _ _ =>
        by simp
  have hempty := undelivered hclean hbound
  unfold receiveWithoutSender
  generalize st.tryDeliverPendingBindedNotification e owner = o at hdelivery hempty
  obtain ⟨_ | delivered, st1⟩ := o
  · exact hdelivery.attends hattends
  · cases delivered with
    | true => exact hdelivery.attends hattends
    | false =>
      obtain ⟨rfl, hzero⟩ := hempty st1 rfl
      dsimp only [andThen]
      rw [if_neg Bool.false_ne_true]
      split
      · exact fun _ => hzero
      · have hwaits : Writes (SilentAccess port) st1 (((st1.modifyPort ipcPort fun port =>
            { port with state := .readyToReceive }).setStatus owner .blockedReceive).waitAt e
              ipcPort owner).state :=
          ((((Writes.refl st1).keeps e).modifyPort ipcPort _).setStatus
            (by simp)).waitAt ipcPort trivial
        exact fun _ => hwaits.flag_zero (fun identifier hmay => hmay identifier rfl) hzero

theorem operationReceive_attends (self : PortSlot) (info : Word) :
    Attends port owner (st.operationReceive e owner self info).state := by
  have hdiscard : Writes (HushedAccess port owner) st (st.discardReply e owner).state :=
    ((Writes.refl st).keeps e).discardReply owner fun _ client _ =>
      ⟨(acts_hushedAccess port owner client).errs e, .inl trivial⟩
  unfold operationReceive
  split
  · exact hattends
  · generalize st.discardReply e owner = o at hdiscard
    obtain ⟨_ | _, st1⟩ := o
    · exact hdiscard.attends hattends
    · have hattends1 := hdiscard.attends hattends
      have hclean1 := hdiscard.clean hclean
      dsimp only [andThen] at hattends1 hclean1 ⊢
      split
      · exact receiveWithoutSender_attends hclean1 hbound hattends1 self.port info
      · exact receiveWithoutSender_attends hclean1 hbound hattends1 self.port info
      · exact tryReceiveFromReadySender_attends hattends1 self.port

theorem operationReplyReceive_attends (self : PortSlot) (info : Word) :
    Attends port owner (st.operationReplyReceive e owner self info).state := by
  have hreply : ∀ enqueue, Writes (HushedAccess port owner) st
      (st.completeReply e enqueue owner info).state := fun enqueue =>
    ((Writes.refl st).keeps e).completeReply trivial (fun client _ =>
      ⟨(acts_hushedAccess port owner client).toHandles,
        (acts_hushedAccess port owner client).fault⟩) enqueue info
  unfold operationReplyReceive
  split
  · exact hattends
  · dsimp only
    split
    next hdirect =>
      -- a direct reply is made only when nothing is pending
      have hreplied := hreply false
      have hzero : (st.notifications port).flag = 0 := by
        apply hclean.flag_of_nothing
        unfold repliesDirectly hasPendingNotification at hdirect
        split at hdirect
        · simp at hdirect
        · simp only [hbound] at hdirect
          simpa using (of_decide_eq_true hdirect).2.2.2.2.2
      generalize st.completeReply e false owner info = o at hreplied
      obtain ⟨_ | _, st1⟩ := o
      · exact hreplied.attends hattends
      · have hzero1 := hreplied.flag_zero (fun identifier hmay => hmay.2 identifier rfl) hzero
        have hpushed : Writes (SilentAccess port) st1 (((st1.modifyPort self.port fun port =>
            { port with state := .readyToReceive }).setStatus owner .blockedReceive).pushIpcQueue
              self.port owner) :=
          ((((Writes.refl st1).keeps e).modifyPort self.port _).setStatus
            (by simp)).pushIpcQueue self.port owner
        have hsilent : ∀ identifier, ¬ SilentAccess port (.notify port identifier) :=
          fun identifier hmay => hmay identifier rfl
        dsimp only [andThen]
        cases (st.contexts owner).destinationReplyTarget with
        | none => exact fun _ => hpushed.flag_zero hsilent hzero1
        | some client =>
          intro _
          have hswitched : Writes (SilentAccess port) st1 _ :=
            Keeps.transformError (@(Writes.walk e _ st1).directHere _ owner client hpushed trivial
              trivial) convertKernelToCapabilityError
          exact hswitched.flag_zero hsilent hzero1
    · have hreplied := hreply true
      generalize st.completeReply e true owner info = o at hreplied
      obtain ⟨_ | _, st1⟩ := o
      · exact hreplied.attends hattends
      · have hattends1 := hreplied.attends hattends
        have hclean1 := hreplied.clean hclean
        dsimp only [andThen] at hattends1 hclean1 ⊢
        split
        · exact tryReceiveFromReadySender_attends hattends1 self.port
        · exact receiveWithoutSender_attends hclean1 hbound hattends1 self.port info
        · exact receiveWithoutSender_attends hclean1 hbound hattends1 self.port info

end Receive

/-! ## NOTIFY -/

theorem Placed.currentIpcPort_of_blockedReceive (h : Placed s none none st place)
    (harrived : Arrived place) (hstatus : (st.proc.processes id).status = .blockedReceive) :
    ∃ ipcPort, (st.contexts id).currentIpcPort = some ipcPort := by
  have hfit := h.fits id (by simp)
  cases hcase : place id with
  | ipc ipcPort => exact ⟨ipcPort, h.currentIpcPort_eq.mpr hcase⟩
  | moving => exact absurd hcase (harrived id)
  | _ =>
    rw [hcase] at hfit
    simp [Fits, hstatus] at hfit

theorem tryWakeBindedProcess_empties {ipcPort : Word} (current : ProcessId)
    (hbinded : (st.notifications port).bindedProcess = some id)
    (hstatus : (st.proc.processes id).status = .blockedReceive)
    (hcurrent : (st.contexts id).currentIpcPort = some ipcPort) :
    ((st.tryWakeBindedProcess e port current).state.notifications port).flag = 0 := by
  unfold tryWakeBindedProcess
  simp only [hbinded, hstatus, ne_eq, not_true_eq_false, if_false, hcurrent]
  apply Outcome.Post.state (P := fun st : SystemState => (st.notifications port).flag = 0)
    (E := fun _ st => (st.notifications port).flag = 0) _ (fun _ _ h => h) fun _ _ h => h
  apply Outcome.Post.andThen (Q := fun _ _ => True)
  · apply Outcome.Post.transformError
    unfold removeIpcQueue
    rw [if_neg (by simp [hcurrent])]
    trivial
  · intro _ st1 _
    have hconsumed : ((st1.modifyNotification port consume).notifications port).flag = 0 := by
      rw [modifyNotification_notifications, if_pos rfl]
      rfl
    have hwoken : Writes (SilentAccess port) (st1.modifyNotification port consume)
        (((st1.modifyNotification port consume).writeMessageRegisters e id
          [(messageInfoIndex, MessageInfo.make false 0 0 2),
            (identifierIndex, (st1.notifications port).flag)]).andThen fun _ st =>
              let st := st.setStatus id .ready
              let st := st.modifyContext id fun context =>
                { context with currentIpcPort := none, currentNotificationPort := none }
              (st.onProc fun proc => proc.markScheduledWithPreemption e.platform e.root
                e.sendIpi current id).transformError convertKernelToCapabilityError).state := by
      let w := Writes.walk e (SilentAccess port) (st1.modifyNotification port consume)
      have hmoves : Moves (SilentAccess port) id := ⟨by simp, by simp, by simp, by simp⟩
      apply Keeps.andThen (i := w.inv)
      · exact Keeps.writeMessageRegisters _ (fun _ _ => (by simp)) ((Writes.refl _).keeps e)
      · intro _ st2 hwritten
        exact (w.preempt ((hwritten.setStatus (by simp)).context id _ fun _ => by rfl) trivial
          hmoves).transformError _
    exact post_of_state (P := fun st : SystemState => (st.notifications port).flag = 0)
      (hwoken.flag_zero (fun identifier hmay => hmay identifier rfl) hconsumed)

theorem handles_wakefulAccess (id other : ProcessId) : Handles (WakefulAccess id) other :=
  ⟨⟨by simp, by simp, by simp, by simp⟩, by simp⟩

theorem Placed.operationNotify_attends (h : Placed s none none st place) (harrived : Arrived place)
    (current : ProcessId) (self : PortSlot)
    (hbinded : (st.notifications self.port).bindedProcess = some id)
    (hattends : Attends self.port id st) :
    Attends self.port id (st.operationNotify e current self).state := by
  by_cases hstatus : (st.proc.processes id).status = .blockedReceive
  · obtain ⟨ipcPort, hcurrent⟩ := h.currentIpcPort_of_blockedReceive harrived hstatus
    unfold SystemState.operationNotify
    split
    · exact hattends
    · dsimp only
      have hbinded1 : ((st.modifyNotification self.port fun port =>
          port.notify self.identifier).notifications self.port).bindedProcess = some id := by
        rw [modifyNotification_notifications, if_pos rfl]
        exact hbinded
      rw [if_pos (by simp [bindedReceives, hbinded1, hstatus])]
      exact fun _ => tryWakeBindedProcess_empties current hbinded1 hstatus hcurrent
  · -- nobody but the owner of a RECEIVE comes to be blocked in it
    have hwrites : Writes (WakefulAccess id) st (st.operationNotify e current self).state :=
      Keeps.operationNotify (w := Writes.walk e _ st) (.refl st) trivial self (by simp) (by simp)
        (fun other _ _ => handles_wakefulAccess id other)
        fun other _ => handles_wakefulAccess id other
    exact fun hblocked => absurd hblocked (hwrites.not_blockedReceive (fun hmay => hmay rfl) hstatus)

/-! ## Entries -/

theorem runs_hushedAccess {other : ProcessId} (hother : other ≠ id) :
    Runs (HushedAccess port id) other :=
  ⟨acts_hushedAccess port id other, by simp [hother], by simp⟩

theorem guards_hushedAccess (port : Word) (id : ProcessId) : Guards (HushedAccess port id) id :=
  ⟨fun _ hother => runs_hushedAccess hother,
    fun _ _ => by simp⟩

theorem engaged_of_acts (hacts : Acts may id) (core : Nat) (st : SystemState) :
    Engaged may id core st :=
  ⟨⟨fun _ _ _ => hacts.toHandles, fun _ _ _ => hacts.toMoves, fun _ _ => hacts.toHandles,
    fun _ => hacts.toHandles⟩, fun _ => hacts⟩

theorem entryAdmitted_of_acts (hacts : Acts may id) (hsend : may (.status id .blockedSend))
    (hreset : may (.reset id)) (e : Entry) (st : SystemState) (entry : KernelEntry) :
    EntryAdmitted may id e st entry := by
  cases entry with
  | capabilityCall invocation =>
    intro owner howner
    cases invocation with
    | ipcPort self =>
      exact ⟨fun _ _ => hsend,
        fun _ => ⟨fun _ => hacts.errs e, fun _ => ⟨hacts.toHandles, hacts.fault⟩⟩⟩
    | processControlBlock target =>
      exact fun _ => ⟨fun _ _ => hacts.registers _, fun _ => hacts.registers,
        fun _ => ⟨hacts.toMoves, hacts.fault⟩,
        fun _ => ⟨hacts.errs e, hacts.fault, hacts.registers _⟩⟩
    | other callbacks result =>
      exact callbacksAdmitted_of_errs (hacts.errs e) hreset (hacts.registers _) callbacks st
    | _ => trivial
  | _ => trivial

theorem handle_writes_any (entry : KernelEntry) : Writes (fun _ => True) st (st.handle e entry) := by
  have hruns : ∀ id, Runs (fun _ => True) id := fun _ =>
    ⟨⟨⟨⟨trivial, trivial, trivial, trivial⟩, fun _ => trivial⟩, trivial, trivial, trivial,
      trivial⟩, trivial, trivial⟩
  have hprotects : Protects (fun _ => True) (.user 0) :=
    ⟨⟨fun id _ => hruns id, fun _ _ => trivial⟩, fun _ _ => trivial, fun _ => trivial,
      fun _ => trivial⟩
  have hengaged := engaged_of_acts (hruns (.user 0)).toActs e.core st
  exact handle_writes hprotects ⟨hengaged.toFound, fun _ _ => hruns _⟩ entry
    (entryAdmitted_of_acts (hruns _).toActs trivial trivial e st entry)

theorem attends_reportResult (o : Outcome CapabilityError SystemState Unit)
    (h : Attends port id o.state) : Attends port id (reportResult e owner o) := by
  have hwrites : Writes (HushedAccess port id) o.state (reportResult e owner o) :=
    ((Writes.refl o.state).keeps e).reportResult fun _ _ =>
      (acts_hushedAccess port id owner).registers _
  exact hwrites.attends h

theorem executeIpcPort_attends (hclean : Clean st) (hbound : e.boundNotification owner = some port)
    (hattends : Attends port owner st) (self : PortSlot)
    (hop : st.operation e owner = 2 ∨ st.operation e owner = 5) :
    Attends port owner (st.executeIpcPort e owner self).state := by
  unfold executeIpcPort
  dsimp only
  split
  · exact hattends
  · rcases hop with hop | hop
    · unfold operation at hop
      rw [hop]
      exact operationReceive_attends hclean hbound hattends self _
    · unfold operation at hop
      rw [hop]
      exact operationReplyReceive_attends hclean hbound hattends self _

theorem Placed.handle_attends (h : Placed s none none st place) (harrived : Arrived place)
    (hclean : Clean st) (hbound : e.boundNotification id = some port)
    (hbinded : (st.notifications port).bindedProcess = some id) (hattends : Attends port id st)
    (entry : KernelEntry) : Attends port id (st.handle e entry) := by
  have hhushed : EntryEngaged (HushedAccess port id) id e st entry →
      Attends port id (st.handle e entry) := fun hengaged =>
    (handle_writes_engaged (guards_hushedAccess port id)
      (engaged_of_acts (acts_hushedAccess port id id) e.core st) entry hengaged
      (entryAdmitted_of_acts (acts_hushedAccess port id id) (by simp) (by simp) e st entry)).attends
        hattends
  cases entry with
  | capabilityCall invocation =>
    cases hcurrent : (st.proc.cpus e.core).currentProcess with
    | none => exact hhushed fun owner howner => by simp [hcurrent] at howner
    | some owner =>
      have hhandle : st.handle e (.capabilityCall invocation) =
          st.handleCapabilityCall e owner invocation := by
        simp only [SystemState.handle, hcurrent]
      have hengaged : InvocationEngaged (HushedAccess port id) id e owner st invocation →
          Attends port id (st.handle e (.capabilityCall invocation)) := by
        intro hinvocation
        apply hhushed
        intro other hother
        obtain rfl : owner = other := by simpa [hcurrent] using hother
        exact hinvocation
      cases invocation with
      | ipcPort self =>
        by_cases hreceives : owner = id ∧ (st.operation e owner = 2 ∨ st.operation e owner = 5)
        · obtain ⟨rfl, hop⟩ := hreceives
          rw [hhandle]
          exact attends_reportResult _ (executeIpcPort_attends hclean hbound hattends self hop)
        · exact hengaged ⟨fun heq hop => absurd ⟨heq, hop⟩ hreceives,
            fun _ _ _ => by simp⟩
      | notificationPort self =>
        by_cases hnotifies : self.port = port ∧ st.operation e owner = 1
        · obtain ⟨rfl, hop⟩ := hnotifies
          rw [hhandle]
          apply attends_reportResult
          unfold SystemState.execute SystemState.executeNotificationPort
          unfold operation at hop
          dsimp only
          rw [hop]
          exact h.operationNotify_attends harrived owner self hbinded hattends
        · refine hengaged ⟨fun hop => ⟨by simp, fun identifier heq => ?_⟩, by simp⟩
          cases heq
          exact hnotifies ⟨rfl, hop⟩
      | other callbacks result =>
        exact hengaged fun _ _ => by simp
      | _ => exact hengaged trivial
  | interrupt handler =>
    cases handler with
    | none => exact hhushed trivial
    | some self =>
      by_cases hport : self.port = port
      · subst hport
        cases hcurrent : (st.proc.cpus e.core).currentProcess with
        | none => simpa [SystemState.handle, SystemState.handleInterrupt, hcurrent] using hattends
        | some current =>
          simp only [SystemState.handle, SystemState.handleInterrupt, hcurrent]
          exact h.operationNotify_attends harrived current self hbinded hattends
      · exact hhushed ⟨⟨by simp, fun _ heq => hport (by cases heq; rfl)⟩, by simp⟩
  | _ => exact hhushed trivial

end SystemState

/-! ## Runs -/

open SystemState

structure Attentive (b : BoundState) : Prop where
  clean : Clean b.system
  slots : ∀ port id, (b.system.notifications port).bindedProcess = some id →
    b.bound id = some port
  attends : ∀ port id, (b.system.notifications port).bindedProcess = some id →
    Attends port id b.system

/-- CONFIGURE does not bind a process that waits in RECEIVE to a port with a word, and the interrupts
it sends are accepted. -/
def BindsAttended (e : Entry) (b : BoundState) (target : ProcessId) (r : Rebinding) : Prop :=
  (e.platform.smpEnabled = true → ∀ core, e.sendIpi core = true) ∧ Attends r.port target b.system

namespace Attentive

variable {m : Machine} {e : Entry} {b : BoundState} {st : SystemState} {port : Word}
  {target owner : ProcessId} {r : Rebinding}

theorem hushed (h : Attentive b) (hwrites : ∀ port id, Writes (HushedAccess port id) b.system st) :
    Attentive { b with system := st } := by
  refine ⟨(hwrites 0 (.user 0)).clean h.clean, fun port id hbinded => ?_, fun port id hbinded => ?_⟩
  · exact h.slots port id ((hwrites port id).bindedProcess hbinded)
  · exact (hwrites port id).attends (h.attends port id ((hwrites port id).bindedProcess hbinded))

section

variable (port : Word) (target : ProcessId) (st : SystemState)

theorem hushed_unbindProcess (other : Word) (id : ProcessId) :
    Writes (HushedAccess other id) st (st.unbindProcess port target) := by
  by_cases hbinded : (st.notifications port).bindedProcess = some target
  · have heq : st.unbindProcess port target = st.modifyNotification port fun port =>
        { port with bindedProcess := none } := by
      simp [unbindProcess, modifyNotification, hbinded]
    rw [heq]
    exact .single (.unbind port (by simp))
  · have heq : st.unbindProcess port target = st := by
      simp [unbindProcess, modifyNotification, hbinded]
    rw [heq]
    exact .refl st

theorem unbindProcess_bindedProcess :
    ((st.unbindProcess port target).notifications port).bindedProcess ≠ some target := by
  unfold unbindProcess
  rw [modifyNotification_notifications, if_pos rfl]
  split
  · simp
  next hother => exact hother

end

theorem hushed_runCallbacks (callbacks : List Callback) (st : SystemState) (port : Word)
    (id : ProcessId) : Writes (HushedAccess port id) st (st.runCallbacks e callbacks).state :=
  Writes.runCallbacks (guards_hushedAccess port id) callbacks (.refl st) (fun _ _ => by simp)
    (callbacksAdmitted_of_errs ((acts_hushedAccess port id id).errs e) (by simp)
      ((acts_hushedAccess port id id).registers _) callbacks st)

theorem hushed_revokeNotificationPort (old : Word) (st : SystemState) (port : Word)
    (id : ProcessId) :
    Writes (HushedAccess port id) st (st.revokeNotificationPort e old).state :=
  ((Writes.refl st).keeps e).revokeNotificationPort old (by simp) (by simp)
    fun other _ => ⟨(acts_hushedAccess port id other).errs e, .inl trivial⟩

theorem vacate (h : Attentive b)
    (hunbound : ∀ port, (b.system.notifications port).bindedProcess ≠ some target)
    (slot : Option Word) (pending : Word → Word) :
    Attentive { b with bound := Function.update b.bound target slot, pending := pending } := by
  refine ⟨h.clean, fun port id hbinded => ?_, h.attends⟩
  have hne : id ≠ target := fun heq => hunbound port (heq ▸ hbinded)
  dsimp only
  rw [Function.update_of_ne hne]
  exact h.slots port id hbinded

structure Unbinds (r : Rebinding) (target : ProcessId) (b : BoundState) : Prop
    extends Attentive b where
  ready : Attends r.port target b.system
  unbound : ∀ port, (b.system.notifications port).bindedProcess ≠ some target

theorem Unbinds.hushed (h : Unbinds r target b)
    (hwrites : ∀ port id, Writes (HushedAccess port id) b.system st) :
    Unbinds r target { b with system := st } := by
  refine ⟨h.toAttentive.hushed hwrites, (hwrites r.port target).attends h.ready, ?_⟩
  exact fun port hbinded => h.unbound port ((hwrites port target).bindedProcess hbinded)

theorem unbound_unbindProcess (h : Attentive b) {old : Word} (hbound : b.bound target = some old)
    (port : Word) :
    ((b.system.unbindProcess old target).notifications port).bindedProcess ≠ some target := by
  by_cases hport : port = old
  · rw [hport]
    exact unbindProcess_bindedProcess old target b.system
  · unfold unbindProcess
    rw [modifyNotification_notifications, if_neg hport]
    intro hbinded
    have hslot := h.slots port target hbinded
    rw [hbound] at hslot
    exact hport (Option.some.inj hslot).symm

theorem unbinds (h : Attentive b) (hready : Attends r.port target b.system) :
    Unbinds r target (match b.bound target with
      | none => b
      | some old => { b with system := b.system.unbindProcess old target }) := by
  cases hbound : b.bound target with
  | none =>
    refine ⟨h, hready, fun port hbinded => ?_⟩
    simp [h.slots port target hbinded] at hbound
  | some old =>
    have hwrites := hushed_unbindProcess old target b.system
    exact ⟨h.hushed hwrites, (hwrites r.port target).attends hready, h.unbound_unbindProcess hbound⟩

theorem unbinds_removeBound (h : Unbinds r target b) (last : Bool) :
    Unbinds r target (b.removeBound e target last).state := by
  unfold BoundState.removeBound
  split
  · exact h
  next old _ =>
    dsimp only
    split
    · apply andThen_keeps (P := Unbinds r target)
      · rw [transformError_state]
        exact h.hushed (hushed_revokeNotificationPort old b.system)
      · intro _ b1 hrevoked
        exact ⟨hrevoked.vacate hrevoked.unbound none _, hrevoked.ready, hrevoked.unbound⟩
    · exact ⟨h.vacate h.unbound none b.pending, h.ready, h.unbound⟩

theorem Unbinds.bindProcess (h : Unbinds r target b) : Attentive { b with
      system := b.system.modifyNotification r.port fun port =>
        { port with bindedProcess := some target }
      bound := Function.update b.bound target (some r.port) } := by
  refine ⟨fun port => ?_, fun port id => ?_, fun port id => ?_⟩ <;> dsimp only <;>
    rw [modifyNotification_notifications]
  · split_ifs with hport
    · exact h.clean r.port
    · exact h.clean port
  · split_ifs with hport
    · intro hbinded
      obtain rfl : target = id := Option.some.inj hbinded
      rw [Function.update_self, hport]
    · intro hbinded
      have hne : id ≠ target := fun heq => h.unbound port (heq ▸ hbinded)
      rw [Function.update_of_ne hne]
      exact h.slots port id hbinded
  · unfold Attends
    rw [modifyNotification_notifications]
    split_ifs with hport
    · intro hbinded
      obtain rfl : target = id := Option.some.inj hbinded
      exact h.ready
    · exact h.attends port id

theorem configureNotificationPort (h : Attentive b) (hready : Attends r.port target b.system) :
    Attentive (b.configureNotificationPort e target r).state := by
  have hremoved := unbinds_removeBound (e := e) (h.unbinds hready) r.last
  unfold BoundState.configureNotificationPort
  dsimp only
  generalize BoundState.removeBound e target r.last _ = o at hremoved
  obtain ⟨_ | _, b1⟩ := o
  · exact hremoved.toAttentive
  · dsimp only [andThen, BoundState.onSystem]
    by_cases hother : b1.system.boundToOther r.port target = true
    · simp only [SystemState.bindProcess, hother, if_true]
      exact hremoved.toAttentive
    · simp only [SystemState.bindProcess, hother]
      exact hremoved.bindProcess

theorem configured (h : Attentive b) (hready : Attends r.port target b.system) :
    Attentive (b.configured e owner target r) := by
  have hconfigured : Attentive (b.operationConfigure e owner target r).state := by
    have hbefore := hushed_runCallbacks (e := e) r.before b.system
    have hstarted := post_of_state (o := b.onSystem fun st => st.runCallbacks e r.before)
      (P := fun b => Attentive b ∧ Attends r.port target b.system)
      ⟨h.hushed hbefore, (hbefore r.port target).attends hready⟩
    apply Outcome.Post.state (Q := fun _ => Attentive) (E := fun _ => Attentive) _
      (fun _ _ h => h) fun _ _ h => h
    apply (hstarted.mono (fun _ _ h => h) fun _ _ h => h.1).andThen
    intro _ b1 ⟨hstart, hready1⟩
    apply post_of_state (P := Attentive)
    apply andThen_keeps (P := Attentive) (hstart.configureNotificationPort hready1)
    intro _ b2 hbound
    apply andThen_keeps (P := Attentive)
      (hbound.hushed (hushed_runCallbacks (e := e) r.after b2.system))
    intro _ b3 hlast
    split
    · exact hlast
    · exact hlast.hushed fun _ _ => (Writes.refl b3.system).operationConfigure owner target
        fun _ => by simp
  apply hconfigured.hushed
  intro port id
  exact Keeps.reportResult (o := ⟨_, (b.operationConfigure e owner target r).state.system⟩)
    ((Writes.refl _).keeps e) fun _ _ => (acts_hushedAccess port id owner).registers _

theorem release (h : Attentive b) (target : ProcessId) : Attentive (b.release target) := by
  unfold BoundState.release
  split
  · exact h
  next old hbound =>
    exact (h.hushed (hushed_unbindProcess old target b.system)).vacate
      (h.unbound_unbindProcess hbound) none b.pending

theorem makeProcess (h : Attentive b) (architecture : Architecture) (address : Word) :
    Attentive { b with system := b.system.makeProcess architecture address } := by
  refine ⟨h.clean, h.slots, fun port id hbinded => ?_⟩
  intro hstatus
  by_cases hid : id = .user address
  · subst hid
    simp [SystemState.makeProcess, initHardwareContext, ProcState.setProcess] at hstatus
  · simp only [SystemState.makeProcess, initHardwareContext, ProcState.setProcess,
      Function.update_of_ne hid] at hstatus
    exact h.attends port id hbinded hstatus

end Attentive

namespace BindingRun

variable {m : Machine} {allowed : Entry → SystemState → KernelEntry → Prop} {b : BoundState}

theorem attentive (hreliable : ∀ e st entry, allowed e st entry → st.Reliable e entry)
    (hrun : BindingRun m allowed BindsAttended b) : Attentive b := by
  induction hrun with
  | boot => exact ⟨fun _ _ => rfl, by simp [Machine.boot], by simp [Machine.boot]⟩
  | @entry b hrun e entry hslots hpossible hallowed ih =>
    obtain ⟨-, place, hplaced, harrived⟩ := (hrun.coherent hreliable fun _ _ _ _ h => h.1).entered
      hpossible (hreliable e _ entry hallowed) (by simp)
    have hwrites : Writes (fun _ => True) b.system (b.system.handle e entry) :=
      handle_writes_any entry
    refine ⟨hwrites.clean ih.clean,
      fun port id hbinded => ih.slots port id (hwrites.bindedProcess hbinded),
      fun port id hbinded => ?_⟩
    have hbinded0 := hwrites.bindedProcess hbinded
    exact hplaced.handle_attends harrived ih.clean (by rw [hslots, ih.slots port id hbinded0])
      hbinded0 (ih.attends port id hbinded0) entry
  | user hrun hstep hnotifications ih =>
    refine ⟨fun port => ?_, fun port id => ?_, fun port id => ?_⟩
    · rw [hnotifications]
      exact ih.clean port
    · rw [hnotifications]
      exact ih.slots port id
    · dsimp only
      unfold Attends
      rw [hnotifications, hstep.alike.proc]
      exact ih.attends port id
  | make hrun address _ _ _ ih => exact ih.makeProcess _ address
  | configure hrun e owner target r _ _ _ _ hbinds ih => exact ih.configured hbinds.2
  | release hrun target ih => exact ih.release target
  | vacate hrun target hunbound ih => exact ih.vacate hunbound none _

/-- No process sleeps in RECEIVE over a word of the port it is bound to. -/
theorem bound_receiver_attends (hrun : BindingRun m Reliable BindsAttended b) (port : Word)
    (id : ProcessId) (hbinded : (b.system.notifications port).bindedProcess = some id)
    (hstatus : (b.system.proc.processes id).status = .blockedReceive) :
    (b.system.notifications port).flag = 0 :=
  (hrun.attentive fun _ _ _ h => h).attends port id hbinded hstatus

end BindingRun

/-! ## A process that is bound while it waits

Init waits in RECEIVE. The second process notifies a port that nobody waits at, and then binds init
to it. When init is bound before it calls RECEIVE, it finds the word. -/

section Example

open SystemState

def notifyPort : KernelEntry :=
  .capabilityCall (.notificationPort { port := 0xb000, identifier := 1 })

def BoundState.say (b : BoundState) (address : Word) (words : List Word) : BoundState :=
  { b with system := b.system.say address words }

def resumedUnbound : BoundState :=
  (BoundState.say ⟨uniprocessor.boot, fun _ => none, fun _ => 0⟩ 0x1000 [0, 4]).handle onlyCore
    (resume 0x2000)

def initAsleep : BoundState := (resumedUnbound.say 0x1000 [0, 2, 1]).handle onlyCore invokePort
def wordPending : BoundState := (initAsleep.say 0x2000 [0, 1]).handle onlyCore notifyPort

def rebinding : Rebinding := { port := 0xb000, last := false }

def initBoundAsleep : BoundState :=
  (wordPending.say 0x2000 [0, 1, 8]).configured onlyCore (.user 0x2000) (.user 0x1000) rebinding

def initBound : BoundState :=
  (resumedUnbound.say 0x1000 [0, 1, 8]).configured onlyCore (.user 0x1000) (.user 0x1000) rebinding

def initBoundCore : Entry := { onlyCore with boundNotification := initBound.bound }

def initBoundReceives : BoundState :=
  (initBound.say 0x1000 [0, 2, 1]).handle initBoundCore invokePort

section Runs

variable {binds : Entry → BoundState → ProcessId → Rebinding → Prop} {b : BoundState}

theorem BindingRun.say (hrun : BindingRun uniprocessor Reliable binds b) (address : Word)
    (words : List Word)
    (hcurrent : (b.system.proc.cpus 0).currentProcess = some (.user address)) :
    BindingRun uniprocessor Reliable binds (b.say address words) :=
  hrun.user (userStep_say address words hcurrent) rfl

theorem bindingRun_resumedUnbound : BindingRun uniprocessor Reliable binds resumedUnbound :=
  (BindingRun.boot.say 0x1000 [0, 4] (by decide +kernel)).entry onlyCore (resume 0x2000) rfl
    (possible_onlyCore 0x1000 (by decide +kernel) (legal_resume (by decide)))
    (unfailing_onlyCore (by decide +kernel)).1

theorem bindingRun_wordPending : BindingRun uniprocessor Reliable binds wordPending := by
  have hasleep : BindingRun uniprocessor Reliable binds initAsleep :=
    (bindingRun_resumedUnbound.say 0x1000 [0, 2, 1] (by decide +kernel)).entry onlyCore invokePort
      rfl (possible_onlyCore 0x1000 (by decide +kernel) legal_invokePort)
      (unfailing_onlyCore (by decide +kernel)).1
  exact (hasleep.say 0x2000 [0, 1] (by decide +kernel)).entry onlyCore notifyPort rfl
    (possible_onlyCore 0x2000 (by decide +kernel) ⟨trivial, by simp⟩)
    (unfailing_onlyCore (by decide +kernel)).1

end Runs

theorem bound_receiver_attends_initBound :
    (initBoundReceives.system.notifications 0xb000).bindedProcess = some (.user 0x1000) ∧
      (initBoundReceives.system.proc.processes (.user 0x1000)).status = .blockedReceive ∧
      (initBoundReceives.system.notifications 0xb000).flag = 0 := by
  have hbound : BindingRun uniprocessor Reliable BindsAttended initBound :=
    (bindingRun_resumedUnbound.say 0x1000 [0, 1, 8] (by decide +kernel)).configure onlyCore
      (.user 0x1000) (.user 0x1000) rebinding
      (possible_onlyCore 0x1000 (by decide +kernel) (legal_resume (by decide))) (by decide +kernel)
      ⟨by decide +kernel, by decide +kernel⟩ (by simp [Rebinding.Legal, rebinding, Invocation.Legal])
      ⟨by simp [onlyCore, uniprocessor], fun h => absurd h (by decide +kernel)⟩
  have hcurrent : ((initBound.say 0x1000 [0, 2, 1]).system.proc.cpus initBoundCore.core).currentProcess =
      some (.user 0x1000) := by decide +kernel
  have hreceives : BindingRun uniprocessor Reliable BindsAttended initBoundReceives :=
    (hbound.say 0x1000 [0, 2, 1] (by decide +kernel)).entry initBoundCore invokePort rfl
      ⟨rfl, rfl, by decide, by decide +kernel, by simp [initBoundCore, onlyCore],
        ⟨trivial, fun _ => hcurrent ▸ by simp⟩⟩
      ⟨by decide +kernel, by simp [initBoundCore, onlyCore, uniprocessor]⟩
  exact ⟨by decide +kernel, by decide +kernel,
    hreceives.bound_receiver_attends 0xb000 (.user 0x1000) (by decide +kernel) (by decide +kernel)⟩

/-- The bound process stays in the queue of the IPC port, and the word is not taken. -/
theorem configure_misses_pending_word :
    ∃ b, BindingRun uniprocessor Reliable (fun _ _ _ _ => True) b ∧
      (b.system.notifications 0xb000).bindedProcess = some (.user 0x1000) ∧
      b.bound (.user 0x1000) = some 0xb000 ∧
      (b.system.proc.processes (.user 0x1000)).status = .blockedReceive ∧
      (b.system.ports 0x9000).queueHead = some (.user 0x1000) ∧
      (b.system.notifications 0xb000).flag ≠ 0 := by
  have hbound : BindingRun uniprocessor Reliable (fun _ _ _ _ => True) initBoundAsleep :=
    (bindingRun_wordPending.say 0x2000 [0, 1, 8] (by decide +kernel)).configure onlyCore
      (.user 0x2000) (.user 0x1000) rebinding
      (possible_onlyCore 0x2000 (by decide +kernel) (legal_resume (by decide))) (by decide +kernel)
      ⟨by decide +kernel, by decide +kernel⟩ (by simp [Rebinding.Legal, rebinding, Invocation.Legal])
      trivial
  exact ⟨initBoundAsleep, hbound, by decide +kernel, by decide +kernel, by decide +kernel,
    by decide +kernel, by decide +kernel⟩

end Example

end A9N.Kernel
