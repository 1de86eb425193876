import A9N.Kernel.Ipc.Placement

/-!
# What an operation may write

Every operation of the kernel is a sequence of writes: registers, statuses and IPC fields of a
process, pending notification words, queues. `Writes may` relates two states when one is reached
from the other by writes that `may` permits.
-/

namespace A9N.Kernel

open Hal Outcome

namespace ProcState

def Calm (allowed : ProcessId → ProcessStatus → Prop) (st st' : ProcState) : Prop :=
  ∀ id, (st'.processes id).status = (st.processes id).status ∨ allowed id (st'.processes id).status

variable {p : Platform} {root : ProcessId → Word} {sendIpi : Nat → Bool} {target : ProcessId}
  {allowed : ProcessId → ProcessStatus → Prop} {st st' : ProcState}

namespace Calm

theorem refl (st : ProcState) : Calm allowed st st := fun _ => .inl rfl

theorem trans {st'' : ProcState} (h : Calm allowed st st') (h' : Calm allowed st' st'') :
    Calm allowed st st'' := by
  intro id
  rcases h' id with heq | hallowed
  · rw [heq]
    exact h id
  · exact .inr hallowed

theorem modifyProcess (h : Calm allowed st st') (id : ProcessId) (f : Process → Process)
    (hf : ∀ process, (f process).status = process.status ∨ allowed id (f process).status) :
    Calm allowed st (st'.modifyProcess id f) := by
  apply h.trans
  intro other
  rw [modifyProcess_processes]
  split_ifs with hother
  · rw [hother]
    exact hf _
  · exact .inl rfl

def granted (allowed : ProcessId → ProcessStatus → Prop) : Grant → Prop
  | .status id status => allowed id status
  | _ => True

theorem of_touches (h : Touches (granted allowed) st st') : Calm allowed st st' :=
  fun id => (h.process id).status

theorem configurePriority (h : Calm allowed st st') (target : ProcessId) (priority : Word) :
    Calm allowed st (st'.configurePriority target priority).state := by
  unfold ProcState.configurePriority
  split_ifs
  · exact h
  · dsimp only [ok_state]
    exact h.modifyProcess target _ fun _ => .inl (by rfl)

end Calm

end ProcState

def IpcContext.recorded (context : IpcContext) : FaultType × Word :=
  (context.faultReason, context.identifierWhenBlocked)

def NotificationPort.pending (port : NotificationPort) : Bool × Word × Option ProcessId :=
  (port.hasFlag, port.flag, port.bindedProcess)

inductive Access
  | registers (id : ProcessId) (index : Nat)
  | reset (id : ProcessId)
  | status (id : ProcessId) (status : ProcessStatus)
  | fault (id : ProcessId)
  | identify (id : ProcessId)
  | notify (port identifier : Word)
  | consume (port : Word)
  | unbind (port : Word)

namespace SystemState

open ProcState

structure Updates (may : Access → Prop) (id : ProcessId) (f : IpcContext → IpcContext) : Prop where
  fault : may (.fault id) ∨ ∀ context, (f context).faultReason = context.faultReason
  identify : may (.identify id) ∨
    ∀ context, (f context).identifierWhenBlocked = context.identifierWhenBlocked

inductive Write (may : Access → Prop) (st : SystemState) : SystemState → Prop
  | scheduling (proc : ProcState) (h : Calm (fun id status => may (.status id status)) st.proc proc) :
      Write may st { st with proc := proc }
  | context (id : ProcessId) (f : IpcContext → IpcContext) (h : Updates may id f) :
      Write may st (st.modifyContext id f)
  | port (port : Word) (f : IpcPort → IpcPort) : Write may st (st.modifyPort port f)
  | notification (port : Word) (f : NotificationPort → NotificationPort)
      (h : ∀ port, (f port).pending = port.pending) : Write may st (st.modifyNotification port f)
  | notify (port identifier : Word) (h : may (.notify port identifier)) :
      Write may st (st.modifyNotification port fun port => port.notify identifier)
  | consume (port : Word) (h : may (.consume port)) :
      Write may st (st.modifyNotification port NotificationPort.consume)
  | unbind (port : Word) (h : may (.unbind port)) :
      Write may st (st.modifyNotification port fun port => { port with bindedProcess := none })
  | registers (id : ProcessId) (index : Nat) (value : Word) (h : may (.registers id index)) :
      Write may st (st.setRegister id index value)
  | reset (id : ProcessId) (architecture : Architecture) (h : may (.reset id)) :
      Write may st (st.initHardwareContext architecture id)
  | buffer (buffer : Word) (index : Nat) (value : Word) :
      Write may st (st.setBufferWord buffer index value)
  | failure : Write may st { st with failedTransfers := st.failedTransfers + 1 }

def Writes (may : Access → Prop) : SystemState → SystemState → Prop :=
  Relation.ReflTransGen (Write may)

structure Moves (may : Access → Prop) (id : ProcessId) : Prop where
  ready : may (.status id .ready)
  idle : may (.status id .idle)
  reply : may (.status id .blockedReply)
  suspend : may (.status id .blockedSuspend)

theorem Moves.wakes {may : Access → Prop} {id : ProcessId} (h : Moves may id) :
    Touches.Wakes (Calm.granted fun id status => may (.status id status)) id :=
  ⟨h.ready, fun _ _ => h.idle, trivial⟩

structure Errs (e : Entry) (may : Access → Prop) (id : ProcessId) : Prop extends Moves may id where
  result : ∀ index < 2, may (.registers id (messageRegisterIndex e.platform.architecture index))

theorem Errs.results {e : Entry} {may : Access → Prop} {id : ProcessId} (h : Errs e may id) :
    ∀ pair ∈ [((0 : Nat), (0 : Word)), (1, 0)],
      may (.registers id (messageRegisterIndex e.platform.architecture pair.1)) := by
  intro pair hpair
  apply h.result
  rcases List.mem_pair.mp hpair with rfl | rfl <;> decide

structure Handles (may : Access → Prop) (id : ProcessId) : Prop extends Moves may id where
  registers : ∀ index, may (.registers id index)

theorem Handles.errs {may : Access → Prop} {id : ProcessId} (h : Handles may id) (e : Entry) :
    Errs e may id := ⟨h.toMoves, fun _ _ => h.registers _⟩

/-! ## What a revocation leaves as it was -/

section Frames

variable {e : Entry} {st : SystemState} {target : ProcessId}

theorem writeMessageRegisters_frame (id : ProcessId) (message : List (Nat × Word))
    (st : SystemState) :
    (st.writeMessageRegisters e id message).state.contexts = st.contexts ∧
      (st.writeMessageRegisters e id message).state.ports = st.ports ∧
      (st.writeMessageRegisters e id message).state.notifications = st.notifications := by
  induction message generalizing st with
  | nil => exact ⟨rfl, rfl, rfl⟩
  | cons pair message ih =>
    unfold writeMessageRegisters configureMessageRegister
    split
    · exact ih _
    · split
      · exact ⟨rfl, rfl, rfl⟩
      · exact ih _

section

variable (target : ProcessId) (st : SystemState)

theorem completeRevokedWait_frame : (st.completeRevokedWait e target).state.contexts = st.contexts ∧
      (st.completeRevokedWait e target).state.ports = st.ports ∧
      (st.completeRevokedWait e target).state.notifications = st.notifications := by
  unfold completeRevokedWait
  apply andThen_keeps (P := fun state : SystemState => state.contexts = st.contexts ∧
    state.ports = st.ports ∧ state.notifications = st.notifications)
  · exact writeMessageRegisters_frame target [(0, 0), (1, 0)] st
  · intro _ st1 hwritten
    split
    · exact hwritten
    · split
      all_goals first
        | exact hwritten
        | rw [transformError_state]
          exact hwritten

theorem stopProcessForReclamation_contexts :
    (st.stopProcessForReclamation e target).state.contexts = st.contexts := by
  have hserviced : ∀ (core : Nat) (st : SystemState),
      (st.servicePendingStopRequest e core target).state.contexts = st.contexts := by
    intro core st
    unfold servicePendingStopRequest
    generalize hstopped : st.onProc (fun proc => proc.switchToIdle e.platform e.root core) = stopped
    have hcontexts : stopped.state.contexts = st.contexts := by rw [← hstopped]; rfl
    obtain ⟨_ | _, st1⟩ := stopped
    · exact hcontexts
    · dsimp only
      split <;> exact hcontexts
  unfold stopProcessForReclamation
  dsimp only
  split
  · rfl
  · apply andThen_keeps (P := fun state : SystemState => state.contexts = st.contexts) rfl
    intro _ st1 hsuspended
    split
    · exact hsuspended
    · split
      · exact hsuspended
      · apply andThen_keeps (P := fun state : SystemState => state.contexts = st.contexts) hsuspended
        exact fun _ st2 hsent => (hserviced _ st2).trans hsent

theorem detachFromWaitQueues_frame (id : ProcessId) :
    ((st.detachFromWaitQueues target).state.contexts id).faultReason =
        (st.contexts id).faultReason ∧
      ((st.detachFromWaitQueues target).state.contexts id).destinationReplyTarget =
        (st.contexts id).destinationReplyTarget := by
  unfold detachFromWaitQueues
  apply andThen_keeps (P := fun state : SystemState =>
    (state.contexts id).faultReason = (st.contexts id).faultReason ∧
      (state.contexts id).destinationReplyTarget = (st.contexts id).destinationReplyTarget)
  · unfold detachFromIpcQueue
    split
    · exact ⟨rfl, rfl⟩
    next port _ =>
      have honly := (IpcOnly.refl st).removeIpcQueue port target
      rw [transformError_state]
      exact ⟨honly.field IpcContext.faultReason (fun _ => rfl) id,
        honly.field IpcContext.destinationReplyTarget (fun _ => rfl) id⟩
  · intro _ st1 hdetached
    unfold detachFromNotificationQueue
    split
    · exact hdetached
    next port _ =>
      have honly := (NotificationOnly.refl st1).removeNotificationQueue port target
      rw [transformError_state]
      exact ⟨(honly.field IpcContext.faultReason (fun _ => rfl) id).trans hdetached.1,
        (honly.field IpcContext.destinationReplyTarget (fun _ => rfl) id).trans hdetached.2⟩

end

theorem Leads.of_subset {head head' : Option ProcessId} {next next' : ProcessId → Option ProcessId}
    {id : ProcessId} (h : Leads head' next' id)
    (hhead : ∀ first, head' = some first → Leads head next first)
    (hnext : ∀ a b, next' a = some b → next a = some b) : Leads head next id := by
  obtain ⟨first, hfirst, hpath⟩ := h
  obtain ⟨first', hfirst', hpath'⟩ := hhead first hfirst
  exact ⟨first', hfirst', hpath'.trans (Relation.ReflTransGen.mono (fun _ _ => hnext _ _) _ _ hpath)⟩

theorem HeldBy.of_popIpcQueue {port : Word} {id : ProcessId}
    (h : (st.popIpcQueue port).state.HeldBy id (.ipcPort port)) : st.HeldBy id (.ipcPort port) := by
  unfold SystemState.popIpcQueue at h
  cases hhead : (st.ports port).queueHead with
  | none =>
    rw [hhead] at h
    exact h
  | some target =>
    cases hnext : (st.contexts target).nextIpcQueue with
    | none =>
      obtain ⟨first, hfirst, -⟩ := h
      simp [hhead, hnext, modifyPort] at hfirst
    | some head =>
      simp only [hhead, hnext, ok_state] at h
      apply Leads.of_subset h
      · intro first hfirst
        have : first = head := by simpa [modifyPort] using hfirst.symm
        exact ⟨target, hhead, .single (by rw [this]; exact hnext)⟩
      · intro a b hab
        simp only [modifyContext_contexts] at hab
        split_ifs at hab with h1 h2 <;> simp_all

theorem HeldBy.of_popNotificationQueue {port : Word} {id : ProcessId}
    (h : (st.popNotificationQueue port).state.HeldBy id (.notificationPort port)) :
    st.HeldBy id (.notificationPort port) := by
  unfold SystemState.popNotificationQueue at h
  cases hhead : (st.notifications port).queueHead with
  | none =>
    rw [hhead] at h
    exact h
  | some target =>
    cases hnext : (st.contexts target).nextNotificationQueue with
    | none =>
      obtain ⟨first, hfirst, -⟩ := h
      simp [hhead, hnext, modifyNotification] at hfirst
    | some head =>
      simp only [hhead, hnext, ok_state] at h
      apply Leads.of_subset h
      · intro first hfirst
        have : first = head := by simpa [modifyNotification] using hfirst.symm
        exact ⟨target, hhead, .single (by rw [this]; exact hnext)⟩
      · intro a b hab
        simp only [modifyContext_contexts] at hab
        split_ifs at hab with h1 h2 <;> simp_all

theorem popIpcQueue_of_head {port : Word} (hhead : (st.ports port).queueHead = some target) :
    st.popIpcQueue port = .ok target (st.popIpcQueue port).state := by
  unfold popIpcQueue
  rw [hhead]
  rfl

theorem popNotificationQueue_of_head {port : Word}
    (hhead : (st.notifications port).queueHead = some target) :
    st.popNotificationQueue port = .ok target (st.popNotificationQueue port).state := by
  unfold popNotificationQueue
  rw [hhead]
  rfl

theorem dropReply_faultReason (st : SystemState) (client id : ProcessId) :
    ((st.dropReply client).contexts id).faultReason = (st.contexts id).faultReason := by
  have hfield : ∀ (st : SystemState) (other : ProcessId) (f : IpcContext → IpcContext),
      (∀ context, (f context).faultReason = context.faultReason) →
      ((st.modifyContext other f).contexts id).faultReason = (st.contexts id).faultReason := by
    intro st other f hf
    rw [modifyContext_contexts]
    split_ifs with hid
    · rw [hf, hid]
    · rfl
  unfold dropReply forgetClient
  refine (hfield _ _ _ fun _ => by rfl).trans ?_
  split
  · split
    · exact hfield _ _ _ fun _ => by rfl
    · rfl
  · rfl

end Frames

/-! ## Properties that survive the writes -/

structure Invariant (may : Access → Prop) where
  holds : SystemState → Prop
  write : ∀ {st st' : SystemState}, holds st → Write may st st' → st'.proc = st.proc → holds st'
  status : ∀ {st : SystemState} {id : ProcessId} {status : ProcessStatus}, holds st →
    may (.status id status) → holds (st.setStatus id status)

def Keeps {may : Access → Prop} (i : Invariant may) (st : SystemState) : Prop := i.holds st

namespace Keeps

variable {e : Entry} {may : Access → Prop} {i : Invariant may} {owner target : ProcessId}
  {st : SystemState} {port : Word}

theorem write {st' : SystemState} (h : Keeps i st) (h' : Write may st st')
    (hproc : st'.proc = st.proc) : Keeps i st' := i.write h h' hproc

/-! ### Single writes -/

section

variable (h : Keeps i st)
include h

theorem context (target : ProcessId) (f : IpcContext → IpcContext)
    (hf : ∀ context, (f context).recorded = context.recorded) :
    Keeps i (st.modifyContext target f) := by
  have hfault : ∀ context, (f context).faultReason = context.faultReason :=
    fun context => congrArg (·.1) (hf context)
  have hidentify : ∀ context, (f context).identifierWhenBlocked = context.identifierWhenBlocked :=
    fun context => congrArg (·.2) (hf context)
  exact h.write (.context target f ⟨.inr hfault, .inr hidentify⟩) rfl

theorem fault (hfault : may (.fault target)) (f : IpcContext → IpcContext)
    (hidentify : ∀ context, (f context).identifierWhenBlocked = context.identifierWhenBlocked) :
    Keeps i (st.modifyContext target f) :=
  h.write (.context target f ⟨.inl hfault, .inr hidentify⟩) rfl

theorem identify (hidentify : may (.identify owner)) (self : PortSlot) :
    Keeps i (st.identify owner self) :=
  h.write (.context owner _ ⟨.inr fun _ => rfl, .inl hidentify⟩) rfl

theorem modifyPort (port : Word) (f : IpcPort → IpcPort) :
    Keeps i (st.modifyPort port f) := h.write (.port port f) rfl

theorem queue (port : Word) (f : NotificationPort → NotificationPort)
    (hf : ∀ port, (f port).pending = port.pending) :
    Keeps i (st.modifyNotification port f) := h.write (.notification port f hf) rfl

theorem consume (hmay : may (.consume port)) :
    Keeps i (st.modifyNotification port NotificationPort.consume) :=
  h.write (.consume port hmay) rfl

theorem setStatus {status : ProcessStatus} (hmay : may (.status target status)) :
    Keeps i (st.setStatus target status) := i.status h hmay

end

theorem andThen {ε α β : Type} {o : Outcome ε SystemState α} (h : Keeps i o.state)
    {next : α → SystemState → Outcome ε SystemState β}
    (hnext : ∀ value state, Keeps i state → Keeps i (next value state).state) :
    Keeps i (o.andThen next).state :=
  andThen_keeps (P := Keeps i) h hnext

theorem transformError {ε ε' α : Type} {o : Outcome ε SystemState α}
    (h : Keeps i o.state) (f : ε → ε') : Keeps i (o.transformError f).state := by
  rw [transformError_state]
  exact h

/-! ### Registers -/

theorem configureMessageRegister (h : Keeps i st) {index : Nat}
    (hmay : index < messageRegisterCount →
      may (.registers target (messageRegisterIndex e.platform.architecture index)))
    (value : Word) :
    Keeps i (st.configureMessageRegister e target index value).state := by
  unfold SystemState.configureMessageRegister
  split
  next hindex => exact h.write (.registers target _ value (hmay hindex)) rfl
  · split
    · exact h
    · exact h.write (.buffer _ index value) rfl

theorem writeMessageRegisters (message : List (Nat × Word)) (hmay : ∀ pair ∈ message,
      may (.registers target (messageRegisterIndex e.platform.architecture pair.1)))
    (h : Keeps i st) :
    Keeps i (st.writeMessageRegisters e target message).state := by
  induction message generalizing st with
  | nil => exact h
  | cons pair message ih =>
    unfold SystemState.writeMessageRegisters
    apply ((h.configureMessageRegister (fun _ => hmay pair (by simp)) _).transformError _).andThen
    exact fun _ _ hwritten => ih (fun other hother => hmay other (by simp [hother])) hwritten

theorem copyMessages (hmay : ∀ index, payloadStart ≤ index → index < messageRegisterCount →
      may (.registers target (messageRegisterIndex e.platform.architecture index)))
    (source : ProcessId) (count index : Nat) (h : Keeps i st) :
    Keeps i (st.copyMessages e target source count index).state := by
  induction count generalizing index st with
  | zero => exact h
  | succ count ih =>
    unfold SystemState.copyMessages
    split
    · exact h
    · apply ((h.configureMessageRegister (hmay _ (Nat.le_add_right _ _)) _).transformError
        _).andThen
      exact fun _ _ hwritten => ih (index + 1) hwritten

theorem moveCapabilities (h : Keeps i st) (destination source : ProcessId) (count : Nat) :
    Keeps i (st.moveCapabilities e destination source count).state := by
  unfold SystemState.moveCapabilities
  split_ifs <;> exact h

theorem counted {o : Outcome CapabilityError SystemState Unit} (h : Keeps i o.state) :
    Keeps i (SystemState.counted o).state := by
  unfold SystemState.counted
  split
  · exact h
  · exact h.write .failure rfl

section

variable (h : Keeps i st) (hmay : ∀ index, may (.registers target index))
include h hmay

theorem writeHeader
    (sender : ProcessId) (info : Word) : Keeps i (st.writeHeader e target sender info) :=
  (h.configureMessageRegister (fun _ => hmay _) _).configureMessageRegister (fun _ => hmay _) _

theorem transferMessage (port : Word) (sender : ProcessId) (info : Word) :
    Keeps i (st.transferMessage e port target sender info).state := by
  have hheader := h.writeHeader (e := e) hmay sender info
  unfold SystemState.transferMessage
  dsimp only
  split_ifs
  · exact hheader
  · apply counted
    apply andThen
    · exact orElse_keeps (P := Keeps i) (copyMessages (fun _ _ _ => hmay _) sender _ _ hheader)
        fun _ _ hcopied => Keeps.modifyPort hcopied port fun port => { port with state := .wait }
    · exact fun _ _ hcopied => hcopied.moveCapabilities target sender _

theorem transferDirectMessage (sender : ProcessId) (info : Word) :
    Keeps i (st.transferDirectMessage e target sender info).state := by
  have hheader := h.writeHeader (e := e) hmay sender info
  unfold SystemState.transferDirectMessage
  dsimp only
  split_ifs
  · exact hheader
  · apply counted
    apply ((copyMessages (fun _ _ _ => hmay _) sender _ _ hheader).transformError _).andThen
    exact fun _ _ hcopied => hcopied.moveCapabilities target sender _

theorem transferFaultMessage (port : Word) (sender : ProcessId) :
    Keeps i (st.transferFaultMessage e port target sender).state := by
  unfold SystemState.transferFaultMessage
  apply counted
  split
  · exact h.modifyPort port fun port => { port with state := .wait }
  · dsimp only
    have hready := h.modifyPort port fun port =>
      if port.queueHead = none then { port with state := .wait } else port
    split
    · exact hready
    · exact writeMessageRegisters _ (fun _ _ => hmay _) hready

end

/-! ### Queues -/

theorem pushIpcQueue (h : Keeps i st) (port : Word) (target : ProcessId) :
    Keeps i (st.pushIpcQueue port target) := by
  unfold SystemState.pushIpcQueue
  dsimp only
  have hcurrent := h.context target (fun context => { context with currentIpcPort := some port })
    fun _ => rfl
  split
  · refine (Keeps.context (hcurrent.context target _ ?_) _ _ fun _ => by rfl).modifyPort _ _
    exact fun _ => rfl
  · refine (hcurrent.modifyPort _ _).context target _ ?_
    exact fun _ => rfl

theorem popIpcQueue (h : Keeps i st) (port : Word) :
    Keeps i (st.popIpcQueue port).state := by
  unfold SystemState.popIpcQueue
  split
  · exact h
  · dsimp only [ok_state]
    refine context ?_ _ _ fun _ => by rfl
    split
    · exact h.modifyPort _ _
    · exact ((h.modifyPort _ _).context _ _ fun _ => by rfl).context _ _ fun _ => by rfl

theorem popIpcQueue_andThen {β : Type} {P : ProcessId → Prop} (h : Keeps i st)
    (port : Word) (hhead : ∀ target, (st.ports port).queueHead = some target → P target)
    {next : ProcessId → SystemState → Outcome CapabilityError SystemState β}
    (hnext : ∀ target state, P target → Keeps i state → Keeps i (next target state).state) :
    Keeps i (((st.popIpcQueue port).transformError
      convertKernelToCapabilityError).andThen next).state := by
  have hpopped := h.popIpcQueue port
  cases hcase : (st.ports port).queueHead with
  | none =>
    unfold SystemState.popIpcQueue
    rw [hcase]
    exact h
  | some target =>
    rw [popIpcQueue_of_head hcase]
    exact hnext target _ (hhead target hcase) hpopped

section

variable (h : Keeps i st) (port : Word)
include h

theorem removeIpcQueue (target : ProcessId) :
    Keeps i (st.removeIpcQueue port target).state := by
  unfold SystemState.removeIpcQueue
  split
  · exact h
  · dsimp only [ok_state]
    refine modifyPort (context ?_ target _ fun _ => by rfl) port _
    cases (st.contexts target).previewIpcQueue <;> cases (st.contexts target).nextIpcQueue
    · exact (h.modifyPort _ _).modifyPort _ _
    · exact context (h.modifyPort _ _) _ _ fun _ => by rfl
    · exact modifyPort (h.context _ _ fun _ => by rfl) _ _
    · exact context (h.context _ _ fun _ => by rfl) _ _ fun _ => by rfl

theorem pushNotificationQueue (target : ProcessId) :
    Keeps i (st.pushNotificationQueue port target) := by
  unfold SystemState.pushNotificationQueue
  dsimp only
  have hcurrent := h.context target
    (fun context => { context with currentNotificationPort := some port }) fun _ => rfl
  split
  · exact (((hcurrent.context target _ fun _ => by rfl).context _ _ fun _ => by rfl).context target _
      fun _ => by rfl).queue _ _ fun _ => by rfl
  · exact (hcurrent.queue _ _ fun _ => by rfl).context target _ fun _ => by rfl

theorem popNotificationQueue : Keeps i (st.popNotificationQueue port).state := by
  unfold SystemState.popNotificationQueue
  split
  · exact h
  · dsimp only [ok_state]
    refine context ?_ _ _ fun _ => by rfl
    split
    · exact h.queue _ _ fun _ => by rfl
    · exact (h.queue _ _ fun _ => by rfl).context _ _ fun _ => by rfl

theorem removeNotificationQueue (target : ProcessId) :
    Keeps i (st.removeNotificationQueue port target).state := by
  unfold SystemState.removeNotificationQueue
  split
  · exact h
  · dsimp only [ok_state]
    refine queue (context ?_ target _ fun _ => by rfl) port _
      fun port => by split <;> rfl
    cases (st.contexts target).previewNotificationQueue <;>
      cases (st.contexts target).nextNotificationQueue
    · exact (h.queue _ _ fun _ => by rfl).queue _ _ fun _ => by rfl
    · exact context (h.queue _ _ fun _ => by rfl) _ _ fun _ => by rfl
    · exact queue (h.context _ _ fun _ => by rfl) _ _ fun _ => by rfl
    · exact context (h.context _ _ fun _ => by rfl) _ _ fun _ => by rfl

end

/-! ### Replies -/

section

variable (h : Keeps i st) (server target : ProcessId)
include h

theorem linkReply : Keeps i (st.linkReply server target) := by
  unfold SystemState.linkReply
  exact (h.context server _ fun _ => by rfl).context target _ fun _ => by rfl

theorem unlinkReply : Keeps i (st.unlinkReply server target) := by
  unfold SystemState.unlinkReply
  exact (h.context target _ fun _ => by rfl).context server _ fun _ => by rfl

theorem dropReply : Keeps i (st.dropReply target) := by
  unfold SystemState.dropReply forgetClient
  refine context ?_ target _ fun _ => by rfl
  split
  · split
    · exact h.context _ _ fun _ => by rfl
    · exact h
  · exact h

theorem cancelReply_quietly : Keeps i (st.cancelReply e target false).state := by
  unfold SystemState.cancelReply
  exact h.dropReply target

end

end Keeps

end SystemState

end A9N.Kernel
