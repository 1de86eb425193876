import A9N.Kernel.Ipc.Moves

/-!
# The queues of the ports

Entering and leaving the wait queue of an IPC port or a notification port, as moves of one process.
The two kinds of port keep the same kind of queue in different fields, so the rules are stated once
for a `PortView` of these fields.
-/

namespace A9N.Kernel

open ProcState Function

def IpcContext.unqueued (context : IpcContext) : IpcContext :=
  { context with nextIpcQueue := none, previewIpcQueue := none, currentIpcPort := none }

def IpcContext.unwaiting (context : IpcContext) : IpcContext :=
  { context with nextNotificationQueue := none, previewNotificationQueue := none,
                 currentNotificationPort := none }

theorem Place.ipc_injective : Function.Injective Place.ipc := fun _ _ heq => by simpa using heq

theorem Place.notification_injective : Function.Injective Place.notification :=
  fun _ _ heq => by simpa using heq

/-! ## One kind of port -/

structure PortView (S : Type) where
  next : ProcessId → Option ProcessId
  preview : ProcessId → Option ProcessId
  current : ProcessId → Option Word
  head : Word → Option ProcessId
  tail : Word → Option ProcessId
  state : Word → S

namespace PortView

variable {S : Type} {wait state : S} {at_ : Word → Place} {v v' : PortView S}
  {place : ProcessId → Place} {id : ProcessId} {port : Word}

def Agrees (wait : S) (at_ : Word → Place) (v : PortView S) (place : ProcessId → Place) : Prop :=
  ∃ waiting : Word → List ProcessId, QueueFamily v.next v.preview v.head v.tail waiting ∧
    (∀ id port, id ∈ waiting port ↔ place id = at_ port) ∧
    (∀ id port, v.current id = some port ↔ place id = at_ port) ∧
    ∀ port, v.state port = wait ↔ waiting port = []

structure Pushed (v v' : PortView S) (port : Word) (id : ProcessId) (state : S) : Prop where
  next : ∀ other, v'.next other =
    if other = id then none else if v.tail port = some other then some id else v.next other
  preview : ∀ other, v'.preview other = if other = id then v.tail port else v.preview other
  current : ∀ other, v'.current other = if other = id then some port else v.current other
  head : ∀ other, v'.head other =
    if other = port then (v.head port).or (some id) else v.head other
  tail : ∀ other, v'.tail other = if other = port then some id else v.tail other
  state : ∀ other, v'.state other = if other = port then state else v.state other

structure Left (wait : S) (v v' : PortView S) (port : Word) (id : ProcessId) : Prop where
  next : ∀ other, other ≠ id → v'.next other =
    if v.preview id = some other then v.next id else v.next other
  preview : ∀ other, other ≠ id → v'.preview other =
    if v.next id = some other then v.preview id else v.preview other
  current : ∀ other, v'.current other = if other = id then none else v.current other
  head : ∀ other, v'.head other =
    if other = port then (if v.preview id = none then v.next id else v.head port) else v.head other
  tail : ∀ other, v'.tail other =
    if other = port then (if v.next id = none then v.preview id else v.tail port) else v.tail other
  state : ∀ other, v'.state other =
    if other = port ∧ v'.head port = none then wait else v.state other

namespace Agrees

section

variable (h : Agrees wait at_ v place)
include h

theorem ends (port : Word) : v.head port = none ↔ v.tail port = none := by
  obtain ⟨waiting, hfamily, -⟩ := h
  rw [(hfamily.queued port).head_eq_none_iff, (hfamily.queued port).tail_eq_none_iff]

theorem tail_ne (hid : place id ≠ at_ port) : v.tail port ≠ some id := by
  obtain ⟨waiting, hfamily, hmem, -⟩ := h
  rw [(hfamily.queued port).tail_eq]
  exact fun heq => hid ((hmem id port).mp (List.mem_of_getLast? heq))

theorem current_iff (id : ProcessId) (port : Word) :
    v.current id = some port ↔ place id = at_ port := by
  obtain ⟨waiting, -, -, hcurrent, -⟩ := h
  exact hcurrent id port

theorem state_ne (hid : place id = at_ port) : v.state port ≠ wait := by
  obtain ⟨waiting, -, hmem, -, hempty⟩ := h
  rw [Ne, hempty]
  exact List.ne_nil_of_mem ((hmem id port).mpr hid)

theorem head_eq_none (port : Word) : v.head port = none ↔ v.state port = wait := by
  obtain ⟨waiting, hfamily, -, -, hempty⟩ := h
  rw [(hfamily.queued port).head_eq_none_iff, hempty]

theorem first (hhead : v.head port = some id) : place id = at_ port ∧ v.preview id = none := by
  obtain ⟨waiting, hfamily, hmem, -⟩ := h
  have hqueued := hfamily.queued port
  rw [hqueued.head_eq, List.head?_eq_some_iff] at hhead
  obtain ⟨l, hl⟩ := hhead
  exact ⟨(hmem id port).mp (by simp [hl]), (hqueued.links [] id l hl).1⟩

theorem push (hat : Function.Injective at_)
    (hid : ∀ port, place id ≠ at_ port) (hpushed : v.Pushed v' port id state)
    (hne : state ≠ wait) : Agrees wait at_ v' (update place id (at_ port)) := by
  obtain ⟨waiting, hfamily, hmem, hcurrent, hempty⟩ := h
  have hout : ∀ port, id ∉ waiting port := fun port hin => hid port ((hmem id port).mp hin)
  refine ⟨_, hfamily.push hout hpushed.next hpushed.preview hpushed.head hpushed.tail,
    fun other port' => ?_, fun other port' => ?_, fun port' => ?_⟩
  · by_cases hport : port' = port
    · subst hport
      by_cases hother : other = id <;> simp [hother, hmem]
    · by_cases hother : other = id
      · simp [hother, hport, hout, hat.eq_iff, Ne.symm hport]
      · simp [hother, hport, hmem]
  · rw [hpushed.current]
    by_cases hother : other = id <;> simp [hother, hcurrent, hat.eq_iff]
  · rw [hpushed.state]
    by_cases hport : port' = port <;> simp [hport, hne, hempty]

theorem leave (hat : Function.Injective at_)
    (hid : place id = at_ port) (hmoving : ∀ port, Place.moving ≠ at_ port)
    (hleft : v.Left wait v' port id) : Agrees wait at_ v' (update place id .moving) ∧
      ∀ other port', other ≠ id → place other = at_ port' → v'.state port' = v.state port' := by
  obtain ⟨waiting, hfamily, hmem, hcurrent, hempty⟩ := h
  have hin := (hmem id port).mpr hid
  have hremoved := hfamily.remove hin hleft.next hleft.preview hleft.head hleft.tail
  have hnil := (hremoved.queued port).head_eq_none_iff
  rw [update_self] at hnil
  refine ⟨⟨_, hremoved, fun other port' => ?_, fun other port' => ?_, fun port' => ?_⟩,
    fun other port' hother hplace => ?_⟩
  · by_cases hport : port' = port
    · subst hport
      rw [update_self, (hfamily.queued port').nodup.mem_erase_iff]
      by_cases hother : other = id <;> simp [hother, hmem, hmoving]
    · by_cases hother : other = id
      · simp [hother, hport, hmem, hid, hmoving, hat.eq_iff, Ne.symm hport]
      · simp [hother, hport, hmem]
  · rw [hleft.current]
    by_cases hother : other = id <;> simp [hother, hcurrent, hmoving]
  · rw [hleft.state]
    simp only [hnil]
    by_cases hport : port' = port
    · subst hport
      have hwaits : v.state port' ≠ wait := by
        rw [Ne, hempty]
        exact List.ne_nil_of_mem hin
      by_cases hlast : (waiting port').erase id = [] <;> simp [hlast, hwaits]
    · simp [hport, hempty]
  · have hstays : ¬ (port' = port ∧ v'.head port = none) := by
      rintro ⟨rfl, hnone⟩
      have hother := (List.mem_erase_of_ne hother).mpr ((hmem other port').mpr hplace)
      rw [hnil.mp hnone] at hother
      cases hother
    rw [hleft.state, if_neg hstays]

theorem leave_ends (hid : place id = at_ port) :
    (if v.preview id = none then v.next id else v.head port) = none →
      (if v.next id = none then v.preview id else v.tail port) = none := by
  obtain ⟨waiting, hfamily, hmem, -⟩ := h
  have hremoved := hfamily.remove ((hmem id port).mpr hid) (fun _ _ => rfl) (fun _ _ => rfl)
    (fun _ => rfl) fun _ => rfl
  have hhead := (hremoved.queued port).head_eq_none_iff
  have htail := (hremoved.queued port).tail_eq_none_iff
  simp only [if_pos] at hhead htail
  exact fun hnone => htail.mpr (hhead.mp hnone)

end

end Agrees

end PortView

namespace SystemState

def ipcView (st : SystemState) : PortView IpcPortState where
  next id := (st.contexts id).nextIpcQueue
  preview id := (st.contexts id).previewIpcQueue
  current id := (st.contexts id).currentIpcPort
  head port := (st.ports port).queueHead
  tail port := (st.ports port).queueTail
  state port := (st.ports port).state

def notificationView (st : SystemState) : PortView NotificationPortState where
  next id := (st.contexts id).nextNotificationQueue
  preview id := (st.contexts id).previewNotificationQueue
  current id := (st.contexts id).currentNotificationPort
  head port := (st.notifications port).queueHead
  tail port := (st.notifications port).queueTail
  state port := (st.notifications port).state

section Views

variable {st : SystemState} {port : Word} {id : ProcessId}

theorem pushIpcQueue_view (state : IpcPortState)
    (hends : st.ipcView.head port = none ↔ st.ipcView.tail port = none)
    (hid : st.ipcView.tail port ≠ some id) :
    st.ipcView.Pushed ((st.modifyPort port fun fields =>
      { fields with state := state }).pushIpcQueue port id).ipcView port id state := by
  dsimp only [ipcView] at hends hid
  unfold pushIpcQueue
  cases hhead : (st.ports port).queueHead with
  | none =>
    have htail := hends.mp hhead
    constructor <;> intro other <;>
      simp [ipcView, modifyContext_contexts, modifyPort_ports, hhead, htail] <;> grind
  | some head =>
    cases htail : (st.ports port).queueTail with
    | none => simp [hends.mpr htail] at hhead
    | some tail =>
      constructor <;> intro other <;>
        simp [ipcView, modifyContext_contexts, modifyPort_ports, hhead, htail] <;> grind

theorem popIpcQueue_view (hhead : st.ipcView.head port = some id)
    (hpreview : st.ipcView.preview id = none) :
    (st.popIpcQueue port).result = .ok id ∧
      st.ipcView.Left .wait (st.popIpcQueue port).state.ipcView port id := by
  dsimp only [ipcView] at hhead hpreview
  unfold popIpcQueue
  simp only [hhead]
  refine ⟨rfl, ?_⟩
  cases hnext : (st.contexts id).nextIpcQueue <;>
    constructor <;> intro other <;>
      simp [ipcView, modifyContext_contexts, modifyPort_ports, hnext, hpreview] <;> grind

theorem removeIpcQueue_view (hcurrent : st.ipcView.current id = some port)
    (hends : (if st.ipcView.preview id = none then st.ipcView.next id else st.ipcView.head port) =
      none → (if st.ipcView.next id = none then st.ipcView.preview id else st.ipcView.tail port) =
        none) :
    (st.removeIpcQueue port id).result = .ok () ∧
      st.ipcView.Left .wait (st.removeIpcQueue port id).state.ipcView port id := by
  dsimp only [ipcView] at hcurrent hends
  unfold removeIpcQueue
  rw [if_neg (not_not.mpr hcurrent)]
  refine ⟨rfl, ?_⟩
  cases hpreview : (st.contexts id).previewIpcQueue <;>
    cases hnext : (st.contexts id).nextIpcQueue <;>
      constructor <;> intro other <;>
        simp [ipcView, modifyContext_contexts, modifyPort_ports, hnext, hpreview] <;> grind

theorem pushNotificationQueue_view (state : NotificationPortState)
    (hends : st.notificationView.head port = none ↔ st.notificationView.tail port = none)
    (hid : st.notificationView.tail port ≠ some id) :
    st.notificationView.Pushed ((st.modifyNotification port fun fields =>
      { fields with state := state }).pushNotificationQueue port id).notificationView port id state := by
  dsimp only [notificationView] at hends hid
  unfold pushNotificationQueue
  cases hhead : (st.notifications port).queueHead with
  | none =>
    have htail := hends.mp hhead
    constructor <;> intro other <;>
      simp [notificationView, modifyContext_contexts, modifyNotification_notifications, hhead, htail] <;> grind
  | some head =>
    cases htail : (st.notifications port).queueTail with
    | none => simp [hends.mpr htail] at hhead
    | some tail =>
      constructor <;> intro other <;>
        simp [notificationView, modifyContext_contexts, modifyNotification_notifications, hhead, htail] <;> grind

theorem popNotificationQueue_view (hhead : st.notificationView.head port = some id)
    (hpreview : st.notificationView.preview id = none) :
    (st.popNotificationQueue port).result = .ok id ∧
      st.notificationView.Left .wait (st.popNotificationQueue port).state.notificationView port id := by
  dsimp only [notificationView] at hhead hpreview
  unfold popNotificationQueue
  simp only [hhead]
  refine ⟨rfl, ?_⟩
  cases hnext : (st.contexts id).nextNotificationQueue <;>
    constructor <;> intro other <;>
      simp [notificationView, modifyContext_contexts, modifyNotification_notifications, hnext, hpreview] <;> grind

theorem removeNotificationQueue_view (hcurrent : st.notificationView.current id = some port)
    (hends : (if st.notificationView.preview id = none then st.notificationView.next id else st.notificationView.head port) =
      none → (if st.notificationView.next id = none then st.notificationView.preview id else st.notificationView.tail port) =
        none) :
    (st.removeNotificationQueue port id).result = .ok () ∧
      st.notificationView.Left .wait (st.removeNotificationQueue port id).state.notificationView port id := by
  dsimp only [notificationView] at hcurrent hends
  unfold removeNotificationQueue
  rw [if_neg (not_not.mpr hcurrent)]
  refine ⟨rfl, ?_⟩
  cases hpreview : (st.contexts id).previewNotificationQueue <;>
    cases hnext : (st.contexts id).nextNotificationQueue <;>
      constructor <;> intro other <;>
        simp [notificationView, modifyContext_contexts, modifyNotification_notifications, hnext, hpreview] <;> grind

end Views
/-! ## Steps inside the queues of one kind of port -/

structure QueuesOnly (strip : IpcContext → IpcContext) (st st' : SystemState) : Prop where
  proc : st'.proc = st.proc
  failedTransfers : st'.failedTransfers = st.failedTransfers
  context : ∀ id, strip (st'.contexts id) = strip (st.contexts id)

theorem QueuesOnly.modifyContext {strip : IpcContext → IpcContext} {st st' : SystemState}
    (h : QueuesOnly strip st st') (id : ProcessId) (f : IpcContext → IpcContext)
    (hf : ∀ context, strip (f context) = strip context) :
    QueuesOnly strip st (st'.modifyContext id f) := by
  refine ⟨h.proc, h.failedTransfers, fun other => ?_⟩
  rw [modifyContext_contexts]
  by_cases hother : other = id
  · rw [if_pos hother, hf, hother, h.context]
  · rw [if_neg hother, h.context]

/-- A field outside the links of the queues is unchanged. -/
theorem QueuesOnly.field {β : Type} {strip : IpcContext → IpcContext} {st st' : SystemState}
    (h : QueuesOnly strip st st') (field : IpcContext → β)
    (hfield : ∀ context, field (strip context) = field context) (id : ProcessId) :
    field (st'.contexts id) = field (st.contexts id) := by
  rw [← hfield, h.context id, hfield]

structure IpcOnly (st st' : SystemState) : Prop extends QueuesOnly IpcContext.unqueued st st' where
  notifications : st'.notifications = st.notifications

namespace IpcOnly

variable {st st' : SystemState}

theorem refl (st : SystemState) : IpcOnly st st := ⟨⟨rfl, rfl, fun _ => rfl⟩, rfl⟩

section

variable (h : IpcOnly st st')
include h

theorem modifyContext (id : ProcessId) (f : IpcContext → IpcContext)
    (hf : ∀ context, (f context).unqueued = context.unqueued) :
    IpcOnly st (st'.modifyContext id f) :=
  ⟨h.toQueuesOnly.modifyContext id f hf, h.notifications⟩

theorem modifyPort (port : Word) (f : IpcPort → IpcPort) : IpcOnly st (st'.modifyPort port f) :=
  ⟨⟨h.proc, h.failedTransfers, h.context⟩, h.notifications⟩

theorem pushIpcQueue (port : Word) (id : ProcessId) : IpcOnly st (st'.pushIpcQueue port id) := by
  unfold SystemState.pushIpcQueue
  dsimp only
  have hcurrent := h.modifyContext id (fun context => { context with currentIpcPort := some port })
    fun _ => rfl
  split
  · exact ((hcurrent.modifyContext id _ fun _ => by rfl).modifyContext _ _
      fun _ => by rfl).modifyPort _ _
  · exact (hcurrent.modifyPort _ _).modifyContext _ _ fun _ => by rfl

theorem popIpcQueue (port : Word) : IpcOnly st (st'.popIpcQueue port).state := by
  unfold SystemState.popIpcQueue
  split
  · exact h
  · dsimp only [Outcome.ok_state]
    refine IpcOnly.modifyContext ?_ _ _ fun _ => by rfl
    split
    · exact h.modifyPort _ _
    · exact ((h.modifyPort _ _).modifyContext _ _ fun _ => by rfl).modifyContext _ _
        fun _ => by rfl

theorem removeIpcQueue (port : Word) (id : ProcessId) :
    IpcOnly st (st'.removeIpcQueue port id).state := by
  unfold SystemState.removeIpcQueue
  split
  · exact h
  · dsimp only [Outcome.ok_state]
    refine (IpcOnly.modifyContext ?_ _ _ fun _ => by rfl).modifyPort _ _
    split
    · refine IpcOnly.modifyContext ?_ _ _ fun _ => by rfl
      split
      · exact h.modifyContext _ _ fun _ => by rfl
      · exact h.modifyPort _ _
    · refine IpcOnly.modifyPort ?_ _ _
      split
      · exact h.modifyContext _ _ fun _ => by rfl
      · exact h.modifyPort _ _

end

end IpcOnly

structure NotificationOnly (st st' : SystemState) : Prop
    extends QueuesOnly IpcContext.unwaiting st st' where
  ports : st'.ports = st.ports

namespace NotificationOnly

variable {st st' : SystemState}

theorem refl (st : SystemState) : NotificationOnly st st := ⟨⟨rfl, rfl, fun _ => rfl⟩, rfl⟩

section

variable (h : NotificationOnly st st')
include h

theorem modifyContext (id : ProcessId) (f : IpcContext → IpcContext)
    (hf : ∀ context, (f context).unwaiting = context.unwaiting) :
    NotificationOnly st (st'.modifyContext id f) :=
  ⟨h.toQueuesOnly.modifyContext id f hf, h.ports⟩

theorem modifyNotification (port : Word) (f : NotificationPort → NotificationPort) :
    NotificationOnly st (st'.modifyNotification port f) :=
  ⟨⟨h.proc, h.failedTransfers, h.context⟩, h.ports⟩

theorem pushNotificationQueue (port : Word) (id : ProcessId) :
    NotificationOnly st (st'.pushNotificationQueue port id) := by
  unfold SystemState.pushNotificationQueue
  dsimp only
  have hcurrent := h.modifyContext id
    (fun context => { context with currentNotificationPort := some port }) fun _ => rfl
  split
  · exact (((hcurrent.modifyContext id _ fun _ => by rfl).modifyContext _ _
      fun _ => by rfl).modifyContext id _ fun _ => by rfl).modifyNotification _ _
  · exact (hcurrent.modifyNotification _ _).modifyContext _ _ fun _ => by rfl

theorem popNotificationQueue (port : Word) :
    NotificationOnly st (st'.popNotificationQueue port).state := by
  unfold SystemState.popNotificationQueue
  split
  · exact h
  · dsimp only [Outcome.ok_state]
    refine NotificationOnly.modifyContext ?_ _ _ fun _ => by rfl
    split
    · exact h.modifyNotification _ _
    · exact (h.modifyNotification _ _).modifyContext _ _ fun _ => by rfl

theorem removeNotificationQueue (port : Word) (id : ProcessId) :
    NotificationOnly st (st'.removeNotificationQueue port id).state := by
  unfold SystemState.removeNotificationQueue
  split
  · exact h
  · dsimp only [Outcome.ok_state]
    refine (NotificationOnly.modifyContext ?_ _ _ fun _ => by rfl).modifyNotification _ _
    split
    · refine NotificationOnly.modifyContext ?_ _ _ fun _ => by rfl
      split
      · exact h.modifyContext _ _ fun _ => by rfl
      · exact h.modifyNotification _ _
    · refine NotificationOnly.modifyNotification ?_ _ _
      split
      · exact h.modifyContext _ _ fun _ => by rfl
      · exact h.modifyNotification _ _

end

end NotificationOnly

namespace Placed

variable {s : Setting} {stale : Option Nat} {hole : Option ProcessId} {st st' : SystemState}
  {place : ProcessId → Place} {id : ProcessId} {port : Word} {dest : Place}

section

variable (h : Placed s stale hole st place)
include h

theorem ipc_agrees : PortView.Agrees .wait .ipc st.ipcView place := h.ipc

theorem notification_agrees :
    PortView.Agrees .wait .notification st.notificationView place := h.notification

theorem ipcMove (honly : IpcOnly st st')
    (hipc : PortView.Agrees .wait .ipc st'.ipcView (update place id dest))
    (hfrom : place id = .moving ∨ ∃ port, place id = .ipc port)
    (hdest : dest = .moving ∨ ∃ port, dest = .ipc port)
    (hstates : ∀ other port, other ≠ id → place other = .ipc port →
      (st'.ports port).state = (st.ports port).state)
    (hfits : hole ≠ some id → st'.Fits s id dest) :
    Placed s stale hole st' (update place id dest) := by
  have hne : ∀ {at_ : Place}, ¬ (at_ = .moving ∨ ∃ port, at_ = .ipc port) →
      place id ≠ at_ ∧ dest ≠ at_ :=
    ne_of_kind (P := fun at_ => at_ = .moving ∨ ∃ port, at_ = .ipc port) hfrom hdest
  apply h.moveAmong (P := fun at_ => at_ = .moving ∨ ∃ port, at_ = .ipc port) hfrom hdest honly.proc
    (by simp) hipc
  · exact (notificationPart_update h.notification fun _ => hne (by simp)).congr
      (honly.field _ fun _ => rfl) (by simp [honly.notifications]) fun _ _ => Iff.rfl
  · exact (repliesMatch_update h.replies (hne (by simp))).congr (honly.field _ fun _ => rfl)
      fun _ => Iff.rfl
  · exact fun other hother hfit => hfit.congr (by rw [honly.proc]) (by rw [honly.proc])
      (honly.field _ (fun _ => rfl) other) fun port hport => hstates other port hother hport
  · exact hfits

theorem pushIpc (hid : place id = .moving) (port : Word)
    (state : IpcPortState) (hstate : (st.ports port).state = .wait ∨ (st.ports port).state = state)
    (hwaits : hole ≠ some id → st.Waits id state) (hne : state ≠ .wait) :
    Placed s stale hole
      ((st.modifyPort port fun fields => { fields with state := state }).pushIpcQueue port id)
      (update place id (.ipc port)) := by
  have hpushed := pushIpcQueue_view state (h.ipc_agrees.ends port)
    (show _ ≠ some id from h.ipc_agrees.tail_ne (by simp [hid]))
  have honly := ((IpcOnly.refl st).modifyPort port fun fields =>
    { fields with state := state }).pushIpcQueue port id
  apply h.ipcMove honly
  · exact h.ipc_agrees.push Place.ipc_injective (by simp [hid]) hpushed hne
  · exact .inl hid
  · exact .inr ⟨port, rfl⟩
  · intro other port' _ hplace
    have hnot : (st.ports port').state ≠ .wait := h.ipc_agrees.state_ne hplace
    refine (hpushed.state port').trans ?_
    by_cases hport : port' = port
    · subst hport
      rw [if_pos rfl, hstate.resolve_left hnot]
    · exact if_neg hport
  · intro hhole
    have hself : (IpcPort.state (SystemState.ports _ port)) = state :=
      (hpushed.state port).trans (if_pos rfl)
    simp only [Fits, hself]
    exact (hwaits hhole).congr (by rw [honly.proc]) (honly.field _ (fun _ => rfl) id)

theorem popIpc (hport : (st.ports port).state ≠ .wait) : (st.popIpcQueue port).Post
      (fun id st' => place id = .ipc port ∧ IpcOnly st st' ∧
        Placed s stale hole st' (update place id .moving))
      (fun _ _ => False) := by
  obtain ⟨id, hhead⟩ := Option.ne_none_iff_exists'.mp fun hnone =>
    hport ((h.ipc_agrees.head_eq_none port).mp hnone)
  obtain ⟨hplace, hfirst⟩ := h.ipc_agrees.first hhead
  obtain ⟨hresult, hleft⟩ := popIpcQueue_view hhead hfirst
  obtain ⟨hagrees, hstates⟩ := h.ipc_agrees.leave Place.ipc_injective hplace (by simp) hleft
  have honly := (IpcOnly.refl st).popIpcQueue port
  unfold Outcome.Post
  rw [hresult]
  exact ⟨hplace, honly, h.ipcMove honly hagrees (.inr ⟨port, hplace⟩) (.inl rfl) hstates
    fun _ => trivial⟩

theorem removeIpc (hid : place id = .ipc port) : (st.removeIpcQueue port id).Post
      (fun _ st' => IpcOnly st st' ∧ Placed s stale hole st' (update place id .moving))
      (fun _ _ => False) := by
  obtain ⟨hresult, hleft⟩ := removeIpcQueue_view ((h.ipc_agrees.current_iff id port).mpr hid)
    (h.ipc_agrees.leave_ends hid)
  obtain ⟨hagrees, hstates⟩ := h.ipc_agrees.leave Place.ipc_injective hid (by simp) hleft
  have honly := (IpcOnly.refl st).removeIpcQueue port id
  unfold Outcome.Post
  rw [hresult]
  exact ⟨honly, h.ipcMove honly hagrees (.inr ⟨port, hid⟩) (.inl rfl) hstates fun _ => trivial⟩

theorem notificationMove (honly : NotificationOnly st st') (hnotification :
      PortView.Agrees .wait .notification st'.notificationView (update place id dest))
    (hfrom : place id = .moving ∨ ∃ port, place id = .notification port)
    (hdest : dest = .moving ∨ ∃ port, dest = .notification port)
    (hfits : hole ≠ some id → st.Fits s id dest) :
    Placed s stale hole st' (update place id dest) := by
  have hne : ∀ {at_ : Place}, ¬ (at_ = .moving ∨ ∃ port, at_ = .notification port) →
      place id ≠ at_ ∧ dest ≠ at_ :=
    ne_of_kind (P := fun at_ => at_ = .moving ∨ ∃ port, at_ = .notification port) hfrom hdest
  have hkeeps : ∀ {other : ProcessId} {at_ : Place}, st.Fits s other at_ → st'.Fits s other at_ :=
    fun hfit => hfit.congr (by rw [honly.proc]) (by rw [honly.proc])
      (honly.field _ (fun _ => rfl) _) fun _ _ => by rw [honly.ports]
  apply h.moveAmong (P := fun at_ => at_ = .moving ∨ ∃ port, at_ = .notification port) hfrom hdest
    honly.proc (by simp)
  · exact (ipcPart_update h.ipc fun _ => hne (by simp)).congr (honly.field _ fun _ => rfl)
      honly.ports fun _ _ => Iff.rfl
  · exact hnotification
  · exact (repliesMatch_update h.replies (hne (by simp))).congr (honly.field _ fun _ => rfl)
      fun _ => Iff.rfl
  · exact fun _ _ hfit => hkeeps hfit
  · exact fun hhole => hkeeps (hfits hhole)

theorem pushNotification (hid : place id = .moving)
    (port : Word) (hfits : hole ≠ some id → st.Fits s id (.notification port)) :
    Placed s stale hole ((st.modifyNotification port fun fields =>
        { fields with state := .readyToWake }).pushNotificationQueue port id)
      (update place id (.notification port)) := by
  have hpushed := pushNotificationQueue_view .readyToWake (h.notification_agrees.ends port)
    (show _ ≠ some id from h.notification_agrees.tail_ne (by simp [hid]))
  have honly := ((NotificationOnly.refl st).modifyNotification port fun fields =>
    { fields with state := .readyToWake }).pushNotificationQueue port id
  exact h.notificationMove honly (h.notification_agrees.push Place.notification_injective
    (by simp [hid]) hpushed (by simp)) (.inl hid) (.inr ⟨port, rfl⟩) hfits

theorem popNotification (hhead : (st.notifications port).queueHead ≠ none) :
    (st.popNotificationQueue port).Post
      (fun id st' => place id = .notification port ∧ NotificationOnly st st' ∧
        Placed s stale hole st' (update place id .moving))
      (fun _ _ => False) := by
  obtain ⟨id, hhead⟩ := Option.ne_none_iff_exists'.mp hhead
  obtain ⟨hplace, hfirst⟩ := h.notification_agrees.first hhead
  obtain ⟨hresult, hleft⟩ := popNotificationQueue_view hhead hfirst
  have hagrees :=
    (h.notification_agrees.leave Place.notification_injective hplace (by simp) hleft).1
  have honly := (NotificationOnly.refl st).popNotificationQueue port
  unfold Outcome.Post
  rw [hresult]
  exact ⟨hplace, honly, h.notificationMove honly hagrees (.inr ⟨port, hplace⟩) (.inl rfl)
    fun _ => trivial⟩

theorem removeNotification (hid : place id = .notification port) :
    (st.removeNotificationQueue port id).Post (fun _ st' => NotificationOnly st st' ∧
        Placed s stale hole st' (update place id .moving))
      (fun _ _ => False) := by
  obtain ⟨hresult, hleft⟩ := removeNotificationQueue_view
    ((h.notification_agrees.current_iff id port).mpr hid) (h.notification_agrees.leave_ends hid)
  have hagrees := (h.notification_agrees.leave Place.notification_injective hid (by simp) hleft).1
  have honly := (NotificationOnly.refl st).removeNotificationQueue port id
  unfold Outcome.Post
  rw [hresult]
  exact ⟨honly, h.notificationMove honly hagrees (.inr ⟨port, hid⟩) (.inl rfl) fun _ => trivial⟩

end

end Placed

end SystemState

end A9N.Kernel
