import A9N.Kernel.Ipc.Alike

/-!
# Moving one process

The elementary steps of the operations: a process leaves a queue or a core, is put into a queue or
on a core, a caller and its server are linked or unlinked. Each step is given as what it does to
the places of all processes.
-/

namespace A9N.Kernel

open ProcState Function

def Place.Unlisted : Place → Prop
  | .moving | .parked | .loose => True
  | _ => False

theorem update_eq_iff {place : ProcessId → Place} {id other : ProcessId} {dest at_ : Place}
    (hne : place id ≠ at_ ∧ dest ≠ at_) :
    update place id dest other = at_ ↔ place other = at_ := by
  by_cases h : other = id
  · subst h
    simp [hne]
  · simp [h]

theorem ne_of_kind {P : Place → Prop} {old dest at_ : Place} (hold : P old) (hdest : P dest)
    (hat : ¬ P at_) : old ≠ at_ ∧ dest ≠ at_ :=
  ⟨fun heq => hat (heq ▸ hold), fun heq => hat (heq ▸ hdest)⟩

namespace SystemState

namespace Placed

variable {s : Setting} {stale : Option Nat} {hole : Option ProcessId} {st st' : SystemState}
  {place : ProcessId → Place} {id : ProcessId}

/-! ## Steps that keep every place -/

theorem openHole (h : Placed s stale none st place) (id : ProcessId) :
    Placed s stale (some id) st place :=
  { h with fits := fun other _ => h.fits other (by simp) }

theorem closeHole (h : Placed s stale (some id) st place) (hfits : st.Fits s id (place id)) :
    Placed s stale none st place :=
  { h with
    fits := fun other _ => by
      by_cases hother : id = other
      · exact hother ▸ hfits
      · exact h.fits other (by simp [hother]) }

section

variable (h : Placed s stale hole st place)
include h

theorem alike (ha : Alike st st') : Placed s stale hole st' place := by
  have hcontext : ∀ id, (st'.contexts id).essential = (st.contexts id).essential := ha.context
  simp only [IpcContext.essential, IpcContext.mk.injEq] at hcontext
  have hport : ∀ port, (st'.notifications port).essential = (st.notifications port).essential :=
    ha.notification
  simp only [NotificationPort.essential, NotificationPort.mk.injEq] at hport
  refine ⟨?_, ?_, ?_, ?_, ?_, ?_, ?_, h.idle, ?_, ?_, ?_, h.idleRoot, h.rooted, h.existing⟩
  · unfold ReadyPart
    rw [ha.proc]
    exact h.ready
  · exact h.ipc.congr (fun id => by simp [IpcContext.ipcLinks, hcontext id]) ha.ports
      fun _ _ => Iff.rfl
  · exact h.notification.congr (fun id => by simp [IpcContext.notificationLinks, hcontext id])
      (fun port => by simp [NotificationPort.queue, hport port]) fun _ _ => Iff.rfl
  · exact fun core => (h.cores core).congr (by rw [ha.proc]) (by rw [ha.proc]) fun _ hp => hp
  · rw [ha.proc]
    exact h.current
  · exact h.replies.congr (fun id => by simp [IpcContext.replyLinks, hcontext id])
      fun _ => Iff.rfl
  · intro id hid
    exact (h.fits id hid).congr (by rw [ha.proc]) (by rw [ha.proc])
      (by simp [IpcContext.standing, hcontext id]) fun _ _ => by rw [ha.ports]
  · rw [ha.proc]
    exact h.priority
  · rw [ha.proc]
    exact h.idleAffinity
  · rw [ha.proc]
    exact h.aligned

theorem modifyProcess (id : ProcessId) (f : Process → Process)
    (hf : ∀ process, (f process).next = process.next ∧ (f process).preview = process.preview ∧
      (f process).isInReadyQueue = process.isInReadyQueue ∧
      (f process).priority = process.priority ∧ (f process).coreAffinity = process.coreAffinity)
    (hfits : hole ≠ some id → (st.modifyProcess id f).Fits s id (place id)) :
    Placed s stale hole (st.modifyProcess id f) place := by
  have hprocess : ∀ other, ((st.modifyProcess id f).proc.processes other).next =
        (st.proc.processes other).next ∧
      ((st.modifyProcess id f).proc.processes other).preview = (st.proc.processes other).preview ∧
      ((st.modifyProcess id f).proc.processes other).isInReadyQueue =
        (st.proc.processes other).isInReadyQueue ∧
      ((st.modifyProcess id f).proc.processes other).priority = (st.proc.processes other).priority ∧
      ((st.modifyProcess id f).proc.processes other).coreAffinity =
        (st.proc.processes other).coreAffinity := by
    intro other
    simp only [SystemState.modifyProcess, modifyProcess_processes]
    by_cases hother : other = id
    · subst hother
      simpa using hf (st.proc.processes other)
    · simp [hother]
  have haffinity : ∀ other, (st.modifyProcess id f).proc.affinity s.platform other =
      st.proc.affinity s.platform other := by
    intro other
    unfold affinity
    rw [(hprocess other).2.2.2.2]
  refine { h with
    ready := h.ready.congr (fun other => ⟨(hprocess other).1, (hprocess other).2.1,
      (hprocess other).2.2.1⟩) (fun _ _ => rfl) rfl fun _ _ _ => Iff.rfl
    replies := h.replies.congr (fun _ => rfl) fun _ => Iff.rfl
    fits := ?_
    priority := fun other => by
      rw [(hprocess other).2.2.2.1]
      exact h.priority other
    idleAffinity := fun core hcore => by
      rw [haffinity]
      exact h.idleAffinity core hcore
    aligned := fun hsmp other => (hprocess other).2.2.2.2.trans (h.aligned hsmp other) }
  intro other hother
  by_cases heq : other = id
  · subst heq
    exact hfits hother
  · apply (h.fits other hother).congr
    · simp [SystemState.modifyProcess, modifyProcess_processes, heq]
    · exact (hprocess other).2.2.2.2
    · rfl
    · exact fun _ _ => rfl

theorem setStatus (status : ProcessStatus) (hid : place id = .moving ∨ hole = some id) :
    Placed s stale hole (st.setStatus id status) place := by
  refine h.modifyProcess id (fun process => { process with status := status })
    (fun _ => ⟨rfl, rfl, rfl, rfl, rfl⟩) fun hhole => ?_
  rcases hid with hmoving | heq
  · rw [hmoving]
    trivial
  · exact absurd heq hhole

theorem modifyContext (id : ProcessId) (f : IpcContext → IpcContext)
    (hipc : (f (st.contexts id)).ipcLinks = (st.contexts id).ipcLinks)
    (hnotification : (f (st.contexts id)).notificationLinks = (st.contexts id).notificationLinks)
    (hreply : (f (st.contexts id)).replyLinks = (st.contexts id).replyLinks)
    (hfits : hole ≠ some id → (st.modifyContext id f).Fits s id (place id)) :
    Placed s stale hole (st.modifyContext id f) place := by
  have hcontext : ∀ {β : Type} (field : IpcContext → β),
      field (f (st.contexts id)) = field (st.contexts id) →
      ∀ other, field ((st.modifyContext id f).contexts other) = field (st.contexts other) := by
    intro β field hfield other
    rw [modifyContext_contexts]
    by_cases hother : other = id
    · rw [if_pos hother, hfield, hother]
    · rw [if_neg hother]
  refine { h with
    ipc := h.ipc.congr (hcontext _ hipc) rfl fun _ _ => Iff.rfl
    notification := h.notification.congr (hcontext _ hnotification) (fun _ => rfl) fun _ _ => Iff.rfl
    replies := h.replies.congr (hcontext _ hreply) fun _ => Iff.rfl
    fits := ?_ }
  intro other hother
  by_cases heq : other = id
  · subst heq
    exact hfits hother
  · have hsame : (st.modifyContext id f).contexts other = st.contexts other := by
      rw [modifyContext_contexts, if_neg heq]
    exact (h.fits other hother).congr rfl rfl (by simp [hsame]) fun _ _ => rfl

theorem hardware {proc : ProcState}
    (hprocesses : proc.processes = st.proc.processes) (hcpus : ∀ core,
      (proc.cpus core).currentProcess = (st.proc.cpus core).currentProcess ∧
      (proc.cpus core).isIdle = (st.proc.cpus core).isIdle ∧
      (proc.cpus core).scheduler = (st.proc.cpus core).scheduler)
    (hcount : proc.processCount = st.proc.processCount) :
    Placed s stale hole { st with proc := proc } place where
  ready := h.ready.congr (fun other => by simp [hprocesses]) (fun core priority => by
    unfold ProcState.queue
    simp [(hcpus core).2.2]) hcount fun _ _ _ => Iff.rfl
  ipc := h.ipc
  notification := h.notification
  cores core := (h.cores core).congr (hcpus core).1 (hcpus core).2.1 fun _ hp => hp
  current id core hid := by
    obtain ⟨hcurrent, hstale⟩ := h.current id core hid
    exact ⟨(hcpus core).1.trans hcurrent, hstale⟩
  replies := h.replies.congr (fun _ => rfl) fun _ => Iff.rfl
  fits id hid := (h.fits id hid).congr (by simp [hprocesses]) (by simp [hprocesses])
    rfl fun _ _ => rfl
  idle := h.idle
  priority id := by simpa only [hprocesses] using h.priority id
  idleAffinity core hcore := by
    have haffinity := h.idleAffinity core (by rwa [(hcpus core).1] at hcore)
    unfold ProcState.affinity at haffinity ⊢
    simpa only [hprocesses] using haffinity
  aligned hsmp id := by simpa only [hprocesses] using h.aligned hsmp id
  idleRoot := h.idleRoot
  rooted := h.rooted
  existing := h.existing

end

/-! ## Moving a process that is not idle

The parts of the relation that do not concern the place a process leaves or the one it takes. -/

section Update

variable {dest : Place} {core : Nat}

theorem readyPart_update (h : st.ReadyPart s place)
    (hne : ∀ c p, place id ≠ .ready c p ∧ dest ≠ .ready c p) :
    st.ReadyPart s (update place id dest) :=
  h.congr (fun _ => ⟨rfl, rfl, rfl⟩) (fun _ _ => rfl) rfl fun _ _ _ => update_eq_iff (hne _ _)

theorem ipcPart_update (h : st.IpcPart place)
    (hne : ∀ port, place id ≠ .ipc port ∧ dest ≠ .ipc port) :
    st.IpcPart (update place id dest) :=
  h.congr (fun _ => rfl) rfl fun _ _ => update_eq_iff (hne _)

theorem notificationPart_update (h : st.NotificationPart place)
    (hne : ∀ port, place id ≠ .notification port ∧ dest ≠ .notification port) :
    st.NotificationPart (update place id dest) :=
  h.congr (fun _ => rfl) (fun _ => rfl) fun _ _ => update_eq_iff (hne _)

theorem repliesMatch_update (h : st.RepliesMatch place) (hne : place id ≠ .reply ∧ dest ≠ .reply) :
    st.RepliesMatch (update place id dest) :=
  h.congr (fun _ => rfl) fun _ => update_eq_iff hne

theorem coreHolds_update (h : st.CoreHolds stale place core)
    (hne : place id ≠ .current core ∧ dest ≠ .current core) :
    st.CoreHolds stale (update place id dest) core :=
  h.congr rfl rfl fun _ hp => (update_eq_iff hne).mpr hp

theorem current_update (h : Placed s stale hole st place)
    (hne : ∀ c, place id ≠ .current c ∧ dest ≠ .current c) (other : ProcessId) (core : Nat)
    (hother : update place id dest other = .current core) :
    (st.proc.cpus core).currentProcess = some other ∧ stale ≠ some core :=
  h.current other core ((update_eq_iff (hne core)).mp hother)

structure Steady (st st' : SystemState) : Prop where
  priority : ∀ id, (st'.proc.processes id).priority = (st.proc.processes id).priority
  coreAffinity : ∀ id, (st'.proc.processes id).coreAffinity = (st.proc.processes id).coreAffinity
  current : ∀ core, (st'.proc.cpus core).currentProcess ≠ none →
    (st.proc.cpus core).currentProcess ≠ none

theorem Steady.refl (st : SystemState) : Steady st st := ⟨fun _ => rfl, fun _ => rfl, fun _ h => h⟩

section

variable (h : Placed s stale hole st place)
include h

theorem move {stale' : Option Nat} (hsteady : Steady st st')
    (hready : st'.ReadyPart s (update place id dest))
    (hipc : st'.IpcPart (update place id dest))
    (hnotification : st'.NotificationPart (update place id dest))
    (hcores : ∀ core, st'.CoreHolds stale' (update place id dest) core)
    (hcurrent : ∀ other core, update place id dest other = .current core →
      (st'.proc.cpus core).currentProcess = some other ∧ stale' ≠ some core)
    (hreplies : st'.RepliesMatch (update place id dest))
    (hothers : ∀ other, other ≠ id → st.Fits s other (place other) → st'.Fits s other (place other))
    (hfits : hole ≠ some id → st'.Fits s id dest)
    (hidle : place id ≠ .idle ∧ dest ≠ .idle)
    (hlive : place id = .parked → dest ≠ .parked →
      id ∈ s.existing ∧ (s.lax = false → s.root id ≠ 0)) :
    Placed s stale' hole st' (update place id dest) where
  ready := hready
  ipc := hipc
  notification := hnotification
  cores := hcores
  current := hcurrent
  replies := hreplies
  fits other hother := by
    by_cases heq : other = id
    · subst heq
      rw [update_self]
      exact hfits hother
    · rw [update_of_ne heq]
      exact hothers other heq (h.fits other hother)
  idle other := (update_eq_iff hidle).trans (h.idle other)
  priority other := by
    rw [hsteady.priority]
    exact h.priority other
  idleAffinity core hcore := by
    have haffinity := h.idleAffinity core (hsteady.current core hcore)
    unfold ProcState.affinity at haffinity ⊢
    rwa [hsteady.coreAffinity]
  aligned hsmp other := (hsteady.coreAffinity other).trans (h.aligned hsmp other)
  idleRoot := h.idleRoot
  rooted hlax other hother := by
    by_cases heq : other = id
    · subst heq
      rw [update_self] at hother
      by_cases hparked : place other = .parked
      · exact (hlive hparked hother).2 hlax
      · exact h.rooted hlax other hparked
    · rw [update_of_ne heq] at hother
      exact h.rooted hlax other hother
  existing other hother hnot := by
    by_cases heq : other = id
    · subst heq
      rw [update_self] at hother
      by_cases hparked : place other = .parked
      · exact (hlive hparked hother).1
      · exact h.existing other hparked hidle.1
    · rw [update_of_ne heq] at hother hnot
      exact h.existing other hother hnot

theorem relabel (hfrom : (place id).Unlisted)
    (hdest : dest.Unlisted) (hfits : hole ≠ some id → st.Fits s id dest)
    (hlive : place id = .parked → dest ≠ .parked →
      id ∈ s.existing ∧ (s.lax = false → s.root id ≠ 0)) :
    Placed s stale hole st (update place id dest) := by
  have hne : ∀ {at_ : Place}, ¬ at_.Unlisted → place id ≠ at_ ∧ dest ≠ at_ := ne_of_kind hfrom hdest
  apply h.move (.refl st)
  · exact readyPart_update h.ready fun _ _ => hne not_false
  · exact ipcPart_update h.ipc fun _ => hne not_false
  · exact notificationPart_update h.notification fun _ => hne not_false
  · exact fun core => coreHolds_update (h.cores core) (hne not_false)
  · exact h.current_update fun _ => hne not_false
  · exact repliesMatch_update h.replies (hne not_false)
  · exact fun _ _ hfit => hfit
  · exact hfits
  · exact hne not_false
  · exact hlive

theorem moveAmong {P : Place → Prop} (hfrom : P (place id))
    (hdest : P dest) (hproc : st'.proc = st.proc)
    (hkind : (∀ c p, ¬ P (.ready c p)) ∧ (∀ c, ¬ P (.current c)) ∧ ¬ P .idle ∧ ¬ P .parked)
    (hipc : st'.IpcPart (update place id dest))
    (hnotification : st'.NotificationPart (update place id dest))
    (hreplies : st'.RepliesMatch (update place id dest))
    (hothers : ∀ other, other ≠ id → st.Fits s other (place other) → st'.Fits s other (place other))
    (hfits : hole ≠ some id → st'.Fits s id dest) :
    Placed s stale hole st' (update place id dest) := by
  obtain ⟨hready, hcurrent, hidle, hparked⟩ := hkind
  have hne : ∀ {at_ : Place}, ¬ P at_ → place id ≠ at_ ∧ dest ≠ at_ := ne_of_kind hfrom hdest
  refine h.move ?_ ?_ hipc hnotification ?_ ?_ hreplies hothers hfits (hne hidle) ?_
  · refine ⟨?_, ?_, ?_⟩ <;> simp [hproc]
  · exact (readyPart_update h.ready fun c p => hne (hready c p)).congr (by simp [hproc])
      (by simp [hproc]) (by simp [hproc]) fun _ _ _ => Iff.rfl
  · exact fun core => (coreHolds_update (h.cores core) (hne (hcurrent core))).congr
      (by rw [hproc]) (by rw [hproc]) fun _ hp => hp
  · rw [hproc]
    exact h.current_update fun core => hne (hcurrent core)
  · exact fun heq => absurd heq (hne hparked).1

end

/-! ## The cores -/

theorem leave (h : Placed s none hole st place) (hid : place id = .current core) :
    Placed s (some core) hole st (update place id .moving) := by
  have hcurrent := (h.current id core hid).1
  apply h.move (.refl st)
  · exact readyPart_update h.ready (by simp [hid])
  · exact ipcPart_update h.ipc (by simp [hid])
  · exact notificationPart_update h.notification (by simp [hid])
  · intro other
    by_cases hother : other = core
    · subst hother
      have hholds := h.cores other
      unfold CoreHolds at hholds ⊢
      rw [hcurrent] at hholds ⊢
      cases id with
      | idle c =>
        rw [(h.idle _).mpr ⟨c, rfl⟩] at hid
        cases hid
      | user address => exact ⟨hholds.1, .inl rfl⟩
    · have hholds : st.CoreHolds none (update place id .moving) other :=
        coreHolds_update (h.cores other) (by simp [hid, Ne.symm hother])
      have hstale : some core ≠ some other := by simp [Ne.symm hother]
      unfold CoreHolds at hholds ⊢
      split at hholds <;> simp_all
  · intro other c hc
    have hne : other ≠ id := by
      rintro rfl
      simp at hc
    rw [update_of_ne hne] at hc
    refine ⟨(h.current other c hc).1, fun heq => hne ?_⟩
    cases heq
    rw [(h.current other core hc).1] at hcurrent
    exact Option.some.inj hcurrent
  · exact repliesMatch_update h.replies (by simp [hid])
  · exact fun _ _ hfit => hfit
  · exact fun _ => trivial
  · simp [hid]
  · simp [hid]

def Free (stale : Option Nat) (st : SystemState) (core : Nat) : Prop :=
  stale = some core ∨ stale = none ∧ ∃ other, (st.proc.cpus core).currentProcess = some (.idle other)

theorem Free.stale_ne {other : Nat} (hfree : Free stale st core) (hother : other ≠ core) :
    stale ≠ some other := by
  rcases hfree with rfl | ⟨rfl, _⟩
  · simp [Ne.symm hother]
  · simp

theorem not_current_of_free (h : Placed s stale hole st place)
    (hfree : Free stale st core) (id : ProcessId) : place id ≠ .current core := by
  intro hid
  obtain ⟨hcurrent, hstale⟩ := h.current id core hid
  rcases hfree with heq | ⟨-, other, hidle⟩
  · exact hstale heq
  · rw [hcurrent] at hidle
    cases hidle
    rw [(h.idle _).mpr ⟨other, rfl⟩] at hid
    cases hid

theorem online_of_free (h : Placed s stale hole st place)
    (hfree : Free stale st core) : (st.proc.cpus core).currentProcess ≠ none := by
  rcases hfree with heq | ⟨-, other, hidle⟩
  · intro hnone
    have hholds := h.cores core
    unfold CoreHolds at hholds
    rw [hnone] at hholds
    exact hholds heq
  · simp [hidle]

theorem setCurrent_cpus (proc : ProcState) (core other : Nat) (id : ProcessId) (isIdle : Bool) :
    (proc.setCurrent core id isIdle).cpus other =
      if other = core then { proc.cpus core with currentProcess := some id, isIdle := isIdle }
      else proc.cpus other := by
  by_cases hother : other = core <;> simp [setCurrent, modifyCpu, hother]

theorem setCurrent_queue (proc : ProcState) (core other priority : Nat) (id : ProcessId)
    (isIdle : Bool) :
    (proc.setCurrent core id isIdle).queue other priority = proc.queue other priority := by
  unfold ProcState.queue
  rw [setCurrent_cpus]
  by_cases hother : other = core <;> simp [hother]

theorem dispatch (h : Placed s stale hole st place) (hfree : Free stale st core)
    (hid : place id = .moving) (hfits : hole ≠ some id → st.Fits s id (.current core)) :
    Placed s none hole { st with proc := st.proc.setCurrent core id false }
      (update place id (.current core)) := by
  apply h.move
  · refine ⟨fun _ => rfl, fun _ => rfl, fun other => ?_⟩
    dsimp only
    rw [setCurrent_cpus]
    by_cases hother : other = core
    · subst hother
      exact fun _ => h.online_of_free hfree
    · rw [if_neg hother]
      exact fun hon => hon
  · exact (readyPart_update h.ready (by simp [hid])).congr (fun _ => ⟨rfl, rfl, rfl⟩)
      (fun _ _ => setCurrent_queue _ _ _ _ _ _) rfl fun _ _ _ => Iff.rfl
  · exact ipcPart_update h.ipc (by simp [hid])
  · exact notificationPart_update h.notification (by simp [hid])
  · intro other
    by_cases hother : other = core
    · subst hother
      unfold CoreHolds
      dsimp only
      rw [setCurrent_cpus, if_pos rfl]
      cases id with
      | idle c =>
        rw [(h.idle _).mpr ⟨c, rfl⟩] at hid
        cases hid
      | user address => exact ⟨rfl, .inr (by simp)⟩
    · have hholds : st.CoreHolds stale (update place id (.current core)) other :=
        coreHolds_update (h.cores other) (by simp [hid, Ne.symm hother])
      have hstale := hfree.stale_ne hother
      unfold CoreHolds at hholds ⊢
      dsimp only
      rw [setCurrent_cpus, if_neg hother]
      split at hholds <;> simp_all
  · intro other c hc
    refine ⟨?_, by simp⟩
    dsimp only
    rw [setCurrent_cpus]
    by_cases hother : other = id
    · subst hother
      rw [update_self] at hc
      cases hc
      simp
    · rw [update_of_ne hother] at hc
      have hne : c ≠ core := by
        rintro rfl
        exact h.not_current_of_free hfree other hc
      rw [if_neg hne]
      exact (h.current other c hc).1
  · exact (repliesMatch_update h.replies (by simp [hid])).congr
      (fun _ => rfl) fun _ => Iff.rfl
  · exact fun _ _ hfit => hfit.congr rfl rfl rfl fun _ _ => rfl
  · exact hfits
  · simp [hid]
  · simp [hid]

theorem toIdle (h : Placed s (some core) hole st place) :
    Placed s none hole { st with proc := st.proc.setCurrent core (.idle core) true } place := by
  have hfree : Free (some core) st core := .inl rfl
  refine { h with
    ready := h.ready.congr (fun _ => ⟨rfl, rfl, rfl⟩) (fun _ _ => setCurrent_queue _ _ _ _ _ _) rfl
      fun _ _ _ => Iff.rfl
    cores := ?_
    current := ?_
    replies := h.replies.congr (fun _ => rfl) fun _ => Iff.rfl
    fits := fun id hid => (h.fits id hid).congr rfl rfl rfl fun _ _ => rfl
    idleAffinity := ?_ }
  · intro other
    by_cases hother : other = core
    · subst hother
      unfold CoreHolds
      dsimp only
      rw [setCurrent_cpus, if_pos rfl]
      exact ⟨rfl, rfl, by simp⟩
    · have hholds := h.cores other
      have hstale := hfree.stale_ne hother
      unfold CoreHolds at hholds ⊢
      dsimp only
      rw [setCurrent_cpus, if_neg hother]
      split at hholds <;> simp_all
  · intro id c hc
    have hne : c ≠ core := by
      rintro rfl
      exact h.not_current_of_free hfree id hc
    dsimp only
    rw [setCurrent_cpus, if_neg hne]
    exact ⟨(h.current id c hc).1, by simp⟩
  · intro other hother
    apply h.idleAffinity other
    dsimp only at hother
    rw [setCurrent_cpus] at hother
    by_cases heq : other = core
    · exact heq ▸ h.online_of_free hfree
    · rwa [if_neg heq] at hother

/-! ## The ready queues -/

section

variable (h : Placed s stale hole st place)
include h

theorem scheduler {proc : ProcState} (honly : SchedulerOnly st.proc proc)
    (hready : ReadyPart s { st with proc := proc } (update place id dest))
    (hfrom : place id = .moving ∨ ∃ c p, place id = .ready c p)
    (hdest : dest = .moving ∨ ∃ c p, dest = .ready c p)
    (hfits : hole ≠ some id → st.Fits s id dest) :
    Placed s stale hole { st with proc := proc } (update place id dest) := by
  have hne : ∀ {at_ : Place}, ¬ (at_ = .moving ∨ ∃ c p, at_ = .ready c p) →
      place id ≠ at_ ∧ dest ≠ at_ :=
    ne_of_kind (P := fun at_ => at_ = .moving ∨ ∃ c p, at_ = .ready c p) hfrom hdest
  apply h.move
  · exact ⟨honly.priority, honly.coreAffinity, fun core hcore => by
      rwa [← honly.currentProcess core]⟩
  · exact hready
  · exact ipcPart_update h.ipc fun _ => hne (by simp)
  · exact notificationPart_update h.notification fun _ => hne (by simp)
  · exact fun core => (coreHolds_update (h.cores core) (hne (by simp))).congr
      (honly.currentProcess core) (honly.isIdle core) fun _ hp => hp
  · intro other core hother
    dsimp only
    rw [honly.currentProcess core]
    exact h.current_update (fun _ => hne (by simp)) other core hother
  · exact (repliesMatch_update h.replies (hne (by simp))).congr (fun _ => rfl)
      fun _ => Iff.rfl
  · exact fun other _ hfit => hfit.congr (honly.status other) (honly.coreAffinity other)
      rfl fun _ _ => rfl
  · exact fun hhole => (hfits hhole).congr (honly.status id) (honly.coreAffinity id)
      rfl fun _ _ => rfl
  · exact hne (by simp)
  · exact fun hparked => absurd hparked (hne (by simp)).1

theorem setHighestPriority (core : Nat) (bound : Int) :
    Placed s stale hole { st with proc := st.proc.setHighestPriority core bound } place := by
  have honly := (SchedulerOnly.refl st.proc).setHighestPriority core bound
  refine { h with
    ready := h.ready.congr (fun _ => ⟨rfl, rfl, rfl⟩)
      (fun _ _ => setHighestPriority_queue _ _ _ _ _) rfl fun _ _ _ => Iff.rfl
    cores := fun other => (h.cores other).congr (honly.currentProcess other) (honly.isIdle other)
      fun _ hp => hp
    current := fun other c hc => ?_
    replies := h.replies.congr (fun _ => rfl) fun _ => Iff.rfl
    fits := fun other hother => (h.fits other hother).congr rfl rfl rfl fun _ _ => rfl
    idleAffinity := fun other hother => ?_ }
  · dsimp only
    rw [honly.currentProcess c]
    exact h.current other c hc
  · dsimp only at hother
    rw [honly.currentProcess other] at hother
    exact h.idleAffinity other hother

theorem not_flagged (hid : ∀ c p, place id ≠ .ready c p) :
    (st.proc.processes id).isInReadyQueue = false := by
  obtain ⟨ready, hready, hmem⟩ := h.ready
  rw [← Bool.not_eq_true, hready.flagged id]
  rintro ⟨c, p, hin⟩
  exact hid c p ((hmem id c p).mp hin)

theorem flagged {c p : Nat} (hid : place id = .ready c p) :
    (st.proc.processes id).isInReadyQueue = true := by
  obtain ⟨ready, hready, hmem⟩ := h.ready
  exact (hready.flagged id).mpr ⟨c, p, (hmem id c p).mpr hid⟩

theorem enqueue (hid : place id = .moving) (hfits : hole ≠ some id → st.Fits s id (.current core)) :
    Placed s stale hole { st with proc := st.proc.enqueue core id }
      (update place id (.ready core (st.proc.processes id).priority.toNat)) := by
  have hout : ∀ c p, place id ≠ .ready c p := by simp [hid]
  have hflag := h.not_flagged hout
  have hexisting := h.existing id (by simp [hid]) (by simp [hid])
  apply h.scheduler (SchedulerOnly.enqueue st.proc core id)
  · obtain ⟨ready, hready, hmem⟩ := h.ready
    refine ⟨_, hready.enqueue hflag (h.priority id).2 hexisting, fun other c p => ?_⟩
    rw [mem_setReady]
    by_cases hother : other = id
    · subst hother
      have hnot : ∀ c p, other ∉ ready c p := hready.not_mem_of_unflagged hflag
      simp only [update_self, Place.ready.injEq, List.mem_append, hnot,
        List.mem_singleton, and_false, or_false, false_or, and_true]
      exact ⟨fun heq => ⟨heq.1.symm, heq.2.symm⟩, fun heq => ⟨heq.1.symm, heq.2.symm⟩⟩
    · rw [update_of_ne hother, ← hmem]
      simp only [List.mem_append, List.mem_singleton, hother, or_false]
      grind
  · exact .inl hid
  · exact .inr ⟨_, _, rfl⟩
  · exact hfits

end

theorem unready {proc : ProcState} {ready : Nat → Nat → List ProcessId} {l : List ProcessId}
    {priority : Nat} (h : Placed s stale hole st place) (honly : SchedulerOnly st.proc proc)
    (hmem : ∀ other c p, other ∈ ready c p ↔ place other = .ready c p)
    (hid : place id = .ready core priority)
    (hready : proc.ReadyQueues s.existing (setReady ready core priority l))
    (hl : ∀ other, other ∈ l ↔ other ∈ ready core priority ∧ other ≠ id) :
    Placed s stale hole { st with proc := proc } (update place id .moving) := by
  apply h.scheduler honly
  · refine ⟨_, hready, fun other c p => ?_⟩
    rw [mem_setReady, hl]
    by_cases hother : other = id
    · subst hother
      simp only [update_self, reduceCtorEq, iff_false, hmem, hid, Place.ready.injEq,
        ne_eq, not_true_eq_false, and_false, false_or, not_and]
      grind
    · rw [update_of_ne hother, ← hmem]
      grind
  · exact .inr ⟨_, _, hid⟩
  · exact .inl rfl
  · exact fun _ => trivial

section

variable (h : Placed s stale hole st place)
include h

theorem fits_current {priority : Nat}
    (hid : place id = .ready core priority) {proc : ProcState} (honly : SchedulerOnly st.proc proc)
    (hhole : hole ≠ some id) : Fits s { st with proc := proc } id (.current core) := by
  have hfit := h.fits id hhole
  rw [hid] at hfit
  change st.Fits s id (.current core) at hfit
  exact hfit.congr (honly.status id) (honly.coreAffinity id) rfl fun _ _ => rfl

theorem schedule (core : Nat) : (st.proc.schedule core).Post
      (fun next proc => (∃ p, place next = .ready core p) ∧ SchedulerOnly st.proc proc ∧
        Placed s stale hole { st with proc := proc } (update place next .moving))
      (fun _ proc => proc = st.proc ∧ ∀ id p, place id = .ready core p →
        st.proc.highestPriority core < p) := by
  obtain ⟨ready, hready, hmem⟩ := h.ready
  apply (schedule_spec hready core).mono
  · rintro next proc ⟨p, l, -, hl, -, rfl⟩
    have hnext : place next = .ready core p := (hmem next core p).mp (by simp [hl])
    have hnodup := (hready.queued core p).nodup
    rw [hl, List.nodup_cons] at hnodup
    have honly := SchedulerOnly.popReady st.proc core p next
    refine ⟨⟨p, hnext⟩, honly, h.unready honly hmem hnext (hready.popReady hl) fun other => ?_⟩
    rw [hl, List.mem_cons]
    grind
  · rintro _ proc ⟨rfl, hempty⟩
    refine ⟨rfl, fun id p hid => ?_⟩
    by_contra hle
    have hin := (hmem id core p).mpr hid
    rw [hempty p (by omega)] at hin
    cases hin

theorem removeProcess (core : Nat) (id : ProcessId) : (st.proc.removeProcess core id).Post
      (fun _ proc => (∃ p, place id = .ready core p) ∧ SchedulerOnly st.proc proc ∧
        Placed s stale hole { st with proc := proc } (update place id .moving))
      (fun error proc => error = .processNotInQueue ∧ proc = st.proc ∧
        ∀ p, place id ≠ .ready core p) := by
  obtain ⟨ready, hready, hmem⟩ := h.ready
  apply (removeProcess_spec hready core id).mono
  · rintro _ proc ⟨p, hin, rfl⟩
    have hid := (hmem id core p).mp hin
    have honly := SchedulerOnly.dequeue st.proc core p id
    have hplaced := h.unready honly hmem hid (hready.dequeue hin) fun other =>
      (hready.queued core p).nodup.mem_erase_iff.trans and_comm
    exact ⟨⟨p, hid⟩, honly.setHighestPriority _ _, hplaced.setHighestPriority core _⟩
  · rintro error proc ⟨rfl, rfl, hout⟩
    exact ⟨rfl, rfl, fun p hid => hout p ((hmem id core p).mpr hid)⟩

end

end Update

end Placed

end SystemState

end A9N.Kernel
