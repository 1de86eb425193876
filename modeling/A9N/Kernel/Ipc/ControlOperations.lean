import A9N.Kernel.Ipc.NotificationOperations

/-!
# Operations on process control blocks, and revocations

SUSPEND, RESUME and the revocation callbacks take a process out of whatever it is waiting in.
-/

namespace A9N.Kernel

open ProcState Function

/-- Where a process is after `stop_process_for_reclamation`: off its core and its ready queue. -/
def Place.stopped : Place → Place
  | .current _ | .ready _ _ => .moving
  | at_ => at_

def Place.dequeued : Place → Place
  | .ready _ _ => .moving
  | at_ => at_

def Place.detached : Place → Place
  | .ipc _ | .notification _ => .moving
  | at_ => at_

def Place.unanswered : Place → Place
  | .reply => .moving
  | at_ => at_

theorem Place.unlisted_of_removed {at_ : Place} (h : at_ ≠ .idle) :
    at_.stopped.detached.unanswered.Unlisted := by
  cases at_ <;> simp_all [stopped, detached, unanswered, Unlisted]

theorem switchToIdle_processes (p : Platform) (root : ProcessId → Word) (core : Nat)
    (proc : ProcState) : (proc.switchToIdle p root core).state.processes = proc.processes := by
  unfold ProcState.switchToIdle
  split
  · rfl
  · have hframe := switchContext_frame p root core (.idle core) proc
    generalize Hal.switchContext p root core (.idle core) proc = outcome at hframe
    obtain ⟨_ | _, state⟩ := outcome
    · exact hframe.1
    · exact hframe.1

namespace SystemState.Placed

variable {s : Setting} {e : Entry} {st st' : SystemState} {place place' : ProcessId → Place}
  {owner target id : ProcessId} {core : Nat} {stale : Option Nat} {hole : Option ProcessId}

/-! ## Stopping a process -/

theorem affinity_eq (h : Placed s stale hole st place) (id : ProcessId) :
    st.proc.affinity s.platform id = (st.proc.processes id).coreAffinity.toNat := by
  unfold ProcState.affinity
  split_ifs with hsmp
  · rfl
  · rw [h.aligned (by simpa using hsmp) id]
    rfl

theorem clearPending (h : Placed s stale hole st place) (core : Nat) (target : ProcessId) :
    Placed s stale hole { st with proc := st.proc.clearPending core target } place := by
  refine h.hardware (by rfl) (fun other => ?_) (by rfl)
  unfold ProcState.clearPending modifyCpu
  by_cases hother : other = core
  · subst hother
    simp only [update_self]
    split_ifs <;> exact ⟨rfl, rfl, rfl⟩
  · simp [hother]

theorem markSuspended (h : Placed s none none st place)
    (hcore : (st.proc.processes target).coreAffinity.toNat = core) :
    (st.proc.markSuspended core target).Post
      (fun _ proc => (proc.processes target).status = .blockedSuspend ∧
        Placed s none (some target) { st with proc := proc }
          (update place target (place target).dequeued))
      (fun _ _ => False) := by
  unfold ProcState.markSuspended
  apply Outcome.Post.andThen (Q := fun _ proc => Placed s none none { st with proc := proc }
    (update place target (place target).dequeued))
  · have hremove := h.removeProcess core target
    generalize st.proc.removeProcess core target = outcome at hremove
    obtain ⟨error | _, proc⟩ := outcome
    · obtain ⟨rfl, rfl, hout⟩ := hremove
      have hsame : (place target).dequeued = place target := by
        cases hplace : place target with
        | ready c p =>
          have hfit := h.fits target (by simp)
          rw [hplace] at hfit
          have hc : c = core := by rw [← hfit.2.2, h.affinity_eq, hcore]
          exact absurd (hc ▸ hplace) (hout p)
        | _ => rfl
      rw [hsame, update_eq_self]
      exact h
    · obtain ⟨⟨p, hplace⟩, -, hplaced⟩ := hremove
      rw [hplace]
      exact hplaced
  · intro _ proc hplaced
    refine ⟨by simp [modifyProcess_processes], ?_⟩
    exact (hplaced.openHole target).setStatus .blockedSuspend (.inr rfl)

section

variable (h : Placed s none hole st place) (hs : s.Admits e)
  (htarget : place target = .current core)
include h hs htarget

theorem stopOnCore : (st.proc.switchToIdle e.platform e.root core).Post
      (fun _ proc => proc.processes = st.proc.processes ∧
        Placed s none hole { st with proc := proc } (update place target .moving))
      (fun _ _ => False) := by
  have hprocesses := switchToIdle_processes e.platform e.root core st.proc
  have hidle := (h.leave htarget).switchToIdle hs (show Free (some core) _ core from .inl rfl)
  generalize st.proc.switchToIdle e.platform e.root core = outcome at hprocesses hidle
  obtain ⟨_ | _, proc⟩ := outcome
  · exact hidle
  · exact ⟨hprocesses, hidle⟩

theorem servicePendingStopRequest : (st.servicePendingStopRequest e core target).Post
      (fun _ st' => st'.proc.processes = st.proc.processes ∧ st'.contexts = st.contexts ∧
        st'.failedTransfers = st.failedTransfers ∧
        Placed s none hole st' (update place target .moving))
      (fun _ _ => False) := by
  unfold SystemState.servicePendingStopRequest onProc
  dsimp only
  have hstop := h.stopOnCore hs htarget
  generalize st.proc.switchToIdle e.platform e.root core = outcome at hstop
  obtain ⟨_ | _, proc⟩ := outcome
  · exact hstop.elim
  obtain ⟨hprocesses, hplaced⟩ := hstop
  dsimp only
  split_ifs
  · exact ⟨hprocesses, rfl, rfl, (hplaced.alike ((Alike.refl _).setRegister _ _ _)).clearPending _ _⟩
  · exact ⟨hprocesses, rfl, rfl, hplaced.clearPending _ _⟩

end

theorem stopProcessForReclamation (h : Placed s none none st place) (hs : s.Admits e)
    (htarget : place target ≠ .idle) :
    (st.stopProcessForReclamation e target).Post (fun _ st' => Placed s none (some target) st'
          (update place target (place target).stopped) ∧
        (st'.proc.processes target).status = .blockedSuspend ∧ st'.contexts = st.contexts ∧
        st'.failedTransfers = st.failedTransfers)
      (fun _ st' => st' = st) := by
  unfold SystemState.stopProcessForReclamation
  dsimp only
  generalize hcore : (st.proc.processes target).coreAffinity.toNat = core
  by_cases hlarge : cpuCountMax ≤ core
  · rw [if_pos hlarge]
    exact rfl
  rw [if_neg hlarge]
  apply Outcome.Post.andThen (Q := fun _ st1 => ∃ proc, st1 = { st with proc := proc } ∧
    (proc.processes target).status = .blockedSuspend ∧ Placed s none (some target) st1
      (update place target (place target).dequeued))
  · apply onProc_post
    exact (h.markSuspended hcore).mono (fun _ proc hm => ⟨proc, rfl, hm⟩)
      fun _ _ hfalse => hfalse.elim
  rintro _ _ ⟨proc, rfl, hstatus, hmarked⟩
  have hcleared := hmarked.clearPending core target
  dsimp only at hcleared ⊢
  by_cases hoff : ((proc.clearPending core target).cpus core).currentProcess ≠ some target ∨
      ((proc.clearPending core target).cpus core).isIdle = true
  · rw [if_pos hoff]
    have hstopped : (place target).dequeued = (place target).stopped := by
      cases hcase : place target with
      | current c =>
        have hfit := h.fits target (by simp)
        rw [hcase] at hfit
        have hc : c = core := by rw [← hfit.2.2, h.affinity_eq, hcore]
        have hrunning : update place target (place target).dequeued target = .current core := by
          rw [update_self, hcase, hc]
          rfl
        obtain ⟨hcurrent, hbusy⟩ := hcleared.busy hrunning
        rcases hoff with hne | hidle
        · exact absurd hcurrent hne
        · cases hbusy.symm.trans hidle
      | _ => rfl
    rw [← hstopped]
    exact ⟨hcleared, hstatus, rfl, rfl⟩
  rw [if_neg hoff]
  push Not at hoff
  have hrunning : update place target (place target).dequeued target = .current core := by
    rcases hcleared.current_cases hoff.1 with hplace | ⟨-, hidle⟩
    · exact hplace
    · exact absurd hidle hoff.2
  have hstopped : (place target).stopped = .moving := by
    rw [update_self] at hrunning
    cases hcase : place target <;> simp_all [Place.dequeued, Place.stopped]
  split_ifs with hlocal
  · apply onProc_post
    apply (hcleared.stopOnCore hs hrunning).mono
    · rintro _ proc' ⟨hprocesses, hplaced⟩
      rw [update_idem, ← hstopped] at hplaced
      refine ⟨hplaced, ?_, rfl, rfl⟩
      rw [hprocesses]
      exact hstatus
    · exact fun _ _ hfalse => hfalse.elim
  · -- the other core is told to stop, and answers before it does anything else
    have hsmp : e.platform.smpEnabled = true := by
      by_contra hsingle
      have hzero := (h.affinity_eq target).symm
      unfold ProcState.affinity at hzero
      rw [← hs.platform, if_neg hsingle, hcore] at hzero
      exact hlocal (hzero.trans (hs.single (by simpa using hsingle)).1.symm)
    unfold onProc rescheduleCore
    simp only [hsmp, hs.ipi hsmp, if_true]
    have hsignalled : Placed s none (some target) { st with proc :=
        { proc.clearPending core target with ipis := core :: (proc.clearPending core target).ipis } }
        (update place target (place target).dequeued) :=
      hcleared.hardware rfl (fun _ => ⟨rfl, rfl, rfl⟩) rfl
    apply (hsignalled.servicePendingStopRequest hs hrunning).mono
    · rintro _ st' ⟨hprocesses, hcontexts, hfailed, hplaced⟩
      rw [update_idem, ← hstopped] at hplaced
      refine ⟨hplaced, ?_, hcontexts, hfailed⟩
      rw [hprocesses]
      exact hstatus
    · exact fun _ _ hfalse => hfalse.elim

/-! ## Taking a process out of its wait -/

theorem detachFromIpcQueue (h : Placed s stale hole st place) (target : ProcessId) :
    (st.detachFromIpcQueue target).Post
      (fun _ st' => IpcOnly st st' ∧ ∃ at_, (at_ = place target ∨ at_ = .moving) ∧
        (∀ port, at_ ≠ .ipc port) ∧ at_.detached = (place target).detached ∧
        Placed s stale hole st' (update place target at_))
      (fun _ _ => False) := by
  unfold SystemState.detachFromIpcQueue
  cases hport : (st.contexts target).currentIpcPort with
  | none =>
    refine ⟨.refl st, place target, .inl rfl, fun port hplace => ?_, rfl, ?_⟩
    · rw [h.currentIpcPort_eq.mpr hplace] at hport
      cases hport
    · rw [update_eq_self]
      exact h
  | some port =>
    have hplace := h.currentIpcPort_eq.mp hport
    apply Outcome.Post.transformError
    apply (h.removeIpc hplace).mono
    · rintro _ st' ⟨honly, hremoved⟩
      exact ⟨honly, .moving, .inr rfl, by simp, by rw [hplace]; rfl, hremoved⟩
    · exact fun _ _ hfalse => hfalse

theorem detachFromNotificationQueue (h : Placed s stale hole st place)
    (htarget : ∀ port, place target ≠ .ipc port) :
    (st.detachFromNotificationQueue target).Post (fun _ st' => NotificationOnly st st' ∧
        Placed s stale hole st' (update place target (place target).detached))
      (fun _ _ => False) := by
  unfold SystemState.detachFromNotificationQueue
  cases hport : (st.contexts target).currentNotificationPort with
  | none =>
    have hsame : (place target).detached = place target := by
      cases hcase : place target with
      | ipc port => exact absurd hcase (htarget port)
      | notification port =>
        rw [h.currentNotificationPort_eq.mpr hcase] at hport
        cases hport
      | _ => rfl
    rw [hsame, Outcome.post_ok, update_eq_self]
    exact ⟨.refl st, h⟩
  | some port =>
    have hplace := h.currentNotificationPort_eq.mp hport
    apply Outcome.Post.transformError
    rw [hplace]
    exact (h.removeNotification hplace).mono (fun _ _ hremoved => hremoved) fun _ _ hfalse => hfalse

structure Detached (st st' : SystemState) : Prop where
  proc : st'.proc = st.proc
  failedTransfers : st'.failedTransfers = st.failedTransfers
  replies : ∀ id, (st'.contexts id).destinationReplyTarget = (st.contexts id).destinationReplyTarget

section

variable (h : Placed s stale hole st place)
include h

theorem detachFromWaitQueues (target : ProcessId) : (st.detachFromWaitQueues target).Post
      (fun _ st' => Detached st st' ∧
        Placed s stale hole st' (update place target (place target).detached))
      (fun _ _ => False) := by
  unfold SystemState.detachFromWaitQueues
  apply (h.detachFromIpcQueue target).andThen
  rintro _ st1 ⟨hipc, at_, -, hnot, hsame, hplaced⟩
  have hat : update place target at_ target = at_ := update_self ..
  apply (hplaced.detachFromNotificationQueue (by simpa [hat] using hnot)).mono
  · rintro _ st' ⟨hnotification, hplaced'⟩
    rw [hat, hsame, update_idem] at hplaced'
    refine ⟨⟨hnotification.proc.trans hipc.proc,
      hnotification.failedTransfers.trans hipc.failedTransfers, fun id => ?_⟩, hplaced'⟩
    exact (hnotification.field IpcContext.destinationReplyTarget (fun _ => rfl) id).trans
      (hipc.field IpcContext.destinationReplyTarget (fun _ => rfl) id)
  · exact fun _ _ hfalse => hfalse

theorem dropReply_unanswered (htarget : ∀ port, place target ≠ .ipc port) :
    Placed s stale hole (st.dropReply target) (update place target (place target).unanswered) := by
  have hdropped := h.dropReply htarget
  by_cases hreply : place target = .reply
  · rw [if_pos hreply] at hdropped
    rw [hreply]
    exact hdropped
  · have hsame : (place target).unanswered = place target := by
      cases hcase : place target with
      | reply => exact absurd hcase hreply
      | _ => rfl
    rw [if_neg hreply] at hdropped
    rw [hsame, update_eq_self]
    exact hdropped

theorem cancelOwnWait (target : ProcessId) : (st.cancelOwnWait e target).Post
      (fun _ st' => st'.proc = st.proc ∧ st'.failedTransfers = st.failedTransfers ∧
        Placed s stale hole st' (update place target (place target).detached.unanswered))
      (fun _ _ => False) := by
  unfold SystemState.cancelOwnWait
  apply (h.detachFromWaitQueues target).andThen
  rintro _ st1 ⟨hdetached, hplaced⟩
  have hat : update place target (place target).detached target =
      (place target).detached := update_self ..
  have hnot : ∀ port, update place target (place target).detached target ≠ .ipc port := by
    intro port
    rw [hat]
    cases place target <;> simp [Place.detached]
  have hdropped := hplaced.dropReply_unanswered hnot
  rw [hat, update_idem] at hdropped
  obtain ⟨hproc, hfailed⟩ := dropReply_frame target st1
  unfold SystemState.cancelReply
  exact ⟨hproc.trans hdetached.proc, hfailed.trans hdetached.failedTransfers, hdropped⟩

end

theorem park (h : Placed s stale (some target) st place) (htarget : (place target).Unlisted)
    (hstatus : (st.proc.processes target).status = .blockedSuspend) :
    Placed s stale none st (update place target .parked) := by
  have hparked := h.relabel htarget (show Place.Unlisted .parked from trivial)
    (fun hhole => absurd rfl hhole) fun _ hne => absurd rfl hne
  apply hparked.closeHole
  rw [update_self]
  exact .inr hstatus

/-! ## SUSPEND and RESUME -/

theorem clearFault (h : Placed s stale hole st place) {id : ProcessId}
    (hid : place id = .moving ∨ hole = some id) :
    Placed s stale hole (st.clearFault id) place := by
  apply h.modifyContext id
  · rfl
  · rfl
  · rfl
  · intro hhole
    rcases hid with hmoving | heq
    · rw [hmoving]
      trivial
    · exact absurd heq hhole

section

variable (h : Placed s none none st place) (hs : s.Admits e) (harrived : Arrived place)
  (htarget : place target ≠ .idle)
include h hs harrived htarget

theorem operationSuspend :
    (st.operationSuspend e target).Post (fun _ => Coherent s) (fun _ => Coherent s) := by
  unfold SystemState.operationSuspend
  dsimp only
  apply Outcome.Post.andThen
  · apply Outcome.Post.transformError
    apply (h.stopProcessForReclamation hs htarget).mono (fun _ _ hstopped => hstopped)
    rintro _ _ rfl
    exact h.coherent harrived
  rintro _ st1 ⟨hstopped, hstatus, -, -⟩
  apply Outcome.Post.andThen (Q := fun _ st2 => Alike st1 st2)
  · split_ifs
    · exact (writeMessageRegisters_post target _ (by decide)).mono (fun _ _ ha => ha)
        fun _ _ hfalse => hfalse.elim
    · exact .refl st1
  intro _ st2 ha
  apply Outcome.Post.andThen
  · exact ((hstopped.alike ha).cancelOwnWait target).mono (fun _ _ hcancelled => hcancelled)
      fun _ _ hfalse => hfalse.elim
  rintro _ st3 ⟨hproc, -, hcancelled⟩
  rw [update_self, update_idem] at hcancelled
  have hunlisted := Place.unlisted_of_removed htarget
  have hparked : ∀ st', st'.proc = st3.proc → Placed s none (some target) st'
      (update place target (place target).stopped.detached.unanswered) →
      Coherent s (st'.clearFault target) := by
    intro st' hsame hplaced
    refine ⟨_, (hplaced.clearFault (.inr rfl)).park ?_ ?_, ?_⟩
    · rw [update_self]
      exact hunlisted
    · change (st'.proc.processes target).status = .blockedSuspend
      rw [hsame, hproc, ha.proc, hstatus]
    · rw [update_idem]
      exact (harrived.update target .parked).arrived (by simp)
  rw [Outcome.post_ok]
  split_ifs
  · exact hparked _ rfl (hcancelled.alike ((Alike.refl _).setRegister _ _ _))
  · exact hparked _ rfl hcancelled

theorem operationResume (hexists : target ∈ s.existing)
    (hroot : s.lax = false → s.root target ≠ 0) (owner : ProcessId) :
    (st.operationResume e owner target).Post (fun _ => Coherent s) (fun _ => Coherent s) := by
  unfold SystemState.operationResume
  by_cases hrunning : st.proc.isRunningOnAssignedCore target
  · rw [if_pos hrunning]
    exact h.coherent harrived
  rw [if_neg hrunning]
  have hoff : ∀ c, place target ≠ .current c := by
    intro c hplace
    obtain ⟨hcurrent, hbusy⟩ := h.busy hplace
    apply hrunning
    unfold isRunningOnAssignedCore
    rw [← h.affinity_eq, (h.running hplace).2.2]
    simp [hcurrent, hbusy]
  apply Outcome.Post.andThen
  · exact (h.cancelOwnWait target).mono (fun _ _ hcancelled => hcancelled)
      fun _ _ hfalse => hfalse.elim
  rintro _ st1 ⟨hproc, -, hplaced⟩
  by_cases hready : ∃ c p, place target = .ready c p
  · -- a ready process stays where it is
    obtain ⟨c, p, hplace⟩ := hready
    have hsame : (place target).detached.unanswered = place target := by rw [hplace]; rfl
    rw [hsame, update_eq_self] at hplaced
    have hfit := hplaced.fits target (by simp)
    rw [hplace] at hfit
    have hcleared := hplaced.modifyContext target (fun context =>
        { context with faultReason := .none, faultCode := 0, archFaultCode := 0, faultAddress := 0 })
      rfl rfl rfl fun _ => by
        rw [hplace]
        exact ⟨hfit.1, by simp [modifyContext_contexts], hfit.2.2⟩
    have hset := hcleared.modifyProcess target (fun process => { process with status := .ready })
      (fun _ => ⟨rfl, rfl, rfl, rfl, rfl⟩) fun _ => by
        rw [hplace]
        refine ⟨by simp [SystemState.modifyProcess, modifyProcess_processes],
          by simp [SystemState.modifyProcess, modifyContext_contexts], ?_⟩
        exact (setStatus_affinity ..).trans hfit.2.2
    have hcore : ((st1.clearFault target).setStatus target .ready).proc.affinity e.platform target =
        c := by
      rw [hs.platform]
      exact (setStatus_affinity ..).trans hfit.2.2
    apply Outcome.Post.transformError
    apply onProc_post
    unfold ProcState.markScheduled
    dsimp only
    rw [hcore]
    apply ((hset.markScheduledOn_ready hplace).mono (fun _ _ hm => hm)
      fun _ _ hfalse => hfalse.elim).andThen
    intro _ proc hmarked
    split_ifs with hremote
    · exact (hmarked.signalRemote hs hremote.1 _ _).mono (fun _ _ hm => hm.coherent harrived)
        fun _ _ hfalse => hfalse.elim
    · refine Placed.coherent (hmarked.hardware ?_ (fun _ => ⟨?_, ?_, ?_⟩) ?_) harrived
      all_goals rfl
  · have hunlisted : ((place target).detached.unanswered).Unlisted := by
      cases hcase : place target with
      | current c => exact absurd hcase (hoff c)
      | ready c p => exact absurd ⟨c, p, hcase⟩ hready
      | idle => exact absurd hcase htarget
      | _ => trivial
    have hmoving : Placed s none none st1 (update place target .moving) := by
      rw [← update_idem (place target).detached.unanswered]
      apply hplaced.relabel
      · rw [update_self]
        exact hunlisted
      · trivial
      · exact fun _ => trivial
      · exact fun _ _ => ⟨hexists, hroot⟩
    have hcleared := (hmoving.clearFault (.inl (update_self ..))).setStatus .ready
      (.inl (update_self ..))
    apply Outcome.Post.transformError
    apply onProc_post
    apply (hcleared.markScheduled hs (update_self ..) _ owner).mono
    · rintro _ proc ⟨c, p, hmarked⟩
      exact hmarked.coherent ((harrived.update target _).update (by simp))
    · exact fun _ _ hfalse => hfalse.elim
    · simp [SystemState.clearFault, modifyContext_contexts]

end

/-! ## CONFIGURE and the registers -/

section

variable (h : Placed s none none st place)
include h

theorem reconfigure (htarget : place target ≠ .idle) (f : Process → Process)
    (hlinks : ∀ process, (f process).next = process.next ∧ (f process).preview = process.preview ∧
      (f process).isInReadyQueue = process.isInReadyQueue ∧ (f process).status = process.status)
    (hpriority : 0 ≤ (f (st.proc.processes target)).priority ∧
      (f (st.proc.processes target)).priority < priorityMax)
    (haligned : s.platform.smpEnabled = false → (f (st.proc.processes target)).coreAffinity = 0)
    (haffinity : (st.proc.processes target).status = .ready →
      (f (st.proc.processes target)).coreAffinity = (st.proc.processes target).coreAffinity) :
    Placed s none none (st.modifyProcess target f) place := by
  have hprocess : ∀ other, (st.modifyProcess target f).proc.processes other =
      if other = target then f (st.proc.processes target) else st.proc.processes other :=
    fun other => modifyProcess_processes st.proc target other f
  refine { h with
    ready := h.ready.congr (fun other => ?_) (fun _ _ => rfl) rfl fun _ _ _ => Iff.rfl
    replies := h.replies.congr (fun _ => rfl) fun _ => Iff.rfl
    fits := fun other hother => ?_
    priority := fun other => ?_
    idleAffinity := fun core hcore => ?_
    aligned := fun hsmp other => ?_ }
  · rw [hprocess]
    by_cases heq : other = target
    · simpa [heq] using ⟨(hlinks (st.proc.processes target)).1,
        (hlinks (st.proc.processes target)).2.1, (hlinks (st.proc.processes target)).2.2.1⟩
    · simp [heq]
  · have hfit := h.fits other hother
    by_cases heq : other = target
    · subst heq
      have hstatus : ((st.modifyProcess other f).proc.processes other).status =
          (st.proc.processes other).status := by
        rw [hprocess, if_pos rfl]
        exact (hlinks _).2.2.2
      by_cases hready : (st.proc.processes other).status = .ready
      · apply hfit.congr hstatus _ rfl fun _ _ => rfl
        rw [hprocess, if_pos rfl]
        exact haffinity hready
      · cases hcase : place other with
        | current c =>
          rw [hcase] at hfit
          exact absurd hfit.1 hready
        | ready c p =>
          rw [hcase] at hfit
          exact absurd hfit.1 hready
        | idle => exact absurd hcase htarget
        | ipc port =>
          rw [hcase] at hfit
          exact Waits.congr hfit hstatus rfl
        | _ =>
          rw [hcase] at hfit
          simp only [Fits, hstatus] at hfit ⊢
          try exact hfit
    · exact hfit.congr (by rw [hprocess, if_neg heq]) (by rw [hprocess, if_neg heq])
        rfl fun _ _ => rfl
  · rw [hprocess]
    by_cases heq : other = target
    · rw [if_pos heq]
      exact hpriority
    · rw [if_neg heq]
      exact h.priority other
  · have hne : ProcessId.idle core ≠ target := by
      rintro rfl
      exact htarget ((h.idle _).mpr ⟨core, rfl⟩)
    have haff := h.idleAffinity core hcore
    unfold ProcState.affinity at haff ⊢
    rwa [hprocess, if_neg hne]
  · rw [hprocess]
    by_cases heq : other = target
    · rw [if_pos heq]
      exact haligned hsmp
    · rw [if_neg heq]
      exact h.aligned hsmp other

theorem configurePriority (htarget : place target ≠ .idle) (priority : Word) :
    (st.onProc fun proc => proc.configurePriority target priority).Post
      (fun _ st' => Placed s none none st' place) (fun _ st' => Placed s none none st' place) := by
  apply onProc_post
  unfold ProcState.configurePriority
  split_ifs with hlarge
  · exact h
  · refine h.reconfigure htarget (fun process => { process with priority := priority.toNat })
      (fun _ => ⟨rfl, rfl, rfl, rfl⟩) ⟨by simp, ?_⟩ (fun hsmp => h.aligned hsmp target)
      fun _ => rfl
    change ((priority.toNat : Nat) : Int) < priorityMax
    omega

theorem configureAffinity (hs : s.Admits e) (htarget : place target ≠ .idle) (affinity : Word) :
    (st.configureAffinity e target affinity).Post (fun _ st' => Placed s none none st' place)
      (fun _ st' => Placed s none none st' place) := by
  unfold SystemState.configureAffinity
  split_ifs with hlarge hbusy
  · exact h
  · exact h
  · refine h.reconfigure htarget (fun process => { process with coreAffinity := affinity })
      (fun _ => ⟨rfl, rfl, rfl, rfl⟩) (h.priority target) (fun hsmp => ?_) fun hready => ?_
    · have hcount := (hs.single (by rw [hs.platform, hsmp])).2
      exact BitVec.eq_of_toNat_eq (show affinity.toNat = 0 by omega)
    · by_contra hne
      exact hbusy ⟨hne, .inl hready⟩

section

variable (hs : s.Admits e) (harrived : Arrived place) (htarget : place target ≠ .idle)
include hs harrived htarget

theorem operationConfigure (owner : ProcessId) :
    (st.operationConfigure e owner target).Post (fun _ => Coherent s) (fun _ => Coherent s) := by
  have hplaced : Placed s none none (st.operationConfigure e owner target).state place := by
    apply operationConfigure_keeps (P := fun st => Placed s none none st place) _ _ _ owner h
    · exact fun st _ _ hst => hst.alike ((Alike.refl st).setRegister _ _ _)
    · exact fun _ _ hst => (hst.configurePriority htarget _).state (fun _ _ hp => hp) fun _ _ hp => hp
    · exact fun _ _ hst =>
        (hst.configureAffinity hs htarget _).state (fun _ _ hp => hp) fun _ _ hp => hp
  exact Outcome.post_of_state (hplaced.coherent harrived)

theorem executeProcessControlBlock (hexists : target ∈ s.existing)
    (owner : ProcessId) (hroot : s.lax = false →
      (st.messageRegister e owner operationTypeIndex).toNat = 4 → s.root target ≠ 0) :
    (st.executeProcessControlBlock e owner target).Post (fun _ => Coherent s)
      (fun _ => Coherent s) := by
  have hcoherent := h.coherent harrived
  unfold SystemState.executeProcessControlBlock
  split
  · exact h.operationConfigure hs harrived htarget owner
  · unfold operationReadRegister
    dsimp only
    split_ifs
    · exact hcoherent
    · exact Outcome.post_of_state (hcoherent.alike ((Alike.refl st).readRegisters owner target _ _))
  · unfold operationWriteRegister
    dsimp only
    split_ifs
    · exact hcoherent
    · exact Outcome.post_of_state (hcoherent.alike ((Alike.refl st).writeRegisters owner target _ _))
  next hresume =>
    exact h.operationResume hs harrived htarget hexists (fun hlax => hroot hlax hresume) owner
  · exact h.operationSuspend hs harrived htarget
  · exact hcoherent

end

end

end SystemState.Placed

end A9N.Kernel
