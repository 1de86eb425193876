import A9N.Kernel.Ipc.ControlOperations

/-!
# Revocation callbacks

The callbacks of IPC ports, notification ports and process control blocks. The callback of a port
empties its queue: the loop ends because every round takes one of finitely many processes out.
-/

namespace A9N.Kernel

open ProcState Function

def waiters (s : Setting) (place : ProcessId → Place) (at_ : Place) : Nat :=
  (s.existing.filter fun id => place id = at_).card

theorem waiters_update_lt {s : Setting} {place : ProcessId → Place} {at_ dest : Place}
    {id : ProcessId} (hid : place id = at_) (hexists : id ∈ s.existing) (hdest : dest ≠ at_) :
    waiters s (update place id dest) at_ < waiters s place at_ := by
  apply Finset.card_lt_card
  rw [Finset.ssubset_iff_of_subset]
  · exact ⟨id, by simp [hexists, hid], by simp [hdest]⟩
  · intro other hother
    simp only [Finset.mem_filter] at hother ⊢
    refine ⟨hother.1, ?_⟩
    by_cases heq : other = id
    · rw [heq, hid]
    · simpa [heq] using hother.2

namespace SystemState.Placed

variable {s : Setting} {e : Entry} {st st' : SystemState} {place place' : ProcessId → Place}
  {target id : ProcessId} {port : Word} {stale : Option Nat} {hole : Option ProcessId}

section

variable (h : Placed s stale hole st place)
include h

theorem waiters_le (at_ : Place) : waiters s place at_ ≤ st.proc.processCount := by
  obtain ⟨ready, hready, -⟩ := h.ready
  exact (Finset.card_filter_le _ _).trans hready.card

theorem ipc_head_of_waiters
    (hnone : waiters s place (.ipc port) = 0) : (st.ports port).queueHead = none := by
  obtain ⟨waiting, hfamily, hmem, -⟩ := h.ipc
  rw [(hfamily.queued port).head_eq_none_iff, List.eq_nil_iff_forall_not_mem]
  intro id hid
  have hplace := (hmem id port).mp hid
  have hexists := h.existing id (by simp [hplace]) (by simp [hplace])
  unfold waiters at hnone
  rw [Finset.card_eq_zero, Finset.filter_eq_empty_iff] at hnone
  exact hnone hexists hplace

theorem notification_head_of_waiters (hnone : waiters s place (.notification port) = 0) :
    (st.notifications port).queueHead = none := by
  obtain ⟨waiting, hfamily, hmem, -⟩ := h.notification
  rw [(hfamily.queued port).head_eq_none_iff, List.eq_nil_iff_forall_not_mem]
  intro id hid
  have hplace := (hmem id port).mp hid
  have hexists := h.existing id (by simp [hplace]) (by simp [hplace])
  unfold waiters at hnone
  rw [Finset.card_eq_zero, Finset.filter_eq_empty_iff] at hnone
  exact hnone hexists hplace

end

theorem revokeWaiters (hs : s.Admits e) (port : Word) (steps : Nat)
    (h : Placed s none none st place) (harrived : Arrived place)
    (hsteps : waiters s place (.ipc port) ≤ steps) :
    (st.revokeWaiters e port steps).Post
      (fun _ st' => (st'.ports port).queueHead = none ∧ Coherent s st') (fun _ _ => False) := by
  induction steps generalizing st place with
  | zero => exact ⟨h.ipc_head_of_waiters (by omega), h.coherent harrived⟩
  | succ steps ih =>
    unfold SystemState.revokeWaiters
    cases hhead : (st.ports port).queueHead with
    | none => exact ⟨hhead, h.coherent harrived⟩
    | some first =>
      have hstate : (st.ports port).state ≠ .wait := by
        obtain ⟨waiting, hfamily, -, -, hempty⟩ := h.ipc
        rw [Ne, hempty, ← (hfamily.queued port).head_eq_none_iff, hhead]
        simp
      apply (h.popWaiter rfl hstate).andThen
      rintro target st1 ⟨htarget, honly, hwaits, hpopped⟩
      have hnot : update place target .moving target ≠ .reply := by simp
      have hsource := hpopped.source_eq_none hnot
      have hcleared := hpopped.modifyContext target (fun context =>
          { context with sourceReplyState := .none, sourceReplyTarget := none })
        rfl rfl (by simp [IpcContext.replyLinks, hsource]) fun _ => by
          rw [update_self]
          trivial
      apply (hcleared.completeRevokedWait hs (update_self ..) _).andThen
      · rintro _ st2 ⟨dest, hdest, -, hplaced⟩
        rw [update_idem] at hplaced
        apply ih hplaced
        · exact (harrived.update target dest).arrived (by simpa using hdest.ne_moving)
        · have hexists := h.existing target (by simp [htarget]) (by simp [htarget])
          have hne : dest ≠ .ipc port := by rcases hdest with rfl | ⟨c, p, rfl⟩ <;> simp
          have hfewer := waiters_update_lt htarget hexists hne
          omega
      · intro hclean
        rw [modifyContext_contexts, if_pos rfl] at hclean
        change (st1.contexts target).faultReason = .none at hclean
        cases hcase : (st.ports port).state with
        | wait => exact absurd hcase hstate
        | readyToSend =>
          rw [hcase] at hwaits
          rcases hwaits with hsend | hfault
          · exact .inl hsend.1
          · exact absurd hclean hfault.2.1
        | readyToReceive =>
          rw [hcase] at hwaits
          exact .inr (.inl hwaits.1)

theorem revokeIpcPort (h : Placed s none none st place) (hs : s.Admits e)
    (harrived : Arrived place) (port : Word) :
    (st.revokeIpcPort e port).Post (fun _ => Coherent s) (fun _ _ => False) := by
  unfold SystemState.revokeIpcPort
  apply (revokeWaiters hs port _ h harrived ((h.waiters_le _).trans (Nat.le_succ _))).andThen
  rintro _ st1 ⟨hhead, place1, hplaced, harrived1⟩
  have hstate := hplaced.empty_of_head port hhead
  have hsame : Alike st1 (st1.modifyPort port fun fields => { fields with state := .wait }) := by
    refine ⟨rfl, ?_, fun _ => rfl, fun _ => rfl, rfl⟩
    funext port'
    rw [modifyPort_ports]
    by_cases hport : port' = port
    · rw [if_pos hport, ← hstate, hport]
    · rw [if_neg hport]
  exact (hplaced.alike hsame).coherent harrived1

theorem revokeNotificationWaiters (hs : s.Admits e) (port : Word) (steps : Nat)
    (h : Placed s none none st place) (harrived : Arrived place)
    (hsteps : waiters s place (.notification port) ≤ steps) :
    (st.revokeNotificationWaiters e port steps).Post
      (fun _ st' => (st'.notifications port).queueHead = none ∧ Coherent s st')
      (fun _ _ => False) := by
  induction steps generalizing st place with
  | zero => exact ⟨h.notification_head_of_waiters (by omega), h.coherent harrived⟩
  | succ steps ih =>
    unfold SystemState.revokeNotificationWaiters
    cases hhead : (st.notifications port).queueHead with
    | none => exact ⟨hhead, h.coherent harrived⟩
    | some first =>
      have hne : (st.notifications port).queueHead ≠ none := by simp [hhead]
      apply (h.popNotification hne).transformError.andThen
      rintro target st1 ⟨htarget, honly, hpopped⟩
      have hfit := h.fits target (by simp)
      rw [htarget] at hfit
      apply (hpopped.completeRevokedWait hs (update_self ..) _).andThen
      · rintro _ st2 ⟨dest, hdest, -, hplaced⟩
        rw [update_idem] at hplaced
        apply ih hplaced
        · exact (harrived.update target dest).arrived (by simpa using hdest.ne_moving)
        · have hexists := h.existing target (by simp [htarget]) (by simp [htarget])
          have hne : dest ≠ .notification port := by
            rcases hdest with rfl | ⟨c, p, rfl⟩ <;> simp
          have hfewer := waiters_update_lt htarget hexists hne
          omega
      · intro _
        rw [honly.proc]
        exact .inr (.inr (.inr hfit.1))

theorem revokeNotificationPort (h : Placed s none none st place) (hs : s.Admits e)
    (harrived : Arrived place) (port : Word) :
    (st.revokeNotificationPort e port).Post (fun _ => Coherent s) (fun _ _ => False) := by
  unfold SystemState.revokeNotificationPort
  apply (revokeNotificationWaiters hs port _ h harrived
    ((h.waiters_le _).trans (Nat.le_succ _))).andThen
  rintro _ st1 ⟨hhead, place1, hplaced, harrived1⟩
  have hstate : (st1.notifications port).state = .wait := by
    obtain ⟨waiting, hfamily, -, -, hempty⟩ := hplaced.notification
    rw [hempty]
    exact (hfamily.queued port).head_eq_none_iff.mp hhead
  have hsame : Alike st1 (st1.modifyNotification port fun fields =>
      { fields.consume with bindedProcess := none, state := .wait }) := by
    refine ⟨rfl, rfl, fun _ => rfl, fun port' => ?_, rfl⟩
    rw [modifyNotification_notifications]
    by_cases hport : port' = port
    · rw [if_pos hport, hport]
      simp [NotificationPort.essential, NotificationPort.consume, hstate]
    · rw [if_neg hport]
  exact (hplaced.alike hsame).coherent harrived1

/-! ## Process control blocks -/

theorem wakeCaller (h : Placed s none (some target) st place) (hs : s.Admits e)
    (harrived : ArrivedBut target place) :
    (st.wakeCaller e target).Post
      (fun _ st' => (st'.proc.processes target).status = (st.proc.processes target).status ∧
        ∃ place', place' target = place target ∧ ArrivedBut target place' ∧
          Placed s none (some target) st' place')
      (fun _ _ => False) := by
  unfold SystemState.wakeCaller
  cases hcaller : (st.contexts target).destinationReplyTarget with
  | none => exact ⟨rfl, place, rfl, harrived, h⟩
  | some client =>
    have hsource := (h.replies.dual client target).mpr hcaller
    have hne : target ≠ client := by
      rintro rfl
      exact h.replies.distinct target hsource
    apply (h.cancelCaller hs hcaller (by simpa using hne)).mono
    · rintro _ st' ⟨dest, hdest, hwoken, hplaced⟩
      refine ⟨hwoken.status target hne, _, update_of_ne hne _ _, ?_, hplaced⟩
      intro other hother
      by_cases heq : other = client
      · rw [heq, update_self]
        exact hdest.ne_moving
      · rw [update_of_ne heq]
        exact harrived other hother
    · exact fun _ _ hfalse => hfalse

theorem revokeProcess (h : Placed s none none st place) (hs : s.Admits e)
    (harrived : Arrived place) (htarget : place target ≠ .idle) :
    (st.revokeProcess e target).Post (fun _ => Coherent s) (fun _ => Coherent s) := by
  unfold SystemState.revokeProcess
  apply Outcome.Post.andThen
  · apply Outcome.Post.transformError
    apply (h.stopProcessForReclamation hs htarget).mono (fun _ _ hstopped => hstopped)
    rintro _ _ rfl
    exact h.coherent harrived
  rintro _ st1 ⟨hstopped, hstatus, -, -⟩
  apply Outcome.Post.andThen
  · exact (hstopped.detachFromWaitQueues target).mono (fun _ _ hdetached => hdetached)
      fun _ _ hfalse => hfalse.elim
  rintro _ st2 ⟨hdetached, hplaced⟩
  rw [update_self, update_idem] at hplaced
  apply Outcome.Post.andThen
  · exact (hplaced.wakeCaller hs (harrived.update target _)).mono (fun _ _ hwoken => hwoken)
      fun _ _ hfalse => hfalse.elim
  rintro _ st3 ⟨hsame, place3, hplace, harrived3, hplaced3⟩
  rw [update_self] at hplace
  have hnot : ∀ port, place3 target ≠ .ipc port := by
    intro port
    rw [hplace]
    cases (place target).stopped <;> simp [Place.detached]
  have hdropped := hplaced3.dropReply_unanswered hnot
  rw [hplace] at hdropped
  unfold SystemState.cancelReply
  set left := (st3.dropReply target).modifyContext target fun context =>
    { context with buffer := none } with hleft
  have halike : Alike left (if e.vacates target then
      left.initHardwareContext e.platform.architecture target else left) := by
    split
    · exact ⟨rfl, rfl, fun _ => rfl, fun _ => rfl, rfl⟩
    · exact .refl left
  have hbuffer := (hdropped.alike ((Alike.refl _).modifyContext target
    (fun context => { context with buffer := none }) fun _ => rfl)).alike halike
  refine ⟨_, hbuffer.park ?_ ?_, ?_⟩
  · rw [update_self]
    exact Place.unlisted_of_removed htarget
  · rw [halike.proc]
    change ((st3.dropReply target).proc.processes target).status = .blockedSuspend
    rw [(dropReply_frame target st3).1, hsame, hdetached.proc, hstatus]
  · rw [update_idem]
    intro other
    by_cases heq : other = target
    · simp [heq]
    · rw [update_of_ne heq]
      exact harrived3 other heq

/-! ## The callbacks of one operation -/

theorem runCallback (hs : s.Admits e) (callback : Callback) (h : Coherent s st)
    (hidle : ∀ target, callback = .process target → ∀ core, target ≠ .idle core) :
    (st.runCallback e callback).Post (fun _ => Coherent s) (fun _ => Coherent s) := by
  obtain ⟨place, hplaced, harrived⟩ := h
  cases callback with
  | ipcPort port =>
    exact (hplaced.revokeIpcPort hs harrived port).mono (fun _ _ hc => hc)
      fun _ _ hfalse => hfalse.elim
  | notificationPort port =>
    exact (hplaced.revokeNotificationPort hs harrived port).mono (fun _ _ hc => hc)
      fun _ _ hfalse => hfalse.elim
  | process target =>
    apply hplaced.revokeProcess hs harrived
    rw [Ne, hplaced.idle]
    rintro ⟨core, heq⟩
    exact hidle target rfl core heq

theorem runCallbacks (hs : s.Admits e) (callbacks : List Callback) (h : Coherent s st)
    (hidle : ∀ target, .process target ∈ callbacks → ∀ core, target ≠ .idle core) :
    (st.runCallbacks e callbacks).Post (fun _ => Coherent s) (fun _ => Coherent s) := by
  induction callbacks generalizing st with
  | nil => exact h
  | cons callback rest ih =>
    apply Outcome.Post.andThen (Q := fun _ => Coherent s)
    · apply Outcome.Post.transformError
      exact runCallback hs callback h fun target htarget => hidle target (by simp [htarget])
    · intro _ st1 hcoherent
      exact ih hcoherent fun target hmem => hidle target (by simp [hmem])

end SystemState.Placed

end A9N.Kernel
