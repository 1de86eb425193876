import A9N.Kernel.Ipc.IpcOperations

/-!
# Operations on notification ports

A notification takes at most one process out of its wait, and a process that waits for one gives
up its core. NOTIFY also runs for an interrupt, when the core may be idle.
-/

namespace A9N.Kernel.SystemState.Placed

open ProcState

variable {s : Setting} {e : Entry} {st st' : SystemState} {place place' : ProcessId → Place}
  {owner id : ProcessId} {core : Nat} {port : Word} {stale : Option Nat} {hole : Option ProcessId}

theorem wakeWithPreemption (h : Placed s none none st place) (hs : s.Admits e)
    (hid : place id = .moving) (hothers : ArrivedBut id place)
    (hfault : (st.contexts id).faultReason = .none) (current : ProcessId)
    {g : KernelError → CapabilityError} :
    ((st.onProc fun proc => proc.markScheduledWithPreemption e.platform e.root e.sendIpi current
      id).transformError g).Post (fun _ => Coherent s) (fun _ => Coherent s) := by
  apply Outcome.Post.transformError
  apply onProc_post
  apply (h.markScheduledWithPreemption hs hid hfault current).mono
  · rintro _ proc ⟨place', harrives, hplaced⟩
    exact hplaced.coherent (harrives hothers)
  · rintro _ proc ⟨place', harrives, hplaced⟩
    exact hplaced.coherent (harrives hothers)

section

variable (h : Placed s stale hole st place)
include h

theorem currentIpcPort_eq : (st.contexts id).currentIpcPort = some port ↔ place id = .ipc port := by
  obtain ⟨_, -, -, hcurrent, -⟩ := h.ipc
  exact hcurrent id port

theorem currentIpcPort_eq_none
    (hid : ∀ port, place id ≠ .ipc port) : (st.contexts id).currentIpcPort = none := by
  cases hcurrent : (st.contexts id).currentIpcPort with
  | none => rfl
  | some port => exact absurd (h.currentIpcPort_eq.mp hcurrent) (hid port)

theorem currentNotificationPort_eq :
    (st.contexts id).currentNotificationPort = some port ↔ place id = .notification port := by
  obtain ⟨_, -, -, hcurrent, -⟩ := h.notification
  exact hcurrent id port

theorem currentNotificationPort_eq_none (hid : ∀ port, place id ≠ .notification port) :
    (st.contexts id).currentNotificationPort = none := by
  cases hcurrent : (st.contexts id).currentNotificationPort with
  | none => rfl
  | some port => exact absurd (h.currentNotificationPort_eq.mp hcurrent) (hid port)

end

section

variable (h : Placed s none none st place) (hs : s.Admits e) (harrived : Arrived place)
include h hs harrived

theorem tryWakeBindedProcess (port : Word) (current : ProcessId) :
    (st.tryWakeBindedProcess e port current).Post (fun _ => Coherent s) (fun _ => Coherent s) := by
  have hcoherent := h.coherent harrived
  unfold SystemState.tryWakeBindedProcess
  split
  · exact hcoherent
  next target _ =>
  by_cases hstatus : (st.proc.processes target).status = .blockedReceive
  · rw [if_neg (by simp [hstatus])]
    cases hport : (st.contexts target).currentIpcPort with
    | none => exact hcoherent
    | some ipcPort =>
      have htarget := h.currentIpcPort_eq.mp hport
      have hclean : (st.contexts target).faultReason = .none := by
        have hwaits := h.waits htarget
        cases hstate : (st.ports ipcPort).state <;> rw [hstate] at hwaits
        · exact hwaits.elim
        · simp [Waits, hstatus] at hwaits
        · exact hwaits.2.1
      apply Outcome.Post.andThen (Q := fun _ st1 => IpcOnly st st1 ∧
        Placed s none none st1 (Function.update place target .moving))
      · apply Outcome.Post.transformError
        exact (h.removeIpc htarget).mono (fun _ _ hremoved => hremoved)
          fun _ _ hfalse => hfalse.elim
      rintro _ st1 ⟨honly, hremoved⟩
      have hconsumed := (Alike.refl st1).modifyNotification port NotificationPort.consume
        fun _ => rfl
      apply Outcome.Post.andThen (Q := fun _ st2 => Alike st1 st2)
      · apply (writeMessageRegisters_post target _ (by simp [messageInfoIndex, identifierIndex,
          messageRegisterCount])).mono
        · exact fun _ _ ha => hconsumed.trans ha
        · exact fun _ _ hfalse => hfalse.elim
      intro _ st2 ha
      have hawake := (hremoved.alike ha).setStatus .ready (.inl (Function.update_self ..))
      have hipc : (st2.contexts target).currentIpcPort = none :=
        hawake.currentIpcPort_eq_none (by simp)
      have hnotification : (st2.contexts target).currentNotificationPort = none :=
        hawake.currentNotificationPort_eq_none (by simp)
      have hcleared := hawake.modifyContext target (fun context =>
          { context with currentIpcPort := none, currentNotificationPort := none })
        (by simp [IpcContext.ipcLinks, hipc]) (by simp [IpcContext.notificationLinks, hnotification])
        rfl fun _ => by
          rw [Function.update_self]
          trivial
      apply hcleared.wakeWithPreemption hs (Function.update_self ..) (harrived.update target _)
      rw [modifyContext_contexts, if_pos rfl]
      change (st2.contexts target).faultReason = .none
      rw [ha.faultReason, honly.field IpcContext.faultReason (fun _ => rfl) target, hclean]
  · rw [if_pos hstatus]
    exact hcoherent

theorem operationNotify (current : ProcessId) (self : PortSlot) :
    (st.operationNotify e current self).Post (fun _ => Coherent s) (fun _ => Coherent s) := by
  unfold SystemState.operationNotify
  by_cases hright : self.rights &&& Slot.write = 0
  · rw [if_pos hright]
    exact h.coherent harrived
  rw [if_neg hright]
  have hnotified := h.alike ((Alike.refl st).modifyNotification self.port
    (fun fields => fields.notify self.identifier) fun _ => rfl)
  generalize st.modifyNotification self.port (fun fields => fields.notify self.identifier) = st1
    at hnotified ⊢
  dsimp only
  split
  · exact hnotified.tryWakeBindedProcess hs harrived self.port current
  · split
    · exact hnotified.coherent harrived
    split_ifs with hhead
    · exact hnotified.coherent harrived
    · apply Outcome.Post.andThen (Q := fun target st2 => place target = .notification self.port ∧
        NotificationOnly st1 st2 ∧ Placed s none none st2 (Function.update place target .moving))
      · apply Outcome.Post.transformError
        exact (hnotified.popNotification hhead).mono (fun _ _ hpopped => hpopped)
          fun _ _ hfalse => hfalse.elim
      rintro target st2 ⟨htarget, honly, hpopped⟩
      have hclean : (st2.contexts target).faultReason = .none := by
        have hfit := hnotified.fits target (by simp)
        rw [htarget] at hfit
        exact (honly.field IpcContext.faultReason (fun _ => rfl) target).trans hfit.2
      have hconsumed := (Alike.refl st2).modifyNotification self.port NotificationPort.consume
        fun _ => rfl
      apply Outcome.Post.andThen (Q := fun _ st3 => Alike st2 st3)
      · apply (writeMessageRegisters_post target _ (by simp [flagWordIndex,
          messageRegisterCount])).mono
        · exact fun _ _ ha => hconsumed.trans ha
        · exact fun _ _ hfalse => hfalse.elim
      intro _ st3 ha
      apply (hpopped.alike ha).wakeWithPreemption hs (Function.update_self ..)
        (harrived.update target _)
      rw [ha.faultReason, hclean]

theorem operationWait (howner : place owner = .current core) (self : PortSlot) :
    (st.operationWait e owner self).Post (fun _ => Coherent s) (fun _ => Coherent s) := by
  have hcoherent := h.coherent harrived
  obtain ⟨-, hfault, haffinity⟩ := h.running howner
  unfold SystemState.operationWait
  split_ifs
  · exact hcoherent
  · exact hcoherent
  · exact Outcome.post_of_state (hcoherent.alike ((Alike.refl st).deliverFlag self.port owner))
  · have hleft := (h.leave howner).setStatus .blockedWait (.inl (Function.update_self ..))
    have hpushed := hleft.pushNotification (Function.update_self ..) self.port
      fun _ => ⟨by simp, hfault⟩
    have honly := ((NotificationOnly.refl (st.setStatus owner .blockedWait)).modifyNotification
      self.port fun fields => { fields with state := .readyToWake }).pushNotificationQueue self.port
        owner
    apply hpushed.giveUp hs
    · exact (harrived.update owner _).update (by simp)
    · rw [honly.proc, setStatus_affinity, haffinity]

end

theorem operationPoll (h : Coherent s st) (owner : ProcessId) (self : PortSlot) :
    (st.operationPoll e owner self).Post (fun _ => Coherent s) (fun _ => Coherent s) := by
  unfold SystemState.operationPoll
  split_ifs
  · exact h
  · exact h
  · exact Outcome.post_of_state (h.alike ((Alike.refl st).deliverFlag self.port owner))
  · exact Outcome.post_of_state (h.alike ((Alike.refl st).writeMessageRegisters owner _))

theorem executeNotificationPort (h : Placed s none none st place) (hs : s.Admits e)
    (harrived : Arrived place) (howner : place owner = .current core) (self : PortSlot) :
    (st.executeNotificationPort e owner self).Post (fun _ => Coherent s) (fun _ => Coherent s) := by
  unfold SystemState.executeNotificationPort
  split
  · exact h.operationNotify hs harrived owner self
  · exact h.operationWait hs harrived howner self
  · exact operationPoll (h.coherent harrived) owner self
  · split <;> exact h.coherent harrived
  · exact h.coherent harrived

end A9N.Kernel.SystemState.Placed
