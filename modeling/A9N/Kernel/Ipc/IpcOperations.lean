import A9N.Kernel.Ipc.Switches

/-!
# Operations on IPC ports

Each operation on an IPC port ends with every process in one place, unless a message transfer
failed on the way. A failed transfer is visible in the count of failed transfers.
-/

namespace A9N.Kernel

open ProcState Function

variable {E : CapabilityError → SystemState → Prop} {g : KernelError → CapabilityError}

def Arrived (place : ProcessId → Place) : Prop := ∀ id, place id ≠ .moving

def ArrivedBut (owner : ProcessId) (place : ProcessId → Place) : Prop :=
  ∀ id, id ≠ owner → place id ≠ .moving

theorem Arrived.update {place : ProcessId → Place} (h : Arrived place) (id : ProcessId)
    (dest : Place) : ArrivedBut id (update place id dest) := by
  intro other hother
  rw [update_of_ne hother]
  exact h other

section

variable {place : ProcessId → Place} {id : ProcessId} (h : ArrivedBut id place)
include h

theorem ArrivedBut.arrived (hid : place id ≠ .moving) : Arrived place := by
  intro other
  by_cases hother : other = id
  · rwa [hother]
  · exact h other hother

theorem ArrivedBut.update
    {dest : Place} (hdest : dest ≠ .moving) : Arrived (update place id dest) := by
  intro other
  by_cases hother : other = id
  · rw [hother, update_self]
    exact hdest
  · rw [update_of_ne hother]
    exact h other hother

end

namespace SystemState

def Coherent (s : Setting) (st : SystemState) : Prop :=
  ∃ place, Placed s none none st place ∧ Arrived place

def Safe (s : Setting) (n : Nat) (st : SystemState) : Prop :=
  st.failedTransfers = n → Coherent s st

variable {s : Setting} {e : Entry} {st st' : SystemState} {place place' : ProcessId → Place}
  {owner client id : ProcessId} {n : Nat}

theorem Coherent.safe (h : Coherent s st) : Safe s n st := fun _ => h

theorem Coherent.alike (h : Coherent s st) (ha : Alike st st') : Coherent s st' := by
  obtain ⟨place, hplaced, harrived⟩ := h
  exact ⟨place, hplaced.alike ha, harrived⟩

theorem Placed.coherent (h : Placed s none none st place) (harrived : Arrived place) :
    Coherent s st := ⟨place, h, harrived⟩

theorem safe_of_failed (h : st.failedTransfers = n + 1) : Safe s n st := by
  intro heq
  omega

section

variable {context context' : IpcContext} (h : context'.essential = context.essential)
include h

theorem destinationReplyState_of_essential :
    context'.destinationReplyState = context.destinationReplyState := by
  simp only [IpcContext.essential, IpcContext.mk.injEq] at h
  simp [h]

theorem destinationReplyTarget_of_essential :
    context'.destinationReplyTarget = context.destinationReplyTarget := by
  simp only [IpcContext.essential, IpcContext.mk.injEq] at h
  simp [h]

end

theorem Alike.faultReason (ha : Alike st st') (id : ProcessId) :
    (st'.contexts id).faultReason = (st.contexts id).faultReason := by
  have hid := ha.context id
  simp only [IpcContext.essential, IpcContext.mk.injEq] at hid
  exact hid.1

theorem Alike.replyState (ha : Alike st st') (id : ProcessId) :
    (st'.contexts id).destinationReplyState = (st.contexts id).destinationReplyState ∧
      (st'.contexts id).sourceReplyState = (st.contexts id).sourceReplyState := by
  have hid := ha.context id
  simp only [IpcContext.essential, IpcContext.mk.injEq] at hid
  simp [hid]

@[simp] theorem setStatus_status (status : ProcessStatus) (other : ProcessId) :
    ((st.setStatus id status).proc.processes other).status =
      if other = id then status else (st.proc.processes other).status := by
  simp only [setStatus, modifyProcess, modifyProcess_processes]
  by_cases h : other = id <;> simp [h]

@[simp] theorem setStatus_affinity (p : Platform) (status : ProcessStatus) (other : ProcessId) :
    (st.setStatus id status).proc.affinity p other = st.proc.affinity p other := by
  unfold ProcState.affinity
  simp only [setStatus, modifyProcess, modifyProcess_processes]
  by_cases h : other = id <;> simp [h]

section

variable (target : ProcessId) (message : List (Nat × Word))
  (hlow : ∀ pair ∈ message, pair.1 < messageRegisterCount)
include hlow

theorem writeMessageRegisters_succeeds :
    (st.writeMessageRegisters e target message).result = .ok () := by
  induction message generalizing st with
  | nil => rfl
  | cons pair message ih =>
    unfold writeMessageRegisters configureMessageRegister
    rw [if_pos (hlow pair (by simp))]
    exact ih fun pair' hpair => hlow pair' (by simp [hpair])

theorem writeMessageRegisters_post :
    (st.writeMessageRegisters e target message).Post (fun _ st' => Alike st st')
      (fun _ _ => False) := by
  unfold Outcome.Post
  rw [writeMessageRegisters_succeeds target message hlow]
  exact (Alike.refl st).writeMessageRegisters target message

end

structure Woken (id : ProcessId) (st st' : SystemState) : Prop where
  context : ∀ other, (st'.contexts other).essential = (st.contexts other).essential
  failedTransfers : st'.failedTransfers = st.failedTransfers
  status : ∀ other, other ≠ id →
    (st'.proc.processes other).status = (st.proc.processes other).status

namespace Placed

variable {core : Nat} {stale : Option Nat} {hole : Option ProcessId}

theorem running (h : Placed s stale none st place) (howner : place owner = .current core) :
    (st.proc.processes owner).status = .ready ∧ (st.contexts owner).faultReason = .none ∧
      st.proc.affinity s.platform owner = core := by
  have hfit := h.fits owner (by simp)
  rw [howner] at hfit
  exact hfit

theorem waits (h : Placed s stale none st place) {port : Word} (hid : place id = .ipc port) :
    st.Waits id (st.ports port).state := by
  have hfit := h.fits id (by simp)
  rw [hid] at hfit
  exact hfit

/-! ## Blocking at a port -/

theorem giveUp (h : Placed s (some core) none st place) (hs : s.Admits e)
    (harrived : Arrived place) (haffinity : st.proc.affinity s.platform owner = core) :
    ((st.onProc fun proc => proc.tryScheduleAndSwitchFor e.platform e.root owner).transformError
      g).Post (fun _ => Coherent s) E := by
  apply Outcome.Post.transformError
  apply onProc_post
  unfold tryScheduleAndSwitchFor
  rw [hs.platform, haffinity, ← hs.platform]
  apply (h.tryScheduleAndSwitch hs (show Free (some core) _ core from .inl rfl)).mono
  · rintro _ proc ⟨place', hkept, hplaced⟩
    exact hplaced.coherent (hkept.settled harrived)
  · exact fun _ _ hfalse => hfalse.elim

theorem waitAt (h : Placed s (some core) none st place) (hs : s.Admits e)
    (howner : place owner = .moving) (hothers : ArrivedBut owner place)
    (haffinity : st.proc.affinity s.platform owner = core) (port : Word) (state : IpcPortState)
    (hstate : (st.ports port).state = .wait ∨ (st.ports port).state = state)
    (hwaits : st.Waits owner state) (hne : state ≠ .wait) :
    ((st.modifyPort port fun fields => { fields with state := state }).waitAt e port owner).Post
      (fun _ => Coherent s) (fun _ _ => False) := by
  have hpushed := h.pushIpc howner port state hstate (fun _ => hwaits) hne
  have honly := ((IpcOnly.refl st).modifyPort port
    fun fields => { fields with state := state }).pushIpcQueue port owner
  exact hpushed.giveUp hs (hothers.update (by simp)) (by rw [honly.proc, haffinity])

theorem onProc_coherent {f : ProcState → Outcome KernelError ProcState Unit}
    (h : (f st.proc).Post (fun _ proc => Coherent s { st with proc := proc })
      (fun _ proc => Coherent s { st with proc := proc })) :
    ((st.onProc f).transformError g).Post (fun _ => Safe s n) (fun _ => Safe s n) := by
  apply Outcome.Post.transformError
  apply onProc_post
  exact h.mono (fun _ _ hc => hc.safe) fun _ _ hc => hc.safe

theorem wake (h : Placed s none none st place) (hs : s.Admits e) (hid : place id = .moving)
    (hothers : ArrivedBut id place) (hfault : (st.contexts id).faultReason = .none)
    (current : ProcessId) :
    ((st.onProc fun proc => proc.markScheduled e.platform e.sendIpi current id).transformError
      g).Post (fun _ => Safe s n) (fun _ => Safe s n) := by
  apply onProc_coherent
  apply (h.markScheduled hs hid hfault current).mono
  · rintro _ proc ⟨c, p, hplaced⟩
    exact hplaced.coherent (hothers.update (by simp))
  · exact fun _ _ hfalse => hfalse.elim

theorem popWaiter (h : Placed s stale none st place) {port : Word} {state : IpcPortState}
    (hstate : (st.ports port).state = state) (hne : state ≠ .wait) :
    ((st.popIpcQueue port).transformError g).Post
      (fun target st1 => place target = .ipc port ∧ IpcOnly st st1 ∧ st1.Waits target state ∧
        Placed s stale none st1 (update place target .moving)) E := by
  apply Outcome.Post.transformError
  apply (h.popIpc (hstate ▸ hne)).mono
  · rintro target st1 ⟨htarget, honly, hpopped⟩
    have hwaits := (h.waits htarget).congr (by rw [honly.proc])
      (honly.field _ (fun _ => rfl) target)
    rw [hstate] at hwaits
    exact ⟨htarget, honly, hwaits, hpopped⟩
  · exact fun _ _ hfalse => hfalse.elim

/-! ## SEND -/

section

variable (h : Placed s none none st place) (hs : s.Admits e) (harrived : Arrived place)
  (howner : place owner = .current core) (self : PortSlot)
include h hs harrived howner

theorem sendBlocking (hstate : (st.ports self.port).state ≠ .readyToReceive) :
    (st.sendBlocked e owner self).Post (fun _ => Coherent s) (fun _ _ => False) := by
  obtain ⟨-, hfault, haffinity⟩ := h.running howner
  have hleft := (h.leave howner).setStatus .blockedSend (.inl (update_self ..))
  have hnamed := hleft.alike ((Alike.refl _).identify owner self)
  apply hnamed.waitAt hs (update_self ..) (harrived.update owner _) _ self.port
    .readyToSend _ _ (by simp)
  · exact (setStatus_affinity ..).trans haffinity
  · change (st.ports self.port).state = .wait ∨ (st.ports self.port).state = .readyToSend
    cases hcase : (st.ports self.port).state <;> simp_all
  · refine .inl ⟨by simp [SystemState.identify], ?_⟩
    simpa [SystemState.identify, modifyContext_contexts] using hfault

theorem operationSend (info : Word) :
    (st.operationSend e owner self info).Post (fun _ => Safe s st.failedTransfers)
      (fun _ => Safe s st.failedTransfers) := by
  have hcoherent := h.coherent harrived
  refine operationSend_cases (motive := fun o => o.Post (fun _ => Safe s st.failedTransfers)
    fun _ => Safe s st.failedTransfers) hcoherent.safe hcoherent.safe ?_ ?_
  · exact fun hstate => (h.sendBlocking hs harrived howner self hstate).mono
      (fun _ _ hc => hc.safe) fun _ _ hfalse => hfalse.elim
  · intro hstate
    apply Outcome.Post.andThen
    · exact h.popWaiter hstate (by simp)
    · rintro target st1 ⟨-, honly, hwaits, hpopped⟩
      have hnamed := (hpopped.setStatus .ready (.inl (update_self ..))).alike
        ((Alike.refl _).identify owner self)
      apply Outcome.Post.andThen
      · apply (transferMessage_post self.port target owner info _).mono (fun _ _ ha => ha)
        intro _ st2 hfailed
        exact safe_of_failed (hfailed.trans (congrArg (· + 1) honly.failedTransfers))
      · intro _ st2 ha
        apply (hnamed.alike ha).wake hs (update_self ..) (harrived.update target _)
        rw [ha.faultReason, ((Alike.refl _).identify owner self).faultReason]
        exact hwaits.2.1

end

/-! ## RECEIVE -/

theorem linked (h : Placed s stale none st place) {server : ProcessId}
    (hclient : place client = .moving) (hserver : ∀ port, place server ≠ .ipc port)
    (hne : server ≠ client) (hanswer : (st.contexts server).destinationReplyState = .none)
    (hsource : (st.contexts client).sourceReplyState = .wait) :
    Placed s stale none ((st.linkReply server client).setStatus client .blockedReply)
      (update place client .reply) := by
  apply ((h.link hclient hserver hne hanswer).setStatus .blockedReply (.inr rfl)).closeHole
  rw [update_self]
  refine ⟨?_, .inl (by simp)⟩
  rw [setStatus_contexts, (linkReply_fields st hne).2.2.2]
  exact hsource

theorem clearAnswer (h : Placed s none none st place) (howner : place owner = .current core)
    (hanswer : (st.contexts owner).destinationReplyState = .none) :
    Placed s none none (st.modifyContext owner fun context =>
      { context with destinationReplyState := .none, destinationReplyTarget := none }) place := by
  apply h.modifyContext owner
  · rfl
  · rfl
  · simp [IpcContext.replyLinks, hanswer, (h.replies.answer owner).mp hanswer]
  · intro _
    have hfit := h.fits owner (by simp)
    rw [howner] at hfit ⊢
    simpa [Fits, modifyContext_contexts] using hfit

theorem empty_of_head (h : Placed s stale hole st place) (port : Word)
    (hhead : (st.ports port).queueHead = none) : (st.ports port).state = .wait := by
  obtain ⟨waiting, hfamily, -, -, hempty⟩ := h.ipc
  rw [hempty]
  exact (hfamily.queued port).head_eq_none_iff.mp hhead

section

variable (h : Placed s none none st place) (hs : s.Admits e) (harrived : Arrived place)
  (howner : place owner = .current core)
  (hanswer : (st.contexts owner).destinationReplyState = .none) (port : Word)
include h hs harrived howner hanswer

theorem tryReceiveFromReadySender :
    (st.tryReceiveFromReadySender e port owner).Post (fun _ => Safe s st.failedTransfers)
      (fun _ => Safe s st.failedTransfers) := by
  unfold SystemState.tryReceiveFromReadySender
  by_cases hstate : (st.ports port).state = .readyToSend
  · rw [if_neg (by simp [hstate])]
    apply Outcome.Post.andThen
    · exact h.popWaiter hstate (by simp)
    rintro sender st1 ⟨hsender, honly, hwaits, hpopped⟩
    have hne : owner ≠ sender := by
      rintro rfl
      rw [howner] at hsender
      cases hsender
    have howner' : update place sender .moving owner = .current core := by
      rw [update_of_ne hne, howner]
    have hanswer' : (st1.contexts owner).destinationReplyState = .none :=
      (honly.field IpcContext.destinationReplyState (fun _ => rfl) owner).trans hanswer
    have hsettled := harrived.update sender
    rw [if_neg (by simp [hanswer'])]
    split_ifs with hfault
    · -- the fault of the sender is reported and stays with the receiver until it replies
      have hwaiting : (st1.contexts sender).sourceReplyState = .wait := by
        rcases hwaits with hsend | hfaulted
        · exact absurd hsend.2 hfault
        · exact hfaulted.2.2
      apply Outcome.Post.andThen
      · apply (transferFaultMessage_post owner sender (hpopped.empty_of_head port)).mono
          (fun _ _ ha => ha)
        intro _ st2 hfailed
        exact safe_of_failed (hfailed.trans (congrArg (· + 1) honly.failedTransfers))
      · intro _ st2 ha
        apply Coherent.safe
        apply Placed.coherent ((hpopped.alike ha).linked (update_self ..) _ hne _ _)
        · exact (hsettled .moving).update (by simp)
        · simp [howner']
        · exact (ha.replyState owner).1.trans hanswer'
        · exact (ha.replyState sender).2.trans hwaiting
    · rw [not_not] at hfault
      apply Outcome.Post.andThen
      · apply (transferMessage_post port owner sender _ _).mono (fun _ _ ha => ha)
        intro _ st2 hfailed
        exact safe_of_failed (hfailed.trans (congrArg (· + 1) honly.failedTransfers))
      · intro _ st2 ha
        have hcopied := hpopped.alike ha
        have hanswered := (ha.replyState owner).1.trans hanswer'
        split_ifs with hcall
        · have hwaiting : (st1.contexts sender).sourceReplyState = .wait := by
            cases hsource : (st1.contexts sender).sourceReplyState with
            | none => simp [hsource] at hcall
            | wait => rfl
          apply Coherent.safe
          apply Placed.coherent (hcopied.linked (update_self ..) _ hne hanswered _)
          · exact (hsettled .moving).update (by simp)
          · simp [howner']
          · exact (ha.replyState sender).2.trans hwaiting
        · have hcleared := hcopied.clearAnswer howner' hanswered
          apply (hcleared.setStatus .ready (.inl (update_self ..))).wake hs
            (update_self ..) (hsettled .moving)
          rw [setStatus_contexts, modifyContext_contexts, if_neg (Ne.symm hne), ha.faultReason]
          exact hfault
  · rw [if_pos hstate]
    exact (h.coherent harrived).safe

theorem receiveWithoutSender (hstate : (st.ports port).state ≠ .readyToSend) (info : Word) :
    (st.receiveWithoutSender e owner port info).Post (fun _ => Safe s n) (fun _ => Safe s n) := by
  unfold SystemState.receiveWithoutSender
  have ha := (Alike.refl st).tryDeliverPendingBindedNotification (e := e) owner
  apply (Outcome.post_of_state (P := fun st1 => Alike st st1) ha).mono (fun _ _ ha => ha)
    (fun _ _ ha => ((h.coherent harrived).alike ha).safe) |>.andThen
  intro delivered st1 ha
  have hcoherent := (h.coherent harrived).alike ha
  have hplaced := h.alike ha
  obtain ⟨-, hfault, haffinity⟩ := hplaced.running howner
  split_ifs
  · exact hcoherent.safe
  · have hleft := (hplaced.leave howner).setStatus .blockedReceive (.inl (update_self ..))
    apply (hleft.waitAt hs (update_self ..) (harrived.update owner _) _ port
      .readyToReceive _ _ (by simp)).mono (fun _ _ hc => hc.safe) fun _ _ hfalse => hfalse.elim
    · exact (setStatus_affinity ..).trans haffinity
    · rw [setStatus_ports, ha.ports]
      cases hcase : (st.ports port).state <;> simp_all
    · refine ⟨by simp, hfault, ?_⟩
      exact (ha.replyState owner).1.trans hanswer
  · exact hcoherent.safe

end

def Resumed (at_ : Place) : Prop := at_ = .parked ∨ ∃ c p, at_ = .ready c p

theorem Resumed.ne_moving {at_ : Place} (h : Resumed at_) : at_ ≠ .moving := by
  rcases h with rfl | ⟨c, p, rfl⟩ <;> simp

/-- `complete_revoked_wait` resumes a process that was taken out of its wait, or parks it when it
waited with a fault. -/
theorem completeRevokedWait (h : Placed s stale hole st place) (hs : s.Admits e)
    (hid : place id = .moving)
    (hstatus : (st.contexts id).faultReason = .none → (st.proc.processes id).status = .blockedSend ∨
      (st.proc.processes id).status = .blockedReceive ∨
      (st.proc.processes id).status = .blockedReply ∨
      (st.proc.processes id).status = .blockedWait) :
    (st.completeRevokedWait e id).Post (fun _ st' => ∃ dest, Resumed dest ∧ Woken id st st' ∧
        Placed s stale hole st' (update place id dest))
      (fun _ _ => False) := by
  unfold SystemState.completeRevokedWait
  apply (writeMessageRegisters_post id [(0, 0), (1, 0)] (by decide)).andThen
  intro _ st1 ha
  have hplaced := h.alike ha
  rw [ha.faultReason, ha.proc]
  split_ifs with hfault
  · rw [Outcome.post_ok]
    refine ⟨.parked, .inl rfl, ⟨ha.context, ha.failedTransfers, fun other hother => ?_⟩, ?_⟩
    · rw [setStatus_status, if_neg hother, ha.proc]
    apply (hplaced.setStatus .blockedSuspend (.inl hid)).relabel
    · rw [hid]
      trivial
    · trivial
    · exact fun _ => .inr (by simp)
    · exact fun _ hne => absurd rfl hne
  · rw [not_not] at hfault
    have hwake : ((st1.onProc fun proc => proc.markScheduled e.platform e.sendIpi id
        id).transformError convertKernelToCapabilityError).Post
        (fun _ st' => ∃ dest, Resumed dest ∧ Woken id st st' ∧
          Placed s stale hole st' (update place id dest)) (fun _ _ => False) := by
      apply Outcome.Post.transformError
      apply onProc_post
      have hmarked := hplaced.markScheduled hs hid (by rw [ha.faultReason, hfault]) id
      apply (hmarked.withState (P := fun proc => ∀ other, other ≠ id →
        (proc.processes other).status = (st1.proc.processes other).status)
        fun other hother => markScheduled_status e.platform e.sendIpi id hother st1.proc).mono
      · rintro _ proc ⟨⟨c, p, hready⟩, hothers⟩
        refine ⟨.ready c p, .inr ⟨c, p, rfl⟩, ⟨ha.context, ha.failedTransfers, ?_⟩, hready⟩
        intro other hother
        exact (hothers other hother).trans (by rw [ha.proc])
      · exact fun _ _ hfalse => hfalse.1
    rcases hstatus hfault with hcase | hcase | hcase | hcase <;> rw [hcase] <;> exact hwake

theorem cancelCaller (h : Placed s stale hole st place) (hs : s.Admits e)
    (htarget : (st.contexts owner).destinationReplyTarget = some client)
    (hhole : hole ≠ some client) :
    (st.cancelReply e client true).Post
      (fun _ st' => ∃ dest, Resumed dest ∧ Woken client (st.unlinkReply owner client) st' ∧
        Placed s stale hole st' (update place client dest))
      (fun _ _ => False) := by
  have hsource := (h.replies.dual client owner).mpr htarget
  have hclient : place client = .reply := (h.replies.place client).mp (by simp [hsource])
  have hne : owner ≠ client := by
    rintro rfl
    exact h.replies.distinct owner hsource
  have hfit := h.fits client hhole
  rw [hclient] at hfit
  unfold SystemState.cancelReply
  rw [if_pos rfl, dropReply_eq hsource htarget hne]
  apply ((h.unlink htarget).completeRevokedWait hs (update_self ..) _).mono
  · rintro _ st' ⟨dest, hdest, hwoken, hplaced⟩
    rw [update_idem] at hplaced
    exact ⟨dest, hdest, hwoken, hplaced⟩
  · exact fun _ _ hfalse => hfalse
  · intro hnone
    rw [unlinkReply_faultReason] at hnone
    rcases hfit.2 with hreply | hfault
    · exact .inr (.inr (.inl hreply))
    · exact absurd hnone hfault.1

section

variable (h : Placed s none none st place) (hs : s.Admits e) (harrived : Arrived place)
  (howner : place owner = .current core)
include h hs harrived howner

theorem discardReply : (st.discardReply e owner).Post
      (fun _ st' => ∃ place', Placed s none none st' place' ∧ Arrived place' ∧
        place' owner = .current core ∧ (st'.contexts owner).destinationReplyState = .none ∧
        st'.failedTransfers = st.failedTransfers)
      (fun _ _ => False) := by
  unfold SystemState.discardReply
  split_ifs with hanswer
  · exact ⟨place, h, harrived, howner, hanswer, rfl⟩
  cases htarget : (st.contexts owner).destinationReplyTarget with
  | none => exact absurd ((h.replies.answer owner).mpr htarget) hanswer
  | some client =>
    have hsource := (h.replies.dual client owner).mpr htarget
    have hne : owner ≠ client := by
      rintro rfl
      exact h.replies.distinct owner hsource
    apply (h.cancelCaller hs htarget (by simp)).andThen
    rintro _ st1 ⟨dest, hdest, hwoken, hplaced⟩
    have howner' : update place client dest owner = .current core := by
      rw [update_of_ne hne, howner]
    have hnone : (st1.contexts owner).destinationReplyState = .none := by
      rw [destinationReplyState_of_essential (hwoken.context owner),
        (unlinkReply_fields st hne).2.2.1, if_pos rfl]
    refine ⟨_, hplaced.clearAnswer howner' hnone, (harrived.update client dest).arrived ?_,
      howner', ?_, hwoken.failedTransfers⟩
    · rw [update_self]
      exact hdest.ne_moving
    · simp [modifyContext_contexts]

theorem operationReceive (self : PortSlot) (info : Word) :
    (st.operationReceive e owner self info).Post (fun _ => Safe s st.failedTransfers)
      (fun _ => Safe s st.failedTransfers) := by
  unfold SystemState.operationReceive
  by_cases hright : self.rights &&& Slot.read = 0
  · rw [if_pos hright]
    exact (h.coherent harrived).safe
  rw [if_neg hright]
  apply ((h.discardReply hs harrived howner).mono (fun _ _ hd => hd)
    fun _ _ hfalse => hfalse.elim).andThen
  rintro _ st1 ⟨place1, hplaced, harrived1, howner1, hanswer, hfailed⟩
  rw [← hfailed]
  cases hstate : (st1.ports self.port).state with
  | wait => exact hplaced.receiveWithoutSender hs harrived1 howner1 hanswer _ (by simp [hstate]) info
  | readyToReceive =>
    exact hplaced.receiveWithoutSender hs harrived1 howner1 hanswer _ (by simp [hstate]) info
  | readyToSend => exact hplaced.tryReceiveFromReadySender hs harrived1 howner1 hanswer _

end

/-! ## CALL -/

theorem callBlocking (h : Placed s none none st place) (hs : s.Admits e)
    (harrived : Arrived place) (howner : place owner = .current core) (self : PortSlot)
    (hstate : (st.ports self.port).state ≠ .readyToReceive) :
    (st.callBlocked e owner self).Post (fun _ => Coherent s) (fun _ _ => False) := by
  obtain ⟨-, hfault, haffinity⟩ := h.running howner
  have hleft := (h.leave howner).setStatus .blockedSend (.inl (update_self ..))
  have hcalls := hleft.modifyContext owner (fun context => { context with sourceReplyState := .wait })
    rfl rfl rfl fun _ => by
      rw [update_self]
      trivial
  have hnamed := hcalls.alike ((Alike.refl _).identify owner self)
  apply hnamed.waitAt hs (update_self ..) (harrived.update owner _) _ self.port
    .readyToSend _ _ (by simp)
  · exact (setStatus_affinity ..).trans haffinity
  · change (st.ports self.port).state = .wait ∨ (st.ports self.port).state = .readyToSend
    cases hcase : (st.ports self.port).state <;> simp_all
  · refine .inl ⟨by simp [SystemState.identify], ?_⟩
    simpa [SystemState.identify, modifyContext_contexts] using hfault

theorem switchDirectly (h : Placed s (some core) none st place) (hs : s.Admits e)
    (hid : place id = .moving) (hothers : ArrivedBut id place)
    (hready : (st.proc.processes id).status = .ready)
    (hfault : (st.contexts id).faultReason = .none)
    (haffinity : st.proc.affinity s.platform owner = core) :
    ((st.onProc fun proc => proc.tryDirectScheduleAndSwitch e.platform e.root e.sendIpi owner
      id).transformError g).Post (fun _ => Safe s n) (fun _ => Safe s n) := by
  apply onProc_coherent
  apply (h.tryDirectScheduleAndSwitch hs hid hready hfault haffinity).mono
  · rintro _ proc ⟨c, p, place', hkept, hplaced⟩
    exact hplaced.coherent (hkept.settled (hothers.update (by simp)))
  · rintro _ proc ⟨-, c, p, place', hkept, -, hplaced⟩
    exact hplaced.coherent (hkept.settled (hothers.update (by simp)))

theorem linkCall (h : Placed s stale none st place) {target : ProcessId} (status : ProcessStatus)
    (howner : place owner = .moving) (htarget : place target = .moving) (hne : target ≠ owner)
    (hanswer : (st.contexts target).destinationReplyState = .none)
    (hstatus : status = .blockedReply ∨
      status = .blockedFault ∧ (st.contexts owner).faultReason ≠ .none) :
    Placed s stale none (((st.linkReply target owner).setStatus owner status).modifyContext owner
      fun context => { context with sourceReplyState := .wait })
      (update place owner .reply) := by
  have hlinked := (h.link howner (by simp [htarget]) hne hanswer).setStatus status (.inr rfl)
  apply (hlinked.modifyContext owner (fun context => { context with sourceReplyState := .wait })
    rfl rfl rfl fun hhole => absurd rfl hhole).closeHole
  rw [update_self]
  refine ⟨by simp [modifyContext_contexts], ?_⟩
  rcases hstatus with rfl | ⟨rfl, hfault⟩
  · exact .inl (by simp)
  · refine .inr ⟨?_, .inl (by simp)⟩
    simpa [modifyContext_contexts, linkReply_faultReason] using hfault

theorem operationCall (h : Placed s none none st place) (hs : s.Admits e)
    (harrived : Arrived place) (howner : place owner = .current core) (self : PortSlot)
    (info : Word) :
    (st.operationCall e owner self info).Post (fun _ => Safe s st.failedTransfers)
      (fun _ => Safe s st.failedTransfers) := by
  have hcoherent := h.coherent harrived
  refine operationCall_cases (motive := fun o => o.Post (fun _ => Safe s st.failedTransfers)
    fun _ => Safe s st.failedTransfers) hcoherent.safe hcoherent.safe ?_ ?_
  · intro hstate
    have ha := (Alike.refl st).tryDeliverPendingBindedNotification (e := e) owner
    apply (Outcome.post_of_state (P := fun st1 => Alike st st1) ha).mono (fun _ _ ha => ha)
      (fun _ _ ha => (hcoherent.alike ha).safe) |>.andThen
    intro delivered st1 ha
    split_ifs
    · exact (hcoherent.alike ha).safe
    · exact ((h.alike ha).callBlocking hs harrived howner self (by rwa [ha.ports])).mono
        (fun _ _ hc => hc.safe) fun _ _ hfalse => hfalse.elim
  · intro hstate
    apply Outcome.Post.andThen
    · exact (h.leave howner).popWaiter hstate (by simp)
    rintro target st1 ⟨htarget, honly, hwaits, hpopped⟩
    have hne : target ≠ owner := by
      rintro rfl
      simp at htarget
    have haffinity : st1.proc.affinity s.platform owner = core := by
      rw [honly.proc]
      exact (h.running howner).2.2
    have hidentify := (Alike.refl st1).identify owner self
    have hanswer := (hidentify.replyState target).1.trans hwaits.2.2
    unfold callTo
    dsimp only
    rw [if_neg (by simp [hanswer])]
    have hlinked := (hpopped.alike hidentify).linkCall .blockedReply
      (by simp [hne.symm]) (update_self ..) hne hanswer (.inl rfl)
    apply Outcome.Post.andThen
    · apply (transferMessage_post self.port target owner info _).mono (fun _ _ ha => ha)
      intro _ st2 hfailed
      exact safe_of_failed (hfailed.trans (congrArg (· + 1) honly.failedTransfers))
    · intro _ st2 ha
      have htarget' : update (update (update place owner .moving)
          target .moving) owner .reply target = .moving := by simp [hne]
      have hawake := (hlinked.alike ha).setStatus .ready (.inl htarget')
      apply hawake.switchDirectly hs htarget'
      · intro other hother
        by_cases heq : other = owner
        · simp [heq]
        · simpa [heq, hother] using harrived other
      · simp
      · rw [setStatus_contexts, ha.faultReason, modifyContext_contexts, if_neg hne,
          setStatus_contexts, linkReply_faultReason, hidentify.faultReason]
        exact hwaits.2.1
      · rw [setStatus_affinity, ha.proc]
        exact (setStatus_affinity ..).trans haffinity

/-! ## REPLY -/

theorem answer (h : Placed s stale none st place)
    (htarget : (st.contexts owner).destinationReplyTarget = some client) :
    Placed s stale none ((st.setStatus client .ready).unlinkReply owner client)
      (update place client .moving) := by
  have hready := (h.openHole client).setStatus .ready (.inr rfl)
  apply (hready.unlink htarget).closeHole
  rw [update_self]
  trivial

def Answered (s : Setting) (core : Nat) (owner : ProcessId) (n : Nat) (st : SystemState) : Prop :=
  ∃ place, Placed s none none st place ∧ Arrived place ∧ place owner = .current core ∧
    (st.contexts owner).destinationReplyState = .none ∧ st.failedTransfers = n

theorem wakeAnswered (h : Placed s none none st place) (hs : s.Admits e)
    (hclient : place client = .moving) (hothers : ArrivedBut client place)
    (howner : place owner = .current core)
    (hanswer : (st.contexts owner).destinationReplyState = .none)
    (hfault : (st.contexts client).faultReason = .none) :
    ((st.onProc fun proc => proc.markScheduled e.platform e.sendIpi owner client).transformError
      g).Post (fun _ => Answered s core owner st.failedTransfers) E := by
  have hne : owner ≠ client := by
    rintro rfl
    rw [howner] at hclient
    cases hclient
  apply Outcome.Post.transformError
  apply onProc_post
  apply (h.markScheduled hs hclient hfault owner).mono
  · rintro _ proc ⟨c, p, hplaced⟩
    refine ⟨_, hplaced, hothers.update (by simp), ?_, hanswer, rfl⟩
    rw [update_of_ne hne, howner]
  · exact fun _ _ hfalse => hfalse.elim

section

variable (h : Placed s none none st place) (hs : s.Admits e) (harrived : Arrived place)
  (howner : place owner = .current core)
include h hs harrived howner

theorem replyTo (htarget : (st.contexts owner).destinationReplyTarget = some client) (info : Word) :
    (st.replyTo e true owner client info).Post (fun _ => Answered s core owner st.failedTransfers)
      (fun _ => Safe s st.failedTransfers) := by
  have hsource := (h.replies.dual client owner).mpr htarget
  have hne : owner ≠ client := by
    rintro rfl
    exact h.replies.distinct owner hsource
  have hcoherent := h.coherent harrived
  unfold SystemState.replyTo
  by_cases hfault : (st.contexts client).faultReason ≠ .none
  · -- the fault of the client is resolved
    rw [if_pos hfault]
    have ha := (Alike.refl st).applyInvalidKernelCallReplyContext (e := e) owner client info
    apply (Outcome.post_of_state (P := fun st1 => Alike st st1) ha).mono (fun _ _ ha => ha)
      (fun _ _ ha => (hcoherent.alike ha).safe) |>.andThen
    intro _ st1 ha
    have htarget1 : (st1.contexts owner).destinationReplyTarget = some client :=
      (destinationReplyTarget_of_essential (ha.context owner)).trans htarget
    have hcleared := ((h.alike ha).answer htarget1).modifyContext client
      (fun context => { context with faultReason := .none }) rfl rfl rfl fun _ => by
        rw [update_self]
        trivial
    unfold completeFaultReplyWithoutMessageTransfer
    rw [← ha.failedTransfers]
    apply hcleared.wakeAnswered hs (update_self ..) (harrived.update client _)
    · rw [update_of_ne hne, howner]
    · rw [modifyContext_contexts, if_neg hne, (unlinkReply_fields _ hne).2.2.1, if_pos rfl]
    · simp [modifyContext_contexts]
  · rw [if_neg hfault]
    rw [not_not] at hfault
    apply Outcome.Post.andThen
    · apply (transferDirectMessage_post client owner info st).mono (fun _ _ ha => ha)
      exact fun _ st1 hfailed => safe_of_failed hfailed
    · intro _ st1 ha
      have htarget1 : (st1.contexts owner).destinationReplyTarget = some client :=
        (destinationReplyTarget_of_essential (ha.context owner)).trans htarget
      rw [if_pos rfl, ← ha.failedTransfers]
      apply ((h.alike ha).answer htarget1).wakeAnswered hs (update_self ..)
        (harrived.update client _)
      · rw [update_of_ne hne, howner]
      · rw [(unlinkReply_fields _ hne).2.2.1, if_pos rfl]
      · rw [unlinkReply_faultReason, setStatus_contexts, ha.faultReason, hfault]

theorem completeReply (info : Word) :
    (st.completeReply e true owner info).Post (fun _ => Answered s core owner st.failedTransfers)
      (fun _ => Safe s st.failedTransfers) := by
  unfold SystemState.completeReply
  split_ifs with hanswer
  · exact ⟨place, h, harrived, howner, hanswer, rfl⟩
  · cases htarget : (st.contexts owner).destinationReplyTarget with
    | none => exact absurd ((h.replies.answer owner).mpr htarget) hanswer
    | some client => exact h.replyTo hs harrived howner htarget info

theorem operationReply (info : Word) :
    (st.operationReply e owner info).Post (fun _ => Safe s st.failedTransfers)
      (fun _ => Safe s st.failedTransfers) := by
  unfold SystemState.operationReply
  split_ifs with hanswer
  · exact (h.coherent harrived).safe
  · cases htarget : (st.contexts owner).destinationReplyTarget with
    | none => exact absurd ((h.replies.answer owner).mpr htarget) hanswer
    | some client =>
      apply (h.replyTo hs harrived howner htarget info).andThen
      rintro _ st1 ⟨place1, hplaced, harrived1, howner1, -, -⟩
      obtain ⟨-, hfault, haffinity⟩ := hplaced.running howner1
      have hleft := (hplaced.leave howner1).setStatus .ready (.inl (update_self ..))
      apply hleft.switchDirectly hs (update_self ..) (harrived1.update owner _)
      · simp
      · exact hfault
      · exact (setStatus_affinity ..).trans haffinity

end

/-! ## REPLY_RECEIVE -/

theorem waitAndSwitch (h : Placed s (some core) none st place) (hs : s.Admits e)
    (howner : place owner = .moving) (hclient : place client = .moving) (hne : owner ≠ client)
    (hothers : ∀ other, other ≠ owner → other ≠ client → place other ≠ .moving)
    (haffinity : st.proc.affinity s.platform owner = core)
    (hfits : st.Fits s client (.current core)) (port : Word)
    (hport : (st.ports port).state = .wait ∨ (st.ports port).state = .readyToReceive)
    (hwaits : st.Waits owner .readyToReceive) :
    (((((st.modifyPort port fun fields => { fields with state := .readyToReceive }).pushIpcQueue port
      owner).onProc fun proc => proc.tryDirectScheduleAndSwitchLocal e.platform e.root
        (proc.affinity e.platform owner) client)).transformError g).Post
      (fun _ => Safe s n) (fun _ => Safe s n) := by
  have hpushed := h.pushIpc howner port .readyToReceive hport (fun _ => hwaits) (by simp)
  have honly := ((IpcOnly.refl st).modifyPort port
    fun fields => { fields with state := .readyToReceive }).pushIpcQueue port owner
  have hclient' : update place owner (.ipc port) client = .moving := by
    rw [update_of_ne hne.symm, hclient]
  have hsettled : ArrivedBut client (update place owner (.ipc port)) := by
    intro other hother
    by_cases heq : other = owner
    · simp [heq]
    · rw [update_of_ne heq]
      exact hothers other heq hother
  apply onProc_coherent
  rw [hs.platform]
  have hcore : (((st.modifyPort port fun fields =>
      { fields with state := .readyToReceive }).pushIpcQueue port owner).proc.affinity s.platform
        owner) = core := by
    rw [honly.proc, haffinity]
  rw [hcore, ← hs.platform]
  apply (hpushed.tryDirectScheduleAndSwitchLocal hs (show Free (some core) _ core from .inl rfl)
    hclient' _ _).mono
  · rintro _ proc ⟨p, place', hkept, hplaced⟩
    exact hplaced.coherent (hkept.settled (hsettled.update (by simp)))
  · rintro _ proc ⟨-, p, place', hkept, -, hplaced⟩
    exact hplaced.coherent (hkept.settled (hsettled.update (by simp)))
  · rw [honly.proc]
    exact hfits.1
  · exact fun _ => hfits.congr (by rw [honly.proc]) (by rw [honly.proc])
      (honly.field _ (fun _ => rfl) client) fun _ hfalse => by cases hfalse

section

variable (h : Placed s none none st place) (hs : s.Admits e) (harrived : Arrived place)
  (howner : place owner = .current core) (self : PortSlot)
include h hs harrived howner

theorem replyDirectly
    (info : Word) (htarget : (st.contexts owner).destinationReplyTarget = some client)
    (hdirect : st.repliesDirectly e owner self.port info = true) :
    ((st.replyTo e false owner client info).andThen fun _ st =>
      (((((st.modifyPort self.port fun port => { port with state := .readyToReceive }).setStatus
        owner .blockedReceive).pushIpcQueue self.port owner).onProc fun proc =>
          proc.tryDirectScheduleAndSwitchLocal e.platform e.root (proc.affinity e.platform owner)
            client).transformError convertKernelToCapabilityError)).Post
      (fun _ => Safe s st.failedTransfers) (fun _ => Safe s st.failedTransfers) := by
  obtain ⟨-, hfault, haffinity⟩ := h.running howner
  have hsource := (h.replies.dual client owner).mpr htarget
  have hne : owner ≠ client := by
    rintro rfl
    exact h.replies.distinct owner hsource
  unfold repliesDirectly at hdirect
  rw [htarget] at hdirect
  obtain ⟨-, hclean, -, hstate, hcore, -⟩ := of_decide_eq_true hdirect
  have hsame : st.proc.affinity s.platform client = core := by
    rw [← haffinity]
    unfold ProcState.affinity
    rw [← hs.platform]
    rcases hcore with hsingle | heq
    · rw [if_neg hsingle, if_neg hsingle]
    · rw [heq]
  unfold SystemState.replyTo
  rw [if_neg (by simp [hclean])]
  apply Outcome.Post.andThen (Q := fun _ st1 => ∃ st0, Alike st st0 ∧
    st1 = (st0.setStatus client .ready).unlinkReply owner client)
  · apply Outcome.Post.andThen
    · apply (transferDirectMessage_post client owner info st).mono (fun _ _ ha => ha)
      exact fun _ st1 hfailed => safe_of_failed hfailed
    · exact fun _ st0 ha => ⟨st0, ha, rfl⟩
  · rintro _ st1 ⟨st0, ha, rfl⟩
    have htarget0 : (st0.contexts owner).destinationReplyTarget = some client :=
      (destinationReplyTarget_of_essential (ha.context owner)).trans htarget
    have hanswered := (h.alike ha).answer htarget0
    have howner1 : update place client .moving owner = .current core := by
      rw [update_of_ne hne, howner]
    have hleft := (hanswered.leave howner1).setStatus .blockedReceive (.inl (update_self ..))
    have hwaits : (((st0.setStatus client .ready).unlinkReply owner client).setStatus owner
        .blockedReceive).Waits owner .readyToReceive := by
      refine ⟨by simp, ?_, ?_⟩
      · rw [setStatus_contexts, unlinkReply_faultReason, setStatus_contexts, ha.faultReason, hfault]
      · rw [setStatus_contexts, (unlinkReply_fields _ hne).2.2.1, if_pos rfl]
    have haff : ∀ other, (((st0.setStatus client .ready).unlinkReply owner client).setStatus owner
        .blockedReceive).proc.affinity s.platform other = st.proc.affinity s.platform other := by
      intro other
      rw [setStatus_affinity]
      exact (setStatus_affinity ..).trans (by rw [ha.proc])
    apply hleft.waitAndSwitch hs (update_self ..) (by simp [hne.symm]) hne
    · intro other howner' hclient'
      simpa [howner', hclient'] using harrived other
    · rw [haff, haffinity]
    · refine ⟨?_, ?_, by rw [haff, hsame]⟩
      · rw [setStatus_status, if_neg hne.symm]
        exact (setStatus_status ..).trans (if_pos rfl)
      · rw [setStatus_contexts, unlinkReply_faultReason, setStatus_contexts, ha.faultReason, hclean]
    · change (st0.ports self.port).state = .wait ∨ (st0.ports self.port).state = .readyToReceive
      rw [ha.ports]
      cases hcase : (st.ports self.port).state <;> simp_all
    · exact hwaits

theorem operationReplyReceive (info : Word) :
    (st.operationReplyReceive e owner self info).Post (fun _ => Safe s st.failedTransfers)
      (fun _ => Safe s st.failedTransfers) := by
  unfold SystemState.operationReplyReceive
  by_cases hright : self.rights &&& Slot.read = 0
  · rw [if_pos hright]
    exact (h.coherent harrived).safe
  rw [if_neg hright]
  dsimp only
  by_cases hdirect : st.repliesDirectly e owner self.port info = true
  · rw [if_pos hdirect]
    cases htarget : (st.contexts owner).destinationReplyTarget with
    | none =>
      unfold repliesDirectly at hdirect
      simp [htarget] at hdirect
    | some client =>
      have hanswer : (st.contexts owner).destinationReplyState ≠ .none := by
        rw [Ne, h.replies.answer, htarget]
        simp
      unfold SystemState.completeReply
      rw [if_neg hanswer, htarget]
      exact h.replyDirectly hs harrived howner self info htarget hdirect
  · rw [if_neg hdirect]
    apply (h.completeReply hs harrived howner info).andThen
    rintro _ st1 ⟨place1, hplaced, harrived1, howner1, hanswer, hfailed⟩
    rw [← hfailed]
    cases hstate : (st1.ports self.port).state with
    | readyToSend => exact hplaced.tryReceiveFromReadySender hs harrived1 howner1 hanswer _
    | wait =>
      exact hplaced.receiveWithoutSender hs harrived1 howner1 hanswer _ (by simp [hstate]) info
    | readyToReceive =>
      exact hplaced.receiveWithoutSender hs harrived1 howner1 hanswer _ (by simp [hstate]) info

theorem executeIpcPort : (st.executeIpcPort e owner self).Post (fun _ => Safe s st.failedTransfers)
      (fun _ => Safe s st.failedTransfers) := by
  unfold SystemState.executeIpcPort
  dsimp only
  split
  · exact (h.coherent harrived).safe
  split
  · exact h.operationSend hs harrived howner self _
  · exact h.operationReceive hs harrived howner self _
  · exact h.operationCall hs harrived howner self _
  · exact h.operationReply hs harrived howner _
  · exact h.operationReplyReceive hs harrived howner self _
  · split <;> exact (h.coherent harrived).safe
  · exact (h.coherent harrived).safe

end

end Placed

end SystemState

end A9N.Kernel
