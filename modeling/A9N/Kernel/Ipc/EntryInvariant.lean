import A9N.Kernel.Ipc.Revocations

/-!
# Entries keep every process in one place

Faults, timers, reschedule interrupts and system calls, from a state in which every process is in
one place.
-/

namespace A9N.Kernel.SystemState

open ProcState Function

variable {s : Setting} {e : Entry} {st st' : SystemState} {place place' : ProcessId → Place}
  {owner target id : ProcessId} {core n : Nat} {port : Word}

namespace Placed

/-! ## Scheduling entries -/

theorem current_runs (h : Placed s none none st place) {current : ProcessId}
    (hcurrent : (st.proc.cpus core).currentProcess = some current) :
    (st.proc.processes current).status = .ready ∨ (st.proc.processes current).status = .idle := by
  rcases h.current_cases hcurrent with hplace | ⟨rfl, -⟩
  · exact .inl (h.running hplace).1
  · exact .inr (h.idle_status core)

theorem reschedule {stale : Option Nat} (h : Placed s stale none st place) (hs : s.Admits e)
    (hfree : Free stale st core) (harrived : Arrived place) :
    (st.proc.tryScheduleAndSwitch e.platform e.root core).Post
      (fun _ proc => Coherent s { st with proc := proc }) (fun _ _ => False) := by
  apply (h.tryScheduleAndSwitch hs hfree).mono
  · rintro _ proc ⟨place', hkept, hplaced⟩
    exact hplaced.coherent (hkept.settled harrived)
  · exact fun _ _ hfalse => hfalse

section

variable (h : Placed s none none st place)
include h

theorem requeue (harrived : Arrived place) {current : ProcessId}
    (hcurrent : (st.proc.cpus core).currentProcess = some current) :
    (st.proc.markScheduledOn core current).Post
      (fun _ proc => ∃ stale place', Free stale { st with proc := proc } core ∧ Arrived place' ∧
        Placed s stale none { st with proc := proc } place')
      (fun _ _ => False) := by
  rcases h.current_cases hcurrent with hplace | ⟨rfl, -⟩
  · obtain ⟨-, hfault, haffinity⟩ := h.running hplace
    apply ((h.leave hplace).markScheduledOn (update_self ..) hfault haffinity).mono
    · rintro _ proc ⟨p, hplaced⟩
      exact ⟨some core, _, .inl rfl, (harrived.update current _).update (by simp), hplaced⟩
    · exact fun _ _ hfalse => hfalse
  · have hkeeps : ((st.proc.markScheduledOn core (.idle core)).state.cpus core).currentProcess =
        some (.idle core) := by
      unfold ProcState.markScheduledOn
      dsimp only
      rw [if_pos rfl]
      exact hcurrent
    apply ((h.markScheduledOn_idle core).withState (P := fun proc =>
      (proc.cpus core).currentProcess = some (.idle core)) hkeeps).mono
    · rintro _ proc ⟨hplaced, hidle⟩
      exact ⟨none, place, .inr ⟨rfl, core, hidle⟩, harrived, hplaced⟩
    · exact fun _ _ hfalse => hfalse.1

theorem rotate (hs : s.Admits e) (harrived : Arrived place)
    {current : ProcessId} (hcurrent : (st.proc.cpus core).currentProcess = some current) :
    ((st.proc.markScheduledOn core current).andThen fun _ proc =>
      proc.tryScheduleAndSwitch e.platform e.root core).Post
      (fun _ proc => Coherent s { st with proc := proc }) (fun _ _ => False) := by
  apply (h.requeue harrived hcurrent).andThen
  rintro _ proc ⟨stale, place', hfree, harrived', hplaced⟩
  exact hplaced.reschedule hs hfree harrived'

theorem setQuantum (id : ProcessId) (f : Int → Int) :
    Placed s none none (st.modifyProcess id fun process =>
      { process with quantum := f process.quantum }) place := by
  refine h.modifyProcess id (fun process => { process with quantum := f process.quantum })
    (fun _ => ⟨rfl, rfl, rfl, rfl, rfl⟩) fun hhole => ?_
  refine (h.fits id hhole).congr ?_ ?_ rfl fun _ _ => rfl
  · simp [SystemState.modifyProcess, modifyProcess_processes]
  · simp [SystemState.modifyProcess, modifyProcess_processes]

section

variable (hs : s.Admits e) (harrived : Arrived place)
include hs harrived

theorem handleYield : Coherent s (st.handleYield e) := by
  unfold SystemState.handleYield
  split
  · exact h.coherent harrived
  next current hcurrent =>
    have hquantum := h.setQuantum current fun _ => quantumMax
    exact (onProc_post (Q := fun _ => Coherent s) (E := fun _ => Coherent s)
      ((hquantum.rotate hs harrived hcurrent).mono (fun _ _ hc => hc)
        fun _ _ hfalse => hfalse.elim)).state (fun _ _ hc => hc) fun _ _ hc => hc

theorem handleTimer : Coherent s (st.handleTimer e) := by
  unfold SystemState.handleTimer
  split
  · exact h.coherent harrived
  next current hcurrent =>
    have hruns := h.current_runs hcurrent
    rw [if_neg (by tauto)]
    have hquantum := h.setQuantum current fun quantum => quantum - 1
    dsimp only
    split_ifs
    · have hreset := hquantum.setQuantum current fun _ => quantumMax
      have hrotated := hreset.rotate hs harrived hcurrent
      apply (onProc_post (Q := fun _ => Coherent s) (E := fun _ => Coherent s) _).state
        (fun _ _ hc => hc) fun _ _ hc => hc
      apply hrotated.orElse
      exact fun _ _ hfalse => hfalse.elim
    · exact hquantum.coherent harrived

theorem handleInterrupt (handler : Option PortSlot) :
    Coherent s (st.handleInterrupt e handler) := by
  unfold SystemState.handleInterrupt
  split
  next self current _ =>
    exact (h.operationNotify hs harrived current self).state (fun _ _ hc => hc) fun _ _ hc => hc
  · exact h.coherent harrived

end

end

theorem tryRemoteTargetAndSwitch {stale : Option Nat} (h : Placed s stale none st place)
    (hs : s.Admits e) (hfree : Free stale st core) (harrived : Arrived place)
    (hcore : (st.proc.processes target).coreAffinity.toNat = core)
    (hflag : (st.proc.processes target).isInReadyQueue = true)
    (hready : (st.proc.processes target).status = .ready) :
    (st.proc.tryRemoteTargetAndSwitch e.platform e.root core target).Post
      (fun _ proc => Coherent s { st with proc := proc })
      (fun _ proc => Coherent s { st with proc := proc }) := by
  have hplace : ∃ p, place target = .ready core p := by
    obtain ⟨ready, hqueues, hmem⟩ := h.ready
    obtain ⟨c, p, hin⟩ := (hqueues.flagged target).mp hflag
    have hat := (hmem target c p).mp hin
    have hfit := h.fits target (by simp)
    rw [hat] at hfit
    have hc : c = core := by rw [← hfit.2.2, h.affinity_eq, hcore]
    exact ⟨p, hc ▸ hat⟩
  obtain ⟨p, hplace⟩ := hplace
  unfold ProcState.tryRemoteTargetAndSwitch
  rw [if_neg (by simp [hready, hflag])]
  apply Outcome.Post.andThen
  · apply Outcome.Post.transformError
    apply (h.removeProcess core target).mono (fun _ _ hremoved => hremoved)
    rintro _ proc ⟨-, -, hout⟩
    exact absurd hplace (hout p)
  · rintro _ proc ⟨-, honly, hremoved⟩
    have hfree' : Free stale { st with proc := proc } core := by
      unfold Free
      rwa [honly.currentProcess core]
    have hsettled : Arrived (update place target (.current core)) :=
      (harrived.update target _).arrived (by simp)
    apply Outcome.Post.transformError
    apply (hremoved.switchTo hs hfree' (update_self ..) (h.fits_current hplace honly)).mono
    · intro _ proc' hplaced
      rw [update_idem] at hplaced
      exact hplaced.coherent hsettled
    · rintro _ proc' ⟨-, hplaced⟩
      rw [update_idem] at hplaced
      exact hplaced.coherent hsettled

theorem handleIpiReschedule (h : Placed s none none st place) (hs : s.Admits e)
    (harrived : Arrived place) : Coherent s (st.handleIpiReschedule e) := by
  unfold SystemState.handleIpiReschedule
  split
  · exact h.coherent harrived
  next current hcurrent =>
    have hcleared : Placed s none none { st with proc := st.proc.modifyCpu e.core fun cpu =>
        { cpu with pendingRescheduleTarget := none } } place := by
      refine h.hardware (by rfl) (fun other => ?_) (by rfl)
      by_cases hother : other = e.core <;> simp [modifyCpu, hother]
    have hcurrent' : ((st.proc.modifyCpu e.core fun cpu =>
        { cpu with pendingRescheduleTarget := none }).cpus e.core).currentProcess = some current := by
      simpa [modifyCpu] using hcurrent
    dsimp only
    rw [if_pos (hcleared.current_runs hcurrent')]
    generalize (st.proc.cpus e.core).pendingRescheduleTarget = pending
    apply (Outcome.Post.andThen (Q := fun _ st1 => ∃ stale place', Free stale st1 e.core ∧
      Arrived place' ∧ Placed s stale none st1 place') (E := fun _ => Coherent s)
      (R := fun _ => Coherent s) _ _).state (fun _ _ hc => hc) fun _ _ hc => hc
    · apply onProc_post
      apply (hcleared.requeue harrived hcurrent').mono (fun _ _ hq => hq)
      exact fun _ _ hfalse => hfalse.elim
    · rintro _ st1 ⟨stale, place1, hfree, harrived1, hplaced⟩
      cases hremote : st1.remoteTarget e pending with
      | some target =>
        obtain ⟨-, hchecks⟩ := Option.filter_eq_some_iff.mp hremote
        obtain ⟨hcore, hready, hflag⟩ := of_decide_eq_true hchecks
        apply onProc_post
        exact hplaced.tryRemoteTargetAndSwitch hs hfree harrived1 hcore hflag hready
      | none =>
        apply onProc_post
        exact (hplaced.reschedule hs hfree harrived1).mono (fun _ _ hc => hc)
          fun _ _ hfalse => hfalse.elim

/-! ## Faults -/

def Undelivered (s : Setting) (core : Nat) (owner : ProcessId) (st : SystemState) : Prop :=
  (∃ place, place owner = .moving ∧ ArrivedBut owner place ∧ Placed s (some core) none st place) ∨
    (s.lax = true ∧ ∃ place handler, place owner = .reply ∧ place handler = .current core ∧
      Arrived place ∧ (st.contexts owner).faultReason ≠ .none ∧ Placed s none none st place)

section

variable (h : Placed s (some core) none st place) (hs : s.Admits e) (howner : place owner = .moving)
  (hothers : ArrivedBut owner place)
include h hs howner hothers

section

variable (haffinity : st.proc.affinity s.platform owner = core)
  (hfault : (st.contexts owner).faultReason ≠ .none)
include haffinity hfault

theorem faultWait (port : Word) (hstate : (st.ports port).state ≠ .readyToReceive) :
    ((st.modifyPort port fun fields => { fields with state := .readyToSend }).faultWait e owner
      port).Post (fun _ => Coherent s) (fun _ _ => False) := by
  have hblocked := h.setStatus .blockedFault (.inl howner)
  have hwaiting := hblocked.modifyContext owner
    (fun context => { context with sourceReplyState := .wait }) rfl rfl rfl fun _ => by
      rw [howner]
      trivial
  apply hwaiting.waitAt hs howner hothers _ port .readyToSend _ _ (by simp)
  · exact (setStatus_affinity ..).trans haffinity
  · change (st.ports port).state = .wait ∨ (st.ports port).state = .readyToSend
    cases hcase : (st.ports port).state <;> simp_all
  · refine .inr ⟨by simp, ?_, by simp [modifyContext_contexts]⟩
    simpa [modifyContext_contexts] using hfault

theorem operationFaultCall (self : PortSlot) :
    (st.operationFaultCall e owner self).Post (fun _ => Safe s st.failedTransfers)
      (fun _ st' => st'.failedTransfers = st.failedTransfers → Undelivered s core owner st') := by
  unfold SystemState.operationFaultCall
  by_cases hright : self.rights &&& Slot.write = 0 ∨ self.rights &&& Slot.read = 0
  · rw [if_pos hright]
    exact fun _ => .inl ⟨place, howner, hothers, h.setStatus .blockedFault (.inl howner)⟩
  rw [if_neg hright]
  have hidentify := (Alike.refl st).identify owner self
  have hnamed := h.alike hidentify
  have hfault' : ((st.identify owner self).contexts owner).faultReason ≠ .none := by
    rwa [hidentify.faultReason]
  dsimp only
  cases hstate : ((st.identify owner self).ports self.port).state with
  | wait =>
    exact (hnamed.faultWait hs howner hothers haffinity hfault' self.port (by simp [hstate])).mono
      (fun _ _ hc => hc.safe) fun _ _ hfalse => hfalse.elim
  | readyToSend =>
    exact (hnamed.faultWait hs howner hothers haffinity hfault' self.port (by simp [hstate])).mono
      (fun _ _ hc => hc.safe) fun _ _ hfalse => hfalse.elim
  | readyToReceive =>
    apply Outcome.Post.andThen
    · exact hnamed.popWaiter hstate (by simp)
    rintro target st1 ⟨htarget, honly, hwaits, hpopped⟩
    have hne : target ≠ owner := by
      rintro rfl
      rw [howner] at htarget
      cases htarget
    have hfault1 : (st1.contexts owner).faultReason ≠ .none := by
      rwa [honly.field IpcContext.faultReason (fun _ => rfl) owner]
    rw [if_neg (by simp [hwaits.2.2])]
    have hlinked := hpopped.linkCall .blockedFault (by simp [hne.symm, howner])
      (update_self ..) hne hwaits.2.2 (.inr ⟨rfl, hfault1⟩)
    apply Outcome.Post.andThen
    · apply (transferFaultMessage_post target owner (hlinked.empty_of_head self.port)).mono
        (fun _ _ ha => ha)
      intro _ st2 hfailed hcount
      have hsame : st1.failedTransfers = st.failedTransfers := honly.failedTransfers
      have hmore : st2.failedTransfers = st1.failedTransfers + 1 := hfailed
      omega
    · intro _ st2 ha
      have htarget' : update (update place target .moving) owner .reply target =
          .moving := by simp [hne]
      have hawake := (hlinked.alike ha).setStatus .ready (.inl htarget')
      have hclean : (st2.contexts target).faultReason = .none := by
        rw [ha.faultReason, modifyContext_contexts, if_neg hne, setStatus_contexts,
          linkReply_faultReason]
        exact hwaits.2.1
      have haffinity' : (st2.setStatus target .ready).proc.affinity s.platform owner = core := by
        rw [setStatus_affinity, ha.proc]
        refine (setStatus_affinity ..).trans ?_
        change st1.proc.affinity s.platform owner = core
        rw [honly.proc]
        exact haffinity
      have hfaulty : (st2.contexts owner).faultReason ≠ .none := by
        rw [ha.faultReason, modifyContext_contexts, if_pos rfl, setStatus_contexts]
        rwa [linkReply_faultReason]
      have hsettled : ∀ c p, Arrived (update (update (update place
          target .moving) owner .reply) target (.ready c p)) := by
        intro c p other
        by_cases heq : other = target
        · simp [heq]
        · by_cases howner' : other = owner
          · simp [howner', hne.symm]
          · simpa [heq, howner'] using hothers other howner'
      apply Outcome.Post.transformError
      apply onProc_post
      apply (hawake.tryDirectScheduleAndSwitch hs htarget' (by simp) hclean haffinity').mono
      · rintro _ proc ⟨c, p, place', hkept, hplaced⟩
        exact (hplaced.coherent (hkept.settled (hsettled c p))).safe
      · rintro _ proc ⟨hlax, c, p, place', hkept, ⟨next, hnext⟩, hplaced⟩
        refine fun _ => .inr ⟨hlax, place', next, ?_, hnext, hkept.settled (hsettled c p),
          hfaulty, hplaced⟩
        rw [hkept.same owner (by simp [hne.symm])]
        simp [hne.symm]

end

theorem suspendUndelivered : ((st.setStatus owner .blockedSuspend).onProc fun proc =>
      proc.tryScheduleAndSwitch e.platform e.root core).Post (fun _ => Coherent s)
        (fun _ => Coherent s) := by
  have hsuspended : Placed s (some core) none (st.setStatus owner .blockedSuspend)
      (update place owner .parked) := by
    apply (h.setStatus .blockedSuspend (.inl howner)).relabel
    · rw [howner]
      trivial
    · trivial
    · exact fun _ => .inr (by simp)
    · simp
  apply onProc_post
  exact (hsuspended.reschedule hs (.inl rfl) (hothers.update (by simp))).mono (fun _ _ hc => hc)
    fun _ _ hfalse => hfalse.elim

end

theorem suspendStranded (h : Placed s none none st place) (hs : s.Admits e) (hlax : s.lax = true)
    (harrived : Arrived place) (howner : place owner = .reply) {handler : ProcessId}
    (hhandler : place handler = .current core)
    (hfault : (st.contexts owner).faultReason ≠ .none) :
    ((st.setStatus owner .blockedSuspend).onProc fun proc =>
      proc.tryScheduleAndSwitch e.platform e.root core).Post (fun _ => Coherent s)
        (fun _ => Coherent s) := by
  have hfits := h.fits owner (by simp)
  rw [howner] at hfits
  have hsuspended : Placed s none none (st.setStatus owner .blockedSuspend) place := by
    apply ((h.openHole owner).setStatus .blockedSuspend (.inr rfl)).closeHole
    rw [howner]
    exact ⟨hfits.1, .inr ⟨hfault, .inr ⟨hlax, by simp⟩⟩⟩
  obtain ⟨hready, hclean, -⟩ := hsuspended.running hhandler
  have hloose : Placed s (some core) none (st.setStatus owner .blockedSuspend)
      (update (update place handler .moving) handler .loose) := by
    apply (hsuspended.leave hhandler).relabel
    · rw [update_self]
      trivial
    · trivial
    · exact fun _ => ⟨hlax, hready, hclean⟩
    · simp
  apply onProc_post
  apply (hloose.reschedule hs (.inl rfl) _).mono (fun _ _ hc => hc) fun _ _ hfalse => hfalse.elim
  exact (harrived.update handler _).update (by simp)

theorem handleFault (h : Placed s none none st place) (hs : s.Admits e) (harrived : Arrived place)
    (honline : (st.proc.cpus e.core).currentProcess ≠ none) {type : FaultType}
    (htype : type ≠ .none) (code archCode address : Word) :
    Safe s st.failedTransfers (st.handleFault e type code archCode address) := by
  unfold SystemState.handleFault
  by_cases hidle : (st.proc.cpus e.core).isIdle = true
  · rw [if_pos hidle]
    exact (h.coherent harrived).safe
  rw [if_neg hidle]
  cases hcurrent : (st.proc.cpus e.core).currentProcess with
  | none => exact absurd hcurrent honline
  | some owner =>
    have howner : place owner = .current e.core :=
      (h.current_cases hcurrent).resolve_right fun hfalse => hidle hfalse.2
    obtain ⟨-, -, haffinity⟩ := h.running howner
    have hgone := update_self owner Place.moving place
    have hfaulted := (h.leave howner).modifyContext owner
      (fun context => { context with faultReason := type, faultCode := code,
                                     archFaultCode := archCode, faultAddress := address })
      rfl rfl rfl fun _ => by
        rw [hgone]
        trivial
    have hothers : ArrivedBut owner (update place owner .moving) := harrived.update owner _
    dsimp only
    unfold SystemState.deliverFault
    cases e.resolver owner with
    | none =>
      apply (Outcome.Post.state (Q := fun _ => Coherent s) (E := fun _ => Coherent s) _
        (fun _ _ hc => hc) fun _ _ hc => hc).safe
      exact hfaulted.suspendUndelivered hs hgone hothers
    | some self =>
      have hcall := hfaulted.operationFaultCall hs hgone hothers haffinity
        (by simpa [modifyContext_contexts] using htype) self
      apply (Outcome.Post.orElse (Q := fun _ => Safe s st.failedTransfers)
        (E := fun _ st1 => ∃ st2, st1 = st2.setStatus owner .blockedSuspend ∧
          (st2.failedTransfers = st.failedTransfers → Undelivered s e.core owner st2))
        (F := fun _ => Safe s st.failedTransfers) _ _).state (fun _ _ hc => hc)
          fun _ _ hc => hc
      · exact hcall.orElse fun _ st2 hundelivered => ⟨st2, rfl, hundelivered⟩
      · rintro _ _ ⟨st2, rfl, hundelivered⟩
        by_cases hcount : st2.failedTransfers = st.failedTransfers
        · rcases hundelivered hcount with ⟨place', howner', hothers', hplaced⟩ |
            ⟨hlax, place', handler, howner', hhandler, harrived', hfault, hplaced⟩
          · exact (hplaced.suspendUndelivered hs howner' hothers').mono
              (fun _ _ hc => hc.safe) fun _ _ hc => hc.safe
          · exact (hplaced.suspendStranded hs hlax harrived' howner' hhandler hfault).mono
              (fun _ _ hc => hc.safe) fun _ _ hc => hc.safe
        · exact Outcome.post_of_state (P := Safe s st.failedTransfers)
            fun heq => absurd heq hcount

/-! ## System calls -/

theorem alike_reportResult (owner : ProcessId) (o : Outcome CapabilityError SystemState Unit) :
    Alike o.state (SystemState.reportResult e owner o) := by
  unfold SystemState.reportResult
  split
  · exact (Alike.refl _).configureMessageRegister _ _ _
  · exact ((Alike.refl _).configureMessageRegister _ _ _).configureMessageRegister _ _ _

theorem safe_reportResult {o : Outcome CapabilityError SystemState Unit} (owner : ProcessId)
    (h : Safe s n o.state) : Safe s n (SystemState.reportResult e owner o) := by
  intro hcount
  have halike := alike_reportResult (e := e) owner o
  obtain ⟨place, hplaced, harrived⟩ := h (halike.failedTransfers ▸ hcount)
  exact (hplaced.alike halike).coherent harrived


end Placed

end A9N.Kernel.SystemState
