import A9N.Kernel.Ipc.WaitQueues

/-!
# Replies and switches

The steps that involve two processes or a core: linking a caller to its server, answering it,
waking a process on its core, and giving a core its next process.
-/

namespace A9N.Kernel

open Hal ProcState Function

def IpcContext.unreplied (context : IpcContext) : IpcContext :=
  { context with sourceReplyState := .none, destinationReplyState := .none,
                 sourceReplyTarget := none, destinationReplyTarget := none }

/-! ## Two fields that point to each other -/

section Dual

variable {source target : ProcessId → Option ProcessId} {server client : ProcessId}

theorem dual_link (hdual : ∀ c sv, source c = some sv ↔ target sv = some c)
    (hsource : source client = none) (htarget : target server = none) (c sv : ProcessId) :
    (if c = client then some server else source c) = some sv ↔
      (if sv = server then some client else target sv) = some c := by
  have hclient := hdual client sv
  have hserver := hdual c server
  have hother := hdual c sv
  by_cases hc : c = client <;> by_cases hs : sv = server <;> simp_all [eq_comm]

theorem dual_unlink (hdual : ∀ c sv, source c = some sv ↔ target sv = some c)
    (hsource : source client = some server) (c sv : ProcessId) :
    (if c = client then none else source c) = some sv ↔
      (if sv = server then none else target sv) = some c := by
  by_cases hc : c = client <;> by_cases hs : sv = server
  · simp [hc, hs]
  · rw [if_pos hc, if_neg hs, ← hdual, hc, hsource]
    simp [Ne.symm hs]
  · rw [if_neg hc, if_pos hs, hdual, hs, (hdual client server).mp hsource]
    simp [Ne.symm hc]
  · rw [if_neg hc, if_neg hs, hdual]

end Dual

namespace SystemState

/-! ## Reply links -/

section Replies

variable (server client other : ProcessId) (st : SystemState)

theorem linkReply_unreplied :
    ((st.linkReply server client).contexts other).unreplied = (st.contexts other).unreplied := by
  unfold linkReply
  simp only [modifyContext_contexts]
  by_cases hc : other = client <;> by_cases hs : other = server <;> by_cases hcs : client = server <;>
    simp_all [IpcContext.unreplied]

theorem unlinkReply_unreplied :
    ((st.unlinkReply server client).contexts other).unreplied = (st.contexts other).unreplied := by
  unfold unlinkReply
  simp only [modifyContext_contexts]
  by_cases hc : other = client <;> by_cases hs : other = server <;> by_cases hcs : server = client <;>
    simp_all [IpcContext.unreplied]

theorem linkReply_faultReason :
    ((st.linkReply server client).contexts other).faultReason = (st.contexts other).faultReason := by
  have h := linkReply_unreplied server client other st
  simp only [IpcContext.unreplied, IpcContext.mk.injEq] at h
  exact h.1

theorem unlinkReply_faultReason : ((st.unlinkReply server client).contexts other).faultReason =
      (st.contexts other).faultReason := by
  have h := unlinkReply_unreplied server client other st
  simp only [IpcContext.unreplied, IpcContext.mk.injEq] at h
  exact h.1

variable {server client} in
theorem linkReply_fields (hne : server ≠ client) :
    (∀ other, ((st.linkReply server client).contexts other).sourceReplyTarget =
      if other = client then some server else (st.contexts other).sourceReplyTarget) ∧
    (∀ other, ((st.linkReply server client).contexts other).destinationReplyTarget =
      if other = server then some client else (st.contexts other).destinationReplyTarget) ∧
    (∀ other, ((st.linkReply server client).contexts other).destinationReplyState =
      if other = server then .readyToReply else (st.contexts other).destinationReplyState) ∧
    ∀ other, ((st.linkReply server client).contexts other).sourceReplyState =
      (st.contexts other).sourceReplyState := by
  unfold linkReply
  simp only [modifyContext_contexts]
  refine ⟨fun other => ?_, fun other => ?_, fun other => ?_, fun other => ?_⟩ <;>
    by_cases hc : other = client <;> by_cases hs : other = server <;>
    simp_all [Ne.symm hne]

variable {server client} in
theorem unlinkReply_fields (hne : server ≠ client) :
    (∀ other, ((st.unlinkReply server client).contexts other).sourceReplyTarget =
      if other = client then none else (st.contexts other).sourceReplyTarget) ∧
    (∀ other, ((st.unlinkReply server client).contexts other).destinationReplyTarget =
      if other = server then none else (st.contexts other).destinationReplyTarget) ∧
    (∀ other, ((st.unlinkReply server client).contexts other).destinationReplyState =
      if other = server then .none else (st.contexts other).destinationReplyState) ∧
    ∀ other, other ≠ client → ((st.unlinkReply server client).contexts other).sourceReplyState =
      (st.contexts other).sourceReplyState := by
  unfold unlinkReply
  simp only [modifyContext_contexts]
  refine ⟨fun other => ?_, fun other => ?_, fun other => ?_, fun other hother => ?_⟩ <;>
    by_cases hc : other = client <;> by_cases hs : other = server <;>
    simp_all [Ne.symm hne]

theorem forgetClient_contexts (id : ProcessId) :
    (st.forgetClient client).contexts id =
      if (st.contexts client).sourceReplyTarget = some id ∧
          (st.contexts id).destinationReplyTarget = some client then
        { st.contexts id with destinationReplyTarget := none, destinationReplyState := .none }
      else st.contexts id := by
  unfold forgetClient
  cases hserver : (st.contexts client).sourceReplyTarget with
  | none => simp
  | some server =>
    by_cases hid : id = server
    · subst hid
      dsimp only
      split <;> simp_all [modifyContext_contexts]
    · have hne : ¬ server = id := fun heq => hid heq.symm
      dsimp only
      split <;> simp [modifyContext_contexts, hid, hne]

theorem dropReply_frame : (st.dropReply client).proc = st.proc ∧
    (st.dropReply client).failedTransfers = st.failedTransfers := by
  unfold dropReply forgetClient
  split
  · split <;> exact ⟨rfl, rfl⟩
  · exact ⟨rfl, rfl⟩

theorem cancelReply_detach (e : Entry) :
    st.cancelReply e client false = .ok () (st.dropReply client) := rfl

variable {server client st} in
theorem dropReply_eq (hsource : (st.contexts client).sourceReplyTarget = some server)
    (htarget : (st.contexts server).destinationReplyTarget = some client) (hne : server ≠ client) :
    st.dropReply client = st.unlinkReply server client := by
  unfold dropReply forgetClient unlinkReply
  simp only [hsource, htarget, if_true]
  unfold modifyContext
  simp only [update_of_ne hne, update_of_ne hne.symm]
  rw [update_comm hne]

end Replies

namespace Placed

variable {s : Setting} {stale : Option Nat} {hole : Option ProcessId} {st st' : SystemState}
  {place : ProcessId → Place} {id client server : ProcessId}

theorem source_eq_none (h : Placed s stale hole st place) (hclient : place client ≠ .reply) :
    (st.contexts client).sourceReplyTarget = none := by
  by_contra hsome
  exact hclient ((h.replies.place client).mp hsome)

theorem replyMove (h : Placed s stale hole st place) {dest : Place} (hproc : st'.proc = st.proc)
    (hports : st'.ports = st.ports) (hnotifications : st'.notifications = st.notifications)
    (hcontext : ∀ other, (st'.contexts other).unreplied = (st.contexts other).unreplied)
    (hreplies : st'.RepliesMatch (update place client dest))
    (hfrom : place client = .moving ∨ place client = .reply)
    (hdest : dest = .moving ∨ dest = .reply)
    (hothers : ∀ other, other ≠ client →
      (st'.contexts other).sourceReplyState = (st.contexts other).sourceReplyState ∧
      ∀ port, place other = .ipc port →
        (st'.contexts other).destinationReplyState = (st.contexts other).destinationReplyState ∨
          (st'.contexts other).destinationReplyState = .none)
    (hfits : hole ≠ some client → st'.Fits s client dest) :
    Placed s stale hole st' (update place client dest) := by
  have hne : ∀ {at_ : Place}, ¬ (at_ = .moving ∨ at_ = .reply) → place client ≠ at_ ∧ dest ≠ at_ :=
    ne_of_kind (P := fun at_ => at_ = .moving ∨ at_ = .reply) hfrom hdest
  apply h.moveAmong (P := fun at_ => at_ = .moving ∨ at_ = .reply) hfrom hdest hproc (by simp)
  · exact (ipcPart_update h.ipc fun _ => hne (by simp)).congr
      (fun other => (congrArg IpcContext.ipcLinks (hcontext other) :)) hports fun _ _ => Iff.rfl
  · exact (notificationPart_update h.notification fun _ => hne (by simp)).congr
      (fun other => (congrArg IpcContext.notificationLinks (hcontext other) :))
      (by simp [hnotifications]) fun _ _ => Iff.rfl
  · exact hreplies
  · intro other hother hfit
    exact hfit.mono (by rw [hproc]) (by rw [hproc])
      (congrArg IpcContext.faultReason (hcontext other) :)
      (hothers other hother).1 fun port hport => ⟨by rw [hports], (hothers other hother).2 port hport⟩
  · exact hfits

theorem replies_update (h : st.RepliesMatch place) {dest : Place} {callee caller : Option ProcessId}
    {answer : DestinationReplyState}
    (hsource : ∀ c, (st'.contexts c).sourceReplyTarget =
      if c = client then callee else (st.contexts c).sourceReplyTarget)
    (htarget : ∀ sv, (st'.contexts sv).destinationReplyTarget =
      if sv = server then caller else (st.contexts sv).destinationReplyTarget)
    (hstate : ∀ sv, (st'.contexts sv).destinationReplyState =
      if sv = server then answer else (st.contexts sv).destinationReplyState)
    (hdual : ∀ c sv, (st'.contexts c).sourceReplyTarget = some sv ↔
      (st'.contexts sv).destinationReplyTarget = some c)
    (hcallee : callee ≠ none ↔ dest = .reply) (hcaller : answer = .none ↔ caller = none)
    (hself : callee ≠ some client) : st'.RepliesMatch (update place client dest) := by
  refine ⟨hdual, fun c => ?_, fun sv => ?_, fun c => ?_⟩
  · rw [hsource]
    by_cases hc : c = client
    · simpa [hc] using hcallee
    · rw [if_neg hc, update_of_ne hc, h.place c]
  · rw [hstate, htarget]
    by_cases hs : sv = server
    · simpa [hs] using hcaller
    · rw [if_neg hs, if_neg hs, h.answer]
  · rw [hsource]
    by_cases hc : c = client
    · simpa [hc] using hself
    · rw [if_neg hc]
      exact h.distinct c

theorem link (h : Placed s stale none st place) (hclient : place client = .moving)
    (hserver : ∀ port, place server ≠ .ipc port) (hne : server ≠ client)
    (hanswer : (st.contexts server).destinationReplyState = .none) :
    Placed s stale (some client) (st.linkReply server client) (update place client .reply) := by
  obtain ⟨hsource, htarget, hstate, hclientState⟩ := linkReply_fields st hne
  have hnot : place client ≠ .reply := by simp [hclient]
  have hfrom := h.source_eq_none hnot
  have hto := (h.replies.answer server).mp hanswer
  apply (h.openHole client).replyMove (by rfl) (by rfl) (by rfl)
  · exact fun other => linkReply_unreplied server client other st
  · apply replies_update h.replies hsource htarget hstate _ (by simp) (by simp) (by simp [hne])
    intro c sv
    rw [hsource, htarget]
    exact dual_link h.replies.dual hfrom hto c sv
  · exact .inl hclient
  · exact .inr rfl
  · intro other hother
    refine ⟨hclientState other, fun port hport => .inl ?_⟩
    rw [hstate, if_neg]
    rintro rfl
    exact hserver port hport
  · exact fun hhole => absurd rfl hhole

theorem unlink (h : Placed s stale hole st place)
    (htarget : (st.contexts server).destinationReplyTarget = some client) :
    Placed s stale hole (st.unlinkReply server client) (update place client .moving) := by
  have hfrom := (h.replies.dual client server).mpr htarget
  have hclient : place client = .reply := (h.replies.place client).mp (by simp [hfrom])
  have hne : server ≠ client := by
    rintro rfl
    exact h.replies.distinct server hfrom
  obtain ⟨hsource, htarget', hstate, hclientState⟩ := unlinkReply_fields st hne
  apply h.replyMove (by rfl) (by rfl) (by rfl)
  · exact fun other => unlinkReply_unreplied server client other st
  · apply replies_update h.replies hsource htarget' hstate _ (by simp) (by simp) (by simp)
    intro c sv
    rw [hsource, htarget']
    exact dual_unlink h.replies.dual hfrom c sv
  · exact .inr hclient
  · exact .inl rfl
  · intro other hother
    refine ⟨hclientState other hother, fun port _ => ?_⟩
    rw [hstate]
    by_cases hs : other = server <;> simp [hs]
  · exact fun _ => trivial

theorem dropReply (h : Placed s stale hole st place) (hclient : ∀ port, place client ≠ .ipc port) :
    Placed s stale hole (st.dropReply client)
      (if place client = .reply then update place client .moving else place) := by
  by_cases hreply : place client = .reply
  · rw [if_pos hreply]
    obtain ⟨server, hsource⟩ := Option.ne_none_iff_exists'.mp ((h.replies.place client).mpr hreply)
    have htarget := (h.replies.dual client server).mp hsource
    have hne : server ≠ client := by
      rintro rfl
      exact h.replies.distinct server hsource
    rw [dropReply_eq hsource htarget hne]
    exact h.unlink htarget
  · rw [if_neg hreply]
    have hsource := h.source_eq_none hreply
    unfold SystemState.dropReply forgetClient
    simp only [hsource]
    apply h.modifyContext client
    · rfl
    · rfl
    · simp [IpcContext.replyLinks, hsource]
    · intro hhole
      have hfit := h.fits client hhole
      cases hplace : place client <;> rw [hplace] at hfit <;>
        simp_all [Fits, modifyContext_contexts]

end Placed

/-! ## Cores and schedulers -/

theorem onProc_post {ε α : Type} {st : SystemState} {f : ProcState → Outcome ε ProcState α}
    {Q : α → SystemState → Prop} {E : ε → SystemState → Prop}
    (h : (f st.proc).Post (fun value proc => Q value { st with proc := proc })
      fun error proc => E error { st with proc := proc }) : (st.onProc f).Post Q E := by
  unfold onProc
  generalize f st.proc = outcome at h
  obtain ⟨_ | _, proc⟩ := outcome <;> exact h

end SystemState

structure Setting.Admits (s : Setting) (e : Entry) : Prop where
  platform : e.platform = s.platform
  root : e.root = s.root
  ipi : e.platform.smpEnabled = true → ∀ core, e.sendIpi core = true
  single : e.platform.smpEnabled = false → e.core = 0 ∧ e.coreCount ≤ 1

structure Kept (place place' : ProcessId → Place) : Prop where
  same : ∀ id, (∀ c p, place id ≠ .ready c p) → place' id = place id
  arrived : ∀ id c p, place id = .ready c p → place' id ≠ .moving

namespace Kept

variable {place place' place'' : ProcessId → Place}

theorem refl (place : ProcessId → Place) : Kept place place :=
  ⟨fun _ _ => rfl, fun id c p hid => by simp [hid]⟩

theorem update {id : ProcessId} {c p : Nat} (hid : place id = .ready c p) {dest : Place}
    (hdest : dest ≠ .moving) : Kept place (update place id dest) where
  same other hother := by
    apply update_of_ne
    rintro rfl
    exact hother c p hid
  arrived other c' p' hother := by
    by_cases heq : other = id
    · subst heq
      simpa using hdest
    · rw [update_of_ne heq, hother]
      simp

theorem settled (h : Kept place place') (hplace : ∀ id, place id ≠ .moving) (id : ProcessId) :
    place' id ≠ .moving := by
  by_cases hready : ∀ c p, place id ≠ .ready c p
  · rw [h.same id hready]
    exact hplace id
  · push Not at hready
    obtain ⟨c, p, hid⟩ := hready
    exact h.arrived id c p hid

end Kept

theorem markScheduled_status (p : Platform) (sendIpi : Nat → Bool) (current : ProcessId)
    {id other : ProcessId} (hne : other ≠ id) (proc : ProcState) :
    ((proc.markScheduled p sendIpi current id).state.processes other).status =
      (proc.processes other).status :=
  Touches.statusOf ((Touches.refl proc).markScheduled
    ⟨by simp [hne.symm], by simp [hne.symm], by simp⟩ (by simp) current)

theorem switchContext_succeeds {p : Platform} {root : ProcessId → Word} {core : Nat}
    {next : ProcessId} {proc : ProcState} (hroot : root next ≠ 0) :
    (switchContext p root core next proc).result = .ok () := by
  unfold switchContext
  rw [if_neg hroot]
  split_ifs <;> rfl

namespace SystemState.Placed

variable {s : Setting} {e : Entry} {stale : Option Nat} {hole : Option ProcessId}
  {st st' : SystemState} {place : ProcessId → Place} {id : ProcessId} {core : Nat}

section

variable (h : Placed s stale hole st place)
include h

theorem switchContext (p : Platform) (root : ProcessId → Word) (core : Nat) (next : ProcessId) :
    Placed s stale hole { st with proc := (Hal.switchContext p root core next st.proc).state }
      place := by
  obtain ⟨hprocesses, hcpus, hcount, -⟩ := switchContext_frame p root core next st.proc
  exact h.hardware hprocesses (by simp [hcpus]) hcount

theorem switchTo (hs : s.Admits e) (hfree : Free stale st core)
    (hid : place id = .moving) (hfits : hole ≠ some id → st.Fits s id (.current core)) :
    (st.proc.switchTo e.platform e.root core id).Post
      (fun _ proc => Placed s none hole { st with proc := proc } (update place id (.current core)))
      (fun _ proc => s.lax = true ∧ Placed s none hole { st with proc := proc }
        (update place id (.current core))) := by
  have hplaced := (h.dispatch hfree hid hfits).switchContext e.platform e.root core id
  unfold ProcState.switchTo
  by_cases hlax : s.lax = true
  · exact (Outcome.post_of_state (P := fun proc => Placed s none hole { st with proc := proc }
      (update place id (.current core))) hplaced).mono (fun _ _ hp => hp)
        fun _ _ hp => ⟨hlax, hp⟩
  · have hroot : e.root id ≠ 0 := by
      rw [hs.root]
      exact h.rooted (by simpa using hlax) id (by simp [hid])
    unfold Outcome.Post
    rw [switchContext_succeeds hroot]
    exact hplaced

theorem isIdle_of_free (hfree : Free stale st core) :
    (stale = none ∧ (st.proc.cpus core).isIdle = true) ∨
      (stale = some core ∧ (st.proc.cpus core).isIdle = false) := by
  have hholds := h.cores core
  unfold CoreHolds at hholds
  rcases hfree with rfl | ⟨rfl, other, hcurrent⟩
  · cases hcurrent : (st.proc.cpus core).currentProcess with
    | none => simp [hcurrent] at hholds
    | some current =>
      cases current with
      | idle other => simp [hcurrent] at hholds
      | user address =>
        rw [hcurrent] at hholds
        exact .inr ⟨rfl, hholds.1⟩
  · rw [hcurrent] at hholds
    exact .inl ⟨rfl, hholds.2.1⟩

theorem switchToIdle (hs : s.Admits e) (hfree : Free stale st core) :
    (st.proc.switchToIdle e.platform e.root core).Post
      (fun _ proc => Placed s none hole { st with proc := proc } place) (fun _ _ => False) := by
  unfold ProcState.switchToIdle
  rcases h.isIdle_of_free hfree with ⟨rfl, hidle⟩ | ⟨rfl, hidle⟩
  · rw [if_pos hidle]
    exact h
  · have hroot : e.root (.idle core) ≠ 0 := by
      rw [hs.root]
      exact h.idleRoot core
    rw [if_neg (by simp [hidle])]
    apply Outcome.Post.andThen
      (Q := fun _ proc => Placed s (some core) hole { st with proc := proc } place)
    · apply Outcome.Post.transformError
      unfold Outcome.Post
      rw [switchContext_succeeds hroot]
      exact h.switchContext _ _ _ _
    · exact fun _ proc hproc => hproc.toIdle

end

/-- What is left for `switch_to_idle` when no process could be switched to. -/
def Idleable (s : Setting) (hole : Option ProcessId) (place : ProcessId → Place) (core : Nat)
    (st : SystemState) : Prop :=
  ∃ stale place', Kept place place' ∧ Placed s stale hole st place' ∧ Free stale st core

section

variable (h : Placed s stale hole st place) (hs : s.Admits e) (hfree : Free stale st core)
include h hs hfree

theorem trySchedule : (st.proc.trySchedule e.platform e.root core).Post
      (fun _ proc => ∃ place', Kept place place' ∧
        Placed s none hole { st with proc := proc } place')
      (fun _ proc => Idleable s hole place core { st with proc := proc }) := by
  unfold ProcState.trySchedule
  apply Outcome.Post.andThen
  · apply Outcome.Post.transformError
    apply (h.schedule core).mono (fun _ _ hnext => hnext)
    rintro _ proc ⟨rfl, -⟩
    exact ⟨stale, place, Kept.refl place, h, hfree⟩
  · rintro next proc ⟨⟨p, hnext⟩, honly, hplaced⟩
    have hfree' : Free stale { st with proc := proc } core := by
      unfold Free
      rwa [honly.currentProcess core]
    have hfits := h.fits_current hnext honly
    apply (hplaced.switchTo hs hfree' (by simp) hfits).mono
    · intro _ proc' hproc
      rw [update_idem] at hproc
      exact ⟨_, Kept.update hnext (by simp), hproc⟩
    · -- the process is left READY on no queue, and the core is free again
      rintro _ proc' ⟨hlax, hproc⟩
      rw [update_idem] at hproc
      have hcurrent : update place next (.current core) next = .current core := update_self ..
      have hleft := hproc.leave hcurrent
      rw [update_idem] at hleft
      refine ⟨some core, update place next .loose, Kept.update hnext (by simp), ?_, .inl rfl⟩
      rw [← update_idem .moving]
      apply hleft.relabel
      · simp [Place.Unlisted]
      · trivial
      · intro hhole
        have hfit := hproc.fits next hhole
        simp only [update_self] at hfit
        exact ⟨hlax, hfit.1, hfit.2.1⟩
      · simp

theorem tryScheduleAndSwitch : (st.proc.tryScheduleAndSwitch e.platform e.root core).Post
      (fun _ proc => ∃ place', Kept place place' ∧
        Placed s none hole { st with proc := proc } place') (fun _ _ => False) := by
  unfold ProcState.tryScheduleAndSwitch
  apply Outcome.Post.transformError
  apply (h.trySchedule hs hfree).orElse
  rintro _ proc ⟨stale', place', hkept, hplaced, hfree'⟩
  apply Outcome.Post.transformError
  exact (hplaced.switchToIdle hs hfree').mono (fun _ _ hproc => ⟨place', hkept, hproc⟩)
    fun _ _ hfalse => hfalse

end

/-! ## Waking a process -/

theorem addProcess (h : Placed s stale hole st place) (core : Nat) (hid : place id = .moving)
    (hready : (st.proc.processes id).status = .ready)
    (hfits : hole ≠ some id → st.Fits s id (.current core)) :
    st.proc.addProcess core id = .ok () (st.proc.enqueue core id) ∧
      Placed s stale hole { st with proc := st.proc.enqueue core id }
        (update place id (.ready core (st.proc.processes id).priority.toNat)) := by
  refine ⟨?_, h.enqueue hid hfits⟩
  have hout : ∀ c p, place id ≠ .ready c p := by simp [hid]
  have hflag := h.not_flagged hout
  have hpriority := h.priority id
  obtain ⟨ready, hqueues, -⟩ := h.ready
  obtain ⟨hnext, hpreview⟩ := hqueues.loose id hflag
  rw [addProcess_eq, if_neg (by simp [hready]), if_neg (by omega),
    if_neg (by simp [hflag, hnext, hpreview])]

theorem markScheduledOn (h : Placed s stale hole st place) (hid : place id = .moving)
    (hfault : (st.contexts id).faultReason = .none)
    (haffinity : st.proc.affinity s.platform id = core) :
    (st.proc.markScheduledOn core id).Post
      (fun _ proc => ∃ p, Placed s stale hole { st with proc := proc }
        (update place id (.ready core p))) (fun _ _ => False) := by
  have hne : id ≠ .idle core := by
    rintro rfl
    rw [(h.idle _).mpr ⟨core, rfl⟩] at hid
    cases hid
  unfold ProcState.markScheduledOn
  dsimp only
  rw [if_neg hne]
  have hquantum := h.modifyProcess id (fun process => { process with quantum := quantumMax })
    (fun _ => ⟨rfl, rfl, rfl, rfl, rfl⟩) fun _ => by rw [hid]; trivial
  have hready := hquantum.setStatus .ready (.inl hid)
  obtain ⟨hadd, hplaced⟩ := hready.addProcess core hid
    (by simp [SystemState.setStatus, SystemState.modifyProcess, modifyProcess_processes])
    fun _ => ⟨by simp [SystemState.setStatus, SystemState.modifyProcess, modifyProcess_processes],
      hfault, by
        rw [← haffinity]
        simp [SystemState.setStatus, SystemState.modifyProcess, ProcState.affinity,
          modifyProcess_processes]⟩
  simp only [SystemState.setStatus, SystemState.modifyProcess] at hadd
  rw [hadd]
  exact ⟨_, hplaced⟩

theorem markScheduledOn_ready (h : Placed s stale none st place) {p : Nat}
    (hid : place id = .ready core p) :
    (st.proc.markScheduledOn core id).Post
      (fun _ proc => Placed s stale none { st with proc := proc } place) (fun _ _ => False) := by
  have hne : id ≠ .idle core := by
    rintro rfl
    rw [(h.idle _).mpr ⟨core, rfl⟩] at hid
    cases hid
  have hfit := h.fits id (by simp)
  rw [hid] at hfit
  unfold ProcState.markScheduledOn
  dsimp only
  rw [if_neg hne]
  have hquantum := h.modifyProcess id (fun process => { process with quantum := quantumMax })
    (fun _ => ⟨rfl, rfl, rfl, rfl, rfl⟩) fun _ => by
      rw [hid]
      refine Fits.congr hfit ?_ ?_ rfl fun _ _ => rfl <;>
        simp [SystemState.modifyProcess, modifyProcess_processes]
  have hready := hquantum.modifyProcess id (fun process => { process with status := .ready })
    (fun _ => ⟨rfl, rfl, rfl, rfl, rfl⟩) fun _ => by
      rw [hid]
      refine Fits.congr hfit ?_ ?_ rfl fun _ _ => rfl <;>
        simp [SystemState.modifyProcess, modifyProcess_processes, hfit.1]
  have hflag := hready.flagged hid
  have hpriority := hready.priority id
  simp only [SystemState.modifyProcess] at hready hflag hpriority
  rw [addProcess_eq, if_neg (by simp [modifyProcess_processes]), if_neg (by omega),
    if_pos (.inl hflag)]
  exact hready

theorem markScheduledOn_idle (h : Placed s stale none st place) (core : Nat) :
    (st.proc.markScheduledOn core (.idle core)).Post
      (fun _ proc => Placed s stale none { st with proc := proc } place) (fun _ _ => False) := by
  have hid : place (.idle core) = .idle := (h.idle _).mpr ⟨core, rfl⟩
  unfold ProcState.markScheduledOn
  dsimp only
  rw [if_pos rfl]
  have hquantum := h.modifyProcess (.idle core)
    (fun process => { process with quantum := quantumMax }) (fun _ => ⟨rfl, rfl, rfl, rfl, rfl⟩)
    fun _ => by
      have hfit := h.fits (.idle core) (by simp)
      rw [hid] at hfit ⊢
      simpa [Fits, SystemState.modifyProcess, modifyProcess_processes] using hfit
  exact hquantum.modifyProcess (.idle core) (fun process => { process with status := .idle })
    (fun _ => ⟨rfl, rfl, rfl, rfl, rfl⟩) fun _ => by
      rw [hid]
      simp [Fits, SystemState.modifyProcess, modifyProcess_processes]

theorem signalRemote (h : Placed s stale hole st place) (hs : s.Admits e)
    (hsmp : e.platform.smpEnabled = true) (core : Nat) (id : ProcessId) :
    (st.proc.signalRemote e.platform e.sendIpi core id).Post
      (fun _ proc => Placed s stale hole { st with proc := proc } place) (fun _ _ => False) := by
  unfold ProcState.signalRemote rescheduleCore
  simp only [hsmp, hs.ipi hsmp, if_true]
  rw [Outcome.post_ok]
  refine h.hardware (by rfl) (fun other => ?_) (by rfl)
  by_cases hother : other = core <;> simp [modifyCpu, hother]

theorem markScheduled (h : Placed s stale hole st place) (hs : s.Admits e)
    (hid : place id = .moving) (hfault : (st.contexts id).faultReason = .none)
    (current : ProcessId) :
    (st.proc.markScheduled e.platform e.sendIpi current id).Post
      (fun _ proc => ∃ c p, Placed s stale hole { st with proc := proc }
        (update place id (.ready c p))) (fun _ _ => False) := by
  unfold ProcState.markScheduled
  apply (h.markScheduledOn hid hfault (by rw [hs.platform])).andThen
  rintro _ proc ⟨p, hplaced⟩
  split_ifs with hremote
  · exact (hplaced.signalRemote hs hremote.1 _ _).mono (fun _ _ hproc => ⟨_, p, hproc⟩)
      fun _ _ hfalse => hfalse
  · exact ⟨_, p, hplaced.hardware (by rfl) (fun _ => ⟨rfl, rfl, rfl⟩) (by rfl)⟩

theorem current_cases (h : Placed s none hole st place) {current : ProcessId}
    (hcurrent : (st.proc.cpus core).currentProcess = some current) :
    place current = .current core ∨ (current = .idle core ∧ (st.proc.cpus core).isIdle = true) := by
  have hholds := h.cores core
  unfold CoreHolds at hholds
  rw [hcurrent] at hholds
  cases current with
  | idle other =>
    obtain ⟨rfl, hidle, -⟩ := hholds
    exact .inr ⟨rfl, hidle⟩
  | user address => exact .inl (hholds.2.resolve_left (by simp))

theorem busy (h : Placed s none hole st place) (hid : place id = .current core) :
    (st.proc.cpus core).currentProcess = some id ∧ (st.proc.cpus core).isIdle = false := by
  have hcurrent := (h.current id core hid).1
  have hholds := h.cores core
  unfold CoreHolds at hholds
  rw [hcurrent] at hholds
  cases id with
  | idle other =>
    rw [(h.idle _).mpr ⟨other, rfl⟩] at hid
    cases hid
  | user address => exact ⟨hcurrent, hholds.1⟩

theorem idle_status (h : Placed s stale none st place) (core : Nat) :
    (st.proc.processes (.idle core)).status = .idle := by
  have hfit := h.fits (.idle core) (by simp)
  rw [(h.idle _).mpr ⟨core, rfl⟩] at hfit
  exact hfit

theorem scheduleIfPreemptedBy (h : Placed s none none st place) (hs : s.Admits e) (core : Nat)
    (target : ProcessId) :
    (st.proc.scheduleIfPreemptedBy e.platform e.root core target).Post
      (fun _ proc => ∃ place', ((∀ id, place id ≠ .moving) → ∀ id, place' id ≠ .moving) ∧
        Placed s none none { st with proc := proc } place')
      (fun _ proc => proc = st.proc) := by
  unfold ProcState.scheduleIfPreemptedBy
  split
  · exact rfl
  next current hcurrent =>
    split_ifs with hpriority hready
    · exact ⟨place, fun hplace => hplace, h⟩
    · have hplace : place current = .current core := by
        rcases h.current_cases hcurrent with hplace | ⟨rfl, -⟩
        · exact hplace
        · rw [h.idle_status] at hready
          cases hready
      have hfit := h.fits current (by simp)
      rw [hplace] at hfit
      obtain ⟨hadd, hplaced⟩ := (h.leave hplace).addProcess core (by simp) hready
        fun _ => hfit
      rw [hadd, update_idem] at *
      apply ((hplaced.tryScheduleAndSwitch hs (show Free (some core) _ core from .inl rfl)).mono _ fun _ _ h => h.elim)
      rintro _ proc ⟨place', hkept, hproc⟩
      refine ⟨place', fun hsettled => hkept.settled fun id => ?_, hproc⟩
      by_cases hid : id = current
      · simp [hid]
      · rw [update_of_ne hid]
        exact hsettled id
    · have hfree : Free none st core := by
        rcases h.current_cases hcurrent with hplace | ⟨rfl, -⟩
        · have hfit := h.fits current (by simp)
          rw [hplace] at hfit
          exact absurd hfit.1 hready
        · exact .inr ⟨rfl, core, hcurrent⟩
      apply ((h.tryScheduleAndSwitch hs hfree).mono _ fun _ _ h => h.elim)
      rintro _ proc ⟨place', hkept, hproc⟩
      exact ⟨place', hkept.settled, hproc⟩

/-! ## Direct switches -/

theorem tryDirectSchedule (h : Placed s stale hole st place) (hid : place id = .moving)
    (hready : (st.proc.processes id).status = .ready)
    (hfits : hole ≠ some id → st.Fits s id (.current core)) :
    (st.proc.tryDirectSchedule core id).Post
      (fun next proc => ∃ p p', update place id (.ready core p) next = .ready core p' ∧
        (∀ c, (proc.cpus c).currentProcess = (st.proc.cpus c).currentProcess) ∧
        Placed s stale hole { st with proc := proc }
          (update (update place id (.ready core p)) next .moving) ∧
        (hole ≠ some next → Fits s { st with proc := proc } next (.current core)))
      (fun _ _ => False) := by
  have hpriority := h.priority id
  unfold ProcState.tryDirectSchedule
  dsimp only
  rw [if_neg (by omega)]
  generalize st.proc.directBound core (st.proc.processes id).priority = bound
  have honly := (SchedulerOnly.refl st.proc).setHighestPriority core bound
  have hbound := h.setHighestPriority core bound
  have hfits' : hole ≠ some id →
      Fits s { st with proc := st.proc.setHighestPriority core bound } id (.current core) :=
    fun hhole => (hfits hhole).congr rfl rfl rfl fun _ _ => rfl
  split_ifs with hbetter hstatus hflag
  · exact absurd hready hstatus
  · -- a better process may be ready: the target goes through its queue
    obtain ⟨hadd, hplaced⟩ := hbound.addProcess core hid hready hfits'
    have honly' := honly.trans (SchedulerOnly.enqueue _ core id)
    dsimp only at hadd
    rw [hadd, Outcome.andThen_ok]
    apply (hplaced.schedule core).mono
    · rintro next proc ⟨⟨p', hnext⟩, hsched, hproc⟩
      refine ⟨_, p', hnext, fun c => ?_, hproc, hplaced.fits_current hnext hsched⟩
      rw [hsched.currentProcess c, honly'.currentProcess c]
    · rintro _ proc ⟨-, hempty⟩
      have hlow := hempty id _ (update_self _ _ _)
      dsimp only at hlow
      rw [enqueue_highestPriority, if_pos rfl] at hlow
      have hle := le_max_right ((st.proc.setHighestPriority core bound).highestPriority core)
        ((st.proc.setHighestPriority core bound).processes id).priority
      simp only [setHighestPriority_processes] at hlow hle
      omega
  · have hout : ∀ c p, place id ≠ .ready c p := by simp [hid]
    have hunflagged := h.not_flagged hout
    rw [hunflagged] at hflag
    cases hflag
  · refine ⟨0, 0, by simp, honly.currentProcess, ?_, hfits'⟩
    have hsame : update (update place id (.ready core 0)) id .moving = place := by
      rw [update_idem, ← hid, update_eq_self]
    rw [hsame]
    exact hbound

theorem tryDirectScheduleAndSwitchLocal (h : Placed s stale hole st place) (hs : s.Admits e)
    (hfree : Free stale st core) (hid : place id = .moving)
    (hready : (st.proc.processes id).status = .ready)
    (hfits : hole ≠ some id → st.Fits s id (.current core)) :
    (st.proc.tryDirectScheduleAndSwitchLocal e.platform e.root core id).Post
      (fun _ proc => ∃ p place', Kept (update place id (.ready core p)) place' ∧
        Placed s none hole { st with proc := proc } place')
      (fun _ proc => s.lax = true ∧ ∃ p place', Kept (update place id (.ready core p)) place' ∧
          (∃ next, place' next = .current core) ∧
            Placed s none hole { st with proc := proc } place') := by
  unfold ProcState.tryDirectScheduleAndSwitchLocal
  apply Outcome.Post.transformError
  apply Outcome.Post.andThen
  · apply Outcome.Post.transformError
    exact (h.tryDirectSchedule hid hready hfits).mono (fun _ _ hnext => hnext)
      fun _ _ hfalse => hfalse.elim
  · rintro next proc ⟨p, p', hnext, hcurrent, hplaced, hnextFits⟩
    have hfree' : Free stale { st with proc := proc } core := by
      unfold Free
      rwa [hcurrent core]
    apply (hplaced.switchTo hs hfree' (by simp) hnextFits).mono
    · intro _ proc' hproc
      rw [update_idem] at hproc
      exact ⟨p, _, Kept.update hnext (by simp), hproc⟩
    · rintro _ proc' ⟨hlax, hproc⟩
      rw [update_idem] at hproc
      exact ⟨hlax, p, _, Kept.update hnext (by simp), ⟨next, update_self ..⟩, hproc⟩

theorem tryDirectScheduleAndSwitch (h : Placed s (some core) hole st place) (hs : s.Admits e)
    (hid : place id = .moving) (hready : (st.proc.processes id).status = .ready)
    (hfault : (st.contexts id).faultReason = .none) {current : ProcessId}
    (hcurrent : st.proc.affinity s.platform current = core) :
    (st.proc.tryDirectScheduleAndSwitch e.platform e.root e.sendIpi current id).Post
      (fun _ proc => ∃ c p place', Kept (update place id (.ready c p)) place' ∧
        Placed s none hole { st with proc := proc } place')
      (fun _ proc => s.lax = true ∧ ∃ c p place', Kept (update place id (.ready c p)) place' ∧
          (∃ next, place' next = .current core) ∧
            Placed s none hole { st with proc := proc } place') := by
  unfold ProcState.tryDirectScheduleAndSwitch
  dsimp only
  rw [hs.platform, hcurrent]
  split_ifs with hsame
  · rw [← hs.platform]
    apply (h.tryDirectScheduleAndSwitchLocal hs (.inl rfl) hid hready
      fun _ => ⟨hready, hfault, hsame⟩).mono
    · rintro _ proc ⟨p, place', hplaced⟩
      exact ⟨core, p, place', hplaced⟩
    · rintro _ proc ⟨hlax, p, place', hplaced⟩
      exact ⟨hlax, core, p, place', hplaced⟩
  · have hsmp : e.platform.smpEnabled = true := by
      by_contra hsingle
      rw [hs.platform] at hsingle
      apply hsame
      rw [← hcurrent]
      unfold ProcState.affinity
      rw [if_neg hsingle, if_neg hsingle]
    rw [← hs.platform]
    have hmarked := h.markScheduledOn hid hfault
      (show st.proc.affinity s.platform id = st.proc.affinity e.platform id by rw [hs.platform])
    apply Outcome.Post.andThen (Q := fun _ proc => ∃ c p, Placed s (some core) hole
      { st with proc := proc } (update place id (.ready c p)))
    · apply (hmarked.mono (fun _ _ hm => hm) fun _ _ hfalse => hfalse.elim).andThen
      rintro _ proc ⟨p, hplaced⟩
      exact (hplaced.signalRemote hs hsmp _ _).mono (fun _ _ hproc => ⟨_, p, hproc⟩)
        fun _ _ hfalse => hfalse.elim
    · rintro _ proc ⟨c, p, hplaced⟩
      apply (hplaced.tryScheduleAndSwitch hs (show Free (some core) _ core from .inl rfl)).mono
      · rintro _ proc' ⟨place', hkept, hproc⟩
        exact ⟨c, p, place', hkept, hproc⟩
      · exact fun _ _ hfalse => hfalse.elim

theorem markScheduledWithPreemption (h : Placed s none none st place) (hs : s.Admits e)
    (hid : place id = .moving) (hfault : (st.contexts id).faultReason = .none)
    (current : ProcessId) :
    (st.proc.markScheduledWithPreemption e.platform e.root e.sendIpi current id).Post
      (fun _ proc => ∃ place', ((∀ other, other ≠ id → place other ≠ .moving) →
        ∀ other, place' other ≠ .moving) ∧ Placed s none none { st with proc := proc } place')
      (fun _ proc => ∃ place', ((∀ other, other ≠ id → place other ≠ .moving) →
        ∀ other, place' other ≠ .moving) ∧ Placed s none none { st with proc := proc } place') := by
  have hsettled : ∀ c p, (∀ other, other ≠ id → place other ≠ .moving) →
      ∀ other, update place id (.ready c p) other ≠ .moving := by
    intro c p hothers other
    by_cases hother : other = id
    · simp [hother]
    · rw [update_of_ne hother]
      exact hothers other hother
  unfold ProcState.markScheduledWithPreemption
  apply ((h.markScheduledOn hid hfault (by rw [hs.platform])).mono (fun _ _ hm => hm)
    fun _ _ hfalse => hfalse.elim).andThen
  rintro _ proc ⟨p, hplaced⟩
  split_ifs with hremote
  · exact (hplaced.signalRemote hs hremote.1 _ _).mono (fun _ _ hproc => ⟨_, hsettled _ p, hproc⟩)
      fun _ _ hfalse => hfalse.elim
  · apply (hplaced.scheduleIfPreemptedBy hs _ id).mono
    · rintro _ proc' ⟨place', hkeeps, hproc⟩
      exact ⟨place', fun hothers => hkeeps (hsettled _ p hothers), hproc⟩
    · rintro _ proc' rfl
      exact ⟨_, hsettled _ p, hplaced⟩

end SystemState.Placed

end A9N.Kernel
