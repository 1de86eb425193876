import A9N.Kernel.Ipc.PortQueues

/-!
# Callers and servers

A caller and the server that owes it a reply point to each other, and the states on both sides say
so. A receiver that waits at a port owes nothing, so that the checks for a reply that is already
owed never find one.
-/

namespace A9N.Kernel

namespace SystemState

structure RepliesDual (st : SystemState) : Prop where
  dual : ∀ client server, (st.contexts client).sourceReplyTarget = some server ↔
    (st.contexts server).destinationReplyTarget = some client
  states : ∀ client server, (st.contexts client).sourceReplyTarget = some server →
    (st.contexts server).destinationReplyState = .readyToReply ∧
      (st.contexts client).sourceReplyState = .wait ∧
      ((st.proc.processes client).status = .blockedReply ∨
        (st.proc.processes client).status = .blockedFault)
  oneClient : ∀ client client' server, (st.contexts client).sourceReplyTarget = some server →
    (st.contexts client').sourceReplyTarget = some server → client = client'
  oneServer : ∀ client server server', (st.contexts server).destinationReplyTarget = some client →
    (st.contexts server').destinationReplyTarget = some client → server = server'
  receivers : ∀ id port, (st.contexts id).currentIpcPort = some port →
    (st.ports port).state = .readyToReceive → (st.contexts id).destinationReplyState = .none

/-- The three places that test for a reply that is already owed never find one: a receiver taken
from a port by CALL or by a fault, and the process that receives from a waiting sender in RECEIVE
and in REPLY_RECEIVE. -/
structure NeverOccupied (st : SystemState) : Prop where
  popped : ∀ port target st', (st.ports port).state = .readyToReceive →
    st.popIpcQueue port = .ok target st' → (st'.contexts target).destinationReplyState = .none
  receive : ∀ e owner st', st.discardReply e owner = .ok () st' →
    (st'.contexts owner).destinationReplyState = .none
  replyReceive : ∀ e owner info st', st.completeReply e true owner info = .ok () st' →
    (st'.contexts owner).destinationReplyState = .none

variable {m : Machine} {s : Setting} {e : Entry} {st : SystemState} {place : ProcessId → Place}

theorem Placed.repliesDual (h : Placed s none none st place) (hlax : s.lax = false) :
    st.RepliesDual where
  dual := h.replies.dual
  states client server hclient := by
    have hserver := (h.replies.dual client server).mp hclient
    have hreply := (h.replies.place client).mp (by simp [hclient])
    have hfits := h.fits client (by simp)
    rw [hreply] at hfits
    refine ⟨?_, hfits.1, ?_⟩
    · cases hstate : (st.contexts server).destinationReplyState with
      | readyToReply => rfl
      | none =>
        rw [(h.replies.answer server).mp hstate] at hserver
        cases hserver
    · exact hfits.2.imp_right fun hfault =>
        hfault.2.resolve_right fun hsuspended => by simp [hlax] at hsuspended
  oneClient client client' server hclient hclient' := by
    rw [h.replies.dual] at hclient hclient'
    exact Option.some.inj (hclient.symm.trans hclient')
  oneServer client server server' hserver hserver' := by
    rw [← h.replies.dual] at hserver hserver'
    exact Option.some.inj (hserver.symm.trans hserver')
  receivers id port hport hstate := by
    obtain ⟨waiting, -, -, hcurrent, -⟩ := h.ipc
    have hwaits := h.waits ((hcurrent id port).mp hport)
    rw [hstate] at hwaits
    exact hwaits.2.2

/-! ## The checks for a reply that is owed -/

def Answers (owner : ProcessId) (st : SystemState) : Prop :=
  (st.contexts owner).destinationReplyState = .none

theorem discardReply_answers (e : Entry) (owner : ProcessId) :
    (st.discardReply e owner).Post (fun _ => Answers owner) (fun _ _ => True) := by
  unfold discardReply
  split_ifs with hnone
  · exact hnone
  · apply Outcome.Post.andThen (Q := fun _ _ => True)
    · exact Outcome.post_of_state (P := fun _ => True) trivial
    · intro _ st' _
      simp [Answers, modifyContext_contexts]

theorem unlinkReply_answers (server client : ProcessId) :
    Answers server (st.unlinkReply server client) := by
  simp [Answers, unlinkReply, modifyContext_contexts]

theorem Answers.onProc {owner : ProcessId} (h : Answers owner st)
    (f : ProcState → Outcome KernelError ProcState Unit) (g : KernelError → CapabilityError) :
    ((st.onProc f).transformError g).Post (fun _ => Answers owner) (fun _ _ => True) := by
  apply (Outcome.post_of_state (P := Answers owner) _).mono (fun _ _ h => h) fun _ _ _ => trivial
  rw [Outcome.transformError_state]
  exact h

theorem replyTo_answers (e : Entry) (owner client : ProcessId) (info : Word) :
    (st.replyTo e true owner client info).Post (fun _ => Answers owner) (fun _ _ => True) := by
  have htrivial : ∀ o : Outcome CapabilityError SystemState Unit,
      o.Post (fun _ _ => True) (fun _ _ => True) :=
    fun o => Outcome.post_of_state (P := fun _ => True) trivial
  unfold replyTo
  by_cases hfault : (st.contexts client).faultReason ≠ .none
  · rw [if_pos hfault]
    apply (htrivial _).andThen
    intro _ st1 _
    apply Answers.onProc
    have hanswers : Answers owner ((st1.setStatus client .ready).unlinkReply owner client) :=
      unlinkReply_answers owner client
    unfold Answers at hanswers ⊢
    rw [modifyContext_contexts]
    split_ifs with heq
    · subst heq
      exact hanswers
    · exact hanswers
  · rw [if_neg hfault]
    apply (htrivial _).andThen
    intro _ st1 _
    exact (unlinkReply_answers owner client).onProc _ _

theorem completeReply_answers (e : Entry) (owner : ProcessId) (info : Word) :
    (st.completeReply e true owner info).Post (fun _ => Answers owner) (fun _ _ => True) := by
  unfold completeReply
  split_ifs with hnone
  · exact hnone
  · split
    · trivial
    · exact replyTo_answers e owner _ info

theorem Placed.neverOccupied (h : Placed s none none st place) : st.NeverOccupied where
  popped port target st' hstate hpop := by
    have hbusy : (st.ports port).state ≠ .wait := by simp [hstate]
    have hpost := h.popIpc hbusy
    rw [hpop] at hpost
    obtain ⟨htarget, honly, -⟩ := hpost
    have hwaits := h.waits htarget
    rw [hstate] at hwaits
    exact (honly.field IpcContext.destinationReplyState (fun _ => rfl) target).trans hwaits.2.2
  receive e owner st' hdiscard := by
    have hpost : (st.discardReply e owner).Post _ _ := discardReply_answers e owner
    rwa [hdiscard] at hpost
  replyReceive e owner info st' hreply := by
    have hpost : (st.completeReply e true owner info).Post _ _ := completeReply_answers e owner info
    rwa [hreply] at hpost

/-- In every run in which no transfer, interrupt or context switch can fail, the reply relation is
dual after every entry and no operation meets a reply that is already owed. -/
theorem run_repliesDual (hrun : Relation.ReflTransGen (Step m Unfailing) m.boot st) :
    st.RepliesDual ∧ st.NeverOccupied := by
  have hcoherent : Coherent (m.setting false) st :=
    coherent_run (fun _ _ _ h => h.1) (fun _ _ _ _ h => h.2) hrun
  obtain ⟨place, hplaced, -⟩ := hcoherent
  exact ⟨hplaced.repliesDual rfl, hplaced.neverOccupied⟩

end SystemState

/-! ## A handler without an address space

The init process handles the faults of the second one and waits at its port. Its address space has
been taken away when the fault comes, so that the switch to it fails after the two processes have
been linked. -/

section Example

open SystemState

def handlerUnmapped : Entry :=
  { onlyCore with
    root := fun id => if id = .user 0x1000 then 0 else 0x5000
    resolver := fun _ => some { port := 0x9000 } }

def secondCalls : SystemState := (initReceives.say 0x2000 [0, 3, 1]).handle onlyCore invokePort

def secondFaults : SystemState :=
  initReceives.handle handlerUnmapped (.fault .invalidInstruction 0 0 0)

theorem initReceives_reachable :
    Relation.ReflTransGen (Step uniprocessor Unfailing) uniprocessor.boot initReceives :=
  (bothResumed_reachable.tail (.user (alike_say _ _ _))).tail (.entry onlyCore _
    (possible_onlyCore 0x1000 (by decide +kernel) legal_invokePort)
    (unfailing_onlyCore (by decide +kernel)))

/-- The second process calls the first one. -/
theorem run_repliesDual_secondCalls :
    (secondCalls.contexts (.user 0x2000)).sourceReplyTarget = some (.user 0x1000) ∧
      secondCalls.RepliesDual ∧ secondCalls.NeverOccupied :=
  ⟨by decide +kernel, run_repliesDual ((initReceives_reachable.tail (.user (alike_say _ _ _))).tail
    (.entry onlyCore _ (possible_onlyCore 0x2000 (by decide +kernel) legal_invokePort)
      (unfailing_onlyCore (by decide +kernel))))⟩

/-- The faulting process is suspended and still linked to its handler. -/
theorem failed_switch_not_dual :
    ∃ st, Relation.ReflTransGen (Step uniprocessor fun e st entry =>
      (st.handle e entry).failedTransfers = st.failedTransfers) uniprocessor.boot st ∧
      ¬ st.RepliesDual := by
  have hfaults : uniprocessor.Possible handlerUnmapped initReceives
      (.fault .invalidInstruction 0 0 0) :=
    ⟨rfl, rfl, by decide, by decide +kernel, by simp [handlerUnmapped], by
      simp [KernelEntry.Legal]⟩
  refine ⟨secondFaults, (run_mono (fun _ _ _ h => h.1.1) initReceives_reachable).tail
    (.entry handlerUnmapped _ hfaults (by decide +kernel)), fun hdual => ?_⟩
  have hstatus := (hdual.states (.user 0x2000) (.user 0x1000) (by decide +kernel)).2.2
  exact absurd hstatus (by decide +kernel)

end Example

end A9N.Kernel
