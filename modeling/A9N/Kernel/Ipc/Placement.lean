import A9N.Kernel.Ipc.PortQueues

/-!
# Where processes are found

The pointers of the cores and of the queues, followed from outside. A process is held by at most
one of them, and one that is neither unused nor suspended is held by exactly one or waits for a
reply.
-/

namespace A9N.Kernel

inductive Holder
  | core (core : Nat)
  | readyQueue (core priority : Nat)
  | ipcPort (port : Word)
  | notificationPort (port : Word)
deriving DecidableEq

inductive Situation
  | running | queued | atIpcPort | atNotificationPort | awaitingReply
deriving DecidableEq

def Holder.place : Holder → Place
  | .core c => .current c
  | .readyQueue c priority => .ready c priority
  | .ipcPort port => .ipc port
  | .notificationPort port => .notification port

def Place.situation : Place → Option Situation
  | .current _ => some .running
  | .ready _ _ => some .queued
  | .ipc _ => some .atIpcPort
  | .notification _ => some .atNotificationPort
  | .reply => some .awaitingReply
  | _ => none

namespace SystemState

def Leads (head : Option ProcessId) (next : ProcessId → Option ProcessId) (id : ProcessId) : Prop :=
  ∃ first, head = some first ∧ Relation.ReflTransGen (fun a b => next a = some b) first id

def HeldBy (st : SystemState) (id : ProcessId) : Holder → Prop
  | .core core => (st.proc.cpus core).currentProcess = some id
  | .readyQueue core priority =>
    Leads (st.proc.queue core priority).head (fun id => (st.proc.processes id).next) id
  | .ipcPort port => Leads (st.ports port).queueHead (fun id => (st.contexts id).nextIpcQueue) id
  | .notificationPort port =>
    Leads (st.notifications port).queueHead (fun id => (st.contexts id).nextNotificationQueue) id

/-- A process is in at most one place, and on a core or in its queues only where its affinity
says. -/
structure Exclusive (st : SystemState) : Prop where
  unique : ∀ id holder holder', st.HeldBy id holder → st.HeldBy id holder' → holder = holder'
  core : ∀ id core, st.HeldBy id (.core core) →
    (st.proc.processes id).coreAffinity.toNat = core
  readyQueue : ∀ id core priority, st.HeldBy id (.readyQueue core priority) →
    (st.proc.processes id).coreAffinity.toNat = core

def In (st : SystemState) (id : ProcessId) : Situation → Prop
  | .running => (st.proc.processes id).status = .ready ∧
      st.HeldBy id (.core (st.proc.processes id).coreAffinity.toNat)
  | .queued => (st.proc.processes id).status = .ready ∧
      ∃ core priority, st.HeldBy id (.readyQueue core priority)
  | .atIpcPort => ((st.proc.processes id).status = .blockedSend ∨
      (st.proc.processes id).status = .blockedReceive ∨
      (st.proc.processes id).status = .blockedFault) ∧ ∃ port, st.HeldBy id (.ipcPort port)
  | .atNotificationPort => (st.proc.processes id).status = .blockedWait ∧
      ∃ port, st.HeldBy id (.notificationPort port)
  | .awaitingReply => ((st.proc.processes id).status = .blockedReply ∨
      (st.proc.processes id).status = .blockedFault) ∧
      ∃ server, (st.contexts id).sourceReplyTarget = some server ∧
        (st.contexts server).destinationReplyTarget = some id

/-- Every process that is neither unused nor suspended is in exactly one situation. -/
def NoneStranded (st : SystemState) : Prop :=
  ∀ address, ¬ st.Stopped (.user address) → ∃! situation, st.In (.user address) situation

variable {m : Machine} {s : Setting} {st : SystemState} {place : ProcessId → Place}
  {id : ProcessId}

/-! ## Holders and places -/

namespace Placed

section

variable (h : Placed s none none st place)
include h

theorem heldBy_core {core : Nat} :
    st.HeldBy id (.core core) → place id = .current core ∨ id = .idle core :=
  fun hheld => (h.current_cases hheld).imp_right And.left

theorem heldBy_readyQueue {core priority : Nat} :
    st.HeldBy id (.readyQueue core priority) ↔ place id = .ready core priority := by
  obtain ⟨ready, hqueues, hmem⟩ := h.ready
  rw [← hmem]
  exact (hqueues.queued core priority).mem_iff_reachable.symm

theorem heldBy_ipcPort {port : Word} : st.HeldBy id (.ipcPort port) ↔ place id = .ipc port := by
  obtain ⟨waiting, hfamily, hmem, -⟩ := h.ipc
  rw [← hmem]
  exact (hfamily.queued port).mem_iff_reachable.symm

theorem fits_at (at_ : Place) (hat : place id = at_) : st.Fits s id at_ := by
  rw [← hat]
  exact h.fits id (by simp)

theorem waits_of_head {port : Word} (hhead : (st.ports port).queueHead = some id) :
    st.Waits id (st.ports port).state := by
  have hheld : st.HeldBy id (.ipcPort port) := ⟨id, hhead, .refl⟩
  exact h.fits_at _ (h.heldBy_ipcPort.mp hheld)

theorem heldBy_notificationPort {port : Word} :
    st.HeldBy id (.notificationPort port) ↔ place id = .notification port := by
  obtain ⟨waiting, hfamily, hmem, -⟩ := h.notification
  rw [← hmem]
  exact (hfamily.queued port).mem_iff_reachable.symm


theorem place_of_heldBy {holder : Holder} (hheld : st.HeldBy id holder) :
    place id = holder.place ∨ ∃ core, id = .idle core ∧ holder = .core core := by
  cases holder with
  | core core => exact (h.heldBy_core hheld).imp_right fun hidle => ⟨core, hidle, rfl⟩
  | readyQueue core priority => exact .inl (h.heldBy_readyQueue.mp hheld)
  | ipcPort port => exact .inl (h.heldBy_ipcPort.mp hheld)
  | notificationPort port => exact .inl (h.heldBy_notificationPort.mp hheld)

theorem exclusive : st.Exclusive where
  unique id holder holder' hheld hheld' := by
    have hinjective : ∀ a b : Holder, a.place = b.place → a = b := by
      intro a b hab
      cases a <;> cases b <;> simp_all [Holder.place]
    have hidle : ∀ core, id = .idle core → ∀ a : Holder, place id ≠ a.place := by
      intro core hid a
      rw [(h.idle id).mpr ⟨core, hid⟩]
      cases a <;> simp [Holder.place]
    rcases h.place_of_heldBy hheld with hplace | ⟨core, hid, hcore⟩
    · rcases h.place_of_heldBy hheld' with hplace' | ⟨core, hid, -⟩
      · exact hinjective _ _ (hplace.symm.trans hplace')
      · exact absurd hplace (hidle core hid holder)
    · rcases h.place_of_heldBy hheld' with hplace' | ⟨core', hid', hcore'⟩
      · exact absurd hplace' (hidle core hid holder')
      · rw [hid] at hid'
        cases hid'
        rw [hcore, hcore']
  core id core hheld := by
    rw [← h.affinity_eq]
    rcases h.heldBy_core hheld with hplace | rfl
    · exact (h.running hplace).2.2
    · exact h.idleAffinity core (by simp [show (st.proc.cpus core).currentProcess = _ from hheld])
  readyQueue id core priority hheld := by
    have hfits := h.fits id (by simp)
    rw [h.heldBy_readyQueue.mp hheld] at hfits
    rw [← h.affinity_eq]
    exact hfits.2.2

theorem situation_of_in (hid : ∀ core, id ≠ .idle core)
    {situation : Situation} (hin : st.In id situation) :
    (place id).situation = some situation := by
  cases situation with
  | running =>
    rw [(h.heldBy_core hin.2).resolve_right (hid _)]
    rfl
  | queued =>
    obtain ⟨-, core, priority, hheld⟩ := hin
    rw [h.heldBy_readyQueue.mp hheld]
    rfl
  | atIpcPort =>
    obtain ⟨-, port, hheld⟩ := hin
    rw [h.heldBy_ipcPort.mp hheld]
    rfl
  | atNotificationPort =>
    obtain ⟨-, port, hheld⟩ := hin
    rw [h.heldBy_notificationPort.mp hheld]
    rfl
  | awaitingReply =>
    obtain ⟨-, server, hsource, -⟩ := hin
    rw [(h.replies.place id).mp (by simp [hsource])]
    rfl

theorem in_situation (harrived : Arrived place)
    (hlax : s.lax = false) (hid : ∀ core, id ≠ .idle core) (hstopped : ¬ st.Stopped id) :
    ∃ situation, st.In id situation := by
  have hfits := h.fits id (by simp)
  cases hplace : place id with
  | current core =>
    obtain ⟨hready, -, haffinity⟩ := h.running hplace
    refine ⟨.running, hready, ?_⟩
    rw [← h.affinity_eq, haffinity]
    exact (h.current id core hplace).1
  | ready core priority =>
    rw [hplace] at hfits
    exact ⟨.queued, hfits.1, core, priority, h.heldBy_readyQueue.mpr hplace⟩
  | ipc port =>
    rw [hplace] at hfits
    have hblocked := Waits.blocked hfits
    exact ⟨.atIpcPort, by tauto, port, h.heldBy_ipcPort.mpr hplace⟩
  | notification port =>
    rw [hplace] at hfits
    exact ⟨.atNotificationPort, hfits.1, port, h.heldBy_notificationPort.mpr hplace⟩
  | reply =>
    rw [hplace] at hfits
    obtain ⟨server, hserver⟩ := Option.ne_none_iff_exists'.mp ((h.replies.place id).mpr hplace)
    refine ⟨.awaitingReply, ?_, server, hserver, (h.replies.dual id server).mp hserver⟩
    exact hfits.2.imp_right fun hfault =>
      hfault.2.resolve_right fun hsuspended => by simp [hlax] at hsuspended
  | parked =>
    rw [hplace] at hfits
    exact absurd hfits hstopped
  | loose =>
    rw [hplace] at hfits
    exact absurd hfits.1 (by simp [hlax])
  | moving => exact absurd hplace (harrived id)
  | idle =>
    obtain ⟨core, hcore⟩ := (h.idle id).mp hplace
    exact absurd hcore (hid core)

theorem noneStranded (harrived : Arrived place) (hlax : s.lax = false) : st.NoneStranded := by
  intro address hstopped
  obtain ⟨situation, hin⟩ := h.in_situation harrived hlax (by simp) hstopped
  refine ⟨situation, hin, fun situation' hin' => ?_⟩
  have heq := (h.situation_of_in (by simp) hin').symm.trans (h.situation_of_in (by simp) hin)
  exact Option.some.inj heq

end

end Placed

/-- In every run in which no transfer fails and no interrupt to a core is lost, a process is in at
most one place after every entry, whichever cores the entries are on. -/
theorem run_exclusive (hrun : Relation.ReflTransGen (Step m Reliable) m.boot st) :
    st.Exclusive := by
  have hcoherent : Coherent (m.setting true) st := coherent_run (fun _ _ _ h => h) (by simp) hrun
  obtain ⟨place, hplaced, -⟩ := hcoherent
  exact hplaced.exclusive

end SystemState

section Example

open SystemState

/-! ## A caller that is answered while it still runs

Two cores. The init process on core 0 sends a server to core 1, where it waits at a port, and then
calls it. The interrupt to core 1 is reported as failed, and the call returns an error while the
init process is already marked as waiting for the reply. -/

def multiprocessor : Machine where
  platform := { samplePlatform with architecture := .aarch64 }
  coreCount := 2
  existing := {.user 0x1000, .user 0x2000}
  init := 0x1000
  online := by decide
  bounded := by decide
  single := by decide
  init_mem := by decide

def onCore (core : Nat) (sendIpi : Bool) : Entry where
  platform := multiprocessor.platform
  core := core
  coreCount := 2
  root _ := 0x5000
  sendIpi _ := sendIpi

def affinitySaid : SystemState :=
  let st := (multiprocessor.boot.say 0x1000 [0, 1, 0x200]).say 0x2000 [0, 2, 1]
  let st := st.modifyContext (.user 0x1000) fun context => { context with buffer := some 0x7000 }
  st.setBufferWord 0x7000 12 1

def serverMoved : SystemState := affinitySaid.handle (onCore 0 true) (resume 0x2000)
def serverResumed : SystemState := (serverMoved.say 0x1000 [0, 4]).handle (onCore 0 true) (resume 0x2000)
def serverRuns : SystemState := serverResumed.handle (onCore 1 true) .ipiReschedule
def serverWaits : SystemState := serverRuns.handle (onCore 1 true) invokePort
def initCalls : SystemState := (serverWaits.say 0x1000 [0, 3, 1]).handle (onCore 0 false) invokePort
def serverCalled : SystemState := initCalls.handle (onCore 1 true) .ipiReschedule
def serverReplies : SystemState := (serverCalled.say 0x2000 [0, 4]).handle (onCore 1 true) invokePort

theorem possible_onCore {st : SystemState} {entry : KernelEntry} {core : Nat} {sendIpi : Bool}
    (current : ProcessId) (hcore : core < 2)
    (hcurrent : (st.proc.cpus core).currentProcess = some current)
    (hlegal : entry.Legal multiprocessor.existing (some current)) :
    multiprocessor.Possible (onCore core sendIpi) st entry :=
  ⟨rfl, rfl, hcore, by simp [onCore, hcurrent], by simp [onCore], by
    rwa [← hcurrent] at hlegal⟩

def Switching (e : Entry) (st : SystemState) (entry : KernelEntry) : Prop :=
  (st.handle e entry).failedTransfers = st.failedTransfers ∧ ∀ id, e.root id ≠ 0

section

variable {st : SystemState} {entry : KernelEntry} {core : Nat}

theorem switching_onCore {sendIpi : Bool}
    (h : (st.handle (onCore core sendIpi) entry).failedTransfers = st.failedTransfers) :
    Switching (onCore core sendIpi) st entry :=
  ⟨h, by simp [onCore]⟩

theorem reliable_onCore
    (h : (st.handle (onCore core true) entry).failedTransfers = st.failedTransfers) :
    st.Reliable (onCore core true) entry ∧ Switching (onCore core true) st entry :=
  ⟨⟨h, fun _ _ => rfl⟩, switching_onCore h⟩

end

theorem legal_resume_server {current : Word} :
    (resume 0x2000).Legal multiprocessor.existing (some (.user current)) :=
  ⟨⟨by decide, by simp⟩, by simp⟩

theorem serverWaits_reachable :
    Relation.ReflTransGen (Step multiprocessor fun e st entry => st.Reliable e entry ∧
      Switching e st entry) multiprocessor.boot serverWaits := by
  have hsaid : Alike multiprocessor.boot affinitySaid := by
    have hwords := (alike_say multiprocessor.boot 0x1000 [0, 1, 0x200]).trans
      (alike_say _ 0x2000 [0, 2, 1])
    have hbuffer := hwords.modifyContext (.user 0x1000)
      (fun context => { context with buffer := some 0x7000 }) fun _ => rfl
    exact ⟨hbuffer.proc, hbuffer.ports, hbuffer.context, hbuffer.notification,
      hbuffer.failedTransfers⟩
  refine Relation.ReflTransGen.tail (Relation.ReflTransGen.tail (Relation.ReflTransGen.tail
    (Relation.ReflTransGen.tail (Relation.ReflTransGen.tail (.single (.user hsaid))
      (?moved : Step _ _ _ serverMoved)) (.user (alike_say _ 0x1000 [0, 4])))
      (?resumed : Step _ _ _ serverResumed)) (?runs : Step _ _ _ serverRuns))
      (?waits : Step _ _ _ serverWaits)
  case moved =>
    exact .entry (onCore 0 true) _ (possible_onCore (.user 0x1000) (by decide) (by decide +kernel)
      legal_resume_server) (reliable_onCore (by decide +kernel))
  case resumed =>
    exact .entry (onCore 0 true) _ (possible_onCore (.user 0x1000) (by decide) (by decide +kernel)
      legal_resume_server) (reliable_onCore (by decide +kernel))
  case runs =>
    exact .entry (onCore 1 true) _ (possible_onCore (.idle 1) (by decide) (by decide +kernel)
      trivial) (reliable_onCore (by decide +kernel))
  case waits =>
    exact .entry (onCore 1 true) _ (possible_onCore (.user 0x2000) (by decide) (by decide +kernel)
      legal_invokePort) (reliable_onCore (by decide +kernel))

theorem run_exclusive_serverWaits :
    (serverWaits.proc.cpus 1).currentProcess = some (.idle 1) ∧ serverWaits.Exclusive :=
  ⟨by decide +kernel, run_exclusive (run_mono (fun _ _ _ h => h.1) serverWaits_reachable)⟩

/-- The reply puts the init process into the ready queue of the core that still runs it. -/
theorem failed_interrupt_not_exclusive :
    ∃ st, Relation.ReflTransGen (Step multiprocessor Switching) multiprocessor.boot st ∧
      ¬ st.Exclusive := by
  have hcalls : Step multiprocessor Switching (serverWaits.say 0x1000 [0, 3, 1]) initCalls :=
    .entry (onCore 0 false) _ (possible_onCore (.user 0x1000) (by decide) (by decide +kernel)
      legal_invokePort) (switching_onCore (by decide +kernel))
  have hcalled : Step multiprocessor Switching initCalls serverCalled :=
    .entry (onCore 1 true) _ (possible_onCore (.idle 1) (by decide) (by decide +kernel) trivial)
      (switching_onCore (by decide +kernel))
  have hreplies : Step multiprocessor Switching (serverCalled.say 0x2000 [0, 4]) serverReplies :=
    .entry (onCore 1 true) _ (possible_onCore (.user 0x2000) (by decide) (by decide +kernel)
      legal_invokePort) (switching_onCore (by decide +kernel))
  refine ⟨serverReplies, ((((run_mono (fun _ _ _ h => h.2) serverWaits_reachable).tail
    (.user (alike_say _ _ _))).tail hcalls).tail hcalled).tail (.user (alike_say _ _ _)) |>.tail
      hreplies, fun hexclusive => ?_⟩
  have hcore : serverReplies.HeldBy (.user 0x1000) (.core 0) := by
    unfold HeldBy
    decide +kernel
  have hqueue : serverReplies.HeldBy (.user 0x1000) (.readyQueue 0 31) :=
    ⟨.user 0x1000, by decide +kernel, .refl⟩
  exact absurd (hexclusive.unique _ _ _ hcore hqueue) (by decide)

end Example

namespace SystemState

variable {m : Machine} {st : SystemState}

/-- In every run in which no transfer, interrupt or context switch can fail, every process that is
neither unused nor suspended is in exactly one situation after every entry. -/
theorem run_noneStranded (hrun : Relation.ReflTransGen (Step m Unfailing) m.boot st) :
    st.NoneStranded := by
  have hcoherent : Coherent (m.setting false) st :=
    coherent_run (fun _ _ _ h => h.1) (fun _ _ _ _ h => h.2) hrun
  obtain ⟨place, hplaced, harrived⟩ := hcoherent
  exact hplaced.noneStranded harrived rfl

theorem run_noneStranded_secondReceives :
    ¬ secondReceives.Stopped (.user 0x1000) ∧ secondReceives.NoneStranded :=
  ⟨by unfold Stopped; decide +kernel, run_noneStranded secondReceives_reachable⟩

theorem heldBy_readyQueue_setStatus (st : SystemState) (id : ProcessId) (status : ProcessStatus)
    (other : ProcessId) (core priority : Nat) :
    (st.setStatus id status).HeldBy other (.readyQueue core priority) ↔
      st.HeldBy other (.readyQueue core priority) := by
  have hnext : ∀ a, ((st.setStatus id status).proc.processes a).next =
      (st.proc.processes a).next := by
    intro a
    simp only [SystemState.setStatus, SystemState.modifyProcess, ProcState.modifyProcess_processes]
    by_cases ha : a = id <;> simp [ha]
  unfold HeldBy
  simp only [hnext]
  rfl

theorem thirdSends_proc :
    thirdSends.proc = (secondReceives.setStatus (.user 0x1000) .ready).proc := rfl

theorem thirdSends_not_queued (core priority : Nat) :
    ¬ thirdSends.HeldBy (.user 0x1000) (.readyQueue core priority) := by
  intro hheld
  have hcoherent : Coherent (uniprocessor.setting false) secondReceives :=
    coherent_run (fun _ _ _ h => h.1) (fun _ _ _ _ h => h.2) secondReceives_reachable
  obtain ⟨place, hplaced, -⟩ := hcoherent
  have hbefore : secondReceives.HeldBy (.user 0x1000) (.readyQueue core priority) := by
    rw [← heldBy_readyQueue_setStatus _ (.user 0x1000) .ready]
    unfold HeldBy at hheld ⊢
    rwa [thirdSends_proc] at hheld
  have hready := hplaced.heldBy_readyQueue.mp hbefore
  have hport : secondReceives.HeldBy (.user 0x1000) (.ipcPort 0x9000) :=
    ⟨.user 0x1000, by decide +kernel, .refl⟩
  rw [hplaced.heldBy_ipcPort.mp hport] at hready
  cases hready

theorem failed_transfer_strands :
    ∃ st, Relation.ReflTransGen (Step uniprocessor fun _ _ _ => True) uniprocessor.boot st ∧
      ¬ st.NoneStranded := by
  refine ⟨thirdSends, thirdSends_reachable, fun hnone => ?_⟩
  have hready : (thirdSends.proc.processes (.user 0x1000)).status = .ready := by decide +kernel
  obtain ⟨situation, hin, -⟩ := hnone 0x1000 (by unfold Stopped; decide +kernel)
  cases situation with
  | running =>
    have hcore : (thirdSends.proc.cpus 0).currentProcess = some (.user 0x1000) := hin.2
    exact absurd hcore (by decide +kernel)
  | queued =>
    obtain ⟨-, core, priority, hheld⟩ := hin
    exact thirdSends_not_queued core priority hheld
  | atIpcPort => exact absurd hin.1 (by rw [hready]; decide)
  | atNotificationPort => exact absurd hin.1 (by rw [hready]; decide)
  | awaitingReply => exact absurd hin.1 (by rw [hready]; decide)

end SystemState

end A9N.Kernel
