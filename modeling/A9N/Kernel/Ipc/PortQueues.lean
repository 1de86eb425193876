import A9N.Kernel.Ipc.SystemRuns

/-!
# The state and the queue of an IPC port

Between kernel entries a port is waiting exactly when nobody waits at it, and the processes that
wait at it all wait for the same thing. A failed message transfer breaks this: the transfer sets
the port to WAIT while other receivers are still queued.
-/

namespace A9N.Kernel

namespace SystemState

/-- The state of a port agrees with the list of processes its pointers describe. -/
def PortSound (st : SystemState) (port : Word) : Prop :=
  ∃ waiting, Queued (fun id => (st.contexts id).nextIpcQueue)
      (fun id => (st.contexts id).previewIpcQueue) (st.ports port).queueHead
      (st.ports port).queueTail waiting ∧
    ((st.ports port).state = .wait ↔ waiting = []) ∧
    ((st.ports port).state = .readyToSend → ∀ id ∈ waiting,
      (st.proc.processes id).status = .blockedSend ∨ (st.proc.processes id).status = .blockedFault) ∧
    ((st.ports port).state = .readyToReceive → ∀ id ∈ waiting,
      (st.proc.processes id).status = .blockedReceive) ∧
    ∀ id, (st.contexts id).currentIpcPort = some port ↔ id ∈ waiting

variable {m : Machine} {s : Setting} {st : SystemState} {place : ProcessId → Place}

theorem Placed.portSound (h : Placed s none none st place) (port : Word) : st.PortSound port := by
  obtain ⟨waiting, hfamily, hmem, hcurrent, hstate⟩ := h.ipc
  have hwaits : ∀ id ∈ waiting port, st.Waits id (st.ports port).state := by
    intro id hid
    have hfits := h.fits id (by simp)
    rwa [(hmem id port).mp hid] at hfits
  refine ⟨waiting port, hfamily.queued port, hstate port, fun hsend id hid => ?_,
    fun hreceive id hid => ?_, fun id => by rw [hcurrent, hmem]⟩
  · have hwait := hwaits id hid
    rw [hsend] at hwait
    exact hwait.imp And.left And.left
  · have hwait := hwaits id hid
    rw [hreceive] at hwait
    exact hwait.1

/-- In every run in which no transfer fails and no interrupt to a core is lost, every port agrees
with its queue after every entry. Context switches may fail. -/
theorem run_portSound (hrun : Relation.ReflTransGen (Step m Reliable) m.boot st) (port : Word) :
    st.PortSound port := by
  have hcoherent : Coherent (m.setting true) st := coherent_run (fun _ _ _ h => h) (by simp) hrun
  obtain ⟨place, hplaced, -⟩ := hcoherent
  exact hplaced.portSound port

end SystemState

/-! ## A receiver that is left behind

One core and three processes. The init process resumes the other two and waits for a message, the
second process waits at the same port, and the third one sends seven words. None of them has an
IPC buffer, so that the copy of the seventh word fails. -/

section Example

open SystemState

def uniprocessor : Machine where
  platform := { samplePlatform with architecture := .aarch64, smpEnabled := false }
  coreCount := 1
  existing := {.user 0x1000, .user 0x2000, .user 0x3000}
  init := 0x1000
  online := by decide
  bounded := by decide
  single := by decide
  init_mem := by decide

def onlyCore : Entry where
  platform := uniprocessor.platform
  core := 0
  coreCount := 1
  root _ := 0x5000

def SystemState.say (st : SystemState) (address : Word) (words : List Word) : SystemState :=
  { st with registers := Function.update st.registers (.user address) fun i => words.getD i 0 }

theorem SystemState.alike_say (st : SystemState) (address : Word) (words : List Word) :
    Alike st (st.say address words) := ⟨rfl, rfl, fun _ => rfl, fun _ => rfl, rfl⟩

def resume (address : Word) : KernelEntry :=
  .capabilityCall (.processControlBlock (.user address))

def invokePort : KernelEntry := .capabilityCall (.ipcPort { port := 0x9000 })

def requestsSaid : SystemState :=
  ((uniprocessor.boot.say 0x1000 [0, 4]).say 0x2000 [0, 2, 1]).say 0x3000 [0, 1, 14]
def oneResumed : SystemState := requestsSaid.handle onlyCore (resume 0x2000)
def bothResumed : SystemState := oneResumed.handle onlyCore (resume 0x3000)
def initReceives : SystemState := (bothResumed.say 0x1000 [0, 2, 1]).handle onlyCore invokePort
def secondReceives : SystemState := initReceives.handle onlyCore invokePort
def thirdSends : SystemState := secondReceives.handle onlyCore invokePort

theorem possible_onlyCore {st : SystemState} {entry : KernelEntry} (address : Word)
    (hcurrent : (st.proc.cpus 0).currentProcess = some (.user address))
    (hlegal : entry.Legal uniprocessor.existing (some (.user address))) :
    uniprocessor.Possible onlyCore st entry :=
  ⟨rfl, rfl, by decide, by simp [onlyCore, hcurrent], by simp [onlyCore], by
    rwa [← hcurrent] at hlegal⟩

theorem unfailing_onlyCore {st : SystemState} {entry : KernelEntry}
    (h : (st.handle onlyCore entry).failedTransfers = st.failedTransfers) :
    st.Unfailing onlyCore entry :=
  ⟨⟨h, by simp [onlyCore, uniprocessor]⟩, fun _ _ => by simp [onlyCore],
    fun _ _ => by simp [onlyCore]⟩

theorem legal_resume {address current : Word} (hexists : .user address ∈ uniprocessor.existing) :
    (resume address).Legal uniprocessor.existing (some (.user current)) :=
  ⟨⟨hexists, by simp⟩, by simp⟩

theorem legal_invokePort {existing : Finset ProcessId} {current : Word} :
    invokePort.Legal existing (some (.user current)) :=
  ⟨trivial, by simp⟩

theorem bothResumed_reachable :
    Relation.ReflTransGen (Step uniprocessor Unfailing) uniprocessor.boot bothResumed := by
  have hsaid : Alike uniprocessor.boot requestsSaid :=
    ((alike_say _ _ _).trans (alike_say _ _ _)).trans (alike_say _ _ _)
  have hone : Step uniprocessor Unfailing requestsSaid oneResumed :=
    .entry onlyCore _ (possible_onlyCore 0x1000 (by decide +kernel)
      (legal_resume (by decide))) (unfailing_onlyCore (by decide +kernel))
  have hboth : Step uniprocessor Unfailing oneResumed bothResumed :=
    .entry onlyCore _ (possible_onlyCore 0x1000 (by decide +kernel)
      (legal_resume (by decide))) (unfailing_onlyCore (by decide +kernel))
  exact ((Relation.ReflTransGen.single (.user hsaid)).tail hone).tail hboth

theorem secondReceives_reachable :
    Relation.ReflTransGen (Step uniprocessor Unfailing) uniprocessor.boot secondReceives := by
  have hinit : Step uniprocessor Unfailing (bothResumed.say 0x1000 [0, 2, 1]) initReceives :=
    .entry onlyCore _ (possible_onlyCore 0x1000 (by decide +kernel) legal_invokePort)
      (unfailing_onlyCore (by decide +kernel))
  have hsecond : Step uniprocessor Unfailing initReceives secondReceives :=
    .entry onlyCore _ (possible_onlyCore 0x2000 (by decide +kernel) legal_invokePort)
      (unfailing_onlyCore (by decide +kernel))
  exact ((bothResumed_reachable.tail (.user (alike_say _ _ _))).tail hinit).tail hsecond

theorem run_portSound_secondReceives :
    (secondReceives.ports 0x9000).queueHead = some (.user 0x1000) ∧
      secondReceives.PortSound 0x9000 :=
  ⟨by decide +kernel, run_portSound (run_mono (fun _ _ _ h => h.1) secondReceives_reachable) 0x9000⟩

theorem thirdSends_reachable :
    Relation.ReflTransGen (Step uniprocessor fun _ _ _ => True) uniprocessor.boot thirdSends :=
  (run_mono (fun _ _ _ _ => trivial) secondReceives_reachable).tail
    (.entry onlyCore _ (possible_onlyCore 0x3000 (by decide +kernel) legal_invokePort) trivial)

/-- The port is set to WAIT while the second process is still in its queue. -/
theorem failed_transfer_port_unsound :
    ∃ st, Relation.ReflTransGen (Step uniprocessor fun _ _ _ => True) uniprocessor.boot st ∧
      ¬ st.PortSound 0x9000 := by
  refine ⟨thirdSends, thirdSends_reachable, ?_⟩
  rintro ⟨waiting, hqueued, hstate, -⟩
  have hempty : waiting = [] := hstate.mp (by decide +kernel)
  have hhead := hqueued.head_eq
  rw [hempty] at hhead
  exact absurd hhead (by decide +kernel)

end Example

end A9N.Kernel
