import A9N.Kernel.Ipc.EntryInvariant

/-!
# Runs of the system

A run starts when the boot processor has switched to the init process and the other cores wait in
their idle processes. It is a sequence of kernel entries on any of the cores; between them user
code writes registers and buffers, and CONVERT makes processes out of memory nobody uses.
-/

namespace A9N.Kernel

structure Machine where
  platform : Platform
  coreCount : Nat
  existing : Finset ProcessId
  init : Word
  online : 0 < coreCount
  bounded : coreCount ≤ cpuCountMax
  single : platform.smpEnabled = false → coreCount ≤ 1
  init_mem : .user init ∈ existing

def Invocation.Legal (existing : Finset ProcessId) : Invocation → Prop
  | .processControlBlock target => target ∈ existing ∧ ∀ core, target ≠ .idle core
  | .other callbacks _ => ∀ target, .process target ∈ callbacks → ∀ core, target ≠ .idle core
  | _ => True

def KernelEntry.Legal (existing : Finset ProcessId) (current : Option ProcessId) :
    KernelEntry → Prop
  | .capabilityCall invocation =>
    invocation.Legal existing ∧ ∀ core, current ≠ some (.idle core)
  | .fault type _ _ _ => type ≠ .none
  | _ => True

namespace Machine

variable (m : Machine)

def boot : SystemState where
  proc := {
    processes := fun
      | .idle core => { status := .idle, quantum := quantumMax,
                        coreAffinity := if core < m.coreCount then BitVec.ofNat 64 core else 0 }
      | .user address => if address = m.init then
          { status := .ready, priority := 31, quantum := quantumMax }
        else {}
    cpus := fun core =>
      if core < m.coreCount then
        { currentProcess := some (if core = 0 then .user m.init else .idle core)
          isIdle := core ≠ 0 }
      else {}
    hardwareRoot := fun _ => 0
    owners := fun _ => 0
    processCount := m.existing.card }

def bootPlace : ProcessId → Place
  | .idle _ => .idle
  | .user address => if address = m.init then .current 0 else .parked

def setting (lax : Bool) : Setting := ⟨m.platform, fun _ => 1, lax, m.existing⟩

/-- What the hardware and the capability tables can present to a core that runs. -/
structure Possible (e : Entry) (st : SystemState) (entry : KernelEntry) : Prop where
  platform : e.platform = m.platform
  coreCount : e.coreCount = m.coreCount
  core : e.core < m.coreCount
  online : (st.proc.cpus e.core).currentProcess ≠ none
  idleRoot : ∀ core, e.root (.idle core) ≠ 0
  legal : entry.Legal m.existing (st.proc.cpus e.core).currentProcess

end Machine

namespace SystemState

open ProcState

def makeProcess (architecture : Architecture) (address : Word) (st : SystemState) : SystemState :=
  initHardwareContext architecture (.user address)
    { st with proc := st.proc.setProcess (.user address) {},
              contexts := Function.update st.contexts (.user address) {} }

/-- A process that was never resumed or that SUSPEND or a revocation stopped. -/
def Stopped (st : SystemState) (id : ProcessId) : Prop :=
  (st.proc.processes id).status = .unused ∨ (st.proc.processes id).status = .blockedSuspend

/-- One step of the system. `allowed` restricts the entries that are considered. -/
inductive Step (m : Machine) (allowed : Entry → SystemState → KernelEntry → Prop) :
    SystemState → SystemState → Prop
  | entry {st : SystemState} (e : Entry) (entry : KernelEntry) (hpossible : m.Possible e st entry)
      (hallowed : allowed e st entry) : Step m allowed st (st.handle e entry)
  | user {st st' : SystemState} (halike : Alike st st') : Step m allowed st st'
  | make {st : SystemState} (address : Word) (hstopped : st.Stopped (.user address))
      (hsource : (st.contexts (.user address)).sourceReplyTarget = none)
      (hdestination : (st.contexts (.user address)).destinationReplyTarget = none) :
      Step m allowed st (st.makeProcess m.platform.architecture address)

/-- A step of user code: only the registers of running processes change. -/
structure UserStep (st st' : SystemState) : Prop where
  alike : Alike st st'
  saved : ∀ id, (∀ core, (st.proc.cpus core).currentProcess ≠ some id) →
    st'.registers id = st.registers id

/-- No transfer of the entry fails, and every interrupt it sends to a core is accepted. -/
def Reliable (e : Entry) (st : SystemState) (entry : KernelEntry) : Prop :=
  (st.handle e entry).failedTransfers = st.failedTransfers ∧
    (e.platform.smpEnabled = true → ∀ core, e.sendIpi core = true)

def resumed (e : Entry) (st : SystemState) : KernelEntry → Option ProcessId
  | .capabilityCall (.processControlBlock target) =>
    (st.proc.cpus e.core).currentProcess.bind fun owner =>
      if (st.messageRegister e owner operationTypeIndex).toNat = 4 then some target else none
  | _ => none

def Rooted (e : Entry) (st : SystemState) (entry : KernelEntry) : Prop :=
  (∀ id, ¬ st.Stopped id → e.root id ≠ 0) ∧
    ∀ target, st.resumed e entry = some target → e.root target ≠ 0

def Unfailing (e : Entry) (st : SystemState) (entry : KernelEntry) : Prop :=
  st.Reliable e entry ∧ st.Rooted e entry

variable {m : Machine} {s : Setting} {e : Entry} {st st' : SystemState}
  {place : ProcessId → Place} {entry : KernelEntry}

section

variable {allowed allowed' : Entry → SystemState → KernelEntry → Prop}
  (h : ∀ e st entry, allowed e st entry → allowed' e st entry)
include h

theorem Step.mono (hstep : Step m allowed st st') : Step m allowed' st st' := by
  cases hstep with
  | entry e entry hpossible hallowed => exact .entry e entry hpossible (h e st entry hallowed)
  | user halike => exact .user halike
  | make address hstopped hsource hdestination => exact .make address hstopped hsource hdestination

theorem run_mono (hrun : Relation.ReflTransGen (Step m allowed) st st') :
    Relation.ReflTransGen (Step m allowed') st st' :=
  hrun.lift id fun _ _ => Step.mono h

end

theorem Waits.blocked {id : ProcessId} {state : IpcPortState} (h : st.Waits id state) :
    (st.proc.processes id).status = .blockedSend ∨ (st.proc.processes id).status = .blockedFault ∨
      (st.proc.processes id).status = .blockedReceive := by
  cases state with
  | wait => exact h.elim
  | readyToSend => exact h.imp And.left fun hfault => .inl hfault.1
  | readyToReceive => exact .inr (.inr h.1)

namespace Placed

/-! ## One step -/

section

variable (h : Placed s none none st place)
include h

theorem handleCapabilityCall (hs : s.Admits e)
    (harrived : Arrived place) {owner : ProcessId} {core : Nat}
    (howner : place owner = .current core) {invocation : Invocation}
    (hlegal : invocation.Legal s.existing)
    (hroot : ∀ target, invocation = .processControlBlock target → s.lax = false →
      (st.messageRegister e owner operationTypeIndex).toNat = 4 → s.root target ≠ 0) :
    Safe s st.failedTransfers (st.handleCapabilityCall e owner invocation) := by
  have hcoherent := h.coherent harrived
  cases invocation with
  | unconfigured => exact hcoherent.safe
  | invalid => exact safe_reportResult owner hcoherent.safe
  | ipcPort self =>
    apply safe_reportResult
    exact (h.executeIpcPort hs harrived howner self).state (fun _ _ hc => hc) fun _ _ hc => hc
  | notificationPort self =>
    apply safe_reportResult
    exact ((h.executeNotificationPort hs harrived howner self).state (fun _ _ hc => hc)
      fun _ _ hc => hc).safe
  | processControlBlock target =>
    have hidle : place target ≠ .idle := by
      intro heq
      obtain ⟨core, hcore⟩ := (h.idle target).mp heq
      exact hlegal.2 core hcore
    apply safe_reportResult
    exact ((h.executeProcessControlBlock hs harrived hidle hlegal.1 owner
      (hroot target rfl)).state (fun _ _ hc => hc) fun _ _ hc => hc).safe
  | other callbacks result =>
    apply safe_reportResult
    apply Coherent.safe
    apply Outcome.Post.state (Q := fun _ => Coherent s) (E := fun _ => Coherent s) _
      (fun _ _ hc => hc) fun _ _ hc => hc
    apply (runCallbacks hs callbacks hcoherent hlegal).andThen
    exact fun _ st1 hc => Outcome.post_of_state (P := Coherent s) hc

theorem handle (hs : s.Admits e) (harrived : Arrived place)
    (honline : (st.proc.cpus e.core).currentProcess ≠ none)
    (hlegal : entry.Legal s.existing (st.proc.cpus e.core).currentProcess)
    (hroot : s.lax = false → ∀ target, st.resumed e entry = some target → s.root target ≠ 0) :
    Safe s st.failedTransfers (st.handle e entry) := by
  cases entry with
  | capabilityCall invocation =>
    unfold SystemState.handle
    cases hcurrent : (st.proc.cpus e.core).currentProcess with
    | none => exact absurd hcurrent honline
    | some owner =>
      have howner : place owner = .current e.core :=
        (h.current_cases hcurrent).resolve_right fun hidle =>
          hlegal.2 e.core (hcurrent.trans (congrArg some hidle.1))
      apply h.handleCapabilityCall hs harrived howner hlegal.1
      rintro target rfl hlax hresume
      apply hroot hlax target
      simp [resumed, hcurrent, hresume]
  | yield => exact (h.handleYield hs harrived).safe
  | timer => exact (h.handleTimer hs harrived).safe
  | interrupt handler => exact (h.handleInterrupt hs harrived handler).safe
  | ipiReschedule => exact (h.handleIpiReschedule hs harrived).safe
  | fault type code archCode address =>
    exact h.handleFault hs harrived honline hlegal code archCode address

theorem parked_of_stopped (harrived : Arrived place) {id : ProcessId} (hstopped : st.Stopped id)
    (hsource : (st.contexts id).sourceReplyTarget = none) : place id = .parked := by
  have hfits := h.fits id (by simp)
  unfold Stopped at hstopped
  cases hplace : place id with
  | parked => rfl
  | moving => exact absurd hplace (harrived id)
  | reply => exact absurd hsource ((h.replies.place id).mpr hplace)
  | ipc port =>
    rw [hplace] at hfits
    rcases Waits.blocked hfits with hblocked | hblocked | hblocked <;>
      simp [hblocked] at hstopped
  | _ =>
    rw [hplace] at hfits
    simp_all [Fits]

theorem makeProcess {architecture : Architecture} {address : Word}
    (hparked : place (.user address) = .parked)
    (hsource : (st.contexts (.user address)).sourceReplyTarget = none)
    (hdestination : (st.contexts (.user address)).destinationReplyTarget = none) :
    Placed s none none (st.makeProcess architecture address) place := by
  have hothers : ∀ id, id ≠ .user address →
      (st.makeProcess architecture address).proc.processes id = st.proc.processes id ∧
        (st.makeProcess architecture address).contexts id = st.contexts id := by
    intro id hid
    simp [SystemState.makeProcess, initHardwareContext, setProcess, hid]
  have hnew : (st.makeProcess architecture address).proc.processes (.user address) = {} ∧
      (st.makeProcess architecture address).contexts (.user address) = {} := by
    simp [SystemState.makeProcess, initHardwareContext, setProcess]
  have hids : ∀ {β : Type} (field : IpcContext → β),
      field {} = field (st.contexts (.user address)) →
      ∀ id, field ((st.makeProcess architecture address).contexts id) = field (st.contexts id) := by
    intro β field hfield id
    by_cases hid : id = .user address
    · rw [hid, hnew.2, hfield]
    · rw [(hothers id hid).2]
  have hanswer : (st.contexts (.user address)).destinationReplyState = .none :=
    (h.replies.answer _).mpr hdestination
  refine { h with
    ready := h.ready.congr (fun id => ?_) (fun _ _ => rfl) rfl fun _ _ _ => Iff.rfl
    ipc := ?_
    notification := ?_
    cores := fun core => (h.cores core).congr rfl rfl fun _ hp => hp
    current := h.current
    replies := h.replies.congr (hids IpcContext.replyLinks (by
      simp [IpcContext.replyLinks, hsource, hdestination, hanswer])) fun _ => Iff.rfl
    fits := ?_
    priority := ?_
    idleAffinity := ?_
    aligned := ?_ }
  · by_cases hid : id = .user address
    · obtain ⟨ready, hqueues, -⟩ := h.ready
      have hout : ∀ c p, place id ≠ .ready c p := by simp [hid, hparked]
      have hflag := h.not_flagged hout
      rw [hid, hnew.1, ← hid, hflag, (hqueues.loose id hflag).1, (hqueues.loose id hflag).2]
      exact ⟨rfl, rfl, rfl⟩
    · rw [(hothers id hid).1]
      exact ⟨rfl, rfl, rfl⟩
  · obtain ⟨waiting, hfamily, hmem, hcurrent, hstate⟩ := h.ipc
    refine ⟨waiting, hfamily.congr fun port id hin => ?_, hmem, fun id port => ?_, hstate⟩
    · rw [(hothers id (by rintro rfl; simp [hparked, hmem] at hin)).2]
      exact ⟨rfl, rfl⟩
    · by_cases hid : id = .user address
      · rw [hid, hnew.2, hparked]
        simp
      · rw [(hothers id hid).2, hcurrent]
  · obtain ⟨waiting, hfamily, hmem, hcurrent, hstate⟩ := h.notification
    refine ⟨waiting, hfamily.congr fun port id hin => ?_, hmem, fun id port => ?_, hstate⟩
    · rw [(hothers id (by rintro rfl; simp [hparked, hmem] at hin)).2]
      exact ⟨rfl, rfl⟩
    · by_cases hid : id = .user address
      · rw [hid, hnew.2, hparked]
        simp
      · rw [(hothers id hid).2, hcurrent]
  · intro id hhole
    by_cases hid : id = .user address
    · rw [hid, hparked]
      exact .inl (by rw [hnew.1])
    · obtain ⟨hprocess, hcontext⟩ := hothers id hid
      exact (h.fits id hhole).congr (by rw [hprocess]) (by rw [hprocess])
        (by rw [hcontext]) fun _ _ => rfl
  · intro id
    by_cases hid : id = .user address
    · rw [hid, hnew.1]
      decide
    · rw [(hothers id hid).1]
      exact h.priority id
  · intro core hcore
    have haffinity := h.idleAffinity core hcore
    unfold ProcState.affinity at haffinity ⊢
    rwa [(hothers (.idle core) (by simp)).1]
  · intro hsmp id
    by_cases hid : id = .user address
    · rw [hid, hnew.1]
    · rw [(hothers id hid).1]
      exact h.aligned hsmp id

theorem reroot (harrived : Arrived place)
    (root : ProcessId → Word) (hidle : ∀ core, root (.idle core) ≠ 0)
    (hroot : s.lax = false → ∀ id, ¬ st.Stopped id → root id ≠ 0) :
    Placed { s with root := root } none none st place := by
  refine ⟨h.ready, h.ipc, h.notification, h.cores, h.current, h.replies, h.fits, h.idle, h.priority,
    h.idleAffinity, h.aligned, hidle, fun hlax id hid => ?_, h.existing⟩
  apply hroot hlax id
  intro hstopped
  apply hid
  apply h.parked_of_stopped harrived hstopped
  by_contra hsource
  have hfits := h.fits id (by simp)
  rw [(h.replies.place id).mp hsource] at hfits
  obtain ⟨-, hblocked | ⟨-, hblocked | hblocked⟩⟩ := hfits
  · simp [Stopped, hblocked] at hstopped
  · simp [Stopped, hblocked] at hstopped
  · exact absurd hlax (by simp [hblocked.1])

end

end Placed

/-! ## Whole runs -/

theorem bootPlace_cases (id : ProcessId) : (∃ core, id = .idle core ∧ m.bootPlace id = .idle) ∨
      (id = .user m.init ∧ m.bootPlace id = .current 0) ∨
      ((∀ core, id ≠ .idle core) ∧ m.bootPlace id = .parked ∧ m.boot.proc.processes id = {}) := by
  cases id with
  | idle core => exact .inl ⟨core, rfl, rfl⟩
  | user address =>
    by_cases hinit : address = m.init
    · exact .inr (.inl ⟨by rw [hinit], if_pos hinit⟩)
    · exact .inr (.inr ⟨by simp, if_neg hinit, if_neg hinit⟩)

theorem arrived_bootPlace : Arrived m.bootPlace := by
  intro id
  rcases bootPlace_cases (m := m) id with ⟨core, rfl, hplace⟩ | ⟨rfl, hplace⟩ | ⟨-, hplace, -⟩ <;>
    simp [hplace]

theorem boot_queues (core priority : Nat) : m.boot.proc.queue core priority = {} := by
  unfold ProcState.queue Machine.boot
  dsimp only
  split_ifs <;> rfl

theorem placed_boot (m : Machine) (lax : Bool) :
    Placed (m.setting lax) none none m.boot m.bootPlace := by
  have hunlisted : ∀ id, (m.boot.proc.processes id).next = none ∧
      (m.boot.proc.processes id).preview = none ∧
      (m.boot.proc.processes id).isInReadyQueue = false := by
    intro id
    unfold Machine.boot
    cases id with
    | idle core => exact ⟨rfl, rfl, rfl⟩
    | user address =>
      dsimp only
      split_ifs <;> exact ⟨rfl, rfl, rfl⟩
  have hplaces : ∀ id, m.bootPlace id = .idle ∨ m.bootPlace id = .current 0 ∨
      m.bootPlace id = .parked := by
    intro id
    rcases bootPlace_cases (m := m) id with ⟨-, -, h⟩ | ⟨-, h⟩ | ⟨-, h, -⟩ <;> simp [h]
  have hempty : ∀ {κ : Type} (next preview : ProcessId → Option ProcessId),
      QueueFamily next preview (fun _ : κ => none) (fun _ : κ => none) fun _ => [] :=
    fun _ _ => ⟨fun _ => .empty, fun h => by simp at h⟩
  refine ⟨⟨fun _ _ => [], ⟨?_, ?_, ?_, ?_, ?_, ?_, ?_⟩, ?_⟩,
    ⟨fun _ => [], hempty _ _, ?_, ?_, fun _ => by simp [Machine.boot]⟩,
    ⟨fun _ => [], hempty _ _, ?_, ?_, fun _ => by simp [Machine.boot]⟩, ?_, ?_, ?_, ?_, ?_, ?_, ?_,
    ?_, ?_, ?_, ?_⟩
  · intro core priority
    rw [boot_queues]
    exact .empty
  · intro id
    simp [(hunlisted id).2.2]
  · intro id _ _ _ _ hin
    simp at hin
  · intro id _
    exact ⟨(hunlisted id).1, (hunlisted id).2.1⟩
  · exact fun _ _ _ => rfl
  · intro id _ _ hin
    simp at hin
  · exact le_rfl
  · intro id core priority
    rcases hplaces id with h | h | h <;> simp [h]
  · intro id port
    rcases hplaces id with h | h | h <;> simp [h]
  · intro id port
    rcases hplaces id with h | h | h <;> simp [h, Machine.boot]
  · intro id port
    rcases hplaces id with h | h | h <;> simp [h]
  · intro id port
    rcases hplaces id with h | h | h <;> simp [h, Machine.boot]
  · intro core
    unfold CoreHolds
    by_cases hcore : core < m.coreCount
    · by_cases hzero : core = 0
      · subst hzero
        simp [Machine.boot, Machine.bootPlace, hcore]
      · simp [Machine.boot, hcore, hzero]
    · simp [Machine.boot, hcore]
  · intro id core hcore
    rcases bootPlace_cases (m := m) id with ⟨_, rfl, h⟩ | ⟨rfl, h⟩ | ⟨-, h, -⟩ <;>
      rw [h] at hcore <;> cases hcore
    simp [Machine.boot, m.online]
  · exact ⟨fun _ _ => by simp [Machine.boot], fun id => by
      rcases hplaces id with h | h | h <;> simp [h, Machine.boot], fun _ => by simp [Machine.boot],
      fun _ => by simp [Machine.boot]⟩
  · intro id _
    rcases bootPlace_cases (m := m) id with ⟨_, rfl, h⟩ | ⟨rfl, h⟩ | ⟨-, h, hprocess⟩ <;> rw [h]
    · rfl
    · refine ⟨by simp [Machine.boot], rfl, ?_⟩
      simp [Machine.boot, ProcState.affinity]
    · exact .inl (by rw [hprocess])
  · intro id
    rcases bootPlace_cases (m := m) id with ⟨core, rfl, h⟩ | ⟨rfl, h⟩ | ⟨huser, h, -⟩
    · simp [h]
    · simp [h]
    · simpa [h] using huser
  · intro id
    rcases bootPlace_cases (m := m) id with ⟨core, rfl, -⟩ | ⟨rfl, -⟩ | ⟨-, -, hprocess⟩
    · simp [Machine.boot, priorityMax]
    · simp [Machine.boot, priorityMax]
    · simp [hprocess, priorityMax]
  · intro core hcore
    have hlt : core < m.coreCount := by
      by_contra hge
      simp [Machine.boot, hge] at hcore
    have hbound := m.bounded
    have hsingle := m.single
    unfold cpuCountMax at hbound
    unfold ProcState.affinity
    split_ifs with hsmp
    · simp only [Machine.boot, hlt, if_true, BitVec.toNat_ofNat]
      omega
    · have := hsingle (by simpa [Machine.setting] using hsmp)
      omega
  · intro hsmp id
    have hsingle := m.single hsmp
    rcases bootPlace_cases (m := m) id with ⟨core, rfl, -⟩ | ⟨rfl, -⟩ | ⟨-, -, hprocess⟩
    · by_cases hcore : core < m.coreCount
      · obtain rfl : core = 0 := by omega
        simp [Machine.boot]
      · simp [Machine.boot, hcore]
    · simp [Machine.boot]
    · simp [hprocess]
  · exact fun _ => by simp [Machine.setting]
  · exact fun _ _ _ => by simp [Machine.setting]
  · intro id hparked hidle
    rcases bootPlace_cases (m := m) id with ⟨core, rfl, h⟩ | ⟨rfl, -⟩ | ⟨-, h, -⟩
    · exact absurd h hidle
    · exact m.init_mem
    · exact absurd h hparked

theorem Coherent.entered {lax : Bool} (h : Coherent (m.setting lax) st)
    (hpossible : m.Possible e st entry) (hreliable : st.Reliable e entry)
    (hrooted : lax = false → st.Rooted e entry) :
    Setting.Admits { m.setting lax with root := e.root } e ∧
      ∃ place, Placed { m.setting lax with root := e.root } none none st place ∧ Arrived place := by
  obtain ⟨place, hplaced, harrived⟩ := h
  refine ⟨⟨hpossible.platform, rfl, hreliable.2, fun hsmp => ?_⟩, place,
    hplaced.reroot harrived e.root hpossible.idleRoot fun hlax => (hrooted hlax).1, harrived⟩
  have hsingle := m.single (by rwa [← hpossible.platform])
  have hcore := hpossible.core
  rw [hpossible.coreCount]
  omega

section

variable {lax : Bool} {allowed : Entry → SystemState → KernelEntry → Prop}
  (hreliable : ∀ e st entry, allowed e st entry → st.Reliable e entry)
  (hrooted : lax = false → ∀ e st entry, allowed e st entry → st.Rooted e entry)
include hreliable hrooted

theorem coherent_step (h : Coherent (m.setting lax) st) (hstep : Step m allowed st st') :
    Coherent (m.setting lax) st' := by
  cases hstep with
  | entry e entry hpossible hallowed =>
    obtain ⟨hadmits, place, hentered, harrived⟩ := h.entered hpossible
      (hreliable e st entry hallowed) fun hlax => hrooted hlax e st entry hallowed
    obtain ⟨place', hplaced', harrived'⟩ := hentered.handle hadmits harrived hpossible.online
      hpossible.legal (fun hlax => (hrooted hlax e st entry hallowed).2)
      (hreliable e st entry hallowed).1
    have hleft := hplaced'.reroot harrived' (fun _ => 1) (by simp) (by simp)
    exact ⟨place', hleft, harrived'⟩
  | user halike => exact h.alike halike
  | make address hstopped hsource hdestination =>
    obtain ⟨place, hplaced, harrived⟩ := h
    have hparked := hplaced.parked_of_stopped harrived hstopped hsource
    exact ⟨place, hplaced.makeProcess hparked hsource hdestination, harrived⟩

theorem coherent_run
    (hrun : Relation.ReflTransGen (Step m allowed) m.boot st) : Coherent (m.setting lax) st := by
  induction hrun with
  | refl => exact ⟨m.bootPlace, placed_boot m lax, arrived_bootPlace⟩
  | tail _ hstep ih => exact coherent_step hreliable hrooted ih hstep

end

end SystemState

end A9N.Kernel
