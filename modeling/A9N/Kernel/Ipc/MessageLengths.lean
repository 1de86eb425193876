import A9N.Kernel.Ipc.Messages
import A9N.Kernel.Ipc.PortQueues

/-!
# The length a message announces

The receiver of a message finds the number of its payload words in register 2. For messages of
other processes and for notifications it is the number the kernel has written.
-/

namespace A9N.Kernel

namespace SystemState

inductive Delivery
  | transfer (port : Word) (sender : ProcessId) (info : Word)
  | direct (sender : ProcessId) (info : Word)
  | fault (port : Word) (sender : ProcessId)
  | pending (port : Word)
  | wake (port : Word) (current : ProcessId)

def notificationWords (flag : Word) : List (Nat × Word) :=
  [(messageInfoIndex, MessageInfo.make false 0 0 2), (identifierIndex, flag)]

namespace Delivery

def Delivers (e : Entry) (receiver : ProcessId) (st st' : SystemState) : Delivery → Prop
  | transfer port sender info => st.transferMessage e port receiver sender info = .ok () st'
  | direct sender info => st.transferDirectMessage e receiver sender info = .ok () st'
  | fault port sender => st.transferFaultMessage e port receiver sender = .ok () st'
  | pending port => e.boundNotification receiver = some port ∧
      st.tryDeliverPendingBindedNotification e receiver = .ok true st'
  | wake port current => (st.notifications port).bindedProcess = some receiver ∧
      st.tryWakeBindedProcess e port current = .ok () st'

def words (e : Entry) (st : SystemState) : Delivery → List (Nat × Word)
  | transfer _ sender info | direct sender info => messageWords e sender info st
  | fault _ sender => (st.faultMessage e sender).getD []
  | pending port | wake port _ => notificationWords (st.notifications port).flag

def IsFault : Delivery → Prop
  | fault _ _ => True
  | _ => False

end Delivery

/-- The message registers are as if the words had been written and nothing else. -/
def Holds (e : Entry) (receiver : ProcessId) (words : List (Nat × Word)) (st st' : SystemState) :
    Prop :=
  ∃ written, st.writeMessageRegisters e receiver words = .ok () written ∧ SameWords written st'

def Truthful (words : List (Nat × Word)) : Prop :=
  ∀ info, (messageInfoIndex, info) ∈ words → ∀ index, payloadStart ≤ index →
    (index ∈ words.map Prod.fst ↔ index < payloadStart + MessageInfo.messageLength info)

variable {e : Entry} {st st' : SystemState} {receiver sender : ProcessId}

/-! ## What is written -/

theorem Holds.after {words : List (Nat × Word)} {st'' : SystemState}
    (h : Holds e receiver words st st') (hafter : SameWords st' st'') :
    Holds e receiver words st st'' := by
  obtain ⟨written, hwritten, hsame⟩ := h
  exact ⟨written, hwritten, hsame.trans hafter⟩

theorem SameWords.holds (h : SameWords st st') (receiver : ProcessId) (words : List (Nat × Word)) :
    (st'.writeMessageRegisters e receiver words).Post
      (fun _ written => Holds e receiver words st written) fun _ _ => True := by
  have hrelated := h.writeMessageRegisters (e := e) receiver words
  unfold Holds
  generalize st.writeMessageRegisters e receiver words = o at hrelated ⊢
  generalize st'.writeMessageRegisters e receiver words = o' at hrelated ⊢
  obtain ⟨result, state⟩ := o
  obtain ⟨result', state'⟩ := o'
  obtain rfl : result = result' := hrelated.result
  cases result with
  | error error => trivial
  | ok value => exact ⟨state, rfl, hrelated.state⟩

theorem removeIpcQueue_sameWords (port : Word) (target : ProcessId) (st : SystemState) :
    SameWords st (st.removeIpcQueue port target).state ∧
      (st.removeIpcQueue port target).state.notifications = st.notifications := by
  unfold removeIpcQueue
  dsimp only
  split
  · exact ⟨.refl st, rfl⟩
  · constructor
    · apply SameWords.modifyPort
      refine SameWords.modifyContext ?_ (by intro; rfl)
      split <;> split
      · exact ((SameWords.refl st).modifyContext (by intro; rfl)).modifyContext (by intro; rfl)
      · exact (SameWords.refl st).modifyPort.modifyContext (by intro; rfl)
      · exact ((SameWords.refl st).modifyContext (by intro; rfl)).modifyPort
      · exact (SameWords.refl st).modifyPort.modifyPort
    · split <;> split <;> rfl

theorem transferFaultMessage_holds (e : Entry) (port : Word) (receiver sender : ProcessId)
    (st : SystemState) :
    (st.transferFaultMessage e port receiver sender).Post
      (fun _ st' => ∃ message, st.faultMessage e sender = some message ∧
        Holds e receiver message st st') fun _ _ => True := by
  apply post_counted
  split
  · trivial
  · -- the test of the queue changes the port alone
    have hsame : (st.modifyPort port fun port =>
      if port.queueHead = none then { port with state := .wait } else port).faultMessage e sender =
        st.faultMessage e sender := rfl
    simp only [hsame]
    cases hmessage : st.faultMessage e sender with
    | none => trivial
    | some message =>
      exact ((SameWords.refl st).modifyPort.holds receiver message).mono
        (fun _ _ hholds => ⟨message, rfl, hholds⟩) fun _ _ h => h

theorem tryDeliverPendingBindedNotification_holds (st : SystemState) {port : Word}
    (hbound : e.boundNotification receiver = some port) :
    (st.tryDeliverPendingBindedNotification e receiver).Post
      (fun delivered st' => delivered = true →
        Holds e receiver (notificationWords (st.notifications port).flag) st st')
      fun _ _ => True := by
  unfold tryDeliverPendingBindedNotification
  simp only [hbound]
  split
  · have hconsumed : SameWords st (st.modifyNotification port NotificationPort.consume) :=
      ⟨rfl, rfl, fun _ => rfl⟩
    exact (hconsumed.holds receiver _).andThen fun _ _ hholds _ => hholds
  · exact fun hdelivered => by cases hdelivered

theorem tryWakeBindedProcess_holds {port : Word} (current : ProcessId)
    (hbound : (st.notifications port).bindedProcess = some receiver) :
    (st.tryWakeBindedProcess e port current).Post
      (fun _ st' => Holds e receiver (notificationWords (st.notifications port).flag) st st')
      fun _ _ => True := by
  unfold tryWakeBindedProcess
  simp only [hbound]
  split
  · trivial
  split
  · trivial
  case h_2 ipcPort _ =>
    apply Outcome.Post.andThen
      (Q := fun _ st1 => SameWords st st1 ∧ st1.notifications = st.notifications)
    · apply Outcome.Post.transformError
      exact (Outcome.post_of_state (removeIpcQueue_sameWords ipcPort receiver st)).mono
        (fun _ _ h => h) fun _ _ _ => trivial
    · rintro _ st1 ⟨hremoved, hnotifications⟩
      rw [hnotifications]
      have hconsumed : SameWords st (st1.modifyNotification port NotificationPort.consume) :=
        ⟨hremoved.registers, hremoved.buffers, hremoved.buffer⟩
      apply (hconsumed.holds receiver _).andThen
      intro _ written hholds
      apply Outcome.Post.transformError
      refine (Outcome.post_of_state (P := Holds e receiver _ st) ?_).mono (fun _ _ h => h)
        fun _ _ _ => trivial
      have hready : SameWords written (written.setStatus receiver .ready) := ⟨rfl, rfl, fun _ => rfl⟩
      have hafter : SameWords written ((written.setStatus receiver .ready).modifyContext receiver
          fun context => { context with currentIpcPort := none, currentNotificationPort := none }) :=
        hready.modifyContext fun _ => rfl
      exact hholds.after ⟨hafter.registers, hafter.buffers, hafter.buffer⟩

theorem Delivery.holds {delivery : Delivery} (h : delivery.Delivers e receiver st st') :
    Holds e receiver (delivery.words e st) st st' := by
  cases delivery with
  | transfer port sender info =>
    have harrives := transferMessage_arrives e port receiver sender info st
    rw [show st.transferMessage e port receiver sender info = .ok () st' from h] at harrives
    exact ⟨st', harrives.1, .refl st'⟩
  | direct sender info =>
    have harrives := transferDirectMessage_arrives e receiver sender info st
    rw [show st.transferDirectMessage e receiver sender info = .ok () st' from h] at harrives
    exact ⟨st', harrives.1, .refl st'⟩
  | fault port sender =>
    have hfault := transferFaultMessage_holds e port receiver sender st
    rw [show st.transferFaultMessage e port receiver sender = .ok () st' from h] at hfault
    obtain ⟨message, hmessage, hholds⟩ := hfault
    rw [Delivery.words, hmessage]
    exact hholds
  | pending port =>
    have hpending := tryDeliverPendingBindedNotification_holds st h.1
    rw [h.2] at hpending
    exact hpending rfl
  | wake port current =>
    have hwake := tryWakeBindedProcess_holds (e := e) current h.1
    rw [h.2] at hwake
    exact hwake

/-! ## Truthfulness -/

theorem truthful_messageWords (e : Entry) (sender : ProcessId) (info : Word) (st : SystemState) :
    Truthful (messageWords e sender info st) := by
  intro info' hinfo index hindex
  have hsame : info' = info := by
    rcases List.mem_cons.mp hinfo with heq | hmem
    · exact congrArg Prod.snd heq
    rcases List.mem_cons.mp hmem with heq | hmem
    · cases heq
    · have hle := (mem_payloadWords_indices.mp (List.mem_map_of_mem (f := Prod.fst) hmem)).1
      exact absurd hle (show ¬ payloadStart + 0 ≤ messageInfoIndex by decide)
  rw [hsame, messageWords, List.map_cons, List.map_cons, List.mem_cons, List.mem_cons,
    mem_payloadWords_indices]
  unfold messageInfoIndex identifierIndex payloadStart at *
  omega

theorem truthful_notificationWords (flag : Word) : Truthful (notificationWords flag) := by
  intro info hinfo index hindex
  have hinfo : info = MessageInfo.make false 0 0 2 := by
    rcases List.mem_cons.mp hinfo with heq | hmem
    · exact congrArg Prod.snd heq
    · cases List.mem_singleton.mp hmem
  have hlength : MessageInfo.messageLength info = 0 := by
    rw [hinfo]
    decide
  rw [hlength]
  unfold payloadStart at *
  simp [notificationWords, messageInfoIndex, identifierIndex]
  omega

theorem not_truthful_of_short {words : List (Nat × Word)} {info : Word} (length : Nat)
    (hpos : 0 < length) (hinfo : (messageInfoIndex, info) ∈ words)
    (hlength : MessageInfo.messageLength info = length)
    (hshort : ∀ index ∈ words.map Prod.fst, index < length) : ¬ Truthful words := by
  intro htruthful
  have hwords := htruthful info hinfo (payloadStart + length - 1) (by omega)
  have hmem := hwords.mpr (by omega)
  have := hshort _ hmem
  unfold payloadStart at this
  omega

theorem mem_faultContext_indices {index : Nat} : index ∈ (st.faultContext e sender).map Prod.fst ↔
      7 ≤ index ∧ index < 7 + hardwareContextSize e.platform.architecture := by
  rw [faultContext, List.map_map, List.mem_map]
  constructor
  · rintro ⟨i, hi, rfl⟩
    have := List.mem_range.mp hi
    simp only [Function.comp_apply]
    omega
  · rintro ⟨hle, hlt⟩
    exact ⟨index - 7, List.mem_range.mpr (by omega), by simp only [Function.comp_apply]; omega⟩

theorem not_truthful_faultMessage {message : List (Nat × Word)}
    (h : st.faultMessage e sender = some message) : ¬ Truthful message := by
  have hmem : ∀ (context : IpcContext) (length : Nat) (rest : List (Nat × Word)),
      (messageInfoIndex, MessageInfo.make false length 0 1) ∈ faultHeader context length ++ rest :=
    fun _ _ _ => by simp [faultHeader]
  unfold faultMessage at h
  cases hreason : (st.contexts sender).faultReason with
  | memory | memoryInstructionFetch =>
    simp only [hreason, Option.some.injEq] at h
    subst h
    apply not_truthful_of_short 8 (by decide) (hmem _ 8 _) (by decide)
    simp [faultHeader, messageInfoIndex, identifierIndex]
  | invalidInstruction | invalidArithmetic | architecture =>
    simp only [hreason, Option.some.injEq] at h
    subst h
    apply not_truthful_of_short 7 (by decide) (hmem _ 7 _) (by decide)
    simp [faultHeader, messageInfoIndex, identifierIndex]
  | invalidKernelCall =>
    simp only [hreason, Option.some.injEq] at h
    subst h
    have hlength : MessageInfo.messageLength (MessageInfo.make false
        (7 + hardwareContextSize e.platform.architecture) 0 1) =
          7 + hardwareContextSize e.platform.architecture := by
      cases e.platform.architecture <;> decide
    rw [List.append_assoc]
    apply not_truthful_of_short _ (by omega) (hmem _ _ _) hlength
    simp only [List.map_append, List.mem_append, mem_faultContext_indices]
    simp [faultHeader, messageInfoIndex, identifierIndex]
    omega
  | none | fatal => simp [hreason] at h

/-- The announced length is the number of the words that were written, unless they report a
fault. -/
theorem delivery_truthful_iff {delivery : Delivery} (h : delivery.Delivers e receiver st st') :
    Holds e receiver (delivery.words e st) st st' ∧
      (Truthful (delivery.words e st) ↔ ¬ delivery.IsFault) := by
  refine ⟨Delivery.holds h, ?_⟩
  cases delivery with
  | transfer port sender info =>
    exact iff_of_true (truthful_messageWords e sender info st) fun hfault => hfault
  | direct sender info =>
    exact iff_of_true (truthful_messageWords e sender info st) fun hfault => hfault
  | fault port sender =>
    have hfault := transferFaultMessage_holds e port receiver sender st
    rw [show st.transferFaultMessage e port receiver sender = .ok () st' from h] at hfault
    obtain ⟨message, hmessage, -⟩ := hfault
    rw [Delivery.words, hmessage]
    exact iff_of_false (not_truthful_faultMessage hmessage) (not_not.mpr trivial)
  | pending port => exact iff_of_true (truthful_notificationWords _) fun hfault => hfault
  | wake port current => exact iff_of_true (truthful_notificationWords _) fun hfault => hfault

end SystemState

/-! ## A memory fault

The init process waits at the port that is the resolver of the third process. The message it gets
announces eight words, four of which the kernel never writes. -/

section Example

open SystemState

/-- A message of one word between two processes of the sample machine. -/
theorem delivery_truthful_iff_direct :
    Truthful ((Delivery.direct (.user 0x1000) 2).words onlyCore secondReceives) ↔
      ¬ (Delivery.direct (.user 0x1000) 2).IsFault := by
  have hresult : (secondReceives.transferDirectMessage onlyCore (.user 0x2000) (.user 0x1000)
    2).result = .ok () := by decide +kernel
  have hdelivers : (Delivery.direct (.user 0x1000) 2).Delivers onlyCore (.user 0x2000)
      secondReceives (secondReceives.transferDirectMessage onlyCore (.user 0x2000) (.user 0x1000)
        2).state :=
    congrArg (Outcome.mk · _) hresult
  exact (delivery_truthful_iff hdelivers).2

def onlyCoreHandling : Entry := { onlyCore with resolver := fun _ => some { port := 0x9000 } }

def handlerReceives : SystemState :=
  (bothResumed.say 0x1000 [0, 2, 1, 0, 0, 0, 0, 0, 0, 0x77]).handle onlyCoreHandling invokePort

def memoryFault : KernelEntry := .fault .memory 0 0x24 0xdead000

theorem handlerReceives_reachable :
    Relation.ReflTransGen (Step uniprocessor Unfailing) uniprocessor.boot handlerReceives := by
  have hcurrent : (bothResumed.proc.cpus 0).currentProcess = some (.user 0x1000) := by
    decide +kernel
  have hlegal : invokePort.Legal uniprocessor.existing (bothResumed.proc.cpus 0).currentProcess := by
    rw [hcurrent]
    exact legal_invokePort
  have hreceives : Step uniprocessor Unfailing
      (bothResumed.say 0x1000 [0, 2, 1, 0, 0, 0, 0, 0, 0, 0x77]) handlerReceives :=
    .entry onlyCoreHandling _ ⟨rfl, rfl, by decide, fun hnone => absurd (hcurrent.symm.trans hnone)
        (by simp), by simp [onlyCoreHandling, onlyCore], hlegal⟩
      ⟨⟨by decide +kernel, by simp [onlyCoreHandling, onlyCore, uniprocessor]⟩,
        fun _ _ => by simp [onlyCoreHandling, onlyCore],
        fun _ _ => by simp [onlyCoreHandling, onlyCore]⟩
  exact (bothResumed_reachable.tail (.user (alike_say _ _ _))).tail hreceives

/-- The handler is told of eight words, of which the fifth is its own. -/
theorem memory_fault_announces_stale_word :
    Relation.ReflTransGen (Step uniprocessor Unfailing) uniprocessor.boot handlerReceives ∧
      (handlerReceives.proc.cpus 0).currentProcess = some (.user 0x2000) ∧
      MessageInfo.source ((handlerReceives.handle onlyCoreHandling memoryFault).messageRegister
        onlyCoreHandling (.user 0x1000) messageInfoIndex) = 1 ∧
      MessageInfo.messageLength ((handlerReceives.handle onlyCoreHandling
        memoryFault).messageRegister onlyCoreHandling (.user 0x1000) messageInfoIndex) = 8 ∧
      handlerReceives.messageRegister onlyCoreHandling (.user 0x1000) 8 = 0x77 ∧
      (handlerReceives.handle onlyCoreHandling memoryFault).messageRegister onlyCoreHandling
        (.user 0x1000) 8 = 0x77 :=
  ⟨handlerReceives_reachable, by decide +kernel, by decide +kernel, by decide +kernel,
    by decide +kernel, by decide +kernel⟩

end Example

end A9N.Kernel
