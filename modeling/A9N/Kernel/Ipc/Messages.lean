import A9N.Kernel.Ipc.NotificationPort

/-!
# The words of a message

A message register is a saved register of its process below index ten and a word of its IPC buffer
above. `copy_messages` runs through both in two loops.
-/

namespace A9N.Kernel

open MessageInfo List

theorem messageRegisterIndex_ne {architecture : Architecture} {index index' : Nat}
    (hne : index ≠ index') (hindex : index < messageRegisterCount)
    (hindex' : index' < messageRegisterCount) :
    messageRegisterIndex architecture index ≠ messageRegisterIndex architecture index' := by
  unfold messageRegisterCount at hindex hindex'
  cases architecture with
  | x86_64 => interval_cases index <;> interval_cases index' <;> simp_all [messageRegisterIndex]
  | aarch64 =>
    simp only [messageRegisterIndex]
    split_ifs <;> omega

namespace SystemState

variable {e : Entry} {st st' st'' : SystemState} {id other destination source : ProcessId}
  {index index' : Nat} {value : Word}

/-! ## One word -/

def HasMessageRegister (st : SystemState) (id : ProcessId) (index : Nat) : Prop :=
  index < messageRegisterCount ∨ (st.contexts id).buffer.isSome = true

structure Wrote (e : Entry) (id : ProcessId) (written : Nat → Prop) (st st' : SystemState) :
    Prop where
  registers : ∀ other register,
    (other = id → ∀ index, written index → index < messageRegisterCount →
      register ≠ messageRegisterIndex e.platform.architecture index) →
    st'.registers other register = st.registers other register
  buffers : ∀ buffer word,
    ((st.contexts id).buffer = some buffer → written word → word < messageRegisterCount) →
    st'.buffers buffer word = st.buffers buffer word
  rest : st' = { st with registers := st'.registers, buffers := st'.buffers }

namespace Wrote

variable {written written' : Nat → Prop}

theorem refl (e : Entry) (id : ProcessId) (written : Nat → Prop) (st : SystemState) :
    Wrote e id written st st := ⟨fun _ _ _ => rfl, fun _ _ _ => rfl, rfl⟩

section

variable (h : Wrote e id written st st')
include h

theorem contexts : st'.contexts = st.contexts := by
  rw [h.rest]

theorem mono (himp : ∀ index, written index → written' index) : Wrote e id written' st st' :=
  ⟨fun other register hout => h.registers other register fun heq index hindex =>
      hout heq index (himp index hindex),
    fun buffer word hout => h.buffers buffer word fun heq hword => hout heq (himp word hword), h.rest⟩

theorem trans (h' : Wrote e id written st' st'') : Wrote e id written st st'' := by
  refine ⟨fun other register hout => (h'.registers other register hout).trans
    (h.registers other register hout), fun buffer word hout => ?_, ?_⟩
  · rw [h'.buffers buffer word (by rwa [h.contexts]), h.buffers buffer word hout]
  · rw [h'.rest, h.rest]

theorem getMessageRegister (hindex : ¬ written index)
    (other : ProcessId) : st'.getMessageRegister e other index = st.getMessageRegister e other index := by
  unfold SystemState.getMessageRegister
  rw [h.contexts]
  split
  case isTrue hlow =>
    rw [h.registers]
    rintro - index' hindex' hlow'
    exact messageRegisterIndex_ne (fun heq => hindex (heq ▸ hindex')) hlow hlow'
  case isFalse =>
    split
    · rfl
    · rw [h.buffers _ _ fun _ hwritten => absurd hwritten hindex]

theorem getMessageRegister_of_ne (hne : other ≠ id)
    (hdistinct : ∀ buffer, (st.contexts id).buffer = some buffer →
      (st.contexts other).buffer ≠ some buffer) (index : Nat) :
    st'.getMessageRegister e other index = st.getMessageRegister e other index := by
  unfold SystemState.getMessageRegister
  rw [h.contexts]
  split
  · rw [h.registers _ _ fun heq => absurd heq hne]
  · split
    · rfl
    case h_2 buffer hbuffer => rw [h.buffers _ _ fun heq => absurd hbuffer (hdistinct buffer heq)]

end

end Wrote

theorem configureMessageRegister_spec (e : Entry) (st : SystemState) (id : ProcessId) (index : Nat)
    (value : Word) :
    (st.configureMessageRegister e id index value).Post
      (fun _ st' => Wrote e id (· = index) st st' ∧ st.HasMessageRegister id index ∧
        st'.getMessageRegister e id index = .ok value)
      fun _ st' => st' = st ∧ ¬ st.HasMessageRegister id index := by
  unfold configureMessageRegister HasMessageRegister getMessageRegister
  split
  case isTrue hlow =>
    refine ⟨⟨fun other register hout => ?_, fun _ _ _ => rfl, rfl⟩, .inl hlow, ?_⟩
    · by_cases hother : other = id
      · have hregister := hout hother index rfl hlow
        subst hother
        simp [setRegister, hregister]
      · simp [setRegister, hother]
    · simp [setRegister]
  case isFalse hhigh =>
    split
    case h_1 hbuffer => exact ⟨rfl, by simp [hhigh, hbuffer]⟩
    case h_2 buffer hbuffer =>
      refine ⟨⟨fun _ _ _ => rfl, fun buffer' word hout => ?_, rfl⟩, .inr (by simp [hbuffer]), ?_⟩
      · by_cases hsame : buffer' = buffer
        · have hword : word ≠ index := fun heq => hhigh (heq ▸ hout (hsame ▸ hbuffer) heq)
          simp [setBufferWord, hsame, hword]
        · simp [setBufferWord, hsame]
      · rw [Outcome.ok_state, show ((st.setBufferWord buffer index value).contexts id).buffer =
          some buffer from hbuffer]
        simp [setBufferWord]

theorem Wrote.hasMessageRegister {written : Nat → Prop} (h : Wrote e id written st st')
    (other : ProcessId) (index : Nat) :
    st'.HasMessageRegister other index ↔ st.HasMessageRegister other index := by
  rw [HasMessageRegister, HasMessageRegister, h.contexts]

theorem hasMessageRegister_iff (e : Entry) (st : SystemState) (id : ProcessId) (index : Nat) :
    st.HasMessageRegister id index ↔ ∃ value, st.getMessageRegister e id index = .ok value := by
  unfold HasMessageRegister getMessageRegister
  by_cases hlow : index < messageRegisterCount
  · simp [hlow]
  · cases hbuffer : (st.contexts id).buffer with
    | none => simp [hlow]
    | some buffer => simp [hlow]

/-! ## States with the same words -/

structure SameWords (st st' : SystemState) : Prop where
  registers : st'.registers = st.registers
  buffers : st'.buffers = st.buffers
  buffer : ∀ id, (st'.contexts id).buffer = (st.contexts id).buffer

namespace SameWords

theorem refl (st : SystemState) : SameWords st st := ⟨rfl, rfl, fun _ => rfl⟩

theorem trans (h : SameWords st st') (h' : SameWords st' st'') : SameWords st st'' :=
  ⟨h'.registers.trans h.registers, h'.buffers.trans h.buffers,
    fun id => (h'.buffer id).trans (h.buffer id)⟩

section

variable (h : SameWords st st') (id : ProcessId)
include h

theorem getMessageRegister (index : Nat) :
    st'.getMessageRegister e id index = st.getMessageRegister e id index := by
  unfold SystemState.getMessageRegister
  rw [h.registers, h.buffer, h.buffers]

theorem configureMessageRegister (index : Nat) (value : Word) :
    Outcome.Related SameWords (st.configureMessageRegister e id index value)
      (st'.configureMessageRegister e id index value) := by
  unfold SystemState.configureMessageRegister
  rw [h.buffer]
  split
  · exact .ok () ⟨by simp [setRegister, h.registers], h.buffers, h.buffer⟩
  · split
    · exact .error _ h
    · exact .ok () ⟨h.registers, by simp [setBufferWord, h.buffers], h.buffer⟩

theorem writeMessageRegisters (words : List (Nat × Word)) :
    Outcome.Related SameWords (st.writeMessageRegisters e id words)
      (st'.writeMessageRegisters e id words) := by
  induction words generalizing st st' with
  | nil => exact .ok () h
  | cons word words ih =>
    exact ((h.configureMessageRegister id word.1 word.2).transformError _).andThen
      fun _ _ _ h => ih h

end

theorem modifyContext {f : IpcContext → IpcContext} (h : SameWords st st')
    (hf : ∀ context, (f context).buffer = context.buffer) :
    SameWords st (st'.modifyContext id f) := by
  refine ⟨h.registers, h.buffers, fun other => ?_⟩
  rw [modifyContext_contexts, ← h.buffer]
  split
  case isTrue heq => rw [hf, heq]
  case isFalse => rfl

theorem modifyPort {port : Word} {f : IpcPort → IpcPort} (h : SameWords st st') :
    SameWords st (st'.modifyPort port f) := ⟨h.registers, h.buffers, h.buffer⟩

theorem setStatus {status : ProcessStatus} (h : SameWords st st') :
    SameWords st (st'.setStatus id status) := ⟨h.registers, h.buffers, h.buffer⟩

end SameWords

/-! ## The copy -/

/-- `MESSAGE_BUFFER_SIZE_MAX`: the words of a page less those for capability transfers. -/
def messageBufferSizeMax : Nat := 4096 / 8 - (16 + 2)

def registerPayloadCount : Nat := messageRegisterCount - payloadStart

def configureValueFromRegister (e : Entry) (destination source : ProcessId) (i : Nat)
    (st : SystemState) : Outcome KernelError SystemState Unit :=
  let index := i + payloadStart
  let result : Outcome HalError SystemState Unit :=
    match st.getMessageRegister e source index with
    | .error error => .error error st
    | .ok value => st.configureMessageRegister e destination index value
  result.transformError convertHalToKernelError

/-- The first loop of `copy_messages`, from `i` on. It reports whether the message ended in it. -/
def copyToRegisters (e : Entry) (destination source : ProcessId) (messageLength : Nat) :
    Nat → Nat → SystemState → Outcome KernelError SystemState Bool
  | 0, _, st => .ok false st
  | rounds + 1, i, st =>
    if i = messageLength then .ok true st
    else (configureValueFromRegister e destination source i st).andThen
      fun _ st => copyToRegisters e destination source messageLength rounds (i + 1) st

def copyToBuffer (e : Entry) (destination source : ProcessId) :
    Nat → Nat → SystemState → Outcome KernelError SystemState Unit
  | 0, _, st => .ok () st
  | rounds + 1, i, st =>
    (configureValueFromRegister e destination source i st).andThen
      fun _ st => copyToBuffer e destination source rounds (i + 1) st

/-- `copy_messages` as it is written, with its two loops. -/
def copyMessagesInParts (e : Entry) (destination source : ProcessId) (messageLength : Nat)
    (st : SystemState) : Outcome KernelError SystemState Unit :=
  (copyToRegisters e destination source messageLength registerPayloadCount 0 st).andThen
    fun ended st =>
      if ended then .ok () st
      else copyToBuffer e destination source (messageLength - registerPayloadCount)
        registerPayloadCount st

section

variable (e : Entry) (destination source : ProcessId)

theorem copyMessages_succ (count i : Nat) (st : SystemState) :
    st.copyMessages e destination source (count + 1) i =
      (configureValueFromRegister e destination source i st).andThen
        fun _ st => st.copyMessages e destination source count (i + 1) := by
  unfold configureValueFromRegister
  rw [copyMessages, Nat.add_comm payloadStart i]
  dsimp only
  cases st.getMessageRegister e source (i + payloadStart) with
  | error error => rfl
  | ok value => rfl

theorem copyToBuffer_eq (rounds i : Nat) (st : SystemState) :
    copyToBuffer e destination source rounds i st = st.copyMessages e destination source rounds i := by
  induction rounds generalizing i st with
  | zero => rfl
  | succ rounds ih =>
    rw [copyToBuffer, copyMessages_succ]
    congr 1
    funext _ st
    exact ih (i + 1) st

theorem copyToRegisters_eq (messageLength rounds i : Nat)
    (hi : i ≤ messageLength) (st : SystemState) :
    ((copyToRegisters e destination source messageLength rounds i st).andThen fun ended st =>
      if ended then .ok () st
      else copyToBuffer e destination source (messageLength - (i + rounds)) (i + rounds) st) =
      st.copyMessages e destination source (messageLength - i) i := by
  induction rounds generalizing i st with
  | zero =>
    rw [copyToRegisters, Outcome.andThen_ok, if_neg (by simp), copyToBuffer_eq]
    rfl
  | succ rounds ih =>
    rw [copyToRegisters]
    split
    case isTrue heq => rw [Outcome.andThen_ok, if_pos rfl, heq, Nat.sub_self, copyMessages]
    case isFalse hne =>
      have hcount : messageLength - i = messageLength - (i + 1) + 1 := by omega
      rw [Outcome.andThen_assoc, hcount, copyMessages_succ]
      congr 1
      funext _ st
      rw [← ih (i + 1) (by omega) st, Nat.add_right_comm i 1 rounds]
      rfl

theorem copyMessagesInParts_eq (messageLength : Nat) (st : SystemState) :
    copyMessagesInParts e destination source messageLength st =
      st.copyMessages e destination source messageLength 0 := by
  have h := copyToRegisters_eq e destination source messageLength registerPayloadCount 0
    (Nat.zero_le _) st
  rwa [Nat.zero_add, Nat.sub_zero] at h

end

/-! ## Lists of words -/

theorem writeMessageRegisters_spec (e : Entry) (id : ProcessId) (words : List (Nat × Word))
    (st : SystemState) :
    (st.writeMessageRegisters e id words).Post
      (fun _ st' => Wrote e id (· ∈ words.map Prod.fst) st st' ∧ ((words.map Prod.fst).Nodup →
        ∀ word ∈ words, st'.getMessageRegister e id word.1 = .ok word.2))
      fun _ _ => ∃ word ∈ words, ¬ st.HasMessageRegister id word.1 := by
  induction words generalizing st with
  | nil => exact ⟨Wrote.refl _ _ _ _, by simp⟩
  | cons word words ih =>
    obtain ⟨index, value⟩ := word
    rw [writeMessageRegisters]
    apply Outcome.Post.andThen (Q := fun _ st1 => Wrote e id (· = index) st st1 ∧
      st1.getMessageRegister e id index = .ok value)
    · apply Outcome.Post.transformError
      apply (configureMessageRegister_spec e st id index value).mono
      · exact fun _ st1 ⟨hwrote, _, hvalue⟩ => ⟨hwrote, hvalue⟩
      · exact fun _ st1 ⟨_, hmissing⟩ => ⟨(index, value), by simp, hmissing⟩
    · rintro _ st1 ⟨hwrote, hvalue⟩
      apply (ih st1).mono
      · rintro _ st2 ⟨hrest, hvalues⟩
        refine ⟨(hwrote.mono (by simp)).trans (hrest.mono (by simp +contextual)), ?_⟩
        rw [map_cons, nodup_cons]
        rintro ⟨hhead, hnodup⟩ word hword
        rcases mem_cons.mp hword with rfl | hword
        · rw [hrest.getMessageRegister hhead, hvalue]
        · exact hvalues hnodup word hword
      · rintro _ _ ⟨word, hword, hmissing⟩
        exact ⟨word, by simp [hword], by rwa [hwrote.hasMessageRegister] at hmissing⟩

def wordAt (e : Entry) (st : SystemState) (id : ProcessId) (index : Nat) : Word :=
  (st.getMessageRegister e id index).toOption.getD 0

def payloadWords (e : Entry) (source : ProcessId) (count i : Nat) (st : SystemState) :
    List (Nat × Word) :=
  (List.range' i count).map fun i => (payloadStart + i, st.wordAt e source (payloadStart + i))

section

variable (e : Entry) (source : ProcessId) (count i : Nat) (st : SystemState)

theorem payloadWords_succ : payloadWords e source (count + 1) i st =
      (payloadStart + i, st.wordAt e source (payloadStart + i)) ::
        payloadWords e source count (i + 1) st := by
  rw [payloadWords, range'_succ, map_cons]
  rfl

theorem payloadWords_indices : (payloadWords e source count i st).map Prod.fst =
      (range' i count).map (payloadStart + ·) := by
  rw [payloadWords, map_map]
  rfl

end

theorem mem_payloadWords_indices {count i : Nat} :
    index ∈ (payloadWords e source count i st).map Prod.fst ↔
      payloadStart + i ≤ index ∧ index < payloadStart + i + count := by
  rw [payloadWords_indices, mem_map]
  constructor
  · rintro ⟨j, hj, rfl⟩
    have := mem_range'_1.mp hj
    omega
  · rintro ⟨hle, hlt⟩
    exact ⟨index - payloadStart, mem_range'_1.mpr (by omega), by omega⟩

theorem payloadWords_nodup (e : Entry) (source : ProcessId) (count i : Nat) (st : SystemState) :
    ((payloadWords e source count i st).map Prod.fst).Nodup := by
  rw [payloadWords_indices]
  exact List.Nodup.map (add_right_injective payloadStart) nodup_range'

theorem Wrote.payloadWords {i count : Nat} (h : Wrote e id (· = payloadStart + i) st st') :
    payloadWords e source count (i + 1) st' = payloadWords e source count (i + 1) st := by
  apply map_congr_left
  intro j hj
  have hne : payloadStart + j ≠ payloadStart + i := by
    have := (mem_range'_1.mp hj).1
    omega
  rw [wordAt, wordAt, h.getMessageRegister hne]

theorem copyMessages_spec (e : Entry) (destination source : ProcessId) (count i : Nat)
    (st : SystemState) :
    (st.copyMessages e destination source count i).Post
      (fun _ st' => st.writeMessageRegisters e destination (payloadWords e source count i st) =
          .ok () st' ∧
        ∀ j, i ≤ j → j < i + count → st.HasMessageRegister source (payloadStart + j) ∧
          st.HasMessageRegister destination (payloadStart + j))
      fun _ _ => ∃ j, i ≤ j ∧ j < i + count ∧ ¬ (st.HasMessageRegister source (payloadStart + j) ∧
        st.HasMessageRegister destination (payloadStart + j)) := by
  induction count generalizing i st with
  | zero => exact ⟨rfl, by omega⟩
  | succ count ih =>
    rw [copyMessages]
    cases hvalue : st.getMessageRegister e source (payloadStart + i) with
    | error error =>
      refine ⟨i, Nat.le_refl i, by omega, fun h => ?_⟩
      obtain ⟨value, hok⟩ := (hasMessageRegister_iff e st source _).mp h.1
      rw [hvalue] at hok
      cases hok
    | ok value =>
      have hword : st.wordAt e source (payloadStart + i) = value := by
        rw [wordAt, hvalue]
        rfl
      have hhas := (hasMessageRegister_iff e st source _).mpr ⟨value, hvalue⟩
      have hconfigured := configureMessageRegister_spec e st destination (payloadStart + i) value
      rw [payloadWords_succ, hword]
      simp only [writeMessageRegisters]
      generalize st.configureMessageRegister e destination (payloadStart + i) value = o
        at hconfigured ⊢
      obtain ⟨_ | _, st1⟩ := o
      · exact ⟨i, Nat.le_refl i, by omega, fun h => hconfigured.2 h.2⟩
      · obtain ⟨hwrote, hdestination, -⟩ := hconfigured
        apply (ih (i + 1) st1).mono
        · rintro _ st2 ⟨hwritten, hregisters⟩
          rw [hwrote.payloadWords] at hwritten
          refine ⟨hwritten, fun j hle hlt => ?_⟩
          rcases Nat.eq_or_lt_of_le hle with rfl | hlt'
          · exact ⟨hhas, hdestination⟩
          · have h := hregisters j hlt' (by omega)
            rwa [hwrote.hasMessageRegister, hwrote.hasMessageRegister] at h
        · rintro _ _ ⟨j, hle, hlt, hmissing⟩
          rw [hwrote.hasMessageRegister, hwrote.hasMessageRegister] at hmissing
          exact ⟨j, by omega, by omega, hmissing⟩

/-! ## A whole message -/

def messageWords (e : Entry) (sender : ProcessId) (info : Word) (st : SystemState) :
    List (Nat × Word) :=
  (messageInfoIndex, info) :: (identifierIndex, (st.contexts sender).identifierWhenBlocked) ::
    payloadWords e sender (MessageInfo.messageLength info) 0 st

theorem messageWords_nodup (e : Entry) (sender : ProcessId) (info : Word) (st : SystemState) :
    ((messageWords e sender info st).map Prod.fst).Nodup := by
  have hlow : ∀ index < payloadStart, index ∉
      (payloadWords e sender (messageLength info) 0 st).map Prod.fst := by
    intro index hlt hmem
    have := (mem_payloadWords_indices.mp hmem).1
    omega
  rw [messageWords, map_cons, map_cons, nodup_cons, nodup_cons]
  refine ⟨fun hmem => ?_, hlow identifierIndex (by decide), payloadWords_nodup _ _ _ _ _⟩
  rcases mem_cons.mp hmem with heq | hmem
  · cases heq
  · exact hlow messageInfoIndex (by decide) hmem

theorem writeMessageRegisters_messageWords (e : Entry) (receiver sender : ProcessId) (info : Word)
    (st : SystemState) :
    st.writeMessageRegisters e receiver (messageWords e sender info st) =
      (st.writeHeader e receiver sender info).writeMessageRegisters e receiver
        (payloadWords e sender (messageLength info) 0 (st.writeHeader e receiver sender info)) := by
  have hwrote : Wrote e receiver (· ∈ [messageInfoIndex, identifierIndex]) st
      (st.writeHeader e receiver sender info) :=
    (writeMessageRegisters_spec e receiver [(messageInfoIndex, info),
      (identifierIndex, (st.contexts sender).identifierWhenBlocked)] st).1
  have hkept : payloadWords e sender (messageLength info) 0
      (st.writeHeader e receiver sender info) =
        payloadWords e sender (messageLength info) 0 st := by
    apply map_congr_left
    intro j _
    have hout : payloadStart + j ∉ [messageInfoIndex, identifierIndex] := by
      simp [payloadStart, messageInfoIndex, identifierIndex]
      omega
    rw [wordAt, wordAt, hwrote.getMessageRegister hout]
  rw [hkept]
  rfl

theorem moveCapabilities_state (e : Entry) (destination source : ProcessId) (transferCount : Nat)
    (st : SystemState) : (st.moveCapabilities e destination source transferCount).state = st := by
  unfold moveCapabilities
  split_ifs <;> rfl

def Arrives (e : Entry) (receiver sender : ProcessId) (info : Word) (st st' : SystemState) : Prop :=
  st.writeMessageRegisters e receiver (messageWords e sender info st) = .ok () st' ∧
    ∀ i < MessageInfo.messageLength info, st.HasMessageRegister sender (payloadStart + i) ∧
      st.HasMessageRegister receiver (payloadStart + i)

section Transfer

variable (e : Entry) (port : Word) (receiver sender : ProcessId) (info : Word) (st : SystemState)

theorem arrives_writeHeader (hlength : messageLength info = 0) :
    Arrives e receiver sender info st (st.writeHeader e receiver sender info) := by
  refine ⟨?_, fun i hi => by omega⟩
  rw [writeMessageRegisters_messageWords, hlength]
  rfl

theorem copyMessages_writeHeader :
    ((st.writeHeader e receiver sender info).copyMessages e receiver sender
      (messageLength info) 0).Post
        (fun _ st' => Arrives e receiver sender info st st') fun _ _ => True := by
  apply (copyMessages_spec e receiver sender _ 0 _).mono
  · rintro _ st' ⟨hwritten, hregisters⟩
    refine ⟨by rw [writeMessageRegisters_messageWords, hwritten], fun i hi => ?_⟩
    exact hregisters i (Nat.zero_le i) (by omega)
  · exact fun _ _ _ => trivial

theorem post_counted {o : Outcome CapabilityError SystemState Unit} {Q : Unit → SystemState → Prop}
    (h : o.Post Q fun _ _ => True) : (counted o).Post Q fun _ _ => True := by
  obtain ⟨_ | _, st⟩ := o
  · trivial
  · exact h

theorem moveCapabilities_arrives {st' : SystemState} (h : Arrives e receiver sender info st st') :
    (st'.moveCapabilities e receiver sender (transferCount info)).Post
      (fun _ st'' => Arrives e receiver sender info st st'') fun _ _ => True := by
  have hstate := moveCapabilities_state e receiver sender (transferCount info) st'
  generalize st'.moveCapabilities e receiver sender (transferCount info) = o at hstate ⊢
  obtain ⟨_ | _, st''⟩ := o
  · trivial
  · rw [← hstate] at h
    exact h

theorem transferMessage_arrives : (st.transferMessage e port receiver sender info).Post
      (fun _ st' => Arrives e receiver sender info st st') fun _ _ => True := by
  unfold transferMessage
  dsimp only
  split
  case isTrue hempty => exact arrives_writeHeader e receiver sender info st hempty.1
  case isFalse =>
    apply post_counted
    apply Outcome.Post.andThen (Q := fun _ st' => Arrives e receiver sender info st st')
    · exact (copyMessages_writeHeader e receiver sender info st).orElse fun _ _ _ => trivial
    · exact fun _ st' harrives => moveCapabilities_arrives e receiver sender info st harrives

theorem transferDirectMessage_arrives : (st.transferDirectMessage e receiver sender info).Post
      (fun _ st' => Arrives e receiver sender info st st') fun _ _ => True := by
  unfold transferDirectMessage
  dsimp only
  split
  case isTrue hempty => exact arrives_writeHeader e receiver sender info st hempty.1
  case isFalse =>
    apply post_counted
    apply Outcome.Post.andThen (Q := fun _ st' => Arrives e receiver sender info st st')
    · exact (copyMessages_writeHeader e receiver sender info st).transformError
    · exact fun _ st' harrives => moveCapabilities_arrives e receiver sender info st harrives

end Transfer

/-! ## Exactness -/

structure MessageCopied (e : Entry) (destination source : ProcessId) (n : Nat) (header : List Nat)
    (st st' : SystemState) : Prop where
  payload : ∀ i < n, st'.getMessageRegister e destination (payloadStart + i) =
    st.getMessageRegister e source (payloadStart + i)
  others : ∀ index, index ∉ header → ¬ (payloadStart ≤ index ∧ index < payloadStart + n) →
    st'.getMessageRegister e destination index = st.getMessageRegister e destination index
  saved : ∀ register,
    (∀ index, index ∈ header ∨ payloadStart ≤ index ∧ index < payloadStart + n →
      index < messageRegisterCount →
      register ≠ messageRegisterIndex e.platform.architecture index) →
    st'.registers destination register = st.registers destination register
  sender : st'.registers source = st.registers source ∧
    ∀ index, st'.getMessageRegister e source index = st.getMessageRegister e source index
  rest : st' = { st with registers := st'.registers, buffers := st'.buffers }

theorem messageCopied_of_written {words : List (Nat × Word)} {n : Nat} {header : List Nat}
    (hne : destination ≠ source)
    (hdistinct : ∀ buffer, (st.contexts destination).buffer = some buffer →
      (st.contexts source).buffer ≠ some buffer)
    (hwritten : st.writeMessageRegisters e destination words = .ok () st')
    (hindices : ∀ index, index ∈ words.map Prod.fst ↔
      index ∈ header ∨ payloadStart ≤ index ∧ index < payloadStart + n)
    (hnodup : (words.map Prod.fst).Nodup)
    (hpayload : ∀ i < n, (payloadStart + i, st.wordAt e source (payloadStart + i)) ∈ words)
    (hreadable : ∀ i < n, st.HasMessageRegister source (payloadStart + i)) :
    MessageCopied e destination source n header st st' := by
  have hspec := writeMessageRegisters_spec e destination words st
  rw [hwritten, Outcome.post_ok] at hspec
  obtain ⟨hwrote, hvalues⟩ := hspec
  refine ⟨fun i hi => ?_, fun index hheader hout => ?_, fun register hout => ?_, ⟨?_, ?_⟩, hwrote.rest⟩
  · obtain ⟨value, hvalue⟩ := (hasMessageRegister_iff e st source _).mp (hreadable i hi)
    rw [hvalues hnodup _ (hpayload i hi), wordAt, hvalue]
    rfl
  · apply hwrote.getMessageRegister
    rw [hindices]
    exact fun h => h.elim hheader hout
  · exact hwrote.registers _ _ fun _ index hindex => hout index ((hindices index).mp hindex)
  · funext register
    exact hwrote.registers _ _ fun heq => absurd heq.symm hne
  · exact hwrote.getMessageRegister_of_ne hne.symm hdistinct

theorem mem_payloadWords {n i : Nat} (hi : i < n) :
    (payloadStart + i, st.wordAt e source (payloadStart + i)) ∈ payloadWords e source n 0 st := by
  rw [payloadWords, mem_map]
  exact ⟨i, mem_range'_1.mpr (by omega), rfl⟩

theorem Arrives.messageCopied {info : Word} (h : Arrives e destination source info st st')
    (hne : destination ≠ source)
    (hdistinct : ∀ buffer, (st.contexts destination).buffer = some buffer →
      (st.contexts source).buffer ≠ some buffer) :
    MessageCopied e destination source (messageLength info)
      [messageInfoIndex, identifierIndex] st st' := by
  apply messageCopied_of_written hne hdistinct h.1
  · intro index
    rw [messageWords, map_cons, map_cons, mem_cons, mem_cons, mem_payloadWords_indices]
    simp [or_assoc]
  · exact messageWords_nodup e source info st
  · exact fun i hi => by simp [messageWords, mem_payloadWords hi]
  · exact fun i hi => (h.2 i hi).1

/-- What is said of the copy of `n` words, in one loop or in two, alone or in a transfer. -/
structure CopyExact (e : Entry) (destination source : ProcessId) (n : Nat) (st : SystemState) :
    Prop where
  oneLoop : copyMessagesInParts e destination source n st = st.copyMessages e destination source n 0
  inBuffer : payloadStart + n ≤ messageBufferSizeMax
  succeeds : (copyMessagesInParts e destination source n st).result = .ok () ↔
    n ≤ registerPayloadCount ∨ ((st.contexts source).buffer.isSome = true ∧
      (st.contexts destination).buffer.isSome = true)
  copied : ∀ st', copyMessagesInParts e destination source n st = .ok () st' →
    MessageCopied e destination source n [] st st'
  transferred : ∀ port info st', MessageInfo.messageLength info = n →
    st.transferMessage e port destination source info = .ok () st' →
    MessageCopied e destination source n [messageInfoIndex, identifierIndex] st st'
  transferredDirectly : ∀ info st', MessageInfo.messageLength info = n →
    st.transferDirectMessage e destination source info = .ok () st' →
    MessageCopied e destination source n [messageInfoIndex, identifierIndex] st st'

theorem copyMessages_succeeds_iff (e : Entry) (destination source : ProcessId) (n : Nat)
    (st : SystemState) :
    (st.copyMessages e destination source n 0).result = .ok () ↔
      n ≤ registerPayloadCount ∨ ((st.contexts source).buffer.isSome = true ∧
        (st.contexts destination).buffer.isSome = true) := by
  have hspec := copyMessages_spec e destination source n 0 st
  generalize st.copyMessages e destination source n 0 = o at hspec ⊢
  obtain ⟨_ | _, st'⟩ := o
  · -- the word that is missing lies above the registers
    obtain ⟨j, -, hlt, hmissing⟩ := hspec
    simp only [HasMessageRegister, registerPayloadCount, messageRegisterCount, payloadStart]
      at hmissing ⊢
    constructor
    · exact fun h => by cases h
    · rintro (hle | ⟨hsource, hdestination⟩)
      · exact absurd ⟨.inl (by omega), .inl (by omega)⟩ hmissing
      · exact absurd ⟨.inr hsource, .inr hdestination⟩ hmissing
  · refine ⟨fun _ => ?_, fun _ => rfl⟩
    by_cases hle : n ≤ registerPayloadCount
    · exact .inl hle
    · obtain ⟨hsource, hdestination⟩ := hspec.2 (n - 1) (Nat.zero_le _) (by omega)
      unfold registerPayloadCount at hle
      exact .inr ⟨hsource.resolve_left (by omega), hdestination.resolve_left (by omega)⟩

/-- A copy between processes that do not share a buffer is exact. -/
theorem copyMessages_exact (e : Entry) (st : SystemState) {destination source : ProcessId}
    (hne : destination ≠ source)
    (hdistinct : ∀ buffer, (st.contexts destination).buffer = some buffer →
      (st.contexts source).buffer ≠ some buffer)
    {n : Nat} (hn : n ≤ 255) : CopyExact e destination source n st := by
  have hparts := copyMessagesInParts_eq e destination source n st
  refine ⟨hparts, ?_, ?_, fun st' hcopied => ?_, fun port info st' hlength htransferred => ?_,
    fun info st' hlength htransferred => ?_⟩
  · unfold payloadStart messageBufferSizeMax
    omega
  · rw [hparts]
    exact copyMessages_succeeds_iff e destination source n st
  · have hspec := copyMessages_spec e destination source n 0 st
    rw [← hparts, hcopied, Outcome.post_ok] at hspec
    apply messageCopied_of_written hne hdistinct hspec.1
    · intro index
      rw [mem_payloadWords_indices]
      simp
    · exact payloadWords_nodup e source n 0 st
    · exact fun i hi => mem_payloadWords hi
    · exact fun i hi => (hspec.2 i (Nat.zero_le i) (by omega)).1
  · have harrives := transferMessage_arrives e port destination source info st
    rw [htransferred, Outcome.post_ok] at harrives
    exact hlength ▸ harrives.messageCopied hne hdistinct
  · have harrives := transferDirectMessage_arrives e destination source info st
    rw [htransferred, Outcome.post_ok] at harrives
    exact hlength ▸ harrives.messageCopied hne hdistinct

def twoBuffers : SystemState where
  proc := { processes := fun _ => {}, cpus := fun _ => {}, hardwareRoot := fun _ => 0
            owners := fun _ => 0, processCount := 2 }
  contexts id := { buffer := if id = .user 0x1000 then some 0xa000 else some 0xb000 }
  registers _ register := BitVec.ofNat 64 register
  buffers buffer word := if buffer = 0xa000 then BitVec.ofNat 64 word else 0

/-- Eight words: six in registers and two in the buffers. -/
theorem copyMessages_exact_twoBuffers :
    CopyExact { platform := samplePlatform, core := 0, coreCount := 1, root := fun _ => 0x5000 }
      (.user 0x2000) (.user 0x1000) 8 twoBuffers := by
  apply copyMessages_exact _ _ (by decide)
  · rintro buffer hdestination hsource
    have hne : (some 0xb000 : Option Word) ≠ some 0xa000 := by decide
    exact hne (hdestination.trans hsource.symm)
  · decide

end SystemState

end A9N.Kernel
