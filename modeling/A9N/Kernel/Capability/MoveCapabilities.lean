import A9N.Kernel.Capability.Operations
import A9N.Kernel.Capability.SlotTable
import A9N.Kernel.Capability.Transfer

/-!
# Capabilities in a message

`ipc_port::move_capabilities`. The receiver names a Node and an index in its IPC buffer, the sender
lists descriptors in its own, and the capabilities move one after the other.
-/

namespace A9N.Kernel

structure TransferWords where
  sourceDescriptors : Nat → Word
  destinationNode : Word
  destinationIndex : Word

inductive MoveError
  | capability (error : CapabilityError)
  | nullDereference
deriving DecidableEq, Repr

namespace CapState

variable {σ : Type}

/-- The lookup of a descriptor from the root slot of a process. There is none without a root. -/
def lookupFromRoot (st : CapState σ) (process descriptor : Word) :
    Option (Except CapabilityLookupError SlotId) :=
  (st.slots (.process process .rootSlot)).component.map fun root =>
    st.traverseSlot traverseFuel root descriptor (extractDepth descriptor) Node.byteBits

def moveCapability (st : CapState σ) (source : Word) (node : SlotId) (descriptor index : Word) :
    Outcome MoveError (CapState σ) Unit :=
  match st.lookupFromRoot source descriptor with
  | none => .error .nullDereference st
  | some (.error _) => .error (.capability .invalidArgument) st
  | some (.ok sourceSlot) =>
    match (st.slots node).component with
    | none => .error .nullDereference st
    | some component =>
      match st.retrieveSlot component index with
      | .error _ => .error (.capability .invalidArgument) st
      | .ok destinationSlot =>
        (st.tryMoveCapabilitySlot destinationSlot sourceSlot).transformError
          fun _ => .capability .invalidArgument

def moveLoop (source : Word) (descriptors : Nat → Word) (node : SlotId) (offset : Word) :
    Nat → Nat → CapState σ → Outcome MoveError (CapState σ) Unit
  | 0, _, st => .ok () st
  | rounds + 1, i, st =>
    (st.moveCapability source node (descriptors i) (BitVec.ofNat 64 i + offset)).andThen
      fun _ st => moveLoop source descriptors node offset rounds (i + 1) st

def HasBuffer (st : CapState σ) (process : Word) : Prop :=
  (st.buffer process).isSome = true ∧ (st.slots (.process process .bufferFrame)).type = .frame

instance (st : CapState σ) (process : Word) : Decidable (st.HasBuffer process) :=
  inferInstanceAs (Decidable (_ ∧ _))

/-- `ipc_port::move_capabilities`. The words of both buffers are those of the message. -/
def moveCapabilities (st : CapState σ) (destination source : Word)
    (destinationWords sourceWords : TransferWords) (transferCount : Nat) :
    Outcome MoveError (CapState σ) Unit :=
  if transferCount = 0 then .ok () st
  else if ¬ st.HasBuffer destination ∨ ¬ st.HasBuffer source then
    .error (.capability .illegalOperation) st
  else
    match st.lookupFromRoot destination destinationWords.destinationNode with
    | none => .error .nullDereference st
    | some (.error _) => .error (.capability .invalidArgument) st
    | some (.ok node) =>
      if (st.slots node).component = none ∨ (st.slots node).type ≠ .node then
        .error (.capability .invalidArgument) st
      else
        moveLoop source sourceWords.sourceDescriptors node destinationWords.destinationIndex
          transferCount 0 st

/-! ## The rounds -/

section Rounds

variable {source : Word} {descriptors : Nat → Word} {node : SlotId} {offset : Word}
  {st st' st'' : CapState σ} {i : Nat} {moves : List (SlotId × SlotId)}

structure Moved (source : Word) (node : SlotId) (descriptor index : Word) (origin target : SlotId)
    (st st' : CapState σ) : Prop where
  source_eq : st.lookupFromRoot source descriptor = some (.ok origin)
  destination_eq : ∃ component, (st.slots node).component = some component ∧
    st.retrieveSlot component index = .ok target
  move_eq : st.tryMoveCapabilitySlot target origin = .ok () st'

/-- The rounds that have been done from the `i`th on: which slot has moved where. -/
inductive MovedAll (source : Word) (descriptors : Nat → Word) (node : SlotId) (offset : Word) :
    Nat → CapState σ → List (SlotId × SlotId) → CapState σ → Prop
  | done (i : Nat) (st : CapState σ) : MovedAll source descriptors node offset i st [] st
  | round {i : Nat} {st st' st'' : CapState σ} {origin target : SlotId} {moves : List (SlotId × SlotId)}
      (hmoved : Moved source node (descriptors i) (BitVec.ofNat 64 i + offset) origin target st st')
      (hrest : MovedAll source descriptors node offset (i + 1) st' moves st'') :
      MovedAll source descriptors node offset i st ((origin, target) :: moves) st''

theorem moveCapability_spec (st : CapState σ) (source : Word) (node : SlotId)
    (descriptor index : Word) :
    (st.moveCapability source node descriptor index).Post
      (fun _ st' => ∃ origin target, Moved source node descriptor index origin target st st')
      fun error st' => st' = st ∧ (error = .nullDereference ↔
        (st.slots (.process source .rootSlot)).component = none ∨ (st.slots node).component = none ∧
            ∃ origin, st.lookupFromRoot source descriptor = some (.ok origin)) := by
  have hroot : st.lookupFromRoot source descriptor = none ↔
      (st.slots (.process source .rootSlot)).component = none := Option.map_eq_none_iff
  unfold moveCapability
  split
  case h_1 hnone => exact ⟨rfl, by simp [hroot.mp hnone]⟩
  case h_2 herror =>
    refine ⟨rfl, ?_⟩
    rw [← hroot, herror]
    simp
  case h_3 origin hfound =>
    split
    case h_1 hcomponent => exact ⟨rfl, by simp [hcomponent, hfound]⟩
    case h_2 component hcomponent =>
      have herror : ∀ error, MoveError.capability error = .nullDereference ↔
          (st.slots (.process source .rootSlot)).component = none ∨
            (st.slots node).component = none ∧
              ∃ origin, st.lookupFromRoot source descriptor = some (.ok origin) := by
        intro error
        rw [← hroot, hfound, hcomponent]
        simp
      split
      case h_1 => exact ⟨rfl, herror _⟩
      case h_2 target htarget =>
        cases hmove : st.tryMoveCapabilitySlot target origin with
        | mk result st' =>
          cases result with
          | ok => exact ⟨origin, target, hfound, ⟨component, hcomponent, htarget⟩, hmove⟩
          | error error =>
            have hstate : st' = st := by
              unfold tryMoveCapabilitySlot at hmove
              split at hmove
              · exact (congrArg Outcome.state hmove).symm
              · cases hmove
            exact ⟨hstate, herror _⟩

theorem moveLoop_spec (source : Word) (descriptors : Nat → Word) (node : SlotId) (offset : Word)
    (rounds i : Nat) (st : CapState σ) :
    ∃ moves : List (SlotId × SlotId), MovedAll source descriptors node offset i st moves
        (moveLoop source descriptors node offset rounds i st).state ∧
      ((moveLoop source descriptors node offset rounds i st).result = .ok () ∧
          moves.length = rounds ∨
        ∃ error, (moveLoop source descriptors node offset rounds i st).result = .error error ∧
          moves.length < rounds ∧
          (moveLoop source descriptors node offset rounds i st).state.moveCapability source node
              (descriptors (i + moves.length)) (BitVec.ofNat 64 (i + moves.length) + offset) =
            .error error (moveLoop source descriptors node offset rounds i st).state) := by
  induction rounds generalizing i st with
  | zero => exact ⟨[], .done i st, .inl ⟨rfl, rfl⟩⟩
  | succ rounds ih =>
    rw [moveLoop]
    have hround := moveCapability_spec st source node (descriptors i) (BitVec.ofNat 64 i + offset)
    cases hmove : st.moveCapability source node (descriptors i) (BitVec.ofNat 64 i + offset) with
    | mk result st1 =>
      rw [hmove] at hround
      cases result with
      | error error =>
        obtain rfl : st1 = st := hround.1
        exact ⟨[], .done i st1, .inr ⟨error, rfl, Nat.succ_pos rounds, hmove⟩⟩
      | ok =>
        obtain ⟨origin, target, hmoved⟩ := hround
        obtain ⟨moves, hall, hend⟩ := ih (i + 1) st1
        refine ⟨(origin, target) :: moves, .round hmoved hall, ?_⟩
        have hindex : i + ((origin, target) :: moves).length = i + 1 + moves.length := by
          simp only [List.length_cons]
          omega
        rw [hindex, List.length_cons]
        rcases hend with ⟨hok, hlength⟩ | ⟨error, herror, hlt, hstop⟩
        · exact .inl ⟨hok, by omega⟩
        · exact .inr ⟨error, herror, by omega, hstop⟩

/-! ### Slots that stay -/

theorem retrieveSlot_isNode {component : Component} {index : Word} {id : SlotId}
    (h : st.retrieveSlot component index = .ok id) : ∃ address index, id = .node address index := by
  unfold retrieveSlot at h
  split at h
  · split at h
    · cases h
      exact ⟨_, _, rfl⟩
    · cases h
  · cases h

theorem traverseSlot_isNode {fuel : Nat} {component : Component}
    {descriptor maxBits usedBits : Word} {id : SlotId}
    (h : st.traverseSlot fuel component descriptor maxBits usedBits = .ok id) :
    ∃ address index, id = .node address index := by
  induction fuel generalizing component usedBits with
  | zero => cases h
  | succ fuel ih =>
    unfold traverseSlot at h
    split at h
    case h_1 address =>
      dsimp only at h
      split at h
      · cases h
      case h_2 slot hslot =>
        split at h
        · cases h
          exact retrieveSlot_isNode hslot
        · split at h
          · cases h
          · exact ih h
    case h_2 => cases h

theorem lookupFromRoot_isNode {process descriptor : Word} {id : SlotId}
    (h : st.lookupFromRoot process descriptor = some (.ok id)) :
    ∃ address index, id = .node address index := by
  obtain ⟨root, -, hroot⟩ := Option.map_eq_some_iff.mp h
  exact traverseSlot_isNode hroot

theorem Moved.process {descriptor index : Word} {origin target : SlotId}
    (h : Moved source node descriptor index origin target st st') (process : Word) (field : ProcessSlot) :
    (st'.slots (.process process field)).content = (st.slots (.process process field)).content := by
  obtain ⟨_, _, rfl⟩ := lookupFromRoot_isNode h.source_eq
  obtain ⟨component, -, htarget⟩ := h.destination_eq
  obtain ⟨_, _, rfl⟩ := retrieveSlot_isNode htarget
  exact (tryMoveCapabilitySlot_ok h.move_eq).2.2.2 _ (by simp) (by simp)

section

variable (h : MovedAll source descriptors node offset i st moves st')
include h

theorem MovedAll.process (process : Word) (field : ProcessSlot) :
    (st'.slots (.process process field)).content = (st.slots (.process process field)).content := by
  induction h with
  | done => rfl
  | round hmoved _ ih => exact ih.trans (hmoved.process process field)

theorem MovedAll.node_kept
    (hnode : (st.slots node).type = .node) (hstays : node ∉ moves.map Prod.fst) :
    (st'.slots node).content = (st.slots node).content := by
  induction h with
  | done => rfl
  | @round i st st1 st2 origin target moves hmoved _ ih =>
    rw [List.map_cons, List.mem_cons, not_or] at hstays
    have hempty := tryMoveCapabilitySlot_empty hmoved.move_eq
    obtain ⟨-, -, -, hother⟩ := tryMoveCapabilitySlot_ok hmoved.move_eq
    have htarget : node ≠ target := by
      rintro rfl
      rw [hnode] at hempty
      cases hempty
    have hkept := hother node hstays.1 htarget
    rw [ih ((Slot.content_type hkept).trans hnode) hstays.2, hkept]

theorem MovedAll.node_moved
    (hmoves : node ∈ moves.map Prod.fst) : (st'.slots node).component = none := by
  induction h with
  | done => simp at hmoves
  | @round i st st1 st2 origin target moves hmoved hrest ih =>
    rw [List.map_cons, List.mem_cons] at hmoves
    rcases hmoves with rfl | hmoves
    · have hgone := (tryMoveCapabilitySlot_ok hmoved.move_eq).2.1
      cases hrest with
      | done => rw [hgone]; rfl
      | round hnext _ =>
        obtain ⟨component, hcomponent, -⟩ := hnext.destination_eq
        rw [hgone] at hcomponent
        cases hcomponent
    · exact ih hmoves

theorem MovedAll.moveLoop (rounds : Nat) :
    moveLoop source descriptors node offset (moves.length + rounds) i st =
      moveLoop source descriptors node offset rounds (i + moves.length) st' := by
  induction h with
  | done => rw [List.length_nil, Nat.zero_add, Nat.add_zero]
  | @round i st st1 st2 origin target moves hmoved _ ih =>
    obtain ⟨component, hcomponent, htarget⟩ := hmoved.destination_eq
    have hround : st.moveCapability source node (descriptors i) (BitVec.ofNat 64 i + offset) =
        .ok () st1 := by
      unfold moveCapability
      rw [hmoved.source_eq]
      dsimp only
      rw [hcomponent]
      dsimp only
      rw [htarget]
      dsimp only
      rw [hmoved.move_eq, Outcome.transformError_ok]
    rw [List.length_cons, show moves.length + 1 + rounds = moves.length + rounds + 1 by omega,
      show i + (moves.length + 1) = i + 1 + moves.length by omega, CapState.moveLoop, hround,
      Outcome.andThen_ok, ih]

end

end Rounds

/-! ## Components that are not there -/

theorem moveLoop_dereferences_iff {st : CapState σ} {source : Word} {descriptors : Nat → Word}
    {node : SlotId} {offset : Word} {rounds : Nat} (hcomponent : (st.slots node).component ≠ none)
    (htype : (st.slots node).type = .node) (hrounds : rounds ≠ 0) :
    (moveLoop source descriptors node offset rounds 0 st).result = .error .nullDereference ↔
      (st.slots (.process source .rootSlot)).component = none ∨
        ∃ moves st', MovedAll source descriptors node offset 0 st moves st' ∧
          moves.length < rounds ∧ node ∈ moves.map Prod.fst ∧
          ∃ origin, st'.lookupFromRoot source (descriptors moves.length) = some (.ok origin) := by
  constructor
  · intro hnull
    obtain ⟨moves, hall, ⟨hok, -⟩ | ⟨error, herror, hlt, hstop⟩⟩ :=
      moveLoop_spec source descriptors node offset rounds 0 st
    · rw [hnull] at hok
      cases hok
    · obtain rfl : MoveError.nullDereference = error := by
        rw [hnull] at herror
        exact Except.error.inj herror
      have hround := moveCapability_spec (moveLoop source descriptors node offset rounds 0 st).state
        source node (descriptors (0 + moves.length)) (BitVec.ofNat 64 (0 + moves.length) + offset)
      rw [hstop, Nat.zero_add] at hround
      rcases hround.2.mp rfl with hempty | ⟨hgone, horigin⟩
      · exact .inl (by rwa [Slot.content_component (hall.process source .rootSlot)] at hempty)
      · refine .inr ⟨moves, _, hall, hlt, ?_, horigin⟩
        by_contra hstays
        rw [Slot.content_component (hall.node_kept htype hstays)] at hgone
        exact hcomponent hgone
  · have hnull : ∀ {st' : CapState σ} {i more : Nat},
        ((st'.slots (.process source .rootSlot)).component = none ∨
          (st'.slots node).component = none ∧
            ∃ origin, st'.lookupFromRoot source (descriptors i) = some (.ok origin)) →
        (moveLoop source descriptors node offset (more + 1) i st').result =
          .error .nullDereference := by
      intro st' i more hempty
      rw [moveLoop]
      have hround := moveCapability_spec st' source node (descriptors i)
        (BitVec.ofNat 64 i + offset)
      generalize st'.moveCapability source node (descriptors i) (BitVec.ofNat 64 i + offset) = o
        at hround ⊢
      obtain ⟨error | _, st1⟩ := o
      · obtain rfl := hround.2.mpr hempty
        rfl
      · -- no round is done
        obtain ⟨origin, target, hmoved⟩ := hround
        obtain ⟨component, hthere, -⟩ := hmoved.destination_eq
        rcases hempty with hempty | ⟨hgone, -⟩
        · have hnone : st'.lookupFromRoot source (descriptors i) = none :=
            Option.map_eq_none_iff.mpr hempty
          rw [hmoved.source_eq] at hnone
          cases hnone
        · rw [hgone] at hthere
          cases hthere
    rintro (hempty | ⟨moves, st', hall, hlt, hmoved, horigin⟩)
    · obtain ⟨more, rfl⟩ := Nat.exists_eq_succ_of_ne_zero hrounds
      exact hnull (.inl hempty)
    · obtain ⟨more, rfl⟩ := Nat.exists_eq_add_of_lt hlt
      rw [Nat.add_assoc, hall.moveLoop, Nat.zero_add]
      exact hnull (.inr ⟨hall.node_moved hmoved, horigin⟩)

theorem moveCapabilities_dereferences (st : CapState σ) (destination source : Word)
    (destinationWords sourceWords : TransferWords) (transferCount : Nat) :
    (st.moveCapabilities destination source destinationWords sourceWords transferCount).result =
        .error .nullDereference ↔
      transferCount ≠ 0 ∧ st.HasBuffer destination ∧ st.HasBuffer source ∧
        ((st.slots (.process destination .rootSlot)).component = none ∨
          ∃ node, st.lookupFromRoot destination destinationWords.destinationNode =
              some (.ok node) ∧ (st.slots node).component ≠ none ∧ (st.slots node).type = .node ∧
            ((st.slots (.process source .rootSlot)).component = none ∨
              ∃ moves st', MovedAll source sourceWords.sourceDescriptors node
                  destinationWords.destinationIndex 0 st moves st' ∧
                moves.length < transferCount ∧ node ∈ moves.map Prod.fst ∧
                ∃ origin, st'.lookupFromRoot source (sourceWords.sourceDescriptors moves.length) =
                  some (.ok origin))) := by
  have hroot : st.lookupFromRoot destination destinationWords.destinationNode = none ↔
      (st.slots (.process destination .rootSlot)).component = none := Option.map_eq_none_iff
  unfold moveCapabilities
  split
  case isTrue hzero => simp [hzero]
  case isFalse hcount =>
    split
    case isTrue hbuffers =>
      refine iff_of_false (by simp) ?_
      rintro ⟨-, hdestination, hsource, -⟩
      exact hbuffers.elim (absurd hdestination) (absurd hsource)
    case isFalse hbuffers =>
      rw [not_or, not_not, not_not] at hbuffers
      simp only [ne_eq, hcount, not_false_eq_true, hbuffers, true_and, ← hroot]
      split
      case h_1 hnone => simp [hnone]
      case h_2 error herror => simp [herror]
      case h_3 node hnode =>
        simp only [hnode, reduceCtorEq, false_or, Option.some.injEq, Except.ok.injEq,
          exists_eq_left']
        split
        case isTrue hinvalid =>
          refine iff_of_false (by simp) ?_
          rintro ⟨hcomponent, htype, -⟩
          exact hinvalid.elim hcomponent (absurd htype)
        case isFalse hvalid =>
          rw [not_or, not_not] at hvalid
          simp only [hvalid, not_false_eq_true, true_and]
          exact moveLoop_dereferences_iff hvalid.1 hvalid.2 hcount

/-- A transfer stops with an error instead of calling a component that is not there iff, at the steps
it comes to, the root slots are occupied and the Node's slot has not been moved. -/
theorem moveCapabilities_reports_iff (st : CapState σ) (destination source : Word)
    (destinationWords sourceWords : TransferWords) (transferCount : Nat) :
    (st.moveCapabilities destination source destinationWords sourceWords transferCount).result ≠
        .error .nullDereference ↔
      (transferCount ≠ 0 → st.HasBuffer destination → st.HasBuffer source →
        (st.slots (.process destination .rootSlot)).component ≠ none ∧
          ∀ node, st.lookupFromRoot destination destinationWords.destinationNode =
              some (.ok node) → (st.slots node).component ≠ none → (st.slots node).type = .node →
            (st.slots (.process source .rootSlot)).component ≠ none ∧
              ∀ moves st', MovedAll source sourceWords.sourceDescriptors node
                  destinationWords.destinationIndex 0 st moves st' →
                moves.length < transferCount → node ∈ moves.map Prod.fst →
                ∀ origin, st'.lookupFromRoot source (sourceWords.sourceDescriptors moves.length) ≠
                  some (.ok origin)) := by
  rw [ne_eq, moveCapabilities_dereferences]
  constructor
  · intro hnot hcount hdestination hsource
    refine ⟨fun hroot => hnot ⟨hcount, hdestination, hsource, .inl hroot⟩, ?_⟩
    intro node hnode hcomponent htype
    refine ⟨fun hroot => hnot ⟨hcount, hdestination, hsource, .inr ⟨node, hnode, hcomponent, htype,
      .inl hroot⟩⟩, ?_⟩
    intro moves st' hall hlt hmoved origin horigin
    exact hnot ⟨hcount, hdestination, hsource, .inr ⟨node, hnode, hcomponent, htype,
      .inr ⟨moves, st', hall, hlt, hmoved, origin, horigin⟩⟩⟩
  · rintro hlive ⟨hcount, hdestination, hsource, hroot | ⟨node, hnode, hcomponent, htype, hrest⟩⟩
    · exact (hlive hcount hdestination hsource).1 hroot
    · obtain ⟨hsender, hstays⟩ :=
        (hlive hcount hdestination hsource).2 node hnode hcomponent htype
      rcases hrest with hroot | ⟨moves, st', hall, hlt, hmoved, origin, horigin⟩
      · exact hsender hroot
      · exact hstays moves st' hall hlt hmoved origin horigin

/-! ## Conservation -/

def newNames : List (SlotId × SlotId) → Equiv.Perm SlotId
  | [] => 1
  | (origin, target) :: moves => newNames moves * Equiv.swap origin target

def namedSlots (moves : List (SlotId × SlotId)) : List SlotId :=
  moves.map Prod.fst ++ moves.map Prod.snd

theorem newNames_of_not_mem {moves : List (SlotId × SlotId)} {a : SlotId}
    (h : a ∉ namedSlots moves) : newNames moves a = a := by
  induction moves with
  | nil => rfl
  | cons move moves ih =>
    obtain ⟨origin, target⟩ := move
    simp only [namedSlots, List.map_cons, List.mem_append, List.mem_cons, not_or] at h
    rw [newNames, Equiv.Perm.mul_apply, Equiv.swap_apply_of_ne_of_ne h.1.1 h.2.1]
    exact ih (by simp [namedSlots, h])

theorem newNames_cons (origin target : SlotId) (moves : List (SlotId × SlotId)) :
    newNames ((origin, target) :: moves) = newNames moves * Equiv.swap origin target := rfl

/-- The capabilities have other names and are otherwise as before; slots that are not named in
`moves` have kept what they held. -/
structure Conserved (moves : List (SlotId × SlotId)) (st st' : CapState σ) : Prop where
  renamed : st.Renamed st' (newNames moves)
  unnamed : ∀ a, a ∉ namedSlots moves → newNames moves a = a ∧
    (st'.slots a).content = (st.slots a).content
  rest : st' = { st with slots := st'.slots }

/-- Each capability that is moved has neighbours that point back at it, and nothing is linked to the
slot that takes it. Both slots are meant as they were before the transfer. -/
def NeighboursPointBack (st : CapState σ) (moves : List (SlotId × SlotId)) : Prop :=
  ∀ n origin target, moves[n]? = some (origin, target) →
    st.links.PointsBack ((newNames (moves.take n)).symm origin) ((newNames (moves.take n)).symm target)

section Rounds

variable {source : Word} {descriptors : Nat → Word} {node : SlotId} {offset : Word}
  {st st' st'' : CapState σ} {i : Nat} {moves : List (SlotId × SlotId)}

theorem neighboursPointBack_cons {origin target : SlotId}
    (h : st.Renamed st' (Equiv.swap origin target)) :
    st.NeighboursPointBack ((origin, target) :: moves) ↔
      st.links.PointsBack origin target ∧ st'.NeighboursPointBack moves := by
  have hrest : ∀ n origin' target',
      st.links.PointsBack
          ((newNames (((origin, target) :: moves).take (n + 1))).symm origin')
          ((newNames (((origin, target) :: moves).take (n + 1))).symm target') ↔
        st'.links.PointsBack ((newNames (moves.take n)).symm origin')
          ((newNames (moves.take n)).symm target') := by
    intro n origin' target'
    rw [List.take_succ_cons, newNames_cons, h.links,
      ← Links.pointsBack_rename (Equiv.swap origin target)]
    simp [Equiv.Perm.mul_def]
  constructor
  · intro hall
    exact ⟨hall 0 origin target rfl, fun n origin' target' hget =>
      (hrest n origin' target').mp (hall (n + 1) origin' target' hget)⟩
  · rintro ⟨hfirst, hall⟩ (_ | n) origin' target' hget
    · cases hget
      exact hfirst
    · exact (hrest n origin' target').mpr (hall n origin' target' hget)

theorem MovedAll.unique (h : MovedAll source descriptors node offset i st moves st')
    (h' : MovedAll source descriptors node offset i st moves st'') : st' = st'' := by
  have hrun := (h.moveLoop 0).symm.trans (h'.moveLoop 0)
  exact congrArg Outcome.state hrun

theorem MovedAll.take (h : MovedAll source descriptors node offset i st moves st') (n : Nat) :
    ∃ st'', MovedAll source descriptors node offset i st (moves.take n) st'' := by
  induction h generalizing n with
  | done i st => exact ⟨st, by rw [List.take_nil]; exact .done i st⟩
  | @round i st st1 st2 origin target moves hmoved _ ih =>
    cases n with
    | zero => exact ⟨st, .done i st⟩
    | succ n =>
      obtain ⟨st'', hrest⟩ := ih n
      exact ⟨st'', .round hmoved hrest⟩

/-- What the transfer always keeps: the slots that no round names, and everything but the slots. -/
theorem MovedAll.unnamed (h : MovedAll source descriptors node offset i st moves st') :
    (∀ a, a ∉ namedSlots moves → newNames moves a = a ∧
      (st'.slots a).content = (st.slots a).content) ∧ st' = { st with slots := st'.slots } := by
  induction h with
  | done i st => exact ⟨fun a _ => ⟨rfl, rfl⟩, rfl⟩
  | @round i st st1 st2 origin target moves hmoved _ ih =>
    obtain ⟨hunnamed, hrest⟩ := ih
    obtain ⟨hrest', -, -, hkept⟩ := tryMoveCapabilitySlot_ok hmoved.move_eq
    refine ⟨fun a ha => ⟨newNames_of_not_mem ha, ?_⟩, ?_⟩
    · simp only [namedSlots, List.map_cons, List.mem_append, List.mem_cons, not_or] at ha
      rw [(hunnamed a (by simp [namedSlots, ha])).2, hkept a ha.1.1 ha.2.1]
    · rw [hrest, hrest']

/-- The capabilities are as before after each round exactly where the neighbours point back. -/
theorem MovedAll.renamed_iff (h : MovedAll source descriptors node offset i st moves st') :
    (∀ n st'', MovedAll source descriptors node offset i st (moves.take n) st'' →
        st.Renamed st'' (newNames (moves.take n))) ↔ st.NeighboursPointBack moves := by
  induction h with
  | done i st =>
    refine iff_of_true (fun n st'' h'' => ?_) fun n _ _ hget => by simp at hget
    rw [List.take_nil] at h'' ⊢
    obtain rfl := h''.unique (.done i st)
    exact .refl st''
  | @round i st st1 st2 origin target moves hmoved hrest ih =>
    have hone : MovedAll source descriptors node offset i st [(origin, target)] st1 :=
      .round hmoved (.done _ _)
    have hswap : newNames [(origin, target)] = Equiv.swap origin target := one_mul _
    have hstep := tryMoveCapabilitySlot_renamed_iff hmoved.move_eq
    constructor
    · intro hall
      have hfirst : st.Renamed st1 (Equiv.swap origin target) := hswap ▸ hall 1 st1 hone
      rw [neighboursPointBack_cons hfirst, ← ih]
      refine ⟨hstep.mp hfirst, fun n st'' h'' => hfirst.then_iff.mp ?_⟩
      exact hall (n + 1) st'' (.round hmoved h'')
    · intro hback
      have hfirst : st.Renamed st1 (Equiv.swap origin target) :=
        hstep.mpr (hback 0 origin target rfl)
      rw [neighboursPointBack_cons hfirst, ← ih] at hback
      intro n st'' h''
      cases n with
      | zero =>
        obtain rfl := h''.unique (.done i st)
        exact .refl st''
      | succ n =>
        rw [List.take_succ_cons] at h'' ⊢
        rw [newNames_cons, hfirst.then_iff]
        cases h'' with
        | @round _ _ st1' _ _ _ _ hmoved' hrest' =>
          obtain rfl : st1 = st1' :=
            hone.unique (.round hmoved' (.done _ _))
          exact hback.2 n st'' hrest'

/-- A list that is well formed meets the condition. -/
theorem MovedAll.neighboursPointBack (h : MovedAll source descriptors node offset i st moves st')
    (hlinked : st.Linked) : st.NeighboursPointBack moves := by
  induction h with
  | done => exact fun n _ _ hget => by simp at hget
  | @round i st st1 st2 origin target moves hmoved _ ih =>
    have hpoints := hlinked.pointsBack origin (tryMoveCapabilitySlot_empty hmoved.move_eq)
    have hrenamed := (tryMoveCapabilitySlot_renamed_iff hmoved.move_eq).mpr hpoints
    exact (neighboursPointBack_cons hrenamed).mpr ⟨hpoints, ih (hrenamed.linked hlinked)⟩

/-- A shorter transfer makes the first of the rounds. -/
theorem moveLoop_take {rounds n : Nat} (hn : n ≤ rounds)
    (h : MovedAll source descriptors node offset 0 st moves
      (moveLoop source descriptors node offset rounds 0 st).state)
    (hend : (moveLoop source descriptors node offset rounds 0 st).result = .ok () ∧
        moves.length = rounds ∨
      ∃ error, (moveLoop source descriptors node offset rounds 0 st).result = .error error ∧
        moves.length < rounds ∧
        (moveLoop source descriptors node offset rounds 0 st).state.moveCapability source node
            (descriptors (0 + moves.length)) (BitVec.ofNat 64 (0 + moves.length) + offset) =
          .error error (moveLoop source descriptors node offset rounds 0 st).state) :
    MovedAll source descriptors node offset 0 st (moves.take n)
      (moveLoop source descriptors node offset n 0 st).state := by
  by_cases hle : n ≤ moves.length
  · obtain ⟨st'', htake⟩ := h.take n
    have hrun := htake.moveLoop 0
    rw [List.length_take_of_le hle, Nat.add_zero] at hrun
    rw [hrun]
    exact htake
  · -- both stop at the same round
    obtain ⟨error, -, hlt, hstop⟩ := hend.resolve_left fun hok => by omega
    obtain ⟨more, rfl⟩ := Nat.exists_eq_add_of_lt (not_le.mp hle)
    have hrun := h.moveLoop (more + 1)
    rw [CapState.moveLoop, hstop] at hrun
    rw [List.take_of_length_le (by omega), Nat.add_assoc, hrun]
    exact h

end Rounds

/-- No round moves the slot of the receiver's Node while another is to come. -/
def KeepsNode (st : CapState σ) (destination source : Word)
    (destinationWords sourceWords : TransferWords) (transferCount : Nat) : Prop :=
  ∀ node moves st', st.lookupFromRoot destination destinationWords.destinationNode =
      some (.ok node) →
    MovedAll source sourceWords.sourceDescriptors node destinationWords.destinationIndex 0 st moves
      st' → moves.length < transferCount → node ∉ moves.map Prod.fst

/-- The transfer has moved the first of the listed capabilities, all of them if it reports success,
in their order and into consecutive slots. -/
def MovedFirst (st : CapState σ) (destination source : Word)
    (destinationWords sourceWords : TransferWords) (transferCount : Nat)
    (moves : List (SlotId × SlotId)) (o : Outcome MoveError (CapState σ) Unit) : Prop :=
  (moves = [] ∧ o.state = st ∨ ∃ node,
    st.lookupFromRoot destination destinationWords.destinationNode = some (.ok node) ∧
      MovedAll source sourceWords.sourceDescriptors node destinationWords.destinationIndex 0 st
        moves o.state) ∧
    moves.length ≤ transferCount ∧ (o.result = .ok () ↔ moves.length = transferCount)

/-- A transfer is refused before its first round, whatever its length, or it is its rounds. -/
theorem moveCapabilities_cases (st : CapState σ) (destination source : Word)
    (destinationWords sourceWords : TransferWords) :
    (∀ n, (st.moveCapabilities destination source destinationWords sourceWords n).state = st ∧
      ((st.moveCapabilities destination source destinationWords sourceWords n).result = .ok () ↔
        n = 0)) ∨
    ∃ node, st.lookupFromRoot destination destinationWords.destinationNode = some (.ok node) ∧
      ∀ n, st.moveCapabilities destination source destinationWords sourceWords n =
        moveLoop source sourceWords.sourceDescriptors node destinationWords.destinationIndex n 0
          st := by
  have hrefused : ∀ error, (∀ n, n ≠ 0 → st.moveCapabilities destination source destinationWords
      sourceWords n = .error error st) →
      ∀ n, (st.moveCapabilities destination source destinationWords sourceWords n).state = st ∧
        ((st.moveCapabilities destination source destinationWords sourceWords n).result = .ok () ↔
          n = 0) := by
    intro error hall n
    by_cases hzero : n = 0
    · subst hzero
      exact ⟨rfl, iff_of_true rfl rfl⟩
    · rw [hall n hzero]
      exact ⟨rfl, iff_of_false (by simp) hzero⟩
  by_cases hbuffers : ¬ st.HasBuffer destination ∨ ¬ st.HasBuffer source
  · exact .inl (hrefused _ fun n hn => by rw [moveCapabilities, if_neg hn, if_pos hbuffers])
  · cases hlookup : st.lookupFromRoot destination destinationWords.destinationNode with
    | none =>
      exact .inl (hrefused _ fun n hn => by
        rw [moveCapabilities, if_neg hn, if_neg hbuffers, hlookup])
    | some result =>
      cases result with
      | error =>
        exact .inl (hrefused _ fun n hn => by
          rw [moveCapabilities, if_neg hn, if_neg hbuffers, hlookup])
      | ok node =>
        by_cases hnode : (st.slots node).component = none ∨ (st.slots node).type ≠ .node
        · exact .inl (hrefused _ fun n hn => by
            rw [moveCapabilities, if_neg hn, if_neg hbuffers, hlookup]
            exact if_pos hnode)
        · refine .inr ⟨node, rfl, fun n => ?_⟩
          by_cases hzero : n = 0
          · rw [hzero]
            rfl
          · rw [moveCapabilities, if_neg hzero, if_neg hbuffers, hlookup]
            exact if_neg hnode

end CapState

/-! ## Two processes that share their root Node

The first process makes a second, a Frame for its IPC buffer and a Node, and gives it its own root
Node and the Frame. -/

section Example

open CapState

def processMade : CapState Unit := initBoot.invoked (convertMessage 7 0 4)
def frameMade : CapState Unit := processMade.invoked (convertMessage 6 12 5)
def nodeMade : CapState Unit := frameMade.invoked (convertMessage 2 2 6)
def processConfigured : CapState Unit :=
  nodeMade.invoked [rootDescriptor 4, 1, 6, 0, rootDescriptor 1, rootDescriptor 5]

theorem nodeMade_reachable :
    Relation.ReflTransGen (InvokeStep samplePlatform sampleOps) initBoot nodeMade := by
  have hprocess : InvokeStep samplePlatform sampleOps initBoot processMade :=
    invokeStep_invoked (by decide +kernel)
  have hframe : InvokeStep samplePlatform sampleOps processMade frameMade :=
    invokeStep_invoked (by decide +kernel)
  have hnode : InvokeStep samplePlatform sampleOps frameMade nodeMade :=
    invokeStep_invoked (by decide +kernel)
  exact ((Relation.ReflTransGen.single hprocess).tail hframe).tail hnode

theorem processConfigured_reachable :
    Relation.ReflTransGen (InvokeStep samplePlatform sampleOps) initBoot processConfigured :=
  nodeMade_reachable.tail (invokeStep_invoked (by decide +kernel))

/-- The second process receives into the new Node, from its first slot on. -/
def receivingWords : TransferWords where
  sourceDescriptors _ := 0
  destinationNode := rootDescriptor 6
  destinationIndex := 0

/-- The first process sends that Node itself and the Frame of its own buffer. -/
def sendingWords : TransferWords where
  sourceDescriptors i := [rootDescriptor 6, rootDescriptor 3].getD i 0
  destinationNode := 0
  destinationIndex := 0

def portTable : SlotTable :=
  [(.process 0x9000 .rootSlot, { component := some (.node 0x2000), type := .node, rights := Slot.all
                                 nextSlot := some (.process 0x100000 .rootSlot) }),
    (.process 0x100000 .rootSlot, { component := some (.node 0x2000), type := .node
                                    rights := Slot.all
                                    previewSlot := some (.process 0x9000 .rootSlot) }),
    (.process 0x9000 .bufferFrame, { component := some .frame, type := .frame, rights := Slot.all
                                     data := { first := 0x7000, third := 12 } }),
    (.process 0x100000 .bufferFrame, { component := some .frame, type := .frame, rights := Slot.all
                                       data := { first := 0x8000, third := 12 } }),
    (.node 0x2000 6, { component := some (.node 0x102000), type := .node, rights := Slot.all }),
    (.node 0x2000 3, { component := some (.ipcPort 0x5000), type := .ipcPort, rights := Slot.all }),
    (.node 0x2000 4, { component := some (.notificationPort 0x6000), type := .notificationPort
                       rights := Slot.all })]

def portState : CapState Unit :=
  { ofTable portTable [(0x2000, ⟨0, 4, true⟩), (0x102000, ⟨0, 2, true⟩)] () with
    buffer := fun process => some process }

def portWords : TransferWords where
  sourceDescriptors i := [rootDescriptor 3, rootDescriptor 4].getD i 0
  destinationNode := 0
  destinationIndex := 0

theorem keepsNode_ports : portState.KeepsNode 0x100000 0x9000 receivingWords portWords 2 := by
  intro node moves st' hnode hall hlt
  have hnode' : portState.lookupFromRoot 0x100000 receivingWords.destinationNode =
      some (.ok (.node 0x2000 6)) := by decide +kernel
  obtain rfl : SlotId.node 0x2000 6 = node := by
    rw [hnode'] at hnode
    exact Except.ok.inj (Option.some.inj hnode)
  cases hall with
  | done => simp
  | @round _ _ _ _ origin target moves hmoved hrest =>
    have horigin : portState.lookupFromRoot 0x9000 (portWords.sourceDescriptors 0) =
        some (.ok (.node 0x2000 3)) := by decide +kernel
    obtain rfl : SlotId.node 0x2000 3 = origin := by
      rw [hmoved.source_eq] at horigin
      exact (Except.ok.inj (Option.some.inj horigin)).symm
    obtain rfl : moves = [] := by
      rw [List.length_cons] at hlt
      exact List.length_eq_zero_iff.mp (by omega)
    simp

def portMade : CapState Unit := processConfigured.invoked (convertMessage 8 0 7)

/-- CONVERT to a Generic starts the slot of the memory over and so forgets the port behind it, whose
own link still leads there. -/
def genericMade : CapState Unit := portMade.invoked (convertMessage 3 12 8)

def forgottenWords : TransferWords where
  sourceDescriptors _ := rootDescriptor 7
  destinationNode := 0
  destinationIndex := 0

/-- After the first round the slot of the Node is empty, and the second calls its component. -/
theorem moveCapabilities_dead_node :
    Relation.ReflTransGen (InvokeStep samplePlatform sampleOps) initBoot processConfigured ∧
      processConfigured.lookupFromRoot 0x100000 receivingWords.destinationNode =
        some (.ok (.node 0x2000 6)) ∧
      (processConfigured.slots (.node 0x2000 6)).component = some (.node 0x102000) ∧
      (processConfigured.moveCapabilities 0x100000 0x9000 receivingWords sendingWords 2).result =
        .error .nullDereference :=
  ⟨processConfigured_reachable, by decide +kernel, by decide +kernel, by decide +kernel⟩

end Example

end A9N.Kernel
