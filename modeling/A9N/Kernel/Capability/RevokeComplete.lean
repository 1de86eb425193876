import A9N.Kernel.Capability.ReclamationOrder
import A9N.Kernel.Capability.SlotTable

/-!
# A successful revocation is complete

What `revoke_slot` leaves when it reports success: an empty descendant segment, one completed
callback for each object of the segment, in post-order, and the slot itself.
-/

namespace A9N.Kernel

theorem countP_alike_eq_one {slot : Slot} {completed : List Revocation}
    (honce : completed.Pairwise fun record other => ¬ record.object.Alike other.object)
    (hmem : ∃ record ∈ completed, slot.Alike record.object) :
    completed.countP (fun record => slot.Alike record.object) = 1 := by
  induction completed with
  | nil => simp at hmem
  | cons record rest ih =>
    obtain ⟨hfirst, hrest⟩ := List.pairwise_cons.mp honce
    by_cases hsame : slot.Alike record.object
    · have hnone : rest.countP (fun record => slot.Alike record.object) = 0 := by
        rw [List.countP_eq_zero]
        intro other hother
        simpa using fun hs : slot.Alike other.object => hfirst other hother (hsame.symm.trans hs)
      simp [hsame, hnone]
    · obtain ⟨other, hother, hs⟩ := hmem
      rcases List.mem_cons.mp hother with heq | hother
      · exact absurd (heq ▸ hs) hsame
      · simp [hsame, ih hrest ⟨other, hother, hs⟩]

namespace CapState

/-- A complete revocation of `s`. `completed` lists the callbacks the call has completed, the
latest first. -/
structure Revoked {σ : Type} (st st' : CapState σ) (s : SlotId) (completed : List Revocation) :
    Prop where
  emptied : ∀ b, st.Descends s b → ¬ st'.Occupied b ∧ (st'.slots b).nextSlot = none ∧
    (st'.slots b).previewSlot = none
  revocations : st'.revocations = completed ++ st.revocations
  once : ∀ b, st.Descends s b →
    completed.countP (fun record => (st.slots b).Alike record.object) = 1
  postOrder : ∀ later record earlier, completed = later ++ record :: earlier →
    record.hasChild = false ∧ ∀ b, st.Descends record.slot b →
      ∃ other ∈ earlier, (st.slots b).Alike other.object
  last : ∃ record earlier, completed = record :: earlier ∧ record.slot = s
  slot : ((st'.slots s).type = (st.slots s).type ∧
      (st'.slots s).component = (st.slots s).component ∧
      (st'.slots s).rights = (st.slots s).rights) ∨
    ∃ record ∈ completed, ∃ address index, s = .node address index ∧
      record.object.component = some (.node address)

/-- A callback that did not begin inside the callback of a Node among its own descendants, and is
not for the process that keeps `s`. -/
structure Untangled {σ : Type} (st : CapState σ) (s : SlotId) (record : Revocation) : Prop where
  nodes : ∀ b address, st.Descends record.slot b →
    (st.slots b).component = some (.node address) → address ∉ record.scopes
  process : ∀ process field, record.object.component = some (.processControlBlock process) →
    s ≠ .process process field

variable {σ : Type} {st st₁ : CapState σ} {s : SlotId} {frame : Frame}
  {completed : List Revocation} {broken : List SlotId}

section

variable (h : Config.Ordered st s ⟨[frame], st₁⟩ completed broken)
include h

theorem postOrder_of_untangled (hall : ∀ record ∈ completed, st.Untangled s record) :
    ∀ later record earlier, completed = later ++ record :: earlier →
      record.hasChild = false ∧ ∀ b, st.Descends record.slot b →
        ∃ other ∈ earlier, (st.slots b).Alike other.object := by
  intro later record earlier heq
  have hmem : record ∈ completed := by simp [heq]
  refine ⟨h.childless record hmem, fun b hb => ?_⟩
  obtain hother | ⟨address, haddress, hcomponent⟩ := h.order later record earlier heq b hb
  · exact hother
  · exact absurd haddress ((hall record hmem).nodes b address hb hcomponent)

/-- Where `s` was stored if the call has emptied it. -/
theorem slot_of_untangled (hall : ∀ record ∈ completed, st.Untangled s record)
    {record : Revocation} {earlier : List Revocation} (hcompleted : completed = record :: earlier)
    (hslot : frame.slot = s) (hrecord : record.slot = s)
    (hself : (st.slots s).Alike record.object) (hempty : ¬ st₁.Occupied s) :
    ∃ record ∈ completed, ∃ address index, s = .node address index ∧
      record.object.component = some (.node address) := by
  have hpost := postOrder_of_untangled h hall
  obtain ⟨taker, htaker, htakes⟩ : ∃ taker ∈ completed, st.Takes s taker.slot := by
    obtain ⟨f, hf, htakes⟩ | htaken := h.taken (List.cons_ne_nil _ _) hempty
    · rw [List.mem_singleton.mp hf, hslot, ← hrecord] at htakes
      exact ⟨record, hcompleted ▸ List.mem_cons_self, hrecord ▸ htakes⟩
    · exact htaken
  have hkept := (h.history.origin taker htaker).2
  obtain hdescends | ⟨address, index, hs, hc⟩ | ⟨process, field, hs, hc⟩ := htakes
  · -- then a callback for the object of `s` would have completed before its last one
    obtain ⟨later, rest, heq⟩ := List.append_of_mem htaker
    obtain ⟨other, hother, hsame⟩ := (hpost later taker rest heq).2 s hdescends
    have hearlier : other ∈ earlier := by
      rw [hcompleted] at heq
      cases later with
      | nil => exact (List.cons.inj heq).2 ▸ hother
      | cons first later =>
        rw [(List.cons.inj heq).2]
        simp [hother]
    have honce := h.once
    rw [hcompleted, List.pairwise_cons] at honce
    exact absurd (hself.symm.trans hsame) (honce.1 other hearlier)
  · exact ⟨taker, htaker, address, index, hs, hkept.component.trans hc⟩
  · exact absurd hs ((hall taker htaker).process process field (hkept.component.trans hc))

theorem untangled_of_revoked {st' : CapState σ} (hstart : st.Occupied s)
    (hempty : ∀ a, st'.Occupied a → st₁.Occupied a) (hrevoked : st.Revoked st' s completed) :
    ∀ record ∈ completed, st.Untangled s record := by
  intro record hrecord
  refine ⟨fun b address hb hcomponent haddress => ?_, fun process field hcomponent hs => ?_⟩
  · obtain ⟨later, earlier, heq⟩ := List.append_of_mem hrecord
    obtain ⟨other, hother, hsame⟩ := (hrevoked.postOrder later record earlier heq).2 b hb
    exact h.scopes later record earlier heq address haddress other hother
      ((Slot.isSameObject_type hsame.2).2.2.symm.trans hcomponent)
  · obtain ⟨htype, -⟩ | ⟨-, -, address, index, hs', -⟩ := hrevoked.slot
    · have ho : st'.Occupied s := by rwa [Occupied, htype]
      exact h.emptied record hrecord process field hcomponent (hs ▸ hempty s ho)
    · rw [hs'] at hs
      simp at hs

theorem untangled_of_unreached
    (hnodes : ∀ a b f address, st.Reaches s a → st.Descends a b →
      (st.slots b).component = some (.node address) →
      (st.slots f).component = some (.node address) → ¬ st.Reaches f a)
    (hprocess : ∀ a process field, st.Reaches s a →
      (st.slots a).component = some (.processControlBlock process) → s ≠ .process process field) :
    ∀ record ∈ completed, st.Untangled s record := by
  intro record hrecord
  obtain ⟨hreaches, hscopes⟩ := h.reached record hrecord
  refine ⟨fun b address hb hcomponent haddress => ?_, fun process field hcomponent => ?_⟩
  · obtain ⟨f, hf, hfa⟩ := hscopes address haddress
    exact hnodes record.slot b f address hreaches hb hcomponent hf hfa
  · have hkept := (h.history.origin record hrecord).2
    exact hprocess record.slot process field hreaches (hkept.component.symm.trans hcomponent)

end

end CapState

def SlotId.isHandler : SlotId → Bool
  | .irq _ | .process _ .bindedNotificationPort => true
  | _ => false

def SlotTable.Placed (table : SlotTable) : Prop :=
  ∀ a ∈ table.keys,
    (∀ b ∈ table.keys, (table.slots a).depth < (table.slots b).depth →
      ((table.slots a).type = .interruptRegion → (table.slots b).type = .interruptPort) ∧
        ((table.slots a).type = .ioPort → (table.slots b).type = .ioPort)) ∧
    (∀ b ∈ table.keys, (table.slots a).type = .node →
      (table.slots a).component = (table.slots b).component →
        (table.slots a).depth = (table.slots b).depth) ∧
    (a.isHandler → (table.slots a).type = .notificationPort)

instance (table : SlotTable) : Decidable table.Placed :=
  inferInstanceAs (Decidable (∀ a ∈ table.keys, _))

namespace CapState

variable {σ : Type} {table : SlotTable} {nodes : List (Word × NodeObject)} {objects : σ}

theorem kernelPlaced_ofTable (nodes : List (Word × NodeObject)) (objects : σ) (hb : table.Built)
    (h : table.Placed) : (ofTable table nodes objects).KernelPlaced := by
  have hbuilt : (ofTable table nodes objects).KernelBuilt := kernelBuilt_ofTable nodes objects hb
  have hbelow : ∀ a b, (ofTable table nodes objects).Below a b →
      a ∈ table.keys ∧ b ∈ table.keys := by
    intro a b hab
    have ho := hbuilt.linked.occupied_of_below hab
    exact ⟨mem_keys_of_occupied ho.1, mem_keys_of_occupied ho.2⟩
  refine ⟨⟨table.keys.idxOf, fun a b hn => ?_⟩, fun a b hab => ?_, fun a b hab ht => ?_,
    fun a b hab ht => ?_, fun number ho => ?_, fun process ho => ?_,
    fun a b address ha hob hca hcb => ?_⟩
  · have hmem : b ∈ table.keys := mem_keys_of_occupied (hbuilt.linked.occupied_of_next hn).2
    have hlt := List.idxOf_lt_length_of_mem hmem
    refine ⟨((hb a (mem_keys_of_next hn)).1.1 b hn).2, ?_⟩
    rwa [SlotTable.keys, List.length_map] at hlt
  · obtain heq | ⟨-, hnext | hnext⟩ := (hb a (mem_keys_of_occupied hab.occupied.1)).2.2 b
      (mem_keys_of_occupied hab.occupied.2) hab
    · exact .inl heq.symm
    · exact .inr (.inl (.single ⟨hnext, hab⟩))
    · exact .inr (.inr (.single ⟨hnext, hab.symm⟩))
  · obtain ⟨ha, hb'⟩ := hbelow a b hab
    exact ((h a ha).1 b hb' hab.depth_lt).1 ht
  · obtain ⟨ha, hb'⟩ := hbelow a b hab
    exact ((h a ha).1 b hb' hab.depth_lt).2 ht
  · exact (h _ (mem_keys_of_occupied ho)).2.2 rfl
  · exact (h _ (mem_keys_of_occupied ho)).2.2 rfl
  · have ht := type_of_component hbuilt ha hca
    exact (h a (mem_keys_of_occupied ha)).2.1 b (mem_keys_of_occupied hob) ht (hca.trans hcb.symm)

def pairedNodes : SlotTable :=
  [ (.node 0x4000 0, { component := some .generic, type := .generic, rights := 3
                       data := ⟨0x10000, 16, 0x12100⟩, nextSlot := some (.node 0x4000 1) }),
    (.node 0x4000 1, { component := some (.node 0x12000), type := .node, rights := 15, depth := 1
                       previewSlot := some (.node 0x4000 0), nextSlot := some (.node 0x10000 0) }),
    (.node 0x10000 0, { component := some (.node 0x12000), type := .node, rights := 15, depth := 1
                        previewSlot := some (.node 0x4000 1), nextSlot := some (.node 0x12000 0) }),
    (.node 0x12000 0, { component := some (.node 0x10000), type := .node, rights := 15, depth := 1
                        previewSlot := some (.node 0x10000 0) }) ]

def pairedNodesState : CapState Unit :=
  ofTable pairedNodes
    [(0x4000, ⟨0, 1, true⟩), (0x10000, ⟨0, 1, true⟩), (0x12000, ⟨0, 1, true⟩)] ()

def pairedNodesAfter : CapState Unit :=
  match revokeSlot sampleOps 8 pairedNodesState (.node 0x4000 0) with
  | none => pairedNodesState
  | some o => o.state

def knottedGenerics : SlotTable :=
  [ (.node 0x4000 0, { component := some .generic, type := .generic, rights := 3
                       data := ⟨0x10000, 16, 0x12100⟩, nextSlot := some (.node 0x4000 1) }),
    (.node 0x4000 1, { component := some (.node 0x12000), type := .node, rights := 15, depth := 1
                       previewSlot := some (.node 0x4000 0), nextSlot := some (.node 0x10000 0) }),
    (.node 0x10000 0, { component := some .generic, type := .generic, rights := 3, depth := 1
                        data := ⟨0x10000, 13, 0x10100⟩
                        previewSlot := some (.node 0x4000 1), nextSlot := some (.node 0x12000 0) }),
    (.node 0x12000 0, { component := some (.node 0x10000), type := .node, rights := 15, depth := 2
                        previewSlot := some (.node 0x10000 0) }) ]

def knottedGenericsState : CapState Unit :=
  ofTable knottedGenerics
    [(0x4000, ⟨0, 2, true⟩), (0x10000, ⟨0, 1, true⟩), (0x12000, ⟨0, 1, true⟩)] ()

def knottedGenericsAfter : CapState Unit :=
  match revokeSlot sampleOps 8 knottedGenericsState (.node 0x4000 0) with
  | none => knottedGenericsState
  | some o => o.state

end CapState

end A9N.Kernel
