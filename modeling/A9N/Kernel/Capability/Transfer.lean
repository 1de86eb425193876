import A9N.Kernel.Capability.ReclamationInvariant

/-!
# Copying and moving capabilities

What `try_move_capability_slot` does to the dependency list: a move renames one of its slots.
-/

namespace A9N.Kernel

def Slot.content (slot : Slot) : Slot := { slot with nextSlot := none, previewSlot := none }

/-- The capability in a slot: neither where it is in the list nor whether it is pinned. -/
def Slot.capability (slot : Slot) : Slot := { slot.content with reclaiming := false }

namespace Slot

variable {a b : Slot}

theorem content_fields (h : a.content = b.content) :
    a.component = b.component ∧ a.type = b.type ∧ a.rights = b.rights ∧
      a.reclaiming = b.reclaiming ∧ a.data = b.data ∧ a.depth = b.depth ∧ a.object = b.object := by
  simpa [content] using h

theorem content_component (h : a.content = b.content) : a.component = b.component :=
  (content_fields h).1

theorem content_type (h : a.content = b.content) : a.type = b.type := (content_fields h).2.1

end Slot

namespace CapState

variable {σ : Type} {st st' : CapState σ} {source destination a b : SlotId}

theorem setNext_content (target next : Option SlotId) (a : SlotId) :
    ((st.setNext target next).slots a).content = (st.slots a).content := by
  cases target with
  | none => rfl
  | some id =>
    simp only [setNext, modifySlot_slots]
    split
    case isTrue heq => simp [Slot.content, heq]
    case isFalse => rfl

theorem setPreview_content (target preview : Option SlotId) (a : SlotId) :
    ((st.setPreview target preview).slots a).content = (st.slots a).content := by
  cases target with
  | none => rfl
  | some id =>
    simp only [setPreview, modifySlot_slots]
    split
    case isTrue heq => simp [Slot.content, heq]
    case isFalse => rfl

theorem unlinkAndClearSlot_content {id : SlotId} (ha : a ≠ id) :
    ((st.unlinkAndClearSlot id).slots a).content = (st.slots a).content := by
  rw [unlinkAndClearSlot, setSlot_slots_of_ne _ _ ha, removeFromDependencyNode, setPreview_content,
    setNext_content]

theorem insert_content (st : CapState σ) (anchor x a : SlotId) :
    ((st.insert anchor x).slots a).content = (st.slots a).content := by
  simp only [insert, setPreview_slots, modifySlot_slots, setNext_slots]
  split_ifs <;> simp_all [Slot.content]

structure Renamed (st st' : CapState σ) (π : Equiv.Perm SlotId) : Prop where
  links : st'.links = st.links.rename π
  occupied : ∀ a, st'.Occupied (π a) ↔ st.Occupied a
  same : ∀ a, st.Occupied a → (st'.slots (π a)).capability = (st.slots a).capability

namespace Renamed

theorem refl (st : CapState σ) : st.Renamed st 1 := by
  refine ⟨?_, fun _ => Iff.rfl, fun _ _ => rfl⟩
  change st.links = st.links.rename (Equiv.refl SlotId)
  simp [Links.rename]

theorem then_iff {st'' : CapState σ} {π ρ : Equiv.Perm SlotId} (h : st.Renamed st' π) :
    st.Renamed st'' (ρ * π) ↔ st'.Renamed st'' ρ := by
  have hlinks : st.links.rename (ρ * π) = st'.links.rename ρ := by
    rw [h.links]
    simp [Links.rename, Equiv.Perm.mul_def, Option.map_map, Function.comp_def]
  constructor
  · intro h''
    refine ⟨h''.links.trans hlinks, fun a => ?_, fun a ha => ?_⟩
    · obtain ⟨a, rfl⟩ := π.surjective a
      exact (h''.occupied a).trans (h.occupied a).symm
    · obtain ⟨a, rfl⟩ := π.surjective a
      have ha' := (h.occupied a).mp ha
      exact (h''.same a ha').trans (h.same a ha').symm
  · intro h''
    refine ⟨h''.links.trans hlinks.symm, fun a => ?_, fun a ha => ?_⟩
    · exact (h''.occupied (π a)).trans (h.occupied a)
    · exact (h''.same (π a) ((h.occupied a).mpr ha)).trans (h.same a ha)

variable {π : Equiv.Perm SlotId} (hr : st.Renamed st' π)

include hr

theorem linked (h : st.Linked) : st'.Linked where
  wellFormed := by
    rw [hr.links]
    exact h.wellFormed.rename π
  empty id hid := by
    obtain ⟨a, rfl⟩ := π.surjective id
    have ha : st.links.next a = none ∧ st.links.preview a = none :=
      h.empty a fun ho => hid ((hr.occupied a).mpr ho)
    have hnext : (st'.slots (π a)).nextSlot = (st.links.rename π).next (π a) :=
      congrFun (congrArg Links.next hr.links) (π a)
    have hpreview : (st'.slots (π a)).previewSlot = (st.links.rename π).preview (π a) :=
      congrFun (congrArg Links.preview hr.links) (π a)
    rw [hnext, hpreview]
    simp [Links.rename, ha.1, ha.2]

end Renamed

theorem setSlot_eq (st : CapState σ) (id : SlotId) (slot : Slot) :
    st.setSlot id slot = { st with slots := (st.setSlot id slot).slots } := rfl

theorem tryMoveCapabilitySlot_self (hempty : (st.slots source).type = .none) :
    st.tryMoveCapabilitySlot source source = .ok () (st.setSlot source Slot.init) := by
  rw [tryMoveCapabilitySlot, if_neg (not_not.mpr hempty)]
  simp [setNext, setPreview, modifySlot, setSlot]

section

variable (h : st.tryMoveCapabilitySlot destination source = .ok () st')
include h

theorem tryMoveCapabilitySlot_empty : (st.slots destination).type = .none := by
  unfold tryMoveCapabilitySlot at h
  split at h
  · cases h
  next hempty => exact not_not.mp hempty

theorem tryMoveCapabilitySlot_ok :
    st' = { st with slots := st'.slots } ∧ st'.slots source = Slot.init ∧
      (source ≠ destination → (st'.slots destination).content =
        { (st.slots source).content with reclaiming := false }) ∧
      ∀ a, a ≠ source → a ≠ destination → (st'.slots a).content = (st.slots a).content := by
  have hempty := tryMoveCapabilitySlot_empty h
  rw [tryMoveCapabilitySlot, if_neg (not_not.mpr hempty)] at h
  have hst : _ = st' := congrArg Outcome.state h
  rw [Outcome.ok_state] at hst
  have hlinks : ∀ (st : CapState σ) (previous next : Option SlotId) (a : SlotId),
      (((st.setNext previous (some destination)).setPreview next (some destination)).slots
        a).content = (st.slots a).content := by
    intro st previous next a
    rw [setPreview_content, setNext_content]
  refine ⟨?_, ?_, fun hne => ?_, fun a hsource hdestination => ?_⟩
  · rw [← hst, setSlot_eq, setPreview_eq, setNext_eq]
    rfl
  · rw [← hst]
    exact setSlot_slots_self _ _ _
  · rw [← hst, setSlot_slots_of_ne _ _ hne.symm, hlinks, modifySlot_slots, if_pos rfl,
      setSlot_slots_self, setSlot_slots_of_ne _ _ hne]
    rfl
  · rw [← hst, setSlot_slots_of_ne _ _ hsource, hlinks, modifySlot_slots, if_neg hdestination,
      setSlot_slots_of_ne _ _ hdestination]

theorem tryMoveCapabilitySlot_links : st'.links = st.links.move source destination := by
  have hempty := tryMoveCapabilitySlot_empty h
  rw [Links.eq_iff]
  intro a
  by_cases hne : source = destination
  · subst hne
    rw [tryMoveCapabilitySlot_self hempty] at h
    obtain rfl : _ = st' := congrArg Outcome.state h
    by_cases ha : a = source
    · simp [links, Links.move, ha]
    · simp [links, Links.move, ha, setSlot_slots_of_ne _ _ ha]
  · rw [tryMoveCapabilitySlot, if_neg (not_not.mpr hempty)] at h
    obtain rfl : _ = st' := congrArg Outcome.state h
    simp only [Outcome.ok_state, links, Links.move, hne, if_false]
    by_cases hsource : a = source
    · simp [hsource]
    · rw [setSlot_slots_of_ne _ _ hsource]
      simp only [hsource, if_false, setPreview_slots, setNext_slots, modifySlot_slots,
        setSlot_slots_of_ne _ _ hne, setSlot_slots_self, if_true]
      by_cases hdestination : a = destination
      · subst hdestination
        simp only [if_true]
        split_ifs <;> simp_all
      · simp only [hdestination, if_false, setSlot_slots_of_ne _ _ hdestination]
        split_ifs <;> simp_all

/-- A move gives the slot of a capability another name exactly where its neighbours point back. -/
theorem tryMoveCapabilitySlot_renamed_iff :
    st.Renamed st' (Equiv.swap source destination) ↔ st.links.PointsBack source destination := by
  rw [← Links.move_eq_rename_iff, ← tryMoveCapabilitySlot_links h]
  have hempty := tryMoveCapabilitySlot_empty h
  obtain ⟨-, hsource, hmoved, hother⟩ := tryMoveCapabilitySlot_ok h
  have hslots : ∀ a, (st'.Occupied (Equiv.swap source destination a) ↔ st.Occupied a) ∧
      (st.Occupied a → (st'.slots (Equiv.swap source destination a)).capability =
        (st.slots a).capability) := by
    intro a
    by_cases hs : a = source
    · by_cases hne : source = destination
      · subst hs hne
        simp [Occupied, hsource, hempty]
      · rw [hs, Equiv.swap_apply_left, Occupied, Slot.capability, hmoved hne]
        refine ⟨?_, fun _ => rfl⟩
        have htype := congrArg Slot.type (hmoved hne)
        change (st'.slots destination).type = (st.slots source).type at htype
        rw [htype]
        rfl
    · by_cases hd : a = destination
      · rw [hd, Equiv.swap_apply_right, Occupied, hsource]
        simp [Occupied, hempty]
      · rw [Equiv.swap_apply_of_ne_of_ne hs hd, Occupied, Slot.content_type (hother a hs hd),
          Slot.capability, hother a hs hd]
        exact ⟨Iff.rfl, fun _ => rfl⟩
  exact ⟨Renamed.links, fun hlinks => ⟨hlinks, fun a => (hslots a).1, fun a => (hslots a).2⟩⟩

end

theorem Linked.pointsBack (h : st.Linked) (source : SlotId) (hd : (st.slots destination).type = .none) :
    st.links.PointsBack source destination :=
  h.wellFormed.pointsBack (h.empty destination (not_not.mpr hd))

end CapState

end A9N.Kernel
