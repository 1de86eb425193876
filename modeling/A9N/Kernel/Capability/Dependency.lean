import A9N.Framework.Links
import A9N.Kernel.Capability.Slot

/-!
# The dependency list as a family of linked lists

Reads the slots' own pointers as `Links` and shows that `unlink_and_clear_slot` takes one
element out of them and touches nothing else.
-/

namespace A9N.Kernel

namespace CapState

variable {σ : Type}

def links (st : CapState σ) : Links SlotId where
  next id := (st.slots id).nextSlot
  preview id := (st.slots id).previewSlot

def depth (st : CapState σ) (id : SlotId) : Nat := (st.slots id).depth

def Occupied (st : CapState σ) (id : SlotId) : Prop := (st.slots id).type ≠ .none

instance (st : CapState σ) (id : SlotId) : Decidable (st.Occupied id) :=
  inferInstanceAs (Decidable ((st.slots id).type ≠ .none))

def Peer (st : CapState σ) (a b : SlotId) : Prop :=
  (st.slots a).depth = (st.slots b).depth ∧ (st.slots a).isSameObject (st.slots b)

def Below (st : CapState σ) (a b : SlotId) : Prop := st.links.Below st.depth a b

def Descends (st : CapState σ) (a b : SlotId) : Prop :=
  ∃ c, (c = a ∨ st.Peer a c) ∧ st.Below c b

structure Linked (st : CapState σ) : Prop where
  wellFormed : st.links.WellFormed
  empty : ∀ id, ¬ st.Occupied id →
    (st.slots id).nextSlot = none ∧ (st.slots id).previewSlot = none

end CapState

namespace Slot

@[simp] theorem init_type : init.type = .none := rfl

@[simp] theorem init_component : init.component = none := rfl

@[simp] theorem init_reclaiming : init.reclaiming = false := rfl

@[simp] theorem init_nextSlot : init.nextSlot = none := rfl

@[simp] theorem init_previewSlot : init.previewSlot = none := rfl

theorem isSameObject_refl {slot : Slot} (htype : slot.type ≠ .none)
    (hcomponent : slot.component ≠ none) : slot.isSameObject slot := by
  obtain ⟨component, hc⟩ := Option.ne_none_iff_exists'.mp hcomponent
  simp only [isSameObject, hc, Bool.and_eq_true, bne_iff_ne, ne_eq, beq_iff_eq, and_true]
  refine ⟨htype, ?_⟩
  cases component <;> simp [Component.isSameObject]

theorem isSameObject_symm {a b : Slot} (h : a.isSameObject b) : b.isSameObject a := by
  cases hc : a.component with
  | none => simp [isSameObject, hc] at h
  | some component =>
    simp only [isSameObject, hc, Bool.and_eq_true, bne_iff_ne, ne_eq, beq_iff_eq] at h
    obtain ⟨⟨⟨hne, htype⟩, hb⟩, hsame⟩ := h
    simp only [isSameObject, hb, hc, htype ▸ hne, htype, Bool.and_eq_true, bne_iff_ne, ne_eq,
      beq_iff_eq, not_false_eq_true, true_and]
    cases component <;> simp_all [Component.isSameObject]

theorem isSameObject_trans {a b c : Slot} (hab : a.isSameObject b) (hbc : b.isSameObject c) :
    a.isSameObject c := by
  cases ha : a.component with
  | none => simp [isSameObject, ha] at hab
  | some component =>
    simp only [isSameObject, ha, Bool.and_eq_true, bne_iff_ne, ne_eq, beq_iff_eq] at hab
    obtain ⟨⟨⟨hne, htype⟩, hb⟩, hsame⟩ := hab
    simp only [isSameObject, hb, Bool.and_eq_true, bne_iff_ne, ne_eq, beq_iff_eq] at hbc
    obtain ⟨⟨⟨-, htype'⟩, hc⟩, hsame'⟩ := hbc
    simp only [isSameObject, ha, hc, htype.trans htype', Bool.and_eq_true, bne_iff_ne, ne_eq,
      beq_iff_eq]
    cases component <;> simp_all [Component.isSameObject]

theorem isSameObject_type {a b : Slot} (h : a.isSameObject b) :
    a.type ≠ .none ∧ a.type = b.type ∧ a.component = b.component := by
  cases hc : a.component with
  | none => simp [isSameObject, hc] at h
  | some component =>
    simp only [isSameObject, hc, Bool.and_eq_true, bne_iff_ne, ne_eq, beq_iff_eq] at h
    exact ⟨h.1.1.1, h.1.1.2, h.1.2.symm⟩

end Slot

namespace CapState

variable {σ : Type} {st : CapState σ} {a b c id : SlotId}

theorem Peer.symm (h : st.Peer a b) : st.Peer b a := ⟨h.1.symm, Slot.isSameObject_symm h.2⟩

theorem Peer.trans (hab : st.Peer a b) (hbc : st.Peer b c) : st.Peer a c :=
  ⟨hab.1.trans hbc.1, Slot.isSameObject_trans hab.2 hbc.2⟩

theorem Peer.occupied (h : st.Peer a b) : st.Occupied a ∧ st.Occupied b := by
  obtain ⟨hne, htype, -⟩ := Slot.isSameObject_type h.2
  exact ⟨hne, fun hb => hne (htype.trans hb)⟩

theorem isPeer_iff {neighbour : Option SlotId} :
    st.isPeer (st.slots a) neighbour ↔ ∃ b, neighbour = some b ∧ st.Peer a b := by
  cases neighbour <;> simp [isPeer, Peer]

theorem hasSibling_iff : st.hasSibling a ↔ (∃ b, (st.slots a).nextSlot = some b ∧ st.Peer a b) ∨
      ∃ b, (st.slots a).previewSlot = some b ∧ st.Peer a b := by
  rw [hasSibling, Bool.or_eq_true, isPeer_iff, isPeer_iff]

namespace Linked

variable (h : st.Linked)

include h

theorem occupied_of_next (hn : (st.slots a).nextSlot = some b) : st.Occupied a ∧ st.Occupied b := by
  constructor
  · by_contra ha
    simp [(h.empty a ha).1] at hn
  · by_contra hb
    have hp := (h.wellFormed.inverse a b).mp hn
    simp [links, (h.empty b hb).2] at hp

theorem occupied_of_below (hb : st.Below a b) : st.Occupied a ∧ st.Occupied b := by
  obtain ⟨c, hc, -⟩ := hb.head
  refine ⟨(h.occupied_of_next hc).1, ?_⟩
  cases hb with
  | single step => exact (h.occupied_of_next step.1).2
  | tail _ step => exact (h.occupied_of_next step.1).2

end Linked

theorem setNext_slots (target next : Option SlotId) : (st.setNext target next).slots id =
      if target = some id then { st.slots id with nextSlot := next } else st.slots id := by
  cases target with
  | none => simp [setNext]
  | some t =>
    by_cases ht : t = id
    · subst ht
      simp [setNext, modifySlot]
    · simp [setNext, modifySlot, setSlot_slots_of_ne _ _ (Ne.symm ht), ht]

theorem setPreview_slots (target preview : Option SlotId) :
    (st.setPreview target preview).slots id =
      if target = some id then { st.slots id with previewSlot := preview } else st.slots id := by
  cases target with
  | none => simp [setPreview]
  | some t =>
    by_cases ht : t = id
    · subst ht
      simp [setPreview, modifySlot]
    · simp [setPreview, modifySlot, setSlot_slots_of_ne _ _ (Ne.symm ht), ht]

section

variable (st : CapState σ)

@[simp] theorem setNext_type (target next : Option SlotId) (id : SlotId) :
    ((st.setNext target next).slots id).type = (st.slots id).type := by
  rw [setNext_slots]
  split_ifs <;> rfl

@[simp] theorem setPreview_type (target preview : Option SlotId) (id : SlotId) :
    ((st.setPreview target preview).slots id).type = (st.slots id).type := by
  rw [setPreview_slots]
  split_ifs <;> rfl

theorem setNext_eq (target next : Option SlotId) :
    st.setNext target next = { st with slots := (st.setNext target next).slots } := by
  cases target <;> rfl

theorem setPreview_eq (target preview : Option SlotId) :
    st.setPreview target preview = { st with slots := (st.setPreview target preview).slots } := by
  cases target <;> rfl

section

variable (id : SlotId)

theorem unlinkAndClearSlot_eq :
    st.unlinkAndClearSlot id = { st with slots := (st.unlinkAndClearSlot id).slots } := by
  rw [unlinkAndClearSlot, setSlot, removeFromDependencyNode, setPreview_eq, setNext_eq]

@[simp] theorem unlinkAndClearSlot_nodes : (st.unlinkAndClearSlot id).nodes = st.nodes := by
  rw [unlinkAndClearSlot_eq]

@[simp] theorem unlinkAndClearSlot_activeNodeReclamations :
    (st.unlinkAndClearSlot id).activeNodeReclamations = st.activeNodeReclamations := by
  rw [unlinkAndClearSlot_eq]

@[simp] theorem unlinkAndClearSlot_buffer : (st.unlinkAndClearSlot id).buffer = st.buffer := by
  rw [unlinkAndClearSlot_eq]

@[simp] theorem unlinkAndClearSlot_revocations :
    (st.unlinkAndClearSlot id).revocations = st.revocations := by
  rw [unlinkAndClearSlot_eq]

@[simp] theorem unlinkAndClearSlot_cycleBreaks :
    (st.unlinkAndClearSlot id).cycleBreaks = st.cycleBreaks := by
  rw [unlinkAndClearSlot_eq]

end

theorem unlinkAndClearSlot_type (id a : SlotId) :
    ((st.unlinkAndClearSlot id).slots a).type = if a = id then .none else (st.slots a).type := by
  by_cases ha : a = id
  · simp [ha, unlinkAndClearSlot]
  · simp [unlinkAndClearSlot, setSlot_slots_of_ne _ _ ha, removeFromDependencyNode, ha]

@[simp] theorem unlinkAndClearSlot_slots_self (id : SlotId) :
    (st.unlinkAndClearSlot id).slots id = Slot.init := by
  simp [unlinkAndClearSlot]

end

theorem unlinkAndClearSlot_slots_of_ne (h : st.Linked) (hne : a ≠ id) :
    (st.unlinkAndClearSlot id).slots a = { st.slots a with
      nextSlot := (st.links.unlink id).next a
      previewSlot := (st.links.unlink id).preview a } := by
  have hself : (st.slots id).previewSlot ≠ some id := h.wellFormed.preview_ne_self id
  have hprev : (st.slots id).previewSlot = some a ↔ (st.slots a).nextSlot = some id :=
    (h.wellFormed.inverse a id).symm
  have hnext : (st.slots id).nextSlot = some a ↔ (st.slots a).previewSlot = some id :=
    h.wellFormed.inverse id a
  rw [unlinkAndClearSlot, setSlot_slots_of_ne _ _ hne, removeFromDependencyNode, setPreview_slots,
    setNext_slots, setNext_slots, if_neg hself]
  by_cases hn : (st.slots a).nextSlot = some id <;>
    by_cases hp : (st.slots a).previewSlot = some id <;>
      simp [Links.unlink, links, hne, hn, hp, hprev, hnext]

theorem unlinkAndClearSlot_links (h : st.Linked) (id : SlotId) :
    (st.unlinkAndClearSlot id).links = st.links.unlink id := by
  have hslot : ∀ a, (st.unlinkAndClearSlot id).links.next a = (st.links.unlink id).next a ∧
      (st.unlinkAndClearSlot id).links.preview a = (st.links.unlink id).preview a := by
    intro a
    by_cases ha : a = id
    · subst ha
      simp [links, Links.unlink]
    · simp [links, unlinkAndClearSlot_slots_of_ne h ha]
  have hnext := funext fun a => (hslot a).1
  have hpreview := funext fun a => (hslot a).2
  exact congrArg₂ Links.mk hnext hpreview

theorem unlinkAndClearSlot_occupied :
    (st.unlinkAndClearSlot id).Occupied a ↔ a ≠ id ∧ st.Occupied a := by
  by_cases ha : a = id <;> simp [Occupied, unlinkAndClearSlot_type, ha]

theorem Linked.unlinkAndClearSlot (h : st.Linked) (id : SlotId) :
    (st.unlinkAndClearSlot id).Linked where
  wellFormed := by
    rw [unlinkAndClearSlot_links h]
    exact h.wellFormed.unlink
  empty a ha := by
    by_cases hid : a = id
    · subst hid
      simp
    · rw [unlinkAndClearSlot_occupied] at ha
      have hempty := h.empty a (fun ho => ha ⟨hid, ho⟩)
      simp [unlinkAndClearSlot_slots_of_ne h hid, Links.unlink, links, hid, hempty]

end CapState

end A9N.Kernel
