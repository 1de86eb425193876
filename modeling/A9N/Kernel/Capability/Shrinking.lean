import A9N.Kernel.Capability.Dependency
import A9N.Kernel.Capability.Reclamation

/-!
# A dependency list that only shrinks

Reclamation takes slots out of the list and changes nothing else of the slots it keeps, but
for the watermark of a Generic. `Shrunk` says what such a state still
shares with the one the call started from; the lemmas below it are the ways to shrink.
-/

namespace A9N.Kernel

/-- What `generic::revoke` writes to its slot. -/
def SlotData.reset (data : SlotData) : SlotData := (createGenericInfo data).init.dumpSlotData

theorem SlotData.reset_first (data : SlotData) : data.reset.first = data.first := rfl

theorem SlotData.reset_sizeBits (data : SlotData) :
    genericFlagsSizeBits data.reset.second = genericFlagsSizeBits data.second := by
  have h : (createGenericInfo data).init.sizeBits.toNat < 128 := genericFlagsSizeBits_lt data.second
  exact congrArg GenericInfo.sizeBits (createGenericInfo_dumpSlotData h)

theorem SlotData.reset_reset (data : SlotData) : data.reset.reset = data.reset := by
  have h : (createGenericInfo data).init.sizeBits.toNat < 128 := genericFlagsSizeBits_lt data.second
  have hread : createGenericInfo data.reset = (createGenericInfo data).init :=
    createGenericInfo_dumpSlotData h
  rw [SlotData.reset, hread]
  rfl

structure Slot.Kept (old new : Slot) : Prop where
  component : new.component = old.component
  type : new.type = old.type
  rights : new.rights = old.rights
  depth : new.depth = old.depth
  object : new.object = old.object
  data : new.data = old.data ∨ old.component = some .generic ∧ new.data = old.data.reset

namespace Slot.Kept

variable {a a' a'' b b' : Slot}

theorem refl (slot : Slot) : Kept slot slot := ⟨rfl, rfl, rfl, rfl, rfl, .inl rfl⟩

theorem trans (h : Kept a a') (h' : Kept a' a'') : Kept a a'' where
  component := h'.component.trans h.component
  type := h'.type.trans h.type
  rights := h'.rights.trans h.rights
  depth := h'.depth.trans h.depth
  object := h'.object.trans h.object
  data := by
    obtain hd' | ⟨hc', hd'⟩ := h'.data
    · rw [hd']
      exact h.data
    · refine .inr ⟨h.component ▸ hc', ?_⟩
      obtain hd | ⟨-, hd⟩ := h.data
      · rw [hd', hd]
      · rw [hd', hd, SlotData.reset_reset]

theorem first (h : Kept a a') : a'.data.first = a.data.first := by
  obtain hd | ⟨-, hd⟩ := h.data <;> rw [hd]
  exact SlotData.reset_first _

theorem sizeBits (h : Kept a a') :
    genericFlagsSizeBits a'.data.second = genericFlagsSizeBits a.data.second := by
  obtain hd | ⟨-, hd⟩ := h.data <;> rw [hd]
  exact SlotData.reset_sizeBits _

theorem data_of_ne_generic (h : Kept a a') (hc : a.component ≠ some .generic) :
    a'.data = a.data := by
  obtain hd | ⟨hc', -⟩ := h.data
  · exact hd
  · exact absurd hc' hc

theorem isSameObject (ha : Kept a a') (hb : Kept b b') : a'.isSameObject b' = a.isSameObject b := by
  cases hc : a.component with
  | none => simp [Slot.isSameObject, ha.component, hc]
  | some component =>
    simp only [Slot.isSameObject, ha.component, hb.component, ha.type, hb.type, hc]
    by_cases hbc : b.component = some component
    · -- only a Generic's data may have changed, and not the part that identifies it
      have hsame : component.isSameObject a' b' = component.isSameObject a b := by
        by_cases hg : component = .generic
        · simp only [hg, Component.isSameObject, ha.first, hb.first, ha.sizeBits, hb.sizeBits]
        · have hda := ha.data_of_ne_generic (by simpa [hc] using hg)
          have hdb := hb.data_of_ne_generic (by simpa [hbc] using hg)
          cases component <;> simp [Component.isSameObject, hda, hdb]
      rw [hsame]
    · simp only [beq_eq_false_iff_ne.mpr hbc, Bool.and_false, Bool.false_and]

end Slot.Kept

namespace CapState

variable {σ : Type} {st0 st st' : CapState σ} {a b id : SlotId}

structure Similar (st st' : CapState σ) : Prop where
  links : st'.links = st.links
  slots : ∀ id, (st.slots id).Kept (st'.slots id)

namespace Similar

variable (h : st.Similar st')

include h

theorem occupied : st'.Occupied a ↔ st.Occupied a := by
  rw [Occupied, Occupied, (h.slots a).type]

theorem peer : st'.Peer a b ↔ st.Peer a b := by
  rw [Peer, Peer, (h.slots a).depth, (h.slots b).depth, (h.slots a).isSameObject (h.slots b)]

theorem depth : st'.depth = st.depth := funext fun id => (h.slots id).depth

theorem below : st'.Below a b ↔ st.Below a b := by
  rw [Below, Below, h.links, h.depth]

theorem descends : st'.Descends a b ↔ st.Descends a b := by
  simp only [Descends, h.peer, h.below]

theorem linked (hl : st.Linked) : st'.Linked where
  wellFormed := by
    rw [h.links]
    exact hl.wellFormed
  empty id hid := by
    have hnext := congrFun (congrArg Links.next h.links) id
    have hpreview := congrFun (congrArg Links.preview h.links) id
    rw [h.occupied] at hid
    exact ⟨hnext.trans (hl.empty id hid).1, hpreview.trans (hl.empty id hid).2⟩

end Similar

theorem similar_of_slots (h : st'.slots = st.slots) : st.Similar st' where
  links := by rw [links, links, h]
  slots id := by
    rw [h]
    exact Slot.Kept.refl _

theorem similar_modifySlot (id : SlotId) (f : Slot → Slot)
    (hkept : (st.slots id).Kept (f (st.slots id)))
    (hnext : (f (st.slots id)).nextSlot = (st.slots id).nextSlot)
    (hpreview : (f (st.slots id)).previewSlot = (st.slots id).previewSlot) :
    st.Similar (st.modifySlot id f) where
  links := by
    have hlinks : ∀ a, (st.modifySlot id f).links.next a = st.links.next a ∧
        (st.modifySlot id f).links.preview a = st.links.preview a := by
      intro a
      by_cases ha : a = id
      · simp [links, modifySlot_slots, ha, hnext, hpreview]
      · simp [links, modifySlot_slots, ha]
    exact congrArg₂ Links.mk (funext fun a => (hlinks a).1) (funext fun a => (hlinks a).2)
  slots a := by
    rw [modifySlot_slots]
    split_ifs with ha
    · rw [ha]
      exact hkept
    · exact Slot.Kept.refl _

theorem similar_setReclaiming (id : SlotId) (value : Bool) :
    st.Similar (st.setReclaiming id value) :=
  similar_modifySlot id _ ⟨rfl, rfl, rfl, rfl, rfl, .inl rfl⟩ rfl rfl

theorem similar_resetWatermark (hid : (st.slots id).component = some .generic) :
    st.Similar (st.resetWatermark id) :=
  similar_modifySlot id _ ⟨rfl, rfl, rfl, rfl, rfl, .inr ⟨hid, rfl⟩⟩ rfl rfl

def Grouped (st : CapState σ) (a : SlotId) : Prop :=
  ∀ b, st.Peer a b → a = b ∨ Relation.TransGen (st.links.Step st.Peer) a b ∨
    Relation.TransGen (st.links.Step st.Peer) b a

structure Shrunk (st0 st : CapState σ) : Prop where
  linked : st.Linked
  kept : ∀ id, st.Occupied id → (st0.slots id).Kept (st.slots id)
  descends : ∀ a b, st.Descends a b → st0.Descends a b
  path : ∀ (P : SlotId → Prop) a b, st.Occupied a → st.Occupied b →
    Relation.TransGen (st0.links.Step fun _ c => P c) a b →
      Relation.TransGen (st.links.Step fun _ c => P c) a b
  before : ∀ a b, st.Occupied a → st.Occupied b → (st.links.Before a b ↔ st0.links.Before a b)
  grouped : ∀ a, st.Occupied a → st0.Grouped a → st.Grouped a
  nodes : st.nodes = st0.nodes

def Removable (st : CapState σ) (id : SlotId) : Prop :=
  ∀ c, (st.slots id).nextSlot = some c → (st.slots id).depth < (st.slots c).depth →
    ∃ d, (st.slots d).nextSlot = some id ∧ st.Peer id d

section Unlink

variable (h : st.Linked)

include h

theorem unlinkAndClearSlot_kept (ha : a ≠ id) :
    (st.slots a).Kept ((st.unlinkAndClearSlot id).slots a) := by
  rw [unlinkAndClearSlot_slots_of_ne h ha]
  exact ⟨rfl, rfl, rfl, rfl, rfl, .inl rfl⟩

theorem unlinkAndClearSlot_peer :
    (st.unlinkAndClearSlot id).Peer a b ↔ a ≠ id ∧ b ≠ id ∧ st.Peer a b := by
  constructor
  · intro hp
    have ha := (unlinkAndClearSlot_occupied.mp hp.occupied.1).1
    have hb := (unlinkAndClearSlot_occupied.mp hp.occupied.2).1
    have hka := unlinkAndClearSlot_kept h ha
    have hkb := unlinkAndClearSlot_kept h hb
    refine ⟨ha, hb, ?_⟩
    rwa [Peer, hka.depth, hkb.depth, hka.isSameObject hkb] at hp
  · intro hp
    have hka := unlinkAndClearSlot_kept h hp.1
    have hkb := unlinkAndClearSlot_kept h hp.2.1
    rw [Peer, hka.depth, hkb.depth, hka.isSameObject hkb]
    exact hp.2.2

theorem unlinkAndClearSlot_below :
    (st.unlinkAndClearSlot id).Below a b ↔ (st.links.unlink id).Below st.depth a b := by
  have hdepth : ∀ c, c ≠ id → (st.unlinkAndClearSlot id).depth c = st.depth c :=
    fun c hc => (unlinkAndClearSlot_kept h hc).depth
  have hnext : ∀ {x y}, (st.links.unlink id).next x = some y → x ≠ id ∧ y ≠ id := by
    intro x y hxy
    have := (Links.unlink_next_iff h.wellFormed).mp hxy
    exact ⟨this.1, this.2.1⟩
  rw [Below, unlinkAndClearSlot_links h]
  constructor
  · intro hb
    obtain ⟨c, hc, -⟩ := hb.head
    refine Relation.TransGen.mono (fun x y step => ⟨step.1, ?_⟩) a b hb
    dsimp only
    rw [← hdepth a (hnext hc).1, ← hdepth y (hnext step.1).2]
    exact step.2
  · intro hb
    obtain ⟨c, hc, -⟩ := hb.head
    refine Relation.TransGen.mono (fun x y step => ⟨step.1, ?_⟩) a b hb
    dsimp only
    rw [hdepth a (hnext hc).1, hdepth y (hnext step.1).2]
    exact step.2

theorem descends_of_unlinkAndClearSlot (hid : st.Removable id)
    (hab : (st.unlinkAndClearSlot id).Descends a b) : st.Descends a b := by
  obtain ⟨c, hac, hcb⟩ := hab
  rw [unlinkAndClearSlot_below h] at hcb
  have hac' : c = a ∨ st.Peer a c := hac.imp_right fun hp => ((unlinkAndClearSlot_peer h).mp hp).2.2
  have hdepth : ∀ e, st.links.next id = some e → st.depth id < st.depth e →
      ∃ d, st.links.next d = some id ∧ st.depth d = st.depth id := by
    intro e he hlt
    obtain ⟨d, hd, hp⟩ := hid e he hlt
    exact ⟨d, hd, hp.1.symm⟩
  obtain hcb | ⟨hcid, -, hidb⟩ := hcb.of_unlink h.wellFormed hdepth
  · exact ⟨c, hac', hcb⟩
  · -- then `c` is the alias in front of `id`
    obtain ⟨e, he, hlt⟩ := hidb.head
    obtain ⟨d, hd, hp⟩ := hid e he hlt
    have hdc : d = c := h.wellFormed.next_injective hd hcid
    rw [hdc] at hp
    refine ⟨id, .inr ?_, hidb⟩
    obtain hac' | hac' := hac'
    · exact hac' ▸ hp.symm
    · exact hac'.trans hp.symm

theorem Grouped.unlinkAndClearSlot (hg : st.Grouped a) : (st.unlinkAndClearSlot id).Grouped a := by
  -- the peers that remain are joined by what is left of their path
  have hpath : ∀ x y, x ≠ id → y ≠ id → Relation.TransGen (st.links.Step st.Peer) x y →
      Relation.TransGen ((st.unlinkAndClearSlot id).links.Step (st.unlinkAndClearSlot id).Peer) x y := by
    intro x y hx hy hp
    have htrans : ∀ u v w, st.Peer u v → st.Peer v w → st.Peer u w := fun _ _ _ => Peer.trans
    have hcut := Links.path_unlink h.wellFormed htrans hp hx hy
    refine Relation.TransGen.mono (fun u v step => ?_) x y hcut
    rw [unlinkAndClearSlot_links h]
    have hne := (Links.unlink_next_iff h.wellFormed).mp step.1
    exact ⟨step.1, (unlinkAndClearSlot_peer h).mpr ⟨hne.1, hne.2.1, step.2⟩⟩
  intro b hab
  obtain ⟨ha, hb, hab⟩ := (unlinkAndClearSlot_peer h).mp hab
  obtain hab | hab | hab := hg b hab
  · exact .inl hab
  · exact .inr (.inl (hpath a b ha hb hab))
  · exact .inr (.inr (hpath b a hb ha hab))

end Unlink

namespace Shrunk

theorem refl (h : st.Linked) : st.Shrunk st where
  linked := h
  kept _ _ := Slot.Kept.refl _
  descends _ _ h := h
  path _ _ _ _ _ h := h
  before _ _ _ _ := Iff.rfl
  grouped _ _ h := h
  nodes := rfl

theorem peer (h : st0.Shrunk st) (hab : st.Peer a b) : st0.Peer a b := by
  have hka := h.kept a hab.occupied.1
  have hkb := h.kept b hab.occupied.2
  rwa [Peer, hka.depth, hkb.depth, hka.isSameObject hkb] at hab

theorem similar (h : st0.Shrunk st) (hs : st.Similar st') (hnodes : st'.nodes = st.nodes) :
    st0.Shrunk st' where
  linked := hs.linked h.linked
  kept id hid := (h.kept id (hs.occupied.mp hid)).trans (hs.slots id)
  descends a b hab := h.descends a b (hs.descends.mp hab)
  path P a b ha hb hab := by
    rw [hs.links]
    exact h.path P a b (hs.occupied.mp ha) (hs.occupied.mp hb) hab
  before a b ha hb := by
    rw [hs.links]
    exact h.before a b (hs.occupied.mp ha) (hs.occupied.mp hb)
  grouped a ha hg := by
    have hg' := h.grouped a (hs.occupied.mp ha) hg
    have hpeer : st'.Peer = st.Peer := by
      funext x y
      exact propext hs.peer
    simpa only [Grouped, hs.links, hpeer] using hg'
  nodes := hnodes.trans h.nodes

theorem unlinkAndClearSlot (h : st0.Shrunk st) (hid : st.Removable id) :
    st0.Shrunk (st.unlinkAndClearSlot id) where
  linked := h.linked.unlinkAndClearSlot id
  kept a ha := by
    rw [unlinkAndClearSlot_occupied] at ha
    exact (h.kept a ha.2).trans (unlinkAndClearSlot_kept h.linked ha.1)
  descends a b hab := h.descends a b (descends_of_unlinkAndClearSlot h.linked hid hab)
  path P a b ha hb hab := by
    rw [unlinkAndClearSlot_occupied] at ha hb
    rw [unlinkAndClearSlot_links h.linked]
    exact Links.path_unlink h.linked.wellFormed (fun _ _ _ _ hc => hc) (h.path P a b ha.2 hb.2 hab)
      ha.1 hb.1
  before a b ha hb := by
    rw [unlinkAndClearSlot_occupied] at ha hb
    rw [unlinkAndClearSlot_links h.linked, Links.before_unlink_iff h.linked.wellFormed ha.1 hb.1]
    exact h.before a b ha.2 hb.2
  grouped a ha hg := by
    rw [unlinkAndClearSlot_occupied] at ha
    exact (h.grouped a ha.2 hg).unlinkAndClearSlot h.linked
  nodes := by
    rw [unlinkAndClearSlot_nodes]
    exact h.nodes

end Shrunk

end CapState

end A9N.Kernel
