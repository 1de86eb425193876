import A9N.Kernel.Capability.ReclamationInvariant

/-!
# States given by a table

A state with finitely many occupied slots, written down as a table, and a check on the table
that decides whether its dependency list is one the kernel builds.
-/

namespace A9N.Kernel

abbrev SlotTable := List (SlotId × Slot)

namespace SlotTable

def slots (table : SlotTable) (id : SlotId) : Slot := (table.lookup id).getD Slot.init

def keys (table : SlotTable) : List SlotId := table.map Prod.fst

def IsPeer (table : SlotTable) (a b : SlotId) : Prop :=
  (table.slots a).depth = (table.slots b).depth ∧ (table.slots a).isSameObject (table.slots b)

def LinksOk (table : SlotTable) (id : SlotId) : Prop :=
  (∀ next ∈ (table.slots id).nextSlot, (table.slots next).previewSlot = some id ∧
    table.keys.idxOf id < table.keys.idxOf next) ∧
  (∀ preview ∈ (table.slots id).previewSlot, (table.slots preview).nextSlot = some id)

def TypeOk (table : SlotTable) (id : SlotId) : Prop :=
  (table.slots id).component.map Component.type = some (table.slots id).type ∧
  ∀ next ∈ (table.slots id).nextSlot, (table.slots id).depth < (table.slots next).depth →
    (table.slots id).type = .generic ∨ (table.slots id).type = .interruptRegion ∨
      (table.slots id).type = .ioPort

def PeersOk (table : SlotTable) (a : SlotId) : Prop :=
  ∀ b ∈ table.keys, table.IsPeer a b → b = a ∨ (table.slots a).type ≠ .generic ∧
    ((table.slots a).nextSlot = some b ∨ (table.slots b).nextSlot = some a)

def Built (table : SlotTable) : Prop :=
  ∀ a ∈ table.keys, table.LinksOk a ∧ table.TypeOk a ∧ table.PeersOk a

instance (table : SlotTable) (a b : SlotId) : Decidable (table.IsPeer a b) :=
  inferInstanceAs (Decidable (_ ∧ _))

instance (table : SlotTable) (id : SlotId) : Decidable (table.LinksOk id) :=
  inferInstanceAs (Decidable (_ ∧ _))

instance (table : SlotTable) (id : SlotId) : Decidable (table.TypeOk id) :=
  inferInstanceAs (Decidable (_ ∧ _))

instance (table : SlotTable) (id : SlotId) : Decidable (table.PeersOk id) :=
  inferInstanceAs (Decidable (∀ b ∈ table.keys, _))

instance (table : SlotTable) : Decidable table.Built :=
  inferInstanceAs (Decidable (∀ a ∈ table.keys, _))

variable {table : SlotTable} {id : SlotId}

theorem slots_of_not_mem (h : id ∉ table.keys) : table.slots id = Slot.init := by
  have hnone : table.lookup id = none := by
    rw [List.lookup_eq_none_iff]
    intro p hp
    simp only [bne_iff_ne, ne_eq]
    intro heq
    exact h (List.mem_map.mpr ⟨p, hp, heq.symm⟩)
  simp [slots, hnone]

theorem mem_keys (h : table.slots id ≠ Slot.init) : id ∈ table.keys := by
  by_contra hn
  exact h (slots_of_not_mem hn)

end SlotTable

namespace CapState

variable {σ : Type}

def ofTable (table : SlotTable) (nodes : List (Word × NodeObject)) (objects : σ) : CapState σ where
  slots := table.slots
  nodes address := (nodes.lookup address).getD {}
  slotCount := table.length
  buffer _ := none
  bindedProcess _ := none
  irqUsed _ := false
  objects := objects

variable {table : SlotTable} {nodes : List (Word × NodeObject)} {objects : σ} {a b : SlotId}

theorem mem_keys_of_next (h : ((ofTable table nodes objects).slots a).nextSlot = some b) :
    a ∈ table.keys := by
  refine SlotTable.mem_keys fun hinit => ?_
  have hinit' : (ofTable table nodes objects).slots a = Slot.init := hinit
  simp [hinit'] at h

theorem mem_keys_of_preview (h : ((ofTable table nodes objects).slots a).previewSlot = some b) :
    a ∈ table.keys := by
  refine SlotTable.mem_keys fun hinit => ?_
  have hinit' : (ofTable table nodes objects).slots a = Slot.init := hinit
  simp [hinit'] at h

theorem mem_keys_of_occupied (h : (ofTable table nodes objects).Occupied a) : a ∈ table.keys := by
  refine SlotTable.mem_keys fun hinit => ?_
  have hinit' : (ofTable table nodes objects).slots a = Slot.init := hinit
  simp [Occupied, hinit'] at h

section

variable (nodes : List (Word × NodeObject)) (objects : σ)

theorem kernelBuilt_ofTable (h : table.Built) : (ofTable table nodes objects).KernelBuilt where
  linked :=
    { wellFormed :=
        { inverse := fun a b => ⟨fun hn => ((h a (mem_keys_of_next hn)).1.1 b hn).1,
            fun hp => (h b (mem_keys_of_preview hp)).1.2 a hp⟩
          acyclic := ⟨table.keys.idxOf, fun a b hn => ((h a (mem_keys_of_next hn)).1.1 b hn).2⟩ }
      empty := fun id hid => by
        have hnot : id ∉ table.keys := by
          intro hmem
          have ht := (h id hmem).2.1.1
          have hnone : (table.slots id).type = .none := not_not.mp hid
          rw [hnone] at ht
          cases hc : (table.slots id).component with
          | none => simp [hc] at ht
          | some component => cases component <;> simp [hc, Component.type] at ht
        have hinit : (ofTable table nodes objects).slots id = Slot.init :=
          SlotTable.slots_of_not_mem hnot
        simp [hinit] }
  typed id hid := by
    have ht := (h id (mem_keys_of_occupied hid)).2.1.1
    obtain ⟨component, hc, hct⟩ := Option.map_eq_some_iff.mp ht
    exact ⟨component, hc, hct.symm⟩
  parents a b hab := by
    obtain ⟨c, hc, hdepth⟩ := hab.head
    exact (h a (mem_keys_of_next hc)).2.1.2 c hc hdepth
  generics a b ha hab := by
    have hpeers := (h a (mem_keys_of_occupied hab.occupied.1)).2.2
    obtain heq | hne := hpeers b (mem_keys_of_occupied hab.occupied.2) hab
    · exact heq
    · exact absurd ha hne.1
  grouped a _ b hab := by
    have hpeers := (h a (mem_keys_of_occupied hab.occupied.1)).2.2
    obtain heq | ⟨-, hnext | hnext⟩ := hpeers b (mem_keys_of_occupied hab.occupied.2) hab
    · exact .inl heq.symm
    · exact .inr (.inl (.single ⟨hnext, hab⟩))
    · exact .inr (.inr (.single ⟨hnext, hab.symm⟩))

theorem idle_ofTable (h : ∀ a ∈ table.keys, (table.slots a).reclaiming = false) :
    (ofTable table nodes objects).Idle where
  pins id := by
    by_cases hid : id ∈ table.keys
    · exact h id hid
    · have hinit : (ofTable table nodes objects).slots id = Slot.init :=
        SlotTable.slots_of_not_mem hid
      rw [hinit]
      rfl
  scopes := rfl

end

end CapState

end A9N.Kernel
