import A9N.Kernel.Capability.Transfer
import A9N.Kernel.Capability.NodeFootprint

/-!
# The capacity check of CONVERT

CONVERT tests once whether all objects of a request fit, and then allocates them one by one with a
test of its own for each. Both tests compute in words that wrap. A request is decided as the
arithmetic of naturals would decide it exactly where the wrapped sums, the `int` that counts the
objects and the addresses the constructors refuse all stay out of the way.
-/

namespace A9N.Kernel

open Liba9n Outcome BitVec

variable {id : SlotId}

/-! ## The tests in words -/

namespace GenericInfo

variable {info : GenericInfo} {bits count : Word}

/-- The least multiple of the unit at or above the watermark. -/
def firstAddress (info : GenericInfo) (bits : Word) : Nat :=
  alignUp info.watermark.toNat (2 ^ bits.toNat)

/-- Where the `i`-th object of a request starts over naturals; a request of `i` objects ends there. -/
def objectStart (info : GenericInfo) (bits : Word) (i : Nat) : Nat :=
  info.firstAddress bits + i * 2 ^ bits.toNat

/-- The same address in a word. -/
def roundAddress (info : GenericInfo) (bits : Word) (i : Nat) : Word :=
  BitVec.ofNat 64 (info.objectStart bits i)

/-- The Generic behind `i` allocations. -/
def allocated (info : GenericInfo) (bits : Word) (i : Nat) : GenericInfo :=
  { info with watermark := info.roundAddress bits i }

/-- The end of the region as the code computes it. -/
def endWord (info : GenericInfo) : Nat :=
  (info.baseAddress.toNat + 2 ^ (info.sizeBits.toNat % 64)) % 2 ^ 64

/-- The test of the `i`-th allocation. -/
def Grants (info : GenericInfo) (bits : Word) (i : Nat) : Prop :=
  info.objectStart bits (i + 1) % 2 ^ 64 ≤ info.endWord

theorem end_toNat (info : GenericInfo) : (info.baseAddress + info.size).toNat = info.endWord := by
  rw [toNat_add, size, shiftLeft_one_toNat, endWord]

theorem roundAddress_toNat_of_lt {i : Nat} (hlt : info.objectStart bits i < 2 ^ 64) :
    (info.roundAddress bits i).toNat = info.objectStart bits i := by
  rw [roundAddress, toNat_ofNat, Nat.mod_eq_of_lt hlt]

theorem objectStart_mono (info : GenericInfo) (bits : Word) {i j : Nat} (h : i ≤ j) :
    info.objectStart bits i ≤ info.objectStart bits j :=
  Nat.add_le_add_left (Nat.mul_le_mul_right _ h) _

theorem dvd_objectStart (info : GenericInfo) (bits : Word) (i : Nat) :
    2 ^ bits.toNat ∣ info.objectStart bits i :=
  Nat.dvd_add (dvd_alignUp _ _) (Nat.dvd_mul_left _ _)

section Unit

variable (hbits : bits.toNat < 64)

include hbits

private theorem unit_dvd_word : 2 ^ bits.toNat ∣ 2 ^ 64 := Nat.pow_dvd_pow 2 (Nat.le_of_lt hbits)

private theorem alignValue_toNat_firstAddress :
    (alignValue info.watermark (shiftLeft 1 bits)).toNat = info.firstAddress bits % 2 ^ 64 := by
  have hunit := shiftLeft_one_toNat_of_lt hbits
  have hpos : 0 < (shiftLeft 1 bits).toNat := by
    rw [hunit]
    exact Nat.two_pow_pos _
  rw [alignValue_toNat_mod hpos (by rw [hunit]; exact unit_dvd_word hbits), hunit, firstAddress]

theorem dvd_roundAddress (i : Nat) : 2 ^ bits.toNat ∣ (info.roundAddress bits i).toNat := by
  rw [roundAddress, toNat_ofNat]
  exact (Nat.dvd_mod_iff (unit_dvd_word hbits)).mpr (info.dvd_objectStart bits i)

theorem alignValue_eq_roundAddress :
    alignValue info.watermark (shiftLeft 1 bits) = info.roundAddress bits 0 := by
  apply eq_of_toNat_eq
  rw [alignValue_toNat_firstAddress hbits, roundAddress, toNat_ofNat, objectStart, Nat.zero_mul,
    Nat.add_zero]

theorem boundary_eq_roundAddress :
    alignValue info.watermark (shiftLeft 1 bits) + shiftLeft 1 bits = info.roundAddress bits 1 := by
  apply eq_of_toNat_eq
  rw [toNat_add, alignValue_toNat_firstAddress hbits, shiftLeft_one_toNat_of_lt hbits, roundAddress,
    toNat_ofNat, objectStart, Nat.one_mul, Nat.mod_add_mod]

theorem isAllocatable_iff : info.isAllocatable bits count = true ↔
    info.objectStart bits count.toNat % 2 ^ 64 ≤ info.endWord := by
  have htarget : (alignValue info.watermark (shiftLeft 1 bits) + shiftLeft 1 bits * count).toNat =
      info.objectStart bits count.toNat % 2 ^ 64 := by
    rw [toNat_add, alignValue_toNat_firstAddress hbits, toNat_mul, shiftLeft_one_toNat_of_lt hbits,
      objectStart, Nat.mul_comm count.toNat, ← Nat.add_mod]
  unfold isAllocatable
  dsimp only
  rw [decide_eq_true_iff, le_def, htarget, end_toNat]

theorem tryApplyAllocate_granted (hgrants : info.Grants bits 0) :
    info.tryApplyAllocate bits = .ok (info.roundAddress bits 0, info.allocated bits 1) := by
  unfold tryApplyAllocate applyAllocate
  dsimp only
  rw [boundary_eq_roundAddress hbits, alignValue_eq_roundAddress hbits, if_neg]
  · rfl
  · rw [gt_iff_lt, lt_def, end_toNat, roundAddress, toNat_ofNat]
    exact Nat.not_lt.mpr hgrants

theorem tryApplyAllocate_refused (hgrants : ¬ info.Grants bits 0) :
    info.tryApplyAllocate bits = .error .outOfMemory := by
  unfold tryApplyAllocate
  dsimp only
  rw [boundary_eq_roundAddress hbits, if_pos]
  rw [gt_iff_lt, lt_def, end_toNat, roundAddress, toNat_ofNat]
  exact Nat.not_le.mp hgrants

/-- The addresses go on where the first allocation ended, over the wrap as well. -/
theorem objectStart_allocated (i : Nat) : (info.allocated bits 1).objectStart bits i % 2 ^ 64 =
    info.objectStart bits (i + 1) % 2 ^ 64 := by
  have hfirst : (info.allocated bits 1).firstAddress bits = info.objectStart bits 1 % 2 ^ 64 := by
    have haligned : alignUp (info.roundAddress bits 1).toNat (2 ^ bits.toNat) =
        (info.roundAddress bits 1).toNat :=
      alignUp_of_dvd (Nat.two_pow_pos _) (dvd_roundAddress hbits 1)
    rw [firstAddress, allocated, haligned, roundAddress, toNat_ofNat]
  rw [objectStart, hfirst, Nat.mod_add_mod, objectStart, objectStart, Nat.succ_mul i, Nat.one_mul,
    Nat.add_assoc, Nat.add_comm (2 ^ bits.toNat)]

theorem roundAddress_allocated (i : Nat) :
    (info.allocated bits 1).roundAddress bits i = info.roundAddress bits (i + 1) := by
  apply eq_of_toNat_eq
  rw [roundAddress, roundAddress, toNat_ofNat, toNat_ofNat, objectStart_allocated hbits]

theorem grants_allocated (i : Nat) :
    (info.allocated bits 1).Grants bits i ↔ info.Grants bits (i + 1) := by
  rw [Grants, Grants, objectStart_allocated hbits]
  rfl

end Unit

end GenericInfo

/-! ## What a round leaves alone -/

/-- Where the object a slot refers to lies. -/
def Slot.address (slot : Slot) : Word :=
  match slot.component with
  | some (.node address) | some (.processControlBlock address) | some (.ipcPort address)
  | some (.notificationPort address) | some (.virtualCpu address) => address
  | _ => slot.data.first

/-- The object whose memory a slot lies in. -/
def SlotId.container : SlotId → Option Word
  | .node address _ | .process address _ => some address
  | .irq _ => none

namespace CapState

variable {σ : Type} {st st' : CapState σ} {p : Platform} {ops : ObjectOps σ}
  {type : CapabilityType} {bits specificBits address : Word} {info : GenericInfo}
  {self target : SlotId}

/-- Only the Generic, the target and the slots of an object built at `address` change. -/
structure Spares (generic target : SlotId) (address : Word) (st st' : CapState σ) : Prop where
  content : ∀ id, id ≠ generic → id ≠ target → id.container ≠ some address →
    (st'.slots id).content = (st.slots id).content
  nodes : ∀ other, other ≠ address → st'.nodes other = st.nodes other

namespace Spares

theorem refl (self target : SlotId) (address : Word) (st : CapState σ) :
    Spares self target address st st := ⟨fun _ _ _ _ => rfl, fun _ _ => rfl⟩

theorem trans {st'' : CapState σ} (h : Spares self target address st st')
    (h' : Spares self target address st' st'') : Spares self target address st st'' :=
  ⟨fun id hself htarget hout => (h'.content id hself htarget hout).trans
    (h.content id hself htarget hout), fun other hother => (h'.nodes other hother).trans
      (h.nodes other hother)⟩

section

variable (h : Spares self target address st st')
include h

theorem setSlot (hid : id = self ∨ id = target) (slot : Slot) :
    Spares self target address st (st'.setSlot id slot) := by
  refine h.trans ⟨fun other hself htarget _ => ?_, fun _ _ => rfl⟩
  have hne : other ≠ id := by
    rcases hid with rfl | rfl
    · exact hself
    · exact htarget
  rw [setSlot_slots_of_ne _ _ hne]

theorem modifySlot (hid : id = self ∨ id = target) (f : Slot → Slot) :
    Spares self target address st (st'.modifySlot id f) := h.setSlot hid _

theorem construct (ops : ObjectOps σ) (type : CapabilityType) (at_ : Word) :
    Spares self target address st (st'.construct ops type at_) := ⟨h.content, h.nodes⟩

theorem placeNode (node : NodeObject) :
    Spares self target address st (st'.placeNode address node) := by
  refine h.trans ⟨fun id _ _ hout => ?_, fun other hother => ?_⟩
  · cases id with
    | node owner index =>
      have hne : owner ≠ address := fun heq => hout (by rw [heq]; rfl)
      simp [CapState.placeNode, hne]
    | process owner field => rfl
    | irq number => rfl
  · exact Function.update_of_ne hother _ _

theorem placeProcessControlBlock :
    Spares self target address st (st'.placeProcessControlBlock address) := by
  refine h.trans ⟨fun id _ _ hout => ?_, fun _ _ => rfl⟩
  cases id with
  | node owner index => rfl
  | process owner field =>
    have hne : owner ≠ address := fun heq => hout (by rw [heq]; rfl)
    simp [CapState.placeProcessControlBlock, hne]
  | irq number => rfl

end

end Spares

theorem insertChild_content (st : CapState σ) (parent child other : SlotId) :
    ((st.insertChild parent child).slots other).content =
      (if other = child then { st.slots child with depth := (st.slots parent).depth + 1 }
      else st.slots other).content := by
  unfold insertChild
  dsimp only
  rw [insert_content, modifySlot_slots]

theorem insertChild_nodes (st : CapState σ) (parent child : SlotId) :
    (st.insertChild parent child).nodes = st.nodes := by
  unfold insertChild insert
  rw [setPreview_eq]
  rfl

/-! ## One object -/

/-- The constructor of the type accepts the address. -/
structure Constructible (p : Platform) (type : CapabilityType) (specificBits address : Word) :
    Prop where
  node : type = .node → ∃ node,
    tryMakeCapabilityNode (physicalToVirtualAddress address) specificBits = .ok node
  addressSpace : type = .addressSpace → makeAddressSpace p address = true
  pageTable : type = .pageTable → address ≠ 0

structure HoldsObject (st : CapState σ) (target : SlotId) (type : CapabilityType)
    (address : Word) : Prop where
  type : (st.slots target).type = type
  address : (st.slots target).address = address

theorem HoldsObject.congr (h : HoldsObject st target type address)
    (hcomponent : (st'.slots target).component = (st.slots target).component)
    (htype : (st'.slots target).type = (st.slots target).type)
    (hdata : (st'.slots target).data = (st.slots target).data) :
    HoldsObject st' target type address := by
  refine ⟨htype.trans h.type, ?_⟩
  rw [← h.address, Slot.address, Slot.address, hcomponent, hdata]

theorem makeObject_spares : Spares self target address st
    (st.makeObject p ops type bits specificBits info self target address).state := by
  have hrefl := Spares.refl self target address st
  cases type with
  | node =>
    simp only [makeObject]
    split
    case h_1 => exact hrefl
    case h_2 node _ =>
      split
      case isTrue => exact hrefl.placeNode node
      case isFalse => exact (hrefl.placeNode node).setSlot (.inr rfl) _
  | generic => exact (hrefl.setSlot (.inl rfl) _).setSlot (.inr rfl) _
  | addressSpace =>
    simp only [makeObject]
    split
    case isTrue =>
      dsimp only [ok_state]
      exact (hrefl.construct ops _ address).modifySlot (.inr rfl) _
    case isFalse => exact hrefl
  | pageTable =>
    simp only [makeObject]
    split
    case isTrue => exact hrefl
    case isFalse => exact (hrefl.construct ops _ address).setSlot (.inr rfl) _
  | frame => exact hrefl.setSlot (.inr rfl) _
  | processControlBlock =>
    exact (hrefl.placeProcessControlBlock.construct ops _ address).setSlot (.inr rfl) _
  | ipcPort => exact (hrefl.construct ops _ address).setSlot (.inr rfl) _
  | notificationPort =>
    have hunbound : Spares self target address st
        { st with bindedProcess := Function.update st.bindedProcess address none } :=
      ⟨fun _ _ _ _ => rfl, fun _ _ => rfl⟩
    exact (hunbound.construct ops _ address).setSlot (.inr rfl) _
  | virtualCpu =>
    simp only [makeObject]
    split
    case isTrue => exact hrefl
    case isFalse =>
      dsimp only [ok_state]
      exact (hrefl.construct ops _ address).modifySlot (.inr rfl) _
  | none | debug | interruptRegion | interruptPort | ioPort | virtualAddressSpace
  | virtualPageTable => exact hrefl

theorem makeObject_refused (hconstructible : ¬ Constructible p type specificBits address) :
    ∃ e, st.makeObject p ops type bits specificBits info self target address = .error e st := by
  cases type with
  | node =>
    simp only [makeObject]
    split
    case h_1 => exact ⟨_, rfl⟩
    case h_2 node hnode =>
      exact absurd ⟨fun _ => ⟨node, hnode⟩, by simp, by simp⟩ hconstructible
  | addressSpace =>
    simp only [makeObject]
    split
    case isTrue hmade => exact absurd ⟨by simp, fun _ => hmade, by simp⟩ hconstructible
    case isFalse => exact ⟨_, rfl⟩
  | pageTable =>
    simp only [makeObject]
    split
    case isTrue => exact ⟨_, rfl⟩
    case isFalse hne => exact absurd ⟨by simp, by simp, fun _ => hne⟩ hconstructible
  | none | debug | generic | frame | processControlBlock | ipcPort | notificationPort | virtualCpu
  | interruptRegion | interruptPort | ioPort | virtualAddressSpace | virtualPageTable =>
    exact absurd ⟨by simp, by simp, by simp⟩ hconstructible

theorem makeObject_holds (hmade : makeRefusal type bits = none)
    (hconstructible : Constructible p type specificBits address)
    (hempty : (st.slots target).type = .none) (hout : target.container ≠ some address) :
    (st.makeObject p ops type bits specificBits info self target address).Post
      (fun _ st' => HoldsObject st' target type address) fun _ _ => False := by
  cases type with
  | node =>
    obtain ⟨node, hnode⟩ := hconstructible.node rfl
    have hplaced : ((st.placeNode address node).slots target).type = .none := by
      cases target with
      | node owner index =>
        have hne : owner ≠ address := fun heq => hout (by rw [heq]; rfl)
        simpa [CapState.placeNode, hne] using hempty
      | process owner field => exact hempty
      | irq number => exact hempty
    simp only [makeObject, hnode, hplaced, ne_eq, not_true_eq_false, if_false, post_ok]
    exact ⟨by simp, by simp [Slot.address]⟩
  | generic =>
    simp only [makeObject, post_ok]
    exact ⟨by simp [tryConfigureGenericSlot],
      by simp [tryConfigureGenericSlot, Slot.address, GenericInfo.dumpSlotData]⟩
  | addressSpace =>
    simp only [makeObject, hconstructible.addressSpace rfl, if_true, post_ok]
    exact ⟨by simp [modifySlot_slots], by simp [modifySlot_slots, Slot.address]⟩
  | pageTable =>
    simp only [makeObject, hconstructible.pageTable rfl, if_false, post_ok]
    exact ⟨by simp, by simp [Slot.address]⟩
  | virtualCpu =>
    simp only [makeObject, hempty, ne_eq, not_true_eq_false, if_false, post_ok]
    exact ⟨by simp [modifySlot_slots], by simp [modifySlot_slots, Slot.address]⟩
  | frame | processControlBlock | ipcPort | notificationPort =>
    simp only [makeObject, post_ok]
    exact ⟨by simp, by simp [Slot.address]⟩
  | none | debug | interruptRegion | interruptPort | ioPort | virtualAddressSpace
  | virtualPageTable => simp [makeRefusal] at hmade

/-! ## One round -/

/-- Outside the Generic and the memory where objects are built, an occupied slot keeps its type. -/
def KeepsOccupied (generic : SlotId) (built : Word → Prop) (st st' : CapState σ) : Prop :=
  ∀ id, id ≠ generic → (∀ address, id.container = some address → ¬ built address) →
    (st.slots id).type ≠ .none → (st'.slots id).type = (st.slots id).type

theorem KeepsOccupied.refl (generic : SlotId) (built : Word → Prop) (st : CapState σ) :
    KeepsOccupied generic built st st := fun _ _ _ _ => rfl

theorem KeepsOccupied.trans {generic : SlotId} {built : Word → Prop} {st1 : CapState σ}
    (h : KeepsOccupied generic built st st1) (h' : KeepsOccupied generic built st1 st') :
    KeepsOccupied generic built st st' := by
  intro id hid hout htype
  have hkept := h id hid hout htype
  rw [h' id hid hout (by rw [hkept]; exact htype), hkept]

theorem Spares.keepsOccupied {built : Word → Prop} (h : Spares self target address st st')
    (hempty : (st.slots target).type = .none) (hbuilt : built address) :
    KeepsOccupied self built st st' := by
  intro id hid hout htype
  have hne : id ≠ target := by
    rintro rfl
    exact htype hempty
  exact (Slot.content_fields (h.content id hid hne fun heq => hout address heq hbuilt)).2.1

theorem recordAllocation_spares (info : GenericInfo) (base : Word) :
    Spares self target address st
      (st.recordAllocation p self target info type specificBits base) := by
  refine ⟨fun id _ hid _ => ?_, fun _ _ => rfl⟩
  simp [recordAllocation, modifySlot_slots, hid]

/-- The end of a round: the Generic stores its watermark and takes the target as a child. -/
theorem storeAndInsert_spares (made : GenericInfo) : Spares self target address st
    ((st.modifySlot self fun slot => { slot with data := made.dumpSlotData }).insertChild self
      target) := by
  have hstored := (Spares.refl self target address st).modifySlot (.inl rfl) fun slot =>
    { slot with data := made.dumpSlotData }
  refine hstored.trans ⟨fun id _ hid _ => ?_, fun _ _ => ?_⟩
  · rw [insertChild_content, if_neg hid]
  · rw [insertChild_nodes]

theorem unlinkAndClearSlot_spares : Spares self target address st (st.unlinkAndClearSlot target) :=
  ⟨fun _ _ hid _ => unlinkAndClearSlot_content hid, fun _ _ => by simp⟩

section Round

variable (hbits : bits.toNat < 64) (hmade : makeRefusal type bits = none)

include hbits hmade

theorem tryMakeCapability_refused
    (h : ¬ info.Grants bits 0 ∨ ¬ Constructible p type specificBits (info.roundAddress bits 0)) :
    ∃ e, st.tryMakeCapability p ops type bits specificBits info self target = .error e st := by
  unfold tryMakeCapability
  simp only [hmade]
  by_cases hgrants : info.Grants bits 0
  · obtain ⟨e, hrefused⟩ : ∃ e, st.makeObject p ops type bits specificBits (info.allocated bits 1) self
        target (info.roundAddress bits 0) = .error e st :=
      makeObject_refused (h.resolve_left (not_not.mpr hgrants))
    simp only [GenericInfo.tryApplyAllocate_granted hbits hgrants, hrefused]
    exact ⟨e, rfl⟩
  · simp only [GenericInfo.tryApplyAllocate_refused hbits hgrants]
    exact ⟨_, rfl⟩


theorem tryMakeCapability_inv :
    (st.tryMakeCapability p ops type bits specificBits info self target).Post
      (fun made st' => made = info.allocated bits 1 ∧ info.Grants bits 0 ∧
        Constructible p type specificBits (info.roundAddress bits 0) ∧
        Spares self target (info.roundAddress bits 0) st st')
      fun _ st' => st' = st ∨
        info.Grants bits 0 ∧ Spares self target (info.roundAddress bits 0) st st' := by
  by_cases h : info.Grants bits 0 ∧ Constructible p type specificBits (info.roundAddress bits 0)
  · obtain ⟨hgrants, hconstructible⟩ := h
    unfold tryMakeCapability
    simp only [hmade, GenericInfo.tryApplyAllocate_granted hbits hgrants]
    apply Outcome.Post.andThen (Q := fun _ => Spares self target (info.roundAddress bits 0) st)
    · exact (Outcome.post_of_state makeObject_spares).mono (fun _ _ hspares => hspares)
        fun _ _ hspares => .inr ⟨hgrants, hspares⟩
    · intro _ st1 hspares
      exact ⟨rfl, hgrants, hconstructible, hspares.trans (recordAllocation_spares info _)⟩
  · obtain ⟨e, hrefused⟩ : ∃ e, st.tryMakeCapability p ops type bits specificBits info self target =
        .error e st := tryMakeCapability_refused hbits hmade (not_and_or.mp h)
    rw [hrefused]
    exact .inl rfl

theorem tryMakeCapability_holds (hgrants : info.Grants bits 0)
    (hconstructible : Constructible p type specificBits (info.roundAddress bits 0))
    (hempty : (st.slots target).type = .none)
    (hout : target.container ≠ some (info.roundAddress bits 0)) :
    (st.tryMakeCapability p ops type bits specificBits info self target).Post
      (fun made st' => made = info.allocated bits 1 ∧
        HoldsObject st' target type (info.roundAddress bits 0) ∧
        Spares self target (info.roundAddress bits 0) st st')
      fun _ _ => False := by
  unfold tryMakeCapability
  simp only [hmade, GenericInfo.tryApplyAllocate_granted hbits hgrants]
  apply (((makeObject_holds hmade hconstructible hempty hout).withState makeObject_spares).mono
    (fun _ _ hst => hst) fun _ _ hst => hst.1).andThen
  rintro _ st1 ⟨hholds, hspares⟩
  refine ⟨rfl, hholds.congr ?_ ?_ ?_, hspares.trans (recordAllocation_spares info _)⟩
  · simp [recordAllocation, modifySlot_slots]
  · simp [recordAllocation, modifySlot_slots]
  · simp [recordAllocation, modifySlot_slots]

theorem convertOne_inv {root : SlotId} {index : Word} {built : Word → Prop}
    (hbuilt : info.Grants bits 0 → built (info.roundAddress bits 0)) :
    (st.convertOne p ops type bits specificBits info self root index).Post
      (fun made st' => made = info.allocated bits 1 ∧
        Constructible p type specificBits (info.roundAddress bits 0) ∧
        KeepsOccupied self built st st')
      fun _ st' => KeepsOccupied self built st st' := by
  have hrefl := KeepsOccupied.refl self built st
  unfold convertOne
  split
  case h_1 => exact hrefl
  case h_2 component _ =>
    split
    case h_1 => exact hrefl
    case h_2 target _ =>
      split
      case isTrue => exact hrefl
      case isFalse hoccupied =>
        have hempty := not_not.mp hoccupied
        have hclear : ∀ {address : Word} {st' : CapState σ}, built address →
            Spares self target address (st.unlinkAndClearSlot target) st' →
            KeepsOccupied self built st st' := by
          intro address st' haddress hspares
          exact (unlinkAndClearSlot_spares.trans hspares).keepsOccupied hempty haddress
        apply Outcome.Post.andThen (Q := fun _ st1 => st1 = st.unlinkAndClearSlot target)
        · apply Outcome.Post.transformError
          rw [removeEmptySlot]
          split
          case isTrue => exact hrefl
          case isFalse => exact rfl
        · rintro _ _ rfl
          apply ((tryMakeCapability_inv hbits hmade).mono (fun _ _ hst => hst) ?_).andThen
          · rintro made st1 ⟨rfl, hgrants, hconstructible, hspares⟩
            refine ⟨rfl, hconstructible, hclear (hbuilt hgrants) (hspares.trans ?_)⟩
            exact storeAndInsert_spares _
          · rintro e st1 (rfl | ⟨hgrants, hspares⟩)
            · intro id _ _ htype
              have hne : id ≠ target := by
                rintro rfl
                exact htype hempty
              exact (Slot.content_fields (unlinkAndClearSlot_content hne)).2.1
            · exact hclear (hbuilt hgrants) hspares

theorem convertOne_spec {root : SlotId} {node index : Word}
    (hroot : (st.slots root).component = some (.node node))
    (hslots : (st.nodes node).hasSlots = true)
    (hempty : (st.slots (.node node index.toNat)).type = .none)
    (hpinned : (st.slots (.node node index.toNat)).reclaiming = false)
    (hself : self ≠ .node node index.toNat) (hgrants : info.Grants bits 0)
    (hconstructible : Constructible p type specificBits (info.roundAddress bits 0))
    (hout : node ≠ info.roundAddress bits 0) :
    (st.convertOne p ops type bits specificBits info self root index).Post
      (fun made st' => made = info.allocated bits 1 ∧
        HoldsObject st' (.node node index.toNat) type (info.roundAddress bits 0) ∧
        (st'.slots self).data = made.dumpSlotData ∧
        Spares self (.node node index.toNat) (info.roundAddress bits 0) st st')
      fun _ _ => False := by
  have hcontainer : (SlotId.node node index.toNat).container ≠ some (info.roundAddress bits 0) :=
    fun heq => hout (Option.some.inj heq)
  have hretrieve : st.retrieveSlot (.node node) index = .ok (.node node index.toNat) := by
    simp [retrieveSlot, hslots]
  unfold convertOne
  simp only [hroot, hretrieve, hempty, ne_eq, not_true_eq_false, if_false]
  generalize SlotId.node node index.toNat = target at *
  apply Outcome.Post.andThen (Q := fun _ st1 => st1 = st.unlinkAndClearSlot target)
  · apply Outcome.Post.transformError
    rw [removeEmptySlot, if_neg (by simp [hpinned])]
    exact rfl
  · rintro _ _ rfl
    apply (tryMakeCapability_holds hbits hmade hgrants hconstructible (by simp) hcontainer).andThen
    rintro made st1 ⟨hmade, hholds, hspares⟩
    have hcontent := insertChild_content (st1.modifySlot self fun slot =>
      { slot with data := made.dumpSlotData }) self target
    have htarget := Slot.content_fields (hcontent target)
    have hgeneric := Slot.content_fields (hcontent self)
    rw [if_pos rfl, modifySlot_slots, if_neg hself.symm] at htarget
    rw [if_neg hself, modifySlot_slots, if_pos rfl] at hgeneric
    rw [post_ok]
    exact ⟨hmade, hholds.congr htarget.1 htarget.2.1 htarget.2.2.2.2.1, hgeneric.2.2.2.2.1,
      (unlinkAndClearSlot_spares.trans hspares).trans (storeAndInsert_spares made)⟩

end Round

/-! ## The loop -/

def roundSlot (node index : Word) (i : Nat) : SlotId := .node node (index.toNat + i)

/-- The next `rounds` rounds have nothing against them. -/
structure Roomy (p : Platform) (type : CapabilityType) (bits specificBits : Word)
    (generic root : SlotId) (node : Word) (rounds : Nat) (index : Word) (info : GenericInfo)
    (st : CapState σ) : Prop where
  component : (st.slots root).component = some (.node node)
  hasSlots : (st.nodes node).hasSlots = true
  range : index.toNat + rounds ≤ 2 ^ 64
  empty : ∀ i < rounds, (st.slots (roundSlot node index i)).type = .none ∧
    (st.slots (roundSlot node index i)).reclaiming = false
  rootApart : root ≠ generic ∧ ∀ i < rounds, root ≠ roundSlot node index i
  genericApart : ∀ i < rounds, generic ≠ roundSlot node index i
  bits_lt : bits.toNat < 64
  grants : ∀ i < rounds, info.Grants bits i
  made : makeRefusal type bits = none
  constructible : ∀ i < rounds, Constructible p type specificBits (info.roundAddress bits i)
  fresh : ∀ i < rounds, node ≠ info.roundAddress bits i ∧
    root.container ≠ some (info.roundAddress bits i)

/-- What `rounds` rounds have done. -/
structure Created (generic : SlotId) (type : CapabilityType) (bits node : Word) (rounds : Nat)
    (index : Word) (info : GenericInfo) (st st' : CapState σ) : Prop where
  objects : ∀ i < rounds, HoldsObject st' (roundSlot node index i) type (info.roundAddress bits i)
  data : (st'.slots generic).data = if rounds = 0 then (st.slots generic).data else
    (info.allocated bits rounds).dumpSlotData
  others : ∀ id, id ≠ generic → (∀ i < rounds, id ≠ roundSlot node index i) →
    (∀ i < rounds, id.container ≠ some (info.roundAddress bits i)) →
    (st'.slots id).content = (st.slots id).content

section Rounds

variable {root : SlotId} {node index count : Word} {rounds fuel k : Nat}

theorem roundSlot_succ (hindex : index.toNat + 1 < 2 ^ 64) (node : Word) (i : Nat) :
    roundSlot node (index + 1) i = roundSlot node index (i + 1) := by
  have hnext : (index + 1).toNat = index.toNat + 1 := by
    rw [toNat_add]
    exact Nat.mod_eq_of_lt hindex
  rw [roundSlot, roundSlot, hnext]
  congr 1
  omega

theorem roundSlot_injective (node index : Word) : Function.Injective (roundSlot node index) := by
  intro i j heq
  simpa [roundSlot] using heq

structure FirstRound (type : CapabilityType) (bits : Word) (generic : SlotId) (node index : Word)
    (info : GenericInfo) (st st1 : CapState σ) : Prop where
  holds : HoldsObject st1 (roundSlot node index 0) type (info.roundAddress bits 0)
  data : (st1.slots generic).data = (info.allocated bits 1).dumpSlotData
  spares : Spares generic (roundSlot node index 0) (info.roundAddress bits 0) st st1

section FirstRound

variable {st1 : CapState σ}
  (h : Roomy p type bits specificBits self root node (rounds + 1) index info st)

include h

theorem Roomy.roundSlot_next {i : Nat} (hi : i < rounds) :
    roundSlot node (index + 1) i = roundSlot node index (i + 1) := by
  have hrange := h.range
  exact roundSlot_succ (by omega) node i

theorem Roomy.firstRound : (st.convertOne p ops type bits specificBits info self root index).Post
      (fun made st1 => made = info.allocated bits 1 ∧ FirstRound type bits self node index info st st1)
      fun _ _ => False := by
  have hempty := h.empty 0 (Nat.succ_pos _)
  apply (convertOne_spec h.bits_lt h.made h.component h.hasSlots hempty.1 hempty.2
    (h.genericApart 0 (by simp)) (h.grants 0 (by simp)) (h.constructible 0 (by simp))
    (h.fresh 0 (by simp)).1).mono
  · rintro _ st1 ⟨rfl, hholds, hdata, hspares⟩
    exact ⟨rfl, hholds, hdata, hspares⟩
  · exact fun _ _ hfalse => hfalse

variable (hround : FirstRound type bits self node index info st st1)

include hround

theorem Roomy.next :
    Roomy p type bits specificBits self root node rounds (index + 1) (info.allocated bits 1) st1 := by
  have hrange := h.range
  refine ⟨?_, ?_, ?_, fun i hi => ?_, ⟨h.rootApart.1, fun i hi => ?_⟩, fun i hi => ?_, h.bits_lt,
    fun i hi => ?_, h.made, fun i hi => ?_, fun i hi => ?_⟩
  · rw [Slot.content_component (hround.spares.content root h.rootApart.1
      (h.rootApart.2 0 (Nat.succ_pos _)) (h.fresh 0 (Nat.succ_pos _)).2)]
    exact h.component
  · rw [hround.spares.nodes node (h.fresh 0 (Nat.succ_pos _)).1]
    exact h.hasSlots
  · rw [toNat_add]
    have := Nat.mod_le (index.toNat + (1 : Word).toNat) (2 ^ 64)
    have hone : (1 : Word).toNat = 1 := rfl
    omega
  · rw [h.roundSlot_next hi]
    have hkept := Slot.content_fields (hround.spares.content (roundSlot node index (i + 1))
      (h.genericApart (i + 1) (by omega)).symm ((roundSlot_injective node index).ne (by simp))
      fun heq => (h.fresh 0 (Nat.succ_pos _)).1 (Option.some.inj heq))
    rw [hkept.2.1, hkept.2.2.2.1]
    exact h.empty (i + 1) (by omega)
  · rw [h.roundSlot_next hi]
    exact h.rootApart.2 (i + 1) (by omega)
  · rw [h.roundSlot_next hi]
    exact h.genericApart (i + 1) (by omega)
  · rw [GenericInfo.grants_allocated h.bits_lt]
    exact h.grants (i + 1) (by omega)
  · rw [GenericInfo.roundAddress_allocated h.bits_lt]
    exact h.constructible (i + 1) (by omega)
  · rw [GenericInfo.roundAddress_allocated h.bits_lt]
    exact h.fresh (i + 1) (by omega)

theorem FirstRound.created
    (hcreated : Created self type bits node rounds (index + 1) (info.allocated bits 1) st1 st') :
    Created self type bits node (rounds + 1) index info st st' := by
  have hlater : ∀ i, (info.allocated bits 1).roundAddress bits i = info.roundAddress bits (i + 1) :=
    GenericInfo.roundAddress_allocated h.bits_lt
  refine ⟨fun i hi => ?_, ?_, fun id hgeneric hslots hout => ?_⟩
  · cases i with
    | zero =>
      -- the later rounds leave the first destination alone
      have hkept := Slot.content_fields (hcreated.others (roundSlot node index 0)
        (h.genericApart 0 (Nat.succ_pos _)).symm
        (fun j hj => by
          rw [h.roundSlot_next hj]
          exact (roundSlot_injective node index).ne (by simp))
        (fun j hj heq => (h.fresh (j + 1) (by omega)).1 (by
          rw [← hlater]
          exact Option.some.inj heq)))
      exact hround.holds.congr hkept.1 hkept.2.1 hkept.2.2.2.2.1
    | succ i =>
      rw [← h.roundSlot_next (by omega), ← hlater]
      exact hcreated.objects i (by omega)
  · rw [hcreated.data, if_neg (Nat.succ_ne_zero rounds), hround.data]
    split
    case isTrue hzero => rw [hzero]
    case isFalse =>
      rw [GenericInfo.allocated, hlater]
      rfl
  · rw [hcreated.others id hgeneric (fun i hi => by
        rw [h.roundSlot_next hi]
        exact hslots (i + 1) (by omega))
      (fun i hi => by
        rw [hlater]
        exact hout (i + 1) (by omega))]
    exact hround.spares.content id hgeneric (hslots 0 (Nat.succ_pos _)) (hout 0 (Nat.succ_pos _))

end FirstRound

/-- Below `2 ^ 31` the counter reads as the number of rounds. -/
theorem counter_toNat (hk : k < 2 ^ 31) : (BitVec.ofNat 32 k).signExtend 64 = BitVec.ofNat 64 k := by
  have hmsb : (BitVec.ofNat 32 k).msb = false := by
    rw [BitVec.msb_eq_false_iff_two_mul_lt, toNat_ofNat]
    omega
  rw [BitVec.signExtend_eq_setWidth_of_msb_false hmsb]
  apply eq_of_toNat_eq
  rw [toNat_setWidth, toNat_ofNat, toNat_ofNat]
  omega

theorem counter_lt (hk : k < 2 ^ 31) (hcount : k < count.toNat) :
    (BitVec.ofNat 32 k).signExtend 64 < count := by
  rw [counter_toNat hk, lt_def, toNat_ofNat]
  omega

theorem counter_succ (k : Nat) : BitVec.ofNat 32 k + 1 = BitVec.ofNat 32 (k + 1) := by
  rw [BitVec.ofNat_add]
  rfl

theorem convertLoop_created
    (h : Roomy p type bits specificBits self root node rounds (index + BitVec.ofNat 64 k) info st)
    (hfuel : rounds ≤ fuel) (hcounter : k + rounds ≤ 2 ^ 31) (hcount : k + rounds ≤ count.toNat)
    (hstop : ¬ (BitVec.ofNat 32 (k + rounds)).signExtend 64 < count) :
    (convertLoop p ops type bits specificBits self root count index fuel (BitVec.ofNat 32 k) info
      st).Post
      (fun _ st' => Created self type bits node rounds (index + BitVec.ofNat 64 k) info st st')
      fun _ _ => False := by
  induction rounds generalizing k fuel info st with
  | zero =>
    have hcreated : Created self type bits node 0 (index + BitVec.ofNat 64 k) info st st :=
      ⟨by simp, rfl, fun _ _ _ _ => rfl⟩
    cases fuel with
    | zero => exact hcreated
    | succ fuel =>
      rw [Nat.add_zero] at hstop
      rw [convertLoop, if_neg hstop]
      exact hcreated
  | succ rounds ih =>
    obtain ⟨fuel, rfl⟩ := Nat.exists_eq_add_of_le' (Nat.le_trans (Nat.le_add_left 1 rounds) hfuel)
    rw [convertLoop, if_pos (counter_lt (by omega) (by omega)), counter_toNat (by omega), counter_succ]
    apply h.firstRound.andThen
    rintro info' st1 ⟨rfl, hround⟩
    have hindex : index + BitVec.ofNat 64 k + 1 = index + BitVec.ofNat 64 (k + 1) := by
      rw [BitVec.ofNat_add, BitVec.add_assoc]
      rfl
    have hnext := h.next hround
    rw [hindex] at hnext
    apply (ih hnext (by omega) (by omega) (by omega) (by rwa [Nat.add_right_comm])).mono
    · intro _ st' hcreated
      rw [← hindex] at hcreated
      exact hround.created h hcreated
    · exact fun _ _ hfalse => hfalse

section

variable (hbits : bits.toNat < 64) (hmade : makeRefusal type bits = none)

include hbits hmade

theorem convertLoop_keepsOccupied {i : BitVec 32} {built : Word → Prop}
    (hbuilt : ∀ i < fuel, info.Grants bits i → built (info.roundAddress bits i)) :
    KeepsOccupied self built st
      (convertLoop p ops type bits specificBits self root count index fuel i info st).state := by
  induction fuel generalizing i info st with
  | zero => exact KeepsOccupied.refl self built st
  | succ fuel ih =>
    rw [convertLoop]
    split
    case isFalse => exact KeepsOccupied.refl self built st
    case isTrue =>
      apply Outcome.Post.state (Q := fun _ => KeepsOccupied self built st)
        (E := fun _ => KeepsOccupied self built st)
      · apply (convertOne_inv hbits hmade (hbuilt 0 (Nat.succ_pos _))).andThen
        rintro _ st1 ⟨rfl, -, hkeeps⟩
        apply Outcome.post_of_state
        apply hkeeps.trans
        apply ih
        intro i hi hgrants
        rw [GenericInfo.roundAddress_allocated hbits]
        exact hbuilt (i + 1) (by omega) ((GenericInfo.grants_allocated hbits i).mp hgrants)
      · exact fun _ _ hst => hst
      · exact fun _ _ hst => hst

theorem constructible_of_convertLoop (hfuel : rounds ≤ fuel) (hcounter : k + rounds ≤ 2 ^ 31)
    (hcount : k + rounds ≤ count.toNat)
    (hok : (convertLoop p ops type bits specificBits self root count index fuel (BitVec.ofNat 32 k)
      info st).result = .ok ()) :
    ∀ i < rounds, Constructible p type specificBits (info.roundAddress bits i) := by
  induction rounds generalizing k fuel info st with
  | zero => simp
  | succ rounds ih =>
    obtain ⟨fuel, rfl⟩ := Nat.exists_eq_add_of_le' (Nat.le_trans (Nat.le_add_left 1 rounds) hfuel)
    rw [convertLoop, if_pos (counter_lt (by omega) (by omega)), counter_succ] at hok
    have hround := @convertOne_inv σ st p ops type bits specificBits info self hbits hmade root
      (index + (BitVec.ofNat 32 k).signExtend 64) (fun _ => True) fun _ => trivial
    generalize st.convertOne p ops type bits specificBits info self root
      (index + (BitVec.ofNat 32 k).signExtend 64) = outcome at hround hok
    obtain ⟨_ | made, st1⟩ := outcome
    · cases hok
    · obtain ⟨rfl, hfirst, -⟩ := hround
      intro i hi
      cases i with
      | zero => exact hfirst
      | succ i =>
        rw [← GenericInfo.roundAddress_allocated hbits]
        exact ih (by omega) (by omega) (by omega) hok i (by omega)

end

end Rounds

/-! ## The constructors -/

/-- What the constructors ask of an address: a Node is aligned to its 32 bytes, and the root of an
address space and a page table do not lie at zero. -/
def Placeable (type : CapabilityType) (address : Nat) : Prop :=
  (type = .node → 32 ∣ address) ∧ (type = .addressSpace ∨ type = .pageTable → address ≠ 0)

theorem makeRefusal_of_accepted
    (h : calculateCapabilityMemorySizeBits p type specificBits = some bits) :
    makeRefusal type bits = none := by
  cases type with
  | frame =>
    have hne : bits ≠ 0 := by
      rintro rfl
      simp only [calculateCapabilityMemorySizeBits] at h
      split at h
      case isFalse => cases h
      case isTrue hvalid =>
        cases Option.some.inj h
        unfold validateFrameSizeBits at hvalid
        split at hvalid <;> simp at hvalid
    rw [makeRefusal, if_neg hne]
  | none | debug | interruptRegion | interruptPort | ioPort | virtualAddressSpace
  | virtualPageTable => simp [calculateCapabilityMemorySizeBits] at h
  | node | generic | addressSpace | pageTable | processControlBlock | ipcPort | notificationPort
  | virtualCpu => rfl

private theorem physicalToVirtualAddress_mod (address : Word) :
    (physicalToVirtualAddress address).toNat % 32 = address.toNat % 32 := by
  have hoffset : (0xffff800000000000 : Word) &&& 31 = 0#64 := by decide
  have hlow : physicalToVirtualAddress address &&& 31 = address &&& 31 := by
    rw [physicalToVirtualAddress, or_and_distrib_right, hoffset, or_zero]
  have hmod := congrArg BitVec.toNat hlow
  rw [toNat_and, toNat_and] at hmod
  change _ &&& (2 ^ 5 - 1) = _ &&& (2 ^ 5 - 1) at hmod
  rwa [Nat.and_two_pow_sub_one_eq_mod, Nat.and_two_pow_sub_one_eq_mod] at hmod

private theorem tryMakeCapabilityNode_iff
    (h : calculateCapabilityMemorySizeBits p .node specificBits = some bits) :
    (∃ node, tryMakeCapabilityNode (physicalToVirtualAddress address) specificBits = .ok node) ↔
      32 ∣ address.toNat := by
  have hzero : physicalToVirtualAddress address ≠ 0 := by
    intro heq
    have hbit := congrArg (getLsbD · 63) heq
    simp [physicalToVirtualAddress] at hbit
  have haligned : physicalToVirtualAddress address %
      shiftLeft 1 (calculateRadixCeil Node.nodeBytes) = 0 ↔ 32 ∣ address.toNat := by
    rw [show shiftLeft 1 (calculateRadixCeil Node.nodeBytes) = (32 : Word) by decide,
      ← toNat_inj, toNat_umod, Nat.dvd_iff_mod_eq_zero, ← physicalToVirtualAddress_mod]
    rfl
  simp only [calculateCapabilityMemorySizeBits] at h
  split at h
  case isTrue => cases h
  case isFalse hvalid =>
    obtain ⟨hgeometry, hsmall⟩ := not_or.mp hvalid
    unfold tryMakeCapabilityNode
    rw [if_neg (not_or.mpr ⟨hzero, hgeometry⟩), ← haligned]
    constructor
    · rintro ⟨node, hnode⟩
      by_contra hmod
      rw [if_pos hmod] at hnode
      cases hnode
    · intro hmod
      rw [if_neg (not_not.mpr hmod), if_neg hsmall]
      exact ⟨_, rfl⟩

private theorem makeAddressSpace_iff (hpage : 2 ^ 12 ∣ address.toNat) :
    makeAddressSpace p address = true ↔ address ≠ 0 := by
  have hlow : address &&& (Node.pageSize - 1) = 0 := by
    apply eq_of_toNat_eq
    rw [toNat_and]
    change address.toNat &&& (2 ^ 12 - 1) = 0
    rw [Nat.and_two_pow_sub_one_eq_mod]
    exact Nat.mod_eq_zero_of_dvd hpage
  unfold makeAddressSpace
  split
  · exact bne_iff_ne
  · rw [hlow, beq_self_eq_true, Bool.and_true]
    exact bne_iff_ne

theorem constructible_iff
    (h : calculateCapabilityMemorySizeBits p type specificBits = some bits)
    (hunit : 2 ^ bits.toNat ∣ address.toNat) :
    Constructible p type specificBits address ↔ Placeable type address.toNat := by
  have hne : address ≠ 0 ↔ address.toNat ≠ 0 := toNat_inj.symm.not
  constructor
  · intro hconstructible
    refine ⟨?_, ?_⟩
    · rintro rfl
      exact (tryMakeCapabilityNode_iff h).mp (hconstructible.node rfl)
    · rintro (rfl | rfl)
      · cases Option.some.inj h
        exact hne.mp ((makeAddressSpace_iff hunit).mp (hconstructible.addressSpace rfl))
      · exact hne.mp (hconstructible.pageTable rfl)
  · rintro ⟨hnode, hroot⟩
    refine ⟨?_, ?_, fun htype => hne.mpr (hroot (.inr htype))⟩
    · rintro rfl
      exact (tryMakeCapabilityNode_iff h).mpr (hnode rfl)
    · rintro rfl
      cases Option.some.inj h
      exact (makeAddressSpace_iff hunit).mpr (hne.mpr (hroot (.inl rfl)))

end CapState

/-! ## CONVERT -/

section Convert

variable {σ : Type} {st : CapState σ} {p : Platform} {ops : ObjectOps σ} {owner node bits : Word}
  {generic root : SlotId} {type : CapabilityType} {arguments : ConvertArguments}

open CapState

/-- A CONVERT with nothing against it but its size: the rights are there, the type is one that can
be made, the destinations are empty, and where the code comes to build objects, it builds none over
the Node that the request goes through. -/
structure ConvertRequest (p : Platform) (owner : Word) (generic root : SlotId) (node : Word)
    (type : CapabilityType) (bits : Word) (arguments : ConvertArguments) (info : GenericInfo)
    (st : CapState σ) : Prop where
  isGeneric : (st.slots generic).type = .generic
  rights : (st.slots generic).hasRights (Slot.read ||| Slot.write) = true
  state : createGenericInfo (st.slots generic).data = info
  within : info.Within
  lookup : st.lookup owner arguments.rootDescriptor = .ok root
  rootType : (st.slots root).type = .node
  rootRights : (st.slots root).hasRights (Slot.read ||| Slot.write) = true
  rootNode : (st.slots root).component = some (.node node)
  hasSlots : (st.nodes node).hasSlots = true
  requested : capabilityTypeOfWord arguments.capabilityType = some type
  accepted : calculateCapabilityMemorySizeBits p type arguments.specificBits = some bits
  bits_lt : bits.toNat < 64
  device : info.device = true → type = .frame ∨ type = .generic
  count : arguments.count ≠ 0
  range : arguments.slotIndex.toNat + arguments.count.toNat ≤ 2 ^ 64
  empty : ∀ i < arguments.count.toNat,
    st.slots (roundSlot node arguments.slotIndex i) = Slot.init
  fresh : info.objectStart bits arguments.count.toNat % 2 ^ 64 ≤ info.endWord →
    ∀ i < arguments.count.toNat, info.Grants bits i →
      node ≠ info.roundAddress bits i ∧ root.container ≠ some (info.roundAddress bits i)

/-- The request fits the rest of the region over naturals. -/
def GenericInfo.Fits (info : GenericInfo) (bits count : Word) : Prop :=
  info.objectStart bits count.toNat ≤ info.exactEnd

structure Served (generic : SlotId) (type : CapabilityType) (bits node : Word)
    (arguments : ConvertArguments) (info : GenericInfo) (st st' : CapState σ) : Prop where
  objects : ∀ i < arguments.count.toNat,
    (st'.slots (roundSlot node arguments.slotIndex i)).type = type ∧
      (st'.slots (roundSlot node arguments.slotIndex i)).address.toNat = info.objectStart bits i
  watermark : (createGenericInfo (st'.slots generic).data).watermark.toNat =
    info.objectStart bits arguments.count.toNat
  others : ∀ id, id ≠ generic →
    (∀ i < arguments.count.toNat, id ≠ roundSlot node arguments.slotIndex i) →
    (∀ i < arguments.count.toNat, id.container ≠ some (info.roundAddress bits i)) →
    (st'.slots id).content = (st.slots id).content

/-- A request that fits is served as a whole, and one that does not is refused as a whole. -/
structure CapacityExact (generic : SlotId) (type : CapabilityType) (bits node : Word)
    (arguments : ConvertArguments) (info : GenericInfo) (st : CapState σ)
    (outcome : Outcome CapabilityError (CapState σ) Unit) : Prop where
  served : info.Fits bits arguments.count →
    outcome.result = .ok () ∧ Served generic type bits node arguments info st outcome.state
  refused : ¬ info.Fits bits arguments.count →
    (∃ e, outcome.result = .error e) ∧ outcome.state.slots = st.slots

/-- The code decides the request as naturals do. One that fits ends below the end that the code
computes, its objects can be counted by an `int`, and no constructor refuses its address. One that
does not fit fails the first check, or its first object is refused. -/
structure GenericInfo.DecidedExactly (info : GenericInfo) (type : CapabilityType) (bits count : Word) :
    Prop where
  fitting : info.Fits bits count → info.objectStart bits count.toNat ≤ info.endWord ∧
    count.toNat ≤ 2 ^ 31 ∧ ∀ i < count.toNat, Placeable type (info.objectStart bits i)
  exceeding : ¬ info.Fits bits count → info.endWord < info.objectStart bits count.toNat % 2 ^ 64 ∨
    info.endWord < info.objectStart bits 1 % 2 ^ 64 ∨
    ¬ Placeable type (info.objectStart bits 0 % 2 ^ 64)

theorem GenericInfo.endWord_lt (info : GenericInfo) : info.endWord < 2 ^ 64 :=
  Nat.mod_lt _ (by decide)

namespace ConvertRequest

variable {info : GenericInfo}
  (h : ConvertRequest p owner generic root node type bits arguments info st)

include h

theorem convert_eq : st.convert p ops owner generic arguments =
      if info.objectStart bits arguments.count.toNat % 2 ^ 64 ≤ info.endWord then
        st.convertRounds p ops type bits info generic root arguments
      else .error .illegalOperation st := by
  have hdevice : ¬ (info.device = true ∧ some type ≠ some .frame ∧ some type ≠ some .generic) := by
    rintro ⟨hdevice, hframe, hgeneric⟩
    rcases h.device hdevice with rfl | rfl
    · exact hframe rfl
    · exact hgeneric rfl
  simp only [convert, convertInto, h.rights, h.lookup, h.rootType, h.rootNode, h.rootRights, h.state,
    h.count, h.requested, h.accepted]
  rw [if_neg (by simp), if_neg (by simp), if_neg (by simp), if_neg id, if_neg hdevice, ite_not]
  simp only [GenericInfo.isAllocatable_iff h.bits_lt]

theorem made : makeRefusal type bits = none := makeRefusal_of_accepted h.accepted

theorem type_ne_none : type ≠ .none := by
  rintro rfl
  cases h.made

theorem count_pos : 0 < arguments.count.toNat := by
  apply Nat.pos_of_ne_zero
  exact fun hzero => h.count (eq_of_toNat_eq hzero)

theorem constructible_iff_placeable (i : Nat) :
    Constructible p type arguments.specificBits (info.roundAddress bits i) ↔
      Placeable type (info.objectStart bits i % 2 ^ 64) := by
  rw [constructible_iff h.accepted (GenericInfo.dvd_roundAddress h.bits_lt i),
    GenericInfo.roundAddress, toNat_ofNat]

theorem apart {id : SlotId} (hid : (st.slots id).type ≠ .none) :
    ∀ i < arguments.count.toNat, id ≠ roundSlot node arguments.slotIndex i := by
  rintro i hi rfl
  rw [h.empty i hi] at hid
  exact hid rfl

theorem genericApart :
    ∀ i < arguments.count.toNat, generic ≠ roundSlot node arguments.slotIndex i :=
  h.apart (by simp [h.isGeneric])

theorem roomy {rounds : Nat} (hrounds : rounds ≤ arguments.count.toNat)
    (hcheck : info.objectStart bits arguments.count.toNat % 2 ^ 64 ≤ info.endWord)
    (hgrants : ∀ i < rounds, info.Grants bits i)
    (hconstructible : ∀ i < rounds,
      Constructible p type arguments.specificBits (info.roundAddress bits i)) :
    Roomy p type bits arguments.specificBits generic root node rounds arguments.slotIndex info st where
  component := h.rootNode
  hasSlots := h.hasSlots
  range := by
    have := h.range
    omega
  empty i hi := by simp [h.empty i (by omega), Slot.init]
  rootApart := by
    refine ⟨fun heq => ?_, fun i hi => h.apart (by simp [h.rootType]) i (by omega)⟩
    have htype := h.rootType
    rw [heq, h.isGeneric] at htype
    cases htype
  genericApart i hi := h.genericApart i (by omega)
  bits_lt := h.bits_lt
  grants := hgrants
  made := h.made
  constructible := hconstructible
  fresh i hi := h.fresh hcheck i (by omega) (hgrants i hi)

section Fitting

variable (hend : info.objectStart bits arguments.count.toNat ≤ info.endWord)

include hend

omit h in
theorem objectStart_lt {i : Nat} (hi : i ≤ arguments.count.toNat) :
    info.objectStart bits i < 2 ^ 64 := by
  have hmono := info.objectStart_mono bits hi
  have hlt := info.endWord_lt
  omega

omit h in
theorem check : info.objectStart bits arguments.count.toNat % 2 ^ 64 ≤ info.endWord := by
  rwa [Nat.mod_eq_of_lt (objectStart_lt hend (Nat.le_refl _))]

omit h in
theorem grants : ∀ i < arguments.count.toNat, info.Grants bits i := by
  intro i hi
  have hmono := info.objectStart_mono bits (Nat.succ_le_of_lt hi)
  rw [GenericInfo.Grants, Nat.mod_eq_of_lt (objectStart_lt hend hi)]
  omega

/-- The first `rounds` rounds of a request that fits, where the counter stops behind them. -/
theorem convertLoop_rounds {rounds : Nat} (hrounds : rounds ≤ arguments.count.toNat)
    (hcounter : rounds ≤ 2 ^ 31)
    (hstop : ¬ (BitVec.ofNat 32 rounds).signExtend 64 < arguments.count)
    (hconstructible : ∀ i < rounds,
      Constructible p type arguments.specificBits (info.roundAddress bits i)) :
    (st.convertRounds p ops type bits info generic root arguments).Post
      (fun _ st' => Created generic type bits node rounds arguments.slotIndex info st st')
      fun _ _ => False := by
  have hroomy := h.roomy hrounds (check hend) (fun i hi => grants hend i (by omega)) hconstructible
  have hindex : arguments.slotIndex + BitVec.ofNat 64 0 = arguments.slotIndex := BitVec.add_zero _
  rw [← hindex] at hroomy
  have hfuel : rounds ≤ min arguments.count.toNat (2 ^ 32) := Nat.le_min.mpr ⟨hrounds, by omega⟩
  rw [← Nat.zero_add rounds] at hstop
  apply (convertLoop_created hroomy hfuel (by omega) (by omega) hstop).mono
  · intro _ st' hcreated
    rwa [hindex] at hcreated
  · exact fun _ _ hfalse => hfalse

theorem served_of_created {st' : CapState σ}
    (hcreated : Created generic type bits node arguments.count.toNat arguments.slotIndex info st st') :
    Served generic type bits node arguments info st st' := by
  refine ⟨fun i hi => ?_, ?_, hcreated.others⟩
  · have hholds := hcreated.objects i hi
    rw [hholds.address, GenericInfo.roundAddress_toNat_of_lt (objectStart_lt hend (Nat.le_of_lt hi))]
    exact ⟨hholds.type, rfl⟩
  · rw [hcreated.data, if_neg h.count_pos.ne']
    exact GenericInfo.roundAddress_toNat_of_lt (objectStart_lt hend (Nat.le_refl _))

theorem served (hcount : arguments.count.toNat ≤ 2 ^ 31)
    (hplaceable : ∀ i < arguments.count.toNat, Placeable type (info.objectStart bits i)) :
    (st.convert p ops owner generic arguments).Post
      (fun _ st' => Served generic type bits node arguments info st st') fun _ _ => False := by
  have hstop : ¬ (BitVec.ofNat 32 arguments.count.toNat).signExtend 64 < arguments.count := by
    rcases Nat.lt_or_eq_of_le hcount with hlt | heq
    · rw [counter_toNat hlt, lt_def, toNat_ofNat, Nat.mod_eq_of_lt arguments.count.isLt]
      exact Nat.lt_irrefl _
    · have hcount : arguments.count = BitVec.ofNat 64 (2 ^ 31) := by
        apply eq_of_toNat_eq
        rw [heq]
        decide
      rw [hcount]
      decide
  rw [h.convert_eq, if_pos (check hend)]
  apply (h.convertLoop_rounds hend (Nat.le_refl _) hcount hstop fun i hi => ?_).mono
  · exact fun _ _ hcreated => h.served_of_created hend hcreated
  · exact fun _ _ hfalse => hfalse
  · rw [h.constructible_iff_placeable, Nat.mod_eq_of_lt (objectStart_lt hend (Nat.le_of_lt hi))]
    exact hplaceable i hi

/-- The region behind the watermark holds at most `2 ^ 63` units. -/
theorem count_le : arguments.count.toNat ≤ 2 ^ 63 := by
  have hbase := h.within.base_le
  have hfirst : info.watermark.toNat ≤ info.firstAddress bits :=
    le_alignUp info.watermark.toNat (Nat.two_pow_pos _)
  have hunits : arguments.count.toNat ≤ arguments.count.toNat * 2 ^ bits.toNat :=
    Nat.le_mul_of_pos_right _ (Nat.two_pow_pos _)
  have hsize : 2 ^ (info.sizeBits.toNat % 64) ≤ 2 ^ 63 := Nat.pow_le_pow_right (by decide) (by omega)
  have hwrap : info.endWord ≤ info.baseAddress.toNat + 2 ^ (info.sizeBits.toNat % 64) :=
    Nat.mod_le _ _
  unfold GenericInfo.objectStart at hend
  omega

/-- An `int` cannot count further than `2 ^ 31` objects: the loop stops and reports success. -/
theorem count_le_of_served
    (hok : (st.convert p ops owner generic arguments).result = .ok ())
    (hserved : Served generic type bits node arguments info st
      (st.convert p ops owner generic arguments).state) : arguments.count.toNat ≤ 2 ^ 31 := by
  by_contra hlarge
  have hcount := h.count_le hend
  rw [h.convert_eq, if_pos (check hend)] at hok hserved
  have hconstructible := constructible_of_convertLoop h.bits_lt h.made
    (Nat.le_min.mpr ⟨by omega, by decide⟩ : 2 ^ 31 ≤ min arguments.count.toNat (2 ^ 32))
    (Nat.zero_add _).le (by omega) hok
  have hstop : ¬ (BitVec.ofNat 32 (2 ^ 31)).signExtend 64 < arguments.count := by
    have hcounter : ((BitVec.ofNat 32 (2 ^ 31)).signExtend 64).toNat = 2 ^ 64 - 2 ^ 31 := by decide
    rw [lt_def, hcounter]
    omega
  have hcreated : (st.convertRounds p ops type bits info generic root arguments).Post _ _ :=
    h.convertLoop_rounds hend (Nat.le_of_not_le hlarge) (Nat.le_refl _) hstop hconstructible
  -- the slot behind the last round is still empty
  have hslot : (roundSlot node arguments.slotIndex (2 ^ 31)) ≠ generic :=
    (h.genericApart (2 ^ 31) (by omega)).symm
  generalize st.convertRounds p ops type bits info generic root arguments = outcome at hcreated hserved
  obtain ⟨_ | _, st'⟩ := outcome
  · exact hcreated
  · have hkept := hcreated.others (roundSlot node arguments.slotIndex (2 ^ 31)) hslot
      (fun i hi heq => hi.ne' (roundSlot_injective node _ heq))
      (fun i hi heq => (h.fresh (check hend) i (by omega) (grants hend i (by omega))).1
        (Option.some.inj heq))
    have htype := (hserved.objects (2 ^ 31) (by omega)).1
    rw [(Slot.content_fields hkept).2.1, h.empty (2 ^ 31) (by omega)] at htype
    exact h.type_ne_none htype.symm

end Fitting

theorem fitting_of_served
    (hok : (st.convert p ops owner generic arguments).result = .ok ())
    (hserved : Served generic type bits node arguments info st
      (st.convert p ops owner generic arguments).state) :
    info.objectStart bits arguments.count.toNat ≤ info.endWord ∧ arguments.count.toNat ≤ 2 ^ 31 ∧
      ∀ i < arguments.count.toNat, Placeable type (info.objectStart bits i) := by
  have hlt : info.objectStart bits arguments.count.toNat < 2 ^ 64 := by
    rw [← hserved.watermark]
    exact isLt _
  have hend : info.objectStart bits arguments.count.toNat ≤ info.endWord := by
    rw [h.convert_eq] at hok
    split at hok
    case isTrue hcheck => rwa [Nat.mod_eq_of_lt hlt] at hcheck
    case isFalse => cases hok
  have hcount := h.count_le_of_served hend hok hserved
  refine ⟨hend, hcount, fun i hi => ?_⟩
  rw [h.convert_eq, if_pos (check hend)] at hok
  have hconstructible := constructible_of_convertLoop h.bits_lt h.made
    (Nat.le_min.mpr ⟨Nat.le_refl _, by omega⟩ : arguments.count.toNat ≤ _)
    ((Nat.zero_add _).le.trans hcount) (Nat.zero_add _).le hok i hi
  rwa [h.constructible_iff_placeable,
    Nat.mod_eq_of_lt (objectStart_lt hend (Nat.le_of_lt hi))] at hconstructible

theorem removeEmptySlot_first :
    st.removeEmptySlot (roundSlot node arguments.slotIndex 0) = .ok () st := by
  have hempty := h.empty 0 h.count_pos
  have hkept : st.setSlot (roundSlot node arguments.slotIndex 0) Slot.init = st := by
    rw [← hempty, setSlot, Function.update_eq_self]
  have hremoved : st.removeFromDependencyNode (roundSlot node arguments.slotIndex 0) = st := by
    simp [removeFromDependencyNode, hempty, Slot.init, setNext, setPreview]
  rw [removeEmptySlot, hempty, if_neg (by simp [Slot.init]), unlinkAndClearSlot, hremoved, hkept]

variable (p ops) in
theorem convertLoop_first : ∃ fuel < arguments.count.toNat,
    st.convertRounds p ops type bits info generic root arguments =
      (st.convertOne p ops type bits arguments.specificBits info generic root
        arguments.slotIndex).andThen fun info st =>
          convertLoop p ops type bits arguments.specificBits generic root arguments.count
            arguments.slotIndex fuel 1 info st := by
  obtain ⟨fuel, hfuel⟩ : ∃ fuel, min arguments.count.toNat (2 ^ 32) = fuel + 1 :=
    Nat.exists_eq_add_one.mpr (Nat.lt_min.mpr ⟨h.count_pos, by decide⟩)
  have hzero : (0 : BitVec 32).signExtend 64 = 0#64 := by decide
  have hle := Nat.min_le_left arguments.count.toNat (2 ^ 32)
  have hpos : 0#64 < arguments.count := lt_def.mpr h.count_pos
  refine ⟨fuel, by omega, ?_⟩
  rw [convertRounds, hfuel, convertLoop, hzero, BitVec.add_zero, if_pos hpos]
  rfl

/-- A request whose first object is refused changes nothing. -/
theorem convertLoop_refused
    (hrefused : ¬ info.Grants bits 0 ∨
      ¬ Constructible p type arguments.specificBits (info.roundAddress bits 0)) :
    ∃ e, st.convertRounds p ops type bits info generic root arguments = .error e st := by
  obtain ⟨fuel, -, hfirst⟩ := h.convertLoop_first p ops
  have hempty := h.empty 0 h.count_pos
  have hretrieve : st.retrieveSlot (.node node) arguments.slotIndex =
      .ok (roundSlot node arguments.slotIndex 0) := by
    simp [retrieveSlot, h.hasSlots, roundSlot]
  obtain ⟨e, hmake⟩ : ∃ e, st.tryMakeCapability p ops type bits arguments.specificBits info generic
      (roundSlot node arguments.slotIndex 0) = .error e st :=
    tryMakeCapability_refused h.bits_lt h.made hrefused
  refine ⟨e, ?_⟩
  rw [hfirst, convertOne]
  simp only [h.rootNode, hretrieve, hempty, h.removeEmptySlot_first]
  rw [if_neg (by simp [Slot.init])]
  simp only [transformError_ok, andThen_ok, hmake]
  rfl

/-- Where the first object is made, its slot stays filled whatever the later rounds come to. -/
theorem convertLoop_fills
    (hcheck : info.objectStart bits arguments.count.toNat % 2 ^ 64 ≤ info.endWord)
    (hgrants : info.Grants bits 0)
    (hconstructible : Constructible p type arguments.specificBits (info.roundAddress bits 0)) :
    ((st.convertRounds p ops type bits info generic root arguments).state.slots
        (roundSlot node arguments.slotIndex 0)).type ≠ .none := by
  obtain ⟨fuel, hfuel, hfirst⟩ := h.convertLoop_first p ops
  have hroomy : Roomy p type bits arguments.specificBits generic root node 1 arguments.slotIndex info
      st :=
    h.roomy h.count_pos hcheck (fun i hi => by rwa [Nat.lt_one_iff.mp hi]) fun i hi => by
      rwa [Nat.lt_one_iff.mp hi]
  have hround : (st.convertOne p ops type bits arguments.specificBits info generic root
      arguments.slotIndex).Post _ _ := hroomy.firstRound
  rw [hfirst]
  generalize st.convertOne p ops type bits arguments.specificBits info generic root
    arguments.slotIndex = outcome at hround ⊢
  obtain ⟨_ | made, st1⟩ := outcome
  · exact hround.elim
  · obtain ⟨rfl, hround⟩ := hround
    have htype : (st1.slots (roundSlot node arguments.slotIndex 0)).type ≠ .none := by
      rw [hround.holds.type]
      exact h.type_ne_none
    let built : Word → Prop := fun address =>
      ∃ i < arguments.count.toNat, info.Grants bits i ∧ address = info.roundAddress bits i
    have hbuilt : ∀ i < fuel, (info.allocated bits 1).Grants bits i →
        built ((info.allocated bits 1).roundAddress bits i) := by
      intro i hi hgrants
      rw [GenericInfo.roundAddress_allocated h.bits_lt]
      exact ⟨i + 1, by omega, (GenericInfo.grants_allocated h.bits_lt i).mp hgrants, rfl⟩
    have hout : ∀ address, (roundSlot node arguments.slotIndex 0).container = some address →
        ¬ built address := by
      rintro address hcontainer ⟨i, hi, hgrants, rfl⟩
      exact (h.fresh hcheck i hi hgrants).1 (Option.some.inj hcontainer)
    intro hnone
    apply htype
    rw [← hnone]
    exact (convertLoop_keepsOccupied h.bits_lt h.made hbuilt _ (h.genericApart 0 h.count_pos).symm
      hout htype).symm

end ConvertRequest

/-- CONVERT decides a request as naturals do, with all or nothing done, exactly under the condition
on the numbers it computes with. -/
theorem convert_capacity_exact_iff {info : GenericInfo}
    (h : ConvertRequest p owner generic root node type bits arguments info st) :
    CapacityExact generic type bits node arguments info st
        (st.convert p ops owner generic arguments) ↔
      info.DecidedExactly type bits arguments.count := by
  constructor
  · intro hexact
    refine ⟨fun hfits => ?_, fun hfits => ?_⟩
    · obtain ⟨hok, hserved⟩ := hexact.served hfits
      exact h.fitting_of_served hok hserved
    · obtain ⟨-, hslots⟩ := hexact.refused hfits
      by_contra hpasses
      push Not at hpasses
      obtain ⟨hcheck, hgrants, hplaceable⟩ := hpasses
      rw [h.convert_eq, if_pos hcheck] at hslots
      apply h.convertLoop_fills hcheck hgrants ((h.constructible_iff_placeable 0).mpr hplaceable)
      rw [hslots, h.empty 0 h.count_pos]
      rfl
  · intro hdecided
    refine ⟨fun hfits => ?_, fun hfits => ?_⟩
    · obtain ⟨hend, hcount, hplaceable⟩ := hdecided.fitting hfits
      have hserved : (st.convert p ops owner generic arguments).Post _ _ :=
        h.served hend hcount hplaceable
      generalize st.convert p ops owner generic arguments = outcome at hserved ⊢
      obtain ⟨_ | _, st'⟩ := outcome
      · exact hserved.elim
      · exact ⟨rfl, hserved⟩
    · rw [h.convert_eq]
      split
      case isFalse => exact ⟨⟨_, rfl⟩, rfl⟩
      case isTrue hcheck =>
        have hrefused : ¬ info.Grants bits 0 ∨
            ¬ Constructible p type arguments.specificBits (info.roundAddress bits 0) := by
          rcases hdecided.exceeding hfits with hlarge | hfirst | hplaceable
          · exact absurd hcheck (Nat.not_le.mpr hlarge)
          · exact .inl (Nat.not_le.mpr hfirst)
          · exact .inr fun hmade => hplaceable ((h.constructible_iff_placeable 0).mp hmade)
        obtain ⟨e, heq⟩ : ∃ e, st.convertRounds p ops type bits info generic root arguments =
              .error e st := h.convertLoop_refused hrefused
        rw [heq]
        exact ⟨⟨e, rfl⟩, rfl⟩

end Convert

/-! ## A page, and an end that wraps -/

def oneGeneric : GenericInfo := ⟨0x1000, 12, false, 0x1000⟩

theorem convertRequest_oneGeneric {arguments : ConvertArguments} {type : CapabilityType}
    {bits : Word} (hroot : arguments.rootDescriptor = wrappingArguments.rootDescriptor)
    (hslot : arguments.slotIndex = 2) (hcount : arguments.count = 1)
    (htype : capabilityTypeOfWord arguments.capabilityType = some type)
    (hbits : calculateCapabilityMemorySizeBits samplePlatform type arguments.specificBits = some bits)
    (hlt : bits.toNat < 64) (hfresh : (0x2000 : Word) ≠ oneGeneric.roundAddress bits 0) :
    ConvertRequest samplePlatform 0x9000 (.node 0x2000 0) (.node 0x2000 1) 0x2000 type bits
      arguments oneGeneric oneGenericBoot where
  isGeneric := rfl
  rights := rfl
  state := by decide
  within := ⟨by decide, by decide, by decide⟩
  lookup := hroot ▸ oneGenericBoot_lookup
  rootType := rfl
  rootRights := rfl
  rootNode := rfl
  hasSlots := rfl
  requested := htype
  accepted := hbits
  bits_lt := hlt
  device hdevice := by cases hdevice
  count := by rw [hcount]; decide
  range := by rw [hslot, hcount]; decide
  empty i hi := by
    rw [hcount] at hi
    obtain rfl : i = 0 := Nat.lt_one_iff.mp hi
    rw [hslot]
    rfl
  fresh _ i hi _ := by
    rw [hcount] at hi
    obtain rfl : i = 0 := Nat.lt_one_iff.mp hi
    exact ⟨hfresh, fun heq => hfresh (Option.some.inj heq)⟩

theorem convert_capacity_exact_page :
    CapacityExact (.node 0x2000 0) .frame 12 0x2000 pageArguments oneGeneric oneGenericBoot
      (oneGenericBoot.convert samplePlatform sampleOps 0x9000 (.node 0x2000 0) pageArguments) := by
  have hrequest : ConvertRequest samplePlatform 0x9000 (.node 0x2000 0) (.node 0x2000 1) 0x2000
      .frame 12 pageArguments oneGeneric oneGenericBoot :=
    convertRequest_oneGeneric rfl rfl rfl rfl rfl (by decide) (by decide)
  refine (convert_capacity_exact_iff hrequest).mpr
    ⟨fun _ => ⟨by decide, by decide, fun i _ => ⟨?_, ?_⟩⟩, fun hfits => ?_⟩
  · intro htype
    cases htype
  · rintro (htype | htype) <;> cases htype
  · exact absurd (by unfold GenericInfo.Fits; decide) hfits

/-- A Generic of `2 ^ 63` bytes does not fit a page, and is made all the same. -/
theorem convert_wrapping_inexact :
    ConvertRequest samplePlatform 0x9000 (.node 0x2000 0) (.node 0x2000 1) 0x2000 .generic 63
        wrappingArguments oneGeneric oneGenericBoot ∧
      ¬ CapacityExact (.node 0x2000 0) .generic 63 0x2000 wrappingArguments oneGeneric oneGenericBoot
        (oneGenericBoot.convert samplePlatform sampleOps 0x9000 (.node 0x2000 0)
          wrappingArguments) := by
  refine ⟨convertRequest_oneGeneric rfl rfl rfl rfl rfl (by decide) (by decide), fun hexact => ?_⟩
  obtain ⟨-, hslots⟩ := hexact.refused (by unfold GenericInfo.Fits; decide)
  -- the destination holds the new Generic
  exact absurd (congrArg Slot.type (congrFun hslots (.node 0x2000 2))) (by decide)

end A9N.Kernel
