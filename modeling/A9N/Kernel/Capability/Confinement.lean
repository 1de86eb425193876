import A9N.Kernel.Capability.Generic

/-!
# Confinement of allocations

Every object a Generic hands out should lie inside the Generic's region, above the watermark
it had. The allocation check computes in wrapping words, so this holds for the requests whose
end is below `2 ^ 64` over naturals, and fails for others.
-/

namespace A9N.Kernel

open Liba9n

def GenericInfo.exactEnd (info : GenericInfo) : Nat :=
  info.baseAddress.toNat + 2 ^ info.sizeBits.toNat

structure GenericInfo.Within (info : GenericInfo) : Prop where
  exactEnd_le : info.exactEnd ≤ 2 ^ 64
  base_le : info.baseAddress.toNat ≤ info.watermark.toNat
  le_end : info.watermark.toNat ≤ info.exactEnd

/-- The recorded object starts at or above the old watermark and ends inside the region. -/
structure Allocation.Confined (a : Allocation) : Prop where
  base_le : a.genericBase.toNat ≤ a.watermark.toNat
  watermark_le : a.watermark.toNat ≤ a.base.toNat
  end_le : a.base.toNat + a.size ≤ a.genericBase.toNat + 2 ^ a.genericSizeBits.toNat

def Slot.Within (slot : Slot) : Prop :=
  slot.type = .generic → (createGenericInfo slot.data).Within

structure CapState.Confined {σ : Type} (st : CapState σ) : Prop where
  generics : ∀ id, (st.slots id).Within
  allocations : ∀ a ∈ st.allocations, a.Confined

/-! ### Exact arithmetic of one allocation -/

namespace GenericInfo

variable {info : GenericInfo} {bits : Word}

private theorem end_toNat_le (info : GenericInfo) :
    (info.baseAddress + info.size).toNat ≤ info.exactEnd := by
  have hsize : info.size.toNat ≤ 2 ^ info.sizeBits.toNat := by
    rw [size, shiftLeft_one_toNat]
    exact Nat.pow_le_pow_right (by decide) (Nat.mod_le _ _)
  rw [BitVec.toNat_add, exactEnd]
  exact le_trans (Nat.mod_le _ _) (Nat.add_le_add_left hsize _)

private theorem alignValue_watermark (hbits : bits.toNat < 64)
    (hfits : alignUp info.watermark.toNat (2 ^ bits.toNat) + 2 ^ bits.toNat < 2 ^ 64) :
    (alignValue info.watermark (shiftLeft 1 bits)).toNat =
      alignUp info.watermark.toNat (2 ^ bits.toNat) := by
  have hunit := shiftLeft_one_toNat_of_lt hbits
  have hpos : 0 < 2 ^ bits.toNat := Nat.two_pow_pos _
  have hle := le_alignUp info.watermark.toNat hpos
  rw [alignValue_toNat (by rw [hunit]; exact hpos) (by rw [hunit]; omega), hunit]

theorem tryApplyAllocate_exact {address : Word} {info' : GenericInfo} (hbits : bits.toNat < 64)
    (hfits : alignUp info.watermark.toNat (2 ^ bits.toNat) + 2 ^ bits.toNat < 2 ^ 64)
    (h : info.tryApplyAllocate bits = .ok (address, info')) :
    address.toNat = alignUp info.watermark.toNat (2 ^ bits.toNat) ∧
      info'.watermark.toNat = address.toNat + 2 ^ bits.toNat ∧
      address.toNat + 2 ^ bits.toNat ≤ info.exactEnd ∧
      info' = { info with watermark := info'.watermark } := by
  have haligned := alignValue_watermark hbits hfits
  have hunit := shiftLeft_one_toNat_of_lt hbits
  have hboundary : (alignValue info.watermark (shiftLeft 1 bits) + shiftLeft 1 bits).toNat =
      alignUp info.watermark.toNat (2 ^ bits.toNat) + 2 ^ bits.toNat := by
    rw [BitVec.toNat_add, haligned, hunit, Nat.mod_eq_of_lt hfits]
  simp only [tryApplyAllocate] at h
  split at h
  case isTrue => cases h
  case isFalse hle =>
    obtain ⟨rfl, rfl⟩ : alignValue info.watermark (shiftLeft 1 bits) = address ∧
        info.applyAllocate bits = info' := by simpa using h
    refine ⟨haligned, ?_, ?_, rfl⟩
    · rw [haligned, ← hboundary]
      rfl
    · rw [haligned, ← hboundary]
      exact le_trans (not_lt.mp hle) (end_toNat_le info)

section

variable {address : Word} {info' : GenericInfo} (hinfo : info.Within) (hbits : bits.toNat < 64)
  (hfits : alignUp info.watermark.toNat (2 ^ bits.toNat) + 2 ^ bits.toNat < 2 ^ 64)
  (h : info.tryApplyAllocate bits = .ok (address, info'))
include hinfo hbits hfits h

theorem Within.allocate : info'.Within := by
  obtain ⟨haddress, hwatermark, hend, heq⟩ := tryApplyAllocate_exact hbits hfits h
  have hle : info.watermark.toNat ≤ address.toNat := by
    rw [haddress]
    exact le_alignUp _ (Nat.two_pow_pos _)
  have hexact : info'.exactEnd = info.exactEnd := by rw [heq]; rfl
  have hbase : info'.baseAddress = info.baseAddress := by rw [heq]
  constructor
  · rw [hexact]
    exact hinfo.exactEnd_le
  · rw [hbase, hwatermark]
    exact le_trans hinfo.base_le (le_trans hle (Nat.le_add_right _ _))
  · rw [hexact, hwatermark]
    exact hend

theorem Within.child (device : Bool) : Within ⟨address, bits, device, address⟩ := by
  obtain ⟨-, -, hend, -⟩ := tryApplyAllocate_exact hbits hfits h
  exact ⟨le_trans hend hinfo.exactEnd_le, Nat.le.refl, Nat.le_add_right _ _⟩

end

end GenericInfo

/-! ### The size computation covers the object -/

private theorem slotArrayBase_eq :
    alignValue (alignValue Node.nodeBytes (shiftLeft 1 (calculateRadixCeil Node.nodeBytes)))
      (shiftLeft 1 (calculateRadixCeil Node.slotBytes)) = 64 := by
  decide

theorem nodeTotalSize_toNat {radix : Word} (h : radix.toNat ≤ 56) :
    (nodeTotalSize radix).toNat = 64 + 64 * 2 ^ radix.toNat := by
  have hpow : 2 ^ radix.toNat ≤ 2 ^ 56 := Nat.pow_le_pow_right (by decide) h
  rw [nodeTotalSize, slotArrayBase_eq, BitVec.toNat_add, BitVec.toNat_mul,
    shiftLeft_one_toNat_of_lt (by omega)]
  change (64 + 64 * 2 ^ radix.toNat % 2 ^ 64) % 2 ^ 64 = _
  omega

private theorem frameSizeBits_lt {p : Platform} {sizeBits : Word}
    (h : validateFrameSizeBits p sizeBits = true) : sizeBits.toNat < 64 := by
  have hcases : sizeBits = 12 ∨ sizeBits = 21 ∨ sizeBits = 30 := by
    unfold validateFrameSizeBits at h
    split at h <;> simp at h <;> tauto
  rcases hcases with rfl | rfl | rfl <;> decide

private theorem radixCeil_covers {value : Word} (hpos : 0 < value.toNat)
    (hle : value.toNat ≤ 2 ^ 32) :
    (calculateRadixCeil value).toNat < 64 ∧ value.toNat ≤ 2 ^ (calculateRadixCeil value).toNat :=
  calculateRadixCeil_spec (ne_zero_of_toNat_pos hpos) (le_trans hle (by decide))

private theorem calculateRadix_pageSize : (calculateRadix Node.pageSize).toNat = 12 := by
  decide

theorem objectBytes_le {p : Platform} {type : CapabilityType} {specificBits bits : Word}
    (h : calculateCapabilityMemorySizeBits p type specificBits = some bits)
    (hgeneric : type = .generic → specificBits.toNat < 64)
    (hnode : type = .node → specificBits.toNat ≤ 56) :
    bits.toNat < 64 ∧ objectBytes p type specificBits ≤ 2 ^ bits.toNat := by
  obtain ⟨hpcb, hport, hnotification, hvcpu⟩ := p.sizes_le
  obtain ⟨hpcb0, hport0, hnotification0, hvcpu0⟩ := p.sizes_pos
  cases type with
  | node =>
    have hradix := hnode rfl
    have htotal := nodeTotalSize_toNat hradix
    have hpow : 2 ^ specificBits.toNat ≤ 2 ^ 56 := Nat.pow_le_pow_right (by decide) hradix
    simp only [calculateCapabilityMemorySizeBits] at h
    split at h
    case isTrue => cases h
    case isFalse =>
      cases h
      have hne : nodeTotalSize specificBits ≠ 0 := ne_zero_of_toNat_pos (by omega)
      obtain ⟨hlt, hle⟩ := calculateRadixCeil_spec hne (by omega)
      rw [htotal] at hle
      exact ⟨hlt, hle⟩
  | generic =>
    cases h
    have hlt := hgeneric rfl
    refine ⟨hlt, ?_⟩
    rw [objectBytes, genericFlagsSizeBits_of_lt (by omega)]
  | addressSpace | pageTable =>
    cases h
    rw [calculateRadix_pageSize]
    exact ⟨by decide, Nat.le.refl⟩
  | frame =>
    simp only [calculateCapabilityMemorySizeBits] at h
    split at h
    case isTrue hvalid =>
      cases h
      exact ⟨frameSizeBits_lt hvalid, Nat.le.refl⟩
    case isFalse => cases h
  | processControlBlock => cases h; exact radixCeil_covers hpcb0 hpcb
  | ipcPort => cases h; exact radixCeil_covers hport0 hport
  | notificationPort => cases h; exact radixCeil_covers hnotification0 hnotification
  | virtualCpu => cases h; exact radixCeil_covers hvcpu0 hvcpu
  | none | debug | interruptRegion | interruptPort | ioPort | virtualAddressSpace
  | virtualPageTable => cases h

/-! ### What each step of CONVERT keeps -/

namespace CapState

variable {σ : Type} {st : CapState σ}

theorem Confined.setSlot (h : st.Confined) (id : SlotId) {slot : Slot} (hslot : slot.Within) :
    (st.setSlot id slot).Confined := by
  refine ⟨fun other => ?_, h.allocations⟩
  by_cases heq : other = id
  · rw [heq, setSlot_slots_self]
    exact hslot
  · rw [setSlot_slots_of_ne _ _ heq]
    exact h.generics other

theorem Confined.modifySlot (h : st.Confined) (id : SlotId) {f : Slot → Slot}
    (hf : ∀ slot : Slot, slot.Within → (f slot).Within) : (st.modifySlot id f).Confined :=
  h.setSlot id (hf _ (h.generics id))

theorem Slot.within_init : Slot.init.Within := by
  intro h
  cases h

section

variable (h : st.Confined)
include h

theorem Confined.setNext (target next : Option SlotId) : (st.setNext target next).Confined := by
  cases target with
  | none => exact h
  | some id =>
    rw [CapState.setNext]
    apply h.modifySlot
    exact fun _ hslot => hslot

theorem Confined.setPreview (target preview : Option SlotId) :
    (st.setPreview target preview).Confined := by
  cases target with
  | none => exact h
  | some id =>
    rw [CapState.setPreview]
    apply h.modifySlot
    exact fun _ hslot => hslot

theorem Confined.removeEmptySlot (id : SlotId) : (st.removeEmptySlot id).state.Confined := by
  unfold CapState.removeEmptySlot
  split
  · exact h
  · exact ((h.setNext _ _).setPreview _ _).setSlot id Slot.within_init

theorem Confined.insertChild (parent child : SlotId) : (st.insertChild parent child).Confined := by
  have hdepth := h.modifySlot child (f := fun slot => { slot with
    depth := (st.slots parent).depth + 1 }) fun _ hslot => hslot
  unfold CapState.insertChild CapState.insert
  apply Confined.setPreview
  apply Confined.modifySlot
  · exact hdepth.setNext _ _
  · exact fun _ hslot => hslot

theorem Confined.placeNode (address : Word) (node : NodeObject) :
    (st.placeNode address node).Confined := by
  refine ⟨fun id => ?_, h.allocations⟩
  cases id with
  | node owner index =>
    dsimp only [CapState.placeNode]
    split
    · exact Slot.within_init
    · exact h.generics _
  | process owner field => exact h.generics (.process owner field)
  | irq number => exact h.generics (.irq number)

theorem Confined.placeProcessControlBlock (address : Word) :
    (st.placeProcessControlBlock address).Confined := by
  refine ⟨fun id => ?_, h.allocations⟩
  cases id with
  | node owner index => exact h.generics (.node owner index)
  | process owner field =>
    dsimp only [CapState.placeProcessControlBlock]
    split
    · exact Slot.within_init
    · exact h.generics _
  | irq number => exact h.generics (.irq number)

theorem Confined.construct (ops : ObjectOps σ) (type : CapabilityType)
    (address : Word) : (st.construct ops type address).Confined :=
  ⟨h.generics, h.allocations⟩

end

private theorem within_of_type_ne {slot : Slot} (h : slot.type ≠ .generic) : slot.Within :=
  fun htype => absurd htype h

private theorem within_dumpSlotData {info : GenericInfo} (h : info.Within)
    (hsize : info.sizeBits.toNat < 128) {slot : Slot} (hdata : slot.data = info.dumpSlotData) :
    slot.Within := by
  intro _
  rw [hdata, createGenericInfo_dumpSlotData hsize]
  exact h

theorem Confined.makeObject (h : st.Confined) (p : Platform) (ops : ObjectOps σ)
    (type : CapabilityType) {bits : Word} (specificBits : Word) {info : GenericInfo}
    (self target : SlotId) {address : Word} (hinfo : info.Within)
    (hsize : info.sizeBits.toNat < 128) (hbits : bits.toNat < 64)
    (hchild : GenericInfo.Within ⟨address, bits, info.device, address⟩) :
    (st.makeObject p ops type bits specificBits info self target address).state.Confined := by
  cases type with
  | node =>
    dsimp only [CapState.makeObject]
    split
    · exact h
    · split
      · exact h.placeNode _ _
      · exact (h.placeNode _ _).setSlot target (within_of_type_ne (by simp))
  | generic =>
    have hself : (st.tryConfigureGenericSlot self info (st.slots self).object).Confined :=
      h.setSlot self (within_dumpSlotData hinfo hsize rfl)
    exact hself.setSlot target (within_dumpSlotData hchild (lt_trans hbits (by decide)) rfl)
  | addressSpace =>
    dsimp only [CapState.makeObject]
    split
    · rw [Outcome.ok_state]
      apply (h.construct _ _ _).modifySlot
      exact fun _ _ => within_of_type_ne (by simp)
    · exact h
  | pageTable =>
    dsimp only [CapState.makeObject]
    split
    · exact h
    · exact (h.construct _ _ _).setSlot target (within_of_type_ne (by simp))
  | frame => exact h.setSlot target (within_of_type_ne (by simp))
  | processControlBlock =>
    exact ((h.placeProcessControlBlock _).construct _ _ _).setSlot target
      (within_of_type_ne (by simp))
  | ipcPort => exact (h.construct _ _ _).setSlot target (within_of_type_ne (by simp))
  | notificationPort =>
    have hbind : ({ st with bindedProcess := Function.update st.bindedProcess address none } :
        CapState σ).Confined := ⟨h.generics, h.allocations⟩
    exact (hbind.construct _ _ _).setSlot target (within_of_type_ne (by simp))
  | virtualCpu =>
    dsimp only [CapState.makeObject]
    split
    · exact h
    · rw [Outcome.ok_state]
      apply (h.construct _ _ _).modifySlot
      exact fun _ _ => within_of_type_ne (by simp)
  | none | debug | interruptRegion | interruptPort | ioPort | virtualAddressSpace
  | virtualPageTable => exact h

theorem Confined.recordAllocation (h : st.Confined) (p : Platform) (self target : SlotId)
    {info : GenericInfo} {type : CapabilityType} {specificBits base : Word}
    (hinfo : info.Within) (hbase : info.watermark.toNat ≤ base.toNat)
    (hend : base.toNat + objectBytes p type specificBits ≤ info.exactEnd) :
    (st.recordAllocation p self target info type specificBits base).Confined := by
  have hslot := h.modifySlot target (f := fun slot => { slot with object := st.objectCount })
    fun _ hslot => hslot
  refine ⟨hslot.generics, fun a ha => ?_⟩
  rcases List.mem_cons.mp ha with rfl | ha
  · exact ⟨hinfo.base_le, hbase, hend⟩
  · exact h.allocations a ha

structure RoundsFit (p : Platform) (type : CapabilityType) (bits specificBits : Word)
    (rounds : Nat) (info : GenericInfo) : Prop where
  within : info.Within
  size_lt : info.sizeBits.toNat < 128
  bits_lt : bits.toNat < 64
  covers : objectBytes p type specificBits ≤ 2 ^ bits.toNat
  end_lt : alignUp info.watermark.toNat (2 ^ bits.toNat) + rounds * 2 ^ bits.toNat < 2 ^ 64

section Rounds

variable {p : Platform} {ops : ObjectOps σ} {type : CapabilityType} {bits specificBits : Word}
  {info : GenericInfo} {rounds : Nat}

theorem RoundsFit.unit_lt (h : RoundsFit p type bits specificBits (rounds + 1) info) :
    alignUp info.watermark.toNat (2 ^ bits.toNat) + 2 ^ bits.toNat < 2 ^ 64 := by
  have := h.end_lt
  rw [Nat.succ_mul] at this
  omega

theorem RoundsFit.allocate {address : Word} {info' : GenericInfo}
    (h : RoundsFit p type bits specificBits (rounds + 1) info)
    (halloc : info.tryApplyAllocate bits = .ok (address, info')) :
    RoundsFit p type bits specificBits rounds info' := by
  have hend := h.end_lt
  have hwithin := h.within.allocate h.bits_lt h.unit_lt halloc
  obtain ⟨haddress, hwatermark, -, heq⟩ := GenericInfo.tryApplyAllocate_exact h.bits_lt h.unit_lt halloc
  have hpos : 0 < 2 ^ bits.toNat := Nat.two_pow_pos _
  have haligned : alignUp info'.watermark.toNat (2 ^ bits.toNat) =
      alignUp info.watermark.toNat (2 ^ bits.toNat) + 2 ^ bits.toNat := by
    rw [hwatermark, haddress]
    apply alignUp_of_dvd hpos
    exact Nat.dvd_add (dvd_alignUp _ _) (Nat.dvd_refl _)
  refine ⟨hwithin, ?_, h.bits_lt, h.covers, ?_⟩
  · rw [heq]
    exact h.size_lt
  · rw [haligned]
    rw [Nat.succ_mul] at hend
    omega

section

variable (h : st.Confined) (hfit : RoundsFit p type bits specificBits (rounds + 1) info)
include h hfit

theorem Confined.tryMakeCapability (self target : SlotId) :
    (st.tryMakeCapability p ops type bits specificBits info self target).Post
      (fun info st => st.Confined ∧ RoundsFit p type bits specificBits rounds info)
      (fun _ st => st.Confined) := by
  unfold CapState.tryMakeCapability
  split
  case h_1 => exact h
  case h_2 =>
    split
    case h_1 => exact h
    case h_2 address info' halloc =>
      have hfit' := hfit.allocate halloc
      obtain ⟨haddress, -, hend, -⟩ :=
        GenericInfo.tryApplyAllocate_exact hfit.bits_lt hfit.unit_lt halloc
      have hcovers := hfit.covers
      have hle : info.watermark.toNat ≤ address.toNat := by
        rw [haddress]
        exact le_alignUp _ (Nat.two_pow_pos _)
      have hmade := h.makeObject p ops type specificBits self target hfit'.within hfit'.size_lt
        hfit.bits_lt (hfit.within.child hfit.bits_lt hfit.unit_lt halloc info'.device)
      apply Outcome.Post.andThen (Q := fun _ st => st.Confined)
      · exact Outcome.post_of_state hmade
      · intro _ st hst
        exact ⟨hst.recordAllocation p self target hfit.within hle (by omega), hfit'⟩

theorem Confined.convertOne (self root : SlotId) (index : Word) :
    (st.convertOne p ops type bits specificBits info self root index).Post
      (fun info st => st.Confined ∧ RoundsFit p type bits specificBits rounds info)
      (fun _ st => st.Confined) := by
  unfold CapState.convertOne
  split
  case h_1 => exact h
  case h_2 =>
    split
    case h_1 => exact h
    case h_2 destination _ =>
      split
      case isTrue => exact h
      case isFalse =>
        have hempty := h.removeEmptySlot destination
        apply Outcome.Post.andThen (Q := fun _ st => st.Confined)
        · exact (Outcome.post_of_state hempty).transformError
        · intro _ st hst
          apply (hst.tryMakeCapability hfit self destination).andThen
          rintro info' st ⟨hst, hfit'⟩
          have hself := hst.modifySlot self (f := fun slot => { slot with
            data := info'.dumpSlotData }) fun _ _ => within_dumpSlotData hfit'.within hfit'.size_lt rfl
          exact ⟨hself.insertChild self destination, hfit'⟩

end

theorem Confined.convertLoop (self root : SlotId) (count index : Word) :
    ∀ (rounds : Nat) (i : BitVec 32) {info : GenericInfo} {st : CapState σ}, st.Confined →
      RoundsFit p type bits specificBits rounds info →
      (convertLoop p ops type bits specificBits self root count index rounds i info
        st).state.Confined := by
  intro rounds
  induction rounds with
  | zero =>
    intro i info st h _
    exact h
  | succ rounds ih =>
    intro i info st h hfit
    rw [CapState.convertLoop]
    split
    case isFalse => exact h
    case isTrue =>
      apply Outcome.Post.state (Q := fun _ st => st.Confined) (E := fun _ st => st.Confined)
      · apply (h.convertOne hfit self root _).andThen
        rintro info' st ⟨hst, hfit'⟩
        exact Outcome.post_of_state (ih (i + 1) hst hfit')
      · exact fun _ _ hst => hst
      · exact fun _ _ hst => hst

end Rounds

end CapState

/-! ### Runs of CONVERT -/

section Runs

variable {σ : Type}

def ConvertInRange (st : CapState σ) (owner : Word) (arguments : ConvertArguments) : Prop :=
  ∀ root address, st.lookup owner arguments.rootDescriptor = .ok root →
    (st.slots root).component = some (.node address) →
    arguments.slotIndex.toNat + arguments.count.toNat ≤ (st.nodes address).slotTotal.toNat

def ConvertStep (p : Platform) (ops : ObjectOps σ) (st st' : CapState σ) : Prop :=
  ∃ owner self arguments, (st.slots self).type = .generic ∧ ConvertInRange st owner arguments ∧
    st' = (st.convert p ops owner self arguments).state

def ExactRequest (p : Platform) (slot : Slot) (arguments : ConvertArguments) : Prop :=
  ∀ type bits, capabilityTypeOfWord arguments.capabilityType = some type →
    calculateCapabilityMemorySizeBits p type arguments.specificBits = some bits →
    (createGenericInfo slot.data).isAllocatable bits arguments.count = true →
    (type = .generic → arguments.specificBits.toNat < 64) ∧
    (type = .node → arguments.specificBits.toNat ≤ 56) ∧
    alignUp (createGenericInfo slot.data).watermark.toNat (2 ^ bits.toNat) +
      arguments.count.toNat * 2 ^ bits.toNat < 2 ^ 64

def ExactConvertStep (p : Platform) (ops : ObjectOps σ) (st st' : CapState σ) : Prop :=
  ∃ owner self arguments, (st.slots self).type = .generic ∧ ConvertInRange st owner arguments ∧
    ExactRequest p (st.slots self) arguments ∧
    st' = (st.convert p ops owner self arguments).state

/-- Boot hands over Generics whose regions fit the address space and are still whole. -/
structure CapState.FreshGenerics (st : CapState σ) : Prop where
  generics : ∀ id, (st.slots id).type = .generic →
    (createGenericInfo (st.slots id).data).exactEnd ≤ 2 ^ 64 ∧
    (createGenericInfo (st.slots id).data).watermark =
      (createGenericInfo (st.slots id).data).baseAddress
  allocations : st.allocations = []

theorem CapState.FreshGenerics.confined {st : CapState σ} (h : st.FreshGenerics) : st.Confined := by
  constructor
  · intro id htype
    obtain ⟨hend, hwatermark⟩ := h.generics id htype
    exact ⟨hend, by rw [hwatermark], by rw [hwatermark]; exact Nat.le_add_right _ _⟩
  · intro a ha
    rw [h.allocations] at ha
    cases ha

theorem CapState.Confined.convert {st : CapState σ} (h : st.Confined) {p : Platform}
    {ops : ObjectOps σ} (owner : Word) {self : SlotId} {arguments : ConvertArguments}
    (hself : (st.slots self).type = .generic) (hexact : ExactRequest p (st.slots self) arguments) :
    (st.convert p ops owner self arguments).state.Confined := by
  have hinto : ∀ root, (st.convertInto p ops self root arguments).state.Confined := by
    intro root
    unfold CapState.convertInto
    dsimp only
    split
    · exact h
    split
    · exact h
    split
    · exact h
    next type htype =>
      split
      · exact h
      next bits hbits =>
        split
        · exact h
        next hallocatable =>
          obtain ⟨hgeneric, hnode, hend⟩ := hexact type bits htype hbits (by simpa using hallocatable)
          obtain ⟨hlt, hcovers⟩ := objectBytes_le hbits hgeneric hnode
          have hrounds := Nat.mul_le_mul_right (2 ^ bits.toNat)
            (Nat.min_le_left arguments.count.toNat (2 ^ 32))
          apply CapState.Confined.convertLoop self root _ _ _ _ h
          exact ⟨h.generics self hself, genericFlagsSizeBits_lt _, hlt, hcovers, by omega⟩
  unfold CapState.convert
  split
  · exact h
  split
  · exact h
  split
  · exact h
  split
  · exact h
  · exact hinto _

/-- In every run of CONVERT calls with exact requests, every object ever created lies in the
region of the Generic it was created from, at or above its previous watermark, and every
watermark lies in its region. -/
theorem convert_run_confined {p : Platform} {ops : ObjectOps σ} {st st' : CapState σ}
    (hboot : st.FreshGenerics) (hrun : Relation.ReflTransGen (ExactConvertStep p ops) st st') :
    st'.Confined := by
  induction hrun with
  | refl => exact hboot.confined
  | tail _ hstep ih =>
    obtain ⟨owner, self, arguments, hself, -, hexact, rfl⟩ := hstep
    exact ih.convert owner hself hexact

end Runs

/-! ### A request whose end wraps -/

/-- One process whose root Node, of four slots, holds a page-sized Generic and itself. -/
def oneGenericBoot : CapState Unit where
  slots id :=
    if id = .process 0x9000 .rootSlot ∨ id = .node 0x2000 1 then
      { component := some (.node 0x2000), type := .node, rights := Slot.all }
    else if id = .node 0x2000 0 then
      { component := some .generic, type := .generic, rights := Slot.read ||| Slot.write
        data := { first := 0x1000, second := 12, third := 0x1000 }, object := 1 }
    else Slot.init
  nodes address := if address = 0x2000 then { radixBits := 2, hasSlots := true } else {}
  slotCount := 9
  buffer _ := none
  bindedProcess _ := none
  irqUsed _ := false
  objects := ()
  objectCount := 2

theorem oneGenericBoot_freshGenerics : oneGenericBoot.FreshGenerics := by
  refine ⟨fun id htype => ?_, rfl⟩
  dsimp only [oneGenericBoot] at htype ⊢
  split_ifs at htype ⊢
  · decide
  · cases htype

/-- CONVERT to a Generic of `2 ^ 63` bytes: the aligned watermark is `2 ^ 63`, the end wraps to
zero and passes the check. -/
def wrappingArguments : ConvertArguments where
  capabilityType := 3
  specificBits := 63
  count := 1
  rootDescriptor := 0x0240000000000000
  slotIndex := 2

theorem oneGenericBoot_lookup :
    oneGenericBoot.lookup 0x9000 wrappingArguments.rootDescriptor = .ok (.node 0x2000 1) := by
  decide

theorem convert_wrapping_unconfined :
    oneGenericBoot.FreshGenerics ∧
      Relation.ReflTransGen (ConvertStep samplePlatform sampleOps) oneGenericBoot
        (oneGenericBoot.convert samplePlatform sampleOps 0x9000 (.node 0x2000 0)
          wrappingArguments).state ∧
      ¬ (oneGenericBoot.convert samplePlatform sampleOps 0x9000 (.node 0x2000 0)
          wrappingArguments).state.Confined := by
  refine ⟨oneGenericBoot_freshGenerics, ?_, ?_⟩
  · refine Relation.ReflTransGen.single ⟨0x9000, .node 0x2000 0, wrappingArguments, rfl, ?_, rfl⟩
    intro root address hroot hcomponent
    rw [oneGenericBoot_lookup] at hroot
    cases hroot
    cases hcomponent
    decide
  · intro h
    -- the child's region is the upper half of the address space
    have hchild := h.allocations ⟨2, 1, 0x1000, 12, 0x1000, 0x8000000000000000, 2 ^ 63⟩ (by decide)
    exact absurd hchild.end_le (by decide)

/-- A page of the same Generic is an exact request, and the run stays confined. -/
def pageArguments : ConvertArguments :=
  { wrappingArguments with capabilityType := 6, specificBits := 12 }

theorem convert_run_confined_page :
    oneGenericBoot.FreshGenerics ∧
      (oneGenericBoot.convert samplePlatform sampleOps 0x9000 (.node 0x2000 0)
        pageArguments).state.Confined := by
  refine ⟨oneGenericBoot_freshGenerics,
    @convert_run_confined _ samplePlatform sampleOps _ _ oneGenericBoot_freshGenerics
      (.single ⟨0x9000, .node 0x2000 0, pageArguments, rfl, ?_, ?_, rfl⟩)⟩
  · intro root address hroot hcomponent
    rw [show pageArguments.rootDescriptor = wrappingArguments.rootDescriptor from rfl,
      oneGenericBoot_lookup] at hroot
    cases hroot
    cases hcomponent
    decide
  · intro type bits htype hbits _
    cases htype
    cases hbits
    decide

end A9N.Kernel
