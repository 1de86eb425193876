import A9N.Kernel.Capability.Confinement

/-!
# The memory of a Node

CONVERT computes the size of a Node from its radix, and `try_make_capability_node` lays the header
and the slots out on its own. The two agree for every radix up to 56.
-/

namespace A9N.Kernel

open Liba9n

def roundUpShift (value : Word) : Option Word :=
  if value = 0 ∨ value &&& (value - 1) = 0 then none else some (highestBit value + 1)

/-- The shift amounts between the request for a Node and its last slot: the two units, the slot
count, the round-up of the size, and the unit of the allocation. -/
def nodeShiftAmounts (radix : Word) : List Word :=
  [calculateRadixCeil Node.nodeBytes, calculateRadixCeil Node.slotBytes, radix] ++
    (roundUpShift (nodeTotalSize radix)).toList ++ [calculateRadixCeil (nodeTotalSize radix)]

/-- Where `try_make_capability_node` puts the slots of a Node at `base`. -/
def nodeSlotStart (base : Word) : Word :=
  alignValue (base + shiftLeft 1 (calculateRadixCeil Node.nodeBytes))
    (shiftLeft 1 (calculateRadixCeil Node.slotBytes))

/-- The header comes before the slots, and the slots end inside the allocation. -/
structure NodeFits (base radix bits : Word) : Prop where
  header : base.toNat + Node.nodeBytes.toNat ≤ (nodeSlotStart base).toNat
  slots : (nodeSlotStart base).toNat + Node.slotBytes.toNat * 2 ^ radix.toNat ≤
    base.toNat + 2 ^ bits.toNat

/-- No shift is undefined, and the Node fits wherever it is allocated. -/
structure NodeFootprint (radix bits : Word) : Prop where
  shifts : ∀ amount ∈ nodeShiftAmounts radix, amount.toNat < 64
  fits : ∀ (info info' : GenericInfo) (address : Word),
    info.tryApplyAllocate bits = .ok (address, info') →
      NodeFits (physicalToVirtualAddress address) radix bits

section Footprint

variable {p : Platform} {radix bits : Word}

section

variable (h : calculateCapabilityMemorySizeBits p .node radix = some bits)
include h

theorem radix_lt_of_accepted : radix.toNat < 58 := by
  simp only [calculateCapabilityMemorySizeBits] at h
  split at h
  case isTrue => cases h
  case isFalse hvalid =>
    have hle : ¬ (58 : Word) ≤ radix := fun hle => hvalid (.inr hle)
    simpa [BitVec.le_def] using hle

theorem bits_of_accepted : bits = calculateRadixCeil (nodeTotalSize radix) := by
  simp only [calculateCapabilityMemorySizeBits] at h
  split at h
  case isTrue => cases h
  case isFalse => exact (Option.some.inj h).symm

end

theorem roundUpShift_lt (hradix : radix.toNat ≤ 56) {amount : Word}
    (h : roundUpShift (nodeTotalSize radix) = some amount) : amount.toNat < 64 := by
  have htotal := nodeTotalSize_toNat hradix
  have hpow : 2 ^ radix.toNat ≤ 2 ^ 56 := Nat.pow_le_pow_right (by decide) hradix
  have hlog : (nodeTotalSize radix).toNat.log2 < 63 := by
    rw [Nat.log2_lt (by omega), htotal]
    omega
  unfold roundUpShift at h
  split_ifs at h
  cases h
  rw [highestBit, BitVec.toNat_add, BitVec.toNat_ofNat]
  change (_ % 2 ^ 64 + 1) % 2 ^ 64 < 64
  omega

theorem nodeSlotStart_toNat {base : Word} (hbase : 128 ∣ base.toNat) :
    (nodeSlotStart base).toNat = base.toNat + 64 := by
  have hlt := base.isLt
  have hnode : shiftLeft 1 (calculateRadixCeil Node.nodeBytes) = (32 : Word) := by decide
  have hslot : shiftLeft 1 (calculateRadixCeil Node.slotBytes) = (64 : Word) := by decide
  have hend : (base + 32 : Word).toNat = base.toNat + 32 := by
    rw [BitVec.toNat_add]
    change (base.toNat + 32) % 2 ^ 64 = _
    omega
  have hfits : (base + 32 : Word).toNat + (64 : Word).toNat - 1 < 2 ^ 64 := by
    rw [hend]
    change base.toNat + 32 + 64 - 1 < 2 ^ 64
    omega
  rw [nodeSlotStart, hnode, hslot, alignValue_toNat (by decide) hfits, hend, alignUp_eq]
  change (base.toNat + 32 + 64 - 1) / 64 * 64 = base.toNat + 64
  omega

theorem unit_dvd_of_allocated {info info' : GenericInfo} {address : Word} (hbits : bits.toNat < 64)
    (h : info.tryApplyAllocate bits = .ok (address, info')) : 2 ^ bits.toNat ∣ address.toNat := by
  have hunit := shiftLeft_one_toNat_of_lt hbits
  have hne : shiftLeft 1 bits ≠ 0 := ne_zero_of_toNat_pos (by rw [hunit]; exact Nat.two_pow_pos _)
  have hdvd : 2 ^ bits.toNat ∣ 2 ^ 64 := Nat.pow_dvd_pow 2 hbits.le
  simp only [GenericInfo.tryApplyAllocate] at h
  split at h
  case isTrue => cases h
  case isFalse =>
    obtain ⟨rfl, -⟩ : alignValue info.watermark (shiftLeft 1 bits) = address ∧
        info.applyAllocate bits = info' := by simpa using h
    rw [alignValue, if_neg hne, BitVec.toNat_mul, hunit]
    exact (Nat.dvd_mod_iff hdvd).mpr (Nat.dvd_mul_left _ _)

theorem dvd_physicalToVirtualAddress {address : Word} (h : 128 ∣ address.toNat) :
    128 ∣ (physicalToVirtualAddress address).toNat := by
  have hlow : ∀ word : Word, 128 ∣ word.toNat ↔ word &&& 127 = 0 := by
    intro word
    rw [← BitVec.toNat_inj, BitVec.toNat_and]
    change _ ↔ word.toNat &&& (2 ^ 7 - 1) = 0
    rw [Nat.and_two_pow_sub_one_eq_mod]
    omega
  rw [hlow] at h ⊢
  rw [physicalToVirtualAddress, or_and_distrib_right, h]
  decide

section

variable (h : calculateCapabilityMemorySizeBits p .node radix = some bits)
  (hradix : radix.toNat ≤ 56)
include h hradix

theorem dvd_unit_of_accepted : 128 ∣ 2 ^ bits.toNat := by
  obtain ⟨-, hcovers⟩ := objectBytes_le h (by simp) fun _ => hradix
  have hpos : 0 < 2 ^ radix.toNat := Nat.two_pow_pos _
  have hseven : 7 ≤ bits.toNat := by
    by_contra hsmall
    have := Nat.pow_le_pow_right (n := 2) (by decide) (show bits.toNat ≤ 6 by omega)
    simp only [objectBytes] at hcovers
    omega
  exact Nat.pow_dvd_pow 2 hseven

theorem nodeFootprint_of_radix_le : NodeFootprint radix bits := by
  obtain ⟨hbits, hcovers⟩ := objectBytes_le h (by simp) fun _ => hradix
  have hceil := bits_of_accepted h
  constructor
  · intro amount hamount
    simp only [nodeShiftAmounts, List.mem_append, List.mem_cons, List.not_mem_nil, or_false,
      Option.mem_toList] at hamount
    rcases hamount with ((rfl | rfl | rfl) | hround) | rfl
    · decide
    · decide
    · omega
    · exact roundUpShift_lt hradix hround
    · rwa [← hceil]
  · intro info info' address halloc
    have hlarge := dvd_unit_of_accepted h hradix
    have hstart := nodeSlotStart_toNat (dvd_physicalToVirtualAddress
      (hlarge.trans (unit_dvd_of_allocated hbits halloc)))
    simp only [objectBytes] at hcovers
    constructor
    · rw [hstart]
      change _ + 32 ≤ _
      omega
    · rw [hstart]
      change _ + 64 * _ ≤ _
      omega

end

end Footprint

/-- CONVERT accepts every radix below 58, and the Node fits for all but the last of them. -/
theorem nodeFootprint_iff (p : Platform) (radix bits : Word)
    (haccepted : calculateCapabilityMemorySizeBits p .node radix = some bits) :
    NodeFootprint radix bits ↔ radix ≠ 57 := by
  constructor
  · rintro hfootprint rfl
    exact absurd (hfootprint.shifts 64 (by decide)) (by decide)
  · intro hne
    apply nodeFootprint_of_radix_le haccepted
    have hlt := radix_lt_of_accepted haccepted
    have hneq : radix.toNat ≠ 57 := fun heq => hne (BitVec.eq_of_toNat_eq heq)
    omega

theorem nodeFootprint_iff_four :
    calculateCapabilityMemorySizeBits samplePlatform .node 4 = some 11 ∧
      (NodeFootprint 4 11 ↔ (4 : Word) ≠ 57) :=
  ⟨by decide, nodeFootprint_iff samplePlatform 4 11 (by decide)⟩

/-- A Node of `2 ^ 57` slots is given a single byte. -/
theorem nodeFootprint_radix_57 :
    calculateCapabilityMemorySizeBits samplePlatform .node 57 = some 0 ∧
      64 ∈ nodeShiftAmounts 57 ∧
      ∃ info info' address, GenericInfo.tryApplyAllocate info 0 = .ok (address, info') ∧
        ¬ NodeFits (physicalToVirtualAddress address) 57 0 := by
  refine ⟨by decide, by decide, ⟨0x1000, 12, false, 0x1000⟩, ⟨0x1000, 12, false, 0x1001⟩, 0x1000,
    by decide, fun hfits => ?_⟩
  exact absurd hfits.slots (by decide)

end A9N.Kernel
