import A9N.Framework.Ranges
import A9N.Kernel.Types
import A9N.Liba9n.Calculate

/-!
# The Generics of init

`kernel/boot/init.cpp` as far as it makes Generics of the memory map: an entry is split into a region
whose size is a power of two and a remainder, and so on with the remainder. The descriptors go to a
list of fixed size in the information page of init.
-/

namespace A9N.Kernel.Boot

open Liba9n

def pageSize : Word := 4096

def initialGenericCountMax : Nat := 128

def genericRecursiveSplittingMax : Nat := 7

structure GenericDescriptor where
  address : Word
  sizeRadix : BitVec 8
  isDevice : Bool
deriving DecidableEq, Repr

structure MemoryMapEntry where
  startPhysicalAddress : Word
  pageCount : Word
  type : MemoryMapType
deriving DecidableEq, Repr

/-- The entry that remains after the largest region has been split off, and the descriptor of that
region. -/
def tryConfigureGenericDescriptorFromMemoryMap (entry : MemoryMapEntry) :
    Except KernelError (MemoryMapEntry × GenericDescriptor) :=
  let start := entry.startPhysicalAddress
  if start % pageSize ≠ 0 then .error .illegalArgument
  else
    let memorySize := pageSize * entry.pageCount
    let radix := calculateRadixFloor memorySize
    let descriptor : GenericDescriptor :=
      { address := start, sizeRadix := radix.setWidth 8, isDevice := entry.type = .device }
    let remainStartRaw := alignValue (start + shiftLeft 1 radix) pageSize
    let remainEndRaw := start + pageSize * entry.pageCount
    let remainStart := alignValue remainStartRaw pageSize
    let remainEnd := alignValueFloor remainEndRaw pageSize
    let remainSize := alignValue (remainEnd - remainStart) pageSize
    if remainStart < start + shiftLeft 1 radix ∨ start + entry.pageCount * pageSize < remainEnd then
      .ok ({ startPhysicalAddress := 0, pageCount := 0, type := entry.type }, descriptor)
    else
      .ok ({ startPhysicalAddress := remainStart, pageCount := remainSize / pageSize,
             type := entry.type }, descriptor)

/-- The inner loop of `try_configure_init_generic_descriptors`: a remainder is split as long as it has
pages, at most `rounds` times. -/
def splitRemain : Nat → MemoryMapEntry → Except KernelError (List GenericDescriptor)
  | 0, _ => .ok []
  | rounds + 1, remain =>
    if remain.pageCount = 0 then .ok []
    else do
      let (remain, descriptor) ← tryConfigureGenericDescriptorFromMemoryMap remain
      let rest ← splitRemain rounds remain
      return descriptor :: rest

def splitEntry (rounds : Nat) (entry : MemoryMapEntry) :
    Except KernelError (List GenericDescriptor) := do
  let (remain, descriptor) ← tryConfigureGenericDescriptorFromMemoryMap entry
  let rest ← splitRemain rounds remain
  return descriptor :: rest

/-! ## Exact splitting -/

def MemoryMapEntry.region (entry : MemoryMapEntry) : Range Nat where
  start := entry.startPhysicalAddress.toNat
  stop := entry.startPhysicalAddress.toNat + pageSize.toNat * entry.pageCount.toNat

def GenericDescriptor.region (descriptor : GenericDescriptor) : Range Nat where
  start := descriptor.address.toNat
  stop := descriptor.address.toNat + 2 ^ descriptor.sizeRadix.toNat

def PageAligned (region : Range Nat) : Prop :=
  pageSize.toNat ∣ region.start ∧ pageSize.toNat ∣ region.stop

structure Splits (entry remain : MemoryMapEntry) (descriptor : GenericDescriptor) : Prop where
  descriptorAligned : PageAligned descriptor.region
  remainAligned : PageAligned remain.region
  union : ∀ point, entry.region.Contains point ↔
    descriptor.region.Contains point ∨ remain.region.Contains point
  disjoint : ∀ point, descriptor.region.Contains point → ¬ remain.region.Contains point

/-- An entry of whole pages in the address space. Its end may be the end of the address space. -/
structure MemoryMapEntry.Valid (entry : MemoryMapEntry) : Prop where
  aligned : pageSize.toNat ∣ entry.startPhysicalAddress.toNat
  fits : entry.region.stop ≤ 2 ^ 64

def MemoryMapEntry.Sizeable (entry : MemoryMapEntry) : Prop :=
  0 < entry.pageCount.toNat ∧ pageSize.toNat * entry.pageCount.toNat < 2 ^ 64

instance : DecidablePred MemoryMapEntry.Sizeable := fun _ => inferInstanceAs (Decidable (_ ∧ _))

theorem pageSize_toNat : pageSize.toNat = 4096 := rfl

theorem start_mod_pageSize {entry : MemoryMapEntry}
    (h : pageSize.toNat ∣ entry.startPhysicalAddress.toNat) :
    entry.startPhysicalAddress % pageSize = 0 := by
  apply BitVec.eq_of_toNat_eq
  rw [BitVec.toNat_umod, Nat.mod_eq_zero_of_dvd h]
  rfl

theorem twelve_le_log2 {size : Nat} (hpos : 0 < size) (hdvd : pageSize.toNat ∣ size) :
    12 ≤ size.log2 := by
  rw [Nat.le_log2 hpos.ne']
  exact Nat.le_of_dvd hpos hdvd

theorem align_of_dvd {word : Word} (hdvd : pageSize.toNat ∣ word.toNat) :
    alignValue word pageSize = word ∧ alignValueFloor word pageSize = word := by
  have hlt := word.isLt
  have hfits : word.toNat + pageSize.toNat - 1 < 2 ^ 64 := by
    obtain ⟨pages, hpages⟩ := hdvd
    rw [pageSize_toNat] at hpages ⊢
    omega
  exact ⟨alignValue_of_dvd (by decide) hdvd hfits, alignValueFloor_of_dvd (by decide) hdvd⟩

/-- One split of an entry whose size in bytes, as a word, is not zero. -/
theorem tryConfigureGenericDescriptorFromMemoryMap_eq {entry : MemoryMapEntry}
    (haligned : pageSize.toNat ∣ entry.startPhysicalAddress.toNat)
    (hpos : 0 < (pageSize * entry.pageCount).toNat) : ∃ remain descriptor,
      tryConfigureGenericDescriptorFromMemoryMap entry = .ok (remain, descriptor) ∧
      descriptor.address = entry.startPhysicalAddress ∧
      descriptor.sizeRadix.toNat = (pageSize * entry.pageCount).toNat.log2 ∧
      remain.startPhysicalAddress.toNat =
        (entry.startPhysicalAddress.toNat + 2 ^ descriptor.sizeRadix.toNat) % 2 ^ 64 ∧
      pageSize.toNat * remain.pageCount.toNat =
        (pageSize * entry.pageCount).toNat - 2 ^ descriptor.sizeRadix.toNat := by
  have hlt := (pageSize * entry.pageCount).isLt
  have hwhole : pageSize.toNat ∣ 2 ^ 64 := by decide
  have hsize : pageSize.toNat ∣ (pageSize * entry.pageCount).toNat := by
    rw [BitVec.toNat_mul]
    exact (Nat.dvd_mod_iff hwhole).mpr (Nat.dvd_mul_right _ _)
  -- the radix, and the power of two that it stands for
  have hradix : (calculateRadixFloor (pageSize * entry.pageCount)).toNat =
      (pageSize * entry.pageCount).toNat.log2 :=
    calculateRadixFloor_toNat (ne_zero_of_toNat_pos hpos)
  have hlow : 12 ≤ (pageSize * entry.pageCount).toNat.log2 := twelve_le_log2 hpos hsize
  have hhigh : (pageSize * entry.pageCount).toNat.log2 < 64 := (Nat.log2_lt hpos.ne').mpr hlt
  have hle : 2 ^ (pageSize * entry.pageCount).toNat.log2 ≤ (pageSize * entry.pageCount).toNat :=
    Nat.log2_self_le hpos.ne'
  have hpower : pageSize.toNat ∣ 2 ^ (pageSize * entry.pageCount).toNat.log2 :=
    Nat.pow_dvd_pow 2 hlow
  have hshift : (shiftLeft 1 (calculateRadixFloor (pageSize * entry.pageCount))).toNat =
      2 ^ (pageSize * entry.pageCount).toNat.log2 := by
    rw [shiftLeft_one_toNat_of_lt (by omega), hradix]
  have hwidth : ((calculateRadixFloor (pageSize * entry.pageCount)).setWidth 8).toNat =
      (pageSize * entry.pageCount).toNat.log2 := by
    rw [BitVec.toNat_setWidth, hradix]
    omega
  -- the two ends of the remainder
  have hstart : (entry.startPhysicalAddress +
      shiftLeft 1 (calculateRadixFloor (pageSize * entry.pageCount))).toNat =
      (entry.startPhysicalAddress.toNat +
        2 ^ (pageSize * entry.pageCount).toNat.log2) % 2 ^ 64 := by
    rw [BitVec.toNat_add, hshift]
  have hstop : (entry.startPhysicalAddress + pageSize * entry.pageCount).toNat =
      (entry.startPhysicalAddress.toNat + (pageSize * entry.pageCount).toNat) % 2 ^ 64 :=
    BitVec.toNat_add _ _
  have hdifference : (entry.startPhysicalAddress + pageSize * entry.pageCount -
      (entry.startPhysicalAddress +
        shiftLeft 1 (calculateRadixFloor (pageSize * entry.pageCount)))).toNat =
      (pageSize * entry.pageCount).toNat - 2 ^ (pageSize * entry.pageCount).toNat.log2 := by
    rw [BitVec.toNat_sub, hstart, hstop]
    omega
  have hceiled := (align_of_dvd (by
    rw [hstart]
    exact (Nat.dvd_mod_iff hwhole).mpr (Nat.dvd_add haligned hpower))).1
  have hfloored := (align_of_dvd (by
    rw [hstop]
    exact (Nat.dvd_mod_iff hwhole).mpr (Nat.dvd_add haligned hsize))).2
  have hpages := (align_of_dvd (by
    rw [hdifference]
    exact Nat.dvd_sub hsize hpower)).1
  rw [tryConfigureGenericDescriptorFromMemoryMap]
  simp only [start_mod_pageSize haligned, ne_eq, not_true_eq_false, if_false, hceiled, hfloored, hpages,
    BitVec.mul_comm entry.pageCount, BitVec.lt_irrefl, or_false]
  refine ⟨_, _, rfl, rfl, hwidth, ?_, ?_⟩
  · rw [hwidth, hstart]
  · rw [hwidth, BitVec.toNat_udiv, hdifference]
    exact Nat.mul_div_cancel' (Nat.dvd_sub hsize hpower)

section

variable {entry : MemoryMapEntry} (h : entry.Valid) (hsize : entry.Sizeable)
include h hsize

theorem splits_of_sizeable : ∃ remain descriptor,
      tryConfigureGenericDescriptorFromMemoryMap entry = .ok (remain, descriptor) ∧
      Splits entry remain descriptor ∧ remain.Valid ∧
      (remain.pageCount ≠ 0 → remain.Sizeable) := by
  have hpos : 0 < pageSize.toNat * entry.pageCount.toNat := Nat.mul_pos (by decide) hsize.1
  have hmemory : (pageSize * entry.pageCount).toNat = pageSize.toNat * entry.pageCount.toNat := by
    rw [BitVec.toNat_mul, Nat.mod_eq_of_lt hsize.2]
  obtain ⟨remain, descriptor, hrun, haddress, hradix, hstart, hpages⟩ :=
    tryConfigureGenericDescriptorFromMemoryMap_eq h.aligned (hmemory ▸ hpos)
  rw [hmemory] at hradix hpages
  have hle : 2 ^ descriptor.sizeRadix.toNat ≤ pageSize.toNat * entry.pageCount.toNat := by
    rw [hradix]
    exact Nat.log2_self_le hpos.ne'
  have hpower : pageSize.toNat ∣ 2 ^ descriptor.sizeRadix.toNat := by
    rw [hradix]
    exact Nat.pow_dvd_pow 2 (twelve_le_log2 hpos (Nat.dvd_mul_right _ _))
  have hwhole : pageSize.toNat ∣ 2 ^ 64 := by decide
  have hfits : entry.startPhysicalAddress.toNat + pageSize.toNat * entry.pageCount.toNat ≤ 2 ^ 64 :=
    h.fits
  have hlt := remain.startPhysicalAddress.isLt
  have hnonempty := Nat.two_pow_pos descriptor.sizeRadix.toNat
  have haligned : pageSize.toNat ∣ remain.startPhysicalAddress.toNat := by
    rw [hstart]
    exact (Nat.dvd_mod_iff hwhole).mpr (Nat.dvd_add h.aligned hpower)
  refine ⟨remain, descriptor, hrun, ⟨?_, ?_, ?_, ?_⟩, ⟨haligned, ?_⟩, fun hne => ⟨?_, ?_⟩⟩
  · rw [PageAligned, GenericDescriptor.region, haddress]
    exact ⟨h.aligned, Nat.dvd_add h.aligned hpower⟩
  · exact ⟨haligned, Nat.dvd_add haligned (Nat.dvd_mul_right _ _)⟩
  · intro point
    simp only [Range.Contains, MemoryMapEntry.region, GenericDescriptor.region, haddress, hpages]
    generalize 2 ^ descriptor.sizeRadix.toNat = size at *
    omega
  · intro point
    simp only [Range.Contains, MemoryMapEntry.region, GenericDescriptor.region, haddress, hpages]
    generalize 2 ^ descriptor.sizeRadix.toNat = size at *
    omega
  · simp only [MemoryMapEntry.region, hpages]
    generalize 2 ^ descriptor.sizeRadix.toNat = size at *
    omega
  · exact Nat.pos_of_ne_zero fun hzero => hne (BitVec.eq_of_toNat_eq hzero)
  · rw [hpages]
    exact (Nat.sub_le _ _).trans_lt hsize.2

end

theorem not_splits_of_not_sizeable {entry remain : MemoryMapEntry} {descriptor : GenericDescriptor}
    (h : entry.Valid) (hsize : ¬ entry.Sizeable)
    (hrun : tryConfigureGenericDescriptorFromMemoryMap entry = .ok (remain, descriptor)) :
    ¬ PageAligned descriptor.region := by
  have hfits : entry.startPhysicalAddress.toNat + pageSize.toNat * entry.pageCount.toNat ≤ 2 ^ 64 :=
    h.fits
  have hzero : pageSize * entry.pageCount = 0 := by
    apply BitVec.eq_of_toNat_eq
    rw [MemoryMapEntry.Sizeable, not_and, pageSize_toNat] at hsize
    rw [pageSize_toNat] at hfits
    rw [BitVec.toNat_mul, pageSize_toNat]
    show 4096 * entry.pageCount.toNat % 2 ^ 64 = 0
    omega
  have hdescriptor : descriptor.address = entry.startPhysicalAddress ∧ descriptor.sizeRadix = 0 := by
    have hradix : calculateRadixFloor (0 : Word) = 0 := rfl
    rw [tryConfigureGenericDescriptorFromMemoryMap] at hrun
    simp only [start_mod_pageSize h.aligned, ne_eq, not_true_eq_false, if_false, hzero, hradix] at hrun
    split at hrun
    · cases hrun
      exact ⟨rfl, rfl⟩
    · cases hrun
      exact ⟨rfl, rfl⟩
  have haligned := h.aligned
  intro hpages
  have hstop := hpages.2
  simp only [GenericDescriptor.region, hdescriptor.1, hdescriptor.2] at hstop
  have hone := (Nat.dvd_add_right haligned).mp hstop
  exact absurd hone (by decide)

structure Describes (entry : MemoryMapEntry) (descriptors : List GenericDescriptor) : Prop where
  within : ∀ descriptor ∈ descriptors, ∀ point, descriptor.region.Contains point →
    entry.region.Contains point
  apart : descriptors.Pairwise fun first second =>
    ∀ point, first.region.Contains point → ¬ second.region.Contains point

theorem Describes.cons {entry remain : MemoryMapEntry} {descriptor : GenericDescriptor}
    {rest : List GenericDescriptor} (hsplits : Splits entry remain descriptor)
    (h : Describes remain rest) : Describes entry (descriptor :: rest) where
  within := List.forall_mem_cons.mpr
    ⟨fun point hpoint => (hsplits.union point).mpr (.inl hpoint), fun other hother point hpoint =>
      (hsplits.union point).mpr (.inr (h.within other hother point hpoint))⟩
  apart := List.pairwise_cons.mpr ⟨fun other hother point hfirst hsecond =>
      hsplits.disjoint point hfirst (h.within other hother point hsecond), h.apart⟩

theorem splitRemain_describes (rounds : Nat) {remain : MemoryMapEntry} (h : remain.Valid)
    (hsize : remain.pageCount ≠ 0 → remain.Sizeable) :
    ∃ descriptors, splitRemain rounds remain = .ok descriptors ∧ Describes remain descriptors := by
  induction rounds generalizing remain with
  | zero => exact ⟨[], rfl, by simp, .nil⟩
  | succ rounds ih =>
    rw [splitRemain]
    by_cases hzero : remain.pageCount = 0
    · rw [if_pos hzero]
      exact ⟨[], rfl, by simp, .nil⟩
    · obtain ⟨next, descriptor, hrun, hsplits, hvalid, hnext⟩ := splits_of_sizeable h (hsize hzero)
      obtain ⟨rest, hrest, hdescribes⟩ := ih hvalid hnext
      rw [if_neg hzero, hrun]
      simp only [bind, Except.bind, hrest]
      exact ⟨_, rfl, hdescribes.cons hsplits⟩

/-- One split is exact, and repeated splitting describes no byte outside the entry and none twice. -/
structure SplitsExactly (entry : MemoryMapEntry) : Prop where
  once : ∃ remain descriptor,
    tryConfigureGenericDescriptorFromMemoryMap entry = .ok (remain, descriptor) ∧
      Splits entry remain descriptor
  repeatedly : ∀ rounds, ∃ descriptors,
    splitEntry rounds entry = .ok descriptors ∧ Describes entry descriptors

theorem splitsExactly_iff {entry : MemoryMapEntry} (h : entry.Valid) :
    SplitsExactly entry ↔ entry.Sizeable := by
  constructor
  · intro hexact
    obtain ⟨remain, descriptor, hrun, hsplits⟩ := hexact.once
    by_contra hsize
    exact not_splits_of_not_sizeable h hsize hrun hsplits.descriptorAligned
  · intro hsize
    obtain ⟨remain, descriptor, hrun, hsplits, hvalid, hnext⟩ := splits_of_sizeable h hsize
    refine ⟨⟨remain, descriptor, hrun, hsplits⟩, fun rounds => ?_⟩
    obtain ⟨rest, hrest, hdescribes⟩ := splitRemain_describes rounds hvalid hnext
    rw [splitEntry, hrun]
    simp only [bind, Except.bind, hrest]
    exact ⟨_, rfl, hdescribes.cons hsplits⟩

theorem splitsExactly_iff_threePages :
    SplitsExactly ⟨0x1000, 3, .free⟩ ↔ (⟨0x1000, 3, .free⟩ : MemoryMapEntry).Sizeable :=
  splitsExactly_iff ⟨by decide, by decide⟩

/-- An entry without pages is described as one byte and everything but the page behind it. -/
theorem not_splitsExactly_empty :
    (⟨0x1000, 0, .free⟩ : MemoryMapEntry).Valid ∧ ¬ SplitsExactly ⟨0x1000, 0, .free⟩ ∧
      tryConfigureGenericDescriptorFromMemoryMap ⟨0x1000, 0, .free⟩ =
        .ok (⟨0x2000, 2 ^ 52 - 1, .free⟩, ⟨0x1000, 0, false⟩) := by
  have hvalid : (⟨0x1000, 0, .free⟩ : MemoryMapEntry).Valid := ⟨by decide, by decide⟩
  have hrun : tryConfigureGenericDescriptorFromMemoryMap ⟨0x1000, 0, .free⟩ =
      .ok (⟨0x2000, 2 ^ 52 - 1, .free⟩, ⟨0x1000, 0, false⟩) := by decide +kernel
  refine ⟨hvalid, fun hexact => ?_, hrun⟩
  obtain ⟨remain, descriptor, hother, hsplits⟩ := hexact.once
  exact not_splits_of_not_sizeable hvalid (by decide) hother hsplits.descriptorAligned

end A9N.Kernel.Boot
