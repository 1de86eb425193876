import A9N.Kernel.Boot.Init

/-!
# The list of init's Generics

`try_configure_init_generic_descriptors` writes the descriptors of all entries behind each other. The
count that init reads is set once for each entry, behind its first descriptor.
-/

namespace A9N.Kernel.Boot

open Liba9n

/-- The part of `init_info` that is written: the writes to `generic_list` in their order, each with its
index, and the published count. -/
structure InitGenerics where
  genericList : List (GenericDescriptor × Nat) := []
  genericListCount : Nat
deriving DecidableEq, Repr

def InitGenerics.write (info : InitGenerics) (slotIndex : Nat) (descriptor : GenericDescriptor) :
    InitGenerics :=
  { info with genericList := info.genericList ++ [(descriptor, slotIndex)] }

def configureRemain :
    Nat → MemoryMapEntry → Nat → InitGenerics → Except KernelError (Nat × InitGenerics)
  | 0, _, slotIndex, info => .ok (slotIndex, info)
  | rounds + 1, remain, slotIndex, info =>
    if remain.pageCount = 0 then .ok (slotIndex, info)
    else do
      let (remain, descriptor) ← tryConfigureGenericDescriptorFromMemoryMap remain
      configureRemain rounds remain (slotIndex + 1) (info.write slotIndex descriptor)

def configureEntries :
    List MemoryMapEntry → Nat → InitGenerics → Except KernelError InitGenerics
  | [], _, info => .ok info
  | entry :: rest, slotIndex, info =>
    if entry.type = .reserved then configureEntries rest slotIndex info
    else do
      let (remain, descriptor) ← tryConfigureGenericDescriptorFromMemoryMap entry
      let info := { info.write slotIndex descriptor with genericListCount := slotIndex + 1 }
      let (slotIndex, info) ←
        configureRemain genericRecursiveSplittingMax remain (slotIndex + 1) info
      configureEntries rest slotIndex info

def tryConfigureInitGenericDescriptors (memoryMap : List MemoryMapEntry) (info : InitGenerics) :
    Except KernelError InitGenerics :=
  if initialGenericCountMax < memoryMap.length then .error .illegalArgument
  else configureEntries memoryMap 0 info

/-! ## What is written -/

def carve (memoryMap : List MemoryMapEntry) : Except KernelError (List (List GenericDescriptor)) :=
  (memoryMap.filter (·.type ≠ .reserved)).mapM (splitEntry genericRecursiveSplittingMax)

def published : Nat → Nat → List (List GenericDescriptor) → Nat
  | _, count, [] => count
  | slotIndex, _, group :: rest => published (slotIndex + group.length) (slotIndex + 1) rest

theorem configureRemain_eq (rounds : Nat) (remain : MemoryMapEntry) (slotIndex : Nat)
    (info : InitGenerics) :
    configureRemain rounds remain slotIndex info =
      (splitRemain rounds remain).map fun descriptors => (slotIndex + descriptors.length,
        { info with genericList := info.genericList ++ descriptors.zipIdx slotIndex }) := by
  induction rounds generalizing remain slotIndex info with
  | zero => simp [configureRemain, splitRemain, Except.map]
  | succ rounds ih =>
    rw [configureRemain, splitRemain]
    by_cases hzero : remain.pageCount = 0
    · simp [hzero, Except.map]
    · rw [if_neg hzero, if_neg hzero]
      cases tryConfigureGenericDescriptorFromMemoryMap remain with
      | error error => rfl
      | ok split =>
        simp only [bind, Except.bind, ih]
        cases splitRemain rounds split.1 with
        | error error => rfl
        | ok descriptors =>
          simp [Except.map, InitGenerics.write, pure, Except.pure, Nat.add_assoc, Nat.add_comm 1]

theorem configureEntries_eq (memoryMap : List MemoryMapEntry) (slotIndex : Nat)
    (info : InitGenerics) :
    configureEntries memoryMap slotIndex info = (carve memoryMap).map fun groups =>
      { genericList := info.genericList ++ groups.flatten.zipIdx slotIndex
        genericListCount := published slotIndex info.genericListCount groups } := by
  induction memoryMap generalizing slotIndex info with
  | nil => simp [configureEntries, carve, Except.map, published, pure, Except.pure]
  | cons entry rest ih =>
    rw [configureEntries]
    by_cases hreserved : entry.type = .reserved
    · rw [if_pos hreserved, ih]
      simp [carve, hreserved]
    · have hcarve : carve (entry :: rest) =
          (splitEntry genericRecursiveSplittingMax entry).bind fun group =>
            (carve rest).map fun groups => group :: groups := by
        rw [carve, List.filter_cons_of_pos (by simpa using hreserved), List.mapM_cons]
        cases splitEntry genericRecursiveSplittingMax entry with
        | error error => rfl
        | ok group =>
          rw [carve]
          cases (rest.filter (·.type ≠ .reserved)).mapM
            (splitEntry genericRecursiveSplittingMax) <;> rfl
      rw [if_neg hreserved, hcarve, splitEntry]
      cases tryConfigureGenericDescriptorFromMemoryMap entry with
      | error error => rfl
      | ok split =>
        simp only [bind, Except.bind, configureRemain_eq]
        cases splitRemain genericRecursiveSplittingMax split.1 with
        | error error => rfl
        | ok descriptors =>
          simp only [Except.map, ih]
          cases carve rest with
          | error error => rfl
          | ok groups =>
            simp [InitGenerics.write, pure, Except.pure, published, List.zipIdx_append,
              Nat.add_assoc, Nat.add_comm 1]

theorem published_getLast (slotIndex count : Nat) {groups : List (List GenericDescriptor)}
    {last : List GenericDescriptor} (h : groups.getLast? = some last) :
    published slotIndex count groups + last.length = slotIndex + groups.flatten.length + 1 := by
  induction groups generalizing slotIndex count with
  | nil => simp at h
  | cons group rest ih =>
    rw [published]
    cases rest with
    | nil =>
      obtain rfl : group = last := by simpa using h
      simp [published]
      omega
    | cons next others =>
      rw [ih _ _ (by simpa using h)]
      simp
      omega

/-! ## How many descriptors an entry makes -/

/-- The set bits of a number below `2 ^ 52`. -/
def setBits (number : Nat) : Finset Nat := (Finset.range 52).filter fun bit => number.testBit bit

private theorem setBits_split {number : Nat} (hpos : 0 < number) (hlt : number < 2 ^ 52) :
    setBits number = insert number.log2 (setBits (number - 2 ^ number.log2)) ∧
      number.log2 ∉ setBits (number - 2 ^ number.log2) := by
  have hle : 2 ^ number.log2 ≤ number := Nat.log2_self_le hpos.ne'
  have hhigh : number < 2 ^ (number.log2 + 1) := Nat.lt_log2_self
  have hrange : number.log2 < 52 := (Nat.log2_lt hpos.ne').mpr hlt
  obtain ⟨rest, hrest⟩ : ∃ rest, number = 2 ^ number.log2 + rest := ⟨_, (Nat.add_sub_cancel' hle).symm⟩
  generalize number.log2 = top at *
  subst hrest
  rw [Nat.pow_succ] at hhigh
  have hsmall : rest < 2 ^ top := by omega
  rw [Nat.add_sub_cancel_left]
  have htop : rest.testBit top = false := Nat.testBit_lt_two_pow hsmall
  constructor
  · ext bit
    simp only [setBits, Finset.mem_filter, Finset.mem_range, Finset.mem_insert]
    rcases Nat.lt_trichotomy bit top with hbit | rfl | hbit
    · rw [Nat.testBit_two_pow_add_gt hbit]
      simp [hbit.ne]
    · simp [Nat.testBit_two_pow_add_eq, htop, hrange]
    · have hpow : 2 ^ (top + 1) ≤ 2 ^ bit := Nat.pow_le_pow_right (by decide) hbit
      rw [Nat.pow_succ] at hpow
      rw [Nat.testBit_lt_two_pow (by omega), Nat.testBit_lt_two_pow (by omega)]
      simp [hbit.ne']
  · simp [setBits, htop]

theorem setBits_card_split {number : Nat} (hpos : 0 < number) (hlt : number < 2 ^ 52) :
    (setBits number).card = (setBits (number - 2 ^ number.log2)).card + 1 := by
  obtain ⟨hinsert, hnew⟩ := setBits_split hpos hlt
  rw [hinsert, Finset.card_insert_of_notMem hnew]

theorem setBits_card_eq_zero {number : Nat} (hlt : number < 2 ^ 52) :
    (setBits number).card = 0 ↔ number = 0 := by
  constructor
  · intro hcard
    by_contra hne
    have := setBits_card_split (Nat.pos_of_ne_zero hne) hlt
    omega
  · rintro rfl
    rfl

theorem setBits_card_eq_one {number : Nat} (hlt : number < 2 ^ 52) :
    (setBits number).card = 1 ↔ ∃ bit, number = 2 ^ bit := by
  constructor
  · intro hcard
    rcases Nat.eq_zero_or_pos number with rfl | hpos
    · rw [(setBits_card_eq_zero hlt).mpr rfl] at hcard
      omega
    · have hsplit := setBits_card_split hpos hlt
      have hle : 2 ^ number.log2 ≤ number := Nat.log2_self_le hpos.ne'
      have hlower : number - 2 ^ number.log2 < 2 ^ 52 := (Nat.sub_le _ _).trans_lt hlt
      have hrest := (setBits_card_eq_zero hlower).mp (by omega)
      exact ⟨number.log2, by omega⟩
  · rintro ⟨bit, rfl⟩
    rw [setBits_card_split (Nat.two_pow_pos bit) hlt, Nat.log2_two_pow, Nat.sub_self]
    rfl

namespace MemoryMapEntry

/-- The page count as far as the size in bytes, a word, keeps it. -/
def pages (entry : MemoryMapEntry) : Nat := entry.pageCount.toNat % 2 ^ 52

/-- The number of descriptors: one for each set bit of the page count, at most eight. The remainder of
an entry without pages wraps around, unless the entry is at the last page of the address space. -/
def parts (entry : MemoryMapEntry) : Nat :=
  if entry.pages ≠ 0 then min (setBits entry.pages).card (genericRecursiveSplittingMax + 1)
  else if entry.startPhysicalAddress.toNat + pageSize.toNat < 2 ^ 64 then
    genericRecursiveSplittingMax + 1
  else 1

/-- An entry that is not split. -/
def Whole (entry : MemoryMapEntry) : Prop :=
  (∃ bit, entry.pages = 2 ^ bit) ∨
    entry.pages = 0 ∧ 2 ^ 64 ≤ entry.startPhysicalAddress.toNat + pageSize.toNat

theorem pages_lt (entry : MemoryMapEntry) : entry.pages < 2 ^ 52 := Nat.mod_lt _ (by decide)

theorem parts_eq_one_iff (entry : MemoryMapEntry) : entry.parts = 1 ↔ entry.Whole := by
  have hpower := setBits_card_eq_one entry.pages_lt
  have hzero := setBits_card_eq_zero entry.pages_lt
  rw [parts, Whole, ← hpower, genericRecursiveSplittingMax]
  split_ifs <;> omega

theorem size_toNat (entry : MemoryMapEntry) :
    (pageSize * entry.pageCount).toNat = pageSize.toNat * entry.pages := by
  rw [BitVec.toNat_mul, pages, pageSize_toNat]
  show 4096 * entry.pageCount.toNat % 2 ^ 64 = _
  omega

end MemoryMapEntry

private theorem log2_pages {pages : Nat} (hpos : 0 < pages) :
    2 ^ (pageSize.toNat * pages).log2 = pageSize.toNat * 2 ^ pages.log2 := by
  have hlog : (pageSize.toNat * pages).log2 = pages.log2 + 12 := by
    have hle := Nat.log2_self_le hpos.ne'
    have hlt : pages < 2 ^ (pages.log2 + 1) := Nat.lt_log2_self
    rw [pageSize_toNat, Nat.log2_eq_iff (by omega), Nat.pow_add, Nat.add_right_comm, Nat.pow_add]
    omega
  rw [hlog, Nat.pow_add, Nat.mul_comm, pageSize_toNat]

/-- A split takes the highest bit of the page count away. -/
theorem split_pages {entry : MemoryMapEntry}
    (haligned : pageSize.toNat ∣ entry.startPhysicalAddress.toNat) (hpos : 0 < entry.pages) :
    ∃ remain descriptor,
      tryConfigureGenericDescriptorFromMemoryMap entry = .ok (remain, descriptor) ∧
      pageSize.toNat ∣ remain.startPhysicalAddress.toNat ∧
      remain.pageCount.toNat = entry.pages - 2 ^ entry.pages.log2 := by
  have hsize : 0 < (pageSize * entry.pageCount).toNat := by
    rw [entry.size_toNat]
    exact Nat.mul_pos (by decide) hpos
  obtain ⟨remain, descriptor, hrun, -, hradix, hstart, hpages⟩ :=
    tryConfigureGenericDescriptorFromMemoryMap_eq haligned hsize
  rw [entry.size_toNat] at hradix hpages
  rw [hradix, log2_pages hpos] at hstart hpages
  refine ⟨remain, descriptor, hrun, ?_, ?_⟩
  · rw [hstart]
    exact (Nat.dvd_mod_iff (by decide)).mpr (Nat.dvd_add haligned (Nat.dvd_mul_right _ _))
  · rw [pageSize_toNat] at hpages
    omega

theorem splitRemain_length (rounds : Nat) {remain : MemoryMapEntry}
    {descriptors : List GenericDescriptor}
    (haligned : pageSize.toNat ∣ remain.startPhysicalAddress.toNat)
    (hlt : remain.pageCount.toNat < 2 ^ 52) (hrun : splitRemain rounds remain = .ok descriptors) :
    descriptors.length = min (setBits remain.pageCount.toNat).card rounds := by
  induction rounds generalizing remain descriptors with
  | zero =>
    cases hrun
    exact (Nat.min_zero _).symm
  | succ rounds ih =>
    rw [splitRemain] at hrun
    by_cases hzero : remain.pageCount = 0
    · rw [if_pos hzero] at hrun
      cases hrun
      rw [hzero]
      rfl
    · have hpages : remain.pages = remain.pageCount.toNat := Nat.mod_eq_of_lt hlt
      have hpos : 0 < remain.pages := by
        rw [hpages]
        exact Nat.pos_of_ne_zero fun h => hzero (BitVec.eq_of_toNat_eq h)
      obtain ⟨next, descriptor, hsplit, hnext, hcount⟩ := split_pages haligned hpos
      rw [if_neg hzero, hsplit] at hrun
      simp only [bind, Except.bind] at hrun
      cases hrest : splitRemain rounds next with
      | error error => simp [hrest] at hrun
      | ok rest =>
        rw [hrest] at hrun
        cases hrun
        have hlength := ih hnext (hcount ▸ (Nat.sub_le _ _).trans_lt remain.pages_lt) hrest
        rw [hpages] at hpos hcount
        rw [List.length_cons, hlength, hcount, setBits_card_split hpos hlt]
        omega

/-- The remainder of an entry without pages is everything behind its first page. -/
private theorem split_empty {entry : MemoryMapEntry}
    (haligned : pageSize.toNat ∣ entry.startPhysicalAddress.toNat) (hzero : entry.pages = 0) :
    ∃ remain descriptor,
      tryConfigureGenericDescriptorFromMemoryMap entry = .ok (remain, descriptor) ∧
      pageSize.toNat ∣ remain.startPhysicalAddress.toNat ∧
      remain.pageCount.toNat =
        if entry.startPhysicalAddress.toNat + pageSize.toNat < 2 ^ 64 then 2 ^ 52 - 1 else 0 := by
  have hsize : pageSize * entry.pageCount = 0 := by
    apply BitVec.eq_of_toNat_eq
    rw [entry.size_toNat, hzero]
    rfl
  have hradix : calculateRadixFloor (0 : Word) = 0 := rfl
  have hshift : shiftLeft 1 (0 : Word) = 1 := rfl
  have hfloor := (align_of_dvd haligned).2
  rw [tryConfigureGenericDescriptorFromMemoryMap]
  simp only [start_mod_pageSize haligned, ne_eq, not_true_eq_false, if_false, hsize, hradix, hshift,
    BitVec.mul_comm entry.pageCount, add_zero, hfloor, BitVec.lt_irrefl, or_false]
  obtain ⟨start, count, type⟩ := entry
  dsimp only at haligned ⊢
  by_cases hroom : start.toNat + pageSize.toNat < 2 ^ 64
  · have hone : (start + 1).toNat = start.toNat + 1 := by
      rw [BitVec.toNat_add]
      exact Nat.mod_eq_of_lt (by rw [pageSize_toNat] at hroom; show start.toNat + 1 < _; omega)
    have hnext : (alignValue (start + 1) pageSize).toNat = start.toNat + pageSize.toNat := by
      rw [alignValue_toNat (by decide) (by rw [hone]; omega), hone, alignUp_eq, pageSize_toNat]
      rw [pageSize_toNat] at haligned
      omega
    have hdvd : pageSize.toNat ∣ (alignValue (start + 1) pageSize).toNat := by
      rw [hnext]
      exact Nat.dvd_add haligned (Nat.dvd_refl _)
    have hword : alignValue (start + 1) pageSize = start + pageSize := by
      apply BitVec.eq_of_toNat_eq
      rw [hnext, BitVec.toNat_add, Nat.mod_eq_of_lt hroom]
    rw [(align_of_dvd hdvd).1, if_neg (by rw [BitVec.not_lt, BitVec.le_def, hnext, hone, pageSize_toNat]; omega),
      if_pos hroom]
    refine ⟨_, _, rfl, hdvd, ?_⟩
    have hdifference : start - (start + pageSize) = -pageSize := by ring
    rw [hword, hdifference]
    rfl
  · have hstart : start = BitVec.ofNat 64 (2 ^ 64 - 4096) := by
      apply BitVec.eq_of_toNat_eq
      have := start.isLt
      rw [pageSize_toNat] at haligned hroom
      show _ = 2 ^ 64 - 4096
      omega
    subst hstart
    rw [if_neg hroom]
    exact ⟨⟨0, 0, type⟩, _, if_pos (by decide), Nat.dvd_zero _, rfl⟩

theorem splitEntry_length {entry : MemoryMapEntry} {group : List GenericDescriptor}
    (hrun : splitEntry genericRecursiveSplittingMax entry = .ok group) :
    group.length = entry.parts := by
  have haligned : pageSize.toNat ∣ entry.startPhysicalAddress.toNat := by
    by_contra hnot
    have hne : entry.startPhysicalAddress % pageSize ≠ 0 := by
      intro hmod
      refine hnot (Nat.dvd_of_mod_eq_zero ?_)
      rw [← BitVec.toNat_umod, hmod]
      rfl
    rw [splitEntry, tryConfigureGenericDescriptorFromMemoryMap, if_pos hne] at hrun
    cases hrun
  have hrest : ∀ remain descriptor,
      tryConfigureGenericDescriptorFromMemoryMap entry = .ok (remain, descriptor) →
      pageSize.toNat ∣ remain.startPhysicalAddress.toNat → remain.pageCount.toNat < 2 ^ 52 →
      group.length = min (setBits remain.pageCount.toNat).card genericRecursiveSplittingMax + 1 := by
    intro remain descriptor hsplit hnext hlt
    rw [splitEntry, hsplit] at hrun
    simp only [bind, Except.bind] at hrun
    cases hremain : splitRemain genericRecursiveSplittingMax remain with
    | error error => simp [hremain] at hrun
    | ok rest =>
      rw [hremain] at hrun
      cases hrun
      rw [List.length_cons, splitRemain_length _ hnext hlt hremain]
  rw [MemoryMapEntry.parts]
  by_cases hpages : entry.pages = 0
  · obtain ⟨remain, descriptor, hsplit, hnext, hcount⟩ := split_empty haligned hpages
    rw [if_neg (not_not.mpr hpages), hrest remain descriptor hsplit hnext
      (by rw [hcount]; split_ifs <;> decide), hcount]
    have hall : (setBits (2 ^ 52 - 1)).card = 52 := by decide +kernel
    split_ifs
    · rw [hall]
      rfl
    · rfl
  · have hpos := Nat.pos_of_ne_zero hpages
    obtain ⟨remain, descriptor, hsplit, hnext, hcount⟩ := split_pages haligned hpos
    have hlt : remain.pageCount.toNat < 2 ^ 52 := hcount ▸ (Nat.sub_le _ _).trans_lt entry.pages_lt
    rw [if_pos hpages, hrest remain descriptor hsplit hnext hlt, hcount,
      setBits_card_split hpos entry.pages_lt]
    omega

/-- The entries that are carved. -/
def carved (memoryMap : List MemoryMapEntry) : List MemoryMapEntry :=
  memoryMap.filter (·.type ≠ .reserved)

private theorem mapM_lengths {entries : List MemoryMapEntry} {groups : List (List GenericDescriptor)}
    (h : entries.mapM (splitEntry genericRecursiveSplittingMax) = .ok groups) :
    groups.map List.length = entries.map MemoryMapEntry.parts := by
  induction entries generalizing groups with
  | nil =>
    cases h
    rfl
  | cons entry rest ih =>
    rw [List.mapM_cons] at h
    simp only [bind, Except.bind] at h
    cases hgroup : splitEntry genericRecursiveSplittingMax entry with
    | error error => simp [hgroup] at h
    | ok group =>
      rw [hgroup] at h
      dsimp only at h
      cases hrest : rest.mapM (splitEntry genericRecursiveSplittingMax) with
      | error error => simp [hrest] at h
      | ok others =>
        rw [hrest] at h
        cases h
        rw [List.map_cons, List.map_cons, ih hrest, splitEntry_length hgroup]

theorem carve_lengths {memoryMap : List MemoryMapEntry} {groups : List (List GenericDescriptor)}
    (h : carve memoryMap = .ok groups) :
    groups.map List.length = (carved memoryMap).map MemoryMapEntry.parts :=
  mapM_lengths h

/-! ## Completeness -/

/-- Each write is in the list, the count is the number of writes, and what was carved is found below
the count. -/
structure InitGenerics.Complete (info : InitGenerics) (groups : List (List GenericDescriptor)) :
    Prop where
  bounded : ∀ write ∈ info.genericList, write.2 < initialGenericCountMax
  counted : info.genericListCount = info.genericList.length
  listed : ∀ group ∈ groups, ∀ descriptor ∈ group,
    ∃ index < info.genericListCount, (descriptor, index) ∈ info.genericList

/-- The last entry that is not reserved is not split. If there is none the count is the one that was in
the page before. -/
def LastWhole (count : Nat) (memoryMap : List MemoryMapEntry) : Prop :=
  match (carved memoryMap).getLast? with
  | none => count = 0
  | some entry => entry.Whole

theorem published_eq_iff (count : Nat) {memoryMap : List MemoryMapEntry}
    {groups : List (List GenericDescriptor)} (h : carve memoryMap = .ok groups) :
    published 0 count groups = groups.flatten.length ↔ LastWhole count memoryMap := by
  have hlengths := congrArg List.getLast? (carve_lengths h)
  rw [List.getLast?_map, List.getLast?_map] at hlengths
  rw [LastWhole]
  cases hlast : groups.getLast? with
  | none =>
    rw [hlast, Option.map_none, eq_comm, Option.map_eq_none_iff] at hlengths
    rw [List.getLast?_eq_none_iff.mp hlast, hlengths]
    simp [published]
  | some last =>
    rw [hlast, Option.map_some, eq_comm, Option.map_eq_some_iff] at hlengths
    obtain ⟨entry, hentry, hparts⟩ := hlengths
    have hcount := published_getLast 0 count hlast
    rw [hentry]
    show published 0 count groups = groups.flatten.length ↔ entry.Whole
    rw [← entry.parts_eq_one_iff, hparts]
    omega

theorem bounded_iff (descriptors : List GenericDescriptor) :
    (∀ write ∈ descriptors.zipIdx, write.2 < initialGenericCountMax) ↔
      descriptors.length ≤ initialGenericCountMax := by
  constructor
  · intro h
    by_contra hlong
    have hlt : initialGenericCountMax < descriptors.length := Nat.not_le.mp hlong
    exact Nat.lt_irrefl _ (h (descriptors[initialGenericCountMax], initialGenericCountMax)
      (List.mem_zipIdx_iff_getElem?.mpr (by simp)))
  · intro h write hwrite
    have := List.snd_lt_of_mem_zipIdx hwrite
    omega

/-- The list is complete exactly if it has room for the parts of all entries and the last entry that is
carved is not split. -/
theorem initGenerics_complete_iff {memoryMap : List MemoryMapEntry} {count : Nat}
    {info : InitGenerics}
    (h : tryConfigureInitGenericDescriptors memoryMap { genericListCount := count } = .ok info) :
    ∃ groups, carve memoryMap = .ok groups ∧
      (info.Complete groups ↔
        ((carved memoryMap).map MemoryMapEntry.parts).sum ≤ initialGenericCountMax ∧
          LastWhole count memoryMap) := by
  rw [tryConfigureInitGenericDescriptors] at h
  split at h
  · cases h
  · rw [configureEntries_eq] at h
    cases hcarve : carve memoryMap with
    | error error => simp [hcarve, Except.map] at h
    | ok groups =>
      obtain rfl : info = { genericList := groups.flatten.zipIdx,
                            genericListCount := published 0 count groups } := by
        simpa [hcarve, Except.map] using h.symm
      refine ⟨groups, rfl, ?_⟩
      rw [← carve_lengths hcarve, ← List.length_flatten]
      constructor
      · intro hcomplete
        have hcounted := hcomplete.counted
        rw [List.length_zipIdx] at hcounted
        exact ⟨(bounded_iff _).mp hcomplete.bounded, (published_eq_iff _ hcarve).mp hcounted⟩
      · intro ⟨hroom, hlast⟩
        have hcounted := (published_eq_iff count hcarve).mpr hlast
        refine ⟨(bounded_iff _).mpr hroom, by rw [List.length_zipIdx]; exact hcounted, ?_⟩
        intro group hgroup descriptor hdescriptor
        obtain ⟨index, hindex, heq⟩ := List.mem_iff_getElem.mp
          (List.mem_flatten.mpr ⟨group, hgroup, hdescriptor⟩)
        refine ⟨index, by rw [hcounted]; exact hindex, ?_⟩
        exact List.mem_zipIdx_iff_getElem?.mpr (List.getElem?_eq_some_iff.mpr ⟨hindex, heq⟩)

/-- Three pages are split in two, four pages are not, and the list is complete. -/
theorem initGenerics_complete_iff_sevenPages :
    ∃ groups, carve [⟨0x1000, 3, .free⟩, ⟨0x8000, 4, .device⟩] = .ok groups ∧
      InitGenerics.Complete
        ⟨[(⟨0x1000, 13, false⟩, 0), (⟨0x3000, 12, false⟩, 1), (⟨0x8000, 14, true⟩, 2)], 3⟩ groups := by
  obtain ⟨groups, hcarve, hiff⟩ := @initGenerics_complete_iff
    [⟨0x1000, 3, .free⟩, ⟨0x8000, 4, .device⟩] 0
    ⟨[(⟨0x1000, 13, false⟩, 0), (⟨0x3000, 12, false⟩, 1), (⟨0x8000, 14, true⟩, 2)], 3⟩
    (by decide +kernel)
  exact ⟨groups, hcarve, hiff.mpr ⟨by decide +kernel, .inl ⟨2, by decide⟩⟩⟩

/-- The second descriptor of the last entry is written, but not counted. -/
theorem initGenerics_threePages :
    tryConfigureInitGenericDescriptors [⟨0x1000, 3, .free⟩] { genericListCount := 0 } =
        .ok ⟨[(⟨0x1000, 13, false⟩, 0), (⟨0x3000, 12, false⟩, 1)], 1⟩ ∧
      carve [⟨0x1000, 3, .free⟩] = .ok [[⟨0x1000, 13, false⟩, ⟨0x3000, 12, false⟩]] ∧
      ¬ InitGenerics.Complete ⟨[(⟨0x1000, 13, false⟩, 0), (⟨0x3000, 12, false⟩, 1)], 1⟩
        [[⟨0x1000, 13, false⟩, ⟨0x3000, 12, false⟩]] := by
  refine ⟨by decide +kernel, by decide +kernel, fun hcomplete => ?_⟩
  exact absurd hcomplete.counted (by decide)

end A9N.Kernel.Boot
