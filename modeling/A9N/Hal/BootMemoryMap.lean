import A9N.Hal.Aarch64Boot

/-!
# The tables of the AArch64 boot protocol

The tables hold ranges of pages and drop what comes when they are full. A table to which ranges
are added one after another holds the pages of the first of them.
-/

namespace A9N.Hal.Aarch64Boot

open List

variable {start stop point : Nat} {ranges : List PhysicalRange} {P : Nat → Prop}

/-! ## Pages -/

theorem alignDown_le (value : Nat) : alignDown value ≤ value := Nat.div_mul_le_self _ _

theorem le_alignUp {value : Nat} (h : value ≤ 2 ^ 64 - pageSize) : value ≤ alignUp value := by
  unfold alignUp alignDown
  unfold pageSize at *
  omega

/-- The pages of a range. The last ones may wrap around and leave none. -/
def pages (start stop : Nat) : List PhysicalRange :=
  if alignUp stop ≤ alignDown start then [] else [⟨alignDown start, alignUp stop⟩]

theorem pages_covers (hstop : stop ≤ 2 ^ 64 - pageSize)
    (hpoint : (⟨start, stop⟩ : PhysicalRange).Contains point) :
    Range.Covers (pages start stop) point := by
  have hdown : alignDown start ≤ point := (alignDown_le start).trans hpoint.1
  have hup : point < alignUp stop := hpoint.2.trans_le (le_alignUp hstop)
  rw [pages, if_neg (by omega)]
  exact ⟨⟨alignDown start, alignUp stop⟩, mem_singleton_self _, hdown, hup⟩

/-! ## Tables -/

theorem addRange_take (ranges : List PhysicalRange) (start stop : Nat) :
    addRange (ranges.take rangeCapacity) start stop =
      (ranges ++ pages start stop).take rangeCapacity := by
  unfold addRange pages
  by_cases hpages : alignUp stop ≤ alignDown start
  · simp [hpages]
  · rcases Nat.lt_or_ge ranges.length rangeCapacity with hroom | hfull
    · rw [take_of_length_le hroom.le, if_neg (by omega), if_neg hpages, take_of_length_le]
      rw [length_append, length_singleton]
      omega
    · rw [if_pos (.inr (by simpa using hfull)), take_append_of_le_length hfull]

def declaredRange (entry : Nat × Nat) : PhysicalRange := ⟨entry.1, entry.1 + entry.2⟩

/-- The pages of a declared range. Ranges that leave the direct map are dropped whole. -/
def declaredPages (entry : Nat × Nat) : List PhysicalRange :=
  if entry.1 < directMapEnd ∧ entry.2 ≠ 0 ∧ entry.2 ≤ directMapEnd - entry.1 then
    pages entry.1 (entry.1 + entry.2)
  else []

theorem addDeclaredRange_take (ranges : List PhysicalRange) (entry : Nat × Nat) :
    addDeclaredRange (ranges.take rangeCapacity) entry.1 entry.2 =
      (ranges ++ declaredPages entry).take rangeCapacity := by
  unfold addDeclaredRange declaredPages
  split
  · exact addRange_take ranges _ _
  · rw [append_nil]

theorem addDeclaredRanges_take (ranges : List PhysicalRange) (entries : List (Nat × Nat)) :
    addDeclaredRanges (ranges.take rangeCapacity) entries =
      (ranges ++ entries.flatMap declaredPages).take rangeCapacity := by
  induction entries generalizing ranges with
  | nil => simp [addDeclaredRanges]
  | cons entry rest ih =>
    rw [addDeclaredRanges, foldl_cons, addDeclaredRange_take, flatMap_cons, ← append_assoc]
    exact ih (ranges ++ declaredPages entry)

theorem addDeclaredRanges_append (ranges : List PhysicalRange) (first second : List (Nat × Nat)) :
    addDeclaredRanges ranges (first ++ second) =
      addDeclaredRanges (addDeclaredRanges ranges first) second := foldl_append

theorem declaredPages_covers {entry : Nat × Nat}
    (hfits : (declaredRange entry).stop ≤ directMapEnd)
    (hpoint : (declaredRange entry).Contains point) :
    Range.Covers (declaredPages entry) point := by
  have hstop : entry.1 + entry.2 ≤ directMapEnd := hfits
  have hlt : entry.1 < entry.1 + entry.2 := hpoint.1.trans_lt hpoint.2
  rw [declaredPages, if_pos (by omega)]
  exact pages_covers (hstop.trans (by decide)) hpoint

/-! ## Sorting and merging -/

theorem sortAndMergeRanges_sorted (ranges : List PhysicalRange) :
    (sortAndMergeRanges ranges).Pairwise fun a b => a.start ≤ b.start :=
  Range.merge_sorted (exchangeSort_sorted Range.start ranges)

theorem sortAndMergeRanges_covers :
    Range.Covers (sortAndMergeRanges ranges) point ↔ Range.Covers ranges point := by
  have hperm := exchangeSort_perm Range.start ranges
  rw [sortAndMergeRanges, Range.merge_covers (exchangeSort_sorted Range.start ranges)]
  exact ⟨fun h => h.mono hperm.subset, fun h => h.mono hperm.symm.subset⟩

theorem sortAndMergeRanges_ends {Q : Nat → Prop}
    (h : ∀ range ∈ ranges, P range.start ∧ Q range.stop) :
    ∀ range ∈ sortAndMergeRanges ranges, P range.start ∧ Q range.stop :=
  Range.merge_ends fun range hrange =>
    h range ((exchangeSort_perm Range.start ranges).subset hrange)

end A9N.Hal.Aarch64Boot
