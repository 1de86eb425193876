import Mathlib.Data.List.Sort
import Mathlib.Data.Set.Card
import Mathlib.Order.Basic
import Mathlib.Order.Interval.Finset.Nat

/-!
# Ranges of a linear order

Half-open ranges, the exchange sort, the merging of ranges that have been sorted by their start, and
what these keep: the elements, the order and the points that are covered. The loops that sort and
merge a table in place compute the same.
-/

namespace A9N

open List

/-! ## Exchange sort -/

section Exchange

variable {α κ : Type} [LinearOrder κ] (key : α → κ)

def exchangePass : α → List α → α × List α
  | first, [] => (first, [])
  | first, next :: rest =>
    if key next < key first then
      let (least, others) := exchangePass next rest
      (least, first :: others)
    else
      let (least, others) := exchangePass first rest
      (least, next :: others)

def exchangePasses : Nat → List α → List α
  | 0, list => list
  | _ + 1, [] => []
  | passes + 1, first :: rest =>
    let (least, others) := exchangePass key first rest
    least :: exchangePasses passes others

def exchangeSort (list : List α) : List α := exchangePasses key list.length list

theorem exchangePass_perm (first : α) (rest : List α) :
    ((exchangePass key first rest).1 :: (exchangePass key first rest).2).Perm (first :: rest) := by
  induction rest generalizing first with
  | nil => exact .refl _
  | cons next rest ih =>
    rw [exchangePass]
    split
    · exact (List.Perm.swap _ _ _).trans ((ih next).cons first)
    · exact (List.Perm.swap _ _ _).trans (((ih first).cons next).trans (List.Perm.swap _ _ _))

theorem exchangePass_least (first : α) (rest : List α) :
    ∀ a ∈ first :: rest, key (exchangePass key first rest).1 ≤ key a := by
  induction rest generalizing first with
  | nil => simp [exchangePass]
  | cons next rest ih =>
    rw [exchangePass]
    intro a ha
    split
    case isTrue hlt =>
      rcases mem_cons.mp ha with rfl | ha
      · exact (ih next next mem_cons_self).trans hlt.le
      · exact ih next a ha
    case isFalse hge =>
      rcases mem_cons.mp ha with rfl | ha
      · exact ih a a mem_cons_self
      · rcases mem_cons.mp ha with rfl | ha
        · exact (ih first first mem_cons_self).trans (not_lt.mp hge)
        · exact ih first a (mem_cons_of_mem _ ha)

theorem exchangePasses_perm (passes : Nat) (list : List α) :
    (exchangePasses key passes list).Perm list := by
  induction passes generalizing list with
  | zero => exact .refl _
  | succ passes ih =>
    cases list with
    | nil => exact .refl _
    | cons first rest =>
      rw [exchangePasses]
      exact ((ih _).cons _).trans (exchangePass_perm key first rest)

theorem exchangePasses_sorted (passes : Nat) (list : List α) (hpasses : list.length ≤ passes) :
    (exchangePasses key passes list).Pairwise fun a b => key a ≤ key b := by
  induction passes generalizing list with
  | zero =>
    rw [length_eq_zero_iff.mp (Nat.le_zero.mp hpasses)]
    exact .nil
  | succ passes ih =>
    cases list with
    | nil => exact .nil
    | cons first rest =>
      have hperm := exchangePass_perm key first rest
      have hlength : (exchangePass key first rest).2.length ≤ passes := by
        have := hperm.length_eq
        simp only [length_cons] at this hpasses
        omega
      rw [exchangePasses]
      refine .cons (fun a ha => ?_) (ih _ hlength)
      apply exchangePass_least key first rest
      exact hperm.subset (mem_cons_of_mem _ ((exchangePasses_perm key _ _).subset ha))

theorem exchangeSort_perm (list : List α) : (exchangeSort key list).Perm list :=
  exchangePasses_perm key _ _

theorem exchangeSort_sorted (list : List α) :
    (exchangeSort key list).Pairwise fun a b => key a ≤ key b :=
  exchangePasses_sorted key _ _ le_rfl

/-! ### In place -/

def exchangeInner (outer : Nat) : Nat → Nat → List α → List α
  | 0, _, table => table
  | rounds + 1, inner, table =>
    match table[outer]?, table[inner]? with
    | some first, some next =>
      exchangeInner outer rounds (inner + 1)
        (if key next < key first then (table.set outer next).set inner first else table)
    | _, _ => table

def exchangeOuter : Nat → Nat → List α → List α
  | 0, _, table => table
  | rounds + 1, outer, table =>
    exchangeOuter rounds (outer + 1)
      (exchangeInner key outer (table.length - (outer + 1)) (outer + 1) table)

theorem getElem?_behind (done passed : List α) (first next : α) (rest : List α) :
    (done ++ first :: (passed ++ next :: rest))[done.length + 1 + passed.length]? = some next := by
  rw [getElem?_append_right (by omega),
    show done.length + 1 + passed.length - done.length = passed.length + 1 by omega]
  simp

theorem exchangeInner_eq (done passed : List α) (first : α) (rest : List α) :
    exchangeInner key done.length rest.length (done.length + 1 + passed.length)
        (done ++ first :: (passed ++ rest)) =
      done ++ (exchangePass key first rest).1 :: (passed ++ (exchangePass key first rest).2) := by
  induction rest generalizing first passed with
  | nil => simp [exchangeInner, exchangePass]
  | cons next rest ih =>
    rw [length_cons, exchangeInner, getElem?_behind]
    simp only [getElem?_append_right le_rfl, Nat.sub_self, getElem?_cons_zero]
    have hplus : done.length + 1 + passed.length + 1 = done.length + 1 + (passed ++ [first]).length := by
      simp
      omega
    rw [exchangePass]
    split_ifs
    · have hset : ((done ++ first :: (passed ++ next :: rest)).set done.length next).set
          (done.length + 1 + passed.length) first = done ++ next :: ((passed ++ [first]) ++ rest) := by
        rw [set_append_right _ _ le_rfl, Nat.sub_self, set_cons_zero,
          set_append_right _ _ (by omega)]
        rw [show done.length + 1 + passed.length - done.length = passed.length + 1 by omega,
          set_cons_succ, set_append_right _ _ le_rfl]
        simp
      rw [hset, hplus, ih]
      simp
    · have := ih (passed ++ [next]) first
      simp only [append_assoc, singleton_append, length_append, length_singleton] at this
      rw [show done.length + 1 + passed.length + 1 = done.length + 1 + (passed.length + 1) by omega, this]

theorem exchangeOuter_eq (done rest : List α) :
    exchangeOuter key rest.length done.length (done ++ rest) =
      done ++ exchangePasses key rest.length rest := by
  induction h : rest.length generalizing done rest with
  | zero => rw [length_eq_zero_iff.mp h]; rfl
  | succ rounds ih =>
    cases rest with
    | nil => simp at h
    | cons first rest =>
      have hinner := exchangeInner_eq key done [] first rest
      have hperm := (exchangePass_perm key first rest).length_eq
      simp only [length_cons] at h hperm
      simp only [nil_append, length_nil, Nat.add_zero] at hinner
      rw [exchangeOuter, exchangePasses,
        show (done ++ first :: rest).length - (done.length + 1) = rest.length by simp; omega, hinner]
      have := ih (done ++ [(exchangePass key first rest).1]) (exchangePass key first rest).2 (by omega)
      simpa using this

theorem exchangeOuter_exchangeSort (table : List α) :
    exchangeOuter key table.length 0 table = exchangeSort key table :=
  exchangeOuter_eq key [] table

end Exchange

/-! ## Ranges -/

structure Range (α : Type) where
  start : α
  stop : α
deriving DecidableEq, Repr

namespace Range

variable {α : Type} [LinearOrder α]

def Contains (range : Range α) (point : α) : Prop := range.start ≤ point ∧ point < range.stop

instance (range : Range α) (point : α) : Decidable (range.Contains point) :=
  inferInstanceAs (Decidable (_ ∧ _))

def Covers (ranges : List (Range α)) (point : α) : Prop := ∃ range ∈ ranges, range.Contains point

theorem Covers.mono {ranges ranges' : List (Range α)} {point : α} (h : Covers ranges point)
    (hsub : ranges ⊆ ranges') : Covers ranges' point := by
  obtain ⟨range, hmem, hcontains⟩ := h
  exact ⟨range, hsub hmem, hcontains⟩

def mergeInto : Range α → List (Range α) → List (Range α)
  | current, [] => [current]
  | current, next :: rest =>
    if current.stop < next.start then current :: mergeInto next rest
    else
      mergeInto { current with stop := if current.stop < next.stop then next.stop
                                       else current.stop } rest

def merge : List (Range α) → List (Range α)
  | [] => []
  | first :: rest => mergeInto first rest

section

variable {current : Range α} {rest : List (Range α)}
  (hsorted : (current :: rest).Pairwise fun a b => a.start ≤ b.start)
include hsorted

theorem mergeInto_start : ∀ range ∈ mergeInto current rest, current.start ≤ range.start := by
  induction rest generalizing current with
  | nil => simp [mergeInto]
  | cons next rest ih =>
    obtain ⟨hfirst, hrest⟩ := pairwise_cons.mp hsorted
    rw [mergeInto]
    split
    · intro range hrange
      rcases mem_cons.mp hrange with rfl | hrange
      · exact le_rfl
      · exact (hfirst next mem_cons_self).trans (ih hrest range hrange)
    · apply ih
      exact .cons (fun range hrange => hfirst range (mem_cons_of_mem _ hrange))
        (pairwise_cons.mp hrest).2

theorem mergeInto_sorted : (mergeInto current rest).Pairwise fun a b => a.start ≤ b.start := by
  induction rest generalizing current with
  | nil => simp [mergeInto]
  | cons next rest ih =>
    obtain ⟨hfirst, hrest⟩ := pairwise_cons.mp hsorted
    rw [mergeInto]
    split
    · refine .cons (fun range hrange => ?_) (ih hrest)
      exact (hfirst next mem_cons_self).trans (mergeInto_start hrest range hrange)
    · apply ih
      exact .cons (fun range hrange => hfirst range (mem_cons_of_mem _ hrange))
        (pairwise_cons.mp hrest).2

end

theorem merge_sorted {ranges : List (Range α)}
    (hsorted : ranges.Pairwise fun a b => a.start ≤ b.start) :
    (merge ranges).Pairwise fun a b => a.start ≤ b.start := by
  cases ranges with
  | nil => exact .nil
  | cons first rest => exact mergeInto_sorted hsorted

@[simp] theorem covers_cons {range : Range α} {rest : List (Range α)} {point : α} :
    Covers (range :: rest) point ↔ range.Contains point ∨ Covers rest point := by
  simp [Covers]

@[simp] theorem not_covers_nil {point : α} : ¬ Covers ([] : List (Range α)) point := by
  simp [Covers]

theorem contains_extend {current next : Range α} {point : α} (hsorted : current.start ≤ next.start)
    (htouches : ¬ current.stop < next.start) :
    (({ current with stop := if current.stop < next.stop then next.stop
                             else current.stop } : Range α).Contains point) ↔
      current.Contains point ∨ next.Contains point := by
  simp only [Contains]
  split <;> grind

theorem mergeInto_covers {current : Range α} {rest : List (Range α)} {point : α}
    (hsorted : (current :: rest).Pairwise fun a b => a.start ≤ b.start) :
    Covers (mergeInto current rest) point ↔ Covers (current :: rest) point := by
  induction rest generalizing current with
  | nil => simp [mergeInto]
  | cons next rest ih =>
    obtain ⟨hfirst, hrest⟩ := pairwise_cons.mp hsorted
    rw [mergeInto]
    split
    · rw [covers_cons, ih hrest]
      exact covers_cons.symm
    case isFalse htouches =>
      rw [ih, covers_cons, contains_extend (hfirst next mem_cons_self) htouches, covers_cons,
        covers_cons, or_assoc]
      exact .cons (fun range hrange => hfirst range (mem_cons_of_mem _ hrange))
        (pairwise_cons.mp hrest).2

theorem merge_covers {ranges : List (Range α)} {point : α}
    (hsorted : ranges.Pairwise fun a b => a.start ≤ b.start) :
    Covers (merge ranges) point ↔ Covers ranges point := by
  cases ranges with
  | nil => rfl
  | cons first rest => exact mergeInto_covers hsorted

def Separated (ranges : List (Range α)) : Prop := ranges.Pairwise fun a b => a.stop < b.start

theorem mergeInto_separated {current : Range α} {rest : List (Range α)}
    (hsorted : (current :: rest).Pairwise fun a b => a.start ≤ b.start) :
    Separated (mergeInto current rest) := by
  induction rest generalizing current with
  | nil => simp [mergeInto, Separated]
  | cons next rest ih =>
    obtain ⟨hfirst, hrest⟩ := pairwise_cons.mp hsorted
    rw [mergeInto]
    split
    case isTrue hgap =>
      exact .cons (fun range hrange => hgap.trans_le (mergeInto_start hrest range hrange)) (ih hrest)
    case isFalse =>
      apply ih
      exact .cons (fun range hrange => hfirst range (mem_cons_of_mem _ hrange))
        (pairwise_cons.mp hrest).2

theorem merge_separated {ranges : List (Range α)}
    (hsorted : ranges.Pairwise fun a b => a.start ≤ b.start) : Separated (merge ranges) := by
  cases ranges with
  | nil => exact .nil
  | cons first rest => exact mergeInto_separated hsorted

theorem mergeInto_ends {P Q : α → Prop} {current : Range α} {rest : List (Range α)}
    (h : ∀ range ∈ current :: rest, P range.start ∧ Q range.stop) :
    ∀ range ∈ mergeInto current rest, P range.start ∧ Q range.stop := by
  induction rest generalizing current with
  | nil => exact h
  | cons next rest ih =>
    obtain ⟨hcurrent, hnext⟩ := forall_mem_cons.mp h
    rw [mergeInto]
    split
    · exact forall_mem_cons.mpr ⟨hcurrent, ih hnext⟩
    · apply ih
      refine forall_mem_cons.mpr ⟨⟨hcurrent.1, ?_⟩, (forall_mem_cons.mp hnext).2⟩
      show Q (if current.stop < next.stop then next.stop else current.stop)
      split
      · exact (hnext next mem_cons_self).2
      · exact hcurrent.2

theorem merge_ends {P Q : α → Prop} {ranges : List (Range α)}
    (h : ∀ range ∈ ranges, P range.start ∧ Q range.stop) :
    ∀ range ∈ merge ranges, P range.start ∧ Q range.stop := by
  cases ranges with
  | nil => simp [merge]
  | cons first rest => exact mergeInto_ends h

theorem mergeInto_nonempty {current : Range α} {rest : List (Range α)}
    (h : ∀ range ∈ current :: rest, range.start < range.stop) :
    ∀ range ∈ mergeInto current rest, range.start < range.stop := by
  induction rest generalizing current with
  | nil => exact h
  | cons next rest ih =>
    obtain ⟨hcurrent, hnext⟩ := forall_mem_cons.mp h
    rw [mergeInto]
    split
    · exact forall_mem_cons.mpr ⟨hcurrent, ih hnext⟩
    · apply ih
      refine forall_mem_cons.mpr ⟨?_, (forall_mem_cons.mp hnext).2⟩
      show current.start < if current.stop < next.stop then next.stop else current.stop
      split
      case isTrue hlt => exact hcurrent.trans hlt
      case isFalse => exact hcurrent

theorem merge_nonempty {ranges : List (Range α)} (h : ∀ range ∈ ranges, range.start < range.stop) :
    ∀ range ∈ merge ranges, range.start < range.stop := by
  cases ranges with
  | nil => simp [merge]
  | cons first rest => exact mergeInto_nonempty h

theorem length_mergeInto_le (current : Range α) (rest : List (Range α)) :
    (mergeInto current rest).length ≤ rest.length + 1 := by
  induction rest generalizing current with
  | nil => simp [mergeInto]
  | cons next rest ih =>
    rw [mergeInto, length_cons]
    split
    · rw [length_cons]
      have := ih next
      omega
    · exact (ih _).trans (Nat.le_succ _)

theorem length_merge_le (ranges : List (Range α)) : (merge ranges).length ≤ ranges.length := by
  cases ranges with
  | nil => rfl
  | cons first rest => exact length_mergeInto_le first rest

/-! ### Merging in place -/

def mergeLoop : Nat → Nat → Nat → List (Range α) → List (Range α) × Nat
  | 0, _, merged, table => (table, merged)
  | rounds + 1, index, merged, table =>
    match table[index]?, (if merged = 0 then none else table[merged - 1]?) with
    | none, _ => (table, merged)
    | some next, none => mergeLoop rounds (index + 1) (merged + 1) (table.set merged next)
    | some next, some last =>
      if last.stop < next.start then
        mergeLoop rounds (index + 1) (merged + 1) (table.set merged next)
      else if last.stop < next.stop then
        mergeLoop rounds (index + 1) merged (table.set (merged - 1) { last with stop := next.stop })
      else mergeLoop rounds (index + 1) merged table

theorem mergeLoop_eq (done stale : List (Range α)) (current : Range α) (rest : List (Range α)) :
    ∃ stale', mergeLoop rest.length (done.length + 1 + stale.length) (done.length + 1)
        (done ++ current :: (stale ++ rest)) =
      (done ++ mergeInto current rest ++ stale', (done ++ mergeInto current rest).length) := by
  induction rest generalizing done stale current with
  | nil => exact ⟨stale, by simp [mergeLoop, mergeInto]⟩
  | cons next rest ih =>
    have hcurrent : (done ++ current :: (stale ++ next :: rest))[done.length]? = some current := by
      simp
    rw [length_cons, mergeLoop, getElem?_behind]
    simp only [Nat.add_sub_cancel, Nat.add_one_ne_zero, if_false, hcurrent]
    rw [mergeInto]
    split_ifs with hgap hlonger
    · -- the entry is copied to the end of the merged ones, over one that has been read
      obtain ⟨stale1, hset, hlength⟩ : ∃ stale1, (done ++ current :: (stale ++ next :: rest)).set
          (done.length + 1) next = (done ++ [current]) ++ next :: (stale1 ++ rest) ∧
            stale1.length = stale.length := by
        rw [set_append_right _ _ (by omega), Nat.add_sub_cancel_left, set_cons_succ]
        cases stale with
        | nil => exact ⟨[], by simp, rfl⟩
        | cons old stale => exact ⟨stale ++ [next], by simp, by simp⟩
      have hnext := ih (done ++ [current]) stale1 next
      rw [hset]
      rw [hlength, length_append, length_singleton] at hnext
      rw [show done.length + 1 + stale.length + 1 = done.length + 1 + 1 + stale.length by omega]
      simpa using hnext
    · have hset : (done ++ current :: (stale ++ next :: rest)).set done.length
          { current with stop := next.stop } =
            done ++ { current with stop := next.stop } :: ((stale ++ [next]) ++ rest) := by
        rw [set_append_right _ _ le_rfl]
        simp
      have hnext := ih done (stale ++ [next]) { current with stop := next.stop }
      rw [hset]
      simpa [Nat.add_assoc] using hnext
    · have hnext := ih done (stale ++ [next]) current
      simpa [Nat.add_assoc] using hnext

theorem mergeLoop_merge (table : List (Range α)) :
    ∃ stale, mergeLoop table.length 0 0 table = (merge table ++ stale, (merge table).length) := by
  cases table with
  | nil => exact ⟨[], rfl⟩
  | cons first rest =>
    have h := mergeLoop_eq [] [] first rest
    simpa [mergeLoop, merge] using h

/-! ### Sizes -/

def size (range : Range Nat) : Nat := range.stop - range.start

theorem sum_size_le {ranges : List (Range Nat)} {low high : Nat} (hseparated : Separated ranges)
    (hle : low ≤ high)
    (h : ∀ range ∈ ranges, low ≤ range.start ∧ range.start ≤ range.stop ∧ range.stop ≤ high) :
    low + (ranges.map size).sum ≤ high := by
  induction ranges generalizing low with
  | nil => simpa using hle
  | cons first rest ih =>
    obtain ⟨hgap, hrest⟩ := pairwise_cons.mp hseparated
    obtain ⟨hfirst, hothers⟩ := forall_mem_cons.mp h
    have hlater := ih hrest hfirst.2.2 fun range hrange =>
      ⟨(hgap range hrange).le, (hothers range hrange).2⟩
    simp only [map_cons, sum_cons, size] at hlater ⊢
    omega

theorem ncard_covers {ranges : List (Range Nat)} (hseparated : Separated ranges) :
    Set.ncard {point | Covers ranges point} = (ranges.map size).sum ∧
      {point | Covers ranges point}.Finite := by
  induction ranges with
  | nil => simp
  | cons first rest ih =>
    obtain ⟨hgap, hrest⟩ := pairwise_cons.mp hseparated
    obtain ⟨hcard, hfinite⟩ := ih hrest
    have hunion : {point | Covers (first :: rest) point} =
        ↑(Finset.Ico first.start first.stop) ∪ {point | Covers rest point} := by
      ext point
      simp [Contains]
    have hdisjoint : Disjoint (↑(Finset.Ico first.start first.stop) : Set Nat)
        {point | Covers rest point} := by
      rw [Set.disjoint_left]
      intro point hpoint ⟨range, hrange, hcontains⟩
      have hlt : point < first.stop := (Finset.mem_Ico.mp (Finset.mem_coe.mp hpoint)).2
      exact absurd (hgap range hrange) (by have := hcontains.1; omega)
    rw [hunion]
    refine ⟨?_, (Finset.finite_toSet _).union hfinite⟩
    rw [Set.ncard_union_eq hdisjoint (Finset.finite_toSet _) hfinite, hcard, Set.ncard_coe_finset,
      Nat.card_Ico]
    rfl

end Range

end A9N
