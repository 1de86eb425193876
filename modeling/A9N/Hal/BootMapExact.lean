import A9N.Framework.Tiling
import A9N.Hal.BootMemoryMap

/-!
# The AArch64 memory map is exact

The two loops of `construct_memory_map` make a tiling of the memory below the last RAM address. The
map holds the first tiles, all of them if it has room, and as a tiling is as short as can be, it has
room whenever any exact map would fit.
-/

namespace A9N.Hal.Aarch64Boot

open List

open A9N.Kernel (MemoryMapType)

variable {ram reserved : List PhysicalRange} {map : List MemoryMapEntry}

structure TableRange (range : PhysicalRange) : Prop where
  startAligned : pageSize ∣ range.start
  stopAligned : pageSize ∣ range.stop
  nonempty : range.start < range.stop
  bounded : range.stop < 2 ^ 64

theorem TableRange.pages (start stop : Nat) : ∀ range ∈ pages start stop, TableRange range := by
  intro range hrange
  unfold Aarch64Boot.pages at hrange
  split at hrange
  · cases hrange
  case isFalse hpages =>
    rw [mem_singleton.mp hrange]
    refine ⟨Nat.dvd_mul_left _ _, Nat.dvd_mul_left _ _, Nat.not_le.mp hpages, ?_⟩
    exact (alignDown_le _).trans_lt (Nat.mod_lt _ (by decide))

theorem mem_addRange {ranges : List PhysicalRange} {start stop : Nat} {range : PhysicalRange}
    (h : range ∈ addRange ranges start stop) : range ∈ ranges ∨ range ∈ pages start stop := by
  unfold addRange at h
  split at h
  · exact .inl h
  case isFalse hadded =>
    rw [pages, if_neg (not_or.mp hadded).1]
    exact mem_append.mp h

theorem TableRange.defaultRam (h : ∀ range ∈ ram, TableRange range) :
    ∀ range ∈ defaultRam ram, TableRange range := by
  unfold Aarch64Boot.defaultRam
  split
  · intro range hrange
    exact (mem_addRange hrange).elim (h range) (TableRange.pages _ _ range)
  · exact h

/-- What a tree declares also lies in the direct map. -/
structure MappedRange (range : PhysicalRange) : Prop extends TableRange range where
  mapped : range.stop ≤ directMapEnd

theorem MappedRange.addRange {ranges : List PhysicalRange} {start stop : Nat}
    (h : ∀ range ∈ ranges, MappedRange range) (hstop : stop ≤ directMapEnd) :
    ∀ range ∈ addRange ranges start stop, MappedRange range := by
  intro range hrange
  rcases mem_addRange hrange with hold | hnew
  · exact h range hold
  · refine ⟨TableRange.pages start stop range hnew, ?_⟩
    unfold Aarch64Boot.pages at hnew
    split at hnew
    · cases hnew
    · rw [mem_singleton.mp hnew]
      dsimp only [alignUp, alignDown, pageSize, directMapEnd] at hstop ⊢
      omega

theorem MappedRange.addDeclaredRanges {ranges : List PhysicalRange}
    (h : ∀ range ∈ ranges, MappedRange range) (entries : List (Nat × Nat)) :
    ∀ range ∈ addDeclaredRanges ranges entries, MappedRange range := by
  induction entries generalizing ranges with
  | nil => exact h
  | cons entry rest ih =>
    refine ih ?_
    dsimp only [addDeclaredRange]
    split
    · exact MappedRange.addRange h (by omega)
    · exact h

theorem MappedRange.defaultRam (h : ∀ range ∈ ram, MappedRange range) :
    ∀ range ∈ defaultRam ram, MappedRange range := by
  unfold Aarch64Boot.defaultRam
  split
  · exact MappedRange.addRange h (by decide)
  · exact h

theorem TableRange.sortAndMergeRanges {ranges : List PhysicalRange}
    (h : ∀ range ∈ ranges, TableRange range) :
    ∀ range ∈ sortAndMergeRanges ranges, TableRange range := by
  have hends : ∀ range ∈ Aarch64Boot.sortAndMergeRanges ranges,
      pageSize ∣ range.start ∧ pageSize ∣ range.stop ∧ range.stop < 2 ^ 64 :=
    sortAndMergeRanges_ends (P := (pageSize ∣ ·)) (Q := fun stop => pageSize ∣ stop ∧ stop < 2 ^ 64)
      fun range hrange => ⟨(h range hrange).1, (h range hrange).2, (h range hrange).4⟩
  have hnonempty : ∀ range ∈ Aarch64Boot.sortAndMergeRanges ranges, range.start < range.stop :=
    Range.merge_nonempty fun range hrange =>
      (h range ((exchangeSort_perm Range.start ranges).subset hrange)).nonempty
  intro range hrange
  obtain ⟨hstart, hstop, hbounded⟩ := hends range hrange
  exact ⟨hstart, hstop, hnonempty range hrange, hbounded⟩

theorem sortAndMergeRanges_separated (ranges : List PhysicalRange) :
    Range.Separated (sortAndMergeRanges ranges) :=
  Range.merge_separated (exchangeSort_sorted Range.start ranges)

/-- `sort_and_merge_ranges` on the table itself, with the number of entries that it leaves. -/
def sortAndMergeTable (ranges : List PhysicalRange) : List PhysicalRange × Nat :=
  Range.mergeLoop ranges.length 0 0 (exchangeOuter Range.start ranges.length 0 ranges)

theorem sortAndMergeTable_eq (ranges : List PhysicalRange) : ∃ stale, sortAndMergeTable ranges =
    (sortAndMergeRanges ranges ++ stale, (sortAndMergeRanges ranges).length) := by
  unfold sortAndMergeTable
  rw [exchangeOuter_exchangeSort, ← (exchangeSort_perm Range.start ranges).length_eq]
  exact Range.mergeLoop_merge (exchangeSort Range.start ranges)

/-- The entries that are left are sorted and separated, none is empty, there are no more than before,
and they cover the same addresses. -/
theorem sortAndMergeTable_normalises (ranges : List PhysicalRange)
    (hranges : ∀ range ∈ ranges, range.start < range.stop) :
    ∃ merged stale, sortAndMergeTable ranges = (merged ++ stale, merged.length) ∧
      (merged.Pairwise fun a b => a.start ≤ b.start) ∧
      (merged.IsChain fun a b => a.stop < b.start) ∧
      (∀ range ∈ merged, range.start < range.stop) ∧ merged.length ≤ ranges.length ∧
      ∀ address, Range.Covers merged address ↔ Range.Covers ranges address := by
  obtain ⟨stale, heq⟩ := sortAndMergeTable_eq ranges
  have hperm := exchangeSort_perm Range.start ranges
  refine ⟨_, stale, heq, sortAndMergeRanges_sorted ranges, (sortAndMergeRanges_separated ranges).isChain,
    Range.merge_nonempty fun range hrange => hranges range (hperm.subset hrange), ?_,
    fun address => sortAndMergeRanges_covers⟩
  exact (Range.length_merge_le _).trans_eq hperm.length_eq

theorem sortAndMergeTable_normalises_overlapping :
    ∃ merged stale, sortAndMergeTable [⟨0x3000, 0x5000⟩, ⟨0x1000, 0x2000⟩, ⟨0x2000, 0x4000⟩] =
      (merged ++ stale, merged.length) ∧ merged.length ≤ 3 := by
  obtain ⟨merged, stale, heq, -, -, -, hlength, -⟩ := sortAndMergeTable_normalises
    [⟨0x3000, 0x5000⟩, ⟨0x1000, 0x2000⟩, ⟨0x2000, 0x4000⟩] (by decide)
  exact ⟨merged, stale, heq, hlength⟩

/-! ## What the map should say -/

def IsKind (ram reserved : List PhysicalRange) : MemoryMapType → Nat → Prop
  | .free, point => Range.Covers ram point ∧ ¬ Range.Covers reserved point
  | .reserved, point => Range.Covers ram point ∧ Range.Covers reserved point
  | .device, point => ¬ Range.Covers ram point ∧ ∃ later, point < later ∧ Range.Covers ram later

theorem isKind_unique :
    ∀ a b point, IsKind ram reserved a point → IsKind ram reserved b point → a = b := by
  intro a b point ha hb
  cases a <;> cases b <;> simp only [IsKind] at ha hb ⊢ <;> tauto

/-- The entries are sorted and disjoint ranges of pages, and those of each type cover the addresses of
that kind. -/
structure ExactMap (ram reserved : List PhysicalRange) (map : List MemoryMapEntry) : Prop where
  aligned : ∀ entry ∈ map, pageSize ∣ entry.range.start ∧ pageSize ∣ entry.range.stop
  sorted : map.Pairwise fun a b => a.range.stop ≤ b.range.start
  covers : ∀ type point,
    (∃ entry ∈ map, entry.type = type ∧ entry.range.Contains point) ↔
      IsKind ram reserved type point

/-! ## The segments of the sweep -/

def reservedSegments (ram : PhysicalRange) :
    List PhysicalRange → Nat → List (Segment MemoryMapType) × Nat
  | [], cursor => ([], cursor)
  | reserved :: rest, cursor =>
    if reserved.stop ≤ ram.start ∨ ram.stop ≤ reserved.start then reservedSegments ram rest cursor
    else
      let start := if reserved.start < ram.start then ram.start else reserved.start
      let stop := if ram.stop < reserved.stop then ram.stop else reserved.stop
      let front := if cursor < start then [⟨⟨cursor, start⟩, .free⟩] else []
      if cursor < stop then
        let later := reservedSegments ram rest stop
        (front ++ ⟨⟨if start < cursor then cursor else start, stop⟩, .reserved⟩ :: later.1, later.2)
      else
        let later := reservedSegments ram rest cursor
        (front ++ later.1, later.2)

def ramSegments (reserved : List PhysicalRange) :
    List PhysicalRange → Nat → List (Segment MemoryMapType)
  | [], _ => []
  | ram :: rest, previousRamEnd =>
    let front := if previousRamEnd < ram.start then
      [⟨⟨previousRamEnd, ram.start⟩, .device⟩] else []
    let inner := reservedSegments ram reserved ram.start
    let last := if inner.2 < ram.stop then [⟨⟨inner.2, ram.stop⟩, .free⟩] else []
    front ++ (inner.1 ++ (last ++ ramSegments reserved rest ram.stop))

def addSegments (map : List MemoryMapEntry) (segments : List (Segment MemoryMapType)) :
    List MemoryMapEntry :=
  segments.foldl
    (fun map segment => addMemoryMapEntry map segment.range.start segment.range.stop segment.label) map

section

variable (map : List MemoryMapEntry)

theorem addSegments_append (first second : List (Segment MemoryMapType)) :
    addSegments map (first ++ second) = addSegments (addSegments map first) second :=
  foldl_append

@[simp] theorem addSegments_nil : addSegments map [] = map := rfl

@[simp] theorem addSegments_cons (segment : Segment MemoryMapType)
    (rest : List (Segment MemoryMapType)) :
    addSegments map (segment :: rest) =
      addSegments (addMemoryMapEntry map segment.range.start segment.range.stop segment.label) rest :=
  rfl

end

theorem sweepReserved_eq (ram : PhysicalRange) (reserved : List PhysicalRange) (cursor : Nat)
    (map : List MemoryMapEntry) :
    sweepReserved ram reserved cursor map = ((reservedSegments ram reserved cursor).2,
      addSegments map (reservedSegments ram reserved cursor).1) := by
  induction reserved generalizing cursor map with
  | nil => rfl
  | cons first rest ih =>
    rw [sweepReserved, reservedSegments]
    split
    · exact ih cursor map
    · dsimp only
      generalize (if first.start < ram.start then ram.start else first.start) = start
      generalize (if ram.stop < first.stop then ram.stop else first.stop) = stop
      by_cases hgap : cursor < start <;> by_cases hstop : cursor < stop <;>
        simp [hgap, hstop, ih]

theorem sweepRam_eq (reserved ranges : List PhysicalRange) (previousRamEnd : Nat)
    (map : List MemoryMapEntry) :
    sweepRam reserved ranges previousRamEnd map =
      addSegments map (ramSegments reserved ranges previousRamEnd) := by
  induction ranges generalizing previousRamEnd map with
  | nil => rfl
  | cons ram rest ih =>
    rw [sweepRam, ramSegments, sweepReserved_eq]
    dsimp only
    rw [ih, addSegments_append, addSegments_append, addSegments_append]
    split <;> split <;> rfl

/-! ## The segments are a tiling -/

section Tiling

variable {ram reserved : List PhysicalRange} {current : PhysicalRange}

structure Sweeping (ram reserved : List PhysicalRange) (current : PhysicalRange)
    (rest : List PhysicalRange) (cursor : Nat) : Prop where
  low : current.start ≤ cursor
  high : cursor ≤ current.stop
  same : ∀ point, cursor ≤ point → point < current.stop →
    (Range.Covers reserved point ↔ Range.Covers rest point)
  edge : cursor = current.start ∨
    IsKind ram reserved .reserved (cursor - 1) ∧ ∀ range ∈ rest, cursor < range.start

variable (hproper : current.start < current.stop)
  (hcurrent : ∀ point, current.Contains point → Range.Covers ram point)
  (hedge : 0 < current.start → ¬ Range.Covers ram (current.start - 1))

include hedge in
theorem Sweeping.not_free {rest : List PhysicalRange} {cursor : Nat}
    (h : Sweeping ram reserved current rest cursor) (hpos : 0 < cursor) :
    ¬ IsKind ram reserved .free (cursor - 1) := by
  intro hfree
  rcases h.edge with rfl | ⟨hreserved, -⟩
  · exact hedge hpos hfree.1
  · exact hfree.2 hreserved.2

include hproper hcurrent hedge in
theorem reservedSegments_tiles {rest : List PhysicalRange} {cursor : Nat}
    (hseparated : Range.Separated rest) (hnonempty : ∀ range ∈ rest, range.start < range.stop)
    (h : Sweeping ram reserved current rest cursor) :
    Tiles (IsKind ram reserved) cursor (reservedSegments current rest cursor).1
        (reservedSegments current rest cursor).2 ∧
      Sweeping ram reserved current [] (reservedSegments current rest cursor).2 := by
  induction rest generalizing cursor with
  | nil => exact ⟨.nil cursor, h⟩
  | cons first rest ih =>
    obtain ⟨hgap, hrest⟩ := pairwise_cons.mp hseparated
    obtain ⟨hfirst, hothers⟩ := forall_mem_cons.mp hnonempty
    rw [reservedSegments]
    split
    case isTrue hapart =>
      apply ih hrest hothers
      refine ⟨h.low, h.high, fun point hlow hhigh => ?_, ?_⟩
      · have hnot : ¬ first.Contains point := by
          have := h.low
          simp only [Range.Contains]
          omega
        rw [h.same point hlow hhigh, Range.covers_cons, or_iff_right hnot]
      · exact h.edge.imp_right fun hreserved => ⟨hreserved.1, fun range hrange =>
          hreserved.2 range (mem_cons_of_mem _ hrange)⟩
    case isFalse hmeets =>
      dsimp only
      generalize hstart : (if first.start < current.start then current.start
        else first.start) = start
      generalize hstop : (if current.stop < first.stop then current.stop else first.stop) = stop
      have hfront : cursor ≤ start ∧ (cursor < start → start = first.start) ∧
          (start = cursor → cursor = current.start) := by
        have hlow := h.low
        have hahead := h.edge.imp_right fun hreserved => hreserved.2 first mem_cons_self
        split at hstart <;> omega
      have hinside : start < stop ∧ current.start ≤ start ∧ stop ≤ current.stop ∧
          first.start ≤ start ∧ stop ≤ first.stop := by
        split at hstart <;> split at hstop <;> omega
      have hpast : stop = first.stop ∨ stop = current.stop := by
        split at hstop <;> omega
      -- in front of the range nothing is reserved
      have hbefore : ∀ point, cursor ≤ point → point < start → ¬ Range.Covers reserved point := by
        intro point hlow hhigh hcovers
        have hfirstStart := hfront.2.1 (by omega)
        rw [h.same point hlow (by omega), Range.covers_cons] at hcovers
        rcases hcovers with hcontains | ⟨range, hrange, hcontains⟩
        · exact absurd hcontains.1 (by omega)
        · exact absurd hcontains.1 (by have := hgap range hrange; omega)
      have hram : ∀ point, cursor ≤ point → point < stop → Range.Covers ram point :=
        fun point hlow hhigh => hcurrent point ⟨h.low.trans hlow, by omega⟩
      have hreserved : ∀ point, start ≤ point → point < stop →
          IsKind ram reserved .reserved point := by
        intro point hlow hhigh
        refine ⟨hram point (by omega) hhigh, (h.same point (by omega) (by omega)).mpr ?_⟩
        exact Range.covers_cons.mpr (.inl ⟨by omega, by omega⟩)
      have hchanges : 0 < start → ¬ IsKind ram reserved .reserved (start - 1) := by
        intro hpos hkind
        rcases Nat.lt_or_ge cursor start with hlt | hge
        · exact hbefore (start - 1) (by omega) (by omega) hkind.2
        · obtain rfl := hfront.2.2 (by omega)
          rw [show start = current.start by omega] at hpos hkind
          exact hedge hpos hkind.1
      have hnext : Sweeping ram reserved current rest stop := by
        refine ⟨by omega, by omega, fun point hlow hhigh => ?_, .inr ⟨?_, fun range hrange => ?_⟩⟩
        · have hnot : ¬ first.Contains point := by
            simp only [Range.Contains]
            omega
          rw [h.same point (by omega) hhigh, Range.covers_cons, or_iff_right hnot]
        · exact hreserved (stop - 1) (by omega) (by omega)
        · exact hinside.2.2.2.2.trans_lt (hgap range hrange)
      obtain ⟨htiles, hend⟩ := ih hrest hothers hnext
      rw [if_pos (show cursor < stop by omega), if_neg (show ¬ start < cursor by omega)]
      have hblock : Tiles (IsKind ram reserved) start
          (⟨⟨start, stop⟩, .reserved⟩ :: (reservedSegments current rest stop).1)
          (reservedSegments current rest stop).2 :=
        .cons rfl hinside.1 (fun point hpoint => hreserved point hpoint.1 hpoint.2) hchanges htiles
      refine ⟨?_, hend⟩
      split
      case isTrue hlt =>
        refine .cons rfl hlt (fun point hpoint => ?_) (h.not_free hedge) hblock
        exact ⟨hram point hpoint.1 (hpoint.2.trans hinside.1), hbefore point hpoint.1 hpoint.2⟩
      case isFalse hge =>
        obtain rfl : start = cursor := by omega
        exact hblock

variable (ram) in
theorem ramSegments_tiles {ranges : List PhysicalRange} {x : Nat}
    (hreserved : Range.Separated reserved)
    (hreservedNonempty : ∀ range ∈ reserved, range.start < range.stop)
    (hseparated : Range.Separated ranges) (hnonempty : ∀ range ∈ ranges, range.start < range.stop)
    (hsame : ∀ point, x ≤ point → (Range.Covers ram point ↔ Range.Covers ranges point))
    (hx : x = 0 ∨ Range.Covers ram (x - 1) ∧ ∀ range ∈ ranges, x < range.start) :
    ∃ y, Tiles (IsKind ram reserved) x (ramSegments reserved ranges x) y ∧
      (∀ point, y ≤ point → ¬ Range.Covers ram point) ∧
      (y = x ∨ ∃ range ∈ ranges, y = range.stop) := by
  induction ranges generalizing x with
  | nil =>
    refine ⟨x, .nil x, fun point hpoint hcovers => ?_, .inl rfl⟩
    exact Range.not_covers_nil ((hsame point hpoint).mp hcovers)
  | cons current rest ih =>
    obtain ⟨hgap, hrest⟩ := pairwise_cons.mp hseparated
    obtain ⟨hproper, hothers⟩ := forall_mem_cons.mp hnonempty
    have hle : x ≤ current.start := by
      rcases hx with rfl | ⟨-, hahead⟩
      · exact Nat.zero_le _
      · exact (hahead current mem_cons_self).le
    have hcurrent : ∀ point, current.Contains point → Range.Covers ram point :=
      fun point hpoint => (hsame point (hle.trans hpoint.1)).mpr
        (Range.covers_cons.mpr (.inl hpoint))
    -- in front of the range there is no RAM
    have hbefore : ∀ point, x ≤ point → point < current.start → ¬ Range.Covers ram point := by
      intro point hlow hhigh hcovers
      rw [hsame point hlow, Range.covers_cons] at hcovers
      rcases hcovers with hcontains | ⟨range, hrange, hcontains⟩
      · exact absurd hcontains.1 (by omega)
      · exact absurd hcontains.1 (by have := hgap range hrange; omega)
    have hedge : 0 < current.start → ¬ Range.Covers ram (current.start - 1) := by
      intro hpos
      rcases hx with rfl | ⟨-, hahead⟩
      · exact hbefore _ (Nat.zero_le _) (by omega)
      · have := hahead current mem_cons_self
        exact hbefore _ (by omega) (by omega)
    obtain ⟨hinner, hend⟩ := reservedSegments_tiles hproper hcurrent hedge hreserved
      hreservedNonempty ⟨le_rfl, hproper.le, fun _ _ _ => Iff.rfl, .inl rfl⟩
    obtain ⟨y, hlater, hnone, hy⟩ := @ih current.stop hrest hothers (by
        intro point hpoint
        have hnot : ¬ current.Contains point := by
          simp only [Range.Contains]
          omega
        rw [hsame point (by omega), Range.covers_cons, or_iff_right hnot])
      (.inr ⟨hcurrent _ ⟨by omega, by omega⟩, hgap⟩)
    refine ⟨y, ?_, hnone, .inr ?_⟩
    · rw [ramSegments]
      have hlast : Tiles (IsKind ram reserved) (reservedSegments current reserved current.start).2
          ((if (reservedSegments current reserved current.start).2 < current.stop then
            [⟨⟨(reservedSegments current reserved current.start).2, current.stop⟩, .free⟩] else []) ++
              ramSegments reserved rest current.stop) y := by
        have hhigh := hend.high
        split
        case isTrue hlt =>
          refine .cons rfl hlt (fun point hpoint => ⟨?_, fun hcovers => ?_⟩) (hend.not_free hedge)
            hlater
          · exact hcurrent point ⟨hend.low.trans hpoint.1, hpoint.2⟩
          · exact Range.not_covers_nil ((hend.same point hpoint.1 hpoint.2).mp hcovers)
        case isFalse hge =>
          rw [show (reservedSegments current reserved current.start).2 = current.stop by omega]
          exact hlater
      have hrange := hinner.append hlast
      split
      case isTrue hlt =>
        refine .cons rfl hlt (fun point hpoint => ⟨hbefore point hpoint.1 hpoint.2, ?_⟩) ?_ hrange
        · exact ⟨current.start, hpoint.2, hcurrent _ ⟨le_rfl, hproper⟩⟩
        · intro hpos hdevice
          rcases hx with rfl | ⟨hcovers, -⟩
          · omega
          · exact hdevice.1 hcovers
      case isFalse hge =>
        obtain rfl : current.start = x := by omega
        exact hrange
    · rcases hy with rfl | ⟨range, hrange, rfl⟩
      · exact ⟨current, mem_cons_self, rfl⟩
      · exact ⟨range, mem_cons_of_mem _ hrange, rfl⟩

end Tiling

/-! ## Whole pages -/

def PageSegment (segment : Segment MemoryMapType) : Prop :=
  pageSize ∣ segment.range.start ∧ pageSize ∣ segment.range.stop

theorem reservedSegments_aligned {current : PhysicalRange}
    {cursor : Nat} (hcurrent : TableRange current) (hreserved : ∀ range ∈ reserved, TableRange range)
    (hcursor : pageSize ∣ cursor) :
    (∀ segment ∈ (reservedSegments current reserved cursor).1, PageSegment segment) ∧
      pageSize ∣ (reservedSegments current reserved cursor).2 := by
  induction reserved generalizing cursor with
  | nil => simpa [reservedSegments] using hcursor
  | cons first rest ih =>
    obtain ⟨hfirst, hrest⟩ := forall_mem_cons.mp hreserved
    rw [reservedSegments]
    split
    · exact ih hrest hcursor
    · dsimp only
      generalize hstart : (if first.start < current.start then current.start
        else first.start) = start
      generalize hstop : (if current.stop < first.stop then current.stop else first.stop) = stop
      have hstartAligned : pageSize ∣ start := by
        split at hstart <;> subst hstart
        · exact hcurrent.startAligned
        · exact hfirst.startAligned
      have hstopAligned : pageSize ∣ stop := by
        split at hstop <;> subst hstop
        · exact hcurrent.stopAligned
        · exact hfirst.stopAligned
      have hfront : ∀ segment ∈ (if cursor < start then
          [(⟨⟨cursor, start⟩, .free⟩ : Segment MemoryMapType)] else []), PageSegment segment := by
        split <;> simp [PageSegment, hcursor, hstartAligned]
      split
      · obtain ⟨hlater, hend⟩ := ih hrest hstopAligned
        refine ⟨fun segment hsegment => ?_, hend⟩
        rcases mem_append.mp hsegment with hsegment | hsegment
        · exact hfront segment hsegment
        · rcases mem_cons.mp hsegment with rfl | hsegment
          · refine ⟨?_, hstopAligned⟩
            dsimp only
            split
            · exact hcursor
            · exact hstartAligned
          · exact hlater segment hsegment
      · obtain ⟨hlater, hend⟩ := ih hrest hcursor
        refine ⟨fun segment hsegment => ?_, hend⟩
        exact (mem_append.mp hsegment).elim (hfront segment) (hlater segment)

theorem ramSegments_aligned {ranges : List PhysicalRange} {x : Nat}
    (hreserved : ∀ range ∈ reserved, TableRange range)
    (hranges : ∀ range ∈ ranges, TableRange range) (hx : pageSize ∣ x) :
    ∀ segment ∈ ramSegments reserved ranges x, PageSegment segment := by
  induction ranges generalizing x with
  | nil => simp [ramSegments]
  | cons current rest ih =>
    obtain ⟨hcurrent, hrest⟩ := forall_mem_cons.mp hranges
    obtain ⟨hinner, hend⟩ := reservedSegments_aligned hcurrent hreserved hcurrent.startAligned
    intro segment hsegment
    rw [ramSegments] at hsegment
    rcases mem_append.mp hsegment with hsegment | hsegment
    · split at hsegment
      · rw [mem_singleton.mp hsegment]
        exact ⟨hx, hcurrent.startAligned⟩
      · cases hsegment
    · rcases mem_append.mp hsegment with hsegment | hsegment
      · exact hinner segment hsegment
      · rcases mem_append.mp hsegment with hsegment | hsegment
        · split at hsegment
          · rw [mem_singleton.mp hsegment]
            exact ⟨hend, hcurrent.stopAligned⟩
          · cases hsegment
        · exact ih hrest hcurrent.stopAligned segment hsegment

/-! ## The map -/

def entryOf (segment : Segment MemoryMapType) : MemoryMapEntry :=
  ⟨segment.range.start, (segment.range.stop - segment.range.start) / pageSize, segment.label⟩

theorem range_entryOf {segment : Segment MemoryMapType} (h : PageSegment segment)
    (hle : segment.range.start ≤ segment.range.stop) : (entryOf segment).range = segment.range := by
  rw [MemoryMapEntry.range, entryOf, Nat.div_mul_cancel (Nat.dvd_sub h.2 h.1)]
  cases segment
  simp only at hle ⊢
  rw [Nat.add_sub_cancel' hle]

theorem alignDown_of_dvd {value : Nat} (h : pageSize ∣ value) : alignDown value = value :=
  Nat.div_mul_cancel h

theorem alignUp_of_dvd {value : Nat} (h : pageSize ∣ value) (hlt : value < 2 ^ 64) :
    alignUp value = value := by
  obtain ⟨pages, rfl⟩ := h
  rw [alignUp, alignDown, pageSize] at *
  omega

theorem addSegments_full (hfull : memoryMapCapacity ≤ map.length)
    (rest : List (Segment MemoryMapType)) : addSegments map rest = map := by
  induction rest with
  | nil => rfl
  | cons segment rest ih =>
    rw [addSegments_cons, addMemoryMapEntry, if_pos (.inr hfull)]
    exact ih

theorem addMemoryMapEntry_tile {kind : MemoryMapType → Nat → Prop}
    {done : List (Segment MemoryMapType)} {segment : Segment MemoryMapType} {x : Nat}
    (hdone : Tiles kind 0 done x) (hstart : segment.range.start = x)
    (hnonempty : x < segment.range.stop) (hbounded : segment.range.stop < 2 ^ 64)
    (hchanges : 0 < x → ¬ kind segment.label (x - 1)) (hpages : PageSegment segment)
    (hlength : done.length < memoryMapCapacity) :
    addMemoryMapEntry (done.map entryOf) segment.range.start segment.range.stop segment.label =
      (done ++ [segment]).map entryOf := by
  rw [addMemoryMapEntry, alignUp_of_dvd hpages.1 (by omega), alignDown_of_dvd hpages.2,
    if_neg (by rw [length_map]; omega), map_append]
  cases hlast : (done.map entryOf).getLast? with
  | none => rfl
  | some previous =>
    obtain ⟨last, hmem, rfl⟩ : ∃ last, done.getLast? = some last ∧ entryOf last = previous := by
      simpa using hlast
    obtain ⟨hstop, hkind⟩ := hdone.getLast hmem
    have hdiffers : ¬ ((entryOf last).type = segment.label ∧
        (entryOf last).range.stop = segment.range.start) := by
      intro hsame
      have hbounds := hdone.bounds last (mem_of_getLast? hmem)
      exact hchanges (by omega) (hsame.1 ▸ hkind)
    simp only [hdiffers, if_false]
    rfl

theorem addSegments_eq {kind : MemoryMapType → Nat → Prop} {done rest : List (Segment MemoryMapType)}
    {x y : Nat} (hdone : Tiles kind 0 done x) (hrest : Tiles kind x rest y) (hy : y < 2 ^ 64)
    (haligned : ∀ segment ∈ done ++ rest, PageSegment segment)
    (hlength : done.length ≤ memoryMapCapacity) :
    addSegments (done.map entryOf) rest = ((done ++ rest).take memoryMapCapacity).map entryOf := by
  induction hrest generalizing done with
  | nil => rw [append_nil, take_of_length_le hlength, addSegments_nil]
  | @cons segment rest x y hstart hnonempty hlabelled hchanges htail ih =>
    rcases Nat.lt_or_ge done.length memoryMapCapacity with hroom | hfull
    · have hle := htail.le
      have hlater := ih (hdone.append (.cons hstart hnonempty hlabelled hchanges (.nil _))) hy
        (by simpa using haligned) (by rw [length_append, length_singleton]; omega)
      rw [addSegments_cons, addMemoryMapEntry_tile hdone hstart hnonempty (by omega) hchanges
        (haligned segment (by simp)) hroom, hlater, append_assoc, singleton_append]
    · rw [addSegments_full (by rwa [length_map]), take_append_of_le_length hfull,
        take_of_length_le hlength]

theorem isKind_sortAndMergeRanges (ram reserved : List PhysicalRange) :
    IsKind (sortAndMergeRanges ram) (sortAndMergeRanges reserved) = IsKind ram reserved := by
  funext type point
  cases type <;> simp only [IsKind, sortAndMergeRanges_covers]

section Exact

variable {ram reserved : List PhysicalRange} {segments : List (Segment MemoryMapType)} {y : Nat}
  (htiles : Tiles (IsKind ram reserved) 0 segments y)
  (hend : ∀ point, y ≤ point → ¬ Range.Covers ram point)

include hend in
theorem lt_of_isKind {type : MemoryMapType} {point : Nat} (h : IsKind ram reserved type point) :
    point < y := by
  by_contra hge
  cases type with
  | free => exact hend point (Nat.not_lt.mp hge) h.1
  | reserved => exact hend point (Nat.not_lt.mp hge) h.1
  | device =>
    obtain ⟨-, later, hlater, hcovers⟩ := h
    exact hend later (by omega) hcovers

include htiles hend in
theorem exactMap_of_tiles (haligned : ∀ segment ∈ segments, PageSegment segment) :
    ExactMap ram reserved (segments.map entryOf) := by
  have hrange : ∀ segment ∈ segments, (entryOf segment).range = segment.range :=
    fun segment hsegment => range_entryOf (haligned segment hsegment)
      (htiles.bounds segment hsegment).2.1.le
  refine ⟨fun entry hentry => ?_, ?_, fun type point => ?_⟩
  · obtain ⟨segment, hsegment, rfl⟩ := mem_map.mp hentry
    rw [hrange segment hsegment]
    exact haligned segment hsegment
  · rw [pairwise_map]
    refine htiles.sorted.imp_of_mem fun {a b} ha hb hle => ?_
    rw [hrange a ha, hrange b hb]
    exact hle
  · constructor
    · intro ⟨entry, hentry, htype, hcontains⟩
      obtain ⟨segment, hsegment, rfl⟩ := mem_map.mp hentry
      rw [hrange segment hsegment] at hcontains
      exact htype ▸ htiles.label segment hsegment point hcontains
    · intro hkind
      obtain ⟨segment, hsegment, hlabel, hcontains⟩ :=
        (htiles.covers_iff isKind_unique (Nat.zero_le _) (lt_of_isKind hend hkind) type).mpr hkind
      refine ⟨entryOf segment, mem_map_of_mem hsegment, hlabel, ?_⟩
      rwa [hrange segment hsegment]

include htiles in
theorem length_le_of_exactMap {exact : List MemoryMapEntry} (hexact : ExactMap ram reserved exact) :
    segments.length ≤ exact.length := by
  have hcount := htiles.length_le_countP isKind_unique
    (exact.map fun entry => ⟨entry.range, entry.type⟩)
    (fun other hother point hpoint => by
      obtain ⟨entry, hentry, rfl⟩ := mem_map.mp hother
      exact (hexact.covers entry.type point).mp ⟨entry, hentry, rfl, hpoint⟩)
    (fun point hlow hhigh => by
      obtain ⟨segment, hsegment, hcontains⟩ := htiles.exists_contains hlow hhigh
      obtain ⟨entry, hentry, -, hpoint⟩ := (hexact.covers segment.label point).mpr
        (htiles.label segment hsegment point hcontains)
      exact ⟨_, mem_map_of_mem hentry, hpoint⟩)
  exact (hcount.trans countP_le_length).trans_eq (length_map _)

end Exact

theorem memorySize_eq (hram : ∀ range ∈ ram, TableRange range)
    (hne : ram ≠ []) : memorySize ram = Set.ncard {point | Range.Covers ram point} := by
  have htable := TableRange.sortAndMergeRanges hram
  have hsum : 0 + ((sortAndMergeRanges ram).map Range.size).sum ≤ 2 ^ 64 - 1 :=
    Range.sum_size_le (sortAndMergeRanges_separated ram) (Nat.zero_le _) fun range hrange => by
      have hrange := htable range hrange
      exact ⟨Nat.zero_le _, hrange.nonempty.le, by have := hrange.bounded; omega⟩
  have hfold : ∀ (ranges : List PhysicalRange) (size : Nat),
      size + (ranges.map Range.size).sum < 2 ^ 64 →
      ranges.foldl (fun size ram => (size + (ram.stop - ram.start)) % 2 ^ 64) size =
        size + (ranges.map Range.size).sum := by
    intro ranges
    induction ranges with
    | nil => simp
    | cons first rest ih =>
      intro size hlt
      simp only [map_cons, sum_cons, Range.size, foldl_cons] at hlt ih ⊢
      rw [Nat.mod_eq_of_lt (by omega), ih _ (by omega)]
      omega
  have hcovers : {point | Range.Covers ram point} =
      {point | Range.Covers (sortAndMergeRanges ram) point} := by
    ext point
    exact sortAndMergeRanges_covers.symm
  rw [memorySize, defaultRam, if_neg (by simpa using hne), hfold _ _ (by omega), hcovers,
    (Range.ncard_covers (sortAndMergeRanges_separated ram)).1, Nat.zero_add]

theorem ramSegments_spec
    (hram : ∀ range ∈ ram, TableRange range) (hreserved : ∀ range ∈ reserved, TableRange range) :
    ∃ y < 2 ^ 64, Tiles (IsKind ram reserved) 0
        (ramSegments (sortAndMergeRanges reserved) (sortAndMergeRanges ram) 0) y ∧
      (∀ point, y ≤ point → ¬ Range.Covers ram point) ∧
      ∀ segment ∈ ramSegments (sortAndMergeRanges reserved) (sortAndMergeRanges ram) 0,
        PageSegment segment := by
  have hramTable := TableRange.sortAndMergeRanges hram
  have hreservedTable := TableRange.sortAndMergeRanges hreserved
  obtain ⟨y, htiles, hend, hy⟩ := ramSegments_tiles (sortAndMergeRanges ram)
    (sortAndMergeRanges_separated reserved)
    (fun range hrange => (hreservedTable range hrange).nonempty) (sortAndMergeRanges_separated ram)
    (fun range hrange => (hramTable range hrange).nonempty) (fun _ _ => Iff.rfl) (.inl (Eq.refl 0))
  refine ⟨y, ?_, by rwa [isKind_sortAndMergeRanges] at htiles, fun point hpoint hcovers => ?_,
    ramSegments_aligned hreservedTable hramTable (Nat.dvd_zero _)⟩
  · rcases hy with rfl | ⟨range, hrange, rfl⟩
    · decide
    · exact (hramTable range hrange).bounded
  · exact hend point hpoint (sortAndMergeRanges_covers.mpr hcovers)

theorem constructMemoryMap_eq (hram : ∀ range ∈ ram, TableRange range)
    (hreserved : ∀ range ∈ reserved, TableRange range) :
    constructMemoryMap ram reserved =
      ((ramSegments (sortAndMergeRanges reserved) (sortAndMergeRanges (defaultRam ram)) 0).take
        memoryMapCapacity).map entryOf := by
  obtain ⟨y, hbounded, htiles, -, haligned⟩ :=
    ramSegments_spec (TableRange.defaultRam hram) hreserved
  rw [constructMemoryMap, sweepRam_eq]
  exact addSegments_eq (.nil 0) htiles hbounded haligned (Nat.zero_le _)

/-- Every entry of the map is of the kind it names, also where the map is full. -/
theorem constructMemoryMap_kind (hram : ∀ range ∈ ram, TableRange range)
    (hreserved : ∀ range ∈ reserved, TableRange range) :
    ∀ entry ∈ constructMemoryMap ram reserved, ∀ point, entry.range.Contains point →
      IsKind (defaultRam ram) reserved entry.type point := by
  obtain ⟨y, -, htiles, -, haligned⟩ := ramSegments_spec (TableRange.defaultRam hram) hreserved
  rw [constructMemoryMap_eq hram hreserved]
  intro entry hentry point hpoint
  obtain ⟨segment, hsegment, rfl⟩ := mem_map.mp hentry
  have hmem := mem_of_mem_take hsegment
  rw [range_entryOf (haligned segment hmem) (htiles.bounds segment hmem).2.1.le] at hpoint
  exact htiles.label segment hmem point hpoint

/-- No free entry of the map has such a point. -/
def Protects (map : List MemoryMapEntry) (P : Nat → Prop) : Prop :=
  ∀ entry ∈ map, entry.type = .free → ∀ point, entry.range.Contains point → ¬ P point

/-- The point lies in one of the segments for which the map has room. -/
def Described (ram reserved : List PhysicalRange) (point : Nat) : Prop :=
  ∃ segment ∈ (ramSegments (sortAndMergeRanges reserved) (sortAndMergeRanges (defaultRam ram))
    0).take memoryMapCapacity, segment.range.Contains point

theorem described_iff (hram : ∀ range ∈ ram, TableRange range)
    (hreserved : ∀ range ∈ reserved, TableRange range) (point : Nat) :
    Described ram reserved point ↔
      ∃ entry ∈ constructMemoryMap ram reserved, entry.range.Contains point := by
  obtain ⟨y, -, htiles, -, haligned⟩ := ramSegments_spec (TableRange.defaultRam hram) hreserved
  have hrange : ∀ segment ∈ (ramSegments (sortAndMergeRanges reserved)
      (sortAndMergeRanges (defaultRam ram)) 0).take memoryMapCapacity,
        (entryOf segment).range = segment.range := fun segment hsegment =>
    range_entryOf (haligned segment (mem_of_mem_take hsegment))
      (htiles.bounds segment (mem_of_mem_take hsegment)).2.1.le
  rw [constructMemoryMap_eq hram hreserved]
  constructor
  · intro ⟨segment, hsegment, hcontains⟩
    exact ⟨entryOf segment, mem_map_of_mem hsegment, (hrange segment hsegment).symm ▸ hcontains⟩
  · intro ⟨entry, hentry, hcontains⟩
    obtain ⟨segment, hsegment, rfl⟩ := mem_map.mp hentry
    exact ⟨segment, hsegment, hrange segment hsegment ▸ hcontains⟩

theorem constructMemoryMap_protects_iff (hram : ∀ range ∈ ram, TableRange range)
    (hreserved : ∀ range ∈ reserved, TableRange range) (P : Nat → Prop) :
    Protects (constructMemoryMap ram reserved) P ↔
      ∀ point, P point → Range.Covers (defaultRam ram) point → Described ram reserved point →
        Range.Covers reserved point := by
  have hkind := constructMemoryMap_kind hram hreserved
  constructor
  · intro hprotects point hpoint hcovers hdescribed
    obtain ⟨entry, hentry, hcontains⟩ := (described_iff hram hreserved point).mp hdescribed
    by_contra hlost
    -- the entry that describes the point is a free one
    have hfree := isKind_unique _ _ point (hkind entry hentry point hcontains)
      (show IsKind (defaultRam ram) reserved .free point from ⟨hcovers, hlost⟩)
    exact hprotects entry hentry hfree point hcontains hpoint
  · intro hcovered entry hentry hfree point hcontains hpoint
    have hpointKind := hkind entry hentry point hcontains
    rw [hfree] at hpointKind
    exact hpointKind.2 (hcovered point hpoint hpointKind.1
      ((described_iff hram hreserved point).mpr ⟨entry, hentry, hcontains⟩))

/-- The map is exact whenever an exact map fits. -/
theorem constructMemoryMap_exact {ram reserved : List PhysicalRange} {exact : List MemoryMapEntry}
    (hram : ∀ range ∈ ram, TableRange range) (hne : ram ≠ [])
    (hreserved : ∀ range ∈ reserved, TableRange range) (hexact : ExactMap ram reserved exact)
    (hfits : exact.length ≤ memoryMapCapacity) :
    ExactMap ram reserved (constructMemoryMap ram reserved) ∧
      memorySize ram = Set.ncard {point | Range.Covers ram point} := by
  obtain ⟨y, -, htiles, hend, haligned⟩ := ramSegments_spec hram hreserved
  have hlength := (length_le_of_exactMap htiles hexact).trans hfits
  refine ⟨?_, memorySize_eq hram hne⟩
  rw [constructMemoryMap_eq hram hreserved, defaultRam, if_neg (by simpa using hne),
    take_of_length_le hlength]
  exact exactMap_of_tiles htiles hend haligned

/-- Two RAM ranges, of which one is in two parts, and reservations that overlap. -/
def sampleRam : List PhysicalRange :=
  [⟨0x80000000, 0x90000000⟩, ⟨0x40000000, 0x60000000⟩, ⟨0x60000000, 0x70000000⟩]

def sampleReserved : List PhysicalRange :=
  [⟨0x48000000, 0x48002000⟩, ⟨0x40000000, 0x40080000⟩, ⟨0x48001000, 0x48003000⟩]

instance (range : PhysicalRange) : Decidable (TableRange range) :=
  decidable_of_iff (pageSize ∣ range.start ∧ pageSize ∣ range.stop ∧ range.start < range.stop ∧
      range.stop < 2 ^ 64)
    ⟨fun h => ⟨h.1, h.2.1, h.2.2.1, h.2.2.2⟩, fun h => ⟨h.1, h.2, h.3, h.4⟩⟩

theorem constructMemoryMap_exact_sample :
    ExactMap sampleRam sampleReserved (constructMemoryMap sampleRam sampleReserved) ∧
      memorySize sampleRam = Set.ncard {point | Range.Covers sampleRam point} := by
  have hram : ∀ range ∈ sampleRam, TableRange range := by decide
  have hreserved : ∀ range ∈ sampleReserved, TableRange range := by decide
  obtain ⟨y, -, htiles, hend, haligned⟩ := ramSegments_spec hram hreserved
  exact constructMemoryMap_exact hram (by decide) hreserved
    (exactMap_of_tiles htiles hend haligned) (by decide +kernel)

end A9N.Hal.Aarch64Boot
