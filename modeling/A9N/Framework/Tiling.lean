import A9N.Framework.Ranges

/-!
# Tilings of a range by labelled segments

Segments that follow each other without a gap, each labelled by the kind of all its points, where a
label changes at every start. Such a list is the shortest one that covers its points with the right
labels.
-/

namespace A9N

structure Segment (τ : Type) where
  range : Range Nat
  label : τ
deriving DecidableEq, Repr

variable {τ : Type} {kind : τ → Nat → Prop} {x y z point : Nat} {segments rest : List (Segment τ)}
  {segment : Segment τ}

inductive Tiles (kind : τ → Nat → Prop) : Nat → List (Segment τ) → Nat → Prop
  | nil (x : Nat) : Tiles kind x [] x
  | cons {segment : Segment τ} {rest : List (Segment τ)} {x y : Nat}
      (start : segment.range.start = x) (nonempty : x < segment.range.stop)
      (labelled : ∀ point, segment.range.Contains point → kind segment.label point)
      (changes : 0 < x → ¬ kind segment.label (x - 1))
      (tail : Tiles kind segment.range.stop rest y) : Tiles kind x (segment :: rest) y

namespace Tiles

section

variable (h : Tiles kind x segments y)
include h

theorem append (h' : Tiles kind y rest z) : Tiles kind x (segments ++ rest) z := by
  induction h with
  | nil => exact h'
  | cons start nonempty labelled changes _ ih =>
    exact .cons start nonempty labelled changes (ih h')

theorem le : x ≤ y := by
  induction h with
  | nil => exact le_rfl
  | cons _ nonempty _ _ _ ih => omega

theorem bounds :
    ∀ segment ∈ segments, x ≤ segment.range.start ∧ segment.range.start < segment.range.stop ∧
      segment.range.stop ≤ y := by
  induction h with
  | nil => simp
  | cons start nonempty _ _ tail ih =>
    have hle := tail.le
    refine List.forall_mem_cons.mpr ⟨⟨start.ge, by omega, hle⟩, fun other hother => ?_⟩
    obtain ⟨hlow, hrest⟩ := ih other hother
    exact ⟨by omega, hrest⟩

theorem sorted : segments.Pairwise fun a b => a.range.stop ≤ b.range.start := by
  induction h with
  | nil => exact .nil
  | cons _ _ _ _ tail ih => exact .cons (fun other hother => (tail.bounds other hother).1) ih

theorem label :
    ∀ segment ∈ segments, ∀ point, segment.range.Contains point → kind segment.label point := by
  induction h with
  | nil => simp
  | cons _ _ labelled _ _ ih => exact List.forall_mem_cons.mpr ⟨labelled, ih⟩

theorem exists_contains (hlow : x ≤ point) (hhigh : point < y) :
    ∃ segment ∈ segments, segment.range.Contains point := by
  induction h with
  | nil => omega
  | @cons segment rest x y start nonempty _ _ _ ih =>
    rcases Nat.lt_or_ge point segment.range.stop with hfirst | hlater
    · exact ⟨segment, List.mem_cons_self, start.trans_le hlow, hfirst⟩
    · obtain ⟨other, hother, hcontains⟩ := ih hlater hhigh
      exact ⟨other, List.mem_cons_of_mem _ hother, hcontains⟩

theorem covers_iff (hunique : ∀ a b point, kind a point → kind b point → a = b) (hlow : x ≤ point)
    (hhigh : point < y) (label : τ) :
    (∃ segment ∈ segments, segment.label = label ∧ segment.range.Contains point) ↔
      kind label point := by
  constructor
  · intro ⟨segment, hmem, hlabel, hcontains⟩
    exact hlabel ▸ h.label segment hmem point hcontains
  · intro hkind
    obtain ⟨segment, hmem, hcontains⟩ := h.exists_contains hlow hhigh
    exact ⟨segment, hmem, hunique _ _ point (h.label segment hmem point hcontains) hkind, hcontains⟩

theorem getLast (hlast : segments.getLast? = some segment) :
    segment.range.stop = y ∧ kind segment.label (y - 1) := by
  induction h with
  | nil => simp at hlast
  | @cons first rest x y start nonempty labelled _ tail ih =>
    cases rest with
    | nil =>
      obtain rfl : first = segment := by simpa using hlast
      cases tail
      exact ⟨rfl, labelled _ ⟨by omega, by omega⟩⟩
    | cons next others => exact ih (by simpa using hlast)

theorem length_le_countP
    (hunique : ∀ a b point, kind a point → kind b point → a = b) (others : List (Segment τ))
    (hlabel : ∀ other ∈ others, ∀ point, other.range.Contains point → kind other.label point)
    (hcovers : ∀ point, x ≤ point → point < y → ∃ other ∈ others, other.range.Contains point) :
    segments.length ≤ others.countP fun other => x < other.range.stop := by
  induction h with
  | nil => simp
  | @cons segment rest x y start nonempty _ _ tail ih =>
    have hle := tail.le
    have hrest := ih fun point hlow hhigh => hcovers point (by omega) hhigh
    obtain ⟨other, hother, hfirst⟩ := hcovers x le_rfl (by omega)
    cases tail with
    | nil =>
      rw [List.length_singleton, Nat.one_le_iff_ne_zero, ← Nat.pos_iff_ne_zero, List.countP_pos_iff]
      exact ⟨other, hother, by simpa using hfirst.2⟩
    | @cons next others' _ _ start' nonempty' labelled' changes' tail' =>
      -- an entry with the first point of both would have the label of the second everywhere
      have hends : other.range.stop ≤ segment.range.stop := by
        by_contra hbeyond
        have hhas : ∀ point, x ≤ point → point ≤ segment.range.stop →
            kind other.label point := fun point hlow hhigh =>
          hlabel other hother point ⟨hfirst.1.trans hlow, by omega⟩
        have hsame : other.label = next.label :=
          hunique _ _ segment.range.stop (hhas _ (by omega) le_rfl)
            (labelled' _ ⟨start'.le, by omega⟩)
        exact changes' (by omega) (hsame ▸ hhas _ (by omega) (by omega))
      have hcount : (others.countP fun other => segment.range.stop < other.range.stop) <
          others.countP fun other => x < other.range.stop := by
        have hmono : ∀ list : List (Segment τ),
            (list.countP fun other => segment.range.stop < other.range.stop) ≤
              list.countP fun other => x < other.range.stop := fun list =>
          List.countP_mono_left fun entry _ hentry => by
            simp only [decide_eq_true_eq] at hentry ⊢
            omega
        obtain ⟨front, back, rfl⟩ := List.append_of_mem hother
        have hfront := hmono front
        have hback := hmono back
        have hcounted : x < other.range.stop := hfirst.2
        simp only [List.countP_append, List.countP_cons, hcounted, Nat.not_lt.mpr hends,
          decide_true, decide_false, if_true]
        simp only [Bool.false_eq_true, if_false]
        omega
      simp only [List.length_cons] at hrest ⊢
      omega

end

end Tiles

end A9N
