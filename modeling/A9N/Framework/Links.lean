import Mathlib

/-!
# Intrusive doubly linked lists

Every element carries its own two pointers. A family of such lists is well formed when the pointers
are inverse to each other and no list runs in a circle.
-/

namespace A9N

structure Links (α : Type) where
  next : α → Option α
  preview : α → Option α

namespace Links

variable {α : Type}

structure WellFormed (l : Links α) : Prop where
  inverse : ∀ a b, l.next a = some b ↔ l.preview b = some a
  acyclic : ∃ rank : α → ℕ, ∀ a b, l.next a = some b → rank a < rank b

def Step (l : Links α) (P : α → α → Prop) (a b : α) : Prop := l.next a = some b ∧ P a b

def Before (l : Links α) : α → α → Prop := Relation.TransGen (l.Step fun _ _ => True)

def Below (l : Links α) (depth : α → ℕ) (a b : α) : Prop :=
  Relation.TransGen (l.Step fun _ c => depth a < depth c) a b

def unlink [DecidableEq α] (l : Links α) (x : α) : Links α where
  next a := if a = x then none else if l.next a = some x then l.next x else l.next a
  preview a := if a = x then none else if l.preview a = some x then l.preview x else l.preview a

theorem rank_lt_of_path {l : Links α} {P : α → α → Prop} {rank : α → ℕ}
    (hrank : ∀ a b, l.next a = some b → rank a < rank b) {a b : α}
    (hp : Relation.TransGen (l.Step P) a b) : rank a < rank b := by
  induction hp with
  | single step => exact hrank _ _ step.1
  | tail _ step ih => exact ih.trans (hrank _ _ step.1)

namespace WellFormed

variable {l : Links α} (h : l.WellFormed)

include h

theorem next_injective {a b c : α} (ha : l.next a = some c) (hb : l.next b = some c) : a = b := by
  have ha' := (h.inverse a c).mp ha
  have hb' := (h.inverse b c).mp hb
  simpa [ha'] using hb'

theorem not_path_self {P : α → α → Prop} (a : α) : ¬ Relation.TransGen (l.Step P) a a := by
  intro hp
  obtain ⟨rank, hrank⟩ := h.acyclic
  exact absurd (rank_lt_of_path hrank hp) (lt_irrefl _)

theorem next_ne_self (a : α) : l.next a ≠ some a := by
  intro hn
  exact h.not_path_self (P := fun _ _ => True) a (.single ⟨hn, trivial⟩)

theorem preview_ne_self (a : α) : l.preview a ≠ some a := by
  intro hp
  exact h.next_ne_self a ((h.inverse a a).mpr hp)

end WellFormed

section Unlink

variable [DecidableEq α] {l : Links α} (h : l.WellFormed) {x : α}

include h

theorem unlink_next_iff {a b : α} : (l.unlink x).next a = some b ↔
      a ≠ x ∧ b ≠ x ∧ (l.next a = some b ∨ l.next a = some x ∧ l.next x = some b) := by
  have hx := h.next_ne_self x
  by_cases hax : a = x
  · simp [unlink, hax]
  · by_cases hn : l.next a = some x
    · by_cases hb : b = x
      · simp [unlink, hax, hn, hb, hx]
      · simp [unlink, hax, hn, hb, Ne.symm hb]
    · simp only [unlink, hax, hn, if_false, ne_eq, not_false_eq_true, true_and, false_and, or_false]
      constructor
      · intro hab
        refine ⟨?_, hab⟩
        intro hb
        exact hn (hb ▸ hab)
      · intro hab
        exact hab.2

theorem unlink_preview_iff {a b : α} : (l.unlink x).preview b = some a ↔
      a ≠ x ∧ b ≠ x ∧ (l.preview b = some a ∨ l.preview b = some x ∧ l.preview x = some a) := by
  have hx := h.preview_ne_self x
  by_cases hbx : b = x
  · simp [unlink, hbx]
  · by_cases hp : l.preview b = some x
    · by_cases ha : a = x
      · simp [unlink, hbx, hp, ha, hx]
      · simp [unlink, hbx, hp, ha, Ne.symm ha]
    · simp only [unlink, hbx, hp, if_false, ne_eq, not_false_eq_true, true_and, false_and, or_false]
      constructor
      · intro hab
        refine ⟨?_, hab⟩
        intro ha
        exact hp (ha ▸ hab)
      · intro hab
        exact hab.2

theorem WellFormed.unlink : (l.unlink x).WellFormed where
  inverse a b := by
    rw [unlink_next_iff h, unlink_preview_iff h, h.inverse a b, h.inverse a x, h.inverse x b]
    tauto
  acyclic := by
    obtain ⟨rank, hrank⟩ := h.acyclic
    refine ⟨rank, ?_⟩
    intro a b hab
    obtain ⟨-, -, hab | ⟨hax, hxb⟩⟩ := (unlink_next_iff h).mp hab
    · exact hrank a b hab
    · exact (hrank a x hax).trans (hrank x b hxb)

theorem path_unlink {P : α → α → Prop} (htrans : ∀ a b c, P a b → P b c → P a c) {a b : α}
    (hp : Relation.TransGen (l.Step P) a b) (ha : a ≠ x) (hb : b ≠ x) :
    Relation.TransGen ((l.unlink x).Step P) a b := by
  -- a path that has reached `x` is kept one element back, with the step into `x` pending
  have key : (b ≠ x → Relation.TransGen ((l.unlink x).Step P) a b) ∧
      (b = x → ∃ c, c ≠ x ∧ Relation.ReflTransGen ((l.unlink x).Step P) a c ∧
        l.next c = some x ∧ P c x) := by
    clear hb
    induction hp with
    | single step =>
      constructor
      · intro hb
        exact .single ⟨(unlink_next_iff h).mpr ⟨ha, hb, .inl step.1⟩, step.2⟩
      · intro hb
        subst hb
        exact ⟨a, ha, .refl, step.1, step.2⟩
    | @tail c d hpath step ih =>
      by_cases hc : c = x
      · obtain ⟨e, he, hae, hex, hPe⟩ := ih.2 hc
        subst hc
        constructor
        · intro hd
          exact Relation.TransGen.tail' hae
            ⟨(unlink_next_iff h).mpr ⟨he, hd, .inr ⟨hex, step.1⟩⟩, htrans _ _ _ hPe step.2⟩
        · intro hd
          exact absurd (hd ▸ step.1) (h.next_ne_self c)
      · have hac := ih.1 hc
        constructor
        · intro hd
          exact hac.tail ⟨(unlink_next_iff h).mpr ⟨hc, hd, .inl step.1⟩, step.2⟩
        · intro hd
          exact ⟨c, hc, hac.to_reflTransGen, hd ▸ step.1, hd ▸ step.2⟩
  exact key.1 hb

theorem before_unlink_iff {a b : α} (ha : a ≠ x) (hb : b ≠ x) :
    (l.unlink x).Before a b ↔ l.Before a b := by
  constructor
  · intro hp
    clear ha hb
    induction hp with
    | single step =>
      obtain ⟨-, -, hab | ⟨hax, hxb⟩⟩ := (unlink_next_iff h).mp step.1
      · exact .single ⟨hab, trivial⟩
      · exact .tail (.single ⟨hax, trivial⟩) ⟨hxb, trivial⟩
    | tail _ step ih =>
      obtain ⟨-, -, hab | ⟨hax, hxb⟩⟩ := (unlink_next_iff h).mp step.1
      · exact ih.tail ⟨hab, trivial⟩
      · exact (ih.tail ⟨hax, trivial⟩).tail ⟨hxb, trivial⟩
  · intro hp
    exact path_unlink h (fun _ _ _ _ _ => trivial) hp ha hb

end Unlink

section Depth

variable {l : Links α} {depth : α → ℕ} {a b : α}

theorem Below.depth_lt (h : l.Below depth a b) : depth a < depth b := by
  cases h with
  | single step => exact step.2
  | tail _ step => exact step.2

theorem Below.head (h : l.Below depth a b) : ∃ c, l.next a = some c ∧ depth a < depth c := by
  obtain ⟨c, step, -⟩ := Relation.TransGen.head'_iff.mp h
  exact ⟨c, step.1, step.2⟩

theorem Below.before (h : l.Below depth a b) : l.Before a b :=
  Relation.TransGen.mono (fun _ _ step => ⟨step.1, trivial⟩) a b h

variable [DecidableEq α] {x : α} (hwf : l.WellFormed)

include hwf

theorem Below.of_unlink
    (hx : ∀ c, l.next x = some c → depth x < depth c → ∃ d, l.next d = some x ∧ depth d = depth x)
    (h : (l.unlink x).Below depth a b) :
    l.Below depth a b ∨ l.next a = some x ∧ depth x ≤ depth a ∧ l.Below depth x b := by
  induction h with
  | @single b step =>
    obtain ⟨-, -, hab | ⟨hax, hxb⟩⟩ := (unlink_next_iff hwf).mp step.1
    · exact .inl (.single ⟨hab, step.2⟩)
    · by_cases hd : depth a < depth x
      · exact .inl (.tail (.single ⟨hax, hd⟩) ⟨hxb, step.2⟩)
      · have hxb' : depth x < depth b := lt_of_le_of_lt (not_lt.mp hd) step.2
        exact .inr ⟨hax, not_lt.mp hd, .single ⟨hxb, hxb'⟩⟩
  | @tail b c _ step ih =>
    obtain ⟨-, -, hbc | ⟨hbx, hxc⟩⟩ := (unlink_next_iff hwf).mp step.1
    · obtain hab | ⟨hax, hle, hxb⟩ := ih
      · exact .inl (hab.tail ⟨hbc, step.2⟩)
      · exact .inr ⟨hax, hle, hxb.tail ⟨hbc, lt_of_le_of_lt hle step.2⟩⟩
    · obtain hab | ⟨hax, -, hxb⟩ := ih
      · by_cases hd : depth a < depth x
        · exact .inl ((hab.tail ⟨hbx, hd⟩).tail ⟨hxc, step.2⟩)
        · -- then `b`, in front of `x`, is no deeper than `a`
          have hxc' : depth x < depth c := lt_of_le_of_lt (not_lt.mp hd) step.2
          obtain ⟨d, hdx, hdepth⟩ := hx c hxc hxc'
          have hdb : d = b := hwf.next_injective hdx hbx
          have hab' := Below.depth_lt hab
          rw [← hdb, hdepth] at hab'
          exact absurd hab' hd
      · have hab : a = b := hwf.next_injective hax hbx
        rw [← hab] at hxb
        exact absurd (hxb.before.tail ⟨hax, trivial⟩) (hwf.not_path_self x)

end Depth

section Rename

variable {l : Links α} (π : Equiv.Perm α)

def rename (l : Links α) : Links α where
  next a := (l.next (π.symm a)).map π
  preview a := (l.preview (π.symm a)).map π

theorem rename_next_iff {a b : α} : (l.rename π).next (π a) = some (π b) ↔ l.next a = some b := by
  simp [rename]

theorem WellFormed.rename (h : l.WellFormed) : (l.rename π).WellFormed where
  inverse a b := by
    obtain ⟨a, rfl⟩ := π.surjective a
    obtain ⟨b, rfl⟩ := π.surjective b
    simp only [h.inverse, Links.rename, Equiv.symm_apply_apply, Option.map_eq_some_iff,
      EmbeddingLike.apply_eq_iff_eq, exists_eq_right]
  acyclic := by
    obtain ⟨rank, hrank⟩ := h.acyclic
    refine ⟨fun a => rank (π.symm a), fun a b hab => ?_⟩
    obtain ⟨a, rfl⟩ := π.surjective a
    obtain ⟨b, rfl⟩ := π.surjective b
    simp only [Equiv.symm_apply_apply]
    exact hrank a b ((rename_next_iff π).mp hab)

end Rename

section Move

variable {l : Links α} {x y : α}

/-- `y` is linked to nothing; if it is another place than `x`, nothing leads to it, and exactly the
neighbours that `x` names point back at it. -/
structure PointsBack (l : Links α) (x y : α) : Prop where
  unlinked : l.next y = none ∧ l.preview y = none
  inverse : x ≠ y → ∀ a, (l.next a = some x ↔ l.preview x = some a) ∧
    (l.next x = some a ↔ l.preview a = some x)
  apart : x ≠ y → l.next x ≠ some x
  free : x ≠ y → ∀ a, l.next a ≠ some y ∧ l.preview a ≠ some y

theorem WellFormed.pointsBack (h : l.WellFormed) (hy : l.next y = none ∧ l.preview y = none) :
    l.PointsBack x y where
  unlinked := hy
  inverse _ a := ⟨h.inverse a x, h.inverse x a⟩
  apart _ := h.next_ne_self x
  free _ a := by
    constructor
    · rw [ne_eq, h.inverse, hy.2]
      simp
    · rw [ne_eq, ← h.inverse, hy.1]
      simp

theorem pointsBack_rename (π : Equiv.Perm α) :
    (l.rename π).PointsBack (π x) (π y) ↔ l.PointsBack x y := by
  have hnext : ∀ a b, (l.rename π).next (π a) = some (π b) ↔ l.next a = some b := by
    simp [rename]
  have hpreview : ∀ a b, (l.rename π).preview (π a) = some (π b) ↔ l.preview a = some b := by
    simp [rename]
  have hnone : (l.rename π).next (π y) = none ∧ (l.rename π).preview (π y) = none ↔
      l.next y = none ∧ l.preview y = none := by
    simp [rename]
  constructor
  · rintro ⟨hunlinked, hinverse, hapart, hfree⟩
    refine ⟨hnone.mp hunlinked, fun hne a => ?_, fun hne => ?_, fun hne a => ?_⟩
    · rw [← hnext, ← hpreview, ← hnext, ← hpreview]
      exact hinverse (π.injective.ne hne) (π a)
    · rw [ne_eq, ← hnext]
      exact hapart (π.injective.ne hne)
    · rw [ne_eq, ne_eq, ← hnext, ← hpreview]
      exact hfree (π.injective.ne hne) (π a)
  · rintro ⟨hunlinked, hinverse, hapart, hfree⟩
    refine ⟨hnone.mpr hunlinked, fun hne a => ?_, fun hne => ?_, fun hne a => ?_⟩
    · obtain ⟨a, rfl⟩ := π.surjective a
      rw [hnext, hpreview, hnext, hpreview]
      exact hinverse (ne_of_apply_ne π hne) a
    · rw [ne_eq, hnext]
      exact hapart (ne_of_apply_ne π hne)
    · obtain ⟨a, rfl⟩ := π.surjective a
      rw [ne_eq, ne_eq, hnext, hpreview]
      exact hfree (ne_of_apply_ne π hne) a

theorem eq_iff {l l' : Links α} : l = l' ↔ ∀ a, l.next a = l'.next a ∧ l.preview a = l'.preview a := by
  constructor
  · rintro rfl a
    exact ⟨rfl, rfl⟩
  · intro h
    exact congrArg₂ Links.mk (funext fun a => (h a).1) (funext fun a => (h a).2)

variable [DecidableEq α]

/-- The place of `x` is given to `y`: `y` is cleared and takes over the links of `x`, the neighbours
that these name are linked to `y`, and `x` is cleared. -/
def move (l : Links α) (x y : α) : Links α :=
  let before := if x = y then none else l.preview x
  let after := if x = y then none else if before = some y then some y else l.next x
  { next := fun a => if a = x then none else if a = y then after
      else if before = some a then some y else l.next a
    preview := fun a => if a = x then none
      else if a = y then if after = some y then some y else before
      else if after = some a then some y else l.preview a }

/-- A pointer that names neither place stays under the new names, and no other does. -/
theorem map_swap_eq_self_iff (hne : x ≠ y) (o : Option α) :
    o = o.map (Equiv.swap x y) ↔ o ≠ some x ∧ o ≠ some y := by
  cases o with
  | none => simp
  | some a =>
    rw [Option.map_some, Option.some.injEq, ne_eq, ne_eq, Option.some.injEq, Option.some.injEq,
      eq_comm]
    by_cases hx : a = x
    · simp [hx, hne.symm]
    · by_cases hy : a = y
      · simp [hy, hne]
      · simp [Equiv.swap_apply_of_ne_of_ne hx hy, hx, hy]

theorem some_eq_map_swap_iff (o : Option α) : some y = o.map (Equiv.swap x y) ↔ o = some x := by
  rw [eq_comm, Option.map_eq_some_iff]
  simp [Equiv.swap_apply_eq_iff]

/-- The move renames the place exactly where the neighbours point back. -/
theorem move_eq_rename_iff : l.move x y = l.rename (Equiv.swap x y) ↔ l.PointsBack x y := by
  rw [eq_iff]
  by_cases hne : x = y
  · subst hne
    simp only [move, rename, Equiv.swap_self, Equiv.refl_symm, Equiv.refl_apply, Equiv.coe_refl,
      Option.map_id, id]
    constructor
    · intro h
      have hx := h x
      simp only [if_true] at hx
      exact ⟨⟨hx.1.symm, hx.2.symm⟩, fun hne => absurd rfl hne, fun hne => absurd rfl hne,
        fun hne => absurd rfl hne⟩
    · intro h a
      by_cases ha : a = x
      · simp [ha, h.unlinked]
      · simp [ha]
  · simp only [move, rename, hne, if_false, Equiv.symm_swap]
    constructor
    · intro h
      have hx := h x
      have hy := h y
      simp only [if_true, Equiv.swap_apply_left, Equiv.swap_apply_right, Ne.symm hne,
        if_false, eq_comm (a := (none : Option α)), Option.map_eq_none_iff] at hx hy
      -- the links that `y` takes over do not lead to `y` itself
      have hbefore : l.preview x ≠ some y := by
        intro hp
        rw [hp] at hy
        simp at hy
        exact hne hy.2.symm
      rw [if_neg hbefore, map_swap_eq_self_iff hne] at hy
      obtain ⟨⟨hself, hafter⟩, hy⟩ := hy
      rw [if_neg hafter, map_swap_eq_self_iff hne] at hy
      have hother : ∀ a, a ≠ x → a ≠ y →
          (l.preview x = some a → l.next a = some x) ∧
            (l.preview x ≠ some a → l.next a ≠ some x ∧ l.next a ≠ some y) ∧
          (l.next x = some a → l.preview a = some x) ∧
            (l.next x ≠ some a → l.preview a ≠ some x ∧ l.preview a ≠ some y) := by
        intro a hax hay
        have ha := h a
        simp only [hax, hay, if_false, hbefore, Equiv.swap_apply_of_ne_of_ne hax hay] at ha
        refine ⟨fun hp => ?_, fun hp => ?_, fun hn => ?_, fun hn => ?_⟩
        · rw [if_pos hp, some_eq_map_swap_iff] at ha
          exact ha.1
        · rw [if_neg hp, map_swap_eq_self_iff hne] at ha
          exact ha.1
        · rw [if_pos hn, some_eq_map_swap_iff] at ha
          exact ha.2
        · rw [if_neg hn, map_swap_eq_self_iff hne] at ha
          exact ha.2
      refine ⟨hx, fun _ a => ?_, fun _ => hself, fun _ a => ?_⟩
      · by_cases hax : a = x
        · rw [hax]
          simp [hself, hy.1]
        · by_cases hay : a = y
          · rw [hay]
            simp [hx.1, hx.2, hbefore, hafter]
          · obtain ⟨hp, hp', hn, hn'⟩ := hother a hax hay
            exact ⟨⟨fun hnext => by_contra fun hp => (hp' hp).1 hnext, hp⟩,
              ⟨hn, fun hpreview => by_contra fun hn => (hn' hn).1 hpreview⟩⟩
      · by_cases hax : a = x
        · rw [hax]
          exact ⟨hafter, hy.2⟩
        · by_cases hay : a = y
          · rw [hay, hx.1, hx.2]
            simp
          · obtain ⟨hp, hp', hn, hn'⟩ := hother a hax hay
            constructor
            · by_cases hpreview : l.preview x = some a
              · simp [hp hpreview, hne]
              · exact (hp' hpreview).2
            · by_cases hnext : l.next x = some a
              · simp [hn hnext, hne]
              · exact (hn' hnext).2
    · intro h a
      have hinverse := h.inverse hne
      have hfree := h.free hne
      have hself := h.apart hne
      have hself' : l.preview x ≠ some x := fun hp => hself ((hinverse x).1.mpr hp)
      rw [if_neg (hfree x).2]
      by_cases hax : a = x
      · simp [hax, h.unlinked]
      · by_cases hay : a = y
        · simp only [hay, Ne.symm hne, if_false, if_true, Equiv.swap_apply_right]
          rw [if_neg (hfree x).1, map_swap_eq_self_iff hne, map_swap_eq_self_iff hne]
          exact ⟨⟨hself, (hfree x).1⟩, ⟨hself', (hfree x).2⟩⟩
        · simp only [hax, hay, if_false, Equiv.swap_apply_of_ne_of_ne hax hay]
          constructor
          · split_ifs with hp
            · rw [some_eq_map_swap_iff]
              exact (hinverse a).1.mpr hp
            · rw [map_swap_eq_self_iff hne]
              exact ⟨fun hn => hp ((hinverse a).1.mp hn), (hfree a).1⟩
          · split_ifs with hn
            · rw [some_eq_map_swap_iff]
              exact (hinverse a).2.mp hn
            · rw [map_swap_eq_self_iff hne]
              exact ⟨fun hp => hn ((hinverse a).2.mpr hp), (hfree a).2⟩

end Move

end Links

end A9N
