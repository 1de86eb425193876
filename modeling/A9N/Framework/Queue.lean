import Mathlib

/-!
# Intrusive queues

A doubly linked queue whose links are stored in its members: `next` and `preview` are the link
fields, `head` and `tail` the queue's own two pointers. `Queued` relates the pointers to the list
of members, first to last.
-/

namespace A9N

open Function List

variable {α : Type*} {next preview next' preview' : α → Option α} {head tail : Option α}
  {l l1 l2 : List α} {a b x : α}

structure Queued (next preview : α → Option α) (head tail : Option α) (l : List α) : Prop where
  head_eq : head = l.head?
  tail_eq : tail = l.getLast?
  nodup : l.Nodup
  links : ∀ l1 a l2, l = l1 ++ a :: l2 → preview a = l1.getLast? ∧ next a = l2.head?

private theorem getLast?_ne_of_nodup {d : α} (h : (l1 ++ a :: d :: l2).Nodup) :
    (l1 ++ a :: d :: l2).getLast? ≠ some a := by
  intro hlast
  have hin : a ∈ d :: l2 := by
    apply mem_of_getLast?
    simpa [getLast?_append, getLast?_cons_cons] using hlast
  rw [nodup_append] at h
  exact (nodup_cons.mp h.2.1).1 hin

namespace Queued

theorem empty : Queued next preview none none [] where
  head_eq := rfl
  tail_eq := rfl
  nodup := nodup_nil
  links l1 a l2 h := by simp at h

section

variable (h : Queued next preview head tail l)
include h

theorem head_eq_none_iff : head = none ↔ l = [] := by
  rw [h.head_eq, head?_eq_none_iff]

theorem tail_eq_none_iff : tail = none ↔ l = [] := by
  rw [h.tail_eq, getLast?_eq_none_iff]

theorem congr (hnext : ∀ b ∈ l, next' b = next b)
    (hpreview : ∀ b ∈ l, preview' b = preview b) : Queued next' preview' head tail l where
  head_eq := h.head_eq
  tail_eq := h.tail_eq
  nodup := h.nodup
  links l1 a l2 hl := by
    have ha : a ∈ l := by simp [hl]
    rw [hnext a ha, hpreview a ha]
    exact h.links l1 a l2 hl

theorem mem_of_next (ha : a ∈ l) (hb : next a = some b) : b ∈ l := by
  obtain ⟨l1, l2, rfl⟩ := append_of_mem ha
  have hlink := (h.links l1 a l2 rfl).2
  rw [hb] at hlink
  have hmem := mem_of_head? hlink.symm
  simp [hmem]

theorem mem_of_preview (ha : a ∈ l) (hb : preview a = some b) : b ∈ l := by
  obtain ⟨l1, l2, rfl⟩ := append_of_mem ha
  have hlink := (h.links l1 a l2 rfl).1
  rw [hb] at hlink
  have hmem := mem_of_getLast? hlink.symm
  simp [hmem]

end

section Rules

variable [DecidableEq α]

theorem push (h : Queued next preview head tail l) (hx : x ∉ l) (hnextx : next' x = none)
    (hpreviewx : preview' x = tail)
    (hnext : ∀ b ∈ l, next' b = if tail = some b then some x else next b)
    (hpreview : ∀ b ∈ l, preview' b = preview b) :
    Queued next' preview' (head.or (some x)) (some x) (l ++ [x]) where
  head_eq := by
    rw [h.head_eq]
    cases l <;> simp
  tail_eq := by simp
  nodup := by
    rw [nodup_append]
    refine ⟨h.nodup, by simp, ?_⟩
    intro b hb c hc
    rw [mem_singleton] at hc
    rintro rfl
    exact hx (hc ▸ hb)
  links l1 a l2 hl := by
    -- the position is the new last one or a position of the old list
    rcases eq_nil_or_concat l2 with rfl | ⟨l2, c, rfl⟩
    · obtain ⟨rfl, hax⟩ := append_inj' hl rfl
      simp only [cons.injEq, and_true] at hax
      subst hax
      exact ⟨by rw [hpreviewx, h.tail_eq], by simpa using hnextx⟩
    · have hl' : l ++ [x] = (l1 ++ a :: l2) ++ [c] := by simpa using hl
      obtain ⟨rfl, hc⟩ := append_inj' hl' rfl
      simp only [cons.injEq, and_true] at hc
      subst hc
      have hmem : a ∈ l1 ++ a :: l2 := by simp
      obtain ⟨hp, hn⟩ := h.links l1 a l2 rfl
      refine ⟨by rw [hpreview a hmem, hp], ?_⟩
      rw [hnext a hmem, h.tail_eq]
      cases l2 with
      | nil => simp
      | cons d l2 =>
        rw [if_neg (getLast?_ne_of_nodup h.nodup), hn]
        simp

theorem remove (h : Queued next preview head tail (l1 ++ x :: l2))
    (hnext : ∀ b ∈ l1 ++ l2, next' b = if preview x = some b then next x else next b)
    (hpreview : ∀ b ∈ l1 ++ l2, preview' b = if next x = some b then preview x else preview b) :
    Queued next' preview' (if preview x = none then next x else head)
      (if next x = none then preview x else tail) (l1 ++ l2) := by
  obtain ⟨hpx, hnx⟩ := h.links l1 x l2 rfl
  have hnodup := h.nodup
  rw [nodup_append, nodup_cons] at hnodup
  obtain ⟨hnd1, ⟨hx2, hnd2⟩, hdisjoint⟩ := hnodup
  refine ⟨?_, ?_, ?_, ?_⟩
  · rw [hpx, hnx, h.head_eq]
    cases l1 <;> simp
  · rw [hpx, hnx, h.tail_eq]
    cases l2 <;> simp [getLast?_append, getLast?_cons_cons]
  · rw [nodup_append]
    exact ⟨hnd1, hnd2, fun a ha b hb => hdisjoint a ha b (by simp [hb])⟩
  · intro m1 a m2 hl
    have hmem : a ∈ l1 ++ l2 := by simp [hl]
    rw [hnext a hmem, hpreview a hmem, hpx, hnx]
    rcases append_eq_append_iff.mp hl with ⟨t, rfl, ht⟩ | ⟨t, rfl, ht⟩
    · -- the position lies behind the removed member
      obtain ⟨hp, hn⟩ := h.links (l1 ++ x :: t) a m2 (by simp [ht])
      have ha1 : l1.getLast? ≠ some a := by
        intro hlast
        exact hdisjoint a (mem_of_getLast? hlast) a (by simp [ht]) rfl
      rw [if_neg ha1, hp, hn]
      refine ⟨?_, rfl⟩
      cases t with
      | nil => simp [ht]
      | cons c t =>
        have hca : l2.head? ≠ some a := by
          rw [ht] at hnd2 ⊢
          simp only [cons_append, head?_cons, ne_eq, Option.some.injEq]
          rintro rfl
          simp at hnd2
        rw [if_neg hca]
        simp [getLast?_append, getLast?_cons_cons]
    · -- the position lies before it, or is the one right behind it
      cases t with
      | nil =>
        have ht' : l2 = a :: m2 := by simpa using ht.symm
        obtain ⟨hp, hn⟩ := h.links (m1 ++ [x]) a m2 (by simp [ht'])
        have ha1 : m1.getLast? ≠ some a := by
          intro hlast
          exact hdisjoint a (by simp [mem_of_getLast? hlast]) a (by simp [ht']) rfl
        simp [ht', hn, ha1]
      | cons c t =>
        obtain ⟨rfl, rfl⟩ : a = c ∧ m2 = t ++ l2 := by simpa using ht
        obtain ⟨hp, hn⟩ := h.links m1 a (t ++ x :: l2) (by simp)
        have ha2 : l2.head? ≠ some a := by
          intro hhead
          exact hdisjoint a (by simp) a (by simp [mem_of_head? hhead]) rfl
        rw [if_neg ha2, hp, hn]
        refine ⟨rfl, ?_⟩
        cases t with
        | nil => simp
        | cons d t =>
          rw [if_neg (getLast?_ne_of_nodup hnd1)]
          simp

end Rules

theorem mem_iff_reachable (h : Queued next preview head tail l) :
    a ∈ l ↔ ∃ first, head = some first ∧
      Relation.ReflTransGen (fun b c => next b = some c) first a := by
  constructor
  · intro ha
    obtain ⟨l1, l2, rfl⟩ := append_of_mem ha
    -- by induction on what precedes the member
    induction l1 using reverseRecOn generalizing a l2 with
    | nil => exact ⟨a, by simpa using h.head_eq, .refl⟩
    | append_singleton l1 b ih =>
      have hl : (l1 ++ [b]) ++ a :: l2 = l1 ++ b :: a :: l2 := by simp
      rw [hl] at h
      obtain ⟨first, hfirst, hreach⟩ := ih (a :: l2) h (by simp)
      have hnext : next b = some a := by simpa using (h.links l1 b (a :: l2) rfl).2
      exact ⟨first, hfirst, hreach.tail hnext⟩
  · rintro ⟨first, hfirst, hreach⟩
    induction hreach with
    | refl => exact mem_of_head? (h.head_eq.symm.trans hfirst)
    | tail _ hnext ih => exact h.mem_of_next ih hnext

end Queued

/-! ## Families of queues

Queues that share their link fields: one list for each index, and every member in one list only. -/

variable {κ : Type*} {heads tails heads' tails' : κ → Option α} {lists : κ → List α} {k : κ}

structure QueueFamily (next preview : α → Option α) (heads tails : κ → Option α)
    (lists : κ → List α) : Prop where
  queued : ∀ k, Queued next preview (heads k) (tails k) (lists k)
  apart : ∀ {a k k'}, a ∈ lists k → a ∈ lists k' → k = k'

namespace QueueFamily

section

variable (h : QueueFamily next preview heads tails lists)
include h

theorem congr (hlinks : ∀ k, ∀ b ∈ lists k, next' b = next b ∧ preview' b = preview b) :
    QueueFamily next' preview' heads tails lists where
  queued k := (h.queued k).congr (fun b hb => (hlinks k b hb).1) fun b hb => (hlinks k b hb).2
  apart := h.apart

theorem tail_ne (hb : b ∉ lists k) : tails k ≠ some b :=
  fun heq => hb (mem_of_getLast? ((h.queued k).tail_eq.symm.trans heq))

theorem link_ne (ha : a ∈ lists k) (hb : b ∉ lists k) : next a ≠ some b ∧ preview a ≠ some b :=
  ⟨fun heq => hb ((h.queued k).mem_of_next ha heq),
    fun heq => hb ((h.queued k).mem_of_preview ha heq)⟩

end

variable [DecidableEq κ]

theorem replace (h : QueueFamily next preview heads tails lists)
    (hqueue : Queued next' preview' (heads' k) (tails' k) l)
    (hheads : ∀ k', k' ≠ k → heads' k' = heads k' ∧ tails' k' = tails k')
    (hlinks : ∀ b, b ≠ x → b ∉ lists k → next' b = next b ∧ preview' b = preview b)
    (hx : ∀ k', k' ≠ k → x ∉ lists k') (hl : ∀ b ∈ l, b = x ∨ b ∈ lists k) :
    QueueFamily next' preview' heads' tails' (update lists k l) where
  queued k' := by
    by_cases hk : k' = k
    · subst hk
      rw [update_self]
      exact hqueue
    · rw [update_of_ne hk, (hheads k' hk).1, (hheads k' hk).2]
      have hout : ∀ b ∈ lists k', b ≠ x ∧ b ∉ lists k := by
        intro b hb
        exact ⟨fun heq => hx k' hk (heq ▸ hb), fun hin => hk (h.apart hb hin)⟩
      apply (h.queued k').congr
      · exact fun b hb => (hlinks b (hout b hb).1 (hout b hb).2).1
      · exact fun b hb => (hlinks b (hout b hb).1 (hout b hb).2).2
  apart := by
    intro a k1 k2 h1 h2
    have helsewhere : ∀ k', k' ≠ k → a ∈ lists k' → a ∉ l := by
      intro k' hk ha hin
      rcases hl a hin with rfl | hin
      · exact hx k' hk ha
      · exact hk (h.apart ha hin)
    by_cases hk1 : k1 = k <;> by_cases hk2 : k2 = k
    · exact hk1.trans hk2.symm
    · rw [hk1, update_self] at h1
      rw [update_of_ne hk2] at h2
      exact absurd h1 (helsewhere k2 hk2 h2)
    · rw [update_of_ne hk1] at h1
      rw [hk2, update_self] at h2
      exact absurd h2 (helsewhere k1 hk1 h1)
    · rw [update_of_ne hk1] at h1
      rw [update_of_ne hk2] at h2
      exact h.apart h1 h2

variable [DecidableEq α]

theorem push (h : QueueFamily next preview heads tails lists) (hx : ∀ k, x ∉ lists k)
    (hnext : ∀ b, next' b = if b = x then none else if tails k = some b then some x else next b)
    (hpreview : ∀ b, preview' b = if b = x then tails k else preview b)
    (hheads : ∀ k', heads' k' = if k' = k then (heads k).or (some x) else heads k')
    (htails : ∀ k', tails' k' = if k' = k then some x else tails k') :
    QueueFamily next' preview' heads' tails' (update lists k (lists k ++ [x])) := by
  have hne : ∀ b ∈ lists k, b ≠ x := fun b hb heq => hx k (heq ▸ hb)
  apply h.replace (x := x)
  · rw [hheads, htails, if_pos rfl, if_pos rfl]
    apply (h.queued k).push (hx k)
    · simp [hnext]
    · simp [hpreview]
    · exact fun b hb => by rw [hnext, if_neg (hne b hb)]
    · exact fun b hb => by rw [hpreview, if_neg (hne b hb)]
  · intro k' hk
    rw [hheads, htails, if_neg hk, if_neg hk]
    exact ⟨rfl, rfl⟩
  · intro b hb hout
    rw [hnext, hpreview, if_neg hb, if_neg hb, if_neg (h.tail_ne hout)]
    exact ⟨rfl, rfl⟩
  · exact fun k' _ => hx k'
  · intro b hb
    rw [mem_append, mem_singleton] at hb
    exact hb.symm

theorem remove (h : QueueFamily next preview heads tails lists) (hx : x ∈ lists k)
    (hnext : ∀ b, b ≠ x → next' b = if preview x = some b then next x else next b)
    (hpreview : ∀ b, b ≠ x → preview' b = if next x = some b then preview x else preview b)
    (hheads : ∀ k', heads' k' = if k' = k then (if preview x = none then next x else heads k)
      else heads k')
    (htails : ∀ k', tails' k' = if k' = k then (if next x = none then preview x else tails k)
      else tails k') :
    QueueFamily next' preview' heads' tails' (update lists k ((lists k).erase x)) := by
  have hq := h.queued k
  obtain ⟨l1, l2, hl⟩ := append_of_mem hx
  have hnodup : (l1 ++ x :: l2).Nodup := hl ▸ hq.nodup
  have hout : x ∉ l1 ++ l2 := by
    rw [nodup_append, nodup_cons] at hnodup
    rw [mem_append, not_or]
    exact ⟨fun hin => hnodup.2.2 x hin x (by simp) rfl, hnodup.2.1.1⟩
  have herase : (lists k).erase x = l1 ++ l2 := by
    rw [hl, erase_append_right _ (fun hin => hout (by simp [hin])), erase_cons_head]
  rw [herase]
  rw [hl] at hq
  apply h.replace (x := x)
  · rw [hheads, htails, if_pos rfl, if_pos rfl]
    apply hq.remove
    · exact fun b hb => hnext b fun heq => hout (heq ▸ hb)
    · exact fun b hb => hpreview b fun heq => hout (heq ▸ hb)
  · intro k' hne
    rw [hheads, htails, if_neg hne, if_neg hne]
    exact ⟨rfl, rfl⟩
  · intro b hb hnot
    obtain ⟨hright, hleft⟩ := h.link_ne hx hnot
    rw [hnext b hb, hpreview b hb, if_neg hleft, if_neg hright]
    exact ⟨rfl, rfl⟩
  · exact fun k' hne hin => hne (h.apart hin hx)
  · intro b hb
    right
    rw [hl]
    rw [mem_append] at hb ⊢
    exact hb.imp_right fun hb => mem_cons_of_mem _ hb

end QueueFamily

end A9N
