import A9N.Kernel.Capability.ReclamationReach

/-!
# The descendant segment of a slot

The descendants of a slot are the deeper slots that follow its group of aliases. `revoke_slot`
walks from the last alias it found at its start; the lemmas here say when that walk meets
every descendant.
-/

namespace A9N.Kernel

def Slot.Alike (a b : Slot) : Prop := a.depth = b.depth ∧ a.isSameObject b

instance (a b : Slot) : Decidable (a.Alike b) := inferInstanceAs (Decidable (_ ∧ _))

theorem Slot.Alike.symm {a b : Slot} (h : a.Alike b) : b.Alike a :=
  ⟨h.1.symm, Slot.isSameObject_symm h.2⟩

theorem Slot.Alike.trans {a b c : Slot} (hab : a.Alike b) (hbc : b.Alike c) : a.Alike c :=
  ⟨hab.1.trans hbc.1, Slot.isSameObject_trans hab.2 hbc.2⟩

namespace CapState

variable {σ : Type} {st0 st : CapState σ} {a b c s : SlotId}

def Follows (st : CapState σ) (a b : SlotId) : Prop :=
  Relation.TransGen (st.links.Step fun _ c => st.depth a < st.depth c ∨ st.Peer a c) a b

theorem Descends.follows (hg : st.Grouped a) (h : st.Descends a b) : st.Follows a b := by
  obtain ⟨c, hc, hcb⟩ := h
  have hdeeper : ∀ {c}, st.depth a = st.depth c → st.Below c b →
      Relation.TransGen (st.links.Step fun _ c => st.depth a < st.depth c ∨ st.Peer a c) c b := by
    intro c hd hcb
    refine Relation.TransGen.mono (fun x y step => ⟨step.1, .inl ?_⟩) c b hcb
    rw [hd]
    exact step.2
  obtain hc | hc := hc
  · rw [hc] at hcb
    exact hdeeper rfl hcb
  obtain hac | hac | hca := hg c hc
  · rw [← hac] at hcb
    exact hdeeper rfl hcb
  · -- over the aliases between `a` and `c`, then down from `c`
    have hpeers : ∀ {y}, Relation.TransGen (st.links.Step st.Peer) a y →
        Relation.TransGen (st.links.Step fun _ c => st.depth a < st.depth c ∨ st.Peer a c) a y ∧
          st.Peer a y := by
      intro y hy
      induction hy with
      | single step => exact ⟨.single ⟨step.1, .inr step.2⟩, step.2⟩
      | tail _ step ih =>
        have hp := ih.2.trans step.2
        exact ⟨ih.1.tail ⟨step.1, .inr hp⟩, hp⟩
    exact (hpeers hac).1.trans (hdeeper hc.1 hcb)
  · -- an alias behind `c` leaves no room for descendants directly behind it
    obtain ⟨d, hstep, -⟩ := Relation.TransGen.head'_iff.mp hca
    obtain ⟨e, he, hlt⟩ := hcb.head
    have hde : d = e := Option.some.inj (hstep.1.symm.trans he)
    have hd : st.depth c = st.depth d := hstep.2.1
    rw [hd, hde] at hlt
    exact absurd hlt (lt_irrefl _)

theorem Follows.below (hl : st.Linked) (halone : ∀ c, st.Peer a c → c = a)
    (h : st.Follows a b) : st.Below a b := by
  have hwf := hl.wellFormed
  induction h with
  | single step =>
    obtain hlt | hp := step.2
    · exact .single ⟨step.1, hlt⟩
    · exact absurd (halone _ hp ▸ step.1) (hwf.next_ne_self a)
  | @tail x y _ step ih =>
    obtain hlt | hp := step.2
    · exact ih.tail ⟨step.1, hlt⟩
    · -- the way would come back to `a`
      have hya := halone _ hp
      have hcycle : st.links.Before a a := ih.before.tail ⟨hya ▸ step.1, trivial⟩
      exact absurd hcycle (hwf.not_path_self a)

theorem Descends.peer (hl : st.Linked) (hg : st.Grouped b) (h : st.Descends a b)
    (hp : st.Peer b c) : st.Descends a c := by
  obtain ⟨p, hap, hpb⟩ := h
  refine ⟨p, hap, ?_⟩
  obtain hbc | hbc | hcb := hg c hp
  · exact hbc ▸ hpb
  · have hon : ∀ {x y}, st.links.Step st.Peer x y → st.Below p x → st.Below p y := by
      intro x y step hpx
      refine hpx.tail ⟨step.1, ?_⟩
      have hd : st.depth x = st.depth y := step.2.1
      dsimp only
      rw [← hd]
      exact hpx.depth_lt
    clear hp
    induction hbc with
    | single step => exact hon step hpb
    | tail _ step ih => exact hon step ih
  · -- walking back from `b` over its aliases never meets `p`
    have hback : ∀ {x y}, st.links.next x = some y → st.Peer x y → st.Below p y → st.Below p x := by
      intro x y hxy hpeer hpy
      have hpy' : Relation.TransGen _ p y := hpy
      obtain ⟨w, hpw, hstep⟩ := Relation.TransGen.tail'_iff.mp hpy'
      have hwx : w = x := hl.wellFormed.next_injective hstep.1 hxy
      rw [hwx] at hpw
      rcases hpw.cases_tail with heq | ⟨v, hpv, hstep'⟩
      · have hlt := hpy.depth_lt
        have hd : st.depth x = st.depth y := hpeer.1
        rw [← hd, heq] at hlt
        exact absurd hlt (lt_irrefl _)
      · exact Relation.TransGen.tail' hpv hstep'
    clear hp
    induction hcb using Relation.TransGen.head_induction_on with
    | single step => exact hback step.1 step.2 hpb
    | head step _ ih => exact hback step.1 step.2 ih

namespace Shrunk

variable (h : st0.Shrunk st)

include h

section

variable (ha : st.Occupied a) (hb : st.Occupied b)
include ha hb

theorem peer_iff : st.Peer a b ↔ st0.Peer a b := by
  have hka := h.kept a ha
  have hkb := h.kept b hb
  rw [Peer, Peer, hka.depth, hkb.depth, hka.isSameObject hkb]

theorem follows (hab : st0.Follows a b) : st.Follows a b := by
  have hpath := h.path (fun c => st0.depth a < st0.depth c ∨ st0.Peer a c) a b ha hb hab
  refine Relation.TransGen.mono (fun x y step => ⟨step.1, ?_⟩) a b hpath
  have hy := (h.linked.occupied_of_next step.1).2
  have hda : st.depth a = st0.depth a := (h.kept a ha).depth
  have hdy : st.depth y = st0.depth y := (h.kept y hy).depth
  dsimp only
  rw [hda, hdy, h.peer_iff ha hy]
  exact step.2

theorem below (hab : st0.Below a b) : st.Below a b := by
  have hpath := h.path (fun c => st0.depth a < st0.depth c) a b ha hb hab
  refine Relation.TransGen.mono (fun x y step => ⟨step.1, ?_⟩) a b hpath
  have hda : st.depth a = st0.depth a := (h.kept a ha).depth
  have hdy : st.depth y = st0.depth y := (h.kept y (h.linked.occupied_of_next step.1).2).depth
  dsimp only
  rw [hda, hdy]
  exact step.2

end

end Shrunk

def Counted (st : CapState σ) : Prop :=
  ∃ rank : SlotId → ℕ, ∀ a b, st.links.next a = some b → rank a < rank b ∧ rank b < st.slotCount

theorem lastAliasLoop_last {rank : SlotId → ℕ}
    (hrank : ∀ a b, st.links.next a = some b → rank a < rank b ∧ rank b < st.slotCount)
    (self : Slot) (steps : ℕ) (last next : SlotId) (hsteps : st.slotCount ≤ rank last + steps)
    (hnext : (st.slots (st.lastAliasLoop self steps last)).nextSlot = some next) :
    ¬ ((st.slots next).depth = self.depth ∧ self.isSameObject (st.slots next)) := by
  induction steps generalizing last with
  | zero =>
    have := hrank last next hnext
    omega
  | succ steps ih =>
    rw [lastAliasLoop] at hnext
    split at hnext
    · rename_i hnone
      simp [hnone] at hnext
    · rename_i d hd
      split_ifs at hnext with hpeer
      · have := hrank last d hd
        exact ih d (by omega) hnext
      · rw [hd, Option.some.injEq] at hnext
        rwa [← hnext]

theorem lastAliasInGroup_last (hcount : st.Counted) {next : SlotId}
    (hnext : (st.slots (st.lastAliasInGroup a)).nextSlot = some next) : ¬ st.Peer a next := by
  obtain ⟨rank, hrank⟩ := hcount
  have hlast := lastAliasLoop_last hrank (st.slots a) st.slotCount a next (Nat.le_add_left _ _) hnext
  intro hp
  exact hlast ⟨hp.1.symm, hp.2⟩

theorem Descends.below_last (hcount : st.Counted) (hg : ∀ c, st.Grouped c) (h : st.Descends s b) :
    st.Below (st.lastAliasInGroup s) b := by
  obtain ⟨c, hsc, hcb⟩ := h
  have hlast := lastAliasInGroup_peer st s
  have hcl : c = st.lastAliasInGroup s ∨ st.Peer c (st.lastAliasInGroup s) := by
    obtain hsc | hsc := hsc <;> obtain hl | hl := hlast
    · exact .inl (hsc.trans hl.symm)
    · exact .inr (hsc ▸ hl)
    · exact .inr (hl.symm ▸ hsc.symm)
    · exact .inr (hsc.symm.trans hl)
  obtain hcl | hcl := hcl
  · exact hcl ▸ hcb
  obtain heq | hpath | hpath := hg c _ hcl
  · exact heq ▸ hcb
  · obtain ⟨d, hstep, -⟩ := Relation.TransGen.head'_iff.mp hpath
    obtain ⟨e, he, hlt⟩ := hcb.head
    have hde : d = e := Option.some.inj (hstep.1.symm.trans he)
    have hd : st.depth c = st.depth d := hstep.2.1
    rw [hd, hde] at hlt
    exact absurd hlt (lt_irrefl _)
  · obtain ⟨d, hstep, -⟩ := Relation.TransGen.head'_iff.mp hpath
    have hsd : st.Peer s d := by
      obtain hl | hl := hlast
      · exact hl ▸ hstep.2
      · exact hl.trans hstep.2
    exact absurd hsd (lastAliasInGroup_last hcount hstep.1)

end CapState

end A9N.Kernel
