import A9N.Kernel.Capability.ReclamationInvariant

/-!
# How far a reclamation reaches

The slots a call can empty: those that the reclamation graph leads to from the slot the call
is for.
-/

namespace A9N.Kernel

namespace Config

open CapState

variable {σ : Type} {st0 : CapState σ} {s id : SlotId} {c c' : Config σ}

/-- The slot a step empties is one that `remove_slot` was called for, an alias that a Node
detaches, or the slot of the innermost activation. -/
theorem Step.cleared (h : Step s c c') (ho : c.state.Occupied id) (he : ¬ c'.state.Occupied id) :
    Called s c id ∨ (∃ frame ∈ c.stack, frame.slot = id) ∨
      ∃ frame ∈ c.stack, ∃ record address index, frame.phase = .entered record ∧
        record.object.component = some (.node address) ∧ id = .node address index := by
  have hsame : ∀ {st st' : CapState σ}, st.Similar st' → st.Occupied id → ¬ st'.Occupied id →
      False := fun hs ho he => he (hs.occupied.mpr ho)
  have hunlink : ∀ {st : CapState σ} {a}, st.Occupied id →
      ¬ (st.unlinkAndClearSlot a).Occupied id → id = a := by
    intro st a ho he
    by_contra hne
    exact he (unlinkAndClearSlot_occupied.mpr ⟨hne, ho⟩)
  cases h with
  | clearEmpty a hcalled _ _ => exact .inl (hunlink ho he ▸ hcalled)
  | clearAlias a hcalled _ _ _ => exact .inl (hunlink ho he ▸ hcalled)
  | clearDangling a hcalled _ _ _ => exact .inl (hunlink ho he ▸ hcalled)
  | @breakCycle stack st a address hcalled _ _ _ =>
    have he' : ¬ (st.unlinkAndClearSlot a).Occupied id := he
    exact .inl (hunlink ho he' ▸ hcalled)
  | pin a removing _ _ _ _ _ _ => exact (hsame (similar_setReclaiming a true) ho he).elim
  | begin => exact absurd ho he
  | enter => exact absurd ho he
  | detach a last removing record address index hcomponent _ _ _ =>
    exact .inr (.inr ⟨_, List.mem_cons_self, record, address, index, rfl, hcomponent,
      hunlink ho he⟩)
  | leave => exact absurd ho he
  | @reset stack st a last removing record _ _ =>
    refine absurd ?_ he
    have hne : ((st.resetWatermark a).slots id).type ≠ .none := by
      simp only [resetWatermark, modifySlot_slots]
      split_ifs with ha
      · exact ha ▸ ho
      · exact ho
    exact hne
  | release => exact absurd ho he
  | clearBuffer => exact absurd ho he
  | outside => exact absurd ho he
  | complete => exact absurd ho he
  | reenter => exact absurd ho he
  | @finalise stack st a last phase _ =>
    have ho' : (st.unpin a).Occupied id := (similar_setReclaiming a false).occupied.mpr ho
    exact .inr (.inl ⟨_, List.mem_cons_self, (hunlink ho' he).symm⟩)

def Invariant.Reached (st0 : CapState σ) (s : SlotId) (st : CapState σ) : Prop :=
  ∀ id, st0.Occupied id → ¬ st.Occupied id → st0.Reaches s id

theorem Invariant.reached_step (hinv : Invariant st0 s c) (h : Reached st0 s c.state)
    (hstep : Step s c c') : Reached st0 s c'.state := by
  intro id ho0 he
  by_cases ho : c.state.Occupied id
  · have hframe : ∀ frame ∈ c.stack, st0.Reaches s frame.slot := by
      intro frame hf
      have hpath := hinv.path (List.ne_nil_of_mem hf)
      exact hpath.reaches_of_mem _ (List.mem_map.mpr ⟨frame, hf, rfl⟩)
    obtain hcalled | ⟨frame, hf, hslot⟩ | ⟨frame, hf, record, address, index, hp, hr, hid⟩ :=
      hstep.cleared ho he
    · obtain ⟨stack, st⟩ := c
      cases stack with
      | nil =>
        have hs : id = s := hcalled
        exact hs ▸ .refl
      | cons frame rest =>
        exact (hframe frame List.mem_cons_self).tail (hinv.touches hcalled ho)
    · exact hslot ▸ hframe frame hf
    · have hrecord := ((hinv.frames frame hf).record record (by rw [hp]; rfl)).2.component
      exact (hframe frame hf).tail ⟨ho0, .inr (.inr ⟨address, index, hrecord.symm.trans hr, hid⟩)⟩
  · exact h id ho0 ho

theorem Invariant.reached_steps (hbuilt : st0.KernelBuilt) (hidle : st0.Idle) {failing : Bool}
    (hsteps : Steps failing s ⟨[], st0⟩ c) : Reached st0 s c.state := by
  have hstart := Invariant.start hbuilt.linked hidle (s := s)
  refine hsteps.induct (P := fun d => Reached st0 s d.state) (fun _ ho he => absurd ho he) ?_ ?_
  · intro d d' hd h hstep
    exact (hstart.steps hbuilt hd).reached_step h hstep
  · intro _ d d' _ h hgiveUp
    cases hgiveUp with
    | unpin frame _ _ =>
      intro id ho he
      exact h id ho fun ho' => he ((similar_setReclaiming frame.slot false).occupied.mpr ho')

end Config

end A9N.Kernel
