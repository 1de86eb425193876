import A9N.Kernel.Capability.ReclamationInvariant

/-!
# The history of a reclamation

Which objects have lost their slots, whose callbacks have completed, and which slots a call
can have reached. Two slots name the same object under a notion of identity that is left
open here: with or without their depth.
-/

namespace A9N.Kernel

open List

namespace CapState

variable {σ : Type} {st0 st : CapState σ}

structure Identity (st0 : CapState σ) (R : Slot → Slot → Prop) : Prop where
  trans : ∀ a b c, R a b → R b c → R a c
  peer : ∀ a b, st0.Peer a b → R (st0.slots a) (st0.slots b)
  node : ∀ a b address, st0.Occupied a → st0.Occupied b →
    (st0.slots a).component = some (.node address) →
    (st0.slots b).component = some (.node address) → R (st0.slots a) (st0.slots b)
  kept : ∀ a object, st0.Occupied a → (st0.slots a).Kept object → R (st0.slots a) object

/-- The object of `a` still has a slot, or its callback has completed. -/
def Accounted (R : Slot → Slot → Prop) (st0 st : CapState σ) (completed : List Revocation)
    (a : SlotId) : Prop :=
  (∃ b, st.Occupied b ∧ R (st0.slots a) (st0.slots b)) ∨
    ∃ record ∈ completed, R (st0.slots a) record.object

theorem identity_isSameObject (hbuilt : st0.KernelBuilt) :
    st0.Identity fun a b => a.isSameObject b where
  trans _ _ _ := Slot.isSameObject_trans
  peer _ _ h := h.2
  node a b address ha hb hca hcb := by
    have htype : ∀ c, st0.Occupied c → (st0.slots c).component = some (.node address) →
        (st0.slots c).type = .node := by
      intro c hc hcc
      obtain ⟨component, hcomponent, ht⟩ := hbuilt.typed c hc
      rw [hcc, Option.some.injEq] at hcomponent
      rw [ht, ← hcomponent]
      rfl
    simp [Slot.isSameObject, hca, hcb, htype a ha hca, htype b hb hcb, Component.isSameObject]
  kept a object ha hkept := by
    obtain ⟨component, hc, -⟩ := hbuilt.typed a ha
    rw [(Slot.Kept.refl (st0.slots a)).isSameObject hkept]
    exact Slot.isSameObject_refl ha (by simp [hc])

end CapState

namespace Config

open CapState

variable {σ : Type} {R : Slot → Slot → Prop} {st0 st st' : CapState σ} {s id : SlotId}
  {stack : List Frame}

/-- `completed` are the callbacks that the call has completed and `broken` the slots it has
emptied to break a cycle, the latest first. -/
structure History (R : Slot → Slot → Prop) (st0 : CapState σ) (c : Config σ)
    (completed : List Revocation) (broken : List SlotId) : Prop where
  revocations : c.state.revocations = completed ++ st0.revocations
  breaks : c.state.cycleBreaks = broken ++ st0.cycleBreaks
  accounted : ∀ a, st0.Occupied a → Accounted R st0 c.state completed a ∨
    ∃ id ∈ broken, R (st0.slots a) (st0.slots id)
  origin : ∀ record ∈ completed, st0.Occupied record.slot ∧
    (st0.slots record.slot).Kept record.object
  recorded : ∀ frame ∈ c.stack, ∀ record, frame.phase = .completed record → record ∈ completed
  reentered : ∀ frame rest, c.stack = frame :: rest → frame.phase = .reentered →
    ∃ other ∈ rest, R (st0.slots frame.slot) (st0.slots other.slot)
  cut : ∀ frame ∈ c.stack, c.state.Occupied frame.slot ∨ frame.slot ∈ broken
  lost : ∀ id ∈ broken, st0.Occupied id ∧ ¬ c.state.Occupied id ∧
    (∃ address, (st0.slots id).component = some (.node address)) ∧
    Relation.TransGen st0.Touches id id

namespace History

variable {completed : List Revocation} {broken : List SlotId}

theorem start (hR : st0.Identity R) : History R st0 ⟨[], st0⟩ [] [] where
  revocations := rfl
  breaks := rfl
  accounted a ha := .inl (.inl ⟨a, ha, hR.kept a _ ha (Slot.Kept.refl _)⟩)
  origin _ h := absurd h not_mem_nil
  recorded _ h := absurd h not_mem_nil
  reentered _ _ h := by simp at h
  cut _ h := absurd h not_mem_nil
  lost _ h := absurd h not_mem_nil

theorem same (h : History R st0 ⟨stack, st⟩ completed broken)
    (hrevocations : st'.revocations = st.revocations) (hbreaks : st'.cycleBreaks = st.cycleBreaks)
    (ho : ∀ a, st'.Occupied a ↔ st.Occupied a) :
    History R st0 ⟨stack, st'⟩ completed broken where
  revocations := hrevocations.trans h.revocations
  breaks := hbreaks.trans h.breaks
  accounted := by simpa only [Accounted, ho] using h.accounted
  origin := h.origin
  recorded := h.recorded
  reentered := h.reentered
  cut := by simpa only [ho] using h.cut
  lost := by simpa only [ho] using h.lost

/-- An activation changes its phase. -/
theorem advance {last : SlotId} {removing : Bool} {phase phase' : Phase}
    (h : History R st0 ⟨⟨id, last, removing, phase⟩ :: stack, st⟩ completed broken)
    (hrecorded : ∀ record, phase' = .completed record → record ∈ completed)
    (hreentered : phase' = .reentered →
      ∃ other ∈ stack, R (st0.slots id) (st0.slots other.slot)) :
    History R st0 ⟨⟨id, last, removing, phase'⟩ :: stack, st⟩ completed broken where
  revocations := h.revocations
  breaks := h.breaks
  accounted := h.accounted
  origin := h.origin
  recorded f hf record hr := by
    rcases mem_cons.mp hf with hf | hf
    · rw [hf] at hr
      exact hrecorded record hr
    · exact h.recorded f (mem_cons_of_mem _ hf) record hr
  reentered f rest hf hr := by
    obtain ⟨hf, hrest⟩ := cons.inj hf
    rw [← hf] at hr ⊢
    rw [← hrest]
    exact hreentered hr
  cut f hf := by
    rcases mem_cons.mp hf with hf | hf
    · rw [hf]
      exact h.cut ⟨id, last, removing, phase⟩ mem_cons_self
    · exact h.cut f (mem_cons_of_mem _ hf)
  lost := h.lost

theorem record (h : History R st0 ⟨stack, st⟩ completed broken) {record : Revocation}
    (horigin : st0.Occupied record.slot ∧ (st0.slots record.slot).Kept record.object) :
    History R st0 ⟨stack, st.recordRevocation record⟩ (record :: completed) broken where
  revocations := congrArg (record :: ·) h.revocations
  breaks := h.breaks
  accounted a ha := by
    refine (h.accounted a ha).imp_left fun haccounted => haccounted.imp_right fun hother => ?_
    obtain ⟨other, hother, hab⟩ := hother
    exact ⟨other, mem_cons_of_mem _ hother, hab⟩
  origin other hother := by
    rcases mem_cons.mp hother with heq | hother
    · exact heq ▸ horigin
    · exact h.origin other hother
  recorded f hf other hr := mem_cons_of_mem _ (h.recorded f hf other hr)
  reentered := h.reentered
  cut := h.cut
  lost := h.lost

theorem pop {frame : Frame} (hinv : Invariant st0 s ⟨frame :: stack, st⟩)
    (h : History R st0 ⟨frame :: stack, st⟩ completed broken) :
    History R st0 ⟨stack, st⟩ completed broken where
  revocations := h.revocations
  breaks := h.breaks
  accounted := h.accounted
  origin := h.origin
  recorded f hf record hr := h.recorded f (mem_cons_of_mem _ hf) record hr
  reentered f rest hf hr := by
    -- an activation that has called another one is not finished
    have hmem : f ∈ stack := by
      rw [show stack = f :: rest from hf]
      exact mem_cons_self
    have hrunning := (hinv.callers f hmem).running
    rw [hr] at hrunning
    exact hrunning.elim
  cut f hf := h.cut f (mem_cons_of_mem _ hf)
  lost := h.lost

theorem unlink (hR : st0.Identity R) (h : History R st0 ⟨stack, st⟩ completed broken)
    (hcut : st.Occupied id → ∀ f ∈ stack, f.slot ≠ id)
    (hid : st.Occupied id → (∃ b, b ≠ id ∧ st.Occupied b ∧ R (st0.slots id) (st0.slots b)) ∨
      (∃ record ∈ completed, R (st0.slots id) record.object) ∨
        ∃ other ∈ broken, R (st0.slots id) (st0.slots other)) :
    History R st0 ⟨stack, st.unlinkAndClearSlot id⟩ completed broken where
  revocations := (unlinkAndClearSlot_revocations _ _).trans h.revocations
  breaks := (unlinkAndClearSlot_cycleBreaks _ _).trans h.breaks
  accounted a ha := by
    obtain (⟨b, hb, hab⟩ | hrecord) | hbroken := h.accounted a ha
    · by_cases hbid : b = id
      · rw [hbid] at hb hab
        obtain ⟨c, hc, hoc, hbc⟩ | ⟨record, hr, hbc⟩ | ⟨other, ho, hbc⟩ := hid hb
        · exact .inl (.inl ⟨c, unlinkAndClearSlot_occupied.mpr ⟨hc, hoc⟩, hR.trans _ _ _ hab hbc⟩)
        · exact .inl (.inr ⟨record, hr, hR.trans _ _ _ hab hbc⟩)
        · exact .inr ⟨other, ho, hR.trans _ _ _ hab hbc⟩
      · exact .inl (.inl ⟨b, unlinkAndClearSlot_occupied.mpr ⟨hbid, hb⟩, hab⟩)
    · exact .inl (.inr hrecord)
    · exact .inr hbroken
  origin := h.origin
  recorded := h.recorded
  reentered := h.reentered
  cut f hf := by
    refine (h.cut f hf).imp_left fun ho => unlinkAndClearSlot_occupied.mpr ⟨fun hslot => ?_, ho⟩
    exact hcut (hslot ▸ ho) f hf hslot
  lost other hother := by
    obtain ⟨hstart, hempty, hrest⟩ := h.lost other hother
    exact ⟨hstart, fun ho => hempty (unlinkAndClearSlot_occupied.mp ho).2, hrest⟩

theorem breakCycle (h : History R st0 ⟨stack, st⟩ completed broken)
    (hstart : st0.Occupied id) (hnode : ∃ address, (st0.slots id).component = some (.node address))
    (hcycle : Relation.TransGen st0.Touches id id) :
    History R st0 ⟨stack, (st.unlinkAndClearSlot id).recordCycleBreak id⟩ completed
      (id :: broken) where
  revocations := (unlinkAndClearSlot_revocations _ _).trans h.revocations
  breaks := congrArg (id :: ·) ((unlinkAndClearSlot_cycleBreaks _ _).trans h.breaks)
  accounted a ha := by
    obtain (⟨b, hb, hab⟩ | hrecord) | ⟨other, hother, hab⟩ := h.accounted a ha
    · by_cases hbid : b = id
      · exact .inr ⟨id, mem_cons_self, hbid ▸ hab⟩
      · exact .inl (.inl ⟨b, unlinkAndClearSlot_occupied.mpr ⟨hbid, hb⟩, hab⟩)
    · exact .inl (.inr hrecord)
    · exact .inr ⟨other, mem_cons_of_mem _ hother, hab⟩
  origin := h.origin
  recorded := h.recorded
  reentered := h.reentered
  cut f hf := by
    by_cases hslot : f.slot = id
    · exact .inr (hslot ▸ mem_cons_self)
    · obtain ho | hbroken := h.cut f hf
      · exact .inl (unlinkAndClearSlot_occupied.mpr ⟨hslot, ho⟩)
      · exact .inr (mem_cons_of_mem _ hbroken)
  lost other hother := by
    rcases mem_cons.mp hother with heq | hother
    · rw [heq]
      exact ⟨hstart, fun ho => (unlinkAndClearSlot_occupied.mp ho).1 rfl, hnode, hcycle⟩
    · obtain ⟨hstart, hempty, hrest⟩ := h.lost other hother
      exact ⟨hstart, fun ho => hempty (unlinkAndClearSlot_occupied.mp ho).2, hrest⟩

section

variable (hbuilt : st0.KernelBuilt) (hR : st0.Identity R)
  {c c' : Config σ} (hinv : Invariant st0 s c) (h : History R st0 c completed broken)
include hbuilt hR hinv h

theorem step (hstep : Step s c c') :
    ∃ completed' broken', History R st0 c' completed' broken' := by
  cases hstep with
  | @clearEmpty stack st id hcalled hpin hempty =>
    exact ⟨completed, broken, h.unlink hR (fun ho => absurd ho hempty) fun ho => absurd ho hempty⟩
  | @clearAlias stack st id hcalled hpin hoccupied hsibling =>
    refine ⟨completed, broken, h.unlink hR (hinv.not_mem_stack hpin) fun _ => .inl ?_⟩
    have hwf := hinv.shrunk.linked.wellFormed
    have hpeer0 : ∀ b, st.Peer id b → R (st0.slots id) (st0.slots b) :=
      fun b hb => hR.peer id b (hinv.shrunk.peer hb)
    obtain ⟨b, hb, hpeer⟩ | ⟨b, hb, hpeer⟩ := hasSibling_iff.mp hsibling
    · exact ⟨b, fun heq => hwf.next_ne_self id (heq ▸ hb), hpeer.occupied.2, hpeer0 b hpeer⟩
    · exact ⟨b, fun heq => hwf.preview_ne_self id (heq ▸ hb), hpeer.occupied.2, hpeer0 b hpeer⟩
  | @clearDangling stack st id hcalled hpin hoccupied hcomponent =>
    exact absurd hcomponent (hinv.component_ne_none hbuilt hoccupied)
  | @breakCycle stack st id address hcalled hpin hcomponent hactive =>
    obtain ⟨ho, f, hf, hslot⟩ := (hinv.pinned id).mp hpin
    refine ⟨completed, id :: broken, h.breakCycle (hinv.shrunk.occupied ho) ⟨address, ?_⟩ ?_⟩
    · rw [← (hinv.shrunk.kept id ho).component]
      exact hcomponent
    · -- the activations lead from this slot to the innermost one, which calls for it again
      cases stack with
      | nil => exact absurd hf not_mem_nil
      | cons g rest =>
        have hpath := hinv.path (cons_ne_nil _ _)
        have hmem : id ∈ (g :: rest).map Frame.slot := mem_map.mpr ⟨f, hf, hslot⟩
        exact Relation.TransGen.tail' (hpath.reaches_head _ _ rfl id hmem)
          (hinv.touches hcalled ho)
  | @pin stack st id removing hcalled hpin hoccupied hcomponent hremoving hrevoking =>
    have hs : st.Similar (st.pin id) := similar_setReclaiming id true
    have hpinned : History R st0 ⟨stack, st.pin id⟩ completed broken :=
      h.same rfl rfl fun a => hs.occupied
    refine ⟨completed, broken, hpinned.revocations, hpinned.breaks, hpinned.accounted, h.origin, ?_, ?_,
      ?_, hpinned.lost⟩
    · intro f hf record hr
      rcases mem_cons.mp hf with hf | hf
      · simp [hf] at hr
      · exact h.recorded f hf record hr
    · intro f rest hf hr
      obtain ⟨hf, -⟩ := cons.inj hf
      simp [← hf] at hr
    · intro f hf
      rcases mem_cons.mp hf with hf | hf
      · rw [hf]
        exact .inl (hs.occupied.mpr hoccupied)
      · exact hpinned.cut f hf
  | @begin stack st id last removing hcomponent hend =>
    exact ⟨completed, broken, h.advance (by simp) (by simp)⟩
  | @enter stack st id last removing record address hcomponent hactive =>
    exact ⟨completed, broken, (h.advance (by simp) (by simp)).same rfl rfl fun _ => Iff.rfl⟩
  | @detach stack st id last removing record address index hcomponent hindex hne hsame =>
    have hf := hinv.frames _ mem_cons_self
    have hid := (hf.record record rfl).2.component.symm.trans hcomponent
    obtain ⟨ho, hnode, hnot⟩ := hinv.detached hcomponent hne hsame
    refine ⟨completed, broken, h.unlink hR (fun _ => hnot) fun ho' => .inl ⟨id, Ne.symm hne, ho, ?_⟩⟩
    exact hR.node _ _ address (hinv.shrunk.occupied ho') hf.start hnode hid
  | @leave stack st id last removing record address hcomponent =>
    exact ⟨completed, broken, (h.advance (by simp) (by simp)).same rfl rfl fun _ => Iff.rfl⟩
  | @reset stack st id last removing record hcomponent hchild =>
    refine ⟨completed, broken, h.same rfl rfl fun a => ?_⟩
    simp only [Occupied, resetWatermark, modifySlot_slots]
    split_ifs with haid
    · rw [haid]
    · exact Iff.rfl
  | @release stack st id last removing record process hcomponent =>
    exact ⟨completed, broken, h.advance (by simp) (by simp)⟩
  | @clearBuffer stack st id last removing record process hcomponent =>
    exact ⟨completed, broken, (h.advance (by simp) (by simp)).same rfl rfl fun _ => Iff.rfl⟩
  | outside bindedProcess irqUsed objects hbinded =>
    exact ⟨completed, broken, h.same rfl rfl fun _ => Iff.rfl⟩
  | @complete stack st id last removing record hemptied hidle =>
    have hf := hinv.frames _ mem_cons_self
    obtain ⟨hslot, hkept⟩ := hf.record record rfl
    have hslot' : record.slot = id := hslot
    have horigin : st0.Occupied record.slot ∧ (st0.slots record.slot).Kept record.object := by
      rw [hslot']
      exact ⟨hf.start, hkept⟩
    refine ⟨record :: completed, broken, (h.record horigin).advance ?_ (by simp)⟩
    intro other hr
    rw [← Phase.completed.inj hr]
    exact mem_cons_self
  | @reenter stack st id last removing record address hcomponent hactive =>
    refine ⟨completed, broken, h.advance (by simp) fun _ => ?_⟩
    -- the activation that holds the scope of this Node has a slot for it
    have hscopes := hinv.active
    have hscope : (⟨id, last, removing, .callback record⟩ : Frame).scope = none := rfl
    rw [filterMap_cons_none hscope] at hscopes
    obtain ⟨g, hg, hgs⟩ := mem_filterMap.mp (hscopes ▸ hactive)
    obtain ⟨other, hphase, hother⟩ := Frame.scope_eq_some hgs
    have hid := hinv.frames _ mem_cons_self
    have hg' := hinv.frames g (mem_cons_of_mem _ hg)
    have hcid := (hid.record record rfl).2.component.symm.trans hcomponent
    have hcg := (hg'.record other (by rw [hphase]; rfl)).2.component.symm.trans hother
    exact ⟨g, hg, hR.node _ _ address hid.start hg'.start hcid hcg⟩
  | @finalise stack st id last phase hphase =>
    have hf := hinv.frames _ mem_cons_self
    have hs : st.Similar (st.unpin id) := similar_setReclaiming id false
    have hun : History R st0 ⟨stack, st.unpin id⟩ completed broken :=
      (h.pop hinv).same rfl rfl fun a => hs.occupied
    refine ⟨completed, broken, hun.unlink hR (fun _ => hinv.not_mem_rest) fun _ => ?_⟩
    obtain hphase | ⟨record, hphase⟩ := hphase
    · obtain ⟨g, hg, hsame⟩ := h.reentered _ stack rfl hphase
      obtain ho | hbroken := h.cut g (mem_cons_of_mem _ hg)
      · exact .inl ⟨g.slot, hinv.not_mem_rest g hg, hs.occupied.mpr ho, hsame⟩
      · exact .inr (.inr ⟨g.slot, hbroken, hsame⟩)
    · have hrecord := h.recorded _ mem_cons_self record hphase
      have hkept := (hf.record record (by simp [hphase, Phase.record?])).2
      exact .inr (.inl ⟨record, hrecord, hR.kept id _ hf.start hkept⟩)

end

theorem giveUp {c c' : Config σ} (hinv : Invariant st0 s c) (h : History R st0 c completed broken)
    (hgiveUp : GiveUp c c') : History R st0 c' completed broken := by
  cases hgiveUp with
  | unpin frame _ _ =>
    exact (h.pop hinv).same rfl rfl fun a => (similar_setReclaiming frame.slot false).occupied

theorem steps (hbuilt : st0.KernelBuilt) (hR : st0.Identity R) (hidle : st0.Idle) {c : Config σ}
    {failing : Bool} (hsteps : Steps failing s ⟨[], st0⟩ c) :
    ∃ completed broken, History R st0 c completed broken := by
  have hstart := Invariant.start hbuilt.linked hidle (s := s)
  refine hsteps.induct (P := fun c => ∃ completed broken, History R st0 c completed broken)
    ⟨[], [], start hR⟩ ?_ ?_
  · intro d d' hd ih hstep
    obtain ⟨completed, broken, h⟩ := ih
    exact h.step hbuilt hR (hstart.steps hbuilt hd) hstep
  · intro _ d d' hd ih hgiveUp
    obtain ⟨completed, broken, h⟩ := ih
    exact ⟨completed, broken, h.giveUp (hstart.steps hbuilt hd) hgiveUp⟩

end History

end Config

end A9N.Kernel
