import A9N.Kernel.Capability.ReclamationHistory
import A9N.Kernel.Capability.ReclamationReach
import A9N.Kernel.Capability.SlotTable

/-!
# A failed reclamation keeps the authority

`remove_slot` or `revoke_slot` may fail anywhere inside the recursion. The slot it was called
for, the list and the objects whose cleanup is unfinished are then still there for a retry.
-/

namespace A9N.Kernel

namespace CapState

variable {σ : Type} {st0 st : CapState σ}

theorem Shrunk.kernelBuilt (h : st0.Shrunk st) (hbuilt : st0.KernelBuilt) : st.KernelBuilt where
  linked := h.linked
  typed id hid := by
    have hkept := h.kept id hid
    obtain ⟨component, hc, ht⟩ := hbuilt.typed id (by rwa [Occupied, ← hkept.type])
    exact ⟨component, hkept.component.trans hc, hkept.type.trans ht⟩
  parents a b hab := by
    have ha := (h.linked.occupied_of_below hab).1
    obtain ⟨c, hc, hcb⟩ := h.descends a b ⟨a, .inl rfl, hab⟩
    have htype : (st0.slots c).type = (st.slots a).type := by
      rw [(h.kept a ha).type]
      obtain hc | hc := hc
      · rw [hc]
      · exact (Slot.isSameObject_type hc.2).2.1.symm
    rw [← htype]
    exact hbuilt.parents c b hcb
  generics a b ha hab := by
    have hka := h.kept a hab.occupied.1
    exact hbuilt.generics a b (hka.type ▸ ha) (h.peer hab)
  grouped a ha := by
    by_cases ho : st.Occupied a
    · exact h.grouped a ho (hbuilt.grouped a ((h.kept a ho).type ▸ ha))
    · intro b hab
      exact absurd hab.occupied.1 ho

end CapState

namespace CapState

/-- What a failed reclamation of `s` leaves: `s` and its place, no pins and no scopes, a list as
the kernel builds it, and a slot for every object whose callback has not completed. -/
structure Retained {σ : Type} (st st' : CapState σ) (s : SlotId) : Prop where
  slot : (st'.slots s).type = (st.slots s).type ∧ (st'.slots s).component = (st.slots s).component ∧
    (st'.slots s).rights = (st.slots s).rights
  place : ∀ a b, st'.Occupied a → st'.Occupied b →
    (st'.links.Before a b ↔ st.links.Before a b)
  idle : st'.Idle
  built : st'.KernelBuilt
  objects : ∃ completed, st'.revocations = completed ++ st.revocations ∧
    ∀ a, st.Occupied a → Accounted (fun a b => a.isSameObject b) st st' completed a

variable {σ : Type} {ops : ObjectOps σ} {st : CapState σ} {s : SlotId}

theorem Retained.refl (hbuilt : st.KernelBuilt) (hidle : st.Idle) : st.Retained st s where
  slot := ⟨rfl, rfl, rfl⟩
  place _ _ _ _ := Iff.rfl
  idle := hidle
  built := hbuilt
  objects := ⟨[], rfl, fun a ha =>
    .inl ⟨a, ha, (identity_isSameObject hbuilt).kept a _ ha (Slot.Kept.refl _)⟩⟩

/-- Breaking the cycle at `id` has left the Node a slot, or the Node's callback has completed. -/
def Harmless (st st' : CapState σ) (completed : List Revocation) (id : SlotId) : Prop :=
  (∃ b, st'.Occupied b ∧ (st.slots b).component = (st.slots id).component) ∨
    ∃ record ∈ completed, record.object.component = (st.slots id).component

theorem accounted_iff_harmless {c : Config σ} {completed : List Revocation} {broken : List SlotId}
    (hbuilt : st.KernelBuilt) (hinv : Config.Invariant st s c)
    (h : Config.History (fun a b => a.isSameObject b) st c completed broken) {id : SlotId}
    (hid : id ∈ broken) :
    Accounted (fun a b => a.isSameObject b) st c.state completed id ↔
      st.Harmless c.state completed id := by
  have hR := identity_isSameObject hbuilt
  obtain ⟨hstart, -, ⟨address, hnode⟩, -⟩ := h.lost id hid
  constructor
  · rintro (⟨b, hb, hsame⟩ | ⟨record, hrecord, hsame⟩)
    · exact .inl ⟨b, hb, (Slot.isSameObject_type hsame).2.2.symm⟩
    · exact .inr ⟨record, hrecord, (Slot.isSameObject_type hsame).2.2.symm⟩
  · rintro (⟨b, hb, hsame⟩ | ⟨record, hrecord, hsame⟩)
    · exact .inl ⟨b, hb, hR.node _ _ address hstart (hinv.shrunk.occupied hb) hnode
        (hsame.trans hnode)⟩
    · obtain ⟨ho, hkept⟩ := h.origin record hrecord
      have hsame' := hR.node _ _ address hstart ho hnode
        (hkept.component.symm.trans (hsame.trans hnode))
      exact .inr ⟨record, hrecord, hR.trans _ _ _ hsame' (hR.kept _ _ ho hkept)⟩

section

variable (hbuilt : st.KernelBuilt) (hidle : st.Idle) {frame : Frame} {st₁ : CapState σ}
  (hslot : frame.slot = s) (hphase : frame.phase.interrupted)
  (hsteps : Config.Steps true s ⟨[], st⟩ ⟨[frame], st₁⟩)
include hbuilt hidle hslot hphase hsteps

theorem retained_iff_of_steps {completed : List Revocation} {broken : List SlotId}
    (hbroken : st₁.cycleBreaks = broken ++ st.cycleBreaks)
    (hcompleted : st₁.revocations = completed ++ st.revocations) :
    st.Retained (st₁.unpin s) s ↔
      ∀ id ∈ broken, id ≠ s ∧ st.Harmless (st₁.unpin s) completed id := by
  have hR := identity_isSameObject hbuilt
  have hinv := (Config.Invariant.start hbuilt.linked hidle).steps hbuilt hsteps
  have hun : Config.Invariant st s ⟨[], st₁.unpin s⟩ := by
    have hentered : ∀ record, frame.phase ≠ .entered record := by
      intro record heq
      rw [heq] at hphase
      exact hphase
    have hun := hinv.unpin hentered
    rwa [hslot] at hun
  have hs : st₁.Similar (st₁.unpin s) := similar_setReclaiming s false
  obtain ⟨completed', broken', hhistory⟩ := Config.History.steps hbuilt hR hidle hsteps
  obtain rfl : completed' = completed :=
    List.append_cancel_right (hhistory.revocations.symm.trans hcompleted)
  obtain rfl : broken' = broken := List.append_cancel_right (hhistory.breaks.symm.trans hbroken)
  have hlast : Config.History (fun a b => a.isSameObject b) st ⟨[], st₁.unpin s⟩ completed' broken' :=
    (hhistory.pop hinv).same rfl rfl fun a => hs.occupied
  have hstart : st.Occupied s := hslot ▸ (hinv.frames frame List.mem_cons_self).start
  constructor
  · intro hretained id hid
    obtain ⟨hid0, hempty, -⟩ := hlast.lost id hid
    refine ⟨fun heq => ?_, ?_⟩
    · -- `s` itself would be gone
      refine hempty ?_
      rw [heq, Occupied, hretained.slot.1]
      exact hstart
    · obtain ⟨completed'', hcompleted'', hobjects⟩ := hretained.objects
      obtain rfl : completed'' = completed' :=
        List.append_cancel_right (hcompleted''.symm.trans hlast.revocations)
      exact (accounted_iff_harmless hbuilt hun hlast hid).mp (hobjects id hid0)
  · intro hharmless
    have hoccupied : (st₁.unpin s).Occupied s := by
      obtain ho | hcut := hhistory.cut frame List.mem_cons_self
      · exact hs.occupied.mpr (hslot ▸ ho)
      · exact absurd rfl (hharmless s (hslot ▸ hcut)).1
    have hkept := hun.shrunk.kept s hoccupied
    exact
      { slot := ⟨hkept.type, hkept.component, hkept.rights⟩
        place := hun.shrunk.before
        idle := ⟨fun id => by simpa using hun.pinned id, hun.active⟩
        built := hun.shrunk.kernelBuilt hbuilt
        objects := by
          refine ⟨completed', hlast.revocations, fun a ha => ?_⟩
          obtain haccounted | ⟨id, hid, hsame⟩ := hlast.accounted a ha
          · exact haccounted
          · -- the object is a Node at which a cycle was broken
            obtain ⟨b, hb, hb'⟩ | ⟨record, hr, hr'⟩ :=
              (accounted_iff_harmless hbuilt hun hlast hid).mpr (hharmless id hid).2
            · exact .inl ⟨b, hb, hR.trans _ _ _ hsame hb'⟩
            · exact .inr ⟨record, hr, hR.trans _ _ _ hsame hr'⟩ }

end

theorem no_cycleBreaks_of_steps (hbuilt : st.KernelBuilt) (hidle : st.Idle) {c : Config σ}
    {broken : List SlotId} (hsteps : Config.Steps true s ⟨[], st⟩ c)
    (hbroken : c.state.cycleBreaks = broken ++ st.cycleBreaks)
    (hacyclic : ∀ id address, st.Reaches s id → (st.slots id).component = some (.node address) →
      ¬ Relation.TransGen st.Touches id id) : broken = [] := by
  obtain ⟨completed, broken', hhistory⟩ :=
    Config.History.steps hbuilt (identity_isSameObject hbuilt) hidle hsteps
  obtain rfl : broken' = broken := List.append_cancel_right (hhistory.breaks.symm.trans hbroken)
  rw [List.eq_nil_iff_forall_not_mem]
  intro id hid
  obtain ⟨hstart, hempty, ⟨address, hnode⟩, hcycle⟩ := hhistory.lost id hid
  have hreaches := Config.Invariant.reached_steps hbuilt hidle hsteps id hstart hempty
  exact hacyclic id address hreaches hnode hcycle

def unstoppableOps : ObjectOps Unit :=
  { sampleOps with quiesceProcess := fun _ st => .error .fatal st }

def nodeWithProcess : SlotTable :=
  [ (.node 0x4000 0, { component := some .generic, type := .generic, rights := 3
                       data := ⟨0x8000, 15, 0xa000⟩, nextSlot := some (.node 0x4000 1) }),
    (.node 0x4000 1, { component := some (.node 0x8000), type := .node, rights := 15, depth := 1
                       previewSlot := some (.node 0x4000 0)
                       nextSlot := some (.process 0x9000 .rootSlot) }),
    (.process 0x9000 .rootSlot,
      { component := some (.node 0x8000), type := .node, rights := 15, depth := 1
        previewSlot := some (.node 0x4000 1), nextSlot := some (.node 0x8000 0) }),
    (.node 0x8000 0, { component := some (.processControlBlock 0x9000)
                       type := .processControlBlock, rights := 15, depth := 1
                       previewSlot := some (.process 0x9000 .rootSlot) }) ]

def nodeWithProcessState : CapState Unit :=
  ofTable nodeWithProcess [(0x4000, ⟨0, 1, true⟩), (0x8000, ⟨0, 1, true⟩)] ()

def crossedNodes : SlotTable :=
  [ (.node 0x1100 1, { component := some .generic, type := .generic, rights := 3
                       data := ⟨0x1000, 12, 0x1200⟩, nextSlot := some (.node 0x4000 2) }),
    (.node 0x4000 2, { component := some (.node 0x1100), type := .node, rights := 15, depth := 1
                       previewSlot := some (.node 0x1100 1), nextSlot := some (.node 0x1000 0) }),
    (.node 0x1000 0, { component := some (.node 0x1100), type := .node, rights := 15, depth := 1
                       previewSlot := some (.node 0x4000 2), nextSlot := some (.node 0x1100 0) }),
    (.node 0x1100 0, { component := some (.node 0x1000), type := .node, rights := 15, depth := 1
                       previewSlot := some (.node 0x1000 0) }) ]

def crossedNodesState : CapState Unit :=
  ofTable crossedNodes
    [(0x1000, ⟨0, 1, true⟩), (0x1100, ⟨0, 1, true⟩), (0x4000, ⟨0, 2, true⟩)] ()

def crossedNodesAfter : CapState Unit :=
  match revokeSlot sampleOps 8 crossedNodesState (.node 0x1100 1) with
  | none => crossedNodesState
  | some o => o.state

end CapState

end A9N.Kernel
