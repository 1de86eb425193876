import A9N.Kernel.Capability.ReclamationSound
import A9N.Kernel.Capability.Shrinking

/-!
# What every step of a reclamation keeps

The activations of `revoke_slot` stand along a path of the graph in which a slot leads to its
descendants and to what its object holds, and the dependency list only shrinks. A pinned slot
stays where it is, unless the path meets a Node again whose callback runs: then the cycle
breaking of `remove_slot` empties the slot under its activation.
-/

namespace A9N.Kernel

def Component.type : Component → CapabilityType
  | .node _ => .node
  | .generic => .generic
  | .addressSpace => .addressSpace
  | .pageTable => .pageTable
  | .frame => .frame
  | .processControlBlock _ => .processControlBlock
  | .ipcPort _ => .ipcPort
  | .notificationPort _ => .notificationPort
  | .interruptRegion => .interruptRegion
  | .interruptPort => .interruptPort
  | .ioPort => .ioPort
  | .virtualCpu _ => .virtualCpu

namespace CapState

variable {σ : Type}

structure KernelBuilt (st : CapState σ) : Prop where
  linked : st.Linked
  typed : ∀ id, st.Occupied id →
    ∃ component, (st.slots id).component = some component ∧ (st.slots id).type = component.type
  parents : ∀ a b, st.Below a b →
    (st.slots a).type = .generic ∨ (st.slots a).type = .interruptRegion ∨ (st.slots a).type = .ioPort
  generics : ∀ a b, (st.slots a).type = .generic → st.Peer a b → b = a
  grouped : ∀ a, (st.slots a).type ≠ .ioPort → st.Grouped a

structure Idle (st : CapState σ) : Prop where
  pins : ∀ id, (st.slots id).reclaiming = false
  scopes : st.activeNodeReclamations = []

/-- Reclaiming `a` hands `b` to `remove_slot`, or detaches it. -/
def Touches (st : CapState σ) (a b : SlotId) : Prop :=
  st.Occupied b ∧ (st.Descends a b ∨ st.Holds a (st.slots a) b ∨
    ∃ address index, (st.slots a).component = some (.node address) ∧ b = .node address index)

def Reaches (st : CapState σ) (s b : SlotId) : Prop := Relation.ReflTransGen st.Touches s b

inductive ReclamationPath (st : CapState σ) (s : SlotId) : List SlotId → Prop
  | start : ReclamationPath st s [s]
  | step {a b : SlotId} {path : List SlotId} (h : ReclamationPath st s (a :: path))
      (htouches : st.Touches a b) (hnew : b ∉ a :: path) : ReclamationPath st s (b :: a :: path)

theorem ReclamationPath.tail {st : CapState σ} {s a b : SlotId} {path : List SlotId}
    (h : st.ReclamationPath s (a :: b :: path)) : st.ReclamationPath s (b :: path) := by
  cases h with
  | step h _ _ => exact h

theorem ReclamationPath.nodup {st : CapState σ} {s : SlotId} {path : List SlotId}
    (h : st.ReclamationPath s path) : path.Nodup := by
  induction h with
  | start => simp
  | step _ _ hnew ih => exact List.nodup_cons.mpr ⟨hnew, ih⟩

theorem ReclamationPath.reaches_head {st : CapState σ} {s : SlotId} {path : List SlotId}
    (h : st.ReclamationPath s path) :
    ∀ a rest, path = a :: rest → ∀ b ∈ path, st.Reaches b a := by
  induction h with
  | start =>
    intro a rest heq b hb
    obtain ⟨ha, -⟩ := List.cons.inj heq
    rw [List.mem_singleton.mp hb, ha]
    exact .refl
  | @step c d path _ htouches _ ih =>
    intro a rest heq b hb
    obtain ⟨ha, -⟩ := List.cons.inj heq
    rw [← ha]
    rcases List.mem_cons.mp hb with hb | hb
    · rw [hb]
      exact .refl
    · exact (ih c path rfl b hb).tail htouches

theorem ReclamationPath.reaches_of_mem {st : CapState σ} {s : SlotId} {path : List SlotId}
    (h : st.ReclamationPath s path) : ∀ a ∈ path, st.Reaches s a := by
  induction h with
  | start =>
    intro a ha
    rw [List.mem_singleton.mp ha]
    exact .refl
  | @step a b path _ htouches _ ih =>
    intro c hc
    rcases List.mem_cons.mp hc with hc | hc
    · rw [hc]
      exact (ih a List.mem_cons_self).tail htouches
    · exact ih c hc

theorem ReclamationPath.start_mem {st : CapState σ} {s : SlotId} {path : List SlotId}
    (h : st.ReclamationPath s path) : s ∈ path := by
  induction h with
  | start => exact List.mem_singleton_self s
  | step _ _ _ ih => exact List.mem_cons_of_mem _ ih

section LastAlias

variable {st : CapState σ} {id b : SlotId}

theorem lastAliasLoop_peer (steps : Nat) {last : SlotId} (h : last = id ∨ st.Peer id last) :
    st.lastAliasLoop (st.slots id) steps last = id ∨
      st.Peer id (st.lastAliasLoop (st.slots id) steps last) := by
  induction steps generalizing last with
  | zero => exact h
  | succ steps ih =>
    rw [lastAliasLoop]
    split
    · exact h
    · split_ifs with hpeer
      · exact ih (.inr ⟨hpeer.1.symm, hpeer.2⟩)
      · exact h

theorem lastAliasInGroup_peer (st : CapState σ) (id : SlotId) :
    st.lastAliasInGroup id = id ∨ st.Peer id (st.lastAliasInGroup id) :=
  lastAliasLoop_peer _ (.inl rfl)

theorem lastAliasInGroup_eq_self
    (h : ∀ next, (st.slots id).nextSlot = some next → ¬ st.Peer id next) :
    st.lastAliasInGroup id = id := by
  rw [lastAliasInGroup]
  cases st.slotCount with
  | zero => rfl
  | succ steps =>
    rw [lastAliasLoop]
    split
    · rfl
    · rename_i next hnext
      rw [if_neg]
      intro hpeer
      exact h next hnext ⟨hpeer.1.symm, hpeer.2⟩

theorem alone_of_not_hasSibling (h : st.Linked) (hg : st.Grouped id)
    (hs : st.hasSibling id = false) (hp : st.Peer id b) : b = id := by
  have hnone : ¬ st.hasSibling id = true := by simp [hs]
  rw [hasSibling_iff] at hnone
  obtain hb | hb | hb := hg b hp
  · exact hb.symm
  · obtain ⟨c, hstep, -⟩ := Relation.TransGen.head'_iff.mp hb
    exact absurd (.inl ⟨c, hstep.1, hstep.2⟩) hnone
  · obtain ⟨c, -, hstep⟩ := Relation.TransGen.tail'_iff.mp hb
    exact absurd (.inr ⟨c, (h.wellFormed.inverse c id).mp hstep.1, hstep.2.symm⟩) hnone

end LastAlias

theorem Shrunk.occupied {st0 st : CapState σ} {id : SlotId} (h : st0.Shrunk st)
    (ho : st.Occupied id) : st0.Occupied id := by
  rwa [Occupied, ← (h.kept id ho).type]

theorem Shrunk.holds {st0 st : CapState σ} {self id : SlotId} {object : Slot}
    (h : st0.Shrunk st) (hself : st.Occupied self) (hid : st.Occupied id)
    (hobject : (st0.slots self).Kept object) (hholds : st.Holds self object id) :
    st0.Holds self (st0.slots self) id := by
  have hsame := (h.kept id hid).isSameObject (h.kept self hself)
  have hcomponent := (h.kept id hid).component
  unfold Holds at hholds ⊢
  rw [hobject.component] at hholds
  cases hc : (st0.slots self).component with
  | none => simp only [hc] at hholds
  | some component =>
    rw [hc] at hholds
    cases component with
    | node address => simpa only [hsame, h.nodes] using hholds
    | notificationPort port => simpa only [hcomponent] using hholds
    | interruptPort => simpa only [hobject.first] using hholds
    | processControlBlock process => exact hholds
    | interruptRegion => exact hholds
    | _ => exact hholds

end CapState

def Phase.record? : Phase → Option Revocation
  | .callback record | .entered record | .releasing record | .completed record => some record
  | .descendants | .reentered => none

theorem Frame.Calls.elim {σ : Type} {frame : Frame} {st : CapState σ} {id : SlotId}
    (h : frame.Calls st id) : frame.phase.running ∧
    (frame.phase = .descendants ∨ ∃ record, frame.phase.record? = some record ∧
      st.Holds frame.slot record.object id ∧
      (frame.phase = .entered record ∨
        ∀ address, record.object.component ≠ some (.node address))) := by
  obtain ⟨slot, last, removing, phase⟩ := frame
  cases phase with
  | descendants => exact ⟨trivial, .inl rfl⟩
  | callback record => exact ⟨trivial, .inr ⟨record, rfl, h.2.2, .inr h.1⟩⟩
  | entered record => exact ⟨trivial, .inr ⟨record, rfl, h, .inl rfl⟩⟩
  | releasing record =>
    obtain ⟨process, hc, hid⟩ := h
    refine ⟨trivial, .inr ⟨record, rfl, ?_, .inr (by simp [hc])⟩⟩
    unfold CapState.Holds
    rw [hc]
    exact ⟨_, hid⟩
  | completed record => exact False.elim h
  | reentered => exact False.elim h

def Frame.scope (frame : Frame) : Option Word :=
  match frame.phase with
  | .entered record =>
    match record.object.component with
    | some (.node address) => some address
    | _ => none
  | _ => none

theorem Frame.scope_eq_some {frame : Frame} {address : Word} (h : frame.scope = some address) :
    ∃ record, frame.phase = .entered record ∧ record.object.component = some (.node address) := by
  obtain ⟨slot, last, removing, phase⟩ := frame
  cases phase with
  | entered record =>
    refine ⟨record, rfl, ?_⟩
    rw [Frame.scope] at h
    dsimp only at h
    split at h
    · rename_i hc
      rw [hc, Option.some.inj h]
    · simp at h
  | _ => simp [Frame.scope] at h

/-- What is known of an activation. Its slot is still there, but for one of a Node whose callback
has begun. -/
structure Frame.Sound {σ : Type} (st0 st : CapState σ) (frame : Frame) : Prop where
  start : st0.Occupied frame.slot
  occupied : st.Occupied frame.slot ∨ frame.phase ≠ .descendants ∧
    ∃ address, (st0.slots frame.slot).component = some (.node address)
  lastAlias : frame.phase = .descendants → frame.lastAlias = frame.slot ∨
    ¬ st.Occupied frame.lastAlias ∨ st.Peer frame.slot frame.lastAlias
  last : frame.removing = true → frame.lastAlias = frame.slot
  alone : frame.removing = true → (st0.slots frame.slot).type ≠ .ioPort →
    ∀ b, st.Peer frame.slot b → b = frame.slot
  record : ∀ record, frame.phase.record? = some record →
    record.slot = frame.slot ∧ (st0.slots frame.slot).Kept record.object
  childless : frame.removing = true → frame.phase ≠ .descendants → ∀ b, ¬ st.Below frame.slot b

theorem Frame.Sound.occupied_of_descendants {σ : Type} {st0 st : CapState σ} {frame : Frame}
    (h : frame.Sound st0 st) (hphase : frame.phase = .descendants) : st.Occupied frame.slot :=
  h.occupied.resolve_right fun hcut => hcut.1 hphase

theorem Frame.Sound.occupied_of_component {σ : Type} {st0 st : CapState σ} {frame : Frame}
    (h : frame.Sound st0 st) {component : Component}
    (hcomponent : (st0.slots frame.slot).component = some component)
    (hnode : ∀ address, component ≠ .node address) : st.Occupied frame.slot := by
  refine h.occupied.resolve_right fun hcut => ?_
  obtain ⟨-, address, haddress⟩ := hcut
  exact hnode address (Option.some.inj (hcomponent.symm.trans haddress))

structure Frame.Calling {σ : Type} (st0 : CapState σ) (frame : Frame) : Prop where
  node : ∀ address, (st0.slots frame.slot).component = some (.node address) →
    ∃ record, frame.phase = .entered record
  ioPort : (st0.slots frame.slot).type = .ioPort → frame.phase = .descendants
  running : frame.phase.running

structure Config.Invariant {σ : Type} (st0 : CapState σ) (s : SlotId) (c : Config σ) : Prop where
  shrunk : st0.Shrunk c.state
  pinned : ∀ id, (c.state.slots id).reclaiming = true ↔
    c.state.Occupied id ∧ ∃ frame ∈ c.stack, frame.slot = id
  active : c.state.activeNodeReclamations = c.stack.filterMap Frame.scope
  scopes : (c.stack.filterMap Frame.scope).Nodup
  path : c.stack ≠ [] → st0.ReclamationPath s (c.stack.map Frame.slot)
  frames : ∀ frame ∈ c.stack, frame.Sound st0 c.state
  callers : ∀ frame ∈ c.stack.tail, frame.Calling st0

namespace Config.Invariant

open CapState

variable {σ : Type} {st0 st st' : CapState σ} {s id : SlotId} {stack : List Frame} {frame : Frame}

theorem start (h : st0.Linked) (hidle : st0.Idle) : Invariant st0 s ⟨[], st0⟩ where
  shrunk := Shrunk.refl h
  pinned id := by simp [hidle.pins id]
  active := hidle.scopes
  scopes := List.nodup_nil
  path h := absurd rfl h
  frames _ h := absurd h List.not_mem_nil
  callers _ h := absurd h List.not_mem_nil

theorem sound_similar (h : frame.Sound st0 st) (hs : st.Similar st') : frame.Sound st0 st' where
  start := h.start
  occupied := h.occupied.imp_left hs.occupied.mpr
  lastAlias := by
    rw [hs.occupied, hs.peer]
    exact h.lastAlias
  last := h.last
  alone hr ht b hb := h.alone hr ht b (hs.peer.mp hb)
  record := h.record
  childless hr hp b hb := h.childless hr hp b (hs.below.mp hb)

theorem similar (h : Invariant st0 s ⟨stack, st⟩) (hs : st.Similar st')
    (hnodes : st'.nodes = st.nodes)
    (hactive : st'.activeNodeReclamations = st.activeNodeReclamations)
    (hpins : ∀ id, (st'.slots id).reclaiming = (st.slots id).reclaiming) :
    Invariant st0 s ⟨stack, st'⟩ where
  shrunk := h.shrunk.similar hs hnodes
  pinned id := by
    rw [hpins, hs.occupied]
    exact h.pinned id
  active := hactive.trans h.active
  scopes := h.scopes
  path := h.path
  frames f hf := sound_similar (h.frames f hf) hs
  callers := h.callers

theorem advance {last : SlotId} {removing : Bool} {phase phase' : Phase}
    (h : Invariant st0 s ⟨⟨id, last, removing, phase⟩ :: stack, st⟩)
    (hslots : st'.slots = st.slots) (hnodes : st'.nodes = st.nodes)
    (hactive : st'.activeNodeReclamations =
      (⟨id, last, removing, phase'⟩ :: stack).filterMap Frame.scope)
    (hscopes : ((⟨id, last, removing, phase'⟩ :: stack).filterMap Frame.scope).Nodup)
    (hrecord : ∀ record, phase'.record? = some record →
      record.slot = id ∧ (st0.slots id).Kept record.object)
    (hphase : phase' ≠ .descendants) (hchildless : removing = true → ∀ b, ¬ st.Below id b) :
    Invariant st0 s ⟨⟨id, last, removing, phase'⟩ :: stack, st'⟩ where
  shrunk := h.shrunk.similar (similar_of_slots hslots) hnodes
  pinned a := by
    have hp := h.pinned a
    rw [Occupied, hslots]
    simpa [Occupied] using hp
  active := hactive
  scopes := hscopes
  path _ := h.path (List.cons_ne_nil _ _)
  frames f hf := by
    have hs : st.Similar st' := similar_of_slots hslots
    rcases List.mem_cons.mp hf with hf | hf
    · have hold := sound_similar (h.frames _ List.mem_cons_self) hs
      rw [hf]
      exact ⟨hold.start, hold.occupied.imp_right fun hcut => ⟨hphase, hcut.2⟩,
        fun hp => absurd hp hphase, hold.last, hold.alone, hrecord,
        fun hr _ b hb => hchildless hr b (hs.below.mp hb)⟩
    · exact sound_similar (h.frames f (List.mem_cons_of_mem _ hf)) hs
  callers := h.callers

theorem unlink (h : Invariant st0 s ⟨stack, st⟩)
    (hcut : ∀ f ∈ stack, f.slot = id → f.phase ≠ .descendants ∧
      ∃ address, (st0.slots id).component = some (.node address))
    (hremovable : st.Removable id)
    (hio : ∀ f ∈ stack, (st0.slots f.slot).type = .ioPort → f.phase = .descendants) :
    Invariant st0 s ⟨stack, st.unlinkAndClearSlot id⟩ where
  shrunk := h.shrunk.unlinkAndClearSlot hremovable
  pinned a := by
    rw [unlinkAndClearSlot_occupied]
    by_cases ha : a = id
    · subst ha
      simp
    · rw [unlinkAndClearSlot_slots_of_ne h.shrunk.linked ha]
      simpa [ha] using h.pinned a
  active := by
    rw [unlinkAndClearSlot_activeNodeReclamations]
    exact h.active
  scopes := h.scopes
  path := h.path
  frames f hf := by
    have hl := h.shrunk.linked
    have hold := h.frames f hf
    refine ⟨hold.start, ?_, ?_, hold.last, ?_, hold.record, ?_⟩
    · by_cases hslot : f.slot = id
      · exact .inr (hslot ▸ hcut f hf hslot)
      · exact hold.occupied.imp_left fun ho => unlinkAndClearSlot_occupied.mpr ⟨hslot, ho⟩
    · intro hphase
      have hne : f.slot ≠ id := fun hslot => (hcut f hf hslot).1 hphase
      rw [unlinkAndClearSlot_occupied, unlinkAndClearSlot_peer hl]
      by_cases hlast : f.lastAlias = id
      · exact .inr (.inl fun ho => ho.1 hlast)
      · obtain heq | hempty | hpeer := hold.lastAlias hphase
        · exact .inl heq
        · exact .inr (.inl fun ho => hempty ho.2)
        · exact .inr (.inr ⟨hne, hlast, hpeer⟩)
    · intro hr ht b hb
      exact hold.alone hr ht b ((unlinkAndClearSlot_peer hl).mp hb).2.2
    · intro hr hp b hb
      by_cases ht : (st0.slots f.slot).type = .ioPort
      · exact hp (hio f hf ht)
      · -- `f.slot` is its own only alias, so it cannot inherit descendants
        obtain ⟨c, hc, hcb⟩ := descends_of_unlinkAndClearSlot hl hremovable ⟨f.slot, .inl rfl, hb⟩
        have hcf : c = f.slot := hc.elim (fun h => h) (hold.alone hr ht c)
        exact hold.childless hr hp b (hcf ▸ hcb)
  callers := h.callers

theorem descends (h : Invariant st0 s ⟨frame :: stack, st⟩) (hphase : frame.phase = .descendants)
    (hcalls : frame.Calls st id) : st.Descends frame.slot id := by
  have hf := h.frames frame List.mem_cons_self
  rw [Frame.Calls, hphase] at hcalls
  obtain ⟨hnext, hdepth⟩ := hcalls
  have hlast := (h.shrunk.linked.occupied_of_next hnext).1
  obtain heq | hempty | hpeer := hf.lastAlias hphase
  · rw [heq] at hnext
    exact ⟨frame.slot, .inl rfl, .single ⟨hnext, hdepth⟩⟩
  · exact absurd hlast hempty
  · rw [hpeer.1] at hdepth
    exact ⟨frame.lastAlias, .inr hpeer, .single ⟨hnext, hdepth⟩⟩

theorem touches (h : Invariant st0 s ⟨frame :: stack, st⟩) (hcalls : frame.Calls st id)
    (hid : st.Occupied id) : st0.Touches frame.slot id := by
  have hf := h.frames frame List.mem_cons_self
  refine ⟨h.shrunk.occupied hid, ?_⟩
  obtain hphase | ⟨record, hr, hholds, -⟩ := hcalls.elim.2
  · exact .inl (h.shrunk.descends _ _ (h.descends hphase hcalls))
  · have hkept := (hf.record record hr).2
    obtain hoccupied | ⟨-, address, hnode⟩ := hf.occupied
    · exact .inr (.inl (h.shrunk.holds hoccupied hid hkept hholds))
    · -- the slot of this Node is gone, but what the Node holds is still known
      unfold Holds at hholds
      rw [hkept.component, hnode] at hholds
      obtain ⟨-, -, index, -, hindex⟩ := hholds
      exact .inr (.inr ⟨address, index, hnode, hindex⟩)

theorem not_descends (hbuilt : st0.KernelBuilt) (h : st0.Shrunk st) {a b : SlotId}
    {component : Component} (ho : st.Occupied a) (ha : (st0.slots a).component = some component)
    (hleaf : component ≠ .generic ∧ component ≠ .interruptRegion ∧ component ≠ .ioPort) :
    ¬ st.Descends a b := by
  intro hb
  obtain ⟨c, hc, hcb⟩ := h.descends a b hb
  obtain ⟨component', hc', ht⟩ := hbuilt.typed a (h.occupied ho)
  rw [ha, Option.some.injEq] at hc'
  have htype : (st0.slots c).type = component.type := by
    obtain hc | hc := hc
    · rw [hc, ht, hc']
    · rw [← (Slot.isSameObject_type hc.2).2.1, ht, hc']
  have hparent := hbuilt.parents c b hcb
  rw [htype] at hparent
  cases component <;> simp_all [Component.type]

theorem calling (hbuilt : st0.KernelBuilt) (h : Invariant st0 s ⟨frame :: stack, st⟩)
    (hcalls : frame.Calls st id) : frame.Calling st0 := by
  have hf := h.frames frame List.mem_cons_self
  refine ⟨?_, ?_, hcalls.elim.1⟩
  · intro address hc
    obtain hphase | ⟨record, hr, -, hphase | hnode⟩ := hcalls.elim.2
    · exact absurd (h.descends hphase hcalls)
        (not_descends hbuilt h.shrunk (hf.occupied_of_descendants hphase) hc (by simp))
    · exact ⟨record, hphase⟩
    · exact absurd ((hf.record record hr).2.component.trans hc) (hnode address)
  · intro ht
    obtain ⟨component, hc, ht'⟩ := hbuilt.typed frame.slot hf.start
    rw [ht] at ht'
    have hio : component = .ioPort := by
      cases component <;> simp [Component.type] at ht' ⊢
    rw [hio] at hc
    obtain hphase | ⟨record, hr, hholds, -⟩ := hcalls.elim.2
    · exact hphase
    · -- the callback of an IO port calls nothing
      unfold Holds at hholds
      rw [(hf.record record hr).2.component, hc] at hholds
      exact hholds.elim

/-- All activations are calling when the innermost one calls. -/
theorem callings (hbuilt : st0.KernelBuilt) (h : Invariant st0 s ⟨stack, st⟩)
    (hcalled : Called s ⟨stack, st⟩ id) : ∀ f ∈ stack, f.Calling st0 := by
  intro f hf
  cases stack with
  | nil => exact absurd hf List.not_mem_nil
  | cons g rest =>
    rcases List.mem_cons.mp hf with hf | hf
    · rw [hf]
      exact calling hbuilt h hcalled
    · exact h.callers f hf

theorem not_mem_stack (h : Invariant st0 s ⟨stack, st⟩) (hpin : (st.slots id).reclaiming = false)
    (ho : st.Occupied id) : ∀ f ∈ stack, f.slot ≠ id := by
  intro f hf hslot
  have hpinned := (h.pinned id).mpr ⟨ho, f, hf, hslot⟩
  simp [hpin] at hpinned

theorem not_mem_rest (h : Invariant st0 s ⟨frame :: stack, st⟩) :
    ∀ f ∈ stack, f.slot ≠ frame.slot := by
  have hnodup := (h.path (List.cons_ne_nil _ _)).nodup
  rw [List.map_cons, List.nodup_cons] at hnodup
  intro f hf hslot
  exact hnodup.1 (List.mem_map.mpr ⟨f, hf, hslot⟩)

theorem pin (hbuilt : st0.KernelBuilt) (h : Invariant st0 s ⟨stack, st⟩) {removing : Bool}
    (hcalled : Called s ⟨stack, st⟩ id) (hpin : (st.slots id).reclaiming = false)
    (hid : st.Occupied id) (hremoving : removing = true → st.hasSibling id = false) :
    Invariant st0 s
      ⟨⟨id, (st.pin id).lastAliasInGroup id, removing, .descendants⟩ :: stack, st.pin id⟩ := by
  have hs : st.Similar (st.pin id) := similar_setReclaiming id true
  have hsibling : removing = true → ∀ next, ((st.pin id).slots id).nextSlot = some next →
      ¬ (st.pin id).Peer id next := by
    intro hr next hnext hpeer
    rw [hs.peer] at hpeer
    have hnext' : (st.slots id).nextSlot = some next := by
      have := congrFun (congrArg Links.next hs.links) id
      exact this.symm.trans hnext
    have := hasSibling_iff.mpr (.inl ⟨next, hnext', hpeer⟩)
    simp [hremoving hr] at this
  refine ⟨?_, ?_, ?_, ?_, ?_, ?_, ?_⟩
  · exact h.shrunk.similar hs rfl
  · intro a
    rw [hs.occupied]
    simp only [CapState.pin, setReclaiming, modifySlot_slots, List.mem_cons, exists_eq_or_imp]
    split_ifs with ha
    · simp [ha, hid]
    · rw [h.pinned a]
      simp [Ne.symm ha]
  · exact h.active
  · exact h.scopes
  · intro _
    cases stack with
    | nil =>
      have hs' : id = s := hcalled
      rw [hs']
      exact .start
    | cons f rest =>
      refine .step (h.path (List.cons_ne_nil _ _)) (h.touches hcalled hid) ?_
      rw [← List.map_cons]
      intro hmem
      obtain ⟨g, hg, hslot⟩ := List.mem_map.mp hmem
      exact h.not_mem_stack hpin hid g hg hslot
  · intro f hf
    rcases List.mem_cons.mp hf with hf | hf
    · rw [hf]
      refine ⟨h.shrunk.occupied hid, .inl (hs.occupied.mpr hid), fun _ => ?_, ?_, ?_, ?_, ?_⟩
      · exact (lastAliasInGroup_peer (st.pin id) id).imp_right .inr
      · intro hr
        exact lastAliasInGroup_eq_self (hsibling hr)
      · intro hr ht b hb
        exact alone_of_not_hasSibling h.shrunk.linked (h.shrunk.grouped id hid (hbuilt.grouped id ht))
          (hremoving hr) (hs.peer.mp hb)
      · intro record hr
        simp [Phase.record?] at hr
      · intro _ hp
        exact absurd rfl hp
    · exact sound_similar (h.frames f hf) hs
  · exact callings hbuilt h hcalled

theorem unpin (h : Invariant st0 s ⟨frame :: stack, st⟩)
    (hphase : ∀ record, frame.phase ≠ .entered record) :
    Invariant st0 s ⟨stack, st.unpin frame.slot⟩ := by
  have hs : st.Similar (st.unpin frame.slot) := similar_setReclaiming frame.slot false
  have hscope : frame.scope = none := by
    obtain ⟨slot, last, removing, phase⟩ := frame
    cases phase with
    | entered record => exact absurd rfl (hphase record)
    | _ => rfl
  refine ⟨?_, ?_, ?_, ?_, ?_, ?_, ?_⟩
  · exact h.shrunk.similar hs rfl
  · intro a
    rw [hs.occupied]
    simp only [CapState.unpin, setReclaiming, modifySlot_slots]
    split_ifs with ha
    · have hrest := h.not_mem_rest
      simp only [ha, false_iff, not_and, not_exists]
      exact fun _ f hf hslot => hrest f hf hslot
    · rw [h.pinned a]
      simp [Ne.symm ha]
  · have hactive := h.active
    rwa [List.filterMap_cons_none hscope] at hactive
  · have hscopes := h.scopes
    rwa [List.filterMap_cons_none hscope] at hscopes
  · intro hne
    have hpath := h.path (List.cons_ne_nil _ _)
    cases stack with
    | nil => exact absurd rfl hne
    | cons g rest => exact hpath.tail
  · intro f hf
    exact sound_similar (h.frames f (List.mem_cons_of_mem _ hf)) hs
  · intro f hf
    exact h.callers f (List.mem_of_mem_tail hf)

theorem giveUp {c c' : Config σ} (h : Invariant st0 s c) (hgiveUp : GiveUp c c') :
    Invariant st0 s c' := by
  cases hgiveUp with
  | unpin frame hphase _ =>
    refine h.unpin fun record heq => ?_
    rw [heq] at hphase
    exact hphase

theorem removable_of_hasSibling (hl : st.Linked) (hs : st.hasSibling id) : st.Removable id := by
  intro c hc hdepth
  obtain ⟨b, hb, hpeer⟩ | ⟨b, hb, hpeer⟩ := hasSibling_iff.mp hs
  · -- the next slot is deeper, so it is no alias
    rw [hc, Option.some.injEq] at hb
    rw [hb, ← hpeer.1] at hdepth
    exact absurd hdepth (lt_irrefl _)
  · exact ⟨b, (hl.wellFormed.inverse b id).mpr hb, hpeer⟩

theorem removable_of_not_below (h : ∀ b, ¬ st.Below id b) : st.Removable id := by
  intro c hc hdepth
  exact absurd (.single ⟨hc, hdepth⟩) (h c)

theorem caller_scope (h : Invariant st0 s ⟨frame :: stack, st⟩) {f : Frame} (hf : f ∈ stack)
    {address : Word} (hnode : (st0.slots f.slot).component = some (.node address)) :
    f.scope = some address := by
  obtain ⟨record, hphase⟩ := (h.callers f hf).node address hnode
  have hkept := ((h.frames f (List.mem_cons_of_mem _ hf)).record record (by rw [hphase]; rfl)).2
  simp [Frame.scope, hphase, hkept.component, hnode]

/-- A slot that the callback of its own Node detaches has no activation. -/
theorem detached {last : SlotId} {removing : Bool} {record : Revocation} {address : Word}
    {index : Nat} (h : Invariant st0 s ⟨⟨id, last, removing, .entered record⟩ :: stack, st⟩)
    (hcomponent : record.object.component = some (.node address))
    (hne : SlotId.node address index ≠ id)
    (hsame : (st.slots (.node address index)).isSameObject (st.slots id)) :
    st.Occupied id ∧ (st0.slots (.node address index)).component = some (.node address) ∧
      ∀ f ∈ (⟨id, last, removing, .entered record⟩ : Frame) :: stack,
        f.slot ≠ .node address index := by
  have hf := h.frames _ List.mem_cons_self
  obtain ⟨hnone, htype, hcomponent'⟩ := Slot.isSameObject_type hsame
  have ho : st.Occupied id := by rwa [Occupied, ← htype]
  have hnode : (st0.slots (.node address index)).component = some (.node address) := by
    rw [← (h.shrunk.kept _ hnone).component, hcomponent', (h.shrunk.kept id ho).component]
    exact (hf.record record rfl).2.component.symm.trans hcomponent
  refine ⟨ho, hnode, fun f hmem hslot => ?_⟩
  rcases List.mem_cons.mp hmem with heq | hmem
  · rw [heq] at hslot
    exact hne hslot.symm
  · -- another activation for this Node would hold its scope already
    have hscope := h.caller_scope hmem (hslot ▸ hnode)
    have hhead : (⟨id, last, removing, .entered record⟩ : Frame).scope = some address := by
      simp [Frame.scope, hcomponent]
    have hscopes := h.scopes
    rw [List.filterMap_cons_some hhead, List.nodup_cons] at hscopes
    exact hscopes.1 (List.mem_filterMap.mpr ⟨f, hmem, hscope⟩)

section

variable (h : Invariant st0 s ⟨stack, st⟩)
include h

theorem component_ne_none (hbuilt : st0.KernelBuilt)
    (ho : st.Occupied id) : (st.slots id).component ≠ none := by
  have hkept : (st0.slots id).Kept (st.slots id) := h.shrunk.kept id ho
  obtain ⟨component, hc, -⟩ := hbuilt.typed id (by rwa [Occupied, ← hkept.type])
  simp [hkept.component, hc]

theorem cut (hbuilt : st0.KernelBuilt) {address : Word} (hcalled : Called s ⟨stack, st⟩ id)
    (ho : st.Occupied id) (hcomponent : (st.slots id).component = some (.node address)) :
    ∀ f ∈ stack, f.slot = id → f.phase ≠ .descendants ∧
      ∃ address, (st0.slots id).component = some (.node address) := by
  intro f hf hslot
  have hnode : (st0.slots id).component = some (.node address) := by
    rw [← (h.shrunk.kept id ho).component]
    exact hcomponent
  refine ⟨fun hphase => ?_, address, hnode⟩
  obtain ⟨record, hentered⟩ := (callings hbuilt h hcalled f hf).node address (hslot ▸ hnode)
  simp [hphase] at hentered

end

section

variable (hbuilt : st0.KernelBuilt) {c c' : Config σ} (h : Invariant st0 s c)
include hbuilt h

theorem step (hstep : Step s c c') : Invariant st0 s c' := by
  cases hstep with
  | @clearEmpty stack st id hcalled hpin hempty =>
    refine h.unlink ?_ ?_ fun f hf => (callings hbuilt h hcalled f hf).ioPort
    · intro f hf hslot
      subst hslot
      exact (h.frames f hf).occupied.resolve_left hempty
    have hnone : (st.slots id).nextSlot = none := (h.shrunk.linked.empty id hempty).1
    intro d hd
    simp [hnone] at hd
  | @clearAlias stack st id hcalled hpin hoccupied hsibling =>
    have hnot := h.not_mem_stack hpin hoccupied
    exact h.unlink (fun f hf hslot => absurd hslot (hnot f hf))
      (removable_of_hasSibling h.shrunk.linked hsibling) fun f hf => (callings hbuilt h hcalled f hf).ioPort
  | @clearDangling stack st id hcalled hpin hoccupied hcomponent =>
    exact absurd hcomponent (h.component_ne_none hbuilt hoccupied)
  | @breakCycle stack st id address hcalled hpin hcomponent hactive =>
    have ho := ((h.pinned id).mp hpin).1
    have hnode := (h.shrunk.kept id ho).component.symm.trans hcomponent
    have hcleared := h.unlink (h.cut hbuilt hcalled ho hcomponent)
      (removable_of_not_below fun b hb =>
        not_descends hbuilt h.shrunk ho hnode (by simp) ⟨_, .inl rfl, hb⟩)
      fun f hf => (callings hbuilt h hcalled f hf).ioPort
    exact hcleared.similar (similar_of_slots rfl) rfl rfl fun _ => rfl
  | @pin stack st id removing hcalled hpin hoccupied hcomponent hremoving hrevoking =>
    exact pin hbuilt h hcalled hpin hoccupied hremoving
  | @begin stack st id last removing hcomponent hend =>
    have hf := h.frames _ List.mem_cons_self
    refine h.advance rfl rfl h.active h.scopes ?_ (by simp) ?_
    · intro record hr
      simp only [Phase.record?, Option.some.injEq] at hr
      rw [← hr]
      exact ⟨rfl, h.shrunk.kept id (hf.occupied_of_descendants rfl)⟩
    · intro hr b hb
      obtain ⟨next, hnext, hdepth⟩ := hb.head
      have hlast : last = id := hf.last hr
      rw [hlast] at hend
      exact hend next hnext hdepth
  | @enter stack st id last removing record address hcomponent hactive =>
    have hf := h.frames _ List.mem_cons_self
    have hscope : (⟨id, last, removing, .entered record⟩ : Frame).scope = some address := by
      simp [Frame.scope, hcomponent]
    refine h.advance rfl rfl ?_ ?_ hf.record (by simp) (fun hr => hf.childless hr (by simp))
    · rw [List.filterMap_cons_some hscope, enterNode]
      exact congrArg (address :: ·) h.active
    · rw [List.filterMap_cons_some hscope, List.nodup_cons]
      exact ⟨fun hmem => hactive (h.active ▸ hmem), h.scopes⟩
  | @detach stack st id last removing record address index hcomponent hindex hne hsame =>
    have hf := h.frames _ List.mem_cons_self
    have hid := (hf.record record rfl).2.component.symm.trans hcomponent
    obtain ⟨ho, hnode, hnot⟩ := h.detached hcomponent hne hsame
    refine h.unlink (fun f hmem hslot => absurd hslot (hnot f hmem))
      (removable_of_not_below fun b hb => ?_) ?_
    · exact not_descends hbuilt h.shrunk (Slot.isSameObject_type hsame).1 hnode (by simp)
        ⟨_, .inl rfl, hb⟩
    · intro f hmem ht
      rcases List.mem_cons.mp hmem with heq | hmem
      · have hnodeType : (st0.slots id).type = .node := by
          obtain ⟨component, hc, hct⟩ := hbuilt.typed id hf.start
          rw [hid, Option.some.injEq] at hc
          rw [hct, ← hc]
          rfl
        rw [heq] at ht
        simp [hnodeType] at ht
      · exact (h.callers f hmem).ioPort ht
  | @leave stack st id last removing record address hcomponent =>
    have hf := h.frames _ List.mem_cons_self
    have hscope : (⟨id, last, removing, .entered record⟩ : Frame).scope = some address := by
      simp [Frame.scope, hcomponent]
    have hactive := h.active
    have hscopes := h.scopes
    rw [List.filterMap_cons_some hscope] at hactive hscopes
    refine h.advance rfl rfl ?_ (List.nodup_cons.mp hscopes).2 hf.record (by simp)
      (fun hr => hf.childless hr (by simp))
    exact congrArg List.tail hactive
  | @reset stack st id last removing record hcomponent hchild =>
    have hf := h.frames _ List.mem_cons_self
    have hgeneric := (hf.record record rfl).2.component.symm.trans hcomponent
    have hkept := h.shrunk.kept id (hf.occupied_of_component hgeneric (by simp))
    refine h.similar (similar_resetWatermark (hkept.component.trans hgeneric)) rfl rfl fun a => ?_
    simp only [resetWatermark, modifySlot_slots]
    split_ifs with ha <;> simp [ha]
  | @release stack st id last removing record process hcomponent =>
    have hf := h.frames _ List.mem_cons_self
    exact h.advance rfl rfl h.active h.scopes hf.record (by simp)
      fun hr => hf.childless hr (by simp)
  | @clearBuffer stack st id last removing record process hcomponent =>
    have hf := h.frames _ List.mem_cons_self
    exact h.advance rfl rfl h.active h.scopes hf.record (by simp)
      fun hr => hf.childless hr (by simp)
  | outside bindedProcess irqUsed objects hbinded =>
    exact h.similar (similar_of_slots rfl) rfl rfl fun _ => rfl
  | @complete stack st id last removing record hemptied hidle =>
    have hf := h.frames _ List.mem_cons_self
    exact h.advance rfl rfl h.active h.scopes hf.record (by simp)
      fun hr => hf.childless hr (by simp)
  | @reenter stack st id last removing record address hcomponent hactive =>
    have hf := h.frames _ List.mem_cons_self
    refine h.advance rfl rfl h.active h.scopes ?_ (by simp) fun hr => hf.childless hr (by simp)
    intro record hr
    simp [Phase.record?] at hr
  | @finalise stack st id last phase hphase =>
    have hf := h.frames _ List.mem_cons_self
    have hfinished : phase ≠ .descendants ∧ ∀ record, phase ≠ .entered record := by
      obtain hphase | ⟨record, hphase⟩ := hphase <;> simp [hphase]
    have hun := h.unpin hfinished.2
    refine hun.unlink (fun f hmem hslot => absurd hslot (h.not_mem_rest f hmem)) ?_ ?_
    · refine removable_of_not_below fun b hb => ?_
      have hs : st.Similar (st.unpin id) := similar_setReclaiming id false
      exact hf.childless rfl hfinished.1 b (hs.below.mp hb)
    · intro f hmem ht
      exact (h.callers f hmem).ioPort ht

theorem steps {failing : Bool} (hsteps : Steps failing s c c') : Invariant st0 s c' :=
  hsteps.induct h (fun _ _ _ hd hstep => hd.step hbuilt hstep)
    fun _ _ _ _ hd hgiveUp => hd.giveUp hgiveUp

end

end Config.Invariant

end A9N.Kernel
