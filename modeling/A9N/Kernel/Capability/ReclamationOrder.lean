import A9N.Kernel.Capability.ReclamationHistory
import A9N.Kernel.Capability.Segments

/-!
# The order of the callbacks

While a call that succeeds runs, the callbacks that have completed stand in a list, the latest
first. Every object is in it at most once, and behind an object stand all its descendants, but
for the Nodes whose callbacks were running when its own began.
-/

namespace A9N.Kernel

namespace CapState

variable {σ : Type} {st0 st : CapState σ} {s id : SlotId}

/-- Where the kernel puts capabilities: which types it derives from which, what the slots
outside the Nodes hold, and that aliases stand together, at one depth. -/
structure KernelPlaced (st : CapState σ) : Prop where
  counted : st.Counted
  grouped : ∀ a, st.Grouped a
  regions : ∀ a b, st.Below a b → (st.slots a).type = .interruptRegion →
    (st.slots b).type = .interruptPort
  ioPorts : ∀ a b, st.Below a b → (st.slots a).type = .ioPort → (st.slots b).type = .ioPort
  handlers : ∀ number, st.Occupied (.irq number) →
    (st.slots (.irq number)).type = .notificationPort
  bindings : ∀ process, st.Occupied (.process process .bindedNotificationPort) →
    (st.slots (.process process .bindedNotificationPort)).type = .notificationPort
  nodes : ∀ a b address, st.Occupied a → st.Occupied b →
    (st.slots a).component = some (.node address) →
    (st.slots b).component = some (.node address) → (st.slots a).depth = (st.slots b).depth

theorem identity_alike (hbuilt : st.KernelBuilt) (hplaced : st.KernelPlaced) :
    st.Identity Slot.Alike where
  trans _ _ _ := Slot.Alike.trans
  peer _ _ h := h
  node a b address ha hb hca hcb := ⟨hplaced.nodes a b address ha hb hca hcb,
      (identity_isSameObject hbuilt).node a b address ha hb hca hcb⟩
  kept a object ha hkept := ⟨hkept.depth.symm, (identity_isSameObject hbuilt).kept a object ha hkept⟩

theorem type_of_component (hbuilt : st.KernelBuilt) {component : Component} (ho : st.Occupied id)
    (h : (st.slots id).component = some component) : (st.slots id).type = component.type := by
  obtain ⟨component', hc, ht⟩ := hbuilt.typed id ho
  rw [h, Option.some.injEq] at hc
  rw [ht, hc]

theorem Descends.parent_type {a b : SlotId} (h : st.Descends a b) :
    ∃ c, st.Below c b ∧ (st.slots c).type = (st.slots a).type := by
  obtain ⟨c, hc, hcb⟩ := h
  refine ⟨c, hcb, ?_⟩
  obtain hc | hc := hc
  · rw [hc]
  · exact (Slot.isSameObject_type hc.2).2.1.symm

section

variable (hbuilt : st.KernelBuilt) (hplaced : st.KernelPlaced)
include hbuilt hplaced

theorem Reaches.of_ioPort (ht : (st.slots s).type = .ioPort) {b : SlotId} (h : st.Reaches s b) :
    (st.slots b).type = .ioPort ∧ (b = s ∨ st.depth s < st.depth b) := by
  induction h with
  | refl => exact ⟨ht, .inl rfl⟩
  | @tail a b _ step ih =>
    obtain ⟨hta, hda⟩ := ih
    have hcomponent : ∀ component, st.Occupied a → (st.slots a).component = some component →
        component = .ioPort := by
      intro component ho hc
      have := type_of_component hbuilt ho hc
      rw [hta] at this
      cases component <;> simp [Component.type] at this ⊢
    have ho : st.Occupied a := by
      rw [Occupied, hta]
      simp
    obtain ⟨component, hc, -⟩ := hbuilt.typed a ho
    rw [hcomponent component ho hc] at hc
    obtain ⟨-, hdescends | hholds | ⟨address, index, hnode, -⟩⟩ := step
    · obtain ⟨p, hpb, htp⟩ := hdescends.parent_type
      refine ⟨hplaced.ioPorts p b hpb (htp.trans hta), .inr ?_⟩
      obtain ⟨q, haq, hqb⟩ := hdescends
      have hdq : st.depth a = st.depth q := by
        obtain haq | haq := haq
        · rw [haq]
        · exact haq.1
      have hlt := hqb.depth_lt
      rw [← hdq] at hlt
      obtain hda | hda := hda
      · exact hda ▸ hlt
      · exact hda.trans hlt
    · unfold Holds at hholds
      rw [hc] at hholds
      exact hholds.elim
    · rw [hc] at hnode
      simp at hnode

theorem Reaches.of_region
    (hs : st.Occupied s) (ht : (st.slots s).type = .interruptRegion) {b : SlotId}
    (h : st.Reaches s b) :
    b = s ∨ st.Occupied b ∧
      ((st.slots b).type = .interruptPort ∨ (st.slots b).type = .notificationPort) := by
  induction h with
  | refl => exact .inl rfl
  | @tail a b _ step ih =>
    have ho : st.Occupied a := ih.elim (fun h => h ▸ hs) fun h => h.1
    have hta : (st.slots a).type = .interruptRegion ∨ (st.slots a).type = .interruptPort ∨
        (st.slots a).type = .notificationPort :=
      ih.elim (fun h => h ▸ .inl ht) fun h => .inr h.2
    obtain ⟨component, hc, hct⟩ := hbuilt.typed a ho
    obtain ⟨hob, hdescends | hholds | ⟨address, index, hnode, -⟩⟩ := step
    · obtain ⟨p, hpb, htp⟩ := hdescends.parent_type
      refine .inr ⟨hob, .inl (hplaced.regions p b hpb ?_)⟩
      have hparent := hbuilt.parents p b hpb
      rw [htp] at hparent ⊢
      obtain hta | hta | hta := hta <;> simp [hta] at hparent ⊢
    · unfold Holds at hholds
      rw [hc] at hholds
      refine .inr ⟨hob, .inr ?_⟩
      cases component with
      | notificationPort port =>
        obtain ⟨-, -, process, hb⟩ := hholds
        rw [hb] at hob ⊢
        exact hplaced.bindings process hob
      | interruptPort =>
        have hb : b = .irq (st.slots a).data.first.toNat := hholds
        rw [hb] at hob ⊢
        exact hplaced.handlers _ hob
      | interruptRegion =>
        obtain ⟨number, hb⟩ := hholds
        rw [hb] at hob ⊢
        exact hplaced.handlers number hob
      | node address => simp [hct, Component.type] at hta
      | processControlBlock process => simp [hct, Component.type] at hta
      | _ => exact hholds.elim
    · rw [hc, Option.some.injEq] at hnode
      simp [hct, hnode, Component.type] at hta

theorem not_reaches_lastAlias {b : SlotId} (h : st.Descends s b) (hne : st.lastAliasInGroup s ≠ s) :
    ¬ st.Reaches s (st.lastAliasInGroup s) := by
  have hpeer : st.Peer s (st.lastAliasInGroup s) := (lastAliasInGroup_peer st s).resolve_left hne
  have hs := hpeer.occupied.1
  intro hreach
  obtain ⟨p, hpb, htp⟩ := h.parent_type
  have hparent := hbuilt.parents p b hpb
  rw [htp] at hparent
  obtain ht | ht | ht := hparent
  · exact hne (hbuilt.generics s _ ht hpeer)
  · have htype := (Slot.isSameObject_type hpeer.2).2.1
    obtain heq | ⟨-, hb | hb⟩ := hreach.of_region hbuilt hplaced hs ht
    · exact hne heq
    · rw [← htype, ht] at hb
      simp at hb
    · rw [← htype, ht] at hb
      simp at hb
  · obtain heq | hlt := (hreach.of_ioPort hbuilt hplaced ht).2
    · exact hne heq
    · have hd : st.depth s = st.depth (st.lastAliasInGroup s) := hpeer.1
      rw [← hd] at hlt
      exact absurd hlt (lt_irrefl _)

/-- Reclaiming `a` gives `s` away: it descends from `a`, or is stored in the object of `a`. -/
def Takes (st : CapState σ) (s a : SlotId) : Prop :=
  st.Descends a s ∨
    (∃ address index, s = .node address index ∧ (st.slots a).component = some (.node address)) ∨
    ∃ process field, s = .process process field ∧
      (st.slots a).component = some (.processControlBlock process)

omit hbuilt hplaced in
theorem Takes.peer {a b : SlotId} (h : st.Takes s a) (hp : st.Peer a b) : st.Takes s b := by
  have hc : (st.slots b).component = (st.slots a).component :=
    (Slot.isSameObject_type hp.2).2.2.symm
  obtain ⟨c, hac, hcs⟩ | ⟨address, index, hs, ha⟩ | ⟨process, field, hs, ha⟩ := h
  · refine .inl ⟨c, ?_, hcs⟩
    obtain hac | hac := hac
    · exact .inr (hac ▸ hp.symm)
    · exact .inr (hp.symm.trans hac)
  · exact .inr (.inl ⟨address, index, hs, hc.trans ha⟩)
  · exact .inr (.inr ⟨process, field, hs, hc.trans ha⟩)

theorem Touches.takes {a : SlotId} {address : Word} (h : st.Touches a s)
    (hs : (st.slots s).component = some (.node address)) : st.Takes s a := by
  obtain ⟨ho, hdescends | hholds | ⟨owner, index, ha, hindex⟩⟩ := h
  · exact .inl hdescends
  · have htype : (st.slots s).type = .node := type_of_component hbuilt ho hs
    unfold Holds at hholds
    cases hc : (st.slots a).component with
    | none => simp [hc] at hholds
    | some component =>
      rw [hc] at hholds
      cases component with
      | node owner =>
        obtain ⟨-, -, index, -, hindex⟩ := hholds
        exact .inr (.inl ⟨owner, index, hindex, hc⟩)
      | processControlBlock process =>
        obtain ⟨field, hfield⟩ := hholds
        exact .inr (.inr ⟨process, field, hfield, hc⟩)
      | notificationPort port =>
        obtain ⟨-, hport, -⟩ := hholds
        simp [hs] at hport
      | interruptPort =>
        have hirq : s = .irq (st.slots a).data.first.toNat := hholds
        have hhandler := hplaced.handlers _ (hirq ▸ ho)
        rw [← hirq, htype] at hhandler
        simp at hhandler
      | interruptRegion =>
        obtain ⟨number, hirq⟩ := hholds
        have hhandler := hplaced.handlers number (hirq ▸ ho)
        rw [← hirq, htype] at hhandler
        simp at hhandler
      | _ => exact hholds.elim
  · exact .inr (.inl ⟨owner, index, hindex, ha⟩)

end

end CapState

theorem CapState.lastAliasInGroup_pin {σ : Type} {st0 st : CapState σ} {id : SlotId}
    (hslots : st.slots = st0.slots) (hcount : st.slotCount = st0.slotCount) :
    (st.pin id).lastAliasInGroup id = st0.lastAliasInGroup id := by
  have hs : st0.Similar (st.pin id) := by
    have hpin : st.Similar (st.pin id) := similar_setReclaiming id true
    exact ⟨hpin.links.trans (similar_of_slots hslots).links, fun a => hslots ▸ hpin.slots a⟩
  have hloop : ∀ steps last, (st.pin id).lastAliasLoop ((st.pin id).slots id) steps last =
      st0.lastAliasLoop (st0.slots id) steps last := by
    intro steps
    induction steps with
    | zero => exact fun _ => rfl
    | succ steps ih =>
      intro last
      have hnext : ((st.pin id).slots last).nextSlot = (st0.slots last).nextSlot :=
        congrFun (congrArg Links.next hs.links) last
      rw [lastAliasLoop, lastAliasLoop, hnext]
      cases (st0.slots last).nextSlot with
      | none => rfl
      | some next =>
        simp only [(hs.slots next).depth, (hs.slots id).depth,
          (hs.slots id).isSameObject (hs.slots next), ih]
  rw [lastAliasInGroup, lastAliasInGroup, hloop]
  exact congrArg (fun n => st0.lastAliasLoop _ n id) hcount

structure Frame.Drained {σ : Type} (st0 : CapState σ) (s : SlotId) (st : CapState σ)
    (frame : Frame) : Prop where
  drained : frame.phase ≠ .descendants → ∀ b, st0.Descends frame.slot b → ¬ st.Occupied b
  childless : ∀ record, frame.phase.record? = some record → record.hasChild = false
  alone : frame.removing = true → ∀ b, st.Occupied b →
    (st0.slots frame.slot).Alike (st0.slots b) → b = frame.slot
  top : frame.removing = false → frame.slot = s ∧ frame.lastAlias = st0.lastAliasInGroup s

theorem Frame.Drained.mono {σ : Type} {st0 st st' : CapState σ} {s : SlotId} {frame : Frame}
    (h : frame.Drained st0 s st) (ho : ∀ a, st'.Occupied a → st.Occupied a) :
    frame.Drained st0 s st' where
  drained hphase b hb hob := h.drained hphase b hb (ho b hob)
  childless := h.childless
  alone hr b hb := h.alone hr b (ho b hb)
  top := h.top

/-- The callback of an activation began in the scopes of the activations below it. -/
def Frame.Nested : List Frame → Prop
  | [] => True
  | frame :: rest => (∀ record, frame.phase.record? = some record →
      record.scopes = rest.filterMap Frame.scope) ∧ Frame.Nested rest

/-- What the call has done in order. `taken` says how `s` itself can get lost. -/
structure Config.Ordered {σ : Type} (st0 : CapState σ) (s : SlotId) (c : Config σ)
    (completed : List Revocation) (broken : List SlotId) : Prop where
  history : History Slot.Alike st0 c completed broken
  once : completed.Pairwise fun record other => ¬ record.object.Alike other.object
  gone : ∀ record ∈ completed, ∀ b, c.state.Occupied b → record.object.Alike (st0.slots b) →
    ∃ frame ∈ c.stack, frame.phase = .completed record
  finished : ∀ record ∈ completed, ∀ frame ∈ c.stack,
    record.object.Alike (st0.slots frame.slot) → frame.phase = .completed record
  childless : ∀ record ∈ completed, record.hasChild = false
  order : ∀ later record earlier, completed = later ++ record :: earlier →
    ∀ b, st0.Descends record.slot b → (∃ other ∈ earlier, (st0.slots b).Alike other.object) ∨
      ∃ address ∈ record.scopes, (st0.slots b).component = some (.node address)
  scopes : ∀ later record earlier, completed = later ++ record :: earlier →
    ∀ address ∈ record.scopes, ∀ other ∈ earlier, other.object.component ≠ some (.node address)
  reached : ∀ record ∈ completed, st0.Reaches s record.slot ∧
    ∀ address ∈ record.scopes, ∃ f, (st0.slots f).component = some (.node address) ∧
      st0.Reaches f record.slot
  emptied : ∀ record ∈ completed, ∀ process field,
    record.object.component = some (.processControlBlock process) →
      ¬ c.state.Occupied (.process process field)
  underway : ∀ id ∈ broken, (∃ frame ∈ c.stack, (st0.slots id).Alike (st0.slots frame.slot)) ∨
    ∃ record ∈ completed, (st0.slots id).Alike record.object
  taken : c.stack ≠ [] → ¬ c.state.Occupied s →
    (∃ frame ∈ c.stack, st0.Takes s frame.slot) ∨ ∃ record ∈ completed, st0.Takes s record.slot
  head : ∀ frame rest record, c.stack = frame :: rest → frame.phase = .completed record →
    ∃ earlier, completed = record :: earlier
  fresh : c.stack = [] → c.state.Occupied s →
    c.state.slots = st0.slots ∧ c.state.slotCount = st0.slotCount
  frames : ∀ frame ∈ c.stack, frame.Drained st0 s c.state
  nested : Frame.Nested c.stack

namespace Config.Ordered

open CapState List

variable {σ : Type} {st0 st st' : CapState σ} {s id : SlotId} {stack : List Frame}
  {completed : List Revocation} {broken : List SlotId}

theorem start (hR : st0.Identity Slot.Alike) : Ordered st0 s ⟨[], st0⟩ [] [] where
  history := History.start hR
  once := List.Pairwise.nil
  gone _ h := absurd h not_mem_nil
  finished _ h := absurd h not_mem_nil
  childless _ h := absurd h not_mem_nil
  order later record earlier h := by simp at h
  scopes later record earlier h := by simp at h
  reached _ h := absurd h not_mem_nil
  emptied _ h := absurd h not_mem_nil
  underway _ h := absurd h not_mem_nil
  taken h := absurd rfl h
  head _ _ _ h := by simp at h
  fresh _ _ := ⟨rfl, rfl⟩
  frames _ h := absurd h not_mem_nil
  nested := trivial

theorem history_unique {c : Config σ} {completed' : List Revocation} {broken' : List SlotId}
    (h : History Slot.Alike st0 c completed' broken')
    (hrevocations : c.state.revocations = completed ++ st0.revocations)
    (hbreaks : c.state.cycleBreaks = broken ++ st0.cycleBreaks) :
    completed' = completed ∧ broken' = broken :=
  ⟨append_cancel_right (h.revocations.symm.trans hrevocations),
    append_cancel_right (h.breaks.symm.trans hbreaks)⟩

/-- The state loses slots. -/
theorem shrink (h : Ordered st0 s ⟨stack, st⟩ completed broken) {broken' : List SlotId}
    (hhistory : History Slot.Alike st0 ⟨stack, st'⟩ completed broken')
    (ho : ∀ a, st'.Occupied a → st.Occupied a)
    (hunderway : ∀ id ∈ broken', id ∈ broken ∨
      ∃ frame ∈ stack, (st0.slots id).Alike (st0.slots frame.slot))
    (htaken : stack ≠ [] → st.Occupied s → ¬ st'.Occupied s →
      ∃ frame ∈ stack, st0.Takes s frame.slot)
    (hfresh : stack = [] → st'.Occupied s → st'.slots = st0.slots ∧ st'.slotCount = st0.slotCount) :
    Ordered st0 s ⟨stack, st'⟩ completed broken' where
  history := hhistory
  once := h.once
  gone record hr b hb := h.gone record hr b (ho b hb)
  finished := h.finished
  childless := h.childless
  order := h.order
  scopes := h.scopes
  reached := h.reached
  emptied record hr process field hc hob := h.emptied record hr process field hc (ho _ hob)
  underway id hid := by
    obtain hid | hframe := hunderway id hid
    · exact h.underway id hid
    · exact .inl hframe
  taken hne hempty := by
    by_cases hs : st.Occupied s
    · exact .inl (htaken hne hs hempty)
    · exact h.taken hne hs
  head := h.head
  fresh := hfresh
  frames f hf := (h.frames f hf).mono ho
  nested := h.nested

theorem exists_advance {last : SlotId} {removing : Bool} {phase phase' : Phase}
    (P : SlotId → Prop)
    (h : ∃ frame ∈ (⟨id, last, removing, phase⟩ : Frame) :: stack, P frame.slot) :
    ∃ frame ∈ (⟨id, last, removing, phase'⟩ : Frame) :: stack, P frame.slot := by
  obtain ⟨f, hf, hP⟩ := h
  rcases mem_cons.mp hf with hf | hf
  · rw [hf] at hP
    exact ⟨_, mem_cons_self, hP⟩
  · exact ⟨f, mem_cons_of_mem _ hf, hP⟩

theorem advance {last : SlotId} {removing : Bool} {phase phase' : Phase}
    (h : Ordered st0 s ⟨⟨id, last, removing, phase⟩ :: stack, st⟩ completed broken)
    (hhistory : History Slot.Alike st0 ⟨⟨id, last, removing, phase'⟩ :: stack, st'⟩ completed broken)
    (hslots : st'.slots = st.slots) (hphase : ∀ record, phase ≠ .completed record)
    (hphase' : ∀ record, phase' ≠ .completed record)
    (hdrained : ∀ b, st0.Descends id b → ¬ st.Occupied b)
    (hrecord : ∀ record, phase'.record? = some record →
      record.hasChild = false ∧ record.scopes = stack.filterMap Frame.scope) :
    Ordered st0 s ⟨⟨id, last, removing, phase'⟩ :: stack, st'⟩ completed broken := by
  have ho : ∀ a, st'.Occupied a ↔ st.Occupied a := fun a => by rw [Occupied, Occupied, hslots]
  refine
    { history := hhistory, once := h.once, gone := ?_, finished := ?_, childless := h.childless
      order := h.order, scopes := h.scopes, reached := h.reached, emptied := ?_
      underway := fun a ha => (h.underway a ha).imp_left
        (exists_advance fun b => (st0.slots a).Alike (st0.slots b))
      taken := fun _ hs => (h.taken (cons_ne_nil _ _) fun hs' => hs ((ho s).mpr hs')).imp_left
        (exists_advance (st0.Takes s))
      head := ?_, fresh := fun h => absurd h (cons_ne_nil _ _), frames := ?_
      nested := ⟨fun record hr => (hrecord record hr).2, h.nested.2⟩ }
  · intro record hr b hb hsame
    obtain ⟨f, hf, hfp⟩ := h.gone record hr b ((ho b).mp hb) hsame
    rcases mem_cons.mp hf with hf | hf
    · rw [hf] at hfp
      exact absurd hfp (hphase record)
    · exact ⟨f, mem_cons_of_mem _ hf, hfp⟩
  · intro record hr f hf hsame
    rcases mem_cons.mp hf with hf | hf
    · rw [hf] at hsame
      exact absurd (h.finished record hr ⟨id, last, removing, phase⟩ mem_cons_self hsame)
        (hphase record)
    · exact h.finished record hr f (mem_cons_of_mem _ hf) hsame
  · intro record hr process field hc hob
    exact h.emptied record hr process field hc ((ho _).mp hob)
  · intro f rest record hf hr
    obtain ⟨hf, -⟩ := cons.inj hf
    rw [← hf] at hr
    exact absurd hr (hphase' record)
  · intro f hf
    rcases mem_cons.mp hf with hf | hf
    · have hold := (h.frames _ mem_cons_self).mono fun a => (ho a).mp
      rw [hf]
      exact ⟨fun _ b hb hob => hdrained b hb ((ho b).mp hob), fun record hr => (hrecord record hr).1,
        hold.alone, hold.top⟩
    · exact (h.frames f (mem_cons_of_mem _ hf)).mono fun a => (ho a).mp

section

variable (hbuilt : st0.KernelBuilt) (hplaced : st0.KernelPlaced) {last : SlotId} {removing : Bool}
include hbuilt hplaced

theorem drained (hinv : Invariant st0 s ⟨⟨id, last, removing, .descendants⟩ :: stack, st⟩)
    (hreached : Invariant.Reached st0 s st)
    (h : Ordered st0 s ⟨⟨id, last, removing, .descendants⟩ :: stack, st⟩ completed broken)
    (hend : ∀ next, (st.slots last).nextSlot = some next →
      ¬ (st.slots id).depth < (st.slots next).depth) (b : SlotId) (hb : st0.Descends id b) :
    ¬ st.Occupied b := by
  intro hob
  have hf := hinv.frames _ mem_cons_self
  have hd := h.frames _ mem_cons_self
  have hid : st.Occupied id := hf.occupied_of_descendants rfl
  -- a slot right below the one the loop looks at
  have hnot : ∀ a, st.depth a = st.depth id → last = a → ¬ st.Below a b := by
    intro a hda hlast hab
    obtain ⟨next, hnext, hlt⟩ := hab.head
    rw [hda] at hlt
    exact hend next (hlast ▸ hnext) hlt
  cases removing with
  | true =>
    have halone : ∀ c, st.Peer id c → c = id := fun c hc =>
      hd.alone rfl c hc.occupied.2 (hinv.shrunk.peer hc)
    have hfollows := hinv.shrunk.follows hid hob (hb.follows (hplaced.grouped id))
    exact hnot id rfl (hf.last rfl) (hfollows.below hinv.shrunk.linked halone)
  | false =>
    obtain ⟨hs, hlast⟩ := hd.top rfl
    have hs' : id = s := hs
    rw [hs'] at hb hid
    have hbelow := hb.below_last hplaced.counted hplaced.grouped
    have ho : st.Occupied (st0.lastAliasInGroup s) := by
      by_cases hne : st0.lastAliasInGroup s = s
      · rw [hne]
        exact hid
      · by_contra hempty
        exact not_reaches_lastAlias hbuilt hplaced hb hne
          (hreached _ (hbuilt.linked.occupied_of_below hbelow).1 hempty)
    refine hnot _ ?_ hlast (hinv.shrunk.below ho hob hbelow)
    have hdl := (hinv.shrunk.kept _ ho).depth
    have hds := (hinv.shrunk.kept s hid).depth
    rw [hs', depth, depth, hdl, hds]
    obtain heq | hp := lastAliasInGroup_peer st0 s
    · rw [heq]
    · exact hp.1.symm

section

variable {record : Revocation}
  (hinv : Invariant st0 s ⟨⟨id, last, removing, .callback record⟩ :: stack, st⟩)
  (h : Ordered st0 s ⟨⟨id, last, removing, .callback record⟩ :: stack, st⟩ completed broken)
include hinv h

omit hplaced in
/-- The activations below cannot be for the object whose callback completes. -/
theorem not_alike_rest (hidle : ∀ address, record.object.component = some (.node address) →
      address ∉ st.activeNodeReclamations) :
    ∀ f ∈ stack, ¬ (st0.slots id).Alike (st0.slots f.slot) := by
  intro f hf hsame
  have htop := hinv.frames _ mem_cons_self
  have hd := h.frames _ mem_cons_self
  have hc : (st0.slots f.slot).component = (st0.slots id).component :=
    (Slot.isSameObject_type hsame.2).2.2.symm
  have hrest := hinv.not_mem_rest f hf
  obtain ⟨component, hcomponent, -⟩ := hbuilt.typed id htop.start
  by_cases hnode : ∃ address, component = .node address
  · -- the other activation would hold the scope of the Node
    obtain ⟨address, hnode⟩ := hnode
    rw [hnode] at hcomponent
    refine hidle address ((htop.record record rfl).2.component.trans hcomponent) ?_
    rw [hinv.active]
    exact mem_filterMap.mpr ⟨f, mem_cons_of_mem _ hf, hinv.caller_scope hf (hc.trans hcomponent)⟩
  · have hne : ∀ address, component ≠ .node address := fun address heq => hnode ⟨address, heq⟩
    have ho := (hinv.frames f (mem_cons_of_mem _ hf)).occupied_of_component
      (hc.trans hcomponent) hne
    cases removing with
    | true => exact hrest (hd.alone rfl f.slot ho hsame)
    | false =>
      -- `revoke_slot` from outside has no activation below it
      have hs : id = s := (hd.top rfl).1
      have hpath := hinv.path (cons_ne_nil _ _)
      cases stack with
      | nil => exact absurd hf not_mem_nil
      | cons g rest =>
        have hmem : s ∈ (g :: rest).map Frame.slot := hpath.tail.start_mem
        obtain ⟨k, hk, hks⟩ := mem_map.mp hmem
        exact hinv.not_mem_rest k hk (hks.trans hs.symm)

theorem order_complete (b : SlotId) (hb : st0.Descends record.slot b) :
    (∃ other ∈ completed, (st0.slots b).Alike other.object) ∨
      ∃ address ∈ record.scopes, (st0.slots b).component = some (.node address) := by
  have hf := hinv.frames _ mem_cons_self
  have hd := h.frames _ mem_cons_self
  have hslot : record.slot = id := (hf.record record rfl).1
  rw [hslot] at hb
  have hbelow : st0.depth id < st0.depth b := by
    obtain ⟨c, hc, hcb⟩ := hb
    have hlt := hcb.depth_lt
    obtain hc | hc := hc
    · exact hc ▸ hlt
    · rw [depth, hc.1]
      exact hlt
  have hob : st0.Occupied b := by
    obtain ⟨c, -, hcb⟩ := hb
    exact (hbuilt.linked.occupied_of_below hcb).2
  obtain (⟨y, hy, hby⟩ | hother) | ⟨cut, hcut, hbcut⟩ := h.history.accounted b hob
  · -- a slot that still names the descendant would be a descendant too
    exact absurd hy (hd.drained (by simp) y (hb.peer hbuilt.linked (hplaced.grouped b) hby))
  · exact .inl hother
  · -- its Node's last slot was emptied under its activation
    obtain ⟨f, hmem, hsame⟩ | ⟨other, hother, hsame⟩ := h.underway cut hcut
    · have hbf := hbcut.trans hsame
      rcases mem_cons.mp hmem with heq | hmem
      · rw [heq] at hbf
        have hdepth : st0.depth b = st0.depth id := hbf.1
        omega
      · obtain ⟨-, -, ⟨address, hnode⟩, -⟩ := h.history.lost cut hcut
        have hcb : (st0.slots b).component = some (.node address) :=
          (Slot.isSameObject_type hbcut.2).2.2.trans hnode
        refine .inr ⟨address, ?_, hcb⟩
        rw [h.nested.1 record rfl]
        exact mem_filterMap.mpr ⟨f, hmem,
          hinv.caller_scope hmem ((Slot.isSameObject_type hbf.2).2.2.symm.trans hcb)⟩
    · exact .inl ⟨other, hother, hbcut.trans hsame⟩

theorem scopes_complete (address : Word) (haddress : address ∈ record.scopes) :
    ∀ other ∈ completed, other.object.component ≠ some (.node address) := by
  intro other hother hc
  have hR := identity_alike hbuilt hplaced
  rw [h.nested.1 record rfl] at haddress
  obtain ⟨f, hf, hscope⟩ := mem_filterMap.mp haddress
  obtain ⟨record', hphase, hrecord'⟩ := Frame.scope_eq_some hscope
  have hf' := hinv.frames f (mem_cons_of_mem _ hf)
  have hcf := (hf'.record record' (by rw [hphase]; rfl)).2.component.symm.trans hrecord'
  obtain ⟨ho, hkept⟩ := h.history.origin other hother
  have hsame := hR.node _ _ address ho hf'.start (hkept.component.symm.trans hc) hcf
  have hfinished := h.finished other hother f (mem_cons_of_mem _ hf)
    ((hR.kept _ _ ho hkept).symm.trans hsame)
  simp [hphase] at hfinished

omit hbuilt hplaced in
theorem reached_complete : st0.Reaches s record.slot ∧
    ∀ address ∈ record.scopes, ∃ f, (st0.slots f).component = some (.node address) ∧
      st0.Reaches f record.slot := by
  have htop := hinv.frames _ mem_cons_self
  have hslot : record.slot = id := (htop.record record rfl).1
  have hpath := hinv.path (cons_ne_nil _ _)
  rw [hslot]
  refine ⟨hpath.reaches_of_mem id mem_cons_self, fun address haddress => ?_⟩
  rw [h.nested.1 record rfl] at haddress
  obtain ⟨f, hf, hscope⟩ := mem_filterMap.mp haddress
  obtain ⟨record', hphase, hrecord'⟩ := Frame.scope_eq_some hscope
  have hf' := hinv.frames f (mem_cons_of_mem _ hf)
  have hcf := (hf'.record record' (by rw [hphase]; rfl)).2.component.symm.trans hrecord'
  exact ⟨f.slot, hcf, hpath.reaches_head id _ rfl f.slot
    (mem_map.mpr ⟨f, mem_cons_of_mem _ hf, rfl⟩)⟩

theorem complete (hemptied : Emptied st id record.object)
    (hidle : ∀ address, record.object.component = some (.node address) →
      address ∉ st.activeNodeReclamations)
    (hhistory : History Slot.Alike st0
      ⟨⟨id, last, removing, .completed record⟩ :: stack, st.recordRevocation record⟩
      (record :: completed) broken) :
    Ordered st0 s ⟨⟨id, last, removing, .completed record⟩ :: stack, st.recordRevocation record⟩
      (record :: completed) broken := by
  have hf := hinv.frames _ mem_cons_self
  have hd := h.frames _ mem_cons_self
  have hself := (identity_alike hbuilt hplaced).kept id _ hf.start (hf.record record rfl).2
  have hnew : ∀ other ∈ completed, ¬ other.object.Alike (st0.slots id) := by
    intro other hother hsame
    have hphase := h.finished other hother _ mem_cons_self hsame
    simp at hphase
  have hlater : ∀ {P : Revocation → Prop}, (∃ other ∈ completed, P other) →
      ∃ other ∈ record :: completed, P other := by
    rintro P ⟨other, hother, hP⟩
    exact ⟨other, mem_cons_of_mem _ hother, hP⟩
  refine
    { history := hhistory, once := ?_, gone := ?_, finished := ?_, childless := ?_, order := ?_
      scopes := ?_, reached := ?_, emptied := ?_
      underway := fun a ha => (h.underway a ha).imp
        (exists_advance fun b => (st0.slots a).Alike (st0.slots b)) hlater
      taken := fun _ hs => (h.taken (cons_ne_nil _ _) hs).imp (exists_advance (st0.Takes s)) hlater
      head := ?_, fresh := fun h => absurd h (cons_ne_nil _ _), frames := ?_
      nested := ⟨h.nested.1, h.nested.2⟩ }
  · exact pairwise_cons.mpr ⟨fun other hother hsame =>
      hnew other hother (hself.trans hsame).symm, h.once⟩
  · intro other hother b hb hsame
    rcases mem_cons.mp hother with heq | hother
    · rw [heq]
      exact ⟨_, mem_cons_self, rfl⟩
    · obtain ⟨f, hmem, hphase⟩ := h.gone other hother b hb hsame
      rcases mem_cons.mp hmem with heq | hmem
      · rw [heq] at hphase
        simp at hphase
      · exact ⟨f, mem_cons_of_mem _ hmem, hphase⟩
  · intro other hother f hmem hsame
    rcases mem_cons.mp hother with heq | hother
    · rcases mem_cons.mp hmem with hmem | hmem
      · rw [hmem, heq]
      · rw [heq] at hsame
        exact absurd (hself.trans hsame) (not_alike_rest hbuilt hinv h hidle f hmem)
    · rcases mem_cons.mp hmem with hmem | hmem
      · rw [hmem] at hsame
        exact absurd hsame (hnew other hother)
      · exact h.finished other hother f (mem_cons_of_mem _ hmem) hsame
  · intro other hother
    rcases mem_cons.mp hother with heq | hother
    · rw [heq]
      exact hd.childless record rfl
    · exact h.childless other hother
  · intro later other earlier heq
    cases later with
    | nil =>
      obtain ⟨hrecord, hearlier⟩ := cons.inj heq
      rw [← hrecord, ← hearlier]
      exact order_complete hbuilt hplaced hinv h
    | cons first later => exact h.order later other earlier (cons.inj heq).2
  · intro later other earlier heq
    cases later with
    | nil =>
      obtain ⟨hrecord, hearlier⟩ := cons.inj heq
      rw [← hrecord, ← hearlier]
      exact scopes_complete hbuilt hplaced hinv h
    | cons first later => exact h.scopes later other earlier (cons.inj heq).2
  · intro other hother
    rcases mem_cons.mp hother with heq | hother
    · rw [heq]
      exact reached_complete hinv h
    · exact h.reached other hother
  · intro other hother process field hc
    rcases mem_cons.mp hother with heq | hother
    · rw [heq] at hc
      simp only [Emptied, hc] at hemptied
      exact hemptied field
    · exact h.emptied other hother process field hc
  · intro f rest other hmem hr
    obtain ⟨hmem, -⟩ := cons.inj hmem
    rw [← hmem] at hr
    rw [Phase.completed.inj hr]
    exact ⟨completed, rfl⟩
  · intro f hmem
    rcases mem_cons.mp hmem with hmem | hmem
    · rw [hmem]
      exact ⟨fun _ => hd.drained (by simp), hd.childless, hd.alone, hd.top⟩
    · exact (h.frames f (mem_cons_of_mem _ hmem)).mono fun _ ho => ho

end

end

theorem pin (hplaced : st0.KernelPlaced) {removing : Bool}
    (hinv : Invariant st0 s ⟨stack, st⟩) (h : Ordered st0 s ⟨stack, st⟩ completed broken)
    (hcalled : Called s ⟨stack, st⟩ id) (hid : st.Occupied id)
    (hremoving : removing = true → st.hasSibling id = false)
    (hrevoking : removing = false → stack = [])
    (hhistory : History Slot.Alike st0
      ⟨⟨id, (st.pin id).lastAliasInGroup id, removing, .descendants⟩ :: stack, st.pin id⟩
      completed broken) :
    Ordered st0 s
      ⟨⟨id, (st.pin id).lastAliasInGroup id, removing, .descendants⟩ :: stack, st.pin id⟩
      completed broken := by
  have hs : st.Similar (st.pin id) := similar_setReclaiming id true
  refine
    { history := hhistory, once := h.once, gone := ?_, finished := ?_, childless := h.childless
      order := h.order, scopes := h.scopes, reached := h.reached, emptied := ?_
      underway := ?_, taken := ?_
      head := ?_, fresh := fun h => absurd h (cons_ne_nil _ _), frames := ?_
      nested := ⟨by simp [Phase.record?], h.nested⟩ }
  · intro record hr b hb hsame
    obtain ⟨f, hf, hphase⟩ := h.gone record hr b (hs.occupied.mp hb) hsame
    exact ⟨f, mem_cons_of_mem _ hf, hphase⟩
  · intro record hr f hf hsame
    rcases mem_cons.mp hf with hf | hf
    · -- the activation that has completed this object would be innermost, and calls nothing
      rw [hf] at hsame
      obtain ⟨g, hg, hphase⟩ := h.gone record hr id hid hsame
      cases stack with
      | nil => exact absurd hg not_mem_nil
      | cons k rest =>
        rcases mem_cons.mp hg with hg | hg
        · rw [hg] at hphase
          simp [Called, Frame.Calls, hphase] at hcalled
        · have hrunning := (hinv.callers g hg).running
          rw [hphase] at hrunning
          exact hrunning.elim
    · exact h.finished record hr f hf hsame
  · intro record hr process field hc hob
    exact h.emptied record hr process field hc (hs.occupied.mp hob)
  · intro other hother
    refine (h.underway other hother).imp_left fun hframe => ?_
    obtain ⟨f, hf, hsame⟩ := hframe
    exact ⟨f, mem_cons_of_mem _ hf, hsame⟩
  · intro _ hempty
    rw [hs.occupied] at hempty
    cases stack with
    | nil =>
      have hids : id = s := hcalled
      exact absurd (hids ▸ hid) hempty
    | cons g rest =>
      refine (h.taken (cons_ne_nil _ _) hempty).imp_left fun hframe => ?_
      obtain ⟨f, hf, htakes⟩ := hframe
      exact ⟨f, mem_cons_of_mem _ hf, htakes⟩
  · intro f rest record hf hr
    obtain ⟨hf, -⟩ := cons.inj hf
    simp [← hf] at hr
  · intro f hf
    rcases mem_cons.mp hf with hf | hf
    · rw [hf]
      refine ⟨fun hphase => absurd rfl hphase, ?_, ?_, ?_⟩
      · intro record hr
        simp [Phase.record?] at hr
      · intro hr b hb hsame
        rw [hs.occupied] at hb
        exact alone_of_not_hasSibling hinv.shrunk.linked
          (hinv.shrunk.grouped id hid (hplaced.grouped id)) (hremoving hr)
          ((hinv.shrunk.peer_iff hid hb).mpr hsame)
      · intro hr
        have hstack := hrevoking hr
        subst hstack
        have hids : id = s := hcalled
        subst hids
        obtain ⟨hslots, hcount⟩ := h.fresh rfl hid
        exact ⟨rfl, lastAliasInGroup_pin hslots hcount⟩
    · exact (h.frames f hf).mono fun a => hs.occupied.mp

theorem hasChild_of_drained (h : st0.Shrunk st)
    (hdrained : ∀ b, st0.Descends id b → ¬ st.Occupied b) : st.hasChild id = false := by
  by_contra hne
  rw [Bool.not_eq_false] at hne
  rw [hasChild] at hne
  split at hne
  · simp at hne
  · rename_i next hnext
    have hlast := lastAliasInGroup_peer st id
    have hlt : st.depth id < st.depth next := of_decide_eq_true hne
    have hbelow : st.Below (st.lastAliasInGroup id) next := by
      refine .single ⟨hnext, ?_⟩
      obtain heq | hp := hlast
      · rw [heq]
        exact hlt
      · have hd : st.depth id = st.depth (st.lastAliasInGroup id) := hp.1
        rw [← hd]
        exact hlt
    exact hdrained next (h.descends id next ⟨_, hlast, hbelow⟩) (h.linked.occupied_of_next hnext).2

theorem finalise (hbuilt : st0.KernelBuilt) (hplaced : st0.KernelPlaced) {last : SlotId}
    {phase : Phase} (hfinished : phase = .reentered ∨ ∃ record, phase = .completed record)
    (hinv : Invariant st0 s ⟨⟨id, last, true, phase⟩ :: stack, st⟩)
    (h : Ordered st0 s ⟨⟨id, last, true, phase⟩ :: stack, st⟩ completed broken)
    (hhistory : History Slot.Alike st0 ⟨stack, (st.unpin id).unlinkAndClearSlot id⟩ completed
      broken) :
    Ordered st0 s ⟨stack, (st.unpin id).unlinkAndClearSlot id⟩ completed broken := by
  have hR := identity_alike hbuilt hplaced
  have hs : st.Similar (st.unpin id) := similar_setReclaiming id false
  have hf := hinv.frames _ mem_cons_self
  have hd := h.frames _ mem_cons_self
  have ho : ∀ a, ((st.unpin id).unlinkAndClearSlot id).Occupied a → a ≠ id ∧ st.Occupied a := by
    intro a ha
    obtain ⟨hne, ha⟩ := unlinkAndClearSlot_occupied.mp ha
    exact ⟨hne, hs.occupied.mp ha⟩
  -- what the activation stood for has a record, or an activation below
  have hkeep : (∃ f ∈ stack, (st0.slots id).Alike (st0.slots f.slot)) ∨
      ∃ record ∈ completed, record.slot = id ∧ (st0.slots id).Alike record.object := by
    obtain hphase | ⟨record, hphase⟩ := hfinished
    · exact .inl (h.history.reentered _ stack rfl hphase)
    · obtain ⟨hslot, hkept⟩ := hf.record record (by simp [hphase, Phase.record?])
      exact .inr ⟨record, h.history.recorded _ mem_cons_self record hphase, hslot,
        hR.kept id _ hf.start hkept⟩
  refine
    { history := hhistory, once := h.once, gone := ?_
      finished := fun record hr f hmem => h.finished record hr f (mem_cons_of_mem _ hmem)
      childless := h.childless, order := h.order, scopes := h.scopes, reached := h.reached
      emptied := fun record hr process field hc hob =>
        h.emptied record hr process field hc (ho _ hob).2
      underway := ?_, taken := ?_, head := ?_, fresh := ?_
      frames := fun f hmem => (h.frames f (mem_cons_of_mem _ hmem)).mono fun a ha => (ho a ha).2
      nested := h.nested.2 }
  · intro record hr b hb hsame
    obtain ⟨hne, hb⟩ := ho b hb
    obtain ⟨f, hmem, hphase⟩ := h.gone record hr b hb hsame
    rcases mem_cons.mp hmem with heq | hmem
    · -- the slot was the last one of its object
      rw [heq] at hphase
      have hphase' : phase = .completed record := hphase
      have hkept := (hf.record record (by simp [hphase', Phase.record?])).2
      exact absurd (hd.alone rfl b hb ((hR.kept id _ hf.start hkept).trans hsame)) hne
    · exact ⟨f, hmem, hphase⟩
  · intro other hother
    obtain ⟨f, hmem, hsame⟩ | hrecord := h.underway other hother
    · rcases mem_cons.mp hmem with heq | hmem
      · rw [heq] at hsame
        obtain ⟨g, hg, hidg⟩ | ⟨record, hr, -, hidr⟩ := hkeep
        · exact .inl ⟨g, hg, hsame.trans hidg⟩
        · exact .inr ⟨record, hr, hsame.trans hidr⟩
      · exact .inl ⟨f, hmem, hsame⟩
    · exact .inr hrecord
  · intro hne hempty
    have hempty' : ¬ st.Occupied s := by
      intro hos
      -- `s` has an activation of its own below, so it is not the slot that is cleared
      have hpath := hinv.path (cons_ne_nil _ _)
      cases stack with
      | nil => exact hne rfl
      | cons g rest =>
        have hmem : s ∈ (g :: rest).map Frame.slot := hpath.tail.start_mem
        obtain ⟨k, hk, hks⟩ := mem_map.mp hmem
        have hks' : s ≠ id := fun heq => hinv.not_mem_rest k hk (hks.trans heq)
        exact hempty (unlinkAndClearSlot_occupied.mpr ⟨hks', hs.occupied.mpr hos⟩)
    obtain ⟨f, hmem, htakes⟩ | hrecord := h.taken (cons_ne_nil _ _) hempty'
    · rcases mem_cons.mp hmem with heq | hmem
      · rw [heq] at htakes
        obtain ⟨g, hg, hidg⟩ | ⟨record, hr, hslot, -⟩ := hkeep
        · exact .inl ⟨g, hg, htakes.peer hidg⟩
        · exact .inr ⟨record, hr, hslot ▸ htakes⟩
      · exact .inl ⟨f, hmem, htakes⟩
    · exact .inr hrecord
  · intro f rest record hmem hr
    have hmem' : f ∈ stack := by
      rw [show stack = f :: rest from hmem]
      exact mem_cons_self
    have hrunning := (hinv.callers f hmem').running
    rw [hr] at hrunning
    exact hrunning.elim
  · intro hstack hos
    subst hstack
    have hpath := hinv.path (cons_ne_nil _ _)
    cases hpath with
    | start => exact absurd rfl (ho _ hos).1

theorem unlink (h : Ordered st0 s ⟨stack, st⟩ completed broken)
    (hhistory : History Slot.Alike st0 ⟨stack, st.unlinkAndClearSlot id⟩ completed broken)
    (htop : stack = [] → id = s) (hs : stack ≠ [] → st.Occupied id → s ≠ id) :
    Ordered st0 s ⟨stack, st.unlinkAndClearSlot id⟩ completed broken := by
  refine h.shrink hhistory (fun a ha => (unlinkAndClearSlot_occupied.mp ha).2)
    (fun _ hid => .inl hid) ?_ fun hstack hos => ?_
  · intro hne hos hempty
    refine absurd (unlinkAndClearSlot_occupied.mpr ⟨fun heq => ?_, hos⟩) hempty
    exact hs hne (heq ▸ hos) heq
  · exact absurd (htop hstack).symm (unlinkAndClearSlot_occupied.mp hos).1

/-- An activation that has come to its callback goes on to a phase with the same record. -/
theorem proceed {last : SlotId} {removing : Bool} {phase phase' : Phase}
    (h : Ordered st0 s ⟨⟨id, last, removing, phase⟩ :: stack, st⟩ completed broken)
    (hhistory : History Slot.Alike st0 ⟨⟨id, last, removing, phase'⟩ :: stack, st'⟩ completed broken)
    (hslots : st'.slots = st.slots) (hbegun : phase ≠ .descendants)
    (hphase : ∀ record, phase ≠ .completed record)
    (hphase' : ∀ record, phase' ≠ .completed record)
    (hrecord : ∀ record, phase'.record? = some record → phase.record? = some record) :
    Ordered st0 s ⟨⟨id, last, removing, phase'⟩ :: stack, st'⟩ completed broken := by
  have hd := h.frames _ mem_cons_self
  exact h.advance hhistory hslots hphase hphase' (hd.drained hbegun) fun record hr =>
    ⟨hd.childless record (hrecord record hr), h.nested.1 record (hrecord record hr)⟩

theorem step (hbuilt : st0.KernelBuilt) (hplaced : st0.KernelPlaced)
    {c c' : Config σ} (hinv : Invariant st0 s c) (hreached : Invariant.Reached st0 s c.state)
    (h : Ordered st0 s c completed broken) (hstep : Step s c c') :
    ∃ completed' broken', Ordered st0 s c' completed' broken' := by
  have hR := identity_alike hbuilt hplaced
  obtain ⟨completed', broken', hhistory⟩ := h.history.step hbuilt hR hinv hstep
  -- what the state has recorded determines the history
  have hsame : c'.state.revocations = c.state.revocations →
      c'.state.cycleBreaks = c.state.cycleBreaks →
      History Slot.Alike st0 c' completed broken := by
    intro hrevocations hbreaks
    obtain ⟨rfl, rfl⟩ := history_unique hhistory (hrevocations.trans h.history.revocations)
      (hbreaks.trans h.history.breaks)
    exact hhistory
  have hcalled_top : ∀ {stack : List Frame} {st : CapState σ} {a : SlotId},
      Called s ⟨stack, st⟩ a → stack = [] → a = s := by
    intro stack st a hcalled hstack
    subst hstack
    exact hcalled
  have hs_mem : c.stack ≠ [] → ∃ frame ∈ c.stack, frame.slot = s :=
    fun hne => mem_map.mp (hinv.path hne).start_mem
  cases hstep with
  | clearEmpty id hcalled _ hempty =>
    have hleft := hsame (unlinkAndClearSlot_revocations _ _) (unlinkAndClearSlot_cycleBreaks _ _)
    exact ⟨_, _, h.unlink hleft (hcalled_top hcalled) fun _ ho => absurd ho hempty⟩
  | clearAlias id hcalled hpin _ _ =>
    have hleft := hsame (unlinkAndClearSlot_revocations _ _) (unlinkAndClearSlot_cycleBreaks _ _)
    refine ⟨_, _, h.unlink hleft (hcalled_top hcalled) fun hne ho heq => ?_⟩
    obtain ⟨f, hf, hfs⟩ := hs_mem hne
    exact hinv.not_mem_stack hpin ho f hf (hfs.trans heq)
  | clearDangling id _ _ hoccupied hcomponent =>
    exact absurd hcomponent (hinv.component_ne_none hbuilt hoccupied)
  | @breakCycle stack st id address hcalled hpin hcomponent _ =>
    obtain ⟨ho, f, hf, hslot⟩ := (hinv.pinned id).mp hpin
    have hbreaks : ((st.unlinkAndClearSlot id).recordCycleBreak id).cycleBreaks =
        (id :: broken) ++ st0.cycleBreaks :=
      congrArg (id :: ·) ((unlinkAndClearSlot_cycleBreaks _ _).trans h.history.breaks)
    obtain ⟨rfl, rfl⟩ := history_unique hhistory
      ((unlinkAndClearSlot_revocations _ _).trans h.history.revocations) hbreaks
    refine ⟨_, _, h.shrink hhistory (fun a ha => (unlinkAndClearSlot_occupied.mp ha).2) ?_ ?_ ?_⟩
    · intro other hother
      rcases mem_cons.mp hother with heq | hother
      · refine .inr ⟨f, hf, ?_⟩
        rw [heq, hslot]
        exact hR.kept id _ (hinv.shrunk.occupied ho) (Slot.Kept.refl _)
      · exact .inl hother
    · intro hne hos hempty
      have hids : id = s := by
        by_contra hne'
        exact hempty (unlinkAndClearSlot_occupied.mpr ⟨fun heq => hne' heq.symm, hos⟩)
      cases stack with
      | nil => exact absurd rfl hne
      | cons g rest =>
        have hnode := (hinv.shrunk.kept id ho).component.symm.trans hcomponent
        have htouches := hinv.touches hcalled ho
        rw [hids] at hnode htouches
        exact ⟨g, mem_cons_self, htouches.takes hbuilt hplaced hnode⟩
    · intro hstack
      exact absurd hf (by simp [show stack = [] from hstack])
  | pin id removing hcalled _ hoccupied _ hremoving hrevoking =>
    exact ⟨_, _, pin hplaced hinv h hcalled hoccupied hremoving hrevoking (hsame rfl rfl)⟩
  | @begin stack st id last removing hcomponent hend =>
    have hdrained := drained hbuilt hplaced hinv hreached h hend
    refine ⟨_, _, h.advance (hsame rfl rfl) rfl (by simp) (by simp) hdrained fun record hr => ?_⟩
    simp only [Phase.record?, Option.some.injEq] at hr
    rw [← hr]
    exact ⟨hasChild_of_drained hinv.shrunk hdrained, hinv.active⟩
  | enter id last removing record address _ _ =>
    exact ⟨_, _, h.proceed (hsame rfl rfl) rfl (by simp) (by simp) (by simp) fun _ hr => hr⟩
  | detach id last removing record address index hcomponent _ hne hsame' =>
    have hleft := hsame (unlinkAndClearSlot_revocations _ _) (unlinkAndClearSlot_cycleBreaks _ _)
    refine ⟨_, _, h.unlink hleft (fun hstack => absurd hstack (by simp)) fun hstack _ heq => ?_⟩
    obtain ⟨f, hf, hfs⟩ := hs_mem hstack
    exact (hinv.detached hcomponent hne hsame').2.2 f hf (hfs.trans heq)
  | leave id last removing record address _ =>
    exact ⟨_, _, h.proceed (hsame rfl rfl) rfl (by simp) (by simp) (by simp) fun _ hr => hr⟩
  | @reset stack st id last removing record hcomponent hchild =>
    have hf := hinv.frames _ mem_cons_self
    have hgeneric := (hf.record record rfl).2.component.symm.trans hcomponent
    have hkept := hinv.shrunk.kept id (hf.occupied_of_component hgeneric (by simp))
    have hs : st.Similar (st.resetWatermark id) :=
      similar_resetWatermark (hkept.component.trans hgeneric)
    exact ⟨_, _, h.shrink (hsame rfl rfl) (fun a => hs.occupied.mp) (fun _ hid => .inl hid)
      (fun _ hos hempty => absurd (hs.occupied.mpr hos) hempty)
      fun hstack => absurd hstack (by simp)⟩
  | release id last removing record process _ =>
    exact ⟨_, _, h.proceed (hsame rfl rfl) rfl (by simp) (by simp) (by simp) fun _ hr => hr⟩
  | clearBuffer id last removing record process _ =>
    exact ⟨_, _, h.proceed (hsame rfl rfl) rfl (by simp) (by simp) (by simp) fun _ hr => hr⟩
  | outside bindedProcess irqUsed objects _ =>
    exact ⟨_, _, h.shrink (hsame rfl rfl) (fun _ ho => ho) (fun _ hid => .inl hid)
      (fun _ hos hempty => absurd hos hempty) h.fresh⟩
  | @complete stack st id last removing record hemptied hidle =>
    have hrevocations : (st.recordRevocation record).revocations =
        (record :: completed) ++ st0.revocations := congrArg (record :: ·) h.history.revocations
    obtain ⟨rfl, rfl⟩ := history_unique hhistory hrevocations h.history.breaks
    exact ⟨_, _, complete hbuilt hplaced hinv h hemptied hidle hhistory⟩
  | reenter id last removing record address _ _ =>
    refine ⟨_, _, h.proceed (hsame rfl rfl) rfl (by simp) (by simp) (by simp) fun record hr => ?_⟩
    simp [Phase.record?] at hr
  | @finalise stack st id last phase hphase =>
    exact ⟨_, _, finalise hbuilt hplaced hphase hinv h
      (hsame (unlinkAndClearSlot_revocations _ _) (unlinkAndClearSlot_cycleBreaks _ _))⟩

theorem steps (hbuilt : st0.KernelBuilt) (hplaced : st0.KernelPlaced) (hidle : st0.Idle)
    {c : Config σ} (hsteps : Steps false s ⟨[], st0⟩ c) :
    ∃ completed broken, Ordered st0 s c completed broken := by
  refine hsteps.induct (P := fun c => ∃ completed broken, Ordered st0 s c completed broken)
    ⟨[], [], start (identity_alike hbuilt hplaced)⟩ ?_ fun hfailing => absurd hfailing (by simp)
  intro d d' hd ih hstep
  obtain ⟨completed, broken, h⟩ := ih
  exact h.step hbuilt hplaced ((Invariant.start hbuilt.linked hidle).steps hbuilt hd)
    (Invariant.reached_steps hbuilt hidle hd) hstep

end Config.Ordered

end A9N.Kernel
