import A9N.Kernel.Capability.Reclamation
import A9N.Kernel.Capability.Dependency

/-!
# Reclamation as small steps

The nested activations of `revoke_slot` are a stack of frames, and everything the mutually
recursive functions do to the capability state is one of a dozen steps, each with the tests
the source makes before it, or an activation that gives up. Whatever these keep, every call
keeps; a call that succeeds never gives up.
-/

namespace A9N.Kernel

/-- How far an activation of `revoke_slot` has come. -/
inductive Phase
  | descendants
  | callback (record : Revocation)
  | entered (record : Revocation)
  | releasing (record : Revocation)
  | completed (record : Revocation)
  | reentered
deriving DecidableEq, Repr

def Phase.running : Phase → Prop
  | .descendants | .callback _ | .entered _ | .releasing _ => True
  | .completed _ | .reentered => False

def Phase.interrupted : Phase → Prop
  | .descendants | .callback _ => True
  | .entered _ | .releasing _ | .completed _ | .reentered => False

/-- An activation of `revoke_slot`. `removing` tells whether `remove_slot` called it. -/
structure Frame where
  slot : SlotId
  lastAlias : SlotId
  removing : Bool
  phase : Phase
deriving DecidableEq, Repr

structure Config (σ : Type) where
  stack : List Frame
  state : CapState σ

/-- The slots the callback of `object`, run for `self`, hands to `remove_slot`. -/
def CapState.Holds {σ : Type} (st : CapState σ) (self : SlotId) (object : Slot) (id : SlotId) :
    Prop :=
  match object.component with
  | some (.node address) => id ≠ self ∧ ¬ (st.slots id).isSameObject (st.slots self) ∧
      ∃ index < (st.nodes address).slotTotal.toNat, id = .node address index
  | some (.processControlBlock process) => ∃ field, id = .process process field
  | some (.notificationPort port) => id ≠ self ∧
      (st.slots id).component = some (.notificationPort port) ∧
      ∃ process, id = .process process .bindedNotificationPort
  | some .interruptPort => id = .irq object.data.first.toNat
  | some .interruptRegion => ∃ number, id = .irq number
  | _ => False

/-- The calls of `remove_slot` an activation makes. -/
def Frame.Calls {σ : Type} (frame : Frame) (st : CapState σ) (id : SlotId) : Prop :=
  match frame.phase with
  | .descendants => (st.slots frame.lastAlias).nextSlot = some id ∧
      (st.slots frame.slot).depth < (st.slots id).depth
  | .callback record =>
    (∀ address, record.object.component ≠ some (.node address)) ∧
      (∀ process, record.object.component = some (.processControlBlock process) →
        id ≠ .process process .bufferFrame) ∧
      st.Holds frame.slot record.object id
  | .entered record => st.Holds frame.slot record.object id
  | .releasing record => ∃ process,
      record.object.component = some (.processControlBlock process) ∧
        id = .process process .bufferFrame
  | .completed _ | .reentered => False

namespace Config

variable {σ : Type}

/-- `remove_slot(id)` is the call from outside, which is for `target`, or one made by the
innermost activation. -/
def Called (target : SlotId) (c : Config σ) (id : SlotId) : Prop :=
  match c.stack with
  | [] => id = target
  | frame :: _ => frame.Calls c.state id

def Emptied (st : CapState σ) (self : SlotId) (object : Slot) : Prop :=
  match object.component with
  | some (.node address) => ∀ index < (st.nodes address).slotTotal.toNat,
      SlotId.node address index = self ∨ ¬ st.Occupied (.node address index)
  | some (.processControlBlock process) => ∀ field, ¬ st.Occupied (.process process field)
  | _ => True

inductive Step (target : SlotId) : Config σ → Config σ → Prop
  /-- `remove_slot` of an empty slot -/
  | clearEmpty {stack : List Frame} {st : CapState σ} (id : SlotId)
      (hcalled : Called target ⟨stack, st⟩ id) (hpin : (st.slots id).reclaiming = false)
      (hempty : ¬ st.Occupied id) :
      Step target ⟨stack, st⟩ ⟨stack, st.unlinkAndClearSlot id⟩
  /-- `remove_slot` of an alias that is not the last -/
  | clearAlias {stack : List Frame} {st : CapState σ} (id : SlotId)
      (hcalled : Called target ⟨stack, st⟩ id) (hpin : (st.slots id).reclaiming = false)
      (hoccupied : st.Occupied id) (hsibling : st.hasSibling id) :
      Step target ⟨stack, st⟩ ⟨stack, st.unlinkAndClearSlot id⟩
  /-- `remove_slot` of a slot with a type but no object -/
  | clearDangling {stack : List Frame} {st : CapState σ} (id : SlotId)
      (hcalled : Called target ⟨stack, st⟩ id) (hpin : (st.slots id).reclaiming = false)
      (hoccupied : st.Occupied id) (hcomponent : (st.slots id).component = none) :
      Step target ⟨stack, st⟩ ⟨stack, st.unlinkAndClearSlot id⟩
  /-- `remove_slot` breaks an active Node cycle -/
  | breakCycle {stack : List Frame} {st : CapState σ} (id : SlotId) (address : Word)
      (hcalled : Called target ⟨stack, st⟩ id) (hpin : (st.slots id).reclaiming = true)
      (hcomponent : (st.slots id).component = some (.node address))
      (hactive : address ∈ st.activeNodeReclamations) :
      Step target ⟨stack, st⟩ ⟨stack, (st.unlinkAndClearSlot id).recordCycleBreak id⟩
  /-- `revoke_slot` starts -/
  | pin {stack : List Frame} {st : CapState σ} (id : SlotId) (removing : Bool)
      (hcalled : Called target ⟨stack, st⟩ id) (hpin : (st.slots id).reclaiming = false)
      (hoccupied : st.Occupied id) (hcomponent : (st.slots id).component ≠ none)
      (hremoving : removing = true → st.hasSibling id = false)
      (hrevoking : removing = false → stack = []) :
      Step target ⟨stack, st⟩
        ⟨⟨id, (st.pin id).lastAliasInGroup id, removing, .descendants⟩ :: stack, st.pin id⟩
  | begin {stack : List Frame} {st : CapState σ} (id last : SlotId) (removing : Bool)
      (hcomponent : (st.slots id).component ≠ none)
      (hend : ∀ next, (st.slots last).nextSlot = some next →
        ¬ (st.slots id).depth < (st.slots next).depth) :
      Step target ⟨⟨id, last, removing, .descendants⟩ :: stack, st⟩
        ⟨⟨id, last, removing, .callback
          ⟨id, st.slots id, st.hasChild id, st.activeNodeReclamations⟩⟩ :: stack, st⟩
  | enter {stack : List Frame} {st : CapState σ} (id last : SlotId) (removing : Bool)
      (record : Revocation) (address : Word)
      (hcomponent : record.object.component = some (.node address))
      (hactive : address ∉ st.activeNodeReclamations) :
      Step target ⟨⟨id, last, removing, .callback record⟩ :: stack, st⟩
        ⟨⟨id, last, removing, .entered record⟩ :: stack, st.enterNode address⟩
  | detach {stack : List Frame} {st : CapState σ} (id last : SlotId) (removing : Bool)
      (record : Revocation) (address : Word) (index : Nat)
      (hcomponent : record.object.component = some (.node address))
      (hindex : index < (st.nodes address).slotTotal.toNat)
      (hne : SlotId.node address index ≠ id)
      (hsame : (st.slots (.node address index)).isSameObject (st.slots id)) :
      Step target ⟨⟨id, last, removing, .entered record⟩ :: stack, st⟩
        ⟨⟨id, last, removing, .entered record⟩ :: stack,
          st.unlinkAndClearSlot (.node address index)⟩
  | leave {stack : List Frame} {st : CapState σ} (id last : SlotId) (removing : Bool)
      (record : Revocation) (address : Word)
      (hcomponent : record.object.component = some (.node address)) :
      Step target ⟨⟨id, last, removing, .entered record⟩ :: stack, st⟩
        ⟨⟨id, last, removing, .callback record⟩ :: stack, st.leaveNode⟩
  | reset {stack : List Frame} {st : CapState σ} (id last : SlotId) (removing : Bool)
      (record : Revocation) (hcomponent : record.object.component = some .generic)
      (hchild : st.hasChild id = false) :
      Step target ⟨⟨id, last, removing, .callback record⟩ :: stack, st⟩
        ⟨⟨id, last, removing, .callback record⟩ :: stack, st.resetWatermark id⟩
  | release {stack : List Frame} {st : CapState σ} (id last : SlotId) (removing : Bool)
      (record : Revocation) (process : Word)
      (hcomponent : record.object.component = some (.processControlBlock process)) :
      Step target ⟨⟨id, last, removing, .callback record⟩ :: stack, st⟩
        ⟨⟨id, last, removing, .releasing record⟩ :: stack, st⟩
  | clearBuffer {stack : List Frame} {st : CapState σ} (id last : SlotId) (removing : Bool)
      (record : Revocation) (process : Word)
      (hcomponent : record.object.component = some (.processControlBlock process)) :
      Step target ⟨⟨id, last, removing, .releasing record⟩ :: stack, st⟩
        ⟨⟨id, last, removing, .callback record⟩ :: stack, st.clearBuffer process⟩
  | outside {stack : List Frame} {st : CapState σ} (bindedProcess : Word → Option Word)
      (irqUsed : Nat → Bool) (objects : σ)
      (hbinded : ∀ port process, bindedProcess port = some process →
        st.bindedProcess port = some process) :
      Step target ⟨stack, st⟩
        ⟨stack, { st with bindedProcess := bindedProcess, irqUsed := irqUsed, objects := objects }⟩
  | complete {stack : List Frame} {st : CapState σ} (id last : SlotId) (removing : Bool)
      (record : Revocation) (hemptied : Emptied st id record.object)
      (hidle : ∀ address, record.object.component = some (.node address) →
        address ∉ st.activeNodeReclamations) :
      Step target ⟨⟨id, last, removing, .callback record⟩ :: stack, st⟩
        ⟨⟨id, last, removing, .completed record⟩ :: stack, st.recordRevocation record⟩
  | reenter {stack : List Frame} {st : CapState σ} (id last : SlotId) (removing : Bool)
      (record : Revocation) (address : Word)
      (hcomponent : record.object.component = some (.node address))
      (hactive : address ∈ st.activeNodeReclamations) :
      Step target ⟨⟨id, last, removing, .callback record⟩ :: stack, st⟩
        ⟨⟨id, last, removing, .reentered⟩ :: stack, st⟩
  /-- `revoke_slot` returns successfully to `remove_slot`, which clears the slot -/
  | finalise {stack : List Frame} {st : CapState σ} (id last : SlotId) (phase : Phase)
      (hphase : phase = .reentered ∨ ∃ record, phase = .completed record) :
      Step target ⟨⟨id, last, true, phase⟩ :: stack, st⟩
        ⟨stack, (st.unpin id).unlinkAndClearSlot id⟩

/-- `revoke_slot` returns with an error to another activation. -/
inductive GiveUp : Config σ → Config σ → Prop
  | unpin {stack : List Frame} {st : CapState σ} (frame : Frame)
      (hphase : frame.phase.interrupted) (hinner : stack ≠ []) :
      GiveUp ⟨frame :: stack, st⟩ ⟨stack, st.unpin frame.slot⟩

/-- Only a call that is `failing` has activations that give up. -/
def Steps (failing : Bool) (target : SlotId) : Config σ → Config σ → Prop :=
  Relation.ReflTransGen fun c c' => Step target c c' ∨ failing = true ∧ GiveUp c c'

variable {stack : List Frame} {st st' : CapState σ} {c c' : Config σ} {target id : SlotId}
  {failing : Bool}

theorem Step.steps (h : Step target c c') : Steps failing target c c' :=
  Relation.ReflTransGen.single (.inl h)

theorem Steps.refl (c : Config σ) : Steps failing target c c := Relation.ReflTransGen.refl

theorem Steps.trans {d : Config σ} (h : Steps failing target c c')
    (h' : Steps failing target c' d) : Steps failing target c d :=
  Relation.ReflTransGen.trans h h'

theorem Steps.tail {d : Config σ} (h : Steps failing target c c') (h' : Step target c' d) :
    Steps failing target c d :=
  Relation.ReflTransGen.tail h (.inl h')

theorem Steps.mayFail (h : Steps false target c c') : Steps failing target c c' := by
  refine Relation.ReflTransGen.mono (fun x y hxy => ?_) c c' h
  exact hxy.imp_right fun hfailing => absurd hfailing.1 Bool.false_ne_true

/-- What holds at first and is kept by every step and by every activation that gives up. -/
theorem Steps.induct {P : Config σ → Prop} (h : Steps failing target c c') (hstart : P c)
    (hstep : ∀ d d', Steps failing target c d → P d → Step target d d' → P d')
    (hgiveUp : failing = true → ∀ d d', Steps failing target c d → P d → GiveUp d d' → P d') :
    P c' := by
  induction h with
  | refl => exact hstart
  | @tail d d' hsteps hlast ih =>
    obtain hlast | ⟨hfailing, hlast⟩ := hlast
    · exact hstep d d' hsteps ih hlast
    · exact hgiveUp hfailing d d' hsteps ih hlast

theorem Step.not_occupied (h : Step target c c') (hempty : ¬ c.state.Occupied id) :
    ¬ c'.state.Occupied id := by
  cases h <;> simp_all [CapState.Occupied, CapState.unlinkAndClearSlot_type, CapState.pin,
    CapState.unpin, CapState.setReclaiming, CapState.enterNode, CapState.leaveNode,
    CapState.resetWatermark, CapState.clearBuffer, CapState.recordRevocation,
    CapState.recordCycleBreak, CapState.modifySlot_slots]
  all_goals split_ifs <;> simp_all

theorem Step.nodes (h : Step target c c') : c'.state.nodes = c.state.nodes := by
  cases h <;> simp [CapState.pin, CapState.unpin, CapState.setReclaiming, CapState.enterNode,
    CapState.leaveNode, CapState.resetWatermark, CapState.clearBuffer, CapState.recordRevocation,
    CapState.recordCycleBreak, CapState.modifySlot, CapState.setSlot]

theorem Steps.not_occupied (h : Steps failing target c c') (hempty : ¬ c.state.Occupied id) :
    ¬ c'.state.Occupied id := by
  refine h.induct (P := fun d => ¬ d.state.Occupied id) hempty
    (fun d d' _ hd hstep => hstep.not_occupied hd) fun _ d d' _ hd hgiveUp => ?_
  cases hgiveUp with
  | unpin frame _ _ =>
    simp only [CapState.Occupied, CapState.unpin, CapState.setReclaiming,
      CapState.modifySlot_slots] at hd ⊢
    split_ifs with hid
    · rwa [← hid]
    · exact hd

theorem Steps.nodes (h : Steps failing target c c') : c'.state.nodes = c.state.nodes := by
  refine h.induct (P := fun d => d.state.nodes = c.state.nodes) rfl
    (fun d d' _ hd hstep => hstep.nodes.trans hd) fun _ d d' _ hd hgiveUp => ?_
  cases hgiveUp with
  | unpin frame _ _ => exact hd

end Config

end A9N.Kernel
