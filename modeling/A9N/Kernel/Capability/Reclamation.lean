import A9N.Framework.Run
import A9N.Kernel.Capability.Generic

/-!
# Reclamation

`capability_node_reclamation.cpp` and the `revoke` callbacks of the objects. `remove_slot`,
`revoke_slot` and the callbacks call each other; the callbacks are written over the remover
they use, and `removeSlot` ties the knot with a bound on the nesting.
-/

namespace A9N.Kernel

def irqNumberMax : Nat := 256

/-- The type of `remove_slot`, as the callbacks see it. -/
abbrev Remover (σ : Type) := CapState σ → SlotId → Run KernelError (CapState σ) Unit

namespace CapState

variable {σ : Type}

def onObjects {ε : Type} (st : CapState σ) (f : σ → Outcome ε σ Unit) :
    Outcome ε (CapState σ) Unit :=
  ⟨(f st.objects).result, { st with objects := (f st.objects).state }⟩

/-- `is_reclaiming`: the default is false, only Nodes override it. -/
def isReclaiming (st : CapState σ) : Component → Bool
  | .node address => st.activeNodeReclamations.contains address
  | _ => false

def setReclaiming (st : CapState σ) (id : SlotId) (value : Bool) : CapState σ :=
  st.modifySlot id fun slot => { slot with reclaiming := value }

/-- The `reclamation_guard` of `revoke_slot`. -/
def pin (st : CapState σ) (id : SlotId) : CapState σ := st.setReclaiming id true

def unpin (st : CapState σ) (id : SlotId) : CapState σ := st.setReclaiming id false

def enterNode (st : CapState σ) (address : Word) : CapState σ :=
  { st with activeNodeReclamations := address :: st.activeNodeReclamations }

def leaveNode (st : CapState σ) : CapState σ :=
  { st with activeNodeReclamations := st.activeNodeReclamations.tail }

def clearBuffer (st : CapState σ) (process : Word) : CapState σ :=
  { st with buffer := Function.update st.buffer process none }

def setIrqUnused (st : CapState σ) (number : Nat) : CapState σ :=
  { st with irqUsed := Function.update st.irqUsed number false }

def recordRevocation (st : CapState σ) (record : Revocation) : CapState σ :=
  { st with revocations := record :: st.revocations }

def recordCycleBreak (st : CapState σ) (id : SlotId) : CapState σ :=
  { st with cycleBreaks := id :: st.cycleBreaks }

def resetWatermark (st : CapState σ) (id : SlotId) : CapState σ :=
  st.modifySlot id fun slot =>
    { slot with data := (createGenericInfo slot.data).init.dumpSlotData }

def unbindProcess (st : CapState σ) (port process : Word) :
    Outcome KernelError (CapState σ) Unit :=
  if st.bindedProcess port ≠ some process then .error .illegalArgument st
  else .ok () { st with bindedProcess := Function.update st.bindedProcess port none }

/-- The loop of `capability_node::revoke`: `steps` slots are left, the next one is `index`. -/
def nodeRevokeLoop (remove : Remover σ) (address : Word) (self : SlotId) :
    Nat → Nat → CapState σ → Run CapabilityError (CapState σ) Unit
  | 0, _, st => .ok () st
  | steps + 1, index, st =>
    let id := SlotId.node address index
    if ¬ (st.nodes address).hasSlots then .error .illegalOperation st
    else if id = self then nodeRevokeLoop remove address self steps (index + 1) st
    else if (st.slots id).isSameObject (st.slots self) then
      nodeRevokeLoop remove address self steps (index + 1) (st.unlinkAndClearSlot id)
    else if (st.slots id).type ≠ .none then
      ((remove st id).transformError fun _ => CapabilityError.illegalOperation).andThen
        fun _ st => nodeRevokeLoop remove address self steps (index + 1) st
    else nodeRevokeLoop remove address self steps (index + 1) st

def nodeRevoke (remove : Remover σ) (st : CapState σ) (address : Word) (self : SlotId) :
    Run CapabilityError (CapState σ) Unit :=
  if st.isReclaiming (.node address) then .ok () st
  else
    (nodeRevokeLoop remove address self (st.nodes address).slotTotal.toNat 0
      (st.enterNode address)).onExit leaveNode

def genericRevoke (st : CapState σ) (self : SlotId) : Outcome CapabilityError (CapState σ) Unit :=
  if st.hasChild self then .error .illegalOperation st
  else .ok () (st.resetWatermark self)

def ownedSlots : List ProcessSlot := [.rootSlot, .rootAddressSpace, .bufferFrame, .resolverPort]

def removeOwnedSlots (remove : Remover σ) (process : Word) :
    List ProcessSlot → CapState σ → Run CapabilityError (CapState σ) Unit
  | [], st => .ok () st
  | field :: fields, st =>
    -- the buffer is given up even if its Frame cleanup failed
    (((remove st (.process process field)).onExit fun st =>
        if field = .bufferFrame then st.clearBuffer process else st).transformError
          convertKernelToCapabilityError).andThen
      fun _ st => removeOwnedSlots remove process fields st

/-- The end of `process_control_block::revoke`; the result of `unbind_process` is dropped. -/
def removeBoundNotification (remove : Remover σ) (process : Word) (st : CapState σ) :
    Run CapabilityError (CapState σ) Unit :=
  let bound := st.slots (.process process .bindedNotificationPort)
  let st := match bound.type, bound.component with
    | .notificationPort, some (.notificationPort port) => (st.unbindProcess port process).state
    | _, _ => st
  (remove st (.process process .bindedNotificationPort)).transformError
    convertKernelToCapabilityError

def processControlBlockRevoke (remove : Remover σ) (ops : ObjectOps σ) (st : CapState σ)
    (process : Word) : Run CapabilityError (CapState σ) Unit :=
  Run.andThen (some (st.onObjects (ops.quiesceProcess process))) fun _ st =>
    (removeOwnedSlots remove process ownedSlots st).andThen fun _ st =>
      removeBoundNotification remove process
        { st with objects := ops.resetContext process st.objects }

/-- The part of `notification_port::revoke` behind the drained queue. -/
def releaseBinding (remove : Remover σ) (st : CapState σ) (port : Word) (self : SlotId) :
    Run CapabilityError (CapState σ) Unit :=
  match st.bindedProcess port with
  | none => .ok () st
  | some target =>
    Run.andThen (some ((st.unbindProcess port target).transformError
        fun _ => CapabilityError.fatal)) fun _ st =>
      let bound := SlotId.process target .bindedNotificationPort
      if bound ≠ self ∧ (st.slots bound).component = some (.notificationPort port) then
        (remove st bound).transformError fun _ => CapabilityError.fatal
      else .ok () st

def notificationPortRevoke (remove : Remover σ) (ops : ObjectOps σ) (st : CapState σ)
    (port : Word) (self : SlotId) : Run CapabilityError (CapState σ) Unit :=
  Run.andThen (some (st.onObjects (ops.drainNotificationPort port))) fun _ st =>
    (releaseBinding remove st port self).andThen fun _ st =>
      .ok () { st with objects := ops.resetNotificationPort port st.objects }

def interruptPortRevoke (remove : Remover σ) (ops : ObjectOps σ) (st : CapState σ)
    (self : SlotId) : Run CapabilityError (CapState σ) Unit :=
  let irqNumber := (st.slots self).data.first
  if irqNumberMax ≤ irqNumber.toNat then
    .error (convertKernelToCapabilityError .unsupported) st
  else
    Run.andThen (some ((st.onObjects (ops.disableInterrupt irqNumber)).transformError
        convertKernelToCapabilityError)) fun _ st =>
      ((remove st (.irq irqNumber.toNat)).transformError convertKernelToCapabilityError).andThen
        fun _ st => .ok () (st.setIrqUnused irqNumber.toNat)

/-- The loop of `interrupt_region::revoke` over the handlers from `number` on. -/
def interruptRegionRevoke (remove : Remover σ) :
    Nat → Nat → CapState σ → Run CapabilityError (CapState σ) Unit
  | 0, _, st => .ok () st
  | steps + 1, number, st =>
    ((remove (st.setIrqUnused number) (.irq number)).transformError
        convertKernelToCapabilityError).andThen
      fun _ st => interruptRegionRevoke remove steps (number + 1) st

def componentRevoke (remove : Remover σ) (ops : ObjectOps σ) (st : CapState σ)
    (component : Component) (self : SlotId) : Run CapabilityError (CapState σ) Unit :=
  match component with
  | .node address => nodeRevoke remove st address self
  | .generic => some (st.genericRevoke self)
  | .processControlBlock process => processControlBlockRevoke remove ops st process
  | .ipcPort port => some (st.onObjects (ops.revokeIpcPort port))
  | .notificationPort port => notificationPortRevoke remove ops st port self
  | .interruptPort => interruptPortRevoke remove ops st self
  | .interruptRegion => interruptRegionRevoke remove irqNumberMax 0 st
  | .addressSpace | .pageTable | .frame | .ioPort | .virtualCpu _ => .ok () st

def runCallback (remove : Remover σ) (ops : ObjectOps σ) (st : CapState σ)
    (component : Component) (self : SlotId) : Run CapabilityError (CapState σ) Unit :=
  let record : Revocation := ⟨self, st.slots self, st.hasChild self, st.activeNodeReclamations⟩
  let reentered := st.isReclaiming component
  (componentRevoke remove ops st component self).andThen fun _ st =>
    .ok () (if reentered then st else st.recordRevocation record)

/-- The loop of `revoke_slot`. The last alias is not looked up again. -/
def removeDescendants (remove : Remover σ) (id lastAlias : SlotId) :
    Nat → CapState σ → Run KernelError (CapState σ) Unit
  | 0, _ => none
  | fuel + 1, st =>
    match (st.slots lastAlias).nextSlot with
    | none => .ok () st
    | some next =>
      if (st.slots id).depth < (st.slots next).depth then
        (remove st next).andThen fun _ st => removeDescendants remove id lastAlias fuel st
      else .ok () st

/-- The second half of `revoke_slot`. The component is read again here; the source would
follow a null pointer if a descendant's callback had emptied the slot. -/
def revokeObject (remove : Remover σ) (ops : ObjectOps σ) (st : CapState σ) (id : SlotId) :
    Run KernelError (CapState σ) Unit :=
  match (st.slots id).component with
  | none => none
  | some component =>
    (runCallback remove ops st component id).transformError fun _ => KernelError.unexpected

/-- `revoke_slot` over the remover it uses. -/
def revokeSlotWith (remove : Remover σ) (ops : ObjectOps σ) (fuel : Nat) : Remover σ :=
  fun st id =>
    let slot := st.slots id
    if slot.type = .none ∨ slot.component = none ∨ slot.reclaiming then
      .error .illegalArgument st
    else
      let pinned := st.pin id
      ((removeDescendants remove id (pinned.lastAliasInGroup id) fuel pinned).andThen
        fun _ st => revokeObject remove ops st id).onExit fun st => st.unpin id

def removeSlotWith (revoke : Remover σ) : Remover σ :=
  fun st id =>
    let slot := st.slots id
    if slot.reclaiming then
      -- reentrant removal is only allowed to break an active Node cycle
      if slot.component.any st.isReclaiming then
        .ok () ((st.unlinkAndClearSlot id).recordCycleBreak id)
      else .error .illegalArgument st
    else if slot.type = .none then .ok () (st.unlinkAndClearSlot id)
    else if st.hasSibling id then .ok () (st.unlinkAndClearSlot id)
    else if slot.component = none then .ok () (st.unlinkAndClearSlot id)
    else
      ((revoke st id).transformError fun _ => KernelError.unexpected).andThen
        fun _ st => .ok () (st.unlinkAndClearSlot id)

def removeSlot (ops : ObjectOps σ) : Nat → Remover σ
  | 0 => fun _ _ => none
  | fuel + 1 => removeSlotWith (revokeSlotWith (removeSlot ops fuel) ops fuel)

def revokeSlot (ops : ObjectOps σ) (fuel : Nat) : Remover σ :=
  revokeSlotWith (removeSlot ops fuel) ops fuel

end CapState

end A9N.Kernel
