import A9N.Kernel.Types

/-!
# Capability slots and the dependency list

`capability_component.hpp`. A slot lives in a Node, in a process control block or in the interrupt
handler table, and every occupied slot is a member of a doubly linked list whose `depth` field
records how it was derived.
-/

namespace A9N.Kernel

inductive Component
  | node (address : Word)
  | generic
  | addressSpace
  | pageTable
  | frame
  | processControlBlock (address : Word)
  | ipcPort (address : Word)
  | notificationPort (address : Word)
  | interruptRegion
  | interruptPort
  | ioPort
  | virtualCpu (address : Word)
deriving DecidableEq, Repr

inductive ProcessSlot
  | rootSlot | rootAddressSpace | bufferFrame | bindedNotificationPort | resolverPort
deriving DecidableEq, Repr

inductive SlotId
  | node (address : Word) (index : Nat)
  | process (address : Word) (field : ProcessSlot)
  | irq (number : Nat)
deriving DecidableEq, Repr

structure SlotData where
  first : Word := 0
  second : Word := 0
  third : Word := 0
deriving DecidableEq, Repr

/-- `capability_slot`. The default value is what `init` leaves behind. The last field is a
ghost: the serial number of the object the slot names, which no operation reads. -/
structure Slot where
  component : Option Component := none
  type : CapabilityType := .none
  rights : BitVec 8 := 0
  reclaiming : Bool := false
  data : SlotData := {}
  nextSlot : Option SlotId := none
  previewSlot : Option SlotId := none
  depth : Nat := 0
  object : Nat := 0
deriving DecidableEq, Repr

namespace Slot

def init : Slot := {}

def read : BitVec 8 := 1
def write : BitVec 8 := 2
def copy : BitVec 8 := 4
def modify : BitVec 8 := 8
def all : BitVec 8 := 15

def hasRights (slot : Slot) (rights : BitVec 8) : Bool := slot.rights &&& rights == rights

end Slot

def genericFlagsSizeBits (flags : Word) : Word := flags &&& 0x7f

def Component.isSameObject (component : Component) (left right : Slot) : Bool :=
  match component with
  | .generic => left.data.first == right.data.first &&
      genericFlagsSizeBits left.data.second == genericFlagsSizeBits right.data.second
  | .addressSpace => left.data.first == right.data.first
  | .pageTable => left.data.first == right.data.first &&
      left.data.second &&& 0xff == right.data.second &&& 0xff
  | .frame => left.data.first == right.data.first && left.data.third == right.data.third
  | .interruptPort => left.data.first == right.data.first
  | .ioPort => left.data.first == right.data.first && left.data.second == right.data.second
  | _ => true

def Slot.isSameObject (slot rhs : Slot) : Bool :=
  match slot.component with
  | none => false
  | some component =>
    slot.type != .none && slot.type == rhs.type && rhs.component == some component &&
      component.isSameObject slot rhs

/-- `capability_node`: its geometry, and whether its slot array exists. -/
structure NodeObject where
  ignoreBits : Word := 0
  radixBits : Word := 0
  hasSlots : Bool := false
deriving DecidableEq, Repr

structure Allocation where
  object : Nat
  creator : Nat
  genericBase : Word
  genericSizeBits : Word
  watermark : Word
  base : Word
  size : Nat
deriving DecidableEq, Repr

/-- Record of one completed object callback: the slot it was run for, what that slot held,
what `has_child` answered and which Nodes were being reclaimed when the callback started. -/
structure Revocation where
  slot : SlotId
  object : Slot
  hasChild : Bool
  scopes : List Word
deriving DecidableEq, Repr

/-- The capability side of the kernel. `objects` is the rest of the kernel, which the object
callbacks act on. `slotCount` bounds the number of slots that exist; `objectCount`,
`allocations`, `revocations` and `cycleBreaks` are a history that no operation reads. -/
structure CapState (σ : Type) where
  slots : SlotId → Slot
  nodes : Word → NodeObject
  slotCount : Nat
  activeNodeReclamations : List Word := []
  buffer : Word → Option Word
  bindedProcess : Word → Option Word
  irqUsed : Nat → Bool
  objects : σ
  objectCount : Nat := 0
  allocations : List Allocation := []
  revocations : List Revocation := []
  cycleBreaks : List SlotId := []

namespace CapState

variable {σ : Type}

def setSlot (st : CapState σ) (id : SlotId) (slot : Slot) : CapState σ :=
  { st with slots := Function.update st.slots id slot }

def modifySlot (st : CapState σ) (id : SlotId) (f : Slot → Slot) : CapState σ :=
  st.setSlot id (f (st.slots id))

@[simp] theorem setSlot_slots_self (st : CapState σ) (id : SlotId) (slot : Slot) :
    (st.setSlot id slot).slots id = slot := by
  simp [setSlot]

theorem setSlot_slots_of_ne (st : CapState σ) {id other : SlotId} (slot : Slot)
    (h : other ≠ id) : (st.setSlot id slot).slots other = st.slots other := by
  simp [setSlot, h]

theorem modifySlot_slots (st : CapState σ) (id other : SlotId) (f : Slot → Slot) :
    (st.modifySlot id f).slots other = if other = id then f (st.slots id) else st.slots other := by
  by_cases h : other = id <;> simp [modifySlot, setSlot, h]

def setNext (st : CapState σ) (target next : Option SlotId) : CapState σ :=
  match target with
  | none => st
  | some id => st.modifySlot id fun slot => { slot with nextSlot := next }

def setPreview (st : CapState σ) (target preview : Option SlotId) : CapState σ :=
  match target with
  | none => st
  | some id => st.modifySlot id fun slot => { slot with previewSlot := preview }

/-- `remove_from_dependency_node`: the neighbours are joined, the slot keeps its own links. -/
def removeFromDependencyNode (st : CapState σ) (id : SlotId) : CapState σ :=
  let st := st.setNext (st.slots id).previewSlot (st.slots id).nextSlot
  st.setPreview (st.slots id).nextSlot (st.slots id).previewSlot

def unlinkAndClearSlot (st : CapState σ) (id : SlotId) : CapState σ :=
  (st.removeFromDependencyNode id).setSlot id Slot.init

/-- The walk of `last_alias_in_group`, bounded by the number of slots that exist. -/
def lastAliasLoop (st : CapState σ) (self : Slot) : Nat → SlotId → SlotId
  | 0, last => last
  | steps + 1, last =>
    match (st.slots last).nextSlot with
    | none => last
    | some next =>
      if (st.slots next).depth = self.depth ∧ self.isSameObject (st.slots next) then
        lastAliasLoop st self steps next
      else last

def lastAliasInGroup (st : CapState σ) (id : SlotId) : SlotId :=
  st.lastAliasLoop (st.slots id) st.slotCount id

def hasChild (st : CapState σ) (id : SlotId) : Bool :=
  match (st.slots (st.lastAliasInGroup id)).nextSlot with
  | none => false
  | some next => decide ((st.slots id).depth < (st.slots next).depth)

def isPeer (st : CapState σ) (slot : Slot) (neighbour : Option SlotId) : Bool :=
  match neighbour with
  | none => false
  | some id => slot.depth == (st.slots id).depth && slot.isSameObject (st.slots id)

def hasSibling (st : CapState σ) (id : SlotId) : Bool :=
  st.isPeer (st.slots id) (st.slots id).nextSlot || st.isPeer (st.slots id) (st.slots id).previewSlot

def insert (st : CapState σ) (anchor id : SlotId) : CapState σ :=
  let next := (st.slots anchor).nextSlot
  let st := st.setNext (some anchor) (some id)
  let st := st.modifySlot id
    fun slot => { slot with previewSlot := some anchor, nextSlot := next }
  st.setPreview next (some id)

def insertChild (st : CapState σ) (parent child : SlotId) : CapState σ :=
  let st := st.modifySlot child fun slot => { slot with depth := (st.slots parent).depth + 1 }
  st.insert (st.lastAliasInGroup parent) child

def insertSibling (st : CapState σ) (id sibling : SlotId) : CapState σ :=
  let st := st.modifySlot sibling fun slot => { slot with depth := (st.slots id).depth }
  st.insert id sibling

def removeEmptySlot (st : CapState σ) (id : SlotId) : Outcome KernelError (CapState σ) Unit :=
  if (st.slots id).reclaiming then .error .illegalArgument st
  else .ok () (st.unlinkAndClearSlot id)

/-- `try_move_capability_slot`: the destination takes the source's place in the list. -/
def tryMoveCapabilitySlot (st : CapState σ) (destination source : SlotId) :
    Outcome KernelError (CapState σ) Unit :=
  if (st.slots destination).type ≠ .none then .error .initFirst st
  else
    let st := st.setSlot destination Slot.init
    let from_ := st.slots source
    let st := st.modifySlot destination fun slot => { slot with
      type := from_.type, data := from_.data, component := from_.component
      rights := from_.rights, object := from_.object, depth := from_.depth
      nextSlot := from_.nextSlot, previewSlot := from_.previewSlot }
    let st := st.setNext (st.slots destination).previewSlot (some destination)
    let st := st.setPreview (st.slots destination).nextSlot (some destination)
    .ok () (st.setSlot source Slot.init)

/-- `try_copy_capability_slot`: the copy becomes a peer alias behind its source. -/
def tryCopyCapabilitySlot (st : CapState σ) (destination source : SlotId) :
    Outcome KernelError (CapState σ) Unit :=
  if (st.slots destination).type ≠ .none then .error .initFirst st
  else
    let st := st.setSlot destination Slot.init
    let from_ := st.slots source
    let st := st.modifySlot destination fun slot => { slot with
      type := from_.type, data := from_.data, component := from_.component
      rights := from_.rights, object := from_.object }
    .ok () (st.insertSibling source destination)

end CapState

end A9N.Kernel
