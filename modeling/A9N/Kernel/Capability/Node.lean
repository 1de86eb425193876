import A9N.Liba9n.Calculate
import A9N.Kernel.Capability.Slot

/-!
# Nodes: geometry and lookup

`capability_node.hpp` and the lookup half of `capability_node.cpp`. A descriptor carries its
depth in the top byte and one index per level below it.
-/

namespace A9N.Kernel

open Liba9n

namespace Node

def wordBits : Word := 64
def byteBits : Word := 8
def pageSize : Word := 4096

/-- `sizeof(capability_node)` and `sizeof(capability_slot)`, both asserted by the source. -/
def nodeBytes : Word := 32
def slotBytes : Word := 64

def isGeometryValid (ignored radix : Word) : Bool :=
  decide (ignored < wordBits) && radix != 0 && decide (radix < wordBits) &&
    decide (radix ≤ wordBits - ignored)

end Node

def extractDepth (descriptor : Word) : Word :=
  (descriptor >>> 56 &&& 0xff) + Node.byteBits

namespace NodeObject

def slotTotal (node : NodeObject) : Word := shiftLeft 1 node.radixBits

def calculateCapabilityIndex (node : NodeObject) (descriptor usedBits : Word) : Word :=
  shiftRight descriptor (Node.wordBits - (node.ignoreBits + node.radixBits + usedBits)) &&&
    (node.slotTotal - 1)

def calculateUsedBits (node : NodeObject) (usedBits : Word) : Word :=
  node.ignoreBits + node.radixBits + usedBits

end NodeObject

namespace CapState

variable {σ : Type}

/-- `retrieve_slot`. The index is not compared with the Node's radix. -/
def retrieveSlot (st : CapState σ) (component : Component) (index : Word) :
    Except CapabilityLookupError SlotId :=
  match component with
  | .node address =>
    if (st.nodes address).hasSlots then .ok (.node address index.toNat)
    else .error .unavailable
  | _ => .error .terminal

/-- `traverse_slot`, one level per unit of fuel. A descriptor that never meets its depth keeps
the source descending; the model then reports `unexpected`. -/
def traverseSlot (st : CapState σ) :
    Nat → Component → Word → Word → Word → Except CapabilityLookupError SlotId
  | 0, _, _, _, _ => .error .unexpected
  | fuel + 1, component, descriptor, maxBits, usedBits =>
    match component with
    | .node address =>
      let node := st.nodes address
      match st.retrieveSlot component (node.calculateCapabilityIndex descriptor usedBits) with
      | .error e => .error e
      | .ok slot =>
        let usedBits := node.calculateUsedBits usedBits
        if usedBits = maxBits then .ok slot
        else match (st.slots slot).component with
          | none => .error .empty
          | some next => st.traverseSlot fuel next descriptor maxBits usedBits
    | _ => .error .terminal

/-- Each level consumes at least one of the at most 263 bits a descriptor can ask for. -/
def traverseFuel : Nat := 264

/-- Look a descriptor up in the capability space of `owner`, a process control block. -/
def lookup (st : CapState σ) (owner descriptor : Word) : Except CapabilityLookupError SlotId :=
  match (st.slots (.process owner .rootSlot)).component with
  | none => .error .unexpected
  | some root => st.traverseSlot traverseFuel root descriptor (extractDepth descriptor) Node.byteBits

/-- `try_get_slot_from_node_and_index`. The source calls the component of the slot it has found
even where that slot is empty; the model reports this as a failed lookup. -/
def tryGetSlotFromNodeAndIndex (st : CapState σ) (owner descriptor index : Word) :
    Except KernelError SlotId :=
  if (st.slots (.process owner .rootSlot)).type ≠ .node ∨
      (st.slots (.process owner .rootSlot)).component = none then .error .illegalArgument
  else
    match st.lookup owner descriptor with
    | .error _ => .error .illegalArgument
    | .ok node =>
      match (st.slots node).component with
      | none => .error .illegalArgument
      | some component =>
        match st.retrieveSlot component index with
        | .error _ => .error .illegalArgument
        | .ok slot => .ok slot

end CapState

def physicalToVirtualAddress (address : Word) : Word := address ||| 0xffff800000000000

def tryMakeCapabilityNode (base radix : Word) : Except KernelError NodeObject :=
  if base = 0 ∨ ¬ Node.isGeometryValid 0 radix then .error .illegalArgument
  else if base % shiftLeft 1 (calculateRadixCeil Node.nodeBytes) ≠ 0 then .error .illegalArgument
  else if Node.wordBits - calculateRadixCeil Node.slotBytes ≤ radix then .error .illegalArgument
  else .ok { ignoreBits := 0, radixBits := radix, hasSlots := true }

end A9N.Kernel
