import A9N.Kernel.Capability.Node

/-!
# Generic memory and CONVERT

`generic.cpp`. A Generic owns a power-of-two region of physical memory and hands it out from a
watermark.
-/

namespace A9N.Kernel

open Liba9n

/-- The constructors and finalizers of the objects that live outside the slots. -/
structure ObjectOps (σ : Type) where
  construct : CapabilityType → Word → σ → σ
  /-- Stop the process, take it off every queue and cancel its replies. -/
  quiesceProcess : Word → σ → Outcome CapabilityError σ Unit
  resetContext : Word → σ → σ
  revokeIpcPort : Word → σ → Outcome CapabilityError σ Unit
  /-- Complete every wait on a notification port. -/
  drainNotificationPort : Word → σ → Outcome CapabilityError σ Unit
  resetNotificationPort : Word → σ → σ
  disableInterrupt : Word → σ → Outcome KernelError σ Unit

def sampleOps : ObjectOps Unit where
  construct _ _ st := st
  quiesceProcess _ st := .ok () st
  resetContext _ st := st
  revokeIpcPort _ st := .ok () st
  drainNotificationPort _ st := .ok () st
  resetNotificationPort _ st := st
  disableInterrupt _ st := .ok () st

def validateFrameSizeBits (p : Platform) (sizeBits : Word) : Bool :=
  match p.architecture with
  | .x86_64 => sizeBits == 12 || (sizeBits == 21 && p.support2MiBPage) ||
      (sizeBits == 30 && p.support1GiBPage)
  | .aarch64 => sizeBits == 12 || sizeBits == 21 || sizeBits == 30

def makeAddressSpace (p : Platform) (root : Word) : Bool :=
  match p.architecture with
  | .x86_64 => root != 0
  | .aarch64 => root != 0 && root &&& (Node.pageSize - 1) == 0

inductive MemoryError
  | outOfMemory | invalidAlignment | invalidAddress
deriving DecidableEq, Repr

def convertMemoryErrorToCapabilityError : MemoryError → CapabilityError
  | .outOfMemory => .invalidArgument
  | .invalidAlignment => .fatal
  | .invalidAddress => .fatal

def convertLookupError : CapabilityLookupError → CapabilityError
  | .terminal => .invalidDescriptor
  | .indexOutOfRange => .invalidArgument
  | .unavailable => .illegalOperation
  | .empty => .illegalOperation
  | .unexpected => .fatal

structure GenericInfo where
  baseAddress : Word
  sizeBits : Word
  device : Bool
  watermark : Word
deriving DecidableEq, Repr

def serializeGenericFlags (isDevice : Bool) (sizeBits : Word) : Word :=
  (BitVec.ofBool isDevice).zeroExtend 64 <<< 7 ||| (sizeBits &&& 0x7f)

def genericFlagsIsDevice (flags : Word) : Bool := flags.getLsbD 7

namespace GenericInfo

def size (info : GenericInfo) : Word := shiftLeft 1 info.sizeBits

def init (info : GenericInfo) : GenericInfo := { info with watermark := info.baseAddress }

def isAllocatable (info : GenericInfo) (memorySizeBits count : Word) : Bool :=
  let endAddress := info.baseAddress + info.size
  let requestUnitSize := shiftLeft 1 memorySizeBits
  let alignedWatermark := alignValue info.watermark requestUnitSize
  let targetEndAddress := alignedWatermark + requestUnitSize * count
  decide (targetEndAddress ≤ endAddress)

def applyAllocate (info : GenericInfo) (memorySizeBits : Word) : GenericInfo :=
  let requestUnitSize := shiftLeft 1 memorySizeBits
  let alignedWatermark := alignValue info.watermark requestUnitSize
  { info with watermark := alignedWatermark + requestUnitSize }

def tryApplyAllocate (info : GenericInfo) (memorySizeBits : Word) :
    Except MemoryError (Word × GenericInfo) :=
  let unitSize := shiftLeft 1 memorySizeBits
  let alignedWatermark := alignValue info.watermark unitSize
  let boundaryAddress := alignedWatermark + unitSize
  if boundaryAddress > info.baseAddress + info.size then .error .outOfMemory
  else .ok (alignedWatermark, info.applyAllocate memorySizeBits)

def dumpSlotData (info : GenericInfo) : SlotData where
  first := info.baseAddress
  second := serializeGenericFlags info.device info.sizeBits
  third := info.watermark

end GenericInfo

def createGenericInfo (data : SlotData) : GenericInfo where
  baseAddress := data.first
  sizeBits := genericFlagsSizeBits data.second
  device := genericFlagsIsDevice data.second
  watermark := data.third

theorem genericFlagsSizeBits_serialize (device : Bool) (sizeBits : Word) :
    genericFlagsSizeBits (serializeGenericFlags device sizeBits) = sizeBits &&& 0x7f := by
  have hdevice : (BitVec.ofBool device).zeroExtend 64 <<< 7 &&& (0x7f : Word) = 0 := by
    cases device <;> decide
  rw [genericFlagsSizeBits, serializeGenericFlags, or_and_distrib_right, hdevice, BitVec.and_assoc,
    BitVec.and_self]
  simp

theorem genericFlagsIsDevice_serialize (device : Bool) (sizeBits : Word) :
    genericFlagsIsDevice (serializeGenericFlags device sizeBits) = device := by
  cases device <;> simp [genericFlagsIsDevice, serializeGenericFlags]

theorem genericFlagsSizeBits_toNat (flags : Word) :
    (genericFlagsSizeBits flags).toNat = flags.toNat % 128 := by
  rw [genericFlagsSizeBits, BitVec.toNat_and]
  exact Nat.and_two_pow_sub_one_eq_mod flags.toNat 7

theorem genericFlagsSizeBits_lt (flags : Word) : (genericFlagsSizeBits flags).toNat < 128 := by
  rw [genericFlagsSizeBits_toNat]
  exact Nat.mod_lt _ (by decide)

theorem genericFlagsSizeBits_of_lt {sizeBits : Word} (h : sizeBits.toNat < 128) :
    genericFlagsSizeBits sizeBits = sizeBits := by
  apply BitVec.eq_of_toNat_eq
  rw [genericFlagsSizeBits_toNat, Nat.mod_eq_of_lt h]

theorem createGenericInfo_dumpSlotData {info : GenericInfo} (h : info.sizeBits.toNat < 128) :
    createGenericInfo info.dumpSlotData = info := by
  have hsize : info.sizeBits &&& 0x7f = info.sizeBits := genericFlagsSizeBits_of_lt h
  simp only [createGenericInfo, GenericInfo.dumpSlotData, genericFlagsSizeBits_serialize,
    genericFlagsIsDevice_serialize, hsize]

def nodeTotalSize (radix : Word) : Word :=
  let nodeAlignment := shiftLeft 1 (calculateRadixCeil Node.nodeBytes)
  let slotAlignment := shiftLeft 1 (calculateRadixCeil Node.slotBytes)
  let alignedNodeSize := alignValue Node.nodeBytes nodeAlignment
  alignValue alignedNodeSize slotAlignment + Node.slotBytes * shiftLeft 1 radix

def calculateCapabilityMemorySizeBits (p : Platform) (type : CapabilityType) (specificBits : Word) :
    Option Word :=
  match type with
  | .node =>
    if ¬ Node.isGeometryValid 0 specificBits ∨
        Node.wordBits - calculateRadixCeil Node.slotBytes ≤ specificBits then none
    else some (calculateRadixCeil (nodeTotalSize specificBits))
  | .generic => some specificBits
  | .addressSpace => some (calculateRadix Node.pageSize)
  | .pageTable => some (calculateRadix Node.pageSize)
  | .frame => if validateFrameSizeBits p specificBits then some specificBits else none
  | .processControlBlock => some (calculateRadixCeil p.processControlBlockBytes)
  | .ipcPort => some (calculateRadixCeil p.ipcPortBytes)
  | .notificationPort => some (calculateRadixCeil p.notificationPortBytes)
  | .virtualCpu => some (calculateRadixCeil p.virtualCpuBytes)
  | .none | .debug | .interruptRegion | .interruptPort | .ioPort | .virtualAddressSpace
  | .virtualPageTable => none

/-- `static_cast<capability_type>`: the low byte of the word; other values name no case. -/
def capabilityTypeOfWord (raw : Word) : Option CapabilityType :=
  match (raw.truncate 8).toNat with
  | 0 => some .none
  | 1 => some .debug
  | 2 => some .node
  | 3 => some .generic
  | 4 => some .addressSpace
  | 5 => some .pageTable
  | 6 => some .frame
  | 7 => some .processControlBlock
  | 8 => some .ipcPort
  | 9 => some .notificationPort
  | 10 => some .interruptRegion
  | 11 => some .interruptPort
  | 12 => some .ioPort
  | 13 => some .virtualCpu
  | 14 => some .virtualAddressSpace
  | 15 => some .virtualPageTable
  | _ => none

def objectBytes (p : Platform) (type : CapabilityType) (specificBits : Word) : Nat :=
  match type with
  | .node => 64 + 64 * 2 ^ specificBits.toNat
  | .generic => 2 ^ (genericFlagsSizeBits specificBits).toNat
  | .addressSpace => 4096
  | .pageTable => 4096
  | .frame => 2 ^ specificBits.toNat
  | .processControlBlock => p.processControlBlockBytes.toNat
  | .ipcPort => p.ipcPortBytes.toNat
  | .notificationPort => p.notificationPortBytes.toNat
  | .virtualCpu => p.virtualCpuBytes.toNat
  | .none | .debug | .interruptRegion | .interruptPort | .ioPort | .virtualAddressSpace
  | .virtualPageTable => 0

namespace CapState

variable {σ : Type}

/-- `try_configure_generic_slot`: the slot starts over from `init`, its links included. -/
def tryConfigureGenericSlot (st : CapState σ) (id : SlotId) (info : GenericInfo) (object : Nat) :
    CapState σ :=
  st.setSlot id { component := some .generic, type := .generic, rights := Slot.read ||| Slot.write
                  data := info.dumpSlotData, object := object }

def placeNode (st : CapState σ) (address : Word) (node : NodeObject) : CapState σ :=
  { st with
    nodes := Function.update st.nodes address node
    slotCount := st.slotCount + node.slotTotal.toNat
    slots := fun id => match id with
      | .node owner index =>
        if owner = address ∧ index < node.slotTotal.toNat then Slot.init else st.slots id
      | _ => st.slots id }

def placeProcessControlBlock (st : CapState σ) (address : Word) : CapState σ :=
  { st with
    buffer := Function.update st.buffer address none
    slotCount := st.slotCount + 5
    slots := fun id => match id with
      | .process owner _ => if owner = address then Slot.init else st.slots id
      | _ => st.slots id }

def construct (st : CapState σ) (ops : ObjectOps σ) (type : CapabilityType) (address : Word) :
    CapState σ :=
  { st with objects := ops.construct type address st.objects }

def recordAllocation (st : CapState σ) (p : Platform) (self target : SlotId) (info : GenericInfo)
    (type : CapabilityType) (specificBits base : Word) : CapState σ :=
  let st' := st.modifySlot target fun slot => { slot with object := st.objectCount }
  { st' with
    objectCount := st.objectCount + 1
    allocations :=
      { object := st.objectCount, creator := (st.slots self).object
        genericBase := info.baseAddress, genericSizeBits := info.sizeBits
        watermark := info.watermark, base := base
        size := objectBytes p type specificBits } :: st.allocations }

/-- The code of `try_make_capability` behind the allocation: build the object at `address` and
configure the target slot. `info` is the Generic behind the allocation. -/
def makeObject (st : CapState σ) (p : Platform) (ops : ObjectOps σ) (type : CapabilityType)
    (memorySizeBits specificBits : Word) (info : GenericInfo) (self target : SlotId)
    (address : Word) : Outcome CapabilityError (CapState σ) Unit :=
  match type with
  | .node =>
    match tryMakeCapabilityNode (physicalToVirtualAddress address) specificBits with
    | .error e => .error (convertKernelToCapabilityError e) st
    | .ok node =>
      let st := st.placeNode address node
      if (st.slots target).type ≠ .none then .error .fatal st
      else .ok () (st.setSlot target
        { component := some (.node address), type := .node, rights := Slot.all })
  | .generic =>
    let child : GenericInfo :=
      { baseAddress := address, sizeBits := memorySizeBits, device := info.device
        watermark := address }
    let st := st.tryConfigureGenericSlot self info (st.slots self).object
    .ok () (st.tryConfigureGenericSlot target child 0)
  | .addressSpace =>
    if makeAddressSpace p address then
      .ok () ((st.construct ops type address).modifySlot target fun slot => { slot with
        component := some .addressSpace, type := .addressSpace, rights := Slot.all
        data := { first := address, second := 4 } })
    else .error .fatal st
  | .pageTable =>
    if address = 0 then .error .fatal st
    else .ok () ((st.construct ops type address).setSlot target
      { component := some .pageTable, type := .pageTable, rights := Slot.all
        data := { first := address, second := specificBits &&& 0xff } })
  | .frame =>
    .ok () (st.setSlot target
      { component := some .frame, type := .frame, rights := Slot.all
        data := { first := address, second := if info.device then 0x10000 else 0
                  third := memorySizeBits } })
  | .processControlBlock =>
    .ok () (((st.placeProcessControlBlock address).construct ops type address).setSlot target
      { component := some (.processControlBlock address), type := .processControlBlock
        rights := Slot.all })
  | .ipcPort =>
    .ok () ((st.construct ops type address).setSlot target
      { component := some (.ipcPort address), type := .ipcPort, rights := Slot.all })
  | .notificationPort =>
    let st := { st with bindedProcess := Function.update st.bindedProcess address none }
    .ok () ((st.construct ops type address).setSlot target
      { component := some (.notificationPort address), type := .notificationPort
        rights := Slot.all })
  | .virtualCpu =>
    if (st.slots target).type ≠ .none then .error .fatal st
    else .ok () ((st.construct ops type address).modifySlot target fun slot => { slot with
      component := some (.virtualCpu address), type := .virtualCpu, rights := Slot.all
      data := {} })
  | .none | .debug | .interruptRegion | .interruptPort | .ioPort | .virtualAddressSpace
  | .virtualPageTable => .error .debugUnimplemented st

/-- The cases of `try_make_capability` that return before they allocate. -/
def makeRefusal (type : CapabilityType) (memorySizeBits : Word) : Option CapabilityError :=
  match type with
  | .none => some .illegalOperation
  | .debug | .virtualAddressSpace | .virtualPageTable => some .debugUnimplemented
  | .interruptRegion | .interruptPort | .ioPort => some .invalidArgument
  | .frame => if memorySizeBits = 0 then some .invalidArgument else none
  | .node | .generic | .addressSpace | .pageTable | .processControlBlock | .ipcPort
  | .notificationPort | .virtualCpu => none

def tryMakeCapability (st : CapState σ) (p : Platform) (ops : ObjectOps σ) (type : CapabilityType)
    (memorySizeBits specificBits : Word) (info : GenericInfo) (self target : SlotId) :
    Outcome CapabilityError (CapState σ) GenericInfo :=
  match makeRefusal type memorySizeBits with
  | some e => .error e st
  | none =>
    match info.tryApplyAllocate memorySizeBits with
    | .error e => .error (convertMemoryErrorToCapabilityError e) st
    | .ok (address, info') =>
      (st.makeObject p ops type memorySizeBits specificBits info' self target address).andThen
        fun _ st => .ok info' (st.recordAllocation p self target info type specificBits address)

def convertOne (st : CapState σ) (p : Platform) (ops : ObjectOps σ) (type : CapabilityType)
    (memorySizeBits specificBits : Word) (info : GenericInfo) (self root : SlotId) (index : Word) :
    Outcome CapabilityError (CapState σ) GenericInfo :=
  match (st.slots root).component with
  | none => .error .fatal st
  | some component =>
    match st.retrieveSlot component index with
    | .error e => .error (convertLookupError e) st
    | .ok destination =>
      if (st.slots destination).type ≠ .none then .error .invalidArgument st
      else
        ((st.removeEmptySlot destination).transformError convertKernelToCapabilityError).andThen
          fun _ st =>
            (st.tryMakeCapability p ops type memorySizeBits specificBits info self destination).andThen
              fun info st =>
                let st := st.modifySlot self fun slot => { slot with data := info.dumpSlotData }
                .ok info (st.insertChild self destination)

/-- The loop of CONVERT. Its counter is an `int`, which the comparison with the count extends by its
sign; at `-1` it is no longer below any count, so `2 ^ 32` rounds are enough. -/
def convertLoop (p : Platform) (ops : ObjectOps σ) (type : CapabilityType)
    (memorySizeBits specificBits : Word) (self root : SlotId) (count index : Word) :
    Nat → BitVec 32 → GenericInfo → CapState σ → Outcome CapabilityError (CapState σ) Unit
  | 0, _, _, st => .ok () st
  | rounds + 1, i, info, st =>
    if i.signExtend 64 < count then
      (st.convertOne p ops type memorySizeBits specificBits info self root
        (index + i.signExtend 64)).andThen fun info st =>
          convertLoop p ops type memorySizeBits specificBits self root count index rounds (i + 1) info st
    else .ok () st

end CapState

structure ConvertArguments where
  capabilityType : Word
  specificBits : Word
  count : Word
  rootDescriptor : Word
  slotIndex : Word
deriving DecidableEq, Repr

namespace CapState

variable {σ : Type}

def convertRounds (st : CapState σ) (p : Platform) (ops : ObjectOps σ) (type : CapabilityType)
    (memorySizeBits : Word) (info : GenericInfo) (self root : SlotId) (arguments : ConvertArguments) :
    Outcome CapabilityError (CapState σ) Unit :=
  convertLoop p ops type memorySizeBits arguments.specificBits self root arguments.count
    arguments.slotIndex (min arguments.count.toNat (2 ^ 32)) 0 info st

def convertInto (st : CapState σ) (p : Platform) (ops : ObjectOps σ) (self root : SlotId)
    (arguments : ConvertArguments) : Outcome CapabilityError (CapState σ) Unit :=
  let info := createGenericInfo (st.slots self).data
  if arguments.count = 0 then .error .invalidArgument st
  else
    let type := capabilityTypeOfWord arguments.capabilityType
    if info.device ∧ type ≠ some .frame ∧ type ≠ some .generic then .error .invalidArgument st
    else
      match type with
      | none => .error .invalidArgument st
      | some type =>
        match calculateCapabilityMemorySizeBits p type arguments.specificBits with
        | none => .error .invalidArgument st
        | some memorySizeBits =>
          if ¬ info.isAllocatable memorySizeBits arguments.count then .error .illegalOperation st
          else
            st.convertRounds p ops type memorySizeBits info self root arguments

/-- `generic::convert` on the slot `self`, invoked by the process `owner`. -/
def convert (st : CapState σ) (p : Platform) (ops : ObjectOps σ) (owner : Word) (self : SlotId)
    (arguments : ConvertArguments) : Outcome CapabilityError (CapState σ) Unit :=
  if ¬ (st.slots self).hasRights (Slot.read ||| Slot.write) then .error .permissionDenied st
  else
    match st.lookup owner arguments.rootDescriptor with
    | .error e => .error (convertLookupError e) st
    | .ok root =>
      if (st.slots root).type ≠ .node ∨ (st.slots root).component = none then
        .error .invalidDescriptor st
      else if ¬ (st.slots root).hasRights (Slot.read ||| Slot.write) then
        .error .permissionDenied st
      else st.convertInto p ops self root arguments

end CapState

end A9N.Kernel
