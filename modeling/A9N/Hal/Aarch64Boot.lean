import A9N.Framework.Ranges
import A9N.Kernel.Types

/-!
# The AArch64 boot protocol

`boot_protocol.cpp` as far as the memory map goes. The boot loader leaves a flattened device tree
in memory.
-/

namespace A9N.Hal.Aarch64Boot

open A9N.Kernel (MemoryMapType)

abbrev PhysicalMemory := Nat → BitVec 8

abbrev PhysicalRange := Range Nat

def pageSize : Nat := 4096
def directMapEnd : Nat := 16 * 1024 * 1024 * 1024
def rangeCapacity : Nat := 32
def memoryMapCapacity : Nat := 64

def alignDown (value : Nat) : Nat := value / pageSize * pageSize

def alignUp (value : Nat) : Nat := alignDown ((value + pageSize - 1) % 2 ^ 64)

/-! ## Tables -/

def addRange (ranges : List PhysicalRange) (start stop : Nat) : List PhysicalRange :=
  if alignUp stop ≤ alignDown start ∨ rangeCapacity ≤ ranges.length then ranges
  else ranges ++ [⟨alignDown start, alignUp stop⟩]

def sortAndMergeRanges (ranges : List PhysicalRange) : List PhysicalRange :=
  Range.merge (exchangeSort Range.start ranges)

def addDeclaredRange (ranges : List PhysicalRange) (start size : Nat) : List PhysicalRange :=
  if start < directMapEnd ∧ size ≠ 0 ∧ size ≤ directMapEnd - start then
    addRange ranges start (start + size)
  else ranges

def addDeclaredRanges (ranges : List PhysicalRange) (entries : List (Nat × Nat)) :
    List PhysicalRange :=
  entries.foldl (fun ranges entry => addDeclaredRange ranges entry.1 entry.2) ranges

/-! ## The device tree -/

section Fdt

variable (memory : PhysicalMemory)

def readBigU32 (address : Nat) : Nat :=
  (memory address).toNat * 2 ^ 24 + (memory (address + 1)).toNat * 2 ^ 16 +
    (memory (address + 2)).toNat * 2 ^ 8 + (memory (address + 3)).toNat

def readBigU64 (address : Nat) : Nat :=
  readBigU32 memory address * 2 ^ 32 + readBigU32 memory (address + 4)

def readCells (data cellCount : Nat) : Nat :=
  match cellCount with
  | 1 => readBigU32 memory data
  | 2 => readBigU64 memory data
  | _ => 0

/-- The loop of `parse_reg_property`, whose offset has 32 bits. -/
def parseRegTuples (data length addressCells sizeCells : Nat) :
    Nat → Nat → List PhysicalRange → Option (List PhysicalRange)
  | 0, _, _ => none
  | fuel + 1, offset, ranges =>
    let tupleSize := (addressCells + sizeCells) * 4
    if (offset + tupleSize) % 2 ^ 32 ≤ length then
      parseRegTuples data length addressCells sizeCells fuel ((offset + tupleSize) % 2 ^ 32)
        (addDeclaredRange ranges (readCells memory (data + offset) addressCells)
          (readCells memory (data + offset + addressCells * 4) sizeCells))
    else some ranges

def parseRegProperty (data length addressCells sizeCells : Nat) (ranges : List PhysicalRange) :
    Option (List PhysicalRange) :=
  if (addressCells + sizeCells) % 2 ^ 32 = 0 ∨ 2 < addressCells ∨ 2 < sizeCells then some ranges
  else parseRegTuples memory data length addressCells sizeCells (length + 1) 0 ranges

def boundedStringEquals (table tableSize : Nat) : Nat → List Char → Bool
  | index, [] => index < tableSize && memory (table + index) == 0
  | index, char :: chars =>
    index < tableSize && (memory (table + index)).toNat == char.toNat &&
      boundedStringEquals table tableSize (index + 1) chars

/-- `node_name_is`; the name ends before its terminating zero. -/
def nodeNameIs : List (BitVec 8) → List Char → Bool
  | node, [] => node.head?.all (·.toNat == '@'.toNat)
  | [], _ :: _ => false
  | byte :: node, char :: name => byte.toNat == char.toNat && nodeNameIs node name

/-! ### Tokens -/

/-- What one round of the loop of `parse_fdt` reads. A property is given by the offset of its name in
the table of strings and by the place and length of its data. -/
inductive Token
  | beginNode (name : List (BitVec 8))
  | endNode
  | nop
  | property (nameOffset data length : Nat)
deriving DecidableEq, Repr

def takeName : Nat → Nat → List (BitVec 8)
  | 0, _ => []
  | remaining + 1, cursor =>
    if memory cursor = 0 then [] else memory cursor :: takeName remaining (cursor + 1)

def alignCursor (cursor : Nat) : Nat := (cursor + 3) / 4 * 4

def nextToken (structureEnd stringsSize cursor : Nat) : Except Bool (Token × Nat) :=
  if structureEnd < cursor + 4 then .error true
  else
    let token := readBigU32 memory cursor
    let cursor := cursor + 4
    if token = 1 then
      let name := takeName memory (structureEnd - cursor) cursor
      if structureEnd ≤ cursor + name.length then .error false
      else .ok (.beginNode name, alignCursor (cursor + name.length + 1))
    else if token = 2 then .ok (.endNode, cursor)
    else if token = 4 then .ok (.nop, cursor)
    else if token = 9 then .error true
    else if token ≠ 3 ∨ structureEnd < cursor + 8 then .error false
    else
      let length := readBigU32 memory cursor
      let nameOffset := readBigU32 memory (cursor + 4)
      let data := cursor + 8
      if structureEnd - data < length ∨ stringsSize ≤ nameOffset then .error false
      else .ok (.property nameOffset data length, alignCursor (data + length))

def tokens (structureEnd stringsSize : Nat) : Nat → Nat → List Token × Option Bool
  | 0, _ => ([], none)
  | fuel + 1, cursor =>
    match nextToken memory structureEnd stringsSize cursor with
    | .error accepted => ([], some accepted)
    | .ok (token, next) =>
      let (rest, accepted) := tokens structureEnd stringsSize fuel next
      (token :: rest, accepted)

/-! ### The walk -/

inductive RootNodeKind
  | none | memory | chosen | reservedMemory
deriving DecidableEq, Repr

structure Walk where
  depth : Int := -1
  rootKind : RootNodeKind := .none
  addressCells : Nat := 2
  sizeCells : Nat := 1
  nodeAddressCells : Nat := 2
  nodeSizeCells : Nat := 1
deriving DecidableEq, Repr

structure Strings where
  table : Nat
  size : Nat

def Strings.named (strings : Strings) (nameOffset : Nat) (name : String) : Bool :=
  boundedStringEquals memory strings.table strings.size nameOffset name.toList

def kindOfName (name : List (BitVec 8)) : RootNodeKind :=
  if nodeNameIs name "memory".toList then .memory
  else if nodeNameIs name "chosen".toList then .chosen
  else if nodeNameIs name "reserved-memory".toList then .reservedMemory
  else .none

def Walk.next (strings : Strings) (walk : Walk) : Token → Walk
  | .beginNode name =>
    if walk.depth + 1 = 1 then
      { walk with depth := 1, rootKind := kindOfName name, nodeAddressCells := 2
                  nodeSizeCells := 1 }
    else { walk with depth := walk.depth + 1 }
  | .endNode =>
    if walk.depth = 1 then { walk with depth := 0, rootKind := .none }
    else { walk with depth := walk.depth - 1 }
  | .nop => walk
  | .property nameOffset data length =>
    if walk.depth = 0 ∧ length = 4 ∧ strings.named memory nameOffset "#address-cells" then
      { walk with addressCells := readBigU32 memory data }
    else if walk.depth = 0 ∧ length = 4 ∧ strings.named memory nameOffset "#size-cells" then
      { walk with sizeCells := readBigU32 memory data }
    else if walk.depth = 1 ∧ length = 4 ∧ strings.named memory nameOffset "#address-cells" then
      { walk with nodeAddressCells := readBigU32 memory data }
    else if walk.depth = 1 ∧ length = 4 ∧ strings.named memory nameOffset "#size-cells" then
      { walk with nodeSizeCells := readBigU32 memory data }
    else walk

def walkSteps (strings : Strings) : Walk → List Token → List (Walk × Token)
  | _, [] => []
  | walk, token :: rest => (walk, token) :: walkSteps strings (walk.next memory strings token) rest

/-! ### What the parser gathers -/

structure BootTables where
  ramRanges : List PhysicalRange := []
  reservedRanges : List PhysicalRange := []
  initrdStart : Nat := 0
  initrdEnd : Nat := 0
deriving DecidableEq, Repr

def Walk.IsReservedReg (strings : Strings) (walk : Walk) : Token → Bool
  | .property nameOffset _ _ =>
    walk.depth == 2 && walk.rootKind == .reservedMemory && strings.named memory nameOffset "reg"
  | _ => false

def gather (strings : Strings) (tables : BootTables) (step : Walk × Token) : Option BootTables :=
  let walk := step.1
  match step.2 with
  | .property nameOffset data length =>
    if walk.depth = 1 ∧ walk.rootKind = .memory ∧ strings.named memory nameOffset "reg" then
      (parseRegProperty memory data length walk.addressCells walk.sizeCells
        tables.ramRanges).map fun ranges => { tables with ramRanges := ranges }
    else if walk.IsReservedReg memory strings (.property nameOffset data length) then
      (parseRegProperty memory data length walk.addressCells walk.sizeCells
        tables.reservedRanges).map fun ranges => { tables with reservedRanges := ranges }
    else if walk.depth = 1 ∧ walk.rootKind = .chosen ∧
        strings.named memory nameOffset "linux,initrd-start" then
      some { tables with initrdStart := readCells memory data (length / 4) }
    else if walk.depth = 1 ∧ walk.rootKind = .chosen ∧
        strings.named memory nameOffset "linux,initrd-end" then
      some { tables with initrdEnd := readCells memory data (length / 4) }
    else some tables
  | .beginNode _ | .endNode | .nop => some tables

def gatherAll (strings : Strings) : List (Walk × Token) → BootTables → Option BootTables
  | [], tables => some tables
  | step :: rest, tables => (gather memory strings tables step).bind (gatherAll strings rest)

/-! ### The whole tree -/

structure Header where
  totalSize : Nat
  structureOffset : Nat
  stringsOffset : Nat
  reserveMapOffset : Nat
  stringsSize : Nat
  structureSize : Nat

def readHeader (fdt : Nat) : Header where
  totalSize := readBigU32 memory (fdt + 4)
  structureOffset := readBigU32 memory (fdt + 8)
  stringsOffset := readBigU32 memory (fdt + 12)
  reserveMapOffset := readBigU32 memory (fdt + 16)
  stringsSize := readBigU32 memory (fdt + 32)
  structureSize := readBigU32 memory (fdt + 36)

def validSpan (offset size total : Nat) : Bool := offset ≤ total && size ≤ total - offset

def Header.valid (header : Header) (fdt : Nat) : Bool :=
  !(header.totalSize < 40 || directMapEnd - header.totalSize < fdt ||
    !validSpan header.structureOffset header.structureSize header.totalSize ||
    !validSpan header.stringsOffset header.stringsSize header.totalSize ||
    header.totalSize ≤ header.reserveMapOffset)

def reserveMap (fdt totalSize : Nat) : Nat → Nat → List (Nat × Nat)
  | 0, _ => []
  | fuel + 1, offset =>
    if validSpan offset 16 totalSize then
      let start := readBigU64 memory (fdt + offset)
      let size := readBigU64 memory (fdt + offset + 8)
      if start = 0 ∧ size = 0 then [] else (start, size) :: reserveMap fdt totalSize fuel (offset + 16)
    else []

def reservations (fdt : Nat) : List (Nat × Nat) :=
  reserveMap memory fdt (readHeader memory fdt).totalSize ((readHeader memory fdt).totalSize + 1)
    (readHeader memory fdt).reserveMapOffset

def stringsOf (fdt : Nat) : Strings where
  table := fdt + (readHeader memory fdt).stringsOffset
  size := (readHeader memory fdt).stringsSize

def treeTokens (fdt : Nat) : List Token × Option Bool :=
  let header := readHeader memory fdt
  let start := fdt + header.structureOffset
  tokens memory (start + header.structureSize) header.stringsSize (header.structureSize + 1) start

def treeSteps (fdt : Nat) : List (Walk × Token) :=
  walkSteps memory (stringsOf memory fdt) {} (treeTokens memory fdt).1

structure FdtResult where
  accepted : Bool
  tables : BootTables := {}
  dtbSize : Nat := 0
deriving DecidableEq, Repr

/-- `parse_fdt`. What has been gathered stays also where the tree is rejected later on. -/
def parseFdt (dtbAddress : Nat) : Option FdtResult :=
  if dtbAddress = 0 ∨ directMapEnd ≤ dtbAddress then some { accepted := false }
  else if readBigU32 memory dtbAddress ≠ 0xd00dfeed then some { accepted := false }
  else if ¬ (readHeader memory dtbAddress).valid dtbAddress then some { accepted := false }
  else
    let reserved := addDeclaredRanges [] (reservations memory dtbAddress)
    (treeTokens memory dtbAddress).2.bind fun accepted =>
      (gatherAll memory (stringsOf memory dtbAddress) (treeSteps memory dtbAddress)
        { reservedRanges := reserved }).map fun tables =>
          { accepted := accepted, tables := tables
            dtbSize := (readHeader memory dtbAddress).totalSize }

end Fdt

/-! ## The memory map -/

structure MemoryMapEntry where
  startPhysicalAddress : Nat
  pageCount : Nat
  type : MemoryMapType
deriving DecidableEq, Repr

def MemoryMapEntry.range (entry : MemoryMapEntry) : PhysicalRange :=
  ⟨entry.startPhysicalAddress, entry.startPhysicalAddress + entry.pageCount * pageSize⟩

def addMemoryMapEntry (map : List MemoryMapEntry) (start stop : Nat) (type : MemoryMapType) :
    List MemoryMapEntry :=
  let start := alignUp start
  let stop := alignDown stop
  if stop ≤ start ∨ memoryMapCapacity ≤ map.length then map
  else
    let entry : MemoryMapEntry := ⟨start, (stop - start) / pageSize, type⟩
    match map.getLast? with
    | none => map ++ [entry]
    | some previous =>
      if previous.type = type ∧ previous.range.stop = start then
        map.dropLast ++
          [{ previous with pageCount := previous.pageCount + (stop - start) / pageSize }]
      else map ++ [entry]

/-- The inner loop of `construct_memory_map`: the memory in front of the next reserved range is free.
The value is `cursor` at the end. -/
def sweepReserved (ram : PhysicalRange) :
    List PhysicalRange → Nat → List MemoryMapEntry → Nat × List MemoryMapEntry
  | [], cursor, map => (cursor, map)
  | reserved :: rest, cursor, map =>
    if reserved.stop ≤ ram.start ∨ ram.stop ≤ reserved.start then
      sweepReserved ram rest cursor map
    else
      let start := if reserved.start < ram.start then ram.start else reserved.start
      let stop := if ram.stop < reserved.stop then ram.stop else reserved.stop
      let map := if cursor < start then addMemoryMapEntry map cursor start .free else map
      if cursor < stop then
        sweepReserved ram rest stop
          (addMemoryMapEntry map (if start < cursor then cursor else start) stop .reserved)
      else sweepReserved ram rest cursor map

def sweepRam (reservedRanges : List PhysicalRange) :
    List PhysicalRange → Nat → List MemoryMapEntry → List MemoryMapEntry
  | [], _, map => map
  | ram :: rest, previousRamEnd, map =>
    let map := if previousRamEnd < ram.start then
      addMemoryMapEntry map previousRamEnd ram.start .device else map
    let (cursor, map) := sweepReserved ram reservedRanges ram.start map
    let map := if cursor < ram.stop then addMemoryMapEntry map cursor ram.stop .free else map
    sweepRam reservedRanges rest ram.stop map

def defaultRam (ramRanges : List PhysicalRange) : List PhysicalRange :=
  if ramRanges.length = 0 then addRange ramRanges 0x40000000 0x80000000 else ramRanges

def constructMemoryMap (ramRanges reservedRanges : List PhysicalRange) : List MemoryMapEntry :=
  sweepRam (sortAndMergeRanges reservedRanges) (sortAndMergeRanges (defaultRam ramRanges)) 0 []

/-- The sum that the loop gathers in `memory_size`. -/
def memorySize (ramRanges : List PhysicalRange) : Nat :=
  (sortAndMergeRanges (defaultRam ramRanges)).foldl
    (fun size ram => (size + (ram.stop - ram.start)) % 2 ^ 64) 0

structure KernelImage extends PhysicalRange where
  nonempty : start < stop
  mapped : stop ≤ directMapEnd

/-- The reserved ranges behind `parse_fdt`. -/
def reserveAll (kernel : KernelImage) (dtbAddress : Nat) (parsed : FdtResult) : List PhysicalRange :=
  let ranges := addRange parsed.tables.reservedRanges kernel.start kernel.stop
  let ranges := if parsed.accepted then
    addRange ranges dtbAddress (dtbAddress + parsed.dtbSize) else ranges
  if parsed.tables.initrdStart ≠ 0 ∧ parsed.tables.initrdStart < parsed.tables.initrdEnd then
    addRange ranges parsed.tables.initrdStart parsed.tables.initrdEnd
  else ranges

def prepareBootProtocol (memory : PhysicalMemory) (kernel : KernelImage) (dtbAddress : Nat) :
    Option (List MemoryMapEntry) :=
  (parseFdt memory dtbAddress).map fun parsed =>
    constructMemoryMap parsed.tables.ramRanges (reserveAll kernel dtbAddress parsed)

end A9N.Hal.Aarch64Boot
