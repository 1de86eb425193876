import A9N.Framework.Bytes
import A9N.Hal.BootReservations
import A9N.Kernel.Process.Process
import Mathlib.Logic.Relation

/-!
# Reading the device tree

Both parsers of the device tree, `parse_fdt` of `boot_protocol.cpp` and `discover_cpu_topology` of
`cpu_topology.cpp`, run over the tokens of its structure block. Here they read it through a window, from
the address of the tree on and as long as its header says.
-/

namespace A9N.Hal.Aarch64Boot.DeviceTree

open A9N.Kernel (HalError cpuCountMax)

variable {cursor next data length node rounds offset : Nat} {token : Token} {P : Nat → Prop}
  {strings : Strings} {ranges : List PhysicalRange}

/-! ## Fields and names -/

section Fields

variable (window : Window)

def readCells (data cellCount : Nat) : Checked Nat :=
  match cellCount with
  | 1 => window.big 4 data
  | 2 => do
    let high ← window.big 4 data
    let low ← window.big 4 (data + 4)
    return high * 2 ^ 32 + low
  | _ => return 0

def nodeNameIs : Nat → List Char → Checked Bool
  | node, [] => do
    let byte ← window.byte node
    return byte == 0 || byte.toNat == '@'.toNat
  | node, char :: name => do
    let byte ← window.byte node
    if byte.toNat = char.toNat then nodeNameIs (node + 1) name else return false

def propertyStringEquals (data length : Nat) : Nat → List Char → Checked Bool
  | index, [] =>
    if index = length then return true
    else do
      let byte ← window.byte (data + index)
      return byte == 0
  | index, char :: name =>
    if length ≤ index then return false
    else do
      let byte ← window.byte (data + index)
      if byte.toNat = char.toNat then propertyStringEquals data length (index + 1) name
      else return false

def guarded (test : Bool) (comparison : Checked Bool) : Checked Bool :=
  if test then comparison else return false

def named (strings : Strings) (nameOffset : Nat) (name : String) : Checked Bool :=
  window.boundedStringEquals strings.table strings.size nameOffset name.toList

/-! ## Tokens -/

def takeName : Nat → Nat → Checked (List (BitVec 8))
  | 0, _ => return []
  | remaining + 1, cursor => do
    let byte ← window.byte cursor
    if byte = 0 then return []
    else
      let name ← takeName remaining (cursor + 1)
      return byte :: name

def nextToken (structureEnd stringsSize cursor : Nat) : Checked (Except Bool (Token × Nat)) :=
  if structureEnd < cursor + 4 then return .error true
  else do
    let token ← window.big 4 cursor
    let cursor := cursor + 4
    if token = 1 then
      let name ← takeName window (structureEnd - cursor) cursor
      if structureEnd ≤ cursor + name.length then return .error false
      else return .ok (.beginNode name, alignCursor (cursor + name.length + 1))
    else if token = 2 then return .ok (.endNode, cursor)
    else if token = 4 then return .ok (.nop, cursor)
    else if token = 9 then return .error true
    else if token ≠ 3 ∨ structureEnd < cursor + 8 then return .error false
    else
      let length ← window.big 4 cursor
      let nameOffset ← window.big 4 (cursor + 4)
      let data := cursor + 8
      if structureEnd - data < length ∨ stringsSize ≤ nameOffset then return .error false
      else return .ok (.property nameOffset data length, alignCursor (data + length))

def tokenLoop {σ : Type} (structureEnd stringsSize : Nat) (visit : Nat → Token → σ → Checked σ) :
    Nat → Nat → σ → Checked (σ × Bool)
  | 0, cursor, state => if structureEnd < cursor + 4 then return (state, true) else .error .unfinished
  | rounds + 1, cursor, state => do
    match ← nextToken window structureEnd stringsSize cursor with
    | .error accepted => return (state, accepted)
    | .ok (token, next) =>
      let state ← visit (cursor + 4) token state
      tokenLoop structureEnd stringsSize visit rounds next state

end Fields

/-! ## `parse_fdt` -/

section ParseFdt

def addRange (ranges : List PhysicalRange) (start stop : Nat) : Checked (List PhysicalRange) :=
  if alignUp stop ≤ alignDown start ∨ rangeCapacity ≤ ranges.length then return ranges
  else store rangeCapacity ranges ⟨alignDown start, alignUp stop⟩

def addDeclaredRange (ranges : List PhysicalRange) (start size : Nat) :
    Checked (List PhysicalRange) :=
  if start < directMapEnd ∧ size ≠ 0 ∧ size ≤ directMapEnd - start then
    addRange ranges start (start + size)
  else return ranges

variable (window : Window)

def parseRegTuples (data length addressCells sizeCells : Nat) :
    Nat → Nat → List PhysicalRange → Checked (List PhysicalRange)
  | 0, offset, ranges =>
    if (offset + (addressCells + sizeCells) * 4) % 2 ^ 32 ≤ length then .error .unfinished
    else return ranges
  | rounds + 1, offset, ranges =>
    let tupleSize := (addressCells + sizeCells) * 4
    if (offset + tupleSize) % 2 ^ 32 ≤ length then do
      let start ← readCells window (data + offset) addressCells
      let size ← readCells window (data + offset + addressCells * 4) sizeCells
      let ranges ← addDeclaredRange ranges start size
      parseRegTuples data length addressCells sizeCells rounds ((offset + tupleSize) % 2 ^ 32) ranges
    else return ranges

def parseRegProperty (data length addressCells sizeCells : Nat) (ranges : List PhysicalRange) :
    Checked (List PhysicalRange) :=
  if (addressCells + sizeCells) % 2 ^ 32 = 0 ∨ 2 < addressCells ∨ 2 < sizeCells then return ranges
  else parseRegTuples window data length addressCells sizeCells length 0 ranges

def kindOfName (node : Nat) : Checked RootNodeKind := do
  if ← nodeNameIs window node "memory".toList then return .memory
  else if ← nodeNameIs window node "chosen".toList then return .chosen
  else if ← nodeNameIs window node "reserved-memory".toList then return .reservedMemory
  else return .none

def visitProperty (strings : Strings) (nameOffset data length : Nat) (walk : Walk)
    (tables : BootTables) : Checked (Walk × BootTables) := do
  let is (test : Bool) (name : String) : Checked Bool :=
    guarded test (named window strings nameOffset name)
  if ← is (walk.depth == 0 && length == 4) "#address-cells" then
    let cells ← window.big 4 data
    return ({ walk with addressCells := cells }, tables)
  else if ← is (walk.depth == 0 && length == 4) "#size-cells" then
    let cells ← window.big 4 data
    return ({ walk with sizeCells := cells }, tables)
  else if ← is (walk.depth == 1 && walk.rootKind == .memory) "reg" then
    let ranges ← parseRegProperty window data length walk.addressCells walk.sizeCells tables.ramRanges
    return (walk, { tables with ramRanges := ranges })
  else if ← is (walk.depth == 2 && walk.rootKind == .reservedMemory) "reg" then
    let ranges ←
      parseRegProperty window data length walk.addressCells walk.sizeCells tables.reservedRanges
    return (walk, { tables with reservedRanges := ranges })
  else if ← is (walk.depth == 1 && walk.rootKind == .chosen) "linux,initrd-start" then
    let start ← readCells window data (length / 4)
    return (walk, { tables with initrdStart := start })
  else if ← is (walk.depth == 1 && walk.rootKind == .chosen) "linux,initrd-end" then
    let stop ← readCells window data (length / 4)
    return (walk, { tables with initrdEnd := stop })
  else return (walk, tables)

def visitBoot (strings : Strings) (node : Nat) (token : Token) (state : Walk × BootTables) :
    Checked (Walk × BootTables) :=
  let (walk, tables) := state
  match token with
  | .beginNode _ =>
    if walk.depth + 1 = 1 then do
      let kind ← kindOfName window node
      return ({ walk with depth := 1, rootKind := kind }, tables)
    else return ({ walk with depth := walk.depth + 1 }, tables)
  | .endNode =>
    return ({ walk with depth := walk.depth - 1
                        rootKind := if walk.depth = 1 then .none else walk.rootKind }, tables)
  | .nop => return state
  | .property nameOffset data length =>
    visitProperty window strings nameOffset data length walk tables

def reserveLoop (fdt totalSize : Nat) :
    Nat → Nat → List PhysicalRange → Checked (List PhysicalRange)
  | 0, offset, ranges =>
    if validSpan offset 16 totalSize then .error .unfinished else return ranges
  | rounds + 1, offset, ranges =>
    if validSpan offset 16 totalSize then do
      let start ← readCells window (fdt + offset) 2
      let size ← readCells window (fdt + offset + 8) 2
      if start = 0 ∧ size = 0 then return ranges
      else
        let ranges ← addDeclaredRange ranges start size
        reserveLoop fdt totalSize rounds ((offset + 16) % 2 ^ 32) ranges
    else return ranges

def readHeader (fdt : Nat) : Checked Header := do
  let totalSize ← window.big 4 (fdt + 4)
  let structureOffset ← window.big 4 (fdt + 8)
  let stringsOffset ← window.big 4 (fdt + 12)
  let stringsSize ← window.big 4 (fdt + 32)
  let structureSize ← window.big 4 (fdt + 36)
  return ⟨totalSize, structureOffset, stringsOffset, 0, stringsSize, structureSize⟩

def treeLoop {σ : Type} (fdt : Nat) (header : Header)
    (visit : Strings → Nat → Token → σ → Checked σ) (state : σ) : Checked (σ × Bool) :=
  let start := fdt + header.structureOffset
  tokenLoop window (start + header.structureSize) header.stringsSize
    (visit ⟨fdt + header.stringsOffset, header.stringsSize⟩) (header.totalSize / 4) start state

/-- `parse_fdt` behind the magic number. -/
def parseTree (dtbAddress : Nat) (header : Header) : Checked FdtResult :=
  if ¬ header.valid dtbAddress then return { accepted := false }
  else do
    let reserved ←
      reserveLoop window dtbAddress header.totalSize header.totalSize header.reserveMapOffset []
    let (state, accepted) ←
      treeLoop window dtbAddress header (visitBoot window) ({}, { reservedRanges := reserved })
    return { accepted := accepted, tables := state.2, dtbSize := header.totalSize }

def parseFdt (dtbAddress : Nat) : Checked FdtResult :=
  if dtbAddress = 0 ∨ directMapEnd ≤ dtbAddress then return { accepted := false }
  else do
    let magic ← window.big 4 dtbAddress
    if magic ≠ 0xd00dfeed then return { accepted := false }
    else
      let header ← readHeader window dtbAddress
      let reserveMapOffset ← window.big 4 (dtbAddress + 16)
      parseTree window dtbAddress { header with reserveMapOffset := reserveMapOffset }

end ParseFdt

/-! ## `discover_cpu_topology` -/

inductive CpuEnableMethod
  | none | psci | spinTable
deriving DecidableEq, Repr

inductive PsciConduit
  | none | hvc | smc
deriving DecidableEq, Repr

structure CpuDescription where
  mpidr : Nat := 0
  releaseAddress : Nat := 0
  enableMethod : CpuEnableMethod := .none
deriving DecidableEq, Repr

structure PendingCpu where
  description : CpuDescription := {}
  isCpu : Bool := false
  hasMpidr : Bool := false
  enabled : Bool := true
deriving DecidableEq, Repr

structure Discovery where
  depth : Int := -1
  inCpus : Bool := false
  inPsci : Bool := false
  cpuAddressCells : Nat := 1
  currentCpu : PendingCpu := {}
  cpuDescriptions : List CpuDescription := []
  discoveredPsciConduit : PsciConduit := .none
deriving DecidableEq, Repr

def appendCpu (cpu : PendingCpu) (cpus : List CpuDescription) : Checked (List CpuDescription) :=
  if !cpu.isCpu || !cpu.hasMpidr || !cpu.enabled || cpuCountMax ≤ cpus.length then return cpus
  else store cpuCountMax cpus cpu.description

def affinity (mpidr : Nat) : Nat := mpidr &&& 0xff00ffffff

def moveBootCpuFirst (mpidr : Nat) (cpus : List CpuDescription) :
    Checked (Option (List CpuDescription)) := do
  let visit (index : Nat) (_ : Unit) : Checked (Except (List CpuDescription) Unit) := do
    let cpu ← fetch cpus index
    if affinity cpu.mpidr ≠ affinity mpidr then return .ok ()
    else
      let first ← fetch cpus 0
      return .error ((cpus.set 0 cpu).set index first)
  match ← scan visit (List.range cpus.length) () with
  | .error cpus => return some cpus
  | .ok () => return none

section Discover

variable (window : Window)

def psciMethod (data length : Nat) (conduit : PsciConduit) : Checked PsciConduit := do
  if ← propertyStringEquals window data length 0 "hvc".toList then return .hvc
  else if ← propertyStringEquals window data length 0 "smc".toList then return .smc
  else return conduit

def enableMethod (data length : Nat) (method : CpuEnableMethod) : Checked CpuEnableMethod := do
  if ← propertyStringEquals window data length 0 "psci".toList then return .psci
  else if ← propertyStringEquals window data length 0 "spin-table".toList then return .spinTable
  else return method

def visitCpuProperty (is : String → Checked Bool) (data length cpuAddressCells : Nat)
    (cpu : PendingCpu) : Checked PendingCpu := do
  if ← is "device_type" then
    let isCpu ← propertyStringEquals window data length 0 "cpu".toList
    return { cpu with isCpu := isCpu }
  else if ← is "status" then
    if ← propertyStringEquals window data length 0 "okay".toList then
      return { cpu with enabled := true }
    else
      let enabled ← propertyStringEquals window data length 0 "ok".toList
      return { cpu with enabled := enabled }
  else if ← is "reg" then
    if 1 ≤ cpuAddressCells ∧ cpuAddressCells ≤ 2 ∧ cpuAddressCells * 4 ≤ length then
      let mpidr ← readCells window data cpuAddressCells
      return { cpu with description.mpidr := mpidr, hasMpidr := true }
    else return cpu
  else if ← is "enable-method" then
    let method ← enableMethod window data length cpu.description.enableMethod
    return { cpu with description.enableMethod := method }
  else if ← is "cpu-release-addr" then
    if 1 ≤ length / 4 ∧ length / 4 ≤ 2 then
      let address ← readCells window data (length / 4)
      return { cpu with description.releaseAddress := address }
    else return cpu
  else return cpu

def visitTopologyProperty (strings : Strings) (nameOffset data length : Nat) (state : Discovery) :
    Checked Discovery := do
  let is (test : Bool) (name : String) : Checked Bool :=
    guarded test (named window strings nameOffset name)
  if ← is (state.depth == 1 && state.inCpus && length == 4) "#address-cells" then
    let cells ← window.big 4 data
    return { state with cpuAddressCells := cells }
  else if ← is (state.depth == 1 && state.inPsci) "method" then
    let conduit ← psciMethod window data length state.discoveredPsciConduit
    return { state with discoveredPsciConduit := conduit }
  else
    let cpu ← visitCpuProperty window (is (state.depth == 2 && state.inCpus)) data length
      state.cpuAddressCells state.currentCpu
    return { state with currentCpu := cpu }

def visitTopology (strings : Strings) (node : Nat) (token : Token) (state : Discovery) :
    Checked Discovery :=
  match token with
  | .beginNode _ =>
    if state.depth + 1 = 1 then do
      let inCpus ← nodeNameIs window node "cpus".toList
      let inPsci ← nodeNameIs window node "psci".toList
      return { state with depth := 1, inCpus := inCpus, inPsci := inPsci }
    else if state.depth + 1 = 2 ∧ state.inCpus then do
      let isCpu ← nodeNameIs window node "cpu".toList
      return { state with depth := 2, currentCpu := { isCpu := isCpu } }
    else return { state with depth := state.depth + 1 }
  | .endNode =>
    if state.depth = 2 ∧ state.inCpus then do
      let cpus ← appendCpu state.currentCpu state.cpuDescriptions
      return { state with depth := 1, currentCpu := {}, cpuDescriptions := cpus }
    else if state.depth = 1 then return { state with depth := 0, inCpus := false, inPsci := false }
    else return { state with depth := state.depth - 1 }
  | .nop => return state
  | .property nameOffset data length =>
    visitTopologyProperty window strings nameOffset data length state

def validFields (header : Header) (fdt : Nat) : Bool :=
  !(header.totalSize < 40 || directMapEnd - header.totalSize < fdt ||
    !validSpan header.structureOffset header.structureSize header.totalSize ||
    !validSpan header.stringsOffset header.stringsSize header.totalSize)

/-- `discover_cpu_topology` behind the magic number: the topology as far as it is read and the result
of the call. -/
def discoverTree (mpidr dtbAddress : Nat) (header : Header) :
    Checked (Discovery × Except HalError Unit) :=
  if ¬ validFields header dtbAddress then return ({}, .error .illegalArgument)
  else do
    let (state, accepted) ← treeLoop window dtbAddress header (visitTopology window) {}
    if accepted = false then return (state, .error .illegalArgument)
    else if state.cpuDescriptions = [] then return (state, .error .noSuchDevice)
    else
      match ← moveBootCpuFirst mpidr state.cpuDescriptions with
      | none => return (state, .error .noSuchDevice)
      | some cpus => return ({ state with cpuDescriptions := cpus }, .ok ())

def discoverCpuTopology (mpidr dtbAddress : Nat) : Checked (Discovery × Except HalError Unit) :=
  if dtbAddress = 0 ∨ directMapEnd ≤ dtbAddress then return ({}, .error .noSuchAddress)
  else do
    let magic ← window.big 4 dtbAddress
    if magic ≠ 0xd00dfeed then return ({}, .error .illegalArgument)
    else
      let header ← readHeader window dtbAddress
      discoverTree window mpidr dtbAddress header

end Discover

/-! ## Malformed trees -/

section Malformed

variable (memory : PhysicalMemory) (structureEnd stringsSize : Nat)

def Malformed (cursor : Nat) : Prop :=
  cursor + 4 ≤ structureEnd ∧
    (readBigU32 memory cursor = 1 ∧
        (∀ address, cursor + 4 ≤ address → address < structureEnd → memory address ≠ 0) ∨
      readBigU32 memory cursor = 3 ∧
        (structureEnd < cursor + 12 ∨
          structureEnd < cursor + 12 + readBigU32 memory (cursor + 4) ∨
          stringsSize ≤ readBigU32 memory (cursor + 8)) ∨
      readBigU32 memory cursor ∉ [1, 2, 3, 4, 9])

def Follows (cursor next : Nat) : Prop :=
  ∃ token, Aarch64Boot.nextToken memory structureEnd stringsSize cursor = .ok (token, next)

def MeetsMalformed (cursor : Nat) : Prop :=
  ∃ place, Relation.ReflTransGen (Follows memory structureEnd stringsSize) cursor place ∧
    Malformed memory structureEnd stringsSize place

variable {memory structureEnd stringsSize}

theorem unterminated_iff :
    (∀ address, cursor ≤ address → address < structureEnd → memory address ≠ 0) ↔ structureEnd ≤
        cursor + (Aarch64Boot.takeName memory (structureEnd - cursor) cursor).length := by
  obtain ⟨remaining, hremaining⟩ : ∃ remaining, remaining = structureEnd - cursor := ⟨_, rfl⟩
  rw [← hremaining]
  induction remaining generalizing cursor with
  | zero =>
    rw [Aarch64Boot.takeName]
    exact iff_of_true (fun address _ _ => by omega) (by simp; omega)
  | succ remaining ih =>
    rw [Aarch64Boot.takeName]
    split
    case isTrue hzero =>
      refine iff_of_false (fun h => h cursor le_rfl (by omega) hzero) ?_
      rw [List.length_nil]
      omega
    case isFalse hnonzero =>
      rw [List.length_cons, ← Nat.add_assoc, Nat.add_right_comm, ← ih (by omega)]
      constructor
      · exact fun h address hle => h address (by omega)
      · intro h address hle hlt
        rcases Nat.eq_or_lt_of_le hle with rfl | hlt'
        · exact hnonzero
        · exact h address hlt' hlt

theorem malformed_iff : Malformed memory structureEnd stringsSize cursor ↔
    Aarch64Boot.nextToken memory structureEnd stringsSize cursor = .error false := by
  unfold Malformed Aarch64Boot.nextToken
  rw [unterminated_iff]
  dsimp only
  split
  case isTrue hroom => simp [Nat.not_le.mpr hroom]
  case isFalse hroom =>
  rw [and_iff_right (not_lt.mp hroom)]
  generalize readBigU32 memory cursor = token
  split
  case isTrue h1 => simp [h1]
  case isFalse h1 =>
  split
  case isTrue h2 => simp [h2]
  case isFalse h2 =>
  split
  case isTrue h4 => simp [h4]
  case isFalse h4 =>
  split
  case isTrue h9 => simp [h9]
  case isFalse h9 =>
  by_cases h3 : token = 3
  · subst h3
    simp only [Nat.reduceEqDiff, false_and, true_and, false_or, List.mem_cons, true_or, or_true,
      not_true_eq_false, or_false, ne_eq, Nat.add_assoc, Nat.reduceAdd]
    split
    case isTrue hroom => exact iff_of_true (.inl hroom) rfl
    case isFalse hroom =>
    split
    case isTrue hbounds => exact iff_of_true (by omega) rfl
    case isFalse hbounds => exact iff_of_false (by omega) nofun
  · simp [h1, h2, h3, h4, h9]

theorem MeetsMalformed.error {accepted : Bool}
    (h : Aarch64Boot.nextToken memory structureEnd stringsSize cursor = .error accepted) :
    accepted = false ↔ MeetsMalformed memory structureEnd stringsSize cursor := by
  constructor
  · rintro rfl
    exact ⟨cursor, .refl, malformed_iff.mpr h⟩
  · rintro ⟨place, hreach, hplace⟩
    rcases hreach.cases_head with rfl | ⟨next, ⟨token, hnext⟩, -⟩
    · rw [malformed_iff, h] at hplace
      exact Except.error.inj hplace
    · rw [h] at hnext
      cases hnext

theorem MeetsMalformed.ok
    (h : Aarch64Boot.nextToken memory structureEnd stringsSize cursor = .ok (token, next)) :
    MeetsMalformed memory structureEnd stringsSize next ↔
      MeetsMalformed memory structureEnd stringsSize cursor := by
  constructor
  · rintro ⟨place, hreach, hplace⟩
    exact ⟨place, .head ⟨token, h⟩ hreach, hplace⟩
  · rintro ⟨place, hreach, hplace⟩
    rcases hreach.cases_head with rfl | ⟨other, ⟨token', hother⟩, hreach⟩
    · rw [malformed_iff, h] at hplace
      cases hplace
    · rw [h] at hother
      cases hother
      exact ⟨place, hreach, hplace⟩

end Malformed

/-! ## Reads stay in the window -/

section Bounds

variable {window : Window}

theorem bigAt_four (memory : PhysicalMemory) (address : Nat) :
    bigAt memory 4 address = readBigU32 memory address := by
  simp only [bigAt, readBigU32, Nat.add_assoc, Nat.reduceAdd]
  omega

theorem returns_readBigU32 {address : Nat} (hstart : window.start ≤ address)
    (hstop : address + 4 ≤ window.stop) (h : P (readBigU32 window.bytes address)) :
    Returns (window.big 4 address) P :=
  Window.returns_big hstart hstop (by rwa [bigAt_four])

theorem cell_returns {γ : Type} {test : Bool} {next : Nat → γ} {P : γ → Prop}
    (hstart : window.start ≤ data) (hstop : data + length ≤ window.stop)
    (htest : (test && length == 4) = true) (h : ∀ cells, P (next cells)) :
    Returns (window.big 4 data >>= fun cells => pure (next cells)) P := by
  simp only [Bool.and_eq_true, beq_iff_eq] at htest
  rw [returns_bind_iff]
  exact returns_readBigU32 hstart (by omega) (returns_pure_iff.mpr (h _))

theorem readCells_returns {cellCount : Nat} (hstart : window.start ≤ data)
    (hstop : cellCount ≤ 2 → data + cellCount * 4 ≤ window.stop) :
    Returns (readCells window data cellCount) fun _ => True := by
  unfold readCells
  split
  · exact returns_readBigU32 hstart (by omega) trivial
  · simp only [returns_bind_iff]
    exact returns_readBigU32 hstart (by omega) (returns_readBigU32 (by omega) (by omega) (by simp))
  · simp

theorem nodeNameIs_returns {stop : Nat} (hstart : window.start ≤ node) (hnode : node ≤ stop)
    (hstop : stop < window.stop) (hzero : window.bytes stop = 0) {name : List Char}
    (hname : ∀ char ∈ name, char.toNat ≠ 0) : Returns (nodeNameIs window node name) fun _ => True := by
  induction name generalizing node with
  | nil =>
    rw [nodeNameIs, returns_bind_iff, Window.returns_byte_iff hstart]
    exact ⟨by omega, by simp⟩
  | cons char name ih =>
    obtain ⟨hchar, hrest⟩ := List.forall_mem_cons.mp hname
    rw [nodeNameIs, returns_bind_iff, Window.returns_byte_iff hstart]
    refine ⟨by omega, ?_⟩
    split
    case isTrue hsame =>
      have hne : node ≠ stop := by
        rintro rfl
        rw [hzero] at hsame
        exact hchar hsame.symm
      exact ih (by omega) (by omega) hrest
    case isFalse => simp

theorem propertyStringEquals_returns (hstart : window.start ≤ data)
    (hstop : data + length ≤ window.stop) {index : Nat} (hindex : index ≤ length) (name : List Char) :
    Returns (propertyStringEquals window data length index name) fun _ => True := by
  induction name generalizing index with
  | nil =>
    rw [propertyStringEquals]
    split
    · simp
    · rw [returns_bind_iff, Window.returns_byte_iff (by omega)]
      exact ⟨by omega, by simp⟩
  | cons char name ih =>
    rw [propertyStringEquals]
    split
    · simp
    · rw [returns_bind_iff, Window.returns_byte_iff (by omega)]
      refine ⟨by omega, ?_⟩
      split
      · exact ih (by omega)
      · simp

def StringsInside (window : Window) (strings : Strings) : Prop :=
  window.start ≤ strings.table ∧ strings.table + strings.size ≤ window.stop

theorem guarded_named_returns (hstrings : StringsInside window strings)
    (test : Bool) (nameOffset : Nat) (name : String) :
    Returns (guarded test (named window strings nameOffset name)) fun found =>
      found = true → test = true := by
  unfold guarded named
  split
  case isTrue htest =>
    exact (Window.returns_boundedStringEquals hstrings.1 hstrings.2 _ _).mono fun _ _ _ => htest
  case isFalse => simp

/-! ### Tokens -/

variable {structureEnd stringsSize cursor : Nat}

theorem takeName_returns {remaining : Nat} (hstart : window.start ≤ cursor)
    (hstop : cursor + remaining ≤ window.stop) :
    Returns (takeName window remaining cursor) (· = Aarch64Boot.takeName window.bytes remaining cursor) := by
  induction remaining generalizing cursor with
  | zero => simp [takeName, Aarch64Boot.takeName]
  | succ remaining ih =>
    rw [takeName, Aarch64Boot.takeName, returns_bind_iff, Window.returns_byte_iff hstart]
    refine ⟨by omega, ?_⟩
    split
    · simp
    · refine (ih (by omega) (by omega)).bind fun name hname => ?_
      simp [hname]

theorem nextToken_returns (hstart : window.start ≤ cursor) (hstop : structureEnd ≤ window.stop) :
    Returns (nextToken window structureEnd stringsSize cursor)
      (· = Aarch64Boot.nextToken window.bytes structureEnd stringsSize cursor) := by
  unfold nextToken Aarch64Boot.nextToken
  dsimp only
  split
  · simp
  rw [returns_bind_iff]
  refine returns_readBigU32 hstart (by omega) ?_
  generalize readBigU32 window.bytes cursor = token
  split
  · refine (takeName_returns (by omega) (by omega)).bind fun name hname => ?_
    subst hname
    split <;> simp
  split
  · simp
  split
  · simp
  split
  · simp
  split
  · simp
  case isFalse hproperty =>
  simp only [returns_bind_iff]
  refine returns_readBigU32 (by omega) (by omega) (returns_readBigU32 (by omega) (by omega) ?_)
  split <;> simp

def Accessible (window : Window) (node : Nat) : Token → Prop
  | .beginNode _ => window.start ≤ node ∧
      ∃ stop, node ≤ stop ∧ stop < window.stop ∧ window.bytes stop = 0
  | .property _ data length =>
    window.start ≤ data ∧ data + length ≤ window.stop ∧ length + 16 < 2 ^ 32
  | _ => True

theorem nextToken_accessible (hstart : window.start ≤ cursor)
    (hstop : structureEnd ≤ window.stop) (hshort : structureEnd + 4 < cursor + 2 ^ 32)
    (h : Aarch64Boot.nextToken window.bytes structureEnd stringsSize cursor = .ok (token, next)) :
    Accessible window (cursor + 4) token := by
  unfold Aarch64Boot.nextToken at h
  dsimp only at h
  split at h
  · cases h
  split at h
  · split at h
    · cases h
    case isFalse hname =>
      cases h
      rw [← unterminated_iff] at hname
      push Not at hname
      obtain ⟨stop, hle, hlt, hzero⟩ := hname
      exact ⟨by omega, stop, hle, by omega, hzero⟩
  split at h
  · cases h
    trivial
  split at h
  · cases h
    trivial
  split at h
  · cases h
  split at h
  · cases h
  split at h
  · cases h
  case isFalse hbounds =>
    cases h
    exact ⟨by omega, by omega, by omega⟩

variable {σ : Type} {visit : Nat → Token → σ → Checked σ}

theorem tokenLoop_returns {I : σ → Prop} (hstop : structureEnd ≤ window.stop)
    (hvisit : ∀ cursor token next state, window.start ≤ cursor →
      Aarch64Boot.nextToken window.bytes structureEnd stringsSize cursor = .ok (token, next) →
        I state → Returns (visit (cursor + 4) token state) I)
    (hrounds : structureEnd < cursor + 4 * (rounds + 1))
    (hstart : window.start ≤ cursor) {state : σ} (hstate : I state) :
    Returns (tokenLoop window structureEnd stringsSize visit rounds cursor state) fun result =>
      I result.1 ∧ (result.2 = false ↔
        MeetsMalformed window.bytes structureEnd stringsSize cursor) := by
  induction rounds generalizing cursor state with
  | zero =>
    have hend : Aarch64Boot.nextToken window.bytes structureEnd stringsSize cursor = .error true := by
      rw [Aarch64Boot.nextToken, if_pos (by omega)]
    rw [tokenLoop, if_pos (by omega)]
    exact returns_pure_iff.mpr ⟨hstate, MeetsMalformed.error hend⟩
  | succ rounds ih =>
    rw [tokenLoop]
    refine (nextToken_returns hstart hstop).bind fun result hresult => ?_
    subst hresult
    split
    case _ accepted hend => exact returns_pure_iff.mpr ⟨hstate, MeetsMalformed.error hend⟩
    case _ token next hnext =>
      have hspec := nextToken_spec hnext
      refine (hvisit cursor token next state hstart hnext hstate).bind fun state hstate => ?_
      rw [← MeetsMalformed.ok hnext]
      exact ih (by omega) (by omega) hstate

/-! ### The memory and the reserved ranges -/

section

variable {ranges : List PhysicalRange} (h : ranges.length ≤ rangeCapacity)
include h

theorem addRange_returns (start stop : Nat) :
    Returns (addRange ranges start stop) fun ranges => ranges.length ≤ rangeCapacity := by
  unfold addRange
  split
  · exact returns_pure_iff.mpr h
  · exact returns_store (by omega) _

theorem addDeclaredRange_returns (start size : Nat) :
    Returns (addDeclaredRange ranges start size) fun ranges => ranges.length ≤ rangeCapacity := by
  unfold addDeclaredRange
  split
  · exact addRange_returns h _ _
  · exact returns_pure_iff.mpr h

end

theorem parseRegTuples_returns {addressCells sizeCells : Nat}
    (hstart : window.start ≤ data) (hstop : data + length ≤ window.stop)
    (hshort : length + 16 < 2 ^ 32) (haddress : addressCells ≤ 2) (hsize : sizeCells ≤ 2)
    (hcells : 0 < addressCells + sizeCells) (hrounds : length ≤ offset + rounds)
    (hoffset : offset ≤ length)
    (h : ranges.length ≤ rangeCapacity) :
    Returns (parseRegTuples window data length addressCells sizeCells rounds offset ranges)
      fun ranges => ranges.length ≤ rangeCapacity := by
  induction rounds generalizing offset ranges with
  | zero =>
    rw [parseRegTuples, Nat.mod_eq_of_lt (by omega), if_neg (by omega)]
    exact returns_pure_iff.mpr h
  | succ rounds ih =>
    rw [parseRegTuples, Nat.mod_eq_of_lt (by omega)]
    split
    · refine (readCells_returns (by omega) (by omega)).bind fun start _ => ?_
      refine (readCells_returns (by omega) (by omega)).bind fun size _ => ?_
      refine (addDeclaredRange_returns h start size).bind fun ranges hranges => ?_
      exact ih (by omega) (by omega) hranges
    · exact returns_pure_iff.mpr h

theorem parseRegProperty_returns (hstart : window.start ≤ data)
    (hstop : data + length ≤ window.stop) (hshort : length + 16 < 2 ^ 32)
    (addressCells sizeCells : Nat)
    (h : ranges.length ≤ rangeCapacity) :
    Returns (parseRegProperty window data length addressCells sizeCells ranges)
      fun ranges => ranges.length ≤ rangeCapacity := by
  unfold parseRegProperty
  split
  · exact returns_pure_iff.mpr h
  · exact parseRegTuples_returns hstart hstop hshort (by omega) (by omega) (by omega) (by omega)
      (Nat.zero_le _) h

theorem kindOfName_returns {stop : Nat} (hstart : window.start ≤ node) (hnode : node ≤ stop)
    (hstop : stop < window.stop) (hzero : window.bytes stop = 0) :
    Returns (kindOfName window node) fun _ => True := by
  unfold kindOfName
  refine (nodeNameIs_returns hstart hnode hstop hzero (by simp)).branch (fun _ => by simp) ?_
  refine (nodeNameIs_returns hstart hnode hstop hzero (by simp)).branch (fun _ => by simp) ?_
  refine (nodeNameIs_returns hstart hnode hstop hzero (by simp)).bind fun reserved _ => ?_
  split <;> simp

def TablesFit (state : Walk × BootTables) : Prop :=
  state.2.ramRanges.length ≤ rangeCapacity ∧ state.2.reservedRanges.length ≤ rangeCapacity

theorem visitProperty_returns (hstrings : StringsInside window strings)
    (hstart : window.start ≤ data) (hstop : data + length ≤ window.stop)
    (hshort : length + 16 < 2 ^ 32) (nameOffset : Nat) {walk : Walk} {tables : BootTables}
    (h : TablesFit (walk, tables)) :
    Returns (visitProperty window strings nameOffset data length walk tables) TablesFit := by
  have hnamed := fun test name => guarded_named_returns hstrings test nameOffset name
  unfold visitProperty
  refine (hnamed _ _).branch (fun htest => cell_returns hstart hstop (htest rfl) fun _ => h) ?_
  refine (hnamed _ _).branch (fun htest => cell_returns hstart hstop (htest rfl) fun _ => h) ?_
  refine (hnamed _ _).branch (fun _ => ?_) ?_
  · refine (parseRegProperty_returns hstart hstop hshort _ _ h.1).bind fun ranges hranges => ?_
    exact returns_pure_iff.mpr ⟨hranges, h.2⟩
  refine (hnamed _ _).branch (fun _ => ?_) ?_
  · refine (parseRegProperty_returns hstart hstop hshort _ _ h.2).bind fun ranges hranges => ?_
    exact returns_pure_iff.mpr ⟨h.1, hranges⟩
  refine (hnamed _ _).branch (fun _ => ?_) ?_
  · refine (readCells_returns hstart (by omega)).bind fun start _ => ?_
    exact returns_pure_iff.mpr h
  refine (hnamed _ _).branch (fun _ => ?_) ?_
  · refine (readCells_returns hstart (by omega)).bind fun stop _ => ?_
    exact returns_pure_iff.mpr h
  · exact returns_pure_iff.mpr h

theorem visitBoot_returns (hstrings : StringsInside window strings)
    (htoken : Accessible window node token) {state : Walk × BootTables}
    (h : TablesFit state) : Returns (visitBoot window strings node token state) TablesFit := by
  unfold visitBoot
  cases token with
  | beginNode =>
    obtain ⟨hstart, stop, hnode, hstop, hzero⟩ := htoken
    dsimp only
    split
    · refine (kindOfName_returns hstart hnode hstop hzero).bind fun kind _ => ?_
      exact returns_pure_iff.mpr h
    · exact returns_pure_iff.mpr h
  | endNode => exact returns_pure_iff.mpr h
  | nop => exact returns_pure_iff.mpr h
  | property nameOffset data length =>
    obtain ⟨hstart, hstop, hshort⟩ := htoken
    exact visitProperty_returns hstrings hstart hstop hshort nameOffset h

theorem reserveLoop_returns {fdt totalSize : Nat} (hstart : window.start ≤ fdt)
    (hstop : fdt + totalSize ≤ window.stop) (htotal : totalSize < 2 ^ 32)
    (hrounds : totalSize ≤ offset + rounds)
    (h : ranges.length ≤ rangeCapacity) :
    Returns (reserveLoop window fdt totalSize rounds offset ranges) fun ranges =>
      ranges.length ≤ rangeCapacity := by
  have hspan : ∀ offset, validSpan offset 16 totalSize = true ↔ offset + 16 ≤ totalSize := by
    intro offset
    simp only [validSpan, Bool.and_eq_true, decide_eq_true_eq]
    omega
  induction rounds generalizing offset ranges with
  | zero =>
    rw [reserveLoop, if_neg (by rw [hspan]; omega)]
    exact returns_pure_iff.mpr h
  | succ rounds ih =>
    rw [reserveLoop]
    split
    case isTrue hvalid =>
      rw [hspan] at hvalid
      refine (readCells_returns (by omega) (by omega)).bind fun start _ => ?_
      refine (readCells_returns (by omega) (by omega)).bind fun size _ => ?_
      split
      · exact returns_pure_iff.mpr h
      · refine (addDeclaredRange_returns h start size).bind fun ranges hranges => ?_
        exact ih (by omega) hranges
    case isFalse => exact returns_pure_iff.mpr h

/-! ### Processors -/

def CpusFit (state : Discovery) : Prop := state.cpuDescriptions.length ≤ cpuCountMax

theorem visitCpuProperty_returns {is : String → Checked Bool}
    (his : ∀ name, Returns (is name) fun _ => True)
    (hstart : window.start ≤ data) (hstop : data + length ≤ window.stop) (cells : Nat)
    (cpu : PendingCpu) :
    Returns (visitCpuProperty window is data length cells cpu) fun _ => True := by
  have hequals := fun name => propertyStringEquals_returns hstart hstop (Nat.zero_le length) name
  unfold visitCpuProperty
  refine (his _).branch (fun _ => ?_) ?_
  · exact (hequals _).bind fun isCpu _ => by simp
  refine (his _).branch (fun _ => ?_) ?_
  · refine (hequals _).branch (fun _ => by simp) ?_
    exact (hequals _).bind fun enabled _ => by simp
  refine (his _).branch (fun _ => ?_) ?_
  · split
    · exact (readCells_returns hstart (by omega)).bind fun mpidr _ => by simp
    · simp
  refine (his _).branch (fun _ => ?_) ?_
  · unfold enableMethod
    rw [returns_bind_iff]
    refine (hequals _).branch (fun _ => by simp) ?_
    exact (hequals _).bind fun spinTable _ => by split <;> simp
  refine (his _).branch (fun _ => ?_) ?_
  · split
    · exact (readCells_returns hstart (by omega)).bind fun address _ => by simp
    · simp
  · simp

theorem visitTopologyProperty_returns (hstrings : StringsInside window strings)
    (hstart : window.start ≤ data) (hstop : data + length ≤ window.stop)
    (nameOffset : Nat) {state : Discovery} (h : CpusFit state) :
    Returns (visitTopologyProperty window strings nameOffset data length state) CpusFit := by
  have hnamed := fun test name => guarded_named_returns hstrings test nameOffset name
  have hequals := fun name => propertyStringEquals_returns hstart hstop (Nat.zero_le length) name
  unfold visitTopologyProperty
  refine (hnamed _ _).branch (fun htest => cell_returns hstart hstop (htest rfl) fun _ => h) ?_
  refine (hnamed _ _).branch (fun _ => ?_) ?_
  · unfold psciMethod
    rw [returns_bind_iff]
    exact (hequals _).branch (fun _ => returns_pure_iff.mpr (returns_pure_iff.mpr h))
      ((hequals _).branch (fun _ => returns_pure_iff.mpr (returns_pure_iff.mpr h))
        (returns_pure_iff.mpr (returns_pure_iff.mpr h)))
  · refine (visitCpuProperty_returns (fun name => (hnamed _ name).mono fun _ _ => trivial)
      hstart hstop _ _).bind fun cpu _ => ?_
    exact returns_pure_iff.mpr h

theorem visitTopology_returns (hstrings : StringsInside window strings)
    (htoken : Accessible window node token) {state : Discovery}
    (h : CpusFit state) : Returns (visitTopology window strings node token state) CpusFit := by
  unfold visitTopology
  cases token with
  | beginNode =>
    obtain ⟨hstart, stop, hnode, hstop, hzero⟩ := htoken
    dsimp only
    split
    · refine (nodeNameIs_returns hstart hnode hstop hzero (by simp)).bind fun inCpus _ => ?_
      refine (nodeNameIs_returns hstart hnode hstop hzero (by simp)).bind fun inPsci _ => ?_
      exact returns_pure_iff.mpr h
    split
    · refine (nodeNameIs_returns hstart hnode hstop hzero (by simp)).bind fun isCpu _ => ?_
      exact returns_pure_iff.mpr h
    · exact returns_pure_iff.mpr h
  | endNode =>
    dsimp only
    split
    · unfold appendCpu
      split
      · exact returns_pure_iff.mpr h
      case isFalse happend =>
        simp only [Bool.or_eq_true, decide_eq_true_eq, not_or, not_le] at happend
        exact (returns_store happend.2 _).bind fun cpus hcpus => returns_pure_iff.mpr hcpus
    split
    · exact returns_pure_iff.mpr h
    · exact returns_pure_iff.mpr h
  | nop => exact returns_pure_iff.mpr h
  | property nameOffset data length =>
    obtain ⟨hstart, hstop, -⟩ := htoken
    exact visitTopologyProperty_returns hstrings hstart hstop nameOffset h

theorem moveBootCpuFirst_returns (mpidr : Nat) (cpus : List CpuDescription) :
    Returns (moveBootCpuFirst mpidr cpus) fun moved =>
      ∀ table, moved = some table → table.length = cpus.length := by
  unfold moveBootCpuFirst
  refine Returns.bind (P := fun
    | .error table => table.length = cpus.length
    | .ok () => True) ?_ fun result hresult => ?_
  · refine returns_scan (I := fun _ _ => True) ?_ (fun _ _ => trivial) trivial
    intro visited index rest state hitems _
    have hindex : index < cpus.length := List.mem_range.mp (hitems ▸ by simp)
    refine (returns_fetch hindex).bind fun cpu _ => ?_
    split
    · simp
    · refine (returns_fetch (by omega)).bind fun first _ => ?_
      simp
  · cases result with
    | error table =>
      refine returns_pure_iff.mpr ?_
      rintro _ ⟨⟩
      exact hresult
    | ok => simp

end Bounds

/-! ## Both parsers -/

section Tree

variable {memory : PhysicalMemory} {fdt : Nat}

/-- The bytes from the address of the tree on, as many as its header says. -/
def treeWindow (memory : PhysicalMemory) (fdt : Nat) : Window :=
  ⟨memory, fdt, fdt + readBigU32 memory (fdt + 4)⟩

def TreeMalformed (memory : PhysicalMemory) (fdt : Nat) : Prop :=
  let header := Aarch64Boot.readHeader memory fdt
  MeetsMalformed memory (fdt + header.structureOffset + header.structureSize) header.stringsSize
    (fdt + header.structureOffset)

structure ValidTree (memory : PhysicalMemory) (fdt : Nat) : Prop where
  present : fdt ≠ 0
  mapped : fdt < directMapEnd
  magic : readBigU32 memory fdt = 0xd00dfeed
  fields : validFields (Aarch64Boot.readHeader memory fdt) fdt

theorem validFields_iff {header : Header} : validFields header fdt ↔
    40 ≤ header.totalSize ∧ fdt ≤ directMapEnd - header.totalSize ∧
      header.structureOffset + header.structureSize ≤ header.totalSize ∧
      header.stringsOffset + header.stringsSize ≤ header.totalSize := by
  simp only [validFields, validSpan, Bool.not_eq_true', Bool.or_eq_false_iff, Bool.not_eq_false',
    Bool.and_eq_true, decide_eq_true_eq, decide_eq_false_iff_not]
  omega

theorem ValidTree.not_refused (h : ValidTree memory fdt) : ¬ (fdt = 0 ∨ directMapEnd ≤ fdt) :=
  not_or.mpr ⟨h.present, not_le.mpr h.mapped⟩

theorem ValidTree.of_valid (h : ValidHeader memory fdt) : ValidTree memory fdt where
  present := h.present
  mapped := h.mapped
  magic := h.magic
  fields := by
    have hvalid := h.valid
    simp only [Header.valid, validFields, Bool.not_eq_true', Bool.or_eq_false_iff] at *
    exact hvalid.1

theorem returns_field (h : ValidTree memory fdt)
    (hoffset : offset + 4 ≤ 40) (hP : P (readBigU32 memory (fdt + offset))) :
    Returns ((treeWindow memory fdt).big 4 (fdt + offset)) P := by
  have htotal : 40 ≤ readBigU32 memory (fdt + 4) := (validFields_iff.mp h.fields).1
  refine returns_readBigU32 (Nat.le_add_right _ _) ?_ hP
  rw [treeWindow]
  dsimp only
  omega

theorem returns_magic (h : ValidTree memory fdt) (hP : P 0xd00dfeed) :
    Returns ((treeWindow memory fdt).big 4 fdt) P :=
  returns_field h (Nat.le_add_left 4 36 : 0 + 4 ≤ 40) (by rwa [Nat.add_zero, h.magic])

theorem fdt_add_four_le (hmagic : readBigU32 memory fdt = 0xd00dfeed)
    {structureEnd stringsSize : Nat} (hcursor : fdt ≤ cursor)
    (h : Aarch64Boot.nextToken memory structureEnd stringsSize cursor = .ok (token, next)) :
    fdt + 4 ≤ cursor := by
  by_contra hlow
  obtain ⟨offset, rfl⟩ := Nat.exists_eq_add_of_le hcursor
  obtain ⟨accepted, herror⟩ := nextToken_unknown structureEnd stringsSize
    (readBigU32_of_magic hmagic (show offset < 4 by omega))
  rw [herror] at h
  cases h

theorem readHeader_returns (h : ValidTree memory fdt) :
    Returns (readHeader (treeWindow memory fdt) fdt) fun fields =>
      fields = { Aarch64Boot.readHeader memory fdt with reserveMapOffset := 0 } := by
  unfold readHeader
  simp only [returns_bind_iff]
  refine returns_field h (by decide) (returns_field h (by decide) (returns_field h (by decide)
    (returns_field h (by decide) (returns_field h (by decide) ?_))))
  exact returns_pure_iff.mpr rfl

theorem treeLoop_returns (h : ValidTree memory fdt) {σ : Type}
    {visit : Strings → Nat → Token → σ → Checked σ} {I : σ → Prop}
    (hvisit : ∀ strings, StringsInside (treeWindow memory fdt) strings → ∀ node token state,
      Accessible (treeWindow memory fdt) node token → I state →
        Returns (visit strings node token state) I) {state : σ} (hstate : I state) :
    Returns (treeLoop (treeWindow memory fdt) fdt (Aarch64Boot.readHeader memory fdt) visit state)
      fun result => I result.1 ∧ (result.2 = false ↔ TreeMalformed memory fdt) := by
  obtain ⟨htotal, -, hstructure, hstrings⟩ := validFields_iff.mp h.fields
  have hlt : (Aarch64Boot.readHeader memory fdt).totalSize < 2 ^ 32 := readBigU32_lt _
  have hstart : (treeWindow memory fdt).start = fdt := rfl
  have hstop : (treeWindow memory fdt).stop = fdt + (Aarch64Boot.readHeader memory fdt).totalSize :=
    rfl
  refine tokenLoop_returns (by omega) ?_ (by omega) (by omega) hstate
  intro cursor token next state hcursor hnext hI
  have hlow := fdt_add_four_le h.magic hcursor hnext
  refine hvisit _ ⟨by dsimp only; omega, by dsimp only; omega⟩ _ _ _ ?_ hI
  exact nextToken_accessible hcursor (by omega) (by omega) hnext

theorem parseTree_returns (h : ValidHeader memory fdt) :
    Returns (parseTree (treeWindow memory fdt) fdt (Aarch64Boot.readHeader memory fdt)) fun result =>
      result.tables.ramRanges.length ≤ rangeCapacity ∧
        result.tables.reservedRanges.length ≤ rangeCapacity ∧
        (result.accepted = false ↔ TreeMalformed memory fdt) := by
  have hlt : (Aarch64Boot.readHeader memory fdt).totalSize < 2 ^ 32 := readBigU32_lt _
  unfold parseTree
  rw [if_neg (not_not.mpr h.valid)]
  refine (reserveLoop_returns le_rfl le_rfl hlt (Nat.le_add_left _ _) (Nat.zero_le _)).bind
    fun reserved hreserved => ?_
  refine (treeLoop_returns (.of_valid h) (fun strings hstrings node token state htoken hI =>
    visitBoot_returns hstrings htoken hI) ⟨Nat.zero_le _, hreserved⟩).bind fun result hresult => ?_
  exact returns_pure_iff.mpr ⟨hresult.1.1, hresult.1.2, hresult.2⟩

theorem discoverTree_returns (h : ValidTree memory fdt) (mpidr reserveMapOffset : Nat) :
    Returns (discoverTree (treeWindow memory fdt) mpidr fdt
      { Aarch64Boot.readHeader memory fdt with reserveMapOffset := reserveMapOffset }) fun result =>
        result.1.cpuDescriptions.length ≤ cpuCountMax ∧
          (TreeMalformed memory fdt → result.2 = .error .illegalArgument) := by
  unfold discoverTree
  rw [if_neg ?valid]
  case valid => exact not_not.mpr h.fields
  have hloop := treeLoop_returns h (fun strings hstrings node token state htoken hI =>
    visitTopology_returns hstrings htoken hI) (show CpusFit {} from Nat.zero_le _)
  refine Returns.bind hloop fun result hresult => ?_
  obtain ⟨state, accepted⟩ := result
  obtain ⟨hfit, hmalformed⟩ := hresult
  dsimp only at hmalformed ⊢
  split
  case isTrue => exact returns_pure_iff.mpr ⟨hfit, fun _ => rfl⟩
  case isFalse haccepted =>
  have hwell : ¬ TreeMalformed memory fdt := fun hmet => haccepted (hmalformed.mpr hmet)
  split
  · exact returns_pure_iff.mpr ⟨hfit, fun hmet => absurd hmet hwell⟩
  refine (moveBootCpuFirst_returns mpidr state.cpuDescriptions).bind fun moved hmoved => ?_
  cases moved with
  | none => exact returns_pure_iff.mpr ⟨hfit, fun hmet => absurd hmet hwell⟩
  | some cpus =>
    refine returns_pure_iff.mpr ⟨?_, fun hmet => absurd hmet hwell⟩
    exact (hmoved cpus rfl).trans_le hfit

/-- Where the header is valid, both parsers end after at most as many tokens as the tree has words,
without a read beyond the tree or a write beyond a table, and a malformed token makes them fail. -/
theorem deviceTree_parsers_total (memory : PhysicalMemory) (fdt mpidr : Nat) :
    (ValidHeader memory fdt → Returns (parseFdt (treeWindow memory fdt) fdt) fun result =>
      result.tables.ramRanges.length ≤ rangeCapacity ∧
        result.tables.reservedRanges.length ≤ rangeCapacity ∧
        (result.accepted = false ↔ TreeMalformed memory fdt)) ∧
    (ValidTree memory fdt → Returns (discoverCpuTopology (treeWindow memory fdt) mpidr fdt)
      fun result => result.1.cpuDescriptions.length ≤ cpuCountMax ∧
        (TreeMalformed memory fdt → result.2 = .error .illegalArgument)) := by
  constructor
  · intro h
    unfold parseFdt
    rw [if_neg (ValidTree.of_valid h).not_refused, returns_bind_iff]
    refine returns_magic (.of_valid h) ?_
    rw [if_neg (not_not.mpr rfl)]
    refine (readHeader_returns (.of_valid h)).bind fun fields hfields => ?_
    subst hfields
    rw [returns_bind_iff]
    exact returns_field (.of_valid h) (by decide) (parseTree_returns h)
  · intro h
    unfold discoverCpuTopology
    rw [if_neg h.not_refused, returns_bind_iff]
    refine returns_magic h ?_
    rw [if_neg (not_not.mpr rfl)]
    refine (readHeader_returns h).bind fun fields hfields => ?_
    subst hfields
    exact discoverTree_returns h mpidr 0

/-- A zero-terminated text, filled up to whole words. -/
def paddedText (text : String) : List Nat :=
  text.toList.map Char.toNat ++ List.replicate (4 - text.length % 4) 0

def textProperty (nameOffset : Nat) (text : String) : List Nat :=
  [3, text.length + 1, nameOffset].flatMap bigEndian ++ paddedText text

def treeNode (name : String) (content : List Nat) : List Nat :=
  bigEndian 1 ++ paddedText name ++ content ++ bigEndian 2

def cpuNode (name : String) (mpidr : Nat) : List Nat :=
  treeNode name (textProperty 67 "cpu" ++ sampleProperty 27 [mpidr] ++ textProperty 79 "psci")

/-- A tree with a range of RAM, a reserved range besides the one of its reservation block, and two
processors that are started through PSCI. -/
def topologyTree : List Nat :=
  deviceTree [(0x50000000, 0x1000)]
    (treeNode "" (sampleCells ++
        treeNode "memory@40000000" (sampleProperty 27 [0, 0x40000000, 0, 0x40000000]) ++
        treeNode "reserved-memory"
          (sampleCells ++ treeNode "pool" (sampleProperty 27 [0, 0x70000000, 0, 0x10000])) ++
        treeNode "psci" (textProperty 93 "smc") ++
        treeNode "cpus" (sampleProperty 0 [1] ++ cpuNode "cpu@0" 0 ++ cpuNode "cpu@1" 1)) ++
      bigEndian 9)
    (sampleStrings ++ ["device_type", "enable-method", "method"].flatMap
      fun name => name.toList.map Char.toNat ++ [0])

def topologyParsed : FdtResult where
  accepted := true
  tables :=
    { ramRanges := [⟨0x40000000, 0x80000000⟩]
      reservedRanges := [⟨0x50000000, 0x50001000⟩, ⟨0x70000000, 0x70010000⟩] }
  dtbSize := topologyTree.length

def topologyFound : Discovery where
  depth := -1
  cpuAddressCells := 1
  cpuDescriptions := [⟨1, 0, .psci⟩, ⟨0, 0, .psci⟩]
  discoveredPsciConduit := .smc

/-- Both parsers read the whole tree, the second one on its second processor. -/
theorem deviceTree_parsers_total_topologyTree :
    parseFdt (treeWindow (bytesAt 0x48000000 topologyTree) 0x48000000) 0x48000000 =
        .ok topologyParsed ∧
      discoverCpuTopology (treeWindow (bytesAt 0x48000000 topologyTree) 0x48000000) 1 0x48000000 =
        .ok (topologyFound, .ok ()) ∧
      topologyFound.cpuDescriptions.length ≤ cpuCountMax ∧
      ¬ TreeMalformed (bytesAt 0x48000000 topologyTree) 0x48000000 := by
  have hparsed : parseFdt (treeWindow (bytesAt 0x48000000 topologyTree) 0x48000000) 0x48000000 =
      .ok topologyParsed := by decide +kernel
  have hfound : discoverCpuTopology (treeWindow (bytesAt 0x48000000 topologyTree) 0x48000000) 1
      0x48000000 = .ok (topologyFound, .ok ()) := by decide +kernel
  have htotal := deviceTree_parsers_total (bytesAt 0x48000000 topologyTree) 0x48000000 1
  obtain ⟨parsed, hreturned, -, -, hfails⟩ := htotal.1
    ⟨by decide +kernel, by decide +kernel, by decide +kernel, by decide +kernel⟩
  obtain ⟨found, hdiscovered, hfit, -⟩ := htotal.2
    ⟨by decide +kernel, by decide +kernel, by decide +kernel, by decide +kernel⟩
  rw [hparsed] at hreturned
  cases hreturned
  rw [hfound] at hdiscovered
  cases hdiscovered
  exact ⟨hparsed, hfound, hfit, fun hmalformed => absurd (hfails.mpr hmalformed) (by decide)⟩

end Tree

end A9N.Hal.Aarch64Boot.DeviceTree
