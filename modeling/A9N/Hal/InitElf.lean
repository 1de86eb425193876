import A9N.Framework.Bytes
import A9N.Hal.Aarch64Boot

/-!
# The image of the first process

`load_init_elf` of `boot_protocol.cpp`. The boot loader leaves an ELF file in memory.
-/

namespace A9N.Hal.Aarch64Boot.InitElf

open List Window

def initImageCapacity : Nat := 64 * 1024 * 1024

abbrev InitImage := Nat → BitVec 8

/-! ## The image buffer -/

def writeByte (image : InitImage) (index : Nat) (byte : BitVec 8) : Checked InitImage :=
  if index < initImageCapacity then .ok (Function.update image index byte) else .error .outside

def clearBytes (size : Nat) (image : InitImage) : Checked InitImage :=
  (List.range size).foldlM (fun image index => writeByte image index 0) image

def copyEach (elf : Window) (destination source : Nat) (indices : List Nat) (image : InitImage) :
    Checked InitImage :=
  indices.foldlM (fun image index => do
    let byte ← elf.byte (source + index)
    writeByte image (destination + index) byte) image

def copyBytes (elf : Window) (imageAddress destination source size : Nat) (image : InitImage) :
    Checked InitImage :=
  if imageAddress + destination < source ∨ source + size ≤ imageAddress + destination then
    copyEach elf destination source (List.range size) image
  else copyEach elf destination source (List.range size).reverse image

/-! ## The tables of the file -/

structure ElfTable where
  offset : Nat
  entrySize : Nat
  count : Nat

def ElfTable.entry (table : ElfTable) (elf : Window) (index : Nat) : Nat :=
  elf.start + table.offset + index * table.entrySize

def ElfTable.valid (table : ElfTable) (elf : Window) (size : Nat) : Bool :=
  size ≤ table.entrySize &&
    validSpan table.offset (table.entrySize * table.count) (elf.stop - elf.start)

def readTable (elf : Window) (offsetField sizeField : Nat) : Checked ElfTable := do
  let offset ← elf.little 8 (elf.start + offsetField)
  let entrySize ← elf.little 2 (elf.start + sizeField)
  let count ← elf.little 2 (elf.start + (sizeField + 2))
  return ⟨offset, entrySize, count⟩

def programTable (elf : Window) : Checked ElfTable := readTable elf 32 54

def sectionTable (elf : Window) : Checked ElfTable := readTable elf 40 58

/-! ## Symbols -/

structure SymbolTable where
  symbols : Nat
  symbolSize : Nat
  entrySize : Nat
  strings : Nat
  stringSize : Nat

def symbolLoop (elf : Window) (table : SymbolTable) (name : List Char) :
    Nat → Nat → Checked (Option Nat)
  | 0, offset =>
    if (offset + table.entrySize) % 2 ^ 64 ≤ table.symbolSize then .error .unfinished
    else return none
  | rounds + 1, offset =>
    if (offset + table.entrySize) % 2 ^ 64 ≤ table.symbolSize then do
      let nameOffset ← elf.little 4 (table.symbols + offset)
      if ← elf.boundedStringEquals table.strings table.stringSize nameOffset name then
        let value ← elf.little 8 (table.symbols + offset + 8)
        return some value
      else symbolLoop elf table name rounds ((offset + table.entrySize) % 2 ^ 64)
    else return none

/-- One section of `find_elf_symbol`, which leaves the loop with the value of the symbol. -/
def visitSection (elf : Window) (sections : ElfTable) (name : List Char) (index : Nat) (_ : Unit) :
    Checked (Except Nat Unit) := do
  let header := sections.entry elf index
  let type ← elf.little 4 (header + 4)
  if type ≠ 2 then return .ok ()
  else
    let symbolOffset ← elf.little 8 (header + 24)
    let symbolSize ← elf.little 8 (header + 32)
    let stringIndex ← elf.little 4 (header + 40)
    let entrySize ← elf.little 8 (header + 56)
    if sections.count ≤ stringIndex ∨ entrySize < 24 ∨
        ¬ validSpan symbolOffset symbolSize (elf.stop - elf.start) then return .ok ()
    else
      let strings := sections.entry elf stringIndex
      let stringOffset ← elf.little 8 (strings + 24)
      let stringSize ← elf.little 8 (strings + 32)
      if ¬ validSpan stringOffset stringSize (elf.stop - elf.start) then return .ok ()
      else
        let symbol ← symbolLoop elf ⟨elf.start + symbolOffset, symbolSize, entrySize,
          elf.start + stringOffset, stringSize⟩ name symbolSize 0
        return symbol.elim (.ok ()) .error

def findElfSymbol (elf : Window) (name : List Char) : Checked (Option Nat) := do
  let sections ← sectionTable elf
  if ¬ sections.valid elf 64 then return none
  else
    match ← scan (visitSection elf sections name) (List.range sections.count) () with
    | .error value => return some value
    | .ok () => return none

/-! ## The segments -/

def measureProgram (elf : Window) (programs : ElfTable) (index imageEnd : Nat) :
    Checked (Except Unit Nat) := do
  let program := programs.entry elf index
  let type ← elf.little 4 program
  if type ≠ 1 then return .ok imageEnd
  else
    let physical ← elf.little 8 (program + 24)
    let memory ← elf.little 8 (program + 40)
    if initImageCapacity < physical ∨ initImageCapacity - physical < memory then return .error ()
    else return .ok (max imageEnd (physical + memory))

def loadProgram (elf : Window) (imageAddress : Nat) (programs : ElfTable) (index : Nat)
    (image : InitImage) : Checked (Except InitImage InitImage) := do
  let program := programs.entry elf index
  let type ← elf.little 4 program
  if type ≠ 1 then return .ok image
  else
    let fileOffset ← elf.little 8 (program + 8)
    let physical ← elf.little 8 (program + 24)
    let fileSize ← elf.little 8 (program + 32)
    let memorySize ← elf.little 8 (program + 40)
    if memorySize < fileSize ∨ ¬ validSpan fileOffset fileSize (elf.stop - elf.start) then
      return .error image
    else
      let image ← copyBytes elf imageAddress physical (elf.start + fileOffset) fileSize image
      return .ok image

structure InitImageInfo where
  loadedAddress : Nat
  initImageSize : Nat
  entryPointAddress : Nat
  initInfoAddress : Nat
  initIpcBufferAddress : Nat
deriving DecidableEq, Repr

def loadSegments (elf : Window) (imageAddress : Nat) (image : InitImage) :
    Checked (InitImage × Option Nat) := do
  let programs ← programTable elf
  if ¬ programs.valid elf 56 then return (image, none)
  else
    match ← scan (measureProgram elf programs) (List.range programs.count) 0 with
    | .error () => return (image, none)
    | .ok imageEnd =>
      if imageEnd = 0 then return (image, none)
      else
        let imagePages := alignUp imageEnd / pageSize
        let image ← clearBytes (imagePages * pageSize) image
        match ← scan (loadProgram elf imageAddress programs) (List.range programs.count) image with
        | .error image => return (image, none)
        | .ok image => return (image, some imagePages)

def describeImage (elf : Window) (imageAddress imagePages : Nat) : Checked (Option InitImageInfo) := do
  match ← findElfSymbol elf "__init_info_start".toList with
  | none => return none
  | some initInfo =>
    match ← findElfSymbol elf "__init_ipc_buffer_start".toList with
    | none => return none
    | some initIpcBuffer =>
      let entryPoint ← elf.little 8 (elf.start + 24)
      return some ⟨imageAddress, imagePages, entryPoint, initInfo, initIpcBuffer⟩

def validElf (elf : Window) : Checked Bool :=
  if elf.stop - elf.start < 64 then return false
  else do
    let magic ← elf.little 4 elf.start
    let fileClass ← elf.byte (elf.start + 4)
    let encoding ← elf.byte (elf.start + 5)
    let machine ← elf.little 2 (elf.start + 18)
    return magic == 0x464c457f && fileClass == 2 && encoding == 1 && machine == 183

def loadInitElf (memory : Nat → BitVec 8) (imageAddress initrdStart initrdEnd : Nat)
    (image : InitImage) : Checked (InitImage × Option InitImageInfo) := do
  let elf : Window := ⟨memory, initrdStart, initrdEnd⟩
  if initrdStart = 0 ∨ initrdEnd ≤ initrdStart ∨ directMapEnd < initrdEnd then return (image, none)
  else if ← validElf elf then
    match ← loadSegments elf imageAddress image with
    | (image, none) => return (image, none)
    | (image, some imagePages) =>
      let info ← describeImage elf imageAddress imagePages
      return (image, info)
  else return (image, none)

/-! ## What the image should hold -/

structure Segment where
  fileOffset : Nat
  physical : Nat
  fileSize : Nat

def segmentAt (bytes : Nat → BitVec 8) (program : Nat) : Option Segment :=
  if littleAt bytes 4 program = 1 then
    some ⟨littleAt bytes 8 (program + 8), littleAt bytes 8 (program + 24),
      littleAt bytes 8 (program + 32)⟩
  else none

/-- The LOAD segments of the file at `elf`, in the order of the table. -/
def segments (bytes : Nat → BitVec 8) (elf : Nat) : List Segment :=
  (List.range (littleAt bytes 2 (elf + 56))).filterMap fun index =>
    segmentAt bytes (elf + littleAt bytes 8 (elf + 32) + index * littleAt bytes 2 (elf + 54))

def Segment.Covers (segment : Segment) (address : Nat) : Prop :=
  segment.physical ≤ address ∧ address < segment.physical + segment.fileSize

instance (segment : Segment) (address : Nat) : Decidable (segment.Covers address) :=
  inferInstanceAs (Decidable (_ ∧ _))

/-- The byte that the last segment to cover `address` has for it, or zero. -/
def imageByte (bytes : Nat → BitVec 8) (elf : Nat) (segments : List Segment) (address : Nat) :
    BitVec 8 :=
  match segments.reverse.find? fun segment => segment.Covers address with
  | some segment => bytes (elf + segment.fileOffset + (address - segment.physical))
  | none => 0

/-! ## Copies -/

theorem returns_writeByte {image : InitImage} {index : Nat} {byte : BitVec 8}
    {P : InitImage → Prop} (hindex : index < initImageCapacity)
    (h : P (Function.update image index byte)) : Returns (writeByte image index byte) P := by
  unfold writeByte
  simpa [hindex] using h

theorem clearBytes_returns {size : Nat} (hsize : size ≤ initImageCapacity) (image : InitImage) :
    Returns (clearBytes size image) fun image' => ∀ address < size, image' address = 0 := by
  unfold clearBytes
  induction size with
  | zero => simp
  | succ size ih =>
    rw [range_succ, foldlM_append, returns_bind_iff]
    refine (ih (by omega)).mono fun image' himage' => ?_
    rw [foldlM_cons, returns_bind_iff]
    refine returns_writeByte hsize (returns_pure_iff.mpr fun address haddress => ?_)
    rcases Nat.lt_succ_iff_lt_or_eq.mp haddress with hlt | rfl
    · rw [Function.update_of_ne (Nat.ne_of_lt hlt), himage' address hlt]
    · rw [Function.update_self]

variable {elf : Window} {destination source size : Nat}

theorem copyEach_returns {indices : List Nat} (hsource : elf.start ≤ source)
    (hindices : ∀ index ∈ indices, source + index < elf.stop ∧
      destination + index < initImageCapacity) (image : InitImage) :
    Returns (copyEach elf destination source indices image) fun image' => ∀ address,
      image' address = if destination ≤ address ∧ address - destination ∈ indices then
        elf.bytes (source + (address - destination)) else image address := by
  unfold copyEach
  induction indices generalizing image with
  | nil => simp
  | cons index indices ih =>
    obtain ⟨⟨hread, hwrite⟩, hrest⟩ := forall_mem_cons.mp hindices
    rw [foldlM_cons, returns_bind_iff, returns_bind_iff,
      returns_byte_iff (Nat.le_add_right_of_le hsource)]
    refine ⟨hread, returns_writeByte hwrite ((ih hrest _).mono fun image' himage' address => ?_)⟩
    rw [himage' address]
    by_cases haddress : address = destination + index
    · subst haddress
      simp
    · have hne : destination ≤ address → address - destination ≠ index := by omega
      simp only [Function.update_of_ne haddress, mem_cons]
      grind

theorem copyBytes_returns (hsource : elf.start ≤ source) (hread : source + size ≤ elf.stop)
    (hwrite : destination + size ≤ initImageCapacity) (imageAddress : Nat) (image : InitImage) :
    Returns (copyBytes elf imageAddress destination source size image) fun image' => ∀ address,
      image' address = if destination ≤ address ∧ address < destination + size then
        elf.bytes (source + (address - destination)) else image address := by
  have hcopy : ∀ indices : List Nat, (∀ index, index ∈ indices ↔ index < size) →
      Returns (copyEach elf destination source indices image) fun image' => ∀ address,
        image' address = if destination ≤ address ∧ address < destination + size then
          elf.bytes (source + (address - destination)) else image address := by
    intro indices hindices
    refine (copyEach_returns hsource ?_ image).mono fun image' himage' address => ?_
    · intro index hindex
      have := (hindices index).mp hindex
      omega
    · rw [himage' address]
      refine if_congr ?_ rfl rfl
      rw [hindices]
      omega
  unfold copyBytes
  split
  · exact hcopy _ fun index => mem_range
  · exact hcopy _ fun index => by rw [mem_reverse, mem_range]

/-! ## Headers and symbols -/

def HasHeader (elf : Window) : Prop := elf.start + 64 ≤ elf.stop ∧ elf.stop ≤ directMapEnd

theorem validSpan_iff {offset size total : Nat} :
    validSpan offset size total = true ↔ offset ≤ total ∧ size ≤ total - offset := by
  simp [validSpan]

theorem readTable_returns (hheader : HasHeader elf) {offsetField sizeField : Nat}
    (hoffset : offsetField + 8 ≤ 64) (hsize : sizeField + 4 ≤ 64) :
    Returns (readTable elf offsetField sizeField) fun table =>
      table = ⟨littleAt elf.bytes 8 (elf.start + offsetField),
        littleAt elf.bytes 2 (elf.start + sizeField),
        littleAt elf.bytes 2 (elf.start + (sizeField + 2))⟩ := by
  have := hheader.1
  unfold readTable
  simp only [returns_bind_iff]
  refine returns_little (by omega) (by omega) (returns_little (by omega) (by omega)
    (returns_little (by omega) (by omega) ?_))
  simp

theorem validElf_returns (hstop : elf.stop ≤ directMapEnd) :
    Returns (validElf elf) fun valid => valid = true → HasHeader elf := by
  unfold validElf
  split
  · simp
  case isFalse hsize =>
  simp only [returns_bind_iff]
  refine returns_little le_rfl (by omega) ?_
  rw [returns_byte_iff (by omega)]
  refine ⟨by omega, ?_⟩
  rw [returns_byte_iff (by omega)]
  refine ⟨by omega, returns_little (by omega) (by omega) ?_⟩
  exact returns_pure_iff.mpr fun _ => ⟨by omega, hstop⟩

theorem ElfTable.entry_bounds {table : ElfTable} {size index : Nat} (hheader : HasHeader elf)
    (hvalid : table.valid elf size = true) (hindex : index < table.count) :
    elf.start ≤ table.entry elf index ∧ table.entry elf index + size ≤ elf.stop := by
  obtain ⟨hsize, hspan⟩ := (Bool.and_eq_true _ _).mp hvalid
  have hspan := validSpan_iff.mp hspan
  have hentry : index * table.entrySize + table.entrySize ≤ table.entrySize * table.count := by
    rw [← Nat.succ_mul, Nat.mul_comm]
    exact Nat.mul_le_mul_left _ hindex
  have := hheader.1
  have := of_decide_eq_true hsize
  unfold ElfTable.entry
  omega

structure SymbolTable.Inside (table : SymbolTable) (elf : Window) : Prop where
  entry : 24 ≤ table.entrySize ∧ table.entrySize < 2 ^ 64
  symbols : elf.start ≤ table.symbols ∧ table.symbols + table.symbolSize ≤ elf.stop
  strings : elf.start ≤ table.strings ∧ table.strings + table.stringSize ≤ elf.stop

theorem symbolLoop_returns {table : SymbolTable} (hheader : HasHeader elf) (htable : table.Inside elf)
    (name : List Char) {rounds offset : Nat} (hrounds : table.symbolSize ≤ offset + rounds)
    (hoffset : offset + table.entrySize < 2 ^ 64) :
    Returns (symbolLoop elf table name rounds offset) fun _ => True := by
  have hbound : elf.stop ≤ 2 ^ 34 := hheader.2
  obtain ⟨hentry, hsymbols, hstrings⟩ := htable
  induction rounds generalizing offset with
  | zero =>
    rw [symbolLoop, Nat.mod_eq_of_lt hoffset, if_neg (by omega)]
    simp
  | succ rounds ih =>
    rw [symbolLoop, Nat.mod_eq_of_lt hoffset]
    split
    · simp only [returns_bind_iff]
      refine returns_little (by omega) (by omega) ?_
      refine (returns_boundedStringEquals hstrings.1 hstrings.2 _ _).mono fun found _ => ?_
      split
      · rw [returns_bind_iff]
        exact returns_little (by omega) (by omega) (by simp)
      · exact ih (by omega) (by omega)
    · simp

theorem visitSection_returns {sections : ElfTable} (hheader : HasHeader elf)
    (hvalid : sections.valid elf 64 = true) (name : List Char) {index : Nat}
    (hindex : index < sections.count) (state : Unit) :
    Returns (visitSection elf sections name index state) fun _ => True := by
  obtain ⟨hstart, hstop⟩ := ElfTable.entry_bounds hheader hvalid hindex
  have hfile := hheader.1
  unfold visitSection
  simp only [returns_bind_iff]
  refine returns_little (by omega) (by omega) ?_
  split
  · simp
  simp only [returns_bind_iff]
  refine returns_little (by omega) (by omega) (returns_little (by omega) (by omega)
    (returns_little (by omega) (by omega) (returns_little (by omega) (by omega) ?_)))
  split
  · simp
  case isFalse hsymbols =>
  simp only [not_or, not_le, not_lt, not_not, validSpan_iff] at hsymbols
  obtain ⟨hstring, hentry, hsymbols⟩ := hsymbols
  obtain ⟨hstringStart, hstringStop⟩ := ElfTable.entry_bounds hheader hvalid hstring
  simp only [returns_bind_iff]
  refine returns_little (by omega) (by omega) (returns_little (by omega) (by omega) ?_)
  split
  · simp
  case isFalse hstrings =>
  rw [not_not, validSpan_iff] at hstrings
  have hsize : littleAt elf.bytes 8 (sections.entry elf index + 56) < 2 ^ 64 :=
    lt_of_lt_of_eq (littleAt_lt _ _ _) (by norm_num)
  rw [returns_bind_iff]
  refine Returns.mono (P := fun _ => True) ?_ fun _ _ => by simp
  apply symbolLoop_returns hheader
  · constructor
    · exact ⟨hentry, hsize⟩
    · dsimp only
      omega
    · dsimp only
      omega
  · exact (Nat.zero_add _).ge
  · rwa [Nat.zero_add]

theorem findElfSymbol_returns (hheader : HasHeader elf) (name : List Char) :
    Returns (findElfSymbol elf name) fun _ => True := by
  unfold findElfSymbol sectionTable
  refine (readTable_returns hheader (by decide) (by decide)).bind fun sections _ => ?_
  split
  · simp
  case isFalse hvalid =>
  rw [not_not] at hvalid
  refine Returns.bind (P := fun _ => True) ?_ fun found _ => by cases found <;> simp
  refine returns_scan (I := fun _ _ => True) ?_ (fun _ _ => trivial) trivial
  intro visited index rest state hitems _
  have hindex : index < sections.count := mem_range.mp (hitems ▸ by simp)
  exact (visitSection_returns hheader hvalid name hindex state).mono
    fun result _ => by cases result <;> trivial

theorem describeImage_returns (hheader : HasHeader elf) (imageAddress imagePages : Nat) :
    Returns (describeImage elf imageAddress imagePages) fun info =>
      ∀ image, info = some image → image.initImageSize = imagePages := by
  have hfile := hheader.1
  unfold describeImage
  refine (findElfSymbol_returns hheader _).bind fun initInfo _ => ?_
  cases initInfo with
  | none => simp
  | some initInfo =>
    refine (findElfSymbol_returns hheader _).bind fun initIpcBuffer _ => ?_
    cases initIpcBuffer with
    | none => simp
    | some initIpcBuffer =>
      rw [returns_bind_iff]
      refine returns_little (by omega) (by omega) ?_
      simp

/-! ## The two passes -/

section

variable {bytes : Nat → BitVec 8} {start address : Nat} {loaded : List Segment} {segment : Segment}

theorem imageByte_append_none (h : ¬ segment.Covers address) :
    imageByte bytes start (loaded ++ [segment]) address = imageByte bytes start loaded address := by
  simp [imageByte, h]

theorem imageByte_append_some (h : segment.Covers address) :
    imageByte bytes start (loaded ++ [segment]) address =
      bytes (start + segment.fileOffset + (address - segment.physical)) := by
  simp [imageByte, h]

end

def Fits (elf : Window) (programs : ElfTable) (imageEnd index : Nat) : Prop :=
  let program := programs.entry elf index
  littleAt elf.bytes 4 program = 1 →
    littleAt elf.bytes 8 (program + 24) + littleAt elf.bytes 8 (program + 40) ≤ imageEnd

variable {programs : ElfTable}

theorem measurePrograms_returns (hheader : HasHeader elf) (hvalid : programs.valid elf 56 = true) :
    Returns (scan (measureProgram elf programs) (range programs.count) 0) fun result =>
      ∀ imageEnd, result = .ok imageEnd → imageEnd ≤ initImageCapacity ∧
        ∀ index < programs.count, Fits elf programs imageEnd index := by
  refine returns_scan (I := fun visited imageEnd => imageEnd ≤ initImageCapacity ∧
    ∀ index ∈ visited, Fits elf programs imageEnd index) ?_ ?_ (by simp)
  · rintro visited index rest imageEnd hitems ⟨hend, hvisited⟩
    have hindex : index < programs.count := mem_range.mp (hitems ▸ by simp)
    obtain ⟨hstart, hstop⟩ := ElfTable.entry_bounds hheader hvalid hindex
    unfold measureProgram
    simp only [returns_bind_iff]
    refine returns_little (by omega) (by omega) ?_
    split
    case isTrue htype =>
      refine returns_pure_iff.mpr ⟨hend, fun other hother => ?_⟩
      rcases mem_append.mp hother with hother | hother
      · exact hvisited other hother
      · exact fun hload => absurd (mem_singleton.mp hother ▸ hload) htype
    case isFalse htype =>
    simp only [returns_bind_iff]
    refine returns_little (by omega) (by omega) (returns_little (by omega) (by omega) ?_)
    split
    · simp
    case isFalse hfits =>
    refine returns_pure_iff.mpr ⟨by omega, fun other hother => ?_⟩
    rcases mem_append.mp hother with hother | hother
    · exact fun hload => (hvisited other hother hload).trans (le_max_left _ _)
    · obtain rfl := mem_singleton.mp hother
      exact fun _ => le_max_right _ _
  · rintro imageEnd ⟨hend, hfits⟩ _ ⟨⟩
    exact ⟨hend, fun index hindex => hfits index (mem_range.mpr hindex)⟩

def loadedSegments (elf : Window) (programs : ElfTable) (visited : List Nat) : List Segment :=
  visited.filterMap fun index => segmentAt elf.bytes (programs.entry elf index)

theorem loadedSegments_append (visited : List Nat) (index : Nat) :
    loadedSegments elf programs (visited ++ [index]) = loadedSegments elf programs visited ++
      (segmentAt elf.bytes (programs.entry elf index)).toList := by
  unfold loadedSegments
  rw [filterMap_append]
  congr 1

def Loaded (elf : Window) (segments : List Segment) (size : Nat) (image : InitImage) : Prop :=
  ∀ address < size, image address = imageByte elf.bytes elf.start segments address

theorem Loaded.copy {loaded : List Segment} {imageAddress : Nat} {image : InitImage}
    (h : Loaded elf loaded size image) (segment : Segment)
    (hread : elf.start + segment.fileOffset + segment.fileSize ≤ elf.stop)
    (hwrite : segment.physical + segment.fileSize ≤ initImageCapacity) :
    Returns (copyBytes elf imageAddress segment.physical (elf.start + segment.fileOffset)
      segment.fileSize image) (Loaded elf (loaded ++ [segment]) size) := by
  refine (copyBytes_returns (Nat.le_add_right _ _) hread hwrite _ _).mono
    fun image' himage' address haddress => ?_
  rw [himage' address]
  split
  case isTrue hcovers => exact (imageByte_append_some hcovers).symm
  case isFalse hcovers => rw [imageByte_append_none hcovers, h address haddress]

theorem loadPrograms_returns (hheader : HasHeader elf) (hvalid : programs.valid elf 56 = true)
    {imageEnd : Nat} (hend : imageEnd ≤ initImageCapacity)
    (hfits : ∀ index < programs.count, Fits elf programs imageEnd index) (imageAddress : Nat)
    {image : InitImage} (hcleared : ∀ address < size, image address = 0) :
    Returns (scan (loadProgram elf imageAddress programs) (range programs.count) image)
      fun result => ∀ image', result = .ok image' →
        Loaded elf (loadedSegments elf programs (range programs.count)) size image' := by
  refine returns_scan (I := fun visited image => Loaded elf (loadedSegments elf programs visited) size
    image) ?_ (by rintro image hloaded _ ⟨⟩; exact hloaded) hcleared
  intro visited index rest image hitems hloaded
  have hindex : index < programs.count := mem_range.mp (hitems ▸ by simp)
  obtain ⟨hstart, hstop⟩ := ElfTable.entry_bounds hheader hvalid hindex
  unfold loadProgram
  simp only [returns_bind_iff]
  refine returns_little (by omega) (by omega) ?_
  split
  case isTrue htype =>
    refine returns_pure_iff.mpr ?_
    rw [loadedSegments_append, segmentAt, if_neg htype]
    simpa using hloaded
  case isFalse htype =>
  rw [not_not] at htype
  simp only [returns_bind_iff]
  refine returns_little (by omega) (by omega) (returns_little (by omega) (by omega)
    (returns_little (by omega) (by omega) (returns_little (by omega) (by omega) ?_)))
  split
  · simp
  case isFalse hspan =>
  simp only [not_or, not_lt, not_not, validSpan_iff] at hspan
  have hfit := hfits index hindex htype
  have hfile := hheader.1
  rw [returns_bind_iff]
  refine (hloaded.copy ⟨littleAt elf.bytes 8 (programs.entry elf index + 8),
    littleAt elf.bytes 8 (programs.entry elf index + 24),
    littleAt elf.bytes 8 (programs.entry elf index + 32)⟩ ?_ ?_).mono fun image' himage' => ?_
  · dsimp only
    omega
  · dsimp only
    omega
  · refine returns_pure_iff.mpr ?_
    rw [loadedSegments_append, segmentAt, if_pos htype]
    exact himage'

theorem alignUp_pages {imageEnd : Nat} (hend : imageEnd ≤ initImageCapacity) :
    alignUp imageEnd / pageSize * pageSize ≤ initImageCapacity := by
  unfold initImageCapacity at *
  unfold alignUp alignDown pageSize
  rw [Nat.mod_eq_of_lt (by omega)]
  omega

theorem loadSegments_returns (hheader : HasHeader elf) (imageAddress : Nat) (image : InitImage) :
    Returns (loadSegments elf imageAddress image) fun result => ∀ imagePages,
      result.2 = some imagePages → imagePages * pageSize ≤ initImageCapacity ∧
        Loaded elf (segments elf.bytes elf.start) (imagePages * pageSize) result.1 := by
  unfold loadSegments programTable
  refine (readTable_returns hheader (by decide) (by decide)).bind fun programs hprograms => ?_
  split
  · simp
  case isFalse hvalid =>
  rw [not_not] at hvalid
  refine (measurePrograms_returns hheader hvalid).bind fun result hresult => ?_
  cases result with
  | error _ => simp
  | ok imageEnd =>
    obtain ⟨hend, hfits⟩ := hresult imageEnd rfl
    have hpages := alignUp_pages hend
    dsimp only
    split
    · simp
    refine (clearBytes_returns hpages image).bind fun image hcleared => ?_
    refine (loadPrograms_returns hheader hvalid hend hfits imageAddress hcleared).bind
      fun result hresult => ?_
    cases result with
    | error image => simp
    | ok image =>
      refine returns_pure_iff.mpr ?_
      rintro _ ⟨⟩
      refine ⟨hpages, ?_⟩
      have hloaded := hresult image rfl
      subst hprograms
      exact hloaded

/-- Whatever the bytes of the file are, loading ends, reads the file only and writes the image buffer
only. Where it succeeds, each byte of the image is that of the last LOAD segment that covers it. -/
theorem loadInitElf_loads (memory : Nat → BitVec 8) (imageAddress initrdStart initrdEnd : Nat)
    (image : InitImage) :
    Returns (loadInitElf memory imageAddress initrdStart initrdEnd image) fun result =>
      ∀ info, result.2 = some info → info.initImageSize * pageSize ≤ initImageCapacity ∧
        ∀ address < info.initImageSize * pageSize, result.1 address =
          imageByte memory initrdStart (segments memory initrdStart) address := by
  unfold loadInitElf
  split
  · simp
  case isFalse hbounds =>
  refine (validElf_returns (by dsimp only; omega)).bind fun valid hvalid => ?_
  split
  case isFalse => simp
  case isTrue htrue =>
  refine (loadSegments_returns (hvalid htrue) imageAddress image).bind fun result hresult => ?_
  obtain ⟨image, _ | imagePages⟩ := result
  · simp
  · refine (describeImage_returns (hvalid htrue) imageAddress imagePages).bind fun info hinfo => ?_
    refine returns_pure_iff.mpr fun described hdescribed => ?_
    rw [hinfo described hdescribed]
    exact hresult imagePages rfl

end A9N.Hal.Aarch64Boot.InitElf
