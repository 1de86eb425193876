import A9N.Framework.Outcome
import A9N.Framework.Word

/-!
# Page tables of x86_64

`hal/x86_64/memory`: the page-table entry, the walk to an entry, and the operations that link and
unlink page tables and frames. Memory is read in pages of 512 words.
-/

namespace A9N.Hal.X86

inductive MemoryMapError
  | illegalDepth | illegalAuthority | invalidPageTable | invalidFrame | alreadyMapped
  | noSuchPageTable
deriving DecidableEq, Repr

abbrev Memory := Word → Nat → Word

def Memory.write (memory : Memory) (page : Word) (index : Nat) (value : Word) : Memory :=
  Function.update memory page (Function.update (memory page) index value)

structure PageTable where
  address : Word
  depth : Nat
deriving DecidableEq, Repr

structure Frame where
  address : Word
  sizeBits : Word
deriving DecidableEq, Repr

def pml4 : Nat := 4

/-! ### Entries -/

def addressMask : Word := 0x000ffffffffff000

def present (entry : Word) : Bool := entry.getLsbD 0

def pageSize (entry : Word) : Bool := entry.getLsbD 7

def getPhysicalAddress (entry : Word) : Word := entry &&& addressMask

def leafFlags (isWritable isExecutable : Bool) : Word :=
  1 ||| (if isWritable then 2 else 0) ||| 4 ||| (if isExecutable then 0 else 0x8000000000000000)

def isWritable (rights : Word) : Bool := rights &&& 2 != 0

def isExecutable (rights : Word) : Bool := rights &&& 4 != 0

/-- Rights in the low bits, a cache attribute of at most `UNCACHED` above them. -/
def isValidMappingAttribute (rights : Word) : Bool :=
  rights &&& ~~~0xf7 == 0 && decide ((rights &&& 0xf0) >>> 4 ≤ 2)

def mappingCacheFlags (rights : Word) : Word :=
  if (rights &&& 0xf0) >>> 4 = 1 then 0x8
  else if (rights &&& 0xf0) >>> 4 = 2 then 0x18
  else 0

def tableEntry (address rights : Word) : Word :=
  (address &&& addressMask) ||| leafFlags (isWritable rights) (isExecutable rights)

def frameEntry (address : Word) (leafDepth : Nat) (rights : Word) : Word :=
  (address &&& addressMask) ||| (leafFlags (isWritable rights) (isExecutable rights) |||
    (if leafDepth ≠ 1 then 0x80 else 0) ||| mappingCacheFlags rights)

/-! ### Walks -/

def calculatePageTableIndex (address : Word) (depth : Nat) : Nat :=
  (address >>> (12 + 9 * (depth - 1)) &&& 0x1ff).toNat

def convertLeafSizeBitsToInternalDepth (sizeBits : Word) : Option Nat :=
  if sizeBits = 12 then some 1 else if sizeBits = 21 then some 2
  else if sizeBits = 30 then some 3 else none

def validateRootAddressSpace (root : PageTable) : Except MemoryMapError Unit :=
  if root.depth ≠ pml4 then .error .illegalDepth
  else if root.address = 0 then .error .invalidPageTable
  else .ok ()

/-- The loop of `traverse_page_table_entry`, at `current` above the wanted depth. -/
def traverseLoop (memory : Memory) (address : Word) (depth : Nat) :
    Nat → Word → List Word → Outcome MemoryMapError (List Word) Word
  | 0, table, touched => .ok table (table :: touched)
  | current + 1, table, touched =>
    if current + 1 ≤ depth then .ok table (table :: touched)
    else
      let entry := memory table (calculatePageTableIndex address (current + 1))
      if ¬ present entry then .error .noSuchPageTable (table :: touched)
      else if getPhysicalAddress entry = 0 then .error .noSuchPageTable (table :: touched)
      else traverseLoop memory address depth current (getPhysicalAddress entry) (table :: touched)

def traversePageTableEntry (memory : Memory) (root : PageTable) (address : Word) (depth : Nat) :
    Outcome MemoryMapError (List Word) Word :=
  match validateRootAddressSpace root with
  | .error e => .error e []
  | .ok _ =>
    if pml4 < depth ∨ depth < 1 then .error .illegalDepth []
    else traverseLoop memory address depth pml4 root.address []

/-- The loop of `search_unset_page_table_depth`. -/
def searchLoop (memory : Memory) (address : Word) (depth : Nat) :
    Nat → Word → Except MemoryMapError Nat
  | 0, _ => .ok 0
  | current + 1, table =>
    if current + 1 ≤ depth then .ok 0
    else
      let entry := memory table (calculatePageTableIndex address (current + 1))
      if ¬ present entry then .ok current
      else if pageSize entry then .error .alreadyMapped
      else if getPhysicalAddress entry = 0 then .error .noSuchPageTable
      else searchLoop memory address depth current (getPhysicalAddress entry)

def searchUnsetPageTableDepth (memory : Memory) (root : PageTable) (address sizeBits : Word) :
    Except MemoryMapError Nat :=
  match validateRootAddressSpace root with
  | .error e => .error e
  | .ok _ =>
    match convertLeafSizeBitsToInternalDepth sizeBits with
    | none => .error .illegalDepth
    | some depth => searchLoop memory address depth pml4 root.address

/-! ### Operations -/

def updateEntry (memory : Memory) (address : Word) (depth : Nat) (table : Word)
    (f : Word → Except MemoryMapError Word) (touched : List Word) :
    Outcome MemoryMapError (List Word) Memory :=
  let index := calculatePageTableIndex address depth
  match f (memory table index) with
  | .error e => .error e touched
  | .ok entry => .ok (memory.write table index entry) touched

def mapPageTable (memory : Memory) (root table : PageTable) (address rights : Word) :
    Outcome MemoryMapError (List Word) Memory :=
  match validateRootAddressSpace root with
  | .error e => .error e []
  | .ok _ =>
    if table.address = 0 then .error .invalidPageTable []
    else if table.depth ≤ 0 then .error .illegalDepth []
    else if root.depth + 1 ≤ table.depth then .error .illegalDepth []
    else
      (traversePageTableEntry memory root address (table.depth + 1)).andThen fun parent =>
        updateEntry memory address (table.depth + 1) parent fun entry =>
          if present entry then .error .alreadyMapped else .ok (tableEntry table.address rights)

def clearEntry (entry : Word) : Except MemoryMapError Word :=
  .ok (if present entry then 0 else entry)

def unmapPageTable (memory : Memory) (root table : PageTable) (address : Word) :
    Outcome MemoryMapError (List Word) Memory :=
  if table.address = 0 then .error .invalidPageTable []
  else
    (traversePageTableEntry memory root address (table.depth + 1)).andThen fun parent =>
      updateEntry memory address (table.depth + 1) parent clearEntry

def mapFrame (memory : Memory) (root : PageTable) (frame : Frame) (address rights : Word) :
    Outcome MemoryMapError (List Word) Memory :=
  match convertLeafSizeBitsToInternalDepth frame.sizeBits with
  | none => .error .illegalDepth []
  | some leafDepth =>
    if ¬ isValidMappingAttribute rights then .error .invalidFrame []
    else
      (traversePageTableEntry memory root address leafDepth).andThen fun table =>
        updateEntry memory address leafDepth table fun entry =>
          if present entry then .error .alreadyMapped
          else
            let mask := shiftLeft 1 frame.sizeBits - 1
            if frame.address &&& mask ≠ 0 ∨ address &&& mask ≠ 0 then .error .illegalDepth
            else .ok (frameEntry frame.address leafDepth rights)

def unmapFrame (memory : Memory) (root : PageTable) (frame : Frame) (address : Word) :
    Outcome MemoryMapError (List Word) Memory :=
  match convertLeafSizeBitsToInternalDepth frame.sizeBits with
  | none => .error .illegalDepth []
  | some leafDepth =>
    (traversePageTableEntry memory root address leafDepth).andThen fun table =>
      updateEntry memory address leafDepth table clearEntry

def isValidUserAddress (address : Word) : Bool := decide (address < 0x00007fffffffffff)

/-! ### Lemmas on entries -/

private theorem getLsbD_masked {bit : Nat} (address flags : Word)
    (hmask : addressMask.getLsbD bit = false) :
    ((address &&& addressMask) ||| flags).getLsbD bit = flags.getLsbD bit := by
  rw [BitVec.getLsbD_or, BitVec.getLsbD_and, hmask, Bool.and_false, Bool.false_or]

theorem getPhysicalAddress_tableEntry (address rights : Word) :
    getPhysicalAddress (tableEntry address rights) = address &&& addressMask := by
  have hflags : leafFlags (isWritable rights) (isExecutable rights) &&& addressMask = 0 := by
    cases isWritable rights <;> cases isExecutable rights <;> decide
  unfold getPhysicalAddress tableEntry
  rw [or_and_distrib_right, hflags, BitVec.and_assoc, BitVec.and_self]
  simp

theorem pageSize_frameEntry (address : Word) {leafDepth : Nat} (hdepth : leafDepth ≠ 1)
    (rights : Word) : pageSize (frameEntry address leafDepth rights) = true := by
  unfold pageSize frameEntry
  rw [getLsbD_masked _ _ (by decide), if_pos hdepth, BitVec.getLsbD_or, BitVec.getLsbD_or]
  simp

theorem present_zero : present 0 = false := by decide

end A9N.Hal.X86
