import A9N.Hal.Context
import A9N.Hal.X86Walk

/-!
# Page tables of aarch64

`hal/aarch64/memory`. The walk tests the table bit of every entry on its way, so that it stops at a
block, and the tables it reaches are linked Page Tables in every state.
-/

namespace A9N.Hal.Aarch64

open X86 (Memory PageTable Frame MemoryMapError Objects UserIndex calculatePageTableIndex
  convertLeafSizeBitsToInternalDepth isValidMappingAttribute isWritable isExecutable write_apply WritesEntry)

def l0 : Nat := 4

/-! ### Entries -/

def descriptorValid (entry : Word) : Bool := entry.getLsbD 0

def descriptorTablePage (entry : Word) : Bool := entry.getLsbD 1

def isPageAligned (address : Word) : Bool := address &&& 0xfff == 0

def tableEntry (address : Word) : Word := (address &&& descriptorAddressMask) ||| 3

/-- `BUFFERED` and `UNCACHED` select their memory attribute, `NORMAL` is 0. -/
def memoryAttribute (rights : Word) : Word :=
  if (rights &&& 0xf0) >>> 4 = 1 then 0x8
  else if (rights &&& 0xf0) >>> 4 = 2 then 0x4
  else 0

def frameFlags (leafDepth : Nat) (rights : Word) : Word :=
  1 ||| 0x400 ||| 0x300 ||| memoryAttribute rights ||| 0x40 ||| 0x20000000000000 |||
    (if leafDepth = 1 then 2 else 0) ||| (if isWritable rights then 0 else 0x80) |||
    (if isExecutable rights then 0 else 0x40000000000000)

def frameEntry (address : Word) (leafDepth : Nat) (rights : Word) : Word :=
  (address &&& descriptorAddressMask) ||| frameFlags leafDepth rights

/-! ### Walks -/

def validateRootAddressSpace (root : PageTable) : Except MemoryMapError Unit :=
  if root.depth ≠ l0 then .error .illegalDepth
  else if root.address = 0 ∨ ¬ isPageAligned root.address then .error .invalidPageTable
  else .ok ()

/-- The loop of `traverse_page_table_entry`, at `current` above the wanted depth. -/
def traverseLoop (memory : Memory) (address : Word) (depth : Nat) :
    Nat → Word → Except MemoryMapError Word
  | 0, table => .ok table
  | current + 1, table =>
    if current + 1 ≤ depth then .ok table
    else
      let entry := memory table (calculatePageTableIndex address (current + 1))
      if ¬ descriptorValid entry ∨ ¬ descriptorTablePage entry then .error .noSuchPageTable
      else if entry &&& descriptorAddressMask = 0 then .error .noSuchPageTable
      else traverseLoop memory address depth current (entry &&& descriptorAddressMask)

def traversePageTableEntry (memory : Memory) (root : PageTable) (address : Word) (depth : Nat) :
    Except MemoryMapError Word :=
  match validateRootAddressSpace root with
  | .error e => .error e
  | .ok _ =>
    if depth < 1 ∨ l0 < depth then .error .illegalDepth
    else traverseLoop memory address depth l0 root.address

/-! ### Operations -/

def updateEntry (memory : Memory) (root : PageTable) (address : Word) (depth : Nat)
    (f : Word → Except MemoryMapError Word) : Except MemoryMapError Memory :=
  match traversePageTableEntry memory root address depth with
  | .error e => .error e
  | .ok table =>
    let index := calculatePageTableIndex address depth
    match f (memory table index) with
    | .error e => .error e
    | .ok entry => .ok (memory.write table index entry)

def setEntry (value entry : Word) : Except MemoryMapError Word :=
  if descriptorValid entry then .error .alreadyMapped else .ok value

def mapPageTable (memory : Memory) (root table : PageTable) (address : Word) :
    Except MemoryMapError Memory :=
  if table.address = 0 ∨ ¬ isPageAligned table.address then .error .invalidPageTable
  else if table.depth < 1 ∨ root.depth ≤ table.depth then .error .illegalDepth
  else updateEntry memory root address (table.depth + 1) (setEntry (tableEntry table.address))

def unmapPageTable (memory : Memory) (root table : PageTable) (address : Word) :
    Except MemoryMapError Memory :=
  if table.address = 0 then .error .invalidPageTable
  else updateEntry memory root address (table.depth + 1) fun _ => .ok 0

def mapFrame (memory : Memory) (root : PageTable) (frame : Frame) (address rights : Word) :
    Except MemoryMapError Memory :=
  if ¬ isValidMappingAttribute rights then .error .invalidFrame
  else
    match convertLeafSizeBitsToInternalDepth frame.sizeBits with
    | none => .error .illegalDepth
    | some leafDepth =>
      let mask := shiftLeft 1 frame.sizeBits - 1
      if frame.address &&& mask ≠ 0 ∨ address &&& mask ≠ 0 then .error .illegalDepth
      else updateEntry memory root address leafDepth
        (setEntry (frameEntry frame.address leafDepth rights))

def unmapFrame (memory : Memory) (root : PageTable) (frame : Frame) (address : Word) :
    Except MemoryMapError Memory :=
  match convertLeafSizeBitsToInternalDepth frame.sizeBits with
  | none => .error .illegalDepth
  | some leafDepth => updateEntry memory root address leafDepth fun _ => .ok 0

def isValidUserAddress (address : Word) : Bool := decide (address < 0x0000800000000000)

inductive Operation
  | mapPageTable (root table : PageTable) (address : Word)
  | unmapPageTable (root table : PageTable) (address : Word)
  | mapFrame (root : PageTable) (frame : Frame) (address rights : Word)
  | unmapFrame (root : PageTable) (frame : Frame) (address : Word)

namespace Operation

def run (memory : Memory) : Operation → Except MemoryMapError Memory
  | .mapPageTable root table address => Aarch64.mapPageTable memory root table address
  | .unmapPageTable root table address => Aarch64.unmapPageTable memory root table address
  | .mapFrame root frame address rights => Aarch64.mapFrame memory root frame address rights
  | .unmapFrame root frame address => Aarch64.unmapFrame memory root frame address

def root : Operation → PageTable
  | .mapPageTable root _ _ | .unmapPageTable root _ _ | .mapFrame root _ _ _
  | .unmapFrame root _ _ => root

def address : Operation → Word
  | .mapPageTable _ _ address | .unmapPageTable _ _ address | .mapFrame _ _ address _
  | .unmapFrame _ _ address => address

/-- The capabilities and the address that the operation is invoked with. -/
def Invocable (objects : Objects) (operation : Operation) : Prop :=
  objects.root operation.root.address ∧ isValidUserAddress operation.address = true ∧
    match operation with
    | .mapPageTable _ table _ | .unmapPageTable _ table _ =>
      objects.pageTable table.address table.depth ∧
        table.address &&& descriptorAddressMask = table.address
    | .mapFrame _ frame _ _ | .unmapFrame _ frame _ => objects.frame frame

end Operation

/-! ### Tables lead to tables -/

def Typed (objects : Objects) (memory : Memory) : Prop :=
  ∀ page depth index, objects.TableAt page (depth + 1) → 0 < depth → UserIndex (depth + 1) index →
    descriptorValid (memory page index) = true → descriptorTablePage (memory page index) = true →
    objects.pageTable (memory page index &&& descriptorAddressMask) depth

variable {objects : Objects} {memory : Memory} {address : Word} {root : PageTable}

theorem userIndex_calculatePageTableIndex (hvalid : isValidUserAddress address = true)
    (depth : Nat) : UserIndex depth (calculatePageTableIndex address depth) := by
  intro hdepth
  have hlt : address.toNat < 0x0000800000000000 := by
    simpa [isValidUserAddress, BitVec.lt_def] using hvalid
  unfold calculatePageTableIndex
  rw [hdepth, BitVec.toNat_and, BitVec.toNat_ushiftRight, Nat.shiftRight_eq_div_pow]
  apply lt_of_le_of_lt Nat.and_le_left
  change address.toNat / 2 ^ 39 < 256
  omega

theorem traverseLoop_tableAt {depth : Nat} {table : Word} (htyped : Typed objects memory)
    (hvalid : isValidUserAddress address = true) (hdepth : 0 < depth) :
    ∀ (current : Nat) (start : Word), depth ≤ current → objects.TableAt start current →
      traverseLoop memory address depth current start = .ok table → objects.TableAt table depth := by
  intro current
  induction current with
  | zero =>
    intro start hle
    omega
  | succ current ih =>
    intro start hle hstart
    unfold traverseLoop
    by_cases hend : current + 1 ≤ depth
    · rw [if_pos hend]
      rintro ⟨⟩
      rwa [show depth = current + 1 by omega]
    · rw [if_neg hend]
      dsimp only
      split
      · rintro ⟨⟩
      next hentry =>
        split
        · rintro ⟨⟩
        · rw [not_or, not_not, not_not] at hentry
          apply ih _ (by omega)
          exact .inr (htyped start current _ hstart (by omega)
            (userIndex_calculatePageTableIndex hvalid (current + 1)) hentry.1 hentry.2)

theorem traversePageTableEntry_tableAt {depth : Nat} {table : Word} (htyped : Typed objects memory)
    (hroot : objects.root root.address) (hvalid : isValidUserAddress address = true)
    (hwalk : traversePageTableEntry memory root address depth = .ok table) :
    objects.TableAt table depth := by
  unfold traversePageTableEntry at hwalk
  split at hwalk
  · cases hwalk
  · split at hwalk
    · cases hwalk
    next hdepth =>
      exact traverseLoop_tableAt htyped hvalid (by omega) l0 root.address (by omega)
        (.inl ⟨hroot, rfl⟩) hwalk

/-! ### What an operation writes -/

theorem Typed.write (h : Typed objects memory) {page : Word} {index : Nat} {value : Word}
    (hvalue : ∀ depth, objects.TableAt page (depth + 1) → 0 < depth →
      descriptorValid value = true → descriptorTablePage value = true →
      objects.pageTable (value &&& descriptorAddressMask) depth) :
    Typed objects (memory.write page index value) := by
  intro other depth i htable hdepth hindex
  rw [write_apply]
  split
  next heq =>
    obtain ⟨rfl, rfl⟩ := heq
    exact hvalue depth htable hdepth
  · exact h other depth i htable hdepth hindex

theorem updateEntry_spec {depth : Nat} {f : Word → Except MemoryMapError Word} {memory' : Memory}
    (htyped : Typed objects memory) (hroot : objects.root root.address)
    (hvalid : isValidUserAddress address = true)
    (hentry : ∀ entry entry', f entry = .ok entry' → ∀ below, depth = below + 1 → 0 < below →
      descriptorValid entry' = true → descriptorTablePage entry' = true →
      objects.pageTable (entry' &&& descriptorAddressMask) below)
    (hok : updateEntry memory root address depth f = .ok memory') :
    Typed objects memory' ∧ WritesEntry objects address memory memory' := by
  unfold updateEntry at hok
  split at hok
  · cases hok
  next table hwalk =>
    have htable := traversePageTableEntry_tableAt htyped hroot hvalid hwalk
    dsimp only at hok
    split at hok
    · cases hok
    next entry' hf =>
      cases hok
      refine ⟨htyped.write fun below hbelow => ?_, table, depth, entry', htable, rfl⟩
      exact hentry _ _ hf below (htable.unique hbelow)

theorem setEntry_ok {value entry entry' : Word} (h : setEntry value entry = .ok entry') :
    entry' = value := by
  unfold setEntry at h
  split at h
  · cases h
  · cases h
    rfl

theorem tableEntry_address (address : Word) :
    tableEntry address &&& descriptorAddressMask = address &&& descriptorAddressMask := by
  have hflags : (3 : Word) &&& descriptorAddressMask = 0 := by decide
  unfold tableEntry
  rw [or_and_distrib_right, hflags, BitVec.and_assoc, BitVec.and_self]
  simp

theorem descriptorTablePage_frameEntry (address : Word) {leafDepth : Nat} (hdepth : leafDepth ≠ 1)
    (rights : Word) : descriptorTablePage (frameEntry address leafDepth rights) = false := by
  have hmask : descriptorAddressMask.getLsbD 1 = false := by decide
  have hattribute : (memoryAttribute rights).getLsbD 1 = false := by
    unfold memoryAttribute
    split_ifs <;> decide
  unfold descriptorTablePage frameEntry frameFlags
  simp only [BitVec.getLsbD_or, BitVec.getLsbD_and, hmask, hattribute, if_neg hdepth, Bool.and_false,
    Bool.false_or]
  cases isWritable rights <;> cases isExecutable rights <;> decide

theorem Operation.run_spec {operation : Operation} {memory' : Memory}
    (htyped : Typed objects memory) (hinvoke : operation.Invocable objects)
    (hok : operation.run memory = .ok memory') :
    Typed objects memory' ∧ WritesEntry objects operation.address memory memory' := by
  obtain ⟨hroot, hvalid, hobject⟩ := hinvoke
  have hzero : ∀ entry entry' : Word, (.ok 0 : Except MemoryMapError Word) = .ok entry' →
      ∀ below : Nat, descriptorValid entry' = true → descriptorTablePage entry' = true →
        objects.pageTable (entry' &&& descriptorAddressMask) below := by
    rintro entry _ ⟨⟩ below hbit
    exact absurd hbit (by decide)
  cases operation with
  | mapPageTable root table address =>
    dsimp only [Operation.run, Aarch64.mapPageTable] at hok
    split_ifs at hok
    refine updateEntry_spec htyped hroot hvalid (fun _ _ hset below hbelow _ _ _ => ?_) hok
    rw [setEntry_ok hset, tableEntry_address, hobject.2, ← Nat.succ_injective hbelow]
    exact hobject.1
  | unmapPageTable root table address =>
    dsimp only [Operation.run, Aarch64.unmapPageTable] at hok
    split_ifs at hok
    exact updateEntry_spec htyped hroot hvalid
      (fun entry entry' hset below _ _ => hzero entry entry' hset below) hok
  | mapFrame root frame address rights =>
    dsimp only [Operation.run, Aarch64.mapFrame] at hok
    split at hok
    · cases hok
    split at hok
    · cases hok
    next leafDepth _ =>
      split at hok
      · cases hok
      refine updateEntry_spec htyped hroot hvalid (fun _ _ hset below hbelow hpos _ hbit => ?_) hok
      rw [setEntry_ok hset, descriptorTablePage_frameEntry _ (by omega)] at hbit
      cases hbit
  | unmapFrame root frame address =>
    dsimp only [Operation.run, Aarch64.unmapFrame] at hok
    split at hok
    · cases hok
    · exact updateEntry_spec htyped hroot hvalid
        (fun entry entry' hset below _ _ => hzero entry entry' hset below) hok

end A9N.Hal.Aarch64
