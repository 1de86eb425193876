import A9N.Hal.X86Paging

/-!
# Page walks stay inside page tables

Which tables the mapping operations of x86_64 touch. `search_unset_page_table_depth` stops at a
large leaf, `traverse_page_table_entry` does not: it reads the frame behind the leaf as a page
table.
-/

namespace A9N.Hal.X86

/-! ### Objects and linked tables -/

structure Objects where
  root : Word → Prop
  pageTable : Word → Nat → Prop
  frame : Frame → Prop
  table_canonical : ∀ {address depth}, pageTable address depth → address &&& addressMask = address
  table_depth : ∀ {address depth depth'}, pageTable address depth → pageTable address depth' →
    depth = depth'
  root_not_table : ∀ {address depth}, root address → ¬ pageTable address depth
  frame_not_table : ∀ {f page depth}, frame f → f.address ≤ page →
    page.toNat < f.address.toNat + 2 ^ f.sizeBits.toNat → ¬ pageTable page depth
  frame_not_root : ∀ {f page}, frame f → f.address ≤ page →
    page.toNat < f.address.toNat + 2 ^ f.sizeBits.toNat → ¬ root page

variable (objects : Objects)

def Objects.FramePage (page : Word) : Prop :=
  ∃ f, objects.frame f ∧ f.address ≤ page ∧
    page.toNat < f.address.toNat + 2 ^ f.sizeBits.toNat

def Objects.TableAt (page : Word) (depth : Nat) : Prop :=
  (objects.root page ∧ depth = pml4) ∨ objects.pageTable page depth

/-- The root, or a table that a present non-leaf entry of a linked table leads to. -/
inductive Linked (memory : Memory) (root : Word) : Word → Prop
  | root : Linked memory root root
  | entry {table : Word} (index : Nat) (htable : Linked memory root table)
      (hpresent : present (memory table index) = true)
      (hleaf : pageSize (memory table index) = false) :
      Linked memory root (getPhysicalAddress (memory table index))

def UserIndex (depth index : Nat) : Prop := depth = pml4 → index < 256

def Typed (memory : Memory) : Prop :=
  ∀ page depth index, objects.TableAt page (depth + 1) → 0 < depth → UserIndex (depth + 1) index →
    present (memory page index) = true → pageSize (memory page index) = false →
    objects.pageTable (getPhysicalAddress (memory page index)) depth

/-! ### One walk -/

/-- No table on the way from `table` at `current` down to `depth` has a large leaf for
`address`. -/
def NoLargeLeaf (memory : Memory) (address : Word) (depth : Nat) : Nat → Word → Prop
  | 0, _ => True
  | current + 1, table => current + 1 ≤ depth ∨
      let entry := memory table (calculatePageTableIndex address (current + 1))
      present entry = true → pageSize entry = false ∧
        NoLargeLeaf memory address depth current (getPhysicalAddress entry)

instance decidableNoLargeLeaf (memory : Memory) (address : Word) (depth : Nat) :
    ∀ current table, Decidable (NoLargeLeaf memory address depth current table)
  | 0, _ => .isTrue trivial
  | current + 1, _ =>
    have := decidableNoLargeLeaf memory address depth current
    inferInstanceAs (Decidable (current + 1 ≤ depth ∨ (_ → _ ∧ _)))

section Walk

variable {objects} {memory : Memory} {address : Word}

theorem userIndex_calculatePageTableIndex (hvalid : isValidUserAddress address = true)
    (depth : Nat) : UserIndex depth (calculatePageTableIndex address depth) := by
  intro hdepth
  have hlt : address.toNat < 0x00007fffffffffff := by
    simpa [isValidUserAddress, BitVec.lt_def] using hvalid
  unfold calculatePageTableIndex
  rw [hdepth, BitVec.toNat_and, BitVec.toNat_ushiftRight, Nat.shiftRight_eq_div_pow]
  apply lt_of_le_of_lt Nat.and_le_left
  change address.toNat / 2 ^ 39 < 256
  omega

def Touchable (objects : Objects) (memory : Memory) (root : Word) (table : Word) : Prop :=
  Linked memory root table ∧ ∃ depth, objects.TableAt table depth

theorem traverseLoop_touchable {root : Word} {depth : Nat} (htyped : Typed objects memory)
    (hvalid : isValidUserAddress address = true) (hdepth : 0 < depth) :
    ∀ (current : Nat) (table : Word) (touched : List Word), depth ≤ current →
      NoLargeLeaf memory address depth current table →
      Linked memory root table → objects.TableAt table current →
      (∀ t ∈ touched, Touchable objects memory root t) →
      (traverseLoop memory address depth current table touched).Post
        (fun table touched => objects.TableAt table depth ∧
          ∀ t ∈ touched, Touchable objects memory root t)
        (fun _ touched => ∀ t ∈ touched, Touchable objects memory root t) := by
  intro current
  induction current with
  | zero =>
    intro table touched hle
    omega
  | succ current ih =>
    intro table touched hle hclear hlinked htable htouched
    have hnow : ∀ t ∈ table :: touched, Touchable objects memory root t := by
      intro t ht
      rcases List.mem_cons.mp ht with rfl | ht
      · exact ⟨hlinked, _, htable⟩
      · exact htouched t ht
    rw [traverseLoop]
    split
    case isTrue hend =>
      have heq : current + 1 = depth := by omega
      exact ⟨heq ▸ htable, hnow⟩
    case isFalse hend =>
      dsimp only
      split
      case isTrue => exact hnow
      case isFalse hpresent =>
        rw [not_not] at hpresent
        obtain ⟨hleaf, hclear⟩ := (hclear.resolve_left hend) hpresent
        split
        case isTrue => exact hnow
        case isFalse =>
          have hnext := htyped table current _ htable (by omega)
            (userIndex_calculatePageTableIndex hvalid (current + 1)) hpresent hleaf
          exact ih _ _ (by omega) hclear (.entry _ hlinked hpresent hleaf) (.inr hnext) hnow

theorem searchLoop_eq_zero {depth : Nat} : ∀ (current : Nat) (table : Word) (touched : List Word),
      NoLargeLeaf memory address depth current table →
      (traverseLoop memory address depth current table touched).succeeded = true →
      searchLoop memory address depth current table = .ok 0 := by
  intro current
  induction current with
  | zero =>
    intro table touched _ _
    rfl
  | succ current ih =>
    intro table touched hclear hok
    rw [traverseLoop] at hok
    rw [searchLoop]
    split at hok
    case isTrue hend => rw [if_pos hend]
    case isFalse hend =>
      rw [if_neg hend]
      dsimp only at hok ⊢
      split at hok
      case isTrue => cases hok
      case isFalse hpresent =>
        rw [not_not] at hpresent
        obtain ⟨hleaf, hclear⟩ := (hclear.resolve_left hend) hpresent
        split at hok
        case isTrue => cases hok
        case isFalse haddress =>
          rw [if_neg (by simpa using hpresent), if_neg (by simp [hleaf]), if_neg haddress]
          exact ih _ _ hclear hok

theorem traversePageTableEntry_post {root : PageTable} {depth : Nat}
    (htyped : Typed objects memory) (hroot : objects.root root.address)
    (hvalid : isValidUserAddress address = true)
    (hclear : NoLargeLeaf memory address depth pml4 root.address) :
    (traversePageTableEntry memory root address depth).Post
      (fun table touched => objects.TableAt table depth ∧
        ∀ t ∈ touched, Touchable objects memory root.address t)
      (fun _ touched => ∀ t ∈ touched, Touchable objects memory root.address t) := by
  have hnil : ∀ t ∈ ([] : List Word), Touchable objects memory root.address t := by simp
  unfold traversePageTableEntry
  split
  case h_1 => exact hnil
  case h_2 =>
    split
    case isTrue => exact hnil
    case isFalse hdepth =>
      exact traverseLoop_touchable htyped hvalid (by omega) pml4 root.address [] (by omega) hclear
        .root (.inl ⟨hroot, rfl⟩) hnil

end Walk

/-! ### Operations and runs -/

inductive Operation
  | mapPageTable (root table : PageTable) (address rights : Word)
  | unmapPageTable (root table : PageTable) (address : Word)
  | mapFrame (root : PageTable) (frame : Frame) (address rights : Word)
  | unmapFrame (root : PageTable) (frame : Frame) (address : Word)

namespace Operation

def outcome (memory : Memory) : Operation → Outcome MemoryMapError (List Word) Memory
  | .mapPageTable root table address rights => X86.mapPageTable memory root table address rights
  | .unmapPageTable root table address => X86.unmapPageTable memory root table address
  | .mapFrame root frame address rights => X86.mapFrame memory root frame address rights
  | .unmapFrame root frame address => X86.unmapFrame memory root frame address

def run (memory : Memory) (operation : Operation) : Memory :=
  match (operation.outcome memory).result with
  | .ok memory' => memory'
  | .error _ => memory

def root : Operation → PageTable
  | .mapPageTable root _ _ _ | .unmapPageTable root _ _ | .mapFrame root _ _ _
  | .unmapFrame root _ _ => root

def address : Operation → Word
  | .mapPageTable _ _ address _ | .unmapPageTable _ _ address | .mapFrame _ _ address _
  | .unmapFrame _ _ address => address

def depth : Operation → Option Nat
  | .mapPageTable _ table _ _ | .unmapPageTable _ table _ => some (table.depth + 1)
  | .mapFrame _ frame _ _ | .unmapFrame _ frame _ =>
    convertLeafSizeBitsToInternalDepth frame.sizeBits

/-- The capabilities and the address that the operation is invoked with. -/
def Invocable (objects : Objects) (operation : Operation) : Prop :=
  objects.root operation.root.address ∧ isValidUserAddress operation.address = true ∧
    match operation with
    | .mapPageTable _ table _ _ | .unmapPageTable _ table _ =>
      objects.pageTable table.address table.depth
    | .mapFrame _ frame _ _ | .unmapFrame _ frame _ => objects.frame frame

/-- No large leaf lies on the walk above the entry that the operation works on. -/
def Clear (memory : Memory) (operation : Operation) : Prop :=
  ∀ depth, operation.depth = some depth →
    NoLargeLeaf memory operation.address depth pml4 operation.root.address

end Operation

/-- Mapping operations that satisfy `allowed`, and writes of user code to its frames. -/
inductive Step (objects : Objects) (allowed : Memory → Operation → Prop) : Memory → Memory → Prop
  | operation (memory : Memory) (operation : Operation) (h : operation.Invocable objects)
      (hallowed : allowed memory operation) : Step objects allowed memory (operation.run memory)
  | userWrite (memory : Memory) (page : Word) (index : Nat) (value : Word)
      (h : objects.FramePage page) : Step objects allowed memory (memory.write page index value)

/-- Tables start zeroed: a root as far as user mappings reach, a Page Table as a whole. -/
def Zeroed (objects : Objects) (memory : Memory) : Prop :=
  ∀ page depth index, objects.TableAt page depth → UserIndex depth index → memory page index = 0

variable {objects} {memory : Memory}

theorem Zeroed.typed (h : Zeroed objects memory) : Typed objects memory := by
  intro page depth index htable _ hindex hpresent
  rw [h page _ index htable hindex, present_zero] at hpresent
  cases hpresent

theorem Objects.TableAt.unique {page : Word} {depth depth' : Nat}
    (h : objects.TableAt page depth) (h' : objects.TableAt page depth') : depth = depth' := by
  rcases h with ⟨hroot, rfl⟩ | htable <;> rcases h' with ⟨hroot', rfl⟩ | htable'
  · rfl
  · exact absurd htable' (objects.root_not_table hroot)
  · exact absurd htable (objects.root_not_table hroot')
  · exact objects.table_depth htable htable'

theorem Objects.FramePage.not_tableAt {page : Word} (h : objects.FramePage page) (depth : Nat) :
    ¬ objects.TableAt page depth := by
  obtain ⟨f, hframe, hle, hlt⟩ := h
  rintro (⟨hroot, -⟩ | htable)
  · exact objects.frame_not_root hframe hle hlt hroot
  · exact objects.frame_not_table hframe hle hlt htable

theorem write_apply (memory : Memory) (page other : Word) (index i : Nat) (value : Word) :
    memory.write page index value other i =
      if other = page ∧ i = index then value else memory other i := by
  unfold Memory.write
  by_cases hpage : other = page
  · subst hpage
    by_cases hindex : i = index <;> simp [hindex]
  · simp [hpage]

theorem Typed.write (h : Typed objects memory) {page : Word} {index : Nat} {value : Word}
    (hvalue : ∀ depth, objects.TableAt page (depth + 1) → 0 < depth → present value = true →
      pageSize value = false → objects.pageTable (getPhysicalAddress value) depth) :
    Typed objects (memory.write page index value) := by
  intro other depth i htable hdepth hindex
  rw [write_apply]
  split
  case isTrue heq =>
    obtain ⟨rfl, rfl⟩ := heq
    exact hvalue depth htable hdepth
  case isFalse => exact h other depth i htable hdepth hindex

theorem updateEntry_post {address table : Word} {depth : Nat}
    {f : Word → Except MemoryMapError Word} {touched : List Word} {P : List Word → Prop}
    (htyped : Typed objects memory) (htouched : P touched)
    (hentry : ∀ entry entry', f entry = .ok entry' →
      entry' = entry ∨ ∀ depth, objects.TableAt table (depth + 1) → 0 < depth →
        present entry' = true → pageSize entry' = false →
        objects.pageTable (getPhysicalAddress entry') depth) :
    (updateEntry memory address depth table f touched).Post
      (fun memory' touched => Typed objects memory' ∧ P touched) (fun _ touched => P touched) := by
  unfold updateEntry
  dsimp only
  split
  case h_1 => exact htouched
  case h_2 entry' hok =>
    refine ⟨?_, htouched⟩
    rcases hentry _ _ hok with rfl | hvalue
    · have hsame : memory.write table (calculatePageTableIndex address depth)
          (memory table (calculatePageTableIndex address depth)) = memory := by
        unfold Memory.write
        simp
      rw [hsame]
      exact htyped
    · exact htyped.write hvalue

theorem clearEntry_spec {entry entry' : Word} (h : clearEntry entry = .ok entry') :
    entry' = entry ∨ present entry' = false := by
  unfold clearEntry at h
  split at h
  · cases h
    exact .inr present_zero
  · cases h
    exact .inl rfl

theorem Operation.outcome_post {operation : Operation} (htyped : Typed objects memory)
    (hinvoke : operation.Invocable objects) (hclear : operation.Clear memory) :
    (operation.outcome memory).Post (fun memory' touched => Typed objects memory' ∧
        ∀ t ∈ touched, Touchable objects memory operation.root.address t)
      (fun _ touched => ∀ t ∈ touched, Touchable objects memory operation.root.address t) := by
  obtain ⟨hroot, hvalid, hobject⟩ := hinvoke
  have hnil : ∀ t ∈ ([] : List Word), Touchable objects memory operation.root.address t := by simp
  cases operation with
  | mapPageTable root table address rights =>
    have hwalk := traversePageTableEntry_post htyped hroot hvalid (hclear _ rfl)
    dsimp only [Operation.outcome, X86.mapPageTable]
    split
    case h_1 => exact hnil
    case h_2 =>
      split_ifs
      · exact hnil
      · exact hnil
      · exact hnil
      · apply hwalk.andThen
        rintro parent touched ⟨hparent, htouched⟩
        apply updateEntry_post htyped htouched
        intro entry entry' hok
        split at hok
        · cases hok
        · cases hok
          right
          intro depth htable _ _ _
          have hdepth : depth = table.depth := by
            have := htable.unique hparent
            omega
          rw [getPhysicalAddress_tableEntry, objects.table_canonical hobject, hdepth]
          exact hobject
  | unmapPageTable root table address =>
    have hwalk := traversePageTableEntry_post htyped hroot hvalid (hclear _ rfl)
    dsimp only [Operation.outcome, X86.unmapPageTable]
    split_ifs
    · exact hnil
    · apply hwalk.andThen
      rintro parent touched ⟨hparent, htouched⟩
      apply updateEntry_post htyped htouched
      intro entry entry' hok
      refine (clearEntry_spec hok).imp_right fun habsent depth _ _ hpresent => ?_
      rw [habsent] at hpresent
      cases hpresent
  | mapFrame root frame address rights =>
    dsimp only [Operation.outcome, X86.mapFrame]
    split
    case h_1 => exact hnil
    case h_2 leafDepth hleaf =>
      have hwalk := traversePageTableEntry_post htyped hroot hvalid (hclear _ hleaf)
      split
      · exact hnil
      · apply hwalk.andThen
        rintro table touched ⟨htable, htouched⟩
        apply updateEntry_post htyped htouched
        intro entry entry' hok
        split_ifs at hok
        cases hok
        right
        intro depth htable' hdepth _ hsize
        have hlevel := htable'.unique htable
        rw [pageSize_frameEntry _ (by omega)] at hsize
        cases hsize
  | unmapFrame root frame address =>
    dsimp only [Operation.outcome, X86.unmapFrame]
    split
    case h_1 => exact hnil
    case h_2 leafDepth hleaf =>
      have hwalk := traversePageTableEntry_post htyped hroot hvalid (hclear _ hleaf)
      apply hwalk.andThen
      rintro table touched ⟨htable, htouched⟩
      apply updateEntry_post htyped htouched
      intro entry entry' hok
      refine (clearEntry_spec hok).imp_right fun habsent depth _ _ hpresent => ?_
      rw [habsent] at hpresent
      cases hpresent

theorem Typed.step {memory' : Memory} (htyped : Typed objects memory)
    (hstep : Step objects (fun memory operation => operation.Clear memory) memory memory') :
    Typed objects memory' := by
  cases hstep with
  | operation operation hinvoke hclear =>
    have hpost := Operation.outcome_post htyped hinvoke hclear
    unfold Operation.run
    revert hpost
    generalize operation.outcome memory = o
    obtain ⟨_ | memory', touched⟩ := o
    · exact fun _ => htyped
    · exact fun hpost => hpost.1
  | userWrite page index value hpage =>
    exact htyped.write fun depth htable => absurd htable (hpage.not_tableAt _)

/-- In every run of clear operations, a clear operation touches only the root and Page Tables
linked by present non-leaf entries, never a page of a frame, and a walk that reaches the leaf
depth of a frame size means that no table is unset. -/
theorem run_touches_tables {memory memory' : Memory} (hboot : Zeroed objects memory)
    (hrun : Relation.ReflTransGen
      (Step objects fun memory operation => operation.Clear memory) memory memory') :
    (∀ operation : Operation, operation.Invocable objects → operation.Clear memory' →
      ∀ table ∈ (operation.outcome memory').state,
        Linked memory' operation.root.address table ∧ (∃ depth, objects.TableAt table depth) ∧
        ¬ objects.FramePage table) ∧
    (∀ (root : PageTable) (address sizeBits : Word) (depth : Nat),
      convertLeafSizeBitsToInternalDepth sizeBits = some depth →
      NoLargeLeaf memory' address depth pml4 root.address →
      (traversePageTableEntry memory' root address depth).succeeded = true →
      searchUnsetPageTableDepth memory' root address sizeBits = .ok 0) := by
  have htyped : Typed objects memory' := by
    induction hrun with
    | refl => exact hboot.typed
    | tail _ hstep ih => exact ih.step hstep
  constructor
  · intro operation hinvoke hclear table htable
    have hpost := Operation.outcome_post htyped hinvoke hclear
    have htouched : ∀ t ∈ (operation.outcome memory').state,
        Touchable objects memory' operation.root.address t :=
      hpost.state (fun _ _ h => h.2) (fun _ _ h => h)
    obtain ⟨hlinked, depth, hdepth⟩ := htouched table htable
    exact ⟨hlinked, ⟨depth, hdepth⟩, fun hframe => hframe.not_tableAt depth hdepth⟩
  · intro root address sizeBits depth hsize hclear hok
    unfold searchUnsetPageTableDepth
    unfold traversePageTableEntry at hok
    split at hok
    case h_1 => cases hok
    case h_2 hvalid =>
      rw [hsize]
      split at hok
      case isTrue => cases hok
      case isFalse => exact searchLoop_eq_zero _ _ _ hclear hok

/-! ### What an operation writes -/

def WritesEntry (objects : Objects) (address : Word) (memory memory' : Memory) : Prop :=
  ∃ table depth entry, objects.TableAt table depth ∧
    memory' = memory.write table (calculatePageTableIndex address depth) entry

theorem Operation.outcome_writes {operation : Operation} {memory' : Memory}
    (htyped : Typed objects memory) (hinvoke : operation.Invocable objects)
    (hclear : operation.Clear memory) (hok : (operation.outcome memory).result = .ok memory') :
    WritesEntry objects operation.address memory memory' := by
  obtain ⟨hroot, hvalid, -⟩ := hinvoke
  -- every operation is a walk and one update
  have hupdate : ∀ (root : PageTable) (address : Word) (depth : Nat)
      (f : Word → Except MemoryMapError Word), objects.root root.address →
      isValidUserAddress address = true → NoLargeLeaf memory address depth pml4 root.address →
      ((traversePageTableEntry memory root address depth).andThen fun table =>
        updateEntry memory address depth table f).result = .ok memory' →
      WritesEntry objects address memory memory' := by
    intro root address depth f hroot hvalid hclear hdone
    have hwalk := traversePageTableEntry_post htyped hroot hvalid hclear
    generalize traversePageTableEntry memory root address depth = o at hwalk hdone
    obtain ⟨_ | table, touched⟩ := o
    · cases hdone
    · change (updateEntry memory address depth table f touched).result = _ at hdone
      unfold updateEntry at hdone
      dsimp only at hdone
      split at hdone
      · cases hdone
      next entry _ =>
        cases hdone
        exact ⟨table, depth, entry, hwalk.1, rfl⟩
  cases operation with
  | mapPageTable root table address rights =>
    dsimp only [Operation.outcome, X86.mapPageTable] at hok
    split at hok
    · cases hok
    · split_ifs at hok
      · cases hok
      · cases hok
      · cases hok
      · exact hupdate root address _ _ hroot hvalid (hclear _ rfl) hok
  | unmapPageTable root table address =>
    dsimp only [Operation.outcome, X86.unmapPageTable] at hok
    split_ifs at hok
    · cases hok
    · exact hupdate root address _ _ hroot hvalid (hclear _ rfl) hok
  | mapFrame root frame address rights =>
    dsimp only [Operation.outcome, X86.mapFrame] at hok
    split at hok
    · cases hok
    next leafDepth hleaf =>
      split at hok
      · cases hok
      · exact hupdate root address _ _ hroot hvalid (hclear _ hleaf) hok
  | unmapFrame root frame address =>
    dsimp only [Operation.outcome, X86.unmapFrame] at hok
    split at hok
    · cases hok
    next leafDepth hleaf => exact hupdate root address _ _ hroot hvalid (hclear _ hleaf) hok

/-! ### A walk through a large leaf -/

/-- A root, a Page Table for every level below it, a 2 MiB frame and a small one. -/
def largeLeafObjects : Objects where
  root address := address = 0x1000
  pageTable address depth :=
    (address = 0x2000 ∧ depth = 3) ∨ (address = 0x3000 ∧ depth = 2) ∨ (address = 0x4000 ∧ depth = 1)
  frame f := f = ⟨0x200000, 21⟩ ∨ f = ⟨0x5000, 12⟩
  table_canonical := by
    rintro address depth (⟨rfl, -⟩ | ⟨rfl, -⟩ | ⟨rfl, -⟩) <;> decide
  table_depth := by
    rintro address depth depth' (⟨rfl, rfl⟩ | ⟨rfl, rfl⟩ | ⟨rfl, rfl⟩)
        (⟨h, rfl⟩ | ⟨h, rfl⟩ | ⟨h, rfl⟩) <;>
      first
      | rfl
      | exact absurd h (by decide)
  root_not_table := by
    rintro address depth rfl (⟨h, -⟩ | ⟨h, -⟩ | ⟨h, -⟩) <;> exact absurd h (by decide)
  frame_not_table := by
    rintro f page depth (rfl | rfl) hle _ (⟨rfl, -⟩ | ⟨rfl, -⟩ | ⟨rfl, -⟩) <;>
      exact absurd hle (by decide)
  frame_not_root := by
    rintro f page (rfl | rfl) hle _ rfl <;> exact absurd hle (by decide)

def zeroMemory : Memory := fun _ _ => 0

def sampleRoot : PageTable := ⟨0x1000, 4⟩

def largeLeafMemory : Memory :=
  (Operation.mapFrame sampleRoot ⟨0x200000, 21⟩ 0 1).run
    ((Operation.mapPageTable sampleRoot ⟨0x3000, 2⟩ 0 7).run
      ((Operation.mapPageTable sampleRoot ⟨0x2000, 3⟩ 0 7).run zeroMemory))

def mapSmallFrame : Operation := .mapFrame sampleRoot ⟨0x5000, 12⟩ 0 3

/-- Mapping a 4 KiB frame under a 2 MiB leaf reads the large frame as a page table and writes
its first word, while the search for an unset table refuses the address. -/
theorem mapFrame_touches_frame :
    Zeroed largeLeafObjects zeroMemory ∧
      Relation.ReflTransGen (Step largeLeafObjects fun _ _ => True) zeroMemory largeLeafMemory ∧
      mapSmallFrame.Invocable largeLeafObjects ∧ largeLeafObjects.FramePage 0x200000 ∧
      0x200000 ∈ (mapSmallFrame.outcome largeLeafMemory).state ∧
      mapSmallFrame.run largeLeafMemory 0x200000 0 ≠ largeLeafMemory 0x200000 0 ∧
      (traversePageTableEntry largeLeafMemory sampleRoot 0 1).succeeded = true ∧
      searchUnsetPageTableDepth largeLeafMemory sampleRoot 0 12 = .error .alreadyMapped := by
  refine ⟨fun _ _ _ _ _ => rfl, ?_, ⟨rfl, by decide, .inr rfl⟩,
    ⟨_, .inl rfl, by decide, by decide⟩, by decide, by decide, by decide, by decide⟩
  have hstep : ∀ memory (operation : Operation), operation.Invocable largeLeafObjects →
      Step largeLeafObjects (fun _ _ => True) memory (operation.run memory) :=
    fun memory operation hinvoke => .operation memory operation hinvoke trivial
  exact ((Relation.ReflTransGen.single
    (hstep _ (.mapPageTable sampleRoot ⟨0x2000, 3⟩ 0 7) ⟨rfl, by decide, .inl ⟨rfl, rfl⟩⟩)).tail
    (hstep _ (.mapPageTable sampleRoot ⟨0x3000, 2⟩ 0 7)
      ⟨rfl, by decide, .inr (.inl ⟨rfl, rfl⟩)⟩)).tail
    (hstep _ (.mapFrame sampleRoot ⟨0x200000, 21⟩ 0 1) ⟨rfl, by decide, .inl rfl⟩)

/-- A PDPT, a PD and a PT linked at address 0, and the small frame mapped there. -/
def smallLeafMemory : Memory :=
  (Operation.mapFrame sampleRoot ⟨0x5000, 12⟩ 0 3).run
    ((Operation.mapPageTable sampleRoot ⟨0x4000, 1⟩ 0 7).run
      ((Operation.mapPageTable sampleRoot ⟨0x3000, 2⟩ 0 7).run
        ((Operation.mapPageTable sampleRoot ⟨0x2000, 3⟩ 0 7).run zeroMemory)))

/-- Unmapping the small frame again walks through all four tables, and they are what the run has
linked. The user has written an entry-like word to the frame before. -/
theorem run_touches_tables_smallLeaf :
    (Operation.unmapFrame sampleRoot ⟨0x5000, 12⟩ 0).outcome
        (smallLeafMemory.write 0x5000 0 0x1007) =
      .ok ((smallLeafMemory.write 0x5000 0 0x1007).write 0x4000 0 0)
        [0x4000, 0x3000, 0x2000, 0x1000] ∧
      (∀ table ∈ [0x4000, 0x3000, 0x2000, 0x1000],
        Linked (smallLeafMemory.write 0x5000 0 0x1007) 0x1000 table ∧
          (∃ depth, largeLeafObjects.TableAt table depth) ∧ ¬ largeLeafObjects.FramePage table) ∧
      searchUnsetPageTableDepth (smallLeafMemory.write 0x5000 0 0x1007) sampleRoot 0 12 = .ok 0 := by
  have hstep : ∀ memory (operation : Operation), operation.Invocable largeLeafObjects →
      operation.Clear memory → Step largeLeafObjects (fun memory operation => operation.Clear memory)
        memory (operation.run memory) :=
    fun memory operation hinvoke hclear => .operation memory operation hinvoke hclear
  have hrun := ((((Relation.ReflTransGen.single
    (hstep zeroMemory (.mapPageTable sampleRoot ⟨0x2000, 3⟩ 0 7)
      ⟨rfl, by decide, .inl ⟨rfl, rfl⟩⟩ (by rintro _ ⟨⟩; decide))).tail
    (hstep _ (.mapPageTable sampleRoot ⟨0x3000, 2⟩ 0 7)
      ⟨rfl, by decide, .inr (.inl ⟨rfl, rfl⟩)⟩ (by rintro _ ⟨⟩; decide))).tail
    (hstep _ (.mapPageTable sampleRoot ⟨0x4000, 1⟩ 0 7)
      ⟨rfl, by decide, .inr (.inr ⟨rfl, rfl⟩)⟩ (by rintro _ ⟨⟩; decide))).tail
    (hstep _ (.mapFrame sampleRoot ⟨0x5000, 12⟩ 0 3)
      ⟨rfl, by decide, .inr rfl⟩ (by rintro _ ⟨⟩; decide))).tail
    (.userWrite smallLeafMemory 0x5000 0 0x1007 ⟨_, .inr rfl, by decide, by decide⟩)
  have htouches := @run_touches_tables largeLeafObjects _ _ (fun _ _ _ _ _ => rfl) hrun
  refine ⟨rfl, ?_, htouches.2 sampleRoot 0 12 1 rfl (by decide) (by decide)⟩
  exact htouches.1 (.unmapFrame sampleRoot ⟨0x5000, 12⟩ 0) ⟨rfl, by decide, .inr rfl⟩
    (by rintro _ ⟨⟩; decide)

end A9N.Hal.X86
