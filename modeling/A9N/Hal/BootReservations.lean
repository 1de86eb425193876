import A9N.Hal.BootMapExact

/-!
# The ranges that a device tree declares

What a tree reserves is stated on its own: the entries of the reservation block, and the `reg`
properties of the children of `/reserved-memory`, read with the cells of that node. The parser
returns on every tree, but reads these properties with the cells of the root.
-/

namespace A9N.Hal.Aarch64Boot

variable {memory : PhysicalMemory}

/-! ## What is declared -/

section Declared

variable (memory : PhysicalMemory)

def readNumber (address : Nat) : Nat → Nat
  | 0 => 0
  | cells + 1 => readNumber address cells * 2 ^ 32 + readBigU32 memory (address + cells * 4)

def regPair (data addressCells sizeCells index : Nat) : Nat × Nat :=
  let start := data + index * ((addressCells + sizeCells) * 4)
  (readNumber memory start addressCells, readNumber memory (start + addressCells * 4) sizeCells)

def regPairs (data length addressCells sizeCells : Nat) : List (Nat × Nat) :=
  (List.range (length / ((addressCells + sizeCells) * 4))).map
    (regPair memory data addressCells sizeCells)

def declaredBy (strings : Strings) (step : Walk × Token) : List (Nat × Nat) :=
  match step.2 with
  | .property _ data length =>
    if step.1.IsReservedReg memory strings step.2 then
      regPairs memory data length step.1.nodeAddressCells step.1.nodeSizeCells
    else []
  | _ => []

/-- What `parse_reg_property` reads instead: the cells of the root, and none if they are more
than two. -/
def gatheredBy (strings : Strings) (step : Walk × Token) : List (Nat × Nat) :=
  match step.2 with
  | .property _ data length =>
    if step.1.IsReservedReg memory strings step.2 ∧ step.1.addressCells ≤ 2 ∧
        step.1.sizeCells ≤ 2 then
      regPairs memory data length step.1.addressCells step.1.sizeCells
    else []
  | _ => []

def gatheredReservations (fdt : Nat) : List (Nat × Nat) :=
  reservations memory fdt ++ (treeSteps memory fdt).flatMap (gatheredBy memory (stringsOf memory fdt))

def declaredReservations (fdt : Nat) : List (Nat × Nat) :=
  reservations memory fdt ++ (treeSteps memory fdt).flatMap (declaredBy memory (stringsOf memory fdt))

end Declared

/-! ## Properties of `reg` -/

theorem readCells_eq (data : Nat) {cells : Nat} (hcells : cells ≤ 2) :
    readCells memory data cells = readNumber memory data cells := by
  obtain rfl | rfl | rfl : cells = 0 ∨ cells = 1 ∨ cells = 2 := by omega
  · rfl
  · simp [readCells, readNumber]
  · simp [readCells, readNumber, readBigU64]

theorem parseRegTuples_eq (memory : PhysicalMemory) (data fuel index : Nat)
    {length addressCells sizeCells : Nat} (haddress : addressCells ≤ 2) (hsize : sizeCells ≤ 2)
    (hcells : addressCells + sizeCells ≠ 0) (hlength : length + 16 < 2 ^ 32)
    (hindex : index * ((addressCells + sizeCells) * 4) ≤ length)
    (hfuel : length / ((addressCells + sizeCells) * 4) - index < fuel) (ranges : List PhysicalRange) :
    parseRegTuples memory data length addressCells sizeCells fuel
        (index * ((addressCells + sizeCells) * 4)) ranges =
      some (addDeclaredRanges ranges
        ((List.range' index (length / ((addressCells + sizeCells) * 4) - index)).map
          (regPair memory data addressCells sizeCells))) := by
  induction fuel generalizing index ranges with
  | zero => omega
  | succ fuel ih =>
    have hwrap : (index * ((addressCells + sizeCells) * 4) + (addressCells + sizeCells) * 4) %
        2 ^ 32 = (index + 1) * ((addressCells + sizeCells) * 4) := by
      rw [Nat.succ_mul index]
      exact Nat.mod_eq_of_lt (by omega)
    have hmore : (index + 1) * ((addressCells + sizeCells) * 4) ≤ length ↔
        index < length / ((addressCells + sizeCells) * 4) :=
      (Nat.le_div_iff_mul_le (by omega)).symm
    rw [parseRegTuples, hwrap, readCells_eq _ haddress, readCells_eq _ hsize]
    split
    case isTrue hle =>
      have hlt := hmore.mp hle
      obtain ⟨count, hcount⟩ : ∃ count,
          length / ((addressCells + sizeCells) * 4) - index = count + 1 :=
        ⟨_, (Nat.succ_pred_eq_of_pos (by omega)).symm⟩
      rw [ih _ hle (by omega), hcount, List.range'_succ, List.map_cons,
        show length / ((addressCells + sizeCells) * 4) - (index + 1) = count by omega]
      rfl
    case isFalse hgt =>
      rw [show length / ((addressCells + sizeCells) * 4) - index = 0 by
        have := mt hmore.mpr hgt
        omega]
      rfl

theorem parseRegProperty_eq {data length addressCells sizeCells : Nat}
    (hlength : length + 16 < 2 ^ 32) (ranges : List PhysicalRange) :
    parseRegProperty memory data length addressCells sizeCells ranges =
      some (addDeclaredRanges ranges (if addressCells ≤ 2 ∧ sizeCells ≤ 2 then
          regPairs memory data length addressCells sizeCells else [])) := by
  unfold parseRegProperty regPairs
  split
  case isTrue hskip =>
    split
    case isTrue hknown =>
      rw [show (addressCells + sizeCells) * 4 = 0 by omega, Nat.div_zero]
      rfl
    case isFalse => rfl
  case isFalse hknown =>
    rw [if_pos (by omega), List.range_eq_range']
    have hfuel := Nat.div_le_self length ((addressCells + sizeCells) * 4)
    have haddress : addressCells ≤ 2 := by omega
    have hsize : sizeCells ≤ 2 := by omega
    have h := parseRegTuples_eq memory data (length + 1) 0 haddress hsize (by omega) hlength
      (by omega) (by omega) ranges
    rwa [Nat.zero_mul, Nat.sub_zero] at h

/-! ## Tokens -/

def Token.Shorter (bound : Nat) : Token → Prop
  | .property _ _ length => length + 12 ≤ bound
  | _ => True

theorem Token.Shorter.mono {bound bound' : Nat} {token : Token} (h : token.Shorter bound)
    (hle : bound ≤ bound') : token.Shorter bound' := by
  cases token with
  | property _ _ length => exact (show length + 12 ≤ bound from h).trans hle
  | _ => trivial

theorem le_alignCursor (cursor : Nat) : cursor ≤ alignCursor cursor := by
  unfold alignCursor
  omega

theorem nextToken_spec {structureEnd stringsSize cursor next : Nat} {token : Token}
    (h : nextToken memory structureEnd stringsSize cursor = .ok (token, next)) :
    cursor + 4 ≤ structureEnd ∧ cursor + 4 ≤ next ∧ token.Shorter (structureEnd - cursor) := by
  have halign := le_alignCursor
  unfold nextToken at h
  dsimp only at h
  split at h
  · cases h
  case isFalse hroom =>
    refine ⟨by omega, ?_⟩
    split at h
    · split at h
      · cases h
      · cases h
        exact ⟨le_trans (by omega) (halign _), trivial⟩
    · split at h
      · cases h
        exact ⟨le_rfl, trivial⟩
      · split at h
        · cases h
          exact ⟨le_rfl, trivial⟩
        · split at h
          · cases h
          · split at h
            · cases h
            case isFalse hproperty =>
              split at h
              · cases h
              case isFalse hdata =>
                cases h
                refine ⟨le_trans (by omega) (halign _), ?_⟩
                unfold Token.Shorter
                omega

theorem tokens_spec (memory : PhysicalMemory) (structureEnd stringsSize fuel cursor : Nat)
    (hfuel : structureEnd - cursor < fuel) :
    (tokens memory structureEnd stringsSize fuel cursor).2.isSome ∧
      ∀ token ∈ (tokens memory structureEnd stringsSize fuel cursor).1,
        token.Shorter (structureEnd - cursor) := by
  induction fuel generalizing cursor with
  | zero => omega
  | succ fuel ih =>
    rw [tokens]
    split
    · simp
    case _ token next hnext =>
      obtain ⟨hroom, hle, htoken⟩ := nextToken_spec hnext
      obtain ⟨hsome, hshorter⟩ := ih next (by omega)
      refine ⟨hsome, List.forall_mem_cons.mpr ⟨htoken, fun t ht => ?_⟩⟩
      exact (hshorter t ht).mono (by omega)

/-! ## The header -/

theorem readBigU32_of_magic {fdt : Nat} (hmagic : readBigU32 memory fdt = 0xd00dfeed) {offset : Nat}
    (hoffset : offset < 4) : 9 < readBigU32 memory (fdt + offset) := by
  have hbound := fun address => (memory address).isLt
  have h0 := hbound fdt
  have h1 := hbound (fdt + 1)
  have h2 := hbound (fdt + 2)
  have h3 := hbound (fdt + 3)
  obtain rfl | hoffset : offset = 0 ∨ (offset = 1 ∨ offset = 2 ∨ offset = 3) := by omega
  · rw [Nat.add_zero]
    omega
  · unfold readBigU32 at hmagic ⊢
    rcases hoffset with rfl | rfl | rfl <;> omega

theorem nextToken_unknown (structureEnd stringsSize : Nat) {cursor : Nat}
    (h : 9 < readBigU32 memory cursor) :
    ∃ accepted, nextToken memory structureEnd stringsSize cursor = .error accepted := by
  unfold nextToken
  dsimp only
  split
  · exact ⟨_, rfl⟩
  · rw [if_neg (by omega), if_neg (by omega), if_neg (by omega), if_neg (by omega),
      if_pos (.inl (by omega))]
    exact ⟨_, rfl⟩

/-- Behind the checks of `parse_fdt`. -/
structure ValidHeader (memory : PhysicalMemory) (fdt : Nat) : Prop where
  present : fdt ≠ 0
  mapped : fdt < directMapEnd
  magic : readBigU32 memory fdt = 0xd00dfeed
  valid : (readHeader memory fdt).valid fdt

def Token.Short (token : Token) : Prop := token.Shorter 0xfffffffb

theorem readBigU32_lt (address : Nat) : readBigU32 memory address < 2 ^ 32 := by
  have hbound := fun address => (memory address).isLt
  have h0 := hbound address
  have h1 := hbound (address + 1)
  have h2 := hbound (address + 2)
  have h3 := hbound (address + 3)
  unfold readBigU32
  omega

theorem Header.valid_span {header : Header} {fdt : Nat} (h : header.valid fdt) :
    header.structureOffset + header.structureSize ≤ header.totalSize ∧
      fdt ≤ directMapEnd - header.totalSize := by
  simp only [Header.valid, validSpan, Bool.not_eq_true', Bool.or_eq_false_iff, Bool.not_eq_false',
    Bool.and_eq_true, decide_eq_true_eq, decide_eq_false_iff_not] at h
  omega

theorem treeTokens_spec {fdt : Nat} (h : ValidHeader memory fdt) :
    (treeTokens memory fdt).2.isSome ∧ ∀ token ∈ (treeTokens memory fdt).1, token.Short := by
  have htotal : (readHeader memory fdt).totalSize < 2 ^ 32 := readBigU32_lt _
  have hspan := (Header.valid_span h.valid).1
  rw [treeTokens]
  generalize readHeader memory fdt = header at *
  obtain ⟨hsome, hshorter⟩ := tokens_spec memory
    (fdt + header.structureOffset + header.structureSize) header.stringsSize
    (header.structureSize + 1) (fdt + header.structureOffset) (by omega)
  refine ⟨hsome, fun token htoken => ?_⟩
  rcases Nat.lt_or_ge header.structureOffset 4 with hlow | hhigh
  · obtain ⟨accepted, hend⟩ := nextToken_unknown
      (fdt + header.structureOffset + header.structureSize) header.stringsSize
      (readBigU32_of_magic h.magic hlow)
    rw [tokens, hend] at htoken
    cases htoken
  · exact (hshorter token htoken).mono (by omega)

/-! ## What is gathered -/

def CellsAgree (memory : PhysicalMemory) (strings : Strings) (step : Walk × Token) : Prop :=
  step.1.IsReservedReg memory strings step.2 →
    step.1.nodeAddressCells = step.1.addressCells ∧ step.1.nodeSizeCells = step.1.sizeCells ∧
      step.1.addressCells ≤ 2 ∧ step.1.sizeCells ≤ 2

instance (strings : Strings) : DecidablePred (CellsAgree memory strings) := fun _ =>
  inferInstanceAs (Decidable (_ → _))

theorem gatheredBy_eq {strings : Strings} {step : Walk × Token}
    (h : CellsAgree memory strings step) :
    gatheredBy memory strings step = declaredBy memory strings step := by
  obtain ⟨walk, token⟩ := step
  cases token with
  | property nameOffset data length =>
    dsimp only [gatheredBy, declaredBy]
    by_cases hreserved : walk.IsReservedReg memory strings (.property nameOffset data length)
    · obtain ⟨haddress, hsize, hknown⟩ := h hreserved
      dsimp only at haddress hsize hknown
      rw [if_pos ⟨hreserved, hknown⟩, if_pos hreserved, haddress, hsize]
    · rw [if_neg (fun hboth => hreserved hboth.1), if_neg hreserved]
  | _ => rfl

theorem gather_spec {strings : Strings} {step : Walk × Token} (hshort : step.2.Short)
    {tables : BootTables} (hram : ∀ range ∈ tables.ramRanges, MappedRange range) :
    ∃ tables', gather memory strings tables step = some tables' ∧
      (∀ range ∈ tables'.ramRanges, MappedRange range) ∧
      tables'.reservedRanges =
        addDeclaredRanges tables.reservedRanges (gatheredBy memory strings step) := by
  obtain ⟨walk, token⟩ := step
  cases token with
  | beginNode => exact ⟨tables, rfl, hram, rfl⟩
  | endNode => exact ⟨tables, rfl, hram, rfl⟩
  | nop => exact ⟨tables, rfl, hram, rfl⟩
  | property nameOffset data length =>
    have hlength : length + 16 < 2 ^ 32 := by
      change length + 12 ≤ 0xfffffffb at hshort
      omega
    unfold gather gatheredBy
    dsimp only
    rw [parseRegProperty_eq hlength, parseRegProperty_eq hlength]
    split
    case isTrue hmemory =>
      have hother : walk.IsReservedReg memory strings (.property nameOffset data length) = false := by
        simp [Walk.IsReservedReg, hmemory.1]
      rw [hother]
      exact ⟨_, rfl, MappedRange.addDeclaredRanges hram _, rfl⟩
    case isFalse =>
      split
      case isTrue hreserved => exact ⟨_, rfl, hram, by simp only [hreserved, true_and]⟩
      case isFalse hother =>
        have hnone : ¬ (walk.IsReservedReg memory strings (.property nameOffset data length) ∧
            walk.addressCells ≤ 2 ∧ walk.sizeCells ≤ 2) := fun hboth => hother hboth.1
        rw [if_neg hnone]
        split
        · exact ⟨_, rfl, hram, rfl⟩
        · split
          · exact ⟨_, rfl, hram, rfl⟩
          · exact ⟨_, rfl, hram, rfl⟩

theorem gatherAll_spec (strings : Strings) (steps : List (Walk × Token))
    (hshort : ∀ step ∈ steps, step.2.Short) {tables : BootTables}
    (hram : ∀ range ∈ tables.ramRanges, MappedRange range) :
    ∃ tables', gatherAll memory strings steps tables = some tables' ∧
      (∀ range ∈ tables'.ramRanges, MappedRange range) ∧
      tables'.reservedRanges =
        addDeclaredRanges tables.reservedRanges (steps.flatMap (gatheredBy memory strings)) := by
  induction steps generalizing tables with
  | nil => exact ⟨tables, rfl, hram, rfl⟩
  | cons step rest ih =>
    obtain ⟨hstep, hrest⟩ := List.forall_mem_cons.mp hshort
    obtain ⟨tables1, h₁, hram1, hreserved1⟩ := gather_spec hstep hram
    obtain ⟨tables2, h₂, hram2, hreserved2⟩ := ih hrest hram1
    refine ⟨tables2, by rw [gatherAll, h₁, Option.bind_some, h₂], hram2, ?_⟩
    rw [hreserved2, hreserved1, List.flatMap_cons, addDeclaredRanges_append]

theorem mem_of_mem_walkSteps {strings : Strings} {walk : Walk} {list : List Token}
    {step : Walk × Token} (h : step ∈ walkSteps memory strings walk list) : step.2 ∈ list := by
  induction list generalizing walk with
  | nil => cases h
  | cons token rest ih =>
    rcases List.mem_cons.mp h with rfl | h
    · exact List.mem_cons_self
    · exact List.mem_cons_of_mem _ (ih h)

theorem parseFdt_spec (memory : PhysicalMemory) (dtbAddress : Nat) :
    ∃ parsed, parseFdt memory dtbAddress = some parsed ∧
      (∀ range ∈ parsed.tables.ramRanges, MappedRange range) ∧
      (parsed.accepted → ValidHeader memory dtbAddress ∧
        parsed.dtbSize = (readHeader memory dtbAddress).totalSize ∧
        parsed.tables.reservedRanges =
          ((gatheredReservations memory dtbAddress).flatMap declaredPages).take rangeCapacity) := by
  have hempty : ∀ range ∈ ({} : BootTables).ramRanges, MappedRange range := by simp
  have hrejected : ∃ parsed, some ({ accepted := false } : FdtResult) = some parsed ∧
      (∀ range ∈ parsed.tables.ramRanges, MappedRange range) ∧
      (parsed.accepted → ValidHeader memory dtbAddress ∧
        parsed.dtbSize = (readHeader memory dtbAddress).totalSize ∧
        parsed.tables.reservedRanges =
          ((gatheredReservations memory dtbAddress).flatMap declaredPages).take rangeCapacity) :=
    ⟨{ accepted := false }, rfl, hempty, fun h => by cases h⟩
  unfold parseFdt
  split
  · exact hrejected
  case isFalse hplace =>
    split
    · exact hrejected
    case isFalse hmagic =>
      split
      · exact hrejected
      case isFalse hvalid =>
        have hheader : ValidHeader memory dtbAddress :=
          ⟨by omega, by omega, not_not.mp hmagic, by simpa using hvalid⟩
        obtain ⟨hsome, hshort⟩ := treeTokens_spec hheader
        obtain ⟨accepted, haccepted⟩ := Option.isSome_iff_exists.mp hsome
        obtain ⟨tables, htables, hram, hreserved⟩ := gatherAll_spec
          (stringsOf memory dtbAddress) (treeSteps memory dtbAddress)
          (fun step hstep => hshort step.2 (mem_of_mem_walkSteps hstep))
          (show ∀ range ∈ BootTables.ramRanges
            { reservedRanges := addDeclaredRanges [] (reservations memory dtbAddress) },
              MappedRange range from hempty)
        have htake := addDeclaredRanges_take [] (gatheredReservations memory dtbAddress)
        rw [List.take_nil, List.nil_append] at htake
        dsimp only
        rw [haccepted, Option.bind_some, htables]
        refine ⟨_, rfl, hram, fun _ => ⟨hheader, rfl, ?_⟩⟩
        rw [← htake, gatheredReservations, addDeclaredRanges_append]
        exact hreserved

/-! ## What is protected -/

/-- The point belongs to the kernel, to the tree, to the initial RAM disk or to a range that the tree
reserves. -/
def Protected (memory : PhysicalMemory) (kernel : KernelImage) (dtbAddress : Nat)
    (parsed : FdtResult) (point : Nat) : Prop :=
  kernel.Contains point ∨
    (⟨dtbAddress, dtbAddress + parsed.dtbSize⟩ : PhysicalRange).Contains point ∨
    (parsed.tables.initrdStart ≠ 0 ∧
      (⟨parsed.tables.initrdStart, parsed.tables.initrdEnd⟩ : PhysicalRange).Contains point) ∨
    ∃ entry ∈ declaredReservations memory dtbAddress, (declaredRange entry).Contains point

/-- The ranges that are added to the reserved table, in order, as far as they have pages: those of
the tree, the kernel, the tree itself and the initial RAM disk. -/
def entering (memory : PhysicalMemory) (kernel : KernelImage) (dtbAddress : Nat)
    (parsed : FdtResult) : List PhysicalRange :=
  (gatheredReservations memory dtbAddress).flatMap declaredPages ++ pages kernel.start kernel.stop ++
    pages dtbAddress (dtbAddress + parsed.dtbSize) ++
    if parsed.tables.initrdStart ≠ 0 ∧ parsed.tables.initrdStart < parsed.tables.initrdEnd then
      pages parsed.tables.initrdStart parsed.tables.initrdEnd
    else []

theorem reserveAll_eq {kernel : KernelImage} {dtbAddress : Nat} {parsed : FdtResult}
    (haccepted : parsed.accepted) (hreserved : parsed.tables.reservedRanges =
      ((gatheredReservations memory dtbAddress).flatMap declaredPages).take rangeCapacity) :
    reserveAll kernel dtbAddress parsed =
      (entering memory kernel dtbAddress parsed).take rangeCapacity := by
  unfold reserveAll entering
  dsimp only
  rw [if_pos haccepted, hreserved, addRange_take, addRange_take]
  split
  · exact addRange_take _ _ _
  · rw [List.append_nil]

/-- The table has room for all that is added to it, and no range is changed on its way into it. -/
structure Reservable (memory : PhysicalMemory) (kernel : KernelImage) (dtbAddress : Nat)
    (parsed : FdtResult) : Prop where
  room : (entering memory kernel dtbAddress parsed).length ≤ rangeCapacity
  direct : ∀ entry ∈ declaredReservations memory dtbAddress,
    entry.1 < directMapEnd → (declaredRange entry).stop ≤ directMapEnd
  cells : ∀ step ∈ treeSteps memory dtbAddress,
    CellsAgree memory (stringsOf memory dtbAddress) step
  initrd : parsed.tables.initrdEnd ≤ 2 ^ 64 - pageSize

theorem Reservable.covers {kernel : KernelImage} {dtbAddress : Nat} {parsed : FdtResult}
    (h : Reservable memory kernel dtbAddress parsed)
    (hdtb : dtbAddress + parsed.dtbSize ≤ directMapEnd) {point : Nat} (hmap : point < directMapEnd)
    (hpoint : Protected memory kernel dtbAddress parsed point) :
    Range.Covers ((entering memory kernel dtbAddress parsed).take rangeCapacity) point := by
  have hmapped : directMapEnd ≤ 2 ^ 64 - pageSize := by decide
  have hgathered : gatheredReservations memory dtbAddress = declaredReservations memory dtbAddress := by
    rw [gatheredReservations, declaredReservations]
    congr 1
    exact List.flatMap_congr fun step hstep => gatheredBy_eq (h.cells step hstep)
  rw [List.take_of_length_le h.room, entering, hgathered]
  rcases hpoint with hkernel | htree | ⟨hpresent, hinitrd⟩ | ⟨entry, hentry, hcontains⟩
  · exact (pages_covers (kernel.mapped.trans hmapped) hkernel).mono (by simp)
  · exact (pages_covers (hdtb.trans hmapped) htree).mono fun range hrange => by simp [hrange]
  · rw [if_pos ⟨hpresent, hinitrd.1.trans_lt hinitrd.2⟩]
    exact (pages_covers h.initrd hinitrd).mono fun range hrange => by simp [hrange]
  · refine (declaredPages_covers (h.direct entry hentry (hcontains.1.trans_lt hmap)) hcontains).mono fun range hrange => ?_
    simp only [List.mem_append, List.mem_flatMap]
    exact .inl (.inl (.inl ⟨entry, hentry, hrange⟩))

theorem TableRange.entering (kernel : KernelImage) (dtbAddress : Nat) (parsed : FdtResult) :
    ∀ range ∈ (entering memory kernel dtbAddress parsed).take rangeCapacity, TableRange range := by
  intro range hrange
  have hmem := List.mem_of_mem_take hrange
  simp only [Aarch64Boot.entering, List.mem_append, List.mem_flatMap] at hmem
  rcases hmem with ((⟨entry, -, hentry⟩ | hkernel) | htree) | hinitrd
  · unfold declaredPages at hentry
    split at hentry
    · exact TableRange.pages _ _ range hentry
    · cases hentry
  · exact TableRange.pages _ _ range hkernel
  · exact TableRange.pages _ _ range htree
  · split at hinitrd
    · exact TableRange.pages _ _ range hinitrd
    · cases hinitrd

/-- The map leaves no protected point free if and only if each one that is RAM, and that the map is
long enough to describe, lies in one of the first ranges that enter the reserved table. No point is
left free if all ranges fit. -/
theorem prepareBootProtocol_protects_iff {memory : PhysicalMemory} {dtbAddress : Nat}
    {parsed : FdtResult} (kernel : KernelImage) (hparsed : parseFdt memory dtbAddress = some parsed)
    (haccepted : parsed.accepted) :
    ∃ map, prepareBootProtocol memory kernel dtbAddress = some map ∧
      (Protects map (Protected memory kernel dtbAddress parsed) ↔
        ∀ point, Protected memory kernel dtbAddress parsed point →
          Range.Covers (defaultRam parsed.tables.ramRanges) point →
          Described parsed.tables.ramRanges
            ((entering memory kernel dtbAddress parsed).take rangeCapacity) point →
          Range.Covers ((entering memory kernel dtbAddress parsed).take rangeCapacity) point) ∧
      (Reservable memory kernel dtbAddress parsed →
        Protects map (Protected memory kernel dtbAddress parsed)) := by
  obtain ⟨parsed', hparsed', hram, hspec⟩ := parseFdt_spec memory dtbAddress
  obtain rfl : parsed' = parsed := Option.some.inj (hparsed'.symm.trans hparsed)
  obtain ⟨hheader, hsize, hreserved⟩ := hspec haccepted
  have hspan := (Header.valid_span hheader.valid).2
  have hpresent := hheader.present
  have htable : ∀ range ∈ (entering memory kernel dtbAddress parsed').take rangeCapacity,
      TableRange range := TableRange.entering kernel dtbAddress parsed'
  have hiff := constructMemoryMap_protects_iff (fun range hrange => (hram range hrange).toTableRange)
    htable (Protected memory kernel dtbAddress parsed')
  refine ⟨_, by rw [prepareBootProtocol, hparsed, Option.map_some, reserveAll_eq haccepted hreserved],
    hiff, fun h => hiff.mpr fun point hprotected hcovers _ => ?_⟩
  obtain ⟨range, hrange, hcontains⟩ := hcovers
  have hmap : point < directMapEnd :=
    hcontains.2.trans_le (MappedRange.defaultRam hram range hrange).mapped
  exact h.covers (by omega) hmap hprotected

/-! ### Two trees -/

def bigEndian (word : Nat) : List Nat := [word >>> 24, word >>> 16, word >>> 8, word]

def deviceTree (reserve : List (Nat × Nat)) (structureBlock strings : List Nat) : List Nat :=
  let structureOffset := 40 + (reserve.length + 1) * 16
  let stringsOffset := structureOffset + structureBlock.length
  [0xd00dfeed, stringsOffset + strings.length, structureOffset, stringsOffset, 40, 17, 16, 0,
      strings.length, structureBlock.length].flatMap bigEndian ++
    reserve.flatMap (fun entry => [0, entry.1, 0, entry.2].flatMap bigEndian) ++
    [0, 0, 0, 0].flatMap bigEndian ++ structureBlock ++ strings

def byteDigits : List Nat → Nat
  | [] => 0
  | byte :: rest => byte % 256 + 256 * byteDigits rest

def bytesAt (base : Nat) (bytes : List Nat) : PhysicalMemory := fun address =>
  if base ≤ address then .ofNat 8 (byteDigits bytes >>> ((address - base) * 8)) else 0

def sampleKernel : KernelImage where
  start := 0x40080000
  stop := 0x40200000
  nonempty := by decide
  mapped := by decide

def sampleStrings : List Nat :=
  "#address-cells".toList.map Char.toNat ++ [0] ++ "#size-cells".toList.map Char.toNat ++ [0] ++
    "reg".toList.map Char.toNat ++ [0] ++ "linux,initrd-start".toList.map Char.toNat ++ [0] ++
    "linux,initrd-end".toList.map Char.toNat ++ [0]

def sampleProperty (nameOffset : Nat) (words : List Nat) : List Nat :=
  [3, words.length * 4, nameOffset].flatMap bigEndian ++ words.flatMap bigEndian

def sampleCells : List Nat := sampleProperty 0 [2] ++ sampleProperty 15 [2]

/-- A tree with one entry in its reservation block, one reserved range and an initial RAM disk. -/
def sampleTree : List Nat :=
  deviceTree [(0x50000000, 0x1000)]
    ([1, 0].flatMap bigEndian ++ sampleCells ++
      bigEndian 1 ++ "chosen".toList.map Char.toNat ++ [0, 0] ++
        sampleProperty 31 [0, 0x60000000] ++ sampleProperty 50 [0, 0x60100000] ++ bigEndian 2 ++
      bigEndian 1 ++ "reserved-memory".toList.map Char.toNat ++ [0] ++ sampleCells ++
        bigEndian 1 ++ "pool".toList.map Char.toNat ++ [0, 0, 0, 0] ++
          sampleProperty 27 [0, 0x70000000, 0, 0x10000] ++ bigEndian 2 ++ bigEndian 2 ++
      [2, 9].flatMap bigEndian)
    sampleStrings

def sampleParsed : FdtResult where
  accepted := true
  tables :=
    { reservedRanges := [⟨0x50000000, 0x50001000⟩, ⟨0x70000000, 0x70010000⟩]
      initrdStart := 0x60000000
      initrdEnd := 0x60100000 }
  dtbSize := sampleTree.length

theorem parseFdt_sampleTree :
    parseFdt (bytesAt 0x48000000 sampleTree) 0x48000000 = some sampleParsed := by
  decide +kernel

def crowdedReservations (count : Nat) : List (Nat × Nat) :=
  (List.range count).map fun index => (0x50000000 + index * 0x2000, 0x1000)

/-- A tree with nothing but a reservation block. -/
def crowdedTree (count : Nat) : List Nat :=
  deviceTree (crowdedReservations count) (bigEndian 9) []

def crowdedParsed (count : Nat) : FdtResult where
  accepted := true
  tables := { reservedRanges := (crowdedReservations count).map declaredRange }
  dtbSize := (crowdedTree count).length

/-- Thirty reservations fill the table together with the kernel and the tree. -/
theorem prepareBootProtocol_protects_sampleTree :
    (∃ map, prepareBootProtocol (bytesAt 0x48000000 sampleTree) sampleKernel 0x48000000 = some map ∧
      Protects map
        (Protected (bytesAt 0x48000000 sampleTree) sampleKernel 0x48000000 sampleParsed)) ∧
    ∃ map, prepareBootProtocol (bytesAt 0x48000000 (crowdedTree 30)) sampleKernel 0x48000000 =
        some map ∧
      Protects map (Protected (bytesAt 0x48000000 (crowdedTree 30)) sampleKernel 0x48000000
        (crowdedParsed 30)) := by
  constructor
  · obtain ⟨map, hmap, -, hprotects⟩ :=
      prepareBootProtocol_protects_iff sampleKernel parseFdt_sampleTree rfl
    exact ⟨map, hmap, hprotects
      { room := by decide +kernel
        direct := by decide +kernel
        cells := by decide +kernel
        initrd := by decide }⟩
  · have hparsed : parseFdt (bytesAt 0x48000000 (crowdedTree 30)) 0x48000000 =
        some (crowdedParsed 30) := by decide +kernel
    obtain ⟨map, hmap, -, hprotects⟩ := prepareBootProtocol_protects_iff sampleKernel hparsed rfl
    exact ⟨map, hmap, hprotects
      { room := by decide +kernel
        direct := by decide +kernel
        cells := by decide +kernel
        initrd := by decide }⟩

/-- The table of reserved ranges is full before the kernel and the tree are added to it. The memory
below the first reservation, with the kernel and the tree in it, becomes one free entry. -/
theorem prepareBootProtocol_crowdedTree :
    parseFdt (bytesAt 0x48000000 (crowdedTree 32)) 0x48000000 = some (crowdedParsed 32) ∧
      ∃ map, prepareBootProtocol (bytesAt 0x48000000 (crowdedTree 32)) sampleKernel 0x48000000 =
          some map ∧
        ∃ entry ∈ map, entry.type = .free ∧ entry.range.Contains sampleKernel.start ∧
          entry.range.Contains 0x48000000 ∧
          Protected (bytesAt 0x48000000 (crowdedTree 32)) sampleKernel 0x48000000 (crowdedParsed 32)
            sampleKernel.start := by
  have hparsed :
      parseFdt (bytesAt 0x48000000 (crowdedTree 32)) 0x48000000 = some (crowdedParsed 32) := by
    decide +kernel
  refine ⟨hparsed, _, by rw [prepareBootProtocol, hparsed, Option.map_some],
    ⟨0x40000000, 0x10000, .free⟩, by decide +kernel, rfl, by decide, by decide, .inl ?_⟩
  exact ⟨le_rfl, sampleKernel.nonempty⟩

end A9N.Hal.Aarch64Boot
