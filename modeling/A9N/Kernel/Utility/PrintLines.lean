import A9N.Kernel.Utility.Print

/-!
# Faithful conversions

What the log writes can be read back: blanks, zeros and a sign in front of a numeral do not change its
value. So a conversion writes the padded numeral of its argument exactly where the writer is given the
argument's value, and a line of such conversions is logged as it should read.
-/

namespace A9N.Kernel.Print

open List

namespace Conversion

variable {conversion : Conversion} {argument : Word}

/-! ## Reading a numeral back -/

/-- The value of a character as a digit; a blank and a sign count as zeros. -/
def charValue (char : Char) : Nat :=
  if char.isDigit then char.toNat - 48
  else if 'a' ≤ char ∧ char ≤ 'f' then char.toNat - 87
  else if 'A' ≤ char ∧ char ≤ 'F' then char.toNat - 55
  else 0

def reading (base : Nat) (chars : List Char) : Nat :=
  chars.foldl (fun number char => base * number + charValue char) 0

theorem reading_append (base : Nat) {lead : List Char} (hlead : ∀ char ∈ lead, charValue char = 0)
    (chars : List Char) : reading base (lead ++ chars) = reading base chars := by
  have hzero : reading base lead = 0 := by
    unfold reading
    induction lead with
    | nil => rfl
    | cons char lead ih =>
      rw [foldl_cons, hlead char mem_cons_self]
      exact ih fun char hchar => hlead char (mem_cons_of_mem _ hchar)
  unfold reading at *
  rw [foldl_append, hzero]

theorem reading_toDigits {base : Nat} (hbase : 1 < base) {shape : Char → Char}
    (hshape : ∀ d < base, charValue (shape d.digitChar) = d) (number : Nat) :
    reading base ((Nat.toDigits base number).map shape) = number := by
  induction number using Nat.strong_induction_on with
  | _ number ih =>
    rw [Nat.toDigits_eq_if hbase]
    split
    case isTrue hsmall => simp [reading, hshape number hsmall]
    case isFalse hlarge =>
      have hlt : number / base < number := Nat.div_lt_self (by omega) hbase
      rw [map_append, reading, foldl_append]
      change (base * reading base _ + charValue _) = number
      rw [ih _ hlt, hshape _ (Nat.mod_lt _ (by omega)), Nat.div_add_mod]

def radix (specifier : Specifier) : Nat :=
  match specifier with
  | .d | .u => 10
  | .x | .upperX => 16

theorem reading_digits (specifier : Specifier) (number : Nat) :
    reading (radix specifier) (digits specifier number) = number := by
  have hdecimal : ∀ d < 10, charValue (id d.digitChar) = d := by decide
  have hlower : ∀ d < 16, charValue (id d.digitChar) = d := by decide
  have hupper : ∀ d < 16, charValue d.digitChar.toUpper = d := by decide
  cases specifier with
  | d | u => simpa [radix, digits] using reading_toDigits (by decide) hdecimal number
  | x => simpa [radix, digits] using reading_toDigits (by decide) hlower number
  | upperX => exact reading_toDigits (by decide) hupper number

theorem mem_toDigits {base : Nat} (hbase : 1 < base) {number : Nat} {char : Char}
    (h : char ∈ Nat.toDigits base number) : ∃ d < base, char = d.digitChar := by
  induction number using Nat.strong_induction_on with
  | _ number ih =>
    rw [Nat.toDigits_eq_if hbase] at h
    split at h
    case isTrue hsmall => exact ⟨number, hsmall, mem_singleton.mp h⟩
    case isFalse hlarge =>
      rcases mem_append.mp h with h | h
      · exact ih _ (Nat.div_lt_self (by omega) hbase) h
      · exact ⟨_, Nat.mod_lt _ (by omega), mem_singleton.mp h⟩

/-- Neither a sign, nor what is written of the most negative number, nor a terminator is a digit. -/
theorem not_mem_digits (char : Char) (hmem : char ∈ ['-', '(', '\x00']) (specifier : Specifier)
    (number : Nat) : char ∉ digits specifier number := by
  have hnot : ∀ d < 16, ∀ char ∈ ['-', '(', '\x00'],
      char ≠ d.digitChar ∧ char ≠ d.digitChar.toUpper := by
    intro d hd char hchar
    simp only [mem_cons, not_mem_nil, or_false] at hchar
    rcases hchar with rfl | rfl | rfl <;> interval_cases d <;> exact ⟨by decide, by decide⟩
  intro h
  cases specifier with
  | d | u =>
    obtain ⟨d, hd, rfl⟩ := mem_toDigits (by decide) h
    exact (hnot d (by omega) _ hmem).1 rfl
  | x =>
    obtain ⟨d, hd, rfl⟩ := mem_toDigits (by decide) h
    exact (hnot d hd _ hmem).1 rfl
  | upperX =>
    obtain ⟨c, hc, rfl⟩ := mem_map.mp h
    obtain ⟨d, hd, rfl⟩ := mem_toDigits (by decide) hc
    exact (hnot d hd _ hmem).2 rfl

theorem digits_ne_nil (specifier : Specifier) (number : Nat) : digits specifier number ≠ [] := by
  cases specifier <;> simp [digits, Nat.toDigits_ne_nil]

/-- A padded numeral: blanks, zeros and a sign where the number is negative, and then the digits. -/
structure Shows (specifier : Specifier) (number : Int) (chars : List Char) : Prop where
  split : ∃ lead, chars = lead ++ digits specifier number.natAbs ∧
    (∀ char ∈ lead, charValue char = 0) ∧ ('-' ∈ lead ↔ number < 0)

theorem Shows.number_eq {specifier : Specifier} {number number' : Int} {chars : List Char}
    (h : Shows specifier number chars) (h' : Shows specifier number' chars) : number = number' := by
  obtain ⟨lead, hchars, hlead, hsign⟩ := h
  obtain ⟨lead', hchars', hlead', hsign'⟩ := h'
  have habs : number.natAbs = number'.natAbs := by
    rw [← reading_digits specifier number.natAbs, ← reading_append _ hlead, ← hchars, hchars',
      reading_append _ hlead', reading_digits]
  have hminus : number < 0 ↔ number' < 0 := by
    have hmem : '-' ∈ lead ↔ '-' ∈ chars := by
      simp [hchars, not_mem_digits '-' (by decide)]
    have hmem' : '-' ∈ lead' ↔ '-' ∈ chars := by
      simp [hchars', not_mem_digits '-' (by decide)]
    rw [← hsign, ← hsign', hmem, hmem']
  omega

theorem written_shows (conversion : Conversion) (number : Int) :
    Shows conversion.specifier number (conversion.written number) := by
  refine ⟨_, rfl, fun char hchar => ?_, ?_⟩
  · rcases mem_append.mp hchar with hchar | hchar
    · unfold sign at hchar
      split_ifs at hchar <;> simp_all [charValue]
    · rw [eq_of_mem_replicate hchar]
      split <;> rfl
  · unfold sign
    split_ifs <;> simp_all [mem_replicate]

theorem rendered_eq (conversion : Conversion) (argument : Word) :
    conversion.rendered argument =
      if 0 < conversion.zeros ∨ 0 ≤ conversion.value argument then
        conversion.written (conversion.value argument)
      else replicate (conversion.width - (sign (conversion.value argument) ++
          digits conversion.specifier (conversion.value argument).natAbs).length) ' ' ++
        '-' :: digits conversion.specifier (conversion.value argument).natAbs := by
  unfold rendered written
  by_cases hzeros : 0 < conversion.zeros
  · simp [hzeros]
  · by_cases hnonneg : 0 ≤ conversion.value argument
    · have hsign : sign (conversion.value argument) = [] := if_neg (by omega)
      simp [hzeros, hnonneg, hsign]
    · have hsign : sign (conversion.value argument) = ['-'] := if_pos (by omega)
      simp [hzeros, hnonneg, hsign]

theorem rendered_shows (conversion : Conversion) (argument : Word) :
    Shows conversion.specifier (conversion.value argument) (conversion.rendered argument) := by
  rw [rendered_eq]
  split
  · exact written_shows conversion _
  next hblank =>
    refine ⟨_, (append_assoc _ ['-'] _).symm, fun char hchar => ?_, ?_⟩
    · rcases mem_append.mp hchar with hchar | hchar
      · rw [eq_of_mem_replicate hchar]
        rfl
      · rw [mem_singleton.mp hchar]
        rfl
    · simpa using fun h => hblank (.inr h)

theorem rendered_length (conversion : Conversion) (argument : Word) :
    (conversion.rendered argument).length = max conversion.width
      (sign (conversion.value argument) ++
        digits conversion.specifier (conversion.value argument).natAbs).length := by
  unfold rendered
  dsimp only
  split <;> simp only [length_append, length_replicate] <;> omega

/-- The sign stands where it should exactly if no blanks are asked for in front of it. -/
theorem written_eq_rendered_iff :
    conversion.written (conversion.value argument) = conversion.rendered argument ↔
      (conversion.value argument < 0 → 0 < conversion.zeros ∨ conversion.width ≤
        1 + (digits conversion.specifier (conversion.value argument).natAbs).length) := by
  rw [rendered_eq]
  split
  next hgood =>
    refine iff_of_true rfl fun hnegative => .inl (hgood.resolve_right (by omega))
  next hbad =>
    rw [not_or] at hbad
    have hnegative : conversion.value argument < 0 := by omega
    have hsign : sign (conversion.value argument) = ['-'] := if_pos hnegative
    unfold written
    simp only [hsign, hbad.1, hnegative, if_false, forall_const, false_or, singleton_append,
      length_cons]
    constructor
    · intro heq
      by_contra hwide
      obtain ⟨missing, hmissing⟩ : ∃ missing, conversion.width -
          ((digits conversion.specifier (conversion.value argument).natAbs).length + 1) =
            missing + 1 := ⟨_, (Nat.succ_pred_eq_of_pos (by omega)).symm⟩
      rw [hmissing, replicate_succ] at heq
      simp at heq
    · intro hnarrow
      have hmissing : conversion.width -
          ((digits conversion.specifier (conversion.value argument).natAbs).length + 1) = 0 := by
        omega
      rw [hmissing]
      rfl

end Conversion

/-! ## The width that is read -/

theorem parseFlags_width_lt {flags : Flags} (hflags : flags.width < 2 ^ 31) (format : List Char) :
    (parseFlags flags format).1.width < 2 ^ 31 := by
  have hbmod : ∀ width : Int, width.bmod (2 ^ 32) < 2 ^ 31 := by
    intro width
    have := Int.bmod_lt (x := width) (m := 2 ^ 32) (by decide)
    omega
  fun_induction parseFlags flags format <;> simp_all

theorem digitsLoop_length {base : Nat} {digit : Int → Char} {free : Nat} {count : Int}
    {buffer digits : List Char} (h : digitsLoop base digit free count buffer = some digits) :
    digits.length ≤ free + buffer.length := by
  induction free generalizing count buffer with
  | zero => cases h
  | succ free ih =>
    rw [digitsLoop] at h
    split at h
    · have := ih h
      simp only [length_cons] at this
      omega
    · cases h
      simp only [length_cons]
      omega

theorem padded_length {width : Int} (hwidth : width < 2 ^ 31) {zeroPad : Bool} {digits : List Char}
    (hdigits : digits.length ≤ 20) : (padding width zeroPad digits ++ digits).length < 2 ^ 31 := by
  unfold padding
  rw [length_append, length_replicate]
  omega

theorem writeUnsigned_length {base capacity count : Nat} {digit : Int → Char} {width : Int}
    (hwidth : width < 2 ^ 31) (hcapacity : capacity ≤ 20) {zeroPad : Bool} {chars : List Char}
    (h : writeUnsigned base digit capacity count width zeroPad = some chars) :
    chars.length < 2 ^ 31 := by
  obtain ⟨digits, hdigits, rfl⟩ := Option.map_eq_some_iff.mp h
  have hlength := digitsLoop_length hdigits
  exact padded_length hwidth (hlength.trans hcapacity)

theorem writeSigned_length {bits capacity : Nat} {count width : Int} (hwidth : width < 2 ^ 31)
    (hcapacity : capacity ≤ 20) {zeroPad : Bool} {chars : List Char}
    (h : writeSigned bits capacity count width zeroPad = some chars) : chars.length < 2 ^ 31 := by
  unfold writeSigned at h
  split at h
  · obtain ⟨digits, hdigits, rfl⟩ := Option.map_eq_some_iff.mp h
    have := digitsLoop_length hdigits
    unfold padding
    simp only [length_cons, length_append, length_replicate, length_nil] at *
    omega
  · obtain ⟨digits, hdigits, rfl⟩ := Option.map_eq_some_iff.mp h
    have hlength := digitsLoop_length hdigits
    exact padded_length hwidth (hlength.trans hcapacity)

theorem writeInteger_length {flags : Flags} (hwidth : flags.width < 2 ^ 31) {char : Char}
    {argument : Word} {chars : List Char}
    (h : writeInteger flags char argument = some (some chars)) : chars.length < 2 ^ 31 := by
  unfold writeInteger at h
  split_ifs at h <;> rw [Option.some.injEq] at h <;>
    first
      | exact writeSigned_length hwidth (by decide) h
      | exact writeUnsigned_length hwidth (by decide) h

/-! ## Whole conversions -/

section

variable {text : Word → List Char} {room : Nat} {argument : Word} {arguments : List Word}

theorem writeInteger_some (flags : Flags) (specifier : Specifier) (argument : Word) :
    ∃ written, writeInteger flags (Conversion.char specifier) argument = some written := by
  cases specifier <;> exact ⟨_, rfl⟩

theorem processFormat_eq_some_iff {format chars rest : List Char} {specifier : Specifier} :
    processFormat text room format (argument :: arguments) =
        some (chars, Conversion.char specifier :: rest, arguments) ↔
      (parseFlags {} format).2 = Conversion.char specifier :: rest ∧
        writeInteger (parseFlags {} format).1 (Conversion.char specifier) argument =
          some (some chars) ∧ chars.length ≤ room := by
  unfold processFormat convert
  dsimp only
  by_cases hrest : (parseFlags {} format).2 = Conversion.char specifier :: rest
  · obtain ⟨written, hwritten⟩ := writeInteger_some (parseFlags {} format).1 specifier argument
    rw [hrest, headD_cons, hwritten]
    cases written with
    | none => simp
    | some written =>
      by_cases hroom : written.length ≤ room
      · simp only [Option.map_some, Option.bind_some, hroom, if_true, Option.some.injEq,
          Prod.mk.injEq, and_true, true_and]
        exact ⟨fun h => ⟨h, h ▸ hroom⟩, fun h => h.1⟩
      · simp only [Option.map_some, Option.bind_some, hroom, if_false, reduceCtorEq,
          Option.some.injEq, true_and, false_iff, not_and]
        rintro rfl
        exact hroom
  · simp only [hrest, false_and, iff_false]
    intro h
    obtain ⟨written, -, h⟩ := Option.bind_eq_some_iff.mp h
    split_ifs at h
    simp only [Option.some.injEq, Prod.mk.injEq] at h
    exact hrest h.2.1

variable {conversion : Conversion} {rest : List Char}

theorem processFormat_renders (hfaithful : conversion.Faithful argument room) :
    processFormat text room (conversion.format ++ rest) (argument :: arguments) =
      some (conversion.rendered argument, Conversion.char conversion.specifier :: rest, arguments) := by
  have hvalue : conversion.received argument = conversion.value argument :=
    Conversion.received_eq_value_iff.mpr
      ⟨fun hd => ⟨(hfaithful.signed hd).1.le, (hfaithful.signed hd).2⟩, hfaithful.unsigned⟩
  rw [processFormat_eq_some_iff, Conversion.rendered_length,
    parseFlags_format conversion hfaithful.width rest]
  refine ⟨rfl, ?_, hfaithful.fits⟩
  rw [Conversion.writeInteger_eq fun hd => ?_, hvalue,
    Conversion.written_eq_rendered_iff.mpr hfaithful.sign]
  rw [hvalue]
  exact (hfaithful.signed hd).1.ne'

theorem faithful_of_processFormat
    (h : processFormat text room (conversion.format ++ rest) (argument :: arguments) =
      some (conversion.rendered argument, Conversion.char conversion.specifier :: rest, arguments)) :
    conversion.Faithful argument room := by
  rw [processFormat_eq_some_iff, Conversion.rendered_length] at h
  obtain ⟨-, hwritten, hroom⟩ := h
  have hwidth : conversion.width < 2 ^ 31 := by
    have := writeInteger_length (parseFlags_width_lt (by decide) _) hwritten
    rw [Conversion.rendered_length] at this
    omega
  rw [parseFlags_format conversion hwidth rest] at hwritten
  -- the most negative number ends in no digit
  have hleast : conversion.specifier = .d →
      conversion.received argument ≠ -2 ^ (conversion.bits - 1) := by
    intro hspecifier hleast
    obtain ⟨lead, hlead⟩ := Conversion.writeInteger_least hspecifier hleast
    rw [hlead, Option.some.injEq, Option.some.injEq] at hwritten
    obtain ⟨lead', hrendered, -⟩ := Conversion.rendered_shows conversion argument
    rw [hrendered] at hwritten
    have hlast := congrArg getLast? hwritten
    rw [getLast?_concat, getLast?_append_of_ne_nil _ (Conversion.digits_ne_nil _ _)] at hlast
    exact Conversion.not_mem_digits '(' (by decide) _ _ (mem_of_getLast? hlast.symm)
  rw [Conversion.writeInteger_eq hleast, Option.some.injEq, Option.some.injEq] at hwritten
  -- what is written can be read back, so the writer was given the value itself
  have hvalue : conversion.received argument = conversion.value argument := by
    have hshows := Conversion.written_shows conversion (conversion.received argument)
    rw [hwritten] at hshows
    exact hshows.number_eq (Conversion.rendered_shows conversion argument)
  obtain ⟨hsigned, hunsigned⟩ := Conversion.received_eq_value_iff.mp hvalue
  rw [hvalue] at hwritten hleast
  exact ⟨hwidth, fun hd => ⟨lt_of_le_of_ne (hsigned hd).1 (hleast hd).symm, (hsigned hd).2⟩,
    hunsigned, Conversion.written_eq_rendered_iff.mp hwritten, hroom⟩

/-- An integer conversion writes the numeral of its argument, padded to its width, and takes one
argument exactly where it is faithful. -/
theorem processFormat_renders_iff (text : Word → List Char) (room : Nat) (conversion : Conversion)
    (argument : Word) (rest : List Char) (arguments : List Word) :
    processFormat text room (conversion.format ++ rest) (argument :: arguments) =
        some (conversion.rendered argument, Conversion.char conversion.specifier :: rest, arguments) ↔
      conversion.Faithful argument room :=
  ⟨faithful_of_processFormat, processFormat_renders⟩

example : processFormat (fun _ => []) 1024 "08llx\n".toList [0xbeef] =
    some ("0000beef".toList, "x\n".toList, []) := by
  decide +kernel

end

/-- A `long` loses its upper half, the most negative number has no digits, blanks stand between a minus
sign and the digits, and nothing keeps a wide field inside the log's buffer. -/
theorem processFormat_misrenders :
    processFormat (fun _ => []) 1024 "ld".toList [0x100000000] = some ("0".toList, ['d'], []) ∧
    processFormat (fun _ => []) 1024 "d".toList [0x80000000] = some ("-(".toList, ['d'], []) ∧
    processFormat (fun _ => []) 1024 "5d".toList [0xffffffff] = some ("-   1".toList, ['d'], []) ∧
    Conversion.rendered { modifier := .l, specifier := .d } 0x100000000 = "4294967296".toList ∧
    Conversion.rendered { specifier := .d } 0x80000000 = "-2147483648".toList ∧
    Conversion.rendered { width := 5, specifier := .d } 0xffffffff = "   -1".toList ∧
    processFormat (fun _ => []) 1024 "1025d".toList [0] = none := by
  decide +kernel

/-! ## Lines of the log -/

/-- A piece of a format with its arguments: a plain character or an integer conversion. -/
inductive Piece
  | plain (char : Char)
  | number (conversion : Conversion) (argument : Word)

namespace Piece

def format : Piece → List Char
  | plain char => [char]
  | number conversion _ => '%' :: conversion.format

def arguments : Piece → List Word
  | plain _ => []
  | number _ argument => [argument]

def rendered : Piece → List Char
  | plain char => [char]
  | number conversion argument => conversion.rendered argument

/-- A plain character is neither a percent sign nor the terminator, and a conversion is faithful in
a buffer of its own. -/
def Printable : Piece → Prop
  | plain char => char ≠ '%' ∧ char ≠ '\x00'
  | number conversion argument =>
    conversion.Faithful argument (conversion.rendered argument).length

end Piece

theorem Conversion.Faithful.mono {conversion : Conversion} {argument : Word} {room room' : Nat}
    (h : conversion.Faithful argument room) (hle : room ≤ room') :
    conversion.Faithful argument room' :=
  ⟨h.width, h.signed, h.unsigned, h.sign, h.fits.trans hle⟩

section

variable {text : Word → List Char} {room : Nat} {pieces : List Piece}

/-- `vsprintf` writes every piece of a line that fits into the buffer with its terminator. -/
theorem vsprintf_pieces (hpieces : ∀ piece ∈ pieces, piece.Printable)
    (hroom : (pieces.flatMap Piece.rendered).length < room) :
    vsprintf text room (pieces.flatMap Piece.format) (pieces.flatMap Piece.arguments) =
      some (pieces.flatMap Piece.rendered) := by
  induction pieces generalizing room with
  | nil =>
    rw [flatMap_nil, vsprintf]
    exact if_pos (Nat.zero_lt_of_lt hroom)
  | cons piece pieces ih =>
    have hrest : ∀ room, (pieces.flatMap Piece.rendered).length < room →
        vsprintf text room (pieces.flatMap Piece.format) (pieces.flatMap Piece.arguments) =
          some (pieces.flatMap Piece.rendered) :=
      fun _ hlt => ih (fun piece hpiece => hpieces piece (mem_cons_of_mem _ hpiece)) hlt
    have hpiece := hpieces piece mem_cons_self
    simp only [flatMap_cons, length_append] at hroom ⊢
    cases piece with
    | plain char =>
      simp only [Piece.rendered, length_singleton] at hroom
      simp only [Piece.format, Piece.arguments, Piece.rendered, singleton_append, nil_append]
      rw [vsprintf, if_neg hpiece.1, if_pos (by omega), hrest _ (by omega), Option.map_some]
    | number conversion argument =>
      simp only [Piece.rendered] at hroom
      have hconversion : processFormat text room
          (conversion.format ++ pieces.flatMap Piece.format)
          (argument :: pieces.flatMap Piece.arguments) = some (conversion.rendered argument,
            Conversion.char conversion.specifier :: pieces.flatMap Piece.format,
            pieces.flatMap Piece.arguments) :=
        processFormat_renders (hpiece.mono (by omega))
      simp only [Piece.format, Piece.arguments, Piece.rendered, cons_append, nil_append]
      rw [vsprintf, if_pos rfl]
      split
      next chars _ rest others hsome =>
        rw [hconversion] at hsome
        cases hsome
        rw [hrest _ (by omega), Option.map_some]
      next hnone => exact absurd hconversion (hnone _ _ _ _)

theorem Piece.terminator_not_mem {piece : Piece} (h : piece.Printable) : '\x00' ∉ piece.rendered := by
  cases piece with
  | plain char => simpa [rendered] using h.2.symm
  | number conversion argument =>
    have hdigits := Conversion.not_mem_digits '\x00' (by decide) conversion.specifier
      (conversion.value argument).natAbs
    have hsign : '\x00' ∉ Conversion.sign (conversion.value argument) := by
      unfold Conversion.sign
      split <;> decide
    unfold rendered Conversion.rendered
    dsimp only
    split <;> simp [hdigits, hsign, mem_replicate]

/-- A line of plain characters and faithful conversions that is shorter than `print_buffer` is logged
as it should read. -/
theorem vprintf_pieces (hpieces : ∀ piece ∈ pieces, piece.Printable)
    (hroom : (pieces.flatMap Piece.rendered).length < printBufferSize) :
    vprintf text (pieces.flatMap Piece.format) (pieces.flatMap Piece.arguments) =
      some (pieces.flatMap Piece.rendered) := by
  have hend : '\x00' ∉ pieces.flatMap Piece.rendered := by
    intro hmem
    obtain ⟨piece, hpiece, hchar⟩ := mem_flatMap.mp hmem
    exact Piece.terminator_not_mem (hpieces piece hpiece) hchar
  have htext : (pieces.flatMap Piece.rendered).takeWhile (· ≠ '\x00') =
      pieces.flatMap Piece.rendered := by
    rw [takeWhile_eq_self_iff]
    intro char hchar
    exact decide_eq_true fun heq => hend (heq ▸ hchar)
  unfold vprintf printf
  rw [vsprintf_pieces hpieces hroom, Option.bind_some, htext]
  generalize pieces.flatMap Piece.rendered = line at hroom
  have hstring : processFormat (fun _ => line) printBufferSize ['s'] [0] =
      some (line, ['s'], []) := by
    simp [processFormat, parseFlags, convert, writeInteger, writeString, padding, hroom.le]
  change vsprintf _ _ ['%', 's'] [0] = _
  rw [vsprintf, if_pos rfl]
  split
  next chars _ rest others hsome =>
    rw [hstring] at hsome
    cases hsome
    rw [vsprintf, if_pos (by omega), Option.map_some, append_nil]
  next hnone => exact absurd hstring (hnone _ _ _ _)

end

end A9N.Kernel.Print
