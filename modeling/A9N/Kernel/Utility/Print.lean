import A9N.Framework.Word

/-!
# Numbers in the kernel log

`print.cpp`: the conversions of `process_format` and the loop of `vsprintf` around them. Digits are
written from the least significant one on into a buffer of fixed size, which is then copied behind the
padding. The log prints through `print_buffer`, whose size nothing checks.
-/

namespace A9N.Kernel.Print

open List

/-! ## Digits -/

/-- The loop of the writers: one digit of `count` after the other in front of `buffer`, with `free`
places left in it. The division is that of C, so a negative `count` has a negative digit and ends the
loop. The result is missing where the buffer is full. -/
def digitsLoop (base : Nat) (digit : Int → Char) : Nat → Int → List Char → Option (List Char)
  | 0, _, _ => none
  | free + 1, count, buffer =>
    let buffer := digit (count.tmod base) :: buffer
    let count := count.tdiv base
    if 0 < count then digitsLoop base digit free count buffer else some buffer

def decimalDigit (digit : Int) : Char := Char.ofNat (48 + digit).toNat

def hexDigit (uppercase : Bool) (digit : Int) : Char :=
  if digit < 10 then Char.ofNat (48 + digit).toNat
  else Char.ofNat ((if uppercase then 65 else 97) + digit - 10).toNat

/-- The padding in front of the digits; `width` is what the sign has left of it. -/
def padding (width : Int) (zeroPad : Bool) (digits : List Char) : List Char :=
  List.replicate (width - digits.length).toNat (if zeroPad then '0' else ' ')

/-- The writer of an unsigned number: `write_uint`, `write_hex` and their `ll` forms. -/
def writeUnsigned (base : Nat) (digit : Int → Char) (capacity count : Nat) (width : Int)
    (zeroPad : Bool) : Option (List Char) :=
  (digitsLoop base digit capacity count []).map fun digits => padding width zeroPad digits ++ digits

/-- The writer of a signed number of `bits` bits: `write_int` and `write_int_ll`. The sign stands in
front of the padding, and `-count` wraps around as it does on both targets. -/
def writeSigned (bits capacity : Nat) (count width : Int) (zeroPad : Bool) : Option (List Char) :=
  if count < 0 then
    (digitsLoop 10 decimalDigit capacity ((-count).bmod (2 ^ bits)) []).map fun digits =>
      '-' :: (padding (width - 1) zeroPad digits ++ digits)
  else (digitsLoop 10 decimalDigit capacity count []).map fun digits =>
    padding width zeroPad digits ++ digits

def writeInt : Int → Int → Bool → Option (List Char) := writeSigned 32 10
def writeIntLl : Int → Int → Bool → Option (List Char) := writeSigned 64 20
def writeUint : Nat → Int → Bool → Option (List Char) := writeUnsigned 10 decimalDigit 10
def writeUintLl : Nat → Int → Bool → Option (List Char) := writeUnsigned 10 decimalDigit 20
def writeHex (uppercase : Bool) : Nat → Int → Bool → Option (List Char) :=
  writeUnsigned 16 (hexDigit uppercase) 8
def writeHexLl (uppercase : Bool) : Nat → Int → Bool → Option (List Char) :=
  writeUnsigned 16 (hexDigit uppercase) 16

/-! ## Formats -/

/-- What stands between the percent sign and the conversion character. -/
structure Flags where
  width : Int := 0
  zeroPad : Bool := false
  longModifier : Bool := false
  longLongModifier : Bool := false

/-- The loop of `process_format`: the flags and the format from the conversion character on. The width
is an `int`. -/
def parseFlags : Flags → List Char → Flags × List Char
  | flags, [] => (flags, [])
  | flags, char :: rest =>
    if char = '0' ∧ flags.width = 0 then parseFlags { flags with zeroPad := true } rest
    else if '1' ≤ char ∧ char ≤ '9' then
      parseFlags { flags with width :=
        (flags.width * 10 + (char.toNat - '0'.toNat : Nat)).bmod (2 ^ 32) } rest
    else if char = '0' then
      parseFlags { flags with width := (flags.width * 10).bmod (2 ^ 32) } rest
    else if char = 'l' then
      match rest with
      | 'l' :: rest => parseFlags { flags with longLongModifier := true } rest
      | rest => parseFlags { flags with longModifier := true } rest
    else (flags, char :: rest)

/-- An argument as an `int`, where an `int` or a `long` is passed on to `write_int`. -/
def toInt32 (argument : Word) : Int := (argument.setWidth 32).toInt

/-- An argument as an `unsigned int`. -/
def toUint32 (argument : Word) : Nat := (argument.setWidth 32).toNat

/-- The branches of the integer conversions; `none` for any other character. -/
def writeInteger (flags : Flags) (char : Char) (argument : Word) : Option (Option (List Char)) :=
  if char = 'd' then some <|
    if flags.longModifier then writeInt (toInt32 argument) flags.width flags.zeroPad
    else if flags.longLongModifier then writeIntLl argument.toInt flags.width flags.zeroPad
    else writeInt (toInt32 argument) flags.width flags.zeroPad
  else if char = 'x' then some <|
    if flags.longLongModifier then writeHexLl false argument.toNat flags.width flags.zeroPad
    else writeHex false (toUint32 argument) flags.width flags.zeroPad
  else if char = 'X' then some <|
    if flags.longModifier then writeHex true (toUint32 argument) flags.width flags.zeroPad
    else if flags.longLongModifier then writeHexLl true argument.toNat flags.width flags.zeroPad
    else writeHex true (toUint32 argument) flags.width flags.zeroPad
  else if char = 'u' then some <|
    if flags.longModifier then writeUint (toUint32 argument) flags.width flags.zeroPad
    else if flags.longLongModifier then writeUintLl argument.toNat flags.width flags.zeroPad
    else writeUint (toUint32 argument) flags.width flags.zeroPad
  else none

def writeString (text : List Char) (width : Int) : List Char := padding width false text ++ text

def writePointer (pointer : Word) : List Char :=
  '0' :: 'x' :: (List.range 16).map fun nibble =>
    hexDigit false ((pointer >>> (60 - 4 * nibble)) &&& 0xf).toNat

/-- The switch of `process_format`: what it writes and the arguments that are left. `text` gives the
strings that arguments point to. The result is missing where an argument is. -/
def convert (text : Word → List Char) (flags : Flags) (char : Char) (arguments : List Word) :
    Option (List Char × List Word) :=
  match arguments with
  | [] => if char ∈ ['d', 'x', 'X', 's', 'p', 'u', 'c'] then none else some (['%', char], [])
  | argument :: others =>
    match writeInteger flags char argument with
    | some written => written.map fun chars => (chars, others)
    | none =>
      if char = 's' then some (writeString (text argument) flags.width, others)
      else if char = 'p' then some (writePointer argument, others)
      else if char = 'c' then some ([Char.ofNat (argument.toNat % 2 ^ 8)], others)
      else some (['%', char], argument :: others)

/-- `process_format` behind a percent sign, with `room` characters at the destination: what it writes,
the format from the conversion character on and the arguments that are left. The result is missing
where an argument is and where more is written than the destination holds. -/
def processFormat (text : Word → List Char) (room : Nat) (format : List Char)
    (arguments : List Word) : Option (List Char × List Char × List Word) :=
  let (flags, rest) := parseFlags {} format
  (convert text flags (rest.headD '\x00') arguments).bind fun (chars, arguments) =>
    if chars.length ≤ room then some (chars, rest, arguments) else none

theorem parseFlags_length (flags : Flags) (format : List Char) :
    (parseFlags flags format).2.length ≤ format.length := by
  fun_induction parseFlags flags format <;> simp_all <;> omega

theorem processFormat_length {text : Word → List Char} {room : Nat} {format rest chars : List Char}
    {arguments others : List Word}
    (h : processFormat text room format arguments = some (chars, rest, others)) :
    rest.length ≤ format.length := by
  unfold processFormat at h
  obtain ⟨written, -, hroom⟩ := Option.bind_eq_some_iff.mp h
  dsimp only at hroom
  split_ifs at hroom
  simp only [Option.some.injEq, Prod.mk.injEq] at hroom
  rw [← hroom.2.1]
  exact parseFlags_length {} format

/-- `vsprintf` into a buffer with `room` characters left: the characters before the terminator. The
result is missing where `process_format` gives none, where the buffer is overrun, and where the format
ends behind a percent sign, since the loop then steps over its terminator. -/
def vsprintf (text : Word → List Char) (room : Nat) (format : List Char) (arguments : List Word) :
    Option (List Char) :=
  match format with
  | [] => if 0 < room then some [] else none
  | char :: format =>
    if char = '%' then
      match _hformat : processFormat text room format arguments with
      | some (chars, _ :: rest, arguments) =>
        (vsprintf text (room - chars.length) rest arguments).map (chars ++ ·)
      | _ => none
    else if 0 < room then (vsprintf text (room - 1) format arguments).map (char :: ·)
    else none
termination_by format.length
decreasing_by
  · have := processFormat_length _hformat
    simp only [length_cons] at *
    omega
  · simp

def printBufferSize : Nat := 1024

def printf (text : Word → List Char) (format : List Char) (arguments : List Word) :
    Option (List Char) :=
  vsprintf text printBufferSize format arguments

/-- The log's entry: the line is made in `print_buffer` and then printed from it as a string. -/
def vprintf (text : Word → List Char) (format : List Char) (arguments : List Word) :
    Option (List Char) :=
  (vsprintf text printBufferSize format arguments).bind fun line =>
    printf (fun _ => line.takeWhile (· ≠ '\x00')) "%s".toList [0]

/-! ## What a conversion should write -/

inductive Modifier
  | none | l | ll
deriving DecidableEq, Repr

inductive Specifier
  | d | u | x | upperX
deriving DecidableEq, Repr

/-- A conversion of an integer: leading zeros, which ask for a padding of zeros, the width, the length
modifier and the conversion character. -/
structure Conversion where
  zeros : Nat := 0
  width : Nat := 0
  modifier : Modifier := .none
  specifier : Specifier
deriving DecidableEq, Repr

namespace Conversion

def char : Specifier → Char
  | .d => 'd'
  | .u => 'u'
  | .x => 'x'
  | .upperX => 'X'

def modifierText : Modifier → List Char
  | .none => []
  | .l => ['l']
  | .ll => ['l', 'l']

def format (conversion : Conversion) : List Char :=
  List.replicate conversion.zeros '0' ++
    (if conversion.width = 0 then [] else Nat.toDigits 10 conversion.width) ++
    modifierText conversion.modifier ++ [char conversion.specifier]

def value (conversion : Conversion) (argument : Word) : Int :=
  match conversion.specifier, conversion.modifier with
  | .d, .none => toInt32 argument
  | .d, _ => argument.toInt
  | _, .none => toUint32 argument
  | _, _ => argument.toNat

def digits (specifier : Specifier) (number : Nat) : List Char :=
  match specifier with
  | .d | .u => Nat.toDigits 10 number
  | .x => Nat.toDigits 16 number
  | .upperX => (Nat.toDigits 16 number).map Char.toUpper

def sign (value : Int) : List Char := if value < 0 then ['-'] else []

/-- The canonical numeral, padded on the left: with zeros behind the sign or with blanks before it. -/
def rendered (conversion : Conversion) (argument : Word) : List Char :=
  let value := conversion.value argument
  let numeral := digits conversion.specifier value.natAbs
  let missing := conversion.width - (sign value ++ numeral).length
  if 0 < conversion.zeros then sign value ++ List.replicate missing '0' ++ numeral
  else List.replicate missing ' ' ++ sign value ++ numeral

def bits (conversion : Conversion) : Nat := if conversion.modifier = .ll then 64 else 32

/-- The width is an `int`, the value is one of the writer's type other than the most negative one, no
blanks are asked for in front of a minus sign, and the destination has room for the padded numeral. -/
structure Faithful (conversion : Conversion) (argument : Word) (room : Nat) : Prop where
  width : conversion.width < 2 ^ 31
  signed : conversion.specifier = .d → -2 ^ (conversion.bits - 1) < conversion.value argument ∧
    conversion.value argument < 2 ^ (conversion.bits - 1)
  unsigned : conversion.specifier ≠ .d → conversion.value argument < 2 ^ conversion.bits
  sign : conversion.value argument < 0 → 0 < conversion.zeros ∨
    conversion.width ≤ 1 + (digits conversion.specifier (conversion.value argument).natAbs).length
  fits : max conversion.width (Conversion.sign (conversion.value argument) ++
    digits conversion.specifier (conversion.value argument).natAbs).length ≤ room

end Conversion

/-! ## What is written -/

theorem digitsLoop_eq {base : Nat} (hbase : 1 < base) {digit : Int → Char} {shape : Char → Char}
    (hdigit : ∀ d < base, digit d = shape d.digitChar) {free count : Nat} (hcount : count < base ^ free)
    (hfree : 0 < free) (buffer : List Char) :
    digitsLoop base digit free count buffer =
      some ((Nat.toDigits base count).map shape ++ buffer) := by
  induction free generalizing count buffer with
  | zero => omega
  | succ free ih =>
    have hdiv : (count : Int).tdiv base = ((count / base : Nat) : Int) := rfl
    have hmod : (count : Int).tmod base = ((count % base : Nat) : Int) := rfl
    rw [digitsLoop, hdiv, hmod, hdigit _ (Nat.mod_lt _ (by omega)), Nat.toDigits_eq_if hbase]
    by_cases hlt : count < base
    · rw [Nat.div_eq_of_lt hlt, Nat.mod_eq_of_lt hlt, if_pos hlt]
      simp
    · have hpos : 0 < count / base := Nat.div_pos (not_lt.mp hlt) (by omega)
      have hrest : count / base < base ^ free := Nat.div_lt_of_lt_mul (by rwa [← Nat.pow_succ'])
      have hfree' : 0 < free := by
        rcases Nat.eq_zero_or_pos free with rfl | h
        · rw [Nat.pow_zero] at hrest
          omega
        · exact h
      rw [if_pos (by exact_mod_cast hpos), if_neg hlt, ih hrest hfree']
      simp

theorem decimalDigit_eq (d : Nat) (hd : d < 10) : decimalDigit d = id d.digitChar := by
  interval_cases d <;> rfl

theorem hexDigit_lower_eq (d : Nat) (hd : d < 16) : hexDigit false d = id d.digitChar := by
  interval_cases d <;> rfl

theorem hexDigit_upper_eq (d : Nat) (hd : d < 16) : hexDigit true d = d.digitChar.toUpper := by
  interval_cases d <;> rfl

section Writers

variable {base capacity count width : Nat} {digit : Int → Char} {shape : Char → Char}

theorem padding_eq (width : Nat) (zeroPad : Bool) (digits : List Char) :
    padding width zeroPad digits =
      replicate (width - digits.length) (if zeroPad then '0' else ' ') := by
  unfold padding
  congr 1
  omega

theorem writeUnsigned_eq (hbase : 1 < base) (hdigit : ∀ d < base, digit d = shape d.digitChar)
    (hcount : count < base ^ capacity) (hcapacity : 0 < capacity) (width : Nat) (zeroPad : Bool) :
    writeUnsigned base digit capacity count width zeroPad =
      some (replicate (width - ((Nat.toDigits base count).map shape).length)
        (if zeroPad then '0' else ' ') ++ (Nat.toDigits base count).map shape) := by
  rw [writeUnsigned, digitsLoop_eq hbase hdigit hcount hcapacity]
  simp only [append_nil, Option.map_some, padding_eq]

theorem writeSigned_eq {bits : Nat} {value : Int} (hlower : -2 ^ (bits - 1) < value)
    (hupper : value < 2 ^ (bits - 1)) (hbits : 0 < bits) (hcapacity : 2 ^ (bits - 1) ≤ 10 ^ capacity)
    (hpositive : 0 < capacity) (width : Nat) (zeroPad : Bool) :
    writeSigned bits capacity value width zeroPad = some (Conversion.sign value ++ replicate
        (width - (Conversion.sign value ++ Nat.toDigits 10 value.natAbs).length)
        (if zeroPad then '0' else ' ') ++ Nat.toDigits 10 value.natAbs) := by
  have hnatAbs : value.natAbs < 10 ^ capacity := by
    refine lt_of_lt_of_le ?_ hcapacity
    zify
    exact abs_lt.mpr ⟨hlower, hupper⟩
  have hdigits := digitsLoop_eq (by decide) decimalDigit_eq hnatAbs hpositive []
  unfold writeSigned Conversion.sign
  by_cases hnegative : value < 0
  · have hwrap : (-value).bmod (2 ^ bits) = value.natAbs := by
      have htwice : (2 : Int) ^ bits = 2 * 2 ^ (bits - 1) := by
        rw [← pow_succ', Nat.sub_add_cancel hbits]
      rw [Int.bmod_eq_of_le_mul_two]
      · omega
      · push_cast
        rw [htwice]
        omega
      · push_cast
        rw [htwice]
        omega
    rw [if_pos hnegative, if_pos hnegative, hwrap, hdigits]
    simp only [map_id, append_nil, Option.map_some, padding]
    have hmissing : ((width : Int) - 1 - (Nat.toDigits 10 value.natAbs).length).toNat =
        width - (['-'] ++ Nat.toDigits 10 value.natAbs).length := by
      simp only [length_append, length_singleton]
      omega
    rw [hmissing]
    simp
  · have habs : value = value.natAbs := by omega
    rw [if_neg hnegative, if_neg hnegative]
    rw [← habs] at hdigits
    rw [hdigits]
    simp only [map_id, append_nil, nil_append, Option.map_some, padding_eq]

end Writers

/-! ### Flags -/

theorem parseFlags_cons {char : Char} (hchar : char ≠ 'l') (flags : Flags) (rest : List Char) :
    parseFlags flags (char :: rest) =
      if char = '0' ∧ flags.width = 0 then parseFlags { flags with zeroPad := true } rest
      else if '1' ≤ char ∧ char ≤ '9' then
        parseFlags { flags with width :=
          (flags.width * 10 + (char.toNat - '0'.toNat : Nat)).bmod (2 ^ 32) } rest
      else if char = '0' then
        parseFlags { flags with width := (flags.width * 10).bmod (2 ^ 32) } rest
      else (flags, char :: rest) := by
  rw [parseFlags.eq_def]
  simp only [hchar, if_false]

theorem parseFlags_zeros (zeros : Nat) (flags : Flags) (hwidth : flags.width = 0) (rest : List Char) :
    parseFlags flags (replicate zeros '0' ++ rest) =
      parseFlags { flags with zeroPad := flags.zeroPad || decide (0 < zeros) } rest := by
  induction zeros generalizing flags with
  | zero => simp
  | succ zeros ih =>
    rw [replicate_succ, cons_append, parseFlags_cons (by decide), if_pos ⟨rfl, hwidth⟩,
      ih { flags with zeroPad := true } hwidth]
    simp

theorem parseFlags_digit (flags : Flags) {width digit : Nat} (hwidth : flags.width = width)
    (hdigit : digit < 10) (hpositive : 0 < width * 10 + digit) (hlt : width * 10 + digit < 2 ^ 31)
    (rest : List Char) : parseFlags flags (digit.digitChar :: rest) =
      parseFlags { flags with width := (width * 10 + digit : Nat) } rest := by
  have hwrap : ((width * 10 + digit : Nat) : Int).bmod (2 ^ 32) = (width * 10 + digit : Nat) := by
    rw [Int.bmod_eq_of_le_mul_two] <;> push_cast <;> omega
  have hmodifier : digit.digitChar ≠ 'l' := by interval_cases digit <;> decide
  rw [parseFlags_cons hmodifier, hwidth]
  rcases Nat.eq_zero_or_pos digit with rfl | hnonzero
  · have hne : (width : Int) ≠ 0 := by omega
    rw [if_neg (fun h => hne h.2), if_neg (by decide), if_pos (by decide), ← hwrap]
    simp
  · have hchar : digit.digitChar ≠ '0' ∧ '1' ≤ digit.digitChar ∧ digit.digitChar ≤ '9' ∧
        digit.digitChar.toNat - '0'.toNat = digit := by
      interval_cases digit <;> decide
    rw [if_neg (fun h => hchar.1 h.1), if_pos ⟨hchar.2.1, hchar.2.2.1⟩, hchar.2.2.2, ← hwrap]
    push_cast
    rfl

theorem parseFlags_width (flags : Flags) (hwidth : flags.width = 0) {width : Nat} (hpositive : 0 < width)
    (hlt : width < 2 ^ 31) (rest : List Char) :
    parseFlags flags (Nat.toDigits 10 width ++ rest) =
      parseFlags { flags with width := width } rest := by
  induction width using Nat.strong_induction_on generalizing rest with
  | _ width ih =>
    rw [Nat.toDigits_eq_if (by decide)]
    split
    case isTrue hsmall =>
      have hdigit := parseFlags_digit flags (hwidth.trans Nat.cast_zero.symm) hsmall (by omega)
        (by omega) rest
      simpa using hdigit
    case isFalse hlarge =>
      rw [append_assoc, ih (width / 10) (by omega) (by omega) (by omega), singleton_append,
        parseFlags_digit _ rfl (Nat.mod_lt _ (by decide)) (by omega) (by omega)]
      congr 2
      omega

def Conversion.flags (conversion : Conversion) : Flags where
  width := conversion.width
  zeroPad := 0 < conversion.zeros
  longModifier := conversion.modifier = .l
  longLongModifier := conversion.modifier = .ll

theorem parseFlags_long (flags : Flags) {rest : List Char} (hrest : rest.head? ≠ some 'l') :
    parseFlags flags ('l' :: rest) = parseFlags { flags with longModifier := true } rest := by
  rw [parseFlags.eq_def]
  simp only [Char.reduceEq, false_and, if_false, if_true, Char.reduceLE, and_false]
  split
  · simp at hrest
  · rfl

theorem parseFlags_longLong (flags : Flags) (rest : List Char) :
    parseFlags flags ('l' :: 'l' :: rest) =
      parseFlags { flags with longLongModifier := true } rest := by
  simp [parseFlags]

theorem parseFlags_format (conversion : Conversion) (hwidth : conversion.width < 2 ^ 31)
    (rest : List Char) : parseFlags {} (conversion.format ++ rest) =
      (conversion.flags, Conversion.char conversion.specifier :: rest) := by
  have hend : ∀ flags, parseFlags flags (Conversion.char conversion.specifier :: rest) =
      (flags, Conversion.char conversion.specifier :: rest) := by
    intro flags
    cases conversion.specifier <;> rw [Conversion.char, parseFlags_cons (by decide)] <;> simp
  have hdigits : ∀ flags : Flags, flags.width = 0 → ∀ rest, parseFlags flags
      ((if conversion.width = 0 then [] else Nat.toDigits 10 conversion.width) ++ rest) =
        parseFlags { flags with width := conversion.width } rest := by
    intro flags hflags rest
    split
    case isTrue hzero => simp [hzero, ← hflags]
    case isFalse hnonzero => exact parseFlags_width flags hflags (by omega) hwidth rest
  unfold Conversion.format Conversion.flags
  rw [append_assoc, append_assoc, append_assoc, parseFlags_zeros _ _ rfl, hdigits _ rfl]
  cases conversion.modifier with
  | none => exact hend _
  | l =>
    refine (parseFlags_long _ ?_).trans (hend _)
    cases conversion.specifier <;> simp [Conversion.char]
  | ll => exact (parseFlags_longLong _ _).trans (hend _)

/-! ### Conversions -/

theorem toInt32_eq_iff (argument : Word) : toInt32 argument = argument.toInt ↔
    -2 ^ 31 ≤ argument.toInt ∧ argument.toInt < 2 ^ 31 := by
  unfold toInt32
  rw [BitVec.toInt_setWidth, BitVec.toInt_eq_toNat_bmod]
  have := argument.isLt
  simp only [Int.bmod_def]
  omega

theorem toUint32_eq_iff (argument : Word) :
    toUint32 argument = argument.toNat ↔ argument.toNat < 2 ^ 32 := by
  unfold toUint32
  rw [BitVec.toNat_setWidth]
  exact ⟨fun h => h ▸ Nat.mod_lt _ (by decide), Nat.mod_eq_of_lt⟩

namespace Conversion

variable {conversion : Conversion} {argument : Word}

/-- The number that the writer is given: with the modifier `l` the argument is cut to the 32-bit
type. -/
def received (conversion : Conversion) (argument : Word) : Int :=
  match conversion.specifier, conversion.modifier with
  | .d, .ll => argument.toInt
  | .d, _ => toInt32 argument
  | _, .ll => argument.toNat
  | _, _ => toUint32 argument

/-- What is written of a number with the padding that the flags ask for. -/
def written (conversion : Conversion) (number : Int) : List Char :=
  sign number ++ replicate
    (conversion.width - (sign number ++ digits conversion.specifier number.natAbs).length)
    (if 0 < conversion.zeros then '0' else ' ') ++ digits conversion.specifier number.natAbs

theorem received_signed (h : conversion.specifier = .d) (argument : Word) :
    -2 ^ (conversion.bits - 1) ≤ conversion.received argument ∧
      conversion.received argument < 2 ^ (conversion.bits - 1) := by
  unfold received bits
  rw [h]
  cases conversion.modifier with
  | ll => exact ⟨argument.le_toInt, argument.toInt_lt⟩
  | _ => exact ⟨(argument.setWidth 32).le_toInt, (argument.setWidth 32).toInt_lt⟩

theorem received_eq (h : conversion.specifier ≠ .d) (argument : Word) :
    conversion.received argument =
      ((if conversion.modifier = .ll then argument.toNat else toUint32 argument : Nat) : Int) := by
  unfold received
  cases conversion.modifier <;> cases hspecifier : conversion.specifier <;>
    first
      | exact absurd hspecifier h
      | rfl

theorem received_unsigned (h : conversion.specifier ≠ .d) (argument : Word) :
    0 ≤ conversion.received argument ∧ conversion.received argument < 2 ^ conversion.bits := by
  rw [received_eq h]
  refine ⟨Int.natCast_nonneg _, ?_⟩
  unfold bits
  split
  · exact_mod_cast argument.isLt
  · exact_mod_cast (argument.setWidth 32).isLt

/-- The writer is given the argument's value exactly where that is one of the writer's type. -/
theorem received_eq_value_iff :
    conversion.received argument = conversion.value argument ↔
      (conversion.specifier = .d → -2 ^ (conversion.bits - 1) ≤ conversion.value argument ∧
        conversion.value argument < 2 ^ (conversion.bits - 1)) ∧
      (conversion.specifier ≠ .d → conversion.value argument < 2 ^ conversion.bits) := by
  constructor
  · intro h
    rw [← h]
    exact ⟨fun hd => received_signed hd argument, fun hd => (received_unsigned hd argument).2⟩
  · rintro ⟨hsigned, hunsigned⟩
    unfold received value bits at *
    cases hmodifier : conversion.modifier <;> cases hspecifier : conversion.specifier <;>
      simp only [hmodifier, hspecifier, reduceCtorEq, if_false, if_true, ne_eq, not_false_eq_true,
        not_true_eq_false, forall_const, false_implies] at hsigned hunsigned ⊢
    case l.d => exact (toInt32_eq_iff argument).mpr hsigned
    all_goals exact congrArg _ ((toUint32_eq_iff argument).mpr (by exact_mod_cast hunsigned))

/-- The base, the digits and the buffer of the writer of an unsigned number. -/
def base (conversion : Conversion) : Nat := if conversion.specifier = .u then 10 else 16

def digit (conversion : Conversion) : Int → Char :=
  if conversion.specifier = .u then decimalDigit else hexDigit (conversion.specifier = .upperX)

def capacity (conversion : Conversion) : Nat :=
  if conversion.specifier = .u then if conversion.modifier = .ll then 20 else 10
  else conversion.bits / 4

def shape (conversion : Conversion) : Char → Char :=
  if conversion.specifier = .upperX then Char.toUpper else id

theorem digit_eq (hspecifier : conversion.specifier ≠ .d) (d : Nat)
    (hd : d < conversion.base) : conversion.digit d = conversion.shape d.digitChar := by
  unfold base digit shape at *
  cases h : conversion.specifier with
  | d => exact absurd h hspecifier
  | u =>
    rw [h] at hd
    exact decimalDigit_eq d hd
  | x =>
    rw [h] at hd
    exact hexDigit_lower_eq d hd
  | upperX =>
    rw [h] at hd
    exact hexDigit_upper_eq d hd

theorem digits_eq (hspecifier : conversion.specifier ≠ .d) (number : Nat) :
    (Nat.toDigits conversion.base number).map conversion.shape =
      digits conversion.specifier number := by
  unfold base shape digits
  cases h : conversion.specifier with
  | d => exact absurd h hspecifier
  | _ => simp

theorem two_pow_bits_le : 2 ^ conversion.bits ≤ conversion.base ^ conversion.capacity := by
  unfold base capacity bits
  split <;> split <;> decide

theorem writeInteger_signed (hspecifier : conversion.specifier = .d) :
    writeInteger conversion.flags (char conversion.specifier) argument =
      some (writeSigned conversion.bits (if conversion.modifier = .ll then 20 else 10)
        (conversion.received argument) conversion.width (0 < conversion.zeros)) := by
  unfold writeInteger flags bits received
  rw [hspecifier]
  cases conversion.modifier <;> rfl

theorem writeInteger_unsigned (hspecifier : conversion.specifier ≠ .d) :
    writeInteger conversion.flags (char conversion.specifier) argument =
      some (writeUnsigned conversion.base conversion.digit conversion.capacity
        (conversion.received argument).toNat conversion.width (0 < conversion.zeros)) := by
  unfold writeInteger flags base digit capacity bits received
  cases conversion.modifier <;> cases hshape : conversion.specifier <;>
    first
      | exact absurd hshape hspecifier
      | rfl

/-- A number other than the most negative one is written with its sign, the padding and its digits. -/
theorem writeInteger_eq (hleast : conversion.specifier = .d →
      conversion.received argument ≠ -2 ^ (conversion.bits - 1)) :
    writeInteger conversion.flags (char conversion.specifier) argument =
      some (some (conversion.written (conversion.received argument))) := by
  by_cases hspecifier : conversion.specifier = .d
  · obtain ⟨hlower, hupper⟩ := received_signed hspecifier argument
    have hbits : 0 < conversion.bits := by unfold bits; split <;> decide
    have hcapacity : 2 ^ (conversion.bits - 1) ≤
        10 ^ (if conversion.modifier = .ll then 20 else 10) := by
      unfold bits
      split <;> decide
    rw [writeInteger_signed hspecifier, writeSigned_eq (lt_of_le_of_ne hlower
      (hleast hspecifier).symm) hupper hbits hcapacity (by split <;> decide)]
    unfold written
    simp only [hspecifier, digits, decide_eq_true_eq]
  · obtain ⟨hnonneg, hupper⟩ := received_unsigned hspecifier argument
    have hlt : (conversion.received argument).toNat < conversion.base ^ conversion.capacity := by
      refine lt_of_lt_of_le ?_ two_pow_bits_le
      zify
      omega
    have hbase : 1 < conversion.base := by unfold base; split <;> decide
    have hcapacity : 0 < conversion.capacity := by
      unfold capacity bits
      split <;> split <;> decide
    have hsign : sign (conversion.received argument) = [] := if_neg (by omega)
    have habs : (conversion.received argument).toNat = (conversion.received argument).natAbs := by
      omega
    rw [writeInteger_unsigned hspecifier, writeUnsigned_eq hbase (digit_eq hspecifier) hlt hcapacity,
      digits_eq hspecifier]
    simp only [written, hsign, habs, decide_eq_true_eq, nil_append]

/-- The most negative number has one digit, which is none. -/
theorem writeInteger_least (hspecifier : conversion.specifier = .d)
    (hleast : conversion.received argument = -2 ^ (conversion.bits - 1)) :
    ∃ lead, writeInteger conversion.flags (char conversion.specifier) argument =
      some (some (lead ++ ['('])) := by
  rw [writeInteger_signed hspecifier, hleast, writeSigned]
  have hdigits : digitsLoop 10 decimalDigit (if conversion.modifier = .ll then 20 else 10)
      ((- -2 ^ (conversion.bits - 1) : Int).bmod (2 ^ conversion.bits)) [] = some ['('] := by
    unfold bits
    split <;> decide
  have hnegative : (-2 ^ (conversion.bits - 1) : Int) < 0 := by
    unfold bits
    split <;> decide
  rw [if_pos hnegative, hdigits]
  exact ⟨'-' :: padding (conversion.width - 1) (0 < conversion.zeros) ['('], rfl⟩

end Conversion

end A9N.Kernel.Print
