import A9N.Framework.Word

/-!
# Power-of-two helpers

`liba9n/common/calculate.hpp`. The helpers work on wrapped words; the lemmas compare them
with rounding over naturals and name the inputs on which the wrap shows.
-/

namespace A9N.Liba9n

/-- Index of the highest set bit, `WORD_BITS - 1 - __builtin_clzll(value)` in the source. -/
def highestBit (value : Word) : Word := BitVec.ofNat 64 value.toNat.log2

def roundUpPowerOf2 (value : Word) : Word :=
  if value = 0 then 1
  else if value &&& (value - 1) = 0 then value
  else shiftLeft 1 (highestBit value + 1)

def roundDownPowerOf2 (value : Word) : Word :=
  if value = 0 then 0 else shiftLeft 1 (highestBit value)

def alignValue (value base : Word) : Word :=
  if base = 0 then 0 else (value + base - 1) / base * base

def alignValueFloor (value base : Word) : Word :=
  if base = 0 then 0 else value / base * base

/-- The loop `while (power_of_2 >>= 1) radix++`; 64 rounds shift every word to zero. -/
def calculateRadixLoop : Nat → Word → Word → Word
  | 0, _, radix => radix
  | rounds + 1, value, radix =>
    if value >>> 1 = 0 then radix else calculateRadixLoop rounds (value >>> 1) (radix + 1)

def calculateRadix (powerOf2 : Word) : Word :=
  if powerOf2 = 0 then 0 else calculateRadixLoop 64 powerOf2 0

def calculateRadixCeil (value : Word) : Word :=
  if value = 0 then 0 else calculateRadix (roundUpPowerOf2 value)

def calculateRadixFloor (value : Word) : Word :=
  if value = 0 then 0 else calculateRadix (roundDownPowerOf2 value)

theorem ne_zero_of_toNat_pos {value : Word} (h : 0 < value.toNat) : value ≠ 0 := by
  rintro rfl
  exact absurd h (by decide)

section AlignValue

variable {value base : Word}

private theorem add_sub_one_toNat (hbase : 0 < base.toNat) :
    (value + base - 1).toNat = (value.toNat + base.toNat - 1) % 2 ^ 64 := by
  have hv := value.isLt
  have hb := base.isLt
  rw [BitVec.toNat_sub, BitVec.toNat_add]
  change (2 ^ 64 - 1 + (value.toNat + base.toNat) % 2 ^ 64) % 2 ^ 64 = _
  omega

section

variable (hbase : 0 < base.toNat)
include hbase

theorem alignValue_toNat (hfits : value.toNat + base.toNat - 1 < 2 ^ 64) :
    (alignValue value base).toNat = alignUp value.toNat base.toNat := by
  have hne : base ≠ 0 := ne_zero_of_toNat_pos hbase
  have hle : (value.toNat + base.toNat - 1) / base.toNat * base.toNat < 2 ^ 64 :=
    lt_of_le_of_lt (Nat.div_mul_le_self _ _) hfits
  rw [alignValue, if_neg hne, BitVec.toNat_mul, BitVec.toNat_udiv, add_sub_one_toNat hbase,
    Nat.mod_eq_of_lt hfits, Nat.mod_eq_of_lt hle, alignUp_eq]

/-- A base that divides the word size rounds up modulo that size. -/
theorem alignValue_toNat_mod (hdvd : base.toNat ∣ 2 ^ 64) :
    (alignValue value base).toNat = alignUp value.toNat base.toNat % 2 ^ 64 := by
  have hne : base ≠ 0 := ne_zero_of_toNat_pos hbase
  obtain ⟨k, hk⟩ := hdvd
  rw [alignValue, if_neg hne, BitVec.toNat_mul, BitVec.toNat_udiv, add_sub_one_toNat hbase, alignUp_eq,
    hk, Nat.mod_mul_right_div_self, Nat.mul_comm base.toNat k, Nat.mul_mod_mul_right,
    Nat.mul_mod_mul_right, Nat.mod_mod]

theorem alignValue_of_dvd (hdvd : base.toNat ∣ value.toNat)
    (hfits : value.toNat + base.toNat - 1 < 2 ^ 64) : alignValue value base = value := by
  apply BitVec.eq_of_toNat_eq
  rw [alignValue_toNat hbase hfits, alignUp_of_dvd hbase hdvd]

theorem alignValueFloor_toNat :
    (alignValueFloor value base).toNat = value.toNat / base.toNat * base.toNat := by
  have hlt := lt_of_le_of_lt (Nat.div_mul_le_self value.toNat base.toNat) value.isLt
  rw [alignValueFloor, if_neg (ne_zero_of_toNat_pos hbase), BitVec.toNat_mul, BitVec.toNat_udiv,
    Nat.mod_eq_of_lt hlt]

theorem alignValueFloor_of_dvd (hdvd : base.toNat ∣ value.toNat) :
    alignValueFloor value base = value := by
  apply BitVec.eq_of_toNat_eq
  rw [alignValueFloor_toNat hbase, Nat.div_mul_cancel hdvd]

end

end AlignValue

section Radix

private theorem toNat_ne_zero {value : Word} (h : value ≠ 0) : value.toNat ≠ 0 := by
  intro h0
  exact h (BitVec.eq_of_toNat_eq (by simpa using h0))

private theorem log2_one : Nat.log2 1 = 0 := by decide

private theorem toNat_shiftRight_one (value : Word) : (value >>> 1).toNat = value.toNat / 2 := by
  rw [BitVec.toNat_ushiftRight, Nat.shiftRight_eq_div_pow, pow_one]

theorem calculateRadixLoop_eq (rounds : Nat) :
    ∀ {value radix : Word}, value ≠ 0 → value.toNat < 2 ^ (rounds + 1) →
      calculateRadixLoop rounds value radix = radix + BitVec.ofNat 64 value.toNat.log2 := by
  induction rounds with
  | zero =>
    intro value radix hne hlt
    have hvalue : value.toNat = 1 := by
      have := toNat_ne_zero hne
      omega
    simp [calculateRadixLoop, hvalue, log2_one]
  | succ rounds ih =>
    intro value radix hne hlt
    have hpos := toNat_ne_zero hne
    have hshift := toNat_shiftRight_one value
    rw [calculateRadixLoop]
    split
    case isTrue h =>
      have hhalf : value.toNat / 2 = 0 := by rw [← hshift, h]; rfl
      have hvalue : value.toNat = 1 := by omega
      simp [hvalue, log2_one]
    case isFalse h =>
      have hhalf : value.toNat / 2 ≠ 0 := by
        rw [← hshift]
        exact toNat_ne_zero h
      have htwo : 2 ≤ value.toNat := by omega
      have hlog : value.toNat.log2 = (value.toNat / 2).log2 + 1 := by
        rw [Nat.log2_def]
        simp [htwo]
      rw [ih h (by omega), hshift, hlog]
      apply BitVec.eq_of_toNat_eq
      simp
      omega

theorem calculateRadix_toNat {value : Word} (hne : value ≠ 0) :
    (calculateRadix value).toNat = value.toNat.log2 := by
  have hlt : value.toNat < 2 ^ (64 + 1) := lt_trans value.isLt (by decide)
  have hlog : value.toNat.log2 < 64 := (Nat.log2_lt (toNat_ne_zero hne)).mpr value.isLt
  rw [calculateRadix, if_neg hne, calculateRadixLoop_eq 64 hne hlt]
  simp
  omega

private theorem and_sub_one_eq_zero_iff {n : Nat} (hn : n ≠ 0) :
    n &&& (n - 1) = 0 ↔ n = 2 ^ n.log2 := by
  have hle : 2 ^ n.log2 ≤ n := Nat.log2_self_le hn
  have hlt : n < 2 ^ (n.log2 + 1) := Nat.lt_log2_self
  constructor
  · intro h
    by_contra hne
    -- otherwise `n` and `n - 1` both have the top bit
    have hbit : ∀ m, 2 ^ n.log2 ≤ m → m < 2 ^ (n.log2 + 1) → m.testBit n.log2 = true := by
      intro m hlow hhigh
      have hdiv : m / 2 ^ n.log2 = 1 := by
        apply Nat.div_eq_of_lt_le <;> [omega; skip]
        rw [Nat.pow_succ] at hhigh
        omega
      simp [Nat.testBit_eq_decide_div_mod_eq, hdiv]
    have htop := congrArg (fun m => m.testBit n.log2) h
    simp only [Nat.testBit_and, Nat.zero_testBit] at htop
    rw [hbit n hle hlt, hbit (n - 1) (by omega) (by omega)] at htop
    simp at htop
  · intro h
    rw [h, Nat.and_two_pow_sub_one_eq_mod, Nat.mod_self]

section

variable {value : Word} (hne : value ≠ 0) (hle : value.toNat ≤ 2 ^ 63)
include hne hle

theorem roundUpPowerOf2_toNat : (roundUpPowerOf2 value).toNat = 2 ^ Nat.clog 2 value.toNat := by
  have hpos := toNat_ne_zero hne
  have hsub : (value - 1).toNat = value.toNat - 1 := by
    rw [BitVec.toNat_sub]
    change (2 ^ 64 - 1 + value.toNat) % 2 ^ 64 = _
    have := value.isLt
    omega
  have htest : value &&& (value - 1) = 0 ↔ value.toNat = 2 ^ value.toNat.log2 := by
    rw [← and_sub_one_eq_zero_iff hpos, ← hsub, ← BitVec.toNat_and, ← BitVec.toNat_inj]
    rfl
  have hlower : 2 ^ value.toNat.log2 ≤ value.toNat := Nat.log2_self_le hpos
  have hupper : value.toNat < 2 ^ (value.toNat.log2 + 1) := Nat.lt_log2_self
  rw [roundUpPowerOf2, if_neg hne]
  by_cases hpow : value.toNat = 2 ^ value.toNat.log2
  · rw [if_pos (htest.mpr hpow)]
    conv_rhs => rw [hpow, Nat.clog_pow 2 _ (by decide)]
    exact hpow
  · rw [if_neg (mt htest.mp hpow)]
    -- `2 ^ 63` is a power of two, so the highest bit is below 63
    have hlog : value.toNat.log2 < 63 := by
      by_contra hlarge
      have := Nat.pow_le_pow_right (n := 2) (by decide) (not_lt.mp hlarge)
      have hexact : value.toNat.log2 = 63 := by
        have := (Nat.log2_lt hpos).mpr value.isLt
        omega
      rw [hexact] at hpow
      omega
    have hclog : Nat.clog 2 value.toNat = value.toNat.log2 + 1 := by
      apply Nat.le_antisymm
      · exact (Nat.clog_le_iff_le_pow (by decide)).mpr hupper.le
      · exact (Nat.lt_clog_iff_pow_lt (by decide)).mpr (lt_of_le_of_ne hlower (Ne.symm hpow))
    have hcount : (highestBit value + 1).toNat = value.toNat.log2 + 1 := by
      rw [highestBit, BitVec.toNat_add, BitVec.toNat_ofNat]
      change (value.toNat.log2 % 2 ^ 64 + 1) % 2 ^ 64 = _
      omega
    rw [shiftLeft_one_toNat_of_lt (by omega), hcount, hclog]

theorem calculateRadixCeil_toNat : (calculateRadixCeil value).toNat = Nat.clog 2 value.toNat := by
  have hround := roundUpPowerOf2_toNat hne hle
  have hpos : roundUpPowerOf2 value ≠ 0 :=
    ne_zero_of_toNat_pos (by rw [hround]; exact Nat.two_pow_pos _)
  rw [calculateRadixCeil, if_neg hne, calculateRadix_toNat hpos, hround, Nat.log2_two_pow]

theorem calculateRadixCeil_spec : (calculateRadixCeil value).toNat < 64 ∧
      value.toNat ≤ 2 ^ (calculateRadixCeil value).toNat := by
  rw [calculateRadixCeil_toNat hne hle]
  have hclog : Nat.clog 2 value.toNat ≤ 63 := (Nat.clog_le_iff_le_pow (by decide)).mpr hle
  exact ⟨by omega, Nat.le_pow_clog (by decide) _⟩

end

theorem calculateRadixFloor_toNat {value : Word} (hne : value ≠ 0) :
    (calculateRadixFloor value).toNat = value.toNat.log2 := by
  have hlog : value.toNat.log2 < 64 := (Nat.log2_lt (toNat_ne_zero hne)).mpr value.isLt
  have hbit : (highestBit value).toNat = value.toNat.log2 := by
    rw [highestBit, BitVec.toNat_ofNat]
    omega
  have hround : (roundDownPowerOf2 value).toNat = 2 ^ value.toNat.log2 := by
    rw [roundDownPowerOf2, if_neg hne, shiftLeft_one_toNat_of_lt (by omega), hbit]
  have hpos : roundDownPowerOf2 value ≠ 0 :=
    ne_zero_of_toNat_pos (by rw [hround]; exact Nat.two_pow_pos _)
  rw [calculateRadixFloor, if_neg hne, calculateRadix_toNat hpos, hround, Nat.log2_two_pow]

/-- For every value up to `2 ^ 63`, the helpers return the extreme power of two, radix and multiple
that their names promise. -/
theorem calculate_spec (value : Word) (hlower : 1 ≤ value.toNat) (hupper : value.toNat ≤ 2 ^ 63) :
    IsLeast {power | (∃ radix, power = 2 ^ radix) ∧ value.toNat ≤ power}
        (roundUpPowerOf2 value).toNat ∧
      IsLeast {radix | value.toNat ≤ 2 ^ radix} (calculateRadixCeil value).toNat ∧
      IsGreatest {radix | 2 ^ radix ≤ value.toNat} (calculateRadixFloor value).toNat ∧
      ∀ base : Word, (∃ radix, base.toNat = 2 ^ radix) → value.toNat + base.toNat - 1 < 2 ^ 64 →
        IsLeast {multiple | base.toNat ∣ multiple ∧ value.toNat ≤ multiple}
            (alignValue value base).toNat ∧
          IsGreatest {multiple | base.toNat ∣ multiple ∧ multiple ≤ value.toNat}
            (alignValueFloor value base).toNat := by
  have hne : value ≠ 0 := ne_zero_of_toNat_pos hlower
  have hcover := Nat.le_pow_clog (b := 2) (by decide) value.toNat
  rw [roundUpPowerOf2_toNat hne hupper, calculateRadixCeil_toNat hne hupper,
    calculateRadixFloor_toNat hne]
  refine ⟨⟨⟨⟨_, rfl⟩, hcover⟩, ?_⟩, ⟨hcover, ?_⟩, ⟨Nat.log2_self_le (by omega), ?_⟩, ?_⟩
  · rintro _ ⟨⟨radix, rfl⟩, hle⟩
    exact Nat.pow_le_pow_right (by decide) ((Nat.clog_le_iff_le_pow (by decide)).mpr hle)
  · exact fun radix hle => (Nat.clog_le_iff_le_pow (by decide)).mpr hle
  · exact fun radix hle => (Nat.le_log2 (by omega)).mpr hle
  · rintro base ⟨radix, hbase⟩ hfits
    have hpos : 0 < base.toNat := hbase ▸ Nat.two_pow_pos radix
    rw [alignValue_toNat hpos hfits, alignValueFloor_toNat hpos]
    refine ⟨⟨⟨dvd_alignUp _ _, le_alignUp _ hpos⟩, ?_⟩, ⟨Nat.dvd_mul_left _ _,
      Nat.div_mul_le_self _ _⟩, ?_⟩
    · exact fun multiple hmultiple => alignUp_le hpos hmultiple.1 hmultiple.2
    · rintro _ ⟨⟨count, rfl⟩, hle⟩
      rw [Nat.mul_comm] at hle ⊢
      exact Nat.mul_le_mul_right _ ((Nat.le_div_iff_mul_le hpos).mpr hle)

theorem calculate_spec_top : IsLeast {multiple | 4096 ∣ multiple ∧ 2 ^ 63 ≤ multiple}
    (alignValue (BitVec.ofNat 64 (2 ^ 63)) 4096).toNat :=
  ((calculate_spec (BitVec.ofNat 64 (2 ^ 63)) (by decide) (by decide)).2.2.2 4096 ⟨12, by decide⟩
    (by decide)).1

end Radix

end A9N.Liba9n
