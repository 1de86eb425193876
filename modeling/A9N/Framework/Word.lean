import Mathlib

/-!
# Machine words

Words of the two 64-bit targets, their shifts, and the arithmetic of rounding a natural up
to a multiple. Everything here is stated on naturals through `toNat`, so that a client can
compare a wrapped computation with the exact one.
-/

namespace A9N

abbrev Word := BitVec 64

def shiftLeft (value count : Word) : Word := value <<< (count.toNat % 64)

def shiftRight (value count : Word) : Word := value >>> (count.toNat % 64)

theorem shiftLeft_one_toNat (count : Word) :
    (shiftLeft 1 count).toNat = 2 ^ (count.toNat % 64) := by
  have hlt : count.toNat % 64 < 64 := Nat.mod_lt _ (by decide)
  have hpow : 2 ^ (count.toNat % 64) < 2 ^ 64 := Nat.pow_lt_pow_right (by decide) hlt
  rw [shiftLeft, BitVec.toNat_shiftLeft, Nat.shiftLeft_eq]
  change 1 * 2 ^ (count.toNat % 64) % 2 ^ 64 = _
  rw [Nat.one_mul, Nat.mod_eq_of_lt hpow]

theorem shiftLeft_one_toNat_of_lt {count : Word} (h : count.toNat < 64) :
    (shiftLeft 1 count).toNat = 2 ^ count.toNat := by
  rw [shiftLeft_one_toNat, Nat.mod_eq_of_lt h]

theorem or_and_distrib_right (x y z : Word) : (x ||| y) &&& z = (x &&& z) ||| (y &&& z) := by
  ext i
  simp [Bool.and_or_distrib_right]

def alignUp (value unit : Nat) : Nat := value ⌈/⌉ unit * unit

theorem alignUp_eq (value unit : Nat) : alignUp value unit = (value + unit - 1) / unit * unit := by
  rw [alignUp, Nat.ceilDiv_eq_add_pred_div]

theorem dvd_alignUp (value unit : Nat) : unit ∣ alignUp value unit := Nat.dvd_mul_left _ _

theorem le_alignUp (value : Nat) {unit : Nat} (hunit : 0 < unit) : value ≤ alignUp value unit := by
  have h := le_smul_ceilDiv (b := value) hunit
  rw [alignUp, Nat.mul_comm]
  simpa only [smul_eq_mul] using h

theorem alignUp_le {value unit bound : Nat} (hunit : 0 < unit) (hdvd : unit ∣ bound)
    (hle : value ≤ bound) : alignUp value unit ≤ bound := by
  obtain ⟨k, rfl⟩ := hdvd
  rw [alignUp, Nat.mul_comm]
  apply Nat.mul_le_mul_left
  exact (ceilDiv_le_iff_le_mul hunit).mpr hle

theorem alignUp_of_dvd {value unit : Nat} (hunit : 0 < unit) (hdvd : unit ∣ value) :
    alignUp value unit = value :=
  Nat.le_antisymm (alignUp_le hunit hdvd Nat.le.refl) (le_alignUp value hunit)

end A9N
