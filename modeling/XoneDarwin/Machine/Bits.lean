import Mathlib.Data.Nat.Bitwise
import Mathlib.Tactic.Common

/-!
# Bits of 16-bit words

Masks test single bits, and disjunctions set them. The rules turn both into
statements about `bitAt`, one bit at a time.
-/

namespace Machine

/-- Bit `k` of a word, 0 being the least significant. -/
def bitAt (x : UInt16) (k : Nat) : Bool :=
  x.toNat.testBit k

@[simp] theorem bitAt_zero (k : Nat) : bitAt 0 k = false :=
  Nat.zero_testBit k

@[simp] theorem bitAt_or (x y : UInt16) (k : Nat) :
    bitAt (x ||| y) k = (bitAt x k || bitAt y k) := by
  rw [bitAt, UInt16.toNat_or, Nat.testBit_or]
  rfl

@[simp] theorem bitAt_and (x y : UInt16) (k : Nat) :
    bitAt (x &&& y) k = (bitAt x k && bitAt y k) := by
  rw [bitAt, UInt16.toNat_and, Nat.testBit_and]
  rfl

/-- A word is its sixteen bits. -/
theorem bitAt_ext {x y : UInt16} (hbits : ∀ k < 16, bitAt x k = bitAt y k) : x = y := by
  apply UInt16.toNat_inj.mp
  apply Nat.eq_of_testBit_eq
  intro k
  by_cases hk : k < 16
  · exact hbits k hk
  · have hpow : 2 ^ 16 ≤ 2 ^ k := Nat.pow_le_pow_right (by decide) (Nat.le_of_not_lt hk)
    rw [Nat.testBit_lt_two_pow (x.toNat_lt.trans_le hpow),
      Nat.testBit_lt_two_pow (y.toNat_lt.trans_le hpow)]

theorem toNat_bit {k : UInt16} (hk : k.toNat < 16) :
    ((1 : UInt16) <<< k).toNat = 1 <<< k.toNat := by
  have hlt : 2 ^ k.toNat < 2 ^ 16 := Nat.pow_lt_pow_right (by decide) hk
  rw [UInt16.toNat_shiftLeft, Nat.mod_eq_of_lt hk]
  apply Nat.mod_eq_of_lt
  rw [Nat.shiftLeft_eq]
  exact (Nat.one_mul _).trans_lt hlt

/-- A one-bit mask has that bit. -/
theorem bitAt_bit {k : UInt16} (hk : k.toNat < 16) (j : Nat) :
    bitAt ((1 : UInt16) <<< k) j = decide (k.toNat = j) := by
  rw [bitAt, toNat_bit hk, Nat.one_shiftLeft, Nat.testBit_two_pow]

theorem bitAt_not (x : UInt16) {k : Nat} (hk : k < 16) : bitAt (~~~x) k = !bitAt x k := by
  rw [bitAt, ← UInt16.toNat_toBitVec, BitVec.testBit_toNat, UInt16.toBitVec_not, BitVec.getLsbD_not,
    decide_eq_true hk, Bool.true_and, ← BitVec.testBit_toNat, UInt16.toNat_toBitVec]
  rfl

/-- Masking with the complement of a one-bit mask clears that bit and no other. -/
theorem bitAt_clear {k : UInt16} (hk : k.toNat < 16) (x : UInt16) (j : Nat) :
    bitAt (x &&& ~~~((1 : UInt16) <<< k)) j = (bitAt x j && decide (k.toNat ≠ j)) := by
  rw [bitAt_and]
  by_cases hj : j < 16
  · rw [bitAt_not _ hj, bitAt_bit hk, decide_not]
  · have hpow : 2 ^ 16 ≤ 2 ^ j := Nat.pow_le_pow_right (by decide) (Nat.le_of_not_lt hj)
    have hclear : bitAt x j = false := Nat.testBit_lt_two_pow (x.toNat_lt.trans_le hpow)
    rw [hclear, Bool.false_and, Bool.false_and]

/-- A mask test reads its bit. -/
theorem and_bit_ne_zero {k : UInt16} (hk : k.toNat < 16) (x : UInt16) :
    x &&& ((1 : UInt16) <<< k) ≠ 0 ↔ bitAt x k.toNat = true := by
  rw [ne_eq, ← UInt16.toNat_inj, UInt16.toNat_and, toNat_bit hk, Nat.one_shiftLeft, Nat.and_two_pow,
    bitAt]
  cases x.toNat.testBit k.toNat with
  | true => simp
  | false => simp

end Machine
