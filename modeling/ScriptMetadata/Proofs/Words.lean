import Mathlib.Data.Nat.Bitwise
import ScriptMetadata.Bytes

/-!
Words as numbers. A mask of high bits rounds down to a multiple of a power of two, and a mask and its
complement share the bits of a word out between them. A number that was written to a fixed number of
bytes is read back modulo what fits into them.
-/

set_option autoImplicit false

namespace ScriptMetadata

/-- A mask without the low bits clears them, in a number that is no longer than the mask. -/
theorem and_highBits (low high : Nat) {value : Nat} (bounded : value < 2 ^ (low + high)) :
    value &&& ((2 ^ high - 1) * 2 ^ low) = value / 2 ^ low * 2 ^ low := by
  apply Nat.eq_of_testBit_eq
  intro index
  rw [Nat.testBit_and, Nat.testBit_mul_two_pow, Nat.testBit_mul_two_pow, Nat.testBit_div_two_pow,
    Nat.testBit_two_pow_sub_one]
  by_cases above : low ≤ index
  · rw [Nat.sub_add_cancel above]
    by_cases within : index - low < high
    · simp [above, within]
    · have large : 2 ^ (low + high) ≤ 2 ^ index := Nat.pow_le_pow_right (by decide) (by omega)
      simp [above, Nat.testBit_lt_two_pow (bounded.trans_le large)]
  · simp [above]

namespace Word32

theorem and_or_distrib (value first second : UInt32) :
    value &&& (first ||| second) = (value &&& first) ||| (value &&& second) := by
  apply UInt32.toNat_inj.1
  simp only [UInt32.toNat_and, UInt32.toNat_or]
  exact Nat.and_or_distrib_left _ _ _

theorem and_or_and_not (value mask : UInt32) :
    (value &&& mask) ||| (value &&& ~~~mask) = value := by
  rw [← and_or_distrib, UInt32.or_not_self, UInt32.and_neg_one]

theorem toNat_clearLowBits (value : UInt32) : (value &&& ~~~63).toNat = value.toNat / 64 * 64 := by
  have mask : (~~~63 : UInt32).toNat = (2 ^ 26 - 1) * 2 ^ 6 := by decide
  rw [UInt32.toNat_and, mask]
  exact and_highBits 6 26 value.toNat_lt

end Word32

namespace Word64

theorem toNat_clearLowBits (value : UInt64) : (value &&& ~~~63).toNat = value.toNat / 64 * 64 := by
  have mask : (~~~63 : UInt64).toNat = (2 ^ 58 - 1) * 2 ^ 6 := by decide
  rw [UInt64.toNat_and, mask]
  exact and_highBits 6 58 value.toNat_lt

end Word64

namespace LittleEndian

theorem decode_lt (bytes : List UInt8) : decode bytes < 256 ^ bytes.length := by
  induction bytes with
  | nil => simp [decode]
  | cons byte rest induction =>
      have bounded := byte.toNat_lt
      simp only [decode, List.length_cons, pow_succ]
      omega

theorem decode_encode (width value : Nat) : decode (encode width value) = value % 256 ^ width := by
  induction width generalizing value with
  | zero => simp [encode, decode, Nat.mod_one]
  | succ width induction =>
      simp only [encode, decode, induction, UInt8.toNat_ofNat']
      rw [pow_succ 256 width, Nat.mul_comm (256 ^ width) 256, Nat.mod_mul]

theorem decode_encodeWord32 (value : UInt32) : decode (encodeWord32 value) = value.toNat := by
  rw [encodeWord32, decode_encode]
  exact Nat.mod_eq_of_lt value.toNat_lt

theorem decode_encodeWord64 (value : UInt64) : decode (encodeWord64 value) = value.toNat := by
  rw [encodeWord64, decode_encode]
  exact Nat.mod_eq_of_lt value.toNat_lt

end LittleEndian

end ScriptMetadata
