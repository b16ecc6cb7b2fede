import Mathlib.Data.Nat.Bitwise
import ScriptMetadata.Proofs.Words

/-!
What the register of the checksum keeps of its bytes. It is linear in register and bytes together,
and no shift loses anything; so a difference within four bytes in a row, which is a difference of
one register, is never forgotten.
-/

set_option autoImplicit false

namespace ScriptMetadata.Crc32

theorem and_one_eq_one_iff (register : UInt32) : register &&& 1 = 1 ↔ register.toNat % 2 = 1 := by
  rw [← UInt32.toNat_inj, UInt32.toNat_and, show (1 : UInt32).toNat = 1 by rfl, Nat.and_one_is_mod]

theorem shift_of_odd {register : UInt32} (odd : register.toNat % 2 = 1) :
    shift register = (register >>> 1) ^^^ polynomial :=
  if_pos ((and_one_eq_one_iff register).2 odd)

theorem shift_of_even {register : UInt32} (even : register.toNat % 2 = 0) :
    shift register = register >>> 1 :=
  if_neg fun odd => by
    rw [and_one_eq_one_iff] at odd
    omega

theorem shift_xor (first second : UInt32) :
    shift (first ^^^ second) = shift first ^^^ shift second := by
  have parity : (first ^^^ second).toNat % 2 = (first.toNat + second.toNat) % 2 := by
    rw [UInt32.toNat_xor, Nat.xor_mod_two_eq]
  rcases Nat.mod_two_eq_zero_or_one first.toNat with even | odd
  · rcases Nat.mod_two_eq_zero_or_one second.toNat with even' | odd'
    · rw [shift_of_even even, shift_of_even even', shift_of_even (by omega), UInt32.shiftRight_xor]
    · rw [shift_of_even even, shift_of_odd odd', shift_of_odd (by omega), UInt32.shiftRight_xor,
        UInt32.xor_assoc]
  · rcases Nat.mod_two_eq_zero_or_one second.toNat with even' | odd'
    · rw [shift_of_odd odd, shift_of_even even', shift_of_odd (by omega), UInt32.shiftRight_xor,
        UInt32.xor_assoc, UInt32.xor_assoc, UInt32.xor_comm polynomial]
    · rw [shift_of_odd odd, shift_of_odd odd', shift_of_even (by omega), UInt32.shiftRight_xor,
        UInt32.xor_comm (second >>> 1), UInt32.xor_assoc, ← UInt32.xor_assoc polynomial,
        UInt32.xor_self, UInt32.zero_xor]

theorem update_xor (first second : UInt32) (byte byte' : UInt8) :
    update (first ^^^ second) (byte ^^^ byte') = update first byte ^^^ update second byte' := by
  have added : first ^^^ second ^^^ (byte ^^^ byte').toUInt32 =
      (first ^^^ byte.toUInt32) ^^^ (second ^^^ byte'.toUInt32) := by
    rw [UInt8.toUInt32_xor]
    ac_rfl
  simp only [update, added, shiftByte, shift_xor]

theorem run_xor {bytes bytes' : List UInt8} (lengths : bytes.length = bytes'.length)
    (first second : UInt32) :
    run (first ^^^ second) (bytes.zipWith (· ^^^ ·) bytes') =
      run first bytes ^^^ run second bytes' := by
  induction bytes generalizing bytes' first second with
  | nil =>
      cases bytes' with
      | nil => rfl
      | cons byte' rest' => contradiction
  | cons byte rest induction =>
      cases bytes' with
      | nil => contradiction
      | cons byte' rest' =>
          rw [List.zipWith_cons_cons, run_cons, run_cons, run_cons, update_xor]
          exact induction (Nat.succ.inj lengths) _ _

/-- The polynomial has its highest bit set, so a register without that bit was shifted only. -/
theorem toNat_of_shift_lt {register : UInt32} (low : (shift register).toNat < 2 ^ 31) :
    register.toNat = 2 * (shift register).toNat := by
  have halved : (register >>> 1).toNat = register.toNat / 2 := by
    rw [UInt32.toNat_shiftRight]
    exact Nat.shiftRight_one _
  rcases Nat.mod_two_eq_zero_or_one register.toNat with even | odd
  · rw [shift_of_even even, halved]
    omega
  · have bounded := register.toNat_lt
    have clear : (register >>> 1).toNat.testBit 31 = false :=
      Nat.testBit_lt_two_pow (by omega)
    have high : (shift register).toNat.testBit 31 = true := by
      rw [shift_of_odd odd, UInt32.toNat_xor, Nat.testBit_xor, clear]
      decide
    exact absurd low (Nat.not_lt.2 (Nat.ge_two_pow_of_testBit high))

theorem toNat_of_shiftByte_lt {register : UInt32} (low : (shiftByte register).toNat < 2 ^ 24) :
    register.toNat = 256 * (shiftByte register).toNat := by
  unfold shiftByte at low ⊢
  -- Each of the eight shifts, the last one first, doubles a number that stays below 2^31.
  have eighth := toNat_of_shift_lt (lt_trans low (by decide))
  have seventh := toNat_of_shift_lt (by rw [eighth]; omega)
  have sixth := toNat_of_shift_lt (by rw [seventh]; omega)
  have fifth := toNat_of_shift_lt (by rw [sixth]; omega)
  have fourth := toNat_of_shift_lt (by rw [fifth]; omega)
  have third := toNat_of_shift_lt (by rw [fourth]; omega)
  have second := toNat_of_shift_lt (by rw [third]; omega)
  have first := toNat_of_shift_lt (by rw [second]; omega)
  omega

theorem xor_low_byte (high : Nat) (byte : UInt8) :
    (256 * high) ^^^ byte.toNat = byte.toNat + 256 * high := by
  have bounded := byte.toNat_lt
  have upper : ((256 * high) ^^^ byte.toNat) / 2 ^ 8 = high := by
    rw [Nat.xor_div_two_pow, Nat.mul_div_cancel_left high (by decide),
      Nat.div_eq_of_lt bounded, Nat.xor_zero]
  have lower : ((256 * high) ^^^ byte.toNat) % 2 ^ 8 = byte.toNat := by
    rw [Nat.xor_mod_two_pow, Nat.mul_mod_right, Nat.zero_xor, Nat.mod_eq_of_lt bounded]
  omega

/-- Only the register that the bytes spell is cancelled by them, as long as they fit a register. -/
theorem toNat_eq_decode_of_run_eq_zero {bytes : List UInt8} (short : bytes.length ≤ 4)
    {register : UInt32} (cancelled : run register bytes = 0) :
    register.toNat = LittleEndian.decode bytes := by
  induction bytes generalizing register with
  | nil => exact congrArg UInt32.toNat cancelled
  | cons byte rest induction =>
      rw [List.length_cons] at short
      have updated := induction (by omega) cancelled
      have small : LittleEndian.decode rest < 2 ^ 24 := by
        have bounded := LittleEndian.decode_lt rest
        have widest : 256 ^ rest.length ≤ 256 ^ 3 := Nat.pow_le_pow_right (by decide) (by omega)
        omega
      have low : (update register byte).toNat < 2 ^ 24 := updated ▸ small
      have spelled : (register ^^^ byte.toUInt32).toNat = 256 * LittleEndian.decode rest := by
        rw [toNat_of_shiftByte_lt low]
        exact congrArg (256 * ·) updated
      have restored : register = (register ^^^ byte.toUInt32) ^^^ byte.toUInt32 := by
        rw [UInt32.xor_assoc, UInt32.xor_self, UInt32.xor_zero]
      rw [restored, UInt32.toNat_xor, spelled, UInt8.toNat_toUInt32, xor_low_byte,
        LittleEndian.decode]

/-- Two registers that one run of bytes brings together are the same. -/
theorem run_left_injective (bytes : List UInt8) :
    Function.Injective fun register => run register bytes := by
  induction bytes with
  | nil => exact Function.injective_id
  | cons byte rest induction =>
      intro first second same
      have updated : update first byte = update second byte := induction same
      have difference : run (first ^^^ second) [byte ^^^ byte] = 0 := by
        rw [run_cons, run_nil, update_xor, updated, UInt32.xor_self]
      have nothing := toNat_eq_decode_of_run_eq_zero (by simp) difference
      rw [UInt8.xor_self] at nothing
      exact UInt32.xor_eq_zero_iff.1 (UInt32.toNat_inj.1 nothing)

theorem eq_of_decode_zipWith_xor {first second : List UInt8}
    (lengths : first.length = second.length)
    (nothing : LittleEndian.decode (first.zipWith (· ^^^ ·) second) = 0) : first = second := by
  induction first generalizing second with
  | nil => exact (List.eq_nil_of_length_eq_zero lengths.symm).symm
  | cons byte rest induction =>
      cases second with
      | nil => contradiction
      | cons byte' rest' =>
          rw [List.zipWith_cons_cons, LittleEndian.decode] at nothing
          have same : byte ^^^ byte' = 0 := UInt8.toNat_inj.1 (by rw [UInt8.toNat_zero]; omega)
          rw [UInt8.xor_eq_zero_iff.1 same, induction (Nat.succ.inj lengths) (by omega)]

/-- Two runs of up to four bytes that bring one register to the same end are the same. -/
theorem eq_of_run_eq_run {first second : List UInt8} (lengths : first.length = second.length)
    (short : first.length ≤ 4) {register : UInt32}
    (same : run register first = run register second) : first = second := by
  have difference : run 0 (first.zipWith (· ^^^ ·) second) = 0 := by
    rw [← UInt32.xor_self (a := register), run_xor lengths, same, UInt32.xor_self, UInt32.xor_self]
  apply eq_of_decode_zipWith_xor lengths
  refine (toNat_eq_decode_of_run_eq_zero ?_ difference).symm
  rw [List.length_zipWith]
  omega

/-- A change within four bytes in a row changes the checksum, whatever stands around them. -/
theorem checksum_ne_of_burst {first second : List UInt8} (lengths : first.length = second.length)
    (short : first.length ≤ 4) (changed : first ≠ second) (before after : List UInt8) :
    checksum (before ++ first ++ after) ≠ checksum (before ++ second ++ after) := by
  intro same
  have runs := (UInt32.xor_left_inj _).1 same
  rw [run_append, run_append, run_append, run_append] at runs
  exact changed (eq_of_run_eq_run lengths short (run_left_injective after runs))

/-- The same where the change is given by the positions that differ. -/
theorem checksum_ne_of_window {first second : List UInt8} (lengths : first.length = second.length)
    (changed : first ≠ second) {start : Nat}
    (window : ∀ position, first[position]? ≠ second[position]? →
      start ≤ position ∧ position < start + 4) : checksum first ≠ checksum second := by
  have before : first.take start = second.take start := by
    apply List.ext_getElem?
    intro position
    rw [List.getElem?_take, List.getElem?_take]
    split
    · rename_i below
      exact not_imp_comm.1 (window position) fun inside => absurd inside.1 (Nat.not_le.2 below)
    · rfl
  have after : (first.drop start).drop 4 = (second.drop start).drop 4 := by
    rw [List.drop_drop, List.drop_drop]
    apply List.ext_getElem?
    intro position
    rw [List.getElem?_drop, List.getElem?_drop]
    exact not_imp_comm.1 (window _) fun inside => absurd inside.2 (by omega)
  have middle : (first.drop start).take 4 ≠ (second.drop start).take 4 := by
    intro same
    apply changed
    rw [← List.take_append_drop start first, ← List.take_append_drop 4 (first.drop start), before,
      same, after, List.take_append_drop, List.take_append_drop]
  have burst := checksum_ne_of_burst (by simp [lengths]) (List.length_take_le 4 _) middle
    (second.take start) ((second.drop start).drop 4)
  rwa [List.append_assoc, List.append_assoc, List.take_append_drop, List.take_append_drop, ← before,
    ← after, List.take_append_drop, List.take_append_drop] at burst

end ScriptMetadata.Crc32
