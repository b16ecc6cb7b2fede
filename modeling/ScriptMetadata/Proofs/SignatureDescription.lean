import ScriptMetadata.Proofs.Words
import ScriptMetadata.Proofs.SelfDelimiting
import ScriptMetadata.Signature

/-!
A signature comes back from its description. The parts of the description are the names of the flags
whose bits are set, and behind them the other bits as a number; putting the bits of all parts
together gives the signature again.
-/

set_option autoImplicit false

namespace ScriptMetadata.Signature

open Text

section Bits

/-- The bit of a flag, counted from the lowest one. -/
def Flag.position : Flag → Nat
  | input => 0
  | output => 1
  | userData => 2
  | x => 3
  | y => 4
  | kernel => 5

namespace Flag

theorem toNat_mask (flag : Flag) : flag.mask.toNat = 2 ^ flag.position := by
  cases flag <;> rfl

theorem position_lt (flag : Flag) : flag.position < 6 := by
  cases flag <;> decide

theorem exists_position {index : Nat} (low : index < 6) : ∃ flag : Flag, flag.position = index := by
  have listed : ∀ index < 6, ∃ flag ∈ all, flag.position = index := by decide
  obtain ⟨flag, -, placed⟩ := listed index low
  exact ⟨flag, placed⟩

end Flag

variable (signature : UInt32)

theorem toNat_and_mask (flag : Flag) :
    (signature &&& flag.mask).toNat =
      (signature.toNat.testBit flag.position).toNat * flag.mask.toNat := by
  rw [UInt32.toNat_and, flag.toNat_mask, Nat.and_two_pow]

theorem hasFlag_eq_testBit (flag : Flag) :
    hasFlag signature flag = signature.toNat.testBit flag.position := by
  have masked := toNat_and_mask signature flag
  cases bit : signature.toNat.testBit flag.position with
  | false =>
      rw [bit, Bool.toNat_false, Nat.zero_mul, ← UInt32.toNat_zero, UInt32.toNat_inj] at masked
      simp [hasFlag, masked]
  | true =>
      have set : flag.mask ≠ 0 := by cases flag <;> decide
      rw [bit, Bool.toNat_true, Nat.one_mul, UInt32.toNat_inj] at masked
      simp [hasFlag, masked, set]

theorem and_mask (flag : Flag) :
    signature &&& flag.mask = if hasFlag signature flag then flag.mask else 0 := by
  apply UInt32.toNat_inj.1
  rw [toNat_and_mask, hasFlag_eq_testBit]
  cases signature.toNat.testBit flag.position with
  | false => exact Nat.zero_mul _
  | true => exact Nat.one_mul _

/-- Two signatures have the same flags when their six lowest bits agree, and only then. -/
theorem hasFlag_eq_iff (other : UInt32) :
    (∀ flag, hasFlag signature flag = hasFlag other flag) ↔
      signature.toNat % 64 = other.toNat % 64 := by
  have low : ∀ (word : UInt32) (index : Nat), (word.toNat % 64).testBit index =
      (decide (index < 6) && word.toNat.testBit index) :=
    fun word index => Nat.testBit_mod_two_pow word.toNat 6 index
  constructor
  · intro same
    apply Nat.eq_of_testBit_eq
    intro index
    rw [low, low]
    by_cases flagged : index < 6
    · obtain ⟨flag, rfl⟩ := Flag.exists_position flagged
      rw [← hasFlag_eq_testBit, ← hasFlag_eq_testBit, same]
    · rw [decide_eq_false flagged, Bool.false_and, Bool.false_and]
  · intro same flag
    have bits := congrArg (Nat.testBit · flag.position) same
    simp only [low, decide_eq_true flag.position_lt, Bool.true_and] at bits
    rw [hasFlag_eq_testBit, hasFlag_eq_testBit, bits]

theorem toNat_unnamedBits : (unnamedBits signature).toNat = signature.toNat / 64 * 64 :=
  Word32.toNat_clearLowBits signature

theorem unnamedBits_eq_zero_iff : unnamedBits signature = 0 ↔ signature.toNat / 64 * 64 = 0 := by
  rw [← UInt32.toNat_inj, toNat_unnamedBits, UInt32.toNat_zero]

end Bits

section Union

/-- The bits of all the words together. -/
def union (words : List UInt32) : UInt32 := words.foldr (· ||| ·) 0

theorem union_cons (word : UInt32) (words : List UInt32) :
    union (word :: words) = word ||| union words := rfl

theorem union_append (first second : List UInt32) :
    union (first ++ second) = union first ||| union second := by
  induction first with
  | nil => exact UInt32.zero_or.symm
  | cons word first induction =>
      rw [List.cons_append, union_cons, union_cons, induction, UInt32.or_assoc]

/-- Of the masks, those of the flags that are set make up what the signature has of all of them. -/
theorem union_masks (signature : UInt32) (flags : List Flag) :
    union ((flags.filter (hasFlag signature)).map Flag.mask) =
      signature &&& union (flags.map Flag.mask) := by
  induction flags with
  | nil => exact UInt32.and_zero.symm
  | cons flag flags induction =>
      rw [List.map_cons, union_cons, Word32.and_or_distrib, ← induction, and_mask]
      cases given : hasFlag signature flag with
      | false => simp [given]
      | true => simp [given, union_cons]

theorem union_all : union (Flag.all.map Flag.mask) = flagMask := by decide

end Union

section Parts

/-- The flags under the names that a description gives them, from the lowest bit up. -/
def namedFlags : List (Flag × String) :=
  [(.input, "in"), (.output, "out"), (.userData, "usr_data"), (.x, "x"), (.y, "y"),
    (.kernel, "kernel")]

/-- The names of the flags that are set, and the number that the other bits make if it is not
zero. -/
def listing (signature : UInt32) : List (List Char) :=
  (namedFlags.filter fun entry => hasFlag signature entry.1).map (fun entry => entry.2.toList) ++
    if signature.toNat / 64 * 64 = 0 then []
    else [ '+' :: '0' :: 'x' :: Nat.toDigits 16 (signature.toNat / 64 * 64) ]

theorem markedHexadecimal_one (value : Nat) :
    markedHexadecimal 1 value = '0' :: 'x' :: Nat.toDigits 16 value := by
  have written : 0 < (Nat.toDigits 16 value).length := Nat.length_toDigits_pos
  rw [markedHexadecimal, zeroPadded, hexadecimal, Nat.sub_eq_zero_of_le written]
  rfl

theorem parts_eq_listing (signature : UInt32) : parts signature = listing signature := by
  have flags : Flag.all = namedFlags.map Prod.fst := rfl
  have labels : ∀ entry ∈ namedFlags, entry.1.label.toList = entry.2.toList := by decide
  have named : (Flag.all.filter (hasFlag signature)).map (fun flag => flag.label.toList) =
      (namedFlags.filter fun entry => hasFlag signature entry.1).map
        fun entry => entry.2.toList := by
    rw [flags, List.filter_map, List.map_map]
    apply List.map_congr_left
    intro entry member
    exact labels entry (List.mem_of_mem_filter member)
  rw [parts, listing, named]
  by_cases rest : signature.toNat / 64 * 64 = 0
  · rw [if_pos ((unnamedBits_eq_zero_iff signature).2 rest), if_pos rest, List.append_nil]
  · rw [if_neg (mt (unnamedBits_eq_zero_iff signature).1 rest), if_neg rest,
      markedHexadecimal_one, toNat_unnamedBits]

/-- What a part of a description stands for: the number behind the sign, or the bit of a flag. -/
def partBits : List Char → UInt32
  | '+' :: '0' :: 'x' :: digits => UInt32.ofNat (numeralValue 16 digits)
  | name => ((Flag.all.find? fun flag => flag.label.toList == name).map Flag.mask).getD 0

/-- The signature that a text describes. -/
def ofDescription (text : List Char) : UInt32 := union ((text.splitOn '|').map partBits)

theorem partBits_label (flag : Flag) : partBits flag.label.toList = flag.mask := by
  cases flag <;> decide

theorem partBits_number (value : UInt32) :
    partBits ('+' :: markedHexadecimal 1 value.toNat) = value := by
  rw [markedHexadecimal_one, partBits, numeralValue_toDigits (by decide) (by decide),
    UInt32.ofNat_toNat]

theorem union_partBits_parts (signature : UInt32) :
    union ((parts signature).map partBits) = signature := by
  have named : union (((Flag.all.filter (hasFlag signature)).map fun flag =>
      flag.label.toList).map partBits) = signature &&& flagMask := by
    rw [List.map_map, ← union_all, ← union_masks]
    exact congrArg union (List.map_congr_left fun flag _ => partBits_label flag)
  have whole : (signature &&& flagMask) ||| unnamedBits signature = signature :=
    Word32.and_or_and_not signature flagMask
  unfold parts
  split
  · rename_i clear
    rw [clear, UInt32.or_zero] at whole
    rw [named, whole]
  · rw [List.map_append, union_append, named, List.map_singleton, partBits_number]
    change (signature &&& flagMask) ||| (unnamedBits signature ||| 0) = signature
    rw [UInt32.or_zero, whole]

theorem parts_eq_nil_iff (signature : UInt32) : parts signature = [] ↔ signature = 0 := by
  constructor
  · intro empty
    rw [← union_partBits_parts signature, empty]
    rfl
  · rintro rfl
    decide

end Parts

section Description

variable (signature : UInt32)

theorem separator_not_mem_parts : ∀ part ∈ parts signature, '|' ∉ part := by
  have labels : ∀ flag ∈ Flag.all, '|' ∉ flag.label.toList := by decide
  have numbers : ∀ value, '|' ∉ '+' :: markedHexadecimal 1 value := by
    intro value
    have digits : '|' ∉ zeroPadded 1 (Nat.toDigits 16 value) :=
      not_mem_numeral (by decide) (by decide) (by decide) 1 value
    simpa [markedHexadecimal, hexadecimal] using digits
  exact forall_mem_parts labels numbers signature

theorem splitOn_describe :
    (describe signature).splitOn '|' =
      if signature = 0 then ["none".toList] else parts signature := by
  unfold describe
  by_cases empty : parts signature = []
  · rw [if_pos (List.isEmpty_iff.2 empty), if_pos ((parts_eq_nil_iff signature).1 empty)]
    decide
  · rw [if_neg (mt List.isEmpty_iff.1 empty), if_neg (mt (parts_eq_nil_iff signature).2 empty)]
    exact List.splitOn_intercalate '|' (separator_not_mem_parts signature) empty

theorem ofDescription_describe : ofDescription (describe signature) = signature := by
  rw [ofDescription, splitOn_describe]
  split
  · rename_i zero
    rw [zero]
    decide
  · exact union_partBits_parts signature

theorem describe_inj (other : UInt32) :
    describe signature = describe other ↔ signature = other := by
  refine ⟨fun same => ?_, congrArg describe⟩
  rw [← ofDescription_describe signature, same, ofDescription_describe]

/-- A description splits into the names of the flags that are set, in the order of their bits, and
the other bits in hexadecimal; only the signature without bits is described by a word of its own.
The flags are the six lowest bits, and the signature can be read off its description. -/
theorem describe_lists_bits :
    (describe signature).splitOn '|' =
        (if signature = 0 then ["none".toList] else listing signature) ∧
      (describe signature = "none".toList ↔ signature = 0) ∧
      (∀ flag, hasFlag signature flag = signature.toNat.testBit flag.position) ∧
      (∀ other, (∀ flag, hasFlag signature flag = hasFlag other flag) ↔
        signature.toNat % 64 = other.toNat % 64) ∧
      ofDescription (describe signature) = signature ∧
      ∀ other, describe signature = describe other ↔ signature = other := by
  have none_iff : describe signature = "none".toList ↔ signature = 0 := describe_inj signature 0
  refine ⟨?split, none_iff, hasFlag_eq_testBit signature, hasFlag_eq_iff signature,
    ofDescription_describe signature, describe_inj signature⟩
  rw [splitOn_describe, parts_eq_listing]

example : describe 0x102 = "out|+0x100".toList := by decide

end Description

end ScriptMetadata.Signature
