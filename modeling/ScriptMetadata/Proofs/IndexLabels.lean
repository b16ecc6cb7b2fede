import Mathlib.Tactic.Ring
import ScriptMetadata.Proofs.SelfDelimiting
import ScriptMetadata.Report

/-!
Labels of the entries of a list. The width of an index is the number of digits of the highest one,
so that all labels of a list have one length; texts of one length are ordered as the numbers that
they show.
-/

set_option autoImplicit false

namespace ScriptMetadata.Text

section Order

def AllDigits (text : List Char) : Prop := ∀ char ∈ text, char.isDigit = true

theorem AllDigits.zeroPadded {digits : List Char} (all : AllDigits digits) (width : Nat) :
    AllDigits (zeroPadded width digits) := by
  have zero : '0'.isDigit = true := rfl
  intro char
  exact forall_mem_zeroPadded zero all width char

theorem allDigits_decimal (value : Nat) : AllDigits (decimal value) :=
  fun _ member => Nat.isDigit_of_mem_toDigits (by decide) (by decide) member

theorem digitValue_of_isDigit {digit : Char} (decimal : digit.isDigit = true) :
    digitValue digit < 10 ∧ digit.toNat = '0'.toNat + digitValue digit := by
  have bounds := decimal
  simp only [Char.isDigit, Bool.and_eq_true, decide_eq_true_eq, ge_iff_le,
    UInt32.le_iff_toNat_le] at bounds
  have low : 48 ≤ digit.toNat := bounds.1
  have high : digit.toNat ≤ 57 := bounds.2
  have zero : '0'.toNat = 48 := rfl
  rw [digitValue, if_pos decimal, zero]
  omega

theorem digit_lt_iff {digit other : Char} (decimal : digit.isDigit = true)
    (decimal' : other.isDigit = true) :
    digit < other ↔ digitValue digit < digitValue other := by
  have value := (digitValue_of_isDigit decimal).2
  have value' := (digitValue_of_isDigit decimal').2
  have points : digit < other ↔ digit.toNat < other.toNat := UInt32.lt_iff_toNat_lt
  rw [points]
  omega

theorem digit_eq_iff {digit other : Char} (decimal : digit.isDigit = true)
    (decimal' : other.isDigit = true) :
    digit = other ↔ digitValue digit = digitValue other := by
  have value := (digitValue_of_isDigit decimal).2
  have value' := (digitValue_of_isDigit decimal').2
  rw [← Char.toNat_inj]
  omega

/-- What stands before a digit counts once more for each digit behind it. -/
theorem foldl_digits (base start : Nat) (digits : List Char) :
    digits.foldl (fun value digit => base * value + digitValue digit) start =
      start * base ^ digits.length + numeralValue base digits := by
  induction digits generalizing start with
  | nil => simp [numeralValue]
  | cons digit rest induction =>
      rw [numeralValue, List.foldl_cons, List.foldl_cons, induction, induction (base * 0 + _),
        List.length_cons]
      ring

theorem numeralValue_cons (base : Nat) (digit : Char) (rest : List Char) :
    numeralValue base (digit :: rest) =
      digitValue digit * base ^ rest.length + numeralValue base rest := by
  rw [numeralValue, List.foldl_cons, foldl_digits, Nat.mul_zero, Nat.zero_add]

theorem numeralValue_lt {text : List Char} (all : AllDigits text) :
    numeralValue 10 text < 10 ^ text.length := by
  induction text with
  | nil => decide
  | cons digit rest induction =>
      obtain ⟨first, later⟩ := List.forall_mem_cons.1 all
      have single := (digitValue_of_isDigit first).1
      have shorter := induction later
      rw [numeralValue_cons, List.length_cons, Nat.pow_succ]
      have scaled := Nat.mul_le_mul_right (10 ^ rest.length) (Nat.le_of_lt_succ single)
      omega

/-- A difference in the leading part outweighs whatever follows. -/
theorem leading_lt_iff {unit leading leading' rest rest' : Nat} (below : rest < unit)
    (below' : rest' < unit) :
    leading * unit + rest < leading' * unit + rest' ↔
      leading < leading' ∨ leading = leading' ∧ rest < rest' := by
  rcases Nat.lt_trichotomy leading leading' with less | same | greater
  · have scaled := Nat.mul_le_mul_right unit (Nat.succ_le_of_lt less)
    rw [Nat.succ_mul] at scaled
    omega
  · rw [same]
    omega
  · have scaled := Nat.mul_le_mul_right unit (Nat.succ_le_of_lt greater)
    rw [Nat.succ_mul] at scaled
    omega

/-- Numerals of one length are in the order of their values. -/
theorem lt_iff_numeralValue_lt {first second : List Char} (digits : AllDigits first)
    (digits' : AllDigits second) (same : first.length = second.length) :
    first < second ↔ numeralValue 10 first < numeralValue 10 second := by
  induction first generalizing second with
  | nil =>
      rw [List.eq_nil_of_length_eq_zero same.symm]
      simp
  | cons digit rest induction =>
      cases second with
      | nil => contradiction
      | cons digit' rest' =>
          obtain ⟨head, tail⟩ := List.forall_mem_cons.1 digits
          obtain ⟨head', tail'⟩ := List.forall_mem_cons.1 digits'
          have lengths : rest.length = rest'.length := Nat.succ.inj same
          have below := numeralValue_lt tail
          have below' := numeralValue_lt tail'
          rw [← lengths] at below'
          rw [List.cons_lt_cons_iff, induction tail tail' lengths, numeralValue_cons,
            numeralValue_cons, ← lengths, digit_lt_iff head head', digit_eq_iff head head',
            leading_lt_iff below below']

end Order

theorem length_decimal (value : Nat) :
    (decimal value).length = Report.decimalLog value + 1 := by
  induction value using Report.decimalLog.induct with
  | case1 value single =>
      rw [decimal, Nat.toDigits_eq_if (by decide), if_pos single, Report.decimalLog, if_pos single]
      rfl
  | case2 value longer induction =>
      rw [decimal, Nat.toDigits_eq_if (by decide), if_neg longer, Report.decimalLog,
        if_neg longer, List.length_append, ← decimal, induction]
      rfl

theorem length_decimal_mono {value other : Nat} (least : value ≤ other) :
    (decimal value).length ≤ (decimal other).length := by
  have positive : 0 < (decimal other).length := Nat.length_toDigits_pos
  have below := (Nat.length_toDigits_le_iff (by decide) positive).1 (Nat.le_refl _)
  exact (Nat.length_toDigits_le_iff (by decide) positive).2 (Nat.lt_of_le_of_lt least below)

end ScriptMetadata.Text

namespace ScriptMetadata.Report

open Text

/-- Every list has a width for its indices, the number of digits of the highest one. -/
theorem indexWidth?_eq (count : Nat) : indexWidth? count = some (decimal (count - 1)).length := by
  by_cases several : 1 < count
  · rw [indexWidth?_of_lt several, length_decimal]
  · have single : count - 1 = 0 := by omega
    rw [indexWidth?, if_pos (by omega), single]
    rfl

theorem indexWidth?_le {count : Nat} (addressed : count < UInt64.size) :
    ∃ width ≤ 20, indexWidth? count = some width := by
  have short : (decimal (count - 1)).length ≤ 20 := by
    rw [decimal, Nat.length_toDigits_le_iff (by decide) (by decide)]
    have size : UInt64.size < 10 ^ 20 := by decide
    omega
  exact ⟨_, short, indexWidth?_eq count⟩

theorem indexWidth_eq (count : Nat) : indexWidth count = (decimal (count - 1)).length := by
  simp only [indexWidth, indexWidth?_eq, Option.get_some]

/-- The letter of a list and an index with zeros in front, up to the digits of the highest one. -/
def paddedLabel (letter : Char) (count index : Nat) : List Char :=
  letter :: zeroPadded (decimal (count - 1)).length (decimal index)

theorem indexLabel_text (letter : Char) (count index : Nat) :
    (indexLabel letter count index).text = paddedLabel letter count index := by
  rw [indexLabel, indexWidth_eq, paddedLabel]

section Padded

variable {letter : Char} {count index other : Nat}

theorem length_padded (listed : index < count) :
    (zeroPadded (decimal (count - 1)).length (decimal index)).length =
      (decimal (count - 1)).length := by
  rw [length_zeroPadded]
  exact Nat.max_eq_left (length_decimal_mono (Nat.le_sub_one_of_lt listed))

theorem length_paddedLabel (listed : index < count) :
    (paddedLabel letter count index).length = (letter :: decimal (count - 1)).length := by
  rw [paddedLabel, List.length_cons, List.length_cons, length_padded listed]

theorem paddedLabel_lt_iff (listed : index < count) (listed' : other < count) :
    paddedLabel letter count index < paddedLabel letter count other ↔ index < other := by
  have digits := (allDigits_decimal index).zeroPadded (decimal (count - 1)).length
  have digits' := (allDigits_decimal other).zeroPadded (decimal (count - 1)).length
  have lengths := (length_padded listed).trans (length_padded listed').symm
  rw [paddedLabel, paddedLabel, List.cons_lt_cons_self,
    lt_iff_numeralValue_lt digits digits' lengths, numeralValue_zeroPadded,
    numeralValue_zeroPadded, decimal, decimal, numeralValue_toDigits (by decide) (by decide),
    numeralValue_toDigits (by decide) (by decide)]

end Padded

/-- Labels of the entries of a list: a letter and an index that zeros fill up to the digits of the
highest one. All are as long as the last, which has no zeros, and their order as texts is that of
the entries. -/
structure Aligned (letter : Char) (count : Nat) (label : Nat → List Char) : Prop where
  padded : ∀ index < count, label index =
    letter :: (List.replicate ((decimal (count - 1)).length - (decimal index).length) '0' ++
      decimal index)
  length_eq : ∀ index < count, (label index).length = (letter :: decimal (count - 1)).length
  lt_iff : ∀ index < count, ∀ other < count, label index < label other ↔ index < other

theorem aligned_indexLabel (letter : Char) (count : Nat) :
    Aligned letter count fun index => (indexLabel letter count index).text where
  padded := fun index _ => indexLabel_text letter count index
  length_eq := by
    intro index listed
    rw [indexLabel_text, length_paddedLabel listed]
  lt_iff := by
    intro index listed other listed'
    rw [indexLabel_text, indexLabel_text, paddedLabel_lt_iff listed listed']

example : (indexLabel 'S' 10 9).text = ['S', '9'] ∧ (indexLabel 'S' 11 9).text = ['S', '0', '9'] := by
  decide +kernel

end ScriptMetadata.Report
