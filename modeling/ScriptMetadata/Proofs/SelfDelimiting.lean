import Mathlib.Data.List.Basic
import ScriptMetadata.Text

/-!
Texts that show where they end: whatever stands behind such a text, it can be cut off, and what it
says of its value can be read. Numerals before a mark and quoted texts are of this kind.
-/

set_option autoImplicit false

namespace ScriptMetadata.Text

/-- The key of the value can be read off the text, whatever stands behind it. -/
def Reveals {Value Key : Type} (key : Value → Key) (write : Value → List Char) : Prop :=
  ∀ ⦃first second : Value⦄ ⦃rest other : List Char⦄,
    write first ++ rest = write second ++ other → key first = key second ∧ rest = other

section Cutting

/-- Equal texts have their first mark at one place. -/
theorem eq_of_append_mark {mark : Char} {first second rest other : List Char}
    (unmarked : mark ∉ first) (unmarked' : mark ∉ second)
    (same : first ++ mark :: rest = second ++ mark :: other) : first = second ∧ rest = other := by
  induction first generalizing second with
  | nil =>
      cases second with
      | nil => exact ⟨rfl, List.tail_eq_of_cons_eq same⟩
      | cons char second =>
          have head : mark = char := List.head_eq_of_cons_eq same
          exact absurd (head ▸ List.mem_cons_self) unmarked'
  | cons char first induction =>
      cases second with
      | nil =>
          have head : char = mark := List.head_eq_of_cons_eq same
          exact absurd (head ▸ List.mem_cons_self) unmarked
      | cons char' second =>
          obtain ⟨rfl, tails⟩ := List.cons.inj same
          have absent := fun member => unmarked (List.mem_cons_of_mem char member)
          have absent' := fun member => unmarked' (List.mem_cons_of_mem char member)
          obtain ⟨rfl, rests⟩ := induction absent absent' tails
          exact ⟨rfl, rests⟩

variable {Value Key : Type} {key : Value → Key} {write : Value → List Char}

/-- A mark that begins none of the written values ends a list of them. -/
theorem Reveals.flatMap_mark (reveals : Reveals key write) {mark : Char}
    (starts : ∀ value, ∃ char ∈ (write value).head?, char ≠ mark) {values others : List Value}
    {rest other : List Char}
    (same : values.flatMap write ++ mark :: rest = others.flatMap write ++ mark :: other) :
    values.map key = others.map key ∧ rest = other := by
  have unended : ∀ value (tail after : List Char), write value ++ tail ≠ mark :: after := by
    intro value tail after ended
    obtain ⟨char, first, distinct⟩ := starts value
    obtain ⟨written, shape⟩ := List.head?_eq_some_iff.1 first
    rw [shape] at ended
    exact distinct (List.head_eq_of_cons_eq ended)
  induction values generalizing others with
  | nil =>
      cases others with
      | nil => exact ⟨rfl, List.tail_eq_of_cons_eq same⟩
      | cons value others =>
          rw [List.flatMap_cons, List.append_assoc] at same
          exact absurd same.symm (unended value _ _)
  | cons value values induction =>
      cases others with
      | nil =>
          rw [List.flatMap_cons, List.append_assoc] at same
          exact absurd same (unended value _ _)
      | cons value' others =>
          rw [List.flatMap_cons, List.flatMap_cons, List.append_assoc, List.append_assoc] at same
          obtain ⟨keys, remaining⟩ := reveals same
          obtain ⟨maps, rests⟩ := induction remaining
          exact ⟨by rw [List.map_cons, List.map_cons, keys, maps], rests⟩

end Cutting

section Numerals

def digitValue (digit : Char) : Nat :=
  if digit.isDigit then digit.toNat - '0'.toNat else 10 + digit.toNat - 'a'.toNat

def numeralValue (base : Nat) (digits : List Char) : Nat :=
  digits.foldl (fun value digit => base * value + digitValue digit) 0

theorem digitValue_digitChar : ∀ digit < 16, digitValue (Nat.digitChar digit) = digit := by
  decide

variable {base : Nat} (two_le : 1 < base) (le_sixteen : base ≤ 16)

include two_le le_sixteen

theorem numeralValue_toDigits (value : Nat) :
    numeralValue base (Nat.toDigits base value) = value := by
  induction value using Nat.strongRecOn with
  | _ value induction =>
      rw [Nat.toDigits_eq_if two_le]
      split
      · rename_i single
        simp [numeralValue, digitValue_digitChar value (by omega)]
      · rename_i longer
        have positive : 0 < value := by omega
        have shorter := induction (value / base) (Nat.div_lt_self positive two_le)
        have digit := digitValue_digitChar (value % base)
          (Nat.lt_of_lt_of_le (Nat.mod_lt value (by omega)) le_sixteen)
        rw [numeralValue] at shorter ⊢
        rw [List.foldl_append, shorter, List.foldl_cons, List.foldl_nil, digit,
          Nat.div_add_mod]

theorem exists_digit_of_mem_toDigits {value : Nat} {char : Char}
    (member : char ∈ Nat.toDigits base value) : ∃ digit < 16, Nat.digitChar digit = char := by
  induction value using Nat.strongRecOn with
  | _ value induction =>
      rw [Nat.toDigits_eq_if two_le] at member
      split at member
      · rename_i single
        exact ⟨value, by omega, (List.mem_singleton.1 member).symm⟩
      · rename_i longer
        rcases List.mem_append.1 member with earlier | last
        · exact induction _ (Nat.div_lt_self (by omega) two_le) earlier
        · have below := Nat.mod_lt value (show 0 < base by omega)
          exact ⟨value % base, by omega, (List.mem_singleton.1 last).symm⟩

omit two_le le_sixteen in
theorem numeralValue_zeroPadded (width : Nat) (digits : List Char) :
    numeralValue base (zeroPadded width digits) = numeralValue base digits := by
  have zeros : ∀ count, numeralValue base (List.replicate count '0') = 0 := by
    intro count
    induction count with
    | zero => rfl
    | succ count induction =>
        rw [numeralValue] at induction ⊢
        rw [List.replicate_succ', List.foldl_append, induction]
        rfl
  have padding := zeros (width - digits.length)
  rw [numeralValue] at padding
  rw [zeroPadded, numeralValue, List.foldl_append, padding, numeralValue]

theorem not_mem_numeral {mark : Char} (apart : ∀ digit < 16, Nat.digitChar digit ≠ mark)
    (width value : Nat) : mark ∉ zeroPadded width (Nat.toDigits base value) := by
  intro member
  rcases List.mem_append.1 member with padding | digit
  · exact apart 0 (by omega) (List.eq_of_mem_replicate padding).symm
  · obtain ⟨digit, below, same⟩ := exists_digit_of_mem_toDigits two_le le_sixteen digit
    exact apart digit below same

theorem numeral_injective (width : Nat) {value other : Nat}
    (same : zeroPadded width (Nat.toDigits base value) =
      zeroPadded width (Nat.toDigits base other)) : value = other := by
  have values := congrArg (numeralValue base) same
  rwa [numeralValue_zeroPadded, numeralValue_zeroPadded, numeralValue_toDigits two_le le_sixteen,
    numeralValue_toDigits two_le le_sixteen] at values

/-- A numeral ends before any mark that is no digit, whatever its width. -/
theorem digits_eq_of_mark {mark : Char} (apart : ∀ digit < 16, Nat.digitChar digit ≠ mark)
    {width width' value other : Nat} {rest after : List Char}
    (same : zeroPadded width (Nat.toDigits base value) ++ mark :: rest =
      zeroPadded width' (Nat.toDigits base other) ++ mark :: after) :
    zeroPadded width (Nat.toDigits base value) = zeroPadded width' (Nat.toDigits base other) ∧
      rest = after :=
  eq_of_append_mark (not_mem_numeral two_le le_sixteen apart width value)
    (not_mem_numeral two_le le_sixteen apart width' other) same

theorem eq_of_numeral_mark {mark : Char} (apart : ∀ digit < 16, Nat.digitChar digit ≠ mark)
    {width value other : Nat} {rest after : List Char}
    (same : zeroPadded width (Nat.toDigits base value) ++ mark :: rest =
      zeroPadded width (Nat.toDigits base other) ++ mark :: after) :
    value = other ∧ rest = after := by
  obtain ⟨digits, rests⟩ := digits_eq_of_mark two_le le_sixteen apart same
  exact ⟨numeral_injective two_le le_sixteen width digits, rests⟩

theorem eq_of_toDigits_mark {mark : Char} (apart : ∀ digit < 16, Nat.digitChar digit ≠ mark)
    {value other : Nat} {rest after : List Char}
    (same : Nat.toDigits base value ++ mark :: rest =
      Nat.toDigits base other ++ mark :: after) : value = other ∧ rest = after := by
  have unpadded : ∀ digits : List Char, zeroPadded 0 digits = digits := by
    intro digits
    rw [zeroPadded, Nat.zero_sub]
    rfl
  rw [← unpadded (Nat.toDigits base value), ← unpadded (Nat.toDigits base other)] at same
  exact eq_of_numeral_mark two_le le_sixteen apart same

end Numerals

section Quotes

/-- The letters of the escapes of two characters. -/
def escapeLetters : List (Char × Char) :=
  [('"', '"'), ('\\', '\\'), ('\x00', '0'), ('\t', 't'), ('\n', 'n'), ('\r', 'r')]

theorem escape_cases (char : Char) :
    (∃ letter, (char, letter) ∈ escapeLetters ∧ escape char = ['\\', letter]) ∨
      escape char = numberEscape char ∨
        char ≠ '"' ∧ char ≠ '\\' ∧ escape char = [char] := by
  unfold escape
  split
  iterate 6 exact .inl ⟨_, by simp [escapeLetters], rfl⟩
  rename_i quote backslash _ _ _ _
  split
  · exact .inr (.inl rfl)
  · exact .inr (.inr ⟨quote, backslash, rfl⟩)

theorem numberEscape_reveals : Reveals id numberEscape := by
  intro first second rest other same
  simp only [numberEscape, hexadecimal, List.cons_append, List.append_assoc, List.nil_append,
    List.cons.injEq, true_and] at same
  obtain ⟨numbers, rests⟩ := eq_of_toDigits_mark (by decide) (by decide) (by decide) same
  exact ⟨Char.toNat_inj.1 numbers, rests⟩

theorem escapeLetters_unique {char other letter : Char} (listed : (char, letter) ∈ escapeLetters)
    (listed' : (other, letter) ∈ escapeLetters) : char = other := by
  have unique : ∀ pair ∈ escapeLetters, ∀ pair' ∈ escapeLetters, pair.2 = pair'.2 →
      pair.1 = pair'.1 := by decide
  exact unique _ listed _ listed' rfl

theorem letter_ne_of_mem {char letter : Char} (listed : (char, letter) ∈ escapeLetters) :
    letter ≠ 'u' := by
  have other : ∀ pair ∈ escapeLetters, pair.2 ≠ 'u' := by decide
  exact other _ listed

/-- The kinds of escapes differ in their first two characters. -/
theorem escape_reveals : Reveals id escape := by
  intro first second rest other same
  rcases escape_cases first with ⟨letter, listed, shape⟩ | shape | ⟨-, plain, shape⟩ <;>
    rcases escape_cases second with ⟨letter', listed', shape'⟩ | shape' | ⟨-, plain', shape'⟩ <;>
    rw [shape, shape'] at same
  case inl.inl =>
    obtain ⟨-, tails⟩ := List.cons.inj same
    obtain ⟨rfl, rests⟩ := List.cons.inj tails
    exact ⟨escapeLetters_unique listed listed', rests⟩
  case inl.inr.inl =>
    obtain ⟨-, tails⟩ := List.cons.inj same
    exact absurd (List.head_eq_of_cons_eq tails) (letter_ne_of_mem listed)
  case inl.inr.inr => exact absurd (List.head_eq_of_cons_eq same).symm plain'
  case inr.inl.inl =>
    obtain ⟨-, tails⟩ := List.cons.inj same
    exact absurd (List.head_eq_of_cons_eq tails).symm (letter_ne_of_mem listed')
  case inr.inl.inr.inl => exact numberEscape_reveals same
  case inr.inl.inr.inr => exact absurd (List.head_eq_of_cons_eq same).symm plain'
  case inr.inr.inl => exact absurd (List.head_eq_of_cons_eq same) plain
  case inr.inr.inr.inl => exact absurd (List.head_eq_of_cons_eq same) plain
  case inr.inr.inr.inr => exact List.cons.inj same

theorem head_escape_ne_quote (char : Char) : ∃ first ∈ (escape char).head?, first ≠ '"' := by
  rcases escape_cases char with ⟨letter, -, shape⟩ | shape | ⟨quote, -, shape⟩
  · exact ⟨'\\', by rw [shape]; rfl, by decide⟩
  · exact ⟨'\\', by rw [shape]; rfl, by decide⟩
  · exact ⟨char, by rw [shape]; rfl, quote⟩

theorem quote_reveals : Reveals id quote := by
  intro first second rest other same
  simp only [quote, List.cons_append, List.append_assoc, List.nil_append, List.cons.injEq,
    true_and] at same
  obtain ⟨chars, rests⟩ := escape_reveals.flatMap_mark head_escape_ne_quote same
  rw [List.map_id, List.map_id] at chars
  exact ⟨String.toList_inj.1 chars, rests⟩

end Quotes

end ScriptMetadata.Text
