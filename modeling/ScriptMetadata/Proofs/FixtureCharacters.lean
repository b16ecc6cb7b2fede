import Mathlib.Tactic.IntervalCases
import ScriptMetadata.Fixture.Character
import ScriptMetadata.Proofs.JsonGrammar
import ScriptMetadata.Proofs.ReaderExactness

/-!
The reader of characters takes exactly the spellings of one character, and up to the closing quote
it takes exactly the spellings of a string.
-/

set_option autoImplicit false

namespace ScriptMetadata.Fixture

open Json

section Units

theorem toNat_lt_of_hexDigit? {digit : Char} {value : Nat} (read : hexDigit? digit = some value) :
    digit.toNat < 128 := by
  have below : ∀ last : Char, digit ≤ last → digit.toNat ≤ last.toNat := fun _ order => order
  unfold hexDigit? at read
  split at read
  · rename_i range
    exact Nat.lt_of_le_of_lt (below '9' range.2) (by decide)
  · split at read
    · rename_i range
      exact Nat.lt_of_le_of_lt (below 'f' range.2) (by decide)
    · split at read
      · rename_i range
        exact Nat.lt_of_le_of_lt (below 'F' range.2) (by decide)
      · contradiction

theorem lt_of_isHexDigit {digit : Char} {value : Nat} (listed : IsHexDigit value digit) :
    value < 16 := by
  rcases listed with same | same
  · exact (List.getElem?_eq_some_iff.1 same).1
  · exact (List.getElem?_eq_some_iff.1 same).1

theorem hexDigit?_eq_some_iff {digit : Char} {value : Nat} :
    hexDigit? digit = some value ↔ IsHexDigit value digit := by
  constructor
  · intro read
    have listed : ∀ number < 128, ∀ value ∈ hexDigit? (Char.ofNat number),
        "0123456789abcdef".toList[value]? = some (Char.ofNat number) ∨
          "0123456789ABCDEF".toList[value]? = some (Char.ofNat number) := by decide
    have found := listed digit.toNat (toNat_lt_of_hexDigit? read) value
    rw [Char.ofNat_toNat] at found
    exact found read
  · intro listed
    have below := lt_of_isHexDigit listed
    rcases listed with same | same
    · interval_cases value <;> cases same <;> rfl
    · interval_cases value <;> cases same <;> rfl

theorem lt_of_writesUnit {unit : Nat} {text : List Char} (writes : WritesUnit unit text) :
    unit < 0x10000 := by
  cases writes with
  | escape first second third fourth =>
      have := lt_of_isHexDigit first
      have := lt_of_isHexDigit second
      have := lt_of_isHexDigit third
      have := lt_of_isHexDigit fourth
      omega

theorem unit?_eq_some_iff {input rest : List Char} {unit : Nat} :
    unit? input = some (unit, rest) ↔
      ∃ text, WritesUnit unit text ∧ '\\' :: 'u' :: input = text ++ rest := by
  constructor
  · intro read
    unfold unit? at read
    split at read
    · simp only [bind, Option.bind_eq_some_iff, hexDigit?_eq_some_iff] at read
      obtain ⟨first, first_digit, second, second_digit, third, third_digit, fourth, fourth_digit,
        same⟩ := read
      cases same
      exact ⟨_, .escape first_digit second_digit third_digit fourth_digit, rfl⟩
    · contradiction
  · rintro ⟨text, writes, same⟩
    cases writes with
    | @escape _ _ _ _ a b c d first second third fourth =>
        have digits : input = a :: b :: c :: d :: rest := (List.cons.inj (List.cons.inj same).2).2
        rw [digits]
        simp only [unit?, hexDigit?_eq_some_iff.2 first, hexDigit?_eq_some_iff.2 second,
          hexDigit?_eq_some_iff.2 third, hexDigit?_eq_some_iff.2 fourth, bind, Option.bind_some]
        rfl

theorem markedUnit?_eq_some_iff {input rest : List Char} {unit : Nat} :
    markedUnit? input = some (unit, rest) ↔
      ∃ text, WritesUnit unit text ∧ input = text ++ rest := by
  constructor
  · intro read
    unfold markedUnit? at read
    split at read
    · exact unit?_eq_some_iff.1 read
    · contradiction
  · rintro ⟨text, writes, rfl⟩
    cases writes with
    | escape first second third fourth =>
        exact unit?_eq_some_iff.2 ⟨_, .escape first second third fourth, rfl⟩

end Units

section Surrogates

theorem isHighSurrogate_iff {unit : Nat} :
    isHighSurrogate unit = true ↔ 0xD800 ≤ unit ∧ unit < 0xDC00 := by
  simp [isHighSurrogate]

theorem isLowSurrogate_iff {unit : Nat} :
    isLowSurrogate unit = true ↔ 0xDC00 ≤ unit ∧ unit < 0xE000 := by
  simp [isLowSurrogate]

theorem scalar_toNat (char : Char) :
    char.toNat < 0xD800 ∨ 0xE000 ≤ char.toNat ∧ char.toNat < 0x110000 := by
  rcases char.valid with low | high
  · exact .inl low
  · exact .inr ⟨high.1, high.2⟩

theorem toNat_ofNat {number : Nat}
    (scalar : number < 0xD800 ∨ 0xE000 ≤ number ∧ number < 0x110000) :
    (Char.ofNat number).toNat = number := by
  have valid : number.isValidChar := by
    rcases scalar with low | high
    · exact .inl low
    · exact .inr ⟨high.1, high.2⟩
  rw [Char.ofNat, dif_pos valid]
  rfl

theorem utf16_of_lt {char : Char} (basic : char.toNat < 0x10000) : utf16 char = [char.toNat] :=
  if_pos basic

theorem utf16_ofNat {unit : Nat} (small : unit < 0x10000) (high : isHighSurrogate unit ≠ true)
    (low : isLowSurrogate unit ≠ true) : utf16 (Char.ofNat unit) = [unit] := by
  rw [Ne, isHighSurrogate_iff] at high
  rw [Ne, isLowSurrogate_iff] at low
  have number : (Char.ofNat unit).toNat = unit := toNat_ofNat (by omega)
  rw [utf16_of_lt (by omega), number]

theorem toNat_pairChar {high low : Nat} (first : isHighSurrogate high = true)
    (second : isLowSurrogate low = true) :
    (pairChar high low).toNat = 0x10000 + (high - 0xD800) * 0x400 + (low - 0xDC00) := by
  rw [isHighSurrogate_iff] at first
  rw [isLowSurrogate_iff] at second
  exact toNat_ofNat (.inr (by omega))

/-- A pair stands for the character of which it is the units. -/
theorem utf16_eq_pair_iff {char : Char} {high low : Nat} :
    utf16 char = [high, low] ↔
      isHighSurrogate high = true ∧ isLowSurrogate low = true ∧ char = pairChar high low := by
  constructor
  · intro units
    have scalar := scalar_toNat char
    rw [utf16] at units
    split at units
    · exact absurd (congrArg List.length units) (by simp)
    · rename_i beyond
      simp only [List.cons.injEq, and_true] at units
      have number : char.toNat = 0x10000 + (high - 0xD800) * 0x400 + (low - 0xDC00) := by omega
      refine ⟨isHighSurrogate_iff.2 (by omega), isLowSurrogate_iff.2 (by omega), ?_⟩
      rw [pairChar, ← number, Char.ofNat_toNat]
  · rintro ⟨first, second, same⟩
    have number := toNat_pairChar first second
    rw [← same] at number
    rw [isHighSurrogate_iff] at first
    rw [isLowSurrogate_iff] at second
    rw [utf16, number, if_neg (by omega)]
    simp only [List.cons.injEq, and_true]
    omega

theorem numberedChar?_eq_some_iff {input rest : List Char} {char : Char} :
    numberedChar? input = some (char, rest) ↔
      ∃ pieces, List.Forall₂ WritesUnit (utf16 char) pieces ∧
        '\\' :: 'u' :: input = pieces.flatten ++ rest := by
  constructor
  · intro read
    unfold numberedChar? at read
    split at read
    · contradiction
    · rename_i unit after first
      obtain ⟨text, writes, same⟩ := unit?_eq_some_iff.1 first
      split at read
      · rename_i high
        split at read
        · contradiction
        · rename_i low last second
          obtain ⟨text', writes', rfl⟩ := markedUnit?_eq_some_iff.1 second
          split at read
          · rename_i isLow
            obtain ⟨rfl, rfl⟩ := Prod.mk.inj (Option.some.inj read)
            have units := utf16_eq_pair_iff.2 ⟨high, isLow, rfl⟩
            rw [units]
            exact ⟨[text, text'], .cons writes (.cons writes' .nil), by simp [same]⟩
          · contradiction
      · rename_i high
        split at read
        · contradiction
        · rename_i low
          cases read
          rw [utf16_ofNat (lt_of_writesUnit writes) high low]
          exact ⟨[text], .cons writes .nil, by simp [same]⟩
  · rintro ⟨pieces, units, same⟩
    have scalar := scalar_toNat char
    by_cases basic : char.toNat < 0x10000
    · rw [utf16_of_lt basic] at units
      obtain ⟨text, _, writes, none, rfl⟩ := List.forall₂_cons_left_iff.1 units
      cases none
      have read := unit?_eq_some_iff.2 ⟨text, writes, by simpa using same⟩
      have high : isHighSurrogate char.toNat ≠ true := by
        rw [Ne, isHighSurrogate_iff]
        omega
      have low : isLowSurrogate char.toNat ≠ true := by
        rw [Ne, isLowSurrogate_iff]
        omega
      rw [numberedChar?, read]
      simp only [high, low, Bool.false_eq_true, if_false, Char.ofNat_toNat]
    · obtain ⟨high, low, pair⟩ : ∃ high low, utf16 char = [high, low] :=
        ⟨_, _, if_neg basic⟩
      rw [pair] at units
      obtain ⟨text, _, writes, others, rfl⟩ := List.forall₂_cons_left_iff.1 units
      obtain ⟨text', _, writes', none, rfl⟩ := List.forall₂_cons_left_iff.1 others
      cases none
      obtain ⟨isHigh, isLow, paired⟩ := utf16_eq_pair_iff.1 pair
      have first := unit?_eq_some_iff.2 ⟨text, writes, by simpa using same⟩
      have second : markedUnit? (text' ++ rest) = some (low, rest) :=
        markedUnit?_eq_some_iff.2 ⟨text', writes', rfl⟩
      rw [numberedChar?, first]
      simp only [isHigh, isLow, second, if_true, paired]

end Surrogates

theorem simpleEscape?_eq_some_iff {letter char : Char} :
    simpleEscape? letter = some char ↔ (letter, char) ∈ shortEscapes := by
  constructor
  · intro read
    unfold simpleEscape? at read
    split at read <;> cases read <;> decide
  · intro listed
    simp only [shortEscapes, List.mem_cons, Prod.mk.injEq, List.not_mem_nil, or_false] at listed
    rcases listed with h | h | h | h | h | h | h | h <;> obtain ⟨rfl, rfl⟩ := h <;> rfl

theorem isPlain_iff {char : Char} :
    isPlain char = true ↔ char ≠ '"' ∧ char ≠ '\\' ∧ 0x20 ≤ char.toNat := by
  simp [isPlain, and_assoc]

/-- The units of a character, of which there is one at least, start with the mark of an escape. -/
theorem marked_of_units {char : Char} {pieces : List (List Char)}
    (units : List.Forall₂ WritesUnit (utf16 char) pieces) :
    ∃ body, pieces.flatten = '\\' :: 'u' :: body := by
  have present : utf16 char ≠ [] := by
    unfold utf16
    split <;> exact List.cons_ne_nil _ _
  obtain ⟨first, others, same⟩ := List.exists_cons_of_ne_nil present
  rw [same] at units
  obtain ⟨text, rest, writes, -, rfl⟩ := List.forall₂_cons_left_iff.1 units
  cases writes with
  | escape first second third fourth => exact ⟨_, rfl⟩

theorem head_ne_quote_of_writesChar {char : Char} {text : List Char}
    (writes : WritesChar char text) : text.head? ≠ some '"' := by
  cases writes with
  | itself quote _ _ => simpa using quote
  | short _ => simp
  | numbered units =>
      obtain ⟨body, same⟩ := marked_of_units units
      simp [same]

theorem character_reads : character.Reads WritesChar := by
  intro input char rest
  change character? input = some (char, rest) ↔ _
  constructor
  · intro read
    unfold character? at read
    split at read
    · obtain ⟨pieces, units, same⟩ := numberedChar?_eq_some_iff.1 read
      exact ⟨pieces.flatten, same, .numbered units⟩
    · obtain ⟨escaped, found, same⟩ := Option.map_eq_some_iff.1 read
      cases same
      exact ⟨_, rfl, .short (simpleEscape?_eq_some_iff.1 found)⟩
    · split at read
      · rename_i plain
        cases read
        obtain ⟨quote, escape, printable⟩ := isPlain_iff.1 plain
        exact ⟨[char], rfl, .itself quote escape printable⟩
      · contradiction
    · contradiction
  · rintro ⟨text, rfl, writes⟩
    cases writes with
    | itself quote escape printable =>
        have plain := isPlain_iff.2 ⟨quote, escape, printable⟩
        unfold character?
        split <;> simp_all
    | @short letter _ listed =>
        have found := simpleEscape?_eq_some_iff.2 listed
        have unnumbered : letter ≠ 'u' := by
          rintro rfl
          contradiction
        change character? ('\\' :: letter :: rest) = _
        rw [character?, found, Option.map_some]
        exact unnumbered
    | @numbered _ pieces units =>
        obtain ⟨body, same⟩ := marked_of_units units
        rw [same, List.cons_append, List.cons_append, character?]
        exact numberedChar?_eq_some_iff.2 ⟨pieces, units, by rw [same]; rfl⟩

/-- Behind the opening quote the reader of characters takes the rest of a string. -/
theorem chars_eq_some_iff {input chars rest : List Char} :
    character.upTo '"' input = some (chars, rest) ↔
      ∃ text, WritesString (String.ofList chars) text ∧ '"' :: input = text ++ rest := by
  rw [Reader.upTo_eq_some_iff character_reads fun _ _ => head_ne_quote_of_writesChar]
  constructor
  · rintro ⟨pieces, related, rfl⟩
    exact ⟨_, ⟨pieces, by rwa [String.toList_ofList], rfl⟩, by simp⟩
  · rintro ⟨text, ⟨pieces, related, rfl⟩, same⟩
    rw [String.toList_ofList] at related
    exact ⟨pieces, related, by simpa using same⟩

end ScriptMetadata.Fixture
