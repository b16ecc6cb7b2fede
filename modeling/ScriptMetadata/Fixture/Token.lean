import ScriptMetadata.Fixture.Character

/-!
The tokens of a fixture. Of JSON's values only texts and numbers of the unsigned integer form have
tokens here, since a fixture has no use for the others.
-/

set_option autoImplicit false

namespace ScriptMetadata.Fixture

inductive Token where
  | beginObject
  | endObject
  | beginArray
  | endArray
  | nameSeparator
  | valueSeparator
  | text (value : String)
  | integer (value : UInt64)
  deriving DecidableEq

/-- The four blank characters of JSON. -/
def isBlank (char : Char) : Bool :=
  char = ' ' || char = '\t' || char = '\n' || char = '\r'

def structural? : Char → Option Token
  | '\x7b' => some .beginObject
  | '\x7d' => some .endObject
  | '[' => some .beginArray
  | ']' => some .endArray
  | ':' => some .nameSeparator
  | ',' => some .valueSeparator
  | _ => none

def digitsValue (digits : List Char) : Nat :=
  digits.foldl (fun value digit => value * 10 + (digit.toNat - '0'.toNat)) 0

/-- An integer has no leading zeros and fits 64 bits. -/
def integer? (digits : List Char) : Option UInt64 :=
  if digits.head? = some '0' ∧ digits ≠ ['0'] then none
  else if digitsValue digits < UInt64.size then some (UInt64.ofNat (digitsValue digits))
  else none

/-- A token or, for a blank, nothing. -/
def lexeme? : List Char → Option (Option Token × List Char)
  | [] => none
  | char :: rest =>
      if isBlank char then some (none, rest)
      else if char = '"' then
        (character.upTo '"' rest).map fun (chars, rest) =>
          (some (.text (String.ofList chars)), rest)
      else if char.isDigit then
        (integer? (char :: rest.takeWhile Char.isDigit)).map fun value =>
          (some (.integer value), rest.dropWhile Char.isDigit)
      else (structural? char).map fun token => (some token, rest)

theorem length_of_lexeme? {input rest : List Char} {token : Option Token}
    (read : lexeme? input = some (token, rest)) : rest.length < input.length := by
  cases input with
  | nil => contradiction
  | cons char after =>
      simp only [lexeme?] at read
      rw [List.length_cons]
      split at read
      · cases read
        omega
      · split at read
        · obtain ⟨⟨chars, last⟩, body, same⟩ := Option.map_eq_some_iff.1 read
          obtain ⟨_, rfl⟩ := Prod.mk.inj same
          exact Nat.lt_succ_of_lt (Reader.length_of_upTo body)
        · split at read
          · obtain ⟨value, _, same⟩ := Option.map_eq_some_iff.1 read
            obtain ⟨_, rfl⟩ := Prod.mk.inj same
            have shorter := (List.dropWhile_sublist (l := after) Char.isDigit).length_le
            omega
          · obtain ⟨value, _, same⟩ := Option.map_eq_some_iff.1 read
            obtain ⟨_, rfl⟩ := Prod.mk.inj same
            omega

def lexeme : Reader Char (Option Token) where
  run := lexeme?
  shrinks := length_of_lexeme?

/-- The tokens of a text without its blanks. -/
def tokens? (text : List Char) : Option (List Token) :=
  (lexeme.all text).map fun lexemes => lexemes.filterMap id

end ScriptMetadata.Fixture
