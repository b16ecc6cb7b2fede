import ScriptMetadata.Reader

/-!
The characters of a JSON string. Each is written as itself, by a two-character escape, by its number
as a UTF-16 unit, or by the numbers of a surrogate pair; half a pair alone is refused.
-/

set_option autoImplicit false

namespace ScriptMetadata.Fixture

def hexDigit? (char : Char) : Option Nat :=
  if '0' ≤ char ∧ char ≤ '9' then some (char.toNat - '0'.toNat)
  else if 'a' ≤ char ∧ char ≤ 'f' then some (char.toNat - 'a'.toNat + 10)
  else if 'A' ≤ char ∧ char ≤ 'F' then some (char.toNat - 'A'.toNat + 10)
  else none

/-- A UTF-16 unit, written with four hexadecimal digits. -/
def unit? : List Char → Option (Nat × List Char)
  | first :: second :: third :: fourth :: rest => do
      let first ← hexDigit? first
      let second ← hexDigit? second
      let third ← hexDigit? third
      let fourth ← hexDigit? fourth
      return (((first * 16 + second) * 16 + third) * 16 + fourth, rest)
  | _ => none

/-- A unit with the mark of its escape. -/
def markedUnit? : List Char → Option (Nat × List Char)
  | '\\' :: 'u' :: rest => unit? rest
  | _ => none

def isHighSurrogate (unit : Nat) : Bool := 0xD800 ≤ unit && unit < 0xDC00

def isLowSurrogate (unit : Nat) : Bool := 0xDC00 ≤ unit && unit < 0xE000

def pairChar (high low : Nat) : Char :=
  Char.ofNat (0x10000 + (high - 0xD800) * 0x400 + (low - 0xDC00))

/-- What a single character after a backslash stands for. -/
def simpleEscape? : Char → Option Char
  | '"' => some '"'
  | '\\' => some '\\'
  | '/' => some '/'
  | 'b' => some '\x08'
  | 'f' => some '\x0c'
  | 'n' => some '\n'
  | 'r' => some '\r'
  | 't' => some '\t'
  | _ => none

/-- Whether a character may stand for itself in a string. -/
def isPlain (char : Char) : Bool := char ≠ '"' && char ≠ '\\' && 0x20 ≤ char.toNat

/-- A character by its number, after the mark of the escape. -/
def numberedChar? (input : List Char) : Option (Char × List Char) :=
  match unit? input with
  | none => none
  | some (unit, rest) =>
      if isHighSurrogate unit then
        match markedUnit? rest with
        | none => none
        | some (low, rest) =>
            if isLowSurrogate low then some (pairChar unit low, rest) else none
      else if isLowSurrogate unit then none
      else some (Char.ofNat unit, rest)

def character? : List Char → Option (Char × List Char)
  | '\\' :: 'u' :: rest => numberedChar? rest
  | '\\' :: char :: rest => (simpleEscape? char).map (·, rest)
  | char :: rest => if isPlain char then some (char, rest) else none
  | [] => none

theorem length_of_unit? {input rest : List Char} {unit : Nat}
    (read : unit? input = some (unit, rest)) : input.length = rest.length + 4 := by
  unfold unit? at read
  split at read
  · simp only [bind, Option.bind_eq_some_iff] at read
    obtain ⟨_, _, _, _, _, _, _, _, same⟩ := read
    cases same
    rfl
  · contradiction

theorem length_of_markedUnit? {input rest : List Char} {unit : Nat}
    (read : markedUnit? input = some (unit, rest)) : input.length = rest.length + 6 := by
  unfold markedUnit? at read
  split at read
  · rw [List.length_cons, List.length_cons, length_of_unit? read]
  · contradiction

theorem length_of_numberedChar? {input rest : List Char} {char : Char}
    (read : numberedChar? input = some (char, rest)) : rest.length < input.length := by
  unfold numberedChar? at read
  split at read
  · contradiction
  · rename_i unit after first
    have used := length_of_unit? first
    split at read
    · split at read
      · contradiction
      · rename_i low last second
        have more := length_of_markedUnit? second
        split at read
        · obtain ⟨_, rfl⟩ := Prod.mk.inj (Option.some.inj read)
          omega
        · contradiction
    · split at read
      · contradiction
      · obtain ⟨_, rfl⟩ := Prod.mk.inj (Option.some.inj read)
        omega

theorem length_of_character? {input rest : List Char} {char : Char}
    (read : character? input = some (char, rest)) : rest.length < input.length := by
  unfold character? at read
  split at read
  · have shorter := length_of_numberedChar? read
    simp only [List.length_cons]
    omega
  · obtain ⟨escaped, _, same⟩ := Option.map_eq_some_iff.1 read
    cases same
    simp only [List.length_cons]
    omega
  · split at read
    · cases read
      simp
    · contradiction
  · contradiction

/-- One character of a string, in any of its written forms. -/
def character : Reader Char Char where
  run := character?
  shrinks := length_of_character?

end ScriptMetadata.Fixture
