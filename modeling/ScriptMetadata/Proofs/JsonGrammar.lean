import Mathlib.Data.List.Forall2

/-!
The grammar of JSON as a relation between values and the texts that write them. A value has many
texts: blanks may stand between its tokens, and each character of a string has several spellings. A
number is kept as its literal, since a text says no more about it.
-/

set_option autoImplicit false

namespace ScriptMetadata.Json

inductive Value where
  | null
  | boolean (value : Bool)
  | number (literal : List Char)
  | text (value : String)
  | array (elements : List Value)
  | object (members : List (String × Value))

def IsBlank (text : List Char) : Prop := ∀ char ∈ text, char ∈ [' ', '\t', '\n', '\r']

section Strings

/-- The letters that may follow a backslash, with the characters that they stand for. -/
def shortEscapes : List (Char × Char) :=
  [('"', '"'), ('\\', '\\'), ('/', '/'), ('b', '\x08'), ('f', '\x0c'), ('n', '\n'), ('r', '\r'),
    ('t', '\t')]

/-- The UTF-16 units of a character: its number or, past the basic plane, a surrogate pair. -/
def utf16 (char : Char) : List Nat :=
  if char.toNat < 0x10000 then [char.toNat]
  else [0xD800 + (char.toNat - 0x10000) / 0x400, 0xDC00 + (char.toNat - 0x10000) % 0x400]

def IsHexDigit (value : Nat) (digit : Char) : Prop :=
  "0123456789abcdef".toList[value]? = some digit ∨ "0123456789ABCDEF".toList[value]? = some digit

inductive WritesUnit : Nat → List Char → Prop where
  | escape {first second third fourth : Nat} {a b c d : Char} (first_digit : IsHexDigit first a)
      (second_digit : IsHexDigit second b) (third_digit : IsHexDigit third c)
      (fourth_digit : IsHexDigit fourth d) :
      WritesUnit (((first * 16 + second) * 16 + third) * 16 + fourth) ['\\', 'u', a, b, c, d]

/-- A character is written as itself, by a letter or by its units. Half of a surrogate pair is no
character, so no text of a string has one alone. -/
inductive WritesChar : Char → List Char → Prop where
  | itself {char : Char} (open_quote : char ≠ '"') (unescaped : char ≠ '\\')
      (printable : 0x20 ≤ char.toNat) : WritesChar char [char]
  | short {letter char : Char} (listed : (letter, char) ∈ shortEscapes) :
      WritesChar char ['\\', letter]
  | numbered {char : Char} {pieces : List (List Char)}
      (units : List.Forall₂ WritesUnit (utf16 char) pieces) : WritesChar char pieces.flatten

def WritesString (value : String) (text : List Char) : Prop :=
  ∃ pieces, List.Forall₂ WritesChar value.toList pieces ∧ text = '"' :: pieces.flatten ++ ['"']

end Strings

section Numbers

def IsDigits (text : List Char) : Prop := ∀ char ∈ text, char.isDigit = true

/-- No zero stands in front of other digits. -/
def IsWhole (text : List Char) : Prop :=
  text = ['0'] ∨ ∃ first rest, text = first :: rest ∧ first ≠ '0' ∧ IsDigits text

inductive IsFraction : List Char → Prop where
  | absent : IsFraction []
  | present {digits : List Char} (some_digits : digits ≠ []) (only_digits : IsDigits digits) :
      IsFraction ('.' :: digits)

inductive IsExponent : List Char → Prop where
  | absent : IsExponent []
  | present {mark : Char} {sign digits : List Char} (marked : mark ∈ ['e', 'E'])
      (signed : sign ∈ [[], ['+'], ['-']]) (some_digits : digits ≠ [])
      (only_digits : IsDigits digits) : IsExponent (mark :: sign ++ digits)

inductive IsNumber : List Char → Prop where
  | literal {sign whole fraction exponent : List Char} (signed : sign ∈ [[], ['-']])
      (is_whole : IsWhole whole) (is_fraction : IsFraction fraction)
      (is_exponent : IsExponent exponent) : IsNumber (sign ++ whole ++ fraction ++ exponent)

end Numbers

/-- Items with commas between them, or blanks for no item at all. -/
inductive Listed {Item : Type} (Writes : Item → List Char → Prop) :
    List Item → List Char → Prop where
  | none {text : List Char} (blank : IsBlank text) : Listed Writes [] text
  | last {item : Item} {text : List Char} (writes : Writes item text) : Listed Writes [item] text
  | more {item next : Item} {others : List Item} {text rest : List Char}
      (writes : Writes item text) (listed : Listed Writes (next :: others) rest) :
      Listed Writes (item :: next :: others) (text ++ ',' :: rest)

mutual

inductive Writes : Value → List Char → Prop where
  | null : Writes .null "null".toList
  | true : Writes (.boolean true) "true".toList
  | false : Writes (.boolean false) "false".toList
  | number {literal : List Char} (is_number : IsNumber literal) : Writes (.number literal) literal
  | text {value : String} {text : List Char} (writes : WritesString value text) :
      Writes (.text value) text
  | array {elements : List Value} {body : List Char} (listed : Listed WritesElement elements body) :
      Writes (.array elements) ('[' :: body ++ [']'])
  | object {members : List (String × Value)} {body : List Char}
      (listed : Listed WritesMember members body) :
      Writes (.object members) ('\x7b' :: body ++ ['\x7d'])

/-- A value with the blanks around it; a whole text is one of these. -/
inductive WritesElement : Value → List Char → Prop where
  | padded {value : Value} {before text after : List Char} (blank_before : IsBlank before)
      (writes : Writes value text) (blank_after : IsBlank after) :
      WritesElement value (before ++ text ++ after)

inductive WritesMember : String × Value → List Char → Prop where
  | named {name : String} {value : Value} {before quoted after text : List Char}
      (blank_before : IsBlank before) (writes_name : WritesString name quoted)
      (blank_after : IsBlank after) (writes_value : WritesElement value text) :
      WritesMember (name, value) (before ++ quoted ++ after ++ ':' :: text)

end

end ScriptMetadata.Json
