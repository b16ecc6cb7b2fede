import Mathlib.Data.List.TakeWhile
import ScriptMetadata.Fixture.Token
import ScriptMetadata.Proofs.FixtureCharacters

/-!
The tokens of a text as a relation: tokens in their spellings with blanks between them. An integer
takes all the digits that stand together, which the relation says of the text behind it. A
structural character ends whatever stands before it, so a text falls apart at one in step with its
tokens.
-/

set_option autoImplicit false

namespace ScriptMetadata.Fixture

open Json

def NoDigitFirst (text : List Char) : Prop := ∀ char ∈ text.head?, char.isDigit = false

inductive Spelled : Token → List Char → Prop where
  | structural {char : Char} {token : Token} (mark : structural? char = some token) :
      Spelled token [char]
  | text {value : String} {text : List Char} (writes : WritesString value text) :
      Spelled (.text value) text
  | integer {value : UInt64} {literal : List Char} (whole : IsWhole literal)
      (number : Nat.ofDigitChars 10 literal 0 = value.toNat) : Spelled (.integer value) literal

/-- What may stand behind a token. -/
def EndsBefore (token : Token) (rest : List Char) : Prop :=
  ∀ value, token = .integer value → NoDigitFirst rest

inductive Lexical : List Token → List Char → Prop where
  | done : Lexical [] []
  | blank {char : Char} {tokens : List Token} {rest : List Char} (blank : isBlank char = true)
      (lexical : Lexical tokens rest) : Lexical tokens (char :: rest)
  | token {token : Token} {tokens : List Token} {text rest : List Char}
      (spelled : Spelled token text) (ends : EndsBefore token rest)
      (lexical : Lexical tokens rest) : Lexical (token :: tokens) (text ++ rest)

section Integers

theorem digitsValue_eq (digits : List Char) :
    digitsValue digits = Nat.ofDigitChars 10 digits 0 := by
  rw [digitsValue, Nat.ofDigitChars_eq_foldl]
  congr 1
  funext value digit
  rw [Nat.mul_comm]

theorem isWhole_iff {literal : List Char} (present : literal ≠ []) (digits : IsDigits literal) :
    IsWhole literal ↔ ¬(literal.head? = some '0' ∧ literal ≠ ['0']) := by
  obtain ⟨first, rest, rfl⟩ := List.exists_cons_of_ne_nil present
  constructor
  · rintro whole ⟨zero, longer⟩
    rcases whole with same | ⟨first', rest', same, nonzero, -⟩
    · exact longer same
    · cases same
      exact nonzero (Option.some.inj zero)
  · intro allowed
    by_cases zero : first = '0'
    · refine .inl ?_
      by_contra longer
      exact allowed ⟨congrArg some zero, longer⟩
    · exact .inr ⟨first, rest, rfl, zero, digits⟩

theorem isDigits_of_isWhole {literal : List Char} (whole : IsWhole literal) :
    literal ≠ [] ∧ IsDigits literal := by
  rcases whole with rfl | ⟨first, rest, rfl, -, digits⟩
  · exact ⟨List.cons_ne_nil _ _, by simp [IsDigits]⟩
  · exact ⟨List.cons_ne_nil _ _, digits⟩

theorem integer?_eq_some_iff {literal : List Char} (present : literal ≠ [])
    (digits : IsDigits literal) {value : UInt64} :
    integer? literal = some value ↔
      IsWhole literal ∧ Nat.ofDigitChars 10 literal 0 = value.toNat := by
  rw [isWhole_iff present digits, integer?, digitsValue_eq]
  split
  · rename_i leading
    simp [leading]
  · rename_i allowed
    rw [and_iff_right allowed]
    split
    · rename_i fits
      rw [Option.some.injEq, ← UInt64.toNat_inj, UInt64.toNat_ofNat_of_lt' fits]
    · rename_i large
      have bounded := value.toNat_lt
      refine ⟨by simp, fun same => absurd bounded ?_⟩
      rw [← same]
      exact large

end Integers

section Lexemes

theorem takeWhile_digits {literal rest : List Char} (digits : IsDigits literal)
    (ends : NoDigitFirst rest) :
    (literal ++ rest).takeWhile Char.isDigit = literal ∧
      (literal ++ rest).dropWhile Char.isDigit = rest := by
  rw [List.takeWhile_append_of_pos digits, List.dropWhile_append_of_pos digits]
  cases rest with
  | nil => simp
  | cons char rest =>
      have other : char.isDigit = false := ends char rfl
      simp [other]

theorem noDigitFirst_dropWhile (text : List Char) : NoDigitFirst (text.dropWhile Char.isDigit) := by
  intro char first
  have stopped := List.head?_dropWhile_not Char.isDigit text
  rw [Option.mem_def.1 first] at stopped
  simpa using stopped

/-- Structural characters are neither blanks nor quotes nor digits. -/
theorem plain_of_structural? {char : Char} {token : Token} (mark : structural? char = some token) :
    isBlank char = false ∧ char ≠ '"' ∧ char.isDigit = false ∧
      (∀ value, token ≠ .text value) ∧ ∀ value, token ≠ .integer value := by
  unfold structural? at mark
  split at mark <;> cases mark <;> exact ⟨by decide, by decide, by decide, by simp, by simp⟩

theorem spelled_text_iff {value : String} {text : List Char} :
    Spelled (.text value) text ↔ WritesString value text := by
  refine ⟨fun spelled => ?_, .text⟩
  cases spelled with
  | structural mark =>
      obtain ⟨-, -, -, other, -⟩ := plain_of_structural? mark
      exact absurd rfl (other value)
  | text writes => exact writes

theorem spelled_integer_iff {value : UInt64} {literal : List Char} :
    Spelled (.integer value) literal ↔
      IsWhole literal ∧ Nat.ofDigitChars 10 literal 0 = value.toNat := by
  refine ⟨fun spelled => ?_, fun number => .integer number.1 number.2⟩
  cases spelled with
  | structural mark =>
      obtain ⟨-, -, -, -, other⟩ := plain_of_structural? mark
      exact absurd rfl (other value)
  | integer whole number => exact ⟨whole, number⟩

theorem plain_of_isDigit {char : Char} (digit : char.isDigit = true) :
    isBlank char = false ∧ char ≠ '"' := by
  constructor
  · by_contra blank
    simp only [isBlank, Bool.not_eq_false, Bool.or_eq_true, decide_eq_true_eq] at blank
    rcases blank with ((rfl | rfl) | rfl) | rfl <;> contradiction
  · rintro rfl
    contradiction

theorem spelled_of_body {body rest : List Char} {chars : List Char}
    (read : character.upTo '"' body = some (chars, rest)) :
    ∃ text, Spelled (.text (String.ofList chars)) text ∧ '"' :: body = text ++ rest := by
  obtain ⟨text, writes, written⟩ := chars_eq_some_iff.1 read
  exact ⟨text, .text writes, written⟩

theorem spelled_of_digits {first : Char} {after : List Char} {value : UInt64}
    (digit : first.isDigit = true)
    (read : integer? (first :: after.takeWhile Char.isDigit) = some value) :
    Spelled (.integer value) (first :: after.takeWhile Char.isDigit) := by
  have digits : IsDigits (first :: after.takeWhile Char.isDigit) := by
    intro other member
    rcases List.mem_cons.1 member with rfl | later
    · exact digit
    · exact List.mem_takeWhile_imp later
  exact spelled_integer_iff.2 ((integer?_eq_some_iff (List.cons_ne_nil _ _) digits).1 read)

/-- What is read is a blank without a token, or a token in its spelling. -/
theorem lexeme?_cases {input rest : List Char} {lexeme : Option Token}
    (read : lexeme? input = some (lexeme, rest)) :
    (lexeme = none ∧ ∃ char, isBlank char = true ∧ input = char :: rest) ∨
      ∃ token text, lexeme = some token ∧ Spelled token text ∧ EndsBefore token rest ∧
        input = text ++ rest := by
  cases input with
  | nil => contradiction
  | cons char after =>
      simp only [lexeme?] at read
      split at read
      · rename_i blank
        cases read
        exact .inl ⟨rfl, char, blank, rfl⟩
      · split at read
        · rename_i quote
          obtain ⟨⟨chars, last⟩, body, same⟩ := Option.map_eq_some_iff.1 read
          cases same
          obtain ⟨text, spelled, written⟩ := spelled_of_body body
          have ends : EndsBefore (.text (String.ofList chars)) last := by
            intro value same
            cases same
          exact .inr ⟨_, text, rfl, spelled, ends, by rw [quote, written]⟩
        · split at read
          · rename_i digit
            obtain ⟨value, number, same⟩ := Option.map_eq_some_iff.1 read
            cases same
            refine .inr ⟨_, _, rfl, spelled_of_digits digit number, ?_, ?_⟩
            · exact fun _ _ => noDigitFirst_dropWhile after
            · rw [List.cons_append, List.takeWhile_append_dropWhile]
          · obtain ⟨token, mark, same⟩ := Option.map_eq_some_iff.1 read
            cases same
            obtain ⟨-, -, -, -, other⟩ := plain_of_structural? mark
            exact .inr ⟨token, [char], rfl, .structural mark,
              fun value same => absurd same (other value), rfl⟩

theorem lexeme?_of_isBlank {char : Char} (blank : isBlank char = true) (rest : List Char) :
    lexeme? (char :: rest) = some (none, rest) := by
  rw [lexeme?, if_pos blank]

theorem lexeme?_of_spelled {token : Token} {text rest : List Char} (spelled : Spelled token text)
    (ends : EndsBefore token rest) : lexeme? (text ++ rest) = some (some token, rest) := by
  cases spelled with
  | structural mark =>
      obtain ⟨blank, quote, digit, -, -⟩ := plain_of_structural? mark
      simp [lexeme?, blank, quote, digit, mark]
  | @text value _ writes =>
      obtain ⟨pieces, related, rfl⟩ := writes
      have read : character.upTo '"' (pieces.flatten ++ ['"'] ++ rest) =
          some (value.toList, rest) :=
        chars_eq_some_iff.2 ⟨_, ⟨pieces, by rwa [String.ofList_toList], rfl⟩, by simp⟩
      have blank : isBlank '"' = false := by decide
      simp only [List.cons_append, lexeme?, blank, Bool.false_eq_true, if_false, if_true, read,
        Option.map_some, String.ofList_toList]
  | @integer value _ whole number =>
      obtain ⟨present, digits⟩ := isDigits_of_isWhole whole
      obtain ⟨first, others, rfl⟩ := List.exists_cons_of_ne_nil present
      have read := (integer?_eq_some_iff present digits).2 ⟨whole, number⟩
      have digit := digits first List.mem_cons_self
      obtain ⟨taken, left⟩ := takeWhile_digits
        (fun char member => digits char (List.mem_cons_of_mem first member)) (ends value rfl)
      obtain ⟨blank, quote⟩ := plain_of_isDigit digit
      simp only [List.cons_append, lexeme?, blank, quote, digit, taken, left, read,
        Bool.false_eq_true, if_false, if_true, Option.map_some]

theorem tokens?_nil : tokens? [] = some [] := by
  rw [tokens?, Reader.all_eq]
  rfl

theorem tokens?_eq {text : List Char} (present : text ≠ []) :
    tokens? text = (lexeme? text).bind fun (lexeme, rest) =>
      (tokens? rest).map (lexeme.toList ++ ·) := by
  rw [tokens?, Reader.all_eq, if_neg (by simpa using present)]
  change ((lexeme? text).bind _).map _ = _
  cases lexeme? text with
  | none => rfl
  | some read =>
      obtain ⟨found, rest⟩ := read
      simp only [Option.bind_some, tokens?, Option.map_map]
      cases found <;> rfl

theorem ne_nil_of_spelled {token : Token} {text : List Char} (spelled : Spelled token text) :
    text ≠ [] := by
  cases spelled with
  | structural _ => exact List.cons_ne_nil _ _
  | text writes =>
      obtain ⟨pieces, -, rfl⟩ := writes
      exact List.cons_ne_nil _ _
  | integer whole _ => exact (isDigits_of_isWhole whole).1

theorem tokens?_eq_some_iff {text : List Char} {tokens : List Token} :
    tokens? text = some tokens ↔ Lexical tokens text := by
  constructor
  · intro read
    induction size : text.length using Nat.strongRecOn generalizing text tokens with
    | _ size induction =>
        subst size
        by_cases present : text = []
        · subst present
          rw [tokens?_nil] at read
          cases read
          exact .done
        · rw [tokens?_eq present] at read
          obtain ⟨⟨lexeme, rest⟩, first, remaining⟩ := Option.bind_eq_some_iff.1 read
          obtain ⟨others, further, rfl⟩ := Option.map_eq_some_iff.1 remaining
          have lexical := induction _ (length_of_lexeme? first) further rfl
          rcases lexeme?_cases first with ⟨rfl, char, blank, rfl⟩ |
            ⟨token, spelling, rfl, spelled, ends, rfl⟩
          · exact .blank blank lexical
          · exact .token spelled ends lexical
  · intro lexical
    induction lexical with
    | done => exact tokens?_nil
    | @blank char tokens rest blank _ induction =>
        rw [tokens?_eq (List.cons_ne_nil _ _), lexeme?_of_isBlank blank]
        simp only [Option.bind_some, induction, Option.map_some, Option.toList_none,
          List.nil_append]
    | @token token tokens text rest spelled ends _ induction =>
        have present := List.append_ne_nil_of_left_ne_nil (ne_nil_of_spelled spelled) rest
        rw [tokens?_eq present, lexeme?_of_spelled spelled ends]
        simp only [Option.bind_some, induction, Option.map_some, Option.toList_some,
          List.singleton_append]

end Lexemes

section Splitting

variable {mark : Char} {separator : Token} (structural : structural? mark = some separator)

include structural

theorem spelled_structural_iff {text : List Char} : Spelled separator text ↔ text = [mark] := by
  constructor
  · intro spelled
    cases spelled with
    | @structural char _ same =>
        unfold structural? at structural same
        split at structural <;> cases structural <;> split at same <;> first | rfl | cases same
    | text _ =>
        obtain ⟨-, -, -, other, -⟩ := plain_of_structural? structural
        exact absurd rfl (other _)
    | integer _ _ =>
        obtain ⟨-, -, -, -, other⟩ := plain_of_structural? structural
        exact absurd rfl (other _)
  · rintro rfl
    exact .structural structural

theorem noDigitFirst_append_iff {before after : List Char} :
    NoDigitFirst (before ++ mark :: after) ↔ NoDigitFirst before := by
  obtain ⟨-, -, plain, -, -⟩ := plain_of_structural? structural
  cases before with
  | nil => simp [NoDigitFirst, plain]
  | cons char before => simp [NoDigitFirst]

/-- The text splits where the tokens split, with the blanks before the mark on the left. -/
theorem lexical_append_iff {first second : List Token} {text : List Char} :
    Lexical (first ++ separator :: second) text ↔
      ∃ before after, text = before ++ mark :: after ∧ Lexical first before ∧
        Lexical second after := by
  constructor
  · intro lexical
    generalize joined : first ++ separator :: second = tokens at lexical
    induction lexical generalizing first with
    | done => simp at joined
    | @blank char tokens rest blank lexical induction =>
        obtain ⟨before, after, rfl, left, right⟩ := induction joined
        exact ⟨char :: before, after, rfl, .blank blank left, right⟩
    | @token token tokens text rest spelled ends lexical induction =>
        cases first with
        | nil =>
            cases joined
            rw [spelled_structural_iff structural] at spelled
            exact ⟨[], rest, by rw [spelled]; rfl, .done, lexical⟩
        | cons head tail =>
            obtain ⟨rfl, remaining⟩ := List.cons.inj joined
            obtain ⟨before, after, rfl, left, right⟩ := induction remaining
            refine ⟨text ++ before, after, (List.append_assoc _ _ _).symm, ?_, right⟩
            refine .token spelled (fun value same => ?_) left
            exact (noDigitFirst_append_iff structural).1 (ends value same)
  · rintro ⟨before, after, rfl, left, right⟩
    induction left with
    | done =>
        obtain ⟨-, -, -, -, other⟩ := plain_of_structural? structural
        change Lexical (separator :: second) ([mark] ++ after)
        exact .token (.structural structural) (fun value same => absurd same (other value)) right
    | blank blank _ induction => exact .blank blank induction
    | @token token tokens text rest spelled ends _ induction =>
        rw [List.append_assoc]
        refine .token spelled (fun value same => ?_) induction
        exact (noDigitFirst_append_iff structural).2 (ends value same)

end Splitting

section Blanks

theorem isBlank_iff {char : Char} :
    isBlank char = true ↔ char ∈ [' ', '\t', '\n', '\r'] := by
  simp [isBlank, or_assoc]

theorem lexical_nil_iff {text : List Char} : Lexical [] text ↔ IsBlank text := by
  constructor
  · intro lexical
    generalize none : [] = tokens at lexical
    induction lexical with
    | done => simp [IsBlank]
    | blank blank _ induction =>
        intro char member
        rcases List.mem_cons.1 member with rfl | later
        · exact isBlank_iff.1 blank
        · exact induction none char later
    | token _ _ _ _ => contradiction
  · intro blank
    induction text with
    | nil => exact .done
    | cons char rest induction =>
        exact .blank (isBlank_iff.2 (blank char List.mem_cons_self))
          (induction fun other member => blank other (List.mem_cons_of_mem char member))

theorem noDigitFirst_of_isBlank {text : List Char} (blank : IsBlank text) : NoDigitFirst text := by
  intro char first
  have listed := blank char (List.mem_of_mem_head? first)
  simp only [List.mem_cons, List.not_mem_nil, or_false] at listed
  rcases listed with rfl | rfl | rfl | rfl <;> decide

theorem lexical_singleton_iff {token : Token} {text : List Char} :
    Lexical [token] text ↔ ∃ before spelling after, text = before ++ spelling ++ after ∧
      IsBlank before ∧ Spelled token spelling ∧ IsBlank after := by
  constructor
  · intro lexical
    generalize single : [token] = tokens at lexical
    induction lexical with
    | done => contradiction
    | @blank char _ rest blank _ induction =>
        obtain ⟨before, spelling, after, rfl, front, spelled, back⟩ := induction single
        refine ⟨char :: before, spelling, after, rfl, ?_, spelled, back⟩
        intro other member
        rcases List.mem_cons.1 member with rfl | later
        · exact isBlank_iff.1 blank
        · exact front other later
    | @token _ _ spelling rest spelled _ lexical _ =>
        cases single
        exact ⟨[], spelling, rest, rfl, by simp [IsBlank], spelled, lexical_nil_iff.1 lexical⟩
  · rintro ⟨before, spelling, after, rfl, front, spelled, back⟩
    rw [List.append_assoc]
    induction before with
    | nil =>
        rw [List.nil_append]
        exact .token spelled (fun _ _ => noDigitFirst_of_isBlank back) (lexical_nil_iff.2 back)
    | cons char before induction =>
        exact .blank (isBlank_iff.2 (front char List.mem_cons_self))
          (induction fun other member => front other (List.mem_cons_of_mem char member))

end Blanks

end ScriptMetadata.Fixture
