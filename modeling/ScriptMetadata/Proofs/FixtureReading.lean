import ScriptMetadata.Proofs.FixtureLexing
import ScriptMetadata.Proofs.FixtureTokens

/-!
Which texts are fixtures: those of the JSON objects whose members are arrays of arrays of texts and
unsigned 64-bit integers. The tokens of the tables stand between: a text has them exactly when it
writes such an object.
-/

set_option autoImplicit false

namespace ScriptMetadata.Fixture

open Json

inductive IsOperand : Json.Value → Operand → Prop where
  | text {value : String} : IsOperand (.text value) (.text value)
  | integer {literal : List Char} {value : UInt64} (whole : IsWhole literal)
      (number : Nat.ofDigitChars 10 literal 0 = value.toNat) :
      IsOperand (.number literal) (.integer value)

inductive IsArray {Item : Type} (IsItem : Json.Value → Item → Prop) :
    Json.Value → List Item → Prop where
  | elements {values : List Json.Value} {items : List Item}
      (each : List.Forall₂ IsItem values items) : IsArray IsItem (.array values) items

def IsRow : Json.Value → Row → Prop := IsArray IsOperand

def IsRows : Json.Value → List Row → Prop := IsArray IsRow

def IsTable (member : String × Json.Value) (table : Table) : Prop :=
  member.1 = table.name ∧ IsRows member.2 table.rows

/-- The members of an object are its tables, in their order and with repeated names. -/
inductive IsTables : Json.Value → List Table → Prop where
  | members {members : List (String × Json.Value)} {tables : List Table}
      (each : List.Forall₂ IsTable members tables) : IsTables (.object members) tables

/-- A text that is one JSON value, which describes the tables. -/
def Describes (text : List Char) (tables : List Table) : Prop :=
  ∃ value, WritesElement value text ∧ IsTables value tables

section Encoding

variable {Source Item : Type} {Writes : Source → List Char → Prop} {Means : Source → Item → Prop}
  {encode : Item → List Token}

/-- The tokens of an item are those of the texts that mean it. -/
def Encodes (Writes : Source → List Char → Prop) (Means : Source → Item → Prop)
    (encode : Item → List Token) : Prop :=
  ∀ item text, Lexical (encode item) text ↔ ∃ source, Writes source text ∧ Means source item

theorem lexical_intercalate_iff (encodes : Encodes Writes Means encode) {items : List Item}
    {text : List Char} :
    Lexical ([.valueSeparator].intercalate (items.map encode)) text ↔
      ∃ sources, Listed Writes sources text ∧ List.Forall₂ Means sources items := by
  induction items generalizing text with
  | nil =>
      rw [List.map_nil, List.intercalate_nil, lexical_nil_iff]
      constructor
      · exact fun blank => ⟨[], .none blank, .nil⟩
      · rintro ⟨sources, listed, means⟩
        cases means
        cases listed
        assumption
  | cons item others induction =>
      cases others with
      | nil =>
          rw [List.map_singleton, List.intercalate_singleton, encodes]
          constructor
          · rintro ⟨source, writes, means⟩
            exact ⟨[source], .last writes, .cons means .nil⟩
          · rintro ⟨sources, listed, means⟩
            obtain ⟨source, _, head, tail, rfl⟩ := List.forall₂_cons_right_iff.1 means
            cases tail
            cases listed with
            | last writes => exact ⟨source, writes, head⟩
      | cons next others =>
          have split : [Token.valueSeparator].intercalate ((item :: next :: others).map encode) =
              encode item ++ .valueSeparator ::
                [Token.valueSeparator].intercalate ((next :: others).map encode) := by
            simp [List.intercalate_cons_cons]
          have comma : structural? ',' = some .valueSeparator := rfl
          rw [split, lexical_append_iff comma]
          constructor
          · rintro ⟨before, after, rfl, left, right⟩
            obtain ⟨source, writes, head⟩ := (encodes item before).1 left
            obtain ⟨sources, listed, tail⟩ := induction.1 right
            obtain ⟨source', sources, -, -, rfl⟩ := List.forall₂_cons_right_iff.1 tail
            exact ⟨_, .more writes listed, .cons head tail⟩
          · rintro ⟨sources, listed, means⟩
            obtain ⟨source, _, head, tail, rfl⟩ := List.forall₂_cons_right_iff.1 means
            cases listed with
            | last _ => cases tail
            | more writes listed =>
                exact ⟨_, _, rfl, (encodes item _).2 ⟨source, writes, head⟩,
                  induction.2 ⟨_, listed, tail⟩⟩

theorem lexical_bracket_iff (encodes : Encodes Writes Means encode) {opening closing : Char}
    {first last : Token} (opens : structural? opening = some first)
    (closes : structural? closing = some last) {items : List Item} {text : List Char} :
    Lexical (Reader.bracket first .valueSeparator last encode items) text ↔
      ∃ before body after sources, text = before ++ (opening :: body ++ [closing]) ++ after ∧
        IsBlank before ∧ IsBlank after ∧ Listed Writes sources body ∧
          List.Forall₂ Means sources items := by
  have split : Reader.bracket first .valueSeparator last encode items =
      [] ++ first :: ([Token.valueSeparator].intercalate (items.map encode) ++ last :: []) := rfl
  rw [split, lexical_append_iff opens]
  constructor
  · rintro ⟨before, rest, rfl, front, remaining⟩
    obtain ⟨body, after, rfl, inner, back⟩ := (lexical_append_iff closes).1 remaining
    obtain ⟨sources, listed, means⟩ := (lexical_intercalate_iff encodes).1 inner
    exact ⟨before, body, after, sources, by simp, lexical_nil_iff.1 front, lexical_nil_iff.1 back,
      listed, means⟩
  · rintro ⟨before, body, after, sources, rfl, front, back, listed, means⟩
    refine ⟨before, body ++ closing :: after, by simp, lexical_nil_iff.2 front, ?_⟩
    exact (lexical_append_iff closes).2 ⟨body, after, rfl,
      (lexical_intercalate_iff encodes).2 ⟨sources, listed, means⟩, lexical_nil_iff.2 back⟩

end Encoding

section Values

theorem operand_encodes :
    Encodes WritesElement IsOperand fun operand => [operandToken operand] := by
  intro operand text
  rw [lexical_singleton_iff]
  constructor
  · rintro ⟨before, spelling, after, rfl, front, spelled, back⟩
    cases operand with
    | text value =>
        have writes := spelled_text_iff.1 spelled
        exact ⟨_, .padded front (.text writes) back, .text⟩
    | integer value =>
        obtain ⟨whole, number⟩ := spelled_integer_iff.1 spelled
        have literal : IsNumber ([] ++ spelling ++ [] ++ []) :=
          .literal (by simp) whole .absent .absent
        rw [List.nil_append, List.append_nil, List.append_nil] at literal
        exact ⟨_, .padded front (.number literal) back, .integer whole number⟩
  · rintro ⟨value, element, means⟩
    cases element with
    | padded front writes back =>
        refine ⟨_, _, _, rfl, front, ?_, back⟩
        cases means with
        | text => cases writes with | text writes => exact .text writes
        | integer whole number => cases writes with | number _ => exact .integer whole number

theorem array_encodes {Item : Type} {IsItem : Json.Value → Item → Prop}
    {encode : Item → List Token} (encodes : Encodes WritesElement IsItem encode) :
    Encodes WritesElement (IsArray IsItem)
      (Reader.bracket .beginArray .valueSeparator .endArray encode) := by
  intro items text
  have opens : structural? '[' = some .beginArray := rfl
  have closes : structural? ']' = some .endArray := rfl
  rw [lexical_bracket_iff encodes opens closes]
  constructor
  · rintro ⟨before, body, after, values, rfl, front, back, listed, means⟩
    exact ⟨.array values, .padded front (.array listed) back, .elements means⟩
  · rintro ⟨value, element, means⟩
    cases means with
    | elements each =>
        cases element with
        | padded front writes back =>
            cases writes with
            | array listed => exact ⟨_, _, _, _, rfl, front, back, listed, each⟩

theorem row_encodes : Encodes WritesElement IsRow rowTokens := array_encodes operand_encodes

theorem rows_encodes : Encodes WritesElement IsRows rowsTokens := array_encodes row_encodes

theorem member_encodes : Encodes WritesMember IsTable memberTokens := by
  intro table text
  change Lexical ([.text table.name] ++ .nameSeparator :: rowsTokens table.rows) text ↔ _
  have colon : structural? ':' = some .nameSeparator := rfl
  rw [lexical_append_iff colon]
  constructor
  · rintro ⟨named, rest, rfl, left, right⟩
    obtain ⟨before, quoted, after, rfl, front, spelled, back⟩ := lexical_singleton_iff.1 left
    obtain ⟨value, element, means⟩ := (rows_encodes _ _).1 right
    have writes := spelled_text_iff.1 spelled
    exact ⟨(table.name, value), .named front writes back element, rfl, means⟩
  · rintro ⟨⟨name, value⟩, writes, same, means⟩
    cases same
    cases writes with
    | named front writes back element =>
        exact ⟨_, _, rfl, lexical_singleton_iff.2 ⟨_, _, _, rfl, front, .text writes, back⟩,
          (rows_encodes _ _).2 ⟨value, element, means⟩⟩

theorem tables_encodes : Encodes WritesElement IsTables tablesTokens := by
  intro tables text
  have opens : structural? '\x7b' = some .beginObject := rfl
  have closes : structural? '\x7d' = some .endObject := rfl
  rw [tablesTokens, lexical_bracket_iff member_encodes opens closes]
  constructor
  · rintro ⟨before, body, after, members, rfl, front, back, listed, means⟩
    exact ⟨.object members, .padded front (.object listed) back, .members means⟩
  · rintro ⟨value, element, means⟩
    cases means with
    | members each =>
        cases element with
        | padded front writes back =>
            cases writes with
            | object listed => exact ⟨_, _, _, _, rfl, front, back, listed, each⟩

end Values

theorem describes_iff {text : List Char} {tables : List Table} :
    Describes text tables ↔ tables? text = some tables := by
  rw [tables?_eq_some_iff, tokens?_eq_some_iff, tables_encodes, Describes]

example :
    Describes "\x7b\"caf\\u00e9\" : [[0, \"\\ud834\\udd1e\"], []]\x7d".toList
      [⟨"café", [[.integer 0, .text "𝄞"], []]⟩] := by
  rw [describes_iff]
  decide +kernel

theorem declareNew_ne_malformed (module : Module) (table : Table) :
    declareNew module table ≠ .error .malformed := by
  unfold declareNew
  split <;> simp

theorem foldlM_declareNew_ne_malformed (tables : List Table) (module : Module) :
    tables.foldlM declareNew module ≠ .error .malformed := by
  induction tables generalizing module with
  | nil => simp [pure, Except.pure]
  | cons table rest induction =>
      rw [List.foldlM_cons]
      have added := declareNew_ne_malformed module table
      cases h : declareNew module table with
      | error cause =>
          rw [h] at added
          exact added
      | ok grown => exact induction grown

theorem parse_ne_malformed_iff {text : String} :
    parse text ≠ .error .malformed ↔ ∃ tables, tables? text.toList = some tables := by
  unfold parse
  split
  · rename_i tables read
    exact iff_of_true (foldlM_declareNew_ne_malformed tables _) ⟨tables, read⟩
  · rename_i unread
    simp [unread]

/-- The fixtures are the texts that describe tables, and what is read are the tables that the text
describes: one list at most, whichever blanks and escapes write it. -/
theorem parse_reads_descriptions (text : String) :
    (parse text ≠ .error .malformed ↔ ∃ tables, Describes text.toList tables) ∧
      (∀ tables, Describes text.toList tables ↔ tables? text.toList = some tables) ∧
      (∀ tables, Describes text.toList tables →
        parse text = tables.foldlM declareNew Module.empty) ∧
      ∀ value tables (other : String), IsTables value tables →
        WritesElement value text.toList → WritesElement value other.toList →
          tables? other.toList = tables? text.toList ∧ parse other = parse text := by
  have parsed : ∀ (text : String) tables, Describes text.toList tables →
      parse text = tables.foldlM declareNew Module.empty := by
    intro text tables described
    rw [parse, describes_iff.1 described]
  refine ⟨?_, fun tables => describes_iff, parsed text, ?_⟩
  · rw [parse_ne_malformed_iff]
    exact exists_congr fun tables => describes_iff.symm
  · intro value tables other means written rewritten
    have first : Describes text.toList tables := ⟨value, written, means⟩
    have second : Describes other.toList tables := ⟨value, rewritten, means⟩
    rw [describes_iff.1 first, describes_iff.1 second, parsed text tables first,
      parsed other tables second]
    exact ⟨rfl, rfl⟩

/-- An object of one empty table, with the name as itself and then with blanks and an escape. -/
theorem parse_reads_escaped_name :
    tables? "\x7b\"a\":[]\x7d".toList = some [⟨"a", []⟩] ∧
      parse "\x7b \"\\u0061\" :[ ]\x7d\n" = parse "\x7b\"a\":[]\x7d" := by
  have empty : IsBlank [] := by simp [IsBlank]
  have space : IsBlank [' '] := by simp [IsBlank]
  have newline : IsBlank ['\n'] := by simp [IsBlank]
  have means : IsTables (.object [("a", .array [])]) [⟨"a", []⟩] :=
    .members (.cons ⟨rfl, .elements .nil⟩ .nil)
  have written : WritesElement (.object [("a", .array [])]) "\x7b\"a\":[]\x7d".toList := by
    have name : WritesString "a" "\"a\"".toList :=
      ⟨[['a']], .cons (.itself (by decide) (by decide) (by decide)) .nil, rfl⟩
    have rows : WritesElement (.array []) ([] ++ "[]".toList ++ []) :=
      .padded empty (.array (.none empty)) empty
    exact .padded empty (.object (.last (.named empty name empty rows))) empty
  have rewritten : WritesElement (.object [("a", .array [])])
      "\x7b \"\\u0061\" :[ ]\x7d\n".toList := by
    have units : List.Forall₂ WritesUnit (utf16 'a') ["\\u0061".toList] :=
      .cons (@WritesUnit.escape 0 0 6 1 _ _ _ _ (.inl rfl) (.inl rfl) (.inl rfl) (.inl rfl)) .nil
    have name : WritesString "a" "\"\\u0061\"".toList :=
      ⟨["\\u0061".toList], .cons (.numbered units) .nil, rfl⟩
    have rows : WritesElement (.array []) ([] ++ "[ ]".toList ++ []) :=
      .padded empty (.array (.none space)) empty
    exact .padded empty (.object (.last (.named space name space rows))) newline
  obtain ⟨-, reads, -, same⟩ := parse_reads_descriptions "\x7b\"a\":[]\x7d"
  exact ⟨(reads _).1 ⟨_, written, means⟩, (same _ _ _ means written rewritten).2⟩

end ScriptMetadata.Fixture
