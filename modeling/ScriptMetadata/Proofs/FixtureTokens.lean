import ScriptMetadata.Fixture
import ScriptMetadata.Proofs.ReaderExactness

/-!
The tokens of a fixture are determined by its tables, and the readers of tokens invert this.
-/

set_option autoImplicit false

namespace ScriptMetadata.Fixture

def operandToken : Operand → Token
  | .text value => .text value
  | .integer value => .integer value

def rowTokens : Row → List Token :=
  Reader.bracket .beginArray .valueSeparator .endArray fun operand => [operandToken operand]

def rowsTokens : List Row → List Token :=
  Reader.bracket .beginArray .valueSeparator .endArray rowTokens

def memberTokens (table : Table) : List Token :=
  .text table.name :: .nameSeparator :: rowsTokens table.rows

def tablesTokens : List Table → List Token :=
  Reader.bracket .beginObject .valueSeparator .endObject memberTokens

theorem operand_inverts : operand.Inverts fun value => [operandToken value] := by
  intro input value rest
  cases value with
  | text text => unfold operand; simp only []; split <;> simp_all [operandToken]
  | integer number => unfold operand; simp only []; split <;> simp_all [operandToken]

theorem array_inverts {Value : Type} {reader : Reader Token Value} {encode : Value → List Token}
    (inverts : reader.Inverts encode) (apart : ∀ value, (encode value).head? ≠ some .endArray) :
    (array reader).Inverts (Reader.bracket .beginArray .valueSeparator .endArray encode) :=
  Reader.bracketed_inverts inverts (by decide) apart

theorem row_inverts : row.Inverts rowTokens := by
  apply array_inverts operand_inverts
  intro operand
  cases operand <;> simp [operandToken]

theorem rows_inverts : rows.Inverts rowsTokens :=
  array_inverts row_inverts fun row => by simp [rowTokens, Reader.bracket]

theorem member_inverts : member.Inverts memberTokens := by
  intro input table rest
  obtain ⟨name, content⟩ := table
  unfold member
  simp only []
  split
  · rename_i found after
    rw [Option.map_eq_some_iff]
    constructor
    · rintro ⟨⟨read, last⟩, taken, same⟩
      cases same
      rw [(rows_inverts _ _ _).1 taken]
      rfl
    · intro written
      simp only [memberTokens, List.cons_append, List.cons.injEq, Token.text.injEq,
        true_and] at written
      exact ⟨(content, rest), (rows_inverts _ _ _).2 written.2, by rw [written.1]⟩
  · rename_i other
    refine ⟨by simp, ?_⟩
    rintro rfl
    exact absurd rfl (other name _)

theorem members_inverts : members.Inverts tablesTokens :=
  Reader.bracketed_inverts member_inverts (by decide) fun table => by simp [memberTokens]

/-- A text has tables exactly when its tokens are those of the tables. -/
theorem tables?_eq_some_iff {text : List Char} {tables : List Table} :
    tables? text = some tables ↔ tokens? text = some (tablesTokens tables) := by
  rw [tables?]
  constructor
  · intro read
    split at read
    · rename_i found taken
      cases read
      obtain ⟨tokens, lexed, parsed⟩ := Option.bind_eq_some_iff.1 taken
      rw [lexed, (members_inverts _ _ _).1 parsed, List.append_nil]
    · contradiction
  · intro lexed
    have parsed := (members_inverts (tablesTokens tables) tables []).2 (List.append_nil _).symm
    rw [lexed, Option.bind_some, parsed]

end ScriptMetadata.Fixture
