import ScriptMetadata.Fixture.Token
import ScriptMetadata.Module

/-!
Fixtures: modules written in JSON, as an object from table names to arrays of rows, each row an
array of texts and unsigned integers. The whole text is read before the names are compared, so a
repeated name is reported only in a text that is otherwise right.
-/

set_option autoImplicit false

namespace ScriptMetadata

namespace Fixture

def operand : Reader Token Operand where
  run
    | .text value :: rest => some (.text value, rest)
    | .integer value :: rest => some (.integer value, rest)
    | _ => none
  shrinks := by
    intro input value rest read
    split at read
    · cases read
      simp
    · cases read
      simp
    · contradiction

def array {Value : Type} : Reader Token Value → Reader Token (List Value) :=
  Reader.bracketed .beginArray .valueSeparator .endArray

def row : Reader Token Row := array operand

def rows : Reader Token (List Row) := array row

/-- A name, a colon and the rows of the table. -/
def member : Reader Token Table where
  run
    | .text name :: .nameSeparator :: rest =>
        (rows.run rest).map fun (rows, rest) => (⟨name, rows⟩, rest)
    | _ => none
  shrinks := by
    intro input value rest read
    split at read
    · obtain ⟨⟨rows, last⟩, taken, same⟩ := Option.map_eq_some_iff.1 read
      cases same
      have shorter := Reader.shrinks _ taken
      simp only [List.length_cons]
      omega
    · contradiction

def members : Reader Token (List Table) :=
  Reader.bracketed .beginObject .valueSeparator .endObject member

/-- The tables that a text describes, in the order of the text and with repeated names. -/
def tables? (text : List Char) : Option (List Table) :=
  match (tokens? text).bind members.run with
  | some (tables, []) => some tables
  | _ => none

inductive FixtureError where
  | malformed
  | duplicateTable (name : String)
  deriving DecidableEq

namespace FixtureError

def message : FixtureError → String
  | malformed => "invalid JSON module"
  | duplicateTable name => s!"duplicate table name `{name}`"

end FixtureError

/-- Adds a table whose name must be new. -/
def declareNew (module : Module) (table : Table) : Except FixtureError Module :=
  if module.contains table.name then .error (.duplicateTable table.name)
  else .ok (module.append table.name table.rows)

/-- The module of a fixture. -/
def parse (text : String) : Except FixtureError Module :=
  match tables? text.toList with
  | some tables => tables.foldlM declareNew Module.empty
  | none => .error .malformed

end Fixture

end ScriptMetadata
