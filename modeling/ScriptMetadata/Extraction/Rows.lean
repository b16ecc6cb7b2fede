import ScriptMetadata.Container.LoadError
import ScriptMetadata.Metadata
import ScriptMetadata.Table

/-!
Decoding the rows of one table, and why it fails. A row is checked for its length before its
operands are looked at, an operand for its kind before its size, and the rows in order. A failure
names the table by the name that it carries; rows and operands are counted from zero.
-/

set_option autoImplicit false

namespace ScriptMetadata.Extraction

/-- The place of an operand. -/
structure Cell where
  table : String
  row : Nat
  operand : Nat
  deriving DecidableEq

inductive Failure where
  | load (cause : Container.LoadError)
  | arity (table : String) (row expected found : Nat)
  | operandType (cell : Cell) (expected found : OperandKind)
  | integerOverflow (cell : Cell) (value : UInt64)
  | scalarRowCount (table : String) (found : Nat)
  | kernelCountMismatch (names signatures : Nat)
  deriving DecidableEq

namespace Failure

def message : Failure → String
  | load _ => "module failed to load"
  | arity table row expected found =>
      s!"table `{table}` row {row}: expected {expected} operand(s), found {found}"
  | operandType ⟨table, row, operand⟩ expected found =>
      s!"table `{table}` row {row} operand {operand}: expected " ++
        expected.label ++ ", found " ++ found.label
  | integerOverflow ⟨table, row, _⟩ value =>
      s!"table `{table}` row {row}: value {value} does not fit in 32 bits"
  | scalarRowCount table found => s!"table `{table}`: expected exactly one row, found {found}"
  | kernelCountMismatch names signatures =>
      s!"foreach names ({names}) and signatures ({signatures}) differ in count"

end Failure

/-! ### Rows -/

/-- Decodes the operand at a place. -/
abbrev OperandDecoder (α : Type) := Cell → Operand → Except Failure α

/-- Decodes the row at a position of a table. -/
abbrev RowDecoder (α : Type) := String → Nat → Row → Except Failure α

def text : OperandDecoder String := fun cell operand =>
  match operand with
  | .text value => .ok value
  | .integer _ => .error (.operandType cell .text .integer)

def word : OperandDecoder UInt32 := fun cell operand =>
  match operand with
  | .text _ => .error (.operandType cell .integer .text)
  | .integer value =>
      if value.toNat < UInt32.size then .ok value.toUInt32 else .error (.integerOverflow cell value)

/-- A row of one operand. -/
def single {α : Type} (decode : OperandDecoder α) : RowDecoder α := fun table row operands =>
  match operands with
  | [operand] => decode ⟨table, row, 0⟩ operand
  | _ => .error (.arity table row 1 operands.length)

/-- A row of a key and a value. -/
def pragma : RowDecoder Pragma := fun table row operands =>
  match operands with
  | [key, value] => do
      let key ← text ⟨table, row, 0⟩ key
      let value ← text ⟨table, row, 1⟩ value
      return { key, value }
  | _ => .error (.arity table row 2 operands.length)

def rowsFrom {α : Type} (decode : RowDecoder α) (table : String) :
    Nat → List Row → Except Failure (List α)
  | _, [] => .ok []
  | position, row :: rest => do
      let value ← decode table position row
      let values ← rowsFrom decode table (position + 1) rest
      return value :: values

/-- All rows of a table, in order. -/
def rows {α : Type} (decode : RowDecoder α) (table : Table) : Except Failure (List α) :=
  rowsFrom decode table.name 0 table.rows

/-- The one operand of the one row of a table. -/
def scalar {α : Type} (decode : OperandDecoder α) (table : Table) : Except Failure α :=
  match table.rows with
  | [row] => single decode table.name 0 row
  | _ => .error (.scalarRowCount table.name table.rows.length)

theorem length_of_rowsFrom {α : Type} {decode : RowDecoder α} {table : String} {position : Nat}
    {given : List Row} {values : List α}
    (decoded : rowsFrom decode table position given = .ok values) :
    values.length = given.length := by
  induction given generalizing position values with
  | nil =>
      cases decoded
      rfl
  | cons row rest induction =>
      simp only [rowsFrom, bind, Except.bind] at decoded
      split at decoded
      · contradiction
      · split at decoded
        · contradiction
        · rename_i remaining
          cases decoded
          simp [induction remaining]

theorem length_of_rows {α : Type} {decode : RowDecoder α} {table : Table} {values : List α}
    (decoded : rows decode table = .ok values) : values.length = table.rows.length :=
  length_of_rowsFrom decoded

end ScriptMetadata.Extraction
