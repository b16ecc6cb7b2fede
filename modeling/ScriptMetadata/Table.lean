/-!
Named tables and the sources that hand them out. The cells of a table are operands, a text or an
unsigned 64-bit integer each. A source answers a name with at most one table; the table's own name
is what errors and events about it show, and need not be the name it was asked under.
-/

set_option autoImplicit false

namespace ScriptMetadata

inductive Operand where
  | text (value : String)
  | integer (value : UInt64)
  deriving DecidableEq

/-- What a column of a table may ask of its operands. -/
inductive OperandKind where
  | text
  | integer
  deriving DecidableEq

namespace OperandKind

/-- The word for the kind in messages. -/
def label : OperandKind → String
  | text => "string"
  | integer => "integer"

end OperandKind

namespace Operand

def kind : Operand → OperandKind
  | text _ => .text
  | integer _ => .integer

def text? : Operand → Option String
  | text value => some value
  | integer _ => none

def integer? : Operand → Option UInt64
  | text _ => none
  | integer value => some value

/-- A 32-bit word is widened, so every word is an operand. -/
def ofWord (value : UInt32) : Operand := .integer value.toUInt64

@[simp] theorem text?_eq_some {operand : Operand} {value : String} :
    operand.text? = some value ↔ operand = .text value := by
  cases operand <;> simp [text?]

@[simp] theorem integer?_eq_some {operand : Operand} {value : UInt64} :
    operand.integer? = some value ↔ operand = .integer value := by
  cases operand <;> simp [integer?]

end Operand

/-! ### Tables and their sources -/

abbrev Row := List Operand

structure Table where
  name : String
  rows : List Row
  deriving DecidableEq

abbrev TableSource := String → Option Table

namespace TableSource

/-- The source without tables. -/
def empty : TableSource := fun _ => none

/-- Hands out tables under other names of their own; which rows a name finds stays the same. -/
def relabel (labels : List (String × String)) (source : TableSource) : TableSource := fun name =>
  (source name).map fun table => { table with name := (labels.lookup name).getD table.name }

theorem relabel_rows (labels : List (String × String)) (source : TableSource) (name : String) :
    (source.relabel labels name).map Table.rows = (source name).map Table.rows := by
  cases h : source name <;> simp [relabel, h]

@[simp] theorem relabel_nil (source : TableSource) : source.relabel [] = source := by
  funext name
  cases h : source name <;> simp [relabel, h]

end TableSource

end ScriptMetadata
