import ScriptMetadata.Container.Image
import ScriptMetadata.Container.LoadError
import ScriptMetadata.Module

/-!
Following the references of an image: string positions to strings, node ranges to rows, operand
ranges to operands. Strings are resolved first, all of them; then the tables in order, each with its
rows in order, so that the first defect in this order is the one reported.
-/

set_option autoImplicit false

namespace ScriptMetadata.Container

namespace Image

/-- The string between two bounds of the blob. -/
def stringBetween (image : Image) (index : Nat) (start stop : UInt32) : Except LoadError String :=
  if start ≤ stop ∧ stop.toNat ≤ image.blob.size then do
    let encoded ← Checked.slice image.blob start.toNat (stop.toNat - start.toNat)
    match String.fromUTF8? encoded with
    | some value => .ok value
    | none => .error (.invalidUtf8 index)
  else .error (.invalidStringRange index start stop image.blob.size)

/-- Every string of the blob, whether a table refers to it or not. -/
def strings (image : Image) : Except LoadError (List String) :=
  (image.bounds.zip image.bounds.tail).zipIdx.mapM fun ((start, stop), index) =>
    image.stringBetween index start stop

end Image

/-- The whole 64-bit position counts: a high part is not cut off. -/
def stringAt (strings : Array String) (id : UInt64) : Except LoadError String :=
  match strings[id.toNat]? with
  | some value => .ok value
  | none => .error (.invalidStringId id strings.size)

namespace OperandEntry

def resolve (strings : Array String) (index : Nat) (entry : OperandEntry) :
    Except LoadError Operand :=
  if entry.tag = textTag then do
    let value ← stringAt strings entry.payload
    return .text value
  else if entry.tag = integerTag then .ok (.integer entry.payload)
  else .error (.invalidOperandTag index entry.tag)

end OperandEntry

namespace Image

/-- The row of the node at a position. -/
def row (image : Image) (strings : Array String) (node : Nat) : Except LoadError Row := do
  let range ← Checked.element image.nodes node
  if range.stop ≤ image.operands.size then do
    let positions ← range.positions
    positions.mapM fun index => do
      let entry ← Checked.element image.operands index
      entry.resolve strings index
  else .error (.operandRangeOutOfBounds node range)

/-- Adds the table of an entry to the tables before it. -/
def addTable (image : Image) (strings : Array String) (module : Module) (entry : TableEntry) :
    Except LoadError Module := do
  let name ← stringAt strings entry.name.toUInt64
  if module.contains name then .error (.duplicateTable name)
  else if entry.rows.stop ≤ image.nodes.size then do
    let positions ← entry.rows.positions
    let rows ← positions.mapM (image.row strings)
    return module.append name rows
  else .error (.nodeRangeOutOfBounds name entry.rows)

/-- The module that the image describes. -/
def resolve (image : Image) : Except LoadError Module := do
  let strings ← image.strings
  image.tables.foldlM (image.addTable strings.toArray) Module.empty

end Image

end ScriptMetadata.Container
