import ScriptMetadata.Container.StringPool

/-!
Writing a module in one pass. Tables, rows and operands are appended to their sections as they come,
with running counts for the ranges, and strings get their ids on the way. Then the sections are put
into the file one after the other; the header comes last, when everything is counted.
-/

set_option autoImplicit false

namespace ScriptMetadata.Container

open LittleEndian

/-- The sections of a file up to some point of the pass. -/
structure Draft where
  pool : StringPool := .empty
  tables : ByteArray := .empty
  nodes : ByteArray := .empty
  operands : ByteArray := .empty
  nodeCount : UInt32 := 0
  operandCount : UInt32 := 0

namespace Draft

def addEntry (draft : Draft) (entry : OperandEntry) : Draft :=
  { draft with
    operands := draft.operands ++ entry.encode.toByteArray
    operandCount := draft.operandCount + 1 }

def addOperand (draft : Draft) : Operand → Draft
  | .text value =>
      let (id, pool) := draft.pool.intern value
      { draft with pool }.addEntry ⟨textTag, id.toUInt64⟩
  | .integer value => draft.addEntry ⟨integerTag, value⟩

/-- The range of a row starts at the operands counted so far. -/
def addNode (draft : Draft) (size : Nat) : Draft :=
  { draft with
    nodes := draft.nodes ++ (EntryRange.encode ⟨draft.operandCount, UInt32.ofNat size⟩).toByteArray
    nodeCount := draft.nodeCount + 1 }

def addRow (draft : Draft) (row : Row) : Draft := row.foldl addOperand (draft.addNode row.length)

/-- The range of a table starts at the nodes counted so far. -/
def addName (draft : Draft) (name : String) (size : Nat) : Draft :=
  let (id, pool) := draft.pool.intern name
  { draft with
    pool
    tables := draft.tables ++
      (TableEntry.encode ⟨id, ⟨draft.nodeCount, UInt32.ofNat size⟩⟩).toByteArray }

def addTable (draft : Draft) (table : Table) : Draft :=
  table.rows.foldl addRow (draft.addName table.name table.rows.length)

def ofModule (module : Module) : Draft := module.tables.foldl addTable {}

end Draft

/-- A file that grows, with the offsets at which its sections were put. -/
structure Output where
  bytes : ByteArray
  starts : List UInt32 := []

namespace Output

/-- The place for a header that is not known yet. -/
def blank : Output where
  bytes := (List.replicate headerSize 0).toByteArray

/-- A section starts at the next multiple of the alignment. -/
def place (output : Output) (content : ByteArray) : Output where
  bytes := pad output.bytes ++ content
  starts := output.starts ++ [UInt32.ofNat (pad output.bytes).size]

/-- The file with its last section filled up and the header in its place. -/
def finish (output : Output) (header : Header) : Output :=
  let bytes := pad output.bytes
  let body := bytes.extract headerSize bytes.size
  { output with
    bytes := { header with
      totalSize := UInt32.ofNat bytes.size
      checksum := Crc32.checksum body.data.toList }.encode ++ body }

end Output

namespace Draft

def sections (draft : Draft) : List ByteArray :=
  let (blob, stringTable) := draft.pool.contents
  [blob, stringTable, draft.tables, draft.nodes, draft.operands]

/-- The counts of the draft; checksum and size of the file are still open. -/
def header (draft : Draft) (tableCount : Nat) : Header where
  blobSize := UInt32.ofNat draft.pool.contents.1.size
  stringCount := UInt32.ofNat draft.pool.strings.size
  tableCount := UInt32.ofNat tableCount
  nodeCount := draft.nodeCount
  operandCount := draft.operandCount

end Draft

/-- The file of a module, with the offsets at which its sections were put. -/
def write (module : Module) : Output :=
  let draft := Draft.ofModule module
  (draft.sections.foldl Output.place .blank).finish (draft.header module.size)

end ScriptMetadata.Container
