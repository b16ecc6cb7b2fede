import ScriptMetadata.Container.Entry
import ScriptMetadata.Module

/-!
The image of a container: the contents of its five sections, before any of their references is
followed. Reading takes them from the places that the layout gives; encoding writes them one after
the other, each filled up with zeros to a multiple of 64.
-/

set_option autoImplicit false

namespace ScriptMetadata.Container

open LittleEndian

structure Image where
  blob : ByteArray
  /-- Where each string starts in the blob, and where the last one ends. -/
  bounds : List UInt32
  tables : List TableEntry
  nodes : Array EntryRange
  operands : Array OperandEntry

/-- Reads `count` entries of equal size that follow each other from `start` on. -/
def readEntries {α : Type} (read : Nat → Except Fault α) (start : UInt64)
    (count entrySize : Nat) : Except Fault (List α) :=
  (List.range count).mapM fun index => do
    let address ← Checked.word64 (start.toNat + index * entrySize)
    read address.toNat

/-- The zeros that fill a section up to a multiple of the alignment. -/
def padding (size : Nat) : Nat := (sectionAlign - size % sectionAlign) % sectionAlign

def pad (content : ByteArray) : ByteArray :=
  content ++ (List.replicate (padding content.size) 0).toByteArray

namespace Image

def read (bytes : ByteArray) (header : Header) (layout : Layout) : Except Fault Image := do
  let blob ← Checked.slice bytes layout.blob.toNat header.blobSize.toNat
  let bounds ← readEntries (readWord32 bytes) layout.stringTable
    (header.stringCount.toNat + 1) boundSize
  let tables ← readEntries (TableEntry.read bytes) layout.tables
    header.tableCount.toNat tableEntrySize
  let nodes ← readEntries (EntryRange.read bytes) layout.nodes
    header.nodeCount.toNat nodeEntrySize
  let operands ← readEntries (OperandEntry.read bytes) layout.operands
    header.operandCount.toNat operandEntrySize
  return { blob, bounds, tables, nodes := nodes.toArray, operands := operands.toArray }

/-- The sections in their order in the file. -/
def sections (image : Image) : List ByteArray :=
  [image.blob,
    (image.bounds.flatMap encodeWord32).toByteArray,
    (image.tables.flatMap TableEntry.encode).toByteArray,
    (image.nodes.toList.flatMap EntryRange.encode).toByteArray,
    (image.operands.toList.flatMap OperandEntry.encode).toByteArray]

/-- Everything after the header. -/
def body (image : Image) : ByteArray :=
  (image.sections.map pad).foldl (· ++ ·) ByteArray.empty

/-- The header of the encoded image. Counts and sizes are taken modulo their word. -/
def header (image : Image) : Header where
  checksum := Crc32.checksum image.body.data.toList
  totalSize := UInt32.ofNat (headerSize + image.body.size)
  blobSize := UInt32.ofNat image.blob.size
  stringCount := UInt32.ofNat (image.bounds.length - 1)
  tableCount := UInt32.ofNat image.tables.length
  nodeCount := UInt32.ofNat image.nodes.size
  operandCount := UInt32.ofNat image.operands.size

def encode (image : Image) : ByteArray := image.header.encode ++ image.body

end Image

end ScriptMetadata.Container

/-! ### The image of a module

Each distinct string is stored once, in the order of first use: tables in order, the name of a table
before the texts of its rows. The ranges of the tables partition the nodes and the ranges of the
nodes partition the operands. -/

namespace ScriptMetadata

namespace Table

/-- The strings of a table in the order of their use. -/
def strings (table : Table) : List String :=
  table.name :: table.rows.flatten.filterMap Operand.text?

end Table

namespace Module

/-- The distinct strings of a module in the order of first use. -/
def strings (module : Module) : List String := (module.tables.flatMap Table.strings).eraseDups

def rows (module : Module) : List Row := module.tables.flatMap Table.rows

end Module

namespace Container

/-- The position of a string in the string table. -/
def stringId (strings : List String) (value : String) : UInt32 :=
  UInt32.ofNat (strings.idxOf value)

/-- The starts of consecutive stretches of the given lengths, and the end of the last one. -/
def boundsFrom (start : Nat) : List Nat → List UInt32
  | [] => [UInt32.ofNat start]
  | size :: rest => UInt32.ofNat start :: boundsFrom (start + size) rest

namespace OperandEntry

def ofOperand (strings : List String) : Operand → OperandEntry
  | .text value => ⟨textTag, (stringId strings value).toUInt64⟩
  | .integer value => ⟨integerTag, value⟩

end OperandEntry

namespace Image

def ofModule (module : Module) : Image where
  blob := module.strings.foldl (fun blob value => blob ++ value.toUTF8) ByteArray.empty
  bounds := boundsFrom 0 (module.strings.map String.utf8ByteSize)
  tables := (module.tables.zip (EntryRange.consecutive 0 (module.tables.map (·.rows.length)))).map
    fun (table, rows) => ⟨stringId module.strings table.name, rows⟩
  nodes := (EntryRange.consecutive 0 (module.rows.map List.length)).toArray
  operands := (module.rows.flatten.map (OperandEntry.ofOperand module.strings)).toArray

end Image

end Container

end ScriptMetadata
