import ScriptMetadata.Container.Header

/-!
Where the sections of a container start. The header holds only counts; each section follows the one
before it at the next multiple of 64. The offsets are 64-bit words and every step is checked, so no
count in a header, however large, can wrap them.
-/

set_option autoImplicit false

namespace ScriptMetadata.Container

def sectionAlign : Nat := 64

/-- Bytes of a start offset in the string table. -/
def boundSize : Nat := 4

def tableEntrySize : Nat := 16

def nodeEntrySize : Nat := 8

def operandEntrySize : Nat := 16

/-- The next multiple of 64, by clearing the low six bits. -/
def alignUp (offset : UInt64) : Except Fault UInt64 := do
  let raised ← Checked.word64 (offset.toNat + 63)
  return raised &&& ~~~63

/-- The start of the section that follows `count` entries. -/
def afterEntries (start : UInt64) (count entrySize : Nat) : Except Fault UInt64 := do
  let size ← Checked.word64 (count * entrySize)
  let stop ← Checked.word64 (start.toNat + size.toNat)
  alignUp stop

structure Layout where
  blob : UInt64
  stringTable : UInt64
  tables : UInt64
  nodes : UInt64
  operands : UInt64
  /-- One past the last section, aligned like a section start. -/
  finish : UInt64
  deriving DecidableEq

namespace Layout

/-- The string table has one entry more than there are strings, for the end of the last one. -/
def ofHeader (header : Header) : Except Fault Layout := do
  let blob ← Checked.word64 headerSize
  let stringTable ← afterEntries blob header.blobSize.toNat 1
  let tables ← afterEntries stringTable (header.stringCount.toNat + 1) boundSize
  let nodes ← afterEntries tables header.tableCount.toNat tableEntrySize
  let operands ← afterEntries nodes header.nodeCount.toNat nodeEntrySize
  let finish ← afterEntries operands header.operandCount.toNat operandEntrySize
  return { blob, stringTable, tables, nodes, operands, finish }

end Layout

end ScriptMetadata.Container

/-! ### Offsets in the arithmetic of words

Every sum, difference and product is an operation of its own, which has no result where the number
does not fit the word. Rounding up adds a whole alignment before it takes one off again, so it needs
more room than the offset that it gives. -/

namespace ScriptMetadata

namespace Checked

def sum64 (first second : UInt64) : Except Fault UInt64 := word64 (first.toNat + second.toNat)

def product64 (first second : UInt64) : Except Fault UInt64 := word64 (first.toNat * second.toNat)

/-- A difference that must not be negative. -/
def difference64 (first second : UInt64) : Except Fault UInt64 :=
  if second.toNat ≤ first.toNat then .ok (UInt64.ofNat (first.toNat - second.toNat))
  else .error .overflow

end Checked

namespace Container

/-- The next multiple of a power of two. -/
def roundUp (offset align : UInt64) : Except Fault UInt64 := do
  let beyond ← Checked.sum64 offset align
  let last ← Checked.difference64 beyond 1
  let lowBits ← Checked.difference64 align 1
  return last &&& ~~~lowBits

/-- The start of the section behind one of a given size. -/
def behind (start size : UInt64) : Except Fault UInt64 := do
  let stop ← Checked.sum64 start size
  roundUp stop (UInt64.ofNat sectionAlign)

def Layout.inWords (header : Header) : Except Fault Layout := do
  let blob := UInt64.ofNat headerSize
  let stringTable ← behind blob header.blobSize.toUInt64
  let bounds ← Checked.sum64 header.stringCount.toUInt64 1
  let stringTableSize ← Checked.product64 bounds (UInt64.ofNat boundSize)
  let tables ← behind stringTable stringTableSize
  let tablesSize ← Checked.product64 header.tableCount.toUInt64 (UInt64.ofNat tableEntrySize)
  let nodes ← behind tables tablesSize
  let nodesSize ← Checked.product64 header.nodeCount.toUInt64 (UInt64.ofNat nodeEntrySize)
  let operands ← behind nodes nodesSize
  let operandsSize ← Checked.product64 header.operandCount.toUInt64 (UInt64.ofNat operandEntrySize)
  let finish ← behind operands operandsSize
  return { blob, stringTable, tables, nodes, operands, finish }

end Container

end ScriptMetadata
