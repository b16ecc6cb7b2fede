import ScriptMetadata.Container.Layout

/-!
The entries of the table, node and operand sections. Ranges name consecutive entries of the next
section; strings are named by their position in the string table.
-/

set_option autoImplicit false

namespace ScriptMetadata.Container

open LittleEndian

structure EntryRange where
  first : UInt32
  count : UInt32
  deriving DecidableEq

namespace EntryRange

/-- One past the last entry, exactly and not modulo a word. -/
def stop (range : EntryRange) : Nat := range.first.toNat + range.count.toNat

/-- The positions in the range. Its end has to be a 32-bit word, like the positions. -/
def positions (range : EntryRange) : Except Fault (List Nat) := do
  let stop ← Checked.word32 range.stop
  return List.range' range.first.toNat (stop.toNat - range.first.toNat)

def read (bytes : ByteArray) (start : Nat) : Except Fault EntryRange := do
  let first ← readWord32 bytes start
  let count ← readWord32 bytes (start + 4)
  return { first, count }

def encode (range : EntryRange) : List UInt8 :=
  encodeWord32 range.first ++ encodeWord32 range.count

/-- Ranges of the given lengths, each starting where the one before it ends. -/
def consecutive (first : Nat) : List Nat → List EntryRange
  | [] => []
  | count :: rest =>
      ⟨UInt32.ofNat first, UInt32.ofNat count⟩ :: consecutive (first + count) rest

@[simp] theorem length_encode (range : EntryRange) : range.encode.length = nodeEntrySize := by
  simp [encode, encodeWord32, nodeEntrySize]

@[simp] theorem length_consecutive (first : Nat) (counts : List Nat) :
    (consecutive first counts).length = counts.length := by
  induction counts generalizing first with
  | nil => rfl
  | cons count rest induction => simp [consecutive, induction]

/-- The end of a range that lies within a 32-bit number of entries fits a word. -/
theorem positions_eq_ok {range : EntryRange} (fits : range.stop < UInt32.size) :
    range.positions = .ok (List.range' range.first.toNat range.count.toNat) := by
  have same : (UInt32.ofNat range.stop).toNat - range.first.toNat = range.count.toNat := by
    rw [UInt32.toNat_ofNat_of_lt' fits, stop]
    omega
  simp only [positions, Checked.word32_eq_ok fits, bind, Except.bind, same]
  rfl

end EntryRange

structure TableEntry where
  name : UInt32
  rows : EntryRange
  deriving DecidableEq

namespace TableEntry

/-- The last four bytes of an entry are padding. -/
def read (bytes : ByteArray) (start : Nat) : Except Fault TableEntry := do
  let name ← readWord32 bytes start
  let rows ← EntryRange.read bytes (start + 4)
  return { name, rows }

def encode (entry : TableEntry) : List UInt8 :=
  encodeWord32 entry.name ++ entry.rows.encode ++ List.replicate 4 0

@[simp] theorem length_encode (entry : TableEntry) : entry.encode.length = tableEntrySize := by
  simp [encode, encodeWord32, nodeEntrySize, tableEntrySize]

end TableEntry

def textTag : UInt8 := 0

def integerTag : UInt8 := 1

structure OperandEntry where
  tag : UInt8
  payload : UInt64
  deriving DecidableEq

namespace OperandEntry

/-- Seven bytes of padding stand between the tag and the payload. -/
def read (bytes : ByteArray) (start : Nat) : Except Fault OperandEntry := do
  let tag ← Checked.byte bytes start
  let payload ← readWord64 bytes (start + 8)
  return { tag, payload }

def encode (entry : OperandEntry) : List UInt8 :=
  entry.tag :: List.replicate 7 0 ++ encodeWord64 entry.payload

@[simp] theorem length_encode (entry : OperandEntry) :
    entry.encode.length = operandEntrySize := by
  simp [encode, encodeWord64, operandEntrySize]

end OperandEntry

end ScriptMetadata.Container
