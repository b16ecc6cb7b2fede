import ScriptMetadata.Container
import ScriptMetadata.Proofs.Occurrence
import ScriptMetadata.Proofs.Outcome
import ScriptMetadata.Proofs.Sections

/-!
The image that stands in a file, read without checks. When the sections end inside the file, the
checked reader answers with exactly this image.
-/

set_option autoImplicit false

namespace ScriptMetadata.Container

open LittleEndian

def byteAt (bytes : ByteArray) (start : Nat) : UInt8 := UInt8.ofNat (numberAt bytes start 1)

/-- The header that a file starts with. -/
def headerAt (bytes : ByteArray) : Header where
  magic := Vector.ofFn fun index => byteAt bytes index
  version := word32At bytes 4
  checksum := word32At bytes 8
  totalSize := word32At bytes 12
  blobSize := word32At bytes 16
  stringCount := word32At bytes 20
  tableCount := word32At bytes 24
  nodeCount := word32At bytes 28
  operandCount := word32At bytes 32
  reserved := Vector.ofFn fun index => byteAt bytes (36 + index)

/-- The checksum of what a file has behind its header. -/
def bodyChecksum (bytes : ByteArray) : UInt32 :=
  Crc32.checksum (bytes.data.toList.drop headerSize)

def rangeAt (bytes : ByteArray) (start : Nat) : EntryRange where
  first := word32At bytes start
  count := word32At bytes (start + 4)

def tableEntryAt (bytes : ByteArray) (start : Nat) : TableEntry where
  name := word32At bytes start
  rows := rangeAt bytes (start + 4)

def operandEntryAt (bytes : ByteArray) (start : Nat) : OperandEntry where
  tag := byteAt bytes start
  payload := UInt64.ofNat (numberAt bytes (start + 8) 8)

/-- The entries of equal size that follow each other from `start` on. -/
def entriesAt {α : Type} (value : Nat → α) (start count entrySize : Nat) : List α :=
  (List.range count).map fun index => value (start + index * entrySize)

/-- The sections of a file under a header that declares their sizes. -/
def imageAt (bytes : ByteArray) (header : Header) : Image where
  blob := bytes.extract headerSize (headerSize + header.blobSize.toNat)
  bounds := entriesAt (word32At bytes) header.stringTableStart (header.stringCount.toNat + 1)
    boundSize
  tables := entriesAt (tableEntryAt bytes) header.tablesStart header.tableCount.toNat
    tableEntrySize
  nodes := (entriesAt (rangeAt bytes) header.nodesStart header.nodeCount.toNat
    nodeEntrySize).toArray
  operands := (entriesAt (operandEntryAt bytes) header.operandsStart header.operandCount.toNat
    operandEntrySize).toArray

@[simp] theorem length_entriesAt {α : Type} (value : Nat → α) (start count entrySize : Nat) :
    (entriesAt value start count entrySize).length = count := by
  rw [entriesAt, List.length_map, List.length_range]

theorem getElem?_entriesAt {α : Type} (value : Nat → α) (start entrySize : Nat) {count index : Nat}
    (below : index < count) :
    (entriesAt value start count entrySize)[index]? = some (value (start + index * entrySize)) := by
  rw [entriesAt, List.getElem?_map, List.getElem?_range below]
  rfl

theorem take_entriesAt {α : Type} (value : Nat → α) (start entrySize : Nat) {count larger : Nat}
    (le : count ≤ larger) :
    (entriesAt value start larger entrySize).take count =
      entriesAt value start count entrySize := by
  rw [entriesAt, ← List.map_take, List.take_range, Nat.min_eq_left le]
  rfl

theorem entriesAt_front {α : Type} (value : Nat → α) (start entrySize : Nat) {count larger : Nat}
    (le : count ≤ larger) :
    entriesAt value start count entrySize <+: entriesAt value start larger entrySize := by
  rw [← take_entriesAt value start entrySize le]
  exact List.take_prefix _ _

theorem entriesAt_congr {α : Type} {value value' : Nat → α} {start : Nat}
    (same : ∀ address, start ≤ address → value address = value' address) (count entrySize : Nat) :
    entriesAt value start count entrySize = entriesAt value' start count entrySize := by
  apply List.map_congr_left
  intro index _
  exact same _ (Nat.le_add_right start _)

theorem byteAt_eq_getElem {bytes : ByteArray} {start : Nat} (inside : start < bytes.size) :
    byteAt bytes start = bytes[start] := by
  rw [byteAt, numberAt, ByteArray.extract_add_one inside, List.toList_data_toByteArray]
  simp [decode]

theorem byte_eq_ok {bytes : ByteArray} {start : Nat} (inside : start < bytes.size) :
    Checked.byte bytes start = .ok (byteAt bytes start) := by
  have present : bytes[start]? = some bytes[start] := getElem?_pos bytes start inside
  rw [Checked.byte, present, byteAt_eq_getElem inside]

theorem data_extract_eq (bytes : ByteArray) (start size : Nat)
    (inside : start + size ≤ bytes.size) :
    (bytes.extract start (start + size)).data =
      (Vector.ofFn fun index : Fin size => byteAt bytes (start + index)).toArray := by
  rw [Vector.toArray_ofFn]
  apply Array.ext
  · rw [ByteArray.size_data, ByteArray.size_extract, Array.size_ofFn]
    omega
  · intro index below below'
    rw [Array.size_ofFn] at below'
    rw [Array.getElem_ofFn, byteAt_eq_getElem (by omega)]
    exact ByteArray.getElem_extract below

theorem bytes_eq_ok {bytes : ByteArray} {start size : Nat} (inside : start + size ≤ bytes.size) :
    Checked.bytes bytes start size =
      .ok (Vector.ofFn fun index : Fin size => byteAt bytes (start + index)) := by
  rw [Checked.bytes, dif_pos inside]
  exact congrArg Except.ok (Vector.toArray_inj.1 (data_extract_eq bytes start size inside))

section Complete

variable {bytes : ByteArray} (complete : headerSize ≤ bytes.size)

include complete

theorem data_extract_magic : (bytes.extract 0 4).data = (headerAt bytes).magic.toArray := by
  rw [headerSize] at complete
  have stored := data_extract_eq bytes 0 4 (by omega)
  simp only [Nat.zero_add] at stored
  exact stored

theorem data_extract_reserved :
    (bytes.extract 36 64).data = (headerAt bytes).reserved.toArray := by
  rw [headerSize] at complete
  exact data_extract_eq bytes 36 28 (by omega)

namespace Header

theorem decode_eq_ok : decode bytes = .ok (headerAt bytes) := by
  have magic := data_extract_magic complete
  have reserved := data_extract_reserved complete
  rw [headerSize] at complete
  rw [decode, dif_pos complete]
  apply congrArg Except.ok
  rw [headerAt, mk.injEq]
  exact ⟨Vector.toArray_inj.1 magic, rfl, rfl, rfl, rfl, rfl, rfl, rfl, rfl,
    Vector.toArray_inj.1 reserved⟩

/-- Behind the first check of the header all of its fields are there. -/
theorem readFields_eq_ok : readFields bytes = .ok (headerAt bytes) := by
  have size : headerSize = 64 := rfl
  have reserved : Checked.bytes bytes 36 28 = .ok (headerAt bytes).reserved :=
    bytes_eq_ok (by omega)
  have magic : Checked.bytes bytes 0 4 = .ok (headerAt bytes).magic := by
    have stored := bytes_eq_ok (show 0 + 4 ≤ bytes.size by omega)
    simp only [Nat.zero_add] at stored
    exact stored
  have word : ∀ start ≤ 60, readWord32 bytes start = .ok (word32At bytes start) :=
    fun start low => readWord32_eq_ok (by omega)
  rw [readFields, if_neg (Nat.not_lt.2 complete), reserved, magic, word 4 (by decide),
    word 8 (by decide), word 12 (by decide), word 16 (by decide), word 20 (by decide),
    word 24 (by decide), word 28 (by decide), word 32 (by decide)]
  rfl

end Header

theorem readBodyChecksum_eq_ok : readBodyChecksum bytes = .ok (bodyChecksum bytes) := by
  have whole : headerSize + (bytes.size - headerSize) = bytes.size :=
    Nat.add_sub_of_le complete
  have rest : (bytes.extract headerSize bytes.size).data.toList =
      bytes.data.toList.drop headerSize := toList_extract_size bytes headerSize
  rw [readBodyChecksum, Checked.slice_eq_ok (Nat.le_of_eq whole), whole, bodyChecksum, ← rest]
  rfl

end Complete

namespace Header

variable {bytes : ByteArray}

theorem decode_of_incomplete (short : ¬headerSize ≤ bytes.size) :
    decode bytes = .error .headerTooShort := dif_neg short

/-- Of the checks that reading makes, only the first can fail. -/
theorem readFields_eq_decode : readFields bytes = decode bytes := by
  by_cases complete : headerSize ≤ bytes.size
  · rw [readFields_eq_ok complete, decode_eq_ok complete]
  · rw [decode_of_incomplete complete, readFields, if_pos (Nat.not_le.1 complete)]

end Header

theorem EntryRange.read_eq_ok (bytes : ByteArray) (start : Nat)
    (inside : start + nodeEntrySize ≤ bytes.size) :
    EntryRange.read bytes start = .ok (rangeAt bytes start) := by
  rw [nodeEntrySize] at inside
  rw [EntryRange.read, readWord32_eq_ok (by omega), readWord32_eq_ok (by omega)]
  rfl

theorem TableEntry.read_eq_ok (bytes : ByteArray) (start : Nat)
    (inside : start + tableEntrySize ≤ bytes.size) :
    TableEntry.read bytes start = .ok (tableEntryAt bytes start) := by
  rw [tableEntrySize] at inside
  rw [TableEntry.read, readWord32_eq_ok (by omega),
    EntryRange.read_eq_ok bytes _ (by rw [nodeEntrySize]; omega)]
  rfl

theorem OperandEntry.read_eq_ok (bytes : ByteArray) (start : Nat)
    (inside : start + operandEntrySize ≤ bytes.size) :
    OperandEntry.read bytes start = .ok (operandEntryAt bytes start) := by
  rw [operandEntrySize] at inside
  rw [OperandEntry.read, byte_eq_ok (by omega), readWord64_eq_ok (by omega)]
  rfl

theorem readEntries_eq_ok {α : Type} {read : Nat → Except Fault α} {value : Nat → α}
    {entrySize limit : Nat}
    (answers : ∀ address, address + entrySize ≤ limit → read address = .ok (value address))
    (start count : Nat) (inside : start + count * entrySize ≤ limit)
    (fits : start + count * entrySize < UInt64.size) :
    readEntries read (UInt64.ofNat start) count entrySize =
      .ok (entriesAt value start count entrySize) := by
  have first : (UInt64.ofNat start).toNat = start := UInt64.toNat_ofNat_of_lt' (by omega)
  apply Outcome.mapM_eq_ok_map
  intro index member
  have below : (index + 1) * entrySize ≤ count * entrySize :=
    Nat.mul_le_mul_right entrySize (List.mem_range.1 member)
  rw [Nat.succ_mul] at below
  have addressFits : start + index * entrySize < UInt64.size := by omega
  have address : (UInt64.ofNat (start + index * entrySize)).toNat = start + index * entrySize :=
    UInt64.toNat_ofNat_of_lt' addressFits
  simp only [first, Checked.word64_eq_ok addressFits, bind, Except.bind, address]
  exact answers _ (by omega)

theorem Image.read_eq_ok {bytes : ByteArray} {header : Header}
    (inside : header.finish ≤ bytes.size) :
    Image.read bytes header header.layout = .ok (imageAt bytes header) := by
  obtain ⟨blob, stringTable, tables, nodes, operands⟩ := header.sectionsOrdered
  have bounded := header.finish_lt
  have wordSize : UInt64.size = 2 ^ 64 := rfl
  have blobStart : header.layout.blob.toNat = headerSize := rfl
  have blob_read : Checked.slice bytes headerSize header.blobSize.toNat =
      .ok (bytes.extract headerSize (headerSize + header.blobSize.toNat)) :=
    Checked.slice_eq_ok (by omega)
  have word_read : ∀ address, address + boundSize ≤ bytes.size →
      readWord32 bytes address = .ok (word32At bytes address) :=
    fun _ within => readWord32_eq_ok within
  have bounds_read := readEntries_eq_ok word_read header.stringTableStart
    (header.stringCount.toNat + 1) (by omega) (by omega)
  have tables_read := readEntries_eq_ok (TableEntry.read_eq_ok bytes) header.tablesStart
    header.tableCount.toNat (by omega) (by omega)
  have nodes_read := readEntries_eq_ok (EntryRange.read_eq_ok bytes) header.nodesStart
    header.nodeCount.toNat (by omega) (by omega)
  have operands_read := readEntries_eq_ok (OperandEntry.read_eq_ok bytes) header.operandsStart
    header.operandCount.toNat (by omega) (by omega)
  rw [Image.read, blobStart, blob_read]
  simp only [Header.layout, bounds_read, tables_read, nodes_read, operands_read, bind, Except.bind]
  rfl

end ScriptMetadata.Container
