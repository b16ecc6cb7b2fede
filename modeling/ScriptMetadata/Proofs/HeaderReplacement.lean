import ScriptMetadata.Proofs.HeaderCodec
import ScriptMetadata.Proofs.ImageExtension
import ScriptMetadata.Proofs.Loading

/-!
A file under another header. The bytes behind the header stay where they are, so what changes is
only where the loader looks for the sections and how many entries it takes from each. Sections that
grow and still end inside the file start where they started before: one that starts later would push
the end past the file.
-/

set_option autoImplicit false

namespace ScriptMetadata.Container

open LittleEndian

/-- The file with another header in place of its first 64 bytes. -/
def replaceHeader (header : Header) (bytes : ByteArray) : ByteArray :=
  header.encode ++ bytes.extract headerSize bytes.size

section Replacement

variable (header : Header) (bytes : ByteArray)

theorem toList_replaceHeader :
    (replaceHeader header bytes).data.toList =
      header.encode.data.toList ++ bytes.data.toList.drop headerSize := by
  rw [replaceHeader, ByteArray.toList_data_append, toList_extract_size]

theorem drop_replaceHeader :
    (replaceHeader header bytes).data.toList.drop headerSize =
      bytes.data.toList.drop headerSize := by
  have front : header.encode.data.toList.length = headerSize := header.size_encode
  rw [toList_replaceHeader, List.drop_append_of_le_length (Nat.le_of_eq front.symm), ← front,
    List.drop_length, List.nil_append]

theorem bodyChecksum_replaceHeader :
    bodyChecksum (replaceHeader header bytes) = bodyChecksum bytes :=
  congrArg Crc32.checksum (drop_replaceHeader header bytes)

theorem extract_replaceHeader {start : Nat} (behind : headerSize ≤ start) (stop : Nat) :
    (replaceHeader header bytes).extract start stop = bytes.extract start stop := by
  obtain ⟨offset, rfl⟩ := Nat.exists_eq_add_of_le behind
  apply eq_of_toList_eq
  rw [toList_extract, toList_extract, ← List.drop_drop, ← List.drop_drop, drop_replaceHeader]

theorem numberAt_replaceHeader {start : Nat} (behind : headerSize ≤ start) (width : Nat) :
    numberAt (replaceHeader header bytes) start width = numberAt bytes start width := by
  rw [numberAt, numberAt, extract_replaceHeader header bytes behind]

theorem imageAt_replaceHeader (other : Header) :
    imageAt (replaceHeader header bytes) other = imageAt bytes other := by
  obtain ⟨blob, stringTable, tables, nodes, -⟩ := other.sectionsOrdered
  have number : ∀ start width, headerSize ≤ start →
      numberAt (replaceHeader header bytes) start width = numberAt bytes start width :=
    fun _ width behind => numberAt_replaceHeader header bytes behind width
  have word : ∀ start, headerSize ≤ start →
      word32At (replaceHeader header bytes) start = word32At bytes start :=
    fun start behind => congrArg UInt32.ofNat (number start 4 behind)
  have range : ∀ start, headerSize ≤ start →
      rangeAt (replaceHeader header bytes) start = rangeAt bytes start := by
    intro start behind
    rw [rangeAt, rangeAt, word start behind, word (start + 4) (by omega)]
  have entry : ∀ start, headerSize ≤ start →
      tableEntryAt (replaceHeader header bytes) start = tableEntryAt bytes start := by
    intro start behind
    rw [tableEntryAt, tableEntryAt, word start behind, range (start + 4) (by omega)]
  have operand : ∀ start, headerSize ≤ start →
      operandEntryAt (replaceHeader header bytes) start = operandEntryAt bytes start := by
    intro start behind
    rw [operandEntryAt, operandEntryAt, byteAt, byteAt, number start 1 behind,
      number (start + 8) 8 (by omega)]
  rw [imageAt, imageAt, extract_replaceHeader header bytes (Nat.le_refl _),
    entriesAt_congr fun start later => word start (by omega),
    entriesAt_congr fun start later => entry start (by omega),
    entriesAt_congr fun start later => range start (by omega),
    entriesAt_congr fun start later => operand start (by omega)]

variable {bytes} (complete : headerSize ≤ bytes.size)

include complete

theorem size_replaceHeader : (replaceHeader header bytes).size = bytes.size := by
  rw [replaceHeader, ByteArray.size_append, Header.size_encode, ByteArray.size_extract]
  omega

theorem load_replaceHeader_eq_ok_iff {options : LoadOptions} {module : Module} :
    load options (replaceHeader header bytes) = .ok module ↔
      (header.magic = magic ∧ header.version = formatVersion ∧
        header.totalSize.toNat = bytes.size ∧
          (options.verifyChecksum = true → header.checksum = bodyChecksum bytes)) ∧
        header.finish ≤ bytes.size ∧ (imageAt bytes header).resolve = .ok module := by
  have decoded : Header.decode (replaceHeader header bytes) = .ok header :=
    header.decode_encode_append _
  rw [load_eq_ok_iff_of_decode decoded, validate_eq_ok_iff (size_of_decode decoded),
    size_replaceHeader header complete, bodyChecksum_replaceHeader, imageAt_replaceHeader]

theorem replaceHeader_headerAt : replaceHeader (headerAt bytes) bytes = bytes := by
  apply eq_of_toList_eq
  rw [toList_replaceHeader, toList_encode_headerAt complete, List.take_append_drop]

end Replacement

/-! ### Where the sections start under two headers -/

namespace Header

variable {header other : Header}

namespace CountsLe

variable (counts : header.CountsLe other)

include counts

theorem stringTableStart_le : header.stringTableStart ≤ other.stringTableStart :=
  nextBoundary_mono (Nat.add_le_add_left counts.blobSize headerSize)

theorem tablesStart_le : header.tablesStart ≤ other.tablesStart :=
  nextBoundary_mono (Nat.add_le_add counts.stringTableStart_le
    (Nat.mul_le_mul_right boundSize (Nat.succ_le_succ counts.stringCount)))

variable (tableCount : header.tableCount ≤ other.tableCount)

include tableCount

theorem nodesStart_le : header.nodesStart ≤ other.nodesStart :=
  nextBoundary_mono (Nat.add_le_add counts.tablesStart_le
    (Nat.mul_le_mul_right tableEntrySize tableCount))

theorem operandsStart_le : header.operandsStart ≤ other.operandsStart :=
  nextBoundary_mono (Nat.add_le_add (counts.nodesStart_le tableCount)
    (Nat.mul_le_mul_right nodeEntrySize counts.nodeCount))

theorem finish_le : header.finish ≤ other.finish :=
  nextBoundary_mono (Nat.add_le_add (counts.operandsStart_le tableCount)
    (Nat.mul_le_mul_right operandEntrySize counts.operandCount))

/-- From the last section back to the first, none can have moved. -/
theorem sameStarts (finish : other.finish ≤ header.finish) : header.SameStarts other := by
  have operands : header.operandsStart = other.operandsStart :=
    start_eq_of_nextBoundary_le (nextBoundary_mod _) (nextBoundary_mod _)
      (counts.operandsStart_le tableCount)
      (Nat.mul_le_mul_right operandEntrySize counts.operandCount) finish
  have nodes : header.nodesStart = other.nodesStart :=
    start_eq_of_nextBoundary_le (nextBoundary_mod _) (nextBoundary_mod _)
      (counts.nodesStart_le tableCount)
      (Nat.mul_le_mul_right nodeEntrySize counts.nodeCount) (Nat.le_of_eq operands.symm)
  have tables : header.tablesStart = other.tablesStart :=
    start_eq_of_nextBoundary_le (nextBoundary_mod _) (nextBoundary_mod _) counts.tablesStart_le
      (Nat.mul_le_mul_right tableEntrySize tableCount) (Nat.le_of_eq nodes.symm)
  have stringTable : header.stringTableStart = other.stringTableStart :=
    start_eq_of_nextBoundary_le (nextBoundary_mod _) (nextBoundary_mod _)
      counts.stringTableStart_le (Nat.mul_le_mul_right boundSize
        (Nat.succ_le_succ counts.stringCount)) (Nat.le_of_eq tables.symm)
  exact ⟨stringTable, tables, nodes, operands⟩

end CountsLe

/-- Behind the same tables everything starts at the same place. -/
theorem sameStarts_of_tables (stringTable : header.stringTableStart = other.stringTableStart)
    (tables : header.tablesStart = other.tablesStart)
    (tableCount : header.tableCount = other.tableCount)
    (nodeCount : header.nodeCount = other.nodeCount) : header.SameStarts other := by
  have nodes : header.nodesStart = other.nodesStart := by
    rw [nodesStart, nodesStart, tables, tableCount]
  have operands : header.operandsStart = other.operandsStart := by
    rw [operandsStart, operandsStart, nodes, nodeCount]
  exact ⟨stringTable, tables, nodes, operands⟩

end Header

end ScriptMetadata.Container
