import ScriptMetadata.Proofs.DraftWriting
import ScriptMetadata.Proofs.HeaderDamage
import ScriptMetadata.Proofs.LiveBytes

/-!
The layout of an emitted file. The writer puts its sections one after the other and never asks where
a reader will look for them; below 2^32 bytes they stand where the header says, there are zeros
between them, and the ranges of the entries leave nothing out and name nothing twice.
-/

set_option autoImplicit false

namespace ScriptMetadata.Container

open LittleEndian

/-! ### Ranges without gap or overlap -/

/-- The ranges in their order lead from one position to another: each starts where the one before
it stops. -/
inductive Tiles : Nat → List EntryRange → Nat → Prop
  | done (position : Nat) : Tiles position [] position
  | step (range : EntryRange) {rest : List EntryRange} {finish : Nat}
      (later : Tiles range.stop rest finish) : Tiles range.first.toNat (range :: rest) finish

theorem tiles_consecutive {first : Nat} {counts : List Nat}
    (fits : first + counts.sum < UInt32.size) :
    Tiles first (EntryRange.consecutive first counts) (first + counts.sum) := by
  induction counts generalizing first with
  | nil => exact .done first
  | cons count rest induction =>
      rw [List.sum_cons, ← Nat.add_assoc] at fits ⊢
      have start : (UInt32.ofNat first).toNat = first := UInt32.toNat_ofNat_of_lt' (by omega)
      have length : (UInt32.ofNat count).toNat = count := UInt32.toNat_ofNat_of_lt' (by omega)
      have tiled : Tiles (UInt32.ofNat first).toNat (EntryRange.consecutive first (count :: rest))
          (first + count + rest.sum) := by
        refine .step ⟨UInt32.ofNat first, UInt32.ofNat count⟩ ?_
        rw [EntryRange.stop, start, length]
        exact induction fits
      rwa [start] at tiled

/-- Ranges whose total length is a word tile the positions that it counts. -/
theorem tiles_of_sum_eq {counts : List Nat} {count : UInt32} (total : counts.sum = count.toNat) :
    Tiles 0 (EntryRange.consecutive 0 counts) count.toNat := by
  have fits : 0 + counts.sum < UInt32.size := by
    rw [Nat.zero_add, total]
    exact count.toNat_lt
  have tiled := tiles_consecutive fits
  rwa [Nat.zero_add, total] at tiled

/-! ### Zeros -/

theorem getElem?_eq_zero {bytes : ByteArray} {start count position : Nat}
    (zeros : OccursAt (List.replicate count 0) bytes.data.toList start)
    (within : InSpan start count position) : bytes[position]? = some 0 := by
  obtain ⟨before, after, whole, rfl⟩ := zeros
  obtain ⟨started, ended⟩ := within
  rw [getElem?_eq_toList, whole, List.getElem?_append_right started,
    List.getElem?_append_left (by rw [List.length_replicate]; omega), List.getElem?_replicate,
    if_pos (by omega)]

namespace Image

variable (image : Image)

/-- Between the end of a section and the start of the next one there are only zeros. -/
theorem gap_eq_zero (index : Nat) {content : ByteArray}
    (found : image.sections[index]? = some content) {position : Nat}
    (ended : image.sectionStart index + content.size ≤ position)
    (before : position < image.sectionStart (index + 1)) :
    image.encode[position]? = some 0 := by
  have zeros : OccursAt (List.replicate (padding content.size) 0) (pad content).data.toList
      content.size := by
    have placed := OccursAt.end_append content.data.toList (List.replicate (padding content.size) 0)
    rwa [← toList_pad, Array.length_toList, ByteArray.size_data] at placed
  rw [image.sectionStart_succ index found, nextBoundary_add (image.sectionStart_mod index),
    ← Nat.add_assoc] at before
  exact getElem?_eq_zero (zeros.trans (image.padded_section_occurs index found)) ⟨ended, before⟩

/-- A part that all entries of a section have at the same place stands in the file once for each
entry. -/
theorem entry_part_occurs {α : Type} {encode : α → List UInt8} {size : Nat}
    (fixed : ∀ entry, (encode entry).length = size) {part : List UInt8} {offset : Nat}
    (has_part : ∀ entry, OccursAt part (encode entry) offset) (section_index : Nat)
    {entries : List α}
    (found : image.sections[section_index]? = some (entries.flatMap encode).toByteArray)
    {index : Nat} (stored : index < entries.length) :
    OccursAt part image.encode.data.toList
      (image.sectionStart section_index + index * size + offset) := by
  have placed := image.section_occurs section_index found
  rw [List.toList_data_toByteArray] at placed
  have in_section := OccursAt.flatMap_fixed fixed (List.getElem?_eq_getElem stored)
  rw [Nat.add_assoc]
  exact ((has_part _).trans in_section).trans placed

variable {image}

theorem filler_eq_zero (fits : image.Fits) {position : Nat}
    (filler : IsFiller image.header image.header.layout position)
    (inside : position < image.encode.size) : image.encode[position]? = some 0 := by
  obtain ⟨blobStart, stringTableStart, tablesStart, nodesStart, operandsStart⟩ :=
    image.header.toNat_layout
  rw [stringTableStart_eq fits] at stringTableStart
  rw [tablesStart_eq fits] at tablesStart
  rw [nodesStart_eq fits] at nodesStart
  rw [operandsStart_eq fits] at operandsStart
  have gap := image.gap_eq_zero
  cases filler with
  | reserved within => exact getElem?_eq_zero (image.header.occursAt_reserved image.body) within
  | table index stored within =>
      rw [tablesStart] at within
      rw [toNat_tableCount fits] at stored
      have has_zeros (entry : TableEntry) : OccursAt (List.replicate 4 0) entry.encode 12 :=
        ⟨encodeWord32 entry.name ++ entry.rows.encode, [], by rw [List.append_nil]; rfl, by
          rw [List.length_append, length_encodeWord32, EntryRange.length_encode]; rfl⟩
      exact getElem?_eq_zero
        (image.entry_part_occurs TableEntry.length_encode has_zeros 2 rfl stored) within
  | operand index stored within =>
      rw [operandsStart] at within
      rw [toNat_operandCount fits] at stored
      have has_zeros (entry : OperandEntry) : OccursAt (List.replicate 7 0) entry.encode 1 :=
        ⟨[entry.tag], encodeWord64 entry.payload, rfl, rfl⟩
      exact getElem?_eq_zero
        (image.entry_part_occurs OperandEntry.length_encode has_zeros 4 rfl stored) within
  | behindBlob ended before =>
      rw [blobStart, toNat_blobSize fits] at ended
      rw [stringTableStart] at before
      exact gap 0 rfl ended before
  | behindStringTable ended before =>
      rw [stringTableStart, toNat_stringCount fits, boundSize, ← size_entries length_encodeWord32]
        at ended
      rw [tablesStart] at before
      exact gap 1 rfl ended before
  | behindTables ended before =>
      rw [tablesStart, toNat_tableCount fits, ← size_entries TableEntry.length_encode] at ended
      rw [nodesStart] at before
      exact gap 2 rfl ended before
  | behindNodes ended before =>
      rw [nodesStart, toNat_nodeCount fits, ← size_entries EntryRange.length_encode] at ended
      rw [operandsStart] at before
      exact gap 3 rfl ended before
  | behindOperands ended =>
      rw [operandsStart, toNat_operandCount fits, ← size_entries OperandEntry.length_encode]
        at ended
      rw [size_encode] at inside
      exact gap 4 rfl ended inside

end Image

/-! ### The emitted file -/

/-- A written file, and what is read back from it, have the layout that the header derives. -/
structure LaidOut (module : Module) (file : Output) (header : Header) (layout : Layout)
    (image : Image) : Prop where
  /-- The sections were put where the header puts them. -/
  starts : file.starts.map UInt32.toUInt64 =
    [layout.blob, layout.stringTable, layout.tables, layout.nodes, layout.operands]
  /-- The file ends where the layout does. -/
  finish : layout.finish = UInt64.ofNat file.bytes.size
  aligned : file.bytes.size % 64 = 0
  zeros : ∀ position, IsFiller header layout position → position < file.bytes.size →
    file.bytes[position]? = some 0
  tableCount : header.tableCount.toNat = module.tables.length
  nodeCount : header.nodeCount.toNat = module.rows.length
  operandCount : header.operandCount.toNat = module.rows.flatten.length
  nodeRanges : Tiles 0 (image.tables.map TableEntry.rows) header.nodeCount.toNat
  operandRanges : Tiles 0 image.nodes.toList header.operandCount.toNat

theorem toUInt64_ofNat {value : Nat} (fits : value < UInt32.size) :
    (UInt32.ofNat value).toUInt64 = UInt64.ofNat value := by
  have wordSize : UInt32.size ≤ UInt64.size := by decide
  apply UInt64.toNat_inj.1
  rw [UInt32.toNat_toUInt64, UInt32.toNat_ofNat_of_lt' fits,
    UInt64.toNat_ofNat_of_lt' (Nat.lt_of_lt_of_le fits wordSize)]

section Emitted

variable {module : Module} (small : (emit module).size < UInt32.size)

include small

/-- The writer notes each offset as a 32-bit word, which is exact below 2^32 bytes. -/
theorem starts_write :
    (write module).starts.map UInt32.toUInt64 =
      [(emittedHeader module).layout.blob, (emittedHeader module).layout.stringTable,
        (emittedHeader module).layout.tables, (emittedHeader module).layout.nodes,
        (emittedHeader module).layout.operands] := by
  have fits := fits_of_emit small
  have word (index : Nat) {content : ByteArray}
      (found : (Image.ofModule module).sections[index]? = some content) :
      (UInt32.ofNat ((Image.ofModule module).sectionStart index)).toUInt64 =
        UInt64.ofNat ((Image.ofModule module).sectionStart index) := by
    have inside := ((Image.ofModule module).section_occurs index found).end_le
    rw [Array.length_toList, Array.length_toList, ByteArray.size_data, ByteArray.size_data]
      at inside
    rw [emit] at small
    -- a section starts inside the file, so its offset is no larger than the size
    exact toUInt64_ofNat (by omega)
  simp only [emittedHeader, Header.layout, Image.stringTableStart_eq fits,
    Image.tablesStart_eq fits, Image.nodesStart_eq fits, Image.operandsStart_eq fits]
  rw [write_starts, ← word 1 rfl, ← word 2 rfl, ← word 3 rfl, ← word 4 rfl]
  rfl

theorem toNat_operandCount_emit :
    (emittedHeader module).operandCount.toNat = module.rows.flatten.length := by
  rw [← Image.size_operands]
  exact Image.toNat_operandCount (fits_of_emit small)

theorem nodeRanges_tile :
    Tiles 0 ((Image.ofModule module).tables.map TableEntry.rows)
      (emittedHeader module).nodeCount.toNat := by
  rw [Image.map_rows_tables]
  apply tiles_of_sum_eq
  rw [toNat_nodeCount_emit small, Module.rows, List.length_flatMap]

theorem operandRanges_tile :
    Tiles 0 (Image.ofModule module).nodes.toList (emittedHeader module).operandCount.toNat := by
  apply tiles_of_sum_eq
  rw [toNat_operandCount_emit small, List.length_flatten]

theorem laidOut_write :
    LaidOut module (write module) (emittedHeader module) (emittedHeader module).layout
      (Image.ofModule module) := by
  have fits := fits_of_emit small
  have size : (write module).bytes.size = (Image.ofModule module).sectionStart 5 := by
    rw [write_bytes, emit, Image.size_encode]
  constructor
  · exact starts_write small
  · rw [write_bytes]
    exact congrArg UInt64.ofNat (Image.finish_eq fits)
  · rw [size]
    exact (Image.ofModule module).sectionStart_mod 5
  · intro position filler inside
    rw [write_bytes] at inside ⊢
    exact Image.filler_eq_zero fits filler inside
  · exact toNat_tableCount_emit small
  · exact toNat_nodeCount_emit small
  · exact toNat_operandCount_emit small
  · exact nodeRanges_tile small
  · exact operandRanges_tile small

end Emitted

/-- A module is written with the layout that a reader derives from the counts in the header, as long
as the file is shorter than 2^32 bytes. -/
theorem write_agrees_with_layout (module : Module) (small : (emit module).size < 2 ^ 32) :
    (write module).bytes = emit module ∧
      ∃ header layout image, Header.decode (emit module) = .ok header ∧
        Layout.ofHeader header = .ok layout ∧
        Image.read (emit module) header layout = .ok image ∧
        LaidOut module (write module) header layout image := by
  exact ⟨write_bytes module, emittedHeader module, (emittedHeader module).layout,
    Image.ofModule module, decode_encode _, Layout.ofHeader_eq_ok _, read_emit small,
    laidOut_write small⟩

/-- A table with an empty row between two others, and a table without rows. -/
def unevenRows : Module :=
  .ofTables [⟨"a", [[.text "b", .integer 7], [], [.text "a"]]⟩, ⟨"b", []⟩]

theorem write_unevenRows_agrees_with_layout :
    (emit unevenRows).size < 2 ^ 32 ∧ (write unevenRows).bytes = emit unevenRows ∧
      ∃ header layout image, Header.decode (emit unevenRows) = .ok header ∧
        Layout.ofHeader header = .ok layout ∧
        Image.read (emit unevenRows) header layout = .ok image ∧
        LaidOut unevenRows (write unevenRows) header layout image := by
  have small : (emit unevenRows).size < 2 ^ 32 := by decide +kernel
  exact ⟨small, write_agrees_with_layout unevenRows small⟩

end ScriptMetadata.Container
