import ScriptMetadata.Proofs.HeaderCodec
import ScriptMetadata.Proofs.ImageReading

/-!
An image whose sizes fit the words of the header is read back from its encoding: the sections stand
where the header puts them, and each entry stands at its place in its section.
-/

set_option autoImplicit false

namespace ScriptMetadata.Container

open LittleEndian

/-! ### Entries -/

section Entries

variable {bytes : ByteArray} {start : Nat}

theorem rangeAt_eq_of_occursAt {range : EntryRange}
    (occurs : OccursAt range.encode bytes.data.toList start) : rangeAt bytes start = range := by
  have first := (OccursAt.start_append (encodeWord32 range.first)
    (encodeWord32 range.count)).trans occurs
  have count := (OccursAt.end_append (encodeWord32 range.first)
    (encodeWord32 range.count)).trans occurs
  rw [length_encodeWord32] at count
  rw [rangeAt, word32At_eq_of_occursAt count]
  rw [Nat.add_zero] at first
  rw [word32At_eq_of_occursAt first]

theorem tableEntryAt_eq_of_occursAt {entry : TableEntry}
    (occurs : OccursAt entry.encode bytes.data.toList start) :
    tableEntryAt bytes start = entry := by
  have split : entry.encode =
      encodeWord32 entry.name ++ (entry.rows.encode ++ List.replicate 4 0) :=
    List.append_assoc _ _ _
  rw [split] at occurs
  have name := (OccursAt.start_append (encodeWord32 entry.name) _).trans occurs
  have rows : OccursAt entry.rows.encode bytes.data.toList (start + 4) :=
    OccursAt.trans ⟨encodeWord32 entry.name, List.replicate 4 0, rfl, length_encodeWord32 _⟩ occurs
  rw [Nat.add_zero] at name
  rw [tableEntryAt, word32At_eq_of_occursAt name, rangeAt_eq_of_occursAt rows]

theorem byteAt_eq_of_occursAt {value : UInt8}
    (occurs : OccursAt [value] bytes.data.toList start) : byteAt bytes start = value := by
  have number := numberAt_eq_of_occursAt occurs
  rw [List.length_singleton] at number
  simp [byteAt, number, decode]

theorem operandEntryAt_eq_of_occursAt {entry : OperandEntry}
    (occurs : OccursAt entry.encode bytes.data.toList start) :
    operandEntryAt bytes start = entry := by
  have tag := (OccursAt.start_append [entry.tag]
    (List.replicate 7 0 ++ encodeWord64 entry.payload)).trans occurs
  have payload : OccursAt (encodeWord64 entry.payload) bytes.data.toList (start + 8) :=
    OccursAt.trans ⟨entry.tag :: List.replicate 7 0, [], by rw [List.append_nil]; rfl, rfl⟩ occurs
  rw [Nat.add_zero] at tag
  rw [operandEntryAt, byteAt_eq_of_occursAt tag, word64At_eq_of_occursAt payload]

theorem entriesAt_eq_of_occursAt {α : Type} {value : Nat → α} {encode : α → List UInt8}
    {size : Nat} (fixed : ∀ entry, (encode entry).length = size)
    (reads : ∀ entry address, OccursAt (encode entry) bytes.data.toList address →
      value address = entry)
    {entries : List α} (occurs : OccursAt (entries.flatMap encode) bytes.data.toList start) :
    entriesAt value start entries.length size = entries := by
  apply List.ext_getElem
  · rw [entriesAt, List.length_map, List.length_range]
  · intro index _ below
    have found : entries[index]? = some entries[index] := List.getElem?_eq_getElem below
    simp only [entriesAt, List.getElem_map, List.getElem_range]
    exact reads _ _ ((OccursAt.flatMap_fixed fixed found).trans occurs)

theorem size_entries {α : Type} {encode : α → List UInt8} {size : Nat}
    (fixed : ∀ entry, (encode entry).length = size) (entries : List α) :
    (entries.flatMap encode).toByteArray.size = entries.length * size := by
  rw [List.size_toByteArray, List.length_flatMap]
  simp [fixed]

end Entries

/-! ### Sections -/

theorem toList_concat (parts : List ByteArray) (first : ByteArray) :
    (parts.foldl (· ++ ·) first).data.toList =
      first.data.toList ++ parts.flatMap fun part => part.data.toList := by
  induction parts generalizing first with
  | nil => simp
  | cons part rest induction =>
      rw [List.foldl_cons, induction, ByteArray.toList_data_append, List.flatMap_cons,
        List.append_assoc]

theorem toList_pad (content : ByteArray) :
    (pad content).data.toList =
      content.data.toList ++ List.replicate (padding content.size) 0 := by
  rw [pad, ByteArray.toList_data_append, List.toList_data_toByteArray]

theorem size_pad (content : ByteArray) :
    (pad content).size = content.size + padding content.size := by
  rw [pad, ByteArray.size_append, List.size_toByteArray, List.length_replicate]

theorem length_padded (contents : List ByteArray) :
    (contents.flatMap fun content => (pad content).data.toList).length =
      (contents.map fun content => (pad content).size).sum := by
  rw [List.length_flatMap]
  rfl

theorem sum_padded_mod (contents : List ByteArray) :
    (contents.map fun content => (pad content).size).sum % sectionAlign = 0 := by
  induction contents with
  | nil => rfl
  | cons content rest induction =>
      simp only [List.map_cons, List.sum_cons, size_pad, padding, sectionAlign] at induction ⊢
      omega

namespace Image

variable (image : Image)

theorem toList_body :
    image.body.data.toList = image.sections.flatMap fun content => (pad content).data.toList := by
  rw [body, toList_concat, List.flatMap_map]
  rfl

/-- Where a section of the encoding starts: behind the header and the filled sections before it. -/
def sectionStart (index : Nat) : Nat :=
  headerSize + ((image.sections.take index).map fun content => (pad content).size).sum

theorem toList_encode :
    image.encode.data.toList =
      image.header.encode.data.toList ++
        image.sections.flatMap fun content => (pad content).data.toList := by
  rw [encode, ByteArray.toList_data_append, toList_body]

theorem padded_section_occurs (index : Nat) {content : ByteArray}
    (found : image.sections[index]? = some content) :
    OccursAt (pad content).data.toList image.encode.data.toList (image.sectionStart index) := by
  have in_body := OccursAt.flatMap (fun content => (pad content).data.toList) found
  have placed := in_body.trans (OccursAt.end_append image.header.encode.data.toList
    (image.sections.flatMap fun content => (pad content).data.toList))
  rw [← toList_encode, length_padded, Array.length_toList, ByteArray.size_data,
    Header.size_encode] at placed
  exact placed

theorem section_occurs (index : Nat) {content : ByteArray}
    (found : image.sections[index]? = some content) :
    OccursAt content.data.toList image.encode.data.toList (image.sectionStart index) := by
  have in_padded : OccursAt content.data.toList (pad content).data.toList 0 := by
    rw [toList_pad]
    exact OccursAt.start_append _ _
  exact in_padded.trans (image.padded_section_occurs index found)

theorem sectionStart_mod (index : Nat) : image.sectionStart index % sectionAlign = 0 := by
  have sections := sum_padded_mod (image.sections.take index)
  simp only [sectionStart, headerSize, sectionAlign] at sections ⊢
  omega

theorem sectionStart_succ (index : Nat) {content : ByteArray}
    (found : image.sections[index]? = some content) :
    image.sectionStart (index + 1) = nextBoundary (image.sectionStart index + content.size) := by
  rw [nextBoundary_add (image.sectionStart_mod index), ← size_pad, sectionStart, sectionStart,
    List.take_add_one, found, Option.toList_some, List.map_append, List.sum_append]
  simp [Nat.add_assoc]

theorem size_encode : image.encode.size = image.sectionStart 5 := by
  rw [← ByteArray.size_data, ← Array.length_toList, toList_encode, List.length_append,
    Array.length_toList, ByteArray.size_data, Header.size_encode, length_padded]
  rfl

/-- The sizes that the header counts fit its words, and the string table has its last end. -/
structure Fits : Prop where
  blob : image.blob.size < UInt32.size
  bounds : image.bounds ≠ []
  strings : image.bounds.length - 1 < UInt32.size
  tables : image.tables.length < UInt32.size
  nodes : image.nodes.size < UInt32.size
  operands : image.operands.size < UInt32.size

theorem size_section_le (index : Nat) {content : ByteArray}
    (found : image.sections[index]? = some content) : content.size ≤ image.encode.size := by
  have inside := (image.section_occurs index found).end_le
  rw [Array.length_toList, Array.length_toList, ByteArray.size_data, ByteArray.size_data] at inside
  omega

/-- An encoding that is short enough for the header leaves every count inside its word. -/
theorem fits_of_size (bounds : image.bounds ≠ []) (small : image.encode.size < UInt32.size) :
    image.Fits := by
  have blob := image.size_section_le 0 rfl
  have strings := image.size_section_le 1 rfl
  have tables := image.size_section_le 2 rfl
  have nodes := image.size_section_le 3 rfl
  have operands := image.size_section_le 4 rfl
  rw [size_entries length_encodeWord32] at strings
  rw [size_entries TableEntry.length_encode, tableEntrySize] at tables
  rw [size_entries EntryRange.length_encode, nodeEntrySize, Array.length_toList] at nodes
  rw [size_entries OperandEntry.length_encode, operandEntrySize, Array.length_toList] at operands
  exact ⟨by omega, bounds, by omega, by omega, by omega, by omega⟩

variable {image} (fits : image.Fits)

include fits

theorem toNat_blobSize : image.header.blobSize.toNat = image.blob.size :=
  UInt32.toNat_ofNat_of_lt' fits.blob

theorem toNat_stringCount : image.header.stringCount.toNat + 1 = image.bounds.length := by
  have present := List.length_pos_iff.2 fits.bounds
  have exact : image.header.stringCount.toNat = image.bounds.length - 1 :=
    UInt32.toNat_ofNat_of_lt' fits.strings
  omega

theorem toNat_tableCount : image.header.tableCount.toNat = image.tables.length :=
  UInt32.toNat_ofNat_of_lt' fits.tables

theorem toNat_nodeCount : image.header.nodeCount.toNat = image.nodes.toList.length :=
  UInt32.toNat_ofNat_of_lt' fits.nodes

theorem toNat_operandCount : image.header.operandCount.toNat = image.operands.toList.length :=
  UInt32.toNat_ofNat_of_lt' fits.operands

theorem stringTableStart_eq : image.header.stringTableStart = image.sectionStart 1 := by
  rw [image.sectionStart_succ 0 rfl, Header.stringTableStart, toNat_blobSize fits]
  rfl

theorem tablesStart_eq : image.header.tablesStart = image.sectionStart 2 := by
  rw [image.sectionStart_succ 1 rfl, Header.tablesStart, stringTableStart_eq fits,
    toNat_stringCount fits, size_entries length_encodeWord32]
  rfl

theorem nodesStart_eq : image.header.nodesStart = image.sectionStart 3 := by
  rw [image.sectionStart_succ 2 rfl, Header.nodesStart, tablesStart_eq fits,
    toNat_tableCount fits, size_entries TableEntry.length_encode]

theorem operandsStart_eq : image.header.operandsStart = image.sectionStart 4 := by
  rw [image.sectionStart_succ 3 rfl, Header.operandsStart, nodesStart_eq fits,
    toNat_nodeCount fits, size_entries EntryRange.length_encode]

theorem finish_eq : image.header.finish = image.encode.size := by
  rw [size_encode, image.sectionStart_succ 4 rfl, Header.finish, operandsStart_eq fits,
    toNat_operandCount fits, size_entries OperandEntry.length_encode]

/-- Reading the sections where the header of an encoded image puts them gives the image back. -/
theorem imageAt_encode : imageAt image.encode image.header = image := by
  have blob : image.encode.extract headerSize (headerSize + image.header.blobSize.toNat) =
      image.blob := by
    rw [toNat_blobSize fits]
    exact extract_eq_of_occursAt (image.section_occurs 0 rfl)
  have bounds_placed := image.section_occurs 1 rfl
  have tables_placed := image.section_occurs 2 rfl
  have nodes_placed := image.section_occurs 3 rfl
  have operands_placed := image.section_occurs 4 rfl
  rw [List.toList_data_toByteArray] at bounds_placed tables_placed nodes_placed operands_placed
  have bounds : entriesAt (word32At image.encode) image.header.stringTableStart
      (image.header.stringCount.toNat + 1) boundSize = image.bounds := by
    rw [toNat_stringCount fits, stringTableStart_eq fits]
    exact entriesAt_eq_of_occursAt length_encodeWord32
      (fun _ _ => word32At_eq_of_occursAt) bounds_placed
  have tables : entriesAt (tableEntryAt image.encode) image.header.tablesStart
      image.header.tableCount.toNat tableEntrySize = image.tables := by
    rw [toNat_tableCount fits, tablesStart_eq fits]
    exact entriesAt_eq_of_occursAt TableEntry.length_encode
      (fun _ _ => tableEntryAt_eq_of_occursAt) tables_placed
  have nodes : entriesAt (rangeAt image.encode) image.header.nodesStart
      image.header.nodeCount.toNat nodeEntrySize = image.nodes.toList := by
    rw [toNat_nodeCount fits, nodesStart_eq fits]
    exact entriesAt_eq_of_occursAt EntryRange.length_encode
      (fun _ _ => rangeAt_eq_of_occursAt) nodes_placed
  have operands : entriesAt (operandEntryAt image.encode) image.header.operandsStart
      image.header.operandCount.toNat operandEntrySize = image.operands.toList := by
    rw [toNat_operandCount fits, operandsStart_eq fits]
    exact entriesAt_eq_of_occursAt OperandEntry.length_encode
      (fun _ _ => operandEntryAt_eq_of_occursAt) operands_placed
  rw [imageAt, blob, bounds, tables, nodes, operands]

end Image

end ScriptMetadata.Container
