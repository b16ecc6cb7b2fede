import ScriptMetadata.Proofs.Denotation
import ScriptMetadata.Proofs.ImageReading

/-!
Images that begin with what another image stores. References are positions counted from the front of
a section, so what the shorter image says the longer one says too. Two headers that let the sections
of one file start at the same places give such a pair of images.
-/

set_option autoImplicit false

namespace ScriptMetadata.Container

open LittleEndian

theorem extract_eq_of_front {part whole : ByteArray}
    (front : part.data.toList <+: whole.data.toList) {start stop : Nat}
    (inside : stop ≤ part.size) : whole.extract start stop = part.extract start stop := by
  obtain ⟨rest, same⟩ := front
  have length : part.data.toList.length = part.size := rfl
  apply eq_of_toList_eq
  rw [toList_extract, toList_extract, ← same]
  by_cases ordered : start ≤ stop
  · rw [List.drop_append_of_le_length (by omega),
      List.take_append_of_le_length (by rw [List.length_drop]; omega)]
  · rw [Nat.sub_eq_zero_of_le (by omega), List.take_zero, List.take_zero]

theorem getElem?_of_front {α : Type} {part whole : List α} (front : part <+: whole) {index : Nat}
    {value : α} (found : part[index]? = some value) : whole[index]? = some value := by
  obtain ⟨rest, rfl⟩ := front
  rwa [List.getElem?_append_left (List.getElem?_eq_some_iff.1 found).1]

namespace Image

/-- Each section that references point into is the front of the same section of the other image. -/
structure Within (image longer : Image) : Prop where
  blob : image.blob.data.toList <+: longer.blob.data.toList
  bounds : image.bounds <+: longer.bounds
  nodes : image.nodes.toList <+: longer.nodes.toList
  operands : image.operands.toList <+: longer.operands.toList

namespace Within

variable {image longer : Image} (within : image.Within longer)

include within

theorem size_blob_le : image.blob.size ≤ longer.blob.size := within.blob.length_le

theorem size_nodes_le : image.nodes.size ≤ longer.nodes.size := within.nodes.length_le

theorem size_operands_le : image.operands.size ≤ longer.operands.size :=
  within.operands.length_le

theorem getElem?_nodes {node : Nat} {range : EntryRange}
    (stored : image.nodes[node]? = some range) : longer.nodes[node]? = some range := by
  rw [← Array.getElem?_toList] at stored ⊢
  exact getElem?_of_front within.nodes stored

theorem getElem?_operands {index : Nat} {entry : OperandEntry}
    (stored : image.operands[index]? = some entry) : longer.operands[index]? = some entry := by
  rw [← Array.getElem?_toList] at stored ⊢
  exact getElem?_of_front within.operands stored

theorem hasText {id : Nat} {value : String} (text : image.HasText id value) :
    longer.HasText id value := by
  rcases text with ⟨start, stop, started, stopped, ordered, inside, content⟩
  refine ⟨start, stop, getElem?_of_front within.bounds started,
    getElem?_of_front within.bounds stopped, ordered,
    Nat.le_trans inside within.size_blob_le, ?_⟩
  rw [extract_eq_of_front within.blob inside, content]

theorem hasOperand {index : Nat} {operand : Operand} (cell : image.HasOperand index operand) :
    longer.HasOperand index operand := by
  cases cell with
  | text stored found => exact .text (within.getElem?_operands stored) (within.hasText found)
  | integer stored => exact .integer (within.getElem?_operands stored)

theorem hasRow {node : Nat} {row : Row} (described : image.HasRow node row) :
    longer.HasRow node row := by
  rcases described with ⟨range, stored, inside, cells⟩
  exact ⟨range, within.getElem?_nodes stored, Nat.le_trans inside within.size_operands_le,
    cells.imp fun _ _ => within.hasOperand⟩

theorem hasTable {entry : TableEntry} {table : Table} (described : image.HasTable entry table) :
    longer.HasTable entry table := by
  rcases described with ⟨named, inside, rows⟩
  exact ⟨within.hasText named, Nat.le_trans inside within.size_nodes_le,
    rows.imp fun _ _ => within.hasRow⟩

/-- The string table is not shorter, so every text of the other image is one of this image. -/
theorem textsValid (bounds : longer.bounds.length ≤ image.bounds.length)
    (texts : image.TextsValid) : longer.TextsValid := by
  intro id below
  obtain ⟨value, text⟩ := texts id (Nat.lt_of_lt_of_le below bounds)
  exact ⟨value, within.hasText text⟩

variable (tables : image.tables = longer.tables)

include tables

theorem denotes {module : Module} (described : image.Denotes module) : longer.Denotes module := by
  rw [Denotes, ← tables]
  exact described.imp fun _ _ => within.hasTable

/-- Where both images resolve, they resolve to the same module. -/
theorem resolve_eq (addressable : image.Addressable) (addressable' : longer.Addressable)
    {module other : Module} (first : image.resolve = .ok module)
    (second : longer.resolve = .ok other) : other = module := by
  have described := ((resolve_eq_ok_iff addressable).1 first).2
  have texts := ((resolve_eq_ok_iff addressable').1 second).1
  have again := (resolve_eq_ok_iff addressable').2 ⟨texts, within.denotes tables described⟩
  exact Except.ok.inj (second.symm.trans again)

end Within

end Image

/-! ### Headers over one file -/

namespace Header

/-- No section that references point into has more entries under the first header. -/
structure CountsLe (header other : Header) : Prop where
  blobSize : header.blobSize ≤ other.blobSize
  stringCount : header.stringCount ≤ other.stringCount
  nodeCount : header.nodeCount ≤ other.nodeCount
  operandCount : header.operandCount ≤ other.operandCount

structure SameStarts (header other : Header) : Prop where
  stringTable : header.stringTableStart = other.stringTableStart
  tables : header.tablesStart = other.tablesStart
  nodes : header.nodesStart = other.nodesStart
  operands : header.operandsStart = other.operandsStart

end Header

theorem imageAt_within (bytes : ByteArray) {header other : Header}
    (starts : header.SameStarts other) (counts : header.CountsLe other) :
    (imageAt bytes header).Within (imageAt bytes other) := by
  constructor
  · have larger : header.blobSize.toNat ≤ other.blobSize.toNat := counts.blobSize
    simp only [imageAt, toList_extract, Nat.add_sub_cancel_left]
    exact List.take_prefix_take_left larger
  · rw [imageAt, imageAt, starts.stringTable]
    exact entriesAt_front _ _ _ (Nat.succ_le_succ counts.stringCount)
  · rw [imageAt, imageAt, starts.nodes]
    exact entriesAt_front _ _ _ counts.nodeCount
  · rw [imageAt, imageAt, starts.operands]
    exact entriesAt_front _ _ _ counts.operandCount

theorem addressable_imageAt (bytes : ByteArray) (header : Header) :
    (imageAt bytes header).Addressable := by
  constructor
  · rw [imageAt, List.size_toArray, length_entriesAt]
    exact header.nodeCount.toNat_lt
  · rw [imageAt, List.size_toArray, length_entriesAt]
    exact header.operandCount.toNat_lt

/-- Sections that start at the same places cannot hold two different modules of as many tables. -/
theorem resolve_imageAt_eq (bytes : ByteArray) {header other : Header}
    (starts : header.SameStarts other) (counts : header.CountsLe other)
    (tables : header.tableCount = other.tableCount) {module module' : Module}
    (first : (imageAt bytes header).resolve = .ok module)
    (second : (imageAt bytes other).resolve = .ok module') : module' = module := by
  have same : (imageAt bytes header).tables = (imageAt bytes other).tables := by
    rw [imageAt, imageAt, starts.tables, tables]
  exact (imageAt_within bytes starts counts).resolve_eq same (addressable_imageAt bytes header)
    (addressable_imageAt bytes other) first second

end ScriptMetadata.Container
