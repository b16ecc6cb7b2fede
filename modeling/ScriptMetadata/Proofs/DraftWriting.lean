import ScriptMetadata.Container.Draft
import ScriptMetadata.Proofs.EmittedImage

/-!
The one pass over a module writes the file of its image. The invariant says what the draft holds
after some of the tables: the strings used so far without repetitions, and in each section the
entries of what has been added, with the ids that the strings have in the end.
-/

set_option autoImplicit false

namespace ScriptMetadata.Container

open LittleEndian

/-! ### Strings in the order of their use -/

theorem eraseDups_append_singleton (uses : List String) (value : String) :
    (uses ++ [value]).eraseDups =
      if value ∈ uses then uses.eraseDups else uses.eraseDups ++ [value] := by
  rw [List.eraseDups_append]
  split
  · rename_i used
    simp [List.removeAll, used]
  · rename_i fresh
    simp [List.removeAll, fresh, List.eraseDups_cons]

/-- An id does not change when more strings are used. -/
theorem stringId_eraseDups {uses history : List String} (front : uses <+: history) {value : String}
    (used : value ∈ uses) : stringId uses.eraseDups value = stringId history.eraseDups value := by
  obtain ⟨later, rfl⟩ := front
  rw [List.eraseDups_append, stringId_append_of_mem (List.mem_eraseDups.2 used)]

theorem consecutive_append (first : Nat) (counts more : List Nat) :
    EntryRange.consecutive first (counts ++ more) =
      EntryRange.consecutive first counts ++ EntryRange.consecutive (first + counts.sum) more := by
  induction counts generalizing first with
  | nil => rfl
  | cons count rest induction =>
      rw [List.cons_append, EntryRange.consecutive, EntryRange.consecutive, induction,
        List.cons_append, List.sum_cons, Nat.add_assoc]

namespace StringPool

variable {pool : StringPool} {uses : List String}

/-- Interning a string makes it one of the strings used, and answers with its id. -/
theorem intern_eq (holds : pool.strings.toList = uses.eraseDups) (value : String) :
    (pool.intern value).2.strings.toList = (uses ++ [value]).eraseDups ∧
      (pool.intern value).1 = stringId (uses ++ [value]).eraseDups value := by
  rw [eraseDups_append_singleton]
  by_cases used : value ∈ uses
  · rw [intern_of_mem (holds ▸ List.mem_eraseDups.2 used), if_pos used, holds]
    exact ⟨rfl, rfl⟩
  · have fresh : value ∉ pool.strings.toList := by
      rw [holds, List.mem_eraseDups]
      exact used
    rw [intern_of_not_mem fresh, if_neg used, ← holds, stringId_append_singleton fresh]
    exact ⟨Array.toList_push, congrArg UInt32.ofNat Array.length_toList.symm⟩

end StringPool

/-! ### What one step adds to a draft -/

namespace Draft

/-- What has been added: uses of strings, table entries, node ranges and operands. The ids are those
of the whole history of uses. -/
structure Holds (history : List String) (draft : Draft) (uses : List String)
    (entries : List TableEntry) (ranges : List EntryRange) (cells : List Operand) : Prop where
  strings : draft.pool.strings.toList = uses.eraseDups
  tables : draft.tables.data.toList = entries.flatMap TableEntry.encode
  nodes : draft.nodes.data.toList = ranges.flatMap EntryRange.encode
  operands : draft.operands.data.toList =
    (cells.map (OperandEntry.ofOperand history.eraseDups)).flatMap OperandEntry.encode
  nodeCount : draft.nodeCount = UInt32.ofNat ranges.length
  operandCount : draft.operandCount = UInt32.ofNat cells.length

theorem toList_append_toByteArray (bytes : ByteArray) (added : List UInt8) :
    (bytes ++ added.toByteArray).data.toList = bytes.data.toList ++ added := by
  rw [ByteArray.toList_data_append, List.toList_data_toByteArray]

theorem ofNat_length_concat {α : Type} (values : List α) (value : α) :
    UInt32.ofNat (values ++ [value]).length = UInt32.ofNat values.length + 1 := by
  rw [List.length_append, List.length_singleton, UInt32.ofNat_add]
  rfl

namespace Holds

variable {history uses : List String} {draft : Draft} {entries : List TableEntry}
  {ranges : List EntryRange} {cells : List Operand}
  (holds : Holds history draft uses entries ranges cells)

include holds

theorem intern (value : String) :
    Holds history { draft with pool := (draft.pool.intern value).2 } (uses ++ [value]) entries
      ranges cells :=
  { holds with strings := (StringPool.intern_eq holds.strings value).1 }

theorem id_eq {value : String} (front : uses ++ [value] <+: history) :
    (draft.pool.intern value).1 = stringId history.eraseDups value := by
  rw [(StringPool.intern_eq holds.strings value).2]
  exact stringId_eraseDups front (List.mem_append_right uses List.mem_cons_self)

theorem addEntry (cell : Operand) :
    Holds history (draft.addEntry (.ofOperand history.eraseDups cell)) uses entries ranges
      (cells ++ [cell]) :=
  { holds with
    operands := by
      rw [Draft.addEntry, toList_append_toByteArray, holds.operands, List.map_append,
        List.flatMap_append, List.map_singleton, List.flatMap_singleton]
    operandCount := by rw [Draft.addEntry, holds.operandCount, ofNat_length_concat] }

theorem addOperand {cell : Operand} (front : uses ++ cell.text?.toList <+: history) :
    Holds history (draft.addOperand cell) (uses ++ cell.text?.toList) entries ranges
      (cells ++ [cell]) := by
  cases cell with
  | text value =>
      have added := (holds.intern value).addEntry (.text value)
      -- the id comes from the strings so far; those that follow do not move it
      rw [OperandEntry.ofOperand, ← holds.id_eq front] at added
      exact added
  | integer value =>
      have added := holds.addEntry (.integer value)
      rw [Operand.text?, Option.toList_none, List.append_nil]
      exact added

theorem addNode (size : Nat) :
    Holds history (draft.addNode size) uses entries
      (ranges ++ [⟨UInt32.ofNat cells.length, UInt32.ofNat size⟩]) cells :=
  { holds with
    nodes := by
      rw [Draft.addNode, toList_append_toByteArray, holds.nodes, holds.operandCount,
        List.flatMap_append, List.flatMap_singleton]
    nodeCount := by rw [Draft.addNode, holds.nodeCount, ofNat_length_concat] }

theorem addName {name : String} (front : uses ++ [name] <+: history) (size : Nat) :
    Holds history (draft.addName name size) (uses ++ [name])
      (entries ++ [⟨stringId history.eraseDups name,
        ⟨UInt32.ofNat ranges.length, UInt32.ofNat size⟩⟩]) ranges cells :=
  { holds.intern name with
    tables := by
      rw [Draft.addName, toList_append_toByteArray, holds.tables, holds.nodeCount,
        holds.id_eq front, List.flatMap_append, List.flatMap_singleton] }

end Holds

/-! ### Runs of steps -/

theorem filterMap_cons_text? (cell : Operand) (rest : List Operand) :
    (cell :: rest).filterMap Operand.text? = cell.text?.toList ++ rest.filterMap Operand.text? := by
  cases cell <;> rfl

section Runs

variable {history : List String} {entries : List TableEntry}

theorem holds_foldl_addOperand {row : List Operand} {draft : Draft} {uses : List String}
    {ranges : List EntryRange} {cells : List Operand}
    (holds : Holds history draft uses entries ranges cells)
    (front : uses ++ row.filterMap Operand.text? <+: history) :
    Holds history (row.foldl Draft.addOperand draft) (uses ++ row.filterMap Operand.text?) entries
      ranges (cells ++ row) := by
  induction row generalizing draft uses cells with
  | nil => simpa using holds
  | cons cell rest induction =>
      rw [filterMap_cons_text?, ← List.append_assoc] at front ⊢
      rw [List.foldl_cons, List.append_cons]
      exact induction (holds.addOperand ((List.prefix_append _ _).trans front)) front

theorem Holds.addRow {row : Row} {draft : Draft} {uses : List String}
    {ranges : List EntryRange} {cells : List Operand}
    (holds : Holds history draft uses entries ranges cells)
    (front : uses ++ row.filterMap Operand.text? <+: history) :
    Holds history (draft.addRow row) (uses ++ row.filterMap Operand.text?) entries
      (ranges ++ [⟨UInt32.ofNat cells.length, UInt32.ofNat row.length⟩]) (cells ++ row) :=
  holds_foldl_addOperand (holds.addNode row.length) front

theorem holds_foldl_addRow {rows : List Row} {draft : Draft} {uses : List String}
    {ranges : List EntryRange} {cells : List Operand}
    (holds : Holds history draft uses entries ranges cells)
    (front : uses ++ rows.flatten.filterMap Operand.text? <+: history) :
    Holds history (rows.foldl Draft.addRow draft)
      (uses ++ rows.flatten.filterMap Operand.text?) entries
      (ranges ++ EntryRange.consecutive cells.length (rows.map List.length))
      (cells ++ rows.flatten) := by
  induction rows generalizing draft uses ranges cells with
  | nil => simpa [EntryRange.consecutive] using holds
  | cons row rest induction =>
      rw [List.flatten_cons, List.filterMap_append, ← List.append_assoc] at front ⊢
      have added := induction (holds.addRow ((List.prefix_append _ _).trans front)) front
      rw [List.length_append, List.append_assoc ranges, List.append_assoc cells] at added
      exact added

theorem Holds.addTable {table : Table} {draft : Draft} {uses : List String}
    {ranges : List EntryRange} {cells : List Operand}
    (holds : Holds history draft uses entries ranges cells)
    (front : uses ++ table.strings <+: history) :
    Holds history (draft.addTable table) (uses ++ table.strings)
      (entries ++ [⟨stringId history.eraseDups table.name,
        ⟨UInt32.ofNat ranges.length, UInt32.ofNat table.rows.length⟩⟩])
      (ranges ++ EntryRange.consecutive cells.length (table.rows.map List.length))
      (cells ++ table.rows.flatten) := by
  rw [Table.strings, List.append_cons] at front ⊢
  have named := holds.addName ((List.prefix_append _ _).trans front) table.rows.length
  exact holds_foldl_addRow named front

end Runs

/-- The entries of tables whose rows come one after the other from a node on. -/
def entriesFrom (history : List String) (first : Nat) (tables : List Table) : List TableEntry :=
  (tables.zip (EntryRange.consecutive first (tables.map (·.rows.length)))).map
    fun (table, rows) => ⟨stringId history.eraseDups table.name, rows⟩

theorem holds_foldl_addTable {history : List String} {tables : List Table} {draft : Draft}
    {uses : List String} {entries : List TableEntry} {ranges : List EntryRange}
    {cells : List Operand} (holds : Holds history draft uses entries ranges cells)
    (front : uses ++ tables.flatMap Table.strings <+: history) :
    Holds history (tables.foldl Draft.addTable draft) (uses ++ tables.flatMap Table.strings)
      (entries ++ entriesFrom history ranges.length tables)
      (ranges ++ EntryRange.consecutive cells.length
        ((tables.flatMap Table.rows).map List.length))
      (cells ++ (tables.flatMap Table.rows).flatten) := by
  induction tables generalizing draft uses entries ranges cells with
  | nil => simpa [entriesFrom, EntryRange.consecutive] using holds
  | cons table rest induction =>
      rw [List.flatMap_cons, ← List.append_assoc] at front ⊢
      have added := induction (holds.addTable ((List.prefix_append _ _).trans front)) front
      -- the counts so far are the lengths of the sections so far, where the next ranges start
      rw [List.length_append, EntryRange.length_consecutive, List.length_map, List.length_append,
        List.length_flatten, List.append_assoc entries, List.append_assoc ranges,
        List.append_assoc cells, ← consecutive_append, ← List.map_append, ← List.flatten_append]
        at added
      exact added

theorem holds_ofModule (module : Module) :
    Holds (module.tables.flatMap Table.strings) (ofModule module)
      (module.tables.flatMap Table.strings) (Image.ofModule module).tables
      (EntryRange.consecutive 0 (module.rows.map List.length)) module.rows.flatten := by
  have start : Holds (module.tables.flatMap Table.strings) {} [] [] [] [] :=
    ⟨rfl, rfl, rfl, rfl, rfl, rfl⟩
  exact holds_foldl_addTable start (List.prefix_refl _)

end Draft

/-! ### The sections -/

theorem eq_toByteArray {bytes : ByteArray} {values : List UInt8}
    (same : bytes.data.toList = values) : bytes = values.toByteArray := by
  apply eq_of_toList_eq
  rw [same, List.toList_data_toByteArray]

namespace StringPool

theorem foldl_addBound (strings : List String) (blob bounds : ByteArray) :
    let stored := strings.foldl
      (fun (blob, bounds) value => (blob ++ value.toUTF8, addBound bounds blob)) (blob, bounds)
    stored.1 = strings.foldl (fun blob value => blob ++ value.toUTF8) blob ∧
      addBound stored.2 stored.1 = bounds ++
        ((boundsFrom blob.size (strings.map String.utf8ByteSize)).flatMap
          encodeWord32).toByteArray := by
  induction strings generalizing blob bounds with
  | nil =>
      refine ⟨rfl, ?_⟩
      rw [List.map_nil, boundsFrom, List.flatMap_singleton]
      rfl
  | cons value rest induction =>
      obtain ⟨joined, noted⟩ := induction (blob ++ value.toUTF8) (addBound bounds blob)
      refine ⟨joined, ?_⟩
      rw [List.map_cons, boundsFrom, List.flatMap_cons, List.toByteArray_append,
        ← ByteArray.append_assoc]
      rw [ByteArray.size_append] at noted
      exact noted

theorem contents_ofModule (module : Module) :
    (Draft.ofModule module).pool.contents = ((Image.ofModule module).blob,
      ((Image.ofModule module).bounds.flatMap encodeWord32).toByteArray) := by
  obtain ⟨joined, noted⟩ := foldl_addBound module.strings ByteArray.empty ByteArray.empty
  rw [contents, ← Array.foldl_toList, (Draft.holds_ofModule module).strings]
  rw [ByteArray.empty_append] at noted
  exact Prod.ext joined noted

end StringPool

namespace Draft

variable (module : Module)

theorem sections_ofModule : (ofModule module).sections = (Image.ofModule module).sections := by
  have holds := holds_ofModule module
  rw [sections, StringPool.contents_ofModule, eq_toByteArray holds.tables,
    eq_toByteArray holds.nodes, eq_toByteArray holds.operands]
  rfl

/-- The counts of the pass are those of the image; checksum and size are filled in later. -/
theorem header_ofModule : { (ofModule module).header module.size with
    totalSize := (Image.ofModule module).header.totalSize
    checksum := (Image.ofModule module).header.checksum } = (Image.ofModule module).header := by
  have holds := holds_ofModule module
  have strings :
      (ofModule module).pool.strings.size = (Image.ofModule module).bounds.length - 1 := by
    rw [← Array.length_toList, holds.strings, Image.ofModule, length_boundsFrom, List.length_map]
    rfl
  have tables : module.size = (Image.ofModule module).tables.length := by
    simp [Image.ofModule, Module.size]
  have nodes : (ofModule module).nodeCount = (Image.ofModule module).header.nodeCount :=
    holds.nodeCount
  have operands : (ofModule module).operandCount = (Image.ofModule module).header.operandCount := by
    rw [holds.operandCount, Image.header, Image.size_operands]
  rw [header, strings, tables, nodes, operands, StringPool.contents_ofModule]
  rfl

end Draft

/-! ### The file -/

theorem padding_eq_zero {size : Nat} (aligned : size % sectionAlign = 0) : padding size = 0 := by
  rw [padding, aligned]
  rfl

theorem pad_eq_self {content : ByteArray} (aligned : content.size % sectionAlign = 0) :
    pad content = content := by
  rw [pad, padding_eq_zero aligned]
  exact ByteArray.append_empty

theorem size_pad_mod (content : ByteArray) : (pad content).size % sectionAlign = 0 := by
  rw [size_pad, padding, sectionAlign]
  omega

/-- Behind a filled section the next one is filled by the same number of zeros as alone. -/
theorem pad_append {front : ByteArray} (aligned : front.size % sectionAlign = 0)
    (content : ByteArray) : pad (front ++ content) = front ++ pad content := by
  have same : padding (front ++ content).size = padding content.size := by
    rw [ByteArray.size_append, padding, padding, Nat.add_mod, aligned, Nat.zero_add, Nat.mod_mod]
  rw [pad, same, ByteArray.append_assoc]
  rfl

namespace Output

theorem pad_place (output : Output) (content : ByteArray) :
    pad (output.place content).bytes = pad output.bytes ++ pad content :=
  pad_append (size_pad_mod output.bytes) content

theorem pad_foldl_place (contents : List ByteArray) (output : Output) :
    pad (contents.foldl place output).bytes =
      (contents.map pad).foldl (· ++ ·) (pad output.bytes) := by
  induction contents generalizing output with
  | nil => rfl
  | cons content rest induction =>
      rw [List.foldl_cons, induction, pad_place]
      rfl

/-- A section starts behind what was there and the filled sections before it. -/
theorem starts_foldl_place (contents : List ByteArray) (output : Output) :
    (contents.foldl place output).starts = output.starts ++
      (List.range contents.length).map fun index => UInt32.ofNat ((pad output.bytes).size +
        ((contents.take index).map fun content => (pad content).size).sum) := by
  induction contents generalizing output with
  | nil => exact (List.append_nil _).symm
  | cons content rest induction =>
      have placed : (output.place content).starts =
          output.starts ++ [UInt32.ofNat (pad output.bytes).size] := rfl
      rw [List.foldl_cons, induction, pad_place, ByteArray.size_append, placed, List.length_cons,
        List.range_succ_eq_map, List.map_cons, List.map_map, List.append_assoc,
        List.singleton_append]
      congr 3
      funext index
      simp [Nat.add_assoc]

theorem size_blank : blank.bytes.size = headerSize := by
  rw [blank, List.size_toByteArray, List.length_replicate]

theorem pad_blank : pad blank.bytes = blank.bytes := by
  apply pad_eq_self
  rw [size_blank]
  rfl

end Output

theorem concat_eq_append (parts : List ByteArray) (first : ByteArray) :
    parts.foldl (· ++ ·) first = first ++ parts.foldl (· ++ ·) ByteArray.empty := by
  apply eq_of_toList_eq
  rw [ByteArray.toList_data_append, toList_concat, toList_concat parts ByteArray.empty]
  rfl

/-- The sections behind the blank header, filled up. -/
theorem pad_written_sections (module : Module) :
    pad ((Draft.ofModule module).sections.foldl Output.place .blank).bytes =
      Output.blank.bytes ++ (Image.ofModule module).body := by
  rw [Output.pad_foldl_place, Output.pad_blank, Draft.sections_ofModule, concat_eq_append]
  rfl

/-- The one pass writes the bytes of the image. -/
theorem write_bytes (module : Module) : (write module).bytes = emit module := by
  have body : (Output.blank.bytes ++ (Image.ofModule module).body).extract headerSize
      (Output.blank.bytes ++ (Image.ofModule module).body).size = (Image.ofModule module).body :=
    ByteArray.extract_append_eq_right Output.size_blank.symm ByteArray.size_append
  have header := Draft.header_ofModule module
  rw [write, Output.finish, pad_written_sections, body, ByteArray.size_append, Output.size_blank]
  exact congrArg (fun header : Header => header.encode ++ (Image.ofModule module).body) header

/-- The sections are put where the image has them; the offsets are taken modulo their word. -/
theorem write_starts (module : Module) : (write module).starts =
    (List.range 5).map fun index => UInt32.ofNat ((Image.ofModule module).sectionStart index) := by
  have starts := Output.starts_foldl_place (Image.ofModule module).sections .blank
  rw [Output.pad_blank, Output.size_blank] at starts
  rw [write, Output.finish, Draft.sections_ofModule]
  exact starts

end ScriptMetadata.Container
