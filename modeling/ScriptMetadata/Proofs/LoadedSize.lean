import ScriptMetadata.Container
import ScriptMetadata.Proofs.Acceptance
import ScriptMetadata.Proofs.LogLines
import ScriptMetadata.Proofs.RoundTrip

/-!
How large a module can get that is loaded from a file of some size. Every range lies inside its
section, so no table and no row is longer than a section. Ranges may share entries, and each use of
an entry counts; where no entry is used twice, the module as a whole is no larger than its sections.
-/

set_option autoImplicit false

namespace ScriptMetadata.Container

def EntryRange.indices (range : EntryRange) : List Nat :=
  List.range' range.first.toNat range.count.toNat

namespace Image

variable (image : Image)

/-- The nodes that the tables use, table by table; a node that two tables share is listed twice. -/
def usedNodes : List Nat := image.tables.flatMap fun entry => entry.rows.indices

/-- The operands that the rows of the tables use, row by row. -/
def usedOperands : List Nat :=
  image.usedNodes.flatMap fun node => image.nodes[node]?.elim [] EntryRange.indices

variable {image : Image} {module : Module} (denotes : image.Denotes module)

theorem operands_of_hasRow {node : Nat} {row : Row} (described : image.HasRow node row) :
    List.Forall₂ image.HasOperand (image.nodes[node]?.elim [] EntryRange.indices) row := by
  rcases described with ⟨range, stored, -, cells⟩
  rw [stored]
  exact cells

theorem length_le_of_hasRow {node : Nat} {row : Row} (described : image.HasRow node row) :
    row.length ≤ image.operands.size := by
  rcases described with ⟨range, -, inside, cells⟩
  rw [EntryRange.stop] at inside
  have length := cells.length_eq
  rw [List.length_range'] at length
  omega

theorem length_le_of_hasTable {entry : TableEntry} {table : Table}
    (described : image.HasTable entry table) : table.rows.length ≤ image.nodes.size := by
  rcases described with ⟨-, inside, rows⟩
  rw [EntryRange.stop] at inside
  have length := rows.length_eq
  rw [List.length_range'] at length
  omega

theorem lt_size_of_hasOperand {index : Nat} {operand : Operand}
    (cell : image.HasOperand index operand) : index < image.operands.size := by
  cases cell with
  | text stored _ => exact (Array.getElem?_eq_some_iff.1 stored).1
  | integer stored => exact (Array.getElem?_eq_some_iff.1 stored).1

include denotes

/-- Each used node is a row of the module, as often as it is used. -/
theorem usedNodes_hasRow : List.Forall₂ image.HasRow image.usedNodes module.rows :=
  List.rel_flatMap denotes fun _ _ described => described.2.2

theorem usedOperands_hasOperand :
    List.Forall₂ image.HasOperand image.usedOperands module.rows.flatten := by
  rw [List.flatten_eq_flatMap]
  exact List.rel_flatMap (usedNodes_hasRow denotes) fun _ _ described =>
    operands_of_hasRow described

theorem length_rows_eq : module.rows.length = image.usedNodes.length :=
  (usedNodes_hasRow denotes).length_eq.symm

theorem length_operands_eq : module.rows.flatten.length = image.usedOperands.length :=
  (usedOperands_hasOperand denotes).length_eq.symm

theorem length_rows_le_of_mem {table : Table} (member : table ∈ module.tables) :
    table.rows.length ≤ image.nodes.size := by
  obtain ⟨entry, -, described⟩ := Outcome.exists_related_of_mem denotes.flip member
  exact length_le_of_hasTable described

theorem length_le_of_mem_rows {row : Row} (member : row ∈ module.rows) :
    row.length ≤ image.operands.size := by
  obtain ⟨node, -, described⟩ :=
    Outcome.exists_related_of_mem (usedNodes_hasRow denotes).flip member
  exact length_le_of_hasRow described

theorem usedNodes_lt : ∀ node ∈ image.usedNodes, node < image.nodes.size := by
  intro node member
  obtain ⟨row, -, range, stored, -⟩ :=
    Outcome.exists_related_of_mem (usedNodes_hasRow denotes) member
  exact (Array.getElem?_eq_some_iff.1 stored).1

theorem usedOperands_lt : ∀ index ∈ image.usedOperands, index < image.operands.size := by
  intro index member
  obtain ⟨operand, -, cell⟩ :=
    Outcome.exists_related_of_mem (usedOperands_hasOperand denotes) member
  exact lt_size_of_hasOperand cell

end Image

/-- Different positions below a limit are not more than the limit. -/
theorem length_le_of_nodup_of_lt {positions : List Nat} {limit : Nat} (distinct : positions.Nodup)
    (below : ∀ position ∈ positions, position < limit) : positions.length ≤ limit := by
  have subset : positions ⊆ List.range limit := fun _ member => List.mem_range.2 (below _ member)
  simpa using distinct.length_le_of_subset subset

theorem length_flatMap_le {α β : Type} {parts : List α} {content : α → List β} {limit : Nat}
    (bounded : ∀ part ∈ parts, (content part).length ≤ limit) :
    (parts.flatMap content).length ≤ parts.length * limit := by
  induction parts with
  | nil => exact Nat.zero_le _
  | cons part rest induction =>
      have head := bounded part List.mem_cons_self
      have tail := induction fun other member => bounded other (List.mem_cons_of_mem part member)
      rw [List.flatMap_cons, List.length_append, List.length_cons, Nat.succ_mul]
      omega

theorem read_eq_ok_of_load {options : LoadOptions} {bytes : ByteArray} {header : Header}
    {module : Module} (decoded : Header.decode bytes = .ok header)
    (loaded : load options bytes = .ok module) : read options bytes = .ok (header, module) := by
  obtain ⟨validated, inside, resolved⟩ := (load_eq_ok_iff_of_decode decoded).1 loaded
  rw [read_eq_of_decode decoded, validated, resolved, if_neg (Nat.not_lt.2 inside)]
  rfl

theorem events_loadLogged {options : LoadOptions} {bytes : ByteArray} {header : Header}
    {module : Module} (answered : read options bytes = .ok (header, module)) :
    (loadLogged options bytes).events =
      [.moduleLoaded header.tableCount header.nodeCount header.operandCount] := by
  rw [loadLogged, answered]
  rfl

/-- A module that was loaded has the tables that the header counts and the loader logs. No table of
it and no row is longer than its section; together they are no longer, and no longer than the
file, when no entry is used twice. -/
theorem load_within_declared (options : LoadOptions) (bytes : ByteArray) (module : Module)
    (loaded : load options bytes = .ok module) :
    ∃ header, Header.decode bytes = .ok header ∧
      (loadLogged options bytes).events =
        [.moduleLoaded header.tableCount header.nodeCount header.operandCount] ∧
      (loadLogged options bytes).lines =
        [(.debug, sentence ["loaded", "module:", numeral header.tableCount.toNat, "tables,",
          numeral header.nodeCount.toNat, "nodes,", numeral header.operandCount.toNat,
          "operands"])] ∧
      module.size = header.tableCount.toNat ∧
      (∀ table ∈ module.tables, table.rows.length ≤ header.nodeCount.toNat) ∧
      (∀ row ∈ module.rows, row.length ≤ header.operandCount.toNat) ∧
      module.rows.length ≤ header.tableCount.toNat * header.nodeCount.toNat ∧
      module.rows.flatten.length ≤ module.rows.length * header.operandCount.toNat ∧
      ((storedImage bytes).usedNodes.Nodup → module.rows.length ≤ header.nodeCount.toNat) ∧
      ((storedImage bytes).usedOperands.Nodup →
        module.rows.flatten.length ≤ header.operandCount.toNat) ∧
      ((storedImage bytes).usedNodes.Nodup → (storedImage bytes).usedOperands.Nodup →
        headerSize + module.size * tableEntrySize + module.rows.length * nodeEntrySize +
          module.rows.flatten.length * operandEntrySize ≤ bytes.size) := by
  have decoded := Header.decode_eq_ok (complete_of_load loaded)
  obtain ⟨accepted, denotes⟩ := load_eq_ok_iff_denotes.1 loaded
  obtain ⟨-, tables, nodes, operands⟩ := counts_storedImage bytes
  have size : module.size = (headerAt bytes).tableCount.toNat :=
    tables ▸ denotes.length_eq.symm
  have rows : (storedImage bytes).usedNodes.Nodup →
      module.rows.length ≤ (headerAt bytes).nodeCount.toNat := by
    intro distinct
    rw [Image.length_rows_eq denotes, ← nodes]
    exact length_le_of_nodup_of_lt distinct (Image.usedNodes_lt denotes)
  have cells : (storedImage bytes).usedOperands.Nodup →
      module.rows.flatten.length ≤ (headerAt bytes).operandCount.toNat := by
    intro distinct
    rw [Image.length_operands_eq denotes, ← operands]
    exact length_le_of_nodup_of_lt distinct (Image.usedOperands_lt denotes)
  have events := events_loadLogged (read_eq_ok_of_load decoded loaded)
  refine ⟨headerAt bytes, decoded, events, ?_, size, ?_, ?_, ?_, ?_, rows, cells, ?_⟩
  · rw [Logged.lines_eq_spelled, events]
    rfl
  · intro table member
    exact nodes ▸ Image.length_rows_le_of_mem denotes member
  · intro row member
    exact operands ▸ Image.length_le_of_mem_rows denotes member
  · rw [← size, ← nodes]
    exact length_flatMap_le fun table member => Image.length_rows_le_of_mem denotes member
  · rw [List.flatten_eq_flatMap, ← operands]
    exact length_flatMap_le fun row member => Image.length_le_of_mem_rows denotes member
  · intro distinctNodes distinctOperands
    have rowsBelow := rows distinctNodes
    have cellsBelow := cells distinctOperands
    have inside := accepted.sections
    obtain ⟨blob, stringTable, tables, nodes, operands⟩ := (headerAt bytes).sectionsOrdered
    simp only [tableEntrySize, nodeEntrySize, operandEntrySize] at *
    omega

/-- Two tables of two rows each, behind them a row that no table uses. -/
def spareRow : Image where
  blob := "ab".toUTF8
  bounds := [0, 1, 2]
  tables := [⟨0, ⟨0, 2⟩⟩, ⟨1, ⟨2, 2⟩⟩]
  nodes := #[⟨1, 1⟩, ⟨0, 1⟩, ⟨2, 0⟩, ⟨2, 1⟩, ⟨0, 3⟩]
  operands := #[⟨integerTag, 7⟩, ⟨textTag, 1⟩, ⟨textTag, 0⟩]

theorem spareRow_within_declared :
    ∃ module, load {} spareRow.encode = .ok module ∧ (storedImage spareRow.encode).usedNodes.Nodup ∧
      (storedImage spareRow.encode).usedOperands.Nodup ∧
      64 + module.size * 16 + module.rows.length * 8 + module.rows.flatten.length * 16 ≤ 384 := by
  have size : spareRow.encode.size = 384 := by decide +kernel
  obtain ⟨module, resolved⟩ : ∃ module, spareRow.resolve = .ok module := ⟨_, rfl⟩
  have loaded : load {} spareRow.encode = .ok module :=
    load_encode {} (by decide) (by rw [size]; decide) resolved
  have nodes : (storedImage spareRow.encode).usedNodes.Nodup := by decide +kernel
  have operands : (storedImage spareRow.encode).usedOperands.Nodup := by decide +kernel
  obtain ⟨header, -, -, -, -, -, -, -, -, -, -, inside⟩ :=
    load_within_declared {} spareRow.encode module loaded
  exact ⟨module, loaded, nodes, operands, size ▸ inside nodes operands⟩

/-- Two tables that share the only row. -/
def sharedRow : Image where
  blob := "ab".toUTF8
  bounds := [0, 1, 2]
  tables := [⟨0, ⟨0, 1⟩⟩, ⟨1, ⟨0, 1⟩⟩]
  nodes := #[⟨0, 1⟩]
  operands := #[⟨integerTag, 7⟩]

/-- The file declares one row of one operand and loads as two. -/
theorem load_sharedRow_exceeds_declared :
    ∃ header module, Header.decode sharedRow.encode = .ok header ∧
      load {} sharedRow.encode = .ok module ∧ header.nodeCount = 1 ∧ header.operandCount = 1 ∧
      module.rows.length = 2 ∧ module.rows.flatten.length = 2 := by
  have small : sharedRow.encode.size < UInt32.size := by decide +kernel
  refine ⟨sharedRow.header, .ofTables [⟨"a", [[.integer 7]]⟩, ⟨"b", [[.integer 7]]⟩],
    decode_encode sharedRow, load_encode {} (by decide) small ?_, rfl, rfl, by decide, by decide⟩
  decide +kernel

end ScriptMetadata.Container
