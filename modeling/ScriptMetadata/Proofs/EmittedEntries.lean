import ScriptMetadata.Proofs.LoadedSize

/-!
What stands at single places of an emitted image: the first string is the name of the first table,
the tables use every node once, a bound of the string table is almost as large as its position, and
behind the last table there is nothing but zeros.
-/

set_option autoImplicit false

namespace ScriptMetadata.Container

open LittleEndian

/-! ### Distinct strings -/

theorem nodup_eraseDups {α : Type} [DecidableEq α] (values : List α) :
    values.eraseDups.Nodup := by
  cases values with
  | nil => exact List.nodup_nil
  | cons value rest =>
      rw [List.eraseDups_cons, List.nodup_cons]
      constructor
      · simp
      · exact nodup_eraseDups _
termination_by values.length
decreasing_by
  have shorter := List.length_filter_le (fun other => !other == value) rest
  rw [List.length_cons]
  omega

theorem length_le_sum_of_ne_empty {strings : List String}
    (nonempty : ∀ value ∈ strings, value ≠ "") :
    strings.length ≤ (strings.map String.utf8ByteSize).sum := by
  induction strings with
  | nil => exact Nat.zero_le _
  | cons value rest induction =>
      have tail := induction fun other member => nonempty other (List.mem_cons_of_mem value member)
      have head : value.utf8ByteSize ≠ 0 := fun size =>
        nonempty value List.mem_cons_self (String.utf8ByteSize_eq_zero_iff.1 size)
      rw [List.length_cons, List.map_cons, List.sum_cons]
      omega

/-- Of different strings only one can be empty. -/
theorem length_le_sum_add_one {strings : List String} (distinct : strings.Nodup) :
    strings.length ≤ (strings.map String.utf8ByteSize).sum + 1 := by
  induction strings with
  | nil => exact Nat.zero_le _
  | cons value rest induction =>
      obtain ⟨fresh, others⟩ := List.nodup_cons.1 distinct
      rw [List.length_cons, List.map_cons, List.sum_cons]
      by_cases empty : value = ""
      · have tail : rest.length ≤ (rest.map String.utf8ByteSize).sum :=
          length_le_sum_of_ne_empty fun other member same => fresh (empty ▸ same ▸ member)
        omega
      · have tail := induction others
        have head : value.utf8ByteSize ≠ 0 := fun size =>
          empty (String.utf8ByteSize_eq_zero_iff.1 size)
        omega

/-! ### Consecutive ranges -/

/-- Ranges laid out one after the other list every position once, in order. -/
theorem indices_consecutive (first : Nat) (counts : List Nat)
    (fits : first + counts.sum < UInt32.size) :
    (EntryRange.consecutive first counts).flatMap EntryRange.indices =
      List.range' first counts.sum := by
  induction counts generalizing first with
  | nil => rfl
  | cons count rest induction =>
      rw [List.sum_cons] at fits
      have start : (UInt32.ofNat first).toNat = first := UInt32.toNat_ofNat_of_lt' (by omega)
      have length : (UInt32.ofNat count).toNat = count := UInt32.toNat_ofNat_of_lt' (by omega)
      rw [EntryRange.consecutive, List.flatMap_cons, induction (first + count) (by omega),
        EntryRange.indices, start, length, List.range'_append_1, List.sum_cons]

namespace Image

variable {module : Module}

theorem strings_eq_cons {first : Table} {rest : List Table}
    (tables : module.tables = first :: rest) : ∃ others, module.strings = first.name :: others := by
  rw [Module.strings, tables, List.flatMap_cons, Table.strings, List.cons_append,
    List.eraseDups_cons]
  exact ⟨_, rfl⟩

theorem tables_ne_nil_of_strings (used : module.strings ≠ []) : module.tables ≠ [] := by
  intro empty
  apply used
  rw [Module.strings, empty]
  rfl

/-- The first table is named by the first string. -/
theorem name_first_table (declared : module.tables ≠ []) :
    ∃ entry, (ofModule module).tables[0]? = some entry ∧ entry.name = 0 := by
  obtain ⟨first, rest, tables⟩ := List.exists_cons_of_ne_nil declared
  obtain ⟨others, strings⟩ := strings_eq_cons tables
  refine ⟨⟨stringId module.strings first.name, ⟨0, UInt32.ofNat first.rows.length⟩⟩, ?_, ?_⟩
  · rw [ofModule, tables]
    rfl
  · show stringId module.strings first.name = 0
    rw [stringId, strings, List.idxOf_cons_self]
    rfl

theorem usedNodes_ofModule (fits : (ofModule module).Fits) :
    (ofModule module).usedNodes = List.range module.rows.length := by
  have counted := fits.nodes
  have total : (module.tables.map fun table => table.rows.length).sum = module.rows.length := by
    rw [Module.rows, List.length_flatMap]
  rw [size_nodes, ← total] at counted
  have listed := indices_consecutive 0 (module.tables.map fun table => table.rows.length)
    (by rw [Nat.zero_add]; exact counted)
  rw [← map_rows_tables, List.flatMap_map, total] at listed
  rw [usedNodes, List.range_eq_range']
  exact listed

/-- A bound is at least as large as the number of strings before it, but for an empty one. -/
theorem le_toNat_bound (fits : (ofModule module).Fits) {index : Nat}
    (within : index ≤ module.strings.length) {bound : UInt32}
    (stored : (ofModule module).bounds[index]? = some bound) : index ≤ bound.toNat + 1 := by
  have sizes := getElem?_boundsFrom 0 (module.strings.map String.utf8ByteSize) index
    (by rwa [List.length_map])
  have exact : bound =
      UInt32.ofNat ((module.strings.take index).map String.utf8ByteSize).sum := by
    rw [Nat.zero_add] at sizes
    rw [List.map_take]
    exact Option.some.inj (stored.symm.trans sizes)
  have blob := size_blob module
  have parts := congrArg List.sum
    (List.take_append_drop index (module.strings.map String.utf8ByteSize))
  rw [List.sum_append, ← List.map_take] at parts
  have counted := fits.blob
  have distinct : (module.strings.take index).Nodup :=
    (List.take_sublist _ _).nodup (nodup_eraseDups _)
  have many := length_le_sum_add_one distinct
  rw [List.length_take, Nat.min_eq_left within] at many
  rw [exact, UInt32.toNat_ofNat_of_lt' (by omega)]
  exact many

/-- Between the last table and the nodes there is room for zeros only. -/
theorem tableEntryAt_padding {image : Image} (fits : image.Fits)
    (room : image.header.tablesStart + (image.tables.length + 1) * tableEntrySize ≤
      image.header.nodesStart) :
    tableEntryAt image.encode
      (image.header.tablesStart + image.tables.length * tableEntrySize) = ⟨0, ⟨0, 0⟩⟩ := by
  have size := size_entries TableEntry.length_encode image.tables
  have boundary := nextBoundary_add (image.sectionStart_mod 2)
    (image.tables.flatMap TableEntry.encode).toByteArray.size
  rw [tablesStart_eq fits, nodesStart_eq fits, image.sectionStart_succ 2 rfl, boundary] at room
  have enough : tableEntrySize ≤
      padding (image.tables.flatMap TableEntry.encode).toByteArray.size := by
    rw [Nat.succ_mul] at room
    omega
  obtain ⟨more, filled⟩ := Nat.exists_eq_add_of_le enough
  have zeros : OccursAt (List.replicate tableEntrySize 0)
      (pad (image.tables.flatMap TableEntry.encode).toByteArray).data.toList
      (image.tables.length * tableEntrySize) := by
    rw [toList_pad, filled, List.replicate_add, List.toList_data_toByteArray]
    refine ⟨_, _, rfl, ?_⟩
    rwa [List.size_toByteArray] at size
  rw [tablesStart_eq fits]
  exact tableEntryAt_eq_of_occursAt (zeros.trans (image.padded_section_occurs 2 rfl))

end Image

end ScriptMetadata.Container
