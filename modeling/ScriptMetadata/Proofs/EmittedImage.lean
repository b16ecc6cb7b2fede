import ScriptMetadata.Container.Image
import ScriptMetadata.Proofs.Denotation
import ScriptMetadata.Proofs.ImageEncoding

/-!
The image of a module denotes that module, as long as its encoding is shorter than the words of the
header can say.
-/

set_option autoImplicit false

namespace ScriptMetadata.Container

/-! ### Consecutive ranges -/

/-- The range picks this part out of the whole. -/
def EntryRange.Selects {α : Type} (range : EntryRange) (whole part : List α) : Prop :=
  range.stop ≤ whole.length ∧
    List.Forall₂ (fun index value => whole[index]? = some value)
      (List.range' range.first.toNat range.count.toNat) part

theorem selects_middle {α : Type} (before part after : List α)
    (fits : (before ++ (part ++ after)).length < UInt32.size) :
    (⟨UInt32.ofNat before.length, UInt32.ofNat part.length⟩ : EntryRange).Selects
      (before ++ (part ++ after)) part := by
  simp only [List.length_append] at fits
  have first : (UInt32.ofNat before.length).toNat = before.length :=
    UInt32.toNat_ofNat_of_lt' (by omega)
  have count : (UInt32.ofNat part.length).toNat = part.length :=
    UInt32.toNat_ofNat_of_lt' (by omega)
  constructor
  · simp only [EntryRange.stop, first, count, List.length_append]
    omega
  · simp only [first, count]
    rw [Outcome.forall₂_iff_getElem?]
    refine ⟨List.length_range', ?_⟩
    intro index position value located found
    have below := (List.getElem?_eq_some_iff.1 found).1
    rw [List.getElem?_range' below] at located
    cases located
    rw [List.getElem?_append_right (by omega)]
    rw [List.getElem?_append_left (by omega)]
    rw [← found]
    congr 1
    omega

/-- Ranges laid out one after the other cut a concatenation back into its parts. -/
theorem consecutive_selects {α : Type} (before : List α) (parts : List (List α))
    (fits : (before ++ parts.flatten).length < UInt32.size) :
    List.Forall₂ (fun range part => range.Selects (before ++ parts.flatten) part)
      (EntryRange.consecutive before.length (parts.map List.length)) parts := by
  induction parts generalizing before with
  | nil => exact .nil
  | cons part rest induction =>
      rw [List.flatten_cons] at fits ⊢
      refine .cons (selects_middle before part rest.flatten fits) ?_
      rw [← List.append_assoc] at fits ⊢
      have later := induction (before ++ part) fits
      rwa [List.length_append] at later

/-! ### Strings -/

theorem length_boundsFrom (start : Nat) (sizes : List Nat) :
    (boundsFrom start sizes).length = sizes.length + 1 := by
  induction sizes generalizing start with
  | nil => rfl
  | cons size rest induction => simp only [boundsFrom, List.length_cons, induction]

theorem getElem?_boundsFrom (start : Nat) (sizes : List Nat) (index : Nat)
    (within : index ≤ sizes.length) :
    (boundsFrom start sizes)[index]? = some (UInt32.ofNat (start + (sizes.take index).sum)) := by
  induction sizes generalizing start index with
  | nil =>
      have first : index = 0 := Nat.le_zero.1 within
      subst first
      rfl
  | cons size rest induction =>
      cases index with
      | zero => rfl
      | succ index =>
          rw [boundsFrom, List.getElem?_cons_succ,
            induction (start + size) index (Nat.le_of_succ_le_succ within), List.take_succ_cons,
            List.sum_cons, Nat.add_assoc]

namespace Image

variable {module : Module}

theorem toList_blob (module : Module) :
    (ofModule module).blob.data.toList =
      module.strings.flatMap fun value => value.toUTF8.data.toList := by
  have concatenated := toList_concat (module.strings.map String.toUTF8) ByteArray.empty
  rw [List.foldl_map, List.flatMap_map] at concatenated
  exact concatenated

theorem size_blob (module : Module) :
    (ofModule module).blob.size = (module.strings.map String.utf8ByteSize).sum := by
  have length := congrArg List.length (toList_blob module)
  rw [List.length_flatMap, Array.length_toList, ByteArray.size_data] at length
  exact length

/-- Each string stands in the blob behind the strings before it. -/
theorem occursAt_blob {id : Nat} {value : String} (found : module.strings[id]? = some value) :
    OccursAt value.toUTF8.data.toList (ofModule module).blob.data.toList
      ((module.strings.map String.utf8ByteSize).take id).sum := by
  have placed := OccursAt.flatMap (fun value : String => value.toUTF8.data.toList) found
  rw [← toList_blob, List.length_flatMap, List.map_take] at placed
  exact placed

theorem hasText_of_getElem? (fits : (ofModule module).blob.size < UInt32.size) {id : Nat}
    {value : String} (found : module.strings[id]? = some value) :
    (ofModule module).HasText id value := by
  have below : id < (module.strings.map String.utf8ByteSize).length := by
    rw [List.length_map]
    exact (List.getElem?_eq_some_iff.1 found).1
  have placed := occursAt_blob found
  have inside := placed.end_le
  rw [Array.length_toList, Array.length_toList, ByteArray.size_data, ByteArray.size_data] at inside
  have next : ((module.strings.map String.utf8ByteSize).take (id + 1)).sum =
      ((module.strings.map String.utf8ByteSize).take id).sum + value.toUTF8.size := by
    rw [List.take_add_one, List.getElem?_map, found, List.sum_append]
    simp
  have started := getElem?_boundsFrom 0 (module.strings.map String.utf8ByteSize) id
    (Nat.le_of_lt below)
  have stopped := getElem?_boundsFrom 0 (module.strings.map String.utf8ByteSize) (id + 1) below
  rw [next] at stopped
  rw [Nat.zero_add] at started stopped
  generalize ((module.strings.map String.utf8ByteSize).take id).sum = offset at *
  have start : (UInt32.ofNat offset).toNat = offset := UInt32.toNat_ofNat_of_lt' (by omega)
  have stop : (UInt32.ofNat (offset + value.toUTF8.size)).toNat = offset + value.toUTF8.size :=
    UInt32.toNat_ofNat_of_lt' (by omega)
  refine ⟨_, _, started, stopped, ?_, ?_, ?_⟩
  · rw [UInt32.le_iff_toNat_le, start, stop]
    omega
  · rwa [stop]
  · rw [start, stop]
    exact extract_eq_of_occursAt placed

theorem hasText_stringId (fits : (ofModule module).Fits) {value : String}
    (used : value ∈ module.strings) :
    (ofModule module).HasText (stringId module.strings value).toNat value := by
  have below : module.strings.idxOf value < module.strings.length :=
    List.idxOf_lt_length_of_mem used
  have count : (ofModule module).bounds.length - 1 = module.strings.length := by
    rw [ofModule, length_boundsFrom, List.length_map, Nat.add_sub_cancel]
  have counted := fits.strings
  have id : (stringId module.strings value).toNat = module.strings.idxOf value :=
    UInt32.toNat_ofNat_of_lt' (by omega)
  rw [id]
  apply hasText_of_getElem? fits.blob
  rw [List.getElem?_eq_getElem below, List.getElem_idxOf]

theorem name_mem_strings {table : Table} (member : table ∈ module.tables) :
    table.name ∈ module.strings :=
  List.mem_eraseDups.2 (List.mem_flatMap.2 ⟨table, member, List.mem_cons_self⟩)

theorem text_mem_strings {value : String} (used : Operand.text value ∈ module.rows.flatten) :
    value ∈ module.strings := by
  obtain ⟨row, member, cell⟩ := List.mem_flatten.1 used
  obtain ⟨table, declared, stored⟩ := List.mem_flatMap.1 member
  refine List.mem_eraseDups.2 (List.mem_flatMap.2 ⟨table, declared, List.mem_cons_of_mem _ ?_⟩)
  exact List.mem_filterMap.2 ⟨.text value, List.mem_flatten.2 ⟨row, stored, cell⟩, rfl⟩

/-! ### Rows and tables -/

theorem hasOperand_of_getElem? (fits : (ofModule module).Fits) {index : Nat} {operand : Operand}
    (found : module.rows.flatten[index]? = some operand) :
    (ofModule module).HasOperand index operand := by
  have stored : (ofModule module).operands[index]? =
      some (OperandEntry.ofOperand module.strings operand) := by
    rw [ofModule, List.getElem?_toArray, List.getElem?_map, found]
    rfl
  cases operand with
  | text value =>
      refine .text stored ?_
      rw [UInt32.toNat_toUInt64]
      exact hasText_stringId fits (text_mem_strings (List.mem_of_getElem? found))
  | integer value => exact .integer stored

theorem size_operands (module : Module) :
    (ofModule module).operands.size = module.rows.flatten.length := by
  rw [ofModule, List.size_toArray, List.length_map]

theorem size_nodes (module : Module) : (ofModule module).nodes.size = module.rows.length := by
  rw [ofModule, List.size_toArray, EntryRange.length_consecutive, List.length_map]

theorem map_rows_tables (module : Module) :
    (ofModule module).tables.map TableEntry.rows =
      EntryRange.consecutive 0 (module.tables.map fun table => table.rows.length) := by
  rw [ofModule, List.map_map]
  apply List.map_snd_zip
  rw [EntryRange.length_consecutive, List.length_map]

theorem nodes_select (fits : (ofModule module).Fits) :
    List.Forall₂ (fun range row => EntryRange.Selects range module.rows.flatten row)
      (ofModule module).nodes.toList module.rows := by
  have counted := fits.operands
  rw [size_operands] at counted
  exact consecutive_selects [] module.rows counted

theorem hasRow_of_getElem? (fits : (ofModule module).Fits) {node : Nat} {row : Row}
    (found : module.rows[node]? = some row) : (ofModule module).HasRow node row := by
  obtain ⟨lengths, selects⟩ := Outcome.forall₂_iff_getElem?.1 (nodes_select fits)
  have below : node < (ofModule module).nodes.toList.length :=
    lengths ▸ (List.getElem?_eq_some_iff.1 found).1
  have stored : (ofModule module).nodes.toList[node]? = some _ := List.getElem?_eq_getElem below
  obtain ⟨inside, cells⟩ := selects node _ row stored found
  rw [Array.getElem?_toList] at stored
  refine ⟨_, stored, ?_, cells.imp fun _ _ => hasOperand_of_getElem? fits⟩
  rwa [size_operands]

theorem tables_select (fits : (ofModule module).Fits) :
    List.Forall₂ (fun range rows => EntryRange.Selects range module.rows rows)
      (EntryRange.consecutive 0 (module.tables.map fun table => table.rows.length))
      (module.tables.map Table.rows) := by
  have counted := fits.nodes
  rw [size_nodes] at counted
  have selected := consecutive_selects [] (module.tables.map Table.rows) counted
  rw [List.map_map] at selected
  exact selected

theorem denotes_ofModule (fits : (ofModule module).Fits) :
    (ofModule module).Denotes module := by
  obtain ⟨lengths, selects⟩ := Outcome.forall₂_iff_getElem?.1 (tables_select fits)
  rw [Denotes, Outcome.forall₂_iff_getElem?]
  constructor
  · simp [ofModule]
  · intro index entry table stored found
    rw [ofModule, List.getElem?_map, Option.map_eq_some_iff] at stored
    obtain ⟨⟨table', range⟩, paired, rfl⟩ := stored
    obtain ⟨found', ranged⟩ := List.getElem?_zip_eq_some.1 paired
    have same : table = table' := Option.some.inj (found.symm.trans found')
    subst same
    have named : (module.tables.map Table.rows)[index]? = some table.rows := by
      rw [List.getElem?_map, found]
      rfl
    obtain ⟨inside, rows⟩ := selects index range table.rows ranged named
    refine ⟨hasText_stringId fits (name_mem_strings (List.mem_of_getElem? found)), ?_,
      rows.imp fun _ _ => hasRow_of_getElem? fits⟩
    rwa [size_nodes]

theorem textsValid_ofModule (fits : (ofModule module).Fits) : (ofModule module).TextsValid := by
  intro id below
  rw [ofModule, length_boundsFrom, List.length_map] at below
  have found : module.strings[id]? = some _ :=
    List.getElem?_eq_getElem (Nat.lt_of_succ_lt_succ below)
  exact ⟨_, hasText_of_getElem? fits.blob found⟩

theorem resolve_ofModule (fits : (ofModule module).Fits) :
    (ofModule module).resolve = .ok module :=
  (resolve_eq_ok_iff ⟨fits.nodes, fits.operands⟩).2
    ⟨textsValid_ofModule fits, denotes_ofModule fits⟩

theorem bounds_ofModule_ne_nil (module : Module) : (ofModule module).bounds ≠ [] := by
  intro empty
  have length := congrArg List.length empty
  rw [ofModule, length_boundsFrom] at length
  contradiction

end Image

end ScriptMetadata.Container
