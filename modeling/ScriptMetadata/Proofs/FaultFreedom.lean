import ScriptMetadata.Proofs.Acceptance

/-!
No checked read and no checked word of the loader ever fails. In a file as long as a header the header
and what is behind it are there. Behind the one comparison of the end of the sections with the size
of the file every entry lies inside the file; from there on each step of the resolution stays inside
the sections, whatever ranges the entries name.
-/

set_option autoImplicit false

namespace ScriptMetadata.Container

variable {Value Result : Type}

/-- The result is no failed read: it is a value or says what is wrong with the file. -/
def Faultless (result : Except LoadError Value) : Prop :=
  ∀ cause, result ≠ .error (.fault cause)

namespace Faultless

theorem ok (value : Value) : Faultless (.ok value) := by
  intro cause same
  cases same

theorem error {reason : LoadError} (defect : ∀ cause, reason ≠ .fault cause) :
    Faultless (.error reason : Except LoadError Value) :=
  fun cause same => defect cause (Except.error.inj same)

theorem bind {first : Except LoadError Value} {next : Value → Except LoadError Result}
    (start : Faultless first) (continued : ∀ value, first = .ok value → Faultless (next value)) :
    Faultless (first >>= next) := by
  cases first with
  | error reason => exact error fun cause same => start cause (congrArg Except.error same)
  | ok value => exact continued value rfl

theorem map {result : Except LoadError Value} (f : Value → Result) (faultless : Faultless result) :
    Faultless (result.map f) := by
  cases result with
  | error reason => exact error fun cause same => faultless cause (congrArg Except.error same)
  | ok value => exact ok (f value)

theorem mapM {f : Value → Except LoadError Result} {values : List Value}
    (each : ∀ value ∈ values, Faultless (f value)) : Faultless (values.mapM f) := by
  induction values with
  | nil => exact ok []
  | cons value rest induction =>
      have head := each value List.mem_cons_self
      have tail := induction fun other member => each other (List.mem_cons_of_mem value member)
      rw [List.mapM_cons]
      exact bind head fun result _ => bind tail fun results _ => ok (result :: results)

/-- When no step of a fold faults, from whatever state, the fold does not. -/
theorem foldlM {f : Result → Value → Except LoadError Result}
    (step : ∀ state value, Faultless (f state value)) (values : List Value) (start : Result) :
    Faultless (values.foldlM f start) := by
  induction values generalizing start with
  | nil => exact ok start
  | cons value rest induction =>
      rw [List.foldlM_cons]
      exact bind (step start value) fun state _ => induction state

end Faultless

theorem Header.faultless_validate (options : LoadOptions) {bytes : ByteArray}
    (complete : headerSize ≤ bytes.size) (header : Header) :
    Faultless (header.validate options bytes) := by
  rw [Header.validate_eq complete]
  split
  · exact .error (by simp)
  · split
    · exact .error (by simp)
    · split
      · exact .error (by simp)
      · split
        · exact .error (by simp)
        · exact .ok ()

theorem faultless_stringAt (strings : Array String) (id : UInt64) :
    Faultless (stringAt strings id) := by
  unfold stringAt
  split
  · exact .ok _
  · exact .error (by simp)

theorem OperandEntry.faultless_resolve (strings : Array String) (index : Nat)
    (entry : OperandEntry) : Faultless (entry.resolve strings index) := by
  unfold OperandEntry.resolve
  split
  · exact .bind (faultless_stringAt strings entry.payload) fun value _ =>
      Faultless.ok (Operand.text value)
  · split
    · exact .ok _
    · exact .error (by simp)

namespace Image

/-- The bounds are compared before the blob is sliced between them. -/
theorem faultless_stringBetween (image : Image) (index : Nat) (start stop : UInt32) :
    Faultless (image.stringBetween index start stop) := by
  unfold stringBetween
  split
  · rename_i ordered
    have forward : start.toNat ≤ stop.toNat := ordered.1
    rw [Checked.slice_eq_ok (by omega), lift_ok_bind]
    split
    · exact .ok _
    · exact .error (by simp)
  · exact .error (by simp)

theorem faultless_strings (image : Image) : Faultless image.strings :=
  .mapM fun ((start, stop), index) _ => image.faultless_stringBetween index start stop

section Ranges

variable {image : Image} (addressable : image.Addressable) (strings : Array String)

include addressable

/-- The end of an accepted range is at most the number of operands, which is a 32-bit word. -/
theorem faultless_row {node : Nat} (inside : node < image.nodes.size) :
    Faultless (image.row strings node) := by
  have stored : image.nodes[node]? = some image.nodes[node] := Array.getElem?_eq_getElem inside
  rw [Image.row, Checked.element_eq_ok stored, lift_ok_bind]
  split
  · rename_i accepted
    rw [positions_bind (Nat.lt_of_le_of_lt accepted addressable.2)]
    apply Faultless.mapM
    intro index member
    have below : index < image.operands.size := EntryRange.lt_of_mem_range' accepted member
    have found : image.operands[index]? = some image.operands[index] :=
      Array.getElem?_eq_getElem below
    rw [Checked.element_eq_ok found, lift_ok_bind]
    exact OperandEntry.faultless_resolve strings index _
  · exact .error (by simp)

/-- The step of the loader: adding the table of an entry, whatever the entry says. -/
theorem faultless_addTable (module : Module) (entry : TableEntry) :
    Faultless (image.addTable strings module entry) := by
  rw [Image.addTable]
  apply Faultless.bind (faultless_stringAt strings entry.name.toUInt64)
  intro name _
  split
  · exact .error (by simp)
  · split
    · rename_i accepted
      rw [positions_bind (Nat.lt_of_le_of_lt accepted addressable.1)]
      have rows : Faultless ((List.range' entry.rows.first.toNat entry.rows.count.toNat).mapM
          (image.row strings)) := by
        apply Faultless.mapM
        intro node member
        exact faultless_row addressable strings (EntryRange.lt_of_mem_range' accepted member)
      exact .bind rows fun rows _ => .ok (module.append name rows)
    · exact .error (by simp)

theorem faultless_resolve : Faultless image.resolve := by
  apply Faultless.bind image.faultless_strings
  intro strings _
  exact .foldlM (faultless_addTable addressable strings.toArray) image.tables Module.empty

end Ranges

end Image

/-- What the loader reads before it knows where the sections are: every field of the header, and for
the checksum all that is behind the header. -/
structure FrontInside (bytes : ByteArray) : Prop where
  fields : ∀ header : Header, ∀ field ∈ header.fields, field.stop ≤ bytes.size
  header : Header.readFields bytes = .ok (headerAt bytes)
  checksum : readBodyChecksum bytes = .ok (bodyChecksum bytes)

/-- Where the loader reads once it has accepted the end of the sections: inside the file, and at
positions whose sums are exact. -/
structure AccessesInside (bytes : ByteArray) (header : Header) (layout : Layout) : Prop where
  blob : layout.blob.toNat + header.blobSize.toNat ≤ bytes.size
  /-- The entry behind the last string is the end of that string. -/
  bounds : ∀ index ≤ header.stringCount.toNat,
    layout.stringTable.toNat + index * boundSize + boundSize ≤ bytes.size
  tables : ∀ index < header.tableCount.toNat,
    layout.tables.toNat + index * tableEntrySize + tableEntrySize ≤ bytes.size
  nodes : ∀ index < header.nodeCount.toNat,
    layout.nodes.toNat + index * nodeEntrySize + nodeEntrySize ≤ bytes.size
  operands : ∀ index < header.operandCount.toNat,
    layout.operands.toNat + index * operandEntrySize + operandEntrySize ≤ bytes.size
  /-- The sum of 32-bit words does not wrap on a range that was compared with a count. -/
  sums : ∀ range : EntryRange,
    range.stop ≤ header.nodeCount.toNat ∨ range.stop ≤ header.operandCount.toNat →
      (range.first + range.count).toNat = range.stop

theorem frontInside {bytes : ByteArray} (complete : headerSize ≤ bytes.size) :
    FrontInside bytes where
  header := Header.readFields_eq_ok complete
  checksum := readBodyChecksum_eq_ok complete
  fields := by
    intro header field listed
    have last : ∀ field ∈ header.fields, field.stop ≤ headerSize := by
      simp [Header.fields, headerSize]
    exact Nat.le_trans (last field listed) complete

theorem EntryRange.toNat_add_eq_stop {range : EntryRange} {count : UInt32}
    (accepted : range.stop ≤ count.toNat) : (range.first + range.count).toNat = range.stop := by
  rw [UInt32.toNat_add]
  exact Nat.mod_eq_of_lt (Nat.lt_of_le_of_lt accepted count.toNat_lt)

/-- The last of `count` entries ends where the entries end. -/
theorem entry_inside {start index count entrySize limit : Nat} (below : index < count)
    (inside : start + count * entrySize ≤ limit) :
    start + index * entrySize + entrySize ≤ limit := by
  have last : (index + 1) * entrySize ≤ count * entrySize := Nat.mul_le_mul_right entrySize below
  rw [Nat.succ_mul] at last
  omega

theorem accessesInside {bytes : ByteArray} {header : Header}
    (inside : header.finish ≤ bytes.size) : AccessesInside bytes header header.layout := by
  obtain ⟨blob, stringTable, tables, nodes, operands⟩ := header.sectionsOrdered
  obtain ⟨blobStart, stringTableStart, tablesStart, nodesStart, operandsStart⟩ :=
    header.toNat_layout
  constructor
  · omega
  · intro index below
    rw [stringTableStart]
    have counted : index < header.stringCount.toNat + 1 := Nat.lt_succ_of_le below
    exact entry_inside counted (by omega)
  · intro index below
    rw [tablesStart]
    exact entry_inside below (by omega)
  · intro index below
    rw [nodesStart]
    exact entry_inside below (by omega)
  · intro index below
    rw [operandsStart]
    exact entry_inside below (by omega)
  · rintro range (accepted | accepted)
    · exact EntryRange.toNat_add_eq_stop accepted
    · exact EntryRange.toNat_add_eq_stop accepted

theorem faultless_load (options : LoadOptions) (bytes : ByteArray) :
    Faultless (load options bytes) := by
  rw [load]
  apply Faultless.map
  by_cases complete : headerSize ≤ bytes.size
  · rw [read_eq_of_decode (Header.decode_eq_ok complete)]
    apply Faultless.bind (Header.faultless_validate options complete _)
    intro _ _
    split
    · exact .error (by simp)
    · exact .bind (Image.faultless_resolve (addressable_storedImage bytes)) fun module _ =>
        Faultless.ok (headerAt bytes, module)
  · rw [read, if_pos (Nat.not_le.1 complete)]
    exact .error (by simp)

/-- No read of the loader leaves its buffer and no word of it overflows, on any bytes. A file as long
as a header has every field of it and what the checksum is taken of. The offsets stay far below 64
bits for every header, and a file that they fit into has room for every entry. -/
theorem load_never_faults (options : LoadOptions) (bytes : ByteArray) :
    (∀ cause, load options bytes ≠ .error (.fault cause)) ∧
      (headerSize ≤ bytes.size → FrontInside bytes) ∧
      ∀ header, ∃ layout, Layout.ofHeader header = .ok layout ∧ layout.finish.toNat < 2 ^ 38 ∧
        (layout.finish.toNat ≤ bytes.size → AccessesInside bytes header layout) := by
  refine ⟨faultless_load options bytes, frontInside, ?_⟩
  intro header
  refine ⟨header.layout, Layout.ofHeader_eq_ok header, ?_⟩
  rw [Header.toNat_layout_finish]
  exact ⟨header.finish_lt, accessesInside⟩

end ScriptMetadata.Container
