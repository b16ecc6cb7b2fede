import ScriptMetadata.Proofs.Acceptance
import ScriptMetadata.Proofs.FirstDefect

/-!
The checks of the loader, one after the other: the header, every string, every table with its rows
and their operands. A file that does not load is refused with the error of the first check that it
does not pass, however many others it would fail as well.
-/

set_option autoImplicit false

namespace ScriptMetadata.Container

open Check (AllHold FirstDefect Performs)

namespace Image

section Checks

variable (image : Image)

/-- The bound at a position; the string table is taken to go on with zeros. -/
def boundAt (index : Nat) : UInt32 := image.bounds[index]?.getD 0

def encodedText (id : Nat) : ByteArray :=
  image.blob.extract (image.boundAt id).toNat (image.boundAt (id + 1)).toNat

/-- The string at a position, empty where there is no valid one. -/
def textAt (id : Nat) : String := (String.fromUTF8? (image.encodedText id)).getD ""

def textChecks (id : Nat) : List (Check LoadError) :=
  [{ holds := image.boundAt id ≤ image.boundAt (id + 1) ∧
       (image.boundAt (id + 1)).toNat ≤ image.blob.size
     error := .invalidStringRange id (image.boundAt id) (image.boundAt (id + 1)) image.blob.size },
   { holds := (image.encodedText id).IsValidUTF8
     error := .invalidUtf8 id }]

def idCheck (id : UInt64) : Check LoadError where
  holds := id.toNat < image.stringCount
  error := .invalidStringId id image.stringCount

def operandChecks (index : Nat) : List (Check LoadError) :=
  match image.operands[index]? with
  | none => []
  | some cell =>
      { holds := cell.tag = 0 ∨ cell.tag = 1
        error := .invalidOperandTag index cell.tag } ::
      if cell.tag = 0 then [image.idCheck cell.payload] else []

def rowChecks (node : Nat) : List (Check LoadError) :=
  match image.nodes[node]? with
  | none => []
  | some range =>
      { holds := range.stop ≤ image.operands.size
        error := .operandRangeOutOfBounds node range } ::
      (List.range' range.first.toNat range.count.toNat).flatMap image.operandChecks

/-- Names are compared as texts with those of the tables before. -/
def tableChecks (position : Nat) : List (Check LoadError) :=
  match image.tables[position]? with
  | none => []
  | some entry =>
      image.idCheck entry.name.toUInt64 ::
      { holds := image.textAt entry.name.toNat ∉
          (image.tables.take position).map fun earlier => image.textAt earlier.name.toNat
        error := .duplicateTable (image.textAt entry.name.toNat) } ::
      { holds := entry.rows.stop ≤ image.nodes.size
        error := .nodeRangeOutOfBounds (image.textAt entry.name.toNat) entry.rows } ::
      (List.range' entry.rows.first.toNat entry.rows.count.toNat).flatMap image.rowChecks

/-- All strings come before the first table. -/
def checks : List (Check LoadError) :=
  (List.range image.stringCount).flatMap image.textChecks ++
    (List.range image.tables.length).flatMap image.tableChecks

end Checks

/-! ### The strings -/

variable {image : Image} {strings : List String}

theorem textAt_eq_of_hasText {id : Nat} {value : String} (text : image.HasText id value) :
    image.textAt id = value := by
  rcases text with ⟨start, stop, started, stopped, -, -, encoded⟩
  have valid : String.fromUTF8? (image.encodedText id) = some value := by
    rw [fromUTF8?_eq_some_iff, ← encoded, encodedText, boundAt, boundAt, started, stopped]
    rfl
  rw [textAt, valid]
  rfl

theorem boundPairs_eq :
    (image.bounds.zip image.bounds.tail).zipIdx =
      (List.range image.stringCount).map fun id =>
        ((image.boundAt id, image.boundAt (id + 1)), id) := by
  apply List.ext_getElem
  · simp [stringCount]
  · intro id below below'
    rw [List.length_map, List.length_range, stringCount] at below'
    simp [boundAt, List.getElem?_eq_getElem (show id < image.bounds.length by omega),
      List.getElem?_eq_getElem (show id + 1 < image.bounds.length by omega)]

theorem performs_stringBetween (id : Nat) :
    Performs (image.textChecks id)
      (image.stringBetween id (image.boundAt id) (image.boundAt (id + 1))) := by
  rw [stringBetween]
  apply Performs.check
  · intro ordered
    have forward : (image.boundAt id).toNat ≤ (image.boundAt (id + 1)).toNat := ordered.1
    have whole : (image.boundAt id).toNat +
        ((image.boundAt (id + 1)).toNat - (image.boundAt id).toNat) =
          (image.boundAt (id + 1)).toNat := by omega
    rw [if_pos ordered, Checked.slice_eq_ok (by rw [whole]; exact ordered.2), whole, lift_ok_bind,
      ← encodedText, String.fromUTF8?]
    apply Performs.check
    · intro valid
      rw [dif_pos valid]
      exact .ok _
    · intro invalid
      rw [dif_neg invalid]
  · intro disordered
    exact if_neg disordered

theorem performs_strings :
    Performs ((List.range image.stringCount).flatMap image.textChecks) image.strings := by
  rw [strings, boundPairs_eq, List.mapM_map]
  exact Performs.mapM fun id _ => performs_stringBetween id

/-! ### The tables, their rows and operands -/

section Resolved

variable (decoded : image.strings = .ok strings)

include decoded

theorem length_eq_stringCount : strings.length = image.stringCount :=
  (strings_eq_ok_iff.1 decoded).1

theorem stringAt_eq_ok {id : UInt64} (below : id.toNat < image.stringCount) :
    stringAt strings.toArray id = .ok (image.textAt id.toNat) := by
  have inside : id.toNat < strings.length := length_eq_stringCount decoded ▸ below
  have text := (getElem?_strings_iff decoded).1 (List.getElem?_eq_getElem inside)
  rw [textAt_eq_of_hasText text]
  exact (stringAt_eq_ok_iff decoded).2 text

theorem stringAt_eq_error {id : UInt64} (outside : ¬id.toNat < image.stringCount) :
    stringAt strings.toArray id = .error (image.idCheck id).error := by
  have length := length_eq_stringCount decoded
  have missing : strings[id.toNat]? = none := List.getElem?_eq_none (by omega)
  rw [stringAt, List.getElem?_toArray, missing, List.size_toArray, length]
  rfl

theorem performs_operand {index : Nat} {cell : OperandEntry}
    (stored : image.operands[index]? = some cell) :
    Performs (image.operandChecks index) (cell.resolve strings.toArray index) := by
  rw [operandChecks, stored, OperandEntry.resolve]
  apply Performs.check
  · intro known
    by_cases isText : cell.tag = 0
    · rw [if_pos isText, if_pos (show cell.tag = textTag from isText)]
      apply Performs.check
      · intro below
        rw [stringAt_eq_ok decoded below]
        exact .ok (Operand.text _)
      · intro outside
        rw [stringAt_eq_error decoded outside]
        rfl
    · have isInteger : cell.tag = integerTag := known.resolve_left isText
      rw [if_neg isText, if_neg (show ¬cell.tag = textTag from isText), if_pos isInteger]
      exact .ok _
  · intro unknown
    rw [not_or] at unknown
    rw [if_neg (show ¬cell.tag = textTag from unknown.1),
      if_neg (show ¬cell.tag = integerTag from unknown.2)]

variable (addressable : image.Addressable)

include addressable

theorem performs_row {node : Nat} (inside : node < image.nodes.size) :
    Performs (image.rowChecks node) (image.row strings.toArray node) := by
  have stored : image.nodes[node]? = some image.nodes[node] := Array.getElem?_eq_getElem inside
  rw [rowChecks, Image.row, stored, Checked.element_eq_ok stored, lift_ok_bind]
  apply Performs.check
  · intro accepted
    rw [if_pos accepted, positions_bind (Nat.lt_of_le_of_lt accepted addressable.2)]
    apply Performs.mapM
    intro index member
    have below : index < image.operands.size := EntryRange.lt_of_mem_range' accepted member
    have found : image.operands[index]? = some image.operands[index] :=
      Array.getElem?_eq_getElem below
    rw [Checked.element_eq_ok found, lift_ok_bind]
    exact performs_operand decoded found
  · intro outside
    exact if_neg outside

/-- The step of the loader, after tables that have the names of the entries before. -/
theorem performs_addTable {position : Nat} {entry : TableEntry} {module : Module}
    (found : image.tables[position]? = some entry)
    (names : module.names =
      (image.tables.take position).map fun earlier => image.textAt earlier.name.toNat) :
    Performs (image.tableChecks position) (image.addTable strings.toArray module entry) := by
  rw [tableChecks, found, Image.addTable]
  apply Performs.check
  · intro below
    rw [stringAt_eq_ok decoded below, UInt32.toNat_toUInt64]
    change Performs _ (ite _ _ _)
    rw [← names]
    apply Performs.check
    · intro fresh
      rw [if_neg fun present => fresh (Module.contains_iff.1 present)]
      apply Performs.check
      · intro accepted
        rw [if_pos accepted, positions_bind (Nat.lt_of_le_of_lt accepted addressable.1)]
        have rows : Performs ((List.range' entry.rows.first.toNat
            entry.rows.count.toNat).flatMap image.rowChecks) ((List.range' entry.rows.first.toNat
              entry.rows.count.toNat).mapM (image.row strings.toArray)) := by
          apply Performs.mapM
          intro node member
          exact performs_row decoded addressable (EntryRange.lt_of_mem_range' accepted member)
        exact rows.map (module.append (image.textAt entry.name.toNat))
      · intro outside
        exact if_neg outside
    · intro repeated
      exact if_pos (Module.contains_iff.2 (Classical.not_not.1 repeated))
  · intro outside
    rw [stringAt_eq_error decoded outside]
    rfl

theorem names_of_addTable {position : Nat} {entry : TableEntry} {module next : Module}
    (found : image.tables[position]? = some entry)
    (names : module.names =
      (image.tables.take position).map fun earlier => image.textAt earlier.name.toNat)
    (added : image.addTable strings.toArray module entry = .ok next) :
    next.names =
      (image.tables.take (position + 1)).map fun earlier => image.textAt earlier.name.toNat := by
  obtain ⟨table, described, tables⟩ := (addTable_eq_ok_iff decoded addressable).1 added
  rw [Module.names, tables, List.map_append, ← Module.names, names, List.take_add_one, found,
    List.map_append, Option.toList_some, List.map_singleton, List.map_singleton,
    textAt_eq_of_hasText described.1]

end Resolved

theorem performs_resolve (addressable : image.Addressable) :
    Performs image.checks image.resolve := by
  rw [resolve, checks]
  apply Performs.bind performs_strings
  intro strings decoded
  apply Performs.foldlM fun position module => module.names =
    (image.tables.take position).map fun earlier => image.textAt earlier.name.toNat
  · intro position entry module found names
    exact ⟨performs_addTable decoded addressable found names,
      fun next added => names_of_addTable decoded addressable found names added⟩
  · rfl

end Image

/-! ### The file as a whole -/

section Format

variable (bytes : ByteArray)

def headerChecks : List (Check LoadError) :=
  [{ holds := 64 ≤ bytes.size
     error := .fileTooSmall bytes.size },
   { holds := bytes.extract 0 4 = "BCMD".toUTF8
     error := .invalidMagic },
   { holds := (headerAt bytes).version = 1
     error := .unsupportedVersion (headerAt bytes).version },
   { holds := (headerAt bytes).totalSize.toNat = bytes.size
     error := .sizeMismatch (headerAt bytes).totalSize bytes.size }]

def checksumCheck (options : LoadOptions) : Check LoadError where
  holds := options.verifyChecksum = true →
    (headerAt bytes).checksum = Crc32.checksum (bytes.data.toList.drop 64)
  error := .checksumMismatch (headerAt bytes).checksum (Crc32.checksum (bytes.data.toList.drop 64))

/-- The image is only looked at when its sections end inside the file. -/
def sectionChecks : List (Check LoadError) :=
  { holds := (headerAt bytes).finish ≤ bytes.size
    error := .sectionsOutOfBounds (UInt64.ofNat (headerAt bytes).finish) bytes.size } ::
  (storedImage bytes).checks

def checks (options : LoadOptions) : List (Check LoadError) :=
  headerChecks bytes ++ checksumCheck bytes options :: sectionChecks bytes

end Format

variable {options : LoadOptions} {bytes : ByteArray}

theorem performs_validate (complete : headerSize ≤ bytes.size) :
    Performs ((headerChecks bytes).tail ++ [checksumCheck bytes options])
      ((headerAt bytes).validate options bytes) := by
  rw [Header.validate_eq complete, Header.hasMagic, Header.hasFormatVersion]
  apply Performs.check
  · intro magic
    have known := (magic_headerAt_iff complete).2 magic
    rw [if_neg (by simp [known])]
    apply Performs.check
    · intro version
      have supported : (headerAt bytes).version = formatVersion := version
      rw [if_neg (by simp [supported])]
      apply Performs.check
      · intro size
        rw [if_neg (not_not_intro size)]
        apply Performs.check
        · intro sum
          have agrees : ¬(options.verifyChecksum = true ∧
              (headerAt bytes).checksum ≠ bodyChecksum bytes) := fun fails => fails.2 (sum fails.1)
          rw [if_neg agrees]
          exact .ok ()
        · intro sum
          exact if_pos (Classical.not_imp.1 sum)
      · exact fun size => if_pos size
    · intro version
      have unsupported : ¬(headerAt bytes).version = formatVersion := version
      exact if_pos (by simp [unsupported])
  · intro magic
    have unknown := mt (magic_headerAt_iff complete).1 magic
    exact if_pos (by simp [unknown])

theorem performs_loadSections (bytes : ByteArray) :
    Performs (sectionChecks bytes) (loadSections bytes (headerAt bytes)) := by
  apply Performs.check
  · intro inside
    rw [loadSections, if_neg (Nat.not_lt.2 inside)]
    exact Image.performs_resolve (addressable_storedImage bytes)
  · intro outside
    exact if_pos (Nat.not_le.1 outside)

theorem performs_load (options : LoadOptions) (bytes : ByteArray) :
    Performs (checks bytes options) (load options bytes) := by
  have order : checks bytes options =
      { holds := 64 ≤ bytes.size, error := .fileTooSmall bytes.size } ::
        ((headerChecks bytes).tail ++ [checksumCheck bytes options] ++ sectionChecks bytes) := rfl
  rw [order]
  apply Performs.check
  · intro complete
    rw [load_eq_of_decode (Header.decode_eq_ok complete)]
    exact Performs.bind (performs_validate complete) fun _ _ => performs_loadSections bytes
  · exact load_of_incomplete

/-- The checks and the conditions of the format ask for the same. -/
theorem allHold_checks_iff : AllHold (checks bytes options) ↔ WellFormed options bytes :=
  (performs_load options bytes).exists_eq_ok_iff.symm.trans exists_load_iff

/-- A file that does not load is refused for the first check that it does not pass, and a file that
passes all of them loads. -/
theorem load_reports_first_defect (options : LoadOptions) (bytes : ByteArray) :
    (∀ cause, load options bytes = .error cause ↔ FirstDefect (checks bytes options) cause) ∧
      ((∃ module, load options bytes = .ok module) ↔ AllHold (checks bytes options)) :=
  ⟨fun _ => (performs_load options bytes).eq_error_iff,
    (performs_load options bytes).exists_eq_ok_iff⟩

end ScriptMetadata.Container
