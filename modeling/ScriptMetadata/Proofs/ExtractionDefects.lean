import ScriptMetadata.Module
import ScriptMetadata.Proofs.ExtractorCalls
import ScriptMetadata.Proofs.FirstDefect

/-!
The checks of an extraction, one after the other: the mandatory tables in the order of decoding, the
rows of a table from the first one on, the length of a row before its operands, the kind of an
operand before its size. An extraction that fails reports the first check that does not hold, under
the reserved name of the table.
-/

set_option autoImplicit false

namespace ScriptMetadata

namespace Extraction

open Check (AllHold FirstDefect Performs)

/-- An integer, where one is asked for, has to fit in 32 bits. -/
def operandChecks (kind : OperandKind) (cell : Cell) (operand : Operand) : List (Check Failure) :=
  { holds := operand.kind = kind
    error := .operandType cell kind operand.kind } ::
  match kind, operand with
  | .integer, .integer value =>
      [{ holds := value.toNat < UInt32.size
         error := .integerOverflow cell value }]
  | _, _ => []

/-- A row has to have one operand of each kind, in this order. -/
def rowChecks (kinds : List OperandKind) (table : String) (position : Nat) (row : Row) :
    List (Check Failure) :=
  { holds := row.length = kinds.length
    error := .arity table position kinds.length row.length } ::
  (kinds.zip row).zipIdx.flatMap fun ((kind, operand), index) =>
    operandChecks kind ⟨table, position, index⟩ operand

def listChecks (kinds : List OperandKind) (table : String) (rows : List Row) :
    List (Check Failure) :=
  rows.zipIdx.flatMap fun (row, position) => rowChecks kinds table position row

/-- Only a table that is there has to have its one row. -/
def scalarChecks (table : String) (stored : Option Table) : List (Check Failure) :=
  match stored with
  | none => []
  | some present =>
      { holds := present.rows.length = 1
        error := .scalarRowCount table present.rows.length } ::
      listChecks [.integer] table present.rows

/-- Names and signatures are counted when all of them are right. -/
def kernelChecks (names signatures : List Row) : List (Check Failure) :=
  listChecks [.text] Schema.kernelNames names ++
    (listChecks [.integer] Schema.kernelSignatures signatures ++
      [{ holds := names.length = signatures.length
         error := .kernelCountMismatch names.length signatures.length }])

def checks (source : TableSource) : List (Check Failure) :=
  [scalarChecks Schema.compilerVersion (source Schema.compilerVersion),
    scalarChecks Schema.optimizationLevel (source Schema.optimizationLevel),
    scalarChecks Schema.floatPrecision (source Schema.floatPrecision),
    listChecks [.text] Schema.vars (rowsOf (source Schema.vars)),
    listChecks [.text] Schema.funcs (rowsOf (source Schema.funcs)),
    kernelChecks (rowsOf (source Schema.kernelNames)) (rowsOf (source Schema.kernelSignatures)),
    listChecks [.text, .text] Schema.pragmas (rowsOf (source Schema.pragmas)),
    listChecks [.integer] Schema.objectSlots (rowsOf (source Schema.objectSlots))].flatten

/-! ### Operands and rows -/

theorem performs_text (cell : Cell) (operand : Operand) :
    Performs (operandChecks .text cell operand) (text cell operand) := by
  cases operand with
  | text value => exact .check (fun _ => .ok value) fun wrong => absurd rfl wrong
  | integer value => exact .check nofun fun _ => rfl

theorem performs_word (cell : Cell) (operand : Operand) :
    Performs (operandChecks .integer cell operand) (word cell operand) := by
  cases operand with
  | text value => exact .check nofun fun _ => rfl
  | integer value =>
      apply Performs.check
      · intro _
        apply Performs.check
        · intro small
          rw [word, if_pos small]
          exact .ok value.toUInt32
        · intro large
          exact if_neg large
      · intro wrong
        exact absurd rfl wrong

section Rows

variable {α : Type}

theorem performs_single {decode : OperandDecoder α} {kind : OperandKind}
    (each : ∀ cell operand, Performs (operandChecks kind cell operand) (decode cell operand))
    (table : String) (position : Nat) (row : Row) :
    Performs (rowChecks [kind] table position row) (single decode table position row) := by
  match row with
  | [] => exact .check nofun fun _ => rfl
  | [operand] =>
      apply Performs.check
      · intro _
        rw [List.zip_cons_cons, List.zipIdx_cons, List.flatMap_cons]
        exact List.append_nil _ ▸ each ⟨table, position, 0⟩ operand
      · intro wrong
        exact absurd rfl wrong
  | first :: second :: rest =>
      exact .check (fun one => absurd one (by simp)) fun _ => rfl

theorem performs_pragma (table : String) (position : Nat) (row : Row) :
    Performs (rowChecks [.text, .text] table position row) (pragma table position row) := by
  match row with
  | [] => exact .check nofun fun _ => rfl
  | [_] => exact .check nofun fun _ => rfl
  | [key, value] =>
      apply Performs.check
      · intro _
        apply Performs.bind (performs_text ⟨table, position, 0⟩ key)
        intro key _
        apply Performs.bind (performs_text ⟨table, position, 1⟩ value)
        intro value _
        exact .ok (Pragma.mk key value)
      · intro wrong
        exact absurd rfl wrong
  | first :: second :: third :: rest =>
      exact .check (fun two => absurd two (by simp)) fun _ => rfl

variable {decode : RowDecoder α} {kinds : List OperandKind}
  (each : ∀ table position row,
    Performs (rowChecks kinds table position row) (decode table position row))

include each

/-- The rows are counted on from the position of the first one. -/
theorem performs_rowsFrom (table : String) (position : Nat) (given : List Row) :
    Performs ((given.zipIdx position).flatMap fun (row, index) => rowChecks kinds table index row)
      (rowsFrom decode table position given) := by
  induction given generalizing position with
  | nil => exact .ok []
  | cons row rest induction =>
      rw [List.zipIdx_cons, List.flatMap_cons, rowsFrom]
      apply Performs.bind (each table position row)
      intro value _
      exact (induction (position + 1)).map fun values => value :: values

theorem performs_list {decoded : String → Nat → Event} {stored : Option Table} {name : String}
    (named : ∀ table, stored = some table → table.name = name) :
    Performs (listChecks kinds name (rowsOf stored)) (list decode decoded stored).outcome := by
  cases stored with
  | none => exact .ok []
  | some table =>
      rw [← named table rfl, list, Step.outcome_bind]
      have rows := performs_rowsFrom each table.name 0 table.rows
      rw [← List.append_nil (listChecks _ _ _)]
      exact rows.bind fun values _ => .ok values

end Rows

/-! ### Tables -/

theorem performs_scalar (table : Table) :
    Performs (scalarChecks table.name (some table)) (scalar word table) := by
  obtain ⟨name, rows⟩ := table
  match rows with
  | [] => exact .check nofun fun _ => rfl
  | [row] =>
      apply Performs.check
      · intro _
        rw [listChecks, List.zipIdx_cons, List.flatMap_cons]
        exact List.append_nil _ ▸ performs_single performs_word name 0 row
      · intro wrong
        exact absurd rfl wrong
  | first :: second :: rest =>
      exact .check (fun one => absurd one (by simp)) fun _ => rfl

section Tables

variable {stored : Option Table} {name : String}
  (named : ∀ table, stored = some table → table.name = name)

include named

theorem performs_texts :
    Performs (listChecks [.text] name (rowsOf stored)) (texts stored).outcome :=
  performs_list (performs_single performs_text) named

theorem performs_words :
    Performs (listChecks [.integer] name (rowsOf stored)) (words stored).outcome :=
  performs_list (performs_single performs_word) named

theorem performs_pragmas :
    Performs (listChecks [.text, .text] name (rowsOf stored)) (pragmas stored).outcome :=
  performs_list performs_pragma named

theorem performs_number : Performs (scalarChecks name stored) (number stored).outcome := by
  cases stored with
  | none => exact .ok 0
  | some table =>
      rw [← named table rfl]
      exact performs_scalar table

theorem performs_precision : Performs (scalarChecks name stored) (precision stored).outcome := by
  cases stored with
  | none => exact .ok FloatPrecision.full
  | some table =>
      rw [← named table rfl, precision, Step.outcome_bind, ← List.append_nil (scalarChecks _ _)]
      apply Performs.bind (performs_scalar table)
      intro value _
      cases FloatPrecision.ofWord? value with
      | none => exact .ok FloatPrecision.full
      | some known => exact .ok known

end Tables

/-- Decoded names and signatures are paired when there are as many rows of the one as of the other. -/
theorem performs_pairing {names signatures : Option Table} {nameList : List String}
    {signatureList : List UInt32} (decoded : (texts names).outcome = .ok nameList)
    (decoded' : (words signatures).outcome = .ok signatureList) :
    Performs
      [{ holds := (rowsOf names).length = (rowsOf signatures).length
         error := .kernelCountMismatch (rowsOf names).length (rowsOf signatures).length }]
      (Step.outcome <|
        if nameList.length = signatureList.length then
          return List.zipWith Kernel.mk nameList signatureList
        else
          Step.ofExcept
            (.error (.kernelCountMismatch nameList.length signatureList.length))) := by
  have nameCount : nameList.length = (rowsOf names).length := by
    rw [texts_eq_ok_iff.1 decoded, List.length_map]
  have signatureCount : signatureList.length = (rowsOf signatures).length := by
    rw [words_eq_ok_iff.1 decoded', List.length_map]
  rw [nameCount, signatureCount]
  apply Performs.check
  · intro paired
    rw [if_pos (show (rowsOf names).length = (rowsOf signatures).length from paired)]
    exact .ok (List.zipWith Kernel.mk nameList signatureList)
  · intro unpaired
    rw [if_neg (show ¬(rowsOf names).length = (rowsOf signatures).length from unpaired)]
    rfl

theorem performs_kernels {names signatures : Option Table}
    (named : ∀ table, names = some table → table.name = Schema.kernelNames)
    (named' : ∀ table, signatures = some table → table.name = Schema.kernelSignatures) :
    Performs (kernelChecks (rowsOf names) (rowsOf signatures))
      (kernels names signatures).outcome := by
  rw [kernels, Step.outcome_bind]
  apply Performs.bind (performs_texts named)
  intro nameList decoded
  rw [Step.outcome_bind]
  apply Performs.bind (performs_words named')
  intro signatureList decoded'
  exact performs_pairing decoded decoded'

/-- Every table that the source hands out has the name that it was asked under. -/
def SelfNamed (source : TableSource) : Prop :=
  ∀ name table, source name = some table → table.name = name

theorem performs_mandatory {source : TableSource} (named : SelfNamed source) :
    Performs (checks source) (mandatory source).outcome := by
  simp only [checks, mandatory, Step.outcome_bind, List.flatten_cons, List.flatten_nil]
  refine .bind (performs_number (named _)) fun version _ => ?_
  refine .bind (performs_number (named _)) fun level _ => ?_
  refine .bind (performs_precision (named _)) fun precision _ => ?_
  refine .bind (performs_texts (named _)) fun vars _ => ?_
  refine .bind (performs_texts (named _)) fun funcs _ => ?_
  refine .bind (performs_kernels (named _) (named _)) fun kernels _ => ?_
  refine .bind (performs_pragmas (named _)) fun pragmas _ => ?_
  exact .bind (performs_words (named _)) fun slots _ => .ok _

/-- What is decoded after the mandatory tables cannot fail. -/
theorem performs_extract {source : TableSource} (named : SelfNamed source) :
    Performs (checks source) (extract source).outcome := by
  rw [extract, Step.outcome_bind, ← List.append_nil (checks source)]
  exact (performs_mandatory named).bind fun metadata _ => .ok (advisory source metadata).value

end Extraction

namespace Extractor

open Check (AllHold FirstDefect Performs)
open Extraction

theorem selfNamed_source (module : Module) : SelfNamed module.source :=
  fun _ _ => Module.name_of_lookup

theorem performs_attempt (module : Module) (ownership : Ownership) (previous : Metadata) :
    Performs (checks module.source)
      (carrying module.source ownership previous).attempt.value.1 := by
  have performs := performs_extract (selfNamed_source module)
  rw [value_attempt_carrying]
  generalize (ScriptMetadata.extract module.source).outcome = result at performs ⊢
  cases performs with
  | passed held => exact .passed held
  | failed defect => exact .failed defect

/-- The checks and the schema ask for the same. -/
theorem allHold_checks_iff (module : Module) :
    AllHold (checks module.source) ↔ Conforms module.source :=
  (performs_extract (selfNamed_source module)).exists_eq_ok_iff.symm.trans exists_extract_iff

/-- An extraction over a module that fails reports the first check that does not hold, whatever was
extracted before; it succeeds when all of them hold. -/
theorem attempt_reports_first_defect (module : Module) (ownership : Ownership)
    (previous : Metadata) :
    (∀ cause, (carrying module.source ownership previous).attempt.value.1 = .error cause ↔
        FirstDefect (checks module.source) cause) ∧
      ((carrying module.source ownership previous).attempt.value.1 = .ok () ↔
        AllHold (checks module.source)) := by
  have performs := performs_attempt module ownership previous
  refine ⟨fun _ => performs.eq_error_iff, ?_⟩
  rw [← performs.exists_eq_ok_iff]
  exact ⟨fun succeeded => ⟨(), succeeded⟩, fun ⟨_, succeeded⟩ => succeeded⟩

end Extractor

end ScriptMetadata
