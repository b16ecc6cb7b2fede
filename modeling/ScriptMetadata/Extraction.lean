import ScriptMetadata.Event
import ScriptMetadata.Extraction.Rows
import ScriptMetadata.Metadata

/-!
Extraction decodes the reserved tables of a source in a fixed order. The first defect of a mandatory
table ends it; a defect of an advisory table is reported and the table counts as absent.
-/

set_option autoImplicit false

namespace ScriptMetadata.Extraction

/-- A step of an extraction: it may fail, and it records events in either case. -/
abbrev Step := ExceptT Failure (Logged Event)

namespace Step

def ofExcept {α : Type} (result : Except Failure α) : Step α := ExceptT.mk (pure result)

def record (event : Event) : Step Unit := ExceptT.lift (Logged.record event)

end Step

/-- A list table. An absent one is empty; a decoded one is reported with its number of rows. -/
def list {α : Type} (decode : RowDecoder α) (decoded : String → Nat → Event) :
    Option Table → Step (List α)
  | none => return []
  | some table => do
      let values ← Step.ofExcept (rows decode table)
      Step.record (decoded table.name values.length)
      return values

def texts : Option Table → Step (List String) := list (single text) .rowsDecoded

def words : Option Table → Step (List UInt32) := list (single word) .rowsDecoded

def pragmas : Option Table → Step (List Pragma) := list pragma .pragmasDecoded

/-- A version or level. -/
def number : Option Table → Step UInt32
  | none => return 0
  | some table => Step.ofExcept (scalar word table)

/-- An unknown precision is reported and counts as full. -/
def precision : Option Table → Step FloatPrecision
  | none => return .full
  | some table => do
      let value ← Step.ofExcept (scalar word table)
      match FloatPrecision.ofWord? value with
      | some known => return known
      | none => do
          Step.record (.unknownPrecision table.name value)
          return .full

/-- Names and signatures are decoded one table after the other and then paired by position. -/
def kernels (names signatures : Option Table) : Step (List Kernel) := do
  let names ← texts names
  let signatures ← words signatures
  if names.length = signatures.length then return List.zipWith Kernel.mk names signatures
  else Step.ofExcept (.error (.kernelCountMismatch names.length signatures.length))

/-- The text of an advisory table; a malformed table is reported and counts as absent. -/
def advisoryText : Option Table → Logged Event (Option String)
  | none => return none
  | some table =>
      match scalar text table with
      | .ok value => return some value
      | .error cause => do
          Logged.record (.advisoryIgnored cause)
          return none

/-- A script is threadable unless its table says "no"; any other flag is reported. -/
def threadable : Option Table → Logged Event Bool
  | none => return true
  | some table => do
      match ← advisoryText (some table) with
      | none => return true
      | some "yes" => return true
      | some "no" => return false
      | some flag => do
          Logged.record (.unknownFlag table.name flag)
          return true

/-- The mandatory part; the advisory fields keep their defaults. -/
def mandatory (source : TableSource) : Step Metadata := do
  let compilerVersion ← number (source Schema.compilerVersion)
  let optimizationLevel ← number (source Schema.optimizationLevel)
  let floatPrecision ← precision (source Schema.floatPrecision)
  let vars ← texts (source Schema.vars)
  let funcs ← texts (source Schema.funcs)
  let kernels ← kernels (source Schema.kernelNames) (source Schema.kernelSignatures)
  let pragmas ← pragmas (source Schema.pragmas)
  let objectSlots ← words (source Schema.objectSlots)
  return { compilerVersion, optimizationLevel, floatPrecision, vars, funcs, kernels, pragmas,
           objectSlots }

/-- The advisory part of the metadata. -/
def advisory (source : TableSource) (metadata : Metadata) : Logged Event Metadata := do
  let threadable ← threadable (source Schema.threadable)
  let buildChecksum ← advisoryText (source Schema.buildChecksum)
  let debugInfo := (source Schema.debugInfo).any fun table => !table.rows.isEmpty
  return { metadata with threadable, buildChecksum, debugInfo }

end Extraction

/-- All metadata of a source, or the first defect. -/
def extract (source : TableSource) : Extraction.Step Metadata := do
  let metadata ← Extraction.mandatory source
  ExceptT.lift (Extraction.advisory source metadata)

end ScriptMetadata
