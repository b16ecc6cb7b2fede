import ScriptMetadata.Container
import ScriptMetadata.Extraction

/-!
An extractor holds a source of tables and the metadata of its latest extraction. An extraction
replaces the metadata as a whole: by what it decoded, or by the default when it failed.
-/

set_option autoImplicit false

namespace ScriptMetadata

inductive Ownership where
  | owned
  | borrowed
  deriving DecidableEq

/-- A source and whether it belongs to the extractor alone. -/
structure Holding where
  source : TableSource
  ownership : Ownership

structure Extractor where
  holding : Except Container.LoadError Holding
  metadata : Metadata := {}

namespace Extractor

def ofSource (source : TableSource) (ownership : Ownership) : Extractor where
  holding := .ok { source, ownership }

/-- Loads a container, which the extractor then owns; bytes that do not load make every extraction
fail. -/
def ofBytes (options : Container.LoadOptions) (bytes : ByteArray) : Logged Event Extractor := do
  match ← Container.loadLogged options bytes with
  | .ok module => return ofSource module.source .owned
  | .error cause => do
      Logged.record (.moduleRejected bytes.size cause)
      return { holding := .error cause }

def isLoaded (extractor : Extractor) : Bool := extractor.holding.isOk

def isOwner (extractor : Extractor) : Bool :=
  match extractor.holding with
  | .ok holding => holding.ownership = .owned
  | .error _ => false

/-- The table that the source hands out under a name. -/
def lookup (extractor : Extractor) (name : String) : Option Table :=
  match extractor.holding with
  | .ok holding => holding.source name
  | .error _ => none

/-- The same extractor after its source has come to answer differently. -/
def withSource (extractor : Extractor) (source : TableSource) : Extractor :=
  { extractor with holding := extractor.holding.map fun holding => { holding with source } }

/-- What an extraction would yield now. -/
def decode (extractor : Extractor) :
    Logged Event (Except Extraction.Failure Metadata) :=
  match extractor.holding with
  | .ok holding => (ScriptMetadata.extract holding.source).run
  | .error cause => return .error (.load cause)

/-- Runs an extraction and says why it failed, if it did. -/
def attempt (extractor : Extractor) :
    Logged Event (Except Extraction.Failure Unit × Extractor) := do
  match ← extractor.decode with
  | .ok metadata => do
      Logged.record (.extracted metadata.vars.length metadata.funcs.length
        metadata.kernels.length metadata.pragmas.length metadata.objectSlots.length)
      return (.ok (), { extractor with metadata })
  | .error cause => do
      Logged.record (.extractionFailed cause)
      return (.error cause, { extractor with metadata := {} })

/-- Runs an extraction and says whether it succeeded. -/
def extract (extractor : Extractor) : Logged Event (Bool × Extractor) := do
  let (outcome, next) ← extractor.attempt
  return (outcome.isOk, next)

end Extractor

/-! ### The one-line text that shows the whole state of an extractor

Names of structures stand before braces, fields in a fixed order, lists in brackets. -/

namespace Inspection

def truth (value : Bool) : List Char := (if value then "true" else "false").toList

def list (elements : List (List Char)) : List Char :=
  '[' :: (", ".toList).intercalate elements ++ [']']

def texts (values : List String) : List Char := list (values.map Text.quote)

def words (values : List UInt32) : List Char :=
  list (values.map fun value => Text.decimal value.toNat)

def optionalText : Option String → List Char
  | none => "None".toList
  | some value => "Some(".toList ++ Text.quote value ++ [')']

def precision : FloatPrecision → List Char
  | .full => "Full".toList
  | .relaxed => "Relaxed".toList

/-- A structure with its fields in order. -/
def record (name : String) (fields : List (String × List Char)) : List Char :=
  name.toList ++ " \x7b ".toList ++
    (", ".toList).intercalate (fields.map fun (field, value) =>
      field.toList ++ ": ".toList ++ value) ++
    " \x7d".toList

def metadata (value : Metadata) : List Char :=
  record "ExtractedMetadata" [
    ("export_var_names", texts value.vars),
    ("export_func_names", texts value.funcs),
    ("export_for_each_names", texts value.kernelNames),
    ("export_for_each_signatures", words value.kernelSignatures),
    ("pragma_keys", texts value.pragmaKeys),
    ("pragma_values", texts value.pragmaValues),
    ("object_slots", words value.objectSlots),
    ("compiler_version", Text.decimal value.compilerVersion.toNat),
    ("optimization_level", Text.decimal value.optimizationLevel.toNat),
    ("float_precision", precision value.floatPrecision),
    ("is_threadable", truth value.threadable),
    ("build_checksum", optionalText value.buildChecksum),
    ("has_debug_info", truth value.debugInfo)]

def extractor (value : Extractor) : List Char :=
  record "MetadataExtractor" [
    ("loaded", truth value.isLoaded),
    ("owned", truth value.isOwner),
    ("metadata", metadata value.metadata)]

end Inspection

end ScriptMetadata
