/-!
What an extraction yields, and the reserved names of the tables that say it; all other tables are
ignored. Kernel names come with their signatures and pragma keys with their values, so that neither
list can be longer than its partner.
-/

set_option autoImplicit false

namespace ScriptMetadata

namespace Schema

def vars : String := "#rs_export_var"

def funcs : String := "#rs_export_func"

def kernelNames : String := "#rs_export_foreach_name"

def kernelSignatures : String := "#rs_export_foreach"

def pragmas : String := "#pragma"

def objectSlots : String := "#rs_object_slots"

def compilerVersion : String := "#rs_compiler_version"

def optimizationLevel : String := "#rs_optimization_level"

def floatPrecision : String := "#rs_float_precision"

def threadable : String := "#rs_is_threadable"

def buildChecksum : String := "#rs_build_checksum"

def debugInfo : String := "llvm.dbg.cu"

/-- The tables of which a malformed one fails an extraction, in the order of decoding. -/
def mandatory : List String :=
  [compilerVersion, optimizationLevel, floatPrecision, vars, funcs, kernelNames, kernelSignatures,
    pragmas, objectSlots]

/-- The tables of which a malformed one is set aside. -/
def advisory : List String := [threadable, buildChecksum, debugInfo]

def reserved : List String := mandatory ++ advisory

theorem nodup_reserved : reserved.Nodup := by decide

end Schema

/-- The least floating-point precision that a script needs. -/
inductive FloatPrecision where
  | full
  | relaxed
  deriving DecidableEq

namespace FloatPrecision

def ofWord? (value : UInt32) : Option FloatPrecision :=
  if value = 0 then some full else if value = 1 then some relaxed else none

def toWord : FloatPrecision → UInt32
  | full => 0
  | relaxed => 1

def label : FloatPrecision → String
  | full => "full"
  | relaxed => "relaxed"

@[simp] theorem ofWord?_toWord (precision : FloatPrecision) :
    ofWord? precision.toWord = some precision := by
  cases precision <;> rfl

theorem ofWord?_eq_some_iff {value : UInt32} {precision : FloatPrecision} :
    ofWord? value = some precision ↔ value = precision.toWord := by
  constructor
  · intro known
    unfold ofWord? at known
    split at known
    · cases known
      assumption
    · split at known
      · cases known
        assumption
      · contradiction
  · rintro rfl
    exact ofWord?_toWord precision

end FloatPrecision

/-- An exported function that runs once for each cell of an allocation. -/
structure Kernel where
  name : String
  /-- Which arguments the kernel takes, one bit each; bits without a meaning are kept. -/
  signature : UInt32
  deriving DecidableEq

structure Pragma where
  key : String
  value : String
  deriving DecidableEq

/-- The default value is what holds before the first extraction and after a failed one. -/
structure Metadata where
  vars : List String := []
  funcs : List String := []
  kernels : List Kernel := []
  pragmas : List Pragma := []
  objectSlots : List UInt32 := []
  compilerVersion : UInt32 := 0
  optimizationLevel : UInt32 := 0
  floatPrecision : FloatPrecision := .full
  threadable : Bool := true
  buildChecksum : Option String := none
  debugInfo : Bool := false
  deriving DecidableEq

namespace Metadata

def kernelNames (metadata : Metadata) : List String := metadata.kernels.map Kernel.name

def kernelSignatures (metadata : Metadata) : List UInt32 := metadata.kernels.map Kernel.signature

def pragmaKeys (metadata : Metadata) : List String := metadata.pragmas.map Pragma.key

def pragmaValues (metadata : Metadata) : List String := metadata.pragmas.map Pragma.value

end Metadata

end ScriptMetadata
