import ScriptMetadata.Container.Entry
import ScriptMetadata.Text

/-!
Why bytes are not a container.
-/

set_option autoImplicit false

namespace ScriptMetadata.Container

inductive LoadError where
  | fileTooSmall (size : Nat)
  | invalidMagic
  | unsupportedVersion (version : UInt32)
  | sizeMismatch (declared : UInt32) (actual : Nat)
  | checksumMismatch (declared computed : UInt32)
  | sectionsOutOfBounds (finish : UInt64) (size : Nat)
  | invalidStringRange (index : Nat) (start stop : UInt32) (blobSize : Nat)
  | invalidUtf8 (index : Nat)
  | invalidStringId (id : UInt64) (count : Nat)
  | duplicateTable (name : String)
  | nodeRangeOutOfBounds (table : String) (range : EntryRange)
  | operandRangeOutOfBounds (node : Nat) (range : EntryRange)
  | invalidOperandTag (index : Nat) (tag : UInt8)
  /-- A checked read or word failed; the checks of the loader rule this out. -/
  | fault (cause : Fault)
  deriving DecidableEq

/-- A failed read inside the loader is an error of the loader. -/
instance : MonadLift (Except Fault) (Except LoadError) where
  monadLift read := read.mapError .fault

namespace LoadError

/-- A checksum is shown with all eight digits. -/
def checksumText (checksum : UInt32) : String :=
  String.ofList (Text.markedHexadecimal 8 checksum.toNat)

def message : LoadError → String
  | fileTooSmall size => s!"file too small: {size} bytes (minimum {headerSize})"
  | invalidMagic => "invalid magic: expected BCMD"
  | unsupportedVersion version =>
      s!"unsupported version: {version} (expected {formatVersion})"
  | sizeMismatch declared actual =>
      s!"size mismatch: header says {declared} bytes, got {actual}"
  | checksumMismatch declared computed =>
      s!"checksum mismatch: header says {checksumText declared}, " ++
        s!"computed {checksumText computed}"
  | sectionsOutOfBounds finish size =>
      s!"sections end at byte {finish}, past the {size}-byte file"
  | invalidStringRange index start stop blobSize =>
      s!"string {index}: range {start}..{stop} outside the {blobSize}-byte blob"
  | invalidUtf8 index => s!"string {index}: invalid UTF-8"
  | invalidStringId id count => s!"string id {id} out of range ({count} strings)"
  | duplicateTable name => s!"duplicate table name `{name}`"
  | nodeRangeOutOfBounds table ⟨first, count⟩ =>
      s!"table `{table}`: nodes {first}..{first}+{count} out of range"
  | operandRangeOutOfBounds node ⟨first, count⟩ =>
      s!"node {node}: operands {first}..{first}+{count} out of range"
  | invalidOperandTag index tag => s!"operand {index}: invalid tag {tag}"
  | fault cause => cause.message

end LoadError

end ScriptMetadata.Container
