import ScriptMetadata.Container.Resolution
import ScriptMetadata.Event

/-!
The binary container of a module: `emit` writes it and `load` reads it back. Loading checks the
bytes as a whole before it looks into the sections.
-/

set_option autoImplicit false

namespace ScriptMetadata.Container

structure LoadOptions where
  verifyChecksum : Bool := true
  deriving DecidableEq

/-- The checksum of the bytes after the header, which has to be there. -/
def readBodyChecksum (bytes : ByteArray) : Except Fault UInt32 := do
  let body ← Checked.slice bytes headerSize (bytes.size - headerSize)
  return Crc32.checksum body.data.toList

namespace Header

/-- What the header says about the whole file has to hold. -/
def validate (options : LoadOptions) (bytes : ByteArray) (header : Header) :
    Except LoadError Unit :=
  if !header.hasMagic then .error .invalidMagic
  else if !header.hasFormatVersion then .error (.unsupportedVersion header.version)
  else if header.totalSize.toNat ≠ bytes.size then
    .error (.sizeMismatch header.totalSize bytes.size)
  else if options.verifyChecksum then do
    let computed ← readBodyChecksum bytes
    if header.checksum ≠ computed then .error (.checksumMismatch header.checksum computed)
    else .ok ()
  else .ok ()

end Header

/-- The header and the module of a container. -/
def read (options : LoadOptions) (bytes : ByteArray) : Except LoadError (Header × Module) :=
  if bytes.size < headerSize then .error (.fileTooSmall bytes.size)
  else do
    let header ← Header.readFields bytes
    header.validate options bytes
    let layout ← Layout.ofHeader header
    if bytes.size < layout.finish.toNat then
      .error (.sectionsOutOfBounds layout.finish bytes.size)
    else do
      let image ← Image.read bytes header layout
      let module ← image.resolve
      return (header, module)

def load (options : LoadOptions) (bytes : ByteArray) : Except LoadError Module :=
  (read options bytes).map Prod.snd

def emit (module : Module) : ByteArray := (Image.ofModule module).encode

/-- Loads with a report: a module that loads is announced with the counts of its header. -/
def loadLogged (options : LoadOptions) (bytes : ByteArray) :
    Logged Event (Except LoadError Module) := do
  match read options bytes with
  | .ok (header, module) => do
      Logged.record (.moduleLoaded header.tableCount header.nodeCount header.operandCount)
      return .ok module
  | .error cause => return .error cause

theorem value_loadLogged (options : LoadOptions) (bytes : ByteArray) :
    (loadLogged options bytes).value = load options bytes := by
  unfold loadLogged load
  cases read options bytes <;> rfl

end ScriptMetadata.Container
