import ScriptMetadata.Bytes

/-!
The 64-byte header of a container: four magic bytes, eight little-endian words and 28 reserved
bytes. Every string of 64 bytes is the encoding of exactly one header. The header is also read and
written field by field, each at its own address; reading so asks for the whole header first, and
every read and every write after that names its bytes, which have to be there.
-/

set_option autoImplicit false

namespace ScriptMetadata.Container

open LittleEndian

/-- The bytes of "BCMD". -/
def magic : Vector UInt8 4 := #v[0x42, 0x43, 0x4D, 0x44]

def formatVersion : UInt32 := 1

def headerSize : Nat := 64

structure Header where
  magic : Vector UInt8 4 := Container.magic
  version : UInt32 := formatVersion
  checksum : UInt32 := 0
  totalSize : UInt32 := 0
  blobSize : UInt32 := 0
  stringCount : UInt32 := 0
  tableCount : UInt32 := 0
  nodeCount : UInt32 := 0
  operandCount : UInt32 := 0
  reserved : Vector UInt8 28 := Vector.replicate 28 0
  deriving DecidableEq

namespace Header

/-- Reads the first 64 bytes; what follows them is not looked at. -/
def decode (bytes : ByteArray) : Except Fault Header :=
  if complete : 64 ≤ bytes.size then
    .ok {
      magic := ⟨(bytes.extract 0 4).data, by
        have size := ByteArray.size_extract (a := bytes) (b := 0) (e := 4)
        rw [ByteArray.size] at size
        omega⟩
      version := word32At bytes 4
      checksum := word32At bytes 8
      totalSize := word32At bytes 12
      blobSize := word32At bytes 16
      stringCount := word32At bytes 20
      tableCount := word32At bytes 24
      nodeCount := word32At bytes 28
      operandCount := word32At bytes 32
      reserved := ⟨(bytes.extract 36 64).data, by
        have size := ByteArray.size_extract (a := bytes) (b := 36) (e := 64)
        rw [ByteArray.size] at size
        omega⟩ }
  else .error .headerTooShort

/-- The words between the magic and the reserved bytes, in their order in the file. -/
def words (header : Header) : List UInt32 :=
  [header.version, header.checksum, header.totalSize, header.blobSize, header.stringCount,
    header.tableCount, header.nodeCount, header.operandCount]

def encode (header : Header) : ByteArray :=
  (header.magic.toList ++ header.words.flatMap encodeWord32 ++ header.reserved.toList).toByteArray

def hasMagic (header : Header) : Bool := header.magic == Container.magic

def hasFormatVersion (header : Header) : Bool := header.version == formatVersion

end Header

end ScriptMetadata.Container

/-! ### Fields at their addresses -/

namespace ScriptMetadata

/-- Bytes that go into a buffer from one position to another. -/
structure Placement where
  start : Nat
  stop : Nat
  content : List UInt8

namespace Checked

/-- The bytes of a field of fixed size, all of which have to be there. -/
def bytes (buffer : ByteArray) (start size : Nat) : Except Fault (Vector UInt8 size) :=
  if inside : start + size ≤ buffer.size then
    .ok ⟨(buffer.extract start (start + size)).data, by
      have length := ByteArray.size_extract (a := buffer) (b := start) (e := start + size)
      rw [ByteArray.size] at length
      omega⟩
  else .error .outOfRange

/-- The buffer with a field in its place, which has to lie inside and to be as long as the field. -/
def overwrite (buffer : List UInt8) (field : Placement) : Except Fault (List UInt8) :=
  if field.start + field.content.length = field.stop ∧ field.stop ≤ buffer.length then
    .ok (buffer.take field.start ++ field.content ++ buffer.drop field.stop)
  else .error .outOfRange

end Checked

namespace Container.Header

open LittleEndian

def readFields (buffer : ByteArray) : Except Fault Header := do
  if buffer.size < headerSize then .error .headerTooShort
  else
    let reserved ← Checked.bytes buffer 36 28
    let magic ← Checked.bytes buffer 0 4
    let version ← readWord32 buffer 4
    let checksum ← readWord32 buffer 8
    let totalSize ← readWord32 buffer 12
    let blobSize ← readWord32 buffer 16
    let stringCount ← readWord32 buffer 20
    let tableCount ← readWord32 buffer 24
    let nodeCount ← readWord32 buffer 28
    let operandCount ← readWord32 buffer 32
    return {
      magic, version, checksum, totalSize, blobSize, stringCount, tableCount, nodeCount,
      operandCount, reserved }

def fields (header : Header) : List Placement :=
  [⟨0, 4, header.magic.toList⟩,
    ⟨4, 8, encodeWord32 header.version⟩,
    ⟨8, 12, encodeWord32 header.checksum⟩,
    ⟨12, 16, encodeWord32 header.totalSize⟩,
    ⟨16, 20, encodeWord32 header.blobSize⟩,
    ⟨20, 24, encodeWord32 header.stringCount⟩,
    ⟨24, 28, encodeWord32 header.tableCount⟩,
    ⟨28, 32, encodeWord32 header.nodeCount⟩,
    ⟨32, 36, encodeWord32 header.operandCount⟩,
    ⟨36, 64, header.reserved.toList⟩]

/-- Puts one field after the other into a buffer of zeros. -/
def writeFields (header : Header) : Except Fault ByteArray := do
  let buffer ← header.fields.foldlM Checked.overwrite (List.replicate headerSize 0)
  return buffer.toByteArray

end Container.Header

end ScriptMetadata
