/-!
Reading and writing bytes. A read that would leave its buffer, and a number that does not fit its
word, answer with a `Fault` instead of a value; a container is loaded through such reads alone. The
plain reads beside them count bytes past the end of the buffer as zero.
-/

set_option autoImplicit false

namespace ScriptMetadata

/-! ### Checked reads and checked words -/

inductive Fault where
  | headerTooShort
  | outOfRange
  | overflow
  deriving DecidableEq

namespace Fault

def message : Fault → String
  | headerTooShort => "header too short"
  | outOfRange => "read outside the buffer"
  | overflow => "number does not fit its word"

end Fault

namespace Checked

/-- The number as a 32-bit word. -/
def word32 (value : Nat) : Except Fault UInt32 :=
  if value < UInt32.size then .ok (UInt32.ofNat value) else .error .overflow

/-- The number as a 64-bit word. -/
def word64 (value : Nat) : Except Fault UInt64 :=
  if value < UInt64.size then .ok (UInt64.ofNat value) else .error .overflow

/-- The `length` bytes from `start` on, all of which have to be there. -/
def slice (bytes : ByteArray) (start length : Nat) : Except Fault ByteArray :=
  if start + length ≤ bytes.size then .ok (bytes.extract start (start + length))
  else .error .outOfRange

/-- The byte at an address that has to be there. -/
def byte (bytes : ByteArray) (start : Nat) : Except Fault UInt8 :=
  match bytes[start]? with
  | some value => .ok value
  | none => .error .outOfRange

/-- The element at an index that has to be there. -/
def element {α : Type} (values : Array α) (index : Nat) : Except Fault α :=
  match values[index]? with
  | some value => .ok value
  | none => .error .outOfRange

theorem word32_eq_ok {value : Nat} (fits : value < UInt32.size) :
    word32 value = .ok (UInt32.ofNat value) := if_pos fits

theorem word64_eq_ok {value : Nat} (fits : value < UInt64.size) :
    word64 value = .ok (UInt64.ofNat value) := if_pos fits

theorem slice_eq_ok {bytes : ByteArray} {start length : Nat}
    (inside : start + length ≤ bytes.size) :
    slice bytes start length = .ok (bytes.extract start (start + length)) := if_pos inside

theorem element_eq_ok {α : Type} {values : Array α} {index : Nat} {value : α}
    (found : values[index]? = some value) : element values index = .ok value := by
  simp [element, found]

end Checked

/-! ### Numbers, the least significant byte first -/

namespace LittleEndian

def encode : Nat → Nat → List UInt8
  | 0, _ => []
  | width + 1, value => UInt8.ofNat value :: encode width (value / 256)

def decode : List UInt8 → Nat
  | [] => 0
  | byte :: rest => byte.toNat + 256 * decode rest

def encodeWord32 (value : UInt32) : List UInt8 := encode 4 value.toNat

def encodeWord64 (value : UInt64) : List UInt8 := encode 8 value.toNat

/-- The number in the bytes of a range; bytes past the end of the buffer count as zero. -/
def numberAt (bytes : ByteArray) (start width : Nat) : Nat :=
  decode (bytes.extract start (start + width)).data.toList

def word32At (bytes : ByteArray) (start : Nat) : UInt32 := UInt32.ofNat (numberAt bytes start 4)

/-- Reads four bytes that have to be there. -/
def readWord32 (bytes : ByteArray) (start : Nat) : Except Fault UInt32 := do
  let field ← Checked.slice bytes start 4
  return UInt32.ofNat (decode field.data.toList)

/-- Reads eight bytes that have to be there. -/
def readWord64 (bytes : ByteArray) (start : Nat) : Except Fault UInt64 := do
  let field ← Checked.slice bytes start 8
  return UInt64.ofNat (decode field.data.toList)

@[simp] theorem length_encode (width value : Nat) : (encode width value).length = width := by
  induction width generalizing value with
  | zero => rfl
  | succ width induction => simp [encode, induction]

@[simp] theorem length_encodeWord32 (value : UInt32) : (encodeWord32 value).length = 4 :=
  length_encode 4 value.toNat

@[simp] theorem length_encodeWord64 (value : UInt64) : (encodeWord64 value).length = 8 :=
  length_encode 8 value.toNat

theorem encode_decode (bytes : List UInt8) : encode bytes.length (decode bytes) = bytes := by
  induction bytes with
  | nil => rfl
  | cons byte rest induction =>
      have bounded := byte.toNat_lt
      have high : (byte.toNat + 256 * decode rest) / 256 = decode rest := by omega
      have low : UInt8.ofNat (byte.toNat + 256 * decode rest) = byte := by
        apply UInt8.toNat_inj.1
        rw [UInt8.toNat_ofNat']
        omega
      simp only [List.length_cons, encode, decode, high, low, induction]

/-- A checked read inside the buffer is the plain one. -/
theorem readWord32_eq_ok {bytes : ByteArray} {start : Nat} (inside : start + 4 ≤ bytes.size) :
    readWord32 bytes start = .ok (word32At bytes start) := by
  rw [readWord32, Checked.slice_eq_ok inside]
  rfl

theorem readWord64_eq_ok {bytes : ByteArray} {start : Nat} (inside : start + 8 ≤ bytes.size) :
    readWord64 bytes start = .ok (UInt64.ofNat (numberAt bytes start 8)) := by
  rw [readWord64, Checked.slice_eq_ok inside]
  rfl

end LittleEndian

/-! ### The cyclic redundancy check in its reflected form -/

namespace Crc32

/-- The generator polynomial, least significant bit first. -/
def polynomial : UInt32 := 0xEDB88320

/-- One shift: the bit that leaves the register decides whether the polynomial is subtracted. -/
def shift (register : UInt32) : UInt32 :=
  if register &&& 1 = 1 then (register >>> 1) ^^^ polynomial else register >>> 1

/-- Eight shifts, those of one byte. -/
def shiftByte (register : UInt32) : UInt32 :=
  shift (shift (shift (shift (shift (shift (shift (shift register)))))))

def update (register : UInt32) (byte : UInt8) : UInt32 :=
  shiftByte (register ^^^ byte.toUInt32)

/-- The register after a run of bytes. -/
def run (register : UInt32) (bytes : List UInt8) : UInt32 := bytes.foldl update register

/-- The register starts with all bits set and is inverted at the end. -/
def checksum (bytes : List UInt8) : UInt32 := run 0xFFFFFFFF bytes ^^^ 0xFFFFFFFF

@[simp] theorem run_nil (register : UInt32) : run register [] = register := rfl

@[simp] theorem run_cons (register : UInt32) (byte : UInt8) (rest : List UInt8) :
    run register (byte :: rest) = run (update register byte) rest := rfl

theorem run_append (register : UInt32) (first second : List UInt8) :
    run register (first ++ second) = run (run register first) second := by
  simp [run]

end Crc32

end ScriptMetadata
