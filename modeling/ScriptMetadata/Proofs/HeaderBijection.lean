import Mathlib.Data.Set.Function
import ScriptMetadata.Proofs.HeaderReplacement

/-!
Headers and strings of 64 bytes are the same thing in two forms. The fields stand one behind the
other without a gap, so writing each at its address gives the encoding, and no byte of the 64 is
left out when they are read.
-/

set_option autoImplicit false

namespace ScriptMetadata

/-! ### Fields one behind the other -/

/-- Each field starts where the one before it stops, the first one at a given position. -/
def Contiguous : Nat → List Placement → Prop
  | _, [] => True
  | position, field :: later =>
      field.start = position ∧ field.start + field.content.length = field.stop ∧
        Contiguous field.stop later

namespace Checked

/-- A field behind the part that is written already takes its place at the front of the rest. -/
theorem overwrite_append {written rest : List UInt8} {field : Placement}
    (follows : field.start = written.length)
    (sized : field.start + field.content.length = field.stop)
    (room : field.content.length ≤ rest.length) :
    overwrite (written ++ rest) field =
      .ok ((written ++ field.content) ++ rest.drop field.content.length) := by
  have inside : field.stop ≤ (written ++ rest).length := by
    rw [List.length_append]
    omega
  rw [overwrite, if_pos ⟨sized, inside⟩, ← sized, follows, List.take_left, ← List.drop_drop,
    List.drop_left]

theorem foldlM_overwrite {fields : List Placement} {written rest : List UInt8}
    (contiguous : Contiguous written.length fields)
    (room : (fields.flatMap Placement.content).length ≤ rest.length) :
    fields.foldlM overwrite (written ++ rest) =
      .ok (written ++ fields.flatMap Placement.content ++
        rest.drop (fields.flatMap Placement.content).length) := by
  induction fields generalizing written rest with
  | nil => simp [pure, Except.pure]
  | cons field later induction =>
      -- What is written so far is the front of the buffer, and the next field starts behind it.
      obtain ⟨follows, sized, behind⟩ := contiguous
      rw [List.flatMap_cons, List.length_append] at room
      have placed : (written ++ field.content).length = field.stop := by
        rw [List.length_append, ← follows, sized]
      have left : (later.flatMap Placement.content).length ≤
          (rest.drop field.content.length).length := by
        rw [List.length_drop]
        omega
      have continued := induction (placed ▸ behind) left
      rw [List.foldlM_cons, overwrite_append follows sized (by omega)]
      change later.foldlM overwrite _ = _
      rw [continued, List.flatMap_cons, List.length_append, List.drop_drop,
        List.append_assoc written]

end Checked

namespace Container

open LittleEndian

namespace Header

theorem contiguous_fields (header : Header) : Contiguous 0 header.fields := by
  simp [fields, Contiguous]

theorem flatMap_fields (header : Header) :
    header.fields.flatMap Placement.content = header.encode.data.toList := by
  rw [toList_encode]
  simp [fields, words]

theorem writeFields_eq_ok (header : Header) : header.writeFields = .ok header.encode := by
  have size : (header.fields.flatMap Placement.content).length = headerSize := by
    rw [flatMap_fields]
    exact header.size_encode
  have blank : (List.replicate headerSize (0 : UInt8)).length = headerSize := List.length_replicate
  have contiguous : Contiguous ([] : List UInt8).length header.fields := header.contiguous_fields
  have written := Checked.foldlM_overwrite contiguous (Nat.le_of_eq (size.trans blank.symm))
  have used : (List.replicate headerSize (0 : UInt8)).drop headerSize = [] :=
    List.drop_eq_nil_of_le (Nat.le_of_eq blank)
  rw [List.nil_append, List.nil_append, size, used, List.append_nil, flatMap_fields] at written
  rw [writeFields, written]
  exact congrArg Except.ok (eq_of_toList_eq List.toList_data_toByteArray)

variable {bytes : ByteArray}

theorem decode_eq_error_iff (fault : Fault) :
    decode bytes = .error fault ↔ bytes.size < 64 ∧ fault = .headerTooShort := by
  by_cases complete : headerSize ≤ bytes.size
  · rw [decode_eq_ok complete]
    have long : ¬bytes.size < 64 := Nat.not_lt.2 complete
    simp [long]
  · rw [decode_of_incomplete complete]
    have short : bytes.size < 64 := Nat.not_le.1 complete
    simp [short, eq_comm]

theorem decode_encode (header : Header) : decode header.encode = .ok header := by
  have appended := header.decode_encode_append ByteArray.empty
  rwa [ByteArray.append_empty] at appended

theorem encode_headerAt (complete : headerSize ≤ bytes.size) :
    (headerAt bytes).encode = bytes.extract 0 64 := by
  apply eq_of_toList_eq
  rw [toList_encode_headerAt complete, toList_extract]
  rfl

theorem encode_injective : Function.Injective encode := by
  intro header other same
  have decoded := congrArg decode same
  rw [decode_encode, decode_encode] at decoded
  exact Except.ok.inj decoded

/-- Two strings that agree in their first 64 bytes are both too short or hold one header. -/
theorem decode_congr {other : ByteArray} (same : bytes.extract 0 64 = other.extract 0 64) :
    decode bytes = decode other := by
  have sizes := congrArg ByteArray.size same
  rw [ByteArray.size_extract, ByteArray.size_extract] at sizes
  have size : headerSize = 64 := rfl
  by_cases complete : headerSize ≤ bytes.size
  · have complete' : headerSize ≤ other.size := by omega
    rw [decode_eq_ok complete, decode_eq_ok complete']
    apply congrArg Except.ok
    apply encode_injective
    rw [encode_headerAt complete, encode_headerAt complete', same]
  · have short' : ¬headerSize ≤ other.size := by omega
    rw [decode_of_incomplete complete, decode_of_incomplete short']

theorem bijOn_encode : Set.BijOn encode Set.univ {bytes | bytes.size = 64} := by
  refine ⟨fun header _ => header.size_encode, encode_injective.injOn, ?_⟩
  intro bytes exact_size
  have size : bytes.size = 64 := exact_size
  refine ⟨headerAt bytes, Set.mem_univ _, ?_⟩
  rw [encode_headerAt (Nat.le_of_eq size.symm), ← size, ByteArray.extract_zero_size]

end Header

/-- Writing the fields of a header and reading them are inverse to each other on the first 64 bytes.
Nothing behind these bytes is looked at, and reading fails only when they are not all there. -/
theorem header_encoding_exact :
    (∀ header : Header, header.writeFields = .ok header.encode ∧
        Header.decode header.encode = .ok header) ∧
      (∀ bytes, Header.readFields bytes = Header.decode bytes ∧
        (∀ fault, Header.decode bytes = .error fault ↔ bytes.size < 64 ∧ fault = .headerTooShort) ∧
        (64 ≤ bytes.size →
          ∃ header, Header.decode bytes = .ok header ∧ header.encode = bytes.extract 0 64) ∧
        ∀ other, bytes.extract 0 64 = other.extract 0 64 →
          Header.decode bytes = Header.decode other) ∧
      Set.BijOn Header.encode Set.univ {bytes | bytes.size = 64} := by
  refine ⟨fun header => ⟨header.writeFields_eq_ok, Header.decode_encode header⟩, ?_,
    Header.bijOn_encode⟩
  intro bytes
  refine ⟨Header.readFields_eq_decode, Header.decode_eq_error_iff, ?_,
    fun other same => Header.decode_congr same⟩
  intro complete
  exact ⟨headerAt bytes, Header.decode_eq_ok complete, Header.encode_headerAt complete⟩

/-- The bytes from 0 to 63, and one more. -/
def countingBytes (last : UInt8) : ByteArray :=
  ((List.range 64).map UInt8.ofNat ++ [last]).toByteArray

theorem header_encoding_countingBytes :
    64 ≤ (countingBytes 1).size ∧
      (countingBytes 1).extract 0 64 = (countingBytes 2).extract 0 64 ∧
      Header.decode (countingBytes 1) = Header.decode (countingBytes 2) ∧
      ∃ header, Header.decode (countingBytes 1) = .ok header ∧ header.tableCount = 0x1B1A1918 ∧
        header.encode = (countingBytes 1).extract 0 64 := by
  obtain ⟨-, exactly, -⟩ := header_encoding_exact
  obtain ⟨-, -, complete, front⟩ := exactly (countingBytes 1)
  have size : 64 ≤ (countingBytes 1).size := by decide +kernel
  have same : (countingBytes 1).extract 0 64 = (countingBytes 2).extract 0 64 := by decide +kernel
  have tables : (Header.decode (countingBytes 1)).map Header.tableCount = .ok 0x1B1A1918 := by
    decide +kernel
  obtain ⟨header, decoded, encoded⟩ := complete size
  rw [decoded] at tables
  exact ⟨size, same, front _ same, header, decoded, Except.ok.inj tables, encoded⟩

end Container

end ScriptMetadata
