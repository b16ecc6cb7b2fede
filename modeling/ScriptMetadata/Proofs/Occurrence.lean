import Mathlib.Data.List.Basic
import ScriptMetadata.Proofs.Words

/-!
Parts of a byte string. What a read at an address yields is derived from what stands there, not from
how the bytes around it came about.
-/

set_option autoImplicit false

namespace ScriptMetadata

open LittleEndian

theorem eq_of_toList_eq {first second : ByteArray}
    (same : first.data.toList = second.data.toList) : first = second :=
  ByteArray.ext (Array.toList_inj.1 same)

/-- The part stands in the whole from `start` on. -/
def OccursAt (part whole : List UInt8) (start : Nat) : Prop :=
  ∃ before after, whole = before ++ (part ++ after) ∧ before.length = start

namespace OccursAt

variable {part middle whole : List UInt8} {offset start : Nat}

theorem trans (inner : OccursAt part middle offset) (outer : OccursAt middle whole start) :
    OccursAt part whole (start + offset) := by
  obtain ⟨before, after, rfl, rfl⟩ := inner
  obtain ⟨first, last, rfl, rfl⟩ := outer
  exact ⟨first ++ before, after ++ last, by simp only [List.append_assoc], by simp⟩

theorem start_append (part rest : List UInt8) : OccursAt part (part ++ rest) 0 :=
  ⟨[], rest, rfl, rfl⟩

theorem end_append (before part : List UInt8) : OccursAt part (before ++ part) before.length :=
  ⟨before, [], by rw [List.append_nil], rfl⟩

theorem window (occurs : OccursAt part whole start) :
    (whole.drop start).take part.length = part := by
  obtain ⟨before, after, rfl, rfl⟩ := occurs
  rw [List.drop_left, List.take_left]

theorem end_le (occurs : OccursAt part whole start) : start + part.length ≤ whole.length := by
  obtain ⟨before, after, rfl, rfl⟩ := occurs
  simp only [List.length_append]
  omega

/-- Each part of a concatenation stands behind the parts before it. -/
theorem flatMap {Value : Type} (encode : Value → List UInt8) {values : List Value} {index : Nat}
    {value : Value} (found : values[index]? = some value) :
    OccursAt (encode value) (values.flatMap encode)
      ((values.take index).flatMap encode).length := by
  obtain ⟨below, rfl⟩ := List.getElem?_eq_some_iff.1 found
  refine ⟨(values.take index).flatMap encode, (values.drop (index + 1)).flatMap encode, ?_, rfl⟩
  rw [← List.flatMap_cons, ← List.drop_eq_getElem_cons below, ← List.flatMap_append,
    List.take_append_drop]

/-- Among parts of equal length each stands at a multiple of that length. -/
theorem flatMap_fixed {Value : Type} {encode : Value → List UInt8} {size : Nat}
    (fixed : ∀ value, (encode value).length = size) {values : List Value} {index : Nat}
    {value : Value} (found : values[index]? = some value) :
    OccursAt (encode value) (values.flatMap encode) (index * size) := by
  have below := (List.getElem?_eq_some_iff.1 found).1
  have start : ((values.take index).flatMap encode).length = index * size := by
    rw [List.length_flatMap]
    simp [fixed, Nat.min_eq_left (Nat.le_of_lt below)]
  rw [← start]
  exact flatMap encode found

end OccursAt

theorem toList_extract (bytes : ByteArray) (start stop : Nat) :
    (bytes.extract start stop).data.toList =
      (bytes.data.toList.drop start).take (stop - start) := by
  rw [ByteArray.data_extract, Array.toList_extract, List.extract_eq_take_drop]

theorem toList_extract_size (bytes : ByteArray) (start : Nat) :
    (bytes.extract start bytes.size).data.toList = bytes.data.toList.drop start := by
  rw [toList_extract, List.take_of_length_le]
  rw [List.length_drop]
  exact Nat.le_refl _

theorem extract_eq_of_occursAt {part whole : ByteArray} {start : Nat}
    (occurs : OccursAt part.data.toList whole.data.toList start) :
    whole.extract start (start + part.size) = part := by
  have window := occurs.window
  rw [Array.length_toList, ByteArray.size_data] at window
  apply eq_of_toList_eq
  rw [toList_extract, Nat.add_sub_cancel_left, window]

namespace LittleEndian

variable {bytes : ByteArray} {start : Nat}

theorem numberAt_eq_of_occursAt {part : List UInt8}
    (occurs : OccursAt part bytes.data.toList start) :
    numberAt bytes start part.length = decode part := by
  rw [numberAt, toList_extract, Nat.add_sub_cancel_left, occurs.window]

theorem word32At_eq_of_occursAt {value : UInt32}
    (occurs : OccursAt (encodeWord32 value) bytes.data.toList start) :
    word32At bytes start = value := by
  have number := numberAt_eq_of_occursAt occurs
  rw [decode_encodeWord32, length_encodeWord32] at number
  rw [word32At, number, UInt32.ofNat_toNat]

theorem word64At_eq_of_occursAt {value : UInt64}
    (occurs : OccursAt (encodeWord64 value) bytes.data.toList start) :
    UInt64.ofNat (numberAt bytes start 8) = value := by
  have number := numberAt_eq_of_occursAt occurs
  rw [decode_encodeWord64, length_encodeWord64] at number
  rw [number, UInt64.ofNat_toNat]

end LittleEndian

end ScriptMetadata
