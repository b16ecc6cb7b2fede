import ScriptMetadata.Proofs.ImageReading

/-!
The header is read back from the front of any byte string that starts with its encoding, and it is
all that the first 64 bytes of a file say: encoding it gives these bytes again.
-/

set_option autoImplicit false

namespace ScriptMetadata

namespace LittleEndian

theorem encodeWord32_word32At {bytes : ByteArray} {start : Nat}
    (inside : start + 4 ≤ bytes.size) :
    encodeWord32 (word32At bytes start) = (bytes.data.toList.drop start).take 4 := by
  have length : (bytes.extract start (start + 4)).data.toList.length = 4 := by
    rw [Array.length_toList, ByteArray.size_data, ByteArray.size_extract]
    omega
  have bound := decode_lt (bytes.extract start (start + 4)).data.toList
  have written := encode_decode (bytes.extract start (start + 4)).data.toList
  rw [length] at bound written
  have narrow : (word32At bytes start).toNat = numberAt bytes start 4 :=
    UInt32.toNat_ofNat_of_lt' bound
  rw [encodeWord32, narrow, numberAt, written, toList_extract, Nat.add_sub_cancel_left]

end LittleEndian

/-- Windows of equal size that follow each other make up one window. -/
theorem flatMap_windows {α : Type} (values : List α) (start size count : Nat) :
    ((List.range count).flatMap fun index => (values.drop (start + index * size)).take size) =
      (values.drop start).take (count * size) := by
  induction count with
  | zero => simp
  | succ count induction =>
      rw [List.range_succ, List.flatMap_append, induction, List.flatMap_singleton, Nat.succ_mul,
        List.take_add, List.drop_drop]

namespace Container

open LittleEndian

namespace Header

variable (header : Header) (rest : ByteArray)

theorem toList_encode :
    header.encode.data.toList =
      header.magic.toList ++ (header.words.flatMap encodeWord32 ++ header.reserved.toList) := by
  rw [encode, List.toList_data_toByteArray, List.append_assoc]

theorem length_words : (header.words.flatMap encodeWord32).length = 32 := by
  simp [words, encodeWord32]

theorem size_encode : header.encode.size = headerSize := by
  rw [← ByteArray.size_data, ← Array.length_toList, toList_encode, List.length_append,
    List.length_append, length_words, Vector.length_toList, Vector.length_toList]
  rfl

theorem data_extract_of_occursAt {size start : Nat} {field : Vector UInt8 size}
    {bytes : ByteArray} (occurs : OccursAt field.toList bytes.data.toList start) :
    (bytes.extract start (start + size)).data = field.toArray := by
  have window := occurs.window
  rw [Vector.length_toList] at window
  apply Array.toList_inj.1
  rw [toList_extract, Nat.add_sub_cancel_left, window]
  rfl

theorem occursAt_encode :
    OccursAt header.encode.data.toList (header.encode ++ rest).data.toList 0 := by
  rw [ByteArray.toList_data_append]
  exact OccursAt.start_append _ _

theorem occursAt_magic :
    OccursAt header.magic.toList (header.encode ++ rest).data.toList 0 := by
  have inner := OccursAt.start_append header.magic.toList
    (header.words.flatMap encodeWord32 ++ header.reserved.toList)
  rw [← toList_encode] at inner
  exact inner.trans (header.occursAt_encode rest)

theorem occursAt_reserved :
    OccursAt header.reserved.toList (header.encode ++ rest).data.toList 36 := by
  have inner := OccursAt.end_append
    (header.magic.toList ++ header.words.flatMap encodeWord32) header.reserved.toList
  rw [List.append_assoc, ← toList_encode, List.length_append, length_words,
    Vector.length_toList] at inner
  have placed := inner.trans (header.occursAt_encode rest)
  rwa [Nat.zero_add] at placed

theorem word32At_encode (index : Nat) {word : UInt32} (found : header.words[index]? = some word) :
    word32At (header.encode ++ rest) (4 + index * 4) = word := by
  have word_placed := OccursAt.flatMap_fixed length_encodeWord32 found
  have words_placed : OccursAt (header.words.flatMap encodeWord32)
      header.encode.data.toList 4 := by
    rw [toList_encode]
    exact ⟨header.magic.toList, header.reserved.toList, rfl, Vector.length_toList⟩
  have placed := (word_placed.trans words_placed).trans (header.occursAt_encode rest)
  rw [Nat.zero_add] at placed
  exact word32At_eq_of_occursAt placed

theorem decode_encode_append : Header.decode (header.encode ++ rest) = .ok header := by
  have complete : 64 ≤ (header.encode ++ rest).size := by
    rw [ByteArray.size_append, size_encode, headerSize]
    omega
  have magic := data_extract_of_occursAt (header.occursAt_magic rest)
  have reserved := data_extract_of_occursAt (header.occursAt_reserved rest)
  have word := header.word32At_encode rest
  rw [decode, dif_pos complete]
  apply congrArg Except.ok
  cases header
  rw [Header.mk.injEq]
  exact ⟨Vector.toArray_inj.1 magic, word 0 rfl, word 1 rfl, word 2 rfl, word 3 rfl, word 4 rfl,
    word 5 rfl, word 6 rfl, word 7 rfl, Vector.toArray_inj.1 reserved⟩

end Header

section Complete

variable {bytes : ByteArray} (complete : headerSize ≤ bytes.size)

include complete

theorem flatMap_words_headerAt :
    (headerAt bytes).words.flatMap encodeWord32 = (bytes.data.toList.drop 4).take 32 := by
  have stored : (headerAt bytes).words =
      (List.range 8).map fun index => word32At bytes (4 + index * 4) := rfl
  rw [stored, List.flatMap_map, ← flatMap_windows bytes.data.toList 4 4 8]
  apply List.flatMap_congr
  intro index member
  have below := List.mem_range.1 member
  rw [headerSize] at complete
  exact encodeWord32_word32At (by omega)

theorem toList_encode_headerAt :
    (headerAt bytes).encode.data.toList = bytes.data.toList.take headerSize := by
  have magic : (headerAt bytes).magic.toList = bytes.data.toList.take 4 := by
    have listed := congrArg Array.toList (data_extract_magic complete)
    rw [toList_extract] at listed
    exact listed.symm
  have reserved : (headerAt bytes).reserved.toList = (bytes.data.toList.drop 36).take 28 := by
    have listed := congrArg Array.toList (data_extract_reserved complete)
    rw [toList_extract] at listed
    exact listed.symm
  rw [Header.toList_encode, magic, flatMap_words_headerAt complete, reserved,
    show headerSize = 4 + (32 + 28) from rfl, List.take_add, List.take_add, List.drop_drop]

end Complete

end Container

end ScriptMetadata
