import ScriptMetadata.Proofs.Acceptance
import ScriptMetadata.Proofs.ChecksumBursts
import ScriptMetadata.Proofs.RoundTrip

/-!
Damage to a file that loads. A file that was cut or extended no longer has the size that its header
states; a file of the same size with a change within four bytes in a row behind the header no longer
has the checksum that its header states.
-/

set_option autoImplicit false

namespace ScriptMetadata.Container

open LittleEndian

variable {bytes other : ByteArray}

theorem getElem?_eq_toList (bytes : ByteArray) (position : Nat) :
    bytes[position]? = bytes.data.toList[position]? := by
  rw [Array.getElem?_toList]
  by_cases inside : position < bytes.size
  · rw [getElem?_pos bytes position inside, getElem?_pos bytes.data position inside]
    rfl
  · rw [getElem?_neg bytes position inside, getElem?_neg bytes.data position inside]

/-- Two files with the same bytes where the header stands. -/
def SameFront (bytes other : ByteArray) : Prop :=
  other.data.toList.take headerSize = bytes.data.toList.take headerSize

namespace SameFront

variable (front : SameFront bytes other)

include front

theorem numberAt_eq {start width : Nat} (within : start + width ≤ headerSize) :
    numberAt other start width = numberAt bytes start width := by
  have window : ∀ whole : List UInt8,
      (whole.drop start).take width = ((whole.take headerSize).drop start).take width := by
    intro whole
    rw [List.drop_take, List.take_take, Nat.min_eq_left (by omega)]
  rw [numberAt, numberAt, toList_extract, toList_extract, Nat.add_sub_cancel_left,
    window other.data.toList, front, ← window]

theorem headerAt_eq : headerAt other = headerAt bytes := by
  have word : ∀ start, start + 4 ≤ headerSize → word32At other start = word32At bytes start :=
    fun start within => congrArg UInt32.ofNat (front.numberAt_eq within)
  have byte : ∀ start, start + 1 ≤ headerSize → byteAt other start = byteAt bytes start :=
    fun start within => congrArg UInt8.ofNat (front.numberAt_eq within)
  rw [headerSize] at word byte
  rw [headerAt, headerAt, Header.mk.injEq]
  refine ⟨?_, word 4 (by decide), word 8 (by decide), word 12 (by decide), word 16 (by decide),
    word 20 (by decide), word 24 (by decide), word 28 (by decide), word 32 (by decide), ?_⟩
  · exact congrArg Vector.ofFn (funext fun index => byte index (by omega))
  · exact congrArg Vector.ofFn (funext fun index => byte (36 + index) (by omega))

end SameFront

theorem load_eq_error_of_validate {options : LoadOptions} {header : Header}
    (decoded : Header.decode bytes = .ok header) {cause : LoadError}
    (invalid : header.validate options bytes = .error cause) :
    load options bytes = .error cause := by
  rw [load, read_eq_of_decode decoded, invalid]
  rfl

section Damage

variable {module : Module} (accepted : load {} bytes = .ok module)

include accepted

theorem wellFormed_of_load : WellFormed {} bytes := exists_load_iff.1 ⟨module, accepted⟩

/-- Under the header of a file that loads, a file of another size fails for its size. -/
theorem load_eq_sizeMismatch (front : SameFront bytes other) (complete : headerSize ≤ other.size)
    (resized : other.size ≠ bytes.size) :
    load {} other = .error (.sizeMismatch (headerAt bytes).totalSize other.size) := by
  have valid := wellFormed_of_load accepted
  have magic : (headerAt bytes).magic = magic := (magic_headerAt_iff valid.complete).2 valid.magic
  have version : (headerAt bytes).version = formatVersion := valid.version
  have declared : (headerAt bytes).totalSize.toNat ≠ other.size := valid.size ▸ resized.symm
  apply load_eq_error_of_validate (Header.decode_eq_ok complete)
  rw [front.headerAt_eq, Header.validate_eq complete, Header.hasMagic, Header.hasFormatVersion,
    magic, version]
  simp [declared]

theorem load_eq_checksumMismatch (front : SameFront bytes other) (size : other.size = bytes.size)
    (changed : bodyChecksum other ≠ bodyChecksum bytes) :
    load {} other =
      .error (.checksumMismatch (headerAt bytes).checksum (bodyChecksum other)) := by
  have valid := wellFormed_of_load accepted
  have magic : (headerAt bytes).magic = magic := (magic_headerAt_iff valid.complete).2 valid.magic
  have version : (headerAt bytes).version = formatVersion := valid.version
  have stored : (headerAt bytes).checksum = bodyChecksum bytes := valid.checksum rfl
  have complete : headerSize ≤ other.size := size ▸ valid.complete
  have declared : (headerAt bytes).totalSize.toNat = other.size := size ▸ valid.size
  apply load_eq_error_of_validate (Header.decode_eq_ok complete)
  rw [front.headerAt_eq, Header.validate_eq complete, Header.hasMagic, Header.hasFormatVersion,
    magic, version]
  simp [declared, stored, changed.symm]

theorem load_truncated {size : Nat} (shorter : size < bytes.size) :
    load {} (bytes.extract 0 size) =
      .error (if size < 64 then .fileTooSmall size
        else .sizeMismatch (headerAt bytes).totalSize size) := by
  have length : (bytes.extract 0 size).size = size := by
    rw [ByteArray.size_extract]
    omega
  by_cases small : size < 64
  · rw [load, read, if_pos (by rw [length]; exact small), length, if_pos small]
    rfl
  · have front : SameFront bytes (bytes.extract 0 size) := by
      rw [SameFront, toList_extract, List.drop_zero, List.take_take, headerSize]
      congr 1
      omega
    have rejected := load_eq_sizeMismatch accepted front
      (by rw [length]; exact Nat.not_lt.1 small) (by omega)
    rw [rejected, length, if_neg small]

theorem load_extension {rest : ByteArray} (longer : rest.size ≠ 0) :
    load {} (bytes ++ rest) =
      .error (.sizeMismatch (headerAt bytes).totalSize (bytes.size + rest.size)) := by
  have complete := (wellFormed_of_load accepted).complete
  have length : (bytes ++ rest).size = bytes.size + rest.size := ByteArray.size_append
  have front : SameFront bytes (bytes ++ rest) := by
    have within : headerSize ≤ bytes.data.toList.length := complete
    rw [SameFront, ByteArray.toList_data_append, List.take_append_of_le_length within]
  have rejected := load_eq_sizeMismatch accepted front
    (by rw [length, headerSize]; omega) (by omega)
  rw [rejected, length]

theorem load_burst (size : other.size = bytes.size) (changed : other ≠ bytes) {start : Nat}
    (behind : 64 ≤ start)
    (window : ∀ position, other[position]? ≠ bytes[position]? →
      start ≤ position ∧ position < start + 4) :
    load {} other =
      .error (.checksumMismatch (headerAt bytes).checksum (bodyChecksum other)) := by
  simp only [getElem?_eq_toList] at window
  have front : SameFront bytes other := by
    apply List.ext_getElem?
    intro position
    rw [List.getElem?_take, List.getElem?_take, headerSize]
    split
    · exact not_imp_comm.1 (window position) fun inside => absurd inside.1 (by omega)
    · rfl
  have bodies : other.data.toList.drop headerSize ≠ bytes.data.toList.drop headerSize := by
    intro same
    apply changed
    apply eq_of_toList_eq
    rw [← List.take_append_drop headerSize other.data.toList, front, same, List.take_append_drop]
  have lengths : (other.data.toList.drop headerSize).length =
      (bytes.data.toList.drop headerSize).length := by
    rw [List.length_drop, List.length_drop]
    exact congrArg (· - headerSize) size
  apply load_eq_checksumMismatch accepted front size
  have shifted : ∀ position, (other.data.toList.drop headerSize)[position]? ≠
      (bytes.data.toList.drop headerSize)[position]? →
        start - headerSize ≤ position ∧ position < start - headerSize + 4 := by
    intro position differs
    rw [List.getElem?_drop, List.getElem?_drop] at differs
    have inside := window _ differs
    rw [headerSize] at inside ⊢
    omega
  exact Crc32.checksum_ne_of_window lengths bodies shifted

end Damage

/-- A file that loads has no other file near it that loads: what is left of it after a cut, what it
becomes by an extension and every change within four bytes in a row behind its header are refused,
each for the reason that applies. -/
theorem load_detects_damage {bytes : ByteArray} {module : Module}
    (accepted : load {} bytes = .ok module) :
    ∃ header, Header.decode bytes = .ok header ∧
      (∀ size < bytes.size, load {} (bytes.extract 0 size) =
        .error (if size < 64 then .fileTooSmall size else .sizeMismatch header.totalSize size)) ∧
      (∀ rest : ByteArray, rest.size ≠ 0 → load {} (bytes ++ rest) =
        .error (.sizeMismatch header.totalSize (bytes.size + rest.size))) ∧
      ∀ other : ByteArray, other.size = bytes.size → other ≠ bytes → ∀ start, 64 ≤ start →
        (∀ position, other[position]? ≠ bytes[position]? →
          start ≤ position ∧ position < start + 4) →
        load {} other = .error (.checksumMismatch header.checksum (bodyChecksum other)) :=
  ⟨headerAt bytes, Header.decode_eq_ok (complete_of_load accepted),
    fun _ => load_truncated accepted, fun _ => load_extension accepted,
    fun _ size changed _ => load_burst accepted size changed⟩

/-- A table of one row with one text. -/
def oneText : Module := .ofTables [⟨"a", [[.text "b"]]⟩]

/-- The file of that module with other letters in the place of its two strings. -/
def otherLetters : ByteArray := ⟨((emit oneText).data.set! 64 0x63).set! 65 0x64⟩

set_option maxRecDepth 4000 in
/-- The file of a table, a row and two strings: cut off within the header and by one byte, extended
by one byte, and with other letters in its strings. -/
theorem emit_oneText_detects_damage :
    load {} (emit oneText) = .ok oneText ∧
      load {} ((emit oneText).extract 0 63) = .error (.fileTooSmall 63) ∧
      load {} ((emit oneText).extract 0 383) = .error (.sizeMismatch 384 383) ∧
      load {} (emit oneText ++ ⟨#[0]⟩) = .error (.sizeMismatch 384 385) ∧
      load {} otherLetters =
        .error (.checksumMismatch 0x063B3502 (bodyChecksum otherLetters)) := by
  have size : (emit oneText).size = 384 := by decide +kernel
  have accepted : load {} (emit oneText) = .ok oneText := load_emit {} (by rw [size]; decide)
  obtain ⟨header, decoded, cut, extended, burst⟩ := load_detects_damage accepted
  have same : header = (Image.ofModule oneText).header :=
    Except.ok.inj (decoded.symm.trans (decode_encode _))
  have totalSize : header.totalSize = 384 := by rw [same]; decide +kernel
  have checksum : header.checksum = 0x063B3502 := by rw [same]; decide +kernel
  have letter : (emit oneText)[64]? = some 0x61 := by decide +kernel
  have letter' : otherLetters[64]? = some 0x63 := by decide +kernel
  have changed : otherLetters ≠ emit oneText := by
    intro unchanged
    rw [unchanged, letter] at letter'
    exact absurd letter' (by decide)
  rw [totalSize, size] at cut extended
  rw [checksum] at burst
  refine ⟨accepted, cut 63 (by decide), cut 383 (by decide), extended ⟨#[0]⟩ (by decide), ?_⟩
  apply burst _ (by decide +kernel) changed 64 (by decide)
  intro position differs
  by_cases lettered : position = 64 ∨ position = 65
  · omega
  · obtain ⟨first, second⟩ := not_or.1 lettered
    rw [getElem?_eq_toList, getElem?_eq_toList, Array.getElem?_toList, Array.getElem?_toList,
      otherLetters, Array.set!_eq_setIfInBounds, Array.set!_eq_setIfInBounds,
      Array.getElem?_setIfInBounds_ne (Ne.symm second),
      Array.getElem?_setIfInBounds_ne (Ne.symm first)] at differs
    exact absurd rfl differs

end ScriptMetadata.Container
