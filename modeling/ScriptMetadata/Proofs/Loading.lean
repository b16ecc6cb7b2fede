import ScriptMetadata.Proofs.Denotation
import ScriptMetadata.Proofs.ImageReading

/-!
The loader without its checked reads and words: behind a header that decodes and holds, it looks at
the end of the sections and resolves the image that stands in the file.
-/

set_option autoImplicit false

namespace ScriptMetadata.Container

variable {options : LoadOptions} {bytes : ByteArray} {header : Header}

theorem size_of_decode (decoded : Header.decode bytes = .ok header) : headerSize ≤ bytes.size := by
  rw [Header.decode] at decoded
  split at decoded
  · assumption
  · contradiction

/-- What the header is compared with, once it is known to be there. -/
theorem Header.validate_eq (complete : headerSize ≤ bytes.size) :
    header.validate options bytes =
      if !header.hasMagic then .error .invalidMagic
      else if !header.hasFormatVersion then .error (.unsupportedVersion header.version)
      else if header.totalSize.toNat ≠ bytes.size then
        .error (.sizeMismatch header.totalSize bytes.size)
      else if options.verifyChecksum ∧ header.checksum ≠ bodyChecksum bytes then
        .error (.checksumMismatch header.checksum (bodyChecksum bytes))
      else .ok () := by
  rw [Header.validate, readBodyChecksum_eq_ok complete, Image.lift_ok_bind]
  cases options.verifyChecksum with
  | true => simp only [if_true, true_and]
  | false => simp only [Bool.false_eq_true, if_false, false_and]

theorem read_eq_of_decode (decoded : Header.decode bytes = .ok header) :
    read options bytes = (do
      header.validate options bytes
      if bytes.size < header.finish then
        .error (.sectionsOutOfBounds header.layout.finish bytes.size)
      else do
        let module ← (imageAt bytes header).resolve
        return (header, module)) := by
  have complete := size_of_decode decoded
  rw [read, if_neg (Nat.not_lt.2 complete), Header.readFields_eq_decode, decoded,
    Image.lift_ok_bind]
  apply bind_congr
  intro valid
  rw [Layout.ofHeader_eq_ok, Image.lift_ok_bind, Header.toNat_layout_finish]
  split
  · rfl
  · rename_i inside
    rw [Image.read_eq_ok (Nat.not_lt.1 inside), Image.lift_ok_bind]

/-- What the loader does once the header holds. -/
def loadSections (bytes : ByteArray) (header : Header) : Except LoadError Module :=
  if bytes.size < header.finish then
    .error (.sectionsOutOfBounds header.layout.finish bytes.size)
  else (imageAt bytes header).resolve

theorem load_eq_of_decode (decoded : Header.decode bytes = .ok header) :
    load options bytes = (do
      header.validate options bytes
      loadSections bytes header) := by
  rw [load, read_eq_of_decode decoded]
  cases header.validate options bytes with
  | error cause => rfl
  | ok valid =>
      change (ite _ _ _ : Except LoadError (Header × Module)).map Prod.snd = ite _ _ _
      split
      · rfl
      · cases (imageAt bytes header).resolve <;> rfl

theorem load_of_incomplete (short : ¬headerSize ≤ bytes.size) :
    load options bytes = .error (.fileTooSmall bytes.size) := by
  rw [load, read, if_pos (Nat.not_le.1 short)]
  rfl

theorem load_eq_ok_iff_of_decode (decoded : Header.decode bytes = .ok header) {module : Module} :
    load options bytes = .ok module ↔
      header.validate options bytes = .ok () ∧ header.finish ≤ bytes.size ∧
        (imageAt bytes header).resolve = .ok module := by
  rw [load, read_eq_of_decode decoded, Outcome.map_eq_ok_iff]
  constructor
  · intro loaded
    rcases loaded with ⟨⟨header', module'⟩, answered, rfl⟩
    obtain ⟨valid, validated, remaining⟩ := Outcome.bind_eq_ok_iff.1 answered
    split at remaining
    · contradiction
    · rename_i inside
      obtain ⟨resolved, described, same⟩ := Outcome.bind_eq_ok_iff.1 remaining
      cases same
      exact ⟨validated, Nat.not_lt.1 inside, described⟩
  · intro checked
    rcases checked with ⟨validated, inside, described⟩
    refine ⟨(header, module), ?_, rfl⟩
    rw [validated, described, if_neg (Nat.not_lt.2 inside)]
    rfl

theorem validate_eq_ok_iff (complete : headerSize ≤ bytes.size) :
    header.validate options bytes = .ok () ↔
      header.magic = Container.magic ∧ header.version = formatVersion ∧
        header.totalSize.toNat = bytes.size ∧
          (options.verifyChecksum = true → header.checksum = bodyChecksum bytes) := by
  rw [Header.validate_eq complete, Header.hasMagic, Header.hasFormatVersion]
  by_cases magic : header.magic = Container.magic
  · by_cases version : header.version = formatVersion
    · by_cases size : header.totalSize.toNat = bytes.size
      · simp [magic, version, size]
      · simp [magic, version, size]
    · simp [magic, version]
  · simp [magic]

end ScriptMetadata.Container
