import ScriptMetadata.Proofs.Loading
import ScriptMetadata.Proofs.Validity

/-!
The container format and its meaning, stated about the bytes of a file. The loader accepts exactly
the files of the format and answers with what they denote.
-/

set_option autoImplicit false

namespace ScriptMetadata.Container

section Format

variable (options : LoadOptions) (bytes : ByteArray)

def storedImage : Image := imageAt bytes (headerAt bytes)

/-- A header that is true of the file, and behind it a well-formed image. -/
structure WellFormed : Prop where
  complete : 64 ≤ bytes.size
  magic : bytes.extract 0 4 = "BCMD".toUTF8
  version : (headerAt bytes).version = 1
  size : (headerAt bytes).totalSize.toNat = bytes.size
  checksum : options.verifyChecksum = true →
    (headerAt bytes).checksum = Crc32.checksum (bytes.data.toList.drop 64)
  sections : (headerAt bytes).finish ≤ bytes.size
  image : (storedImage bytes).WellFormed

/-- The header counts the entries of the sections. -/
theorem counts_storedImage :
    (storedImage bytes).stringCount = (headerAt bytes).stringCount.toNat ∧
      (storedImage bytes).tables.length = (headerAt bytes).tableCount.toNat ∧
        (storedImage bytes).nodes.size = (headerAt bytes).nodeCount.toNat ∧
          (storedImage bytes).operands.size = (headerAt bytes).operandCount.toNat := by
  simp [storedImage, imageAt, Image.stringCount, entriesAt]

theorem addressable_storedImage : (storedImage bytes).Addressable := by
  obtain ⟨-, -, nodes, operands⟩ := counts_storedImage bytes
  rw [Image.Addressable, nodes, operands]
  exact ⟨UInt32.toNat_lt _, UInt32.toNat_lt _⟩

end Format

variable {options : LoadOptions} {bytes : ByteArray}

theorem magic_headerAt_iff (complete : headerSize ≤ bytes.size) :
    (headerAt bytes).magic = magic ↔ bytes.extract 0 4 = "BCMD".toUTF8 := by
  rw [← Vector.toArray_inj, ByteArray.ext_iff, data_extract_magic complete]
  rfl

theorem wellFormed_iff_of_complete (complete : headerSize ≤ bytes.size) :
    WellFormed options bytes ↔
      ((headerAt bytes).validate options bytes = .ok () ∧
        (headerAt bytes).finish ≤ bytes.size) ∧ (storedImage bytes).WellFormed := by
  rw [validate_eq_ok_iff complete, magic_headerAt_iff complete]
  constructor
  · intro accepted
    rcases accepted with ⟨-, magic, version, size, checksum, sections, image⟩
    exact ⟨⟨⟨magic, version, size, checksum⟩, sections⟩, image⟩
  · intro checked
    rcases checked with ⟨⟨⟨magic, version, size, checksum⟩, sections⟩, image⟩
    exact ⟨complete, magic, version, size, checksum, sections, image⟩

theorem complete_of_load {module : Module} (loaded : load options bytes = .ok module) :
    headerSize ≤ bytes.size := by
  rw [load, read] at loaded
  split at loaded
  · contradiction
  · rename_i complete
    exact Nat.not_lt.1 complete

theorem load_eq_ok_iff_denotes {module : Module} :
    load options bytes = .ok module ↔
      WellFormed options bytes ∧ (storedImage bytes).Denotes module := by
  by_cases complete : headerSize ≤ bytes.size
  · rw [load_eq_ok_iff_of_decode (Header.decode_eq_ok complete),
      wellFormed_iff_of_complete complete, Image.wellFormed_iff, ← storedImage,
      Image.resolve_eq_ok_iff (addressable_storedImage bytes)]
    constructor
    · intro answered
      rcases answered with ⟨validated, inside, texts, described⟩
      exact ⟨⟨⟨validated, inside⟩, texts, module, described⟩, described⟩
    · intro accepted
      rcases accepted with ⟨⟨⟨validated, inside⟩, texts, -⟩, described⟩
      exact ⟨validated, inside, texts, described⟩
  · constructor
    · intro loaded
      exact absurd (complete_of_load loaded) complete
    · rintro ⟨accepted, -⟩
      exact absurd accepted.complete complete

theorem exists_load_iff :
    (∃ module, load options bytes = .ok module) ↔ WellFormed options bytes := by
  simp only [load_eq_ok_iff_denotes]
  constructor
  · intro loaded
    rcases loaded with ⟨module, accepted, -⟩
    exact accepted
  · intro accepted
    obtain ⟨-, module, described⟩ := Image.wellFormed_iff.1 accepted.image
    exact ⟨module, accepted, described⟩

/-- A file loads exactly when it is of the format, and then as the module that it denotes. -/
theorem load_accepts_format (options : LoadOptions) (bytes : ByteArray) :
    ((∃ module, load options bytes = .ok module) ↔ WellFormed options bytes) ∧
      ∀ module, load options bytes = .ok module ↔
        WellFormed options bytes ∧ (storedImage bytes).Denotes module :=
  ⟨exists_load_iff, fun _ => load_eq_ok_iff_denotes⟩

end ScriptMetadata.Container
