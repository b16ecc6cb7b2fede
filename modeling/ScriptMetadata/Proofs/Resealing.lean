import ScriptMetadata.Proofs.HeaderReplacement
import ScriptMetadata.Proofs.LoadDefects

/-!
Loading with and without the checksum. The two differ only where the stored checksum is not that of
the body, and a file whose checksum is written anew loads as the file did without the check.
-/

set_option autoImplicit false

namespace ScriptMetadata.Container

open Check (FirstDefect)
open LittleEndian

def strict : LoadOptions := { verifyChecksum := true }

def lenient : LoadOptions := { verifyChecksum := false }

/-- The errors of the checks that come before the checksum. -/
def LoadError.BeforeChecksum : LoadError → Prop
  | .fileTooSmall _ | .invalidMagic | .unsupportedVersion _ | .sizeMismatch _ _ => True
  | _ => False

/-- The file with the checksum of its body in the bytes 8 to 12. -/
def reseal (bytes : ByteArray) : ByteArray :=
  bytes.extract 0 8 ++ (encodeWord32 (Crc32.checksum (bytes.data.toList.drop 64))).toByteArray ++
    bytes.extract 12 bytes.size

/-! ### What comes before the checksum and what comes behind it -/

namespace Header

variable {header : Header} {bytes : ByteArray}

theorem beforeChecksum_of_validate_lenient {cause : LoadError}
    (failed : header.validate lenient bytes = .error cause) : cause.BeforeChecksum := by
  rw [validate] at failed
  split at failed
  · cases failed
    trivial
  · split at failed
    · cases failed
      trivial
    · split at failed
      · cases failed
        trivial
      · contradiction

/-- Verifying adds one check behind the others. -/
theorem validate_strict (complete : headerSize ≤ bytes.size) :
    header.validate strict bytes = (do
      header.validate lenient bytes
      if header.checksum = bodyChecksum bytes then .ok ()
      else .error (.checksumMismatch header.checksum (bodyChecksum bytes))) := by
  rw [validate_eq complete, validate_eq complete]
  split
  · rfl
  · split
    · rfl
    · split
      · rfl
      · by_cases agrees : header.checksum = bodyChecksum bytes
        · rw [if_neg fun fails => fails.2 agrees]
          exact (if_pos agrees).symm
        · rw [if_pos ⟨rfl, agrees⟩]
          exact (if_neg agrees).symm

end Header

namespace Image

variable (image : Image)

theorem not_beforeChecksum_of_operandChecks (index : Nat) :
    ∀ check ∈ image.operandChecks index, ¬check.error.BeforeChecksum := by
  rw [operandChecks]
  split
  · exact List.forall_mem_nil _
  · refine List.forall_mem_cons.2 ⟨not_false, ?_⟩
    split
    · exact List.forall_mem_singleton.2 not_false
    · exact List.forall_mem_nil _

theorem not_beforeChecksum_of_rowChecks (node : Nat) :
    ∀ check ∈ image.rowChecks node, ¬check.error.BeforeChecksum := by
  rw [rowChecks]
  split
  · exact List.forall_mem_nil _
  · refine List.forall_mem_cons.2 ⟨not_false, ?_⟩
    intro check member
    obtain ⟨index, -, member⟩ := List.mem_flatMap.1 member
    exact image.not_beforeChecksum_of_operandChecks index check member

theorem not_beforeChecksum_of_tableChecks (position : Nat) :
    ∀ check ∈ image.tableChecks position, ¬check.error.BeforeChecksum := by
  rw [tableChecks]
  split
  · exact List.forall_mem_nil _
  · simp only [List.forall_mem_cons]
    refine ⟨not_false, not_false, not_false, ?_⟩
    intro check member
    obtain ⟨node, -, member⟩ := List.mem_flatMap.1 member
    exact image.not_beforeChecksum_of_rowChecks node check member

theorem not_beforeChecksum_of_checks : ∀ check ∈ image.checks, ¬check.error.BeforeChecksum := by
  refine List.forall_mem_append.2 ⟨?_, ?_⟩
  · intro check member
    obtain ⟨id, -, member⟩ := List.mem_flatMap.1 member
    rw [textChecks, List.mem_pair] at member
    rcases member with rfl | rfl
    · exact not_false
    · exact not_false
  · intro check member
    obtain ⟨position, -, member⟩ := List.mem_flatMap.1 member
    exact image.not_beforeChecksum_of_tableChecks position check member

end Image

theorem not_beforeChecksum_of_loadSections {bytes : ByteArray} {cause : LoadError}
    (failed : loadSections bytes (headerAt bytes) = .error cause) : ¬cause.BeforeChecksum := by
  have defect := (performs_loadSections bytes).eq_error_iff.1 failed
  obtain ⟨check, member, rfl⟩ := defect.exists_mem
  have each : ∀ check ∈ sectionChecks bytes, ¬check.error.BeforeChecksum :=
    List.forall_mem_cons.2 ⟨not_false, (storedImage bytes).not_beforeChecksum_of_checks⟩
  exact each check member

/-! ### The two ways of loading -/

section Loading

variable {bytes : ByteArray} {cause : LoadError}

theorem load_strict_of_beforeChecksum (failed : load lenient bytes = .error cause)
    (before : cause.BeforeChecksum) : load strict bytes = .error cause := by
  by_cases complete : headerSize ≤ bytes.size
  · have decoded := Header.decode_eq_ok complete
    rw [load_eq_of_decode decoded] at failed ⊢
    rw [Header.validate_strict complete]
    cases valid : (headerAt bytes).validate lenient bytes with
    | error other =>
        rw [valid] at failed
        exact failed
    | ok _ =>
        rw [valid] at failed
        exact absurd before (not_beforeChecksum_of_loadSections failed)
  · rw [load_of_incomplete complete] at failed ⊢
    exact failed

theorem load_strict_eq
    (passed : ∀ cause, load lenient bytes = .error cause → ¬cause.BeforeChecksum) :
    load strict bytes =
      if (headerAt bytes).checksum = bodyChecksum bytes then load lenient bytes
      else .error (.checksumMismatch (headerAt bytes).checksum (bodyChecksum bytes)) := by
  by_cases complete : headerSize ≤ bytes.size
  · have decoded := Header.decode_eq_ok complete
    rw [load_eq_of_decode decoded] at passed
    rw [load_eq_of_decode decoded, load_eq_of_decode decoded, Header.validate_strict complete]
    cases valid : (headerAt bytes).validate lenient bytes with
    | error other =>
        rw [valid] at passed
        exact absurd (Header.beforeChecksum_of_validate_lenient valid) (passed other rfl)
    | ok _ =>
        by_cases agrees : (headerAt bytes).checksum = bodyChecksum bytes
        · rw [if_pos agrees, if_pos agrees]
          rfl
        · rw [if_neg agrees, if_neg agrees]
          rfl
  · exact absurd trivial (passed _ (load_of_incomplete complete))

end Loading

/-! ### Writing the checksum anew -/

/-- What is behind the header is found without the checksum. -/
theorem loadSections_checksum (bytes : ByteArray) (header : Header) (checksum : UInt32) :
    loadSections bytes { header with checksum := checksum } = loadSections bytes header := by
  have finish : { header with checksum := checksum }.finish = header.finish := rfl
  have layout : { header with checksum := checksum }.layout = header.layout := rfl
  have image : imageAt bytes { header with checksum := checksum } = imageAt bytes header := rfl
  rw [loadSections, loadSections, finish, layout, image]

/-- Around the checksum, the header has the same bytes whatever the checksum is. -/
theorem Header.exists_around_checksum (header : Header) :
    ∃ before after, before.length = 8 ∧ ∀ checksum,
      { header with checksum := checksum }.encode.data.toList =
        before ++ (encodeWord32 checksum ++ after) := by
  refine ⟨header.magic.toList ++ encodeWord32 header.version,
    [header.totalSize, header.blobSize, header.stringCount, header.tableCount, header.nodeCount,
      header.operandCount].flatMap encodeWord32 ++ header.reserved.toList, ?_, ?_⟩
  · rw [List.length_append, length_encodeWord32, Vector.length_toList]
  · intro checksum
    rw [toList_encode, words, List.flatMap_cons, List.flatMap_cons]
    simp only [List.append_assoc]

theorem toList_replaceHeader_checksum (header : Header) (bytes : ByteArray) (checksum : UInt32) :
    (replaceHeader { header with checksum := checksum } bytes).data.toList =
      (replaceHeader header bytes).data.toList.take 8 ++
        (encodeWord32 checksum ++ (replaceHeader header bytes).data.toList.drop 12) := by
  obtain ⟨before, after, eight, around⟩ := header.exists_around_checksum
  have stored : (replaceHeader header bytes).data.toList = before ++
      (encodeWord32 header.checksum ++ (after ++ bytes.data.toList.drop headerSize)) := by
    rw [toList_replaceHeader, around header.checksum]
    simp only [List.append_assoc]
  have front : (replaceHeader header bytes).data.toList.take 8 = before := by
    rw [stored, ← eight, List.take_left]
  have back : (replaceHeader header bytes).data.toList.drop 12 =
      after ++ bytes.data.toList.drop headerSize := by
    rw [stored, show 12 = before.length + (encodeWord32 header.checksum).length by
      rw [eight, length_encodeWord32], ← List.drop_drop, List.drop_left, List.drop_left]
  rw [front, back, toList_replaceHeader, around checksum]
  simp only [List.append_assoc]

section Resealing

variable {bytes : ByteArray} (complete : headerSize ≤ bytes.size)

include complete

theorem reseal_eq_replaceHeader :
    reseal bytes =
      replaceHeader { headerAt bytes with checksum := bodyChecksum bytes } bytes := by
  have written := toList_replaceHeader_checksum (headerAt bytes) bytes (bodyChecksum bytes)
  rw [replaceHeader_headerAt complete] at written
  apply eq_of_toList_eq
  rw [written, reseal, ByteArray.toList_data_append, ByteArray.toList_data_append,
    List.toList_data_toByteArray, toList_extract, toList_extract_size, List.append_assoc,
    List.drop_zero, bodyChecksum, headerSize]

theorem load_strict_reseal : load strict (reseal bytes) = load lenient bytes := by
  have resealed := reseal_eq_replaceHeader complete
  have decoded : Header.decode (reseal bytes) =
      .ok { headerAt bytes with checksum := bodyChecksum bytes } := by
    rw [resealed]
    exact Header.decode_encode_append _ _
  have size : (reseal bytes).size = bytes.size := by
    rw [resealed, size_replaceHeader _ complete]
  have body : bodyChecksum (reseal bytes) = bodyChecksum bytes := by
    rw [resealed, bodyChecksum_replaceHeader]
  have validated : { headerAt bytes with checksum := bodyChecksum bytes }.validate lenient
      (reseal bytes) = (headerAt bytes).validate lenient bytes := by
    simp [Header.validate, Header.hasMagic, Header.hasFormatVersion, lenient, size]
  have sections (header : Header) :
      loadSections (reseal bytes) header = loadSections bytes header := by
    rw [loadSections, loadSections, size, resealed, imageAt_replaceHeader]
  rw [load_eq_of_decode decoded, load_eq_of_decode (Header.decode_eq_ok complete),
    Header.validate_strict (size_of_decode decoded), body, if_pos rfl, validated, sections,
    loadSections_checksum]
  cases (headerAt bytes).validate lenient bytes <;> rfl

end Resealing

/-- Strict and lenient loading agree on every file but for the checksum: a defect before it shows in
both, and behind it the strict one goes on as the lenient one if the checksum is right. -/
theorem strict_follows_lenient (bytes : ByteArray) :
    (∀ cause, load lenient bytes = .error cause → cause.BeforeChecksum →
        load strict bytes = .error cause) ∧
      ((∀ cause, load lenient bytes = .error cause → ¬cause.BeforeChecksum) →
        load strict bytes =
          if (headerAt bytes).checksum = Crc32.checksum (bytes.data.toList.drop 64) then
            load lenient bytes
          else .error (.checksumMismatch (headerAt bytes).checksum
            (Crc32.checksum (bytes.data.toList.drop 64)))) ∧
      (64 ≤ bytes.size → load strict (reseal bytes) = load lenient bytes) :=
  ⟨fun _ => load_strict_of_beforeChecksum, load_strict_eq, load_strict_reseal⟩

/-- The file of the empty module, with a checksum of zero. -/
def unsealedFile : ByteArray :=
  replaceHeader { headerAt (emit .empty) with checksum := 0 } (emit .empty)

set_option maxRecDepth 4000 in
/-- Four bytes are too few for both. The unsealed file loads without the check and resealed, as it
stands it is refused for its checksum. -/
theorem strict_follows_lenient_unsealed :
    load strict magic.toList.toByteArray = .error (.fileTooSmall 4) ∧
      load lenient unsealedFile = .ok .empty ∧
      load strict unsealedFile = .error (.checksumMismatch 0 (bodyChecksum unsealedFile)) ∧
      load strict (reseal unsealedFile) = .ok .empty := by
  have short : load lenient magic.toList.toByteArray = .error (.fileTooSmall 4) := by
    decide +kernel
  have loaded : load lenient unsealedFile = .ok .empty := by decide +kernel
  have stored : (headerAt unsealedFile).checksum = 0 := by decide +kernel
  have differs : ¬(headerAt unsealedFile).checksum = bodyChecksum unsealedFile := by decide +kernel
  have complete : 64 ≤ unsealedFile.size := by decide +kernel
  obtain ⟨-, verified, resealed⟩ := strict_follows_lenient unsealedFile
  have passed : ∀ cause, load lenient unsealedFile = .error cause → ¬cause.BeforeChecksum := by
    intro cause failed
    exact nomatch loaded.symm.trans failed
  have mismatch := (verified passed).trans (if_neg differs)
  rw [stored] at mismatch
  exact ⟨(strict_follows_lenient magic.toList.toByteArray).1 _ short trivial, loaded,
    mismatch, (resealed complete).trans loaded⟩

end ScriptMetadata.Container
