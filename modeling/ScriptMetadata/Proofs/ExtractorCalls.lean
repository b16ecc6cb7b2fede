import ScriptMetadata.Extractor
import ScriptMetadata.Proofs.SchemaDecoding

/-!
One call of an extractor, whatever it committed before. A call replaces the metadata and nothing
else, so what it answers depends on the source alone.
-/

set_option autoImplicit false

namespace ScriptMetadata.Extractor

open Extraction

variable (extractor : Extractor)

theorem value_attempt :
    extractor.attempt.value =
      match extractor.decode.value with
      | .ok metadata => (.ok (), { extractor with metadata })
      | .error cause => (.error cause, { extractor with metadata := {} }) := by
  rw [attempt, Logged.value_bind]
  cases extractor.decode.value <;> rfl

theorem value_extract :
    extractor.extract.value = (extractor.attempt.value.1.isOk, extractor.attempt.value.2) := rfl

theorem holding_attempt : extractor.attempt.value.2.holding = extractor.holding := by
  rw [value_attempt]
  cases extractor.decode.value <;> rfl

theorem decode_congr {first second : Extractor} (same : first.holding = second.holding) :
    first.decode = second.decode := by
  rw [decode, decode, same]

/-- A second call on the same source finds what the first one found. -/
theorem attempt_attempt :
    extractor.attempt.value.2.attempt.value = extractor.attempt.value := by
  have same := decode_congr extractor.holding_attempt
  rw [value_attempt extractor.attempt.value.2, same, value_attempt extractor]
  cases extractor.decode.value <;> rfl

theorem isOk_extract_iff :
    extractor.extract.value.1 = true ↔ extractor.attempt.value.1 = .ok () := by
  rw [value_extract]
  cases extractor.attempt.value.1 with
  | error cause => exact iff_of_false nofun nofun
  | ok answer => exact iff_of_true rfl rfl

/-- An extractor of a source, with the metadata of some call before. -/
def carrying (source : TableSource) (ownership : Ownership) (metadata : Metadata) : Extractor where
  holding := .ok { source, ownership }
  metadata := metadata

variable (source : TableSource) (ownership : Ownership) (previous : Metadata)

theorem value_attempt_carrying :
    (carrying source ownership previous).attempt.value =
      match (ScriptMetadata.extract source).outcome with
      | .ok metadata => (.ok (), carrying source ownership metadata)
      | .error cause => (.error cause, carrying source ownership {}) :=
  value_attempt _

theorem attempt_carrying_eq_iff {metadata : Metadata} :
    (carrying source ownership previous).attempt.value =
        (.ok (), carrying source ownership metadata) ↔
      Conforms source ∧ Decodes source metadata := by
  rw [← extract_eq_ok_iff, value_attempt_carrying]
  cases (ScriptMetadata.extract source).outcome with
  | error cause => exact iff_of_false nofun nofun
  | ok found => simp [carrying]

theorem attempt_carrying_of_not_conforms (rejected : ¬Conforms source) :
    ∃ cause, (carrying source ownership previous).attempt.value =
      (.error cause, carrying source ownership {}) := by
  rw [← exists_extract_iff] at rejected
  rw [value_attempt_carrying]
  cases answered : (ScriptMetadata.extract source).outcome with
  | error cause => exact ⟨cause, rfl⟩
  | ok found => exact absurd ⟨found, answered⟩ rejected

theorem attempt_carrying_of_conforms (conforms : Conforms source) :
    ∃ metadata, Decodes source metadata ∧ (carrying source ownership previous).attempt.value =
      (.ok (), carrying source ownership metadata) := by
  obtain ⟨metadata, answered⟩ := exists_extract_iff.2 conforms
  have decodes := extract_eq_ok_iff.1 answered
  exact ⟨metadata, decodes.2, (attempt_carrying_eq_iff source ownership previous).2 decodes⟩

theorem attempt_carrying_ok_iff :
    (carrying source ownership previous).attempt.value.1 = .ok () ↔ Conforms source := by
  by_cases conforms : Conforms source
  · obtain ⟨metadata, -, answered⟩ :=
      attempt_carrying_of_conforms source ownership previous conforms
    rw [answered]
    exact iff_of_true rfl conforms
  · obtain ⟨cause, failed⟩ :=
      attempt_carrying_of_not_conforms source ownership previous conforms
    rw [failed]
    exact iff_of_false nofun conforms

/-- A call succeeds exactly on a conforming source, and then commits the metadata that the source
stands for. -/
theorem attempt_accepts_schema :
    ((carrying source ownership previous).attempt.value.1 = .ok () ↔ Conforms source) ∧
      ∀ metadata, (carrying source ownership previous).attempt.value =
          (.ok (), carrying source ownership metadata) ↔
        Conforms source ∧ Decodes source metadata :=
  ⟨attempt_carrying_ok_iff source ownership previous,
    fun _ => attempt_carrying_eq_iff source ownership previous⟩

end ScriptMetadata.Extractor
