import ScriptMetadata.Module
import ScriptMetadata.Proofs.ExtractorCalls

/-!
The advisory tables decide their own fields and nothing else. Two modules with the same rows under
the mandatory names are extracted alike, up to the advisory fields; the order of their tables and
what stands under any other name play no part.
-/

set_option autoImplicit false

namespace ScriptMetadata

/-- A table carries the name it is found under, so its rows are all that a name adds. -/
theorem Module.lookup_eq_map_rows? (module : Module) (name : String) :
    module.lookup name = (module.rows? name).map (Table.mk name) := by
  rw [rows?]
  cases found : module.lookup name with
  | none => rfl
  | some table =>
      have named := name_of_lookup found
      subst named
      rfl

/-- The metadata with the advisory fields at their defaults. -/
def Metadata.withoutAdvisory (metadata : Metadata) : Metadata :=
  { metadata with threadable := true, buildChecksum := none, debugInfo := false }

namespace Extraction

theorem mandatory_congr {first second : TableSource}
    (agree : ∀ name ∈ Schema.mandatory, first name = second name) :
    mandatory first = mandatory second := by
  simp only [Schema.mandatory, List.forall_mem_cons] at agree
  obtain ⟨version, level, precision, vars, funcs, names, signatures, pragmas, slots, -⟩ := agree
  rw [mandatory, mandatory, version, level, precision, vars, funcs, names, signatures, pragmas,
    slots]

theorem withoutAdvisory_advisory (source : TableSource) (metadata : Metadata) :
    (advisory source metadata).value.withoutAdvisory = metadata.withoutAdvisory := rfl

/-- What the advisory tables do to an extraction: they complete what the others decided. -/
theorem outcome_extract (source : TableSource) :
    (extract source).outcome =
      (mandatory source).outcome.map fun metadata => (advisory source metadata).value := by
  rw [extract, Step.outcome_bind]
  cases (mandatory source).outcome <;> rfl

/-- Each advisory field against the rows of its own table; a table that is missing or malformed
leaves the default. -/
structure AdvisoryFields (module : Module) (metadata : Metadata) : Prop where
  threadable : metadata.threadable = false ↔
    module.rows? Schema.threadable = some [[.text "no"]]
  buildChecksum : ∀ value, metadata.buildChecksum = some value ↔
    module.rows? Schema.buildChecksum = some [[.text value]]
  debugInfo : metadata.debugInfo = true ↔
    ∃ rows, module.rows? Schema.debugInfo = some rows ∧ rows ≠ []

theorem rowsOf_source_eq_iff {module : Module} {name : String} {rows : List Row}
    (nonempty : rows ≠ []) :
    rowsOf (module.source name) = rows ↔ module.rows? name = some rows := by
  rw [Module.rows?, Module.source, rowsOf]
  cases module.lookup name with
  | none => exact iff_of_false nonempty.symm (Option.some_ne_none _).symm
  | some table => exact (Option.some.injEq _ _).to_iff.symm

theorem rowsOf_source_ne_nil_iff {module : Module} {name : String} :
    rowsOf (module.source name) ≠ [] ↔ ∃ rows, module.rows? name = some rows ∧ rows ≠ [] := by
  constructor
  · intro nonempty
    exact ⟨_, (rowsOf_source_eq_iff nonempty).1 rfl, nonempty⟩
  · intro found
    rcases found with ⟨rows, stored, nonempty⟩
    rw [(rowsOf_source_eq_iff nonempty).2 stored]
    exact nonempty

theorem advisoryFields_of_decodes {module : Module} {metadata : Metadata}
    (decodes : Decodes module.source metadata) : AdvisoryFields module metadata where
  threadable := decodes.threadable.trans (rowsOf_source_eq_iff (List.cons_ne_nil _ _))
  buildChecksum value :=
    (decodes.buildChecksum value).trans (rowsOf_source_eq_iff (List.cons_ne_nil _ _))
  debugInfo := decodes.debugInfo.trans rowsOf_source_ne_nil_iff

end Extraction

namespace Extractor

open Extraction

theorem mandatory_source_congr {first second : Module}
    (agree : ∀ name ∈ Schema.mandatory, first.rows? name = second.rows? name) :
    mandatory first.source = mandatory second.source := by
  apply mandatory_congr
  intro name member
  rw [Module.source, Module.source, Module.lookup_eq_map_rows?, Module.lookup_eq_map_rows?,
    agree name member]

/-- A call in terms of the mandatory tables; what is left to the others is a part of the committed
metadata that a reset of the advisory fields forgets. -/
theorem attempt_withoutAdvisory (source : TableSource) (ownership : Ownership)
    (previous : Metadata) :
    let answer := (carrying source ownership previous).attempt.value
    (answer.1, answer.2.metadata.withoutAdvisory) =
      match (mandatory source).outcome with
      | .ok metadata => (.ok (), metadata.withoutAdvisory)
      | .error cause => (.error cause, {}) := by
  intro answer
  have committed : answer = _ := value_attempt_carrying source ownership previous
  rw [outcome_extract] at committed
  rw [committed]
  cases (mandatory source).outcome with
  | ok metadata => exact congrArg (Prod.mk _) (withoutAdvisory_advisory source metadata)
  | error cause => rfl

theorem advisoryFields_of_attempt {module : Module} {ownership : Ownership} {previous : Metadata}
    (succeeded : (carrying module.source ownership previous).attempt.value.1 = .ok ()) :
    AdvisoryFields module (carrying module.source ownership previous).attempt.value.2.metadata := by
  have conforms := (attempt_carrying_ok_iff module.source ownership previous).1 succeeded
  obtain ⟨metadata, decodes, answered⟩ :=
    attempt_carrying_of_conforms module.source ownership previous conforms
  rw [answered]
  exact advisoryFields_of_decodes decodes

/-- The answer of a call and the fields that are not advisory depend on the mandatory tables alone,
each advisory field on its own table alone. -/
theorem advisory_tables_decide_own_fields (module : Module) (ownership : Ownership)
    (previous : Metadata) :
    let answer := (carrying module.source ownership previous).attempt.value
    (∀ (other : Module) (ownership' : Ownership) (previous' : Metadata),
      (∀ name ∈ Schema.mandatory, other.rows? name = module.rows? name) →
        let answer' := (carrying other.source ownership' previous').attempt.value
        answer'.1 = answer.1 ∧
          answer'.2.metadata.withoutAdvisory = answer.2.metadata.withoutAdvisory) ∧
      (answer.1 = .ok () → AdvisoryFields module answer.2.metadata) := by
  intro answer
  refine ⟨?_, advisoryFields_of_attempt⟩
  intro other ownership' previous' agree answer'
  have same : (answer'.1, answer'.2.metadata.withoutAdvisory) =
      (answer.1, answer.2.metadata.withoutAdvisory) := by
    rw [attempt_withoutAdvisory, attempt_withoutAdvisory, mandatory_source_congr agree]
  exact Prod.mk.inj same

/-- A script with a flag, and the same script in another order with other tables and flags. -/
def flaggedScript : Module :=
  .ofTables [⟨Schema.threadable, [[.text "no"]]⟩, ⟨Schema.vars, [[.text "gravity"]]⟩,
    ⟨Schema.debugInfo, [[]]⟩]

def reorderedScript : Module :=
  .ofTables [⟨"llvm.ident", [[.integer 7]]⟩, ⟨Schema.vars, [[.text "gravity"]]⟩,
    ⟨Schema.threadable, [[.text "no"], []]⟩, ⟨Schema.buildChecksum, [[.integer 0xFFFFFFFFFF]]⟩]

/-- Both extractions succeed and yield the variable; only the first script is not threadable. -/
theorem flaggedScript_decides_own_fields :
    let answer := (carrying flaggedScript.source .owned {}).attempt.value
    let answer' := (carrying reorderedScript.source .borrowed {}).attempt.value
    (∀ name ∈ Schema.mandatory, reorderedScript.rows? name = flaggedScript.rows? name) ∧
      answer.1 = .ok () ∧ answer'.1 = answer.1 ∧
      answer'.2.metadata.withoutAdvisory = answer.2.metadata.withoutAdvisory ∧
      AdvisoryFields flaggedScript answer.2.metadata ∧
      answer.2.metadata.threadable = false ∧ answer'.2.metadata.threadable = true := by
  intro answer answer'
  have independent := advisory_tables_decide_own_fields flaggedScript .owned {}
  have agree : ∀ name ∈ Schema.mandatory, reorderedScript.rows? name = flaggedScript.rows? name := by
    decide +kernel
  have succeeded : answer.1 = .ok () := by decide +kernel
  obtain ⟨same, others⟩ := independent.1 reorderedScript .borrowed {} agree
  exact ⟨agree, succeeded, same, others, independent.2 succeeded, by decide +kernel,
    by decide +kernel⟩

end Extractor

end ScriptMetadata
