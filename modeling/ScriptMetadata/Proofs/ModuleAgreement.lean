import Mathlib.Data.List.Perm.Subperm
import ScriptMetadata.Proofs.AdvisoryIndependence
import ScriptMetadata.Proofs.StoreHistory

/-!
Modules that agree hold the same tables, in whatever order. They are the modules that no name tells
apart, and neither an operation nor an extraction tells them apart later. Operations on different
names may change places: the order of the tables may be another one then, but the modules agree.
-/

set_option autoImplicit false

namespace ScriptMetadata.Module

/-- The table that an operation is about. -/
def Operation.target : Operation → String
  | .declare name => name
  | .addRow name _ => name
  | .addTable name _ => name
  | .remove name => name

/-- The rows that an operation hands over; a removal does when there is such a table. -/
def answer (module : Module) : Operation → Option (List Row)
  | .remove name => (module.remove name).1
  | _ => none

section Agreement

variable {first second : Module}

theorem mem_tables_iff {module : Module} {table : Table} :
    table ∈ module.tables ↔ module.lookup table.name = some table :=
  ⟨lookup_of_mem, mem_of_lookup⟩

/-- Tables with different names are different tables. -/
theorem nodup_tables (module : Module) : module.tables.Nodup := module.names_nodup.of_map

theorem agrees_iff_perm : first.agrees second = true ↔ first.tables.Perm second.tables := by
  rw [agrees, Bool.and_eq_true, beq_iff_eq, List.all_eq_true]
  constructor
  · intro agree
    have contained : first.tables ⊆ second.tables := by
      intro table member
      exact mem_of_lookup (beq_iff_eq.1 (agree.2 table member))
    exact (List.subperm_of_subset first.nodup_tables contained).perm_of_length_le agree.1.ge
  · intro perm
    refine ⟨perm.length_eq, ?_⟩
    intro table member
    exact beq_iff_eq.2 (lookup_of_mem (perm.subset member))

theorem lookup_eq_of_perm (perm : first.tables.Perm second.tables) (name : String) :
    first.lookup name = second.lookup name := by
  cases found : first.lookup name with
  | none =>
      have absent : name ∉ second.names := by
        rw [names, ← (perm.map Table.name).mem_iff]
        exact lookup_eq_none_iff.1 found
      exact (lookup_eq_none_iff.2 absent).symm
  | some table =>
      have named := name_of_lookup found
      have member := perm.subset (mem_of_lookup found)
      rw [← named]
      exact (lookup_of_mem member).symm

theorem perm_iff_lookup :
    first.tables.Perm second.tables ↔ ∀ name, first.lookup name = second.lookup name := by
  refine ⟨lookup_eq_of_perm, ?_⟩
  intro same
  apply (List.perm_ext_iff_of_nodup first.nodup_tables second.nodup_tables).2
  intro table
  rw [mem_tables_iff, mem_tables_iff, same table.name]

theorem agrees_iff_lookup :
    first.agrees second = true ↔ ∀ name, first.lookup name = second.lookup name :=
  agrees_iff_perm.trans perm_iff_lookup

/-- A name finds the same table exactly when it finds the same rows. -/
theorem agrees_iff_rows? :
    first.agrees second = true ↔ ∀ name, first.rows? name = second.rows? name := by
  rw [agrees_iff_lookup]
  apply forall_congr'
  intro name
  constructor
  · intro same
    rw [rows?, rows?, same]
  · intro same
    rw [lookup_eq_map_rows?, lookup_eq_map_rows?, same]

theorem source_eq_of_agrees (agree : first.agrees second = true) : first.source = second.source :=
  funext (agrees_iff_lookup.1 agree)

end Agreement

section Operations

variable (module : Module) (operation : Operation)

/-- An operation adds rows to its own table or takes that table out. -/
theorem perform_cases :
    (∃ rows, operation.additionTo operation.target = some rows ∧
        module.perform operation = module.append operation.target rows) ∨
      operation.additionTo operation.target = none ∧
        module.perform operation = module.erase operation.target := by
  cases operation with
  | declare name => exact .inl ⟨[], if_pos rfl, rfl⟩
  | addRow name row => exact .inl ⟨[row], if_pos rfl, rfl⟩
  | addTable name rows => exact .inl ⟨rows, if_pos rfl, rfl⟩
  | remove name => exact .inr ⟨rfl, rfl⟩

/-- What an operation does to its own table: the rows behind those that were there, or no table. -/
theorem rows?_perform_target :
    (module.perform operation).rows? operation.target =
      (operation.additionTo operation.target).map fun rows =>
        (module.rows? operation.target).getD [] ++ rows := by
  rcases module.perform_cases operation with ⟨rows, adds, performed⟩ | ⟨removes, performed⟩
  · rw [performed, adds, rows?, lookup_append_self]
    rfl
  · rw [performed, removes, rows?, lookup_erase_self]
    rfl

theorem rows?_perform_of_ne {name : String} (differs : name ≠ operation.target) :
    (module.perform operation).rows? name = module.rows? name := by
  rcases module.perform_cases operation with ⟨rows, -, performed⟩ | ⟨-, performed⟩
  · rw [performed, rows?, lookup_append_of_ne differs, rows?]
  · rw [performed, rows?, lookup_erase_of_ne differs, rows?]

/-- What an operation hands over depends on its own table alone. -/
theorem answer_congr {first second : Module}
    (same : first.rows? operation.target = second.rows? operation.target) :
    first.answer operation = second.answer operation := by
  cases operation with
  | declare name => rfl
  | addRow name row => rfl
  | addTable name rows => rfl
  | remove name => exact same

variable {first second : Module}

theorem agrees_perform (agree : first.agrees second = true) (operation : Operation) :
    (first.perform operation).agrees (second.perform operation) = true := by
  rw [agrees_iff_rows?] at agree ⊢
  intro name
  by_cases own : name = operation.target
  · rw [own, rows?_perform_target, rows?_perform_target, agree]
  · rw [rows?_perform_of_ne _ _ own, rows?_perform_of_ne _ _ own, agree]

/-- Modules that agree do so after any operations. -/
theorem agrees_foldl_perform (agree : first.agrees second = true) (operations : List Operation) :
    (operations.foldl perform first).agrees (operations.foldl perform second) = true := by
  induction operations generalizing first second with
  | nil => exact agree
  | cons operation rest induction => exact induction (agrees_perform agree operation)

variable {operation operation' : Operation} (apart : operation.target ≠ operation'.target)

include apart

/-- Both orders leave the same rows under each name: each table is changed by one operation only. -/
theorem agrees_perform_perform :
    ((module.perform operation).perform operation').agrees
      ((module.perform operation').perform operation) = true := by
  rw [agrees_iff_rows?]
  intro name
  by_cases own : name = operation.target
  · rw [own, rows?_perform_of_ne _ _ apart, rows?_perform_target, rows?_perform_target,
      rows?_perform_of_ne _ _ apart]
  · by_cases own' : name = operation'.target
    · rw [own', rows?_perform_target, rows?_perform_of_ne _ _ apart.symm,
        rows?_perform_of_ne _ _ apart.symm, rows?_perform_target]
    · rw [rows?_perform_of_ne _ _ own', rows?_perform_of_ne _ _ own, rows?_perform_of_ne _ _ own,
        rows?_perform_of_ne _ _ own']

theorem answer_perform_of_ne :
    (module.perform operation).answer operation' = module.answer operation' :=
  answer_congr operation' (rows?_perform_of_ne module operation apart.symm)

end Operations

/-- Modules agree when each name finds the same rows in both. Then every operation and every
extraction goes alike on both of them; and two operations on different names do the same in either
order. -/
theorem agrees_observes_rows (first second : Module) :
    (first.agrees second = true ↔ ∀ name, first.rows? name = second.rows? name) ∧
      (first.agrees second = true →
        (∀ operation, (first.perform operation).agrees (second.perform operation) = true ∧
          first.answer operation = second.answer operation) ∧
        ∀ (ownership ownership' : Ownership) (previous previous' : Metadata),
          let call := (Extractor.carrying first.source ownership previous).attempt.value
          let call' := (Extractor.carrying second.source ownership' previous').attempt.value
          call.1 = call'.1 ∧ call.2.metadata = call'.2.metadata) ∧
      ∀ operation operation' : Operation, operation.target ≠ operation'.target →
        ((first.perform operation).perform operation').agrees
            ((first.perform operation').perform operation) = true ∧
          (first.perform operation).answer operation' = first.answer operation' ∧
          (first.perform operation').answer operation = first.answer operation := by
  refine ⟨agrees_iff_rows?, ?_, ?_⟩
  · intro agree
    have rows := agrees_iff_rows?.1 agree
    refine ⟨fun operation => ⟨agrees_perform agree operation, answer_congr operation (rows _)⟩, ?_⟩
    intro ownership ownership' previous previous'
    rw [source_eq_of_agrees agree, Extractor.value_attempt_carrying,
      Extractor.value_attempt_carrying]
    cases (ScriptMetadata.extract second.source).outcome with
    | ok metadata => exact ⟨rfl, rfl⟩
    | error cause => exact ⟨rfl, rfl⟩
  · intro operation operation' apart
    exact ⟨agrees_perform_perform first apart, answer_perform_of_ne first apart,
      answer_perform_of_ne first apart.symm⟩

/-- The same two tables, declared in either order. -/
def vertexThenPragma : Module :=
  .ofTables [⟨Schema.vars, [[.text "vertex"]]⟩, ⟨Schema.pragmas, [[.text "version", .text "1"]]⟩]

def pragmaThenVertex : Module :=
  .ofTables [⟨Schema.pragmas, [[.text "version", .text "1"]]⟩, ⟨Schema.vars, [[.text "vertex"]]⟩]

/-- Taking a table out moves the other one up in one module only; a new table comes after a removal
or is declared before it. -/
theorem vertexThenPragma_agrees :
    vertexThenPragma ≠ pragmaThenVertex ∧ vertexThenPragma.agrees pragmaThenVertex = true ∧
      (∀ name, vertexThenPragma.rows? name = pragmaThenVertex.rows? name) ∧
      (vertexThenPragma.perform (.remove Schema.vars)).agrees
          (pragmaThenVertex.perform (.remove Schema.vars)) = true ∧
      vertexThenPragma.answer (.remove Schema.vars) = some [[.text "vertex"]] ∧
      pragmaThenVertex.answer (.remove Schema.vars) = some [[.text "vertex"]] ∧
      (Extractor.carrying vertexThenPragma.source .owned {}).attempt.value.1 =
        (Extractor.carrying pragmaThenVertex.source .borrowed {}).attempt.value.1 ∧
      Schema.vars ≠ Schema.funcs ∧
      ((vertexThenPragma.perform (.remove Schema.vars)).perform (.declare Schema.funcs)).agrees
          ((vertexThenPragma.perform (.declare Schema.funcs)).perform (.remove Schema.vars)) =
        true := by
  have agreement := agrees_observes_rows vertexThenPragma pragmaThenVertex
  have agree : vertexThenPragma.agrees pragmaThenVertex = true := by decide +kernel
  obtain ⟨operations, calls⟩ := agreement.2.1 agree
  obtain ⟨removed, handed⟩ := operations (.remove Schema.vars)
  have rows : vertexThenPragma.answer (.remove Schema.vars) = some [[.text "vertex"]] := by
    decide +kernel
  have apart : Schema.vars ≠ Schema.funcs := by decide
  exact ⟨by decide +kernel, agree, agreement.1.1 agree, removed, rows, handed ▸ rows,
    (calls .owned .borrowed {} {}).1, apart,
    (agreement.2.2 (.remove Schema.vars) (.declare Schema.funcs) apart).1⟩

end ScriptMetadata.Module
