import Mathlib.Data.List.Forall2

/-!
Computations that may fail, described by the values that they answer with. A traversal of a list is
a relation between the list and its results, element by element.
-/

set_option autoImplicit false

namespace ScriptMetadata.Outcome

variable {Error Value Result : Type}

theorem bind_eq_ok_iff {first : Except Error Value} {next : Value → Except Error Result}
    {result : Result} :
    (first >>= next) = .ok result ↔ ∃ value, first = .ok value ∧ next value = .ok result := by
  cases first with
  | error cause => simp [bind, Except.bind]
  | ok value => simp [bind, Except.bind]

theorem map_eq_ok_iff {first : Except Error Value} {f : Value → Result} {result : Result} :
    first.map f = .ok result ↔ ∃ value, first = .ok value ∧ f value = result := by
  cases first with
  | error cause => simp [Except.map]
  | ok value => simp [Except.map]

theorem mapM_eq_ok_iff {f : Value → Except Error Result} {values : List Value}
    {results : List Result} :
    values.mapM f = .ok results ↔
      List.Forall₂ (fun value result => f value = .ok result) values results := by
  induction values generalizing results with
  | nil => cases results <;> simp [pure, Except.pure]
  | cons value rest induction =>
      rw [List.mapM_cons, bind_eq_ok_iff, List.forall₂_cons_left_iff]
      constructor
      · intro answered
        rcases answered with ⟨result, head, remaining⟩
        obtain ⟨others, tail, same⟩ := bind_eq_ok_iff.1 remaining
        cases same
        exact ⟨result, others, head, induction.1 tail, rfl⟩
      · intro related
        rcases related with ⟨result, others, head, tail, rfl⟩
        exact ⟨result, head, bind_eq_ok_iff.2 ⟨others, induction.2 tail, rfl⟩⟩

theorem forall₂_iff_getElem? {Related : Value → Result → Prop} {values : List Value}
    {results : List Result} :
    List.Forall₂ Related values results ↔
      values.length = results.length ∧ ∀ (index : Nat) value result, values[index]? = some value →
        results[index]? = some result → Related value result := by
  rw [List.forall₂_iff_get]
  constructor
  · intro pairs
    rcases pairs with ⟨lengths, related⟩
    refine ⟨lengths, ?_⟩
    intro index value result found answered
    obtain ⟨below, rfl⟩ := List.getElem?_eq_some_iff.1 found
    obtain ⟨below', rfl⟩ := List.getElem?_eq_some_iff.1 answered
    exact related index below below'
  · intro pointwise
    rcases pointwise with ⟨lengths, related⟩
    exact ⟨lengths, fun index below below' =>
      related index _ _ (List.getElem?_eq_getElem below) (List.getElem?_eq_getElem below')⟩

theorem exists_related_of_mem {Related : Value → Result → Prop} {values : List Value}
    {results : List Result} (related : List.Forall₂ Related values results) {value : Value}
    (member : value ∈ values) : ∃ result ∈ results, Related value result := by
  induction related with
  | nil => contradiction
  | cons head tail induction =>
      rcases List.mem_cons.1 member with rfl | later
      · exact ⟨_, List.mem_cons_self, head⟩
      · obtain ⟨result, found, answered⟩ := induction later
        exact ⟨result, List.mem_cons_of_mem _ found, answered⟩

/-- A list has related results exactly when each of its elements has one. -/
theorem exists_forall₂_iff {Related : Value → Result → Prop} {values : List Value} :
    (∃ results, List.Forall₂ Related values results) ↔
      ∀ value ∈ values, ∃ result, Related value result := by
  constructor
  · rintro ⟨results, related⟩ value member
    obtain ⟨result, -, answered⟩ := exists_related_of_mem related member
    exact ⟨result, answered⟩
  · intro each
    induction values with
    | nil => exact ⟨[], .nil⟩
    | cons value rest induction =>
        obtain ⟨result, head⟩ := each value List.mem_cons_self
        obtain ⟨results, tail⟩ := induction fun other member =>
          each other (List.mem_cons_of_mem value member)
        exact ⟨result :: results, .cons head tail⟩

theorem exists_mapM_eq_ok_iff {f : Value → Except Error Result} {values : List Value} :
    (∃ results, values.mapM f = .ok results) ↔
      ∀ value ∈ values, ∃ result, f value = .ok result := by
  simp only [mapM_eq_ok_iff, exists_forall₂_iff]

theorem mapM_eq_ok_map {f : Value → Except Error Result} {g : Value → Result}
    {values : List Value} (answers : ∀ value ∈ values, f value = .ok (g value)) :
    values.mapM f = .ok (values.map g) := by
  rw [mapM_eq_ok_iff, List.forall₂_map_right_iff, List.forall₂_same]
  exact answers

end ScriptMetadata.Outcome
