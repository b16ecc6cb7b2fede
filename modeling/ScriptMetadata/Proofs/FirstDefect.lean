/-!
Validation as a list of checks in their order. A computation performs a list of checks when it
succeeds if all of them hold, and otherwise fails with the error of the first one that does not.
What a computation performs is put together from what its parts perform.
-/

set_option autoImplicit false

namespace ScriptMetadata

/-- What has to hold of an input, and the error of an input of which it does not. -/
structure Check (Error : Type) where
  holds : Prop
  error : Error

namespace Check

variable {Error Value Result State : Type}

def AllHold (checks : List (Check Error)) : Prop := ∀ check ∈ checks, check.holds

/-- One check does not hold, all checks before it do, and the error is its own. -/
def FirstDefect (checks : List (Check Error)) (cause : Error) : Prop :=
  ∃ earlier check later, checks = earlier ++ check :: later ∧ AllHold earlier ∧
    ¬check.holds ∧ check.error = cause

/-- An inductive, because unfolding a function of the result would run the computation. -/
inductive Performs (checks : List (Check Error)) : Except Error Value → Prop where
  | passed {value : Value} (held : AllHold checks) : Performs checks (.ok value)
  | failed {cause : Error} (defect : FirstDefect checks cause) : Performs checks (.error cause)

theorem allHold_nil : AllHold ([] : List (Check Error)) := List.forall_mem_nil _

theorem allHold_cons_iff {check : Check Error} {rest : List (Check Error)} :
    AllHold (check :: rest) ↔ check.holds ∧ AllHold rest := List.forall_mem_cons

theorem allHold_append_iff {first second : List (Check Error)} :
    AllHold (first ++ second) ↔ AllHold first ∧ AllHold second := List.forall_mem_append

theorem firstDefect_cons_iff {check : Check Error} {rest : List (Check Error)} {cause : Error} :
    FirstDefect (check :: rest) cause ↔
      ¬check.holds ∧ check.error = cause ∨ check.holds ∧ FirstDefect rest cause := by
  constructor
  · intro defect
    rcases defect with ⟨earlier, failing, later, same, passed, failed, reported⟩
    cases earlier with
    | nil =>
        cases same
        exact .inl ⟨failed, reported⟩
    | cons first others =>
        cases same
        rw [allHold_cons_iff] at passed
        exact .inr ⟨passed.1, others, failing, later, rfl, passed.2, failed, reported⟩
  · intro defect
    rcases defect with ⟨failed, reported⟩ | ⟨held, earlier, failing, later, rfl, passed, rest⟩
    · exact ⟨[], check, rest, rfl, allHold_nil, failed, reported⟩
    · exact ⟨check :: earlier, failing, later, rfl, allHold_cons_iff.2 ⟨held, passed⟩, rest⟩

theorem FirstDefect.not_allHold {checks : List (Check Error)} {cause : Error}
    (defect : FirstDefect checks cause) : ¬AllHold checks := by
  rcases defect with ⟨earlier, check, later, rfl, -, failed, -⟩
  intro held
  exact failed (held check (List.mem_append_right earlier List.mem_cons_self))

theorem FirstDefect.append {first : List (Check Error)} {cause : Error}
    (defect : FirstDefect first cause) (second : List (Check Error)) :
    FirstDefect (first ++ second) cause := by
  rcases defect with ⟨earlier, check, later, rfl, found⟩
  exact ⟨earlier, check, later ++ second, by rw [List.append_assoc, List.cons_append], found⟩

theorem FirstDefect.behind {first second : List (Check Error)} {cause : Error}
    (passed : AllHold first) (defect : FirstDefect second cause) :
    FirstDefect (first ++ second) cause := by
  rcases defect with ⟨earlier, check, later, rfl, held, found⟩
  exact ⟨first ++ earlier, check, later, (List.append_assoc _ _ _).symm,
    allHold_append_iff.2 ⟨passed, held⟩, found⟩

/-- An input has one first defect. -/
theorem FirstDefect.unique {checks : List (Check Error)} {cause other : Error}
    (first : FirstDefect checks cause) (second : FirstDefect checks other) : cause = other := by
  induction checks with
  | nil => exact absurd allHold_nil first.not_allHold
  | cons check rest induction =>
      rcases firstDefect_cons_iff.1 first with ⟨failed, rfl⟩ | ⟨held, behind⟩
      · rcases firstDefect_cons_iff.1 second with ⟨-, reported⟩ | ⟨held, -⟩
        · exact reported
        · exact absurd held failed
      · rcases firstDefect_cons_iff.1 second with ⟨failed, -⟩ | ⟨-, behind'⟩
        · exact absurd held failed
        · exact induction behind behind'

/-- The error of a first defect is the error of one of the checks. -/
theorem FirstDefect.exists_mem {checks : List (Check Error)} {cause : Error}
    (defect : FirstDefect checks cause) : ∃ check ∈ checks, check.error = cause := by
  rcases defect with ⟨earlier, check, later, rfl, -, -, reported⟩
  exact ⟨check, List.mem_append_right earlier List.mem_cons_self, reported⟩

namespace Performs

variable {checks others : List (Check Error)}

theorem ok (value : Value) : Performs ([] : List (Check Error)) (.ok value) := .passed allHold_nil

/-- A check that comes first decides alone when it does not hold. -/
theorem check {check : Check Error} {result : Except Error Value}
    (kept : check.holds → Performs checks result)
    (broken : ¬check.holds → result = .error check.error) : Performs (check :: checks) result := by
  by_cases held : check.holds
  · cases kept held with
    | passed rest => exact .passed (allHold_cons_iff.2 ⟨held, rest⟩)
    | failed rest => exact .failed (firstDefect_cons_iff.2 (.inr ⟨held, rest⟩))
  · rw [broken held]
    exact .failed (firstDefect_cons_iff.2 (.inl ⟨held, rfl⟩))

theorem bind {first : Except Error Value} {next : Value → Except Error Result}
    (start : Performs checks first)
    (continued : ∀ value, first = .ok value → Performs others (next value)) :
    Performs (checks ++ others) (first >>= next) := by
  cases start with
  | failed defect => exact .failed (defect.append others)
  | @passed value held =>
      have rest := continued value rfl
      change Performs (checks ++ others) (next value)
      generalize next value = result at rest ⊢
      cases rest with
      | passed others => exact .passed (allHold_append_iff.2 ⟨held, others⟩)
      | failed defect => exact .failed (defect.behind held)

/-- What is done with the value has no part in the checks. -/
theorem map {result : Except Error Value} (f : Value → Result)
    (performs : Performs checks result) : Performs checks (result.map f) := by
  cases performs with
  | passed held => exact .passed held
  | failed defect => exact .failed defect

/-- A traversal performs the checks of the elements one after the other. -/
theorem mapM {f : Value → Except Error Result} {listed : Value → List (Check Error)}
    {values : List Value} (each : ∀ value ∈ values, Performs (listed value) (f value)) :
    Performs (values.flatMap listed) (values.mapM f) := by
  induction values with
  | nil => exact ok []
  | cons value rest induction =>
      have head := each value List.mem_cons_self
      have tail := induction fun other member => each other (List.mem_cons_of_mem value member)
      rw [List.mapM_cons, List.flatMap_cons]
      apply bind head
      intro result _
      exact tail.map fun results => result :: results

/-- A fold performs the checks of its steps. What a step checks may depend on its position, and on
what the steps before it have reached. -/
theorem foldlM {step : State → Value → Except Error State} {listed : Nat → List (Check Error)}
    (Reached : Nat → State → Prop) {values : List Value}
    (each : ∀ (position : Nat) (value : Value) (state : State), values[position]? = some value →
      Reached position state → Performs (listed position) (step state value) ∧
        ∀ next, step state value = .ok next → Reached (position + 1) next)
    {start : State} (initial : Reached 0 start) :
    Performs ((List.range values.length).flatMap listed) (values.foldlM step start) := by
  suffices ∀ (rest : List Value) (position : Nat) (state : State), values.drop position = rest →
      Reached position state →
        Performs ((List.range' position rest.length).flatMap listed) (rest.foldlM step state) by
    rw [List.range_eq_range']
    exact this values 0 start rfl initial
  intro rest
  induction rest with
  | nil =>
      intro position state _ _
      exact ok state
  | cons value rest induction =>
      intro position state remaining reached
      have found : values[position]? = some value := by
        rw [← List.head?_drop, remaining, List.head?_cons]
      have behind : values.drop (position + 1) = rest := by
        rw [← List.tail_drop, remaining, List.tail_cons]
      obtain ⟨performs, kept⟩ := each position value state found reached
      rw [List.foldlM_cons, List.length_cons, List.range'_succ, List.flatMap_cons]
      exact bind performs fun next answered =>
        induction (position + 1) next behind (kept next answered)

section Outcomes

variable {result : Except Error Value} (performs : Performs checks result)

include performs

theorem eq_error_iff {cause : Error} : result = .error cause ↔ FirstDefect checks cause := by
  cases performs with
  | passed held => exact iff_of_false nofun fun defect => defect.not_allHold held
  | failed defect =>
      rw [Except.error.injEq]
      constructor
      · rintro rfl
        exact defect
      · exact defect.unique

theorem exists_eq_ok_iff : (∃ value, result = .ok value) ↔ AllHold checks := by
  cases performs with
  | passed held => exact iff_of_true ⟨_, rfl⟩ held
  | failed defect => exact iff_of_false nofun defect.not_allHold

end Outcomes

end Performs

end Check

end ScriptMetadata
