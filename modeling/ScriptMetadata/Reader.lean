/-!
Readers take a value off the front of a list of symbols. A reader that answers has used at least one
symbol, and this is part of the type, so repetitions of readers end.
-/

set_option autoImplicit false

namespace ScriptMetadata

structure Reader (Symbol Value : Type) where
  run : List Symbol → Option (Value × List Symbol)
  shrinks : ∀ {input value rest}, run input = some (value, rest) → rest.length < input.length

namespace Reader

variable {Symbol Value : Type}

/-- Values up to the end of the input. -/
def all (reader : Reader Symbol Value) (input : List Symbol) : Option (List Value) :=
  if input.isEmpty then some []
  else
    match _taken : reader.run input with
    | none => none
    | some (value, rest) => (all reader rest).map (value :: ·)
termination_by input.length
decreasing_by exact reader.shrinks _taken

variable [DecidableEq Symbol]

/-- Values up to a closing symbol, which is used up. -/
def upTo (reader : Reader Symbol Value) (closing : Symbol) (input : List Symbol) :
    Option (List Value × List Symbol) :=
  if input.head? = some closing then some ([], input.tail)
  else
    match _taken : reader.run input with
    | none => none
    | some (value, rest) =>
        (upTo reader closing rest).map fun (values, rest) => (value :: values, rest)
termination_by input.length
decreasing_by exact reader.shrinks _taken

/-- One or more values with a separator between them, up to a closing symbol. -/
def separated (reader : Reader Symbol Value) (separator closing : Symbol)
    (input : List Symbol) : Option (List Value × List Symbol) :=
  match _taken : reader.run input with
  | none => none
  | some (value, rest) =>
      match _next : rest with
      | [] => none
      | symbol :: more =>
          if symbol = closing then some ([value], more)
          else if symbol = separator then
            (separated reader separator closing more).map fun (values, rest) =>
              (value :: values, rest)
          else none
termination_by input.length
decreasing_by
  have shorter := reader.shrinks _taken
  simp only [List.length_cons] at shorter
  omega

theorem length_of_upTo {reader : Reader Symbol Value} {closing : Symbol} {input rest : List Symbol}
    {values : List Value} (read : reader.upTo closing input = some (values, rest)) :
    rest.length < input.length := by
  induction h : input.length using Nat.strongRecOn generalizing input values with
  | _ size induction =>
      subst h
      unfold upTo at read
      split at read
      · rename_i closed
        cases read
        cases input with
        | nil => simp at closed
        | cons _ _ => simp
      · split at read
        · contradiction
        · rename_i value after taken
          obtain ⟨⟨others, last⟩, remaining, same⟩ := Option.map_eq_some_iff.1 read
          cases same
          have shorter := reader.shrinks taken
          exact Nat.lt_trans (induction _ shorter remaining rfl) shorter

theorem length_of_separated {reader : Reader Symbol Value} {separator closing : Symbol}
    {input rest : List Symbol} {values : List Value}
    (read : reader.separated separator closing input = some (values, rest)) :
    rest.length < input.length := by
  induction h : input.length using Nat.strongRecOn generalizing input values with
  | _ size induction =>
      subst h
      unfold separated at read
      split at read
      · contradiction
      · rename_i value after taken
        have shorter := reader.shrinks taken
        split at read
        · contradiction
        · rename_i symbol more _ _
          simp only [List.length_cons] at shorter
          split at read
          · cases read
            omega
          · split at read
            · obtain ⟨⟨others, last⟩, remaining, same⟩ := Option.map_eq_some_iff.1 read
              cases same
              have further := induction more.length (by omega) remaining rfl
              omega
            · contradiction

/-- A list in brackets: an opening symbol, values with separators between them, a closing one. -/
def bracketed (opening separator closing : Symbol) (reader : Reader Symbol Value) :
    Reader Symbol (List Value) where
  run
    | [] => none
    | symbol :: rest =>
        if symbol = opening then
          if rest.head? = some closing then some ([], rest.tail)
          else reader.separated separator closing rest
        else none
  shrinks := by
    intro input values rest read
    cases input with
    | nil => contradiction
    | cons symbol after =>
        simp only [] at read
        split at read
        · split at read
          · cases read
            simp only [List.length_tail, List.length_cons]
            omega
          · have shorter := length_of_separated read
            simp only [List.length_cons]
            omega
        · contradiction

end Reader

end ScriptMetadata
