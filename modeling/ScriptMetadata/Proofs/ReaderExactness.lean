import Mathlib.Data.List.Forall2
import ScriptMetadata.Reader

/-!
Readers against spellings. A reader is exact when it takes precisely the spellings of a value off
the front of its input, whatever stands behind them; repetition, separation and bracketing of exact
readers are exact again.
-/

set_option autoImplicit false

namespace ScriptMetadata.Reader

variable {Symbol Value : Type}

def Reads (reader : Reader Symbol Value) (Spelled : Value → List Symbol → Prop) : Prop :=
  ∀ input value rest, reader.run input = some (value, rest) ↔
    ∃ text, input = text ++ rest ∧ Spelled value text

/-- Readers of values that have one spelling each. -/
def Inverts (reader : Reader Symbol Value) (encode : Value → List Symbol) : Prop :=
  ∀ input value rest, reader.run input = some (value, rest) ↔ input = encode value ++ rest

theorem all_eq (reader : Reader Symbol Value) (input : List Symbol) :
    reader.all input =
      if input.isEmpty then some []
      else (reader.run input).bind fun (value, rest) => (reader.all rest).map (value :: ·) := by
  rw [all]
  split
  · rfl
  · split
    · rename_i failed
      rw [failed, Option.bind_none]
    · rename_i value rest taken
      rw [taken, Option.bind_some]

theorem ne_nil_of_reads {reader : Reader Symbol Value}
    {Spelled : Value → List Symbol → Prop} (reads : reader.Reads Spelled) {value : Value}
    {text : List Symbol} (spelled : Spelled value text) : text ≠ [] := by
  rintro rfl
  have taken := (reads [] value []).2 ⟨[], rfl, spelled⟩
  exact absurd (reader.shrinks taken) (Nat.lt_irrefl 0)

theorem Inverts.reads {reader : Reader Symbol Value} {encode : Value → List Symbol}
    (inverts : reader.Inverts encode) : reader.Reads fun value text => text = encode value := by
  intro input value rest
  rw [inverts, exists_eq_right]

section Closing

variable [DecidableEq Symbol] {reader : Reader Symbol Value}

theorem upTo_eq (reader : Reader Symbol Value) (closing : Symbol) (input : List Symbol) :
    reader.upTo closing input =
      if input.head? = some closing then some ([], input.tail)
      else (reader.run input).bind fun (value, rest) =>
        (reader.upTo closing rest).map fun (values, rest) => (value :: values, rest) := by
  rw [upTo]
  split
  · rfl
  · split
    · rename_i failed
      rw [failed, Option.bind_none]
    · rename_i value rest taken
      rw [taken, Option.bind_some]

theorem separated_eq (reader : Reader Symbol Value) (separator closing : Symbol)
    (input : List Symbol) :
    reader.separated separator closing input =
      (reader.run input).bind fun (value, rest) =>
        match rest with
        | [] => none
        | symbol :: more =>
            if symbol = closing then some ([value], more)
            else if symbol = separator then
              (reader.separated separator closing more).map fun (values, rest) =>
                (value :: values, rest)
            else none := by
  rw [separated]
  split
  · rename_i failed
    rw [failed, Option.bind_none]
  · rename_i value rest taken
    cases rest with
    | nil => simp only [taken, Option.bind_some]
    | cons symbol more => simp only [taken, Option.bind_some]

/-- Values up to the closing symbol, when no spelling of a value starts with it. -/
theorem upTo_eq_some_iff {Spelled : Value → List Symbol → Prop} (reads : reader.Reads Spelled)
    {closing : Symbol} (apart : ∀ value text, Spelled value text → text.head? ≠ some closing)
    {input rest : List Symbol} {values : List Value} :
    reader.upTo closing input = some (values, rest) ↔
      ∃ pieces, List.Forall₂ Spelled values pieces ∧ input = pieces.flatten ++ closing :: rest := by
  constructor
  · intro read
    induction size : input.length using Nat.strongRecOn generalizing input values with
    | _ size induction =>
        subst size
        rw [upTo_eq] at read
        split at read
        · rename_i closed
          cases read
          obtain ⟨tail, rfl⟩ := List.head?_eq_some_iff.1 closed
          exact ⟨[], .nil, rfl⟩
        · obtain ⟨⟨value, after⟩, taken, remaining⟩ := Option.bind_eq_some_iff.1 read
          obtain ⟨⟨others, last⟩, further, same⟩ := Option.map_eq_some_iff.1 remaining
          cases same
          obtain ⟨text, rfl, spelled⟩ := (reads _ _ _).1 taken
          obtain ⟨pieces, related, rfl⟩ := induction _ (reader.shrinks taken) further rfl
          exact ⟨text :: pieces, .cons spelled related, by simp⟩
  · rintro ⟨pieces, related, rfl⟩
    induction related with
    | nil =>
        rw [upTo_eq]
        exact if_pos rfl
    | @cons value text values pieces spelled related induction =>
        have first : ((text :: pieces).flatten ++ closing :: rest).head? ≠ some closing := by
          obtain ⟨symbol, tail, rfl⟩ := List.exists_cons_of_ne_nil (ne_nil_of_reads reads spelled)
          exact apart value (symbol :: tail) spelled
        have taken := (reads (text ++ (pieces.flatten ++ closing :: rest)) value _).2
          ⟨text, rfl, spelled⟩
        rw [upTo_eq, if_neg first, List.flatten_cons, List.append_assoc, taken]
        simp only [Option.bind_some, induction, Option.map_some]

variable {encode : Value → List Symbol}

theorem separated_eq_some_iff (inverts : reader.Inverts encode) {separator closing : Symbol}
    (distinct : separator ≠ closing) {input rest : List Symbol} {values : List Value} :
    reader.separated separator closing input = some (values, rest) ↔
      values ≠ [] ∧ input = [separator].intercalate (values.map encode) ++ closing :: rest := by
  constructor
  · intro read
    induction size : input.length using Nat.strongRecOn generalizing input values with
    | _ size induction =>
        subst size
        rw [separated_eq] at read
        obtain ⟨⟨value, after⟩, taken, remaining⟩ := Option.bind_eq_some_iff.1 read
        have shorter := reader.shrinks taken
        rw [inverts] at taken
        cases after with
        | nil => contradiction
        | cons symbol more =>
            simp only at remaining
            split at remaining
            · rename_i closed
              cases remaining
              exact ⟨List.cons_ne_nil _ _, by simp [taken, closed]⟩
            · split at remaining
              · rename_i divided
                obtain ⟨⟨others, last⟩, further, same⟩ := Option.map_eq_some_iff.1 remaining
                cases same
                obtain ⟨present, rfl⟩ := induction more.length
                  (by rw [List.length_cons] at shorter; omega) further rfl
                obtain ⟨other, others, rfl⟩ := List.exists_cons_of_ne_nil present
                exact ⟨List.cons_ne_nil _ _, by simp [taken, divided]⟩
              · contradiction
  · rintro ⟨present, rfl⟩
    induction values with
    | nil => contradiction
    | cons value others induction =>
        cases others with
        | nil =>
            have taken := (inverts _ value (closing :: rest)).2 rfl
            rw [separated_eq]
            simp [taken]
        | cons other others =>
            have further := induction (List.cons_ne_nil _ _)
            have taken := (inverts _ value (separator ::
              ([separator].intercalate ((other :: others).map encode) ++ closing :: rest))).2 rfl
            rw [separated_eq]
            simp_all

/-- How a list in brackets is written. -/
def bracket (opening separator closing : Symbol) (encode : Value → List Symbol)
    (values : List Value) : List Symbol :=
  opening :: ([separator].intercalate (values.map encode) ++ [closing])

theorem bracketed_inverts (inverts : reader.Inverts encode) {opening separator closing : Symbol}
    (distinct : separator ≠ closing) (apart : ∀ value, (encode value).head? ≠ some closing) :
    (bracketed opening separator closing reader).Inverts
      (bracket opening separator closing encode) := by
  have first : ∀ value others rest,
      ([separator].intercalate ((value :: others).map encode) ++ rest).head? ≠ some closing := by
    intro value others rest
    have starts := apart value
    have present : encode value ≠ [] := ne_nil_of_reads inverts.reads rfl
    obtain ⟨symbol, tail, same⟩ := List.exists_cons_of_ne_nil present
    cases others with
    | nil => simpa [same] using starts
    | cons other others => simpa [same] using starts
  intro input values rest
  cases input with
  | nil => simp [bracketed, bracket]
  | cons symbol after =>
      simp only [bracketed, bracket, List.cons_append, List.append_assoc, List.nil_append,
        List.cons.injEq]
      by_cases opened : symbol = opening
      · rw [if_pos opened, and_iff_right opened]
        cases values with
        | nil =>
            split
            · rename_i closed
              obtain ⟨tail, rfl⟩ := List.head?_eq_some_iff.1 closed
              simp
            · rename_i unclosed
              rw [separated_eq_some_iff inverts distinct]
              refine ⟨fun read => absurd rfl read.1, ?_⟩
              rintro rfl
              exact absurd rfl unclosed
        | cons value others =>
            split
            · rename_i closed
              refine ⟨by simp, ?_⟩
              rintro rfl
              exact absurd closed (first value others _)
            · rw [separated_eq_some_iff inverts distinct,
                and_iff_right (List.cons_ne_nil value others)]
      · simp [opened]

end Closing

end ScriptMetadata.Reader
