import Mathlib.Data.Set.List
import ScriptMetadata.Extraction
import ScriptMetadata.Proofs.Outcome

/-!
Decoders against encodings. A decoder is exact when it answers with a value on the encoding of that
value and on nothing else; exactness carries over from operands to rows, tables and lists.
-/

set_option autoImplicit false

namespace ScriptMetadata.Extraction

variable {α : Type}

/-- The rows of a table, none when it is absent. -/
def rowsOf (table : Option Table) : List Row := table.elim [] Table.rows

def OperandDecoder.Exact (decode : OperandDecoder α) (encode : α → Operand) : Prop :=
  ∀ cell operand value, decode cell operand = .ok value ↔ operand = encode value

def RowDecoder.Exact (decode : RowDecoder α) (encode : α → Row) : Prop :=
  ∀ table position row value, decode table position row = .ok value ↔ row = encode value

def textRow (value : String) : Row := [.text value]

def wordRow (value : UInt32) : Row := [.ofWord value]

def pragmaRow (value : Pragma) : Row := [.text value.key, .text value.value]

theorem text_exact : text.Exact .text := by
  intro cell operand value
  cases operand <;> simp [text]

theorem integer_eq_ofWord_iff {wide : UInt64} {value : UInt32} :
    Operand.integer wide = .ofWord value ↔ wide.toNat < UInt32.size ∧ wide.toUInt32 = value := by
  rw [Operand.ofWord, Operand.integer.injEq]
  constructor
  · rintro rfl
    exact ⟨value.toNat_lt, UInt32.toUInt32_toUInt64 value⟩
  · intro narrowed
    rcases narrowed with ⟨small, rfl⟩
    apply UInt64.toNat_inj.1
    rw [UInt32.toNat_toUInt64, UInt64.toNat_toUInt32]
    exact (Nat.mod_eq_of_lt small).symm

theorem word_exact : word.Exact .ofWord := by
  intro cell operand value
  cases operand with
  | text value => simp [word, Operand.ofWord]
  | integer wide =>
      rw [integer_eq_ofWord_iff, word]
      split
      · rename_i small
        rw [Except.ok.injEq, and_iff_right small]
      · rename_i large
        simp [large]

theorem single_exact {decode : OperandDecoder α} {encode : α → Operand}
    (exact : decode.Exact encode) : (single decode).Exact fun value => [encode value] := by
  intro table position row value
  match row with
  | [] => simp [single]
  | [operand] => simpa [single] using exact ⟨table, position, 0⟩ operand value
  | _ :: _ :: _ => simp [single]

theorem pragma_exact : RowDecoder.Exact pragma pragmaRow := by
  intro table position row value
  match row with
  | [] => simp [pragma, pragmaRow]
  | [_] => simp [pragma, pragmaRow]
  | [first, second] =>
      simp only [pragma, Outcome.bind_eq_ok_iff, text_exact _ _ _]
      constructor
      · intro answered
        rcases answered with ⟨key, rfl, stored, rfl, same⟩
        cases same
        rfl
      · intro same
        cases same
        exact ⟨value.key, rfl, value.value, rfl, rfl⟩
  | _ :: _ :: _ :: _ => simp [pragma, pragmaRow]

section Tables

variable {decode : RowDecoder α} {encode : α → Row} (exact : decode.Exact encode)

include exact

theorem rowsFrom_eq_ok_iff {table : String} {position : Nat} {given : List Row}
    {values : List α} :
    rowsFrom decode table position given = .ok values ↔ given = values.map encode := by
  induction given generalizing position values with
  | nil => simp [rowsFrom, eq_comm]
  | cons row rest induction =>
      simp only [rowsFrom, Outcome.bind_eq_ok_iff, exact _ _ _ _, induction]
      constructor
      · intro answered
        rcases answered with ⟨value, rfl, others, rfl, same⟩
        cases same
        rfl
      · intro same
        obtain ⟨value, others, rfl, head, tail⟩ := List.map_eq_cons_iff.1 same.symm
        exact ⟨value, head.symm, others, tail.symm, rfl⟩

theorem rows_eq_ok_iff {table : Table} {values : List α} :
    rows decode table = .ok values ↔ table.rows = values.map encode :=
  rowsFrom_eq_ok_iff exact

end Tables

theorem scalar_eq_ok_iff {decode : OperandDecoder α} {encode : α → Operand}
    (exact : decode.Exact encode) {table : Table} {value : α} :
    scalar decode table = .ok value ↔ table.rows = [[encode value]] := by
  unfold scalar
  split
  · rename_i row only
    rw [single_exact exact table.name 0 row value, only, List.cons.injEq, and_iff_left rfl]
  · rename_i other
    constructor
    · intro answered
      contradiction
    · intro only
      exact absurd only (other _)

/-- Rows are encodings of some values exactly when each of them is one. -/
theorem exists_values_iff {encode : α → Row} {given : List Row} :
    (∃ values, given = List.map encode values) ↔ ∀ row ∈ given, ∃ value, row = encode value := by
  have range := Set.ext_iff.1 (Set.range_list_map encode) given
  simpa only [Set.mem_range, Set.mem_ofPred_eq, eq_comm] using range

namespace Step

variable {Result : Type}

/-- What a step comes to, without the events that it records. -/
def outcome (step : Step α) : Except Failure α := step.run.value

@[simp] theorem outcome_pure (value : α) : (pure value : Step α).outcome = .ok value := rfl

@[simp] theorem outcome_ofExcept (result : Except Failure α) :
    (ofExcept result).outcome = result := rfl

@[simp] theorem outcome_record (event : Event) : (record event).outcome = .ok () := rfl

@[simp] theorem outcome_lift (logged : Logged Event α) :
    outcome (ExceptT.lift logged) = .ok logged.value := rfl

@[simp] theorem outcome_bind (first : Step α) (next : α → Step Result) :
    (first >>= next).outcome = first.outcome >>= fun value => (next value).outcome := by
  change (ExceptT.bindCont next first.run.value).value = _
  rw [outcome]
  cases first.run.value <;> rfl

end Step

theorem list_eq_ok_iff {decode : RowDecoder α} {encode : α → Row} (exact : decode.Exact encode)
    {decoded : String → Nat → Event} {table : Option Table} {values : List α} :
    (list decode decoded table).outcome = .ok values ↔ rowsOf table = values.map encode := by
  cases table with
  | none => simp [list, rowsOf, eq_comm]
  | some table =>
      simp only [list, Step.outcome_bind, Step.outcome_ofExcept, Step.outcome_record,
        Step.outcome_pure, Outcome.bind_eq_ok_iff, rows_eq_ok_iff exact]
      constructor
      · intro answered
        rcases answered with ⟨found, described, -, -, same⟩
        cases same
        exact described
      · intro described
        exact ⟨values, described, (), trivial, rfl⟩

theorem texts_eq_ok_iff {table : Option Table} {values : List String} :
    (texts table).outcome = .ok values ↔ rowsOf table = values.map textRow :=
  list_eq_ok_iff (single_exact text_exact)

theorem words_eq_ok_iff {table : Option Table} {values : List UInt32} :
    (words table).outcome = .ok values ↔ rowsOf table = values.map wordRow :=
  list_eq_ok_iff (single_exact word_exact)

theorem pragmas_eq_ok_iff {table : Option Table} {values : List Pragma} :
    (pragmas table).outcome = .ok values ↔ rowsOf table = values.map pragmaRow :=
  list_eq_ok_iff pragma_exact

theorem number_eq_ok_iff {table : Option Table} {value : UInt32} :
    (number table).outcome = .ok value ↔
      table = none ∧ value = 0 ∨ rowsOf table = [wordRow value] := by
  cases table with
  | none => simp [number, rowsOf, eq_comm]
  | some table => simpa [number, rowsOf, wordRow] using scalar_eq_ok_iff word_exact

theorem map_zipWith_kernel {names : List String} {signatures : List UInt32}
    (paired : names.length = signatures.length) :
    (List.zipWith Kernel.mk names signatures).map Kernel.name = names ∧
      (List.zipWith Kernel.mk names signatures).map Kernel.signature = signatures := by
  constructor
  · apply List.ext_getElem
    · simp [paired]
    · intro index below below'
      simp
  · apply List.ext_getElem
    · simp [paired]
    · intro index below below'
      simp

/-- Names and signatures pair up exactly when there are as many of the one as of the other. -/
theorem kernels_eq_ok_iff {names signatures : Option Table} {values : List Kernel} :
    (kernels names signatures).outcome = .ok values ↔
      rowsOf names = (values.map Kernel.name).map textRow ∧
        rowsOf signatures = (values.map Kernel.signature).map wordRow := by
  simp only [kernels, Step.outcome_bind, Outcome.bind_eq_ok_iff, texts_eq_ok_iff, words_eq_ok_iff]
  constructor
  · intro decoded
    rcases decoded with ⟨nameList, named, signatureList, signed, answered⟩
    split at answered
    · rename_i paired
      cases answered
      obtain ⟨first, second⟩ := map_zipWith_kernel paired
      rw [first, second]
      exact ⟨named, signed⟩
    · contradiction
  · intro stored
    rcases stored with ⟨named, signed⟩
    refine ⟨_, named, _, signed, ?_⟩
    rw [if_pos (by rw [List.length_map, List.length_map]), List.zipWith_map, List.zipWith_self]
    exact congrArg Except.ok (List.map_id values)

end ScriptMetadata.Extraction
