import ScriptMetadata.Container
import ScriptMetadata.Proofs.SelfDelimiting

/-!
The lines of the log. An event reads as a sentence whose words are its numbers, its names and fixed
words between them. Names of reserved tables have no space in them, so the words of a sentence come
back from its text, and with them the event.
-/

set_option autoImplicit false

namespace ScriptMetadata

open Text

/-! ### Sentences -/

/-- Words a space apart. -/
def sentence (words : List String) : String :=
  String.ofList ([' '].intercalate (words.map String.toList))

def numeral (value : Nat) : String := String.ofList (decimal value)

def backquoted (name : String) : String := "`" ++ name ++ "`"

theorem toList_numeral (value : Nat) : (numeral value).toList = Nat.toDigits 10 value :=
  String.toList_ofList

theorem numeral_inj {value other : Nat} : numeral value = numeral other ↔ value = other := by
  constructor
  · intro same
    have digits := congrArg (fun text => numeralValue 10 text.toList) same
    simpa only [toList_numeral, numeralValue_toDigits (show 1 < 10 by decide)
      (show 10 ≤ 16 by decide)] using digits
  · exact congrArg numeral

theorem backquoted_inj {name other : String} :
    backquoted name = backquoted other ↔ name = other := by
  rw [backquoted, backquoted, String.append_left_inj, String.append_right_inj]

/-- No space divides the word. -/
def Unbroken (word : String) : Prop := ' ' ∉ word.toList

instance (word : String) : Decidable (Unbroken word) := inferInstanceAs (Decidable (¬_))

theorem unbroken_append {first second : String} :
    Unbroken (first ++ second) ↔ Unbroken first ∧ Unbroken second := by
  rw [Unbroken, String.toList_append, List.mem_append, not_or]
  rfl

theorem unbroken_numeral (value : Nat) : Unbroken (numeral value) := by
  rw [Unbroken, toList_numeral]
  intro member
  obtain ⟨digit, below, space⟩ := exists_digit_of_mem_toDigits (by decide) (by decide) member
  have apart : ∀ digit < 16, Nat.digitChar digit ≠ ' ' := by decide
  exact apart digit below space

theorem unbroken_backquoted {name : String} (unbroken : Unbroken name) :
    Unbroken (backquoted name) :=
  unbroken_append.2 ⟨unbroken_append.2 ⟨by decide, unbroken⟩, by decide⟩

section Words

variable {word next : String} {words others : List String}

theorem toList_sentence_singleton (word : String) : (sentence [word]).toList = word.toList := by
  simp [sentence, List.intercalate]

theorem toList_sentence_cons (word next : String) (rest : List String) :
    (sentence (word :: next :: rest)).toList =
      word.toList ++ ' ' :: (sentence (next :: rest)).toList := by
  simp [sentence, List.intercalate]

theorem splitOn_sentence (present : words ≠ []) (unbroken : ∀ word ∈ words, Unbroken word) :
    (sentence words).toList.splitOn ' ' = words.map String.toList := by
  rw [sentence, String.toList_ofList]
  apply List.splitOn_intercalate
  · intro chars listed
    obtain ⟨word, member, rfl⟩ := List.mem_map.1 listed
    exact unbroken word member
  · exact fun none => present (List.map_eq_nil_iff.1 none)

theorem eq_of_sentence (present : words ≠ []) (present' : others ≠ [])
    (unbroken : ∀ word ∈ words, Unbroken word) (unbroken' : ∀ word ∈ others, Unbroken word)
    (same : sentence words = sentence others) : words = others := by
  have split := congrArg (fun text : String => text.toList.splitOn ' ') same
  simp only [splitOn_sentence present unbroken, splitOn_sentence present' unbroken'] at split
  exact (List.map_inj_right fun _ _ => String.toList_inj.1).1 split

/-- The first words are told apart whatever the others are. -/
theorem eq_of_first_word (unbroken : Unbroken word) (unbroken' : Unbroken next)
    {second second' : String} (same : sentence (word :: second :: words) =
      sentence (next :: second' :: others)) : word = next := by
  have chars := congrArg String.toList same
  rw [toList_sentence_cons, toList_sentence_cons] at chars
  exact String.toList_inj.1 (eq_of_append_mark unbroken unbroken' chars).1

end Words

/-! ### Failures -/

namespace Extraction.Failure

def words : Failure → List String
  | load _ => ["module", "failed", "to", "load"]
  | arity table row expected found =>
      ["table", backquoted table, "row", numeral row ++ ":", "expected", numeral expected,
        "operand(s),", "found", numeral found]
  | operandType cell expected found =>
      ["table", backquoted cell.table, "row", numeral cell.row, "operand",
        numeral cell.operand ++ ":", "expected", expected.label ++ ",", "found", found.label]
  | integerOverflow cell value =>
      ["table", backquoted cell.table, "row", numeral cell.row ++ ":", "value",
        numeral value.toNat, "does", "not", "fit", "in", "32", "bits"]
  | scalarRowCount table found =>
      ["table", backquoted table ++ ":", "expected", "exactly", "one", "row,", "found",
        numeral found]
  | kernelCountMismatch names signatures =>
      ["foreach", "names", "(" ++ numeral names ++ ")", "and", "signatures",
        "(" ++ numeral signatures ++ ")", "differ", "in", "count"]

theorem words_ne_nil (cause : Failure) : cause.words ≠ [] := by
  cases cause <;> simp [words]

theorem toString_text (text : String) : toString text = text := rfl

theorem toString_word (value : UInt64) : toString value = numeral value.toNat := rfl

theorem message_eq_sentence (cause : Failure) : cause.message = sentence cause.words := by
  unfold message
  apply String.toList_inj.1
  cases cause <;>
    simp [words, backquoted, toString_text, toString_word, toList_numeral,
      toList_sentence_singleton, toList_sentence_cons]

/-- What an extraction over a module can fail with: a failure of a reserved table, where a value
that is too large is the only operand of its row, or a mismatch of the kernel tables. -/
inductive Reported : Failure → Prop where
  | arity {table : String} (reserved : table ∈ Schema.reserved) (row expected found : Nat) :
      Reported (.arity table row expected found)
  | operandType {table : String} (reserved : table ∈ Schema.reserved) (row operand : Nat)
      (expected found : OperandKind) : Reported (.operandType ⟨table, row, operand⟩ expected found)
  | integerOverflow {table : String} (reserved : table ∈ Schema.reserved) (row : Nat)
      (value : UInt64) : Reported (.integerOverflow ⟨table, row, 0⟩ value)
  | scalarRowCount {table : String} (reserved : table ∈ Schema.reserved) (found : Nat) :
      Reported (.scalarRowCount table found)
  | kernelCountMismatch (names signatures : Nat) : Reported (.kernelCountMismatch names signatures)

theorem unbroken_reserved {table : String} (reserved : table ∈ Schema.reserved) :
    Unbroken (backquoted table) := by
  have unbroken : ∀ table ∈ Schema.reserved, Unbroken table := by decide
  exact unbroken_backquoted (unbroken table reserved)

theorem unbroken_label (kind : OperandKind) : Unbroken kind.label := by
  cases kind <;> decide

theorem unbroken_words {cause : Failure} (reported : cause.Reported) :
    ∀ word ∈ cause.words, Unbroken word := by
  cases reported with
  | arity reserved row expected found =>
      simp +decide [words, unbroken_append, unbroken_numeral, unbroken_reserved reserved]
  | operandType reserved row operand expected found =>
      simp +decide [words, unbroken_append, unbroken_numeral, unbroken_label,
        unbroken_reserved reserved]
  | integerOverflow reserved row value =>
      simp +decide [words, unbroken_append, unbroken_numeral, unbroken_reserved reserved]
  | scalarRowCount reserved found =>
      simp +decide [words, unbroken_append, unbroken_numeral, unbroken_reserved reserved]
  | kernelCountMismatch names signatures =>
      simp +decide [words, unbroken_append, unbroken_numeral]

theorem label_inj {kind other : OperandKind} : kind.label = other.label ↔ kind = other := by
  cases kind <;> cases other <;> decide

theorem eq_of_words {cause other : Failure} (reported : cause.Reported) (reported' : other.Reported)
    (same : cause.words = other.words) : cause = other := by
  cases reported with
  | arity reserved row expected found =>
      cases reported' with
      | arity => simpa [words, numeral_inj, backquoted_inj] using same
      | _ => simp [words] at same
  | operandType reserved row operand expected found =>
      cases reported' with
      | operandType =>
          simpa [words, numeral_inj, backquoted_inj, label_inj, and_assoc] using same
      | _ => simp [words] at same
  | integerOverflow reserved row value =>
      cases reported' with
      | integerOverflow =>
          simpa [words, numeral_inj, backquoted_inj, and_assoc, UInt64.toNat_inj] using same
      | _ => simp [words] at same
  | scalarRowCount reserved found =>
      cases reported' with
      | scalarRowCount => simpa [words, numeral_inj, backquoted_inj] using same
      | _ => simp [words] at same
  | kernelCountMismatch names signatures =>
      cases reported' with
      | kernelCountMismatch => simpa [words, numeral_inj] using same
      | _ => simp [words] at same

end Extraction.Failure

/-! ### Events -/

namespace Event

open Extraction

/-- How an event reads in the log: its level and its words. -/
def reading : Event → Severity × List String
  | moduleLoaded tables nodes operands =>
      (.debug, ["loaded", "module:", numeral tables.toNat, "tables,", numeral nodes.toNat,
        "nodes,", numeral operands.toNat, "operands"])
  | moduleRejected size cause =>
      (.warn, ["failed", "to", "load", "module", "(" ++ numeral size, "bytes):", cause.message])
  | rowsDecoded table count =>
      (.debug, ["decoded", backquoted table ++ ":", numeral count, "rows"])
  | pragmasDecoded table count =>
      (.debug, ["decoded", backquoted table ++ ":", numeral count, "pragmas"])
  | unknownPrecision table value =>
      (.warn, [backquoted table ++ ":", "unrecognized", "precision", numeral value.toNat ++ ",",
        "using", "full"])
  | unknownFlag table value =>
      (.warn, [backquoted table ++ ":", "unrecognized", "flag", backquoted value ++ ",",
        "assuming", "threadable"])
  | advisoryIgnored cause => (.warn, "ignoring" :: "advisory" :: "table:" :: cause.words)
  | extracted vars funcs kernels pragmas objectSlots =>
      (.debug, ["extracted", "metadata:", numeral vars, "vars,", numeral funcs, "funcs,",
        numeral kernels, "foreach,", numeral pragmas, "pragmas,", numeral objectSlots, "object",
        "slots"])
  | extractionFailed cause => (.warn, "metadata" :: "extraction" :: "failed:" :: cause.words)

/-- The level of an event and its sentence. -/
def spelled (event : Event) : Severity × String := (event.reading.1, sentence event.reading.2)

theorem toString_word (value : UInt32) : toString value = numeral value.toNat := rfl

/-- The words of a failure stand behind others. -/
theorem toList_sentence_words (word : String) (cause : Failure) :
    (sentence (word :: cause.words)).toList =
      word.toList ++ ' ' :: (sentence cause.words).toList := by
  obtain ⟨first, rest, words⟩ := List.exists_cons_of_ne_nil cause.words_ne_nil
  rw [words]
  exact toList_sentence_cons word first rest

theorem line_eq_spelled (event : Event) : event.line = event.spelled := by
  unfold line message
  cases event <;>
    simp [severity, spelled, reading, ← String.toList_inj, backquoted, Failure.toString_text,
      toString_word, toList_numeral, toList_sentence_singleton, toList_sentence_cons,
      toList_sentence_words, Failure.message_eq_sentence]

/-- What an extraction over a module can report: counts of reserved tables, a precision or a flag
that is not known, and failures. -/
inductive Reported : Event → Prop where
  | rowsDecoded {table : String} (reserved : table ∈ Schema.reserved) (count : Nat) :
      Reported (.rowsDecoded table count)
  | pragmasDecoded {table : String} (reserved : table ∈ Schema.reserved) (count : Nat) :
      Reported (.pragmasDecoded table count)
  | unknownPrecision (value : UInt32) : Reported (.unknownPrecision Schema.floatPrecision value)
  | unknownFlag (value : String) : Reported (.unknownFlag Schema.threadable value)
  | advisoryIgnored {cause : Failure} (reported : cause.Reported) :
      Reported (.advisoryIgnored cause)
  | extracted (vars funcs kernels pragmas objectSlots : Nat) :
      Reported (.extracted vars funcs kernels pragmas objectSlots)
  | extractionFailed {cause : Failure} (reported : cause.Reported) :
      Reported (.extractionFailed cause)

theorem reading_ne_nil (event : Event) : event.reading.2 ≠ [] := by
  cases event <;> simp [reading]

section Reading

variable {event other : Event}

/-- Only an unknown flag is spelled with a word that the module supplies. -/
theorem unbroken_reading (reported : event.Reported)
    (known : ∀ value, event ≠ .unknownFlag Schema.threadable value) :
    ∀ word ∈ event.reading.2, Unbroken word := by
  cases reported with
  | unknownFlag value => exact absurd rfl (known value)
  | rowsDecoded reserved count =>
      simp +decide [reading, unbroken_append, unbroken_numeral, Failure.unbroken_reserved reserved]
  | pragmasDecoded reserved count =>
      simp +decide [reading, unbroken_append, unbroken_numeral, Failure.unbroken_reserved reserved]
  | unknownPrecision value => simp +decide [reading, unbroken_append, unbroken_numeral]
  | advisoryIgnored reported =>
      simpa +decide [reading] using Failure.unbroken_words reported
  | extracted => simp +decide [reading, unbroken_numeral]
  | extractionFailed reported =>
      simpa +decide [reading] using Failure.unbroken_words reported

theorem eq_of_reading (reported : event.Reported) (reported' : other.Reported)
    (same : event.reading.2 = other.reading.2) : event = other := by
  cases reported with
  | rowsDecoded reserved count =>
      cases reported' with
      | rowsDecoded => simpa [reading, numeral_inj, backquoted_inj] using same
      | _ => simp [reading] at same
  | pragmasDecoded reserved count =>
      cases reported' with
      | pragmasDecoded => simpa [reading, numeral_inj, backquoted_inj] using same
      | _ => simp [reading] at same
  | unknownPrecision value =>
      cases reported' with
      | unknownPrecision => simpa [reading, numeral_inj, UInt32.toNat_inj] using same
      | _ => simp [reading] at same
  | unknownFlag value =>
      cases reported' with
      | unknownFlag => simpa [reading, backquoted_inj] using same
      | _ => simp [reading] at same
  | advisoryIgnored reported =>
      cases reported' with
      | advisoryIgnored reported' =>
          rw [Failure.eq_of_words reported reported' (by simpa [reading] using same)]
      | _ => simp [reading] at same
  | extracted =>
      cases reported' with
      | extracted => simpa [reading, numeral_inj] using same
      | _ => simp [reading] at same
  | extractionFailed reported =>
      cases reported' with
      | extractionFailed reported' =>
          rw [Failure.eq_of_words reported reported' (by simpa [reading] using same)]
      | _ => simp [reading] at same

/-- The text of an unknown flag may have spaces, and whatever else; its line is told by the table
that it begins with. -/
theorem spelled_flag_ne (value : String) (reported : other.Reported)
    (known : ∀ value, other ≠ .unknownFlag Schema.threadable value) :
    (Event.unknownFlag Schema.threadable value).spelled ≠ other.spelled := by
  intro same
  have first : Unbroken (backquoted Schema.threadable ++ ":") := by decide
  have same : sentence _ = sentence _ := congrArg Prod.snd same
  cases reported with
  | unknownFlag value => exact known value rfl
  | rowsDecoded => exact absurd (eq_of_first_word first (by decide) same) (by decide)
  | pragmasDecoded => exact absurd (eq_of_first_word first (by decide) same) (by decide)
  | unknownPrecision => exact absurd (eq_of_first_word first (by decide) same) (by decide)
  | advisoryIgnored => exact absurd (eq_of_first_word first (by decide) same) (by decide)
  | extracted => exact absurd (eq_of_first_word first (by decide) same) (by decide)
  | extractionFailed => exact absurd (eq_of_first_word first (by decide) same) (by decide)

theorem eq_of_spelled_flag {value value' : String}
    (same : (Event.unknownFlag Schema.threadable value).spelled =
      (Event.unknownFlag Schema.threadable value').spelled) : value = value' := by
  have chars := congrArg (fun line => line.2.toList) same
  simp only [spelled, reading, toList_sentence_cons, backquoted, String.toList_append,
    List.append_cancel_left_eq, List.cons.injEq, true_and, List.append_assoc,
    List.append_cancel_right_eq] at chars
  exact String.toList_inj.1 chars

/-- The line of an event that an extraction can report says which event it is. -/
theorem eq_of_spelled (reported : event.Reported) (reported' : other.Reported)
    (same : event.spelled = other.spelled) : event = other := by
  by_cases flag : ∃ value, event = .unknownFlag Schema.threadable value
  · obtain ⟨value, rfl⟩ := flag
    by_cases flag' : ∃ value', other = .unknownFlag Schema.threadable value'
    · obtain ⟨value', rfl⟩ := flag'
      rw [eq_of_spelled_flag same]
    · exact absurd same (spelled_flag_ne value reported' (not_exists.1 flag'))
  · by_cases flag' : ∃ value', other = .unknownFlag Schema.threadable value'
    · obtain ⟨value', rfl⟩ := flag'
      exact absurd same.symm (spelled_flag_ne value' reported (not_exists.1 flag))
    · apply eq_of_reading reported reported'
      exact eq_of_sentence event.reading_ne_nil other.reading_ne_nil
        (unbroken_reading reported (not_exists.1 flag))
        (unbroken_reading reported' (not_exists.1 flag')) (congrArg Prod.snd same)

theorem eq_of_map_spelled {events others : List Event} (reported : ∀ event ∈ events, event.Reported)
    (reported' : ∀ event ∈ others, event.Reported)
    (same : events.map spelled = others.map spelled) : events = others := by
  induction events generalizing others with
  | nil => exact (List.map_eq_nil_iff.1 same.symm).symm
  | cons event rest induction =>
      obtain ⟨other, rest', rfl, line, lines⟩ := List.map_eq_cons_iff.1 same.symm
      obtain ⟨head, tail⟩ := List.forall_mem_cons.1 reported
      obtain ⟨head', tail'⟩ := List.forall_mem_cons.1 reported'
      rw [eq_of_spelled head head' line.symm, induction tail tail' lines.symm]

end Reading

end Event

theorem Logged.lines_eq_spelled {Value : Type} (logged : Logged Event Value) :
    logged.lines = logged.events.map Event.spelled :=
  List.map_congr_left fun event _ => event.line_eq_spelled

end ScriptMetadata
