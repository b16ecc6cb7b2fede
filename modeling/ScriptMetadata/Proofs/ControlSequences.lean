import Mathlib.Data.List.Basic

/-!
Texts with control sequences between their characters. Sequences that begin with a mark which
stands nowhere else can be found again in such a text, each where it was written, and deleting them
leaves the characters between them. It does not matter in how many passes they are deleted, because
what is left never makes a new sequence.
-/

set_option autoImplicit false

namespace ScriptMetadata.Text

/-- A control sequence or a character between sequences. -/
inductive Piece where
  | control (sequence : List Char)
  | plain (char : Char)
  deriving DecidableEq

namespace Piece

def text : Piece → List Char
  | control sequence => sequence
  | plain char => [char]

def sequence? : Piece → Option (List Char)
  | control sequence => some sequence
  | plain _ => none

def char? : Piece → Option Char
  | control _ => none
  | plain char => some char

/-! A text without sequences, as pieces. -/

theorem flatMap_text_plain (chars : List Char) :
    (chars.map plain).flatMap text = chars := by
  rw [List.flatMap_map]
  exact List.flatMap_singleton' chars

theorem filterMap_char_plain (chars : List Char) :
    (chars.map plain).filterMap char? = chars := by
  rw [List.filterMap_map]
  exact List.filterMap_some

theorem filterMap_sequence_plain (chars : List Char) :
    (chars.map plain).filterMap sequence? = [] := by
  simp [List.filterMap_map, sequence?, Function.comp_def]

end Piece

/-- Reads a text from the left and takes each sequence that it meets as a whole. The number is that
of the characters of a sequence still to be passed over. -/
def piecesFrom (sequences : List (List Char)) : Nat → List Char → List Piece
  | _, [] => []
  | passed + 1, _ :: rest => piecesFrom sequences passed rest
  | 0, char :: rest =>
      match sequences.find? (·.isPrefixOf (char :: rest)) with
      | some sequence => .control sequence :: piecesFrom sequences (sequence.length - 1) rest
      | none => .plain char :: piecesFrom sequences 0 rest

def pieces (sequences : List (List Char)) (text : List Char) : List Piece :=
  piecesFrom sequences 0 text

/-- The sequences that a text has, in their order. -/
def sequencesIn (sequences : List (List Char)) (text : List Char) : List (List Char) :=
  (pieces sequences text).filterMap Piece.sequence?

/-- What one pass over the text leaves when every sequence that it meets is deleted. -/
def delete (text : List Char) (sequences : List (List Char)) : List Char :=
  (pieces sequences text).filterMap Piece.char?

/-- Each sequence begins with the mark and has it nowhere else, and none is the beginning of
another. -/
structure Marked (mark : Char) (sequences : List (List Char)) : Prop where
  begins : ∀ sequence ∈ sequences, sequence.head? = some mark
  once : ∀ sequence ∈ sequences, mark ∉ sequence.tail
  apart : ∀ sequence ∈ sequences, ∀ other ∈ sequences, sequence <+: other → sequence = other

/-- A piece of a text in which the mark stands for nothing but the sequences. -/
def Piece.Fits (mark : Char) (sequences : List (List Char)) : Piece → Prop
  | .control sequence => sequence ∈ sequences
  | .plain char => char ≠ mark

theorem Piece.fits_plain {mark : Char} {sequences : List (List Char)} {chars : List Char}
    (unmarked : mark ∉ chars) : ∀ piece ∈ chars.map Piece.plain, piece.Fits mark sequences := by
  intro piece member
  obtain ⟨char, listed, rfl⟩ := List.mem_map.1 member
  exact fun same => unmarked (same ▸ listed)

section Reading

variable {mark : Char} {sequences chosen : List (List Char)} (marked : Marked mark sequences)
  (among : chosen ⊆ sequences)

include marked among

theorem find_of_ne_mark {char : Char} (unmarked : char ≠ mark) (rest : List Char) :
    chosen.find? (·.isPrefixOf (char :: rest)) = none := by
  rw [List.find?_eq_none]
  intro sequence listed begins
  have first := marked.begins sequence (among listed)
  obtain ⟨behind, same⟩ := List.isPrefixOf_iff_prefix.1 begins
  cases sequence with
  | nil => contradiction
  | cons head tail =>
      have heads : head = char := List.head_eq_of_cons_eq same
      have marks : head = mark := Option.some.inj first
      exact unmarked (heads.symm.trans marks)

theorem find_of_sequence {sequence : List Char} (known : sequence ∈ sequences)
    (rest : List Char) :
    chosen.find? (·.isPrefixOf (sequence ++ rest)) =
      if sequence ∈ chosen then some sequence else none := by
  have unique : ∀ other ∈ chosen, other.isPrefixOf (sequence ++ rest) = true →
      other = sequence := by
    intro other listed begins
    have first := List.isPrefixOf_iff_prefix.1 begins
    rcases List.prefix_or_prefix_of_prefix first (List.prefix_append sequence rest) with
      shorter | longer
    · exact marked.apart other (among listed) sequence known shorter
    · exact (marked.apart sequence known other (among listed) longer).symm
  cases found : chosen.find? (·.isPrefixOf (sequence ++ rest)) with
  | some other =>
      have listed := List.mem_of_find?_eq_some found
      have begins := List.find?_some found
      have same := unique other listed begins
      rw [same] at listed ⊢
      rw [if_pos listed]
  | none =>
      rw [if_neg]
      intro listed
      exact List.find?_eq_none.1 found sequence listed
        (List.isPrefixOf_iff_prefix.2 (List.prefix_append sequence rest))

theorem pieces_char {char : Char} (unmarked : char ≠ mark) (rest : List Char) :
    pieces chosen (char :: rest) = .plain char :: pieces chosen rest := by
  rw [pieces, piecesFrom, find_of_ne_mark marked among unmarked rest]
  rfl

theorem pieces_chars {text : List Char} (unmarked : mark ∉ text) (rest : List Char) :
    pieces chosen (text ++ rest) = text.map .plain ++ pieces chosen rest := by
  induction text with
  | nil => rfl
  | cons char text induction =>
      have first : char ≠ mark := fun same => unmarked (same ▸ List.mem_cons_self)
      have later := fun member => unmarked (List.mem_cons_of_mem char member)
      rw [List.cons_append, pieces_char marked among first, induction later]
      rfl

omit marked among in
theorem piecesFrom_append (passed rest : List Char) :
    piecesFrom chosen passed.length (passed ++ rest) = pieces chosen rest := by
  induction passed with
  | nil => rfl
  | cons char passed induction => exact induction

/-- What reading makes of a piece that was written: a sequence that is not looked for is read as its
characters. -/
def Piece.reread (chosen : List (List Char)) : Piece → List Piece
  | .control sequence => if sequence ∈ chosen then [.control sequence] else sequence.map .plain
  | .plain char => [.plain char]

theorem pieces_sequence {sequence : List Char} (known : sequence ∈ sequences) (rest : List Char) :
    pieces chosen (sequence ++ rest) =
      (Piece.control sequence).reread chosen ++ pieces chosen rest := by
  have found := find_of_sequence marked among known rest
  have first := marked.begins sequence known
  have later := marked.once sequence known
  cases sequence with
  | nil => contradiction
  | cons head tail =>
      rw [List.cons_append] at found ⊢
      rw [pieces, piecesFrom, found, Piece.reread]
      by_cases listed : head :: tail ∈ chosen
      · rw [if_pos listed, if_pos listed]
        exact congrArg (Piece.control (head :: tail) :: ·) (piecesFrom_append tail rest)
      · rw [if_neg listed, if_neg listed]
        exact congrArg (Piece.plain head :: ·) (pieces_chars marked among later rest)

theorem pieces_flatMap_text {written : List Piece}
    (fits : ∀ piece ∈ written, piece.Fits mark sequences) :
    pieces chosen (written.flatMap Piece.text) = written.flatMap (Piece.reread chosen) := by
  induction written with
  | nil => rfl
  | cons piece written induction =>
      obtain ⟨first, later⟩ := List.forall_mem_cons.1 fits
      rw [List.flatMap_cons, List.flatMap_cons, ← induction later]
      cases piece with
      | control sequence => exact pieces_sequence marked among first _
      | plain char => exact pieces_char marked among first _

omit among in
/-- Where all sequences are looked for, exactly the written pieces are read. -/
theorem pieces_written {written : List Piece}
    (fits : ∀ piece ∈ written, piece.Fits mark sequences) :
    pieces sequences (written.flatMap Piece.text) = written := by
  have same : ∀ piece ∈ written, piece.reread sequences = [piece] := by
    intro piece member
    cases piece with
    | control sequence => exact if_pos (fits _ member)
    | plain char => rfl
  rw [pieces_flatMap_text marked (List.Subset.refl sequences) fits, List.flatMap_congr same,
    List.flatMap_singleton']

end Reading

section Deleting

/-- Whether a piece is left when the sequences are deleted. -/
def Piece.survives (sequences : List (List Char)) : Piece → Bool
  | .control sequence => decide (sequence ∉ sequences)
  | .plain _ => true

theorem filter_survives (first second : List (List Char)) (written : List Piece) :
    (written.filter (Piece.survives first)).filter (Piece.survives second) =
      written.filter (Piece.survives (first ++ second)) := by
  rw [List.filter_filter]
  apply List.filter_congr
  intro piece _
  cases piece with
  | control sequence => simp [Piece.survives, Bool.and_comm]
  | plain char => rfl

variable {mark : Char} {sequences : List (List Char)} (marked : Marked mark sequences)
  {written : List Piece}

theorem flatMap_filter {Item : Type} (keep : Item → Bool) (write : Item → List Char)
    (items : List Item) :
    (items.filter keep).flatMap write =
      items.flatMap fun item => if keep item then write item else [] := by
  induction items with
  | nil => rfl
  | cons item items induction =>
      rw [List.filter_cons, List.flatMap_cons, ← induction]
      split <;> rfl

theorem filterMap_reread (chosen : List (List Char)) (piece : Piece) :
    (piece.reread chosen).filterMap Piece.char? =
      if piece.survives chosen then piece.text else [] := by
  cases piece with
  | control sequence =>
      by_cases listed : sequence ∈ chosen
      · simp [Piece.reread, Piece.survives, Piece.char?, listed]
      · rw [Piece.reread, if_neg listed, Piece.filterMap_char_plain]
        simp [Piece.survives, Piece.text, listed]
  | plain char => rfl

include marked

theorem delete_flatMap_text {chosen : List (List Char)} (among : chosen ⊆ sequences)
    (fits : ∀ piece ∈ written, piece.Fits mark sequences) :
    delete (written.flatMap Piece.text) chosen =
      (written.filter (Piece.survives chosen)).flatMap Piece.text := by
  rw [delete, pieces_flatMap_text marked among fits, List.filterMap_flatMap]
  simp only [filterMap_reread]
  exact (flatMap_filter _ _ _).symm

theorem foldl_delete (passes : List (List (List Char)))
    (among : ∀ pass ∈ passes, pass ⊆ sequences)
    (fits : ∀ piece ∈ written, piece.Fits mark sequences) :
    passes.foldl delete (written.flatMap Piece.text) =
      (written.filter (Piece.survives passes.flatten)).flatMap Piece.text := by
  induction passes generalizing written with
  | nil =>
      have all : ∀ piece ∈ written, piece.survives [] = true := by
        intro piece _
        cases piece <;> rfl
      rw [List.foldl_nil, List.flatten_nil, List.filter_eq_self.2 all]
  | cons pass passes induction =>
      obtain ⟨first, later⟩ := List.forall_mem_cons.1 among
      have remaining : ∀ piece ∈ written.filter (Piece.survives pass), piece.Fits mark sequences :=
        fun piece member => fits piece (List.mem_of_mem_filter member)
      rw [List.foldl_cons, delete_flatMap_text marked first fits, induction later remaining,
        filter_survives, List.flatten_cons]

/-- Passes that delete every sequence, in whatever order, leave the characters between them. -/
theorem foldl_delete_all {passes : List (List (List Char))}
    (complete : ∀ sequence, sequence ∈ passes.flatten ↔ sequence ∈ sequences)
    (fits : ∀ piece ∈ written, piece.Fits mark sequences) :
    passes.foldl delete (written.flatMap Piece.text) = written.filterMap Piece.char? := by
  have among : ∀ pass ∈ passes, pass ⊆ sequences := fun pass member sequence listed =>
    (complete sequence).1 (List.mem_flatten_of_mem member listed)
  rw [foldl_delete marked passes among fits, flatMap_filter, List.filterMap_eq_flatMap_toList]
  apply List.flatMap_congr
  intro piece member
  cases piece with
  | control sequence =>
      have deleted : sequence ∈ passes.flatten := (complete sequence).2 (fits _ member)
      simp [Piece.survives, Piece.char?, deleted]
  | plain char => rfl

omit marked in
theorem mark_not_mem_chars (fits : ∀ piece ∈ written, piece.Fits mark sequences) :
    mark ∉ written.filterMap Piece.char? := by
  intro member
  obtain ⟨piece, listed, same⟩ := List.mem_filterMap.1 member
  cases piece with
  | control sequence => contradiction
  | plain char => exact fits _ listed (Option.some.inj same)

/-- The mark of a piece can only be at its start, and only of a sequence. -/
theorem mem_sequences_of_mark {piece : Piece} (fit : piece.Fits mark sequences)
    {before inside : List Char} (place : piece.text = before ++ mark :: inside) :
    mark :: inside ∈ sequences := by
  cases piece with
  | plain char =>
      have member : mark ∈ [char] := by
        rw [show [char] = before ++ mark :: inside from place]
        exact List.mem_append_right before List.mem_cons_self
      exact absurd (List.mem_singleton.1 member).symm fit
  | control sequence =>
      have shape : sequence = before ++ mark :: inside := place
      cases before with
      | nil =>
          rw [List.nil_append] at shape
          exact shape ▸ fit
      | cons head before =>
          have further : mark ∈ sequence.tail := by
            rw [shape]
            exact List.mem_append_right before List.mem_cons_self
          exact absurd further (marked.once sequence fit)

/-- Every mark in the text begins one of the sequences. -/
theorem sequence_at_mark (fits : ∀ piece ∈ written, piece.Fits mark sequences)
    {before after : List Char} (place : written.flatMap Piece.text = before ++ mark :: after) :
    ∃ sequence ∈ sequences, sequence <+: mark :: after := by
  induction written generalizing before with
  | nil => simp at place
  | cons piece written induction =>
      obtain ⟨first, later⟩ := List.forall_mem_cons.1 fits
      rw [List.flatMap_cons] at place
      rcases List.append_eq_append_iff.1 place with ⟨between, -, behind⟩ | ⟨inside, front, behind⟩
      · exact induction later behind
      · cases inside with
        | nil =>
            have whole : written.flatMap Piece.text = [] ++ mark :: after := behind.symm
            exact induction later whole
        | cons head inside =>
            obtain ⟨rfl, rest⟩ := List.cons.inj behind
            refine ⟨mark :: inside, mem_sequences_of_mark marked first front, ?_⟩
            rw [rest]
            exact List.prefix_append (mark :: inside) _

end Deleting

end ScriptMetadata.Text
