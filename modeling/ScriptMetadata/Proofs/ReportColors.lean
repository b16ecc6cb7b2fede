import ScriptMetadata.Proofs.ControlSequences
import ScriptMetadata.Proofs.ReportLines

/-!
Colours only decorate a report. The escape characters of a report with colours are those of the
sequences that the palette wrote, since quoted texts have none; without the sequences it is the
report without colours, and each style is reset before its line ends.
-/

set_option autoImplicit false

namespace ScriptMetadata.Report

open Text

namespace Palette

def styles (palette : Palette) : List (List Char) :=
  [palette.heading.toList, palette.label.toList, palette.value.toList]

def sequences (palette : Palette) : List (List Char) := palette.styles ++ [palette.reset.toList]

theorem style_mem_styles (palette : Palette) (role : Role) :
    (palette.style role).toList ∈ palette.styles := by
  cases role <;> simp [styles, style]

theorem marked_colored : Marked '\x1b' colored.sequences where
  begins := by decide
  once := by decide
  apart := by decide

end Palette

/-- Sequences in pairs of a style and the reset that ends it. -/
inductive Alternating (palette : Palette) : List (List Char) → Prop where
  | nil : Alternating palette []
  | cons {style : List Char} {rest : List (List Char)} (styles : style ∈ palette.styles)
      (alternating : Alternating palette rest) :
      Alternating palette (style :: palette.reset.toList :: rest)

theorem Alternating.append {palette : Palette} {first second : List (List Char)}
    (alternating : Alternating palette first) (alternating' : Alternating palette second) :
    Alternating palette (first ++ second) := by
  induction alternating with
  | nil => exact alternating'
  | cons styles _ induction => exact .cons styles induction

theorem Alternating.flatMap {palette : Palette} {Item : Type} {write : Item → List (List Char)}
    (alternating : ∀ item, Alternating palette (write item)) (items : List Item) :
    Alternating palette (items.flatMap write) := by
  induction items with
  | nil => exact .nil
  | cons item items induction => exact (alternating item).append induction

section Pieces

variable (palette : Palette)

/-- What painting writes for a span, the sequences apart from the text. -/
def Span.pieces (span : Span) : List Piece :=
  match span.role with
  | none => span.text.map .plain
  | some role =>
      .control (palette.style role).toList :: span.text.map .plain ++
        [.control palette.reset.toList]

def linePieces (line : Line) : List Piece := line.flatMap (Span.pieces palette)

def reportPieces (metadata : Metadata) : List Piece :=
  (lines metadata).flatMap fun line => linePieces palette line ++ [.plain '\n']

variable {palette}

theorem Span.pieces_cases (span : Span) :
    span.pieces palette = span.text.map .plain ∧ span.render palette = span.text ∨
      ∃ style ∈ palette.styles,
        span.pieces palette = .control style :: span.text.map .plain ++
          [.control palette.reset.toList] ∧
        span.render palette = style ++ span.text ++ palette.reset.toList := by
  obtain ⟨role, text⟩ := span
  cases role with
  | none => exact .inl ⟨rfl, rfl⟩
  | some role => exact .inr ⟨_, palette.style_mem_styles role, rfl, rfl⟩

theorem Span.flatMap_pieces (span : Span) :
    (span.pieces palette).flatMap Piece.text = span.render palette := by
  rcases span.pieces_cases with ⟨pieces, shown⟩ | ⟨style, -, pieces, shown⟩
  · rw [pieces, shown, Piece.flatMap_text_plain]
  · rw [pieces, shown, List.flatMap_append, List.flatMap_cons, Piece.flatMap_text_plain]
    simp [Piece.text]

theorem Span.chars_pieces (span : Span) :
    (span.pieces palette).filterMap Piece.char? = span.text := by
  rcases span.pieces_cases with ⟨pieces, -⟩ | ⟨style, -, pieces, -⟩
  · rw [pieces, Piece.filterMap_char_plain]
  · rw [pieces, List.filterMap_append, List.filterMap_cons_none rfl, Piece.filterMap_char_plain]
    simp [Piece.char?]

theorem Span.alternating_pieces (span : Span) :
    Alternating palette ((span.pieces palette).filterMap Piece.sequence?) := by
  rcases span.pieces_cases with ⟨pieces, -⟩ | ⟨style, styles, pieces, -⟩
  · rw [pieces, Piece.filterMap_sequence_plain]
    exact .nil
  · have paired : (span.pieces palette).filterMap Piece.sequence? =
        [style, palette.reset.toList] := by
      rw [pieces, List.filterMap_append, List.filterMap_cons, Piece.filterMap_sequence_plain]
      rfl
    rw [paired]
    exact .cons styles .nil

theorem Span.fits_pieces {mark : Char} {span : Span} (unmarked : mark ∉ span.text) :
    ∀ piece ∈ span.pieces palette, piece.Fits mark palette.sequences := by
  rcases span.pieces_cases with ⟨pieces, -⟩ | ⟨style, styles, pieces, -⟩
  · rw [pieces]
    exact Piece.fits_plain unmarked
  · rw [pieces, List.forall_mem_append, List.forall_mem_cons, List.forall_mem_singleton]
    exact ⟨⟨List.mem_append_left _ styles, Piece.fits_plain unmarked⟩,
      List.mem_append_right _ List.mem_cons_self⟩

theorem flatMap_linePieces (line : Line) :
    (linePieces palette line).flatMap Piece.text = lineText palette line := by
  rw [linePieces, List.flatMap_assoc, lineText]
  simp only [Span.flatMap_pieces]

theorem chars_linePieces (line : Line) :
    (linePieces palette line).filterMap Piece.char? = lineText .plain line := by
  rw [linePieces, List.filterMap_flatMap, lineText_plain]
  simp only [Span.chars_pieces]

theorem alternating_linePieces (line : Line) :
    Alternating palette ((linePieces palette line).filterMap Piece.sequence?) := by
  rw [linePieces, List.filterMap_flatMap]
  exact Alternating.flatMap Span.alternating_pieces line

theorem flatMap_reportPieces (metadata : Metadata) :
    (reportPieces palette metadata).flatMap Piece.text = render palette metadata := by
  rw [reportPieces, List.flatMap_assoc, render]
  simp only [List.flatMap_append, flatMap_linePieces]
  rfl

theorem chars_reportPieces (metadata : Metadata) :
    (reportPieces palette metadata).filterMap Piece.char? = render .plain metadata := by
  rw [reportPieces, List.filterMap_flatMap, render]
  simp only [List.filterMap_append, chars_linePieces]
  rfl

theorem alternating_reportPieces (metadata : Metadata) :
    Alternating palette ((reportPieces palette metadata).filterMap Piece.sequence?) := by
  rw [reportPieces, List.filterMap_flatMap]
  refine Alternating.flatMap (fun line => ?_) (lines metadata)
  rw [List.filterMap_append]
  exact (alternating_linePieces line).append .nil

end Pieces

section Colored

theorem fits_linePieces {line : Line} (free : ∀ span ∈ line, ControlFree span.text) :
    ∀ piece ∈ linePieces .colored line, piece.Fits '\x1b' Palette.colored.sequences := by
  intro piece member
  obtain ⟨span, listed, written⟩ := List.mem_flatMap.1 member
  exact Span.fits_pieces ((free span listed).not_mem (by decide)) piece written

theorem fits_reportPieces (metadata : Metadata) :
    ∀ piece ∈ reportPieces .colored metadata, piece.Fits '\x1b' Palette.colored.sequences := by
  intro piece member
  obtain ⟨line, listed, written⟩ := List.mem_flatMap.1 member
  rcases List.mem_append.1 written with inside | newline
  · exact fits_linePieces (lines_controlFree metadata line listed) piece inside
  · have apart : '\n' ≠ '\x1b' := by decide
    rw [List.mem_singleton.1 newline]
    exact apart

/-- One text is the other with sequences of the palette in it. Whether they are deleted in one pass
or in several makes no difference, an escape character stands for nothing else, and on each line
every style is reset before the next one or the end of the line. -/
structure Decorates (palette : Palette) (colored bare : List Char) : Prop where
  deleted : delete colored palette.sequences = bare
  deletedInPasses : ∀ passes : List (List (List Char)),
    (∀ sequence, sequence ∈ passes.flatten ↔ sequence ∈ palette.sequences) →
      passes.foldl delete colored = bare
  escapes : ∀ before after, colored = before ++ '\x1b' :: after →
    ∃ sequence ∈ palette.sequences, sequence <+: '\x1b' :: after
  bareEscapes : '\x1b' ∉ bare
  present : sequencesIn palette.sequences colored ≠ []
  alternating : Alternating palette (sequencesIn palette.sequences colored)
  alternatingInLines : ∀ line ∈ colored.splitOn '\n',
    Alternating palette (sequencesIn palette.sequences line)

theorem sequencesIn_colored {written : List Piece}
    (fits : ∀ piece ∈ written, piece.Fits '\x1b' Palette.colored.sequences) :
    sequencesIn Palette.colored.sequences (written.flatMap Piece.text) =
      written.filterMap Piece.sequence? := by
  rw [sequencesIn, pieces_written Palette.marked_colored fits]

theorem alternating_line (metadata : Metadata) :
    ∀ line ∈ (report (.ofColor true) metadata).toList.splitOn '\n',
      Alternating .colored (sequencesIn Palette.colored.sequences line) := by
  rw [splitOn_report]
  refine List.forall_mem_append.2 ⟨?_, List.forall_mem_singleton.2 .nil⟩
  intro text member
  obtain ⟨line, listed, rfl⟩ := List.mem_map.1 member
  have fits := fits_linePieces (lines_controlFree metadata line listed)
  have shown : lineText (.ofColor true) line = lineText .colored line := rfl
  rw [shown, ← flatMap_linePieces, sequencesIn_colored fits]
  exact alternating_linePieces line

end Colored

end ScriptMetadata.Report

namespace ScriptMetadata

open Report

/-- Whatever characters the names, the texts and the checksum have, the report with colours is the
plain report with the sequences of the palette in it. -/
theorem report_decorates_plain (metadata : Metadata) :
    Decorates .colored (report (.ofColor true) metadata).toList
      (report (.ofColor false) metadata).toList := by
  have fits := fits_reportPieces metadata
  have colored : (report (.ofColor true) metadata).toList =
      (reportPieces .colored metadata).flatMap Text.Piece.text := by
    rw [flatMap_reportPieces]
    exact String.toList_ofList
  have bare : (report (.ofColor false) metadata).toList =
      (reportPieces .colored metadata).filterMap Text.Piece.char? := by
    rw [chars_reportPieces]
    exact String.toList_ofList
  have found : Text.sequencesIn Palette.colored.sequences
      (report (.ofColor true) metadata).toList =
        (reportPieces .colored metadata).filterMap Text.Piece.sequence? := by
    rw [colored, sequencesIn_colored fits]
  constructor
  case deleted =>
    have complete : ∀ sequence, sequence ∈ [Palette.colored.sequences].flatten ↔
        sequence ∈ Palette.colored.sequences := by
      intro sequence
      rw [List.flatten_singleton]
    rw [colored, bare, ← Text.foldl_delete_all Palette.marked_colored complete fits]
    rfl
  case deletedInPasses =>
    intro passes complete
    rw [colored, bare]
    exact Text.foldl_delete_all Palette.marked_colored complete fits
  case escapes =>
    intro before after place
    rw [colored] at place
    exact Text.sequence_at_mark Palette.marked_colored fits place
  case bareEscapes =>
    rw [bare]
    exact Text.mark_not_mem_chars fits
  case present =>
    rw [found]
    exact List.cons_ne_nil _ _
  case alternating =>
    rw [found]
    exact alternating_reportPieces metadata
  case alternatingInLines => exact alternating_line metadata

/-- A name that would end its style and its line is quoted. -/
example : lineText .colored [indexLabel 'V' 1 0, plain " ", quoted "\x1b[0m\n"] =
    "\x1b[2mV0\x1b[0m \x1b[32m\"\\u\x7b1b\x7d[0m\\n\"\x1b[0m".toList := by
  decide +kernel

end ScriptMetadata
