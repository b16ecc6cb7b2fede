import ScriptMetadata.Proofs.IndexLabels
import ScriptMetadata.Proofs.ReportCharacters
import ScriptMetadata.Proofs.ReportReading

/-!
The lines of a report. No text within a line has a newline, so splitting the report at its newlines
gives back the lines that were written.
-/

set_option autoImplicit false

namespace ScriptMetadata.Report

open Text

section Splitting

/-- A line as it is shown, without the newline at its end. -/
def lineText (palette : Palette) (line : Line) : List Char := line.flatMap (Span.render palette)

theorem newline_not_mem_sequence (color : Bool) : ∀ role,
    '\n' ∉ ((Palette.ofColor color).style role).toList ∧
      '\n' ∉ (Palette.ofColor color).reset.toList := by
  intro role
  cases color <;> cases role <;> decide

theorem newline_not_mem_render (color : Bool) {span : Span} (free : ControlFree span.text) :
    '\n' ∉ span.render (.ofColor color) := by
  have inside : '\n' ∉ span.text := free.not_mem (by decide)
  obtain ⟨role, text⟩ := span
  cases role with
  | none => exact inside
  | some role =>
      obtain ⟨style, reset⟩ := newline_not_mem_sequence color role
      rw [render_painted]
      simp only [List.mem_append, not_or]
      exact ⟨⟨style, inside⟩, reset⟩

theorem newline_not_mem_lineText (color : Bool) {line : Line}
    (free : ∀ span ∈ line, ControlFree span.text) : '\n' ∉ lineText (.ofColor color) line := by
  intro member
  obtain ⟨span, listed, written⟩ := List.mem_flatMap.1 member
  exact newline_not_mem_render color (free span listed) written

theorem splitOn_flatMap_renderLine (color : Bool) {lines : List Line}
    (free : LinesControlFree lines) :
    (lines.flatMap (renderLine (.ofColor color))).splitOn '\n' =
      lines.map (lineText (.ofColor color)) ++ [[]] := by
  induction lines with
  | nil => rfl
  | cons line lines induction =>
      obtain ⟨first, later⟩ := List.forall_mem_cons.1 free
      have inside := newline_not_mem_lineText color first
      rw [List.flatMap_cons, List.map_cons, List.cons_append, ← induction later]
      rw [renderLine, List.append_assoc]
      exact List.splitOn_append_cons_self_of_not_mem inside _

/-- With or without colours, whatever newlines the names and texts have. -/
theorem splitOn_report (color : Bool) (metadata : Metadata) :
    (report (.ofColor color) metadata).toList.splitOn '\n' =
      (lines metadata).map (lineText (.ofColor color)) ++ [[]] := by
  rw [report, String.toList_ofList, render]
  exact splitOn_flatMap_renderLine color (lines_controlFree metadata)

end Splitting

section Texts

def headingText (title : String) : List Char := '[' :: title.toList ++ [']']

def truthText (value : Bool) : List Char := (if value then "true" else "false").toList

/-- A heading, five values, one more for a build checksum, and an empty line. -/
def moduleTexts (metadata : Metadata) : List (List Char) :=
  [headingText "module",
    "compiler_version = ".toList ++ decimal metadata.compilerVersion.toNat,
    "optimization_level = ".toList ++ decimal metadata.optimizationLevel.toNat,
    "float_precision = ".toList ++ metadata.floatPrecision.label.toList,
    "threadable = ".toList ++ truthText metadata.threadable] ++
  metadata.buildChecksum.toList.map (fun checksum => "build_checksum = ".toList ++ quote checksum) ++
  ["debug_info = ".toList ++ truthText metadata.debugInfo, []]

def kernelText (kernel : Kernel) : List Char :=
  quote kernel.name ++ ' ' :: markedHexadecimal 2 kernel.signature.toNat ++
    "  ; ".toList ++ Signature.describe kernel.signature

def pragmaText (pragma : Pragma) : List Char :=
  quote pragma.key ++ " = ".toList ++ quote pragma.value

/-- A heading, each entry in the order of the list behind its label, and an empty line; nothing for
an empty list. -/
def sectionTexts {Item : Type} (title : String) (letter : Char) (entry : Item → List Char)
    (items : List Item) : List (List Char) :=
  if items.isEmpty then []
  else
    headingText title ::
      items.zipIdx.map (fun (item, index) =>
        paddedLabel letter items.length index ++ ' ' :: entry item) ++ [[]]

theorem lineText_plain (line : Line) : lineText .plain line = line.flatMap Span.text := by
  rw [lineText]
  congr
  exact funext Span.render_plain

theorem heading_text (title : String) : lineText .plain (heading title) = headingText title := by
  simp [lineText_plain, heading, headingText]

theorem moduleSection_texts (metadata : Metadata) :
    (moduleSection metadata).map (lineText .plain) = moduleTexts metadata := by
  have checksum : ∀ text, lineText .plain [plain "build_checksum = ", quoted text] =
      "build_checksum = ".toList ++ quote text := by
    intro text
    simp [lineText_plain, plain, quoted]
  simp only [moduleSection, moduleTexts, List.map_append, List.map_map, Function.comp_def,
    checksum, List.map_cons, heading_text]
  simp [lineText_plain, plain, number, truth, truthText]

theorem listSection_texts {Item : Type} {entry : Item → List Span} {entryText : Item → List Char}
    (shown : ∀ item, (entry item).flatMap Span.text = entryText item) (title : String)
    (letter : Char) (items : List Item) :
    (listSection title letter entry items).map (lineText .plain) =
      sectionTexts title letter entryText items := by
  unfold listSection sectionTexts
  split
  · rfl
  · have entryLine : ∀ item index,
        lineText .plain (indexLabel letter items.length index :: plain " " :: entry item) =
          paddedLabel letter items.length index ++ ' ' :: entryText item := by
      intro item index
      rw [lineText_plain, List.flatMap_cons, List.flatMap_cons, indexLabel_text, shown]
      rfl
    simp only [List.map_cons, List.map_append, List.map_map, Function.comp_def, entryLine,
      heading_text]
    rfl

theorem lines_texts (metadata : Metadata) :
    (lines metadata).map (lineText .plain) =
      moduleTexts metadata ++
        sectionTexts "export.vars" 'V' quote metadata.vars ++
        sectionTexts "export.funcs" 'F' quote metadata.funcs ++
        sectionTexts "export.foreach" 'K' kernelText metadata.kernels ++
        sectionTexts "pragmas" 'P' pragmaText metadata.pragmas ++
        sectionTexts "object_slots" 'S' (fun slot => decimal slot.toNat) metadata.objectSlots := by
  have names : ∀ name, [quoted name].flatMap Span.text = quote name := by
    intro name
    simp [quoted]
  have kernels : ∀ kernel, (kernelEntry kernel).flatMap Span.text = kernelText kernel := by
    intro kernel
    simp [kernelEntry, kernelText, quoted, plain]
  have pragmas : ∀ pragma, (pragmaEntry pragma).flatMap Span.text = pragmaText pragma := by
    intro pragma
    simp [pragmaEntry, pragmaText, quoted, plain]
  have slots : ∀ slot : UInt32, [number slot.toNat].flatMap Span.text = decimal slot.toNat := by
    intro slot
    simp [number]
  simp only [lines, List.map_append, moduleSection_texts, listSection_texts names,
    listSection_texts kernels, listSection_texts pragmas, listSection_texts slots]

end Texts

end ScriptMetadata.Report

namespace ScriptMetadata

open Report

/-- The plain report has these lines and no others, whatever newlines the names and texts have. In
each list the labels are aligned, and a list of any length has a width for them, of no more than
twenty digits where the length is a machine word. -/
theorem report_has_lines (metadata : Metadata) :
    (report (.ofColor false) metadata).toList.splitOn '\n' =
        moduleTexts metadata ++
          sectionTexts "export.vars" 'V' Text.quote metadata.vars ++
          sectionTexts "export.funcs" 'F' Text.quote metadata.funcs ++
          sectionTexts "export.foreach" 'K' kernelText metadata.kernels ++
          sectionTexts "pragmas" 'P' pragmaText metadata.pragmas ++
          sectionTexts "object_slots" 'S' (fun slot => Text.decimal slot.toNat)
            metadata.objectSlots ++ [[]] ∧
      (∀ letter count, Aligned letter count fun index => (indexLabel letter count index).text) ∧
      (∀ count, indexWidth? count = some (Text.decimal (count - 1)).length) ∧
      ∀ count : UInt64, ∃ width ≤ 20, indexWidth? count.toNat = some width := by
  refine ⟨?lines, aligned_indexLabel, indexWidth?_eq, ?words⟩
  case lines =>
    rw [splitOn_report]
    exact congrArg (· ++ [[]]) (lines_texts metadata)
  case words =>
    intro count
    exact indexWidth?_le count.toNat_lt_size

end ScriptMetadata
