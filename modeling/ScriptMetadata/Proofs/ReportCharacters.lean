import ScriptMetadata.Proofs.SelfDelimiting
import ScriptMetadata.Report

/-!
Which characters a report can have. Numerals and quoted texts are free of controls, whatever
characters the quoted text has, and the rest of a report is fixed. So the newlines of a report are
the ends of its lines, and its escape characters are those of the palette.
-/

set_option autoImplicit false

namespace ScriptMetadata.Text

/-- Below the space, or from the delete character to the end of the second block of controls. -/
def isControlPoint (point : Nat) : Bool := point < 0x20 || (0x7F ≤ point && point < 0xA0)

def ControlFree (text : List Char) : Prop := ∀ char ∈ text, isControlPoint char.toNat = false

instance (text : List Char) : Decidable (ControlFree text) :=
  List.decidableBAll (fun char : Char => isControlPoint char.toNat = false) text

@[simp] theorem controlFree_nil : ControlFree [] := List.forall_mem_nil _

@[simp] theorem controlFree_cons {char : Char} {text : List Char} :
    ControlFree (char :: text) ↔ isControlPoint char.toNat = false ∧ ControlFree text :=
  List.forall_mem_cons

@[simp] theorem controlFree_append {first second : List Char} :
    ControlFree (first ++ second) ↔ ControlFree first ∧ ControlFree second :=
  List.forall_mem_append

theorem ControlFree.not_mem {text : List Char} (free : ControlFree text) {control : Char}
    (controls : isControlPoint control.toNat = true) : control ∉ text := by
  intro member
  rw [free control member] at controls
  contradiction

theorem controlFree_flatMap {Item : Type} {items : List Item} {write : Item → List Char}
    (free : ∀ item ∈ items, ControlFree (write item)) : ControlFree (items.flatMap write) := by
  intro char member
  obtain ⟨item, listed, written⟩ := List.mem_flatMap.1 member
  exact free item listed char written

theorem controlFree_intercalate {separator : List Char} (separate : ControlFree separator)
    {parts : List (List Char)} (free : ∀ part ∈ parts, ControlFree part) :
    ControlFree (separator.intercalate parts) := by
  induction parts with
  | nil => exact controlFree_nil
  | cons part parts induction =>
      obtain ⟨first, later⟩ := List.forall_mem_cons.1 free
      by_cases last : parts = []
      · rw [last, List.intercalate_singleton]
        exact first
      · rw [List.intercalate_cons_of_ne_nil last]
        exact controlFree_append.2 ⟨controlFree_append.2 ⟨first, separate⟩, induction later⟩

section Numerals

variable {base : Nat} (two_le : 1 < base) (le_sixteen : base ≤ 16)

include two_le le_sixteen

theorem controlFree_toDigits (value : Nat) : ControlFree (Nat.toDigits base value) := by
  have digits : ∀ digit < 16, isControlPoint (Nat.digitChar digit).toNat = false := by decide
  intro char member
  obtain ⟨digit, below, rfl⟩ := exists_digit_of_mem_toDigits two_le le_sixteen member
  exact digits digit below

theorem controlFree_numeral (width value : Nat) :
    ControlFree (zeroPadded width (Nat.toDigits base value)) := by
  have zero : isControlPoint '0'.toNat = false := rfl
  intro char
  exact forall_mem_zeroPadded zero (controlFree_toDigits two_le le_sixteen value) width char

end Numerals

theorem controlFree_decimal (value : Nat) : ControlFree (decimal value) :=
  controlFree_toDigits (by decide) (by decide) value

theorem controlFree_markedHexadecimal (digits value : Nat) :
    ControlFree (markedHexadecimal digits value) :=
  controlFree_cons.2 ⟨by decide, controlFree_cons.2
    ⟨by decide, controlFree_numeral (by decide) (by decide) digits value⟩⟩

theorem controlFree_numberEscape (char : Char) : ControlFree (numberEscape char) := by
  have digits : ControlFree (hexadecimal char.toNat) :=
    controlFree_toDigits (by decide) (by decide) char.toNat
  simp [numberEscape, digits, isControlPoint]

/-- Of the controls, all but the four with an escape of two characters are written by number. -/
theorem numbered_of_isControlPoint : ∀ point < 0xA0, isControlPoint point = true →
    point ∈ [0x0, 0x9, 0xA, 0xD] ∨ Numbered.within Numbered.ranges point = true := by
  decide +kernel

theorem controlFree_escape (char : Char) : ControlFree (escape char) := by
  unfold escape
  split
  iterate 6 decide
  rename_i _ _ nul tab newline carriage
  split
  · exact controlFree_numberEscape char
  · rename_i unnumbered
    rw [controlFree_cons]
    refine ⟨Bool.eq_false_iff.2 fun controls => ?_, controlFree_nil⟩
    have below : char.toNat < 0xA0 := by
      simp only [isControlPoint, Bool.or_eq_true, Bool.and_eq_true, decide_eq_true_eq] at controls
      omega
    rcases numbered_of_isControlPoint char.toNat below controls with listed | numbered
    · simp only [List.mem_cons, List.not_mem_nil, or_false] at listed
      rcases listed with point | point | point | point
      · exact nul (Char.toNat_inj.1 point)
      · exact tab (Char.toNat_inj.1 point)
      · exact newline (Char.toNat_inj.1 point)
      · exact carriage (Char.toNat_inj.1 point)
    · exact unnumbered numbered

/-- Quoting takes every control away, whatever the text. -/
theorem controlFree_quote (text : String) : ControlFree (quote text) := by
  have escaped : ControlFree (text.toList.flatMap escape) :=
    controlFree_flatMap fun char _ => controlFree_escape char
  simp [quote, escaped, isControlPoint]

end ScriptMetadata.Text

namespace ScriptMetadata.Signature

open Text

theorem controlFree_parts (signature : UInt32) : ∀ part ∈ parts signature, ControlFree part :=
  forall_mem_parts (by decide)
    (fun value => controlFree_cons.2 ⟨by decide, controlFree_markedHexadecimal 1 value⟩) signature

theorem controlFree_describe (signature : UInt32) : ControlFree (describe signature) := by
  unfold describe
  split
  · decide
  · exact controlFree_intercalate (by decide) (controlFree_parts signature)

end ScriptMetadata.Signature

namespace ScriptMetadata.Report

open Text

/-- No span of the lines has a control. -/
def LinesControlFree (lines : List Line) : Prop :=
  ∀ line ∈ lines, ∀ span ∈ line, ControlFree span.text

instance (lines : List Line) : Decidable (LinesControlFree lines) :=
  List.decidableBAll (fun line : Line => ∀ span ∈ line, ControlFree span.text) lines

theorem linesControlFree_append {first second : List Line} :
    LinesControlFree (first ++ second) ↔ LinesControlFree first ∧ LinesControlFree second :=
  List.forall_mem_append

theorem controlFree_indexLabel {letter : Char} (visible : isControlPoint letter.toNat = false)
    (count index : Nat) : ControlFree (indexLabel letter count index).text :=
  controlFree_cons.2 ⟨visible, controlFree_numeral (by decide) (by decide) _ index⟩

section Entries

theorem nameEntry_controlFree (name : String) : ∀ span ∈ [quoted name], ControlFree span.text :=
  List.forall_mem_singleton.2 (controlFree_quote name)

theorem kernelEntry_controlFree (kernel : Kernel) :
    ∀ span ∈ kernelEntry kernel, ControlFree span.text := by
  have name := controlFree_quote kernel.name
  have number := controlFree_markedHexadecimal 2 kernel.signature.toNat
  have described := Signature.controlFree_describe kernel.signature
  simp [kernelEntry, quoted, plain, name, number, described, isControlPoint]

theorem pragmaEntry_controlFree (pragma : Pragma) :
    ∀ span ∈ pragmaEntry pragma, ControlFree span.text := by
  have key := controlFree_quote pragma.key
  have value := controlFree_quote pragma.value
  simp [pragmaEntry, quoted, plain, key, value, isControlPoint]

theorem slotEntry_controlFree (slot : UInt32) :
    ∀ span ∈ [number slot.toNat], ControlFree span.text :=
  List.forall_mem_singleton.2 (controlFree_decimal slot.toNat)

end Entries

theorem listSection_controlFree {Item : Type} {title : String} {letter : Char}
    {entry : Item → List Span} (titled : ControlFree title.toList)
    (visible : isControlPoint letter.toNat = false)
    (entries : ∀ item, ∀ span ∈ entry item, ControlFree span.text) (items : List Item) :
    LinesControlFree (listSection title letter entry items) := by
  unfold listSection
  split
  · exact List.forall_mem_nil _
  · refine linesControlFree_append.2 ⟨List.forall_mem_cons.2 ⟨?heading, ?entries⟩, ?blank⟩
    case heading => simp [heading, titled, isControlPoint]
    case entries =>
      intro line member
      obtain ⟨⟨item, index⟩, -, rfl⟩ := List.mem_map.1 member
      have space : ControlFree (plain " ").text := by decide
      exact List.forall_mem_cons.2 ⟨controlFree_indexLabel visible items.length index,
        List.forall_mem_cons.2 ⟨space, entries item⟩⟩
    case blank => decide

theorem moduleSection_controlFree (metadata : Metadata) :
    LinesControlFree (moduleSection metadata) := by
  have numbers : ∀ value, ControlFree (number value).text := controlFree_decimal
  have truths : ∀ value, ControlFree (truth value).text := by decide
  have precision : ControlFree metadata.floatPrecision.label.toList := by
    cases metadata.floatPrecision <;> decide
  have checksum : LinesControlFree (metadata.buildChecksum.toList.map fun checksum =>
      [plain "build_checksum = ", quoted checksum]) := by
    intro line member
    obtain ⟨checksum, -, rfl⟩ := List.mem_map.1 member
    exact List.forall_mem_cons.2 ⟨by decide, nameEntry_controlFree checksum⟩
  unfold moduleSection
  refine linesControlFree_append.2 ⟨linesControlFree_append.2 ⟨?values, checksum⟩, ?debug⟩
  case values =>
    simp [LinesControlFree, heading, plain, numbers, truths, precision, isControlPoint]
  case debug => simp [LinesControlFree, plain, truths, isControlPoint]

/-- Whatever characters the names and texts of the metadata have. -/
theorem lines_controlFree (metadata : Metadata) : LinesControlFree (lines metadata) := by
  simp only [lines, linesControlFree_append, and_assoc]
  refine ⟨moduleSection_controlFree metadata, ?vars, ?funcs, ?kernels, ?pragmas, ?slots⟩
  case vars => exact listSection_controlFree (by decide) (by decide) nameEntry_controlFree _
  case funcs => exact listSection_controlFree (by decide) (by decide) nameEntry_controlFree _
  case kernels => exact listSection_controlFree (by decide) (by decide) kernelEntry_controlFree _
  case pragmas => exact listSection_controlFree (by decide) (by decide) pragmaEntry_controlFree _
  case slots => exact listSection_controlFree (by decide) (by decide) slotEntry_controlFree _

end ScriptMetadata.Report
