import ScriptMetadata.Proofs.SelfDelimiting
import ScriptMetadata.Report

/-!
A report tells everything about its metadata. The lines are read from the front: each is cut off
where it ends, which no name and no text can hide, since quoted texts show their own ends. A list
section may be missing; the heading in its place is then that of a later section.
-/

set_option autoImplicit false

namespace ScriptMetadata.Report

open Text

section Lines

variable {palette : Palette}

theorem renderLine_nil : renderLine palette [] = ['\n'] := rfl

theorem renderLine_cons (span : Span) (line : Line) :
    renderLine palette (span :: line) = span.render palette ++ renderLine palette line := by
  rw [renderLine, List.flatMap_cons, List.append_assoc]
  rfl

theorem render_painted (role : Role) (text : List Char) :
    Span.render palette { role := some role, text := text } =
      (palette.style role).toList ++ text ++ palette.reset.toList := rfl

theorem quoted_reveals : Reveals id fun text => (quoted text).render palette := by
  intro first second rest other same
  simp only [quoted, render_painted, List.append_assoc, List.append_cancel_left_eq] at same
  obtain ⟨texts, rests⟩ := quote_reveals same
  exact ⟨texts, List.append_cancel_left rests⟩

theorem labelled_line (label : String) (text rest : List Char) :
    renderLine palette [plain label, { text := text }] ++ rest =
      label.toList ++ (text ++ '\n' :: rest) := by
  simp [renderLine_cons, renderLine_nil, Span.render, plain]

theorem number_line_reveals (label : String) :
    Reveals id fun value : UInt32 => renderLine palette [plain label, number value.toNat] := by
  intro first second rest other same
  simp only [number, decimal, labelled_line, List.append_cancel_left_eq] at same
  obtain ⟨numbers, rests⟩ := eq_of_toDigits_mark (by decide) (by decide) (by decide) same
  exact ⟨UInt32.toNat_inj.1 numbers, rests⟩

/-- Different words that stay within their lines tell the values apart. -/
theorem word_line_reveals {Value : Type} {word : Value → String}
    (injective : ∀ value other, word value = word other → value = other)
    (inside : ∀ value, '\n' ∉ (word value).toList) (label : String) :
    Reveals id fun value => renderLine palette [plain label, plain (word value)] := by
  intro first second rest other same
  have shape : ∀ value, plain (word value) = { text := (word value).toList } := fun _ => rfl
  simp only [shape, labelled_line, List.append_cancel_left_eq] at same
  obtain ⟨words, rests⟩ := eq_of_append_mark (inside first) (inside second) same
  exact ⟨injective first second (String.toList_inj.1 words), rests⟩

theorem precision_line_reveals (label : String) :
    Reveals id fun precision : FloatPrecision =>
      renderLine palette [plain label, plain precision.label] := by
  apply word_line_reveals
  · intro first second same
    cases first <;> cases second <;> first | rfl | exact absurd same (by decide)
  · intro precision
    cases precision <;> decide

theorem truth_line_reveals (label : String) :
    Reveals id fun value => renderLine palette [plain label, truth value] := by
  apply word_line_reveals
  · decide
  · decide

end Lines

section Entries

variable {palette : Palette}

theorem name_reveals : Reveals id fun name => renderLine palette [quoted name] := by
  intro first second rest other same
  simp only [renderLine_cons, renderLine_nil, List.append_assoc] at same
  obtain ⟨names, rests⟩ := quoted_reveals same
  exact ⟨names, List.append_cancel_left rests⟩

theorem signature_render (signature : UInt32) (rest : List Char) :
    Span.render palette { text := markedHexadecimal 2 signature.toNat } ++
        (Span.render palette (plain "  ") ++ rest) =
      ['0', 'x'] ++ (zeroPadded 2 (Nat.toDigits 16 signature.toNat) ++ ' ' :: ' ' :: rest) := by
  simp [Span.render, plain, markedHexadecimal, hexadecimal]

/-- The comment after the signature adds nothing, as it is made from the signature. -/
theorem kernel_reveals : Reveals id fun kernel => renderLine palette (kernelEntry kernel) := by
  intro first second rest other same
  simp only [kernelEntry, renderLine_cons, renderLine_nil, List.append_assoc] at same
  obtain ⟨names, spaced⟩ := quoted_reveals same
  simp only [signature_render, List.append_cancel_left_eq] at spaced
  obtain ⟨numbers, comments⟩ := eq_of_numeral_mark (by decide) (by decide) (by decide) spaced
  obtain ⟨name, signature⟩ := first
  obtain ⟨name', signature'⟩ := second
  have signatures : signature = signature' := UInt32.toNat_inj.1 numbers
  have names' : name = name' := names
  subst signatures names'
  simpa using comments

theorem pragma_reveals : Reveals id fun pragma => renderLine palette (pragmaEntry pragma) := by
  intro first second rest other same
  simp only [pragmaEntry, renderLine_cons, renderLine_nil, List.append_assoc] at same
  obtain ⟨keys, assigned⟩ := quoted_reveals same
  obtain ⟨values, rests⟩ := quoted_reveals (List.append_cancel_left assigned)
  obtain ⟨key, value⟩ := first
  cases keys
  cases values
  exact ⟨rfl, List.append_cancel_left rests⟩

theorem slot_reveals : Reveals id fun slot : UInt32 => renderLine palette [number slot.toNat] := by
  intro first second rest other same
  have labelled : ∀ slot : UInt32, renderLine palette [number slot.toNat] =
      renderLine palette [plain "", number slot.toNat] := fun _ => rfl
  simp only [labelled] at same
  exact number_line_reveals "" same

end Entries

section Sections

variable {color : Bool}

/-- The width of an index is cut off with it, so it need not be known. -/
theorem eq_of_indexLabel {letter : Char} {count index count' index' : Nat}
    {rest other : List Char}
    (same : (indexLabel letter count index).render (.ofColor color) ++ ' ' :: rest =
      (indexLabel letter count' index').render (.ofColor color) ++ ' ' :: other) : rest = other := by
  simp only [indexLabel, decimal, render_painted, List.append_assoc, List.append_cancel_left_eq,
    List.cons_append, List.cons.injEq, true_and] at same
  -- Behind the digits stands the space or, with colours, the escape character of the reset.
  cases color with
  | false =>
      have apart : ∀ digit < 16, Nat.digitChar digit ≠ ' ' := by decide
      exact (digits_eq_of_mark (by decide) (by decide) apart same).2
  | true =>
      have apart : ∀ digit < 16, Nat.digitChar digit ≠ '\x1b' := by decide
      have resets := (digits_eq_of_mark (by decide) (by decide) apart same).2
      simpa using resets

variable {Item : Type} {letter : Char} {entry : Item → List Span}

/-- The line of an entry, given the number of entries, the entry and its index. -/
def entryLine (palette : Palette) (letter : Char) (entry : Item → List Span)
    (line : Nat × Item × Nat) : List Char :=
  renderLine palette (indexLabel letter line.1 line.2.2 :: plain " " :: entry line.2.1)

theorem entryLine_reveals
    (reveals : Reveals id fun item => renderLine (.ofColor color) (entry item)) :
    Reveals (fun line => line.2.1) (entryLine (.ofColor color) letter entry) := by
  intro first second rest other same
  simp only [entryLine, renderLine_cons, List.append_assoc] at same
  have entries := eq_of_indexLabel (by simpa [Span.render, plain] using same)
  exact reveals entries

theorem head_entryLine (visible : letter ≠ '\n') (line : Nat × Item × Nat) :
    ∃ char ∈ (entryLine (.ofColor color) letter entry line).head?, char ≠ '\n' := by
  cases color with
  | false => exact ⟨letter, rfl, visible⟩
  | true => exact ⟨'\x1b', rfl, by decide⟩

def sectionText (palette : Palette) (title : String) (letter : Char) (entry : Item → List Span)
    (items : List Item) : List Char :=
  (listSection title letter entry items).flatMap (renderLine palette)

theorem sectionText_of_ne_nil {palette : Palette} {title : String} {items : List Item}
    (present : items ≠ []) :
    sectionText palette title letter entry items =
      renderLine palette (heading title) ++
        ((items.zipIdx.map fun (item, index) => (items.length, item, index)).flatMap
          (entryLine palette letter entry) ++ ['\n']) := by
  rw [sectionText, listSection, if_neg (by simpa using present)]
  simp only [List.cons_append, List.flatMap_cons, List.flatMap_append, List.flatMap_map]
  rfl

theorem eq_of_sectionText {title : String} (visible : letter ≠ '\n')
    (reveals : Reveals id fun item => renderLine (.ofColor color) (entry item))
    {items others : List Item} (present : items ≠ []) (present' : others ≠ [])
    {rest other : List Char}
    (same : sectionText (.ofColor color) title letter entry items ++ rest =
      sectionText (.ofColor color) title letter entry others ++ other) :
    items = others ∧ rest = other := by
  have listed : ∀ values : List Item, (values.zipIdx.map fun (item, index) =>
      (values.length, item, index)).map (fun line => line.2.1) = values := by
    intro values
    rw [List.map_map]
    exact List.zipIdx_map_fst 0 values
  rw [sectionText_of_ne_nil present, sectionText_of_ne_nil present', List.append_assoc,
    List.append_assoc, List.append_assoc, List.append_assoc] at same
  obtain ⟨entries, rests⟩ := (entryLine_reveals reveals).flatMap_mark (head_entryLine visible)
    (List.append_cancel_left same)
  rw [listed, listed] at entries
  exact ⟨entries, rests⟩

/-- A text that is empty or begins with one of the headings. -/
def Announces (palette : Palette) (titles : List String) (text : List Char) : Prop :=
  text = [] ∨ ∃ title ∈ titles, ∃ rest, text = renderLine palette (heading title) ++ rest

theorem eq_of_heading {palette : Palette} {title title' : String} {rest other : List Char}
    (closed : ']' ∉ title.toList) (closed' : ']' ∉ title'.toList)
    (same : renderLine palette (heading title) ++ rest =
      renderLine palette (heading title') ++ other) : title = title' := by
  simp only [heading, renderLine_cons, render_painted, List.append_assoc,
    List.append_cancel_left_eq, List.cons_append, List.nil_append, List.cons.injEq, true_and] at same
  exact String.toList_inj.1 (eq_of_append_mark closed closed' same).1

theorem heading_ne_nil {palette : Palette} (title : String) :
    renderLine palette (heading title) ≠ [] := by
  simp [renderLine]

/-- Sections at the end of a report: no heading but theirs comes first, and they show their part of
the metadata. -/
structure Readable {Key : Type} (palette : Palette) (titles : List String) (key : Metadata → Key)
    (write : Metadata → List Char) : Prop where
  announces : ∀ metadata, Announces palette titles (write metadata)
  shows : ∀ first second, write first = write second → key first = key second

theorem Readable.none {palette : Palette} : Readable palette [] (fun _ => ()) fun _ => [] where
  announces := fun _ => .inl rfl
  shows := fun _ _ _ => rfl

theorem mem_of_announces {palette : Palette} {titles : List String} {title : String}
    {rest : List Char} (closed : ∀ name ∈ title :: titles, ']' ∉ name.toList)
    (announces : Announces palette titles (renderLine palette (heading title) ++ rest)) :
    title ∈ titles := by
  rcases announces with empty | ⟨name, member, after, same⟩
  · exact absurd (List.append_eq_nil_iff.1 empty).1 (heading_ne_nil title)
  · rw [eq_of_heading (closed title List.mem_cons_self)
      (closed name (List.mem_cons_of_mem title member)) same]
    exact member

/-- A heading in the place of a section is that of a later one, so the section is missing. -/
theorem Readable.eq_nil_of_missing {Key : Type} {palette : Palette} {titles : List String}
    {key : Metadata → Key} {write : Metadata → List Char}
    (readable : Readable palette titles key write) {title : String} (fresh : title ∉ titles)
    (closed : ∀ name ∈ title :: titles, ']' ∉ name.toList) {items : List Item}
    {first second : Metadata}
    (same : write first = sectionText palette title letter entry items ++ write second) :
    items = [] := by
  by_contra present
  have announces := readable.announces first
  rw [same, sectionText_of_ne_nil present, List.append_assoc] at announces
  exact fresh (mem_of_announces closed announces)

/-- A section before others is read as far as its empty line. -/
theorem Readable.listed {Key : Type} {titles : List String} {key : Metadata → Key}
    {write : Metadata → List Char} (readable : Readable (.ofColor color) titles key write)
    {title : String} (fresh : title ∉ titles)
    (closed : ∀ name ∈ title :: titles, ']' ∉ name.toList) (visible : letter ≠ '\n')
    (reveals : Reveals id fun item => renderLine (.ofColor color) (entry item))
    (items : Metadata → List Item) :
    Readable (.ofColor color) (title :: titles) (fun metadata => (items metadata, key metadata))
      fun metadata =>
        sectionText (.ofColor color) title letter entry (items metadata) ++ write metadata where
  announces := by
    intro metadata
    by_cases absent : items metadata = []
    · rw [absent]
      rcases readable.announces metadata with empty | ⟨name, member, announced⟩
      · exact .inl empty
      · exact .inr ⟨name, List.mem_cons_of_mem title member, announced⟩
    · rw [sectionText_of_ne_nil absent, List.append_assoc]
      exact .inr ⟨title, List.mem_cons_self, _, rfl⟩
  shows := by
    intro first second same
    by_cases absent : items first = []
    · rw [absent] at same ⊢
      have absent' := readable.eq_nil_of_missing fresh closed same
      rw [absent'] at same ⊢
      exact congrArg (Prod.mk []) (readable.shows first second same)
    · by_cases absent' : items second = []
      · rw [absent'] at same
        exact absurd (readable.eq_nil_of_missing fresh closed same.symm) absent
      · obtain ⟨entries, rests⟩ := eq_of_sectionText visible reveals absent absent' same
        exact Prod.ext entries (readable.shows first second rests)

/-- All list sections, each with the ones after it. -/
def listSections (palette : Palette) (metadata : Metadata) : List Char :=
  sectionText palette "export.vars" 'V' (fun name => [quoted name]) metadata.vars ++
    (sectionText palette "export.funcs" 'F' (fun name => [quoted name]) metadata.funcs ++
      (sectionText palette "export.foreach" 'K' kernelEntry metadata.kernels ++
        (sectionText palette "pragmas" 'P' pragmaEntry metadata.pragmas ++
          (sectionText palette "object_slots" 'S' (fun slot => [number slot.toNat])
            metadata.objectSlots ++ []))))

theorem listSections_readable :
    Readable (.ofColor color)
      ["export.vars", "export.funcs", "export.foreach", "pragmas", "object_slots"]
      (fun metadata => (metadata.vars, metadata.funcs, metadata.kernels, metadata.pragmas,
        metadata.objectSlots, ()))
      (listSections (.ofColor color)) := by
  refine Readable.listed ?_ (by decide) (by decide) (by decide) name_reveals Metadata.vars
  refine Readable.listed ?_ (by decide) (by decide) (by decide) name_reveals Metadata.funcs
  refine Readable.listed ?_ (by decide) (by decide) (by decide) kernel_reveals Metadata.kernels
  refine Readable.listed ?_ (by decide) (by decide) (by decide) pragma_reveals Metadata.pragmas
  refine Readable.listed ?_ (by decide) (by decide) (by decide) slot_reveals Metadata.objectSlots
  exact Readable.none

end Sections

section Module

variable {palette : Palette}

theorem quoted_line_reveals (label : String) :
    Reveals id fun text => renderLine palette [plain label, quoted text] := by
  intro first second rest other same
  simp only [renderLine_cons (plain label), List.append_assoc] at same
  exact name_reveals (List.append_cancel_left same)

def checksumLines (palette : Palette) (checksum : Option String) : List Char :=
  (checksum.toList.map fun text => [plain "build_checksum = ", quoted text]).flatMap
    (renderLine palette)

theorem checksumLines_some (text : String) :
    checksumLines palette (some text) =
      renderLine palette [plain "build_checksum = ", quoted text] := by
  rw [checksumLines, Option.toList_some, List.map_singleton, List.flatMap_singleton]

/-- The line that may be missing is told from the one after it by its first letter. -/
theorem eq_of_checksumLines {checksum checksum' : Option String} {value value' : Bool}
    {rest other : List Char}
    (same : checksumLines palette checksum ++
        (renderLine palette [plain "debug_info = ", truth value] ++ rest) =
      checksumLines palette checksum' ++
        (renderLine palette [plain "debug_info = ", truth value'] ++ other)) :
    checksum = checksum' ∧ value = value' ∧ rest = other := by
  have apart : ∀ (text : String) (value : Bool) (after tail : List Char),
      renderLine palette [plain "build_checksum = ", quoted text] ++ after ≠
        renderLine palette [plain "debug_info = ", truth value] ++ tail := by
    intro text value after tail equal
    have letters : 'b' = 'd' := List.head_eq_of_cons_eq equal
    exact absurd letters (by decide)
  cases checksum with
  | none =>
      cases checksum' with
      | none =>
          obtain ⟨values, rests⟩ := truth_line_reveals _ same
          exact ⟨rfl, values, rests⟩
      | some text =>
          rw [checksumLines_some] at same
          exact absurd same.symm (apart text value _ rest)
  | some text =>
      rw [checksumLines_some] at same
      cases checksum' with
      | none => exact absurd same (apart text value' _ other)
      | some text' =>
          rw [checksumLines_some] at same
          obtain ⟨texts, debug⟩ := quoted_line_reveals _ same
          obtain ⟨values, rests⟩ := truth_line_reveals _ debug
          exact ⟨congrArg some texts, values, rests⟩

theorem moduleSection_reveals :
    Reveals (fun metadata : Metadata => (metadata.compilerVersion, metadata.optimizationLevel,
      metadata.floatPrecision, metadata.threadable, metadata.buildChecksum, metadata.debugInfo))
      fun metadata => (moduleSection metadata).flatMap (renderLine palette) := by
  intro first second rest other same
  simp only [moduleSection, List.flatMap_append, List.flatMap_cons, List.flatMap_nil,
    List.append_assoc, List.append_nil, List.append_cancel_left_eq] at same
  obtain ⟨versions, levelled⟩ := number_line_reveals _ same
  obtain ⟨levels, precise⟩ := number_line_reveals _ levelled
  obtain ⟨precisions, threaded⟩ := precision_line_reveals _ precise
  obtain ⟨threads, checked⟩ := truth_line_reveals _ threaded
  obtain ⟨checksums, debugs, ended⟩ := eq_of_checksumLines checked
  refine ⟨?_, List.append_cancel_left ended⟩
  simp only [id] at versions levels precisions threads
  simp only [versions, levels, precisions, threads, checksums, debugs]

end Module

theorem render_eq (palette : Palette) (metadata : Metadata) :
    render palette metadata =
      (moduleSection metadata).flatMap (renderLine palette) ++ listSections palette metadata := by
  simp only [render, lines, listSections, sectionText, List.flatMap_append, List.append_assoc,
    List.append_nil]

end ScriptMetadata.Report

namespace ScriptMetadata

/-- With and without colours, the report is the same text only for the same metadata, whatever
characters its names and texts have. -/
theorem report_eq_iff (color : Bool) (first second : Metadata) :
    report (.ofColor color) first = report (.ofColor color) second ↔ first = second := by
  refine ⟨fun same => ?_, congrArg _⟩
  have texts := String.ofList_injective same
  rw [Report.render_eq, Report.render_eq] at texts
  obtain ⟨values, sections⟩ := Report.moduleSection_reveals texts
  have lists := Report.listSections_readable.shows first second sections
  simp only [Prod.mk.injEq, and_true] at values lists
  obtain ⟨versions, levels, precisions, threads, checksums, debugs⟩ := values
  obtain ⟨vars, funcs, kernels, pragmas, slots⟩ := lists
  cases first
  cases second
  rw [Metadata.mk.injEq]
  exact ⟨vars, funcs, kernels, pragmas, slots, versions, levels, precisions, threads, checksums,
    debugs⟩

end ScriptMetadata
