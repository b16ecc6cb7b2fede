import ScriptMetadata.Extractor
import ScriptMetadata.Proofs.RowDecoding

/-!
The schema of the reserved tables and what a source says under it. An extraction succeeds exactly on
the sources that conform to the schema, with the metadata that they stand for.
-/

set_option autoImplicit false

namespace ScriptMetadata.Extraction

def IsText (row : Row) : Prop := ∃ value, row = [.text value]

def IsWord (row : Row) : Prop :=
  ∃ value : UInt64, value.toNat < UInt32.size ∧ row = [.integer value]

def IsPair (row : Row) : Prop := ∃ key value, row = [.text key, .text value]

/-- What a source has to observe; the advisory tables are free. -/
structure Conforms (source : TableSource) : Prop where
  scalars : ∀ name ∈ [Schema.compilerVersion, Schema.optimizationLevel, Schema.floatPrecision],
    ∀ table, source name = some table → ∃ row, table.rows = [row] ∧ IsWord row
  texts : ∀ name ∈ [Schema.vars, Schema.funcs, Schema.kernelNames],
    ∀ row ∈ rowsOf (source name), IsText row
  words : ∀ name ∈ [Schema.kernelSignatures, Schema.objectSlots],
    ∀ row ∈ rowsOf (source name), IsWord row
  pragmas : ∀ row ∈ rowsOf (source Schema.pragmas), IsPair row
  kernels : (rowsOf (source Schema.kernelNames)).length =
    (rowsOf (source Schema.kernelSignatures)).length

/-- A number is the only operand of its table and zero without one. -/
def DecodesNumber (table : Option Table) (value : UInt32) : Prop :=
  table = none ∧ value = 0 ∨ rowsOf table = [wordRow value]

/-- Metadata that says what the tables say: the lists row by row, the flags by the one row that
turns them away from their defaults. -/
structure Decodes (source : TableSource) (metadata : Metadata) : Prop where
  vars : rowsOf (source Schema.vars) = metadata.vars.map textRow
  funcs : rowsOf (source Schema.funcs) = metadata.funcs.map textRow
  kernelNames : rowsOf (source Schema.kernelNames) = metadata.kernelNames.map textRow
  kernelSignatures :
    rowsOf (source Schema.kernelSignatures) = metadata.kernelSignatures.map wordRow
  pragmas : rowsOf (source Schema.pragmas) = metadata.pragmas.map pragmaRow
  objectSlots : rowsOf (source Schema.objectSlots) = metadata.objectSlots.map wordRow
  compilerVersion : DecodesNumber (source Schema.compilerVersion) metadata.compilerVersion
  optimizationLevel : DecodesNumber (source Schema.optimizationLevel) metadata.optimizationLevel
  floatPrecision : metadata.floatPrecision = .relaxed ↔
    rowsOf (source Schema.floatPrecision) = [wordRow 1]
  threadable : metadata.threadable = false ↔ rowsOf (source Schema.threadable) = [textRow "no"]
  buildChecksum : ∀ value, metadata.buildChecksum = some value ↔
    rowsOf (source Schema.buildChecksum) = [textRow value]
  debugInfo : metadata.debugInfo = true ↔ rowsOf (source Schema.debugInfo) ≠ []

theorem isWord_iff {row : Row} : IsWord row ↔ ∃ value, row = wordRow value := by
  constructor
  · intro operand
    rcases operand with ⟨wide, small, rfl⟩
    exact ⟨wide.toUInt32, congrArg (fun operand => [operand])
      (integer_eq_ofWord_iff.2 ⟨small, rfl⟩)⟩
  · intro encoded
    rcases encoded with ⟨value, rfl⟩
    exact ⟨value.toUInt64, value.toNat_lt, rfl⟩

theorem isPair_iff {row : Row} : IsPair row ↔ ∃ value, row = pragmaRow value := by
  constructor
  · intro cells
    rcases cells with ⟨key, value, rfl⟩
    exact ⟨⟨key, value⟩, rfl⟩
  · intro encoded
    rcases encoded with ⟨⟨key, value⟩, rfl⟩
    exact ⟨key, value, rfl⟩

theorem getD_ofWord?_eq_relaxed_iff (word : UInt32) :
    (FloatPrecision.ofWord? word).getD .full = .relaxed ↔ word = 1 := by
  rw [← show FloatPrecision.relaxed.toWord = 1 by rfl, ← FloatPrecision.ofWord?_eq_some_iff]
  cases FloatPrecision.ofWord? word <;> simp

theorem wordRows_eq_iff {first second : UInt32} :
    [wordRow first] = [wordRow second] ↔ first = second := by
  simp [wordRow, Operand.ofWord, UInt32.toUInt64_inj]

theorem precision_eq_iff {first second : FloatPrecision} :
    first = second ↔ (second = .relaxed ↔ first = .relaxed) := by
  cases first <;> cases second <;> simp

/-- An unknown precision is no failure, but only the word for relaxed counts as that. -/
theorem precision_eq_ok_iff {table : Option Table} {value : FloatPrecision} :
    (precision table).outcome = .ok value ↔
      (∃ word, DecodesNumber table word) ∧
        (value = .relaxed ↔ rowsOf table = [wordRow 1]) := by
  cases table with
  | none =>
      cases value <;> simp [precision, rowsOf, DecodesNumber]
  | some table =>
      simp only [precision, Step.outcome_bind, Step.outcome_ofExcept, Outcome.bind_eq_ok_iff,
        scalar_eq_ok_iff word_exact, rowsOf, Option.elim_some, DecodesNumber, reduceCtorEq,
        false_and, false_or, ← exists_and_right]
      apply exists_congr
      intro word
      apply and_congr_right
      intro stored
      have unit : table.rows = [wordRow 1] ↔ word = 1 := stored ▸ wordRows_eq_iff
      rw [unit, ← getD_ofWord?_eq_relaxed_iff word]
      cases FloatPrecision.ofWord? word with
      | none => exact (Except.ok.injEq _ _).to_iff.trans precision_eq_iff
      | some known => exact (Except.ok.injEq _ _).to_iff.trans precision_eq_iff

theorem advisoryText_eq_some_iff {table : Option Table} {value : String} :
    (advisoryText table).value = some value ↔ rowsOf table = [textRow value] := by
  cases table with
  | none => simp [advisoryText, rowsOf]
  | some table =>
      rw [rowsOf, textRow, Option.elim_some, ← scalar_eq_ok_iff text_exact, advisoryText]
      cases scalar text table <;> simp

theorem threadable_eq_false_iff {table : Option Table} :
    (threadable table).value = false ↔ rowsOf table = [textRow "no"] := by
  rw [← advisoryText_eq_some_iff]
  cases table with
  | none => simp [threadable, advisoryText]
  | some table =>
      rw [threadable, Logged.value_bind]
      split <;> simp_all

theorem debugInfo_iff {table : Option Table} :
    (table.any fun table => !table.rows.isEmpty) = true ↔ rowsOf table ≠ [] := by
  cases table <;> simp [rowsOf]

theorem extract_eq_ok_iff_decodes {source : TableSource} {metadata : Metadata} :
    (extract source).outcome = .ok metadata ↔
      (∃ word, DecodesNumber (source Schema.floatPrecision) word) ∧ Decodes source metadata := by
  simp only [extract, mandatory, Step.outcome_bind, Outcome.bind_eq_ok_iff, number_eq_ok_iff,
    precision_eq_ok_iff, texts_eq_ok_iff, kernels_eq_ok_iff, pragmas_eq_ok_iff, words_eq_ok_iff]
  constructor
  · rintro ⟨_, ⟨version, isVersion, level, isLevel, precision, ⟨present, isPrecision⟩, vars,
      areVars, funcs, areFuncs, kernels, ⟨areNames, areSignatures⟩, pragmas, arePragmas, slots,
      areSlots, same⟩, completed⟩
    cases same
    cases completed
    exact ⟨present, areVars, areFuncs, areNames, areSignatures, arePragmas, areSlots, isVersion,
      isLevel, isPrecision, threadable_eq_false_iff, fun _ => advisoryText_eq_some_iff,
      debugInfo_iff⟩
  · intro described
    rcases described with ⟨present, decodes⟩
    refine ⟨_, ⟨_, decodes.compilerVersion, _, decodes.optimizationLevel, _,
      ⟨present, decodes.floatPrecision⟩, _, decodes.vars, _, decodes.funcs, _,
      ⟨decodes.kernelNames, decodes.kernelSignatures⟩, _, decodes.pragmas, _, decodes.objectSlots,
      rfl⟩, ?_⟩
    have flag : (threadable (source Schema.threadable)).value = metadata.threadable :=
      Bool.not_inj (Bool.coe_false_iff_false.1
        (threadable_eq_false_iff.trans decodes.threadable.symm))
    have checksum : (advisoryText (source Schema.buildChecksum)).value = metadata.buildChecksum :=
      Option.ext fun value => advisoryText_eq_some_iff.trans (decodes.buildChecksum value).symm
    have debugInfo : ((source Schema.debugInfo).any fun table => !table.rows.isEmpty) =
        metadata.debugInfo :=
      Bool.eq_iff_iff.2 (debugInfo_iff.trans decodes.debugInfo.symm)
    simp only [Step.outcome_lift, advisory, Logged.value_bind, Logged.value_pure, flag, checksum,
      debugInfo]

theorem exists_texts_iff {given : List Row} :
    (∃ values, given = List.map textRow values) ↔ ∀ row ∈ given, IsText row := exists_values_iff

theorem exists_words_iff {given : List Row} :
    (∃ values, given = List.map wordRow values) ↔ ∀ row ∈ given, IsWord row := by
  simp only [exists_values_iff, isWord_iff]

theorem exists_pragmas_iff {given : List Row} :
    (∃ values, given = List.map pragmaRow values) ↔ ∀ row ∈ given, IsPair row := by
  simp only [exists_values_iff, isPair_iff]

theorem exists_number_iff {table : Option Table} :
    (∃ value, DecodesNumber table value) ↔
      ∀ present, table = some present → ∃ row, present.rows = [row] ∧ IsWord row := by
  cases table with
  | none => simp [DecodesNumber]
  | some table =>
      simp only [isWord_iff, DecodesNumber, reduceCtorEq, false_and, false_or, rowsOf,
        Option.elim_some, Option.some.injEq, forall_eq']
      constructor
      · intro decoded
        rcases decoded with ⟨value, only⟩
        exact ⟨wordRow value, only, value, rfl⟩
      · intro shaped
        rcases shaped with ⟨row, only, value, rfl⟩
        exact ⟨value, only⟩

theorem exists_precision (table : Option Table) :
    ∃ precision : FloatPrecision, precision = .relaxed ↔ rowsOf table = [wordRow 1] := by
  by_cases relaxed : rowsOf table = [wordRow 1]
  · exact ⟨.relaxed, iff_of_true rfl relaxed⟩
  · exact ⟨.full, iff_of_false nofun relaxed⟩

theorem conforms_of_decodes {source : TableSource} {metadata : Metadata}
    (precision : ∃ word, DecodesNumber (source Schema.floatPrecision) word)
    (decodes : Decodes source metadata) : Conforms source where
  scalars := by
    intro name member
    apply exists_number_iff.1
    simp only [List.mem_cons, List.not_mem_nil, or_false] at member
    rcases member with rfl | rfl | rfl
    · exact ⟨_, decodes.compilerVersion⟩
    · exact ⟨_, decodes.optimizationLevel⟩
    · exact precision
  texts := by
    intro name member
    apply exists_texts_iff.1
    simp only [List.mem_cons, List.not_mem_nil, or_false] at member
    rcases member with rfl | rfl | rfl
    · exact ⟨_, decodes.vars⟩
    · exact ⟨_, decodes.funcs⟩
    · exact ⟨_, decodes.kernelNames⟩
  words := by
    intro name member
    apply exists_words_iff.1
    simp only [List.mem_cons, List.not_mem_nil, or_false] at member
    rcases member with rfl | rfl
    · exact ⟨_, decodes.kernelSignatures⟩
    · exact ⟨_, decodes.objectSlots⟩
  pragmas := exists_pragmas_iff.1 ⟨_, decodes.pragmas⟩
  kernels := by
    rw [decodes.kernelNames, decodes.kernelSignatures]
    simp only [Metadata.kernelNames, Metadata.kernelSignatures, List.length_map]

theorem exists_decodes_of_conforms {source : TableSource} (conforms : Conforms source) :
    ∃ metadata, Decodes source metadata := by
  obtain ⟨scalars, texts, words, pairs, paired⟩ := conforms
  obtain ⟨compilerVersion, isVersion⟩ :=
    exists_number_iff.2 (scalars Schema.compilerVersion (by simp))
  obtain ⟨optimizationLevel, isLevel⟩ :=
    exists_number_iff.2 (scalars Schema.optimizationLevel (by simp))
  obtain ⟨floatPrecision, isPrecision⟩ := exists_precision (source Schema.floatPrecision)
  obtain ⟨vars, areVars⟩ := exists_texts_iff.2 (texts Schema.vars (by simp))
  obtain ⟨funcs, areFuncs⟩ := exists_texts_iff.2 (texts Schema.funcs (by simp))
  obtain ⟨names, areNames⟩ := exists_texts_iff.2 (texts Schema.kernelNames (by simp))
  obtain ⟨signatures, areSignatures⟩ :=
    exists_words_iff.2 (words Schema.kernelSignatures (by simp))
  obtain ⟨pragmas, arePragmas⟩ := exists_pragmas_iff.2 pairs
  obtain ⟨objectSlots, areSlots⟩ := exists_words_iff.2 (words Schema.objectSlots (by simp))
  rw [areNames, areSignatures, List.length_map, List.length_map] at paired
  obtain ⟨kernelNames, kernelSignatures⟩ := map_zipWith_kernel paired
  let metadata : Metadata := {
    vars, funcs, pragmas, objectSlots, compilerVersion, optimizationLevel, floatPrecision
    kernels := List.zipWith Kernel.mk names signatures
    threadable := (threadable (source Schema.threadable)).value
    buildChecksum := (advisoryText (source Schema.buildChecksum)).value
    debugInfo := (source Schema.debugInfo).any fun table => !table.rows.isEmpty }
  exact ⟨metadata, areVars, areFuncs, by rw [areNames, Metadata.kernelNames, kernelNames],
    by rw [areSignatures, Metadata.kernelSignatures, kernelSignatures], arePragmas, areSlots,
    isVersion, isLevel, isPrecision, threadable_eq_false_iff, fun _ => advisoryText_eq_some_iff,
    debugInfo_iff⟩

/-- Extraction answers with the metadata that a source stands for, and answers exactly when the
source conforms. -/
theorem extract_eq_ok_iff {source : TableSource} {metadata : Metadata} :
    (extract source).outcome = .ok metadata ↔ Conforms source ∧ Decodes source metadata := by
  rw [extract_eq_ok_iff_decodes]
  constructor
  · intro answered
    rcases answered with ⟨precision, decodes⟩
    exact ⟨conforms_of_decodes precision decodes, decodes⟩
  · intro described
    rcases described with ⟨conforms, decodes⟩
    exact ⟨exists_number_iff.2 (conforms.scalars Schema.floatPrecision (by simp)), decodes⟩

theorem exists_extract_iff {source : TableSource} :
    (∃ metadata, (extract source).outcome = .ok metadata) ↔ Conforms source := by
  simp only [extract_eq_ok_iff]
  constructor
  · intro answered
    rcases answered with ⟨metadata, conforms, -⟩
    exact conforms
  · intro conforms
    obtain ⟨metadata, decodes⟩ := exists_decodes_of_conforms conforms
    exact ⟨metadata, conforms, decodes⟩

end ScriptMetadata.Extraction
