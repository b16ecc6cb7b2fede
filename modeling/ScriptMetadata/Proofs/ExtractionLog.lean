import ScriptMetadata.Proofs.AdvisoryIndependence
import ScriptMetadata.Proofs.ExtractionDefects
import ScriptMetadata.Proofs.LogLines

/-!
The log of an extraction. The mandatory tables are stages, each with its checks and with the events
once all of them hold. A call reports the stages that come before the first defect, in their order,
and then how it ended; the advisory tables are reported only if there was no defect. Each event is a
line, and the lines of a call tell its events and its outcome.
-/

set_option autoImplicit false

namespace ScriptMetadata

open Extraction (Failure)

namespace Extraction

open Check (AllHold FirstDefect Performs)

/-- A part of an extraction: what is checked, and what is reported when all of it holds. -/
structure Stage where
  checks : List (Check Failure)
  events : List Event

/-- The first stage with a defect ends an extraction; the stages before it are reported. -/
inductive Completes {Value : Type} : List Stage → Except Failure Value → List Event → Prop where
  | finished {stages : List Stage} {value : Value}
      (held : ∀ stage ∈ stages, AllHold stage.checks) :
      Completes stages (.ok value) (stages.flatMap Stage.events)
  | stopped {done later : List Stage} {failing : Stage} {cause : Failure}
      (held : ∀ stage ∈ done, AllHold stage.checks) (defect : FirstDefect failing.checks cause) :
      Completes (done ++ failing :: later) (.error cause) (done.flatMap Stage.events)

section Inversion

variable {Value : Type} {stages : List Stage} {logged : List Event}

theorem Completes.of_ok {value : Value} (completes : Completes stages (.ok value) logged) :
    (∀ stage ∈ stages, AllHold stage.checks) ∧ logged = stages.flatMap Stage.events := by
  cases completes with
  | finished held => exact ⟨held, rfl⟩

theorem Completes.of_error {cause : Failure}
    (completes : Completes stages (.error cause : Except Failure Value) logged) :
    ∃ done failing later, stages = done ++ failing :: later ∧
      (∀ stage ∈ done, AllHold stage.checks) ∧ FirstDefect failing.checks cause ∧
      logged = done.flatMap Stage.events := by
  cases completes with
  | stopped held defect => exact ⟨_, _, _, rfl, held, defect, rfl⟩

end Inversion

/-! ### The stages of a module -/

def scalarStage (module : Module) (name : String) : Stage where
  checks := scalarChecks name (module.source name)
  events := []

/-- Only the precisions zero and one are known. -/
def precisionEvents : Option (List Row) → List Event
  | some [[.integer value]] =>
      if 2 ≤ value then [.unknownPrecision Schema.floatPrecision value.toUInt32] else []
  | _ => []

def precisionStage (module : Module) : Stage where
  checks := scalarChecks Schema.floatPrecision (module.source Schema.floatPrecision)
  events := precisionEvents (module.rows? Schema.floatPrecision)

/-- A table that is there is reported with the number of its rows. -/
def listStage (module : Module) (kinds : List OperandKind) (decoded : String → Nat → Event)
    (name : String) : Stage where
  checks := listChecks kinds name (rowsOf (module.source name))
  events := (module.rows? name).toList.map fun rows => decoded name rows.length

/-- The comparison of the kernel tables, after both of them. -/
def pairingStage (module : Module) : Stage where
  checks :=
    [{ holds := (rowsOf (module.source Schema.kernelNames)).length =
         (rowsOf (module.source Schema.kernelSignatures)).length
       error := .kernelCountMismatch (rowsOf (module.source Schema.kernelNames)).length
         (rowsOf (module.source Schema.kernelSignatures)).length }]
  events := []

def stages (module : Module) : List Stage :=
  [scalarStage module Schema.compilerVersion,
    scalarStage module Schema.optimizationLevel,
    precisionStage module,
    listStage module [.text] .rowsDecoded Schema.vars,
    listStage module [.text] .rowsDecoded Schema.funcs,
    listStage module [.text] .rowsDecoded Schema.kernelNames,
    listStage module [.integer] .rowsDecoded Schema.kernelSignatures,
    pairingStage module,
    listStage module [.text, .text] .pragmasDecoded Schema.pragmas,
    listStage module [.integer] .rowsDecoded Schema.objectSlots]

/-- The stages check what an extraction checks, in the same order. -/
theorem checks_stages (module : Module) :
    (stages module).flatMap Stage.checks = checks module.source := by
  simp [stages, checks, kernelChecks, scalarStage, precisionStage, listStage, pairingStage]

/-- The text of a table that holds a single one. -/
def singleText? : List Row → Option String
  | [[.text value]] => some value
  | _ => none

/-- What is wrong with the rows of a table that does not hold a single text. -/
def textDefect (name : String) : List Row → Failure
  | [[.integer _]] => .operandType ⟨name, 0, 0⟩ .text .integer
  | [row] => .arity name 0 1 row.length
  | rows => .scalarRowCount name rows.length

/-- A flag table is reported when it is malformed or its flag is not one of the two known ones. -/
def threadableEvents : Option (List Row) → List Event
  | none => []
  | some rows =>
      match singleText? rows with
      | some flag =>
          if flag = "yes" ∨ flag = "no" then []
          else [.unknownFlag Schema.threadable flag]
      | none => [.advisoryIgnored (textDefect Schema.threadable rows)]

def checksumEvents : Option (List Row) → List Event
  | none => []
  | some rows =>
      match singleText? rows with
      | some _ => []
      | none => [.advisoryIgnored (textDefect Schema.buildChecksum rows)]

/-! ### Steps and their stages -/

namespace Step

variable {α Result : Type}

def events (step : Step α) : List Event := step.run.events

theorem events_record (event : Event) : (record event).events = [event] := rfl

theorem events_lift (logged : Logged Event α) : events (ExceptT.lift logged) = logged.events :=
  List.append_nil _

theorem events_bind (first : Step α) (next : α → Step Result) :
    (first >>= next).events = first.events ++
      match first.outcome with
      | .ok value => (next value).events
      | .error _ => [] := by
  change first.run.events ++ (ExceptT.bindCont next first.run.value).events = _
  rw [outcome, events]
  cases first.run.value <;> rfl

theorem outcome_bind_of_ok {first : Step α} {value : α} (answered : first.outcome = .ok value)
    (next : α → Step Result) : (first >>= next).outcome = (next value).outcome := by
  rw [outcome_bind, answered]
  rfl

theorem outcome_bind_of_error {first : Step α} {cause : Failure}
    (failed : first.outcome = .error cause) (next : α → Step Result) :
    (first >>= next).outcome = .error cause := by
  rw [outcome_bind, failed]
  rfl

theorem events_bind_of_ok {first : Step α} {value : α} (answered : first.outcome = .ok value)
    (next : α → Step Result) :
    (first >>= next).events = first.events ++ (next value).events := by
  rw [events_bind, answered]

theorem events_bind_of_error {first : Step α} {cause : Failure}
    (failed : first.outcome = .error cause) (next : α → Step Result) :
    (first >>= next).events = first.events := by
  rw [events_bind, failed, List.append_nil]

/-- The step goes through the stages. -/
def Runs (step : Step α) (stages : List Stage) : Prop :=
  Completes stages step.outcome step.events

theorem runs_pure (value : α) : Runs (pure value) [] := Completes.finished (List.forall_mem_nil _)

/-- A step of one stage is silent when it fails. -/
theorem Runs.single {step : Step α} {stage : Stage} (performs : Performs stage.checks step.outcome)
    (passed : ∀ value, step.outcome = .ok value → step.events = stage.events)
    (failed : ∀ cause, step.outcome = .error cause → step.events = []) : step.Runs [stage] := by
  rw [Runs]
  generalize step.outcome = result at performs passed failed ⊢
  cases performs with
  | @passed value held =>
      rw [passed value rfl, ← List.flatMap_singleton Stage.events stage]
      apply Completes.finished
      intro other member
      rw [List.mem_singleton.1 member]
      exact held
  | @failed cause defect =>
      rw [failed cause rfl]
      exact Completes.stopped (List.forall_mem_nil _) defect

/-- A table that is decoded first, and then only reported, is one stage. -/
theorem Runs.decoded {result : Except Failure α} {next : α → Step Result} {stage : Stage}
    (performs : Performs stage.checks (ofExcept result >>= next).outcome)
    (reported : ∀ value, result = .ok value →
      (next value).events = stage.events ∧ ∃ answer, (next value).outcome = .ok answer) :
    (ofExcept result >>= next).Runs [stage] := by
  cases result with
  | error cause =>
      have failed : (ofExcept (.error cause : Except Failure α)).outcome = .error cause := rfl
      refine .single performs ?_ fun _ _ => events_bind_of_error failed next
      intro answer answered
      rw [outcome_bind_of_error failed] at answered
      contradiction
  | ok value =>
      have read : (ofExcept (.ok value : Except Failure α)).outcome = .ok value := rfl
      obtain ⟨events, answer, answered⟩ := reported value rfl
      refine .single performs ?_ ?_
      · intro _ _
        rw [events_bind_of_ok read, events]
        rfl
      · intro cause failed
        rw [outcome_bind_of_ok read, answered] at failed
        contradiction

theorem Runs.bind {first : Step α} {next : α → Step Result} {before after : List Stage}
    (start : first.Runs before)
    (continued : ∀ value, first.outcome = .ok value → (next value).Runs after) :
    (first >>= next).Runs (before ++ after) := by
  rw [Runs] at start ⊢
  cases answered : first.outcome with
  | error cause =>
      rw [answered] at start
      obtain ⟨done, failing, later, rfl, held, defect, logged⟩ := start.of_error
      rw [outcome_bind_of_error answered, events_bind_of_error answered, logged,
        List.append_assoc, List.cons_append]
      exact .stopped held defect
  | ok value =>
      rw [answered] at start
      obtain ⟨held, logged⟩ := start.of_ok
      have rest := continued value answered
      rw [outcome_bind_of_ok answered, events_bind_of_ok answered, logged]
      rw [Runs] at rest
      generalize (next value).outcome = result at rest ⊢
      generalize (next value).events = others at rest ⊢
      cases rest with
      | finished held' =>
          rw [← List.flatMap_append]
          exact .finished (List.forall_mem_append.2 ⟨held, held'⟩)
      | stopped held' defect =>
          rw [← List.flatMap_append, ← List.append_assoc]
          exact .stopped (List.forall_mem_append.2 ⟨held, held'⟩) defect

end Step

/-! ### Tables -/

section Tables

variable (module : Module)

theorem runs_number (name : String) :
    (number (module.source name)).Runs [scalarStage module name] := by
  have silent : (number (module.source name)).events = [] := by
    cases module.source name <;> rfl
  exact .single (performs_number fun _ => Module.name_of_lookup) (fun _ _ => silent)
    fun _ _ => silent

theorem precisionEvents_word (value : UInt32) :
    precisionEvents (some [wordRow value]) =
      match FloatPrecision.ofWord? value with
      | some _ => []
      | none => [.unknownPrecision Schema.floatPrecision value] := by
  have large : 2 ≤ value.toUInt64 ↔ value ≠ 0 ∧ value ≠ 1 := by
    rw [UInt64.le_iff_toNat_le, UInt32.toNat_toUInt64, ne_eq, ne_eq, ← UInt32.toNat_inj,
      ← UInt32.toNat_inj]
    change 2 ≤ value.toNat ↔ ¬value.toNat = 0 ∧ ¬value.toNat = 1
    omega
  by_cases zero : value = 0
  · rw [zero]
    rfl
  · by_cases one : value = 1
    · rw [one]
      rfl
    · rw [wordRow, Operand.ofWord, precisionEvents, if_pos (large.2 ⟨zero, one⟩),
        UInt32.toUInt32_toUInt64, FloatPrecision.ofWord?, if_neg zero, if_neg one]

theorem runs_precision :
    (precision (module.source Schema.floatPrecision)).Runs [precisionStage module] := by
  have performs : Performs (precisionStage module).checks
      (precision (module.source Schema.floatPrecision)).outcome :=
    performs_precision fun _ => Module.name_of_lookup
  have events : (precisionStage module).events =
      precisionEvents ((module.source Schema.floatPrecision).map Table.rows) := rfl
  cases found : module.source Schema.floatPrecision with
  | none =>
      rw [found] at performs events
      exact .single performs (fun _ _ => events.symm) fun _ _ => rfl
  | some table =>
      rw [found] at performs events
      apply Step.Runs.decoded performs
      intro value read
      have rows : table.rows = [wordRow value] := (scalar_eq_ok_iff word_exact).1 read
      rw [events, Option.map_some, rows, precisionEvents_word, Module.name_of_lookup found]
      cases FloatPrecision.ofWord? value with
      | some known => exact ⟨rfl, known, rfl⟩
      | none => exact ⟨rfl, .full, rfl⟩

section Lists

variable {α : Type} {decode : RowDecoder α} {kinds : List OperandKind}
  {decoded : String → Nat → Event} {name : String}

theorem runs_list
    (performs : Performs (listStage module kinds decoded name).checks
      (list decode decoded (module.source name)).outcome) :
    (list decode decoded (module.source name)).Runs [listStage module kinds decoded name] := by
  have events : (listStage module kinds decoded name).events =
      ((module.source name).map Table.rows).toList.map
        fun rows => decoded name rows.length := rfl
  cases found : module.source name with
  | none =>
      rw [found] at performs events
      exact .single performs (fun _ _ => events.symm) fun _ _ => rfl
  | some table =>
      rw [found] at performs events
      apply Step.Runs.decoded performs
      intro values read
      have named : table.name = name := Module.name_of_lookup found
      have logged : (Step.record (decoded table.name values.length)).events =
          [decoded name table.rows.length] := by
        rw [Step.events_record, named, length_of_rows read]
      exact ⟨by rw [events, Step.events_bind_of_ok rfl, logged]; rfl, values, rfl⟩

end Lists

theorem runs_texts (name : String) :
    (texts (module.source name)).Runs [listStage module [.text] .rowsDecoded name] :=
  runs_list module (performs_texts fun _ => Module.name_of_lookup)

theorem runs_words (name : String) :
    (words (module.source name)).Runs [listStage module [.integer] .rowsDecoded name] :=
  runs_list module (performs_words fun _ => Module.name_of_lookup)

theorem runs_pragmas (name : String) :
    (pragmas (module.source name)).Runs [listStage module [.text, .text] .pragmasDecoded name] :=
  runs_list module (performs_pragmas fun _ => Module.name_of_lookup)

theorem runs_kernels :
    (kernels (module.source Schema.kernelNames) (module.source Schema.kernelSignatures)).Runs
      [listStage module [.text] .rowsDecoded Schema.kernelNames,
        listStage module [.integer] .rowsDecoded Schema.kernelSignatures,
        pairingStage module] := by
  rw [kernels]
  refine Step.Runs.bind (runs_texts module Schema.kernelNames) fun names decoded => ?_
  refine Step.Runs.bind (runs_words module Schema.kernelSignatures) fun signatures decoded' => ?_
  refine .single (performs_pairing decoded decoded') ?_ ?_
  · intro values _
    split <;> rfl
  · intro cause _
    split <;> rfl

theorem runs_mandatory : (mandatory module.source).Runs (stages module) := by
  rw [mandatory]
  refine Step.Runs.bind (runs_number module _) fun version _ => ?_
  refine Step.Runs.bind (runs_number module _) fun level _ => ?_
  refine Step.Runs.bind (runs_precision module) fun precision _ => ?_
  refine Step.Runs.bind (runs_texts module _) fun vars _ => ?_
  refine Step.Runs.bind (runs_texts module _) fun funcs _ => ?_
  refine Step.Runs.bind (runs_kernels module) fun kernels _ => ?_
  refine Step.Runs.bind (runs_pragmas module _) fun pragmas _ => ?_
  exact Step.Runs.bind (runs_words module _) fun slots _ => Step.runs_pure _

end Tables

/-! ### Advisory tables and whole calls -/

theorem scalar_text (name : String) (rows : List Row) :
    scalar text ⟨name, rows⟩ =
      match singleText? rows with
      | some value => .ok value
      | none => .error (textDefect name rows) := by
  rcases rows with _ | ⟨_ | ⟨_ | _, _ | ⟨_, _⟩⟩, _ | ⟨_, _⟩⟩ <;> rfl

theorem events_checksum (stored : Option (List Row)) :
    (advisoryText (stored.map (Table.mk Schema.buildChecksum))).events =
      checksumEvents stored := by
  cases stored with
  | none => rfl
  | some rows =>
      rw [Option.map_some, advisoryText, scalar_text, checksumEvents]
      cases singleText? rows with
      | some value => rfl
      | none => rfl

theorem events_threadable (stored : Option (List Row)) :
    (threadable (stored.map (Table.mk Schema.threadable))).events = threadableEvents stored := by
  cases stored with
  | none => rfl
  | some rows =>
      rw [Option.map_some, threadable, Logged.events_bind, advisoryText, scalar_text,
        threadableEvents]
      cases singleText? rows with
      | none => rfl
      | some flag =>
          by_cases yes : flag = "yes"
          · rw [yes]
            rfl
          · by_cases no : flag = "no"
            · rw [no]
              rfl
            · simp only [Logged.value_pure, yes, no, or_self, if_false]
              rfl

theorem events_advisory (module : Module) (metadata : Metadata) :
    (advisory module.source metadata).events =
      threadableEvents (module.rows? Schema.threadable) ++
        checksumEvents (module.rows? Schema.buildChecksum) := by
  rw [← events_threadable, ← events_checksum, ← Module.lookup_eq_map_rows?,
    ← Module.lookup_eq_map_rows?, advisory, Logged.events_bind, Logged.events_bind]
  exact congrArg (_ ++ ·) (List.append_nil _)

/-! ### What the stages report -/

section Reported

variable {table : String} (reserved : table ∈ Schema.reserved)

include reserved

theorem reported_operandChecks {kind : OperandKind} {row index : Nat}
    (first : kind = .integer → index = 0) (operand : Operand) :
    ∀ check ∈ operandChecks kind ⟨table, row, index⟩ operand, check.error.Reported := by
  intro check member
  rcases List.mem_cons.1 member with rfl | member
  · exact .operandType reserved row index kind operand.kind
  · cases kind with
    | text => cases member
    | integer =>
        cases operand with
        | text value => cases member
        | integer value =>
            rw [List.mem_singleton.1 member, first rfl]
            exact .integerOverflow reserved row value

variable {kinds : List OperandKind} (first : OperandKind.integer ∉ kinds.tail)

include first

theorem reported_rowChecks (position : Nat) (row : Row) :
    ∀ check ∈ rowChecks kinds table position row, check.error.Reported := by
  intro check member
  rcases List.mem_cons.1 member with rfl | member
  · exact .arity reserved position kinds.length row.length
  · obtain ⟨⟨⟨kind, operand⟩, index⟩, cell, member⟩ := List.mem_flatMap.1 member
    have place : kinds[index]? = some kind :=
      (List.getElem?_zip_eq_some.1 (List.mk_mem_zipIdx_iff_getElem?.1 cell)).1
    refine reported_operandChecks reserved ?_ operand check member
    rintro rfl
    cases index with
    | zero => rfl
    | succ index =>
        rw [← List.getElem?_tail] at place
        exact absurd (List.mem_of_getElem? place) first

theorem reported_listChecks (rows : List Row) :
    ∀ check ∈ listChecks kinds table rows, check.error.Reported := by
  intro check member
  obtain ⟨⟨row, position⟩, -, member⟩ := List.mem_flatMap.1 member
  exact reported_rowChecks reserved first position row check member

omit first

theorem reported_scalarChecks (stored : Option Table) :
    ∀ check ∈ scalarChecks table stored, check.error.Reported := by
  intro check member
  cases stored with
  | none => cases member
  | some present =>
      rcases List.mem_cons.1 member with rfl | member
      · exact .scalarRowCount reserved present.rows.length
      · exact reported_listChecks reserved (by decide) present.rows check member

theorem reported_textDefect (rows : List Row) : (textDefect table rows).Reported := by
  unfold textDefect
  split
  · exact .operandType reserved 0 0 .text .integer
  · exact .arity reserved 0 1 _
  · exact .scalarRowCount reserved _

/-- What the checks and the events of a stage can say. -/
structure Stage.Reported (stage : Stage) : Prop where
  checks : ∀ check ∈ stage.checks, check.error.Reported
  events : ∀ event ∈ stage.events, event.Reported

theorem reported_scalarStage (module : Module) : (scalarStage module table).Reported where
  checks := reported_scalarChecks reserved _
  events := List.forall_mem_nil _

theorem reported_listStage (module : Module) {kinds : List OperandKind}
    (first : OperandKind.integer ∉ kinds.tail) :
    (listStage module kinds .rowsDecoded table).Reported where
  checks := reported_listChecks reserved first _
  events := List.forall_mem_map.2 fun rows _ => .rowsDecoded reserved rows.length

end Reported

theorem reported_precisionStage (module : Module) : (precisionStage module).Reported where
  checks := reported_scalarChecks (by decide) _
  events := by
    intro event member
    simp only [precisionStage] at member
    unfold precisionEvents at member
    split at member
    · split at member
      · rw [List.mem_singleton.1 member]
        exact .unknownPrecision _
      · cases member
    · cases member

theorem reported_pairingStage (module : Module) : (pairingStage module).Reported where
  checks := by
    intro check member
    rw [List.mem_singleton.1 member]
    exact .kernelCountMismatch _ _
  events := List.forall_mem_nil _

theorem reported_pragmaStage (module : Module) :
    (listStage module [.text, .text] .pragmasDecoded Schema.pragmas).Reported where
  checks := reported_listChecks (by decide) (by decide) _
  events := List.forall_mem_map.2 fun rows _ => .pragmasDecoded (by decide) rows.length

theorem reported_stages (module : Module) : ∀ stage ∈ stages module, stage.Reported := by
  simp only [stages, List.forall_mem_cons]
  exact ⟨reported_scalarStage (by decide) module, reported_scalarStage (by decide) module,
    reported_precisionStage module, reported_listStage (by decide) module (by decide),
    reported_listStage (by decide) module (by decide),
    reported_listStage (by decide) module (by decide),
    reported_listStage (by decide) module (by decide), reported_pairingStage module,
    reported_pragmaStage module, reported_listStage (by decide) module (by decide),
    List.forall_mem_nil _⟩

theorem reported_threadableEvents (stored : Option (List Row)) :
    ∀ event ∈ threadableEvents stored, event.Reported := by
  intro event member
  unfold threadableEvents at member
  split at member
  · cases member
  · split at member
    · split at member
      · cases member
      · rw [List.mem_singleton.1 member]
        exact .unknownFlag _
    · rw [List.mem_singleton.1 member]
      exact .advisoryIgnored (reported_textDefect (by decide) _)

theorem reported_checksumEvents (stored : Option (List Row)) :
    ∀ event ∈ checksumEvents stored, event.Reported := by
  intro event member
  unfold checksumEvents at member
  split at member
  · cases member
  · split at member
    · cases member
    · rw [List.mem_singleton.1 member]
      exact .advisoryIgnored (reported_textDefect (by decide) _)

end Extraction

namespace Extractor

open Check (AllHold FirstDefect)
open Extraction

/-- The five counts of what was committed. -/
def committedEvent (metadata : Metadata) : Event :=
  .extracted metadata.vars.length metadata.funcs.length metadata.kernels.length
    metadata.pragmas.length metadata.objectSlots.length

/-- A call reports the stages up to the first defect and ends with that defect; without a defect it
reports all of them, then the two advisory tables, and ends with what it committed. -/
inductive LogsStages (module : Module) (call : Logged Event (Except Failure Unit × Extractor)) :
    Prop where
  | stopped {done later : List Stage} {failing : Stage} {cause : Failure}
      (split : stages module = done ++ failing :: later)
      (held : ∀ stage ∈ done, AllHold stage.checks) (defect : FirstDefect failing.checks cause)
      (answered : call.value.1 = .error cause)
      (events : call.events = done.flatMap Stage.events ++ [.extractionFailed cause]) :
      LogsStages module call
  | finished (held : ∀ stage ∈ stages module, AllHold stage.checks)
      (answered : call.value.1 = .ok ())
      (events : call.events = (stages module).flatMap Stage.events ++
        threadableEvents (module.rows? Schema.threadable) ++
        checksumEvents (module.rows? Schema.buildChecksum) ++
        [committedEvent call.value.2.metadata]) :
      LogsStages module call

/-- All events of a call are events that their lines tell. -/
theorem LogsStages.reported {module : Module}
    {call : Logged Event (Except Failure Unit × Extractor)} (logs : LogsStages module call) :
    ∀ event ∈ call.events, event.Reported := by
  have stages := reported_stages module
  cases logs with
  | @stopped done later failing cause split held defect answered events =>
      rw [split, List.forall_mem_append, List.forall_mem_cons] at stages
      obtain ⟨before, ends, -⟩ := stages
      obtain ⟨check, member, rfl⟩ := defect.exists_mem
      rw [events, List.forall_mem_append, List.forall_mem_singleton, List.forall_mem_flatMap]
      exact ⟨fun stage listed => (before stage listed).events,
        .extractionFailed (ends.checks check member)⟩
  | finished held answered events =>
      rw [events, List.forall_mem_append, List.forall_mem_append, List.forall_mem_append,
        List.forall_mem_singleton, List.forall_mem_flatMap]
      exact ⟨⟨⟨fun stage listed => (stages stage listed).events, reported_threadableEvents _⟩,
        reported_checksumEvents _⟩, .extracted _ _ _ _ _⟩

/-- The last event of a call says how it ended. -/
theorem LogsStages.failed_iff {module : Module}
    {call : Logged Event (Except Failure Unit × Extractor)} (logs : LogsStages module call)
    (cause : Failure) :
    call.value.1 = .error cause ↔ call.events.getLast? = some (.extractionFailed cause) := by
  cases logs with
  | stopped split held defect answered events =>
      rw [answered, events, List.getLast?_concat]
      simp
  | finished held answered events =>
      rw [answered, events, List.getLast?_concat]
      simp [committedEvent]

theorem LogsStages.outcome_eq {module other : Module}
    {call call' : Logged Event (Except Failure Unit × Extractor)} (logs : LogsStages module call)
    (logs' : LogsStages other call') (same : call.events = call'.events) :
    call.value.1 = call'.value.1 := by
  have failures : ∀ cause, call.value.1 = .error cause ↔ call'.value.1 = .error cause := by
    intro cause
    rw [logs.failed_iff, logs'.failed_iff, same]
  cases failed : call.value.1 with
  | error cause => exact ((failures cause).1 failed).symm
  | ok =>
      cases failed' : call'.value.1 with
      | error cause => exact absurd ((failures cause).2 failed') (failed ▸ nofun)
      | ok => rfl

section Calls

variable (ownership : Ownership) (previous : Metadata)

theorem events_attempt_carrying (source : TableSource) :
    (carrying source ownership previous).attempt.events =
      (ScriptMetadata.extract source).events ++
        [match (ScriptMetadata.extract source).outcome with
          | .ok metadata => committedEvent metadata
          | .error cause => .extractionFailed cause] := by
  have decoded : (carrying source ownership previous).decode =
      (ScriptMetadata.extract source).run := rfl
  rw [attempt, Logged.events_bind, decoded, Step.events, Step.outcome]
  cases (ScriptMetadata.extract source).run.value <;> rfl

theorem logsStages_attempt (module : Module) :
    LogsStages module (carrying module.source ownership previous).attempt := by
  have runs := runs_mandatory module
  have answered := value_attempt_carrying module.source ownership previous
  have logged := events_attempt_carrying ownership previous module.source
  rw [Step.Runs] at runs
  cases decided : (mandatory module.source).outcome with
  | error cause =>
      rw [decided] at runs
      rw [ScriptMetadata.extract, Step.outcome_bind_of_error decided] at answered
      rw [ScriptMetadata.extract, Step.events_bind_of_error decided,
        Step.outcome_bind_of_error decided] at logged
      obtain ⟨done, failing, later, split, held, defect, events⟩ := runs.of_error
      rw [events] at logged
      exact .stopped split held defect (congrArg Prod.fst answered) logged
  | ok metadata =>
      rw [decided] at runs
      rw [ScriptMetadata.extract, Step.outcome_bind_of_ok decided, Step.outcome_lift] at answered
      rw [ScriptMetadata.extract, Step.events_bind_of_ok decided,
        Step.outcome_bind_of_ok decided, Step.outcome_lift, Step.events_lift,
        events_advisory] at logged
      obtain ⟨held, events⟩ := runs.of_ok
      refine .finished held (congrArg Prod.fst answered) ?_
      rw [logged, events, answered, ← List.append_assoc (List.flatMap _ _)]
      rfl

/-- The stages have the checks of the extraction, and every call reports them. Its log has one line
for each event, and calls with the same lines have reported the same events and ended alike. -/
theorem attempt_logs_stages (module : Module) :
    (stages module).flatMap Stage.checks = checks module.source ∧
      LogsStages module (carrying module.source ownership previous).attempt ∧
      (carrying module.source ownership previous).attempt.lines =
        (carrying module.source ownership previous).attempt.events.map Event.spelled ∧
      ∀ (other : Module) (ownership' : Ownership) (previous' : Metadata),
        (carrying module.source ownership previous).attempt.lines =
            (carrying other.source ownership' previous').attempt.lines →
          (carrying module.source ownership previous).attempt.events =
              (carrying other.source ownership' previous').attempt.events ∧
            (carrying module.source ownership previous).attempt.value.1 =
              (carrying other.source ownership' previous').attempt.value.1 := by
  have logs := logsStages_attempt ownership previous module
  refine ⟨checks_stages module, logs, Logged.lines_eq_spelled _, ?_⟩
  intro other ownership' previous' same
  have logs' := logsStages_attempt ownership' previous' other
  rw [Logged.lines_eq_spelled, Logged.lines_eq_spelled] at same
  have events := Event.eq_of_map_spelled logs.reported logs'.reported same
  exact ⟨events, logs.outcome_eq logs' events⟩

end Calls

/-- The functions fail, so neither the kernels after them nor the flag is logged. -/
def defectiveFuncs : Module :=
  .ofTables [⟨Schema.threadable, [[.text "maybe"]]⟩, ⟨Schema.kernelNames, [[.text "root"]]⟩,
    ⟨Schema.funcs, [[.integer 3]]⟩, ⟨Schema.vars, [[.text "gravity"], [.text "speed"]]⟩,
    ⟨Schema.floatPrecision, [[.integer 7]]⟩]

example : (carrying defectiveFuncs.source .owned {}).attempt.lines =
    [(.warn, "`#rs_float_precision`: unrecognized precision 7, using full"),
      (.debug, "decoded `#rs_export_var`: 2 rows"),
      (.warn, "metadata extraction failed: " ++
        "table `#rs_export_func` row 0 operand 0: expected string, found integer")] := by
  decide +kernel

end Extractor

end ScriptMetadata
