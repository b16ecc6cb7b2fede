import ScriptMetadata.Proofs.ExtractorCalls

/-!
Runs of an extractor, whose source may come to answer differently between any two calls. The
metadata is a function of what the source answered at the latest call; nothing of an earlier one
survives.
-/

set_option autoImplicit false

namespace ScriptMetadata.Extractor

open Extraction

/-- What an extractor is made from. -/
inductive Origin where
  | handle (source : TableSource) (ownership : Ownership)
  | container (options : Container.LoadOptions) (bytes : ByteArray)

namespace Origin

def extractor : Origin → Extractor
  | .handle source ownership => ofSource source ownership
  | .container options bytes => (ofBytes options bytes).value

/-- The source that the calls look into, if there is one. -/
def loaded : Origin → Except Container.LoadError TableSource
  | .handle source _ => .ok source
  | .container options bytes => (Container.load options bytes).map Module.source

end Origin

inductive Action where
  | attempt
  | extract
  | change (source : TableSource)

def perform (extractor : Extractor) : Action → Extractor
  | .attempt => extractor.attempt.value.2
  | .extract => extractor.extract.value.2
  | .change source => extractor.withSource source

def run (extractor : Extractor) (actions : List Action) : Extractor :=
  actions.foldl perform extractor

/-- What a source answers now and what it answered at the latest call. -/
structure History where
  answering : TableSource
  latest : Option TableSource := none

namespace History

def add (history : History) : Action → History
  | .attempt => { history with latest := some history.answering }
  | .extract => { history with latest := some history.answering }
  | .change source => { history with answering := source }

end History

/-- The history of a source that answers like this before the first action. -/
def history (source : TableSource) (actions : List Action) : History :=
  actions.foldl History.add { answering := source }

/-- The lists of kernels and of pragmas as their tables were decoded, each on its own: none is cut to
the length of its partner, and each has an entry for every row. -/
structure DecodedLists (source : TableSource) (metadata : Metadata) : Prop where
  names : (texts (source Schema.kernelNames)).outcome = .ok metadata.kernelNames
  signatures : (words (source Schema.kernelSignatures)).outcome = .ok metadata.kernelSignatures
  nameCount : metadata.kernelNames.length = (rowsOf (source Schema.kernelNames)).length
  signatureCount :
    metadata.kernelSignatures.length = (rowsOf (source Schema.kernelSignatures)).length
  keyCount : metadata.pragmaKeys.length = (rowsOf (source Schema.pragmas)).length
  valueCount : metadata.pragmaValues.length = (rowsOf (source Schema.pragmas)).length

theorem decodedLists {source : TableSource} {metadata : Metadata}
    (decodes : Decodes source metadata) : DecodedLists source metadata where
  names := texts_eq_ok_iff.2 decodes.kernelNames
  signatures := words_eq_ok_iff.2 decodes.kernelSignatures
  nameCount := by rw [decodes.kernelNames, List.length_map]
  signatureCount := by rw [decodes.kernelSignatures, List.length_map]
  keyCount := by rw [decodes.pragmas, Metadata.pragmaKeys, List.length_map, List.length_map]
  valueCount := by rw [decodes.pragmas, Metadata.pragmaValues, List.length_map, List.length_map]

/-- The metadata that the latest call has to leave. -/
inductive Committed : Option TableSource → Metadata → Prop where
  | uncalled : Committed none {}
  | success {source : TableSource} {metadata : Metadata} (conforms : Conforms source)
      (decodes : Decodes source metadata) (lists : DecodedLists source metadata) :
      Committed (some source) metadata
  | failure {source : TableSource} (rejected : ¬Conforms source) : Committed (some source) {}

/-- The extractor holds the source of the history and what its latest call left. -/
def Follows (extractor : Extractor) (history : History) : Prop :=
  ∃ ownership metadata, extractor = carrying history.answering ownership metadata ∧
    Committed history.latest metadata

theorem follows_attempt {extractor : Extractor} {history : History}
    (follows : extractor.Follows history) :
    extractor.attempt.value.2.Follows { history with latest := some history.answering } := by
  obtain ⟨ownership, metadata, rfl, -⟩ := follows
  by_cases conforms : Conforms history.answering
  · obtain ⟨decoded, decodes, answered⟩ :=
      attempt_carrying_of_conforms history.answering ownership metadata conforms
    rw [answered]
    exact ⟨ownership, decoded, rfl, .success conforms decodes (decodedLists decodes)⟩
  · obtain ⟨cause, failed⟩ :=
      attempt_carrying_of_not_conforms history.answering ownership metadata conforms
    rw [failed]
    exact ⟨ownership, {}, rfl, .failure conforms⟩

theorem follows_perform {extractor : Extractor} {history : History}
    (follows : extractor.Follows history) (action : Action) :
    (extractor.perform action).Follows (history.add action) := by
  cases action with
  | attempt => exact follows_attempt follows
  | extract => exact follows_attempt follows
  | change source =>
      obtain ⟨ownership, metadata, rfl, committed⟩ := follows
      exact ⟨ownership, metadata, rfl, committed⟩

theorem follows_run {extractor : Extractor} {history : History}
    (follows : extractor.Follows history) (actions : List Action) :
    (extractor.run actions).Follows (actions.foldl History.add history) := by
  induction actions generalizing extractor history with
  | nil => exact follows
  | cons action rest induction => exact induction (follows_perform follows action)

/-- Without a source there is nothing that an action could change. -/
theorem perform_of_error (cause : Container.LoadError) (action : Action) :
    perform { holding := .error cause } action = { holding := .error cause } := by
  cases action <;> rfl

theorem run_of_error (cause : Container.LoadError) (actions : List Action) :
    run { holding := .error cause } actions = { holding := .error cause } := by
  induction actions with
  | nil => rfl
  | cons action rest induction =>
      rw [run, List.foldl_cons, perform_of_error]
      exact induction

theorem value_ofBytes (options : Container.LoadOptions) (bytes : ByteArray) :
    (ofBytes options bytes).value =
      match Container.load options bytes with
      | .ok module => ofSource module.source .owned
      | .error cause => { holding := .error cause } := by
  rw [ofBytes, Logged.value_bind, Container.value_loadLogged]
  cases Container.load options bytes <;> rfl

namespace Origin

theorem extractor_of_error {origin : Origin} {cause : Container.LoadError}
    (failed : origin.loaded = .error cause) : origin.extractor = { holding := .error cause } := by
  cases origin with
  | handle source ownership => contradiction
  | container options bytes =>
      rw [loaded] at failed
      rw [extractor, value_ofBytes]
      cases answered : Container.load options bytes with
      | ok module =>
          rw [answered] at failed
          contradiction
      | error found =>
          rw [answered] at failed
          cases failed
          rfl

theorem follows_of_loaded {origin : Origin} {source : TableSource}
    (found : origin.loaded = .ok source) : origin.extractor.Follows { answering := source } := by
  cases origin with
  | handle given ownership =>
      cases found
      exact ⟨ownership, {}, rfl, .uncalled⟩
  | container options bytes =>
      rw [loaded, Outcome.map_eq_ok_iff] at found
      obtain ⟨module, answered, rfl⟩ := found
      rw [extractor, value_ofBytes, answered]
      exact ⟨.owned, {}, rfl, .uncalled⟩

def after (origin : Origin) (actions : List Action) : Extractor := origin.extractor.run actions

/-- In every state of a run the metadata is what the latest call has to leave, and another call
answers for the source alone; without a source all calls fail for the one reason. -/
theorem after_commits_latest (origin : Origin) (actions : List Action) :
    (match origin.loaded with
      | .ok source =>
          Committed (history source actions).latest (origin.after actions).metadata ∧
            ((origin.after actions).attempt.value.1 = .ok () ↔
              Conforms (history source actions).answering)
      | .error cause =>
          (origin.after actions).metadata = {} ∧
            (origin.after actions).attempt.value =
              (.error (.load cause), origin.after actions)) ∧
      ((origin.after actions).extract.value.1 = true ↔
        (origin.after actions).attempt.value.1 = .ok ()) ∧
      (origin.after actions).extract.value.2 = (origin.after actions).attempt.value.2 ∧
      (origin.after actions).attempt.value.2.attempt.value =
        (origin.after actions).attempt.value ∧
      (origin.after actions).extract.value.2.extract.value =
        (origin.after actions).extract.value ∧
      (origin.after actions).metadata.kernelNames.length =
        (origin.after actions).metadata.kernelSignatures.length ∧
      (origin.after actions).metadata.pragmaKeys.length =
        (origin.after actions).metadata.pragmaValues.length := by
  refine ⟨?_, isOk_extract_iff _, rfl, attempt_attempt _, ?_, ?_, ?_⟩
  · split
    · rename_i source found
      obtain ⟨ownership, metadata, reached, committed⟩ :=
        follows_run (follows_of_loaded found) actions
      rw [after, reached]
      exact ⟨committed, attempt_carrying_ok_iff _ ownership metadata⟩
    · rename_i cause failed
      rw [after, extractor_of_error failed, run_of_error]
      exact ⟨rfl, rfl⟩
  · rw [value_extract, value_extract, attempt_attempt]
  -- Both lists come out of one list of pairs; `DecodedLists` says that pairing them cut neither.
  · rw [Metadata.kernelNames, Metadata.kernelSignatures, List.length_map, List.length_map]
  · rw [Metadata.pragmaKeys, Metadata.pragmaValues, List.length_map, List.length_map]

end Origin

end ScriptMetadata.Extractor
