import ScriptMetadata.Extraction.Rows

/-!
What loading and extraction report while they run. The record of events is part of the result, in
the order in which the events happened; it is never read back by the computation.
-/

set_option autoImplicit false

namespace ScriptMetadata

/-- A value with the events on the way to it. -/
structure Logged (Event Value : Type) where
  value : Value
  events : List Event := []

namespace Logged

variable {Event Value Result : Type}

def pure (value : Value) : Logged Event Value := { value }

def bind (first : Logged Event Value) (next : Value → Logged Event Result) :
    Logged Event Result where
  value := (next first.value).value
  events := first.events ++ (next first.value).events

/-- Records one event. -/
def record (event : Event) : Logged Event Unit := { value := (), events := [event] }

instance : Monad (Logged Event) where
  pure := Logged.pure
  bind := Logged.bind

@[simp] theorem value_pure (value : Value) :
    (Pure.pure value : Logged Event Value).value = value := rfl

@[simp] theorem events_pure (value : Value) :
    (Pure.pure value : Logged Event Value).events = [] := rfl

@[simp] theorem value_bind (first : Logged Event Value) (next : Value → Logged Event Result) :
    (first >>= next).value = (next first.value).value := rfl

@[simp] theorem value_map (f : Value → Result) (first : Logged Event Value) :
    (f <$> first).value = f first.value := rfl

@[simp] theorem events_bind (first : Logged Event Value) (next : Value → Logged Event Result) :
    (first >>= next).events = first.events ++ (next first.value).events := rfl

@[simp] theorem events_record (event : Event) : (record event).events = [event] := rfl

@[ext] theorem ext {first second : Logged Event Value} (value : first.value = second.value)
    (events : first.events = second.events) : first = second := by
  cases first
  cases second
  simp_all

theorem bind_pure_comp_id (first : Logged Event Value) : Logged.bind first Logged.pure = first :=
  ext rfl (List.append_nil _)

theorem bind_assoc_events {Last : Type} (first : Logged Event Value)
    (second : Value → Logged Event Result) (third : Result → Logged Event Last) :
    (first >>= second) >>= third = first >>= fun value => second value >>= third :=
  ext rfl (List.append_assoc _ _ _)

instance : LawfulMonad (Logged Event) :=
  LawfulMonad.mk' (Logged Event) bind_pure_comp_id (fun _ _ => rfl) bind_assoc_events

end Logged

/-! ### Events and their texts -/

inductive Severity where
  | debug
  | warn
  deriving DecidableEq

namespace Severity

def label : Severity → String
  | debug => "debug"
  | warn => "warn"

end Severity

open Container Extraction in
inductive Event where
  | moduleLoaded (tables nodes operands : UInt32)
  | moduleRejected (size : Nat) (cause : LoadError)
  | rowsDecoded (table : String) (count : Nat)
  | pragmasDecoded (table : String) (count : Nat)
  | unknownPrecision (table : String) (value : UInt32)
  | unknownFlag (table value : String)
  | advisoryIgnored (cause : Failure)
  | extracted (vars funcs kernels pragmas objectSlots : Nat)
  | extractionFailed (cause : Failure)
  deriving DecidableEq

namespace Event

def severity : Event → Severity
  | moduleLoaded .. | rowsDecoded .. | pragmasDecoded .. | extracted .. => .debug
  | moduleRejected .. | unknownPrecision .. | unknownFlag .. | advisoryIgnored ..
  | extractionFailed .. => .warn

def message : Event → String
  | moduleLoaded tables nodes operands =>
      s!"loaded module: {tables} tables, {nodes} nodes, {operands} operands"
  | moduleRejected size cause => s!"failed to load module ({size} bytes): " ++ cause.message
  | rowsDecoded table count => s!"decoded `{table}`: {count} rows"
  | pragmasDecoded table count => s!"decoded `{table}`: {count} pragmas"
  | unknownPrecision table value => s!"`{table}`: unrecognized precision {value}, using full"
  | unknownFlag table value =>
      s!"`{table}`: unrecognized flag `{value}`, assuming threadable"
  | advisoryIgnored cause => "ignoring advisory table: " ++ cause.message
  | extracted vars funcs kernels pragmas objectSlots =>
      s!"extracted metadata: {vars} vars, {funcs} funcs, {kernels} foreach, " ++
        s!"{pragmas} pragmas, {objectSlots} object slots"
  | extractionFailed cause => "metadata extraction failed: " ++ cause.message

/-- An event as it is logged: its level and its text. -/
def line (event : Event) : Severity × String := (event.severity, event.message)

end Event

/-- What is logged of a computation. -/
def Logged.lines {Value : Type} (logged : Logged Event Value) : List (Severity × String) :=
  logged.events.map Event.line

end ScriptMetadata
