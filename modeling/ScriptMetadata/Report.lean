import ScriptMetadata.Metadata
import ScriptMetadata.Signature

/-!
The text report of an extraction: a section for the module, then one for each list that is not
empty. Entries are labelled by a letter and their index; the indices of a section all have the
width of the highest one.
-/

set_option autoImplicit false

namespace ScriptMetadata

namespace Report

/-! ### Styles

A palette gives each role a style, all of them ended by one reset; the plain palette has empty
styles, so that painting with it changes nothing. -/

/-- What a piece of a line is, as far as its style is concerned. -/
inductive Role where
  | heading
  | label
  | value
  deriving DecidableEq

structure Palette where
  heading : String := ""
  label : String := ""
  value : String := ""
  reset : String := ""
  deriving DecidableEq

namespace Palette

def plain : Palette := {}

def colored : Palette where
  heading := "\x1b[1;34m"
  label := "\x1b[2m"
  value := "\x1b[32m"
  reset := "\x1b[0m"

/-- The palette with or without colours. -/
def ofColor (color : Bool) : Palette := if color then colored else plain

/-- Whether painting shows. -/
def enabled (palette : Palette) : Bool := palette.reset ≠ ""

def style (palette : Palette) : Role → String
  | .heading => palette.heading
  | .label => palette.label
  | .value => palette.value

end Palette

/-- A piece of a line; without a role it is never painted. -/
structure Span where
  role : Option Role := none
  text : List Char
  deriving DecidableEq

abbrev Line := List Span

namespace Span

def render (palette : Palette) (span : Span) : List Char :=
  match span.role with
  | none => span.text
  | some role => (palette.style role).toList ++ span.text ++ palette.reset.toList

theorem render_plain (span : Span) : span.render .plain = span.text := by
  rcases span with ⟨role, text⟩
  rcases role with _ | role
  · rfl
  · cases role <;> simp [render, Palette.plain, Palette.style]

end Span

/-- Every line is ended by a newline. -/
def renderLine (palette : Palette) (line : Line) : List Char :=
  line.flatMap (Span.render palette) ++ ['\n']

/-! ### The width of an index

The number of digits is counted by a logarithm of the highest index, which an empty list does not
have; where a difference or a logarithm has no value there would be no width, and a list of any
length has one. -/

/-- The difference of two counts, if the second is not the greater one. -/
def difference? (first second : Nat) : Option Nat :=
  if second ≤ first then some (first - second) else none

/-- The logarithm to base ten without its fraction, taken to be zero at zero. -/
def decimalLog (value : Nat) : Nat :=
  if value < 10 then 0 else decimalLog (value / 10) + 1

/-- Zero has no logarithm. -/
def decimalLog? (value : Nat) : Option Nat :=
  if value = 0 then none else some (decimalLog value)

/-- One digit for up to one entry; else one more than the logarithm of the highest index. -/
def indexWidth? (count : Nat) : Option Nat :=
  if count ≤ 1 then some 1
  else do
    let highest ← difference? count 1
    let logarithm ← decimalLog? highest
    return logarithm + 1

theorem difference?_eq_some {first second : Nat} (least : second ≤ first) :
    difference? first second = some (first - second) := if_pos least

theorem decimalLog?_eq_some {value : Nat} (positive : value ≠ 0) :
    decimalLog? value = some (decimalLog value) := if_neg positive

/-- With more than one entry the highest index is not zero. -/
theorem indexWidth?_of_lt {count : Nat} (several : 1 < count) :
    indexWidth? count = some (decimalLog (count - 1) + 1) := by
  have positive : count - 1 ≠ 0 := by omega
  rw [indexWidth?, if_neg (by omega), difference?_eq_some (by omega)]
  simp only [Option.bind_eq_bind, Option.bind_some, decimalLog?_eq_some positive, pure]

theorem isSome_indexWidth? (count : Nat) : (indexWidth? count).isSome = true := by
  by_cases several : 1 < count
  · rw [indexWidth?_of_lt several]
    rfl
  · rw [indexWidth?, if_pos (by omega)]
    rfl

/-- The digits of the highest index of a list. -/
def indexWidth (count : Nat) : Nat := (indexWidth? count).get (isSome_indexWidth? count)

/-! ### Lines and sections -/

def plain (text : String) : Span := { text := text.toList }

def quoted (text : String) : Span := { role := some .value, text := Text.quote text }

def number (value : Nat) : Span := { text := Text.decimal value }

def truth (value : Bool) : Span := plain (if value then "true" else "false")

def indexLabel (letter : Char) (count index : Nat) : Span where
  role := some .label
  text := letter :: Text.zeroPadded (indexWidth count) (Text.decimal index)

def heading (title : String) : Line :=
  [{ role := some .heading, text := '[' :: title.toList ++ [']'] }]

/-- A heading, a line for each entry and an empty line; nothing for an empty list. -/
def listSection {α : Type} (title : String) (letter : Char) (entry : α → List Span)
    (values : List α) : List Line :=
  if values.isEmpty then []
  else
    heading title ::
      values.zipIdx.map (fun (value, index) =>
        indexLabel letter values.length index :: plain " " :: entry value) ++ [[]]

def kernelEntry (kernel : Kernel) : List Span :=
  [quoted kernel.name, plain " ",
    { text := Text.markedHexadecimal 2 kernel.signature.toNat }, plain "  ",
    { role := some .label, text := ';' :: ' ' :: Signature.describe kernel.signature }]

def pragmaEntry (pragma : Pragma) : List Span :=
  [quoted pragma.key, plain " = ", quoted pragma.value]

/-- The line for the build checksum is there only if there is one. -/
def moduleSection (metadata : Metadata) : List Line :=
  [heading "module",
    [plain "compiler_version = ", number metadata.compilerVersion.toNat],
    [plain "optimization_level = ", number metadata.optimizationLevel.toNat],
    [plain "float_precision = ", plain metadata.floatPrecision.label],
    [plain "threadable = ", truth metadata.threadable]] ++
  metadata.buildChecksum.toList.map (fun checksum =>
    [plain "build_checksum = ", quoted checksum]) ++
  [[plain "debug_info = ", truth metadata.debugInfo], []]

def lines (metadata : Metadata) : List Line :=
  moduleSection metadata ++
    listSection "export.vars" 'V' (fun name => [quoted name]) metadata.vars ++
    listSection "export.funcs" 'F' (fun name => [quoted name]) metadata.funcs ++
    listSection "export.foreach" 'K' kernelEntry metadata.kernels ++
    listSection "pragmas" 'P' pragmaEntry metadata.pragmas ++
    listSection "object_slots" 'S' (fun slot => [number slot.toNat]) metadata.objectSlots

def render (palette : Palette) (metadata : Metadata) : List Char :=
  (lines metadata).flatMap (renderLine palette)

end Report

/-- The report as a text. -/
def report (palette : Report.Palette) (metadata : Metadata) : String :=
  String.ofList (Report.render palette metadata)

end ScriptMetadata
