import ScriptMetadata.Container.Resolution
import ScriptMetadata.Proofs.Outcome

/-!
What an image says, as a relation between its positions and the texts, operands, rows and tables
that they stand for. Resolving an image computes exactly this relation.
-/

set_option autoImplicit false

namespace ScriptMetadata

theorem fromUTF8?_eq_some_iff {encoded : ByteArray} {value : String} :
    String.fromUTF8? encoded = some value ↔ encoded = value.toUTF8 := by
  unfold String.fromUTF8?
  constructor
  · intro decoded
    split at decoded
    · cases decoded
      rfl
    · contradiction
  · rintro rfl
    exact dif_pos value.isValidUTF8

namespace Container

namespace Image

variable (image : Image)

/-- The string table sets off this text at a position. -/
def HasText (id : Nat) (value : String) : Prop :=
  ∃ start stop, image.bounds[id]? = some start ∧ image.bounds[id + 1]? = some stop ∧
    start ≤ stop ∧ stop.toNat ≤ image.blob.size ∧
      image.blob.extract start.toNat stop.toNat = value.toUTF8

inductive HasOperand (index : Nat) : Operand → Prop where
  | text {id : UInt64} {value : String} (stored : image.operands[index]? = some ⟨0, id⟩)
      (found : image.HasText id.toNat value) : HasOperand index (.text value)
  | integer {value : UInt64} (stored : image.operands[index]? = some ⟨1, value⟩) :
      HasOperand index (.integer value)

/-- The operands of a row stand next to each other, all inside the operand section. -/
def HasRow (node : Nat) (row : Row) : Prop :=
  ∃ range, image.nodes[node]? = some range ∧ range.stop ≤ image.operands.size ∧
    List.Forall₂ image.HasOperand (List.range' range.first.toNat range.count.toNat) row

/-- The rows of a table stand next to each other, all inside the node section. -/
def HasTable (entry : TableEntry) (table : Table) : Prop :=
  image.HasText entry.name.toNat table.name ∧ entry.rows.stop ≤ image.nodes.size ∧
    List.Forall₂ image.HasRow (List.range' entry.rows.first.toNat entry.rows.count.toNat)
      table.rows

def Denotes (module : Module) : Prop := List.Forall₂ image.HasTable image.tables module.tables

/-- Every position of the string table has a text, whether it is referred to or not. -/
def TextsValid : Prop := ∀ id, id + 1 < image.bounds.length → ∃ value, image.HasText id value

/-- Positions of nodes and operands are 32-bit words. -/
def Addressable : Prop := image.nodes.size < UInt32.size ∧ image.operands.size < UInt32.size

end Image

namespace Image

variable {image : Image} {strings : List String}

theorem lift_ok_bind {Value Result : Type} (value : Value)
    (next : Value → Except LoadError Result) :
    (liftM (Except.ok value : Except Fault Value) >>= next : Except LoadError Result) =
      next value := rfl

theorem stringBetween_eq_ok_iff {index : Nat} {start stop : UInt32} {value : String} :
    image.stringBetween index start stop = .ok value ↔
      start ≤ stop ∧ stop.toNat ≤ image.blob.size ∧
        image.blob.extract start.toNat stop.toNat = value.toUTF8 := by
  unfold stringBetween
  split
  · rename_i ordered
    have forward : start.toNat ≤ stop.toNat := ordered.1
    have whole : start.toNat + (stop.toNat - start.toNat) = stop.toNat := by omega
    rw [Checked.slice_eq_ok (by omega), whole, lift_ok_bind, ← fromUTF8?_eq_some_iff]
    split
    · rename_i decoded
      simp [ordered, decoded]
    · rename_i failed
      simp [failed]
  · rename_i disordered
    constructor
    · intro answered
      contradiction
    · intro valid
      rcases valid with ⟨forward, inside, -⟩
      exact absurd ⟨forward, inside⟩ disordered

theorem hasText_unique {id : Nat} {first second : String} (one : image.HasText id first)
    (other : image.HasText id second) : first = second := by
  obtain ⟨start, stop, started, stopped, -, -, text⟩ := one
  obtain ⟨start', stop', started', stopped', -, -, text'⟩ := other
  rw [started] at started'
  rw [stopped] at stopped'
  cases started'
  cases stopped'
  exact String.toByteArray_inj.1 (text.symm.trans text')

theorem getElem?_boundPairs {bounds : List UInt32} {id index : Nat} {start stop : UInt32} :
    (bounds.zip bounds.tail).zipIdx[id]? = some ((start, stop), index) ↔
      bounds[id]? = some start ∧ bounds[id + 1]? = some stop ∧ id = index := by
  rw [List.getElem?_zipIdx, Option.map_eq_some_iff, Nat.zero_add]
  constructor
  · intro listed
    rcases listed with ⟨pair, found, same⟩
    cases same
    obtain ⟨started, stopped⟩ := List.getElem?_zip_eq_some.1 found
    exact ⟨started, by rwa [List.getElem?_tail] at stopped, rfl⟩
  · intro paired
    rcases paired with ⟨started, stopped, rfl⟩
    refine ⟨(start, stop), List.getElem?_zip_eq_some.2 ⟨started, ?_⟩, rfl⟩
    rwa [List.getElem?_tail]

theorem strings_eq_ok_iff :
    image.strings = .ok strings ↔
      strings.length = image.bounds.length - 1 ∧
        ∀ id value, strings[id]? = some value → image.HasText id value := by
  rw [Image.strings, Outcome.mapM_eq_ok_iff, Outcome.forall₂_iff_getElem?]
  have length : (image.bounds.zip image.bounds.tail).zipIdx.length = image.bounds.length - 1 := by
    simp
  rw [length]
  constructor
  · intro pairwise
    rcases pairwise with ⟨lengths, steps⟩
    refine ⟨lengths.symm, ?_⟩
    intro id value found
    have below : id < image.bounds.length - 1 :=
      lengths ▸ (List.getElem?_eq_some_iff.1 found).1
    have started : image.bounds[id]? = some image.bounds[id] :=
      List.getElem?_eq_getElem (by omega)
    have stopped : image.bounds[id + 1]? = some image.bounds[id + 1] :=
      List.getElem?_eq_getElem (by omega)
    have step := steps id _ value (getElem?_boundPairs.2 ⟨started, stopped, rfl⟩) found
    exact ⟨_, _, started, stopped, stringBetween_eq_ok_iff.1 step⟩
  · intro described
    rcases described with ⟨lengths, texts⟩
    refine ⟨lengths.symm, ?_⟩
    rintro id ⟨⟨start, stop⟩, index⟩ value paired found
    obtain ⟨started, stopped, rfl⟩ := getElem?_boundPairs.1 paired
    obtain ⟨start', stop', started', stopped', text⟩ := texts id value found
    rw [started] at started'
    rw [stopped] at stopped'
    cases started'
    cases stopped'
    exact stringBetween_eq_ok_iff.2 text

theorem exists_strings_iff : (∃ strings, image.strings = .ok strings) ↔ image.TextsValid := by
  constructor
  · rintro ⟨strings, decoded⟩ id below
    obtain ⟨length, texts⟩ := strings_eq_ok_iff.1 decoded
    have bound : id < strings.length := by omega
    exact ⟨_, texts id _ (List.getElem?_eq_getElem bound)⟩
  · intro valid
    apply Outcome.exists_mapM_eq_ok_iff.2
    rintro ⟨⟨start, stop⟩, index⟩ member
    obtain ⟨id, paired⟩ := List.mem_iff_getElem?.1 member
    obtain ⟨started, stopped, rfl⟩ := getElem?_boundPairs.1 paired
    obtain ⟨value, start', stop', started', stopped', text⟩ :=
      valid id (List.getElem?_eq_some_iff.1 stopped).1
    rw [started] at started'
    rw [stopped] at stopped'
    cases started'
    cases stopped'
    exact ⟨value, stringBetween_eq_ok_iff.2 text⟩

theorem hasOperand_iff {index : Nat} {entry : OperandEntry} {operand : Operand}
    (stored : image.operands[index]? = some entry) :
    image.HasOperand index operand ↔
      (entry.tag = 0 ∧ ∃ value, operand = .text value ∧ image.HasText entry.payload.toNat value) ∨
        (entry.tag = 1 ∧ operand = .integer entry.payload) := by
  constructor
  · intro cell
    rcases cell with ⟨stored', found⟩ | stored'
    · cases Option.some.inj (stored.symm.trans stored')
      exact .inl ⟨rfl, _, rfl, found⟩
    · cases Option.some.inj (stored.symm.trans stored')
      exact .inr ⟨rfl, rfl⟩
  · obtain ⟨tag, payload⟩ := entry
    intro resolved
    rcases resolved with ⟨rfl, value, rfl, found⟩ | ⟨rfl, rfl⟩
    · exact .text stored found
    · exact .integer stored

theorem element_eq_ok_iff {α : Type} {values : Array α} {index : Nat} {value : α} :
    (liftM (Checked.element values index) : Except LoadError α) = .ok value ↔
      values[index]? = some value := by
  rw [Checked.element]
  cases values[index]? with
  | none =>
      constructor
      · intro answered
        contradiction
      · intro found
        contradiction
  | some stored =>
      rw [Option.some.injEq]
      exact Except.ok.injEq stored value ▸ Iff.rfl

theorem positions_bind {Result : Type} {range : EntryRange} (fits : range.stop < UInt32.size)
    (next : List Nat → Except LoadError Result) :
    (liftM range.positions >>= next : Except LoadError Result) =
      next (List.range' range.first.toNat range.count.toNat) := by
  rw [EntryRange.positions_eq_ok fits, lift_ok_bind]

section Resolved

variable (decoded : image.strings = .ok strings)

include decoded

theorem getElem?_strings_iff {id : Nat} {value : String} :
    strings[id]? = some value ↔ image.HasText id value := by
  obtain ⟨length, texts⟩ := strings_eq_ok_iff.1 decoded
  constructor
  · exact texts id value
  · intro text
    have ⟨_, _, _, stopped, _⟩ := text
    have below := (List.getElem?_eq_some_iff.1 stopped).1
    have found : strings[id]? = some strings[id] := List.getElem?_eq_getElem (by omega)
    rw [found, hasText_unique (texts id _ found) text]

theorem stringAt_eq_ok_iff {id : UInt64} {value : String} :
    stringAt strings.toArray id = .ok value ↔ image.HasText id.toNat value := by
  rw [← getElem?_strings_iff decoded, stringAt, List.getElem?_toArray]
  cases strings[id.toNat]? <;> simp

theorem operand_eq_ok_iff {index : Nat} {entry : OperandEntry} {operand : Operand}
    (stored : image.operands[index]? = some entry) :
    entry.resolve strings.toArray index = .ok operand ↔ image.HasOperand index operand := by
  rw [hasOperand_iff stored, OperandEntry.resolve]
  by_cases isText : entry.tag = 0
  · rw [if_pos (show entry.tag = textTag from isText), Outcome.bind_eq_ok_iff]
    constructor
    · intro answered
      rcases answered with ⟨value, found, same⟩
      cases same
      exact .inl ⟨isText, value, rfl, (stringAt_eq_ok_iff decoded).1 found⟩
    · intro cell
      rcases cell with ⟨-, value, rfl, found⟩ | ⟨isInteger, -⟩
      · exact ⟨value, (stringAt_eq_ok_iff decoded).2 found, rfl⟩
      · exact absurd (isText.symm.trans isInteger) (by decide)
  · rw [if_neg (show ¬entry.tag = textTag from isText)]
    by_cases isInteger : entry.tag = 1
    · rw [if_pos (show entry.tag = integerTag from isInteger)]
      simp [isInteger, eq_comm]
    · rw [if_neg (show ¬entry.tag = integerTag from isInteger)]
      simp [isText, isInteger]

theorem cell_eq_ok_iff {index : Nat} {operand : Operand} :
    (liftM (Checked.element image.operands index) >>= fun entry =>
        entry.resolve strings.toArray index : Except LoadError Operand) = .ok operand ↔
      image.HasOperand index operand := by
  rw [Outcome.bind_eq_ok_iff]
  constructor
  · intro answered
    rcases answered with ⟨entry, located, resolved⟩
    exact (operand_eq_ok_iff decoded (element_eq_ok_iff.1 located)).1 resolved
  · intro cell
    obtain ⟨entry, stored⟩ : ∃ entry, image.operands[index]? = some entry := by
      cases cell with
      | text stored _ => exact ⟨_, stored⟩
      | integer stored => exact ⟨_, stored⟩
    exact ⟨entry, element_eq_ok_iff.2 stored, (operand_eq_ok_iff decoded stored).2 cell⟩

variable (addressable : image.Addressable)

include addressable

theorem row_eq_ok_iff {node : Nat} {row : Row} :
    image.row strings.toArray node = .ok row ↔ image.HasRow node row := by
  rw [Image.row, Outcome.bind_eq_ok_iff]
  apply exists_congr
  intro range
  rw [element_eq_ok_iff]
  apply and_congr_right
  intro stored
  split
  · rename_i inside
    rw [positions_bind (Nat.lt_of_le_of_lt inside addressable.2), Outcome.mapM_eq_ok_iff]
    simp only [cell_eq_ok_iff decoded, inside, true_and]
  · rename_i outside
    simp only [outside, false_and, reduceCtorEq]

theorem rows_eq_ok_iff {Result : Type} {range : EntryRange} {result : Result}
    (inside : range.stop ≤ image.nodes.size) {next : List Row → Except LoadError Result} :
    (do
      let positions ← range.positions
      let rows ← positions.mapM (image.row strings.toArray)
      next rows : Except LoadError Result) = .ok result ↔
      ∃ rows, List.Forall₂ image.HasRow (List.range' range.first.toNat range.count.toNat) rows ∧
        next rows = .ok result := by
  rw [positions_bind (Nat.lt_of_le_of_lt inside addressable.1), Outcome.bind_eq_ok_iff]
  simp only [Outcome.mapM_eq_ok_iff, row_eq_ok_iff decoded addressable]

/-- One step of the loader adds one table behind the others, under a name that none of them has. -/
theorem addTable_eq_ok_iff {module result : Module} {entry : TableEntry} :
    image.addTable strings.toArray module entry = .ok result ↔
      ∃ table, image.HasTable entry table ∧ result.tables = module.tables ++ [table] := by
  rw [Image.addTable, Outcome.bind_eq_ok_iff]
  constructor
  · intro loaded
    rcases loaded with ⟨name, named, answered⟩
    have text := (stringAt_eq_ok_iff decoded).1 named
    rw [UInt32.toNat_toUInt64] at text
    split at answered
    · contradiction
    · rename_i fresh
      split at answered
      · rename_i inside
        obtain ⟨rows, described, same⟩ := (rows_eq_ok_iff decoded addressable inside).1 answered
        cases same
        refine ⟨⟨name, rows⟩, ⟨text, inside, described⟩, ?_⟩
        exact Module.tables_append_of_not_mem (fun member => fresh (Module.contains_iff.2 member)) _
      · contradiction
  · intro extended
    rcases extended with ⟨⟨name, rows⟩, ⟨text, inside, described⟩, added⟩
    rw [← UInt32.toNat_toUInt64] at text
    have absent : name ∉ module.names := by
      have distinct := result.names_nodup
      rw [added, List.map_append, List.nodup_append] at distinct
      exact fun member => distinct.2.2 name member name List.mem_cons_self rfl
    refine ⟨name, (stringAt_eq_ok_iff decoded).2 text, ?_⟩
    rw [if_neg (fun present => absent (Module.contains_iff.1 present)), if_pos inside]
    refine (rows_eq_ok_iff decoded addressable inside).2 ⟨rows, described, ?_⟩
    apply congrArg Except.ok
    apply Module.eq_of_tables_eq
    rw [added, Module.tables_append_of_not_mem absent]

theorem addTables_eq_ok_iff {entries : List TableEntry} {module result : Module} :
    entries.foldlM (image.addTable strings.toArray) module = .ok result ↔
      ∃ tables, result.tables = module.tables ++ tables ∧
        List.Forall₂ image.HasTable entries tables := by
  induction entries generalizing module with
  | nil =>
      constructor
      · intro answered
        cases answered
        exact ⟨[], (List.append_nil _).symm, .nil⟩
      · intro extended
        rcases extended with ⟨tables, same, described⟩
        cases described
        rw [List.append_nil] at same
        exact congrArg Except.ok (Module.eq_of_tables_eq same).symm
  | cons entry rest induction =>
      rw [List.foldlM_cons, Outcome.bind_eq_ok_iff]
      constructor
      · intro loaded
        rcases loaded with ⟨next, first, answered⟩
        obtain ⟨table, described, added⟩ := (addTable_eq_ok_iff decoded addressable).1 first
        obtain ⟨tables, same, others⟩ := induction.1 answered
        rw [added, List.append_assoc] at same
        exact ⟨table :: tables, same, .cons described others⟩
      · intro extended
        rcases extended with ⟨tables, same, described⟩
        obtain ⟨table, others, first, remaining, rfl⟩ := List.forall₂_cons_left_iff.1 described
        rw [List.append_cons] at same
        have distinct : ((module.tables ++ [table]).map Table.name).Nodup := by
          have all := result.names_nodup
          rw [same, List.map_append] at all
          exact (List.nodup_append.1 all).1
        exact ⟨⟨module.tables ++ [table], distinct⟩,
          (addTable_eq_ok_iff decoded addressable).2 ⟨table, first, rfl⟩,
          induction.2 ⟨others, same, remaining⟩⟩

end Resolved

/-- Resolving answers with the module that the image denotes, provided that all texts are valid. -/
theorem resolve_eq_ok_iff (addressable : image.Addressable) {module : Module} :
    image.resolve = .ok module ↔ image.TextsValid ∧ image.Denotes module := by
  rw [resolve, Outcome.bind_eq_ok_iff, ← exists_strings_iff, ← exists_and_right]
  apply exists_congr
  intro strings
  apply and_congr_right
  intro decoded
  rw [addTables_eq_ok_iff decoded addressable]
  constructor
  · intro resolved
    rcases resolved with ⟨tables, same, described⟩
    cases same
    exact described
  · intro described
    exact ⟨module.tables, rfl, described⟩

end Image

end Container

end ScriptMetadata
