import ScriptMetadata.Proofs.Denotation

/-!
Which images denote a module, told from their entries alone: every range stays inside the next
section, every position inside the string table, and no two tables have one name.
-/

set_option autoImplicit false

namespace ScriptMetadata.Container

namespace EntryRange

def Covers (range : EntryRange) (index : Nat) : Prop :=
  range.first.toNat ≤ index ∧ index < range.first.toNat + range.count.toNat

theorem mem_range'_iff_covers {range : EntryRange} {index : Nat} :
    index ∈ List.range' range.first.toNat range.count.toNat ↔ range.Covers index :=
  List.mem_range'_1

theorem lt_of_mem_range' {range : EntryRange} {limit index : Nat} (accepted : range.stop ≤ limit)
    (member : index ∈ List.range' range.first.toNat range.count.toNat) : index < limit :=
  Nat.lt_of_lt_of_le (mem_range'_iff_covers.1 member).2 accepted

end EntryRange

namespace Image

section Conditions

variable (image : Image)

/-- The last bound only ends the last string. -/
def stringCount : Nat := image.bounds.length - 1

/-- Two bounds in order set off well-formed UTF-8 inside the blob. -/
def TextValid (id : Nat) : Prop :=
  ∃ start stop, image.bounds[id]? = some start ∧ image.bounds[id + 1]? = some stop ∧
    start ≤ stop ∧ stop.toNat ≤ image.blob.size ∧
      (image.blob.extract start.toNat stop.toNat).IsValidUTF8

/-- An integer is any payload; a text is the position of a string, in all of its 64 bits. -/
def OperandValid (cell : OperandEntry) : Prop :=
  cell.tag = 1 ∨ cell.tag = 0 ∧ cell.payload.toNat < image.stringCount

structure RowValid (range : EntryRange) : Prop where
  inside : range.first.toNat + range.count.toNat ≤ image.operands.size
  operands : ∀ index cell, range.Covers index → image.operands[index]? = some cell →
    image.OperandValid cell

structure TableValid (entry : TableEntry) : Prop where
  name : entry.name.toNat < image.stringCount
  inside : entry.rows.first.toNat + entry.rows.count.toNat ≤ image.nodes.size
  rows : ∀ node range, entry.rows.Covers node → image.nodes[node]? = some range →
    image.RowValid range

/-- Names are compared as texts: the same name at two positions is still one name. -/
def NamesDistinct : Prop :=
  image.tables.Pairwise fun first second =>
    ∀ name, image.HasText first.name.toNat name → ¬image.HasText second.name.toNat name

structure WellFormed : Prop where
  texts : ∀ id, id < image.stringCount → image.TextValid id
  tables : ∀ entry ∈ image.tables, image.TableValid entry
  names : image.NamesDistinct

end Conditions

variable {image : Image}

theorem textValid_iff_exists {id : Nat} : image.TextValid id ↔ ∃ value, image.HasText id value := by
  constructor
  · intro accepted
    rcases accepted with ⟨start, stop, started, stopped, ordered, inside, valid⟩
    exact ⟨⟨_, valid⟩, start, stop, started, stopped, ordered, inside, rfl⟩
  · intro found
    rcases found with ⟨value, start, stop, started, stopped, ordered, inside, text⟩
    exact ⟨start, stop, started, stopped, ordered, inside, text ▸ value.isValidUTF8⟩

theorem textsValid_iff : image.TextsValid ↔ ∀ id, id < image.stringCount → image.TextValid id := by
  apply forall_congr'
  intro id
  rw [textValid_iff_exists, stringCount, Nat.lt_sub_iff_add_lt]

theorem below_of_hasText {id : Nat} {value : String} (text : image.HasText id value) :
    id < image.stringCount := by
  obtain ⟨_, _, _, stopped, _⟩ := text
  exact Nat.lt_sub_iff_add_lt.2 (List.getElem?_eq_some_iff.1 stopped).1

section Texts

variable (texts : image.TextsValid)

include texts

theorem exists_hasText_iff {id : Nat} :
    (∃ value, image.HasText id value) ↔ id < image.stringCount := by
  constructor
  · intro found
    rcases found with ⟨value, text⟩
    exact below_of_hasText text
  · intro below
    exact textValid_iff_exists.1 (textsValid_iff.1 texts id below)

theorem exists_operand_iff {index : Nat} {cell : OperandEntry}
    (stored : image.operands[index]? = some cell) :
    (∃ operand, image.HasOperand index operand) ↔ image.OperandValid cell := by
  simp only [hasOperand_iff stored]
  constructor
  · intro resolved
    rcases resolved with ⟨operand, ⟨isText, value, -, found⟩ | ⟨isInteger, -⟩⟩
    · exact .inr ⟨isText, below_of_hasText found⟩
    · exact .inl isInteger
  · intro valid
    rcases valid with isInteger | ⟨isText, below⟩
    · exact ⟨_, .inr ⟨isInteger, rfl⟩⟩
    · obtain ⟨value, found⟩ := (exists_hasText_iff texts).2 below
      exact ⟨_, .inl ⟨isText, value, rfl, found⟩⟩

theorem exists_row_iff {node : Nat} {range : EntryRange}
    (stored : image.nodes[node]? = some range) :
    (∃ row, image.HasRow node row) ↔ image.RowValid range := by
  constructor
  · intro described
    rcases described with ⟨row, range', stored', inside, cells⟩
    cases Option.some.inj (stored.symm.trans stored')
    refine ⟨inside, ?_⟩
    intro index cell covered found
    have operand := Outcome.exists_forall₂_iff.1 ⟨row, cells⟩ index
      (EntryRange.mem_range'_iff_covers.2 covered)
    exact (exists_operand_iff texts found).1 operand
  · intro valid
    rcases valid with ⟨inside, operands⟩
    have cells : ∀ index ∈ List.range' range.first.toNat range.count.toNat,
        ∃ operand, image.HasOperand index operand := by
      intro index member
      have covered := EntryRange.mem_range'_iff_covers.1 member
      have found := Array.getElem?_eq_getElem (Nat.lt_of_lt_of_le covered.2 inside)
      exact (exists_operand_iff texts found).2 (operands index _ covered found)
    obtain ⟨row, related⟩ := Outcome.exists_forall₂_iff.2 cells
    exact ⟨row, range, stored, inside, related⟩

theorem exists_table_iff {entry : TableEntry} :
    (∃ table, image.HasTable entry table) ↔ image.TableValid entry := by
  constructor
  · intro denoted
    rcases denoted with ⟨table, named, inside, described⟩
    refine ⟨below_of_hasText named, inside, ?_⟩
    intro node range covered found
    have row := Outcome.exists_forall₂_iff.1 ⟨table.rows, described⟩ node
      (EntryRange.mem_range'_iff_covers.2 covered)
    exact (exists_row_iff texts found).1 row
  · intro valid
    rcases valid with ⟨name, inside, nodes⟩
    have rows : ∀ node ∈ List.range' entry.rows.first.toNat entry.rows.count.toNat,
        ∃ row, image.HasRow node row := by
      intro node member
      have covered := EntryRange.mem_range'_iff_covers.1 member
      have found := Array.getElem?_eq_getElem (Nat.lt_of_lt_of_le covered.2 inside)
      exact (exists_row_iff texts found).2 (nodes node _ covered found)
    obtain ⟨value, named⟩ := (exists_hasText_iff texts).2 name
    obtain ⟨described, related⟩ := Outcome.exists_forall₂_iff.2 rows
    exact ⟨⟨value, described⟩, named, inside, related⟩

end Texts

/-- Tables that entries describe have different names exactly when the entries do. -/
theorem nodup_iff_namesDistinct {entries : List TableEntry} {tables : List Table}
    (described : List.Forall₂ image.HasTable entries tables) :
    (tables.map Table.name).Nodup ↔
      entries.Pairwise fun first second =>
        ∀ name, image.HasText first.name.toNat name → ¬image.HasText second.name.toNat name := by
  induction described with
  | nil => exact iff_of_true List.nodup_nil .nil
  | @cons entry table entries tables first rest induction =>
      rw [List.map_cons, List.nodup_cons, List.pairwise_cons, induction]
      apply and_congr_left
      intro _
      constructor
      · intro fresh other member name named repeated
        obtain ⟨table', listed, found⟩ := Outcome.exists_related_of_mem rest member
        have same := hasText_unique found.1 repeated
        have own := hasText_unique first.1 named
        exact fresh (List.mem_map.2 ⟨table', listed, same.trans own.symm⟩)
      · intro fresh member
        obtain ⟨table', listed, same⟩ := List.mem_map.1 member
        obtain ⟨other, found, described⟩ := Outcome.exists_related_of_mem rest.flip listed
        exact fresh other found table.name first.1 (same ▸ described.1)

theorem wellFormed_iff : image.WellFormed ↔ image.TextsValid ∧ ∃ module, image.Denotes module := by
  constructor
  · intro accepted
    rcases accepted with ⟨texts, tables, names⟩
    have valid := textsValid_iff.2 texts
    have each : ∀ entry ∈ image.tables, ∃ table, image.HasTable entry table :=
      fun entry member => (exists_table_iff valid).2 (tables entry member)
    obtain ⟨described, related⟩ := Outcome.exists_forall₂_iff.2 each
    exact ⟨valid, ⟨described, (nodup_iff_namesDistinct related).2 names⟩, related⟩
  · intro denoted
    rcases denoted with ⟨valid, module, related⟩
    have each := Outcome.exists_forall₂_iff.1 ⟨module.tables, related⟩
    exact ⟨textsValid_iff.1 valid,
      fun entry member => (exists_table_iff valid).1 (each entry member),
      (nodup_iff_namesDistinct related).1 module.names_nodup⟩

end Image

end ScriptMetadata.Container
