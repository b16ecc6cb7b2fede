import Mathlib.Data.Finset.Card
import ScriptMetadata.Proofs.DraftWriting
import ScriptMetadata.Proofs.HeaderDamage

/-!
The strings of an emitted file are the distinct strings of the module, in the order of first use.
The string table sets off their texts without gaps, and names and texts are stored as positions of
exactly these strings.
-/

set_option autoImplicit false

namespace ScriptMetadata.Container

open LittleEndian

/-! ### Distinct strings in the order of first use -/

/-- The strings are those used, each once, in the order in which they are used first. -/
structure FirstUses (uses strings : List String) : Prop where
  nodup : strings.Nodup
  mem_iff : ∀ value, value ∈ strings ↔ value ∈ uses
  ordered : strings.Pairwise fun first second => uses.idxOf first < uses.idxOf second

namespace FirstUses

variable {uses strings : List String} (firstUses : FirstUses uses strings)

include firstUses

/-- Another use of a string that is there does not change the strings. -/
theorem use_again {value : String} (used : value ∈ uses) :
    FirstUses (uses ++ [value]) strings where
  nodup := firstUses.nodup
  mem_iff other := by
    rw [firstUses.mem_iff, List.mem_append, List.mem_singleton]
    constructor
    · exact Or.inl
    · rintro (member | rfl)
      · exact member
      · exact used
  ordered := by
    apply firstUses.ordered.imp_of_mem
    intro first second member member' before
    rw [List.idxOf_append_of_mem ((firstUses.mem_iff first).1 member),
      List.idxOf_append_of_mem ((firstUses.mem_iff second).1 member')]
    exact before

/-- A string that is used for the first time comes behind all others. -/
theorem use_first {value : String} (fresh : value ∉ uses) :
    FirstUses (uses ++ [value]) (strings ++ [value]) where
  nodup := by
    rw [← List.concat_eq_append]
    exact firstUses.nodup.concat fun member => fresh ((firstUses.mem_iff value).1 member)
  mem_iff other := by
    rw [List.mem_append, List.mem_append, firstUses.mem_iff]
  ordered := by
    have first_place {old : String} (member : old ∈ strings) :
        (uses ++ [value]).idxOf old = uses.idxOf old :=
      List.idxOf_append_of_mem ((firstUses.mem_iff old).1 member)
    rw [List.pairwise_append]
    refine ⟨?_, List.pairwise_singleton _ value, ?_⟩
    · apply firstUses.ordered.imp_of_mem
      intro first second member member' before
      rwa [first_place member, first_place member']
    · intro old member added single
      rw [List.mem_singleton.1 single, first_place member, List.idxOf_append_of_notMem fresh]
      have below := List.idxOf_lt_length_of_mem ((firstUses.mem_iff old).1 member)
      omega

theorem length_eq_card : strings.length = uses.toFinset.card := by
  rw [← List.toFinset_card_of_nodup firstUses.nodup]
  congr 1
  ext value
  rw [List.mem_toFinset, List.mem_toFinset, firstUses.mem_iff]

end FirstUses

theorem firstUses_eraseDups (uses : List String) : FirstUses uses uses.eraseDups := by
  -- from the end, as the uses come in: the last one is either known or new
  induction uses using List.reverseRecOn with
  | nil => exact ⟨List.nodup_nil, fun _ => Iff.rfl, List.Pairwise.nil⟩
  | append_singleton uses value induction =>
      rw [eraseDups_append_singleton]
      split
      · rename_i used
        exact induction.use_again used
      · rename_i fresh
        exact induction.use_first fresh

/-! ### Bounds -/

theorem le_of_mem_boundsFrom {start : Nat} {sizes : List Nat}
    (fits : start + sizes.sum < UInt32.size) {bound : UInt32}
    (member : bound ∈ boundsFrom start sizes) : UInt32.ofNat start ≤ bound := by
  induction sizes generalizing start with
  | nil => exact (List.mem_singleton.1 member) ▸ UInt32.le_refl _
  | cons size rest induction =>
      rw [List.sum_cons] at fits
      rcases List.mem_cons.1 member with rfl | later
      · exact UInt32.le_refl _
      · refine UInt32.le_trans ?_ (induction (by omega) later)
        rw [UInt32.le_iff_toNat_le, UInt32.toNat_ofNat_of_lt' (by omega),
          UInt32.toNat_ofNat_of_lt' (by omega)]
        exact Nat.le_add_right start size

theorem pairwise_boundsFrom {start : Nat} {sizes : List Nat}
    (fits : start + sizes.sum < UInt32.size) :
    (boundsFrom start sizes).Pairwise (· ≤ ·) := by
  induction sizes generalizing start with
  | nil => exact List.pairwise_singleton _ _
  | cons size rest induction =>
      have later : start + size + rest.sum < UInt32.size := by
        rwa [List.sum_cons, ← Nat.add_assoc] at fits
      refine List.pairwise_cons.2 ⟨?_, induction later⟩
      intro bound member
      exact le_of_mem_boundsFrom fits (List.mem_cons_of_mem _ member)

theorem getLast?_boundsFrom (start : Nat) (sizes : List Nat) :
    (boundsFrom start sizes).getLast? = some (UInt32.ofNat (start + sizes.sum)) := by
  rw [List.getLast?_eq_getElem?, length_boundsFrom, Nat.add_sub_cancel,
    getElem?_boundsFrom start sizes sizes.length (Nat.le_refl _), List.take_length]

theorem head?_boundsFrom (start : Nat) (sizes : List Nat) :
    (boundsFrom start sizes).head? = some (UInt32.ofNat start) := by
  cases sizes <;> rfl

/-- The bounds start at 0, never decrease and end at the size of the blob, and two that follow each
other set off one of the strings. -/
structure SetsOff (image : Image) (blobSize : UInt32) (strings : List String) : Prop where
  length : image.bounds.length = strings.length + 1
  first : image.bounds.head? = some 0
  ascending : image.bounds.Pairwise (· ≤ ·)
  last : image.bounds.getLast? = some blobSize
  texts : ∀ id value, strings[id]? = some value → image.HasText id value

/-! ### References -/

/-- The entry stores the operand, a text by its position among the strings. -/
inductive Stores (strings : List String) : OperandEntry → Operand → Prop
  | text {id : UInt64} {value : String} (found : strings[id.toNat]? = some value) :
      Stores strings ⟨textTag, id⟩ (.text value)
  | integer (value : UInt64) : Stores strings ⟨integerTag, value⟩ (.integer value)

/-- Where the module has this string, as a name or as a text, the image has this number. -/
inductive Refers (image : Image) (module : Module) : UInt64 → String → Prop
  | name {index : Nat} {entry : TableEntry} {table : Table}
      (stored : image.tables[index]? = some entry) (declared : module.tables[index]? = some table) :
      Refers image module entry.name.toUInt64 table.name
  | text {index : Nat} {entry : OperandEntry} {value : String}
      (stored : image.operands.toList[index]? = some entry)
      (cell : module.rows.flatten[index]? = some (.text value)) :
      Refers image module entry.payload value

theorem getElem?_stringId {strings : List String} (counted : strings.length < UInt32.size)
    {value : String} (used : value ∈ strings) :
    strings[(stringId strings value).toNat]? = some value := by
  have below := List.idxOf_lt_length_of_mem used
  rw [stringId, UInt32.toNat_ofNat_of_lt' (Nat.lt_trans below counted),
    List.getElem?_eq_getElem below, List.getElem_idxOf]

theorem eq_of_getElem?_eq {strings : List String} (distinct : strings.Nodup) {first second : Nat}
    {value : String} (one : strings[first]? = some value) (other : strings[second]? = some value) :
    first = second := by
  have below := (List.getElem?_eq_some_iff.1 one).1
  exact (List.getElem?_inj below distinct).1 (one.trans other.symm)

/-- The map and the list of a pool say the same, as long as the positions fit a word. -/
theorem StringPool.ids_eq_some_iff {pool : StringPool}
    (counted : pool.strings.toList.length < UInt32.size) (value : String) (id : UInt32) :
    pool.ids[value]? = some id ↔ pool.strings.toList[id.toNat]? = some value := by
  rw [pool.located]
  constructor
  · intro known
    split at known
    · rename_i used
      exact Option.some.inj known ▸ getElem?_stringId counted used
    · contradiction
  · intro found
    have used := List.mem_of_getElem? found
    have same := eq_of_getElem?_eq pool.distinct (getElem?_stringId counted used) found
    rw [if_pos used, UInt32.toNat_inj.1 same]

namespace Image

variable {module : Module} (fits : (ofModule module).Fits)

include fits

theorem length_strings_lt : module.strings.length < UInt32.size := by
  have counted := fits.strings
  rwa [ofModule, length_boundsFrom, List.length_map, Nat.add_sub_cancel] at counted

theorem strings_ofModule : (ofModule module).strings = .ok module.strings := by
  rw [strings_eq_ok_iff]
  constructor
  · rw [ofModule, length_boundsFrom, List.length_map, Nat.add_sub_cancel]
  · intro id value found
    exact hasText_of_getElem? fits.blob found

theorem setsOff_ofModule :
    SetsOff (ofModule module) (ofModule module).header.blobSize module.strings := by
  have sizes : 0 + (module.strings.map String.utf8ByteSize).sum < UInt32.size := by
    rw [Nat.zero_add, ← size_blob]
    exact fits.blob
  constructor
  · rw [ofModule, length_boundsFrom, List.length_map]
  · exact head?_boundsFrom 0 _
  · exact pairwise_boundsFrom sizes
  · rw [ofModule, getLast?_boundsFrom, Nat.zero_add, ← size_blob]
    rfl
  · intro id value found
    exact hasText_of_getElem? fits.blob found

theorem names_ofModule :
    List.Forall₂ (fun entry table => module.strings[entry.name.toNat]? = some table.name)
      (ofModule module).tables module.tables := by
  have lengths : module.tables.length ≤ (EntryRange.consecutive 0
      (module.tables.map fun table => table.rows.length)).length := by
    rw [EntryRange.length_consecutive, List.length_map]
  rw [ofModule, List.forall₂_map_left_iff]
  conv => rhs; rw [← List.map_fst_zip lengths]
  rw [List.forall₂_map_right_iff, List.forall₂_same]
  rintro ⟨table, rows⟩ member
  exact getElem?_stringId (length_strings_lt fits) (name_mem_strings (List.of_mem_zip member).1)

theorem operands_ofModule :
    List.Forall₂ (Stores module.strings) (ofModule module).operands.toList module.rows.flatten := by
  rw [ofModule, List.forall₂_map_left_iff, List.forall₂_same]
  intro operand member
  cases operand with
  | text value =>
      refine .text ?_
      rw [UInt32.toNat_toUInt64]
      exact getElem?_stringId (length_strings_lt fits) (text_mem_strings member)
  | integer value => exact .integer value

/-- Every reference, from a name or from a text, is the position of its string. -/
theorem getElem?_of_refers {id : UInt64} {value : String}
    (refers : Refers (ofModule module) module id value) :
    module.strings[id.toNat]? = some value := by
  cases refers with
  | name stored declared =>
      rw [UInt32.toNat_toUInt64]
      exact (Outcome.forall₂_iff_getElem?.1 (names_ofModule fits)).2 _ _ _ stored declared
  | text stored cell =>
      have stores := (Outcome.forall₂_iff_getElem?.1 (operands_ofModule fits)).2 _ _ _ stored cell
      cases stores with
      | text found => exact found

theorem refers_eq_iff {id other : UInt64} {value value' : String}
    (refers : Refers (ofModule module) module id value)
    (refers' : Refers (ofModule module) module other value') : id = other ↔ value = value' := by
  have found := getElem?_of_refers fits refers
  have found' := getElem?_of_refers fits refers'
  constructor
  · rintro rfl
    exact Option.some.inj (found.symm.trans found')
  · rintro rfl
    exact UInt64.toNat_inj.1 (eq_of_getElem?_eq (nodup_eraseDups _) found found')

end Image

/-! ### The emitted file -/

/-- What is read back from the file of a module has its strings interned. -/
structure Interned (module : Module) (header : Header) (image : Image) (strings : List String) :
    Prop where
  firstUses : FirstUses (module.tables.flatMap Table.strings) strings
  counted : header.stringCount.toNat = (module.tables.flatMap Table.strings).toFinset.card
  setsOff : SetsOff image header.blobSize strings
  names : List.Forall₂ (fun entry table => strings[entry.name.toNat]? = some table.name)
    image.tables module.tables
  operands : List.Forall₂ (Stores strings) image.operands.toList module.rows.flatten
  /-- Equal strings share their number, wherever they are used. -/
  shared : ∀ id value other value', Refers image module id value →
    Refers image module other value' → (id = other ↔ value = value')

theorem interned_emit {module : Module} (small : (emit module).size < UInt32.size) :
    Interned module (emittedHeader module) (Image.ofModule module) module.strings := by
  have fits := fits_of_emit small
  have firstUses : FirstUses (module.tables.flatMap Table.strings) module.strings :=
    firstUses_eraseDups _
  constructor
  · exact firstUses
  · rw [toNat_stringCount_emit small, firstUses.length_eq_card]
  · exact Image.setsOff_ofModule fits
  · exact Image.names_ofModule fits
  · exact Image.operands_ofModule fits
  · intro id value other value' refers refers'
    exact Image.refers_eq_iff fits refers refers'

/-- The file that is written for a module, when it is shorter than 2^32 bytes, holds the distinct
strings of the module in the order of first use, and they are the strings of the pool that gave out
the ids. -/
theorem emit_interns_strings (module : Module) (small : (emit module).size < 2 ^ 32) :
    (write module).bytes = emit module ∧
      ∃ header layout image strings, Header.decode (emit module) = .ok header ∧
        Layout.ofHeader header = .ok layout ∧
        Image.read (emit module) header layout = .ok image ∧
        image.strings = .ok strings ∧
        Interned module header image strings ∧
        (Draft.ofModule module).pool.strings.toList = strings ∧
        ∀ value (id : UInt32), (Draft.ofModule module).pool.ids[value]? = some id ↔
          strings[id.toNat]? = some value := by
  have fits := fits_of_emit small
  have pool : (Draft.ofModule module).pool.strings.toList = module.strings :=
    (Draft.holds_ofModule module).strings
  refine ⟨write_bytes module, emittedHeader module, (emittedHeader module).layout,
    Image.ofModule module, module.strings, decode_encode _, Layout.ofHeader_eq_ok _, read_emit small,
    Image.strings_ofModule fits, interned_emit small, pool, ?_⟩
  intro value id
  rw [← pool]
  exact StringPool.ids_eq_some_iff (pool ▸ Image.length_strings_lt fits) value id

/-- A table that mentions the other table and the empty string, and is mentioned by it. -/
def mutualNames : Module :=
  .ofTables [⟨"a", [[.text "b", .text ""], [.integer 0, .text ""]]⟩, ⟨"b", [[.text "a"]]⟩]

theorem emit_interns_mutualNames :
    (emit mutualNames).size < 2 ^ 32 ∧ (write mutualNames).bytes = emit mutualNames ∧
      ∃ header layout image strings, Header.decode (emit mutualNames) = .ok header ∧
        Layout.ofHeader header = .ok layout ∧
        Image.read (emit mutualNames) header layout = .ok image ∧
        image.strings = .ok strings ∧
        Interned mutualNames header image strings ∧
        (Draft.ofModule mutualNames).pool.strings.toList = strings ∧
        ∀ value (id : UInt32), (Draft.ofModule mutualNames).pool.ids[value]? = some id ↔
          strings[id.toNat]? = some value := by
  have small : (emit mutualNames).size < 2 ^ 32 := by decide +kernel
  exact ⟨small, emit_interns_strings mutualNames small⟩

end ScriptMetadata.Container
