import ScriptMetadata.Proofs.EmittedEntries
import ScriptMetadata.Proofs.HeaderReplacement
import ScriptMetadata.Proofs.RoundTrip

/-!
An emitted file with one field of its header overwritten. The checksum does not cover the header, so
what protects the file are the places of its sections and the checks of its references. A change is
refused or makes no difference, but for two: a table count that is lower, and a blob size that is so
much lower that the string table starts earlier.
-/

set_option autoImplicit false

namespace ScriptMetadata

/-- The tables from the front, as many as there are up to a number. -/
def Module.firstTables (module : Module) (count : Nat) : Module where
  tables := module.tables.take count
  names_nodup := ((List.take_sublist count module.tables).map Table.name).nodup module.names_nodup

namespace Container

open LittleEndian

/-- One field that the loader reads is overwritten by a value. -/
inductive Header.Overwritten (header : Header) : Header → Prop where
  | magic (value : Vector UInt8 4) : header.Overwritten { header with magic := value }
  | version (value : UInt32) : header.Overwritten { header with version := value }
  | checksum (value : UInt32) : header.Overwritten { header with checksum := value }
  | totalSize (value : UInt32) : header.Overwritten { header with totalSize := value }
  | blobSize (value : UInt32) : header.Overwritten { header with blobSize := value }
  | stringCount (value : UInt32) : header.Overwritten { header with stringCount := value }
  | tableCount (value : UInt32) : header.Overwritten { header with tableCount := value }
  | nodeCount (value : UInt32) : header.Overwritten { header with nodeCount := value }
  | operandCount (value : UInt32) : header.Overwritten { header with operandCount := value }

/-- An image that has only the first tables left stands for the module of these tables. -/
theorem resolve_firstTables {image shorter : Image} (within : image.Within shorter)
    (bounds : shorter.bounds.length ≤ image.bounds.length) {count : Nat}
    (tables : shorter.tables = image.tables.take count) (addressable : image.Addressable)
    (addressable' : shorter.Addressable) {module : Module} (resolved : image.resolve = .ok module) :
    shorter.resolve = .ok (module.firstTables count) := by
  obtain ⟨texts, described⟩ := (Image.resolve_eq_ok_iff addressable).1 resolved
  apply (Image.resolve_eq_ok_iff addressable').2
  constructor
  · exact within.textsValid bounds texts
  · rw [Image.Denotes, tables]
    exact List.forall₂_take count (described.imp fun _ _ => within.hasTable)

theorem stringCount_imageAt (bytes : ByteArray) (header : Header) :
    (imageAt bytes header).stringCount = header.stringCount.toNat := by
  rw [Image.stringCount, imageAt, length_entriesAt, Nat.add_sub_cancel]

/-- The header of an emitted file. -/
def emittedHeader (module : Module) : Header := (Image.ofModule module).header

theorem headerSize_le_size_emit (module : Module) : headerSize ≤ (emit module).size :=
  size_of_decode (decode_encode (Image.ofModule module))

section Emitted

variable {module : Module} (small : (emit module).size < UInt32.size)

include small

theorem fits_of_emit : (Image.ofModule module).Fits :=
  Image.fits_of_size _ (Image.bounds_ofModule_ne_nil module) small

theorem imageAt_emit : imageAt (emit module) (emittedHeader module) = Image.ofModule module :=
  Image.imageAt_encode (fits_of_emit small)

theorem read_emit :
    Image.read (emit module) (emittedHeader module) (emittedHeader module).layout =
      .ok (Image.ofModule module) := by
  have inside : (emittedHeader module).finish ≤ (emit module).size :=
    Nat.le_of_eq (Image.finish_eq (fits_of_emit small))
  rw [Image.read_eq_ok inside, imageAt_emit small]

theorem resolve_emit : (imageAt (emit module) (emittedHeader module)).resolve = .ok module := by
  rw [imageAt_emit small]
  exact Image.resolve_ofModule (fits_of_emit small)

theorem tables_emit :
    (Image.ofModule module).tables =
      entriesAt (tableEntryAt (emit module)) (emittedHeader module).tablesStart
        (emittedHeader module).tableCount.toNat tableEntrySize :=
  congrArg Image.tables (imageAt_emit small).symm

theorem toNat_tableCount_emit : (emittedHeader module).tableCount.toNat = module.size := by
  rw [emittedHeader, Image.toNat_tableCount (fits_of_emit small), Image.ofModule]
  simp [Module.size]

theorem toNat_stringCount_emit :
    (emittedHeader module).stringCount.toNat = module.strings.length := by
  have counted := Image.toNat_stringCount (fits_of_emit small)
  rw [Image.ofModule, length_boundsFrom, List.length_map] at counted
  exact Nat.succ.inj counted

theorem toNat_nodeCount_emit : (emittedHeader module).nodeCount.toNat = module.rows.length := by
  rw [← Image.size_nodes]
  exact Image.toNat_nodeCount (fits_of_emit small)

end Emitted

section Damaged

variable {options : LoadOptions} {module : Module} {damaged : Header} {other : Module}
  (loaded : load options (replaceHeader damaged (emit module)) = .ok other)

section Loaded

include loaded

theorem finish_le_of_load : damaged.finish ≤ (emit module).size :=
  ((load_replaceHeader_eq_ok_iff damaged (headerSize_le_size_emit module)).1 loaded).2.1

theorem resolve_of_load : (imageAt (emit module) damaged).resolve = .ok other :=
  ((load_replaceHeader_eq_ok_iff damaged (headerSize_le_size_emit module)).1 loaded).2.2

theorem denotes_of_load :
    (imageAt (emit module) damaged).TextsValid ∧ (imageAt (emit module) damaged).Denotes other :=
  (Image.resolve_eq_ok_iff (addressable_imageAt _ _)).1 (resolve_of_load loaded)

theorem image_wellFormed_of_load : (imageAt (emit module) damaged).WellFormed := by
  obtain ⟨texts, described⟩ := denotes_of_load loaded
  exact Image.wellFormed_iff.2 ⟨texts, other, described⟩

end Loaded

variable (small : (emit module).size < UInt32.size)

include small loaded

theorem sameStarts_of_load (counts : (emittedHeader module).CountsLe damaged)
    (tables : (emittedHeader module).tableCount ≤ damaged.tableCount) :
    (emittedHeader module).SameStarts damaged := by
  apply counts.sameStarts tables
  rw [emittedHeader, Image.finish_eq (fits_of_emit small)]
  exact finish_le_of_load loaded

/-- Larger counts only add zeros that nothing refers to. -/
theorem eq_of_larger_counts (counts : (emittedHeader module).CountsLe damaged)
    (tables : (emittedHeader module).tableCount = damaged.tableCount) : other = module :=
  resolve_imageAt_eq _ (sameStarts_of_load loaded small counts (UInt32.le_of_eq tables)) counts
    tables (resolve_emit small) (resolve_of_load loaded)

/-- Smaller counts only take entries away, and what still resolves is what was there. -/
theorem eq_of_smaller_counts (starts : damaged.SameStarts (emittedHeader module))
    (counts : damaged.CountsLe (emittedHeader module))
    (tables : damaged.tableCount = (emittedHeader module).tableCount) : other = module :=
  (resolve_imageAt_eq _ starts counts tables (resolve_of_load loaded)
    (resolve_emit small)).symm

/-- A table more than there are is read from zeros, and so it has the name of the first table. -/
theorem not_more_tables (counts : (emittedHeader module).CountsLe damaged)
    (strings : (emittedHeader module).stringCount = damaged.stringCount)
    (more : (emittedHeader module).tableCount < damaged.tableCount) : False := by
  have fits := fits_of_emit small
  have valid := image_wellFormed_of_load loaded
  have starts := sameStarts_of_load loaded small counts (UInt32.le_of_lt more)
  have larger : (Image.ofModule module).tables.length < damaged.tableCount.toNat := by
    rw [← Image.toNat_tableCount fits]
    exact more
  have last : (imageAt (emit module) damaged).tables[(Image.ofModule module).tables.length]? =
      some ⟨0, ⟨0, 0⟩⟩ := by
    have inside := damaged.sectionsOrdered.tables
    rw [← starts.tables, ← starts.nodes] at inside
    have several := Nat.mul_le_mul_right tableEntrySize (Nat.succ_le_of_lt larger)
    have zeros := Image.tableEntryAt_padding fits (Nat.le_trans (Nat.add_le_add_left several _)
      inside)
    rw [imageAt, getElem?_entriesAt _ _ _ larger, ← starts.tables]
    exact congrArg some zeros
  have below : 0 < (imageAt (emit module) damaged).stringCount :=
    (valid.tables _ (List.mem_of_getElem? last)).name
  obtain ⟨text, found⟩ := Image.textValid_iff_exists.1 (valid.texts 0 below)
  rw [stringCount_imageAt, ← strings, toNat_stringCount_emit small] at below
  obtain ⟨entry, stored, zero⟩ := Image.name_first_table
    (Image.tables_ne_nil_of_strings (List.ne_nil_of_length_pos below))
  have front : (Image.ofModule module).tables <+: (imageAt (emit module) damaged).tables := by
    rw [tables_emit small, imageAt, starts.tables]
    exact entriesAt_front _ _ _ (UInt32.le_of_lt more)
  have positive := (List.getElem?_eq_some_iff.1 stored).1
  obtain ⟨first, firstEntry⟩ := List.getElem?_eq_some_iff.1 (getElem?_of_front front stored)
  obtain ⟨inside, lastEntry⟩ := List.getElem?_eq_some_iff.1 last
  -- Both entries name the string at position 0, which no two tables may do.
  have distinct := List.pairwise_iff_getElem.1 valid.names 0 _ first inside positive
  rw [firstEntry, lastEntry, zero] at distinct
  exact distinct text found found

/-- Some table uses the last node. -/
theorem not_fewer_nodes (tables : (emittedHeader module).tablesStart = damaged.tablesStart)
    (tableCount : (emittedHeader module).tableCount = damaged.tableCount)
    (fewer : damaged.nodeCount < (emittedHeader module).nodeCount) : False := by
  have smaller : damaged.nodeCount.toNat < (emittedHeader module).nodeCount.toNat := fewer
  rw [toNat_nodeCount_emit small] at smaller
  have entries : (imageAt (emit module) damaged).tables = (Image.ofModule module).tables := by
    rw [tables_emit small, imageAt, tables, tableCount]
  have last : module.rows.length - 1 ∈ (imageAt (emit module) damaged).usedNodes := by
    rw [Image.usedNodes, entries, ← Image.usedNodes,
      Image.usedNodes_ofModule (fits_of_emit small), List.mem_range]
    omega
  have below := Image.usedNodes_lt (denotes_of_load loaded).2 _ last
  rw [imageAt, List.size_toArray, length_entriesAt] at below
  omega

/-- Tables that start earlier are read from the string table. The first word there is a bound of a
string behind the declared ones, too large to be the position of a declared one. -/
theorem not_earlier_tables
    (stringTable : (emittedHeader module).stringTableStart = damaged.stringTableStart)
    (tableCount : (emittedHeader module).tableCount = damaged.tableCount)
    (earlier : damaged.tablesStart < (emittedHeader module).tablesStart) : False := by
  have strings := toNat_stringCount_emit small
  have aligned : (emittedHeader module).stringTableStart % sectionAlign = 0 := nextBoundary_mod _
  obtain ⟨index, place, behind, within⟩ : ∃ index,
      damaged.tablesStart = (emittedHeader module).stringTableStart + index * boundSize ∧
        damaged.stringCount.toNat < index ∧ index ≤ module.strings.length := by
    refine ⟨(damaged.tablesStart - (emittedHeader module).stringTableStart) / boundSize, ?_⟩
    simp only [Header.tablesStart, ← stringTable, strings, nextBoundary, sectionAlign,
      boundSize] at *
    omega
  have bound : (Image.ofModule module).bounds[index]? =
      some (word32At (emit module) damaged.tablesStart) := by
    rw [← imageAt_emit small, imageAt, getElem?_entriesAt _ _ _ (by omega), place]
  have large := Image.le_toNat_bound (fits_of_emit small) within bound
  have positive : 0 < damaged.tableCount.toNat := by
    rw [← tableCount, toNat_tableCount_emit small]
    exact List.length_pos_iff.2 (Image.tables_ne_nil_of_strings
      (List.ne_nil_of_length_pos (by omega)))
  have entry : (imageAt (emit module) damaged).tables[0]? =
      some (tableEntryAt (emit module) damaged.tablesStart) := by
    rw [imageAt, getElem?_entriesAt _ _ _ positive, Nat.zero_mul, Nat.add_zero]
  have below : (word32At (emit module) damaged.tablesStart).toNat <
      (imageAt (emit module) damaged).stringCount :=
    ((image_wellFormed_of_load loaded).tables _ (List.mem_of_getElem? entry)).name
  rw [stringCount_imageAt] at below
  omega

end Damaged

variable {module : Module}

/-- The checks of the header as a whole do not look at the counts. -/
theorem load_of_resolve {options : LoadOptions} (small : (emit module).size < UInt32.size)
    (damaged : Header) {other : Module} (magic : damaged.magic = (emittedHeader module).magic)
    (version : damaged.version = (emittedHeader module).version)
    (totalSize : damaged.totalSize = (emittedHeader module).totalSize)
    (checksum : damaged.checksum = (emittedHeader module).checksum)
    (inside : damaged.finish ≤ (emittedHeader module).finish)
    (resolved : (imageAt (emit module) damaged).resolve = .ok other) :
    load options (replaceHeader damaged (emit module)) = .ok other := by
  have decoded : Header.decode (emit module) = .ok (emittedHeader module) := decode_encode _
  obtain ⟨validated, within, -⟩ := (load_eq_ok_iff_of_decode decoded).1 (load_emit options small)
  have complete := headerSize_le_size_emit module
  apply (load_replaceHeader_eq_ok_iff _ complete).2
  rw [magic, version, totalSize, checksum]
  exact ⟨(validate_eq_ok_iff complete).1 validated, Nat.le_trans inside within, resolved⟩

/-- Where a lower table count leaves the nodes in their place, the last tables are lost. -/
theorem load_of_fewer_tables (options : LoadOptions) (small : (emit module).size < UInt32.size)
    {value : UInt32} (fewer : value ≤ (emittedHeader module).tableCount)
    (nodes : { emittedHeader module with tableCount := value }.nodesStart =
      (emittedHeader module).nodesStart) :
    load options (replaceHeader { emittedHeader module with tableCount := value } (emit module)) =
      .ok (module.firstTables value.toNat) := by
  have operands : { emittedHeader module with tableCount := value }.operandsStart =
      (emittedHeader module).operandsStart := by
    rw [Header.operandsStart, nodes]
    rfl
  have finish : { emittedHeader module with tableCount := value }.finish =
      (emittedHeader module).finish := by
    rw [Header.finish, operands]
    rfl
  have starts : (emittedHeader module).SameStarts
      { emittedHeader module with tableCount := value } :=
    ⟨rfl, rfl, nodes.symm, operands.symm⟩
  have within := imageAt_within (emit module) starts
    ⟨UInt32.le_refl _, UInt32.le_refl _, UInt32.le_refl _, UInt32.le_refl _⟩
  apply load_of_resolve small { emittedHeader module with tableCount := value } rfl rfl rfl rfl
    (Nat.le_of_eq finish)
  exact resolve_firstTables within (Nat.le_refl _) (take_entriesAt _ _ _ fewer).symm
    (addressable_imageAt _ _) (addressable_imageAt _ _) (resolve_emit small)

/-- Every other overwritten field leaves the module as it is, or nothing is loaded. -/
theorem eq_of_overwritten {options : LoadOptions} {damaged : Header} {other : Module}
    (loaded : load options (replaceHeader damaged (emit module)) = .ok other)
    (small : (emit module).size < UInt32.size)
    (overwritten : (emittedHeader module).Overwritten damaged)
    (tables : (emittedHeader module).tableCount ≤ damaged.tableCount)
    (strings : (emittedHeader module).stringTableStart ≤ damaged.stringTableStart) :
    other = module := by
  have same : ∀ word : UInt32, word ≤ word := UInt32.le_refl
  -- A larger count is one argument for all fields; what a smaller one moves depends on the field.
  cases overwritten with
  | magic | version | checksum | totalSize =>
      exact eq_of_larger_counts loaded small ⟨same _, same _, same _, same _⟩ rfl
  | blobSize value =>
      rcases UInt32.le_total (emittedHeader module).blobSize value with larger | smaller
      · exact eq_of_larger_counts loaded small ⟨larger, same _, same _, same _⟩ rfl
      · have counts : { emittedHeader module with blobSize := value }.CountsLe
            (emittedHeader module) := ⟨smaller, same _, same _, same _⟩
        have start := Nat.le_antisymm counts.stringTableStart_le strings
        have tablesStart : { emittedHeader module with blobSize := value }.tablesStart =
            (emittedHeader module).tablesStart := by
          rw [Header.tablesStart, start]
          rfl
        exact eq_of_smaller_counts loaded small
          (Header.sameStarts_of_tables start tablesStart rfl rfl) counts rfl
  | stringCount value =>
      rcases UInt32.le_total (emittedHeader module).stringCount value with larger | smaller
      · exact eq_of_larger_counts loaded small ⟨same _, larger, same _, same _⟩ rfl
      · have counts : { emittedHeader module with stringCount := value }.CountsLe
            (emittedHeader module) := ⟨same _, smaller, same _, same _⟩
        rcases Nat.lt_or_eq_of_le counts.tablesStart_le with earlier | start
        · exact (not_earlier_tables loaded small rfl rfl earlier).elim
        · exact eq_of_smaller_counts loaded small
            (Header.sameStarts_of_tables rfl start rfl rfl) counts rfl
  | tableCount value =>
      have counts : (emittedHeader module).CountsLe
          { emittedHeader module with tableCount := value } :=
        ⟨same _, same _, same _, same _⟩
      rcases UInt32.lt_or_eq_of_le tables with more | equal
      · exact (not_more_tables loaded small counts rfl more).elim
      · exact eq_of_larger_counts loaded small counts equal
  | nodeCount value =>
      rcases UInt32.lt_or_le value (emittedHeader module).nodeCount with fewer | larger
      · exact (not_fewer_nodes loaded small rfl rfl fewer).elim
      · exact eq_of_larger_counts loaded small ⟨same _, same _, larger, same _⟩ rfl
  | operandCount value =>
      rcases UInt32.le_total (emittedHeader module).operandCount value with larger | smaller
      · exact eq_of_larger_counts loaded small ⟨same _, same _, same _, larger⟩ rfl
      · exact eq_of_smaller_counts loaded small ⟨rfl, rfl, rfl, rfl⟩
          ⟨same _, same _, same _, smaller⟩ rfl

/-- With one field of the header overwritten, the file that was written for a module loads as this
module or not at all, unless the table count is lower or the string table starts earlier. A lower
table count that leaves the nodes in their place loads as the first tables. -/
theorem load_overwritten_header (options : LoadOptions) (module : Module)
    (small : (emit module).size < 2 ^ 32) :
    (write module).bytes = emit module ∧
      ∃ header, Header.decode (emit module) = .ok header ∧
        ∀ damaged, header.Overwritten damaged →
          (header.tableCount ≤ damaged.tableCount →
            header.stringTableStart ≤ damaged.stringTableStart →
            ∀ other, load options (replaceHeader damaged (emit module)) = .ok other →
              other = module) ∧
          (damaged.tableCount < header.tableCount → damaged.nodesStart = header.nodesStart →
            load options (replaceHeader damaged (emit module)) =
              .ok (module.firstTables damaged.tableCount.toNat)) := by
  refine ⟨write_bytes module, emittedHeader module, decode_encode _, ?_⟩
  intro damaged overwritten
  constructor
  · intro tables strings other loaded
    exact eq_of_overwritten loaded small overwritten tables strings
  · intro fewer nodes
    cases overwritten with
    | tableCount value => exact load_of_fewer_tables options small (UInt32.le_of_lt fewer) nodes
    | _ => exact absurd fewer (UInt32.lt_irrefl _)

/-- A table of one operand before a table without rows. -/
def oneOperand : Module := .ofTables [⟨"a", [[.integer 7]]⟩, ⟨"b", []⟩]

/-- An operand count of two still loads, and like every other one as no other module; a table count
of one loses the second table. -/
theorem load_overwritten_oneOperand :
    ∃ header, Header.decode (emit oneOperand) = .ok header ∧ header.operandCount = 1 ∧
      load {} (replaceHeader { header with operandCount := 2 } (emit oneOperand)) =
        .ok oneOperand ∧
      (∀ value other, load {} (replaceHeader { header with operandCount := value }
        (emit oneOperand)) = .ok other → other = oneOperand) ∧
      load {} (replaceHeader { header with tableCount := 1 } (emit oneOperand)) =
        .ok (.ofTables [⟨"a", [[.integer 7]]⟩]) := by
  have small : (emit oneOperand).size < 2 ^ 32 := by decide +kernel
  obtain ⟨-, header, decoded, overwritten⟩ := load_overwritten_header {} oneOperand small
  have same : header = emittedHeader oneOperand :=
    Except.ok.inj (decoded.symm.trans (decode_encode _))
  have accepted : load {} (replaceHeader { header with operandCount := 2 } (emit oneOperand)) =
      .ok oneOperand := by
    rw [same]
    exact load_of_resolve small _ rfl rfl rfl rfl (by decide +kernel) (by decide +kernel)
  have fewer := (overwritten _ (.tableCount 1)).2 (by rw [same]; decide +kernel)
    (by rw [same]; decide +kernel)
  have tables : oneOperand.firstTables 1 = .ofTables [⟨"a", [[.integer 7]]⟩] := by decide
  refine ⟨header, decoded, by rw [same]; decide +kernel, accepted, ?_, tables ▸ fewer⟩
  intro value other loaded
  exact (overwritten _ (.operandCount value)).1 (UInt32.le_refl _) (Nat.le_refl _) other loaded

/-- Two tables without rows. -/
def twoEmpty : Module := .ofTables [⟨"a", []⟩, ⟨"b", []⟩]

/-- One table with a name of 128 zeros, which fill two sections. -/
def zeroName : Module := .ofTables [⟨String.ofList (List.replicate 128 (Char.ofNat 0)), []⟩]

set_option maxRecDepth 4000 in
/-- Lower counts in the header go unnoticed: a table is lost, a name is lost. -/
theorem overwritten_header_misleads :
    (∃ header, Header.decode (emit twoEmpty) = .ok header ∧
      load {} (replaceHeader { header with tableCount := 1 } (emit twoEmpty)) =
        .ok (.ofTables [⟨"a", []⟩]) ∧ Module.ofTables [⟨"a", []⟩] ≠ twoEmpty) ∧
    ∃ header, Header.decode (emit zeroName) = .ok header ∧
      load {} (replaceHeader { header with blobSize := 0 } (emit zeroName)) =
        .ok (.ofTables [⟨"", []⟩]) ∧ Module.ofTables [⟨"", []⟩] ≠ zeroName := by
  constructor
  · refine ⟨emittedHeader twoEmpty, decode_encode _, ?_, by decide⟩
    have small : (emit twoEmpty).size < UInt32.size := by decide +kernel
    exact load_of_resolve small _ rfl rfl rfl rfl (by decide +kernel) (by decide +kernel)
  · refine ⟨emittedHeader zeroName, decode_encode _, ?_, by decide⟩
    have small : (emit zeroName).size < UInt32.size := by decide +kernel
    exact load_of_resolve small _ rfl rfl rfl rfl (by decide +kernel) (by decide +kernel)

end Container

end ScriptMetadata
