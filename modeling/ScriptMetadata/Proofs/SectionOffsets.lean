import Mathlib.Order.Bounds.Defs
import ScriptMetadata.Container.Layout
import ScriptMetadata.Proofs.HeaderReplacement

/-!
Where the sections of a container start, for any header. The arithmetic of the words is exact, each
section starts at the least multiple of 64 behind the one before it, and a section that grows moves
none of the others towards the front.
-/

set_option autoImplicit false

namespace ScriptMetadata

namespace Checked

theorem sum64_ofNat (first second : Nat) (fits : first + second < UInt64.size) :
    sum64 (UInt64.ofNat first) (UInt64.ofNat second) = .ok (UInt64.ofNat (first + second)) := by
  have left : (UInt64.ofNat first).toNat = first := UInt64.toNat_ofNat_of_lt' (by omega)
  have right : (UInt64.ofNat second).toNat = second := UInt64.toNat_ofNat_of_lt' (by omega)
  rw [sum64, left, right, word64_eq_ok fits]

theorem product64_ofNat (first second : Nat) (left : first < UInt64.size)
    (right : second < UInt64.size) (fits : first * second < UInt64.size) :
    product64 (UInt64.ofNat first) (UInt64.ofNat second) = .ok (UInt64.ofNat (first * second)) := by
  rw [product64, UInt64.toNat_ofNat_of_lt' left, UInt64.toNat_ofNat_of_lt' right, word64_eq_ok fits]

theorem difference64_ofNat (first second : Nat) (fits : first < UInt64.size)
    (ordered : second ≤ first) :
    difference64 (UInt64.ofNat first) (UInt64.ofNat second) =
      .ok (UInt64.ofNat (first - second)) := by
  have left : (UInt64.ofNat first).toNat = first := UInt64.toNat_ofNat_of_lt' fits
  have right : (UInt64.ofNat second).toNat = second := UInt64.toNat_ofNat_of_lt' (by omega)
  rw [difference64, left, right, if_pos ordered]

end Checked

namespace Container

/-! ### The words -/

theorem roundUp_ofNat {offset : Nat} (fits : offset + sectionAlign < UInt64.size) :
    roundUp (UInt64.ofNat offset) (UInt64.ofNat sectionAlign) =
      .ok (UInt64.ofNat (nextBoundary offset)) := by
  have beyond := Checked.sum64_ofNat offset sectionAlign fits
  have last := Checked.difference64_ofNat (offset + sectionAlign) 1 fits (Nat.le_add_left 1 _)
  have lowBits := Checked.difference64_ofNat sectionAlign 1 (by decide) (by decide)
  rw [roundUp, beyond]
  change (do
    let last ← Checked.difference64 (UInt64.ofNat (offset + sectionAlign)) (UInt64.ofNat 1)
    let lowBits ← Checked.difference64 (UInt64.ofNat sectionAlign) (UInt64.ofNat 1)
    return last &&& ~~~lowBits) = _
  rw [last, lowBits]
  exact congrArg Except.ok (clearLowBits_raised (Nat.lt_of_succ_lt fits))

theorem behind_ofNat (start size : Nat) (fits : start + size + sectionAlign < UInt64.size) :
    behind (UInt64.ofNat start) (UInt64.ofNat size) =
      .ok (UInt64.ofNat (nextBoundary (start + size))) := by
  have stopFits : start + size < UInt64.size := by omega
  rw [behind, Checked.sum64_ofNat start size stopFits]
  exact roundUp_ofNat fits

theorem product64_count (count : UInt32) (entrySize : Nat) (small : entrySize ≤ 16) :
    Checked.product64 count.toUInt64 (UInt64.ofNat entrySize) =
      .ok (UInt64.ofNat (count.toNat * entrySize)) := by
  have bounded : count.toNat * entrySize ≤ 2 ^ 32 * 16 :=
    Nat.mul_le_mul (Nat.le_of_lt count.toNat_lt) small
  have wordSize : UInt64.size = 2 ^ 64 := rfl
  have word := count.toNat_lt
  rw [← UInt64.ofNat_uInt32ToNat]
  exact Checked.product64_ofNat count.toNat entrySize (by omega) (by omega) (by omega)

/-- No operation fails, and the offsets are those of the checked layout. -/
theorem Layout.inWords_eq_ok (header : Header) : Layout.inWords header = .ok header.layout := by
  -- No section ends behind the finish, so its bound leaves room for every operation.
  obtain ⟨blob, stringTable, tables, nodes, operands⟩ := header.sectionsOrdered
  have bounded := header.finish_lt
  have wordSize : UInt64.size = 2 ^ 64 := rfl
  have align : sectionAlign = 64 := rfl
  have strings := header.stringCount.toNat_lt
  have bounds : Checked.sum64 header.stringCount.toUInt64 1 =
      .ok (UInt64.ofNat (header.stringCount.toNat + 1)) := by
    rw [← UInt64.ofNat_uInt32ToNat]
    exact Checked.sum64_ofNat header.stringCount.toNat 1 (by omega)
  have boundBytes := Checked.product64_ofNat (header.stringCount.toNat + 1) boundSize (by omega)
    (by decide) (by omega)
  have tableBytes := product64_count header.tableCount tableEntrySize (by decide)
  have nodeBytes := product64_count header.nodeCount nodeEntrySize (by decide)
  have operandBytes := product64_count header.operandCount operandEntrySize (by decide)
  have blob_ends := behind_ofNat headerSize header.blobSize.toNat (by omega)
  have stringTable_ends := behind_ofNat header.stringTableStart
    ((header.stringCount.toNat + 1) * boundSize) (by omega)
  have tables_end := behind_ofNat header.tablesStart
    (header.tableCount.toNat * tableEntrySize) (by omega)
  have nodes_end := behind_ofNat header.nodesStart
    (header.nodeCount.toNat * nodeEntrySize) (by omega)
  have operands_end := behind_ofNat header.operandsStart
    (header.operandCount.toNat * operandEntrySize) (by omega)
  rw [UInt64.ofNat_uInt32ToNat, ← Header.stringTableStart] at blob_ends
  rw [← Header.tablesStart] at stringTable_ends
  rw [← Header.nodesStart] at tables_end
  rw [← Header.operandsStart] at nodes_end
  rw [← Header.finish] at operands_end
  simp only [Layout.inWords, bounds, boundBytes, tableBytes, nodeBytes, operandBytes, blob_ends,
    stringTable_ends, tables_end, nodes_end, operands_end, bind, Except.bind]
  rfl

/-! ### The places of the sections -/

/-- The positions at which a section may start that has to leave what comes before it alone. -/
def boundariesFrom (position : Nat) : Set Nat := {offset | 64 ∣ offset ∧ position ≤ offset}

theorem isLeast_nextBoundary (position : Nat) :
    IsLeast (boundariesFrom position) (nextBoundary position) := by
  refine ⟨⟨Nat.dvd_of_mod_eq_zero (nextBoundary_mod position), le_nextBoundary position⟩, ?_⟩
  rintro offset ⟨⟨units, rfl⟩, behind⟩
  rw [nextBoundary, sectionAlign]
  omega

/-- The blob follows the header. Every other section, and the end, is at the least multiple of 64
that is not below the start of the section before it and its size together. -/
structure Packed (header : Header) (layout : Layout) : Prop where
  blob : layout.blob.toNat = 64
  stringTable :
    IsLeast (boundariesFrom (layout.blob.toNat + header.blobSize.toNat)) layout.stringTable.toNat
  tables : IsLeast (boundariesFrom (layout.stringTable.toNat + (header.stringCount.toNat + 1) * 4))
    layout.tables.toNat
  nodes : IsLeast (boundariesFrom (layout.tables.toNat + header.tableCount.toNat * 16))
    layout.nodes.toNat
  operands : IsLeast (boundariesFrom (layout.nodes.toNat + header.nodeCount.toNat * 8))
    layout.operands.toNat
  finish : IsLeast (boundariesFrom (layout.operands.toNat + header.operandCount.toNat * 16))
    layout.finish.toNat

theorem packed_layout (header : Header) : Packed header header.layout := by
  obtain ⟨blob, stringTable, tables, nodes, operands⟩ := header.toNat_layout
  have finish := header.toNat_layout_finish
  constructor
  · exact blob
  · rw [blob, stringTable]
    exact isLeast_nextBoundary _
  · rw [stringTable, tables]
    exact isLeast_nextBoundary _
  · rw [tables, nodes]
    exact isLeast_nextBoundary _
  · rw [nodes, operands]
    exact isLeast_nextBoundary _
  · rw [operands, finish]
    exact isLeast_nextBoundary _

/-- The bytes of a section: where they start and how many they are. -/
structure Extent where
  start : Nat
  size : Nat

namespace Extent

/-- The one ends before the other starts, so that they have no position in common. -/
def Before (first second : Extent) : Prop :=
  first.start + first.size ≤ second.start ∧
    ∀ position, InSpan first.start first.size position →
      ¬InSpan second.start second.size position

theorem before_of_le {first second : Extent} (ordered : first.start + first.size ≤ second.start) :
    first.Before second := by
  refine ⟨ordered, ?_⟩
  rintro position ⟨-, ended⟩ ⟨started, -⟩
  omega

end Extent

namespace Layout

def offsets (layout : Layout) : List UInt64 :=
  [layout.blob, layout.stringTable, layout.tables, layout.nodes, layout.operands, layout.finish]

/-- The sections in their order in the file. -/
def extents (layout : Layout) (header : Header) : List Extent :=
  [⟨layout.blob.toNat, header.blobSize.toNat⟩,
    ⟨layout.stringTable.toNat, (header.stringCount.toNat + 1) * 4⟩,
    ⟨layout.tables.toNat, header.tableCount.toNat * 16⟩,
    ⟨layout.nodes.toNat, header.nodeCount.toNat * 8⟩,
    ⟨layout.operands.toNat, header.operandCount.toNat * 16⟩]

end Layout

namespace Packed

variable {header : Header} {layout : Layout} (packed : Packed header layout)

include packed

/-- Each section ends before the next one starts, the last one before the finish. -/
theorem ends_le :
    layout.blob.toNat + header.blobSize.toNat ≤ layout.stringTable.toNat ∧
      layout.stringTable.toNat + (header.stringCount.toNat + 1) * 4 ≤ layout.tables.toNat ∧
      layout.tables.toNat + header.tableCount.toNat * 16 ≤ layout.nodes.toNat ∧
      layout.nodes.toNat + header.nodeCount.toNat * 8 ≤ layout.operands.toNat ∧
      layout.operands.toNat + header.operandCount.toNat * 16 ≤ layout.finish.toNat :=
  ⟨packed.stringTable.1.2, packed.tables.1.2, packed.nodes.1.2, packed.operands.1.2,
    packed.finish.1.2⟩

theorem aligned : ∀ offset ∈ layout.offsets, 64 ∣ offset.toNat := by
  obtain ⟨blob, stringTable, tables, nodes, operands, finish⟩ := packed
  simp only [Layout.offsets, List.forall_mem_cons]
  exact ⟨⟨1, blob⟩, stringTable.1.1, tables.1.1, nodes.1.1, operands.1.1, finish.1.1,
    List.forall_mem_nil _⟩

theorem offset_le_finish : ∀ offset ∈ layout.offsets, offset.toNat ≤ layout.finish.toNat := by
  obtain ⟨blob, stringTable, tables, nodes, operands⟩ := packed.ends_le
  simp only [Layout.offsets, List.forall_mem_cons]
  refine ⟨?_, ?_, ?_, ?_, ?_, ?_, List.forall_mem_nil _⟩ <;> omega

theorem pairwise_before : (layout.extents header).Pairwise Extent.Before := by
  obtain ⟨blob, stringTable, tables, nodes, -⟩ := packed.ends_le
  have ordered : (layout.extents header).Pairwise fun first second =>
      first.start + first.size ≤ second.start := by
    simp only [Layout.extents, List.pairwise_cons, List.forall_mem_cons, List.not_mem_nil,
      false_implies, implies_true, List.Pairwise.nil, and_true]
    omega
  exact ordered.imp Extent.before_of_le

end Packed

/-! ### Growing sections -/

/-- No size and no count is larger under the first header. -/
structure Header.SizesLe (header other : Header) : Prop extends header.CountsLe other where
  tableCount : header.tableCount ≤ other.tableCount

theorem Header.SizesLe.offsets_le {header other : Header} (sizes : header.SizesLe other) :
    List.Forall₂ (· ≤ ·) header.layout.offsets other.layout.offsets := by
  obtain ⟨blob, stringTable, tables, nodes, operands⟩ := header.toNat_layout
  obtain ⟨blob', stringTable', tables', nodes', operands'⟩ := other.toNat_layout
  have counts := sizes.toCountsLe
  have tableCount := sizes.tableCount
  simp only [Layout.offsets, List.forall₂_cons, List.forall₂_nil_left_iff, and_true,
    UInt64.le_iff_toNat_le, stringTable, tables, nodes, operands, header.toNat_layout_finish,
    stringTable', tables', nodes', operands', other.toNat_layout_finish]
  exact ⟨Nat.le_refl _, counts.stringTableStart_le, counts.tablesStart_le,
    counts.nodesStart_le tableCount, counts.operandsStart_le tableCount,
    counts.finish_le tableCount⟩

/-- For every header the arithmetic of the offsets stays inside its words and far below their limit.
The sections are packed at multiples of 64 in their order without a common position, and a larger
size or count puts no offset nearer to the front. -/
theorem offsets_pack_sections (header : Header) :
    ∃ layout, Layout.inWords header = .ok layout ∧ Layout.ofHeader header = .ok layout ∧
      (∀ offset ∈ layout.offsets, 64 ∣ offset.toNat ∧ offset.toNat < 2 ^ 38) ∧
      Packed header layout ∧ (layout.extents header).Pairwise Extent.Before ∧
      ∀ other further, header.SizesLe other → Layout.ofHeader other = .ok further →
        List.Forall₂ (· ≤ ·) layout.offsets further.offsets := by
  have packed := packed_layout header
  refine ⟨header.layout, Layout.inWords_eq_ok header, Layout.ofHeader_eq_ok header, ?bounds, packed,
    packed.pairwise_before, ?grows⟩
  case bounds =>
    intro offset listed
    have within := packed.offset_le_finish offset listed
    rw [header.toNat_layout_finish] at within
    exact ⟨packed.aligned offset listed, within.trans_lt header.finish_lt⟩
  case grows =>
    intro other further sizes placed
    rw [Layout.ofHeader_eq_ok] at placed
    cases placed
    exact sizes.offsets_le

def fewEntries : Header :=
  { blobSize := 65, stringCount := 2, tableCount := 1, nodeCount := 9, operandCount := 1 }

/-- Every size and count is the largest that its word can hold. -/
def fullCounts : Header :=
  { blobSize := 0xFFFFFFFF, stringCount := 0xFFFFFFFF, tableCount := 0xFFFFFFFF,
    nodeCount := 0xFFFFFFFF, operandCount := 0xFFFFFFFF }

theorem offsets_pack_fewEntries :
    fewEntries.SizesLe fullCounts ∧
      ∃ layout further, Layout.inWords fewEntries = .ok layout ∧
        Layout.ofHeader fullCounts = .ok further ∧
        layout.offsets = [64, 192, 256, 320, 448, 512] ∧
        further.offsets = [64, 0x100000040, 0x500000040, 0x1500000040, 0x1D00000040, 0x2D00000040] ∧
        Packed fewEntries layout ∧ (layout.extents fewEntries).Pairwise Extent.Before ∧
        List.Forall₂ (· ≤ ·) layout.offsets further.offsets := by
  obtain ⟨layout, words, placed, -, packed, before, grows⟩ := offsets_pack_sections fewEntries
  have sizes : fewEntries.SizesLe fullCounts :=
    ⟨⟨by decide, by decide, by decide, by decide⟩, by decide⟩
  have placed' := Layout.ofHeader_eq_ok fullCounts
  have offsets : layout.offsets = [64, 192, 256, 320, 448, 512] := by
    rw [Layout.ofHeader_eq_ok] at placed
    cases placed
    decide +kernel
  exact ⟨sizes, layout, _, words, placed', offsets, by decide +kernel, packed, before,
    grows fullCounts _ sizes placed'⟩

end Container

end ScriptMetadata
