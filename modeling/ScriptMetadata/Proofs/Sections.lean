import ScriptMetadata.Container.Image
import ScriptMetadata.Proofs.Words

/-!
Where the sections start, as natural numbers. The masked 64-bit arithmetic of the layout agrees with
these for every header, so none of its checked words can fail.
-/

set_option autoImplicit false

namespace ScriptMetadata.Container

/-- The position is one of `size` that follow each other from `start` on. -/
def InSpan (start size position : Nat) : Prop := start ≤ position ∧ position < start + size

instance (start size position : Nat) : Decidable (InSpan start size position) :=
  inferInstanceAs (Decidable (_ ∧ _))

/-- The least multiple of the alignment that is not below an offset. -/
def nextBoundary (offset : Nat) : Nat := (offset + 63) / sectionAlign * sectionAlign

theorem le_nextBoundary (offset : Nat) : offset ≤ nextBoundary offset := by
  rw [nextBoundary, sectionAlign]
  omega

theorem nextBoundary_le (offset : Nat) : nextBoundary offset ≤ offset + 63 :=
  Nat.div_mul_le_self _ _

/-- Filling a section that starts on a boundary up to the alignment reaches the next boundary. -/
theorem nextBoundary_add {start : Nat} (aligned : start % sectionAlign = 0) (size : Nat) :
    nextBoundary (start + size) = start + (size + padding size) := by
  simp only [nextBoundary, padding, sectionAlign] at aligned ⊢
  omega

theorem nextBoundary_mono {first second : Nat} (le : first ≤ second) :
    nextBoundary first ≤ nextBoundary second := by
  simp only [nextBoundary, sectionAlign]
  omega

theorem nextBoundary_mod (offset : Nat) : nextBoundary offset % sectionAlign = 0 :=
  Nat.mul_mod_left _ _

/-- A section that starts later and is no shorter ends at a later boundary. -/
theorem start_eq_of_nextBoundary_le {start later size larger : Nat}
    (aligned : start % sectionAlign = 0) (aligned' : later % sectionAlign = 0)
    (le : start ≤ later) (grown : size ≤ larger)
    (finish : nextBoundary (later + larger) ≤ nextBoundary (start + size)) : start = later := by
  simp only [nextBoundary, sectionAlign] at *
  omega

theorem clearLowBits_raised {offset : Nat} (fits : offset + 63 < UInt64.size) :
    UInt64.ofNat (offset + 63) &&& ~~~63 = UInt64.ofNat (nextBoundary offset) := by
  have raised : (UInt64.ofNat (offset + 63)).toNat = offset + 63 := UInt64.toNat_ofNat_of_lt' fits
  have boundary : (UInt64.ofNat (nextBoundary offset)).toNat = nextBoundary offset :=
    UInt64.toNat_ofNat_of_lt' ((nextBoundary_le offset).trans_lt fits)
  apply UInt64.toNat_inj.1
  rw [Word64.toNat_clearLowBits, raised, boundary]
  rfl

theorem alignUp_ofNat {offset : Nat} (fits : offset + 63 < UInt64.size) :
    alignUp (UInt64.ofNat offset) = .ok (UInt64.ofNat (nextBoundary offset)) := by
  have start : (UInt64.ofNat offset).toNat = offset := UInt64.toNat_ofNat_of_lt' (by omega)
  rw [alignUp, start, Checked.word64_eq_ok fits]
  exact congrArg Except.ok (clearLowBits_raised fits)

theorem afterEntries_ofNat (start count entrySize : Nat)
    (fits : start + count * entrySize + 63 < UInt64.size) :
    afterEntries (UInt64.ofNat start) count entrySize =
      .ok (UInt64.ofNat (nextBoundary (start + count * entrySize))) := by
  have sizeFits : count * entrySize < UInt64.size := by omega
  have stopFits : start + count * entrySize < UInt64.size := by omega
  have first : (UInt64.ofNat start).toNat = start := UInt64.toNat_ofNat_of_lt' (by omega)
  have size : (UInt64.ofNat (count * entrySize)).toNat = count * entrySize :=
    UInt64.toNat_ofNat_of_lt' sizeFits
  simp only [afterEntries, Checked.word64_eq_ok sizeFits, bind, Except.bind, first, size,
    Checked.word64_eq_ok stopFits]
  exact alignUp_ofNat fits

namespace Header

variable (header : Header)

def stringTableStart : Nat := nextBoundary (headerSize + header.blobSize.toNat)

def tablesStart : Nat :=
  nextBoundary (header.stringTableStart + (header.stringCount.toNat + 1) * boundSize)

def nodesStart : Nat :=
  nextBoundary (header.tablesStart + header.tableCount.toNat * tableEntrySize)

def operandsStart : Nat :=
  nextBoundary (header.nodesStart + header.nodeCount.toNat * nodeEntrySize)

def finish : Nat :=
  nextBoundary (header.operandsStart + header.operandCount.toNat * operandEntrySize)

/-- Each section ends before the next one starts, the last one at the finish. -/
structure SectionsOrdered : Prop where
  blob : headerSize + header.blobSize.toNat ≤ header.stringTableStart
  stringTable :
    header.stringTableStart + (header.stringCount.toNat + 1) * boundSize ≤ header.tablesStart
  tables : header.tablesStart + header.tableCount.toNat * tableEntrySize ≤ header.nodesStart
  nodes : header.nodesStart + header.nodeCount.toNat * nodeEntrySize ≤ header.operandsStart
  operands : header.operandsStart + header.operandCount.toNat * operandEntrySize ≤ header.finish

theorem sectionsOrdered : header.SectionsOrdered where
  blob := le_nextBoundary _
  stringTable := le_nextBoundary _
  tables := le_nextBoundary _
  nodes := le_nextBoundary _
  operands := le_nextBoundary _

/-- Even with the largest counts the sections end far inside 64 bits. -/
theorem finish_lt : header.finish < 2 ^ 38 := by
  have blob := header.blobSize.toNat_lt
  have strings := header.stringCount.toNat_lt
  have tables := header.tableCount.toNat_lt
  have nodes := header.nodeCount.toNat_lt
  have operands := header.operandCount.toNat_lt
  have stringTableStart := nextBoundary_le (headerSize + header.blobSize.toNat)
  have tablesStart :=
    nextBoundary_le (header.stringTableStart + (header.stringCount.toNat + 1) * boundSize)
  have nodesStart :=
    nextBoundary_le (header.tablesStart + header.tableCount.toNat * tableEntrySize)
  have operandsStart :=
    nextBoundary_le (header.nodesStart + header.nodeCount.toNat * nodeEntrySize)
  have finish :=
    nextBoundary_le (header.operandsStart + header.operandCount.toNat * operandEntrySize)
  rw [← Header.stringTableStart] at stringTableStart
  rw [← Header.tablesStart] at tablesStart
  rw [← Header.nodesStart] at nodesStart
  rw [← Header.operandsStart] at operandsStart
  rw [← Header.finish] at finish
  simp only [headerSize, boundSize, tableEntrySize, nodeEntrySize, operandEntrySize] at *
  omega

def layout : Layout where
  blob := UInt64.ofNat headerSize
  stringTable := UInt64.ofNat header.stringTableStart
  tables := UInt64.ofNat header.tablesStart
  nodes := UInt64.ofNat header.nodesStart
  operands := UInt64.ofNat header.operandsStart
  finish := UInt64.ofNat header.finish

theorem toNat_layout :
    header.layout.blob.toNat = headerSize ∧
      header.layout.stringTable.toNat = header.stringTableStart ∧
      header.layout.tables.toNat = header.tablesStart ∧
      header.layout.nodes.toNat = header.nodesStart ∧
      header.layout.operands.toNat = header.operandsStart := by
  obtain ⟨blob, stringTable, tables, nodes, operands⟩ := header.sectionsOrdered
  have bounded := header.finish_lt
  have wordSize : UInt64.size = 2 ^ 64 := rfl
  exact ⟨rfl, UInt64.toNat_ofNat_of_lt' (by omega), UInt64.toNat_ofNat_of_lt' (by omega),
    UInt64.toNat_ofNat_of_lt' (by omega), UInt64.toNat_ofNat_of_lt' (by omega)⟩

theorem toNat_layout_finish : header.layout.finish.toNat = header.finish :=
  UInt64.toNat_ofNat_of_lt' (Nat.lt_trans header.finish_lt (by decide))

end Header

theorem Layout.ofHeader_eq_ok (header : Header) : Layout.ofHeader header = .ok header.layout := by
  obtain ⟨blob, stringTable, tables, nodes, operands⟩ := header.sectionsOrdered
  have bounded := header.finish_lt
  have wordSize : UInt64.size = 2 ^ 64 := rfl
  have header_ends : Checked.word64 headerSize = .ok (UInt64.ofNat headerSize) :=
    Checked.word64_eq_ok (by decide)
  have blob_ends := afterEntries_ofNat headerSize header.blobSize.toNat 1 (by omega)
  have stringTable_ends := afterEntries_ofNat header.stringTableStart
    (header.stringCount.toNat + 1) boundSize (by omega)
  have tables_end := afterEntries_ofNat header.tablesStart header.tableCount.toNat
    tableEntrySize (by omega)
  have nodes_end := afterEntries_ofNat header.nodesStart header.nodeCount.toNat
    nodeEntrySize (by omega)
  have operands_end := afterEntries_ofNat header.operandsStart header.operandCount.toNat
    operandEntrySize (by omega)
  rw [Nat.mul_one, ← Header.stringTableStart] at blob_ends
  rw [← Header.tablesStart] at stringTable_ends
  rw [← Header.nodesStart] at tables_end
  rw [← Header.operandsStart] at nodes_end
  rw [← Header.finish] at operands_end
  simp only [Layout.ofHeader, header_ends, blob_ends, stringTable_ends, tables_end, nodes_end,
    operands_end, bind, Except.bind]
  rfl

end ScriptMetadata.Container
