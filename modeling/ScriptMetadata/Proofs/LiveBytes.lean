import ScriptMetadata.Proofs.DamageDetection
import ScriptMetadata.Proofs.Resealing

/-!
Which bytes of a file are interpreted. The live positions are those of the header words that the
loader compares or counts by, of the strings with their bounds, and of the used parts of the
entries. Everything else may hold anything: two files that differ in dead bytes only load alike, as
the same module or with the same error.
-/

set_option autoImplicit false

namespace ScriptMetadata.Container

open LittleEndian

/-! ### Live and dead positions -/

/-- The positions that may decide how a file with this header and layout loads. -/
inductive IsLive (header : Header) (layout : Layout) (position : Nat) : Prop where
  /-- Magic and version. -/
  | identity (within : InSpan 0 8 position)
  /-- The total size and all counts. -/
  | sizes (within : InSpan 12 24 position)
  | blob (within : InSpan layout.blob.toNat header.blobSize.toNat position)
  | stringTable (within : InSpan layout.stringTable.toNat
      ((header.stringCount.toNat + 1) * boundSize) position)
  /-- The name and the node range of a table. -/
  | table (index : Nat) (stored : index < header.tableCount.toNat)
      (within : InSpan (layout.tables.toNat + index * tableEntrySize) 12 position)
  | node (index : Nat) (stored : index < header.nodeCount.toNat)
      (within : InSpan (layout.nodes.toNat + index * nodeEntrySize) nodeEntrySize position)
  | operandTag (index : Nat) (stored : index < header.operandCount.toNat)
      (within : InSpan (layout.operands.toNat + index * operandEntrySize) 1 position)
  | operandPayload (index : Nat) (stored : index < header.operandCount.toNat)
      (within : InSpan (layout.operands.toNat + index * operandEntrySize + 8) 8 position)

/-- The positions that only fill up: reserved bytes, padding inside the entries, and what stands
between the end of a section and the start of the next one. -/
inductive IsFiller (header : Header) (layout : Layout) (position : Nat) : Prop where
  | reserved (within : InSpan 36 28 position)
  | table (index : Nat) (stored : index < header.tableCount.toNat)
      (within : InSpan (layout.tables.toNat + index * tableEntrySize + 12) 4 position)
  | operand (index : Nat) (stored : index < header.operandCount.toNat)
      (within : InSpan (layout.operands.toNat + index * operandEntrySize + 1) 7 position)
  | behindBlob (ended : layout.blob.toNat + header.blobSize.toNat ≤ position)
      (before : position < layout.stringTable.toNat)
  | behindStringTable
      (ended : layout.stringTable.toNat + (header.stringCount.toNat + 1) * boundSize ≤ position)
      (before : position < layout.tables.toNat)
  | behindTables
      (ended : layout.tables.toNat + header.tableCount.toNat * tableEntrySize ≤ position)
      (before : position < layout.nodes.toNat)
  | behindNodes (ended : layout.nodes.toNat + header.nodeCount.toNat * nodeEntrySize ≤ position)
      (before : position < layout.operands.toNat)
  /-- Whatever follows the last operand, to the end of the file. -/
  | behindOperands
      (ended : layout.operands.toNat + header.operandCount.toNat * operandEntrySize ≤ position)

/-- The checksum is not interpreted either as long as nobody verifies it. -/
inductive IsDead (header : Header) (layout : Layout) (position : Nat) : Prop where
  | checksum (within : InSpan 8 4 position)
  | filler (unused : IsFiller header layout position)

/-- The two files have the same bytes at all positions that the layout of the first one selects. -/
def AgreeOn (selected : Header → Layout → Nat → Prop) (first second : ByteArray) : Prop :=
  ∀ header layout, Header.decode first = .ok header → Layout.ofHeader header = .ok layout →
    ∀ position, selected header layout position → first[position]? = second[position]?

/-- The sections as the layout places them: each ends before the next one starts. -/
structure SectionsApart (header : Header) (layout : Layout) : Prop where
  front : headerSize ≤ layout.blob.toNat
  blob : layout.blob.toNat + header.blobSize.toNat ≤ layout.stringTable.toNat
  stringTable :
    layout.stringTable.toNat + (header.stringCount.toNat + 1) * boundSize ≤ layout.tables.toNat
  tables : layout.tables.toNat + header.tableCount.toNat * tableEntrySize ≤ layout.nodes.toNat
  nodes : layout.nodes.toNat + header.nodeCount.toNat * nodeEntrySize ≤ layout.operands.toNat

theorem sectionsApart (header : Header) : SectionsApart header header.layout := by
  obtain ⟨blobStart, stringTableStart, tablesStart, nodesStart, operandsStart⟩ :=
    header.toNat_layout
  obtain ⟨blob, stringTable, tables, nodes, -⟩ := header.sectionsOrdered
  constructor
  · exact blobStart.ge
  · rwa [blobStart, stringTableStart]
  · rwa [stringTableStart, tablesStart]
  · rwa [tablesStart, nodesStart]
  · rwa [nodesStart, operandsStart]

variable {header : Header} {layout : Layout} {position : Nat}

/-- No position is both live and dead. All bounds are linear in the indices of the entries, so that
each pair of cases is a question of arithmetic. -/
theorem IsDead.not_isLive (apart : SectionsApart header layout)
    (dead : IsDead header layout position) : ¬IsLive header layout position := by
  obtain ⟨front, blob, stringTable, tables, nodes⟩ := apart
  simp only [headerSize, boundSize, tableEntrySize, nodeEntrySize] at front stringTable tables nodes
  intro live
  rcases dead with within | filler
  · rw [InSpan] at within
    cases live <;>
      simp only [InSpan, boundSize, tableEntrySize, nodeEntrySize, operandEntrySize] at * <;> omega
  · cases filler <;> cases live <;>
      simp only [InSpan, boundSize, tableEntrySize, nodeEntrySize, operandEntrySize] at * <;> omega

/-! ### Reads of two files that agree -/

/-- The two files have the same bytes in a span, or both have none there. -/
def SameSpan (first second : ByteArray) (start size : Nat) : Prop :=
  ∀ position, InSpan start size position → first[position]? = second[position]?

namespace SameSpan

variable {first second : ByteArray} {start size : Nat}

theorem extract_eq (same : SameSpan first second start size) :
    first.extract start (start + size) = second.extract start (start + size) := by
  apply eq_of_toList_eq
  rw [toList_extract, toList_extract, Nat.add_sub_cancel_left]
  apply List.ext_getElem?
  intro index
  rw [List.getElem?_take, List.getElem?_take]
  split
  · rename_i below
    have read := same (start + index) ⟨Nat.le_add_right start index, by omega⟩
    rw [getElem?_eq_toList, getElem?_eq_toList] at read
    rw [List.getElem?_drop, List.getElem?_drop, read]
  · rfl

theorem part (same : SameSpan first second start size) {offset width : Nat}
    (inside : offset + width ≤ size) : SameSpan first second (start + offset) width := by
  rintro position ⟨above, below⟩
  exact same position ⟨by omega, by omega⟩

theorem byteAt_eq (same : SameSpan first second start 1) :
    byteAt first start = byteAt second start := by
  rw [byteAt, byteAt, numberAt, numberAt, same.extract_eq]

theorem word32At_eq (same : SameSpan first second start 4) :
    word32At first start = word32At second start := by
  rw [word32At, word32At, numberAt, numberAt, same.extract_eq]

theorem rangeAt_eq (same : SameSpan first second start nodeEntrySize) :
    rangeAt first start = rangeAt second start := by
  have low : SameSpan first second (start + 0) 4 := same.part (by decide)
  have high : SameSpan first second (start + 4) 4 := same.part (by decide)
  rw [rangeAt, rangeAt, high.word32At_eq]
  rw [Nat.add_zero] at low
  rw [low.word32At_eq]

theorem tableEntryAt_eq (same : SameSpan first second start 12) :
    tableEntryAt first start = tableEntryAt second start := by
  have name : SameSpan first second (start + 0) 4 := same.part (by decide)
  have rows : SameSpan first second (start + 4) nodeEntrySize := same.part (by decide)
  rw [tableEntryAt, tableEntryAt, rows.rangeAt_eq]
  rw [Nat.add_zero] at name
  rw [name.word32At_eq]

theorem operandEntryAt_eq (tag : SameSpan first second start 1)
    (payload : SameSpan first second (start + 8) 8) :
    operandEntryAt first start = operandEntryAt second start := by
  rw [operandEntryAt, operandEntryAt, tag.byteAt_eq, numberAt, numberAt, payload.extract_eq]

end SameSpan

theorem entriesAt_congr_of_lt {α : Type} {value value' : Nat → α} {start count entrySize : Nat}
    (same : ∀ index < count,
      value (start + index * entrySize) = value' (start + index * entrySize)) :
    entriesAt value start count entrySize = entriesAt value' start count entrySize :=
  List.map_congr_left fun index member => same index (List.mem_range.1 member)

/-! ### Two files that agree on the live bytes -/

namespace Header

/-- Two headers that differ in the checksum and the reserved bytes only. -/
structure SameLive (header other : Header) : Prop where
  magic : header.magic = other.magic
  version : header.version = other.version
  totalSize : header.totalSize = other.totalSize
  blobSize : header.blobSize = other.blobSize
  stringCount : header.stringCount = other.stringCount
  tableCount : header.tableCount = other.tableCount
  nodeCount : header.nodeCount = other.nodeCount
  operandCount : header.operandCount = other.operandCount

namespace SameLive

variable {header other : Header} (same : header.SameLive other)

include same

theorem validate_lenient_eq {first second : ByteArray} (size : first.size = second.size) :
    header.validate lenient first = other.validate lenient second := by
  simp [validate, hasMagic, hasFormatVersion, lenient, same.magic, same.version, same.totalSize,
    size]

theorem loadSections_eq (bytes : ByteArray) :
    loadSections bytes header = loadSections bytes other := by
  cases header
  cases other
  obtain ⟨rfl, rfl, rfl, rfl, rfl, rfl, rfl, rfl⟩ := same
  rfl

end SameLive

end Header

section Agreement

variable {first second : ByteArray}
  (agree : ∀ position, IsLive (headerAt first) (headerAt first).layout position →
    first[position]? = second[position]?)

include agree

theorem headerAt_sameLive : (headerAt first).SameLive (headerAt second) := by
  have identity : SameSpan first second 0 8 :=
    fun position within => agree position (.identity within)
  have sizes : SameSpan first second 12 24 := fun position within => agree position (.sizes within)
  have magic (index : Fin 4) : byteAt first index = byteAt second index := by
    have byte : SameSpan first second (0 + index) 1 := identity.part (by omega)
    rw [Nat.zero_add] at byte
    exact byte.byteAt_eq
  have version : SameSpan first second (0 + 4) 4 := identity.part (by decide)
  have word (offset : Nat) (inside : offset + 4 ≤ 24) :
      word32At first (12 + offset) = word32At second (12 + offset) :=
    (sizes.part inside).word32At_eq
  exact ⟨congrArg Vector.ofFn (funext magic), version.word32At_eq, word 0 (by decide),
    word 4 (by decide), word 8 (by decide), word 12 (by decide), word 16 (by decide),
    word 20 (by decide)⟩

theorem imageAt_eq_of_live :
    imageAt second (headerAt first) = imageAt first (headerAt first) := by
  obtain ⟨blobStart, stringTableStart, tablesStart, nodesStart, operandsStart⟩ :=
    (headerAt first).toNat_layout
  have blob : SameSpan first second headerSize (headerAt first).blobSize.toNat :=
    fun position within => agree position (.blob (blobStart ▸ within))
  have strings : SameSpan first second (headerAt first).stringTableStart
      (((headerAt first).stringCount.toNat + 1) * boundSize) :=
    fun position within => agree position (.stringTable (stringTableStart ▸ within))
  have bound (index : Nat) (below : index < (headerAt first).stringCount.toNat + 1) :
      SameSpan first second ((headerAt first).stringTableStart + index * boundSize) 4 :=
    strings.part (by rw [boundSize]; omega)
  have table (index : Nat) (below : index < (headerAt first).tableCount.toNat) :
      SameSpan first second ((headerAt first).tablesStart + index * tableEntrySize) 12 :=
    fun position within => agree position (.table index below (tablesStart ▸ within))
  have node (index : Nat) (below : index < (headerAt first).nodeCount.toNat) :
      SameSpan first second ((headerAt first).nodesStart + index * nodeEntrySize) nodeEntrySize :=
    fun position within => agree position (.node index below (nodesStart ▸ within))
  have tag (index : Nat) (below : index < (headerAt first).operandCount.toNat) :
      SameSpan first second ((headerAt first).operandsStart + index * operandEntrySize) 1 :=
    fun position within => agree position (.operandTag index below (operandsStart ▸ within))
  have payload (index : Nat) (below : index < (headerAt first).operandCount.toNat) :
      SameSpan first second ((headerAt first).operandsStart + index * operandEntrySize + 8) 8 :=
    fun position within => agree position (.operandPayload index below (operandsStart ▸ within))
  rw [imageAt, imageAt, blob.extract_eq,
    entriesAt_congr_of_lt fun index below => (bound index below).word32At_eq,
    entriesAt_congr_of_lt fun index below => (table index below).tableEntryAt_eq,
    entriesAt_congr_of_lt fun index below => (node index below).rangeAt_eq,
    entriesAt_congr_of_lt fun index below =>
      SameSpan.operandEntryAt_eq (tag index below) (payload index below)]

variable (size : first.size = second.size)

include size

theorem load_lenient_eq_of_live (complete : headerSize ≤ first.size) :
    load lenient first = load lenient second := by
  have header := headerAt_sameLive agree
  have sections : loadSections first (headerAt first) = loadSections second (headerAt second) := by
    rw [← header.loadSections_eq second, loadSections, loadSections, imageAt_eq_of_live agree, size]
  rw [load_eq_of_decode (Header.decode_eq_ok complete),
    load_eq_of_decode (Header.decode_eq_ok (size ▸ complete)), header.validate_lenient_eq size,
    sections]

end Agreement

/-- Loading without the checksum interprets live bytes only, whether it succeeds or fails; so the
bytes at dead positions may hold anything. -/
theorem load_ignores_dead_bytes (first second : ByteArray) (size : first.size = second.size) :
    (AgreeOn IsLive first second → load lenient first = load lenient second) ∧
      (AgreeOn (fun header layout position => ¬IsDead header layout position) first second →
        load lenient first = load lenient second) := by
  have live (agree : AgreeOn IsLive first second) : load lenient first = load lenient second := by
    by_cases complete : headerSize ≤ first.size
    · exact load_lenient_eq_of_live (agree _ _ (Header.decode_eq_ok complete)
        (Layout.ofHeader_eq_ok _)) size complete
    · rw [load_of_incomplete complete, load_of_incomplete (size ▸ complete), size]
  refine ⟨live, ?_⟩
  intro agree
  apply live
  intro header layout decoded derived position selected
  have described : layout = header.layout :=
    Except.ok.inj (derived.symm.trans (Layout.ofHeader_eq_ok header))
  subst described
  exact agree header _ decoded derived position fun dead =>
    dead.not_isLive (sectionsApart header) selected

/-- One table with one row of a text and a number. -/
def textAndNumber : Image where
  blob := "a".toUTF8
  bounds := [0, 1]
  tables := [⟨0, ⟨0, 1⟩⟩]
  nodes := #[⟨0, 2⟩]
  operands := #[⟨textTag, 0⟩, ⟨integerTag, 7⟩]

/-- A header of these sections without a checksum. -/
def unsealedHeader : Header := { textAndNumber.header with checksum := 0 }

def unsealed : ByteArray := unsealedHeader.encode ++ textAndNumber.body

/-- The file with other bytes at the given positions. -/
def scrawl (positions : List Nat) (bytes : ByteArray) : ByteArray :=
  ⟨positions.foldl (fun data position => data.setIfInBounds position 0xFF) bytes.data⟩

theorem getElem?_scrawl {position : Nat} {positions : List Nat} (bytes : ByteArray)
    (spared : position ∉ positions) : (scrawl positions bytes)[position]? = bytes[position]? := by
  rw [getElem?_eq_toList, getElem?_eq_toList, Array.getElem?_toList, Array.getElem?_toList, scrawl]
  generalize bytes.data = data
  induction positions generalizing data with
  | nil => rfl
  | cons written others induction =>
      obtain ⟨different, spared⟩ := List.ne_and_not_mem_of_not_mem_cons spared
      rw [List.foldl_cons, induction spared, Array.getElem?_setIfInBounds_ne different.symm]

/-- A byte of the checksum, a reserved one, one behind each of the first two sections, one inside a
table entry and one inside an operand, and the last byte of the file. -/
def scrawledPositions : List Nat := [9, 40, 100, 140, 206, 339, 383]

theorem isDead_of_mem_scrawledPositions {position : Nat} (member : position ∈ scrawledPositions) :
    IsDead unsealedHeader unsealedHeader.layout position := by
  simp only [scrawledPositions, List.mem_cons, List.not_mem_nil, or_false] at member
  rcases member with rfl | rfl | rfl | rfl | rfl | rfl | rfl
  · exact .checksum (by decide)
  · exact .filler (.reserved (by decide))
  · exact .filler (.behindBlob (by decide) (by decide))
  · exact .filler (.behindStringTable (by decide) (by decide))
  · exact .filler (.table 0 (by decide) (by decide))
  · exact .filler (.operand 1 (by decide) (by decide))
  · exact .filler (.behindOperands (by decide))

/-- The scribbled file still loads as the table that the clean one holds. -/
theorem load_ignores_scrawl :
    load lenient (scrawl scrawledPositions unsealed) =
      .ok (.ofTables [⟨"a", [[.text "a", .integer 7]]⟩]) := by
  have size : unsealed.size = (scrawl scrawledPositions unsealed).size := by decide +kernel
  have loaded : load lenient unsealed = .ok (.ofTables [⟨"a", [[.text "a", .integer 7]]⟩]) := by
    decide +kernel
  obtain ⟨-, ignored⟩ := load_ignores_dead_bytes unsealed (scrawl scrawledPositions unsealed) size
  rw [← ignored, loaded]
  intro header layout decoded derived position alive
  have stored : header = unsealedHeader :=
    Except.ok.inj (decoded.symm.trans (Header.decode_encode_append unsealedHeader _))
  have described : layout = header.layout :=
    Except.ok.inj (derived.symm.trans (Layout.ofHeader_eq_ok header))
  subst described stored
  exact (getElem?_scrawl unsealed fun member =>
    alive (isDead_of_mem_scrawledPositions member)).symm

end ScriptMetadata.Container
