import Mathlib.Data.List.Perm.Basic
import ScriptMetadata.Proofs.ExtractorRuns
import ScriptMetadata.Proofs.RoundTrip

/-!
Metadata listed as tables. Whatever the metadata, a module that lists its values is one over which
an extraction answers with it, and so is the container of that module.
-/

set_option autoImplicit false

namespace ScriptMetadata

open Extraction

namespace Table

def hasRows (table : Table) : Bool := !table.rows.isEmpty

theorem rows_eq_nil_of_not_hasRows {table : Table} (bare : ¬table.hasRows = true) :
    table.rows = [] := by
  simpa [hasRows] using bare

end Table

/-! ### Tables added one after the other -/

/-- The rows that tables have under a name, one table after the other. -/
def rowsUnder (name : String) (tables : List Table) : List Row :=
  (tables.filter fun table => table.name = name).flatMap Table.rows

theorem rowsOf_lookup_append (module : Module) (table : Table) (name : String) :
    rowsOf ((module.append table.name table.rows).lookup name) =
      rowsOf (module.lookup name) ++ rowsUnder name [table] := by
  by_cases same : table.name = name
  · rw [← same, Module.lookup_append_self, rowsUnder, List.filter_cons_of_pos (by simp)]
    cases found : module.lookup table.name <;> simp [rowsOf, Module.rows?, found]
  · rw [Module.lookup_append_of_ne (Ne.symm same), rowsUnder, List.filter_cons_of_neg (by simpa)]
    simp

theorem rowsOf_lookup_ofTables (tables : List Table) (name : String) :
    rowsOf ((Module.ofTables tables).lookup name) = rowsUnder name tables := by
  suffices ∀ module : Module, rowsOf ((tables.foldl (fun module table =>
      module.append table.name table.rows) module).lookup name) =
        rowsOf (module.lookup name) ++ rowsUnder name tables from this Module.empty
  intro module
  induction tables generalizing module with
  | nil => exact (List.append_nil _).symm
  | cons table rest induction =>
      have split : rowsUnder name (table :: rest) =
          rowsUnder name [table] ++ rowsUnder name rest := by
        rw [rowsUnder, ← List.singleton_append, List.filter_append, List.flatMap_append]
        rfl
      rw [List.foldl_cons, induction, rowsOf_lookup_append, split, List.append_assoc]

theorem flatMap_rows_filter_hasRows (tables : List Table) :
    (tables.filter Table.hasRows).flatMap Table.rows = tables.flatMap Table.rows := by
  induction tables with
  | nil => rfl
  | cons table rest induction =>
      rw [List.filter_cons]
      split
      · rw [List.flatMap_cons, List.flatMap_cons, induction]
      · rename_i bare
        rw [List.flatMap_cons, induction, Table.rows_eq_nil_of_not_hasRows bare, List.nil_append]

theorem filter_name_eq_singleton {tables : List Table} (distinct : (tables.map Table.name).Nodup)
    {table : Table} (member : table ∈ tables) :
    (tables.filter fun other => other.name = table.name) = [table] := by
  obtain ⟨before, after, rfl⟩ := List.append_of_mem member
  simp only [List.map_append, List.map_cons, List.nodup_append, List.nodup_cons] at distinct
  rcases distinct with ⟨-, ⟨absent, -⟩, apart⟩
  have first : (before.filter fun other => other.name = table.name) = [] := by
    rw [List.filter_eq_nil_iff]
    intro other earlier
    rw [decide_eq_true_iff]
    exact apart other.name (List.mem_map_of_mem earlier) table.name List.mem_cons_self
  have last : (after.filter fun other => other.name = table.name) = [] := by
    rw [List.filter_eq_nil_iff]
    intro other later
    rw [decide_eq_true_iff]
    intro same
    exact absent (List.mem_map.2 ⟨other, later, same⟩)
  rw [List.filter_append, List.filter_cons_of_pos (by simp), first, last, List.nil_append]

/-- Which tables without rows there are, and in which order the others stand, has no influence on
the rows under a name. -/
theorem rowsUnder_of_perm {tables listing : List Table}
    (order : (tables.filter Table.hasRows).Perm (listing.filter Table.hasRows))
    (distinct : (listing.map Table.name).Nodup) {table : Table} (member : table ∈ listing) :
    rowsUnder table.name tables = table.rows := by
  have named := order.filter fun other => other.name = table.name
  rw [List.filter_comm _ _ tables, List.filter_comm _ _ listing,
    filter_name_eq_singleton distinct member] at named
  rw [rowsUnder, ← flatMap_rows_filter_hasRows]
  by_cases full : table.hasRows = true
  · rw [List.filter_cons_of_pos full] at named
    rw [List.perm_singleton.1 named, List.flatMap_singleton]
  · rw [List.filter_cons_of_neg full] at named
    rw [List.perm_nil.1 named, Table.rows_eq_nil_of_not_hasRows full]
    rfl

/-! ### The tables of a metadata value -/

def flagText (flag : Bool) : String := if flag then "yes" else "no"

namespace Metadata

/-- The values of the metadata row by row, a table for each reserved name. Of the rows for debug
information only their presence counts. -/
def listing (metadata : Metadata) (debugRows : List Row) : List Table :=
  [⟨Schema.compilerVersion, [wordRow metadata.compilerVersion]⟩,
    ⟨Schema.optimizationLevel, [wordRow metadata.optimizationLevel]⟩,
    ⟨Schema.floatPrecision, [wordRow metadata.floatPrecision.toWord]⟩,
    ⟨Schema.vars, metadata.vars.map textRow⟩,
    ⟨Schema.funcs, metadata.funcs.map textRow⟩,
    ⟨Schema.kernelNames, metadata.kernelNames.map textRow⟩,
    ⟨Schema.kernelSignatures, metadata.kernelSignatures.map wordRow⟩,
    ⟨Schema.pragmas, metadata.pragmas.map pragmaRow⟩,
    ⟨Schema.objectSlots, metadata.objectSlots.map wordRow⟩,
    ⟨Schema.threadable, [textRow (flagText metadata.threadable)]⟩,
    ⟨Schema.buildChecksum, metadata.buildChecksum.toList.map textRow⟩,
    ⟨Schema.debugInfo, debugRows⟩]

/-- Tables that list the metadata in any order; those without rows may be left out. -/
def ListedBy (metadata : Metadata) (tables : List Table) : Prop :=
  ∃ debugRows, (metadata.debugInfo = true ↔ debugRows ≠ []) ∧
    (tables.filter Table.hasRows).Perm ((metadata.listing debugRows).filter Table.hasRows)

variable {metadata : Metadata} {tables : List Table}

theorem nodup_listing (metadata : Metadata) (debugRows : List Row) :
    ((metadata.listing debugRows).map Table.name).Nodup := Schema.nodup_reserved

theorem decodes_of_listedBy (listed : metadata.ListedBy tables) :
    (∃ word, DecodesNumber ((Module.ofTables tables).source Schema.floatPrecision) word) ∧
      Decodes (Module.ofTables tables).source metadata := by
  rcases listed with ⟨debugRows, debugInfo, order⟩
  have stored : ∀ table ∈ metadata.listing debugRows,
      rowsOf ((Module.ofTables tables).source table.name) = table.rows := by
    intro table member
    rw [Module.source, rowsOf_lookup_ofTables]
    exact rowsUnder_of_perm order (metadata.nodup_listing debugRows) member
  simp only [listing, List.forall_mem_cons] at stored
  rcases stored with ⟨version, level, precision, vars, funcs, names, signatures, pragmas, slots,
    threadable, checksum, debug, -⟩
  refine ⟨⟨_, .inr precision⟩, vars, funcs, names, signatures, pragmas, slots, .inr version,
    .inr level, ?_, ?_, ?_, ?_⟩
  · rw [precision, wordRows_eq_iff]
    cases metadata.floatPrecision <;> decide
  · rw [threadable]
    cases metadata.threadable <;> decide
  · intro value
    rw [checksum]
    cases metadata.buildChecksum <;> simp [textRow]
  · rw [debug]
    exact debugInfo

theorem extract_of_listedBy (listed : metadata.ListedBy tables) :
    (extract (Module.ofTables tables).source).outcome = .ok metadata :=
  extract_eq_ok_iff_decodes.2 (decodes_of_listedBy listed)

end Metadata

namespace Extractor

theorem attempt_eq_of_extract {source : TableSource} {metadata : Metadata}
    (extracted : (ScriptMetadata.extract source).outcome = .ok metadata) (ownership : Ownership) :
    (ofSource source ownership).attempt.value = (.ok (), carrying source ownership metadata) :=
  (attempt_carrying_eq_iff source ownership {}).2 (extract_eq_ok_iff.1 extracted)

theorem value_ofBytes_emit (options : Container.LoadOptions) {module : Module}
    (small : (Container.emit module).size < UInt32.size) :
    (ofBytes options (Container.emit module)).value = ofSource module.source .owned := by
  rw [value_ofBytes, Container.load_emit options small]

/-- Metadata of any kind comes back from the tables that list it, and from the container that is
written for them. -/
theorem listed_metadata_comes_back (metadata : Metadata) (tables : List Table)
    (listed : metadata.ListedBy tables) (ownership : Ownership) :
    (ofSource (Module.ofTables tables).source ownership).attempt.value =
        (.ok (), carrying (Module.ofTables tables).source ownership metadata) ∧
      (Container.write (Module.ofTables tables)).bytes =
        Container.emit (Module.ofTables tables) ∧
      ((Container.emit (Module.ofTables tables)).size < 2 ^ 32 →
        ∀ options, (ofBytes options (Container.emit (Module.ofTables tables))).value.attempt.value =
          (.ok (), carrying (Module.ofTables tables).source .owned metadata)) := by
  have extracted := Metadata.extract_of_listedBy listed
  refine ⟨?_, Container.write_bytes _, ?_⟩
  · exact attempt_eq_of_extract extracted ownership
  · intro small options
    rw [value_ofBytes_emit options small]
    exact attempt_eq_of_extract extracted .owned

/-- A script with a kernel and a repeated pragma, in which everything is off its default. -/
def sampleScript : Metadata where
  vars := ["a", "", "a"]
  funcs := ["f"]
  kernels := [⟨"k\n", 0xFFFFFFFF⟩]
  pragmas := [⟨"p", "1"⟩, ⟨"p", "1"⟩]
  compilerVersion := 3
  optimizationLevel := 2
  floatPrecision := .relaxed
  threadable := false
  buildChecksum := some "no"
  debugInfo := true

/-- The tables of the script backwards, without the empty one of the object slots. -/
theorem listed_sample_comes_back :
    let tables := ((sampleScript.listing [[]]).filter Table.hasRows).reverse
    sampleScript.ListedBy tables ∧ (Container.emit (Module.ofTables tables)).size = 960 ∧
      (ofBytes {} (Container.emit (Module.ofTables tables))).value.attempt.value =
        (.ok (), carrying (Module.ofTables tables).source .owned sampleScript) := by
  intro tables
  have listed : sampleScript.ListedBy tables := by
    refine ⟨[[]], by decide, ?_⟩
    rw [List.filter_reverse, List.filter_filter]
    simp only [Bool.and_self]
    exact List.reverse_perm _
  have size : (Container.emit (Module.ofTables tables)).size = 960 := by decide +kernel
  have small : (Container.emit (Module.ofTables tables)).size < 2 ^ 32 := by
    rw [size]
    decide
  exact ⟨listed, size, (listed_metadata_comes_back _ _ listed .owned).2.2 small {}⟩

end Extractor

end ScriptMetadata
