import ScriptMetadata.Table

/-!
Modules: tables with pairwise different names, in the order of their declaration. Each operation
is described by what it does to `lookup` and to the list of names.
-/

set_option autoImplicit false

namespace ScriptMetadata

structure Module where
  tables : List Table := []
  names_nodup : (tables.map Table.name).Nodup := by simp
  deriving DecidableEq

namespace Module

/-- The rows are added to the table of that name, which is declared last when there is none. -/
def appendTo (name : String) (rows : List Row) : List Table → List Table
  | [] => [⟨name, rows⟩]
  | table :: rest =>
      if table.name = name then ⟨table.name, table.rows ++ rows⟩ :: rest
      else table :: appendTo name rows rest

theorem names_appendTo (name : String) (rows : List Row) (tables : List Table) :
    (appendTo name rows tables).map Table.name =
      if name ∈ tables.map Table.name then tables.map Table.name
      else tables.map Table.name ++ [name] := by
  induction tables with
  | nil => simp [appendTo]
  | cons table rest induction =>
      by_cases same : table.name = name
      · simp [appendTo, same]
      · have other : name ≠ table.name := fun h => same h.symm
        by_cases member : name ∈ rest.map Table.name
        · simp only [appendTo, same, if_false, List.map_cons, induction, member, if_true,
            List.mem_cons, or_true]
        · simp only [appendTo, same, if_false, List.map_cons, induction, member,
            List.mem_cons, other, or_self, List.cons_append]

theorem nodup_appendTo (name : String) (rows : List Row) {tables : List Table}
    (distinct : (tables.map Table.name).Nodup) :
    ((appendTo name rows tables).map Table.name).Nodup := by
  rw [names_appendTo]
  split
  · exact distinct
  · rename_i absent
    rw [List.nodup_append]
    exact ⟨distinct, by simp, by
      intro first member second single same
      rw [List.mem_singleton.1 single] at same
      exact absent (same ▸ member)⟩

/-- The module without tables. -/
def empty : Module := {}

/-- Adds rows to a table, declaring it when it is new; without rows it only declares. -/
def append (module : Module) (name : String) (rows : List Row) : Module where
  tables := appendTo name rows module.tables
  names_nodup := nodup_appendTo name rows module.names_nodup

/-- Makes sure that there is a table of that name. -/
def declare (module : Module) (name : String) : Module := module.append name []

/-- Adds one row to a table, declaring it when it is new. -/
def addRow (module : Module) (name : String) (row : Row) : Module := module.append name [row]

/-- The tables in order, each added to what is there under its name. -/
def ofTables (tables : List Table) : Module :=
  tables.foldl (fun module table => module.append table.name table.rows) empty

/-- Drops a table; the others keep their order. -/
def erase (module : Module) (name : String) : Module where
  tables := module.tables.filter fun table => table.name ≠ name
  names_nodup := (List.filter_sublist.map Table.name).nodup module.names_nodup

def lookup (module : Module) (name : String) : Option Table :=
  module.tables.find? fun table => table.name = name

/-- A module as a source: every table under its own name. -/
def source (module : Module) : TableSource := module.lookup

def rows? (module : Module) (name : String) : Option (List Row) :=
  (module.lookup name).map Table.rows

/-- Takes a table out: its rows, if there is such a table, and the module without it. -/
def remove (module : Module) (name : String) : Option (List Row) × Module :=
  (module.rows? name, module.erase name)

def contains (module : Module) (name : String) : Bool := (module.lookup name).isSome

def names (module : Module) : List String := module.tables.map Table.name

def size (module : Module) : Nat := module.tables.length

def isEmpty (module : Module) : Bool := module.tables.isEmpty

/-- Whether two modules hold the same tables, in whatever order. -/
def agrees (first second : Module) : Bool :=
  first.size == second.size &&
    first.tables.all fun table => second.lookup table.name == some table

theorem name_of_lookup {module : Module} {name : String} {table : Table}
    (found : module.lookup name = some table) : table.name = name := by
  simpa using List.find?_some found

theorem mem_of_lookup {module : Module} {name : String} {table : Table}
    (found : module.lookup name = some table) : table ∈ module.tables :=
  List.mem_of_find?_eq_some found

theorem lookup_eq_none_iff {module : Module} {name : String} :
    module.lookup name = none ↔ name ∉ module.names := by
  simp [lookup, names]

theorem contains_iff {module : Module} {name : String} :
    module.contains name = true ↔ name ∈ module.names := by
  rw [contains, Option.isSome_iff_ne_none, ne_eq, lookup_eq_none_iff, Classical.not_not]

theorem names_append (module : Module) (name : String) (rows : List Row) :
    (module.append name rows).names =
      if name ∈ module.names then module.names else module.names ++ [name] :=
  names_appendTo name rows module.tables

theorem eq_of_tables_eq {first second : Module} (same : first.tables = second.tables) :
    first = second := by
  cases first
  cases second
  simp_all

theorem tables_append_of_not_mem {module : Module} {name : String}
    (absent : name ∉ module.names) (rows : List Row) :
    (module.append name rows).tables = module.tables ++ [⟨name, rows⟩] := by
  suffices ∀ tables : List Table, name ∉ tables.map Table.name →
      appendTo name rows tables = tables ++ [⟨name, rows⟩] from this module.tables absent
  intro tables absent
  induction tables with
  | nil => rfl
  | cons table rest induction =>
      simp only [List.map_cons, List.mem_cons, not_or] at absent
      have other : table.name ≠ name := fun same => absent.1 same.symm
      rw [appendTo, if_neg other, induction absent.2, List.cons_append]

@[simp] theorem lookup_empty (name : String) : empty.lookup name = none := rfl

private theorem find_appendTo_self (name : String) (rows : List Row) (tables : List Table) :
    (appendTo name rows tables).find? (fun table => table.name = name) =
      some ⟨name, ((tables.find? fun table => table.name = name).elim [] Table.rows) ++ rows⟩ := by
  induction tables with
  | nil => simp [appendTo]
  | cons table rest induction =>
      by_cases same : table.name = name
      · simp [appendTo, same]
      · simp [appendTo, same, induction]

private theorem find_appendTo_of_ne {name other : String} (differs : other ≠ name)
    (rows : List Row) (tables : List Table) :
    (appendTo name rows tables).find? (fun table => table.name = other) =
      tables.find? fun table => table.name = other := by
  induction tables with
  | nil => simp [appendTo, Ne.symm differs]
  | cons table rest induction =>
      by_cases same : table.name = name
      · simp [appendTo, same, Ne.symm differs]
      · by_cases found : table.name = other <;>
          simp [appendTo, same, found, induction, differs]

/-- Rows are added behind those that the table has. -/
theorem lookup_append_self (module : Module) (name : String) (rows : List Row) :
    (module.append name rows).lookup name =
      some ⟨name, (module.rows? name).getD [] ++ rows⟩ := by
  rw [lookup, append, find_appendTo_self, rows?, lookup]
  cases module.tables.find? fun table => table.name = name <;> rfl

theorem lookup_append_of_ne {name other : String} (differs : other ≠ name) (module : Module)
    (rows : List Row) : (module.append name rows).lookup other = module.lookup other :=
  find_appendTo_of_ne differs rows module.tables

@[simp] theorem lookup_erase_self (module : Module) (name : String) :
    (module.erase name).lookup name = none := by
  rw [lookup_eq_none_iff]
  simp [names, erase]

theorem lookup_erase_of_ne {name other : String} (differs : other ≠ name) (module : Module) :
    (module.erase name).lookup other = module.lookup other := by
  rw [lookup, erase, lookup, List.find?_filter]
  congr 1
  funext table
  by_cases found : table.name = other <;> simp [found, differs]

theorem names_erase (module : Module) (name : String) :
    (module.erase name).names = module.names.filter fun other => other ≠ name := by
  simp [names, erase, List.filter_map, Function.comp_def]

end Module

end ScriptMetadata
