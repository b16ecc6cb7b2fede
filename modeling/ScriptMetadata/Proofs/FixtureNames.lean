import Mathlib.Data.List.Nodup
import Mathlib.Order.Nat
import ScriptMetadata.Proofs.FixtureReading

/-!
The names in a fixture. A text that is right throughout becomes the module of its tables when their
names differ; otherwise it is refused for the first name that an earlier table has. Names are those
that the text denotes, however it spells them.
-/

set_option autoImplicit false

namespace ScriptMetadata.Fixture

/-! ### The first repetition -/

/-- The name at the position is also the name at a position before it. -/
def RepeatsAt (names : List String) (position : Nat) : Prop :=
  ∃ name, names[position]? = some name ∧ name ∈ names.take position

instance (names : List String) (position : Nat) : Decidable (RepeatsAt names position) :=
  decidable_of_iff (∃ name ∈ names[position]?.toList, name ∈ names.take position)
    (by simp only [Option.mem_toList, RepeatsAt])

/-- The least position at which a name repeats an earlier one. -/
def FirstRepetition (names : List String) (position : Nat) : Prop :=
  IsLeast {position | RepeatsAt names position} position

theorem nodup_iff_forall_not_repeatsAt {names : List String} :
    names.Nodup ↔ ∀ position, ¬RepeatsAt names position := by
  rw [List.Nodup, List.pairwise_iff_getElem]
  constructor
  · rintro distinct position ⟨name, found, earlier⟩
    obtain ⟨inside, rfl⟩ := List.getElem?_eq_some_iff.1 found
    obtain ⟨first, below, same⟩ := List.mem_take_iff_getElem.1 earlier
    exact distinct first position (by omega) inside (by omega) same
  · intro fresh first second inside inside' before same
    apply fresh second
    refine ⟨names[second], List.getElem?_eq_getElem inside', ?_⟩
    exact List.mem_take_iff_getElem.2 ⟨first, by omega, same⟩

theorem exists_firstRepetition {names : List String} (repeated : ¬names.Nodup) :
    ∃ position, FirstRepetition names position := by
  rw [nodup_iff_forall_not_repeatsAt, not_forall_not] at repeated
  exact ⟨Nat.find repeated, Nat.find_spec repeated, fun _ member => Nat.find_min' repeated member⟩

namespace FirstRepetition

variable {names : List String} {position : Nat} (first : FirstRepetition names position)

include first

theorem nodup_take : (names.take position).Nodup := by
  rw [nodup_iff_forall_not_repeatsAt]
  rintro earlier ⟨name, found, member⟩
  have before : earlier < position := by
    have inside := (List.getElem?_eq_some_iff.1 found).1
    rw [List.length_take] at inside
    omega
  rw [List.getElem?_take_of_lt before] at found
  rw [List.take_take, Nat.min_eq_left (Nat.le_of_lt before)] at member
  exact Nat.not_le.2 before (first.2 ⟨name, found, member⟩)

end FirstRepetition

/-! ### Building the module -/

theorem declareNew_of_not_mem {module : Module} {table : Table}
    (fresh : table.name ∉ module.names) :
    declareNew module table = .ok (module.append table.name table.rows) :=
  if_neg fun present => fresh (Module.contains_iff.1 present)

theorem declareNew_of_mem {module : Module} {table : Table} (repeated : table.name ∈ module.names) :
    declareNew module table = .error (.duplicateTable table.name) :=
  if_pos (Module.contains_iff.2 repeated)

/-- While the names stay different, the module holds the tables before it and those read so far. -/
theorem foldlM_declareNew_of_nodup {tables : List Table} {module : Module}
    (distinct : (module.names ++ tables.map Table.name).Nodup) :
    ∃ result, tables.foldlM declareNew module = .ok result ∧
      tables.foldl (fun module table => module.append table.name table.rows) module = result ∧
      result.tables = module.tables ++ tables := by
  induction tables generalizing module with
  | nil => exact ⟨module, rfl, rfl, (List.append_nil _).symm⟩
  | cons table rest induction =>
      have fresh : table.name ∉ module.names := by
        intro member
        exact (List.nodup_append.1 distinct).2.2 _ member _ List.mem_cons_self rfl
      have grown := Module.tables_append_of_not_mem fresh table.rows
      have names : (module.append table.name table.rows).names = module.names ++ [table.name] := by
        rw [Module.names_append, if_neg fresh]
      rw [List.map_cons, List.append_cons, ← names] at distinct
      obtain ⟨result, built, same, tables⟩ := induction distinct
      refine ⟨result, ?_, same, ?_⟩
      · rw [List.foldlM_cons, declareNew_of_not_mem fresh]
        exact built
      · rw [tables, grown, List.append_assoc, List.singleton_append]

section Repetition

variable {tables : List Table}

/-- Tables with different names are the tables of the module that they add up to. -/
theorem foldlM_declareNew_ofTables (distinct : (tables.map Table.name).Nodup) :
    tables.foldlM declareNew Module.empty = .ok (.ofTables tables) ∧
      (Module.ofTables tables).tables = tables := by
  have start : (Module.empty.names ++ tables.map Table.name).Nodup := distinct
  obtain ⟨module, built, rfl, grown⟩ := foldlM_declareNew_of_nodup start
  exact ⟨built, grown⟩

theorem foldlM_declareNew_of_firstRepetition {position : Nat} {table : Table}
    (first : FirstRepetition (tables.map Table.name) position)
    (found : tables[position]? = some table) :
    tables.foldlM declareNew Module.empty = .error (.duplicateTable table.name) := by
  have distinct := first.nodup_take
  rw [← List.map_take] at distinct
  obtain ⟨built, before⟩ := foldlM_declareNew_ofTables distinct
  have repeated : table.name ∈ (Module.ofTables (tables.take position)).names := by
    obtain ⟨name, named, earlier⟩ := first.1
    rw [List.getElem?_map, found] at named
    cases named
    rwa [Module.names, before, List.map_take]
  have remaining : tables.drop position = table :: tables.drop (position + 1) := by
    obtain ⟨inside, rfl⟩ := List.getElem?_eq_some_iff.1 found
    exact List.drop_eq_getElem_cons inside
  rw [← List.take_append_drop position tables, List.foldlM_append, built, remaining]
  change List.foldlM declareNew _ _ = _
  rw [List.foldlM_cons, declareNew_of_mem repeated]
  rfl

theorem exists_repetition_of_not_nodup (repeated : ¬(tables.map Table.name).Nodup) :
    ∃ position table, FirstRepetition (tables.map Table.name) position ∧
      tables[position]? = some table ∧
        tables.foldlM declareNew Module.empty = .error (.duplicateTable table.name) := by
  obtain ⟨position, first⟩ := exists_firstRepetition repeated
  obtain ⟨name, named, -⟩ := first.1
  rw [List.getElem?_map, Option.map_eq_some_iff] at named
  obtain ⟨table, found, -⟩ := named
  exact ⟨position, table, first, found, foldlM_declareNew_of_firstRepetition first found⟩

theorem exists_foldlM_declareNew_iff :
    (∃ module, tables.foldlM declareNew Module.empty = .ok module) ↔
      (tables.map Table.name).Nodup := by
  constructor
  · rintro ⟨module, built⟩
    by_contra repeated
    obtain ⟨position, table, -, -, rejected⟩ := exists_repetition_of_not_nodup repeated
    exact nomatch built.symm.trans rejected
  · exact fun distinct => ⟨_, (foldlM_declareNew_ofTables distinct).1⟩

end Repetition

/-- The tables of an object carry the names of its members. -/
theorem names_of_isTables {members : List (String × Json.Value)} {tables : List Table}
    (means : IsTables (.object members) tables) :
    members.map Prod.fst = tables.map Table.name := by
  cases means with
  | members each =>
      induction each with
      | nil => rfl
      | cons head _ induction => rw [List.map_cons, List.map_cons, head.1, induction]

theorem parse_of_describes {text : String} {tables : List Table}
    (described : Describes text.toList tables) :
    parse text = tables.foldlM declareNew Module.empty := by
  rw [parse, describes_iff.1 described]

/-- A text that describes tables is the module of these tables, in their order, when their names
differ, and is refused for the first name that repeats an earlier one when they do not. What counts
are the names that the text denotes, and only in a text that describes tables do they count. -/
theorem parse_compares_names (text : String) :
    (∀ tables, Describes text.toList tables →
      ((tables.map Table.name).Nodup →
        parse text = .ok (.ofTables tables) ∧ (Module.ofTables tables).tables = tables) ∧
      (¬(tables.map Table.name).Nodup →
        ∃ position table, FirstRepetition (tables.map Table.name) position ∧
          tables[position]? = some table ∧ parse text = .error (.duplicateTable table.name))) ∧
      (∀ members tables, IsTables (.object members) tables →
        Json.WritesElement (.object members) text.toList →
          ((∃ module, parse text = .ok module) ↔ (members.map Prod.fst).Nodup)) ∧
      ((¬∃ tables, Describes text.toList tables) ↔ parse text = .error .malformed) := by
  refine ⟨?_, ?_, ?_⟩
  · intro tables described
    rw [parse_of_describes described]
    exact ⟨foldlM_declareNew_ofTables, exists_repetition_of_not_nodup⟩
  · intro members tables means writes
    rw [parse_of_describes ⟨_, writes, means⟩, names_of_isTables means]
    exact exists_foldlM_declareNew_iff
  · simp only [describes_iff]
    rw [← parse_ne_malformed_iff, Classical.not_not]

/-- One name in two spellings, two names, and one name twice in an object that does not end. -/
theorem parse_compares_spelled_names :
    parse "\x7b\"a\":[],\"b\":[],\"\\u0061\":[[1]]\x7d" = .error (.duplicateTable "a") ∧
      parse "\x7b\"b\":[],\"\\u0061\":[[1]]\x7d" =
        .ok (.ofTables [⟨"b", []⟩, ⟨"a", [[.integer 1]]⟩]) ∧
      parse "\x7b\"a\":[],\"a\":[]" = .error .malformed := by
  have repeating : Describes "\x7b\"a\":[],\"b\":[],\"\\u0061\":[[1]]\x7d".toList
      [⟨"a", []⟩, ⟨"b", []⟩, ⟨"a", [[.integer 1]]⟩] := by
    rw [describes_iff]
    decide +kernel
  have different : Describes "\x7b\"b\":[],\"\\u0061\":[[1]]\x7d".toList
      [⟨"b", []⟩, ⟨"a", [[.integer 1]]⟩] := by
    rw [describes_iff]
    decide +kernel
  have open_object : ¬∃ tables, Describes "\x7b\"a\":[],\"a\":[]".toList tables := by
    simp only [describes_iff]
    rintro ⟨tables, read⟩
    have unread : tables? "\x7b\"a\":[],\"a\":[]".toList = none := by decide +kernel
    exact nomatch unread.symm.trans read
  obtain ⟨rejected, -, -⟩ := parse_compares_names
    "\x7b\"a\":[],\"b\":[],\"\\u0061\":[[1]]\x7d"
  obtain ⟨accepted, -, -⟩ := parse_compares_names "\x7b\"b\":[],\"\\u0061\":[[1]]\x7d"
  obtain ⟨position, table, first, found, error⟩ := (rejected _ repeating).2 (by decide)
  have earlier : ∀ position < 2, ¬RepeatsAt ["a", "b", "a"] position := by decide
  have third : FirstRepetition ["a", "b", "a"] 2 :=
    ⟨by decide, fun position repeats => Nat.not_lt.1 fun below => earlier position below repeats⟩
  have same : position = 2 := first.unique third
  subst same
  cases found
  exact ⟨error, ((accepted _ different).1 (by decide)).1,
    (parse_compares_names _).2.2.1 open_object⟩

end ScriptMetadata.Fixture
