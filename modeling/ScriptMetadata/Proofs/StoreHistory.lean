import Mathlib.Data.List.Nodup
import Mathlib.Order.Nat
import ScriptMetadata.Module

/-!
Runs of the operations on a module, told from their history. Each table goes back to the first
operation on its name since the last removal of that name; it holds the rows added from there on,
and the tables stand in the order of these first operations.
-/

set_option autoImplicit false

namespace ScriptMetadata.Module

inductive Operation where
  | declare (name : String)
  | addRow (name : String) (row : Row)
  | addTable (name : String) (rows : List Row)
  | remove (name : String)

/-- What an operation adds to the table of a name, if it is one that creates the table. -/
def Operation.additionTo (name : String) : Operation → Option (List Row)
  | .declare other => if other = name then some [] else none
  | .addRow other row => if other = name then some [row] else none
  | .addTable other rows => if other = name then some rows else none
  | .remove _ => none

def perform (module : Module) : Operation → Module
  | .declare name => module.declare name
  | .addRow name row => module.addRow name row
  | .addTable name rows => module.append name rows
  | .remove name => (module.remove name).2

def run (history : List Operation) : Module := history.foldl perform empty

/-- The operation at this time adds to the table of the name, and none after it removes it. -/
def Contributes (history : List Operation) (name : String) (time : Nat) : Prop :=
  (∃ operation rows, history[time]? = some operation ∧ operation.additionTo name = some rows) ∧
    ∀ later, time < later → history[later]? ≠ some (.remove name)

/-- The time of the first addition to the name since its last removal. -/
def CreatedAt (history : List Operation) (name : String) (time : Nat) : Prop :=
  IsLeast {time | Contributes history name time} time

/-- The rows that were added under a name from some time on. -/
def rowsSince (history : List Operation) (name : String) (time : Nat) : List Row :=
  (history.drop time).flatMap fun operation => (operation.additionTo name).getD []

/-- Each addition under the name, if there was any, was followed by a removal. -/
def Gone (history : List Operation) (name : String) : Prop :=
  ∀ (time : Nat) (operation : Operation) (rows : List Row), history[time]? = some operation →
    operation.additionTo name = some rows →
      ∃ later : Nat, time < later ∧ history[later]? = some (.remove name)

/-- A module that is what its history has made of it. -/
structure Follows (module : Module) (history : List Operation) : Prop where
  present : ∀ name, name ∈ module.names ↔ ∃ time, Contributes history name time
  order : module.names.Pairwise fun first second =>
    ∀ time time', CreatedAt history first time → CreatedAt history second time' → time < time'
  rows : ∀ name time, CreatedAt history name time →
    module.lookup name = some ⟨name, rowsSince history name time⟩

section History

variable {history : List Operation} {operation : Operation} {name : String} {time : Nat}

theorem getElem?_append_singleton_iff {found : Operation} :
    (history ++ [operation])[time]? = some found ↔
      history[time]? = some found ∨ time = history.length ∧ found = operation := by
  rcases Nat.lt_trichotomy time history.length with earlier | same | later
  · rw [List.getElem?_append_left earlier, or_iff_left fun last => absurd last.1 earlier.ne]
  · rw [same, List.getElem?_concat_length, List.getElem?_eq_none (Nat.le_refl _)]
    simp [eq_comm]
  · rw [List.getElem?_eq_none (by simpa using Nat.succ_le_of_lt later),
      List.getElem?_eq_none later.le]
    simp [later.ne']

theorem lt_length_of_contributes (contributes : Contributes history name time) :
    time < history.length := by
  rcases contributes with ⟨⟨operation, rows, found, -⟩, -⟩
  exact (List.getElem?_eq_some_iff.1 found).1

theorem not_contributes_remove : ¬Contributes (history ++ [.remove name]) name time := by
  intro contributes
  have inside := lt_length_of_contributes contributes
  rw [List.length_append, List.length_singleton] at inside
  rcases contributes with ⟨⟨operation, rows, found, adds⟩, kept⟩
  rcases Nat.lt_succ_iff_lt_or_eq.1 inside with earlier | same
  · exact kept history.length earlier List.getElem?_concat_length
  · rw [same, List.getElem?_concat_length] at found
    cases found
    contradiction

/-- An operation that does not remove the table leaves the additions before it in force. -/
theorem contributes_append_iff (keeps : operation ≠ .remove name) :
    Contributes (history ++ [operation]) name time ↔
      Contributes history name time ∨
        time = history.length ∧ ∃ rows, operation.additionTo name = some rows := by
  have kept_iff : (∀ later, time < later → (history ++ [operation])[later]? ≠ some (.remove name)) ↔
      ∀ later, time < later → history[later]? ≠ some (.remove name) := by
    simp only [ne_eq, getElem?_append_singleton_iff, keeps.symm, and_false, or_false]
  rw [Contributes, Contributes, kept_iff]
  simp only [getElem?_append_singleton_iff]
  constructor
  · intro contributes
    rcases contributes with ⟨⟨found, rows, stored | ⟨last, rfl⟩, adds⟩, kept⟩
    · exact .inl ⟨⟨found, rows, stored, adds⟩, kept⟩
    · exact .inr ⟨last, rows, adds⟩
  · intro contributes
    rcases contributes with ⟨⟨found, rows, stored, adds⟩, kept⟩ | ⟨last, rows, adds⟩
    · exact ⟨⟨found, rows, .inl stored, adds⟩, kept⟩
    · refine ⟨⟨operation, rows, .inr ⟨last, rfl⟩, adds⟩, ?_⟩
      intro later behind
      rw [List.getElem?_eq_none (last ▸ behind.le)]
      exact nofun

theorem mem_names_append {module : Module} {rows : List Row} {other : String} :
    other ∈ (module.append name rows).names ↔ other ∈ module.names ∨ other = name := by
  rw [names_append]
  split
  · rename_i member
    rw [or_iff_left_of_imp fun same => same ▸ member]
  · rw [List.mem_append, List.mem_singleton]

theorem exists_createdAt (contributes : Contributes history name time) :
    ∃ first, CreatedAt history name first := by
  classical
  exact ⟨_, Nat.isLeast_find ⟨time, contributes⟩⟩

/-- A table that is there goes back to the operation that it went back to, and a new one to the
operation itself. -/
theorem createdAt_of_append (keeps : operation ≠ .remove name)
    (created : CreatedAt (history ++ [operation]) name time) :
    CreatedAt history name time ∨
      time = history.length ∧ ∀ earlier, ¬Contributes history name earlier := by
  rcases created with ⟨contributes, least⟩
  rcases (contributes_append_iff keeps).1 contributes with before | ⟨last, -⟩
  · refine .inl ⟨before, ?_⟩
    intro other contributed
    exact least ((contributes_append_iff keeps).2 (.inl contributed))
  · refine .inr ⟨last, ?_⟩
    intro earlier contributed
    have bound : time ≤ earlier := least ((contributes_append_iff keeps).2 (.inl contributed))
    have below := lt_length_of_contributes contributed
    omega

theorem createdAt_of_append_of_contributes (keeps : operation ≠ .remove name) {earlier : Nat}
    (contributes : Contributes history name earlier)
    (created : CreatedAt (history ++ [operation]) name time) : CreatedAt history name time := by
  rcases createdAt_of_append keeps created with before | ⟨-, fresh⟩
  · exact before
  · exact absurd contributes (fresh earlier)

theorem rowsSince_append (within : time ≤ history.length) :
    rowsSince (history ++ [operation]) name time =
      rowsSince history name time ++ (operation.additionTo name).getD [] := by
  rw [rowsSince, List.drop_append_of_le_length within, List.flatMap_append,
    List.flatMap_singleton]
  rfl

end History

namespace Follows

variable {module : Module} {history : List Operation} (follows : module.Follows history)

include follows

/-- Tables that stay keep their order, whatever the operation was. -/
theorem order_of_sublist {operation : Operation} {names : List String}
    (sublist : names.Sublist module.names) (keeps : ∀ name ∈ names, operation ≠ .remove name) :
    names.Pairwise fun first second => ∀ time time',
      CreatedAt (history ++ [operation]) first time →
        CreatedAt (history ++ [operation]) second time' → time < time' := by
  have before : ∀ name ∈ names, ∀ time, CreatedAt (history ++ [operation]) name time →
      CreatedAt history name time := by
    intro name member time created
    have contributes := (follows.present name).1 (sublist.subset member)
    exact createdAt_of_append_of_contributes (keeps name member) contributes.choose_spec created
  apply (follows.order.sublist sublist).imp_of_mem
  intro first second member member' ordered time time' created created'
  exact ordered time time' (before first member time created) (before second member' time' created')

theorem rows?_eq {name : String} {time : Nat} (created : CreatedAt history name time) :
    module.rows? name = some (rowsSince history name time) := by
  rw [rows?, follows.rows name time created]
  rfl

/-- An operation on other names does not show in the rows of a table. -/
theorem rows_of_unchanged {operation : Operation} {name : String} {time : Nat}
    (created : CreatedAt history name time) (unchanged : operation.additionTo name = none) :
    module.lookup name = some ⟨name, rowsSince (history ++ [operation]) name time⟩ := by
  rw [follows.rows name time created, rowsSince_append (lt_length_of_contributes created.1).le,
    unchanged, Option.getD_none, List.append_nil]

section Addition

variable {operation : Operation} {name : String} {rows : List Row}
  (adds : ∀ other, operation.additionTo other = if name = other then some rows else none)

omit follows in
include adds in
theorem ne_remove_of_adds (other : String) : operation ≠ .remove other := by
  intro removes
  have added := adds name
  rw [removes, if_pos rfl] at added
  contradiction

include adds

theorem present_append (other : String) :
    other ∈ (module.append name rows).names ↔
      ∃ time, Contributes (history ++ [operation]) other time := by
  rw [mem_names_append, follows.present other]
  simp only [contributes_append_iff (ne_remove_of_adds adds other), exists_or, adds other]
  simp [eq_comm]

/-- A new table was created by the last operation, after all the others. -/
theorem order_append :
    (module.append name rows).names.Pairwise fun first second => ∀ time time',
      CreatedAt (history ++ [operation]) first time →
        CreatedAt (history ++ [operation]) second time' → time < time' := by
  have keeps := ne_remove_of_adds adds
  have before := follows.order_of_sublist (List.Sublist.refl _) fun other _ => keeps other
  rw [names_append]
  split
  · exact before
  · rename_i absent
    rw [List.pairwise_append]
    refine ⟨before, List.pairwise_singleton _ _, ?_⟩
    intro first member second single time time' created created'
    rw [List.mem_singleton.1 single] at created'
    have contributes := (follows.present first).1 member
    have earlier := createdAt_of_append_of_contributes (keeps first) contributes.choose_spec created
    rcases createdAt_of_append (keeps name) created' with present | ⟨last, -⟩
    · exact absurd ((follows.present name).2 ⟨time', present.1⟩) absent
    · rw [last]
      exact lt_length_of_contributes earlier.1

theorem rows_append_self {time : Nat} (created : CreatedAt (history ++ [operation]) name time) :
    (module.append name rows).lookup name =
      some ⟨name, rowsSince (history ++ [operation]) name time⟩ := by
  rw [lookup_append_self]
  rcases createdAt_of_append (ne_remove_of_adds adds name) created with before | ⟨last, fresh⟩
  · rw [follows.rows?_eq before, rowsSince_append (lt_length_of_contributes before.1).le,
      adds name, if_pos rfl]
    rfl
  · have absent : module.rows? name = none := by
      rw [rows?, Option.map_eq_none_iff, lookup_eq_none_iff, follows.present name]
      exact not_exists.2 fresh
    rw [absent, last, rowsSince_append (Nat.le_refl _), adds name, if_pos rfl, rowsSince,
      List.drop_length]
    rfl

theorem append : (module.append name rows).Follows (history ++ [operation]) := by
  have keeps := ne_remove_of_adds adds
  refine ⟨follows.present_append adds, follows.order_append adds, ?_⟩
  intro other time created
  by_cases same : other = name
  · rw [same] at created ⊢
    exact follows.rows_append_self adds created
  · have unchanged : operation.additionTo other = none := by
      rw [adds other, if_neg (Ne.symm same)]
    rw [lookup_append_of_ne same]
    rcases (contributes_append_iff (keeps other)).1 created.1 with before | ⟨-, rows', added⟩
    · have earlier := createdAt_of_append_of_contributes (keeps other) before created
      exact follows.rows_of_unchanged earlier unchanged
    · rw [unchanged] at added
      contradiction

end Addition

theorem remove (name : String) :
    ((module.remove name).2).Follows (history ++ [.remove name]) := by
  have keeps : ∀ other, other ≠ name → Operation.remove name ≠ .remove other := by
    intro other differs same
    exact differs (Operation.remove.inj same).symm
  have names : (module.remove name).2.names = module.names.filter fun other => other ≠ name :=
    module.names_erase name
  constructor
  · intro other
    rw [names, List.mem_filter, decide_eq_true_iff, follows.present other]
    by_cases same : other = name
    · rw [same]
      exact iff_of_false (fun kept => kept.2 rfl) fun ⟨time, kept⟩ => not_contributes_remove kept
    · simp [contributes_append_iff (keeps other same), same, Operation.additionTo]
  · rw [names]
    apply follows.order_of_sublist List.filter_sublist
    intro other member
    exact keeps other (by simpa using (List.mem_filter.1 member).2)
  · intro other time created
    by_cases same : other = name
    · rw [same] at created
      exact absurd created.1 not_contributes_remove
    · have contributes := (contributes_append_iff (keeps other same)).1 created.1
      simp only [Operation.additionTo, reduceCtorEq, exists_false, and_false, or_false]
        at contributes
      have before := createdAt_of_append_of_contributes (keeps other same) contributes created
      rw [Module.remove, lookup_erase_of_ne same]
      exact follows.rows_of_unchanged before rfl

/-- One operation on a module that its history explains. -/
theorem perform (operation : Operation) :
    (module.perform operation).Follows (history ++ [operation]) := by
  cases operation with
  | declare name => exact follows.append fun _ => rfl
  | addRow name row => exact follows.append fun _ => rfl
  | addTable name rows => exact follows.append fun _ => rfl
  | remove name => exact follows.remove name

theorem foldl_perform (operations : List Operation) :
    (operations.foldl Module.perform module).Follows (history ++ operations) := by
  induction operations generalizing module history with
  | nil => rwa [List.append_nil]
  | cons operation rest induction =>
      rw [List.append_cons]
      exact induction (follows.perform operation)

end Follows

/-- Before the first operation there is no table and no time at which one was created. -/
theorem follows_empty : empty.Follows [] := by
  have early : ∀ name time, ¬Contributes [] name time := by
    intro name time contributes
    exact absurd (lt_length_of_contributes contributes) (Nat.not_lt_zero time)
  constructor
  · intro name
    exact iff_of_false List.not_mem_nil (not_exists.2 (early name))
  · exact .nil
  · intro name time created
    exact absurd created.1 (early name time)

theorem follows_run (history : List Operation) : (run history).Follows history :=
  follows_empty.foldl_perform history

theorem run_append_singleton (history : List Operation) (operation : Operation) :
    run (history ++ [operation]) = (run history).perform operation := by
  rw [run, run, List.foldl_append]
  rfl

theorem gone_iff {history : List Operation} {name : String} :
    Gone history name ↔ ∀ time, ¬Contributes history name time := by
  simp only [Gone, Contributes, not_and, not_forall, not_not, forall_exists_index, and_imp,
    exists_prop, ne_eq]

theorem lookup_of_mem {module : Module} {table : Table} (member : table ∈ module.tables) :
    module.lookup table.name = some table := by
  cases found : module.lookup table.name with
  | none => exact absurd (List.mem_map_of_mem member) (lookup_eq_none_iff.1 found)
  | some other =>
      have same := List.inj_on_of_nodup_map module.names_nodup (mem_of_lookup found) member
        (name_of_lookup found)
      rw [same]

theorem map_lookup_names (module : Module) :
    module.names.map module.lookup = module.tables.map some := by
  rw [names, List.map_map]
  apply List.map_congr_left
  intro table member
  exact lookup_of_mem member

theorem erase_of_lookup_eq_none {module : Module} {name : String}
    (absent : module.lookup name = none) : module.erase name = module := by
  apply eq_of_tables_eq
  apply List.filter_eq_self.2
  intro table member
  rw [decide_eq_true_iff]
  intro same
  exact lookup_eq_none_iff.1 absent (List.mem_map.2 ⟨table, member, same⟩)

/-- After any operations the tables are those that the history leaves, in the order and with the
rows that it gives them; taking a table out hands over its rows, and nothing happens when there is
none. -/
theorem run_follows_history (history : List Operation) :
    (run history).Follows history ∧ (run history).names.Nodup ∧
      (run history).names.map (run history).lookup = (run history).tables.map some ∧
      (run history).size = (run history).names.length ∧
      ((run history).isEmpty = true ↔ (run history).names = []) ∧
      (∀ name, (run history).lookup name = none ↔ Gone history name) ∧
      (∀ name, ¬Gone history name → ∃ time, CreatedAt history name time ∧
        (run history).lookup name = some ⟨name, rowsSince history name time⟩) ∧
      ∀ name, (run history).remove name =
          (((run history).lookup name).map Table.rows, run (history ++ [.remove name])) ∧
        (Gone history name → (run history).remove name = (none, run history)) := by
  have follows := follows_run history
  have absent_iff : ∀ name, (run history).lookup name = none ↔ Gone history name := by
    intro name
    rw [lookup_eq_none_iff, follows.present name, gone_iff, not_exists]
  refine ⟨follows, (run history).names_nodup, map_lookup_names _, (List.length_map _).symm, ?_,
    absent_iff, ?_, ?_⟩
  · rw [isEmpty, names, List.isEmpty_iff, List.map_eq_nil_iff]
  · intro name stays
    rw [gone_iff, not_forall_not] at stays
    rcases stays with ⟨time, contributes⟩
    obtain ⟨first, created⟩ := exists_createdAt contributes
    exact ⟨first, created, follows.rows name first created⟩
  · intro name
    constructor
    · rw [run_append_singleton]
      rfl
    · intro gone
      have absent := (absent_iff name).2 gone
      rw [Module.remove, rows?, absent, erase_of_lookup_eq_none absent]
      rfl

/-- A table that comes back stands last and has nothing of its earlier rows. -/
example :
    (run [.addRow "a" [.integer 1], .declare "b", .remove "a", .addRow "a" [.integer 2]]).tables =
      [⟨"b", []⟩, ⟨"a", [[.integer 2]]⟩] := by
  decide

end ScriptMetadata.Module
