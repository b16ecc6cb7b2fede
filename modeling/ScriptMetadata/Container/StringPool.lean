import Mathlib.Data.List.Nodup
import ScriptMetadata.Container.Image

/-!
The strings of a file while it is being written. A string gets its id when it is first used and
keeps it; the ids count the strings in the order of their first use.
-/

set_option autoImplicit false

namespace ScriptMetadata.Container

/-- Strings that are added later do not move those that are there. -/
theorem stringId_append_of_mem {strings : List String} {value : String} (used : value ∈ strings)
    (later : List String) : stringId (strings ++ later) value = stringId strings value := by
  rw [stringId, stringId, List.idxOf_append_of_mem used]

theorem stringId_append_singleton {strings : List String} {value : String}
    (fresh : value ∉ strings) :
    stringId (strings ++ [value]) value = UInt32.ofNat strings.length := by
  rw [stringId, List.idxOf_append_of_notMem fresh, List.idxOf_cons_self, Nat.add_zero]

/-- The strings in the order of their ids, and the id of each. -/
structure StringPool where
  strings : Array String
  ids : Std.HashMap String UInt32
  distinct : strings.toList.Nodup
  located : ∀ value, ids[value]? =
    if value ∈ strings.toList then some (stringId strings.toList value) else none

namespace StringPool

def empty : StringPool where
  strings := #[]
  ids := ∅
  distinct := List.nodup_nil
  located := fun _ => Std.HashMap.getElem?_empty

theorem not_mem_of_getElem?_eq_none {pool : StringPool} {value : String}
    (unknown : pool.ids[value]? = none) : value ∉ pool.strings.toList := by
  intro member
  rw [pool.located, if_pos member] at unknown
  contradiction

/-- A new string is put behind the others. -/
def add (pool : StringPool) (value : String) (fresh : value ∉ pool.strings.toList) :
    StringPool where
  strings := pool.strings.push value
  ids := pool.ids.insert value (UInt32.ofNat pool.strings.size)
  distinct := by
    rw [Array.toList_push, ← List.concat_eq_append]
    exact pool.distinct.concat fresh
  located := by
    intro other
    rw [Std.HashMap.getElem?_insert, Array.toList_push, pool.located]
    by_cases same : value = other
    · subst same
      rw [if_pos (beq_self_eq_true value), if_pos List.mem_concat_self,
        stringId_append_singleton fresh, Array.length_toList]
    · rw [if_neg (by simpa using same)]
      by_cases member : other ∈ pool.strings.toList
      · rw [if_pos member, if_pos (List.mem_append_left _ member), stringId_append_of_mem member]
      · rw [if_neg member, if_neg (by simp [member, Ne.symm same])]

/-- The id of a string, which is added when it is not there yet. -/
def intern (pool : StringPool) (value : String) : UInt32 × StringPool :=
  match known : pool.ids[value]? with
  | some id => (id, pool)
  | none => (UInt32.ofNat pool.strings.size, pool.add value (not_mem_of_getElem?_eq_none known))

/-- Notes where the next string would start. -/
def addBound (bounds blob : ByteArray) : ByteArray :=
  bounds ++ (LittleEndian.encodeWord32 (UInt32.ofNat blob.size)).toByteArray

/-- The bytes of the strings one after the other, and where each of them starts and the last one
ends. -/
def contents (pool : StringPool) : ByteArray × ByteArray :=
  let (blob, bounds) := pool.strings.foldl
    (fun (blob, bounds) value => (blob ++ value.toUTF8, addBound bounds blob))
    (ByteArray.empty, ByteArray.empty)
  (blob, addBound bounds blob)

theorem intern_of_mem {pool : StringPool} {value : String} (used : value ∈ pool.strings.toList) :
    pool.intern value = (stringId pool.strings.toList value, pool) := by
  have located := pool.located value
  rw [if_pos used] at located
  rw [intern]
  split
  · rename_i id known
    rw [Option.some.inj (known.symm.trans located)]
  · rename_i unknown
    exact nomatch unknown.symm.trans located

theorem intern_of_not_mem {pool : StringPool} {value : String}
    (fresh : value ∉ pool.strings.toList) :
    pool.intern value = (UInt32.ofNat pool.strings.size, pool.add value fresh) := by
  have located := pool.located value
  rw [if_neg fresh] at located
  rw [intern]
  split
  · rename_i id known
    exact nomatch known.symm.trans located
  · rfl

end StringPool

end ScriptMetadata.Container
