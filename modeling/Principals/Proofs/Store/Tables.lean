import Mathlib.Data.List.Find
import Mathlib.Data.List.Sort
import Principals.Proofs.Store.Assignment

/-!
# What the tables hold

The tables are the rows of all records; what is only in memory is no part of them. `SameTables` says
that two stores have the same rows under the same numbers. Making a record and assigning to one keep
the tables, and everything that is looked up in the tables depends on them alone.

* `SameTables.storedOf`, `SameTables.findStored`: what is looked up in equal tables is equal;
* `sameTables_modify`, `sameTables_add`: what is only in memory is no part of the tables.
-/

namespace Principals.Store

variable {s s' s'' : Store} {id : RecordId}

/-- The class and the row of a record that a table has. -/
def stored? (s : Store) (id : RecordId) : Option (RecordClass × Row) :=
  (s.record? id).bind fun r => r.row.map fun row => (r.cls, row)

theorem stored?_eq_some_iff {cls : RecordClass} {row : Row} :
    s.stored? id = some (cls, row) ↔
      ∃ r, s.record? id = some r ∧ r.cls = cls ∧ r.row = some row := by
  unfold stored?
  constructor
  · intro stored
    obtain ⟨r, found, mapped⟩ := Option.bind_eq_some_iff.mp stored
    obtain ⟨row', has, eq⟩ := Option.map_eq_some_iff.mp mapped
    cases eq
    exact ⟨r, found, rfl, has⟩
  · intro h
    rcases h with ⟨r, found, rfl, has⟩
    simp [found, has]

/-- A test that depends on the class and the row of a stored record only. -/
theorem test_of_row {test : Record → Bool} (p : RecordClass → Row → Bool)
    (byRow : ∀ r, test r = r.row.any (p r.cls)) :
    s.test id test = (s.stored? id).any fun e => p e.1 e.2 := by
  unfold Store.test stored?
  cases s.record? id with
  | none => rfl
  | some r =>
    rw [Option.any_some, byRow r]
    cases has : r.row <;> simp [has]

theorem storedOf_eq (s : Store) (className : String) :
    s.storedOf className = s.ids.filter fun id => (s.stored? id).any fun e =>
      e.1.name == className := by
  refine List.filter_congr fun id _ => test_of_row (fun cls _ => cls.name == className) fun r => ?_
  rw [Record.isStored]
  cases r.row <;> simp

theorem mem_storedOf {className : String} :
    id ∈ s.storedOf className ↔
      ∃ cls row, s.stored? id = some (cls, row) ∧ cls.name = className := by
  rw [storedOf_eq, List.mem_filter, Option.any_eq_true]
  constructor
  · intro h
    rcases h with ⟨-, ⟨cls, row⟩, stored, named⟩
    exact ⟨cls, row, stored, beq_iff_eq.mp named⟩
  · intro h
    rcases h with ⟨cls, row, stored, named⟩
    refine ⟨?_, (cls, row), stored, beq_iff_eq.mpr named⟩
    obtain ⟨r, found, -, -⟩ := stored?_eq_some_iff.mp stored
    exact List.mem_range.mpr (lt_length_of_record? found)

/-- The stored records of a class are met in the order of their numbers. -/
theorem storedOf_sorted (s : Store) (className : String) :
    (s.storedOf className).Pairwise (· < ·) := List.pairwise_lt_range.filter _

theorem storedOf_nodup (s : Store) (className : String) : (s.storedOf className).Nodup :=
  (storedOf_sorted s className).imp Nat.ne_of_lt

theorem filterMap_record? (s : Store) : s.ids.filterMap s.record? = s.records := by
  have found : s.ids.map s.record? = s.records.map some :=
    List.ext_getElem (by simp [ids]) fun i _ _ => by simp [ids, record?]
  have joined : s.ids.filterMap s.record? = (s.ids.map s.record?).filterMap id := by
    rw [List.filterMap_map, Function.id_comp]
  rw [joined, found, List.filterMap_map, Function.id_comp, List.filterMap_some]

/-- The rows of a class are counted record by record. -/
theorem countP_rowsOf (s : Store) (className : String) (p : Row → Bool) :
    (s.rowsOf className).countP p =
      s.ids.countP fun id => (s.stored? id).any fun e => e.1.name == className && p e.2 := by
  rw [rowsOf, ← filterMap_record?, List.filterMap_filterMap, List.countP_filterMap]
  refine List.countP_congr fun id _ => ?_
  rw [stored?]
  cases s.record? id with
  | none => rfl
  | some r =>
    by_cases named : r.cls.name = className <;> cases has : r.row <;> simp [named, has]

/-! ## Equal tables -/

/-- The tables hold the same rows for the same records. -/
def SameTables (s s' : Store) : Prop := ∀ id, s'.stored? id = s.stored? id

namespace SameTables

theorem refl (s : Store) : s.SameTables s := fun _ => rfl

theorem trans (first : s.SameTables s') (second : s'.SameTables s'') : s.SameTables s'' :=
  fun id => (second id).trans (first id)

theorem storedOf (same : s.SameTables s') (className : String) :
    s'.storedOf className = s.storedOf className := by
  refine (storedOf_sorted s' className).eq_of_mem_iff (storedOf_sorted s className) fun id => ?_
  rw [mem_storedOf, mem_storedOf, same id]

theorem findStored (same : s.SameTables s') (className attr : String) (c : Cell) :
    s'.findStored className attr c = s.findStored className attr c := by
  have tests : ∀ t : Store, ∀ id ∈ t.storedOf className,
      (t.test id fun r => (r.cell attr).same c) =
        (t.stored? id).any fun e => ((e.2.find? attr).getD .null).same c := by
    intro t id stored
    obtain ⟨cls, row, has, -⟩ := mem_storedOf.mp stored
    obtain ⟨r, found, -, isRow⟩ := stored?_eq_some_iff.mp has
    simp [test, found, has, Record.cell, isRow]
  unfold Store.findStored
  rw [same.storedOf]
  refine List.find?_congr fun id stored => ?_
  rw [tests s id stored, tests s' id (by rwa [same.storedOf]), same id]

end SameTables

/-- A change of one record that leaves its class and its row keeps the tables. -/
theorem sameTables_modify (s : Store) (id : RecordId) {f : Record → Record}
    (cls : ∀ r : Record, (f r).cls = r.cls) (row : ∀ r : Record, (f r).row = r.row) :
    s.SameTables (s.modify id f) := by
  intro j
  by_cases at_id : id = j
  · subst at_id
    cases found : s.record? id with
    | none =>
      have none_left : (s.modify id f).record? id = none := by
        have none_there : s.records[id]? = none := found
        simp [record?, modify, none_there]
      rw [stored?, stored?, found, none_left]
    | some r =>
      rw [stored?, stored?, found, record?_modify_self f found]
      simp [cls, row]
  · rw [stored?, stored?, record?_modify_of_ne f at_id]

/-- A record that is only in memory is no part of the tables. -/
theorem sameTables_add (s : Store) {r : Record} (unwritten : r.row = none) :
    s.SameTables (s.add r).2 := by
  intro id
  by_cases old : id < s.records.length
  · obtain ⟨q, found⟩ : ∃ q, s.record? id = some q := ⟨_, List.getElem?_eq_getElem old⟩
    rw [stored?, stored?, found, record?_add_of_some r found]
  · have absent : s.record? id = none := List.getElem?_eq_none (Nat.le_of_not_lt old)
    rw [stored?, stored?, absent]
    by_cases new : id = s.records.length
    · subst new
      rw [record?_add_self]
      simp [unwritten]
    · have beyond : (s.add r).2.record? id = none := by
        refine List.getElem?_eq_none ?_
        rw [add, List.length_append, List.length_singleton]
        exact Nat.lt_of_le_of_ne (Nat.le_of_not_lt old) (Ne.symm new)
      rw [beyond]

end Principals.Store
