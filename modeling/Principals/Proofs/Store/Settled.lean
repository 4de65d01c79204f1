import Principals.Proofs.OrderedMap
import Principals.Proofs.Outcome
import Principals.Proofs.Store.Tables

/-!
# Records with nothing left to write

A stored record is settled if its values are stored as the very cells that its row has and no link
waits to be written. Writing it again changes nothing, and a flush of a store in which every record
is settled leaves the store as it is.

* `find?_storeRow`, `storeRow_spec`, `exists_storeRow`: the cells of a row, column by column;
* `Store.writeRow_of_settled`: a settled record is passed over;
* `Store.flush_of_settled`: a settled store is left as it is.
-/

namespace Principals

/-! ## Rows, column by column -/

theorem attr_of_column? {cls : RecordClass} {attr : String} {c : Column}
    (isColumn : cls.column? attr = some c) : c.attr = attr := by
  simpa using List.find?_some isColumn

namespace Record

variable {r : Record} {columns : List Column} {row : Row} {c : Column}

/-- A row has, for an attribute that a column shows, the cell under which the column stores its
value. -/
theorem find?_storeRow {attr : String} (stored : r.storeRow columns = .ok row)
    (isColumn : columns.find? (·.attr == attr) = some c) :
    ∃ cell, c.type.store (r.value attr) = .ok cell ∧ row.find? attr = some cell := by
  induction columns generalizing row with
  | nil => cases isColumn
  | cons first rest ih =>
    obtain ⟨cell, stores, stored⟩ := bind_eq_ok.mp stored
    obtain ⟨more, storedRest, given⟩ := bind_eq_ok.mp stored
    cases given
    by_cases own : first.attr = attr
    · rw [List.find?_cons_of_pos (by simpa using own)] at isColumn
      cases isColumn
      exact ⟨cell, own ▸ stores, by simp [OrderedMap.find?, OrderedMap.lookup, own]⟩
    · rw [List.find?_cons_of_neg (by simpa using own)] at isColumn
      obtain ⟨cell', stores', found⟩ := ih storedRest isColumn
      exact ⟨cell', stores', by simpa [OrderedMap.find?, OrderedMap.lookup, own] using found⟩

/-- Where no two columns show one attribute, it has such a cell for each of them. -/
theorem storeRow_spec (stored : r.storeRow columns = .ok row)
    (nodup : (columns.map Column.attr).Nodup) (among : c ∈ columns) :
    ∃ cell, c.type.store (r.value c.attr) = .ok cell ∧ row.find? c.attr = some cell := by
  refine find?_storeRow stored ?_
  obtain ⟨c', isFirst⟩ : ∃ c', columns.find? (·.attr == c.attr) = some c' :=
    Option.isSome_iff_exists.mp (List.find?_isSome.mpr ⟨c, among, beq_self_eq_true c.attr⟩)
  have same : c'.attr = c.attr := by simpa using List.find?_some isFirst
  rw [isFirst, List.inj_on_of_nodup_map nodup (List.mem_of_find?_eq_some isFirst) among same]

theorem storeRow_congr {q : Record} (same : ∀ attr, q.value attr = r.value attr)
    (columns : List Column) : q.storeRow columns = r.storeRow columns := by
  induction columns with
  | nil => rfl
  | cons first rest ih => rw [storeRow, storeRow, same, ih]

theorem exists_storeRow
    (takes : ∀ c ∈ columns, ∃ cell, c.type.store (r.value c.attr) = .ok cell) :
    ∃ row, r.storeRow columns = .ok row := by
  induction columns with
  | nil => exact ⟨∅, rfl⟩
  | cons first rest ih =>
    obtain ⟨cell, stores⟩ := takes first List.mem_cons_self
    obtain ⟨row, stored⟩ := ih fun c among => takes c (List.mem_cons_of_mem _ among)
    exact ⟨_, bind_eq_ok.mpr ⟨cell, stores, bind_eq_ok.mpr ⟨row, stored, rfl⟩⟩⟩

theorem takesValues_of_forall
    (takes : ∀ c ∈ r.cls.columns, ∃ cell, c.type.store (r.value c.attr) = .ok cell) :
    r.takesValues = true := by
  refine List.all_eq_true.mpr fun c among => ?_
  obtain ⟨cell, stores⟩ := takes c among
  rw [stores]

theorem takes_of_storeRow (stored : r.storeRow columns = .ok row) :
    ∀ c ∈ columns, ∃ cell, c.type.store (r.value c.attr) = .ok cell := by
  induction columns generalizing row with
  | nil => exact fun _ => nofun
  | cons first rest ih =>
    obtain ⟨cell, stores, stored⟩ := bind_eq_ok.mp stored
    obtain ⟨more, storedRest, -⟩ := bind_eq_ok.mp stored
    intro c among
    rcases List.mem_cons.mp among with rfl | later
    · exact ⟨cell, stores⟩
    · exact ih storedRest c later

theorem valuesOfRow_find? {cls : RecordClass} (nodup : (cls.columns.map Column.attr).Nodup)
    (among : c ∈ cls.columns) :
    (valuesOfRow cls row).find? c.attr =
      some (c.type.load ((row.find? c.attr).getD .null)) := by
  refine OrderedMap.find?_ofList_of_mem ?_ (List.mem_map.mpr ⟨c, among, rfl⟩)
  rwa [List.map_map]

/-- The value in memory of a column after a row was read. -/
theorem value_reload (nodup : (r.cls.columns.map Column.attr).Nodup) (has : r.row = some row)
    (among : c ∈ r.cls.columns) :
    r.reload.value c.attr = c.type.load ((row.find? c.attr).getD .null) := by
  rw [reload, has]
  simp only [value, valuesOfRow_find? nodup among, Option.getD_some]

/-- A record with nothing left to write: its row is what its values are stored as, and no link waits
to be written. -/
def Settled (r : Record) : Prop :=
  ∀ row, r.row = some row → r.storeRow r.cls.columns = .ok row ∧ r.unwritten = []

end Record

/-! ## Writing settled records -/

namespace Store

variable {s : Store} {id : RecordId} {r : Record} {row : Row}

/-- Where no link waits, references stay as they are. -/
theorem syncLinks_of_synced (synced : r.unwritten = []) : s.syncLinks r = r := by
  obtain ⟨cls, values, links, unwritten, gathered, row, removed⟩ := r
  cases synced
  rfl

theorem writeRow_of_settled (found : s.record? id = some r) (has : r.row = some row)
    (settled : r.Settled) : s.writeRow id = .ok s := by
  obtain ⟨stored, synced⟩ := settled row has
  have isStored : r.isStored = true := by simp [Record.isStored, has]
  have idle : s.modify id (fun _ => r) = s := modify_eq_self found rfl
  simp only [writeRow, found, syncLinks_of_synced synced, isStored, if_true, stored, has, bind,
    Except.bind, idle]

/-- Writing settled records one after the other changes nothing. -/
theorem writeRows_of_settled {ids : List RecordId}
    (settled : ∀ id ∈ ids, ∃ r row, s.record? id = some r ∧ r.row = some row ∧ r.Settled) :
    s.writeRows ids = .ok s := by
  have takes : ids.all (fun id => s.test id fun r => (s.syncLinks r).takesValues) = true := by
    refine List.all_eq_true.mpr fun id among => ?_
    obtain ⟨r, row, found, has, rSettled⟩ := settled id among
    obtain ⟨stored, synced⟩ := rSettled row has
    simp only [test, found, Option.any_some, syncLinks_of_synced synced]
    exact Record.takesValues_of_forall (Record.takes_of_storeRow stored)
  have written : ids.foldlM (fun s id => s.writeRow id) s = .ok s := by
    clear takes
    induction ids with
    | nil => rfl
    | cons id rest ih =>
      obtain ⟨r, row, found, has, rSettled⟩ := settled id List.mem_cons_self
      rw [List.foldlM_cons]
      exact bind_eq_ok.mpr ⟨s, writeRow_of_settled found has rSettled,
        ih fun j among => settled j (List.mem_cons_of_mem _ among)⟩
  rw [writeRows, if_pos takes, written]

/-- Every record has nothing left to write. -/
def Settled (s : Store) : Prop := ∀ r ∈ s.records, r.Settled

theorem writeRows_storedOf (settled : s.Settled) (className : String) :
    s.writeRows (s.storedOf className) = .ok s := by
  refine writeRows_of_settled fun id among => ?_
  obtain ⟨cls, row, stored, -⟩ := mem_storedOf.mp among
  obtain ⟨r, found, -, has⟩ := stored?_eq_some_iff.mp stored
  exact ⟨r, row, found, has, settled r (mem_of_record? found)⟩

theorem linkedNew_of_settled (settled : s.Settled) : s.linkedNew = [] := by
  refine List.flatMap_eq_nil_iff.mpr fun r among => ?_
  cases has : r.row with
  | none => simp [Record.isStored, has]
  | some row => simp [(settled r among row has).2]

theorem writeClass_of_settled (settled : s.Settled) (cls : RecordClass) :
    s.writeClass [] cls = .ok s :=
  bind_eq_ok.mpr ⟨s, writeRows_storedOf settled cls.name, rfl⟩

/-- A flush without new records leaves a settled store as it is. -/
theorem flush_of_settled (settled : s.Settled) : s.flush [] = .ok s := by
  have classes : ∀ classes : List RecordClass,
      classes.foldlM (fun s cls => s.writeClass [] cls) s = .ok s := by
    intro classes
    induction classes with
    | nil => rfl
    | cons cls rest ih =>
      rw [List.foldlM_cons]
      exact bind_eq_ok.mpr ⟨s, writeClass_of_settled settled cls, ih⟩
  have none_new : s.closure s.linkedNew = [] := by
    rw [linkedNew_of_settled settled]
    rfl
  rw [flush, none_new]
  exact classes s.catalog.classes

end Store

end Principals
