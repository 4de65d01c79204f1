import Principals.Proofs.Store.Due

/-!
# Records under a name

A class may name its records by a text in its primary key, which no link sets. Such a record shows its
name in memory and, once it is written, in its row, and it keeps the name whatever rows are written.

* `RecordClass.NamedBy`: classes that name their records so;
* `Record.ShowsText`, `Store.HasNamed`: a record under its name;
* `HasNamed.writeRow`: the name outlives the writing of rows.
-/

namespace Principals

/-- Whether the records of a class are named by a text in the attribute that is the primary key. -/
structure RecordClass.NamedBy (cls : RecordClass) (key : String) : Prop where
  primaryKey : cls.primaryKey = [key]
  column : ∃ c, cls.column? key = some c ∧ c.type = .text
  plain : cls.isPlain key = true
  unlinked : ∀ rel ∈ cls.relationships, rel.localAttr ≠ key

/-- A record with a text in an attribute, in memory and in its row. -/
structure Record.ShowsText (r : Record) (attr x : String) : Prop where
  value : r.value attr = .text x
  stored : ∀ row, r.row = some row → row.find? attr = some (.text x)

namespace Store

variable {s u u' : Store} {id target : RecordId} {r : Record} {cls : RecordClass} {key x : String}
  {row : Row} {f : Record → Record}

/-- Whether a number is that of a record of a class with some name. -/
def HasNamed (s : Store) (cls : RecordClass) (key : String) (target : RecordId) (x : String) :
    Prop :=
  ∃ r, s.record? target = some r ∧ r.cls = cls ∧ r.ShowsText key x

theorem HasNamed.get (named : cls.NamedBy key) (has : s.HasNamed cls key target x) :
    s.get target key = .text x := by
  obtain ⟨r, found, ofClass, shows⟩ := has
  rw [get_of_plain found (by rw [ofClass]; exact named.plain), shows.value]

theorem HasNamed.add (has : s.HasNamed cls key target x) (r : Record) :
    (s.add r).2.HasNamed cls key target x := by
  obtain ⟨q, found, shows⟩ := has
  exact ⟨q, record?_add_of_some r found, shows⟩

/-- A name outlives a change that leaves the names of the class. -/
theorem HasNamed.modify (has : s.HasNamed cls key target x) (found : s.record? id = some r)
    (ofClass : (f r).cls = r.cls)
    (shows : r.cls = cls → ∀ x, r.ShowsText key x → (f r).ShowsText key x) :
    (s.modify id f).HasNamed cls key target x := by
  obtain ⟨q, there, isNamed, shown⟩ := has
  by_cases own : id = target
  · subst own
    rw [found] at there
    cases there
    exact ⟨f r, record?_modify_self f found, ofClass.trans isNamed, shows isNamed x shown⟩
  · exact ⟨q, by rw [record?_modify_of_ne f own, there], isNamed, shown⟩

/-- No link sets a name. -/
theorem HasNamed.steady (named : cls.NamedBy key) (has : s.HasNamed cls key target x) :
    s.Steady target key (.text x) := by
  obtain ⟨r, found, ofClass, shown⟩ := has
  refine ⟨rfl, r, found, by rw [ofClass]; exact named.plain, shown.value,
    Record.not_awaits_of_forall ?_⟩
  rw [ofClass]
  exact named.unlinked

/-- A record that is written keeps its name. -/
theorem showsText_of_storeRow (named : cls.NamedBy key) (ofClass : r.cls = cls)
    (shown : r.ShowsText key x) (stored : (u.prepared r).storeRow r.cls.columns = .ok row) :
    Record.ShowsText { u.prepared r with row := some row } key x := by
  have unlinked : ∀ rel ∈ r.cls.relationships, rel.localAttr ≠ key := ofClass ▸ named.unlinked
  have due : u.Due r key (.text x) :=
    due_of_value rfl shown.value (Record.not_awaits_of_forall unlinked)
  refine ⟨due.value_prepared, fun row' has => ?_⟩
  cases has
  obtain ⟨c, isColumn, type⟩ := named.column
  obtain ⟨cell, stores, found⟩ := Record.find?_storeRow stored (by rw [ofClass]; exact isColumn)
  rw [due.value_prepared, type] at stores
  cases stores
  exact found

theorem HasNamed.writeRow (named : cls.NamedBy key) (has : u.HasNamed cls key target x)
    (written : u.writeRow id = .ok u') : u'.HasNamed cls key target x := by
  obtain ⟨r, found, ofClass, shown⟩ := has
  obtain ⟨q, found', ⟨rfl, -⟩ | ⟨-, row, stored, rfl⟩⟩ := exists_record?_of_writeRow found written
  · exact ⟨q, found', ofClass, shown⟩
  · obtain ⟨values, prepared⟩ := exists_prepared_eq u r
    exact ⟨_, found', by rw [prepared]; exact ofClass,
      showsText_of_storeRow named ofClass shown stored⟩

end Store

end Principals
