import Principals.Proofs.Store.Flushed

/-!
# What references become

A reference follows its link when its record is written: it becomes what the record at the other end
then has as its key. If that is settled before the flush, the flush leaves the reference with it,
whatever else is written and in whichever order. The same goes for an attribute that no link sets.
Every new record that a flush is given has a row afterwards.

* `Steady`, `Due`: attributes whose values after a flush are known before it;
* `Due.value_prepared`, `exists_due_of_writeRow`: they outlive the writing of rows;
* `Written`, `written_of_flush`: the rows that a flush leaves;
* `Written.cell`, `cell_of_flush`: the cells that it leaves.
-/

namespace Principals

/-- Whether a link that waits to be written sets an attribute. -/
def Record.Awaits (r : Record) (attr : String) : Prop :=
  ∃ a ∈ r.unwritten, ∃ rel, r.cls.relationship? a = some rel ∧ rel.localAttr = attr

/-- An attribute that no relationship of the class sets waits for none. -/
theorem Record.not_awaits_of_forall {r : Record} {attr : String}
    (free : ∀ rel ∈ r.cls.relationships, rel.localAttr ≠ attr) : ¬ r.Awaits attr := by
  rintro ⟨a, -, rel, isLink, sets⟩
  exact free rel (List.mem_of_find?_eq_some isLink) sets

namespace Store

variable {s t u u' : Store} {id j target : RecordId} {r q : Record} {attr : String} {w : Value}
  {new ids : List RecordId} {row : Row} {c : Column}

/-! ## Rows of records -/

/-- The record that was written is the prepared one with its row, and every other is as it was. -/
theorem exists_record?_of_writeRow (found : u.record? j = some r)
    (written : u.writeRow id = .ok u') :
    ∃ q, u'.record? j = some q ∧ (q = r ∧ j ≠ id ∨ j = id ∧ ∃ row,
      (u.prepared r).storeRow r.cls.columns = .ok row ∧ q = { u.prepared r with row := some row }) := by
  by_cases own : id = j
  · subst own
    obtain ⟨row, stored, rfl⟩ := writeRow_eq_ok found written
    exact ⟨_, record?_modify_self _ found, .inr ⟨rfl, row, stored, rfl⟩⟩
  · refine ⟨r, ?_, .inl ⟨rfl, Ne.symm own⟩⟩
    cases there : u.record? id with
    | none =>
      simp only [writeRow, there] at written
      cases written
      exact found
    | some p =>
      obtain ⟨row, -, rfl⟩ := writeRow_eq_ok there written
      rw [record?_modify_of_ne _ own, found]

/-- Whether a record of a class has a row. -/
def HasRow (s : Store) (id : RecordId) (cls : RecordClass) : Prop :=
  ∃ row, s.stored? id = some (cls, row)

theorem HasRow.writeRow {cls : RecordClass} (has : u.HasRow j cls)
    (written : u.writeRow id = .ok u') : u'.HasRow j cls := by
  obtain ⟨row, stored⟩ := has
  obtain ⟨r, found, ofClass, isRow⟩ := stored?_eq_some_iff.mp stored
  obtain ⟨q, found', ⟨rfl, -⟩ | ⟨-, row', -, rfl⟩⟩ := exists_record?_of_writeRow found written
  · exact ⟨row, stored?_eq_some_iff.mpr ⟨q, found', ofClass, isRow⟩⟩
  · obtain ⟨values, prepared⟩ := exists_prepared_eq u r
    exact ⟨row', stored?_eq_some_iff.mpr ⟨_, found', by rw [prepared]; exact ofClass, rfl⟩⟩

/-- A record that is there, under its class. -/
def Has (s : Store) (id : RecordId) (cls : RecordClass) : Prop :=
  ∃ r, s.record? id = some r ∧ r.cls = cls

theorem Has.writeRow {cls : RecordClass} (has : u.Has j cls)
    (written : u.writeRow id = .ok u') : u'.Has j cls := by
  obtain ⟨r, found, ofClass⟩ := has
  obtain ⟨q, found', ⟨rfl, -⟩ | ⟨-, row, -, rfl⟩⟩ := exists_record?_of_writeRow found written
  · exact ⟨q, found', ofClass⟩
  · obtain ⟨values, prepared⟩ := exists_prepared_eq u r
    exact ⟨_, found', by rw [prepared]; exact ofClass⟩

/-- Records that are written have rows. -/
theorem hasRow_of_foldlM {cls : RecordClass} (has : s.Has id cls)
    (among : s.HasRow id cls ∨ id ∈ ids)
    (done : ids.foldlM (fun s id => s.writeRow id) s = .ok t) : t.HasRow id cls := by
  induction ids generalizing s with
  | nil =>
    cases done
    exact among.resolve_right nofun
  | cons j rest ih =>
    rw [List.foldlM_cons] at done
    obtain ⟨u, first, later⟩ := bind_eq_ok.mp done
    refine ih (has.writeRow first) ?_ later
    rcases among with stored | among
    · exact .inl (stored.writeRow first)
    · rcases List.mem_cons.mp among with rfl | inRest
      · obtain ⟨r, found, ofClass⟩ := has
        obtain ⟨row, -, rfl⟩ := writeRow_eq_ok found first
        obtain ⟨values, prepared⟩ := exists_prepared_eq s r
        exact .inl ⟨row, stored?_eq_some_iff.mpr
          ⟨_, record?_modify_self _ found, by rw [prepared]; exact ofClass, rfl⟩⟩
      · exact .inr inRest

/-- New records of a class have rows when the class was written. -/
theorem hasRow_of_writeClass {cls : RecordClass} (has : s.Has id cls) (among : id ∈ new)
    (done : s.writeClass new cls = .ok t) : t.HasRow id cls := by
  obtain ⟨u, changed, added⟩ := bind_eq_ok.mp done
  have stays : u.Has id cls := foldlM_induction (P := fun u => u.Has id cls)
    (fun _ _ _ has written => has.writeRow written) has (foldlM_of_writeRows changed)
  refine hasRow_of_foldlM stays (.inr (List.mem_filter.mpr ⟨among, ?_⟩)) (foldlM_of_writeRows added)
  obtain ⟨r, found, ofClass⟩ := stays
  rw [test, found, Option.any_some, ofClass]
  exact beq_self_eq_true cls.name

/-- The new records that a flush is given have rows afterwards. -/
theorem hasRow_of_flush {cls : RecordClass} (has : s.Has id cls) (known : cls ∈ s.catalog.classes)
    (among : id ∈ new) (done : s.flush new = .ok t) : t.HasRow id cls :=
  flush_reaches (P := fun u => u.Has id cls) (fun _ _ _ has written => has.writeRow written)
    (fun _ _ _ has written => HasRow.writeRow has written) known has
    (fun _ _ _ all has done => hasRow_of_writeClass has (all id among) done) done

/-- A record of a class with a row, and nothing in it that is left to write. -/
def Written (s : Store) (id : RecordId) (cls : RecordClass) (row : Row) : Prop :=
  ∃ r, s.record? id = some r ∧ r.cls = cls ∧ r.row = some row ∧ r.Settled

section
variable {cls : RecordClass}

theorem Written.stored (written : s.Written id cls row) : s.stored? id = some (cls, row) := by
  obtain ⟨r, found, ofClass, has, -⟩ := written
  exact stored?_eq_some_iff.mpr ⟨r, found, ofClass, has⟩

/-- A record that is written stays as it is, whatever row is written. -/
theorem Written.writeRow (written : u.Written j cls row) (done : u.writeRow id = .ok u') :
    u'.Written j cls row := by
  obtain ⟨r, found, ofClass, has, settled⟩ := written
  refine ⟨r, ?_, ofClass, has, settled⟩
  obtain ⟨q, found', ⟨rfl, -⟩ | ⟨rfl, -⟩⟩ := exists_record?_of_writeRow found done
  · exact found'
  · rw [writeRow_of_settled found has settled] at done
    cases done
    exact found

theorem Written.flush (written : s.Written id cls row) (done : s.flush new = .ok t) :
    t.Written id cls row :=
  flush_induction (P := fun u => u.Written id cls row)
    (fun _ _ _ written done => written.writeRow done) written done

/-- The new records that a flush is given are written afterwards. -/
theorem written_of_flush (has : s.Has id cls) (known : cls ∈ s.catalog.classes)
    (among : id ∈ new) (done : s.flush new = .ok t) : ∃ row, t.Written id cls row := by
  obtain ⟨row, stored⟩ := hasRow_of_flush has known among done
  obtain ⟨r, found, ofClass, isRow⟩ := stored?_eq_some_iff.mp stored
  exact ⟨row, r, found, ofClass, isRow,
    settledIn_of_flush known done id r found (by rw [ofClass])⟩

end

/-! ## Attributes -/

/-- A plain attribute that has a value, and that no link that waits to be written sets. -/
structure Steady (s : Store) (id : RecordId) (attr : String) (w : Value) : Prop where
  given : w.isNull = false
  record : ∃ r, s.record? id = some r ∧ r.cls.isPlain attr = true ∧ r.value attr = w ∧
    ¬ r.Awaits attr

/-- An attribute of a record that has a value, or is set to it by links that wait to be written. -/
structure Due (s : Store) (r : Record) (attr : String) (w : Value) : Prop where
  given : w.isNull = false
  linked : ∀ a ∈ r.unwritten, ∀ rel, r.cls.relationship? a = some rel → rel.localAttr = attr →
    ∃ target, r.links.find? a = some (some target) ∧ s.Steady target rel.remote w
  value : r.value attr = w ∨ r.Awaits attr

theorem Steady.get (steady : s.Steady id attr w) : s.get id attr = w := by
  obtain ⟨r, found, plain, value, -⟩ := steady.record
  rw [get_of_plain found plain, value]

/-- An attribute that no link sets is due to keep its value. -/
theorem due_of_value (given : w.isNull = false) (value : r.value attr = w)
    (idle : ¬ r.Awaits attr) : s.Due r attr w where
  given := given
  linked := fun a waiting rel isLink sets => absurd ⟨a, waiting, rel, isLink, sets⟩ idle
  value := .inl value

theorem Steady.exists_due (steady : s.Steady id attr w) :
    ∃ r, s.record? id = some r ∧ s.Due r attr w := by
  obtain ⟨given, r, found, -, value, idle⟩ := steady
  exact ⟨r, found, due_of_value given value idle⟩

/-- Setting references gives an attribute the value that is due. -/
theorem Due.value_syncLinks (due : u.Due r attr w) : (u.syncLinks r).value attr = w := by
  have folded : ∀ (attrs : List String) (acc : Record), (∀ a ∈ attrs, a ∈ r.unwritten) →
      (acc.value attr = w ∨ ∃ a ∈ attrs, ∃ rel, r.cls.relationship? a = some rel ∧
        rel.localAttr = attr) → (attrs.foldl (u.syncLink r) acc).value attr = w := by
    intro attrs
    induction attrs with
    | nil => exact fun acc _ value => value.resolve_right nofun
    | cons a rest ih =>
      intro acc waiting value
      obtain ⟨first, later⟩ := List.forall_mem_cons.mp waiting
      refine ih _ later ?_
      cases isLink : r.cls.relationship? a with
      | none =>
        have same : u.syncLink r acc a = acc := by rw [syncLink, isLink]
        rw [same]
        refine value.imp id fun ⟨b, among, rel, isLink', sets⟩ => ?_
        rcases List.mem_cons.mp among with rfl | inRest
        · rw [isLink] at isLink'
          cases isLink'
        · exact ⟨b, inRest, rel, isLink', sets⟩
      | some rel =>
        by_cases sets : rel.localAttr = attr
        · obtain ⟨target, link, steady⟩ := due.linked a first rel isLink sets
          left
          rw [syncLink, isLink, link, ← sets]
          exact (Record.value_setValue_self ..).trans steady.get
        · refine value.imp (fun has => ?_) fun ⟨b, among, rel', isLink', sets'⟩ => ?_
          · rw [syncLink, isLink]
            exact (Record.value_setValue_of_ne _ (Ne.symm sets) _).trans has
          · rcases List.mem_cons.mp among with rfl | inRest
            · rw [isLink] at isLink'
              cases isLink'
              exact absurd sets' sets
            · exact ⟨b, inRest, rel', isLink', sets'⟩
  rw [syncLinks_eq]
  exact folded r.unwritten r (fun _ among => among) due.value

/-- A number is given to a record only in place of no value. -/
theorem value_number_of_given (u : Store) (given : (r.value attr).isNull = false) :
    (u.number r).value attr = r.value attr := by
  unfold number
  split
  · next key _ _ =>
    split
    · next missing =>
      refine Record.value_setValue_of_ne r (fun own => ?_) _
      rw [← own, given] at missing
      cases missing
    · rfl
  · rfl

theorem Due.value_prepared (due : u.Due r attr w) : (u.prepared r).value attr = w := by
  have synced := due.value_syncLinks
  unfold prepared
  split
  · exact synced
  · rw [value_number_of_given u (by rw [synced, due.given]), synced]

/-! ## What outlives the writing of rows -/

/-- Nothing waits in a record that was written. -/
theorem not_awaits_prepared (u : Store) (r : Record) (row : Row) (attr : String) :
    ¬ Record.Awaits { u.prepared r with row := some row } attr := by
  obtain ⟨values, prepared⟩ := exists_prepared_eq u r
  rw [prepared]
  rintro ⟨a, waiting, -⟩
  cases waiting

theorem Steady.writeRow (steady : u.Steady j attr w) (written : u.writeRow id = .ok u') :
    u'.Steady j attr w := by
  obtain ⟨given, r, found, plain, value, idle⟩ := steady
  obtain ⟨q, found', ⟨rfl, -⟩ | ⟨-, row, -, rfl⟩⟩ := exists_record?_of_writeRow found written
  · exact ⟨given, q, found', plain, value, idle⟩
  · obtain ⟨values, prepared⟩ := exists_prepared_eq u r
    refine ⟨given, _, found', by rw [prepared]; exact plain, ?_, not_awaits_prepared u r row attr⟩
    exact (due_of_value given value idle).value_prepared

/-- What is due at a record outlives the writing of any row. -/
theorem exists_due_of_writeRow (due : ∃ r, u.record? j = some r ∧ u.Due r attr w)
    (written : u.writeRow id = .ok u') : ∃ q, u'.record? j = some q ∧ u'.Due q attr w := by
  obtain ⟨r, found, due⟩ := due
  obtain ⟨q, found', ⟨rfl, -⟩ | ⟨-, row, -, rfl⟩⟩ := exists_record?_of_writeRow found written
  · refine ⟨q, found', due.given, fun a waiting rel isLink sets => ?_, due.value⟩
    obtain ⟨target, link, steady⟩ := due.linked a waiting rel isLink sets
    exact ⟨target, link, steady.writeRow written⟩
  · exact ⟨_, found', due_of_value due.given due.value_prepared (not_awaits_prepared u r row attr)⟩

/-! ## Cells -/

/-- What is due at a record that is written is in the column of the attribute. -/
theorem Written.cell {cls : RecordClass} (written : t.Written id cls row)
    (due : ∃ q, t.record? id = some q ∧ t.Due q attr w) (isColumn : cls.column? attr = some c) :
    ∃ cell, c.type.store w = .ok cell ∧ row.find? attr = some cell := by
  obtain ⟨q, found, ofClass, has, settled⟩ := written
  obtain ⟨q', found', due⟩ := due
  rw [found] at found'
  cases found'
  obtain ⟨columns, synced⟩ := settled row has
  have value : q.value attr = w := due.value.resolve_right fun ⟨a, waiting, _⟩ => by
    rw [synced] at waiting
    cases waiting
  obtain ⟨cell, stores, isCell⟩ := Record.find?_storeRow columns (by rw [ofClass]; exact isColumn)
  exact ⟨cell, value ▸ stores, isCell⟩

/-- What is due outlives a flush. -/
theorem exists_due_of_flush (due : ∃ r, s.record? id = some r ∧ s.Due r attr w)
    (done : s.flush new = .ok t) : ∃ q, t.record? id = some q ∧ t.Due q attr w :=
  flush_induction (P := fun u => ∃ q, u.record? id = some q ∧ u.Due q attr w)
    (fun _ _ _ due written => exists_due_of_writeRow due written) due done

/-- A flush leaves what was due in the column of the attribute. -/
theorem cell_of_flush (found : s.record? id = some r)
    (due : s.Due r attr w) (known : r.cls ∈ s.catalog.classes) (among : id ∈ new)
    (isColumn : r.cls.column? attr = some c) (done : s.flush new = .ok t) :
    ∃ row cell, t.stored? id = some (r.cls, row) ∧ c.type.store w = .ok cell ∧
      row.find? attr = some cell := by
  obtain ⟨row, written⟩ := written_of_flush ⟨r, found, rfl⟩ known among done
  obtain ⟨cell, stores, isCell⟩ :=
    written.cell (exists_due_of_flush ⟨r, found, due⟩ done) isColumn
  exact ⟨row, cell, written.stored, stores, isCell⟩

end Store

end Principals
