import Principals.Proofs.Schema.Standard
import Principals.Proofs.Store.Cell
import Principals.Proofs.Store.NewRecords
import Principals.Proofs.Store.Numbering

/-!
# Identity rows of the standard schema

Writing a new identity record gives it the next number, sets the reference to its realm, and leaves
every other column as the record has it. A store in which nothing else is left to write stays so.

* `Settled`: a store over the standard schema as a flush leaves it;
* `settled_ofRealms`: one that has realms only is such;
* `NewIdentity`: a new identity record that can be written;
* `Landed`: the row that it gets;
* `writeRow_new`: writing it succeeds exactly if there is a number left.
-/

namespace Principals

/-! ## Rows -/

namespace Store

variable {s : Store} {cls : RecordClass}

/-- Records that are only in memory have no rows. -/
theorem rowsOf_addAll {rs : List Record} (unwritten : ∀ r ∈ rs, r.row = none)
    (className : String) : (s.addAll rs).rowsOf className = s.rowsOf className := by
  have none_new : (rs.filterMap fun r => if r.cls.name = className then r.row else none) = [] := by
    rw [List.filterMap_eq_nil_iff]
    intro r among
    simp [unwritten r among]
  rw [rowsOf, addAll, List.filterMap_append, none_new, List.append_nil]
  rfl

/-- A stored record at the end adds its row. -/
theorem rowsOf_add {r : Record} {row : Row} (has : r.row = some row) :
    (s.add r).2.rowsOf r.cls.name = s.rowsOf r.cls.name ++ [row] := by
  simp [rowsOf, add, has]

theorem mem_rowsOf_of_otherRows {id : RecordId} {row : Row} (other : row ∈ s.otherRows id cls) :
    row ∈ s.rowsOf cls.name := by
  obtain ⟨j, -, given⟩ := List.mem_filterMap.mp other
  split at given
  · cases given
  · obtain ⟨r, found, has⟩ := Option.bind_eq_some_iff.mp given
    exact List.mem_filterMap.mpr ⟨r, mem_of_record? found, has⟩

end Store

namespace Standard

variable {s : Store} {r : Record}

/-! ## New identity records -/

/-- A store over the standard schema in which nothing is left to write, and in which the tables have
numbered the identity rows. -/
structure Settled (s : Store) : Prop where
  schema : s.catalog = catalog
  classes : ∀ r ∈ s.records, r.cls ∈ catalog.classes
  settled : s.Settled
  numbered : ∀ row ∈ s.rowsOf identityClass.name, ∃ n, row.find? "id" = some (.integer n)

/-- The row of a realm. -/
def realmRow (r : Realm) : Row :=
  ⟨[("id", .text r.id), ("name", match r.name with
    | some name => .text name
    | none => .null)]⟩

/-- A store that has realms in its tables and nothing else. -/
def ofRealms (realms : List Realm) : Store where
  catalog
  records := realms.map fun r => .ofRow realmClass (realmRow r)

theorem settled_realm (r : Realm) : (Record.ofRow realmClass (realmRow r)).Settled := by
  intro row has
  cases has
  obtain ⟨id, name⟩ := r
  cases name <;> exact ⟨rfl, rfl⟩

/-- Where there are realms only, there are no identity rows. -/
theorem rowsOf_ofRealms (realms : List Realm) :
    (ofRealms realms).rowsOf identityClass.name = [] := by
  have other : realmClass.name ≠ identityClass.name := by decide
  exact List.filterMap_eq_nil_iff.mpr (List.forall_mem_map.mpr fun _ _ => if_neg other)

/-- A store that has realms and nothing else is settled. -/
theorem settled_ofRealms (realms : List Realm) : Settled (ofRealms realms) where
  schema := rfl
  classes := List.forall_mem_map.mpr fun _ _ => List.mem_cons_self
  settled := List.forall_mem_map.mpr fun r _ => settled_realm r
  numbered := by
    rw [rowsOf_ofRealms]
    exact fun _ => nofun

/-- What the reference of an identity record becomes: the id of the realm that it is linked to. -/
def reference (s : Store) : Option RecordId → Value
  | some target => s.get target "id"
  | none => .null

/-- A new identity record, linked to a stored realm or to none, that can be written. -/
structure NewIdentity (s : Store) (realm : Option RecordId) (r : Record) : Prop where
  cls : r.cls = identityClass
  row : r.row = none
  removed : r.removed = false
  gathered : r.gathered = ∅
  links : r.links = ⟨realm.toList.map fun target => ("partition", some target)⟩
  unwritten : r.unwritten = realm.toList.map fun _ => "partition"
  unnumbered : r.value "id" = .null
  unreferenced : r.value "partition_id" = .null
  stores : ∀ c ∈ identityClass.columns, ∃ cell, c.type.store (r.value c.attr) = .ok cell ∧
    (c.nullable = false → c.attr ≠ "id" → cell ≠ .null)
  realm : ∀ target ∈ realm, ∃ q row, s.record? target = some q ∧ q.cls = realmClass ∧
    q.row = some row

/-- What writing a new identity record leaves: its row has the number, the reference to the realm
and, in every other column, what the record has. -/
structure Landed (s : Store) (realm : Option RecordId) (n : Int) (r q : Record) (row : Row) :
    Prop where
  cls : q.cls = identityClass
  stored : q.row = some row
  settled : q.Settled
  id : row.find? "id" = some (.integer n)
  realm : ∃ cell, ColumnType.text.store (reference s realm) = .ok cell ∧
    row.find? "partition_id" = some cell
  columns : ∀ c ∈ identityClass.columns, c.attr ≠ "id" → c.attr ≠ "partition_id" →
    ∃ cell, c.type.store (r.value c.attr) = .ok cell ∧ row.find? c.attr = some cell

theorem columns_nodup : (identityClass.columns.map Column.attr).Nodup := by decide

theorem realmColumns_nodup : (realmClass.columns.map Column.attr).Nodup := by decide

/-- The id of a stored realm can be stored as a reference to it. -/
theorem store_reference {realm : Option RecordId} (settled : s.Settled)
    (stored : ∀ target ∈ realm, ∃ q row, s.record? target = some q ∧ q.cls = realmClass ∧
      q.row = some row) :
    ∃ cell, ColumnType.text.store (reference s realm) = .ok cell := by
  cases realm with
  | none => exact ⟨.null, rfl⟩
  | some target =>
    obtain ⟨q, row, found, cls, has⟩ := stored target rfl
    obtain ⟨columns, -⟩ := settled q (Store.mem_of_record? found) row has
    rw [cls] at columns
    obtain ⟨cell, stores, -⟩ := Record.storeRow_spec columns realmColumns_nodup
      (c := { attr := "id", column := "id", type := .text, nullable := false }) (by decide)
    have get : s.get target "id" = q.value "id" :=
      Store.get_of_plain found (by rw [cls]; decide)
    rw [reference, get]
    exact ⟨cell, stores⟩

/-- Of an identity record that was linked to a realm, the reference is set to what the realm shows
as its id. -/
theorem syncLinks_of_linked {target : RecordId} (t : Store) (cls : r.cls = identityClass)
    (waiting : r.unwritten = ["partition"])
    (link : r.links.find? "partition" = some (some target)) :
    t.syncLinks r = { r.setValue "partition_id" (t.get target "id") with unwritten := [] } := by
  have relationship : r.cls.relationship? "partition" =
      some { attr := "partition", target := "PartitionObject", localAttr := "partition_id",
             remote := "id", label := some Property.realm } := by
    rw [cls]
    rfl
  simp only [Store.syncLinks, waiting, List.foldl_cons, List.foldl_nil, relationship, link,
    Option.join_some]

/-- The record with its reference set. -/
theorem syncLinks_new {t : Store} {realm : Option RecordId} (new : NewIdentity s realm r)
    (get : ∀ target ∈ realm, t.get target "id" = s.get target "id") :
    (t.syncLinks r).cls = identityClass ∧ (t.syncLinks r).row = none ∧
      (t.syncLinks r).removed = false ∧ (t.syncLinks r).unwritten = [] ∧
      (t.syncLinks r).value "partition_id" = reference s realm ∧
      ∀ attr ≠ "partition_id", (t.syncLinks r).value attr = r.value attr := by
  cases realm with
  | none =>
    have idle : t.syncLinks r = r := Store.syncLinks_of_synced new.unwritten
    rw [idle]
    exact ⟨new.cls, new.row, new.removed, new.unwritten, new.unreferenced, fun _ _ => rfl⟩
  | some target =>
    have link : r.links.find? "partition" = some (some target) := by
      rw [new.links]
      rfl
    have synced := syncLinks_of_linked t new.cls new.unwritten link
    rw [synced, get target rfl]
    exact ⟨new.cls, new.row, new.removed, rfl, Record.value_setValue_self .., fun attr ne =>
      Record.value_setValue_of_ne r ne _⟩

/-! ## Writing one -/

theorem store_number {n : Int} : ColumnType.integer.store (.int n) =
    if Reader.fitsWord n then .ok (.integer n) else .error .cellOverflow := by
  change (if Reader.fitsWord n then .ok (.integer n) else .error .cellOverflow :
    Except Failure Cell).map (Affinity.apply .numeric) = _
  split <;> rfl

/-- The kinds of columns of identity records: the number, the reference, and all others. -/
theorem column_cases {c : Column} (among : c ∈ identityClass.columns) :
    (c.attr = "id" ∧ c.type = .integer) ∨ (c.attr = "partition_id" ∧ c.type = .text ∧
      c.nullable = true) ∨ (c.attr ≠ "id" ∧ c.attr ≠ "partition_id") := by
  revert c
  decide

/-- The row of a new identity record that was numbered and referred to its realm. -/
theorem exists_row {realm : Option RecordId} {n : Int} {q : Record} (settled : Settled s)
    (new : NewIdentity s realm r) (fits : Reader.fitsWord n = true) (cls : q.cls = identityClass)
    (numbered : q.value "id" = .int n) (referred : q.value "partition_id" = reference s realm)
    (others : ∀ attr, attr ≠ "id" → attr ≠ "partition_id" → q.value attr = r.value attr) :
    ∃ row, q.storeRow q.cls.columns = .ok row ∧ row.find? "id" = some (.integer n) ∧
      (∃ cell, ColumnType.text.store (reference s realm) = .ok cell ∧
        row.find? "partition_id" = some cell) ∧
      ∀ c ∈ identityClass.columns, c.attr ≠ "id" → c.attr ≠ "partition_id" →
        ∃ cell, c.type.store (r.value c.attr) = .ok cell ∧ row.find? c.attr = some cell := by
  have takes : ∀ c ∈ identityClass.columns, ∃ cell, c.type.store (q.value c.attr) = .ok cell := by
    intro c among
    rcases column_cases among with ⟨isId, type⟩ | ⟨isReference, type, -⟩ | ⟨notId, notReference⟩
    · exact ⟨.integer n, by rw [isId, type, numbered, store_number, if_pos fits]⟩
    · rw [isReference, type, referred]
      exact store_reference settled.settled new.realm
    · obtain ⟨cell, stores, -⟩ := new.stores c among
      rw [others c.attr notId notReference]
      exact ⟨cell, stores⟩
  obtain ⟨row, stored⟩ := Record.exists_storeRow takes
  have cells : ∀ c ∈ identityClass.columns, ∃ cell, c.type.store (q.value c.attr) = .ok cell ∧
      row.find? c.attr = some cell := fun c among =>
    Record.storeRow_spec stored columns_nodup among
  refine ⟨row, by rw [cls]; exact stored, ?_, ?_, fun c among notId notReference => ?_⟩
  · obtain ⟨cell, stores, found⟩ :=
      cells { attr := "id", column := "id", type := .integer, nullable := false } (by decide)
    rw [numbered, store_number, if_pos fits] at stores
    cases stores
    exact found
  · obtain ⟨cell, stores, found⟩ :=
      cells { attr := "partition_id", column := "partition_id", type := .text } (by decide)
    rw [referred] at stores
    exact ⟨cell, stores, found⟩
  · obtain ⟨cell, stores, found⟩ := cells c among
    rw [others c.attr notId notReference] at stores
    exact ⟨cell, stores, found⟩

/-- A row with a number above all others satisfies the constraints of the table. -/
theorem admits_new {realm : Option RecordId} {row : Row} {others : List Row}
    (new : NewIdentity s realm r) (above : ∀ other ∈ others, ∃ m, other.find? "id" =
      some (.integer m) ∧ m < s.nextNumber identityClass "id")
    (id : row.find? "id" = some (.integer (s.nextNumber identityClass "id")))
    (columns : ∀ c ∈ identityClass.columns, c.attr ≠ "id" → c.attr ≠ "partition_id" →
      ∃ cell, c.type.store (r.value c.attr) = .ok cell ∧ row.find? c.attr = some cell) :
    Store.admits identityClass others row = true := by
  have unique : ∀ c ∈ identityClass.columns, c.unique = false := by decide
  have keys : others.any (Store.agree identityClass.primaryKey row) = false := by
    rw [List.any_eq_false]
    intro other among
    obtain ⟨m, has, less⟩ := above other among
    have differ : ¬ (Cell.integer (s.nextNumber identityClass "id")).same (.integer m) = true := by
      rw [Cell.same_integer_iff]
      exact fun eq => Int.lt_irrefl m (eq ▸ less)
    simpa [Store.agree, identityClass, id, has] using differ
  rw [Store.admits, keys, Bool.not_false, Bool.and_true, List.all_eq_true]
  intro c among
  rw [unique c among, Bool.not_false, Bool.true_or, Bool.and_true, Bool.or_eq_true]
  rcases column_cases among with ⟨isId, -⟩ | ⟨-, -, nullable⟩ | ⟨notId, notReference⟩
  · rw [isId, id]
    exact .inr rfl
  · exact .inl nullable
  · obtain ⟨cell, stores, found⟩ := columns c among notId notReference
    obtain ⟨cell', stores', present⟩ := new.stores c among
    rw [stores] at stores'
    cases stores'
    cases nullable : c.nullable with
    | true => exact .inl rfl
    | false =>
      rw [found]
      exact .inr (bne_iff_ne.mpr (present nullable notId))

/-- The id of a stored realm does not change when records are added. -/
theorem get_addAll {realm : Option RecordId} (new : NewIdentity s realm r) (rs : List Record) :
    ∀ target ∈ realm, (s.addAll rs).get target "id" = s.get target "id" := by
  intro target given
  obtain ⟨q, row, found, cls, -⟩ := new.realm target given
  have plain : q.cls.isPlain "id" = true := by
    rw [cls]
    decide
  rw [Store.get_of_plain found plain,
    Store.get_of_plain (Store.record?_addAll_of_some rs found) plain]

/-- The record with its reference set and its number given. -/
theorem number_new {t : Store} {q : Record} (cls : q.cls = identityClass)
    (unnumbered : q.value "id" = .null) :
    t.number q = q.setValue "id" (.int (t.nextNumber identityClass "id")) := by
  have key : q.cls.keyAttr? = some "id" := by rw [cls]; rfl
  rw [Store.number_of_isNull (by rw [cls]; rfl) key (by rw [unnumbered]; rfl), cls]

/-- Writes the row of a record that has its references and its number. -/
def writeNumbered (s : Store) (id : RecordId) (q : Record) : Except Failure Store := do
  let row ← q.storeRow q.cls.columns
  if q.row = some row then .ok (s.modify id fun _ => q)
  else if Store.admits q.cls (s.otherRows id q.cls) row then
    .ok (s.modify id fun _ => { q with row := some row })
  else .error .constraint

/-- A record whose number fits gets its row. -/
theorem writeNumbered_of_fits {realm : Option RecordId} {rest : List Record} {q : Record}
    (settled : Settled s) (new : NewIdentity s realm r)
    (fits : Reader.fitsWord (s.nextNumber identityClass "id") = true)
    (above : ∀ other ∈ (s.addAll (r :: rest)).otherRows s.records.length identityClass,
      ∃ m, other.find? "id" = some (.integer m) ∧ m < s.nextNumber identityClass "id")
    (cls : q.cls = identityClass) (noRow : q.row = none) (synced : q.unwritten = [])
    (numbered : q.value "id" = .int (s.nextNumber identityClass "id"))
    (referred : q.value "partition_id" = reference s realm)
    (others : ∀ attr, attr ≠ "id" → attr ≠ "partition_id" → q.value attr = r.value attr) :
    ∃ row, writeNumbered (s.addAll (r :: rest)) s.records.length q =
        .ok ((s.add { q with row := some row }).2.addAll rest) ∧
      Landed s realm (s.nextNumber identityClass "id") r { q with row := some row } row := by
  obtain ⟨row, stored, id, realm, columns⟩ :=
    exists_row settled new fits cls numbered referred others
  have admitted := admits_new new above id columns
  rw [← cls] at admitted
  refine ⟨row, bind_eq_ok.mpr ⟨row, stored, ?_⟩, cls, rfl, ?_, id, realm, columns⟩
  · rw [if_neg (by rw [noRow]; exact nofun), if_pos admitted, Store.modify_addAll_head]
  · intro row' has
    cases has
    refine ⟨?_, synced⟩
    rw [Record.storeRow_congr (q := { q with row := some row }) (r := q) fun _ => rfl]
    exact stored

/-- A record whose number does not fit gets none. -/
theorem writeNumbered_of_overflow {t : Store} {id : RecordId} {q : Record} {n : Int}
    (misses : Reader.fitsWord n = false) (cls : q.cls = identityClass)
    (numbered : q.value "id" = .int n) : writeNumbered t id q = .error .cellOverflow := by
  have overflow : q.storeRow q.cls.columns = .error .cellOverflow := by
    have columns : identityClass.columns =
        { attr := "id", column := "id", type := .integer, nullable := false } ::
          identityClass.columns.tail := rfl
    rw [cls, columns, Record.storeRow, numbered, store_number]
    simp only [misses, Bool.false_eq_true, if_false]
    rfl
  rw [writeNumbered, overflow]
  rfl

/-- Records that are only in memory do not change the next number. -/
theorem nextNumber_addAll {rs : List Record} (unwritten : ∀ q ∈ rs, q.row = none) :
    (s.addAll rs).nextNumber identityClass "id" = s.nextNumber identityClass "id" := by
  rw [Store.nextNumber, Store.rowsOf_addAll unwritten]
  rfl

/-- Every other row has a number below the next one. -/
theorem lt_nextNumber_of_otherRows {rs : List Record} {id : RecordId} (settled : Settled s)
    (unwritten : ∀ q ∈ rs, q.row = none) :
    ∀ other ∈ (s.addAll rs).otherRows id identityClass,
      ∃ m, other.find? "id" = some (.integer m) ∧ m < s.nextNumber identityClass "id" := by
  intro other among
  have among_rows := Store.mem_rowsOf_of_otherRows among
  rw [Store.rowsOf_addAll unwritten] at among_rows
  obtain ⟨m, has⟩ := settled.numbered other among_rows
  refine ⟨m, has, Store.lt_nextNumber (List.mem_filterMap.mpr ⟨other, among_rows, ?_⟩)⟩
  rw [has]

/-- Writing a new identity record gives it the next number; it fails if that does not fit. -/
theorem writeRow_new {realm : Option RecordId} {rest : List Record} (settled : Settled s)
    (new : NewIdentity s realm r) (unwritten : ∀ q ∈ rest, q.row = none) :
    (Reader.fitsWord (s.nextNumber identityClass "id") = true → ∃ q row,
      (s.addAll (r :: rest)).writeRow s.records.length = .ok ((s.add q).2.addAll rest) ∧
        Landed s realm (s.nextNumber identityClass "id") r q row) ∧
    (Reader.fitsWord (s.nextNumber identityClass "id") = false →
      (s.addAll (r :: rest)).writeRow s.records.length = .error .cellOverflow) := by
  have noRows : ∀ q ∈ r :: rest, q.row = none := List.forall_mem_cons.mpr ⟨new.row, unwritten⟩
  obtain ⟨cls, noRow, -, synced, referred, same⟩ :=
    syncLinks_new (t := s.addAll (r :: rest)) new (get_addAll new _)
  have unnumbered : ((s.addAll (r :: rest)).syncLinks r).value "id" = .null := by
    rw [same "id" (by decide), new.unnumbered]
  have unstored : ((s.addAll (r :: rest)).syncLinks r).isStored = false := by
    simp [Record.isStored, noRow]
  have numbered := number_new (t := s.addAll (r :: rest)) cls unnumbered
  have run : (s.addAll (r :: rest)).writeRow s.records.length =
      writeNumbered (s.addAll (r :: rest)) s.records.length
        (((s.addAll (r :: rest)).syncLinks r).setValue "id"
          (.int (s.nextNumber identityClass "id"))) := by
    rw [← nextNumber_addAll noRows, ← numbered, Store.writeRow, Store.record?_addAll_head]
    dsimp only
    rw [unstored]
    rfl
  rw [run]
  refine ⟨fun fits => ?_, fun misses =>
    writeNumbered_of_overflow misses cls (Record.value_setValue_self ..)⟩
  obtain ⟨row, written, landed⟩ := writeNumbered_of_fits
    (q := ((s.addAll (r :: rest)).syncLinks r).setValue "id"
      (.int (s.nextNumber identityClass "id"))) settled new fits
    (lt_nextNumber_of_otherRows settled noRows) cls noRow synced
    (Record.value_setValue_self ..)
    ((Record.value_setValue_of_ne _ (by decide) _).trans referred)
    fun attr notId ne => (Record.value_setValue_of_ne _ notId _).trans (same attr ne)
  exact ⟨_, row, written, landed⟩

end Standard

end Principals
