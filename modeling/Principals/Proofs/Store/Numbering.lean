import Mathlib.Order.Lattice
import Principals.Proofs.Store.Cell
import Principals.Proofs.Store.Due
import Principals.Proofs.Store.NewRecords

/-!
# References to records that are numbered along with them

A new record may refer to one that is new as well, which has no number until its row is written. The
reference must be there, so the row with the reference is not written before. Once the number is
given, it is above all that the table had, and it is due in every record that waits for it.

* `lt_nextNumber`: the next number of a table;
* `Refers`, `Waits`, `Follows`: references that need a number, and records that wait for one or have
  it;
* `Follows.writeRow`: they go on to do so, whatever row is written;
* `exists_number_of_flush`: after a flush they have the number.
-/

namespace Principals.Store

variable {s t u u' : Store} {id i owner : RecordId} {r : Record} {ids new : List RecordId}
  {cls target : RecordClass} {rel : Relationship} {attr : String} {w : Value} {m : Int}

/-! ## Numbers -/

/-- The numbers in a column of the rows of a class. -/
def numbers (s : Store) (cls : RecordClass) (attr : String) : List Int :=
  (s.rowsOf cls.name).filterMap fun row => match row.find? attr with
    | some (.integer n) => some n
    | _ => none

theorem foldl_max_le {n : Int} {ns : List Int} : n ≤ ns.foldl max n ∧
    ∀ m ∈ ns, m ≤ ns.foldl max n := by
  induction ns generalizing n with
  | nil => exact ⟨le_refl n, nofun⟩
  | cons k rest ih =>
    obtain ⟨start, others⟩ := @ih (max n k)
    rw [List.foldl_cons]
    refine ⟨(le_max_left n k).trans start, fun m among => ?_⟩
    rcases List.mem_cons.mp among with rfl | later
    · exact (le_max_right n m).trans start
    · exact others m later

theorem nextNumber_eq (s : Store) (cls : RecordClass) (attr : String) :
    s.nextNumber cls attr = match s.numbers cls attr with
      | [] => 1
      | n :: rest => rest.foldl max n + 1 :=
  rfl

theorem nextNumber_of_cons {n : Int} {rest : List Int} (given : s.numbers cls attr = n :: rest) :
    s.nextNumber cls attr = rest.foldl max n + 1 := by
  rw [nextNumber_eq, given]

/-- The next number is above all numbers there are. -/
theorem lt_nextNumber {n : Int} (among : n ∈ s.numbers cls attr) : n < s.nextNumber cls attr := by
  cases given : s.numbers cls attr with
  | nil =>
    rw [given] at among
    cases among
  | cons k rest =>
    rw [given] at among
    rw [nextNumber_of_cons given]
    rcases List.mem_cons.mp among with rfl | later
    · exact Int.lt_add_one_of_le foldl_max_le.1
    · exact Int.lt_add_one_of_le (foldl_max_le.2 n later)

/-- A record without a number gets the next one of its table. -/
theorem number_of_isNull (isNumbered : r.cls.isNumbered = true) (key : r.cls.keyAttr? = some attr)
    (missing : (r.value attr).isNull = true) :
    u.number r = r.setValue attr (.int (u.nextNumber r.cls attr)) := by
  simp only [number, isNumbered, key, missing, if_true]

/-- Numbering a record changes nothing but its number. -/
theorem value_number_of_ne (u : Store) (other : r.cls.keyAttr? ≠ some attr) :
    (u.number r).value attr = r.value attr := by
  unfold number
  split
  · next key _ isKey =>
    split
    · refine Record.value_setValue_of_ne r (fun own => ?_) _
      rw [own] at other
      exact other isKey
    · rfl
  · rfl

/-! ## Links -/

/-- An attribute that no link sets is left as it is when references are set. -/
theorem value_syncLinks_of_idle (u : Store) (idle : ¬ r.Awaits attr) :
    (u.syncLinks r).value attr = r.value attr := by
  have folded : ∀ (attrs : List String) (acc : Record), (∀ a ∈ attrs, a ∈ r.unwritten) →
      (attrs.foldl (u.syncLink r) acc).value attr = acc.value attr := by
    intro attrs
    induction attrs with
    | nil => exact fun _ _ => rfl
    | cons a rest ih =>
      intro acc waiting
      obtain ⟨first, later⟩ := List.forall_mem_cons.mp waiting
      refine (ih _ later).trans ?_
      cases isLink : r.cls.relationship? a with
      | none => rw [syncLink, isLink]
      | some rel =>
        have other : rel.localAttr ≠ attr := fun sets => idle ⟨a, first, rel, isLink, sets⟩
        rw [syncLink, isLink]
        exact Record.value_setValue_of_ne acc (Ne.symm other) _
  rw [syncLinks_eq]
  exact folded r.unwritten r fun _ among => among

/-- Where one link waits, its reference is set. -/
theorem syncLinks_of_single (u : Store) (waiting : r.unwritten = [rel.attr])
    (isLink : r.cls.relationship? rel.attr = some rel)
    (link : r.links.find? rel.attr = some (some owner)) :
    u.syncLinks r = { r.setValue rel.localAttr (u.get owner rel.remote) with unwritten := [] } := by
  rw [syncLinks_eq, waiting]
  simp only [List.foldl_cons, List.foldl_nil, syncLink, isLink, link, Option.join_some]

/-! ## Who waits -/

/-- A relationship whose reference must be there and is the number of a record of another class. -/
structure Refers (rel : Relationship) (cls target : RecordClass) : Prop where
  isLink : cls.relationship? rel.attr = some rel
  needed : ∃ c, cls.column? rel.localAttr = some c ∧ c.nullable = false
  /-- The reference is no number that the table gives. -/
  given : cls.keyAttr? ≠ some rel.localAttr
  isNumbered : target.isNumbered = true
  key : target.keyAttr? = some rel.remote
  plain : target.isPlain rel.remote = true
  other : cls ≠ target

/-- A new record that waits to refer to another. -/
def Waits (u : Store) (rel : Relationship) (cls : RecordClass) (owner id : RecordId) : Prop :=
  ∃ r, u.record? id = some r ∧ r.cls = cls ∧ r.row = none ∧ r.unwritten = [rel.attr] ∧
    r.links.find? rel.attr = some (some owner)

/-- A new record that has no number yet. -/
def Unnumbered (u : Store) (target : RecordClass) (attr : String) (id : RecordId) : Prop :=
  ∃ r, u.record? id = some r ∧ r.cls = target ∧ r.row = none ∧ r.value attr = .null ∧
    ¬ r.Awaits attr

/-- A number that a table has for a record with nothing left to write. -/
def Holds (u : Store) (target : RecordClass) (attr : String) (m : Int) : Prop :=
  ∃ j row, u.Written j target row ∧ row.find? attr = some (.integer m)

/-- New records that wait for the number of another one, until it is given; it is then above the
numbers that a store had, and due in each of them. -/
inductive Follows (s : Store) (rel : Relationship) (cls target : RecordClass) (owner : RecordId)
    (ids : List RecordId) (u : Store) : Prop
  | waiting (unnumbered : u.Unnumbered target rel.remote owner)
      (waits : ∀ i ∈ ids, u.Waits rel cls owner i)
      (held : ∀ m, s.Holds target rel.remote m → u.Holds target rel.remote m)
  | numbered (n : Int) (number : u.Steady owner rel.remote (.int n))
      (refer : ∀ i ∈ ids, ∃ r, u.record? i = some r ∧ u.Due r rel.localAttr (.int n))
      (above : ∀ m, s.Holds target rel.remote m → m < n)

theorem Holds.mem_numbers (holds : u.Holds target attr m) : m ∈ u.numbers target attr := by
  obtain ⟨j, row, ⟨r, found, ofClass, has, -⟩, isNumber⟩ := holds
  refine List.mem_filterMap.mpr ⟨row, ?_, by rw [isNumber]⟩
  exact List.mem_filterMap.mpr ⟨r, mem_of_record? found, by rw [ofClass, if_pos rfl, has]⟩

theorem Written.addAll {row : Row} (written : s.Written i cls row) (rs : List Record) :
    (s.addAll rs).Written i cls row := by
  obtain ⟨r, found, rest⟩ := written
  exact ⟨r, record?_addAll_of_some rs found, rest⟩

/-- New records take no number from the table. -/
theorem Holds.addAll (holds : s.Holds target attr m) (rs : List Record) :
    (s.addAll rs).Holds target attr m := by
  obtain ⟨j, row, written, isNumber⟩ := holds
  exact ⟨j, row, written.addAll rs, isNumber⟩

theorem Holds.writeRow (holds : u.Holds target attr m) (done : u.writeRow id = .ok u') :
    u'.Holds target attr m := by
  obtain ⟨j, row, written, isNumber⟩ := holds
  exact ⟨j, row, written.writeRow done, isNumber⟩

/-- A record other than the one that was written is as it was. -/
theorem record?_of_writeRow_of_ne (found : u.record? i = some r) (ne : i ≠ id)
    (written : u.writeRow id = .ok u') : u'.record? i = some r := by
  obtain ⟨q, found', ⟨rfl, -⟩ | ⟨same, -⟩⟩ := exists_record?_of_writeRow found written
  · exact found'
  · exact absurd same ne

theorem Waits.due (waits : u.Waits rel cls owner i)
    (isLink : cls.relationship? rel.attr = some rel) (steady : u.Steady owner rel.remote w) :
    ∃ r, u.record? i = some r ∧ u.Due r rel.localAttr w := by
  obtain ⟨r, found, ofClass, -, waiting, link⟩ := waits
  refine ⟨r, found, steady.given, fun a among rel' isLink' _ => ?_, .inr ⟨rel.attr, ?_, rel, ?_, rfl⟩⟩
  · rw [waiting, List.mem_singleton] at among
    subst among
    rw [ofClass, isLink] at isLink'
    cases isLink'
    exact ⟨owner, link, steady⟩
  · rw [waiting]
    exact List.mem_singleton.mpr rfl
  · rw [ofClass, isLink]

/-- A record is not written before what it must refer to has a number. -/
theorem Waits.not_writeRow (refers : Refers rel cls target) (waits : u.Waits rel cls owner i)
    (unnumbered : u.Unnumbered target rel.remote owner) : u.writeRow i ≠ .ok u' := by
  intro written
  obtain ⟨r, found, rfl, new, waiting, link⟩ := waits
  obtain ⟨q, foundOwner, rfl, -, missing, -⟩ := unnumbered
  obtain ⟨c, isColumn, needed⟩ := refers.needed
  obtain ⟨row, stored, admitted⟩ := admits_of_writeRow found new written
  have missingHere : (u.prepared r).value rel.localAttr = .null := by
    have synced := syncLinks_of_single u waiting refers.isLink link
    rw [get_of_plain foundOwner refers.plain, missing] at synced
    have unstored : (u.syncLinks r).isStored = false := by
      rw [synced, Record.isStored]
      exact congrArg Option.isSome new
    have sameClass : (u.syncLinks r).cls = r.cls := by rw [synced]; rfl
    rw [prepared, if_neg (by rw [unstored]; exact Bool.false_ne_true),
      value_number_of_ne u (by rw [sameClass]; exact refers.given), synced]
    exact Record.value_setValue_self ..
  obtain ⟨cell, stores, isCell⟩ := Record.find?_storeRow stored isColumn
  rw [missingHere, ColumnType.store_null] at stores
  cases stores
  rw [admits, Bool.and_eq_true, List.all_eq_true] at admitted
  have here := admitted.1 c (List.mem_of_find?_eq_some isColumn)
  rw [needed, attr_of_column? isColumn, isCell] at here
  cases here

/-- When a record without a number is written, it gets one above all that the table has. -/
theorem Unnumbered.writeRow_self (unnumbered : u.Unnumbered target attr owner)
    (isNumbered : target.isNumbered = true) (key : target.keyAttr? = some attr)
    (plain : target.isPlain attr = true) (written : u.writeRow owner = .ok u') :
    u'.Steady owner attr (.int (u.nextNumber target attr)) := by
  obtain ⟨r, found, rfl, new, missing, idle⟩ := unnumbered
  obtain ⟨row, -, rfl⟩ := writeRow_eq_ok found written
  refine ⟨rfl, _, record?_modify_self _ found, by rw [cls_prepared]; exact plain, ?_,
    not_awaits_prepared u r row attr⟩
  obtain ⟨values, synced⟩ := exists_syncLinks_eq u r
  have ofClass : (u.syncLinks r).cls = r.cls := by rw [synced]
  have unstored : (u.syncLinks r).isStored = false := by
    rw [synced, Record.isStored]
    exact congrArg Option.isSome new
  have missingStill : ((u.syncLinks r).value attr).isNull = true := by
    rw [value_syncLinks_of_idle u idle, missing]
    rfl
  change (u.prepared r).value attr = _
  rw [prepared, if_neg (by rw [unstored]; exact Bool.false_ne_true),
    number_of_isNull (by rw [ofClass]; exact isNumbered) (by rw [ofClass]; exact key) missingStill,
    Record.value_setValue_self, ofClass]

/-- Whatever row is written, records go on to wait for the number or to refer to it. -/
theorem Follows.writeRow (refers : Refers rel cls target)
    (follows : s.Follows rel cls target owner ids u) (written : u.writeRow id = .ok u') :
    s.Follows rel cls target owner ids u' := by
  cases follows with
  | numbered n number refer above =>
    exact .numbered n (number.writeRow written)
      (fun i among => exists_due_of_writeRow (refer i among) written) above
  | waiting unnumbered waits held =>
    have apart : ∀ i ∈ ids, i ≠ owner := by
      rintro i among rfl
      obtain ⟨r, found, isFirst, -⟩ := waits i among
      obtain ⟨q, found', isSecond, -⟩ := unnumbered
      rw [found] at found'
      cases found'
      exact refers.other (isFirst.symm.trans isSecond)
    have stays : ∀ i ∈ ids, i ≠ id → u'.Waits rel cls owner i := by
      intro i among ne
      obtain ⟨r, found, rest⟩ := waits i among
      exact ⟨r, record?_of_writeRow_of_ne found ne written, rest⟩
    by_cases own : id = owner
    · subst own
      have number := unnumbered.writeRow_self refers.isNumbered refers.key refers.plain written
      exact .numbered _ number
        (fun i among => (stays i among (apart i among)).due refers.isLink number)
        fun m holds => lt_nextNumber (held m holds).mem_numbers
    · have among : id ∉ ids := fun among => (waits id among).not_writeRow refers unnumbered written
      obtain ⟨r, found, rest⟩ := unnumbered
      exact .waiting ⟨r, record?_of_writeRow_of_ne found (Ne.symm own) written, rest⟩
        (fun i inIds => stays i inIds fun same => among (same ▸ inIds))
        fun m holds => (held m holds).writeRow written

/-- A flush that writes the record gives it a number above those that the table had, and leaves the
number due in the records that wait for it. -/
theorem exists_number_of_flush (refers : Refers rel cls target)
    (unnumbered : s.Unnumbered target rel.remote owner) (waits : ∀ i ∈ ids, s.Waits rel cls owner i)
    (known : target ∈ s.catalog.classes) (among : owner ∈ new) (done : s.flush new = .ok t) :
    ∃ n, t.Steady owner rel.remote (.int n) ∧
      (∀ i ∈ ids, ∃ r, t.record? i = some r ∧ t.Due r rel.localAttr (.int n)) ∧
      ∀ m, s.Holds target rel.remote m → m < n := by
  have follows : s.Follows rel cls target owner ids t :=
    flush_induction (fun _ _ _ follows written => Follows.writeRow refers follows written)
      (.waiting unnumbered waits fun _ holds => holds) done
  cases follows with
  | numbered n number refer above => exact ⟨n, number, refer, above⟩
  | waiting still =>
    -- The record was written, so it is no longer without a number.
    obtain ⟨q, found, ofClass, -⟩ := unnumbered
    obtain ⟨row, r, found', -, has, -⟩ := written_of_flush ⟨q, found, ofClass⟩ known among done
    obtain ⟨r', found'', -, new, -⟩ := still
    rw [found'] at found''
    cases found''
    rw [new] at has
    cases has

end Principals.Store
