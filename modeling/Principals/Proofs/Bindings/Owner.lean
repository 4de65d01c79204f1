import Principals.Bindings.Owner
import Principals.Proofs.Store.Action
import Principals.Proofs.Store.Agreement
import Principals.Proofs.Store.Due

/-!
# Owners bound to a relationship or to its column

Where attribute records have a relationship to identities, their owner may be bound to the
relationship or to the column that it is built on. Either way the column is the one that refers to
the owner, and linking a record to its owner goes through a relationship built on that column. Which
column of the identities is taken to be referred to depends on the way: the one that the
relationship leads to, or else the first of the primary key.

* `Relationship.Joins`: relationships between two classes that are built on a foreign key;
* `Bindings.EitherWay`: bindings that differ in how they bind the owner, and in nothing else;
* `EitherWay.ownerColumn`, `EitherWay.identityColumn`: the columns at both ends;
* `Store.Linked`, `EitherWay.linkAlike`: both ways link a record to its owner.
-/

namespace Principals

/-! ## Relationships built on a foreign key -/

namespace RecordClass

variable {cls : RecordClass} {rel : Relationship} {c : Column} {attr : String}

/-- Whether each attribute of a class shows one column, one relationship or one collection. -/
def ShowsOnce (cls : RecordClass) : Prop := (cls.members.map Member.attr ++ cls.collections).Nodup

theorem mem_relationships : rel ∈ cls.relationships ↔ .relationship rel ∈ cls.members := by
  rw [relationships, List.mem_filterMap]
  constructor
  · intro h
    rcases h with ⟨m, among, isLink⟩
    cases m with
    | column c => cases isLink
    | relationship r =>
      cases isLink
      exact among
  · exact fun among => ⟨_, among, rfl⟩

theorem mem_columns : c ∈ cls.columns ↔ .column c ∈ cls.members := by
  rw [columns, List.mem_filterMap]
  constructor
  · intro h
    rcases h with ⟨m, among, isColumn⟩
    cases m with
    | column c =>
      cases isColumn
      exact among
    | relationship r => cases isColumn
  · exact fun among => ⟨_, among, rfl⟩

theorem needTable_of_isMapped (mapped : cls.isMapped = true) : cls.needTable = .ok () := by
  have table : cls.unmapped = none := Option.isNone_iff_eq_none.mp mapped
  rw [needTable, table]

namespace ShowsOnce

theorem eq_of_attr_eq (once : cls.ShowsOnce) {m m' : Member} (among : m ∈ cls.members)
    (among' : m' ∈ cls.members) (same : m.attr = m'.attr) : m = m' :=
  List.inj_on_of_nodup_map (List.nodup_append.mp once).1 among among' same

/-- A relationship is the one that its attribute shows. -/
theorem relationship?_eq (once : cls.ShowsOnce) (among : rel ∈ cls.relationships) :
    cls.relationship? rel.attr = some rel := by
  obtain ⟨l, found⟩ : ∃ l, cls.relationship? rel.attr = some l :=
    Option.isSome_iff_exists.mp (List.find?_isSome.mpr ⟨rel, among, beq_self_eq_true _⟩)
  have same := once.eq_of_attr_eq (mem_relationships.mp (List.mem_of_find?_eq_some found))
    (mem_relationships.mp among) (Store.attr_of_relationship? found)
  cases same
  exact found

/-- The attribute of a column shows no relationship. -/
theorem relationship?_eq_none (once : cls.ShowsOnce) (isColumn : cls.column? attr = some c) :
    cls.relationship? attr = none := by
  rw [← Option.not_isSome_iff_eq_none]
  intro some_link
  obtain ⟨rel, found⟩ := Option.isSome_iff_exists.mp some_link
  have same := once.eq_of_attr_eq (mem_relationships.mp (List.mem_of_find?_eq_some found))
    (mem_columns.mp (List.mem_of_find?_eq_some isColumn))
    ((Store.attr_of_relationship? found).trans (attr_of_column? isColumn).symm)
  cases same

theorem not_collection (once : cls.ShowsOnce) (among : rel ∈ cls.relationships) :
    cls.collections.contains rel.attr = false := by
  rw [List.contains_eq_mem, decide_eq_false_iff_not]
  have shown : rel.attr ∈ cls.members.map Member.attr :=
    List.mem_map.mpr ⟨_, mem_relationships.mp among, rfl⟩
  exact fun gathers => (List.nodup_append.mp once).2.2 _ shown _ gathers rfl

end ShowsOnce

end RecordClass

namespace Relationship

/-- Whether two relationships are read off one reference. -/
structure SameReference (l rel : Relationship) : Prop where
  target : l.target = rel.target
  localAttr : l.localAttr = rel.localAttr
  remote : l.remote = rel.remote

/-- A relationship between classes with tables that is built on a foreign key: a column of its own
class, which refers to one column of the target, whatever relationships to the target are built on
it. The primary key of the target begins with `key`. -/
structure Joins (rel : Relationship) (cls target : RecordClass) (key : String) : Prop where
  mapped : cls.isMapped = true
  targetMapped : target.isMapped = true
  once : cls.ShowsOnce
  among : rel ∈ cls.relationships
  leads : rel.target = target.name
  referring : ∃ c, cls.column? rel.localAttr = some c
  referred : ∃ c, target.column? rel.remote = some c
  single : ∀ l ∈ cls.relationships, l.target = rel.target → l.localAttr = rel.localAttr →
    l.remote = rel.remote
  keyAttr : target.keyAttr? = some key
  keyColumn : ∃ c, target.column? key = some c

end Relationship

/-! ## Links in memory -/

namespace Store

variable {s t : Store} {id owner : RecordId} {r : Record} {rel : Relationship} {attr : String}
  {v w : Value}

/-- What is settled at a record outlives assignments to another. -/
theorem Steady.set (steady : s.Steady owner attr w) (other : id ≠ owner) {a : String}
    (done : s.set id a v = .ok t) : t.Steady owner attr w := by
  obtain ⟨given, r, found, plain, value, idle⟩ := steady
  have agrees (b : String) : AgreesAt owner b s t :=
    AgreesAt.set (fun same => absurd same other) done
  obtain ⟨q, found', same⟩ := agrees attr r found
  refine ⟨given, q, found', by rw [same.cls]; exact plain, same.value.trans value, ?_⟩
  intro h
  rcases h with ⟨b, waiting, rel, isLink, sets⟩
  obtain ⟨q', found'', same'⟩ := agrees b r found
  rw [found'] at found''
  cases found''
  exact idle ⟨b, same'.waiting.mp waiting, rel, same.cls ▸ isLink, sets⟩

/-- What is settled at an owner is due in the reference of a record that is linked to it, unless
other links were to set the reference before. -/
theorem exists_due_of_link (found : s.record? id = some r)
    (isLink : r.cls.relationship? rel.attr = some rel) (other : id ≠ owner)
    (idle : ¬ r.Awaits rel.localAttr) (steady : s.Steady owner rel.remote w)
    (done : s.set id rel.attr (.record owner) = .ok t) :
    ∃ q, t.record? id = some q ∧ q.cls = r.cls ∧ t.Due q rel.localAttr w := by
  obtain ⟨q, found', cls, link, waits⟩ := exists_link_of_set found isLink done
  have waited : ∀ a ∈ q.unwritten, a = rel.attr ∨ a ∈ r.unwritten := by
    intro a waiting
    by_cases own : a = rel.attr
    · exact .inl own
    · have agrees : AgreesAt id a s t := AgreesAt.set (fun _ => Ne.symm own) done
      obtain ⟨q', found'', same⟩ := agrees r found
      rw [found'] at found''
      cases found''
      exact .inr (same.waiting.mp waiting)
  refine ⟨q, found', cls, steady.given, fun a waiting l isLink' sets => ?_,
    .inr ⟨rel.attr, waits, rel, by rw [cls]; exact isLink, rfl⟩⟩
  rw [cls] at isLink'
  rcases waited a waiting with rfl | before
  · rw [isLink] at isLink'
    cases isLink'
    exact ⟨owner, link, steady.set other done⟩
  · exact absurd ⟨a, before, l, isLink', sets⟩ idle

/-- A record that a relationship links to an owner: that is what the relationship gives and, if the
attribute of the owner that the reference takes is settled, what the reference becomes when the
record is written, unless other links were to set the reference before. -/
structure Linked (s t : Store) (id owner : RecordId) (rel : Relationship) : Prop where
  get : t.get id rel.attr = .record owner
  cell : ∀ r w c new u, s.record? id = some r → id ≠ owner → ¬ r.Awaits rel.localAttr →
    s.Steady owner rel.remote w → r.cls.column? rel.localAttr = some c →
    r.cls ∈ s.catalog.classes → id ∈ new → t.flush new = .ok u →
      ∃ row cell, u.stored? id = some (r.cls, row) ∧ c.type.store w = .ok cell ∧
        row.find? rel.localAttr = some cell

theorem linked_of_set (found : s.record? id = some r) (once : r.cls.ShowsOnce)
    (among : rel ∈ r.cls.relationships) (done : s.set id rel.attr (.record owner) = .ok t) :
    s.Linked t id owner rel := by
  have isLink := once.relationship?_eq among
  refine ⟨?_, fun r' w c new u found'' other idle steady isColumn known written flushed => ?_⟩
  · obtain ⟨q, found', cls, link, -⟩ := exists_link_of_set found isLink done
    have noCollection := once.not_collection among
    rw [← cls] at isLink noCollection
    simp only [get, found', noCollection, Bool.false_eq_true, if_false, valueOf, isLink, linked?,
      link]
  · rw [found] at found''
    cases found''
    obtain ⟨q, found', cls, due⟩ := exists_due_of_link found isLink other idle steady done
    rw [← cls] at isColumn known ⊢
    rw [← (Assigned.set done).catalog] at known
    exact cell_of_flush found' due known written isColumn flushed

end Store

/-! ## Bindings that differ in the owner -/

namespace Bindings

variable {b c : Bindings} {rel : Relationship} {key : String}

/-- Bindings of the same classes that bind every property alike but the owner of attribute records:
the first to a relationship to identities, the second to the column that it is built on. -/
structure EitherWay (b c : Bindings) (rel : Relationship) (key : String) : Prop where
  identities : c.identityClass = b.identityClass
  attributes : c.attributeClass = b.attributeClass
  others : ∀ property ≠ Property.attributeOwner,
    c.properties.find? property = b.properties.find? property
  link : b.properties.find? Property.attributeOwner = some rel.attr
  column : c.properties.find? Property.attributeOwner = some rel.localAttr
  joins : rel.Joins b.attributeClass b.identityClass key

/-- Whether two bindings link attribute records to owners alike: the first by a relationship, the
second by one that is read off the same reference, which is that relationship itself if there is no
other. -/
def LinkAlike (b c : Bindings) (rel : Relationship) : Prop :=
  ∃ l ∈ b.attributeClass.relationships, l.SameReference rel ∧
    (∀ s id owner r, s.record? id = some r → r.cls = b.attributeClass →
      ∃ t u, (b.assignOwner id owner).outcome s = (.ok (), t) ∧ s.Linked t id owner rel ∧
        (c.assignOwner id owner).outcome s = (.ok (), u) ∧ s.Linked u id owner l) ∧
    ((∀ l' ∈ b.attributeClass.relationships, l'.SameReference rel → l' = rel) →
      c.assignOwner = b.assignOwner)

theorem assignOwner_eq {l : Relationship} (linking : b.linkingRelationship = .ok (some l))
    (id owner : RecordId) :
    b.assignOwner id owner = StoreM.change fun s => s.set id l.attr (.record owner) := by
  rw [assignOwner, linking]
  rfl

namespace EitherWay

theorem ownerRelationship_eq (h : EitherWay b c rel key) :
    b.ownerRelationship = .ok (some rel) ∧ c.ownerRelationship = .ok none := by
  obtain ⟨column, isColumn⟩ := h.joins.referring
  have table := RecordClass.needTable_of_isMapped h.joins.mapped
  constructor
  · rw [ownerRelationship, attrOf_eq_ok_iff.mpr h.link, ok_bind, table, ok_bind,
      h.joins.once.relationship?_eq h.joins.among]
  · rw [ownerRelationship, attrOf_eq_ok_iff.mpr h.column, ok_bind, h.attributes, table, ok_bind,
      h.joins.once.relationship?_eq_none isColumn]

/-- Either way the column on which the relationship is built refers to the owner. -/
theorem ownerColumn_eq (h : EitherWay b c rel key) :
    b.ownerColumn = .ok rel.localAttr ∧ c.ownerColumn = .ok rel.localAttr := by
  obtain ⟨isLink, noLink⟩ := h.ownerRelationship_eq
  rw [ownerColumn, ownerColumn, isLink, noLink]
  exact ⟨rfl, attrOf_eq_ok_iff.mpr h.column⟩

/-- The relationship tells which column it refers to; without it the primary key is taken. -/
theorem identityColumn_eq (h : EitherWay b c rel key) :
    b.identityColumn = .ok rel.remote ∧ c.identityColumn = .ok key := by
  obtain ⟨isLink, noLink⟩ := h.ownerRelationship_eq
  have table := RecordClass.needTable_of_isMapped h.joins.targetMapped
  rw [identityColumn, identityColumn, isLink, noLink, h.identities, table]
  constructor
  · exact if_pos h.joins.leads
  · change Except.ok (b.identityClass.keyAttr?.getD "") = _
    rw [h.joins.keyAttr, Option.getD_some]

/-- Without the relationship, the first one that is built on the column links records. -/
theorem exists_linkingRelationship (h : EitherWay b c rel key) :
    b.linkingRelationship = .ok (some rel) ∧
      ∃ l ∈ b.attributeClass.relationships, l.SameReference rel ∧
        c.linkingRelationship = .ok (some l) := by
  obtain ⟨isLink, noLink⟩ := h.ownerRelationship_eq
  refine ⟨by rw [linkingRelationship, isLink]; rfl, ?_⟩
  have builtOn : (b.attributeClass.relationships.find? fun l =>
      l.target == b.identityClass.name && l.localAttr == rel.localAttr).isSome := by
    refine List.find?_isSome.mpr ⟨rel, h.joins.among, ?_⟩
    simp [h.joins.leads]
  obtain ⟨l, found⟩ := Option.isSome_iff_exists.mp builtOn
  have fits := List.find?_some found
  simp only [Bool.and_eq_true, beq_iff_eq] at fits
  have among := List.mem_of_find?_eq_some found
  have leads := fits.1.trans h.joins.leads.symm
  refine ⟨l, among, ⟨leads, fits.2, h.joins.single l among leads fits.2⟩, ?_⟩
  rw [linkingRelationship, noLink, ok_bind, relationshipOnColumn, attrOf_eq_ok_iff.mpr h.column,
    ok_bind, h.attributes, h.identities, found]

theorem linkAlike (h : EitherWay b c rel key) : LinkAlike b c rel := by
  obtain ⟨linking, l, among, same, linking'⟩ := h.exists_linkingRelationship
  refine ⟨l, among, same, fun s id owner r found ofClass => ?_, fun only => ?_⟩
  · have linked : ∀ l ∈ b.attributeClass.relationships, ∃ t,
        (StoreM.change fun s => s.set id l.attr (.record owner)).outcome s = (.ok (), t) ∧
          s.Linked t id owner l := by
      intro l among
      rw [← ofClass] at among
      have once : r.cls.ShowsOnce := by rw [ofClass]; exact h.joins.once
      have done := Store.set_link owner found (once.relationship?_eq among)
      exact ⟨_, StoreM.outcome_change_ok done, Store.linked_of_set found once among done⟩
    obtain ⟨t, done, leads⟩ := linked rel h.joins.among
    obtain ⟨u, done', leads'⟩ := linked l among
    rw [assignOwner_eq linking, assignOwner_eq linking']
    exact ⟨t, u, done, leads, done', leads'⟩
  · funext id owner
    rw [assignOwner_eq linking, assignOwner_eq linking', only l among same]

end EitherWay

end Bindings

end Principals
