import Principals.Proofs.Store.Agreement

/-!
# From what an attribute is read

A plain attribute is read from its own value. A relationship is read from its link or, where there is
none in memory, from the reference that the tables have. A collection that is not in memory is read
from the relationships that lead to its record. The basis of an attribute lists the attributes of a
record from which it is read in one of these ways, in that record or in another that leads to it; so
an assignment to any attribute outside of the basis leaves the reading.

* `RecordClass.basis`, `ReadsAlike`: what a reading depends on, and when two stores have it in common;
* `get_of_readsAlike`: then the attribute reads alike;
* `ReadsAlike.set`, `ReadsAlike.modify_values`, `ReadsAlike.add`: assigning another attribute, and
  making a record;
* `collection_setLink`: linking a new record puts it at the end of the collection of its owner.
-/

namespace Principals

/-- The attributes of records of a class from which an attribute is read: the attribute itself and,
for a relationship or a collection, the relationships behind it with their references. -/
def RecordClass.basis (c : RecordClass) (attr : String) : List String :=
  attr :: (c.relationships.filter fun rel => rel.attr == attr || rel.backref == some attr).flatMap
    fun rel => [rel.attr, rel.localAttr]

theorem RecordClass.self_mem_basis (c : RecordClass) (attr : String) : attr ∈ c.basis attr :=
  List.mem_cons_self

/-- A relationship behind an attribute belongs to its basis, and so does the reference. -/
theorem RecordClass.mem_basis {c : RecordClass} {attr : String} {rel : Relationship}
    (among : rel ∈ c.relationships) (behind : rel.attr = attr ∨ rel.backref = some attr) :
    rel.attr ∈ c.basis attr ∧ rel.localAttr ∈ c.basis attr := by
  have filtered : rel ∈ c.relationships.filter fun rel =>
      rel.attr == attr || rel.backref == some attr :=
    List.mem_filter.mpr ⟨among, by simpa using behind⟩
  exact ⟨List.mem_cons_of_mem _ (List.mem_flatMap.mpr ⟨rel, filtered, by simp⟩),
    List.mem_cons_of_mem _ (List.mem_flatMap.mpr ⟨rel, filtered, by simp⟩)⟩

namespace Store

variable {s t u : Store} {id j : RecordId} {attr a : String} {r q : Record} {rel : Relationship}

/-! ## Where relationships lead -/

/-- A relationship leads where it led as long as the tables, the link and the reference stay. -/
theorem linked?_of_same (tables : s.SameTables t) (cls : q.cls = r.cls) (row : q.row = r.row)
    (link : q.links.find? rel.attr = r.links.find? rel.attr)
    (reference : q.value rel.localAttr = r.value rel.localAttr) :
    t.linked? q rel = s.linked? r rel := by
  simp only [linked?, Record.isStored, cls, link, row, reference, tables.findStored]
  rfl

/-- Without a link and without a row, a record leads nowhere. -/
theorem linked?_of_unlinked (unwritten : r.row = none) (unlinked : r.links = ∅) :
    s.linked? r rel = none := by
  rw [linked?, unlinked, Record.isStored, unwritten]
  rfl

theorem mem_related {cls : RecordClass} {name : String} :
    j ∈ s.related id cls name ↔ ∃ r, s.record? j = some r ∧ r.removed = false ∧
      ∃ rel ∈ r.cls.relationships, rel.target = cls.name ∧ rel.backref = some name ∧
        s.linked? r rel = some id := by
  unfold related test
  rw [List.mem_filter, Option.any_eq_true]
  constructor
  · rintro ⟨-, r, found, leads⟩
    simp only [Bool.and_eq_true, Bool.not_eq_true', List.any_eq_true, beq_iff_eq, and_assoc]
      at leads
    exact ⟨r, found, leads⟩
  · rintro ⟨r, found, leads⟩
    refine ⟨List.mem_range.mpr (lt_length_of_record? found), r, found, ?_⟩
    simpa only [Bool.and_eq_true, Bool.not_eq_true', List.any_eq_true, beq_iff_eq, and_assoc]
      using leads

/-- The records that lead to a record are met in the order of their numbers. -/
theorem related_sorted (s : Store) (id : RecordId) (cls : RecordClass) (name : String) :
    (s.related id cls name).Pairwise (· < ·) := List.pairwise_lt_range.filter _

/-! ## Collections -/

/-- A link leaves the collections of every record but those that gather what it links. -/
theorem gathered_setLink (id : RecordId) (target : Option RecordId) (other : rel.backref ≠ some attr)
    (found : s.record? j = some r) : ∃ q, (s.setLink id rel target).record? j = some q ∧
      q.gathered.find? attr = r.gathered.find? attr := by
  have regathered : ∀ (u : Store) (i : RecordId) (f : Record → Record),
      (∀ p, (f p).gathered.find? attr = p.gathered.find? attr) →
      (∃ q, u.record? j = some q ∧ q.gathered.find? attr = r.gathered.find? attr) →
      ∃ q, (u.modify i f).record? j = some q ∧
        q.gathered.find? attr = r.gathered.find? attr := by
    intro u i f keeps before
    obtain ⟨q, there, same⟩ := before
    by_cases own : i = j
    · subst own
      exact ⟨f q, record?_modify_self f there, (keeps q).trans same⟩
    · exact ⟨q, by rw [record?_modify_of_ne f own, there], same⟩
  refine setLink_induction (P := fun u => ∃ q, u.record? j = some q ∧
    q.gathered.find? attr = r.gathered.find? attr) ?_ fun u owner f gathers before => ?_
  · exact regathered s id _ (fun _ => rfl) ⟨r, found, rfl⟩
  · refine regathered u owner f (fun p => ?_) before
    obtain ⟨gathered, eq, same⟩ := gathers p
    rw [eq]
    exact same attr other

/-- An assignment to an attribute outside of the basis leaves the collection of every record. -/
theorem gathered_of_set {v : Value} {p : Record} (found : s.record? id = some r)
    (spared : a ∉ r.cls.basis attr) (done : s.set id a v = .ok t) (before : s.record? j = some p)
    (there : t.record? j = some q) : q.gathered.find? attr = p.gathered.find? attr := by
  have unlinked {f : Record → Record} (same : (f r).gathered.find? attr = r.gathered.find? attr)
      (there : (s.modify id f).record? j = some q) :
      q.gathered.find? attr = p.gathered.find? attr := by
    rcases record?_of_modify found there with ⟨rfl, rfl⟩ | ⟨-, still⟩
    · rw [found] at before
      cases before
      exact same
    · rw [before] at still
      cases still
      rfl
  obtain ⟨r', found', cases⟩ := set_cases done
  rw [found] at found'
  cases found'
  rcases cases with ⟨rel, target, isLink, rfl, -⟩ | ⟨ids, items, -, rfl⟩ | ⟨-, rfl⟩
  · have other : rel.backref ≠ some attr := fun behind => spared <| by
      rw [← attr_of_relationship? isLink]
      exact (RecordClass.mem_basis (List.mem_of_find?_eq_some isLink) (.inr behind)).1
    obtain ⟨q', there', same⟩ := gathered_setLink id target other before
    rw [there] at there'
    cases there'
    exact same
  · refine unlinked (OrderedMap.find?_insert_of_ne _ ?_ _) there
    rintro rfl
    exact spared (r.cls.self_mem_basis _)
  · exact unlinked rfl there

/-! ## Stores that read alike -/

/-- Two stores that have in common everything from which an attribute of a record is read: the basis
of the attribute in every record, and the collection of the record itself. -/
structure ReadsAlike (id : RecordId) (attr : String) (s t : Store) : Prop where
  tables : s.SameTables t
  kept : ∀ j r, s.record? j = some r → ∃ q, t.record? j = some q ∧
    (∀ a ∈ r.cls.basis attr, r.AgreeAt a q) ∧
      (j = id → q.gathered.find? attr = r.gathered.find? attr)
  /-- A record that was made in the meantime does not lead to the record. -/
  aside : ∀ j q, t.record? j = some q → s.record? j = none →
    ∀ rel ∈ q.cls.relationships, rel.backref = some attr → t.linked? q rel ≠ some id

namespace ReadsAlike

theorem refl (id : RecordId) (attr : String) (s : Store) : ReadsAlike id attr s s where
  tables := .refl s
  kept := fun _ r found => ⟨r, found, fun a _ => .refl a r, fun _ => rfl⟩
  aside := by
    intro j q found absent
    rw [found] at absent
    cases absent

/-- A record keeps its class and its row. -/
theorem exists_record? (alike : ReadsAlike id attr s t) (found : s.record? j = some r) :
    ∃ q, t.record? j = some q ∧ q.cls = r.cls ∧ q.row = r.row ∧ q.removed = r.removed := by
  obtain ⟨q, there, same, -⟩ := alike.kept j r found
  have own := same attr (r.cls.self_mem_basis attr)
  exact ⟨q, there, own.cls, own.row, own.removed⟩

/-- A relationship behind the attribute leads where it led, in every record. -/
theorem linked? (alike : ReadsAlike id attr s t) (found : s.record? j = some r)
    (there : t.record? j = some q) (among : rel ∈ r.cls.relationships)
    (behind : rel.attr = attr ∨ rel.backref = some attr) : t.linked? q rel = s.linked? r rel := by
  obtain ⟨q', there', same, -⟩ := alike.kept j r found
  rw [there] at there'
  cases there'
  obtain ⟨link, reference⟩ := RecordClass.mem_basis among behind
  have atLink := same rel.attr link
  exact linked?_of_same alike.tables atLink.cls atLink.row atLink.link
    (same rel.localAttr reference).value

theorem trans (first : ReadsAlike id attr s t) (second : ReadsAlike id attr t u) :
    ReadsAlike id attr s u where
  tables := first.tables.trans second.tables
  kept := by
    intro j r found
    obtain ⟨q, foundMiddle, same, gathered⟩ := first.kept j r found
    obtain ⟨p, foundLast, same', gathered'⟩ := second.kept j q foundMiddle
    have cls : q.cls = r.cls := (same attr (r.cls.self_mem_basis attr)).cls
    exact ⟨p, foundLast, fun a among => (same a among).trans (same' a (cls ▸ among)),
      fun own => (gathered' own).trans (gathered own)⟩
  aside := by
    intro j p found absent
    cases middle : t.record? j with
    | none => exact second.aside j p found middle
    | some q =>
      obtain ⟨p', found', cls, -⟩ := second.exists_record? middle
      rw [found] at found'
      cases found'
      intro rel among behind
      rw [cls] at among
      rw [second.linked? middle found among (.inr behind)]
      exact first.aside j q middle absent rel among behind

/-- Nothing is made where records keep their numbers. -/
theorem of_assigned (assigned : s.Assigned t)
    (kept : ∀ j r q, s.record? j = some r → t.record? j = some q →
      (∀ a ∈ r.cls.basis attr, r.AgreeAt a q) ∧
        (j = id → q.gathered.find? attr = r.gathered.find? attr)) : ReadsAlike id attr s t where
  tables := assigned.sameTables
  kept := by
    intro j r found
    obtain ⟨q, there, -⟩ := assigned.kept j r found
    exact ⟨q, there, kept j r q found there⟩
  aside := by
    intro j q there absent
    obtain ⟨p, before, -⟩ := assigned.exists_record? there
    rw [absent] at before
    cases before

/-- An assignment to an attribute outside of the basis leaves the reading, in whichever record. -/
theorem set {v : Value} (found : s.record? j = some r) (spared : a ∉ r.cls.basis attr)
    (done : s.set j a v = .ok t) : ReadsAlike id attr s t := by
  refine .of_assigned (.set done) fun i p q before there => ⟨fun b among => ?_, fun _ =>
    gathered_of_set found spared done before there⟩
  have elsewhere : j = i → a ≠ b := by
    rintro rfl rfl
    rw [found] at before
    cases before
    exact spared among
  obtain ⟨q', there', same⟩ := AgreesAt.set elsewhere done p before
  rw [there] at there'
  cases there'
  exact same

/-- Other values of a record leave the reading as long as those of the basis stay. -/
theorem modify_values {values : OrderedMap String Value} (found : s.record? j = some r)
    (same : ∀ a ∈ r.cls.basis attr, { r with values }.value a = r.value a) :
    ReadsAlike id attr s (s.modify j fun r => { r with values }) := by
  refine .of_assigned (.modify s j fun _ => ⟨rfl, rfl, rfl⟩) fun i p q before there => ?_
  rcases record?_of_modify found there with ⟨rfl, rfl⟩ | ⟨-, there⟩
  · rw [found] at before
    cases before
    exact ⟨fun a among => ⟨rfl, rfl, rfl, same a among, rfl, .rfl⟩, fun _ => rfl⟩
  · rw [before] at there
    cases there
    exact ⟨fun a _ => .refl a p, fun _ => rfl⟩

/-- A record without links and without a row leaves every reading. -/
theorem add (id : RecordId) (attr : String) (s : Store) (unwritten : r.row = none)
    (unlinked : r.links = ∅) : ReadsAlike id attr s (s.add r).2 where
  tables := sameTables_add s unwritten
  kept := fun _ q found => ⟨q, record?_add_of_some r found, fun a _ => .refl a q, fun _ => rfl⟩
  aside := by
    intro j q there absent rel _ _
    rcases record?_of_add there with ⟨rfl, -⟩ | before
    · rw [linked?_of_unlinked unwritten unlinked]
      exact nofun
    · rw [absent] at before
      cases before

/-- The same records lead to the record. -/
theorem related (alike : ReadsAlike id attr s t) (cls : RecordClass) :
    t.related id cls attr = s.related id cls attr := by
  refine (related_sorted t id cls attr).eq_of_mem_iff (related_sorted s id cls attr) fun j => ?_
  rw [mem_related, mem_related]
  constructor
  · rintro ⟨q, there, stays, rel, among, target, behind, isLinked⟩
    cases found : s.record? j with
    | none => exact absurd isLinked (alike.aside j q there found rel among behind)
    | some r =>
      obtain ⟨q', there', cls, -, removed⟩ := alike.exists_record? found
      rw [there] at there'
      cases there'
      rw [cls] at among
      rw [alike.linked? found there among (.inr behind)] at isLinked
      exact ⟨r, rfl, removed ▸ stays, rel, among, target, behind, isLinked⟩
  · rintro ⟨r, found, stays, rel, among, target, behind, isLinked⟩
    obtain ⟨q, there, cls, -, removed⟩ := alike.exists_record? found
    rw [← alike.linked? found there among (.inr behind)] at isLinked
    exact ⟨q, there, removed.trans stays, rel, cls ▸ among, target, behind, isLinked⟩

/-- The collection of the record reads alike. -/
theorem collection (alike : ReadsAlike id attr s t) (found : s.record? id = some r) :
    t.collection id attr = s.collection id attr := by
  obtain ⟨q, there, same, gathered⟩ := alike.kept id r found
  have own := same attr (r.cls.self_mem_basis attr)
  have inMemory : q.gathered? attr = r.gathered? attr := by
    simp only [Record.gathered?, Record.isTransient, gathered rfl, own.row, own.removed]
    rfl
  simp only [Store.collection, there, found, inMemory, own.cls, alike.related]

end ReadsAlike

/-- What an attribute is read from determines what is read. -/
theorem get_of_readsAlike (alike : ReadsAlike id attr s t) (found : s.record? id = some r) :
    t.get id attr = s.get id attr := by
  obtain ⟨q, there, same, -⟩ := alike.kept id r found
  have own := same attr (r.cls.self_mem_basis attr)
  have valueOf : t.valueOf q attr = s.valueOf r attr := by
    unfold Store.valueOf
    rw [own.cls]
    cases isLink : r.cls.relationship? attr with
    | none => exact own.value
    | some rel =>
      have linked := alike.linked? found there (List.mem_of_find?_eq_some isLink)
        (.inl (attr_of_relationship? isLink))
      simp only [linked]
  simp only [get, there, found, own.cls, alike.collection found, valueOf]

/-! ## A new record in a collection -/

/-- A record that leads nowhere yet is gathered by the record to which it is linked. -/
theorem setLink_unlinked {owner : RecordId} (found : s.record? id = some r)
    (leadsNowhere : s.linked? r rel = none) (behind : rel.backref = some attr) :
    s.setLink id rel (some owner) =
      (s.modify id (linkTo rel (some owner))).gather owner attr id := by
  simp only [setLink, found, Option.bind_some, leadsNowhere, behind, reduceCtorEq, if_false]
  rfl

/-- The last record, once it is linked, is the last of those that lead to its owner. -/
theorem related_linkTo {owner : RecordId} {cls : RecordClass} (found : s.record? id = some r)
    (last : id + 1 = s.records.length) (stays : r.removed = false) (unwritten : r.row = none)
    (unlinked : r.links = ∅) (among : rel ∈ r.cls.relationships) (target : rel.target = cls.name)
    (behind : rel.backref = some attr) :
    (s.modify id (linkTo rel (some owner))).related owner cls attr =
      s.related owner cls attr ++ [id] := by
  have notYet : id ∉ s.related owner cls attr := by
    intro leads
    obtain ⟨r', found', -, rel', -, -, -, linked⟩ := mem_related.mp leads
    rw [found] at found'
    cases found'
    rw [linked?_of_unlinked unwritten unlinked] at linked
    cases linked
  have below : ∀ j ∈ s.related owner cls attr, j < id := by
    intro j leads
    obtain ⟨q, found', -⟩ := mem_related.mp leads
    have lt : j < id + 1 := last ▸ lt_length_of_record? found'
    exact Nat.lt_of_le_of_ne (Nat.le_of_lt_succ lt) fun same => notYet (same ▸ leads)
  have sorted : (s.related owner cls attr ++ [id]).Pairwise (· < ·) :=
    List.pairwise_append.mpr ⟨related_sorted .., List.pairwise_singleton _ _,
      fun j leads i isLast => List.mem_singleton.mp isLast ▸ below j leads⟩
  have tables : s.SameTables (s.modify id (linkTo rel (some owner))) :=
    sameTables_modify s id (fun _ => rfl) fun _ => rfl
  refine (related_sorted ..).eq_of_mem_iff sorted fun j => ?_
  rw [List.mem_append, List.mem_singleton]
  by_cases own : j = id
  · subst own
    refine ⟨fun _ => .inr rfl, fun _ => mem_related.mpr ?_⟩
    refine ⟨_, record?_modify_self _ found, stays, rel, among, target, behind, ?_⟩
    have link : (linkTo rel (some owner) r).links.find? rel.attr = some (some owner) :=
      OrderedMap.find?_insert_self _ _ _
    rw [linked?, link]
  · have same : ∀ q rel', (s.modify id (linkTo rel (some owner))).linked? q rel' =
        s.linked? q rel' := fun q rel' => linked?_of_same tables rfl rfl rfl rfl
    rw [or_iff_left own, mem_related, mem_related, record?_modify_of_ne _ (Ne.symm own)]
    simp only [same]

/-- Linking the last record to an owner puts it at the end of the owner's collection, whether that is
in memory or not. -/
theorem collection_setLink {owner : RecordId} {q : Record} (foundOwner : s.record? owner = some q)
    (found : s.record? id = some r) (last : id + 1 = s.records.length) (ne : id ≠ owner)
    (stays : r.removed = false) (unwritten : r.row = none) (unlinked : r.links = ∅)
    (among : rel ∈ r.cls.relationships) (target : rel.target = q.cls.name)
    (behind : rel.backref = some attr) :
    (s.setLink id rel (some owner)).collection owner attr = s.collection owner attr ++ [id] := by
  have foundLinked : (s.modify id (linkTo rel (some owner))).record? owner = some q := by
    rw [record?_modify_of_ne _ ne, foundOwner]
  rw [setLink_unlinked found (linked?_of_unlinked unwritten unlinked) behind, gather]
  cases inMemory : q.gathered? attr with
  | some ids =>
    have gathered : ∀ c : Record, c.gathered = q.gathered.insert attr (ids ++ [id]) →
        c.gathered? attr = some (ids ++ [id]) := by
      intro c same
      rw [Record.gathered?, same, OrderedMap.find?_insert_self]
    simp only [collection, record?_modify_self _ foundLinked, foundOwner, inMemory,
      gathered { q with gathered := q.gathered.insert attr (ids ++ [id]) } rfl, Option.getD_some]
  | none =>
    rw [modify_eq_self foundLinked (by simp only [inMemory])]
    simp only [collection, foundLinked, foundOwner, inMemory, Option.getD_none]
    exact related_linkTo found last stays unwritten unlinked among target behind

end Store

end Principals
