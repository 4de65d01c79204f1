import Mathlib.Logic.Function.Basic
import Principals.Proofs.Schema.Creating
import Principals.Proofs.Store.Named

/-!
# The realms in which identity records are

An identity record is in the realm that it was last given. Until it is written it is linked to the
record of that realm; writing it sets its reference to the id that the realm shows. Nothing else that
is written to a record changes its realm, and the record of a realm keeps its id.

* `Placed`: an identity record in a realm, by a link or by its reference;
* `Places`: a store in which each identity record is in a given realm or in none;
* `Places.keeps_write`, `Places.link`: what writing a property preserves or changes;
* `Places.flush`: a flush leaves every record in its realm;
* `Places.reference_of_settled`: what the row of a record then refers to.
-/

namespace Principals

namespace Standard

variable {s t u u' : Store} {id target : RecordId} {r q : Record} {x : String}
  {home : Option String} {homes : RecordId → Option String} {f : Record → Record}

/-! ## Realm records -/

/-- Realms are named by their ids. -/
theorem namedBy_realmClass : realmClass.NamedBy "id" where
  primaryKey := rfl
  column := ⟨_, rfl, rfl⟩
  plain := rfl
  unlinked := fun _ => nofun

/-- A record with an id, in memory and in its row. -/
abbrev ShowsId (r : Record) (x : String) : Prop := r.ShowsText "id" x

/-- Whether a number is that of the record of a realm with some id. -/
abbrev HasRealm (s : Store) (target : RecordId) (x : String) : Prop :=
  s.HasNamed realmClass "id" target x

/-! ## Records in realms -/

/-- An identity record in the realm of an id, or in none: it refers to it, or it was linked to it
since it was last written. -/
inductive Placed (s : Store) (r : Record) (home : Option String) : Prop
  | written (synced : r.unwritten = []) (reference : r.value "partition_id" = .ofText? home)
  | linked {target : RecordId} {x : String} (waiting : r.unwritten = ["partition"])
      (link : r.links.find? "partition" = some (some target)) (isHome : home = some x)
      (realm : HasRealm s target x)

/-- What a place depends on: the reference, the link, and the realms that there are. -/
theorem Placed.congr (placed : Placed s r home) (waiting : q.unwritten = r.unwritten)
    (reference : q.value "partition_id" = r.value "partition_id") (links : q.links = r.links)
    (realms : ∀ target x, HasRealm s target x → HasRealm t target x) : Placed t q home := by
  cases placed with
  | written synced refers => exact .written (waiting.trans synced) (reference.trans refers)
  | linked isWaiting link isHome realm =>
    exact .linked (waiting.trans isWaiting) (by rw [links, link]) isHome (realms _ _ realm)

/-- A store over the standard schema in which every identity record is in the realm of an id, or in
none, and every realm has an id. -/
structure Places (homes : RecordId → Option String) (s : Store) : Prop where
  schema : s.catalog = catalog
  classes : ∀ r ∈ s.records, r.cls ∈ catalog.classes
  realms : ∀ target q, s.record? target = some q → q.cls = realmClass → ∃ x, ShowsId q x
  identities : ∀ id r, s.record? id = some r → r.cls = identityClass → Placed s r (homes id)
  /-- Where there is no record yet, there is no realm. -/
  unmade : ∀ id, s.record? id = none → homes id = none

/-- A store that has realms and nothing else. -/
theorem places_ofRealms (realms : List Realm) : Places (fun _ => none) (ofRealms realms) where
  schema := rfl
  classes := (settled_ofRealms realms).classes
  realms := by
    intro target q found _
    obtain ⟨p, -, rfl⟩ := List.mem_map.mp (Store.mem_of_record? found)
    refine ⟨p.id, rfl, fun row has => ?_⟩
    cases has
    rfl
  identities := by
    intro id r found isIdentity
    obtain ⟨p, -, rfl⟩ := List.mem_map.mp (Store.mem_of_record? found)
    have other : realmClass ≠ identityClass := by decide
    exact absurd isIdentity other
  unmade := fun _ _ => rfl

namespace Places

theorem cls_mem (places : Places homes s) (found : s.record? id = some r) :
    r.cls ∈ catalog.classes := places.classes r (Store.mem_of_record? found)

/-- A change of one record that leaves the ids of realms may put an identity record into another
realm. -/
theorem modify (places : Places homes s) (found : s.record? id = some r)
    (cls : (f r).cls = r.cls) (shows : r.cls = realmClass → ∀ x, ShowsId r x → ShowsId (f r) x)
    (placed : r.cls = identityClass → Placed s (f r) home) :
    Places (Function.update homes id home) (s.modify id f) := by
  have kept : ∀ target x, HasRealm s target x → HasRealm (s.modify id f) target x :=
    fun _ _ has => has.modify found cls shows
  refine ⟨places.schema, fun q among => ?_, fun target q there isRealm => ?_,
    fun j q there isIdentity => ?_, fun j absent => ?_⟩
  · obtain ⟨j, there⟩ := List.mem_iff_getElem?.mp among
    rcases Store.record?_of_modify found there with ⟨-, rfl⟩ | ⟨-, before⟩
    · rw [cls]
      exact places.cls_mem found
    · exact places.cls_mem before
  · rcases Store.record?_of_modify found there with ⟨-, rfl⟩ | ⟨-, before⟩
    · obtain ⟨x, shown⟩ := places.realms id r found (cls.symm.trans isRealm)
      exact ⟨x, shows (cls.symm.trans isRealm) x shown⟩
    · exact places.realms target q before isRealm
  · rcases Store.record?_of_modify found there with ⟨rfl, rfl⟩ | ⟨other, before⟩
    · rw [Function.update_self]
      exact (placed (cls.symm.trans isIdentity)).congr rfl rfl rfl kept
    · rw [Function.update_of_ne other]
      exact (places.identities j q before isIdentity).congr rfl rfl rfl kept
  · by_cases own : id = j
    · subst own
      rw [Store.record?_modify_self f found] at absent
      cases absent
    · rw [Store.record?_modify_of_ne f own] at absent
      rw [Function.update_of_ne (Ne.symm own), places.unmade j absent]

/-- A change of one record that leaves it where it is. -/
theorem modify_of_placed (places : Places homes s) (found : s.record? id = some r)
    (cls : (f r).cls = r.cls) (shows : r.cls = realmClass → ∀ x, ShowsId r x → ShowsId (f r) x)
    (placed : r.cls = identityClass → Placed s r (homes id) → Placed s (f r) (homes id)) :
    Places homes (s.modify id f) := by
  have changed := places.modify found cls shows fun isIdentity =>
    placed isIdentity (places.identities id r found isIdentity)
  rwa [Function.update_eq_self] at changed

/-- A new identity record is in no realm. -/
theorem add (places : Places homes s) : Places homes (s.add { cls := identityClass }).2 := by
  refine ⟨places.schema, fun q among => ?_, fun target q there isRealm => ?_,
    fun j q there isIdentity => ?_, fun j absent => ?_⟩
  · rcases List.mem_append.mp among with old | new
    · exact places.classes q old
    · rw [List.mem_singleton.mp new]
      decide
  · rcases Store.record?_of_add there with ⟨rfl, -⟩ | before
    · exact absurd isRealm (by decide)
    · exact places.realms target q before isRealm
  · rcases Store.record?_of_add there with ⟨rfl, absent⟩ | before
    · rw [places.unmade j absent]
      exact .written rfl rfl
    · exact (places.identities j q before isIdentity).congr rfl rfl rfl
        fun _ _ has => has.add _
  · refine places.unmade j ?_
    cases before : s.record? j with
    | none => rfl
    | some q =>
      rw [Store.record?_add_of_some _ before] at absent
      cases absent

/-! ## Properties -/

/-- The attributes to which properties of identities other than the realm are bound are plain in
every class, and none of them is a key or a reference to a realm. -/
theorem attr_of_bound : ∀ p ∈ Property.ofIdentities, p ≠ Property.realm →
    ∀ attr ∈ bindings.properties.find? p, attr ≠ "id" ∧ attr ≠ "partition_id" ∧
      ∀ cls ∈ catalog.classes, cls.isPlain attr = true := by
  decide

/-- Writing a property other than the realm leaves every record in its realm. -/
theorem keeps_write {p : Property} (ofIdentities : p ∈ Property.ofIdentities)
    (notRealm : p ≠ Property.realm) (id : RecordId) (v : Value) (isRequired : Bool) :
    StoreM.Keeps (Places homes) (bindings.write id p v isRequired) := by
  unfold Bindings.write
  split
  · split
    · exact .fail _
    · exact .pure _
  · next attr bound =>
    split
    · exact .fail _
    · obtain ⟨notId, notReference, plain⟩ := attr_of_bound p ofIdentities notRealm attr bound
      refine .change fun s s' places done => ?_
      cases found : s.record? id with
      | none =>
        simp only [Store.set, found] at done
        cases done
      | some r =>
        rw [Store.set_plain v found (plain r.cls (places.cls_mem found))] at done
        cases done
        refine places.modify_of_placed found rfl (fun _ x shown => ⟨?_, shown.stored⟩)
          fun _ placed => placed.congr rfl ?_ rfl fun _ _ has => has
        · rw [Record.value_setValue_of_ne r (Ne.symm notId), shown.value]
        · exact Record.value_setValue_of_ne r (Ne.symm notReference) v

/-- Linking a record to a realm puts it there. Records of other classes have no such link. -/
theorem link (places : Places homes s) (found : s.record? id = some r)
    (realm : HasRealm s target x) :
    ∃ t, s.set id "partition" (.record target) = .ok t ∧
      Places (Function.update homes id (some x)) t := by
  by_cases isIdentity : r.cls = identityClass
  · have isLink : r.cls.relationship? "partition" = some realmRelationship := by
      rw [isIdentity]
      rfl
    refine ⟨_, Store.set_link target found isLink, ?_⟩
    rw [Store.setLink_eq_modify s id (some target) rfl]
    refine places.modify found rfl (fun isRealm => ?_) fun _ => ?_
    · rw [isIdentity] at isRealm
      exact absurd isRealm (by decide)
    · refine .linked ?_ (OrderedMap.find?_insert_self ..) rfl realm
      cases places.identities id r found isIdentity with
      | written synced => simp [Store.linkTo, synced, realmRelationship]
      | linked waiting => simp [Store.linkTo, waiting, realmRelationship]
  · have plain : ∀ cls ∈ catalog.classes, cls ≠ identityClass → cls.isPlain "partition" = true := by
      decide
    refine ⟨_, Store.set_plain _ found (plain r.cls (places.cls_mem found) isIdentity), ?_⟩
    refine places.modify found rfl (fun _ x shown => ⟨?_, shown.stored⟩)
      fun same => absurd same isIdentity
    rw [Record.value_setValue_of_ne r (by decide), shown.value]

/-! ## Rows -/

/-- The number that a new identity record gets is no reference. -/
theorem value_number (cls : q.cls = identityClass) :
    (u.number q).value "partition_id" = q.value "partition_id" :=
  u.value_number_of_ne (by rw [cls]; decide)

/-- Preparing an identity record makes its reference the id of the realm that it is in. -/
theorem value_prepared_of_placed (cls : r.cls = identityClass) (placed : Placed u r home) :
    (u.prepared r).value "partition_id" = .ofText? home := by
  have reference : (u.syncLinks r).value "partition_id" = .ofText? home := by
    cases placed with
    | written synced refers => rw [Store.syncLinks_of_synced synced, refers]
    | linked waiting link isHome realm =>
      rw [syncLinks_of_linked u cls waiting link, realm.get namedBy_realmClass, isHome]
      exact Record.value_setValue_self r "partition_id" _
  obtain ⟨values, synced⟩ := Store.exists_syncLinks_eq u r
  have ofClass : (u.syncLinks r).cls = identityClass := by
    rw [synced]
    exact cls
  unfold Store.prepared
  split
  · exact reference
  · rw [value_number ofClass, reference]

/-- Writing a row leaves every record in its realm: it turns a link into a reference. -/
theorem writeRow (places : Places homes u) (done : u.writeRow id = .ok u') : Places homes u' := by
  cases found : u.record? id with
  | none =>
    simp only [Store.writeRow, found] at done
    cases done
    exact places
  | some r =>
    obtain ⟨row, stored, rfl⟩ := Store.writeRow_eq_ok found done
    obtain ⟨values, prepared⟩ := Store.exists_prepared_eq u r
    exact places.modify_of_placed found (by rw [prepared])
      (fun isRealm x shown => Store.showsText_of_storeRow namedBy_realmClass isRealm shown stored)
      fun isIdentity placed => .written (by rw [prepared]) (value_prepared_of_placed isIdentity placed)

/-- A flush leaves every record in its realm, and nothing to be written. -/
theorem flush (places : Places homes s) {new : List RecordId} (done : s.flush new = .ok t) :
    Places homes t ∧ t.Settled := by
  refine ⟨Store.flush_induction (fun _ _ _ places done => Places.writeRow places done) places done,
    Store.settled_of_flush ?_ done⟩
  rw [places.schema]
  exact places.classes

/-- The row of an identity record that has nothing left to write refers to its realm. -/
theorem reference_of_settled (places : Places homes t) (settled : t.Settled) {row : Row}
    (stored : t.stored? id = some (identityClass, row)) :
    ∃ cell, ColumnType.text.store (.ofText? (homes id)) = .ok cell ∧
      row.find? "partition_id" = some cell := by
  obtain ⟨r, found, isIdentity, has⟩ := Store.stored?_eq_some_iff.mp stored
  obtain ⟨columns, synced⟩ := settled r (Store.mem_of_record? found) row has
  rw [isIdentity] at columns
  obtain ⟨cell, stores, cellFound⟩ := Record.storeRow_spec columns columns_nodup
    (c := { attr := "partition_id", column := "partition_id", type := .text }) (by decide)
  refine ⟨cell, ?_, cellFound⟩
  cases places.identities id r found isIdentity with
  | written _ refers => rwa [refers] at stores
  | linked waiting =>
    rw [synced] at waiting
    cases waiting

/-- What the tables hold for a realm has the id of that realm. -/
theorem hasRealm_of_findRealm (places : Places homes s) {p : Realm}
    (found : RealmResolver.findRealm s p = some target) : HasRealm s target p.id := by
  obtain ⟨q, row, isRecord, isRealm, has, matching⟩ := stored_of_findRealm places.classes found
  obtain ⟨x, shown⟩ := places.realms target q isRecord isRealm
  have same : x = p.id := by
    rw [shown.stored row has, Option.getD_some, Cell.same_text_iff] at matching
    cases matching
    rfl
  exact ⟨q, isRecord, isRealm, same ▸ shown⟩

end Places

end Standard

end Principals
