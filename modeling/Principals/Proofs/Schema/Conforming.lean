import Principals.Proofs.Mapping.Frames
import Principals.Proofs.Schema.Places

/-!
# Stores over any identity class

The class whose records keep identities may be any, and so may be the class of the stored realms, as
long as it names them by a text. A store conforms if the catalog has the classes of all records and if
each realm shows its name, in memory as in its row. Keeping a principal in a new record and writing
rows leave such a store, with the same stored realms.

* `Store.Conforms`: such a store;
* `Conforms.of_shows`, `Conforms.writeAs`, `Conforms.flush`: what leaves it such;
* `Conforms.of_findIn`, `isSome_findIn`: the realms that are found.
-/

namespace Principals

variable {s t u u' : Store} {id j target : RecordId} {r q : Record} {p : Realm} {x key : String}
  {row : Row} {cls partitions : RecordClass} {m : Mapper} {d : Principal} {token text : String}
  {realm : Option Realm} {new : List RecordId}

/-- Among records that are named by a text, a realm is looked for by its id. -/
theorem RealmResolver.findIn_eq (named : partitions.NamedBy key) (s : Store) (p : Realm) :
    findIn partitions s p = s.findStored partitions.name key (.text p.id) := by
  obtain ⟨c, isColumn, type⟩ := named.column
  simp only [findIn, named.primaryKey, isColumn, Option.bind_some, type]
  rfl

namespace Store

/-- A store with the classes of its catalog in which every record of a class has a name. -/
structure Conforms (partitions : RecordClass) (key : String) (s : Store) : Prop where
  classes : ∀ r ∈ s.records, r.cls ∈ s.catalog.classes
  realms : ∀ id r, s.record? id = some r → r.cls.name = partitions.name →
    r.cls = partitions ∧ ∃ x, r.ShowsText key x

/-! ## The realms that are found -/

/-- What is found for a realm is its stored record. -/
theorem Conforms.of_findIn (named : partitions.NamedBy key) (conforms : s.Conforms partitions key)
    (isTarget : RealmResolver.findIn partitions s p = some target) :
    s.HasNamed partitions key target p.id ∧ s.HasRow target partitions := by
  rw [RealmResolver.findIn_eq named] at isTarget
  obtain ⟨cls, row, stored, ofName⟩ := mem_storedOf.mp (List.mem_of_find?_eq_some isTarget)
  obtain ⟨r, found, rfl, has⟩ := stored?_eq_some_iff.mp stored
  obtain ⟨isRealm, x, shown⟩ := conforms.realms target r found ofName
  have matching := List.find?_some isTarget
  rw [test, found, Option.any_some, Record.cell, has, Option.bind_some, shown.stored row has]
    at matching
  cases Option.some.inj (Cell.same_text_iff.mp matching)
  exact ⟨⟨r, found, isRealm, shown⟩, row, by rw [stored, isRealm]⟩

/-- A stored realm is found by its id. -/
theorem isSome_findIn (named : partitions.NamedBy key)
    (realm : s.HasNamed partitions key target p.id) (has : s.HasRow target partitions) :
    (RealmResolver.findIn partitions s p).isSome = true := by
  obtain ⟨row, stored⟩ := has
  obtain ⟨r, found, -, isRow⟩ := stored?_eq_some_iff.mp stored
  obtain ⟨r', found', -, shown⟩ := realm
  rw [found] at found'
  cases found'
  rw [RealmResolver.findIn_eq named, findStored, List.find?_isSome]
  refine ⟨target, mem_storedOf.mpr ⟨partitions, row, stored, rfl⟩, ?_⟩
  rw [test, found, Option.any_some, Record.cell, isRow, Option.bind_some, shown.stored row isRow]
  exact Cell.same_text_iff.mpr rfl

/-! ## What leaves a conforming store -/

/-- A store conforms as the one before it did, if its records keep their classes and the realms among
them their names. -/
theorem Conforms.of_shows (conforms : s.Conforms partitions key) (catalog : t.catalog = s.catalog)
    (before : ∀ j q, t.record? j = some q → ∃ r, s.record? j = some r ∧ q.cls = r.cls ∧
      (r.cls = partitions → ∀ x, r.ShowsText key x → q.ShowsText key x)) :
    t.Conforms partitions key := by
  refine ⟨fun q among => ?_, fun j q found ofName => ?_⟩
  · obtain ⟨j, found⟩ := List.mem_iff_getElem?.mp among
    obtain ⟨r, there, sameClass, -⟩ := before j q found
    rw [sameClass, catalog]
    exact conforms.classes r (mem_of_record? there)
  · obtain ⟨r, there, sameClass, shows⟩ := before j q found
    rw [sameClass] at ofName ⊢
    obtain ⟨isRealm, x, shown⟩ := conforms.realms j r there ofName
    exact ⟨isRealm, x, shows isRealm x shown⟩

/-! ## Writing rows -/

theorem Conforms.writeRow (named : partitions.NamedBy key) (conforms : u.Conforms partitions key)
    (written : u.writeRow id = .ok u') : u'.Conforms partitions key := by
  refine conforms.of_shows (catalog_of_writeRow written) fun j q found => ?_
  obtain ⟨r, there, sameClass⟩ := (HasClasses.refl u).writeRow written j q found
  refine ⟨r, there, sameClass, fun isRealm x shown => ?_⟩
  obtain ⟨q', found', -, shown'⟩ := HasNamed.writeRow named ⟨r, there, isRealm, shown⟩ written
  rw [found] at found'
  cases found'
  exact shown'

/-- A flush leaves a conforming store with nothing to write and the realms that were stored. -/
theorem Conforms.flush (named : partitions.NamedBy key) (conforms : s.Conforms partitions key)
    (done : s.flush new = .ok t) :
    t.Conforms partitions key ∧ t.Settled ∧
      ∀ p target, RealmResolver.findIn partitions s p = some target →
        (RealmResolver.findIn partitions t p).isSome = true := by
  refine ⟨flush_induction (fun _ _ _ conforms written => Conforms.writeRow named conforms written)
    conforms done, settled_of_flush conforms.classes done, fun p target isTarget => ?_⟩
  obtain ⟨realm, has⟩ := conforms.of_findIn named isTarget
  obtain ⟨realm', has'⟩ := flush_induction
    (P := fun u => u.HasNamed partitions key target p.id ∧ u.HasRow target partitions)
    (fun _ _ _ holds written => ⟨holds.1.writeRow named written, holds.2.writeRow written⟩)
    ⟨realm, has⟩ done
  exact isSome_findIn named realm' has'

/-! ## Keeping a principal -/

/-- A new record of an identity class is none of a realm. -/
theorem Conforms.add (conforms : s.Conforms partitions key) (known : cls ∈ s.catalog.classes)
    (other : cls.name ≠ partitions.name) : (s.add { cls }).2.Conforms partitions key := by
  refine ⟨fun q among => ?_, fun j q found ofName => ?_⟩
  · rcases List.mem_append.mp among with old | new
    · exact conforms.classes q old
    · rw [List.mem_singleton.mp new]
      exact known
  · rcases record?_of_add found with ⟨rfl, -⟩ | before
    · exact absurd ofName other
    · exact conforms.realms j q before ofName

/-- Writing a principal to a record that is none of a realm leaves a conforming store. -/
theorem Conforms.writeAs (conforms : s.Conforms partitions key)
    (resolver : m.resolver = some (.table partitions)) (found : s.record? id = some r)
    (other : r.cls.name ≠ partitions.name)
    (done : (m.writeAs realm id d token text).outcome s = (.ok (), t)) :
    t.Conforms partitions key := by
  have assigned : s.Assigned t :=
    (Mapper.assigned_writeAs resolver realm d token text).of_outcome done (.refl s)
  refine conforms.of_shows assigned.catalog fun j q there => ?_
  obtain ⟨p, before, cls, row, -⟩ := assigned.exists_record? there
  refine ⟨p, before, cls, fun isRealm x shown => ?_⟩
  have ne : id ≠ j := by
    rintro rfl
    rw [found] at before
    cases before
    exact other (congrArg RecordClass.name isRealm)
  obtain ⟨q', there', same⟩ := (Mapper.agreesAt_writeAs ne realm d token text).of_outcome done
    (.refl j key s) p before
  rw [there] at there'
  cases there'
  exact ⟨same.value.trans shown.value, fun row' has => shown.stored row' (row ▸ has)⟩

end Store

/-- A store of the standard schema in which every record is in a realm or in none conforms. -/
theorem Standard.Places.conforms {homes : RecordId → Option String} (places : Places homes s) :
    s.Conforms realmClass "id" where
  classes := by
    rw [places.schema]
    exact places.classes
  realms := by
    intro id r found named
    have isRealm := eq_of_name r.cls (places.cls_mem found) realmClass (by decide) named
    exact ⟨isRealm, places.realms id r found isRealm⟩

end Principals
