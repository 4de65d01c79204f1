import Principals.Bindings.Basic
import Principals.Proofs.OrderedMap
import Principals.Proofs.Store.Assignment

/-!
# Properties put into a record

What a run of writes makes of a record is an overlay: each bound property ends up in its attribute,
and an unbound one leaves no trace. As long as no two properties share an attribute, each reads back
as what was put last, whatever else was put.

* `Separate`: bindings whose identity properties do not get in each other's way;
* `value_putAll_eq`, `value_putAll`: what an attribute holds after several properties were put;
* `Puts.seq`: actions that only put properties compose to one overlay;
* `Holds.read`: a property that a record holds reads back as it was put.
-/

namespace Principals

/-- The properties of identity records. -/
def Property.ofIdentities : List Property :=
  [discriminator, key, enabled, created, expires, realm, name, firstName, lastName, email,
    groupPath]

namespace Bindings

variable {b : Bindings} {s : Store} {id : RecordId} {r : Record} {p : Property} {attr : String}
  {v : Value} {es es' : List (Property × Value)}

/-! ## Bindings that keep properties apart -/

/-- No two identity properties are bound to one attribute, and all are bound to plain attributes but
the realm, which a relationship may hold. -/
structure Separate (b : Bindings) : Prop where
  injective : ∀ p ∈ Property.ofIdentities, ∀ q ∈ Property.ofIdentities, ∀ attr,
    b.properties.find? p = some attr → b.properties.find? q = some attr → p = q
  plain : ∀ p ∈ Property.ofIdentities, p ≠ Property.realm → ∀ attr,
    b.properties.find? p = some attr → b.identityClass.isPlain attr = true
  realm : ∀ attr, b.properties.find? Property.realm = some attr →
    (b.identityClass.relationship? attr).isSome ∨ b.identityClass.isPlain attr = true

/-- All identity properties but the realm are bound to plain attributes, some perhaps to one. -/
def Plain (b : Bindings) : Prop :=
  ∀ p ∈ Property.ofIdentities, p ≠ Property.realm → ∀ attr,
    b.properties.find? p = some attr → b.identityClass.isPlain attr = true

theorem Plain.of_all (plain : ∀ p ∈ Property.ofIdentities, p ≠ Property.realm →
    (b.properties.find? p).all b.identityClass.isPlain = true) : b.Plain := by
  intro p among notRealm attr bound
  have isPlain := plain p among notRealm
  rwa [bound] at isPlain

/-- Two properties that are not bound to one attribute. -/
def Apart (b : Bindings) (p q : Property) : Prop :=
  ∀ attr, b.properties.find? p = some attr → b.properties.find? q ≠ some attr

theorem Separate.pairwise (separate : b.Separate) {ps : List Property} (nodup : ps.Nodup)
    (identity : ∀ p ∈ ps, p ∈ Property.ofIdentities) : ps.Pairwise b.Apart := by
  refine List.Pairwise.imp_of_mem ?_ nodup
  intro p q p_mem q_mem ne attr p_bound q_bound
  exact ne (separate.injective p (identity p p_mem) q (identity q q_mem) attr p_bound q_bound)

section
variable {identity attributes : Option RecordClass} {properties : OrderedMap String String}

/-- Accepted bindings have no fault. -/
theorem fault?_of_create (accepted : create identity attributes properties = .ok b) :
    b.fault? = none := by
  cases identity <;> cases attributes <;> try cases accepted
  dsimp only [create] at accepted
  split at accepted
  · cases accepted
  · next none_found =>
    cases accepted
    exact none_found

/-- Bindings without a fault are accepted. -/
theorem create_of_fault?_eq_none (no_fault : b.fault? = none) :
    create (some b.identityClass) (some b.attributeClass) b.properties = .ok b := by
  rw [create, no_fault]

/-- Labels that bind everything without a fault give bindings. -/
theorem ofLabels_of_labels
    (given : labels (some b.identityClass) (some b.attributeClass) = .ok b.properties)
    (no_fault : b.fault? = none) :
    ofLabels (some b.identityClass) (some b.attributeClass) = .ok b := by
  rw [ofLabels, given]
  exact create_of_fault?_eq_none no_fault

/-- The bindings with a property bound to another attribute. -/
def rebind (b : Bindings) (property attr : String) : Bindings :=
  { b with properties := b.properties.insertLast property attr }

/-- Labels with a property bound anew give rebound bindings. -/
theorem ofLabelsWith_of_labels {property : String}
    (given : labels (some b.identityClass) (some b.attributeClass) = .ok b.properties)
    (no_fault : (b.rebind property attr).fault? = none) :
    ofLabelsWith (some b.identityClass) (some b.attributeClass) [(property, some attr)] =
      .ok (b.rebind property attr) := by
  rw [ofLabelsWith, given]
  exact create_of_fault?_eq_none no_fault

/-- Accepted bindings bind every required property. -/
theorem find?_of_create (accepted : create identity attributes properties = .ok b)
    (required : p ∈ Property.required) : ∃ attr, b.properties.find? p = some attr := by
  have fault := fault?_of_create accepted
  cases unbound : Property.required.find? (! b.properties.contains ·) with
  | some q =>
    rw [fault?, unbound] at fault
    cases fault
  | none =>
    have bound := List.find?_eq_none.mp unbound p required
    simp only [OrderedMap.contains, Bool.not_eq_true', Bool.not_eq_false, Option.isSome_iff_exists]
      at bound
    exact bound

theorem ownerOf_identities (ofIdentities : p ∈ Property.ofIdentities) :
    b.ownerOf p = b.identityClass := by
  have notOfAttributes : ∀ p ∈ Property.ofIdentities, Property.isOfAttributes p = false := by
    decide +kernel
  rw [ownerOf, notOfAttributes p ofIdentities]
  rfl

/-- Accepted bindings bind properties to attributes that exist. -/
theorem hasAttr_of_create (accepted : create identity attributes properties = .ok b)
    (bound : b.properties.find? p = some attr) : (b.ownerOf p).hasAttr attr = true := by
  have fault := fault?_of_create accepted
  rw [fault?] at fault
  split at fault
  · cases fault
  · have known := List.find?_eq_none.mp (Option.map_eq_none_iff.mp fault) (p, attr)
      (OrderedMap.mem_of_find? bound)
    simpa using known

end

/-- What a write or a read of a property requires: where it is required, it is bound and there is
a value. -/
def Meets (b : Bindings) (p : Property) (v : Value) (isRequired : Bool) : Prop :=
  isRequired = true → (∃ attr, b.properties.find? p = some attr) ∧ v.isNull = false

theorem meets_optional (b : Bindings) (p : Property) (v : Value) : b.Meets p v false := nofun

theorem Meets.optional_of_unbound {isRequired : Bool} (meets : b.Meets p v isRequired)
    (unbound : b.properties.find? p = none) : isRequired = false := by
  cases isRequired with
  | false => rfl
  | true =>
    obtain ⟨⟨attr, bound⟩, -⟩ := meets rfl
    rw [unbound] at bound
    cases bound

theorem Meets.given {isRequired : Bool} (meets : b.Meets p v isRequired) :
    (isRequired && v.isNull) = false := by
  cases isRequired with
  | false => rfl
  | true => exact (meets rfl).2

/-! ## Overlays -/

/-- The record with a value for a property, if that is bound. -/
def put (b : Bindings) (r : Record) (e : Property × Value) : Record :=
  match b.properties.find? e.1 with
  | some attr => r.setValue attr e.2
  | none => r

/-- The record with values for several properties, put one after the other. -/
def putAll (b : Bindings) (es : List (Property × Value)) (r : Record) : Record := es.foldl b.put r

theorem putAll_append (es es' : List (Property × Value)) :
    b.putAll (es ++ es') = b.putAll es' ∘ b.putAll es := by
  funext r
  exact List.foldl_append

theorem put_cls (b : Bindings) (r : Record) (e : Property × Value) : (b.put r e).cls = r.cls := by
  unfold put
  split <;> rfl

theorem putAll_cls (b : Bindings) (es : List (Property × Value)) (r : Record) :
    (b.putAll es r).cls = r.cls := by
  induction es generalizing r with
  | nil => rfl
  | cons e rest ih => exact (ih (b.put r e)).trans (put_cls b r e)

theorem put_row (b : Bindings) (r : Record) (e : Property × Value) : (b.put r e).row = r.row := by
  unfold put
  split <;> rfl

theorem putAll_row (b : Bindings) (es : List (Property × Value)) (r : Record) :
    (b.putAll es r).row = r.row := by
  induction es generalizing r with
  | nil => rfl
  | cons e rest ih => exact (ih (b.put r e)).trans (put_row b r e)

theorem value_put_self (bound : b.properties.find? p = some attr) :
    (b.put r (p, v)).value attr = v := by
  simp only [put, bound, Record.value_setValue_self]

theorem value_put_of_ne {e : Property × Value} (ne : b.properties.find? e.1 ≠ some attr) :
    (b.put r e).value attr = r.value attr := by
  unfold put
  split
  · next other bound =>
    have apart : attr ≠ other := by
      rintro rfl
      exact ne bound
    exact Record.value_setValue_of_ne r apart e.2
  · rfl

/-- An attribute to which none of the properties is bound stays as it is. -/
theorem value_putAll_of_forall_ne (ne : ∀ e ∈ es, b.properties.find? e.1 ≠ some attr) :
    (b.putAll es r).value attr = r.value attr := by
  induction es generalizing r with
  | nil => rfl
  | cons e rest ih =>
    have kept : (b.putAll rest (b.put r e)).value attr = (b.put r e).value attr :=
      ih fun e' later => ne e' (List.mem_cons_of_mem _ later)
    exact kept.trans (value_put_of_ne (ne e List.mem_cons_self))

/-- The attribute of a property holds what was put for it, as long as the properties are apart. -/
theorem value_putAll (apart : (es.map Prod.fst).Pairwise b.Apart) (among : (p, v) ∈ es)
    (bound : b.properties.find? p = some attr) : (b.putAll es r).value attr = v := by
  induction es generalizing r with
  | nil => cases among
  | cons e rest ih =>
    obtain ⟨first, later⟩ := List.pairwise_cons.mp apart
    rcases List.mem_cons.mp among with rfl | inRest
    · have kept : (b.putAll rest (b.put r (p, v))).value attr = (b.put r (p, v)).value attr :=
        value_putAll_of_forall_ne fun e' inRest =>
          first e'.1 (List.mem_map_of_mem inRest) attr bound
      exact kept.trans (value_put_self bound)
    · exact ih later inRest

/-- An attribute holds what was put for one of the properties, or it stays as it is. -/
theorem value_putAll_cases (b : Bindings) (es : List (Property × Value)) (r : Record)
    (attr : String) : (b.putAll es r).value attr = r.value attr ∨
      ∃ e ∈ es, b.properties.find? e.1 = some attr ∧ (b.putAll es r).value attr = e.2 := by
  induction es generalizing r with
  | nil => exact .inl rfl
  | cons e rest ih =>
    rcases ih (b.put r e) with kept | ⟨e', later, bound, value⟩
    · by_cases bound : b.properties.find? e.1 = some attr
      · have first : (b.put r e).value attr = e.2 := value_put_self bound
        exact .inr ⟨e, List.mem_cons_self, bound, kept.trans first⟩
      · exact .inl (kept.trans (value_put_of_ne bound))
    · exact .inr ⟨e', List.mem_cons_of_mem _ later, bound, value⟩

/-- What putting properties assigns to which attributes. -/
def assigned (b : Bindings) (es : List (Property × Value)) : List (String × Value) :=
  es.filterMap fun e => (b.properties.find? e.1).map fun attr => (attr, e.2)

theorem putAll_eq (b : Bindings) (es : List (Property × Value)) (r : Record) :
    b.putAll es r = { r with values := r.values.insertAll (b.assigned es) } := by
  induction es generalizing r with
  | nil => rfl
  | cons e rest ih =>
    have first : b.putAll (e :: rest) r = b.putAll rest (b.put r e) := rfl
    rw [first, ih]
    cases bound : b.properties.find? e.1 with
    | none => simp only [put, assigned, List.filterMap_cons, bound, Option.map_none]
    | some attr =>
      simp only [put, assigned, List.filterMap_cons, bound, Option.map_some]
      rfl

/-- Putting properties changes nothing but values. -/
theorem exists_putAll_eq (b : Bindings) (es : List (Property × Value)) (r : Record) :
    ∃ values, b.putAll es r = { r with values } := ⟨_, putAll_eq b es r⟩

/-- An attribute holds what was put last for a property that is bound to it. -/
theorem value_putAll_eq (b : Bindings) (es : List (Property × Value)) (r : Record)
    (attr : String) : (b.putAll es r).value attr =
      (((b.assigned es).filter fun a => a.1 = attr).getLast?.map Prod.snd).getD (r.value attr) := by
  rw [putAll_eq, Record.value, OrderedMap.find?_insertAll]
  cases ((b.assigned es).filter fun a => a.1 = attr).getLast? <;> rfl

/-- The same properties are bound to the same attributes. -/
theorem map_fst_assigned (same : es.map Prod.fst = es'.map Prod.fst) :
    (b.assigned es).map Prod.fst = (b.assigned es').map Prod.fst := by
  have attrs (es : List (Property × Value)) : (b.assigned es).map Prod.fst =
      (es.map Prod.fst).filterMap b.properties.find? := by
    rw [assigned, List.map_filterMap, List.filterMap_map]
    congr 1
    funext e
    cases found : b.properties.find? e.1 <;> simp [found]
  rw [attrs, attrs, same]

/-- Properties are not seen any more once they are put again. -/
theorem putAll_putAll (same : es.map Prod.fst = es'.map Prod.fst) (r : Record) :
    b.putAll es' (b.putAll es r) = b.putAll es' r := by
  simp only [putAll_eq, OrderedMap.insertAll_insertAll (map_fst_assigned same)]

/-! ## Actions that put properties -/

/-- An action that puts properties into a record of a class and does nothing else. -/
def Puts (b : Bindings) (cls : RecordClass) (id : RecordId) (es : List (Property × Value))
    (m : StoreM Unit) : Prop :=
  ∀ s r, s.record? id = some r → r.cls = cls → m.outcome s = (.ok (), s.modify id (b.putAll es))

variable {cls : RecordClass} {m m' : StoreM Unit}

theorem Puts.pure (b : Bindings) (cls : RecordClass) (id : RecordId) :
    b.Puts cls id [] (Pure.pure ()) := by
  intro s r found _
  have idle : s.modify id (b.putAll []) = s := Store.modify_eq_self found rfl
  rw [idle]
  rfl

theorem Puts.seq (first : b.Puts cls id es m) (second : b.Puts cls id es' m') :
    b.Puts cls id (es ++ es') (m >>= fun _ => m') := by
  intro s r found ofClass
  have foundNext : (s.modify id (b.putAll es)).record? id = some (b.putAll es r) :=
    Store.record?_modify_self _ found
  have ofClassNext : (b.putAll es r).cls = cls := (putAll_cls b es r).trans ofClass
  rw [StoreM.outcome_bind_ok (first s r found ofClass), second _ _ foundNext ofClassNext,
    Store.modify_modify, putAll_append]

/-- A write that meets what is required puts its property, if that is held in a plain attribute. -/
theorem puts_write (id : RecordId) {isRequired : Bool} (meets : b.Meets p v isRequired)
    (plain : ∀ attr, b.properties.find? p = some attr → cls.isPlain attr = true) :
    b.Puts cls id [(p, v)] (b.write id p v isRequired) := by
  intro s r found ofClass
  cases bound : b.properties.find? p with
  | none =>
    have idle : s.modify id (b.putAll [(p, v)]) = s :=
      Store.modify_eq_self found (by simp [putAll, put, bound])
    rw [meets.optional_of_unbound bound, write_unbound id v bound, idle]
    rfl
  | some attr =>
    have change : s.set id attr v = .ok (s.modify id fun q => q.setValue attr v) :=
      Store.set_plain v found (ofClass ▸ plain attr bound)
    have overlay : b.putAll [(p, v)] = fun q => q.setValue attr v := by
      funext q
      simp only [putAll, List.foldl_cons, List.foldl_nil, put, bound]
    rw [write_bound id bound meets.given, overlay]
    exact StoreM.outcome_change_ok change

/-! ## Reading -/

/-- An identity record that has a value for each of some properties, as far as they are bound. -/
def Holds (b : Bindings) (s : Store) (id : RecordId) (es : List (Property × Value)) : Prop :=
  ∃ r, s.record? id = some r ∧ r.cls = b.identityClass ∧
    ∀ e ∈ es, ∀ attr, b.properties.find? e.1 = some attr → r.value attr = e.2

/-- What a value put for a property reads back as: itself, or nothing if the property is unbound. -/
def readBack (b : Bindings) (p : Property) (v : Value) : Value := if b.isBound p then v else .null

theorem readBack_of_bound (bound : b.properties.find? p = some attr) (v : Value) :
    b.readBack p v = v := by
  simp [readBack, isBound, OrderedMap.contains, bound]

/-- A property that a record holds reads as its value. -/
theorem Holds.read {isRequired : Bool} (holds : b.Holds s id es) (among : (p, v) ∈ es)
    (plain : ∀ attr, b.properties.find? p = some attr → b.identityClass.isPlain attr = true)
    (meets : b.Meets p v isRequired) : b.read s id p isRequired = .ok (b.readBack p v) := by
  obtain ⟨r, found, ofClass, values⟩ := holds
  cases bound : b.properties.find? p with
  | none =>
    simp [Bindings.read, bound, meets.optional_of_unbound bound, readBack, isBound,
      OrderedMap.contains]
  | some attr =>
    have value : s.get id attr = v := by
      rw [Store.get_of_plain found (ofClass ▸ plain attr bound), values (p, v) among attr bound]
    rw [readBack_of_bound bound, Bindings.read, bound]
    simp [value, meets.given]

end Bindings

end Principals
