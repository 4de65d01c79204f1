import Principals.Proofs.Mapping.Registry
import Principals.Proofs.Mapping.Writing
import Principals.Proofs.Store.Agreement

/-!
# What making a record leaves where

A record is made by writing one property after the other, whatever the bindings are. Each write
leaves every attribute but its own, so a property that shares its attribute with no other
(`Bindings.Alone`) stays in the record as it was written; and nothing is written to any other record.
No property needs to be bound apart from the others for this, and none of the writes needs to
succeed.

* `Bindings.agreesAt_write`: a write leaves the attributes of other properties;
* `Mapper.create_eq`: the writes by which a record is made;
* `Mapper.keeps_writeAs`: what outlives all of them;
* `Mapper.text_of_writeAs`, `Mapper.link_of_writeAs`: the discriminator, the key and the realm are
  left as they are written.
-/

namespace Principals

/-- A property that shares its attribute with no other identity property. -/
def Bindings.Alone (b : Bindings) (p : Property) : Prop :=
  ∀ q ∈ Property.ofIdentities, q ≠ p → b.Apart p q

/-- Properties none of which is bound to an attribute. -/
def Bindings.Spares (b : Bindings) (ps : List Property) (attr : String) : Prop :=
  ∀ q ∈ ps, b.properties.find? q ≠ some attr

variable {b : Bindings} {p : Property} {ps : List Property} {attr : String} {id j : RecordId}
  {s s₀ t : Store}

/-- Separate bindings leave every property alone. -/
theorem Bindings.Separate.alone (separate : b.Separate) (ofIdentities : p ∈ Property.ofIdentities) :
    b.Alone p := by
  intro q among ne attr bound shared
  exact ne (separate.injective q among p ofIdentities attr shared bound)

/-- The attribute of a property that is alone is spared by all others. -/
theorem Bindings.Alone.spares (alone : b.Alone p) (bound : b.properties.find? p = some attr)
    (others : ∀ q ∈ ps, q ∈ Property.ofIdentities ∧ q ≠ p) : b.Spares ps attr :=
  fun q among => alone q (others q among).1 (others q among).2 attr bound

/-! ## What outlives writes -/

section
variable {P : Store → Prop}

/-- What outlives the assignment by which a property is written outlives the write. -/
theorem Bindings.keeps_write {v : Value} {isRequired : Bool}
    (assigns : ∀ a, b.properties.find? p = some a →
      ∀ u u', P u → u.set id a v = .ok u' → P u') :
    StoreM.Keeps P (b.write id p v isRequired) := by
  unfold Bindings.write
  split
  · split
    · exact .fail _
    · exact .pure ()
  · next a bound =>
    split
    · exact .fail _
    · exact .change (assigns a bound)

/-- What was written for a required property is not missing. -/
theorem Bindings.given_of_write {v : Value}
    (done : (b.write id p v true).outcome s = (.ok (), t)) : v.isNull = false := by
  unfold Bindings.write at done
  split at done
  · cases done
  · split at done
    · cases done
    · next given => simpa using given

theorem Variant.keeps_writeFields {fields : List (Property × Profile.Field)} (d : Principal)
    (writes : ∀ q ∈ fields.map Prod.fst, ∀ v isRequired,
      StoreM.Keeps P (b.write id q v isRequired)) :
    StoreM.Keeps P (writeFields b id d fields) := by
  induction fields with
  | nil => exact .pure ()
  | cons e rest ih =>
    obtain ⟨first, later⟩ := List.forall_mem_cons.mp writes
    exact .bind (.lift _) fun v => .bind (first v false) fun _ => ih later

end

/-- A write leaves an attribute to which its property is not bound, and any other record. -/
theorem Bindings.agreesAt_write {v : Value} {isRequired : Bool}
    (elsewhere : id = j → b.Spares [p] attr) :
    StoreM.Keeps (s₀.AgreesAt j attr) (b.write id p v isRequired) :=
  Bindings.keeps_write fun _ bound _ _ before done => before.trans (.set (fun own same =>
    elsewhere own p List.mem_cons_self (same ▸ bound)) done)

/-- What outlives that a look-up is noted and that a record is made for a realm outlives a look-up. -/
theorem RealmResolver.keeps_lookup {P : Store → Prop} {r : Realm} (resolver : RealmResolver)
    (notes : ∀ u lookups, P u → P { u with lookups })
    (makes : ∀ u : Store, P u → P (u.add (realmRecord r)).2) :
    StoreM.Keeps P (resolver.lookup r) := by
  have noted : StoreM.Keeps P (note r) := by
    refine .change fun u u' before done => ?_
    cases done
    exact notes u _ before
  have made : StoreM.Keeps P (StoreM.create (realmRecord r)) := makes
  cases resolver with
  | table partitions => exact .ask _
  | fresh => exact .bind noted fun _ => .bind made fun _ => .pure _
  | identifier => exact .bind noted fun _ => .pure _

/-- A look-up changes no record. -/
theorem RealmResolver.agreesAt_lookup (resolver : RealmResolver) (r : Realm) :
    StoreM.Keeps (s₀.AgreesAt j attr) (resolver.lookup r) :=
  resolver.keeps_lookup (fun _ _ before => before.trans fun q found => ⟨q, found, .refl attr q⟩)
    fun u before => before.trans (.add j attr u (realmRecord r))

namespace Mapper

variable {m : Mapper} {d : Principal} {realm : Option Realm} {token key : String}
  {partitions : RecordClass}

/-! ## The writes by which a record is made -/

/-- Writes the shared fields but the discriminator and the key. -/
def writeStanding (m : Mapper) (id : RecordId) (d : Principal) : StoreM Unit := do
  m.bindings.write id Property.enabled d.enabled true
  m.bindings.write id Property.created d.createdDate true
  m.bindings.write id Property.expires d.expirationDate false

/-- Writes a principal to a record under a discriminator and a key. -/
def writeAs (m : Mapper) (realm : Option Realm) (id : RecordId) (d : Principal)
    (token key : String) : StoreM Unit := do
  m.bindings.write id Property.discriminator (.text token) true
  m.bindings.write id Property.key (.text key) true
  m.writeStanding id d
  m.writeScope id realm
  m.variant.populate m.bindings id d

/-- Makes a record of a principal under a discriminator and a key. -/
def createAs (m : Mapper) (realm : Option Realm) (d : Principal) (token key : String) :
    StoreM RecordId := do
  let id ← m.bindings.newIdentity
  m.writeAs realm id d token key
  return id

/-- A record is made under the token of the principal's kind and under its key. -/
theorem create_eq (given : m.discriminators.tokenFor d.kind = .ok (.text token))
    (realm : Option Realm) : m.create realm d = m.createAs realm d token d.key := by
  have lifted : (StoreM.lift (m.discriminators.tokenFor d.kind) : StoreM Value) =
      pure (.text token) := by
    rw [given]
    rfl
  simp only [create, createAs, writeAs, populate_eq, lifted, pure_bind, writeShared, writeStanding,
    bind_assoc]

/-- The properties that are written after the key. -/
def laterProperties (m : Mapper) : List Property :=
  [Property.enabled, .created, .expires] ++ [Property.realm] ++ m.variant.form.written.map Prod.fst

/-- What is written after the key are identity properties other than the discriminator and the
key. -/
theorem laterProperties_spec (m : Mapper) : ∀ q ∈ m.laterProperties, q ∈ Property.ofIdentities ∧
    q ∉ [Property.discriminator, .key] := by
  unfold laterProperties
  cases m.variant.form <;> decide

section
variable {P : Store → Prop}

theorem keeps_writeStanding (d : Principal)
    (writes : ∀ q ∈ [Property.enabled, .created, .expires], ∀ v isRequired,
      StoreM.Keeps P (m.bindings.write id q v isRequired)) :
    StoreM.Keeps P (m.writeStanding id d) :=
  .bind (writes _ (by decide) _ true) fun _ => .bind (writes _ (by decide) _ true) fun _ =>
    writes _ (by decide) _ false

theorem keeps_writeScope (realm : Option Realm)
    (looks : ∀ resolver ∈ m.resolver, ∀ r, StoreM.Keeps P (resolver.lookup r))
    (writes : ∀ v isRequired,
      StoreM.Keeps P (m.bindings.write id Property.realm v isRequired)) :
    StoreM.Keeps P (m.writeScope id realm) := by
  cases realm with
  | none => exact .pure ()
  | some r =>
    change StoreM.Keeps P (m.writeRealm id r)
    unfold writeRealm
    split
    · exact .fail _
    · next resolver isResolver => exact .bind (looks resolver isResolver r) fun v => writes v false

/-- What outlives look-ups and the writes of the later properties outlives what is written after
the key. -/
theorem keeps_later (realm : Option Realm) (d : Principal)
    (looks : ∀ resolver ∈ m.resolver, ∀ r, StoreM.Keeps P (resolver.lookup r))
    (writes : ∀ q ∈ m.laterProperties, ∀ v isRequired,
      StoreM.Keeps P (m.bindings.write id q v isRequired)) :
    StoreM.Keeps P (do
      m.writeStanding id d
      m.writeScope id realm
      m.variant.populate m.bindings id d) := by
  obtain ⟨first, profile⟩ := List.forall_mem_append.mp writes
  obtain ⟨standing, scope⟩ := List.forall_mem_append.mp first
  exact .bind (keeps_writeStanding d standing) fun _ =>
    .bind (keeps_writeScope realm looks (List.forall_mem_singleton.mp scope)) fun _ =>
      Variant.keeps_writeFields d profile

/-- What outlives look-ups and assignments to a record outlives that a principal is written to
it. -/
theorem keeps_writeAs (realm : Option Realm) (d : Principal) (token key : String)
    (looks : ∀ resolver ∈ m.resolver, ∀ r, StoreM.Keeps P (resolver.lookup r))
    (assigns : ∀ a v u u', P u → u.set id a v = .ok u' → P u') :
    StoreM.Keeps P (m.writeAs realm id d token key) := by
  have writes : ∀ q v isRequired, StoreM.Keeps P (m.bindings.write id q v isRequired) :=
    fun q v _ => Bindings.keeps_write fun a _ => assigns a v
  exact .bind (writes _ _ true) fun _ => .bind (writes _ _ true) fun _ =>
    keeps_later realm d looks fun q _ => writes q

end

/-- What is written after the key leaves attributes to which none of it is bound. -/
theorem agreesAt_later (realm : Option Realm) (d : Principal)
    (elsewhere : id = j → m.bindings.Spares m.laterProperties attr) :
    StoreM.Keeps (s₀.AgreesAt j attr) (do
      m.writeStanding id d
      m.writeScope id realm
      m.variant.populate m.bindings id d) :=
  keeps_later realm d (fun resolver _ => resolver.agreesAt_lookup) fun q among _ _ =>
    Bindings.agreesAt_write fun own => List.forall_mem_singleton.mpr (elsewhere own q among)

/-- Writing a principal to a record leaves every other record. -/
theorem agreesAt_writeAs (ne : id ≠ j) (realm : Option Realm) (d : Principal)
    (token key : String) :
    StoreM.Keeps (s₀.AgreesAt j attr) (m.writeAs realm id d token key) :=
  keeps_writeAs realm d token key (fun resolver _ => resolver.agreesAt_lookup)
    fun _ _ _ _ before done => before.trans (.set (fun own => absurd own ne) done)

/-- Writing a principal changes the class and the row of no record. -/
theorem assigned_writeAs (resolver : m.resolver = some (.table partitions)) (realm : Option Realm)
    (d : Principal) (token key : String) :
    StoreM.Keeps s₀.Assigned (m.writeAs realm id d token key) := by
  refine keeps_writeAs realm d token key (fun r isResolver p => ?_)
    fun _ _ _ _ before done => before.trans (.set done)
  rw [resolver] at isResolver
  cases isResolver
  exact .ask _

/-! ## The record that is made -/

/-- A value that is written is assigned to the attribute of its property. -/
theorem set_of_write {v : Value} {isRequired : Bool} (given : v.isNull = false)
    (bound : b.properties.find? p = some attr)
    (done : (b.write id p v isRequired).outcome s = (.ok (), t)) : s.set id attr v = .ok t := by
  rw [Bindings.write_bound id bound (by rw [given, Bool.and_false]), StoreM.outcome_change] at done
  split at done
  · next u set =>
    cases done
    exact set
  · cases done

/-- A text that is written stays in its attribute through whatever leaves that attribute. -/
theorem text_of_write {text : String} {isRequired : Bool} {rest : StoreM Unit}
    (bound : b.properties.find? p = some attr)
    (keeps : ∀ u : Store, StoreM.Keeps (u.AgreesAt id attr) rest)
    (done : (b.write id p (.text text) isRequired >>= fun _ => rest).outcome s = (.ok (), t)) :
    ∃ r, t.record? id = some r ∧ r.cls.isPlain attr = true ∧ r.value attr = .text text := by
  obtain ⟨_, u, written, later⟩ := StoreM.outcome_bind_eq_ok.mp done
  obtain ⟨r, found, plain, value⟩ := Store.exists_value_of_set (set_of_write rfl bound written)
  obtain ⟨q, foundLast, same⟩ := (keeps u).of_outcome later (.refl id attr u) r found
  exact ⟨q, foundLast, same.cls ▸ plain, same.value.trans value⟩

/-- A principal that was written to a record has left its token and its key there, each in its
attribute if no other property is bound to that. -/
theorem text_of_writeAs (done : (m.writeAs realm id d token key).outcome s = (.ok (), t))
    {text : String} (among : (p, text) ∈ [(Property.discriminator, token), (Property.key, key)])
    (alone : m.bindings.Alone p) (bound : m.bindings.properties.find? p = some attr) :
    ∃ r, t.record? id = some r ∧ r.cls.isPlain attr = true ∧ r.value attr = .text text := by
  have later (isText : p ∈ [Property.discriminator, .key]) (u : Store) :
      StoreM.Keeps (u.AgreesAt id attr) (do
        m.writeStanding id d
        m.writeScope id realm
        m.variant.populate m.bindings id d) :=
    agreesAt_later realm d fun _ => alone.spares bound fun q among =>
      ⟨(m.laterProperties_spec q among).1,
        fun same => (m.laterProperties_spec q among).2 (same ▸ isText)⟩
  simp only [List.mem_cons, Prod.mk.injEq, List.not_mem_nil, or_false] at among
  rcases among with ⟨rfl, rfl⟩ | ⟨rfl, rfl⟩
  · exact text_of_write bound (fun u => .bind (Bindings.agreesAt_write fun _ =>
      alone.spares bound (by decide)) fun _ => later (by decide) u) done
  · obtain ⟨_, u, -, done⟩ := StoreM.outcome_bind_eq_ok.mp done
    exact text_of_write bound (later (by decide)) done

/-- A realm is written as the stored record that its id finds. -/
theorem writeScope_eq_ok {r : Realm} (resolver : m.resolver = some (.table partitions))
    (done : (m.writeScope id (some r)).outcome s = (.ok (), t)) :
    ∃ target, RealmResolver.findIn partitions s r = some target ∧
      (m.bindings.write id Property.realm (.record target) false).outcome s = (.ok (), t) := by
  simp only [writeScope, writeRealm, resolver] at done
  obtain ⟨v, u, looked, written⟩ := StoreM.outcome_bind_eq_ok.mp done
  cases found : RealmResolver.findIn partitions s r with
  | none =>
    rw [RealmResolver.outcome_lookup_table_of_none found] at looked
    cases looked
  | some target =>
    rw [RealmResolver.outcome_lookup_table found] at looked
    cases looked
    exact ⟨target, rfl, written⟩

/-- The realm of a principal that was written to a record is stored. If it is bound to a
relationship, and nothing else is, the record is left linked to it. -/
theorem link_of_writeAs {r : Realm} {q : Record}
    (resolver : m.resolver = some (.table partitions))
    (found : s.record? id = some q)
    (done : (m.writeAs (some r) id d token key).outcome s = (.ok (), t)) :
    ∃ target, RealmResolver.findIn partitions s r = some target ∧
      ∀ attr rel, m.bindings.Alone Property.realm →
        m.bindings.properties.find? Property.realm = some attr →
        q.cls.relationship? attr = some rel →
          ∃ q', t.record? id = some q' ∧ q'.links.find? attr = some (some target) ∧
            attr ∈ q'.unwritten := by
  obtain ⟨_, s₁, first, done⟩ := StoreM.outcome_bind_eq_ok.mp done
  obtain ⟨_, s₂, second, done⟩ := StoreM.outcome_bind_eq_ok.mp done
  obtain ⟨_, s₃, standing, done⟩ := StoreM.outcome_bind_eq_ok.mp done
  obtain ⟨_, s₄, inScope, profile⟩ := StoreM.outcome_bind_eq_ok.mp done
  -- What is written before the realm changes no class and no row.
  have writes (p : Property) (v : Value) (isRequired : Bool) :
      StoreM.Keeps s.Assigned (m.bindings.write id p v isRequired) :=
    Bindings.keeps_write fun _ _ _ _ before done => before.trans (.set done)
  have assigned : s.Assigned s₃ := (keeps_writeStanding d fun p _ => writes p).of_outcome standing
    ((writes _ _ _).of_outcome second ((writes _ _ _).of_outcome first (.refl s)))
  obtain ⟨target, isTarget, written⟩ := writeScope_eq_ok resolver inScope
  refine ⟨target, (RealmResolver.findIn_of_sameTables assigned.sameTables ..).symm.trans isTarget,
    fun attr rel alone bound isLink => ?_⟩
  obtain ⟨q₃, found₃, cls, -⟩ := assigned.kept id q found
  obtain ⟨q₄, found₄, -, link, waiting⟩ :=
    Store.exists_link_of_set found₃ (by rw [cls, isLink]) (set_of_write rfl bound written)
  have spared : m.bindings.Spares (m.variant.form.written.map Prod.fst) attr :=
    alone.spares bound (by cases m.variant.form <;> decide)
  obtain ⟨q', found', same⟩ := (Variant.keeps_writeFields d fun p among _ _ =>
    Bindings.agreesAt_write fun _ => List.forall_mem_singleton.mpr (spared p among)).of_outcome
      profile (.refl id attr s₄) q₄ found₄
  exact ⟨q', found', same.link.trans link, same.waiting.mpr waiting⟩

/-- The discriminator of a principal that was written to a record is a plain attribute. -/
theorem plain_of_writeAs {q : Record} (found : s.record? id = some q)
    (bound : m.bindings.properties.find? Property.discriminator = some attr)
    (done : (m.writeAs realm id d token key).outcome s = (.ok (), t)) :
    q.cls.isPlain attr = true := by
  obtain ⟨_, s₁, first, -⟩ := StoreM.outcome_bind_eq_ok.mp done
  have set := set_of_write rfl bound first
  obtain ⟨q₁, found₁, plain, -⟩ := Store.exists_value_of_set set
  obtain ⟨q', before, cls, -⟩ := (Store.Assigned.set set).exists_record? found₁
  rw [found] at before
  cases before
  exact cls ▸ plain

/-- Making a record that succeeds adds one of the identity class and writes the principal to it. -/
theorem createAs_eq_ok (done : (m.createAs realm d token key).outcome s = (.ok id, t)) :
    id = s.records.length ∧
      (m.writeAs realm id d token key).outcome (s.add { cls := m.bindings.identityClass }).2 =
        (.ok (), t) := by
  obtain ⟨new, u, made, done⟩ := StoreM.outcome_bind_eq_ok.mp done
  obtain ⟨_, t', written, done⟩ := StoreM.outcome_bind_eq_ok.mp done
  cases done
  rw [Bindings.newIdentity, Bindings.make] at made
  split at made
  · cases made
  · cases made
    exact ⟨rfl, written⟩

end Mapper

/-- Making a record by the mapper of a built-in kind adds one of the identity class and writes the
principal to it under the token of the kind. -/
theorem Registry.create_eq_ok {reg : Registry} {resolver : Option RealmResolver}
    {realm : Option Realm} {d : Principal} (registered : withBuiltins b resolver = .ok reg)
    (created : (reg.create realm d).outcome s = (.ok id, t)) :
    ∃ v ∈ Variant.builtins, v.kind = d.kind ∧ id = s.records.length ∧
      (Mapper.writeAs ⟨v, b, reg.discriminators, resolver⟩ realm id d v.discriminator d.key).outcome
        (s.add { cls := b.identityClass }).2 = (.ok (), t) := by
  obtain ⟨m, u, chosen, made⟩ := StoreM.outcome_bind_eq_ok.mp created
  cases congrArg Prod.snd chosen
  obtain ⟨v, builtin, ofKind, rfl⟩ := exists_of_forKind registered (congrArg Prod.fst chosen)
  have serves := ServesBuiltins.of_withBuiltins registered
  rw [Mapper.create_eq (ofKind ▸ serves.token v builtin)] at made
  obtain ⟨isNew, written⟩ := Mapper.createAs_eq_ok made
  exact ⟨v, builtin, ofKind, isNew, written⟩

end Principals
