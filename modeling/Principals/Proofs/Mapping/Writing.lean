import Principals.Mapping.Mapper
import Principals.Proofs.Bindings.Overlay
import Principals.Proofs.Principal.Construction
import Principals.Proofs.Store.Tables

/-!
# What a mapper writes

Making the record of a constructed principal always succeeds, and so does writing any other one with
its required fields and a profile of the right form. What is put into the record is an overlay of the
shared fields and of the profile; between them the realm is assigned, which touches no attribute but
its own.

* `Principal.Writable`: what a principal needs to be written, which a constructed one has;
* `puts_writeShared`, `puts_populate`: the fields that are put;
* `outcome_writeRealm`: a realm that the resolver finds is assigned;
* `outcome_create`: the record of a constructed principal holds all of its fields.
-/

namespace Principals

/-! ## The fields of a principal as properties -/

namespace Principal

/-- The shared fields of a principal as properties. -/
def sharedEntries (d : Principal) (token : Value) : List (Property × Value) :=
  [(Property.discriminator, token), (Property.key, .text d.key), (Property.enabled, d.enabled),
    (Property.created, d.createdDate), (Property.expires, d.expirationDate)]

/-- The profile fields that a form writes as properties. -/
def profileEntries (d : Principal) (fields : List (Property × Profile.Field)) :
    List (Property × Value) :=
  fields.map fun e => (e.1, (d.profile.get? e.2).getD .null)

/-- The properties of a principal that its variant writes. -/
def entries (d : Principal) (v : Variant) : List (Property × Value) :=
  d.sharedEntries (.text v.discriminator) ++ d.profileEntries v.form.written

end Principal

namespace Variant

variable {v : Variant}

/-- The properties that a form writes. -/
def Form.properties (form : Form) : List Property :=
  [Property.discriminator, Property.key, Property.enabled, Property.created, Property.expires] ++
    form.written.map Prod.fst

theorem map_fst_entries (d : Principal) (v : Variant) :
    (d.entries v).map Prod.fst = v.form.properties := by
  simp [Principal.entries, Principal.sharedEntries, Principal.profileEntries, Form.properties,
    Function.comp_def]

/-- Every form writes identity properties other than the realm, each once. -/
theorem Form.properties_spec (form : Form) : form.properties.Nodup ∧
    ∀ p ∈ form.properties, p ∈ Property.ofIdentities ∧ p ≠ Property.realm := by
  cases form <;> exact ⟨by decide, by decide⟩

/-- The built-in kind that a form is made for. -/
def Form.kind : Form → Kind
  | agent => .agent
  | user => .user
  | group => .group
  | role => .role

/-- Whether a variant gives its form to the kind of that form or to one derived from it. -/
def Fits (v : Variant) : Prop := v.kind.isSubkindOf v.form.kind = true

theorem fits_of_builtin : ∀ v ∈ builtins, v.Fits := by
  unfold Fits
  decide

/-- The kind of a fitting variant has the fields of its form; users are agents with more of them. -/
theorem Fits.stem (fits : v.Fits) :
    v.kind.stem = v.form.kind ∨ v.form = .agent ∧ v.kind.stem = .user := by
  unfold Fits at fits
  generalize v.kind = kind at fits
  induction kind with
  | derived base name p ih =>
    refine ih ?_
    simp only [Kind.isSubkindOf, Kind.ancestry, List.mem_cons, decide_eq_true_eq] at fits ⊢
    refine fits.resolve_left ?_
    cases v.form <;> simp [Form.kind]
  | identity | agent | user | group | role =>
    revert fits
    cases v.form <;> decide

/-- A constructed principal has every field that the variant of its kind writes. -/
theorem get?_of_written {d : Principal} (fits : v.Fits) (constructed : d.Constructed v.kind) :
    ∀ e ∈ v.form.written, ∃ x, d.profile.get? e.2 = some x := by
  have profile := constructed.profile
  generalize d.profile = p at profile
  rcases fits.stem with stem | ⟨form, stem⟩
  · rw [stem] at profile
    cases form : v.form <;> rw [form] at profile <;> cases profile <;>
      simp [Form.written, Profile.get?]
  · rw [stem] at profile
    cases profile
    simp [form, Form.written, Profile.get?]

end Variant

/-- A principal that a variant can write: what is required of it is there, and its profile has the
fields that are written. -/
structure Principal.Writable (v : Variant) (d : Principal) : Prop where
  enabled : d.enabled.isNull = false
  created : d.createdDate.isNull = false
  suits : ∀ e ∈ v.form.written, ∃ x, d.profile.get? e.2 = some x

theorem Principal.Constructed.writable {v : Variant} {d : Principal}
    (constructed : d.Constructed v.kind) (fits : v.Fits) : d.Writable v where
  enabled := by
    obtain ⟨enabled, isEnabled⟩ := constructed.enabled
    rw [isEnabled]
    rfl
  created := by
    obtain ⟨created, isCreated⟩ := constructed.created
    rw [isCreated]
    rfl
  suits := Variant.get?_of_written fits constructed

/-! ## Fields -/

variable {b : Bindings} {cls : RecordClass} {id : RecordId} {d : Principal}
  {identity attributes : Option RecordClass} {properties : OrderedMap String String}

namespace Bindings

/-- Accepted bindings meet what is required of a value that is there. -/
theorem meets_required {p : Property} {v : Value}
    (accepted : create identity attributes properties = .ok b)
    (required : p ∈ Property.required) (given : v.isNull = false) : b.Meets p v true :=
  fun _ => ⟨find?_of_create accepted required, given⟩

end Bindings

/-- Writing the shared fields of a writable principal puts all of them. -/
theorem Mapper.puts_writeShared {m : Mapper} {v : Variant}
    (accepted : Bindings.create identity attributes properties = .ok m.bindings)
    (plain : m.bindings.Plain) (writable : d.Writable v) (id : RecordId) (token : String) :
    m.bindings.Puts m.bindings.identityClass id (d.sharedEntries (.text token))
      (m.writeShared id d (.text token)) := by
  have put : ∀ p ∈ [Property.discriminator, .key, .enabled, .created], ∀ v : Value,
      v.isNull = false →
      m.bindings.Puts m.bindings.identityClass id [(p, v)] (m.bindings.write id p v true) := by
    intro p among v present
    have required : p ∈ Property.required := by
      revert p
      decide
    have ofIdentities : p ∈ Property.ofIdentities ∧ p ≠ Property.realm := by
      revert p
      decide
    exact Bindings.puts_write id (Bindings.meets_required accepted required present)
      (plain p ofIdentities.1 ofIdentities.2)
  have last : m.bindings.Puts m.bindings.identityClass id [(Property.expires, d.expirationDate)]
      (m.bindings.write id Property.expires d.expirationDate false) :=
    Bindings.puts_write id (Bindings.meets_optional _ _ _)
      (plain Property.expires (by decide) (by decide))
  refine (put Property.discriminator (by decide) (.text token) rfl).seq ?_
  refine (put Property.key (by decide) (.text d.key) rfl).seq ?_
  refine (put Property.enabled (by decide) _ writable.enabled).seq ?_
  exact (put Property.created (by decide) _ writable.created).seq last

/-- Writing profile fields that a principal has puts all of them. -/
theorem Variant.puts_writeFields {fields : List (Property × Profile.Field)}
    (present : ∀ e ∈ fields, ∃ x, d.profile.get? e.2 = some x)
    (plain : ∀ e ∈ fields, ∀ attr, b.properties.find? e.1 = some attr → cls.isPlain attr = true) :
    b.Puts cls id (d.profileEntries fields) (Variant.writeFields b id d fields) := by
  induction fields with
  | nil => exact .pure b cls id
  | cons e rest ih =>
    obtain ⟨x, has⟩ := present e List.mem_cons_self
    have later := ih (fun e' inRest => present e' (List.mem_cons_of_mem _ inRest))
      fun e' inRest => plain e' (List.mem_cons_of_mem _ inRest)
    have first : b.Puts cls id [(e.1, x)] (b.write id e.1 x false) :=
      Bindings.puts_write id (Bindings.meets_optional _ _ _) (plain e List.mem_cons_self)
    have value : d.profileEntries (e :: rest) = [(e.1, x)] ++ d.profileEntries rest := by
      simp [Principal.profileEntries, has]
    have read : d.getProfile e.2 = .ok x := by
      simp only [Principal.getProfile, has]
    intro s r found ofClass
    rw [Variant.writeFields, StoreM.outcome_bind_ok (by rw [StoreM.outcome_lift, read]), value]
    exact first.seq later s r found ofClass

theorem Variant.puts_populate {v : Variant} (plain : b.Plain) (writable : d.Writable v) :
    b.Puts b.identityClass id (d.profileEntries v.form.written) (v.populate b id d) := by
  refine puts_writeFields writable.suits fun e among => ?_
  have written : e.1 ∈ v.form.properties :=
    List.mem_append_right _ (List.mem_map_of_mem among)
  obtain ⟨ofIdentities, notRealm⟩ := v.form.properties_spec.2 e.1 written
  exact plain e.1 ofIdentities notRealm

/-! ## The realm -/

/-- A resolver finds a realm if it gives it a stored form, and one that the bound attribute takes: a
relationship takes records, so a bare id needs a plain attribute. -/
def RealmResolver.Finds (b : Bindings) (s : Store) (r : Realm) : RealmResolver → Prop
  | table partitions => (findIn partitions s r).isSome = true
  | fresh => True
  | identifier => ∀ attr, b.properties.find? Property.realm = some attr →
      b.identityClass.isPlain attr = true

namespace RealmResolver

variable {s s' : Store} {r : Realm} {resolver : RealmResolver}

/-- What is stored for a realm depends on the tables only. -/
theorem findIn_of_sameTables (same : s.SameTables s') (partitions : RecordClass) (r : Realm) :
    findIn partitions s' r = findIn partitions s r := by
  unfold findIn
  split
  · simp only [same.findStored]
  · rfl

/-- A realm that is stored is looked up as its record. -/
theorem outcome_lookup_table {partitions : RecordClass} {target : RecordId}
    (found : findIn partitions s r = some target) :
    ((table partitions).lookup r).outcome s = (.ok (.record target), s) := by
  rw [lookup, StoreM.outcome_ask, found]

/-- A realm that is not stored is not found. -/
theorem outcome_lookup_table_of_none {partitions : RecordClass}
    (absent : findIn partitions s r = none) :
    ((table partitions).lookup r).outcome s = (.error (.fault (.notFound "Partition" r.id)), s) := by
  rw [lookup, StoreM.outcome_ask, absent]

/-- What a resolver finds depends on the tables only. -/
theorem Finds.of_sameTables (same : s.SameTables s') (finds : resolver.Finds b s r) :
    resolver.Finds b s' r := by
  cases resolver with
  | table partitions =>
    change (findIn partitions s' r).isSome = true
    rw [findIn_of_sameTables same]
    exact finds
  | fresh => trivial
  | identifier => exact finds

/-- Looking up a realm that is found gives its stored form and leaves what is plain. -/
theorem outcome_lookup (finds : resolver.Finds b s r) :
    ∃ v s', (resolver.lookup r).outcome s = (.ok v, s') ∧ s.KeepsPlain s' ∧
      ((∃ target, v = .record target) ∨ ∀ attr, b.properties.find? Property.realm = some attr →
        b.identityClass.isPlain attr = true) := by
  have noted : (note r).outcome s = (.ok (), { s with lookups := s.lookups ++ [r.id] }) :=
    StoreM.outcome_change_ok rfl
  have keeps : s.KeepsPlain { s with lookups := s.lookups ++ [r.id] } :=
    fun _ q found => ⟨q, found, .refl q⟩
  cases resolver with
  | table partitions =>
    obtain ⟨target, found⟩ := Option.isSome_iff_exists.mp finds
    exact ⟨.record target, s, outcome_lookup_table found, .refl s, .inl ⟨target, rfl⟩⟩
  | fresh =>
    refine ⟨.record s.records.length, _, ?_, keeps.trans (.add _ (realmRecord r)), .inl ⟨_, rfl⟩⟩
    rw [lookup, StoreM.outcome_bind_ok noted, StoreM.outcome_bind_ok (StoreM.outcome_create _ _)]
    rfl
  | identifier =>
    refine ⟨.text r.id, _, ?_, keeps, .inr finds⟩
    rw [lookup, StoreM.outcome_bind_ok noted]
    rfl

end RealmResolver

namespace Mapper

variable {m : Mapper} {s : Store} {r : Realm} {q : Record} {resolver : RealmResolver}

/-- A realm that is found is assigned, and every other attribute of the record stays as it is. -/
theorem outcome_writeRealm (separate : m.bindings.Separate) (given : m.resolver = some resolver)
    (finds : resolver.Finds m.bindings s r) (found : s.record? id = some q)
    (ofClass : q.cls = m.bindings.identityClass) :
    ∃ s' q', (m.writeRealm id r).outcome s = (.ok (), s') ∧ s'.record? id = some q' ∧
      q'.cls = q.cls ∧ ∀ attr, m.bindings.properties.find? Property.realm ≠ some attr →
        q'.value attr = q.value attr := by
  obtain ⟨v, t, looked, keeps, form⟩ := RealmResolver.outcome_lookup finds
  obtain ⟨p, foundNext, same⟩ := keeps id q found
  have run : (m.writeRealm id r).outcome s =
      (m.bindings.write id Property.realm v false).outcome t := by
    simp only [writeRealm, given]
    exact StoreM.outcome_bind_ok looked
  rw [run]
  cases bound : m.bindings.properties.find? Property.realm with
  | none =>
    refine ⟨t, p, ?_, foundNext, same.cls, fun attr _ => same.value attr⟩
    rw [Bindings.write_unbound id v bound]
    rfl
  | some attr =>
    have ofClassNext : p.cls = m.bindings.identityClass := same.cls.trans ofClass
    rw [Bindings.write_bound id bound rfl]
    by_cases plain : m.bindings.identityClass.isPlain attr = true
    · have set := Store.set_plain v foundNext (by rwa [ofClassNext])
      refine ⟨_, _, StoreM.outcome_change_ok set, Store.record?_modify_self _ foundNext, same.cls,
        fun other ne => ?_⟩
      have apart : other ≠ attr := fun eq => ne (by rw [eq])
      rw [Record.value_setValue_of_ne p apart, same.value]
    · obtain ⟨rel, isLink⟩ :=
        Option.isSome_iff_exists.mp ((separate.realm attr bound).resolve_right plain)
      rcases form with ⟨target, rfl⟩ | allPlain
      · have set := Store.set_link target foundNext (by rwa [ofClassNext])
        obtain ⟨p', foundLast, same'⟩ :=
          Store.setLink_keepsPlain t id rel (some target) id p foundNext
        exact ⟨_, p', StoreM.outcome_change_ok set, foundLast, same'.cls.trans same.cls,
          fun other _ => (same'.value other).trans (same.value other)⟩
      · exact absurd (allPlain attr bound) plain

/-! ## The record of a principal -/

/-- Whether principals can be written without a realm or in the given one. -/
def Reaches (m : Mapper) (s : Store) (realm : Option Realm) : Prop :=
  ∀ r ∈ realm, ∃ resolver, m.resolver = some resolver ∧ resolver.Finds m.bindings s r

theorem Reaches.of_sameTables {realm : Option Realm} (reaches : m.Reaches s realm)
    (same : s.SameTables s') : m.Reaches s' realm := by
  intro r given
  obtain ⟨resolver, eq, finds⟩ := reaches r given
  exact ⟨resolver, eq, finds.of_sameTables same⟩

/-- Writes the realm, if there is one. -/
def writeScope (m : Mapper) (id : RecordId) : Option Realm → StoreM Unit
  | some r => m.writeRealm id r
  | none => pure ()

theorem populate_eq (m : Mapper) (realm : Option Realm) (id : RecordId) (d : Principal) :
    m.populate realm id d = (do
      let token ← StoreM.lift (m.discriminators.tokenFor d.kind)
      m.writeShared id d token
      m.writeScope id realm
      m.variant.populate m.bindings id d) := by
  cases realm <;> rfl

/-- Writing the realm, if there is one, leaves every other attribute of the record. -/
theorem outcome_writeScope {realm : Option Realm} (separate : m.bindings.Separate)
    (reaches : m.Reaches s realm) (found : s.record? id = some q)
    (ofClass : q.cls = m.bindings.identityClass) :
    ∃ s' q', (m.writeScope id realm).outcome s = (.ok (), s') ∧ s'.record? id = some q' ∧
      q'.cls = q.cls ∧ ∀ attr, m.bindings.properties.find? Property.realm ≠ some attr →
        q'.value attr = q.value attr := by
  cases realm with
  | none => exact ⟨s, q, rfl, found, rfl, fun _ _ => rfl⟩
  | some r =>
    obtain ⟨resolver, given, finds⟩ := reaches r rfl
    exact outcome_writeRealm separate given finds found ofClass

/-- The shared fields are still there after the realm and the profile were written: no two of the
properties are bound to one attribute, and none to that of the realm. -/
theorem value_of_entries (separate : b.Separate) {v : Variant} {q p : Record}
    (keeps : ∀ attr, b.properties.find? Property.realm ≠ some attr →
      p.value attr = (b.putAll (d.sharedEntries (.text v.discriminator)) q).value attr) :
    ∀ e ∈ d.entries v, ∀ attr, b.properties.find? e.1 = some attr →
      (b.putAll (d.profileEntries v.form.written) p).value attr = e.2 := by
  intro e among attr bound
  obtain ⟨nodup, identities⟩ := v.form.properties_spec
  have apart : ((d.entries v).map Prod.fst).Pairwise b.Apart := by
    rw [Variant.map_fst_entries]
    exact separate.pairwise nodup fun p among => (identities p among).1
  have notRealm : b.properties.find? Property.realm ≠ some attr := by
    have written : e.1 ∈ v.form.properties := by
      rw [← Variant.map_fst_entries d v]
      exact List.mem_map_of_mem among
    obtain ⟨ofIdentities, ne⟩ := identities e.1 written
    exact fun isRealm =>
      ne (separate.injective e.1 ofIdentities Property.realm (by decide) attr bound isRealm)
  rw [Principal.entries, List.map_append, List.pairwise_append] at apart
  obtain ⟨apartShared, apartProfile, apartBoth⟩ := apart
  rcases List.mem_append.mp among with inShared | inProfile
  · rw [Bindings.value_putAll_of_forall_ne fun e' inProfile => apartBoth e.1
      (List.mem_map_of_mem inShared) e'.1 (List.mem_map_of_mem inProfile) attr bound,
      keeps attr notRealm, Bindings.value_putAll apartShared inShared bound]
  · exact Bindings.value_putAll apartProfile inProfile bound

/-- Writing a principal without a realm puts its properties and does nothing else. -/
theorem puts_populate (accepted : Bindings.create identity attributes properties = .ok m.bindings)
    (plain : m.bindings.Plain)
    (token : m.discriminators.tokenFor d.kind = .ok (.text m.variant.discriminator))
    (writable : d.Writable m.variant) :
    m.bindings.Puts m.bindings.identityClass id (d.entries m.variant) (m.populate none id d) := by
  have all := (puts_writeShared accepted plain writable id m.variant.discriminator).seq
    ((Bindings.Puts.pure m.bindings m.bindings.identityClass id).seq
      (Variant.puts_populate plain writable))
  intro s q found ofClass
  rw [populate_eq, StoreM.outcome_bind_ok (by rw [StoreM.outcome_lift, token])]
  exact all s q found ofClass

/-- Writing a principal to an identity record leaves all of its fields there. -/
theorem outcome_populate {realm : Option Realm}
    (accepted : Bindings.create identity attributes properties = .ok m.bindings)
    (separate : m.bindings.Separate)
    (token : m.discriminators.tokenFor d.kind = .ok (.text m.variant.discriminator))
    (writable : d.Writable m.variant) (reaches : m.Reaches s realm)
    (found : s.record? id = some q) (ofClass : q.cls = m.bindings.identityClass) :
    ∃ s', (m.populate realm id d).outcome s = (.ok (), s') ∧
      m.bindings.Holds s' id (d.entries m.variant) := by
  -- The shared fields are put first; the tables stay, so the realm is still found.
  have shared := puts_writeShared accepted separate.plain writable id m.variant.discriminator s q
    found ofClass
  have foundShared := Store.record?_modify_self
    (m.bindings.putAll (d.sharedEntries (.text m.variant.discriminator))) found
  have ofClassShared := (Bindings.putAll_cls m.bindings
    (d.sharedEntries (.text m.variant.discriminator)) q).trans ofClass
  have tables := Store.sameTables_modify s id (Bindings.putAll_cls m.bindings
    (d.sharedEntries (.text m.variant.discriminator))) (Bindings.putAll_row m.bindings _)
  obtain ⟨t, p, assigned, foundAssigned, sameClass, keeps⟩ :=
    outcome_writeScope separate (reaches.of_sameTables tables) foundShared ofClassShared
  have ofClassAssigned := sameClass.trans ofClassShared
  -- The profile comes last.
  have profile := Variant.puts_populate separate.plain writable t p foundAssigned ofClassAssigned
  have run : (m.populate realm id d).outcome s =
      (.ok (), t.modify id (m.bindings.putAll (d.profileEntries m.variant.form.written))) := by
    rw [populate_eq, StoreM.outcome_bind_ok (by rw [StoreM.outcome_lift, token]),
      StoreM.outcome_bind_ok shared, StoreM.outcome_bind_ok assigned, profile]
  exact ⟨_, run, _, Store.record?_modify_self _ foundAssigned,
    (Bindings.putAll_cls _ _ p).trans ofClassAssigned, value_of_entries separate keeps⟩

/-- The record of a constructed principal can be made, and holds all of its fields. -/
theorem outcome_create {realm : Option Realm}
    (accepted : Bindings.create identity attributes properties = .ok m.bindings)
    (separate : m.bindings.Separate) (fits : m.variant.Fits)
    (token : m.discriminators.tokenFor d.kind = .ok (.text m.variant.discriminator))
    (constructible : m.bindings.identityClass.unconstructible = none)
    (constructed : d.Constructed m.variant.kind) (reaches : m.Reaches s realm) :
    ∃ s', (m.create realm d).outcome s = (.ok s.records.length, s') ∧
      m.bindings.Holds s' s.records.length (d.entries m.variant) := by
  have made : m.bindings.newIdentity.outcome s =
      (.ok s.records.length, (s.add { cls := m.bindings.identityClass }).2) := by
    rw [Bindings.newIdentity, Bindings.make, constructible]
    rfl
  obtain ⟨s', populated, holds⟩ :=
    outcome_populate accepted separate token (constructed.writable fits)
      (reaches.of_sameTables (Store.sameTables_add s rfl))
      (Store.record?_add_self s { cls := m.bindings.identityClass }) rfl
  refine ⟨s', ?_, holds⟩
  rw [create, StoreM.outcome_bind_ok made, StoreM.outcome_bind_ok populated]
  rfl

end Mapper

end Principals
