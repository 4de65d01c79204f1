import Principals.Proofs.Mapping.Registry
import Principals.Proofs.Mapping.Writing
import Principals.Proofs.Schema.Identities

/-!
# New records over the standard schema

Over the standard schema the record of a constructed principal is known as a whole: its fields in
the columns to which their properties are bound, a link to its realm, and nothing else. Every such
record can be written.

* `newRecord`: the record;
* `outcome_create_standard`: making it;
* `newRecord_new`: it is a new identity record that can be written;
* `Landed.cell_of_entry`: the cells of the row that it then has.
-/

namespace Principals.Standard

variable {s : Store} {d : Principal} {v : Variant} {target : Option RecordId} {attr : String}

/-- The relationship of an identity record to its realm. -/
def realmRelationship : Relationship where
  attr := "partition"
  target := "PartitionObject"
  localAttr := "partition_id"
  remote := "id"
  label := some Property.realm

/-- The record linked to a realm, if there is one. -/
def link (target : Option RecordId) (r : Record) : Record :=
  match target with
  | some id => Store.linkTo realmRelationship (some id) r
  | none => r

/-- The record of a principal, before it is written. -/
def newRecord (v : Variant) (target : Option RecordId) (d : Principal) : Record :=
  link target (bindings.putAll (d.entries v) { cls := identityClass })

/-! ## Making it -/

theorem put_link (target : Option RecordId) (r : Record) (e : Property × Value) :
    bindings.put (link target r) e = link target (bindings.put r e) := by
  cases target with
  | none => rfl
  | some id =>
    unfold Bindings.put
    split <;> rfl

theorem link_cls (target : Option RecordId) (r : Record) : (link target r).cls = r.cls := by
  cases target <;> rfl

theorem putAll_link (target : Option RecordId) (r : Record) (es : List (Property × Value)) :
    bindings.putAll es (link target r) = link target (bindings.putAll es r) := by
  induction es generalizing r with
  | nil => rfl
  | cons e rest ih =>
    change bindings.putAll rest (bindings.put (link target r) e) = _
    rw [put_link, ih]
    rfl

/-- The record that the tables hold for a realm, if one is given. -/
def targetOf (s : Store) (realm : Option Realm) : Option RecordId :=
  realm.bind (RealmResolver.findRealm s)

/-- A store whose tables hold the realm, if one is given. -/
def Reaches (s : Store) (realm : Option Realm) : Prop :=
  ∀ r ∈ realm, (RealmResolver.findRealm s r).isSome = true

variable {m : Mapper} {realm : Option Realm}

/-- Writing the realm links the record to what the tables hold for it. -/
theorem outcome_writeScope_standard {id : RecordId} {r : Record}
    (overStandard : m.bindings = bindings) (resolver : m.resolver = some .stored)
    (reaches : Reaches s realm) (found : s.record? id = some r) (cls : r.cls = identityClass) :
    (m.writeScope id realm).outcome s = (.ok (), s.modify id (link (targetOf s realm))) := by
  cases realm with
  | none =>
    have idle : s.modify id (link none) = s := Store.modify_eq_self found rfl
    rw [targetOf, Option.bind_none, idle]
    rfl
  | some q =>
    obtain ⟨t, stored⟩ := Option.isSome_iff_exists.mp (reaches q rfl)
    have looked : (RealmResolver.stored.lookup q).outcome s = (.ok (.record t), s) :=
      RealmResolver.outcome_lookup_table stored
    have set : s.set id "partition" (.record t) =
        .ok (s.modify id (Store.linkTo realmRelationship (some t))) := by
      have isLink : r.cls.relationship? "partition" = some realmRelationship := by
        rw [cls]
        rfl
      rw [Store.set_link t found isLink, Store.setLink_eq_modify s id (some t) rfl]
    have write : m.bindings.write id Property.realm (.record t) false =
        StoreM.change fun s => s.set id "partition" (.record t) := by
      rw [overStandard]
      rfl
    simp only [Mapper.writeScope, Mapper.writeRealm, resolver]
    rw [StoreM.outcome_bind_ok looked, write, StoreM.outcome_change_ok set, targetOf,
      Option.bind_some, stored]
    rfl

/-- The record of a principal before the realm is assigned. -/
def sharedRecord (v : Variant) (d : Principal) : Record :=
  bindings.putAll (d.sharedEntries (.text v.discriminator)) { cls := identityClass }

/-- A record that is only in memory changes nothing about which realms the tables hold. -/
theorem findRealm_add (s : Store) {r : Record} (unwritten : r.row = none) (q : Realm) :
    RealmResolver.findRealm (s.add r).2 q = RealmResolver.findRealm s q :=
  (Store.sameTables_add s unwritten).findStored _ _ _

theorem targetOf_add (s : Store) {r : Record} (unwritten : r.row = none) (realm : Option Realm) :
    targetOf (s.add r).2 realm = targetOf s realm := by
  cases realm with
  | none => rfl
  | some q => exact findRealm_add s unwritten q

theorem Reaches.add (reaches : Reaches s realm) {r : Record} (unwritten : r.row = none) :
    Reaches (s.add r).2 realm := by
  intro q given
  rw [findRealm_add s unwritten]
  exact reaches q given

/-- Over the standard schema, the shared fields are put into the record that was just made. -/
theorem outcome_writeShared_standard (overStandard : m.bindings = bindings)
    (writable : d.Writable m.variant) :
    (m.writeShared s.records.length d (.text m.variant.discriminator)).outcome
      (s.add { cls := identityClass }).2 = (.ok (), (s.add (sharedRecord m.variant d)).2) := by
  have accepted : Bindings.create (some identityClass) (some attributeClass)
      bindings.properties = .ok m.bindings := by
    rw [overStandard]
    exact create_standard
  have separate : m.bindings.Separate := by
    rw [overStandard]
    exact bindings_separate
  have ofClass : identityClass = m.bindings.identityClass := by
    rw [overStandard]
    rfl
  rw [Mapper.puts_writeShared accepted separate.plain writable _ _ _ _
    (Store.record?_add_self s { cls := identityClass }) ofClass, overStandard, Store.modify_add]
  rfl

/-- Over the standard schema, the profile completes the record. -/
theorem outcome_writeProfile_standard {target : Option RecordId}
    (overStandard : m.bindings = bindings) (writable : d.Writable m.variant) :
    (m.variant.populate m.bindings s.records.length d).outcome
      (s.add (link target (sharedRecord m.variant d))).2 =
      (.ok (), (s.add (newRecord m.variant target d)).2) := by
  have separate : m.bindings.Separate := by
    rw [overStandard]
    exact bindings_separate
  have cls : (link target (sharedRecord m.variant d)).cls = m.bindings.identityClass := by
    rw [overStandard, link_cls]
    exact Bindings.putAll_cls ..
  rw [Variant.puts_populate separate.plain writable _ _ (Store.record?_add_self s _) cls,
    overStandard, Store.modify_add, putAll_link]
  rw [newRecord, Principal.entries, Bindings.putAll_append]
  rfl

/-- Over the standard schema, making the record of a constructed principal adds it. -/
theorem outcome_create_standard (overStandard : m.bindings = bindings)
    (resolver : m.resolver = some .stored) (builtin : m.variant ∈ Variant.builtins)
    (token : m.discriminators.tokenFor d.kind = .ok (.text m.variant.discriminator))
    (constructed : d.Constructed m.variant.kind) (reaches : Reaches s realm) :
    (m.create realm d).outcome s =
      (.ok s.records.length, (s.add (newRecord m.variant (targetOf s realm) d)).2) := by
  have writable := constructed.writable (Variant.fits_of_builtin _ builtin)
  have made : m.bindings.newIdentity.outcome s =
      (.ok s.records.length, (s.add { cls := identityClass }).2) := by
    rw [overStandard]
    rfl
  have unwritten : (sharedRecord m.variant d).row = none := Bindings.putAll_row ..
  -- The realm is linked after the shared fields were put, and the profile comes last.
  have assigned : (m.writeScope s.records.length realm).outcome
      (s.add (sharedRecord m.variant d)).2 =
      (.ok (), (s.add (link (targetOf s realm) (sharedRecord m.variant d))).2) := by
    rw [outcome_writeScope_standard overStandard resolver (reaches.add unwritten)
      (Store.record?_add_self s (sharedRecord m.variant d)) (Bindings.putAll_cls ..),
      Store.modify_add, targetOf_add s unwritten]
  have populated : (m.populate realm s.records.length d).outcome
      (s.add { cls := identityClass }).2 =
      (.ok (), (s.add (newRecord m.variant (targetOf s realm) d)).2) := by
    rw [Mapper.populate_eq, StoreM.outcome_bind_ok (by rw [StoreM.outcome_lift, token]),
      StoreM.outcome_bind_ok (outcome_writeShared_standard overStandard writable),
      StoreM.outcome_bind_ok assigned, outcome_writeProfile_standard overStandard writable]
  rw [Mapper.create, StoreM.outcome_bind_ok made, StoreM.outcome_bind_ok populated]
  rfl

/-- The registry makes the record of a constructed principal by the variant of its kind. -/
theorem outcome_create_registry {reg : Registry}
    (serves : reg.ServesBuiltins bindings (some .stored)) (builtin : v ∈ Variant.builtins)
    (constructed : d.Constructed v.kind) (reaches : Reaches s realm) :
    (reg.create realm d).outcome s =
      (.ok s.records.length, (s.add (newRecord v (targetOf s realm) d)).2) := by
  have chosen : (StoreM.lift (reg.forKind d.kind)).outcome s =
      (.ok ⟨v, bindings, reg.discriminators, some .stored⟩, s) := by
    rw [StoreM.outcome_lift, constructed.kind, serves.forKind builtin]
  rw [Registry.create, StoreM.outcome_bind_ok chosen]
  refine outcome_create_standard rfl rfl builtin ?_ constructed reaches
  rw [constructed.kind]
  exact serves.token v builtin

/-! ## What it holds -/

theorem value_link (target : Option RecordId) (r : Record) (attr : String) :
    (link target r).value attr = r.value attr := by
  cases target <;> rfl

/-- A new record is in memory only. -/
theorem newRecord_row (v : Variant) (target : Option RecordId) (d : Principal) :
    (newRecord v target d).row = none := by
  cases target <;> exact Bindings.putAll_row ..

/-- A property that the variant writes is in its column. -/
theorem value_newRecord {p : Property} {x : Value} (among : (p, x) ∈ d.entries v)
    (bound : bindings.properties.find? p = some attr) :
    (newRecord v target d).value attr = x := by
  rw [newRecord, value_link]
  refine Bindings.value_putAll ?_ among bound
  obtain ⟨nodup, identities⟩ := v.form.properties_spec
  rw [Variant.map_fst_entries]
  exact bindings_separate.pairwise nodup fun p among => (identities p among).1

/-- A column to which no property that the variant writes is bound is empty. -/
theorem value_newRecord_of_forall_ne
    (ne : ∀ p ∈ v.form.properties, bindings.properties.find? p ≠ some attr) :
    (newRecord v target d).value attr = .null := by
  rw [newRecord, value_link]
  refine Bindings.value_putAll_of_forall_ne fun e among => ?_
  refine ne e.1 ?_
  rw [← Variant.map_fst_entries d v]
  exact List.mem_map_of_mem among

/-- The fields of a constructed profile are texts or absent. -/
theorem exists_text_of_constructed {kind : Kind} {p : Profile}
    (constructed : Profile.Constructed kind p) (f : Profile.Field) :
    ∃ t, (p.get? f).getD .null = .ofText? t := by
  cases constructed with
  | agent | role | group =>
    cases f <;> first | exact ⟨none, rfl⟩ | exact ⟨some _, rfl⟩
  | user valid first last email =>
    cases f <;> first | exact ⟨none, rfl⟩ | exact ⟨some _, rfl⟩ | exact ⟨first, rfl⟩ |
      exact ⟨last, rfl⟩ | exact ⟨email, rfl⟩

/-- The type of the column to which a property is bound. -/
def columnType (p : Property) : ColumnType :=
  if p = Property.enabled then .boolean
  else if p = Property.created ∨ p = Property.expires then .timestamp
  else .text

/-- Profile fields are kept in texts. -/
theorem columnType_of_written (form : Variant.Form) :
    ∀ e ∈ form.written, columnType e.1 = .text := by
  cases form <;> decide

/-- Every property that a variant writes has a column of its type, other than the number and the
reference. -/
theorem column_of_written (form : Variant.Form) : ∀ p ∈ form.properties,
    ∃ c ∈ identityClass.columns, bindings.properties.find? p = some c.attr ∧
      c.type = columnType p ∧ c.attr ≠ "id" ∧ c.attr ≠ "partition_id" := by
  cases form <;> decide

/-- Columns that must not be empty are those of required properties. -/
theorem required_of_column : ∀ c ∈ identityClass.columns, c.nullable = false → c.attr ≠ "id" →
    ∃ p ∈ [Property.discriminator, .key, .enabled, .created],
      bindings.properties.find? p = some c.attr := by decide

/-- The number and the reference are left to the tables. -/
theorem value_newRecord_of_reserved (reserved : attr = "id" ∨ attr = "partition_id") :
    (newRecord v target d).value attr = .null := by
  refine value_newRecord_of_forall_ne fun p written => ?_
  obtain ⟨c, -, bound, -, notId, notReference⟩ := column_of_written v.form p written
  rw [bound]
  rcases reserved with rfl | rfl
  · exact fun eq => notId (Option.some.inj eq)
  · exact fun eq => notReference (Option.some.inj eq)

/-- A new record has values and the link to its realm, and nothing else. -/
theorem exists_newRecord_eq (v : Variant) (target : Option RecordId) (d : Principal) :
    ∃ values, newRecord v target d = link target { cls := identityClass, values } := by
  obtain ⟨values, overlay⟩ :=
    Bindings.exists_putAll_eq bindings (d.entries v) { cls := identityClass }
  exact ⟨values, by rw [newRecord, overlay]⟩

theorem cls_newRecord (v : Variant) (target : Option RecordId) (d : Principal) :
    (newRecord v target d).cls = identityClass := by
  obtain ⟨values, eq⟩ := exists_newRecord_eq v target d
  rw [eq, link_cls]

theorem isTransient_newRecord (v : Variant) (target : Option RecordId) (d : Principal) :
    (newRecord v target d).isTransient = true := by
  obtain ⟨values, eq⟩ := exists_newRecord_eq v target d
  rw [eq]
  cases target <;> rfl

/-- A new record has not gathered any attribute records yet. -/
theorem gathered_newRecord (v : Variant) (target : Option RecordId) (d : Principal) :
    (newRecord v target d).gathered = ∅ := by
  obtain ⟨values, eq⟩ := exists_newRecord_eq v target d
  rw [eq]
  cases target <;> rfl

/-- The columns of the properties that a constructed principal has keep their values. -/
theorem keeps_entries (constructed : d.Constructed v.kind) :
    ∀ e ∈ d.entries v, (columnType e.1).Keeps e.2 := by
  obtain ⟨enabled, isEnabled⟩ := constructed.enabled
  obtain ⟨created, isCreated⟩ := constructed.created
  intro e among
  rcases List.mem_append.mp among with inShared | inProfile
  · simp only [Principal.sharedEntries, List.mem_cons, List.not_mem_nil, or_false] at inShared
    rcases inShared with rfl | rfl | rfl | rfl | rfl
    · exact ColumnType.keeps_text v.discriminator
    · exact ColumnType.keeps_text d.key
    · rw [isEnabled]
      exact ColumnType.keeps_bool enabled
    · rw [isCreated]
      exact ColumnType.keeps_moment created
    · rcases constructed.expires with none | ⟨expires, isExpires⟩
      · rw [none]
        exact ColumnType.keeps_null _
      · rw [isExpires]
        exact ColumnType.keeps_moment expires
  · obtain ⟨f, written, rfl⟩ := List.mem_map.mp inProfile
    obtain ⟨t, text⟩ := exists_text_of_constructed constructed.profile f.2
    rw [columnType_of_written v.form f written, text]
    exact ColumnType.keeps_ofText? t

/-- Required properties of a constructed principal are there. -/
theorem exists_entry_of_required (constructed : d.Constructed v.kind) :
    ∀ p ∈ [Property.discriminator, .key, .enabled, .created],
      ∃ x, (p, x) ∈ d.entries v ∧ x ≠ .null := by
  obtain ⟨enabled, isEnabled⟩ := constructed.enabled
  obtain ⟨created, isCreated⟩ := constructed.created
  have shared : ∀ p x, (p, x) ∈ d.sharedEntries (.text v.discriminator) → x ≠ .null →
      ∃ x, (p, x) ∈ d.entries v ∧ x ≠ .null := fun p x among given =>
    ⟨x, List.mem_append_left _ among, given⟩
  rw [List.forall_mem_cons, List.forall_mem_cons, List.forall_mem_cons,
    List.forall_mem_cons]
  refine ⟨shared _ (.text v.discriminator) (by simp [Principal.sharedEntries]) (by simp),
    shared _ (.text d.key) (by simp [Principal.sharedEntries]) (by simp),
    shared _ d.enabled (by simp [Principal.sharedEntries]) (by simp [isEnabled]),
    shared _ d.createdDate (by simp [Principal.sharedEntries]) (by simp [isCreated]),
    List.forall_mem_nil _⟩

/-- The column of a bound property. -/
theorem columnType_of_bound : ∀ c ∈ identityClass.columns, ∀ p ∈ Property.ofIdentities,
    bindings.properties.find? p = some c.attr → c.type = columnType p := by decide

/-- Every column takes what the record of a constructed principal has, and what must be there is
there. -/
theorem newRecord_stores (constructed : d.Constructed v.kind) :
    ∀ c ∈ identityClass.columns, ∃ cell,
      c.type.store ((newRecord v target d).value c.attr) = .ok cell ∧
        (c.nullable = false → c.attr ≠ "id" → cell ≠ .null) := by
  intro c among
  have keeps : c.type.Keeps ((newRecord v target d).value c.attr) := by
    rw [newRecord, value_link]
    rcases Bindings.value_putAll_cases bindings (d.entries v) { cls := identityClass } c.attr with
      empty | ⟨e, entry, bound, value⟩
    · rw [empty]
      exact ColumnType.keeps_null c.type
    · have written : e.1 ∈ v.form.properties := by
        rw [← Variant.map_fst_entries d v]
        exact List.mem_map_of_mem entry
      rw [value, columnType_of_bound c among e.1 (v.form.properties_spec.2 e.1 written).1 bound]
      exact keeps_entries constructed e entry
  obtain ⟨cell, stores, -, empty⟩ := keeps
  refine ⟨cell, stores, fun required other => ?_⟩
  obtain ⟨p, isRequired, bound⟩ := required_of_column c among required other
  obtain ⟨x, entry, given⟩ := exists_entry_of_required constructed p isRequired
  rw [value_newRecord entry bound] at empty
  exact fun isNull => given (empty isNull)

/-- Each class of the catalog has a name of its own. -/
theorem eq_of_name : ∀ cls ∈ catalog.classes, ∀ cls' ∈ catalog.classes, cls.name = cls'.name →
    cls = cls' := by decide

/-- What the tables hold for a realm is a stored realm. -/
theorem stored_of_findRealm {q : Realm} {target : RecordId}
    (classes : ∀ r ∈ s.records, r.cls ∈ catalog.classes)
    (found : RealmResolver.findRealm s q = some target) :
    ∃ r row, s.record? target = some r ∧ r.cls = realmClass ∧ r.row = some row ∧
      ((row.find? "id").getD .null).same (.text q.id) = true := by
  rw [RealmResolver.findRealm_eq] at found
  have matching := List.find?_some found
  obtain ⟨cls, row, stored, named⟩ := Store.mem_storedOf.mp (List.mem_of_find?_eq_some found)
  obtain ⟨r, isRecord, rfl, has⟩ := Store.stored?_eq_some_iff.mp stored
  have isRealm : r.cls = realmClass :=
    eq_of_name r.cls (classes r (Store.mem_of_record? isRecord)) realmClass (by decide) named
  refine ⟨r, row, isRecord, isRealm, has, ?_⟩
  simpa [Store.test, isRecord, Record.cell, has] using matching

/-- The record of a constructed principal is a new identity record that can be written. -/
theorem newRecord_new (settled : Settled s) (constructed : d.Constructed v.kind)
    (realm : Option Realm) :
    NewIdentity s (targetOf s realm) (newRecord v (targetOf s realm) d) := by
  have reached : ∀ target ∈ targetOf s realm, ∃ r row, s.record? target = some r ∧
      r.cls = realmClass ∧ r.row = some row := by
    intro target given
    obtain ⟨q, -, found⟩ := Option.bind_eq_some_iff.mp given
    obtain ⟨r, row, isRecord, isRealm, has, -⟩ := stored_of_findRealm settled.classes found
    exact ⟨r, row, isRecord, isRealm, has⟩
  obtain ⟨values, overlay⟩ := exists_newRecord_eq v (targetOf s realm) d
  refine ⟨?_, ?_, ?_, ?_, ?_, ?_, value_newRecord_of_reserved (.inl rfl),
    value_newRecord_of_reserved (.inr rfl), newRecord_stores constructed, reached⟩
  all_goals
    rw [overlay]
    cases targetOf s realm <;> rfl

/-- The row of a constructed principal has each of its properties in the column of that. -/
theorem Landed.cell_of_entry {n : Int} {q : Record} {row : Row}
    (landed : Landed s target n (newRecord v target d) q row) :
    ∀ e ∈ d.entries v, ∃ c ∈ identityClass.columns, ∃ cell,
      bindings.properties.find? e.1 = some c.attr ∧ c.type = columnType e.1 ∧
        (columnType e.1).store e.2 = .ok cell ∧ row.find? c.attr = some cell := by
  intro e among
  have written : e.1 ∈ v.form.properties := by
    rw [← Variant.map_fst_entries d v]
    exact List.mem_map_of_mem among
  obtain ⟨c, isColumn, bound, type, notId, notReference⟩ := column_of_written v.form e.1 written
  obtain ⟨cell, stores, found⟩ := landed.columns c isColumn notId notReference
  rw [value_newRecord among bound, type] at stores
  exact ⟨c, isColumn, cell, bound, type, stores, found⟩

end Principals.Standard
