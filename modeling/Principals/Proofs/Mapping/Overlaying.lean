import Principals.Proofs.Mapping.Frames
import Principals.Proofs.Mapping.Registrations
import Principals.Proofs.Mapping.StoredTimes
import Principals.Proofs.Store.Reading

/-!
# A principal laid over a record

Writing a principal to a record without a realm lays it over whatever the record held before. Where
several properties are bound to one attribute the last one written counts, and an absent value is
written like any other. So all that the variant reads is as it would be in any other record to which
the principal is written, and an earlier principal of the kind leaves no trace.

What is bound to none of the written properties stays, as far as it is not read through an attribute
to which one is: a relationship moves with its reference.

* `Bindings.ReadAlike`, `Mapper.restore_of_readAlike`: what is restored depends on the properties
  that are written;
* `Bindings.LeavesRest.of_putAll`: what writing properties leaves;
* `Registry.populate_overlays`: writing a principal to two records, and over another principal.
-/

namespace Principals

/-- The attributes through which an attribute of records of a class is read: those from which it is
read in the record itself or in one that leads to it, and those by which the latter name the
record. -/
def Catalog.readThrough (g : Catalog) (cls : RecordClass) (attr : String) : List String :=
  cls.basis attr ++ g.classes.flatMap fun other =>
    (other.relationships.filter fun rel =>
      rel.target == cls.name && rel.backref == some attr).map Relationship.remote

variable {b : Bindings} {ps : List Property} {s t u : Store} {i j : RecordId} {p : Property}
  {attr : String} {v : Variant} {d : Principal}

/-! ## Records that read alike -/

/-- Whether some properties have the same values in two records. -/
def Bindings.ReadAlike (b : Bindings) (ps : List Property) (s : Store) (i : RecordId) (t : Store)
    (j : RecordId) : Prop :=
  ∀ p ∈ ps, ∀ attr, b.properties.find? p = some attr → s.get i attr = t.get j attr

theorem Bindings.ReadAlike.read (alike : b.ReadAlike ps s i t j) (among : p ∈ ps)
    (isRequired : Bool) : b.read s i p isRequired = b.read t j p isRequired := by
  unfold Bindings.read
  cases bound : b.properties.find? p with
  | none => rfl
  | some attr => simp only [alike p among attr bound]

namespace Variant

theorem Form.shared_mem_properties (form : Form) : ∀ p ∈ [Property.discriminator, .key, .enabled,
    .created, .expires], p ∈ form.properties :=
  fun _ among => List.mem_append_left _ among

/-- The profile is restored from the key and from properties that the form writes. -/
theorem restore_of_readAlike (alike : b.ReadAlike v.form.properties s i t j) :
    v.restore b s i = v.restore b t j := by
  have key := alike.read (v.form.shared_mem_properties Property.key (by decide)) true
  have identifier (keyPrefix : String) :
      readIdentifier b s i keyPrefix = readIdentifier b t j keyPrefix := by
    rw [readIdentifier, readIdentifier, key]
  unfold restore
  cases form : v.form with
  | group =>
    have name := alike.read (p := Property.name) (by rw [form]; decide) false
    simp only [identifier, name]
  | agent | user | role => simp only [identifier]

theorem complete_of_readAlike (alike : b.ReadAlike v.form.properties s i t j) (d : Principal) :
    v.complete b s i d = v.complete b t j d := by
  unfold complete
  cases form : v.form with
  | agent | role => rfl
  | user =>
    have first := alike.read (p := Property.firstName) (by rw [form]; decide) false
    have last := alike.read (p := Property.lastName) (by rw [form]; decide) false
    have email := alike.read (p := Property.email) (by rw [form]; decide) false
    simp only [first, last, email]
  | group =>
    have name := alike.read (p := Property.name) (by rw [form]; decide) false
    simp only [name]

end Variant

/-- Two records in which the properties that a variant writes are the same restore the same, or fail
in the same way. -/
theorem Mapper.restore_of_readAlike {m : Mapper}
    (alike : m.bindings.ReadAlike m.variant.form.properties s i t j) (realm : Option Realm) :
    m.restore realm s i = m.restore realm t j := by
  have shared (p : Property) (among : p ∈ [Property.discriminator, .key, .enabled, .created,
      .expires]) (isRequired : Bool) :=
    alike.read (m.variant.form.shared_mem_properties p among) isRequired
  simp only [restore, shared Property.discriminator (by decide),
    shared Property.enabled (by decide), shared Property.created (by decide),
    shared Property.expires (by decide),
    Variant.restore_of_readAlike alike, Variant.complete_of_readAlike alike]

/-! ## What an overlay leaves -/

/-- Whether a change of a record, made to write some properties, leaves every other record and every
attribute that is read through none of theirs. -/
structure Bindings.LeavesRest (b : Bindings) (ps : List Property) (i : RecordId) (s t : Store) :
    Prop where
  records : ∀ j, j ≠ i → t.record? j = s.record? j
  readings : ∀ attr, (∀ a ∈ s.catalog.readThrough b.identityClass attr, b.Spares ps a) →
    t.get i attr = s.get i attr

variable {q : Record} {es : List (Property × Value)}

theorem Bindings.LeavesRest.of_putAll (es : List (Property × Value))
    (found : s.record? i = some q) (ofClass : q.cls = b.identityClass) :
    b.LeavesRest (es.map Prod.fst) i s (s.modify i (b.putAll es)) where
  records := fun _ ne => Store.record?_modify_of_ne _ (Ne.symm ne)
  readings := by
    intro attr spared
    have change : s.modify i (b.putAll es) =
        s.modify i fun r => { r with values := q.values.insertAll (b.assigned es) } :=
      Store.modify_congr found (b.putAll_eq es q)
    rw [change]
    refine Store.get_of_readsAlike (.modify_values found fun a inBasis => ?_) found
    have kept : (b.putAll es q).value a = q.value a :=
      value_putAll_of_forall_ne fun e among => spared a
        (List.mem_append_left _ (ofClass ▸ inBasis)) e.1 (List.mem_map_of_mem among)
    rw [putAll_eq] at kept
    exact kept

/-! ## Laying a principal over a record -/

/-- What an attribute holds for some properties that are bound to it depends on what was put for
them only. -/
theorem Bindings.exists_put (among : p ∈ es.map Prod.fst)
    (bound : b.properties.find? p = some attr) :
    ∃ e ∈ es, b.properties.find? e.1 = some attr ∧ ∀ r, (b.putAll es r).value attr = e.2 := by
  obtain ⟨e, isEntry, rfl⟩ := List.mem_map.mp among
  have assigned : (attr, e.2) ∈ (b.assigned es).filter fun a => a.1 = attr :=
    List.mem_filter.mpr ⟨List.mem_filterMap.mpr ⟨e, isEntry, by rw [bound]; rfl⟩, by simp⟩
  obtain ⟨⟨attr', x⟩, isLast⟩ := Option.isSome_iff_exists.mp
    (List.getLast?_isSome.mpr (List.ne_nil_of_mem assigned))
  obtain ⟨isAssigned, own⟩ := List.mem_filter.mp (List.mem_of_getLast? isLast)
  obtain rfl : attr' = attr := by simpa using own
  obtain ⟨e', isEntry', given⟩ := List.mem_filterMap.mp isAssigned
  obtain ⟨_, bound', same⟩ := Option.map_eq_some_iff.mp given
  cases same
  refine ⟨e', isEntry', bound', fun r => ?_⟩
  rw [value_putAll_eq, isLast]
  rfl

/-- A plain attribute of a record over which properties were put. -/
theorem Bindings.get_modify_putAll (found : s.record? i = some q)
    (plain : q.cls.isPlain attr = true) :
    (s.modify i (b.putAll es)).get i attr = (b.putAll es q).value attr :=
  Store.get_of_plain (Store.record?_modify_self (b.putAll es) found) (by rwa [putAll_cls])

namespace Registry

variable {q' : Record} {d' : Principal} {resolver : Option RealmResolver} {vs : List Variant}
  {now now' : Time.DateTime} {fields fields' : List (String × Value)}
  {identity attributes : Option RecordClass} {properties : OrderedMap String String}

/-- The mapper of a registered variant lays constructed principals of its kind over records. -/
theorem Coherent.puts_populate {reg : Registry} (coherent : reg.Coherent)
    (accepted : Bindings.create identity attributes properties = .ok reg.bindings)
    (plain : reg.bindings.Plain) (known : reg.variants.find? v.kind = some v) (fits : v.Fits)
    (built : Principal.create now v.kind fields = .ok d) (i : RecordId) :
    reg.bindings.Puts reg.bindings.identityClass i (d.entries v)
      ((reg.mapperOf v).populate none i d) := by
  have constructed := Principal.Constructed.of_create built
  exact Mapper.puts_populate (m := reg.mapperOf v) accepted plain
    (by rw [constructed.kind]; exact coherent.tokenFor known) (constructed.writable fits)

/-- **Writing a principal overlays a record.** Whatever was registered, writing a constructed
principal of a registered kind to identity records always succeeds. In any two of them, in any
stores, an attribute to which some of the properties are bound then holds what was written for one
of these, the same in both; the rest stays as it was; and both restore the same or fail in the same
way. If another principal of the kind was written before, that makes no difference. -/
theorem populate_overlays (accepted : Bindings.create identity attributes properties = .ok b)
    (plain : b.Plain) (known : (enrollAll b resolver vs).variants.find? v.kind = some v)
    (fits : v.Fits) (built : Principal.create now v.kind fields = .ok d)
    (built' : Principal.create now' v.kind fields' = .ok d') (found : s.record? i = some q)
    (ofClass : q.cls = b.identityClass) (found' : t.record? j = some q')
    (ofClass' : q'.cls = b.identityClass) :
    ∃ m s' t', (enrollAll b resolver vs).forKind d.kind = .ok m ∧
      (m.populate none i d).outcome s = (.ok (), s') ∧
      (m.populate none j d).outcome t = (.ok (), t') ∧
      (∀ p ∈ v.form.properties, ∀ attr, b.properties.find? p = some attr →
        ∃ e ∈ d.entries v, b.properties.find? e.1 = some attr ∧
          s'.get i attr = e.2 ∧ t'.get j attr = e.2) ∧
      b.LeavesRest v.form.properties i s s' ∧ b.LeavesRest v.form.properties j t t' ∧
      (∀ realm, m.restore realm s' i = m.restore realm t' j) ∧
      (m.populate none i d' >>= fun _ => m.populate none i d).outcome s = (.ok (), s') := by
  have coherent := coherent_enrollAll b resolver vs
  have bindings := enrollAll_bindings b resolver vs
  generalize enrollAll b resolver vs = reg at known coherent bindings ⊢
  subst bindings
  have mapper : reg.forKind d.kind = .ok (reg.mapperOf v) := by
    rw [(Principal.Constructed.of_create built).kind]
    exact forKind_eq_ok_iff.mpr ⟨v, known, rfl⟩
  have puts := coherent.puts_populate accepted plain known fits built
  have putsBefore := coherent.puts_populate accepted plain known fits built'
  have held : ∀ p ∈ v.form.properties, ∀ attr, reg.bindings.properties.find? p = some attr →
      ∃ e ∈ d.entries v, reg.bindings.properties.find? e.1 = some attr ∧
        (s.modify i (reg.bindings.putAll (d.entries v))).get i attr = e.2 ∧
        (t.modify j (reg.bindings.putAll (d.entries v))).get j attr = e.2 := by
    intro p among attr bound
    obtain ⟨ofIdentities, notRealm⟩ := v.form.properties_spec.2 p among
    have isPlain := plain p ofIdentities notRealm attr bound
    obtain ⟨e, isEntry, isBound, value⟩ := Bindings.exists_put
      (by rwa [Variant.map_fst_entries d v]) bound
    refine ⟨e, isEntry, isBound, ?_, ?_⟩
    · rw [Bindings.get_modify_putAll found (ofClass ▸ isPlain), value]
    · rw [Bindings.get_modify_putAll found' (ofClass' ▸ isPlain), value]
  have alike : reg.bindings.ReadAlike v.form.properties
      (s.modify i (reg.bindings.putAll (d.entries v))) i
      (t.modify j (reg.bindings.putAll (d.entries v))) j := by
    intro p among attr bound
    obtain ⟨e, -, -, here, there⟩ := held p among attr bound
    exact here.trans there.symm
  have leaves := Bindings.LeavesRest.of_putAll (d.entries v) found ofClass
  have leaves' := Bindings.LeavesRest.of_putAll (d.entries v) found' ofClass'
  rw [Variant.map_fst_entries] at leaves leaves'
  refine ⟨reg.mapperOf v, _, _, mapper, puts i s q found ofClass, puts j t q' found' ofClass', held,
    leaves, leaves', Mapper.restore_of_readAlike (m := reg.mapperOf v) alike, ?_⟩
  rw [(putsBefore i).seq (puts i) s q found ofClass, Bindings.putAll_append]
  refine congrArg _ (Store.modify_congr found (Bindings.putAll_putAll ?_ q))
  rw [Variant.map_fst_entries, Variant.map_fst_entries]

end Registry

namespace Standard

/-- An identity record that holds odd values only. -/
def oddIdentity : Record where
  cls := identityClass
  values := .ofList [("first_name", .list []), ("key", .null), ("group_path", .text "/ops")]

/-- The last name is bound to the column of the first name; one record is empty and the other one
holds odd values. -/
theorem populate_overlays_shared_column : ∃ d d',
    Principal.create ⟨.epoch, none⟩ .user [("login_name", .text "zoe"),
      ("first_name", .text "Zoe")] = .ok d ∧
    Principal.create ⟨.epoch, none⟩ .user [("login_name", .text "mia"),
      ("last_name", .text "Lee")] = .ok d' ∧
    let b := bindings.rebind Property.lastName "first_name"
    let s : Store := ⟨catalog, [{ cls := identityClass }, oddIdentity], []⟩
    Bindings.ofLabelsWith (some identityClass) (some attributeClass)
      [(Property.lastName, some "first_name")] = .ok b ∧ b.Plain ∧
    ∃ m t u, (Registry.enrollAll b none Variant.builtins).forKind d.kind = .ok m ∧
      (m.populate none 0 d).outcome s = (.ok (), t) ∧
      (m.populate none 1 d).outcome s = (.ok (), u) ∧
      t.get 0 "first_name" = u.get 1 "first_name" ∧ u.get 1 "group_path" = s.get 1 "group_path" ∧
      (∀ realm, m.restore realm t 0 = m.restore realm u 1) ∧
      (m.populate none 0 d' >>= fun _ => m.populate none 0 d).outcome s = (.ok (), t) := by
  obtain ⟨d, d', built, built'⟩ : ∃ d d',
      Principal.create ⟨.epoch, none⟩ .user [("login_name", .text "zoe"),
        ("first_name", .text "Zoe")] = .ok d ∧
      Principal.create ⟨.epoch, none⟩ .user [("login_name", .text "mia"),
        ("last_name", .text "Lee")] = .ok d' := ⟨_, _, rfl, rfl⟩
  have no_fault : (bindings.rebind Property.lastName "first_name").fault? = none := by
    decide +kernel
  have plain : (bindings.rebind Property.lastName "first_name").Plain := .of_all (by decide)
  have known : (Registry.enrollAll (bindings.rebind Property.lastName "first_name") none
      Variant.builtins).variants.find? Variant.user.kind = some .user := rfl
  obtain ⟨m, t, u, mapper, first, second, held, -, leaves, alike, again⟩ :=
    Registry.populate_overlays (s := ⟨catalog, [{ cls := identityClass }, oddIdentity], []⟩)
      (t := ⟨catalog, [{ cls := identityClass }, oddIdentity], []⟩) (i := 0) (j := 1)
      (Bindings.create_of_fault?_eq_none no_fault) plain known
      (Variant.fits_of_builtin _ (by decide)) built built' rfl rfl rfl rfl
  obtain ⟨e, -, -, here, there⟩ := held Property.firstName (by decide) "first_name" rfl
  refine ⟨d, d', built, built', Bindings.ofLabelsWith_of_labels rfl no_fault, plain, m, t, u,
    mapper, first, second, here.trans there.symm, leaves.readings "group_path" ?_, alike, again⟩
  unfold Bindings.Spares
  decide

/-- A user whose row refers to a realm. -/
def userIn (realm : String) : Record :=
  .ofRow identityClass ⟨[("id", .integer 1), ("discriminator", .text "USER"),
    ("key", .text "USER://zoe"), ("enabled", .integer 1), ("created", .moment noon),
    ("partition_id", .text realm)]⟩

/-- The email address is bound to the reference to the realm, and moves a stored user to another
realm. -/
theorem populate_moves_realm : ∃ d m t,
    let b := bindings.rebind Property.email "partition_id"
    let s : Store := ⟨catalog, [.ofRow realmClass (realmRow ⟨"north", none⟩),
      .ofRow realmClass (realmRow ⟨"south", none⟩), userIn "north"], []⟩
    Bindings.ofLabelsWith (some identityClass) (some attributeClass)
      [(Property.email, some "partition_id")] = .ok b ∧ b.Plain ∧
    Principal.create ⟨.epoch, none⟩ .user [("login_name", .text "zoe"),
      ("email", .text "south")] = .ok d ∧
    (Registry.enrollAll b none Variant.builtins).forKind d.kind = .ok m ∧
    (m.populate none 2 d).outcome s = (.ok (), t) ∧
    b.Spares m.variant.form.properties "partition" ∧
    s.get 2 "partition" = .record 0 ∧ t.get 2 "partition" = .record 1 := by
  have no_fault : (bindings.rebind Property.email "partition_id").fault? = none := by
    decide +kernel
  refine ⟨_, _, _, Bindings.ofLabelsWith_of_labels rfl no_fault, .of_all (by decide), rfl, rfl, rfl,
    ?_, rfl, rfl⟩
  unfold Bindings.Spares
  decide

end Standard

end Principals
