import Principals.Proofs.Mapping.Registry
import Principals.Proofs.Mapping.Writing
import Principals.Proofs.Principal.Keys
import Principals.Proofs.Schema.Standard
import Principals.Proofs.Time.Instant

/-!
# What a mapper restores

The natural identifier of a principal travels only in its key. The key splits at the first
separator, which is the one that the prefix ends at, and the identifier passes the checks of the
constructor unchanged; so an agent, a user or a role comes back under its own name. A group is
constructed anew under the last segment of its path, which need not be a valid name; if it is, the
stored name takes its place afterwards.

* `Principal.recalled`: the principal that a stored one comes back as;
* `Profile.Restorable`: whether a profile can be constructed anew from its key;
* `Principal.Recoverable`: what a principal needs to come back, which a constructed one has exactly
  if its profile is restorable;
* `Mapper.restore_eq_ok`: the steps of restoring, where it succeeds;
* `Mapper.restore_of_holds`, `Mapper.restorable_of_restore`: a record that holds a recoverable
  principal restores it, and one that restores a constructed principal has a restorable profile;
* `Registry.restore_create`: the record that a registry makes of a principal restores it.
-/

namespace Principals

/-! ## What comes back -/

/-- A date-time that counts as UTC where its zone is not known. -/
def Value.orUtc : Value → Value
  | .moment t => .moment t.orUtc
  | v => v

/-- A profile whose optional fields are kept as far as they are bound. -/
def Profile.recalled (b : Bindings) : Profile → Profile
  | .user login first last email =>
    .user login (b.readBack Property.firstName first) (b.readBack Property.lastName last)
      (b.readBack Property.email email)
  | p => p

/-- The principal that a stored one comes back as, in a realm if one is given: date-times without a
zone count as UTC, optional fields come back where they are bound, and attributes are kept apart. -/
def Principal.recalled (b : Bindings) (realm : Option Realm) (d : Principal) : Principal where
  kind := d.kind
  enabled := d.enabled
  createdDate := d.createdDate.orUtc
  expirationDate := b.readBack Property.expires d.expirationDate.orUtc
  partition := (realm.map Value.realm).getD .null
  attributes := .mapping []
  profile := d.profile.recalled b

/-- Whether a profile can be constructed anew from its key. A group is named by its path for that,
and the name must be valid. -/
def Profile.Restorable : Profile → Prop
  | .group name path => ∃ s, readName (Variant.groupName path.plain name) = .ok s
  | _ => True

/-- The profiles to which a record of a built-in kind can be restored. Optional fields of a user and
the name of a group come back as they are stored, whatever that is. -/
inductive Profile.Recoverable : Kind → Profile → Prop
  | agent {login : String} (valid : ValidName login) : Recoverable .agent (.agent (.text login))
  | user {login : String} (valid : ValidName login) (first last email : Value) :
    Recoverable .user (.user (.text login) first last email)
  | group {name : Value} {path found : String} (truthy : name.isTruthy = true)
      (trimmed : Text.trim path = path) (nonempty : path ≠ "")
      (read : readName (Variant.groupName path name) = .ok found) :
    Recoverable .group (.group name (.text path))
  | role {name : String} (valid : ValidName name) : Recoverable .role (.role (.text name))

/-- What a principal of a kind needs to come back from a record that holds it. -/
structure Principal.Recoverable (k : Kind) (d : Principal) : Prop where
  kind : d.kind = k
  enabled : d.enabled.isNull = false
  created : ∃ t, d.createdDate = .moment t
  expires : d.expirationDate = .null ∨ ∃ t, d.expirationDate = .moment t
  profile : Profile.Recoverable k d.profile

/-- A constructed principal whose profile can be constructed anew comes back. -/
theorem Principal.Constructed.recoverable {d : Principal} {v : Variant}
    (constructed : d.Constructed v.kind) (builtin : v ∈ Variant.builtins)
    (restorable : d.profile.Restorable) : d.Recoverable v.kind where
  kind := constructed.kind
  enabled := (constructed.writable (Variant.fits_of_builtin v builtin)).enabled
  created := constructed.created
  expires := constructed.expires
  profile := by
    have profile := constructed.profile
    generalize d.profile = p at restorable profile
    rw [Variant.mem_builtins_iff] at builtin
    rcases builtin with rfl | rfl | rfl | rfl
    · cases profile with
      | agent valid => exact .agent valid
    · cases profile with
      | user valid first last email => exact .user valid _ _ _
    · cases profile with
      | @group name path valid trimmed nonempty =>
        obtain ⟨found, read⟩ : ∃ found,
          Profile.readName (Variant.groupName path (.text name)) = .ok found := restorable
        exact .group (by simp [Value.isTruthy, valid.nonempty]) trimmed nonempty read
    · cases profile with
      | role valid => exact .role valid

theorem Profile.Recoverable.identifier_ne_empty {k : Kind} {p : Profile}
    (recoverable : p.Recoverable k) : p.identifier.plain ≠ "" := by
  cases recoverable with
  | agent valid => exact valid.nonempty
  | user valid => exact valid.nonempty
  | group _ _ nonempty _ => exact nonempty
  | role valid => exact valid.nonempty

theorem Profile.identifier_recalled (b : Bindings) (p : Profile) :
    (p.recalled b).identifier = p.identifier := by
  cases p <;> rfl

theorem Principal.identifier_recalled (b : Bindings) (realm : Option Realm) (d : Principal) :
    (d.recalled b realm).identifier = d.identifier := Profile.identifier_recalled b d.profile

theorem Principal.key_recalled (b : Bindings) (realm : Option Realm) (d : Principal) :
    (d.recalled b realm).key = d.key := by
  rw [Principal.key, identifier_recalled]
  rfl

/-! ## The steps of restoring -/

variable {b : Bindings} {s : Store} {id : RecordId} {d : Principal}

namespace Variant

/-- A key that was composed under a prefix without a separator gives its identifier to that prefix,
and is refused under any other. -/
theorem readIdentifier_of_composed {keyPrefix found identifier : String}
    (read : b.read s id Property.key true = .ok (.text (IdentityKey.compose found identifier)))
    (free : IdentityKey.splitFirst found.toList = none) (prefixed : found ≠ "")
    (identified : identifier ≠ "") :
    readIdentifier b s id keyPrefix = if found = keyPrefix then .ok identifier
      else .error (.integrity (.keyMismatch (IdentityKey.compose found identifier) keyPrefix)) := by
  have parsed : IdentityKey.parseValue (.text (IdentityKey.compose found identifier)) =
      .ok (found, identifier) := IdentityKey.parse_compose free prefixed identified
  simp only [readIdentifier, read, ok_bind, parsed]
  rfl

theorem readIdentifier_of_key {keyPrefix identifier : String}
    (read : b.read s id Property.key true = .ok (.text (IdentityKey.compose keyPrefix identifier)))
    (free : IdentityKey.splitFirst keyPrefix.toList = none) (prefixed : keyPrefix ≠ "")
    (identified : identifier ≠ "") :
    readIdentifier b s id keyPrefix = .ok identifier := by
  rw [readIdentifier_of_composed read free prefixed identified, if_pos rfl]

section
variable {v : Variant}

/-- An agent or a user is constructed from the identifier in its key, under the variant's kind. -/
theorem restore_of_login (form : v.form = .agent ∨ v.form = .user) {login : String} {bare : Profile}
    (identifier : readIdentifier b s id v.kind.keyPrefix = .ok login)
    (made : Profile.create v.kind [(Profile.Field.loginName.label, .text login)] = .ok bare) :
    v.restore b s id = .ok (v.kind, bare) := by
  unfold restore
  rcases form with form | form <;>
    simp only [form, identifier, made, bind, Except.bind]

/-- What restoring a group constructs from its key and its stored name. -/
theorem restore_of_path (form : v.form = .group) {stored : Value} {path : String}
    (identifier : readIdentifier b s id Kind.group.keyPrefix = .ok path)
    (readStored : b.read s id Property.name false = .ok stored) :
    v.restore b s id = (Profile.create .group
      [(Profile.Field.label .name, groupName path stored),
        (Profile.Field.label .path, .text path)]).map fun p => (.group, p) := by
  simp only [restore, form, identifier, readStored, bind, Except.bind]
  cases Profile.create .group [(Profile.Field.label .name, groupName path stored),
    (Profile.Field.label .path, .text path)] <;> rfl

theorem restore_of_name (form : v.form = .role) {name : String}
    (identifier : readIdentifier b s id Kind.role.keyPrefix = .ok name)
    (valid : Profile.ValidName name) :
    v.restore b s id = .ok (.role, .role (.text name)) := by
  have profile := Profile.create_role valid
  simp only [restore, form, identifier, profile, bind, Except.bind]

theorem complete_of_bare (form : v.form = .agent ∨ v.form = .role) :
    v.complete b s id d = .ok d := by
  unfold complete
  rcases form with form | form <;> simp only [form]

theorem complete_user (form : v.form = .user) {login f l e first last email : Value}
    (profile : d.profile = .user login f l e)
    (readFirst : b.read s id Property.firstName false = .ok first)
    (readLast : b.read s id Property.lastName false = .ok last)
    (readEmail : b.read s id Property.email false = .ok email) :
    v.complete b s id d = .ok { d with profile := .user login first last email } := by
  simp only [complete, form, readFirst, readLast, readEmail, Principal.setProfile, profile,
    Profile.set?, bind, Except.bind]

theorem complete_group (form : v.form = .group) {name bare path : Value}
    (truthy : name.isTruthy = true) (profile : d.profile = .group bare path)
    (readName : b.read s id Property.name false = .ok name) :
    v.complete b s id d = .ok { d with profile := .group name path } := by
  simp only [complete, form, readName, truthy, if_true, Principal.setProfile, profile,
    Profile.set?, bind, Except.bind]

end

/-- The key of a principal of a built-in kind gives its identifier back. -/
theorem readIdentifier_of_builtin {v : Variant} (builtin : v ∈ builtins) (ofKind : d.kind = v.kind)
    (readKey : b.read s id Property.key true = .ok (.text d.key))
    (identified : d.profile.identifier.plain ≠ "") :
    readIdentifier b s id v.kind.keyPrefix = .ok d.profile.identifier.plain := by
  obtain ⟨free, prefixed⟩ := keyPrefix_of_builtin v builtin
  rw [Principal.key, ofKind] at readKey
  exact readIdentifier_of_key readKey free prefixed identified

/-- The key of a recoverable principal gives a bare profile, which the stored fields complete to the
one that was written. -/
theorem restore_recoverable {v : Variant} (builtin : v ∈ builtins)
    (named : v = group → b.isBound Property.name = true) (recoverable : d.Recoverable v.kind)
    (readKey : b.read s id Property.key true = .ok (.text d.key))
    (reads : ∀ e ∈ d.profileEntries v.form.written,
      b.read s id e.1 false = .ok (b.readBack e.1 e.2)) :
    ∃ bare, v.restore b s id = .ok (v.kind, bare) ∧
      ∀ e : Principal, e.profile = bare →
        v.complete b s id e = .ok { e with profile := d.profile.recalled b } := by
  have profile := recoverable.profile
  have identifier := readIdentifier_of_builtin builtin recoverable.kind readKey
    profile.identifier_ne_empty
  unfold Principal.profileEntries at reads
  generalize d.profile = p at identifier reads profile
  rw [mem_builtins_iff] at builtin
  rcases builtin with rfl | rfl | rfl | rfl
  · cases profile with
    | @agent login valid =>
      refine ⟨_, restore_of_login (v := agent) (.inl rfl) identifier
        (Profile.create_agent rfl valid), fun e bare => ?_⟩
      rw [complete_of_bare (.inl rfl)]
      change Except.ok e = .ok { e with profile := .agent (.text login) }
      rw [← bare]
  · cases profile with
    | user valid first last email =>
      simp only [Form.written, user, List.map_cons, List.map_nil, List.forall_mem_cons,
        Profile.get?, Option.getD_some] at reads
      obtain ⟨-, readFirst, readLast, readEmail, -⟩ := reads
      exact ⟨_, restore_of_login (v := user) (.inr rfl) identifier (Profile.create_user rfl valid),
        fun e bare => complete_user rfl bare readFirst readLast readEmail⟩
  · cases profile with
    | @group name path found truthy trimmed nonempty read =>
      simp only [Form.written, group, List.map_cons, List.map_nil, List.forall_mem_cons,
        Profile.get?, Option.getD_some] at reads
      obtain ⟨readStored, -⟩ := reads
      rw [Bindings.readBack, named rfl, if_pos rfl] at readStored
      rw [Profile.identifier, Value.plain_text] at identifier
      have restored := restore_of_path (v := group) rfl identifier readStored
      rw [Profile.create_group read (trimmed.symm ▸ nonempty), trimmed] at restored
      exact ⟨_, restored, fun e bare => complete_group rfl truthy bare readStored⟩
  · cases profile with
    | @role name valid =>
      rw [Profile.identifier, Value.plain_text] at identifier
      refine ⟨_, restore_of_name (v := role) rfl identifier valid, fun e bare => ?_⟩
      rw [complete_of_bare (.inr rfl)]
      change Except.ok e = .ok { e with profile := .role (.text name) }
      rw [← bare]

/-- A constructed profile that its key gives again is restorable. -/
theorem restorable_of_restore {v : Variant} {result : Kind × Profile} (builtin : v ∈ builtins)
    (named : v = group → b.isBound Property.name = true) (constructed : d.Constructed v.kind)
    (readKey : b.read s id Property.key true = .ok (.text d.key))
    (reads : ∀ e ∈ d.profileEntries v.form.written,
      b.read s id e.1 false = .ok (b.readBack e.1 e.2))
    (restored : v.restore b s id = .ok result) : d.profile.Restorable := by
  have profile := constructed.profile
  have identifier := readIdentifier_of_builtin builtin constructed.kind readKey
    constructed.identifier_spec.2.1
  unfold Principal.profileEntries at reads
  generalize d.profile = p at identifier reads profile
  rw [mem_builtins_iff] at builtin
  rcases builtin with rfl | rfl | rfl | rfl
  · cases profile
    trivial
  · cases profile
    trivial
  · cases profile with
    | @group name path valid trimmed nonempty =>
      simp only [Form.written, group, List.map_cons, List.map_nil, List.forall_mem_cons,
        Profile.get?, Option.getD_some] at reads
      have readStored := reads.1
      rw [Bindings.readBack, named rfl, if_pos rfl] at readStored
      rw [restore_of_path rfl identifier readStored] at restored
      obtain ⟨p, made, -⟩ := map_eq_ok.mp restored
      exact Profile.readName_of_create_group made
  · cases profile
    trivial

end Variant

namespace Mapper

/-- Restoring, when every value can be read and the profile can be restored and completed. -/
theorem restore_of_steps {m : Mapper} {realm : Option Realm} {kind : Kind} {profile : Profile}
    {enabled created created' expires expires' : Value}
    (token : m.bindings.read s id Property.discriminator true =
      .ok (.text m.variant.discriminator))
    (restored : m.variant.restore m.bindings s id = .ok (kind, profile))
    (readEnabled : m.bindings.read s id Property.enabled true = .ok enabled)
    (readCreated : m.bindings.read s id Property.created true = .ok created)
    (createdUtc : asUtc created = .ok created')
    (readExpires : m.bindings.read s id Property.expires false = .ok expires)
    (expiresUtc : asUtc expires = .ok expires')
    (completed : m.variant.complete m.bindings s id
      { kind, enabled, createdDate := created', expirationDate := expires', partition := .null,
        attributes := .mapping [], profile } = .ok d) :
    m.restore realm s id = .ok (match realm with
      | some r => { d with partition := .realm r }
      | none => d) := by
  cases realm <;>
    simp only [restore, token, restored, readEnabled, readCreated, createdUtc, readExpires,
      expiresUtc, completed, bind, Except.bind, ne_eq, not_true_eq_false, if_false]

/-- The steps of restoring, where it succeeds. -/
theorem restore_eq_ok {m : Mapper} {realm : Option Realm} (restored : m.restore realm s id = .ok d) :
    ∃ kind bare enabled created expires e,
      m.bindings.read s id Property.discriminator true = .ok (.text m.variant.discriminator) ∧
      m.variant.restore m.bindings s id = .ok (kind, bare) ∧
      m.bindings.read s id Property.enabled true = .ok enabled ∧
      (∃ v, m.bindings.read s id Property.created true = .ok v ∧ asUtc v = .ok created) ∧
      (∃ v, m.bindings.read s id Property.expires false = .ok v ∧ asUtc v = .ok expires) ∧
      m.variant.complete m.bindings s id
        { kind, enabled, createdDate := created, expirationDate := expires, partition := .null,
          attributes := .mapping [], profile := bare } = .ok e ∧
      d = { e with partition := (realm.map Value.realm).getD e.partition } := by
  obtain ⟨token, readToken, restored⟩ := bind_eq_ok.mp restored
  by_cases own : token = .text m.variant.discriminator
  · rw [if_neg (not_not_intro own)] at restored
    obtain ⟨⟨kind, bare⟩, profile, restored⟩ := bind_eq_ok.mp restored
    obtain ⟨enabled, readEnabled, restored⟩ := bind_eq_ok.mp restored
    obtain ⟨v, readCreated, restored⟩ := bind_eq_ok.mp restored
    obtain ⟨created, createdUtc, restored⟩ := bind_eq_ok.mp restored
    obtain ⟨w, readExpires, restored⟩ := bind_eq_ok.mp restored
    obtain ⟨expires, expiresUtc, restored⟩ := bind_eq_ok.mp restored
    obtain ⟨e, completed, eq⟩ := bind_eq_ok.mp restored
    cases eq
    exact ⟨kind, bare, enabled, created, expires, e, own ▸ readToken, profile, readEnabled,
      ⟨v, readCreated, createdUtc⟩, ⟨w, readExpires, expiresUtc⟩, completed, by cases realm <;> rfl⟩
  · rw [if_pos own] at restored
    cases restored

theorem asUtc_eq_ok {v w : Value} (utc : asUtc v = .ok w) :
    v = .null ∧ w = .null ∨ ∃ t, v = .moment t ∧ w = .moment t.orUtc := by
  cases v with
  | null =>
    cases utc
    exact .inl ⟨rfl, rfl⟩
  | moment t =>
    cases utc
    exact .inr ⟨t, rfl, rfl⟩
  | _ => cases utc

theorem asUtc_orUtc {v : Value} (dated : v = .null ∨ ∃ t, v = .moment t) :
    asUtc v = .ok v.orUtc := by
  rcases dated with rfl | ⟨t, rfl⟩ <;> rfl

theorem orUtc_readBack (p : Property) (v : Value) :
    (b.readBack p v).orUtc = b.readBack p v.orUtc := by
  unfold Bindings.readBack
  split <;> rfl

variable {m : Mapper} {identity attributes : Option RecordClass}
  {properties : OrderedMap String String}

/-- What is read of a record that holds a constructed principal. -/
theorem read_of_holds (separate : m.bindings.Separate)
    (holds : m.bindings.Holds s id (d.entries m.variant)) {p : Property} {v : Value}
    {isRequired : Bool} (among : (p, v) ∈ d.entries m.variant)
    (meets : m.bindings.Meets p v isRequired) :
    m.bindings.read s id p isRequired = .ok (m.bindings.readBack p v) := by
  have written : p ∈ m.variant.form.properties := by
    rw [← Variant.map_fst_entries d m.variant]
    exact List.mem_map_of_mem among
  obtain ⟨ofIdentities, notRealm⟩ := m.variant.form.properties_spec.2 p written
  exact holds.read among (separate.plain p ofIdentities notRealm) meets

/-- The required fields of a record that holds a constructed principal read as themselves. -/
theorem read_shared_of_holds
    (accepted : Bindings.create identity attributes properties = .ok m.bindings)
    (separate : m.bindings.Separate) (holds : m.bindings.Holds s id (d.entries m.variant))
    {p : Property} {v : Value} (required : p ∈ Property.required)
    (among : (p, v) ∈ d.sharedEntries (.text m.variant.discriminator)) (given : v.isNull = false) :
    m.bindings.read s id p true = .ok v := by
  obtain ⟨attr, bound⟩ := Bindings.find?_of_create accepted required
  rw [read_of_holds separate holds (List.mem_append_left _ among)
    (Bindings.meets_required accepted required given), Bindings.readBack_of_bound bound]

theorem read_profile_of_holds (separate : m.bindings.Separate)
    (holds : m.bindings.Holds s id (d.entries m.variant)) :
    ∀ e ∈ d.profileEntries m.variant.form.written,
      m.bindings.read s id e.1 false = .ok (m.bindings.readBack e.1 e.2) := fun _ among =>
  read_of_holds separate holds (List.mem_append_right _ among) (Bindings.meets_optional _ _ _)

/-- The shared fields of a record that holds a principal with dates are read as they are, whatever
profile the record gives. -/
theorem restore_of_profile
    (accepted : Bindings.create identity attributes properties = .ok m.bindings)
    (separate : m.bindings.Separate) (enabled : d.enabled.isNull = false)
    (created : ∃ t, d.createdDate = .moment t)
    (expires : d.expirationDate = .null ∨ ∃ t, d.expirationDate = .moment t)
    (holds : m.bindings.Holds s id (d.entries m.variant)) {kind : Kind} {bare : Profile}
    (restored : m.variant.restore m.bindings s id = .ok (kind, bare)) {e : Principal}
    (completed : m.variant.complete m.bindings s id
      { kind, enabled := d.enabled, createdDate := d.createdDate.orUtc,
        expirationDate := m.bindings.readBack Property.expires d.expirationDate.orUtc,
        partition := .null, attributes := .mapping [], profile := bare } = .ok e)
    (realm : Option Realm) :
    m.restore realm s id = .ok (match realm with
      | some r => { e with partition := .realm r }
      | none => e) := by
  obtain ⟨t, isCreated⟩ := created
  have token := read_shared_of_holds (p := Property.discriminator)
    (v := .text m.variant.discriminator) accepted separate holds (by decide)
    (by simp [Principal.sharedEntries]) rfl
  have readEnabled := read_shared_of_holds (p := Property.enabled) (v := d.enabled) accepted
    separate holds (by decide) (by simp [Principal.sharedEntries]) enabled
  have readCreated := read_shared_of_holds (p := Property.created) (v := d.createdDate) accepted
    separate holds (by decide) (by simp [Principal.sharedEntries]) (by rw [isCreated]; rfl)
  have readExpires := read_of_holds (p := Property.expires) (v := d.expirationDate) separate holds
    (by simp [Principal.entries, Principal.sharedEntries]) (Bindings.meets_optional _ _ _)
  have expiresUtc : asUtc (m.bindings.readBack Property.expires d.expirationDate) =
      .ok (m.bindings.readBack Property.expires d.expirationDate.orUtc) := by
    rw [← orUtc_readBack]
    refine asUtc_orUtc ?_
    unfold Bindings.readBack
    split
    · exact expires
    · exact .inl rfl
  exact restore_of_steps token restored readEnabled readCreated
    (asUtc_orUtc (.inr ⟨t, isCreated⟩)) readExpires expiresUtc completed

/-- The key of a record that holds a principal. -/
theorem read_key_of_holds
    (accepted : Bindings.create identity attributes properties = .ok m.bindings)
    (separate : m.bindings.Separate) (holds : m.bindings.Holds s id (d.entries m.variant)) :
    m.bindings.read s id Property.key true = .ok (.text d.key) :=
  read_shared_of_holds accepted separate holds (by decide) (by simp [Principal.sharedEntries]) rfl

/-- A record that holds a recoverable principal restores it. -/
theorem restore_of_holds
    (accepted : Bindings.create identity attributes properties = .ok m.bindings)
    (separate : m.bindings.Separate) (builtin : m.variant ∈ Variant.builtins)
    (named : m.variant = .group → m.bindings.isBound Property.name = true)
    (recoverable : d.Recoverable m.variant.kind)
    (holds : m.bindings.Holds s id (d.entries m.variant)) (realm : Option Realm) :
    m.restore realm s id = .ok (d.recalled m.bindings realm) := by
  obtain ⟨bare, restored, completes⟩ := Variant.restore_recoverable builtin named recoverable
    (read_key_of_holds accepted separate holds) (read_profile_of_holds separate holds)
  refine (restore_of_profile accepted separate recoverable.enabled recoverable.created
    recoverable.expires holds restored (completes _ rfl) realm).trans ?_
  rw [Principal.recalled, recoverable.kind]
  cases realm <;> rfl

/-- A record that holds a constructed principal and restores anything has a restorable profile. -/
theorem restorable_of_restore
    (accepted : Bindings.create identity attributes properties = .ok m.bindings)
    (separate : m.bindings.Separate) (builtin : m.variant ∈ Variant.builtins)
    (named : m.variant = .group → m.bindings.isBound Property.name = true)
    (constructed : d.Constructed m.variant.kind)
    (holds : m.bindings.Holds s id (d.entries m.variant)) {realm : Option Realm} {e : Principal}
    (restored : m.restore realm s id = .ok e) : d.profile.Restorable := by
  have token := read_shared_of_holds (p := Property.discriminator)
    (v := .text m.variant.discriminator) accepted separate holds (by decide)
    (by simp [Principal.sharedEntries]) rfl
  have profiles : ∃ result, m.variant.restore m.bindings s id = .ok result := by
    rw [restore] at restored
    simp only [token, ne_eq] at restored
    cases given : m.variant.restore m.bindings s id with
    | ok result => exact ⟨result, rfl⟩
    | error f =>
      simp only [given, bind, Except.bind] at restored
      cases restored
  obtain ⟨result, given⟩ := profiles
  exact Variant.restorable_of_restore builtin named constructed
    (read_key_of_holds accepted separate holds) (read_profile_of_holds separate holds) given

end Mapper

/-! ## The registry -/

namespace Registry

variable {resolver : Option RealmResolver} {reg : Registry} {realm : Option Realm}
  {identity attributes : Option RecordClass} {properties : OrderedMap String String}
  {now : Time.DateTime} {kind : Kind} {fields : List (String × Value)}

/-- A record with the discriminator of a built-in variant is restored by its mapper. -/
theorem ServesBuiltins.restore_of_token {v : Variant} (serves : reg.ServesBuiltins b resolver)
    (builtin : v ∈ Variant.builtins)
    (token : b.read s id Property.discriminator true = .ok (.text v.discriminator)) :
    reg.restore realm s id =
      (Mapper.mk v b reg.discriminators resolver).restore realm s id := by
  simp only [restore, forRecord, serves.bindings, token, serves.kind v builtin,
    serves.forKind builtin, bind, Except.bind]

/-- A record that holds a principal of a built-in kind is restored by the mapper of that kind. -/
theorem ServesBuiltins.restore_eq {v : Variant} (serves : reg.ServesBuiltins b resolver)
    (accepted : Bindings.create identity attributes properties = .ok b) (separate : b.Separate)
    (builtin : v ∈ Variant.builtins) (holds : b.Holds s id (d.entries v)) :
    reg.restore realm s id =
      (Mapper.mk v b reg.discriminators resolver).restore realm s id :=
  serves.restore_of_token builtin (Mapper.read_shared_of_holds
    (m := ⟨v, b, reg.discriminators, resolver⟩) accepted separate holds (by decide)
    (by simp [Principal.sharedEntries]) rfl)

/-- The record that a registry of the built-in variants makes of an agent, a user or a role that a
constructor gave restores it: of the same kind, under the same key and natural identifier, with
everything else as `Principal.recalled` has it. The realm is none or one that the resolver finds. -/
theorem restore_create (accepted : Bindings.create identity attributes properties = .ok b)
    (separate : b.Separate) (constructible : b.identityClass.unconstructible = none)
    (registered : withBuiltins b resolver = .ok reg)
    (among : kind = .agent ∨ kind = .user ∨ kind = .role)
    (built : Principal.create now kind fields = .ok d)
    (reaches : ∀ r ∈ realm, ∃ x, resolver = some x ∧ x.Finds b s r) :
    ∃ id s', (reg.create realm d).outcome s = (.ok id, s') ∧
      reg.restore realm s' id = .ok (d.recalled b realm) ∧
      (d.recalled b realm).key = d.key ∧ (d.recalled b realm).identifier = d.identifier := by
  have serves := ServesBuiltins.of_withBuiltins registered
  obtain ⟨v, builtin, ofKind, notGroup⟩ :
      ∃ v ∈ Variant.builtins, v.kind = kind ∧ v ≠ .group := by
    rcases among with rfl | rfl | rfl
    · exact ⟨.agent, by decide, rfl, by decide⟩
    · exact ⟨.user, by decide, rfl, by decide⟩
    · exact ⟨.role, by decide, rfl, by decide⟩
  subst ofKind
  have constructed := Principal.Constructed.of_create built
  have restorable : d.profile.Restorable := by
    have profile := constructed.profile
    generalize d.profile = p at profile
    rcases among with agent | user | role
    all_goals
      first | rw [agent] at profile | rw [user] at profile | rw [role] at profile
      cases profile
      trivial
  have chosen := serves.forKind builtin
  have token := serves.token v builtin
  obtain ⟨s', made, holds⟩ := Mapper.outcome_create
    (m := ⟨v, b, reg.discriminators, resolver⟩) (s := s) accepted separate
    (Variant.fits_of_builtin v builtin) (by rw [constructed.kind]; exact token) constructible
    constructed reaches
  refine ⟨s.records.length, s', ?_, ?_, d.key_recalled b realm, d.identifier_recalled b realm⟩
  · rw [create, StoreM.outcome_bind_ok (by rw [StoreM.outcome_lift, constructed.kind, chosen])]
    exact made
  · rw [serves.restore_eq accepted separate builtin holds]
    exact Mapper.restore_of_holds (m := ⟨v, b, reg.discriminators, resolver⟩) accepted separate
      builtin (fun group => absurd group notGroup) (constructed.recoverable builtin restorable)
      holds realm

/-- A user whose login holds the separator, kept in a stored realm. -/
theorem restore_create_user : ∃ reg d, withBuiltins Standard.bindings (some .stored) = .ok reg ∧
    Principal.create ⟨.epoch, none⟩ .user
      [("login_name", .text "ldap://dave"), ("email", .text "d@x")] = .ok d ∧
    ∃ id s', (reg.create (some ⟨"r", none⟩) d).outcome
        ⟨Standard.catalog, [.ofRow Standard.realmClass ⟨[("id", .text "r")]⟩], []⟩ = (.ok id, s') ∧
      reg.restore (some ⟨"r", none⟩) s' id =
        .ok (d.recalled Standard.bindings (some ⟨"r", none⟩)) ∧
      (d.recalled Standard.bindings (some ⟨"r", none⟩)).key = d.key ∧
      (d.recalled Standard.bindings (some ⟨"r", none⟩)).identifier = d.identifier := by
  obtain ⟨reg, registered⟩ : ∃ reg, withBuiltins Standard.bindings (some .stored) = .ok reg :=
    ⟨_, rfl⟩
  obtain ⟨d, built⟩ : ∃ d, Principal.create ⟨.epoch, none⟩ .user
    [("login_name", .text "ldap://dave"), ("email", .text "d@x")] = .ok d := ⟨_, rfl⟩
  refine ⟨reg, d, registered, built, ?_⟩
  refine restore_create Standard.create_standard Standard.bindings_separate rfl registered
    (.inr (.inl rfl)) built ?_
  intro r given
  cases given
  exact ⟨.stored, rfl, rfl⟩

end Registry

end Principals
