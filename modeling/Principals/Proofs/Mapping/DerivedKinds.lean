import Principals.Proofs.Mapping.GroupName
import Principals.Proofs.Mapping.Registrations
import Principals.Proofs.Mapping.Restoring

/-!
# Kinds derived from the built-in ones

A variant may give its form to a kind that is derived from the form's own. Agents and users are then
constructed anew under the kind of the variant, from keys with the prefix of that kind. Groups and
roles are not: what comes back is a plain group or role, and only from a key with the prefix of
these. So the record of a derived agent or user restores it, while that of a derived group or role
comes back as a plain one if the prefix is inherited, and not at all if it is not.

* `Variant.restoredKind`, `Mapper.kind_of_restore`: the kind under which principals come back;
* `Variant.rebuilds_of_constructed`: a key under the right one gives the principal back;
* `Mapper.restore_of_holds_constructed`: what the key decides;
* `Registry.restore_create_derived`: which derived principals come back as what they are.
-/

namespace Principals

variable {b : Bindings} {s : Store} {id : RecordId} {d e : Principal} {v : Variant} {kind : Kind}
  {bare : Profile}

namespace Variant

/-- The kind under which a variant restores principals. -/
def restoredKind (v : Variant) : Kind :=
  match v.form with
  | .agent | .user => v.kind
  | .group => .group
  | .role => .role

theorem eq_restoredKind_iff : v.kind = v.restoredKind ↔
    v.form = .agent ∨ v.form = .user ∨ v.kind = v.form.kind := by
  cases form : v.form <;> simp [restoredKind, form, Form.kind]

theorem kind_of_restore (restored : v.restore b s id = .ok (kind, bare)) :
    kind = v.restoredKind := by
  unfold restore at restored
  unfold restoredKind
  cases form : v.form
  all_goals
    simp only [form] at restored ⊢
    obtain ⟨_, -, restored⟩ := bind_eq_ok.mp restored
    obtain ⟨_, -, restored⟩ := bind_eq_ok.mp restored
  case group =>
    obtain ⟨_, -, restored⟩ := bind_eq_ok.mp restored
    cases restored
    rfl
  all_goals
    cases restored
    rfl

/-- Setting a field of the profile leaves the kind. -/
theorem kind_of_setProfile {f : Profile.Field} {x : Value} (set : d.setProfile f x = .ok e) :
    e.kind = d.kind := by
  unfold Principal.setProfile at set
  split at set
  · cases set
    rfl
  · cases set

theorem kind_of_complete (completed : v.complete b s id d = .ok e) : e.kind = d.kind := by
  unfold complete at completed
  cases form : v.form
  all_goals simp only [form] at completed
  case agent | role =>
    cases completed
    rfl
  case user =>
    obtain ⟨_, -, completed⟩ := bind_eq_ok.mp completed
    obtain ⟨_, first, completed⟩ := bind_eq_ok.mp completed
    obtain ⟨_, -, completed⟩ := bind_eq_ok.mp completed
    obtain ⟨_, last, completed⟩ := bind_eq_ok.mp completed
    obtain ⟨_, -, email⟩ := bind_eq_ok.mp completed
    rw [kind_of_setProfile email, kind_of_setProfile last, kind_of_setProfile first]
  case group =>
    obtain ⟨_, -, completed⟩ := bind_eq_ok.mp completed
    split at completed
    · exact kind_of_setProfile completed
    · cases completed
      rfl

/-! ## What the key decides -/

/-- Every form looks at the key first. -/
theorem restore_of_readIdentifier_error {f : Failure}
    (refused : readIdentifier b s id v.restoredKind.keyPrefix = .error f) :
    v.restore b s id = .error f := by
  unfold restoredKind at refused
  unfold restore
  cases form : v.form
  all_goals
    simp only [form] at refused ⊢
    rw [refused]
    rfl

/-! ## What comes back -/

/-- The last segment of a path of one segment. -/
theorem lastSegment_of_slash {name : String} (solid : '/' ∉ name.toList) (named : name ≠ "") :
    lastSegment ("/" ++ name) = name := by
  have split : Path.Split ("/" ++ name).toList ['/'] name.toList [] :=
    { whole := by simp
      frontEnds := .inr ⟨[], rfl⟩
      solid := fun c among same => solid (same ▸ among)
      nonempty := by simpa using named
      onlySlashes := List.forall_mem_nil _ }
  exact String.toList_injective split.lastSegment_eq

/-- Whether a record gives a principal of a kind with some natural identifier, whatever its shared
fields are. -/
def Rebuilds (v : Variant) (b : Bindings) (s : Store) (id : RecordId) (kind : Kind)
    (identifier : Value) : Prop :=
  ∃ bare, v.restore b s id = .ok (kind, bare) ∧ ∀ e : Principal, e.profile = bare →
    ∃ e', v.complete b s id e = .ok e' ∧ e'.identifier = identifier

section
variable {name : String}

theorem rebuilds_agent (form : v.form = .agent)
    (stem : v.kind.stem = .agent ∨ v.kind.stem = .user) (valid : Profile.ValidName name)
    (identifier : readIdentifier b s id v.kind.keyPrefix = .ok name) :
    v.Rebuilds b s id v.kind (.text name) := by
  have completes : ∀ e : Principal, v.complete b s id e = .ok e := fun _ =>
    complete_of_bare (.inl form)
  rcases stem with stem | stem
  · refine ⟨_, restore_of_login (.inl form) identifier (Profile.create_agent stem valid), ?_⟩
    exact fun e bare => ⟨e, completes e, by rw [Principal.identifier, bare]; rfl⟩
  · refine ⟨_, restore_of_login (.inl form) identifier (Profile.create_user stem valid), ?_⟩
    exact fun e bare => ⟨e, completes e, by rw [Principal.identifier, bare]; rfl⟩

theorem rebuilds_user (form : v.form = .user) (stem : v.kind.stem = .user)
    (valid : Profile.ValidName name)
    (identifier : readIdentifier b s id v.kind.keyPrefix = .ok name) {first last email : Value}
    (readFirst : b.read s id Property.firstName false = .ok first)
    (readLast : b.read s id Property.lastName false = .ok last)
    (readEmail : b.read s id Property.email false = .ok email) :
    v.Rebuilds b s id v.kind (.text name) := by
  refine ⟨_, restore_of_login (.inr form) identifier (Profile.create_user stem valid), ?_⟩
  exact fun e bare => ⟨_, complete_user form bare readFirst readLast readEmail, rfl⟩

/-- A group of one segment is named by it, and then by the stored name if there is one. -/
theorem rebuilds_group (form : v.form = .group) (valid : Profile.ValidName name)
    (solid : '/' ∉ name.toList) (trimmed : Text.trim ("/" ++ name) = "/" ++ name)
    (identifier : readIdentifier b s id Kind.group.keyPrefix = .ok ("/" ++ name)) {stored : Value}
    (readStored : b.read s id Property.name false = .ok stored) :
    v.Rebuilds b s id .group (.text ("/" ++ name)) := by
  have segment := lastSegment_of_slash solid valid.nonempty
  have named : Profile.readName (groupName ("/" ++ name) stored) = .ok name := by
    rw [groupName, segment, if_pos valid.nonempty]
    exact valid
  have nonempty : "/" ++ name ≠ "" := by simp
  have restored := restore_of_path form identifier readStored
  rw [Profile.create_group named (trimmed.symm ▸ nonempty), trimmed] at restored
  refine ⟨_, restored, fun e bare => ?_⟩
  by_cases truthy : stored.isTruthy = true
  · exact ⟨_, complete_group form truthy bare readStored, rfl⟩
  · refine ⟨e, ?_, by rw [Principal.identifier, bare]; rfl⟩
    simp only [complete, form, readStored, ok_bind, if_neg truthy]

theorem rebuilds_role (form : v.form = .role) (valid : Profile.ValidName name)
    (identifier : readIdentifier b s id Kind.role.keyPrefix = .ok name) :
    v.Rebuilds b s id .role (.text name) := by
  refine ⟨_, restore_of_name form identifier valid, fun e bare => ?_⟩
  exact ⟨e, complete_of_bare (.inr form), by rw [Principal.identifier, bare]; rfl⟩

end

end Variant

/-- Whether a group stands at the path that it has by default, which its name alone makes up. -/
def Profile.TopLevel : Profile → Prop
  | .group name path => ∃ s : String, name = .text s ∧ path = .text ("/" ++ s) ∧ '/' ∉ s.toList
  | _ => True

namespace Variant

/-- Where the identifier of a constructed principal can be read from the key, it comes back under
the kind that the variant restores. -/
theorem rebuilds_of_constructed (fits : v.Fits) (constructed : d.Constructed v.kind)
    (topLevel : d.profile.TopLevel)
    (identifier : readIdentifier b s id v.restoredKind.keyPrefix = .ok d.identifier.plain)
    (reads : ∀ e ∈ d.profileEntries v.form.written, ∃ x, b.read s id e.1 false = .ok x) :
    v.Rebuilds b s id v.restoredKind d.identifier := by
  have profile := constructed.profile
  have suits := fits.stem
  unfold Principal.identifier at identifier ⊢
  unfold Principal.profileEntries at reads
  generalize d.profile = p at identifier reads profile topLevel ⊢
  cases form : v.form with
  | agent =>
    rw [form] at suits
    have own : v.restoredKind = v.kind := by rw [restoredKind, form]
    rw [own] at identifier ⊢
    have stem : v.kind.stem = .agent ∨ v.kind.stem = .user := suits.imp_right And.right
    rcases stem with isAgent | isUser
    · rw [isAgent] at profile
      cases profile with
      | agent valid => exact rebuilds_agent form (.inl isAgent) valid identifier
    · rw [isUser] at profile
      cases profile with
      | user valid _ _ _ => exact rebuilds_agent form (.inr isUser) valid identifier
  | user =>
    have stem := suits.resolve_right (by simp [form])
    rw [form] at stem
    have own : v.restoredKind = v.kind := by rw [restoredKind, form]
    rw [own] at identifier ⊢
    rw [stem] at profile
    cases profile with
    | user valid first last email =>
      simp only [form, Form.written, List.map_cons, List.map_nil, List.forall_mem_cons] at reads
      obtain ⟨-, ⟨_, readFirst⟩, ⟨_, readLast⟩, ⟨_, readEmail⟩, -⟩ := reads
      exact rebuilds_user form stem valid identifier readFirst readLast readEmail
  | group =>
    have stem := suits.resolve_right (by simp [form])
    rw [form] at stem
    have plain : v.restoredKind = .group := by rw [restoredKind, form]
    rw [plain] at identifier ⊢
    rw [stem] at profile
    cases profile with
    | group valid trimmed nonempty =>
      obtain ⟨_, isName, isPath, solid⟩ := topLevel
      cases isName
      cases isPath
      simp only [form, Form.written, List.map_cons, List.map_nil, List.forall_mem_cons] at reads
      obtain ⟨⟨_, readStored⟩, -⟩ := reads
      exact rebuilds_group form valid solid trimmed identifier readStored
  | role =>
    have stem := suits.resolve_right (by simp [form])
    rw [form] at stem
    have plain : v.restoredKind = .role := by rw [restoredKind, form]
    rw [plain] at identifier ⊢
    rw [stem] at profile
    cases profile with
    | role valid => exact rebuilds_role form valid identifier

end Variant

namespace Mapper

variable {m : Mapper} {realm : Option Realm} {identity attributes : Option RecordClass}
  {properties : OrderedMap String String}

/-- Restoring gives principals of the kind that the variant restores. -/
theorem kind_of_restore (restored : m.restore realm s id = .ok e) :
    e.kind = m.variant.restoredKind := by
  obtain ⟨kind, bare, _, _, _, _, -, profile, -, -, -, completed, rfl⟩ := restore_eq_ok restored
  exact (Variant.kind_of_complete completed).trans (Variant.kind_of_restore profile)

/-- A record whose key is refused restores nothing. -/
theorem restore_of_refused {f : Failure}
    (token : m.bindings.read s id Property.discriminator true =
      .ok (.text m.variant.discriminator))
    (refused : m.variant.restore m.bindings s id = .error f) :
    m.restore realm s id = .error f := by
  simp only [restore, token, ok_bind, refused, ne_eq, not_true_eq_false, if_false]
  rfl

/-- A record that holds a constructed principal restores it under the kind that the variant restores
if the prefix is that of this kind, and nothing otherwise. -/
theorem restore_of_holds_constructed
    (accepted : Bindings.create identity attributes properties = .ok m.bindings)
    (separate : m.bindings.Separate) (fits : m.variant.Fits)
    (prefixed : m.variant.kind.keyPrefix ≠ "")
    (free : IdentityKey.splitFirst m.variant.kind.keyPrefix.toList = none)
    (constructed : d.Constructed m.variant.kind) (topLevel : d.profile.TopLevel)
    (holds : m.bindings.Holds s id (d.entries m.variant)) :
    (m.variant.kind.keyPrefix = m.variant.restoredKind.keyPrefix →
      ∃ e, m.restore none s id = .ok e ∧ e.identifier = d.identifier) ∧
    (m.variant.kind.keyPrefix ≠ m.variant.restoredKind.keyPrefix → m.restore none s id =
      .error (.integrity (.keyMismatch d.key m.variant.restoredKind.keyPrefix))) := by
  obtain ⟨-, identified, -⟩ := constructed.identifier_spec
  have key : d.key = IdentityKey.compose m.variant.kind.keyPrefix d.identifier.plain := by
    rw [Principal.key, constructed.kind]
  have readKey := read_key_of_holds accepted separate holds
  rw [key] at readKey ⊢
  constructor
  · intro inherited
    have identifier := Variant.readIdentifier_of_key readKey free prefixed identified
    rw [inherited] at identifier
    obtain ⟨bare, restored, completes⟩ := Variant.rebuilds_of_constructed fits constructed topLevel
      identifier fun e among => ⟨_, read_profile_of_holds separate holds e among⟩
    obtain ⟨e, completed, same⟩ := completes
      { kind := m.variant.restoredKind, enabled := d.enabled, createdDate := d.createdDate.orUtc,
        expirationDate := m.bindings.readBack Property.expires d.expirationDate.orUtc,
        partition := .null, attributes := .mapping [], profile := bare } rfl
    exact ⟨e, restore_of_profile accepted separate (constructed.writable fits).enabled
      constructed.created constructed.expires holds restored completed none, same⟩
  · intro foreign
    have token := read_shared_of_holds (p := Property.discriminator)
      (v := .text m.variant.discriminator) accepted separate holds (by decide)
      (by simp [Principal.sharedEntries]) rfl
    exact restore_of_refused token (Variant.restore_of_readIdentifier_error
      (by rw [Variant.readIdentifier_of_composed readKey free prefixed identified, if_neg foreign]))

end Mapper

namespace Registry

variable {reg : Registry} {resolver : Option RealmResolver} {vs : List Variant}
  {now : Time.DateTime} {fields : List (String × Value)}

/-- A record that holds a principal of a registered variant is restored by its mapper. -/
theorem Coherent.restore_eq (coherent : reg.Coherent)
    (registered : reg.variants.find? v.kind = some v) {realm : Option Realm}
    (token : reg.bindings.read s id Property.discriminator true = .ok (.text v.discriminator)) :
    reg.restore realm s id = (reg.mapperOf v).restore realm s id := by
  have mapper : reg.forKind v.kind = .ok (reg.mapperOf v) :=
    forKind_eq_ok_iff.mpr ⟨v, registered, rfl⟩
  simp only [restore, forRecord, token, ok_bind, coherent.kindFor registered, mapper]

/-- Whatever was registered, the record that a registry over the standard schema makes of a
constructed principal, a group at its default path, comes back as a principal of its kind and under
its key exactly if the variant has the form of agents or users, or its kind is the built-in one. A
derived group or role whose prefix is its own is refused. -/
theorem restore_create_derived
    (registered : (enrollAll Standard.bindings resolver vs).variants.find? v.kind = some v)
    (fits : v.Fits) (prefixed : v.kind.keyPrefix ≠ "")
    (free : IdentityKey.splitFirst v.kind.keyPrefix.toList = none)
    (built : Principal.create now v.kind fields = .ok d) (topLevel : d.profile.TopLevel) :
    ∃ id s', ((enrollAll Standard.bindings resolver vs).create none d).outcome s = (.ok id, s') ∧
      ((∃ e, (enrollAll Standard.bindings resolver vs).restore none s' id = .ok e ∧
          e.kind = v.kind ∧ e.key = d.key) ↔
        v.form = .agent ∨ v.form = .user ∨ v.kind = v.form.kind) ∧
      (v.kind.keyPrefix ≠ v.restoredKind.keyPrefix →
        (enrollAll Standard.bindings resolver vs).restore none s' id =
          .error (.integrity (.keyMismatch d.key v.restoredKind.keyPrefix))) := by
  have coherent := coherent_enrollAll Standard.bindings resolver vs
  have bindings := enrollAll_bindings Standard.bindings resolver vs
  generalize enrollAll Standard.bindings resolver vs = reg at registered coherent bindings ⊢
  have constructed := Principal.Constructed.of_create built
  have overStandard : (reg.mapperOf v).bindings = Standard.bindings := bindings
  have accepted : Bindings.create (some Standard.identityClass) (some Standard.attributeClass)
      Standard.bindings.properties = .ok (reg.mapperOf v).bindings :=
    overStandard ▸ Standard.create_standard
  have separate : (reg.mapperOf v).bindings.Separate :=
    overStandard ▸ Standard.bindings_separate
  have mapper : reg.forKind d.kind = .ok (reg.mapperOf v) := by
    rw [constructed.kind]
    exact forKind_eq_ok_iff.mpr ⟨v, registered, rfl⟩
  obtain ⟨s', made, holds⟩ := Mapper.outcome_create (m := reg.mapperOf v) (s := s)
    accepted separate fits (by rw [constructed.kind]; exact coherent.tokenFor registered)
    (overStandard ▸ rfl) constructed (fun _ (given : none = some _) => nomatch given)
  have token := Mapper.read_shared_of_holds (m := reg.mapperOf v) (p := Property.discriminator)
    (v := .text v.discriminator) accepted separate holds (by decide)
    (by simp [Principal.sharedEntries, mapperOf]) rfl
  obtain ⟨inherits, refuses⟩ := Mapper.restore_of_holds_constructed (m := reg.mapperOf v) accepted
    separate fits prefixed free constructed topLevel holds
  refine ⟨s.records.length, s', ?_, ?_, ?_⟩
  · rw [create, StoreM.outcome_bind_ok (by rw [StoreM.outcome_lift, mapper])]
    exact made
  · rw [coherent.restore_eq registered token, ← Variant.eq_restoredKind_iff]
    constructor
    · rintro ⟨e, restored, ofKind, -⟩
      rw [← ofKind]
      exact Mapper.kind_of_restore restored
    · intro own
      obtain ⟨e, restored, same⟩ := inherits (congrArg Kind.keyPrefix own)
      have ofKind : e.kind = v.kind := (Mapper.kind_of_restore restored).trans own.symm
      refine ⟨e, restored, ofKind, ?_⟩
      rw [Principal.key, Principal.key, ofKind, same, constructed.kind]
  · rw [coherent.restore_eq registered token]
    exact refuses

/-- Devices are agents with keys of their own. -/
def deviceVariant : Variant := ⟨.agent, .derived .agent "Device" "DEVICE", "DEVICE", "device"⟩

/-- A device comes back as a device. -/
theorem restore_create_device : ∃ d,
    Principal.create ⟨.epoch, none⟩ deviceVariant.kind [("login_name", .text "lamp")] = .ok d ∧
    ∃ id s', ((enrollAll Standard.bindings none [deviceVariant]).create none d).outcome
        ⟨Standard.catalog, [], []⟩ = (.ok id, s') ∧
      ∃ e, (enrollAll Standard.bindings none [deviceVariant]).restore none s' id = .ok e ∧
        e.kind = deviceVariant.kind ∧ e.key = d.key := by
  obtain ⟨d, built⟩ : ∃ d, Principal.create ⟨.epoch, none⟩ deviceVariant.kind
    [("login_name", .text "lamp")] = .ok d := ⟨_, rfl⟩
  have topLevel : d.profile.TopLevel := by
    cases built
    trivial
  have registered : (enrollAll Standard.bindings none [deviceVariant]).variants.find?
    deviceVariant.kind = some deviceVariant := rfl
  obtain ⟨id, s', made, comesBack, -⟩ := restore_create_derived
    (s := ⟨Standard.catalog, [], []⟩) registered (by rw [Variant.Fits]; decide) (by decide)
    (by decide) built topLevel
  exact ⟨d, built, id, s', made, comesBack.mpr (.inl rfl)⟩

/-- Teams are groups with keys of their own. -/
def teamVariant : Variant := ⟨.group, .derived .group "Team" "TEAM", "TEAM", "team"⟩

/-- A team is kept but not restored: its key is taken for that of a group. -/
theorem restore_fails_of_team : ∃ d id s', teamVariant.Fits ∧
    Principal.create ⟨.epoch, none⟩ teamVariant.kind [("name", .text "ops")] = .ok d ∧
    d.profile = .group (.text "ops") (.text "/ops") ∧
    ((enrollAll Standard.bindings none [teamVariant]).create none d).outcome
      ⟨Standard.catalog, [], []⟩ = (.ok id, s') ∧
    (enrollAll Standard.bindings none [teamVariant]).restore none s' id =
      .error (.integrity (.keyMismatch "TEAM:///ops" "GROUP")) :=
  ⟨_, _, _, by rw [Variant.Fits]; decide, rfl, rfl, rfl, rfl⟩

end Registry

end Principals
