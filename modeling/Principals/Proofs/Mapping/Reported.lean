import Principals.Proofs.Mapping.DerivedKinds
import Principals.Proofs.Mapping.Rewriting

/-!
# How restoring fails

A record whose columns hold values of their types can be wrong in many ways, and nearly all of them
end in one of the directory's own faults: a token that no kind has, a value that is missing, a key
that does not split or has a foreign prefix. One does not. The identifier in the key, or for a group
the last segment of it, is handed to a constructor, which refuses a name that is blank or too long.

* `Reported`, `Reported.bind`: a result or one of the directory's own faults, and how steps that give
  either go together;
* `Record.Misnamed`: a record whose key gives a name that no constructor takes;
* `Standard.reported_restore_mapper`, `Standard.restore_of_misnamed`: what a mapper makes of the one
  and of the other;
* `Registry.reported_restore_iff`: misnamed records are those whose restoring ends in another failure.
-/

namespace Principals

/-- Whether a failure says that the schema, the registry or the stored data do not fit. -/
def Failure.IsReported : Failure → Prop
  | .fault (.configuration _) | .fault (.integrity _) => True
  | _ => False

/-- Whether a computation gives a result with a property, or ends in a failure of that sort. -/
def Reported {α : Type} (P : α → Prop) : Except Failure α → Prop
  | .ok a => P a
  | .error e => e.IsReported

section
variable {α β : Type} {P : α → Prop} {Q : β → Prop} {x : Except Failure α}

theorem Reported.bind {f : α → Except Failure β} (first : Reported P x)
    (rest : ∀ a, P a → Reported Q (f a)) : Reported Q (x >>= f) := by
  cases x with
  | error e => exact first
  | ok a => exact rest a first

theorem Reported.mono {P' : α → Prop} (reported : Reported P x) (weaken : ∀ a, P a → P' a) :
    Reported P' x := by
  cases x with
  | error e => exact reported
  | ok a => exact weaken a reported

end

/-! ## Typed records -/

namespace ColumnType

/-- Whether a value is of the type of a column, or absent. Integers are not looked at. -/
def Admits : ColumnType → Value → Prop
  | _, .null | integer, _ | text, .text _ | boolean, .bool _ | timestamp, .moment _ => True
  | _, _ => False

/-- The same as a test. -/
def isAdmitted : ColumnType → Value → Bool
  | _, .null | integer, _ | text, .text _ | boolean, .bool _ | timestamp, .moment _ => true
  | _, _ => false

theorem isAdmitted_iff {type : ColumnType} {v : Value} :
    type.isAdmitted v = true ↔ type.Admits v := by
  cases type <;> cases v <;> simp [isAdmitted, Admits]

instance (type : ColumnType) (v : Value) : Decidable (type.Admits v) :=
  decidable_of_iff (type.isAdmitted v = true) isAdmitted_iff

theorem exists_text_of_admits {v : Value} (admitted : text.Admits v) : ∃ t, v = .ofText? t := by
  cases v with
  | null => exact ⟨none, rfl⟩
  | text t => exact ⟨some t, rfl⟩
  | _ => cases admitted

theorem null_or_moment_of_admits {v : Value} (admitted : timestamp.Admits v) :
    v = .null ∨ ∃ t, v = .moment t := by
  cases v with
  | null => exact .inl rfl
  | moment t => exact .inr ⟨t, rfl⟩
  | _ => cases admitted

end ColumnType

/-- Whether the columns of a record hold values of their types. -/
def Record.Typed (r : Record) : Prop := ∀ c ∈ r.cls.columns, c.type.Admits (r.value c.attr)

instance (r : Record) : Decidable r.Typed :=
  inferInstanceAs (Decidable (∀ c ∈ r.cls.columns, c.type.Admits (r.value c.attr)))

/-- The name under which a form constructs a principal from the identifier in its key: a group by
the last segment of its path or else the stored name, anything else by the identifier. -/
def Variant.givenName (v : Variant) (identifier : String) (stored : Option String) : String :=
  match v.form with
  | .group =>
    if lastSegment identifier ≠ "" then lastSegment identifier
    else (stored.filter (· ≠ "")).getD identifier
  | _ => identifier

/-- Whether the key of a record belongs to its built-in kind and gives a name that is blank or too
long. -/
def Record.Misnamed (r : Record) : Prop :=
  ∃ v ∈ Variant.builtins, ∃ identifier stored, identifier ≠ "" ∧
    r.value "discriminator" = .text v.discriminator ∧
    r.value "key" = .text (IdentityKey.compose v.kind.keyPrefix identifier) ∧
    r.value "name" = .ofText? stored ∧
    (Text.trim (v.givenName identifier stored) = "" ∨
      Profile.nameLimit < (Text.trim (v.givenName identifier stored)).length)

namespace Variant

theorem restoredKind_of_builtin : ∀ v ∈ builtins, v.restoredKind = v.kind := by decide

variable {v : Variant} {s : Store} {id : RecordId} {identifier : String} {stored : Option String}

theorem groupName_eq (form : v.form = .group) (identifier : String) (stored : Option String) :
    groupName identifier (.ofText? stored) = .text (v.givenName identifier stored) := by
  rw [groupName, givenName, form]
  by_cases named : lastSegment identifier = ""
  · simp only [named, ne_eq, not_true_eq_false, if_false]
    cases stored with
    | none => rfl
    | some t =>
      by_cases empty : t = "" <;> simp [Value.ofText?, Value.isTruthy, Option.filter, empty]
  · simp only [ne_eq, named, not_false_eq_true, if_true]

/-- What a form hands to the constructor. -/
def rebuilt (v : Variant) (identifier : String) (stored : Option String) : List (String × Value) :=
  match v.form with
  | .agent | .user => [(Profile.Field.label .loginName, .text identifier)]
  | .group => [(Profile.Field.label .name, groupName identifier (.ofText? stored)),
      (Profile.Field.label .path, .text identifier)]
  | .role => [(Profile.Field.label .name, .text identifier)]

/-- A built-in variant restores whatever the constructor makes of the key. -/
theorem restore_eq_create {b : Bindings} (builtin : v ∈ builtins)
    (identified : readIdentifier b s id v.kind.keyPrefix = .ok identifier)
    (readStored : b.read s id Property.name false = .ok (.ofText? stored)) :
    v.restore b s id = (Profile.create v.kind (v.rebuilt identifier stored)).map (v.kind, ·) := by
  rw [mem_builtins_iff] at builtin
  rcases builtin with rfl | rfl | rfl | rfl
  all_goals
    simp only [agent, user, group, role] at identified
    simp only [restore, rebuilt, agent, user, group, role, identified, readStored, ok_bind]
    cases Profile.create _ _ <;> rfl

/-- The constructor takes what it is handed exactly if the name can be read. -/
theorem exists_create_iff (builtin : v ∈ builtins) (nonempty : identifier ≠ "") :
    (∃ bare, Profile.create v.kind (v.rebuilt identifier stored) = .ok bare) ↔
      ∃ n, Profile.readName (.text (v.givenName identifier stored)) = .ok n := by
  rw [mem_builtins_iff] at builtin
  rcases builtin with rfl | rfl | rfl | rfl
  · exact ⟨fun ⟨_, made⟩ => Profile.readName_of_create_login (.inl rfl) made,
      fun ⟨_, read⟩ => ⟨_, Profile.create_agent rfl read⟩⟩
  · exact ⟨fun ⟨_, made⟩ => Profile.readName_of_create_login (.inr rfl) made,
      fun ⟨_, read⟩ => ⟨_, Profile.create_user rfl read⟩⟩
  · rw [← groupName_eq (v := group) rfl]
    constructor
    · exact fun ⟨_, made⟩ => Profile.readName_of_create_group made
    · rintro ⟨n, read⟩
      exact ⟨_, Profile.create_group read (trim_ne_empty_of_readName nonempty read)⟩
  · exact ⟨fun ⟨_, made⟩ => Profile.readName_of_create_role made,
      fun ⟨_, read⟩ => ⟨_, Profile.create_role read⟩⟩

/-- A constructor that refuses what it is handed says so of its own kind. -/
theorem invalid_of_create {fields : List (String × Value)} {e : Failure}
    (builtin : v ∈ builtins) (refused : Profile.create v.kind fields = .error e) :
    ∃ issues, e = .invalid v.kind.name issues := by
  have orInvalid : ∀ {name : String} {p : Checked Profile},
      Checked.orInvalid name p = .error e → ∃ issues, e = .invalid name issues := by
    intro name p given
    cases p <;> cases given
    exact ⟨_, rfl⟩
  rw [mem_builtins_iff] at builtin
  rcases builtin with rfl | rfl | rfl | rfl <;> exact orInvalid refused

end Variant

/-! ## One step after the other -/

theorem Mapper.reported_asUtc {v : Value} (admitted : ColumnType.timestamp.Admits v) :
    Reported (fun _ => True) (asUtc v) := by
  rcases ColumnType.null_or_moment_of_admits admitted with rfl | ⟨t, rfl⟩ <;> trivial

/-- Every text or absent token leads to a kind or is reported. -/
theorem Discriminators.reported_kindFor (ds : Discriminators) {v : Value}
    (admitted : ColumnType.text.Admits v) : Reported (fun _ => True) (ds.kindFor v) := by
  obtain ⟨token, rfl⟩ := ColumnType.exists_text_of_admits admitted
  cases token
  all_goals
    simp only [kindFor, tokenKey, Value.ofText?, Value.key?, ok_bind]
    split <;> trivial

theorem Registry.reported_forKind (reg : Registry) (kind : Kind) :
    Reported (fun m => reg.forKind kind = .ok m) (reg.forKind kind) := by
  cases chosen : reg.forKind kind with
  | ok m => rfl
  | error e =>
    unfold forKind at chosen
    split at chosen <;> cases chosen
    trivial

namespace Standard

variable {s : Store} {id : RecordId} {r : Record} {v : Variant}

/-- The column of its own that an identity property is bound to. -/
def columnOf? (p : String) : Option Column :=
  (bindings.properties.find? p).bind identityClass.column?

theorem columnOf?_eq_some {p : String} {c : Column} (isColumn : columnOf? p = some c) :
    bindings.properties.find? p = some c.attr ∧ c ∈ identityClass.columns := by
  obtain ⟨attr, bound, found⟩ := Option.bind_eq_some_iff.mp isColumn
  have named := List.find?_some found
  rw [bound, eq_of_beq named]
  exact ⟨rfl, List.mem_of_find?_eq_some found⟩

theorem isPlain_of_columns : ∀ c ∈ identityClass.columns, identityClass.isPlain c.attr = true := by
  decide

section
variable (found : s.record? id = some r) (cls : r.cls = identityClass) (typed : r.Typed)
include found cls

/-- A property in a column of its own reads as the value of the column, unless it is required and
absent. -/
theorem read_eq {p : String} {c : Column} (isColumn : columnOf? p = some c) (isRequired : Bool) :
    bindings.read s id p isRequired =
      if isRequired && (r.value c.attr).isNull then .error (.integrity (.storedValueMissing p))
      else .ok (r.value c.attr) := by
  obtain ⟨bound, among⟩ := columnOf?_eq_some isColumn
  simp only [Bindings.read, bound, Store.get_of_plain found (cls ▸ isPlain_of_columns c among)]

theorem read_optional {p : String} {c : Column} (isColumn : columnOf? p = some c) :
    bindings.read s id p false = .ok (r.value c.attr) := by
  rw [read_eq found cls isColumn]
  rfl

theorem read_of_text {p text : String} {c : Column} (isColumn : columnOf? p = some c)
    (value : r.value c.attr = .text text) : bindings.read s id p true = .ok (.text text) := by
  rw [read_eq found cls isColumn, value]
  rfl

/-- A key that gives a name that no constructor takes is refused by the constructor. -/
theorem restore_of_misnamed (misnamed : r.Misnamed) : ∃ v ∈ Variant.builtins,
    r.value "discriminator" = .text v.discriminator ∧
      ∃ issues, v.restore bindings s id = .error (.invalid v.kind.name issues) := by
  obtain ⟨v, builtin, identifier, stored, nonempty, token, key, isStored, unreadable⟩ := misnamed
  refine ⟨v, builtin, token, ?_⟩
  obtain ⟨free, prefixed⟩ := Variant.keyPrefix_of_builtin v builtin
  have readKey := read_of_text found cls (p := Property.key) rfl key
  have identified := Variant.readIdentifier_of_key readKey free prefixed nonempty
  have readStored := isStored ▸ read_optional found cls (p := Property.name) rfl
  rw [Variant.restore_eq_create builtin identified readStored]
  cases made : Profile.create v.kind (v.rebuilt identifier stored) with
  | error e =>
    obtain ⟨issues, rfl⟩ := Variant.invalid_of_create builtin made
    exact ⟨issues, rfl⟩
  | ok bare =>
    have readable := (Variant.exists_create_iff builtin nonempty).mp ⟨bare, made⟩
    rw [Variant.exists_readName_text_iff] at readable
    rcases unreadable with blank | long
    · exact absurd blank readable.1
    · exact absurd readable.2 (Nat.not_le.mpr long)

/-- A constructed profile is completed from whatever texts are stored. -/
theorem reported_complete (builtin : v ∈ Variant.builtins) {d : Principal}
    (constructed : Profile.Constructed v.kind.stem d.profile) :
    Reported (fun _ => True) (v.complete bindings s id d) := by
  rw [Variant.mem_builtins_iff] at builtin
  generalize profile : d.profile = p at constructed
  rcases builtin with rfl | rfl | rfl | rfl <;> cases constructed
  · trivial
  · rw [Variant.complete_user rfl profile (read_optional found cls (p := Property.firstName) rfl)
      (read_optional found cls (p := Property.lastName) rfl)
      (read_optional found cls (p := Property.email) rfl)]
    trivial
  · have readName := read_optional found cls (p := Property.name) rfl
    by_cases truthy : (r.value "name").isTruthy = true
    · rw [Variant.complete_group rfl truthy profile readName]
      trivial
    · simp only [Variant.complete, Variant.group, readName, ok_bind, if_neg truthy]
      trivial
  · trivial

variable (typed : r.Typed)
include typed

/-- What is read of a column is of its type, and a required value that is absent is reported. -/
theorem reported_read {p : String} {c : Column} (isColumn : columnOf? p = some c)
    (isRequired : Bool) :
    Reported (fun x => x = r.value c.attr ∧ c.type.Admits x ∧
        (isRequired = true → x.isNull = false))
      (bindings.read s id p isRequired) := by
  rw [read_eq found cls isColumn]
  split
  · trivial
  · next present =>
    refine ⟨rfl, typed c (cls ▸ (columnOf?_eq_some isColumn).2), fun required => ?_⟩
    simpa [required] using present

/-- A property in a text column reads as a text or nothing, if it may be absent. -/
theorem exists_read_text {p : String} {c : Column} (isColumn : columnOf? p = some c)
    (isText : c.type = .text) : ∃ stored, r.value c.attr = .ofText? stored ∧
      bindings.read s id p false = .ok (.ofText? stored) := by
  have admitted := typed c (cls ▸ (columnOf?_eq_some isColumn).2)
  rw [isText] at admitted
  obtain ⟨stored, isStored⟩ := ColumnType.exists_text_of_admits admitted
  exact ⟨stored, isStored, isStored ▸ read_optional found cls isColumn⟩

/-- The identifier in a key is not empty, and makes up the key. -/
theorem reported_readIdentifier (keyPrefix : String) :
    Reported (fun identifier => identifier ≠ "" ∧
        r.value "key" = .text (IdentityKey.compose keyPrefix identifier))
      (Variant.readIdentifier bindings s id keyPrefix) := by
  refine (reported_read found cls typed (p := Property.key) rfl true).bind ?_
  intro key ⟨isKey, isText, present⟩
  obtain ⟨stored, rfl⟩ := ColumnType.exists_text_of_admits isText
  cases stored with
  | none => cases present rfl
  | some key =>
    rcases IdentityKey.parse_cases key with ⟨keyPrefix', identifier, parsed⟩ | malformed
    · simp only [Value.ofText?, IdentityKey.parseValue, parsed]
      split
      · next same =>
        have splits := IdentityKey.parse_eq_ok_iff.mp parsed
        exact ⟨splits.identified, by rw [← isKey, Value.ofText?, splits.composed, same]⟩
      · trivial
    · simp only [Value.ofText?, IdentityKey.parseValue, malformed]
      trivial

/-- A variant restores a constructed profile, unless the key gives a name that no constructor
takes. -/
theorem reported_restore_profile (builtin : v ∈ Variant.builtins)
    (token : r.value "discriminator" = .text v.discriminator) (named : ¬ r.Misnamed) :
    Reported (fun result => Profile.Constructed v.kind.stem result.2)
      (v.restore bindings s id) := by
  have identifies := reported_readIdentifier found cls typed v.kind.keyPrefix
  cases identified : Variant.readIdentifier bindings s id v.kind.keyPrefix with
  | error e =>
    rw [identified] at identifies
    rw [← Variant.restoredKind_of_builtin v builtin] at identified
    rw [Variant.restore_of_readIdentifier_error identified]
    exact identifies
  | ok identifier =>
    rw [identified] at identifies
    obtain ⟨nonempty, key⟩ := identifies
    obtain ⟨stored, isStored, readStored⟩ :=
      exists_read_text found cls typed (p := Property.name) rfl rfl
    have readable : ∃ n, Profile.readName (.text (v.givenName identifier stored)) = .ok n := by
      -- a name that cannot be read is what makes the record misnamed, all else being found by now
      by_contra unreadable
      rw [Variant.exists_readName_text_iff, not_and_or, not_not, not_le] at unreadable
      exact named ⟨v, builtin, identifier, stored, nonempty, token, key, isStored, unreadable⟩
    obtain ⟨bare, made⟩ := (Variant.exists_create_iff builtin nonempty).mpr readable
    rw [Variant.restore_eq_create builtin identified readStored, made]
    exact Profile.Constructed.of_create made

/-- A mapper of a built-in variant restores a principal or reports a fault. -/
theorem reported_restore_mapper {m : Mapper} (standard : m.bindings = bindings)
    (builtin : m.variant ∈ Variant.builtins) (named : ¬ r.Misnamed) (realm : Option Realm) :
    Reported (fun _ => True) (m.restore realm s id) := by
  simp only [Mapper.restore, standard]
  refine (reported_read found cls typed (p := Property.discriminator) rfl true).bind ?_
  rintro _ ⟨rfl, -, -⟩
  -- a token of another variant is reported; under the variant's own, being misnamed is excluded
  split
  · trivial
  · next own =>
    refine (reported_restore_profile found cls typed builtin (not_not.mp own) named).bind ?_
    rintro ⟨kind, bare⟩ constructed
    refine (reported_read found cls typed (p := Property.enabled) rfl true).bind fun _ _ => ?_
    refine (reported_read found cls typed (p := Property.created) rfl true).bind ?_
    rintro _ ⟨-, created, -⟩
    refine (Mapper.reported_asUtc created).bind fun _ _ => ?_
    refine (reported_read found cls typed (p := Property.expires) rfl false).bind ?_
    rintro _ ⟨-, expires, -⟩
    refine (Mapper.reported_asUtc expires).bind fun _ _ => ?_
    refine (reported_complete found cls builtin constructed).bind fun _ _ => ?_
    trivial

end

end Standard

namespace Registry

variable {reg : Registry} {resolver : Option RealmResolver} {s : Store} {id : RecordId} {r : Record}

/-- The mapper of a record is one of a built-in variant, or its discriminator is reported. -/
theorem reported_forRecord (made : withBuiltins Standard.bindings resolver = .ok reg)
    (found : s.record? id = some r) (cls : r.cls = Standard.identityClass) (typed : r.Typed) :
    Reported (fun m => m.bindings = Standard.bindings ∧ m.variant ∈ Variant.builtins)
      (reg.forRecord s id) := by
  rw [forRecord, (ServesBuiltins.of_withBuiltins made).bindings]
  refine (Standard.reported_read found cls typed (p := Property.discriminator) rfl true).bind ?_
  rintro token ⟨-, isText, -⟩
  refine (reg.discriminators.reported_kindFor isText).bind fun kind _ => ?_
  refine (reg.reported_forKind kind).mono fun m chosen => ?_
  obtain ⟨v, builtin, -, rfl⟩ := exists_of_forKind made chosen
  exact ⟨rfl, builtin⟩

/-- Restoring a record whose columns hold values of their types gives a principal or reports a
fault, unless the key gives a name that no constructor takes; then the constructor's own failure
comes through. -/
theorem reported_restore_iff (made : withBuiltins Standard.bindings resolver = .ok reg)
    (found : s.record? id = some r) (cls : r.cls = Standard.identityClass) (typed : r.Typed)
    (realm : Option Realm) :
    (Reported (fun _ => True) (reg.restore realm s id) ↔ ¬ r.Misnamed) ∧
      (r.Misnamed → ∃ model issues, reg.restore realm s id = .error (.invalid model issues)) := by
  have refused (misnamed : r.Misnamed) :
      ∃ model issues, reg.restore realm s id = .error (.invalid model issues) := by
    obtain ⟨v, builtin, token, issues, refused⟩ := Standard.restore_of_misnamed found cls misnamed
    have readToken := Standard.read_of_text found cls (p := Property.discriminator) rfl token
    refine ⟨v.kind.name, issues, ?_⟩
    rw [(ServesBuiltins.of_withBuiltins made).restore_of_token builtin readToken]
    exact Mapper.restore_of_refused readToken refused
  refine ⟨⟨fun reported misnamed => ?_, fun named => ?_⟩, refused⟩
  · obtain ⟨model, issues, eq⟩ := refused misnamed
    rw [eq] at reported
    exact reported
  · refine (reported_forRecord made found cls typed).bind fun m ⟨standard, builtin⟩ => ?_
    exact Standard.reported_restore_mapper found cls typed standard builtin named realm

/-- A role's record with some key. -/
def roleRecord (key : String) : Record where
  cls := Standard.identityClass
  values := .ofList [("discriminator", .text "ROLE"), ("key", .text key), ("enabled", .bool true),
    ("created", .moment ⟨.epoch, none⟩)]

/-- A role under a sound key comes back, or what it lacks is reported. -/
theorem reported_restore_role : ∃ reg, withBuiltins Standard.bindings none = .ok reg ∧
    (roleRecord "ROLE://auditor").Typed ∧ ¬ (roleRecord "ROLE://auditor").Misnamed ∧
    Reported (fun _ => True)
      (reg.restore none ⟨Standard.catalog, [roleRecord "ROLE://auditor"], []⟩ 0) := by
  obtain ⟨reg, made⟩ : ∃ reg, withBuiltins Standard.bindings none = .ok reg := ⟨_, rfl⟩
  have typed : (roleRecord "ROLE://auditor").Typed := by decide
  have named : ¬ (roleRecord "ROLE://auditor").Misnamed := by
    rintro ⟨v, builtin, identifier, stored, nonempty, token, key, -, unreadable⟩
    have isRole : ∀ v ∈ Variant.builtins, Value.text "ROLE" = .text v.discriminator → v = .role := by
      decide
    obtain rfl := isRole v builtin token
    have composed : "ROLE://auditor" = IdentityKey.compose "ROLE" identifier := Value.text.inj key
    have free : IdentityKey.splitFirst "ROLE".toList = none := rfl
    have parsed := IdentityKey.parse_compose free (by decide) nonempty
    have sound : IdentityKey.parse "ROLE://auditor" = .ok ("ROLE", "auditor") := rfl
    rw [← composed, sound] at parsed
    obtain rfl : "auditor" = identifier := congrArg Prod.snd (Except.ok.inj parsed)
    have readable : ¬ (Text.trim "auditor" = "" ∨
      Profile.nameLimit < (Text.trim "auditor").length) := by decide
    exact readable unreadable
  exact ⟨reg, made, typed, named, (reported_restore_iff made rfl rfl typed none).1.mpr named⟩

/-- A role with a blank name in its key fails in the constructor. -/
theorem restore_fails_of_blank_role : ∃ reg, withBuiltins Standard.bindings none = .ok reg ∧
    (roleRecord "ROLE:// ").Typed ∧
    reg.restore none ⟨Standard.catalog, [roleRecord "ROLE:// "], []⟩ 0 =
      .error (.invalid "Role" [⟨[.name "name"], .stringTooShort⟩]) ∧
    ¬ Reported (fun _ => True)
      (reg.restore none ⟨Standard.catalog, [roleRecord "ROLE:// "], []⟩ 0) :=
  ⟨_, rfl, by decide, rfl, id⟩

end Registry

end Principals
