import Principals.Proofs.Event
import Principals.Proofs.Mapping.DerivedKinds
import Principals.Proofs.Mapping.Frames
import Principals.Proofs.Schema.Standard

/-!
# Announcing principals

The event of a lifecycle action is made of the principal, not of its record: its discriminator is the
token of the kind, its key that of the principal, its payload the principal's document without the
attributes. The texts of an event are trimmed when it is read; those of a constructed principal are
trimmed already, since its natural identifier is, and no built-in prefix or name holds a blank. So
the event says what the record says, and it exists whatever the attributes hold.

* `Principal.simple_of_create`: the fields of a constructed principal can be written as documents;
* `Principal.Constructed.trim_key`: its key is trimmed;
* `Mapper.describe_eq`, `Mapper.describe_attributes`: the event, which does not tell of attributes;
* `Registry.announces_create`: the event and the record of a principal.
-/

namespace Principals

/-! ## What the event is made of -/

namespace Principal

variable {d : Principal} {kind : Kind} {now : Time.DateTime} {fields : List (String × Value)}

/-- The fields of a principal that its event tells of. -/
def announced (d : Principal) : List (String × Value) := d.fields.filter fun f => f.1 ≠ "attributes"

/-- The names of announced fields are trimmed and different. -/
theorem announced_names (d : Principal) : (d.announced.map Prod.fst).Nodup ∧
    ∀ name ∈ d.announced.map Prod.fst, Text.trim name = name := by
  have names : ∀ p : Profile, ∃ labels : List String,
      labels.Nodup ∧ (∀ name ∈ labels, Text.trim name = name) ∧
        ∀ e : Principal, e.profile = p → e.announced.map Prod.fst = labels := by
    intro p
    cases p with
    | agent login =>
      exact ⟨["enabled", "created_date", "expiration_date", "partition", "login_name"], by decide,
        by decide, fun e same => by rw [announced, Principal.fields, same]; rfl⟩
    | user login first last email =>
      exact ⟨["enabled", "created_date", "expiration_date", "partition", "login_name", "first_name",
        "last_name", "email"], by decide, by decide,
        fun e same => by rw [announced, Principal.fields, same]; rfl⟩
    | group name path =>
      exact ⟨["enabled", "created_date", "expiration_date", "partition", "name", "path"], by decide,
        by decide, fun e same => by rw [announced, Principal.fields, same]; rfl⟩
    | role name =>
      exact ⟨["enabled", "created_date", "expiration_date", "partition", "name"], by decide,
        by decide, fun e same => by rw [announced, Principal.fields, same]; rfl⟩
  obtain ⟨labels, nodup, trimmed, are⟩ := names d.profile
  rw [are d rfl]
  exact ⟨nodup, trimmed⟩

/-- Every field of a constructed profile holds a simple value. -/
theorem simple_of_profile {p : Profile} (constructed : Profile.Constructed kind p) :
    ∀ e ∈ p.fields, e.2.Simple := by
  cases constructed with
  | agent | role | group =>
    intro e among
    simp only [Profile.fields, List.mem_cons, List.not_mem_nil, or_false] at among
    rcases among with rfl | rfl <;> exact .text _
  | user valid first last email =>
    intro e among
    simp only [Profile.fields, List.mem_cons, List.not_mem_nil, or_false] at among
    rcases among with rfl | rfl | rfl | rfl
    · exact .text _
    · exact .ofText? first
    · exact .ofText? last
    · exact .ofText? email

/-- Every field of a constructed principal holds a simple value, but the attributes. -/
theorem simple_of_create (built : Principal.create now kind fields = .ok d) :
    ∀ e ∈ d.announced, e.2.Simple := by
  have profile := (Constructed.of_create built).profile
  unfold Principal.create at built
  dsimp only at built
  split at built
  · cases built
  · obtain ⟨⟨shared, p⟩, -, rfl⟩ := map_eq_ok.mp (Checked.orInvalid_eq_ok.mp built)
    intro e among
    obtain ⟨isField, notAttributes⟩ := List.mem_filter.mp among
    rcases List.mem_append.mp isField with isShared | ofProfile
    · simp only [List.mem_cons, List.not_mem_nil, or_false] at isShared
      rcases isShared with rfl | rfl | rfl | rfl | rfl
      · exact .bool _
      · exact .moment _
      · cases expires : shared.expirationDate with
        | none => simpa [SharedFields.toPrincipal, expires] using Value.Simple.null
        | some t => simpa [SharedFields.toPrincipal, expires] using Value.Simple.moment t
      · cases realm : shared.partition with
        | none => simpa [SharedFields.toPrincipal, realm] using Value.Simple.null
        | some r => simpa [SharedFields.toPrincipal, realm] using Value.Simple.realm r
      · simp at notAttributes
    · obtain ⟨f, isProfile, rfl⟩ := List.mem_map.mp ofProfile
      exact simple_of_profile profile f isProfile

/-- The natural identifier of a constructed principal is trimmed, and so is its key where nothing in
front of it is blank. -/
theorem Constructed.trim_key (constructed : d.Constructed kind)
    (solid : ∀ c ∈ (kind.keyPrefix ++ IdentityKey.separator).toList, Text.isWhiteSpace c = false) :
    Text.trim d.key = d.key := by
  obtain ⟨-, identified, trimmed⟩ := constructed.identifier_spec
  rw [Principal.key, IdentityKey.compose, constructed.kind]
  exact Text.trim_append_of_solid solid trimmed identified

end Principal

/-! ## The event -/

namespace Mapper

variable {m : Mapper} {d : Principal} {now : Time.DateTime} {action : LifecycleAction}
  {token : String}

/-- The event of an action does not tell of attributes. -/
theorem describe_attributes (m : Mapper) (d : Principal) (attributes : Value) :
    m.describe now action { d with attributes } = m.describe now action d := rfl

/-- Where the texts of an event are trimmed and the announced fields are simple, the event says what
they are, and its document holds that of the principal without its attributes. -/
theorem describe_eq (given : m.discriminators.tokenFor d.kind = .ok (.text token))
    (named : Text.trim (m.variant.eventName ++ "." ++ action.word) =
      m.variant.eventName ++ "." ++ action.word)
    (tokened : Text.trim token = token) (keyed : Text.trim d.key = d.key)
    (simple : ∀ e ∈ d.announced, e.2.Simple) (now : Time.DateTime) :
    ∃ e payload, m.describe now action d = .ok e ∧ d.documentSansAttributes = .ok payload ∧
      e.name = m.variant.eventName ++ "." ++ action.word ∧ e.action = action ∧
      e.discriminator = token ∧ e.key = d.key ∧ e.occurredAt = now ∧
      e.document = .ok (e.documentAround payload) := by
  obtain ⟨ds, documents, names, stable⟩ := Document.exists_ofFields simple
  obtain ⟨nodup, trimmed⟩ := d.announced_names
  rw [← names] at nodup trimmed
  have payload : d.documentSansAttributes = .ok (.object ds) := by
    change (Document.ofFields d.announced).map Document.object = _
    rw [documents]
    rfl
  refine ⟨⟨_, action, token, d.key, now, Event.payloadOf ds⟩, .object ds, ?_, payload, rfl, rfl,
    rfl, rfl, rfl, Event.document_of_payload nodup stable⟩
  rw [describe, given, ok_bind, payload, ok_bind]
  exact Event.create_of_trimmed named tokened keyed fun e among =>
    trimmed e.1 (List.mem_map_of_mem among)

end Mapper

/-! ## The event and the record -/

namespace Registry

variable {b : Bindings} {resolver : Option RealmResolver} {reg : Registry} {kind : Kind}
  {now made : Time.DateTime} {fields : List (String × Value)} {d : Principal}

/-- The texts of a built-in variant are trimmed and its keys begin with no blank. -/
theorem trimmed_of_builtin : ∀ v ∈ Variant.builtins,
    Text.trim v.discriminator = v.discriminator ∧
      (∀ action ∈ LifecycleAction.all, Text.trim (v.eventName ++ "." ++ action.word) =
        v.eventName ++ "." ++ action.word) ∧
      ∀ c ∈ (v.kind.keyPrefix ++ IdentityKey.separator).toList, Text.isWhiteSpace c = false := by
  have trimmed : ∀ v ∈ Variant.builtins, Text.trim v.discriminator = v.discriminator ∧
      ∀ action ∈ LifecycleAction.all, Text.trim (v.eventName ++ "." ++ action.word) =
        v.eventName ++ "." ++ action.word := by decide
  -- Computed over the text, since a quantifier over characters is decided by trying all of them.
  have solid : ∀ v ∈ Variant.builtins,
      (v.kind.keyPrefix ++ IdentityKey.separator).toList.all (! Text.isWhiteSpace ·) = true := by
    decide
  refine fun v builtin => ⟨(trimmed v builtin).1, (trimmed v builtin).2, fun c among => ?_⟩
  simpa using List.all_eq_true.mp (solid v builtin) c among

/-- In a registry of the built-in variants, every action on a principal that a constructor gave has
an event, whatever the attributes hold. Its discriminator and its key are those under which the
registry makes the record of the principal, and the record keeps them unless another property is
bound to the same attribute. A principal that differs in its attributes has the same event, of which
a publisher sends the same message. -/
theorem announces_create (registered : withBuiltins b resolver = .ok reg)
    (among : kind ∈ [Kind.agent, .user, .group, .role])
    (built : Principal.create made kind fields = .ok d) (now : Time.DateTime)
    (action : LifecycleAction) :
    ∃ m e payload, reg.forKind kind = .ok m ∧ m.describe now action d = .ok e ∧
      e.action = action ∧ e.occurredAt = now ∧
      (∀ realm, reg.create realm d = m.createAs realm d e.discriminator e.key) ∧
      (∀ realm s id t, (reg.create realm d).outcome s = (.ok id, t) →
        ∀ entry ∈ [(Property.discriminator, e.discriminator), (Property.key, e.key)],
          b.Alone entry.1 → ∀ attr, b.properties.find? entry.1 = some attr →
            t.get id attr = .text entry.2) ∧
      (∀ (d' : Principal) (attributes : Value),
        m.describe now action { d' with attributes } = m.describe now action d') ∧
      d.documentSansAttributes = .ok payload ∧
      ∀ p : Publisher, p.publish e = p.transmit
        (p.settings.eventSubjectPrefix ++ "." ++ (m.variant.eventName ++ "." ++ action.word),
          (e.documentAround payload).json) := by
  have serves := ServesBuiltins.of_withBuiltins registered
  have each : ∀ k ∈ [Kind.agent, .user, .group, .role], ∃ v ∈ Variant.builtins, v.kind = k := by
    decide
  obtain ⟨v, builtin, rfl⟩ := each kind among
  have constructed := Principal.Constructed.of_create built
  obtain ⟨tokened, named, solid⟩ := trimmed_of_builtin v builtin
  have token : reg.discriminators.tokenFor d.kind = .ok (.text v.discriminator) := by
    rw [constructed.kind]
    exact serves.token v builtin
  obtain ⟨e, payload, described, isPayload, name, isAction, discriminator, key, occurred,
      document⟩ := Mapper.describe_eq (m := ⟨v, b, reg.discriminators, resolver⟩)
    token (named action (by cases action <;> decide)) tokened (constructed.trim_key solid)
    (Principal.simple_of_create built) now
  have creates : ∀ realm, reg.create realm d =
      (Mapper.mk v b reg.discriminators resolver).createAs realm d e.discriminator e.key := by
    intro realm
    have chosen : (StoreM.lift (reg.forKind d.kind) : StoreM Mapper) =
        pure ⟨v, b, reg.discriminators, resolver⟩ := by
      rw [constructed.kind, serves.forKind builtin]
      rfl
    rw [create, chosen, pure_bind, discriminator, key]
    exact Mapper.create_eq token realm
  refine ⟨_, e, payload, serves.forKind builtin, described, isAction, occurred, creates, ?_,
    fun d' attributes => Mapper.describe_attributes _ d' attributes, isPayload, fun p => ?_⟩
  · intro realm s id t done entry written alone attr bound
    rw [creates] at done
    obtain ⟨r, found, plain, value⟩ := Mapper.text_of_writeAs (Mapper.createAs_eq_ok done).2 written
      alone bound
    rw [Store.get_of_plain found plain, value]
  · rw [Publisher.publish_of_document document, Event.subject, name]

/-- A user with an attribute that nothing can look into, announced as deleted. -/
theorem announces_create_user : ∃ reg d, withBuiltins Standard.bindings (some .stored) = .ok reg ∧
    Kind.user ∈ [Kind.agent, .user, .group, .role] ∧
    Principal.create ⟨.epoch, none⟩ .user [("login_name", .text " zoe "),
      ("attributes", .mapping [(.text "badge", .list [.foreign 0])])] = .ok d ∧
    d.attributes = .mapping [(.text "badge", .list [.foreign 0])] ∧
    ∃ m e payload, reg.forKind .user = .ok m ∧ m.describe ⟨.epoch, some 0⟩ .deleted d = .ok e ∧
      e.action = .deleted ∧ e.occurredAt = ⟨.epoch, some 0⟩ ∧
      (∀ realm, reg.create realm d = m.createAs realm d e.discriminator e.key) ∧
      (∀ realm s id t, (reg.create realm d).outcome s = (.ok id, t) →
        ∀ entry ∈ [(Property.discriminator, e.discriminator), (Property.key, e.key)],
          Standard.bindings.Alone entry.1 → ∀ attr,
            Standard.bindings.properties.find? entry.1 = some attr →
              t.get id attr = .text entry.2) ∧
      (∀ (d' : Principal) (attributes : Value),
        m.describe ⟨.epoch, some 0⟩ .deleted { d' with attributes } =
          m.describe ⟨.epoch, some 0⟩ .deleted d') ∧
      d.documentSansAttributes = .ok payload ∧
      ∀ p : Publisher, p.publish e = p.transmit
        (p.settings.eventSubjectPrefix ++ "." ++ (m.variant.eventName ++ "." ++
          LifecycleAction.deleted.word), (e.documentAround payload).json) := by
  obtain ⟨reg, registered⟩ : ∃ reg, withBuiltins Standard.bindings (some .stored) = .ok reg :=
    ⟨_, rfl⟩
  obtain ⟨d, built, holds⟩ : ∃ d, Principal.create ⟨.epoch, none⟩ .user
      [("login_name", .text " zoe "),
        ("attributes", .mapping [(.text "badge", .list [.foreign 0])])] = .ok d ∧
      d.attributes = .mapping [(.text "badge", .list [.foreign 0])] := ⟨_, rfl, rfl⟩
  exact ⟨reg, d, registered, by decide, built, holds,
    announces_create registered (by decide) built ⟨.epoch, some 0⟩ .deleted⟩

end Registry

end Principals
