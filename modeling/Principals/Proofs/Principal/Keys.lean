import Principals.Mapping.Variant
import Principals.Proofs.IdentityKey
import Principals.Proofs.Principal.Construction
import Principals.Proofs.Time.Instant

/-!
# Keys of principals

A principal has no key of its own: it is composed of the prefix of the kind and the natural
identifier. No built-in prefix holds a separator, so the key gives both back, and two principals of
built-in kinds have one key only if they share the prefix and the identifier. This does not depend on
what the identifier is: it may hold separators, or begin with a slash, as the paths of groups do.

* `Variant.keyPrefix_of_builtin`: the built-in prefixes can be read back;
* `Principal.Constructed.identifier_spec`: the natural identifier of a constructed principal;
* `Principal.parse_key`, `Principal.key_eq_key_iff`: what the key of a principal gives back, and what
  it tells apart;
* `Principal.identified_by_key`: keys as texts, and the principals that they stand for.
-/

namespace Principals

theorem Variant.keyPrefix_of_builtin : ∀ v ∈ builtins,
    IdentityKey.splitFirst v.kind.keyPrefix.toList = none ∧ v.kind.keyPrefix ≠ "" := by
  decide

namespace Principal

variable {d e : Principal} {kind : Kind}

/-! ## The natural identifier -/

/-- The natural identifier of a constructed principal is a text, not empty and trimmed. -/
theorem Constructed.identifier_spec (constructed : d.Constructed kind) :
    d.identifier = .text d.identifier.plain ∧ d.identifier.plain ≠ "" ∧
      Text.trim d.identifier.plain = d.identifier.plain := by
  have profile := constructed.profile
  unfold identifier
  generalize d.profile = p at profile
  generalize kind.stem = stem at profile
  cases profile with
  | agent valid => exact ⟨rfl, valid.nonempty, valid.trim⟩
  | user valid first last email => exact ⟨rfl, valid.nonempty, valid.trim⟩
  | group valid trimmed nonempty => exact ⟨rfl, nonempty, trimmed⟩
  | role valid => exact ⟨rfl, valid.nonempty, valid.trim⟩

/-- A principal of a built-in kind under a natural identifier, which is a text as it is declared to
be. Nothing else is asked of it: any other field may have been assigned since. -/
structure Identified (d : Principal) (identifier : String) : Prop where
  kind : ∃ v ∈ Variant.builtins, d.kind = v.kind
  text : d.identifier = .text identifier

/-- A constructor of a built-in kind gives principals under an identifier that is not empty. -/
theorem Identified.of_create {v : Variant} (builtin : v ∈ Variant.builtins) {now : Time.DateTime}
    {fields : List (String × Value)} (built : create now v.kind fields = .ok d) :
    ∃ identifier, identifier ≠ "" ∧ d.Identified identifier := by
  have constructed := Constructed.of_create built
  obtain ⟨isText, nonempty, -⟩ := constructed.identifier_spec
  exact ⟨_, nonempty, ⟨v, builtin, constructed.kind⟩, isText⟩

theorem Identified.unseparated {identifier : String} (identified : d.Identified identifier) :
    IdentityKey.Unseparated d.kind.keyPrefix := by
  obtain ⟨v, builtin, ofKind⟩ := identified.kind
  rw [ofKind, IdentityKey.unseparated_iff]
  exact (Variant.keyPrefix_of_builtin v builtin).1

/-! ## The key -/

/-- The key of a principal gives back the prefix of its kind and its identifier, whatever kind that is
and whatever the identifier has been set to. -/
theorem parse_key (prefixed : d.kind.keyPrefix ≠ "")
    (free : IdentityKey.Unseparated d.kind.keyPrefix) (identified : d.identifier.plain ≠ "") :
    IdentityKey.parse d.key = .ok (d.kind.keyPrefix, d.identifier.plain) :=
  IdentityKey.parse_compose (IdentityKey.unseparated_iff.mp free) prefixed identified

/-- Keys tell apart what their prefixes or the texts of their identifiers do. -/
theorem key_eq_key_iff (free : IdentityKey.Unseparated d.kind.keyPrefix)
    (free' : IdentityKey.Unseparated e.kind.keyPrefix) :
    d.key = e.key ↔ d.kind.keyPrefix = e.kind.keyPrefix ∧ d.identifier.plain = e.identifier.plain :=
  IdentityKey.compose_inj free free'

/-- A key is parsed into a prefix and an identifier exactly if it splits into them, and is malformed
exactly if it splits into nothing. So parsing gives back what the key of a principal is composed of,
for every prefix without a separator; and the keys of two principals of built-in kinds, such as the
constructors give, are equal exactly if they have the same prefix and the same identifier. -/
theorem identified_by_key :
    (∀ key keyPrefix identifier, IdentityKey.parse key = .ok (keyPrefix, identifier) ↔
      IdentityKey.SplitsInto key keyPrefix identifier) ∧
    (∀ key, IdentityKey.parse key = .error (.malformedKey key) ↔
      ∀ keyPrefix identifier, ¬ IdentityKey.SplitsInto key keyPrefix identifier) ∧
    (∀ d : Principal, d.kind.keyPrefix ≠ "" → IdentityKey.Unseparated d.kind.keyPrefix →
      d.identifier.plain ≠ "" →
      IdentityKey.parse d.key = .ok (d.kind.keyPrefix, d.identifier.plain)) ∧
    (∀ v ∈ Variant.builtins, ∀ now fields d, create now v.kind fields = .ok d →
      ∃ identifier, identifier ≠ "" ∧ d.Identified identifier) ∧
    ∀ (d e : Principal) (i j : String), d.Identified i → e.Identified j →
      (d.key = e.key ↔ d.kind.keyPrefix = e.kind.keyPrefix ∧ i = j) := by
  refine ⟨fun _ _ _ => IdentityKey.parse_eq_ok_iff, fun key => ?_, fun _ => parse_key,
    fun _ builtin _ _ _ => Identified.of_create builtin, fun d e i j ofD ofE => ?_⟩
  · rw [IdentityKey.parse_eq_error_iff, and_iff_right rfl]
  · rw [key_eq_key_iff ofD.unseparated ofE.unseparated, ofD.text, ofE.text, Value.plain_text,
      Value.plain_text]

/-- A prefix that ends in part of a separator is given back, in front of an identifier that begins
with a slash and holds a separator; and a user and a role of one name have different keys. -/
theorem identified_by_key_overlapping : ∃ ward user role : Principal,
    create ⟨.epoch, none⟩ (.derived .role "Ward" "a:/") [("name", .text "/b://c")] = .ok ward ∧
    create ⟨.epoch, none⟩ .user [("login_name", .text "alice")] = .ok user ∧
    create ⟨.epoch, none⟩ .role [("name", .text "alice")] = .ok role ∧
    ward.key = "a:/:///b://c" ∧ IdentityKey.parse ward.key = .ok ("a:/", "/b://c") ∧
    user.Identified "alice" ∧ role.Identified "alice" ∧ user.key ≠ role.key := by
  obtain ⟨-, -, givenBack, built, toldApart⟩ := identified_by_key
  obtain ⟨ward, isWard⟩ : ∃ d, create ⟨.epoch, none⟩ (.derived .role "Ward" "a:/")
    [("name", .text "/b://c")] = .ok d := ⟨_, rfl⟩
  obtain ⟨user, isUser⟩ : ∃ d, create ⟨.epoch, none⟩ .user [("login_name", .text "alice")] = .ok d :=
    ⟨_, rfl⟩
  obtain ⟨role, isRole⟩ : ∃ d, create ⟨.epoch, none⟩ .role [("name", .text "alice")] = .ok d :=
    ⟨_, rfl⟩
  have parts : ward.kind.keyPrefix = "a:/" ∧ ward.identifier.plain = "/b://c" := by
    cases isWard
    exact ⟨rfl, rfl⟩
  have parsed := givenBack ward
  rw [parts.1, parts.2] at parsed
  have ofUser : user.Identified "alice" := by
    obtain ⟨identifier, -, identified⟩ := built .user (by decide) _ _ user isUser
    cases isUser
    cases identified.text
    exact identified
  have ofRole : role.Identified "alice" := by
    obtain ⟨identifier, -, identified⟩ := built .role (by decide) _ _ role isRole
    cases isRole
    cases identified.text
    exact identified
  have different : user.key ≠ role.key := by
    intro same
    have prefixes := ((toldApart user role _ _ ofUser ofRole).mp same).1
    cases isUser
    cases isRole
    exact absurd prefixes (by decide)
  refine ⟨ward, user, role, isWard, isUser, isRole, ?_,
    parsed (by decide) (by decide) (by decide), ofUser, ofRole, different⟩
  rw [key, parts.1, parts.2]
  rfl

end Principal

end Principals
