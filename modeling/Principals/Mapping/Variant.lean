import Principals.Bindings.Basic
import Principals.Principal.Create
import Principals.Query.Parameter

/-!
# Variants

A variant says how the principals of one kind are kept in records beyond the shared fields: which
profile fields it writes, how it restores a profile from a stored key, and which properties its
query parameters stand for. There are four forms, one per built-in kind; a variant may give its form
to another kind, under a discriminator and an event name of its own.
-/

namespace Principals

/-- The built-in forms of variants. -/
inductive Variant.Form
  | agent
  | user
  | group
  | role
deriving DecidableEq, Repr

/-- How the principals of a kind are kept. -/
structure Variant where
  form : Variant.Form
  kind : Kind
  discriminator : String
  eventName : String
deriving DecidableEq, Repr

namespace Variant

/-- The variant of agents. -/
def agent : Variant := ⟨.agent, .agent, "AGENT", "agent"⟩

/-- The variant of users. -/
def user : Variant := ⟨.user, .user, "USER", "user"⟩

/-- The variant of groups. -/
def group : Variant := ⟨.group, .group, "GROUP", "group"⟩

/-- The variant of roles. -/
def role : Variant := ⟨.role, .role, "ROLE", "role"⟩

/-- The variants that come with the library, in the order in which they are registered. -/
def builtins : List Variant := [agent, user, group, role]

theorem mem_builtins_iff {v : Variant} :
    v ∈ builtins ↔ v = agent ∨ v = user ∨ v = group ∨ v = role := by
  simp only [builtins, List.mem_cons, List.not_mem_nil, or_false]

/-! ## Writing -/

namespace Form

/-- The profile fields that a form writes, with their properties. -/
def written : Form → List (Property × Profile.Field)
  | agent => [(Property.name, .loginName)]
  | user => [(Property.name, .loginName), (Property.firstName, .firstName),
      (Property.lastName, .lastName), (Property.email, .email)]
  | group => [(Property.name, .name), (Property.groupPath, .path)]
  | role => [(Property.name, .name)]

/-- The property for which a query parameter stands. -/
def queryProperty? : Form → VariantParameter → Option Property
  | agent, .loginName | user, .loginName => some Property.name
  | user, .firstName => some Property.firstName
  | user, .lastName => some Property.lastName
  | user, .email => some Property.email
  | group, .name | role, .name => some Property.name
  | group, .groupPath => some Property.groupPath
  | _, _ => none

end Form

/-- Writes profile fields of a principal to a record, one after the other. -/
def writeFields (b : Bindings) (id : RecordId) (d : Principal) :
    List (Property × Profile.Field) → StoreM Unit
  | [] => pure ()
  | (property, field) :: rest => do
    let v ← StoreM.lift (d.getProfile field)
    b.write id property v false
    writeFields b id d rest

/-- Writes the profile of a principal to a record. -/
def populate (v : Variant) (b : Bindings) (id : RecordId) (d : Principal) : StoreM Unit :=
  writeFields b id d v.form.written

/-! ## Restoring -/

/-- The identifier in the key of a record, which must carry the given prefix. -/
def readIdentifier (b : Bindings) (s : Store) (id : RecordId) (keyPrefix : String) :
    Except Failure String := do
  let key ← b.read s id Property.key true
  match IdentityKey.parseValue key with
  | .error (.malformedKey text) => .error (.integrity (.malformedKey text))
  | .error e => .error e
  | .ok (found, identifier) =>
    if found = keyPrefix then .ok identifier
    else .error (.integrity (.keyMismatch key.plain keyPrefix))

/-- The last segment of a path, empty if there is none. -/
def lastSegment (path : String) : String :=
  let body := Text.dropEndWhile (· == '/') path.toList
  String.ofList (body.reverse.takeWhile (· != '/')).reverse

/-- The name of a group at a path: its last segment, or else the stored name, or else the path. -/
def groupName (path : String) (stored : Value) : Value :=
  if lastSegment path ≠ "" then .text (lastSegment path)
  else if stored.isTruthy then stored
  else .text path

/-- The kind and the profile that a record restores. Groups and roles come back as such. -/
def restore (v : Variant) (b : Bindings) (s : Store) (id : RecordId) :
    Except Failure (Kind × Profile) := do
  match v.form with
  | .agent | .user =>
    let login ← readIdentifier b s id v.kind.keyPrefix
    let profile ← Profile.create v.kind [(Profile.Field.label .loginName, .text login)]
    .ok (v.kind, profile)
  | .group =>
    let path ← readIdentifier b s id Kind.group.keyPrefix
    let stored ← b.read s id Property.name false
    let profile ← Profile.create .group
      [(Profile.Field.label .name, groupName path stored), (Profile.Field.label .path, .text path)]
    .ok (.group, profile)
  | .role =>
    let name ← readIdentifier b s id Kind.role.keyPrefix
    let profile ← Profile.create .role [(Profile.Field.label .name, .text name)]
    .ok (.role, profile)

/-- Completes a restored principal from the variant's own properties. -/
def complete (v : Variant) (b : Bindings) (s : Store) (id : RecordId) (d : Principal) :
    Except Failure Principal := do
  match v.form with
  | .agent | .role => .ok d
  | .user =>
    let d ← d.setProfile .firstName (← b.read s id Property.firstName false)
    let d ← d.setProfile .lastName (← b.read s id Property.lastName false)
    d.setProfile .email (← b.read s id Property.email false)
  | .group =>
    let name ← b.read s id Property.name false
    if name.isTruthy then d.setProfile .name name else .ok d

end Variant

end Principals
