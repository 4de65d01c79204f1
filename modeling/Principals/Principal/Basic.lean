import Principals.IdentityKey
import Principals.Kind
import Principals.Failure

/-!
# Principals

A `Principal` has a kind, the fields that all principals share, and a `Profile` with the fields of
its built-in stem. Assignment after construction is not checked, so every field holds a `Value`;
`Principal.create` (in `Principals.Principal.Create`) is what checks.

The key is not stored: `Principal.key` composes it from the kind's prefix and the natural
identifier, the login of an agent, the path of a group, the name of a role.
-/

namespace Principals

/-- The fields that a principal has beyond the shared ones. -/
inductive Profile
  | agent (loginName : Value)
  | user (loginName firstName lastName email : Value)
  | group (name path : Value)
  | role (name : Value)
deriving DecidableEq, Repr

/-- A principal. -/
structure Principal where
  kind : Kind
  enabled : Value
  createdDate : Value
  expirationDate : Value
  partition : Value
  attributes : Value
  profile : Profile
deriving DecidableEq, Repr

/-- The fields of profiles. -/
inductive Profile.Field
  | loginName
  | firstName
  | lastName
  | email
  | name
  | path
deriving DecidableEq, Repr

namespace Profile

/-- The name of a field. -/
def Field.label : Field → String
  | loginName => "login_name"
  | firstName => "first_name"
  | lastName => "last_name"
  | email => "email"
  | name => "name"
  | path => "path"

/-- All fields of profiles. -/
def Field.all : List Field := [.loginName, .firstName, .lastName, .email, .name, .path]

/-- The fields of a profile with their values, in the order in which they are declared. -/
def fields : Profile → List (Field × Value)
  | agent loginName => [(.loginName, loginName)]
  | user loginName firstName lastName email =>
    [(.loginName, loginName), (.firstName, firstName), (.lastName, lastName), (.email, email)]
  | group name path => [(.name, name), (.path, path)]
  | role name => [(.name, name)]

/-- The value of a field, if the profile has it. -/
def get? : Profile → Field → Option Value
  | agent loginName, .loginName => some loginName
  | user loginName _ _ _, .loginName => some loginName
  | user _ firstName _ _, .firstName => some firstName
  | user _ _ lastName _, .lastName => some lastName
  | user _ _ _ email, .email => some email
  | group name _, .name => some name
  | group _ path, .path => some path
  | role name, .name => some name
  | _, _ => none

/-- The profile with a field set, if it has it. -/
def set? : Profile → Field → Value → Option Profile
  | agent _, .loginName, v => some (agent v)
  | user _ f l e, .loginName, v => some (user v f l e)
  | user n _ l e, .firstName, v => some (user n v l e)
  | user n f _ e, .lastName, v => some (user n f v e)
  | user n f l _, .email, v => some (user n f l v)
  | group _ p, .name, v => some (group v p)
  | group n _, .path, v => some (group n v)
  | role _, .name, v => some (role v)
  | _, _, _ => none

/-- The natural identifier: login, path or name. -/
def identifier : Profile → Value
  | agent loginName => loginName
  | user loginName _ _ _ => loginName
  | group _ path => path
  | role name => name

end Profile

namespace Principal

/-- The natural identifier. -/
def identifier (d : Principal) : Value := d.profile.identifier

/-- The key of a principal. -/
def key (d : Principal) : String := IdentityKey.compose d.kind.keyPrefix d.identifier.plain

/-- The fields of a principal by name, in the order in which they are declared. -/
def fields (d : Principal) : List (String × Value) :=
  [("enabled", d.enabled), ("created_date", d.createdDate),
    ("expiration_date", d.expirationDate), ("partition", d.partition),
    ("attributes", d.attributes)] ++ d.profile.fields.map fun (f, v) => (f.label, v)

/-- Sets a field of the profile; a field that the kind does not have cannot be set. -/
def setProfile (d : Principal) (f : Profile.Field) (v : Value) : Except Failure Principal :=
  match d.profile.set? f v with
  | some p => .ok { d with profile := p }
  | none => .error .badValue

/-- The value of a field of the profile; a field that the kind does not have cannot be read. -/
def getProfile (d : Principal) (f : Profile.Field) : Except Failure Value :=
  match d.profile.get? f with
  | some v => .ok v
  | none => .error .noSuchPart

/-- Sets the named field. The key and what it is made of are derived and cannot be set. -/
def set (d : Principal) (name : String) (v : Value) : Except Failure Principal :=
  match name with
  | "enabled" => .ok { d with enabled := v }
  | "created_date" => .ok { d with createdDate := v }
  | "expiration_date" => .ok { d with expirationDate := v }
  | "partition" => .ok { d with partition := v }
  | "attributes" => .ok { d with attributes := v }
  | "key" | "key_id" | "KEY_PREFIX" => .error .noSuchPart
  | name =>
    match Profile.Field.all.find? (·.label == name) with
    | some f => d.setProfile f v
    | none => .error .badValue

end Principal

end Principals
