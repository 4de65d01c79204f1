import Principals.Principal.Basic
import Principals.Validation

/-!
# Construction of principals

`Principal.create` reads the fields of a principal from named values: the shared fields first, then
those of the profile, with every issue reported in that order. Unknown names are ignored. A group
without a path stands at the top level, at `/` and its name. The abstract kind has no principals.
-/

namespace Principals

namespace Profile

/-- Longest login or name. -/
def nameLimit : Nat := 255

/-- A login or a name: neither empty nor longer than `nameLimit`. -/
def readName : Value → Checked String := Reader.textWithin 1 (some nameLimit)

/-- A text or nothing, nothing by default. -/
def readOptional (input : Input) (f : Field) : Checked (Option String) :=
  input.withDefault f.label none (Reader.optional Reader.text)

/-- The path of a group: the given one, or `/` and the name if there is none or it is empty. -/
def pathOrDefault (name : String) (path : Option String) : String :=
  match path with
  | some p => if p = "" then "/" ++ name else p
  | none => "/" ++ name

/-- Reads the fields of an agent. -/
def readAgent (input : Input) : Checked Profile :=
  (input.required Field.loginName.label readName).map fun login => agent (.text login)

/-- Reads the fields of a user. -/
def readUser (input : Input) : Checked Profile :=
  (Checked.both (input.required Field.loginName.label readName)
    (Checked.both (readOptional input .firstName)
      (Checked.both (readOptional input .lastName) (readOptional input .email)))).map
        fun (login, first, last, email) =>
          user (.text login) (.ofText? first) (.ofText? last) (.ofText? email)

/-- Reads the fields of a group. -/
def readGroup (input : Input) : Checked Profile :=
  (Checked.both (input.required Field.name.label readName) (readOptional input .path)).map
    fun (name, path) => group (.text name) (.text (pathOrDefault name path))

/-- Reads the fields of a role. -/
def readRole (input : Input) : Checked Profile :=
  (input.required Field.name.label readName).map fun name => role (.text name)

/-- Reads the profile of a kind; none for the abstract kind. -/
def read? (kind : Kind) (input : Input) : Option (Checked Profile) :=
  match kind.stem with
  | .agent => some (readAgent input)
  | .user => some (readUser input)
  | .group => some (readGroup input)
  | .role => some (readRole input)
  | .identity | .derived .. => none

end Profile

/-- The profile of a kind that named values describe. -/
def Profile.create (kind : Kind) (fields : List (String × Value)) : Except Failure Profile :=
  match Profile.read? kind (.ofList fields) with
  | none => .error .wrongType
  | some profile => Checked.orInvalid kind.name profile

/-- The shared fields as read. -/
structure SharedFields where
  enabled : Bool
  createdDate : Time.DateTime
  expirationDate : Option Time.DateTime
  partition : Option Realm
  attributes : OrderedMap String (List Value)

namespace SharedFields

/-- Reads the shared fields; a principal is enabled and created `now` unless told otherwise. -/
def read (now : Time.DateTime) (input : Input) : Checked SharedFields :=
  (Checked.both (input.withDefault "enabled" true Reader.bool)
    (Checked.both (input.withDefault "created_date" now Reader.moment)
      (Checked.both (input.withDefault "expiration_date" none (Reader.optional Reader.moment))
        (Checked.both (input.withDefault "partition" none (Reader.optional Reader.realm))
          (input.withDefault "attributes" ∅ (Reader.mapping Reader.list)))))).map
            fun (enabled, created, expiration, realm, attributes) =>
              ⟨enabled, created, expiration, realm, attributes⟩

/-- Attribute lists as a value. -/
def attributesValue (attributes : OrderedMap String (List Value)) : Value :=
  .mapping (attributes.entries.map fun (name, values) => (.text name, .list values))

/-- The principal of a kind with these fields and a profile. -/
def toPrincipal (s : SharedFields) (kind : Kind) (profile : Profile) : Principal where
  kind
  enabled := .bool s.enabled
  createdDate := .moment s.createdDate
  expirationDate := (s.expirationDate.map Value.moment).getD .null
  partition := (s.partition.map Value.realm).getD .null
  attributes := attributesValue s.attributes
  profile

end SharedFields

/-- The principal of a kind that named values describe. -/
def Principal.create (now : Time.DateTime) (kind : Kind) (fields : List (String × Value)) :
    Except Failure Principal :=
  let input : Input := .ofList fields
  match Profile.read? kind input with
  | none => .error .wrongType
  | some profile =>
    Checked.orInvalid kind.name
      ((Checked.both (SharedFields.read now input) profile).map
        fun (shared, profile) => shared.toPrincipal kind profile)

end Principals
