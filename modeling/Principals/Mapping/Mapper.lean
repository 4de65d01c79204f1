import Principals.Bindings.Owner
import Principals.Discriminators
import Principals.Event
import Principals.Mapping.RealmResolver
import Principals.Mapping.Variant
import Principals.Principal.Attributes
import Principals.Principal.Document

/-!
# Mapping principals to records

A `Mapper` keeps the principals of one variant in records and restores them. `populate` writes the
shared fields, then the realm if one is given, then the profile; each write stands even if a later
one fails. `restore` reads them back: the discriminator must be the variant's own, the key gives the
profile, and a date-time without a zone counts as UTC.

Attributes are kept apart, one record per value. `describe` gives the event of a lifecycle action.
-/

namespace Principals

/-- A mapper between the principals of a variant and records. -/
structure Mapper where
  variant : Variant
  bindings : Bindings
  discriminators : Discriminators
  resolver : Option RealmResolver

namespace Mapper

/-! ## From principal to record -/

/-- Writes the shared fields. -/
def writeShared (m : Mapper) (id : RecordId) (d : Principal) (token : Value) : StoreM Unit := do
  m.bindings.write id Property.discriminator token true
  m.bindings.write id Property.key (.text d.key) true
  m.bindings.write id Property.enabled d.enabled true
  m.bindings.write id Property.created d.createdDate true
  m.bindings.write id Property.expires d.expirationDate false

/-- Writes the realm in its stored form. -/
def writeRealm (m : Mapper) (id : RecordId) (r : Realm) : StoreM Unit :=
  match m.resolver with
  | none => StoreM.fail (.configuration (.resolverMissing r.id))
  | some resolver => do
    let stored ← resolver.lookup r
    m.bindings.write id Property.realm stored false

/-- Writes a principal to a record. Without a realm, that of the record stays as it is. -/
def populate (m : Mapper) (realm : Option Realm) (id : RecordId) (d : Principal) : StoreM Unit := do
  let token ← StoreM.lift (m.discriminators.tokenFor d.kind)
  m.writeShared id d token
  match realm with
  | some r => m.writeRealm id r
  | none => pure ()
  m.variant.populate m.bindings id d

/-- Makes a record of a principal. -/
def create (m : Mapper) (realm : Option Realm) (d : Principal) : StoreM RecordId := do
  let id ← m.bindings.newIdentity
  m.populate realm id d
  return id

/-! ## From record to principal -/

/-- A stored date-time; one without a zone counts as UTC. -/
def asUtc : Value → Except Failure Value
  | .null => .ok .null
  | .moment d => .ok (.moment d.orUtc)
  | _ => .error .noSuchPart

/-- Restores a principal from a record, in a realm if one is given. -/
def restore (m : Mapper) (realm : Option Realm) (s : Store) (id : RecordId) :
    Except Failure Principal := do
  let b := m.bindings
  let token ← b.read s id Property.discriminator true
  if token ≠ .text m.variant.discriminator then
    .error (.integrity (.discriminatorMismatch token m.variant.discriminator))
  let (kind, profile) ← m.variant.restore b s id
  let enabled ← b.read s id Property.enabled true
  let created ← asUtc (← b.read s id Property.created true)
  let expires ← asUtc (← b.read s id Property.expires false)
  let d ← m.variant.complete b s id
    { kind, enabled, createdDate := created, expirationDate := expires, partition := .null,
      attributes := .mapping [], profile }
  .ok (match realm with
    | some r => { d with partition := .realm r }
    | none => d)

/-- What a variant does before the record of a principal is removed: nothing in its built-in forms. -/
def beforeRemove (_ : Mapper) (_ : RecordId) (_ : Principal) : StoreM Unit := pure ()

/-! ## Attributes -/

/-- Makes the attribute records of one name, in the order of the values. -/
def createNamed (m : Mapper) (owner : RecordId) (name : Value) :
    List Value → StoreM (List RecordId)
  | [] => pure []
  | v :: rest => do
    let id ← m.bindings.newAttribute
    m.bindings.assignOwner id owner
    m.bindings.write id Property.attributeName name true
    m.bindings.write id Property.attributeValue v true
    let ids ← createNamed m owner name rest
    return id :: ids

/-- Makes the attribute records of a mapping of names to values. -/
def createEntries (m : Mapper) (owner : RecordId) :
    List (Value × Value) → StoreM (List RecordId)
  | [] => pure []
  | (name, values) :: rest => do
    let items ← StoreM.lift (Principal.itemsOf values)
    let ids ← m.createNamed owner name items
    let more ← createEntries m owner rest
    return ids ++ more

/-- Makes one attribute record per attribute value of a principal. -/
def createAttributes (m : Mapper) (owner : RecordId) (d : Principal) : StoreM (List RecordId) :=
  match d.attributes with
  | .mapping entries => m.createEntries owner entries
  | _ => StoreM.fail .noSuchPart

/-- The name and the value of an attribute record. -/
def attributeOf (m : Mapper) (s : Store) (id : RecordId) : Except Failure (Value × Value) := do
  let name ← m.bindings.read s id Property.attributeName true
  let v ← m.bindings.read s id Property.attributeValue true
  .ok (name, v)

/-- Adds the values of attribute records to a principal; what was added before a failure stays. -/
def readAttributes (m : Mapper) (s : Store) (d : Principal) :
    List RecordId → Principal × Except Failure Unit
  | [] => (d, .ok ())
  | id :: rest =>
    match (m.attributeOf s id).bind fun (name, v) => d.appendAttribute name v with
    | .ok d => readAttributes m s d rest
    | .error e => (d, .error e)

/-! ## Lifecycle events -/

/-- The event of a lifecycle action on a principal. -/
def describe (m : Mapper) (now : Time.DateTime) (action : LifecycleAction) (d : Principal) :
    Except Failure Event := do
  let token ← m.discriminators.tokenFor d.kind
  let payload ← d.documentSansAttributes
  Event.create now [("name", .text (m.variant.eventName ++ "." ++ action.word)),
    ("action", .text action.word), ("discriminator", token), ("key", .text d.key),
    ("payload", payload.toValue)]

end Mapper

end Principals
