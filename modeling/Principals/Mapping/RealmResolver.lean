import Principals.Schema.Standard
import Principals.Store.Flush

/-!
# Resolving realms

A realm is written into a record in its stored form. A resolver says what that is: the record that a
table has under the id of the realm, a new realm record each time, or the bare id. The last two note
which ids they saw.
-/

namespace Principals

/-- How a realm is turned into its stored form. -/
inductive RealmResolver
  /-- The stored record of a class whose key is the id of the realm, which must exist. -/
  | table (partitions : RecordClass)
  /-- A new realm record. -/
  | fresh
  /-- The id. -/
  | identifier
deriving DecidableEq, Repr

namespace RealmResolver

/-- Notes that a realm was looked up. -/
def note (r : Realm) : StoreM Unit :=
  StoreM.change fun s => .ok { s with lookups := s.lookups ++ [r.id] }

/-- The stored record of a class for a realm: the one whose key, in a column of its own, is the id of
the realm. -/
def findIn (partitions : RecordClass) (s : Store) (r : Realm) : Option RecordId :=
  match partitions.primaryKey with
  | [key] => (partitions.column? key).bind fun c =>
    s.findStored partitions.name key (c.type.affinity.apply (.text r.id))
  | _ => none

/-- What a resolver that reads a table has for a realm. -/
def find? (resolver : RealmResolver) (s : Store) (r : Realm) : Option RecordId :=
  match resolver with
  | table partitions => findIn partitions s r
  | fresh | identifier => none

/-- The stored realms of the standard schema. -/
def stored : RealmResolver := .table Standard.realmClass

/-- The record that the standard tables hold for a realm. -/
def findRealm (s : Store) (r : Realm) : Option RecordId := findIn Standard.realmClass s r

theorem findRealm_eq (s : Store) (r : Realm) :
    findRealm s r = s.findStored Standard.realmClass.name "id" (.text r.id) := rfl

/-- A record for a realm that is not stored yet. -/
def realmRecord (r : Realm) : Record :=
  ({ cls := Standard.realmClass : Record }.setValue "id" (.text r.id)).setValue "name"
    (.ofText? r.name)

/-- The stored form of a realm. -/
def lookup (resolver : RealmResolver) (r : Realm) : StoreM Value :=
  match resolver with
  | table partitions => StoreM.ask fun s => match findIn partitions s r with
    | some id => .ok (.record id)
    | none => .error (.fault (.notFound "Partition" r.id))
  | fresh => do
    note r
    return .record (← StoreM.create (realmRecord r))
  | identifier => do
    note r
    return .text r.id

end RealmResolver

end Principals
