import Principals.Schema.Property
import Principals.Store.Flush

/-!
# Bindings

`Bindings` tie properties to the attributes of two record classes, one for identities and one for
their attributes. They are made from given pairs or from the labels of the classes
(`Bindings.ofLabels`); either way every required property must be bound, and every bound attribute
must exist.

A required property must be bound and have a value; an optional one that is not bound is passed
over.

* `attrOf_eq_ok_iff`, `write_unbound`, `write_bound`, `write_required_null`: how binding and value
  decide.
-/

namespace Principals

/-- Properties bound to the attributes of record classes. -/
structure Bindings where
  identityClass : RecordClass
  attributeClass : RecordClass
  properties : OrderedMap String String
deriving Repr

namespace Bindings

/-- The class to whose attributes a property is bound. -/
def ownerOf (b : Bindings) (property : String) : RecordClass :=
  if Property.isOfAttributes property then b.attributeClass else b.identityClass

/-- The first fault of bindings: a required property that is not bound, or else a property bound to
an attribute that does not exist. -/
def fault? (b : Bindings) : Option ConfigurationFault :=
  match Property.required.find? (! b.properties.contains ·) with
  | some property => some (.requiredBindingMissing property)
  | none =>
    (b.properties.entries.find? fun e => ! (b.ownerOf e.1).hasAttr e.2).map fun e =>
      .unknownAttribute e.1 (b.ownerOf e.1).name e.2

/-- Bindings from given pairs. -/
def create (identity attributes : Option RecordClass) (properties : OrderedMap String String) :
    Except Failure Bindings :=
  match identity, attributes with
  | none, _ => .error (.configuration .identityClassMissing)
  | some _, none => .error (.configuration .attributeClassMissing)
  | some identityClass, some attributeClass =>
    let b : Bindings := ⟨identityClass, attributeClass, properties⟩
    match b.fault? with
    | some f => .error (.configuration f)
    | none => .ok b

/-- The labels of a class that may not be configured. -/
def scan : Option RecordClass → Except Failure (OrderedMap String String)
  | some cls => cls.scan
  | none => .error (.configuration (.unmapped Value.null.shown))

/-- The labels of both classes, those of the attribute class last. -/
def labels (identity attributes : Option RecordClass) :
    Except Failure (OrderedMap String String) := do
  let own ← scan identity
  let more ← scan attributes
  .ok (own.insertAll more.entries)

/-- Bindings from the labels of the classes. -/
def ofLabels (identity attributes : Option RecordClass) : Except Failure Bindings := do
  create identity attributes (← labels identity attributes)

/-- Bindings from the labels of the classes, with changes: each change moves its property to the
end, under another attribute or under none. -/
def ofLabelsWith (identity attributes : Option RecordClass)
    (changes : List (String × Option String)) : Except Failure Bindings := do
  let found ← labels identity attributes
  let changed := changes.foldl
    (fun (acc : OrderedMap String String) (property, attr) => match attr with
      | some attr => acc.insertLast property attr
      | none => acc.erase property)
    found
  create identity attributes changed

/-! ## Properties of records -/

/-- Whether a property is bound. -/
def isBound (b : Bindings) (property : String) : Bool := b.properties.contains property

/-- The attribute to which a property is bound. -/
def attrOf (b : Bindings) (property : String) : Except Failure String :=
  match b.properties.find? property with
  | some attr => .ok attr
  | none => .error (.configuration (.bindingMissing property))

/-- Writes a property of a record. A required property must be bound, and its value present; an
optional one that is not bound is passed over. -/
def write (b : Bindings) (id : RecordId) (property : String) (v : Value) (isRequired : Bool) :
    StoreM Unit :=
  match b.properties.find? property with
  | none => if isRequired then StoreM.fail (.configuration (.bindingMissing property)) else pure ()
  | some attr =>
    if isRequired && v.isNull then StoreM.fail (.integrity (.valueMissing property))
    else StoreM.change fun s => s.set id attr v

/-- The value of a property of a record. A required property must be bound, and its value present;
an optional one that is not bound has no value. -/
def read (b : Bindings) (s : Store) (id : RecordId) (property : String) (isRequired : Bool) :
    Except Failure Value :=
  match b.properties.find? property with
  | none => if isRequired then .error (.configuration (.bindingMissing property)) else .ok .null
  | some attr =>
    let v := s.get id attr
    if isRequired && v.isNull then .error (.integrity (.storedValueMissing property)) else .ok v

/-! ## New records -/

/-- Makes a record of a class without arguments. -/
def make (cls : RecordClass) : StoreM RecordId :=
  match cls.unconstructible with
  | some reason => StoreM.fail (.configuration (.notConstructible cls.name reason))
  | none => StoreM.create { cls }

/-- Makes an identity record. -/
def newIdentity (b : Bindings) : StoreM RecordId := make b.identityClass

/-- Makes an attribute record. -/
def newAttribute (b : Bindings) : StoreM RecordId := make b.attributeClass

/-! ## How binding and value decide -/

theorem attrOf_eq_ok_iff {b : Bindings} {property attr : String} :
    b.attrOf property = .ok attr ↔ b.properties.find? property = some attr := by
  unfold attrOf
  split <;> simp_all

theorem write_unbound {b : Bindings} {property : String} (id : RecordId) (v : Value)
    (unbound : b.properties.find? property = none) : b.write id property v false = pure () := by
  simp [write, unbound]

theorem write_bound {b : Bindings} {property attr : String} {v : Value} {isRequired : Bool}
    (id : RecordId) (bound : b.properties.find? property = some attr)
    (given : (isRequired && v.isNull) = false) :
    b.write id property v isRequired = StoreM.change fun s => s.set id attr v := by
  simp only [write, bound, given, Bool.false_eq_true, if_false]

theorem write_required_null {b : Bindings} {property attr : String} (id : RecordId)
    (bound : b.properties.find? property = some attr) :
    b.write id property .null true = StoreM.fail (.integrity (.valueMissing property)) := by
  simp [write, bound, Value.isNull]

end Bindings

end Principals
