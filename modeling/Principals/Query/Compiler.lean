import Principals.Bindings.Owner
import Principals.Mapping.Variant
import Principals.Query.Parameter
import Principals.Query.Predicate

/-!
# From parameters to predicates

A parameter with its values becomes at most one predicate. A shared field is compared with the
first value, a variant's field is equal to it, a named attribute must have all values; a parameter
that no rule knows narrows nothing. A rule without a value holds of nothing.

The number of attribute rows asked for is the number of values given, repetitions included, unless
repeated values are to count once.
-/

namespace Principals

namespace IdentityParameter

/-- The property and the comparison for which a parameter stands. -/
def rule : IdentityParameter → Property × Comparison
  | enabled => (Property.enabled, .equal)
  | createdDate => (Property.created, .equal)
  | expiryDate => (Property.expires, .equal)
  | createdAfter => (Property.created, .above)
  | expiryAfter => (Property.expires, .above)
  | createdBefore => (Property.created, .below)
  | expiryBefore => (Property.expires, .below)

end IdentityParameter

namespace Test

/-- A comparison of a column with a value. Emptiness and truth values are tested as such, and have
no order; a record is not a value of a column. -/
def ofComparison (op : Comparison) (v : Value) : Except Failure Test :=
  match op, v with
  | .equal, .null => .ok .isNull
  | .equal, .bool b => .ok (.is b)
  | _, .null | _, .bool _ | _, .record _ => .error .badOperand
  | op, v => .ok (.compare op v)

/-- A list of values can be asked for unless its first is a record. -/
def needValues : List Value → Except Failure Unit
  | .record _ :: _ => .error .badOperand
  | _ => .ok ()

end Test

namespace Predicate

/-- A comparison of an attribute of a class with a value. A relationship can only be compared with
a record, which is named by its key. -/
def ofComparison (s : Store) (cls : RecordClass) (attr : String) (op : Comparison) (v : Value) :
    Except Failure Predicate :=
  match cls.relationship? attr with
  | some rel => match cls.column? rel.localAttr, op, v with
    | some c, .equal, .record id => .ok (.refersTo c (s.get id rel.remote))
    | some c, .equal, .null => .ok (.column c .isNull)
    | _, _, _ => .error .badOperand
  | none => match cls.column? attr with
    | some c => (Test.ofComparison op v).map (.column c)
    | none => .error .badOperand

end Predicate

/-- What turns parameters into predicates. -/
structure Compiler where
  bindings : Bindings
  /-- Whether repeated values of an attribute count once. -/
  distinct : Bool

namespace Compiler

/-- A class that a query can go over under another name. -/
def needQueryable (cls : RecordClass) : Except Failure Unit :=
  if cls.isMapped then .ok () else .error .notQueryable

/-- A column of a class. -/
def columnOf (cls : RecordClass) (attr : String) : Except Failure Column :=
  match cls.column? attr with
  | some c => .ok c
  | none => .error .badOperand

/-- The values that are asked for. -/
def effective (k : Compiler) (values : List Value) : Except Failure (List Value) :=
  if k.distinct then
    match Value.distinct? values with
    | some vs => .ok vs
    | none => .error .wrongType
  else .ok values

/-- The identities that have all the values under an attribute name. -/
def attributePredicate (k : Compiler) (name : Value) (values : List Value) :
    Except Failure Predicate := do
  let values ← k.effective values
  if values.isEmpty then .ok .never
  else
    let cls := k.bindings.attributeClass
    needQueryable cls
    let owner ← columnOf cls (← k.bindings.ownerColumn)
    let nameColumn ← columnOf cls (← k.bindings.attrOf Property.attributeName)
    let valueColumn ← columnOf cls (← k.bindings.attrOf Property.attributeValue)
    let nameTest ← Test.ofComparison .equal name
    Test.needValues values
    let identity ← columnOf k.bindings.identityClass (← k.bindings.identityColumn)
    .ok (.hasAttributes ⟨identity, cls, owner, nameColumn, valueColumn, nameTest, values⟩)

/-- A property compared with the first of the values. -/
def comparePredicate (k : Compiler) (s : Store) (property : Property) (op : Comparison) :
    List Value → Except Failure Predicate
  | [] => .ok .never
  | v :: _ => do
    let attr ← k.bindings.attrOf property
    Predicate.ofComparison s k.bindings.identityClass attr op v

/-- The predicates of a parameter with its values, at most one. -/
def compile (k : Compiler) (s : Store) (p : Parameter) (values : List Value)
    (form : Option Variant.Form) : Except Failure (List Predicate) :=
  match p with
  | .named attr => (k.attributePredicate (.text attr) values).map fun q => [q]
  | .identity p => (k.comparePredicate s p.rule.1 p.rule.2 values).map fun q => [q]
  | .variant p => match form.bind (·.queryProperty? p) with
    | some property => (k.comparePredicate s property .equal values).map fun q => [q]
    | none => .ok []
  | .unknown _ => .ok []

theorem length_of_map_singleton {r : Except Failure Predicate} {ps : List Predicate}
    (h : r.map (fun q => [q]) = .ok ps) : ps.length ≤ 1 := by
  cases r with
  | error e => cases h
  | ok q => cases h; exact Nat.le_refl 1

/-- Every parameter becomes at most one predicate. -/
theorem length_compile_le {k : Compiler} {s : Store} {p : Parameter} {values : List Value}
    {form : Option Variant.Form} {ps : List Predicate}
    (h : k.compile s p values form = .ok ps) : ps.length ≤ 1 := by
  unfold compile at h
  split at h
  · exact length_of_map_singleton h
  · exact length_of_map_singleton h
  · split at h
    · exact length_of_map_singleton h
    · cases h; exact Nat.zero_le 1
  · cases h; exact Nat.zero_le 1

end Compiler

end Principals
