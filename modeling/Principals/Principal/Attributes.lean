import Principals.Principal.Basic

/-!
# Attributes of principals

Attributes map names to lists of values. They are a mapping like any other value: whatever was
assigned in their place is what these operations meet, so each of them can fail.

* `lookup_write_self`, `lookup_write_of_ne`: writing an entry changes that entry only.
-/

namespace Principals

namespace Entries

/-- The value of the first entry whose key is `k`. -/
def lookup (k : Value.Key) : List (Value × Value) → Option Value
  | [] => none
  | (k', v) :: rest => if k'.key? = some k then some v else lookup k rest

/-- Writes `v` in place of the first entry whose key is that of `name`, or at the end. -/
def write (name : Value) (k : Value.Key) (v : Value) : List (Value × Value) → List (Value × Value)
  | [] => [(name, v)]
  | (k', v') :: rest =>
    if k'.key? = some k then (k', v) :: rest else (k', v') :: write name k v rest

/-- The entries but those whose key is `k`. -/
def erase (k : Value.Key) (entries : List (Value × Value)) : List (Value × Value) :=
  entries.filter fun e => e.1.key? ≠ some k

theorem lookup_write_self {name : Value} {k : Value.Key} (h : name.key? = some k) (v : Value)
    (es : List (Value × Value)) : lookup k (write name k v es) = some v := by
  induction es with
  | nil => simp [write, lookup, h]
  | cons e rest ih =>
    obtain ⟨k', v'⟩ := e
    by_cases hk : k'.key? = some k <;> simp [write, lookup, hk, ih]

theorem lookup_write_of_ne {name : Value} {k j : Value.Key} (h : name.key? = some k) (ne : j ≠ k)
    (v : Value) (es : List (Value × Value)) : lookup j (write name k v es) = lookup j es := by
  induction es with
  | nil => simp [write, lookup, h, ne.symm]
  | cons e rest ih =>
    obtain ⟨k', v'⟩ := e
    by_cases hk : k'.key? = some k
    · simp [write, lookup, hk, ne.symm]
    · by_cases hj : k'.key? = some j <;> simp [write, lookup, hk, hj, ih, ne]

end Entries

/-- The key of a name, which must have one. -/
def keyOf (name : Value) : Except Failure Value.Key :=
  match name.key? with
  | some k => .ok k
  | none => .error .wrongType

namespace Principal

/-- The principal with `values` under an attribute name. -/
def setAttribute (d : Principal) (name : Value) (values : List Value) :
    Except Failure Principal := do
  match d.attributes with
  | .mapping entries =>
    let k ← keyOf name
    .ok { d with attributes := .mapping (Entries.write name k (.list values) entries) }
  | _ => .error .wrongType

/-- The items over which a value can be gone through. -/
def itemsOf : Value → Except Failure (List Value)
  | .list items => .ok items
  | .text s => .ok (s.toList.map fun c => .text c.toString)
  | .mapping entries => .ok (entries.map Prod.fst)
  | .bytes b => .ok (b.map fun x => .int x.toNat)
  | _ => .error .wrongType

/-- The values under an attribute name; none if it is not there. -/
def getAttribute (d : Principal) (name : Value) : Except Failure (List Value) := do
  match d.attributes with
  | .mapping entries =>
    let k ← keyOf name
    match Entries.lookup k entries with
    | some v => itemsOf v
    | none => .ok []
  | _ => .error .noSuchPart

/-- The principal without an attribute name. -/
def removeAttribute (d : Principal) (name : Value) : Except Failure Principal := do
  match d.attributes with
  | .mapping [] => .ok d
  | .mapping entries =>
    let k ← keyOf name
    .ok { d with attributes := .mapping (Entries.erase k entries) }
  | .list _ => .error .wrongType
  | _ => .error .noSuchPart

/-- The principal with one more value under an attribute name. -/
def appendAttribute (d : Principal) (name value : Value) : Except Failure Principal := do
  match d.attributes with
  | .mapping entries =>
    let k ← keyOf name
    match Entries.lookup k entries with
    | none =>
      .ok { d with attributes := .mapping (Entries.write name k (.list [value]) entries) }
    | some (.list items) =>
      let extended := .list (items ++ [value])
      .ok { d with attributes := .mapping (Entries.write name k extended entries) }
    | some _ => .error .noSuchPart
  | _ => .error .noSuchPart

/-- Every attribute name with each of its values, in order. -/
def attributePairs (entries : List (Value × Value)) : Except Failure (List (Value × Value)) := do
  match entries with
  | [] => .ok []
  | (name, values) :: rest =>
    let items ← itemsOf values
    let pairs ← attributePairs rest
    .ok (items.map (fun v => (name, v)) ++ pairs)

end Principal

end Principals
