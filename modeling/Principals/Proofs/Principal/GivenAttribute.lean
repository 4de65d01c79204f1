import Principals.Proofs.Principal.Attributes

/-!
# An attribute given to the constructor, or set afterwards

A constructor trims the names of the attributes that it is given, and setting an attribute takes its
name as it is. So the two agree on the names that trimming leaves alone, and on no others.

* `Input.AgreeBut`, `Profile.read?_congr`: which fields of an input matter;
* `create_with_attribute`: constructing with an attribute;
* `setAttribute_of_none`, `getAttribute_given_iff`: setting it, and when the two ways agree.
-/

namespace Principals

/-! ## Inputs that differ in one field -/

namespace Input

variable {α : Type} {input input' : Input} {other name : String}

/-- Inputs that have the same in every field but one. -/
def AgreeBut (other : String) (input input' : Input) : Prop :=
  ∀ name, name ≠ other → input.find? name = input'.find? name

theorem required_congr (agree : AgreeBut other input input') (ne : name ≠ other)
    (read : Value → Checked α) : input.required name read = input'.required name read := by
  rw [required, required, agree name ne]

theorem withDefault_congr (agree : AgreeBut other input input') (ne : name ≠ other) (default : α)
    (read : Value → Checked α) :
    input.withDefault name default read = input'.withDefault name default read := by
  rw [withDefault, withDefault, agree name ne]

end Input

/-- The input of some fields and one more. -/
theorem OrderedMap.ofList_concat {κ ν : Type} [DecidableEq κ] (es : List (κ × ν)) (k : κ) (v : ν) :
    ofList (es ++ [(k, v)]) = (ofList es).insert k v := by
  simp only [ofList, insertAll, List.foldl_append, List.foldl_cons, List.foldl_nil]

namespace Profile

variable {input input' : Input} {other : String}

/-- No profile is read from a field that is none of its own. -/
theorem read?_congr (agree : Input.AgreeBut other input input')
    (notOwn : ∀ f : Field, f.label ≠ other) (kind : Kind) : read? kind input = read? kind input' := by
  have required (f : Field) := Input.required_congr agree (notOwn f) readName
  have optional (f : Field) := Input.withDefault_congr agree (notOwn f) none
    (Reader.optional Reader.text)
  simp only [read?, readAgent, readUser, readGroup, readRole, readOptional, required, optional]

end Profile

namespace SharedFields

variable {input input' : Input} {attributes : OrderedMap String (List Value)} {v : Value}

/-- Attributes in an input without any become those of the shared fields, and change nothing else. -/
theorem read_of_agree (now : Time.DateTime) (agree : Input.AgreeBut "attributes" input input')
    (absent : input.find? "attributes" = none) (given : input'.find? "attributes" = some v)
    (ok : Reader.mapping Reader.list v = .ok attributes) :
    read now input' = (read now input).map fun s => { s with attributes } := by
  have same {α : Type} (name : String) (ne : name ≠ "attributes") (default : α)
      (reader : Value → Checked α) :=
    Input.withDefault_congr agree ne default reader
  rw [read, read, ← same "enabled" (by decide), ← same "created_date" (by decide),
    ← same "expiration_date" (by decide), ← same "partition" (by decide),
    Input.withDefault_of_absent _ _ absent, Input.withDefault_of_find? given ok]
  cases input.withDefault "enabled" true Reader.bool <;>
    cases input.withDefault "created_date" now Reader.moment <;>
    cases input.withDefault "expiration_date" none (Reader.optional Reader.moment) <;>
    cases input.withDefault "partition" none (Reader.optional Reader.realm) <;> rfl

end SharedFields

namespace Principal

variable {now : Time.DateTime} {kind : Kind} {fields : List (String × Value)} {d : Principal}
  {n : String} {vs : List Value}

/-! ## Constructing with an attribute -/

/-- The principal with one attribute instead of those it has. -/
def withAttribute (d : Principal) (n : String) (vs : List Value) : Principal :=
  { d with attributes := .mapping [(.text n, .list vs)] }

/-- Constructing with an attribute is constructing without attributes and then having it under the
trimmed name. -/
theorem create_with_attribute (now : Time.DateTime) (kind : Kind)
    (without : "attributes" ∉ fields.map Prod.fst) (n : String) (vs : List Value) :
    create now kind (fields ++ [("attributes", .mapping [(.text n, .list vs)])]) =
      (create now kind fields).map fun d => d.withAttribute (Text.trim n) vs := by
  have absent : (OrderedMap.ofList fields).find? "attributes" = none :=
    OrderedMap.find?_insertAll_of_notMem without
  have agree : Input.AgreeBut "attributes" (OrderedMap.ofList fields)
      ((OrderedMap.ofList fields).insert "attributes" (.mapping [(.text n, .list vs)])) :=
    fun name ne => (OrderedMap.find?_insert_of_ne _ ne _).symm
  have notOwn : ∀ f : Profile.Field, f.label ≠ "attributes" := by
    intro f
    cases f <;> decide
  have trimmed : Reader.mapping Reader.list (.mapping [(.text n, .list vs)]) =
      .ok ⟨[(Text.trim n, vs)]⟩ := rfl
  have shared := SharedFields.read_of_agree now agree absent (OrderedMap.find?_insert_self ..)
    trimmed
  have profile := Profile.read?_congr agree notOwn kind
  simp only [create, OrderedMap.ofList_concat, shared, ← profile]
  cases Profile.read? kind (OrderedMap.ofList fields) with
  | none => rfl
  | some profile =>
    cases SharedFields.read now (OrderedMap.ofList fields) <;> cases profile <;> rfl

/-- A principal that was constructed without attributes has none. -/
theorem attributes_of_create_without (without : "attributes" ∉ fields.map Prod.fst)
    (made : create now kind fields = .ok d) : d.attributes = .mapping [] := by
  have absent : (OrderedMap.ofList fields).find? "attributes" = none :=
    OrderedMap.find?_insertAll_of_notMem without
  obtain ⟨shared, p, read, -, rfl⟩ := read_of_create made
  have given := SharedFields.attributes_of_read read
  rw [Input.withDefault_of_absent _ _ absent] at given
  rw [SharedFields.toPrincipal, ← Except.ok.inj given]
  rfl

/-! ## Setting it afterwards -/

/-- Setting an attribute of a principal without any takes the name as it is. -/
theorem setAttribute_of_none (none_yet : d.attributes = .mapping []) (n : String)
    (vs : List Value) : d.setAttribute (.text n) vs = .ok (d.withAttribute n vs) := by
  rw [setAttribute, none_yet]
  rfl

theorem withAttribute_inj {n' : String} :
    (d.withAttribute n vs).attributes = (d.withAttribute n' vs).attributes ↔ n = n' := by
  simp [withAttribute]

/-- A principal with one attribute has its values under its name only. -/
theorem getAttribute_withAttribute (d : Principal) (n n' : String) (vs : List Value) :
    (d.withAttribute n' vs).getAttribute (.text n) = .ok (if n' = n then vs else []) := by
  have key : ((Value.text n').key? = some (.text n)) ↔ n' = n := by simp [Value.key?]
  have named : keyOf (.text n) = .ok (.text n) := rfl
  rw [getAttribute, withAttribute]
  simp only [named, ok_bind, Entries.lookup, key]
  by_cases same : n' = n
  · rw [if_pos same, if_pos same]
    rfl
  · rw [if_neg same, if_neg same]

/-- Under a name, what was given to the constructor and what was set are the same if trimming leaves
the name alone, or if there are no values. -/
theorem getAttribute_given_iff (d : Principal) (n : String) (vs : List Value) :
    (d.withAttribute (Text.trim n) vs).getAttribute (.text n) =
        (d.withAttribute n vs).getAttribute (.text n) ↔ Text.trim n = n ∨ vs = [] := by
  rw [getAttribute_withAttribute, getAttribute_withAttribute, if_pos rfl, Except.ok.injEq]
  by_cases trimmed : Text.trim n = n
  · simp [trimmed]
  · simp [trimmed, eq_comm]

end Principal

end Principals
