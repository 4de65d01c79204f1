import Principals.Kind
import Principals.Validation

/-!
# Query parameters

A query is narrowed by parameters: shared fields (`IdentityParameter`), fields of a variant
(`VariantParameter`) and named attributes. A parameter may also be any other value, which no rule
knows. The words of the first two are keys like the texts that spell them, so such a text finds the
same entry of a query.
-/

namespace Principals

/-- Parameters on the fields that all principals share. -/
inductive IdentityParameter
  | enabled
  | createdDate
  | expiryDate
  | createdAfter
  | createdBefore
  | expiryAfter
  | expiryBefore
deriving DecidableEq, Repr

/-- Parameters on the fields of a variant. -/
inductive VariantParameter
  | loginName
  | firstName
  | lastName
  | email
  | name
  | groupPath
deriving DecidableEq, Repr

namespace IdentityParameter

/-- All parameters on shared fields. -/
def all : List IdentityParameter :=
  [enabled, createdDate, expiryDate, createdAfter, createdBefore, expiryAfter, expiryBefore]

/-- The word for a parameter. -/
def word : IdentityParameter → String
  | enabled => "enabled"
  | createdDate => "created_date"
  | expiryDate => "expiry_date"
  | createdAfter => "created_after"
  | createdBefore => "created_before"
  | expiryAfter => "expiry_after"
  | expiryBefore => "expiry_before"

/-- The parameter for a word. -/
def ofWord? (word : String) : Option IdentityParameter := all.find? (·.word == word)

theorem ofWord?_word (p : IdentityParameter) : ofWord? p.word = some p := by
  cases p <;> decide

end IdentityParameter

namespace VariantParameter

/-- All parameters on variant fields. -/
def all : List VariantParameter := [loginName, firstName, lastName, email, name, groupPath]

/-- The word for a parameter. -/
def word : VariantParameter → String
  | loginName => "login_name"
  | firstName => "first_name"
  | lastName => "last_name"
  | email => "email"
  | name => "name"
  | groupPath => "group_path"

/-- The parameter for a word. -/
def ofWord? (word : String) : Option VariantParameter := all.find? (·.word == word)

theorem ofWord?_word (p : VariantParameter) : ofWord? p.word = some p := by
  cases p <;> decide

end VariantParameter

/-- A query parameter. -/
inductive Parameter
  | identity (p : IdentityParameter)
  | variant (p : VariantParameter)
  /-- The attribute of a name. -/
  | named (attr : String)
  /-- A value that no rule knows. -/
  | unknown (v : Value)
deriving DecidableEq, Repr

namespace Parameter

/-- The keys of parameters. -/
inductive Key
  | value (k : Value.Key)
  | named (attr : String)
deriving DecidableEq, Repr

/-- The key under which a query holds a parameter, if it can hold it. -/
def key? : Parameter → Option Key
  | identity p => some (.value (.text p.word))
  | variant p => some (.value (.text p.word))
  | named attr => some (.named attr)
  | unknown v => v.key?.map .value

/-- The parameter for the attribute that a value names; the name is trimmed. -/
def ofName (v : Value) : Except Failure Parameter :=
  Checked.orInvalid "AttributeParameter"
    ((Checked.within (.name "name") (Reader.text v)).map named)

end Parameter

/-- A query for the principals of a kind. -/
structure Query where
  kind : Kind
  parameters : OrderedMap Parameter.Key (Parameter × List Value) := ∅

namespace Query

/-- The query with the values of a parameter replaced; a parameter already there keeps its place and
the form in which it was first given. -/
def set (q : Query) (p : Parameter) (values : List Value) : Except Failure Query :=
  match p.key? with
  | none => .error .wrongType
  | some k =>
    let first := ((q.parameters.find? k).map Prod.fst).getD p
    .ok { q with parameters := q.parameters.insert k (first, values) }

/-- What a query is called in messages. -/
def title (q : Query) : String :=
  "<IdentityQuery(" ++ q.kind.name ++ ", " ++ toString q.parameters.size ++ " parameters)>"

end Query

end Principals
