import Principals.Mapping.Registry
import Principals.Query.Clause
import Principals.Query.Compiler

/-!
# Building queries

The predicates of a query are, in order: the discriminator is one of the tokens of the kind (and of
the kinds derived from it, if those are included), the realm is the given one, and whatever the
parameters ask for. A record that satisfies all of them is selected.

`predicatesUnder` takes the hierarchy of the kinds as given, and `predicates` is what it builds over
their derivations.
-/

namespace Principals

/-- What builds queries. -/
structure QueryBuilder where
  registry : Registry
  compiler : Compiler
  /-- Whether a query for a kind also finds the kinds derived from it. -/
  includeSubkinds : Bool

namespace QueryBuilder

/-- The discriminator is one of some tokens. -/
def tokenPredicate (b : Bindings) (tokens : List Value) : Except Failure Predicate := do
  let attr ← b.attrOf Property.discriminator
  match b.identityClass.column? attr with
  | some c => .ok (.column c (.within tokens))
  | none => .error .badOperand

/-- The realm is the given one, in its stored form. -/
def realmPredicate (q : QueryBuilder) (r : Realm) : StoreM Predicate := do
  match q.registry.resolver with
  | none => StoreM.fail (.configuration (.resolverMissing r.id))
  | some resolver => do
    let b := q.registry.bindings
    let attr ← StoreM.lift (b.attrOf Property.realm)
    let stored ← resolver.lookup r
    StoreM.ask fun s => Predicate.ofComparison s b.identityClass attr .equal stored

/-- What the parameters of a query ask for. -/
def parameterPredicates (q : QueryBuilder) (s : Store) (form : Variant.Form) :
    List (Parameter × List Value) → Except Failure (List Predicate)
  | [] => .ok []
  | (p, values) :: rest => do
    let ps ← q.compiler.compile s p values (some form)
    let more ← parameterPredicates q s form rest
    .ok (ps ++ more)

/-- The predicates of a query over a hierarchy of kinds, in a realm if one is given. -/
def predicatesUnder (below : Kind → Kind → Bool) (q : QueryBuilder) (query : Query)
    (realm : Option Realm) : StoreM (List Predicate) := do
  let m ← StoreM.lift (q.registry.forKind query.kind)
  let tokens ← StoreM.lift
    (q.registry.discriminators.tokensUnder below query.kind q.includeSubkinds)
  let first ← StoreM.lift (tokenPredicate q.registry.bindings tokens)
  let scope ← match realm with
    | some r => do
      let p ← q.realmPredicate r
      pure [p]
    | none => pure []
  let more ← StoreM.ask fun s => q.parameterPredicates s m.variant.form query.parameters.values
  return first :: (scope ++ more)

/-- The predicates of a query, in a realm if one is given. -/
def predicates (q : QueryBuilder) (query : Query) (realm : Option Realm) :
    StoreM (List Predicate) :=
  q.predicatesUnder Kind.isSubkindOf query realm

/-- The records that a query selects. All changes are written first. -/
def run (q : QueryBuilder) (predicates : List Predicate) : StoreM (List RecordId) := do
  StoreM.flush
  StoreM.ask fun s => s.select q.registry.bindings.identityClass predicates

end QueryBuilder

end Principals
