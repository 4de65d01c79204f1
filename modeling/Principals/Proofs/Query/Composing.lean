import Principals.Proofs.Bindings.Overlay
import Principals.Proofs.Outcome
import Principals.Proofs.Schema.Standard
import Principals.Proofs.Value.Distinct
import Principals.Query.Compiler

/-!
# Parameters that can be composed

Where every property that a query can ask for is tied to a column, a parameter with its values
becomes at most one predicate unless a value stands in the way: emptiness and truth values have no
order, a record is not a value of a column, and repeated values can only be told from others if each
has a key.

* `Bindings.Askable`: properties tied to columns;
* `Compiler.Composes`: the values with which a parameter can be composed;
* `Compiler.exists_compile_iff`: these, and no others, give predicates.
-/

namespace Principals

/-! ## Comparisons -/

namespace Test

variable {op : Comparison} {v : Value} {values : List Value}

/-- Whether a column can be compared so with a value. -/
def Composes (op : Comparison) : Value → Prop
  | .null | .bool _ => op = .equal
  | .record _ => False
  | _ => True

theorem exists_ofComparison_iff : (∃ test, ofComparison op v = .ok test) ↔ Composes op v := by
  cases op <;> cases v <;> simp [ofComparison, Composes]

theorem needValues_eq_ok_iff :
    needValues values = .ok () ↔ ∀ id, values.head? ≠ some (.record id) := by
  cases values with
  | nil => simp [needValues]
  | cons v rest => cases v <;> simp [needValues]

end Test

/-! ## Properties tied to columns -/

/-- Every property that a query can ask for is tied to a column of its class, and so are both ends
of the reference from an attribute to its owner. -/
structure Bindings.Askable (b : Bindings) : Prop where
  attributes : b.attributeClass.isMapped = true
  compared : ∀ property ∈ Property.ofIdentities, property ≠ Property.realm →
    ∃ attr c, b.properties.find? property = some attr ∧
      b.identityClass.relationship? attr = none ∧ b.identityClass.column? attr = some c
  owner : ∃ attr c, b.ownerColumn = .ok attr ∧ b.attributeClass.column? attr = some c
  identity : ∃ attr c, b.identityColumn = .ok attr ∧ b.identityClass.column? attr = some c
  name : ∃ attr c, b.properties.find? Property.attributeName = some attr ∧
    b.attributeClass.column? attr = some c
  value : ∃ attr c, b.properties.find? Property.attributeValue = some attr ∧
    b.attributeClass.column? attr = some c

theorem IdentityParameter.rule_spec (p : IdentityParameter) :
    p.rule.1 ∈ Property.ofIdentities ∧ p.rule.1 ≠ Property.realm := by
  cases p <;> decide

theorem Variant.Form.queryProperty?_spec {form : Variant.Form} {p : VariantParameter}
    {property : Property} (declared : form.queryProperty? p = some property) :
    property ∈ Property.ofIdentities ∧ property ≠ Property.realm := by
  cases form <;> cases p <;> cases declared <;> decide

theorem Standard.askable_bindings : Standard.bindings.Askable where
  attributes := rfl
  compared := by
    have tied : ∀ property ∈ Property.ofIdentities, property ≠ Property.realm →
        (Standard.bindings.properties.find? property).any (fun attr =>
          (Standard.identityClass.relationship? attr).isNone &&
            (Standard.identityClass.column? attr).isSome) = true := by
      decide
    intro property among notRealm
    obtain ⟨attr, bound, fits⟩ := (Option.any_eq_true _ _).mp (tied property among notRealm)
    obtain ⟨notLink, isColumn⟩ := Bool.and_eq_true_iff.mp fits
    obtain ⟨c, found⟩ := Option.isSome_iff_exists.mp isColumn
    exact ⟨attr, c, bound, Option.isNone_iff_eq_none.mp notLink, found⟩
  owner := ⟨_, _, rfl, rfl⟩
  identity := ⟨_, _, rfl, rfl⟩
  name := ⟨_, _, rfl, rfl⟩
  value := ⟨_, _, rfl, rfl⟩

namespace Compiler

variable {k : Compiler} {s : Store} {property : Property} {op : Comparison} {n : String}
  {values : List Value} {form : Option Variant.Form}

/-! ## Composing -/

/-- The values with which a parameter becomes predicates: only the first value of a comparison
counts, and the values of an attribute must have keys if repeated ones are to count once. -/
def Composes (k : Compiler) (form : Option Variant.Form) (values : List Value) : Parameter → Prop
  | .named _ => (k.distinct = true → ∀ v ∈ values, v.key? ≠ none) ∧
      ∀ id, values.head? ≠ some (.record id)
  | .identity p => ∀ v ∈ values.head?, Test.Composes p.rule.2 v
  | .variant p => (form.bind (·.queryProperty? p)).isSome = true →
      ∀ v ∈ values.head?, Test.Composes .equal v
  | .unknown _ => True

theorem exists_comparePredicate_iff (askable : k.bindings.Askable)
    (ofIdentities : property ∈ Property.ofIdentities) (notRealm : property ≠ Property.realm) :
    (∃ p, k.comparePredicate s property op values = .ok p) ↔
      ∀ v ∈ values.head?, Test.Composes op v := by
  cases values with
  | nil => exact ⟨fun _ => nofun, fun _ => ⟨.never, rfl⟩⟩
  | cons v rest =>
    obtain ⟨attr, c, bound, notLink, isColumn⟩ := askable.compared property ofIdentities notRealm
    have compared : k.comparePredicate s property op (v :: rest) =
        (Test.ofComparison op v).map (.column c) := by
      rw [comparePredicate, Bindings.attrOf_eq_ok_iff.mpr bound, ok_bind]
      simp only [Predicate.ofComparison, notLink, isColumn]
    simp only [compared, List.head?_cons, Option.mem_some_iff, forall_eq',
      ← Test.exists_ofComparison_iff, map_eq_ok]
    constructor
    · intro h
      rcases h with ⟨_, test, made, -⟩
      exact ⟨test, made⟩
    · intro h
      rcases h with ⟨test, made⟩
      exact ⟨_, test, made, rfl⟩

theorem exists_effective_iff :
    (∃ vs, k.effective values = .ok vs) ↔
      (k.distinct = true → ∀ v ∈ values, v.key? ≠ none) := by
  rw [← Value.exists_distinct?_iff, effective]
  cases k.distinct with
  | false => simp
  | true => cases Value.distinct? values <;> simp

/-- What is asked for begins with the first value given. -/
theorem head?_of_effective {vs : List Value} (done : k.effective values = .ok vs) :
    vs.head? = values.head? := by
  rw [effective] at done
  cases distinct : k.distinct with
  | false =>
    rw [distinct] at done
    cases done
    rfl
  | true =>
    rw [distinct] at done
    cases once : Value.distinct? values with
    | none =>
      rw [once] at done
      cases done
    | some kept =>
      rw [once] at done
      cases done
      exact Value.head?_of_distinct? once

/-- Some values under an attribute name become a test of the columns that the bindings tie the
attributes to, if the values can be asked for. -/
theorem attributePredicate_eq {ownerAttr identityAttr nameAttr valueAttr : String}
    {owner identity name value : Column} {vs : List Value}
    (mapped : k.bindings.attributeClass.isMapped = true)
    (ownerBound : k.bindings.ownerColumn = .ok ownerAttr)
    (isOwner : k.bindings.attributeClass.column? ownerAttr = some owner)
    (identityBound : k.bindings.identityColumn = .ok identityAttr)
    (isIdentity : k.bindings.identityClass.column? identityAttr = some identity)
    (nameBound : k.bindings.properties.find? Property.attributeName = some nameAttr)
    (isName : k.bindings.attributeClass.column? nameAttr = some name)
    (valueBound : k.bindings.properties.find? Property.attributeValue = some valueAttr)
    (isValue : k.bindings.attributeClass.column? valueAttr = some value)
    (taken : k.effective values = .ok vs) (nonempty : vs ≠ []) :
    k.attributePredicate (.text n) values = (Test.needValues vs).map fun _ =>
      .hasAttributes ⟨identity, k.bindings.attributeClass, owner, name, value,
        .compare .equal (.text n), vs⟩ := by
  have named : Test.ofComparison .equal (.text n) = .ok (.compare .equal (.text n)) := rfl
  have some_values : vs.isEmpty = false := by simpa using nonempty
  simp only [attributePredicate, taken, ok_bind, some_values, Bool.false_eq_true, if_false,
    needQueryable, mapped, if_true, ownerBound, columnOf, isOwner, identityBound, isIdentity,
    Bindings.attrOf_eq_ok_iff.mpr nameBound, isName, Bindings.attrOf_eq_ok_iff.mpr valueBound,
    isValue, named]
  cases Test.needValues vs <;> rfl

/-- The test for some values depends on what is asked for only by whether it can be. -/
theorem exists_attributePredicate_eq (askable : k.bindings.Askable) {vs : List Value}
    (taken : k.effective values = .ok vs) (nonempty : vs ≠ []) :
    ∃ t, k.attributePredicate (.text n) values =
      (Test.needValues vs).map fun _ => .hasAttributes t := by
  obtain ⟨_, _, ownerBound, isOwner⟩ := askable.owner
  obtain ⟨_, _, identityBound, isIdentity⟩ := askable.identity
  obtain ⟨_, _, nameBound, isName⟩ := askable.name
  obtain ⟨_, _, valueBound, isValue⟩ := askable.value
  exact ⟨_, attributePredicate_eq askable.attributes ownerBound isOwner identityBound isIdentity
    nameBound isName valueBound isValue taken nonempty⟩

theorem exists_attributePredicate_iff (askable : k.bindings.Askable) :
    (∃ p, k.attributePredicate (.text n) values = .ok p) ↔ k.Composes form values (.named n) := by
  rw [Composes, ← exists_effective_iff]
  have made : ∀ vs, k.effective values = .ok vs →
      ((∃ p, k.attributePredicate (.text n) values = .ok p) ↔ Test.needValues vs = .ok ()) := by
    intro vs taken
    by_cases none_taken : vs = []
    · have never : k.attributePredicate (.text n) values = .ok .never := by
        rw [attributePredicate, taken, none_taken]
        rfl
      rw [never, none_taken]
      exact ⟨fun _ => rfl, fun _ => ⟨.never, rfl⟩⟩
    · obtain ⟨t, eq⟩ := exists_attributePredicate_eq (n := n) askable taken none_taken
      rw [eq]
      cases Test.needValues vs <;> simp [Except.map]
  constructor
  · intro h
    rcases h with ⟨p, compiled⟩
    obtain ⟨vs, taken, -⟩ := bind_eq_ok.mp compiled
    refine ⟨⟨vs, taken⟩, fun id => ?_⟩
    rw [← head?_of_effective taken]
    exact Test.needValues_eq_ok_iff.mp ((made vs taken).mp ⟨p, compiled⟩) id
  · intro h
    rcases h with ⟨⟨vs, taken⟩, noRecord⟩
    rw [← head?_of_effective taken] at noRecord
    exact (made vs taken).mpr (Test.needValues_eq_ok_iff.mpr noRecord)

theorem exists_map_singleton_iff {r : Except Failure Predicate} :
    (∃ ps, r.map (fun q => [q]) = .ok ps) ↔ ∃ p, r = .ok p := by
  cases r <;> simp [Except.map]

/-- **Which parameters can be composed.** Where every property that a query can ask for is tied to a
column, a parameter with its values becomes at most one predicate exactly if no value stands in the
way, and without values it becomes none that ever holds. -/
theorem exists_compile_iff (askable : k.bindings.Askable) (s : Store) (p : Parameter)
    (values : List Value) (form : Option Variant.Form) :
    ((∃ ps, k.compile s p values form = .ok ps ∧ ps.length ≤ 1) ↔ k.Composes form values p) ∧
      (values = [] → ∃ ps, k.compile s p values form = .ok ps ∧ ∀ q ∈ ps, q = .never) := by
  have short : (∃ ps, k.compile s p values form = .ok ps ∧ ps.length ≤ 1) ↔
      ∃ ps, k.compile s p values form = .ok ps :=
    exists_congr fun ps => and_iff_left_of_imp length_compile_le
  rw [short]
  cases p with
  | named n =>
    rw [compile, exists_map_singleton_iff]
    refine ⟨exists_attributePredicate_iff askable, fun none_given => ?_⟩
    subst none_given
    have taken : k.effective [] = .ok [] := by
      rw [effective, Value.distinct?_nil]
      cases k.distinct <;> rfl
    refine ⟨[.never], ?_, List.forall_mem_singleton.mpr rfl⟩
    rw [attributePredicate, taken]
    rfl
  | identity p =>
    obtain ⟨ofIdentities, notRealm⟩ := p.rule_spec
    rw [compile, exists_map_singleton_iff]
    refine ⟨exists_comparePredicate_iff askable ofIdentities notRealm, fun none_given => ?_⟩
    subst none_given
    exact ⟨[.never], rfl, List.forall_mem_singleton.mpr rfl⟩
  | variant p =>
    rw [Composes]
    cases declared : form.bind (·.queryProperty? p) with
    | none =>
      simp only [compile, declared]
      exact ⟨iff_of_true ⟨[], rfl⟩ fun unknown => absurd unknown Bool.false_ne_true,
        fun _ => ⟨[], rfl, List.forall_mem_nil _⟩⟩
    | some property =>
      obtain ⟨f, -, ofForm⟩ := Option.bind_eq_some_iff.mp declared
      obtain ⟨ofIdentities, notRealm⟩ := Variant.Form.queryProperty?_spec ofForm
      simp only [compile, declared, exists_map_singleton_iff, Option.isSome_some, true_imp_iff]
      refine ⟨exists_comparePredicate_iff askable ofIdentities notRealm, fun none_given => ?_⟩
      subst none_given
      exact ⟨[.never], rfl, List.forall_mem_singleton.mpr rfl⟩
  | unknown v =>
    have compiled : k.compile s (.unknown v) values form = .ok [] := rfl
    exact ⟨iff_of_true ⟨[], compiled⟩ trivial, fun _ => ⟨[], compiled, List.forall_mem_nil _⟩⟩

/-- Texts have keys and an order. -/
theorem exists_compile_standard : ∃ ps,
    (Compiler.mk Standard.bindings true).compile { catalog := Standard.catalog } (.named "role")
      [.text "a", .text "b"] none = .ok ps ∧ ps.length ≤ 1 := by
  refine (exists_compile_iff Standard.askable_bindings _ _ _ none).1.mpr ⟨fun _ => ?_, ?_⟩
  · simp [Value.key?]
  · simp

/-- A date that is missing is not earlier than any other, and a list has no key. -/
theorem compile_eq_error :
    (Compiler.mk Standard.bindings false).compile { catalog := Standard.catalog }
        (.identity .createdAfter) [.null] none = .error .badOperand ∧
      (Compiler.mk Standard.bindings true).compile { catalog := Standard.catalog } (.named "role")
        [.list [.text "a"]] none = .error .wrongType :=
  ⟨rfl, rfl⟩

end Compiler

end Principals
