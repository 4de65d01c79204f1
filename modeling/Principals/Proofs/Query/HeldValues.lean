import Mathlib.Data.List.Perm.Subperm
import Principals.Proofs.Query.AttributeCount
import Principals.Proofs.Query.Conditions
import Principals.Query.Clause

/-!
# Identities found by the values they hold

A query for texts under an attribute name selects, over the standard schema, the identities of whose
own rows under the name as many have one of the texts asked for as there are such texts. This holds
of any tables, whether the owner of an attribute is bound to the relationship or to its column, and
whatever table the query goes over. Owners are referred to by their number there, so the groups that
the subquery counts are the rows of one identity each (`AttributeTest.oneGroup_of_affinity`).

* `Standard.TiesAttributes`: the ways in which the owner may be bound;
* `countP_contains_eq_length_iff`: when counting texts says that all of them are there;
* `Standard.selected_by_values_iff`: which identities a query for texts selects, and what this does
  not depend on.
-/

namespace Principals

/-! ## What is asked for -/

namespace Compiler

variable {k : Compiler} {values values' : List String}

/-- The texts that a query asks for: the first of each, if repeated values are to count once. -/
def asked (k : Compiler) (values : List String) : List String :=
  if k.distinct then values.eraseDups else values

theorem effective_texts (k : Compiler) (values : List String) :
    k.effective (values.map .text) = .ok ((k.asked values).map .text) := by
  rw [effective, asked]
  cases k.distinct with
  | false => rfl
  | true =>
    simp only [if_true, Value.distinct?_texts]

/-- The order of the values does not matter for which texts are asked for. -/
theorem asked_perm (k : Compiler) (perm : values.Perm values') :
    (k.asked values).Perm (k.asked values') := by
  unfold asked
  cases k.distinct with
  | false => exact perm
  | true =>
    have first := Value.nodup_eraseDups_texts values
    have second := Value.nodup_eraseDups_texts values'
    refine (List.perm_ext_iff_of_nodup first second).mpr fun v => ?_
    rw [List.mem_eraseDups, List.mem_eraseDups]
    exact perm.mem_iff

end Compiler

/-- A test of attribute rows is written the same of every table but for its name, which comes
first. -/
theorem Clause.alone_hasAttributes (root : String) (t : AttributeTest) :
    Clause.alone root (.hasAttributes t) =
      ⟨root ++ (Clause.alone "" (.hasAttributes t)).sql,
        (Clause.alone "" (.hasAttributes t)).binds⟩ := by
  simp only [alone, ofPredicate, ofAttributes, qualified, String.append_assoc, String.empty_append]

/-- Of different texts, of which some others are all different too, as many are among the others as
there are others exactly if the others are all there. -/
theorem countP_contains_eq_length_iff {held wanted : List String} (once : held.Nodup)
    (differ : wanted.Nodup) :
    held.countP wanted.contains = wanted.length ↔ ∀ v ∈ wanted, v ∈ held := by
  have common : (held.filter wanted.contains).Subperm wanted := by
    refine List.subperm_of_subset (once.filter _) fun v among => ?_
    simpa using (List.mem_filter.mp among).2
  rw [List.countP_eq_length_filter]
  constructor
  · intro enough v among
    have perm := common.perm_of_length_le enough.ge
    exact (List.mem_filter.mp (perm.mem_iff.mpr among)).1
  · intro all
    refine List.Perm.length_eq ((List.perm_ext_iff_of_nodup (once.filter _) differ).mpr fun v => ?_)
    rw [List.mem_filter, List.contains_iff_mem]
    exact ⟨fun h => h.2, fun among => ⟨all v among, among⟩⟩

namespace Standard

variable {k : Compiler} {s s' : Store} {row : Row} {n : String} {values wanted : List String}

/-! ## The predicate -/

/-- Bindings of the standard classes that tie an attribute to its owner by the relationship or by
the column it is built on, and its name and its value to their columns. -/
structure TiesAttributes (b : Bindings) : Prop where
  identities : b.identityClass = identityClass
  attributes : b.attributeClass = attributeClass
  owner : b.properties.find? Property.attributeOwner = some "identity" ∨
    b.properties.find? Property.attributeOwner = some "identity_id"
  name : b.properties.find? Property.attributeName = some "name"
  value : b.properties.find? Property.attributeValue = some "value"

theorem tiesAttributes_bindings : TiesAttributes bindings := ⟨rfl, rfl, .inl rfl, rfl, rfl⟩

/-- The bindings of the standard schema, but with the owner of an attribute bound to the column that
refers to it. -/
def keyedBindings : Bindings :=
  { bindings with
    properties := (bindings.properties.erase Property.attributeOwner).insertLast
      Property.attributeOwner "identity_id" }

theorem tiesAttributes_keyedBindings : TiesAttributes keyedBindings :=
  ⟨rfl, rfl, .inr rfl, rfl, rfl⟩

/-- The labels of the standard classes with the owner bound anew are accepted, and give these
bindings. -/
theorem ofLabelsWith_standard :
    Bindings.ofLabelsWith (some identityClass) (some attributeClass)
      [(Property.attributeOwner, some "identity_id")] = .ok keyedBindings := by
  have no_fault : keyedBindings.fault? = none := by decide +kernel
  change Bindings.create (some identityClass) (some attributeClass) keyedBindings.properties = _
  exact Bindings.create_of_fault?_eq_none no_fault

/-- Both ways of binding the owner lead to one column of the attribute rows, and to one of the
identities. -/
theorem TiesAttributes.columns {b : Bindings} (ties : TiesAttributes b) :
    b.ownerColumn = .ok "identity_id" ∧ b.identityColumn = .ok "id" := by
  rcases ties.owner with bound | bound
  all_goals
    have attr := Bindings.attrOf_eq_ok_iff.mpr bound
    simp only [Bindings.ownerColumn, Bindings.identityColumn, Bindings.ownerRelationship,
      attr, ties.identities, ties.attributes]
    exact ⟨rfl, rfl⟩

/-- Texts become a test of the attribute rows. -/
theorem TiesAttributes.attributePredicate_eq (ties : TiesAttributes k.bindings) (n : String)
    (some_asked : k.asked values ≠ []) :
    k.attributePredicate (.text n) (values.map .text) =
      .ok (.hasAttributes (Store.standardTest n ((k.asked values).map .text))) := by
  have nonempty : ((k.asked values).map Value.text).isEmpty = false := by simpa using some_asked
  have askable : Test.needValues ((k.asked values).map Value.text) = .ok () := by
    cases k.asked values <;> rfl
  obtain ⟨owner, identity⟩ := ties.columns
  have name := Bindings.attrOf_eq_ok_iff.mpr ties.name
  have value := Bindings.attrOf_eq_ok_iff.mpr ties.value
  rw [Compiler.attributePredicate, Compiler.effective_texts, ok_bind, nonempty, ties.identities,
    ties.attributes, owner, name, value, identity, askable]
  rfl

/-- Where no text is asked for, the predicate never holds. -/
theorem attributePredicate_eq_never (none_asked : k.asked values = []) :
    k.attributePredicate (.text n) (values.map .text) = .ok .never := by
  rw [Compiler.attributePredicate, Compiler.effective_texts, none_asked]
  rfl

/-! ## The rows that are counted -/

/-- The attribute rows that are an identity's own and carry a name. -/
def rowsUnder (s : Store) (row : Row) (n : String) : List Row :=
  (s.rowsOf attributeClass.name).filter fun a =>
    ((a.find? "identity_id").getD .null).same ((row.find? "id").getD .null) &&
      ((a.find? "name").getD .null).text? == some n

/-- The text that an attribute row holds. -/
def textHeld (a : Row) : Option String := ((a.find? "value").getD .null).text?

/-- Whether an attribute row holds one of some texts. -/
def HoldsAmong (wanted : List String) (a : Row) : Bool := (textHeld a).any wanted.contains

/-- The texts that an identity holds under a name, one for each row. -/
def heldUnder (s : Store) (row : Row) (n : String) : List String :=
  (rowsUnder s row n).filterMap textHeld

/-- An identity is found if some texts are asked for, and as many of its own rows under the name
hold one of them. -/
def Found (s : Store) (row : Row) (n : String) (wanted : List String) : Prop :=
  wanted ≠ [] ∧ (rowsUnder s row n).countP (HoldsAmong wanted) = wanted.length

theorem counted_standardTest (s : Store) (row : Row) (n : String) (wanted : List String) :
    let t := Store.standardTest n (wanted.map .text)
    t.counted (t.ownRows (s.rowsOf t.cls.name) (t.identity.cellIn row)) =
      (rowsUnder s row n).countP (HoldsAmong wanted) := by
  intro t
  have own : t.ownRows (s.rowsOf t.cls.name) (t.identity.cellIn row) = rowsUnder s row n := by
    refine List.filter_congr fun a _ => ?_
    have isName : t.nameTest.holds t.name a = true ↔
        ((a.find? "name").getD .null).text? = some n := Cell.same_text_iff
    rw [Bool.eq_iff_iff, Bool.and_eq_true, Bool.and_eq_true, isName, beq_iff_eq]
    exact Iff.rfl
  rw [own, AttributeTest.counted]
  refine List.countP_congr fun a _ => ?_
  have isValue := within_texts_iff (c := t.value) rfl a wanted
  change (Test.within (wanted.map .text)).holds t.value a = true ↔ _
  rw [isValue, HoldsAmong, Option.any_eq_true]
  constructor
  · intro h
    rcases h with ⟨v, among, text⟩
    exact ⟨v, text, List.contains_iff_mem.mpr among⟩
  · intro h
    rcases h with ⟨v, text, among⟩
    exact ⟨v, List.contains_iff_mem.mp among, text⟩

theorem holds_standardTest_iff_found (s : Store) (row : Row) (n : String) (wanted : List String) :
    (Predicate.hasAttributes (Store.standardTest n (wanted.map .text))).holds s.rowsOf row = true ↔
      Found s row n wanted := by
  have count := counted_standardTest s row n wanted
  have length : (wanted.map Value.text).length = wanted.length := List.length_map _
  rw [Predicate.holds, AttributeTest.holds_iff (AttributeTest.oneGroup_of_affinity rfl _ _),
    AttributeTest.countP_counts, count]
  change (wanted.map Value.text).length ≠ 0 ∧ _ = (wanted.map Value.text).length ↔ _
  rw [length, Found, ne_eq, List.length_eq_zero_iff]

/-- Only which texts are asked for matters, and how many. -/
theorem found_congr_of_perm {wanted' : List String} (perm : wanted.Perm wanted') :
    Found s row n wanted ↔ Found s row n wanted' := by
  have among : HoldsAmong wanted = HoldsAmong wanted' := by
    funext a
    have contains : wanted.contains = wanted'.contains := by
      funext v
      rw [Bool.eq_iff_iff, List.contains_iff_mem, List.contains_iff_mem]
      exact perm.mem_iff
    rw [HoldsAmong, HoldsAmong, contains]
  rw [Found, Found, among, perm.length_eq, ne_eq, ne_eq, ← List.length_eq_zero_iff,
    ← List.length_eq_zero_iff (l := wanted'), perm.length_eq]

/-- Only an identity's own rows under the name matter. -/
theorem found_congr_of_rows {row' : Row}
    (same : (rowsUnder s row n).Perm (rowsUnder s' row' n)) :
    Found s row n wanted ↔ Found s' row' n wanted := by
  rw [Found, Found, same.countP_eq]

/-- Where different texts are asked for, and none is held twice, an identity is found if it holds
them all. -/
theorem found_iff_holds_all (some_wanted : wanted ≠ []) (differ : wanted.Nodup)
    (once : (heldUnder s row n).Nodup) :
    Found s row n wanted ↔ ∀ v ∈ wanted, v ∈ heldUnder s row n := by
  have count : (rowsUnder s row n).countP (HoldsAmong wanted) =
      (heldUnder s row n).countP wanted.contains := by
    rw [heldUnder, List.countP_filterMap]
    refine List.countP_congr fun a _ => ?_
    rw [HoldsAmong]
    cases textHeld a <;> rfl
  rw [Found, count, countP_contains_eq_length_iff once differ]
  exact ⟨fun h => h.2, fun all => ⟨some_wanted, all⟩⟩

/-! ## The identities that are selected -/

theorem sendable_standardTest (n : String) (wanted : List String) :
    Store.Sendable [.hasAttributes (Store.standardTest n (wanted.map .text))] := by
  refine AttributeTest.sendable_of_texts (n := n) rfl rfl fun v among => ?_
  obtain ⟨s, -, rfl⟩ := List.mem_map.mp among
  exact ⟨s, rfl⟩

/-- A query for texts always becomes one predicate, and every selection by it succeeds and gives the
identities that are found. -/
theorem TiesAttributes.exists_selects (ties : TiesAttributes k.bindings) (n : String)
    (values : List String) :
    ∃ p, k.attributePredicate (.text n) (values.map .text) = .ok p ∧
      (k.asked values = [] → p = .never) ∧
      (k.asked values ≠ [] → ∀ root, Clause.alone root p =
        ⟨root ++ (Clause.alone "" p).sql, (Clause.alone "" p).binds⟩) ∧
      ∀ s : Store, s.select identityClass [p] = .ok (s.matching identityClass [p]) ∧
        ∀ row, p.holds s.rowsOf row = true ↔ Found s row n (k.asked values) := by
  by_cases none_asked : k.asked values = []
  · refine ⟨.never, attributePredicate_eq_never none_asked, fun _ => rfl,
      fun some_asked => absurd none_asked some_asked, fun s => ⟨?_, fun row => ?_⟩⟩
    · rw [Store.select, Store.checkSent_of_never (List.mem_singleton_self _)]
      rfl
    · rw [none_asked]
      exact iff_of_false Bool.false_ne_true fun found => found.1 rfl
  · refine ⟨_, ties.attributePredicate_eq n none_asked, fun h => absurd h none_asked,
      fun _ root => Clause.alone_hasAttributes root _, fun s => ⟨?_, fun row => ?_⟩⟩
    · have possible : ∀ q ∈ [Predicate.hasAttributes
          (Store.standardTest n ((k.asked values).map .text))], q ≠ .never := by simp
      exact (Store.select_eq_ok_iff possible).mpr ⟨sendable_standardTest n _, rfl⟩
    · exact holds_standardTest_iff_found s row n _

/-- **A query for texts finds by counting.** Over the standard schema, with the owner of an
attribute bound either way, a query for some texts under a name becomes one predicate, written alike
of every table. A selection by it always succeeds. It selects nothing if no text is asked for, and
otherwise the identities of whose own rows under the name as many have one of the texts as there are
texts.

So neither the order of the texts nor rows of others or of other names make a difference; and if the
texts differ, and an identity holds none twice, it is selected exactly if it holds them all. -/
theorem selected_by_values_iff (ties : TiesAttributes k.bindings) (n : String)
    (values : List String) :
    ∃ p, (∀ s form, k.compile s (.named n) (values.map .text) form = .ok [p]) ∧
      (k.asked values = [] → p = .never ∧ ∀ s : Store, s.select identityClass [p] = .ok []) ∧
      (k.asked values ≠ [] →
        (∀ root, Clause.alone root p =
          ⟨root ++ (Clause.alone "" p).sql, (Clause.alone "" p).binds⟩) ∧
        ∀ s : Store, ∃ found, s.select identityClass [p] = .ok found ∧
          ∀ id, id ∈ found ↔ ∃ cls row, s.stored? id = some (cls, row) ∧
            cls.name = identityClass.name ∧
            (rowsUnder s row n).countP (HoldsAmong (k.asked values)) = (k.asked values).length) ∧
      (∀ values', values.Perm values' →
        ∃ p', (∀ s form, k.compile s (.named n) (values'.map .text) form = .ok [p']) ∧
          ∀ s : Store, s.select identityClass [p'] = s.select identityClass [p]) ∧
      ∀ (s : Store) id cls row, s.stored? id = some (cls, row) → cls.name = identityClass.name →
        (∀ (s' : Store) id' cls' row', s'.stored? id' = some (cls', row') →
          cls'.name = identityClass.name → (rowsUnder s row n).Perm (rowsUnder s' row' n) →
            (s.Selects identityClass [p] id ↔ s'.Selects identityClass [p] id')) ∧
        (k.asked values ≠ [] → (k.asked values).Nodup → (heldUnder s row n).Nodup →
          (s.Selects identityClass [p] id ↔ ∀ v ∈ k.asked values, v ∈ heldUnder s row n)) := by
  obtain ⟨p, made, never, written, selects⟩ := ties.exists_selects n values
  have compiled : ∀ {values p}, k.attributePredicate (.text n) values = .ok p →
      ∀ s form, k.compile s (.named n) values form = .ok [p] := by
    intro values p made s form
    rw [Compiler.compile, made]
    rfl
  have selected_iff : ∀ (s : Store) id cls row, s.stored? id = some (cls, row) →
      cls.name = identityClass.name →
        (s.Selects identityClass [p] id ↔ Found s row n (k.asked values)) := by
    intro s id cls row stored named
    obtain ⟨selected, holds⟩ := selects s
    have here : id ∈ s.matching identityClass [p] ↔ p.holds s.rowsOf row = true :=
      (Store.mem_matching_iff_of_stored stored named).trans List.forall_mem_singleton
    rw [← holds row, ← here, Store.Selects, selected]
    simp only [Except.ok.injEq, exists_eq_left']
  refine ⟨p, compiled made, fun none_asked => ⟨never none_asked, fun s => ?_⟩,
    fun some_asked => ⟨written some_asked, fun s => ?_⟩, fun values' perm => ?_,
    fun s id cls row stored named => ⟨fun s' id' cls' row' stored' named' same => ?_,
      fun some_asked differ once => ?_⟩⟩
  · obtain ⟨selected, holds⟩ := selects s
    rw [selected]
    congr
    refine List.eq_nil_iff_forall_not_mem.mpr fun id among => ?_
    obtain ⟨_, row, -, -, all⟩ := Store.mem_matching_iff.mp among
    exact ((holds row).mp (all p (List.mem_singleton_self p))).1 none_asked
  · obtain ⟨selected, holds⟩ := selects s
    refine ⟨_, selected, fun id => ?_⟩
    simp only [Store.mem_matching_iff, List.mem_singleton, forall_eq, holds, Found, ne_eq,
      some_asked, not_false_eq_true, true_and]
  · obtain ⟨p', made', -, -, selects'⟩ := ties.exists_selects n values'
    refine ⟨p', compiled made', fun s => ?_⟩
    rw [(selects s).1, (selects' s).1]
    congr 1
    refine s.matching_congr identityClass fun row => ?_
    rw [(selects s).2, (selects' s).2]
    exact (found_congr_of_perm (k.asked_perm perm)).symm
  · rw [selected_iff s id cls row stored named, selected_iff s' id' cls' row' stored' named']
    exact found_congr_of_rows same
  · rw [selected_iff s id cls row stored named]
    exact found_iff_holds_all some_asked differ once

/-- Counted once, two texts are asked for, and an identity that holds both beside a third is
selected. -/
theorem selected_by_values_keyed : ∃ p,
    (Compiler.mk keyedBindings true).compile (Store.withAttributes "role" ["b", "a", "c"])
      (.named "role") [.text "a", .text "b", .text "a"] none = .ok [p] ∧
    (Store.withAttributes "role" ["b", "a", "c"]).Selects identityClass [p] 0 := by
  obtain ⟨p, compiled, -, -, -, each⟩ := selected_by_values_iff (k := ⟨keyedBindings, true⟩)
    tiesAttributes_keyedBindings "role" ["a", "b", "a"]
  have stored : (Store.withAttributes "role" ["b", "a", "c"]).stored? 0 =
      some (identityClass, ⟨[("id", .integer 1)]⟩) := rfl
  have holds_all := (each _ _ _ _ stored rfl).2 (by decide) (by decide) (by decide)
  exact ⟨p, compiled _ none, holds_all.mpr (by decide)⟩

end Standard

end Principals
