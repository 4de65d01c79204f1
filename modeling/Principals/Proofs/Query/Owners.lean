import Principals.Proofs.Bindings.Owner
import Principals.Proofs.Query.Composing
import Principals.Proofs.Query.HeldValues
import Principals.Proofs.Schema.AttributeRows
import Principals.Proofs.Time.Instant
import Principals.Schema.Samples

/-!
# Attribute queries and the owner's binding

A query for attributes compares the column of attribute rows that refers to the owner with the
column of the identities that is taken to be referred to. With the owner bound to a relationship
that is the one it leads to; with the owner bound to the column, it is the first of the primary key.
So the two ways of binding find the same identities if the reference is to that column, and only
then: otherwise some tables tell them apart.

* `Bindings.FindAlike`: what it is to find the same identities;
* `EitherWay.findAlike`, `EitherWay.remote_eq_of_findAlike`: when two bindings do;
* `Bindings.alike_iff`: what the two ways of binding the owner always share, and what they need not;
* `Samples.found_by_link`: tables that tell them apart.
-/

namespace Principals

/-! ## Tables of texts -/

/-- A text that spells no number is the same in every column. -/
theorem Affinity.apply_x (a : Affinity) : a.apply (.text "x") = .text "x" := by
  cases a <;> rfl

/-- A row that has a text in every column of a class. -/
def textRow (cls : RecordClass) (text : String → String) : Row :=
  ⟨cls.columns.map fun c => (c.attr, .text (text c.attr))⟩

theorem cellIn_textRow {cls : RecordClass} {attr : String} {c : Column}
    (isColumn : cls.column? attr = some c) (text : String → String) :
    c.cellIn (textRow cls text) = .text (text attr) := by
  have looked_up : ∀ cs : List Column, c ∈ cs →
      OrderedMap.lookup c.attr (cs.map fun c => (c.attr, Cell.text (text c.attr))) =
        some (.text (text c.attr)) := by
    intro cs among
    induction cs with
    | nil => cases among
    | cons first rest ih =>
      rw [List.map_cons, OrderedMap.lookup]
      split
      · next same => rw [same]
      · next other =>
        exact ih ((List.mem_cons.mp among).resolve_left fun same => other (by rw [same]))
  have found := looked_up cls.columns (List.mem_of_find?_eq_some isColumn)
  rw [Column.cellIn, OrderedMap.find?, textRow, found, Option.getD_some, attr_of_column? isColumn]

namespace AttributeTest

variable {cls : RecordClass} {identity owner name value : Column}

/-- The test for the text "x" under the name "x". -/
def ofX (cls : RecordClass) (identity owner name value : Column) : AttributeTest :=
  ⟨identity, cls, owner, name, value, .compare .equal (.text "x"), [.text "x"]⟩

theorem sendable_ofX : Store.Sendable [.hasAttributes (ofX cls identity owner name value)] :=
  List.forall_mem_singleton.mpr
    (List.forall_mem_cons.mpr ⟨⟨_, rfl⟩, List.forall_mem_singleton.mpr ⟨_, rfl⟩⟩)

/-- Over one attribute row, with "x" in every column, the test holds of the identities that are
referred to by "x". -/
theorem holds_ofX_iff {ownerAttr nameAttr valueAttr : String}
    (isOwner : cls.column? ownerAttr = some owner) (isName : cls.column? nameAttr = some name)
    (isValue : cls.column? valueAttr = some value) (row : Row) :
    (ofX cls identity owner name value).holds [textRow cls fun _ => "x"] row = true ↔
      (ofX cls identity owner name value).refers (.text "x") (identity.cellIn row) = true := by
  have named : (Test.compare .equal (.text "x")).holds name (textRow cls fun _ => "x") = true := by
    have operand : name.operand (.text "x") = .ok (name.type.affinity.apply (.text "x")) := rfl
    rw [Test.holds, operand, Affinity.apply_x, cellIn_textRow isName]
    rfl
  have valued : (Test.within [.text "x"]).holds value (textRow cls fun _ => "x") = true := by
    have operands : value.operands [.text "x"] =
      [.ok (value.type.affinity.apply (.text "x"))] := rfl
    rw [Test.holds, operands, Affinity.apply_x, cellIn_textRow isValue]
    rfl
  have kept : (ofX cls identity owner name value).keeps (textRow cls fun _ => "x") = true := by
    rw [keeps, ofX, named, valued, Bool.and_true]
  have isColumn : (ofX cls identity owner name value).owner = owner := rfl
  have owners : (ofX cls identity owner name value).owners [textRow cls fun _ => "x"] =
      [.text "x"] := by
    rw [AttributeTest.owners, List.filter_cons_of_pos kept, List.filter_nil, List.map_singleton,
      isColumn, cellIn_textRow isOwner]
    rfl
  rw [holds, owners, List.any_cons, List.any_nil, Bool.or_false]
  exact Iff.rfl

/-- Texts that spell no number compare as texts whatever their columns. -/
theorem refers_x_iff (t : AttributeTest) {text : String} (plain : text = "x" ∨ text = "y") :
    t.refers (.text "x") (.text text) = true ↔ text = "x" := by
  have applied : Affinity.numeric.apply (.text text) = .text text := by
    rcases plain with rfl | rfl <;> rfl
  rw [refers, Cell.sameAcross, applied, Affinity.apply_x, ite_self, Cell.same_text_iff]
  exact ⟨fun same => (Option.some.inj same).symm, fun same => congrArg some same.symm⟩

end AttributeTest

namespace Bindings

variable {b c : Bindings} {rel : Relationship} {key : String}

/-! ## Finding the same identities -/

/-- Whether every request for an attribute selects the same identities of any database under one
compiler as under another, or fails alike. -/
def FindAlike (b c : Bindings) : Prop :=
  ∀ distinct name values (s : Store),
    ((Compiler.mk b distinct).attributePredicate name values >>= fun p =>
      s.select b.identityClass [p]) =
    ((Compiler.mk c distinct).attributePredicate name values >>= fun p =>
      s.select c.identityClass [p])

/-- Whether attributes can be asked for: their name and their value are in columns of a class of
their own. -/
structure Searchable (b : Bindings) : Prop where
  apart : b.identityClass.name ≠ b.attributeClass.name
  name : ∃ attr c, b.properties.find? Property.attributeName = some attr ∧
    b.attributeClass.column? attr = some c
  value : ∃ attr c, b.properties.find? Property.attributeValue = some attr ∧
    b.attributeClass.column? attr = some c

/-- One identity, with the text "y" in the column `key` and the text "x" in all others, and one
attribute row, with "x" in every column. -/
def partingStore (b : Bindings) (key : String) : Store where
  catalog := ⟨[b.identityClass, b.attributeClass]⟩
  records := [
    { cls := b.identityClass,
      row := some (textRow b.identityClass fun attr => if attr = key then "y" else "x") },
    { cls := b.attributeClass, row := some (textRow b.attributeClass fun _ => "x") }]

/-- Which column the attribute row is taken to refer to decides whether a query finds the
identity. -/
theorem selects_partingStore_iff {k : Compiler} {ownerAttr identityAttr : String}
    (searchable : k.bindings.Searchable) (mapped : k.bindings.attributeClass.isMapped = true)
    (ownerBound : k.bindings.ownerColumn = .ok ownerAttr)
    (isOwner : ∃ c, k.bindings.attributeClass.column? ownerAttr = some c)
    (identityBound : k.bindings.identityColumn = .ok identityAttr)
    (isIdentity : ∃ c, k.bindings.identityClass.column? identityAttr = some c)
    (taken : k.effective [.text "x"] = .ok [.text "x"]) (key : String) :
    ∃ p, k.attributePredicate (.text "x") [.text "x"] = .ok p ∧
      ((k.bindings.partingStore key).Selects k.bindings.identityClass [p] 0 ↔
        identityAttr ≠ key) := by
  obtain ⟨owner, isOwner⟩ := isOwner
  obtain ⟨identity, isIdentity⟩ := isIdentity
  obtain ⟨nameAttr, name, nameBound, isName⟩ := searchable.name
  obtain ⟨valueAttr, value, valueBound, isValue⟩ := searchable.value
  have made := Compiler.attributePredicate_eq (n := "x") mapped ownerBound isOwner identityBound
    isIdentity nameBound isName valueBound isValue taken (List.cons_ne_nil _ _)
  refine ⟨_, made, ?_⟩
  have possible : ∀ q ∈ [Predicate.hasAttributes
      (.ofX k.bindings.attributeClass identity owner name value)], q ≠ .never := by simp
  have rows : (k.bindings.partingStore key).rowsOf k.bindings.attributeClass.name =
      [textRow k.bindings.attributeClass fun _ => "x"] := by
    simp [Store.rowsOf, partingStore, searchable.apart]
  have stored : (k.bindings.partingStore key).stored? 0 = some (k.bindings.identityClass,
    textRow k.bindings.identityClass fun attr => if attr = key then "y" else "x") := rfl
  refine (Store.selects_iff possible stored rfl).trans ?_
  rw [and_iff_right AttributeTest.sendable_ofX, List.forall_mem_singleton, Predicate.holds]
  change (AttributeTest.ofX k.bindings.attributeClass identity owner name value).holds
    ((k.bindings.partingStore key).rowsOf k.bindings.attributeClass.name) _ = true ↔ _
  rw [rows, AttributeTest.holds_ofX_iff isOwner isName isValue, cellIn_textRow isIdentity]
  by_cases same : identityAttr = key
  · rw [if_pos same, AttributeTest.refers_x_iff _ (.inr rfl)]
    exact iff_of_false (by decide) fun other => other same
  · rw [if_neg same, AttributeTest.refers_x_iff _ (.inl rfl)]
    exact iff_of_true rfl same

namespace EitherWay

/-- With the owner bound either way, every request is compiled to the same predicate if the
reference is to the column that the primary key begins with. -/
theorem attributePredicate_eq (h : EitherWay b c rel key) (toKey : rel.remote = key)
    (distinct : Bool) (name : Value) (values : List Value) :
    (Compiler.mk c distinct).attributePredicate name values =
      (Compiler.mk b distinct).attributePredicate name values := by
  have effective : (Compiler.mk c distinct).effective values =
    (Compiler.mk b distinct).effective values := rfl
  have attrOf : ∀ property ≠ Property.attributeOwner, c.attrOf property = b.attrOf property :=
    fun property other => by rw [Bindings.attrOf, Bindings.attrOf, h.others property other]
  rw [Compiler.attributePredicate, Compiler.attributePredicate, effective, h.attributes,
    h.identities, h.ownerColumn_eq.1, h.ownerColumn_eq.2, h.identityColumn_eq.1,
    h.identityColumn_eq.2, toKey, attrOf Property.attributeName (by decide),
    attrOf Property.attributeValue (by decide)]

theorem findAlike (h : EitherWay b c rel key) (toKey : rel.remote = key) : FindAlike b c :=
  fun distinct name values s => by rw [h.attributePredicate_eq toKey, h.identities]

theorem searchable (h : EitherWay b c rel key) (searchable : b.Searchable) : c.Searchable where
  apart := by
    rw [h.identities, h.attributes]
    exact searchable.apart
  name := by
    rw [h.attributes, h.others _ (by decide)]
    exact searchable.name
  value := by
    rw [h.attributes, h.others _ (by decide)]
    exact searchable.value

/-- If the reference is to another column, there are tables that tell the two ways apart. -/
theorem remote_eq_of_findAlike (h : EitherWay b c rel key) (searchable : b.Searchable)
    (alike : FindAlike b c) : rel.remote = key := by
  obtain ⟨p, made, found⟩ := selects_partingStore_iff (k := ⟨b, false⟩) searchable h.joins.mapped
    h.ownerColumn_eq.1 h.joins.referring h.identityColumn_eq.1 h.joins.referred rfl key
  obtain ⟨q, made', found'⟩ := selects_partingStore_iff (k := ⟨c, false⟩) (h.searchable searchable)
    (by rw [h.attributes]; exact h.joins.mapped) h.ownerColumn_eq.2
    (by rw [h.attributes]; exact h.joins.referring) h.identityColumn_eq.2
    (by rw [h.identities]; exact h.joins.keyColumn) rfl key
  have same := alike false (.text "x") [.text "x"] (b.partingStore key)
  rw [made, made', ok_bind, ok_bind] at same
  have parted : c.partingStore key = b.partingStore key := by
    rw [partingStore, partingStore, h.identities, h.attributes]
  rw [Store.Selects, parted, ← same] at found'
  by_contra other
  exact found'.mp (found.mpr other) rfl

end EitherWay

/-! ## What the two ways share -/

/-- **The two ways of binding the owner.** Let two bindings of the same classes bind every property
alike but the owner of attribute records, the first to a relationship to identities and the second
to the foreign key column that it is built on. Both give that column as the one that refers to the
owner, and both link a record to the same owner. They give the same column of the identities as the
one referred to, and compile every request for an attribute to predicates that select the same
identities of any database, exactly if the reference is to the column with which the primary key of
the identities begins.

Of bindings under which attributes can be asked for at all, already the selections tell whether the
reference is to that column. -/
theorem alike_iff (h : EitherWay b c rel key) :
    (b.ownerColumn = .ok rel.localAttr ∧ c.ownerColumn = .ok rel.localAttr) ∧
      LinkAlike b c rel ∧
      (b.identityColumn = c.identityColumn ∧ FindAlike b c ↔ rel.remote = key) ∧
      (b.Searchable → (FindAlike b c ↔ rel.remote = key)) := by
  refine ⟨h.ownerColumn_eq, h.linkAlike, ⟨fun same => ?_, fun toKey => ⟨?_, h.findAlike toKey⟩⟩,
    fun searchable => ⟨h.remote_eq_of_findAlike searchable, h.findAlike⟩⟩
  · have columns := same.1
    rw [h.identityColumn_eq.1, h.identityColumn_eq.2] at columns
    exact Except.ok.inj columns
  · rw [h.identityColumn_eq.1, h.identityColumn_eq.2, toKey]

end Bindings

namespace Standard

/-- Attribute records of the standard schema refer to the numbers of identities. -/
theorem eitherWay_keyed : Bindings.EitherWay bindings keyedBindings ownerRelationship "id" where
  identities := rfl
  attributes := rfl
  others := fun property other => by
    rw [keyedBindings, OrderedMap.insertLast, OrderedMap.find?_insert_of_ne _ other,
      OrderedMap.find?_erase_of_ne _ other, OrderedMap.find?_erase_of_ne _ other]
  link := rfl
  column := rfl
  joins := {
    mapped := rfl
    targetMapped := rfl
    once := by unfold RecordClass.ShowsOnce; decide
    among := by decide
    leads := rfl
    referring := ⟨_, rfl⟩
    referred := ⟨_, rfl⟩
    single := by decide
    keyAttr := rfl
    keyColumn := ⟨_, rfl⟩ }

/-- Over the standard schema the two ways of binding the owner do the same. -/
theorem alike_keyed :
    Bindings.ofLabels (some identityClass) (some attributeClass) = .ok bindings ∧
    Bindings.ofLabelsWith (some identityClass) (some attributeClass)
      [(Property.attributeOwner, some "identity_id")] = .ok keyedBindings ∧
    bindings.Searchable ∧ bindings.identityColumn = keyedBindings.identityColumn ∧
    bindings.FindAlike keyedBindings ∧ keyedBindings.assignOwner = bindings.assignOwner := by
  have searchable : bindings.Searchable := ⟨by decide, ⟨_, _, rfl, rfl⟩, ⟨_, _, rfl, rfl⟩⟩
  obtain ⟨-, ⟨l, -, -, -, onlyLink⟩, columns, selections⟩ := Bindings.alike_iff eitherWay_keyed
  refine ⟨ofLabels_standard, ofLabelsWith_standard, searchable, (columns.mpr rfl).1,
    (selections searchable).mpr rfl, onlyLink fun l' among _ => ?_⟩
  exact List.mem_singleton.mp among

end Standard

namespace Samples

/-- The bindings that the labels of the alternative classes give. -/
def alternativeBindings : Bindings where
  identityClass := alternativeIdentity
  attributeClass := alternativeAttribute
  properties := ⟨[(Property.discriminator, "kind"), (Property.key, "ident"),
    (Property.enabled, "active"), (Property.created, "born"), (Property.name, "label"),
    (Property.firstName, "nick"), (Property.realm, "realm_code"),
    (Property.attributeOwner, "owner"), (Property.attributeName, "title"),
    (Property.attributeValue, "content")]⟩

/-- The same bindings, with the owner bound to the column that holds its handle. -/
def handleBindings : Bindings := alternativeBindings.rebind Property.attributeOwner "owner_ref"

/-- An identity, and an attribute row that refers to it by its handle. -/
def zoeWithRole : Store where
  catalog
  records := [
    { cls := alternativeIdentity,
      row := some ⟨[("uid", .integer 1), ("handle", .text "zoe"), ("kind", .text "USER"),
        ("ident", .text "USER://zoe"), ("active", .integer 1), ("born", .moment .epoch)]⟩ },
    { cls := alternativeAttribute,
      row := some ⟨[("id", .integer 1), ("owner_ref", .text "zoe"), ("title", .text "role"),
        ("content", .text "a")]⟩ }]

/-- Where attribute rows refer to a handle, an identity is found by its attributes with the owner
bound to the relationship, and is not found with the owner bound to the column: its handle is
compared with the reference, or its number. -/
theorem found_by_link :
    Bindings.ofLabels (some alternativeIdentity) (some alternativeAttribute) =
      .ok alternativeBindings ∧
    Bindings.ofLabelsWith (some alternativeIdentity) (some alternativeAttribute)
      [(Property.attributeOwner, some "owner_ref")] = .ok handleBindings ∧
    alternativeBindings.ownerColumn = handleBindings.ownerColumn ∧
    alternativeBindings.identityColumn = .ok "handle" ∧
    handleBindings.identityColumn = .ok "uid" ∧
    ((Compiler.mk alternativeBindings false).attributePredicate (.text "role") [.text "a"] >>=
      fun p => zoeWithRole.select alternativeIdentity [p]) = .ok [0] ∧
    ((Compiler.mk handleBindings false).attributePredicate (.text "role") [.text "a"] >>=
      fun p => zoeWithRole.select alternativeIdentity [p]) = .ok [] := by
  have no_fault : alternativeBindings.fault? = none := by decide +kernel
  have no_fault' : handleBindings.fault? = none := by decide +kernel
  exact ⟨Bindings.ofLabels_of_labels rfl no_fault, Bindings.ofLabelsWith_of_labels rfl no_fault',
    rfl, rfl, rfl, rfl, rfl⟩

end Samples

end Principals
