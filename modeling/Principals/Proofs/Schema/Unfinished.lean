import Principals.Proofs.Principal.Attributes
import Principals.Proofs.Schema.AttributeRows
import Principals.Proofs.Store.Reading
import Principals.Proofs.Time.Instant

/-!
# Attribute records that were made before a failure

The attribute records of a principal are made one by one, each linked to its owner before its name
and its value are checked. If a name or a value is missing, or values cannot be gone through, what was
made stays: nothing is taken back. The collection of the owner has then grown at its end by one
complete record for each pair before the failure, and by at most one more, the record of the pair at
which the making stopped.

* `Appends`: what making attribute records leaves, complete ones and a rest; `Appends.trans` composes
  it;
* `appends_link`, `createAttribute_cases`: one record;
* `createNamed_cases`, `createEntries_cases`: all records of a name, and of all names;
* `NamedAs`, `namedAs_of_createNamed`: the name that the first record made carries, also when the
  making fails later;
* `collection_of_createAttributes_error`: what a failed call leaves.
-/

namespace Principals

namespace Standard

variable {s t u : Store} {owner id j : RecordId} {r : Record} {m : Mapper} {e : Value × Value}
  {ids ids' rest rest' : List RecordId} {told told' : List (Value × Value)} {α : Type}

/-! ## Complete attribute records -/

/-- A record that reads as the attribute record of an owner, with a name and a value. -/
structure Carries (t : Store) (owner j : RecordId) (e : Value × Value) : Prop where
  owner : t.get j "identity" = .record owner
  name : t.get j "name" = e.1
  value : t.get j "value" = e.2
  complete : e.1.isNull = false ∧ e.2.isNull = false

/-- A record that was made as the attribute record of an owner, with a name and a value. -/
structure MadeFor (t : Store) (owner j : RecordId) (e : Value × Value) : Prop where
  linked : ∃ q, t.record? j = some q ∧ q.cls = attributeClass ∧
    q.links.find? "identity" = some (some owner) ∧ q.value "name" = e.1 ∧ q.value "value" = e.2
  complete : e.1.isNull = false ∧ e.2.isNull = false

namespace MadeFor

theorem of_agrees (agrees : ∀ a, s.AgreesAt j a t) (made : MadeFor s owner j e) :
    MadeFor t owner j e := by
  obtain ⟨⟨q, found, cls, link, name, value⟩, complete⟩ := made
  obtain ⟨p, there, atLink⟩ := agrees "identity" q found
  have same (a : String) : q.AgreeAt a p := by
    obtain ⟨p', there', atAttr⟩ := agrees a q found
    rw [there] at there'
    cases there'
    exact atAttr
  exact ⟨⟨p, there, atLink.cls.trans cls, atLink.link.trans link, (same "name").value.trans name,
    (same "value").value.trans value⟩, complete⟩

/-- What it was made with is what it reads as. -/
theorem carries (made : MadeFor t owner j e) : Carries t owner j e := by
  obtain ⟨⟨q, found, cls, link, name, value⟩, complete⟩ := made
  refine ⟨?_, ?_, ?_, complete⟩
  · have isLink : q.cls.relationship? "identity" = some ownerRelationship := by rw [cls]; rfl
    have noCollection : q.cls.collections = [] := by rw [cls]; rfl
    have linked : t.linked? q ownerRelationship = some owner := by
      have inMemory : q.links.find? ownerRelationship.attr = some (some owner) := link
      rw [Store.linked?, inMemory]
    simp only [Store.get, found, noCollection, List.contains_nil, Bool.false_eq_true, if_false,
      Store.valueOf, isLink, linked]
  · rw [Store.get_of_plain found (by rw [cls]; rfl), name]
  · rw [Store.get_of_plain found (by rw [cls]; rfl), value]

end MadeFor

/-! ## What was made -/

/-- The store after attribute records were made for an owner. Every attribute of every other record is
as it was. The records that were made have the next numbers and stand at the end of the owner's
collection: first those that are complete, with the pair that each was made of, then the rest. -/
structure Appends (owner : RecordId) (s t : Store) (ids : List RecordId)
    (told : List (Value × Value)) (rest : List RecordId) : Prop where
  agrees : ∀ j a, s.AgreesAt j a t
  size : t.records.length = s.records.length + (ids ++ rest).length
  numbers : ids ++ rest = List.range' s.records.length (ids ++ rest).length
  collection : t.collection owner "attributes" = s.collection owner "attributes" ++ (ids ++ rest)
  complete : List.Forall₂ (MadeFor t owner) ids told

namespace Appends

theorem refl (owner : RecordId) (s : Store) : Appends owner s s [] [] [] where
  agrees := fun j a => .refl j a s
  size := rfl
  numbers := rfl
  collection := (List.append_nil _).symm
  complete := .nil

/-- A record keeps its class. -/
theorem exists_record? (appends : Appends owner s t ids told rest) (found : s.record? id = some r)
    (cls : r.cls = identityClass) : ∃ q, t.record? id = some q ∧ q.cls = identityClass := by
  obtain ⟨q, there, same⟩ := appends.agrees id "" r found
  exact ⟨q, there, same.cls.trans cls⟩

/-- What was made first stays complete while more is made. -/
theorem trans (first : Appends owner s t ids told []) (second : Appends owner t u ids' told' rest) :
    Appends owner s u (ids ++ ids') (told ++ told') rest where
  agrees := fun j a => (first.agrees j a).trans (second.agrees j a)
  size := by
    rw [second.size, first.size, List.append_nil, List.append_assoc, Nat.add_assoc,
      ← List.length_append]
  numbers := by
    have before := first.numbers
    have after := second.numbers
    rw [first.size, List.append_nil] at after
    rw [List.append_nil] at before
    rw [List.append_assoc, List.length_append, ← List.range'_append_1, ← before, ← after]
  collection := by
    rw [second.collection, first.collection, List.append_nil, List.append_assoc, List.append_assoc]
  complete := by
    refine List.rel_append ?_ second.complete
    exact first.complete.imp fun j e made => made.of_agrees (second.agrees j)

/-- The records that were made are new. -/
theorem new (appends : Appends owner s t ids told rest) :
    ∀ j ∈ ids ++ rest, s.records.length ≤ j := by
  intro j made
  rw [appends.numbers] at made
  exact (List.mem_range'_1.mp made).1

/-- A new record is one of those that were made. -/
theorem made (appends : Appends owner s t ids told rest) (new : s.records.length ≤ j)
    (there : j < t.records.length) : j ∈ ids ++ rest := by
  rw [appends.numbers]
  exact List.mem_range'_1.mpr ⟨new, appends.size ▸ there⟩

end Appends

/-! ## One attribute record -/

/-- The store with a new attribute record that is linked to an owner. -/
def linkNew (owner : RecordId) (s : Store) : Store :=
  (s.add { cls := attributeClass }).2.setLink s.records.length ownerRelationship (some owner)

/-- Linking a new attribute record puts it at the end of the collection. -/
theorem appends_link (found : s.record? owner = some r) (cls : r.cls = identityClass) :
    Appends owner s (linkNew owner s) [] [] [s.records.length] := by
  have isNew := Store.record?_add_self s { cls := attributeClass }
  have below : owner < s.records.length := Store.lt_length_of_record? found
  have stillThere := Store.record?_add_of_some { cls := attributeClass } found
  have size : (s.add { cls := attributeClass }).2.records.length = s.records.length + 1 :=
    List.length_append
  refine ⟨fun j a q before => ?_, (Store.Assigned.setLink _ _ _ _).size.trans size, rfl, ?_, .nil⟩
  · have older : s.records.length ≠ j := (Nat.ne_of_lt (Store.lt_length_of_record? before)).symm
    exact ((Store.AgreesAt.add j a s _).trans (.setLink _ _ _ fun same => absurd same older)) q
      before
  · have added : (s.add { cls := attributeClass }).2.collection owner "attributes" =
        s.collection owner "attributes" :=
      (Store.ReadsAlike.add owner "attributes" s rfl rfl).collection found
    rw [List.nil_append, ← added]
    exact Store.collection_setLink stillThere isNew size.symm (Nat.ne_of_gt below) rfl rfl rfl
      (List.mem_singleton.mpr rfl) (by rw [cls]; rfl) rfl

/-- The new attribute record is linked to its owner. -/
theorem exists_linkNew (owner : RecordId) (s : Store) :
    ∃ q, (linkNew owner s).record? s.records.length = some q ∧ q.cls = attributeClass ∧
      q.links.find? "identity" = some (some owner) := by
  have isNew := Store.record?_add_self s { cls := attributeClass }
  obtain ⟨q, there, same⟩ := Store.agreesAt_setLink_of_linkTo (s.add { cls := attributeClass }).2
    s.records.length ownerRelationship (some owner) s.records.length "identity" _
    (Store.record?_modify_self _ isNew)
  exact ⟨q, there, same.cls, same.link⟩

/-- The name and the value of an attribute record are no part of the collection. -/
theorem Appends.set {attr : String} {v : Value} {q : Record}
    (appends : Appends owner s t [] [] [s.records.length]) (found : s.record? owner = some r)
    (own : t.record? s.records.length = some q) (cls : q.cls = attributeClass)
    (among : attr ∈ ["name", "value"]) (done : t.set s.records.length attr v = .ok u) :
    Appends owner s u [] [] [s.records.length] := by
  have spare : ∀ a ∈ ["name", "value"], a ∉ attributeClass.basis "attributes" := by decide
  obtain ⟨p, there, -⟩ := appends.agrees owner "" r found
  refine ⟨fun j a p before => ?_, (Store.Assigned.set done).size.trans appends.size, rfl, ?_, .nil⟩
  · have older : s.records.length ≠ j := (Nat.ne_of_lt (Store.lt_length_of_record? before)).symm
    exact ((appends.agrees j a).trans (.set (fun same => absurd same older) done)) p before
  · rw [← appends.collection]
    exact (Store.ReadsAlike.set own (cls ▸ spare attr among) done).collection there

/-- Whatever becomes of writing the name or the value of the new attribute record, the collection is
the same. -/
theorem keeps_writeAttribute (found : s.record? owner = some r) {p : Property}
    (among : p ∈ [Property.attributeName, Property.attributeValue]) (v : Value) :
    StoreM.Keeps (fun t => Appends owner s t [] [] [s.records.length] ∧
        ∃ q, t.record? s.records.length = some q ∧ q.cls = attributeClass)
      (bindings.write s.records.length p v true) := by
  have plain : ∀ p ∈ [Property.attributeName, Property.attributeValue], ∀ attr,
      bindings.properties.find? p = some attr → attr ∈ ["name", "value"] := by
    have holds : ∀ p ∈ [Property.attributeName, Property.attributeValue],
        (bindings.properties.find? p).all (· ∈ ["name", "value"]) = true := by decide
    intro p among attr bound
    have here := holds p among
    rw [bound] at here
    simpa using here
  refine Bindings.keeps_write fun attr bound t u before done => ?_
  obtain ⟨appends, q, own, cls⟩ := before
  refine ⟨appends.set found own cls (plain p among attr bound) done, ?_⟩
  obtain ⟨p, there, same, -⟩ := (Store.Assigned.set done).kept _ q own
  exact ⟨p, there, same.trans cls⟩

/-- Making an attribute record is linking a new one and writing its name and its value. -/
theorem outcome_createAttribute_eq (owner : RecordId) (e : Value × Value) (s : Store) :
    (createAttribute owner e).outcome s = ((do
      bindings.write s.records.length Property.attributeName e.1 true
      bindings.write s.records.length Property.attributeValue e.2 true) >>= fun _ =>
        pure s.records.length : StoreM RecordId).outcome (linkNew owner s) := by
  have isNew := Store.record?_add_self s { cls := attributeClass }
  have made : bindings.newAttribute.outcome s =
      (.ok s.records.length, (s.add { cls := attributeClass }).2) := rfl
  rw [createAttribute, StoreM.outcome_bind_ok made,
    StoreM.outcome_bind_ok (outcome_assignOwner isNew rfl owner), bind_assoc]
  rfl

/-- An attribute record is complete if its name and its value are there, and else it is the one at
which the making stops. -/
theorem createAttribute_cases {result : Except Failure RecordId}
    (found : s.record? owner = some r) (cls : r.cls = identityClass)
    (run : (createAttribute owner e).outcome s = (result, t)) :
    result = .ok s.records.length ∧ Appends owner s t [s.records.length] [e] [] ∨
      (∃ f, result = .error f) ∧ (e.1.isNull = true ∨ e.2.isNull = true) ∧
        Appends owner s t [] [] [s.records.length] := by
  rw [outcome_createAttribute_eq] at run
  obtain ⟨q, own, ofClass, link⟩ := exists_linkNew owner s
  have linked := appends_link found cls
  have kept : Appends owner s t [] [] [s.records.length] :=
    ((StoreM.Keeps.bind (keeps_writeAttribute found (by decide) e.1) fun _ =>
      keeps_writeAttribute found (by decide) e.2).bind fun _ => .pure _).of_outcome run
        ⟨linked, q, own, ofClass⟩ |>.1
  by_cases given : e.1.isNull = false ∧ e.2.isNull = false
  · rw [StoreM.outcome_bind_ok (puts_attribute _ given.1 given.2 _ q own ofClass)] at run
    cases run
    have apart : bindings.Apart Property.attributeName Property.attributeValue := by
      intro attr bound same
      cases bound
      exact absurd same (by decide)
    have pairwise : ([(Property.attributeName, e.1), (Property.attributeValue, e.2)].map
        Prod.fst).Pairwise bindings.Apart := List.pairwise_pair.mpr apart
    refine .inl ⟨rfl, kept.agrees, kept.size, kept.numbers, kept.collection,
      .cons ⟨⟨_, Store.record?_modify_self _ own, ?_⟩, given⟩ .nil⟩
    exact ⟨(Bindings.putAll_cls _ _ q).trans ofClass, link,
      Bindings.value_putAll pairwise List.mem_cons_self rfl,
      Bindings.value_putAll pairwise (List.mem_cons_of_mem _ List.mem_cons_self) rfl⟩
  · have missing : e.1.isNull = true ∨ e.2.isNull = true := by
      rw [Bool.eq_false_iff, Bool.eq_false_iff] at given
      exact Decidable.or_iff_not_not_and_not.mpr given
    refine .inr ⟨?_, missing, kept⟩
    cases result with
    | error f => exact ⟨f, rfl⟩
    | ok a =>
      obtain ⟨_, u, written, -⟩ := StoreM.outcome_bind_eq_ok.mp run
      obtain ⟨_, u', named, valued⟩ := StoreM.outcome_bind_eq_ok.mp written
      exact absurd ⟨Bindings.given_of_write named, Bindings.given_of_write valued⟩ given

/-- A record that was made as an attribute record under a name. -/
def NamedAs (t : Store) (j : RecordId) (name : Value) : Prop :=
  ∃ q, t.record? j = some q ∧ q.cls = attributeClass ∧ q.value "name" = name

theorem NamedAs.of_agrees {name : Value} (named : NamedAs s j name)
    (agrees : s.AgreesAt j "name" t) : NamedAs t j name := by
  obtain ⟨q, found, cls, isName⟩ := named
  obtain ⟨p, there, same⟩ := agrees q found
  exact ⟨p, there, same.cls.trans cls, same.value.trans isName⟩

theorem NamedAs.unique {name name' : Value} (named : NamedAs t j name) (named' : NamedAs t j name') :
    name = name' := by
  obtain ⟨q, found, -, isName⟩ := named
  obtain ⟨q', found', -, isName'⟩ := named'
  cases found.symm.trans found'
  exact isName.symm.trans isName'

/-- The name is written before the value is checked. -/
theorem namedAs_of_createAttribute {result : Except Failure RecordId} (given : e.1.isNull = false)
    (run : (createAttribute owner e).outcome s = (result, t)) :
    NamedAs t s.records.length e.1 := by
  rw [outcome_createAttribute_eq, bind_assoc] at run
  obtain ⟨q, own, ofClass, -⟩ := exists_linkNew owner s
  have plain : ∀ attr, bindings.properties.find? Property.attributeName = some attr →
      attributeClass.isPlain attr = true := by
    intro attr bound
    cases bound
    rfl
  have meets : bindings.Meets Property.attributeName e.1 true := fun _ => ⟨⟨"name", rfl⟩, given⟩
  have named := Bindings.puts_write s.records.length meets plain _ q own ofClass
  rw [StoreM.outcome_bind_ok named] at run
  have written : NamedAs ((linkNew owner s).modify s.records.length
      (bindings.putAll [(Property.attributeName, e.1)])) s.records.length e.1 :=
    ⟨_, Store.record?_modify_self _ own, (Bindings.putAll_cls _ _ q).trans ofClass,
      Bindings.value_putAll (List.pairwise_singleton _ _) List.mem_cons_self rfl⟩
  have spares : bindings.Spares [Property.attributeValue] "name" := by
    intro p among bound
    rw [List.mem_singleton.mp among] at bound
    exact absurd (Option.some.inj bound) (by decide)
  have kept (u : Store) : StoreM.Keeps (u.AgreesAt s.records.length "name")
      (bindings.write s.records.length Property.attributeValue e.2 true) :=
    Bindings.agreesAt_write fun _ => spares
  exact written.of_agrees (((kept _).bind fun _ => .pure s.records.length).of_outcome run
    (.refl _ "name" _))

/-! ## All of them -/

/-- The store in which making the attribute records of pairs stopped: those before the pair at which
it stopped are complete, and at most one more was made. -/
def StopsAt (owner : RecordId) (s t : Store) (pairs : List (Value × Value)) : Prop :=
  ∃ told pair after ids rest, pairs = told ++ pair :: after ∧
    (pair.1.isNull = true ∨ pair.2.isNull = true) ∧ rest.length ≤ 1 ∧
      Appends owner s t ids told rest

/-- Stopping among later pairs is stopping among all of them. -/
theorem StopsAt.after {pairs : List (Value × Value)} (first : Appends owner s t ids told [])
    (stops : StopsAt owner t u pairs) : StopsAt owner s u (told ++ pairs) := by
  obtain ⟨told', pair, after, ids', rest, rfl, missing, one, appends⟩ := stops
  exact ⟨told ++ told', pair, after, ids ++ ids', rest, (List.append_assoc ..).symm, missing, one,
    first.trans appends⟩

theorem StopsAt.append {pairs : List (Value × Value)} (stops : StopsAt owner s t pairs)
    (more : List (Value × Value)) : StopsAt owner s t (pairs ++ more) := by
  obtain ⟨told, pair, after, ids, rest, rfl, missing, one, appends⟩ := stops
  exact ⟨told, pair, after ++ more, ids, rest, by rw [List.append_assoc, List.cons_append], missing,
    one, appends⟩

/-- The attribute records of a name are all made, or the making stops at one of them. -/
theorem createNamed_cases {name : Value} {values : List Value}
    {result : Except Failure (List RecordId)} (overStandard : m.bindings = bindings)
    (found : s.record? owner = some r) (cls : r.cls = identityClass)
    (run : (m.createNamed owner name values).outcome s = (result, t)) :
    (∃ ids, result = .ok ids ∧ Appends owner s t ids (values.map (name, ·)) []) ∨
      (∃ f, result = .error f) ∧ StopsAt owner s t (values.map (name, ·)) := by
  induction values generalizing s r result with
  | nil =>
    cases run
    exact .inl ⟨[], rfl, .refl owner _⟩
  | cons v more ih =>
    rw [createNamed_cons overStandard] at run
    rcases StoreM.outcome_bind_cases run with ⟨f, failed, rfl⟩ | ⟨id, u, made, run⟩
    · rcases createAttribute_cases found cls failed with ⟨done, -⟩ | ⟨-, missing, appends⟩
      · cases done
      · exact .inr ⟨⟨f, rfl⟩, [], (name, v), more.map (name, ·), [], [_], rfl, missing, Nat.le_refl 1,
          appends⟩
    · rcases createAttribute_cases found cls made with ⟨same, appends⟩ | ⟨⟨f, failed⟩, -⟩
      · cases same
        obtain ⟨q, there, cls'⟩ := appends.exists_record? found cls
        rcases StoreM.outcome_bind_cases run with ⟨f, failed, rfl⟩ | ⟨ids, u', later, done⟩
        · rcases ih there cls' failed with ⟨_, done, -⟩ | ⟨-, stops⟩
          · cases done
          · exact .inr ⟨⟨f, rfl⟩, .after appends stops⟩
        · cases done
          rcases ih there cls' later with ⟨ids', same, further⟩ | ⟨⟨f, failed⟩, -⟩
          · cases same
            exact .inl ⟨_, rfl, appends.trans further⟩
          · cases failed
      · cases failed

/-- What becomes of the other values, the first record that is made for a name has it. -/
theorem namedAs_of_createNamed {name v : Value} {values : List Value}
    {result : Except Failure (List RecordId)} (overStandard : m.bindings = bindings)
    (found : s.record? owner = some r) (cls : r.cls = identityClass) (given : name.isNull = false)
    (run : (m.createNamed owner name (v :: values)).outcome s = (result, t)) :
    NamedAs t s.records.length name := by
  rw [createNamed_cons overStandard] at run
  rcases StoreM.outcome_bind_cases run with ⟨f, failed, -⟩ | ⟨id, u, made, run⟩
  · exact namedAs_of_createAttribute given failed
  · have named := namedAs_of_createAttribute given made
    have appended : ∃ told ids rest, Appends owner u t ids told rest := by
      rcases createAttribute_cases found cls made with ⟨-, appends⟩ | ⟨⟨f, failed⟩, -⟩
      · obtain ⟨q, there, cls'⟩ := appends.exists_record? found cls
        obtain ⟨result', later⟩ : ∃ result',
            (m.createNamed owner name values).outcome u = (result', t) := by
          rcases StoreM.outcome_bind_cases run with ⟨f, failed, -⟩ | ⟨_, u', later, done⟩
          · exact ⟨_, failed⟩
          · cases done
            exact ⟨_, later⟩
        rcases createNamed_cases overStandard there cls' later with
          ⟨ids, -, appends⟩ | ⟨-, told, -, -, ids, rest, -, -, -, appends⟩
        · exact ⟨_, ids, _, appends⟩
        · exact ⟨told, ids, rest, appends⟩
      · cases failed
    obtain ⟨told, ids, rest, appends⟩ := appended
    exact named.of_agrees (appends.agrees _ "name")

/-- The attribute records of all names are made, or the making stops at one of them, or at a name whose
values cannot be gone through. -/
theorem createEntries_cases {entries : List (Value × Value)}
    {result : Except Failure (List RecordId)} (overStandard : m.bindings = bindings)
    (found : s.record? owner = some r) (cls : r.cls = identityClass)
    (run : (m.createEntries owner entries).outcome s = (result, t)) :
    (∃ ids, Appends owner s t ids (Principal.pairsMet entries) []) ∨
      StopsAt owner s t (Principal.pairsMet entries) := by
  induction entries generalizing s r result with
  | nil =>
    cases run
    exact .inl ⟨[], .refl owner _⟩
  | cons entry more ih =>
    obtain ⟨name, values⟩ := entry
    rw [Mapper.createEntries] at run
    rw [Principal.pairsMet]
    rcases StoreM.outcome_lift_bind_cases run with ⟨f, refused, -, rfl⟩ | ⟨items, read, run⟩
    · rw [refused]
      exact .inl ⟨[], .refl owner t⟩
    · rw [read]
      rcases StoreM.outcome_bind_cases run with ⟨f, failed, -⟩ | ⟨made, u, named, run⟩
      · rcases createNamed_cases overStandard found cls failed with ⟨_, done, -⟩ | ⟨-, stops⟩
        · cases done
        · exact .inr (stops.append _)
      · rcases createNamed_cases overStandard found cls named with
          ⟨ids, -, appends⟩ | ⟨⟨f, failed⟩, -⟩
        · obtain ⟨q, there, cls'⟩ := appends.exists_record? found cls
          have later : ∃ result', (m.createEntries owner more).outcome u = (result', t) := by
            rcases StoreM.outcome_bind_cases run with ⟨f, failed, -⟩ | ⟨_, u', later, done⟩
            · exact ⟨_, failed⟩
            · cases done
              exact ⟨_, later⟩
          obtain ⟨result', later⟩ := later
          rcases ih there cls' later with ⟨ids', further⟩ | stops
          · exact .inl ⟨_, appends.trans further⟩
          · exact .inr (.after appends stops)
        · cases failed

/-- The attribute records of a principal are made, or the making stops. -/
theorem createAttributes_cases {d : Principal} {result : Except Failure (List RecordId)}
    (overStandard : m.bindings = bindings) (found : s.record? owner = some r)
    (cls : r.cls = identityClass)
    (run : (m.createAttributes owner d).outcome s = (result, t)) :
    (∃ ids, Appends owner s t ids d.pairs []) ∨ StopsAt owner s t d.pairs := by
  unfold Mapper.createAttributes at run
  unfold Principal.pairs
  generalize d.attributes = attributes at run ⊢
  cases attributes with
  | mapping entries => exact createEntries_cases overStandard found cls run
  | _ =>
    cases run
    exact .inl ⟨[], .refl owner _⟩

/-- A failed call leaves in the collection of the owner what was there, in order, and after it one
complete attribute record for each pair before the failure. At most one more record was made, for the
pair at which the making stopped because its name or its value is missing; no other record that was
made refers to the owner. -/
theorem collection_of_createAttributes_error {f : Failure} {d : Principal}
    (overStandard : m.bindings = bindings) (found : s.record? owner = some r)
    (cls : r.cls = identityClass)
    (failed : (m.createAttributes owner d).outcome s = (.error f, t)) :
    ∃ told ids rest,
      t.collection owner "attributes" = s.collection owner "attributes" ++ ids ++ rest ∧
      List.Forall₂ (Carries t owner) ids told ∧
      (∀ j ∈ ids ++ rest, s.records.length ≤ j) ∧
      (∀ j, s.records.length ≤ j → t.get j "identity" = .record owner → j ∈ ids ++ rest) ∧
      (d.pairs = told ∧ rest = [] ∨ ∃ name value after, d.pairs = told ++ (name, value) :: after ∧
        (name.isNull = true ∨ value.isNull = true) ∧ rest.length ≤ 1) := by
  have stopped : ∃ told ids rest, Appends owner s t ids told rest ∧
      (d.pairs = told ∧ rest = [] ∨ ∃ name value after,
        d.pairs = told ++ (name, value) :: after ∧
          (name.isNull = true ∨ value.isNull = true) ∧ rest.length ≤ 1) := by
    rcases createAttributes_cases overStandard found cls failed with ⟨ids, appends⟩ |
      ⟨told, ⟨name, value⟩, after, ids, rest, split, missing, one, appends⟩
    · exact ⟨d.pairs, ids, [], appends, .inl ⟨rfl, rfl⟩⟩
    · exact ⟨told, ids, rest, appends, .inr ⟨name, value, after, split, missing, one⟩⟩
  obtain ⟨told, ids, rest, appends, stop⟩ := stopped
  refine ⟨told, ids, rest, ?_, appends.complete.imp fun _ _ made => made.carries, appends.new,
    fun j new refers => appends.made new ?_, stop⟩
  · rw [appends.collection, List.append_assoc]
  · cases there : t.record? j with
    | some q => exact Store.lt_length_of_record? there
    | none =>
      rw [Store.get, there] at refers
      cases refers

/-- Where the second value of an attribute is missing, the record of the first one stays in the
collection, and at most one more. -/
theorem collection_of_missing_second : ∃ reg m d s t,
    Registry.withBuiltins bindings none = .ok reg ∧ reg.forKind .user = .ok m ∧
    Principal.create ⟨.epoch, none⟩ .user [("login_name", .text "zoe"),
      ("attributes", .mapping [(.text "role", .list [.text "clerk", .null])])] = .ok d ∧
    (m.create none d).outcome ⟨catalog, [], []⟩ = (.ok 0, s) ∧
    (m.createAttributes 0 d).outcome s =
      (.error (.integrity (.valueMissing Property.attributeValue)), t) ∧
    ∃ j rest, t.collection 0 "attributes" = j :: rest ∧ rest.length ≤ 1 ∧
      Carries t 0 j (.text "role", .text "clerk") := by
  obtain ⟨reg, m, d, s, t, r, registered, chosen, built, made, failed, overStandard, found, cls,
      empty, pairs⟩ : ∃ reg m d s t, ∃ r : Record,
      Registry.withBuiltins bindings none = .ok reg ∧ reg.forKind .user = .ok m ∧
      Principal.create ⟨.epoch, none⟩ .user [("login_name", .text "zoe"),
        ("attributes", .mapping [(.text "role", .list [.text "clerk", .null])])] = .ok d ∧
      (m.create none d).outcome ⟨catalog, [], []⟩ = (.ok 0, s) ∧
      (m.createAttributes 0 d).outcome s =
        (.error (.integrity (.valueMissing Property.attributeValue)), t) ∧
      m.bindings = bindings ∧ s.record? 0 = some r ∧ r.cls = identityClass ∧
      s.collection 0 "attributes" = [] ∧
      d.pairs = [(.text "role", .text "clerk"), (.text "role", .null)] :=
    ⟨_, _, _, _, _, _, rfl, rfl, rfl, rfl, rfl, rfl, rfl, rfl, rfl, rfl⟩
  obtain ⟨told, ids, rest, collection, carried, -, -, stop⟩ :=
    collection_of_createAttributes_error overStandard found cls failed
  rw [empty, List.nil_append] at collection
  rw [pairs] at stop
  refine ⟨reg, m, d, s, t, registered, chosen, built, made, failed, ?_⟩
  rcases stop with ⟨rfl, -⟩ | ⟨name, value, after, split, missing, one⟩
  · -- The missing value belongs to no complete record.
    cases carried with
    | cons _ later => cases later with
      | cons last _ => exact absurd last.complete.2 (by decide)
  · cases told with
    | nil =>
      cases split
      exact absurd missing (by decide)
    | cons e more =>
      cases more with
      | nil =>
        cases split
        cases carried with
        | cons first later =>
          cases later
          exact ⟨_, rest, collection, one, first⟩
      | cons e' more => exact absurd (congrArg List.length split) (by simp)

/-- A failed call may leave an incomplete attribute record in the collection of the owner. -/
theorem collection_grown_of_missing_value : ∃ reg m d s t,
    Registry.withBuiltins bindings none = .ok reg ∧ reg.forKind .user = .ok m ∧
    Principal.create ⟨.epoch, none⟩ .user [("login_name", .text "zoe"),
      ("attributes", .mapping [(.text "role", .list [.text "clerk", .null])])] = .ok d ∧
    (m.create none d).outcome ⟨catalog, [], []⟩ = (.ok 0, s) ∧
    (m.createAttributes 0 d).outcome s =
      (.error (.integrity (.valueMissing Property.attributeValue)), t) ∧
    s.collection 0 "attributes" = [] ∧ t.collection 0 "attributes" = [1, 2] ∧
      t.get 1 "identity" = .record 0 ∧ t.get 2 "identity" = .record 0 ∧ t.get 2 "value" = .null :=
  ⟨_, _, _, _, _, rfl, rfl, rfl, rfl, rfl, rfl, rfl, rfl, rfl, rfl⟩

end Standard

end Principals
