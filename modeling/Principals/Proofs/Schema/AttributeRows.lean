import Mathlib.Data.List.Forall2
import Principals.Proofs.Schema.Conforming
import Principals.Proofs.Schema.Creating
import Principals.Proofs.Store.Reached

/-!
# Attribute rows of the standard schema

The attributes of a principal are kept in one record per value, each linked to the record of the
principal, which gathers them. None of them has a number before they are written together: then the
principal gets its number first, and every attribute row has that number, the name and the value.

* `withAttributes`: a store with a new record and its attribute records;
* `outcome_createEntries`: making them;
* `Tells`, `TellAll`, `rows_of_persist`: the rows that are written.
-/

namespace Principals.Standard

variable {s t u : Store} {r : Record} {m : Mapper} {pairs : List (String × String)}
  {ids roots : List RecordId} {id owner : RecordId}

/-- The relationship of an attribute record to its owner. -/
def ownerRelationship : Relationship where
  attr := "identity"
  target := "IdentityObject"
  localAttr := "identity_id"
  remote := "id"
  backref := some "attributes"
  label := some Property.attributeOwner

/-- The attribute record of a name and a value, before it is written. -/
def attributeRecord (owner : RecordId) (e : String × String) : Record :=
  bindings.putAll [(Property.attributeName, .text e.1), (Property.attributeValue, .text e.2)]
    (Store.linkTo ownerRelationship (some owner) { cls := attributeClass })

/-- The collections of a record that gathers attribute records. -/
def gatheredOf : List RecordId → OrderedMap String (List RecordId)
  | [] => ∅
  | ids => ⟨[("attributes", ids)]⟩

/-- The record with attribute records gathered. -/
def owning (ids : List RecordId) (r : Record) : Record := { r with gathered := gatheredOf ids }

/-- The numbers of attribute records that follow a new record. -/
def attributeIds (s : Store) (pairs : List (String × String)) : List RecordId :=
  List.range' (s.records.length + 1) pairs.length

/-- The store with a new record and, after it, its attribute records. -/
def withAttributes (s : Store) (r : Record) (pairs : List (String × String)) : Store :=
  s.addAll (owning (attributeIds s pairs) r :: pairs.map (attributeRecord s.records.length))

theorem withAttributes_nil (s : Store) (ungathered : r.gathered = ∅) :
    withAttributes s r [] = (s.add r).2 := by
  have same : owning [] r = r := by
    obtain ⟨cls, values, links, unwritten, gathered, row, removed⟩ := r
    cases ungathered
    rfl
  change s.addAll [owning [] r] = _
  rw [same, Store.addAll_cons, Store.addAll_nil]

theorem length_withAttributes (s : Store) (r : Record) (pairs : List (String × String)) :
    (withAttributes s r pairs).records.length = s.records.length + 1 + pairs.length := by
  rw [withAttributes, Store.addAll, List.length_append, List.length_cons, List.length_map]
  omega

theorem record?_owner (s : Store) (r : Record) (pairs : List (String × String)) :
    (withAttributes s r pairs).record? s.records.length =
      some (owning (attributeIds s pairs) r) :=
  Store.record?_addAll_head ..

theorem record?_attribute (s : Store) (r : Record) {i : Nat} {e : String × String}
    (at_i : pairs[i]? = some e) :
    (withAttributes s r pairs).record? (s.records.length + 1 + i) =
      some (attributeRecord s.records.length e) := by
  rw [Nat.add_assoc, Nat.add_comm 1, withAttributes, Store.record?_addAll_new,
    List.getElem?_cons_succ, List.getElem?_map, at_i, Option.map_some]

theorem classes_withAttributes (classes : ∀ q ∈ s.records, q.cls ∈ catalog.classes)
    (cls : r.cls = identityClass) (pairs : List (String × String)) :
    ∀ q ∈ (withAttributes s r pairs).records, q.cls ∈ catalog.classes := by
  refine List.forall_mem_append.mpr ⟨classes, List.forall_mem_cons.mpr ⟨?_, ?_⟩⟩
  · change r.cls ∈ _
    rw [cls]
    decide
  · refine List.forall_mem_map.mpr fun e _ => ?_
    change attributeClass ∈ _
    decide

/-! ## Making them -/

/-- One more attribute record is gathered after the others. -/
theorem gather_owning (new : r.isTransient = true) (ids : List RecordId) (id : RecordId) :
    (match (owning ids r).gathered? "attributes" with
      | some ids' =>
        { owning ids r with gathered := (owning ids r).gathered.insert "attributes" (ids' ++ [id]) }
      | none => owning ids r) = owning (ids ++ [id]) r := by
  cases ids with
  | nil =>
    have none_yet : (owning [] r).gathered? "attributes" = some [] := if_pos new
    rw [none_yet]
    rfl
  | cons first rest => rfl

/-- Linking a new attribute record to the owner of others adds it to them. -/
theorem setLink_attribute (new : r.isTransient = true) (pairs : List (String × String)) :
    ((withAttributes s r pairs).add { cls := attributeClass }).2.setLink
        (withAttributes s r pairs).records.length ownerRelationship (some s.records.length) =
      s.addAll (owning (attributeIds s pairs ++ [(withAttributes s r pairs).records.length]) r ::
        pairs.map (attributeRecord s.records.length) ++
          [Store.linkTo ownerRelationship (some s.records.length) { cls := attributeClass }]) := by
  have last := Store.record?_add_self (withAttributes s r pairs) { cls := attributeClass }
  have unlinked : ∀ u : Store, u.linked? { cls := attributeClass } ownerRelationship = none :=
    fun _ => rfl
  simp only [Store.setLink, last, Option.bind_some, unlinked]
  change (((withAttributes s r pairs).add { cls := attributeClass }).2.modify
    (withAttributes s r pairs).records.length
      (Store.linkTo ownerRelationship (some s.records.length))).gather s.records.length "attributes"
        (withAttributes s r pairs).records.length = _
  rw [Store.modify_add, Store.gather]
  generalize (withAttributes s r pairs).records.length = id
  rw [withAttributes, ← Store.addAll_concat, List.cons_append, Store.modify_addAll_head,
    ← Store.addAll_cons, List.cons_append]
  exact congrArg (fun q => s.addAll (q :: _)) (gather_owning new _ _)

/-- Assigning the owner of a new attribute record links it. -/
theorem outcome_assignOwner {q : Record} (found : t.record? id = some q)
    (cls : q.cls = attributeClass) (owner : RecordId) :
    (bindings.assignOwner id owner).outcome t =
      (.ok (), t.setLink id ownerRelationship (some owner)) := by
  have linking : (StoreM.lift bindings.linkingRelationship).outcome t =
      (.ok (some ownerRelationship), t) := rfl
  rw [Bindings.assignOwner, StoreM.outcome_bind_ok linking]
  exact StoreM.outcome_change_ok (Store.set_link owner found (by rw [cls]; rfl))

/-- The name and the value of an attribute record are put into it. -/
theorem puts_attribute (id : RecordId) {e : Value × Value} (name : e.1.isNull = false)
    (value : e.2.isNull = false) :
    bindings.Puts attributeClass id
      [(Property.attributeName, e.1), (Property.attributeValue, e.2)] (do
        bindings.write id Property.attributeName e.1 true
        bindings.write id Property.attributeValue e.2 true) := by
  have plain : ∀ p ∈ [Property.attributeName, Property.attributeValue], ∀ attr,
      bindings.properties.find? p = some attr → attributeClass.isPlain attr = true := by
    have holds : ∀ p ∈ [Property.attributeName, Property.attributeValue],
        (bindings.properties.find? p).all attributeClass.isPlain = true := by decide
    intro p among attr bound
    have here := holds p among
    rwa [bound] at here
  exact (Bindings.puts_write id (fun _ => ⟨⟨"name", rfl⟩, name⟩) (plain _ (by simp))).seq
    (Bindings.puts_write id (fun _ => ⟨⟨"value", rfl⟩, value⟩) (plain _ (by simp)))

/-- One more attribute record after the others. -/
theorem withAttributes_concat (s : Store) (r : Record) (pairs : List (String × String))
    (e : String × String) :
    withAttributes s r (pairs ++ [e]) =
      s.addAll (owning (attributeIds s pairs ++ [(withAttributes s r pairs).records.length]) r ::
        pairs.map (attributeRecord s.records.length) ++ [attributeRecord s.records.length e]) := by
  have ids : attributeIds s (pairs ++ [e]) =
      attributeIds s pairs ++ [(withAttributes s r pairs).records.length] := by
    rw [attributeIds, List.length_append, List.length_singleton, List.range'_1_concat,
      length_withAttributes]
    rfl
  rw [withAttributes, ids, List.map_append]
  rfl

/-- The record at the end becomes an attribute record when it was linked to its owner. -/
theorem outcome_writeAttribute (s : Store) (rs : List Record) (owner : RecordId)
    (e : String × String) :
    (do
      bindings.write (s.addAll rs).records.length Property.attributeName (.text e.1) true
      bindings.write (s.addAll rs).records.length Property.attributeValue (.text e.2) true
      : StoreM Unit).outcome
        (s.addAll (rs ++ [Store.linkTo ownerRelationship (some owner) { cls := attributeClass }])) =
      (.ok (), s.addAll (rs ++ [attributeRecord owner e])) := by
  rw [puts_attribute _ (e := (.text e.1, .text e.2)) rfl rfl _ _
    (Store.record?_addAll_last s rs _) rfl, Store.modify_addAll_last]
  rfl

/-- Makes an attribute record of a name and a value. -/
def createAttribute (owner : RecordId) (e : Value × Value) : StoreM RecordId := do
  let id ← bindings.newAttribute
  bindings.assignOwner id owner
  bindings.write id Property.attributeName e.1 true
  bindings.write id Property.attributeValue e.2 true
  return id

/-- The attribute records of a name are made one by one. -/
theorem createNamed_cons (overStandard : m.bindings = bindings) (owner : RecordId) (name v : Value)
    (rest : List Value) : m.createNamed owner name (v :: rest) = (do
      let id ← createAttribute owner (name, v)
      let ids ← m.createNamed owner name rest
      return id :: ids) := by
  simp only [Mapper.createNamed, createAttribute, overStandard, bind_assoc, pure_bind]

/-- Making an attribute record adds it after the others. -/
theorem outcome_createAttribute (new : r.isTransient = true) (pairs : List (String × String))
    (e : String × String) :
    (createAttribute s.records.length (.text e.1, .text e.2)).outcome (withAttributes s r pairs) =
      (.ok (withAttributes s r pairs).records.length, withAttributes s r (pairs ++ [e])) := by
  have made : bindings.newAttribute.outcome (withAttributes s r pairs) =
      (.ok (withAttributes s r pairs).records.length,
        ((withAttributes s r pairs).add { cls := attributeClass }).2) := rfl
  have owned := outcome_assignOwner
    (Store.record?_add_self (withAttributes s r pairs) { cls := attributeClass }) rfl
      s.records.length
  rw [setLink_attribute new] at owned
  have length : (withAttributes s r pairs).records.length = (s.addAll (owning
      (attributeIds s pairs ++ [(withAttributes s r pairs).records.length]) r ::
        pairs.map (attributeRecord s.records.length))).records.length := by
    rw [withAttributes, Store.length_addAll, Store.length_addAll]
    rfl
  have wrote := outcome_writeAttribute s (owning
      (attributeIds s pairs ++ [(withAttributes s r pairs).records.length]) r ::
        pairs.map (attributeRecord s.records.length)) s.records.length e
  rw [← length, ← withAttributes_concat] at wrote
  obtain ⟨_, u, named, valued⟩ := StoreM.outcome_bind_eq_ok.mp wrote
  rw [createAttribute, StoreM.outcome_bind_ok made, StoreM.outcome_bind_ok owned,
    StoreM.outcome_bind_ok named, StoreM.outcome_bind_ok valued]
  rfl

/-- Making the attribute records of a name adds them after the others. -/
theorem outcome_createNamed (overStandard : m.bindings = bindings) (new : r.isTransient = true)
    (name : String) (values : List String) (pairs : List (String × String)) :
    (m.createNamed s.records.length (.text name) (values.map .text)).outcome
      (withAttributes s r pairs) =
      (.ok (List.range' (s.records.length + 1 + pairs.length) values.length),
        withAttributes s r (pairs ++ values.map (name, ·))) := by
  induction values generalizing pairs with
  | nil =>
    rw [List.map_nil, List.map_nil, List.append_nil]
    rfl
  | cons v rest ih =>
    have later := ih (pairs ++ [(name, v)])
    rw [List.length_append, List.length_singleton, List.append_assoc] at later
    rw [List.map_cons, createNamed_cons overStandard,
      StoreM.outcome_bind_ok (outcome_createAttribute new pairs (name, v)),
      StoreM.outcome_bind_ok later, length_withAttributes]
    rfl

/-- The names of attributes with each of their values. -/
def pairsOf (entries : List (String × List String)) : List (String × String) :=
  entries.flatMap fun e => e.2.map (e.1, ·)

theorem pairsOf_cons (e : String × List String) (entries : List (String × List String)) :
    pairsOf (e :: entries) = e.2.map (e.1, ·) ++ pairsOf entries := rfl

/-- Making the attribute records of all names adds them after the others. -/
theorem outcome_createEntries (overStandard : m.bindings = bindings) (new : r.isTransient = true)
    (entries : List (String × List String)) (pairs : List (String × String)) :
    (m.createEntries s.records.length
      (entries.map fun e => (.text e.1, .list (e.2.map .text)))).outcome
      (withAttributes s r pairs) =
      (.ok (List.range' (s.records.length + 1 + pairs.length) (pairsOf entries).length),
        withAttributes s r (pairs ++ pairsOf entries)) := by
  induction entries generalizing pairs with
  | nil =>
    rw [pairsOf, List.flatMap_nil, List.append_nil]
    rfl
  | cons e rest ih =>
    obtain ⟨name, values⟩ := e
    have items : (StoreM.lift (Principal.itemsOf (.list (values.map .text)))).outcome
        (withAttributes s r pairs) = (.ok (values.map .text), withAttributes s r pairs) := rfl
    have later := ih (pairs ++ values.map (name, ·))
    rw [List.length_append, List.length_map, List.append_assoc] at later
    rw [List.map_cons, Mapper.createEntries, StoreM.outcome_bind_ok items,
      StoreM.outcome_bind_ok (outcome_createNamed overStandard new name values pairs),
      StoreM.outcome_bind_ok later, pairsOf_cons, List.length_append, List.length_map,
      ← Nat.add_assoc, StoreM.outcome_pure, List.range'_append_1]

/-! ## Rows -/

/-- What an attribute row says: its owner has a value under a name. -/
structure Tells (row : Row) (n : Int) (e : String × String) : Prop where
  owner : row.find? "identity_id" = some (.integer n)
  name : row.find? "name" = some (.text e.1)
  value : row.find? "value" = some (.text e.2)

/-- Whether the rows of attribute records tell pairs of a number, one after the other. -/
def TellAll (t : Store) (n : Int) (ids : List RecordId) (pairs : List (String × String)) : Prop :=
  List.Forall₂ (fun i e => ∃ row, t.stored? i = some (attributeClass, row) ∧ Tells row n e) ids pairs

theorem TellAll.congr {n : Int} (tell : TellAll t n ids pairs)
    (same : ∀ i ∈ ids, u.stored? i = t.stored? i) : TellAll u n ids pairs := by
  refine ((List.forall₂_and_left _ _).mpr ⟨same, tell⟩).imp fun i e tells => ?_
  obtain ⟨sameRow, row, isRow, tells⟩ := tells
  exact ⟨row, sameRow.trans isRow, tells⟩

/-- Each of the attribute records has a row that tells something of the number. -/
theorem TellAll.exists_of_mem {n : Int} (tell : TellAll t n ids pairs) (among : id ∈ ids) :
    ∃ e row, t.stored? id = some (attributeClass, row) ∧ Tells row n e := by
  induction tell with
  | nil => cases among
  | cons first _ ih =>
    rcases List.mem_cons.mp among with rfl | later
    · exact ⟨_, first⟩
    · exact ih later

theorem refers_owner : Store.Refers ownerRelationship attributeClass identityClass where
  isLink := rfl
  needed := ⟨{ attr := "identity_id", column := "identity_id", type := .integer,
               nullable := false }, rfl, rfl⟩
  given := by decide
  isNumbered := rfl
  key := rfl
  plain := by decide
  other := by decide

/-- A record leads to those that it gathers. -/
theorem mem_neighbours_owning (among : id ∈ ids) : id ∈ (owning ids r).neighbours := by
  cases ids with
  | nil => cases among
  | cons first rest =>
    refine List.mem_append_right _ ?_
    change id ∈ (first :: rest) ++ []
    rwa [List.append_nil]

/-- Attribute records are written along with their owner. -/
theorem mem_closure_attribute {i : Nat} {e : String × String} (new : r.isTransient = true)
    (among : s.records.length ∈ roots) (at_i : pairs[i]? = some e) :
    s.records.length + 1 + i ∈ (withAttributes s r pairs).closure roots := by
  have owner := Store.mem_closure_of_root among (record?_owner s r pairs) new
  refine Store.mem_closure_of_near owner ?_ (record?_attribute s r at_i) rfl
  rw [Store.neighboursOf, record?_owner]
  refine mem_neighbours_owning (List.mem_range'_1.mpr ⟨Nat.le_add_right .., ?_⟩)
  exact Nat.add_lt_add_left (List.getElem?_eq_some_iff.mp at_i).1 _

theorem eq_integer_of_store {n : Int} {cell : Cell}
    (stores : ColumnType.integer.store (.int n) = .ok cell) : cell = .integer n := by
  rw [store_number] at stores
  split at stores
  · exact (Except.ok.inj stores).symm
  · cases stores

/-- An attribute record that waits for its owner. -/
theorem waits_attribute {i : Nat} {e : String × String} (at_i : pairs[i]? = some e) :
    (withAttributes s r pairs).Waits ownerRelationship attributeClass s.records.length
      (s.records.length + 1 + i) :=
  ⟨_, record?_attribute s r at_i, rfl, rfl, rfl, rfl⟩

theorem exists_pair_of_mem (among : id ∈ attributeIds s pairs) :
    ∃ i e, pairs[i]? = some e ∧ id = s.records.length + 1 + i := by
  obtain ⟨i, lt, rfl⟩ := List.mem_range'.mp among
  exact ⟨i, pairs[i], List.getElem?_eq_getElem lt, by rw [Nat.one_mul]⟩

/-- The row of an attribute record tells its name and its value of the number that is due in it. -/
theorem tells_of_flush {i : Nat} {e : String × String} {n : Int} {new : List RecordId}
    (known : attributeClass ∈ (withAttributes s r pairs).catalog.classes) (at_i : pairs[i]? = some e)
    (among : s.records.length + 1 + i ∈ new)
    (refers : ∃ q, t.record? (s.records.length + 1 + i) = some q ∧ t.Due q "identity_id" (.int n))
    (done : (withAttributes s r pairs).flush new = .ok t) :
    ∃ row, t.stored? (s.records.length + 1 + i) = some (attributeClass, row) ∧ Tells row n e := by
  have found := record?_attribute s r at_i
  obtain ⟨row, written⟩ := Store.written_of_flush ⟨_, found, rfl⟩ known among done
  have free : ∀ attr ∈ ["name", "value"],
      ∀ rel ∈ attributeClass.relationships, rel.localAttr ≠ attr := by decide
  have text : ∀ attr ∈ ["name", "value"], ∀ x, (attributeRecord s.records.length e).value attr =
      .text x → ∃ q, t.record? (s.records.length + 1 + i) = some q ∧ t.Due q attr (.text x) :=
    fun attr inList x value => Store.exists_due_of_flush
      ⟨_, found, Store.due_of_value rfl value (Record.not_awaits_of_forall (free attr inList))⟩ done
  obtain ⟨owner, storesOwner, isOwner⟩ := written.cell refers rfl
  obtain ⟨name, storesName, isName⟩ := written.cell (text "name" (by simp) e.1 rfl) rfl
  obtain ⟨value, storesValue, isValue⟩ := written.cell (text "value" (by simp) e.2 rfl) rfl
  cases eq_integer_of_store storesOwner
  cases storesName
  cases storesValue
  exact ⟨row, written.stored, isOwner, isName, isValue⟩

/-- What persisting a new record with its attribute records leaves, if it succeeds: the record has a
number above all others, and each attribute row tells its name and its value of that number. -/
theorem rows_of_persist (schema : s.catalog = catalog) (cls : r.cls = identityClass)
    (new : r.isTransient = true) (unnumbered : r.value "id" = .null)
    (among : s.records.length ∈ roots)
    (done : (StoreM.persist roots).outcome (withAttributes s r pairs) = (.ok (), t)) :
    ∃ n row, t.stored? s.records.length = some (identityClass, row) ∧
      row.find? "id" = some (.integer n) ∧
      TellAll t n (attributeIds s pairs) pairs ∧ ∀ m, s.Holds identityClass "id" m → m < n := by
  have flushed := Store.flush_of_persist done
  have catalogNow : (withAttributes s r pairs).catalog = catalog := schema
  have known : ∀ cls ∈ catalog.classes, cls ∈ (withAttributes s r pairs).catalog.classes := by
    rw [catalogNow]
    exact fun _ among => among
  have closed := Store.mem_closure_of_root among (record?_owner s r pairs) new
  have unwritten : r.row = none := by
    rw [Record.isTransient, Bool.and_eq_true, Option.isNone_iff_eq_none] at new
    exact new.1
  obtain ⟨n, number, refer, above⟩ := Store.exists_number_of_flush refers_owner
    ⟨_, record?_owner s r pairs, cls, unwritten, unnumbered,
      Record.not_awaits_of_forall (by
        change ∀ rel ∈ r.cls.relationships, _
        rw [cls]
        decide)⟩
    (fun i inIds => by
      obtain ⟨j, e, at_j, rfl⟩ := exists_pair_of_mem inIds
      exact waits_attribute at_j)
    (known identityClass (by decide)) closed flushed
  obtain ⟨row, written⟩ := Store.written_of_flush ⟨_, record?_owner s r pairs, cls⟩
    (known identityClass (by decide)) closed flushed
  obtain ⟨cell, stores, isNumber⟩ := written.cell number.exists_due rfl
  cases eq_integer_of_store stores
  refine ⟨n, row, written.stored, isNumber, ?_, fun m holds => above m (holds.addAll _)⟩
  refine List.forall₂_iff_get.mpr ⟨List.length_range', fun i lt lt' => ?_⟩
  have at_i : pairs[i]? = some pairs[i] := List.getElem?_eq_getElem lt'
  have isId : (attributeIds s pairs).get ⟨i, lt⟩ = s.records.length + 1 + i := by
    simp [attributeIds]
  rw [isId]
  exact tells_of_flush (known attributeClass (by decide)) at_i
    (mem_closure_attribute new among at_i)
    (refer _ (List.mem_range'.mpr ⟨i, lt', by rw [Nat.one_mul]⟩)) flushed

end Principals.Standard
