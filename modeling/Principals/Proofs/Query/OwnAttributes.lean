import Principals.Proofs.Query.HeldValues
import Principals.Proofs.Query.Selection
import Principals.Proofs.Schema.AttributeRows

/-!
# Principals found by their own attributes

A principal that was stored with its attributes has one row for each value under each name. A query
for the values of one of its names, in whichever order and with the same repetitions, asks for as
many rows as there are. So the principal is found, unless the tables hold further rows that give its
number one of these values under the name.

* `Gives`, `GivenBeside`: the rows that are counted, and those among them that are of other records;
* `holds_standardTest_iff`: the test for a principal's own values, beside what else the tables hold;
* `Registry.createWithAttributes`, `outcome_createWithAttributes`: making the records;
* `Intact`, `not_givenBeside_of_intact`: stores in which no other row refers to a new number;
* `selected_by_attribute_iff`: when a principal is found by its own attribute.
-/

namespace Principals

open Standard

namespace Standard

variable {s t u w : Store} {row : Row} {n : Int} {name : String} {values vs : List String}
  {own : List RecordId} {pairs : List (String × String)} {k : Compiler}
  {entries : List (String × List String)}

/-! ## The test -/

/-- Whether an attribute row gives the owner of a number one of some values under a name. -/
structure Gives (row : Row) (n : Int) (name : String) (values : List String) : Prop where
  owner : ((row.find? "identity_id").getD .null).same (.integer n) = true
  name : ((row.find? "name").getD .null).text? = some name
  value : ∃ v ∈ values, ((row.find? "value").getD .null).text? = some v

/-- Whether some row beside those of some records gives the owner of a number one of some values. -/
def GivenBeside (w : Store) (own : List RecordId) (n : Int) (name : String)
    (values : List String) : Prop :=
  ∃ i cls row, i ∉ own ∧ w.stored? i = some (cls, row) ∧ cls.name = attributeClass.name ∧
    Gives row n name values

theorem counts_standardTest_iff :
    (Store.standardTest name (values.map .text)).counts (.integer n) row = true ↔
      Gives row n name values := by
  have isName : (Store.standardTest name (values.map .text)).nameTest.holds
      (Store.standardTest name (values.map .text)).name row = true ↔
        ((row.find? "name").getD .null).text? = some name := Cell.same_text_iff
  have isValue := within_texts_iff (c := (Store.standardTest name (values.map .text)).value) rfl row
    values
  rw [AttributeTest.counts, AttributeTest.keeps, Bool.and_eq_true, Bool.and_eq_true, isName]
  constructor
  · rintro ⟨owner, named, value⟩
    exact ⟨owner, named, isValue.mp value⟩
  · rintro ⟨owner, named, value⟩
    exact ⟨owner, named, isValue.mpr value⟩

/-- An attribute row that tells a name and a value gives them. -/
theorem Tells.gives_iff {e : String × String} (tells : Tells row n e) :
    Gives row n name values ↔ e.1 = name ∧ e.2 ∈ values := by
  constructor
  · rintro ⟨-, named, v, among, value⟩
    rw [tells.name] at named
    rw [tells.value] at value
    cases named
    cases value
    exact ⟨rfl, among⟩
  · rintro ⟨rfl, among⟩
    exact ⟨by rw [tells.owner]; exact Cell.same_integer_iff.mpr rfl, by rw [tells.name]; rfl,
      e.2, among, by rw [tells.value]; rfl⟩

/-- Where repeated values count, texts are asked for as they are given. -/
theorem attributePredicate_texts (overStandard : k.bindings = bindings)
    (repeated : k.distinct = false) (nonempty : values ≠ []) :
    k.attributePredicate (.text name) (values.map .text) =
      .ok (.hasAttributes (Store.standardTest name (values.map .text))) := by
  have ties : TiesAttributes k.bindings := overStandard ▸ tiesAttributes_bindings
  have asked : k.asked values = values := by
    rw [Compiler.asked, repeated]
    rfl
  rw [ties.attributePredicate_eq name (asked.symm ▸ nonempty), asked]

/-! ## The count -/

theorem countP_of_forall₂ {α β : Type} {R : α → β → Prop} {xs : List α} {ys : List β} {p : α → Bool}
    {q : β → Bool} (related : List.Forall₂ R xs ys) (same : ∀ x y, R x y → p x = q y) :
    xs.countP p = ys.countP q := by
  induction related with
  | nil => rfl
  | cons first _ ih => rw [List.countP_cons, List.countP_cons, ih, same _ _ first]

/-- Of the pairs of a principal, those with a name and one of its values are as many as the values. -/
theorem countP_pairsOf (nodup : (entries.map Prod.fst).Nodup) (among : (name, vs) ∈ entries)
    (all : ∀ v ∈ vs, v ∈ values) :
    (pairsOf entries).countP (fun e => e.1 == name && values.contains e.2) = vs.length := by
  have others : ∀ rest : List (String × List String), name ∉ rest.map Prod.fst →
      (pairsOf rest).countP (fun e => e.1 == name && values.contains e.2) = 0 := by
    intro rest absent
    refine List.countP_eq_zero.mpr fun e inRest => ?_
    obtain ⟨entry, isEntry, isPair⟩ := List.mem_flatMap.mp inRest
    obtain ⟨v, -, rfl⟩ := List.mem_map.mp isPair
    have other : entry.1 ≠ name := fun same => absent (same ▸ List.mem_map_of_mem isEntry)
    simp [other]
  induction entries with
  | nil => cases among
  | cons entry rest ih =>
    obtain ⟨first, later⟩ := List.nodup_cons.mp nodup
    rw [pairsOf_cons, List.countP_append]
    rcases List.mem_cons.mp among with rfl | inRest
    · rw [others rest first, Nat.add_zero, List.countP_map, List.countP_eq_length]
      intro v isValue
      simpa using all v isValue
    · have other : entry.1 ≠ name := fun same =>
        first (same ▸ List.mem_map_of_mem (f := Prod.fst) inRest)
      rw [ih later inRest, List.countP_map, List.countP_eq_zero.mpr, Nat.zero_add]
      intro v _
      simp [other]

/-- The rows of some records are counted apart from those of others. -/
theorem countP_ids (nodup : own.Nodup) (stored : ∀ i ∈ own, i < w.records.length)
    (p : RecordId → Bool) :
    w.ids.countP p = own.countP p + (w.ids.filter (! own.contains ·)).countP p := by
  have mine : (w.ids.filter own.contains).Perm own := by
    have nodupIds : w.ids.Nodup := List.nodup_range
    rw [List.perm_ext_iff_of_nodup (nodupIds.filter _) nodup]
    intro i
    simp only [List.mem_filter, Store.ids, List.mem_range, List.contains_iff_mem]
    exact ⟨fun h => h.2, fun among => ⟨stored i among, among⟩⟩
  rw [List.countP_eq_countP_filter_add w.ids p own.contains, mine.countP_eq]

/-- The attribute rows that are counted, record by record: those of some records, which tell pairs of
a number, and those of others. -/
theorem countP_counts_own (distinct : own.Nodup)
    (tell : TellAll w n own pairs) :
    (w.rowsOf attributeClass.name).countP
        ((Store.standardTest name (values.map .text)).counts (.integer n)) =
      pairs.countP (fun e => e.1 == name && values.contains e.2) +
        (w.ids.filter (! own.contains ·)).countP fun i => (w.stored? i).any fun e =>
          e.1.name == attributeClass.name &&
            (Store.standardTest name (values.map .text)).counts (.integer n) e.2 := by
  have stored : ∀ i ∈ own, i < w.records.length := by
    intro i among
    obtain ⟨j, lt, rfl⟩ := List.mem_iff_getElem.mp among
    obtain ⟨row, isRow, -⟩ := tell.get lt (List.Forall₂.length_eq tell ▸ lt)
    obtain ⟨r, found, -⟩ := Store.stored?_eq_some_iff.mp isRow
    exact Store.lt_length_of_record? found
  rw [Store.countP_rowsOf, countP_ids distinct stored]
  congr 1
  refine countP_of_forall₂ tell fun i e tellsRow => ?_
  obtain ⟨row, isRow, tells⟩ := tellsRow
  have counts : (Store.standardTest name (values.map .text)).counts (.integer n) row = true ↔
      e.1 = name ∧ e.2 ∈ values := counts_standardTest_iff.trans tells.gives_iff
  rw [isRow, Option.any_some, beq_self_eq_true, Bool.true_and, Bool.eq_iff_iff, counts]
  simp

/-- No row of another record is counted exactly if none gives the number one of the values. -/
theorem countP_beside_eq_zero_iff :
    ((w.ids.filter (! own.contains ·)).countP fun i => (w.stored? i).any fun e =>
        e.1.name == attributeClass.name &&
          (Store.standardTest name (values.map .text)).counts (.integer n) e.2) = 0 ↔
      ¬ GivenBeside w own n name values := by
  rw [List.countP_eq_zero]
  constructor
  · rintro none_counts ⟨i, cls, other, notOwn, stored, named, gives⟩
    obtain ⟨r, found, -⟩ := Store.stored?_eq_some_iff.mp stored
    refine none_counts i ?_ ?_
    · simpa [Store.ids, notOwn] using Store.lt_length_of_record? found
    · rw [stored, Option.any_some, named, beq_self_eq_true, Bool.true_and]
      exact counts_standardTest_iff.mpr gives
  · intro none_beside i inOthers counts
    obtain ⟨⟨cls, other⟩, stored, holds⟩ := (Option.any_eq_true ..).mp counts
    rw [Bool.and_eq_true, beq_iff_eq] at holds
    refine none_beside ⟨i, cls, other, ?_, stored, holds.1, counts_standardTest_iff.mp holds.2⟩
    simpa using (List.mem_filter.mp inOthers).2

/-- The test for values that a principal has under a name, repeated as it has them, holds if no row
of another record gives it one of them. -/
theorem holds_standardTest_iff (nodup : (entries.map Prod.fst).Nodup) (among : (name, vs) ∈ entries)
    (nonempty : vs ≠ []) (asked : values.Perm vs) (distinct : own.Nodup)
    (tell : TellAll w n own (pairsOf entries)) (isNumber : row.find? "id" = some (.integer n)) :
    (Predicate.hasAttributes (Store.standardTest name (values.map .text))).holds w.rowsOf row =
        true ↔ ¬ GivenBeside w own n name values := by
  have identity : (Store.standardTest name (values.map .text)).identity.cellIn row = .integer n :=
    cellIn_of_find? isNumber
  have length : (Store.standardTest name (values.map .text)).values.length = vs.length := by
    rw [← asked.length_eq]
    exact List.length_map ..
  have some_value : vs.length ≠ 0 := fun none => nonempty (List.eq_nil_of_length_eq_zero none)
  have cls : (Store.standardTest name (values.map .text)).cls.name = attributeClass.name := rfl
  rw [Predicate.holds, AttributeTest.holds_iff (AttributeTest.oneGroup_of_affinity rfl _ _),
    identity, length, cls, countP_counts_own distinct tell,
    countP_pairsOf nodup among fun v isValue => asked.mem_iff.mpr isValue]
  rw [and_iff_right some_value, Nat.add_eq_left, countP_beside_eq_zero_iff]

end Standard

/-! ## Making the records -/

/-- Makes the record of a principal and one for each value of its attributes. -/
def Registry.createWithAttributes (reg : Registry) (realm : Option Realm) (d : Principal) :
    StoreM (RecordId × List RecordId) := do
  let id ← reg.create realm d
  let m ← StoreM.lift (reg.forKind d.kind)
  let ids ← m.createAttributes id d
  return (id, ids)

namespace Standard

variable {s t u w : Store} {q : QueryBuilder} {v : Variant} {d : Principal} {realm : Option Realm}
  {r : Record} {roots : List RecordId} {entries : List (String × List String)} {name : String}
  {values : List String} {n : Int} {query : Query} {reg : Registry}

/-- The record of a constructed principal is made, and its attribute records after it. -/
theorem outcome_createWithAttributes (serves : reg.ServesBuiltins bindings (some .stored))
    (builtin : v ∈ Variant.builtins) (constructed : d.Constructed v.kind) (reaches : Reaches s realm)
    (texts : d.attributes = .mapping (entries.map fun e => (.text e.1, .list (e.2.map .text)))) :
    (reg.createWithAttributes realm d).outcome s =
      (.ok (s.records.length, attributeIds s (pairsOf entries)),
        withAttributes s (newRecord v (targetOf s realm) d) (pairsOf entries)) := by
  have created := outcome_create_registry (s := s) serves builtin constructed reaches
  have chosen : (StoreM.lift (reg.forKind d.kind)).outcome
      (s.add (newRecord v (targetOf s realm) d)).2 =
      (.ok ⟨v, bindings, reg.discriminators, some .stored⟩,
        (s.add (newRecord v (targetOf s realm) d)).2) := by
    rw [StoreM.outcome_lift, constructed.kind, serves.forKind builtin]
  have attributes := outcome_createEntries (s := s)
    (m := ⟨v, bindings, reg.discriminators, some .stored⟩) rfl
    (isTransient_newRecord v (targetOf s realm) d) entries []
  rw [withAttributes_nil s (gathered_newRecord ..), List.nil_append] at attributes
  rw [Registry.createWithAttributes, StoreM.outcome_bind_ok created, StoreM.outcome_bind_ok chosen,
    Mapper.createAttributes, texts, StoreM.outcome_bind_ok attributes]
  rfl

/-- The names under which a constructed principal has texts are trimmed and different. -/
theorem names_of_create {now : Time.DateTime} {kind : Kind} {fields : List (String × Value)}
    (made : Principal.create now kind fields = .ok d)
    (texts : d.attributes = .mapping (entries.map fun e => (.text e.1, .list (e.2.map .text)))) :
    (entries.map Prod.fst).Nodup ∧ ∀ name ∈ entries.map Prod.fst, Text.trim name = name := by
  obtain ⟨m, given, nodup, trimmed⟩ := Principal.attributes_of_create made
  have same : m.keys = entries.map Prod.fst := by
    rw [given, SharedFields.attributesValue, Value.mapping.injEq] at texts
    have names := congrArg (List.map Prod.fst) texts
    rw [List.map_map, List.map_map] at names
    have injective : Function.Injective Value.text := fun _ _ eq => Value.text.inj eq
    refine injective.list_map ?_
    rw [OrderedMap.keys, List.map_map, List.map_map]
    exact names
  rw [← same]
  exact ⟨nodup, trimmed⟩

/-! ## Finding the principal -/

/-- The query for principals of a kind that have some values under a name. -/
def ofAttribute (kind : Kind) (name : String) (values : List String) : Query where
  kind
  parameters := OrderedMap.insert ∅ (.named name) (.named name, values.map .text)

/-- The predicates of a query for the values of an attribute. -/
theorem outcome_predicates_attribute (serves : q.registry.ServesBuiltins bindings (some .stored))
    (overStandard : q.compiler.bindings = bindings) (repeated : q.compiler.distinct = false)
    (builtin : v ∈ Variant.builtins) (ofKind : query.kind = v.kind) (nonempty : values ≠ [])
    (asked : query.parameters.values = [(.named name, values.map .text)]) :
    (q.predicates query none).outcome w =
      (.ok [.column discriminatorColumn (.within ((v.tokens q.includeSubkinds).map .text)),
        .hasAttributes (Store.standardTest name (values.map .text))], w) := by
  have unscoped : (scopePredicates q none).outcome w = (.ok [], w) := rfl
  refine outcome_predicates serves builtin ofKind unscoped ?_
  rw [asked, QueryBuilder.parameterPredicates, Compiler.compile,
    attributePredicate_texts overStandard repeated nonempty]
  rfl

/-- They select a record of the kind as the test of its attributes decides. -/
theorem exists_run_attribute (name : String) (values : List String) {id : RecordId} {row : Row}
    (settled : w.Settled) (serves : q.registry.ServesBuiltins bindings (some .stored))
    (stored : w.stored? id = some (identityClass, row))
    (onKind : row.find? "discriminator" = some (.text v.discriminator)) :
    ∃ found, (q.run [.column discriminatorColumn
        (.within ((v.tokens q.includeSubkinds).map .text)),
        .hasAttributes (Store.standardTest name (values.map .text))]).outcome w = (.ok found, w) ∧
      (id ∈ found ↔ (Predicate.hasAttributes (Store.standardTest name (values.map .text))).holds
        w.rowsOf row = true) := by
  have possible : ∀ p ∈ [Predicate.column discriminatorColumn
      (.within ((v.tokens q.includeSubkinds).map .text)),
      .hasAttributes (Store.standardTest name (values.map .text))], p ≠ .never :=
    List.forall_mem_cons.mpr ⟨nofun, List.forall_mem_singleton.mpr nofun⟩
  have sendable : Store.Sendable [.column discriminatorColumn
      (.within ((v.tokens q.includeSubkinds).map .text)),
      .hasAttributes (Store.standardTest name (values.map .text))] := by
    refine List.forall_mem_cons.mpr ⟨?_, AttributeTest.sendable_of_texts rfl rfl ?_⟩
    · rw [Predicate.sent, operands_texts rfl]
      exact List.forall_mem_map.mpr fun t _ => ⟨.text t, rfl⟩
    · exact List.forall_mem_map.mpr fun x _ => ⟨x, rfl⟩
  have ofKind : (Test.within ((v.tokens q.includeSubkinds).map .text)).holds discriminatorColumn
      row = true :=
    (within_texts_iff rfl row _).mpr ⟨v.discriminator, List.mem_cons_self .., by
      rw [cellIn_of_find? onKind]
      rfl⟩
  refine ⟨_, outcome_run_of_sendable settled serves.bindings possible sendable, ?_⟩
  rw [Store.mem_matching_iff_of_stored stored rfl, List.forall_mem_cons, List.forall_mem_singleton]
  exact and_iff_right ofKind

/-! ## Other rows -/

/-- A store in which every attribute record is written and refers to a stored identity. -/
def Intact (s : Store) : Prop :=
  ∀ i r, s.record? i = some r → r.cls.name = attributeClass.name →
    ∃ row m, s.Written i r.cls row ∧ row.find? "identity_id" = some (.integer m) ∧
      s.Holds identityClass "id" m

/-- When a record was written with its attribute records, an attribute record is one of these or was
there before. -/
theorem attribute_cases_of_flush {pairs : List (String × String)} {new : List RecordId} {i : RecordId}
    {q : Record} (isIdentity : r.cls = identityClass)
    (done : (withAttributes s r pairs).flush new = .ok u) (found : u.record? i = some q)
    (named : q.cls.name = attributeClass.name) :
    (∃ p, s.record? i = some p ∧ p.cls = q.cls) ∨ i ∈ attributeIds s pairs := by
  obtain ⟨p, before, sameClass⟩ := Store.hasClasses_of_flush done i q found
  rw [sameClass] at named
  rcases Nat.lt_or_ge i s.records.length with old | new
  · obtain ⟨p', there⟩ : ∃ p', s.record? i = some p' := ⟨_, List.getElem?_eq_getElem old⟩
    rw [withAttributes, Store.record?_addAll_of_some _ there] at before
    cases before
    exact .inl ⟨p, there, sameClass.symm⟩
  · obtain ⟨j, rfl⟩ := Nat.exists_eq_add_of_le new
    cases j with
    | zero =>
      rw [Nat.add_zero, record?_owner] at before
      cases before
      change r.cls.name = _ at named
      rw [isIdentity] at named
      exact absurd named (by decide)
    | succ j =>
      refine .inr (List.mem_range'_1.mpr ⟨by omega, ?_⟩)
      rw [withAttributes, Store.record?_addAll_new, List.getElem?_cons_succ] at before
      have lt := (List.getElem?_eq_some_iff.mp before).1
      rw [List.length_map] at lt
      omega

/-- After a record was made in an intact store and written with its attribute records, no other row
refers to its number. -/
theorem not_givenBeside_of_intact {pairs : List (String × String)} {new : List RecordId}
    (intact : Intact s) (isIdentity : r.cls = identityClass)
    (above : ∀ m, s.Holds identityClass "id" m → m < n)
    (done : (withAttributes s r pairs).flush new = .ok u) :
    ¬ GivenBeside u (attributeIds s pairs) n name values := by
  rintro ⟨i, cls, other, notOwn, stored, named, gives⟩
  obtain ⟨q, found, rfl, -⟩ := Store.stored?_eq_some_iff.mp stored
  rcases attribute_cases_of_flush isIdentity done found named with ⟨p, there, sameClass⟩ | own
  · obtain ⟨row, m, written, refers, holds⟩ := intact i p there (sameClass ▸ named)
    rw [((written.addAll _).flush done).stored] at stored
    obtain ⟨-, rfl⟩ := Prod.mk.inj (Option.some.inj stored)
    have same : m = n := by
      have owner := gives.owner
      rw [refers] at owner
      exact Cell.same_integer_iff.mp owner
    exact Int.lt_irrefl n (same ▸ above m holds)
  · exact notOwn own

/-! ## The query -/

/-- The record of a principal has its token in the row that it gets. -/
theorem discriminator_of_flush {pairs : List (String × String)} {target : Option RecordId}
    {new : List RecordId} {row : Row} (schema : s.catalog = catalog)
    (among : s.records.length ∈ new)
    (done : (withAttributes s (newRecord v target d) pairs).flush new = .ok u)
    (stored : u.stored? s.records.length = some (identityClass, row)) :
    row.find? "discriminator" = some (.text v.discriminator) := by
  have token : (newRecord v target d).value "discriminator" = .text v.discriminator :=
    value_newRecord (p := Property.discriminator)
      (by simp [Principal.entries, Principal.sharedEntries]) rfl
  have cls := cls_newRecord v target d
  have found := record?_owner s (newRecord v target d) pairs
  have due : (withAttributes s (newRecord v target d) pairs).Due
      (owning (attributeIds s pairs) (newRecord v target d)) "discriminator"
        (.text v.discriminator) := by
    refine Store.due_of_value rfl token (Record.not_awaits_of_forall ?_)
    change ∀ rel ∈ (newRecord v target d).cls.relationships, _
    rw [cls]
    decide
  have known : (owning (attributeIds s pairs) (newRecord v target d)).cls ∈
      (withAttributes s (newRecord v target d) pairs).catalog.classes := by
    change (newRecord v target d).cls ∈ s.catalog.classes
    rw [cls, schema]
    decide
  have isColumn : (owning (attributeIds s pairs) (newRecord v target d)).cls.column?
      "discriminator" = some discriminatorColumn := by
    change (newRecord v target d).cls.column? _ = _
    rw [cls]
    rfl
  obtain ⟨row', cell, stored', stores, isToken⟩ :=
    Store.cell_of_flush found due known among isColumn done
  obtain ⟨-, rfl⟩ := Prod.mk.inj (Option.some.inj (stored.symm.trans stored'))
  cases stores
  exact isToken

/-- Over tables that hold the rows of a principal and of its attributes, a query for its own values
under a name selects it exactly if no other row gives its number one of them. -/
theorem exists_selected_by_attribute {id : RecordId} {own : List RecordId} {row : Row}
    {vs : List String} (serves : q.registry.ServesBuiltins bindings (some .stored))
    (overStandard : q.compiler.bindings = bindings) (repeated : q.compiler.distinct = false)
    (builtin : v ∈ Variant.builtins) (nodup : (entries.map Prod.fst).Nodup)
    (among : (name, vs) ∈ entries) (nonempty : vs ≠ []) (asked : values.Perm vs)
    (settled : w.Settled)
    (stored : w.stored? id = some (identityClass, row))
    (onKind : row.find? "discriminator" = some (.text v.discriminator))
    (isNumber : row.find? "id" = some (.integer n)) (distinct : own.Nodup)
    (tell : TellAll w n own (pairsOf entries)) :
    ∃ found, (q.predicates (ofAttribute v.kind name values) none >>= q.run).outcome w =
        (.ok found, w) ∧
      (id ∈ found ↔ ¬ GivenBeside w own n name values) := by
  have someValue : values ≠ [] := by
    rintro rfl
    exact nonempty asked.nil_eq.symm
  obtain ⟨found, run, selected⟩ := exists_run_attribute name values settled serves stored onKind
  refine ⟨found, ?_, selected.trans
    (holds_standardTest_iff nodup among nonempty asked distinct tell isNumber)⟩
  rw [StoreM.outcome_bind_ok (outcome_predicates_attribute serves overStandard repeated builtin
    rfl someValue rfl), run]

/-- A constructed principal is stored with its attributes, and then a query is made for the values of
one of its names, in any order and with the same repetitions. Whatever else the tables hold, it can be
built and run, and it selects the record of the principal exactly if no other row gives its number one
of the values under the name. That is so if before it was stored every attribute row referred to a
stored identity. -/
theorem selected_by_attribute_iff {now : Time.DateTime} {fields : List (String × Value)}
    (registered : Registry.withBuiltins bindings (some .stored) = .ok q.registry)
    (overStandard : q.compiler.bindings = bindings) (repeated : q.compiler.distinct = false)
    (schema : s.catalog = catalog) (classes : ∀ r ∈ s.records, r.cls ∈ catalog.classes)
    (reaches : Reaches s realm) (builtin : v ∈ Variant.builtins)
    (made : Principal.create now v.kind fields = .ok d)
    (texts : d.attributes = .mapping (entries.map fun e => (.text e.1, .list (e.2.map .text)))) :
    ∃ id ids t, (q.registry.createWithAttributes realm d).outcome s = (.ok (id, ids), t) ∧
      ∀ roots u, id ∈ roots → (StoreM.persist roots).outcome t = (.ok (), u) →
        ∃ n row, u.stored? id = some (identityClass, row) ∧ row.find? "id" = some (.integer n) ∧
          ∀ name vs values, (name, vs) ∈ entries → vs ≠ [] → values.Perm vs →
            ∃ p query, Parameter.ofName (.text name) = .ok p ∧
              Query.set { kind := d.kind } p (values.map .text) = .ok query ∧
              (∀ w, w.Settled → (∀ i ∈ id :: ids, w.stored? i = u.stored? i) →
                ∃ found, (q.predicates query none >>= q.run).outcome w = (.ok found, w) ∧
                  (id ∈ found ↔ ¬ GivenBeside w ids n name values)) ∧
              (Intact s →
                ∃ found, (q.predicates query none >>= q.run).outcome u = (.ok found, u) ∧
                  id ∈ found) := by
  have serves := Registry.ServesBuiltins.of_withBuiltins registered
  have constructed := Principal.Constructed.of_create made
  obtain ⟨nodup, trimmed⟩ := names_of_create made texts
  have new := isTransient_newRecord v (targetOf s realm) d
  have cls := cls_newRecord v (targetOf s realm) d
  refine ⟨_, _, _, outcome_createWithAttributes serves builtin constructed reaches texts,
    fun roots u among persisted => ?_⟩
  have flushed := Store.flush_of_persist persisted
  obtain ⟨n, row, stored, isNumber, tell, above⟩ := rows_of_persist schema cls new
    (value_newRecord_of_reserved (.inl rfl)) among persisted
  have onKind := discriminator_of_flush schema
    (Store.mem_closure_of_root among (record?_owner ..) new) flushed stored
  refine ⟨n, row, stored, isNumber, fun name vs values isEntry nonempty asked => ?_⟩
  have isParameter : Parameter.ofName (.text name) = .ok (.named name) := by
    change Except.ok (Parameter.named (Text.trim name)) = _
    rw [trimmed name (List.mem_map_of_mem (f := Prod.fst) isEntry)]
  have selects : ∀ w : Store, w.Settled →
      (∀ i ∈ s.records.length :: attributeIds s (pairsOf entries), w.stored? i = u.stored? i) → _ :=
    fun w settled same => exists_selected_by_attribute serves overStandard repeated builtin nodup
      isEntry nonempty asked settled ((same _ List.mem_cons_self).trans stored) onKind isNumber
      List.nodup_range' (tell.congr fun i own => same i (List.mem_cons_of_mem _ own))
  refine ⟨_, ofAttribute v.kind name values, isParameter, by rw [constructed.kind]; rfl, selects,
    fun intact => ?_⟩
  have settled : u.Settled := by
    refine Store.settled_of_flush (fun r among => ?_) flushed
    change r.cls ∈ s.catalog.classes
    rw [schema]
    exact classes_withAttributes classes cls _ r among
  obtain ⟨found, run, selected⟩ := selects u settled fun _ _ => rfl
  exact ⟨found, run, selected.mpr (not_givenBeside_of_intact intact cls above flushed)⟩

/-- A user is found by a value that it has twice. -/
theorem selected_by_attribute_dave : ∃ (q : QueryBuilder) (d : Principal),
    Registry.withBuiltins bindings (some .stored) = .ok q.registry ∧
    q.compiler = ⟨bindings, false⟩ ∧
    Principal.create ⟨.epoch, none⟩ .user [("login_name", .text "dave"), ("attributes", .mapping
      [(.text " role ", .list [.text "a", .text "b", .text "a"])])] = .ok d ∧
    d.attributes = .mapping ([("role", ["a", "b", "a"])].map fun e =>
      (.text e.1, .list (e.2.map .text))) ∧
    ∃ id ids t u, (q.registry.createWithAttributes none d).outcome (ofRealms []) =
        (.ok (id, ids), t) ∧
      (StoreM.persist [id]).outcome t = (.ok (), u) ∧
      ∃ p query, Parameter.ofName (.text "role") = .ok p ∧
        Query.set { kind := d.kind } p (["b", "a", "a"].map .text) = .ok query ∧
        ∃ found, (q.predicates query none >>= q.run).outcome u = (.ok found, u) ∧ id ∈ found := by
  obtain ⟨reg, d, id, ids, t, u, registered, built, attributes, created, persisted⟩ :
      ∃ reg d id ids t u, Registry.withBuiltins bindings (some .stored) = .ok reg ∧
      Principal.create ⟨.epoch, none⟩ .user [("login_name", .text "dave"), ("attributes", .mapping
        [(.text " role ", .list [.text "a", .text "b", .text "a"])])] = .ok d ∧
      d.attributes = .mapping ([("role", ["a", "b", "a"])].map fun e =>
        (.text e.1, .list (e.2.map .text))) ∧
      (reg.createWithAttributes none d).outcome (ofRealms []) = (.ok (id, ids), t) ∧
      (StoreM.persist [id]).outcome t = (.ok (), u) :=
    ⟨_, _, _, _, _, _, rfl, rfl, rfl, rfl, rfl⟩
  have intact : Intact (ofRealms []) := by
    intro i r found
    cases found
  have reaches : Reaches (ofRealms []) none := fun _ => nofun
  obtain ⟨id', ids', t', created', finds⟩ := selected_by_attribute_iff
    (q := ⟨reg, ⟨bindings, false⟩, false⟩) (v := .user) registered rfl rfl rfl
    (List.forall_mem_nil _) reaches (by decide) built attributes
  rw [created] at created'
  cases created'
  obtain ⟨n, row, -, -, each⟩ := finds [id] u (List.mem_singleton.mpr rfl) persisted
  obtain ⟨p, query, isParameter, isQuery, -, found⟩ :=
    each "role" ["a", "b", "a"] ["b", "a", "a"] List.mem_cons_self (by simp) (by decide)
  exact ⟨⟨reg, ⟨bindings, false⟩, false⟩, d, registered, rfl, built, attributes, id, ids, t, u, created,
    persisted, p, query, isParameter, isQuery, found intact⟩

/-- A stray row: it gives the number that the next identity will have a value, and belongs to none. -/
def strayRecord : Record where
  cls := attributeClass
  values := ⟨[("identity_id", .int 1), ("name", .text "role"), ("value", .text "a")]⟩

/-- Where a stray row gives its number the value too, a principal is not found by its own attribute:
two rows are counted for one value. -/
theorem unselected_of_stray : ∃ (q : QueryBuilder) (query : Query) (d : Principal) (id : RecordId)
    (ids : List RecordId) (s t u : Store),
    Registry.withBuiltins bindings (some .stored) = .ok q.registry ∧
    q.compiler = ⟨bindings, false⟩ ∧
    Principal.create ⟨.epoch, none⟩ .user [("login_name", .text "dave"),
      ("attributes", .mapping [(.text "role", .list [.text "a"])])] = .ok d ∧
    d.attributes = .mapping [(.text "role", .list [.text "a"])] ∧
    (StoreM.persist [0]).outcome ((ofRealms []).add strayRecord).2 = (.ok (), s) ∧
    (q.registry.createWithAttributes none d).outcome s = (.ok (id, ids), t) ∧
    (StoreM.persist [id]).outcome t = (.ok (), u) ∧
    Query.set { kind := d.kind } (.named "role") [.text "a"] = .ok query ∧
    ∃ found, (q.predicates query none >>= q.run).outcome u = (.ok found, u) ∧ id ∉ found := by
  obtain ⟨reg, d, id, ids, s, t, u, registered, built, attributes, strayed, created, persisted, classes,
      schema, predicates, selected⟩ : ∃ reg d id ids s t u,
      Registry.withBuiltins bindings (some .stored) = .ok reg ∧
      Principal.create ⟨.epoch, none⟩ .user [("login_name", .text "dave"),
        ("attributes", .mapping [(.text "role", .list [.text "a"])])] = .ok d ∧
      d.attributes = .mapping [(.text "role", .list [.text "a"])] ∧
      (StoreM.persist [0]).outcome ((ofRealms []).add strayRecord).2 = (.ok (), s) ∧
      (reg.createWithAttributes none d).outcome s = (.ok (id, ids), t) ∧
      (StoreM.persist [id]).outcome t = (.ok (), u) ∧
      t.records.map Record.cls = [attributeClass, identityClass, attributeClass] ∧
      t.catalog = catalog ∧
      (QueryBuilder.predicates ⟨reg, ⟨bindings, false⟩, false⟩ (ofAttribute d.kind "role" ["a"])
        none).outcome u = (.ok [.column discriminatorColumn (.within [.text "USER"]),
          .hasAttributes (Store.standardTest "role" [.text "a"])], u) ∧
      u.select identityClass [.column discriminatorColumn (.within [.text "USER"]),
        .hasAttributes (Store.standardTest "role" [.text "a"])] = .ok [] :=
    ⟨_, _, _, _, _, _, _, rfl, rfl, rfl, rfl, rfl, rfl, rfl, rfl, rfl, rfl⟩
  have declared : ∀ cls ∈ t.records.map Record.cls, cls ∈ t.catalog.classes := by
    rw [classes, schema]
    decide
  have settled : u.Settled :=
    Store.settled_of_flush (List.forall_mem_map.mp declared) (Store.flush_of_persist persisted)
  have serves := Registry.ServesBuiltins.of_withBuiltins registered
  refine ⟨⟨reg, ⟨bindings, false⟩, false⟩, ofAttribute d.kind "role" ["a"], d, id, ids, s, t, u,
    registered, rfl, built, attributes, strayed, created, persisted, rfl, [], ?_, List.not_mem_nil⟩
  rw [StoreM.outcome_bind_ok predicates, outcome_run_of_settled settled serves.bindings, selected]

end Standard

end Principals
