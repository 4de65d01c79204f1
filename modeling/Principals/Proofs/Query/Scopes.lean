import Principals.Proofs.Query.Selection
import Principals.Proofs.Schema.Conforming
import Principals.Proofs.Store.Reached

/-!
# The realm that is written and the realm that is asked for

A principal that is kept in a realm is given it by an optional property, which is passed over where it
is not bound. A query that is scoped to a realm does need the property, and one that is bound to a
relationship. So a record that was made in a realm is found by a query for its kind in that realm if
the realm is bound so, and if nothing else is written where its realm and its discriminator are kept.
The class of the stored realms may be any that names them by a text.

* `Bindings.LinksRealm`, `Bindings.KeepsRealm`: bindings under which the query can be built, and under
  which it finds what was made;
* `QueryBuilder.outcome_predicates_of_scope`: the predicates of the query;
* `Mapper.row_of_flush`: the row that the record gets once it is written;
* `QueryBuilder.scope_of_create`: both together.
-/

namespace Principals

open Standard

/-- Bindings of the realm to a relationship whose reference is in a column. -/
structure Bindings.LinksRealm (b : Bindings) (rel : Relationship) (c : Column) : Prop where
  bound : b.properties.find? Property.realm = some rel.attr
  isLink : b.identityClass.relationship? rel.attr = some rel
  isColumn : b.identityClass.column? rel.localAttr = some c

/-- Bindings of the realm to a relationship that refers to the stored realms of a class by their
names, where nothing else that is written touches the reference or the discriminator. -/
structure Bindings.KeepsRealm (b : Bindings) (partitions : RecordClass) (key : String)
    (rel : Relationship) (c : Column) : Prop extends b.LinksRealm rel c where
  remote : rel.remote = key
  type : c.type = .text
  /-- No other property is bound where the discriminator is. -/
  discriminator : b.Alone Property.discriminator
  /-- No other property is bound where the realm is. -/
  realm : b.Alone Property.realm
  /-- No link sets the discriminator. -/
  unlinked : ∀ attr, b.properties.find? Property.discriminator = some attr →
    ∀ other ∈ b.identityClass.relationships, other.localAttr ≠ attr
  /-- No other link sets the reference. -/
  only : ∀ other ∈ b.identityClass.relationships, other.localAttr = rel.localAttr →
    other.attr = rel.attr
  /-- Identity records are not stored as realms. -/
  others : b.identityClass.name ≠ partitions.name

variable {b : Bindings} {q : QueryBuilder} {query : Query} {v : Variant} {p : Realm} {d : Principal}
  {s t u : Store} {id target : RecordId} {attr : String} {rel : Relationship} {c dc : Column}
  {row : Row} {cell : Cell} {token key text : String} {ids : List RecordId}
  {partitions : RecordClass}

/-! ## Columns -/

/-- An attribute of a class that is plain is shown by a column. -/
theorem exists_column_of_plain {cls : RecordClass} (hasAttr : cls.hasAttr attr = true)
    (plain : cls.isPlain attr = true) : ∃ c, cls.column? attr = some c := by
  simp only [RecordClass.isPlain, Bool.and_eq_true, Option.isNone_iff_eq_none,
    Bool.not_eq_true'] at plain
  obtain ⟨noLink, noCollection⟩ := plain
  rw [RecordClass.hasAttr, noCollection, Bool.or_false, List.any_eq_true] at hasAttr
  obtain ⟨member, among, named⟩ := hasAttr
  rw [← Option.isSome_iff_exists, RecordClass.column?, List.find?_isSome]
  cases member with
  | column c => exact ⟨c, List.mem_filterMap.mpr ⟨_, among, rfl⟩, named⟩
  | relationship rel =>
    have isLink := List.find?_eq_none.mp noLink rel (List.mem_filterMap.mpr ⟨_, among, rfl⟩)
    exact absurd named isLink

/-! ## The query -/

/-- A comparison with a record needs a relationship whose reference is in a column. -/
theorem Predicate.ofComparison_record_iff {cls : RecordClass} {onRealm : Predicate} :
    Predicate.ofComparison s cls attr .equal (.record target) = .ok onRealm ↔
      ∃ rel c, cls.relationship? attr = some rel ∧ cls.column? rel.localAttr = some c ∧
        onRealm = .refersTo c (s.get target rel.remote) := by
  unfold Predicate.ofComparison
  cases isLink : cls.relationship? attr with
  | some rel => cases isColumn : cls.column? rel.localAttr <;> simp [isColumn, eq_comm]
  | none => cases cls.column? attr <;> simp [Test.ofComparison, Except.map]

/-- The predicates of a query without parameters that is scoped to a stored realm: on the kind, and
on the realm if that can be compared with a record. -/
theorem QueryBuilder.outcome_predicates_of_scope
    (serves : q.registry.ServesBuiltins b (some (.table partitions))) (builtin : v ∈ Variant.builtins)
    (ofKind : query.kind = v.kind) (noParameters : query.parameters.values = [])
    (bound : b.properties.find? Property.discriminator = some attr)
    (isColumn : b.identityClass.column? attr = some dc)
    (isTarget : RealmResolver.findIn partitions s p = some target) :
    (q.predicates query (some p)).outcome s = (do
      let attr ← b.attrOf Property.realm
      let onRealm ← Predicate.ofComparison s b.identityClass attr .equal (.record target)
      .ok [.column dc (.within ((v.tokens q.includeSubkinds).map .text)), onRealm], s) := by
  have mapper : (StoreM.lift (q.registry.forKind query.kind)).outcome s =
      (.ok ⟨v, b, q.registry.discriminators, some (.table partitions)⟩, s) := by
    rw [StoreM.outcome_lift, ofKind, serves.forKind builtin]
  have tokens : (StoreM.lift (q.registry.discriminators.tokensFor query.kind
      q.includeSubkinds)).outcome s = (.ok ((v.tokens q.includeSubkinds).map .text), s) := by
    rw [StoreM.outcome_lift, ofKind, serves.tokens v builtin]
  have first : (StoreM.lift (tokenPredicate q.registry.bindings
      ((v.tokens q.includeSubkinds).map .text))).outcome s =
      (.ok (.column dc (.within ((v.tokens q.includeSubkinds).map .text))), s) := by
    rw [StoreM.outcome_lift, serves.bindings, tokenPredicate, Bindings.attrOf_eq_ok_iff.mpr bound,
      ok_bind, isColumn]
  have looked : ((RealmResolver.table partitions).lookup p).outcome s = (.ok (.record target), s) :=
    RealmResolver.outcome_lookup_table isTarget
  have last : (StoreM.ask fun s => q.parameterPredicates s v.form query.parameters.values).outcome
      s = (.ok [], s) := by
    rw [StoreM.outcome_ask, noParameters]
    rfl
  have scope : (scopePredicates q (some p)).outcome s = (do
      let attr ← b.attrOf Property.realm
      let onRealm ← Predicate.ofComparison s b.identityClass attr .equal (.record target)
      .ok [onRealm], s) := by
    simp only [scopePredicates, realmPredicate, serves.resolver, serves.bindings, bind_assoc]
    refine StoreM.outcome_bind_of_idle (StoreM.outcome_lift _ s) fun attr => ?_
    rw [StoreM.outcome_bind_ok looked]
    exact StoreM.outcome_bind_of_idle (StoreM.outcome_ask _ s) fun _ => rfl
  rw [predicates_eq, StoreM.outcome_bind_ok mapper, StoreM.outcome_bind_ok tokens,
    StoreM.outcome_bind_ok first]
  refine (StoreM.outcome_bind_of_idle (g := fun scopes => .ok
    (.column dc (.within ((v.tokens q.includeSubkinds).map .text)) :: (scopes ++ []))) scope
      fun scopes => ?_).trans ?_
  · rw [StoreM.outcome_bind_ok last]
    rfl
  · simp only [bind_assoc, ok_bind, List.append_nil]

/-- Without the realm bound, or with it bound to a plain column, it cannot be built. -/
theorem QueryBuilder.exists_predicates_iff_linksRealm
    (serves : q.registry.ServesBuiltins b (some (.table partitions))) (builtin : v ∈ Variant.builtins)
    (ofKind : query.kind = v.kind) (noParameters : query.parameters.values = [])
    (bound : b.properties.find? Property.discriminator = some attr)
    (isColumn : b.identityClass.column? attr = some dc)
    (isTarget : RealmResolver.findIn partitions s p = some target) :
    (∃ ps, (q.predicates query (some p)).outcome s = (.ok ps, s)) ↔
      ∃ rel c, b.LinksRealm rel c := by
  rw [outcome_predicates_of_scope serves builtin ofKind noParameters bound isColumn isTarget]
  simp only [Prod.mk.injEq, and_true, bind_eq_ok, Bindings.attrOf_eq_ok_iff,
    Predicate.ofComparison_record_iff]
  constructor
  · rintro ⟨ps, a, isBound, onRealm, ⟨rel, c, isLink, isReference, -⟩, -⟩
    cases Store.attr_of_relationship? isLink
    exact ⟨rel, c, isBound, isLink, isReference⟩
  · rintro ⟨rel, c, links⟩
    exact ⟨_, rel.attr, links.bound, _, ⟨rel, c, links.isLink, links.isColumn, rfl⟩, rfl⟩

/-- With it bound to a relationship, the predicates are those on the kind and on the key of the
realm. -/
theorem QueryBuilder.outcome_predicates_of_linksRealm (links : b.LinksRealm rel c)
    (serves : q.registry.ServesBuiltins b (some (.table partitions))) (builtin : v ∈ Variant.builtins)
    (ofKind : query.kind = v.kind) (noParameters : query.parameters.values = [])
    (bound : b.properties.find? Property.discriminator = some attr)
    (isColumn : b.identityClass.column? attr = some dc)
    (isTarget : RealmResolver.findIn partitions s p = some target) :
    (q.predicates query (some p)).outcome s =
      (.ok [.column dc (.within ((v.tokens q.includeSubkinds).map .text)),
        .refersTo c (s.get target rel.remote)], s) := by
  rw [outcome_predicates_of_scope serves builtin ofKind noParameters bound isColumn isTarget,
    Bindings.attrOf_eq_ok_iff.mpr links.bound, ok_bind,
    Predicate.ofComparison_record_iff.mpr ⟨rel, c, links.isLink, links.isColumn, rfl⟩, ok_bind]

/-- In a conforming store the key is the id of the realm. -/
theorem QueryBuilder.outcome_predicates_of_keepsRealm (named : partitions.NamedBy key)
    (keeps : b.KeepsRealm partitions key rel c) (conforms : s.Conforms partitions key)
    (serves : q.registry.ServesBuiltins b (some (.table partitions)))
    (builtin : v ∈ Variant.builtins) (ofKind : query.kind = v.kind)
    (noParameters : query.parameters.values = [])
    (bound : b.properties.find? Property.discriminator = some attr)
    (isColumn : b.identityClass.column? attr = some dc)
    (reached : (RealmResolver.findIn partitions s p).isSome = true) :
    (q.predicates query (some p)).outcome s =
      (.ok [.column dc (.within ((v.tokens q.includeSubkinds).map .text)),
        .refersTo c (.text p.id)], s) := by
  obtain ⟨target, isTarget⟩ := Option.isSome_iff_exists.mp reached
  rw [outcome_predicates_of_linksRealm keeps.toLinksRealm serves builtin ofKind noParameters bound
    isColumn isTarget, keeps.remote, (conforms.of_findIn named isTarget).1.get named]

/-! ## The record -/

namespace Mapper

variable {m : Mapper} {r : Record}

/-- After a principal was written to a record of the identity class, its token and the id of its
realm are due there. -/
theorem due_of_writeAs (named : partitions.NamedBy key)
    (keeps : m.bindings.KeepsRealm partitions key rel c)
    (resolver : m.resolver = some (.table partitions)) (conforms : s.Conforms partitions key)
    (found : s.record? id = some r) (isIdentity : r.cls = m.bindings.identityClass)
    (bound : m.bindings.properties.find? Property.discriminator = some attr)
    (done : (m.writeAs (some p) id d token text).outcome s = (.ok (), t)) :
    ∃ q, t.record? id = some q ∧ t.Due q attr (.text token) ∧
      t.Due q rel.localAttr (.text p.id) := by
  have other : r.cls.name ≠ partitions.name := isIdentity ▸ keeps.others
  have assigned : s.Assigned t :=
    (assigned_writeAs resolver (some p) d token text).of_outcome done (.refl s)
  obtain ⟨q, found', cls, -⟩ := assigned.kept id r found
  have ofClass : q.cls = m.bindings.identityClass := cls.trans isIdentity
  have among : ∀ a rel', q.cls.relationship? a = some rel' →
      rel' ∈ m.bindings.identityClass.relationships := fun a rel' isLink =>
    ofClass ▸ List.mem_of_find?_eq_some isLink
  refine ⟨q, found', ?_, ?_⟩
  · obtain ⟨q', again, -, value⟩ :=
      text_of_writeAs done (List.mem_cons_self ..) keeps.discriminator bound
    rw [found'] at again
    cases again
    refine Store.due_of_value rfl value (Record.not_awaits_of_forall ?_)
    rw [ofClass]
    exact keeps.unlinked attr bound
  · obtain ⟨target, isTarget, linked⟩ := link_of_writeAs resolver found done
    obtain ⟨q', again, link, waiting⟩ :=
      linked _ rel keeps.realm keeps.bound (by rw [isIdentity]; exact keeps.isLink)
    rw [found'] at again
    cases again
    have isRealm : t.HasNamed partitions key target p.id := by
      have isTarget' : RealmResolver.findIn partitions t p = some target :=
        (RealmResolver.findIn_of_sameTables assigned.sameTables ..).trans isTarget
      exact ((conforms.writeAs resolver found other done).of_findIn named isTarget').1
    refine ⟨rfl, fun a _ rel' isLink sets => ?_, .inr ⟨rel.attr, waiting, rel, ?_, rfl⟩⟩
    · have name := Store.attr_of_relationship? isLink
      have same : a = rel.attr := name.symm.trans (keeps.only rel' (among a rel' isLink) sets)
      have isSame : rel' = rel := by
        rw [ofClass, same, keeps.isLink] at isLink
        exact (Option.some.inj isLink).symm
      rw [same, isSame, keeps.remote]
      exact ⟨target, link, isRealm.steady named⟩
    · rw [ofClass]
      exact keeps.isLink

/-- The row that it gets has both of them. -/
theorem row_of_flush {new : List RecordId} (named : partitions.NamedBy key)
    (keeps : m.bindings.KeepsRealm partitions key rel c)
    (resolver : m.resolver = some (.table partitions)) (conforms : s.Conforms partitions key)
    (found : s.record? id = some r)
    (isIdentity : r.cls = m.bindings.identityClass)
    (known : m.bindings.identityClass ∈ s.catalog.classes)
    (bound : m.bindings.properties.find? Property.discriminator = some attr)
    (isColumn : m.bindings.identityClass.column? attr = some dc)
    (done : (m.writeAs (some p) id d token text).outcome s = (.ok (), t)) (among : id ∈ new)
    (flushed : t.flush new = .ok u) :
    ∃ row cell, u.stored? id = some (m.bindings.identityClass, row) ∧
      dc.type.store (.text token) = .ok cell ∧ row.find? dc.attr = some cell ∧
      row.find? c.attr = some (.text p.id) := by
  obtain ⟨q, found', onKind, onRealm⟩ :=
    due_of_writeAs named keeps resolver conforms found isIdentity bound done
  have assigned : s.Assigned t :=
    (assigned_writeAs resolver (some p) d token text).of_outcome done (.refl s)
  obtain ⟨q', again, cls, -⟩ := assigned.kept id r found
  rw [found'] at again
  cases again
  obtain ⟨row, written⟩ := Store.written_of_flush ⟨q, found', cls.trans isIdentity⟩
    (by rw [assigned.catalog]; exact known) among flushed
  obtain ⟨cell, stores, isToken⟩ :=
    written.cell (Store.exists_due_of_flush ⟨q, found', onKind⟩ flushed) isColumn
  obtain ⟨_, storesReference, isReference⟩ :=
    written.cell (Store.exists_due_of_flush ⟨q, found', onRealm⟩ flushed) keeps.isColumn
  rw [keeps.type] at storesReference
  cases storesReference
  rw [attr_of_column? isColumn, attr_of_column? keeps.isColumn]
  exact ⟨row, cell, written.stored, stores, isToken, isReference⟩

end Mapper

/-! ## What is found -/

/-- A text that spells no number is stored as that text, by whatever column takes it. -/
theorem ColumnType.eq_text_of_store {type : ColumnType} {text : String}
    (noNumber : Cell.numberOf? text = none) (stores : type.store (.text text) = .ok cell) :
    cell = .text text := by
  cases type with
  | text =>
    cases stores
    rfl
  | integer =>
    have stored : (.ok ((Cell.numberOf? text).getD (.text text)) : Except Failure Cell) = .ok cell :=
      stores
    rw [noNumber] at stored
    exact (Except.ok.inj stored).symm
  | boolean | timestamp => cases stores

theorem numberOf?_token : ∀ v ∈ Variant.builtins, Cell.numberOf? v.discriminator = none := by
  decide

/-- A text that spells no number is among the texts that a column is compared with if it holds one
of them. -/
theorem within_texts_of_mem {texts : List String} {text : String} (among : text ∈ texts)
    (noNumber : Cell.numberOf? text = none) (stores : c.type.store (.text text) = .ok cell)
    (found : row.find? c.attr = some cell) :
    (Test.within (texts.map .text)).holds c row = true := by
  rw [Test.holds, operands_of_texts, cellIn_of_find? found, anySame, List.any_map, List.any_eq_true]
  refine ⟨text, among, ?_⟩
  have applied : c.type.affinity.apply (.text text) = .text text := by
    cases c.type.affinity with
    | text => rfl
    | numeric =>
      change (Cell.numberOf? text).getD (.text text) = .text text
      rw [noNumber, Option.getD_none]
  rw [Function.comp_apply, ColumnType.eq_text_of_store noNumber stores, applied]
  exact Cell.same_text_iff.mpr rfl

/-- The predicates of a scoped query hold of the row of a record that was made in the realm and
written. -/
theorem QueryBuilder.exists_selected_of_row (settled : u.Settled)
    (overBindings : q.registry.bindings = b) (type : c.type = .text)
    (builtin : v ∈ Variant.builtins) (stored : u.stored? id = some (b.identityClass, row))
    (stores : dc.type.store (.text v.discriminator) = .ok cell)
    (onKind : row.find? dc.attr = some cell) (onRealm : row.find? c.attr = some (.text p.id)) :
    ∃ found, (q.run [.column dc (.within ((v.tokens q.includeSubkinds).map .text)),
      .refersTo c (.text p.id)]).outcome u = (.ok found, u) ∧ id ∈ found := by
  have among : v.discriminator ∈ v.tokens q.includeSubkinds := List.mem_cons_self ..
  have noNumber := numberOf?_token v builtin
  have selects : u.Selects b.identityClass [.column dc (.within ((v.tokens q.includeSubkinds).map
      .text)), .refersTo c (.text p.id)] id := by
    refine (Store.selects_iff ?_ stored rfl).mpr ⟨?_, ?_⟩
    · exact List.forall_mem_cons.mpr ⟨nofun, List.forall_mem_singleton.mpr nofun⟩
    · refine List.forall_mem_cons.mpr ⟨?_, List.forall_mem_singleton.mpr ?_⟩
      · rw [Predicate.sent, operands_of_texts]
        exact List.forall_mem_map.mpr fun t _ => ⟨_, rfl⟩
      · exact List.forall_mem_singleton.mpr ⟨_, operand_text type p.id⟩
    · refine List.forall_mem_cons.mpr ⟨within_texts_of_mem among noNumber stores onKind,
        List.forall_mem_singleton.mpr ?_⟩
      exact (refersTo_iff type rfl onRealm _ p.id).mpr (rfl : some p.id = some p.id)
  obtain ⟨found, selected, isFound⟩ := selects
  exact ⟨found, by rw [outcome_run_of_settled q settled, overBindings, selected], isFound⟩

/-- A query for a kind in a realm, after a principal of the kind was made in it, over properties that
are bound to mapped attributes: it can be built exactly if the realm is bound to a relationship whose
reference is in a column, which an optional property need not be. If the stored realms are named by a
text, and nothing else is written where the realm and the discriminator are kept, then it selects the
record once that is written. -/
theorem QueryBuilder.scope_of_create {identity attributes : Option RecordClass}
    {properties : OrderedMap String String}
    (accepted : Bindings.create identity attributes properties = .ok b)
    (registered : Registry.withBuiltins b (some (.table partitions)) = .ok q.registry)
    (created : (q.registry.create (some p) d).outcome s = (.ok id, t))
    (ofKind : query.kind = d.kind) (noParameters : query.parameters.values = []) :
    ((∃ ps, (q.predicates query (some p)).outcome t = (.ok ps, t)) ↔
      ∃ rel c, b.LinksRealm rel c) ∧
    (b.properties.find? Property.realm = none → (q.predicates query (some p)).outcome t =
      (.error (.configuration (.bindingMissing Property.realm)), t)) ∧
    ∀ key rel c, partitions.NamedBy key → b.KeepsRealm partitions key rel c →
      b.identityClass ∈ s.catalog.classes → s.Conforms partitions key →
      ∃ ps, (q.predicates query (some p)).outcome t = (.ok ps, t) ∧
        ∀ ids u, id ∈ ids → (StoreM.persist ids).outcome t = (.ok (), u) →
          (q.predicates query (some p)).outcome u = (.ok ps, u) ∧
            ∃ found, (q.run ps).outcome u = (.ok found, u) ∧ id ∈ found := by
  have serves := Registry.ServesBuiltins.of_withBuiltins registered
  obtain ⟨v, builtin, isKind, rfl, written⟩ := Registry.create_eq_ok registered created
  have ofVariant : query.kind = v.kind := ofKind.trans isKind.symm
  -- The discriminator is written to a column of the new record.
  have made := Store.record?_add_self s { cls := b.identityClass }
  obtain ⟨attr, bound⟩ := Bindings.find?_of_create accepted
    (p := Property.discriminator) (by decide)
  have hasAttr := Bindings.hasAttr_of_create accepted bound
  rw [Bindings.ownerOf_identities (by decide)] at hasAttr
  obtain ⟨dc, isColumn⟩ :=
    exists_column_of_plain hasAttr (Mapper.plain_of_writeAs made bound written)
  have assigned := (Mapper.assigned_writeAs
    (m := ⟨v, b, q.registry.discriminators, some (.table partitions)⟩)
    rfl (some p) d v.discriminator d.key).of_outcome written (.refl _)
  obtain ⟨target, isTarget, -⟩ := Mapper.link_of_writeAs rfl made written
  have isTargetNow : RealmResolver.findIn partitions t p = some target :=
    (RealmResolver.findIn_of_sameTables assigned.sameTables ..).trans isTarget
  refine ⟨exists_predicates_iff_linksRealm serves builtin ofVariant noParameters bound isColumn
    isTargetNow, fun unbound => ?_, fun key rel c named keeps known conforms => ?_⟩
  · rw [outcome_predicates_of_scope serves builtin ofVariant noParameters bound isColumn isTargetNow,
      Bindings.attrOf, unbound]
    rfl
  · have conformsNow : t.Conforms partitions key := (conforms.add known keeps.others).writeAs
      (m := ⟨v, b, q.registry.discriminators, some (.table partitions)⟩) rfl made keeps.others written
    -- Wherever a conforming store has the realm, the query has the same predicates.
    have builds (u : Store) (conformsThere : u.Conforms partitions key)
        (reached : (RealmResolver.findIn partitions u p).isSome = true) :=
      outcome_predicates_of_keepsRealm named keeps conformsThere serves builtin ofVariant noParameters
        bound isColumn reached
    refine ⟨_, builds t conformsNow (Option.isSome_iff_exists.mpr ⟨target, isTargetNow⟩),
      fun ids u among persisted => ?_⟩
    have flushed := Store.flush_of_persist persisted
    obtain ⟨conformsThen, settled, stays⟩ := conformsNow.flush named flushed
    refine ⟨builds u conformsThen (stays p target isTargetNow), ?_⟩
    obtain ⟨r, found, -, row, removed⟩ := assigned.kept _ _ made
    have new := Store.mem_closure_of_root among found (by rw [Record.isTransient, row, removed]; rfl)
    obtain ⟨row, cell, stored, stores, onKind, onRealm⟩ := Mapper.row_of_flush
      (m := ⟨v, b, q.registry.discriminators, some (.table partitions)⟩) named keeps rfl
      (conforms.add known keeps.others) made rfl known bound isColumn written new flushed
    exact exists_selected_of_row settled serves.bindings keeps.type builtin stored stores onKind
      onRealm

namespace Standard

/-- The standard bindings keep the realm. -/
theorem keepsRealm_bindings :
    bindings.KeepsRealm realmClass "id" realmRelationship referenceColumn where
  bound := rfl
  isLink := rfl
  isColumn := rfl
  remote := rfl
  type := rfl
  discriminator := bindings_separate.alone (by decide)
  realm := bindings_separate.alone (by decide)
  unlinked := by
    intro attr bound
    cases bound
    decide
  only := by decide
  others := by decide

/-- A user that was made in a realm and written is found in that realm. -/
theorem scope_of_create_user : ∃ (q : QueryBuilder) (query : Query) (d : Principal) (id : RecordId)
    (t u : Store),
    Bindings.create (some identityClass) (some attributeClass) bindings.properties =
      .ok bindings ∧
    Registry.withBuiltins bindings (some .stored) = .ok q.registry ∧
    Principal.create ⟨.epoch, none⟩ .user [("login_name", .text "zoe")] = .ok d ∧
    (q.registry.create (some ⟨"north", none⟩) d).outcome (ofRealms [⟨"north", none⟩]) =
      (.ok id, t) ∧
    query.kind = d.kind ∧ query.parameters.values = [] ∧
    realmClass.NamedBy "id" ∧
    bindings.KeepsRealm realmClass "id" realmRelationship referenceColumn ∧
    bindings.identityClass ∈ (ofRealms [⟨"north", none⟩]).catalog.classes ∧
    (ofRealms [⟨"north", none⟩]).Conforms realmClass "id" ∧
    (StoreM.persist [id]).outcome t = (.ok (), u) ∧
    ∃ ps, (q.predicates query (some ⟨"north", none⟩)).outcome t = (.ok ps, t) ∧
      (q.predicates query (some ⟨"north", none⟩)).outcome u = (.ok ps, u) ∧
      ∃ found, (q.run ps).outcome u = (.ok found, u) ∧ id ∈ found := by
  obtain ⟨reg, d, id, t, u, registered, built, kind, created, persisted⟩ : ∃ reg d id t u,
      Registry.withBuiltins bindings (some .stored) = .ok reg ∧
      Principal.create ⟨.epoch, none⟩ .user [("login_name", .text "zoe")] = .ok d ∧
      d.kind = .user ∧
      (reg.create (some ⟨"north", none⟩) d).outcome (ofRealms [⟨"north", none⟩]) = (.ok id, t) ∧
      (StoreM.persist [id]).outcome t = (.ok (), u) :=
    ⟨_, _, _, _, _, rfl, rfl, rfl, rfl, rfl⟩
  have known : bindings.identityClass ∈ (ofRealms [⟨"north", none⟩]).catalog.classes := by decide
  have conforms := (places_ofRealms [⟨"north", none⟩]).conforms
  let query : Query := ⟨.user, ⟨[]⟩⟩
  have ofKind : query.kind = d.kind := kind.symm
  obtain ⟨-, -, finds⟩ := QueryBuilder.scope_of_create (q := ⟨reg, ⟨bindings, false⟩, false⟩)
    create_standard registered created ofKind rfl
  obtain ⟨ps, builds, selects⟩ :=
    finds _ _ _ namedBy_realmClass keepsRealm_bindings known conforms
  exact ⟨⟨reg, ⟨bindings, false⟩, false⟩, query, d, id, t, u, create_standard, registered, built,
    created, ofKind, rfl, namedBy_realmClass, keepsRealm_bindings, known, conforms, persisted, ps,
    builds, selects [id] u (List.mem_singleton.mpr rfl) persisted⟩

theorem create_changed : ∀ properties ∈ [bindings.properties.erase Property.realm,
    bindings.properties.insert Property.name "discriminator"],
    Bindings.create (some identityClass) (some attributeClass) properties =
      .ok ⟨identityClass, attributeClass, properties⟩ := by
  have noFault : ∀ properties ∈ [bindings.properties.erase Property.realm,
      bindings.properties.insert Property.name "discriminator"],
      (Bindings.mk identityClass attributeClass properties).fault? = none := by decide +kernel
  intro properties among
  exact Bindings.create_of_fault?_eq_none (noFault properties among)

/-- A realm that is not bound is passed over without a word when a record is made, but a query in it
fails. And where the name is kept in place of the discriminator, a record that was made in a realm is
not found there. -/
theorem unscoped_realms :
    (∃ (b : Bindings) (q : QueryBuilder) (query : Query) (d : Principal) (id : RecordId)
        (t u : Store),
      Bindings.create (some identityClass) (some attributeClass)
        (bindings.properties.erase Property.realm) = .ok b ∧
      Registry.withBuiltins b (some .stored) = .ok q.registry ∧
      Principal.create ⟨.epoch, none⟩ .user [("login_name", .text "zoe")] = .ok d ∧
      (q.registry.create (some ⟨"north", none⟩) d).outcome (ofRealms [⟨"north", none⟩]) =
        (.ok id, t) ∧
      query.kind = d.kind ∧ query.parameters.values = [] ∧
      (q.predicates query (some ⟨"north", none⟩)).outcome t =
        (.error (.configuration (.bindingMissing Property.realm)), t) ∧
      (StoreM.persist [id]).outcome t = (.ok (), u) ∧
      (u.record? id).map (·.cell "partition_id") = some .null) ∧
    ∃ (b : Bindings) (q : QueryBuilder) (query : Query) (d : Principal) (id : RecordId)
        (t u : Store),
      Bindings.create (some identityClass) (some attributeClass)
        (bindings.properties.insert Property.name "discriminator") = .ok b ∧
      Registry.withBuiltins b (some .stored) = .ok q.registry ∧
      Principal.create ⟨.epoch, none⟩ .role [("name", .text "clerk")] = .ok d ∧
      (q.registry.create (some ⟨"north", none⟩) d).outcome (ofRealms [⟨"north", none⟩]) =
        (.ok id, t) ∧
      query.kind = d.kind ∧ query.parameters.values = [] ∧
      (StoreM.persist [id]).outcome t = (.ok (), u) ∧
      (q.predicates query (some ⟨"north", none⟩) >>= q.run).outcome u = (.ok [], u) := by
  constructor
  · exact ⟨_, ⟨_, ⟨bindings, false⟩, false⟩, ⟨.user, ⟨[]⟩⟩, _, _, _, _,
      create_changed _ List.mem_cons_self, rfl, rfl, rfl, rfl, rfl, rfl, rfl, rfl⟩
  · obtain ⟨reg, d, id, t, u, registered, built, created, kind, classes, schema, persisted, predicates,
        selected⟩ : ∃ (reg : Registry) (d : Principal) (id : RecordId) (t u : Store),
        Registry.withBuiltins ⟨identityClass, attributeClass,
          bindings.properties.insert Property.name "discriminator"⟩ (some .stored) = .ok reg ∧
        Principal.create ⟨.epoch, none⟩ .role [("name", .text "clerk")] = .ok d ∧
        (reg.create (some ⟨"north", none⟩) d).outcome (ofRealms [⟨"north", none⟩]) = (.ok id, t) ∧
        d.kind = .role ∧ t.records.map Record.cls = [realmClass, identityClass] ∧
        t.catalog = catalog ∧ (StoreM.persist [id]).outcome t = (.ok (), u) ∧
        (QueryBuilder.predicates ⟨reg, ⟨bindings, false⟩, false⟩ ⟨.role, ⟨[]⟩⟩
          (some ⟨"north", none⟩)).outcome u = (.ok [.column discriminatorColumn
            (.within [.text "ROLE"]), .refersTo referenceColumn (.text "north")], u) ∧
        u.select identityClass [.column discriminatorColumn (.within [.text "ROLE"]),
          .refersTo referenceColumn (.text "north")] = .ok [] :=
      ⟨_, _, _, _, _, rfl, rfl, rfl, rfl, rfl, rfl, rfl, rfl, rfl⟩
    have declared : ∀ cls ∈ t.records.map Record.cls, cls ∈ t.catalog.classes := by
      rw [classes, schema]
      decide
    have settled : u.Settled :=
      Store.settled_of_flush (List.forall_mem_map.mp declared) (Store.flush_of_persist persisted)
    refine ⟨_, ⟨reg, ⟨bindings, false⟩, false⟩, ⟨.role, ⟨[]⟩⟩, d, id, t, u,
      create_changed _ (List.mem_cons_of_mem _ List.mem_cons_self), registered, built, created,
      kind.symm, rfl, persisted, ?_⟩
    have serves := Registry.ServesBuiltins.of_withBuiltins registered
    rw [StoreM.outcome_bind_ok predicates, QueryBuilder.outcome_run_of_settled _ settled,
      serves.bindings, selected]

end Standard

end Principals
