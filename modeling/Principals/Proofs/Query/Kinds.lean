import Principals.Proofs.Mapping.Registrations
import Principals.Proofs.Query.Selection
import Principals.Proofs.Store.Flushed

/-!
# Queries for registered kinds

A query for a kind looks for the current tokens of the kinds that it asks for, and narrows what it
finds by its scope and its parameters. Over any registry that registrations made, the row of each
record that is selected holds the token of a registered kind that was asked for, and that token
leads to the mapper of the kind.

Parameters on shared fields and on attributes narrow in the same way for every kind. A query for a
kind and the kinds below it then selects, without overlap, what the queries for each of them alone
select. All of this holds in any hierarchy of the kinds.

* `predicatesUnder_eq_of_tokens`: the predicates of a query are one on tokens and those that narrow;
* `mem_matching_onTokens`: the records whose rows hold one of some tokens;
* `dispatches_of_selected`: selected records lead to mappers of the kinds that were asked for;
* `exists_decomposes`: a query falls into its kinds.
-/

namespace Principals

/-- Whether bindings keep the discriminator in a text column of the identity class. -/
structure Bindings.KeepsTokens (b : Bindings) (c : Column) : Prop where
  bound : b.properties.find? Property.discriminator = some c.attr
  column : b.identityClass.column? c.attr = some c
  text : c.type = .text
  plain : b.identityClass.isPlain c.attr = true
  nodup : (b.identityClass.columns.map Column.attr).Nodup

/-- Whether a store knows a class by its name: the class is in its catalog, and no record is of
another class of that name. -/
structure Store.Knows (s : Store) (cls : RecordClass) : Prop where
  listed : cls ∈ s.catalog.classes
  named : ∀ r ∈ s.records, r.cls.name = cls.name → r.cls = cls

/-- Whether a parameter asks for something that is asked for alike of every kind. -/
def Parameter.IsShared : Parameter → Prop
  | .variant _ => False
  | _ => True

/-- Whether a record leads to a mapper of a kind or of one below it in a hierarchy, and has the very
discriminator of that mapper. -/
def Registry.Dispatches (below : Kind → Kind → Bool) (reg : Registry) (s : Store) (id : RecordId)
    (kind : Kind) : Prop :=
  ∃ m, reg.forRecord s id = .ok m ∧
    (m.variant.kind = kind ∨ below m.variant.kind kind = true) ∧
    reg.bindings.read s id Property.discriminator true = .ok (.text m.variant.discriminator)

namespace QueryBuilder

variable {below : Kind → Kind → Bool} {q : QueryBuilder} {c : Column} {v w : Variant}
  {query : Query} {scope : Option Realm} {s s' t u : Store} {id : RecordId}
  {ps : List Predicate} {found : List RecordId} {ts : List String}

/-! ## The predicates of a query -/

/-- The predicates of a query apart from the one on tokens. -/
def narrowing (q : QueryBuilder) (form : Variant.Form) (parameters : List (Parameter × List Value))
    (scope : Option Realm) : StoreM (List Predicate) := do
  let scopes ← Standard.scopePredicates q scope
  let more ← StoreM.ask fun s => q.parameterPredicates s form parameters
  return scopes ++ more

/-- The predicate on some tokens. -/
def onTokens (c : Column) (ts : List String) : Predicate := .column c (.within (ts.map .text))

theorem predicatesUnder_eq_of_tokens (query : Query) (keeps : q.registry.bindings.KeepsTokens c)
    (known : q.registry.variants.find? query.kind = some v)
    (given : q.registry.discriminators.tokensUnder below query.kind q.includeSubkinds =
      .ok (ts.map .text)) (scope : Option Realm) :
    q.predicatesUnder below query scope =
      (q.narrowing v.form query.parameters.values scope >>= fun rest =>
        pure (onTokens c ts :: rest)) := by
  have chosen : q.registry.forKind query.kind = .ok (q.registry.mapperOf v) :=
    Registry.forKind_eq_ok_iff.mpr ⟨v, known, rfl⟩
  have attr : q.registry.bindings.attrOf Property.discriminator = .ok c.attr :=
    Bindings.attrOf_eq_ok_iff.mpr keeps.bound
  have first : tokenPredicate q.registry.bindings (ts.map .text) = .ok (onTokens c ts) := by
    simp only [tokenPredicate, attr, ok_bind, keeps.column]
    rfl
  rw [Standard.predicatesUnder_eq, chosen, given]
  change (StoreM.lift (tokenPredicate q.registry.bindings (ts.map .text)) >>= _) = _
  rw [first, narrowing]
  simp only [bind_assoc, pure_bind]
  rfl

/-- Predicates are built for registered kinds only. -/
theorem exists_registered_of_predicates
    (built : (q.predicatesUnder below query scope).outcome s = (.ok ps, u)) :
    ∃ v, q.registry.variants.find? query.kind = some v := by
  rw [Standard.predicatesUnder_eq] at built
  obtain ⟨m, _, mapper, -⟩ := StoreM.outcome_bind_eq_ok.mp built
  obtain ⟨v, known, -⟩ := Registry.forKind_eq_ok_iff.mp (congrArg Prod.fst mapper)
  exact ⟨v, known⟩

/-- The predicates of a query that could be built. -/
theorem exists_of_predicates (coherent : q.registry.Coherent)
    (keeps : q.registry.bindings.KeepsTokens c)
    (built : (q.predicatesUnder below query scope).outcome s = (.ok ps, u)) :
    ∃ v ts rest, q.registry.variants.find? query.kind = some v ∧
      (∀ t, t ∈ ts ↔ ∃ w, q.registry.Offers below query.kind q.includeSubkinds w ∧
        w.discriminator = t) ∧
      (q.narrowing v.form query.parameters.values scope).outcome s = (.ok rest, u) ∧
      ps = onTokens c ts :: rest := by
  obtain ⟨v, known⟩ := exists_registered_of_predicates built
  obtain ⟨ts, given, members⟩ := coherent.exists_tokensUnder below known q.includeSubkinds
  rw [predicatesUnder_eq_of_tokens query keeps known given] at built
  obtain ⟨rest, s₁, narrowed, given⟩ := StoreM.outcome_bind_eq_ok.mp built
  cases given
  exact ⟨v, ts, rest, known, members, narrowed, rfl⟩

/-- Only fields of a variant are asked for by a property of the form. -/
theorem compile_of_shared (k : Compiler) (s : Store) {p : Parameter} (values : List Value)
    (shared : p.IsShared) (form form' : Option Variant.Form) :
    k.compile s p values form = k.compile s p values form' := by
  cases p with
  | variant p => exact shared.elim
  | _ => rfl

/-- Shared parameters narrow a query in the same way for every form, whether kinds derived from its
kind are included or not. -/
theorem parameterPredicates_of_shared {parameters : List (Parameter × List Value)}
    (shared : ∀ p ∈ parameters, p.1.IsShared) (includeSubkinds : Bool) (s : Store)
    (form form' : Variant.Form) :
    parameterPredicates { q with includeSubkinds } s form parameters =
      q.parameterPredicates s form' parameters := by
  induction parameters with
  | nil => rfl
  | cons p rest ih =>
    obtain ⟨sharedFirst, sharedRest⟩ := List.forall_mem_cons.mp shared
    rw [parameterPredicates, parameterPredicates, ih sharedRest,
      compile_of_shared q.compiler s p.2 sharedFirst (some form) (some form')]

theorem narrowing_of_shared {parameters : List (Parameter × List Value)}
    (shared : ∀ p ∈ parameters, p.1.IsShared) (includeSubkinds : Bool) (scope : Option Realm)
    (form form' : Variant.Form) :
    narrowing { q with includeSubkinds } form parameters scope =
      q.narrowing form' parameters scope := by
  have scopes : Standard.scopePredicates { q with includeSubkinds } scope =
      Standard.scopePredicates q scope := by
    cases scope <;> rfl
  simp only [narrowing, scopes, parameterPredicates_of_shared shared includeSubkinds _ form form']

/-! ## What a query selects -/

theorem outcome_run (q : QueryBuilder) (ps : List Predicate) (s : Store) :
    (q.run ps).outcome s = match s.flush [] with
      | .ok t => (t.select q.registry.bindings.identityClass ps, t)
      | .error e => (.error e, s.reload) := by
  cases flushed : s.flush [] with
  | ok t => exact StoreM.outcome_bind_ok (StoreM.outcome_transact_ok flushed)
  | error e =>
    refine StoreM.outcome_bind_error ?_
    rw [StoreM.flush, StoreM.outcome_transact, flushed]

/-- A query gives what its predicates select after a flush. -/
theorem outcome_run_eq_ok_iff : (q.run ps).outcome s = (.ok found, t) ↔
    s.flush [] = .ok t ∧ t.select q.registry.bindings.identityClass ps = .ok found := by
  rw [outcome_run]
  cases s.flush [] with
  | error e => simp
  | ok t' =>
    rw [Prod.mk.injEq, Except.ok.injEq, and_comm]
    constructor
    · rintro ⟨rfl, selected⟩
      exact ⟨rfl, selected⟩
    · rintro ⟨rfl, selected⟩
      exact ⟨rfl, selected⟩

/-- What a query selects after a flush are the matching records. -/
theorem outcome_run_eq_ok (done : (q.run ps).outcome s = (.ok found, t)) :
    s.flush [] = .ok t ∧ found = t.matching q.registry.bindings.identityClass ps := by
  obtain ⟨flushed, selected⟩ := outcome_run_eq_ok_iff.mp done
  exact ⟨flushed, (Store.select_eq_ok_iff_of_any.mp selected).2⟩

/-- The predicate on tokens is always sent. -/
theorem select_onTokens (text : c.type = .text) (t : Store) (cls : RecordClass)
    (ts : List String) (ps : List Predicate) :
    t.select cls (onTokens c ts :: ps) =
      (Store.checkSent ps).map fun _ => t.matching cls (onTokens c ts :: ps) := by
  have sendable : ∀ o ∈ (onTokens c ts).sent, ∃ cell, o = .ok cell := by
    rw [onTokens, Predicate.sent, Standard.operands_texts text]
    exact List.forall_mem_map.mpr fun t _ => ⟨.text t, rfl⟩
  have possible : onTokens c ts ≠ .never := by simp [onTokens]
  rw [Store.select, Store.checkSent_cons possible sendable]
  cases Store.checkSent ps <;> rfl

/-- The records whose rows hold one of some tokens and satisfy further predicates. -/
theorem mem_matching_onTokens (text : c.type = .text) {cls : RecordClass} :
    id ∈ t.matching cls (onTokens c ts :: ps) ↔ ∃ cls' row,
      t.stored? id = some (cls', row) ∧ cls'.name = cls.name ∧
        (∃ token ∈ ts, (c.cellIn row).text? = some token) ∧
          ∀ p ∈ ps, p.holds t.rowsOf row = true := by
  rw [Store.mem_matching_iff]
  simp only [List.forall_mem_cons, onTokens, Predicate.holds, Standard.within_texts_iff text]

/-! ## Selected records lead to their mappers -/

section
variable {b : Bindings} {row : Row} {token : String}

/-- What a settled text column holds as a text was stored for a value that loads as that text, and is
it if it is a text or nothing. -/
theorem value_of_cellIn (keeps : b.KeepsTokens c) {r : Record} (isIdentity : r.cls = b.identityClass)
    (has : r.row = some row) (settled : r.Settled)
    (holds : (c.cellIn row).text? = some token) :
    r.reload.value c.attr = .text token ∧
      ∀ there, r.value c.attr = .ofText? there → r.value c.attr = .text token := by
  have among : c ∈ r.cls.columns := isIdentity ▸ List.mem_of_find?_eq_some keeps.column
  have nodup : (r.cls.columns.map Column.attr).Nodup := isIdentity ▸ keeps.nodup
  obtain ⟨cell, stores, cellFound⟩ := Record.storeRow_spec (settled row has).1 nodup among
  rw [keeps.text] at stores
  rw [Standard.cellIn_of_find? cellFound, ColumnType.text?_of_store_text stores] at holds
  subst holds
  refine ⟨?_, fun there given => ?_⟩
  · rw [Record.value_reload nodup has among, cellFound, keeps.text]
    rfl
  · rw [given] at stores ⊢
    cases there with
    | none => cases stores
    | some x => cases stores; rfl

end

/-- A record whose discriminator is the token of a registered variant leads to its mapper. -/
theorem dispatches_of_value {reg : Registry} (coherent : reg.Coherent)
    (keeps : reg.bindings.KeepsTokens c) {includeSubkinds : Bool} {kind : Kind}
    (offers : reg.Offers below kind includeSubkinds w) {r : Record} (isRecord : s.record? id = some r)
    (isIdentity : r.cls = reg.bindings.identityClass)
    (value : r.value c.attr = .text w.discriminator) : reg.Dispatches below s id kind := by
  have plain : r.cls.isPlain c.attr = true := isIdentity ▸ keeps.plain
  have read : reg.bindings.read s id Property.discriminator true =
      .ok (.text w.discriminator) := by
    simp only [Bindings.read, keeps.bound, Store.get_of_plain isRecord plain, value]
    rfl
  have mapper : reg.forKind w.kind = .ok (reg.mapperOf w) :=
    Registry.forKind_eq_ok_iff.mpr ⟨w, offers.registered, rfl⟩
  refine ⟨reg.mapperOf w, ?_, offers.atOrBelow, read⟩
  rw [Registry.forRecord, read, ok_bind, coherent.kindFor offers.registered, ok_bind, mapper]

/-- The row of a selected record holds the token of a registered variant that was asked for. -/
theorem exists_offered_of_selected (coherent : q.registry.Coherent)
    (keeps : q.registry.bindings.KeepsTokens c)
    (built : (q.predicatesUnder below query scope).outcome u = (.ok ps, s'))
    (done : (q.run ps).outcome s = (.ok found, t)) (among : id ∈ found) :
    ∃ cls row w, t.stored? id = some (cls, row) ∧
      cls.name = q.registry.bindings.identityClass.name ∧
        q.registry.Offers below query.kind q.includeSubkinds w ∧
          (c.cellIn row).text? = some w.discriminator := by
  obtain ⟨v, ts, rest, -, members, -, rfl⟩ := exists_of_predicates coherent keeps built
  obtain ⟨-, rfl⟩ := outcome_run_eq_ok done
  obtain ⟨cls, row, stored, named, ⟨token, isToken, holds⟩, -⟩ :=
    (mem_matching_onTokens keeps.text).mp among
  obtain ⟨w, offers, rfl⟩ := (members token).mp isToken
  exact ⟨cls, row, w, stored, named, offers, holds⟩

/-- A record that a query selects leads to the mapper of a registered kind that was asked for, once
it is read again from its row, and at once if its discriminator in memory is a text or nothing. -/
theorem dispatches_of_selected (coherent : q.registry.Coherent)
    (keeps : q.registry.bindings.KeepsTokens c)
    (built : (q.predicatesUnder below query scope).outcome u = (.ok ps, s'))
    (knows : s.Knows q.registry.bindings.identityClass)
    (done : (q.run ps).outcome s = (.ok found, t)) (among : id ∈ found) :
    q.registry.Dispatches below t.reload id query.kind ∧
      ∀ there, t.get id c.attr = .ofText? there →
        q.registry.Dispatches below t id query.kind := by
  obtain ⟨cls, row, w, stored, named, offers, holds⟩ :=
    exists_offered_of_selected coherent keeps built done among
  obtain ⟨r, isRecord, rfl, has⟩ := Store.stored?_eq_some_iff.mp stored
  obtain ⟨flushed, -⟩ := outcome_run_eq_ok done
  obtain ⟨r', before, sameClass⟩ := Store.hasClasses_of_flush flushed id r isRecord
  -- the row was found by the name of its class, and the flush leaves the class as it was
  have isIdentity : r.cls = q.registry.bindings.identityClass := by
    rw [sameClass] at named ⊢
    exact knows.named r' (Store.mem_of_record? before) named
  have settled : r.Settled := Store.settledIn_of_flush knows.listed flushed id r isRecord named
  obtain ⟨reloaded, inMemory⟩ := value_of_cellIn keeps isIdentity has settled holds
  constructor
  · have isReloaded : t.reload.record? id = some r.reload := by
      have there : t.records[id]? = some r := isRecord
      simp [Store.record?, Store.reload, there]
    refine dispatches_of_value coherent keeps offers isReloaded ?_ reloaded
    rw [Record.reload, has, isIdentity]
  · intro there shows
    have plain : r.cls.isPlain c.attr = true := isIdentity ▸ keeps.plain
    rw [Store.get_of_plain isRecord plain] at shows
    exact dispatches_of_value coherent keeps offers isRecord isIdentity (inMemory there shows)

/-! ## A query falls into its kinds -/

/-- What some predicates select of a store is put together, without overlap, from what the parts for
the registered kinds at or below a kind select of it; if the selection fails, each part fails in the
same way. -/
structure Decomposes (below : Kind → Kind → Bool) (q : QueryBuilder) (kind : Kind)
    (ps : List Predicate) (part : Kind → List Predicate) (s : Store) : Prop where
  selected : ∀ found t, (q.run ps).outcome s = (.ok found, t) →
    found.Nodup ∧ ∃ rows : Kind → List RecordId,
      (∀ v, q.registry.Offers below kind true v →
        (q.run (part v.kind)).outcome s = (.ok (rows v.kind), t) ∧ (rows v.kind).Nodup) ∧
      (∀ id, id ∈ found ↔ ∃ v, q.registry.Offers below kind true v ∧ id ∈ rows v.kind) ∧
      ∀ v w, q.registry.Offers below kind true v → q.registry.Offers below kind true w →
        v.kind ≠ w.kind → (rows v.kind).Disjoint (rows w.kind)
  failed : ∀ e t, (q.run ps).outcome s = (.error e, t) →
    ∀ v, q.registry.Offers below kind true v → (q.run (part v.kind)).outcome s = (.error e, t)

/-- The row of a record has at most one token. -/
theorem disjoint_matching {cls : RecordClass} {ts' : List String} (text : c.type = .text)
    (apart : ts.Disjoint ts') :
    (t.matching cls (onTokens c ts :: ps)).Disjoint (t.matching cls (onTokens c ts' :: ps)) := by
  refine List.disjoint_left.mpr fun id among among' => ?_
  obtain ⟨_, row, stored, -, ⟨token, isToken, holds⟩, -⟩ := (mem_matching_onTokens text).mp among
  obtain ⟨_, row', stored', -, ⟨token', isToken', holds'⟩, -⟩ :=
    (mem_matching_onTokens text).mp among'
  rw [stored] at stored'
  cases stored'
  rw [holds] at holds'
  cases holds'
  exact List.disjoint_left.mp apart isToken isToken'

/-- Selecting by several tokens is selecting by each of them. -/
theorem mem_matching_iff_exists_token {cls : RecordClass} (text : c.type = .text) :
    id ∈ t.matching cls (onTokens c ts :: ps) ↔
      ∃ token ∈ ts, id ∈ t.matching cls (onTokens c [token] :: ps) := by
  simp only [mem_matching_onTokens text, List.mem_singleton, exists_eq_left]
  constructor
  · rintro ⟨cls', row, stored, named, ⟨token, isToken, holds⟩, rest⟩
    exact ⟨token, isToken, cls', row, stored, named, holds, rest⟩
  · rintro ⟨token, isToken, cls', row, stored, named, holds, rest⟩
    exact ⟨cls', row, stored, named, ⟨token, isToken, holds⟩, rest⟩

/-- The predicates of a query, apart from the one on tokens, together with one on the current token
of a kind. -/
def alone (reg : Registry) (c : Column) (rest : List Predicate) (kind : Kind) : List Predicate :=
  match reg.variants.find? kind with
  | some v => onTokens c [v.discriminator] :: rest
  | none => rest

theorem alone_eq {reg : Registry} {rest : List Predicate}
    (registered : reg.variants.find? v.kind = some v) :
    alone reg c rest v.kind = onTokens c [v.discriminator] :: rest := by
  rw [alone, registered]

/-- Predicates on tokens fail to be sent for the other predicates only. -/
theorem outcome_run_onTokens (text : c.type = .text) (rest : List Predicate) (s : Store) :
    (q.run (onTokens c ts :: rest)).outcome s = match s.flush [], Store.checkSent rest with
      | .ok t, .ok _ =>
        (.ok (t.matching q.registry.bindings.identityClass (onTokens c ts :: rest)), t)
      | .ok t, .error e => (.error e, t)
      | .error e, _ => (.error e, s.reload) := by
  rw [outcome_run]
  cases s.flush [] with
  | error e => rfl
  | ok t =>
    simp only [select_onTokens text]
    cases Store.checkSent rest <;> rfl

/-- Predicates on the tokens of the kinds that are asked for decompose into those on each. -/
theorem decomposes_onTokens (coherent : q.registry.Coherent) (text : c.type = .text)
    {kind : Kind} (members : ∀ t, t ∈ ts ↔ ∃ v, q.registry.Offers below kind true v ∧
      v.discriminator = t) (rest : List Predicate) (s : Store) :
    q.Decomposes below kind (onTokens c ts :: rest) (alone q.registry c rest) s where
  failed := by
    intro e t failed v offers
    rw [alone_eq offers.registered, outcome_run_onTokens text]
    rw [outcome_run_onTokens text] at failed
    split at failed
    · cases failed
    · exact failed
    · exact failed
  selected := by
    intro found t done
    have flushed := (outcome_run_eq_ok done).1
    rw [outcome_run_onTokens text, flushed] at done
    cases sent : Store.checkSent rest with
    | error e =>
      rw [sent] at done
      cases done
    | ok _ =>
      rw [sent] at done
      cases done
      refine ⟨(Store.storedOf_nodup t _).filter _, fun j => t.matching
        q.registry.bindings.identityClass (alone q.registry c rest j), ?_, fun id => ?_, ?_⟩
      · intro v offers
        simp only [alone_eq offers.registered, outcome_run_onTokens text, flushed, sent, true_and]
        exact (Store.storedOf_nodup t _).filter _
      · rw [mem_matching_iff_exists_token text]
        constructor
        · rintro ⟨token, isToken, among⟩
          obtain ⟨v, offers, rfl⟩ := (members token).mp isToken
          exact ⟨v, offers, by simpa only [alone_eq offers.registered] using among⟩
        · rintro ⟨v, offers, among⟩
          simp only [alone_eq offers.registered] at among
          exact ⟨v.discriminator, (members _).mpr ⟨v, offers, rfl⟩, among⟩
      · intro v w offers offers' differ
        simp only [alone_eq offers.registered, alone_eq offers'.registered]
        refine disjoint_matching text (List.disjoint_singleton.mpr ?_)
        rw [List.mem_singleton]
        exact fun same => differ
          (coherent.discriminator_inj offers.registered offers'.registered same.symm)

/-- A query whose parameters are shared falls into the queries for each kind that it asks for: these
can be built where it can, and what it selects is put together from what they select. -/
theorem exists_decomposes (coherent : q.registry.Coherent)
    (keeps : q.registry.bindings.KeepsTokens c) (all : q.includeSubkinds = true)
    (shared : ∀ p ∈ query.parameters.values, p.1.IsShared)
    (built : (q.predicatesUnder below query scope).outcome s = (.ok ps, u)) :
    ∃ part : Kind → List Predicate,
      (∀ v, q.registry.Offers below query.kind true v →
        (predicatesUnder below { q with includeSubkinds := false } { query with kind := v.kind }
          scope).outcome s = (.ok (part v.kind), u)) ∧
      ∀ t, q.Decomposes below query.kind ps part t := by
  obtain ⟨v, ts, rest, -, members, narrowed, rfl⟩ := exists_of_predicates coherent keeps built
  rw [all] at members
  refine ⟨alone q.registry c rest, fun w offers => ?_, decomposes_onTokens coherent keeps.text
    members rest⟩
  have tokens := coherent.tokensUnder_alone below offers.registered
  have eq := predicatesUnder_eq_of_tokens (q := { q with includeSubkinds := false })
    { query with kind := w.kind } keeps offers.registered tokens scope
  rw [eq, narrowing_of_shared shared false scope w.form v.form, StoreM.outcome_bind_ok narrowed,
    alone_eq offers.registered]
  rfl

/-! ## After any registrations -/

/-- Whatever was registered, a registration that fails leaves the registry as it is, and in any
hierarchy of the kinds, that of their derivations among them, each record that a query selects leads
to the mapper of a registered kind at or below the one asked for: once it is read again from its row,
and at once if its discriminator in memory is a text or nothing. -/
theorem dispatches_of_enrollAll {b : Bindings} (keeps : b.KeepsTokens c)
    (resolver : Option RealmResolver) (vs : List Variant) :
    (∀ v e reg, (Registry.enroll v).run.run (Registry.enrollAll b resolver vs) = (.error e, reg) →
      reg = Registry.enrollAll b resolver vs) ∧
    (∀ (q : QueryBuilder) query scope,
      q.predicates query scope = q.predicatesUnder Kind.isSubkindOf query scope) ∧
    ∀ (below : Kind → Kind → Bool) (q : QueryBuilder),
      q.registry = Registry.enrollAll b resolver vs →
      ∀ query scope u ps u' s found t,
        (q.predicatesUnder below query scope).outcome u = (.ok ps, u') →
        s.Knows b.identityClass → (q.run ps).outcome s = (.ok found, t) → ∀ id ∈ found,
          q.registry.Dispatches below t.reload id query.kind ∧
            ∀ there, t.get id c.attr = .ofText? there →
              q.registry.Dispatches below t id query.kind := by
  refine ⟨fun v e reg failed => Registry.eq_of_enroll_error failed, fun _ _ _ => rfl, ?_⟩
  intro below q made query scope u ps u' s found t built knows done id among
  have coherent : q.registry.Coherent := made ▸ Registry.coherent_enrollAll b resolver vs
  have bindings : q.registry.bindings = b := made ▸ Registry.enrollAll_bindings b resolver vs
  subst bindings
  exact dispatches_of_selected coherent keeps built knows done among

/-- Users are registered again under another token, which a further kind then asks for in vain. -/
def renewals : List Variant :=
  [.agent, .user, { Variant.user with discriminator := "PERSON" },
    ⟨.agent, .derived .agent "Device" "DEVICE", "PERSON", "device"⟩]

/-- The row of a user under the later token. -/
def personRow : Row :=
  ⟨[("id", .integer 1), ("discriminator", .text "PERSON"), ("key", .text "USER://zoe"),
    ("enabled", .integer 1), ("created", .moment .epoch), ("expires", .null),
    ("partition_id", .null), ("name", .text "zoe"), ("first_name", .null), ("last_name", .null),
    ("email", .null), ("group_path", .null)]⟩

/-- A store of one user under the later token. -/
def personStore : Store := ⟨Standard.catalog, [.ofRow Standard.identityClass personRow], []⟩

theorem keepsTokens_standard : Standard.bindings.KeepsTokens Standard.discriminatorColumn where
  bound := rfl
  column := rfl
  text := rfl
  plain := rfl
  nodup := by decide

theorem knows_personStore : personStore.Knows Standard.identityClass where
  listed := by simp [personStore, Standard.catalog]
  named := List.forall_mem_singleton.mpr fun _ => rfl

/-- A query for agents finds the user, who leads to the variant under the later token. -/
theorem dispatches_after_renewals : ∃ q ps e,
    q.registry = Registry.enrollAll Standard.bindings none renewals ∧
    (QueryBuilder.predicates q { kind := .agent } none).outcome personStore =
      (.ok ps, personStore) ∧
    personStore.Knows Standard.identityClass ∧
    (q.run ps).outcome personStore = (.ok [0], personStore) ∧
    personStore.get 0 "discriminator" = .text "PERSON" ∧
    q.registry.Dispatches Kind.isSubkindOf personStore.reload 0 .agent ∧
    q.registry.Dispatches Kind.isSubkindOf personStore 0 .agent ∧
    (Registry.enroll ⟨.agent, .derived .agent "Device" "DEVICE", "PERSON", "device"⟩).run.run
      q.registry = (.error e, q.registry) := by
  obtain ⟨refused, derivations, dispatches⟩ :=
    dispatches_of_enrollAll keepsTokens_standard none renewals
  obtain ⟨q, ps, made, built, run⟩ : ∃ q ps,
      q.registry = Registry.enrollAll Standard.bindings none renewals ∧
      (QueryBuilder.predicates q { kind := .agent } none).outcome personStore =
        (.ok ps, personStore) ∧
      (q.run ps).outcome personStore = (.ok [0], personStore) :=
    ⟨⟨Registry.enrollAll Standard.bindings none renewals, ⟨Standard.bindings, false⟩, true⟩, _, rfl,
      rfl, rfl⟩
  obtain ⟨reloaded, inMemory⟩ := dispatches Kind.isSubkindOf q made _ _ _ _ _ _ _ _
    (derivations q _ _ ▸ built) knows_personStore run 0 List.mem_cons_self
  obtain ⟨e, reg, failed⟩ : ∃ e reg,
      (Registry.enroll ⟨.agent, .derived .agent "Device" "DEVICE", "PERSON", "device"⟩).run.run
        (Registry.enrollAll Standard.bindings none renewals) = (.error e, reg) := ⟨_, _, rfl⟩
  have same := refused _ e reg failed
  refine ⟨q, ps, e, made, built, knows_personStore, run, rfl, reloaded,
    inMemory (some "PERSON") rfl, ?_⟩
  rw [made, failed, same]

/-- Whatever was registered, in any hierarchy of the kinds, that of their derivations among them, a
query for a kind and those below it, whose parameters are shared, falls into the queries for each of
these kinds alone: what it selects of any store is the disjoint union of what they select. -/
theorem decomposes_of_enrollAll (below : Kind → Kind → Bool) {b : Bindings}
    (keeps : b.KeepsTokens c)
    {resolver : Option RealmResolver} {vs : List Variant}
    (made : q.registry = Registry.enrollAll b resolver vs) (all : q.includeSubkinds = true)
    (shared : ∀ p ∈ query.parameters.values, p.1.IsShared)
    (built : (q.predicatesUnder below query scope).outcome s = (.ok ps, u)) :
    (∀ (q : QueryBuilder) query scope,
      q.predicates query scope = q.predicatesUnder Kind.isSubkindOf query scope) ∧
    ∃ part : Kind → List Predicate,
      (∀ v, q.registry.Offers below query.kind true v →
        (predicatesUnder below { q with includeSubkinds := false } { query with kind := v.kind }
          scope).outcome s = (.ok (part v.kind), u)) ∧
      ∀ t, q.Decomposes below query.kind ps part t := by
  refine ⟨fun _ _ _ => rfl, ?_⟩
  have coherent : q.registry.Coherent := made ▸ Registry.coherent_enrollAll b resolver vs
  have bindings : q.registry.bindings = b := made ▸ Registry.enrollAll_bindings b resolver vs
  subst bindings
  exact exists_decomposes coherent keeps all shared built

/-- A query for the agents that are enabled and have an attribute. -/
theorem decomposes_after_renewals : ∃ (q : QueryBuilder) (query : Query) (ps : List Predicate),
    q.registry = Registry.enrollAll Standard.bindings none renewals ∧ q.includeSubkinds = true ∧
    query.kind = .agent ∧ query.parameters.values = [(.identity .enabled, [.bool true]),
      (.named "team", [.text "red"])] ∧
    (q.predicates query none).outcome personStore = (.ok ps, personStore) ∧
    ∃ part : Kind → List Predicate,
      (∀ v, q.registry.Offers Kind.isSubkindOf query.kind true v →
        (QueryBuilder.predicates { q with includeSubkinds := false } { query with kind := v.kind }
          none).outcome personStore = (.ok (part v.kind), personStore)) ∧
      ∀ t, q.Decomposes Kind.isSubkindOf query.kind ps part t := by
  refine ⟨⟨Registry.enrollAll Standard.bindings none renewals, ⟨Standard.bindings, false⟩, true⟩,
    ⟨.agent, ⟨[(.value (.text "enabled"), (.identity .enabled, [.bool true])),
      (.named "team", (.named "team", [.text "red"]))]⟩⟩, _, rfl, rfl, rfl, rfl, rfl, ?_⟩
  exact (decomposes_of_enrollAll Kind.isSubkindOf keepsTokens_standard rfl rfl
    (List.forall_mem_cons.mpr ⟨trivial, List.forall_mem_singleton.mpr trivial⟩) rfl).2

end QueryBuilder

end Principals
