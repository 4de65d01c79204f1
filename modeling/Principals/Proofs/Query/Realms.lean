import Principals.Proofs.Mapping.Runs
import Principals.Proofs.Query.Selection

/-!
# Queries scoped to a realm

A query that is scoped to a realm compares the reference of each row with the id that the record of
the realm shows. In a store in which every record is in some realm or in none and nothing is left to
write, it selects records of that realm only; without parameters it selects all of its kind.

A run of calls and a flush leave such a store, in which each record is in the realm that it was last
given by a call that succeeded.

* `Isolates`: what queries scoped to realms select if they keep the realms apart;
* `Places.isolates`: they do where every record is in its realm;
* `isolated_of_history`: what they select after a run.
-/

namespace Principals.Standard

variable {s t u : Store} {id : RecordId} {row : Row} {homes : RecordId → Option String}
  {reg : Registry} {q : QueryBuilder} {v : Variant} {query : Query} {p : Realm}
  {ps : List Predicate} {found : List RecordId} {ws : List String}

/-- Whether the tables have an identity record under a discriminator. -/
def StoredAs (t : Store) (id : RecordId) (token : String) : Prop :=
  ∃ row, t.stored? id = some (identityClass, row) ∧
    row.find? "discriminator" = some (.text token)

/-- What queries of a registry select, each scoped to a realm, of a store in which every record is
in the realm of an id or in none. -/
structure Isolates (reg : Registry) (t : Store) (homes : RecordId → Option String) : Prop where
  /-- A query for a kind that is scoped to a stored realm selects, each once, the records with a
  token of the kind that are in the realm. -/
  selects : ∀ q : QueryBuilder, q.registry = reg → ∀ v ∈ Variant.builtins, ∀ query : Query,
    query.kind = v.kind → query.parameters.values = [] → ∀ p : Realm,
      (RealmResolver.findRealm t p).isSome = true →
        ∃ found, (q.predicates query (some p) >>= q.run).outcome t = (.ok found, t) ∧
          found.Nodup ∧ ∀ id, id ∈ found ↔
            (∃ token ∈ v.tokens q.includeSubkinds, StoredAs t id token) ∧ homes id = some p.id
  /-- Whatever else a query asks for, scoped to a realm it selects records of that realm only. -/
  selected : ∀ q : QueryBuilder, q.registry = reg → ∀ query p found u,
    (q.predicates query (some p) >>= q.run).outcome t = (.ok found, u) →
      ∀ id ∈ found, homes id = some p.id
  /-- A record in no realm is selected by no query that is scoped to one. -/
  unselected : ∀ q : QueryBuilder, q.registry = reg → ∀ query p found u,
    (q.predicates query (some p) >>= q.run).outcome t = (.ok found, u) →
      ∀ id, homes id = none → id ∉ found
  /-- Queries scoped to realms with different ids select disjoint records. -/
  disjoint : ∀ q q' : QueryBuilder, q.registry = reg → q'.registry = reg →
    ∀ query query' p p' found found' u u',
      (q.predicates query (some p) >>= q.run).outcome t = (.ok found, u) →
      (q'.predicates query' (some p') >>= q'.run).outcome t = (.ok found', u') →
        p.id ≠ p'.id → found.Disjoint found'

/-! ## The predicate on the realm -/

/-- The predicate of a scope is that of the stored realm, if there is one. -/
theorem exists_of_scopePredicates (places : Places homes s)
    (serves : q.registry.ServesBuiltins bindings (some .stored))
    (built : (scopePredicates q (some p)).outcome s = (.ok ps, u)) :
    u = s ∧ ps = [.refersTo referenceColumn (.text p.id)] := by
  cases isTarget : RealmResolver.findRealm s p with
  | none =>
    have attr : (StoreM.lift (bindings.attrOf Property.realm)).outcome s = (.ok "partition", s) :=
      rfl
    have looked : (RealmResolver.stored.lookup p).outcome s =
        (.error (.fault (.notFound "Partition" p.id)), s) :=
      RealmResolver.outcome_lookup_table_of_none isTarget
    have failed : (q.realmPredicate p).outcome s =
        (.error (.fault (.notFound "Partition" p.id)), s) := by
      simp only [QueryBuilder.realmPredicate, serves.resolver, serves.bindings]
      rw [StoreM.outcome_bind_ok attr, StoreM.outcome_bind_error looked]
    rw [scopePredicates, StoreM.outcome_bind_error failed] at built
    cases built
  | some target =>
    have done := outcome_realmPredicate serves isTarget
      ((places.hasRealm_of_findRealm isTarget).get namedBy_realmClass)
    rw [scopePredicates, StoreM.outcome_bind_ok done] at built
    cases built
    exact ⟨rfl, rfl⟩

/-- Among the predicates of a query that is scoped to a realm is the one on that realm. -/
theorem mem_of_predicates (places : Places homes s)
    (serves : q.registry.ServesBuiltins bindings (some .stored))
    (built : (q.predicates query (some p)).outcome s = (.ok ps, u)) :
    u = s ∧ .refersTo referenceColumn (.text p.id) ∈ ps := by
  rw [predicates_eq] at built
  obtain ⟨m, s₁, mapper, built⟩ := StoreM.outcome_bind_eq_ok.mp built
  obtain ⟨tokens, s₂, given, built⟩ := StoreM.outcome_bind_eq_ok.mp built
  obtain ⟨first, s₃, onTokens, built⟩ := StoreM.outcome_bind_eq_ok.mp built
  obtain ⟨scopes, s₄, scopeBuilt, built⟩ := StoreM.outcome_bind_eq_ok.mp built
  obtain ⟨more, s₅, onParameters, built⟩ := StoreM.outcome_bind_eq_ok.mp built
  cases congrArg Prod.snd mapper
  cases congrArg Prod.snd given
  cases congrArg Prod.snd onTokens
  obtain ⟨rfl, rfl⟩ := exists_of_scopePredicates places serves scopeBuilt
  cases congrArg Prod.snd onParameters
  cases built
  exact ⟨rfl, List.mem_cons_of_mem _ List.mem_cons_self⟩

/-- The reference of a row holds the realm of its record. -/
theorem holds_refersTo_iff (places : Places homes t) (settled : t.Settled)
    (stored : t.stored? id = some (identityClass, row)) (tables : String → List Row) (x : String) :
    (Predicate.refersTo referenceColumn (.text x)).holds tables row = true ↔
      homes id = some x := by
  obtain ⟨cell, stores, cellFound⟩ := places.reference_of_settled settled stored
  exact refersTo_iff rfl stores cellFound tables x

/-! ## The predicate on the kind -/

/-- The discriminator of a row is one of some tokens. -/
theorem holds_tokens_iff (settled : t.Settled)
    (stored : t.stored? id = some (identityClass, row)) (tables : String → List Row) :
    (Predicate.column discriminatorColumn (.within (ws.map .text))).holds tables row = true ↔
      ∃ token ∈ ws, StoredAs t id token := by
  obtain ⟨r, isRecord, isIdentity, has⟩ := Store.stored?_eq_some_iff.mp stored
  obtain ⟨columns, -⟩ := settled r (Store.mem_of_record? isRecord) row has
  rw [isIdentity] at columns
  obtain ⟨cell, stores, cellFound⟩ := Record.storeRow_spec columns columns_nodup
    (c := discriminatorColumn) (by decide)
  have onToken : ∀ token, cell.text? = some token ↔ StoredAs t id token := by
    intro token
    rw [ColumnType.text?_of_store_text stores]
    constructor
    · rintro rfl
      exact ⟨row, stored, cellFound⟩
    · rintro ⟨row', stored', found⟩
      rw [stored] at stored'
      cases stored'
      exact Option.some.inj (cellFound.symm.trans found)
  rw [Predicate.holds, within_texts_iff rfl, cellIn_of_find? cellFound]
  simp only [onToken]

/-! ## What is selected -/

theorem eq_matching_of_select {cls : RecordClass} (done : s.select cls ps = .ok found) :
    found = s.matching cls ps := by
  obtain ⟨_, -, given⟩ := bind_eq_ok.mp done
  cases given
  exact rfl

/-- The identity records whose rows satisfy some predicates. -/
theorem mem_matching_identity_iff (places : Places homes t) :
    id ∈ t.matching identityClass ps ↔ ∃ row, t.stored? id = some (identityClass, row) ∧
      ∀ p ∈ ps, p.holds t.rowsOf row = true := by
  rw [Store.mem_matching_iff]
  constructor
  · rintro ⟨cls, row, stored, named, holds⟩
    obtain ⟨r, isRecord, rfl, -⟩ := Store.stored?_eq_some_iff.mp stored
    have isIdentity := eq_of_name r.cls (places.cls_mem isRecord) identityClass (by decide) named
    rw [isIdentity] at stored
    exact ⟨row, stored, holds⟩
  · rintro ⟨row, stored, holds⟩
    exact ⟨identityClass, row, stored, rfl, holds⟩

/-- A query that is scoped to a realm selects records of that realm only. -/
theorem home_of_selected (places : Places homes t) (settled : t.Settled)
    (serves : q.registry.ServesBuiltins bindings (some .stored))
    (done : (q.predicates query (some p) >>= q.run).outcome t = (.ok found, u)) :
    ∀ id ∈ found, homes id = some p.id := by
  obtain ⟨ps, t', built, run⟩ := StoreM.outcome_bind_eq_ok.mp done
  obtain ⟨rfl, onRealm⟩ := mem_of_predicates places serves built
  rw [outcome_run_of_settled settled serves.bindings] at run
  intro id among
  rw [eq_matching_of_select (congrArg Prod.fst run), mem_matching_identity_iff places] at among
  obtain ⟨row, stored, holds⟩ := among
  exact (holds_refersTo_iff places settled stored _ p.id).mp (holds _ onRealm)

/-- A query for a kind that is scoped to a stored realm selects the records with a token of the kind
that are in the realm. -/
theorem exists_selected_in_realm (places : Places homes t) (settled : t.Settled)
    (serves : q.registry.ServesBuiltins bindings (some .stored)) (builtin : v ∈ Variant.builtins)
    (ofKind : query.kind = v.kind) (noParameters : query.parameters.values = [])
    (stored : (RealmResolver.findRealm t p).isSome = true) :
    ∃ found, (q.predicates query (some p) >>= q.run).outcome t = (.ok found, t) ∧ found.Nodup ∧
      ∀ id, id ∈ found ↔
        (∃ token ∈ v.tokens q.includeSubkinds, StoredAs t id token) ∧ homes id = some p.id := by
  obtain ⟨target, isTarget⟩ := Option.isSome_iff_exists.mp stored
  have scopeBuilt : (scopePredicates q (some p)).outcome t =
      (.ok [.refersTo referenceColumn (.text p.id)], t) :=
    StoreM.outcome_bind_ok
      (outcome_realmPredicate serves isTarget
        ((places.hasRealm_of_findRealm isTarget).get namedBy_realmClass))
  have compiled : q.parameterPredicates t v.form query.parameters.values = .ok [] := by
    rw [noParameters]
    rfl
  have built := outcome_predicates serves builtin ofKind scopeBuilt compiled
  have sends := (decides_tokens builtin q.includeSubkinds).append (decides_realm p)
    fun _ _ _ => trivial
  have run := outcome_run_of_sendable settled serves.bindings sends.possible sends.sendable
  refine ⟨_, (StoreM.outcome_bind_ok built).trans run, (Store.storedOf_nodup t _).filter _,
    fun id => ?_⟩
  rw [mem_matching_identity_iff places]
  constructor
  · rintro ⟨row, isStored, holds⟩
    obtain ⟨onTokens, onRealm⟩ := List.forall_mem_cons.mp holds
    exact ⟨(holds_tokens_iff settled isStored _).mp onTokens,
      (holds_refersTo_iff places settled isStored _ p.id).mp (onRealm _ List.mem_cons_self)⟩
  · rintro ⟨⟨token, among, row, isStored, hasToken⟩, inRealm⟩
    refine ⟨row, isStored, List.forall_mem_cons.mpr ⟨?_, List.forall_mem_singleton.mpr ?_⟩⟩
    · exact (holds_tokens_iff settled isStored _).mpr ⟨token, among, row, isStored, hasToken⟩
    · exact (holds_refersTo_iff places settled isStored _ p.id).mpr inRealm

/-- Where every record is in its realm and nothing is left to write, scoped queries keep the realms
apart. -/
theorem Places.isolates (places : Places homes t) (settled : t.Settled)
    (serves : reg.ServesBuiltins bindings (some .stored)) : Isolates reg t homes where
  selects := by
    rintro q rfl v builtin query ofKind noParameters p stored
    exact exists_selected_in_realm places settled serves builtin ofKind noParameters stored
  selected := by
    rintro q rfl query p found u done
    exact home_of_selected places settled serves done
  unselected := by
    rintro q rfl query p found u done id nowhere among
    rw [home_of_selected places settled serves done id among] at nowhere
    cases nowhere
  disjoint := by
    rintro q q' rfl same query query' p p' found found' u u' done done' differ
    rw [List.disjoint_left]
    intro id among among'
    rw [← same] at serves
    have home := home_of_selected places settled (same ▸ serves) done id among
    have home' := home_of_selected places settled serves done' id among'
    exact differ (Option.some.inj (home.symm.trans home'))

/-! ## After a run -/

/-- After a run of calls and a flush, a query that is scoped to a stored realm selects the records of
its kind that were last given that realm by a call that succeeded. -/
theorem isolated_of_history {calls : List Call} {entries : List Entry} {ids : List RecordId}
    (registered : Registry.withBuiltins bindings (some .stored) = .ok reg)
    (start : Places (fun _ => none) s) (shaped : ∀ c ∈ calls, c.principal.Shaped)
    (run : reg.history calls s = (entries, u))
    (written : (StoreM.persist ids).outcome u = (.ok (), t)) :
    Isolates reg t fun id => (realmsGiven id entries).getLast? := by
  have serves := Registry.ServesBuiltins.of_withBuiltins registered
  have placed := start.history registered shaped run
  simp only [Option.or_none] at placed
  obtain ⟨places, settled⟩ := placed.flush (Store.flush_of_persist written)
  exact places.isolates settled serves

/-- Calls that keep a user in a realm and a role in none, move the user to another realm, fail to
move it to one that is not stored, and write it once more without a realm. -/
def moves (user role : Principal) : List Call :=
  [⟨none, some ⟨"north", none⟩, user⟩, ⟨none, none, role⟩, ⟨some 2, some ⟨"south", none⟩, user⟩,
    ⟨some 2, some ⟨"west", none⟩, user⟩, ⟨some 2, none, user⟩]

theorem exists_moved : ∃ reg user role entries u t,
    Registry.withBuiltins bindings (some .stored) = .ok reg ∧
    Principal.create ⟨.epoch, none⟩ .user [("login_name", .text "zoe")] = .ok user ∧
    Principal.create ⟨.epoch, none⟩ .role [("name", .text "clerk")] = .ok role ∧
    reg.history (moves user role) (ofRealms [⟨"north", none⟩, ⟨"south", none⟩]) = (entries, u) ∧
    entries.map Prod.snd =
      [.ok 2, .ok 3, .ok 2, .error (.fault (.notFound "Partition" "west")), .ok 2] ∧
    realmsGiven 2 entries = ["north", "south"] ∧ realmsGiven 3 entries = [] ∧
    (StoreM.persist [2, 3]).outcome u = (.ok (), t) :=
  ⟨_, _, _, _, _, _, rfl, rfl, rfl, rfl, rfl, rfl, rfl, rfl⟩

/-- The user is in the realm that it moved to, and the role in none. -/
theorem isolated_after_moves : ∃ reg user role entries u t,
    Registry.withBuiltins bindings (some .stored) = .ok reg ∧
    Principal.create ⟨.epoch, none⟩ .user [("login_name", .text "zoe")] = .ok user ∧
    Principal.create ⟨.epoch, none⟩ .role [("name", .text "clerk")] = .ok role ∧
    reg.history (moves user role) (ofRealms [⟨"north", none⟩, ⟨"south", none⟩]) = (entries, u) ∧
    (realmsGiven 2 entries).getLast? = some "south" ∧ (realmsGiven 3 entries).getLast? = none ∧
    (StoreM.persist [2, 3]).outcome u = (.ok (), t) ∧
    Isolates reg t fun id => (realmsGiven id entries).getLast? := by
  obtain ⟨reg, user, role, entries, u, t, registered, made, made', run, -, given, given',
    written⟩ := exists_moved
  refine ⟨reg, user, role, entries, u, t, registered, made, made', run, by rw [given]; rfl,
    by rw [given']; rfl, written, ?_⟩
  have shapedUser := (Principal.Constructed.of_create made).shaped
  have shapedRole := (Principal.Constructed.of_create made').shaped
  refine isolated_of_history registered (places_ofRealms _) ?_ run written
  simp only [moves, List.forall_mem_cons, shapedUser, shapedRole, true_and]
  exact List.forall_mem_nil _

end Principals.Standard
