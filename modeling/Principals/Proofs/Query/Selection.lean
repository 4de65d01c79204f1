import Principals.Proofs.Query.Conditions
import Principals.Proofs.Time.Instant

/-!
# What a query selects

A query over a store that a run of the registry left finds exactly the principals that match it: the
predicates can always be built and sent, the changes that are written first are none, and of each
row the predicates decide what the query asks of the principal that the row shows.

* `outcome_predicates`, `exists_predicates`: the predicates of a query;
* `exists_selected`: what they select of a store that keeps some principals;
* `selected_of_storeAll`: what a query selects after a run.
-/

namespace Principals

/-- Running predicates over a store in which nothing is left to write is a selection. -/
theorem QueryBuilder.outcome_run_of_settled (q : QueryBuilder) {s : Store} (settled : s.Settled)
    (ps : List Predicate) :
    (q.run ps).outcome s = (s.select q.registry.bindings.identityClass ps, s) := by
  have flushed : StoreM.flush.outcome s = (.ok (), s) :=
    StoreM.outcome_transact_ok (Store.flush_of_settled settled)
  rw [QueryBuilder.run, StoreM.outcome_bind_ok flushed, StoreM.outcome_ask]

namespace Standard

variable {s : Store} {realms : List Realm} {kept : List (Option Realm × Principal)}
  {q : QueryBuilder} {v : Variant} {query : Query} {scope : Option Realm}

/-! ## Its predicates -/

/-- The predicate on a stored realm. -/
theorem outcome_realmPredicate {r : Realm} {target : RecordId}
    (serves : q.registry.ServesBuiltins bindings (some .stored))
    (found : RealmResolver.findRealm s r = some target)
    (shows : s.get target "id" = .text r.id) :
    (q.realmPredicate r).outcome s = (.ok (.refersTo referenceColumn (.text r.id)), s) := by
  have attr : (StoreM.lift (bindings.attrOf Property.realm)).outcome s = (.ok "partition", s) := rfl
  have looked : (RealmResolver.stored.lookup r).outcome s = (.ok (.record target), s) :=
    RealmResolver.outcome_lookup_table found
  have compared : Predicate.ofComparison s identityClass "partition" .equal (.record target) =
      .ok (.refersTo referenceColumn (s.get target "id")) := rfl
  simp only [QueryBuilder.realmPredicate, serves.resolver, serves.bindings]
  rw [StoreM.outcome_bind_ok attr, StoreM.outcome_bind_ok looked, StoreM.outcome_ask]
  change (Predicate.ofComparison s identityClass "partition" .equal (.record target), s) = _
  rw [compared, shows]

/-- The predicates on the realm that is given, if one is. -/
def scopePredicates (q : QueryBuilder) : Option Realm → StoreM (List Predicate)
  | some r => do
    let p ← q.realmPredicate r
    pure [p]
  | none => pure []

theorem predicatesUnder_eq (below : Kind → Kind → Bool) (q : QueryBuilder) (query : Query)
    (scope : Option Realm) : q.predicatesUnder below query scope = (do
      let m ← StoreM.lift (q.registry.forKind query.kind)
      let tokens ← StoreM.lift
        (q.registry.discriminators.tokensUnder below query.kind q.includeSubkinds)
      let first ← StoreM.lift (QueryBuilder.tokenPredicate q.registry.bindings tokens)
      let scope ← scopePredicates q scope
      let more ← StoreM.ask fun s =>
        q.parameterPredicates s m.variant.form query.parameters.values
      return first :: (scope ++ more)) := by
  cases scope <;> simp only [QueryBuilder.predicatesUnder, scopePredicates, bind_assoc, pure_bind]

theorem predicates_eq (q : QueryBuilder) (query : Query) (scope : Option Realm) :
    q.predicates query scope = (do
      let m ← StoreM.lift (q.registry.forKind query.kind)
      let tokens ← StoreM.lift
        (q.registry.discriminators.tokensFor query.kind q.includeSubkinds)
      let first ← StoreM.lift (QueryBuilder.tokenPredicate q.registry.bindings tokens)
      let scope ← scopePredicates q scope
      let more ← StoreM.ask fun s =>
        q.parameterPredicates s m.variant.form query.parameters.values
      return first :: (scope ++ more)) :=
  predicatesUnder_eq Kind.isSubkindOf q query scope

theorem exists_scopePredicates (keeps : Kept realms kept s)
    (serves : q.registry.ServesBuiltins bindings (some .stored))
    (stored : ∀ r ∈ scope, r.id ∈ realms.map Realm.id) :
    ∃ ps, (scopePredicates q scope).outcome s = (.ok ps, s) ∧
      Decides (fun _ => True) ps fun e => ∀ r ∈ scope, e.1.map Realm.id = some r.id := by
  cases scope with
  | none =>
    refine ⟨[], rfl, (Decides.nil _).congr fun e => ?_⟩
    exact ⟨fun _ => nofun, fun _ => trivial⟩
  | some r =>
    obtain ⟨target, found⟩ := Option.isSome_iff_exists.mp (keeps.findRealm_isSome (stored r rfl))
    refine ⟨_, StoreM.outcome_bind_ok
      (outcome_realmPredicate serves found (keeps.get_of_findRealm found)),
      (decides_realm r).congr fun e => ?_⟩
    constructor
    · rintro same r' given
      cases given
      exact same
    · exact fun same => same r rfl

/-- The predicates of a query for a built-in kind: on the kind, on the realm, and whatever its
parameters become. -/
theorem outcome_predicates {scopes more : List Predicate}
    (serves : q.registry.ServesBuiltins bindings (some .stored)) (builtin : v ∈ Variant.builtins)
    (ofKind : query.kind = v.kind) (scopeBuilt : (scopePredicates q scope).outcome s = (.ok scopes, s))
    (compiled : q.parameterPredicates s v.form query.parameters.values = .ok more) :
    (q.predicates query scope).outcome s = (.ok
      (.column discriminatorColumn (.within ((v.tokens q.includeSubkinds).map .text)) ::
        (scopes ++ more)), s) := by
  have mapper : (StoreM.lift (q.registry.forKind query.kind)).outcome s =
      (.ok ⟨v, bindings, q.registry.discriminators, some .stored⟩, s) := by
    rw [StoreM.outcome_lift, ofKind, serves.forKind builtin]
  have tokens : (StoreM.lift (q.registry.discriminators.tokensFor query.kind
      q.includeSubkinds)).outcome s =
      (.ok ((v.tokens q.includeSubkinds).map .text), s) := by
    rw [StoreM.outcome_lift, ofKind, serves.tokens v builtin]
  have first : (StoreM.lift (QueryBuilder.tokenPredicate q.registry.bindings
      ((v.tokens q.includeSubkinds).map .text))).outcome s =
      (.ok (.column discriminatorColumn (.within ((v.tokens q.includeSubkinds).map .text))),
        s) := by
    rw [StoreM.outcome_lift, serves.bindings]
    rfl
  have last : (StoreM.ask fun s => q.parameterPredicates s v.form
      query.parameters.values).outcome s = (.ok more, s) := by
    rw [StoreM.outcome_ask, compiled]
  rw [predicates_eq, StoreM.outcome_bind_ok mapper, StoreM.outcome_bind_ok tokens,
    StoreM.outcome_bind_ok first, StoreM.outcome_bind_ok scopeBuilt,
    StoreM.outcome_bind_ok last, StoreM.outcome_pure]

/-- The predicates of a plain query can be built, and decide what the query asks for. -/
theorem exists_predicates (keeps : Kept realms kept s)
    (serves : q.registry.ServesBuiltins bindings (some .stored))
    (overStandard : q.compiler.bindings = bindings) (builtin : v ∈ Variant.builtins)
    (ofKind : query.kind = v.kind) (plain : ∀ p ∈ query.parameters.values, Query.Plain p)
    (stored : ∀ r ∈ scope, r.id ∈ realms.map Realm.id) :
    ∃ ps, (q.predicates query scope).outcome s = (.ok ps, s) ∧
      Decides (fun _ => True) ps (query.Matches v.form q.includeSubkinds scope) := by
  obtain ⟨scopes, scopeBuilt, inRealm⟩ := exists_scopePredicates keeps serves stored
  obtain ⟨more, compiled, meets⟩ := exists_decides_parameters overStandard builtin s plain
  have kinds := decides_tokens builtin q.includeSubkinds
  have narrowed := (inRealm.restrict fun d (_ : d.kind.isSubkindOf v.kind = true) =>
    trivial).append meets fun _ derived _ => derived
  have all := kinds.append narrowed fun _ _ ofKind => ofKind.isSubkindOf
  refine ⟨_, outcome_predicates serves builtin ofKind scopeBuilt compiled, all.congr fun e => ?_⟩
  rw [← ofKind]
  constructor
  · intro h
    rcases h with ⟨kind, realm, parameters⟩
    exact ⟨kind, realm, parameters⟩
  · intro h
    rcases h with ⟨kind, realm, parameters⟩
    exact ⟨kind, realm, parameters⟩

/-! ## What they select -/

/-- Over the standard schema identity records are selected. -/
theorem outcome_run_of_settled (settled : s.Settled)
    (overStandard : q.registry.bindings = bindings) (ps : List Predicate) :
    (q.run ps).outcome s = (s.select identityClass ps, s) := by
  rw [q.outcome_run_of_settled settled, overStandard]
  rfl

/-- It gives the matching records if the predicates can be sent. -/
theorem outcome_run_of_sendable (settled : s.Settled) (overStandard : q.registry.bindings = bindings)
    {ps : List Predicate} (possible : ∀ p ∈ ps, p ≠ .never) (sendable : Store.Sendable ps) :
    (q.run ps).outcome s = (.ok (s.matching identityClass ps), s) := by
  rw [outcome_run_of_settled settled overStandard,
    (Store.select_eq_ok_iff possible).mpr ⟨sendable, rfl⟩]

/-- Running predicates that decide something over a store that keeps some principals selects those
of which it holds, each once. -/
theorem exists_selected (keeps : Kept realms kept s) (storable : ∀ e ∈ kept, Storable realms e)
    (overStandard : q.registry.bindings = bindings) {ps : List Predicate}
    {P : Option Realm × Principal → Prop} (decides : Decides (fun _ => True) ps P) :
    ∃ found, (q.run ps).outcome s = (.ok found, s) ∧ found.Nodup ∧
      ∀ id, id ∈ found ↔
        ∃ e, (id, e) ∈ (List.range' realms.length kept.length).zip kept ∧ P e := by
  have built : ∀ id e, (id, e) ∈ (List.range' realms.length kept.length).zip kept → e.2.Built :=
    fun id e among => (storable e (List.of_mem_zip among).2).1
  refine ⟨_, outcome_run_of_sendable keeps.settled.settled overStandard decides.possible
    decides.sendable, (Store.storedOf_nodup s _).filter _, fun id => ?_⟩
  rw [Store.mem_matching_iff]
  constructor
  · intro h
    rcases h with ⟨cls', row, stored, named, holds⟩
    obtain ⟨e, among, shows⟩ := keeps.exists_mem_of_stored stored named
    exact ⟨e, among, (decides.holds_iff _ row e (built id e among) trivial shows).mp holds⟩
  · intro h
    rcases h with ⟨e, among, has⟩
    obtain ⟨row, stored, shows⟩ := keeps.stored_of_mem among
    exact ⟨identityClass, row, stored, rfl,
      (decides.holds_iff _ row e (built id e among) trivial shows).mpr has⟩

/-! ## After a run -/

/-- A run that stores principals of the built-in kinds succeeds as long as there are numbers left. A
query of plain parameters for a built-in kind, in a stored realm or in none, then selects exactly
the records of the principals that match it, each once. -/
theorem selected_of_storeAll {batches : List (List (Option Realm × Principal))}
    (registered : Registry.withBuiltins bindings (some .stored) = .ok q.registry)
    (overStandard : q.compiler.bindings = bindings)
    (storable : ∀ e ∈ batches.flatten, Storable realms e) (builtin : v ∈ Variant.builtins)
    (ofKind : query.kind = v.kind) (plain : ∀ p ∈ query.parameters.values, Query.Plain p)
    (stored : ∀ r ∈ scope, r.id ∈ realms.map Realm.id) :
    (batches.flatten.length < 2 ^ 63 → ∃ ids s,
      (q.registry.storeAll batches).outcome (ofRealms realms) = (.ok ids, s)) ∧
    ∀ ids s, (q.registry.storeAll batches).outcome (ofRealms realms) = (.ok ids, s) →
      ids.Nodup ∧ ids.length = batches.flatten.length ∧
      ∃ found, (q.predicates query scope >>= q.run).outcome s = (.ok found, s) ∧ found.Nodup ∧
        ∀ id, id ∈ found ↔ ∃ e, (id, e) ∈ ids.zip batches.flatten ∧
          query.Matches v.form q.includeSubkinds scope e := by
  have serves := Registry.ServesBuiltins.of_withBuiltins registered
  have start := kept_ofRealms realms
  refine ⟨fun fits => exists_storeAll serves start storable fits, fun ids s done => ?_⟩
  obtain ⟨rfl, keeps⟩ := storeAll_kept serves start storable done
  rw [List.nil_append] at keeps
  obtain ⟨ps, built, decides⟩ :=
    exists_predicates keeps serves overStandard builtin ofKind plain stored
  obtain ⟨found, run, nodup, members⟩ :=
    exists_selected keeps storable serves.bindings decides
  refine ⟨List.nodup_range', List.length_range', found, ?_, nodup, members⟩
  rw [StoreM.outcome_bind_ok built, run]

/-- Two batches, of a user in a realm and of a role in none, and a query for the agents of the realm
that are enabled and log in as the user does. -/
theorem selected_of_two_batches : ∃ (q : QueryBuilder) (query : Query)
    (batches : List (List (Option Realm × Principal))),
    Registry.withBuiltins bindings (some .stored) = .ok q.registry ∧
    q.includeSubkinds = true ∧ query.kind = .agent ∧
    query.parameters.values = [(.identity .enabled, [.bool true]),
      (.variant .loginName, [.text "zoe"])] ∧
    batches.flatten.map (fun e => (e.1.map Realm.id, e.2.key)) =
      [(some "r", "USER://zoe"), (none, "ROLE://clerk")] ∧
    (batches.flatten.length < 2 ^ 63 → ∃ ids s,
      (q.registry.storeAll batches).outcome (ofRealms [⟨"r", none⟩]) = (.ok ids, s)) ∧
    ∀ ids s, (q.registry.storeAll batches).outcome (ofRealms [⟨"r", none⟩]) = (.ok ids, s) →
      ids.Nodup ∧ ids.length = batches.flatten.length ∧
      ∃ found, (q.predicates query (some ⟨"r", none⟩) >>= q.run).outcome s = (.ok found, s) ∧
        found.Nodup ∧ ∀ id, id ∈ found ↔ ∃ e, (id, e) ∈ ids.zip batches.flatten ∧
          query.Matches Variant.agent.form q.includeSubkinds (some ⟨"r", none⟩) e := by
  obtain ⟨reg, registered⟩ : ∃ reg, Registry.withBuiltins bindings (some .stored) = .ok reg :=
    ⟨_, rfl⟩
  obtain ⟨d, built, key⟩ : ∃ d, Principal.create ⟨.epoch, none⟩ .user
    [("login_name", .text "zoe")] = .ok d ∧ d.key = "USER://zoe" := ⟨_, rfl, rfl⟩
  obtain ⟨d', built', key'⟩ : ∃ d, Principal.create ⟨.epoch, none⟩ .role
    [("name", .text "clerk")] = .ok d ∧ d.key = "ROLE://clerk" := ⟨_, rfl, rfl⟩
  have user : Storable [⟨"r", none⟩] (some ⟨"r", none⟩, d) := by
    refine ⟨⟨_, .user, _, .inr (.inl rfl), built⟩, fun r given => ?_⟩
    cases given
    decide
  have role : Storable [⟨"r", none⟩] (none, d') :=
    ⟨⟨_, .role, _, .inr (.inr (.inr rfl)), built'⟩, nofun⟩
  refine ⟨⟨reg, ⟨bindings, false⟩, true⟩,
    ⟨.agent, ⟨[(.value (.text "enabled"), (.identity .enabled, [.bool true])),
      (.value (.text "login_name"), (.variant .loginName, [.text "zoe"]))]⟩⟩,
    [[(some ⟨"r", none⟩, d)], [(none, d')]], registered, rfl, rfl, rfl, ?_, ?_⟩
  · simp [key, key']
  · refine selected_of_storeAll (q := ⟨reg, ⟨bindings, false⟩, true⟩) (v := .agent) registered rfl
      (List.forall_mem_cons.mpr ⟨user, List.forall_mem_singleton.mpr role⟩) (by decide) rfl
      (List.forall_mem_cons.mpr ⟨.enabled true,
        List.forall_mem_singleton.mpr (.field .loginName (some "zoe"))⟩) ?_
    intro r given
    cases given
    decide

end Standard

end Principals
