import Principals.Proofs.OrderedMap
import Principals.Proofs.Query.Kinds

/-!
# What was last given

A query is told, call by call, the values of its parameters; an attribute is named with or without
blanks around it. Of all the calls only the values last given to each parameter count, and a query
is the conjunction of what these ask for. So two queries that were last given the same can both be
built or neither, and select the same records; one more parameter selects no more of them, and a
parameter that asks for something and is given no value selects none.

* `Query.mem_values_iff`: the parameters of a query are those that were given values, with the
  values last given;
* `QueryBuilder.exists_built_iff`, `QueryBuilder.mem_of_built`: a query can be built if each of its
  parameters can be, and consists of what they become;
* `QueryBuilder.decided_by_last_given`: queries that were last given the same.
-/

namespace Principals

/-! ## Words -/

theorem IdentityParameter.word_inj {p q : IdentityParameter} : p.word = q.word ↔ p = q := by
  constructor
  · intro same
    have given := ofWord?_word p
    rw [same, ofWord?_word] at given
    exact (Option.some.inj given).symm
  · exact congrArg word

theorem VariantParameter.word_inj {p q : VariantParameter} : p.word = q.word ↔ p = q := by
  constructor
  · intro same
    have given := ofWord?_word p
    rw [same, ofWord?_word] at given
    exact (Option.some.inj given).symm
  · exact congrArg word

/-- No word stands both for a shared field and for a field of a variant. -/
theorem IdentityParameter.word_ne_word (p : IdentityParameter) (q : VariantParameter) :
    p.word ≠ q.word := by
  cases p <;> cases q <;> decide

namespace Query

/-! ## Calls -/

/-- What a caller names to give values: a parameter on a shared field, one on a field of a variant,
or an attribute. -/
inductive Ask
  | identity (p : IdentityParameter)
  | variant (p : VariantParameter)
  | named (name : String)
deriving DecidableEq, Repr

namespace Ask

/-- The parameter that is made of what is named. -/
def read : Ask → Except Failure Parameter
  | identity p => .ok (.identity p)
  | variant p => .ok (.variant p)
  | named name => Parameter.ofName (.text name)

/-- The parameter that is meant: blanks around the name of an attribute do not count. -/
def parameter : Ask → Parameter
  | identity p => .identity p
  | variant p => .variant p
  | named name => .named (Text.trim name)

/-- The key of the parameter that is meant. -/
def key : Ask → Parameter.Key
  | identity p => .value (.text p.word)
  | variant p => .value (.text p.word)
  | named name => .named (Text.trim name)

theorem read_eq (a : Ask) : a.read = .ok a.parameter := by cases a <;> rfl

theorem key?_parameter (a : Ask) : a.parameter.key? = some a.key := by cases a <;> rfl

/-- Parameters have the same key only if they are the same. -/
theorem key_eq_iff {a b : Ask} : a.key = b.key ↔ a.parameter = b.parameter := by
  cases a <;> cases b <;> simp [key, parameter, IdentityParameter.word_inj,
    VariantParameter.word_inj, IdentityParameter.word_ne_word, Ne.symm]

end Ask

/-- The query after it is given values for a parameter. -/
def tell (query : Query) (call : Ask × List Value) : Except Failure Query := do
  let p ← call.1.read
  query.set p call.2

/-- The query for a kind after some calls. -/
def ofCalls (kind : Kind) (calls : List (Ask × List Value)) : Except Failure Query :=
  calls.foldlM tell { kind }

/-- The values that were last given to a parameter. -/
def lastGiven (calls : List (Ask × List Value)) (p : Parameter) : Option (List Value) :=
  (calls.filter fun call => call.1.parameter = p).getLast?.map Prod.snd

variable {query : Query} {kind : Kind} {calls : List (Ask × List Value)} {a : Ask}
  {p : Parameter} {values : List Value}

theorem lastGiven_append (calls : List (Ask × List Value)) (a : Ask) (values : List Value)
    (p : Parameter) : lastGiven (calls ++ [(a, values)]) p =
      if p = a.parameter then some values else lastGiven calls p := by
  rw [lastGiven, List.filter_append]
  by_cases same : p = a.parameter
  · rw [List.filter_cons_of_pos (by simp [same]), if_pos same]
    simp
  · rw [List.filter_cons_of_neg (by simpa using Ne.symm same), if_neg same]
    simp [lastGiven]

/-- Whether every parameter of a query stands under its own key, as it was first named. -/
def Named (query : Query) : Prop :=
  ∀ k p values, query.parameters.find? k = some (p, values) → ∃ a : Ask, a.key = k ∧ a.parameter = p

theorem named_empty (kind : Kind) : Named { kind } := by
  intro k p values found
  change (∅ : OrderedMap _ _).find? k = _ at found
  rw [OrderedMap.find?_empty] at found
  cases found

/-- What a call writes. -/
def entry (call : Ask × List Value) : Parameter.Key × (Parameter × List Value) :=
  (call.1.key, (call.1.parameter, call.2))

/-- A call writes its parameter with its values. -/
theorem tell_eq (named : query.Named) (call : Ask × List Value) :
    query.tell call = .ok { query with
      parameters := query.parameters.insert (entry call).1 (entry call).2 } := by
  obtain ⟨a, values⟩ := call
  -- a parameter that is already there was given under the same key, so it is this one
  have first : ((query.parameters.find? a.key).map Prod.fst).getD a.parameter = a.parameter := by
    cases found : query.parameters.find? a.key with
    | none => rfl
    | some e =>
      obtain ⟨b, sameKey, isFirst⟩ := named a.key e.1 e.2 found
      exact isFirst.symm.trans (Ask.key_eq_iff.mp sameKey)
  rw [tell, Ask.read_eq, ok_bind, set, Ask.key?_parameter]
  dsimp only
  rw [first]
  rfl

theorem Named.tell (named : query.Named) (call : Ask × List Value) :
    Named { query with
      parameters := query.parameters.insert (entry call).1 (entry call).2 } := by
  intro k p values found
  change (query.parameters.insert _ _).find? k = _ at found
  rw [OrderedMap.find?_insert] at found
  split at found
  · next own =>
    cases found
    exact ⟨call.1, own.symm, rfl⟩
  · exact named k p values found

/-- Calls write their parameters with their values, one after the other. -/
theorem foldlM_tell (named : query.Named) (calls : List (Ask × List Value)) :
    let told : Query := { query with parameters := query.parameters.insertAll (calls.map entry) }
    calls.foldlM tell query = .ok told ∧ told.Named := by
  induction calls generalizing query with
  | nil => exact ⟨rfl, named⟩
  | cons call rest ih =>
    rw [List.foldlM_cons, tell_eq named call, ok_bind]
    exact ih (named.tell call)

theorem ofCalls_spec (kind : Kind) (calls : List (Ask × List Value)) :
    ofCalls kind calls = .ok ⟨kind, .ofList (calls.map entry)⟩ ∧
      Named ⟨kind, .ofList (calls.map entry)⟩ :=
  foldlM_tell (named_empty kind) calls

theorem kind_of_ofCalls (told : ofCalls kind calls = .ok query) : query.kind = kind := by
  rw [(ofCalls_spec kind calls).1] at told
  cases told
  rfl

/-- One more call is told to the query that the calls so far have made. -/
theorem tell_of_ofCalls (told : ofCalls kind calls = .ok query) (call : Ask × List Value) :
    query.tell call = ofCalls kind (calls ++ [call]) := by
  rw [ofCalls, List.foldlM_append]
  rw [ofCalls] at told
  rw [told, ok_bind, List.foldlM_cons]
  cases query.tell call <;> rfl

/-- The parameters of a query are those that were given values, each with the values last given. -/
theorem mem_values_iff (told : ofCalls kind calls = .ok query) :
    (p, values) ∈ query.parameters.values ↔ lastGiven calls p = some values := by
  obtain ⟨isTold, named⟩ := ofCalls_spec kind calls
  rw [isTold] at told
  cases told
  have found (a : Ask) : (OrderedMap.ofList (calls.map entry)).find? a.key =
      (calls.filter fun call => call.1.parameter = a.parameter).getLast?.map
        fun call => (call.1.parameter, call.2) := by
    rw [OrderedMap.ofList, OrderedMap.find?_insertAll, OrderedMap.find?_empty, Option.or_none,
      List.filter_map, List.getLast?_map, Option.map_map]
    simp only [Function.comp_def, entry, Ask.key_eq_iff]
  have nodup : (OrderedMap.ofList (calls.map entry)).keys.Nodup :=
    OrderedMap.nodup_keys_insertAll (m := ∅) List.nodup_nil _
  constructor
  · intro among
    obtain ⟨⟨k, _⟩, isEntry, rfl⟩ := List.mem_map.mp among
    have under := (OrderedMap.mem_entries_iff nodup).mp isEntry
    obtain ⟨a, rfl, rfl⟩ := named k p values under
    rw [found, Option.map_eq_some_iff] at under
    obtain ⟨call, last, same⟩ := under
    rw [lastGiven, last, Option.map_some, congrArg Prod.snd same]
  · intro given
    obtain ⟨call, last, rfl⟩ := Option.map_eq_some_iff.mp given
    have own : call.1.parameter = p := by
      simpa using (List.mem_filter.mp (List.mem_of_getLast? last)).2
    subst own
    have under := found call.1
    rw [last, Option.map_some] at under
    exact List.mem_map_of_mem ((OrderedMap.mem_entries_iff nodup).mpr under)

end Query

/-! ## Building -/

/-- Whether a form asks for something by a parameter. -/
def Variant.Form.Recognises (form : Variant.Form) : Parameter → Prop
  | .identity _ | .named _ => True
  | .variant p => (form.queryProperty? p).isSome = true
  | .unknown _ => False

/-- What is asked for without a value holds of nothing. -/
theorem Compiler.compile_nil (k : Compiler) (s : Store) {form : Variant.Form} {p : Parameter}
    (recognised : form.Recognises p) : k.compile s p [] (some form) = .ok [.never] := by
  cases p with
  | identity p => rfl
  | named name =>
    have none_given : k.effective [] = .ok [] := by
      rw [effective, Value.distinct?_nil]
      cases k.distinct <;> rfl
    rw [compile, attributePredicate, none_given]
    rfl
  | variant p =>
    obtain ⟨property, declared⟩ := Option.isSome_iff_exists.mp recognised
    simp only [compile, Option.bind_some, declared]
    rfl
  | unknown v => exact recognised.elim

namespace QueryBuilder

variable {q : QueryBuilder} {query : Query} {kind : Kind} {scope : Option Realm} {s : Store}
  {form : Variant.Form} {params : List (Parameter × List Value)} {ps : List Predicate}

/-- Each parameter becomes predicates, or they all fail. -/
theorem exists_parameterPredicates_iff :
    (∃ ps, q.parameterPredicates s form params = .ok ps) ↔
      ∀ e ∈ params, ∃ ps, q.compiler.compile s e.1 e.2 (some form) = .ok ps := by
  induction params with
  | nil => simp [parameterPredicates]
  | cons e rest ih =>
    rw [List.forall_mem_cons, ← ih]
    simp only [parameterPredicates, bind_eq_ok, Except.ok.injEq]
    constructor
    · intro h
      rcases h with ⟨_, ps, compiled, more, others, -⟩
      exact ⟨⟨ps, compiled⟩, more, others⟩
    · intro h
      rcases h with ⟨⟨ps, compiled⟩, more, others⟩
      exact ⟨_, ps, compiled, more, others, rfl⟩

theorem mem_of_parameterPredicates (done : q.parameterPredicates s form params = .ok ps)
    (p : Predicate) : p ∈ ps ↔
      ∃ e ∈ params, ∃ qs, q.compiler.compile s e.1 e.2 (some form) = .ok qs ∧ p ∈ qs := by
  induction params generalizing ps with
  | nil =>
    cases done
    simp
  | cons e rest ih =>
    obtain ⟨qs, compiled, more, others, given⟩ : ∃ qs, q.compiler.compile s e.1 e.2 (some form) =
        .ok qs ∧ ∃ more, q.parameterPredicates s form rest = .ok more ∧ qs ++ more = ps := by
      simpa only [parameterPredicates, bind_eq_ok, Except.ok.injEq] using done
    subst given
    rw [List.mem_append, ih others]
    simp only [List.exists_mem_cons_iff, compiled, Except.ok.injEq, exists_eq_left']

/-- What a query asks for apart from its parameters, with the form of its kind. -/
def frame (q : QueryBuilder) (kind : Kind) (scope : Option Realm) :
    StoreM (List Predicate × Variant.Form) := do
  let m ← StoreM.lift (q.registry.forKind kind)
  let tokens ← StoreM.lift (q.registry.discriminators.tokensFor kind q.includeSubkinds)
  let first ← StoreM.lift (tokenPredicate q.registry.bindings tokens)
  let scopes ← Standard.scopePredicates q scope
  return (first :: scopes, m.variant.form)

theorem predicates_eq_frame (q : QueryBuilder) (query : Query) (scope : Option Realm) :
    q.predicates query scope = (do
      let framed ← q.frame query.kind scope
      let more ← StoreM.ask fun s => q.parameterPredicates s framed.2 query.parameters.values
      return framed.1 ++ more) := by
  rw [Standard.predicates_eq, frame]
  simp only [bind_assoc, pure_bind, List.cons_append]

/-- The form is that of the registered variant. -/
theorem form_of_frame {v : Variant} (known : q.registry.variants.find? kind = some v)
    {framed : List Predicate × Variant.Form} {u : Store}
    (done : (q.frame kind scope).outcome s = (.ok framed, u)) : framed.2 = v.form := by
  obtain ⟨m, _, chosen, done⟩ := StoreM.outcome_bind_eq_ok.mp done
  obtain ⟨_, _, -, done⟩ := StoreM.outcome_bind_eq_ok.mp done
  obtain ⟨_, _, -, done⟩ := StoreM.outcome_bind_eq_ok.mp done
  obtain ⟨_, _, -, done⟩ := StoreM.outcome_bind_eq_ok.mp done
  obtain ⟨w, isKnown, rfl⟩ := Registry.forKind_eq_ok_iff.mp (congrArg Prod.fst chosen)
  rw [known] at isKnown
  cases isKnown
  cases done
  rfl

/-- The predicates of a query, or the failure to build them. -/
def built (q : QueryBuilder) (query : Query) (scope : Option Realm) (s : Store) :
    Except Failure (List Predicate) :=
  ((q.predicates query scope).outcome s).1

theorem built_eq_ok_iff : q.built query scope s = .ok ps ↔ ∃ framed u more,
    (q.frame query.kind scope).outcome s = (.ok framed, u) ∧
      q.parameterPredicates u framed.2 query.parameters.values = .ok more ∧
      ps = framed.1 ++ more := by
  rw [built, predicates_eq_frame]
  constructor
  · intro done
    obtain ⟨framed, u, isFramed, rest⟩ := StoreM.outcome_bind_eq_ok.mp (Prod.ext done rfl)
    obtain ⟨more, u', asked, given⟩ := StoreM.outcome_bind_eq_ok.mp rest
    cases given
    exact ⟨framed, u, more, isFramed, congrArg Prod.fst asked, rfl⟩
  · intro h
    rcases h with ⟨framed, u, more, isFramed, asked, rfl⟩
    have isAsked : (StoreM.ask fun u => q.parameterPredicates u framed.2
        query.parameters.values).outcome u = (.ok more, u) := by
      rw [StoreM.outcome_ask, asked]
    rw [StoreM.outcome_bind_ok isFramed, StoreM.outcome_bind_ok isAsked]
    rfl

/-- A query can be built if each of its parameters can be. -/
theorem exists_built_iff : (∃ ps, q.built query scope s = .ok ps) ↔ ∃ framed u,
    (q.frame query.kind scope).outcome s = (.ok framed, u) ∧
      ∀ e ∈ query.parameters.values,
        ∃ ps, q.compiler.compile u e.1 e.2 (some framed.2) = .ok ps := by
  simp only [built_eq_ok_iff, ← exists_parameterPredicates_iff]
  constructor
  · intro h
    rcases h with ⟨_, framed, u, more, isFramed, asked, -⟩
    exact ⟨framed, u, isFramed, more, asked⟩
  · intro h
    rcases h with ⟨framed, u, isFramed, more, asked⟩
    exact ⟨_, framed, u, more, isFramed, asked, rfl⟩

/-- A query consists of what it asks for anyway and of what its parameters become. -/
theorem mem_of_built {framed : List Predicate × Variant.Form} {u : Store}
    (isFramed : (q.frame query.kind scope).outcome s = (.ok framed, u))
    (done : q.built query scope s = .ok ps) (p : Predicate) :
    p ∈ ps ↔ p ∈ framed.1 ∨ ∃ e ∈ query.parameters.values, ∃ qs,
      q.compiler.compile u e.1 e.2 (some framed.2) = .ok qs ∧ p ∈ qs := by
  obtain ⟨framed', u', more, isFramed', asked, rfl⟩ := built_eq_ok_iff.mp done
  rw [isFramed] at isFramed'
  cases isFramed'
  rw [List.mem_append, mem_of_parameterPredicates asked]

/-- A query with fewer parameters asks for no more. -/
theorem exists_built_of_subset {narrow wide : Query} (sameKind : narrow.kind = wide.kind)
    (fewer : wide.parameters.values ⊆ narrow.parameters.values)
    (done : q.built narrow scope s = .ok ps) :
    ∃ qs, q.built wide scope s = .ok qs ∧ qs ⊆ ps := by
  obtain ⟨framed, u, isFramed, compiles⟩ := exists_built_iff.mp ⟨ps, done⟩
  have isFramed' := sameKind ▸ isFramed
  obtain ⟨qs, done'⟩ := exists_built_iff.mpr
    ⟨framed, u, isFramed', fun e among => compiles e (fewer among)⟩
  refine ⟨qs, done', fun p among => (mem_of_built isFramed done p).mpr ?_⟩
  rcases (mem_of_built isFramed' done' p).mp among with anyway | ⟨e, isEntry, compiled⟩
  · exact .inl anyway
  · exact .inr ⟨e, fewer isEntry, compiled⟩

/-! ## Comparing queries -/

/-- Whether two queries can both be built or neither, and select the same of every store. -/
structure Alike (q : QueryBuilder) (query query' : Query) (scope : Option Realm) (s : Store) :
    Prop where
  fails : (∃ e, q.built query scope s = .error e) ↔ ∃ e, q.built query' scope s = .error e
  selects : ∀ ps ps', q.built query scope s = .ok ps → q.built query' scope s = .ok ps' →
    ∀ t found u, (q.run ps).outcome t = (.ok found, u) ↔ (q.run ps').outcome t = (.ok found, u)

/-- Whether a query can only be built if another can, and selects of every store only what that one
does. -/
structure Narrows (q : QueryBuilder) (narrow wide : Query) (scope : Option Realm) (s : Store) :
    Prop where
  builds : ∀ ps, q.built narrow scope s = .ok ps → ∃ ps', q.built wide scope s = .ok ps'
  selects : ∀ ps ps', q.built narrow scope s = .ok ps → q.built wide scope s = .ok ps' →
    ∀ t found u, (q.run ps).outcome t = (.ok found, u) → ∀ id ∈ found,
      ∃ found', (q.run ps').outcome t = (.ok found', u) ∧ id ∈ found'

/-- Whether a query can be built if another can, and selects nothing of any store. -/
structure Empties (q : QueryBuilder) (emptied query : Query) (scope : Option Realm) (s : Store) :
    Prop where
  builds : ∀ ps, q.built query scope s = .ok ps → ∃ ps', q.built emptied scope s = .ok ps'
  selects : ∀ ps, q.built emptied scope s = .ok ps → ∀ t u, t.flush [] = .ok u →
    (q.run ps).outcome t = (.ok [], u)

/-- The same predicates select the same, whatever their order. -/
theorem run_of_mem_iff {ps ps' : List Predicate} (same : ∀ p, p ∈ ps ↔ p ∈ ps') (t : Store)
    (found : List RecordId) (u : Store) :
    (q.run ps).outcome t = (.ok found, u) ↔ (q.run ps').outcome t = (.ok found, u) := by
  simp only [outcome_run_eq_ok_iff, Store.select_eq_ok_iff_of_any, Store.Sendable, same,
    Store.matching_of_mem_iff same]

/-- More predicates select no more. -/
theorem run_of_subset {ps ps' : List Predicate} (fewer : ps' ⊆ ps) {t u : Store}
    {found : List RecordId} (done : (q.run ps).outcome t = (.ok found, u)) {id : RecordId}
    (among : id ∈ found) : ∃ found', (q.run ps').outcome t = (.ok found', u) ∧ id ∈ found' := by
  obtain ⟨flushed, selected⟩ := outcome_run_eq_ok_iff.mp done
  obtain ⟨sent, rfl⟩ := Store.select_eq_ok_iff_of_any.mp selected
  -- where something was selected every predicate may hold, so that all values were sent
  have possible : .never ∉ ps := fun never => by
    rw [Store.matching_of_never never] at among
    cases among
  have sendable := sent.resolve_left possible
  refine ⟨_, outcome_run_eq_ok_iff.mpr ⟨flushed, Store.select_eq_ok_iff_of_any.mpr
    ⟨.inr fun p isOne => sendable p (fewer isOne), rfl⟩⟩, ?_⟩
  obtain ⟨cls, row, stored, named, holds⟩ := Store.mem_matching_iff.mp among
  exact Store.mem_matching_iff.mpr ⟨cls, row, stored, named, fun p isOne => holds p (fewer isOne)⟩

theorem run_of_never (among : .never ∈ ps) {t u : Store} (flushed : t.flush [] = .ok u) :
    (q.run ps).outcome t = (.ok [], u) := by
  rw [outcome_run_eq_ok_iff, Store.select_eq_ok_iff_of_any, Store.matching_of_never among]
  exact ⟨flushed, .inl among, rfl⟩

theorem Alike.of_mem_iff {query query' : Query} (sameKind : query.kind = query'.kind)
    (same : ∀ e, e ∈ query.parameters.values ↔ e ∈ query'.parameters.values) :
    q.Alike query query' scope s where
  fails := by
    have builds : (∃ ps, q.built query scope s = .ok ps) ↔
        ∃ ps, q.built query' scope s = .ok ps := by
      simp only [exists_built_iff, same, sameKind]
    cases done : q.built query scope s <;> cases done' : q.built query' scope s <;>
      simp_all
  selects := by
    intro ps ps' done done'
    obtain ⟨qs, isDone, fewer⟩ := exists_built_of_subset sameKind
      (fun e among => (same e).mpr among) done
    obtain ⟨qs', isDone', fewer'⟩ := exists_built_of_subset sameKind.symm
      (fun e among => (same e).mp among) done'
    rw [done'] at isDone
    cases isDone
    rw [done] at isDone'
    cases isDone'
    exact run_of_mem_iff fun p => ⟨fun among => fewer' among, fun among => fewer among⟩

theorem Narrows.of_subset {narrow wide : Query} (sameKind : narrow.kind = wide.kind)
    (fewer : wide.parameters.values ⊆ narrow.parameters.values) :
    q.Narrows narrow wide scope s where
  builds := by
    intro ps done
    obtain ⟨ps', done', -⟩ := exists_built_of_subset sameKind fewer done
    exact ⟨ps', done'⟩
  selects := by
    intro ps ps' done done' t found u ran id among
    obtain ⟨qs, isDone, fewer'⟩ := exists_built_of_subset sameKind fewer done
    rw [done'] at isDone
    cases isDone
    exact run_of_subset fewer' ran among

theorem Empties.of_nil {v : Variant} {emptied : Query} {p : Parameter}
    (known : q.registry.variants.find? query.kind = some v) (sameKind : emptied.kind = query.kind)
    (recognised : v.form.Recognises p) (among : (p, []) ∈ emptied.parameters.values)
    (others : ∀ e ∈ emptied.parameters.values, e = (p, []) ∨ e ∈ query.parameters.values) :
    q.Empties emptied query scope s where
  builds := by
    intro ps done
    obtain ⟨framed, u, isFramed, compiles⟩ := exists_built_iff.mp ⟨ps, done⟩
    refine exists_built_iff.mpr ⟨framed, u, sameKind ▸ isFramed, fun e isEntry => ?_⟩
    rcases others e isEntry with rfl | before
    · rw [form_of_frame known isFramed]
      exact ⟨_, q.compiler.compile_nil u recognised⟩
    · exact compiles e before
  selects := by
    intro ps done t u flushed
    obtain ⟨framed, u', isFramed, -⟩ := exists_built_iff.mp ⟨ps, done⟩
    refine run_of_never ((mem_of_built isFramed done .never).mpr (.inr ⟨_, among, [.never], ?_,
      List.mem_singleton_self _⟩)) flushed
    rw [form_of_frame (sameKind ▸ known) isFramed]
    exact q.compiler.compile_nil u' recognised

/-- **What was last given decides.** Queries for a kind that were last given the same values for
each parameter can both be built or neither, and select the same. A parameter that was not given any
before narrows what is selected, and one that the kind knows and that is given no value empties
it. -/
theorem decided_by_last_given (q : QueryBuilder) {v : Variant}
    (known : q.registry.variants.find? kind = some v)
    {calls calls' : List (Query.Ask × List Value)}
    (same : ∀ p, Query.lastGiven calls p = Query.lastGiven calls' p) (scope : Option Realm)
    (s : Store) :
    ∃ query query', Query.ofCalls kind calls = .ok query ∧ Query.ofCalls kind calls' = .ok query' ∧
      q.Alike query query' scope s ∧
      ∀ (a : Query.Ask) values, ∃ next, query.tell (a, values) = .ok next ∧
        (Query.lastGiven calls a.parameter = none → q.Narrows next query scope s) ∧
        (v.form.Recognises a.parameter → values = [] → q.Empties next query scope s) := by
  obtain ⟨query, told⟩ : ∃ query, Query.ofCalls kind calls = .ok query :=
    ⟨_, (Query.ofCalls_spec kind calls).1⟩
  obtain ⟨query', told'⟩ : ∃ query, Query.ofCalls kind calls' = .ok query :=
    ⟨_, (Query.ofCalls_spec kind calls').1⟩
  have isKind := Query.kind_of_ofCalls told
  refine ⟨query, query', told, told', ?_, fun a values => ?_⟩
  · refine Alike.of_mem_iff (isKind.trans (Query.kind_of_ofCalls told').symm) fun e => ?_
    rw [Query.mem_values_iff told, Query.mem_values_iff told', same]
  · obtain ⟨next, toldNext⟩ : ∃ next, Query.ofCalls kind (calls ++ [(a, values)]) = .ok next :=
      ⟨_, (Query.ofCalls_spec kind _).1⟩
    have sameKind : next.kind = query.kind := (Query.kind_of_ofCalls toldNext).trans isKind.symm
    have mem_next (p : Parameter) (vs : List Value) : (p, vs) ∈ next.parameters.values ↔
        (if p = a.parameter then some values else Query.lastGiven calls p) = some vs := by
      rw [Query.mem_values_iff toldNext, Query.lastGiven_append]
    refine ⟨next, (Query.tell_of_ofCalls told _).trans toldNext, fun unset => ?_, ?_⟩
    · refine Narrows.of_subset sameKind fun e among => ?_
      obtain ⟨p, vs⟩ := e
      rw [Query.mem_values_iff told] at among
      have other : p ≠ a.parameter := by
        rintro rfl
        rw [unset] at among
        cases among
      rw [mem_next, if_neg other, among]
    · rintro recognised rfl
      refine Empties.of_nil (isKind ▸ known) sameKind recognised ?_ fun e among => ?_
      · rw [mem_next, if_pos rfl]
      · obtain ⟨p, vs⟩ := e
        rw [mem_next] at among
        split at among
        · next own =>
          cases among
          exact .inl (by rw [own])
        · exact .inr ((Query.mem_values_iff told).mpr among)

/-- A role that was named with blanks around it, and then again without them. -/
theorem decided_by_role : ∃ (q : QueryBuilder) (v : Variant),
    Registry.withBuiltins Standard.bindings (some .stored) = .ok q.registry ∧
    q.registry.variants.find? .user = some v ∧
    let calls : List (Query.Ask × List Value) := [(.named " role ", [.text "guest"]),
      (.identity .enabled, [.bool true]), (.named "role", [.text "admin"])]
    let calls' : List (Query.Ask × List Value) := [(.named "role", [.text "admin"]),
      (.identity .enabled, [.bool true])]
    (∀ p, Query.lastGiven calls p = Query.lastGiven calls' p) ∧
    ∃ query query', Query.ofCalls .user calls = .ok query ∧
      Query.ofCalls .user calls' = .ok query' ∧ q.Alike query query' none (Standard.ofRealms []) ∧
      ∃ emptied, query.tell (.variant .email, []) = .ok emptied ∧
        q.Narrows emptied query none (Standard.ofRealms []) ∧
        q.Empties emptied query none (Standard.ofRealms []) := by
  obtain ⟨reg, v, registered, known, recognised⟩ : ∃ reg v,
      Registry.withBuiltins Standard.bindings (some .stored) = .ok reg ∧
      reg.variants.find? .user = some v ∧ v.form.Recognises (.variant .email) :=
    ⟨_, _, rfl, rfl, rfl⟩
  have same : ∀ p, Query.lastGiven [(.named " role ", [.text "guest"]),
      (.identity .enabled, [.bool true]), (.named "role", [.text "admin"])] p =
      Query.lastGiven [(.named "role", [.text "admin"]), (.identity .enabled, [.bool true])] p := by
    intro p
    have trimmed : (Query.Ask.named " role ").parameter = (Query.Ask.named "role").parameter := rfl
    have apart : (Query.Ask.named "role").parameter ≠ (Query.Ask.identity .enabled).parameter :=
      nofun
    by_cases role : (Query.Ask.named "role").parameter = p
    · simp [Query.lastGiven, trimmed, ← role, apart.symm]
    · by_cases enabled : (Query.Ask.identity .enabled).parameter = p <;>
        simp [Query.lastGiven, trimmed, role, enabled]
  obtain ⟨query, query', told, told', alike, next⟩ := decided_by_last_given
    ⟨reg, ⟨Standard.bindings, false⟩, true⟩ known same none (Standard.ofRealms [])
  obtain ⟨emptied, isTold, narrows, empties⟩ := next (.variant .email) []
  exact ⟨_, v, registered, known, same, query, query', told, told', alike, emptied, isTold,
    narrows rfl, empties recognised rfl⟩

end QueryBuilder

end Principals
