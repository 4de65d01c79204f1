import Mathlib.Data.List.Basic
import Principals.Discriminators
import Principals.Proofs.OrderedMap
import Principals.Proofs.Outcome

/-!
# Runs of token registrations

A registration that fails changes nothing, so what a run leaves is told by the registrations that
succeed. The table of tokens holds for each kind the token that it took last; the table of kinds
still holds every token that was ever taken, under the kind that took it. So the two tables go back
and forth between kinds and tokens as long as no kind takes a second token, and no longer.

From a kind to its token and back nothing is lost: a token stays with the kind that took it first, so
the current token of a kind leads back to the kind, whatever tokens it gave up, and no two kinds have
one token. A query for a kind and those below it therefore asks for as many tokens as kinds.

* `register_cases`: what one registration does;
* `Follows`, `follows_registerAll`: both tables after a run;
* `agrees_iff_of_kindFor`: when a token leads to a kind that leads back to it;
* `forall_agrees_iff`: when all do;
* `kindFor_of_tokenFor`, `eq_of_tokenFor`: what current tokens always do;
* `lists_entries`, `Lists.pairwise`, `current_tokens`: the tokens of a kind and of those below it.
-/

namespace Principals.Discriminators

variable {d : Discriminators} {kind : Kind} {token t : Value} {k : Value.Key}
  {calls grants : List (Kind × Value)}

/-! ## One registration -/

/-- What a registration leaves, whether it fails or not. -/
def afterRegister (d : Discriminators) (call : Kind × Value) : Discriminators :=
  match d.register call.1 call.2 with
  | .ok e => e
  | .error _ => d

/-- What a run of registrations leaves. -/
def registerAll (calls : List (Kind × Value)) : Discriminators := calls.foldl afterRegister {}

/-- The registrations of a run that succeed, in order. -/
def grantedFrom (d : Discriminators) : List (Kind × Value) → List (Kind × Value)
  | [] => []
  | call :: rest => match d.register call.1 call.2 with
    | .ok e => call :: grantedFrom e rest
    | .error _ => grantedFrom d rest

/-- The registrations of a run from the beginning that succeed. -/
def granted (calls : List (Kind × Value)) : List (Kind × Value) := grantedFrom {} calls

/-- A token that can be looked up is registered unless another kind holds it. -/
theorem register_cases (d : Discriminators) (kind : Kind) (token : Value) :
    (∃ e, d.register kind token = .error e) ∨
      ∃ k, token.key? = some k ∧ (∀ holder, d.kinds.find? k = some holder → holder = kind) ∧
        d.register kind token = .ok ⟨d.tokens.insert kind token, d.kinds.insert k kind⟩ := by
  cases given : d.register kind token with
  | error e => exact .inl ⟨e, rfl⟩
  | ok e =>
    obtain ⟨k, keyed, free, rfl⟩ := register_eq_ok given
    exact .inr ⟨k, keyed, free, rfl⟩

/-! ## Runs -/

/-- The token that a kind took last. -/
def lastOf (kind : Kind) (grants : List (Kind × Value)) : Option Value :=
  ((grants.filter (·.1 = kind)).getLast?).map Prod.snd

theorem lastOf_append_self (grants : List (Kind × Value)) (kind : Kind) (token : Value) :
    lastOf kind (grants ++ [(kind, token)]) = some token := by
  simp [lastOf, List.filter_append]

theorem lastOf_append_of_ne (grants : List (Kind × Value)) {j : Kind} (ne : j ≠ kind)
    (token : Value) : lastOf j (grants ++ [(kind, token)]) = lastOf j grants := by
  simp [lastOf, List.filter_append, Ne.symm ne]

theorem mem_of_lastOf (last : lastOf kind grants = some token) : (kind, token) ∈ grants := by
  obtain ⟨⟨j, _⟩, isLast, rfl⟩ := Option.map_eq_some_iff.mp last
  obtain ⟨among, own⟩ := List.mem_filter.mp (List.mem_of_getLast? isLast)
  cases of_decide_eq_true own
  exact among

theorem exists_lastOf (among : (kind, token) ∈ grants) : ∃ last, lastOf kind grants = some last := by
  have some_last : (grants.filter (·.1 = kind)).getLast? ≠ none := by
    rw [ne_eq, List.getLast?_eq_none_iff]
    exact List.ne_nil_of_mem (List.mem_filter.mpr ⟨among, decide_eq_true rfl⟩)
  obtain ⟨last, isLast⟩ := Option.ne_none_iff_exists'.mp some_last
  exact ⟨last.2, by rw [lastOf, isLast, Option.map_some]⟩

/-- The tables that registrations leave: for each kind the last token, for each token the kind. -/
structure Follows (grants : List (Kind × Value)) (d : Discriminators) : Prop where
  token : ∀ kind, d.tokens.find? kind = lastOf kind grants
  kind : ∀ k kind, d.kinds.find? k = some kind ↔
    ∃ token, (kind, token) ∈ grants ∧ token.key? = some k
  keyed : ∀ grant ∈ grants, ∃ k, grant.2.key? = some k

theorem follows_empty : Follows [] {} where
  token := fun _ => rfl
  kind := fun _ _ => ⟨nofun, nofun⟩
  keyed := nofun

/-- A registration that succeeds adds its token to both tables. -/
theorem Follows.insert (follows : Follows grants d) (keyed : token.key? = some k)
    (free : ∀ holder, d.kinds.find? k = some holder → holder = kind) :
    Follows (grants ++ [(kind, token)])
      ⟨d.tokens.insert kind token, d.kinds.insert k kind⟩ where
  token := by
    intro j
    by_cases own : j = kind
    · subst own
      rw [OrderedMap.find?_insert_self, lastOf_append_self]
    · rw [OrderedMap.find?_insert_of_ne _ own, lastOf_append_of_ne grants own, follows.token]
  kind := by
    intro k' j
    have later : (∃ t, (j, t) ∈ grants ++ [(kind, token)] ∧ t.key? = some k') ↔
        (∃ t, (j, t) ∈ grants ∧ t.key? = some k') ∨ j = kind ∧ k' = k := by
      simp only [List.mem_append, List.mem_singleton, Prod.mk.injEq]
      constructor
      · rintro ⟨t, among | ⟨rfl, rfl⟩, is⟩
        · exact .inl ⟨t, among, is⟩
        · exact .inr ⟨rfl, Option.some.inj (is.symm.trans keyed)⟩
      · rintro (⟨t, among, is⟩ | ⟨rfl, rfl⟩)
        · exact ⟨t, .inl among, is⟩
        · exact ⟨token, .inr ⟨rfl, rfl⟩, keyed⟩
    rw [later, ← follows.kind]
    by_cases own : k' = k
    · subst own
      rw [OrderedMap.find?_insert_self, Option.some.injEq]
      constructor
      · rintro rfl
        exact .inr ⟨rfl, rfl⟩
      · rintro (held | ⟨rfl, -⟩)
        · exact (free j held).symm
        · rfl
    · rw [OrderedMap.find?_insert_of_ne _ own]
      exact ⟨.inl, fun h => h.resolve_right fun new => own new.2⟩
  keyed := by
    intro grant among
    rcases List.mem_append.mp among with before | new
    · exact follows.keyed grant before
    · rw [List.mem_singleton.mp new]
      exact ⟨k, keyed⟩

/-- After a run each table tells of the registrations that succeeded. -/
theorem follows_registerAll (calls : List (Kind × Value)) :
    Follows (granted calls) (registerAll calls) := by
  have later : ∀ (d : Discriminators) (before : List (Kind × Value)), Follows before d →
      Follows (before ++ grantedFrom d calls) (calls.foldl afterRegister d) := by
    induction calls with
    | nil =>
      intro d before follows
      rw [grantedFrom, List.append_nil]
      exact follows
    | cons call rest ih =>
      intro d before follows
      rw [List.foldl_cons]
      rcases register_cases d call.1 call.2 with ⟨e, failed⟩ | ⟨k, keyed, free, done⟩
      · have left : afterRegister d call = d := by simp only [afterRegister, failed]
        simp only [grantedFrom, failed, left]
        exact ih d before follows
      · simp only [grantedFrom, afterRegister, done]
        rw [List.append_cons]
        exact ih _ _ (follows.insert keyed free)
  exact later {} [] follows_empty

/-! ## From a token to a kind and back -/

/-- Whether the token of a kind is a given one, or one that is looked up in the same way. -/
def Agrees (d : Discriminators) (kind : Kind) (t : Value) : Prop :=
  ∃ token, d.tokenFor kind = .ok token ∧ token.key? = t.key?

theorem tokenFor_eq_ok_iff : d.tokenFor kind = .ok token ↔ d.tokens.find? kind = some token := by
  unfold tokenFor
  cases d.tokens.find? kind <;> simp

theorem kindFor_eq_ok_iff :
    d.kindFor t = .ok kind ↔ ∃ k, t.key? = some k ∧ d.kinds.find? k = some kind := by
  unfold kindFor tokenKey
  cases t.key? with
  | none => simp [bind, Except.bind]
  | some k =>
    rw [ok_bind]
    cases found : d.kinds.find? k <;> simp [found]

/-- A token that a run registered leads to the kind that took it, whose own token is the one that it
took last. -/
theorem agrees_iff_of_kindFor (known : (registerAll calls).kindFor t = .ok kind) :
    ∃ last, lastOf kind (granted calls) = some last ∧
      (registerAll calls).tokenFor kind = .ok last ∧
      ((registerAll calls).Agrees kind t ↔ last.key? = t.key?) := by
  have follows := follows_registerAll calls
  obtain ⟨k, keyed, held⟩ := kindFor_eq_ok_iff.mp known
  obtain ⟨token, among, -⟩ := (follows.kind k kind).mp held
  obtain ⟨last, isLast⟩ := exists_lastOf among
  have current : (registerAll calls).tokenFor kind = .ok last :=
    tokenFor_eq_ok_iff.mpr ((follows.token kind).trans isLast)
  refine ⟨last, isLast, current, ?_⟩
  constructor
  · rintro ⟨token', given, same⟩
    rw [current] at given
    cases given
    exact same
  · exact fun same => ⟨last, current, same⟩

/-- Registrations by which no kind takes a second token. -/
def Steady (grants : List (Kind × Value)) : Prop :=
  ∀ c ∈ grants, ∀ c' ∈ grants, c.1 = c'.1 → c.2.key? = c'.2.key?

/-- Every token that is known leads to a kind that leads back to it exactly if no kind took a second
token. -/
theorem forall_agrees_iff (calls : List (Kind × Value)) :
    (∀ t kind, (registerAll calls).kindFor t = .ok kind → (registerAll calls).Agrees kind t) ↔
      Steady (granted calls) := by
  have follows := follows_registerAll calls
  constructor
  · intro agrees
    -- Each token that a kind took is known, so it is one with the token that the kind took last.
    have same_as_last : ∀ c ∈ granted calls, ∀ last, lastOf c.1 (granted calls) = some last →
        last.key? = c.2.key? := by
      intro c among last isLast
      obtain ⟨k, keyed⟩ := follows.keyed c among
      have known : (registerAll calls).kindFor c.2 = .ok c.1 :=
        kindFor_eq_ok_iff.mpr ⟨k, keyed, (follows.kind k c.1).mpr ⟨c.2, among, keyed⟩⟩
      obtain ⟨last', isLast', -, iff⟩ := agrees_iff_of_kindFor known
      rw [isLast] at isLast'
      cases isLast'
      exact iff.mp (agrees c.2 c.1 known)
    intro c among c' among' ofKind
    obtain ⟨kind, token⟩ := c
    obtain ⟨last, isLast⟩ := exists_lastOf among
    rw [← same_as_last (kind, token) among last isLast]
    exact same_as_last c' among' last (ofKind ▸ isLast)
  · intro steady t kind known
    obtain ⟨last, isLast, -, iff⟩ := agrees_iff_of_kindFor known
    obtain ⟨k, keyed, held⟩ := kindFor_eq_ok_iff.mp known
    obtain ⟨token, among, is⟩ := (follows.kind k kind).mp held
    refine iff.mpr ?_
    rw [keyed, ← is]
    exact steady _ (mem_of_lastOf isLast) _ among rfl

/-! ## The current tokens -/

theorem tokenFor_registerAll_iff (calls : List (Kind × Value)) :
    (registerAll calls).tokenFor kind = .ok token ↔ lastOf kind (granted calls) = some token := by
  rw [tokenFor_eq_ok_iff, (follows_registerAll calls).token]

/-- The current token of a kind leads back to it. -/
theorem kindFor_of_tokenFor (current : (registerAll calls).tokenFor kind = .ok token) :
    (registerAll calls).kindFor token = .ok kind := by
  have follows := follows_registerAll calls
  have among := mem_of_lastOf ((tokenFor_registerAll_iff calls).mp current)
  obtain ⟨k, keyed⟩ := follows.keyed _ among
  exact kindFor_eq_ok_iff.mpr ⟨k, keyed, (follows.kind k kind).mpr ⟨token, among, keyed⟩⟩

/-- Tokens that are looked up alike are current for one kind only: the table of kinds has one entry
for both. -/
theorem eq_of_tokenFor {j : Kind} (current : (registerAll calls).tokenFor kind = .ok token)
    (other : (registerAll calls).tokenFor j = .ok t) (same : token.key? = t.key?) : kind = j := by
  obtain ⟨k, keyed, held⟩ := kindFor_eq_ok_iff.mp (kindFor_of_tokenFor current)
  obtain ⟨k', keyed', held'⟩ := kindFor_eq_ok_iff.mp (kindFor_of_tokenFor other)
  rw [← same, keyed] at keyed'
  cases keyed'
  exact Option.some.inj (held.symm.trans held')

/-! ## The tokens below a kind -/

/-- A list of the current tokens of the registered kinds among some, one for each kind. -/
def Lists (d : Discriminators) (among : Kind → Prop) (ts : List Value) : Prop :=
  ∃ entries : List (Kind × Value), (entries.map Prod.fst).Nodup ∧
    (∀ j t, (j, t) ∈ entries ↔ among j ∧ d.tokenFor j = .ok t) ∧ ts = entries.map Prod.snd

section
variable {among : Kind → Prop} {ts : List Value}

/-- The table of tokens has one entry for each kind. -/
theorem nodup_registerAll (calls : List (Kind × Value)) : (registerAll calls).tokens.keys.Nodup := by
  have later : ∀ d : Discriminators, d.tokens.keys.Nodup →
      (calls.foldl afterRegister d).tokens.keys.Nodup := by
    induction calls with
    | nil => exact fun _ nodup => nodup
    | cons call rest ih =>
      intro d nodup
      refine ih _ ?_
      rcases register_cases d call.1 call.2 with ⟨e, failed⟩ | ⟨k, -, -, done⟩
      · simp only [afterRegister, failed]
        exact nodup
      · simp only [afterRegister, done]
        exact OrderedMap.nodup_keys_insert _ _ _ nodup
  exact later {} List.nodup_nil

/-- The entries of the table of tokens, chosen by their kinds, list the tokens of those kinds. -/
theorem lists_entries (nodup : d.tokens.keys.Nodup) (among : Kind → Prop) [DecidablePred among] :
    d.Lists among ((d.tokens.entries.filter fun e => among e.1).map Prod.snd) := by
  refine ⟨_, nodup.sublist (List.filter_sublist.map Prod.fst), fun j t => ?_, rfl⟩
  rw [List.mem_filter, OrderedMap.mem_entries_iff nodup, decide_eq_true_iff, and_comm,
    tokenFor_eq_ok_iff]

/-- The token of one more kind may stand in front of a list. -/
theorem Lists.cons (lists : d.Lists among ts) (other : ¬ among kind)
    (current : d.tokenFor kind = .ok token) :
    d.Lists (fun j => j = kind ∨ among j) (token :: ts) := by
  obtain ⟨entries, nodup, are, rfl⟩ := lists
  refine ⟨(kind, token) :: entries, List.nodup_cons.mpr ⟨fun again => ?_, nodup⟩, fun j t => ?_, rfl⟩
  · obtain ⟨⟨j, t⟩, isEntry, rfl⟩ := List.mem_map.mp again
    exact other ((are j t).mp isEntry).1
  · rw [List.mem_cons, are, Prod.mk.injEq]
    constructor
    · rintro (⟨rfl, rfl⟩ | ⟨isAmong, given⟩)
      · exact ⟨.inl rfl, current⟩
      · exact ⟨.inr isAmong, given⟩
    · rintro ⟨rfl | isAmong, given⟩
      · rw [current] at given
        cases given
        exact .inl ⟨rfl, rfl⟩
      · exact .inr ⟨isAmong, given⟩

/-- Tokens that are listed differ from each other. -/
theorem Lists.pairwise (lists : (registerAll calls).Lists among ts) :
    ts.Pairwise fun t t' => t.key? ≠ t'.key? := by
  obtain ⟨entries, nodup, are, rfl⟩ := lists
  rw [List.pairwise_map]
  refine (List.pairwise_map.mp nodup).imp_of_mem fun {e e'} isEntry isEntry' ne same => ne ?_
  exact eq_of_tokenFor ((are e.1 e.2).mp isEntry).2 ((are e'.1 e'.2).mp isEntry').2 same

end

/-- After any run of registrations, failed ones and new tokens of a kind included: the token of a
kind is the one that it took last; it leads back to the kind; and no two kinds have tokens that are
looked up alike. What is asked for by a registered kind is its token alone or, in any hierarchy,
that token followed by the current tokens of the registered kinds properly below it, one for each of
them, no two alike. -/
theorem current_tokens (calls : List (Kind × Value)) :
    (∀ kind token, (registerAll calls).tokenFor kind = .ok token ↔
      lastOf kind (granted calls) = some token) ∧
    (∀ kind token, (registerAll calls).tokenFor kind = .ok token →
      (registerAll calls).kindFor token = .ok kind) ∧
    (∀ kind j token t, (registerAll calls).tokenFor kind = .ok token →
      (registerAll calls).tokenFor j = .ok t → token.key? = t.key? → kind = j) ∧
    (∀ kind includeSubkinds, (registerAll calls).tokensFor kind includeSubkinds =
      (registerAll calls).tokensUnder Kind.isSubkindOf kind includeSubkinds) ∧
    ∀ below kind token, (registerAll calls).tokenFor kind = .ok token →
      (registerAll calls).tokensUnder below kind false = .ok [token] ∧
      ∃ ts, (registerAll calls).tokensUnder below kind true = .ok (token :: ts) ∧
        (registerAll calls).Lists (fun j => j ≠ kind ∧ below j kind = true) ts ∧
        (token :: ts).Pairwise fun t t' => t.key? ≠ t'.key? := by
  refine ⟨fun _ _ => tokenFor_registerAll_iff calls, fun _ _ => kindFor_of_tokenFor,
    fun _ _ _ _ => eq_of_tokenFor, fun _ _ => rfl, fun below kind token current => ?_⟩
  have lists := lists_entries (nodup_registerAll calls)
    fun j => j ≠ kind ∧ below j kind = true
  have apart := (lists.cons (fun own => own.1 rfl) current).pairwise
  refine ⟨?_, _, ?_, lists, apart⟩
  · rw [tokensUnder, current]
    rfl
  · rw [tokensUnder, current]
    rfl

/-- Agents that took a second token, and a role that was refused that of the users. -/
example : (registerAll [(.agent, .text "A"), (.user, .text "U"), (.agent, .text "B"),
    (.role, .text "U")]).tokensFor .agent true = .ok [.text "B", .text "U"] := rfl

end Principals.Discriminators
