import Principals.Failure
import Principals.Kind
import Principals.OrderedMap

/-!
# Discriminators

Every registered kind has a token, by which stored records tell their kind. `Discriminators` holds
both directions: the tokens of kinds in the order of first registration, and the kinds of tokens.
A token stays with the kind that took it first, also when that kind later takes another one.

Which kinds lie below another one is a matter of the hierarchy that they are part of, and what is
asked of the tokens takes it as given: `tokensUnder` in any hierarchy, `tokensFor` in that of the
derivations.

* `register_eq_ok`: when a registration succeeds, and what it changes.
-/

namespace Principals

/-- The tokens of kinds and the kinds of tokens. -/
structure Discriminators where
  tokens : OrderedMap Kind Value := ∅
  kinds : OrderedMap Value.Key Kind := ∅
deriving DecidableEq, Repr

namespace Discriminators

/-- The key under which a token is held. -/
def tokenKey (token : Value) : Except Failure Value.Key :=
  match token.key? with
  | some k => .ok k
  | none => .error .wrongType

/-- Gives a kind a token, which no other kind may hold. -/
def register (d : Discriminators) (kind : Kind) (token : Value) :
    Except Failure Discriminators := do
  let k ← tokenKey token
  match d.kinds.find? k with
  | some holder =>
    if holder = kind then .ok ⟨d.tokens.insert kind token, d.kinds.insert k kind⟩
    else .error (.configuration (.tokenTaken token holder.name kind.name))
  | none => .ok ⟨d.tokens.insert kind token, d.kinds.insert k kind⟩

/-- The current token of a kind. -/
def tokenFor (d : Discriminators) (kind : Kind) : Except Failure Value :=
  match d.tokens.find? kind with
  | some token => .ok token
  | none => .error (.configuration (.kindUnregistered kind.name))

/-- The kind that holds a token. -/
def kindFor (d : Discriminators) (token : Value) : Except Failure Kind := do
  let k ← tokenKey token
  match d.kinds.find? k with
  | some kind => .ok kind
  | none => .error (.configuration (.tokenUnknown token))

/-- The tokens of the registered kinds properly below a kind in a hierarchy, in order of
registration. -/
def subkindTokens (below : Kind → Kind → Bool) (d : Discriminators) (kind : Kind) : List Value :=
  (d.tokens.entries.filter fun e => e.1 ≠ kind ∧ below e.1 kind).map Prod.snd

/-- The token of a kind and, if asked for, those of the registered kinds that lie properly below it
in a hierarchy. -/
def tokensUnder (below : Kind → Kind → Bool) (d : Discriminators) (kind : Kind)
    (includeSubkinds : Bool) : Except Failure (List Value) := do
  let token ← d.tokenFor kind
  .ok (token :: if includeSubkinds then d.subkindTokens below kind else [])

/-- The token of a kind and, if asked for, those of the kinds derived from it. -/
def tokensFor (d : Discriminators) (kind : Kind) (includeSubkinds : Bool) :
    Except Failure (List Value) :=
  d.tokensUnder Kind.isSubkindOf kind includeSubkinds

/-! ## What a registration changes -/

theorem register_eq_ok {d e : Discriminators} {kind : Kind} {token : Value}
    (h : d.register kind token = .ok e) :
    ∃ k, token.key? = some k ∧ (∀ j, d.kinds.find? k = some j → j = kind) ∧
      e = ⟨d.tokens.insert kind token, d.kinds.insert k kind⟩ := by
  unfold register tokenKey at h
  cases hk : token.key? with
  | none => simp [hk, bind, Except.bind] at h
  | some k =>
    simp only [hk, bind, Except.bind] at h
    refine ⟨k, rfl, ?_⟩
    split at h
    · next holder found =>
      split at h
      · next same =>
        cases h
        refine ⟨fun j hj => ?_, rfl⟩
        rw [found] at hj
        cases hj
        exact same
      · cases h
    · next found =>
      cases h
      refine ⟨fun j hj => ?_, rfl⟩
      rw [found] at hj
      cases hj

end Discriminators

end Principals
