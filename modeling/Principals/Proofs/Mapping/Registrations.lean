import Mathlib.Data.Set.List
import Principals.Mapping.Registry
import Principals.Proofs.Outcome
import Principals.Proofs.OrderedMap

/-!
# Runs of registrations

A registration looks a token up and then writes three tables, one after the other: the tokens of
kinds, the kinds of tokens, the variants of kinds. `Registry.enroll` does it in these steps, each of
which stands even if a later one fails; `enroll_run` says that none of them does, so that it comes
to `Registry.register`. A registry goes through any number of registrations, failed ones included.

A kind that is registered again leaves its earlier token in the second table. What holds of the
three tables all the same is `Registry.Coherent`: the current token of each kind leads back to it.

* `enroll_run`, `register_cases`: what a registration does;
* `Coherent.afterEnroll`, `coherent_enrollAll`: one registration, and a run of them;
* `Coherent.kindFor`, `Coherent.discriminator_inj`, `Coherent.exists_tokensUnder`: what the
  registry then answers, whichever kinds lie below each other.
-/

namespace Principals

/-- Something done with a registry: it may fail, and what it did until then stays done. -/
abbrev RegistryM := ExceptT Failure (StateM Registry)

/-- The rest of a sequence runs in the registry left by a success, and a failure ends it. -/
theorem RegistryM.run_bind {α β : Type} (m : RegistryM α) (f : α → RegistryM β) (reg : Registry) :
    (m >>= f).run.run reg = match m.run.run reg with
      | (.ok a, reg') => (f a).run.run reg'
      | (.error e, reg') => (.error e, reg') := by
  change (m.run.run reg >>= fun p => (ExceptT.bindCont f p.1).run p.2 : Id _) = _
  rcases eq : m.run.run reg with ⟨_ | a, reg'⟩ <;> rfl

namespace Registry

/-- Looks up who holds the token of a variant; it must be free or held by the variant's kind. -/
def claimToken (v : Variant) : RegistryM Value.Key := ExceptT.mk fun reg =>
  (do
    let k ← Discriminators.tokenKey (.text v.discriminator)
    match reg.discriminators.kinds.find? k with
    | some holder =>
      if holder = v.kind then .ok k
      else .error (.configuration (.tokenTaken (.text v.discriminator) holder.name v.kind.name))
    | none => .ok k, reg)

/-- Writes the tables for a variant, and gives its mapper. -/
def writeTables (v : Variant) (k : Value.Key) : RegistryM Mapper := do
  modify fun reg => { reg with discriminators.tokens :=
    reg.discriminators.tokens.insert v.kind (.text v.discriminator) }
  modify fun reg => { reg with discriminators.kinds :=
    reg.discriminators.kinds.insert k v.kind }
  modify fun reg => { reg with variants := reg.variants.insert v.kind v }
  return (← get).mapperOf v

/-- Registers a variant in the order in which the tables are written. -/
def enroll (v : Variant) : RegistryM Mapper := do
  let k ← claimToken v
  writeTables v k

/-- What a registration leaves, whether it fails or not. -/
def afterEnroll (reg : Registry) (v : Variant) : Registry := ((enroll v).run.run reg).2

/-- What a run of registrations leaves of an empty registry. -/
def enrollAll (b : Bindings) (resolver : Option RealmResolver) (vs : List Variant) : Registry :=
  vs.foldl afterEnroll { bindings := b, resolver }

variable {reg : Registry} {v w : Variant} {kind : Kind} {b : Bindings}
  {resolver : Option RealmResolver} {vs : List Variant}

/-! ## One registration -/

/-- A registration succeeds unless another kind holds the token, and then writes each table. -/
theorem register_cases (reg : Registry) (v : Variant) :
    (∃ holder, reg.discriminators.kinds.find? (.text v.discriminator) = some holder ∧
      holder ≠ v.kind ∧ reg.register v = .error
        (.configuration (.tokenTaken (.text v.discriminator) holder.name v.kind.name))) ∨
    (∀ holder, reg.discriminators.kinds.find? (.text v.discriminator) = some holder →
      holder = v.kind) ∧
      reg.register v = .ok { reg with
        discriminators :=
          ⟨reg.discriminators.tokens.insert v.kind (.text v.discriminator),
            reg.discriminators.kinds.insert (.text v.discriminator) v.kind⟩
        variants := reg.variants.insert v.kind v } := by
  have key : Discriminators.tokenKey (.text v.discriminator) = .ok (.text v.discriminator) := rfl
  cases held : reg.discriminators.kinds.find? (.text v.discriminator) with
  | none =>
    refine .inr ⟨nofun, ?_⟩
    simp only [register, Discriminators.register, key, held, ok_bind]
  | some holder =>
    by_cases same : holder = v.kind
    · refine .inr ⟨fun _ given => Option.some.inj given ▸ same, ?_⟩
      simp only [register, Discriminators.register, key, held, ok_bind, if_pos same]
    · refine .inl ⟨holder, rfl, same, ?_⟩
      simp only [register, Discriminators.register, key, held, ok_bind, if_neg same]
      rfl

theorem claimToken_run (reg : Registry) (v : Variant) : (claimToken v).run.run reg =
    (match reg.discriminators.kinds.find? (.text v.discriminator) with
      | some holder =>
        if holder = v.kind then .ok (.text v.discriminator)
        else .error (.configuration (.tokenTaken (.text v.discriminator) holder.name v.kind.name))
      | none => .ok (.text v.discriminator), reg) := rfl

/-- Registering step by step is registering at once: a failure comes before anything is written. -/
theorem enroll_run (reg : Registry) (v : Variant) :
    (enroll v).run.run reg = match reg.register v with
      | .ok reg' => (.ok (reg'.mapperOf v), reg')
      | .error e => (.error e, reg) := by
  have claim := claimToken_run reg v
  rcases register_cases reg v with ⟨holder, held, other, failed⟩ | ⟨free, done⟩
  · rw [held] at claim
    simp only [if_neg other] at claim
    rw [failed, enroll, RegistryM.run_bind, claim]
  · have claimed : (claimToken v).run.run reg = (.ok (.text v.discriminator), reg) := by
      rw [claim]
      cases held : reg.discriminators.kinds.find? (.text v.discriminator) with
      | none => rfl
      | some holder => simp only [if_pos (free holder held)]
    rw [done, enroll, RegistryM.run_bind, claimed]
    rfl

/-- A registration that fails leaves the registry as it is. -/
theorem eq_of_enroll_error {e : Failure} {reg' : Registry}
    (failed : (enroll v).run.run reg = (.error e, reg')) : reg' = reg := by
  rw [enroll_run] at failed
  cases given : reg.register v with
  | error e' =>
    rw [given] at failed
    exact (congrArg Prod.snd failed).symm
  | ok reg'' =>
    rw [given] at failed
    cases failed

/-! ## What every registration keeps -/

/-- The tables of a registry agree: the tokens are those of the variants, each under its own kind,
and the current token of a kind leads back to it. -/
structure Coherent (reg : Registry) : Prop where
  token : ∀ kind, reg.discriminators.tokens.find? kind =
    (reg.variants.find? kind).map fun v => .text v.discriminator
  variant : ∀ kind v, reg.variants.find? kind = some v → v.kind = kind
  holder : ∀ kind v, reg.variants.find? kind = some v →
    reg.discriminators.kinds.find? (.text v.discriminator) = some kind
  nodup : reg.discriminators.tokens.keys.Nodup

theorem coherent_empty (b : Bindings) (resolver : Option RealmResolver) :
    Coherent { bindings := b, resolver } where
  token := fun _ => rfl
  variant := fun _ _ => nofun
  holder := fun _ _ => nofun
  nodup := .nil

/-- A registration keeps the tables in agreement. The token that it writes was free or held by its
own kind, so that no other kind loses the one that leads back to it. -/
theorem Coherent.afterEnroll (coherent : reg.Coherent) (v : Variant) :
    (reg.afterEnroll v).Coherent := by
  rw [Registry.afterEnroll, enroll_run]
  rcases register_cases reg v with ⟨holder, -, -, failed⟩ | ⟨free, done⟩
  · rw [failed]
    exact coherent
  · rw [done]
    refine ⟨fun kind => ?_, fun kind w found => ?_, fun kind w found => ?_,
      OrderedMap.nodup_keys_insert _ _ _ coherent.nodup⟩
    · by_cases own : kind = v.kind
      · subst own
        simp only [OrderedMap.find?_insert_self, Option.map_some]
      · simp only [OrderedMap.find?_insert_of_ne _ own, coherent.token kind]
    · by_cases own : kind = v.kind
      · subst own
        rw [OrderedMap.find?_insert_self] at found
        cases found
        rfl
      · rw [OrderedMap.find?_insert_of_ne _ own] at found
        exact coherent.variant kind w found
    · by_cases own : kind = v.kind
      · subst own
        rw [OrderedMap.find?_insert_self] at found
        cases found
        exact OrderedMap.find?_insert_self _ _ _
      · rw [OrderedMap.find?_insert_of_ne _ own] at found
        have held := coherent.holder kind w found
        -- were it the token just written, its holder would be the kind that is registered
        have other : Value.Key.text w.discriminator ≠ .text v.discriminator := fun same =>
          own (free kind (same ▸ held))
        exact (OrderedMap.find?_insert_of_ne _ other _).trans held

theorem afterEnroll_bindings (reg : Registry) (v : Variant) :
    (reg.afterEnroll v).bindings = reg.bindings ∧
      (reg.afterEnroll v).resolver = reg.resolver := by
  rw [Registry.afterEnroll, enroll_run]
  rcases register_cases reg v with ⟨holder, -, -, failed⟩ | ⟨-, done⟩
  · rw [failed]
    exact ⟨rfl, rfl⟩
  · rw [done]
    exact ⟨rfl, rfl⟩

/-- After any run of registrations the tables agree. -/
theorem coherent_enrollAll (b : Bindings) (resolver : Option RealmResolver) (vs : List Variant) :
    (enrollAll b resolver vs).Coherent := by
  have later : ∀ reg : Registry, reg.Coherent → (vs.foldl Registry.afterEnroll reg).Coherent := by
    induction vs with
    | nil => exact fun _ coherent => coherent
    | cons v rest ih => exact fun reg coherent => ih _ (coherent.afterEnroll v)
  exact later _ (coherent_empty b resolver)

theorem enrollAll_bindings (b : Bindings) (resolver : Option RealmResolver) (vs : List Variant) :
    (enrollAll b resolver vs).bindings = b := by
  have later : ∀ reg : Registry,
      (vs.foldl Registry.afterEnroll reg).bindings = reg.bindings := by
    induction vs with
    | nil => exact fun _ => rfl
    | cons v rest ih => exact fun reg => (ih _).trans (afterEnroll_bindings reg v).1
  exact later _

/-! ## What the registry answers -/

/-- Whether a variant is registered for a kind that a query for `kind` asks for over a hierarchy. -/
structure Offers (below : Kind → Kind → Bool) (reg : Registry) (kind : Kind)
    (includeSubkinds : Bool) (v : Variant) : Prop where
  registered : reg.variants.find? v.kind = some v
  asked : v.kind = kind ∨ includeSubkinds = true ∧ below v.kind kind = true

theorem Offers.atOrBelow {below : Kind → Kind → Bool} {includeSubkinds : Bool}
    (offers : reg.Offers below kind includeSubkinds v) :
    v.kind = kind ∨ below v.kind kind = true :=
  offers.asked.imp_right And.right

theorem forKind_eq_ok_iff {m : Mapper} :
    reg.forKind kind = .ok m ↔ ∃ v, reg.variants.find? kind = some v ∧ m = reg.mapperOf v := by
  unfold forKind
  cases reg.variants.find? kind with
  | none => simp
  | some v => simp [eq_comm]

namespace Coherent

/-- A kind that is found is that of its variant. -/
theorem registered (coherent : reg.Coherent) (found : reg.variants.find? kind = some v) :
    reg.variants.find? v.kind = some v := by
  rw [coherent.variant kind v found]
  exact found

/-- The token of a registered variant leads back to its kind. -/
theorem kindFor (coherent : reg.Coherent) (found : reg.variants.find? v.kind = some v) :
    reg.discriminators.kindFor (.text v.discriminator) = .ok v.kind := by
  have key : Discriminators.tokenKey (.text v.discriminator) = .ok (.text v.discriminator) := rfl
  simp only [Discriminators.kindFor, key, ok_bind, coherent.holder v.kind v found]

/-- No two registered variants have the same token. -/
theorem discriminator_inj (coherent : reg.Coherent) (found : reg.variants.find? v.kind = some v)
    (found' : reg.variants.find? w.kind = some w) (same : v.discriminator = w.discriminator) :
    v.kind = w.kind := by
  have held := coherent.holder v.kind v found
  rw [same, coherent.holder w.kind w found'] at held
  exact (Option.some.inj held).symm

theorem tokenFor (coherent : reg.Coherent) (found : reg.variants.find? kind = some v) :
    reg.discriminators.tokenFor kind = .ok (.text v.discriminator) := by
  rw [Discriminators.tokenFor, coherent.token, found]
  rfl

section
variable (below : Kind → Kind → Bool)

/-- A query for a registered kind alone looks for its token. -/
theorem tokensUnder_alone (coherent : reg.Coherent) (found : reg.variants.find? kind = some v) :
    reg.discriminators.tokensUnder below kind false = .ok ([v.discriminator].map .text) := by
  rw [Discriminators.tokensUnder, coherent.tokenFor found]
  rfl

/-- The tokens of the registered kinds properly below a kind. -/
theorem mem_subkindTokens (coherent : reg.Coherent) {token : Value} :
    token ∈ reg.discriminators.subkindTokens below kind ↔
      ∃ w, reg.variants.find? w.kind = some w ∧ w.kind ≠ kind ∧ below w.kind kind = true ∧
        .text w.discriminator = token := by
  rw [Discriminators.subkindTokens, List.mem_map]
  constructor
  · rintro ⟨⟨j, _⟩, among, rfl⟩
    obtain ⟨entry, proper⟩ := List.mem_filter.mp among
    obtain ⟨ne, derived⟩ := of_decide_eq_true proper
    have current := OrderedMap.find?_of_mem coherent.nodup entry
    rw [coherent.token] at current
    obtain ⟨w, found, is⟩ := Option.map_eq_some_iff.mp current
    cases coherent.variant j w found
    exact ⟨w, found, ne, derived, is⟩
  · rintro ⟨w, found, ne, derived, rfl⟩
    have current := coherent.token w.kind
    rw [found] at current
    exact ⟨(w.kind, .text w.discriminator),
      List.mem_filter.mpr ⟨OrderedMap.mem_of_find? current, decide_eq_true ⟨ne, derived⟩⟩,
        rfl⟩

/-- A query for a registered kind looks for the tokens of the variants that it asks for. -/
theorem exists_tokensUnder (coherent : reg.Coherent) (known : reg.variants.find? kind = some v)
    (includeSubkinds : Bool) :
    ∃ ts : List String,
      reg.discriminators.tokensUnder below kind includeSubkinds = .ok (ts.map .text) ∧
      ∀ t, t ∈ ts ↔ ∃ w, reg.Offers below kind includeSubkinds w ∧ w.discriminator = t := by
  have own : v.kind = kind := coherent.variant kind v known
  obtain ⟨others, isText⟩ : reg.discriminators.subkindTokens below kind ∈
      Set.range (List.map .text) := by
    rw [Set.range_list_map]
    intro token among
    obtain ⟨w, -, -, -, is⟩ := (coherent.mem_subkindTokens below).mp among
    exact ⟨w.discriminator, is⟩
  have mem_others : ∀ t, t ∈ others ↔ ∃ w, reg.variants.find? w.kind = some w ∧ w.kind ≠ kind ∧
      below w.kind kind = true ∧ w.discriminator = t := by
    intro t
    rw [← List.mem_map_of_injective (f := Value.text) fun _ _ same => Value.text.inj same, isText,
      coherent.mem_subkindTokens below]
    simp only [Value.text.injEq]
  refine ⟨v.discriminator :: if includeSubkinds then others else [], ?_, fun t => ?_⟩
  · rw [Discriminators.tokensUnder, coherent.tokenFor known, ok_bind, List.map_cons]
    cases includeSubkinds
    · rfl
    · simp only [if_true, isText]
  · rw [List.mem_cons]
    constructor
    · rintro (rfl | among)
      · exact ⟨v, ⟨coherent.registered known, .inl own⟩, rfl⟩
      · cases includeSubkinds with
        | false => cases among
        | true =>
          obtain ⟨w, found, -, derived, rfl⟩ := (mem_others t).mp among
          exact ⟨w, ⟨found, .inr ⟨rfl, derived⟩⟩, rfl⟩
    · rintro ⟨w, offers, rfl⟩
      by_cases same : w.kind = kind
      · have isOwn := offers.registered
        rw [same, known] at isOwn
        cases isOwn
        exact .inl rfl
      · obtain ⟨rfl, derived⟩ := offers.asked.resolve_left same
        exact .inr ((mem_others _).mpr ⟨w, offers.registered, same, derived, rfl⟩)

end

end Coherent

end Registry

end Principals
