import Principals.Mapping.Registry
import Principals.Proofs.OrderedMap

/-!
# The registry with the built-in variants

No two built-in variants share a kind or a discriminator, so registering them in turn never fails,
whatever the bindings and the resolver are: each kind keeps its own variant, and its token leads
back to it.

* `ServesBuiltins.of_withBuiltins`: what such a registry answers;
* `Variant.mem_tokens_iff`: the tokens under which a query for a kind looks.
-/

namespace Principals

namespace Variant

/-- The discriminators of a variant and, if asked for, of the built-in ones whose kinds are derived
from its own. -/
def tokens (v : Variant) (includeSubkinds : Bool) : List String :=
  v.discriminator :: if includeSubkinds then
    (builtins.filter fun w => w.kind ≠ v.kind ∧ w.kind.isSubkindOf v.kind).map discriminator
  else []

/-- A built-in variant is among them if its kind is the one asked for or derived from it. -/
theorem mem_tokens_iff : ∀ v ∈ builtins, ∀ w ∈ builtins, ∀ includeSubkinds : Bool,
    w.discriminator ∈ v.tokens includeSubkinds ↔
      w.kind = v.kind ∨ includeSubkinds = true ∧ w.kind.isSubkindOf v.kind = true := by
  decide

end Variant

namespace Registry

/-- A registry over some bindings in which every built-in kind has its own variant and token. -/
structure ServesBuiltins (b : Bindings) (resolver : Option RealmResolver) (reg : Registry) :
    Prop where
  bindings : reg.bindings = b
  resolver : reg.resolver = resolver
  variant : ∀ v ∈ Variant.builtins, reg.variants.find? v.kind = some v
  token : ∀ v ∈ Variant.builtins, reg.discriminators.tokenFor v.kind = .ok (.text v.discriminator)
  kind : ∀ v ∈ Variant.builtins, reg.discriminators.kindFor (.text v.discriminator) = .ok v.kind
  tokens : ∀ v ∈ Variant.builtins, ∀ includeSubkinds,
    reg.discriminators.tokensFor v.kind includeSubkinds =
      .ok ((v.tokens includeSubkinds).map .text)

variable {b : Bindings} {resolver : Option RealmResolver} {reg : Registry}

theorem ServesBuiltins.of_withBuiltins (made : withBuiltins b resolver = .ok reg) :
    reg.ServesBuiltins b resolver := by
  cases made
  refine ⟨rfl, rfl, ?_, ?_, ?_, ?_⟩
  all_goals
    intro v builtin
    rw [Variant.mem_builtins_iff] at builtin
    rcases builtin with rfl | rfl | rfl | rfl
  all_goals
    first
    | rfl
    | exact fun includeSubkinds => by cases includeSubkinds <;> rfl

theorem ServesBuiltins.forKind (serves : reg.ServesBuiltins b resolver) {v : Variant}
    (builtin : v ∈ Variant.builtins) :
    reg.forKind v.kind = .ok ⟨v, b, reg.discriminators, resolver⟩ := by
  simp only [Registry.forKind, serves.variant v builtin, mapperOf, serves.bindings,
    serves.resolver]

/-- Such a registry has the variants of the built-in kinds only. -/
theorem exists_of_forKind {kind : Kind} {m : Mapper} (made : withBuiltins b resolver = .ok reg)
    (chosen : reg.forKind kind = .ok m) :
    ∃ v ∈ Variant.builtins, v.kind = kind ∧ m = ⟨v, b, reg.discriminators, resolver⟩ := by
  have serves := ServesBuiltins.of_withBuiltins made
  unfold Registry.forKind at chosen
  split at chosen
  · next v found =>
    cases chosen
    have entries : reg.variants.entries = Variant.builtins.map fun v => (v.kind, v) := by
      cases made
      rfl
    have among := OrderedMap.mem_of_find? found
    rw [entries] at among
    obtain ⟨w, builtin, eq⟩ := List.mem_map.mp among
    cases eq
    exact ⟨v, builtin, rfl, by rw [mapperOf, serves.bindings, serves.resolver]⟩
  · cases chosen

end Registry

end Principals
