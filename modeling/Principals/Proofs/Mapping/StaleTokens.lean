import Principals.Proofs.Discriminators
import Principals.Proofs.Mapping.DerivedKinds

/-!
# Records under a token that was given up

A record is restored by the mapper of the kind that its token leads to, and that mapper accepts the
current token of the kind only. When a kind takes a second token, the first still leads to the kind:
the records that were made under it are dispatched to a mapper that refuses them, and no other kind
can take the token.

* `enrollAll_discriminators`: a registry's tokens follow its registrations;
* `exists_variant_of_known`, `restore_of_other_token`: the mapper of a record whose token is known;
* `tokens_agree_iff`: when every known token is the current one of its kind.
-/

namespace Principals.Registry

open Discriminators (registerAll granted Steady Agrees)

variable {b : Bindings} {resolver : Option RealmResolver} {vs : List Variant} {s : Store}
  {id : RecordId} {kind : Kind} {t : Value}

/-- The registrations of tokens that registering variants comes to. -/
def tokenCalls (vs : List Variant) : List (Kind × Value) :=
  vs.map fun v => (v.kind, .text v.discriminator)

theorem afterEnroll_discriminators (reg : Registry) (v : Variant) :
    (reg.afterEnroll v).discriminators =
      reg.discriminators.afterRegister (v.kind, .text v.discriminator) := by
  rw [Registry.afterEnroll, enroll_run, Discriminators.afterRegister, register]
  cases reg.discriminators.register v.kind (.text v.discriminator) <;> rfl

/-- The tokens of a registry are those that its registrations leave. -/
theorem enrollAll_discriminators (b : Bindings) (resolver : Option RealmResolver)
    (vs : List Variant) :
    (enrollAll b resolver vs).discriminators = registerAll (tokenCalls vs) := by
  have later : ∀ reg : Registry, (vs.foldl Registry.afterEnroll reg).discriminators =
      (tokenCalls vs).foldl Discriminators.afterRegister reg.discriminators := by
    induction vs with
    | nil => exact fun _ => rfl
    | cons v rest ih =>
      intro reg
      rw [List.foldl_cons, ih, afterEnroll_discriminators]
      rfl
  exact later _

theorem eq_text_of_key? {v : Value} {text : String} (key : v.key? = some (.text text)) :
    v = .text text := by
  cases v with
  | float x | moment d =>
    simp only [Value.key?, Option.some.injEq] at key
    split at key <;> cases key
  | _ => simp_all [Value.key?]

/-- Where a registration has left a token that leads to a kind, the kind has a variant. -/
theorem exists_variant_of_known (b : Bindings) (resolver : Option RealmResolver)
    {vs : List Variant}
    (known : (enrollAll b resolver vs).discriminators.kindFor t = .ok kind) :
    ∃ v, (enrollAll b resolver vs).variants.find? kind = some v ∧ v.kind = kind ∧
      (enrollAll b resolver vs).discriminators.tokenFor kind = .ok (.text v.discriminator) := by
  have coherent := coherent_enrollAll b resolver vs
  have current : ∃ last, (enrollAll b resolver vs).discriminators.tokenFor kind = .ok last := by
    rw [enrollAll_discriminators] at known ⊢
    obtain ⟨last, -, current, -⟩ := Discriminators.agrees_iff_of_kindFor known
    exact ⟨last, current⟩
  obtain ⟨last, current⟩ := current
  have entry := Discriminators.tokenFor_eq_ok_iff.mp current
  rw [coherent.token] at entry
  obtain ⟨v, found, rfl⟩ := Option.map_eq_some_iff.mp entry
  exact ⟨v, found, coherent.variant kind v found, current⟩

/-- A mapper refuses a record whose token is not that of its variant. -/
theorem restore_of_other_token {m : Mapper} {t : Value}
    (read : m.bindings.read s id Property.discriminator true = .ok t)
    (other : t ≠ .text m.variant.discriminator) (realm : Option Realm) :
    m.restore realm s id =
      .error (.integrity (.discriminatorMismatch t m.variant.discriminator)) := by
  simp only [Mapper.restore, read, ok_bind, if_pos other]
  rfl

/-- After any run of registrations of tokens, every token that is known leads to a kind whose own
token it is, exactly if no kind took two tokens in the run. The same in a registry after any
registrations of variants: a record whose token is known is dispatched to the mapper of a registered
variant; if no kind took two tokens, the mapper writes and accepts the token of the record; and
whenever the token is not the one that it writes, it refuses the record. -/
theorem tokens_agree_iff (calls : List (Kind × Value)) (b : Bindings)
    (resolver : Option RealmResolver) (vs : List Variant) :
    ((∀ t kind, (registerAll calls).kindFor t = .ok kind → (registerAll calls).Agrees kind t) ↔
      Steady (granted calls)) ∧
    ∀ s id t kind, b.read s id Property.discriminator true = .ok t →
      (enrollAll b resolver vs).discriminators.kindFor t = .ok kind →
      ∃ m, (enrollAll b resolver vs).forRecord s id = .ok m ∧ m.variant.kind = kind ∧
        m.discriminators.tokenFor kind = .ok (.text m.variant.discriminator) ∧
        (Steady (granted (tokenCalls vs)) → t = .text m.variant.discriminator) ∧
        (t ≠ .text m.variant.discriminator → ∀ realm,
          (enrollAll b resolver vs).restore realm s id =
            .error (.integrity (.discriminatorMismatch t m.variant.discriminator))) := by
  refine ⟨Discriminators.forall_agrees_iff calls, fun s id t kind read known => ?_⟩
  obtain ⟨v, found, ofKind, current⟩ := exists_variant_of_known b resolver known
  have overBindings := enrollAll_bindings b resolver vs
  have dispatched : (enrollAll b resolver vs).forRecord s id =
      .ok ((enrollAll b resolver vs).mapperOf v) := by
    simp only [forRecord, overBindings, read, ok_bind, known]
    exact forKind_eq_ok_iff.mpr ⟨v, found, rfl⟩
  refine ⟨_, dispatched, ofKind, current, fun steady => ?_, fun other realm => ?_⟩
  · rw [enrollAll_discriminators] at known current
    obtain ⟨token, given, same⟩ :=
      (Discriminators.forall_agrees_iff (tokenCalls vs)).mpr steady t kind known
    rw [current] at given
    cases given
    exact eq_text_of_key? same.symm
  · have refused := restore_of_other_token (m := (enrollAll b resolver vs).mapperOf v)
      (by rw [mapperOf, overBindings]; exact read) other realm
    simp only [restore, dispatched, ok_bind]
    exact refused

/-- Users that take a token, try for that of the roles, and take their own again. -/
theorem tokens_agree_steady :
    (∀ t kind, (registerAll [(.user, .text "USER"), (.role, .text "ROLE"), (.user, .text "ROLE"),
        (.user, .text "USER")]).kindFor t = .ok kind →
      (registerAll [(.user, .text "USER"), (.role, .text "ROLE"), (.user, .text "ROLE"),
        (.user, .text "USER")]).Agrees kind t) := by
  refine (tokens_agree_iff _ Standard.bindings none []).1.mpr ?_
  have grants : granted [(Kind.user, .text "USER"), (.role, .text "ROLE"), (.user, .text "ROLE"),
      (.user, .text "USER")] =
      [(Kind.user, .text "USER"), (.role, .text "ROLE"), (.user, .text "USER")] := rfl
  rw [grants]
  unfold Steady
  decide

/-- Users under a token of their own choice. -/
def userVariant (token : String) : Variant := ⟨.user, .user, token, "user"⟩

/-- Users that took a second token: the first still leads to them, but is not theirs. No other kind
can take it, and a record that was made under it is refused. -/
theorem stale_token_of_user :
    (registerAll [(.user, .text "A"), (.user, .text "B")]).kindFor (.text "A") = .ok .user ∧
    (registerAll [(.user, .text "A"), (.user, .text "B")]).tokenFor .user = .ok (.text "B") ∧
    ¬ (registerAll [(.user, .text "A"), (.user, .text "B")]).Agrees .user (.text "A") ∧
    (registerAll [(.user, .text "A"), (.user, .text "B")]).register .group (.text "A") =
      .error (.configuration (.tokenTaken (.text "A") "User" "Group")) ∧
    ∃ d id s, Principal.create ⟨.epoch, none⟩ .user [("login_name", .text "zoe")] = .ok d ∧
      ((enrollAll Standard.bindings none [userVariant "A"]).create none d).outcome
        ⟨Standard.catalog, [], []⟩ = (.ok id, s) ∧
      (enrollAll Standard.bindings none [userVariant "A", userVariant "B"]).restore none s id =
        .error (.integrity (.discriminatorMismatch (.text "A") "B")) := by
  refine ⟨rfl, rfl, ?_, rfl, _, _, _, rfl, rfl, rfl⟩
  rintro ⟨token, given, same⟩
  cases given
  exact absurd same (by decide)

end Principals.Registry
