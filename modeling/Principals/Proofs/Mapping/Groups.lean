import Principals.Proofs.Mapping.GroupName
import Principals.Proofs.Mapping.Restoring

/-!
# Groups that were made

A group is restored in two steps: its path names it first, and that name is checked as any other;
then the stored name takes its place. So a group comes back with every field that it went in with, if
its path can name it at all, and not otherwise: a last segment that is blank or too long for a name
is refused, although the stored name is valid.

* `Registry.outcome_create_restores`: when a new record restores its principal;
* `Registry.restore_create_group`: when the record of a group restores it.
-/

namespace Principals.Registry

variable {s : Store} {d : Principal} {resolver : Option RealmResolver} {reg : Registry}
  {realm : Option Realm} {now : Time.DateTime} {fields : List (String × Value)}

/-- The record that a registry makes of a principal of a built-in kind restores it exactly if its
profile can be restored. -/
theorem outcome_create_restores {v : Variant}
    (registered : withBuiltins Standard.bindings resolver = .ok reg)
    (builtin : v ∈ Variant.builtins) (constructed : d.Constructed v.kind)
    (reaches : ∀ r ∈ realm, ∃ x, resolver = some x ∧ x.Finds Standard.bindings s r) :
    ∃ s', (reg.create realm d).outcome s = (.ok s.records.length, s') ∧
      (d.profile.Restorable → reg.restore realm s' s.records.length =
        .ok (d.recalled Standard.bindings realm)) ∧
      ∀ e, reg.restore realm s' s.records.length = .ok e → d.profile.Restorable := by
  have serves := ServesBuiltins.of_withBuiltins registered
  have chosen : reg.forKind d.kind = .ok ⟨v, Standard.bindings, reg.discriminators, resolver⟩ := by
    rw [constructed.kind]
    exact serves.forKind builtin
  have token : reg.discriminators.tokenFor d.kind = .ok (.text v.discriminator) := by
    rw [constructed.kind]
    exact serves.token v builtin
  obtain ⟨s', made, holds⟩ := Mapper.outcome_create
    (m := ⟨v, Standard.bindings, reg.discriminators, resolver⟩) (s := s)
    Standard.create_standard Standard.bindings_separate (Variant.fits_of_builtin v builtin) token
    rfl constructed reaches
  have chooses : reg.restore realm s' s.records.length =
      (Mapper.mk v Standard.bindings reg.discriminators resolver).restore realm s'
        s.records.length :=
    serves.restore_eq Standard.create_standard Standard.bindings_separate builtin holds
  have named : Standard.bindings.isBound Property.name = true := by decide
  refine ⟨s', ?_, fun restorable => ?_, fun e restored => ?_⟩
  · rw [create, StoreM.outcome_bind_ok (by rw [StoreM.outcome_lift, chosen])]
    exact made
  · rw [chooses]
    exact Mapper.restore_of_holds (m := ⟨v, Standard.bindings, reg.discriminators, resolver⟩)
      Standard.create_standard Standard.bindings_separate builtin (fun _ => named)
      (constructed.recoverable builtin restorable) holds realm
  · rw [chooses] at restored
    exact Mapper.restorable_of_restore (m := ⟨v, Standard.bindings, reg.discriminators, resolver⟩)
      Standard.create_standard Standard.bindings_separate builtin (fun _ => named) constructed holds
      restored

/-- The record that a registry of the built-in variants makes of a group that its constructor gave
restores the group exactly if its path can name it: under the same key, path and name, with
everything else as `Principal.recalled` has it. The realm is none or one that the resolver finds. -/
theorem restore_create_group
    (registered : withBuiltins Standard.bindings resolver = .ok reg)
    (built : Principal.create now .group fields = .ok d)
    (reaches : ∀ r ∈ realm, ∃ x, resolver = some x ∧ x.Finds Standard.bindings s r) :
    ∃ id s' name path, (reg.create realm d).outcome s = (.ok id, s') ∧
      d.profile = .group (.text name) (.text path) ∧
      ((∃ e, reg.restore realm s' id = .ok e) ↔ Variant.NamesGroup path) ∧
      ∀ e, reg.restore realm s' id = .ok e →
        e.kind = .group ∧ e.key = d.key ∧ e.profile = d.profile ∧ e.enabled = d.enabled ∧
          e.createdDate = d.createdDate.orUtc ∧ e.expirationDate = d.expirationDate.orUtc ∧
          e.partition = (realm.map Value.realm).getD .null := by
  have builtin : Variant.group ∈ Variant.builtins := by decide
  have constructed := Principal.Constructed.of_create built
  -- The profile is restorable exactly if the path can name the group.
  obtain ⟨name, path, profile, nameable⟩ : ∃ name path,
      d.profile = .group (.text name) (.text path) ∧
        (d.profile.Restorable ↔ Variant.NamesGroup path) := by
    have profile := constructed.profile
    generalize d.profile = p at profile
    cases profile with
    | @group name path valid trimmed nonempty =>
      exact ⟨name, path, rfl, Variant.exists_readName_groupName_iff valid⟩
  obtain ⟨s', run, recalls, needs⟩ :=
    outcome_create_restores (s := s) registered builtin constructed reaches
  refine ⟨s.records.length, s', name, path, run, profile, ?_, fun e restored => ?_⟩
  · rw [← nameable]
    constructor
    · intro h
      rcases h with ⟨e, restored⟩
      exact needs e restored
    · exact fun restorable => ⟨_, recalls restorable⟩
  · rw [recalls (needs e restored)] at restored
    cases restored
    refine ⟨constructed.kind, d.key_recalled _ _, ?_, rfl, rfl, ?_, rfl⟩
    · rw [Principal.recalled, profile]
      rfl
    · exact Bindings.readBack_of_bound (b := Standard.bindings) (p := Property.expires) rfl _

/-- A group whose path ends in a slash, kept in a stored realm. -/
theorem restore_create_group_below : ∃ reg d,
    withBuiltins Standard.bindings (some .stored) = .ok reg ∧
    Principal.create ⟨.epoch, none⟩ .group
      [("name", .text "Operations"), ("path", .text "/staff/ops/")] = .ok d ∧
    ∃ id s' name path, (reg.create (some ⟨"r", none⟩) d).outcome
        ⟨Standard.catalog, [.ofRow Standard.realmClass ⟨[("id", .text "r")]⟩], []⟩ = (.ok id, s') ∧
      d.profile = .group (.text name) (.text path) ∧
      ((∃ e, reg.restore (some ⟨"r", none⟩) s' id = .ok e) ↔ Variant.NamesGroup path) ∧
      ∀ e, reg.restore (some ⟨"r", none⟩) s' id = .ok e →
        e.kind = .group ∧ e.key = d.key ∧ e.profile = d.profile ∧ e.enabled = d.enabled ∧
          e.createdDate = d.createdDate.orUtc ∧ e.expirationDate = d.expirationDate.orUtc ∧
          e.partition = .realm ⟨"r", none⟩ := by
  obtain ⟨reg, registered⟩ : ∃ reg, withBuiltins Standard.bindings (some .stored) = .ok reg :=
    ⟨_, rfl⟩
  obtain ⟨d, built⟩ : ∃ d, Principal.create ⟨.epoch, none⟩ .group
    [("name", .text "Operations"), ("path", .text "/staff/ops/")] = .ok d := ⟨_, rfl⟩
  refine ⟨reg, d, registered, built, restore_create_group registered built ?_⟩
  intro r given
  cases given
  exact ⟨.stored, rfl, rfl⟩

/-- A group whose path ends in a blank segment is kept under a valid name, but not restored. -/
theorem restore_fails_of_blank_segment : ∃ reg d id s' es,
    withBuiltins Standard.bindings none = .ok reg ∧
    Principal.create ⟨.epoch, none⟩ .group [("name", .text "ops"), ("path", .text "/ /")] = .ok d ∧
    (reg.create none d).outcome ⟨Standard.catalog, [], []⟩ = (.ok id, s') ∧
    reg.restore none s' id = .error (.invalid "Group" es) :=
  ⟨_, _, _, _, _, rfl, rfl, rfl, rfl⟩

end Principals.Registry
