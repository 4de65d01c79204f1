import Principals.Proofs.Mapping.GroupName
import Principals.Proofs.Mapping.Restoring
import Principals.Proofs.Store.Reading

/-!
# Restored, written back and restored again

Restoring brings a record into a normal form: the identifier is trimmed, a group without a stored name
is named by its path, date-times get a zone. What was restored is recoverable: every check that it has
passed it passes again, under the name and the path that it has by now. So writing it back to its own
record and restoring it from there gives it once more, however odd the record was at first.

* `Variant.recoverable_of_complete`, `Mapper.recoverable_of_restore`: what was restored is
  recoverable;
* `Standard.get_modify_putAll`: attributes that do not depend on the values that changed;
* `Registry.restore_populate`: restoring, writing back and restoring again.
-/

namespace Principals

variable {b : Bindings} {s : Store} {id : RecordId} {d : Principal}

/-! ## What reading requires -/

/-- A required property that was read has a value. -/
theorem Bindings.given_of_read {p : Property} {v : Value} (read : b.read s id p true = .ok v) :
    v.isNull = false := by
  unfold Bindings.read at read
  split at read
  · cases read
  · dsimp only at read
    split at read
    · cases read
    · next given =>
      cases read
      simpa using given

/-- An identifier that was read is not empty. -/
theorem Variant.ne_empty_of_readIdentifier {keyPrefix identifier : String}
    (read : readIdentifier b s id keyPrefix = .ok identifier) : identifier ≠ "" := by
  obtain ⟨key, -, split⟩ := bind_eq_ok.mp read
  split at split
  · cases split
  · cases split
  · next found read parsed =>
    split at split
    · cases split
      cases key <;> first | cases parsed | exact (IdentityKey.parse_eq_ok_iff.mp parsed).identified
    · cases split

theorem Profile.Constructed.of_create {kind : Kind} {fields : List (String × Value)} {p : Profile}
    (made : Profile.create kind fields = .ok p) : Constructed kind.stem p :=
  .of_read? (Profile.read?_of_create made)

/-! ## What is restored -/

namespace Variant

variable {kind : Kind} {bare : Profile} {e e' : Principal}

/-- Where a group is restored, its path names it and is not blank. -/
theorem restore_group_eq_ok (restored : group.restore b s id = .ok (kind, bare)) :
    ∃ path stored found, b.read s id Property.name false = .ok stored ∧
      Profile.readName (groupName path stored) = .ok found ∧ Text.trim path ≠ "" ∧
      kind = .group ∧ bare = .group (.text found) (.text (Text.trim path)) := by
  obtain ⟨path, identifier, restored⟩ := bind_eq_ok.mp restored
  obtain ⟨stored, readStored, restored⟩ := bind_eq_ok.mp restored
  obtain ⟨profile, made, eq⟩ := bind_eq_ok.mp restored
  cases eq
  obtain ⟨found, read⟩ := Profile.readName_of_create_group made
  have solid := trim_ne_empty_of_readName (ne_empty_of_readIdentifier identifier) read
  rw [Profile.create_group read solid] at made
  cases made
  exact ⟨path, stored, found, readStored, read, solid, rfl, rfl⟩

/-- What a restored profile is completed to is recoverable, and nothing but the profile changes. -/
theorem recoverable_of_complete {v : Variant} (builtin : v ∈ builtins)
    (restored : v.restore b s id = .ok (kind, bare)) (profile : e.profile = bare)
    (completed : v.complete b s id e = .ok e') :
    kind = v.kind ∧ Profile.Recoverable v.kind e'.profile ∧
      e' = { e with profile := e'.profile } := by
  rw [mem_builtins_iff] at builtin
  rcases builtin with rfl | rfl | rfl | rfl
  · obtain ⟨login, -, restored⟩ := bind_eq_ok.mp restored
    obtain ⟨p, made, eq⟩ := bind_eq_ok.mp restored
    cases eq
    cases completed
    rw [profile]
    cases Profile.Constructed.of_create made with
    | agent valid => exact ⟨rfl, .agent valid, by rw [← profile]⟩
  · obtain ⟨login, -, restored⟩ := bind_eq_ok.mp restored
    obtain ⟨p, made, eq⟩ := bind_eq_ok.mp restored
    cases eq
    cases Profile.Constructed.of_create made with
    | user valid f l m =>
      obtain ⟨first, readFirst, completed⟩ := bind_eq_ok.mp completed
      obtain ⟨e₁, setFirst, completed⟩ := bind_eq_ok.mp completed
      obtain ⟨last, readLast, completed⟩ := bind_eq_ok.mp completed
      obtain ⟨e₂, setLast, completed⟩ := bind_eq_ok.mp completed
      obtain ⟨email, readEmail, setEmail⟩ := bind_eq_ok.mp completed
      simp only [Principal.setProfile, profile, Profile.set?, Except.ok.injEq] at setFirst
      subst setFirst
      simp only [Principal.setProfile, Profile.set?, Except.ok.injEq] at setLast
      subst setLast
      simp only [Principal.setProfile, Profile.set?, Except.ok.injEq] at setEmail
      subst setEmail
      exact ⟨rfl, .user valid first last email, rfl⟩
  · obtain ⟨path, stored, found, readStored, read, solid, rfl, rfl⟩ := restore_group_eq_ok restored
    obtain ⟨again, readAgain⟩ := exists_readName_groupName_again read
    have trimmed := Text.trim_trim path
    obtain ⟨name, readName, completed⟩ := bind_eq_ok.mp completed
    rw [readStored] at readName
    cases readName
    by_cases truthy : stored.isTruthy = true
    · simp only [truthy, if_true, Principal.setProfile, profile, Profile.set?,
        Except.ok.injEq] at completed
      subst completed
      rw [if_pos truthy] at readAgain
      exact ⟨rfl, .group truthy trimmed solid readAgain, rfl⟩
    · simp only [truthy, if_false, Bool.false_eq_true, Except.ok.injEq] at completed
      subst completed
      rw [if_neg truthy] at readAgain
      have given : Value.isTruthy (.text found) = true := by
        simp [Value.isTruthy, (Profile.ValidName.of_read read).nonempty]
      refine ⟨rfl, ?_, rfl⟩
      rw [profile]
      exact .group given trimmed solid readAgain
  · obtain ⟨name, -, restored⟩ := bind_eq_ok.mp restored
    obtain ⟨p, made, eq⟩ := bind_eq_ok.mp restored
    cases eq
    cases completed
    rw [profile]
    cases Profile.Constructed.of_create made with
    | role valid => exact ⟨rfl, .role valid, by rw [← profile]⟩

end Variant

namespace Mapper

variable {m : Mapper} {realm : Option Realm}

/-- What was restored is recoverable, and comes back as it is as long as every property is bound. -/
theorem recoverable_of_restore (builtin : m.variant ∈ Variant.builtins)
    (bound : ∀ p ∈ Property.ofIdentities, m.bindings.isBound p = true)
    (restored : m.restore none s id = .ok d) :
    d.Recoverable m.variant.kind ∧ d.recalled m.bindings none = d := by
  obtain ⟨kind, bare, enabled, created, expires, e, -, profile, readEnabled,
    ⟨v, readCreated, createdUtc⟩, ⟨w, -, expiresUtc⟩, completed, given⟩ := restore_eq_ok restored
  obtain rfl : d = e := given
  obtain ⟨rfl, recoverable, eq⟩ := Variant.recoverable_of_complete builtin profile rfl completed
  have dated : ∃ t : Time.DateTime, created = .moment t.orUtc := by
    rcases asUtc_eq_ok createdUtc with ⟨rfl, -⟩ | ⟨t, -, rfl⟩
    · exact absurd (Bindings.given_of_read readCreated) (by decide)
    · exact ⟨t, rfl⟩
  obtain ⟨t, rfl⟩ := dated
  have expiresOr : expires = .null ∨ ∃ u : Time.DateTime, expires = .moment u.orUtc := by
    rcases asUtc_eq_ok expiresUtc with ⟨-, rfl⟩ | ⟨u, -, rfl⟩
    · exact .inl rfl
    · exact .inr ⟨u, rfl⟩
  generalize d.profile = completedProfile at recoverable eq
  subst eq
  constructor
  · refine ⟨rfl, Bindings.given_of_read readEnabled, ⟨_, rfl⟩, ?_, recoverable⟩
    rcases expiresOr with rfl | ⟨u, rfl⟩
    · exact .inl rfl
    · exact .inr ⟨_, rfl⟩
  · have readsBack : ∀ p ∈ Property.ofIdentities, ∀ v, m.bindings.readBack p v = v := by
      intro p among v
      rw [Bindings.readBack, if_pos (bound p among)]
    have profileKept : completedProfile.recalled m.bindings = completedProfile := by
      cases completedProfile with
      | user login first last email =>
        simp only [Profile.recalled, readsBack Property.firstName (by decide),
          readsBack Property.lastName (by decide), readsBack Property.email (by decide)]
      | _ => rfl
    have createdKept : (Value.moment t.orUtc).orUtc = .moment t.orUtc := by
      rw [Value.orUtc, Time.DateTime.orUtc_orUtc]
    have expiresKept : expires.orUtc = expires := by
      rcases expiresOr with rfl | ⟨u, rfl⟩
      · rfl
      · rw [Value.orUtc, Time.DateTime.orUtc_orUtc]
    simp only [Principal.recalled, profileKept, createdKept, expiresKept,
      readsBack Property.expires (by decide)]
    rfl

end Mapper

/-! ## The registry -/

theorem Principal.Recoverable.writable {v : Variant} (recoverable : d.Recoverable v.kind)
    (builtin : v ∈ Variant.builtins) : d.Writable v where
  enabled := recoverable.enabled
  created := by
    obtain ⟨created, isCreated⟩ := recoverable.created
    rw [isCreated]
    rfl
  suits := by
    have profile := recoverable.profile
    generalize d.profile = p at profile
    rw [Variant.mem_builtins_iff] at builtin
    rcases builtin with rfl | rfl | rfl | rfl <;> cases profile <;>
      simp [Variant.Form.written, Variant.agent, Variant.user, Variant.group, Variant.role,
        Profile.get?]

namespace Standard

variable {q : Record} {v : Variant}

/-- No property of a principal is bound to the number of a record, to its realm or to its
attributes. -/
theorem entries_unbound (d : Principal) (v : Variant) {attr : String}
    (among : attr ∈ ["id", "partition_id", "partition", "attributes"]) :
    ∀ e ∈ d.entries v, bindings.properties.find? e.1 ≠ some attr := by
  intro e inEntries
  have written : e.1 ∈ v.form.properties := by
    rw [← Variant.map_fst_entries d v]
    exact List.mem_map_of_mem inEntries
  obtain ⟨ofIdentities, notRealm⟩ := v.form.properties_spec.2 e.1 written
  have apart : ∀ p ∈ Property.ofIdentities, p ≠ Property.realm →
      ∀ attr ∈ ["id", "partition_id", "partition", "attributes"],
        bindings.properties.find? p ≠ some attr := by decide
  exact apart e.1 ofIdentities notRealm attr among

/-- Putting the properties of a principal into an identity record leaves its number, its realm and
its attributes. -/
theorem get_modify_putAll (found : s.record? id = some q) (ofClass : q.cls = identityClass)
    {attr : String} (among : attr ∈ ["id", "partition_id", "partition", "attributes"]) :
    (s.modify id (bindings.putAll (d.entries v))).get id attr = s.get id attr := by
  obtain ⟨values, put⟩ := Bindings.exists_putAll_eq bindings (d.entries v) q
  have kept : ∀ attr ∈ ["id", "partition_id", "partition", "attributes"],
      { q with values }.value attr = q.value attr := by
    intro attr among
    rw [← put]
    exact Bindings.value_putAll_of_forall_ne (entries_unbound d v among)
  -- Beside itself, each of them is read from the realm and the reference to it at most.
  have basis : ∀ attr ∈ ["id", "partition_id", "partition", "attributes"],
      ∀ a ∈ identityClass.basis attr, a ∈ ["id", "partition_id", "partition", "attributes"] := by
    decide
  have change : s.modify id (bindings.putAll (d.entries v)) =
      s.modify id fun r => { r with values } := Store.modify_congr found put
  rw [change]
  exact Store.get_of_readsAlike (.modify_values found fun a inBasis =>
    kept a (basis attr among a (ofClass ▸ inBasis))) found

end Standard

namespace Registry

variable {resolver : Option RealmResolver} {reg : Registry} {q : Record}

/-- A principal that was restored can be written back to its record. That leaves the number of the
record, its realm, its attributes and every other record, and the record restores the principal once
more. -/
theorem restore_populate (registered : withBuiltins Standard.bindings resolver = .ok reg)
    (found : s.record? id = some q) (ofClass : q.cls = Standard.identityClass)
    (restored : reg.restore none s id = .ok d) :
    ∃ m s', reg.forKind d.kind = .ok m ∧ (m.populate none id d).outcome s = (.ok (), s') ∧
      (∀ attr ∈ ["id", "partition_id", "partition", "attributes"],
        s'.get id attr = s.get id attr) ∧
      (∀ other, other ≠ id → s'.record? other = s.record? other) ∧
      reg.restore none s' id = .ok d := by
  have serves := ServesBuiltins.of_withBuiltins registered
  have bound : ∀ p ∈ Property.ofIdentities, Standard.bindings.isBound p = true := by decide
  -- The record is read by the mapper of a built-in variant, and what it gives is recoverable.
  obtain ⟨m, chosen, given⟩ := bind_eq_ok.mp restored
  obtain ⟨token, -, chosen⟩ := bind_eq_ok.mp chosen
  obtain ⟨kind, -, chosen⟩ := bind_eq_ok.mp chosen
  obtain ⟨v, builtin, -, rfl⟩ := exists_of_forKind registered chosen
  obtain ⟨recoverable, recalled⟩ := Mapper.recoverable_of_restore builtin bound given
  dsimp only at recoverable recalled
  have ownToken : reg.discriminators.tokenFor d.kind = .ok (.text v.discriminator) := by
    rw [recoverable.kind]
    exact serves.token v builtin
  have populated := Mapper.puts_populate
    (m := ⟨v, Standard.bindings, reg.discriminators, resolver⟩)
    Standard.create_standard Standard.bindings_separate.plain ownToken (recoverable.writable builtin)
    s q found ofClass
  have holds : Standard.bindings.Holds (s.modify id (Standard.bindings.putAll (d.entries v))) id
      (d.entries v) := by
    refine ⟨_, Store.record?_modify_self _ found, (Bindings.putAll_cls ..).trans ofClass, ?_⟩
    rw [Principal.entries, Bindings.putAll_append]
    exact Mapper.value_of_entries Standard.bindings_separate fun _ _ => rfl
  refine ⟨_, _, ?_, populated, ?_, ?_, ?_⟩
  · rw [recoverable.kind]
    exact serves.forKind builtin
  · exact fun attr among => Standard.get_modify_putAll found ofClass among
  · exact fun other ne => Store.record?_modify_of_ne _ ne.symm
  · rw [serves.restore_eq Standard.create_standard Standard.bindings_separate builtin holds,
      Mapper.restore_of_holds (m := ⟨v, Standard.bindings, reg.discriminators, resolver⟩)
        Standard.create_standard Standard.bindings_separate builtin
        (fun _ => bound Property.name (by decide)) recoverable holds none]
    rw [recalled]

/-- The record of a group without a name, with a blank in front of its path and one before the slash
at its end. -/
def untrimmedGroup : Record where
  cls := Standard.identityClass
  values := .ofList [("discriminator", .text "GROUP"), ("key", .text "GROUP:// /staff/ops /"),
    ("enabled", .int 1), ("created", .moment ⟨.epoch, none⟩)]

/-- A group that gets its name from its path and its path trimmed. -/
theorem restore_populate_untrimmed : ∃ reg d,
    withBuiltins Standard.bindings none = .ok reg ∧
    reg.restore none ⟨Standard.catalog, [untrimmedGroup], []⟩ 0 = .ok d ∧
    d.profile = .group (.text "ops") (.text "/staff/ops /") ∧
    ∃ m s', reg.forKind d.kind = .ok m ∧
      (m.populate none 0 d).outcome ⟨Standard.catalog, [untrimmedGroup], []⟩ = (.ok (), s') ∧
      (∀ attr ∈ ["id", "partition_id", "partition", "attributes"],
        s'.get 0 attr = Store.get ⟨Standard.catalog, [untrimmedGroup], []⟩ 0 attr) ∧
      (∀ other, other ≠ 0 →
        s'.record? other = Store.record? ⟨Standard.catalog, [untrimmedGroup], []⟩ other) ∧
      reg.restore none s' 0 = .ok d := by
  obtain ⟨reg, d, registered, restored, profile⟩ : ∃ reg d,
      withBuiltins Standard.bindings none = .ok reg ∧
      reg.restore none ⟨Standard.catalog, [untrimmedGroup], []⟩ 0 = .ok d ∧
      d.profile = .group (.text "ops") (.text "/staff/ops /") := ⟨_, _, rfl, rfl, rfl⟩
  exact ⟨reg, d, registered, restored, profile, restore_populate registered rfl rfl restored⟩

end Registry

end Principals
