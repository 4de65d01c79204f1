import Principals.Proofs.Mapping.Restoring
import Principals.Proofs.Schema.Creating
import Principals.Proofs.Schema.Persisting

/-!
# Date-times that went through the tables

A principal is written with its date-times as they are, a column keeps their wall clock only, and
what is restored of a reloaded record reads that as UTC. So everything comes back but the zones: the
instants are those that went in exactly if the date-times were given in UTC.

* `Principal.unzoned`: what the tables keep of a principal;
* `Standard.restore_persisted`: what is restored after a principal was written and read again;
* `Standard.times_kept_iff`: exactly when its date-times are the same instants.
-/

namespace Principals

/-! ## What the tables keep -/

/-- A principal without the zones of its date-times. -/
def Principal.unzoned (d : Principal) : Principal :=
  { d with createdDate := d.createdDate.unzoned, expirationDate := d.expirationDate.unzoned }

variable {d : Principal} {v : Variant} {s t : Store} {id : RecordId}

theorem Principal.Constructed.unzoned {k : Kind} (constructed : d.Constructed k) :
    d.unzoned.Constructed k where
  kind := constructed.kind
  enabled := constructed.enabled
  created := by
    obtain ⟨created, isCreated⟩ := constructed.created
    exact ⟨⟨created.civil, none⟩, by rw [Principal.unzoned, isCreated]; rfl⟩
  expires := by
    rcases constructed.expires with none | ⟨expires, isExpires⟩
    · exact .inl (by rw [Principal.unzoned, none]; rfl)
    · exact .inr ⟨⟨expires.civil, Option.none⟩, by rw [Principal.unzoned, isExpires]; rfl⟩
  profile := constructed.profile

/-- The properties of a constructed principal without zones. -/
theorem Principal.entries_unzoned {k : Kind} (constructed : d.Constructed k) (v : Variant) :
    d.unzoned.entries v = (d.entries v).map fun e => (e.1, e.2.unzoned) := by
  obtain ⟨enabled, isEnabled⟩ := constructed.enabled
  have enabledKept : d.enabled.unzoned = d.enabled := by
    rw [isEnabled]
    rfl
  have shared : d.unzoned.sharedEntries (.text v.discriminator) =
      (d.sharedEntries (.text v.discriminator)).map fun e => (e.1, e.2.unzoned) := by
    simp only [sharedEntries, List.map_cons, List.map_nil, enabledKept]
    rfl
  have profile : d.unzoned.profileEntries v.form.written =
      (d.profileEntries v.form.written).map fun e => (e.1, e.2.unzoned) := by
    rw [profileEntries, profileEntries, List.map_map]
    refine List.map_congr_left fun e _ => ?_
    obtain ⟨text, isText⟩ := Standard.exists_text_of_constructed constructed.profile e.2
    rw [Function.comp_apply, isText, Value.unzoned_ofText?, ← isText]
    rfl
  rw [entries, entries, shared, profile, List.map_append]

namespace Standard

variable {target : Option RecordId} {n : Int} {q : Record} {row : Row}

/-- A reloaded record of a constructed principal holds all of its fields, without zones. -/
theorem holds_reload (landed : Landed s target n (newRecord v target d) q row)
    (constructed : d.Constructed v.kind) (found : t.record? id = some q) :
    bindings.Holds t.reload id (d.unzoned.entries v) := by
  have reloaded : t.reload.record? id = some q.reload := by
    have given : t.records[id]? = some q := found
    rw [Store.record?, Store.reload, List.getElem?_map, given]
    rfl
  have cls : q.reload.cls = identityClass := by
    rw [Record.reload, landed.stored]
    exact landed.cls
  refine ⟨q.reload, reloaded, cls, ?_⟩
  rw [Principal.entries_unzoned constructed, List.forall_mem_map]
  intro e among attr bound
  obtain ⟨c, isColumn, cell, isBound, type, stores, inRow⟩ := landed.cell_of_entry e among
  rw [bound] at isBound
  cases isBound
  obtain ⟨cell', stores', loads, -⟩ := keeps_entries constructed e among
  rw [stores] at stores'
  cases stores'
  have ofClass : c ∈ q.cls.columns := by
    rw [landed.cls]
    exact isColumn
  rw [Record.value_reload (by rw [landed.cls]; exact columns_nodup) landed.stored ofClass, inRow,
    Option.getD_some, type, loads]

end Standard

/-! ## Instants -/

namespace Value

/-- Whether the zone of a date-time is known; other values have none to know. -/
def Zoned : Value → Prop
  | .moment t => ∃ offset, t.offset = some offset
  | _ => True

/-- Whether a date-time is given in UTC. -/
def AtUtc : Value → Prop
  | .moment t => t.offset = some 0
  | _ => True

/-- Whether two values are date-times of one instant, or both are nothing. -/
def SameInstant : Value → Value → Prop
  | .null, .null => True
  | .moment t, .moment u => ∃ micros, t.instant? = some micros ∧ u.instant? = some micros
  | _, _ => False

/-- What comes back for a date-time of a known zone is the same instant exactly if that is UTC. -/
theorem sameInstant_unzoned_iff {v : Value} (dated : v = .null ∨ ∃ t, v = .moment t)
    (zoned : v.Zoned) : v.SameInstant v.unzoned.orUtc ↔ v.AtUtc := by
  rcases dated with rfl | ⟨t, rfl⟩
  · exact ⟨fun _ => trivial, fun _ => trivial⟩
  · obtain ⟨offset, zone⟩ := zoned
    have back : (Value.moment t).unzoned.orUtc = .moment t.forgotten := rfl
    have instant : ∃ micros, t.instant? = some micros :=
      ⟨_, by rw [Time.DateTime.instant?, zone]; rfl⟩
    obtain ⟨micros, isInstant⟩ := instant
    have same : (Value.moment t).SameInstant (.moment t.forgotten) ↔
        t.forgotten.instant? = t.instant? := by
      constructor
      · intro h
        rcases h with ⟨i, here, there⟩
        rw [here, there]
      · intro eq
        exact ⟨micros, isInstant, eq.trans isInstant⟩
    have utc : (Value.moment t).AtUtc ↔ offset = 0 := by
      change t.offset = some 0 ↔ _
      rw [zone, Option.some.injEq]
    rw [back, same, Time.DateTime.instant?_forgotten_iff zone, utc]

end Value

/-! ## The registry -/

/-- Noon of a new year on the wall clock. -/
def noon : Time.Civil :=
  { Time.Civil.epoch with
    year := 2024
    hour := 12
    year_pos := by decide
    year_le := by decide
    day_le := by decide
    hour_lt := by decide }

/-- The offset of a zone three hours ahead of UTC. -/
def ahead : Int := Time.minutes 180

namespace Standard

variable {reg : Registry} {realm : Option Realm}

/-- A constructed principal of a built-in kind is written under the next number, as long as there is
one; then the reloaded record restores it without the zones of its date-times, if anything. -/
theorem restore_persisted (settled : Settled s)
    (registered : Registry.withBuiltins bindings (some .stored) = .ok reg)
    (builtin : v ∈ Variant.builtins) (constructed : d.Constructed v.kind)
    (reaches : Reaches s realm) (scope : Option Realm) :
    ∃ id made, (reg.create realm d).outcome s = (.ok id, made) ∧
      (Reader.fitsWord (s.nextNumber identityClass "id") = true →
        ∃ kept, (StoreM.persist [id]).outcome made = (.ok (), kept)) ∧
      ∀ kept, (StoreM.persist [id]).outcome made = (.ok (), kept) →
        (d.profile.Restorable →
          reg.restore scope kept.reload id = .ok (d.unzoned.recalled bindings scope)) ∧
        ∀ e, reg.restore scope kept.reload id = .ok e → d.profile.Restorable := by
  have serves := Registry.ServesBuiltins.of_withBuiltins registered
  have new := newRecord_new settled constructed realm
  refine ⟨_, _, outcome_create_registry serves builtin constructed reaches,
    exists_outcome_persist settled new, fun kept done => ?_⟩
  obtain ⟨q, n, row, rfl, landed⟩ := landed_of_persist settled new done
  have holds := holds_reload landed constructed (Store.record?_add_self s q)
  have restored : reg.restore scope (s.add q).2.reload s.records.length =
      (Mapper.mk v bindings reg.discriminators (some .stored)).restore scope (s.add q).2.reload
        s.records.length :=
    serves.restore_eq create_standard bindings_separate builtin holds
  have named : bindings.isBound Property.name = true := by decide
  refine ⟨fun restorable => restored.trans ?_, fun e given => ?_⟩
  · exact Mapper.restore_of_holds (m := ⟨v, bindings, reg.discriminators, some .stored⟩)
      (d := d.unzoned) create_standard bindings_separate builtin (fun _ => named)
      (constructed.unzoned.recoverable builtin restorable) holds scope
  · exact Mapper.restorable_of_restore
      (m := ⟨v, bindings, reg.discriminators, some .stored⟩) (d := d.unzoned) create_standard
      bindings_separate builtin (fun _ => named) constructed.unzoned holds
      (restored.symm.trans given)

/-- The date-times of a constructed principal, whose zones are known, come back from the tables as
the instants that they were exactly if they were given in UTC and the profile is restorable. -/
theorem times_kept_iff (settled : Settled s)
    (registered : Registry.withBuiltins bindings (some .stored) = .ok reg)
    (builtin : v ∈ Variant.builtins) (constructed : d.Constructed v.kind)
    (createdZoned : d.createdDate.Zoned) (expirationZoned : d.expirationDate.Zoned)
    (reaches : Reaches s realm) (scope : Option Realm) :
    ∃ id made, (reg.create realm d).outcome s = (.ok id, made) ∧
      (Reader.fitsWord (s.nextNumber identityClass "id") = true →
        ∃ kept, (StoreM.persist [id]).outcome made = (.ok (), kept)) ∧
      ∀ kept, (StoreM.persist [id]).outcome made = (.ok (), kept) →
        ((∃ e, reg.restore scope kept.reload id = .ok e ∧
            d.createdDate.SameInstant e.createdDate ∧
            d.expirationDate.SameInstant e.expirationDate) ↔
          d.createdDate.AtUtc ∧ d.expirationDate.AtUtc ∧ d.profile.Restorable) := by
  obtain ⟨id, made, created, writes, restores⟩ :=
    restore_persisted settled registered builtin constructed reaches scope
  refine ⟨id, made, created, writes, fun kept done => ?_⟩
  obtain ⟨restored, restorable⟩ := restores kept done
  have createdSame := Value.sameInstant_unzoned_iff (.inr constructed.created) createdZoned
  have expirationSame := Value.sameInstant_unzoned_iff constructed.expires expirationZoned
  have expires : (d.unzoned.recalled bindings scope).expirationDate =
      d.expirationDate.unzoned.orUtc :=
    Bindings.readBack_of_bound (b := bindings) (p := Property.expires) rfl _
  rw [← createdSame, ← expirationSame]
  constructor
  · intro h
    rcases h with ⟨e, given, sameCreated, sameExpiration⟩
    have isRestorable := restorable e given
    rw [restored isRestorable] at given
    cases given
    rw [expires] at sameExpiration
    exact ⟨sameCreated, sameExpiration, isRestorable⟩
  · intro h
    rcases h with ⟨sameCreated, sameExpiration, isRestorable⟩
    refine ⟨_, restored isRestorable, sameCreated, ?_⟩
    rw [expires]
    exact sameExpiration

/-- A user created at noon in UTC, kept in a stored realm. -/
theorem times_kept_in_utc : ∃ reg d,
    Registry.withBuiltins bindings (some .stored) = .ok reg ∧
    Principal.create ⟨.epoch, some 0⟩ .user [("login_name", .text "zoe"),
      ("created_date", .moment ⟨noon, some 0⟩)] = .ok d ∧
    ∃ id made, (reg.create (some ⟨"r", none⟩) d).outcome (ofRealms [⟨"r", none⟩]) =
        (.ok id, made) ∧
      (Reader.fitsWord ((ofRealms [⟨"r", none⟩]).nextNumber identityClass "id") = true →
        ∃ kept, (StoreM.persist [id]).outcome made = (.ok (), kept)) ∧
      ∀ kept, (StoreM.persist [id]).outcome made = (.ok (), kept) →
        ((∃ e, reg.restore none kept.reload id = .ok e ∧
            d.createdDate.SameInstant e.createdDate ∧
            d.expirationDate.SameInstant e.expirationDate) ↔
          d.createdDate.AtUtc ∧ d.expirationDate.AtUtc ∧ d.profile.Restorable) := by
  obtain ⟨reg, registered⟩ : ∃ reg, Registry.withBuiltins bindings (some .stored) = .ok reg :=
    ⟨_, rfl⟩
  obtain ⟨d, built, created, expiration⟩ : ∃ d,
      Principal.create ⟨.epoch, some 0⟩ .user [("login_name", .text "zoe"),
        ("created_date", .moment ⟨noon, some 0⟩)] = .ok d ∧
      d.createdDate = .moment ⟨noon, some 0⟩ ∧ d.expirationDate = .null := ⟨_, rfl, rfl, rfl⟩
  refine ⟨reg, d, registered, built, ?_⟩
  refine times_kept_iff (v := .user) (settled_ofRealms _) registered (by decide)
    (.of_create built) ?_ ?_ ?_ none
  · rw [created]
    exact ⟨0, rfl⟩
  · rw [expiration]
    trivial
  · intro q given
    cases given
    rfl

/-- A user created at noon of a zone three hours ahead of UTC comes back as created at noon in
UTC. -/
theorem times_lost_ahead_of_utc : ∃ reg d id made kept e,
    Registry.withBuiltins bindings (some .stored) = .ok reg ∧
    Principal.create ⟨.epoch, some 0⟩ .user [("login_name", .text "zoe"),
      ("created_date", .moment ⟨noon, some ahead⟩),
      ("expiration_date", .moment ⟨noon, some ahead⟩)] = .ok d ∧
    (reg.create none d).outcome (ofRealms []) = (.ok id, made) ∧
    (StoreM.persist [id]).outcome made = (.ok (), kept) ∧
    reg.restore none kept.reload id = .ok e ∧
    d.createdDate = .moment ⟨noon, some ahead⟩ ∧ e.createdDate = .moment ⟨noon, some 0⟩ ∧
    ¬ d.createdDate.SameInstant e.createdDate := by
  obtain ⟨reg, registered⟩ : ∃ reg, Registry.withBuiltins bindings (some .stored) = .ok reg :=
    ⟨_, rfl⟩
  obtain ⟨d, built, created, restorable⟩ : ∃ d,
      Principal.create ⟨.epoch, some 0⟩ .user [("login_name", .text "zoe"),
        ("created_date", .moment ⟨noon, some ahead⟩),
        ("expiration_date", .moment ⟨noon, some ahead⟩)] = .ok d ∧
      d.createdDate = .moment ⟨noon, some ahead⟩ ∧ d.profile.Restorable := ⟨_, rfl, rfl, trivial⟩
  have reaches : Reaches (ofRealms []) none := nofun
  obtain ⟨id, made, run, writes, restores⟩ := restore_persisted (v := .user)
    (settled_ofRealms []) registered (by decide) (.of_create built) reaches none
  obtain ⟨kept, done⟩ := writes rfl
  have back : (d.unzoned.recalled bindings none).createdDate = .moment ⟨noon, some 0⟩ := by
    rw [Principal.recalled, Principal.unzoned, created]
    rfl
  refine ⟨reg, d, id, made, kept, _, registered, built, run, done,
    (restores kept done).1 restorable, created, back, ?_⟩
  rw [created, back]
  have elsewhere : ¬ (Value.moment ⟨noon, some ahead⟩).AtUtc := fun utc =>
    absurd (Option.some.inj utc) (by decide)
  have moves := (Value.sameInstant_unzoned_iff (.inr ⟨_, rfl⟩) ⟨ahead, rfl⟩).not.mpr elsewhere
  exact moves

end Standard

end Principals
