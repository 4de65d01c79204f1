import Principals.Proofs.Schema.Places

/-!
# Runs of calls

A run keeps principals in records, one call after the other: a call makes a record of a principal or
writes a principal to a record that there is, and gives a realm or none. A call that fails leaves what
it wrote until then, and the run goes on.

A call that fails does so before the realm is written: a realm that is not stored is not found, and
what follows is the profile, whose fields are there and take every value. So after a run a record is
in the realm that was given to it last by a call that succeeded.

* `Registry.perform`, `Registry.history`: a call, and a run with what its calls gave;
* `Places.populate`, `Places.perform`: where records are after a principal was written, and after a
  call;
* `Places.history`: where they are after a run.
-/

namespace Principals

/-! ## Calls -/

/-- A principal with the fields that are kept of its kind, whatever their values are. -/
def Principal.Shaped (d : Principal) : Prop :=
  ∀ v ∈ Variant.builtins, v.kind = d.kind → ∀ e ∈ v.form.written, ∃ x, d.profile.get? e.2 = some x

theorem Principal.Constructed.shaped {d : Principal} {kind : Kind}
    (constructed : d.Constructed kind) : d.Shaped := by
  intro v builtin same
  refine Variant.get?_of_written (Variant.fits_of_builtin v builtin) ?_
  rwa [same, constructed.kind]

/-- A call that keeps a principal in a record. -/
structure Call where
  /-- The record that the principal is written to; a new one if there is none. -/
  target : Option RecordId
  realm : Option Realm
  principal : Principal

/-- What was called, and the record that it was kept in unless it failed. -/
abbrev Entry := Call × Except Failure RecordId

namespace Registry

/-- Performs a call by the mapper of the principal's kind. -/
def perform (reg : Registry) (c : Call) : StoreM RecordId :=
  match c.target with
  | none => reg.create c.realm c.principal
  | some id => do
    let m ← StoreM.lift (reg.forKind c.principal.kind)
    m.populate c.realm id c.principal
    return id

/-- Performs calls one after the other, also after one that failed. -/
def history (reg : Registry) : List Call → Store → List Entry × Store
  | [], s => ([], s)
  | c :: rest, s =>
    let (result, u) := (reg.perform c).outcome s
    let (later, t) := history reg rest u
    ((c, result) :: later, t)

end Registry

/-- The ids of the realms that calls gave to a record, of those that succeeded. -/
def realmsGiven (id : RecordId) (entries : List Entry) : List String :=
  entries.filterMap fun e => match e.2 with
    | .ok j => if j = id then e.1.realm.map Realm.id else none
    | .error _ => none

namespace Standard

variable {s t : Store} {id : RecordId} {homes : RecordId → Option String} {m : Mapper}
  {realm : Option Realm} {d : Principal} {reg : Registry} {c : Call} {calls : List Call}
  {entries : List Entry} {result : Except Failure RecordId}

/-- Where records are after a call: a realm that was given to a record counts if the call
succeeded. -/
def moved (homes : RecordId → Option String) (realm : Option Realm) :
    Except Failure RecordId → RecordId → Option String
  | .ok id => match realm with
    | some p => Function.update homes id (some p.id)
    | none => homes
  | .error _ => homes

theorem moved_none (homes : RecordId → Option String) (result : Except Failure RecordId) :
    moved homes none result = homes := by
  cases result <;> rfl

/-- A realm that is given later takes the place of the one that the first call gave. -/
theorem getLast?_realmsGiven_cons (homes : RecordId → Option String) (c : Call)
    (result : Except Failure RecordId) (later : List Entry) (id : RecordId) :
    (realmsGiven id ((c, result) :: later)).getLast?.or (homes id) =
      (realmsGiven id later).getLast?.or (moved homes c.realm result id) := by
  obtain ⟨target, realm, d⟩ := c
  cases result with
  | error e => rfl
  | ok j =>
    cases realm with
    | none => simp [realmsGiven, moved]
    | some p =>
      by_cases own : j = id
      · subst own
        simp only [realmsGiven, List.filterMap_cons, if_true, Option.map_some, moved,
          Function.update_self, List.getLast?_cons]
        generalize (later.filterMap _).getLast? = last
        cases last <;> rfl
      · simp [realmsGiven, moved, own, Function.update_of_ne (Ne.symm own)]

/-! ## What is written -/

namespace Places

/-- The shared fields leave every record in its realm. -/
theorem keeps_writeShared (overStandard : m.bindings = bindings) (id : RecordId) (d : Principal)
    (token : Value) : StoreM.Keeps (Places homes) (m.writeShared id d token) := by
  unfold Mapper.writeShared
  rw [overStandard]
  refine .bind (keeps_write (by decide) (by decide) id token true) fun _ => ?_
  refine .bind (keeps_write (by decide) (by decide) id (.text d.key) true) fun _ => ?_
  refine .bind (keeps_write (by decide) (by decide) id d.enabled true) fun _ => ?_
  refine .bind (keeps_write (by decide) (by decide) id d.createdDate true) fun _ => ?_
  exact keeps_write (by decide) (by decide) id d.expirationDate false

/-- Profile fields leave every record in its realm. -/
theorem keeps_writeFields (id : RecordId) (d : Principal)
    {fields : List (Property × Profile.Field)}
    (identities : ∀ e ∈ fields, e.1 ∈ Property.ofIdentities ∧ e.1 ≠ Property.realm) :
    StoreM.Keeps (Places homes) (Variant.writeFields bindings id d fields) := by
  induction fields with
  | nil => exact .pure ()
  | cons e rest ih =>
    obtain ⟨ofIdentities, notRealm⟩ := identities e List.mem_cons_self
    refine .bind (.lift _) fun v => .bind (keeps_write ofIdentities notRealm id v false) fun _ => ?_
    exact ih fun e' later => identities e' (List.mem_cons_of_mem _ later)

theorem written_identities (form : Variant.Form) :
    ∀ e ∈ form.written, e.1 ∈ Property.ofIdentities ∧ e.1 ≠ Property.realm := by
  cases form <;> decide

/-- A profile that has the fields can be written to any record. -/
theorem exists_writeFields (places : Places homes s) {r : Record} (found : s.record? id = some r)
    {fields : List (Property × Profile.Field)}
    (identities : ∀ e ∈ fields, e.1 ∈ Property.ofIdentities ∧ e.1 ≠ Property.realm)
    (shaped : ∀ e ∈ fields, ∃ x, d.profile.get? e.2 = some x) :
    ∃ t, (Variant.writeFields bindings id d fields).outcome s = (.ok (), t) := by
  have plain : ∀ e ∈ fields, ∀ attr, bindings.properties.find? e.1 = some attr →
      r.cls.isPlain attr = true := by
    intro e among attr bound
    obtain ⟨ofIdentities, notRealm⟩ := identities e among
    exact (attr_of_bound e.1 ofIdentities notRealm attr bound).2.2 r.cls (places.cls_mem found)
  exact ⟨_, Variant.puts_writeFields shaped plain s r found rfl⟩

/-- The realm is written to a record that there is, or the store stays as it is. -/
theorem writeScope (places : Places homes s) (overStandard : m.bindings = bindings)
    (resolver : m.resolver = some .stored) (id : RecordId) (p : Realm) :
    (∃ e, (m.writeScope id (some p)).outcome s = (.error e, s)) ∨
      ∃ t r, (m.writeScope id (some p)).outcome s = (.ok (), t) ∧ t.record? id = some r ∧
        Places (Function.update homes id (some p.id)) t := by
  have run : (m.writeScope id (some p)).outcome s = (RealmResolver.stored.lookup p >>= fun stored =>
      bindings.write id Property.realm stored false).outcome s := by
    simp only [Mapper.writeScope, Mapper.writeRealm, resolver, overStandard]
  rw [run]
  cases found : RealmResolver.findRealm s p with
  | none =>
    exact .inl ⟨_, StoreM.outcome_bind_error (RealmResolver.outcome_lookup_table_of_none found)⟩
  | some target =>
    have looked : (RealmResolver.stored.lookup p).outcome s = (.ok (.record target), s) :=
      RealmResolver.outcome_lookup_table found
    have write : bindings.write id Property.realm (.record target) false =
        StoreM.change fun s => s.set id "partition" (.record target) := rfl
    rw [StoreM.outcome_bind_ok looked, write]
    cases there : s.record? id with
    | none =>
      have none_set : s.set id "partition" (.record target) = .error .noSuchPart := by
        simp only [Store.set, there]
      refine .inl ⟨.noSuchPart, ?_⟩
      rw [StoreM.outcome_change, none_set]
    | some r =>
      obtain ⟨t, set, linked⟩ := places.link there (places.hasRealm_of_findRealm found)
      obtain ⟨q, foundNext⟩ : ∃ q, t.record? id = some q := by
        refine Option.ne_none_iff_exists'.mp fun absent => ?_
        have unmade := linked.unmade id absent
        rw [Function.update_self] at unmade
        cases unmade
      exact .inr ⟨t, q, StoreM.outcome_change_ok set, foundNext, linked⟩

/-- Writing a principal to a record puts the record into the realm that is given, if it succeeds. -/
theorem populate (places : Places homes s) (overStandard : m.bindings = bindings)
    (resolver : m.resolver = some .stored)
    (shaped : ∀ e ∈ m.variant.form.written, ∃ x, d.profile.get? e.2 = some x)
    {written : Except Failure Unit} (run : (m.populate realm id d).outcome s = (written, t)) :
    Places (moved homes realm (written.map fun _ => id)) t := by
  rw [Mapper.populate_eq] at run
  rcases StoreM.outcome_lift_bind_cases run with ⟨e, -, rfl, rfl⟩ | ⟨token, -, run⟩
  · exact places
  rcases StoreM.outcome_bind_cases run with ⟨e, failed, rfl⟩ | ⟨_, s₁, shared, run⟩
  · exact (keeps_writeShared overStandard id d token).of_outcome failed places
  have places₁ := (keeps_writeShared overStandard id d token).of_outcome shared places
  have identities := written_identities m.variant.form
  have populated : m.variant.populate m.bindings id d =
      Variant.writeFields bindings id d m.variant.form.written := by
    rw [overStandard, Variant.populate]
  rw [populated] at run
  cases realm with
  | none =>
    rw [moved_none]
    exact (keeps_writeFields id d identities).of_outcome run places₁
  | some p =>
    rcases places₁.writeScope overStandard resolver id p with ⟨e, failed⟩ |
      ⟨s₂, r, assigned, found, places₂⟩
    · rw [StoreM.outcome_bind_error failed] at run
      cases run
      exact places₁
    · -- From here on nothing fails, so a call that fails has left the realm as it was.
      rw [StoreM.outcome_bind_ok assigned] at run
      obtain ⟨u, done⟩ := places₂.exists_writeFields found identities shaped
      rw [done] at run
      cases run
      exact (keeps_writeFields id d identities).of_outcome done places₂

/-! ## Calls and runs -/

/-- Writing a principal to a record by the mapper of its kind, which then gives the record. -/
theorem populate_of_forKind (places : Places homes s)
    (registered : Registry.withBuiltins bindings (some .stored) = .ok reg) (shaped : d.Shaped)
    (chosen : reg.forKind d.kind = .ok m)
    (run : (do m.populate realm id d; return id : StoreM RecordId).outcome s = (result, t)) :
    Places (moved homes realm result) t := by
  obtain ⟨v, builtin, sameKind, rfl⟩ := Registry.exists_of_forKind registered chosen
  rcases StoreM.outcome_bind_cases run with ⟨e, failed, rfl⟩ | ⟨_, u, written, run⟩
  · exact places.populate rfl rfl (shaped v builtin sameKind) failed
  · cases run
    exact places.populate rfl rfl (shaped v builtin sameKind) written

/-- After a call that succeeds its record is in the realm that was given, if one was. Every other
record is where it was. -/
theorem perform (places : Places homes s)
    (registered : Registry.withBuiltins bindings (some .stored) = .ok reg)
    (shaped : c.principal.Shaped) (run : (reg.perform c).outcome s = (result, t)) :
    Places (moved homes c.realm result) t := by
  obtain ⟨target, realm, d⟩ := c
  cases target with
  | some id =>
    rcases StoreM.outcome_lift_bind_cases run with ⟨e, -, rfl, rfl⟩ | ⟨m, chosen, run⟩
    · exact places
    · exact places.populate_of_forKind registered shaped chosen run
  | none =>
    rcases StoreM.outcome_lift_bind_cases run with ⟨e, -, rfl, rfl⟩ | ⟨m, chosen, run⟩
    · exact places
    · obtain ⟨v, -, -, rfl⟩ := Registry.exists_of_forKind registered chosen
      have made : bindings.newIdentity.outcome s =
          (.ok s.records.length, (s.add { cls := identityClass }).2) := rfl
      rw [Mapper.create, StoreM.outcome_bind_ok made] at run
      exact places.add.populate_of_forKind registered shaped chosen run

/-- After a run a record is in the realm that was given to it last by a call that succeeded. -/
theorem history (places : Places homes s)
    (registered : Registry.withBuiltins bindings (some .stored) = .ok reg)
    (shaped : ∀ c ∈ calls, c.principal.Shaped) (run : reg.history calls s = (entries, t)) :
    Places (fun id => (realmsGiven id entries).getLast?.or (homes id)) t := by
  induction calls generalizing s homes entries with
  | nil =>
    cases run
    exact places
  | cons c rest ih =>
    obtain ⟨shapedFirst, shapedRest⟩ := List.forall_mem_cons.mp shaped
    rcases first : (reg.perform c).outcome s with ⟨result, u⟩
    rcases more : reg.history rest u with ⟨later, t'⟩
    have both : reg.history (c :: rest) s = ((c, result) :: later, t') := by
      simp only [Registry.history, first, more]
    rw [both] at run
    cases run
    have placesLater := ih (places.perform registered shapedFirst first) shapedRest more
    simpa only [getLast?_realmsGiven_cons] using placesLater

end Places

end Standard

end Principals
