import Principals.Proofs.Mapping.Interrupted

/-!
# When writing a principal is refused

Accepted bindings bind every required property, and an optional property that is not bound is passed
over, so no write fails for a missing binding. What is left to be refused is little: a kind without a
token, a flag or a date that was taken away after the construction, and a realm that cannot be looked
up. Each of these is the verdict on one write, and it does not depend on the writes before it, since
an assignment changes no table and no class of a record (`Store.Assigned`). So the first verdict of
the run decides.

* `Writing.Gives`: the verdict on a write, in all stores that assignments reach;
* `Writing.outcome_performAll`: a run of writes fails by the first verdict against it;
* `Mapper.refusals`: what is looked at when a principal is written, in order;
* `Mapper.outcome_populate_eq`: writing a principal fails by the first of these that applies.
-/

namespace Principals

variable {b : Bindings} {id : RecordId} {s s₀ : Store} {r : Record} {p : Property} {v : Value}
  {e : Failure} {isRequired : Bool}

/-- The result of an action that is refused or done. -/
def Failure.resultOf : Option Failure → Except Failure Unit
  | some e => .error e
  | none => .ok ()

/-! ## One write -/

namespace Bindings

/-- A value that the attribute of a property takes: any, if it is plain, and a record, if it is a
relationship. -/
def Takes (b : Bindings) (p : Property) (v : Value) : Prop :=
  ∀ attr, b.properties.find? p = some attr → b.identityClass.isPlain attr = true ∨
    (b.identityClass.relationship? attr).isSome = true ∧ ∃ target, v = .record target

/-- The realm is bound to a relationship or to a plain attribute, if it is bound. -/
def Places (b : Bindings) : Prop :=
  ∀ attr, b.properties.find? Property.realm = some attr →
    (b.identityClass.relationship? attr).isSome = true ∨ b.identityClass.isPlain attr = true

theorem Plain.takes (plain : b.Plain) (among : p ∈ Property.ofIdentities ∧ p ≠ Property.realm)
    (v : Value) : b.Takes p v :=
  fun attr bound => .inl (plain p among.1 among.2 attr bound)

theorem Places.takes (placed : b.Places) (target : RecordId) :
    b.Takes Property.realm (.record target) :=
  fun attr bound => (placed attr bound).symm.imp_right fun isLink => ⟨isLink, target, rfl⟩

/-- A write that meets what is required succeeds, if the attribute takes the value. -/
theorem exists_outcome_write (meets : b.Meets p v isRequired) (takes : b.Takes p v)
    (found : s.record? id = some r) (ofClass : r.cls = b.identityClass) :
    ∃ t, (b.write id p v isRequired).outcome s = (.ok (), t) ∧ s.Assigned t := by
  obtain ⟨t, done⟩ : ∃ t, (b.write id p v isRequired).outcome s = (.ok (), t) := by
    cases bound : b.properties.find? p with
    | none =>
      rw [meets.optional_of_unbound bound, write_unbound id v bound]
      exact ⟨s, rfl⟩
    | some attr =>
      rw [write_bound id bound meets.given]
      rcases takes attr bound with plain | ⟨isLink, target, rfl⟩
      · exact ⟨_, StoreM.outcome_change_ok (Store.set_plain v found (ofClass ▸ plain))⟩
      · obtain ⟨rel, isLink⟩ := Option.isSome_iff_exists.mp isLink
        exact ⟨_, StoreM.outcome_change_ok (Store.set_link target found (ofClass ▸ isLink))⟩
  have keeps : StoreM.Keeps s.Assigned (b.write id p v isRequired) :=
    Bindings.keeps_write fun _ _ _ _ before set => before.trans (.set set)
  exact ⟨t, done, keeps.of_outcome done (.refl s)⟩

end Bindings

namespace Writing

variable {w : Writing} {ws : List Writing} {verdicts : List (Option Failure)}

/-- The verdict on a write: in every store that assignments reach it fails in one way, or in every
such store it leads to another one. -/
def Gives (b : Bindings) (id : RecordId) (s₀ : Store) (w : Writing) : Option Failure → Prop
  | some e => ∀ s, s₀.Assigned s → ∃ t, (w.perform b id).outcome s = (.error e, t)
  | none => ∀ s, s₀.Assigned s → ∃ t, (w.perform b id).outcome s = (.ok (), t) ∧ s₀.Assigned t

/-- A run of writes fails by the first verdict against it, and succeeds if there is none. -/
theorem outcome_performAll (given : List.Forall₂ (Gives b id s₀) ws verdicts)
    (assigned : s₀.Assigned s) :
    ((performAll b id ws).outcome s).1 =
      Failure.resultOf (verdicts.findSome? fun verdict => verdict) := by
  induction given generalizing s with
  | nil => rfl
  | @cons w verdict ws verdicts first _ ih =>
    cases verdict with
    | some e =>
      obtain ⟨t, refused⟩ := first s assigned
      rw [performAll, StoreM.outcome_bind_error refused]
      rfl
    | none =>
      obtain ⟨t, done, later⟩ := first s assigned
      rw [performAll, StoreM.outcome_bind_ok done]
      exact ih later

/-! ### Verdicts -/

variable {value : StoreM Value}

/-- The failure to have a value is the verdict on writing it. -/
theorem gives_of_missing (b : Bindings) (id : RecordId)
    (missing : ∀ s, s₀.Assigned s → value.outcome s = (.error e, s)) :
    Gives b id s₀ ⟨p, value, isRequired⟩ (some e) :=
  fun s assigned => ⟨s, StoreM.outcome_bind_error (missing s assigned)⟩

/-- A bound property that is required refuses absence. -/
theorem gives_of_null {attr : String} (id : RecordId) (s₀ : Store)
    (bound : b.properties.find? p = some attr) :
    Gives b id s₀ ⟨p, StoreM.lift (.ok .null), true⟩ (some (.integrity (.valueMissing p))) := by
  intro s _
  have refused : (b.write id p .null true).outcome s = (.error (.integrity (.valueMissing p)), s) := by
    rw [Bindings.write_required_null id bound]
    rfl
  exact ⟨s, (StoreM.outcome_bind_ok rfl).trans refused⟩

/-- A value that is found without a change is written, if its attribute takes it. -/
theorem gives_none (found : s₀.record? id = some r)
    (ofClass : r.cls = b.identityClass) (meets : b.Meets p v isRequired) (takes : b.Takes p v)
    (given : ∀ s, s₀.Assigned s → value.outcome s = (.ok v, s)) :
    Gives b id s₀ ⟨p, value, isRequired⟩ none := by
  intro s assigned
  obtain ⟨q, there, cls, -⟩ := assigned.kept id r found
  obtain ⟨t, done, set⟩ := Bindings.exists_outcome_write meets takes there (cls.trans ofClass)
  exact ⟨t, (StoreM.outcome_bind_ok (given s assigned)).trans done, assigned.trans set⟩

end Writing

/-- The standard classes, with nothing bound but what is required. -/
def Standard.bare : Bindings :=
  { Standard.bindings with
    properties := .ofList (Standard.bindings.properties.entries.filter
      fun e => Property.required.contains e.1) }

/-! ## The writes of a principal -/

namespace Mapper

variable {m : Mapper} {realm : Option Realm} {d d₀ : Principal} {kind : Kind}
  {now : Time.DateTime} {fields : List (String × Value)} {enabled createdDate : Value}
  {identity attributes : Option RecordClass} {properties : OrderedMap String String}

/-- What the resolver reads for a realm from its table. -/
def findRealm? (m : Mapper) (s : Store) (r : Realm) : Option RecordId :=
  m.resolver.bind fun resolver => resolver.find? s r

/-- What is looked at when a principal is written, in order, and the failure if it is so. -/
def refusals (m : Mapper) (s : Store) (realm : Option Realm) (d : Principal) :
    List (Bool × Failure) :=
  [(! m.discriminators.tokens.contains d.kind, .configuration (.kindUnregistered d.kind.name)),
    (d.enabled.isNull, .integrity (.valueMissing Property.enabled)),
    (d.createdDate.isNull, .integrity (.valueMissing Property.created))] ++
  realm.toList.flatMap fun r =>
    [(m.resolver.isNone, .configuration (.resolverMissing r.id)),
      ((m.findRealm? s r).isNone, .fault (.notFound "Partition" r.id))]

/-- The failure by which writing a principal is refused. -/
def refusal? (m : Mapper) (s : Store) (realm : Option Realm) (d : Principal) : Option Failure :=
  ((m.refusals s realm d).find? (·.1)).map Prod.snd

/-- The verdicts on the writes of a principal. -/
def verdicts (m : Mapper) (s : Store) (realm : Option Realm) (d : Principal) :
    List (Option Failure) :=
  [if m.discriminators.tokens.contains d.kind then none
    else some (.configuration (.kindUnregistered d.kind.name)),
    none,
    if d.enabled.isNull then some (.integrity (.valueMissing Property.enabled)) else none,
    if d.createdDate.isNull then some (.integrity (.valueMissing Property.created)) else none,
    none] ++
  realm.toList.map (fun r =>
    if m.resolver.isNone then some (.configuration (.resolverMissing r.id))
    else if (m.findRealm? s r).isNone then some (.fault (.notFound "Partition" r.id))
    else none) ++
  m.variant.form.written.map fun _ => none

/-- The first verdict is the first refusal. -/
theorem findSome?_verdicts (m : Mapper) (s : Store) (realm : Option Realm) (d : Principal) :
    (m.verdicts s realm d).findSome? (fun verdict => verdict) = m.refusal? s realm d := by
  have ofFields : (m.variant.form.written.map fun _ => (none : Option Failure)).findSome?
      (fun verdict => verdict) = none := by simp
  unfold verdicts refusal? refusals
  rw [List.findSome?_append, ofFields, Option.or_none, List.findSome?_append]
  cases realm with
  | none =>
    cases m.discriminators.tokens.contains d.kind <;> cases d.enabled.isNull <;>
      cases d.createdDate.isNull <;> rfl
  | some r =>
    simp only [Option.toList_some, List.map_cons, List.map_nil, List.flatMap_cons, List.flatMap_nil]
    cases m.discriminators.tokens.contains d.kind <;> cases d.enabled.isNull <;>
      cases d.createdDate.isNull <;> cases m.resolver.isNone <;>
      cases (m.findRealm? s r).isNone <;> rfl

section
variable (found : s.record? id = some r) (ofClass : r.cls = m.bindings.identityClass)
include found ofClass

/-- Of what is required, absence is refused and nothing else. -/
theorem gives_required
    (accepted : Bindings.create identity attributes properties = .ok m.bindings)
    (plain : m.bindings.Plain) (required : p ∈ Property.required)
    (among : p ∈ Property.ofIdentities ∧ p ≠ Property.realm) (v : Value) :
    Writing.Gives m.bindings id s ⟨p, StoreM.lift (.ok v), true⟩
      (if v.isNull then some (.integrity (.valueMissing p)) else none) := by
  cases absent : v.isNull with
  | true =>
    obtain rfl : v = .null := by cases v <;> first | rfl | cases absent
    obtain ⟨attr, bound⟩ := Bindings.find?_of_create accepted required
    exact Writing.gives_of_null id s bound
  | false =>
    exact Writing.gives_none found ofClass (Bindings.meets_required accepted required absent)
      (plain.takes among v) fun _ _ => rfl

/-- What is optional is not refused. -/
theorem gives_optional (plain : m.bindings.Plain)
    (among : p ∈ Property.ofIdentities ∧ p ≠ Property.realm) {given : Except Failure Value}
    (value : given = .ok v) :
    Writing.Gives m.bindings id s ⟨p, StoreM.lift given, false⟩ none :=
  Writing.gives_none found ofClass (Bindings.meets_optional _ _ _) (plain.takes among v)
    fun _ _ => by rw [value]; rfl

/-- A realm is refused without a resolver, and where it is not stored. -/
theorem gives_realm (placed : m.bindings.Places)
    (reads : ∀ resolver ∈ m.resolver, ∃ partitions, resolver = .table partitions) (realm : Realm) :
    Writing.Gives m.bindings id s ⟨Property.realm, m.storedForm realm, false⟩
      (if m.resolver.isNone then some (.configuration (.resolverMissing realm.id))
      else if (m.findRealm? s realm).isNone then
        some (.fault (.notFound "Partition" realm.id))
      else none) := by
  cases configured : m.resolver with
  | none =>
    refine Writing.gives_of_missing _ _ fun u _ => ?_
    rw [storedForm, configured]
    rfl
  | some resolver =>
    obtain ⟨partitions, rfl⟩ := reads resolver configured
    have same (u : Store) (assigned : s.Assigned u) :
        RealmResolver.findIn partitions u realm = RealmResolver.findIn partitions s realm :=
      RealmResolver.findIn_of_sameTables assigned.sameTables ..
    rw [findRealm?, configured, Option.bind_some, RealmResolver.find?]
    cases stored : RealmResolver.findIn partitions s realm with
    | none =>
      refine Writing.gives_of_missing _ _ fun u assigned => ?_
      simp only [storedForm, configured]
      exact RealmResolver.outcome_lookup_table_of_none ((same u assigned).trans stored)
    | some target =>
      refine Writing.gives_none found ofClass (Bindings.meets_optional _ _ _)
        (placed.takes target) fun u assigned => ?_
      simp only [storedForm, configured]
      exact RealmResolver.outcome_lookup_table ((same u assigned).trans stored)

/-- A kind without a token is refused, and a token is not absent. -/
theorem gives_token (accepted : Bindings.create identity attributes properties = .ok m.bindings)
    (plain : m.bindings.Plain)
    (tokens : ∀ token, m.discriminators.tokenFor kind = .ok token → token.isNull = false) :
    Writing.Gives m.bindings id s
      ⟨Property.discriminator, StoreM.lift (m.discriminators.tokenFor kind), true⟩
      (if m.discriminators.tokens.contains kind then none
      else some (.configuration (.kindUnregistered kind.name))) := by
  unfold Discriminators.tokenFor at tokens ⊢
  rw [OrderedMap.contains]
  cases given : m.discriminators.tokens.find? kind with
  | none => exact Writing.gives_of_missing _ _ fun _ _ => rfl
  | some token =>
    rw [given] at tokens
    exact Writing.gives_none found ofClass
      (Bindings.meets_required accepted (by decide) (tokens token rfl))
      (plain.takes (by decide) token) fun _ _ => rfl

/-- The verdicts on the writes of a principal that has the fields its variant writes. -/
theorem gives_writings
    (accepted : Bindings.create identity attributes properties = .ok m.bindings)
    (plain : m.bindings.Plain) (placed : m.bindings.Places)
    (reads : ∀ resolver ∈ m.resolver, ∃ partitions, resolver = .table partitions)
    (tokens : ∀ token, m.discriminators.tokenFor d.kind = .ok token → token.isNull = false)
    (suits : ∀ e ∈ m.variant.form.written, ∃ x, d.profile.get? e.2 = some x)
    (realm : Option Realm) :
    List.Forall₂ (Writing.Gives m.bindings id s) (m.writings realm d) (m.verdicts s realm d) := by
  refine List.rel_append (List.rel_append ?_ ?_) ?_
  · have token := gives_token found ofClass accepted plain tokens
    have required {p : Property} := gives_required (p := p) found ofClass accepted plain
    have key := required (p := Property.key) (by decide) (by decide) (.text d.key)
    have enabled := required (p := Property.enabled) (by decide) (by decide) d.enabled
    have created := required (p := Property.created) (by decide) (by decide) d.createdDate
    have expires := gives_optional (p := Property.expires) (v := d.expirationDate) found ofClass
      plain (by decide) rfl
    exact .cons token (.cons key (.cons enabled (.cons created (.cons expires .nil))))
  · rw [List.forall₂_map_left_iff, List.forall₂_map_right_iff, List.forall₂_same]
    exact fun r _ => gives_realm found ofClass placed reads r
  · rw [List.forall₂_map_left_iff, List.forall₂_map_right_iff, List.forall₂_same]
    intro field among
    obtain ⟨x, has⟩ := suits field among
    have written : field.1 ∈ m.variant.form.properties :=
      List.mem_append_right _ (List.mem_map_of_mem among)
    exact gives_optional found ofClass plain (m.variant.form.properties_spec.2 field.1 written)
      (by rw [Principal.getProfile, has])

end

/-- No refusal is for a missing binding. -/
theorem refusal?_ne_bindingMissing (m : Mapper) (s : Store) (realm : Option Realm)
    (d : Principal) (p : Property) :
    m.refusal? s realm d ≠ some (.configuration (.bindingMissing p)) := by
  intro refused
  obtain ⟨refusal, first, same⟩ := Option.map_eq_some_iff.mp refused
  have among := List.mem_of_find?_eq_some first
  unfold refusals at among
  cases realm <;>
    simp only [Option.toList_none, Option.toList_some, List.flatMap_nil, List.flatMap_cons,
      List.append_nil, List.cons_append, List.nil_append, List.mem_cons, List.not_mem_nil,
      or_false] at among
  · rcases among with rfl | rfl | rfl <;> cases same
  · rcases among with rfl | rfl | rfl | rfl | rfl <;> cases same

/-- Writing a principal of a kind at or below that of a built-in variant fails by the first refusal
that applies and succeeds if none does, whatever was assigned to its flag and its date since the
construction; a token is a text, so it is never absent itself. In particular the writing never fails
for a missing binding, whichever of the optional properties are bound. -/
theorem outcome_populate_eq
    (accepted : Bindings.create identity attributes properties = .ok m.bindings)
    (plain : m.bindings.Plain) (placed : m.bindings.Places)
    (builtin : m.variant ∈ Variant.builtins)
    (reads : ∀ resolver ∈ m.resolver, ∃ partitions, resolver = .table partitions)
    (tokens : ∀ token, m.discriminators.tokenFor kind = .ok token → token.isNull = false)
    (found : s.record? id = some r) (ofClass : r.cls = m.bindings.identityClass)
    (made : Principal.create now kind fields = .ok d₀)
    (below : kind.isSubkindOf m.variant.kind = true)
    (changed : d = { d₀ with enabled, createdDate }) (realm : Option Realm) :
    ((m.populate realm id d).outcome s).1 = Failure.resultOf (m.refusal? s realm d) ∧
      ∀ p, ((m.populate realm id d).outcome s).1 ≠
        .error (.configuration (.bindingMissing p)) := by
  have constructed := Principal.Constructed.of_create made
  have ofKind : d.kind = kind := by rw [changed]; exact constructed.kind
  have suits : ∀ e ∈ m.variant.form.written, ∃ x, d₀.profile.get? e.2 = some x := by
    have fits : Variant.Fits { m.variant with kind } :=
      Kind.isSubkindOf_trans below (Variant.fits_of_builtin m.variant builtin)
    exact Variant.get?_of_written (v := { m.variant with kind }) fits constructed
  have result : ((m.populate realm id d).outcome s).1 = Failure.resultOf (m.refusal? s realm d) := by
    rw [populate_eq_performAll, ← findSome?_verdicts]
    exact Writing.outcome_performAll (gives_writings found ofClass accepted plain placed reads
      (ofKind ▸ tokens) (changed ▸ suits) realm) (.refl s)
  refine ⟨result, fun p failed => refusal?_ne_bindingMissing m s realm d p ?_⟩
  rw [result] at failed
  cases refusal : m.refusal? s realm d with
  | none =>
    rw [refusal] at failed
    cases failed
  | some e =>
    rw [refusal] at failed
    cases failed
    rfl

/-- Where only what is required is bound, a user with an address is written to a record. Without a
date this is refused for the date, although the realm is not stored either. -/
theorem outcome_populate_of_bare : ∃ (reg : Registry) (m : Mapper) (zoe : Principal) (s : Store),
    Bindings.create (some Standard.identityClass) (some Standard.attributeClass)
      Standard.bare.properties = .ok Standard.bare ∧
    Registry.withBuiltins Standard.bare (some .stored) = .ok reg ∧
    m = ⟨.user, Standard.bare, reg.discriminators, some .stored⟩ ∧
    Principal.create ⟨.epoch, none⟩ .user [("login_name", .text "zoe"),
      ("email", .text "zoe@example.org")] = .ok zoe ∧
    (m.create none zoe).outcome ⟨Standard.catalog, [], []⟩ = (.ok 0, s) ∧
    ((m.populate none 0 zoe).outcome s).1 = .ok () ∧
    ((m.populate (some ⟨"north", none⟩) 0 zoe).outcome s).1 =
      .error (.fault (.notFound "Partition" "north")) ∧
    ((m.populate (some ⟨"north", none⟩) 0 { zoe with createdDate := .null }).outcome s).1 =
      .error (.integrity (.valueMissing Property.created)) := by
  have accepted : Bindings.create (some Standard.identityClass) (some Standard.attributeClass)
      Standard.bare.properties = .ok Standard.bare :=
    Bindings.create_of_fault?_eq_none (b := Standard.bare) (by decide +kernel)
  have plain : Standard.bare.Plain := .of_all (by decide)
  have placed : Standard.bare.Places := nofun
  obtain ⟨reg, m, zoe, s, r, registered, isMapper, made, written, found, ofClass, known, notStored⟩ :
      ∃ (reg : Registry) (m : Mapper) (zoe : Principal) (s : Store) (r : Record),
        Registry.withBuiltins Standard.bare (some .stored) = .ok reg ∧
        m = ⟨.user, Standard.bare, reg.discriminators, some .stored⟩ ∧
        Principal.create ⟨.epoch, none⟩ .user [("login_name", .text "zoe"),
          ("email", .text "zoe@example.org")] = .ok zoe ∧
        (m.create none zoe).outcome ⟨Standard.catalog, [], []⟩ = (.ok 0, s) ∧
        s.record? 0 = some r ∧ r.cls = Standard.bare.identityClass ∧
        reg.discriminators.tokens.contains zoe.kind = true ∧
        RealmResolver.stored.find? s ⟨"north", none⟩ = none :=
    ⟨_, _, _, _, _, rfl, rfl, rfl, rfl, rfl, rfl, rfl, rfl⟩
  subst isMapper
  have tokens : ∀ token, reg.discriminators.tokenFor .user = .ok token → token.isNull = false := by
    intro token given
    have own := (Registry.ServesBuiltins.of_withBuiltins registered).token .user (by decide)
    cases own.symm.trans given
    rfl
  have result {d : Principal} {enabled createdDate : Value}
      (changed : d = { zoe with enabled, createdDate }) (realm : Option Realm) :=
    (outcome_populate_eq (m := ⟨.user, Standard.bare, reg.discriminators, some .stored⟩) accepted
      plain placed (by decide : Variant.user ∈ Variant.builtins)
      (fun resolver given => ⟨_, (Option.some.inj given).symm⟩) tokens found ofClass made
      (Kind.isSubkindOf_refl .user) changed realm).1
  have constructed := Principal.Constructed.of_create made
  obtain ⟨enabled, isEnabled⟩ := constructed.enabled
  obtain ⟨created, isCreated⟩ := constructed.created
  refine ⟨reg, _, zoe, s, accepted, registered, rfl, made, written, ?_, ?_, ?_⟩
  all_goals
    rw [result rfl]
    simp [refusal?, refusals, findRealm?, known, isEnabled, isCreated, notStored, Value.isNull,
      Failure.resultOf]

end Mapper

end Principals
