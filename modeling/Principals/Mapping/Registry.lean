import Principals.Mapping.Mapper

/-!
# The registry of variants

A `Registry` has one variant per kind, chosen by the kind of a principal or by the discriminator of
a record. Registering a variant gives its kind a token first, which can fail; then nothing changes.
-/

namespace Principals

/-- The variants of a directory, by kind. -/
structure Registry where
  bindings : Bindings
  resolver : Option RealmResolver := none
  discriminators : Discriminators := {}
  variants : OrderedMap Kind Variant := ∅

namespace Registry

/-- Registers a variant for its kind. -/
def register (r : Registry) (v : Variant) : Except Failure Registry := do
  let discriminators ← r.discriminators.register v.kind (.text v.discriminator)
  .ok { r with discriminators, variants := r.variants.insert v.kind v }

/-- The mapper of a variant over this registry. -/
def mapperOf (r : Registry) (v : Variant) : Mapper := ⟨v, r.bindings, r.discriminators, r.resolver⟩

/-- The mapper of a kind. -/
def forKind (r : Registry) (kind : Kind) : Except Failure Mapper :=
  match r.variants.find? kind with
  | some v => .ok (r.mapperOf v)
  | none => .error (.configuration (.mapperMissing kind.name))

/-- The mapper of a record, by its discriminator. -/
def forRecord (r : Registry) (s : Store) (id : RecordId) : Except Failure Mapper := do
  let token ← r.bindings.read s id Property.discriminator true
  let kind ← r.discriminators.kindFor token
  r.forKind kind

/-- Makes a record of a principal, by the mapper of its kind. -/
def create (r : Registry) (realm : Option Realm) (d : Principal) : StoreM RecordId := do
  let m ← StoreM.lift (r.forKind d.kind)
  m.create realm d

/-- Restores the principal of a record, by the mapper that its discriminator names. -/
def restore (r : Registry) (realm : Option Realm) (s : Store) (id : RecordId) :
    Except Failure Principal := do
  let m ← r.forRecord s id
  m.restore realm s id

/-- A registry with the variants that come with the library. -/
def withBuiltins (bindings : Bindings) (resolver : Option RealmResolver) :
    Except Failure Registry :=
  Variant.builtins.foldlM register { bindings, resolver }

end Registry

end Principals
