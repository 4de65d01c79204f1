import Principals.Schema.Standard
import Principals.Proofs.Bindings.Overlay

/-!
# The bindings of the standard schema

Scanning the labels of the standard classes binds every property: the realm and the owner of an
attribute to relationships, all others to columns of their own.

* `ofLabels_standard`: what the scan gives;
* `bindings_separate`: the identity properties do not get in each other's way.
-/

namespace Principals.Standard

/-- The bindings that the labels of the standard classes give. -/
def bindings : Bindings where
  identityClass := identityClass
  attributeClass := attributeClass
  properties := ⟨[(Property.realm, "partition"), (Property.discriminator, "discriminator"),
    (Property.key, "key"), (Property.enabled, "enabled"), (Property.created, "created"),
    (Property.expires, "expires"), (Property.name, "name"), (Property.firstName, "first_name"),
    (Property.lastName, "last_name"), (Property.email, "email"),
    (Property.groupPath, "group_path"), (Property.attributeOwner, "identity"),
    (Property.attributeName, "name"), (Property.attributeValue, "value")]⟩

theorem fault?_bindings : bindings.fault? = none := by decide +kernel

theorem create_standard :
    Bindings.create (some identityClass) (some attributeClass) bindings.properties =
      .ok bindings :=
  Bindings.create_of_fault?_eq_none fault?_bindings

/-- The labels of the standard classes are accepted, and give these bindings. -/
theorem ofLabels_standard :
    Bindings.ofLabels (some identityClass) (some attributeClass) = .ok bindings :=
  Bindings.ofLabels_of_labels rfl fault?_bindings

theorem bindings_separate : bindings.Separate where
  injective := by
    intro p p_mem q q_mem attr p_bound q_bound
    have apart : ∀ p ∈ Property.ofIdentities, ∀ q ∈ Property.ofIdentities,
        bindings.properties.find? p = bindings.properties.find? q → p = q := by decide
    exact apart p p_mem q q_mem (p_bound.trans q_bound.symm)
  plain := Bindings.Plain.of_all (by decide)
  realm := by
    intro attr bound
    cases bound
    exact .inl rfl

end Principals.Standard
