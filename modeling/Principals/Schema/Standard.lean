import Principals.Schema.Basic
import Principals.Schema.Property

/-!
# The standard schema

One table holds the identity records of all kinds, told apart by the discriminator; another holds
one row per attribute value; a third holds the realms. Every column or relationship that stands for
a property carries its name.
-/

namespace Principals.Standard

/-- Stored realms. -/
def realmClass : RecordClass where
  name := "PartitionObject"
  table := "identity_partitions"
  primaryKey := ["id"]
  headline := ["id", "name"]
  members := [
    .column { attr := "id", column := "id", type := .text, nullable := false },
    .column { attr := "name", column := "name", type := .text }]

/-- Identity records of all kinds. -/
def identityClass : RecordClass where
  name := "IdentityObject"
  table := "identity_objects"
  primaryKey := ["id"]
  headline := ["id", "discriminator", "key"]
  members := [
    .column { attr := "id", column := "id", type := .integer, nullable := false },
    .column { attr := "discriminator", column := "discriminator", type := .text, nullable := false,
              label := some Property.discriminator },
    .column { attr := "key", column := "key", type := .text, nullable := false,
              label := some Property.key },
    .column { attr := "enabled", column := "enabled", type := .boolean, nullable := false,
              label := some Property.enabled },
    .column { attr := "created", column := "created", type := .timestamp, nullable := false,
              label := some Property.created },
    .column { attr := "expires", column := "expires", type := .timestamp,
              label := some Property.expires },
    .column { attr := "partition_id", column := "partition_id", type := .text },
    .relationship { attr := "partition", target := "PartitionObject", localAttr := "partition_id",
                    remote := "id", label := some Property.realm },
    .column { attr := "name", column := "name", type := .text, label := some Property.name },
    .column { attr := "first_name", column := "first_name", type := .text,
              label := some Property.firstName },
    .column { attr := "last_name", column := "last_name", type := .text,
              label := some Property.lastName },
    .column { attr := "email", column := "email", type := .text, label := some Property.email },
    .column { attr := "group_path", column := "group_path", type := .text,
              label := some Property.groupPath }]
  collections := ["attributes"]

/-- Attribute records: the owner, the name and one value. -/
def attributeClass : RecordClass where
  name := "IdentityObjectAttribute"
  table := "identity_object_attributes"
  primaryKey := ["id"]
  headline := ["identity_id", "name", "value"]
  members := [
    .column { attr := "id", column := "id", type := .integer, nullable := false },
    .column { attr := "identity_id", column := "identity_id", type := .integer,
              nullable := false },
    .relationship { attr := "identity", target := "IdentityObject", localAttr := "identity_id",
                    remote := "id", backref := some "attributes",
                    label := some Property.attributeOwner },
    .column { attr := "name", column := "name", type := .text, nullable := false,
              label := some Property.attributeName },
    .column { attr := "value", column := "value", type := .text, nullable := false,
              label := some Property.attributeValue }]

/-- The classes of the standard schema. -/
def catalog : Catalog := ⟨[realmClass, identityClass, attributeClass]⟩

end Principals.Standard
