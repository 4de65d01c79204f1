import Principals.Schema.Standard

/-!
# Sample schemas

Schemas beside the standard one that differ from it in one respect each:

* `loose…`: nothing is labelled, and attribute rows hold a bare reference to their owner;
* `alternative…`: attributes, columns and labels have names of their own, and attribute rows refer
  to a unique column that is not the primary key;
* `composite…`: identities have a primary key of two parts, and attribute rows have relationships
  besides the column that refers to the owner.
-/

namespace Principals.Samples

/-- A column that goes by the name of its attribute. -/
def column (attr : String) (type : ColumnType) (nullable : Bool) (label : Option Property) :
    Member :=
  .column { attr, column := attr, type, nullable, label }

/-- The number of a row. -/
def numberColumn : Member := column "id" .integer false none

/-! ## Without labels -/

/-- Identities without labels. -/
def looseIdentity : RecordClass where
  name := "LooseIdentity"
  table := "loose_identities"
  primaryKey := ["id"]
  members := [
    numberColumn,
    column "discriminator" .text false none,
    column "key" .text false none,
    column "enabled" .boolean false none,
    column "created" .timestamp false none]

/-- Attribute rows without labels, with a bare reference to the owner. -/
def looseAttribute : RecordClass where
  name := "LooseAttribute"
  table := "loose_attributes"
  primaryKey := ["id"]
  members := [
    numberColumn,
    column "identity_id" .integer false none,
    column "name" .text false none,
    column "value" .text false none]

/-! ## Under other names -/

/-- Identities under other names; two attributes carry the first name. -/
def alternativeIdentity : RecordClass where
  name := "AltIdentity"
  table := "alt_identities"
  primaryKey := ["uid"]
  members := [
    .column { attr := "uid", column := "identity_uid", type := .integer, nullable := false },
    .column { attr := "handle", column := "handle_text", type := .text, unique := true },
    .column { attr := "kind", column := "kind_code", type := .text, nullable := false,
              label := some Property.discriminator },
    column "ident" .text false (some Property.key),
    .column { attr := "active", column := "is_active", type := .boolean, nullable := false,
              label := some Property.enabled },
    column "born" .timestamp false (some Property.created),
    column "label" .text true (some Property.name),
    column "given" .text true (some Property.firstName),
    column "nick" .text true (some Property.firstName),
    column "misc" .text true (some ""),
    column "realm_code" .text true (some Property.realm)]

/-- Attribute rows that refer to their owner by its handle. -/
def alternativeAttribute : RecordClass where
  name := "AltAttribute"
  table := "alt_facts"
  primaryKey := ["id"]
  members := [
    numberColumn,
    .column { attr := "owner_ref", column := "owner_handle", type := .text },
    .relationship { attr := "owner", target := "AltIdentity", localAttr := "owner_ref",
                    remote := "handle", label := some Property.attributeOwner },
    .column { attr := "title", column := "fact_name", type := .text, nullable := false,
              label := some Property.attributeName },
    .column { attr := "content", column := "fact_value", type := .text, nullable := false,
              label := some Property.attributeValue }]

/-! ## With a composite key -/

/-- Something that is no identity. -/
def channel : RecordClass where
  name := "MultiChannel"
  table := "multi_channels"
  primaryKey := ["id"]
  members := [numberColumn]

/-- Identities with a primary key of two parts. -/
def compositeIdentity : RecordClass where
  name := "MultiIdentity"
  table := "multi_identities"
  primaryKey := ["tenant", "num"]
  members := [
    column "tenant" .text false none,
    column "num" .integer false none,
    column "discriminator" .text false (some Property.discriminator),
    column "key" .text false (some Property.key),
    column "enabled" .boolean false (some Property.enabled),
    column "created" .timestamp false (some Property.created)]

/-- Attribute rows with relationships to a channel and to an author; the owner is a bare column. -/
def compositeAttribute : RecordClass where
  name := "MultiAttribute"
  table := "multi_attributes"
  primaryKey := ["id"]
  members := [
    numberColumn,
    column "channel_id" .integer true none,
    column "author_tenant" .text true none,
    column "owner_tenant" .text true (some Property.attributeOwner),
    .relationship { attr := "channel", target := "MultiChannel", localAttr := "channel_id",
                    remote := "id" },
    .relationship { attr := "author", target := "MultiIdentity", localAttr := "author_tenant",
                    remote := "tenant" },
    column "name" .text false (some Property.attributeName),
    column "value" .text false (some Property.attributeValue)]

/-- All classes, each after those it refers to. -/
def catalog : Catalog :=
  ⟨Standard.catalog.classes ++ [looseIdentity, looseAttribute, alternativeIdentity,
    alternativeAttribute, channel, compositeIdentity, compositeAttribute]⟩

end Principals.Samples
