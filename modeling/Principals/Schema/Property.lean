/-!
# Properties

A property is an abstract name for a part of a stored record, independent of the attribute and the
column that hold it. Properties of identity records begin with `identity.`, those of attribute
records with `attribute.`.
-/

namespace Principals

/-- The abstract name of a part of a record. -/
abbrev Property := String

namespace Property

def discriminator : Property := "identity.discriminator"
def key : Property := "identity.key"
def enabled : Property := "identity.enabled"
def created : Property := "identity.created"
def expires : Property := "identity.expires"
def realm : Property := "identity.partition"

def name : Property := "identity.name"
def firstName : Property := "identity.first_name"
def lastName : Property := "identity.last_name"
def email : Property := "identity.email"
def groupPath : Property := "identity.group_path"

def attributeOwner : Property := "attribute.identity"
def attributeName : Property := "attribute.name"
def attributeValue : Property := "attribute.value"

/-- The properties without which no directory works, in the order in which they are looked for. -/
def required : List Property :=
  [discriminator, key, enabled, created, attributeOwner, attributeName, attributeValue]

/-- Whether a property belongs to attribute records. -/
def isOfAttributes (property : Property) : Bool := property.startsWith "attribute."

end Property

end Principals
