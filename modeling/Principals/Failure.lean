import Principals.Value.Text

/-!
# Failures

Three layers of failures, each named for its cause:

* a `Fault` is the directory's own: a schema or registry that does not fit (`ConfigurationFault`),
  a stored or given value that must be there and is not (`IntegrityFault`), a realm not stored;
* an `Issue` is what is wrong with one input field, at its place inside the input;
* a `Failure` is either of these, or a fault of the caller or of the tables underneath.

`Fault.report` gives message, code and details of the first layer.
-/

namespace Principals

/-! ## The directory's own faults -/

/-- A schema or a registry does not fit what is asked of it. -/
inductive ConfigurationFault
  | identityClassMissing
  | attributeClassMissing
  /-- The class has no table. -/
  | unmapped (description : String)
  | requiredBindingMissing (property : String)
  /-- A property is bound to an attribute that its record class does not have. -/
  | unknownAttribute (property owner attr : String)
  | bindingMissing (property : String)
  /-- The owner of an attribute row has no key yet, and no relationship carries it. -/
  | ownerUnsaved
  | notConstructible (className reason : String)
  | resolverMissing (realmId : String)
  | tokenTaken (token : Value) (holder newcomer : String)
  | tokenUnknown (token : Value)
  | kindUnregistered (kind : String)
  | mapperMissing (kind : String)
deriving DecidableEq, Repr

/-- A value that must be there is missing, or belongs elsewhere. -/
inductive IntegrityFault
  | valueMissing (property : String)
  | storedValueMissing (property : String)
  | discriminatorMismatch (found : Value) (expected : String)
  | malformedKey (key : String)
  | keyMismatch (key keyPrefix : String)
deriving DecidableEq, Repr

/-- A fault of the directory. -/
inductive Fault
  | configuration (f : ConfigurationFault)
  | integrity (f : IntegrityFault)
  | notFound (entity id : String)
deriving DecidableEq, Repr

/-- The families of faults that callers tell apart. -/
inductive Report.Family
  | general
  | configuration
  | integrity
  | notFound
deriving DecidableEq, Repr

/-- What a fault tells its caller. -/
structure Report where
  family : Report.Family
  message : Value
  code : Value
  details : Value
deriving DecidableEq, Repr

namespace Report

/-- Details, or an empty mapping in place of absent ones. -/
def orEmpty (details : Value) : Value := if details.isTruthy then details else .mapping []

/-- A report that belongs to no narrower family. -/
def general (message code details : Value) : Report := ⟨.general, message, code, orEmpty details⟩

/-- The code of a report for which none is given. -/
def generalCode : Value := .text "IDENTITY_STORE_ERROR"

/-- A report about a schema or a registry. -/
def configuration (message details : Value) : Report :=
  ⟨.configuration, message, .text "IDENTITY_STORE_CONFIGURATION", orEmpty details⟩

/-- The message about a required property without a value. -/
def missingText (property : Value) : String := "Required property is missing: " ++ property.plain

/-- A report about a property; an absent message is replaced by the one about a missing value. -/
def integrity (property message : Value) : Report :=
  ⟨.integrity, if message.isTruthy then message else .text (missingText property),
    .text "IDENTITY_STORE_DATA_INTEGRITY", .mapping [(.text "property", property)]⟩

/-- A report about an entity that is not stored. -/
def notFound (entity id : Value) : Report :=
  ⟨.notFound, .text (entity.plain ++ " not found: " ++ id.plain), .text "IDENTITY_STORE_NOT_FOUND",
    .mapping [(.text "entity", entity), (.text "id", id)]⟩

/-- The message as text. -/
def text (r : Report) : String := r.message.plain

end Report

namespace ConfigurationFault

/-- The wording of a configuration fault. -/
def message : ConfigurationFault → String
  | identityClassMissing => "Identity record class is not configured"
  | attributeClassMissing => "Attribute record class is not configured"
  | unmapped description => description ++ " is not a mapped SQLAlchemy class"
  | requiredBindingMissing property => "Required property binding is missing: " ++ property
  | unknownAttribute property owner attr =>
    "Property " ++ property ++ " is bound to unknown attribute " ++ owner ++ "." ++ attr
  | bindingMissing property => "Property binding is not configured: " ++ property
  | ownerUnsaved =>
    "Owner reference is bound to a foreign key column without a relationship; " ++
      "the identity record must be flushed before attribute records can reference it"
  | notConstructible className reason =>
    "Record class " ++ className ++ " cannot be instantiated: " ++ reason
  | resolverMissing _ => "A partition was supplied but no partition resolver is configured"
  | tokenTaken token holder _ =>
    "Discriminator " ++ token.shown ++ " is already registered for " ++ holder
  | tokenUnknown token => "Unknown discriminator: " ++ token.shown
  | kindUnregistered kind => "No discriminator registered for " ++ kind
  | mapperMissing kind => "No mapper registered for " ++ kind

/-- What a configuration fault names. -/
def details : ConfigurationFault → List (String × Value)
  | identityClassMissing | attributeClassMissing => []
  | unmapped description => [("type", .text description)]
  | requiredBindingMissing property | bindingMissing property => [("property", .text property)]
  | unknownAttribute property _ attr =>
    [("property", .text property), ("attribute", .text attr)]
  | ownerUnsaved => [("property", .text "attribute.identity")]
  | notConstructible className _ => [("type", .text className)]
  | resolverMissing realmId => [("partition", .text realmId)]
  | tokenTaken token _ newcomer => [("discriminator", token), ("type", .text newcomer)]
  | tokenUnknown token => [("discriminator", token)]
  | kindUnregistered kind | mapperMissing kind => [("type", .text kind)]

end ConfigurationFault

/-- The message about a key that does not split. -/
def malformedKeyText (key : String) : String := "Malformed identity key: " ++ Text.quoted key

namespace IntegrityFault

/-- The property that an integrity fault is about. -/
def property : IntegrityFault → String
  | valueMissing property | storedValueMissing property => property
  | discriminatorMismatch .. => "identity.discriminator"
  | malformedKey _ | keyMismatch .. => "identity.key"

/-- The wording of an integrity fault. -/
def message : IntegrityFault → String
  | valueMissing property => Report.missingText (.text property)
  | storedValueMissing property => "Stored record has no value for required property " ++ property
  | discriminatorMismatch found expected =>
    "Record discriminator " ++ found.shown ++ " does not match variant " ++ Text.quoted expected
  | malformedKey key => malformedKeyText key
  | keyMismatch key keyPrefix =>
    "Key " ++ Text.quoted key ++ " does not belong to variant " ++ keyPrefix

end IntegrityFault

/-- What a fault tells its caller. -/
def Fault.report : Fault → Report
  | .configuration f =>
    .configuration (.text f.message) (.mapping (f.details.map fun e => (.text e.1, e.2)))
  | .integrity f => .integrity (.text f.property) (.text f.message)
  | .notFound entity id => .notFound (.text entity) (.text id)

/-! ## Issues of input fields -/

/-- One step on the way to the place of an issue. -/
inductive Locator
  | name (s : String)
  | number (n : Int)
deriving DecidableEq, Repr

/-- What is wrong with a part of an input. -/
inductive Problem
  | missing
  | stringType
  | stringTooShort
  | stringTooLong
  | stringUnicode
  | boolType
  | boolParsing
  | datetimeType
  | datetimeParsing
  | datetimeFromDateParsing
  | modelType
  | dictType
  | listType
  | notAMember
  | frozen
  /-- A rule on the whole input is broken. -/
  | rule (message : String)
deriving DecidableEq, Repr

/-- The code of a problem. -/
def Problem.code : Problem → String
  | missing => "missing"
  | stringType => "string_type"
  | stringTooShort => "string_too_short"
  | stringTooLong => "string_too_long"
  | stringUnicode => "string_unicode"
  | boolType => "bool_type"
  | boolParsing => "bool_parsing"
  | datetimeType => "datetime_type"
  | datetimeParsing => "datetime_parsing"
  | datetimeFromDateParsing => "datetime_from_date_parsing"
  | modelType => "model_type"
  | dictType => "dict_type"
  | listType => "list_type"
  | notAMember => "enum"
  | frozen => "frozen_instance"
  | rule _ => "value_error"

/-- The message about a broken rule. -/
def Problem.message? : Problem → Option String
  | rule message => some ("Value error, " ++ message)
  | _ => none

/-- A problem at its place. -/
structure Issue where
  place : List Locator
  problem : Problem
deriving DecidableEq, Repr

/-! ## Failures -/

/-- Why an operation gives no result. -/
inductive Failure
  | fault (f : Fault)
  /-- The input of the named model has issues. -/
  | invalid (model : String) (issues : List Issue)
  | malformedKey (key : String)
  /-- A value is of a sort that the operation does not take. -/
  | wrongType
  /-- A thing is asked for a part that it does not have. -/
  | noSuchPart
  /-- A value is of the right sort, but not one of those allowed. -/
  | badValue
  /-- A collaborator outside the directory gave up. -/
  | collaborator
  /-- No clause can be built from an operand. -/
  | badOperand
  /-- A column is asked of a class that does not have it. -/
  | foreignColumn
  /-- A class without a table is used as a query entity. -/
  | notQueryable
  /-- A column cannot take a value. -/
  | badCell
  /-- A value cannot be sent to the tables at all. -/
  | unsendable
  /-- A constraint of the tables is violated. -/
  | constraint
  /-- An integer does not fit a table cell. -/
  | cellOverflow
  /-- A record is not in the state that the operation needs. -/
  | badRecordState
  | unserializable
  | undecodable
deriving DecidableEq, Repr

namespace Failure

/-- A configuration fault as a failure. -/
def configuration (f : ConfigurationFault) : Failure := .fault (.configuration f)

/-- An integrity fault as a failure. -/
def integrity (f : IntegrityFault) : Failure := .fault (.integrity f)

end Failure

end Principals
