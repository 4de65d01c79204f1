import Principals.Failure
import Principals.OrderedMap

/-!
# Record classes

A `RecordClass` describes the records of one table: columns, relationships to records of other
classes, and collections that gather the records related the other way round. Columns and
relationships may carry the name of a property, which `RecordClass.labelled` collects.

A class may also have no table, or no way to make a record without arguments.
-/

namespace Principals

/-- What a column holds. -/
inductive ColumnType
  | integer
  | text
  | boolean
  | timestamp
deriving DecidableEq, Repr, Inhabited

/-- A column of a table and the attribute that shows it. -/
structure Column where
  attr : String
  column : String
  type : ColumnType
  nullable : Bool := true
  unique : Bool := false
  label : Option String := none
deriving DecidableEq, Repr, Inhabited

/-- A relationship to one record of another class: the one whose `remote` attribute equals this
record's `localAttr`. -/
structure Relationship where
  attr : String
  target : String
  localAttr : String
  remote : String
  /-- The collection of the target that gathers the records related to it. -/
  backref : Option String := none
  label : Option String := none
deriving DecidableEq, Repr, Inhabited

/-- A part of a record that is shown: a column or a relationship. -/
inductive Member
  | column (c : Column)
  | relationship (r : Relationship)
deriving DecidableEq, Repr

/-- The shape of the records of a class. -/
structure RecordClass where
  name : String
  table : String
  members : List Member
  primaryKey : List String
  /-- Attributes that gather the records related to a record. -/
  collections : List String := []
  /-- The attributes by which a record is announced in one line. -/
  headline : List String := []
  /-- For a class without a table, how messages describe it. -/
  unmapped : Option String := none
  /-- Why no record can be made without arguments, if so. -/
  unconstructible : Option String := none
deriving DecidableEq, Repr, Inhabited

namespace Member

/-- The attribute that shows a member. -/
def attr : Member → String
  | column c => c.attr
  | relationship r => r.attr

/-- The column of a member. -/
def column? : Member → Option Column
  | column c => some c
  | relationship _ => none

/-- The relationship of a member. -/
def relationship? : Member → Option Relationship
  | column _ => none
  | relationship r => some r

end Member

namespace RecordClass

/-- The columns in table order. -/
def columns (c : RecordClass) : List Column := c.members.filterMap Member.column?

/-- The relationships in order. -/
def relationships (c : RecordClass) : List Relationship := c.members.filterMap Member.relationship?

/-- Whether the class has a table. -/
def isMapped (c : RecordClass) : Bool := c.unmapped.isNone

/-- The column that an attribute shows. -/
def column? (c : RecordClass) (attr : String) : Option Column := c.columns.find? (·.attr == attr)

/-- The relationship that an attribute shows. -/
def relationship? (c : RecordClass) (attr : String) : Option Relationship :=
  c.relationships.find? (·.attr == attr)

/-- Whether records of the class have a mapped attribute: a column, a relationship or a collection.
What a class may have besides its mapping cannot be bound. -/
def hasAttr (c : RecordClass) (attr : String) : Bool :=
  c.members.any (·.attr == attr) || c.collections.contains attr

/-- Whether an attribute of a class is neither a relationship nor a collection. -/
def isPlain (c : RecordClass) (attr : String) : Bool :=
  (c.relationship? attr).isNone && ! c.collections.contains attr

/-- The first attribute of the primary key. -/
def keyAttr? (c : RecordClass) : Option String := c.primaryKey.head?

/-- Whether the tables number the records of the class. -/
def isNumbered (c : RecordClass) : Bool :=
  match c.primaryKey with
  | [attr] => (c.column? attr).any (·.type == .integer)
  | _ => false

/-- The fault of a class that has no table. -/
def needTable (c : RecordClass) : Except Failure Unit :=
  match c.unmapped with
  | none => .ok ()
  | some description => .error (.configuration (.unmapped description))

/-- The non-empty labels of the class with the attributes that carry them: relationships first,
then columns; of two attributes with one label the later counts. -/
def labelled (c : RecordClass) : OrderedMap String String :=
  let ofLabel (label : Option String) (attr : String) : Option (String × String) :=
    (label.filter (· ≠ "")).map (·, attr)
  .ofList (c.relationships.filterMap (fun r => ofLabel r.label r.attr) ++
    c.columns.filterMap fun k => ofLabel k.label k.attr)

/-- As `labelled`, for a class that must have a table. -/
def scan (c : RecordClass) : Except Failure (OrderedMap String String) := do
  c.needTable
  .ok c.labelled

end RecordClass

/-- The record classes that know each other. -/
structure Catalog where
  classes : List RecordClass
deriving Repr

/-- The class of a name. -/
def Catalog.find? (g : Catalog) (name : String) : Option RecordClass :=
  g.classes.find? (·.name == name)

end Principals
