import Principals.Store.Flush

/-!
# Predicates on stored records

A `Predicate` is a condition on the rows of one class: a test of a column, or the condition that an
identity has as many attribute rows of a name and among some values as there are values. It has two
readings that this library keeps side by side: the clause that it is written as
(`Principals.Query.Clause`) and, here, the rows that it holds of.

An empty cell passes no test but the one for emptiness. A value is compared as the cell that it is
sent as, under the affinity of the column.

* `AttributeTest.owners`: attribute rows are grouped by their owner, and a group is counted against
  the number of values;
* `Comparison.not_holds_of_null`: no comparison holds of an empty cell.
-/

namespace Principals

/-- A comparison of a column with a value. -/
inductive Comparison
  | equal
  | above
  | below
deriving DecidableEq, Repr

/-- A test of one column. -/
inductive Test
  | isNull
  /-- Equality with a truth value, which is written into the clause. -/
  | is (b : Bool)
  | compare (op : Comparison) (v : Value)
  | within (values : List Value)
deriving Repr

/-- The condition on the attribute rows of an identity: the class that holds them, the columns for
owner, name and value, and the column of the identity that owners refer to. -/
structure AttributeTest where
  identity : Column
  cls : RecordClass
  owner : Column
  name : Column
  value : Column
  nameTest : Test
  values : List Value
deriving Repr

/-- A condition on the rows of a class. -/
inductive Predicate
  | never
  | column (c : Column) (t : Test)
  /-- The reference in a column names a record whose key is `v`. -/
  | refersTo (c : Column) (v : Value)
  | hasAttributes (t : AttributeTest)
deriving Repr

/-! ## Sending values -/

/-- How values are sent to be compared with a column of a type, when the first of them is the given
one: all of them as what the first is, or as the column stores them if that settles nothing. -/
def ColumnType.sender (t : ColumnType) : Value → Value → Except Failure Cell
  | .bool _ => Cell.ofBool
  | .moment _ => Cell.ofMoment
  | .float _ => Cell.ofNumber
  | .bytes _ => Cell.ofBytes
  | .int _ | .text _ => Cell.ofPlain
  | _ => t.send

namespace Column

/-- The cells that the values of a list are compared as. -/
def operands (c : Column) (values : List Value) : List (Except Failure Cell) :=
  match values with
  | [] => []
  | first :: _ => values.map fun v => (c.type.sender first v).map c.type.affinity.apply

/-- The cell that a value is compared as. -/
def operand (c : Column) (v : Value) : Except Failure Cell :=
  (c.type.sender v v).map c.type.affinity.apply

/-- The content of the column in a row. -/
def cellIn (c : Column) (row : Row) : Cell := (row.find? c.attr).getD .null

end Column

namespace Comparison

/-- Whether two cells compare so. -/
def holds (op : Comparison) (a b : Cell) : Bool :=
  match op with
  | equal => a.order b == some .eq
  | above => a.order b == some .gt
  | below => a.order b == some .lt

end Comparison

/-! ## The rows that a predicate holds of -/

/-- Whether the cells of a list include one that equals a cell. -/
def anySame (cell : Cell) (operands : List (Except Failure Cell)) : Bool :=
  operands.any fun o => match o with
    | .ok v => cell.same v
    | .error _ => false

/-- Whether a column of a row passes a test. -/
def Test.holds (c : Column) (row : Row) : Test → Bool
  | isNull => c.cellIn row == .null
  | is b => (c.cellIn row).same (c.type.affinity.apply (.integer (if b then 1 else 0)))
  | compare op v => match c.operand v with
    | .ok o => op.holds (c.cellIn row) o
    | .error _ => false
  | within values => anySame (c.cellIn row) (c.operands values)

namespace AttributeTest

/-- Whether an attribute row has the name and one of the values. -/
def keeps (t : AttributeTest) (row : Row) : Bool :=
  t.nameTest.holds t.name row && (Test.within t.values).holds t.value row

/-- The owners that the subquery gives: of the rows kept, grouped by their owner, the owner of each
that is in a group of as many rows as there are values. Rows without an owner count for no group. -/
def owners (t : AttributeTest) (attributeRows : List Row) : List Cell :=
  let cells := (attributeRows.filter t.keeps).map t.owner.cellIn
  cells.filter fun c => cells.countP c.same == t.values.length

/-- Whether an owner is the identity of a key, as their columns compare. -/
def refers (t : AttributeTest) (owner identity : Cell) : Bool :=
  owner.sameAcross t.owner.type.affinity t.identity.type.affinity identity

/-- Whether the identity in a row is among the owners that the subquery gives. -/
def holds (t : AttributeTest) (attributeRows : List Row) (row : Row) : Bool :=
  (t.owners attributeRows).any fun c => t.refers c (t.identity.cellIn row)

end AttributeTest

namespace Predicate

/-- Whether a predicate holds of a row, given the rows of each class. -/
def holds (tables : String → List Row) (row : Row) : Predicate → Bool
  | never => false
  | column c t => t.holds c row
  | refersTo c v => (Test.compare .equal v).holds c row
  | hasAttributes t => t.holds (tables t.cls.name) row

/-- The cells that a predicate sends. -/
def sent : Predicate → List (Except Failure Cell)
  | never => []
  | column c (.compare _ v) | refersTo c v => [c.operand v]
  | column c (.within values) => c.operands values
  | column _ .isNull | column _ (.is _) => []
  | hasAttributes t =>
    (match t.nameTest with
      | .compare _ v => [t.name.operand v]
      | _ => []) ++ t.value.operands t.values

end Predicate

/-! ## Laws -/

/-- No comparison holds of an empty cell. -/
theorem Comparison.not_holds_of_null (op : Comparison) (b : Cell) : op.holds .null b = false := by
  cases op <;> cases b <;> rfl

/-! ## Selection -/

namespace Store

/-- The failure of sending the values of some predicates: that of a value its type does not take
comes before that of a value that cannot be sent. -/
def checkSent (predicates : List Predicate) : Except Failure Unit :=
  if predicates.any fun p => match p with
    | .never => true
    | _ => false then .ok ()
  else
    let failures := predicates.flatMap Predicate.sent |>.filterMap fun
      | .error e => some e
      | .ok _ => none
    match failures.find? (· = .badCell), failures with
    | some e, _ => .error e
    | none, e :: _ => .error e
    | none, [] => .ok ()

/-- The stored records of a class that satisfy all predicates. -/
def matching (s : Store) (cls : RecordClass) (predicates : List Predicate) : List RecordId :=
  (s.storedOf cls.name).filter fun id => s.test id fun r => match r.row with
    | some row => predicates.all fun p => p.holds s.rowsOf row
    | none => false

/-- Selects the stored records of a class that satisfy all predicates. -/
def select (s : Store) (cls : RecordClass) (predicates : List Predicate) :
    Except Failure (List RecordId) := do
  checkSent predicates
  .ok (s.matching cls predicates)

end Store

end Principals
