import Principals.Query.Predicate

/-!
# The written form of predicates

A `Clause` is SQL text with the values that its question marks stand for, in order. Truth values
are written into the text; attribute tables are aliased and numbered within one clause; a
conjunction that cannot hold is written `0 = 1`.
-/

namespace Principals

/-- SQL text and the values it leaves open. -/
structure Clause where
  sql : String
  binds : List Value
deriving Repr

namespace Clause

/-- A name within a table. -/
def qualified (table : String) (c : Column) : String := table ++ "." ++ c.column

/-- The sign of a comparison. -/
def sign : Comparison → String
  | .equal => "="
  | .above => ">"
  | .below => "<"

/-- The list of question marks for values. -/
def marks (values : List Value) : String :=
  "(" ++ ", ".intercalate (values.map fun _ => "?") ++ ")"

/-- A test of a column. -/
def ofTest (column : String) : Test → Clause
  | .isNull => ⟨column ++ " IS NULL", []⟩
  | .is b => ⟨column ++ " = " ++ (if b then "1" else "0"), []⟩
  | .compare op v => ⟨column ++ " " ++ sign op ++ " ?", [v]⟩
  | .within values => ⟨column ++ " IN " ++ marks values, values⟩

/-- The condition on attribute rows, whose table goes by a numbered alias. -/
def ofAttributes (table : String) (number : Nat) (t : AttributeTest) : Clause :=
  let numbered := t.cls.table ++ "_" ++ toString number
  let owner := qualified numbered t.owner
  let name := ofTest (qualified numbered t.name) t.nameTest
  let value := ofTest (qualified numbered t.value) (.within t.values)
  ⟨qualified table t.identity ++ " IN (SELECT " ++ owner ++ " FROM " ++ t.cls.table ++ " AS " ++
      numbered ++ " WHERE " ++ name.sql ++ " AND " ++ value.sql ++ " GROUP BY " ++ owner ++
      " HAVING count(" ++ owner ++ ") = ?)",
    name.binds ++ value.binds ++ [.int t.values.length]⟩

/-- A predicate on a table, and how many aliases it uses. -/
def ofPredicate (table : String) (number : Nat) : Predicate → Clause × Nat
  | .never => (⟨"0", []⟩, 0)
  | .column c t => (ofTest (qualified table c) t, 0)
  | .refersTo c v => (⟨"? = " ++ qualified table c, [v]⟩, 0)
  | .hasAttributes t => (ofAttributes table number t, 1)

/-- The clauses of several predicates, with aliases numbered through. -/
def ofPredicates (table : String) : Nat → List Predicate → List Clause
  | _, [] => []
  | number, p :: rest =>
    let (c, used) := ofPredicate table number p
    c :: ofPredicates table (number + used) rest

/-- A predicate written by itself. -/
def alone (table : String) (p : Predicate) : Clause := (ofPredicate table 1 p).1

/-- Whether a predicate never holds by its form. -/
def isNever : Predicate → Bool
  | .never => true
  | _ => false

/-- A conjunction of predicates. -/
def conjunction (table : String) (predicates : List Predicate) : Clause :=
  if predicates.any isNever then ⟨"0 = 1", []⟩
  else
    let clauses := ofPredicates table 1 predicates
    ⟨" AND ".intercalate (clauses.map Clause.sql), clauses.flatMap Clause.binds⟩

end Clause

end Principals
