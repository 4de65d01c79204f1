import Principals.Principal.Basic
import Principals.Value.Document

/-!
# The document of a principal

A principal leaves as an object with one member per field, in the order in which the fields are
declared. The description of a lifecycle event leaves the attributes out.
-/

namespace Principals

namespace Document

/-- The object of named values, member by member. -/
def ofFields : List (String × Value) → Except Failure (List (String × Document))
  | [] => .ok []
  | (name, v) :: rest => do
    let d ← ofValue v
    let ds ← ofFields rest
    .ok ((name, d) :: ds)

end Document

namespace Principal

/-- The document of a principal. -/
def document (d : Principal) : Except Failure Document :=
  (Document.ofFields d.fields).map .object

/-- The document of a principal without its attributes. -/
def documentSansAttributes (d : Principal) : Except Failure Document :=
  (Document.ofFields (d.fields.filter fun f => f.1 ≠ "attributes")).map .object

end Principal

end Principals
