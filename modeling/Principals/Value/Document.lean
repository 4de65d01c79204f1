import Principals.Decimal.Shortest
import Principals.Failure
import Principals.OrderedMap
import Principals.Text.Quoted

/-!
# Documents

A `Document` is what a value becomes when it leaves as JSON: absence, truth values, numbers, texts,
lists, and objects with text keys. `Document.ofValue` writes a date-time in ISO form with `Z` for
UTC, bytes as the text they encode and a realm as an object; a thing that nothing can look into has
no document. `Document.json` is the JSON text, in ASCII.
-/

namespace Principals

/-- A JSON document. -/
inductive Document
  | null
  | bool (b : Bool)
  | int (n : Int)
  | float (x : Decimal.Double)
  | text (s : String)
  | list (items : List Document)
  | object (entries : List (String × Document))
deriving Repr, Inhabited

/-- The text that bytes encode in UTF-8. -/
def textOfBytes? (bytes : List UInt8) : Option String := String.fromUTF8? ⟨bytes.toArray⟩

namespace Document

/-- The text of a mapping key. -/
def keyOfValue : Value → Except Failure String
  | .null => .ok "None"
  | .bool b => .ok (if b then "true" else "false")
  | .int n => .ok (toString n)
  | .float x => .ok (Decimal.shortestText x)
  | .text s => .ok s
  | .moment d => .ok d.documentText
  | .bytes b => match textOfBytes? b with
    | some s => .ok s
    | none => .error .undecodable
  | .list _ | .mapping _ | .realm _ | .foreign _ | .record _ => .error .unserializable

/-- A realm as an object. -/
def ofRealm (r : Realm) : Document :=
  .object [("id", .text r.id), ("name", match r.name with
    | some name => .text name
    | none => .null)]

mutual

/-- The document of a value. -/
def ofValue : Value → Except Failure Document
  | .null => .ok .null
  | .bool b => .ok (.bool b)
  | .int n => .ok (.int n)
  | .float x => .ok (.float x)
  | .text s => .ok (.text s)
  | .moment d => .ok (.text d.documentText)
  | .bytes b => match textOfBytes? b with
    | some s => .ok (.text s)
    | none => .error .undecodable
  | .list items => (ofValues items).map .list
  | .mapping entries => (ofEntries entries ∅).map fun m => .object m.entries
  | .realm r => .ok (ofRealm r)
  | .foreign _ | .record _ => .error .unserializable

/-- The documents of a list of values. -/
def ofValues : List Value → Except Failure (List Document)
  | [] => .ok []
  | v :: rest => do
    let d ← ofValue v
    let ds ← ofValues rest
    .ok (d :: ds)

/-- Adds the documents of the entries of a mapping. -/
def ofEntries : List (Value × Value) → OrderedMap String Document →
    Except Failure (OrderedMap String Document)
  | [], acc => .ok acc
  | (k, v) :: rest, acc => do
    let key ← keyOfValue k
    let d ← ofValue v
    ofEntries rest (acc.insert key d)

end

mutual

/-- A document as a value. -/
def toValue : Document → Value
  | .null => .null
  | .bool b => .bool b
  | .int n => .int n
  | .float x => .float x
  | .text s => .text s
  | .list items => .list (toValues items)
  | .object entries => .mapping (toEntries entries)

/-- Documents as values. -/
def toValues : List Document → List Value
  | [] => []
  | d :: rest => d.toValue :: toValues rest

/-- The entries of an object as entries of a mapping. -/
def toEntries : List (String × Document) → List (Value × Value)
  | [] => []
  | (k, d) :: rest => (.text k, d.toValue) :: toEntries rest

end

/-! ## JSON text -/

/-- A UTF-16 unit as `\uhhhh`. -/
def unitChars (n : Nat) : List Char := '\\' :: 'u' :: Text.hexadecimal 4 n

/-- A character inside a JSON string, in ASCII. -/
def jsonChar (c : Char) : List Char :=
  let n := c.toNat
  if c = '"' ∨ c = '\\' then ['\\', c]
  else if c = '\n' then ['\\', 'n']
  else if c = '\r' then ['\\', 'r']
  else if c = '\t' then ['\\', 't']
  else if n = 8 then ['\\', 'b']
  else if n = 12 then ['\\', 'f']
  else if 0x20 ≤ n ∧ n ≤ 0x7E then [c]
  else if n < 0x10000 then unitChars n
  else unitChars (0xD800 + (n - 0x10000) / 0x400) ++ unitChars (0xDC00 + (n - 0x10000) % 0x400)

/-- A text as a JSON string. -/
def jsonString (s : String) : String :=
  String.ofList ('"' :: s.toList.flatMap jsonChar ++ ['"'])

/-- A double as a JSON number. -/
def jsonNumber (x : Decimal.Double) : String :=
  match x.reading with
  | .undefined => "NaN"
  | .infinite negative => if negative then "-Infinity" else "Infinity"
  | .finite .. => Decimal.shortestText x

mutual

/-- The JSON text of a document, with a space after each comma and colon. -/
def json : Document → String
  | .null => "null"
  | .bool b => if b then "true" else "false"
  | .int n => toString n
  | .float x => jsonNumber x
  | .text s => jsonString s
  | .list items => "[" ++ ", ".intercalate (jsonItems items) ++ "]"
  | .object entries => "\x7b" ++ ", ".intercalate (jsonMembers entries) ++ "\x7d"

/-- The JSON texts of the items of a list. -/
def jsonItems : List Document → List String
  | [] => []
  | d :: rest => d.json :: jsonItems rest

/-- The JSON texts of the members of an object. -/
def jsonMembers : List (String × Document) → List String
  | [] => []
  | (k, d) :: rest => (jsonString k ++ ": " ++ d.json) :: jsonMembers rest

end

end Document

end Principals
