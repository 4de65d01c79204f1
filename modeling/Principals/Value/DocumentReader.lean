import Principals.Value.Document

/-!
# Reading JSON

`Document.ofJson?` reads a document from JSON text. A number with a point or an exponent is a
double, any other an integer of any size. Members of an object are kept in the order of the text,
repeated names included.
-/

namespace Principals.Document

/-- The value of a hexadecimal digit. -/
def hexValue (c : Char) : Nat :=
  if c.isDigit then c.toNat - 48
  else if 'a' ≤ c ∧ c ≤ 'f' then c.toNat - 87
  else if 'A' ≤ c ∧ c ≤ 'F' then c.toNat - 55
  else 0

/-- The UTF-16 unit of four hexadecimal digits. -/
def unitOf (a b c d : Char) : Nat :=
  ((hexValue a * 16 + hexValue b) * 16 + hexValue c) * 16 + hexValue d

/-- The text without blanks at its start. -/
def skipBlanks (cs : List Char) : List Char :=
  cs.dropWhile fun c => c == ' ' || c == '\n' || c == '\r' || c == '\t'

/-- The character that a letter after a backslash stands for. -/
def unescape (c : Char) : Char :=
  match c with
  | 'n' => '\n'
  | 't' => '\t'
  | 'r' => '\r'
  | 'b' => '\x08'
  | 'f' => '\x0c'
  | c => c

/-- Whether two UTF-16 units are the halves of one character. -/
def isPair (high low : Nat) : Bool :=
  0xD800 ≤ high && high < 0xDC00 && 0xDC00 ≤ low && low < 0xE000

/-- Reads the rest of a string after its opening quote; what is read so far is held reversed. -/
def readString (acc : List Char) : List Char → Option (String × List Char)
  | [] => none
  | '"' :: rest => some (String.ofList acc.reverse, rest)
  | '\\' :: 'u' :: a :: b :: c :: d :: '\\' :: 'u' :: e :: f :: g :: h :: rest =>
    let high := unitOf a b c d
    let low := unitOf e f g h
    if isPair high low then
      readString (Char.ofNat (0x10000 + (high - 0xD800) * 0x400 + (low - 0xDC00)) :: acc) rest
    else readString (Char.ofNat low :: Char.ofNat high :: acc) rest
  | '\\' :: 'u' :: a :: b :: c :: d :: rest => readString (Char.ofNat (unitOf a b c d) :: acc) rest
  | '\\' :: c :: rest => readString (unescape c :: acc) rest
  | c :: rest => readString (c :: acc) rest

/-- The value of decimal digits. -/
def digitsValue (cs : List Char) : Nat := cs.foldl (fun acc c => acc * 10 + (c.toNat - 48)) 0

/-- Reads digits. -/
def readDigits (cs : List Char) : List Char × List Char :=
  (cs.takeWhile Char.isDigit, cs.dropWhile Char.isDigit)

/-- Reads an optional exponent. -/
def readExponent : List Char → Option Int × List Char
  | e :: rest =>
    if e = 'e' ∨ e = 'E' then
      let (negative, rest) := match rest with
        | '-' :: more => (true, more)
        | '+' :: more => (false, more)
        | more => (false, more)
      let (digits, rest) := readDigits rest
      (some (if negative then -(digitsValue digits : Int) else digitsValue digits), rest)
    else (none, e :: rest)
  | [] => (none, [])

/-- Reads a number without its sign. -/
def readUnsigned (negative : Bool) (cs : List Char) : Option (Document × List Char) :=
  let (whole, rest) := readDigits cs
  if whole.isEmpty then none
  else
    let (fraction, rest) : Option (List Char) × List Char := match rest with
      | '.' :: more => let (ds, more) := readDigits more; (some ds, more)
      | _ => (none, rest)
    let (exponent, rest) := readExponent rest
    match fraction, exponent with
    | none, none =>
      let n : Int := digitsValue whole
      some (.int (if negative then -n else n), rest)
    | _, _ =>
      let digits := fraction.getD []
      some (.float (.ofDecimal negative (digitsValue (whole ++ digits))
        (exponent.getD 0 - digits.length)), rest)

/-- Reads a number. -/
def readNumber : List Char → Option (Document × List Char)
  | '-' :: rest => readUnsigned true rest
  | cs => readUnsigned false cs

/-- Reads the rest of a list after an item, given how items are read. -/
def readItems (item : List Char → Option (Document × List Char)) :
    Nat → List Document → List Char → Option (Document × List Char)
  | 0, _, _ => none
  | fuel + 1, acc, cs => do
    let (d, rest) ← item cs
    match skipBlanks rest with
    | ',' :: rest => readItems item fuel (d :: acc) rest
    | ']' :: rest => some (.list (d :: acc).reverse, rest)
    | _ => none

/-- Reads the rest of an object after a member, given how values are read. -/
def readMembers (item : List Char → Option (Document × List Char)) :
    Nat → List (String × Document) → List Char → Option (Document × List Char)
  | 0, _, _ => none
  | fuel + 1, acc, cs => do
    match skipBlanks cs with
    | '"' :: rest =>
      let (name, rest) ← readString [] rest
      match skipBlanks rest with
      | ':' :: rest =>
        let (d, rest) ← item rest
        match skipBlanks rest with
        | ',' :: rest => readMembers item fuel ((name, d) :: acc) rest
        | '\x7d' :: rest => some (.object ((name, d) :: acc).reverse, rest)
        | _ => none
      | _ => none
    | _ => none

/-- Reads a document; `fuel` bounds its depth, `size` its width. -/
def readDocument (size : Nat) : Nat → List Char → Option (Document × List Char)
  | 0, _ => none
  | fuel + 1, cs =>
    match skipBlanks cs with
    | 'n' :: 'u' :: 'l' :: 'l' :: rest => some (.null, rest)
    | 't' :: 'r' :: 'u' :: 'e' :: rest => some (.bool true, rest)
    | 'f' :: 'a' :: 'l' :: 's' :: 'e' :: rest => some (.bool false, rest)
    | '"' :: rest => (readString [] rest).map fun (s, rest) => (.text s, rest)
    | '[' :: rest =>
      match skipBlanks rest with
      | ']' :: rest => some (.list [], rest)
      | rest => readItems (readDocument size fuel) size [] rest
    | '\x7b' :: rest =>
      match skipBlanks rest with
      | '\x7d' :: rest => some (.object [], rest)
      | rest => readMembers (readDocument size fuel) size [] rest
    | rest => readNumber rest

/-- The document that a JSON text writes. -/
def ofJson? (s : String) : Option Document :=
  let cs := s.toList
  match readDocument (cs.length + 1) (cs.length + 1) cs with
  | some (d, rest) => if (skipBlanks rest).isEmpty then some d else none
  | none => none

end Principals.Document
