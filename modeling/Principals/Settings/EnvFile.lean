import Principals.OrderedMap
import Principals.Text.Blank

/-!
# Environment files

An environment file is a list of statements `NAME=value`, each on a line of its own. Blank lines and
comments, from `#` to the end of the line, say nothing; a leading `export` and blanks around the
name and before the value do not count. A value in quotes may run over several lines and hold
escapes. A name alone takes the value away that an earlier statement gave. A line of any other form
is skipped.

A value may refer to variables, `$` and a name in braces, optionally with a default after `:-`.
-/

namespace Principals.EnvFile

/-- A name with the value that a statement gives it, if it gives one. -/
structure Assignment where
  name : String
  value : Option (List Char)
deriving DecidableEq, Repr

/-! ## Lines -/

/-- Whether a character is a blank inside a line. -/
def isInlineBlank (c : Char) : Bool := Text.isSeparating c && c != '\n'

/-- The text with every end of line written as one line feed. -/
def unifyLines : List Char → List Char
  | [] => []
  | '\r' :: '\n' :: rest => '\n' :: unifyLines rest
  | '\r' :: rest => '\n' :: unifyLines rest
  | c :: rest => c :: unifyLines rest

/-- What follows the line at the front. -/
def skipLine (cs : List Char) : List Char := (cs.dropWhile (· ≠ '\n')).drop 1

/-- What follows the end of a line, before which only blanks and a comment may stand. -/
def endLine? (cs : List Char) : Option (List Char) :=
  match cs.dropWhile isInlineBlank with
  | [] => some []
  | '\n' :: rest => some rest
  | '#' :: rest => some (skipLine rest)
  | _ => none

/-! ## Quotes -/

/-- Splits at the first quote that no backslash precedes. -/
def splitFree (quote : Char) : List Char → Option (List Char × List Char)
  | [] => none
  | c :: rest =>
    if c = quote then some ([], rest)
    else match c, rest with
      | '\\', d :: rest' =>
        if d = quote then (splitFree quote rest').map fun (a, b) => (c :: d :: a, b)
        else (splitFree quote (d :: rest')).map fun (a, b) => (c :: a, b)
      | _, rest => (splitFree quote rest).map fun (a, b) => (c :: a, b)

/-- Splits at the last quote. -/
def splitLast (quote : Char) : List Char → Option (List Char × List Char)
  | [] => none
  | c :: rest => match splitLast quote rest with
    | some (a, b) => some (c :: a, b)
    | none => if c = quote then some ([], rest) else none

/-- Splits a text at its closing quote: the first one that no backslash precedes or, if all are
preceded by one, the last. -/
def closing (quote : Char) (cs : List Char) : Option (List Char × List Char) :=
  splitFree quote cs <|> splitLast quote cs

/-- What the escapes between single quotes stand for, by the character after the backslash. -/
def singleEscapes : List (Char × Char) := [('\\', '\\'), ('\'', '\'')]

/-- What the escapes between double quotes stand for, by the character after the backslash. -/
def doubleEscapes : List (Char × Char) :=
  singleEscapes ++ [('"', '"'), ('a', '\x07'), ('b', '\x08'), ('f', '\x0c'), ('n', '\n'),
    ('r', '\r'), ('t', '\t'), ('v', '\x0b')]

/-- The text that a text with escapes stands for; an unknown escape stands for itself. -/
def unescape (escapes : List (Char × Char)) : List Char → List Char
  | [] => []
  | [c] => [c]
  | c :: d :: rest =>
    match c, escapes.lookup d with
    | '\\', some e => e :: unescape escapes rest
    | c, _ => c :: unescape escapes (d :: rest)

/-! ## Statements -/

/-- A bare value: up to a comment, which a blank precedes. -/
def bareValue : List Char → List Char
  | [] => []
  | c :: rest =>
    if isInlineBlank c ∧ (rest.dropWhile isInlineBlank).head? = some '#' then []
    else c :: bareValue rest

/-- The value at the front and what follows it. -/
def value? : List Char → Option (List Char × List Char)
  | '\'' :: rest => (closing '\'' rest).map fun (a, b) => (unescape singleEscapes a, b)
  | '"' :: rest => (closing '"' rest).map fun (a, b) => (unescape doubleEscapes a, b)
  | cs =>
    some (Text.dropEndWhile isInlineBlank (bareValue (cs.takeWhile (· ≠ '\n'))),
      cs.dropWhile (· ≠ '\n'))

/-- What follows a leading `export`. -/
def skipExport (cs : List Char) : List Char :=
  match cs with
  | 'e' :: 'x' :: 'p' :: 'o' :: 'r' :: 't' :: c :: rest =>
    if isInlineBlank c then rest.dropWhile isInlineBlank else cs
  | _ => cs

/-- Whether a character may stand in a bare name. -/
def isNameChar (c : Char) : Bool := c != '=' && c != '#' && ! Text.isSeparating c

/-- The name at the front, none before a comment, and what follows it. -/
def name? : List Char → Option (Option (List Char) × List Char)
  | '#' :: rest => some (none, '#' :: rest)
  | '\'' :: rest =>
    match rest.takeWhile (· ≠ '\''), rest.dropWhile (· ≠ '\'') with
    | _ :: _, '\'' :: rest' => some (some (rest.takeWhile (· ≠ '\'')), rest')
    | _, _ => none
  | cs =>
    match cs.takeWhile isNameChar with
    | [] => none
    | name => some (some name, cs.dropWhile isNameChar)

/-- The statement at the front, if there is one, and what follows its line. -/
def statement (cs : List Char) : Option Assignment × List Char :=
  let cs := skipExport (cs.dropWhile Text.isSeparating)
  match name? cs with
  | none => (none, skipLine cs)
  | some (name, cs) =>
    let finish (value : Option (List Char)) (cs : List Char) :=
      match endLine? cs with
      | some rest => (name.map fun n => ⟨String.ofList n, value⟩, rest)
      | none => (none, skipLine cs)
    match cs.dropWhile isInlineBlank with
    | '=' :: cs =>
      let cs := cs.dropWhile isInlineBlank
      match value? cs with
      | some (value, cs) => finish (some value) cs
      | none => (none, skipLine cs)
    | cs => finish none cs

/-- The assignments of a text with unified ends of lines. -/
def assignmentsOf (cs : List Char) : List Assignment :=
  if (statement cs).2.length < cs.length then
    (statement cs).1.toList ++ assignmentsOf (statement cs).2
  else (statement cs).1.toList
termination_by cs.length

/-- The assignments of a file. -/
def assignments (file : String) : List Assignment := assignmentsOf (unifyLines file.toList)

/-! ## References -/

/-- A reference at the front, without its `$`: the name, the default and what follows. -/
def reference? : List Char → Option (String × String × List Char)
  | '{' :: cs =>
    let ends (c : Char) := c == '}' || c == ':'
    let name := String.ofList (cs.takeWhile (! ends ·))
    match cs.dropWhile (! ends ·) with
    | '}' :: rest => some (name, "", rest)
    | ':' :: '-' :: cs => match cs.dropWhile (· ≠ '}') with
      | '}' :: rest => some (name, String.ofList (cs.takeWhile (· ≠ '}')), rest)
      | _ => none
    | _ => none
  | _ => none

/-- A value with its references replaced by what they refer to, or else by their defaults. -/
def expand (lookup : String → Option String) : Nat → List Char → List Char
  | 0, cs => cs
  | _ + 1, [] => []
  | fuel + 1, '$' :: cs => match reference? cs with
    | some (name, default, rest) =>
      ((lookup name).getD default).toList ++ expand lookup fuel rest
    | none => '$' :: expand lookup fuel cs
  | fuel + 1, c :: cs => c :: expand lookup fuel cs

/-- The variables that assignments leave, each value expanded by the variables before it and by the
environment; a variable without a value expands to nothing. -/
def variablesOf (environment : OrderedMap String String) (file : String) :
    OrderedMap String (Option String) :=
  (assignments file).foldl
    (fun acc a =>
      let lookup name := match acc.find? name with
        | some v => some (v.getD "")
        | none => environment.find? name
      acc.insert a.name (a.value.map fun v => String.ofList (expand lookup v.length v)))
    ∅

end Principals.EnvFile
