import Principals.Failure
import Principals.OrderedMap
import Principals.Text.Blank
import Principals.Time.Reader
import Principals.Value.Document

/-!
# Reading input fields

The fields of principals, realms, events and settings are read from named values. A reader either
gives what it read or lists the issues it found; readers run side by side (`Checked.both`), so that
every issue is reported, in the order of the fields.

Readers are lenient about form: text is trimmed, truth values come also as numbers and words, and
date-times also as text and timestamps.
-/

namespace Principals

/-- What a reader gives, or the issues it found. -/
abbrev Checked (α : Type) := Except (List Issue) α

namespace Checked

/-- Both results, or the issues of both. -/
def both (a : Checked α) (b : Checked β) : Checked (α × β) :=
  match a, b with
  | .ok x, .ok y => .ok (x, y)
  | .ok _, .error es => .error es
  | .error es, .ok _ => .error es
  | .error es, .error es' => .error (es ++ es')

/-- One issue at the place where the reader stands. -/
def issue (p : Problem) : Checked α := .error [⟨[], p⟩]

/-- The issues of a part, placed inside the whole. -/
def within (step : Locator) : Checked α → Checked α
  | .ok x => .ok x
  | .error es => .error (es.map fun e => { e with place := step :: e.place })

theorem both_eq_ok {a : Checked α} {b : Checked β} {x : α} {y : β} :
    both a b = .ok (x, y) ↔ a = .ok x ∧ b = .ok y := by
  cases a <;> cases b <;> simp [both]

end Checked

/-- Named input values; a later one replaces an earlier one of the same name. -/
abbrev Input := OrderedMap String Value

namespace Input

/-- A field that must be there. -/
def required (input : Input) (name : String) (read : Value → Checked α) : Checked α :=
  match input.find? name with
  | some v => Checked.within (.name name) (read v)
  | none => Checked.within (.name name) (Checked.issue .missing)

/-- A field with a default, which is not read. -/
def withDefault (input : Input) (name : String) (default : α) (read : Value → Checked α) :
    Checked α :=
  match input.find? name with
  | some v => Checked.within (.name name) (read v)
  | none => .ok default

end Input

namespace Reader

/-! ## Text -/

/-- The text that a value is or encodes. -/
def textOf? : Value → Option (Except Problem String)
  | .text s => some (.ok s)
  | .bytes b => some (match textOfBytes? b with
    | some s => .ok s
    | none => .error .stringUnicode)
  | _ => none

/-- A text as it is. -/
def rawText (v : Value) : Checked String :=
  match textOf? v with
  | some (.ok s) => .ok s
  | some (.error p) => Checked.issue p
  | none => Checked.issue .stringType

/-- A trimmed text. -/
def text (v : Value) : Checked String := (rawText v).map Text.trim

/-- A trimmed text whose length lies within bounds. -/
def textWithin (least : Nat) (most : Option Nat) (v : Value) : Checked String := do
  let s ← text v
  if s.length < least then Checked.issue .stringTooShort
  else if most.any (· < s.length) then Checked.issue .stringTooLong
  else .ok s

/-- A value that may be absent. -/
def optional (read : Value → Checked α) : Value → Checked (Option α)
  | .null => .ok none
  | v => (read v).map some

/-! ## Truth values -/

/-- The words for falsehood and truth, in lower case. -/
def falseWords : List String := ["0", "off", "f", "false", "n", "no"]

@[inherit_doc falseWords]
def trueWords : List String := ["1", "on", "t", "true", "y", "yes"]

/-- The truth value that a word names, whatever the case of its letters. -/
def boolOfWord (s : String) : Checked Bool :=
  let word := s.map Char.toLower
  if word ∈ trueWords then .ok true
  else if word ∈ falseWords then .ok false
  else Checked.issue .boolParsing

/-- Whether an integer fits a signed word of 64 bits. -/
def fitsWord (n : Int) : Bool := -Int.pow 2 63 ≤ n && n < Int.pow 2 63

/-- A truth value. -/
def bool (v : Value) : Checked Bool :=
  match v with
  | .bool b => .ok b
  | .int n =>
    if n = 0 then .ok false
    else if n = 1 then .ok true
    else if fitsWord n then Checked.issue .boolParsing
    else Checked.issue .boolType
  | .float x =>
    if x.toInt? = some 0 then .ok false
    else if x.toInt? = some 1 then .ok true
    else Checked.issue .boolType
  | v => match textOf? v with
    | some (.ok s) => boolOfWord s
    | some (.error _) => Checked.issue .boolParsing
    | none => Checked.issue .boolType

/-! ## Date-times -/

/-- The date-time that a text writes. -/
def momentOfText (s : String) : Checked Time.DateTime :=
  match Time.DateTime.ofText s with
  | .ok d => .ok d
  | .error .unreadable => Checked.issue .datetimeFromDateParsing
  | .error .outOfRange => Checked.issue .datetimeParsing

/-- The moment of a timestamp. -/
def momentOfNumber (r : Except Time.ClockError Time.DateTime) : Checked Time.DateTime :=
  match r with
  | .ok d => .ok d
  | .error _ => Checked.issue .datetimeParsing

/-- A date-time. -/
def moment (v : Value) : Checked Time.DateTime :=
  match v with
  | .moment d => .ok d
  | .int n => momentOfNumber (Time.DateTime.ofTimestamp n 0)
  | .float x => momentOfNumber (Time.DateTime.ofDouble x)
  | v => match textOf? v with
    | some (.ok s) => momentOfText s
    | some (.error _) => Checked.issue .datetimeFromDateParsing
    | none => Checked.issue .datetimeType

/-! ## Lists and mappings -/

/-- A list. -/
def list : Value → Checked (List Value)
  | .list items => .ok items
  | _ => Checked.issue .listType

/-- How a key of a mapping is named in the place of an issue: numbers that fit a word by their
number, truth values too, and all else by its text. -/
def keyLocator : Value → Locator
  | .text s => .name s
  | .int n => if fitsWord n then .number n else .name (Value.int n).shown
  | .bool b => .number (if b then 1 else 0)
  | v => .name v.shown

/-- A mapping with text keys; entries whose keys agree after trimming collapse. -/
def mapping (read : Value → Checked α) : Value → Checked (OrderedMap String α)
  | .mapping entries => go entries ∅
  | _ => Checked.issue .dictType
where
  go : List (Value × Value) → OrderedMap String α → Checked (OrderedMap String α)
    | [], acc => .ok acc
    | (k, v) :: rest, acc =>
      let entry := Checked.within (keyLocator k)
        (Checked.both (Checked.within (.name "[key]") (text k)) (read v))
      match entry with
      | .ok (name, value) => go rest (acc.insert name value)
      | .error es => (Checked.both (.error es : Checked Unit) (go rest acc)).map Prod.snd

end Reader

/-- The fields of a realm. -/
def Realm.ofInput (input : Input) : Checked Realm :=
  (Checked.both (input.required "id" (Reader.textWithin 1 none))
    (input.withDefault "name" none (Reader.optional Reader.text))).map
      fun (id, name) => ⟨id, name⟩

/-- The text-keyed entries of a mapping as an input. -/
def Input.ofEntries (entries : List (Value × Value)) : Input :=
  .ofList (entries.filterMap fun (k, v) => match k with
    | .text s => some (s, v)
    | _ => none)

/-- A realm, or a mapping of its fields. -/
def Reader.realm : Value → Checked Realm
  | .realm r => .ok r
  | .mapping entries => Realm.ofInput (.ofEntries entries)
  | _ => Checked.issue .modelType

/-- The result of a reader for a model, with the model named in the failure. -/
def Checked.orInvalid (model : String) : Checked α → Except Failure α
  | .ok x => .ok x
  | .error es => .error (.invalid model es)

/-- The realm that named values describe. -/
def Realm.create (fields : List (String × Value)) : Except Failure Realm :=
  Checked.orInvalid "Realm" (Realm.ofInput (.ofList fields))

end Principals
