import Principals.Decimal.Shortest
import Principals.Text.Quoted
import Principals.Value.Basic

/-!
# The text of values

`Value.shown` writes a value as it stands in messages: texts between quotes, lists and mappings in
brackets, absence and truth values by name. `Value.plain` is the text that a value contributes to
a longer one, for instance to a key: a text stands for itself there, and a date-time is spaced.
-/

namespace Principals

namespace Time

/-- An offset as a number of days, of seconds within the day and of microseconds within the second,
as far as they count. -/
def offsetParts (o : Int) : String :=
  let parts := [("days", o / 86400000000), ("seconds", o / 1000000 % 86400),
    ("microseconds", o % 1000000)]
  ", ".intercalate ((parts.filter (·.2 ≠ 0)).map fun (name, n) => name ++ "=" ++ toString n)

/-- The zone of a date-time as it stands in messages. -/
def zoneShown (o : Int) : String :=
  if o = 0 then "datetime.timezone.utc"
  else "datetime.timezone(datetime.timedelta(" ++ offsetParts o ++ "))"

/-- A date-time as it stands in messages; seconds and microseconds only as far as they count. -/
def DateTime.shown (d : DateTime) : String :=
  let c := d.civil
  let parts := [c.year, c.month, c.day, c.hour, c.minute] ++
    (if c.micro ≠ 0 then [c.second, c.micro] else if c.second ≠ 0 then [c.second] else [])
  let zone := match d.offset with
    | none => ""
    | some o => ", tzinfo=" ++ zoneShown o
  "datetime.datetime(" ++ ", ".intercalate (parts.map toString) ++ zone ++ ")"

end Time

namespace Realm

/-- The fields of a realm as they stand in messages, with a separator. -/
def fieldsShown (separator : String) (r : Realm) : String :=
  "id=" ++ Text.quoted r.id ++ separator ++ "name=" ++
    match r.name with
    | some name => Text.quoted name
    | none => "None"

end Realm

namespace Value

mutual

/-- A value as it stands in messages. -/
def shown : Value → String
  | .null => "None"
  | .bool b => if b then "True" else "False"
  | .int n => toString n
  | .float x => Decimal.shortestText x
  | .text s => Text.quoted s
  | .moment d => d.shown
  | .bytes b => Text.quotedBytes b
  | .list items => "[" ++ ", ".intercalate (shownList items) ++ "]"
  | .mapping entries => "\x7b" ++ ", ".intercalate (shownEntries entries) ++ "\x7d"
  | .realm r => "Realm(" ++ r.fieldsShown ", " ++ ")"
  | .foreign _ => "<object>"
  | .record _ => "<record>"

/-- The items of a list as they stand in messages. -/
def shownList : List Value → List String
  | [] => []
  | v :: rest => v.shown :: shownList rest

/-- The entries of a mapping as they stand in messages. -/
def shownEntries : List (Value × Value) → List String
  | [] => []
  | (k, v) :: rest => (k.shown ++ ": " ++ v.shown) :: shownEntries rest

end

/-- The text that a value contributes to a longer one. -/
def plain : Value → String
  | .text s => s
  | .moment d => d.spacedText
  | .realm r => r.fieldsShown " "
  | v => v.shown

@[simp]
theorem plain_text (s : String) : (Value.text s).plain = s := rfl

end Value

end Principals
