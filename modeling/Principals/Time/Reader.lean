import Principals.Decimal.Double
import Principals.Time.Civil

/-!
# Reading date-times

A date-time is read from text in the form `YYYY-MM-DD`, optionally followed by a separator, a time
`HH:MM[:SS[.f…]]` and a zone `Z`, `±HH:MM` or `±HHMM`; a date alone is midnight without a zone.
Digits of the second beyond the sixth are cut. Any other text may be a number.

A number counts seconds from 1970-01-01T00:00:00Z when its magnitude is at most `2·10¹⁰`, and
milliseconds beyond; the moment must lie in the years 1600 to 9999.
-/

namespace Principals.Time

/-- Why no date-time is read. -/
inductive ClockError
  /-- The text has none of the forms. -/
  | unreadable
  /-- The form is right, but no such moment can be held. -/
  | outOfRange
deriving DecidableEq, Repr

/-! ## Numbers -/

/-- The greatest magnitude that counts seconds. -/
def watershed : Int := 20000000000

/-- The first second of the year 1600. -/
def earliestSecond : Int := -11676096000

/-- The last second of the year 9999. -/
def latestSecond : Int := 253402300799

/-- The moment a number of seconds and microseconds after the epoch, in UTC. -/
def DateTime.ofSeconds (seconds : Int) (micros : Nat) : Except ClockError DateTime :=
  let seconds := seconds + (micros / 1000000 : Nat)
  if seconds < earliestSecond ∨ latestSecond < seconds then .error .outOfRange
  else
    match Civil.ofSeconds? seconds (micros % 1000000) with
    | some c => .ok ⟨c, some 0⟩
    | none => .error .outOfRange

/-- The moment of a whole timestamp, with microseconds to add. -/
def DateTime.ofTimestamp (n : Int) (micros : Nat) : Except ClockError DateTime :=
  if n.natAbs ≤ watershed.natAbs then ofSeconds n micros
  else ofSeconds (n / 1000) ((n % 1000).toNat * 1000 + micros)

/-- The nearest natural to `num / den`, a half going up. -/
def roundHalfUp (num den : Nat) : Nat := (2 * num + den) / (2 * den)

/-- The moment of a timestamp that is a double: its floor, with the microseconds of what the
magnitude has after the point. -/
def DateTime.ofDouble (x : Decimal.Double) : Except ClockError DateTime :=
  match x.fraction? with
  | some (num, den) => ofTimestamp (num / den) (roundHalfUp (num.natAbs % den * 1000000) den)
  | none => .error .outOfRange

/-! ## Text -/

/-- Reads exactly `n` decimal digits. -/
def takeDigits : Nat → List Char → Option (Nat × List Char)
  | n, cs => go n 0 cs
where
  go : Nat → Nat → List Char → Option (Nat × List Char)
    | 0, acc, cs => some (acc, cs)
    | n + 1, acc, c :: cs => if c.isDigit then go n (acc * 10 + (c.toNat - 48)) cs else none
    | _ + 1, _, [] => none

/-- Reads a given character. -/
def takeChar (p : Char → Bool) : List Char → Option (List Char)
  | c :: cs => if p c then some cs else none
  | [] => none

/-- Reads `YYYY-MM-DD`. -/
def takeDate (cs : List Char) : Option ((Nat × Nat × Nat) × List Char) := do
  let (year, cs) ← takeDigits 4 cs
  let cs ← takeChar (· == '-') cs
  let (month, cs) ← takeDigits 2 cs
  let cs ← takeChar (· == '-') cs
  let (day, cs) ← takeDigits 2 cs
  if 1 ≤ month ∧ month ≤ 12 ∧ 1 ≤ day ∧ day ≤ daysInMonth year month then
    some ((year, month, day), cs)
  else none

/-- The value of decimal digits as microseconds after the point, cut at six. -/
def microsOf (digits : List Char) : Nat :=
  let six := digits.take 6
  six.foldl (fun acc c => acc * 10 + (c.toNat - 48)) 0 * Nat.pow 10 (6 - six.length)

/-- Reads the optional fraction of a second. -/
def takeFraction (cs : List Char) : Option (Nat × List Char) :=
  match takeChar (fun c => c == '.' || c == ',') cs with
  | none => some (0, cs)
  | some rest =>
    let digits := rest.takeWhile Char.isDigit
    if digits.isEmpty then none else some (microsOf digits, rest.dropWhile Char.isDigit)

/-- Reads `HH:MM[:SS[.f…]]`. -/
def takeClock (cs : List Char) : Option ((Nat × Nat × Nat × Nat) × List Char) := do
  let (hour, cs) ← takeDigits 2 cs
  let cs ← takeChar (· == ':') cs
  let (minute, cs) ← takeDigits 2 cs
  if hour < 24 ∧ minute < 60 then
    match takeChar (· == ':') cs with
    | none => some ((hour, minute, 0, 0), cs)
    | some rest => do
      let (second, rest) ← takeDigits 2 rest
      let (micro, rest) ← takeFraction rest
      if second < 60 then some ((hour, minute, second, micro), rest) else none
  else none

/-- Reads an optional zone, which ends the text. -/
def readZone (cs : List Char) : Option (Option Int) :=
  match cs with
  | [] => some none
  | ['Z'] | ['z'] => some (some 0)
  | sign :: rest => do
    let negative ← if sign = '-' ∨ sign = '\u2212' then some true
      else if sign = '+' then some false else none
    let (hours, rest) ← takeDigits 2 rest
    let rest := (takeChar (· == ':') rest).getD rest
    let (minutes, rest) ← takeDigits 2 rest
    if rest.isEmpty ∧ minutes < 60 ∧ hours < 24 then
      let total : Int := hours * 60 + minutes
      some (some (Time.minutes (if negative then -total else total)))
    else none

/-- Whether a character may stand between date and time. -/
def isSeparator (c : Char) : Bool := c == 'T' || c == 't' || c == ' ' || c == '_'

/-- The parts of a date-time that has one of the written forms. -/
def readParts (cs : List Char) :
    Option ((Nat × Nat × Nat) × (Nat × Nat × Nat × Nat) × Option Int) := do
  let (date, cs) ← takeDate cs
  if cs.isEmpty then some (date, (0, 0, 0, 0), none)
  else
    let cs ← takeChar isSeparator cs
    let (clock, cs) ← takeClock cs
    let zone ← readZone cs
    some (date, clock, zone)

/-- The sign, whole part and digits after the point of a number in plain decimal notation. -/
def readDecimal (cs : List Char) : Option (Bool × Nat × List Char) :=
  let (negative, cs) := match cs with
    | '-' :: rest => (true, rest)
    | '+' :: rest => (false, rest)
    | _ => (false, cs)
  let whole := cs.takeWhile Char.isDigit
  let value := whole.foldl (fun acc c => acc * 10 + (c.toNat - 48)) 0
  if whole.isEmpty ∨ value ≥ Nat.pow 2 63 then none
  else
    match cs.dropWhile Char.isDigit with
    | [] => some (negative, value, [])
    | '.' :: digits => if digits.all Char.isDigit then some (negative, value, digits) else none
    | _ => none

/-- The moment of a timestamp written in plain decimal notation. -/
def ofDecimalText (cs : List Char) : Except ClockError DateTime :=
  match readDecimal cs with
  | none => .error .unreadable
  | some (negative, whole, digits) =>
    let moment :=
      if digits.isEmpty then DateTime.ofTimestamp (if negative then -whole else whole) 0
      else
        let den : Nat := Nat.pow 10 digits.length
        let magnitude : Nat :=
          whole * den + digits.foldl (fun acc c => acc * 10 + (c.toNat - 48)) 0
        let den : Nat := if magnitude > watershed.toNat * den then den * 1000 else den
        let num : Int := if negative then -magnitude else magnitude
        DateTime.ofSeconds (num / den) (roundHalfUp ((num % den).toNat * 1000000) den)
    match moment with
    | .ok d => .ok d
    | .error _ => .error .unreadable

/-- The date-time that a text writes. -/
def DateTime.ofText (s : String) : Except ClockError DateTime :=
  match readParts s.toList with
  | none => ofDecimalText s.toList
  | some ((year, month, day), (hour, minute, second, micro), zone) =>
    match Civil.ofParts? year month day hour minute second micro with
    | some c => .ok ⟨c, zone⟩
    | none => .error .outOfRange

end Principals.Time
