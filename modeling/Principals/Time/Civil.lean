/-!
# Civil date-times

A `Civil` is a date and a time of day on the proleptic Gregorian calendar, from year 1 to year
9999, to the microsecond; the type holds no other. A `DateTime` adds the offset from UTC, also to
the microsecond, or none for a wall clock whose zone is not known (a *naive* one).

* `Civil.micros` counts microseconds from 1970-01-01T00:00:00 on the wall clock, and
  `DateTime.instant?` does so in UTC, which only a date-time with an offset has.
* `DateTime.isoText` is the written form; `Civil.storedText` the form that text columns hold.
-/

namespace Principals.Time

/-- Whether February of a year has 29 days. -/
def isLeap (year : Nat) : Bool :=
  year % 4 == 0 && (year % 100 != 0 || year % 400 == 0)

/-- The number of days of a month, zero for a number that names no month. -/
def daysInMonth (year month : Nat) : Nat :=
  match month with
  | 1 | 3 | 5 | 7 | 8 | 10 | 12 => 31
  | 4 | 6 | 9 | 11 => 30
  | 2 => if isLeap year then 29 else 28
  | _ => 0

/-- The days of a year before the first of a month. -/
def daysBeforeMonth (year month : Nat) : Nat :=
  (List.range (month - 1)).foldl (fun acc i => acc + daysInMonth year (i + 1)) 0

/-- The days from 0001-01-01 to the first day of a year. -/
def daysBeforeYear (year : Nat) : Nat :=
  let y := year - 1
  y * 365 + y / 4 - y / 100 + y / 400

/-- The days from 0001-01-01 to 1970-01-01. -/
def epochDay : Nat := 719162

/-- A date with a time of day. -/
structure Civil where
  year : Nat
  month : Nat
  day : Nat
  hour : Nat
  minute : Nat
  second : Nat
  micro : Nat
  year_pos : 1 ≤ year
  year_le : year ≤ 9999
  month_pos : 1 ≤ month
  month_le : month ≤ 12
  day_pos : 1 ≤ day
  day_le : day ≤ daysInMonth year month
  hour_lt : hour < 24
  minute_lt : minute < 60
  second_lt : second < 60
  micro_lt : micro < 1000000
deriving DecidableEq, Repr

/-- The civil time of the given parts, if there is one. -/
def Civil.ofParts? (year month day hour minute second micro : Nat) : Option Civil :=
  if h : (1 ≤ year ∧ year ≤ 9999 ∧ 1 ≤ month ∧ month ≤ 12 ∧ 1 ≤ day ∧
      day ≤ daysInMonth year month) ∧ hour < 24 ∧ minute < 60 ∧ second < 60 ∧ micro < 1000000 then
    some {
      year, month, day, hour, minute, second, micro
      year_pos := h.1.1, year_le := h.1.2.1, month_pos := h.1.2.2.1, month_le := h.1.2.2.2.1
      day_pos := h.1.2.2.2.2.1, day_le := h.1.2.2.2.2.2
      hour_lt := h.2.1, minute_lt := h.2.2.1, second_lt := h.2.2.2.1, micro_lt := h.2.2.2.2 }
  else none

namespace Civil

/-- The days from 0001-01-01. -/
def days (c : Civil) : Nat := daysBeforeYear c.year + daysBeforeMonth c.year c.month + (c.day - 1)

/-- The microseconds since midnight. -/
def dayMicros (c : Civil) : Nat :=
  ((c.hour * 60 + c.minute) * 60 + c.second) * 1000000 + c.micro

/-- The microseconds from 1970-01-01T00:00:00 on the wall clock. -/
def micros (c : Civil) : Int :=
  ((c.days : Int) - epochDay) * 86400000000 + c.dayMicros

/-- The year that holds a day counted from 0001-01-01, and the day within it. -/
def yearOfDay (days : Nat) : Nat × Nat :=
  let n400 := days / 146097
  let r := days % 146097
  let n100 := min (r / 36524) 3
  let r := r - n100 * 36524
  let n4 := r / 1461
  let r := r % 1461
  let n1 := min (r / 365) 3
  (n400 * 400 + n100 * 100 + n4 * 4 + n1 + 1, r - n1 * 365)

/-- The month that holds a day of a year, and the day within it; both count from one. -/
def monthOfDay (year : Nat) (day : Nat) : Nat × Nat :=
  (List.range 12).foldl
    (fun acc i =>
      let before := daysBeforeMonth year (i + 1)
      if before ≤ day then (i + 1, day - before + 1) else acc)
    (1, day + 1)

/-- The civil time a number of seconds and microseconds after 1970-01-01T00:00:00. -/
def ofSeconds? (seconds : Int) (micro : Nat) : Option Civil :=
  let days := seconds / 86400 + epochDay
  if days < 0 then none
  else
    let (year, dayOfYear) := yearOfDay days.toNat
    let (month, day) := monthOfDay year dayOfYear
    let s := (seconds % 86400).toNat
    ofParts? year month day (s / 3600) (s / 60 % 60) (s % 60) micro

/-- A natural in decimal, with zeros in front up to `width` digits. -/
def padded (width n : Nat) : List Char :=
  let digits := Nat.toDigits 10 n
  List.replicate (width - digits.length) '0' ++ digits

/-- The date as `YYYY-MM-DD`. -/
def dateChars (c : Civil) : List Char :=
  padded 4 c.year ++ '-' :: padded 2 c.month ++ '-' :: padded 2 c.day

/-- The time as `HH:MM:SS`. -/
def clockChars (c : Civil) : List Char :=
  padded 2 c.hour ++ ':' :: padded 2 c.minute ++ ':' :: padded 2 c.second

/-- The date and the time, with six places of the second unless they are all zero. -/
def isoChars (separator : Char) (c : Civil) : List Char :=
  c.dateChars ++ separator :: c.clockChars ++
    (if c.micro = 0 then [] else '.' :: padded 6 c.micro)

/-- The form that a date-time column holds: always six places, and no offset. -/
def storedChars (c : Civil) : List Char :=
  c.dateChars ++ ' ' :: c.clockChars ++ '.' :: padded 6 c.micro

/-- The form that a date-time column holds. -/
def storedText (c : Civil) : String := String.ofList c.storedChars

end Civil

/-- The microseconds of a number of minutes. -/
def minutes (n : Int) : Int := n * 60000000

/-- A civil time with its offset from UTC in microseconds, if it has one. -/
structure DateTime where
  civil : Civil
  offset : Option Int
deriving DecidableEq, Repr

namespace DateTime

/-- The microseconds from 1970-01-01T00:00:00Z, for a date-time with an offset. -/
def instant? (d : DateTime) : Option Int :=
  d.offset.map fun o => d.civil.micros - o

/-- The date-time read as UTC if its zone is not known. -/
def orUtc (d : DateTime) : DateTime :=
  match d.offset with
  | some _ => d
  | none => { d with offset := some 0 }

/-- The sign, hours and minutes of an offset of some seconds, as `+HH:MM`; seconds beyond are cut. -/
def minuteChars (negative : Bool) (seconds : Nat) : List Char :=
  (if negative then '-' else '+') :: Civil.padded 2 (seconds / 3600) ++
    ':' :: Civil.padded 2 (seconds / 60 % 60)

/-- An offset as `+HH:MM[:SS[.ffffff]]`. -/
def offsetChars (o : Int) : List Char :=
  let seconds := o.natAbs / 1000000
  let micro := o.natAbs % 1000000
  minuteChars (o < 0) seconds ++
    (if seconds % 60 = 0 ∧ micro = 0 then [] else ':' :: Civil.padded 2 (seconds % 60)) ++
    (if micro = 0 then [] else '.' :: Civil.padded 6 micro)

/-- An offset to the nearest second as `+HH:MM`, and `Z` if that is none. -/
def roundedOffsetChars (o : Int) : List Char :=
  let seconds := (o.natAbs + 500000) / 1000000
  if seconds = 0 then ['Z'] else minuteChars (o < 0) seconds

/-- The written form, with a separator between date and time and a way of writing offsets. -/
def chars (separator : Char) (zone : Int → List Char) (d : DateTime) : List Char :=
  d.civil.isoChars separator ++ (d.offset.map zone).getD []

/-- `YYYY-MM-DDTHH:MM:SS[.ffffff][+HH:MM[:SS[.ffffff]]]`. -/
def isoText (d : DateTime) : String := String.ofList (d.chars 'T' offsetChars)

/-- As `isoText`, with the offset to the nearest second and cut to minutes, and `Z` for none. -/
def documentText (d : DateTime) : String := String.ofList (d.chars 'T' roundedOffsetChars)

/-- As `isoText`, with a space between date and time. -/
def spacedText (d : DateTime) : String := String.ofList (d.chars ' ' offsetChars)

end DateTime

/-- Equality of date-times: instants when both have an offset, wall clocks when neither has. -/
def DateTime.same (a b : DateTime) : Bool :=
  match a.instant?, b.instant? with
  | some x, some y => x == y
  | none, none => a.civil == b.civil
  | _, _ => false

end Principals.Time
