import Principals.Decimal.Shortest
import Principals.Schema.Basic
import Principals.Validation

/-!
# Table cells

A `Cell` is what a table holds in one column of one row. Columns have an affinity: text columns
turn numbers into text, all others turn text that spells a number into the number. Date-times are
held by their wall clock, without the offset, and compare as the text they are written as.

* `ColumnType.store` is the cell under which a value is stored, `ColumnType.load` the value read
  back from a cell;
* `Cell.order` compares cells: numbers come before texts, and nothing compares with an empty cell.
-/

namespace Principals

/-- The content of one column of a row. -/
inductive Cell
  | null
  | integer (n : Int)
  | real (x : Decimal.Double)
  | text (s : String)
  | moment (c : Time.Civil)
  | blob (b : List UInt8)
deriving DecidableEq, Repr

/-- What a column makes of cells of another sort. -/
inductive Affinity
  | numeric
  | text
deriving DecidableEq, Repr

namespace Cell

/-! ## Numbers spelled as text -/

/-- Blanks that may surround a number. -/
def isNumberBlank (c : Char) : Bool :=
  c == ' ' || (9 ≤ c.toNat && c.toNat ≤ 13)

/-- The value of decimal digits. -/
def valueOfDigits (cs : List Char) : Nat := cs.foldl (fun acc c => acc * 10 + (c.toNat - 48)) 0

/-- The exponent at the end of a number, zero where there is none. -/
def exponent? : List Char → Option Int
  | [] => some 0
  | e :: rest =>
    if e = 'e' ∨ e = 'E' then
      let (negative, digits) := match rest with
        | '-' :: ds => (true, ds)
        | '+' :: ds => (false, ds)
        | ds => (false, ds)
      if digits.isEmpty ∨ ! digits.all Char.isDigit then none
      else some (if negative then -(valueOfDigits digits : Int) else valueOfDigits digits)
    else none

/-- A double as the number cell it is held as: an integer if it is one that fits. -/
def ofDouble (x : Decimal.Double) : Cell :=
  match x.toInt? with
  | some n => if Reader.fitsWord n then .integer n else .real x
  | none => .real x

/-- The number that unsigned characters spell. -/
def unsigned? (negative : Bool) (cs : List Char) : Option Cell :=
  let whole := cs.takeWhile Char.isDigit
  let rest := cs.dropWhile Char.isDigit
  let (pointed, fraction, rest) := match rest with
    | '.' :: more => (true, more.takeWhile Char.isDigit, more.dropWhile Char.isDigit)
    | _ => (false, [], rest)
  if whole.isEmpty ∧ fraction.isEmpty then none
  else
    let n : Int := valueOfDigits whole
    let n := if negative then -n else n
    if ! pointed ∧ rest.isEmpty ∧ Reader.fitsWord n then some (.integer n)
    else (exponent? rest).map fun e =>
      ofDouble (.ofDecimal negative (valueOfDigits (whole ++ fraction)) (e - fraction.length))

/-- The number that a text spells, if it spells one. -/
def numberOf? (s : String) : Option Cell :=
  match Text.trimWhile isNumberBlank s.toList with
  | '-' :: cs => unsigned? true cs
  | '+' :: cs => unsigned? false cs
  | cs => unsigned? false cs

/-! ## Order -/

/-- The text that a cell is compared as, if it is compared as one. -/
def text? : Cell → Option String
  | .text s => some s
  | .moment c => some c.storedText
  | _ => none

/-- Texts in the order of their code points. -/
def textOrder (s t : String) : Ordering := if s < t then .lt else if s = t then .eq else .gt

/-- The order of two number cells. -/
def numberOrder? : Cell → Cell → Option Ordering
  | .integer m, .integer n => some (compare m n)
  | .integer m, .real y => Decimal.Double.compareInt? m y
  | .real x, .integer n => (Decimal.Double.compareInt? n x).map Ordering.swap
  | .real x, .real y => Decimal.Double.compare? x y
  | _, _ => none

/-- The place of a cell's sort in the order of sorts; none for an empty cell. -/
def rank? : Cell → Option Nat
  | .null => none
  | .integer _ | .real _ => some 0
  | .text _ | .moment _ => some 1
  | .blob _ => some 2

/-- The order of bytes. -/
def blobOrder : List UInt8 → List UInt8 → Ordering
  | [], [] => .eq
  | [], _ :: _ => .lt
  | _ :: _, [] => .gt
  | a :: as, b :: bs => if a < b then .lt else if b < a then .gt else blobOrder as bs

/-- The order of two cells, none if one of them is empty. -/
def order (a b : Cell) : Option Ordering :=
  match a.rank?, b.rank? with
  | some i, some j =>
    if i < j then some .lt
    else if j < i then some .gt
    else match a, b with
      | .blob x, .blob y => some (blobOrder x y)
      | a, b => match a.text?, b.text? with
        | some s, some t => some (textOrder s t)
        | _, _ => numberOrder? a b
  | _, _ => none

/-- Whether two cells are equal, which an empty one never is. -/
def same (a b : Cell) : Bool := a.order b == some .eq

theorem textOrder_eq_iff {s t : String} : textOrder s t = .eq ↔ s = t := by
  unfold textOrder
  by_cases h : s < t
  · simp only [h, if_true]
    constructor
    · exact fun h' => nomatch h'
    · rintro rfl
      exact absurd h (String.lt_irrefl s)
  · by_cases h' : s = t <;> simp [h, h']

end Cell

/-- The cell that a column of an affinity makes of a cell. -/
def Affinity.apply : Affinity → Cell → Cell
  | .text, .integer n => .text (toString n)
  | .text, .real x => .text (Decimal.storedText x)
  | .numeric, .text s => (Cell.numberOf? s).getD (.text s)
  | .numeric, .real x => Cell.ofDouble x
  | _, c => c

namespace Cell

/-- Whether cells of two columns are equal as columns of their affinities compare: where these
differ, both go by the numbers that they spell. -/
def sameAcross (f g : Affinity) (a b : Cell) : Bool :=
  if f = g then a.same b else (Affinity.numeric.apply a).same (Affinity.numeric.apply b)

/-- The cell under which a value is sent as it is. A date-time goes by its text with the offset. -/
def ofPlain : Value → Except Failure Cell
  | .null => .ok .null
  | .bool b => .ok (.integer (if b then 1 else 0))
  | .int n => if Reader.fitsWord n then .ok (.integer n) else .error .cellOverflow
  | .float x => .ok (if x.reading = .undefined then .null else .real x)
  | .text s => .ok (.text s)
  | .moment d => .ok (.text d.spacedText)
  | .bytes b => .ok (.blob b)
  | .list _ | .mapping _ | .realm _ | .foreign _ | .record _ => .error .unsendable

/-- The cell of a truth value; zero and one count as such. -/
def ofBool (v : Value) : Except Failure Cell :=
  match v.key? with
  | some .null => .ok .null
  | some (.number n) => if n = 0 ∨ n = 1 then .ok (.integer n) else .error .badCell
  | _ => .error .badCell

/-- The cell of a number, which a truth value, a text or bytes may also spell. -/
def ofNumber : Value → Except Failure Cell
  | .null => .ok .null
  | .bool b => .ok (.real (.ofInt (if b then 1 else 0)))
  | .int n => match (Decimal.Double.ofInt n).reading with
    | .finite .. => .ok (.real (.ofInt n))
    | _ => .error .badCell
  | .float x => ofPlain (.float x)
  | v => match Reader.textOf? v with
    | some (.ok s) => match numberOf? s with
      | some (.integer n) => .ok (.real (.ofInt n))
      | some c => .ok c
      | none => .error .badCell
    | _ => .error .badCell

/-- The cell of bytes. -/
def ofBytes : Value → Except Failure Cell
  | .null => .ok .null
  | .bytes b => .ok (.blob b)
  | _ => .error .badCell

/-- The cell of a date-time: its wall clock. -/
def ofMoment : Value → Except Failure Cell
  | .null => .ok .null
  | .moment d => .ok (.moment d.civil)
  | _ => .error .badCell

/-- The value of a cell as it stands. -/
def plain : Cell → Value
  | .null => .null
  | .integer n => .int n
  | .real x => .float x
  | .text s => .text s
  | .moment c => .moment ⟨c, none⟩
  | .blob b => .bytes b

end Cell

namespace ColumnType

/-- The affinity of the columns of a type. -/
def affinity : ColumnType → Affinity
  | text => .text
  | integer | boolean | timestamp => .numeric

/-- The cell that is sent for a value, before the column's affinity. -/
def send : ColumnType → Value → Except Failure Cell
  | boolean, v => Cell.ofBool v
  | timestamp, v => Cell.ofMoment v
  | integer, v | text, v => Cell.ofPlain v

/-- The cell under which a column stores a value. -/
def store (t : ColumnType) (v : Value) : Except Failure Cell := (t.send v).map t.affinity.apply

/-- The value that a column gives for a cell. -/
def load : ColumnType → Cell → Value
  | boolean, .integer n => .bool (n != 0)
  | _, c => c.plain

end ColumnType

end Principals
