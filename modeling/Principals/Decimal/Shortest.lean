import Principals.Decimal.Double

/-!
# The decimal text of a double

`shortestOf` finds the fewest digits that read back as the same double and, of those, the digits
nearest to it. `roundedOf` takes a fixed number of significant digits instead. A `Layout` says how
digits become text: up to which exponents they are written in place, and how an exponent looks.
-/

namespace Principals.Decimal

/-- Digits `d₁ d₂ … dₙ` with a point: the number `0.d₁d₂…dₙ · 10 ^ point`. -/
structure Digits where
  digits : List Char
  point : Int
deriving DecidableEq, Repr

/-- The decimal digits of a natural. -/
def natDigits (n : Nat) : List Char := Nat.toDigits 10 n

/-- `num / den · 10 ^ k`, as a ratio. -/
def shiftRatio (num den : Nat) (k : Int) : Nat × Nat :=
  if k ≥ 0 then (num * Nat.pow 10 k.toNat, den) else (num, den * Nat.pow 10 (-k).toNat)

/-- The least `p` with `num / den < 10 ^ p`, for a positive ratio. -/
def pointOf (num den : Nat) : Int :=
  let guess : Int := (natDigits num).length - (natDigits den).length
  let (n, d) := shiftRatio num den (-guess)
  if n < d then guess else guess + 1

/-- Digits without trailing zeros. -/
def dropTrailingZeros (cs : List Char) : List Char := (cs.reverse.dropWhile (· == '0')).reverse

/-- `x · 10 ^ (point - places)` as digits with a point. -/
def Digits.ofNat (x : Nat) (places : Nat) (point : Int) : Digits :=
  let cs := natDigits x
  ⟨dropTrailingZeros cs, point + cs.length - places⟩

/-- The nearer of the two neighbours with `places` digits that reads back as `x`. -/
def hit? (x : Double) (num den : Nat) (point : Int) (places : Nat) : Option Digits :=
  let (n, d) := shiftRatio num den (places - point)
  let below := n / d
  let back (c : Nat) : Bool := Double.ofDecimal false c (point - places) == x
  let order := if 2 * (n % d) > d ∨ (2 * (n % d) = d ∧ below % 2 = 1)
    then [below + 1, below] else [below, below + 1]
  (order.find? back).map fun c => Digits.ofNat c places point

/-- The fewest digits that read back as the double `num / den`; seventeen always do. -/
def shortestOf (x : Double) (num den : Nat) : Digits :=
  let point := pointOf num den
  ((List.range 17).findSome? fun i => hit? x num den point (i + 1)).getD ⟨['0'], 1⟩

/-- The digits of `num / den` rounded to `places` significant ones. -/
def roundedOf (num den : Nat) (places : Nat) : Digits :=
  let point := pointOf num den
  let (n, d) := shiftRatio num den (places - point)
  Digits.ofNat (Double.roundRatio n d) places point

/-- How digits are laid out: the exponents from `least` up to `most` are written in place. -/
structure Layout where
  least : Int
  most : Int
  /-- Whether a whole mantissa before an exponent gets a point and a zero. -/
  pointed : Bool

/-- Digits padded by a zero where there are none. -/
def orZero (cs : List Char) : List Char := if cs.isEmpty then ['0'] else cs

/-- An exponent with its sign and at least two digits. -/
def exponentText (e : Int) : List Char :=
  let digits := natDigits e.natAbs
  'e' :: (if e < 0 then '-' else '+') :: (List.replicate (2 - digits.length) '0' ++ digits)

/-- Digits in place: a point always, and at least one digit on each side of it. -/
def inPlace (d : Digits) : List Char :=
  if d.point ≤ 0 then '0' :: '.' :: (List.replicate (-d.point).toNat '0' ++ orZero d.digits)
  else
    let whole := d.digits.take d.point.toNat
    let zeros := List.replicate (d.point.toNat - d.digits.length) '0'
    whole ++ zeros ++ '.' :: orZero (d.digits.drop d.point.toNat)

/-- Digits with an exponent. -/
def withExponent (pointed : Bool) (d : Digits) : List Char :=
  let tail := d.digits.drop 1
  let point := if tail.isEmpty then (if pointed then ['.', '0'] else []) else '.' :: tail
  d.digits.take 1 ++ point ++ exponentText (d.point - 1)

/-- Digits as a layout writes them. -/
def Layout.write (l : Layout) (d : Digits) : List Char :=
  let e := d.point - 1
  if l.least ≤ e ∧ e ≤ l.most then inPlace d else withExponent l.pointed d

/-- Numbers in messages and documents are written in place from `10 ^ -4` to below `10 ^ 16`. -/
def Layout.shown : Layout := ⟨-4, 15, false⟩

/-- Numbers stored as text are written in place from `10 ^ -4` to below `10 ^ 15`. -/
def Layout.stored : Layout := ⟨-4, 14, true⟩

/-- The text of a double under a choice of digits. -/
def textWith (digits : Nat → Nat → Digits) (layout : Layout) (names : String × String)
    (x : Double) : String :=
  match x.reading with
  | .undefined => names.2
  | .infinite negative => (if negative then "-" else "") ++ names.1
  | .finite negative m e =>
    let sign := if negative then ['-'] else []
    if m = 0 then String.ofList (sign ++ ['0', '.', '0'])
    else
      let (num, den) := Double.ratio m e
      String.ofList (sign ++ layout.write (digits num den))

/-- The shortest text that reads back as the double. -/
def shortestText (x : Double) : String :=
  let magnitude : Double := ⟨x.bits &&& 0x7FFFFFFFFFFFFFFF⟩
  textWith (shortestOf magnitude) .shown ("inf", "nan") x

/-- The text under which a double is stored in a text column: fifteen significant digits, and zero
without its sign. -/
def storedText (x : Double) : String :=
  if x.toInt? = some 0 then "0.0"
  else textWith (fun num den => roundedOf num den 15) .stored ("Inf", "NaN") x

end Principals.Decimal
