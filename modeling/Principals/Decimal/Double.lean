/-!
# Double-precision numbers

A `Double` is the bit pattern of an IEEE 754 binary64 number. A finite one denotes
`± mantissa · 2 ^ exponent`; comparison with integers and with other doubles is exact on that
reading, and `ofRatio` rounds a ratio of naturals to the nearest double, ties to the even mantissa.
-/

namespace Principals.Decimal

/-- A binary64 number by its bits. -/
structure Double where
  bits : UInt64
deriving DecidableEq, Repr, Inhabited

/-- What a bit pattern denotes. -/
inductive Reading
  | finite (negative : Bool) (mantissa : Nat) (exponent : Int)
  | infinite (negative : Bool)
  | undefined
deriving DecidableEq, Repr

namespace Double

/-- The number that the bits denote. -/
def reading (x : Double) : Reading :=
  let n := x.bits.toNat
  let negative := n / Nat.pow 2 63 == 1
  let biased : Nat := n / Nat.pow 2 52 % Nat.pow 2 11
  let fraction : Nat := n % Nat.pow 2 52
  if biased = 2047 then
    if fraction = 0 then .infinite negative else .undefined
  else if biased = 0 then .finite negative fraction (-1074)
  else .finite negative (fraction + Nat.pow 2 52) ((biased : Int) - 1075)

/-- The bits of sign, biased exponent and fraction. -/
def pack (negative : Bool) (biased fraction : Nat) : Double :=
  ⟨UInt64.ofNat ((if negative then Nat.pow 2 63 else 0) + biased * Nat.pow 2 52 + fraction)⟩

/-- The nearest natural to `num / den`, a half going to the even neighbour. -/
def roundRatio (num den : Nat) : Nat :=
  let q := num / den
  let r := num % den
  if 2 * r > den ∨ (2 * r = den ∧ q % 2 = 1) then q + 1 else q

/-- `num / den` scaled by `2 ^ -k`, as a ratio. -/
def scaled (num den : Nat) (k : Int) : Nat × Nat :=
  if k ≥ 0 then (num, den * Nat.pow 2 k.toNat) else (num * Nat.pow 2 (-k).toNat, den)

/-- The exponent at which the mantissa of `num / den` has 53 bits, or the least one. -/
def exponentFor (num den : Nat) : Int :=
  let guess : Int := (Nat.log2 num : Int) - Nat.log2 den - 52
  let (n, d) := scaled num den guess
  max (if n < d * Nat.pow 2 52 then guess - 1 else guess) (-1074)

/-- The double nearest to `± num / den`. -/
def ofRatio (negative : Bool) (num den : Nat) : Double :=
  if num = 0 then pack negative 0 0
  else
    let k := exponentFor num den
    let (n, d) := scaled num den k
    let mantissa := roundRatio n d
    let (mantissa, k) := if mantissa = Nat.pow 2 53 then (Nat.pow 2 52, k + 1) else (mantissa, k)
    if mantissa < Nat.pow 2 52 then pack negative 0 mantissa
    else if k + 1075 ≥ 2047 then pack negative 2047 0
    else pack negative (k + 1075).toNat (mantissa - Nat.pow 2 52)

/-- The double nearest to `± mantissa · 10 ^ exponent`. -/
def ofDecimal (negative : Bool) (mantissa : Nat) (exponent : Int) : Double :=
  if exponent ≥ 0 then ofRatio negative (mantissa * Nat.pow 10 exponent.toNat) 1
  else ofRatio negative mantissa (Nat.pow 10 (-exponent).toNat)

/-- The double nearest to an integer. -/
def ofInt (n : Int) : Double := ofRatio (n < 0) n.natAbs 1

/-- A finite magnitude as a ratio of naturals. -/
def ratio (mantissa : Nat) (exponent : Int) : Nat × Nat :=
  if exponent ≥ 0 then (mantissa * Nat.pow 2 exponent.toNat, 1)
  else (mantissa, Nat.pow 2 (-exponent).toNat)

/-- The number as a fraction with positive denominator, if it is finite. -/
def fraction? (x : Double) : Option (Int × Nat) :=
  match x.reading with
  | .finite negative m e =>
    let (num, den) := ratio m e
    some (if negative then -(num : Int) else num, den)
  | _ => none

/-- The integer that a double equals, if there is one. -/
def toInt? (x : Double) : Option Int :=
  match x.fraction? with
  | some (num, den) => if num % den = 0 then some (num / den) else none
  | none => none

/-- The order of two doubles; none if one of them is undefined. -/
def compare? (x y : Double) : Option Ordering :=
  match x.reading, y.reading with
  | .undefined, _ | _, .undefined => none
  | .infinite a, .infinite b => some (if a = b then .eq else if a then .lt else .gt)
  | .infinite a, _ => some (if a then .lt else .gt)
  | _, .infinite b => some (if b then .gt else .lt)
  | .finite .., .finite .. =>
    match x.fraction?, y.fraction? with
    | some (a, b), some (c, d) => some (compare (a * d) (c * b))
    | _, _ => none

/-- The order of an integer and a double; none if the double is undefined. -/
def compareInt? (n : Int) (x : Double) : Option Ordering :=
  match x.reading with
  | .undefined => none
  | .infinite negative => some (if negative then .gt else .lt)
  | .finite .. => x.fraction?.map fun (num, den) => compare (n * den) num

end Double

end Principals.Decimal
