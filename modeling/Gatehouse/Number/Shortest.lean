import Gatehouse.Number.Double
import Gatehouse.Text.Digits

/-!
# The shortest decimal of a double

The decimal digits with which a double is written are the fewest that read back to
it; of several decimals with that many digits the nearest is taken.  The search
walks the decimal grids of 1, 2, … 17 digits and tests the two neighbours of the
value on each against the interval of numbers that round to it.
-/

namespace Gatehouse

/-- A decimal: the digits times ten to the exponent. -/
structure Decimal where
  digits : Nat
  exponent : Int
deriving DecidableEq, Repr, Inhabited

namespace Decimal

/-- The value as a quotient of naturals. -/
def toRatio (d : Decimal) : Nat × Nat :=
  if d.exponent < 0 then (d.digits, Nat.pow 10 (-d.exponent).toNat)
  else (d.digits * Nat.pow 10 d.exponent.toNat, 1)

/-- The same decimal without trailing zeros among its digits. -/
def normalize (d : Decimal) : Decimal :=
  if h : d.digits ≠ 0 ∧ d.digits % 10 = 0 then
    normalize ⟨d.digits / 10, d.exponent + 1⟩
  else d
termination_by d.digits
decreasing_by omega

end Decimal

namespace Magnitude

/-- Four times the mantissa less and more the half distances to the neighbouring
doubles; the distance below a power of two is half the one above it. -/
def quarterBounds (x : Magnitude) : Nat × Nat :=
  let below := if x.mantissa = Nat.pow 2 52 ∧ x.exponent > leastExponent then 1 else 2
  (4 * x.mantissa - below, 4 * x.mantissa + 2)

/-- Whether a quotient of naturals rounds to the double. -/
def roundsTo (x : Magnitude) (num den : Nat) : Bool :=
  let (low, high) := x.quarterBounds
  -- the bounds are quarters of the unit of the mantissa
  let (scaled, unit) :=
    if x.exponent < 2 then (num * Nat.pow 2 (2 - x.exponent).toNat, den)
    else (num, den * Nat.pow 2 (x.exponent - 2).toNat)
  if x.mantissa % 2 = 0 then low * unit ≤ scaled && scaled ≤ high * unit
  else low * unit < scaled && scaled < high * unit

/-- The power of ten at or below a positive quotient. -/
def decimalExponent (num den : Nat) : Int :=
  if den ≤ num then (Text.decimalList (num / den)).length - 1
  else
    let places := (Text.decimalList (den / num)).length
    if den ≤ num * Nat.pow 10 (places - 1) then 1 - (places : Int) else -(places : Int)

/-- The decimal with this many digits that reads back to the double and is nearest
to it, if there is one. -/
def onGrid? (x : Magnitude) (count : Nat) : Option Decimal :=
  let (num, den) := x.toRatio
  let exponent := decimalExponent num den - ((count : Int) - 1)
  let (n, d) :=
    if exponent < 0 then (num * Nat.pow 10 (-exponent).toNat, den)
    else (num, den * Nat.pow 10 exponent.toNat)
  let q := n / d
  let below : Decimal := ⟨q, exponent⟩
  let above : Decimal := ⟨q + 1, exponent⟩
  let hits (c : Decimal) : Bool := x.roundsTo c.toRatio.1 c.toRatio.2
  let r := n % d
  let nearer := if 2 * r > d ∨ (2 * r = d ∧ q % 2 = 1) then above else below
  let farther := if 2 * r > d ∨ (2 * r = d ∧ q % 2 = 1) then below else above
  if hits nearer then some nearer.normalize
  else if hits farther then some farther.normalize
  else none

/-- The shortest decimal that reads back to the double. -/
def shortest (x : Magnitude) : Decimal :=
  if x.mantissa = 0 then ⟨0, 0⟩
  else
    match (List.range 17).findSome? fun i => onGrid? x (i + 1) with
    | some d => d
    | none => ⟨0, 0⟩

end Magnitude

/-- How a double is written: in positional notation when the power of ten of its
first digit is in a range, with an exponent otherwise. -/
structure DecimalStyle where
  /-- The least power of ten written in positional notation. -/
  least : Int
  /-- The first power of ten above that is written with an exponent. -/
  limit : Int
  /-- Whether a positive exponent carries its sign. -/
  signedExponent : Bool

namespace DecimalStyle

/-- A list of digits with a point after the first. -/
def withPoint : List Char → String
  | [] => ""
  | [c] => String.ofList [c]
  | c :: rest => String.ofList (c :: '.' :: rest)

/-- The text of a decimal.  A whole number in positional notation ends in a point
and a zero. -/
def write (style : DecimalStyle) (d : Decimal) : String :=
  let digits := Text.decimalList d.digits
  let power : Int := (digits.length : Int) - 1 + d.exponent
  if d.digits = 0 then "0.0"
  else if style.least ≤ power ∧ power < style.limit then
    if power < 0 then
      "0." ++ String.ofList (List.replicate (-power - 1).toNat '0' ++ digits)
    else
      let whole := power.toNat + 1
      let padded := digits ++ List.replicate (whole - digits.length) '0'
      let fraction := padded.drop whole
      String.ofList (padded.take whole) ++ "." ++
        (if fraction.isEmpty then "0" else String.ofList fraction)
  else
    let sign := if power < 0 then "-" else if style.signedExponent then "+" else ""
    withPoint digits ++ "e" ++ sign ++ Text.decimal power.natAbs

end DecimalStyle

/-- The text of a double in a style. -/
def Double.write (style : DecimalStyle) (x : Double) : String :=
  (if x.negative then "-" else "") ++ style.write x.size.shortest

end Gatehouse
