/-!
# Finite binary numbers of double precision

A finite double is a sign, a mantissa below 2^53 and a power of two.  Rounding a
quotient of naturals to the nearest double, a tie to the even mantissa, is the one
primitive; products and quotients of doubles are rounded with it.
-/

namespace Gatehouse

/-- The size of a finite double: the mantissa times two to the exponent.  The
mantissa is below 2^53, and at least 2^52 unless the exponent is the least one,
which is -1074. -/
structure Magnitude where
  mantissa : Nat
  exponent : Int
deriving DecidableEq, Repr, Inhabited

/-- A finite double. -/
structure Double where
  negative : Bool
  size : Magnitude
deriving DecidableEq, Repr, Inhabited

namespace Magnitude

/-- The least exponent of a double. -/
def leastExponent : Int := -1074

/-- The greatest exponent of a double. -/
def greatestExponent : Int := 971

/-- Zero. -/
def zero : Magnitude := ⟨0, leastExponent⟩

/-- The value as a quotient of naturals. -/
def toRatio (x : Magnitude) : Nat × Nat :=
  if x.exponent < 0 then (x.mantissa, Nat.pow 2 (-x.exponent).toNat)
  else (x.mantissa * Nat.pow 2 x.exponent.toNat, 1)

/-- The exponent with which the quotient has 53 binary digits before the point. -/
def naturalExponent (num den : Nat) : Int :=
  let guess : Int := (num.log2 : Int) - den.log2 - 52
  let (n, d) :=
    if guess < 0 then (num * Nat.pow 2 (-guess).toNat, den) else (num, den * Nat.pow 2 guess.toNat)
  if n < Nat.pow 2 52 * d then guess - 1 else guess

/-- A quotient of naturals rounded to the nearest double, a tie to the even
mantissa; nothing if it is beyond the greatest double. -/
def round? (num den : Nat) : Option Magnitude :=
  if num = 0 then some zero
  else
    let exponent := max (naturalExponent num den) leastExponent
    let (n, d) :=
      if exponent < 0 then (num * Nat.pow 2 (-exponent).toNat, den)
      else (num, den * Nat.pow 2 exponent.toNat)
    let q := n / d
    let r := n % d
    let q := if 2 * r > d ∨ (2 * r = d ∧ q % 2 = 1) then q + 1 else q
    let rounded : Magnitude :=
      if q = Nat.pow 2 53 then ⟨Nat.pow 2 52, exponent + 1⟩ else ⟨q, exponent⟩
    if rounded.exponent > greatestExponent then none else some rounded

/-- The double nearest to a natural number, if it is in range. -/
def ofNat? (n : Nat) : Option Magnitude := round? n 1

/-- The product, rounded. -/
def mul? (x y : Magnitude) : Option Magnitude :=
  let (a, b) := x.toRatio
  let (c, d) := y.toRatio
  round? (a * c) (b * d)

/-- The quotient, rounded; the divisor is not zero. -/
def div? (x y : Magnitude) : Option Magnitude :=
  let (a, b) := x.toRatio
  let (c, d) := y.toRatio
  round? (a * d) (b * c)

end Magnitude
end Gatehouse
