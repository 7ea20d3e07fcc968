/-!
# Binary floating-point numbers

A finite number is `mantissa * 2 ^ exponent` with a sign, in canonical form: the mantissa is below
`2 ^ 53`, and at least `2 ^ 52` unless the exponent is the least one.  `Binary64.ofRatio` rounds a
quotient of natural numbers to the nearest such number, ties to the even mantissa, and
`Binary64.ofScientific` reads a decimal number through it.  Everything is exact integer arithmetic.
-/

namespace RestQuery

/-- A number of the binary format with 53 bits of precision.  What is not a number has a serial
number, which tells one such value from another. -/
inductive Binary64 where
  | finite (negative : Bool) (mantissa : Nat) (exponent : Int)
  | infinite (negative : Bool)
  | nan (serial : Nat)
deriving DecidableEq, Inhabited

namespace Binary64

/-- The exponent of the subnormal numbers. -/
def minExponent : Int := -1074

/-- The exponent of the largest numbers. -/
def maxExponent : Int := 971

/-- The bound of the mantissas, `2 ^ 53`. -/
def mantissaBound : Nat := 9007199254740992

/-- The least mantissa of a number that is not subnormal, `2 ^ 52`. -/
def leastNormal : Nat := 4503599627370496

/-- `num / den` rounded to a whole number, a half going to the even neighbour. -/
def roundHalfEven (num den : Nat) : Nat :=
  let q := num / den
  let r := num % den
  if 2 * r < den then q
  else if den < 2 * r then q + 1
  else q + q % 2

/-- `num / den` divided by `2 ^ exponent`, as a quotient of natural numbers. -/
def scaled (num den : Nat) (exponent : Int) : Nat × Nat :=
  if exponent < 0 then (num * Nat.pow 2 exponent.natAbs, den)
  else (num, den * Nat.pow 2 exponent.natAbs)

/-- The exponent at which `num / den` has a mantissa of 53 bits, or the least exponent. -/
def exponentOf (num den : Nat) : Int :=
  let guess : Int := (num.log2 : Int) - (den.log2 : Int) - 52
  let (n, d) := scaled num den guess
  max minExponent (if n < leastNormal * d then guess - 1 else guess)

/-- Mantissa and exponent of the number nearest to `num / den`, without a bound on the exponent. -/
def nearest (num den : Nat) : Nat × Int :=
  let exponent := exponentOf num den
  let (n, d) := scaled num den exponent
  let m := roundHalfEven n d
  if m = mantissaBound then (leastNormal, exponent + 1) else (m, exponent)

/-- The number nearest to a quotient, infinite beyond the largest finite number. -/
def ofRatio (negative : Bool) (num den : Nat) : Binary64 :=
  if num = 0 then .finite negative 0 minExponent
  else
    let (m, exponent) := nearest num den
    if maxExponent < exponent then .infinite negative else .finite negative m exponent

/-- The number nearest to `coefficient * 10 ^ exponent`.  Exponents far beyond the format are told
from the count of digits alone. -/
def ofScientific (negative : Bool) (coefficient : Nat) (exponent : Int) : Binary64 :=
  if coefficient = 0 then .finite negative 0 minExponent
  else
    let size : Int := (Nat.toDigits 10 coefficient).length + exponent
    if 310 < size then .infinite negative
    else if size < -330 then .finite negative 0 minExponent
    else if exponent < 0 then ofRatio negative coefficient (Nat.pow 10 exponent.natAbs)
    else ofRatio negative (coefficient * Nat.pow 10 exponent.natAbs) 1

/-- The absolute value of a finite number as a quotient. -/
def ratio (mantissa : Nat) (exponent : Int) : Nat × Nat :=
  if exponent < 0 then (mantissa, Nat.pow 2 exponent.natAbs)
  else (mantissa * Nat.pow 2 exponent.natAbs, 1)

def isZero : Binary64 → Bool
  | .finite _ m _ => m == 0
  | _ => false

/-- The least whole number that is not below a finite number. -/
def ceiling (negative : Bool) (mantissa : Nat) (exponent : Int) : Int :=
  let (n, d) := ratio mantissa exponent
  if negative then -((n / d : Nat) : Int) else ((n + d - 1) / d : Nat)

end Binary64

end RestQuery
