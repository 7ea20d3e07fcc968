import RestQuery.Number.Binary64
import RestQuery.Number.Decimal

/-!
# Exact values of numbers

Whole numbers, binary and decimal fractions have one common form `± m * 2 ^ a * 5 ^ b` with `m`
prime to ten, and it is unique.  So numbers of different kinds have the same value exactly if they
have the same form, and no power of a large exponent is ever computed.
-/

namespace RestQuery

/-- The value of a finite number: `± mantissa * 2 ^ twos * 5 ^ fives`. -/
structure Exact where
  negative : Bool
  mantissa : Nat
  twos : Int
  fives : Int
deriving DecidableEq

/-- The value of any number.  Two numbers are equal if they have one value; what is not a number has
a value of its own, known by its serial number. -/
inductive Quantity where
  | finite (value : Exact)
  | infinite (negative : Bool)
  | nan (serial : Nat)
deriving DecidableEq

/-- Divides out a factor: `n = m * p ^ k` for the result `(m, k)`.  Halving `n` bounds the steps. -/
def divideOut (p : Nat) : Nat → Nat → Nat × Nat
  | 0, n => (n, 0)
  | steps + 1, n =>
    if n % p = 0 then
      let (m, k) := divideOut p steps (n / p)
      (m, k + 1)
    else (n, 0)

/-- The common form of `± n * 2 ^ twos * 5 ^ fives`. -/
def Exact.of (negative : Bool) (n : Nat) (twos fives : Int) : Exact :=
  if n = 0 then ⟨false, 0, 0, 0⟩
  else
    let (odd, a) := divideOut 2 n.log2 n
    let (m, b) := divideOut 5 odd.log2 odd
    ⟨negative, m, twos + a, fives + b⟩

def Exact.ofInt (i : Int) : Exact := Exact.of (decide (i < 0)) i.natAbs 0 0

def Binary64.quantity : Binary64 → Quantity
  | .finite negative mantissa exponent => .finite (Exact.of negative mantissa exponent 0)
  | .infinite negative => .infinite negative
  | .nan serial => .nan serial

def Decimal.quantity : Decimal → Quantity
  | .finite negative coefficient exponent =>
    .finite (Exact.of negative coefficient exponent exponent)
  | .infinite negative => .infinite negative
  | .nan _ _ _ serial => .nan serial

/-- What is divided out is a factor. -/
theorem divideOut_mul (p steps n : Nat) :
    (divideOut p steps n).1 * Nat.pow p (divideOut p steps n).2 = n := by
  induction steps generalizing n with
  | zero => exact Nat.mul_one n
  | succ steps ih =>
    simp only [divideOut]
    split
    next h =>
      show (divideOut p steps (n / p)).1 * (Nat.pow p (divideOut p steps (n / p)).2 * p) = n
      rw [← Nat.mul_assoc, ih, Nat.div_mul_cancel (Nat.dvd_of_mod_eq_zero h)]
    next => exact Nat.mul_one n

end RestQuery
