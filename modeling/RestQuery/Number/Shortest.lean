import RestQuery.Number.Binary64

/-!
# Shortest decimal text of a floating-point number

The digits written are the fewest that read back as the same number and, of those, the nearest to
it.  On the grid of `n` significant digits only the two neighbours of the number can qualify, so the
grids are tried for `n = 1, 2, …` in exact arithmetic; 17 digits always suffice.  How the digits are
laid out is a `Layout`.
-/

namespace RestQuery.Binary64

/-- Decimal digits with the position of the first one: `d₁.d₂d₃… * 10 ^ exponent`. -/
structure Digits where
  digits : List Char
  exponent : Int
deriving DecidableEq

/-- The numbers that round to `mantissa * 2 ^ exponent`, in units of a quarter of the last place:
the ends of the interval around `4 * mantissa`, which belong to it for an even mantissa. -/
def interval (mantissa : Nat) (exponent : Int) : Nat × Nat :=
  let below := if mantissa = leastNormal ∧ minExponent < exponent then 1 else 2
  (4 * mantissa - below, 4 * mantissa + 2)

/-- Whether `num / den` is below `10 ^ k`. -/
def belowPower (num den : Nat) (k : Int) : Bool :=
  if k < 0 then num * Nat.pow 10 k.natAbs < den else num < den * Nat.pow 10 k.natAbs

/-- The least `k` with `num / den < 10 ^ k`, found next to an estimate from the binary length. -/
def decimalPoint (num den : Nat) : Int :=
  let guess : Int := Int.fdiv (((num.log2 : Int) - (den.log2 : Int)) * 30103) 100000
  ([guess - 1, guess, guess + 1, guess + 2].find? (belowPower num den)).getD (guess + 3)

/-- The neighbour of `num / den` on the grid of multiples of `10 ^ place` that reads back, if one
does; of two the nearer, and of two as near the even one. -/
def candidate? (mantissa : Nat) (exponent place : Int) : Option Nat :=
  let (low, high) := interval mantissa exponent
  let (unit, den) := ratio 1 (exponent - 2)
  let (up, down) :=
    if place < 0 then (Nat.pow 10 place.natAbs, 1) else (1, Nat.pow 10 place.natAbs)
  -- all three in units of `10 ^ place`, over the common denominator `den * down`
  let value := 4 * mantissa * unit * up
  let bottom := low * unit * up
  let top := high * unit * up
  let total := den * down
  let closed := mantissa % 2 == 0
  let fits (c : Nat) : Bool :=
    if closed then bottom ≤ c * total && c * total ≤ top
    else bottom < c * total && c * total < top
  let c := value / total
  match fits c, fits (c + 1) with
  | true, true =>
    let left := value - c * total
    let right := (c + 1) * total - value
    if left < right then some c
    else if right < left then some (c + 1)
    else some (c + c % 2)
  | true, false => some c
  | false, true => some (c + 1)
  | false, false => none

/-- Digits without zeros at the end, with the exponent of the first one. -/
def Digits.ofGrid (c : Nat) (place : Int) : Digits :=
  let ds := Nat.toDigits 10 c
  let kept := (ds.reverse.dropWhile (· == '0')).reverse
  ⟨kept, (ds.length : Int) - 1 + place⟩

/-- The shortest digits of a positive finite number. -/
def shortest (mantissa : Nat) (exponent : Int) : Digits :=
  let (num, den) := ratio mantissa exponent
  let point := decimalPoint num den
  let grids := (List.range 17).map fun (n : Nat) => point - (n + 1 : Nat)
  match grids.findSome? fun place => (candidate? mantissa exponent place).map (·, place) with
  | some (c, place) => Digits.ofGrid c place
  | none => Digits.ofGrid num 0

/-- How digits are laid out: the exponents written positionally, and the least number of digits of
an exponent that is written. -/
structure Layout where
  least : Int
  beyond : Int
  exponentWidth : Nat

/-- Positional text, with a digit on both sides of the point. -/
def positional (d : Digits) : List Char :=
  if d.exponent < 0 then
    '0' :: '.' :: List.replicate (d.exponent.natAbs - 1) '0' ++ d.digits
  else
    let whole := d.exponent.natAbs + 1
    let padded := d.digits ++ List.replicate (whole - d.digits.length) '0'
    let fraction := padded.drop whole
    padded.take whole ++ '.' :: (if fraction.isEmpty then ['0'] else fraction)

/-- Text with an exponent, whose sign is always written. -/
def scientific (width : Nat) (d : Digits) : List Char :=
  let mantissa := match d.digits with
    | [] => ['0']
    | [c] => [c]
    | c :: cs => c :: '.' :: cs
  let ds := Nat.toDigits 10 d.exponent.natAbs
  mantissa ++ 'e' :: (if d.exponent < 0 then '-' else '+') ::
    (List.replicate (width - ds.length) '0' ++ ds)

def Layout.write (layout : Layout) (d : Digits) : List Char :=
  if layout.least ≤ d.exponent ∧ d.exponent < layout.beyond then positional d
  else scientific layout.exponentWidth d

/-- The text of a finite number. -/
def finiteText (layout : Layout) (negative : Bool) (mantissa : Nat) (exponent : Int) : String :=
  let digits := if mantissa = 0 then ⟨['0'], 0⟩ else shortest mantissa exponent
  String.ofList ((if negative then ['-'] else []) ++ layout.write digits)

/-- Exponents -4 to 15 are positional, and an exponent has two digits at least. -/
def plainLayout : Layout := ⟨-4, 16, 2⟩

/-- Exponents -5 to 15 are positional, and an exponent is not filled up. -/
def jsonLayout : Layout := ⟨-5, 16, 1⟩

/-- The plain text of a number. -/
def text : Binary64 → String
  | .finite negative m e => finiteText plainLayout negative m e
  | .infinite negative => if negative then "-inf" else "inf"
  | .nan _ => "nan"

end RestQuery.Binary64
