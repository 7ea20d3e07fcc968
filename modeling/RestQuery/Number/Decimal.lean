import RestQuery.Text.Blank
import RestQuery.Text.Digit

/-!
# Decimal numbers

A decimal number keeps the digits and the exponent that it was written with, so `1.50` and `1.5`
are two numbers of one value.  `Decimal.ofText?` reads every spelling and `Decimal.text` writes the
standard one: positional where the exponent is not positive and the first digit stands no more than
six places behind the point, with an exponent otherwise.
-/

namespace RestQuery

/-- A decimal number `± coefficient * 10 ^ exponent`, or one of the special values.  What is not a
number has a serial number, which tells one such value from another. -/
inductive Decimal where
  | finite (negative : Bool) (coefficient : Nat) (exponent : Int)
  | infinite (negative : Bool)
  | nan (negative signaling : Bool) (payload serial : Nat)
deriving DecidableEq, Inhabited

namespace Decimal

/-- The digits of a finite number, with the point after the digit number `point`. -/
def placePoint (digits : List Char) (point : Int) : List Char :=
  if point ≤ 0 then '0' :: '.' :: List.replicate point.natAbs '0' ++ digits
  else if digits.length ≤ point.natAbs then
    digits ++ List.replicate (point.natAbs - digits.length) '0'
  else digits.take point.natAbs ++ '.' :: digits.drop point.natAbs

/-- The standard text of the digits and an exponent. -/
def finiteChars (coefficient : Nat) (exponent : Int) : List Char :=
  let digits := Nat.toDigits 10 coefficient
  let left : Int := exponent + digits.length
  if exponent ≤ 0 ∧ -6 < left then placePoint digits left
  else
    placePoint digits 1 ++
      (if left = 1 then []
       else 'E' :: (if left < 1 then '-' else '+') :: Nat.toDigits 10 (left - 1).natAbs)

def text : Decimal → String
  | .finite negative coefficient exponent =>
    String.ofList ((if negative then ['-'] else []) ++ finiteChars coefficient exponent)
  | .infinite negative => if negative then "-Infinity" else "Infinity"
  | .nan negative signaling payload _ =>
    (if negative then "-" else "") ++ (if signaling then "sNaN" else "NaN") ++
      (if payload = 0 then "" else toString payload)

/-- A value with another serial number, where it is not a number. -/
def numbered (serial : Nat) : Decimal → Decimal
  | .nan negative signaling payload _ => .nan negative signaling payload serial
  | d => d

/-- Whether a value is one with which no number can be compared. -/
def isSignaling : Decimal → Bool
  | .nan _ signaling _ _ => signaling
  | _ => false

/-- The exponent written behind a coefficient: nothing, or a mark, a sign and digits. -/
def readExponent? : List Char → Option Int
  | [] => some 0
  | c :: cs =>
    if c = 'e' ∨ c = 'E' then
      match cs with
      | [] => none
      | '+' :: [] | '-' :: [] => none
      | '+' :: ds => (Text.decimalNumeral? ds).map fun n => (n : Int)
      | '-' :: ds => (Text.decimalNumeral? ds).map fun n => -(n : Int)
      | ds => (Text.decimalNumeral? ds).map fun n => (n : Int)
    else none

/-- Reads digits with an optional point and an optional exponent. -/
def readFinite? (negative : Bool) (cs : List Char) : Option Decimal := do
  let (whole, rest) := cs.span fun c => (Text.decimalValue? c).isSome
  let (fraction, rest) := match rest with
    | '.' :: more => more.span fun c => (Text.decimalValue? c).isSome
    | _ => ([], rest)
  if whole.isEmpty && fraction.isEmpty then none
  else
    let coefficient ← Text.decimalNumeral? (whole ++ fraction)
    let exponent ← readExponent? rest
    some (.finite negative coefficient (exponent - fraction.length))

/-- Reads a number without its sign, letters being in lower case. -/
def readUnsigned? (negative : Bool) (cs : List Char) : Option Decimal :=
  if cs = "inf".toList ∨ cs = "infinity".toList then some (.infinite negative)
  else if "nan".toList.isPrefixOf cs then
    (Text.decimalNumeral? (cs.drop 3)).map fun payload => .nan negative false payload 0
  else if "snan".toList.isPrefixOf cs then
    (Text.decimalNumeral? (cs.drop 4)).map fun payload => .nan negative true payload 0
  else readFinite? negative cs

/-- Reads any spelling of a decimal number; blanks around it and underscores in it are skipped.
What is not a number gets the serial number zero. -/
def ofText? (s : String) : Option Decimal :=
  let cs := (Text.trimChars s.toList).filter (· ≠ '_')
  match cs.map Char.toLower with
  | '-' :: rest => readUnsigned? true rest
  | '+' :: rest => readUnsigned? false rest
  | rest => readUnsigned? false rest

end Decimal

end RestQuery
