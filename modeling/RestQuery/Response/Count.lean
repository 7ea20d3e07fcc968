import RestQuery.Error
import RestQuery.Number.Binary64
import RestQuery.Text.Digit

/-!
# The number of rows

A reply that counts rows has their number behind the slash of its content range.  The number of
pages is the quotient of that number and the limit, rounded up.  The quotient itself is rounded
before: to a floating-point number, or to 28 digits where the limit is a decimal number.
-/

namespace RestQuery

/-- The number of rows, and of the pages that they fill. -/
structure RowCount where
  pages : Int
  total : Nat
deriving DecidableEq

namespace RowCount

/-- The most digits that a number is read with. -/
def maxDigits : Nat := 4300

/-- The text behind the slash of a content range, trimmed. -/
def totalChars? (range : String) : Option (List Char) :=
  (Text.splitFirst '/' range.toList).2.map Text.trimChars

/-- The number of some digits.  Digits without a place in a numeral make none. -/
def readTotal (ds : List Char) : Except Error Nat :=
  if maxDigits < ds.length then .error .wrongValue
  else
    match Text.decimalNumeral? ds with
    | some n => .ok n
    | none => .error .wrongValue

/-- A floating-point number rounded up. -/
def roundUp : Binary64 → Except Error Int
  | .finite negative mantissa exponent => .ok (Binary64.ceiling negative mantissa exponent)
  | .infinite _ => .error .overflow
  | .nan _ => .error .wrongValue

/-- The pages of a whole number of rows each. -/
def wholePages (total : Nat) (limit : Int) : Except Error Int :=
  roundUp (Binary64.ofRatio (decide (limit < 0)) total limit.natAbs)

/-- The pages for a floating-point limit, for which the total becomes a floating-point number. -/
def binaryPages (total : Nat) (limit : Binary64) : Except Error Int :=
  match Binary64.ofRatio false total 1, limit with
  | .finite _ m e, .finite negative m' e' =>
    let (num, den) := Binary64.ratio m e
    let (num', den') := Binary64.ratio m' e'
    roundUp (Binary64.ofRatio negative (num * den') (den * num'))
  | .finite .., .infinite _ => .ok 0
  | .finite .., .nan _ => .error .wrongValue
  | _, _ => .error .overflow

/-- The digits of a quotient of decimal numbers. -/
def quotientDigits : Nat := 28

/-- The greatest exponent with which a quotient of decimal numbers is written out. -/
def maxExponent : Int := 10000

/-- The quotient `num / den` as a whole number of `quotientDigits` digits and an exponent of ten. -/
def decimalQuotient (num den : Nat) : Nat × Int :=
  let guess : Int :=
    (Nat.toDigits 10 num).length - (Nat.toDigits 10 den).length - quotientDigits
  let rounded (exponent : Int) : Nat :=
    if exponent < 0 then Binary64.roundHalfEven (num * Nat.pow 10 exponent.natAbs) den
    else Binary64.roundHalfEven num (den * Nat.pow 10 exponent.natAbs)
  if rounded guess < Nat.pow 10 quotientDigits then (rounded guess, guess)
  else (rounded (guess + 1), guess + 1)

/-- The pages for a decimal limit. -/
def decimalPages (total : Nat) (limit : Decimal) : Except Error Int :=
  match limit with
  | .finite negative coefficient exponent =>
    let (q, e) := decimalQuotient total coefficient
    let scale := e - exponent
    if maxExponent < scale then .error .overflow
    else if 0 ≤ scale then
      let pages : Int := (q * Nat.pow 10 scale.natAbs : Nat)
      .ok (if negative then -pages else pages)
    else
      -- beyond so many places nothing is left of the quotient in front of the point
      let unit := Nat.pow 10 (min scale.natAbs (quotientDigits + 1))
      .ok (if negative then -((q / unit : Nat) : Int) else ((q + unit - 1) / unit : Nat))
  | .infinite _ => .ok 0
  | .nan _ signaling _ _ => .error (if signaling then .signaling else .wrongValue)

/-- The pages of so many rows each that the rows fill; all rows are one page without a limit. -/
def pagesOf (total : Nat) (limit : Value) : Except Error Int :=
  if !limit.isGiven || total = 0 then .ok 1
  else
    match limit with
    | .int i => wholePages total i
    | .bool _ => wholePages total 1
    | .float x => binaryPages total x
    | .decimal d => decimalPages total d
    | _ => .error .wrongType

/-- The count in the header fields of a reply, if there is one. -/
def ofHeaders? (headers : Headers) (limit : Value) : Except Error (Option RowCount) :=
  match (headers.get? "Content-Range").bind totalChars? with
  | none => .ok none
  | some ds =>
    if ds.isEmpty || !ds.all Text.isDigit then .ok none
    else do
      let total ← readTotal ds
      return some ⟨← pagesOf total limit, total⟩

/-- The count as fields of a decoded reply. -/
def fields : Option RowCount → List (String × Value)
  | some count => [("pages_length", .int count.pages), ("total_length", .int count.total)]
  | none => []

end RowCount

end RestQuery
