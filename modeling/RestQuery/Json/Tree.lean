import RestQuery.Number.Binary64
import RestQuery.Text.Digit
import RestQuery.Text.Utf8

/-!
# JSON texts

`Tree.read?` reads one JSON text strictly: no blank but the four of the format, no comma too many,
no number with a leading zero or plus sign, no lone half of a surrogate pair.  The tree keeps all
that the text says, the digits of a number and repeated names of an object included.  Each reader
gives what it reads together with the rest of the text.
-/

namespace RestQuery.Json

/-- A number as it is written: `± coefficient * 10 ^ exponent`, whole if it has neither a point nor
an exponent. -/
structure Numeral where
  negative : Bool
  coefficient : Nat
  exponent : Int
  isWhole : Bool
deriving DecidableEq

/-- The content of a JSON text. -/
inductive Tree where
  | null
  | bool (b : Bool)
  | number (n : Numeral)
  | text (s : String)
  | array (items : List Tree)
  | object (members : List (String × Tree))
deriving Inhabited

def isBlank (c : Char) : Bool := c = ' ' || c = '\t' || c = '\n' || c = '\r'

def skipBlank (cs : List Char) : List Char := cs.dropWhile isBlank

/-- The number of four hexadecimal digits. -/
def hexNumber? (a b c d : Char) : Option Nat := do
  return 4096 * (← Text.hexValue? a) + 256 * (← Text.hexValue? b) +
    16 * (← Text.hexValue? c) + (← Text.hexValue? d)

/-- The character of an escape of one letter. -/
def shortEscape? : Char → Option Char
  | '"' => some '"'
  | '\\' => some '\\'
  | '/' => some '/'
  | 'b' => some '\x08'
  | 'f' => some '\x0c'
  | 'n' => some '\n'
  | 'r' => some '\r'
  | 't' => some '\t'
  | _ => none

/-- The rest of a text after its opening quote. -/
def readQuoted? : List Char → Option (List Char × List Char)
  | [] => none
  | '"' :: cs => some ([], cs)
  | '\\' :: 'u' :: a :: b :: c :: d :: cs => do
    let unit ← hexNumber? a b c d
    if 0xd800 ≤ unit ∧ unit < 0xdc00 then
      match cs with
      | '\\' :: 'u' :: e :: f :: g :: h :: cs => do
        let low ← hexNumber? e f g h
        if 0xdc00 ≤ low ∧ low < 0xe000 then
          let (rest, cs) ← readQuoted? cs
          some (Char.ofNat (0x10000 + 0x400 * (unit - 0xd800) + (low - 0xdc00)) :: rest, cs)
        else none
      | _ => none
    else if 0xdc00 ≤ unit ∧ unit < 0xe000 then none
    else
      let (rest, cs) ← readQuoted? cs
      some (Char.ofNat unit :: rest, cs)
  | '\\' :: e :: cs => do
    let c ← shortEscape? e
    let (rest, cs) ← readQuoted? cs
    some (c :: rest, cs)
  | c :: cs =>
    if c.toNat < 0x20 ∨ c = '\\' then none
    else do
      let (rest, cs) ← readQuoted? cs
      some (c :: rest, cs)

/-- The number of some decimal digits. -/
def numeral (ds : List Char) : Nat := Nat.ofDigitChars 10 ds 0

/-- The fraction digits behind a point, if there is a point. -/
def readFraction? : List Char → Option (Option (List Char) × List Char)
  | '.' :: cs =>
    let (ds, rest) := cs.span Char.isDigit
    if ds.isEmpty then none else some (some ds, rest)
  | cs => some (none, cs)

/-- The exponent, if there is one. -/
def readExponent? : List Char → Option (Option Int × List Char)
  | c :: cs =>
    if c = 'e' ∨ c = 'E' then
      let (negative, digits) := match cs with
        | '-' :: rest => (true, rest)
        | '+' :: rest => (false, rest)
        | _ => (false, cs)
      let (ds, rest) := digits.span Char.isDigit
      if ds.isEmpty then none
      else some (some (if negative then -(numeral ds : Int) else (numeral ds : Int)), rest)
    else some (none, c :: cs)
  | [] => some (none, [])

/-- A number behind its sign. -/
def readUnsigned? (negative : Bool) (cs : List Char) : Option (Numeral × List Char) := do
  let (whole, rest) := cs.span Char.isDigit
  match whole with
  | [] => none
  | '0' :: _ :: _ => none
  | _ =>
    let (fraction, rest) ← readFraction? rest
    let (exponent, rest) ← readExponent? rest
    let digits := fraction.getD []
    some (⟨negative, numeral (whole ++ digits), exponent.getD 0 - digits.length,
      fraction.isNone && exponent.isNone⟩, rest)

def readNumber? : List Char → Option (Numeral × List Char)
  | '-' :: cs => readUnsigned? true cs
  | cs => readUnsigned? false cs

/-- The rest of a text behind a fixed word. -/
def readWord? (w : List Char) (cs : List Char) : Option (List Char) :=
  if w.isPrefixOf cs then some (cs.drop w.length) else none

mutual

/-- One value.  `room` bounds the nesting of arrays and objects; `steps` bounds the recursion. -/
def readValue? (room : Nat) : Nat → List Char → Option (Tree × List Char)
  | 0, _ => none
  | steps + 1, cs =>
    match skipBlank cs with
    | '"' :: rest => (readQuoted? rest).map fun (s, rest) => (.text (String.ofList s), rest)
    | '[' :: rest =>
      match room with
      | 0 => none
      | room + 1 =>
        match skipBlank rest with
        | ']' :: rest => some (.array [], rest)
        | _ => (readItems? room steps rest).map fun (items, rest) => (.array items, rest)
    | '\x7b' :: rest =>
      match room with
      | 0 => none
      | room + 1 =>
        match skipBlank rest with
        | '\x7d' :: rest => some (.object [], rest)
        | _ => (readMembers? room steps rest).map fun (members, rest) => (.object members, rest)
    | 'n' :: rest => (readWord? ['u', 'l', 'l'] rest).map fun rest => (.null, rest)
    | 't' :: rest => (readWord? ['r', 'u', 'e'] rest).map fun rest => (.bool true, rest)
    | 'f' :: rest => (readWord? ['a', 'l', 's', 'e'] rest).map fun rest => (.bool false, rest)
    | rest => (readNumber? rest).map fun (n, rest) => (.number n, rest)

/-- The items of an array up to its end, at least one. -/
def readItems? (room : Nat) : Nat → List Char → Option (List Tree × List Char)
  | 0, _ => none
  | steps + 1, cs => do
    let (item, rest) ← readValue? room steps cs
    match skipBlank rest with
    | ',' :: rest =>
      let (items, rest) ← readItems? room steps rest
      some (item :: items, rest)
    | ']' :: rest => some ([item], rest)
    | _ => none

/-- The members of an object up to its end, at least one. -/
def readMembers? (room : Nat) : Nat → List Char → Option (List (String × Tree) × List Char)
  | 0, _ => none
  | steps + 1, cs =>
    match skipBlank cs with
    | '"' :: rest => do
      let (name, rest) ← readQuoted? rest
      match skipBlank rest with
      | ':' :: rest =>
        let (value, rest) ← readValue? room steps rest
        match skipBlank rest with
        | ',' :: rest =>
          let (members, rest) ← readMembers? room steps rest
          some ((String.ofList name, value) :: members, rest)
        | '\x7d' :: rest => some ([(String.ofList name, value)], rest)
        | _ => none
      | _ => none
    | _ => none

end

/-- The greatest depth of arrays and objects inside each other. -/
def maxDepth : Nat := 1024

/-- The tree of a JSON text. -/
def Tree.read? (s : String) : Option Tree := do
  let cs := s.toList
  let (tree, rest) ← readValue? maxDepth (2 * cs.length + 2) cs
  if (skipBlank rest).isEmpty then some tree else none

/-- The tree of the bytes of a JSON text. -/
def Tree.readBytes? (bytes : List UInt8) : Option Tree := do Tree.read? (← Text.decode? bytes)

end RestQuery.Json
