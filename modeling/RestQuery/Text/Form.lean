import RestQuery.Text.Digit
import RestQuery.Text.Lossy

/-!
# Form encoding

In an encoded text, letters, digits and the marks `_ . - ~ *` stand for themselves, a plus sign for
a space, and all else is written as the percent sequences of its UTF-8 bytes.  Bytes are encoded in
the same way, each for itself.  `unescape` reads percent sequences and leaves everything else, so it
turns an encoded text into a readable one in which a space is still a plus sign.
-/

namespace RestQuery.Text

/-- The characters that stand for themselves. -/
def isUnreserved (c : Char) : Bool :=
  ('a' ≤ c && c ≤ 'z') || ('A' ≤ c && c ≤ 'Z') || ('0' ≤ c && c ≤ '9') ||
    ['_', '.', '-', '~', '*'].contains c

/-- The digit of a number below sixteen, in upper case. -/
def hexDigitUpper (n : Nat) : Char :=
  if n < 10 then Char.ofNat (48 + n) else Char.ofNat (55 + n)

/-- The percent sequence of a byte. -/
def percent (b : UInt8) : List Char :=
  ['%', hexDigitUpper (b.toNat / 16), hexDigitUpper (b.toNat % 16)]

/-- One character in encoded text. -/
def formChar (c : Char) : List Char :=
  if isUnreserved c then [c]
  else if c = ' ' then ['+']
  else (String.utf8EncodeChar c).flatMap percent

/-- The encoded text. -/
def formEncode (s : String) : String := String.ofList (s.toList.flatMap formChar)

/-- One byte in encoded text. -/
def formByte (b : UInt8) : List Char :=
  if b < 0x80 then formChar (Char.ofNat b.toNat) else percent b

/-- The encoded text of some bytes. -/
def formEncodeBytes (bytes : List UInt8) : String := String.ofList (bytes.flatMap formByte)

/-- The bytes of a text in which percent sequences stand for bytes.  A percent sign without two
digits behind it stands for itself. -/
def unescapeBytes : List Char → List UInt8
  | [] => []
  | '%' :: a :: b :: cs =>
    match hexValue? a, hexValue? b with
    | some m, some n => UInt8.ofNat (16 * m + n) :: unescapeBytes cs
    | _, _ => 37 :: unescapeBytes (a :: b :: cs)
  | c :: cs => String.utf8EncodeChar c ++ unescapeBytes cs

/-- The text whose percent sequences are read, with replacement characters where they make none. -/
def unescape (s : String) : String := decodeLossy (unescapeBytes s.toList)

end RestQuery.Text
