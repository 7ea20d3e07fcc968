import RestQuery.Text.Basic
import RestQuery.Text.Blank
import RestQuery.Text.Case
import RestQuery.Text.Utf8

/-!
# Header fields

Header fields are an ordered list of names and values in bytes.  Names are compared without case.
All fields of one list are read in one encoding: ASCII where it fits every name and value, else
UTF-8, else Latin-1, which always fits.
-/

namespace RestQuery

/-- Header fields in their order, each a name and a value in bytes. -/
structure Headers where
  fields : List (List UInt8 × List UInt8)
deriving DecidableEq, Inhabited

/-- How the bytes of a list of header fields are read as text. -/
inductive HeaderEncoding where
  | ascii | utf8 | latin1
deriving DecidableEq

namespace HeaderEncoding

/-- The text of some bytes; bytes that do not fit the encoding give the empty text. -/
def decode : HeaderEncoding → List UInt8 → String
  | .ascii, bytes => Text.latin1 bytes
  | .utf8, bytes => (Text.decode? bytes).getD ""
  | .latin1, bytes => Text.latin1 bytes

/-- The bytes of a text that has some in the encoding. -/
def encode? : HeaderEncoding → String → Option (List UInt8)
  | .ascii, s => Text.asciiBytes? s
  | .utf8, s => some (Text.encode s)
  | .latin1, s => Text.latin1Bytes? s

end HeaderEncoding

/-- A byte of a capital ASCII letter in lower case. -/
def lowerByte (b : UInt8) : UInt8 := if 65 ≤ b ∧ b ≤ 90 then b + 32 else b

namespace Headers

/-- The first encoding that fits all names and values. -/
def encoding (h : Headers) : HeaderEncoding :=
  if h.fields.all fun (name, value) => Text.isAscii name && Text.isAscii value then .ascii
  else if h.fields.all fun (name, value) =>
    (Text.decode? name).isSome && (Text.decode? value).isSome then .utf8
  else .latin1

/-- The fields as texts, names in the case in which they were given. -/
def texts (h : Headers) : List (String × String) :=
  h.fields.map fun (name, value) => (h.encoding.decode name, h.encoding.decode value)

/-- The names in lower case, each at its first place. -/
def names (h : Headers) : List String :=
  (h.fields.map fun (name, _) => h.encoding.decode (name.map lowerByte)).eraseDups

/-- The values under a name given by its bytes in lower case. -/
def valuesOf (h : Headers) (name : List UInt8) : List String :=
  (h.fields.filter fun field => field.1.map lowerByte = name).map fun field =>
    h.encoding.decode field.2

/-- The values under a name, in order.  There are none under a name that the encoding of the fields
cannot write. -/
def values (h : Headers) (name : String) : List String :=
  match h.encoding.encode? (Text.lower name) with
  | some bytes => h.valuesOf bytes
  | none => []

/-- The value under a name, where repeated ones are joined by commas. -/
def get? (h : Headers) (name : String) : Option String :=
  match h.values name with
  | [] => none
  | vs => some (", ".intercalate vs)

end Headers

end RestQuery
