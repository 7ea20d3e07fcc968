/-!
# Bytes of a text

UTF-8 in both directions and the two encodings of one byte a character.  `decode?_encode` says that
a text is read back from its own bytes.
-/

namespace RestQuery.Text

/-- The UTF-8 bytes of a text. -/
def encode (s : String) : List UInt8 := s.toList.flatMap String.utf8EncodeChar

/-- The text whose UTF-8 bytes these are, where there is one. -/
def decode? (bytes : List UInt8) : Option String := String.fromUTF8? bytes.toByteArray

/-- The bytes of a text of the first 128 characters. -/
def asciiBytes? (s : String) : Option (List UInt8) :=
  if s.toList.all (·.toNat < 128) then some (s.toList.map fun c => UInt8.ofNat c.toNat) else none

/-- The text of one character for each byte. -/
def latin1 (bytes : List UInt8) : String := String.ofList (bytes.map fun b => Char.ofNat b.toNat)

/-- The bytes of a text of the first 256 characters. -/
def latin1Bytes? (s : String) : Option (List UInt8) :=
  if s.toList.all (·.toNat < 256) then some (s.toList.map fun c => UInt8.ofNat c.toNat) else none

def isAscii (bytes : List UInt8) : Bool := bytes.all (· < 128)

/-- The text without its characters beyond ASCII. -/
def asciiPart (s : String) : String := String.ofList (s.toList.filter fun c => c.toNat < 128)

theorem toByteArray_encode (s : String) : (encode s).toByteArray = s.toByteArray := by
  rw [encode, ← List.utf8Encode, ← String.toByteArray_ofList, String.ofList_toList]

theorem decode?_encode (s : String) : decode? (encode s) = some s := by
  simp only [decode?, toByteArray_encode, String.fromUTF8?]
  rw [dif_pos s.isValidUTF8]
  rfl

end RestQuery.Text
