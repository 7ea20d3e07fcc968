import RestQuery.Text.Utf8

/-!
# Damaged UTF-8

Bytes that are no text as a whole can still be read with losses.  Every character that is complete
is kept.  A character that breaks off is given up as soon as the bytes read so far cannot go on, and
one replacement character stands for all of them; so it does for a byte that starts no character.

`decodeLossy_encode` says that a text loses nothing.
-/

namespace RestQuery.Text

/-- The character that stands for what cannot be read. -/
def replacement : Char := '\ufffd'

/-- A character that has been read in part: its bits so far, how many bytes are still to come, and
the bounds of the next one. -/
structure PartialChar where
  bits : Nat
  missing : Nat
  low : UInt8
  high : UInt8

/-- What a byte at the start of a character says. -/
inductive Lead where
  | whole (c : Char)
  | more (p : PartialChar)
  | unreadable

/-- Reads the first byte of a character.  The bounds of the second byte leave out what has a shorter
form, the halves of surrogate pairs and what lies beyond the last character. -/
def Lead.ofByte (b : UInt8) : Lead :=
  if b < 0x80 then .whole (Char.ofNat b.toNat)
  else if b < 0xc2 then .unreadable
  else if b < 0xe0 then .more ⟨b.toNat - 0xc0, 1, 0x80, 0xbf⟩
  else if b < 0xf0 then
    .more ⟨b.toNat - 0xe0, 2, if b = 0xe0 then 0xa0 else 0x80, if b = 0xed then 0x9f else 0xbf⟩
  else if b < 0xf5 then
    .more ⟨b.toNat - 0xf0, 3, if b = 0xf0 then 0x90 else 0x80, if b = 0xf4 then 0x8f else 0xbf⟩
  else .unreadable

/-- The characters of some bytes, the first ones of which may complete a character. -/
def lossyChars : Option PartialChar → List UInt8 → List Char
  | none, [] => []
  | some _, [] => [replacement]
  | pending, b :: bs =>
    let restart :=
      match Lead.ofByte b with
      | .whole c => c :: lossyChars none bs
      | .more p => lossyChars (some p) bs
      | .unreadable => replacement :: lossyChars none bs
    match pending with
    | none => restart
    | some p =>
      if p.low ≤ b ∧ b ≤ p.high then
        let bits := 64 * p.bits + (b.toNat - 0x80)
        if p.missing ≤ 1 then Char.ofNat bits :: lossyChars none bs
        else lossyChars (some ⟨bits, p.missing - 1, 0x80, 0xbf⟩) bs
      else replacement :: restart

/-- The text of some bytes, with a replacement character wherever they are damaged. -/
def decodeLossy (bytes : List UInt8) : String :=
  (decode? bytes).getD (String.ofList (lossyChars none bytes))

theorem decodeLossy_encode (s : String) : decodeLossy (encode s) = s := by
  simp [decodeLossy, decode?_encode]

end RestQuery.Text
