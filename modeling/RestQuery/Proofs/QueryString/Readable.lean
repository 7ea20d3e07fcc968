import RestQuery.Proofs.QueryString.Reading
import RestQuery.Proofs.Text.Ascii

/-!
# The readable query string

The readable form of a query string is made of the encoded one as a whole, by reading its percent
sequences.  `Text.Unescapes` carries what this gives along the parts of the string: the characters
of the names and values again, except that a space is a plus sign.  So nothing is read twice, and
`Query.readable_spelled` says that the readable form is a spelling of the parameters themselves.
-/

namespace RestQuery

namespace Text

/-- A space as the plus sign that stands for it. -/
def plusOfSpace (c : Char) : Char := if c = ' ' then '+' else c

/-- The text with plus signs for its spaces. -/
def withPluses (s : String) : String := String.ofList (s.toList.map plusOfSpace)

/-! ## Reading percent sequences -/

/-- Wherever the characters stand in front of others, reading percent sequences turns them into
`read`. -/
def Unescapes (written read : List Char) : Prop :=
  ∀ rest, unescapeBytes (written ++ rest) = read.flatMap String.utf8EncodeChar ++ unescapeBytes rest

theorem Unescapes.nil : Unescapes [] [] := fun _ => rfl

theorem Unescapes.append {written read written' read' : List Char} (first : Unescapes written read)
    (next : Unescapes written' read') : Unescapes (written ++ written') (read ++ read') := by
  intro rest
  rw [List.append_assoc, first, next, List.flatMap_append, List.append_assoc]

theorem Unescapes.flatMap {α : Type} {f g : α → List Char} (each : ∀ a, Unescapes (f a) (g a))
    (as : List α) : Unescapes (as.flatMap f) (as.flatMap g) := by
  induction as with
  | nil => exact .nil
  | cons a as ih => exact (each a).append ih

theorem Unescapes.intercalate {α : Type} {sep : List Char} {f g : α → List Char}
    (between : Unescapes sep sep) (each : ∀ a, Unescapes (f a) (g a)) (as : List α) :
    Unescapes (sep.intercalate (as.map f)) (sep.intercalate (as.map g)) := by
  induction as with
  | nil => exact .nil
  | cons a as ih =>
    cases as with
    | nil =>
      rw [List.map_singleton, List.map_singleton, List.intercalate_singleton,
        List.intercalate_singleton]
      exact each a
    | cons b bs =>
      simp only [List.map_cons, List.intercalate_cons_cons] at ih ⊢
      exact ((each a).append between).append ih

/-- A character other than the percent sign stands for itself. -/
theorem Unescapes.plain {c : Char} (plain : c ≠ '%') : Unescapes [c] [c] := by
  intro rest
  rw [List.flatMap_singleton]
  exact unescapeBytes_cons plain rest

theorem unescapes_formChar (c : Char) : Unescapes (formChar c) [plusOfSpace c] := by
  rw [formChar]
  split
  next unreserved =>
    -- a space is not left as it is
    have same : plusOfSpace c = c := by
      refine if_neg ?_
      rintro rfl
      exact absurd unreserved (by decide)
    rw [same]
    exact .plain (isUnreserved_ne unreserved).1
  next =>
    rw [plusOfSpace]
    split
    next => exact .plain (by decide)
    next =>
      intro rest
      rw [List.flatMap_singleton]
      exact unescapeBytes_percents _ rest

/-- An encoded text is read as the text with plus signs for its spaces. -/
theorem unescapes_formEncode (s : String) :
    Unescapes (formEncode s).toList (withPluses s).toList := by
  rw [formEncode, withPluses, String.toList_ofList, String.toList_ofList, List.map_eq_flatMap]
  exact .flatMap unescapes_formChar _

theorem unescape_of_unescapes {s t : String} (unescapes : Unescapes s.toList t.toList) :
    unescape s = t := by
  have bytes := unescapes []
  rw [List.append_nil, unescapeBytes, List.append_nil] at bytes
  rw [unescape, bytes]
  exact decodeLossy_encode t

end Text

namespace QueryString

/-- A name and a value as they are read by people. -/
def spelling (p : Pair) : String := Text.withPluses p.1 ++ "=" ++ Text.withPluses p.2

theorem unescapes_piece (p : Pair) : Text.Unescapes (piece p).toList (spelling p).toList := by
  rw [piece, spelling]
  simp only [String.toList_append]
  exact ((Text.unescapes_formEncode p.1).append (.plain (by decide))).append
    (Text.unescapes_formEncode p.2)

/-- Pieces are read one by one, although the query string is read as a whole. -/
theorem unescapes_pieces (pairs : List Pair) :
    Text.Unescapes ("&".intercalate (pairs.map piece)).toList
      ("&".intercalate (pairs.map spelling)).toList := by
  rw [String.toList_intercalate, String.toList_intercalate, List.map_map, List.map_map]
  exact .intercalate (.plain (by decide)) unescapes_piece pairs

end QueryString

/-! ## Values without a text of their own -/

namespace Text

theorem encode_of_decode? {bytes : List UInt8} {s : String} (read : decode? bytes = some s) :
    encode s = bytes := by
  have same : s.toByteArray = bytes.toByteArray := by
    rw [decode?, String.fromUTF8?] at read
    split at read
    next valid =>
      cases read
      rfl
    next => cases read
  rw [← List.toByteArray_inj, toByteArray_encode, same]

/-- Beyond ASCII every byte of a character is marked as a part of one. -/
theorem le_of_mem_utf8EncodeChar {c : Char} (foreign : 128 ≤ c.toNat) :
    ∀ b ∈ String.utf8EncodeChar c, 0x80 ≤ b := by
  have large {n : Nat} (low : 128 ≤ n) (high : n < 256) : (0x80 : UInt8) ≤ UInt8.ofNat n := by
    rw [UInt8.le_iff_toNat_le, UInt8.toNat_ofNat_of_lt' high]
    exact low
  have foreign : 128 ≤ c.val.toNat := foreign
  simp only [String.utf8EncodeChar]
  rw [if_neg (by omega)]
  split_ifs
  all_goals
    simp only [List.forall_mem_cons, List.not_mem_nil, false_implies, implies_true, and_true]
  · exact ⟨large (by omega) (by omega), large (by omega) (by omega)⟩
  · exact ⟨large (by omega) (by omega), large (by omega) (by omega), large (by omega) (by omega)⟩
  · exact ⟨large (by omega) (by omega), large (by omega) (by omega), large (by omega) (by omega),
      large (by omega) (by omega)⟩

theorem toNat_lt_of_isUnreserved {c : Char} (unreserved : isUnreserved c) : c.toNat < 128 := by
  have small {d : Char} (below : c ≤ d) (ascii : d.toNat < 128) : c.toNat < 128 :=
    Nat.lt_of_le_of_lt (UInt32.le_iff_toNat_le.1 below) ascii
  have marks : ['_', '.', '-', '~', '*'].all (·.toNat < 128) := by decide
  simp only [isUnreserved, Bool.or_eq_true, Bool.and_eq_true, decide_eq_true_eq,
    List.contains_iff_mem] at unreserved
  rcases unreserved with ((⟨_, below⟩ | ⟨_, below⟩) | ⟨_, below⟩) | mark
  · exact small below (by decide)
  · exact small below (by decide)
  · exact small below (by decide)
  · exact of_decide_eq_true (List.all_eq_true.1 marks c mark)

theorem formChar_of_foreign {c : Char} (foreign : 128 ≤ c.toNat) :
    formChar c = (String.utf8EncodeChar c).flatMap percent := by
  have reserved : ¬isUnreserved c :=
    fun unreserved => Nat.not_lt.2 foreign (toNat_lt_of_isUnreserved unreserved)
  have visible : c ≠ ' ' := by
    rintro rfl
    exact absurd foreign (by decide)
  rw [formChar, if_neg reserved, if_neg visible]

/-- The bytes of a character are encoded like the character. -/
theorem flatMap_formByte (c : Char) : (String.utf8EncodeChar c).flatMap formByte = formChar c := by
  by_cases ascii : c.toNat < 128
  · exact forall_ascii (motive := fun c => (String.utf8EncodeChar c).flatMap formByte = formChar c)
      (by decide) ascii
  · rw [formChar_of_foreign (Nat.not_lt.1 ascii)]
    refine List.flatMap_congr fun b member => ?_
    exact if_neg (UInt8.not_lt.2 (le_of_mem_utf8EncodeChar (Nat.not_lt.1 ascii) b member))

theorem formEncodeBytes_encode (s : String) : formEncodeBytes (encode s) = formEncode s := by
  rw [formEncodeBytes, encode, formEncode, List.flatMap_assoc]
  simp only [flatMap_formByte]

end Text

namespace QueryString

/-- The text that a value is written as, unless it has none: the text of bytes is what they are the
UTF-8 of. -/
def wording? (write : QueryText) : Value → Option String
  | .bytes bytes => Text.decode? bytes
  | v => (v.plain write).toOption

/-- A parameter with the text that its value is written as. -/
def wordedPair? (write : QueryText) (p : Parameter) : Option Pair :=
  (wording? write p.2).map (p.1, ·)

theorem encodeValue_of_wording? {write : QueryText} {v : Value} {s : String}
    (worded : wording? write v = some s) : encodeValue write v = .ok (Text.formEncode s) := by
  by_cases isBytes : ∃ bytes, v = .bytes bytes
  · obtain ⟨bytes, rfl⟩ := isBytes
    rw [← Text.formEncodeBytes_encode, Text.encode_of_decode? worded]
    rfl
  · have other (bytes : List UInt8) (same : v = .bytes bytes) : False := isBytes ⟨bytes, same⟩
    rw [wording?] at worded
    · rw [encodeValue]
      · cases plain : v.plain write with
        | ok t =>
          rw [plain] at worded
          cases worded
          rfl
        | error cause =>
          rw [plain] at worded
          cases worded
      · exact other
    · exact other

theorem encodeParameter_of_wordedPair? (write : QueryText) {p : Parameter} {pair : Pair}
    (worded : wordedPair? write p = some pair) : encodeParameter write p = .ok (piece pair) := by
  obtain ⟨value, own, rfl⟩ := Option.map_eq_some_iff.1 worded
  rw [encodeParameter, encodeValue_of_wording? own]
  rfl

theorem mapM_wordedPair?_parameters (write : QueryText) (pairs : List Pair) :
    (parameters pairs).mapM (wordedPair? write) = some pairs := by
  rw [parameters, List.mapM_map]
  exact mapM_eq_some fun _ _ => rfl

theorem mapM_wordedPair?_conflict {write : QueryText} {q : Query}
    (conflict : q.onConflict.isGiven → (wording? write q.onConflict).isSome) :
    ∃ pairs, (conflictParameters q).mapM (wordedPair? write) = some pairs := by
  rw [conflictParameters]
  split
  next given =>
    obtain ⟨column, worded⟩ := Option.isSome_iff_exists.1 (conflict given)
    exact ⟨[("on_conflict", column)], by simp [wordedPair?, worded]⟩
  next => exact ⟨[], rfl⟩

end QueryString

namespace Query

open QueryString

/-- If a query can be written, and the column for conflicts has a text if there is one, then the
readable query string is made of its parameters: names and values joined by equals signs, and these
by ampersands, all characters but spaces as they are. -/
theorem readable_spelled (write : QueryText) {q : Query} {ps : List Parameter}
    (compiled : q.parameters write = .ok ps)
    (conflict : q.onConflict.isGiven → (wording? write q.onConflict).isSome) :
    ∃ pairs, ps.mapM (wordedPair? write) = some pairs ∧
      q.toText write false = .ok ("&".intercalate (pairs.map spelling)) := by
  obtain ⟨before, after, shape⟩ := parameters_shape compiled
  obtain ⟨middle, conflicts⟩ := mapM_wordedPair?_conflict conflict
  have worded : ps.mapM (wordedPair? write) = some (before ++ (middle ++ after)) := by
    rw [shape, List.mapM_append, List.mapM_append, mapM_wordedPair?_parameters,
      mapM_wordedPair?_parameters, conflicts]
    rfl
  refine ⟨_, worded, ?_⟩
  have encoded := encode_of_pieces write (fun _ _ => encodeParameter_of_wordedPair? write) worded
  rw [toText, if_neg Bool.false_ne_true, readable, Query.encoded, compiled, ok_bind, encoded,
    ok_bind, Text.unescape_of_unescapes (unescapes_pieces _)]
  rfl

/-- A query for a title that looks encoded, with a column in bytes. -/
def filmsEscaped : Query :=
  { ofResource "films" .many with
    filters := [⟨.eq, .text "title", .text "%41 +&=é", false⟩]
    onConflict := .bytes (Text.encode "id") }

theorem readable_spelled_filmsEscaped :
    filmsEscaped.toText (fun _ => .ok "") false = .ok "title=eq.%41++&=é&on_conflict=id" := by
  have compiled : filmsEscaped.parameters (fun _ => .ok "") =
      .ok [("title", .text "eq.%41 +&=é"), ("on_conflict", .bytes (Text.encode "id"))] := by
    rw [parameters_root _ rfl]
    simp only [filterPairs, filmsEscaped, collect, ownFilterPairs, Filter.arranged,
      List.mergeSort_singleton]
    rfl
  have words : [("title", Value.text "eq.%41 +&=é"),
      ("on_conflict", .bytes (Text.encode "id"))].mapM (wordedPair? fun _ => .ok "") =
      some [("title", "eq.%41 +&=é"), ("on_conflict", "id")] := by
    simp [wordedPair?, wording?, Text.decode?_encode, Value.plain, Except.toOption]
  have column : (wording? (fun _ => .ok "") filmsEscaped.onConflict).isSome := by
    simp [filmsEscaped, wording?, Text.decode?_encode]
  obtain ⟨pairs, worded, result⟩ := readable_spelled _ compiled fun _ => column
  cases words.symm.trans worded
  rw [result]
  exact congrArg Except.ok (by decide)

end Query

end RestQuery
