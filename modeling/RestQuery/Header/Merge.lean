import RestQuery.Error

/-!
# Request headers

`Headers.read` takes the header fields of a caller, and `Query.requestHeaders` joins them with what
the query asks for.  The fields of a caller replace the default ones of the same name, but not the
media type of a single object and not the schema; a preference of the caller is dropped where the
query sets the same one.
-/

namespace RestQuery

/-- The media type of JSON texts. -/
def jsonMediaType : String := "application/json"

/-- The media type of a single object in place of a list of rows. -/
def objectMediaType : String := "application/vnd.pgrst.object+json"

namespace Headers

/-- The bytes of a name, given as a text or as bytes. -/
def nameBytes : Value → Except Error (List UInt8)
  | .bytes bs => .ok bs
  | v =>
    match v.asText? with
    | some s =>
      match Text.asciiBytes? s with
      | some bs => .ok bs
      | none => .error .unencodable
    | none => .error .noOperation

/-- The bytes of a value, given as a text or as bytes. -/
def valueBytes : Value → Except Error (List UInt8)
  | .bytes bs => .ok bs
  | v =>
    match v.asText? with
    | some s =>
      match Text.asciiBytes? s with
      | some bs => .ok bs
      | none => .error .unencodable
    | none => .error .wrongType

/-- A value that is a text has the bytes of that text. -/
theorem valueBytes_of_asText? {v : Value} {s : String} (read : v.asText? = some s) :
    valueBytes v = valueBytes (.text s) := by
  rw [valueBytes, read]
  · rfl
  · intro bs isBytes
    rw [isBytes] at read
    cases read

/-- One field of its name and its value. -/
def readField (name value : Value) : Except Error (List UInt8 × List UInt8) := do
  return (← nameBytes name, ← valueBytes value)

/-- One field of a pair. -/
def readPair (v : Value) : Except Error (List UInt8 × List UInt8) :=
  match v.items? with
  | some [name, value] => readField name value
  | some _ => .error .wrongValue
  | none => .error .wrongType

/-- Header fields of a mapping, of pairs, or none. -/
def read : Value → Except Error Headers
  | .null => .ok ⟨[]⟩
  | .dict entries => do return ⟨← entries.mapM fun (name, value) => readField name value⟩
  | v =>
    match v.items? with
    | some pairs => do return ⟨← pairs.mapM readPair⟩
    | none => .error .wrongType

/-- The value under a name that a caller asks for, which the encoding of the fields must know. -/
def lookup (h : Headers) (name : String) : Except Error (Option String) :=
  match h.encoding.encode? (Text.lower name) with
  | some _ => .ok (h.get? name)
  | none => .error .unencodable

end Headers

/-- The header fields of a request while they are put together: for every name in lower case the
fields under it, each a name and a value. -/
abbrev HeaderDraft := List (String × List (String × Value))

namespace HeaderDraft

/-- The draft with the fields of one name replaced, or put at the end. -/
def set (draft : HeaderDraft) (name : String) (fields : List (String × Value)) : HeaderDraft :=
  if draft.any fun entry => entry.1 = name then
    draft.map fun entry => if entry.1 = name then (name, fields) else entry
  else draft ++ [(name, fields)]

/-- All fields in order, as bytes. -/
def headers (draft : HeaderDraft) : Except Error Headers := do
  let fields := draft.flatMap (·.2)
  return ⟨← fields.mapM fun (name, value) => Headers.readField (.text name) value⟩

/-- The fields of a request for which nothing special is asked. -/
def standard : HeaderDraft :=
  [("accept", [("Accept", .text jsonMediaType)]),
   ("content-type", [("Content-Type", .text jsonMediaType)])]

end HeaderDraft

/-- The trimmed parts of a text between its commas. -/
def commaParts (s : String) : List String :=
  (Text.pieces ',' s.toList).map fun part => String.ofList (Text.trimChars part)

/-- The key of a preference: what stands before the equals sign, trimmed and in lower case. -/
def preferenceKey (s : String) : String :=
  Text.lower (String.ofList (Text.trimChars (Text.splitFirst '=' s.toList).1))

/-- A preference, where it is set. -/
def preferencePair {α : Type} [Vocabulary α] (name : String) : Option α → List Pair
  | some a => [(name, word a)]
  | none => []

/-- The preferences that a query sets, in their order. -/
def Preferences.pairs (p : Preferences) : List Pair :=
  preferencePair "count" p.count ++ preferencePair "return" p.returning ++
    preferencePair "resolution" p.resolution ++ preferencePair "missing" p.missing

/-- Whether a method reads, which decides by what name a schema is asked for. -/
def isReading (method : String) : Bool := ["GET", "HEAD"].contains (Text.upper method)

namespace Query

/-- The fields of the caller put into a draft; preferences are kept apart. -/
def withCaller (caller : Headers) (draft : HeaderDraft) : HeaderDraft :=
  (caller.names.filter (· ≠ "prefer")).foldl
    (fun draft name => draft.set name ((caller.values name).map fun v => (name, .text v))) draft

/-- The draft of a query of one object asks for the media type of it. -/
def withMediaType (q : Query) (draft : HeaderDraft) : HeaderDraft :=
  match q.cardinality with
  | .one => draft.set "accept" [("Accept", .text objectMediaType)]
  | .many => draft

/-- The schema of the query, where it is given, asked for as the method needs it. -/
def withSchema (q : Query) (method : String) (draft : HeaderDraft) : HeaderDraft :=
  if !q.schema.isGiven then draft
  else if isReading method then draft.set "accept-profile" [("Accept-Profile", q.schema)]
  else draft.set "content-profile" [("Content-Profile", q.schema)]

/-- The preferences of the caller that the query does not set, and those of the query. -/
def preferred (q : Query) (caller : Headers) : List String :=
  let own := q.preferences.pairs
  (((caller.values "prefer").flatMap commaParts).filter fun v =>
      !(own.map (·.1)).contains (preferenceKey v)) ++
    own.map fun (key, value) => key ++ "=" ++ value

/-- The preferences in a draft, where there are any. -/
def withPreferences (q : Query) (caller : Headers) (draft : HeaderDraft) : HeaderDraft :=
  match q.preferred caller with
  | [] => draft
  | values => draft.set "prefer" (values.map fun v => ("Prefer", .text v))

/-- The header fields of a request. -/
def requestHeaders (q : Query) (method : String) (caller : Headers) : Except Error Headers :=
  (q.withPreferences caller (q.withSchema method (q.withMediaType
    (withCaller caller .standard)))).headers

end Query

end RestQuery
