import RestQuery.Header.Basic
import RestQuery.Json.Writer

/-!
# Errors

An `Error` is the cause of a failure, with what a reader needs to see of it.  `Error.message?`
holds all wording.  Causes without a wording of their own are told apart by their constructor alone.
-/

namespace RestQuery

/-- How an exchange with the server breaks off. -/
inductive Fault where
  | connectError | readTimeout | connectTimeout | poolTimeout | remoteProtocolError
  | localProtocolError | unsupportedProtocol | proxyError | writeError | closeError
  | transportError | timeoutException | readError | networkError | protocolError | writeTimeout
  | decodingError | tooManyRedirects | invalidUrl | requestError | httpError
deriving DecidableEq

namespace Fault

/-- Whether no reply came through at all, or one was there and could not be used. -/
def isTransport : Fault → Bool
  | .decodingError | .tooManyRedirects | .invalidUrl | .requestError | .httpError => false
  | _ => true

end Fault

/-- An answer of the server with a status outside the successful ones. -/
structure FailedReply where
  status : Int
  statusText : String
  data : Value
  headers : Headers

/-- The cause of a failure. -/
inductive Error where
  /-- A query cannot be written, for a reason given in words. -/
  | build (reason : String)
  /-- A selector has an unreadable shape. -/
  | invalidSelect (payload : Value)
  /-- A query that is not embedded is marked as inner. -/
  | invalidInner (reason : Option String)
  /-- The body of a reply has a list in place of an object, or the other way round; `shown` is the
  text of what was expected. -/
  | incorrectCardinality (expected : Value) (shown : String)
  /-- No reply came through. -/
  | transport (reason : String)
  /-- The server answered with an error status. -/
  | failed (reply : FailedReply)
  /-- The exchange broke off otherwise. -/
  | fault (kind : Fault) (reason : String)
  /-- A value is no word of a vocabulary. -/
  | notAMember (value : Value) (title : String) (words : List String)
  /-- The operand of a list filter is a single text. -/
  | textInPlaceOfList (column : String)
  /-- A member of a group is not a query. -/
  | notAQuery (connective : Connective) (value : Value)
  /-- A mapping for an ordering key has other entries than those of a key. -/
  | unknownOrderingKeys (names : List String)
  /-- A value cannot be read as an ordering key. -/
  | invalidOrdering (value : Value)
  /-- A reply has no field of this name. -/
  | noField (name : String)
  /-- A mapping has no such entry. -/
  | missingKey
  /-- A value is of a kind that cannot be used here. -/
  | wrongType
  /-- A value is of the right kind and cannot be used all the same. -/
  | wrongValue
  /-- There is no operation of this name, or a value lacks the one that is asked of it. -/
  | noOperation
  /-- A number is beyond what can be computed with. -/
  | overflow
  /-- A header field has a character beyond ASCII. -/
  | unencodable
  /-- A selector has no written form. -/
  | unwritable
  /-- A number is compared with a signaling value. -/
  | signaling

instance : Inhabited Error := ⟨.missingKey⟩

namespace Error

/-- The payload of an unreadable selector: as JSON, or as its literal if it has no JSON form. -/
def payloadText (payload : Value) : String :=
  (Json.write? Json.Fallback.literal false payload).getD payload.literal

/-- The wording of an error; there is none where the constructor says it all. -/
def message? : Error → Option String
  | .build reason => some reason
  | .invalidSelect payload => some ("Invalid select " ++ payloadText payload)
  | .invalidInner reason =>
    some (reason.getD ".inner() can be used only on embedded queries")
  | .incorrectCardinality _ shown =>
    some ("Incorrect cardinality \"" ++ shown ++ "\" for embedded query")
  | .transport reason => some reason
  | .failed reply => some ("Request failed with status code " ++ toString reply.status)
  | .fault _ reason => some reason
  | .notAMember value title words =>
    some (value.literal ++ " is not a valid " ++ title ++ ", expected one of: " ++
      commaSeparated (words.map Text.quoted))
  | .textInPlaceOfList column =>
    some ("in_() expects a list of values for '" ++ column ++ "', not a string.")
  | .notAQuery connective value =>
    some ("Expected Query objects for '" ++ word connective ++ "', got " ++ value.literal)
  | .unknownOrderingKeys names => some ("Unexpected ordering keys: " ++ commaSeparated names)
  | .invalidOrdering value => some ("Invalid ordering: " ++ value.literal)
  | .noField name => some ("'QueryResponse' object has no attribute '" ++ name ++ "'")
  | .missingKey | .wrongType | .wrongValue | .noOperation | .overflow | .unencodable
  | .unwritable | .signaling => none

end Error

namespace FailedReply

/-- An entry of the error data that the server sent, where the data is an object. -/
def entry (reply : FailedReply) (name : String) : Value :=
  match reply.data with
  | .dict entries => Value.member entries name
  | _ => .null

/-- The code of the error, if the server gave one. -/
def code (reply : FailedReply) : Value := reply.entry "code"

/-- The message of the server, if it gave one. -/
def serverMessage (reply : FailedReply) : Value := reply.entry "message"

def literal (reply : FailedReply) : String :=
  recordText "PostgrestError"
    [("status", toString reply.status), ("status_text", Text.quoted reply.statusText),
     ("data", reply.data.literal)]

end FailedReply

/-- The member of a vocabulary that a value stands for, by its word. -/
def Vocabulary.read (α : Type) [Vocabulary α] (v : Value) : Except Error α :=
  match v.asText?.bind (Vocabulary.lookup? α) with
  | some a => .ok a
  | none => .error (.notAMember v (Vocabulary.title α) (Vocabulary.words α))

end RestQuery
