import RestQuery.Response.Count
import RestQuery.Response.Shape
import RestQuery.Value.Equality

/-!
# Decoded replies

A `Reply` is what the server sent, with its body as a value if there is one.  `Query.decode` makes
an `Answer` of it whose fields follow the query: the row count, one row or all rows, and the
location. A reply without success is an error with the data that the server sent.
-/

namespace RestQuery

/-- A reply of the server. -/
structure Reply where
  status : Int
  statusText : String
  headers : Headers
  body : Option Value

/-- Whether the status is a successful one. -/
def Reply.isSuccess (r : Reply) : Bool := decide (200 ≤ r.status ∧ r.status < 300)

/-- A decoded reply. -/
structure Answer where
  status : Int
  statusText : String
  headers : Headers
  fields : List (String × Value)

/-- A part of an answer that can be asked for by name. -/
inductive Part where
  | value (v : Value)
  | headers (h : Headers)

namespace Answer

/-- The fields as a mapping. -/
def mapping (a : Answer) : Value := Value.object a.fields

/-- The field of a key, if there is one. -/
def field? (a : Answer) (key : Value) : Except Error (Option Value) := do
  let _ ← key.digest
  return (a.fields.find? fun f => key.isKey f.1).map (·.2)

/-- The field of a key. -/
def field (a : Answer) (key : Value) : Except Error Value := do
  match ← a.field? key with
  | some v => return v
  | none => throw .missingKey

/-- A part by its name. -/
def part (a : Answer) (name : String) : Except Error Part :=
  if name = "status" then .ok (.value (.int a.status))
  else if name = "status_text" then .ok (.value (.text a.statusText))
  else if name = "headers" then .ok (.headers a.headers)
  else
    match a.fields.find? fun f => f.1 = name with
    | some f => .ok (.value f.2)
    | none => .error (.noField name)

def literal (a : Answer) : String :=
  "<QueryResponse: " ++ toString a.status ++ " " ++ a.mapping.literal ++ ">"

end Answer

namespace Query

/-- The data of a reply without success; the body of a reply to `HEAD` is none. -/
def failure (method : String) (reply : Reply) : Error :=
  .failed ⟨reply.status, reply.statusText,
    if method = "HEAD" then .null else reply.body.getD .null, reply.headers⟩

/-- Whether the body of a reply has to have the shape of the query. -/
def isShaped (q : Query) (method : String) : Bool :=
  method = "GET" || q.preferences.returning == some .representation

/-- The field for the body: a row, rows or nothing. -/
def bodyFields (q : Query) (body : Option Value) : List (String × Value) :=
  match q.cardinality, body with
  | .one, body => [("row", body.getD .null)]
  | .many, none => []
  | .many, some .null => []
  | .many, some body => [("rows", body)]

/-- The field for the location, where the reply gives one. -/
def locationFields (headers : Headers) : List (String × Value) :=
  match headers.get? "Location" with
  | some location => if location.isEmpty then [] else [("location", .text location)]
  | none => []

/-- Checks the body of a reply, if there is one. -/
def checkBody (q : Query) (method : String) (body : Option Value) : Except Error Unit :=
  match body with
  | some body => if q.isShaped method then q.checkShape body else .ok ()
  | none => .ok ()

/-- The answer to a request with the method in capitals; `checked` tells whether the shape of the
body is checked. -/
def decodeUpper (q : Query) (checked : Bool) (method : String) (reply : Reply) :
    Except Error Answer := do
  if !reply.isSuccess then throw (failure method reply)
  let count ← RowCount.ofHeaders? reply.headers (q.window.limit.elim .null .int)
  if method = "HEAD" then
    return ⟨reply.status, reply.statusText, reply.headers, RowCount.fields count⟩
  if checked then q.checkBody method reply.body
  return ⟨reply.status, reply.statusText, reply.headers,
    RowCount.fields count ++ q.bodyFields reply.body ++ locationFields reply.headers⟩

/-- The answer to a request; letters of the method count without case. -/
def decode (q : Query) (checked : Bool) (method : String) (reply : Reply) : Except Error Answer :=
  q.decodeUpper checked (Text.upper method) reply

end Query

end RestQuery
