import RestQuery.Header.Merge
import RestQuery.Json.Reader
import RestQuery.Response.Decode

/-!
# Exchanges with the server

`Exchange.run` sends one request and takes one reply.  The body is sent as JSON, and a reply has a
body where its content is JSON by its media type.  What the server side does is a function `Message
→ Outcome`, and an `Exchange` keeps the messages that it was asked with: none where the body has no
JSON text, and one otherwise.
-/

namespace RestQuery

/-- A request before it is sent. -/
structure Request where
  method : String
  url : String
  headers : Headers
  body : Option Value

/-- A request as it is sent. -/
structure Message where
  method : String
  url : String
  headers : Headers
  content : Option String

/-- What comes back for a message.  A client can fail outside the exchange too, for a cause that has
no wording here. -/
inductive Outcome where
  | reply (status : Int) (statusText : String) (headers : Headers) (content : List UInt8)
  | broken (kind : Fault) (reason : String)
  | raised (cause : Error) (wordless : cause.message? = none)

/-- What was sent, and what became of it. -/
structure Exchange (σ α : Type) where
  sent : List σ
  result : Except Error α

/-- Whether the content of a reply is JSON by its media type. -/
def Headers.announcesJson (h : Headers) : Bool :=
  let type := (h.get? "Content-Type").getD ""
  Text.contains type jsonMediaType || Text.contains type objectMediaType

namespace Exchange

/-- The content that is sent for a body. -/
def contentOf : Option Value → Except Error (Option String)
  | none => .ok none
  | some v =>
    match Json.write? .refused false v with
    | some text => .ok (some text)
    | none => .error .wrongType

/-- The error for content of a successful reply that is announced as JSON and is none. -/
def invalidJson (m : Message) : Error :=
  .transport (m.method ++ " " ++ m.url ++ " returned invalid JSON")

/-- The reply that an outcome gives.  The status text of a reply is ASCII. -/
def received (m : Message) : Outcome → Except Error Reply
  | .broken kind reason =>
    if kind.isTransport then
      .error (.transport (m.method ++ " " ++ m.url ++ " failed: " ++ reason))
    else .error (.fault kind reason)
  | .raised cause _ => .error cause
  | .reply status statusText headers content =>
    let reply : Reply := ⟨status, Text.asciiPart statusText, headers, none⟩
    if !content.isEmpty && headers.announcesJson then
      match Json.readBytes? content with
      | some body => .ok { reply with body := some body }
      | none => if reply.isSuccess then .error (invalidJson m) else .ok reply
    else .ok reply

/-- Sends a request to a server. -/
def run (server : Message → Outcome) (r : Request) : Exchange Message Reply :=
  match contentOf r.body with
  | .error e => ⟨[], .error e⟩
  | .ok content =>
    let message : Message := ⟨r.method, r.url, r.headers, content⟩
    ⟨[message], received message (server message)⟩

end Exchange

end RestQuery
