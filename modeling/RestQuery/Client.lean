import RestQuery.Exchange
import RestQuery.QueryString
import RestQuery.Settings

/-!
# Clients

A `Client` is bound to a base address.  `Client.request` writes the address and the header fields of
a query, hands the request to a transport, and decodes the reply.  What cannot be written is never
handed over.
-/

namespace RestQuery

/-- Carries a request to the server and its reply back; `σ` is what it sends. -/
abbrev Transport (σ : Type) := Request → Exchange σ Reply

/-- The header fields of a caller: as a value still to be read, or read already. -/
inductive HeaderInput where
  | value (v : Value)
  | fields (h : Headers)

def HeaderInput.read : HeaderInput → Except Error Headers
  | .value v => Headers.read v
  | .fields h => .ok h

/-- The time that the transport of a client waits for a reply: what the caller gives, else the
setting.  Of a tuple of times the second one is meant, which must be there. -/
def Settings.readTimeout? (s : Settings) (given : Value) : Option Value :=
  let timeout := match given with
    | .null => s.constant .timeout
    | v => v
  match timeout with
  | .tuple times => times[1]?
  | v => some v

/-- A client of one server. -/
structure Client where
  baseUrl : Value
  encode : Value

namespace Client

/-- A client with what the caller gives, the rest being taken from the settings. -/
def create (settings : Settings) (baseUrl encode : Value) : Client where
  baseUrl := match baseUrl with
    | .null => settings.constant .baseUrl
    | v => v
  encode := match encode with
    | .null => settings.constant .encodeQueryStrings
    | v => v

def literal (write : QueryText) (c : Client) : Except Error String := do
  return "<PostgrestClient: " ++ (← c.baseUrl.plain write) ++ ">"

/-- The base address with a slash at its end. -/
def baseText (c : Client) : Except Error String :=
  match c.baseUrl with
  | .bytes _ => .error .wrongType
  | v =>
    match v.asText? with
    | some s => .ok (if s.toList.getLast? = some '/' then s else s ++ "/")
    | none => .error .noOperation

/-- Whether the query strings of a client are encoded; without a wish of its own, the setting of the
moment holds. -/
def encodes (c : Client) (settings : Settings) : Bool :=
  match c.encode with
  | .null => settings.encodes
  | v => v.isGiven

/-- The address of a query. -/
def url (c : Client) (settings : Settings) (q : Query) : Except Error String := do
  let base ← c.baseText
  let text ← q.toText (Query.text settings.encodes) (c.encodes settings)
  return base ++ q.resource ++ (if text.isEmpty then "" else "?" ++ text)

/-- The request for a query. -/
def requestOf (c : Client) (settings : Settings) (method : String) (q : Query)
    (body : Option Value) (caller : HeaderInput) : Except Error Request := do
  let method := Text.upper method
  let url ← c.url settings q
  let headers ← q.requestHeaders method (← caller.read)
  return ⟨method, url, headers, body⟩

/-- Sends a query with a method and decodes the reply. -/
def request {σ : Type} (c : Client) (settings : Settings) (transport : Transport σ)
    (method : String) (q : Query) (body : Option Value) (caller : HeaderInput) :
    Exchange σ Answer :=
  match c.requestOf settings method q body caller with
  | .error e => ⟨[], .error e⟩
  | .ok r =>
    let exchange := transport r
    ⟨exchange.sent, do q.decode settings.checksShape method (← exchange.result)⟩

end Client

end RestQuery
