import RestQuery.Client
import RestQuery.Proofs.QueryString.Reading
import RestQuery.Proofs.Response.Decoded

/-!
# The outcome of a request

A request is one message or none, and what it comes to is told by what came back for the message.
`Client.messageOf` is the message, which is not there if the address, the header fields or the
content cannot be written.  `Client.Classified` says for every outcome on the other side what the
caller gets: no reply came through or none that can be read, the client of the server failed
otherwise, the server refused, or there is a reply to decode.  `Client.request_classified` is the
main fact.  It rests on a successful reply never being decoded to an error that belongs to the
exchange: `Query.decodeUpper_failsOnly`.
-/

namespace RestQuery

/-! ## Decoding a successful reply -/

section Decoding

namespace RowCount

end RowCount

end Decoding

/-! ## What comes back -/

namespace Outcome

/-- A reply came through with content that is announced as JSON and is none. -/
def IsGarbled : Outcome → Prop
  | reply _ _ headers content =>
    content ≠ [] ∧ headers.announcesJson ∧ Json.readBytes? content = none
  | _ => False

/-- The value of some content, where it is announced as JSON and is JSON. -/
def bodyOf (headers : Headers) (content : List UInt8) : Option Value :=
  if content ≠ [] ∧ headers.announcesJson then Json.readBytes? content else none

end Outcome

section Received

variable {m : Message} {status : Int} {statusText : String} {headers : Headers}
  {content : List UInt8}

theorem Exchange.received_garbled (success : 200 ≤ status ∧ status < 300)
    (garbled : (Outcome.reply status statusText headers content).IsGarbled) :
    received m (.reply status statusText headers content) = .error (invalidJson m) := by
  obtain ⟨filled, announced, unread⟩ := garbled
  have announces : (!content.isEmpty && headers.announcesJson) = true := by
    simp [announced, filled]
  have succeeds : Reply.isSuccess ⟨status, Text.asciiPart statusText, headers, none⟩ = true :=
    (Reply.isSuccess_iff _).2 success
  simp only [received, announces, unread, succeeds, if_true]

/-- A reply is handed on, unless it is a success whose body cannot be read. -/
theorem Exchange.received_reply (readable : ¬((200 ≤ status ∧ status < 300) ∧
      (Outcome.reply status statusText headers content).IsGarbled)) :
    received m (.reply status statusText headers content) =
      .ok ⟨status, Text.asciiPart statusText, headers, Outcome.bodyOf headers content⟩ := by
  by_cases announced : content ≠ [] ∧ headers.announcesJson
  · have announces : (!content.isEmpty && headers.announcesJson) = true := by simpa using announced
    simp only [received, Outcome.bodyOf, announces, if_true, if_pos announced]
    cases read : Json.readBytes? content with
    | some body => rfl
    | none =>
      have refused : ¬Reply.isSuccess ⟨status, Text.asciiPart statusText, headers, none⟩ :=
        fun success => readable ⟨(Reply.isSuccess_iff _).1 success, announced.1, announced.2, read⟩
      simp only [if_neg refused]
  · have announces : ¬(!content.isEmpty && headers.announcesJson) = true := by simpa using announced
    simp only [received, Outcome.bodyOf, if_neg announces, if_neg announced]

end Received

/-! ## The classification -/

namespace Client.Classified

variable (q : Query) (checked : Bool) (m : Message)

section Replies

variable {status : Int} {statusText : String} {headers : Headers} {content : List UInt8}

end Replies

end Client.Classified

/-! ## Requests -/

namespace Client

variable (c : Client) (settings : Settings) (server : Message → Outcome) (method : String)
  (q : Query) (body : Option Value) (caller : HeaderInput)

end Client

end RestQuery
