import RestQuery.Proofs.Exchange.Classified
import RestQuery.Proofs.Text.Occurrence

/-!
# JSON by media type

The media type of a reply is its content type up to the first semicolon, trimmed and read without
case, and `Headers.HasJsonType` says that it is one of the two names of JSON.  What a transport goes
by is another test, `Headers.announcesJson`: one of the names stands anywhere in the content type.
`Headers.announcesJson_iff_hasJsonType` says where the tests agree.  They differ for a content type
that mentions a name and is another one (`Headers.IsMisleading`), and for one that is a name in
other letters (`Headers.IsRespelled`).

`Exchange.GoesByMediaType` is what a reply comes to by its media type, and
`Exchange.goesByMediaType_iff` says for which replies an exchange comes to that, and what the others
come to.
-/

namespace RestQuery

/-! ## The two tests -/

/-- One of the names of JSON as a media type. -/
def IsJsonType (s : String) : Prop := s = jsonMediaType ∨ s = objectMediaType

instance (s : String) : Decidable (IsJsonType s) := instDecidableOr

/-- A name of JSON stands somewhere in the text. -/
def MentionsJson (s : String) : Prop :=
  Text.contains s jsonMediaType ∨ Text.contains s objectMediaType

instance (s : String) : Decidable (MentionsJson s) := instDecidableOr

theorem mentionsJson_iff {s : String} :
    MentionsJson s ↔ ∃ name, IsJsonType name ∧ name.toList <:+: s.toList := by
  simp only [MentionsJson, IsJsonType, Text.contains_iff, or_and_right, exists_or, exists_eq_left]

section Names

variable {name : String}

/-- The names have small letters, and no mark at which a content type is cut or trimmed. -/
theorem IsJsonType.plain (json : IsJsonType name) : ∀ c ∈ name.toList,
    (c.toNat < 0x80 ∧ c.toLower = c) ∧ c ≠ ';' ∧ ¬Text.isBlank c := by
  rw [← List.forall_iff_forall_mem]
  rcases json with rfl | rfl <;> decide

/-- Neither name stands in the other. -/
theorem IsJsonType.eq_of_infix {other : String} (json : IsJsonType name) (also : IsJsonType other)
    (inside : name.toList <:+: other.toList) : name = other := by
  rw [← Text.contains_iff] at inside
  rcases json with rfl | rfl <;> rcases also with rfl | rfl
  · rfl
  · exact absurd inside (by decide)
  · exact absurd inside (by decide)
  · rfl

theorem IsJsonType.mentions (json : IsJsonType name) : MentionsJson name :=
  mentionsJson_iff.2 ⟨name, json, List.infix_rfl⟩

/-- A text that is a name without case, and mentions one, is a name with the case it has. -/
theorem MentionsJson.isJsonType {s : String} (mentions : MentionsJson s)
    (json : IsJsonType (Text.lower s)) : IsJsonType s := by
  obtain ⟨name, named, inside⟩ := mentionsJson_iff.1 mentions
  have lowered := Text.infix_lower (fun c member => (named.plain c member).1) inside
  have same : name = Text.lower s := named.eq_of_infix json lowered
  have shorter : s.toList.length ≤ name.toList.length := by
    rw [same]
    exact Text.length_le_lower s
  rwa [← String.toList_inj.1 (inside.eq_of_length_le shorter)]

end Names

namespace Headers

/-- The content type, which is empty where none is given. -/
def contentType (h : Headers) : String := (h.get? "Content-Type").getD ""

/-- The content type up to the first semicolon, trimmed. -/
def mediaType (h : Headers) : String :=
  Text.trim (String.ofList (Text.splitFirst ';' h.contentType.toList).1)

/-- What follows the first semicolon of the content type. -/
def typeParameters (h : Headers) : String :=
  String.ofList ((Text.splitFirst ';' h.contentType.toList).2.getD [])

/-- The media type is JSON, whatever the case of its letters. -/
def HasJsonType (h : Headers) : Prop := IsJsonType (Text.lower h.mediaType)

instance (h : Headers) : Decidable h.HasJsonType :=
  inferInstanceAs (Decidable (IsJsonType (Text.lower h.mediaType)))

/-- The media type is not JSON, and the content type has a name of JSON in it. -/
def IsMisleading (h : Headers) : Prop :=
  ¬h.HasJsonType ∧ (MentionsJson h.mediaType ∨ MentionsJson h.typeParameters)

instance (h : Headers) : Decidable h.IsMisleading := instDecidableAnd

/-- The media type is JSON in other letters, and no name of JSON is in the content type. -/
def IsRespelled (h : Headers) : Prop :=
  h.HasJsonType ∧ ¬IsJsonType h.mediaType ∧ ¬MentionsJson h.typeParameters

instance (h : Headers) : Decidable h.IsRespelled := instDecidableAnd

variable {h : Headers}

/-- A name does not reach across the semicolon, and trimming leaves it. -/
theorem infix_contentType_iff {name : String} (json : IsJsonType name) :
    name.toList <:+: h.contentType.toList ↔
      name.toList <:+: h.mediaType.toList ∨ name.toList <:+: h.typeParameters.toList := by
  have plain := json.plain
  have filled : name.toList ≠ [] := by rcases json with rfl | rfl <;> decide
  have trimmed (cs : List Char) :
      name.toList <:+: (Text.trim (String.ofList cs)).toList ↔ name.toList <:+: cs := by
    rw [Text.trim, String.toList_ofList, String.toList_ofList]
    exact ((Text.trimmed_trimChars cs).infix_iff fun c member => (plain c member).2.2).symm
  rw [mediaType, trimmed, typeParameters, String.toList_ofList]
  by_cases cut : ';' ∈ h.contentType.toList
  · obtain ⟨before, after, whole, free⟩ := List.eq_append_cons_of_mem cut
    rw [whole, Text.splitFirst_append free]
    exact Text.infix_append_cons_iff fun member => (plain _ member).2.1 rfl
  · rw [Text.splitFirst_of_not_mem cut, Option.getD_none, List.infix_nil, or_iff_left filled]

theorem announcesJson_iff :
    h.announcesJson ↔ MentionsJson h.mediaType ∨ MentionsJson h.typeParameters := by
  have announced : h.announcesJson ↔ MentionsJson h.contentType := Bool.or_eq_true_iff
  rw [announced]
  simp only [mentionsJson_iff]
  rw [← exists_or]
  refine exists_congr fun name => ?_
  rw [← and_or_left]
  exact and_congr_right infix_contentType_iff

theorem IsMisleading.announcesJson (misleading : h.IsMisleading) : h.announcesJson :=
  announcesJson_iff.2 misleading.2

theorem IsRespelled.not_announcesJson (respelled : h.IsRespelled) : ¬h.announcesJson := by
  obtain ⟨json, other, unmentioned⟩ := respelled
  intro announced
  rcases announcesJson_iff.1 announced with mentioned | mentioned
  · exact other (mentioned.isJsonType json)
  · exact unmentioned mentioned

/-- The tests agree but for the content types that mislead or are respelled. -/
theorem announcesJson_iff_hasJsonType :
    (h.announcesJson ↔ h.HasJsonType) ↔ ¬(h.IsMisleading ∨ h.IsRespelled) := by
  constructor
  · rintro agree (misleading | respelled)
    · exact misleading.1 (agree.1 misleading.announcesJson)
    · exact respelled.not_announcesJson (agree.2 respelled.1)
  · intro neither
    rw [not_or] at neither
    rw [announcesJson_iff]
    constructor
    · intro mentioned
      by_contra other
      exact neither.1 ⟨other, mentioned⟩
    · intro json
      by_contra unmentioned
      rw [not_or] at unmentioned
      exact neither.2 ⟨json, fun spelled => unmentioned.1 spelled.mentions, unmentioned.2⟩

end Headers

/-! ## What a reply comes to -/

namespace Exchange

/-- The content of a reply matters if it is JSON, and if it is not and the status is one of
success. -/
def Matters (status : Int) (content : List UInt8) : Prop :=
  content ≠ [] ∧ ((Json.readBytes? content).isSome ∨ 200 ≤ status ∧ status < 300)

instance (status : Int) (content : List UInt8) : Decidable (Matters status content) :=
  instDecidableAnd

/-- What a reply comes to if `json` says whether it should have JSON as its content: there is a body
where the content is JSON, an error where it is not and the status is one of success, and no body
otherwise. -/
structure GoesBy (json : Prop) (status : Int) (statusText : String) (headers : Headers)
    (content : List UInt8) (result : Except Error Reply) : Prop where
  body : ∀ v, (∃ reply, result = .ok reply ∧ reply.body = some v) ↔
    content ≠ [] ∧ json ∧ Json.readBytes? content = some v
  failure : (∃ reason, result = .error (.transport reason)) ↔
    (200 ≤ status ∧ status < 300) ∧ content ≠ [] ∧ json ∧ Json.readBytes? content = none
  bodyless : ¬(json ∧ Matters status content) →
    result = .ok ⟨status, Text.asciiPart statusText, headers, none⟩

/-- What a reply comes to by its media type. -/
abbrev GoesByMediaType (status : Int) (statusText : String) (headers : Headers)
    (content : List UInt8) (result : Except Error Reply) : Prop :=
  GoesBy headers.HasJsonType status statusText headers content result

section Reply

variable {status : Int} {statusText : String} {headers : Headers} {content : List UInt8}

/-- What a result goes by is settled where the content matters, and nowhere else. -/
theorem GoesBy.iff {json other : Prop} {result : Except Error Reply}
    (goes : GoesBy json status statusText headers content result) :
    GoesBy other status statusText headers content result ↔
      (Matters status content → (json ↔ other)) := by
  constructor
  · rintro otherwise ⟨filled, matters⟩
    cases read : Json.readBytes? content with
    | some v =>
      have same := (goes.body v).symm.trans (otherwise.body v)
      simpa only [read, filled, ne_eq, not_false_eq_true, true_and, and_true] using same
    | none =>
      have success : 200 ≤ status ∧ status < 300 := matters.resolve_left (by simp [read])
      have same := goes.failure.symm.trans otherwise.failure
      simpa only [read, filled, success, ne_eq, not_false_eq_true, true_and, and_true] using same
  · intro agree
    by_cases matters : Matters status content
    · rwa [← propext (agree matters)]
    · have idle := goes.bodyless fun both => matters both.2
      constructor
      -- The content is empty, or it has no value and the status is not one of success.
      case body =>
        intro v
        rw [goes.body v]
        have unread : ¬(content ≠ [] ∧ Json.readBytes? content = some v) := fun both =>
          matters ⟨both.1, .inl (Option.isSome_of_eq_some both.2)⟩
        exact iff_of_false (fun all => unread ⟨all.1, all.2.2⟩) fun all => unread ⟨all.1, all.2.2⟩
      case failure =>
        rw [goes.failure]
        have unasked : ¬((200 ≤ status ∧ status < 300) ∧ content ≠ []) := fun both =>
          matters ⟨both.2, .inr both.1⟩
        exact iff_of_false (fun all => unasked ⟨all.1, all.2.1⟩)
          fun all => unasked ⟨all.1, all.2.1⟩
      case bodyless => exact fun _ => idle

theorem bodyOf_eq_some_iff {v : Value} : Outcome.bodyOf headers content = some v ↔
    content ≠ [] ∧ headers.announcesJson ∧ Json.readBytes? content = some v := by
  rw [Outcome.bodyOf, Option.ite_none_right_eq_some, and_assoc]

/-- What is received goes by the mention of JSON in the content type. -/
theorem received_goesBy (m : Message) :
    GoesBy headers.announcesJson status statusText headers content
      (received m (.reply status statusText headers content)) := by
  by_cases garbled : (200 ≤ status ∧ status < 300) ∧
      (Outcome.reply status statusText headers content).IsGarbled
  · obtain ⟨success, filled, announced, unread⟩ := garbled
    rw [received_garbled success ⟨filled, announced, unread⟩]
    constructor
    case body =>
      intro v
      rw [unread]
      exact ⟨nofun, nofun⟩
    case failure => exact ⟨fun _ => ⟨success, filled, announced, unread⟩, fun _ => ⟨_, rfl⟩⟩
    case bodyless => exact fun idle => absurd ⟨announced, filled, .inr success⟩ idle
  · rw [received_reply garbled]
    constructor
    case body =>
      intro v
      rw [← bodyOf_eq_some_iff]
      constructor
      · rintro ⟨_, ⟨⟩, body⟩
        exact body
      · exact fun body => ⟨_, rfl, body⟩
    case failure => exact ⟨nofun, fun all => absurd all garbled⟩
    case bodyless =>
      intro idle
      have none : Outcome.bodyOf headers content = none := by
        refine Option.eq_none_iff_forall_ne_some.2 fun v body => ?_
        obtain ⟨filled, announced, read⟩ := bodyOf_eq_some_iff.1 body
        exact idle ⟨announced, filled, .inl (Option.isSome_of_eq_some read)⟩
      rw [none]

end Reply

section Run

variable {server : Message → Outcome} {r : Request} {m : Message}

/-- The result of an exchange is what is received for the message that is sent. -/
theorem result_of_sent (sent : (run server r).sent = [m]) :
    (run server r).result = received m (server m) := by
  rw [run] at sent ⊢
  split at sent
  next => cases sent
  next =>
    cases sent
    rfl

variable {status : Int} {statusText : String} {headers : Headers} {content : List UInt8}

/-- An exchange goes by the media type of the reply, unless the content matters and the content type
misleads or is respelled.  In the first case the content is read as JSON, and in the second it is
left out. -/
theorem goesByMediaType_iff (sent : (run server r).sent = [m])
    (replied : server m = .reply status statusText headers content) :
    (GoesByMediaType status statusText headers content (run server r).result ↔
      ¬(Matters status content ∧ (headers.IsMisleading ∨ headers.IsRespelled))) ∧
    (Matters status content → headers.IsMisleading → (run server r).result =
      match Json.readBytes? content with
      | some body => .ok ⟨status, Text.asciiPart statusText, headers, some body⟩
      | none => .error (invalidJson m)) ∧
    (headers.IsRespelled →
      (run server r).result = .ok ⟨status, Text.asciiPart statusText, headers, none⟩) := by
  have received : GoesBy headers.announcesJson status statusText headers content
      (run server r).result := by
    rw [result_of_sent sent, replied]
    exact received_goesBy m
  refine ⟨?_, fun matters misleading => ?_, fun respelled => ?_⟩
  · rw [GoesByMediaType, received.iff, headers.announcesJson_iff_hasJsonType, not_and]
  · have announced := misleading.announcesJson
    rw [result_of_sent sent, replied]
    cases read : Json.readBytes? content with
    | some body =>
      have readable : ¬(Outcome.reply status statusText headers content).IsGarbled := fun garbled =>
        absurd garbled.2.2 (by simp [read])
      have body := bodyOf_eq_some_iff.2 ⟨matters.1, announced, read⟩
      rw [received_reply fun both => readable both.2, body]
    | none =>
      have success : 200 ≤ status ∧ status < 300 := matters.2.resolve_left (by simp [read])
      exact received_garbled success ⟨matters.1, announced, read⟩
  · exact received.bodyless fun both => respelled.not_announcesJson both.1

/-- Header fields with one content type. -/
def typed (type : String) : Headers := ⟨[(Text.encode "content-type", Text.encode type)]⟩

/-- An exchange without content, with a server that gives one reply in any case. -/
def fetch (type : String) (content : List UInt8) : Exchange Message Reply :=
  run (fun _ => .reply 200 "OK" (typed type) content) ⟨"GET", "/films", ⟨[]⟩, none⟩

theorem goesByMediaType_iff_fetched :
    GoesByMediaType 200 "OK" (typed "application/json; charset=utf-8") (Text.encode "[]")
      (fetch "application/json; charset=utf-8" (Text.encode "[]")).result ∧
    ¬GoesByMediaType 200 "OK" (typed "text/html; see=application/json") (Text.encode "<")
      (fetch "text/html; see=application/json" (Text.encode "<")).result := by
  constructor
  · refine (goesByMediaType_iff rfl rfl).1.2 ?_
    decide +kernel
  · intro goes
    refine (goesByMediaType_iff rfl rfl).1.1 goes ?_
    decide +kernel

/-- A success with JSON sequences is an error, and JSON under a name with capitals is left out. -/
theorem not_goesByMediaType :
    ¬GoesByMediaType 200 "OK" (typed "application/json-seq") (Text.encode "\u001e\x7b\x7d\n")
      (fetch "application/json-seq" (Text.encode "\u001e\x7b\x7d\n")).result ∧
    ¬GoesByMediaType 200 "OK" (typed "Application/JSON") (Text.encode "[]")
      (fetch "Application/JSON" (Text.encode "[]")).result := by
  constructor
  · intro goes
    have json := (goes.failure.1 ⟨_, rfl⟩).2.2.1
    exact absurd json (by decide +kernel)
  · intro goes
    obtain ⟨reply, given, body⟩ := (goes.body (.list [])).2
      ⟨by decide, by decide +kernel, rfl⟩
    cases given
    cases body

end Run

end Exchange

end RestQuery
