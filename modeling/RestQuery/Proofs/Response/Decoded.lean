import RestQuery.Proofs.Header.Method
import RestQuery.Proofs.Value.Comparing
import RestQuery.Response.Decode

/-!
# The fields of an answer

`Query.Decoded` says what an answer holds of a reply: its status, status text and header fields, and
under each of five keys a value exactly where the key applies.  `Query.reply_decoded` is the main
fact: a reply without success is always the error that the server gave, and any other is an answer
of this kind, if its count can be read and its body has the shape of the query wherever that is
checked.
-/

namespace RestQuery

/-! ## Checking the shape -/

/-- The cause arises where a body is compared with what a query describes. -/
def Error.IsOfShape : Error → Prop
  | .incorrectCardinality .. | .wrongType | .signaling | .noOperation => True
  | _ => False

section Checking

/-- Checking the shape fails for no other cause. -/
abbrev Checks {α : Type} (step : Except Error α) : Prop := FailsOnly Error.IsOfShape step

theorem Value.find_checks (entries : List (Value × Value)) (key : Value) :
    Checks (find entries key) :=
  (find_failsOnly entries key).mono (by rintro _ (rfl | rfl) <;> trivial)

mutual

theorem Query.checkShape_failsOnly (body : Value) (q : Query) : Checks (q.checkShape body) := by
  rcases q with ⟨resource, cardinality, selectors, filters, conjunctions, disjunctions, ordering,
    window, preferences, schema, onConflict, columns, inner⟩
  unfold Query.checkShape
  split
  · refine .forM fun row _ => ?_
    split
    · exact Selector.checkShapes_failsOnly _ selectors
    · exact .ok ()
  · exact .error trivial

theorem Selector.checkShapes_failsOnly (entries : List (Value × Value)) (ss : List Selector) :
    Checks (Selector.checkShapes entries ss) := by
  cases ss with
  | nil => exact .ok ()
  | cons s ss =>
    unfold Selector.checkShapes
    exact (s.checkShape_failsOnly entries).bind fun _ => Selector.checkShapes_failsOnly entries ss

theorem Selector.checkShape_failsOnly (entries : List (Value × Value)) (s : Selector) :
    Checks (s.checkShape entries) := by
  cases s with
  | embedded q name =>
    unfold Selector.checkShape
    refine (Value.find_checks entries _).bind fun found => ?_
    split
    · exact .ok ()
    · split
      · exact .error trivial
      · exact .ok ()
    · exact q.checkShape_failsOnly _
  | misembedded content name =>
    unfold Selector.checkShape
    refine (Value.find_checks entries name).bind fun found => ?_
    split
    · exact .error trivial
    · exact .ok ()
  | wildcard | column v | modified v name cast | path v | invalid v | unwritable serial =>
    exact .ok ()

end

theorem Query.checkBody_failsOnly (q : Query) (method : String) (body : Option Value) :
    Checks (q.checkBody method body) := by
  unfold checkBody
  split
  · split
    · exact q.checkShape_failsOnly _
    · exact .ok ()
  · exact .ok ()

end Checking

/-- What the check accepts is a list exactly if many rows are expected. -/
theorem Query.isList_of_checkShape {q : Query} {body : Value}
    (accepted : q.checkShape body = .ok ()) : body.isList ↔ q.cardinality = .many := by
  have fits : q.cardinality.fits body := by
    by_contra unfitting
    rcases q with ⟨⟩
    rw [checkShape, if_neg unfitting] at accepted
    cases accepted
  rw [Cardinality.fits] at fits
  revert fits
  cases q.cardinality <;> cases body.isList <;> decide

/-! ## Methods -/

/-- The method is `HEAD` in some case. -/
def IsHead (method : String) : Prop := method.toList.map Char.toUpper = "HEAD".toList

/-- The method is `GET` in some case. -/
def IsGet (method : String) : Prop := method.toList.map Char.toUpper = "GET".toList

instance (method : String) : Decidable (IsHead method) :=
  inferInstanceAs (Decidable (_ = _))

theorem upper_eq_head_iff (method : String) : Text.upper method = "HEAD" ↔ IsHead method :=
  Text.upper_eq_iff (by decide)

theorem upper_eq_get_iff (method : String) : Text.upper method = "GET" ↔ IsGet method :=
  Text.upper_eq_iff (by decide)

/-! ## Fields -/

/-- The fields that count rows. -/
theorem RowCount.mem_fields {count : Option RowCount} {key : String} {v : Value} :
    (key, v) ∈ fields count ↔ ∃ c, count = some c ∧
      (key = "pages_length" ∧ v = .int c.pages ∨ key = "total_length" ∧ v = .int c.total) := by
  cases count <;> simp [fields]

namespace Query

/-- The field for the body is one row, or rows where there are some. -/
theorem bodyFields_cases (q : Query) (body : Option Value) :
    q.cardinality = .one ∧ q.bodyFields body = [("row", body.getD .null)] ∨
      q.cardinality = .many ∧ body.getD .null = .null ∧ q.bodyFields body = [] ∨
      q.cardinality = .many ∧
        ∃ v, body = some v ∧ v ≠ .null ∧ q.bodyFields body = [("rows", v)] := by
  unfold bodyFields
  split
  next one => exact .inl ⟨one, rfl⟩
  next many => exact .inr (.inl ⟨many, rfl, rfl⟩)
  next many => exact .inr (.inl ⟨many, rfl, rfl⟩)
  next body filled many => exact .inr (.inr ⟨many, body, rfl, filled, rfl⟩)

theorem mem_bodyFields {q : Query} {body : Option Value} {key : String} {v : Value} :
    (key, v) ∈ q.bodyFields body ↔
      key = "row" ∧ q.cardinality = .one ∧ v = body.getD .null ∨
        key = "rows" ∧ q.cardinality = .many ∧ body = some v ∧ v ≠ .null := by
  rcases q.bodyFields_cases body with ⟨one, fields⟩ | ⟨many, empty, fields⟩ |
    ⟨many, w, rfl, filled, fields⟩
  · simp [fields, one]
  · have none : ¬(body = some v ∧ v ≠ .null) := by
      rintro ⟨rfl, other⟩
      exact other empty
    simp [fields, many, none]
  · simp only [fields, many, List.mem_singleton, Prod.mk.injEq, Option.some.injEq]
    refine ⟨?_, ?_⟩
    · rintro ⟨rfl, rfl⟩
      exact .inr ⟨rfl, trivial, rfl, filled⟩
    · rintro (⟨_, ⟨⟩, _⟩ | ⟨rfl, _, rfl, _⟩)
      exact ⟨rfl, rfl⟩

theorem mem_locationFields {headers : Headers} {key : String} {v : Value} :
    (key, v) ∈ locationFields headers ↔ key = "location" ∧
      ∃ location, headers.get? "Location" = some location ∧ location ≠ "" ∧ v = .text location := by
  rw [locationFields]
  cases headers.get? "Location" with
  | none => simp
  | some location =>
    by_cases empty : location = ""
    · simp [empty]
    · simp [empty]

/-- The fields of an answer with some count. -/
def answerFields (q : Query) (method : String) (count : Option RowCount) (reply : Reply) :
    List (String × Value) :=
  RowCount.fields count ++
    if IsHead method then [] else q.bodyFields reply.body ++ locationFields reply.headers

theorem mem_answerFields {q : Query} {method : String} {count : Option RowCount} {reply : Reply}
    {key : String} {v : Value} :
    (key, v) ∈ q.answerFields method count reply ↔
      (key, v) ∈ RowCount.fields count ∨
        ¬IsHead method ∧ ((key, v) ∈ q.bodyFields reply.body ∨
          (key, v) ∈ locationFields reply.headers) := by
  rw [answerFields, List.mem_append]
  split <;> simp [*]

/-- The keys that there are, in the order in which they stand in an answer. -/
def answerKeys : List String := ["pages_length", "total_length", "row", "rows", "location"]

theorem answerFields_sublist (q : Query) (method : String) (count : Option RowCount)
    (reply : Reply) : ((q.answerFields method count reply).map (·.1)).Sublist answerKeys := by
  have counts : ((RowCount.fields count).map (·.1)).Sublist ["pages_length", "total_length"] := by
    cases count with
    | none => exact List.nil_sublist _
    | some count => exact List.Sublist.refl _
  have body : ((q.bodyFields reply.body).map (·.1)).Sublist ["row", "rows"] := by
    rcases q.bodyFields_cases reply.body with ⟨_, fields⟩ | ⟨_, _, fields⟩ | ⟨_, _, _, _, fields⟩
    · rw [fields]
      exact (List.nil_sublist _).cons_cons _
    · rw [fields]
      exact List.nil_sublist _
    · rw [fields]
      exact (List.Sublist.refl _).cons _
  have location : ((locationFields reply.headers).map (·.1)).Sublist ["location"] := by
    rw [locationFields]
    split
    · split
      · exact List.nil_sublist _
      · exact List.Sublist.refl _
    · exact List.nil_sublist _
  rw [answerFields, List.map_append]
  refine counts.append ?_
  split
  · exact List.nil_sublist _
  · rw [List.map_append]
    exact body.append location

end Query

/-! ## Decoding -/

theorem Reply.isSuccess_iff (reply : Reply) :
    reply.isSuccess ↔ 200 ≤ reply.status ∧ reply.status < 300 := decide_eq_true_iff

namespace Query

variable (q : Query) (checked : Bool) (method : String) {reply : Reply}

/-- A reply without success is decoded to the error that the server gave. -/
theorem decodeUpper_refused (refused : reply.isSuccess = false) :
    q.decodeUpper checked method reply = .error (failure method reply) := by
  simp only [decodeUpper, refused]
  rfl

/-- The count of a reply that is decoded. -/
def countOf (reply : Reply) : Except Error (Option RowCount) :=
  RowCount.ofHeaders? reply.headers (q.window.limit.elim .null .int)

theorem decode_accepted (success : reply.isSuccess) :
    q.decode checked method reply = (do
      let count ← q.countOf reply
      if checked ∧ ¬IsHead method then q.checkBody (Text.upper method) reply.body
      return ⟨reply.status, reply.statusText, reply.headers,
        q.answerFields method count reply⟩) := by
  simp only [decode, decodeUpper, success, Bool.not_true, if_neg Bool.false_ne_true,
    upper_eq_head_iff, countOf, answerFields]
  refine congrArg _ (funext fun count => ?_)
  by_cases head : IsHead method
  · simp [head]
  · cases checked <;> simp [head]

/-- Beyond the causes of the check, a successful reply fails where its count does. -/
theorem decode_eq_error_iff {cause : Error} (success : reply.isSuccess)
    (foreign : ¬cause.IsOfShape) :
    q.decode checked method reply = .error cause ↔ q.countOf reply = .error cause := by
  rw [decode_accepted _ _ _ success]
  cases q.countOf reply with
  | error other => rw [error_bind, Except.error.injEq, Except.error.injEq]
  | ok count =>
    refine ⟨fun failed => absurd ?_ foreign, nofun⟩
    rw [ok_bind] at failed
    split at failed
    · exact ((q.checkBody_failsOnly _ reply.body).bind fun _ => .ok _) cause failed
    · cases failed

/-- Whether the body of a reply has to have the shape of the query. -/
def ChecksBody : Prop :=
  checked ∧ ¬IsHead method ∧ (IsGet method ∨ q.preferences.returning = some .representation)

theorem checkBody_eq_ok_iff {body : Option Value} :
    q.checkBody (Text.upper method) body = .ok () ↔
      ((IsGet method ∨ q.preferences.returning = some .representation) →
        ∀ v, body = some v → q.checkShape v = .ok ()) := by
  have shaped : q.isShaped (Text.upper method) ↔
      IsGet method ∨ q.preferences.returning = some .representation := by
    rw [isShaped, Bool.or_eq_true, decide_eq_true_iff, upper_eq_get_iff, beq_iff_eq]
  cases body with
  | none => simp [checkBody]
  | some body =>
    by_cases needed : IsGet method ∨ q.preferences.returning = some .representation
    · simp [checkBody, shaped, needed]
    · simp [checkBody, shaped, needed]

/-- When a reply is decoded, and to which answer. -/
theorem decode_eq_ok_iff {answer : Answer} :
    q.decode checked method reply = .ok answer ↔
      reply.isSuccess ∧ (∃ count, q.countOf reply = .ok count ∧
        answer = ⟨reply.status, reply.statusText, reply.headers,
          q.answerFields method count reply⟩) ∧
      (q.ChecksBody checked method → ∀ v, reply.body = some v → q.checkShape v = .ok ()) := by
  cases success : reply.isSuccess with
  | false =>
    rw [decode, decodeUpper_refused _ _ _ success]
    simp
  | true =>
    have needed : (q.ChecksBody checked method → ∀ v, reply.body = some v → q.checkShape v = .ok ())
        ↔ (checked ∧ ¬IsHead method → q.checkBody (Text.upper method) reply.body = .ok ()) := by
      rw [checkBody_eq_ok_iff, ChecksBody]
      tauto
    rw [needed, decode_accepted _ _ _ success, bind_eq_ok]
    by_cases checks : checked ∧ ¬IsHead method
    · simp only [if_pos checks, bind_eq_ok]
      constructor
      · rintro ⟨count, counted, _, accepted, ⟨⟩⟩
        exact ⟨trivial, ⟨count, counted, rfl⟩, fun _ => accepted⟩
      · rintro ⟨_, ⟨count, counted, rfl⟩, accepted⟩
        exact ⟨count, counted, (), accepted checks, rfl⟩
    · simp only [if_neg checks]
      constructor
      · rintro ⟨count, counted, ⟨⟩⟩
        exact ⟨trivial, ⟨count, counted, rfl⟩, fun needed => absurd needed checks⟩
      · rintro ⟨_, ⟨count, counted, rfl⟩, _⟩
        exact ⟨count, counted, rfl⟩

/-- What an answer holds of a reply.  Each key stands in it at most once, and exactly where it
applies. -/
structure Decoded (reply : Reply) (answer : Answer) : Prop where
  success : 200 ≤ reply.status ∧ reply.status < 300
  status : answer.status = reply.status
  statusText : answer.statusText = reply.statusText
  headers : answer.headers = reply.headers
  distinct : (answer.fields.map (·.1)).Nodup
  known : ∀ key ∈ answer.fields.map (·.1), key ∈ answerKeys
  pages : ∀ v, ("pages_length", v) ∈ answer.fields ↔
    ∃ count, q.countOf reply = .ok (some count) ∧ v = .int count.pages
  total : ∀ v, ("total_length", v) ∈ answer.fields ↔
    ∃ count, q.countOf reply = .ok (some count) ∧ v = .int count.total
  row : ∀ v, ("row", v) ∈ answer.fields ↔
    ¬IsHead method ∧ q.cardinality = .one ∧ v = reply.body.getD .null
  rows : ∀ v, ("rows", v) ∈ answer.fields ↔
    ¬IsHead method ∧ q.cardinality = .many ∧ reply.body = some v ∧ v ≠ .null
  location : ∀ v, ("location", v) ∈ answer.fields ↔
    ¬IsHead method ∧ ∃ location, reply.headers.get? "Location" = some location ∧ location ≠ "" ∧
      v = .text location
  oneKind : ¬∃ v w, ("row", v) ∈ answer.fields ∧ ("rows", w) ∈ answer.fields
  shape : q.ChecksBody checked method → ∀ body, reply.body = some body →
    q.checkShape body = .ok () ∧ (∀ v, ("row", v) ∈ answer.fields → ¬v.isList) ∧
      ∀ v, ("rows", v) ∈ answer.fields → v.isList

theorem decoded_of_decode {answer : Answer} (result : q.decode checked method reply = .ok answer) :
    q.Decoded checked method reply answer := by
  obtain ⟨success, ⟨count, counted, rfl⟩, accepted⟩ := (q.decode_eq_ok_iff checked method).1 result
  have sublist := q.answerFields_sublist method count reply
  have row (v : Value) : ("row", v) ∈ q.answerFields method count reply ↔
      ¬IsHead method ∧ q.cardinality = .one ∧ v = reply.body.getD .null := by
    simp [mem_answerFields, RowCount.mem_fields, mem_bodyFields, mem_locationFields]
  have rows (v : Value) : ("rows", v) ∈ q.answerFields method count reply ↔
      ¬IsHead method ∧ q.cardinality = .many ∧ reply.body = some v ∧ v ≠ .null := by
    simp [mem_answerFields, RowCount.mem_fields, mem_bodyFields, mem_locationFields]
  constructor
  case success => exact (Reply.isSuccess_iff reply).1 success
  case status | statusText | headers => rfl
  case distinct => exact sublist.nodup (by decide)
  case known => exact fun key member => sublist.subset member
  case pages | total =>
    simp [mem_answerFields, RowCount.mem_fields, mem_bodyFields, mem_locationFields, counted]
  case row => exact row
  case rows => exact rows
  case location =>
    simp [mem_answerFields, RowCount.mem_fields, mem_bodyFields, mem_locationFields]
  case oneKind =>
    rintro ⟨v, w, single, several⟩
    have one := ((row v).1 single).2.1
    rw [((rows w).1 several).2.1] at one
    cases one
  case shape =>
    intro checks body given
    have shaped := isList_of_checkShape (accepted checks body given)
    refine ⟨accepted checks body given, fun v single => ?_, fun v several => ?_⟩
    · obtain ⟨_, one, rfl⟩ := (row v).1 single
      rw [given, Option.getD_some, shaped, one]
      decide
    · obtain ⟨_, many, own, _⟩ := (rows v).1 several
      cases own.symm.trans given
      exact shaped.2 many

/-- A reply without success is the error that the server gave, with the body unless there is none
or the method is `HEAD`.  Any other reply that is decoded gives the fields that apply, and it is
decoded if its count can be read and its body has the shape of the query wherever that is
checked. -/
theorem reply_decoded (reply : Reply) :
    (¬(200 ≤ reply.status ∧ reply.status < 300) → q.decode checked method reply =
      .error (.failed ⟨reply.status, reply.statusText,
        if IsHead method then .null else reply.body.getD .null, reply.headers⟩)) ∧
    (∀ answer, q.decode checked method reply = .ok answer →
      q.Decoded checked method reply answer) ∧
    ((∃ answer, q.decode checked method reply = .ok answer) ↔
      (200 ≤ reply.status ∧ reply.status < 300) ∧ (∃ count, q.countOf reply = .ok count) ∧
        (q.ChecksBody checked method → ∀ v, reply.body = some v → q.checkShape v = .ok ())) := by
  refine ⟨fun refused => ?_, fun answer => q.decoded_of_decode checked method, ?_⟩
  · have unsuccessful : reply.isSuccess = false :=
      Bool.eq_false_iff.2 fun success => refused ((Reply.isSuccess_iff _).1 success)
    rw [decode, decodeUpper_refused _ _ _ unsuccessful, failure]
    simp only [upper_eq_head_iff]
  · simp only [decode_eq_ok_iff, Reply.isSuccess_iff]
    constructor
    · rintro ⟨answer, success, ⟨count, counted, -⟩, accepted⟩
      exact ⟨success, ⟨count, counted⟩, accepted⟩
    · rintro ⟨success, ⟨count, counted⟩, accepted⟩
      exact ⟨_, success, ⟨count, counted, rfl⟩, accepted⟩

/-- The first ten films. -/
def firstFilms : Query := { ofResource "films" .many with window := ⟨0, some 10⟩ }

/-- A reply that counts 342 films. -/
def filmsReply (status : Int) (body : Option Value) : Reply :=
  ⟨status, "", ⟨[(Text.encode "content-range", Text.encode "0-9/342")]⟩, body⟩

/-- A refusal whose body is not for the caller, and a list of films without one in it. -/
theorem reply_decoded_firstFilms :
    firstFilms.decode true "head" (filmsReply 416 (some (.list []))) =
      .error (.failed ⟨416, "", .null, (filmsReply 416 none).headers⟩) ∧
    ∃ answer, firstFilms.decode true "Get" (filmsReply 206 (some (.list []))) = .ok answer ∧
      ("pages_length", .int 35) ∈ answer.fields ∧ ("rows", .list []) ∈ answer.fields ∧
      ∀ v, ("row", v) ∉ answer.fields := by
  obtain ⟨refused, _, _⟩ := reply_decoded firstFilms true "head" (filmsReply 416 (some (.list [])))
  obtain ⟨_, decoded, accepted⟩ :=
    reply_decoded firstFilms true "Get" (filmsReply 206 (some (.list [])))
  have counted : firstFilms.countOf (filmsReply 206 (some (.list []))) = .ok (some ⟨35, 342⟩) := rfl
  obtain ⟨answer, result⟩ := accepted.2 ⟨by decide, ⟨_, counted⟩, fun _ v given => by
    cases given
    rfl⟩
  have fields := decoded answer result
  refine ⟨refused (by decide), answer, result, (fields.pages _).2 ⟨_, counted, rfl⟩,
    (fields.rows _).2 ⟨by decide, rfl, rfl, by simp⟩, fun v single => ?_⟩
  cases ((fields.row v).1 single).2.1

end Query

end RestQuery
