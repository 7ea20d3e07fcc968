import RestQuery.Value.Digest

/-!
# Equality of values

Numbers are equal by value across their kinds, a token is equal to its text, and mappings are equal
without regard to order.  Two queries are equal if all their parts are, compared in order up to the
first difference.  What is known by a serial number alone is equal to itself alone.

A signaling value is no number and cannot be compared with a number, so a comparison can fail.  It
gives a `Verdict`.
-/

namespace RestQuery

/-- What comes of a comparison: whether two values are equal, or the cause why none can tell. -/
abbrev Verdict := Except Error Bool

/-- Whether two comparisons both hold; the second one counts only if the first one holds. -/
@[macro_inline]
def Verdict.both (v w : Verdict) : Verdict :=
  match v with
  | .ok true => w
  | .ok false => .ok false
  | .error e => .error e

/-- Whether no number can be compared with a value. -/
def Value.isSignaling : Value → Bool
  | .decimal d => d.isSignaling
  | _ => false

/-- Equality of values without parts: as numbers or as texts. -/
def Value.equalPlain (v w : Value) : Verdict :=
  match v.quantity?, w.quantity? with
  | some x, some y =>
    if x = y then .ok true
    else if v.isSignaling || w.isSignaling then .error .signaling
    else .ok false
  | _, _ =>
    match v.asText?, w.asText? with
    | some s, some t => .ok (s == t)
    | _, _ => .ok false

/-- Whether two values have the same digest, which a mapping asks of equal keys. -/
def Value.sameDigest (v w : Value) : Bool :=
  match v.digest, w.digest with
  | .ok d, .ok e => d == e
  | _, _ => false

open Verdict (both)

mutual

def Value.equal : Value → Value → Verdict
  | .null, w => match w with
    | .null => .ok true
    | _ => .ok false
  | .bytes bs, w => match w with
    | .bytes cs => .ok (bs == cs)
    | _ => .ok false
  | .list vs, w => match w with
    | .list ws => both (.ok (vs.length == ws.length)) (Value.equalAll vs ws)
    | _ => .ok false
  | .tuple vs, w => match w with
    | .tuple ws => Value.equalAll vs ws
    | _ => .ok false
  | .dict es, w => match w with
    | .dict fs => both (.ok (es.length == fs.length)) (Value.within es fs)
    | _ => .ok false
  | .query q, w => match w with
    | .query r => q.equal r
    | _ => .ok false
  | .negation _ serial, w => match w with
    | .negation _ serial' => .ok (serial == serial')
    | _ => .ok false
  | .selector s, w => match w with
    | .selector t => s.equal t
    | _ => .ok false
  | .sortKey k, w => match w with
    | .sortKey l => k.equal l
    | _ => .ok false
  | .bool b, w => (Value.bool b).equalPlain w
  | .int i, w => (Value.int i).equalPlain w
  | .float x, w => (Value.float x).equalPlain w
  | .decimal d, w => (Value.decimal d).equalPlain w
  | .text s, w => (Value.text s).equalPlain w
  | .token t, w => (Value.token t).equalPlain w

/-- Equality item by item. -/
def Value.equalAll : List Value → List Value → Verdict
  | [], ws => .ok ws.isEmpty
  | v :: vs, ws => match ws with
    | [] => .ok false
    | w :: ws => both (v.equal w) (Value.equalAll vs ws)

/-- Whether every entry has an equal one among others: the first one with an equal key. -/
def Value.within : List (Value × Value) → List (Value × Value) → Verdict
  | [], _ => .ok true
  | (key, v) :: es, fs =>
    both
      (fs.foldr (fun f further =>
        match both (.ok (key.sameDigest f.1)) (key.equal f.1) with
        | .ok true => v.equal f.2
        | .ok false => further
        | .error e => .error e) (.ok false))
      (Value.within es fs)

def Selector.equal : Selector → Selector → Verdict
  | .wildcard, t => match t with
    | .wildcard => .ok true
    | _ => .ok false
  | .column name, t => match t with
    | .column name' => name.equal name'
    | _ => .ok false
  | .modified column name cast, t => match t with
    | .modified column' name' cast' =>
      both (column.equal column') (both (name.equal name') (cast.equal cast'))
    | _ => .ok false
  | .path p, t => match t with
    | .path p' => p.equal p'
    | _ => .ok false
  | .embedded q name, t => match t with
    | .embedded q' name' => both (q.equal q') (name.equal name')
    | _ => .ok false
  | .misembedded content name, t => match t with
    | .misembedded content' name' => both (content.equal content') (name.equal name')
    | _ => .ok false
  | .invalid payload, t => match t with
    | .invalid payload' => payload.equal payload'
    | _ => .ok false
  | .unwritable serial, t => match t with
    | .unwritable serial' => .ok (serial == serial')
    | _ => .ok false

def Selector.equalAll : List Selector → List Selector → Verdict
  | [], ts => .ok ts.isEmpty
  | s :: ss, ts => match ts with
    | [] => .ok false
    | t :: ts => both (s.equal t) (Selector.equalAll ss ts)

def Filter.equal : Filter → Filter → Verdict
  | { operator, column, operand, negated }, g =>
    both (.ok (operator == g.operator))
      (both (column.equal g.column)
        (both (operand.equal g.operand) (.ok (negated == g.negated))))

def Filter.equalAll : List Filter → List Filter → Verdict
  | [], gs => .ok gs.isEmpty
  | f :: fs, gs => match gs with
    | [] => .ok false
    | g :: gs => both (f.equal g) (Filter.equalAll fs gs)

def FilterGroup.equal : FilterGroup → FilterGroup → Verdict
  | { connective, queries, negated }, h =>
    both (.ok (connective == h.connective))
      (both (Query.equalAll queries h.queries) (.ok (negated == h.negated)))

def FilterGroup.equalAll : List FilterGroup → List FilterGroup → Verdict
  | [], hs => .ok hs.isEmpty
  | g :: gs, hs => match hs with
    | [] => .ok false
    | h :: hs => both (g.equal h) (FilterGroup.equalAll gs hs)

def SortKey.equal : SortKey → SortKey → Verdict
  | { column, direction, nulls, top }, l =>
    both (column.equal l.column)
      (both (.ok (direction == l.direction && nulls == l.nulls)) (top.equal l.top))

def SortKey.equalAll : List SortKey → List SortKey → Verdict
  | [], ls => .ok ls.isEmpty
  | k :: ks, ls => match ls with
    | [] => .ok false
    | l :: ls => both (k.equal l) (SortKey.equalAll ks ls)

def Query.equalAll : List Query → List Query → Verdict
  | [], rs => .ok rs.isEmpty
  | q :: qs, rs => match rs with
    | [] => .ok false
    | r :: rs => both (q.equal r) (Query.equalAll qs rs)

/-- Whether all parts of two queries are equal. -/
def Query.equal : Query → Query → Verdict
  | { resource, cardinality, selectors, filters, conjunctions, disjunctions, ordering, window,
      preferences, schema, onConflict, columns, inner }, r =>
    both (.ok (resource == r.resource && cardinality == r.cardinality))
      (both (Selector.equalAll selectors r.selectors)
        (both (Filter.equalAll filters r.filters)
          (both (FilterGroup.equalAll conjunctions r.conjunctions)
            (both (FilterGroup.equalAll disjunctions r.disjunctions)
              (both (SortKey.equalAll ordering r.ordering)
                (both (.ok (window == r.window && preferences == r.preferences))
                  (both (schema.equal r.schema)
                    (both (onConflict.equal r.onConflict)
                      (both (Value.equalAll columns r.columns)
                        (.ok (inner == r.inner)))))))))))

end

/-- Whether a selector is among others, as the first one that is equal to it decides. -/
def Selector.among (s : Selector) : List Selector → Verdict
  | [] => .ok false
  | t :: ts =>
    match t.equal s with
    | .ok false => s.among ts
    | verdict => verdict

/-- Whether two values are one key of a mapping. -/
def Value.isSameKey (v w : Value) : Verdict := both (.ok (v.sameDigest w)) (v.equal w)

/-- The value under the first entry with a key. -/
def Value.findFirst (key : Value) : List (Value × Value) → Except Error (Option Value)
  | [] => .ok none
  | (k, v) :: es => do if ← k.isSameKey key then return some v else key.findFirst es

/-- The value under a key of a mapping; a key must have a digest. -/
def Value.find (entries : List (Value × Value)) (key : Value) : Except Error (Option Value) := do
  let _ ← key.digest
  key.findFirst entries

/-- A mapping with one entry more: an equal key keeps its place and takes the new value. -/
def Value.putEntry (key value : Value) :
    List (Value × Value) → Except Error (List (Value × Value))
  | [] => .ok [(key, value)]
  | (k, v) :: es => do
    if ← k.isSameKey key then return (k, value) :: es
    else return (k, v) :: (← Value.putEntry key value es)

/-- The mapping of some entries, the last one of equal keys giving the value. -/
def Value.ofEntries (entries : List (Value × Value)) : Except Error Value := do
  let entries ← entries.foldlM (fun built (key, value) => do
    let _ ← key.digest
    Value.putEntry key value built) []
  return .dict entries

namespace Query

/-- Whether two queries are one key of a dictionary. -/
def isSameKey (q r : Query) : Verdict := (Value.query q).isSameKey (.query r)

/-- Whether a query is one key with another one of a list. -/
def isKeyAmong (q : Query) : List Query → Verdict
  | [] => .ok false
  | r :: rs =>
    match r.isSameKey q with
    | .ok false => q.isKeyAmong rs
    | verdict => verdict

/-- The keys of a dictionary that the queries make: the first of all queries that are one key. -/
def distinct (qs : List Query) : Except Error (List Query) :=
  qs.foldlM (fun kept q => do if ← q.isKeyAmong kept then return kept else return kept ++ [q]) []

end Query

end RestQuery
