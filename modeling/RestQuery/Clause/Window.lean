import RestQuery.Clause.Filters

/-!
# The pagination parameters

Every query of the embedding tree has limits of its own.  A limit of zero is written, an offset of
zero is not.
-/

namespace RestQuery.Query

/-- The limit of a query at a path. -/
def ownLimitPairs (path : String) (q : Query) : List Pair :=
  match q.window.limit with
  | some limit => [(path ++ "limit", toString limit)]
  | none => []

/-- The offset of a query at a path; an offset of zero is not written. -/
def ownOffsetPairs (path : String) (q : Query) : List Pair :=
  if q.window.offset = 0 then [] else [(path ++ "offset", toString q.window.offset)]

/-- The limits of the whole tree. -/
def limitPairs (write : QueryText) (q : Query) : Except Error (List Pair) :=
  q.collect (dottedBelow write) (fun path q => .ok (q.ownLimitPairs path)) ""

/-- The offsets of the whole tree. -/
def offsetPairs (write : QueryText) (q : Query) : Except Error (List Pair) :=
  q.collect (dottedBelow write) (fun path q => .ok (q.ownOffsetPairs path)) ""

end RestQuery.Query
