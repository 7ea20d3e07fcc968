import RestQuery.Error
import RestQuery.Number.Exact

/-!
# Digests

The digest of a value is a run of marks by which a dictionary finds it again.  It depends on the
value of a number and not on its kind, and an unreadable selector is digested by the literal of its
payload.  What is known by a serial number alone is digested by it.  Lists and mappings have no
digest, and neither has anything that holds one.
-/

namespace RestQuery

/-- A piece of a digest.  `group` opens the digest of a compound value with the number of parts. -/
inductive Mark where
  | none
  | number (q : Quantity)
  | word (s : String)
  | bytes (bs : List UInt8)
  | serial (n : Nat)
  | group (parts : Nat)
deriving DecidableEq

/-- A digest, part after part. -/
abbrev Digest := List Mark

namespace Digest

def ofInt (i : Int) : Digest := [.number (.finite (Exact.ofInt i))]

def ofBool (b : Bool) : Digest := ofInt (if b then 1 else 0)

def ofText (s : String) : Digest := [.word s]

/-- A member of a vocabulary is digested as its word. -/
def ofMember {α : Type} [Vocabulary α] (a : α) : Digest := [.word (word a)]

def ofOption {α : Type} (digest : α → Digest) : Option α → Digest
  | some a => digest a
  | .none => [.none]

/-- The digest of a compound value. -/
def compound (parts : List Digest) : Digest := .group parts.length :: parts.flatten

end Digest

/-- The number that a value is, a truth value being one or zero. -/
def Value.quantity? : Value → Option Quantity
  | .bool b => some (.finite (Exact.ofInt (if b then 1 else 0)))
  | .int i => some (.finite (Exact.ofInt i))
  | .float x => some x.quantity
  | .decimal d => some d.quantity
  | _ => none

mutual

/-- The digest of a value, if it has one. -/
def Value.digest : Value → Except Error Digest
  | .null => .ok [.none]
  | .bool b => .ok (.ofBool b)
  | .int i => .ok (.ofInt i)
  | .float x => .ok [.number x.quantity]
  | .decimal d => if d.isSignaling then .error .wrongType else .ok [.number d.quantity]
  | .text s => .ok (.ofText s)
  | .bytes bs => .ok [.bytes bs]
  | .token t => .ok (.ofText t.word)
  | .list _ => .error .wrongType
  | .dict _ => .error .wrongType
  | .tuple items => do return .compound (← Value.digests items)
  | .query q => q.digest
  | .negation _ serial => .ok [.serial serial]
  | .selector s => s.digest
  | .sortKey k => k.digest

def Value.digests : List Value → Except Error (List Digest)
  | [] => .ok []
  | v :: vs => do return (← v.digest) :: (← Value.digests vs)

def Selector.digest : Selector → Except Error Digest
  | .wildcard => .ok (.compound [])
  | .column name => do return .compound [← name.digest]
  | .modified column name cast => do
    return .compound [← column.digest, ← name.digest, ← cast.digest]
  | .path p => do return .compound [← p.digest]
  | .embedded q name => do return .compound [← q.digest, ← name.digest]
  | .misembedded content name => do return .compound [← content.digest, ← name.digest]
  | .invalid payload => .ok (.ofText payload.literal)
  | .unwritable serial => .ok [.serial serial]

def Selector.digests : List Selector → Except Error (List Digest)
  | [] => .ok []
  | s :: ss => do return (← s.digest) :: (← Selector.digests ss)

def Filter.digest : Filter → Except Error Digest
  | { operator, column, operand, negated } => do
    return .compound
      [.ofMember operator, ← column.digest, ← operand.digest, .ofBool negated]

def Filter.digests : List Filter → Except Error (List Digest)
  | [] => .ok []
  | f :: fs => do return (← f.digest) :: (← Filter.digests fs)

def FilterGroup.digest : FilterGroup → Except Error Digest
  | { connective, queries, negated } => do
    return .compound
      [.ofMember connective, .compound (← Query.digests queries), .ofBool negated]

def FilterGroup.digests : List FilterGroup → Except Error (List Digest)
  | [] => .ok []
  | g :: gs => do return (← g.digest) :: (← FilterGroup.digests gs)

def SortKey.digest : SortKey → Except Error Digest
  | { column, direction, nulls, top } => do
    return .compound
      [← column.digest, .ofOption .ofMember direction, .ofOption .ofMember nulls, ← top.digest]

def SortKey.digests : List SortKey → Except Error (List Digest)
  | [] => .ok []
  | k :: ks => do return (← k.digest) :: (← SortKey.digests ks)

def Query.digests : List Query → Except Error (List Digest)
  | [] => .ok []
  | q :: qs => do return (← q.digest) :: (← Query.digests qs)

/-- The digest of a query, if all of its parts have one. -/
def Query.digest : Query → Except Error Digest
  | { resource, cardinality, selectors, filters, conjunctions, disjunctions, ordering, window,
      preferences, schema, onConflict, columns, inner } => do
    return .compound
      [.ofText resource, .ofMember cardinality, .compound (← Selector.digests selectors),
       .compound (← Filter.digests filters), .compound (← FilterGroup.digests conjunctions),
       .compound (← FilterGroup.digests disjunctions), .compound (← SortKey.digests ordering),
       .ofInt window.offset, .ofOption .ofInt window.limit,
       .ofOption .ofMember preferences.count, .ofOption .ofMember preferences.returning,
       .ofOption .ofMember preferences.resolution, .ofOption .ofMember preferences.missing,
       ← schema.digest, ← onConflict.digest,
       .compound (← Value.digests columns), .ofBool inner]

end

end RestQuery
