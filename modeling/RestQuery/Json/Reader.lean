import RestQuery.Json.Tree
import RestQuery.Json.Writer

/-!
# Values of JSON texts

A whole number of 64 bits is read as such and any other number as a floating-point number, which
must not be beyond the format.  Of repeated names in an object the last one counts, at the place of
the first.
-/

namespace RestQuery.Json

/-- A finite floating-point number as a value. -/
def floatValue? (x : Binary64) : Option Value :=
  match x with
  | .finite .. => some (.float x)
  | _ => none

/-- The value of a number. -/
def Numeral.value? (n : Numeral) : Option Value :=
  let whole : Int := if n.negative then -(n.coefficient : Int) else n.coefficient
  if n.isWhole && inRange whole then some (.int whole)
  else floatValue? (Binary64.ofScientific n.negative n.coefficient n.exponent)

/-- A mapping with one entry more: a known name keeps its place and takes the new value. -/
def putMember (members : List (String × Value)) (name : String) (v : Value) :
    List (String × Value) :=
  if members.any fun m => m.1 = name then
    members.map fun m => if m.1 = name then (name, v) else m
  else members ++ [(name, v)]

mutual

/-- The value of a tree, unless it holds a number beyond the format. -/
def Tree.value? : Tree → Option Value
  | .null => some .null
  | .bool b => some (.bool b)
  | .number n => n.value?
  | .text s => some (.text s)
  | .array items => (Tree.values? items).map .list
  | .object members => (Tree.members? [] members).map Value.object

def Tree.values? : List Tree → Option (List Value)
  | [] => some []
  | t :: ts => do return (← t.value?) :: (← Tree.values? ts)

/-- The members of an object put behind those read before. -/
def Tree.members? (before : List (String × Value)) :
    List (String × Tree) → Option (List (String × Value))
  | [] => some before
  | (name, t) :: ms => do Tree.members? (putMember before name (← t.value?)) ms

end

/-- The value of the bytes of a JSON text, if they are one. -/
def readBytes? (bytes : List UInt8) : Option Value := do (← Tree.readBytes? bytes).value?

end RestQuery.Json
