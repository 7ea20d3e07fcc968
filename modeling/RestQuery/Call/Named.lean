import RestQuery.Call

/-!
# Calls by name

`Call.named` finds the call of a name with its arguments.  A name after `not_.` is that of a negated
filter or group, and only those can be negated.  A wrong number of arguments is an error of its own.
-/

namespace RestQuery

/-- An argument of a call: a value, or what builds the queries of a group. -/
inductive Argument where
  | value (v : Value)
  | builder (build : Query → Except Error Value)

instance : Inhabited Argument := ⟨.value .null⟩

namespace Argument

/-- The value of an argument; no call but that of a group takes anything else. -/
def asValue : Argument → Except Error Value
  | .value v => .ok v
  | .builder _ => .error .wrongType

def asChildren : Argument → Children
  | .value v => .given v
  | .builder build => .built build

end Argument

namespace Call

/-- The operator of a filter by the name of its call. -/
def filterNamed? (name : String) : Option Operator :=
  (Vocabulary.members : List Operator).find? fun op =>
    name = match op with
      | .isIn => "in_"
      | .is => "is_"
      | op => word op

/-- The connective of a group by the name of its call. -/
def groupNamed? (name : String) : Option Connective :=
  (Vocabulary.members : List Connective).find? fun op => name = word op ++ "_"

/-- The filter or group of a name. -/
def conditionNamed (negated : Bool) (name : String) (args : List Argument) : Except Error Call :=
  match filterNamed? name, groupNamed? name with
  | some op, _ =>
    match args with
    | [column, operand] => do
      return .filter op (← column.asValue) (← operand.asValue) negated
    | _ => .error .wrongType
  | none, some op =>
    match args with
    | [children] => .ok (.group op children.asChildren negated)
    | _ => .error .wrongType
  | none, none => .error .noOperation

/-- A call of one argument. -/
def unary (make : Value → Call) : List Value → Except Error Call
  | [v] => .ok (make v)
  | _ => .error .wrongType

/-- A call without arguments. -/
def nullary (call : Call) : List Value → Except Error Call
  | [] => .ok call
  | _ => .error .wrongType

/-- The call of a name that is neither a filter nor a group. -/
def settingNamed (name : String) (args : List Value) : Except Error Call :=
  match name with
  | "select" => unary .select args
  | "select_json" => unary .selectJson args
  | "order" => unary .order args
  | "offset" => unary .offset args
  | "limit" => unary .limit args
  | "columns" => unary .columns args
  | "count" => unary .count args
  | "returning" => unary .returning args
  | "schema" => unary .schema args
  | "single" => nullary .single args
  | "inner" => nullary .inner args
  | "page" =>
    match args with
    | [number] => .ok (.page number .null)
    | [number, size] => .ok (.page number size)
    | _ => .error .wrongType
  | "on_conflict" =>
    match args with
    | [resolution] => .ok (.onConflict resolution .null)
    | [resolution, column] => .ok (.onConflict resolution column)
    | _ => .error .wrongType
  | "missing" =>
    match args with
    | [] => .ok (.missing (.token (.missing .default)))
    | [v] => .ok (.missing v)
    | _ => .error .wrongType
  | _ => .error .noOperation

/-- Whether a name is that of a filter or a group. -/
def isCondition (name : String) : Bool := (filterNamed? name).isSome || (groupNamed? name).isSome

/-- What stands behind `not_.` in a name. -/
def negatedName? (name : String) : Option String :=
  if "not_.".toList.isPrefixOf name.toList then some (String.ofList (name.toList.drop 5)) else none

/-- The call of a name on a query. -/
def named (name : String) (args : List Argument) : Except Error Call :=
  match negatedName? name with
  | some rest => conditionNamed true rest args
  | none =>
    if isCondition name then conditionNamed false name args
    else do settingNamed name (← args.mapM Argument.asValue)

/-- The call of a name on the negation of a query. -/
def namedNegated (name : String) (args : List Argument) : Except Error Call :=
  conditionNamed true name args

end Call

end RestQuery
