import RestQuery.Value.Basic

/-!
# Settings

There are five settings, each with a constant that the library reads.  A block of overrides gives
some of them other values; `Settings.enter` and `Settings.leave` are its beginning and its end.  The
value of a constant before it was first overridden is remembered, and comes back when a block is
left after which the definitions give no value.
-/

namespace RestQuery

/-- A setting of the library. -/
inductive Setting where
  | baseUrl | timeout | encodeQueryStrings | defaultPageSize | validateCardinality
deriving DecidableEq

namespace Setting

def all : List Setting :=
  [.baseUrl, .timeout, .encodeQueryStrings, .defaultPageSize, .validateCardinality]

/-- The name under which a setting is defined. -/
def name : Setting → String
  | .baseUrl => "PGRESTCLIENT_BASE_URL"
  | .timeout => "PGRESTCLIENT_TIMEOUT"
  | .encodeQueryStrings => "PGRESTCLIENT_ENCODE_QUERY_STRINGS"
  | .defaultPageSize => "PGRESTCLIENT_DEFAULT_PAGE_SIZE"
  | .validateCardinality => "PGRESTCLIENT_VALIDATE_CARDINALITY"

def ofName? (s : String) : Option Setting := all.find? (·.name = s)

/-- The value of a setting that is not defined. -/
def standard : Setting → Value
  | .baseUrl => .text "/"
  | .timeout => .float (Binary64.ofRatio false 30 1)
  | .encodeQueryStrings => .bool true
  | .defaultPageSize => .int 10
  | .validateCardinality => .bool true

end Setting

/-- Names with values, the first one of a name counting. -/
abbrev Definitions := List (String × Value)

def Definitions.value? (d : Definitions) (name : String) : Option Value :=
  (d.find? fun entry => entry.1 = name).map (·.2)

/-- The constants, the values remembered of them, and the definitions behind them: those of the
blocks that are entered, innermost first, and those that always hold. -/
structure Settings where
  constant : Setting → Value
  remembered : Setting → Option Value
  blocks : List Definitions
  base : Definitions

namespace Settings

/-- The settings where no block is entered. -/
def ofBase (base : Definitions) : Settings where
  constant s := (base.value? s.name).getD s.standard
  remembered _ := none
  blocks := []
  base := base

/-- Whether query strings are encoded where nothing else is said. -/
def encodes (s : Settings) : Bool := (s.constant .encodeQueryStrings).isGiven

/-- Whether the shape of bodies is checked. -/
def checksShape (s : Settings) : Bool := (s.constant .validateCardinality).isGiven

/-- What the definitions give for a name. -/
def defined? (s : Settings) (name : String) : Option Value :=
  ((s.blocks.findSome? fun block => Definitions.value? block name) <|> s.base.value? name)

/-- Sets a constant, and nothing under a name that is no setting. -/
def assign (s : Settings) (name : String) (v : Value) : Settings :=
  match Setting.ofName? name with
  | some setting =>
    { s with constant := fun other => if other = setting then v else s.constant other }
  | none => s

/-- Remembers the value of a constant, unless one is remembered already. -/
def remember (s : Settings) (name : String) : Settings :=
  match Setting.ofName? name with
  | some setting =>
    { s with remembered := fun other =>
        if other = setting then some ((s.remembered setting).getD (s.constant setting))
        else s.remembered other }
  | none => s

/-- The value that a constant takes when a block is left: what the definitions give, or the value
remembered where they give none. -/
def restored (s : Settings) (name : String) : Value :=
  match (s.defined? name).getD .null with
  | .null => ((Setting.ofName? name).bind s.remembered).getD .null
  | v => v

/-- Enters a block. -/
def enter (s : Settings) (block : Definitions) : Settings :=
  block.foldl (fun s (name, v) => (s.remember name).assign name v)
    { s with blocks := block :: s.blocks }

/-- Leaves the innermost block, if there is one. -/
def leave? (s : Settings) : Option Settings :=
  match s.blocks with
  | [] => none
  | block :: rest =>
    some (block.foldl (fun s (name, _) => s.assign name (s.restored name))
      { s with blocks := rest })

end Settings

end RestQuery
