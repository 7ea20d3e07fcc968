/-!
# Vocabularies of the protocol

Each vocabulary is a closed set of words, every one written exactly so in an address or a header. A
`Token` is a word of any vocabulary.  `Vocabulary.lookup?` finds a member by its word, and
`Vocabulary.lookup?_word` says that every member is found by its own.
-/

namespace RestQuery

/-- A closed set of protocol words: its title, and the members in declared order with the word and
the name of each. -/
class Vocabulary (α : Type) where
  title : String
  members : List α
  word : α → String
  label : α → String

/-- Whether one object or a list of rows is expected. -/
inductive Cardinality where
  | one | many
deriving DecidableEq, Inhabited

/-- The comparisons of a filter, in the order in which filters are written. -/
inductive Operator where
  | eq | gt | gte | lt | lte | neq | like | ilike | isIn | is
deriving DecidableEq

/-- The connectives of a group of filters. -/
inductive Connective where
  | and | or
deriving DecidableEq

/-- How the number of rows is counted. -/
inductive Count where
  | exact | planned | estimated
deriving DecidableEq

/-- What a writing request returns. -/
inductive Returning where
  | minimal | headersOnly | representation
deriving DecidableEq

/-- What becomes of a row that exists already. -/
inductive Resolution where
  | ignoreDuplicates | mergeDuplicates
deriving DecidableEq

/-- What stands in for a missing value of an inserted row. -/
inductive Missing where
  | default
deriving DecidableEq

/-- The direction of an ordering key. -/
inductive Direction where
  | asc | desc
deriving DecidableEq

/-- Where an ordering key puts missing values. -/
inductive NullsPlace where
  | first | last
deriving DecidableEq

instance : Vocabulary Cardinality where
  title := "Cardinality"
  members := [.one, .many]
  word
    | .one => "one"
    | .many => "many"
  label
    | .one => "ONE"
    | .many => "MANY"

instance : Vocabulary Operator where
  title := "FilterOperator"
  members := [.eq, .gt, .gte, .lt, .lte, .neq, .like, .ilike, .isIn, .is]
  word
    | .eq => "eq"
    | .gt => "gt"
    | .gte => "gte"
    | .lt => "lt"
    | .lte => "lte"
    | .neq => "neq"
    | .like => "like"
    | .ilike => "ilike"
    | .isIn => "in"
    | .is => "is"
  label
    | .eq => "EQ"
    | .gt => "GT"
    | .gte => "GTE"
    | .lt => "LT"
    | .lte => "LTE"
    | .neq => "NEQ"
    | .like => "LIKE"
    | .ilike => "ILIKE"
    | .isIn => "IN"
    | .is => "IS"

instance : Vocabulary Connective where
  title := "LogicalOperator"
  members := [.and, .or]
  word
    | .and => "and"
    | .or => "or"
  label
    | .and => "AND"
    | .or => "OR"

instance : Vocabulary Count where
  title := "Count"
  members := [.exact, .planned, .estimated]
  word
    | .exact => "exact"
    | .planned => "planned"
    | .estimated => "estimated"
  label
    | .exact => "EXACT"
    | .planned => "PLANNED"
    | .estimated => "ESTIMATED"

instance : Vocabulary Returning where
  title := "Returning"
  members := [.minimal, .headersOnly, .representation]
  word
    | .minimal => "minimal"
    | .headersOnly => "headers-only"
    | .representation => "representation"
  label
    | .minimal => "MINIMAL"
    | .headersOnly => "HEADERS_ONLY"
    | .representation => "REPRESENTATION"

instance : Vocabulary Resolution where
  title := "ConflictResolution"
  members := [.ignoreDuplicates, .mergeDuplicates]
  word
    | .ignoreDuplicates => "ignore-duplicates"
    | .mergeDuplicates => "merge-duplicates"
  label
    | .ignoreDuplicates => "IGNORE_DUPLICATES"
    | .mergeDuplicates => "MERGE_DUPLICATES"

instance : Vocabulary Missing where
  title := "Missing"
  members := [.default]
  word
    | .default => "default"
  label
    | .default => "DEFAULT"

instance : Vocabulary Direction where
  title := "SortOrder"
  members := [.asc, .desc]
  word
    | .asc => "asc"
    | .desc => "desc"
  label
    | .asc => "ASC"
    | .desc => "DESC"

instance : Vocabulary NullsPlace where
  title := "NullsPosition"
  members := [.first, .last]
  word
    | .first => "first"
    | .last => "last"
  label
    | .first => "FIRST"
    | .last => "LAST"

/-- The word of a member. -/
abbrev word {α : Type} [Vocabulary α] (a : α) : String := Vocabulary.word a

namespace Vocabulary

/-- The member that a word stands for. -/
def lookup? (α : Type) [Vocabulary α] (w : String) : Option α :=
  (members : List α).find? fun a => Vocabulary.word a = w

/-- The words of a vocabulary, in declared order. -/
def words (α : Type) [Vocabulary α] : List String := (members : List α).map Vocabulary.word

end Vocabulary

/-- A vocabulary that lists all its members, with a word for each that no other one has. -/
class LawfulVocabulary (α : Type) [Vocabulary α] : Prop where
  mem_members (a : α) : a ∈ (Vocabulary.members : List α)
  word_injective (a b : α) : word a = word b → a = b

instance : LawfulVocabulary Cardinality where
  mem_members a := by cases a <;> decide
  word_injective a b := by cases a <;> cases b <;> decide

instance : LawfulVocabulary Operator where
  mem_members a := by cases a <;> decide
  word_injective a b := by cases a <;> cases b <;> decide

instance : LawfulVocabulary Connective where
  mem_members a := by cases a <;> decide
  word_injective a b := by cases a <;> cases b <;> decide

instance : LawfulVocabulary Count where
  mem_members a := by cases a <;> decide
  word_injective a b := by cases a <;> cases b <;> decide

instance : LawfulVocabulary Returning where
  mem_members a := by cases a <;> decide
  word_injective a b := by cases a <;> cases b <;> decide

instance : LawfulVocabulary Resolution where
  mem_members a := by cases a <;> decide
  word_injective a b := by cases a <;> cases b <;> decide

instance : LawfulVocabulary Missing where
  mem_members a := by cases a; decide
  word_injective a b _ := by cases a; cases b; rfl

instance : LawfulVocabulary Direction where
  mem_members a := by cases a <;> decide
  word_injective a b := by cases a <;> cases b <;> decide

instance : LawfulVocabulary NullsPlace where
  mem_members a := by cases a <;> decide
  word_injective a b := by cases a <;> cases b <;> decide

/-- Every member is found by its own word. -/
theorem Vocabulary.lookup?_word {α : Type} [Vocabulary α] [LawfulVocabulary α] (a : α) :
    Vocabulary.lookup? α (word a) = some a := by
  have found : ((Vocabulary.members : List α).find? fun b => decide (word b = word a)).isSome :=
    List.find?_isSome.2 ⟨a, LawfulVocabulary.mem_members a, by simp⟩
  obtain ⟨b, hb⟩ := Option.isSome_iff_exists.1 found
  have same : word b = word a := by simpa using List.find?_some hb
  rw [Vocabulary.lookup?, hb, LawfulVocabulary.word_injective b a same]

/-- A word of any vocabulary. -/
inductive Token where
  | cardinality (c : Cardinality)
  | operator (o : Operator)
  | connective (l : Connective)
  | count (c : Count)
  | returning (r : Returning)
  | resolution (r : Resolution)
  | missing (m : Missing)
  | direction (s : Direction)
  | nulls (n : NullsPlace)
deriving DecidableEq

namespace Token

def word : Token → String
  | .cardinality a => Vocabulary.word a
  | .operator a => Vocabulary.word a
  | .connective a => Vocabulary.word a
  | .count a => Vocabulary.word a
  | .returning a => Vocabulary.word a
  | .resolution a => Vocabulary.word a
  | .missing a => Vocabulary.word a
  | .direction a => Vocabulary.word a
  | .nulls a => Vocabulary.word a

def label : Token → String
  | .cardinality a => Vocabulary.label a
  | .operator a => Vocabulary.label a
  | .connective a => Vocabulary.label a
  | .count a => Vocabulary.label a
  | .returning a => Vocabulary.label a
  | .resolution a => Vocabulary.label a
  | .missing a => Vocabulary.label a
  | .direction a => Vocabulary.label a
  | .nulls a => Vocabulary.label a

/-- The title of the vocabulary that a token belongs to. -/
def title : Token → String
  | .cardinality _ => Vocabulary.title Cardinality
  | .operator _ => Vocabulary.title Operator
  | .connective _ => Vocabulary.title Connective
  | .count _ => Vocabulary.title Count
  | .returning _ => Vocabulary.title Returning
  | .resolution _ => Vocabulary.title Resolution
  | .missing _ => Vocabulary.title Missing
  | .direction _ => Vocabulary.title Direction
  | .nulls _ => Vocabulary.title NullsPlace

/-- The full name of a token: its vocabulary and its own name. -/
def name (t : Token) : String := t.title ++ "." ++ t.label

/-- All tokens, vocabulary by vocabulary. -/
def all : List Token :=
  (Vocabulary.members.map .cardinality) ++ (Vocabulary.members.map .operator) ++
    (Vocabulary.members.map .connective) ++ (Vocabulary.members.map .count) ++
    (Vocabulary.members.map .returning) ++ (Vocabulary.members.map .resolution) ++
    (Vocabulary.members.map .missing) ++ (Vocabulary.members.map .direction) ++
    (Vocabulary.members.map .nulls)

/-- The token of a full name. -/
def ofName? (s : String) : Option Token := all.find? (·.name = s)

end Token

end RestQuery
