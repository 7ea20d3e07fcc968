/-!
# Cutting and searching text

Text is cut on its list of characters.  `splitFirst` cuts at the first occurrence of a separator,
`pieces` at every occurrence, and both lose only separators: `pieces_joined` puts the pieces
together again.  `contains` looks for one run of characters inside another.
-/

namespace RestQuery

/-- A name with a value: a parameter of a query string, a header field or a preference. -/
abbrev Pair := String × String

namespace Text

/-- The part before the first separator and, where there is a separator, the part after it. -/
def splitFirst (sep : Char) : List Char → List Char × Option (List Char)
  | [] => ([], none)
  | c :: cs =>
    if c = sep then ([], some cs)
    else
      let (before, after) := splitFirst sep cs
      (c :: before, after)

/-- The pieces between the separators, of which there is always one more than separators. -/
def pieces (sep : Char) : List Char → List (List Char)
  | [] => [[]]
  | c :: cs =>
    if c = sep then [] :: pieces sep cs
    else
      match pieces sep cs with
      | [] => [[c]]
      | p :: ps => (c :: p) :: ps

/-- Whether `run` stands somewhere in the characters. -/
def occurs (run : List Char) : List Char → Bool
  | [] => run.isEmpty
  | c :: cs => run.isPrefixOf (c :: cs) || occurs run cs

/-- Whether one text stands somewhere inside another. -/
def contains (whole part : String) : Bool :=
  occurs part.toList whole.toList

/-- Whether a text comes no later than another in the order of characters. -/
def atMost (s t : String) : Bool := !decide (t < s)

theorem pieces_ne_nil (sep : Char) (cs : List Char) : pieces sep cs ≠ [] := by
  cases cs with
  | nil => simp [pieces]
  | cons c cs =>
    simp only [pieces]
    split
    · simp
    · split <;> simp

/-- Cutting at a separator and joining with it gives the text back. -/
theorem pieces_joined (sep : Char) (cs : List Char) :
    [sep].intercalate (pieces sep cs) = cs := by
  induction cs with
  | nil => simp [pieces, List.intercalate]
  | cons c cs ih =>
    simp only [pieces]
    split
    next h =>
      cases hp : pieces sep cs with
      | nil => exact absurd hp (pieces_ne_nil sep cs)
      | cons p ps => rw [hp] at ih; simp [List.intercalate_cons_cons, ih, h]
    next h =>
      cases hp : pieces sep cs with
      | nil => exact absurd hp (pieces_ne_nil sep cs)
      | cons p ps =>
        rw [hp] at ih
        cases ps with
        | nil => simpa [List.intercalate] using ih
        | cons q qs => simpa [List.intercalate_cons_cons] using ih

end Text

end RestQuery
