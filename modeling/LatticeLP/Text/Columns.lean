/-!
# Columns

A column has a width in characters. A shorter text is filled up with blanks on the far
side, a longer one is left as it is: nothing is ever cut off.

A width that is computed, and not known beforehand, is kept in sixteen bits. There is no
column of a greater one.
-/

namespace LatticeLP.Text

/-- The blanks that fill a text up to a width. -/
def filling (width : Nat) (text : String) : String :=
  String.ofList (List.replicate (width - text.length) ' ')

/-- The text at the left of a column. -/
def padRight (width : Nat) (text : String) : String :=
  text ++ filling width text

/-- The text at the right of a column. -/
def padLeft (width : Nat) (text : String) : String :=
  filling width text ++ text

/-- The width of the widest column that can be asked for by a computed width. -/
def widest : Nat := 0xffff

/-- The text at the right of a column of a computed width, which may be too great. -/
def padLeft? (width : Nat) (text : String) : Option String :=
  if width ≤ widest then some (padLeft width text) else none

theorem length_filling (width : Nat) (text : String) :
    (filling width text).length = width - text.length := by
  simp [filling]

/-- A text at the right of a column is as wide as the column, or wider if it does not
fit. -/
theorem length_padLeft (width : Nat) (text : String) :
    (padLeft width text).length = max width text.length := by
  simp only [padLeft, String.length_append, length_filling]
  omega

/-- Filled up on the other side, a text has the same width. -/
theorem length_padRight (width : Nat) (text : String) :
    (padRight width text).length = max width text.length := by
  simp only [padRight, String.length_append, length_filling]
  omega

end LatticeLP.Text
