/-!
# Blank characters

The characters of the Unicode property White_Space, and the removal of blanks around a
text. Splitting at a separator keeps empty parts, so a text with `n` separators always
has `n + 1` parts.
-/

namespace LatticeLP.Text

/-- The character has the Unicode property White_Space. -/
def isBlank (c : Char) : Bool :=
  let n := c.toNat
  (0x9 ≤ n && n ≤ 0xd) || n == 0x20 || n == 0x85 || n == 0xa0 || n == 0x1680 ||
    (0x2000 ≤ n && n ≤ 0x200a) || n == 0x2028 || n == 0x2029 || n == 0x202f || n
      == 0x205f ||
    n == 0x3000

/-- **A text without the blanks at its ends.** -/
def trim (cs : List Char) : List Char :=
  ((cs.dropWhile isBlank).reverse.dropWhile isBlank).reverse

/-- **The parts of a text between separators.** There is always at least one part. -/
def splitAt (separator : Char) : List Char → List (List Char)
  | [] => [[]]
  | c :: rest =>
    if c = separator then [] :: splitAt separator rest
    else
      match splitAt separator rest with
      | [] => [[c]]
      | part :: parts => (c :: part) :: parts

/-- The trimmed parts of a text between commas. -/
def fields (text : String) : List (List Char) :=
  (splitAt ',' text.toList).map trim

/-- A character that the core library takes for whitespace is blank. -/
theorem isBlank_of_isWhitespace {c : Char} (h : c.isWhitespace = true) :
    isBlank c = true := by
  simp only [Char.isWhitespace, Bool.or_eq_true, decide_eq_true_eq] at h
  rcases h with ((rfl | rfl) | rfl) | rfl <;> rfl

end LatticeLP.Text
