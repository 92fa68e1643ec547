import LatticeLP.Decimal.Shortest
import LatticeLP.Text.Quoted

/-!
# JSON documents

A document of numbers, strings, arrays and objects, and its two layouts: compact,
without any blanks, and pretty, with one value per line and two blanks of indentation
per level. Members of an object keep the order in which they were given until `sorted`
puts them in the order of their keys.

A number in JSON shows that it is not an integer by a point or an exponent; the exponent
appears below `1e-5` and from `1e16` on, with a sign either way. What is not a finite
number has no JSON text and is written as `null`.
-/

namespace LatticeLP

/-- A document of numbers, strings, arrays and objects. -/
inductive Json where
  /-- The absence of a value. -/
  | null
  /-- A number, by its text. -/
  | number (text : String)
  /-- A string. -/
  | string (text : String)
  /-- Values in order. -/
  | array (items : List Json)
  /-- Named values in order. -/
  | object (members : List (String × Json))

namespace Json

/-! ## Numbers -/

/-- How numbers are written in a document. -/
def numberStyle : NumberStyle where
  tie := .even
  isPositional place := decide (-5 ≤ place ∧ place < 16)
  showsPoint := true
  showsPlus := false

/-- A double in a document. -/
def ofFloat (x : Float) : Json :=
  match Double.decode x with
  | .finite negative m q => number (numberStyle.write (.finite negative m q))
  | _ => null

/-- A natural number in a document. -/
def ofNat (n : Nat) : Json :=
  number (toString n)

/-- An integer in a document. -/
def ofInt (n : Int) : Json :=
  number (toString n)

/-! ## Order of members -/

mutual

/-- **The same document with the members of every object in the order of their keys.** -/
def sorted : Json → Json
  | null => null
  | number text => number text
  | string text => string text
  | array items => array (sortedItems items)
  | object members =>
    object ((sortedMembers members).mergeSort fun p q => decide (p.1 ≤ q.1))

/-- Sort inside each item. -/
def sortedItems : List Json → List Json
  | [] => []
  | item :: items => item.sorted :: sortedItems items

/-- Sort inside each member. -/
def sortedMembers : List (String × Json) → List (String × Json)
  | [] => []
  | (key, value) :: members => (key, value.sorted) :: sortedMembers members

end

/-! ## Layouts -/

/-- The form of a character in a string: quotes, backslashes and control characters are
escaped. -/
def escapedChar (c : Char) : List Char :=
  match c with
  | '"' => ['\\', '"']
  | '\\' => ['\\', '\\']
  | '\n' => ['\\', 'n']
  | '\r' => ['\\', 'r']
  | '\t' => ['\\', 't']
  | '\x08' => ['\\', 'b']
  | '\x0c' => ['\\', 'f']
  | c =>
    if c.toNat < 0x20 then
      let digits := Text.hexadecimal c.toNat
      ['\\', 'u'] ++ List.replicate (4 - digits.length) '0' ++ digits
    else [c]

/-- A string between quotes. -/
def stringText (text : String) : String :=
  String.ofList ('"' :: (text.toList.flatMap escapedChar ++ ['"']))

mutual

/-- **The document without any blanks.** -/
def compact : Json → String
  | null => "null"
  | number text => text
  | string text => stringText text
  | array items => "[" ++ ",".intercalate (compactItems items) ++ "]"
  | object members => "\x7b" ++ ",".intercalate (compactMembers members) ++ "\x7d"

/-- The items without any blanks. -/
def compactItems : List Json → List String
  | [] => []
  | item :: items => item.compact :: compactItems items

/-- The members without any blanks. -/
def compactMembers : List (String × Json) → List String
  | [] => []
  | (key, value) :: members =>
    (stringText key ++ ":" ++ value.compact) :: compactMembers members

end

/-- The blanks at the beginning of a line. -/
def indentation (depth : Nat) : String :=
  String.ofList (List.replicate (2 * depth) ' ')

/-- Entries on lines of their own between brackets. Brackets without entries stay
together. -/
def block (opening closing : String) (depth : Nat) (entries : List String) : String :=
  if entries.isEmpty then opening ++ closing
  else
    opening ++ "\n" ++ ",\n".intercalate (entries.map (indentation (depth + 1) ++ ·))
      ++ "\n" ++
      indentation depth ++ closing

mutual

/-- The document on indented lines, inside `depth` others. -/
def prettyAt (depth : Nat) : Json → String
  | null => "null"
  | number text => text
  | string text => stringText text
  | array items => block "[" "]" depth (prettyItems (depth + 1) items)
  | object members => block "\x7b" "\x7d" depth (prettyMembers (depth + 1) members)

/-- The items on indented lines. -/
def prettyItems (depth : Nat) : List Json → List String
  | [] => []
  | item :: items => item.prettyAt depth :: prettyItems depth items

/-- The members on indented lines. -/
def prettyMembers (depth : Nat) : List (String × Json) → List String
  | [] => []
  | (key, value) :: members =>
    (stringText key ++ ": " ++ value.prettyAt depth) :: prettyMembers depth members

end

/-- **The document on indented lines.** -/
def pretty (document : Json) : String :=
  document.prettyAt 0

end Json

end LatticeLP
