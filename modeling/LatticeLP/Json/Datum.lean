import LatticeLP.Json.Numeric

/-!
# JSON texts

A JSON text is read into a tree that keeps everything that matters to a later decoder,
and nothing is refused before it is wanted: a string with an unpaired surrogate has no
characters but is a string, and a number beyond the range of doubles is a number. What
the grammar of JSON does not allow is refused wherever it stands.

Members of an object stay in order and may repeat.
-/

namespace LatticeLP

/-- A value in a JSON text. -/
inductive Datum where
  /-- The absence of a value. -/
  | null
  /-- A truth value. -/
  | boolean (value : Bool)
  /-- A number. -/
  | number (value : Numeric)
  /-- A string, with its characters if it has any that can be told. -/
  | string (text : Option String)
  /-- Values in order. -/
  | array (items : List Datum)
  /-- Named values in order. -/
  | object (members : List (Option String × Datum))

namespace Datum

/-- The blanks that may stand between the parts of a text. -/
def isBlank (c : Char) : Bool :=
  c = ' ' || c = '\t' || c = '\n' || c = '\r'

/-- What follows the blanks at the front of a text. -/
def skip (cs : List Char) : List Char :=
  cs.dropWhile isBlank

/-! ## Strings -/

/-- The value of a hexadecimal digit. -/
def hexValue? (c : Char) : Option Nat :=
  if c.isDigit then some (c.toNat - '0'.toNat)
  else if 'a' ≤ c ∧ c ≤ 'f' then some (c.toNat - 'a'.toNat + 10)
  else if 'A' ≤ c ∧ c ≤ 'F' then some (c.toNat - 'A'.toNat + 10)
  else none

/-- The number behind `\u`. -/
def hexUnit? : List Char → Option (Nat × List Char)
  | a :: b :: c :: d :: rest => do
    let ds ← [a, b, c, d].mapM hexValue?
    pure (ds.foldl (fun n digit => 16 * n + digit) 0, rest)
  | _ => none

/-- The character behind a backslash, if a single one stands for it. -/
def escape? : Char → Option Char
  | '"' => some '"'
  | '\\' => some '\\'
  | '/' => some '/'
  | 'b' => some '\x08'
  | 'f' => some '\x0c'
  | 'n' => some '\n'
  | 'r' => some '\r'
  | 't' => some '\t'
  | _ => none

/-- A piece of a string: a code unit of sixteen bits that was written as a number, or a
character. -/
inductive Piece where
  /-- A code unit. -/
  | unit (n : Nat)
  /-- A character. -/
  | char (c : Char)

/-- Put the pieces of a string together. A unit that is a surrogate must be followed by
its other half. -/
def join? : List Piece → Option (List Char)
  | [] => some []
  | .char c :: rest => (join? rest).map (c :: ·)
  | .unit n :: .unit m :: rest =>
    if 0xd800 ≤ n ∧ n < 0xdc00 then
      if 0xdc00 ≤ m ∧ m < 0xe000 then
        (join? rest).map (Char.ofNat (0x10000 + (n - 0xd800) * 0x400 + (m - 0xdc00)) :: ·)
      else none
    else if 0xdc00 ≤ n ∧ n < 0xe000 then none
    else (join? (.unit m :: rest)).map (Char.ofNat n :: ·)
  | .unit n :: rest =>
    if 0xd800 ≤ n ∧ n < 0xe000 then none else (join? rest).map (Char.ofNat n :: ·)

/-- Read the pieces of a string up to its closing quote. Control characters have to be
escaped. -/
def pieces? : (fuel : Nat) → List Char → Option (List Piece × List Char)
  | 0, _ => none
  | _, [] => none
  | fuel + 1, c :: rest =>
    if c = '"' then some ([], rest)
    else if c = '\\' then
      match rest with
      | 'u' :: rest => do
        let (n, rest) ← hexUnit? rest
        let (ps, rest) ← pieces? fuel rest
        pure (.unit n :: ps, rest)
      | e :: rest => do
        let escaped ← escape? e
        let (ps, rest) ← pieces? fuel rest
        pure (.char escaped :: ps, rest)
      | [] => none
    else if c.toNat < 0x20 then none
    else do
      let (ps, rest) ← pieces? fuel rest
      pure (.char c :: ps, rest)

/-- Read a string behind its opening quote. -/
def string? (cs : List Char) : Option (Option String × List Char) := do
  let (ps, rest) ← pieces? (cs.length + 1) cs
  pure ((join? ps).map String.ofList, rest)

/-! ## Values -/

mutual

/-- Read a value. -/
def value? : (fuel : Nat) → List Char → Option (Datum × List Char)
  | 0, _ => none
  | fuel + 1, cs =>
    match skip cs with
    | 'n' :: 'u' :: 'l' :: 'l' :: rest => some (null, rest)
    | 't' :: 'r' :: 'u' :: 'e' :: rest => some (boolean true, rest)
    | 'f' :: 'a' :: 'l' :: 's' :: 'e' :: rest => some (boolean false, rest)
    | '"' :: rest => (string? rest).map fun (text, rest) => (string text, rest)
    | '[' :: rest =>
      match skip rest with
      | ']' :: rest => some (array [], rest)
      | rest => (items? fuel rest).map fun (items, rest) => (array items, rest)
    | '\x7b' :: rest =>
      match skip rest with
      | '\x7d' :: rest => some (object [], rest)
      | rest => (members? fuel rest).map fun (members, rest) => (object members, rest)
    | rest => (Numeric.read? rest).map fun (value, rest) => (number value, rest)

/-- Read the items of an array, of which there is one at least, and its closing
bracket. -/
def items? : (fuel : Nat) → List Char → Option (List Datum × List Char)
  | 0, _ => none
  | fuel + 1, cs => do
    let (item, rest) ← value? fuel cs
    match skip rest with
    | ',' :: rest =>
      let (items, rest) ← items? fuel rest
      pure (item :: items, rest)
    | ']' :: rest => pure ([item], rest)
    | _ => none

/-- Read the members of an object, of which there is one at least, and its closing
brace. -/
def members? :
    (fuel : Nat) → List Char → Option (List (Option String × Datum) × List Char)
  | 0, _ => none
  | fuel + 1, cs =>
    match skip cs with
    | '"' :: rest => do
      let (key, rest) ← string? rest
      match skip rest with
      | ':' :: rest =>
        let (value, rest) ← value? fuel rest
        match skip rest with
        | ',' :: rest =>
          let (members, rest) ← members? fuel rest
          pure ((key, value) :: members, rest)
        | '\x7d' :: rest => pure ([(key, value)], rest)
        | _ => none
      | _ => none
    | _ => none

end

/-- **Read a JSON text**, which holds one value and nothing else but blanks. -/
def read? (text : String) : Option Datum := do
  let cs := text.toList
  let (value, rest) ← value? (cs.length + 1) cs
  if (skip rest).isEmpty then pure value else none

end Datum

end LatticeLP
