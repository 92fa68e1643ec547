import LatticeLP.Text.Unprintable
import LatticeLP.Text.Combining

/-!
# Quoted text

Text quoted in a message stands between double quotes and shows on one line, whatever it
contains. The quote, the backslash and the common control characters have a
two-character form; a character that could not be told apart on a screen – one without a
glyph, or one that attaches to its neighbour – is written by its number in hexadecimal;
every other character stands for itself.
-/

namespace LatticeLP.Text

/-- A natural number in hexadecimal. -/
def hexadecimal (n : Nat) : List Char :=
  Nat.toDigits 16 n

/-- The form of one character inside quotes. -/
def quotedChar (c : Char) : List Char :=
  match c with
  | '"' => ['\\', '"']
  | '\\' => ['\\', '\\']
  | '\n' => ['\\', 'n']
  | '\r' => ['\\', 'r']
  | '\t' => ['\\', 't']
  | '\x00' => ['\\', '0']
  | c =>
    if isCombining c || isUnprintable c then
      ['\\', 'u', '\x7b'] ++ hexadecimal c.toNat ++ ['\x7d']
    else [c]

/-- **A text between double quotes.** -/
def quoted (text : String) : String :=
  String.ofList ('"' :: (text.toList.flatMap quotedChar ++ ['"']))

end LatticeLP.Text
