import Prospectus.Text.Quoted.Table
import Prospectus.Text.Ranges
import Prospectus.Text.Unassigned

/-!
# Quoted text

How a text is shown inside a message: between double quotes, with the quote and
the backslash escaped, four control characters by letter, and every character
that would not show, or would attach to the one before it, by its code point.
-/

namespace Prospectus.Text

namespace Quoted

/-- A number in lower-case hexadecimal digits, without leading zeros. -/
def hex (n : Nat) : List Char := Nat.toDigits 16 n

/-- Whether a character is written as it is. -/
def isPlain (c : Char) : Bool :=
  if c.toNat < 0x7F then 0x20 ≤ c.toNat
  else !inRanges extenderRanges c.toNat && !inRanges hiddenRanges c.toNat &&
    !inRanges unassignedRanges c.toNat

/-- One character of a quoted text. -/
def encodeChar (c : Char) : List Char :=
  match c with
  | '"' => ['\\', '"']
  | '\\' => ['\\', '\\']
  | '\t' => ['\\', 't']
  | '\r' => ['\\', 'r']
  | '\n' => ['\\', 'n']
  | '\x00' => ['\\', '0']
  | _ => if isPlain c then [c] else ['\\', 'u', '\x7b'] ++ hex c.toNat ++ ['\x7d']

end Quoted

/-- A text between double quotes, with what would not show escaped. -/
def quoted (s : String) : String :=
  String.ofList ('"' :: s.toList.flatMap Quoted.encodeChar ++ ['"'])

end Prospectus.Text
