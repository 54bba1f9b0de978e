import Prospectus.Json.Value

/-!
# Writing JSON

A value is written without blanks, or over several lines with two blanks for
each level.  Characters below the space, the quote and the backslash are
escaped; all others stand for themselves.
-/

namespace Prospectus.Json

/-- A digit of a hexadecimal number, in lower case. -/
def hexDigit (n : Nat) : Char := Nat.digitChar n

/-- One character of a string. -/
def escapeChar (c : Char) : List Char :=
  if c = '"' then ['\\', '"']
  else if c = '\\' then ['\\', '\\']
  else if c = '\x08' then ['\\', 'b']
  else if c = '\t' then ['\\', 't']
  else if c = '\n' then ['\\', 'n']
  else if c = '\x0c' then ['\\', 'f']
  else if c = '\r' then ['\\', 'r']
  else if c.toNat < 0x20
    then ['\\', 'u', '0', '0', hexDigit (c.toNat / 16), hexDigit (c.toNat % 16)]
  else [c]

/-- The characters of a string, with its quotes.  A body that is no text is
written as the replacement character. -/
def stringChars : StringBody → List Char
  | some s => '"' :: s.toList.flatMap escapeChar ++ ['"']
  | none => ['"', '�', '"']

mutual

/-- The characters of a value without blanks. -/
def compactChars : Value → List Char
  | .null => ['n', 'u', 'l', 'l']
  | .bool true => ['t', 'r', 'u', 'e']
  | .bool false => ['f', 'a', 'l', 's', 'e']
  | .number n => n.chars
  | .string s => stringChars s
  | .array items => '[' :: compactItems items ++ [']']
  | .object fields => '\x7b' :: compactFields fields ++ ['\x7d']

/-- Items separated by commas. -/
def compactItems : List Value → List Char
  | [] => []
  | [v] => compactChars v
  | v :: rest => compactChars v ++ ',' :: compactItems rest

/-- Fields separated by commas. -/
def compactFields : List (StringBody × Value) → List Char
  | [] => []
  | [(name, v)] => stringChars name ++ ':' :: compactChars v
  | (name, v) :: rest =>
    stringChars name ++ ':' :: compactChars v ++ ',' :: compactFields rest

end

/-- A new line, indented to a level. -/
def newLine (level : Nat) : List Char := '\n' :: List.replicate (2 * level) ' '

mutual

/-- The characters of a value over several lines, at a level of indentation. -/
def prettyChars (level : Nat) : Value → List Char
  | .array [] => ['[', ']']
  | .array items => '[' :: prettyItems (level + 1) items ++ newLine level ++ [']']
  | .object [] => ['\x7b', '\x7d']
  | .object fields =>
    '\x7b' :: prettyFields (level + 1) fields ++ newLine level ++ ['\x7d']
  | .null => ['n', 'u', 'l', 'l']
  | .bool true => ['t', 'r', 'u', 'e']
  | .bool false => ['f', 'a', 'l', 's', 'e']
  | .number n => n.chars
  | .string s => stringChars s

/-- Items on lines of their own. -/
def prettyItems (level : Nat) : List Value → List Char
  | [] => []
  | [v] => newLine level ++ prettyChars level v
  | v :: rest =>
    newLine level ++ prettyChars level v ++ ',' :: prettyItems level rest

/-- Fields on lines of their own. -/
def prettyFields (level : Nat) : List (StringBody × Value) → List Char
  | [] => []
  | [(name, v)] =>
    newLine level ++ stringChars name ++ ':' :: ' ' :: prettyChars level v
  | (name, v) :: rest =>
    newLine level ++ stringChars name ++ ':' :: ' ' :: prettyChars level v ++
      ',' :: prettyFields level rest

end

/-- The text of a value without blanks. -/
def Value.compact (v : Value) : String := String.ofList (compactChars v)

/-- The text of a value over several lines. -/
def Value.pretty (v : Value) : String := String.ofList (prettyChars 0 v)

end Prospectus.Json
