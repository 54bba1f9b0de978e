import Prospectus.Json.Value
import Prospectus.Text.Utf16

/-!
# Reading JSON

`Value.read?` accepts the standard grammar: no leading zeros, no control
characters inside strings, nothing after the value but blanks.  Each step of the
reader gives back what it has not read.
-/

namespace Prospectus.Json

/-- Blanks between the parts of a value. -/
def isSpace (c : Char) : Bool := c = ' ' || c = '\n' || c = '\t' || c = '\r'

/-- What follows any blanks. -/
def skipSpace (cs : List Char) : List Char := cs.dropWhile isSpace

/-- The value of a hexadecimal digit. -/
def hexValue? (c : Char) : Option Nat :=
  if '0' ≤ c ∧ c ≤ '9' then some (c.toNat - '0'.toNat)
  else if 'a' ≤ c ∧ c ≤ 'f' then some (c.toNat - 'a'.toNat + 10)
  else if 'A' ≤ c ∧ c ≤ 'F' then some (c.toNat - 'A'.toNat + 10)
  else none

/-- Four hexadecimal digits as a UTF-16 unit. -/
def hexUnit? (a b c d : Char) : Option UInt16 := do
  let n := (((← hexValue? a) * 16 + (← hexValue? b)) * 16 + (← hexValue? c)) *
    16 + (← hexValue? d)
  return n.toUInt16

/-- A piece of a string: a character, or a unit named by an escape. -/
abbrev Piece := Char ⊕ UInt16

/-- The character that a letter after a backslash stands for. -/
def escapeOf? : Char → Option Char
  | '"' => some '"'
  | '\\' => some '\\'
  | '/' => some '/'
  | 'b' => some '\x08'
  | 'f' => some '\x0c'
  | 'n' => some '\n'
  | 'r' => some '\r'
  | 't' => some '\t'
  | _ => none

/-- The pieces of a string up to its closing quote. -/
def readPieces : List Char → Option (List Piece × List Char)
  | [] => none
  | '"' :: rest => some ([], rest)
  | '\\' :: 'u' :: a :: b :: c :: d :: rest => do
    let unit ← hexUnit? a b c d
    let (pieces, rest) ← readPieces rest
    return (.inr unit :: pieces, rest)
  | '\\' :: c :: rest => do
    let char ← escapeOf? c
    let (pieces, rest) ← readPieces rest
    return (.inl char :: pieces, rest)
  | c :: rest =>
    if c.toNat < 0x20 then none
    else (readPieces rest).map fun (pieces, rest) => (.inl c :: pieces, rest)

/-- The characters of a string's pieces; `none` if half of a surrogate pair
stands alone. -/
def joinPieces : List Piece → Option (List Char)
  | [] => some []
  | .inl c :: rest => (joinPieces rest).map (c :: ·)
  | .inr u :: .inr v :: rest =>
    if Text.isHighSurrogate u && Text.isLowSurrogate v then
      (joinPieces rest).map (Text.pairSurrogates u v :: ·)
    else if Text.isHighSurrogate u || Text.isLowSurrogate u then none
    else (joinPieces (.inr v :: rest)).map (Char.ofNat u.toNat :: ·)
  | .inr u :: rest =>
    if Text.isHighSurrogate u || Text.isLowSurrogate u then none
    else (joinPieces rest).map (Char.ofNat u.toNat :: ·)

/-- A string after its opening quote. -/
def readString (cs : List Char) : Option (StringBody × List Char) :=
  (readPieces cs).map fun (pieces, rest) =>
    ((joinPieces pieces).map String.ofList, rest)

/-- One or more digits. -/
def readDigits (cs : List Char) : Option (List Char × List Char) :=
  let digits := cs.takeWhile Char.isDigit
  if digits.isEmpty then none else some (digits, cs.drop digits.length)

/-- The digits before the point; a zero at their start stands alone. -/
def readWhole (cs : List Char) : Option (List Char × List Char) := do
  let (digits, rest) ← readDigits cs
  if digits.head? = some '0' && 1 < digits.length then none else some (digits, rest)

/-- A point and digits, if there is a point. -/
def readFraction : List Char → Option (List Char × List Char)
  | '.' :: rest => readDigits rest
  | cs => some ([], cs)

/-- Whether a minus sign comes first, and what follows it. -/
def splitMinus : List Char → Bool × List Char
  | '-' :: rest => (true, rest)
  | cs => (false, cs)

/-- Whether an exponent is negative, and what follows its sign, if it has one. -/
def splitSign : List Char → Bool × List Char
  | '+' :: rest => (false, rest)
  | cs => splitMinus cs

/-- An exponent, if there is one: whether it is negative, and its digits. -/
def readExponent : List Char → Option (Option (Bool × List Char) × List Char)
  | 'e' :: rest | 'E' :: rest =>
    let (negative, rest) := splitSign rest
    (readDigits rest).map fun (digits, rest) => (some (negative, digits), rest)
  | cs => some (none, cs)

/-- A number. -/
def readNumber (cs : List Char) : Option (Number.Numeral × List Char) := do
  let (negative, cs) := splitMinus cs
  let (whole, cs) ← readWhole cs
  let (fraction, cs) ← readFraction cs
  let (exponent, cs) ← readExponent cs
  return ({ negative, whole, fraction, exponent }, cs)

/-- The name of a field and the colon after it. -/
def readName (cs : List Char) : Option (StringBody × List Char) :=
  match skipSpace cs with
  | '"' :: rest => do
    let (name, rest) ← readString rest
    match skipSpace rest with
    | ':' :: rest => some (name, rest)
    | _ => none
  | _ => none

mutual

/-- A value, after any blanks. -/
def readValue : Nat → List Char → Option (Value × List Char)
  | 0, _ => none
  | fuel + 1, cs =>
    match skipSpace cs with
    | 'n' :: 'u' :: 'l' :: 'l' :: rest => some (.null, rest)
    | 't' :: 'r' :: 'u' :: 'e' :: rest => some (.bool true, rest)
    | 'f' :: 'a' :: 'l' :: 's' :: 'e' :: rest => some (.bool false, rest)
    | '"' :: rest => (readString rest).map fun (s, rest) => (.string s, rest)
    | '[' :: rest =>
      match skipSpace rest with
      | ']' :: rest => some (.array [], rest)
      | _ => (readItems fuel rest).map fun (items, rest) => (.array items, rest)
    | '\x7b' :: rest =>
      match skipSpace rest with
      | '\x7d' :: rest => some (.object [], rest)
      | _ => (readFields fuel rest).map fun (fields, rest) => (.object fields, rest)
    | cs => (readNumber cs).map fun (n, rest) => (.number n, rest)

/-- One or more items and the bracket that closes them. -/
def readItems : Nat → List Char → Option (List Value × List Char)
  | 0, _ => none
  | fuel + 1, cs => do
    let (v, rest) ← readValue fuel cs
    match skipSpace rest with
    | ',' :: rest =>
      (readItems fuel rest).map fun (items, rest) => (v :: items, rest)
    | ']' :: rest => some ([v], rest)
    | _ => none

/-- One or more fields and the brace that closes them. -/
def readFields : Nat → List Char → Option (List (StringBody × Value) × List Char)
  | 0, _ => none
  | fuel + 1, cs => do
    let (name, rest) ← readName cs
    let (v, rest) ← readValue fuel rest
    match skipSpace rest with
    | ',' :: rest =>
      (readFields fuel rest).map fun (fields, rest) => ((name, v) :: fields, rest)
    | '\x7d' :: rest => some ([(name, v)], rest)
    | _ => none

end

/-- The value that a text is. -/
def Value.read? (s : String) : Option Value :=
  let cs := s.toList
  match readValue (cs.length + 1) cs with
  | some (v, rest) => if (skipSpace rest).isEmpty then some v else none
  | none => none

end Prospectus.Json
