import Prospectus.Pdf.Object.Reader
import Prospectus.Pdf.ToUnicode

/-!
# Reading maps to Unicode

A map is written as a small program of fixed shape: a prologue, one to four
lines about the map, sections of codes, and an epilogue.  What departs from that
shape is no map.  Words that belong together are divided by spaces and tabs,
statements by any blanks.
-/

namespace Prospectus.Pdf.ToUnicode

open Read

/-- Reads what it names off the front of some bytes. -/
abbrev Rule (α : Type) := Bytes → Option (α × Bytes)

/-- A space or a tab. -/
def isBlank (b : UInt8) : Bool := b = 32 || b = 9

/-- The rest after spaces and tabs. -/
def blanks (bs : Bytes) : Bytes := bs.dropWhile isBlank

/-- The rest after at least one space or tab. -/
def blank (bs : Bytes) : Option Bytes :=
  if bs.head?.any isBlank then some (blanks bs) else none

/-- The rest after blanks and ends of lines. -/
def gaps (bs : Bytes) : Bytes := bs.dropWhile fun b => isBlank b || isLineEnd b

/-- The rest after at least one blank or end of a line. -/
def gap (bs : Bytes) : Option Bytes :=
  if bs.head?.any fun b => isBlank b || isLineEnd b then some (gaps bs) else none

/-- The rest after words that are divided by blanks. -/
def words : List String → Bytes → Option Bytes
  | [], bs => some bs
  | [word], bs => tag word bs
  | word :: more, bs => do words more (← blank (← tag word bs))

/-- The rest after at least one digit. -/
def number (bs : Bytes) : Option Bytes :=
  if bs.head?.any isDigit then some (bs.dropWhile isDigit) else none

/-- The rest after what is read at least once. -/
def many {α : Type} (rule : Rule α) : Nat → Rule (List α)
  | 0, _ => none
  | fuel + 1, bs => do
    let (a, rest) ← rule bs
    match many rule fuel rest with
    | some (more, rest) => return (a :: more, rest)
    | none => return ([a], rest)

/-- What is read at least once. -/
def many1 {α : Type} (rule : Rule α) : Rule (List α) :=
  fun bs => many rule (bs.length + 1) bs

/-- The words before the map itself. -/
def prologue (bs : Bytes) : Option Bytes := do
  let rest := blanks (← tag "/CIDInit" (skip bs))
  let rest ← tag "/ProcSet" rest <|> tag "/Procset" rest
  let rest ← words ["findresource", "begin"] (← blank rest)
  let rest ← number (skip (← lineEnd rest))
  let rest ← words ["dict", "begin"] (← blank rest)
  gap (← tag "begincmap" (skip (← lineEnd rest)))

/-- A dictionary written entry by entry between `begin` and `end`. -/
def entryList : Nat → Bytes → Option Bytes
  | 0, _ => none
  | fuel + 1, bs =>
    match tag "end" bs with
    | some rest => some rest
    | none => do
      let (_, rest) ← name bs
      let (_, rest) ← directAt (skip rest)
      entryList fuel (skip (← tag "def" (skip rest)))

/-- The description of the system of codes. -/
def system (bs : Bytes) : Option Bytes := do
  let rest := gaps (← tag "/CIDSystemInfo" bs)
  match dictionaryAt rest with
  | some (_, rest) => return rest
  | none =>
    let rest ← words ["dict", "dup", "begin"] (← blank (← number rest))
    entryList rest.length (skip rest)

/-- A line about the map. -/
def property (bs : Bytes) : Option Bytes := do
  let rest ←
    (system bs).map gaps
    <|> (do blank (← name (blanks (← tag "/CMapName" bs))).2)
    <|> (do blank (← number (← blank (← tag "/CMapType" bs))))
  gap (← tag "def" rest)

/-- How many lines about the map there may be. -/
def maxProperties : Nat := 4

/-- The rest after at most so many further lines about the map. -/
def properties : Nat → Bytes → Bytes
  | 0, bs => bs
  | n + 1, bs =>
    match property bs with
    | some rest => properties n rest
    | none => bs

/-- One byte, written with two hexadecimal digits. -/
def byte : Rule UInt8
  | a :: b :: rest => do return ((← hexValue? a) * 16 + (← hexValue? b), rest)
  | _ => none

/-- One unit, written with four hexadecimal digits. -/
def unit : Rule UInt16 := fun bs => do
  let (high, rest) ← byte bs
  let (low, rest) ← byte rest
  return (high.toUInt16 <<< 8 ||| low.toUInt16, rest)

/-- What stands in angle brackets, at least one and at most so many. -/
def bracketed {α : Type} (rule : Rule α) (limit : Nat) : Rule (List α) :=
  fun bs => do
  let (items, rest) ← many1 rule (← tag "<" bs)
  if limit < items.length then failure
  return (items, ← tag ">" rest)

/-- A code: its length in bytes and its value. -/
def code : Rule (Nat × Nat) := fun bs => do
  let (bytes, rest) ← bracketed byte 4 bs
  return ((bytes.length, valueOf bytes), rest)

/-- The units that a code stands for. -/
def target : Rule (List UInt16) := bracketed unit 256

/-- The first and the last of a range of codes, which have one length. -/
def range : Rule (Nat × Nat × Nat) := fun bs => do
  let ((length, first), rest) ← code bs
  let ((length', last), rest) ← code (blanks rest)
  if length ≠ length' then failure
  return ((length, first, last), rest)

/-- A code with its units. -/
def charLine : Rule (List Span) := fun bs => do
  let ((length, code), rest) ← code bs
  let (units, rest) ← target (blanks rest)
  return ([⟨length, code, code, .ofUnits code units⟩], ← gap rest)

/-- The units of each code of a range, in square brackets. -/
def targetList : Rule (List (List UInt16)) := fun bs => do
  let (targets, rest) ← many1 (fun bs => (target bs).map fun (units, rest) =>
    (units, blanks rest))
    (blanks (← tag "[" bs))
  return (targets, ← tag "]" rest)

/-- A range of codes with the units of the first, or with those of each. -/
def rangeLine : Rule (List Span) := fun bs => do
  let ((length, first, last), rest) ← range bs
  let rest := blanks rest
  let (targets, rest) ← targetList rest <|>
    (target rest).map fun (units, rest) => ([units], rest)
  let target := match targets with
    | [units] => Target.ofUnits first units
    | _ => .listed targets
  return ([⟨length, first, last, target⟩], ← gap rest)

/-- A range of codes that the map may be asked for. -/
def codeSpaceLine : Rule (List Span) := fun bs => do
  let (_, rest) ← range bs
  return ([], ← gap rest)

/-- A section of lines between words for its kind. -/
def sectionOf (kind : String) (line : Rule (List Span)) : Rule (List Span) :=
  fun bs => do
  let rest ← tag ("begin" ++ kind) (← blank (← number bs))
  let (lines, rest) ← many1 line (← gap rest)
  return (lines.flatten, ← gap (← tag ("end" ++ kind) rest))

/-- A section of any kind. -/
def anySection : Rule (List Span) := fun bs =>
  sectionOf "codespacerange" codeSpaceLine bs
  <|> sectionOf "bfchar" charLine bs
  <|> sectionOf "bfrange" rangeLine bs

/-- The words after the map itself. -/
def epilogue (bs : Bytes) : Option Bytes := do
  let rest ← gap (← tag "endcmap" bs)
  let rest ← words ["CMapName", "currentdict", "/CMap", "defineresource", "pop"]
    rest
  tag "end" (← gap (← tag "end" (← gap rest)))

/-- The map that bytes write, if all its ranges run upwards. -/
def read? (bytes : Bytes) : Option ToUnicode := do
  let rest ← property (← prologue bytes)
  let (sections, rest) ← many1 anySection (properties (maxProperties - 1) rest)
  let _ ← epilogue rest
  let spans := sections.flatten
  if spans.any fun s => s.last < s.first then failure
  return spans.foldl insert {}

end Prospectus.Pdf.ToUnicode
