import Prospectus.Text.Blank
import Prospectus.Text.Digit
import Prospectus.Time.Calendar

/-!
# Moments in universal time

A moment is a date and a time of day in UTC, and carries the proof that both
exist.  `Moment.text` writes it as `2024-01-15T10:30:45Z`, with three, six or
nine digits of a fraction when it has one; `Moment.read?` reads such a text,
also with an offset from UTC, which is taken away.

Any second may have a second or more of nanoseconds.  In the last second of a
minute that is a leap second, which is written `:60`; elsewhere it is written as
the next second.
-/

namespace Prospectus.Time

/-- A moment in UTC. -/
structure Moment where
  date : Date
  hour : Nat := 0
  minute : Nat := 0
  second : Nat := 0
  /-- Nanoseconds; at least `10 ^ 9` within a leap second. -/
  nanos : Nat := 0
  isValid_date : date.isValid = true := by decide
  hour_lt : hour < 24 := by decide
  minute_lt : minute < 60 := by decide
  second_lt : second < 60 := by decide
  nanos_lt : nanos < 2000000000 := by decide
deriving Repr, DecidableEq

/-- The beginning of 1970. -/
def Moment.epoch : Moment := { date := ⟨1970, 1, 1⟩ }

/-- The moment of a date and a time of day, if both exist. -/
def Moment.ofFields? (year : Int) (month day hour minute second nanos : Nat) :
    Option Moment :=
  if h : (⟨year, month, day⟩ : Date).isValid = true ∧ hour < 24 ∧ minute < 60 ∧
      second < 60 ∧
      nanos < 2000000000 then
    some ⟨⟨year, month, day⟩, hour, minute, second, nanos, h.1, h.2.1, h.2.2.1,
      h.2.2.2.1, h.2.2.2.2⟩
  else none

/-- A number in decimal digits, filled with zeros on the left up to a width. -/
def padded (width n : Nat) : String :=
  let digits := Nat.toDigits 10 n
  String.ofList (List.replicate (width - digits.length) '0' ++ digits)

/-- A year in four digits, with a sign outside of 0 to 9999. -/
def yearText (year : Int) : String :=
  if year < 0 then "-" ++ padded 4 year.natAbs
  else if 9999 < year then "+" ++ padded 4 year.natAbs
  else padded 4 year.natAbs

/-- A date as `2024-01-15`. -/
def Date.text (d : Date) : String :=
  yearText d.year ++ "-" ++ padded 2 d.month ++ "-" ++ padded 2 d.day

/-- The fraction of a second in as few groups of three digits as hold it. -/
def fractionText (nanos : Nat) : String :=
  if nanos = 0 then ""
  else if nanos % 1000000 = 0 then "." ++ padded 3 (nanos / 1000000)
  else if nanos % 1000 = 0 then "." ++ padded 6 (nanos / 1000)
  else "." ++ padded 9 nanos

/-- The time of day as `10:30:45`, with its fraction. -/
def Moment.timeText (m : Moment) : String :=
  let (second, nanos) := if 1000000000 ≤ m.nanos
    then (m.second + 1, m.nanos - 1000000000) else (m.second, m.nanos)
  padded 2 m.hour ++ ":" ++ padded 2 m.minute ++ ":" ++ padded 2 second ++
    fractionText nanos

/-- The moment as `2024-01-15T10:30:45Z`. -/
def Moment.text (m : Moment) : String := m.date.text ++ "T" ++ m.timeText ++ "Z"

/-- Seconds from the beginning of 1970 to a moment; a leap second has the number
of the second that it follows. -/
def Moment.seconds (m : Moment) : Int :=
  m.date.toDays * 86400 + (m.hour * 3600 + m.minute * 60 + m.second : Nat)

/-- The moment with a number of seconds and a number of nanoseconds, if its date
is in the calendar. -/
def Moment.ofSeconds? (total : Int) (nanos : Nat) : Option Moment :=
  let date := Date.ofDays (total / 86400)
  let rest := (total % 86400).toNat
  ofFields? date.year date.month date.day (rest / 3600) (rest % 3600 / 60)
    (rest % 60) nanos

/-- The moment that many seconds earlier; the fraction of a second stays. -/
def Moment.minusSeconds? (m : Moment) (seconds : Int) : Option Moment :=
  ofSeconds? (m.seconds - seconds) m.nanos

namespace Reading

/-- At most `width` ASCII digits, at least one, after any blanks; with what
follows them. -/
def number (width : Nat) (cs : List Char) : Option (Nat × List Char) :=
  let cs := Text.dropBlanks cs
  let digits := (cs.takeWhile Char.isDigit).take width
  (Text.digitsValue? digits).map fun n => (n, cs.drop digits.length)

/-- A year: four digits, or any number of them after a sign. -/
def year (cs : List Char) : Option (Int × List Char) :=
  match Text.dropBlanks cs with
  | '-' :: rest =>
    let digits := rest.takeWhile Char.isDigit
    (Text.digitsValue? digits).map fun n => (-(n : Int), rest.drop digits.length)
  | '+' :: rest =>
    let digits := rest.takeWhile Char.isDigit
    (Text.digitsValue? digits).map fun n => ((n : Int), rest.drop digits.length)
  | cs => (number 4 cs).map fun (n, rest) => ((n : Int), rest)

/-- The rest after a mark that may have blanks before it. -/
def mark (c : Char) (cs : List Char) : Option (List Char) :=
  match Text.dropBlanks cs with
  | d :: rest => if d = c then some rest else none
  | [] => none

/-- A fraction of a second, in nanoseconds; digits after the ninth are passed
over. -/
def fraction (cs : List Char) : Option (Nat × List Char) :=
  match cs with
  | '.' :: rest =>
    let all := rest.takeWhile Char.isDigit
    let digits := all.take 9
    (Text.digitsValue? digits).map fun n =>
      (n * Nat.pow 10 (9 - digits.length), rest.drop all.length)
  | _ => some (0, cs)

/-- Two ASCII digits. -/
def twoDigits : List Char → Option (Nat × List Char)
  | a :: b :: rest => do pure (10 * (← Text.digitValue? a) +
    (← Text.digitValue? b), rest)
  | _ => none

/-- An offset from UTC in seconds: a letter Z, the letters UTC, or a sign with
hours and minutes. -/
def offset (cs : List Char) : Option (Int × List Char) :=
  match Text.dropBlanks cs with
  | 'Z' :: rest | 'z' :: rest => some (0, rest)
  | sign :: rest => do
    let upper := (sign :: rest.take 2).map Char.toUpper
    if upper = ['U', 'T', 'C'] then return (0, rest.drop 2)
    if !(sign = '+' || sign = '-' || sign = '−') then failure
    let (hours, rest) ← twoDigits rest
    let (minutes, rest) ← twoDigits (rest.dropWhile fun c => c = ':' ||
      Text.isBlank c)
    if 59 < minutes || 23 < hours then failure
    let seconds : Int := (hours * 3600 + minutes * 60 : Nat)
    return (if sign = '+' then seconds else -seconds, rest)
  | [] => none

end Reading

/-- The moment that a text in the form `2024-01-15T10:30:45+01:00` names. -/
def Moment.read? (s : String) : Option Moment := do
  let (year, rest) ← Reading.year s.toList
  let (month, rest) ← Reading.number 2 (← Reading.mark '-' rest)
  let (day, rest) ← Reading.number 2 (← Reading.mark '-' rest)
  let rest ← match rest with
    | 'T' :: rest | 't' :: rest | ' ' :: rest => some rest
    | _ => none
  let (hour, rest) ← Reading.number 2 rest
  let (minute, rest) ← Reading.number 2 (← Reading.mark ':' rest)
  let (second, rest) ← Reading.number 2 (← Reading.mark ':' rest)
  let (nanos, rest) ← Reading.fraction rest
  let (offset, rest) ← Reading.offset rest
  if !(Text.dropBlanks rest).isEmpty then failure
  let shown ← if second = 60
    then Moment.ofFields? year month day hour minute 59 (1000000000 + nanos)
    else Moment.ofFields? year month day hour minute second nanos
  shown.minusSeconds? offset

end Prospectus.Time
