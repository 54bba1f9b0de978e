import Prospectus.Summary.Url.Parts
import Prospectus.Summary.Url.Percent

/-!
# Numeric addresses of eight groups

Eight groups of up to four hexadecimal digits, divided by colons.  Two colons
stand, once, for as many zero groups as are missing, and the last two groups may
be written as four decimal bytes.  The shortest text puts two colons for the
first of the longest runs of zero groups.
-/

namespace Prospectus.Summary.Url.Ipv6

/-- The number that hexadecimal digits write. -/
def number (digits : List Char) : Nat :=
  digits.foldl (fun n c => 16 * n + (hexValue? c).getD 0) 0

/-- A decimal byte without leading zeros. -/
def byte? (digits : List Char) : Option Nat :=
  let n := digits.foldl (fun n c => 10 * n + (c.toNat - '0'.toNat)) 0
  if digits.isEmpty || !digits.all Char.isDigit || 255 < n ||
    (1 < digits.length && digits.head? = some '0') then none
  else some n

/-- Two groups written as four decimal bytes. -/
def bytes? (cs : List Char) : Option (List Nat) := do
  match ← (split (· = '.') [] cs).mapM byte? with
  | [a, b, c, d] => return [256 * a + b, 256 * c + d]
  | _ => failure

/-- Groups as they are written, and how many of them stand before the end of the
gap. -/
structure Written where
  groups : List Nat
  gap : Option Nat

/-- Reads groups; `done`, given backwards, are those before, a zero for the gap
among them. -/
def readFrom (done : List Nat) (gap : Option Nat) (cs : List Char) :
    Option Written :=
  let digits := (cs.take 4).takeWhile fun c => (hexValue? c).isSome
  if cs.isEmpty then some ⟨done.reverse, gap⟩
  else if 8 ≤ done.length then none
  else match _h : cs.drop digits.length with
    | [] => some ⟨(number digits :: done).reverse, gap⟩
    | c :: rest =>
      if c = ':' then
        if digits.isEmpty then
          if gap.isSome then none
            else readFrom (0 :: done) (some (done.length + 1)) rest
        else if rest.isEmpty then none
        else readFrom (number digits :: done) gap rest
      else if c = '.' && !digits.isEmpty && done.length ≤ 6 then
        (bytes? cs).map fun last => ⟨done.reverse ++ last, gap⟩
      else none
termination_by cs.length
decreasing_by
  all_goals
    have hlen := congrArg List.length _h
    simp only [List.length_drop, List.length_cons] at hlen
    omega

/-- The eight groups, with zeros in the gap. -/
def Written.fill? (w : Written) : Option (List Nat) :=
  match w.gap with
  | some n =>
    some (w.groups.take n ++ List.replicate (8 - w.groups.length) 0 ++
      w.groups.drop n)
  | none => if w.groups.length = 8 then some w.groups else none

/-- The eight groups of an address. -/
def read? (cs : List Char) : Option (List Nat) := do
  let written ← match cs with
    | ':' :: ':' :: rest => readFrom [0] (some 1) rest
    | ':' :: _ => none
    | _ => readFrom [] none cs
  written.fill?

/-- How many zero groups stand from a position on. -/
def zerosFrom (groups : List Nat) (start : Nat) : Nat :=
  ((groups.drop start).takeWhile (· = 0)).length

/-- Where the first of the longest runs of zero groups starts, and its length. -/
def longestZeros (groups : List Nat) : Nat × Nat :=
  (List.range groups.length).foldl
    (fun best start => if best.2 < zerosFrom groups start
      then (start, zerosFrom groups start) else best) (0, 0)

/-- An address as text. -/
def text (groups : List Nat) : String :=
  let join (part : List Nat) : String :=
    ":".intercalate (part.map fun n => String.ofList (Nat.toDigits 16 n))
  let (start, count) := longestZeros groups
  if count < 2 then join groups
    else join (groups.take start) ++ "::" ++ join (groups.drop (start + count))

end Prospectus.Summary.Url.Ipv6
