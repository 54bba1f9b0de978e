import Prospectus.Text.Canonical.Decomposition
import Prospectus.Text.Canonical.Composition
import Prospectus.Text.Ranges

/-!
# The composed canonical form of a text

Two spellings of a text that only differ in how marked characters are put
together have the same composed form: every character is taken apart, marks are
sorted by combining class, and what can be composed is composed again.
-/

namespace Prospectus.Text

namespace Canonical

/-- The combining class of a code point; zero for a base character. -/
def combiningClass (n : Nat) : Nat :=
  if n < 0x300 then 0
  else match lastAtMost combiningRanges n 0 combiningRanges.size with
    | some (_, last, k) => if n ≤ last then k else 0
    | none => 0

/-- Arithmetic of Hangul syllables: first code points and counts of the three
kinds of letters. -/
def syllableBase : Nat := 0xAC00
@[inherit_doc syllableBase] def leadBase : Nat := 0x1100
@[inherit_doc syllableBase] def vowelBase : Nat := 0x1161
@[inherit_doc syllableBase] def tailBase : Nat := 0x11A7
@[inherit_doc syllableBase] def leadCount : Nat := 19
@[inherit_doc syllableBase] def vowelCount : Nat := 21
@[inherit_doc syllableBase] def tailCount : Nat := 28
@[inherit_doc syllableBase] def syllableCount : Nat :=
  leadCount * vowelCount * tailCount

/-- The full canonical decomposition of one code point. -/
def decompose (n : Nat) : List Nat :=
  if n < 0xC0 then [n]
  else if syllableBase ≤ n ∧ n < syllableBase + syllableCount then
    let s := n - syllableBase
    let lead := leadBase + s / (vowelCount * tailCount)
    let vowel := vowelBase + s % (vowelCount * tailCount) / tailCount
    let tail := s % tailCount
    if tail = 0 then [lead, vowel] else [lead, vowel, tailBase + tail]
  else match find? sequenceTable n with
    | some parts => parts
    | none => match find? singletonTable n with
      | some part => [part]
      | none => [n]

/-- The one code point that two canonically adjacent ones make, if they make
one. -/
def compose? (first second : Nat) : Option Nat :=
  if leadBase ≤ first ∧ first < leadBase + leadCount ∧
      vowelBase ≤ second ∧ second < vowelBase + vowelCount then
    some (syllableBase +
      ((first - leadBase) * vowelCount + (second - vowelBase)) * tailCount)
  else if syllableBase ≤ first ∧ first < syllableBase + syllableCount ∧
      (first - syllableBase) % tailCount = 0 ∧ tailBase < second ∧
      second < tailBase + tailCount then
    some (first + (second - tailBase))
  else if second < 0x300 then none
  else find? compositionTable (pairKey first second)

/-- A code point together with its combining class. -/
abbrev Mark := Nat × Nat

/-- Marks in the order of their classes; marks of one class keep their order. -/
def sortMarks (marks : List Mark) : List Mark :=
  marks.mergeSort fun a b => a.2 ≤ b.2

/-- Puts each maximal block of marks (class not zero) into canonical order.
`pending` holds the block being read, backwards. -/
def order (pending : List Mark) : List Mark → List Mark
  | [] => sortMarks pending.reverse
  | m :: rest =>
    if m.2 = 0 then sortMarks pending.reverse ++ m :: order [] rest
      else order (m :: pending) rest

/-- Composes what follows the starter `base`.  `kept` holds, backwards, the
marks after `base` that did not compose.  A code point is blocked from `base`
when something kept has a class that is not smaller than its own. -/
def composeFrom (base : Nat) (kept : List Mark) : List Mark → List Nat
  | [] => base :: kept.reverse.map (·.1)
  | (n, k) :: rest =>
    let blocked := match kept with
      | [] => false
      | (_, last) :: _ => k ≤ last
    match if blocked then none else compose? base n with
    | some whole => composeFrom whole kept rest
    | none =>
      if k = 0 then base :: kept.reverse.map (·.1) ++ composeFrom n [] rest
      else composeFrom base ((n, k) :: kept) rest

/-- Composes a sequence in canonical order; marks before the first starter stay
as they are. -/
def compose : List Mark → List Nat
  | [] => []
  | (n, k) :: rest => if k = 0 then composeFrom n [] rest else n :: compose rest

/-- The composed form of a sequence of code points. -/
def composedPoints (points : List Nat) : List Nat :=
  compose (order [] ((points.flatMap decompose).map fun n => (n, combiningClass n)))

end Canonical

/-- The composed canonical form of a text. -/
def composed (s : String) : String :=
  String.ofList ((Canonical.composedPoints (s.toList.map Char.toNat)).map
    Char.ofNat)

end Prospectus.Text
