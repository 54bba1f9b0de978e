import Prospectus.Summary.Url.Domain.Mapping
import Prospectus.Summary.Url.Domain.Punycode
import Prospectus.Summary.Url.Parts
import Prospectus.Text.Direction
import Prospectus.Text.Joining

/-!
# Names of hosts

A name is a sequence of labels divided by dots.  It is looked up in ASCII: each
label is simplified, checked, and, if it has other characters, written as `xn--`
with the label in digits after it.  A label that is given so already is read
back and has to pass the same checks.
-/

namespace Prospectus.Summary.Url.Domain

/-- ASCII characters that no name may have. -/
def isForbidden (c : Char) : Bool :=
  c.toNat ≤ 0x20 || c.toNat = 0x7F ||
    ['%', '#', '/', ':', '<', '>', '?', '@', '[', '\\', ']', '^', '|'].contains c

/-- Marks a label that is written in digits. -/
def marker : List Char := ['x', 'n', '-', '-']

/-- Whether a label is in ASCII. -/
def isAscii (label : List Char) : Bool := label.all (·.toNat < 0x80)

/-- A simplified label as it reads: one in digits is read back, and has to be a
simple label that needs them. -/
def reading? (label : List Char) : Option (List Char) :=
  if marker.isPrefixOf label then do
    let read ← Punycode.decode? (label.drop marker.length)
    if isAscii read || !isSimple read then none else some read
  else some label

/-- Whether the last of the characters before, nearest first, is one that makes
a conjunct. -/
def followsConjunct (before : List Char) : Bool :=
  match before with
  | c :: _ => Text.Canonical.combiningClass c.toNat = 9
  | [] => false

/-- Whether letters on both sides would join, marks passed over. -/
def wouldJoin (before after : List Char) : Bool :=
  ((before.dropWhile Text.Joining.isTransparent).head?.any
    Text.Joining.joinsNext) &&
    ((after.dropWhile Text.Joining.isTransparent).head?.any
      Text.Joining.joinsPrevious)

/-- Whether the invisible characters that join letters or keep them apart stand
only where they show; `before` holds, backwards, what precedes. -/
def joinersShow (before : List Char) : List Char → Bool
  | [] => true
  | c :: rest =>
    let shows :=
      if c = '\u200c' then followsConjunct before || wouldJoin before rest
      else if c = '\u200d' then followsConjunct before
      else true
    shows && joinersShow (c :: before) rest

/-- Whether a label starts with no mark and has its joiners in place. -/
def isSound (label : List Char) : Bool :=
  !label.head?.any Text.isMark && joinersShow [] label

/-- Whether the labels of a name keep their looks: if one has letters written
from right to left, each keeps to one direction. -/
def keepsDirections (labels : List (List Char)) : Bool :=
  let directions := labels.map (·.map Text.Direction.ofChar)
  !directions.any (·.any Text.Direction.runsRight) ||
    directions.all Text.Direction.agree

/-- A label in ASCII. -/
def asciiLabel (label : List Char) : List Char :=
  if isAscii label then label else marker ++ Punycode.encode label

/-- The labels of a name in ASCII; `none` if no host can have the name. -/
def labels? (name : List Char) : Option (List (List Char)) := do
  let simple ← simplify? name
  if simple.any isForbidden then failure
  let labels ← (split (· = '.') [] simple).mapM reading?
  if !labels.all isSound || !keepsDirections labels then failure
  return labels.map asciiLabel

end Prospectus.Summary.Url.Domain
