import Prospectus.Text.Lowercase.Table
import Prospectus.Text.Ranges

/-!
# Lower case

The lower-case form of a text, character by character, with two rules beyond the
table: a capital I with a dot above becomes two characters, and a capital sigma
that ends a word becomes the final sigma.
-/

namespace Prospectus.Text

namespace Lowercase

/-- The lower-case form of a code point in one block, if the block covers it. -/
def Block.image? (b : Block) (n : Nat) : Option Nat :=
  if b.first ≤ n ∧ n ≤ b.last ∧ (n - b.first) % b.step = 0
    then some (b.image + (n - b.first)) else none

/-- The lower-case form of one character without looking at its neighbours. -/
def ofChar (c : Char) : List Char :=
  if c = '\u0130' then ['i', '\u0307']
  else match blocks.findSome? (·.image? c.toNat) with
    | some n => [Char.ofNat n]
    | none => [c]

/-- Whether the first character that is not case-ignorable is a cased one. -/
def meetsCased (cs : List Char) : Bool :=
  match cs.dropWhile (fun c => inRanges ignorableRanges c.toNat) with
  | c :: _ => inRanges casedRanges c.toNat
  | [] => false

/-- Lower case of `cs`, when the characters of `before` (nearest first) stand to
its left. -/
def after (before : List Char) : List Char → List Char
  | [] => []
  | c :: rest =>
    let image :=
      if c = '\u03a3' then
        if meetsCased before && !meetsCased rest then ['\u03c2'] else ['\u03c3']
      else ofChar c
    image ++ after (c :: before) rest

end Lowercase

/-- The lower-case form of a text. -/
def lowercase (s : String) : String := String.ofList (Lowercase.after [] s.toList)

end Prospectus.Text
