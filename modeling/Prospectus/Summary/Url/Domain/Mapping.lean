import Prospectus.Summary.Url.Domain.Mapping.Table
import Prospectus.Text.Canonical
import Prospectus.Text.Lowercase
import Prospectus.Text.Unassigned

/-!
# Simplified names

Before names of hosts are compared, each character is replaced by its simpler
form, and the whole is put together canonically.  A name that this does not
change is a simple one.
-/

namespace Prospectus.Summary.Url.Domain

/-- The simpler form of a character; `none` for one that no name may have. -/
def simplifyChar? (c : Char) : Option (List Char) :=
  let n := c.toNat
  if n < 0x80 then some [c.toLower]
  else if Text.inRanges refusedRanges n || Text.inRanges Text.unassignedRanges n
    then none
  else if Text.inRanges droppedRanges n then some []
  else if let some points :=
    Text.find? expansions n then some (points.map Char.ofNat)
  else if let some (first, second) :=
    Text.find? pairs n then some [Char.ofNat first, Char.ofNat second]
  else if let some point := Text.find? replacements n then some [Char.ofNat point]
  else match Text.lastAtMost shiftedRanges n 0 shiftedRanges.size with
    | some (first, last, image) =>
      if n ≤ last then some [Char.ofNat (image + (n - first))]
        else some (Text.Lowercase.ofChar c)
    | none => some (Text.Lowercase.ofChar c)

/-- The simpler form of a name. -/
def simplify? (name : List Char) : Option (List Char) :=
  (name.mapM simplifyChar?).map fun forms =>
    (Text.composed (String.ofList forms.flatten)).toList

/-- Whether characters are their own simpler form. -/
def isSimple (name : List Char) : Bool := simplify? name = some name

end Prospectus.Summary.Url.Domain
