/-!
# Finding one text in another

A text holds another if the characters of the other stand in it side by side;
every text holds the empty one.
-/

namespace Prospectus.Text

/-- Whether `needle` occurs in the given characters as a consecutive block. -/
def occursIn (needle : List Char) : List Char → Bool
  | [] => needle.isEmpty
  | c :: rest => needle.isPrefixOf (c :: rest) || occursIn needle rest

/-- Whether `needle` occurs in `text`. -/
def contains (text needle : String) : Bool := occursIn needle.toList text.toList

end Prospectus.Text
