/-!
# Parts of an address

An address is cut at single characters: up to the first of a kind, or at every
one.
-/

namespace Prospectus.Summary.Url

/-- Characters up to the first that stops, and those from it on. -/
def breakAt (stops : Char → Bool) (cs : List Char) : List Char × List Char :=
  (cs.takeWhile (!stops ·), cs.dropWhile (!stops ·))

/-- What lies between the characters that divide; `part`, given backwards, has
been read of the current one. -/
def split (divides : Char → Bool) (part : List Char) : List Char → List (List Char)
  | [] => [part.reverse]
  | c :: rest =>
    if divides c then part.reverse :: split divides [] rest
      else split divides (c :: part) rest

/-- Characters up to the last that is `mark`, and those after it; `none` if
there is no such one. -/
def breakAtLast? (mark : Char) (cs : List Char) : Option (List Char × List Char) :=
  match cs.reverse.dropWhile (· ≠ mark) with
  | [] => none
  | _ :: before => some (before.reverse, (cs.reverse.takeWhile (· ≠ mark)).reverse)

end Prospectus.Summary.Url
