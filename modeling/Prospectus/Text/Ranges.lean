/-!
# Tables of code points

Properties of characters are kept as sorted tables.  `inRanges` asks whether a
code point lies in one of a list of ranges; `find?` looks a key up in a sorted
array by halving the part that can still hold it.
-/

namespace Prospectus.Text

/-- Whether `n` lies in one of the ranges, both ends included. -/
def inRanges (ranges : List (Nat × Nat)) (n : Nat) : Bool :=
  ranges.any fun (first, last) => first ≤ n && n ≤ last

/-- The last entry among positions `low ≤ i < high` whose key is at most `key`,
for entries in increasing order of their keys. -/
def lastAtMost {α : Type} (entries : Array (Nat × α)) (key low high : Nat) :
    Option (Nat × α) :=
  if low + 1 < high then
    let middle := (low + high) / 2
    match entries[middle]? with
    | none => lastAtMost entries key low middle
    | some (k, _) =>
      if k ≤ key then lastAtMost entries key middle high
        else lastAtMost entries key low middle
  else
    match entries[low]? with
    | some (k, a) => if low < high && k ≤ key then some (k, a) else none
    | none => none
termination_by high - low

/-- The value stored under `key` in an array sorted by its keys. -/
def find? {α : Type} (entries : Array (Nat × α)) (key : Nat) : Option α :=
  match lastAtMost entries key 0 entries.size with
  | some (k, a) => if k = key then some a else none
  | none => none

end Prospectus.Text
