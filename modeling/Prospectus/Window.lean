import Prospectus.Contents.PageNumber

/-!
# Windows of pages

A window is a range of existing pages around the page where a topic is listed.
-/

namespace Prospectus

/-- Pages from `first` to `last`, both included. -/
structure Window where
  first : UInt32
  last : UInt32
deriving Repr, DecidableEq, Inhabited

namespace Window

/-- The pages of a document of `count` pages that lie at most `before` pages
before and `after` pages after the given page; `none` if there are none. -/
def around (page : Int64) (before after count : UInt32) : Option Window :=
  if count = 0 then none
  else
    let start := Contents.saturate (page.toInt - before.toNat)
    let stop := Contents.saturate (page.toInt + after.toNat)
    let limit : Int64 := count.toUInt64.toInt64
    if stop < 1 || limit < start then none
    else
      let first := if start < 1 then 1 else start
      let last := if limit < stop then limit else stop
      some ⟨first.toUInt64.toUInt32, last.toUInt64.toUInt32⟩

/-- Pages read before the listed one unless asked otherwise. -/
def defaultBefore : UInt32 := 2

/-- Pages read after the listed one unless asked otherwise. -/
def defaultAfter : UInt32 := 1

/-- The window with the usual numbers of pages before and after. -/
def standard (page : Int64) (count : UInt32) : Option Window :=
  around page defaultBefore defaultAfter count

/-- The number of pages of the window. -/
def pageCount (w : Window) : UInt32 := w.last - w.first + 1

/-- The window as shown in messages. -/
def text (w : Window) : String :=
  "[" ++ toString w.first ++ ", " ++ toString w.last ++ "]"

end Window

end Prospectus
