import Prospectus.Contents.Locator
import Prospectus.Proofs.PageRanges

/-!
# The search for the table of contents is a first match

`Locator.locate` walks a visitor over the first pages.  Here the walk is
compared with plain list search: a page ends the search if it cannot be read or
if its text holds the marker, and the answer is made from the first such page
(`locate_eq`).

The visitor's joiner is emptied at each page, so all that outlives a page is
what has been found; `searchResult` keeps that and drops the joiner.
-/

namespace Prospectus.Contents

/-- What a walk has found, or the error that ended it. -/
def searchResult (walked : Search × Except Error Unit) :
    Except Error (Option (UInt32 × String)) :=
  walked.2.map fun _ => walked.1.found

/-- Showing a page to the searcher joins its runs. -/
theorem visitRuns_searcher (marker : String) (page : UInt32) (runs : List Run)
    (s : Search) :
    (searcher marker).visitRuns page runs s =
      (false, { s with page := runs.foldl Joiner.push s.page }) := by
  induction runs generalizing s with
  | nil => rfl
  | cons run rest ih =>
      rw [Visitor.visitRuns]
      exact ih { s with page := s.page.push run }

/-- Whether a page ends the search: it cannot be read, or its text holds the
marker, which is given in composed form. -/
def endsSearch (marker : String) (source : PageSource) (page : UInt32) : Bool :=
  match source.pageRuns page with
  | .error _ => true
  | .ok runs => Text.contains (Text.composed (plainText runs)) marker

/-- What the search has found at the page that ends it. -/
def searchAnswer (source : PageSource) (page : UInt32) :
    Except Error (Option (UInt32 × String)) :=
  (source.pageRuns page).map fun runs => some (page, plainText runs)

/-- **First match.**  The searcher's walk over pages is a list search for the
first page that ends it. -/
theorem searchResult_walkPages (marker : String) (source : PageSource)
    (pages : List UInt32) (s : Search) (hs : s.found = none) :
    searchResult ((searcher marker).walkPages source pages s) =
      match pages.find? (endsSearch marker source) with
      | none => .ok none
      | some page => searchAnswer source page := by
  induction pages generalizing s with
  | nil => simp [Visitor.walkPages, searchResult, Except.map, hs]
  | cons page rest ih =>
      cases hread : source.pageRuns page with
      | error e =>
          have hends : endsSearch marker source page = true := by
            simp [endsSearch, hread]
          rw [List.find?_cons_of_pos hends]
          simp [Visitor.walkPages, searcher, hread, searchResult, searchAnswer,
            Except.map]
      | ok runs =>
          have hends : endsSearch marker source page =
              Text.contains (Text.composed (plainText runs)) marker := by
            simp [endsSearch, hread]
          have hstart : (searcher marker).pageStart page s =
              (.proceed, { s with page := Joiner.empty }) := rfl
          rw [Visitor.walkPages, hstart, hread]
          simp only [visitRuns_searcher]
          by_cases hmarker : Text.contains (Text.composed (plainText runs))
              marker = true
          · have hstop : (searcher marker).pageEnd page
                { s with page := runs.foldl Joiner.push Joiner.empty } =
                (.stop, ⟨runs.foldl Joiner.push Joiner.empty,
                  some (page, plainText runs)⟩) := by
              simp only [searcher, plainText] at hmarker ⊢
              rw [if_pos hmarker]
            rw [hstop, List.find?_cons_of_pos (hends.trans hmarker)]
            simp [searchResult, searchAnswer, Except.map, hread]
          · have hpass : (searcher marker).pageEnd page
                { s with page := runs.foldl Joiner.push Joiner.empty } =
                (.proceed,
                  { s with page := runs.foldl Joiner.push Joiner.empty }) := by
              simp only [searcher, plainText] at hmarker ⊢
              rw [if_neg hmarker]
            rw [hpass, List.find?_cons_of_neg (by rw [hends]; exact hmarker)]
            exact ih _ hs

namespace Locator

/-- The last page that may be searched. -/
def lastSearched (l : Locator) (source : PageSource) : UInt32 :=
  min l.pageLimit source.pageCount

/-- The first page that ends the search, if there is one. -/
def endingPage? (l : Locator) (source : PageSource) : Option UInt32 :=
  (pagesBetween 1 (l.lastSearched source)).find?
    (endsSearch (Text.composed l.marker) source)

/-- The last page that the search reads: the one that ends it, or else the last
one there is to search. -/
def lastRead (l : Locator) (source : PageSource) : UInt32 :=
  (l.endingPage? source).getD (l.lastSearched source)

/-- The answer of the search depends only on what its walk has found. -/
theorem locate_eq_searchResult (l : Locator) (source : PageSource) :
    l.locate source =
      match searchResult ((searcher (Text.composed l.marker)).walk source 1
        l.pageLimit {}) with
      | .error e => .error e
      | .ok none => .error (.contentsNotFound l.marker (l.lastSearched source))
      | .ok (some (_, text)) => .ok text := by
  rw [locate, lastSearched]
  cases (searcher (Text.composed l.marker)).walk source 1 l.pageLimit {} with
  | mk s ended =>
      cases ended with
      | error e => rfl
      | ok u => cases hfound : s.found <;> simp [searchResult, Except.map, hfound]

/-- **The table of contents is the first page that ends the search**, or else it
is not found. -/
theorem locate_eq (l : Locator) (source : PageSource) :
    l.locate source =
      match l.endingPage? source with
      | none => .error (.contentsNotFound l.marker (l.lastSearched source))
      | some page => (source.pageRuns page).map plainText := by
  rw [locate_eq_searchResult, Visitor.walk, searchResult_walkPages _ _ _ _ rfl,
    show max (1 : UInt32) 1 = 1 from rfl, endingPage?, lastSearched]
  cases (pagesBetween 1 (min l.pageLimit source.pageCount)).find?
      (endsSearch (Text.composed l.marker) source) with
  | none => rfl
  | some page =>
      cases hread : source.pageRuns page <;> simp [searchAnswer, Except.map, hread]

end Locator

end Prospectus.Contents
