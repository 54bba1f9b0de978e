import Mathlib.Data.List.Find
import Prospectus.Contents.Entry
import Prospectus.Proofs.ContentsLocation

/-!
# Lookup does not see how a text is spelled

A text has many spellings that are canonically equivalent, and pages can be cut
into runs in many ways.  Two sources with the same text up to spelling
(`PageSource.SpelledAlike`) give the same answer when a topic is looked up: the
search for the table of contents ends on the same page
(`endingPage?_spelledAlike`), and although the text found is handed on as it is
spelled there, reading an entry off it depends on the composed form alone
(`findEntry_spelledAlike`).

Nothing is used of the composed form but that it is a function of the text.
-/

namespace Prospectus

/-- Two sources whose pages can all be read and have the same text, up to
canonical equivalence. -/
structure PageSource.SpelledAlike (source other : PageSource) : Prop where
  count : other.pageCount = source.pageCount
  pages : ∀ p, 1 ≤ p → p ≤ source.pageCount →
    ∃ runs runs', source.pageRuns p = .ok runs ∧
    other.pageRuns p = .ok runs' ∧
    Text.composed (plainText runs') = Text.composed (plainText runs)

namespace Contents

/-- The entry of a topic depends on the composed forms of the table of contents
and of the topic. -/
theorem findEntry_spelledAlike {contents contents' topic topic' : String}
    (hcontents : Text.composed contents' = Text.composed contents)
    (htopic : Text.composed topic' = Text.composed topic) :
    findEntry contents' topic' = findEntry contents topic := by
  rw [findEntry, findEntry, hcontents, htopic]

namespace Locator

/-- A page within the search of sources that are spelled alike can be read in
both, with the same text up to spelling. -/
theorem exists_runs_of_spelledAlike {source other : PageSource}
    (h : source.SpelledAlike other) {l : Locator} {p : UInt32}
    (hp : p ∈ pagesBetween 1 (l.lastSearched source)) :
    ∃ runs runs', source.pageRuns p = .ok runs ∧
      other.pageRuns p = .ok runs' ∧
      Text.composed (plainText runs') = Text.composed (plainText runs) := by
  obtain ⟨⟨hpos, hcount⟩, -⟩ := searched_iff.mp (mem_pagesBetween.mp hp)
  exact h.pages p hpos hcount

/-- **The search ends on the same page** for sources and markers that are
spelled alike. -/
theorem endingPage?_spelledAlike {source other : PageSource}
    (h : source.SpelledAlike other) {marker marker' : String}
    (hmarker : Text.composed marker' = Text.composed marker) (limit : UInt32) :
    endingPage? ⟨marker', limit⟩ other = endingPage? ⟨marker, limit⟩ source := by
  have hlast : lastSearched ⟨marker', limit⟩ other =
      lastSearched ⟨marker, limit⟩ source := by
    rw [lastSearched, lastSearched, h.count]
  rw [endingPage?, endingPage?, hlast]
  refine List.find?_congr fun p hp => ?_
  obtain ⟨runs, runs', hruns, hruns', htext⟩ := exists_runs_of_spelledAlike h hp
  simp only [endsSearch, hruns, hruns', htext, hmarker]

/-- The page at which the search ends, if it can be read, is the one that is
selected. -/
theorem found_of_endingPage? {l : Locator} {source : PageSource} {page : UInt32}
    {runs : List Run} (hending : l.endingPage? source = some page)
    (hread : source.pageRuns page = .ok runs) :
    ((searcher (Text.composed l.marker)).walk source 1 l.pageLimit {}).1.found =
      some (page, plainText runs) ∧
      l.locate source = .ok (plainText runs) := by
  have hresult : searchResult ((searcher (Text.composed l.marker)).walk source 1
      l.pageLimit {}) = .ok (some (page, plainText runs)) := by
    have hfind : (pagesBetween (max 1 1) (min l.pageLimit source.pageCount)).find?
        (endsSearch (Text.composed l.marker) source) = some page := hending
    rw [Visitor.walk, searchResult_walkPages _ _ _ _ rfl, hfind]
    simp only [searchAnswer, hread]
    rfl
  refine ⟨?_, by rw [locate_eq_searchResult, hresult]⟩
  rw [searchResult] at hresult
  cases hended : ((searcher (Text.composed l.marker)).walk source 1 l.pageLimit
      {}).2 with
  | error e =>
      rw [hended] at hresult
      cases hresult
  | ok u =>
      rw [hended] at hresult
      exact Except.ok.inj hresult

/-- **Lookup is the same for equivalent spellings.**  For sources, markers and
topics that are spelled alike, the table of contents is found in neither source,
or on the same page of both, and then the entries read off the two texts are the
same, and so are the errors. -/
theorem lookup_spelledAlike {source other : PageSource}
    (h : source.SpelledAlike other) {marker marker' : String}
    (hmarker : Text.composed marker' = Text.composed marker) {topic topic' : String}
    (htopic : Text.composed topic' = Text.composed topic) (limit : UInt32) :
    (∃ searched, locate ⟨marker, limit⟩ source =
      .error (.contentsNotFound marker searched) ∧
      locate ⟨marker', limit⟩ other = .error (.contentsNotFound marker' searched)) ∨
    (∃ page text text',
      ((searcher (Text.composed marker)).walk source 1 limit {}).1.found =
        some (page, text) ∧
      ((searcher (Text.composed marker')).walk other 1 limit {}).1.found =
        some (page, text') ∧
      locate ⟨marker, limit⟩ source = .ok text ∧
      locate ⟨marker', limit⟩ other = .ok text' ∧
      findEntry text' topic' = findEntry text topic) := by
  have hsame := endingPage?_spelledAlike h hmarker limit
  cases hending : endingPage? ⟨marker, limit⟩ source with
  | none =>
      rw [hending] at hsame
      refine .inl ⟨lastSearched ⟨marker, limit⟩ source, ?_, ?_⟩
      · rw [locate_eq, hending]
      · rw [locate_eq, hsame, lastSearched, lastSearched, h.count]
  | some page =>
      rw [hending] at hsame
      obtain ⟨runs, runs', hruns, hruns', htext⟩ :=
        exists_runs_of_spelledAlike h (List.mem_of_find?_eq_some hending)
      obtain ⟨hfound, hlocate⟩ := found_of_endingPage? hending hruns
      obtain ⟨hfound', hlocate'⟩ := found_of_endingPage? hsame hruns'
      exact .inr ⟨page, plainText runs, plainText runs', hfound, hfound',
        hlocate, hlocate', findEntry_spelledAlike htext htopic⟩

end Locator

end Contents

/-- A cover and a table of contents with accents put apart. -/
def apartDocument : Document :=
  .ofPages [⟨0, [⟨"Cover", "Arial", none, 12, 0, 700⟩]⟩,
    ⟨0, [⟨"Re\u0301sume\u0301", "Arial", none, 12, 0, 700⟩,
      ⟨"Cafe\u0301 7", "Arial", none, 12, 0, 650⟩]⟩]

/-- The same pages, cut into other runs and with accents put together. -/
def togetherDocument : Document :=
  .ofPages
    [⟨0, [⟨"Co", "Arial", none, 12, 0, 700⟩,
      ⟨"ver", "Arial", none, 12, 0, 700⟩]⟩,
      ⟨0, [⟨"R\u00e9sum", "Arial", none, 12, 0, 700⟩,
        ⟨"\u00e9", "Times", none, 12, 0, 700⟩,
      ⟨"Caf\u00e9 7", "Arial", none, 12, 0, 650⟩]⟩]

/-- Both give the same entry, found on the second page, for markers and topics
in two spellings. -/
theorem apartDocument_lookup_together :
    apartDocument.source.SpelledAlike togetherDocument.source ∧
    ∃ page text text',
      ((Contents.searcher (Text.composed "R\u00e9sum\u00e9")).walk
        apartDocument.source 1 9 {}).1.found = some (page, text) ∧
      ((Contents.searcher (Text.composed "Re\u0301sume\u0301")).walk
        togetherDocument.source 1 9 {}).1.found =
        some (page, text') ∧
      text ≠ text' ∧ Contents.findEntry text' "Cafe\u0301" =
        Contents.findEntry text "Caf\u00e9" := by
  have halike : apartDocument.source.SpelledAlike togetherDocument.source := by
    refine ⟨rfl, fun p hpos hcount => ?_⟩
    rcases UInt32.lt_or_eq_of_le (show p ≤ 2 from hcount) with hlt | rfl
    · obtain rfl := eq_one_of_lt_two hpos hlt
      exact ⟨_, _, rfl, rfl, by decide +kernel⟩
    · exact ⟨_, _, rfl, rfl, by decide +kernel⟩
  have htext : Contents.Locator.locate ⟨"R\u00e9sum\u00e9", 9⟩
      apartDocument.source =
      .ok "Re\u0301sume\u0301\nCafe\u0301 7" := by decide +kernel
  have htext' : Contents.Locator.locate ⟨"Re\u0301sume\u0301", 9⟩
      togetherDocument.source =
      .ok "R\u00e9sum\u00e9\nCaf\u00e9 7" := by decide +kernel
  have hmarker : Text.composed "Re\u0301sume\u0301" =
      Text.composed "R\u00e9sum\u00e9" := by decide +kernel
  have htopic : Text.composed "Cafe\u0301" = Text.composed "Caf\u00e9" := by
    decide +kernel
  rcases Contents.Locator.lookup_spelledAlike halike hmarker htopic 9 with
    ⟨searched, herror, -⟩ |
      ⟨page, text, text', hfound, hfound', hlocate, hlocate', hentry⟩
  · cases htext.symm.trans herror
  · obtain rfl := Except.ok.inj (htext.symm.trans hlocate)
    obtain rfl := Except.ok.inj (htext'.symm.trans hlocate')
    exact ⟨halike, page, _, _, hfound, hfound', by decide +kernel, hentry⟩

end Prospectus
