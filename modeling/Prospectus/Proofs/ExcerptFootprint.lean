import Prospectus.Excerpt
import Prospectus.Proofs.ContentsSearch

/-!
# What an excerpt is read from

An excerpt is made in three stages: the table of contents is located, the
topic's page is found in it, and the bold text of a window is collected.  The
first stage reads the pages up to the one that ends the search, the second reads
none, the third reads the window.  So two sources that agree on those pages give
the same excerpt or the same error, whatever else they hold.

Which pages these are is decided by the run itself: by where the search ends and
by the number that stands on the topic's line.
-/

namespace Prospectus

/-- A walk over pages depends only on what the source gives for those pages. -/
theorem Visitor.walkPages_congr {σ : Type} (v : Visitor σ)
    {source other : PageSource} {pages : List UInt32}
    (h : ∀ p ∈ pages, other.pageRuns p = source.pageRuns p) (s : σ) :
    v.walkPages other pages s = v.walkPages source pages s := by
  induction pages generalizing s with
  | nil => rfl
  | cons page rest ih =>
      have hpage := h page List.mem_cons_self
      have hrest := ih fun p hp => h p (List.mem_cons_of_mem page hp)
      simp only [Visitor.walkPages, hpage, hrest]

/-- The bold text of a window depends only on the pages of the window. -/
theorem boldText_congr (c : Classifier) {source other : PageSource}
    {window : Option Window} (hcount : other.pageCount = source.pageCount)
    (h : ∀ w, window = some w → ∀ p, w.first ≤ p → p ≤ w.last →
      other.pageRuns p = source.pageRuns p) :
    boldText c other window = boldText c source window := by
  cases window with
  | none => rfl
  | some w =>
      have hwalk : BoldText.collect c other w = BoldText.collect c source w := by
        rw [BoldText.collect, BoldText.collect, Visitor.walk, Visitor.walk, hcount]
        apply Visitor.walkPages_congr
        intro p hp
        obtain ⟨-, hfirst, hlast⟩ := mem_pagesBetween_clamped.mp hp
        exact h w rfl p hfirst hlast
      rw [boldText, boldText, hwalk]

/-- List search in an increasing list looks at nothing beyond what it finds. -/
theorem find?_congr_of_le {pages : List UInt32}
    (hsorted : pages.Pairwise (· < ·)) {f g : UInt32 → Bool}
    (h : ∀ p ∈ pages, (∀ k, pages.find? f = some k → p ≤ k) → g p = f p) :
    pages.find? g = pages.find? f := by
  induction pages with
  | nil => rfl
  | cons page rest ih =>
      obtain ⟨hhead, htail⟩ := List.pairwise_cons.mp hsorted
      by_cases hf : f page = true
      · have hg : g page = f page := by
          apply h page List.mem_cons_self
          intro k hk
          rw [List.find?_cons_of_pos hf] at hk
          exact UInt32.le_of_eq (Option.some.inj hk)
        rw [List.find?_cons_of_pos hf, List.find?_cons_of_pos (hg.trans hf)]
      · have hskip : (page :: rest).find? f = rest.find? f :=
          List.find?_cons_of_neg hf
        have hg : g page = f page := by
          apply h page List.mem_cons_self
          intro k hk
          rw [hskip] at hk
          exact UInt32.le_of_lt (hhead k (List.mem_of_find?_eq_some hk))
        rw [hskip, List.find?_cons_of_neg (by rw [hg]; exact hf)]
        apply ih htail
        intro p hp hbefore
        apply h p (List.mem_cons_of_mem page hp)
        intro k hk
        exact hbefore k (hskip ▸ hk)

namespace Contents.Locator

/-- The search ends at one page for two sources that agree up to where it ends
for one of them. -/
theorem endingPage?_congr (l : Locator) {source other : PageSource}
    (hcount : other.pageCount = source.pageCount)
    (h : ∀ p, 1 ≤ p → p ≤ l.lastRead source →
      other.pageRuns p = source.pageRuns p) :
    l.endingPage? other = l.endingPage? source := by
  have hlast : l.lastSearched other = l.lastSearched source := by
    rw [lastSearched, lastSearched, hcount]
  rw [endingPage?, endingPage?, hlast]
  apply find?_congr_of_le (pagesBetween_pairwise _ _)
  intro p hp hbefore
  obtain ⟨hpos, hsearched⟩ := mem_pagesBetween.mp hp
  have hread : p ≤ l.lastRead source := by
    rw [lastRead]
    cases hend : l.endingPage? source with
    | none => exact hsearched
    | some k => exact hbefore k hend
  rw [endsSearch, endsSearch, h p hpos hread]

/-- The page that ends the search is one of those searched. -/
theorem endingPage?_bounds {l : Locator} {source : PageSource} {k : UInt32}
    (h : l.endingPage? source = some k) : 1 ≤ k ∧ k ≤ l.lastSearched source :=
  mem_pagesBetween.mp (List.mem_of_find?_eq_some h)

/-- **Locating reads a prefix.**  The table of contents depends only on the
pages up to the last one that the search reads. -/
theorem locate_congr (l : Locator) {source other : PageSource}
    (hcount : other.pageCount = source.pageCount)
    (h : ∀ p, 1 ≤ p → p ≤ l.lastRead source →
      other.pageRuns p = source.pageRuns p) :
    l.locate other = l.locate source := by
  rw [locate_eq, locate_eq, endingPage?_congr l hcount h, lastSearched,
    lastSearched, hcount]
  cases hend : l.endingPage? source with
  | none => rfl
  | some k =>
      have hk : k = l.lastRead source := by rw [lastRead, hend, Option.getD_some]
      simp only [h k (endingPage?_bounds hend).1 (UInt32.le_of_eq hk)]

end Contents.Locator

namespace Extractor

/-- The page that the table of contents gives for a topic. -/
def listedPage (x : Extractor) (source : PageSource) (topic : String) :
    Except Error Int64 :=
  (x.locator.locate source).bind fun contents => Contents.findPage contents topic

/-- An excerpt is the bold text of the window around the listed page. -/
theorem extract_eq (x : Extractor) (source : PageSource) (topic : String) :
    x.extract source topic =
      (x.listedPage source topic).bind fun page =>
        (boldText x.classifier source (x.window page source.pageCount)).map
          fun text =>
          ⟨topic, page, x.window page source.pageCount, text⟩ := by
  simp only [extract, listedPage, bind, Except.bind, pure, Except.pure]
  cases x.locator.locate source with
  | error e => simp only
  | ok contents =>
      cases hpage : Contents.findPage contents topic with
      | error e => simp only [hpage]
      | ok page =>
          simp only [hpage]
          cases boldText x.classifier source
            (x.window page source.pageCount) <;> simp only [Except.map]

/-- Sources that agree on the pages of the search and of the window give the
same answer. -/
theorem extract_congr (x : Extractor) (topic : String) {source other : PageSource}
    (hcount : other.pageCount = source.pageCount)
    (hread : ∀ p, 1 ≤ p → p ≤ x.locator.lastRead source →
      other.pageRuns p = source.pageRuns p)
    (hwindow : ∀ page w, x.listedPage source topic = .ok page →
      x.window page source.pageCount = some w →
      ∀ p, w.first ≤ p → p ≤ w.last → other.pageRuns p = source.pageRuns p) :
    x.extract other topic = x.extract source topic := by
  have hlisted : x.listedPage other topic = x.listedPage source topic := by
    rw [listedPage, listedPage, x.locator.locate_congr hcount hread]
  rw [extract_eq, extract_eq, hlisted]
  cases hpage : x.listedPage source topic with
  | error e => simp only [Except.bind]
  | ok page =>
      have hbold := boldText_congr x.classifier hcount fun w => hwindow page w hpage
      simp only [hcount, Except.bind, hbold]

end Extractor

/-- The source with another answer for one page. -/
def PageSource.withPage (source : PageSource) (page : UInt32)
    (answer : Except Error (List Run)) :
    PageSource where
  pageCount := source.pageCount
  pageRuns p := if p = page then answer else source.pageRuns p

namespace Extractor

/-- **An excerpt is read from the searched prefix and its window.**  Sources of
one length that agree there give the same excerpt or the same error.  In
particular a page beyond the search and outside the window may be altered or
become unreadable without any effect, and if there is no window, only the prefix
matters. -/
theorem extract_reads_prefix_and_window (x : Extractor) (source : PageSource)
    (topic : String) :
    (∀ other : PageSource, other.pageCount = source.pageCount →
      (∀ p, 1 ≤ p → p ≤ x.locator.lastRead source →
        other.pageRuns p = source.pageRuns p) →
      (∀ page w, x.listedPage source topic = .ok page →
        x.window page source.pageCount = some w →
        ∀ p, w.first ≤ p → p ≤ w.last → other.pageRuns p = source.pageRuns p) →
      x.extract other topic = x.extract source topic) ∧
    (∀ q answer, x.locator.lastRead source < q →
      (∀ page w, x.listedPage source topic = .ok page →
        x.window page source.pageCount = some w →
        ¬ (w.first ≤ q ∧ q ≤ w.last)) →
      x.extract (source.withPage q answer) topic = x.extract source topic) ∧
    (∀ page, x.listedPage source topic = .ok page →
      x.window page source.pageCount = none →
      ∀ other : PageSource, other.pageCount = source.pageCount →
      (∀ p, 1 ≤ p → p ≤ x.locator.lastRead source →
        other.pageRuns p = source.pageRuns p) →
      x.extract other topic = x.extract source topic) := by
  refine ⟨?_, ?_, ?_⟩
  · intro other hcount hread hwindow
    exact x.extract_congr topic hcount hread hwindow
  · intro q answer hbeyond houtside
    refine x.extract_congr topic rfl ?_ ?_
    · intro p _ hp
      have hne : p ≠ q := by
        rintro rfl
        exact UInt32.not_lt.mpr hp hbeyond
      exact if_neg hne
    · intro page w hpage hw p hfirst hlast
      have hne : p ≠ q := by
        rintro rfl
        exact houtside page w hpage hw ⟨hfirst, hlast⟩
      exact if_neg hne
  · intro page hpage hnone other hcount hread
    refine x.extract_congr topic hcount hread ?_
    intro page' w hpage' hw
    have hsame : page' = page := Except.ok.inj (hpage'.symm.trans hpage)
    rw [hsame, hnone] at hw
    cases hw

/-- Four pages with the table of contents on the second; it lists a page that is
there and one that is not.  The last page cannot be read. -/
def shortCatalog : PageSource where
  pageCount := 4
  pageRuns p :=
    if p = 1 then .ok [⟨"Preface", "Arial", none, 12, 0, 0⟩]
    else if p = 2 then .ok [⟨"Law 3\nArt 9", "Arial", none, 12, 0, 0⟩]
    else if p = 3 then .ok [⟨"Courses", "Arial-Bold", none, 12, 0, 0⟩]
    else .error .encryptedDocument

/-- An extractor that reads the listed page alone. -/
def listedPageOnly : Extractor :=
  { locator := ⟨"Law", 9⟩, pagesBefore := 0, pagesAfter := 0 }

/-- The last page has no part in the excerpt for `Law`, and no page after the
second has one in that for `Art`, whose page does not exist. -/
theorem shortCatalog_reads_prefix_and_window :
    listedPageOnly.locator.lastRead shortCatalog = 2 ∧
    (∀ answer, listedPageOnly.extract (shortCatalog.withPage 4 answer) "Law" =
      listedPageOnly.extract shortCatalog "Law") ∧
    ∀ answer, listedPageOnly.extract (shortCatalog.withPage 3 answer) "Art" =
      listedPageOnly.extract shortCatalog "Art" := by
  have hlast : listedPageOnly.locator.lastRead shortCatalog = 2 := by decide +kernel
  have hlaw : listedPageOnly.listedPage shortCatalog "Law" = .ok 3 := by
    decide +kernel
  have hart : listedPageOnly.listedPage shortCatalog "Art" = .ok 9 := by
    decide +kernel
  refine ⟨hlast, ?_, ?_⟩
  · intro answer
    refine (extract_reads_prefix_and_window listedPageOnly shortCatalog
      "Law").2.1 4 answer ?_ ?_
    · rw [hlast]
      decide
    · intro page w hpage hw
      rw [hlaw] at hpage
      cases hpage
      have hwindow : listedPageOnly.window 3 4 = some ⟨3, 3⟩ := by decide +kernel
      cases hwindow.symm.trans hw
      decide
  · intro answer
    have hnone : listedPageOnly.window 9 4 = none := by decide +kernel
    refine (extract_reads_prefix_and_window listedPageOnly shortCatalog
      "Art").2.2 9 hart hnone
      (shortCatalog.withPage 3 answer) rfl ?_
    intro p _ hp
    rw [hlast] at hp
    refine if_neg ?_
    rintro rfl
    exact absurd hp (by decide)

end Extractor

end Prospectus
