import Prospectus.Proofs.LookupStages

/-!
# Bold text, page by page

The collector of bold text carries one joiner over all pages of a window,
together with a mark that a page has begun.  Here it is compared with a
definition that knows nothing of it: restrict each page to its bold runs, take
the plain text of what is left, and put the pages that have any one after the
other, with a line feed between them unless the text so far ends in one
(`addPageText`).

A page that begins makes the joiner forget the last baseline, so what the page
adds is its own plain text behind what stands there already
(`foldl_push_behind`).  The step is `foldl_keep_fresh`, for one page, and the
walk over all pages of a window `walkPages_collector_ok`.
-/

namespace Prospectus

/-- The bold runs of a page. -/
def Classifier.boldRuns (c : Classifier) (runs : List Run) : List Run :=
  runs.filter fun run => c.isBold run.font run.weight

/-- What stands between a text and the page after it: a line feed, unless the
text is empty or ends in one. -/
def pageBreak (text : String) : String :=
  if text.isEmpty || text.toList.getLast? = some '\n' then "" else "\n"

/-- A text with the plain text of some runs behind it, on a line of its own. -/
def addPageText (text : String) (runs : List Run) : String :=
  text ++ pageBreak text ++ plainText runs

/-- The bold text of pages: of those that have any, one after the other. -/
def pagewiseBoldText (c : Classifier) (pages : List (List Run))
    (text : String) : String :=
  ((pages.map c.boldRuns).filter fun bold => !bold.isEmpty).foldl addPageText text

/-! ## Joining behind a text -/

namespace Joiner

/-- What has been joined, with a text before it. -/
def behind (text : String) (j : Joiner) : Joiner := ⟨text ++ j.text, j.lastY⟩

/-- A text that is not empty ends where it ended before another was put before
it. -/
theorem getLast?_append {s t : String} (h : t ≠ "") :
    (s ++ t).toList.getLast? = t.toList.getLast? := by
  have hne : t.toList ≠ [] := by
    intro hnil
    exact h (String.toList_eq_nil_iff.mp hnil)
  rw [String.toList_append, List.getLast?_append_of_ne_nil _ hne]

/-- Adding a run does not look beyond what has been joined, if there is any. -/
theorem push_behind (text : String) {j : Joiner} (h : j.text ≠ "") (run : Run) :
    (j.behind text).push run = (j.push run).behind text := by
  have hleaves : (j.behind text).leavesLine run.y = j.leavesLine run.y := rfl
  have hstart : (j.behind text).atLineStart = j.atLineStart := by
    simp only [atLineStart, behind, getLast?_append h]
  unfold push
  rw [hleaves, hstart]
  split <;> simp [behind, String.append_assoc]

/-- A text stays one that is not empty. -/
theorem text_push_ne {j : Joiner} (h : j.text ≠ "") (run : Run) :
    (j.push run).text ≠ "" := by
  unfold push
  split <;> simp [h]

/-- Adding runs does not look beyond what has been joined, if there is any. -/
theorem foldl_push_behind (text : String) {j : Joiner} (h : j.text ≠ "")
    (runs : List Run) :
    runs.foldl push (j.behind text) = (runs.foldl push j).behind text := by
  induction runs generalizing j with
  | nil => rfl
  | cons run rest ih =>
      rw [List.foldl_cons, List.foldl_cons, push_behind text h]
      exact ih (text_push_ne h run)

/-- After a line has been ended, the next run stands as the first one would,
behind what there is. -/
theorem push_breakLine (j : Joiner) (run : Run) :
    j.breakLine.push run =
      (empty.push run).behind (j.text ++ pageBreak j.text) := by
  have hbreak : j.breakLine = ⟨j.text ++ pageBreak j.text, none⟩ := by
    unfold breakLine pageBreak atLineStart
    cases j.text.isEmpty <;>
      cases decide (j.text.toList.getLast? = some '\n') <;> simp
  rw [hbreak]
  simp [push, leavesLine, behind, empty]

end Joiner

/-! ## The collector on one page -/

namespace BoldText

/-- Within a page, keeping runs is joining and counting them. -/
theorem foldl_keep (j : Joiner) (kept : Nat) (runs : List Run) :
    runs.foldl keep ⟨j, kept, false⟩ =
      ⟨runs.foldl Joiner.push j, kept + runs.length, false⟩ := by
  induction runs generalizing j kept with
  | nil => rfl
  | cons run rest ih =>
      have hkeep : keep ⟨j, kept, false⟩ run = ⟨j.push run, kept + 1, false⟩ := rfl
      rw [List.foldl_cons, hkeep, ih, List.foldl_cons, List.length_cons]
      congr 1
      omega

/-- **One page.**  The runs that are kept of a page that has just begun add
their plain text, on a line of its own, and are counted. -/
theorem foldl_keep_fresh (j : Joiner) (kept : Nat) {run : Run}
    (h : run.text ≠ "") (rest : List Run) :
    ((run :: rest).foldl keep ⟨j, kept, true⟩).text.text =
      addPageText j.text (run :: rest) ∧
      ((run :: rest).foldl keep ⟨j, kept, true⟩).kept =
        kept + (run :: rest).length := by
  have hfirst : keep ⟨j, kept, true⟩ run =
      ⟨(Joiner.empty.push run).behind (j.text ++ pageBreak j.text), kept + 1,
        false⟩ := by
    rw [← Joiner.push_breakLine]
    rfl
  have hne : (Joiner.empty.push run).text ≠ "" := by
    simp [Joiner.push, Joiner.leavesLine, Joiner.empty, h]
  rw [List.foldl_cons, hfirst, foldl_keep, Joiner.foldl_push_behind _ hne]
  refine ⟨rfl, ?_⟩
  dsimp only
  rw [List.length_cons]
  omega

/-- A page that can be read hands the collector its bold runs. -/
theorem walkPages_collector_of_ok (c : Classifier) {source : PageSource}
    {page : UInt32} {runs : List Run}
    (hread : source.pageRuns page = .ok runs) (rest : List UInt32) (b : BoldText) :
    (collector c).walkPages source (page :: rest) b =
      (collector c).walkPages source rest
        ((c.boldRuns runs).foldl keep { b with pageFresh := true }) := by
  have hstart : (collector c).pageStart page b =
      (.proceed, { b with pageFresh := true }) := rfl
  rw [Visitor.walkPages, hstart, hread]
  simp only [visitRuns_collector, Classifier.boldRuns, List.foldl_filter]
  rfl

/-! ## The collector on all pages -/

/-- **All pages.**  Over pages that can be read and have no empty bold runs, the
collector adds page by page, and counts all bold runs. -/
theorem walkPages_collector_ok (c : Classifier) {source : PageSource}
    {pages : List UInt32} {runsOf : UInt32 → List Run}
    (hread : ∀ p ∈ pages, source.pageRuns p = .ok (runsOf p))
    (htext : ∀ p ∈ pages, ∀ run ∈ c.boldRuns (runsOf p), run.text ≠ "")
    (b : BoldText) :
    ∃ after, (collector c).walkPages source pages b = (after, .ok ()) ∧
      after.text.text = pagewiseBoldText c (pages.map runsOf) b.text.text ∧
      after.kept =
        b.kept + (pages.flatMap fun p => c.boldRuns (runsOf p)).length := by
  induction pages generalizing b with
  | nil => exact ⟨b, rfl, rfl, rfl⟩
  | cons page rest ih =>
      have hrest := ih (fun p hp => hread p (List.mem_cons_of_mem page hp))
        (fun p hp => htext p (List.mem_cons_of_mem page hp))
      rw [walkPages_collector_of_ok c (hread page List.mem_cons_self)]
      have hbold := htext page List.mem_cons_self
      rw [List.flatMap_cons, List.length_append]
      cases hruns : c.boldRuns (runsOf page) with
      | nil =>
          -- a page without bold runs leaves nothing behind but the mark that a
          -- page has begun
          obtain ⟨after, hwalk, hafter, hkept⟩ := hrest { b with pageFresh := true }
          refine ⟨after, hwalk, ?_, ?_⟩
          · rw [hafter]
            simp [pagewiseBoldText, hruns]
          · rw [hkept]
            simp
      | cons run others =>
          have hfirst : run.text ≠ "" :=
            hbold run (by rw [hruns]; exact List.mem_cons_self)
          obtain ⟨hpage, hcount⟩ := foldl_keep_fresh b.text b.kept hfirst others
          obtain ⟨after, hwalk, hafter, hkept⟩ :=
            hrest ((run :: others).foldl keep { b with pageFresh := true })
          refine ⟨after, hwalk, ?_, ?_⟩
          · rw [hafter, hpage]
            simp [pagewiseBoldText, hruns]
          · rw [hkept, hcount]
            omega

end BoldText

/-- A window with a page that cannot be read has a first such page. -/
theorem exists_firstUnreadable {source : PageSource} {w : Window} {p : UInt32}
    {e : Error}
    (hpresent : 1 ≤ p ∧ p ≤ source.pageCount) (hinside : w.first ≤ p ∧ p ≤ w.last)
    (hread : source.pageRuns p = .error e) :
    ∃ page e', page ≤ p ∧ FirstUnreadable source w page e' := by
  have hp := mem_pagesBetween_clamped.mpr ⟨hpresent, hinside⟩
  have hsome : ((pagesBetween (max w.first 1) (min w.last source.pageCount)).find?
      fun q => (source.pageRuns q).toOption.isNone).isSome := by
    rw [List.find?_isSome]
    exact ⟨p, hp, by rw [hread]; rfl⟩
  obtain ⟨page, hfind⟩ := Option.isSome_iff_exists.mp hsome
  obtain ⟨hfails, done, rest, hsplit, hdone⟩ :=
    List.find?_eq_some_iff_append.mp hfind
  have hreadable : ∀ q ∈ done, ∃ runs, source.pageRuns q = .ok runs := by
    intro q hq
    cases hrun : source.pageRuns q with
    | ok runs => exact ⟨runs, rfl⟩
    | error e' =>
        have hpasses := hdone q hq
        rw [hrun] at hpasses
        exact nomatch hpasses
  have hbefore : page ≤ p := by
    rw [← UInt32.not_lt]
    intro hlt
    have hfirst := (mem_pagesBetween.mp hp).1
    obtain ⟨runs, hok⟩ := hreadable p (mem_before_of_pagesBetween hsplit hfirst hlt)
    rw [hread] at hok
    exact nomatch hok
  cases hpage : source.pageRuns page with
  | ok runs =>
      rw [hpage] at hfails
      exact nomatch hfails
  | error e' =>
    exact ⟨page, e', hbefore,
      firstUnreadable_iff.mpr ⟨done, rest, hsplit, hreadable, hpage⟩⟩

/-- **Bold text is the page-wise filter.**  If the pages of a window that there
are can be read, and their bold runs have texts that are not empty, the bold
text of the window is that of its pages, one after the other, and the collector
has kept as many runs as the pages have bold ones.  If one of the pages cannot
be read, the answer is the error of the first that cannot.  Without a window
there is no text. -/
theorem boldText_is_pagewise (c : Classifier) (source : PageSource) :
    (∀ (w : Window) (runsOf : UInt32 → List Run),
      (∀ p, 1 ≤ p → p ≤ source.pageCount → w.first ≤ p → p ≤ w.last →
        source.pageRuns p = .ok (runsOf p) ∧ ∀ run ∈ c.boldRuns (runsOf p),
          run.text ≠ "") →
      boldText c source (some w) =
        .ok (pagewiseBoldText c
          ((pagesBetween (max w.first 1) (min w.last source.pageCount)).map
            runsOf) "") ∧
      (BoldText.collect c source w).1.kept =
        ((pagesBetween (max w.first 1) (min w.last source.pageCount)).flatMap
          fun p => c.boldRuns (runsOf p)).length) ∧
    (∀ (w : Window) (p : UInt32) (e : Error), 1 ≤ p → p ≤ source.pageCount →
      w.first ≤ p → p ≤ w.last →
      source.pageRuns p = .error e →
        ∃ page e', page ≤ p ∧ FirstUnreadable source w page e' ∧
          boldText c source (some w) = .error e') ∧
    boldText c source none = .ok "" := by
  refine ⟨?_, ?_, rfl⟩
  · intro w runsOf hpages
    have hread : ∀ p ∈ pagesBetween (max w.first 1) (min w.last source.pageCount),
        source.pageRuns p = .ok (runsOf p) ∧ ∀ run ∈ c.boldRuns (runsOf p),
          run.text ≠ "" := by
      intro p hp
      obtain ⟨⟨hpos, hcount⟩, hfirst, hlast⟩ := mem_pagesBetween_clamped.mp hp
      exact hpages p hpos hcount hfirst hlast
    obtain ⟨after, hwalk, htext, hkept⟩ := BoldText.walkPages_collector_ok c
      (fun p hp => (hread p hp).1) (fun p hp => (hread p hp).2) {}
    have hcollect : BoldText.collect c source w = (after, .ok ()) := hwalk
    rw [boldText, hcollect]
    refine ⟨congrArg Except.ok htext, ?_⟩
    rw [hkept]
    exact Nat.zero_add _
  · intro w p e hpos hcount hfirst hlast hfail
    obtain ⟨page, e', hbefore, hunreadable⟩ :=
      exists_firstUnreadable ⟨hpos, hcount⟩ ⟨hfirst, hlast⟩ hfail
    exact ⟨page, e', hbefore, hunreadable,
      (boldText_eq_error_iff c source).mpr ⟨w, page, rfl, hunreadable⟩⟩

/-- Six pages, of which the first and the third have no bold text, the second
ends in a line feed, the fourth has two baselines, and the last cannot be read. -/
def mixedPages : PageSource where
  pageCount := 6
  pageRuns p :=
    if p = 2 then .ok [⟨"Law\n", "Arial-Bold", none, 12, 0, 700⟩]
    else if p = 4 then .ok [⟨"Art", "Arial-Bold", none, 12, 0, 700⟩,
      ⟨"of", "Arial", none, 12, 0, 700⟩, ⟨"War", "Arial", some 700, 12, 0, 650⟩]
    else if p = 5 then .ok [⟨"Music", "Arial-Bold", none, 12, 0, 650⟩]
    else if p = 6 then .error .encryptedDocument
    else .ok [⟨"plain", "Arial", none, 12, 0, 700⟩]

/-- The bold text of the first five pages is put together from three of them;
the window that reaches the last page gives its error. -/
theorem mixedPages_pagewise :
    boldText .standard mixedPages (some ⟨0, 5⟩) = .ok "Law\nArt\nWar\nMusic" ∧
    (BoldText.collect .standard mixedPages ⟨0, 5⟩).1.kept = 4 ∧
    (∃ page e, page ≤ 6 ∧ FirstUnreadable mixedPages ⟨4, 9⟩ page e ∧
      boldText .standard mixedPages (some ⟨4, 9⟩) = .error e) ∧
    boldText .standard mixedPages none = .ok "" := by
  obtain ⟨hread, hfail, hnone⟩ := boldText_is_pagewise .standard mixedPages
  have hpages : ∀ p, 1 ≤ p → p ≤ mixedPages.pageCount → (0 : UInt32) ≤ p → p ≤ 5 →
      mixedPages.pageRuns p = .ok ((mixedPages.pageRuns p).toOption.getD []) ∧
        ∀ run ∈ Classifier.standard.boldRuns
          ((mixedPages.pageRuns p).toOption.getD []), run.text ≠ "" := by
    intro p hpos _ _ hlast
    have hp : p ∈ pagesBetween 1 5 := mem_pagesBetween.mpr ⟨hpos, hlast⟩
    have hlist : pagesBetween 1 5 = [1, 2, 3, 4, 5] := by decide
    simp only [hlist, List.mem_cons, List.not_mem_nil, or_false] at hp
    rcases hp with rfl | rfl | rfl | rfl | rfl
    all_goals exact ⟨rfl, by decide +kernel⟩
  obtain ⟨htext, hkept⟩ :=
    hread ⟨0, 5⟩ (fun p => (mixedPages.pageRuns p).toOption.getD []) hpages
  refine ⟨htext.trans (by decide +kernel), hkept.trans (by decide +kernel),
    ?_, hnone⟩
  exact hfail ⟨4, 9⟩ 6 _ (by decide) (by decide) (by decide) (by decide) rfl

end Prospectus
