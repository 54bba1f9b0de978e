import Mathlib.Data.List.Chain
import Prospectus.Proofs.BoldPages

/-!
# Line feeds in bold text

The texts of runs apart, a line feed gets into bold text in two places: between
two pages, and between two runs of a page that stand on different baselines.
Here both are read off a list that knows nothing of the joiner: every bold run
of the window, together with the bold run before it on its page (`placedBold`).
Bold text is that list, placed run by run (`boldText_eq_place`).

If no run has a line feed of its own, two never stand side by side
(`isChain_foldl_place`).  A run with an empty text still has a baseline, and so
the text can start or end with a line feed: it starts with one exactly if a run
leaves the line of the run before it while nothing but empty runs has been
placed (`head?_foldl_place`), and ends with one exactly if after some break
there are only empty runs (`getLast?_foldl_place`).
-/

namespace Prospectus

/-- Whether a run lies off the baseline of the run before it. -/
def Run.offLine (last run : Run) : Bool := (last.y - run.y).abs > baselineTolerance

/-- A run with the one before it on its page, if there is one. -/
structure PlacedRun where
  last : Option Run
  run : Run

/-- The runs of a page, each with the one before it. -/
def placed (runs : List Run) : List PlacedRun :=
  (none :: runs.map some).zipWith PlacedRun.mk runs

/-- The bold runs of a window, each with the bold run before it on its page. -/
def placedBold (c : Classifier) (source : PageSource) :
    Option Window → List PlacedRun
  | none => []
  | some w =>
    (pagesBetween (max w.first 1) (min w.last source.pageCount)).flatMap fun p =>
      placed (c.boldRuns ((source.pageRuns p).toOption.getD []))

namespace PlacedRun

/-- Whether a run leaves the line of the run before it. -/
def leavesLine (e : PlacedRun) : Bool := e.last.any (·.offLine e.run)

/-- What stands between a text and a run: a line feed if the run is the first of
its page, unless the text is empty, or if it leaves the line; but none if the
text ends in one. -/
def breakAfter (text : String) (e : PlacedRun) : String :=
  if (e.leavesLine || e.last.isNone && !text.isEmpty) && text.toList.getLast? ≠
      some '\n' then "\n" else ""

/-- A text with a run placed behind it. -/
def place (text : String) (e : PlacedRun) : String :=
  text ++ e.breakAfter text ++ e.run.text

/-! ## Bold text is placed run by run -/

/-- Within a page, the joiner places runs. -/
theorem text_foldl_push (text : String) (last : Run) (runs : List Run) :
    (runs.foldl Joiner.push ⟨text, some last.y⟩).text =
      ((some last :: runs.map some).zipWith mk runs).foldl place text := by
  induction runs generalizing text last with
  | nil => rfl
  | cons run rest ih =>
      have hpush : Joiner.push ⟨text, some last.y⟩ run =
          ⟨place text ⟨some last, run⟩, some run.y⟩ := by
        have hleaves : Joiner.leavesLine ⟨text, some last.y⟩ run.y =
            leavesLine ⟨some last, run⟩ := rfl
        simp only [Joiner.push, hleaves, Joiner.atLineStart, place, breakAfter,
          Option.isNone_some, Bool.false_and, Bool.or_false]
        cases leavesLine ⟨some last, run⟩ <;> simp
        split <;> simp
      rw [List.foldl_cons, hpush, ih]
      rfl

/-- A page that has just begun places its runs. -/
theorem text_foldl_keep (b : BoldText) (runs : List Run) :
    (runs.foldl BoldText.keep { b with pageFresh := true }).text.text =
      (placed runs).foldl place b.text.text := by
  cases runs with
  | nil => rfl
  | cons run rest =>
      have hfirst : BoldText.keep { b with pageFresh := true } run =
          ⟨⟨place b.text.text ⟨none, run⟩, some run.y⟩, b.kept + 1, false⟩ := by
        have hkeep : BoldText.keep { b with pageFresh := true } run =
            ⟨b.text.breakLine.push run, b.kept + 1, false⟩ := rfl
        have hbreak : pageBreak b.text.text =
            breakAfter b.text.text ⟨none, run⟩ := by
          simp only [pageBreak, breakAfter, leavesLine]
          by_cases hend : b.text.text.toList.getLast? =
              some '\n' <;> cases b.text.text.isEmpty <;> simp [hend]
        rw [hkeep, Joiner.push_breakLine, hbreak]
        simp [Joiner.push, Joiner.leavesLine, Joiner.behind, Joiner.empty, place]
      rw [List.foldl_cons, hfirst, BoldText.foldl_keep]
      exact text_foldl_push _ run rest

/-- A walk over pages that can be read places the bold runs of all of them. -/
theorem walkPages_collector_place (c : Classifier) {source : PageSource}
    {pages : List UInt32}
    (hread : ∀ p ∈ pages, ∃ runs, source.pageRuns p = .ok runs) (b : BoldText) :
    ∃ after, (BoldText.collector c).walkPages source pages b = (after, .ok ()) ∧
      after.text.text = (pages.flatMap fun p =>
        placed (c.boldRuns ((source.pageRuns p).toOption.getD []))).foldl place
          b.text.text := by
  induction pages generalizing b with
  | nil => exact ⟨b, rfl, rfl⟩
  | cons page rest ih =>
      obtain ⟨runs, hruns⟩ := hread page List.mem_cons_self
      obtain ⟨after, hwalk, htext⟩ :=
        ih (fun p hp => hread p (List.mem_cons_of_mem page hp))
        ((c.boldRuns runs).foldl BoldText.keep { b with pageFresh := true })
      refine ⟨after, ?_, ?_⟩
      · rw [BoldText.walkPages_collector_of_ok c hruns, hwalk]
      · rw [htext, text_foldl_keep, List.flatMap_cons, List.foldl_append, hruns]
        rfl

/-- What is placed stands on some page. -/
theorem exists_run_of_mem_placedBold {c : Classifier} {source : PageSource}
    {w : Option Window} {e : PlacedRun} (h : e ∈ placedBold c source w) :
    ∃ p runs, source.pageRuns p = .ok runs ∧ e.run ∈ runs := by
  cases w with
  | none => cases h
  | some w =>
      obtain ⟨p, -, he⟩ := List.mem_flatMap.mp h
      rw [placed, ← List.map_uncurry_zip_eq_zipWith] at he
      obtain ⟨⟨last, run⟩, hzip, rfl⟩ := List.mem_map.mp he
      have hrun : run ∈ c.boldRuns ((source.pageRuns p).toOption.getD []) :=
        (List.of_mem_zip hzip).2
      cases hread : source.pageRuns p with
      | error e =>
          rw [hread] at hrun
          cases hrun
      | ok runs =>
          rw [hread] at hrun
          exact ⟨p, runs, hread, (List.mem_filter.mp hrun).1⟩

/-- **Bold text is placed run by run**, if the pages of the window that there
are can be read. -/
theorem boldText_eq_place (c : Classifier) {source : PageSource} {w : Option Window}
    (hread : ∀ p, 1 ≤ p → p ≤ source.pageCount →
      ∃ runs, source.pageRuns p = .ok runs) :
    boldText c source w = .ok ((placedBold c source w).foldl place "") := by
  cases w with
  | none => rfl
  | some w =>
      have hpages : ∀ p ∈
          pagesBetween (max w.first 1) (min w.last source.pageCount),
          ∃ runs, source.pageRuns p = .ok runs := by
        intro p hp
        obtain ⟨⟨hpos, hcount⟩, -⟩ := mem_pagesBetween_clamped.mp hp
        exact hread p hpos hcount
      obtain ⟨after, hwalk, htext⟩ := walkPages_collector_place c hpages {}
      have hcollect : BoldText.collect c source w = (after, .ok ()) := hwalk
      rw [boldText, hcollect]
      exact congrArg Except.ok htext

/-! ## Where line feeds stand -/

/-- Whether a run is one before which the line ends: it leaves the line, or is
the first of a page that does not come first. -/
def Breaks (text : String) (e : PlacedRun) : Prop :=
  e.leavesLine ∨ e.last = none ∧ text ≠ ""

/-- The break before a run is a line feed, or nothing if none is called for or
one is there already. -/
theorem breakAfter_cases (text : String) (e : PlacedRun) :
    e.breakAfter text = "" ∧ (text.toList.getLast? = some '\n' ∨ ¬ e.Breaks text) ∨
      e.breakAfter text = "\n" ∧ text.toList.getLast? ≠ some '\n' ∧
      e.Breaks text := by
  have hbreaks : (e.leavesLine || e.last.isNone && !text.isEmpty) = true ↔
      e.Breaks text := by
    simp [Breaks]
  unfold breakAfter
  by_cases hend : text.toList.getLast? = some '\n'
  · simp [hend]
  · by_cases hwhy : e.Breaks text
    · simp [hend, hwhy, hbreaks.mpr hwhy]
    · simp [hwhy, Bool.eq_false_iff.mpr (mt hbreaks.mp hwhy)]

/-- Two characters that are not both line feeds. -/
def NotBothFeeds (a b : Char) : Prop := ¬ (a = '\n' ∧ b = '\n')

theorem isChain_of_not_mem {cs : List Char} (h : '\n' ∉ cs) :
    cs.IsChain NotBothFeeds := by
  refine List.isChain_iff_forall_rel_of_append_cons_cons.mpr ?_
  rintro a b before after rfl ⟨rfl, -⟩
  exact h (by simp)

/-- **One step.**  Placing a run without line feeds puts no two side by side. -/
theorem isChain_place {text : String} {e : PlacedRun}
    (htext : text.toList.IsChain NotBothFeeds) (he : '\n' ∉ e.run.text.toList) :
    (place text e).toList.IsChain NotBothFeeds := by
  have hrun := isChain_of_not_mem he
  rw [place, String.toList_append, String.toList_append, List.append_assoc]
  refine List.isChain_append.mpr ⟨htext, ?_, ?_⟩
  · rcases breakAfter_cases text e with ⟨hbreak, -⟩ | ⟨hbreak, -⟩
    · rw [hbreak]
      exact hrun
    · rw [hbreak]
      refine List.isChain_cons.mpr ⟨?_, hrun⟩
      rintro b hb ⟨-, rfl⟩
      exact he (List.mem_of_mem_head? hb)
  · rintro a ha b hb ⟨rfl, rfl⟩
    rcases breakAfter_cases text e with ⟨hbreak, -⟩ | ⟨-, hend, -⟩
    · rw [hbreak] at hb
      exact he (List.mem_of_mem_head? hb)
    · exact hend ha

/-- Runs without line feeds are placed with no two side by side. -/
theorem isChain_foldl_place {events : List PlacedRun}
    (h : ∀ e ∈ events, '\n' ∉ e.run.text.toList) :
    (events.foldl place "").toList.IsChain NotBothFeeds := by
  induction events using List.reverseRecOn with
  | nil => exact List.isChain_nil
  | append_singleton events e ih =>
      rw [List.foldl_append]
      exact isChain_place (ih fun e' he' => h e' (List.mem_append_left _ he'))
        (h e (by simp))

/-! ### At the start and at the end -/

/-- Nothing is there only if nothing but empty runs has been placed. -/
theorem text_eq_empty_of_foldl_place {events : List PlacedRun}
    (h : events.foldl place "" = "") :
    ∀ e ∈ events, e.run.text = "" := by
  induction events using List.reverseRecOn with
  | nil => simp
  | append_singleton events e ih =>
      rw [List.foldl_append] at h
      simp only [List.foldl_cons, List.foldl_nil, place,
        String.append_eq_empty_iff] at h
      intro e' he'
      rcases List.mem_append.mp he' with hold | hnew
      · exact ih h.1.1 e' hold
      · rw [List.mem_singleton.mp hnew]
        exact h.2

/-- Empty runs leave one line feed or nothing. -/
theorem foldl_place_of_text_eq_empty {events : List PlacedRun}
    (h : ∀ e ∈ events, e.run.text = "") :
    events.foldl place "" = "" ∨ events.foldl place "" = "\n" := by
  induction events using List.reverseRecOn with
  | nil => exact .inl rfl
  | append_singleton events e ih =>
      have he : e.run.text = "" := h e (by simp)
      rw [List.foldl_append]
      simp only [List.foldl_cons, List.foldl_nil, place, he, String.append_empty]
      rcases ih fun e' he' => h e' (List.mem_append_left _ he') with hnone | hfeed
      · rw [hnone, String.empty_append]
        rcases breakAfter_cases "" e with ⟨hbreak, -⟩ | ⟨hbreak, -⟩
        · exact .inl hbreak
        · exact .inr hbreak
      · rw [hfeed]
        rcases breakAfter_cases "\n" e with ⟨hbreak, -⟩ | ⟨-, hend, -⟩
        · rw [hbreak]
          exact .inr rfl
        · exact absurd rfl hend

/-- A list with one element more is split at that element, or before it. -/
theorem exists_split_concat {α : Type} (R : List α → α → List α → Prop)
    (xs : List α) (x : α) :
    (∃ before e after, xs ++ [x] = before ++ e :: after ∧ R before e after) ↔
      R xs x [] ∨ ∃ before e after, xs = before ++ e :: after ∧
      R before e (after ++ [x]) := by
  constructor
  · rintro ⟨before, e, after, hsplit, hR⟩
    rcases List.eq_nil_or_concat after with rfl | ⟨middle, last, rfl⟩
    · obtain ⟨rfl, hx⟩ := List.append_inj' hsplit rfl
      obtain rfl := List.singleton_inj.mp hx
      exact .inl hR
    · have hassoc : xs ++ [x] = (before ++ e :: middle) ++ [last] := by
        simp [hsplit]
      obtain ⟨hxs, hx⟩ := List.append_inj' hassoc rfl
      obtain rfl := List.singleton_inj.mp hx
      exact .inr ⟨before, e, middle, hxs, by simpa using hR⟩
  · rintro (hR | ⟨before, e, after, rfl, hR⟩)
    · exact ⟨xs, x, [], rfl, hR⟩
    · exact ⟨before, e, after ++ [x], by simp, hR⟩

/-- Some run leaves the line of the run before it while nothing but empty runs
has been placed. -/
def BreaksFirst (events : List PlacedRun) : Prop :=
  ∃ before e after, events = before ++ e :: after ∧ e.leavesLine ∧
    ∀ e' ∈ before, e'.run.text = ""

/-- Some run and all runs after it are empty, and it leaves the line of the run
before it or is the first of a page that does not come first. -/
def BreaksLast (events : List PlacedRun) : Prop :=
  ∃ before e after, events = before ++ e :: after ∧
    (e.leavesLine ∨ e.last = none ∧ ∃ e' ∈ before, e'.run.text ≠ "") ∧
    e.run.text = "" ∧ ∀ e' ∈ after, e'.run.text = ""

theorem breaksFirst_concat (events : List PlacedRun) (e : PlacedRun) :
    BreaksFirst (events ++ [e]) ↔
    e.leavesLine ∧ (∀ e' ∈ events, e'.run.text = "") ∨ BreaksFirst events :=
  exists_split_concat (fun before (e : PlacedRun) _ => e.leavesLine ∧
    ∀ e' ∈ before, e'.run.text = "") events e

theorem breaksLast_concat (events : List PlacedRun) (e : PlacedRun) :
    BreaksLast (events ++ [e]) ↔ e.run.text = "" ∧
      ((e.leavesLine ∨ e.last = none ∧ ∃ e' ∈ events, e'.run.text ≠ "") ∨
        BreaksLast events) := by
  rw [BreaksLast, exists_split_concat (fun before (e : PlacedRun) after =>
    (e.leavesLine ∨ e.last = none ∧ ∃ e' ∈ before, e'.run.text ≠ "") ∧
    e.run.text = "" ∧
      ∀ e' ∈ after, e'.run.text = "")]
  simp only [List.forall_mem_append, List.forall_mem_singleton,
    List.not_mem_nil, false_imp_iff, implies_true, BreaksLast]
  grind

/-- Runs without line feeds are placed with a line feed at the start exactly if
one breaks first. -/
theorem head?_foldl_place {events : List PlacedRun}
    (h : ∀ e ∈ events, '\n' ∉ e.run.text.toList) :
    (events.foldl place "").toList.head? = some '\n' ↔ BreaksFirst events := by
  induction events using List.reverseRecOn with
  | nil => simp [BreaksFirst]
  | append_singleton events e ih =>
      have ih := ih fun e' he' => h e' (List.mem_append_left _ he')
      have hrun : '\n' ∉ e.run.text.toList := h e (by simp)
      rw [breaksFirst_concat, ← ih, List.foldl_append]
      simp only [List.foldl_cons, List.foldl_nil, place, String.toList_append,
        List.append_assoc]
      by_cases hempty : events.foldl place "" = ""
      · have hbreak : e.breakAfter "" = if e.leavesLine then "\n" else "" := by
          simp [breakAfter]
        have hnone := text_eq_empty_of_foldl_place hempty
        rw [hempty, hbreak]
        cases e.leavesLine with
        | false =>
            have hhead : e.run.text.toList.head? ≠ some '\n' :=
              fun hh => hrun (List.mem_of_mem_head? hh)
            simpa using hhead
        | true => simpa using hnone
      · have hne : (events.foldl place "").toList ≠ [] :=
          mt String.toList_eq_nil_iff.mp hempty
        rw [List.head?_append_of_ne_nil _ hne]
        constructor
        · exact .inr
        · rintro (⟨-, hnone⟩ | hstart)
          · rw [(foldl_place_of_text_eq_empty hnone).resolve_left hempty]
            rfl
          · exact hstart

/-- **One step.**  A line feed ends the text behind a run only if the run is
empty. -/
theorem getLast?_place {text : String} {e : PlacedRun}
    (he : '\n' ∉ e.run.text.toList) :
    (place text e).toList.getLast? = some '\n' ↔
      e.run.text = "" ∧ (text.toList.getLast? = some '\n' ∨ e.Breaks text) := by
  rw [place, String.toList_append]
  by_cases hempty : e.run.text = ""
  · rw [hempty, String.toList_empty, List.append_nil, String.toList_append]
    rcases breakAfter_cases text e with ⟨hbreak, hno⟩ | ⟨hbreak, -, hwhy⟩
    · rw [hbreak]
      rcases hno with hend | hno
      · simp [hend]
      · simp [hno]
    · simp [hbreak, hwhy]
  · have hne : e.run.text.toList ≠ [] := mt String.toList_eq_nil_iff.mp hempty
    rw [List.getLast?_append_of_ne_nil _ hne]
    constructor
    · intro hend
      exact absurd (List.mem_of_mem_getLast? hend) he
    · rintro ⟨hno, -⟩
      exact absurd hno hempty

/-- Runs without line feeds are placed with a line feed at the end exactly if
one breaks last. -/
theorem getLast?_foldl_place {events : List PlacedRun}
    (h : ∀ e ∈ events, '\n' ∉ e.run.text.toList) :
    (events.foldl place "").toList.getLast? = some '\n' ↔ BreaksLast events := by
  induction events using List.reverseRecOn with
  | nil => simp [BreaksLast]
  | append_singleton events e ih =>
      have ih := ih fun e' he' => h e' (List.mem_append_left _ he')
      rw [breaksLast_concat, ← ih, List.foldl_append]
      refine (getLast?_place (h e (by simp))).trans (and_congr_right fun _ => ?_)
      have hsome : (∃ e' ∈ events, e'.run.text ≠ "") →
          events.foldl place "" ≠ "" := by
        rintro ⟨e', he', hne⟩ hempty
        exact hne (text_eq_empty_of_foldl_place hempty e' he')
      have hfeed : events.foldl place "" ≠ "" → (∃ e' ∈ events, e'.run.text ≠ "") ∨
          (events.foldl place "").toList.getLast? = some '\n' := by
        intro hne
        by_cases hall : ∀ e' ∈ events, e'.run.text = ""
        · right
          rw [(foldl_place_of_text_eq_empty hall).resolve_left hne]
          rfl
        · left
          simpa using hall
      constructor
      · rintro (hend | hleaves | ⟨hfirst, hne⟩)
        · exact .inr hend
        · exact .inl (.inl hleaves)
        · exact (hfeed hne).imp_left fun hold => .inr ⟨hfirst, hold⟩
      · rintro ((hleaves | ⟨hfirst, hold⟩) | hend)
        · exact .inr (.inl hleaves)
        · exact .inr (.inr ⟨hfirst, hsome hold⟩)
        · exact .inl hend

/-! ### Windows whose first or last bold run is not empty -/

/-- The first bold run of a window has none before it. -/
theorem last_eq_none_of_head? {c : Classifier} {source : PageSource}
    {w : Option Window} {e : PlacedRun}
    (h : (placedBold c source w).head? = some e) : e.last = none := by
  cases w with
  | none => cases h
  | some w =>
      rw [placedBold, List.head?_flatMap] at h
      obtain ⟨page, -, hpage⟩ := List.exists_of_findSome?_eq_some h
      cases hbold : c.boldRuns ((source.pageRuns page).toOption.getD []) with
      | nil =>
          rw [hbold] at hpage
          cases hpage
      | cons run others =>
          rw [hbold] at hpage
          obtain rfl := Option.some.inj hpage
          rfl

/-- A run does not break first if the first one is not empty and has none before
it. -/
theorem not_breaksFirst {events : List PlacedRun}
    (h : ∀ e, events.head? = some e →
      e.last = none ∧ e.run.text ≠ "") : ¬ BreaksFirst events := by
  rintro ⟨before, e, after, rfl, hleaves, hempty⟩
  cases before with
  | nil =>
      have hnone := (h e rfl).1
      rw [leavesLine, hnone] at hleaves
      cases hleaves
  | cons first others => exact (h first rfl).2 (hempty first List.mem_cons_self)

/-- A run does not break last if the last one is not empty. -/
theorem not_breaksLast {events : List PlacedRun}
    (h : ∀ e, events.getLast? = some e → e.run.text ≠ "") :
    ¬ BreaksLast events := by
  rintro ⟨before, e, after, rfl, -, he, hafter⟩
  rcases List.eq_nil_or_concat after with rfl | ⟨middle, last, rfl⟩
  · exact h e (by simp) he
  · have hlast : (before ++ e :: middle.concat last).getLast? = some last := by
      rw [List.concat_eq_append, ← List.cons_append, ← List.append_assoc,
        List.getLast?_concat]
    exact h last hlast (hafter last (by simp))

end PlacedRun

/-! ## Documents -/

namespace Document

/-- What can be read is a page. -/
theorem exists_page_of_pageRuns {d : Document} {p : UInt32} {runs : List Run}
    (h : d.pageRuns p = .ok runs) :
    ∃ page ∈ d.pages, page.runs = runs := by
  rw [pageRuns, page?] at h
  by_cases hzero : p = 0
  · rw [if_pos hzero] at h
    cases h
  · rw [if_neg hzero] at h
    cases hpage : d.pages[p.toNat - 1]? with
    | none =>
        rw [hpage] at h
        cases h
    | some page =>
        rw [hpage] at h
        exact ⟨page, List.mem_of_getElem? hpage, Except.ok.inj h⟩

/-- **Line feeds in bold text.**  In a document whose runs have no line feeds of
their own, the bold text of a window never has two side by side.  It starts with
one exactly if a bold run leaves the line of the bold run before it on its page,
all before it being empty, and ends with one exactly if a bold run that leaves
the line, or that is the first of its page after text, is empty along with all
after it.  So it does neither if the first and the last bold run of the window
are not empty. -/
theorem boldText_has_inner_lineFeeds (d : Document) (c : Classifier)
    (w : Option Window)
    (hfree : ∀ page ∈ d.pages, ∀ run ∈ page.runs, '\n' ∉ run.text.toList) :
    ∃ text, boldText c d.source w = .ok text ∧
      ¬ ['\n', '\n'] <:+: text.toList ∧
      (text.toList.head? = some '\n' ↔
        PlacedRun.BreaksFirst (placedBold c d.source w)) ∧
      (text.toList.getLast? = some '\n' ↔
        PlacedRun.BreaksLast (placedBold c d.source w)) ∧
      ((∀ e ∈ (placedBold c d.source w).head?, e.run.text ≠ "") →
        text.toList.head? ≠ some '\n') ∧
      ((∀ e ∈ (placedBold c d.source w).getLast?, e.run.text ≠ "") →
        text.toList.getLast? ≠ some '\n') := by
  have hread : ∀ p, 1 ≤ p → p ≤ d.source.pageCount →
      ∃ runs, d.source.pageRuns p = .ok runs := by
    intro p hpos hcount
    obtain ⟨page, -, hpage⟩ := exists_page? hpos hcount
    exact ⟨page.runs, by simp [source, pageRuns, hpage]⟩
  have hevents : ∀ e ∈ placedBold c d.source w, '\n' ∉ e.run.text.toList := by
    intro e he
    obtain ⟨p, runs, hruns, hrun⟩ := PlacedRun.exists_run_of_mem_placedBold he
    obtain ⟨page, hpage, hread⟩ := exists_page_of_pageRuns hruns
    exact hfree page hpage e.run (hread ▸ hrun)
  refine ⟨_, PlacedRun.boldText_eq_place c hread, ?_,
    PlacedRun.head?_foldl_place hevents, PlacedRun.getLast?_foldl_place hevents,
    ?_, ?_⟩
  · rintro ⟨before, after, hsplit⟩
    have hchain := PlacedRun.isChain_foldl_place hevents
    have hpair : before ++ ['\n', '\n'] ++ after =
        before ++ '\n' :: '\n' :: after := by simp
    rw [← hsplit] at hchain
    exact List.isChain_iff_forall_rel_of_append_cons_cons.mp hchain hpair ⟨rfl, rfl⟩
  · intro hfirst
    rw [ne_eq, PlacedRun.head?_foldl_place hevents]
    exact PlacedRun.not_breaksFirst fun e he =>
      ⟨PlacedRun.last_eq_none_of_head? he, hfirst e he⟩
  · intro hlast
    rw [ne_eq, PlacedRun.getLast?_foldl_place hevents]
    exact PlacedRun.not_breaksLast hlast

end Document

/-- Two pages with empty bold runs between others, on lines of their own and at
the start of a page. -/
def gappedDocument : Document :=
  .ofPages [
    ⟨0, [⟨"Law", "Arial-Bold", none, 12, 0, 700⟩, ⟨"", "Arial-Bold", none, 12,
      0, 650⟩, ⟨"Art", "Arial-Bold", none, 12, 0, 600⟩]⟩,
    ⟨0, [⟨"", "Arial-Bold", none, 12, 0, 700⟩,
      ⟨"War", "Arial-Bold", none, 12, 0, 700⟩]⟩]

/-- Empty runs inside leave no trace. -/
theorem gappedDocument_has_inner_lineFeeds :
    ∃ text, boldText .standard gappedDocument.source (some ⟨1, 2⟩) = .ok text ∧
      ¬ ['\n', '\n'] <:+: text.toList ∧
      text.toList.head? ≠ some '\n' ∧ text.toList.getLast? ≠ some '\n' := by
  obtain ⟨text, htext, hpairs, -, -, hfirst, hlast⟩ :=
    gappedDocument.boldText_has_inner_lineFeeds .standard (some ⟨1, 2⟩)
      (by decide +kernel)
  exact ⟨text, htext, hpairs, hfirst (by decide +kernel), hlast (by decide +kernel)⟩

/-- A page on which the bold text stands between two empty bold runs on other
lines. -/
def hollowDocument : Document :=
  .ofPages
    [⟨0, [⟨"", "Arial-Bold", none, 12, 0, 700⟩, ⟨"Law", "Arial-Bold", none, 12,
      0, 600⟩, ⟨"", "Arial-Bold", none, 12, 0, 500⟩]⟩]

/-- Its runs have no line feeds, but its bold text starts and ends with one. -/
theorem hollowDocument_has_outer_lineFeeds :
    (∀ page ∈ hollowDocument.pages, ∀ run ∈ page.runs, '\n' ∉ run.text.toList) ∧
      boldText .standard hollowDocument.source (some ⟨1, 1⟩) = .ok "\nLaw\n" := by
  decide +kernel

end Prospectus
