import Mathlib.Data.List.SplitBy
import Prospectus.Proofs.CanonicalLines
import Prospectus.Proofs.LineFeeds

/-!
# Lines of a page are its baselines

The runs of a page fall into blocks in which each run stays on the line of the
run before it (`baselineBlocks`).  If no run is empty or has line ends of its
own, the lines of the page's text are the texts of these blocks
(`lines_plainText`).  The proof goes run by run from the end: a run whose
successor stays on its line is put before the first line of what follows, and
any other is a line of its own (`plainText_cons_cons`,
`baselineBlocks_of_onLine`, `baselineBlocks_of_offLine`).

Lines are looked at in composed form when a topic is searched, and composing
keeps lines apart (`Text.lined_composedChars`), so a topic is searched block by
block.
-/

namespace Prospectus

/-- The maximal blocks of runs in which each stays on the line of the run before
it. -/
def baselineBlocks (runs : List Run) : List (List Run) :=
  runs.splitBy fun last run => !last.offLine run

/-- The texts of a block of runs, put together. -/
def blockText (block : List Run) : String := String.join (block.map (·.text))

/-- A run with a text that has no line ends. -/
structure Run.Inline (run : Run) : Prop where
  nonempty : run.text ≠ ""
  noFeed : '\n' ∉ run.text.toList
  noReturn : '\r' ∉ run.text.toList

/-! ## Blocks -/

theorem baselineBlocks_singleton (run : Run) : baselineBlocks [run] = [[run]] := rfl

/-- A run that leaves the line of the run before it begins a block. -/
theorem baselineBlocks_of_offLine {run next : Run} (rest : List Run)
    (h : run.offLine next = true) :
    baselineBlocks (run :: next :: rest) =
      [run] :: baselineBlocks (next :: rest) := by
  refine List.splitBy_append_cons (l := [run]) rest ?_
  rintro last ⟨⟩
  simp [h]

/-- A run that stays on the line of the run before it belongs to its block. -/
theorem baselineBlocks_of_onLine {run next : Run} {rest block : List Run}
    {blocks : List (List Run)} (h : run.offLine next = false)
    (hblocks : baselineBlocks (next :: rest) = block :: blocks) :
    baselineBlocks (run :: next :: rest) = (run :: block) :: blocks := by
  obtain ⟨hflat, hne, hchain, hborder⟩ := List.splitBy_eq_iff.mp hblocks
  have hblock : block ≠ [] := by
    rintro rfl
    exact hne List.mem_cons_self
  obtain ⟨first, others, rfl⟩ := List.exists_cons_of_ne_nil hblock
  obtain ⟨rfl, -⟩ := List.cons.inj hflat
  refine List.splitBy_eq_iff.mpr ⟨?_, ?_, ?_, ?_⟩
  · rw [hflat]
    rfl
  · simpa using hne
  · intro b hb
    rcases List.mem_cons.mp hb with rfl | hrest
    · exact List.isChain_cons_cons.mpr ⟨by simp [h], hchain _ List.mem_cons_self⟩
    · exact hchain b (List.mem_cons_of_mem _ hrest)
  · cases blocks with
    | nil => exact List.isChain_singleton _
    | cons second blocks =>
        obtain ⟨⟨ha, hb, hoff⟩, htail⟩ := List.isChain_cons_cons.mp hborder
        exact List.isChain_cons_cons.mpr
          ⟨⟨List.cons_ne_nil _ _, hb, by rwa [List.getLast_cons ha]⟩, htail⟩

/-! ## Text -/

/-- The text of runs, with one run more before them. -/
theorem plainText_cons_cons {run next : Run} (rest : List Run)
    (hrun : run.Inline) (hnext : next.Inline) :
    plainText (run :: next :: rest) = run.text ++ (if run.offLine next then "\n"
      else "") ++ plainText (next :: rest) := by
  have hfirst : Joiner.empty.push run = ⟨run.text, some run.y⟩ := by
    simp [Joiner.push, Joiner.empty, Joiner.leavesLine]
  have hend : Joiner.atLineStart ⟨run.text, some run.y⟩ = false := by
    rw [Joiner.atLineStart, decide_eq_false_iff_not]
    exact fun hlast => hrun.noFeed (List.mem_of_mem_getLast? hlast)
  have hleaves : Joiner.leavesLine ⟨run.text, some run.y⟩ next.y =
      run.offLine next := rfl
  have hsecond : (Joiner.push ⟨run.text, some run.y⟩ next) =
      (Joiner.empty.push next).behind (run.text ++ if run.offLine next then "\n"
        else "") := by
    rw [Joiner.push, hend, hleaves]
    cases run.offLine next <;> simp [Joiner.push, Joiner.behind, Joiner.empty,
      Joiner.leavesLine]
  have hne : (Joiner.empty.push next).text ≠ "" := by
    simpa [Joiner.push, Joiner.empty, Joiner.leavesLine] using hnext.nonempty
  rw [plainText, List.foldl_cons, List.foldl_cons, hfirst, hsecond,
    Joiner.foldl_push_behind _ hne]
  rfl

namespace Text

/-- A piece without line ends is put before the first line. -/
theorem Lined.append {cs text line : List Char} {lines : List (List Char)}
    (hcs : '\n' ∉ cs) (hline : line ≠ []) (h : Lined text (line :: lines)) :
    Lined (cs ++ text) ((cs ++ line) :: lines) := by
  have hfree : '\n' ∉ line → '\n' ∉ cs ++ line := by simp [hcs]
  cases h with
  | last hne hlast => exact .last (by simp [hne]) (hfree hlast)
  | feed hfeed hend tail =>
      rw [← List.append_assoc]
      exact .feed (hfree hfeed)
        (by rwa [List.getLast?_append_of_ne_nil _ hline]) tail
  | returnFeed hfeed tail =>
      rw [← List.append_assoc]
      exact .returnFeed (hfree hfeed) tail

end Text

theorem blockText_cons (run : Run) (block : List Run) :
    (blockText (run :: block)).toList =
      run.text.toList ++ (blockText block).toList := by
  simp [blockText]

/-- The text of a block is not empty if no run is. -/
theorem blockText_ne {runs block : List Run} (h : ∀ run ∈ runs, run.Inline)
    (hblock : block ∈ baselineBlocks runs) :
    blockText block ≠ "" := by
  have hne : block ≠ [] := List.ne_nil_of_mem_splitBy hblock
  obtain ⟨run, rest, rfl⟩ := List.exists_cons_of_ne_nil hne
  have hrun : run ∈ runs := by
    rw [← List.flatten_splitBy (fun last run => !last.offLine run) runs]
    exact List.mem_flatten.mpr ⟨_, hblock, List.mem_cons_self⟩
  intro hempty
  have hnil := String.toList_eq_nil_iff.mpr hempty
  rw [blockText_cons] at hnil
  exact (h run hrun).nonempty
    (String.toList_eq_nil_iff.mp (List.append_eq_nil_iff.mp hnil).1)

/-- **The lines of runs are the texts of their blocks.** -/
theorem lined_plainText {runs : List Run} (h : ∀ run ∈ runs, run.Inline) :
    Text.Lined (plainText runs).toList ((baselineBlocks runs).map fun block =>
      (blockText block).toList) := by
  induction runs with
  | nil => exact .nil
  | cons run rest ih =>
      obtain ⟨hrun, hrest⟩ := List.forall_mem_cons.mp h
      have htext : run.text.toList ≠ [] :=
        mt String.toList_eq_nil_iff.mp hrun.nonempty
      cases rest with
      | nil =>
          have hplain : plainText [run] = run.text := by
            simp [plainText, Joiner.push, Joiner.empty, Joiner.leavesLine]
          simpa [hplain, baselineBlocks_singleton, blockText]
            using Text.Lined.last htext hrun.noFeed
      | cons next rest =>
          rw [plainText_cons_cons rest hrun (hrest next List.mem_cons_self),
            String.toList_append, String.toList_append]
          have hlines := ih hrest
          cases hoff : run.offLine next with
          | true =>
              have hend : run.text.toList.getLast? ≠ some '\r' := fun hlast =>
                hrun.noReturn (List.mem_of_mem_getLast? hlast)
              rw [baselineBlocks_of_offLine rest hoff, List.map_cons,
                blockText_cons]
              simpa [blockText] using Text.Lined.feed hrun.noFeed hend hlines
          | false =>
              cases hblocks : baselineBlocks (next :: rest) with
              | nil => cases List.splitBy_eq_nil.mp hblocks
              | cons block blocks =>
                  have hblock : (blockText block).toList ≠ [] :=
                    mt String.toList_eq_nil_iff.mp
                      (blockText_ne hrest (by simp [hblocks]))
                  rw [hblocks] at hlines
                  rw [baselineBlocks_of_onLine hoff hblocks, List.map_cons,
                    blockText_cons]
                  simpa using hlines.append hrun.noFeed hblock

theorem lines_plainText {runs : List Run} (h : ∀ run ∈ runs, run.Inline) :
    Text.lines (plainText runs) = (baselineBlocks runs).map blockText := by
  rw [Text.lines, Text.lined_iff.mp (lined_plainText h), List.map_map]
  refine List.map_congr_left fun block _ => ?_
  simp

/-- In composed form, too, the lines of runs are the texts of their blocks. -/
theorem lined_composed_plainText {runs : List Run} (h : ∀ run ∈ runs, run.Inline) :
    Text.Lined (Text.composed (plainText runs)).toList
      ((baselineBlocks runs).map fun block =>
        (Text.composed (blockText block)).toList) := by
  have hlined := Text.lined_composedChars (lined_plainText h)
  rw [List.map_map] at hlined
  simp only [Text.toList_composed]
  exact hlined

/-- Nothing but the order of runs counts for their texts put together. -/
theorem join_map_blockText (blocks : List (List Run)) :
    String.join (blocks.map blockText) =
      String.join (blocks.flatten.map (·.text)) := by
  induction blocks with
  | nil => rfl
  | cons block blocks ih =>
      rw [← String.toList_inj] at ih ⊢
      simp only [String.toList_join, List.map_cons, List.flatMap_cons,
        List.flatten_cons, List.map_append, List.flatMap_append] at ih ⊢
      rw [ih, blockText, String.toList_join]

/-! ## Pages -/

/-- **The lines of a page are its baselines.**  If no run of a page is empty or
has line ends of its own, the lines of its text are the texts of the maximal
blocks of runs in which each stays on the line of the run before it.  So all
text is there once and in order, no line is blank, and a topic that stands in
the text of one block only is on the line of that block only.  In composed form,
too, the line of a topic is that of the first block that holds it. -/
theorem Page.lines_are_baselines (page : Page) (h : ∀ run ∈ page.runs, run.Inline) :
    Text.lines page.plainText = (baselineBlocks page.runs).map blockText ∧
    (baselineBlocks page.runs).flatten = page.runs ∧
    (∀ block ∈ baselineBlocks page.runs, block ≠ [] ∧
      block.IsChain fun last run => last.offLine run = false) ∧
    ((baselineBlocks page.runs).IsChain fun block next =>
      ∃ last ∈ block.getLast?, ∃ run ∈ next.head?, last.offLine run = true) ∧
    String.join (Text.lines page.plainText) = String.join (page.runs.map (·.text)) ∧
    (∀ line ∈ Text.lines page.plainText, line ≠ "") ∧
    (∀ topic before block after, baselineBlocks page.runs =
      before ++ block :: after →
      Text.contains (blockText block) topic = true →
      (∀ other ∈ before ++ after, Text.contains (blockText other) topic = false) →
      (Text.lines page.plainText).filter (Text.contains · topic) =
        [blockText block]) ∧
    (∀ topic before block after, baselineBlocks page.runs =
      before ++ block :: after →
      Contents.HoldsTopic topic (Text.composed (blockText block)).toList →
      (∀ other ∈ before,
        ¬ Contents.HoldsTopic topic (Text.composed (blockText other)).toList) →
      Contents.FirstLine page.plainText topic
        (Text.composed (blockText block))) := by
  have hlines : Text.lines page.plainText =
      (baselineBlocks page.runs).map blockText := lines_plainText h
  obtain ⟨hflat, hne, hchain, hborder⟩ :=
    List.splitBy_eq_iff.mp (rfl : baselineBlocks page.runs = _)
  refine ⟨hlines, hflat.symm, ?_, ?_, ?_, ?_, ?_, ?_⟩
  · intro block hblock
    refine ⟨fun hnil => hne (hnil ▸ hblock), ?_⟩
    simpa using hchain block hblock
  · refine hborder.imp ?_
    rintro block next ⟨ha, hb, hoff⟩
    exact ⟨_, List.getLast?_eq_some_getLast ha, _, List.head?_eq_some_head hb,
      by simpa using hoff⟩
  · rw [hlines, join_map_blockText, ← hflat]
  · intro line hline
    rw [hlines] at hline
    obtain ⟨block, hblock, rfl⟩ := List.mem_map.mp hline
    exact blockText_ne h hblock
  · intro topic before block after hsplit hholds hothers
    obtain ⟨hbefore, hafter⟩ := List.forall_mem_append.mp hothers
    have hnone : ∀ blocks : List (List Run),
        (∀ other ∈ blocks, Text.contains (blockText other) topic = false) →
        (blocks.map blockText).filter (Text.contains · topic) = [] := by
      intro blocks hblocks
      rw [List.filter_eq_nil_iff]
      intro line hline
      obtain ⟨other, hother, rfl⟩ := List.mem_map.mp hline
      simp [hblocks other hother]
    rw [hlines, hsplit, List.map_append, List.map_cons, List.filter_append,
      List.filter_cons_of_pos (p := (Text.contains · topic)) hholds,
      hnone before hbefore, hnone after hafter, List.nil_append]
  · intro topic before block after hsplit hholds hearlier
    refine ⟨before.map fun other => (Text.composed (blockText other)).toList,
      after.map fun other => (Text.composed (blockText other)).toList, ?_,
        hholds, ?_⟩
    · have hlined := lined_composed_plainText h
      rw [hsplit, List.map_append] at hlined
      exact hlined
    · intro earlier hmem
      obtain ⟨other, hother, rfl⟩ := List.mem_map.mp hmem
      exact hearlier other hother

/-- The runs of a line on which the baseline drifts, so that the last run is off
the baseline of the first. -/
def driftingLine : List Run :=
  [⟨"Cafe", "Arial", none, 12, 0, 700⟩,
    ⟨"\u0301 ", "Arial", none, 12, 40, 700.75⟩, ⟨"7", "Arial", none, 12, 80, 701.5⟩]

/-- A page with that line and two more, the second of which is back on the first
baseline. -/
def driftingPage : Page :=
  ⟨1, driftingLine ++ [⟨"Law 12", "Arial", none, 12, 0, 650⟩,
    ⟨"Art 3", "Arial", none, 12, 0, 700⟩]⟩

/-- The drifting line is one line, and topics are on the lines of their blocks. -/
theorem driftingPage_lines_are_baselines :
    Text.lines driftingPage.plainText = ["Cafe\u0301 7", "Law 12", "Art 3"] ∧
    (Text.lines driftingPage.plainText).filter (Text.contains · "Law") =
      ["Law 12"] ∧
    Contents.FirstLine driftingPage.plainText "Caf\u00e9" "Caf\u00e9 7" := by
  have hinline : ∀ run ∈ driftingPage.runs, run.Inline := by
    have hall : driftingPage.runs.all (fun run => !run.text.isEmpty &&
        !run.text.toList.contains '\n' &&
      !run.text.toList.contains '\r') = true := by decide +kernel
    intro run hrun
    have hclean := List.all_eq_true.mp hall run hrun
    simp only [Bool.and_eq_true, Bool.not_eq_true', List.contains_eq_mem,
      decide_eq_false_iff_not, String.isEmpty_eq_false_iff] at hclean
    exact ⟨hclean.1.1, hclean.1.2, hclean.2⟩
  have hblocks : baselineBlocks driftingPage.runs = [] ++ driftingLine ::
      [[⟨"Law 12", "Arial", none, 12, 0, 650⟩],
        [⟨"Art 3", "Arial", none, 12, 0, 700⟩]] := by
    refine baselineBlocks_of_onLine (by decide +kernel)
      (baselineBlocks_of_onLine (by decide +kernel) ?_)
    refine (baselineBlocks_of_offLine _ ?_).trans
      (congrArg _ ((baselineBlocks_of_offLine _ ?_).trans rfl))
    · decide +kernel
    · decide +kernel
  obtain ⟨hlines, -, -, -, -, -, htopic, hfirst⟩ :=
    driftingPage.lines_are_baselines hinline
  have hcafe : Text.composed (blockText driftingLine) = "Caf\u00e9 7" := by
    decide +kernel
  refine ⟨?_, ?_, ?_⟩
  · rw [hlines, hblocks]
    decide +kernel
  · rw [htopic "Law" [driftingLine] [⟨"Law 12", "Arial", none, 12, 0, 650⟩]
      [[⟨"Art 3", "Arial", none, 12, 0, 700⟩]]
      hblocks (by decide +kernel) (by decide +kernel)]
    decide +kernel
  · rw [← hcafe]
    refine hfirst _ _ _ _ hblocks ?_ (by simp)
    exact (by decide +kernel : (Text.composed "Caf\u00e9").toList <:+:
        (Text.composed (blockText driftingLine)).toList)

end Prospectus
