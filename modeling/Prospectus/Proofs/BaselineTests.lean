import Prospectus.Pdf.TextState
import Prospectus.Proofs.FloatDistance
import Prospectus.Proofs.LineFeeds

/-!
# Two tests for one baseline

Whether two runs stand on one line is asked in two ways: `Run.sameLine` asks
whether their distance is at most the tolerance, and the joiner, before it adds
a run, whether the distance from the last run is above it (`Run.offLine`).  The
two are not each other's negation.  Where the distance is not a number both say
no: the runs do not stand on one line, and yet no line feed is put between them
(`Run.line_cases`).  This happens exactly if the place of one of them is not a
number, or if both lie at one infinity (`Run.NoDistance`), as two runs do after
moves that are too large.

For a joiner the last run decides, whatever was added before it: the joiner
keeps that run's baseline, and its text ends in the run's (`breaksBefore_push`).
-/

namespace Prospectus

namespace Run

/-- Two runs without a distance: the place of one is not a number, or both lie
at one infinity. -/
def NoDistance (p q : Run) : Prop :=
  (p.y.isNaN ∨ q.y.isNaN) ∨ p.y.isInf ∧ p.y == q.y

theorem noDistance_iff (p q : Run) :
    p.NoDistance q ↔ (p.y - q.y).abs.isNaN = true :=
  (Number.isNaN_abs_sub_iff p.y q.y).symm

/-- **The two tests.**  Of runs with a distance, one of the tests holds; of runs
without one, neither does. -/
theorem line_cases (p q : Run) :
    (¬ p.NoDistance q ∧ p.sameLine q = true ∧ p.offLine q = false) ∨
    (¬ p.NoDistance q ∧ p.sameLine q = false ∧ p.offLine q = true) ∨
    (p.NoDistance q ∧ p.sameLine q = false ∧ p.offLine q = false) := by
  have htolerance : baselineTolerance.isNaN = false := by decide
  have hcases := Number.le_cases (p.y - q.y).abs baselineTolerance
  rw [htolerance, ← noDistance_iff] at hcases
  simpa [sameLine, offLine] using hcases

end Run

namespace Joiner

/-- A line feed is put before a run that is added. -/
def BreaksBefore (j : Joiner) (run : Run) : Prop :=
  (j.push run).text = j.text ++ "\n" ++ run.text

instance (j : Joiner) (run : Run) : Decidable (j.BreaksBefore run) :=
  inferInstanceAs (Decidable (_ = _))

/-- Behind a run with a text that does not end in a line feed, the baselines
decide. -/
theorem text_push_push (j : Joiner) {p : Run} (hne : p.text ≠ "")
    (hfree : '\n' ∉ p.text.toList) (q : Run) :
    ((j.push p).push q).text = (j.push p).text ++ (if p.offLine q then "\n"
      else "") ++ q.text := by
  have hend : (j.push p).atLineStart = false := by
    rw [atLineStart, decide_eq_false_iff_not, push, getLast?_append hne]
    exact fun hlast => hfree (List.mem_of_mem_getLast? hlast)
  have hleaves : (j.push p).leavesLine q.y = p.offLine q := rfl
  rw [push, hend, hleaves]
  cases p.offLine q <;> simp

theorem breaksBefore_push (j : Joiner) {p : Run} (hne : p.text ≠ "")
    (hfree : '\n' ∉ p.text.toList) (q : Run) :
    (j.push p).BreaksBefore q ↔ p.offLine q = true := by
  rw [BreaksBefore, text_push_push j hne hfree]
  cases p.offLine q with
  | false =>
      refine iff_of_false ?_ Bool.false_ne_true
      intro h
      have hlength := congrArg String.length h
      simp at hlength
  | true => simp

/-- **A line is broken where a run leaves the baseline by a distance.**  After
any runs of which the last has a text and no line feed in it, a run is added
behind a line feed or right there.  The line feed is put exactly if the two runs
do not stand on one line and have a distance.  So it is put exactly if they do
not stand on one line, unless they have no distance. -/
theorem push_breaks_off_line (j : Joiner) (before : List Run) {p : Run}
    (hne : p.text ≠ "") (hfree : '\n' ∉ p.text.toList) (q : Run) :
    let s := (before ++ [p]).foldl push j
    (s.BreaksBefore q ∨ (s.push q).text = s.text ++ q.text) ∧
      (s.BreaksBefore q ↔ p.sameLine q = false ∧ ¬ p.NoDistance q) ∧
      ((s.BreaksBefore q ↔ p.sameLine q = false) ↔ ¬ p.NoDistance q) := by
  intro s
  have hlast : s = (before.foldl push j).push p := List.foldl_concat push j p before
  have hbreaks := breaksBefore_push (before.foldl push j) hne hfree q
  have htext := text_push_push (before.foldl push j) hne hfree q
  rw [← hlast] at hbreaks htext
  rw [hbreaks, htext]
  rcases p.line_cases q with ⟨hdistance, hsame, hoff⟩ |
    ⟨hdistance, hsame, hoff⟩ | ⟨hdistance, hsame, hoff⟩
  · simp [hdistance, hsame, hoff]
  · simp [hdistance, hsame, hoff]
  · simp [hdistance, hsame, hoff]

end Joiner

/-! ## Places without a distance -/

/-- A run at a given height. -/
def runAt (y : Float32) (text : String) : Run := ⟨text, "Arial", none, 12.0, 0.0, y⟩

/-- From one infinity to the other the distance is infinite, and the line is
broken. -/
theorem push_breaks_between_infinities :
    let p := runAt (1.0 / 0.0) "Law"
    let q := runAt (-1.0 / 0.0) "Art"
    (p.text ≠ "" ∧ '\n' ∉ p.text.toList) ∧
    (p.sameLine q = false ∧ ¬ p.NoDistance q) ∧
      (([runAt 700.0 "Index\n"] ++ [p]).foldl Joiner.push
        Joiner.empty).BreaksBefore q := by
  intro p q
  have hne : p.text ≠ "" := by decide
  have hfree : '\n' ∉ p.text.toList := by decide
  have hsame : p.sameLine q = false := by decide +kernel
  have hdistance : ¬ p.NoDistance q := by
    rw [Run.noDistance_iff]
    decide +kernel
  exact ⟨⟨hne, hfree⟩, ⟨hsame, hdistance⟩,
    (Joiner.push_breaks_off_line _ _ hne hfree q).2.1.mpr ⟨hsame, hdistance⟩⟩

/-- A run shown after two moves that together lead beyond all finite numbers. -/
def farRun (text : String) : Run :=
  runAt ((Pdf.TextMatrix.identity.translate 0.0 3e38).translate 0.0 3e38).f text

/-- Two runs after such moves do not stand on one line, and no line feed is put
between them. -/
theorem farRuns_break_no_line :
    ((farRun "Law").text ≠ "" ∧ '\n' ∉ (farRun "Law").text.toList) ∧
      ((farRun "Art").text ≠ "" ∧ '\n' ∉ (farRun "Art").text.toList) ∧
      ¬ (([farRun "Law"].foldl Joiner.push Joiner.empty).BreaksBefore
        (farRun "Art") ↔
        (farRun "Law").sameLine (farRun "Art") = false) := by
  decide +kernel

end Prospectus
