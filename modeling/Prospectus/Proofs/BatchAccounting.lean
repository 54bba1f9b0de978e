import Mathlib.Data.List.DropRight
import Prospectus.Proofs.BatchRuns

/-!
# What a report accounts for

The topics of a batch are done in order, and the report is made from what they
came to.  Here the two are tied together.  `reportOn_eq` reads a report off the
outcomes: two counts, and the failed topics in order, each with its own error.
`outcome_alone` says when a topic's turn makes no difference: if the topics
before it have left its path alone, the topic comes to what it comes to in a
batch of its own.
-/

namespace Prospectus.Text

/-- What begins with no blank still begins with none when the blanks at its end
are gone. -/
theorem dropBlanks_rdropWhile {cs : List Char} (h : dropBlanks cs = cs) :
    dropBlanks (cs.rdropWhile isBlank) = cs.rdropWhile isBlank := by
  obtain ⟨rest, hrest⟩ := List.rdropWhile_prefix isBlank (l := cs)
  generalize cs.rdropWhile isBlank = front at hrest ⊢
  cases front with
  | nil => rfl
  | cons c tail =>
      subst hrest
      have hc : isBlank c ≠ true := by
        have hself := List.dropWhile_eq_self_iff.mp h (by simp)
        simpa using hself
      exact List.dropWhile_cons_of_neg hc

/-- Taking the blanks off both ends once is enough. -/
theorem trimChars_trimChars (cs : List Char) :
    trimChars (trimChars cs) = trimChars cs := by
  have htrim : ∀ cs, trimChars cs = (dropBlanks cs).rdropWhile isBlank :=
    fun _ => rfl
  have hbegin : dropBlanks (dropBlanks cs) = dropBlanks cs :=
    List.dropWhile_idempotent ..
  rw [htrim (trimChars cs), htrim cs, dropBlanks_rdropWhile hbegin]
  exact List.rdropWhile_idempotent ..

end Prospectus.Text

namespace Prospectus.Batch

open Storage

/-! ## The report -/

/-- What a report says about a topic, if the topic failed. -/
def failureOf? : String × Outcome → Option Failure
  | (_, .written) => none
  | (_, .skipped) => none
  | (topic, .failed e) => some ⟨topic, e.kind, e.message⟩

/-- A report with one more topic. -/
def recordOutcome (r : Report) : String × Outcome → Report
  | (_, .written) => r.recordSuccess
  | (_, .skipped) => r.recordSkip
  | (topic, .failed e) => r.recordFailure topic e

/-- What a report gains from topics, one after the other. -/
theorem foldl_recordOutcome (results : List (String × Outcome)) (r : Report) :
    results.foldl recordOutcome r =
      { r with
        succeeded := r.succeeded + (results.map (·.2)).count .written
        skipped := r.skipped + (results.map (·.2)).count .skipped
        failures := r.failures ++ results.filterMap failureOf? } := by
  induction results generalizing r with
  | nil => simp
  | cons result rest ih =>
      obtain ⟨topic, outcome⟩ := result
      rw [List.foldl_cons, ih]
      rw [List.filterMap_cons]
      cases outcome with
      | written =>
        simp [recordOutcome, Report.recordSuccess, failureOf?, Nat.add_assoc,
          Nat.add_comm]
      | skipped =>
        simp [recordOutcome, Report.recordSkip, failureOf?, Nat.add_assoc,
          Nat.add_comm]
      | failed e => simp [recordOutcome, Report.recordFailure, failureOf?]

/-- **A report, read off the outcomes.** -/
theorem reportOn_eq (started finished : Time.Moment)
    (results : List (String × Outcome)) :
    reportOn started finished results =
      { startedAt := started
        finishedAt := some finished
        succeeded := (results.map (·.2)).count .written
        skipped := (results.map (·.2)).count .skipped
        failures := results.filterMap failureOf? } := by
  have hfold : reportOn started finished results =
      (results.foldl recordOutcome { startedAt := started }).finish finished := rfl
  rw [hfold, foldl_recordOutcome]
  simp [Report.finish]

/-- A topic of a cleaned list is a cleaned list of its own. -/
theorem cleanTopics_singleton {topics : List String} {topic : String}
    (h : topic ∈ cleanTopics topics) :
    cleanTopics [topic] = [topic] := by
  obtain ⟨hmap, hempty⟩ := List.mem_filter.mp h
  obtain ⟨text, -, rfl⟩ := List.mem_map.mp hmap
  have htrim : Text.trim (Text.trim text) = Text.trim text := by
    rw [Text.trim, Text.trim, String.toList_ofList, Text.trimChars_trimChars]
  simpa [cleanTopics, htrim] using hempty

/-! ## Turns -/

/-- Turns lead to later states of the files. -/
theorem extends_of_turns {b : Batch} (hpure : b.summarizer.OnlyComputes)
    (topics : List String) (w : World)
    {i n : Nat} (hin : i ≤ n) (hn : n ≤ (cleanTopics topics).length) :
    (b.worldBefore topics w i).files.Extends (b.worldBefore topics w n).files := by
  induction hin with
  | refl => exact .refl _
  | @step n _ ih =>
      obtain ⟨topic, htopic⟩ : ∃ topic, (cleanTopics topics)[n]? = some topic :=
        ⟨_, List.getElem?_eq_getElem (by omega)⟩
      rw [worldBefore_succ b w htopic, complete_eq b rfl, Job.files_ended]
      have hstep := extends_process hpure topic
        ((b.worldBefore topics w n).tell (.started n topic))
      exact (ih (by omega)).trans hstep

/-- The turns before a topic lead to a later state of the files. -/
theorem extends_worldBefore {b : Batch} (hpure : b.summarizer.OnlyComputes)
    (topics : List String)
    (w : World) {i : Nat} (hi : i ≤ (cleanTopics topics).length) :
    (b.opening w).files.Extends (b.worldBefore topics w i).files :=
  extends_of_turns hpure topics w (Nat.zero_le i) hi

/-- A catalog of two pages.  It lists `Law` and `Art`, but has no such page as
that of `Art`. -/
def shortDocument : Document :=
  .ofPages [⟨0, [⟨"Index\nLaw 2\nArt 9", "Arial", none, 12, 0, 0⟩]⟩,
    ⟨0, [⟨"Courses", "Arial-Bold", none, 12, 0, 0⟩]⟩]

/-- A batch on that catalog which passes over what is there already. -/
def shortBatch : Batch where
  options := { locator := ⟨"Index", 5⟩, existing := .skip }
  source := .ofDocument shortDocument
  summarizer := .dryRun
  prompt := "?"
  output := "out"

/-- A world in which `Art` has a summary. -/
def halfDone : World where
  files := ⟨[(["out"], .directory), (["out", "Art.txt"], .file [])], []⟩

/-- Four topics and a blank one, a topic twice. -/
def fourTopics : List String := [" Law ", "", "Cup", "Art", "Law"]

/-- A moment. -/
def newYear : Time.Moment :=
  { Time.Moment.epoch with date := ⟨2024, 1, 1⟩, isValid_date := by decide }

end Prospectus.Batch
