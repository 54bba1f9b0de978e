import Prospectus.Proofs.TopicFates

/-!
# Running a batch again

A second run begins with the files that the first has left.  There a topic finds
its path as it was, or its own summary.  So what becomes of it follows from what
became of it the first time (`Outcome.again`): a topic that failed fails again,
and a summary that was written is written again or passed over.  In particular
no topic ends the batch (`neverFatal_again`), and reports, files and questions
of the second run are read off the first (`reportOn_again`, `file?_again`,
`asked_again`).

All this hangs on what a write that fails leaves behind.  In the file systems of
this library it makes no file, but it may make directories on the way to its
path, and the topic may find these the second time.
-/

namespace Prospectus.Batch

open Storage

/-- What a topic that came to an outcome comes to the next time. -/
def Outcome.again (existing : Existing) : Outcome → Outcome
  | .written => if existing = .skip then .skipped else .written
  | .skipped => .skipped
  | .failed e => .failed e

/-! ## The end of the first run -/

/-- **A run that gives a report** leaves jobs and files that fit the fates of
the topics. -/
theorem fits_of_run_ok {b : Batch} {turns : List Nat} {topics : List String}
    {started finished : Time.Moment} {w later : World} {report : Report}
    (hcompatible : b.Compatible (cleanTopics topics) (b.opening w))
    (hharmless : b.FailsHarmlessly (cleanTopics topics) (b.opening w))
    (hrun : b.run turns topics started finished w = (later, .ok report)) :
    ∃ jobs outcomes, b.Fits (cleanTopics topics) (b.opening w) jobs later ∧
      EndedWith (cleanTopics topics) jobs outcomes ∧
      report = reportOn started finished ((cleanTopics topics).zip outcomes) := by
  have houtput := outputStays_opening (canStart_of_run_ok hrun).1
  obtain ⟨outcomes, hexecute, hreport⟩ := execute_of_run_ok hrun
  obtain ⟨jobs, hunfolds, hended⟩ := unfolds_of_execute_ok hexecute
  exact ⟨jobs, outcomes, fits_of_unfolds hcompatible hharmless houtput hunfolds,
    hended, hreport⟩

section Ended

variable {b : Batch} {topics : List String} {start w : World} {jobs : List Job}
  {outcomes : List Outcome}

/-- The outcome of each topic fits its fate. -/
theorem Fits.outcome (h : b.Fits topics start jobs w)
    (hended : EndedWith topics jobs outcomes) {i : Nat}
    {topic : String} (htopic : topics[i]? = some topic) :
    ∃ outcome, outcomes[i]? = some outcome ∧
      b.StageFits start w.files topic (.finished (.ok outcome)) := by
  obtain ⟨outcome, houtcome, hjob⟩ := hended.job i topic htopic
  exact ⟨outcome, houtcome, h.stage i _ _ hjob rfl⟩

/-- At the end, the summary of every topic that is written is there. -/
theorem Fits.hasSummary (h : b.Fits topics start jobs w)
    (hended : EndedWith topics jobs outcomes) {topic : String}
    (htopic : topic ∈ topics) (hfate : b.fate topic start = .ok .written) :
    b.HasSummary topic start w.files := by
  obtain ⟨i, hi⟩ := List.mem_iff_getElem?.mp htopic
  obtain ⟨outcome, -, ⟨-, hhas⟩ | ⟨-, -, hhas⟩⟩ := h.outcome hended hi
  · exact hhas hfate
  · exact hhas

end Ended

/-! ## The beginning of the second -/

/-- Where the output directory has been made, it is not made again. -/
theorem prepareOutput_again {b : Batch} {w : World}
    (h : (prepareOutput w.files b.output).2 = .ok ())
    {later : FileSystem} (hlater : (b.opening w).files.Extends later) :
    prepareOutput later b.output = (later, .ok ()) := by
  have hmade : later.makeDirectories b.output = (later, .ok ()) := by
    cases hempty : b.output.isEmpty with
    | true =>
      simp [FileSystem.makeDirectories, FileSystem.makeDirectoriesFrom, hempty]
    | false =>
        refine FileSystem.makeDirectories_of_isDirectory ?_
        rw [outputStays_opening h _ hlater, hempty]
        rfl
  rw [prepareOutput, hmade]

section Again

variable {b : Batch} {topics : List String} {topic : String} {start next : World}

/-- Topics that get along go on to do so. -/
theorem Compatible.again (h : b.Compatible topics start)
    (hreached : FileSystem.Reached (topics.map b.pathOf) start.files
      next.files) : b.Compatible topics next where
  onlyComputes := h.onlyComputes
  steady files hfiles n := by
    rw [h.steady _ (hreached.trans hfiles), h.steady _ hreached]
  place_ne topic htopic other hother hne l := by
    rw [hreached.extends.place?_eq, hreached.extends.place?_eq]
    exact h.place_ne topic htopic other hother hne l
  apart files hfiles := h.apart files (hreached.trans hfiles)

/-- Writes that fail go on to do no harm. -/
theorem FailsHarmlessly.again (h : b.FailsHarmlessly topics start)
    (hreached : FileSystem.Reached (topics.map b.pathOf) start.files next.files) :
    b.FailsHarmlessly topics next :=
  fun files hfiles => h files (hreached.trans hfiles)

/-- The summary of a topic is the same again. -/
theorem Compatible.summaryOf_again (h : b.Compatible topics start)
    (hreached : FileSystem.Reached (topics.map b.pathOf) start.files next.files)
    (topic : String) :
    b.summaryOf topic next = b.summaryOf topic start := by
  obtain ⟨answer, hgenerate⟩ := h.onlyComputes
  simp only [summaryOf, h.promptFor_eq hreached, hgenerate]

/-- A topic whose summary is there is written again or passed over. -/
theorem fate_again_of_hasSummary (hcompatible : b.Compatible topics start)
    (hreached : FileSystem.Reached (topics.map b.pathOf) start.files next.files)
    (h : b.HasSummary topic start next.files) :
    b.fate topic next = .ok (Outcome.again b.options.existing .written) := by
  cases hexisting : b.options.existing with
  | skip =>
      have hpass : b.passesOver topic next.files = true := by
        rw [passesOver, hexisting, h.exists?_eq]
        rfl
      exact fate_of_passesOver hpass
  | overwrite =>
      have hpass : b.passesOver topic next.files = false := by
        rw [passesOver, hexisting]
        rfl
      obtain ⟨text, parent, name, hsummary, hsited, hfile⟩ := h.stands
      rw [fate_of_summary_ok hcompatible.onlyComputes hpass
        ((hcompatible.summaryOf_again hreached topic).trans hsummary)]
      exact conclude_eq_written_iff.mpr (h.writeText_ok text)

/-- A topic that finds its path as it was comes to the same again. -/
theorem fate_again_of_sameAccess (hcompatible : b.Compatible topics start)
    (houtput : b.OutputStays start.files)
    (hreached : FileSystem.Reached (topics.map b.pathOf) start.files next.files)
    (h : FileSystem.SameAccess (b.pathOf topic) start.files next.files) :
    b.fate topic next = b.fate topic start := by
  have halike : b.Alike topic next start :=
    ⟨hcompatible.steady _ hreached _, h.symm, houtput.later hreached.extends,
      houtput⟩
  exact halike.process_eq hcompatible.onlyComputes

/-- **What became of a topic decides what becomes of it again.** -/
theorem outcome_again (hcompatible : b.Compatible topics start)
    (houtput : b.OutputStays start.files)
    (hfiles : b.FilesFit topics start next.files) (htopic : topic ∈ topics)
    {outcome outcome' : Outcome} {last : FileSystem}
    (h : b.StageFits start next.files topic (.finished (.ok outcome)))
    (h' : b.StageFits next last topic (.finished (.ok outcome'))) :
    outcome' = outcome.again b.options.existing := by
  by_cases hhas : b.HasSummary topic start next.files
  · -- the summary is there: it is written again, or passed over
    have hfate := fate_again_of_hasSummary hcompatible hfiles.reached hhas
    have hafter : outcome' = Outcome.again b.options.existing .written := by
      rcases h' with ⟨hsame, -⟩ | ⟨hskipped, hskip, -⟩
      · exact Except.ok.inj (hsame.trans hfate)
      · cases hskipped
        rw [hskip]
        rfl
    rcases h with ⟨hsame, -⟩ | ⟨hskipped, hskip, -⟩
    · cases hsame.trans hhas.fate_eq
      exact hafter
    · cases hskipped
      rw [hafter, hskip]
      rfl
  · -- the path is as it was, and the topic was not written
    have haccess := (hfiles.access topic htopic).resolve_right hhas
    have hfate :=
      fate_again_of_sameAccess hcompatible houtput hfiles.reached haccess
    obtain ⟨hsame, hwritten⟩ | ⟨-, -, hthere⟩ := h
    · have hagain : outcome.again b.options.existing = outcome := by
        cases outcome with
        | written => exact absurd (hwritten hsame.symm) hhas
        | skipped | failed e => rfl
      rw [hagain]
      rcases h' with ⟨hsame', -⟩ | ⟨-, -, hthere⟩
      · exact Except.ok.inj ((hsame'.trans hfate).trans hsame.symm)
      · exact absurd (hwritten (hfate.symm.trans hthere.fate_eq)) hhas
    · exact absurd hthere hhas

end Again

/-- A batch that could start can start again. -/
theorem canStart_again {b : Batch} {topics : List String} {w again : World}
    (hcompatible : b.Compatible topics (b.opening w)) (hstart : b.CanStart w)
    (hprepared : prepareOutput again.files b.output = (again.files, .ok ()))
    (hreached : FileSystem.Reached (topics.map b.pathOf) (b.opening w).files
      (b.opening again).files) :
    b.CanStart again := by
  obtain ⟨-, source, hopen⟩ := hstart
  refine ⟨by rw [hprepared], source, ?_⟩
  rw [hcompatible.steady _ hreached, ← hcompatible.steady _ .start w.opened, hopen]

/-! ## The two runs together -/

section Both

variable {b : Batch} {topics : List String} {start next w last : World}
  {jobs jobs' : List Job} {outcomes outcomes' : List Outcome}

/-- No topic ends the batch the second time. -/
theorem neverFatal_again (hcompatible : b.Compatible topics start)
    (hharmless : b.FailsHarmlessly topics start)
    (houtput : b.OutputStays start.files) (h : b.Fits topics start jobs w)
    (hended : EndedWith topics jobs outcomes)
    (hnext : next.files = w.files) : b.NeverFatal (jobsOf topics) next := by
  have hfiles : b.FilesFit topics start next.files := hnext ▸ h.files
  intro now v hunfolds job hjob e hstage
  have hfits := fits_of_unfolds (hcompatible.again hfiles.reached)
    (hharmless.again hfiles.reached)
    (houtput.later hfiles.reached.extends) hunfolds
  obtain ⟨k, hk⟩ := List.mem_iff_getElem?.mp hjob
  have htopic := hfits.topic_mem k job hk
  obtain ⟨i, hi⟩ := List.mem_iff_getElem?.mp htopic
  obtain ⟨outcome, -, hfirst⟩ := h.outcome hended hi
  rcases hfits.stage k job _ hk hstage with ⟨herror, -⟩ | ⟨herror, -⟩
  · rcases hfiles.access job.topic htopic with haccess | hhas
    · rw [fate_again_of_sameAccess hcompatible houtput hfiles.reached haccess]
        at herror
      rcases hfirst with ⟨hok, -⟩ | ⟨-, -, hhas⟩
      · cases herror.trans hok.symm
      · cases herror.trans hhas.fate_eq
    · rw [fate_again_of_hasSummary hcompatible hfiles.reached hhas] at herror
      cases herror
  · cases herror

/-- **The outcomes of the second run** follow from those of the first. -/
theorem outcomes_again (hcompatible : b.Compatible topics start)
    (houtput : b.OutputStays start.files) (h : b.Fits topics start jobs w)
    (hended : EndedWith topics jobs outcomes) (hnext : next.files = w.files)
    (h' : b.Fits topics next jobs' last)
    (hended' : EndedWith topics jobs' outcomes') :
    outcomes' = outcomes.map (Outcome.again b.options.existing) := by
  refine List.ext_getElem? fun i => ?_
  rw [List.getElem?_map]
  cases htopic : topics[i]? with
  | none =>
      have hi : topics.length ≤ i := List.getElem?_eq_none_iff.mp htopic
      rw [List.getElem?_eq_none (hended'.length_outcomes ▸ hi),
        List.getElem?_eq_none (hended.length_outcomes ▸ hi)]
      rfl
  | some topic =>
      obtain ⟨outcome, houtcome, hfirst⟩ := h.outcome hended htopic
      obtain ⟨outcome', houtcome', hsecond⟩ := h'.outcome hended' htopic
      rw [← hnext] at hfirst
      rw [houtcome, houtcome', outcome_again hcompatible houtput (hnext ▸ h.files)
        (List.mem_of_getElem? htopic) hfirst hsecond]
      rfl

/-- **The second run changes no file.**  What it writes, if anything, is there
already. -/
theorem file?_again (hcompatible : b.Compatible topics start)
    (houtput : b.OutputStays start.files) (h : b.Fits topics start jobs w)
    (hended : EndedWith topics jobs outcomes) (hnext : next.files = w.files)
    (h' : b.Fits topics next jobs' last) (l : Location) :
    last.files.file? l = w.files.file? l := by
  have hfiles : b.FilesFit topics start next.files := hnext ▸ h.files
  by_cases hwritten : ∃ topic ∈ topics, b.HasSummary topic next last.files ∧
      next.files.place? (b.pathOf topic) = some l
  · obtain ⟨topic, htopic, hhas', hplace⟩ := hwritten
    -- the topic was written the first time as well
    have hhas : b.HasSummary topic start w.files := by
      rcases hfiles.access topic htopic with haccess | hhas
      · refine h.hasSummary hended htopic ?_
        rw [← fate_again_of_sameAccess hcompatible houtput hfiles.reached
          haccess, hhas'.fate_eq]
      · exact hnext ▸ hhas
    obtain ⟨text, parent, name, hsummary, hsited, hfile⟩ := hhas.stands
    obtain ⟨text', parent', name', hsummary', hsited', hfile'⟩ := hhas'.stands
    have htext : text' = text := by
      rw [hcompatible.summaryOf_again hfiles.reached, hsummary] at hsummary'
      exact (Except.ok.inj hsummary').symm
    have hl : parent ++ [name] = l := by
      rw [hnext, hsited.place?_eq] at hplace
      exact Option.some.inj hplace
    have hl' : parent' ++ [name'] = l := by
      rw [← h'.files.reached.extends.place?_eq, hsited'.place?_eq] at hplace
      exact Option.some.inj hplace
    rw [← hl', hfile', hl', ← hl, hfile, htext]
  · rw [h'.files.untouched l fun topic htopic hhas hplace =>
      hwritten ⟨topic, htopic, hhas, hplace⟩, hnext]

/-- What the summarizer is asked in a run that passes over what is there, read
off the outcomes of the run before: the prompts of the topics that failed. -/
theorem asked_again (htopics : jobs'.map (·.topic) = topics)
    (hresults : jobs'.map (·.result?) =
      (outcomes.map (Outcome.again .skip)).map fun outcome => some (.ok outcome)) :
    jobs'.flatMap (Job.asked b start) =
      (((topics.zip outcomes).filterMap failureOf?).map (·.topic)).flatMap
        (b.callsFor start) := by
  subst htopics
  induction jobs' generalizing outcomes with
  | nil => rfl
  | cons job rest ih =>
      cases outcomes with
      | nil => cases hresults
      | cons outcome others =>
          obtain ⟨hjob, hrest⟩ := List.cons.inj hresults
          have hdone : job.conclusion? = some (.ok (outcome.again .skip)) := by
            rw [Job.conclusion?, Job.stage_of_result hjob]
          rw [List.flatMap_cons, ih hrest, List.map_cons, List.zip_cons_cons,
            List.filterMap_cons]
          cases outcome with
          | written | skipped =>
              rw [Job.asked_of_skipped hdone, failureOf?]
              rfl
          | failed e =>
              rw [Job.asked_of_conclusion hdone (by simp [Outcome.again]),
                failureOf?, List.map_cons, List.flatMap_cons]

end Both

/-- A topic that failed is listed the same again, and no other is. -/
theorem failureOf?_again (existing : Existing) (topic : String)
    (outcome : Outcome) :
    failureOf? (topic, outcome.again existing) = failureOf? (topic, outcome) := by
  cases outcome with
  | written => cases existing <;> rfl
  | skipped | failed e => rfl

/-- The failures of a report on a second run. -/
theorem failures_again (existing : Existing) (topics : List String)
    (outcomes : List Outcome) :
    (topics.zip (outcomes.map (Outcome.again existing))).filterMap failureOf? =
      (topics.zip outcomes).filterMap failureOf? := by
  rw [List.zip_map_right, List.filterMap_map]
  refine List.filterMap_congr fun result _ => ?_
  exact failureOf?_again existing result.1 result.2

/-- The counts of outcomes the second time. -/
theorem counts_again (outcomes : List Outcome) :
    outcomes.map (Outcome.again .overwrite) = outcomes ∧
      (outcomes.map (Outcome.again .skip)).count .written = 0 ∧
      (outcomes.map (Outcome.again .skip)).count .skipped =
        outcomes.count .written + outcomes.count .skipped := by
  induction outcomes with
  | nil => exact ⟨rfl, rfl, rfl⟩
  | cons outcome rest ih =>
      obtain ⟨hsame, hwritten, hskipped⟩ := ih
      rw [List.map_cons, List.map_cons, hsame, List.count_cons, List.count_cons,
        List.count_cons, List.count_cons, hwritten, hskipped]
      cases outcome with
      | written => simp [Outcome.again, Nat.add_right_comm]
      | skipped => simp [Outcome.again, Nat.add_assoc]
      | failed e => simp [Outcome.again]

/-- **The report on a second run** lists the same failures.  Its counts are the
same where summaries are written over, and move from one to the other where they
are passed over. -/
theorem reportOn_again {topics : List String} {outcomes : List Outcome}
    (h : outcomes.length = topics.length) (existing : Existing)
    (started finished started' finished' : Time.Moment) {first second : Report}
    (hfirst : first = reportOn started finished (topics.zip outcomes))
    (hsecond : second = reportOn started' finished'
      (topics.zip (outcomes.map (Outcome.again existing)))) :
    second.failures = first.failures ∧
      (existing = .overwrite → second.succeeded = first.succeeded ∧
        second.skipped = first.skipped) ∧
      (existing = .skip → second.succeeded = 0 ∧
        second.skipped = first.succeeded + first.skipped) := by
  have hzip : ∀ {outcomes : List Outcome}, outcomes.length = topics.length →
      (topics.zip outcomes).map (·.2) = outcomes :=
    fun hlength => List.map_snd_zip (by omega)
  obtain ⟨hsame, hwritten, hskipped⟩ := counts_again outcomes
  rw [reportOn_eq, hzip h] at hfirst
  rw [reportOn_eq, hzip (by rw [List.length_map, h]), failures_again] at hsecond
  subst hfirst hsecond
  refine ⟨rfl, ?_, ?_⟩
  · rintro rfl
    rw [hsame]
    exact ⟨rfl, rfl⟩
  · rintro rfl
    exact ⟨hwritten, hskipped⟩

/-- **Running a batch again.**  Let topics get along and writes that fail do no
harm to their own paths.  Then after a run that gives a report, a second run on
the same files gives a report too, with any number of workers who can be
started, as many as before or not, and whichever of them moves next.  The same
topics fail, with the same errors, and no file changes.

If what is there is written over, as many topics succeed as before.  If it is
passed over, none is written and all that did not fail are passed over, and the
summarizer is asked about the topics that failed and no others. -/
theorem run_again_repeats {b : Batch} {turns : List Nat} {topics : List String}
    {started finished : Time.Moment} {w later : World} {report : Report}
    (hcompatible : b.Compatible (cleanTopics topics) (b.opening w))
    (hharmless : b.FailsHarmlessly (cleanTopics topics) (b.opening w))
    (hrun : b.run turns topics started finished w = (later, .ok report))
    {workers : Nat} {refusal : Option String}
    (hcrew : (b.withCrew workers refusal).CrewStarts) {again : World}
    (hagain : again.files = later.files) (turns' : List Nat)
    (started' finished' : Time.Moment) :
    ∃ last report',
      (b.withCrew workers refusal).run turns' topics started' finished' again =
        (last, .ok report') ∧
      report'.failures = report.failures ∧
      (∀ l, last.files.file? l = later.files.file? l) ∧
      (b.options.existing = .overwrite →
        report'.succeeded = report.succeeded ∧ report'.skipped = report.skipped) ∧
      (b.options.existing = .skip →
        report'.succeeded = 0 ∧
        report'.skipped = report.succeeded + report.skipped ∧
        ∃ asked, last.calls = again.calls ++ asked ∧
          asked.Perm (report.failedTopics.flatMap (b.callsFor (b.opening w)))) := by
  have hstart := canStart_of_run_ok hrun
  have houtput := outputStays_opening hstart.1
  obtain ⟨jobs, outcomes, hfits, hended, rfl⟩ :=
    fits_of_run_ok hcompatible hharmless hrun
  -- the second run begins with the files of the first
  have hlater : (b.opening w).files.Extends again.files :=
    hagain ▸ hfits.files.reached.extends
  have hprepared := prepareOutput_again hstart.1 hlater
  have hnext : (b.opening again).files = later.files := by
    rw [opening, hprepared, hagain]
  have hreached : FileSystem.Reached ((cleanTopics topics).map b.pathOf)
      (b.opening w).files
      (b.opening again).files := hnext ▸ hfits.files.reached
  have hsame := canStart_again hcompatible hstart hprepared hreached
  have hstart' : (b.withCrew workers refusal).CanStart again := hsame
  -- it is a series of moves that the workers of the first run could make as
  -- well
  have hnever := neverFatal_again hcompatible hharmless houtput hfits hended hnext
  obtain ⟨last, outcomes', hexecute⟩ := hnever.withCrew.execute_ok hcrew turns'
  obtain ⟨jobs', hunfolds, hended'⟩ := unfolds_of_execute_ok hexecute
  have hfits' :=
    fits_of_unfolds (hcompatible.again hreached) (hharmless.again hreached)
    (houtput.later hreached.extends) hunfolds.of_withCrew
  have houtcomes :=
    outcomes_again hcompatible houtput hfits hended hnext hfits' hended'
  subst houtcomes
  have hrun' : (b.withCrew workers refusal).run turns' topics started'
      finished' again =
      (last, .ok (reportOn started' finished' ((cleanTopics topics).zip
        (outcomes.map (Outcome.again b.options.existing))))) := by
    have hopening : (b.withCrew workers refusal).opening again =
        b.opening again := rfl
    rw [run_of_canStart hstart', hopening, hexecute]
    rfl
  obtain ⟨hfailures, hoverwrite, hskip⟩ := reportOn_again hended.length_outcomes
    b.options.existing started finished started' finished' rfl rfl
  refine ⟨last, _, hrun', hfailures,
    file?_again hcompatible houtput hfits hended hnext hfits', hoverwrite, ?_⟩
  intro hexisting
  obtain ⟨hsucceeded, hskipped⟩ := hskip hexisting
  refine ⟨hsucceeded, hskipped, ?_⟩
  -- the questions are those of the jobs that did not pass over their topics
  obtain ⟨asked, hcalls, hperm⟩ := hfits'.calls
  refine ⟨asked, hcalls, ?_⟩
  have hprompts : b.callsFor (b.opening again) = b.callsFor (b.opening w) := by
    funext topic
    rw [callsFor, callsFor, hcompatible.promptFor_eq hreached]
  have hresults := hended'.results_eq
  rw [hexisting] at hresults
  rw [← hprompts, reportOn_eq, Report.failedTopics,
    ← asked_again hended'.topics_eq hresults]
  exact hperm

/-- Two workers write `Law` twice, since both have looked for it before either
has written it; `Cup` fails and `Art` is passed over.  The second time, with
three workers, `Law` and `Art` are passed over and `Cup` fails again, without a
question to the summarizer. -/
theorem pairBatch_repeats :
    (pairBatch.run [0, 3, 0, 3, 0, 3, 0, 3, 0, 3] fourTopics newYear newYear
      halfDone).2 = .ok ⟨newYear, some newYear, 2, 1,
          [⟨"Cup", .notFound,
            "Topic \"Cup\" not found in the table of contents"⟩]⟩ ∧
      ∃ last report,
        (pairBatch.withCrew 3 none).run [2, 1, 0] fourTopics newYear newYear
          (pairBatch.run [0, 3, 0, 3, 0, 3, 0, 3, 0, 3] fourTopics newYear
            newYear halfDone).1 = (last, .ok report) ∧
        report.failures =
          [⟨"Cup", .notFound, "Topic \"Cup\" not found in the table of contents"⟩] ∧
        report.succeeded = 0 ∧ report.skipped = 3 ∧
        last.calls = (pairBatch.run [0, 3, 0, 3, 0, 3, 0, 3, 0, 3] fourTopics
          newYear newYear
          halfDone).1.calls := by
  have hreport :
      (pairBatch.run [0, 3, 0, 3, 0, 3, 0, 3, 0, 3] fourTopics newYear newYear
      halfDone).2 = .ok ⟨newYear, some newYear, 2, 1,
        [⟨"Cup", .notFound,
          "Topic \"Cup\" not found in the table of contents"⟩]⟩ := by
    decide +kernel
  have hclean : cleanTopics fourTopics = ["Law", "Cup", "Art", "Law"] := by
    decide +kernel
  have habove : ∀ topic ∈ ["Law", "Cup", "Art", "Law"],
      parent? (pairBatch.pathOf topic) = some "out" := by
    decide +kernel
  have hdir : (pairBatch.opening halfDone).files.isDirectory "out" = true := by
    decide +kernel
  have hsited : ∀ topic ∈ ["Law", "Cup", "Art", "Law"],
      (pairBatch.opening halfDone).files.SitedAt (pairBatch.pathOf topic) ["out"]
        (topic ++ ".txt") := by
    intro topic htopic
    refine .of_parent ?_ (habove topic htopic) hdir
    simp only [List.mem_cons, List.not_mem_nil, or_false] at htopic
    rcases htopic with rfl | rfl | rfl | rfl <;> rfl
  have hnone : pairBatch.callsFor (pairBatch.opening halfDone) "Cup" = [] := by
    decide +kernel
  have hcompatible := compatible_of_sitedAt (b := pairBatch)
    ⟨fun _ prompt => .ok prompt, fun _ _ _ => rfl⟩ (fun _ _ => rfl) hsited
      (by decide +kernel)
  have hharmless := failsHarmlessly_of_sitedAt (b := pairBatch) hsited
  rw [← hclean] at hcompatible hharmless
  have hcrew : (pairBatch.withCrew 3 none).CrewStarts := fun _ => rfl
  generalize hrun : pairBatch.run [0, 3, 0, 3, 0, 3, 0, 3, 0, 3] fourTopics
      newYear newYear
    halfDone = ran at hreport ⊢
  obtain ⟨last, report, hagain, hfailures, -, -, hskip⟩ :=
    run_again_repeats hcompatible hharmless (hrun.trans (Prod.ext rfl hreport))
      hcrew rfl
      [2, 1, 0] newYear newYear
  obtain ⟨hsucceeded, hskipped, asked, hcalls, hperm⟩ := hskip rfl
  have hasked : asked = [] :=
    List.perm_nil.mp (by simpa [Report.failedTopics, hnone] using hperm)
  rw [hasked, List.append_nil] at hcalls
  exact ⟨hreport, last, report, hagain, hfailures, hsucceeded, hskipped, hcalls⟩

/-! ## Writes that fail and leave directories behind -/

/-- A catalog with topics that lead out of directories. -/
def dotted : Document :=
  .ofPages [⟨0, [⟨"Index\na/.. 2\na/../f/b/c 2", "Arial", none, 12, 0, 0⟩]⟩,
    ⟨0, [⟨"Courses", "Arial-Bold", none, 12, 0, 0⟩]⟩]

/-- A batch on that catalog, with bare topics as names of files. -/
def dottedBatch (existing : Existing) : Batch where
  options := { locator := ⟨"Index", 9⟩, extension := "", existing }
  source := .ofDocument dotted
  summarizer := .dryRun
  prompt := "?"
  output := "out"

/-- A world with a file in the output directory. -/
def occupied : World where
  files := ⟨[(["out"], .directory), (["out", "f"], .file [])], []⟩

/-- A topic gets along with itself. -/
theorem compatible_singleton {b : Batch} (hpure : b.summarizer.OnlyComputes)
    {start : World}
    (hsteady : ∀ n files, b.source.openAt n files =
      b.source.openAt start.opened start.files) (topic : String) :
    b.Compatible [topic] start where
  onlyComputes := hpure
  steady files _ n := hsteady n files
  place_ne t ht other hother hne := by
    cases List.mem_singleton.mp ht
    cases List.mem_singleton.mp hother
    exact absurd rfl hne
  apart _ _ t ht other hother hne := by
    cases List.mem_singleton.mp ht
    cases List.mem_singleton.mp hother
    exact absurd rfl hne

/-- **Directories that are left behind.**  No write that fails makes a file.
But it may make directories, and then its own path may exist the next time, so
that the topic is passed over and not listed; or writing there may fail for
another reason. -/
theorem dottedBatch_fails_otherwise_again :
    (∀ (files : FileSystem) path text fault, (files.writeText path text).2 =
      .error fault →
      ∀ l, (files.writeText path text).1.file? l = files.file? l) ∧
    ((dottedBatch .skip).Compatible (cleanTopics ["a/.."])
      ((dottedBatch .skip).opening bareWorld) ∧
      ((dottedBatch .skip).run [] ["a/.."] newYear newYear bareWorld).2 =
        .ok ⟨newYear, some newYear, 0, 0,
          [⟨"a/..", .collaborator,
            "Cannot write out/a/..: Is a directory (os error 21)"⟩]⟩ ∧
      ((dottedBatch .skip).run [] ["a/.."] newYear newYear
        ((dottedBatch .skip).run [] ["a/.."] newYear newYear bareWorld).1).2 =
          .ok ⟨newYear, some newYear, 0, 1, []⟩) ∧
    ((dottedBatch .overwrite).Compatible (cleanTopics ["a/../f/b/c"])
        ((dottedBatch .overwrite).opening occupied) ∧
      ((dottedBatch .overwrite).run [] ["a/../f/b/c"] newYear newYear occupied).2 =
        .ok ⟨newYear, some newYear, 0, 0,
          [⟨"a/../f/b/c", .collaborator,
            "Cannot write out/a/../f/b/c: File exists (os error 17)"⟩]⟩ ∧
      ((dottedBatch .overwrite).run [] ["a/../f/b/c"] newYear newYear
        ((dottedBatch .overwrite).run [] ["a/../f/b/c"] newYear newYear
          occupied).1).2 = .ok ⟨newYear, some newYear, 0, 0,
            [⟨"a/../f/b/c", .collaborator,
              "Cannot write out/a/../f/b/c: Not a directory (os error 20)"⟩]⟩) := by
  have hskip : cleanTopics ["a/.."] = ["a/.."] := by decide +kernel
  have hoverwrite : cleanTopics ["a/../f/b/c"] = ["a/../f/b/c"] := by decide +kernel
  have hcompatible : ∀ existing topic start,
      (dottedBatch existing).Compatible [topic] start :=
    fun _ topic _ => compatible_singleton
      ⟨fun _ prompt => .ok prompt, fun _ _ _ => rfl⟩ (fun _ _ => rfl) topic
  refine ⟨fun files path text fault h => FileSystem.file?_of_writeText_error h,
    ?_, ?_⟩
  · exact ⟨hskip ▸ hcompatible .skip _ _, by decide +kernel, by decide +kernel⟩
  · exact ⟨hoverwrite ▸ hcompatible .overwrite _ _, by decide +kernel,
      by decide +kernel⟩

end Prospectus.Batch
