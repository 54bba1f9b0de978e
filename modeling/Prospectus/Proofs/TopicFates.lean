import Prospectus.Proofs.Announcements
import Prospectus.Proofs.Independence
import Prospectus.Proofs.WrittenSummaries

/-!
# What becomes of a topic

A topic may stand in a list more than once, so that its jobs meet at one path.
If different topics do not mind each other (`Compatible`) and a write that fails
leaves its own path as it was (`FailsHarmlessly`), the world in which the topics
are begun decides what becomes of each topic (`fate`): every job of the topic
comes to that, but for jobs that find the summary of another job and pass over
it.

The argument is an invariant of the files (`FilesFit`) and of the stage of each
job (`StageFits`).  A path is as at the beginning, or the topic's summary stands
there (`HasSummary`); and no job gets past a stage that its topic does not pass
in the first world.  `Fits.move` says that a move keeps this, and
`fits_of_unfolds` that every run does.  What the summarizer has been asked is
read off the stages as well (`Job.asked`).
-/

namespace Prospectus.Batch

open Storage

/-- The prompt for a topic is the same, whatever summaries are there. -/
theorem Compatible.promptFor_eq {b : Batch} {topics : List String}
    {start : World} (h : b.Compatible topics start) {files : FileSystem}
    (hreached : FileSystem.Reached (topics.map b.pathOf) start.files files)
    (n : Nat) (topic : String) :
    b.promptFor topic n files = b.promptFor topic start.opened start.files := by
  rw [promptFor, promptFor, h.steady _ hreached]

/-- A write that fails leaves its own path as it was: it exists or not as
before, and writing there is answered as before. -/
def FailsHarmlessly (b : Batch) (topics : List String) (start : World) : Prop :=
  ∀ files, FileSystem.Reached (topics.map b.pathOf) start.files files →
    ∀ topic ∈ topics, ∀ text fault,
    (files.writeText (b.pathOf topic) text).2 = .error fault →
      FileSystem.SameAccess (b.pathOf topic) files
        (files.writeText (b.pathOf topic) text).1

/-- Writes that fail do no harm where the summaries lie in a directory that is
there. -/
theorem failsHarmlessly_of_sitedAt {b : Batch} {topics : List String}
    {start : World} {parent : Location} {name : String → String}
    (hsited : ∀ topic ∈ topics,
      start.files.SitedAt (b.pathOf topic) parent (name topic)) :
    b.FailsHarmlessly topics start := by
  intro files hreached topic htopic text fault hfault
  rw [((hsited topic htopic).later hreached.extends).writeText_error hfault]
  exact .refl _ _

/-! ## Fates -/

/-- What becomes of a topic in the world in which the topics are begun. -/
def fate (b : Batch) (topic : String) (start : World) : Except Error Outcome :=
  (b.process topic start).1

section Fate

variable {b : Batch} {topic : String} {start : World}

/-- A topic that is passed over. -/
theorem fate_of_passesOver (h : b.passesOver topic start.files = true) :
    b.fate topic start = .ok .skipped := by
  rw [fate, process, if_pos h]

/-- A topic that has no summary. -/
theorem fate_of_summary_error (hpass : b.passesOver topic start.files = false)
    {e : Error}
    (h : b.summaryOf topic start = .error e) : b.fate topic start = settle e := by
  rw [fate]
  rcases process_cases b topic start with
    ⟨hover, -⟩ | ⟨-, ⟨cause, hprompt, hprocess⟩ |
      ⟨prompt, asked, hprompt, hasked, hrest⟩⟩
  · rw [hover] at hpass
    cases hpass
  · rw [summaryOf, hprompt] at h
    cases h
    rw [hprocess]
  · rw [summaryOf, hprompt] at h
    subst hasked
    rcases hrest with ⟨cause, hanswer, hprocess⟩ | ⟨text, hanswer, -⟩
    · cases hanswer.symm.trans h
      rw [hprocess]
    · cases hanswer.symm.trans h

/-- A topic that has a summary, which is to be written. -/
theorem fate_of_summary_ok (hpure : b.summarizer.OnlyComputes)
    (hpass : b.passesOver topic start.files = false)
    {text : String} (h : b.summaryOf topic start = .ok text) :
    b.fate topic start =
      b.conclude topic (start.files.writeText (b.pathOf topic) text) := by
  obtain ⟨answer, hgenerate⟩ := hpure
  rw [fate]
  rcases process_cases b topic start with
    ⟨hover, -⟩ | ⟨-, ⟨cause, hprompt, -⟩ | ⟨prompt, asked, hprompt, hasked, hrest⟩⟩
  · rw [hover] at hpass
    cases hpass
  · rw [summaryOf, hprompt] at h
    cases h
  · rw [summaryOf, hprompt] at h
    subst hasked
    rcases hrest with ⟨cause, hanswer, -⟩ | ⟨other, hanswer, hprocess⟩
    · cases hanswer.symm.trans h
    · cases hanswer.symm.trans h
      rw [hprocess, hgenerate]

end Fate

/-! ## Files -/

/-- The summary of a topic is there: the topic is one that is written, its path
leads to a place, and its summary stands there. -/
structure HasSummary (b : Batch) (topic : String) (start : World)
    (files : FileSystem) : Prop where
  fate_eq : b.fate topic start = .ok .written
  stands : ∃ text parent name, b.summaryOf topic start = .ok text ∧
    files.SitedAt (b.pathOf topic) parent name ∧
    files.file? (parent ++ [name]) = some (Text.encodeUtf8 text)

/-- **The files fit the fates.**  They have been reached by writing summaries;
the path of each topic is as at the beginning, or its summary stands there; and
every other file is as at the beginning. -/
structure FilesFit (b : Batch) (topics : List String) (start : World)
    (files : FileSystem) : Prop where
  reached : FileSystem.Reached (topics.map b.pathOf) start.files files
  access : ∀ topic ∈ topics,
    FileSystem.SameAccess (b.pathOf topic) start.files files ∨
    b.HasSummary topic start files
  untouched : ∀ l, (∀ topic ∈ topics, b.HasSummary topic start files →
    start.files.place? (b.pathOf topic) ≠ some l) →
    files.file? l = start.files.file? l

/-- Files in which nothing has been written yet fit the fates. -/
theorem filesFit_start (b : Batch) (topics : List String) (start : World) :
    b.FilesFit topics start start.files :=
  ⟨.start, fun _ _ => Or.inl (.refl _ _), fun _ _ => rfl⟩

section Files

variable {b : Batch} {topics : List String} {topic text : String}
  {start : World} {files : FileSystem}

/-- Where a summary stands, something stands. -/
theorem HasSummary.exists?_eq (h : b.HasSummary topic start files) :
    files.exists? (b.pathOf topic) = true := by
  obtain ⟨text, parent, name, -, hsited, hfile⟩ := h.stands
  rw [hsited.exists?_eq, FileSystem.node?_of_file? hfile]
  rfl

/-- Where a summary stands, a summary can be written. -/
theorem HasSummary.writeText_ok (h : b.HasSummary topic start files)
    (text : String) :
    (files.writeText (b.pathOf topic) text).2 = .ok () := by
  obtain ⟨stood, parent, name, -, hsited, hfile⟩ := h.stands
  exact hsited.writeText_ok hfile text

/-- A summary that has been written stands there. -/
theorem hasSummary_of_writeText (hfate : b.fate topic start = .ok .written)
    (hsummary : b.summaryOf topic start = .ok text)
    (h : (files.writeText (b.pathOf topic) text).2 = .ok ()) :
    b.HasSummary topic start (files.writeText (b.pathOf topic) text).1 := by
  obtain ⟨parent, name, hsited, hfile⟩ := FileSystem.sitedAt_of_writeText_ok h
  exact ⟨hfate, text, parent, name, hsummary, hsited, by rw [hfile, if_pos rfl]⟩

/-- **A summary stays** when summaries of the same batch are written, its own or
another's. -/
theorem HasSummary.write {other : String} (h : b.HasSummary other start files)
    (hcompatible : b.Compatible topics start)
    (hfiles : b.FilesFit topics start files) (htopic : topic ∈ topics)
    (hother : other ∈ topics) (hsummary : b.summaryOf topic start = .ok text) :
    b.HasSummary other start (files.writeText (b.pathOf topic) text).1 := by
  by_cases hsame : other = topic
  · subst hsame
    exact hasSummary_of_writeText h.fate_eq hsummary (h.writeText_ok text)
  · obtain ⟨text', parent, name, hsummary', hsited, hfile⟩ := h.stands
    refine ⟨h.fate_eq, text', parent, name, hsummary',
      hsited.later (FileSystem.extends_writeText ..), ?_⟩
    have hplace : start.files.place? (b.pathOf other) =
        some (parent ++ [name]) := by
      rw [← hfiles.reached.extends.place?_eq, hsited.place?_eq]
    have hne : files.place? (b.pathOf topic) ≠ some (parent ++ [name]) := by
      rw [hfiles.reached.extends.place?_eq]
      exact hcompatible.place_ne other hother topic htopic hsame _ hplace
    rw [FileSystem.file?_writeText_of_ne hne, hfile]

/-- What a topic is answered when its summary is written is what it is answered
in the first world. -/
theorem FilesFit.conclude_eq (h : b.FilesFit topics start files)
    (hcompatible : b.Compatible topics start)
    (houtput : b.OutputStays start.files) (htopic : topic ∈ topics)
    (hpass : b.passesOver topic start.files = false)
    (hsummary : b.summaryOf topic start = .ok text) :
    b.conclude topic (files.writeText (b.pathOf topic) text) =
      b.fate topic start := by
  rcases h.access topic htopic with haccess | hhas
  · have halike : b.Alike topic { start with files } start :=
      ⟨hcompatible.steady _ h.reached _, haccess.symm,
        houtput.later h.reached.extends, houtput⟩
    rw [fate_of_summary_ok hcompatible.onlyComputes hpass hsummary,
      ← halike.conclude_eq text]
  · rw [conclude_eq_written_iff.mpr (hhas.writeText_ok text), hhas.fate_eq]

/-- **Writing a summary keeps the files fit.** -/
theorem FilesFit.write (h : b.FilesFit topics start files)
    (hcompatible : b.Compatible topics start)
    (hharmless : b.FailsHarmlessly topics start)
    (houtput : b.OutputStays start.files) (htopic : topic ∈ topics)
    (hpass : b.passesOver topic start.files = false)
    (hsummary : b.summaryOf topic start = .ok text) :
    b.FilesFit topics start (files.writeText (b.pathOf topic) text).1 := by
  have hconclude := h.conclude_eq hcompatible houtput htopic hpass hsummary
  have hkeep : ∀ other ∈ topics, b.HasSummary other start files →
      b.HasSummary other start (files.writeText (b.pathOf topic) text).1 :=
    fun other hother hhas => hhas.write hcompatible h htopic hother hsummary
  have hown : (files.writeText (b.pathOf topic) text).2 = .ok () →
      b.HasSummary topic start (files.writeText (b.pathOf topic) text).1 := by
    intro hok
    rw [conclude_eq_written_iff.mpr hok] at hconclude
    exact hasSummary_of_writeText hconclude.symm hsummary hok
  refine ⟨h.reached.write (List.mem_map_of_mem htopic) text, ?_, ?_⟩
  · intro other hother
    rcases h.access other hother with haccess | hhas
    · by_cases hsame : other = topic
      · subst hsame
        cases hwrite : (files.writeText (b.pathOf other) text).2 with
        | ok u => exact Or.inr (hown hwrite)
        | error fault =>
          exact Or.inl (haccess.trans
            (hharmless files h.reached other hother text fault hwrite))
      · exact Or.inl (haccess.trans (hcompatible.apart files h.reached other
          hother topic htopic hsame text))
    · exact Or.inr (hkeep other hother hhas)
  · intro l hl
    have hplace : (files.writeText (b.pathOf topic) text).2 = .ok () →
        files.place? (b.pathOf topic) ≠ some l := by
      intro hok
      rw [h.reached.extends.place?_eq]
      exact hl topic htopic (hown hok)
    rw [FileSystem.file?_writeText_eq hplace]
    exact h.untouched l fun other hother hhas =>
      hl other hother (hkeep other hother hhas)

end Files

/-! ## Stages -/

/-- **A stage fits the fate of its topic.**  A job gets past a check only where
its topic does, and has the prompt and the summary that its topic has, in the
first world.  It ends as its topic does, or passes over a summary that has been
written meanwhile. -/
def StageFits (b : Batch) (start : World) (files : FileSystem)
    (topic : String) : Stage → Prop
  | .check => True
  | .extract => b.passesOver topic start.files = false
  | .summarize prompt =>
    b.passesOver topic start.files = false ∧
    b.promptFor topic start.opened start.files = .ok prompt
  | .write text =>
    b.passesOver topic start.files = false ∧ b.summaryOf topic start = .ok text
  | .tell result | .finished result =>
    (result = b.fate topic start ∧
      (b.fate topic start = .ok .written → b.HasSummary topic start files)) ∨
      (result = .ok .skipped ∧ b.options.existing = .skip ∧
        b.HasSummary topic start files)

/-- A stage that fits goes on to fit while summaries stay. -/
theorem StageFits.later {b : Batch} {start : World} {files later : FileSystem}
    {topic : String} {stage : Stage} (h : b.StageFits start files topic stage)
    (hkeep : b.HasSummary topic start files → b.HasSummary topic start later) :
    b.StageFits start later topic stage := by
  cases stage with
  | check | extract | summarize prompt | write text => exact h
  | tell result | finished result =>
      rcases h with ⟨hresult, hhas⟩ | ⟨hresult, hskip, hhas⟩
      · exact Or.inl ⟨hresult, fun hwritten => hkeep (hhas hwritten)⟩
      · exact Or.inr ⟨hresult, hskip, hkeep hhas⟩

section Stages

variable {b : Batch} {topics : List String} {topic : String} {start w : World}

/-- A job that ends without a summary, as its topic does in the first world. -/
theorem stageFits_settle (hpass : b.passesOver topic start.files = false)
    {e : Error} (h : b.summaryOf topic start = .error e) (files : FileSystem) :
    b.StageFits start files topic (.tell (settle e)) := by
  have hfate := fate_of_summary_error hpass h
  refine Or.inl ⟨hfate.symm, fun hwritten => ?_⟩
  cases (settle_eq_ok (hfate.symm.trans hwritten)).1

/-- The first stage: a job passes over what is there. -/
theorem stageFits_check (hfiles : b.FilesFit topics start w.files)
    (htopic : topic ∈ topics) :
    b.StageFits start w.files topic (b.step topic .check w).1 := by
  rw [step_check]
  have haccess := hfiles.access topic htopic
  cases hpass : b.passesOver topic w.files with
  | true =>
      rw [if_pos rfl]
      rcases haccess with haccess | hhas
      · have hover : b.passesOver topic start.files = true := by
          rw [passesOver, haccess.1]
          exact hpass
        have hfate := fate_of_passesOver hover
        exact Or.inl ⟨hfate.symm,
          fun hwritten => by cases hfate.symm.trans hwritten⟩
      · have hskip : b.options.existing = .skip := by
          unfold passesOver at hpass
          simpa using (Bool.and_eq_true_iff.mp hpass).1
        exact Or.inr ⟨rfl, hskip, hhas⟩
  | false =>
      rw [if_neg (by simp)]
      rcases haccess with haccess | hhas
      · exact show b.passesOver topic start.files = false by
          rw [passesOver, haccess.1]
          exact hpass
      · have hover : decide (b.options.existing = .skip) = false := by
          rw [passesOver, hhas.exists?_eq, Bool.and_true] at hpass
          exact hpass
        exact show b.passesOver topic start.files = false by
          rw [passesOver, hover, Bool.false_and]

/-- The second stage: a job has the prompt of its topic. -/
theorem stageFits_extract (hcompatible : b.Compatible topics start)
    (hfiles : b.FilesFit topics start w.files)
    (h : b.StageFits start w.files topic .extract) :
    b.StageFits start w.files topic (b.step topic .extract w).1 := by
  rw [step_extract, hcompatible.promptFor_eq hfiles.reached]
  cases hresult : b.promptFor topic start.opened start.files with
  | ok prompt => exact ⟨h, hresult⟩
  | error e => exact stageFits_settle h (by rw [summaryOf, hresult]; rfl) _

/-- The third stage: a job has the summary of its topic. -/
theorem stageFits_summarize (hpure : b.summarizer.OnlyComputes) {prompt : String}
    (h : b.StageFits start w.files topic (.summarize prompt)) :
    b.StageFits start w.files topic (b.step topic (.summarize prompt) w).1 := by
  obtain ⟨answer, hgenerate⟩ := hpure
  obtain ⟨hpass, hprompt⟩ := h
  have hsummary : b.summaryOf topic start = answer b.options.model prompt := by
    rw [summaryOf, hprompt]
    simp [Except.bind, hgenerate]
  rw [step_summarize, hgenerate]
  dsimp only
  cases hanswer : answer b.options.model prompt with
  | ok text => exact ⟨hpass, hsummary.trans hanswer⟩
  | error e => exact stageFits_settle hpass (hsummary.trans hanswer) _

/-- The fourth stage: a job ends as its topic does. -/
theorem stageFits_write (hcompatible : b.Compatible topics start)
    (houtput : b.OutputStays start.files)
    (hfiles : b.FilesFit topics start w.files) (htopic : topic ∈ topics)
    {text : String} (h : b.StageFits start w.files topic (.write text))
    {written : FileSystem × Except Fault Unit}
    (hwritten : w.files.writeText (b.pathOf topic) text = written) :
    b.StageFits start written.1 topic (.tell (b.conclude topic written)) := by
  obtain ⟨hpass, hsummary⟩ := h
  have hconclude := hfiles.conclude_eq hcompatible houtput htopic hpass hsummary
  rw [hwritten] at hconclude
  refine Or.inl ⟨hconclude, fun hfate => ?_⟩
  have hok : written.2 = .ok () :=
    conclude_eq_written_iff.mp (hconclude.trans hfate)
  rw [← hwritten] at hok ⊢
  exact hasSummary_of_writeText hfate hsummary hok

/-- **Any stage.**  One step keeps the files and the stage fit, and summaries
stay. -/
theorem StageFits.step {stage : Stage} (h : b.StageFits start w.files topic stage)
    (hcompatible : b.Compatible topics start)
    (hharmless : b.FailsHarmlessly topics start)
    (houtput : b.OutputStays start.files)
    (hfiles : b.FilesFit topics start w.files) (htopic : topic ∈ topics) :
    b.FilesFit topics start (b.step topic stage w).2.files ∧
      b.StageFits start (b.step topic stage w).2.files topic
        (b.step topic stage w).1 ∧
      ∀ other ∈ topics, b.HasSummary other start w.files →
        b.HasSummary other start (b.step topic stage w).2.files := by
  have hquiet : (b.step topic stage w).2.files = w.files →
      b.StageFits start w.files topic (b.step topic stage w).1 →
      b.FilesFit topics start (b.step topic stage w).2.files ∧
        b.StageFits start (b.step topic stage w).2.files topic
          (b.step topic stage w).1 ∧
        ∀ other ∈ topics, b.HasSummary other start w.files →
          b.HasSummary other start (b.step topic stage w).2.files := by
    intro hsame hnext
    rw [hsame]
    exact ⟨hfiles, hnext, fun _ _ hhas => hhas⟩
  cases stage with
  | check => exact hquiet (by rw [step_check_snd]) (stageFits_check hfiles htopic)
  | extract =>
    exact hquiet (by rw [step_extract]) (stageFits_extract hcompatible hfiles h)
  | summarize prompt =>
      refine hquiet ?_ (stageFits_summarize hcompatible.onlyComputes h)
      obtain ⟨answer, hgenerate⟩ := hcompatible.onlyComputes
      rw [step_summarize, hgenerate]
  | write text =>
      have hkeep := fun other hother (hhas : b.HasSummary other start w.files) =>
        hhas.write hcompatible hfiles htopic hother h.2
      have hwrite := hfiles.write hcompatible hharmless houtput htopic h.1 h.2
      have hnext := stageFits_write hcompatible houtput hfiles htopic h rfl
      rw [step_write]
      generalize w.files.writeText (b.pathOf topic) text =
          written at hkeep hwrite hnext ⊢
      exact ⟨hwrite, hnext, hkeep⟩
  | tell result | finished result => exact hquiet rfl h

end Stages

/-! ## What the summarizer is asked -/

/-- What the summarizer is asked about a topic, if there is a prompt. -/
def callsFor (b : Batch) (start : World) (topic : String) :
    List (String × String) :=
  match b.promptFor topic start.opened start.files with
  | .ok prompt => [(b.options.model, prompt)]
  | .error _ => []

/-- What has been asked on behalf of a job. -/
def Job.asked (b : Batch) (start : World) (job : Job) : List (String × String) :=
  match job.conclusion?, job.stage with
  | some (.ok .skipped), _ => []
  | some _, _ | none, some (.write _) => b.callsFor start job.topic
  | none, _ => []

/-- What has been asked for a job whose work is done, unless it passed over its
topic. -/
theorem Job.asked_of_conclusion {b : Batch} {start : World} {job : Job}
    {result : Except Error Outcome} (h : job.conclusion? = some result)
    (hresult : result ≠ .ok .skipped) :
    job.asked b start = b.callsFor start job.topic := by
  unfold asked
  rw [h]
  rcases result with e | ⟨_ | _ | e⟩
  · rfl
  · rfl
  · exact absurd rfl hresult
  · rfl

/-- Nothing has been asked for a job that passed over its topic. -/
theorem Job.asked_of_skipped {b : Batch} {start : World} {job : Job}
    (h : job.conclusion? = some (.ok .skipped)) : job.asked b start = [] := by
  unfold asked
  rw [h]

/-- A topic that fails or ends the batch is not passed over. -/
theorem settle_ne_skipped (e : Error) : settle e ≠ .ok .skipped := by
  intro hsettle
  cases (settle_eq_ok hsettle).1

/-- Nor is one whose summary is to be written. -/
theorem conclude_ne_skipped (b : Batch) (topic : String)
    (written : FileSystem × Except Fault Unit) :
    b.conclude topic written ≠ .ok .skipped := by
  intro hconclude
  rcases conclude_cases b topic written with ⟨-, hend⟩ |
    ⟨fault, -, hend | hend⟩ <;> simp [hend] at hconclude

/-- **One move** asks what is asked on behalf of its job. -/
theorem calls_move {b : Batch} {topics : List String} {start w : World} {job : Job}
    (hcompatible : b.Compatible topics start)
    (hfiles : b.FilesFit topics start w.files)
    (h : ∀ stage, job.stage = some stage →
      b.StageFits start w.files job.topic stage) :
    ∃ news, (b.move job w).2.calls = w.calls ++ news ∧
      (b.move job w).1.asked b start = job.asked b start ++ news := by
  cases hstage : job.stage with
  | none =>
      rw [move_none b hstage]
      exact ⟨[], (List.append_nil _).symm,
        by simp [Job.asked, Job.conclusion?, hstage]⟩
  | some stage =>
      have hfits := h stage hstage
      obtain ⟨events, hworld⟩ := move_snd b hstage w
      rw [hworld, move_fst b hstage]
      cases stage with
      | tell result | finished result =>
          -- what the work has come to is all that counts, and it stays
          have hdone : job.conclusion? = some result := by
            rw [Job.conclusion?, hstage]
          refine ⟨[], (List.append_nil _).symm, ?_⟩
          rw [List.append_nil]
          by_cases hskipped : result = .ok .skipped
          · rw [hskipped] at hdone
            rw [Job.asked_of_skipped hdone]
            exact Job.asked_of_skipped (by rw [hskipped]; rfl)
          · rw [Job.asked_of_conclusion hdone hskipped]
            exact Job.asked_of_conclusion rfl hskipped
      | check =>
          rw [step_check_snd, step_check]
          refine ⟨[], (List.append_nil _).symm, ?_⟩
          by_cases hpass : b.passesOver job.topic w.files = true <;>
            simp [hpass, Job.asked, Job.conclusion?, hstage]
      | extract =>
          rw [step_extract, hcompatible.promptFor_eq hfiles.reached]
          refine ⟨[], (List.append_nil _).symm, ?_⟩
          have hnone : job.asked b start = [] := by
            simp [Job.asked, Job.conclusion?, hstage]
          rw [hnone]
          cases hresult : b.promptFor job.topic start.opened start.files with
          | ok prompt => rfl
          | error e =>
              rw [Job.asked_of_conclusion rfl (settle_ne_skipped e),
                callsFor, hresult]
              rfl
      | summarize prompt =>
          have hcalls : b.callsFor start job.topic =
              [(b.options.model, prompt)] := by
            rw [callsFor, hfits.2]
          have hnone : job.asked b start = [] := by
            simp [Job.asked, Job.conclusion?, hstage]
          rw [step_summarize, hnone]
          refine ⟨[(b.options.model, prompt)], rfl, ?_⟩
          dsimp only
          cases (b.summarizer.generate b.options.model prompt w.files).2 with
          | ok text => exact hcalls
          | error e =>
            rw [Job.asked_of_conclusion rfl (settle_ne_skipped e)]; exact hcalls
      | write text =>
          have hasked : job.asked b start = b.callsFor start job.topic := by
            simp [Job.asked, Job.conclusion?, hstage]
          rw [step_write, hasked]
          generalize w.files.writeText (b.pathOf job.topic) text = written
          refine ⟨[], (List.append_nil _).symm, ?_⟩
          rw [Job.asked_of_conclusion rfl (conclude_ne_skipped b job.topic _),
            List.append_nil]

/-! ## All jobs -/

/-- **Jobs and the world fit the fates of the topics.** -/
structure Fits (b : Batch) (topics : List String) (start : World)
    (jobs : List Job) (w : World) : Prop where
  files : b.FilesFit topics start w.files
  topic_mem : ∀ (i : Nat) job, jobs[i]? = some job → job.topic ∈ topics
  stage : ∀ (i : Nat) job stage, jobs[i]? = some job → job.stage = some stage →
    b.StageFits start w.files job.topic stage
  calls : ∃ asked, w.calls = start.calls ++ asked ∧
    asked.Perm (jobs.flatMap (Job.asked b start))

/-- Jobs that have not been started fit the fates of their topics. -/
theorem fits_jobsOf (b : Batch) (topics : List String) (start : World) :
    b.Fits topics start (jobsOf topics) start where
  files := filesFit_start b topics start
  topic_mem i job hjob := by
    rw [getElem?_jobsOf] at hjob
    obtain ⟨topic, htopic, rfl⟩ := Option.map_eq_some_iff.mp hjob
    exact List.mem_of_getElem? htopic
  stage i job stage hjob hstage := by
    rw [stage_of_mem_jobsOf (List.mem_of_getElem? hjob)] at hstage
    cases hstage
  calls := by
    refine ⟨[], (List.append_nil _).symm, ?_⟩
    rw [List.flatMap_eq_nil_iff.mpr]
    intro job hjob
    simp [Job.asked, Job.conclusion?, stage_of_mem_jobsOf hjob]

section Moves

variable {b : Batch} {topics : List String} {start w : World} {jobs : List Job}

/-- A move of a job keeps the files and its stage fit, and summaries stay. -/
theorem Fits.move_job (h : b.Fits topics start jobs w)
    (hcompatible : b.Compatible topics start)
    (hharmless : b.FailsHarmlessly topics start)
    (houtput : b.OutputStays start.files) {k : Nat} {job : Job}
    (hjob : jobs[k]? = some job) :
    b.FilesFit topics start (b.move job w).2.files ∧
      (∀ stage, (b.move job w).1.stage = some stage →
        b.StageFits start (b.move job w).2.files job.topic stage) ∧
      ∀ other ∈ topics, b.HasSummary other start w.files →
        b.HasSummary other start (b.move job w).2.files := by
  cases hstage : job.stage with
  | none =>
      rw [move_none b hstage]
      refine ⟨h.files, ?_, fun _ _ hhas => hhas⟩
      intro stage hnext
      cases hnext
      trivial
  | some stage =>
      have hfits := h.stage k job stage hjob hstage
      obtain ⟨events, hworld⟩ := move_snd b hstage w
      obtain ⟨hfiles, hnext, hkeep⟩ :=
        hfits.step hcompatible hharmless houtput h.files (h.topic_mem k job hjob)
      rw [hworld, move_fst b hstage]
      refine ⟨hfiles, ?_, hkeep⟩
      intro other hother
      cases hother
      exact hnext

/-- **One move keeps all fit.** -/
theorem Fits.move (h : b.Fits topics start jobs w)
    (hcompatible : b.Compatible topics start)
    (hharmless : b.FailsHarmlessly topics start)
    (houtput : b.OutputStays start.files) {k : Nat} {job : Job}
    (hjob : jobs[k]? = some job) :
    b.Fits topics start (jobs.set k (b.move job w).1) (b.move job w).2 := by
  obtain ⟨hfiles, hstage, hkeep⟩ := h.move_job hcompatible hharmless houtput hjob
  have htopic : (b.move job w).1.topic = job.topic := (Batch.move_job b job w).2
  refine ⟨hfiles, ?_, ?_, ?_⟩
  · intro i other hother
    rcases getElem?_set_cases hother with ⟨-, rfl⟩ | ⟨-, hold⟩
    · rw [htopic]
      exact h.topic_mem k job hjob
    · exact h.topic_mem i other hold
  · intro i other stage hother hnext
    rcases getElem?_set_cases hother with ⟨-, rfl⟩ | ⟨-, hold⟩
    · rw [htopic]
      exact hstage stage hnext
    · exact (h.stage i other stage hold hnext).later
        (hkeep other.topic (h.topic_mem i other hold))
  · obtain ⟨asked, hcalls, hperm⟩ := h.calls
    obtain ⟨news, hnews, hgain⟩ :=
      calls_move hcompatible h.files fun stage => h.stage k job stage hjob
    refine ⟨asked ++ news, by rw [hnews, hcalls, List.append_assoc], ?_⟩
    exact (hperm.append_right news).trans
      (perm_flatMap_set (Job.asked b start) hjob hgain).symm

/-- **Every series of moves keeps all fit.** -/
theorem fits_of_unfolds (hcompatible : b.Compatible topics start)
    (hharmless : b.FailsHarmlessly topics start)
    (houtput : b.OutputStays start.files)
    (h : b.Unfolds (jobsOf topics) start jobs w) :
    b.Fits topics start jobs w := by
  induction h with
  | start => exact fits_jobsOf b topics start
  | move _ hjob ih => exact ih.move hcompatible hharmless houtput hjob

end Moves

end Prospectus.Batch
