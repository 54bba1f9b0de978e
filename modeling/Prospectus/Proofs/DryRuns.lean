import Prospectus.Command.Program
import Prospectus.Proofs.ArgumentForms
import Prospectus.Proofs.FatalErrors
import Prospectus.Proofs.Independence
import Prospectus.Proofs.LookupStages
import Prospectus.Proofs.SteadyCatalog

/-!
# Dry runs show what excerpts say

A dry run writes prompts in place of summaries, so that a topic's file holds its
excerpt and the template after it.  The batch opens the catalog for each topic,
among the writes of the others; the command for an excerpt opens it once, in the
files as they are.  Both come to the same.

The argument follows one topic through a run (`Standing`): up to its own write,
the files have only seen writes of other topics, and after it again.  A move of
its own job and a move of any other keep this (`Standing.move`,
`Standing.write`), so every run does (`standing_of_unfolds`).  As long as no
other topic writes in the place of the catalog, the topic therefore finds the
catalog as it was, and its excerpt or its error is the one of the files as they
were.
-/

namespace Prospectus.Batch

open Storage

/-- A batch that writes prompts in place of summaries, over what is there, from
a catalog in a file whose pages have to be readable. -/
structure IsDryRun (b : Batch) (catalog : String) : Prop where
  summarizer_eq : b.summarizer = .dryRun
  existing_eq : b.options.existing = .overwrite
  source_eq : b.source = .ofFile catalog .strict
  output_ne : b.output.isEmpty = false

namespace IsDryRun

variable {b : Batch} {catalog : String}

/-- A dry run changes no file by asking. -/
theorem onlyComputes (h : b.IsDryRun catalog) : b.summarizer.OnlyComputes :=
  ⟨fun _ prompt => .ok prompt, fun _ _ _ => by rw [h.summarizer_eq]; rfl⟩

/-- A dry run passes over no topic. -/
theorem passesOver_eq (h : b.IsDryRun catalog) (topic : String)
    (files : FileSystem) :
    b.passesOver topic files = false := by
  rw [passesOver, h.existing_eq]
  rfl

/-- The prompt of a dry run is the excerpt that is looked up, and the template
after it. -/
theorem promptFor_eq (h : b.IsDryRun catalog) (topic : String) (opened : Nat)
    (files : FileSystem) :
    b.promptFor topic opened files =
      (Command.findExcerpt files catalog topic b.extractor).map fun excerpt =>
        excerpt.text ++ b.prompt := by
  rw [promptFor, h.source_eq]
  rfl

/-- An excerpt that cannot be had costs a dry run one topic. -/
theorem settle_of_promptFor (h : b.IsDryRun catalog) {topic : String}
    {opened : Nat} {files : FileSystem}
    {e : Error} (hprompt : b.promptFor topic opened files = .error e) :
    settle e = .ok (.failed e) := by
  have hkind : e.kind ≠ .fatal := by
    rw [h.promptFor_eq, Command.findExcerpt, Command.openCatalog] at hprompt
    cases hopen : Source.openFile files catalog with
    | error cause =>
        rw [hopen] at hprompt
        cases hprompt
        exact Source.kind_ne_fatal_of_openFile hopen
    | ok file =>
        rw [hopen] at hprompt
        cases hextract : b.extractor.extract (file.reader .strict).source topic with
        | error cause =>
            simp only [Except.map, bind, Except.bind, hextract,
              Except.error.injEq] at hprompt
            exact hprompt ▸ (file.neverFatal_source .strict).extract hextract
        | ok excerpt => simp [Except.map, bind, Except.bind, hextract] at hprompt
  rcases settle_cases e with ⟨hfatal, -⟩ | ⟨-, hend⟩
  · exact absurd hfatal hkind
  · exact hend

/-- Where the output directory stays, writing ends a topic and not the batch. -/
theorem conclude_eq (h : b.IsDryRun catalog) {files : FileSystem}
    (houtput : b.OutputStays files) (topic text : String) :
    b.conclude topic (files.writeText (b.pathOf topic) text) =
      .ok (match (files.writeText (b.pathOf topic) text).2 with
        | .ok () => .written
        | .error fault => .failed (.writeArtifact (b.pathOf topic) fault)) := by
  have hdir := houtput _ (FileSystem.extends_writeText files (b.pathOf topic) text)
  rw [h.output_ne] at hdir
  rw [conclude]
  generalize files.writeText (b.pathOf topic) text = written at hdir ⊢
  obtain ⟨later, result⟩ := written
  cases result with
  | ok u => rfl
  | error fault => simpa using hdir

end IsDryRun

/-! ## One move of a dry run -/

/-- The stage to which a stage of a dry run leads. -/
def dryStage (b : Batch) (topic : String) (w : World) : Option Stage → Stage
  | none => .check
  | some .check => .extract
  | some .extract =>
    match b.promptFor topic w.opened w.files with
    | .ok prompt => .summarize prompt
    | .error e => .tell (.ok (.failed e))
  | some (.summarize prompt) => .write prompt
  | some (.write text) =>
    .tell (b.conclude topic (w.files.writeText (b.pathOf topic) text))
  | some (.tell result) | some (.finished result) => .finished result

/-- **One move of a dry run.** -/
theorem IsDryRun.stage_move {b : Batch} {catalog : String}
    (h : b.IsDryRun catalog) (job : Job) (w : World) :
    (b.move job w).1.stage = some (b.dryStage job.topic w job.stage) := by
  cases hstage : job.stage with
  | none => rw [move_none b hstage]; rfl
  | some stage =>
      rw [move_fst b hstage]
      cases stage with
      | tell result | finished result => rfl
      | check =>
          rw [step_check, h.passesOver_eq]
          rfl
      | extract =>
          rw [step_extract, dryStage]
          cases hprompt : b.promptFor job.topic w.opened w.files with
          | ok prompt => rfl
          | error e => simp only [h.settle_of_promptFor hprompt]
      | summarize prompt =>
          rw [step_summarize, h.summarizer_eq]
          rfl
      | write text => rw [step_write, dryStage]

/-- A dry run whose work has come to an error that ends the batch has come to it
before. -/
theorem IsDryRun.conclusion_of_fatal {b : Batch} {catalog : String}
    (h : b.IsDryRun catalog)
    {job : Job} {w : World} (houtput : b.OutputStays w.files) {e : Error}
    (hfatal : (b.move job w).1.conclusion? = some (.error e)) :
    job.conclusion? = some (.error e) := by
  rw [Job.conclusion?, h.stage_move] at hfatal
  cases hstage : job.stage with
  | none => simp [hstage, dryStage] at hfatal
  | some stage =>
      cases stage with
      | check | summarize prompt => simp [hstage, dryStage] at hfatal
      | extract =>
          rw [hstage, dryStage] at hfatal
          cases hprompt : b.promptFor job.topic w.opened w.files <;>
            simp [hprompt] at hfatal
      | write text =>
          rw [hstage, dryStage, h.conclude_eq houtput] at hfatal
          simp at hfatal
      | tell result | finished result =>
          rw [hstage, dryStage] at hfatal
          rw [Job.conclusion?, hstage]
          exact hfatal

/-- Moves of a batch whose summarizer only computes lead to later files. -/
theorem Unfolds.extends {b : Batch} (hpure : b.summarizer.OnlyComputes)
    {jobs now : List Job} {w v : World}
    (h : b.Unfolds jobs w now v) : w.files.Extends v.files := by
  induction h with
  | start => exact .refl _
  | @move now v k job _ _ ih =>
      rcases files_move_cases hpure job v with ⟨text, -, hfiles⟩ | ⟨-, hfiles⟩
      · rw [hfiles]
        exact ih.trans (FileSystem.extends_writeText ..)
      · rw [hfiles]
        exact ih

/-- **Nothing ends a dry run early.** -/
theorem IsDryRun.neverFatal {b : Batch} {catalog : String}
    (h : b.IsDryRun catalog) {w : World}
    (houtput : b.OutputStays w.files) (topics : List String) :
    b.NeverFatal (jobsOf topics) w := by
  intro now v hunfolds
  have hnone : ∀ job ∈ now, ∀ e, job.conclusion? ≠ some (.error e) := by
    induction hunfolds with
    | start =>
        intro job hjob e hend
        simp [Job.conclusion?, stage_of_mem_jobsOf hjob] at hend
    | @move now v k job hbefore hjob ih =>
        intro other hother e hend
        rcases List.mem_or_eq_of_mem_set hother with hold | rfl
        · exact ih other hold e hend
        · have hlater := houtput.later (hbefore.extends h.onlyComputes)
          exact ih job (List.mem_of_getElem? hjob) e
            (h.conclusion_of_fatal hlater hend)
  intro job hjob e hstage
  exact hnone job hjob e (by rw [Job.conclusion?, hstage])

/-! ## One topic among others -/

/-- The paths of the summaries of all topics but the one at a position. -/
def otherPaths (b : Batch) (topics : List String) (i : Nat) : List String :=
  (topics.eraseIdx i).map b.pathOf

/-- **How far a topic has come**, of which the prompt or the lack of one is
known, and what the files have seen since the start: writes at other paths, and
its own write in between if it has written. -/
inductive Standing (b : Batch) (topic : String) (others : List String)
    (start : FileSystem)
    (answer : Except Error String) : Option Stage → FileSystem → Prop
  | early {stage : Option Stage} {files : FileSystem}
      (hstage : stage = none ∨ stage = some .check ∨ stage = some .extract)
      (h : FileSystem.Reached others start files) :
      Standing b topic others start answer stage files
  | prompted {prompt : String} {files : FileSystem} (hanswer : answer = .ok prompt)
      (h : FileSystem.Reached others start files) :
      Standing b topic others start answer (some (.summarize prompt)) files
  | answered {text : String} {files : FileSystem} (hanswer : answer = .ok text)
      (h : FileSystem.Reached others start files) :
      Standing b topic others start answer (some (.write text)) files
  | failed {e : Error} {stage : Stage} {files : FileSystem}
      (hanswer : answer = .error e)
      (hstage : stage = .tell (.ok (.failed e)) ∨
        stage = .finished (.ok (.failed e)))
      (h : FileSystem.Reached others start files) :
      Standing b topic others start answer (some stage) files
  | wrote {text : String} {stage : Stage} {before files : FileSystem}
      (hanswer : answer = .ok text)
      (hstage : stage =
        .tell (b.conclude topic (before.writeText (b.pathOf topic) text)) ∨
        stage =
          .finished (b.conclude topic (before.writeText (b.pathOf topic) text)))
      (h : FileSystem.Reached others start before)
      (h' : FileSystem.Reached others (before.writeText (b.pathOf topic) text).1
        files) :
      Standing b topic others start answer (some stage) files

section Standing

variable {b : Batch} {catalog topic : String} {others : List String}
  {start : FileSystem} {answer : Except Error String}

/-- A write at another path changes nothing about how far a topic has come. -/
theorem Standing.write {stage : Option Stage} {files : FileSystem}
    (h : b.Standing topic others start answer stage files) {path : String}
    (hpath : path ∈ others) (text : String) :
    b.Standing topic others start answer stage (files.writeText path text).1 := by
  cases h with
  | early hstage h => exact .early hstage (h.write hpath text)
  | prompted hanswer h => exact .prompted hanswer (h.write hpath text)
  | answered hanswer h => exact .answered hanswer (h.write hpath text)
  | failed hanswer hstage h => exact .failed hanswer hstage (h.write hpath text)
  | wrote hanswer hstage h h' => exact .wrote hanswer hstage h (h'.write hpath text)

/-- A move of the topic's own job takes it one stage further. -/
theorem Standing.move (hdry : b.IsDryRun catalog)
    (hprompt : ∀ opened files, FileSystem.Reached others start files →
      b.promptFor topic opened files = answer)
    {job : Job} (hjob : job.topic = topic) {w : World}
    (h : b.Standing topic others start answer job.stage w.files) :
    b.Standing topic others start answer (b.move job w).1.stage
      (b.move job w).2.files := by
  rw [hdry.stage_move, hjob]
  rcases files_move_cases hdry.onlyComputes job w with
    ⟨text, hwrite, hfiles⟩ | ⟨hquiet, hfiles⟩
  · rw [hfiles, hwrite, hjob, dryStage]
    rw [hwrite] at h
    cases h with
    | early hstage h => simp at hstage
    | answered hanswer h => exact .wrote hanswer (.inl rfl) h .start
    | failed hanswer hstage h | wrote hanswer hstage h h' => simp at hstage
  · rw [hfiles]
    generalize job.stage = stage at h hquiet
    cases h with
    | early hstage h =>
        rcases hstage with rfl | rfl | rfl
        · exact .early (.inr (.inl rfl)) h
        · exact .early (.inr (.inr rfl)) h
        · rw [dryStage, hprompt _ _ h]
          cases hanswer : answer with
          | ok prompt => exact .prompted rfl h
          | error e => exact .failed rfl (.inl rfl) h
    | prompted hanswer h => exact .answered hanswer h
    | answered hanswer h => exact absurd rfl (hquiet _)
    -- the end is told, or has been
    | failed hanswer hstage h =>
        refine .failed hanswer (.inr ?_) h
        rcases hstage with rfl | rfl <;> rfl
    | wrote hanswer hstage h h' =>
        refine .wrote hanswer (.inr ?_) h h'
        rcases hstage with rfl | rfl <;> rfl

/-- **Every run keeps a topic's standing**, whatever the order of moves. -/
theorem standing_of_unfolds (hdry : b.IsDryRun catalog) {topics : List String}
    {i : Nat} (htopic : topics[i]? = some topic) {w v : World} {now : List Job}
    (hprompt : ∀ opened files,
      FileSystem.Reached (b.otherPaths topics i) w.files files →
      b.promptFor topic opened files = answer)
    (h : b.Unfolds (jobsOf topics) w now v) :
    ∃ job, now[i]? = some job ∧ job.topic = topic ∧
      b.Standing topic (b.otherPaths topics i) w.files answer job.stage
        v.files := by
  induction h with
  | start =>
      refine ⟨{ index := i, topic }, ?_, rfl, .early (.inl rfl) .start⟩
      rw [getElem?_jobsOf, htopic]
      rfl
  | @move now v k moved hbefore hmoved ih =>
      obtain ⟨job, hjob, hname, hstanding⟩ := ih
      by_cases hik : k = i
      · subst hik
        cases hmoved.symm.trans hjob
        refine ⟨(b.move moved v).1, ?_, (move_job b moved v).2.trans hname, ?_⟩
        · exact List.getElem?_set_self (List.getElem?_eq_some_iff.mp hjob).1
        · exact hstanding.move hdry hprompt hname
      · refine ⟨job, by rw [List.getElem?_set_ne hik, hjob], hname, ?_⟩
        rcases files_move_cases hdry.onlyComputes moved v with
          ⟨text, -, hfiles⟩ | ⟨-, hfiles⟩
        · -- the other job writes at its own path
          have hother : topics[k]? = some moved.topic := by
            have hmap := congrArg (·[k]?) (hbefore.map_eq (·.topic) fun _ _ => rfl)
            simpa [hmoved, getElem?_jobsOf, Function.comp_def] using hmap.symm
          rw [hfiles]
          refine hstanding.write (List.mem_map_of_mem ?_) text
          exact List.mem_eraseIdx_iff_getElem?.mpr ⟨k, hik, hother⟩
        · rw [hfiles]
          exact hstanding

/-- One text is written at a path, among writes at other paths, and the answer
to that write is the outcome. -/
def WritesOnce (others : List String) (path text : String)
    (start later : FileSystem) (outcome : Outcome) : Prop :=
  ∃ files, FileSystem.Reached others start files ∧
    FileSystem.Reached others (files.writeText path text).1 later ∧
    outcome = match (files.writeText path text).2 with
      | .ok () => .written
      | .error fault => .failed (.writeArtifact path fault)

/-- A text that was written once can be read, if no other path leads to its
place. -/
theorem WritesOnce.readText_eq {path text : String} {later : FileSystem}
    (h : WritesOnce others path text start later .written)
    (hapart : ∀ other ∈ others, start.place? other ≠ start.place? path) :
    later.readText path = .ok text := by
  obtain ⟨files, hbefore, hafter, houtcome⟩ := h
  cases hwrite : (files.writeText path text).2 with
  | error fault => simp [hwrite] at houtcome
  | ok u =>
      obtain ⟨parent, name, hsited, hfile⟩ :=
        FileSystem.sitedAt_of_writeText_ok hwrite
      have hextends :=
        hbefore.extends.trans (FileSystem.extends_writeText files path text)
      refine (hsited.later hafter.extends).readText_eq ?_
      rw [hafter.file?_eq, hfile, if_pos rfl]
      intro other hother
      rw [← hsited.place?_eq, hextends.place?_eq, hextends.place?_eq]
      exact hapart other hother

/-- The places can be looked up before the output directory is made. -/
theorem WritesOnce.readText_of_prepared {fs later : FileSystem}
    {output path text : String}
    (h : WritesOnce others path text (prepareOutput fs output).1 later .written)
    (hapart : ∀ other ∈ others, fs.place? other ≠ fs.place? path) :
    later.readText path = .ok text := by
  have hmade := (onlyMakesDirectories_prepareOutput fs output).laterState
  refine h.readText_eq ?_
  intro other hother
  rw [hmade.place?_eq, hmade.place?_eq]
  exact hapart other hother

/-- **How a topic has ended**: with its own write, or with the lack of a prompt. -/
theorem Standing.outcome (hdry : b.IsDryRun catalog)
    (houtput : b.OutputStays start) {outcome : Outcome} {files : FileSystem}
    (h : b.Standing topic others start answer (some (.finished (.ok outcome)))
      files) :
    (∃ text, answer = .ok text ∧
      WritesOnce others (b.pathOf topic) text start files outcome) ∨
      ∃ e, answer = .error e ∧ outcome = .failed e ∧
        FileSystem.Reached others start files := by
  generalize hstage : some (Stage.finished (.ok outcome)) = stage at h
  cases h with
  | early hearly h => simp [← hstage] at hearly
  | prompted hanswer h | answered hanswer h => simp at hstage
  | failed hanswer hend h =>
      cases hstage
      rcases hend with hend | hend
      · cases hend
      · exact .inr ⟨_, hanswer, Except.ok.inj (Stage.finished.inj hend), h⟩
  | @wrote text _ before _ hanswer hend h h' =>
      cases hstage
      rw [hdry.conclude_eq (houtput.later h.extends)] at hend
      rcases hend with hend | hend
      · cases hend
      · exact .inl ⟨text, hanswer, before, h, h',
          Except.ok.inj (Stage.finished.inj hend)⟩

end Standing

/-! ## Whole dry runs -/

section Run

variable {b : Batch} {catalog : String} {w : World} {file : Pdf.File}

/-- **A dry run gives a report**, once its directory is made, its catalog is
there and its workers are started. -/
theorem IsDryRun.run_ok (hdry : b.IsDryRun catalog)
    (hprepared : (prepareOutput w.files b.output).2 = .ok ())
    (hcrew : b.CrewStarts) (hopen : Source.openFile w.files catalog = .ok file)
    (turns : List Nat) (topics : List String) (started finished : Time.Moment) :
    ∃ later outcomes jobs,
      b.run turns topics started finished w =
        (later,
          .ok (reportOn started finished ((cleanTopics topics).zip outcomes))) ∧
      b.Unfolds (jobsOf (cleanTopics topics)) (b.opening w) jobs later ∧
      EndedWith (cleanTopics topics) jobs outcomes := by
  have hnone : FileSystem.Reached [] (b.opening w).files (b.opening w).files :=
    .start
  have hfound := Source.openFile_of_reached
    (onlyMakesDirectories_prepareOutput w.files b.output) hnone hopen
    (by simp)
  have hstart : b.CanStart w := by
    refine ⟨hprepared, (file.reader .strict).source, ?_⟩
    simp only [hdry.source_eq, Source.ofFile, hfound, Except.map]
  obtain ⟨later, outcomes, hexecute⟩ :=
    (hdry.neverFatal (outputStays_opening hprepared)
      (cleanTopics topics)).execute_ok hcrew turns
  obtain ⟨jobs, hunfolds, hended⟩ := unfolds_of_execute_ok hexecute
  refine ⟨later, outcomes, jobs, ?_, hunfolds, hended⟩
  rw [run_of_canStart hstart, hexecute]
  rfl

/-- A topic finds the catalog as it was, if no other topic writes in its place. -/
theorem IsDryRun.promptFor_of_reached (hdry : b.IsDryRun catalog)
    (hopen : Source.openFile w.files catalog = .ok file) {paths : List String}
    (hapart : ∀ path ∈ paths, w.files.place? path ≠ w.files.place? catalog)
    (topic : String) (opened : Nat) {files : FileSystem}
    (hreached : FileSystem.Reached paths (b.opening w).files files) :
    b.promptFor topic opened files =
      (Command.findExcerpt w.files catalog topic b.extractor).map fun excerpt =>
        excerpt.text ++ b.prompt := by
  have hfound := Source.openFile_of_reached
    (onlyMakesDirectories_prepareOutput w.files b.output) hreached hopen
    hapart
  rw [hdry.promptFor_eq, Command.findExcerpt, Command.findExcerpt,
    Command.openCatalog, Command.openCatalog, hfound, hopen]

/-- **One topic of a dry run.**  It writes its excerpt and the template, or it
has no excerpt and writes nothing. -/
theorem IsDryRun.outcome_of_topic (hdry : b.IsDryRun catalog)
    (hprepared : (prepareOutput w.files b.output).2 = .ok ())
    (hopen : Source.openFile w.files catalog = .ok file) {topics : List String}
    {i : Nat} {topic : String} (htopic : topics[i]? = some topic)
    (hapart : ∀ path ∈ b.otherPaths topics i, w.files.place? path ≠
      w.files.place? catalog)
    {jobs : List Job} {later : World} {outcomes : List Outcome}
    (hunfolds : b.Unfolds (jobsOf topics) (b.opening w) jobs later)
    (hended : EndedWith topics jobs outcomes) :
    ∃ outcome, outcomes[i]? = some outcome ∧
      ((∃ excerpt, Command.findExcerpt w.files catalog topic b.extractor =
        .ok excerpt ∧
          WritesOnce (b.otherPaths topics i) (b.pathOf topic)
            (excerpt.text ++ b.prompt) (b.opening w).files later.files outcome) ∨
        ∃ e, Command.findExcerpt w.files catalog topic b.extractor = .error e ∧
          outcome = .failed e ∧
          FileSystem.Reached (b.otherPaths topics i) (b.opening w).files
            later.files) := by
  obtain ⟨job, hjob, -, hstanding⟩ := standing_of_unfolds hdry htopic
    (fun opened files hreached => hdry.promptFor_of_reached hopen hapart topic
      opened hreached) hunfolds
  obtain ⟨outcome, houtcome, hfinished⟩ := hended.job i topic htopic
  cases hjob.symm.trans hfinished
  refine ⟨outcome, houtcome, ?_⟩
  rcases hstanding.outcome hdry (outputStays_opening hprepared) with ⟨text,
    hanswer, hwrites⟩ | ⟨e, hanswer, hrest⟩
  · cases hfind : Command.findExcerpt w.files catalog topic b.extractor with
    | error e => simp [hfind, Except.map] at hanswer
    | ok excerpt =>
        simp only [hfind, Except.map, Except.ok.injEq] at hanswer
        subst hanswer
        exact .inl ⟨excerpt, rfl, hwrites⟩
  · cases hfind : Command.findExcerpt w.files catalog topic b.extractor with
    | error cause =>
        simp only [hfind, Except.map, Except.error.injEq] at hanswer
        subst hanswer
        exact .inr ⟨cause, rfl, hrest⟩
    | ok excerpt => simp [hfind, Except.map] at hanswer

end Run

/-- The failures of a report, by the positions of their topics. -/
theorem mem_failures_iff {topics : List String} {outcomes : List Outcome}
    {failure : Failure} :
    failure ∈ (topics.zip outcomes).filterMap failureOf? ↔
      ∃ (j : Nat) (topic : String) (e : Error), topics[j]? = some topic ∧
        outcomes[j]? = some (.failed e) ∧
        failure = ⟨topic, e.kind, e.message⟩ := by
  rw [List.mem_filterMap]
  constructor
  · rintro ⟨⟨topic, outcome⟩, hmem, hfailure⟩
    obtain ⟨j, hj⟩ := List.mem_iff_getElem?.mp hmem
    obtain ⟨htopic, houtcome⟩ := List.getElem?_zip_eq_some.mp hj
    cases outcome with
    | written | skipped => exact nomatch hfailure
    | failed e =>
      exact ⟨j, topic, e, htopic, houtcome, (Option.some.inj hfailure).symm⟩
  · rintro ⟨j, topic, e, htopic, houtcome, rfl⟩
    have hj : (topics.zip outcomes)[j]? = some (topic, .failed e) :=
      List.getElem?_zip_eq_some.mpr ⟨htopic, houtcome⟩
    exact ⟨(topic, .failed e), List.mem_of_getElem? hj, rfl⟩

/-- A topic that was written has failed only where it stands in the list once
more. -/
theorem other_of_mem_failedTopics {started finished : Time.Moment}
    {topics : List String} {outcomes : List Outcome}
    {i : Nat} {topic : String} (houtcome : outcomes[i]? = some .written)
    (hfailed : topic ∈
      (reportOn started finished (topics.zip outcomes)).failedTopics) :
    ∃ j, j ≠ i ∧ topics[j]? = some topic := by
  obtain ⟨failure, hfailure, hname⟩ := List.mem_map.mp hfailed
  rw [reportOn_eq, mem_failures_iff] at hfailure
  obtain ⟨j, name, e, hj, hfate, rfl⟩ := hfailure
  subst hname
  refine ⟨j, ?_, hj⟩
  rintro rfl
  cases houtcome.symm.trans hfate

end Prospectus.Batch

namespace Prospectus.Command

open Storage

/-- The batch of a request for a dry run. -/
def BatchRequest.dryBatch (request : BatchRequest) (template : String)
    (refusal : Option String) :
    Batch where
  options := request.options
  summarizer := .dryRun
  prompt := template
  output := request.files.output
  source := .ofFile request.files.catalog request.options.tolerance
  refusal := refusal

/-- What is asked for without tolerance and without passing over summaries is a
dry run. -/
theorem isDryRun_dryBatch {arguments : List String} {given : Given}
    (hread : runGrammar.read arguments = .ok given)
    (hover : given.has "skip-existing" = false)
    (hstrict : given.has "lenient" = false)
    (environment : Environment) (template : String) (refusal : Option String) :
    ((batchOf environment given).dryBatch template refusal).IsDryRun
      (batchOf environment given).files.catalog where
  summarizer_eq := rfl
  existing_eq := by
    change (if given.has "skip-existing" then Batch.Existing.skip
      else .overwrite) = .overwrite
    rw [hover]
    rfl
  source_eq := by
    change Source.ofFile _ (if given.has "lenient" then Pdf.Tolerance.lenient
      else .strict) = .ofFile _ .strict
    rw [hstrict]
    rfl
  output_ne := output_of_read hread environment

/-- The same flags make the same extractor, for a batch and for an excerpt. -/
theorem extractor_dryBatch {given other : Given}
    (hflags : ∀ name ∈ ["toc-marker", "toc-pages", "before", "after"],
      other.value? name = given.value? name)
    (environment : Environment) (template : String) (refusal : Option String) :
    ((batchOf environment given).dryBatch template refusal).extractor =
      extractorOf other := by
  have hmarker := hflags "toc-marker" (by simp)
  have hpages := hflags "toc-pages" (by simp)
  have hbefore := hflags "before" (by simp)
  have hafter := hflags "after" (by simp)
  have hbatch : ((batchOf environment given).dryBatch template refusal).extractor =
    extractorOf given := rfl
  rw [hbatch]
  simp only [extractorOf, locatorOf, Given.value, Given.count, hmarker, hpages,
    hbefore, hafter]

/-- A dry run whose topics and template can be read is the run of its batch, and
the report is written after it. -/
theorem files_runBatch {s : Surroundings} {request : BatchRequest}
    {fs : FileSystem} (hdry : request.dryRun = true) {topics : List String}
    {template : String}
    (htopics : Batch.readTopics fs request.files.topicList = .ok topics)
    (hprompt : Batch.readPrompt fs request.files.promptFile = .ok template)
    {later : Batch.World} {report : Batch.Report}
    (hrun : (request.dryBatch template s.refusal).run s.turns topics s.started
      s.finished { files := fs } = (later, .ok report)) :
    (runBatch s request fs).files =
      match request.report with
      | none => later.files
      | some path => (later.files.writeText path report.json).1 := by
  have hsummarizer : summarizerFor s request = .ok .dryRun := by
    simp [summarizerFor, hdry]
  rw [BatchRequest.dryBatch] at hrun
  simp only [runBatch, hsummarizer, htopics, hprompt, hrun, Except.mapError,
    bind, Except.bind, pure, Except.pure]
  cases request.report with
  | none => rfl
  | some path =>
      dsimp only
      generalize later.files.writeText path report.json = saved
      obtain ⟨files, result⟩ := saved
      cases result <;> rfl

/-- An excerpt that is not saved is printed. -/
theorem perform_bold (s : Surroundings) (fs : FileSystem)
    (catalog topic : String) (x : Extractor) :
    perform s (.bold catalog topic x none false) fs =
      .ofPrinted fs ((findExcerpt fs catalog topic x).map (·.text ++ "\n")) := by
  rw [perform]
  cases findExcerpt fs catalog topic x <;> rfl

/-- Arguments for a batch that ask for a dry run, over what is there and with
every page readable. -/
structure AsksForDryRun (arguments : List String) (given : Given) : Prop where
  read_eq : runGrammar.read arguments = .ok given
  dryRun : given.has "dry-run" = true
  overwrites : given.has "skip-existing" = false
  strict : given.has "lenient" = false

/-- A batch that gets as far as its topics: they and the template can be read,
the output directory can be made, the catalog opens, and the workers can be
started. -/
structure GetsToTopics (s : Surroundings) (request : BatchRequest) (fs : FileSystem)
    (topics : List String) (template : String) : Prop where
  topics_eq : Batch.readTopics fs request.files.topicList = .ok topics
  template_eq : Batch.readPrompt fs request.files.promptFile = .ok template
  prepared : (Batch.prepareOutput fs request.files.output).2 = .ok ()
  opens : (Source.openFile fs request.files.catalog).isOk = true
  crew : (request.dryBatch template s.refusal).CrewStarts

/-- **Dry runs agree with excerpts.**  Take a dry run and the command for the
excerpt of one of its topics, with the same catalog and the same flags.  Unless
another topic writes in the place of the catalog, the run gives a report in
which the topic has fared as the excerpt says, whatever the number of workers
and the order of their moves.  If there is an excerpt, its text and the template
after it are written once at the topic's path; if that succeeds, the topic has
no failure, and the file can be read unless another topic's path leads there.
If there is none, the topic has failed with the kind and the message of the
error, and only other topics have written. -/
theorem dryRun_agrees_with_bold (s : Surroundings) {fs : FileSystem}
    {arguments : List String}
    {given boldGiven : Given} (hasks : AsksForDryRun arguments given)
    (hflags : ∀ name ∈ ["toc-marker", "toc-pages", "before", "after"],
      boldGiven.value? name = given.value? name)
    {topics : List String} {template : String}
    (hready : GetsToTopics s (batchOf s.environment given) fs topics template)
    {i : Nat} {topic : String}
    (htopic : (Batch.cleanTopics topics)[i]? = some topic) :
    let request := batchOf s.environment given
    let catalog := request.files.catalog
    let b := request.dryBatch template s.refusal
    let others := b.otherPaths (Batch.cleanTopics topics) i
    let bold := findExcerpt fs catalog topic (extractorOf boldGiven)
    (∀ path ∈ others, fs.place? path ≠ fs.place? catalog) →
    ∃ later report outcomes,
      b.run s.turns topics s.started s.finished { files := fs } =
        (later, .ok report) ∧
      (perform s (.run request) fs).files =
        (match request.report with
          | none => later.files
          | some path => (later.files.writeText path report.json).1) ∧
      report.failures = ((Batch.cleanTopics topics).zip outcomes).filterMap
        Batch.failureOf? ∧
      perform s (.bold catalog topic (extractorOf boldGiven) none false) fs =
        .ofPrinted fs (bold.map (·.text ++ "\n")) ∧
      (∀ excerpt, bold = .ok excerpt →
        ∃ outcome, outcomes[i]? = some outcome ∧
          Batch.WritesOnce others (b.pathOf topic) (excerpt.text ++ template)
            (Batch.prepareOutput fs b.output).1 later.files outcome ∧
          (outcome = .written →
            (topic ∈ report.failedTopics →
              ∃ j, j ≠ i ∧ (Batch.cleanTopics topics)[j]? = some topic) ∧
            ((∀ path ∈ others, fs.place? path ≠ fs.place? (b.pathOf topic)) →
              later.files.readText (b.pathOf topic) =
                .ok (excerpt.text ++ template)))) ∧
      (∀ e, bold = .error e →
        outcomes[i]? = some (.failed e) ∧
        ⟨topic, e.kind, e.message⟩ ∈ report.failures ∧
          FileSystem.Reached others (Batch.prepareOutput fs b.output).1
            later.files) := by
  intro request catalog b others bold hapart
  have hrunBatch : b.IsDryRun catalog :=
    isDryRun_dryBatch hasks.read_eq hasks.overwrites hasks.strict s.environment
      template s.refusal
  have hextractor : b.extractor = extractorOf boldGiven :=
    extractor_dryBatch hflags s.environment template s.refusal
  obtain ⟨file, hopen⟩ : ∃ file, Source.openFile fs catalog = .ok file := by
    have hopens := hready.opens
    cases hfile : Source.openFile fs catalog with
    | error e =>
      simp [catalog, request, hfile, Except.isOk, Except.toBool] at hopens
    | ok file => exact ⟨file, rfl⟩
  obtain ⟨later, outcomes, jobs, hrun, hunfolds, hended⟩ :=
    hrunBatch.run_ok (w := { files := fs }) hready.prepared hready.crew hopen
      s.turns topics
      s.started s.finished
  obtain ⟨outcome, houtcome, hend⟩ := hrunBatch.outcome_of_topic
    (w := { files := fs }) hready.prepared hopen htopic
    hapart hunfolds hended
  rw [hextractor] at hend
  have hfailures : (Batch.reportOn s.started s.finished
      ((Batch.cleanTopics topics).zip outcomes)).failures =
      ((Batch.cleanTopics topics).zip outcomes).filterMap Batch.failureOf? := by
    rw [Batch.reportOn_eq]
  refine ⟨later, _, outcomes, hrun, files_runBatch hasks.dryRun hready.topics_eq
    hready.template_eq hrun, hfailures, ?_, ?_, ?_⟩
  · exact perform_bold s fs catalog topic (extractorOf boldGiven)
  · intro excerpt hexcerpt
    rcases hend with ⟨found, hfound, hwrites⟩ | ⟨e, hnone, -⟩
    · cases hfound.symm.trans hexcerpt
      refine ⟨outcome, houtcome, hwrites, ?_⟩
      rintro rfl
      exact ⟨Batch.other_of_mem_failedTopics houtcome, hwrites.readText_of_prepared⟩
    · cases hnone.symm.trans hexcerpt
  · intro e he
    rcases hend with ⟨found, hfound, -⟩ | ⟨cause, hcause, rfl, hreached⟩
    · cases hfound.symm.trans he
    · cases hcause.symm.trans he
      refine ⟨houtcome, ?_, hreached⟩
      rw [hfailures, Batch.mem_failures_iff]
      exact ⟨i, topic, e, htopic, houtcome, rfl⟩

/-- A shelf with a catalog, a list of topics and a template. -/
def shelfWith (catalog : Location) (topics : String) : FileSystem :=
  ⟨[(["out"], .directory),
    (catalog, .file (brokenLines.flatMap fun line => Pdf.ascii line ++ [10])),
      (["topics.txt"], .file (Pdf.ascii topics)),
      (["prompt.txt"], .file (Pdf.ascii "!"))], []⟩

/-- Arguments for a dry run on such a shelf. -/
def dryArguments (catalog : String) : List String :=
  ["-c", catalog, "-t", "topics.txt", "-p", "prompt.txt", "-o", "out",
    "--toc-marker", "Index", "--before", "0", "--after", "0", "--dry-run"]

/-- What is read from these arguments. -/
def dryGiven (catalog : String) : Given where
  values := [("catalog", catalog), ("topics", "topics.txt"),
    ("prompt", "prompt.txt"), ("output", "out"), ("toc-marker", "Index"),
    ("before", "0"), ("after", "0")]
  switches := ["dry-run"]

/-- The same flags for an excerpt. -/
def pageFlags : Given where
  values := [("toc-marker", "Index"), ("before", "0"), ("after", "0")]

/-- `Law` and the template are written, and `Cup`, whose page cannot be read,
fails as its excerpt does. -/
theorem shelf_dryRun_agrees_with_bold :
    ∃ later report,
      ((batchOf [] (dryGiven "catalog.pdf")).dryBatch "!" none).run []
      ["Law", "Cup"] offline.started offline.finished
        { files := shelfWith ["catalog.pdf"] "Law\nCup\n" } = (later, .ok report) ∧
      later.files.readText "out/Law.txt" = .ok "Index\nLaw 1\nArt 1\nCup 2!" ∧
      ⟨"Cup", .collaborator,
        "PDF parsing error: reference cycle with object ID 5 0"⟩ ∈
          report.failures := by
  have hevaluated :
      findExcerpt (shelfWith ["catalog.pdf"] "Law\nCup\n") "catalog.pdf" "Law"
        (extractorOf pageFlags) =
        .ok ⟨"Law", 1, some ⟨1, 1⟩, "Index\nLaw 1\nArt 1\nCup 2"⟩ ∧
      findExcerpt (shelfWith ["catalog.pdf"] "Law\nCup\n") "catalog.pdf" "Cup"
        (extractorOf pageFlags) =
        .error (.malformedDocument "reference cycle with object ID 5 0") ∧
      (((batchOf [] (dryGiven "catalog.pdf")).dryBatch "!" none).run []
        ["Law", "Cup"] offline.started offline.finished
        { files := shelfWith ["catalog.pdf"] "Law\nCup\n" }).2 =
          .ok ⟨offline.started, some offline.finished, 1, 0,
            [⟨"Cup", .collaborator,
              "PDF parsing error: reference cycle with object ID 5 0"⟩]⟩ ∧
      (Source.openFile (shelfWith ["catalog.pdf"] "Law\nCup\n")
        "catalog.pdf").isOk = true := by decide +kernel
  obtain ⟨hlaw, hcup, hreport, hopens⟩ := hevaluated
  have hasks : AsksForDryRun (dryArguments "catalog.pdf")
      (dryGiven "catalog.pdf") :=
    ⟨by decide +kernel, by decide, by decide, by decide⟩
  have hflags : ∀ name ∈ ["toc-marker", "toc-pages", "before", "after"],
      pageFlags.value? name = (dryGiven "catalog.pdf").value? name := by decide
  have hready : GetsToTopics offline
      (batchOf offline.environment (dryGiven "catalog.pdf"))
      (shelfWith ["catalog.pdf"] "Law\nCup\n") ["Law", "Cup"] "!" :=
    ⟨by decide +kernel, by decide +kernel, by decide +kernel, hopens, fun _ => rfl⟩
  have hfirst : (Batch.cleanTopics ["Law", "Cup"])[0]? = some "Law" := by
    decide +kernel
  have hsecond : (Batch.cleanTopics ["Law", "Cup"])[1]? = some "Cup" := by
    decide +kernel
  obtain ⟨later, report, outcomes, hrun, -, hfailures, -, hexcerpt, -⟩ :=
    dryRun_agrees_with_bold offline hasks hflags hready hfirst (by decide +kernel)
  obtain ⟨later', report', outcomes', hrun', -, -, -, -, hnone⟩ :=
    dryRun_agrees_with_bold offline hasks hflags hready hsecond (by decide +kernel)
  cases hrun.symm.trans hrun'
  obtain ⟨outcome, houtcome, ⟨files, -, -, hend⟩, hwritten⟩ := hexcerpt _ hlaw
  have hone : report.failures =
      [⟨"Cup", .collaborator,
        "PDF parsing error: reference cycle with object ID 5 0"⟩] := by
    cases (congrArg Prod.snd hrun).symm.trans hreport
    rfl
  have hok : outcome = .written := by
    cases outcome with
    | written => rfl
    | skipped => split at hend <;> cases hend
    | failed e =>
        have hmem : (⟨"Law", e.kind, e.message⟩ : Batch.Failure) ∈
            report.failures := by
          rw [hfailures, Batch.mem_failures_iff]
          exact ⟨0, "Law", e, hfirst, houtcome, rfl⟩
        simp [hone] at hmem
  exact ⟨later, report, hrun, (hwritten hok).2 (by decide +kernel),
    (hnone _ hcup).2.1⟩

/-- **A catalog in the way.**  Here the catalog lies where the summary of `Law`
goes.  The catalog has an excerpt for `Art`, but by the time of its turn the
batch finds the prompt of `Law` in place of the catalog, and `Art` fails. -/
theorem overwrittenCatalog_disagrees_with_bold :
    AsksForDryRun (dryArguments "out/Law.txt") (dryGiven "out/Law.txt") ∧
    (∀ name ∈ ["toc-marker", "toc-pages", "before", "after"],
      pageFlags.value? name = (dryGiven "out/Law.txt").value? name) ∧
    Batch.readTopics (shelfWith ["out", "Law.txt"] "Law\nArt\n") "topics.txt" =
      .ok ["Law", "Art"] ∧
    findExcerpt (shelfWith ["out", "Law.txt"] "Law\nArt\n") "out/Law.txt" "Art"
      (extractorOf pageFlags) =
      .ok ⟨"Art", 1, some ⟨1, 1⟩, "Index\nLaw 1\nArt 1\nCup 2"⟩ ∧
    (((batchOf [] (dryGiven "out/Law.txt")).dryBatch "!" none).run []
      ["Law", "Art"] offline.started offline.finished
      { files := shelfWith ["out", "Law.txt"] "Law\nArt\n" }).2 =
        .ok ⟨offline.started, some offline.finished, 1, 0,
          [⟨"Art", .collaborator,
            "PDF parsing error: couldn't parse input: invalid file header"⟩]⟩ := by
  refine ⟨⟨by decide +kernel, by decide, by decide, by decide⟩, by decide, ?_⟩
  decide +kernel

end Prospectus.Command
