import Prospectus.Batch.Run
import Prospectus.Proofs.StorageEffects

/-!
# The work on one topic

A job goes from stage to stage, and `Batch.complete` takes it through all of
them.  Here the stages are put together: `process` says in one piece what a
topic comes to and in which world it leaves the batch, and `complete_eq` says
that this is what the stages do, with the events around it.

The stages are kept apart as well (`step_check`, `step_extract`,
`step_summarize`, `step_write`), for jobs that are done side by side.
-/

namespace Prospectus.Batch

open Storage

/-- Whether a topic is passed over because its summary is there already. -/
def passesOver (b : Batch) (topic : String) (files : FileSystem) : Bool :=
  b.options.existing = .skip && files.exists? (b.pathOf topic)

/-- What the summarizer is to be asked about a topic. -/
def promptFor (b : Batch) (topic : String) (opened : Nat) (files : FileSystem) :
    Except Error String :=
  ((b.source.openAt opened files).bind fun source => b.extractor.extract source
    topic).map
    fun excerpt => composePrompt excerpt.text b.prompt

/-- What an error makes of a topic: a failure, or the end of the batch. -/
def settle (e : Error) : Except Error Outcome :=
  if e.isFatal then .error e else .ok (.failed e)

/-- What an attempt to write a summary makes of a topic. -/
def conclude (b : Batch) (topic : String)
    (written : FileSystem × Except Fault Unit) :
    Except Error Outcome :=
  match written.2 with
  | .ok () => .ok .written
  | .error fault =>
    if written.1.isDirectory b.output
      then .ok (.failed (.writeArtifact (b.pathOf topic) fault))
    else .error (.outputDirectory b.output fault)

/-- What a topic comes to, and the world after it. -/
def process (b : Batch) (topic : String) (w : World) :
    Except Error Outcome × World :=
  if b.passesOver topic w.files then (.ok .skipped, w)
  else
    match b.promptFor topic w.opened w.files with
    | .error e => (settle e, { w with opened := w.opened + 1 })
    | .ok prompt =>
      let asked := b.summarizer.generate b.options.model prompt w.files
      let calls := w.calls ++ [(b.options.model, prompt)]
      match asked.2 with
      | .error e =>
        (settle e, { w with files := asked.1, opened := w.opened + 1, calls })
      | .ok text =>
        let written := asked.1.writeText (b.pathOf topic) text
        (b.conclude topic written,
          { w with files := written.1, opened := w.opened + 1, calls })

/-- The first stage ends the job if the topic is passed over. -/
theorem step_check (b : Batch) (topic : String) (w : World) :
    b.step topic .check w =
      if b.passesOver topic w.files then (.tell (.ok .skipped), w)
        else (.extract, w) := rfl

/-- The first stage changes nothing. -/
theorem step_check_snd (b : Batch) (topic : String) (w : World) :
    (b.step topic .check w).2 = w := by
  rw [step_check]
  by_cases hpass : b.passesOver topic w.files = true
  · rw [if_pos hpass]
  · rw [if_neg hpass]

/-- The second stage opens the document and makes the prompt. -/
theorem step_extract (b : Batch) (topic : String) (w : World) :
    b.step topic .extract w =
      (match b.promptFor topic w.opened w.files with
        | .ok prompt => .summarize prompt
        | .error e => .tell (settle e), { w with opened := w.opened + 1 }) := by
  unfold step promptFor
  dsimp only
  generalize ((b.source.openAt w.opened w.files).bind fun source =>
    b.extractor.extract source topic) = excerpt
  cases excerpt <;> rfl

/-- The third stage asks the summarizer. -/
theorem step_summarize (b : Batch) (topic prompt : String) (w : World) :
    b.step topic (.summarize prompt) w =
      (match (b.summarizer.generate b.options.model prompt w.files).2 with
        | .ok text => .write text
        | .error e => .tell (settle e),
        { w with
          files := (b.summarizer.generate b.options.model prompt w.files).1
          calls := w.calls ++ [(b.options.model, prompt)] }) := by
  obtain ⟨options, classifier, source, ⟨name, generate⟩, template, output,
    refusal⟩ := b
  unfold step
  dsimp only
  generalize generate options.model prompt w.files = asked
  obtain ⟨files, answer⟩ := asked
  cases answer <;> rfl

/-- The fourth stage writes the summary. -/
theorem step_write (b : Batch) (topic text : String) (w : World) :
    b.step topic (.write text) w =
      (.tell (b.conclude topic (w.files.writeText (b.pathOf topic) text)),
        { w with files := (w.files.writeText (b.pathOf topic) text).1 }) := by
  unfold step conclude
  dsimp only
  generalize w.files.writeText (b.pathOf topic) text = written
  obtain ⟨files, result⟩ := written
  cases result with
  | ok u => rfl
  | error fault => by_cases hdir : files.isDirectory b.output = true <;> simp [hdir]

/-- The world when the end of a job has been told; an end of the whole batch is
not told. -/
def announce (job : Job) (result : Except Error Outcome) (w : World) : World :=
  match result with
  | .ok outcome => w.tell (.finished job.index job.topic outcome.status)
  | .error _ => w

/-- A job at its end, and the world in which its end has been told. -/
def Job.ended (job : Job) (result : Except Error Outcome) (w : World) :
    Job × World :=
  ({ job with stage := some (.finished result) }, announce job result w)

/-- It does not matter from which stage a job comes to its end. -/
theorem Job.ended_stage (job : Job) (stage : Option Stage)
    (result : Except Error Outcome)
    (w : World) : Job.ended { job with stage } result w = job.ended result w := rfl

/-- The result of a job at its end. -/
theorem Job.result_ended (job : Job) (result : Except Error Outcome) (w : World) :
    (job.ended result w).1.result = result := rfl

/-- Telling of a job's end changes no files. -/
theorem Job.files_ended (job : Job) (result : Except Error Outcome) (w : World) :
    (job.ended result w).2.files = w.files := by
  cases result <;> rfl

/-- A job that is not under way is started. -/
theorem move_none (b : Batch) {job : Job} (h : job.stage = none) (w : World) :
    b.move job w = ({ job with stage := some .check },
      w.tell (.started job.index job.topic)) := by
  unfold move
  rw [h]

/-- A job whose work is done ends, and its end is told. -/
theorem move_tell (b : Batch) {job : Job} {result : Except Error Outcome}
    (h : job.stage = some (.tell result)) (w : World) :
    b.move job w = job.ended result w := by
  unfold move
  rw [h]
  cases result <;> rfl

/-- A job that is at work, or has ended, makes one step and tells nothing. -/
theorem move_some (b : Batch) {job : Job} {stage : Stage}
    (h : job.stage = some stage)
    (hwork : ∀ result, stage ≠ .tell result) (w : World) :
    b.move job w =
      ({ job with stage := some (b.step job.topic stage w).1 },
        (b.step job.topic stage w).2) := by
  unfold move
  rw [h]
  cases stage with
  | tell result => exact absurd rfl (hwork result)
  | check | extract | summarize prompt | write text | finished result => dsimp only

/-- A job that has been started makes one step. -/
theorem move_fst (b : Batch) {job : Job} {stage : Stage}
    (h : job.stage = some stage) (w : World) :
    (b.move job w).1 = { job with stage := some (b.step job.topic stage w).1 } := by
  cases stage with
  | tell result =>
      rw [move_tell b h]
      rfl
  | check | extract | summarize prompt | write text | finished result =>
      rw [move_some b h (by simp)]

/-- What is told of a step is all that a move adds to it. -/
theorem move_snd (b : Batch) {job : Job} {stage : Stage}
    (h : job.stage = some stage) (w : World) :
    ∃ events, (b.move job w).2 = { (b.step job.topic stage w).2 with events } := by
  cases stage with
  | tell result =>
      rw [move_tell b h]
      cases result with
      | ok outcome => exact ⟨_, rfl⟩
      | error e => exact ⟨_, rfl⟩
  | check | extract | summarize prompt | write text | finished result =>
      exact ⟨_, by rw [move_some b h (by simp)]⟩

/-- A job that has ended does not move. -/
theorem move_finished (b : Batch) {job : Job} {result : Except Error Outcome}
    (h : job.stage = some (.finished result)) (w : World) :
    b.move job w = (job, w) := by
  obtain ⟨index, topic, stage⟩ := job
  cases h
  rw [move_some b rfl (by simp)]
  rfl

/-- A job that has ended stays as it is. -/
theorem moves_finished (b : Batch) (n : Nat) {job : Job}
    {result : Except Error Outcome}
    (h : job.stage = some (.finished result)) (w : World) :
    b.moves n job w = (job, w) := by
  induction n with
  | zero => rfl
  | succ n ih =>
      rw [moves, move_finished b h]
      exact ih

/-- From the end of the work on: the end is told. -/
theorem moves_tell (b : Batch) (n : Nat) {job : Job} {result : Except Error Outcome}
    (h : job.stage = some (.tell result)) (w : World) :
    b.moves (n + 1) job w = job.ended result w := by
  rw [moves, move_tell b h]
  exact moves_finished b n rfl _

/-- From the fourth stage on: the summary is written. -/
theorem moves_write (b : Batch) (n : Nat) {job : Job} {text : String}
    (h : job.stage = some (.write text)) (w : World) :
    b.moves (n + 2) job w =
      job.ended (b.conclude job.topic (w.files.writeText (b.pathOf job.topic) text))
        { w with files := (w.files.writeText (b.pathOf job.topic) text).1 } := by
  rw [moves, move_some b h (by simp), step_write]
  generalize w.files.writeText (b.pathOf job.topic) text = written
  exact moves_tell b n rfl _

/-- From the third stage on: the summarizer is asked, and its text is written. -/
theorem moves_summarize (b : Batch) (n : Nat) {job : Job} {prompt : String}
    (h : job.stage = some (.summarize prompt)) (w : World) :
    b.moves (n + 3) job w =
      let asked := b.summarizer.generate b.options.model prompt w.files
      let calls := w.calls ++ [(b.options.model, prompt)]
      match asked.2 with
      | .error e => job.ended (settle e) { w with files := asked.1, calls }
      | .ok text =>
        let written := asked.1.writeText (b.pathOf job.topic) text
        job.ended (b.conclude job.topic written)
          { w with files := written.1, calls } := by
  rw [moves, move_some b h (by simp), step_summarize]
  dsimp only
  cases (b.summarizer.generate b.options.model prompt w.files).2 with
  | error e => exact moves_tell b (n + 1) rfl _
  | ok text =>
      have hstage : ({ job with stage := some (.write text) } : Job).stage =
        some (.write text) := rfl
      dsimp only
      rw [moves_write b n hstage, Job.ended_stage]

/-- **The stages together are the work on a topic.** -/
theorem complete_eq (b : Batch) {job : Job} (h : job.stage = none) (w : World) :
    b.complete job w =
      job.ended (b.process job.topic (w.tell (.started job.index job.topic))).1
        (b.process job.topic (w.tell (.started job.index job.topic))).2 := by
  generalize hw : w.tell (.started job.index job.topic) = w₁
  rw [complete, maxMoves, moves, move_none b h, hw]
  dsimp only
  rw [moves, move_some b rfl (by simp), step_check, process]
  by_cases hpass : b.passesOver job.topic w₁.files = true
  · rw [if_pos hpass, if_pos hpass]
    exact moves_tell b 3 rfl _
  · rw [if_neg hpass, if_neg hpass]
    dsimp only
    rw [moves, move_some b rfl (by simp), step_extract]
    dsimp only
    cases b.promptFor job.topic w₁.opened w₁.files with
    | error e => exact moves_tell b 2 rfl _
    | ok prompt =>
        have hstage : ({ job with stage := some (.summarize prompt) } : Job).stage =
          some (.summarize prompt) := rfl
        dsimp only
        rw [moves_summarize b 0 hstage]
        dsimp only
        cases (b.summarizer.generate b.options.model prompt w₁.files).2 with
        | error e | ok text =>
            dsimp only
            rw [Job.ended_stage]

/-! ## What the work on a topic can do -/

/-- **All that the work on a topic can do.**  The topic is passed over; or there
is no prompt; or the summarizer gives no text; or its text is written. -/
theorem process_cases (b : Batch) (topic : String) (w : World) :
    (b.passesOver topic w.files = true ∧ b.process topic w = (.ok .skipped, w)) ∨
    (b.passesOver topic w.files = false ∧
      ((∃ e, b.promptFor topic w.opened w.files = .error e ∧
          b.process topic w = (settle e, { w with opened := w.opened + 1 })) ∨
        ∃ prompt asked, b.promptFor topic w.opened w.files = .ok prompt ∧
          b.summarizer.generate b.options.model prompt w.files = asked ∧
          ((∃ e, asked.2 = .error e ∧ b.process topic w =
              (settle e, { w with
                files := asked.1
                opened := w.opened + 1
                calls := w.calls ++ [(b.options.model, prompt)] })) ∨
            ∃ text, asked.2 = .ok text ∧ b.process topic w =
              (b.conclude topic (asked.1.writeText (b.pathOf topic) text), { w with
                files := (asked.1.writeText (b.pathOf topic) text).1
                opened := w.opened + 1
                calls := w.calls ++ [(b.options.model, prompt)] })))) := by
  unfold process
  cases hpass : b.passesOver topic w.files with
  | true => exact Or.inl ⟨rfl, rfl⟩
  | false =>
      refine Or.inr ⟨rfl, ?_⟩
      simp only [Bool.false_eq_true, if_false]
      cases hprompt : b.promptFor topic w.opened w.files with
      | error e => exact Or.inl ⟨e, rfl, rfl⟩
      | ok prompt =>
          refine Or.inr ⟨prompt, _, rfl, rfl, ?_⟩
          dsimp only
          cases hanswer :
              (b.summarizer.generate b.options.model prompt w.files).2 with
          | error e => exact Or.inl ⟨e, rfl, rfl⟩
          | ok text => exact Or.inr ⟨text, rfl, rfl⟩

/-- An error makes a topic a failure or ends the batch; it is never a summary. -/
theorem settle_cases (e : Error) :
    (e.kind = .fatal ∧ settle e = .error e) ∨
    (e.kind ≠ .fatal ∧ settle e = .ok (.failed e)) := by
  unfold settle Error.isFatal
  by_cases hfatal : e.kind = .fatal
  · exact Or.inl ⟨hfatal, by simp [hfatal]⟩
  · exact Or.inr ⟨hfatal, by simp [hfatal]⟩

/-- Writing a summary makes it written, makes the topic a failure, or ends the
batch. -/
theorem conclude_cases (b : Batch) (topic : String)
    (written : FileSystem × Except Fault Unit) :
    (written.2 = .ok () ∧ b.conclude topic written = .ok .written) ∨
      ∃ fault, written.2 = .error fault ∧
        (b.conclude topic written =
          .ok (.failed (.writeArtifact (b.pathOf topic) fault)) ∨
          b.conclude topic written = .error (.outputDirectory b.output fault)) := by
  unfold conclude
  cases hresult : written.2 with
  | ok u => exact Or.inl ⟨rfl, rfl⟩
  | error fault =>
      refine Or.inr ⟨fault, rfl, ?_⟩
      by_cases hdir : written.1.isDirectory b.output = true
      · exact Or.inl (by simp [hdir])
      · exact Or.inr (by simp [hdir])

/-- An error that does not end the batch makes its topic a failure. -/
theorem settle_eq_ok {e : Error} {outcome : Outcome} (h : settle e = .ok outcome) :
    outcome = .failed e ∧ e.kind ≠ .fatal := by
  rcases settle_cases e with ⟨-, hend⟩ | ⟨hkind, hend⟩
  · cases hend.symm.trans h
  · cases hend.symm.trans h
    exact ⟨rfl, hkind⟩

/-- An error that ends the batch is fatal, and ends it as it is. -/
theorem settle_eq_error {cause e : Error} (h : settle cause = .error e) :
    cause = e ∧ e.kind = .fatal := by
  rcases settle_cases cause with ⟨hkind, hend⟩ | ⟨-, hend⟩
  · cases hend.symm.trans h
    exact ⟨rfl, hkind⟩
  · cases hend.symm.trans h

/-- A summary counts as written iff writing it was answered without a fault. -/
theorem conclude_eq_written_iff {b : Batch} {topic : String}
    {written : FileSystem × Except Fault Unit} :
    b.conclude topic written = .ok .written ↔ written.2 = .ok () := by
  rcases conclude_cases b topic written with ⟨hok, hend⟩ |
    ⟨fault, hfault, hend | hend⟩
  · simp [hok, hend]
  · simp [hfault, hend]
  · simp [hfault, hend]

end Prospectus.Batch

namespace Prospectus

open Storage

/-- A summarizer only computes if its answer is made from the model's name and
the prompt alone, and no file changes when it is asked. -/
def Summarizer.OnlyComputes (s : Summarizer) : Prop :=
  ∃ answer : String → String → Except Error String,
    ∀ model prompt fs, s.generate model prompt fs = (fs, answer model prompt)

namespace Batch

/-- The work on a topic leads to a later state of the files. -/
theorem extends_process {b : Batch} (hpure : b.summarizer.OnlyComputes)
    (topic : String) (w : World) :
    w.files.Extends (b.process topic w).2.files := by
  obtain ⟨answer, hgenerate⟩ := hpure
  unfold process
  split
  · exact .refl _
  · split
    · exact .refl _
    · dsimp only
      rw [hgenerate]
      split
      · exact .refl _
      · dsimp only
        exact FileSystem.extends_writeText ..

/-! ## What the work on a topic depends on -/

/-- The output directory stays: from a state on, a directory stands at its path,
but for the empty path, at which none ever does. -/
def OutputStays (b : Batch) (files : FileSystem) : Prop :=
  ∀ later, files.Extends later → later.isDirectory b.output = !b.output.isEmpty

/-- What stays from a state on stays from a later state on. -/
theorem OutputStays.later {b : Batch} {files later : FileSystem}
    (h : b.OutputStays files)
    (hlater : files.Extends later) : b.OutputStays later :=
  fun last hlast => h last (hlater.trans hlast)

/-- Two worlds are alike for a topic: the document is found the same, the
topic's path has the same access, and the output directory stays in both. -/
structure Alike (b : Batch) (topic : String) (w other : World) : Prop where
  openAt_eq : b.source.openAt w.opened w.files =
    b.source.openAt other.opened other.files
  access : FileSystem.SameAccess (b.pathOf topic) w.files other.files
  output : b.OutputStays w.files
  output_other : b.OutputStays other.files

section Alike

variable {b : Batch} {topic : String} {w other : World}

/-- In like worlds a topic is passed over in both or in neither. -/
theorem Alike.passesOver_eq (h : b.Alike topic w other) :
    b.passesOver topic w.files = b.passesOver topic other.files := by
  rw [passesOver, passesOver, h.access.1]

/-- In like worlds a topic has the same prompt. -/
theorem Alike.promptFor_eq (h : b.Alike topic w other) :
    b.promptFor topic w.opened w.files =
      b.promptFor topic other.opened other.files := by
  rw [promptFor, promptFor, h.openAt_eq]

/-- In like worlds writing a summary ends a topic the same way. -/
theorem Alike.conclude_eq (h : b.Alike topic w other) (text : String) :
    b.conclude topic (w.files.writeText (b.pathOf topic) text) =
      b.conclude topic (other.files.writeText (b.pathOf topic) text) := by
  have hdir :=
    h.output _ (FileSystem.extends_writeText w.files (b.pathOf topic) text)
  have hdir' := h.output_other _
    (FileSystem.extends_writeText other.files (b.pathOf topic) text)
  rw [conclude, conclude, h.access.2 text, hdir, hdir']

/-- **What a topic comes to depends on little**: in like worlds it ends the same
way. -/
theorem Alike.process_eq (h : b.Alike topic w other)
    (hpure : b.summarizer.OnlyComputes) :
    (b.process topic w).1 = (b.process topic other).1 := by
  obtain ⟨answer, hgenerate⟩ := hpure
  simp only [process, h.passesOver_eq, h.promptFor_eq, hgenerate]
  split
  · rfl
  · cases b.promptFor topic other.opened other.files with
    | error e => rfl
    | ok prompt =>
        dsimp only
        cases answer b.options.model prompt with
        | error e => rfl
        | ok text =>
            dsimp only
            exact h.conclude_eq text

end Alike

end Batch

end Prospectus
