import Prospectus.Batch.Job
import Prospectus.Batch.Report

/-!
# Running a batch

With one worker, jobs are done in order, each to its end, up to the first that
ends the batch.  With more workers, several jobs are under way at a time; which
of them moves next is given by a list of turns.
-/

namespace Prospectus.Batch

open Storage

/-- The jobs of a list of topics. -/
def jobsOf (topics : List String) : List Job :=
  topics.zipIdx.map fun (topic, index) => { index, topic }

/-- Does jobs one after the other. -/
def runInOrder (b : Batch) : List Job → World → World × Except Error (List Outcome)
  | [], w => (w, .ok [])
  | job :: rest, w =>
    let (job, w) := b.complete job w
    match job.result with
    | .error e => (w, .error e)
    | .ok outcome =>
      let (w, outcomes) := b.runInOrder rest w
      (w, outcomes.map (outcome :: ·))

/-- Jobs side by side, and the first error that ends the batch. -/
structure Floor where
  jobs : List Job
  world : World
  fatal : Option Error := none

/-- Whether a job may move: it is under way, or there is a worker to start it
and the batch goes on. -/
def Floor.mayMove (f : Floor) (workers : Nat) (job : Job) : Bool :=
  job.stage.isSome || (f.fatal.isNone && (f.jobs.filter (·.isActive)).length <
    workers)

/-- One job's turn. -/
def turn (b : Batch) (f : Floor) (k : Nat) : Floor :=
  match f.jobs[k]? with
  | none => f
  | some job =>
    if f.mayMove b.options.workers job then
      let (job, world) := b.move job f.world
      let fatal := f.fatal <|> match job.result? with
        | some (.error e) => some e
        | _ => none
      ⟨f.jobs.set k job, world, fatal⟩
    else f

/-- The turns that take every job to its end, in order. -/
def allTurns (count : Nat) : List Nat :=
  (List.range count).flatMap fun k => List.replicate maxMoves k

/-- Does jobs side by side: first as the turns say, then those under way and
last the rest in order. -/
def runTogether (b : Batch) (turns : List Nat) (jobs : List Job) (w : World) :
    World × Except Error (List Outcome) :=
  let all := turns ++ allTurns jobs.length ++ allTurns jobs.length
  let f := all.foldl b.turn ⟨jobs, w, none⟩
  match f.fatal with
  | some e => (f.world, .error e)
  | none => (f.world, f.jobs.mapM (·.result))

/-- Does jobs in order, or side by side if there are several workers, who have
to be started first. -/
def execute (b : Batch) (turns : List Nat) (jobs : List Job) (w : World) :
    World × Except Error (List Outcome) :=
  if b.options.workers ≤ 1 then b.runInOrder jobs w
  else match b.refusal with
    | some reason =>
      (w, .error (.other ("Failed to start worker pool: " ++ reason)))
    | none => b.runTogether turns jobs w

/-- The report on topics and their outcomes. -/
def reportOn (started finished : Time.Moment)
    (results : List (String × Outcome)) : Report :=
  let record (r : Report) : String × Outcome → Report
    | (_, .written) => r.recordSuccess
    | (_, .skipped) => r.recordSkip
    | (topic, .failed e) => r.recordFailure topic e
  (results.foldl record { startedAt := started }).finish finished

/-- Runs a batch between two moments.  The document is opened once before
anything else, to see that it can be. -/
def run (b : Batch) (turns : List Nat) (topics : List String)
    (started finished : Time.Moment) (w : World) :
    World × Except Error Report :=
  let topics := cleanTopics topics
  match prepareOutput w.files b.output with
  | (files, .error e) => ({ w with files }, .error e)
  | (files, .ok ()) =>
    let opened := b.source.openAt w.opened files
    let w := { w with files, opened := w.opened + 1 }
    match opened with
    | .error e => (w, .error (.openDocument b.source.describe e.message))
    | .ok _ =>
      let (w, outcomes) := b.execute turns (jobsOf topics) w
      (w, outcomes.map fun outcomes => reportOn started finished
        (topics.zip outcomes))

/-- What a batch is read from: a list of topics, a catalog, a prompt template,
and where summaries go. -/
structure Files where
  topicList : String
  catalog : String
  promptFile : String
  output : String

/-- Runs a batch on files. -/
def runFiles (options : Options) (classifier : Classifier)
    (summarizer : Summarizer) (files : Files)
    (turns : List Nat) (started finished : Time.Moment) (w : World)
    (refusal : Option String := none) :
    World × Except Error Report :=
  match readTopics w.files files.topicList with
  | .error e => (w, .error e)
  | .ok topics =>
    match readPrompt w.files files.promptFile with
    | .error e => (w, .error e)
    | .ok prompt =>
      let source := Source.ofFile files.catalog options.tolerance
      run { options, classifier, source, summarizer, prompt,
            output := files.output, refusal } turns topics
        started finished w

end Prospectus.Batch
