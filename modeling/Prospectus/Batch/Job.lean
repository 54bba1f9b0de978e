import Prospectus.Batch.Artifact
import Prospectus.Batch.Options
import Prospectus.Pdf.Metadata

/-!
# Jobs of a batch

The work on one topic is a job.  It goes through stages: is there a summary
already, what does the catalog say, what does the summarizer make of it, writing
that down, and telling how it ended.  `Batch.move` takes a job one stage
further, so that the jobs of a batch can be done one after the other or side by
side.
-/

namespace Prospectus

open Storage

/-- A document that can be opened again and again.  What is found may depend on
the files, and on how often it has been opened before. -/
structure Source where
  describe : String
  openAt : Nat → FileSystem → Except Error PageSource

namespace Source

/-- A document in memory. -/
def ofDocument (d : Document) : Source := ⟨d.describe, fun _ _ => .ok d.source⟩

/-- The reader of a PDF file. -/
def openFile (fs : FileSystem) (path : String) : Except Error Pdf.File :=
  match fs.readBytes path with
  | .error fault => .error (.storage fault)
  | .ok bytes => Pdf.File.read bytes

/-- A PDF file. -/
def ofFile (path : String) (tolerance : Pdf.Tolerance) : Source where
  describe := path
  openAt _ fs := (openFile fs path).map fun file => (file.reader tolerance).source

end Source

/-- What makes summaries: from a model's name and a prompt, a text.  Asking may
change files. -/
structure Summarizer where
  name : String
  generate : String → String → FileSystem → FileSystem × Except Error String

namespace Summarizer

/-- A summarizer that only computes. -/
def ofFunction (name : String)
    (generate : String → String → Except Error String) : Summarizer :=
  ⟨name, fun model prompt fs => (fs, generate model prompt)⟩

/-- The summarizer that gives the prompt back. -/
def dryRun : Summarizer := ofFunction "dry-run" fun _ prompt => .ok prompt

end Summarizer

namespace Batch

/-- How a topic ended. -/
inductive Outcome where
  | written
  | skipped
  | failed (e : Error)
deriving Repr, DecidableEq

/-- How a topic ended, in short. -/
inductive Status where
  | succeeded
  | skipped
  | failed
deriving Repr, DecidableEq

/-- The status of an outcome. -/
def Outcome.status : Outcome → Status
  | .written => .succeeded
  | .skipped => .skipped
  | .failed _ => .failed

/-- What is told while a batch runs. -/
inductive Event where
  | started (index : Nat) (topic : String)
  | finished (index : Nat) (topic : String) (status : Status)
deriving Repr, DecidableEq

/-- What a batch works on and leaves behind: the files, how often the document
was opened, what the summarizer was asked, and the events, the latter two in
order. -/
structure World where
  files : FileSystem
  opened : Nat := 0
  calls : List (String × String) := []
  events : List Event := []

/-- The world after one more event. -/
def World.tell (w : World) (event : Event) : World :=
  { w with events := w.events ++ [event] }

/-- The stages of a job. -/
inductive Stage where
  /-- To see whether there is a summary already. -/
  | check
  /-- To take the excerpt. -/
  | extract
  /-- To ask the summarizer. -/
  | summarize (prompt : String)
  /-- To write the summary. -/
  | write (text : String)
  /-- The work is done, and its end is to be told. -/
  | tell (result : Except Error Outcome)
  /-- Done: an outcome, or an error that ends the batch. -/
  | finished (result : Except Error Outcome)

end Batch

/-- All that stays the same while a batch runs. -/
structure Batch where
  options : Batch.Options
  classifier : Classifier := .standard
  source : Source
  summarizer : Summarizer
  prompt : String
  output : String
  /-- Why several workers cannot be started, if they cannot. -/
  refusal : Option String := none

namespace Batch

/-- The extractor of a batch. -/
def extractor (b : Batch) : Extractor :=
  { b.options.extractor with classifier := b.classifier }

/-- The path of a topic's summary. -/
def pathOf (b : Batch) (topic : String) : String :=
  artifactPath b.output topic b.options.extension

/-- The stage after an error: the batch ends if the error is fatal, else the
topic has failed. -/
def Stage.ofError (e : Error) : Stage :=
  .tell (if e.isFatal then .error e else .ok (.failed e))

/-- One stage of the work on a topic. -/
def step (b : Batch) (topic : String) (stage : Stage) (w : World) : Stage × World :=
  match stage with
  | .check =>
    if b.options.existing = .skip && w.files.exists? (b.pathOf topic)
      then (.tell (.ok .skipped), w)
    else (.extract, w)
  | .extract =>
    let opened := b.source.openAt w.opened w.files
    let w := { w with opened := w.opened + 1 }
    match opened.bind fun source => b.extractor.extract source topic with
    | .ok excerpt => (.summarize (composePrompt excerpt.text b.prompt), w)
    | .error e => (.ofError e, w)
  | .summarize prompt =>
    let (files, answer) := b.summarizer.generate b.options.model prompt w.files
    let w := { w with files, calls := w.calls ++ [(b.options.model, prompt)] }
    match answer with
    | .ok text => (.write text, w)
    | .error e => (.ofError e, w)
  | .write text =>
    let (files, result) := w.files.writeText (b.pathOf topic) text
    let w := { w with files }
    match result with
    | .ok () => (.tell (.ok .written), w)
    | .error fault =>
      if files.isDirectory b.output
        then (.tell (.ok (.failed (.writeArtifact (b.pathOf topic) fault))), w)
      else (.tell (.error (.outputDirectory b.output fault)), w)
  | .tell result => (.finished result, w)
  | .finished result => (.finished result, w)

/-- The work on one topic; it has no stage before it is started. -/
structure Job where
  index : Nat
  topic : String
  stage : Option Stage := none

namespace Job

/-- How the job ended, if it has. -/
def result? (j : Job) : Option (Except Error Outcome) :=
  match j.stage with
  | some (.finished result) => some result
  | _ => none

/-- How the job ended; one that has not ended counts as skipped. -/
def result (j : Job) : Except Error Outcome := j.result?.getD (.ok .skipped)

/-- Whether the job has been started and has not ended. -/
def isActive (j : Job) : Bool := j.stage.isSome && j.result?.isNone

end Job

/-- Takes a job one stage further, telling of its start and its end.  An error
that ends the batch is not told. -/
def move (b : Batch) (job : Job) (w : World) : Job × World :=
  match job.stage with
  | none =>
    ({ job with stage := some .check }, w.tell (.started job.index job.topic))
  | some stage =>
    let (next, w) := b.step job.topic stage w
    let w := match stage with
      | .tell (.ok outcome) => w.tell (.finished job.index job.topic outcome.status)
      | _ => w
    ({ job with stage := some next }, w)

/-- The number of moves that take any job to its end. -/
def maxMoves : Nat := 6

/-- Takes a job so many stages further. -/
def moves (b : Batch) : Nat → Job → World → Job × World
  | 0, job, w => (job, w)
  | n + 1, job, w =>
    let (job, w) := b.move job w
    b.moves n job w

/-- Takes a job to its end. -/
def complete (b : Batch) (job : Job) (w : World) : Job × World :=
  b.moves maxMoves job w

end Batch

end Prospectus
