import Prospectus.Error
import Prospectus.Json.Writer
import Prospectus.Time.Moment

/-!
# Reports

A report counts what became of the topics of a batch and lists those that
failed, in order.
-/

namespace Prospectus.Batch

/-- A topic that failed. -/
structure Failure where
  topic : String
  kind : Kind
  message : String
deriving Repr, DecidableEq

/-- What became of a batch. -/
structure Report where
  startedAt : Time.Moment
  finishedAt : Option Time.Moment := none
  succeeded : Nat := 0
  skipped : Nat := 0
  failures : List Failure := []
deriving Repr, DecidableEq

namespace Report

/-- Counts a summary that was written. -/
def recordSuccess (r : Report) : Report := { r with succeeded := r.succeeded + 1 }

/-- Counts a topic that was passed over. -/
def recordSkip (r : Report) : Report := { r with skipped := r.skipped + 1 }

/-- Adds a topic that failed. -/
def recordFailure (r : Report) (topic : String) (e : Error) : Report :=
  { r with failures := r.failures ++ [⟨topic, e.kind, e.message⟩] }

/-- Marks the end. -/
def finish (r : Report) (time : Time.Moment) : Report :=
  { r with finishedAt := some time }

/-- The topics that failed. -/
def failedTopics (r : Report) : List String := r.failures.map (·.topic)

/-- The number of topics that failed. -/
def failed (r : Report) : Nat := r.failures.length

/-- The number of all topics. -/
def total (r : Report) : Nat := r.succeeded + r.skipped + r.failures.length

/-- Whether no topic failed. -/
def isClean (r : Report) : Bool := r.failures.isEmpty

/-- The report as a list of the topics that failed. -/
def text (r : Report) : String :=
  "Errors list\n" ++ String.join (r.failures.map (·.topic ++ "\n"))

/-- A failure as a value. -/
def failureValue (f : Failure) : Json.Value :=
  .record [("topic", .text f.topic), ("kind", .text f.kind.name),
    ("message", .text f.message)]

/-- The report as a value. -/
def toJson (r : Report) : Json.Value :=
  .record [("started_at", .text r.startedAt.text),
    ("finished_at", .text? (r.finishedAt.map (·.text))),
    ("succeeded", .int r.succeeded), ("skipped", .int r.skipped),
    ("failures", .array (r.failures.map failureValue))]

/-- The report as JSON text over several lines. -/
def json (r : Report) : String := r.toJson.pretty

end Report

end Prospectus.Batch
