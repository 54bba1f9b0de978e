import Prospectus.Command.Invocation

/-!
# The files that an invocation may look at

Which files matter is known from the arguments, apart from the summaries of a
batch, whose names come from the list of topics.
-/

namespace Prospectus.Command

open Storage

/-- The paths that an invocation names. -/
def Invocation.paths : Invocation → List String
  | .run request =>
    [request.files.topicList, request.files.catalog, request.files.promptFile,
      request.files.output] ++ request.report.toList
  | .contents catalog _ | .resolve catalog .. | .info catalog => [catalog]
  | .bold catalog _ _ output _ => catalog :: output.toList
  | .version => []

/-- The paths of the summaries that an invocation may write. -/
def Invocation.artifacts (invocation : Invocation) (fs : FileSystem) :
    List String :=
  match invocation with
  | .run request =>
    match Batch.readTopics fs request.files.topicList with
    | .ok topics =>
      topics.map fun t => Batch.artifactPath request.files.output t
        request.options.extension
    | .error _ => []
  | _ => []

end Prospectus.Command
