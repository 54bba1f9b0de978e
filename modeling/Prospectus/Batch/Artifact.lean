import Prospectus.Error
import Prospectus.Storage.FileSystem
import Prospectus.Batch.TopicList

/-!
# Files of a batch

Where the summary of a topic goes, and how the lists and templates of a batch
are read.
-/

namespace Prospectus.Batch

open Storage

/-- The path of a topic's summary. -/
def artifactPath (output topic extension : String) : String :=
  join output (if extension.isEmpty then topic else topic ++ "." ++ extension)

/-- What the summarizer is asked: the excerpt, and the template after it. -/
def composePrompt (excerpt template : String) : String := excerpt ++ template

/-- The topics that a file lists. -/
def readTopics (fs : FileSystem) (path : String) : Except Error (List String) :=
  match fs.readText path with
  | .ok text => .ok (parseTopics text)
  | .error fault => .error (.topicList path fault)

/-- The template that a file holds. -/
def readPrompt (fs : FileSystem) (path : String) : Except Error String :=
  match fs.readText path with
  | .ok text => .ok text
  | .error fault => .error (.promptTemplate path fault)

/-- Makes the directory for the summaries. -/
def prepareOutput (fs : FileSystem) (path : String) :
    FileSystem × Except Error Unit :=
  match fs.makeDirectories path with
  | (fs, .ok ()) => (fs, .ok ())
  | (fs, .error fault) => (fs, .error (.outputDirectory path fault))

end Prospectus.Batch
