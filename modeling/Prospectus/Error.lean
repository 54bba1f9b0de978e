import Prospectus.Storage.Fault
import Prospectus.Text.Quoted
import Prospectus.Time.Span

/-!
# Errors

Every way in which reading a catalog, looking a topic up, or summarizing it can
fail.  An error has a kind, which decides whether a batch goes on, and a
message.
-/

namespace Prospectus

open Storage Text Time

/-- What an error means for the work at hand. -/
inductive Kind where
  /-- The catalog does not list what was asked for. -/
  | notFound
  /-- A document, file or service failed for one topic. -/
  | collaborator
  /-- Nothing further can be done. -/
  | fatal
deriving Repr, DecidableEq, Inhabited

namespace Kind

/-- The kind's name in reports. -/
def name : Kind → String
  | notFound => "not_found"
  | collaborator => "collaborator"
  | fatal => "fatal"

/-- The kind in words. -/
def text : Kind → String
  | notFound => "not found"
  | collaborator => "collaborator"
  | fatal => "fatal"

end Kind

/-- The causes of failure. -/
inductive Error where
  /-- No page up to the limit holds the marker of the table of contents. -/
  | contentsNotFound (marker : String) (pagesSearched : UInt32)
  /-- No line of the table of contents holds the topic. -/
  | topicNotFound (topic : String)
  /-- The topic's line has no page number. -/
  | pageNumberMissing (topic line : String)
  /-- A file could not be read or written. -/
  | storage (fault : Fault)
  /-- The document is not well formed. -/
  | malformedDocument (reason : String)
  /-- The document cannot be decrypted. -/
  | encryptedDocument
  /-- The document has no such page. -/
  | pageOutOfRange (page count : UInt32)
  /-- The summarizer failed. -/
  | summarizer (reason : String)
  /-- The summarizer did not answer in time. -/
  | summarizerTimeout (limit : Span)
  /-- The summarizer answered without a text. -/
  | emptySummary (reason : Option String)
  /-- The list of topics could not be read. -/
  | topicList (path : String) (fault : Fault)
  /-- The prompt template could not be read. -/
  | promptTemplate (path : String) (fault : Fault)
  /-- The directory for the summaries cannot be used. -/
  | outputDirectory (path : String) (fault : Fault)
  /-- A summary could not be written. -/
  | writeArtifact (path : String) (fault : Fault)
  /-- The document cannot be opened at all. -/
  | openDocument (path reason : String)
  /-- Any other failure, in words. -/
  | other (message : String)
deriving Repr, DecidableEq, Inhabited

namespace Error

/-- The kind of an error. -/
def kind : Error → Kind
  | contentsNotFound .. | topicNotFound _ | pageNumberMissing .. => .notFound
  | topicList .. | promptTemplate .. | outputDirectory .. | openDocument .. =>
    .fatal
  | storage _ | malformedDocument _ | encryptedDocument | pageOutOfRange .. |
    summarizer _
  | summarizerTimeout _ | emptySummary _ | writeArtifact .. | other _ =>
    .collaborator

/-- Whether nothing further can be done after the error. -/
def isFatal (e : Error) : Bool := e.kind = .fatal

/-- The error's message. -/
def message : Error → String
  | contentsNotFound marker searched =>
    "Table of contents marker " ++ quoted marker ++
      " not found in the first " ++ toString searched ++ " pages"
  | topicNotFound topic =>
    "Topic " ++ quoted topic ++ " not found in the table of contents"
  | pageNumberMissing topic line =>
    "No page number on the table of contents line for " ++ quoted topic ++
      ": " ++ quoted line
  | storage fault => "I/O error: " ++ fault.text
  | malformedDocument reason => "PDF parsing error: " ++ reason
  | encryptedDocument => "Document is encrypted"
  | pageOutOfRange page count =>
    "Page " ++ toString page ++ " is out of range (document has " ++
      toString count ++ " pages)"
  | summarizer reason => "Summarizer error: " ++ reason
  | summarizerTimeout limit => "Summarizer timed out after " ++ limit.text
  | emptySummary none => "Summarizer returned no text"
  | emptySummary (some reason) => "Summarizer returned no text (" ++ reason ++ ")"
  | topicList path fault => "Cannot read topic list " ++ path ++ ": " ++ fault.text
  | promptTemplate path fault =>
    "Cannot read prompt template " ++ path ++ ": " ++ fault.text
  | outputDirectory path fault =>
    "Cannot prepare output directory " ++ path ++ ": " ++ fault.text
  | writeArtifact path fault => "Cannot write " ++ path ++ ": " ++ fault.text
  | openDocument path reason =>
    "Cannot open source document " ++ path ++ ": " ++ reason
  | other message => message

end Error

end Prospectus
