import Prospectus.Command.Invocation
import Prospectus.Command.Lookup
import Prospectus.Command.Paint
import Prospectus.Summary.Service

/-!
# The program

Arguments are read, a command is performed on the files, and what it prints is
put together.  A command that fails says why on the error output and ends with
code 1; arguments that make no sense end with code 2.
-/

namespace Prospectus.Command

open Storage

/-- What the program finds around it. -/
structure Surroundings where
  environment : Environment
  /-- Whether the output goes to a terminal. -/
  terminal : Bool := false
  network : Summary.Network
  /-- When a batch starts. -/
  started : Time.Moment
  /-- When a batch is done. -/
  finished : Time.Moment
  /-- Why several workers cannot be started, if they cannot. -/
  refusal : Option String := none
  /-- Which job of a batch moves next, for jobs side by side. -/
  turns : List Nat := []

/-- Whether the output is coloured. -/
def Surroundings.colored (s : Surroundings) : Bool :=
  wantsColor s.environment s.terminal

/-- Why a command failed. -/
inductive Failure where
  | error (e : Error)
  | storage (fault : Fault)
  /-- There is no key for the service. -/
  | noKey
deriving Repr, DecidableEq

/-- Why a command failed, in words. -/
def Failure.message : Failure → String
  | error e => e.message
  | storage fault => fault.text
  | noKey => "No API key: set GEMINI_API_KEY or pass --api-key (or use --dry-run)"

/-- What a command leaves behind. -/
structure Result where
  files : FileSystem
  output : String := ""
  failure : Option Failure := none

/-- The result of a command that only prints. -/
def Result.ofPrinted (fs : FileSystem) : Except Error String → Result
  | .ok output => { files := fs, output }
  | .error e => { files := fs, failure := some (.error e) }

/-- A line with a name before it. -/
def labelled (colored : Bool) (label text : String) : String :=
  Style.bold.paint colored label ++ ": " ++ text ++ "\n"

/-- The place of a topic as it is printed. -/
def Place.text (p : Place) (colored : Bool) : String :=
  let window := match p.window with
    | some w => w.text
    | none =>
      Style.yellow.paint colored ("outside the document (" ++
        toString p.pageCount ++ " pages)")
  labelled colored "Line" (Text.trim p.line) ++
    labelled colored "Page" (toString p.page.toInt) ++
    labelled colored "Window" window

/-- Metadata as they are printed. -/
def metadataText (m : Metadata) (colored : Bool) (catalog : String) : String :=
  let optional (label : String) (text : Option String) : String :=
    text.elim "" (labelled colored label)
  Style.boldCyan.paint colored "Document Information" ++ "\n" ++
    Style.dimmed.paint colored (String.ofList (List.replicate 40 '─')) ++ "\n" ++
    labelled colored "File" catalog ++
      labelled colored "Format" ("PDF " ++ m.formatVersion) ++
    labelled colored "Pages" (toString m.pageCount) ++
    labelled colored "Encrypted" (if m.encrypted then "Yes" else "No") ++
    optional "Title" m.title ++ optional "Author" m.author ++
      optional "Creator" m.creator ++
    optional "Producer" m.producer ++
    optional "Created" (m.created.map fun t => t.date.text ++ " " ++
      t.timeText ++ " UTC")

/-- The name and the number of this program. -/
def programVersion : String := "0.1.0"

/-- What this program is. -/
def versionText (colored : Bool) : String :=
  Style.boldCyan.paint colored "tocdigest" ++ " " ++ programVersion ++
    "\nCatalog topic summarizer\n\nLicense: MIT\n"

/-- How this program is used. -/
def helpText : String :=
  "Summarize catalog topics found through a PDF table of contents\n\n" ++
    "Usage: tocdigest <COMMAND>\n\nCommands:\n" ++
    "  run      Summarize every topic in a topic list\n" ++
    "  toc      Print the table-of-contents page\n" ++
    "  resolve  Show the page and window a topic resolves to\n" ++
    "  bold     Print the bold excerpt for a topic\n" ++
    "  info     Show document information\n" ++
    "  version  Show version information\n" ++
    "  help     Print this message or the help of the given subcommand(s)\n\n" ++
    "Options:\n  -h, --help     Print help\n  -V, --version  Print version\n"

/-- The summarizer for a batch.  A blank key counts as none, and there is a
second variable for it. -/
def summarizerFor (s : Surroundings) (request : BatchRequest) :
    Except Failure Summarizer :=
  if request.dryRun then .ok .dryRun
  else
    let usable (key : Option String) : Option String :=
      key.filter fun k => !Text.isAllBlank k
    match usable request.apiKey <|>
      usable (s.environment.lookup "GOOGLE_API_KEY") with
    | none => .error .noKey
    | some apiKey =>
      let service : Summary.Service := { apiKey, timeout := ⟨request.timeout, 0⟩ }
      .ok ((service.withEndpoint request.endpoint).summarizer s.network)

/-- What is printed before a batch. -/
def announcement (colored : Bool) (topics : List String)
    (summarizer : Summarizer) (model : String) : String :=
  Style.boldCyan.paint colored "Summarizing" ++ " " ++ toString topics.length ++
    " topics with " ++ summarizer.name ++ " (" ++ model ++ ")\n"

/-- What is printed after a batch. -/
def conclusion (colored : Bool) (report : Batch.Report) : String :=
  Style.boldGreen.paint colored "Done!" ++ " " ++ toString report.succeeded ++
    " written, " ++
    toString report.skipped ++ " skipped, " ++ toString report.failed ++
      " failed\n" ++
    if report.isClean then "" else "\n" ++ Style.yellow.paint colored report.text

/-- Runs a batch, and saves the report on it if that is asked for. -/
def runBatch (s : Surroundings) (request : BatchRequest) (fs : FileSystem) :
    Result :=
  let reading : Except Failure (Summarizer × List String × String) := do
    let summarizer ← summarizerFor s request
    let topics ← (Batch.readTopics fs request.files.topicList).mapError .error
    let prompt ← (Batch.readPrompt fs request.files.promptFile).mapError .error
    return (summarizer, topics, prompt)
  match reading with
  | .error failure => { files := fs, failure := some failure }
  | .ok (summarizer, topics, prompt) =>
    let batch : Batch :=
      { options := request.options, summarizer, prompt,
        output := request.files.output
        source := .ofFile request.files.catalog request.options.tolerance,
        refusal := s.refusal }
    let announced := announcement s.colored topics summarizer request.options.model
    match batch.run s.turns topics s.started s.finished { files := fs } with
    | (w, .error e) =>
      { files := w.files, output := announced, failure := some (.error e) }
    | (w, .ok report) =>
      let output := announced ++ conclusion s.colored report
      match request.report with
      | none => { files := w.files, output }
      | some path =>
        match w.files.writeText path report.json with
        | (files, .error fault) =>
          { files, output, failure := some (.storage fault) }
        | (files, .ok ()) =>
          { files, output := output ++
            Style.green.paint s.colored "Report saved to" ++ " " ++ path ++ "\n" }

/-- Prints an excerpt, or saves it in a file. -/
def deliver (colored : Bool) (fs : FileSystem) (output : Option String)
    (content : String) : Result :=
  match output with
  | none => { files := fs, output := content ++ "\n" }
  | some path =>
    match fs.writeBytes path (Text.encodeUtf8 content) with
    | .error fault => { files := fs, failure := some (.storage fault) }
    | .ok files =>
      { files, output := Style.green.paint colored "Saved to" ++ " " ++
        path ++ "\n" }

/-- Performs a command. -/
def perform (s : Surroundings) (invocation : Invocation) (fs : FileSystem) :
    Result :=
  match invocation with
  | .run request => runBatch s request fs
  | .contents catalog locator =>
    .ofPrinted fs ((tableOfContents fs catalog locator).map (· ++ "\n"))
  | .resolve catalog topic extractor =>
    .ofPrinted fs ((findPlace fs catalog topic extractor).map (·.text s.colored))
  | .bold catalog topic extractor output json =>
    match findExcerpt fs catalog topic extractor with
    | .error e => { files := fs, failure := some (.error e) }
    | .ok excerpt =>
      deliver s.colored fs output (if json then excerpt.json else excerpt.text)
  | .info catalog =>
    .ofPrinted fs ((findMetadata fs catalog).map (metadataText · s.colored catalog))
  | .version => { files := fs, output := versionText s.colored }

/-- How the program ended. -/
structure Ending where
  files : FileSystem
  code : Nat
  output : String
  errors : String

/-- Runs the program. -/
def program (s : Surroundings) (arguments : List String) (fs : FileSystem) :
    Ending :=
  match Invocation.read s.environment arguments with
  | .error .help => ⟨fs, 0, helpText, ""⟩
  | .error .version => ⟨fs, 0, "tocdigest " ++ programVersion ++ "\n", ""⟩
  | .error (.misuse reason) => ⟨fs, 2, "", "error: " ++ reason.message ++ "\n"⟩
  | .ok invocation =>
    let result := perform s invocation fs
    match result.failure with
    | none => ⟨result.files, 0, result.output, ""⟩
    | some failure =>
      ⟨result.files, 1, result.output, Style.boldRed.paint s.colored "Error" ++
        ": " ++ failure.message ++ "\n"⟩

end Prospectus.Command
