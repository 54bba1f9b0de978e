import Prospectus.Batch.Run
import Prospectus.Command.Arguments
import Prospectus.Summary.Service

/-!
# Invocations

What the program is asked to do, read from its arguments and its environment.
-/

namespace Prospectus.Command

/-- The environment of the program: variables and their values. -/
abbrev Environment := List (String × String)

/-- A batch to run. -/
structure BatchRequest where
  files : Batch.Files
  options : Batch.Options
  /-- Only give prompts back. -/
  dryRun : Bool
  /-- The file for the report. -/
  report : Option String
  apiKey : Option String
  endpoint : String
  /-- The time that the summarizer has, in seconds. -/
  timeout : Nat

/-- What the program is asked to do. -/
inductive Invocation where
  /-- Summarize the topics of a list. -/
  | run (request : BatchRequest)
  /-- Print the table of contents. -/
  | contents (catalog : String) (locator : Contents.Locator)
  /-- Show where a topic is. -/
  | resolve (catalog topic : String) (extractor : Extractor)
  /-- Print or save the excerpt of a topic. -/
  | bold (catalog topic : String) (extractor : Extractor)
      (output : Option String) (json : Bool)
  /-- Show what a catalog says about itself. -/
  | info (catalog : String)
  /-- Show what this program is. -/
  | version

/-- Parameters about the table of contents. -/
def locatorParameters : List Parameter :=
  [⟨"toc-marker", .text, none, false⟩, ⟨"toc-pages", .count32, none, false⟩]

/-- Parameters about the pages around a topic. -/
def windowParameters : List Parameter :=
  [⟨"before", .count32, none, false⟩, ⟨"after", .count32, none, false⟩]

/-- The operand for a catalog. -/
def catalogOperand : Parameter := ⟨"FILE", .path, none, true⟩

/-- The operand for a topic. -/
def topicOperand : Parameter := ⟨"TOPIC", .text, none, true⟩

/-- What the command for a batch takes. -/
def runGrammar : Grammar where
  parameters :=
    [⟨"catalog", .path, some 'c', true⟩, ⟨"topics", .path, some 't', true⟩,
      ⟨"prompt", .path, some 'p', true⟩, ⟨"output", .path, some 'o', false⟩,
      ⟨"model", .text, some 'm', false⟩, ⟨"extension", .text, none, false⟩,
      ⟨"timeout", .count64, none, false⟩, ⟨"jobs", .count64, some 'j', false⟩,
      ⟨"report", .path, none, false⟩, ⟨"api-key", .text, none, false⟩,
      ⟨"endpoint", .text, none, false⟩] ++ locatorParameters ++ windowParameters
  switches := ["skip-existing", "dry-run", "lenient"]

/-- The locator that was asked for. -/
def locatorOf (given : Given) : Contents.Locator :=
  let standard : Contents.Locator := {}
  ⟨given.value "toc-marker" standard.marker,
    (given.count "toc-pages" standard.pageLimit.toNat).toUInt32⟩

/-- The extractor that was asked for. -/
def extractorOf (given : Given) : Extractor :=
  let standard : Extractor := {}
  { locator := locatorOf given
    pagesBefore := (given.count "before" standard.pagesBefore.toNat).toUInt32
    pagesAfter := (given.count "after" standard.pagesAfter.toNat).toUInt32 }

/-- The batch that was asked for. -/
def batchOf (environment : Environment) (given : Given) : BatchRequest :=
  let standard : Batch.Options := {}
  let extractor := extractorOf given
  let options : Batch.Options :=
    { locator := extractor.locator
      pagesBefore := extractor.pagesBefore
      pagesAfter := extractor.pagesAfter
      model := (given.value? "model" <|>
        environment.lookup "TOCDIGEST_MODEL").getD standard.model
      existing := if given.has "skip-existing" then .skip else .overwrite
      tolerance := if given.has "lenient" then .lenient else .strict }
  { files :=
      { topicList := given.value "topics" "", catalog := given.value "catalog" ""
        promptFile := given.value "prompt" ""
        output := given.value "output" "summaries" }
    options :=
      (options.withExtension (given.value "extension" standard.extension)).withWorkers
        (given.count "jobs" 1)
    dryRun := given.has "dry-run"
    report := given.value? "report"
    apiKey := given.value? "api-key" <|> environment.lookup "GEMINI_API_KEY"
    endpoint := given.value "endpoint" Summary.defaultEndpoint
    timeout := given.count "timeout" 120 }

/-- Reads the arguments of a command. -/
def readCommand (environment : Environment) (command : String)
    (arguments : List String) : Except Stop Invocation := do
  match command with
  | "run" => return .run (batchOf environment (← runGrammar.read arguments))
  | "toc" =>
    let given ← ({ operands := [catalogOperand], parameters := locatorParameters
      } : Grammar).read arguments
    return .contents (given.value "FILE" "") (locatorOf given)
  | "resolve" =>
    let grammar : Grammar :=
      { operands := [catalogOperand, topicOperand],
        parameters := locatorParameters ++ windowParameters }
    let given ← grammar.read arguments
    return .resolve (given.value "FILE" "") (given.value "TOPIC" "")
      (extractorOf given)
  | "bold" =>
    let grammar : Grammar :=
      { operands := [catalogOperand, topicOperand]
        parameters := ⟨"output", .path, some 'o', false⟩ :: locatorParameters ++
          windowParameters
        switches := ["json"] }
    let given ← grammar.read arguments
    return .bold (given.value "FILE" "") (given.value "TOPIC" "")
      (extractorOf given) (given.value? "output")
      (given.has "json")
  | "info" =>
    let given ← ({ operands := [catalogOperand] } : Grammar).read arguments
    return .info (given.value "FILE" "")
  | "version" =>
    let _ ← ({} : Grammar).read arguments
    return .version
  | _ => throw (.misuse (.unknownCommand command))

/-- Reads all arguments of the program. -/
def Invocation.read (environment : Environment) (arguments : List String) :
    Except Stop Invocation :=
  match arguments with
  | [] => .error (.misuse .noCommand)
  | argument :: rest =>
    match Spelling.of argument with
    | .name "help" none | .letter 'h' _ => .error .help
    | .name "version" none | .letter 'V' _ => .error .version
    | .plain =>
      if argument = "help" then .error .help
        else readCommand environment argument rest
    | _ => .error (.misuse (.unexpected argument))

end Prospectus.Command
