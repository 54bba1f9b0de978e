import Prospectus.Batch.Job
import Prospectus.Json.Writer
import Prospectus.Summary.Reply
import Prospectus.Summary.Url

/-!
# The summarizing service

A prompt is sent to a service over the network, and its reply is read.  The
network is whatever answers a request: it may reply, break off, not answer in
time, or not be reached.
-/

namespace Prospectus.Summary

/-- Where the service is unless said otherwise. -/
def defaultEndpoint : String := "https://generativelanguage.googleapis.com/v1beta"

/-- How the service is reached. -/
structure Service where
  endpoint : String := defaultEndpoint
  apiKey : String
  timeout : Time.Span := ⟨120, 0⟩
  /-- What is said of a body that is no reply. -/
  complaint : String → String := fun _ => "no reply"

/-- A request to the service. -/
structure Request where
  url : Url
  apiKey : String
  body : String

/-- What becomes of a request. -/
inductive Exchange where
  /-- A reply with a status and a body. -/
  | answered (status : Nat) (body : List UInt8)
  /-- A reply that breaks off. -/
  | brokenOff
  /-- No reply in time. -/
  | timedOut
  /-- The service cannot be reached, or hangs up. -/
  | unreachable

/-- What answers requests. -/
abbrev Network := Request → Exchange

namespace Service

/-- Sets the endpoint, without slashes at its end. -/
def withEndpoint (s : Service) (endpoint : String) : Service :=
  { s with endpoint := String.ofList (endpoint.toList.reverse.dropWhile (· =
    '/')).reverse }

/-- The settings in words, the key left out. -/
def text (s : Service) : String :=
  "GeminiConfig \x7b endpoint: " ++ Text.quoted s.endpoint ++
    ", api_key: \"<redacted>\", timeout: " ++
    s.timeout.text ++ " \x7d"

/-- The address at which a model is asked. -/
def address (s : Service) (model : String) : String :=
  s.endpoint ++ "/models/" ++ model ++ ":generateContent"

/-- Whether a key can be sent: it has no control characters but tabs. -/
def isSendable (key : String) : Bool :=
  key.toList.all fun c => c = '\t' || (0x20 ≤ c.toNat && c.toNat ≠ 0x7F)

end Service

/-- The body of a request. -/
def requestBody (prompt : String) : String :=
  (Json.Value.record [("contents", .array [.record [("role", .text "user"),
    ("parts", .array [.record [("text", .text prompt)]])]])]).compact

namespace Service

/-- The request for a prompt, or why there can be none. -/
def request (s : Service) (model prompt : String) : Except Error Request :=
  match Url.read? (s.address model) with
  | none => .error (.summarizer "builder error")
  | some address =>
    let url := address.withoutUser
    let refused : Error :=
      .summarizer ("builder error for url (" ++ url.text ++ ")")
    if url.host?.isNone then .error refused
    else if !isSendable s.apiKey then .error (.summarizer "builder error")
    else if !url.isSendable then .error refused
    else .ok ⟨url, s.apiKey, requestBody prompt⟩

/-- The summary that comes out of an exchange. -/
def conclude (s : Service) (request : Request) : Exchange → Except Error String
  | .answered status body =>
    let body := Text.decodeUtf8Lossy body
    if 200 ≤ status && status < 300 then readSummary s.complaint body
    else .error (.summarizer (describeFailure status body))
  | .brokenOff => .error (.summarizer "error decoding response body")
  | .timedOut => .error (.summarizerTimeout s.timeout)
  | .unreachable =>
    .error (.summarizer ("error sending request for url (" ++
      request.url.text ++ ")"))

/-- Asks a model. -/
def ask (s : Service) (network : Network) (model prompt : String) :
    Except Error String := do
  let request ← s.request model prompt
  s.conclude request (network request)

/-- The service as a summarizer. -/
def summarizer (s : Service) (network : Network) : Summarizer :=
  .ofFunction "gemini" (s.ask network)

end Service

end Prospectus.Summary
