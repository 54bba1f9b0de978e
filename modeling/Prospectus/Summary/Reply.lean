import Prospectus.Error
import Prospectus.Json.Decode
import Prospectus.Json.Reader
import Prospectus.Text.Blank

/-!
# Replies of the service

A reply lists candidates; the text of the first is the summary.  A failed
request is described by the error that the service sends, or by what it sends
instead.
-/

namespace Prospectus.Summary

open Json

/-- One answer that the service offers. -/
structure Candidate where
  /-- The texts of its parts, those without a text left out; `none` if it has no
  content. -/
  texts : Option (List String)
  finishReason : Option String
deriving Repr, DecidableEq

/-- A reply of the service. -/
structure Reply where
  candidates : List Candidate
  blockReason : Option String
deriving Repr, DecidableEq

/-- The text of a part of a candidate, if it has one. -/
def partText? (v : Value) : Option (Option String) := do
  match ← recordFields? [("text", .nullable)] v with
  | [text] => Value.nullable? (·.asText?) text
  | _ => none

/-- The texts of a candidate's content. -/
def contentTexts? (v : Value) : Option (List String) := do
  match ← recordFields? [("parts", .defaulted)] v with
  | [none] => some []
  | [some parts] =>
    let texts ← (← parts.asArray?).mapM partText?
    return texts.filterMap id
  | _ => none

/-- The candidate that a value describes. -/
def Candidate.ofJson? (v : Value) : Option Candidate := do
  match ← recordFields? [("content", .nullable), ("finishReason", .nullable)] v with
  | [content, finishReason] =>
    return ⟨← Value.nullable? contentTexts? content, ← Value.nullable?
      (·.asText?) finishReason⟩
  | _ => none

/-- The reason that a feedback on the prompt gives for blocking it. -/
def blockReason? (v : Value) : Option (Option String) := do
  match ← recordFields? [("blockReason", .nullable)] v with
  | [reason] => Value.nullable? (·.asText?) reason
  | _ => none

/-- The reply that a value describes. -/
def Reply.ofJson? (v : Value) : Option Reply := do
  match ← recordFields?
    [("candidates", .defaulted), ("promptFeedback", .nullable)] v with
  | [candidates, feedback] =>
    let candidates ← match candidates with
      | none => some []
      | some v => (← v.asArray?).mapM Candidate.ofJson?
    let reason ← Value.nullable? blockReason? feedback
    return ⟨candidates, reason.bind id⟩
  | _ => none

/-- The summary that a reply holds. -/
def Reply.summary (r : Reply) : Except Error String :=
  match r.candidates with
  | [] => .error (.emptySummary r.blockReason)
  | first :: _ =>
    let text := String.join (first.texts.getD [])
    if text.isEmpty then .error (.emptySummary first.finishReason) else .ok text

/-- The summary that the body of a reply holds.  What is wrong with a body that
is no reply is said in the words of whoever reads it. -/
def readSummary (complaint : String → String) (body : String) :
    Except Error String :=
  match (Value.read? body).bind Reply.ofJson? with
  | some reply => reply.summary
  | none => .error (.summarizer ("Malformed response: " ++ complaint body))

/-- An error as the service sends it. -/
structure ServiceError where
  code : Nat
  message : String
  status : Option String
deriving Repr, DecidableEq

/-- The error that a value describes. -/
def ServiceError.ofJson? (v : Value) : Option ServiceError := do
  match ← recordFields? [("code", .defaulted), ("message", .defaulted),
    ("status", .nullable)] v with
  | [code, message, status] =>
    let code ← match code with
      | some v => v.asNat? 0x10000
      | none => some 0
    let message ← match message with
      | some v => v.asText?
      | none => some ""
    return ⟨code, message, ← Value.nullable? (·.asText?) status⟩
  | _ => none

/-- The error inside the body of a failed request. -/
def serviceError? (body : String) : Option ServiceError := do
  match ← recordFields? [("error", .required)] (← Value.read? body) with
  | [some e] => ServiceError.ofJson? e
  | _ => none

/-- A failed request in words. -/
def describeFailure (status : Nat) (body : String) : String :=
  match serviceError? body with
  | some e =>
    let code := if e.code = 0 then status else e.code
    match e.status with
    | some s => "HTTP " ++ toString code ++ " " ++ s ++ ": " ++ e.message
    | none => "HTTP " ++ toString code ++ ": " ++ e.message
  | none => "HTTP " ++ toString status ++ ": " ++ Text.trim body

end Prospectus.Summary
