import Prospectus.Error
import Prospectus.Pdf.Object

/-!
# Defects of a PDF file

A file can be broken as a whole, when nothing of it can be used, or at one
object that some page needs.  Either way the defect ends as an error about a
malformed document.
-/

namespace Prospectus.Pdf

/-- What is wrong with a PDF file. -/
inductive Defect where
  | header
  | start
  | previousStart
  | furtherStart
  | table
  | trailer
  | content
  | missing (id : ObjectId)
  | cycle (id : ObjectId)
  | tooManyReferences
  | wrongType (expected found : String)
  | missingKey (key : String)
  | securityHandler
deriving Repr, DecidableEq

namespace Defect

/-- The defect in words. -/
def text : Defect → String
  | header => "couldn't parse input: invalid file header"
  | start => "failed parsing cross reference table: invalid start value"
  | previousStart =>
    "failed parsing cross reference table: invalid start value in Prev field"
  | furtherStart =>
    "failed parsing cross reference table: invalid start value in XRefStm field"
  | table => "couldn't parse input: invalid cross reference table"
  | trailer => "couldn't parse input: invalid file trailer"
  | content => "couldn't parse input: invalid content stream"
  | missing id =>
    "object ID " ++ toString id.number ++ " " ++ toString id.generation ++
      " not found"
  | cycle id =>
    "reference cycle with object ID " ++ toString id.number ++ " " ++
      toString id.generation
  | tooManyReferences =>
    "dereferencing object reached limit, may indicate a reference cycle"
  | wrongType expected found =>
    "object has wrong type; expected type " ++ expected ++
      " but found type " ++ found
  | missingKey key => "missing required dictionary key \"" ++ key ++ "\""
  | securityHandler => "unsupported security handler"

/-- The defect as an error. -/
def error (d : Defect) : Error := .malformedDocument d.text

end Defect

end Prospectus.Pdf
