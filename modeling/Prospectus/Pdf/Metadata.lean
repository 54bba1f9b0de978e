import Prospectus.Document
import Prospectus.Pdf.Backend
import Prospectus.Pdf.Date
import Prospectus.Pdf.Encryption
import Prospectus.Pdf.Reader

/-!
# What a PDF file says about itself

Title, author and the like come from the information dictionary that the trailer
names; what is missing there, or is no text, is absent.
-/

namespace Prospectus.Pdf.File

/-- A text of the file's information dictionary. -/
def infoText? (f : File) (key : String) : Option String := do
  let info ← (f.trailer.get? "Info").bind f.dictionaryOf?
  match ← info.get? key with
  | .string bytes => some (textOfBytes bytes)
  | .name bytes => Text.decodeUtf8? bytes
  | _ => none

/-- The file's metadata. -/
def metadata (f : File) : Metadata where
  title := f.infoText? "Title"
  author := f.infoText? "Author"
  creator := f.infoText? "Creator"
  producer := f.infoText? "Producer"
  created := (f.infoText? "CreationDate").bind dateOf?
  formatVersion := f.version
  pageCount := f.backend.pages.size
  encrypted := f.isEncrypted

/-- A reader of the file's pages. -/
def reader (f : File) (tolerance : Tolerance) : Reader := ⟨f.backend, tolerance⟩

end Prospectus.Pdf.File
