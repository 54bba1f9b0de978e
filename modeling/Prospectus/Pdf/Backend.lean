import Prospectus.Pdf.Encoding
import Prospectus.Pdf.PageMap
import Prospectus.Pdf.Pages
import Prospectus.Pdf.TextState

/-!
# What pages are read from

A backend answers the questions that reading a page asks: which pages there are,
and the fonts, the content, the operations and the texts of each.  A PDF file is
one.
-/

namespace Prospectus.Pdf

/-- Answers about the pages of a document. -/
structure Backend where
  pages : PageMap
  fonts : ObjectId → Except Error (List FontInfo)
  content : ObjectId → Except Error Bytes
  operations : Bytes → Except Error (List Operation)
  /-- The text of a string that stands on a page in the font of a key. -/
  text : ObjectId → Bytes → Bytes → String

namespace Backend

/-- The runs of a page. -/
def pageRuns (b : Backend) (page : ObjectId) : Except Error (List Run) := do
  let fonts ← b.fonts page
  let content ← b.content page
  if content.isEmpty then return []
  let operations ← b.operations content
  return TextState.runs ⟨fonts, b.text page⟩ .initial operations

end Backend

namespace File

/-- The descriptor of a font, or of the first font that it is made of. -/
def fontDescriptor? (f : File) (font : Dictionary) : Option Dictionary :=
  (font.get? "FontDescriptor").bind f.dictionaryOf? <|> do
    let descendants ← match ← font.get? "DescendantFonts" with
      | .reference id => (f.object id).toOption
      | other => some other
    let first ← (← descendants.asArray?).head?
    let descendant ← f.dictionaryOf? first
    (descendant.get? "FontDescriptor").bind f.dictionaryOf?

/-- The weight that a font declares. -/
def fontWeight? (f : File) (font : Dictionary) : Option Float32 := do
  let descriptor ← f.fontDescriptor? font
  match ← descriptor.get? "FontWeight" with
  | .reference id => (f.object id).toOption.bind (·.asFloat32?)
  | weight => weight.asFloat32?

/-- A font under its key. -/
def fontInfo (f : File) (key : Bytes) (font : Dictionary) : FontInfo where
  key := key
  base := Text.decodeUtf8Lossy (((font.get? "BaseFont").bind (·.asName?)).getD key)
  weight := f.fontWeight? font

/-- The text of a string on a page. -/
def pageText (f : File) (page : ObjectId) (key bytes : Bytes) : String :=
  let encoding := do
    let fonts ← (f.pageFonts page).toOption
    Encoding.ofFont? f (← fonts.lookup key)
  match encoding with
  | some e => e.decode bytes
  | none => textOfBytes bytes

/-- The file as a backend. -/
def backend (f : File) : Backend where
  pages := .ofPages f.pages
  fonts page :=
    match f.pageFonts page with
    | .ok fonts => .ok (fonts.map fun (key, font) => f.fontInfo key font)
    | .error d => .error d.error
  content page := .ok (f.pageContent page)
  operations bytes :=
    match Content.operations bytes with
    | .ok ops => .ok ops
    | .error d => .error d.error
  text := f.pageText

end File

end Prospectus.Pdf
