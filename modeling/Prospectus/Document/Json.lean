import Prospectus.Document
import Prospectus.Json.Decode
import Prospectus.Json.Reader
import Prospectus.Json.Writer

/-!
# Documents as JSON

A document is written with its metadata and its pages.  Floats are written with
the fewest digits that read back, and as null if they are not finite; the weight
of a run is left out if there is none.
-/

namespace Prospectus

open Json

/-- A float as a value. -/
def float32Value (x : Float32) : Value :=
  match Number.Numeral.ofFloat32? x with
  | some n => .number n
  | none => .null

/-- A run as a value. -/
def Run.toJson (r : Run) : Value :=
  .record ([("text", .text r.text), ("font_name", .text r.font)] ++
    (match r.weight with
      | some w => [("font_weight", float32Value w)]
      | none => []) ++
    [("font_size", float32Value r.size), ("x", float32Value r.x),
      ("y", float32Value r.y)])

/-- A page as a value. -/
def Page.toJson (p : Page) : Value :=
  .record [("number", .int p.number.toNat),
    ("runs", .array (p.runs.map Run.toJson))]

/-- Metadata as a value. -/
def Metadata.toJson (m : Metadata) : Value :=
  .record [("title", .text? m.title), ("author", .text? m.author),
    ("creator", .text? m.creator), ("producer", .text? m.producer),
    ("created", .text? (m.created.map (·.text))),
    ("pdf_version", .text m.formatVersion),
    ("page_count", .int m.pageCount.toNat), ("encrypted", .bool m.encrypted)]

/-- A document as a value. -/
def Document.toJson (d : Document) : Value :=
  .record [("metadata", d.metadata.toJson),
    ("pages", .array (d.pages.map Page.toJson))]

/-- A number of 32 bits. -/
def uint32Of? (v : Value) : Option UInt32 := (v.asNat? 0x100000000).map Nat.toUInt32

/-- The fields of a run. -/
def Run.spec : List (String × Need) :=
  [("text", .required), ("font_name", .required), ("font_weight", .defaulted),
    ("font_size", .required), ("x", .required), ("y", .required)]

/-- The run that a value describes. -/
def Run.ofJson? (v : Value) : Option Run := do
  match ← recordFields? Run.spec v with
  | [some text, some font, weight, some size, some x, some y] =>
    return {
      text := ← text.asText?
      font := ← font.asText?
      weight := ← Value.nullable? (·.asFloat32?) weight
      size := ← size.asFloat32?
      x := ← x.asFloat32?
      y := ← y.asFloat32? }
  | _ => none

/-- The fields of a page. -/
def Page.spec : List (String × Need) := [("number", .required), ("runs", .required)]

/-- The page that a value describes. -/
def Page.ofJson? (v : Value) : Option Page := do
  match ← recordFields? Page.spec v with
  | [some number, some runs] =>
    return ⟨← uint32Of? number, ← (← runs.asArray?).mapM Run.ofJson?⟩
  | _ => none

/-- The fields of metadata. -/
def Metadata.spec : List (String × Need) :=
  [("title", .nullable), ("author", .nullable), ("creator", .nullable),
    ("producer", .nullable), ("created", .nullable), ("pdf_version", .required),
    ("page_count", .required), ("encrypted", .required)]

/-- The metadata that a value describes. -/
def Metadata.ofJson? (v : Value) : Option Metadata := do
  match ← recordFields? Metadata.spec v with
  | [title, author, creator, producer, created, some version, some pageCount,
    some encrypted] =>
    return {
      title := ← Value.nullable? (·.asText?) title
      author := ← Value.nullable? (·.asText?) author
      creator := ← Value.nullable? (·.asText?) creator
      producer := ← Value.nullable? (·.asText?) producer
      created :=
        ← Value.nullable? (fun v => v.asText?.bind Time.Moment.read?) created
      formatVersion := ← version.asText?
      pageCount := ← uint32Of? pageCount
      encrypted := ← encrypted.asBool? }
  | _ => none

/-- The fields of a document. -/
def Document.spec : List (String × Need) :=
  [("metadata", .required), ("pages", .required)]

/-- The document that a value describes. -/
def Document.ofJson? (v : Value) : Option Document := do
  match ← recordFields? Document.spec v with
  | [some metadata, some pages] =>
    return ⟨← Metadata.ofJson? metadata, ← (← pages.asArray?).mapM Page.ofJson?⟩
  | _ => none

/-- The document as text. -/
def Document.write (d : Document) : String := d.toJson.compact

/-- The document that a text describes. -/
def Document.read? (s : String) : Option Document :=
  (Value.read? s).bind Document.ofJson?

end Prospectus
