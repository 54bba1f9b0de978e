import Prospectus.Pdf.Filter.Ascii85
import Prospectus.Pdf.Filter.Flate
import Prospectus.Pdf.Filter.Prediction

/-!
# Filters of streams

A stream names the filters its data have gone through.  Data whose filters are
not all known, or that a filter does not accept, cannot be decoded, nor can
those of an image.
-/

namespace Prospectus.Pdf

/-- The names of a stream's filters. -/
def filterNames? (entries : Dictionary) : Option (List Bytes) :=
  match entries.get? "Filter" with
  | some (.name n) => some [n]
  | some (.array items) => items.mapM (·.asName?)
  | _ => none

/-- Undoes a prediction, if there is one. -/
def unpredict? (parameters : Option Dictionary) (data : Bytes) : Option Bytes :=
  match parameters.bind Prediction.ofParameters? with
  | some prediction => prediction.restore data
  | none => some data

/-- Undoes one filter. -/
def unfilter? (parameters : Option Dictionary) (name data : Bytes) : Option Bytes :=
  if name = ascii "FlateDecode" then unpredict? parameters (Flate.decode data)
  else if name = ascii "ASCII85Decode" then Ascii85.decode data
  else none

/-- The data of a stream with all filters undone; nothing is left of data with
an empty list of filters. -/
def decodedData? (entries : Dictionary) (data : Bytes) : Option Bytes := do
  let names ← filterNames? entries
  if (entries.get? "Subtype").bind (·.asName?) = some (ascii "Image") then failure
  let parameters := (entries.get? "DecodeParms").bind (·.asDictionary?)
  match names with
  | [] => some []
  | names => names.foldlM (fun data name => unfilter? parameters name data) data

/-- The data of a stream, decoded if that can be done, else as they stand. -/
def streamContent (entries : Dictionary) (data : Bytes) : Bytes :=
  (decodedData? entries data).getD data

/-- The data of a stream, as they stand if it has no filters, else decoded. -/
def plainContent? (entries : Dictionary) (data : Bytes) : Option Bytes :=
  match filterNames? entries with
  | none | some [] => some data
  | some _ => decodedData? entries data

end Prospectus.Pdf
