import Prospectus.Pdf.Encoding.Table
import Prospectus.Pdf.Filter
import Prospectus.Pdf.File
import Prospectus.Pdf.ToUnicode.Reader
import Prospectus.Text.Utf16

/-!
# Encodings of fonts

How the bytes of a string become text, as the dictionary of its font says.  A
string in an encoding that is not known, or in none, is told by its own first
bytes.
-/

namespace Prospectus.Pdf

/-- How the strings of a font are encoded. -/
inductive Encoding where
  /-- One byte a character; bytes that stand for nothing are dropped. -/
  | table (t : Encoding.Table)
  /-- UTF-16. -/
  | utf16
  /-- By a map that the font brings. -/
  | mapped (m : ToUnicode)

/-- Units as text.  A byte without a partner after them becomes a replacement
character, together with the first half of a pair before it. -/
def textOfUnits (units : List UInt16) (oddByte : Bool) : String :=
  let chars := Text.decodeUnits units
  let extra := oddByte && !units.getLast?.any Text.isHighSurrogate
  String.ofList (if extra then chars ++ [Text.replacement] else chars)

/-- UTF-16 bytes as text.  A mark at the beginning may say that the less
significant byte comes first, or that the bytes are UTF-8. -/
def decodeUtf16Bytes : Bytes → String
  | 0xFE :: 0xFF :: rest =>
    textOfUnits (Text.unitsBigEndian rest) (rest.length % 2 = 1)
  | 0xFF :: 0xFE :: rest =>
    textOfUnits (Text.unitsLittleEndian rest) (rest.length % 2 = 1)
  | 0xEF :: 0xBB :: 0xBF :: rest => Text.decodeUtf8Lossy rest
  | bytes => textOfUnits (Text.unitsBigEndian bytes) (bytes.length % 2 = 1)

namespace Encoding

/-- The text of a string. -/
def decode : Encoding → Bytes → String
  | table t, bytes => String.ofList (bytes.filterMap fun b => t.char? b.toNat)
  | utf16, bytes => decodeUtf16Bytes bytes
  | mapped m, bytes => decodeUtf16Bytes (Text.bytesBigEndian (m.units bytes))

/-- What became of looking for the map of a font. -/
inductive MapLookup where
  | absent
  | unreadable
  | found (m : ToUnicode)

/-- The map that a font brings, if it refers to a stream. -/
def mapOf (file : File) (font : Dictionary) : MapLookup :=
  match (font.get? "ToUnicode").map file.resolve with
  | some (.ok (.stream entries data)) =>
    match (plainContent? entries data).bind ToUnicode.read? with
    | some m => .found m
    | none => .unreadable
  | _ => .absent

/-- The encoding of a font. -/
def ofFont? (file : File) (font : Dictionary) : Option Encoding :=
  if (font.get? "Type").bind (·.asName?) ≠ some (ascii "Font") then none
  else
    match (font.get? "Encoding").bind (·.asName?) with
    | some encoding =>
      if encoding = ascii "StandardEncoding" then some (.table standard)
      else if encoding = ascii "MacRomanEncoding" then some (.table macRoman)
      else if encoding = ascii "MacExpertEncoding" then some (.table macExpert)
      else if encoding = ascii "WinAnsiEncoding" then some (.table winAnsi)
      else if encoding = ascii "PDFDocEncoding" then some (.table pdfDoc)
      else if encoding = ascii "Identity-H" || encoding = ascii "Identity-V" then
        match mapOf file font with
        | .found m => some (.mapped m)
        | _ => none
      else if encoding = ascii "UniGB-UCS2-H" ||
        encoding = ascii "UniGB-UTF16-H" then some .utf16
      else none
    | none =>
      match mapOf file font with
      | .found m => some (.mapped m)
      | .unreadable => none
      | .absent => some (.table standard)

end Encoding

/-- The text of a string without a known encoding: UTF-16 after its mark, else
UTF-8 if that is what the bytes are, else one character a byte. -/
def textOfBytes : Bytes → String
  | 0xFE :: 0xFF :: rest =>
    String.ofList (Text.decodeUnits (Text.unitsBigEndian rest))
  | bytes =>
    match Text.decodeUtf8? bytes with
    | some s => s
    | none => String.ofList (bytes.map fun b => Char.ofNat b.toNat)

end Prospectus.Pdf
