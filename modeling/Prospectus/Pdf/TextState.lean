import Prospectus.Pdf.Operation
import Prospectus.Run
import Prospectus.Text.Utf8

/-!
# Text on a page

Operations change a text state, and some of them show text.  `TextState.apply`
is one operation, and `TextState.runs` the runs that a sequence of them shows.
-/

namespace Prospectus.Pdf

/-- The matrix that places text: the last two numbers are the place of the
current line. -/
structure TextMatrix where
  a : Float32
  b : Float32
  c : Float32
  d : Float32
  e : Float32
  f : Float32

namespace TextMatrix

/-- The matrix that changes nothing. -/
def identity : TextMatrix := ⟨1.0, 0.0, 0.0, 1.0, 0.0, 0.0⟩

/-- Moves the place of the line, in the units of the matrix. -/
def translate (m : TextMatrix) (tx ty : Float32) : TextMatrix :=
  { m with e := m.e + (tx * m.a + ty * m.c), f := m.f + (tx * m.b + ty * m.d) }

/-- Moves to the next line. -/
def nextLine (m : TextMatrix) (leading : Float32) : TextMatrix :=
  m.translate 0.0 (-leading)

/-- By how much the matrix stretches heights. -/
def scale (m : TextMatrix) : Float32 := (m.b * m.b + m.d * m.d).sqrt

end TextMatrix

/-- A font as a page knows it. -/
structure FontInfo where
  key : Bytes
  base : String
  weight : Option Float32

/-- What the operations so far have set. -/
structure TextState where
  fontKey : Bytes
  fontSize : Float32
  leading : Float32
  matrix : TextMatrix
  inText : Bool

/-- What shows text: the fonts of a page, and how a string in the font of a key
is decoded. -/
structure TextContext where
  fonts : List FontInfo
  decode : Bytes → Bytes → String

/-- The adjustment between two strings from which on they are apart by a space. -/
def spaceThreshold : Float32 := 200.0

/-- Characters of scripts that are written without spaces. -/
def isSpacelessScript (c : Char) : Bool :=
  let n := c.toNat
  (0x4E00 ≤ n && n ≤ 0x9FFF) || (0x3400 ≤ n && n ≤ 0x4DBF) ||
    (0x20000 ≤ n && n ≤ 0x2EBEF) ||
    (0x3040 ≤ n && n ≤ 0x30FF) || (0x3000 ≤ n && n ≤ 0x303F)

/-- Whether a gap after the given text is shown as a space. -/
def takesSpace (text : String) : Bool :=
  match text.toList.getLast? with
  | some c => c ≠ ' ' && c ≠ '\u00a0' && !isSpacelessScript c
  | none => false

/-- Whether an adjustment moves so far that it makes a gap. -/
def isGap (adjustment : Float32) : Bool := -adjustment > spaceThreshold

/-- Adds one item of an array of strings and adjustments to a text. -/
def joinItem (decode : Bytes → String) (text : String) : Operand → String
  | .string bytes => text ++ decode bytes
  | .integer i =>
    if isGap (Number.float32OfInt i) && takesSpace text then text ++ " " else text
  | .real x => if isGap x && takesSpace text then text ++ " " else text
  | _ => text

/-- The text of an array of strings and adjustments. -/
def joinItems (decode : Bytes → String) (items : List Operand) : String :=
  items.foldl (joinItem decode) ""

namespace TextState

/-- The state at the beginning of a page. -/
def initial : TextState := ⟨[], 12.0, 12.0, .identity, false⟩

/-- The name and weight of the current font. -/
def font (s : TextState) (context : TextContext) : String × Option Float32 :=
  match context.fonts.reverse.find? (·.key = s.fontKey) with
  | some info => (info.base, info.weight)
  | none => (Text.decodeUtf8Lossy s.fontKey, none)

/-- The run that shows a text, unless the text is empty or stands outside of a
text block. -/
def run? (s : TextState) (context : TextContext) (text : String) : Option Run :=
  if !s.inText || text.isEmpty then none
  else
    let (font, weight) := s.font context
    some { text, font, weight, size := s.fontSize * s.matrix.scale,
           x := s.matrix.e, y := s.matrix.f }

/-- The run that shows an operand, if it is a string. -/
def show? (s : TextState) (context : TextContext) : Option Operand → Option Run
  | some (.string bytes) => s.run? context (context.decode s.fontKey bytes)
  | _ => none

/-- One operation: the state after it, and the run that it shows. -/
def apply (context : TextContext) (s : TextState) (op : Operation) :
    TextState × Option Run :=
  let next (s : TextState) : TextState :=
    { s with matrix := s.matrix.nextLine s.leading }
  match op.operator, op.operands with
  | "BT", _ => ({ s with inText := true, matrix := .identity }, none)
  | "ET", _ => ({ s with inText := false }, none)
  | "Tf", font :: size :: _ =>
    let fontKey := match font with
      | .name key => key
      | _ => s.fontKey
    ({ s with fontKey, fontSize := size.number?.getD 12.0 }, none)
  | "TL", leading :: _ =>
    ({ s with leading := leading.number?.getD s.leading }, none)
  | "Td", tx :: ty :: _ =>
    ({ s with
        matrix := s.matrix.translate (tx.number?.getD 0.0) (ty.number?.getD 0.0) },
      none)
  | "TD", tx :: ty :: _ =>
    let ty := ty.number?.getD 0.0
    ({ s with
        leading := -ty
        matrix := s.matrix.translate (tx.number?.getD 0.0) ty }, none)
  | "Tm", a :: b :: c :: d :: e :: f :: _ =>
    let matrix : TextMatrix :=
      ⟨a.number?.getD 1.0, b.number?.getD 0.0, c.number?.getD 0.0,
        d.number?.getD 1.0, e.number?.getD 0.0, f.number?.getD 0.0⟩
    ({ s with matrix }, none)
  | "T*", _ => (next s, none)
  | "Tj", operands => (s, s.show? context operands[0]?)
  | "TJ", .array items :: _ =>
    (s, s.run? context (joinItems (context.decode s.fontKey) items))
  | "'", operands => (next s, (next s).show? context operands[0]?)
  | "\"", operands => (next s, (next s).show? context operands[2]?)
  | _, _ => (s, none)

/-- The runs that operations show, one after the other. -/
def runs (context : TextContext) (s : TextState) : List Operation → List Run
  | [] => []
  | op :: rest =>
    let (s, run) := s.apply context op
    run.toList ++ runs context s rest

end TextState

end Prospectus.Pdf
