import Prospectus.Pdf.Defect
import Prospectus.Pdf.Object.Reader

/-!
# Operations of a content stream

A page is drawn by operations: an operator after its operands.  Reading stops
without a complaint at the first operation that cannot be read, an inline image
apart, which must be complete.
-/

namespace Prospectus.Pdf

/-- An operand, as far as text is concerned. -/
inductive Operand where
  | integer (i : Int)
  | real (x : Float32)
  | name (bytes : Bytes)
  | string (bytes : Bytes)
  | array (items : List Operand)
  | other
deriving Inhabited

namespace Operand

/-- The number that an operand is. -/
def number? : Operand → Option Float32
  | integer i => some (Number.float32OfInt i)
  | real x => some x
  | _ => none

mutual

/-- The operand that an object is. -/
def ofObject : Object → Operand
  | .integer i => .integer i
  | .real x => .real x
  | .name bytes => .name bytes
  | .string bytes => .string bytes
  | .array items => .array (ofObjects items)
  | _ => .other

/-- The operands that objects are. -/
def ofObjects : List Object → List Operand
  | [] => []
  | object :: rest => ofObject object :: ofObjects rest

end

end Operand

/-- An operator with its operands. -/
structure Operation where
  operator : String
  operands : List Operand
deriving Inhabited

namespace Content

open Read

/-- Blanks between the parts of a content stream. -/
def isSpace (b : UInt8) : Bool := b = 32 || b = 9 || b = 13 || b = 10

/-- The rest after blanks. -/
def skipSpace (bs : Bytes) : Bytes := bs.dropWhile isSpace

/-- The rest after comments, one right after the other. -/
def skipComments : Nat → Bytes → Bytes
  | 0, bs => bs
  | fuel + 1, bs =>
    match comment bs with
    | some rest => skipComments fuel rest
    | none => bs

/-- An operand: any object but a reference and a stream. -/
def operand (bs : Bytes) : Option (Object × Bytes) :=
  simple bs
  <|> (array (fuelFor bs) bs).map (fun (items, rest) => (.array items, rest))
  <|> (dictionaryAt bs).map (fun (entries, rest) => (.dictionary entries, rest))

/-- Operands with the blanks after them. -/
def operands : Nat → Bytes → List Object × Bytes
  | 0, bs => ([], bs)
  | fuel + 1, bs =>
    match operand bs with
    | some (object, rest) =>
      let (more, rest) := operands fuel (skipSpace rest)
      (object :: more, rest)
    | none => ([], bs)

/-- Characters of operators. -/
def isOperatorChar (b : UInt8) : Bool :=
  (65 ≤ b && b ≤ 90) || (97 ≤ b && b ≤ 122) || b = 42 || b = 39 || b = 34

/-- An operation, other than an inline image. -/
def plainOperation (bs : Bytes) : Option (Operation × Bytes) :=
  let (objects, rest) := operands (bs.length + 1) bs
  let operator := rest.takeWhile isOperatorChar
  if operator.isEmpty then none
  else
    let name := String.ofList (operator.map fun b => Char.ofNat b.toNat)
    some (⟨name, objects.map Operand.ofObject⟩,
      skipSpace (rest.drop operator.length))

/-- The number of components of a colour space. -/
def components? (space : Bytes) : Option Nat :=
  if [ascii "DeviceGray", ascii "Gray"].contains space then some 1
  else if [ascii "DeviceRGB", ascii "RGB"].contains space then some 3
  else if [ascii "DeviceRGBA", ascii "RGBA", ascii "DeviceCMYK",
    ascii "CMYK"].contains space then some 4
  else none

/-- The number of bytes of an inline image. -/
def imageSize? (entries : Dictionary) : Option Nat := do
  let find (short long : String) : Option Object :=
    entries.get? short <|> entries.get? long
  let width ← (find "W" "Width").bind (·.asInteger?)
  let height ← (find "H" "Height").bind (·.asInteger?)
  let bits ← (find "BPC" "BitsPerComponent").bind (·.asInteger?)
  let space ← (find "CS" "ColorSpace").bind (·.asName?)
  let n ← components? space
  return height.toNat * ((width.toNat * n * bits.toNat + 7) / 8)

/-- An inline image, after the operator that starts it. -/
def inlineImage (bs : Bytes) : Option (Operation × Bytes) := do
  let (image, rest) := entries (fuelFor bs) [] (skipSpace bs)
  let data := skipSpace (← tag "ID" rest)
  let size ← imageSize? image
  if data.length < size then failure
  let rest ← tag "EI" (skipSpace (data.drop size))
  return (⟨"BI", [.other]⟩, skipSpace rest)

/-- Operations from the given bytes on. -/
def operationsFrom : Nat → Bytes → Except Defect (List Operation)
  | 0, _ => .ok []
  | fuel + 1, bs =>
    let bs := skipComments (bs.length + 1) bs
    match tag "BI" bs with
    | some rest =>
      match inlineImage rest with
      | some (image, rest) => (operationsFrom fuel rest).map (image :: ·)
      | none => .error .content
    | none =>
      match plainOperation bs with
      | some (operation, rest) => (operationsFrom fuel rest).map (operation :: ·)
      | none => .ok []

/-- The operations of a content stream. -/
def operations (bs : Bytes) : Except Defect (List Operation) :=
  operationsFrom (bs.length + 1) (skipSpace bs)

end Content

end Prospectus.Pdf
