import Prospectus.Number.Binary

/-!
# Objects of a PDF file

The values that a PDF file is made of.  Strings and names are bytes.  A
dictionary is a list of entries with distinct keys.
-/

namespace Prospectus.Pdf

/-- A sequence of bytes. -/
abbrev Bytes := List UInt8

/-- The number and the generation that name an object. -/
structure ObjectId where
  number : Nat
  generation : Nat
deriving Repr, DecidableEq, Inhabited

/-- The bytes of an ASCII text. -/
def ascii (s : String) : Bytes := s.toList.map fun c => c.toNat.toUInt8

/-- A PDF object. -/
inductive Object where
  | null
  | boolean (b : Bool)
  | integer (i : Int)
  | real (x : Float32)
  | name (bytes : Bytes)
  | string (bytes : Bytes)
  | array (items : List Object)
  | dictionary (entries : List (Bytes × Object))
  | stream (entries : List (Bytes × Object)) (data : Bytes)
  | reference (id : ObjectId)
deriving Inhabited

/-- Keys with their values. -/
abbrev Dictionary := List (Bytes × Object)

namespace Dictionary

/-- The value of a key. -/
def get? (d : Dictionary) (key : String) : Option Object := d.lookup (ascii key)

/-- Sets the value of a key; a key that is there keeps its place. -/
def set (d : Dictionary) (key : Bytes) (value : Object) : Dictionary :=
  if d.any (·.1 = key) then d.map fun (k, v) => (k, if k = key then value else v)
  else d ++ [(key, value)]

end Dictionary

namespace Object

/-- What an object is, in one word. -/
def typeName : Object → String
  | null => "Null"
  | boolean _ => "Boolean"
  | integer _ => "Integer"
  | real _ => "Real"
  | name _ => "Name"
  | string _ => "String"
  | array _ => "Array"
  | dictionary _ => "Dictionary"
  | stream .. => "Stream"
  | reference _ => "Reference"

/-- The name that the object is. -/
def asName? : Object → Option Bytes
  | name bytes => some bytes
  | _ => none

/-- The bytes of the string that the object is. -/
def asString? : Object → Option Bytes
  | string bytes => some bytes
  | _ => none

/-- The integer that the object is. -/
def asInteger? : Object → Option Int
  | integer i => some i
  | _ => none

/-- The items of the array that the object is. -/
def asArray? : Object → Option (List Object)
  | array items => some items
  | _ => none

/-- The dictionary that the object is. -/
def asDictionary? : Object → Option Dictionary
  | dictionary entries => some entries
  | _ => none

/-- The id that the object refers to. -/
def asReference? : Object → Option ObjectId
  | reference id => some id
  | _ => none

/-- The number that the object is. -/
def asFloat32? : Object → Option Float32
  | integer i => some (Number.float32OfInt i)
  | real x => some x
  | _ => none

end Object

end Prospectus.Pdf
