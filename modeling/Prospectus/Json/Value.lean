import Prospectus.Number.Numeral

/-!
# JSON values

Numbers are kept as they are written, and an object keeps its fields in order,
repeated names included.  An escape in a string can name half of a surrogate
pair; such a string is no text, and is kept as `none`.
-/

namespace Prospectus.Json

/-- The content of a JSON string; `none` if it holds half of a surrogate pair. -/
abbrev StringBody := Option String

/-- A JSON value. -/
inductive Value where
  | null
  | bool (b : Bool)
  | number (n : Number.Numeral)
  | string (s : StringBody)
  | array (items : List Value)
  | object (fields : List (StringBody × Value))
deriving Inhabited

namespace Value

/-- A text as a value. -/
def text (s : String) : Value := .string (some s)

/-- A text that may be absent. -/
def text? : Option String → Value
  | some s => text s
  | none => .null

/-- An integer as a value. -/
def int (i : Int) : Value := .number (.ofInt i)

/-- An object with the given fields. -/
def record (fields : List (String × Value)) : Value :=
  .object (fields.map fun (name, v) => (some name, v))

end Value

end Prospectus.Json
