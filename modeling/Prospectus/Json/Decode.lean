import Prospectus.Json.Value

/-!
# Records in JSON

A record is read from an object, in which unknown fields are passed over and no
known field may come twice, or from an array of its fields in order.  A field
that may be null may also be left out of an object, but not of an array; a field
with a default may be left out of both.
-/

namespace Prospectus.Json

/-- What it means for a field to be left out. -/
inductive Need where
  /-- The record cannot be read. -/
  | required
  /-- The field is null, if the record is an object. -/
  | nullable
  /-- The field has its default. -/
  | defaulted
deriving Repr, DecidableEq

/-- The only value of a name among fields, `none` inside if there is none, and
nothing if there are several. -/
def onlyField? (fields : List (StringBody × Value)) (name : String) :
    Option (Option Value) :=
  match fields.filter (·.1 = some name) with
  | [] => some none
  | [(_, v)] => some (some v)
  | _ => none

/-- The values of a record's fields, in order; a field that may be left out, and
is, has none. -/
def recordFields? (spec : List (String × Need)) :
    Value → Option (List (Option Value))
  | .object fields =>
    if fields.any (·.1.isNone) then none
    else spec.mapM fun (name, need) =>
      match onlyField? fields name with
      | some none => if need = .required then none else some none
      | found => found
  | .array items =>
    if spec.length < items.length then none
    else spec.zipIdx.mapM fun ((_, need), i) =>
      match items[i]? with
      | some v => some (some v)
      | none => if need = .defaulted then some none else none
  | _ => none

namespace Value

/-- The text that a value is. -/
def asText? : Value → Option String
  | .string s => s
  | _ => none

/-- The items of the array that a value is. -/
def asArray? : Value → Option (List Value)
  | .array items => some items
  | _ => none

/-- The truth value that a value is. -/
def asBool? : Value → Option Bool
  | .bool b => some b
  | _ => none

/-- The integer between zero and a bound, not included, that a value is. -/
def asNat? (bound : Nat) : Value → Option Nat
  | .number n =>
    match n.toInt? with
    | some (.ofNat k) => if k < bound then some k else none
    | _ => none
  | _ => none

/-- The float that a value is. -/
def asFloat32? : Value → Option Float32
  | .number n => n.toFloat32?
  | _ => none

/-- Reads a value that may be null or left out. -/
def nullable? {α : Type} (read : Value → Option α) :
    Option Value → Option (Option α)
  | none | some .null => some none
  | some v => (read v).map some

end Value

end Prospectus.Json
