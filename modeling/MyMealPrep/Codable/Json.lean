import Mathlib.Data.Rat.Defs

/-!
# JSON values and their decoding

What `JSONDecoder` makes of a parsed JSON text. A keyed decoding looks a key up in
an object. `decode` needs the key, `decodeIfPresent` accepts a missing key or a
`null`. A number is decoded as an `Int` when it is exactly one of 64 bits.

The result of a decoding that throws is `none`: no caller looks at the error.
-/

set_option autoImplicit false

namespace MyMealPrep

/-- A parsed JSON text. -/
inductive Json where
  | null
  | bool (value : Bool)
  | number (value : Rat)
  | string (value : String)
  | array (elements : List Json)
  | object (fields : List (String × Json))

namespace Json

/-! ## Single values -/

/-- `decode(String.self)` -/
def decodeString : Json → Option String
  | .string value => some value
  | _ => none

/-- `decode(Bool.self)` -/
def decodeBool : Json → Option Bool
  | .bool value => some value
  | _ => none

/-- `decode(Int.self)` -/
def decodeInt : Json → Option Int
  | .number value =>
      if value.den = 1 ∧ -9223372036854775808 ≤ value.num ∧ value.num ≤ 9223372036854775807 then
        some value.num
      else none
  | _ => none

/-- `decode([T].self)` for elements of type `T`. -/
def decodeArray {α : Type} (decodeElement : Json → Option α) : Json → Option (List α)
  | .array elements => elements.mapM decodeElement
  | _ => none

/-! ## Keyed values -/

/-- The value of a key, when the JSON is an object that has it. -/
def get? (json : Json) (key : String) : Option Json :=
  match json with
  | .object fields => fields.lookup key
  | _ => none

/-- `decode(T.self, forKey: key)` -/
def decode {α : Type} (decodeValue : Json → Option α) (json : Json) (key : String) : Option α :=
  (json.get? key).bind decodeValue

/-- `decodeIfPresent(T.self, forKey: key)` of an object. -/
def decodeIfPresent {α : Type} (decodeValue : Json → Option α) (json : Json) (key : String) :
    Option (Option α) :=
  match json.get? key with
  | none => some none
  | some .null => some none
  | some value => (decodeValue value).map some

end Json

/-! ## Coders -/

/-- An encoder to data and the decoder that undoes it. -/
structure Coding (Data α : Type) where
  encode : α → Data
  decode : Data → Option α
  decode_encode : ∀ value, decode (encode value) = some value

end MyMealPrep
