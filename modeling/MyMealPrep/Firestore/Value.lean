import Mathlib.Data.String.Basic

/-!
# Values and documents of Firestore

A document is a dictionary from field names to values of any type. What the app
reads it reads by a conditional cast (`as? String`, `as? Int`, …), and the casts
here follow Swift: a number is read as an `Int` when it is exactly one, and the
numbers 0 and 1 and the booleans are read as each other.

A `Date` is written as it is and comes back as a timestamp (`Value.stored`).
-/

set_option autoImplicit false

namespace MyMealPrep

/-- An instant, in nanoseconds from the reference date. -/
structure Date where
  nanoseconds : Int
deriving DecidableEq, Repr

namespace Firestore

/-- A value of a field. -/
inductive Value where
  | null
  | boolean (value : Bool)
  | integer (value : Int)
  | double (value : Rat)
  | string (value : String)
  | date (value : Date)
  | timestamp (value : Date)
  | array (elements : List Value)
  | map (fields : List (String × Value))

/-- A dictionary `[String : Any]`. -/
abbrev Document := List (String × Value)

namespace Value

/-! ## Conditional casts -/

/-- `as? String` -/
def asString : Value → Option String
  | .string value => some value
  | _ => none

/-- `as? Int`, for the 64-bit `Int`. -/
def asInt : Value → Option Int
  | .integer value => some value
  | .boolean value => some value.toNat
  | .double value =>
      if value.den = 1 ∧ -9223372036854775808 ≤ value.num ∧ value.num ≤ 9223372036854775807 then
        some value.num
      else none
  | _ => none

/-- `as? Bool` -/
def asBool : Value → Option Bool
  | .boolean value => some value
  | .integer value => if value = 0 then some false else if value = 1 then some true else none
  | .double value => if value = 0 then some false else if value = 1 then some true else none
  | _ => none

/-- `as? Timestamp`, as the `Date` that `dateValue` makes of it. -/
def asTimestamp : Value → Option Date
  | .timestamp value => some value
  | _ => none

/-- `as? [String]` -/
def asStrings : Value → Option (List String)
  | .array elements => elements.mapM asString
  | _ => none

/-- `as? [String : Any]` -/
def asDocument : Value → Option Document
  | .map fields => some fields
  | _ => none

/-- `as? [[String : Any]]` -/
def asDocuments : Value → Option (List Document)
  | .array elements => elements.mapM asDocument
  | _ => none

/-! ## What a written value comes back as -/

mutual
/-- The value Firestore returns for a value written: a date is a timestamp. -/
def stored : Value → Value
  | .date value => .timestamp value
  | .array elements => .array (storedElements elements)
  | .map fields => .map (storedFields fields)
  | other => other

def storedElements : List Value → List Value
  | [] => []
  | element :: rest => element.stored :: storedElements rest

def storedFields : List (String × Value) → List (String × Value)
  | [] => []
  | field :: rest => (field.1, field.2.stored) :: storedFields rest
end

@[simp] theorem stored_boolean (value : Bool) : (boolean value).stored = boolean value := rfl

@[simp] theorem stored_integer (value : Int) : (integer value).stored = integer value := rfl

@[simp] theorem stored_string (value : String) : (string value).stored = string value := rfl

@[simp] theorem stored_date (value : Date) : (date value).stored = timestamp value := rfl

theorem storedElements_eq_map (elements : List Value) :
    storedElements elements = elements.map stored := by
  induction elements with
  | nil => rfl
  | cons element rest ih => rw [storedElements, ih, List.map_cons]

theorem storedFields_eq_map (fields : List (String × Value)) :
    storedFields fields = fields.map fun field => (field.1, field.2.stored) := by
  induction fields with
  | nil => rfl
  | cons field rest ih => rw [storedFields, ih, List.map_cons]

theorem asStrings_strings (texts : List String) :
    ((Value.array (texts.map .string)).stored).asStrings = some texts := by
  rw [stored, storedElements_eq_map, List.map_map, asStrings]
  induction texts with
  | nil => rfl
  | cons text rest ih =>
      rw [List.map_cons, List.mapM_cons, ih]
      rfl

theorem asDocuments_maps (documents : List Document) :
    ((Value.array (documents.map .map)).stored).asDocuments =
      some (documents.map storedFields) := by
  rw [stored, storedElements_eq_map, List.map_map, asDocuments]
  induction documents with
  | nil => rfl
  | cons document rest ih =>
      rw [List.map_cons, List.mapM_cons, ih]
      rfl

end Value

namespace Document

/-- `document[field]` -/
def field (document : Document) (name : String) : Option Value :=
  document.lookup name

/-- Set one field and keep the others. -/
def set (document : Document) (name : String) (value : Value) : Document :=
  (name, value) :: document.filter fun entry => entry.1 != name

@[simp] theorem field_set_self (document : Document) (name : String) (value : Value) :
    (document.set name value).field name = some value := by
  simp [field, set]

theorem lookup_filter_ne (document : Document) {name other : String} (different : other ≠ name) :
    List.lookup other (document.filter fun entry => entry.1 != name) =
      List.lookup other document := by
  induction document with
  | nil => rfl
  | cons entry rest ih =>
      by_cases same : entry.1 = name
      · have miss : (other == entry.1) = false := by simpa [same] using different
        rw [List.filter_cons_of_neg (by simp [same]), ih, List.lookup_cons, miss]
      · rw [List.filter_cons_of_pos (by simpa using same), List.lookup_cons, List.lookup_cons, ih]

theorem field_set_of_ne (document : Document) {name other : String} (value : Value)
    (different : other ≠ name) : (document.set name value).field other = document.field other := by
  have miss : (other == name) = false := by simpa using different
  rw [field, set, List.lookup_cons, miss]
  exact lookup_filter_ne document different

/-- The text of a field, when it is a text. -/
def text (document : Document) (name : String) : Option String :=
  (document.field name).bind Value.asString

@[simp] theorem text_set_self (document : Document) (name value : String) :
    (document.set name (.string value)).text name = some value := by
  simp [text, Value.asString]

theorem text_set_of_ne (document : Document) {name other : String} (value : Value)
    (different : other ≠ name) : (document.set name value).text other = document.text other := by
  rw [text, field_set_of_ne document value different, text]

end Document

end Firestore

end MyMealPrep
