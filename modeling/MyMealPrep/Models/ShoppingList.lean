import MyMealPrep.Codable.Json
import MyMealPrep.Models.Texts

/-!
# Entries of the shopping list

The model class of an entry. It is compared by its text alone, although it is
encoded with its check mark.
-/

set_option autoImplicit false

namespace MyMealPrep

/-- An entry of the shopping list. -/
structure ShoppingList where
  item : String
  isChecked : Bool := false
deriving DecidableEq, Repr

namespace ShoppingList

/-- The `==` of the source, which compares the texts twice. -/
def equal (texts : TextEquality) (lhs rhs : ShoppingList) : Bool :=
  texts.equal lhs.item rhs.item && texts.equal lhs.item rhs.item

/-! ## Coding -/

/-- `encode(to:)`, synthesized. -/
def encode (shoppingList : ShoppingList) : Json :=
  .object [("item", .string shoppingList.item), ("isChecked", .bool shoppingList.isChecked)]

/-- `init(from:)`, synthesized. -/
def decode (json : Json) : Option ShoppingList := do
  let item ← json.decode Json.decodeString "item"
  let isChecked ← json.decode Json.decodeBool "isChecked"
  return { item, isChecked }

@[simp] theorem decode_encode (shoppingList : ShoppingList) :
    decode shoppingList.encode = some shoppingList := by
  simp [decode, encode, Json.decode, Json.get?, List.lookup_cons, Json.decodeString,
    Json.decodeBool]

theorem mapM_decode_encode (listItems : List ShoppingList) :
    (listItems.map encode).mapM decode = some listItems := by
  induction listItems with
  | nil => rfl
  | cons shoppingList rest ih =>
      rw [List.map_cons, List.mapM_cons, decode_encode, ih]
      rfl

/-- Lists of entries as JSON values. -/
def coding : Coding Json (List ShoppingList) where
  encode listItems := .array (listItems.map encode)
  decode := Json.decodeArray decode
  decode_encode := mapM_decode_encode

end ShoppingList

end MyMealPrep
