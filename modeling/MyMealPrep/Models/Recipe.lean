import MyMealPrep.Codable.Json
import MyMealPrep.Firestore.Value
import MyMealPrep.Models.Texts
import MyMealPrep.Models.User

/-!
# Recipes

The model class of a recipe, its two decodings and its encoding. A recipe comes
from the answer of the recipe search (`Recipe.decode`, by `Codable`) or from a
document of Firestore (`Recipe.ofDocument`). It is written as the dictionary that
`UserController.saveRecipe` builds (`Recipe.dictionary`), which a meal plan builds
for each of its recipes too.

`ofDocument_dictionary` is the round trip: a written recipe is read back with the
ID and the author it was written under.
-/

set_option autoImplicit false

namespace MyMealPrep

open Firestore (Document Value)

/-- A recipe. -/
structure Recipe where
  label : String
  image : Option String
  directions : String
  ingredients : List String
  yield : Int
  totalTime : Int
  uid : Option String
  isChecked : Bool
  dateToEat : Date
  authorID : Option String
deriving DecidableEq, Repr

/-- `RecipeError` -/
inductive RecipeError where
  | thrown (description : String)
  | invalidURL
  | noData
  | badData
  | unableToDelete
  | fireError (description : String)
  | couldNotUnwrap
deriving DecidableEq, Repr

namespace Recipe

/-- A recipe as `==` compares it, by all of its fields. IDs are UUIDs, which have one spelling,
and stay as they are. -/
def compared (texts : TextEquality) (recipe : Recipe) : Recipe :=
  { recipe with
    label := texts.normalForm recipe.label
    image := recipe.image.map texts.normalForm
    directions := texts.normalForm recipe.directions
    ingredients := recipe.ingredients.map texts.normalForm }

theorem uid_eq_of_compared {texts : TextEquality} {recipe other : Recipe}
    (same : recipe.compared texts = other.compared texts) : recipe.uid = other.uid :=
  (congrArg Recipe.uid same :)

/-! ## Decoding a search answer -/

/-- `init(from:)`, synthesized from the coding keys. The check mark and the date have no
key and keep their defaults, an unchecked box and the present instant. -/
def decode (json : Json) (now : Date) : Option Recipe := do
  let label ← json.decode Json.decodeString "label"
  let directions ← json.decode Json.decodeString "url"
  let image ← json.decodeIfPresent Json.decodeString "image"
  let ingredients ← json.decode (Json.decodeArray Json.decodeString) "ingredientLines"
  let yield ← json.decode Json.decodeInt "yield"
  let totalTime ← json.decode Json.decodeInt "totalTime"
  let uid ← json.decodeIfPresent Json.decodeString "uid"
  let authorID ← json.decodeIfPresent Json.decodeString "authorID"
  return { label, image, directions, ingredients, yield, totalTime, uid, isChecked := false,
           dateToEat := now, authorID }

/-- The recipes of a `TopLevelObject`. The hit at an index is decoded at the instant that
the clock gives for it. -/
def decodeHits (json : Json) (clock : Nat → Date) : Option (List Recipe) := do
  let _ ← json.decode Json.decodeString "q"
  let hits ← json.decode (Json.decodeArray some) "hits"
  hits.zipIdx.mapM fun hit => do
    let recipe ← hit.1.get? "recipe"
    decode recipe (clock hit.2)

/-! ## Documents -/

/-- `Recipe.init?(document:)` -/
def ofDocument (document : Document) : Option Recipe := do
  let label ← (Document.field document Constants.recipeLabel).bind Value.asString
  let image ← (Document.field document Constants.recipeImage).bind Value.asString
  let directions ← (Document.field document Constants.recipeDirections).bind Value.asString
  let ingredients ← (Document.field document Constants.recipeIngredients).bind Value.asStrings
  let yield ← (Document.field document Constants.recipeYield).bind Value.asInt
  let totalTime ← (Document.field document Constants.recipeTotalTime).bind Value.asInt
  let uid ← (Document.field document Constants.recipeUID).bind Value.asString
  let isChecked ← (Document.field document Constants.recipeIsChecked).bind Value.asBool
  let dateToEat ← (Document.field document Constants.dateToEat).bind Value.asTimestamp
  let authorID ← (Document.field document Constants.authorID).bind Value.asString
  return { label, image := some image, directions, ingredients, yield, totalTime,
           uid := some uid, isChecked, dateToEat, authorID := some authorID }

/-- The dictionary a recipe is written as, under a new ID by the user signed in. -/
def dictionary (recipe : Recipe) (recipeUID : String) (recipeAuthorID : Option String) : Document :=
  [(Constants.recipeLabel, .string recipe.label),
    (Constants.recipeImage, .string (recipe.image.getD "")),
    (Constants.recipeDirections, .string recipe.directions),
    (Constants.recipeIngredients, .array (recipe.ingredients.map .string)),
    (Constants.recipeYield, .integer recipe.yield),
    (Constants.recipeTotalTime, .integer recipe.totalTime),
    (Constants.recipeUID, .string recipeUID),
    (Constants.recipeIsChecked, .boolean recipe.isChecked),
    (Constants.dateToEat, .date recipe.dateToEat),
    (Constants.authorID, .string (recipeAuthorID.getD ""))]

/-- The recipe that is read back. -/
def written (recipe : Recipe) (recipeUID : String) (recipeAuthorID : Option String) : Recipe :=
  { recipe with
    image := some (recipe.image.getD "")
    uid := some recipeUID
    authorID := some (recipeAuthorID.getD "") }

/-- **A written recipe is read back** with the ID and the author it was written
under, and an empty image where it had none. -/
theorem ofDocument_dictionary (recipe : Recipe) (recipeUID : String)
    (recipeAuthorID : Option String) :
    ofDocument (Value.storedFields (recipe.dictionary recipeUID recipeAuthorID)) =
      some (recipe.written recipeUID recipeAuthorID) := by
  have ingredients : ((Value.array (recipe.ingredients.map .string)).stored).asStrings =
      some recipe.ingredients := Value.asStrings_strings recipe.ingredients
  simp [ofDocument, dictionary, Value.storedFields_eq_map, Document.field, List.lookup_cons,
    Constants.recipeLabel, Constants.recipeImage, Constants.recipeDirections,
    Constants.recipeIngredients, Constants.recipeYield, Constants.recipeTotalTime,
    Constants.recipeUID, Constants.recipeIsChecked, Constants.dateToEat, Constants.authorID,
    Value.asString, Value.asInt, Value.asBool, Value.asTimestamp, ingredients, written]

/-- What a recipe has in common with the recipe that is read back: everything but the ID and the
author, where no image is an empty one. -/
def content (recipe : Recipe) : Recipe :=
  recipe.written "" none

/-- The content of a recipe as `==` compares it. -/
def comparedContent (texts : TextEquality) (recipe : Recipe) : Recipe :=
  recipe.content.compared texts

/-- The same from the recipe as `==` compares it. -/
def contentCompared (texts : TextEquality) (compared : Recipe) : Recipe :=
  { compared with
    image := some (compared.image.getD (texts.normalForm ""))
    uid := some ""
    authorID := some "" }

theorem comparedContent_eq (texts : TextEquality) (recipe : Recipe) :
    recipe.comparedContent texts = contentCompared texts (recipe.compared texts) := by
  cases image : recipe.image <;>
    simp [comparedContent, content, written, compared, contentCompared, image]

theorem comparedContent_congr {texts : TextEquality} {recipe other : Recipe}
    (same : recipe.compared texts = other.compared texts) :
    recipe.comparedContent texts = other.comparedContent texts := by
  rw [comparedContent_eq, comparedContent_eq, same]

end Recipe

end MyMealPrep
