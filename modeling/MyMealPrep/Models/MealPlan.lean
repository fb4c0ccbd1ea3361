import MyMealPrep.Models.Recipe

/-!
# Meal plans

The model class of a meal plan, its encoding as the dictionary that
`UserController.saveMealPlan` builds and its decoding from a document. A plan
embeds its recipes: they are written as dictionaries of their own, each under a
new ID, and read back with `Recipe.ofDocument`.

The recipes of a plan are values where a plan is written or read, and references
where it is an object in memory, so the class has their type as a parameter.

`ofDocument_dictionary` is the round trip.
-/

set_option autoImplicit false

namespace MyMealPrep

open Firestore (Document Value)

/-- A meal plan. The source compares meal plans by all of their fields. -/
structure MealPlan (R : Type) where
  mealPlanName : String
  startDate : Date
  endDate : Date
  recipes : List R
  authorID : Option String
  mealPlanUID : Option String
deriving DecidableEq, Repr

/-- `MealPlanError` -/
inductive MealPlanError where
  | thrown (description : String)
  | invalidURL
  | noData
  | badData
  | unableToDelete
  | fireError (description : String)
deriving DecidableEq, Repr

namespace MealPlan

variable {R S : Type}

/-- The same plan with other recipes. -/
def withRecipes (mealPlan : MealPlan R) (recipes : List S) : MealPlan S where
  mealPlanName := mealPlan.mealPlanName
  startDate := mealPlan.startDate
  endDate := mealPlan.endDate
  recipes := recipes
  authorID := mealPlan.authorID
  mealPlanUID := mealPlan.mealPlanUID

/-! ## Documents -/

/-- `encodedRecipes`: each recipe gets a new ID and the user signed in as its author. -/
def encodedRecipes (mealPlan : MealPlan Recipe) (recipeAuthorID : Option String)
    (recipeUIDs : Nat → String) : List Document :=
  mealPlan.recipes.zipIdx.map fun recipe =>
    recipe.1.dictionary (recipeUIDs recipe.2) recipeAuthorID

/-- The dictionary a meal plan is written as, under a new ID by the user signed in. -/
def dictionary (mealPlan : MealPlan Recipe) (mealPlanUID : String)
    (mealPlanAuthorID : Option String) (recipeUIDs : Nat → String) : Document :=
  [(Constants.mealPlanName, .string mealPlan.mealPlanName),
    (Constants.startDate, .date mealPlan.startDate),
    (Constants.endDate, .date mealPlan.endDate),
    (Constants.mealPlanRecipes,
      .array ((mealPlan.encodedRecipes mealPlanAuthorID recipeUIDs).map .map)),
    (Constants.authorID, .string (mealPlanAuthorID.getD "")),
    (Constants.mealPlanUID, .string mealPlanUID)]

/-- The fields that `init?(document:)` requires, the recipes still encoded. -/
def requiredFields (document : Document) : Option (MealPlan Document) := do
  let mealPlanName ← (Document.field document Constants.mealPlanName).bind Value.asString
  let startDate ← (Document.field document Constants.startDate).bind Value.asTimestamp
  let endDate ← (Document.field document Constants.endDate).bind Value.asTimestamp
  let encodedRecipes ←
    (Document.field document Constants.mealPlanEncodedRecipes).bind Value.asDocuments
  let authorID ← (Document.field document Constants.authorID).bind Value.asString
  let mealPlanUID ← (Document.field document Constants.mealPlanUID).bind Value.asString
  return { mealPlanName, startDate, endDate, recipes := encodedRecipes,
           authorID := some authorID, mealPlanUID := some mealPlanUID }

/-- `MealPlan.init?(document:)`. It has no value where it traps, which is at an embedded
recipe that cannot be decoded, and the value `none` where it returns nil. -/
def ofDocument (document : Document) : Option (Option (MealPlan Recipe)) :=
  match requiredFields document with
  | none => some none
  | some encoded =>
      match encoded.recipes.mapM Recipe.ofDocument with
      | none => none
      | some recipes => some (some (encoded.withRecipes recipes))

/-- The meal plan that is read back. -/
def written (mealPlan : MealPlan Recipe) (mealPlanUID : String)
    (mealPlanAuthorID : Option String) (recipeUIDs : Nat → String) : MealPlan Recipe :=
  { mealPlan with
    recipes := mealPlan.recipes.zipIdx.map fun recipe =>
      recipe.1.written (recipeUIDs recipe.2) mealPlanAuthorID
    authorID := some (mealPlanAuthorID.getD "")
    mealPlanUID := some mealPlanUID }

theorem requiredFields_dictionary (mealPlan : MealPlan Recipe) (mealPlanUID : String)
    (mealPlanAuthorID : Option String) (recipeUIDs : Nat → String) :
    requiredFields (Value.storedFields
        (mealPlan.dictionary mealPlanUID mealPlanAuthorID recipeUIDs)) =
      some ((mealPlan.written mealPlanUID mealPlanAuthorID recipeUIDs).withRecipes
        ((mealPlan.encodedRecipes mealPlanAuthorID recipeUIDs).map Value.storedFields)) := by
  have recipes := Value.asDocuments_maps (mealPlan.encodedRecipes mealPlanAuthorID recipeUIDs)
  simp [requiredFields, dictionary, Value.storedFields_eq_map, Document.field, List.lookup_cons,
    Constants.mealPlanName, Constants.startDate, Constants.endDate, Constants.mealPlanRecipes,
    Constants.mealPlanEncodedRecipes, Constants.authorID, Constants.mealPlanUID, Value.asString,
    Value.asTimestamp, recipes, written, withRecipes]

theorem mapM_ofDocument_encoded (recipes : List (Recipe × Nat)) (recipeAuthorID : Option String)
    (recipeUIDs : Nat → String) :
    (recipes.map fun recipe => Value.storedFields
        (recipe.1.dictionary (recipeUIDs recipe.2) recipeAuthorID)).mapM Recipe.ofDocument =
      some (recipes.map fun recipe => recipe.1.written (recipeUIDs recipe.2) recipeAuthorID) := by
  induction recipes with
  | nil => rfl
  | cons recipe rest ih =>
      rw [List.map_cons, List.mapM_cons, Recipe.ofDocument_dictionary, ih]
      rfl

/-- **A written meal plan is read back** with the ID and the author it was written
under, and its recipes each as they were written. -/
theorem ofDocument_dictionary (mealPlan : MealPlan Recipe) (mealPlanUID : String)
    (mealPlanAuthorID : Option String) (recipeUIDs : Nat → String) :
    ofDocument (Value.storedFields
        (mealPlan.dictionary mealPlanUID mealPlanAuthorID recipeUIDs)) =
      some (some (mealPlan.written mealPlanUID mealPlanAuthorID recipeUIDs)) := by
  have recipes := mapM_ofDocument_encoded mealPlan.recipes.zipIdx mealPlanAuthorID recipeUIDs
  rw [ofDocument, requiredFields_dictionary]
  simp only [withRecipes, encodedRecipes, List.map_map, Function.comp_def, recipes]
  rfl

end MealPlan

end MyMealPrep
