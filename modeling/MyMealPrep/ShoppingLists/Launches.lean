import MyMealPrep.ShoppingLists.Contents

/-!
# A stored list after a launch

A fresh process starts with an empty list, and only the shopping list screen loads
the file. Every other screen that adds ingredients saves the list as it is in
memory, over the stored one. So the stored entries are still there once the screen
is loaded exactly when nothing was added before or nothing was stored
(`keepsStored_iff`).
-/

set_option autoImplicit false

namespace MyMealPrep.ShoppingLists

variable {Data : Type} {coding : Coding Data (List ShoppingList)}

/-- A call of another screen that adds ingredients. -/
inductive AddCall where
  | addRecipeIngredients (recipe : Recipe)
  | addMealPlanRecipesIngredients (mealPlan : MealPlan Recipe)

namespace AddCall

/-- The ingredients that a call adds. -/
def ingredients : AddCall → List String
  | addRecipeIngredients recipe => recipe.ingredients
  | addMealPlanRecipesIngredients mealPlan => mealPlan.recipes.flatMap Recipe.ingredients

/-- Make a call. -/
def perform (coding : Coding Data (List ShoppingList)) (state : State Data) :
    AddCall → State Data
  | addRecipeIngredients recipe => ShoppingLists.addRecipeIngredients coding recipe state
  | addMealPlanRecipesIngredients mealPlan =>
      ShoppingLists.addMealPlanRecipesIngredients coding mealPlan state

end AddCall

/-- A fresh process, with a list that an earlier run of the app has stored. -/
def launched (coding : Coding Data (List ShoppingList)) (stored : List ShoppingList) :
    State Data where
  file := some (coding.encode stored)
  listed := by simp

/-- The list once the calls have been made and the shopping list screen is loaded. -/
def loadedAfter (coding : Coding Data (List ShoppingList)) (stored : List ShoppingList)
    (calls : List AddCall) : List ShoppingList :=
  (viewDidLoad coding (calls.foldl (AddCall.perform coding) (launched coding stored))).contents

/-- The loaded list is the stored one after the entries added. -/
def KeepsStored (coding : Coding Data (List ShoppingList)) (stored : List ShoppingList)
    (calls : List AddCall) : Prop :=
  loadedAfter coding stored calls =
    addedEntries (calls.flatMap AddCall.ingredients) ++ stored

instance (stored : List ShoppingList) (calls : List AddCall) :
    Decidable (KeepsStored coding stored calls) :=
  inferInstanceAs (Decidable (_ = _))

theorem foldl_perform (calls : List AddCall) (state : State Data) :
    calls.foldl (AddCall.perform coding) state =
      (calls.flatMap AddCall.ingredients).foldl (fun state ingredient =>
        saveToPersistentStorage coding (insertItem ingredient state)) state := by
  rw [List.foldl_flatMap]
  refine congrArg (fun step => calls.foldl step state) ?_
  funext state call
  cases call with
  | addRecipeIngredients recipe => rfl
  | addMealPlanRecipesIngredients mealPlan => exact addMealPlanRecipesIngredients_eq mealPlan state

/-- What is loaded: the stored list when nothing was added, and only the entries added
otherwise. -/
theorem loadedAfter_eq (stored : List ShoppingList) (calls : List AddCall) :
    loadedAfter coding stored calls =
      if calls.flatMap AddCall.ingredients = [] then stored
      else addedEntries (calls.flatMap AddCall.ingredients) := by
  rw [loadedAfter, foldl_perform]
  rcases addIngredients_inSync coding (calls.flatMap AddCall.ingredients)
    (launched coding stored) with nothing | inSync
  · rw [if_pos nothing, nothing]
    exact contents_loadFromPersistence (coding.decode_encode stored)
  · rw [viewDidLoad, contents_loadFromPersistence inSync, contents_addIngredients]
    split
    · rename_i nothing
      rw [nothing] at inSync ⊢
      exact Option.some.inj (inSync.symm.trans (coding.decode_encode stored))
    · exact List.append_nil _

/-- **The stored list survives exactly when nothing is added before the screen is loaded**,
or nothing was stored. -/
theorem keepsStored_iff (coding : Coding Data (List ShoppingList)) (stored : List ShoppingList)
    (calls : List AddCall) :
    KeepsStored coding stored calls ↔
      calls.flatMap AddCall.ingredients = [] ∨ stored = [] := by
  rw [KeepsStored, loadedAfter_eq]
  split
  · rename_i nothing
    simp [nothing, addedEntries]
  · rename_i something
    rw [or_iff_right something, List.self_eq_append_right]

/-- A recipe with one ingredient. -/
def bread : Recipe where
  label := "Bread"
  image := none
  directions := "bread.html"
  ingredients := ["flour"]
  yield := 1
  totalTime := 90
  uid := none
  isChecked := false
  dateToEat := ⟨0⟩
  authorID := none

/-- **One recipe added after a launch loses the stored list.** -/
theorem stored_list_lost : ¬ ∀ stored calls, KeepsStored ShoppingList.coding stored calls := by
  intro keeps
  have kept := keeps [{ item := "milk", isChecked := true }] [.addRecipeIngredients bread]
  revert kept
  decide

end MyMealPrep.ShoppingLists
