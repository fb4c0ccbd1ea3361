import MyMealPrep.MealPlans.Sessions
import MyMealPrep.MealPlans.ShownPlans
import MyMealPrep.ShoppingLists.Relaunches
import MyMealPrep.ShoppingLists.SwipeDeletes

/-!
# From the check boxes to the shopping list

After a selection session the plan is saved and shown on the detail screen, whose button
puts the ingredients of the plan on the shopping list. Taps and searches change nothing of
a recipe but its check mark. So what gets on the list can be told from the taps alone, where
every block runs before its cell gets another recipe and before the plan is saved: the
ingredients, in reverse, of the recipes tapped an odd number of times in the order of their
last taps (`session_shopped`).
-/

set_option autoImplicit false

namespace MyMealPrep.MealPlans

open ShoppingLists (addedEntries insertItem saveToPersistentStorage)
open Cells (Screen)
open UserSwitches (seeShoppingListButtonTapped unmarked unmarked_toggle)

variable {platform : Platform} {client : Client}

/-- The ingredients of recipes in memory. -/
def ingredientsOf (client : Client) (recipes : List Ref) : List String :=
  (recipes.filterMap client.recipes.read).flatMap Recipe.ingredients

/-- The client after the plan is saved. -/
def plansSaved (mealPlanUID : String) (recipeUIDs : Nat → String) (client : Client) : Client :=
  (saveRecipesButtonTapped mealPlanUID recipeUIDs client).client

/-! ## Recipes in a session -/

theorem unmarked_runBlock (texts : TextEquality) (cell : Nat) (screen : Screen) (ref : Ref) :
    ((Cells.runBlock texts cell screen).client.recipes.read ref).map unmarked =
      (screen.client.recipes.read ref).map unmarked := by
  simp only [Cells.runBlock, Cells.toggleRecipeChecked, onSelection]
  split
  · rfl
  · split
    · rfl
    · exact unmarked_toggle (toggleCase _ _ _ _) ref

theorem unmarked_perform {input : Input} {screen next : Screen}
    (performed : perform platform input screen = some next) (ref : Ref) :
    (next.client.recipes.read ref).map unmarked =
      (screen.client.recipes.read ref).map unmarked := by
  cases input with
  | cellForRowAt cell row =>
      obtain ⟨recipe, -, rfl⟩ := Option.map_eq_some_iff.mp performed
      rfl
  | textDidChange searchText =>
      obtain rfl := Option.some.inj performed
      simp only [textDidChange, onSelection]
      split <;> rfl
  | checkBoxButtonTapped cell =>
      obtain rfl := Option.some.inj performed
      rfl
  | runMainQueue =>
      simp only [perform, Cells.runMainQueue] at performed
      split at performed
      · cases performed
      · rename_i cell rest queue
        obtain rfl := Option.some.inj performed
        exact unmarked_runBlock platform.texts cell { screen with mainQueue := rest } ref

theorem unmarked_session {inputs : List Input} {screen next : Screen}
    (followed : EventRuns.follow (perform platform) InTime screen inputs = some next) (ref : Ref) :
    (next.client.recipes.read ref).map unmarked =
      (screen.client.recipes.read ref).map unmarked := by
  induction inputs generalizing screen with
  | nil =>
      obtain rfl := Option.some.inj followed
      rfl
  | cons input rest ih =>
      rw [EventRuns.follow] at followed
      obtain ⟨-, handled⟩ := Option.ite_none_right_eq_some.mp followed
      obtain ⟨middle, stepped, restFollowed⟩ := Option.bind_eq_some_iff.mp handled
      rw [ih restFollowed, unmarked_perform stepped]

theorem saveRecipesButtonTapped_recipes (mealPlanUID : String) (recipeUIDs : Nat → String)
    (client : Client) :
    (saveRecipesButtonTapped mealPlanUID recipeUIDs client).client.recipes = client.recipes := by
  rcases UserSwitches.saveRecipesButtonTapped_cases mealPlanUID recipeUIDs client with
    idle | ⟨selection, ref, -, -, plan, -, saved⟩
  · rw [idle]
  · rw [saved]

theorem ingredientsOf_congr {next : Client} {recipes : List Ref} (same : ∀ ref,
    (next.recipes.read ref).map unmarked = (client.recipes.read ref).map unmarked) :
    ingredientsOf next recipes = ingredientsOf client recipes := by
  have unmarkedToo : ∀ memory : Client, ingredientsOf memory recipes =
      (recipes.filterMap fun ref => (memory.recipes.read ref).map unmarked).flatMap
        Recipe.ingredients := by
    intro memory
    rw [← List.map_filterMap, List.flatMap_map]
    rfl
  rw [unmarkedToo, unmarkedToo, funext same]

/-! ## The shopping list -/

/-- **What the user taps is what gets on the shopping list**: after a session in which each block
runs before its cell gets another recipe and before the plan is saved, the button of the detail
screen puts the ingredients of the recipes tapped an odd number of times in front of the list, in
reverse and in the order of the last taps, and the file then has the whole list. -/
theorem session_shopped {mealPlan : Ref} (starts : Starts platform.texts client mealPlan)
    {inputs : List Input} {screen : Screen}
    (followed : session platform InTime client inputs = some screen)
    (drained : screen.mainQueue = []) (mealPlanUID : String) (recipeUIDs : Nat → String)
    {Data : Type} (coding : Coding Data (List ShoppingList)) (state : ShoppingLists.State Data) :
    ∃ recipes shopped, Toggles.AfterToggles (taps platform { client } inputs) recipes ∧
      seeShoppingListButtonTapped coding (some mealPlan)
        (plansSaved mealPlanUID recipeUIDs screen.client) state = shopped ∧
      shopped.contents = addedEntries (ingredientsOf client recipes) ++ state.contents ∧
      (shopped = state ∨ shopped.InSync coding) := by
  obtain ⟨saved, savedRecipes, toggled⟩ := recipesSaved_eq starts followed mealPlanUID recipeUIDs
  rw [pending, drained, List.filterMap_nil] at toggled
  obtain ⟨plan, found, recipes⟩ := Option.map_eq_some_iff.mp savedRecipes
  have read : (plansSaved mealPlanUID recipeUIDs screen.client).plans.read mealPlan =
      some plan := found
  have shopped : seeShoppingListButtonTapped coding (some mealPlan)
      (plansSaved mealPlanUID recipeUIDs screen.client) state =
        (ingredientsOf (plansSaved mealPlanUID recipeUIDs screen.client)
          plan.mealPlan.recipes).foldl (fun state ingredient =>
            saveToPersistentStorage coding (insertItem ingredient state)) state := by
    simp only [seeShoppingListButtonTapped, Option.bind_some, read]
    exact ShoppingLists.addMealPlanRecipesIngredients_eq _ state
  have ingredients : ingredientsOf (plansSaved mealPlanUID recipeUIDs screen.client)
      plan.mealPlan.recipes = ingredientsOf client (Toggles.toggleAll []
        (taps platform { client } inputs)) := by
    rw [recipes, show saved = _ from toggled]
    refine ingredientsOf_congr fun ref => ?_
    rw [plansSaved, saveRecipesButtonTapped_recipes]
    exact unmarked_session followed ref
  refine ⟨_, _, Toggles.toggled_afterToggles _, shopped, ?_, ?_⟩
  · rw [ingredients, ShoppingLists.contents_addIngredients]
  · exact (ShoppingLists.addIngredients_inSync coding _ state).imp_left fun nothing => by
      rw [nothing, List.foldl_nil]

/-- The porridge and the stew are shopped for. -/
theorem session_shopped_fourTaps :
    ∃ (screen : Screen) (recipes : List Ref)
      (shopped : ShoppingLists.State (List ShoppingList)),
      session letterwise InTime Cells.twoRecipes fourTaps = some screen ∧
      Toggles.AfterToggles [0, 0, 1, 0] recipes ∧
      seeShoppingListButtonTapped ShoppingLists.plainCoding (some 0)
        (plansSaved "D1" (fun _ => "R3") screen.client) (.unloaded none) = shopped ∧
      shopped.contents = addedEntries (ingredientsOf Cells.twoRecipes recipes) := by
  have followed : (session letterwise InTime Cells.twoRecipes fourTaps).any
      (fun screen => decide (screen.mainQueue = [])) = true := by
    decide
  obtain ⟨screen, found, drained⟩ := (Option.any_eq_true _ _).mp followed
  obtain ⟨recipes, shopped, after, same, contents, -⟩ :=
    session_shopped twoRecipes_starts found (of_decide_eq_true drained) "D1" (fun _ => "R3")
      ShoppingLists.plainCoding (.unloaded none)
  rw [taps_fourTaps] at after
  exact ⟨screen, recipes, shopped, found, after, same, contents.trans (List.append_nil _)⟩

end MyMealPrep.MealPlans
