import MyMealPrep.Collections.ListMoves
import MyMealPrep.Machines.EventRuns
import MyMealPrep.MealPlans.Sessions

/-!
# Returning to the selection screen

The selection screen makes its rows when it is loaded and when the search text
changes. When it appears again it only reloads the table. Meanwhile recipes may have
been added to the book, from the search that this screen opens, and deleted from it.

So the rows of the table are those of the book and the search text while no recipe that
matches the text is added or deleted, and in any case exactly when the book, as it was
when the rows were made, had the same matching recipes as it has now
(`appears_current_iff`).

The screen keeps the book as it was when the rows were made. The source does not, and
no function below reads it.
-/

set_option autoImplicit false

namespace MyMealPrep.MealPlans.Appearances

variable {platform : Platform}

/-! ## The screens -/

/-- The selection screen with its search bar and its table, `RecipeController.recipes`, the recipe
on the detail screen, and the book when the rows were made. -/
structure Screen where
  client : Client
  searchBarText : String := ""
  table : List Ref := []
  recipes : List Ref := []
  recipe : Option Ref := none
  refreshed : List Ref

/-- What the user does on this screen and the others, the blocks of taps on the check boxes, and
what a search finds. -/
inductive Event where
  | viewDidAppear
  | textDidChange (searchText : String)
  | toggleRecipeChecked (recipe : Ref)
  | searched (recipes : List Recipe)
  | didSelectRowAt (row : Nat)
  | addToRecipeBookButtonTapped
  | commitDelete (row : Nat)

namespace Screen

/-- `recipeSearchArray` of a selection screen that is open. -/
def recipeSearchArray (screen : Screen) : Option (List Ref) :=
  screen.client.selection.map Selection.recipeSearchArray

/-- `savedRecipesTableView.reloadData()` -/
def reloadData (screen : Screen) : Screen :=
  { screen with table := screen.recipeSearchArray.getD [] }

end Screen

/-- `viewDidLoad` with `setUpViews`. -/
def viewDidLoad (mealPlan : Option Ref) (client : Client) : Screen :=
  Screen.reloadData
    { client := { client with
        selection := some { mealPlan, recipeSearchArray := client.savedRecipes } }
      refreshed := client.savedRecipes }

/-- `viewDidAppear` -/
def viewDidAppear (screen : Screen) : Screen :=
  screen.reloadData

/-- `searchBar(_:textDidChange:)` -/
def textDidChange (platform : Platform) (searchText : String) (screen : Screen) : Screen :=
  Screen.reloadData
    { screen with
      client := (MealPlans.textDidChange platform searchText screen.client).client
      searchBarText := searchText
      refreshed := screen.client.savedRecipes }

/-- A search has found recipes, which are new objects. -/
def searched (recipes : List Recipe) (screen : Screen) : Screen :=
  let found := screen.client.recipes.allocAll recipes
  { screen with client := { screen.client with recipes := found.1 }, recipes := found.2 }

/-- `didSelectRowAt` in the table of the search opens the detail screen. -/
def didSelectRowAt (row : Nat) (screen : Screen) : Option Screen :=
  match screen.recipes[row]? with
  | none => none
  | some recipe => some { screen with recipe := some recipe }

/-- `addToRecipeBookButtonTapped` on the detail screen, as far as memory goes. -/
def addToRecipeBookButtonTapped (screen : Screen) : Screen :=
  match screen.recipe with
  | none => screen
  | some recipe =>
      { screen with client := { screen.client with
          savedRecipes := screen.client.savedRecipes ++ [recipe] } }

/-- `RecipeController.deleteRecipe` removes the first equal recipe of the book, and forces its
ID. -/
def deleteRecipe (texts : TextEquality) (ref : Ref) (recipe : Recipe) (screen : Screen) :
    Option Screen :=
  match screen.client.savedRecipes.findIdx? fun other =>
      screen.client.recipeValue texts other = screen.client.recipeValue texts ref with
  | none => some screen
  | some index =>
      recipe.uid.map fun _ =>
        { screen with client := { screen.client with
            savedRecipes := screen.client.savedRecipes.eraseIdx index } }

/-- `tableView(_:commit:forRowAt:)` with a delete, in the recipe book. -/
def commitDelete (texts : TextEquality) (row : Nat) (screen : Screen) : Option Screen :=
  match screen.client.savedRecipes[row]? with
  | none => none
  | some ref =>
      match screen.client.recipes.read ref with
      | none => none
      | some recipe => deleteRecipe texts ref recipe screen

/-- The handler of an event. -/
def handle (platform : Platform) (event : Event) (screen : Screen) : Option Screen :=
  match event with
  | .viewDidAppear => some (viewDidAppear screen)
  | .textDidChange searchText => some (textDidChange platform searchText screen)
  | .toggleRecipeChecked recipe =>
      some { screen with
        client := (checkBoxBlock platform.texts recipe screen.client).client }
  | .searched recipes => some (searched recipes screen)
  | .didSelectRowAt row => didSelectRowAt row screen
  | .addToRecipeBookButtonTapped => some (addToRecipeBookButtonTapped screen)
  | .commitDelete row => commitDelete platform.texts row screen

/-! ## The property -/

/-- A text is empty, or the label of a recipe contains it. -/
def isMatch (platform : Platform) (recipes : Heap Recipe) (searchText : String) (ref : Ref) :
    Bool :=
  searchText.isEmpty || (recipes.read ref).any fun recipe =>
    platform.contains (platform.lowercased recipe.label) (platform.lowercased searchText)

/-- The recipes that match a text, in order. -/
def matching (platform : Platform) (recipes : Heap Recipe) (savedRecipes : List Ref)
    (searchText : String) : List Ref :=
  savedRecipes.filter (isMatch platform recipes searchText)

/-- If the screen appears now, its table has the recipes of the book that match the text. -/
def AppearsCurrent (platform : Platform) (screen : Screen) : Prop :=
  (viewDidAppear screen).table =
    matching platform screen.client.recipes screen.client.savedRecipes screen.searchBarText

/-- The screen is up to date whenever it appears, whatever has happened since it was loaded. -/
def AlwaysAppearsCurrent (platform : Platform) (loaded : Screen) : Prop :=
  ∀ screen, EventRuns.Run (handle platform) EventRuns.anyEvent loaded screen →
    AppearsCurrent platform screen

/-- The recipe of the book that a swipe deletes: the first one that is equal to that of the row. -/
def deletedRecipe (texts : TextEquality) (client : Client) (row : Nat) : Option Ref :=
  client.savedRecipes[row]?.bind fun ref => client.savedRecipes.find? fun other =>
    client.recipeValue texts other = client.recipeValue texts ref

/-- A recipe that is added or deleted does not match the search text. -/
def LeavesMatches (platform : Platform) (screen : Screen) : Event → Prop
  | .addToRecipeBookButtonTapped => ∀ ref ∈ screen.recipe,
      isMatch platform screen.client.recipes screen.searchBarText ref = false
  | .commitDelete row => ∀ ref ∈ deletedRecipe platform.texts screen.client row,
      isMatch platform screen.client.recipes screen.searchBarText ref = false
  | _ => True

/-! ## The invariant -/

/-- The label of a recipe in memory. -/
def label (recipes : Heap Recipe) (ref : Ref) : Option String :=
  (recipes.read ref).map Recipe.label

/-- The recipes are in memory, and the rows are those that matched when they were made. -/
structure Kept (platform : Platform) (screen : Screen) : Prop where
  saved : ∀ ref ∈ screen.client.savedRecipes, (label screen.client.recipes ref).isSome = true
  found : ∀ ref ∈ screen.recipes, (label screen.client.recipes ref).isSome = true
  opened : ∀ ref ∈ screen.recipe, (label screen.client.recipes ref).isSome = true
  refreshed : ∀ ref ∈ screen.refreshed, (label screen.client.recipes ref).isSome = true
  rows : screen.recipeSearchArray = some
    (matching platform screen.client.recipes screen.refreshed screen.searchBarText)

theorem isMatch_eq (platform : Platform) (recipes : Heap Recipe) (searchText : String) (ref : Ref) :
    isMatch platform recipes searchText ref = (searchText.isEmpty ||
      (label recipes ref).any fun text =>
        platform.contains (platform.lowercased text) (platform.lowercased searchText)) := by
  rw [isMatch, label, Option.any_map]

theorem matching_congr {recipes others : Heap Recipe} {savedRecipes : List Ref}
    (same : ∀ ref ∈ savedRecipes, label others ref = label recipes ref) (searchText : String) :
    matching platform others savedRecipes searchText =
      matching platform recipes savedRecipes searchText := by
  refine List.filter_congr fun ref member => ?_
  rw [isMatch_eq, isMatch_eq, same ref member]

theorem matching_of_isEmpty {searchText : String} (empty : searchText.isEmpty = true)
    (recipes : Heap Recipe) (savedRecipes : List Ref) :
    matching platform recipes savedRecipes searchText = savedRecipes :=
  List.filter_eq_self.mpr fun ref _ => by rw [isMatch, empty, Bool.true_or]

variable {screen next : Screen}

/-- The rows and the book they were made of are kept while the labels are. -/
theorem Kept.congr (kept : Kept platform screen)
    (labels : ∀ ref, (label screen.client.recipes ref).isSome = true →
      label next.client.recipes ref = label screen.client.recipes ref)
    (saved : ∀ ref ∈ next.client.savedRecipes, (label screen.client.recipes ref).isSome = true)
    (found : ∀ ref ∈ next.recipes, (label next.client.recipes ref).isSome = true)
    (opened : ∀ ref ∈ next.recipe, (label screen.client.recipes ref).isSome = true)
    (refreshed : next.refreshed = screen.refreshed)
    (searchBarText : next.searchBarText = screen.searchBarText)
    (rows : next.recipeSearchArray = screen.recipeSearchArray) : Kept platform next := by
  have still : ∀ ref, (label screen.client.recipes ref).isSome = true →
      (label next.client.recipes ref).isSome = true := by
    intro ref known
    rw [labels ref known]
    exact known
  refine ⟨fun ref member => still ref (saved ref member), found,
    fun ref member => still ref (opened ref member), fun ref member => ?_, ?_⟩
  · rw [refreshed] at member
    exact still ref (kept.refreshed ref member)
  · rw [rows, kept.rows, refreshed, searchBarText]
    exact congrArg some (matching_congr
      (fun ref member => labels ref (kept.refreshed ref member)) _).symm

theorem label_modify (recipes : Heap Recipe) (mark : Bool) (ref other : Ref) :
    label (recipes.modify ref fun recipe => { recipe with isChecked := mark }) other =
      label recipes other := by
  rw [label, label, Heap.read_modify]
  split
  · rw [Option.map_map]
    rfl
  · rfl

theorem toggleCase_keeps {texts : TextEquality} {ref : Ref} {client : Client}
    {selection : Selection} {effect : Effect}
    (toggled : ToggleCase texts ref client selection effect)
    (shown : client.selection = some selection) :
    (∀ other, label effect.client.recipes other = label client.recipes other) ∧
      effect.client.selection.map Selection.recipeSearchArray =
        client.selection.map Selection.recipeSearchArray := by
  cases toggled with
  | idle => exact ⟨fun _ => rfl, rfl⟩
  | checked read unchecked => exact ⟨label_modify _ true ref, by rw [shown]; rfl⟩
  | unchecked read wasChecked first => exact ⟨label_modify _ false ref, by rw [shown]; rfl⟩

/-- A block of a tap changes no label, no row and nothing in the book. -/
theorem checkBoxBlock_keeps (texts : TextEquality) (ref : Ref) (client : Client) :
    (∀ other, label (checkBoxBlock texts ref client).client.recipes other =
        label client.recipes other) ∧
      (checkBoxBlock texts ref client).client.savedRecipes = client.savedRecipes ∧
      (checkBoxBlock texts ref client).client.selection.map Selection.recipeSearchArray =
        client.selection.map Selection.recipeSearchArray := by
  rw [checkBoxBlock, onSelection]
  split
  · exact ⟨fun _ => rfl, rfl, rfl⟩
  · rename_i selection shown
    split
    · have toggled := toggleCase texts ref client selection
      obtain ⟨labels, rows⟩ := toggleCase_keeps toggled shown
      exact ⟨labels, toggled.lists.2.2, rows⟩
    · exact ⟨fun _ => rfl, rfl, rfl⟩

/-- An edit of the search text makes the rows of the recipes that match. -/
theorem textDidChange_eq {client : Client} {selection : Selection}
    (shown : client.selection = some selection) (searchText : String) :
    (MealPlans.textDidChange platform searchText client).client =
      { client with selection := some { selection with
          recipeSearchArray :=
            matching platform client.recipes client.savedRecipes searchText } } := by
  simp only [MealPlans.textDidChange, onSelection, shown]
  cases empty : searchText.isEmpty with
  | true => rw [if_pos rfl, matching_of_isEmpty empty]
  | false =>
      have test : isMatch platform client.recipes searchText = fun ref =>
          (client.recipes.read ref).any fun recipe =>
            platform.contains (platform.lowercased recipe.label)
              (platform.lowercased searchText) := by
        funext ref
        rw [isMatch, empty, Bool.false_or]
      rw [if_neg Bool.false_ne_true, matching, test]

theorem Kept.textDidChange (kept : Kept platform screen) (searchText : String) :
    Kept platform (textDidChange platform searchText screen) := by
  obtain ⟨selection, shown, -⟩ := Option.map_eq_some_iff.mp kept.rows
  rw [Appearances.textDidChange, textDidChange_eq shown]
  exact ⟨kept.saved, kept.found, kept.opened, kept.saved, rfl⟩

theorem label_allocAll {heap : Heap Recipe} {ref : Ref} (known : (label heap ref).isSome = true)
    (recipes : List Recipe) : label (heap.allocAll recipes).1 ref = label heap ref := by
  rw [label, Option.isSome_map] at known
  obtain ⟨recipe, read⟩ := Option.isSome_iff_exists.mp known
  rw [label, label, read, Heap.extends_allocAll _ _ ref recipe read]

/-- Recipes found are new objects. -/
theorem Kept.searched (kept : Kept platform screen) (recipes : List Recipe) :
    Kept platform (searched recipes screen) := by
  refine kept.congr (fun ref known => label_allocAll known recipes) kept.saved ?_ kept.opened
    rfl rfl rfl
  intro ref member
  rw [label, Option.isSome_map]
  exact Heap.isSome_read_allocAll member

/-! ## Cases of the handler -/

/-- Everything an event can do. -/
inductive EventCase (platform : Platform) (screen : Screen) : Event → Screen → Prop where
  | idle {event : Event} : EventCase platform screen event screen
  | redrawn : EventCase platform screen .viewDidAppear screen.reloadData
  | edited (searchText : String) :
      EventCase platform screen (.textDidChange searchText)
        (textDidChange platform searchText screen)
  | toggled {ref : Ref} {client : Client}
      (labels : ∀ ref, label client.recipes ref = label screen.client.recipes ref)
      (savedRecipes : client.savedRecipes = screen.client.savedRecipes)
      (rows : client.selection.map Selection.recipeSearchArray = screen.recipeSearchArray) :
      EventCase platform screen (.toggleRecipeChecked ref) { screen with client }
  | found (recipes : List Recipe) :
      EventCase platform screen (.searched recipes) (searched recipes screen)
  | opened {row : Nat} {recipe : Ref} (listed : screen.recipes[row]? = some recipe) :
      EventCase platform screen (.didSelectRowAt row) { screen with recipe := some recipe }
  | added {recipe : Ref} (shown : screen.recipe = some recipe) :
      EventCase platform screen .addToRecipeBookButtonTapped
        { screen with client := { screen.client with
            savedRecipes := screen.client.savedRecipes ++ [recipe] } }
  | deleted {row index : Nat} {other : Ref}
      (first : screen.client.savedRecipes[index]? = some other)
      (deleted : deletedRecipe platform.texts screen.client row = some other) :
      EventCase platform screen (.commitDelete row)
        { screen with client := { screen.client with
            savedRecipes := screen.client.savedRecipes.eraseIdx index } }

theorem eventCase_of_handle {event : Event} (handled : handle platform event screen = some next) :
    EventCase platform screen event next := by
  cases event with
  | viewDidAppear =>
      obtain rfl := Option.some.inj handled
      exact .redrawn
  | textDidChange searchText =>
      obtain rfl := Option.some.inj handled
      exact .edited searchText
  | toggleRecipeChecked ref =>
      obtain rfl := Option.some.inj handled
      obtain ⟨labels, savedRecipes, rows⟩ :=
        checkBoxBlock_keeps platform.texts ref screen.client
      exact .toggled labels savedRecipes rows
  | searched recipes =>
      obtain rfl := Option.some.inj handled
      exact .found recipes
  | didSelectRowAt row =>
      simp only [handle, didSelectRowAt] at handled
      split at handled
      · cases handled
      · rename_i recipe listed
        obtain rfl := Option.some.inj handled
        exact .opened listed
  | addToRecipeBookButtonTapped =>
      obtain rfl := Option.some.inj handled
      rw [addToRecipeBookButtonTapped]
      split
      · exact .idle
      · rename_i recipe shown
        exact .added shown
  | commitDelete row =>
      simp only [handle, commitDelete, deleteRecipe] at handled
      split at handled
      · cases handled
      · rename_i ref listed
        split at handled
        · cases handled
        · split at handled
          · obtain rfl := Option.some.inj handled
            exact .idle
          · rename_i index first
            obtain ⟨_, _, rfl⟩ := Option.map_eq_some_iff.mp handled
            obtain ⟨inRange, equal, before⟩ := List.findIdx?_eq_some_iff_getElem.mp first
            refine .deleted (List.getElem?_eq_getElem inRange) ?_
            rw [deletedRecipe, listed, Option.bind_some]
            refine List.find?_eq_some_iff_getElem.mpr ⟨equal, index, inRange, rfl, ?_⟩
            exact fun other earlier => by simpa using before other earlier

/-! ## The invariant is kept -/

/-- **Every event keeps the rows as they were made.** -/
theorem Kept.handle {event : Event} (kept : Kept platform screen)
    (handled : EventCase platform screen event next) : Kept platform next := by
  cases handled with
  | idle => exact kept
  | redrawn => exact kept.congr (fun _ _ => rfl) kept.saved kept.found kept.opened rfl rfl rfl
  | edited searchText => exact kept.textDidChange searchText
  | toggled labels savedRecipes rows =>
      refine kept.congr (fun ref _ => labels ref) ?_ ?_ kept.opened rfl rfl rows
      · intro ref member
        rw [savedRecipes] at member
        exact kept.saved ref member
      · intro ref member
        rw [labels]
        exact kept.found ref member
  | found recipes => exact kept.searched recipes
  | @opened row recipe listed =>
      refine kept.congr (fun _ _ => rfl) kept.saved kept.found ?_ rfl rfl rfl
      rintro _ ⟨⟩
      exact kept.found recipe (List.mem_of_getElem? listed)
  | @added recipe shown =>
      refine kept.congr (fun _ _ => rfl) ?_ kept.found kept.opened rfl rfl rfl
      intro ref member
      rcases List.mem_append.mp member with old | new
      · exact kept.saved ref old
      · rw [List.mem_singleton.mp new]
        exact kept.opened recipe shown
  | deleted first deleted =>
      refine kept.congr (fun _ _ => rfl) ?_ kept.found kept.opened rfl rfl rfl
      exact fun ref member => kept.saved ref (List.mem_of_mem_eraseIdx member)

theorem kept_viewDidLoad {client : Client}
    (readable : ∀ ref ∈ client.savedRecipes, (client.recipes.read ref).isSome = true)
    (mealPlan : Option Ref) : Kept platform (viewDidLoad mealPlan client) := by
  have labelled : ∀ ref ∈ client.savedRecipes, (label client.recipes ref).isSome = true := by
    intro ref member
    rw [label, Option.isSome_map]
    exact readable ref member
  refine ⟨labelled, ?_, ?_, labelled, ?_⟩
  · exact fun _ member => absurd member List.not_mem_nil
  · exact fun _ opened => by cases opened
  · exact congrArg some (matching_of_isEmpty rfl _ _).symm

/-! ## Appearances -/

/-- The rows are those of the book now exactly when the book matches as it did when they were
made. -/
theorem Kept.appearsCurrent_iff (kept : Kept platform screen) :
    AppearsCurrent platform screen ↔
      matching platform screen.client.recipes screen.refreshed screen.searchBarText =
        matching platform screen.client.recipes screen.client.savedRecipes
          screen.searchBarText := by
  rw [AppearsCurrent, viewDidAppear, Screen.reloadData, kept.rows]
  rfl

theorem AppearsCurrent.congr (current : AppearsCurrent platform screen)
    (rows : next.recipeSearchArray = screen.recipeSearchArray)
    (same : matching platform next.client.recipes next.client.savedRecipes next.searchBarText =
      matching platform screen.client.recipes screen.client.savedRecipes screen.searchBarText) :
    AppearsCurrent platform next := by
  rw [AppearsCurrent, viewDidAppear, Screen.reloadData, rows, same]
  exact current

/-- **A step that adds and deletes no matching recipe keeps the screen up to date.** -/
theorem AppearsCurrent.handle {event : Event} (current : AppearsCurrent platform screen)
    (kept : Kept platform screen) (leaves : LeavesMatches platform screen event)
    (handled : EventCase platform screen event next) : AppearsCurrent platform next := by
  cases handled with
  | idle => exact current
  | redrawn => exact current.congr rfl rfl
  | edited searchText =>
      refine (kept.textDidChange searchText).appearsCurrent_iff.mpr ?_
      obtain ⟨selection, shown, -⟩ := Option.map_eq_some_iff.mp kept.rows
      rw [textDidChange, textDidChange_eq shown]
      rfl
  | toggled labels savedRecipes rows =>
      refine current.congr rows ?_
      rw [savedRecipes]
      exact matching_congr (fun ref _ => labels ref) _
  | found recipes =>
      refine current.congr rfl (matching_congr (fun ref member => ?_) _)
      exact label_allocAll (kept.saved ref member) recipes
  | opened listed => exact current.congr rfl rfl
  | @added recipe shown =>
      have unmatched := leaves recipe shown
      refine current.congr rfl ?_
      simp [matching, unmatched]
  | @deleted row index other first deleted =>
      exact current.congr rfl (ListMoves.filter_eraseIdx first (leaves other deleted))

/-- **The screen is up to date in every run that adds and deletes no matching recipe, and after
any run exactly when the book has the same matching recipes as it had when the rows were made.** -/
theorem appears_current_iff {client : Client} (mealPlan : Option Ref)
    (readable : ∀ ref ∈ client.savedRecipes, (client.recipes.read ref).isSome = true) :
    (∀ screen, EventRuns.Run (handle platform) (LeavesMatches platform)
        (viewDidLoad mealPlan client) screen → AppearsCurrent platform screen) ∧
    ∀ screen, EventRuns.Run (handle platform) EventRuns.anyEvent (viewDidLoad mealPlan client)
        screen →
      (AppearsCurrent platform screen ↔
        matching platform screen.client.recipes screen.refreshed screen.searchBarText =
          matching platform screen.client.recipes screen.client.savedRecipes
            screen.searchBarText) := by
  have loaded : Kept platform (viewDidLoad mealPlan client) := kept_viewDidLoad readable mealPlan
  constructor
  · intro screen run
    have both : Kept platform screen ∧ AppearsCurrent platform screen := by
      apply run.invariant
        (I := fun screen => Kept platform screen ∧ AppearsCurrent platform screen)
      · exact ⟨loaded, loaded.appearsCurrent_iff.mpr rfl⟩
      · rintro _ event _ ⟨kept, current⟩ leaves handled
        have stepped := eventCase_of_handle handled
        exact ⟨kept.handle stepped, current.handle kept leaves stepped⟩
    exact both.2
  · intro screen run
    have kept : Kept platform screen :=
      run.invariant loaded fun kept _ handled => kept.handle (eventCase_of_handle handled)
    exact kept.appearsCurrent_iff

/-! ## A recipe added from the search -/

instance (platform : Platform) (screen : Screen) (event : Event) :
    Decidable (LeavesMatches platform screen event) :=
  match event with
  | .addToRecipeBookButtonTapped => inferInstanceAs (Decidable (∀ ref ∈ screen.recipe,
      isMatch platform screen.client.recipes screen.searchBarText ref = false))
  | .commitDelete row =>
      inferInstanceAs (Decidable (∀ ref ∈ deletedRecipe platform.texts screen.client row,
        isMatch platform screen.client.recipes screen.searchBarText ref = false))
  | .viewDidAppear | .textDidChange _ | .toggleRecipeChecked _ | .searched _ |
    .didSelectRowAt _ => inferInstanceAs (Decidable True)

/-- The recipe found by a search is added. -/
def addition : List Event :=
  [.searched [stew], .didSelectRowAt 0, .addToRecipeBookButtonTapped]

/-- A stew added while the text is that of the porridge. -/
theorem appears_current_iff_stew :
    ∃ screen : Screen, AppearsCurrent letterwise screen ∧
      screen.client.savedRecipes = [0, 1, 2] := by
  have followed : (EventRuns.follow (handle letterwise) (LeavesMatches letterwise)
      (viewDidLoad (some 0) Cells.twoRecipes) (.textDidChange "porr" :: addition)).any
      (fun screen => decide (screen.client.savedRecipes = [0, 1, 2])) = true := by
    decide
  obtain ⟨screen, found, last⟩ := (Option.any_eq_true _ _).mp followed
  have current := (appears_current_iff (some 0) (by decide)).1 screen (.of_follow .start found)
  exact ⟨screen, current, of_decide_eq_true last⟩

/-- **A recipe added from the search is missing when the screen appears again.** -/
theorem added_recipe_missing :
    ¬ AlwaysAppearsCurrent letterwise (viewDidLoad (some 0) Cells.twoRecipes) := by
  intro always
  have followed : (EventRuns.follow (handle letterwise) EventRuns.anyEvent
      (viewDidLoad (some 0) Cells.twoRecipes) addition).any
      (fun screen => decide ((viewDidAppear screen).table = [0, 1] ∧
        screen.client.savedRecipes = [0, 1, 2] ∧ screen.searchBarText = "")) = true := by
    decide
  obtain ⟨screen, found, last⟩ := (Option.any_eq_true _ _).mp followed
  obtain ⟨table, savedRecipes, searchBarText⟩ := of_decide_eq_true last
  have current := always screen (.of_follow .start found)
  rw [AppearsCurrent, table, savedRecipes, searchBarText] at current
  have all : [0, 1] = [0, 1, 2] := current
  exact absurd all (by decide)

end MyMealPrep.MealPlans.Appearances
