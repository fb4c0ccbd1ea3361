import Mathlib.Logic.Function.Basic
import MyMealPrep.Machines.EventRuns
import MyMealPrep.MealPlans.Selections

/-!
# The check boxes of the cells

A cell of the selection screen keeps whether its check box is toggled. A tap puts a block
on the main queue, which has the screen toggle the recipe that the cell shows then, and
toggles the cell. The cell is reused for other recipes and keeps its own state.

So after a step the check boxes agree with the recipes shown exactly when a recipe is
assigned only to a cell in its state, and a block runs only where the screen toggles the
recipe and no other cell shows it (`step_agrees_iff`, `checkboxes_agree`).
-/

set_option autoImplicit false

namespace MyMealPrep.MealPlans.Cells

/-! ## The cells -/

/-- `RecipeSelectTableViewCell`, as far as its check box goes. -/
structure RecipeSelectTableViewCell where
  recipe : Option Ref := none
  isToggled : Bool := false
deriving DecidableEq, Repr

/-- The client, a pool of cells and the blocks on the main queue, each of a tap on a cell. -/
structure Screen where
  client : Client
  cells : Nat → RecipeSelectTableViewCell := fun _ => {}
  mainQueue : List Nat := []

/-- What the table, the user and the main queue do. -/
inductive Event where
  | setRecipe (cell : Nat) (recipe : Ref)
  | checkBoxButtonTapped (cell : Nat)
  | runMainQueue
deriving DecidableEq, Repr

/-- `cell.recipe = recipe` in `cellForRowAt`. -/
def setRecipe (cell : Nat) (recipe : Ref) (screen : Screen) : Screen :=
  { screen with
    cells := Function.update screen.cells cell
      { screen.cells cell with recipe := some recipe } }

/-- `checkBoxButtonTapped` of a cell. -/
def checkBoxButtonTapped (cell : Nat) (screen : Screen) : Screen :=
  { screen with mainQueue := screen.mainQueue ++ [cell] }

/-- `delegate?.toggleRecipeChecked` for the recipe of a cell. -/
def toggleRecipeChecked (texts : TextEquality) (recipe : Option Ref) (client : Client) : Client :=
  match recipe with
  | none => client
  | some ref => (onSelection client (MealPlans.toggleRecipeChecked texts ref client)).client

/-- The block of a tap. -/
def runBlock (texts : TextEquality) (cell : Nat) (screen : Screen) : Screen :=
  { screen with
    client := toggleRecipeChecked texts (screen.cells cell).recipe screen.client
    cells := Function.update screen.cells cell
      { screen.cells cell with isToggled := !(screen.cells cell).isToggled } }

/-- The main queue runs its first block. -/
def runMainQueue (texts : TextEquality) (screen : Screen) : Option Screen :=
  match screen.mainQueue with
  | [] => none
  | cell :: rest => some (runBlock texts cell { screen with mainQueue := rest })

/-- The handler of an event. -/
def handle (texts : TextEquality) (event : Event) (screen : Screen) : Option Screen :=
  match event with
  | .setRecipe cell recipe => some (setRecipe cell recipe screen)
  | .checkBoxButtonTapped cell => some (checkBoxButtonTapped cell screen)
  | .runMainQueue => runMainQueue texts screen

theorem recipe_setRecipe (cell : Nat) (ref : Ref) (screen : Screen) (other : Nat) :
    ((setRecipe cell ref screen).cells other).recipe =
      if other = cell then some ref else (screen.cells other).recipe := by
  simp only [setRecipe, Function.update_apply]
  split <;> rfl

theorem recipe_runBlock (texts : TextEquality) (cell : Nat) (screen : Screen) (other : Nat) :
    ((runBlock texts cell screen).cells other).recipe = (screen.cells other).recipe := by
  simp only [runBlock, Function.update_apply]
  split
  · rename_i same
    rw [same]
  · rfl

/-! ## The property -/

/-- The check box of a cell is that of the recipe it shows. -/
def CellAgrees (client : Client) (cell : RecipeSelectTableViewCell) : Prop :=
  ∀ ref ∈ cell.recipe, cell.isToggled = isChecked client ref

/-- The check box of every cell is that of the recipe the cell shows. -/
def CheckboxesAgree (screen : Screen) : Prop :=
  ∀ cell, CellAgrees screen.client (screen.cells cell)

/-- The check boxes agree in every state that a run reaches from a pool of new cells. -/
def AlwaysAgree (texts : TextEquality) (client : Client) : Prop :=
  ∀ screen, EventRuns.Run (handle texts) EventRuns.anyEvent { client } screen →
    CheckboxesAgree screen

/-- The screen toggles a recipe: the screen is there, and where the recipe has a check mark, an
equal one is checked on the screen. -/
def Toggles (texts : TextEquality) (client : Client) (ref : Ref) : Prop :=
  ∃ selection ∈ client.selection, ∃ recipe ∈ client.recipes.read ref,
    recipe.isChecked = true →
      ∃ other ∈ selection.checkedRecipes,
        client.recipeValue texts other = some (recipe.compared texts)

/-- The block of a tap may run: its cell has no recipe, or the screen toggles the recipe and no
other cell shows it. -/
def MayRun (texts : TextEquality) (screen : Screen) (cell : Nat) : Prop :=
  ∀ ref ∈ (screen.cells cell).recipe,
    Toggles texts screen.client ref ∧ ∀ other, ref ∈ (screen.cells other).recipe → other = cell

/-- A recipe is assigned only to a cell whose check box is that of the recipe, and a block runs
only where it may. -/
def InStep (texts : TextEquality) (screen : Screen) : Event → Prop
  | .setRecipe cell ref => (screen.cells cell).isToggled = isChecked screen.client ref
  | .checkBoxButtonTapped _ => True
  | .runMainQueue => ∀ cell ∈ screen.mainQueue.head?, MayRun texts screen cell

/-! ## Toggling a recipe -/

variable {texts : TextEquality} {client : Client} {selection : Selection} {ref : Ref}
  {screen next : Screen}

theorem isChecked_toggle (toggles : Toggles texts client ref) (other : Ref) :
    isChecked (toggleRecipeChecked texts (some ref) client) other =
      if ref = other then !isChecked client ref else isChecked client other := by
  obtain ⟨selection, shown, recipe, read, equal⟩ := toggles
  have marked : isChecked client ref = recipe.isChecked := by
    rw [isChecked, read]
    rfl
  simp only [toggleRecipeChecked, onSelection, show client.selection = some selection from shown,
    MealPlans.toggleRecipeChecked, show client.recipes.read ref = some recipe from read, marked]
  cases checked : recipe.isChecked with
  | false => exact isChecked_modify true rfl read other
  | true =>
      obtain ⟨found, member, same⟩ := equal checked
      have first : (selection.checkedRecipes.findIdx? fun other =>
          client.recipeValue texts other = some (recipe.compared texts)).isSome = true := by
        rw [List.findIdx?_isSome, List.any_eq_true]
        exact ⟨found, member, decide_eq_true same⟩
      obtain ⟨index, first⟩ := Option.isSome_iff_exists.mp first
      simp only [if_true, first]
      exact isChecked_modify false rfl read other

theorem toggle_ignored (ignored : ¬ Toggles texts client ref) :
    toggleRecipeChecked texts (some ref) client = client := by
  rw [toggleRecipeChecked, onSelection]
  split
  · rfl
  · rename_i selection shown
    rw [MealPlans.toggleRecipeChecked]
    split
    · rfl
    · rename_i recipe read
      split
      · rename_i checked
        split
        · rfl
        · rename_i index first
          obtain ⟨inRange, equal, -⟩ := List.findIdx?_eq_some_iff_getElem.mp first
          exact absurd ⟨selection, shown, recipe, read, fun _ =>
            ⟨_, List.getElem_mem inRange, of_decide_eq_true equal⟩⟩ ignored
      · rename_i unchecked
        exact absurd ⟨selection, shown, recipe, read, fun checked => absurd checked unchecked⟩
          ignored

/-- For a recipe of the screen, the delegate does what the block does that an action runs. -/
theorem toggle_eq_checkBoxBlock
    (mayShow : ∀ selection ∈ client.selection, selection.MayShow client ref) :
    toggleRecipeChecked texts (some ref) client = (checkBoxBlock texts ref client).client := by
  rw [toggleRecipeChecked, checkBoxBlock, onSelection, onSelection]
  cases shown : client.selection with
  | none => rfl
  | some selection => simp only [if_pos (mayShow selection shown)]

/-! ## One step -/

/-- When one cell changes, it has to agree, and the others with the client that there is then. -/
theorem agree_update_iff (client : Client) (cells : Nat → RecipeSelectTableViewCell) (cell : Nat)
    (changed : RecipeSelectTableViewCell) (mainQueue : List Nat) :
    CheckboxesAgree { client, cells := Function.update cells cell changed, mainQueue } ↔
      CellAgrees client changed ∧ ∀ other, other ≠ cell → CellAgrees client (cells other) :=
  Function.forall_update_iff cells fun _ => CellAgrees client

/-- A cell gets a recipe in step with its check box, or disagrees. -/
theorem setRecipe_agrees_iff (agree : CheckboxesAgree screen) (cell : Nat) (ref : Ref) :
    CheckboxesAgree (setRecipe cell ref screen) ↔
      (screen.cells cell).isToggled = isChecked screen.client ref := by
  rw [setRecipe, agree_update_iff]
  constructor
  · rintro ⟨here, -⟩
    exact here ref rfl
  · intro same
    refine ⟨?_, fun other _ => agree other⟩
    rintro _ ⟨⟩
    exact same

/-- A tap turns a check box and the check mark of the recipe, where the screen toggles it. -/
theorem turned_agrees_iff {cell : RecipeSelectTableViewCell} (agrees : CellAgrees client cell)
    (shown : cell.recipe = some ref) :
    CellAgrees (toggleRecipeChecked texts (some ref) client)
        { cell with isToggled := !cell.isToggled } ↔ Toggles texts client ref := by
  have before := agrees ref shown
  constructor
  · intro turned
    have after :
        (!cell.isToggled) = isChecked (toggleRecipeChecked texts (some ref) client) ref :=
      turned ref shown
    by_contra ignored
    rw [toggle_ignored ignored, ← before] at after
    exact Bool.not_ne_self _ after
  · intro toggles other found
    obtain rfl := Option.some.inj (shown.symm.trans found)
    rw [isChecked_toggle toggles, if_pos rfl, before]

/-- The other cells agree with a recipe toggled exactly when they do not show it. -/
theorem others_agree_iff {cell : RecipeSelectTableViewCell} (agrees : CellAgrees client cell)
    (toggles : Toggles texts client ref) :
    CellAgrees (toggleRecipeChecked texts (some ref) client) cell ↔ ref ∉ cell.recipe := by
  constructor
  · intro after shown
    have turned := after ref shown
    rw [isChecked_toggle toggles, if_pos rfl, agrees ref shown] at turned
    exact Bool.not_ne_self _ turned.symm
  · intro elsewhere other shown
    have different : ref ≠ other := by
      rintro rfl
      exact elsewhere shown
    rw [isChecked_toggle toggles, if_neg different]
    exact agrees other shown

theorem runBlock_agrees_iff (agree : CheckboxesAgree screen) (cell : Nat) :
    CheckboxesAgree (runBlock texts cell screen) ↔ MayRun texts screen cell := by
  rw [runBlock, agree_update_iff, MayRun]
  cases shown : (screen.cells cell).recipe with
  | none =>
      refine iff_of_true ⟨fun ref found => ?_, fun other _ => agree other⟩ ?_
      · rw [shown] at found
        cases found
      · exact fun _ found => by cases found
  | some ref =>
      refine (and_congr_left' (turned_agrees_iff (agree cell) shown)).trans ⟨?_, ?_⟩
      · rintro ⟨toggles, others⟩ _ ⟨⟩
        refine ⟨toggles, fun other found => ?_⟩
        by_contra elsewhere
        exact (others_agree_iff (agree other) toggles).mp (others other elsewhere) found
      · intro mayRun
        obtain ⟨toggles, only⟩ := mayRun ref rfl
        refine ⟨toggles, fun other elsewhere => ?_⟩
        exact (others_agree_iff (agree other) toggles).mpr fun found => elsewhere (only other found)

/-- **One step leaves the check boxes in agreement exactly when it is in step.** -/
theorem step_agrees_iff (agree : CheckboxesAgree screen) {event : Event}
    (handled : handle texts event screen = some next) :
    CheckboxesAgree next ↔ InStep texts screen event := by
  cases event with
  | setRecipe cell ref =>
      obtain rfl := Option.some.inj handled
      exact setRecipe_agrees_iff agree cell ref
  | checkBoxButtonTapped cell =>
      obtain rfl := Option.some.inj handled
      exact iff_of_true agree trivial
  | runMainQueue =>
      simp only [handle, runMainQueue] at handled
      rw [InStep]
      split at handled
      · cases handled
      · rename_i cell rest queue
        obtain rfl := Option.some.inj handled
        rw [queue, List.head?_cons]
        have agreeBefore : CheckboxesAgree { screen with mainQueue := rest } := agree
        refine (runBlock_agrees_iff agreeBefore cell).trans ⟨?_, fun mayRun => mayRun cell rfl⟩
        rintro mayRun _ ⟨⟩
        exact mayRun

/-! ## Runs -/

/-- Another recipe. -/
def porridge : Recipe :=
  { stew with label := "Porridge", uid := some "R2" }

/-- The selection screen with two recipes in the book. -/
def twoRecipes : Client where
  currentUser := some ann
  recipes := ⟨[stew, porridge]⟩
  savedRecipes := [0, 1]
  plans := ⟨[{ mealPlan := weekend.withRecipes [] }]⟩
  mealPlans := [0]
  selection := some { mealPlan := some 0, recipeSearchArray := [0, 1] }

/-- **The check boxes agree with the recipes shown as long as every step is in step, and the
first one that is not breaks the agreement.** -/
theorem checkboxes_agree (texts : TextEquality) (client : Client) :
    (∀ screen, EventRuns.Run (handle texts) (InStep texts) { client } screen →
      CheckboxesAgree screen) ∧
    ∀ screen event next, EventRuns.Run (handle texts) (InStep texts) { client } screen →
      handle texts event screen = some next → ¬ InStep texts screen event →
      ¬ CheckboxesAgree next := by
  have always : ∀ screen, EventRuns.Run (handle texts) (InStep texts) { client } screen →
      CheckboxesAgree screen := by
    intro screen run
    refine run.invariant (fun _ _ shown => by cases shown) ?_
    exact fun agree inStep handled => (step_agrees_iff agree handled).mpr inStep
  refine ⟨always, fun screen event next run handled outOfStep agrees => outOfStep ?_⟩
  exact (step_agrees_iff (always screen run) handled).mp agrees

/-- **A cell reused for another recipe shows the check mark of the first one.** -/
theorem reused_cell_disagrees : ¬ AlwaysAgree .codePoints twoRecipes := by
  intro agree
  have followed : (EventRuns.follow (handle .codePoints) EventRuns.anyEvent { client := twoRecipes }
      [.setRecipe 0 0, .checkBoxButtonTapped 0, .runMainQueue, .setRecipe 0 1]).any
      (fun screen => decide (screen.cells 0 = ⟨some 1, true⟩ ∧
        isChecked screen.client 1 = false)) = true := by
    decide
  obtain ⟨screen, found, last⟩ := (Option.any_eq_true _ _).mp followed
  obtain ⟨cell, unchecked⟩ := of_decide_eq_true last
  have agrees := agree screen (.of_follow .start found) 0 1
  rw [cell, unchecked] at agrees
  exact Bool.noConfusion (agrees rfl)

end MyMealPrep.MealPlans.Cells
