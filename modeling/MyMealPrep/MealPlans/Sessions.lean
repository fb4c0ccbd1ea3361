import MyMealPrep.MealPlans.Cells

/-!
# What a selection session saves

In a session on the selection screen the table assigns rows to its cells, the user edits
the search text and taps check boxes, and the main queue runs the blocks of the taps. Then
the user saves the recipes. A block toggles the recipe that its cell shows when it runs.

So the plan gets the recipes tapped an odd number of times, each once, in the order of
their last taps, provided that every block runs before its cell gets another recipe and
before the recipes are saved. The searches do not matter then. A save leaves out the taps
whose blocks are still on the queue (`session_saves`).
-/

set_option autoImplicit false

namespace MyMealPrep.MealPlans

open Cells (Screen setRecipe runMainQueue)

variable {platform : Platform}

/-! ## Sessions -/

/-- What happens in a session, before the recipes are saved. -/
inductive Input where
  | cellForRowAt (cell row : Nat)
  | textDidChange (searchText : String)
  | checkBoxButtonTapped (cell : Nat)
  | runMainQueue
deriving DecidableEq, Repr

/-- `tableView(_:cellForRowAt:)` with the cell that the table reuses for the row. -/
def cellForRowAt (cell row : Nat) (screen : Screen) : Option Screen :=
  (screen.client.selection.bind fun selection => selection.recipeSearchArray[row]?).map
    fun recipe => setRecipe cell recipe screen

/-- The handler of an input. -/
def perform (platform : Platform) (input : Input) (screen : Screen) : Option Screen :=
  match input with
  | .cellForRowAt cell row => cellForRowAt cell row screen
  | .textDidChange searchText =>
      some { screen with client := (textDidChange platform searchText screen.client).client }
  | .checkBoxButtonTapped cell => some (Cells.checkBoxButtonTapped cell screen)
  | .runMainQueue => runMainQueue platform.texts screen

/-- The recipe that an input taps: that of the cell. -/
def tapped (screen : Screen) : Input → Option Ref
  | .checkBoxButtonTapped cell => (screen.cells cell).recipe
  | _ => none

/-- The recipes tapped in a session, in the order of the taps. -/
def taps (platform : Platform) : Screen → List Input → List Ref
  | _, [] => []
  | screen, input :: rest =>
      (tapped screen input).toList ++
        (perform platform input screen).elim [] fun next => taps platform next rest

/-- The recipes that the blocks on the main queue will toggle, as the cells are now. -/
def pending (screen : Screen) : List Ref :=
  screen.mainQueue.filterMap fun cell => (screen.cells cell).recipe

/-- The recipes of a plan once the recipes checked are saved. -/
def recipesSaved (mealPlan : Ref) (mealPlanUID : String) (recipeUIDs : Nat → String)
    (client : Client) : Option (List Ref) :=
  ((saveRecipesButtonTapped mealPlanUID recipeUIDs client).client.plans.read mealPlan).map
    fun plan => plan.mealPlan.recipes

/-- A session for a plan starts: no recipe is checked, and the recipes of the book differ in a
field other than the check mark. -/
structure Starts (texts : TextEquality) (client : Client) (mealPlan : Ref) : Prop where
  referenced : Referenced client
  distinct : DistinctRecipes texts client
  unchecked : ∀ ref ∈ client.savedRecipes, isChecked client ref = false
  opened : ∃ selection, client.selection = some selection ∧ selection.mealPlan = some mealPlan ∧
    selection.checkedRecipes = []

/-- A cell gets another recipe only while no block of it is on the main queue. -/
def InTime (screen : Screen) : Input → Prop
  | .cellForRowAt cell _ => cell ∉ screen.mainQueue
  | _ => True

instance (screen : Screen) (input : Input) : Decidable (InTime screen input) :=
  match input with
  | .cellForRowAt cell _ => inferInstanceAs (Decidable (cell ∉ screen.mainQueue))
  | .textDidChange _ | .checkBoxButtonTapped _ | .runMainQueue =>
      inferInstanceAs (Decidable True)

/-- The screen after a session with new cells, as long as a guard allows its inputs. -/
def session (platform : Platform) (allowed : Screen → Input → Prop)
    [∀ screen input, Decidable (allowed screen input)] (client : Client) (inputs : List Input) :
    Option Screen :=
  EventRuns.follow (perform platform) allowed { client } inputs

/-- A session saves the recipes tapped an odd number of times, each once, in the order of their
last taps, whatever happens in it. -/
def SavesTapped (platform : Platform) (mealPlan : Ref) (client : Client) : Prop :=
  ∀ inputs, ∀ screen ∈ session platform EventRuns.anyEvent client inputs,
    ∀ mealPlanUID recipeUIDs,
      ∃ recipes ∈ recipesSaved mealPlan mealPlanUID recipeUIDs screen.client,
        Toggles.AfterToggles (taps platform { client } inputs) recipes

/-! ## One input -/

variable {texts : TextEquality} {client : Client} {selection : Selection} {screen next : Screen}

theorem Starts.selectionKept {mealPlan : Ref} (starts : Starts texts client mealPlan) :
    SelectionKept texts client := by
  obtain ⟨selection, shown, -, empty⟩ := starts.opened
  refine ⟨starts.referenced, starts.distinct, fun other opened ref member => ?_,
    fun other opened => ?_⟩
  · obtain rfl := Option.some.inj (shown.symm.trans opened)
    rw [empty, starts.unchecked ref member]
    exact iff_of_false Bool.false_ne_true List.not_mem_nil
  · obtain rfl := Option.some.inj (shown.symm.trans opened)
    rw [empty]
    exact List.nodup_nil

/-- Check marks agree with the screen, and the cells show recipes of the book. -/
structure SessionKept (texts : TextEquality) (screen : Screen) : Prop where
  kept : SelectionKept texts screen.client
  cells : ∀ cell, ∀ ref ∈ (screen.cells cell).recipe, ref ∈ screen.client.savedRecipes

/-- What an input does in a session: once the blocks on the main queue have run, the recipes
checked are those that there would have been without the input, with the recipe tapped
toggled. -/
structure Performed (texts : TextEquality) (screen : Screen) (selection : Selection)
    (tapped : Option Ref) (next : Screen) : Prop where
  kept : SessionKept texts next
  plans : next.client.plans = screen.client.plans
  shown : ∃ after, next.client.selection = some after ∧ after.mealPlan = selection.mealPlan ∧
    Toggles.toggleAll after.checkedRecipes (pending next) =
      Toggles.toggleAll selection.checkedRecipes (pending screen ++ tapped.toList)

theorem pending_cons {cell : Nat} {rest : List Nat} (queue : screen.mainQueue = cell :: rest) :
    pending screen = (screen.cells cell).recipe.toList ++
      rest.filterMap fun other => (screen.cells other).recipe := by
  rw [pending, queue, List.filterMap_cons]
  cases (screen.cells cell).recipe <;> rfl

/-- A block of a session toggles the recipe of its cell. -/
theorem runBlock_performed {cell : Nat} {rest : List Nat} (sessionKept : SessionKept texts screen)
    (shown : screen.client.selection = some selection) (queue : screen.mainQueue = cell :: rest) :
    Performed texts screen selection none
      (Cells.runBlock texts cell { screen with mainQueue := rest }) := by
  have sameRecipes := Cells.recipe_runBlock texts cell { screen with mainQueue := rest }
  have pendingAfter : pending (Cells.runBlock texts cell { screen with mainQueue := rest }) =
      rest.filterMap fun other => (screen.cells other).recipe :=
    List.filterMap_congr fun other _ => sameRecipes other
  cases showing : (screen.cells cell).recipe with
  | none =>
      have client : (Cells.runBlock texts cell { screen with mainQueue := rest }).client =
          screen.client := by
        simp only [Cells.runBlock, showing, Cells.toggleRecipeChecked]
      refine ⟨⟨?_, fun other ref member => ?_⟩, by rw [client], selection, ?_, rfl, ?_⟩
      · rw [client]
        exact sessionKept.kept
      · rw [client]
        exact sessionKept.cells other ref (sameRecipes other ▸ member)
      · rw [client, shown]
      · rw [pendingAfter, pending_cons queue, showing, Option.toList_none, List.nil_append,
          List.append_nil]
  | some ref =>
      have saved := sessionKept.cells cell ref showing
      have mayShow : selection.MayShow screen.client ref := .inr saved
      have block : (Cells.runBlock texts cell { screen with mainQueue := rest }).client =
          (toggleRecipeChecked texts ref screen.client selection).client := by
        rw [← checkBoxBlock_eq texts shown mayShow, ← Cells.toggle_eq_checkBoxBlock]
        · simp only [Cells.runBlock, showing]
        · rintro other shownToo
          obtain rfl := Option.some.inj (shown.symm.trans shownToo)
          exact mayShow
      have toggled := toggleCase texts ref screen.client selection
      obtain ⟨plans, -, savedRecipes⟩ := toggled.lists
      have after := sessionKept.kept.toggled shown saved
      rw [← block] at after
      refine ⟨⟨?_, fun other found member => ?_⟩, by rw [block, plans], _, after, rfl, ?_⟩
      · rw [block]
        exact sessionKept.kept.toggle shown saved toggled
      · rw [block, savedRecipes]
        exact sessionKept.cells other found (sameRecipes other ▸ member)
      · rw [pendingAfter, pending_cons queue, showing, Option.toList_none, List.append_nil]
        rfl

/-- An input of a session, in time. -/
theorem perform_performed {input : Input} (sessionKept : SessionKept platform.texts screen)
    (shown : screen.client.selection = some selection) (inTime : InTime screen input)
    (performed : perform platform input screen = some next) :
    Performed platform.texts screen selection (tapped screen input) next := by
  cases input with
  | cellForRowAt cell row =>
      obtain ⟨ref, found, rfl⟩ := Option.map_eq_some_iff.mp performed
      rw [shown] at found
      have visible : ref ∈ selection.recipeSearchArray := List.mem_of_getElem? found
      refine ⟨⟨sessionKept.kept, fun other recipe member => ?_⟩, rfl, selection, shown, rfl, ?_⟩
      · rw [Cells.recipe_setRecipe] at member
        split at member
        · obtain rfl := Option.some.inj member
          exact (sessionKept.kept.referenced.selected selection shown).searched visible
        · exact sessionKept.cells other recipe member
      · have waiting : pending (setRecipe cell ref screen) = pending screen := by
          refine List.filterMap_congr fun other queued => ?_
          rw [Cells.recipe_setRecipe, if_neg (ne_of_mem_of_not_mem queued inTime)]
        rw [waiting]
        exact congrArg _ (List.append_nil _).symm
  | textDidChange searchText =>
      obtain rfl := Option.some.inj performed
      have handled : handle platform (.textDidChange searchText) screen.client =
        some (textDidChange platform searchText screen.client) := rfl
      have kept := sessionKept.kept.handle (actionCase_of_handle handled)
        (fun _ _ _ _ same => by cases same)
      simp only [textDidChange, onSelection, shown] at kept ⊢
      exact ⟨⟨kept, sessionKept.cells⟩, rfl, _, rfl, rfl,
        congrArg _ (List.append_nil _).symm⟩
  | checkBoxButtonTapped cell =>
      obtain rfl := Option.some.inj performed
      refine ⟨⟨sessionKept.kept, sessionKept.cells⟩, rfl, selection, shown, rfl, ?_⟩
      refine congrArg _ ((List.filterMap_append ..).trans (congrArg _ ?_))
      show [cell].filterMap (fun other => (screen.cells other).recipe) =
        (screen.cells cell).recipe.toList
      rw [List.filterMap_cons]
      cases (screen.cells cell).recipe <;> rfl
  | runMainQueue =>
      simp only [perform, runMainQueue] at performed
      split at performed
      · cases performed
      · rename_i cell rest queue
        obtain rfl := Option.some.inj performed
        exact runBlock_performed sessionKept shown queue

/-! ## A session -/

/-- A session toggles the recipes tapped, once the blocks on the main queue have run. -/
theorem session_toggles {inputs : List Input} (sessionKept : SessionKept platform.texts screen)
    (shown : screen.client.selection = some selection)
    (followed : EventRuns.follow (perform platform) InTime screen inputs = some next) :
    next.client.plans = screen.client.plans ∧
      ∃ after, next.client.selection = some after ∧ after.mealPlan = selection.mealPlan ∧
        Toggles.toggleAll after.checkedRecipes (pending next) =
          Toggles.toggleAll selection.checkedRecipes
            (pending screen ++ taps platform screen inputs) := by
  induction inputs generalizing screen selection with
  | nil =>
      obtain rfl := Option.some.inj followed
      exact ⟨rfl, selection, shown, rfl, congrArg _ (List.append_nil _).symm⟩
  | cons input rest ih =>
      rw [EventRuns.follow] at followed
      obtain ⟨inTime, handled⟩ := Option.ite_none_right_eq_some.mp followed
      obtain ⟨middle, stepped, restFollowed⟩ := Option.bind_eq_some_iff.mp handled
      have performed := perform_performed sessionKept shown inTime stepped
      obtain ⟨between, shownBetween, mealPlan, toggled⟩ := performed.shown
      obtain ⟨plans, after, shownAfter, mealPlanAfter, toggledAfter⟩ :=
        ih performed.kept shownBetween restFollowed
      refine ⟨plans.trans performed.plans, after, shownAfter, mealPlanAfter.trans mealPlan, ?_⟩
      rw [toggledAfter, Toggles.toggleAll_append, toggled, ← Toggles.toggleAll_append, taps,
        stepped, Option.elim_some, List.append_assoc]

/-- What a session in time saves, and what it would save once the blocks have run. -/
theorem recipesSaved_eq {mealPlan : Ref} (starts : Starts platform.texts client mealPlan)
    {inputs : List Input} (followed : session platform InTime client inputs = some screen)
    (mealPlanUID : String) (recipeUIDs : Nat → String) :
    ∃ recipes, recipesSaved mealPlan mealPlanUID recipeUIDs screen.client = some recipes ∧
      Toggles.toggleAll recipes (pending screen) =
        Toggles.toggleAll [] (taps platform { client } inputs) := by
  obtain ⟨selection, shown, opened, empty⟩ := starts.opened
  have sessionKept : SessionKept platform.texts { client } :=
    ⟨starts.selectionKept, fun _ _ member => by cases member⟩
  obtain ⟨plans, after, shownAfter, mealPlanAfter, toggled⟩ :=
    session_toggles sessionKept shown followed
  obtain ⟨plan, read⟩ := Option.isSome_iff_exists.mp
    ((starts.referenced.selected selection shown).mealPlan mealPlan opened)
  have readAfter : screen.client.plans.read mealPlan = some plan := by
    rw [plans]
    exact read
  rw [opened] at mealPlanAfter
  rw [empty] at toggled
  refine ⟨after.checkedRecipes, ?_, toggled⟩
  simp only [recipesSaved, saveRecipesButtonTapped, onSelection, shownAfter, mealPlanAfter,
    readAfter, Heap.read_modify, if_true, Option.map_some, Plan.saved, MealPlan.withRecipes]

/-- **A session saves the recipes tapped an odd number of times, each once, in the order of
their last taps, provided that each block runs before its cell gets another recipe and before the
recipes are saved. The searches have no influence then. With blocks for a recipe left, an odd
number of them, what is saved is wrong.** -/
theorem session_saves {mealPlan : Ref} (starts : Starts platform.texts client mealPlan)
    {inputs : List Input} (followed : session platform InTime client inputs = some screen)
    (mealPlanUID : String) (recipeUIDs : Nat → String) :
    ∃ recipes, recipesSaved mealPlan mealPlanUID recipeUIDs screen.client = some recipes ∧
      (screen.mainQueue = [] → Toggles.AfterToggles (taps platform { client } inputs) recipes) ∧
      (∀ ref, (pending screen).count ref % 2 = 1 →
        ¬ Toggles.AfterToggles (taps platform { client } inputs) recipes) ∧
      ∀ others other, session platform InTime client others = some other →
        screen.mainQueue = [] → other.mainQueue = [] →
        taps platform { client } others = taps platform { client } inputs →
        recipesSaved mealPlan mealPlanUID recipeUIDs other.client = some recipes := by
  have drained : ∀ {screen : Screen}, screen.mainQueue = [] → pending screen = [] := by
    intro screen queue
    rw [pending, queue, List.filterMap_nil]
  obtain ⟨recipes, saved, toggled⟩ := recipesSaved_eq starts followed mealPlanUID recipeUIDs
  refine ⟨recipes, saved, fun queue => ?_, fun ref odd after => ?_, ?_⟩
  · rw [drained queue] at toggled
    rw [show recipes = _ from toggled]
    exact Toggles.toggled_afterToggles _
  · have mem := (Toggles.toggled_afterToggles (taps platform { client } inputs)).odd ref
    rw [← toggled, Toggles.mem_toggleAll_iff after.once, if_pos odd, ← after.odd ref] at mem
    exact (not_iff_self mem)
  · intro others other otherFollowed queue otherQueue same
    obtain ⟨otherRecipes, otherSaved, otherToggled⟩ :=
      recipesSaved_eq starts otherFollowed mealPlanUID recipeUIDs
    rw [drained otherQueue, same, ← toggled, drained queue] at otherToggled
    rw [otherSaved, show otherRecipes = recipes from otherToggled]

/-! ## Two recipes -/

theorem twoRecipes_starts : Starts .codePoints Cells.twoRecipes 0 where
  referenced :=
    { saved := by decide
      listed := by decide
      planned := by
        rintro (_ | ref) plan read
        · obtain rfl := Option.some.inj read
          exact fun _ member => absurd member List.not_mem_nil
        · cases read
      selected := by
        rintro _ ⟨⟩
        exact ⟨by decide, by decide, by decide⟩ }
  distinct :=
    show ∀ first ∈ Cells.twoRecipes.savedRecipes, ∀ second ∈ Cells.twoRecipes.savedRecipes, _
      by decide
  unchecked := by decide
  opened := ⟨_, rfl, rfl, rfl⟩

/-- A platform that lowercases a text letter by letter. -/
def letterwise : Platform :=
  { greenwich with lowercased := fun text => String.ofList (text.toList.map Char.toLower) }

/-- Two taps on the stew, one on the porridge, and one in the only row of a search, each with its
block. -/
def fourTaps : List Input :=
  [.cellForRowAt 0 0, .cellForRowAt 1 1, .checkBoxButtonTapped 0, .runMainQueue,
    .checkBoxButtonTapped 0, .checkBoxButtonTapped 1, .runMainQueue, .runMainQueue,
    .textDidChange "st", .cellForRowAt 1 0, .checkBoxButtonTapped 1, .runMainQueue]

theorem taps_fourTaps : taps letterwise { client := Cells.twoRecipes } fourTaps = [0, 0, 1, 0] := by
  decide

/-- The porridge and the stew are saved. -/
theorem session_saves_fourTaps :
    ∃ screen recipes, session letterwise InTime Cells.twoRecipes fourTaps = some screen ∧
      recipesSaved 0 "D1" (fun _ => "R3") screen.client = some recipes ∧
      Toggles.AfterToggles [0, 0, 1, 0] recipes := by
  have followed : (session letterwise InTime Cells.twoRecipes fourTaps).any
      (fun screen => decide (screen.mainQueue = [])) = true := by
    decide
  obtain ⟨screen, found, drained⟩ := (Option.any_eq_true _ _).mp followed
  obtain ⟨recipes, saved, after, -⟩ :=
    session_saves twoRecipes_starts found "D1" (fun _ => "R3")
  rw [taps_fourTaps] at after
  exact ⟨screen, recipes, found, saved, after (of_decide_eq_true drained)⟩

/-- **A recipe tapped just before the plan is saved is not saved.** -/
theorem pending_tap_lost :
    Starts greenwich.texts Cells.twoRecipes 0 ∧ ¬ SavesTapped greenwich 0 Cells.twoRecipes := by
  refine ⟨twoRecipes_starts, fun saves => ?_⟩
  have followed : (session greenwich EventRuns.anyEvent Cells.twoRecipes
      [.cellForRowAt 0 0, .checkBoxButtonTapped 0]).any
      (fun screen => decide
        (recipesSaved 0 "D1" (fun _ => "R3") screen.client = some [])) = true := by
    decide
  obtain ⟨screen, found, last⟩ := (Option.any_eq_true _ _).mp followed
  obtain ⟨recipes, saved, after⟩ := saves _ screen found "D1" fun _ => "R3"
  obtain rfl := Option.some.inj (saved.symm.trans (of_decide_eq_true last))
  exact List.not_mem_nil ((after.odd 0).mpr (by decide))

end MyMealPrep.MealPlans
