import MyMealPrep.Firestore.Collection
import MyMealPrep.Machines.Heap
import MyMealPrep.Machines.RequestReply
import MyMealPrep.Models.MealPlan

/-!
# Meal plans on the screens

The meal plans of a client with the functions of `UserController` and
`MealPlanController` that fetch, create, save and delete them. A plan is created
from two dates and opened on a selection screen, where recipes of the book are
checked; saving puts the checked recipes into the plan and writes it. A swipe
deletes a row of the list of plans. A tap on the check box of a cell only puts a block
on the main queue; what the program does is run the block.

Recipes and plans are objects. The recipes checked are the objects of the book,
the plan on the selection screen is the object in the list, and both are changed
in place.

The server answers a fetch from the meal plan container. `localProgram` adds what Firestore's
local store does on top of it, where it matters which of a client's own writes a fetch shows.

A plan object keeps, besides the plan, the IDs of the documents that were written
for it and whether it was fetched. The source has neither, and no function below
reads them: they say where a plan comes from.
-/

set_option autoImplicit false

namespace MyMealPrep.MealPlans

open Firestore (Collection Document Snapshot)

/-! ## The platform -/

/-- What the app asks of the platform: its calendar, its date formatter and its texts. -/
structure Platform where
  startOfDay : Date → Option Date
  day : Date → Date → Option Int
  mediumStyle : Date → String
  lowercased : String → String
  contains : String → String → Bool
  texts : TextEquality

/-! ## Requests, replies and continuations -/

/-- A request to the meal plan container. -/
inductive Request where
  | getMealPlans
  | setMealPlan (mealPlanUID : String) (data : Document)
  | deleteMealPlan (mealPlanUID : String)

/-- What comes back. -/
inductive Reply where
  | error
  | done
  | documents (snapshot : Snapshot)

/-- The callbacks of the requests. -/
inductive Continuation where
  | mealPlansLoaded
  | mealPlanSaved
  | mealPlanDeleted
deriving DecidableEq, Repr

/-- What a user does, and what the main queue runs. A fetch is started by the home screen. The new
UUIDs that the handler makes come with the action, and so do the instants at which it asks for
the time. The block of a tap comes with the recipe that the cell of the tap shows by then. -/
inductive Action where
  | fetchMealPlans
  | selectRecipeButtonTapped (startDate endDate : Date) (mealPlanUID : String)
      (clock : Nat → Date)
  | textDidChange (searchText : String)
  | toggleRecipeChecked (recipe : Ref)
  | saveRecipesButtonTapped (mealPlanUID : String) (recipeUIDs : Nat → String)
  | commitDelete (row : Nat)

/-- How a request fares. -/
inductive Fate where
  | answered
  | failed
deriving DecidableEq, Repr

/-- A meal plan in memory. -/
structure Plan where
  mealPlan : MealPlan Ref
  documentIDs : List String := []
  isFetched : Bool := false
deriving DecidableEq, Repr

/-- A plan once the checked recipes are in it and a document is written for it. -/
def Plan.saved (plan : Plan) (checkedRecipes : List Ref) (mealPlanUID : String) : Plan :=
  { plan with
    mealPlan := plan.mealPlan.withRecipes checkedRecipes
    documentIDs := plan.documentIDs ++ [mealPlanUID] }

/-- The screen on which the recipes of a plan are selected. -/
structure Selection where
  mealPlan : Option Ref
  checkedRecipes : List Ref := []
  recipeSearchArray : List Ref
deriving DecidableEq, Repr

/-- What one client keeps in memory. -/
structure Client where
  currentUser : Option User := none
  recipes : Heap Recipe := {}
  savedRecipes : List Ref := []
  plans : Heap Plan := {}
  mealPlans : List Ref := []
  selection : Option Selection := none
deriving DecidableEq, Repr

abbrev Effect := RequestReply.Effect Client Request Continuation Empty
abbrev Task := RequestReply.Task Request Reply Continuation
abbrev State := RequestReply.State Client Collection Request Reply Continuation
abbrev Label := RequestReply.Label Action Unit Fate
abbrev Output := RequestReply.Output Request Continuation Empty
abbrev Trace := RequestReply.Trace Request Continuation Action Unit Fate Empty

/-! ## The server -/

/-- The server handles one request. -/
def serve : Fate → Collection → Request → Collection × Reply
  | .failed, mealPlanContainer, _ => (mealPlanContainer, .error)
  | .answered, mealPlanContainer, .getMealPlans =>
      (mealPlanContainer, .documents mealPlanContainer.getDocuments)
  | .answered, mealPlanContainer, .setMealPlan mealPlanUID data =>
      (mealPlanContainer.setData mealPlanUID data, .done)
  | .answered, mealPlanContainer, .deleteMealPlan mealPlanUID =>
      (mealPlanContainer.delete mealPlanUID, .done)

/-! ## `UserController` on the meal plan container -/

namespace UserController

/-- The request of `saveMealPlan`. -/
def saveMealPlan (currentUser : Option User) (mealPlan : MealPlan Recipe) (mealPlanUID : String)
    (recipeUIDs : Nat → String) : Request :=
  .setMealPlan mealPlanUID
    (mealPlan.dictionary mealPlanUID (currentUser.map User.uuid) recipeUIDs)

/-- A meal plan with the ID of the document it was read from. -/
structure Fetched where
  documentID : String
  mealPlan : MealPlan Recipe
deriving DecidableEq, Repr

/-- The meal plans of a snapshot: no value where the decoding traps, and the value `none`
where a document is not a meal plan. The documents after the first such one are not read. -/
def decodeMealPlans : Snapshot → Option (Option (List Fetched))
  | [] => some (some [])
  | entry :: rest =>
      match MealPlan.ofDocument entry.2 with
      | none => none
      | some none => some none
      | some (some mealPlan) =>
          (decodeMealPlans rest).map (Option.map (⟨entry.1, mealPlan⟩ :: ·))

/-- The filter of `fetchMealPlans`. -/
def ownMealPlans (currentUser : Option User) (fetchedMealPlans : List Fetched) : List Fetched :=
  fetchedMealPlans.filter fun fetched =>
    fetched.mealPlan.authorID == currentUser.map User.uuid

/-- What `fetchMealPlans` passes to its completion, unless it traps. -/
def fetchMealPlans (currentUser : Option User) :
    Reply → Option (Except MealPlanError (List Fetched))
  | .documents snapshot =>
      match decodeMealPlans snapshot with
      | none => none
      | some none => some (.error .badData)
      | some (some fetchedMealPlans) => some (.ok (ownMealPlans currentUser fetchedMealPlans))
  | _ => some (.error (.fireError ""))

/-- The request of `deleteMealPlan`, which forces the ID of the plan. -/
def deleteMealPlan (mealPlan : MealPlan Ref) : Option Request :=
  mealPlan.mealPlanUID.map .deleteMealPlan

end UserController

/-! ## `MealPlanController` -/

namespace MealPlanController

/-- `daysBetween` -/
def daysBetween (platform : Platform) (startDate endDate : Date) : Int :=
  (platform.day startDate endDate).getD 0

/-- `addingTimeInterval`, for whole seconds. -/
def addingTimeInterval (date : Date) (seconds : Int) : Date :=
  ⟨date.nanoseconds + seconds * 1000000000⟩

/-- One round of the loop of `createMealPlan`. -/
def appendNextDay (dates : List Date) : List Date :=
  match dates.getLast? with
  | none => dates
  | some last => dates ++ [addingTimeInterval last (60 * 60 * 24)]

/-- The `dates` of `createMealPlan`. The range of the loop traps when it is negative. -/
def dates (platform : Platform) (startDate endDate : Date) (clock : Nat → Date) :
    Option (List Date) :=
  let numberOfDays := daysBetween platform ((platform.startOfDay startDate).getD (clock 0))
    ((platform.startOfDay endDate).getD (clock 1))
  if numberOfDays < 0 then none
  else some (appendNextDay^[numberOfDays.toNat + 1]
    [(platform.startOfDay startDate).getD (clock 2)])

/-- `createMealPlan`: the dates are computed and dropped. -/
def createMealPlan (platform : Platform) (startDate endDate : Date) (mealPlanUID : String)
    (clock : Nat → Date) (client : Client) : Option Client :=
  match dates platform startDate endDate clock with
  | none => none
  | some _ =>
      let mealPlan : MealPlan Ref :=
        { mealPlanName := platform.mediumStyle startDate ++ " - " ++ platform.mediumStyle endDate
          startDate := startDate
          endDate := endDate
          recipes := []
          authorID := some ((client.currentUser.map User.uuid).getD "")
          mealPlanUID := some mealPlanUID }
      let plans := client.plans.alloc { mealPlan }
      some { client with plans := plans.1, mealPlans := client.mealPlans ++ [plans.2] }

end MealPlanController

/-- The fields of a plan with its recipes as `==` compares them. -/
def comparedPlan (texts : TextEquality) (mealPlan : MealPlan (Option Recipe)) :
    MealPlan (Option Recipe) :=
  { mealPlan with
    mealPlanName := texts.normalForm mealPlan.mealPlanName
    recipes := mealPlan.recipes.map (Option.map (Recipe.compared texts)) }

namespace Client

/-- A recipe as `==` compares it. -/
def recipeValue (texts : TextEquality) (client : Client) (ref : Ref) : Option Recipe :=
  (client.recipes.read ref).map (Recipe.compared texts)

/-- A plan with its recipes. -/
def readPlan (client : Client) (ref : Ref) : Option (MealPlan (Option Recipe)) :=
  (client.plans.read ref).map fun plan =>
    plan.mealPlan.withRecipes (plan.mealPlan.recipes.map client.recipes.read)

/-- A plan with its recipes, as `==` compares it. -/
def planValue (texts : TextEquality) (client : Client) (ref : Ref) :
    Option (MealPlan (Option Recipe)) :=
  (client.readPlan ref).map (comparedPlan texts)

/-- The objects of one fetched plan. -/
def allocPlan (client : Client) (fetched : UserController.Fetched) : Client × Ref :=
  let recipes := client.recipes.allocAll fetched.mealPlan.recipes
  let plans := client.plans.alloc
    { mealPlan := fetched.mealPlan.withRecipes recipes.2
      documentIDs := [fetched.documentID]
      isFetched := true }
  ({ client with recipes := recipes.1, plans := plans.1 }, plans.2)

/-- The objects of the fetched plans. -/
def allocPlans (client : Client) : List UserController.Fetched → Client × List Ref
  | [] => (client, [])
  | fetched :: rest =>
      let first := client.allocPlan fetched
      let others := allocPlans first.1 rest
      (others.1, first.2 :: others.2)

end Client

/-! ## The screens -/

/-- `fetchMealPlans` empties the list before it asks for the documents. -/
def fetchMealPlans (client : Client) : Effect where
  client := { client with mealPlans := [] }
  requests := [(.getMealPlans, .mealPlansLoaded)]

/-- The callback of the fetch with the completion of `loadUserData`: the list becomes what the
completion gets. -/
def mealPlansLoaded (reply : Reply) (client : Client) : Option Effect :=
  match UserController.fetchMealPlans client.currentUser reply with
  | none => none
  | some (.error _) => some { client }
  | some (.ok fetchedMealPlans) =>
      let loaded := client.allocPlans fetchedMealPlans
      some { client := { loaded.1 with mealPlans := loaded.2 } }

/-- `selectRecipeButtonTapped` creates a plan and opens the selection screen on the last
plan of the list. -/
def selectRecipeButtonTapped (platform : Platform) (startDate endDate : Date)
    (mealPlanUID : String) (clock : Nat → Date) (client : Client) : Option Effect :=
  if startDate.nanoseconds < endDate.nanoseconds then
    match MealPlanController.createMealPlan platform startDate endDate mealPlanUID clock client with
    | none => none
    | some created =>
        some { client := { created with
          selection := some
            { mealPlan := created.mealPlans.getLast?
              recipeSearchArray := created.savedRecipes } } }
  else some { client }

/-- Act on the selection screen, when there is one. -/
def onSelection (client : Client) (body : Selection → Effect) : Effect :=
  match client.selection with
  | none => { client }
  | some selection => body selection

/-- `searchBar(_:textDidChange:)` -/
def textDidChange (platform : Platform) (searchText : String) (client : Client) : Effect :=
  onSelection client fun selection =>
    let recipeSearchArray :=
      if searchText.isEmpty then client.savedRecipes
      else client.savedRecipes.filter fun ref =>
        (client.recipes.read ref).any fun recipe =>
          platform.contains (platform.lowercased recipe.label) (platform.lowercased searchText)
    { client := { client with selection := some { selection with recipeSearchArray } } }

/-- `toggleRecipeChecked` for the recipe of a cell. -/
def toggleRecipeChecked (texts : TextEquality) (ref : Ref) (client : Client)
    (selection : Selection) : Effect :=
  match client.recipes.read ref with
  | none => { client }
  | some recipe =>
      if recipe.isChecked then
        match selection.checkedRecipes.findIdx? fun other =>
            client.recipeValue texts other = some (recipe.compared texts) with
        | none => { client }
        | some index =>
            { client := { client with
                recipes := client.recipes.modify ref fun recipe =>
                  { recipe with isChecked := false }
                selection := some { selection with
                  checkedRecipes := selection.checkedRecipes.eraseIdx index } } }
      else
        { client := { client with
            recipes := client.recipes.modify ref fun recipe => { recipe with isChecked := true }
            selection := some { selection with
              checkedRecipes := selection.checkedRecipes ++ [ref] } } }

/-- A cell of the selection screen may show the recipe: it is in a row, or it is of the book and
was in a row before the search text changed. -/
def Selection.MayShow (selection : Selection) (client : Client) (ref : Ref) : Prop :=
  ref ∈ selection.recipeSearchArray ∨ ref ∈ client.savedRecipes

instance (selection : Selection) (client : Client) (ref : Ref) :
    Decidable (selection.MayShow client ref) :=
  inferInstanceAs (Decidable (_ ∨ _))

/-- The block that `checkBoxButtonTapped` puts on the main queue, for a cell that shows the recipe
when it runs. -/
def checkBoxBlock (texts : TextEquality) (ref : Ref) (client : Client) : Effect :=
  onSelection client fun selection =>
    if selection.MayShow client ref then toggleRecipeChecked texts ref client selection
    else { client }

/-- `saveRecipesButtonTapped` puts the checked recipes into the plan and saves it. -/
def saveRecipesButtonTapped (mealPlanUID : String) (recipeUIDs : Nat → String)
    (client : Client) : Effect :=
  onSelection client fun selection =>
    match selection.mealPlan with
    | none => { client }
    | some ref =>
        match client.plans.read ref with
        | none => { client }
        | some plan =>
            let mealPlan := plan.mealPlan.withRecipes
              (selection.checkedRecipes.filterMap client.recipes.read)
            { client := { client with
                plans := client.plans.modify ref fun plan =>
                  plan.saved selection.checkedRecipes mealPlanUID }
              requests := [(UserController.saveMealPlan client.currentUser mealPlan mealPlanUID
                recipeUIDs, .mealPlanSaved)] }

/-- `MealPlanController.deleteMealPlan` removes the first equal plan of the list and then
deletes the document. -/
def deleteMealPlan (texts : TextEquality) (ref : Ref) (plan : Plan) (client : Client) :
    Option Effect :=
  match client.mealPlans.findIdx? fun other =>
      client.planValue texts other = client.planValue texts ref with
  | none => some { client }
  | some index =>
      match UserController.deleteMealPlan plan.mealPlan with
      | none => none
      | some request =>
          some
            { client := { client with mealPlans := client.mealPlans.eraseIdx index }
              requests := [(request, .mealPlanDeleted)] }

/-- `tableView(_:commit:forRowAt:)` with a delete. -/
def commitDelete (texts : TextEquality) (row : Nat) (client : Client) : Option Effect :=
  match client.mealPlans[row]? with
  | none => none
  | some ref =>
      match client.plans.read ref with
      | none => none
      | some plan => deleteMealPlan texts ref plan client

/-! ## The program -/

/-- The handler of an action. -/
def handle (platform : Platform) (action : Action) (client : Client) : Option Effect :=
  match action with
  | .fetchMealPlans => some (fetchMealPlans client)
  | .selectRecipeButtonTapped startDate endDate mealPlanUID clock =>
      selectRecipeButtonTapped platform startDate endDate mealPlanUID clock client
  | .textDidChange searchText => some (textDidChange platform searchText client)
  | .toggleRecipeChecked recipe => some (checkBoxBlock platform.texts recipe client)
  | .saveRecipesButtonTapped mealPlanUID recipeUIDs =>
      some (saveRecipesButtonTapped mealPlanUID recipeUIDs client)
  | .commitDelete row => commitDelete platform.texts row client

/-- The callback of a request. -/
def resume (continuation : Continuation) (reply : Reply) (client : Client) : Option Effect :=
  match continuation with
  | .mealPlansLoaded => mealPlansLoaded reply client
  | .mealPlanSaved => some { client }
  | .mealPlanDeleted => some { client }

/-- The meal plans of any number of clients over one meal plan container. -/
def program (platform : Platform) : RequestReply.Program Client Collection Request Reply
    Continuation Action Unit Fate Empty where
  handle := handle platform
  resume continuation reply _ client := resume continuation reply client
  serve := serve

end MyMealPrep.MealPlans
