import MyMealPrep.Firestore.Collection
import MyMealPrep.Machines.RequestReply
import MyMealPrep.Models.Recipe

/-!
# The recipe book

The recipes that a client has found by a search and those in its book, with the
functions of `UserController` and `RecipeController` that fetch, save and delete
them. `HomeViewController` fetches the book after the login, a search fills the
results, the detail screen adds one of them to the book, a swipe deletes a row.

The server answers a fetch from the recipe container. `localProgram` adds what Firestore's
local store does on top of it, where it matters which of a client's own writes a fetch shows.

A row of the book keeps, besides the recipe, the ID of the document that was
written for it and whether it was fetched. The source has neither, and no function
below reads them: they say where a row comes from.
-/

set_option autoImplicit false

namespace MyMealPrep.RecipeBook

open Firestore (Collection Document Snapshot Value)

/-! ## Requests, replies and continuations -/

/-- A request to the recipe container or to the recipe search. -/
inductive Request where
  | getRecipes
  | setRecipe (recipeUID : String) (data : Document)
  | deleteRecipe (uid : String)
  | search (searchTerm : String)

/-- What comes back. -/
inductive Reply where
  | error
  | done
  | documents (snapshot : Snapshot)
  | data (json : Json)

/-- The callbacks of the requests, each with what its closure captures. -/
inductive Continuation where
  | recipesLoaded
  | searched
  | recipeSaved
  | recipeDeleted
deriving DecidableEq, Repr

/-- What a user does. A new UUID that the handler makes comes with the action. -/
inductive Action where
  | loadUserData
  | searchBarSearchButtonClicked (searchTerm : String)
  | didSelectRowAt (row : Nat)
  | addToRecipeBookButtonTapped (recipeUID : String)
  | commitDelete (row : Nat)
deriving DecidableEq, Repr

/-- What a callback reads besides its reply: the instants at which recipes are decoded. -/
structure Input where
  clock : Nat → Date := fun _ => ⟨0⟩

/-- How a request fares. A search is answered with data. -/
inductive Fate where
  | answered
  | answeredWith (json : Json)
  | failed

/-- A row of the recipe book. -/
structure Row where
  recipe : Recipe
  documentID : String
  isFetched : Bool
deriving DecidableEq, Repr

/-- What one client keeps in memory. -/
structure Client where
  currentUser : Option User := none
  recipes : List Recipe := []
  selected : Option Recipe := none
  savedRecipes : List Row := []
deriving DecidableEq, Repr

abbrev Effect := RequestReply.Effect Client Request Continuation Empty
abbrev Task := RequestReply.Task Request Reply Continuation
abbrev State := RequestReply.State Client Collection Request Reply Continuation
abbrev Label := RequestReply.Label Action Input Fate
abbrev Output := RequestReply.Output Request Continuation Empty
abbrev Trace := RequestReply.Trace Request Continuation Action Input Fate Empty

/-! ## The server -/

/-- The server handles one request. -/
def serve : Fate → Collection → Request → Collection × Reply
  | .failed, recipeContainer, _ => (recipeContainer, .error)
  | _, recipeContainer, .getRecipes => (recipeContainer, .documents recipeContainer.getDocuments)
  | _, recipeContainer, .setRecipe recipeUID data => (recipeContainer.setData recipeUID data, .done)
  | _, recipeContainer, .deleteRecipe uid => (recipeContainer.delete uid, .done)
  | .answeredWith json, recipeContainer, .search _ => (recipeContainer, .data json)
  | .answered, recipeContainer, .search _ => (recipeContainer, .error)

/-! ## `UserController` on the recipe container -/

namespace UserController

/-- The request of `saveRecipe`. -/
def saveRecipe (currentUser : Option User) (recipe : Recipe) (recipeUID : String) : Request :=
  .setRecipe recipeUID (recipe.dictionary recipeUID (currentUser.map User.uuid))

/-- The recipes of a snapshot, all of them or none. -/
def decodeRecipes (snapshot : Snapshot) : Option (List Row) :=
  snapshot.mapM fun entry => do
    let recipe ← Recipe.ofDocument entry.2
    return { recipe, documentID := entry.1, isFetched := true }

/-- The filter of `fetchRecipe`. -/
def ownRecipes (currentUser : Option User) (fetchedRecipes : List Row) : List Row :=
  fetchedRecipes.filter fun row => row.recipe.authorID == currentUser.map User.uuid

/-- What `fetchRecipe` passes to its completion. -/
def fetchRecipe (currentUser : Option User) : Reply → Except RecipeError (List Row)
  | .documents snapshot =>
      match decodeRecipes snapshot with
      | none => .error .badData
      | some fetchedRecipes => .ok (ownRecipes currentUser fetchedRecipes)
  | _ => .error (.fireError "")

/-- The request of `deleteRecipe`, which forces the ID of the recipe. -/
def deleteRecipe (recipe : Recipe) : Option Request :=
  recipe.uid.map .deleteRecipe

end UserController

/-! ## The screens -/

/-- `loadUserData`, as far as recipes go: the fetch empties the book first. -/
def loadUserData (client : Client) : Effect where
  client := { client with savedRecipes := [] }
  requests := [(.getRecipes, .recipesLoaded)]

/-- The callback of the fetch: the book becomes what the completion gets. -/
def recipesLoaded (reply : Reply) (client : Client) : Effect :=
  match UserController.fetchRecipe client.currentUser reply with
  | .error _ => { client }
  | .ok fetchedRecipes => { client := { client with savedRecipes := fetchedRecipes } }

/-- `searchBarSearchButtonClicked` -/
def searchBarSearchButtonClicked (searchTerm : String) (client : Client) : Effect :=
  if searchTerm.isEmpty then { client }
  else { client, requests := [(.search searchTerm, .searched)] }

/-- The callback of a search. -/
def searched (reply : Reply) (input : Input) (client : Client) : Effect :=
  match reply with
  | .data json =>
      match Recipe.decodeHits json input.clock with
      | none => { client }
      | some recipes => { client := { client with recipes } }
  | _ => { client }

/-- `didSelectRowAt` opens the detail screen of a result. -/
def didSelectRowAt (row : Nat) (client : Client) : Option Effect :=
  match client.recipes[row]? with
  | none => none
  | some recipe => some { client := { client with selected := some recipe } }

/-- `addToRecipeBookButtonTapped` on the detail screen. -/
def addToRecipeBookButtonTapped (recipeUID : String) (client : Client) : Effect :=
  match client.selected with
  | none => { client }
  | some recipe =>
      { client := { client with
          savedRecipes := client.savedRecipes ++ [⟨recipe, recipeUID, false⟩] }
        requests :=
          [(UserController.saveRecipe client.currentUser recipe recipeUID, .recipeSaved)] }

/-- `RecipeController.deleteRecipe` removes the first equal recipe of the book and then
deletes the document. -/
def deleteRecipe (texts : TextEquality) (recipe : Recipe) (client : Client) : Option Effect :=
  match client.savedRecipes.findIdx? fun row =>
      row.recipe.compared texts = recipe.compared texts with
  | none => some { client }
  | some index =>
      match UserController.deleteRecipe recipe with
      | none => none
      | some request =>
          some
            { client := { client with savedRecipes := client.savedRecipes.eraseIdx index }
              requests := [(request, .recipeDeleted)] }

/-- `tableView(_:commit:forRowAt:)` with a delete. -/
def commitDelete (texts : TextEquality) (row : Nat) (client : Client) : Option Effect :=
  match client.savedRecipes[row]? with
  | none => none
  | some saved => deleteRecipe texts saved.recipe client

/-! ## The program -/

/-- The handler of an action. -/
def handle (texts : TextEquality) (action : Action) (client : Client) : Option Effect :=
  match action with
  | .loadUserData => some (loadUserData client)
  | .searchBarSearchButtonClicked searchTerm =>
      some (searchBarSearchButtonClicked searchTerm client)
  | .didSelectRowAt row => didSelectRowAt row client
  | .addToRecipeBookButtonTapped recipeUID => some (addToRecipeBookButtonTapped recipeUID client)
  | .commitDelete row => commitDelete texts row client

/-- The callback of a request. -/
def resume (continuation : Continuation) (reply : Reply) (input : Input) (client : Client) :
    Effect :=
  match continuation with
  | .recipesLoaded => recipesLoaded reply client
  | .searched => searched reply input client
  | .recipeSaved => { client }
  | .recipeDeleted => { client }

/-- The recipe book of any number of clients over one recipe container. -/
def program (texts : TextEquality) : RequestReply.Program Client Collection Request Reply
    Continuation Action Input Fate Empty where
  handle := handle texts
  resume continuation reply input client := some (resume continuation reply input client)
  serve := serve

end MyMealPrep.RecipeBook
