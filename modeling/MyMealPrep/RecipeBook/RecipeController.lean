import MyMealPrep.Machines.Operations
import MyMealPrep.RecipeBook.Searches

/-!
# The requests of `RecipeController`

The three functions that ask the recipe search and the image server, with their
completion handlers. A data task is answered with data or an error, both optional.

`fetchRecipe` always calls its handler once. `fetchRandomRecipe` forces an element of the
recipes found, so it does exactly when the data is not an answer without hits.
`fetchImage` goes on after the error, so it does exactly when there was none
(`completes_once_iff`).
-/

set_option autoImplicit false

namespace MyMealPrep.RecipeBook.RecipeController

variable {URL Data Image : Type}

/-! ## The platform -/

/-- What the functions ask of the platform: the URL of a search, the URL of a text, the JSON
value of data and its image. -/
structure Platform (URL Data Image : Type) where
  searchURL : String → Option URL
  url : String → Option URL
  json : Data → Option Json
  image : Data → Option Image

/-- What a data task passes to its callback. -/
structure Response (Data : Type) where
  data : Option Data := none
  error : Option String := none
deriving DecidableEq, Repr

/-- What a callback reads besides its response: the instants at which recipes are decoded, and a
random number. -/
structure Chances where
  clock : Nat → Date := fun _ => ⟨0⟩
  random : Nat := 0

/-! ## The functions -/

section

variable (platform : Platform URL Data Image) (chances : Chances)

/-- The recipes of the hits of a `TopLevelObject`, when the data can be decoded to one. -/
def decodeRecipes (data : Data) : Option (List Recipe) :=
  (platform.json data).bind fun json => Recipe.decodeHits json chances.clock

/-- `fetchRecipe` -/
def fetchRecipe (searchTerm : String) :
    Operation URL (Response Data) (Except RecipeError (List Recipe)) :=
  match platform.searchURL searchTerm with
  | none => .result (.error .invalidURL)
  | some finalURL =>
      .request finalURL fun response =>
        match response.error with
        | some _ => .result (.error .noData)
        | none =>
            match response.data with
            | none => .result (.error .noData)
            | some data =>
                match decodeRecipes platform chances data with
                | none => .result (.error .noData)
                | some recipes => .result (.ok recipes)

/-- `randomElement()` -/
def randomElement (recipes : List Recipe) : Option Recipe :=
  recipes[chances.random % recipes.length]?

/-- `fetchRandomRecipe` -/
def fetchRandomRecipe (searchTerm : String) :
    Operation URL (Response Data) (Except RecipeError Recipe) :=
  match platform.searchURL searchTerm with
  | none => .result (.error .invalidURL)
  | some finalURL =>
      .request finalURL fun response =>
        match response.error with
        | some _ => .result (.error .noData)
        | none =>
            match response.data with
            | none => .result (.error .noData)
            | some data =>
                match decodeRecipes platform chances data with
                | none => .result (.error .noData)
                | some recipes =>
                    match randomElement chances recipes with
                    | none => .trap
                    | some randomRecipe => .result (.ok randomRecipe)

/-- The rest of the callback of `fetchImage`. -/
def imageOfData (data : Option Data) :
    Operation URL (Response Data) (Except RecipeError Image) :=
  match data with
  | none => .result (.error .noData)
  | some data =>
      match platform.image data with
      | none => .result (.error .noData)
      | some image => .result (.ok image)

/-- The callback of `fetchImage`, which does not return after an error. -/
def imageAnswered (response : Response Data) :
    Operation URL (Response Data) (Except RecipeError Image) :=
  match response.error with
  | some error => .complete (.error (.thrown error)) (imageOfData platform response.data)
  | none => imageOfData platform response.data

/-- `fetchImage`. Without an image, the URL is made of what printing returns. -/
def fetchImage (recipe : Recipe) : Operation URL (Response Data) (Except RecipeError Image) :=
  match platform.url (recipe.image.getD "()") with
  | none => .result (.error .noData)
  | some recipeImageURL => .request recipeImageURL (imageAnswered platform)

end

/-! ## The property -/

/-- Each of the functions calls its handler exactly once, however its request is answered. -/
def AlwaysCompleteOnce (platform : Platform URL Data Image) : Prop :=
  ∀ (answer : URL → Response Data) (chances : Chances) (searchTerm : String) (recipe : Recipe),
    Operation.CompletesOnce answer (fetchRecipe platform chances searchTerm) ∧
      Operation.CompletesOnce answer (fetchRandomRecipe platform chances searchTerm) ∧
      Operation.CompletesOnce answer (fetchImage platform recipe)

/-- The data of a response decodes to an answer without hits. -/
def NoHits (platform : Platform URL Data Image) (chances : Chances) (response : Response Data) :
    Prop :=
  response.error = none ∧
    ∃ data ∈ response.data, decodeRecipes platform chances data = some []

/-! ## Executions -/

variable {platform : Platform URL Data Image} {chances : Chances} {answer : URL → Response Data}

theorem fetchRecipe_completes (searchTerm : String) :
    Operation.CompletesOnce answer (fetchRecipe platform chances searchTerm) := by
  rw [fetchRecipe]
  cases platform.searchURL searchTerm with
  | none => exact ⟨rfl, rfl⟩
  | some finalURL =>
      rw [Operation.CompletesOnce, Operation.execute_request]
      cases (answer finalURL).error with
      | some error => exact ⟨rfl, rfl⟩
      | none =>
          cases (answer finalURL).data with
          | none => exact ⟨rfl, rfl⟩
          | some data =>
              simp only
              cases decodeRecipes platform chances data <;> exact ⟨rfl, rfl⟩

theorem randomElement_eq_none_iff (chances : Chances) (recipes : List Recipe) :
    randomElement chances recipes = none ↔ recipes = [] := by
  rw [randomElement, List.getElem?_eq_none_iff]
  cases recipes with
  | nil => simp
  | cons recipe rest =>
      refine iff_of_false (Nat.not_le.mpr ?_) (List.cons_ne_nil recipe rest)
      exact Nat.mod_lt chances.random (Nat.succ_pos rest.length)

/-- `fetchRandomRecipe` calls its handler once unless the answer has no hits. -/
theorem fetchRandomRecipe_completes_iff (searchTerm : String) :
    Operation.CompletesOnce answer (fetchRandomRecipe platform chances searchTerm) ↔
      ∀ finalURL ∈ platform.searchURL searchTerm, ¬ NoHits platform chances (answer finalURL) := by
  rw [fetchRandomRecipe]
  cases platform.searchURL searchTerm with
  | none => exact iff_of_true ⟨rfl, rfl⟩ fun _ found => by cases found
  | some finalURL =>
      rw [Operation.CompletesOnce, Operation.execute_request]
      simp only [Option.mem_def, Option.some.injEq, forall_eq', NoHits]
      cases (answer finalURL).error with
      | some error => exact iff_of_true ⟨rfl, rfl⟩ fun found => by cases found.1
      | none =>
          cases (answer finalURL).data with
          | none => simp
          | some data =>
              simp only [true_and, Option.some.injEq, exists_eq_left']
              cases decoded : decodeRecipes platform chances data with
              | none => simp
              | some recipes =>
                  simp only [Option.some.injEq, ← randomElement_eq_none_iff chances]
                  cases randomElement chances recipes <;> simp

theorem imageOfData_completes (platform : Platform URL Data Image) (answer : URL → Response Data)
    (data : Option Data) :
    Operation.CompletesOnce answer (imageOfData platform data) := by
  cases data with
  | none => exact ⟨rfl, rfl⟩
  | some data =>
      rw [imageOfData]
      cases platform.image data <;> exact ⟨rfl, rfl⟩

theorem fetchImage_completes_iff (recipe : Recipe) :
    Operation.CompletesOnce answer (fetchImage platform recipe) ↔
      ∀ recipeImageURL ∈ platform.url (recipe.image.getD "()"),
        (answer recipeImageURL).error = none := by
  rw [fetchImage]
  cases platform.url (recipe.image.getD "()") with
  | none => exact iff_of_true ⟨rfl, rfl⟩ fun _ found => by cases found
  | some recipeImageURL =>
      obtain ⟨untrapped, once⟩ :=
        imageOfData_completes platform answer (answer recipeImageURL).data
      rw [Operation.CompletesOnce, Operation.execute_request, imageAnswered]
      simp only [Option.mem_def, Option.some.injEq, forall_eq']
      cases (answer recipeImageURL).error with
      | none => exact iff_of_true ⟨untrapped, once⟩ rfl
      | some error => simp [once]

/-- **`fetchRecipe` always completes once, `fetchRandomRecipe` does unless the answer has no
hits, and `fetchImage` does unless its request fails.** -/
theorem completes_once_iff (platform : Platform URL Data Image) (answer : URL → Response Data)
    (chances : Chances) :
    (∀ searchTerm, Operation.CompletesOnce answer (fetchRecipe platform chances searchTerm)) ∧
    (∀ searchTerm, Operation.CompletesOnce answer (fetchRandomRecipe platform chances searchTerm) ↔
      ∀ finalURL ∈ platform.searchURL searchTerm,
        ¬ NoHits platform chances (answer finalURL)) ∧
    ∀ recipe, Operation.CompletesOnce answer (fetchImage platform recipe) ↔
      ∀ recipeImageURL ∈ platform.url (recipe.image.getD "()"),
        (answer recipeImageURL).error = none :=
  ⟨fetchRecipe_completes, fetchRandomRecipe_completes_iff, fetchImage_completes_iff⟩

/-- The reply of the recipe search that a response stands for. -/
def replyOf (platform : Platform URL Data Image) (response : Response Data) : Reply :=
  match response.error with
  | some _ => .error
  | none => (response.data.bind platform.json).elim .error .data

/-- The search screen gets what `fetchRecipe` passes to its handler. -/
theorem fetchRecipe_eq {searchTerm : String} {finalURL : URL}
    (valid : platform.searchURL searchTerm = some finalURL) :
    (Operation.execute answer (fetchRecipe platform chances searchTerm)).completions =
      [Searches.fetchRecipe (replyOf platform (answer finalURL)) { clock := chances.clock }] := by
  rw [fetchRecipe, valid, Operation.execute_request, replyOf]
  cases (answer finalURL).error with
  | some error => rfl
  | none =>
      cases (answer finalURL).data with
      | none => rfl
      | some data =>
          simp only [decodeRecipes, Option.bind_some]
          cases platform.json data with
          | none => rfl
          | some json =>
              simp only [Option.bind_some, Option.elim_some, Searches.fetchRecipe]
              cases Recipe.decodeHits json chances.clock <;> rfl

/-! ## An image server that is offline -/

/-- A platform whose data are JSON values and have no images. -/
def plain : Platform String Json Unit where
  searchURL searchTerm := some ("https://api.edamam.com/search?q=" ++ searchTerm)
  url text := if text.isEmpty then none else some text
  json := some
  image _ := none

/-- **An image request that fails completes twice.** -/
theorem failed_image_completes_twice : ¬ AlwaysCompleteOnce plain := by
  intro completes
  have twice := (completes (fun _ => { error := some "offline" }) {} "soup"
    { Searches.foundSoup with image := some "soup.png" }).2.2.2
  exact absurd twice (by decide)

end MyMealPrep.RecipeBook.RecipeController
