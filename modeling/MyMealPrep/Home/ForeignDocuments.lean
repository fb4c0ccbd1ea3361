import MyMealPrep.Collections.Decoding
import MyMealPrep.MealPlans.System
import MyMealPrep.RecipeBook.History

/-!
# What the documents of others do to a fetch

`fetchRecipe` and `fetchMealPlans` get the documents of all users, decode them one
after another and keep those of the user signed in at the end. A document that
cannot be decoded ends the decoding, whoever wrote it: the completion gets
`badData`, or the app traps where a meal plan embeds a recipe that cannot be decoded.

So two snapshots with the same documents of the user are delivered alike exactly
when the decoding of both ends alike (`fetches_agree_iff`).
-/

set_option autoImplicit false

namespace MyMealPrep.Home

open Firestore (Document Snapshot Value)

/-! ## What the completions get -/

/-- The recipes that `fetchRecipe` delivers from a snapshot. -/
def deliveredRecipes (currentUser : Option User) (snapshot : Snapshot) :
    Except RecipeError (List Recipe) :=
  (RecipeBook.UserController.fetchRecipe currentUser (.documents snapshot)).map
    (List.map RecipeBook.Row.recipe)

/-- The meal plans that `fetchMealPlans` delivers from a snapshot, unless it traps. -/
def deliveredMealPlans (currentUser : Option User) (snapshot : Snapshot) :
    Option (Except MealPlanError (List (MealPlan Recipe))) :=
  (MealPlans.UserController.fetchMealPlans currentUser (.documents snapshot)).map
    (Except.map (List.map MealPlans.UserController.Fetched.mealPlan))

/-- The documents of a snapshot with the `authorID` of the user. -/
def ownDocuments (currentUser : Option User) (snapshot : Snapshot) : List Document :=
  (snapshot.map Prod.snd).filter fun document =>
    Document.text document Constants.authorID == currentUser.map User.uuid

/-- Snapshots with the same documents of the user are delivered alike. -/
def ForeignDocumentsIgnored : Prop :=
  (∀ currentUser first second, ownDocuments currentUser first = ownDocuments currentUser second →
    deliveredRecipes currentUser first = deliveredRecipes currentUser second) ∧
  ∀ currentUser first second, ownDocuments currentUser first = ownDocuments currentUser second →
    deliveredMealPlans currentUser first = deliveredMealPlans currentUser second

/-! ## How documents fail -/

/-- One round of the loop of `fetchRecipe`. -/
def decodeRecipe (document : Document) : Except RecipeError Recipe :=
  match Recipe.ofDocument document with
  | none => .error .badData
  | some recipe => .ok recipe

/-- One round of the loop of `fetchMealPlans`. It fails without an error where it traps. -/
def decodeMealPlan (document : Document) : Except (Option MealPlanError) (MealPlan Recipe) :=
  match MealPlan.ofDocument document with
  | none => .error none
  | some none => .error (some .badData)
  | some (some mealPlan) => .ok mealPlan

/-- How the first document of a snapshot that is no recipe fails. -/
def recipeFailure (snapshot : Snapshot) : Option RecipeError :=
  Decoding.firstFailure decodeRecipe (snapshot.map Prod.snd)

/-- How the first document of a snapshot that is no meal plan fails. -/
def mealPlanFailure (snapshot : Snapshot) : Option (Option MealPlanError) :=
  Decoding.firstFailure decodeMealPlan (snapshot.map Prod.snd)

/-! ## The fetches as a decoding and a filter -/

theorem recipe_authorID {document : Document} {recipe : Recipe}
    (decoded : decodeRecipe document = .ok recipe) :
    recipe.authorID = Document.text document Constants.authorID := by
  rw [decodeRecipe] at decoded
  split at decoded
  · cases decoded
  · rename_i found read
    obtain rfl := Except.ok.inj decoded
    simp only [Recipe.ofDocument, Option.bind_eq_bind, Option.bind_eq_some_iff] at read
    obtain ⟨_, _, _, _, _, _, _, _, _, _, _, _, _, _, _, _, _, _, authorID, text, built⟩ := read
    rw [← Option.some.inj built]
    exact (Option.bind_eq_some_iff.mpr text).symm

theorem mealPlan_authorID {document : Document} {mealPlan : MealPlan Recipe}
    (decoded : decodeMealPlan document = .ok mealPlan) :
    mealPlan.authorID = Document.text document Constants.authorID := by
  rw [decodeMealPlan] at decoded
  split at decoded
  · cases decoded
  · cases decoded
  · rename_i found read
    obtain rfl := Except.ok.inj decoded
    rw [MealPlan.ofDocument] at read
    split at read
    · cases read
    · rename_i encoded fields
      split at read
      · cases read
      · obtain rfl := Option.some.inj (Option.some.inj read)
        simp only [MealPlan.requiredFields, Option.bind_eq_bind, Option.bind_eq_some_iff] at fields
        obtain ⟨_, _, _, _, _, _, _, _, authorID, text, _, _, built⟩ := fields
        rw [← Option.some.inj built]
        exact (Option.bind_eq_some_iff.mpr text).symm

theorem deliveredRecipes_eq (currentUser : Option User) (snapshot : Snapshot) :
    deliveredRecipes currentUser snapshot =
      ((snapshot.map Prod.snd).mapM decodeRecipe).map
        (List.filter fun recipe => recipe.authorID == currentUser.map User.uuid) := by
  have decoded : (snapshot.map Prod.snd).mapM decodeRecipe =
      (RecipeBook.UserController.decodeRecipes snapshot).elim (.error .badData) fun rows =>
        .ok (rows.map RecipeBook.Row.recipe) := by
    induction snapshot with
    | nil => rfl
    | cons entry rest ih =>
        rw [List.map_cons, List.mapM_cons, ih, RecipeBook.decodeRecipes_cons, decodeRecipe]
        cases Recipe.ofDocument entry.2 with
        | none => rfl
        | some recipe => cases RecipeBook.UserController.decodeRecipes rest <;> rfl
  rw [decoded, deliveredRecipes, RecipeBook.UserController.fetchRecipe]
  cases RecipeBook.UserController.decodeRecipes snapshot with
  | none => rfl
  | some rows => simp [Except.map, RecipeBook.UserController.ownRecipes, List.filter_map,
      Function.comp_def]

/-- What the completion gets from a decoding that may have trapped. -/
def completion {ε β : Type} : Except (Option ε) β → Option (Except ε β)
  | .error none => none
  | .error (some reason) => some (.error reason)
  | .ok value => some (.ok value)

theorem completion_injective {ε β : Type} : Function.Injective (completion (ε := ε) (β := β)) := by
  rintro ((_ | _) | _) ((_ | _) | _) same <;> simp_all [completion]

theorem deliveredMealPlans_eq (currentUser : Option User) (snapshot : Snapshot) :
    deliveredMealPlans currentUser snapshot =
      completion (((snapshot.map Prod.snd).mapM decodeMealPlan).map
        (List.filter fun mealPlan => mealPlan.authorID == currentUser.map User.uuid)) := by
  have decoded : (snapshot.map Prod.snd).mapM decodeMealPlan =
      (MealPlans.UserController.decodeMealPlans snapshot).elim (.error none) fun plans =>
        plans.elim (.error (some .badData)) fun fetched =>
          .ok (fetched.map MealPlans.UserController.Fetched.mealPlan) := by
    induction snapshot with
    | nil => rfl
    | cons entry rest ih =>
        rw [List.map_cons, List.mapM_cons, ih, decodeMealPlan,
          MealPlans.UserController.decodeMealPlans]
        cases MealPlan.ofDocument entry.2 with
        | none => rfl
        | some read =>
            cases read with
            | none => rfl
            | some mealPlan =>
                rcases MealPlans.UserController.decodeMealPlans rest with _ | _ | fetched <;> rfl
  rw [decoded, deliveredMealPlans, MealPlans.UserController.fetchMealPlans]
  rcases MealPlans.UserController.decodeMealPlans snapshot with _ | _ | fetched
  · rfl
  · rfl
  · simp [Except.map, completion, MealPlans.UserController.ownMealPlans, List.filter_map,
      Function.comp_def]

/-! ## The results -/

/-- **Two snapshots with the same documents of the user are delivered alike exactly when
their decodings fail alike, or both do not fail.** -/
theorem fetches_agree_iff (currentUser : Option User) :
    (∀ first second, ownDocuments currentUser first = ownDocuments currentUser second →
      (deliveredRecipes currentUser first = deliveredRecipes currentUser second ↔
        recipeFailure first = recipeFailure second)) ∧
    ∀ first second, ownDocuments currentUser first = ownDocuments currentUser second →
      (deliveredMealPlans currentUser first = deliveredMealPlans currentUser second ↔
        mealPlanFailure first = mealPlanFailure second) := by
  constructor
  · intro first second same
    rw [deliveredRecipes_eq, deliveredRecipes_eq]
    refine Decoding.filter_mapM_eq_iff (fun document recipe decoded => ?_) same
    rw [recipe_authorID decoded]
  · intro first second same
    rw [deliveredMealPlans_eq, deliveredMealPlans_eq, completion_injective.eq_iff]
    refine Decoding.filter_mapM_eq_iff (fun document mealPlan decoded => ?_) same
    rw [mealPlan_authorID decoded]

/-! ## Three documents -/

/-- A recipe of the user in a snapshot. -/
def ownRecipe : String × Document :=
  ("R1", Value.storedFields (RecipeBook.soup.dictionary "R1" (some RecipeBook.ann.uuid)))

/-- A recipe of another user. -/
def foreignRecipe : String × Document :=
  ("R2", Value.storedFields (RecipeBook.soup.dictionary "R2" (some RecipeBook.bob.uuid)))

/-- A document of the other user that is neither a recipe nor a meal plan. -/
def foreignNote : String × Document :=
  ("R2", [(Constants.authorID, .string RecipeBook.bob.uuid)])

/-- A recipe of another user changes nothing. -/
theorem fetches_agree_iff_foreignRecipe :
    deliveredRecipes (some RecipeBook.ann) [ownRecipe] =
        deliveredRecipes (some RecipeBook.ann) [ownRecipe, foreignRecipe] ∧
      deliveredMealPlans (some RecipeBook.ann) [foreignNote] =
        deliveredMealPlans (some RecipeBook.ann) [foreignRecipe] :=
  ⟨((fetches_agree_iff (some RecipeBook.ann)).1 [ownRecipe] [ownRecipe, foreignRecipe] rfl).mpr rfl,
    ((fetches_agree_iff (some RecipeBook.ann)).2 [foreignNote] [foreignRecipe] rfl).mpr rfl⟩

/-- **A document of another user hides the user's recipe.** -/
theorem foreign_document_hides_recipe : ¬ ForeignDocumentsIgnored := by
  intro ignored
  have same := ignored.1 (some RecipeBook.ann) [ownRecipe] [ownRecipe, foreignNote] rfl
  have alone : deliveredRecipes (some RecipeBook.ann) [ownRecipe] =
      .ok [RecipeBook.soup.written "R1" (some RecipeBook.ann.uuid)] := rfl
  have together : deliveredRecipes (some RecipeBook.ann) [ownRecipe, foreignNote] =
      .error .badData := rfl
  rw [alone, together] at same
  cases same

end MyMealPrep.Home
