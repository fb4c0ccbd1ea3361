import MyMealPrep.Collections.Decoding
import MyMealPrep.MealPlans.System

/-!
# Malformed meal plan documents

`MealPlan.init?(document:)` returns nil where one of its own fields is missing or of
another type, and it forces the decoding of every recipe embedded. So it fails as it
should exactly on the documents that lack a field or have only recipes that can be
decoded (`init_total_iff`), and a fetch of meal plans reaches its completion exactly
when the first document of the snapshot that stops it is one that lacks a field
(`fetch_completes_iff`).
-/

set_option autoImplicit false

namespace MyMealPrep.MealPlans

open Firestore (Document Snapshot Value)

/-! ## Documents -/

/-- A field that a meal plan requires is missing, or has another type. -/
def FieldMissing (document : Document) : Prop :=
  (Document.field document Constants.mealPlanName).bind Value.asString = none ∨
    (Document.field document Constants.startDate).bind Value.asTimestamp = none ∨
    (Document.field document Constants.endDate).bind Value.asTimestamp = none ∨
    (Document.field document Constants.mealPlanEncodedRecipes).bind Value.asDocuments = none ∨
    (Document.field document Constants.authorID).bind Value.asString = none ∨
    (Document.field document Constants.mealPlanUID).bind Value.asString = none

/-- A recipe embedded in a document cannot be decoded. -/
def RecipeRejected (document : Document) : Prop :=
  ∃ encodedRecipes,
    (Document.field document Constants.mealPlanEncodedRecipes).bind Value.asDocuments =
        some encodedRecipes ∧
      ∃ data ∈ encodedRecipes, Recipe.ofDocument data = none

/-- `MealPlan.init?(document:)` does not trap, and returns nil exactly for a malformed
document. -/
def InitTotal (document : Document) : Prop :=
  (MealPlan.ofDocument document).isSome = true ∧
    (MealPlan.ofDocument document = some none ↔ FieldMissing document ∨ RecipeRejected document)

/-- `fetchMealPlans` reaches its completion with the plans or with `badData`. -/
def FetchCompletes (currentUser : Option User) (snapshot : Snapshot) : Prop :=
  UserController.fetchMealPlans currentUser (.documents snapshot) = some (.error .badData) ∨
    ∃ fetchedMealPlans,
      UserController.fetchMealPlans currentUser (.documents snapshot) =
        some (.ok fetchedMealPlans)

/-- A document with all fields embeds a recipe that cannot be decoded, and no document before
it lacks a field. -/
def ReachesRejected (snapshot : Snapshot) : Prop :=
  ∃ before entry after, snapshot = before ++ entry :: after ∧
    (∀ earlier ∈ before, ¬ FieldMissing earlier.2) ∧
    ¬ FieldMissing entry.2 ∧ RecipeRejected entry.2

/-! ## Decoding a document -/

theorem requiredFields_eq_none_iff (document : Document) :
    MealPlan.requiredFields document = none ↔ FieldMissing document := by
  simp only [MealPlan.requiredFields, FieldMissing, Option.bind_eq_bind]
  cases (Document.field document Constants.mealPlanName).bind Value.asString with
  | none => simp
  | some mealPlanName =>
  cases (Document.field document Constants.startDate).bind Value.asTimestamp with
  | none => simp
  | some startDate =>
  cases (Document.field document Constants.endDate).bind Value.asTimestamp with
  | none => simp
  | some endDate =>
  cases (Document.field document Constants.mealPlanEncodedRecipes).bind Value.asDocuments with
  | none => simp
  | some encodedRecipes =>
  cases (Document.field document Constants.authorID).bind Value.asString with
  | none => simp
  | some authorID =>
  cases (Document.field document Constants.mealPlanUID).bind Value.asString with
  | none => simp
  | some mealPlanUID => simp

theorem field_of_requiredFields {document : Document} {encoded : MealPlan Document}
    (fields : MealPlan.requiredFields document = some encoded) :
    (Document.field document Constants.mealPlanEncodedRecipes).bind Value.asDocuments =
      some encoded.recipes := by
  simp only [MealPlan.requiredFields, Option.bind_eq_bind, Option.bind_eq_some_iff] at fields
  obtain ⟨_, _, _, _, _, _, encodedRecipes, recipes, _, _, _, _, built⟩ := fields
  rw [← Option.some.inj built, Option.bind_eq_some_iff]
  exact recipes

/-- How a document is decoded: to nil, not at all, or to a plan. -/
theorem decoding_cases (document : Document) :
    FieldMissing document ∧ MealPlan.ofDocument document = some none ∨
      ¬ FieldMissing document ∧ RecipeRejected document ∧ MealPlan.ofDocument document = none ∨
      ¬ FieldMissing document ∧ ¬ RecipeRejected document ∧
        ∃ mealPlan, MealPlan.ofDocument document = some (some mealPlan) := by
  rw [MealPlan.ofDocument]
  cases fields : MealPlan.requiredFields document with
  | none => exact .inl ⟨(requiredFields_eq_none_iff document).mp fields, rfl⟩
  | some encoded =>
      have present : ¬ FieldMissing document := by
        rw [← requiredFields_eq_none_iff, fields]
        exact Option.some_ne_none encoded
      have rejects : RecipeRejected document ↔
          encoded.recipes.mapM Recipe.ofDocument = none := by
        rw [Decoding.mapM_eq_none_iff, RecipeRejected, field_of_requiredFields fields]
        simp
      simp only
      rw [rejects]
      cases encoded.recipes.mapM Recipe.ofDocument with
      | none => exact .inr (.inl ⟨present, rfl, rfl⟩)
      | some recipes => exact .inr (.inr ⟨present, Option.some_ne_none recipes, _, rfl⟩)

/-- **A document is decoded as it should be exactly when it lacks a field or embeds no recipe
that cannot be decoded.** -/
theorem init_total_iff (document : Document) :
    InitTotal document ↔ FieldMissing document ∨ ¬ RecipeRejected document := by
  rw [InitTotal]
  rcases decoding_cases document with ⟨missing, read⟩ | ⟨present, rejected, read⟩ |
    ⟨present, accepted, mealPlan, read⟩
  · simp [read, missing]
  · simp [read, present, rejected]
  · simp [read, present, accepted]

/-! ## Decoding a snapshot -/

/-- A rejected recipe is reached in the first document, or after it where it has all fields. -/
theorem reachesRejected_cons (entry : String × Document) (rest : Snapshot) :
    ReachesRejected (entry :: rest) ↔
      ¬ FieldMissing entry.2 ∧ (RecipeRejected entry.2 ∨ ReachesRejected rest) := by
  constructor
  · rintro ⟨before, reached, after, split, earlier, present, rejected⟩
    rcases List.cons_eq_append_iff.mp split with ⟨rfl, here⟩ | ⟨others, rfl, later⟩
    · obtain ⟨rfl, rfl⟩ := List.cons.inj here
      exact ⟨present, .inl rejected⟩
    · obtain ⟨first, others⟩ := List.forall_mem_cons.mp earlier
      exact ⟨first, .inr ⟨_, reached, after, later, others, present, rejected⟩⟩
  · rintro ⟨present, rejected | ⟨before, reached, after, rfl, earlier, presentThere, rejected⟩⟩
    · exact ⟨[], entry, rest, rfl, by simp, present, rejected⟩
    · exact ⟨entry :: before, reached, after, rfl, List.forall_mem_cons.mpr ⟨present, earlier⟩,
        presentThere, rejected⟩

/-- Decoding a snapshot traps exactly when it reaches a rejected recipe. -/
theorem decodeMealPlans_eq_none_iff (snapshot : Snapshot) :
    UserController.decodeMealPlans snapshot = none ↔ ReachesRejected snapshot := by
  induction snapshot with
  | nil => simp [UserController.decodeMealPlans, ReachesRejected]
  | cons entry rest ih =>
      rw [UserController.decodeMealPlans, reachesRejected_cons]
      rcases decoding_cases entry.2 with ⟨missing, read⟩ | ⟨present, rejected, read⟩ |
        ⟨present, accepted, mealPlan, read⟩
      · simp [read, missing]
      · simp [read, present, rejected]
      · simp [read, present, accepted, ih]

theorem fetch_completes_iff (currentUser : Option User) (snapshot : Snapshot) :
    FetchCompletes currentUser snapshot ↔ ¬ ReachesRejected snapshot := by
  rw [← decodeMealPlans_eq_none_iff, FetchCompletes, UserController.fetchMealPlans]
  rcases UserController.decodeMealPlans snapshot with _ | _ | fetchedMealPlans <;> simp

/-- **A document is decoded as it should be exactly when it lacks a field or embeds no rejected
recipe, and a fetch completes exactly when it reaches no rejected recipe.** -/
theorem malformed_documents_fail_iff (document : Document) (currentUser : Option User)
    (snapshot : Snapshot) :
    (InitTotal document ↔ FieldMissing document ∨ ¬ RecipeRejected document) ∧
      (FetchCompletes currentUser snapshot ↔ ¬ ReachesRejected snapshot) :=
  ⟨init_total_iff document, fetch_completes_iff currentUser snapshot⟩

/-! ## A plan with half a recipe -/

/-- A meal plan with all fields whose only recipe is no more than a label. -/
def halfRecipe : Document :=
  [(Constants.mealPlanName, .string "Week"),
    (Constants.startDate, .timestamp ⟨0⟩),
    (Constants.endDate, .timestamp ⟨1⟩),
    (Constants.mealPlanEncodedRecipes, .array [.map [(Constants.recipeLabel, .string "Soup")]]),
    (Constants.authorID, .string "U1"),
    (Constants.mealPlanUID, .string "P1")]

/-- **Half a recipe traps**, in its document and in a fetch that gets the document. -/
theorem half_recipe_traps :
    ¬ InitTotal halfRecipe ∧ ¬ FetchCompletes none [("P1", halfRecipe)] := by
  have trapped : MealPlan.ofDocument halfRecipe = none := rfl
  have fetchTrapped :
      UserController.fetchMealPlans none (.documents [("P1", halfRecipe)]) = none := rfl
  constructor
  · intro total
    rw [InitTotal, trapped] at total
    exact Bool.false_ne_true total.1
  · intro completes
    rw [FetchCompletes, fetchTrapped] at completes
    rcases completes with failed | ⟨_, fetched⟩
    · cases failed
    · cases fetched

end MyMealPrep.MealPlans
