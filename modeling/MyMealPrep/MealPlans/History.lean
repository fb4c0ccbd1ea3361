import Mathlib.Data.List.Nodup
import MyMealPrep.MealPlans.Effects

/-!
# Saved plans and picked dates

A plan that `saveMealPlan` writes is read back as it was, under the ID of its
document (`saveMealPlan_read_back`).

On a detail screen a date can be picked for each recipe of a plan. The cell changes
the recipe in memory and writes the date to the document of the meal plan container
whose ID is the `uid` of the recipe.

Histories of acknowledged calls: any number of users save plans, delete documents and
pick dates. The abstract side of a history is the list of the plans saved and not
deleted. The container holds a document for each of them and no others (`Holds`), and
so a fetch delivers each plan to its user, as it was saved (`Holds.fetch`).
-/

set_option autoImplicit false

namespace MyMealPrep.MealPlans

open Firestore (Collection Document Snapshot Value)

/-! ## The round trip of a plan -/

/-- What a recipe of a plan keeps and gets when the plan is written by a user. -/
structure RecipeReadBack (user : User) (recipe readBack : Recipe) : Prop where
  label : readBack.label = recipe.label
  image : readBack.image = some (recipe.image.getD "")
  directions : readBack.directions = recipe.directions
  ingredients : readBack.ingredients = recipe.ingredients
  yield : readBack.yield = recipe.yield
  totalTime : readBack.totalTime = recipe.totalTime
  isChecked : readBack.isChecked = recipe.isChecked
  dateToEat : readBack.dateToEat = recipe.dateToEat
  authorID : readBack.authorID = some user.uuid
  uid : readBack.uid.isSome = true

/-- What a plan keeps and gets when it is written by a user under an ID. -/
structure PlanReadBack (user : User) (mealPlanUID : String) (mealPlan readBack : MealPlan Recipe) :
    Prop where
  mealPlanName : readBack.mealPlanName = mealPlan.mealPlanName
  startDate : readBack.startDate = mealPlan.startDate
  endDate : readBack.endDate = mealPlan.endDate
  mealPlanUID : readBack.mealPlanUID = some mealPlanUID
  authorID : readBack.authorID = some user.uuid
  recipes : List.Forall₂ (RecipeReadBack user) mealPlan.recipes readBack.recipes
  distinct : (readBack.recipes.map Recipe.uid).Nodup

theorem recipeReadBack_written (user : User) (recipe : Recipe) (recipeUID : String) :
    RecipeReadBack user recipe (recipe.written recipeUID (some user.uuid)) := by
  constructor <;> rfl

theorem forall₂_recipes_written (user : User) (recipes : List Recipe) (recipeUIDs : Nat → String)
    (start : Nat) :
    List.Forall₂ (RecipeReadBack user) recipes
      ((recipes.zipIdx start).map fun recipe =>
        recipe.1.written (recipeUIDs recipe.2) (some user.uuid)) := by
  induction recipes generalizing start with
  | nil => exact .nil
  | cons recipe rest ih =>
      rw [List.zipIdx_cons, List.map_cons]
      exact .cons (recipeReadBack_written user recipe (recipeUIDs start)) (ih (start + 1))

theorem map_uid_written (mealPlan : MealPlan Recipe) (mealPlanUID : String)
    (authorID : Option String) (recipeUIDs : Nat → String) :
    (mealPlan.written mealPlanUID authorID recipeUIDs).recipes.map Recipe.uid =
      ((List.range mealPlan.recipes.length).map recipeUIDs).map some := by
  have indices : mealPlan.recipes.zipIdx.map Prod.snd = List.range mealPlan.recipes.length := by
    rw [List.zipIdx_map_snd, List.range_eq_range']
  rw [← indices, MealPlan.written, List.map_map, List.map_map, List.map_map]
  rfl

/-- **A plan that is saved is read back** with its name and dates, under the ID of its
document and by its user, with the recipes in their order, each under an ID of its own. -/
theorem saveMealPlan_read_back (mealPlanContainer : Collection) (user : User)
    (mealPlan : MealPlan Recipe) (mealPlanUID : String) (recipeUIDs : Nat → String)
    (fresh : ((List.range mealPlan.recipes.length).map recipeUIDs).Nodup) :
    ∃ document readBack,
      (serve .answered mealPlanContainer (UserController.saveMealPlan (some user) mealPlan
        mealPlanUID recipeUIDs)).1[mealPlanUID]? = some document ∧
      MealPlan.ofDocument document = some (some readBack) ∧
      PlanReadBack user mealPlanUID mealPlan readBack := by
  have stored := Collection.setData_get mealPlanContainer mealPlanUID mealPlanUID
    (mealPlan.dictionary mealPlanUID (some user.uuid) recipeUIDs)
  rw [if_pos rfl] at stored
  refine ⟨_, _, stored, MealPlan.ofDocument_dictionary _ _ _ _, ?_⟩
  refine ⟨rfl, rfl, rfl, rfl, rfl, forall₂_recipes_written user mealPlan.recipes recipeUIDs 0, ?_⟩
  rw [map_uid_written]
  exact List.Nodup.map (fun _ _ => Option.some.inj) fresh

/-- A user of the examples below. -/
def cook : User := ⟨"cook@mail.com", "secret", "A"⟩

/-- A recipe as a search answers it: it has no ID. -/
def salad : Recipe where
  label := "Salad"
  image := none
  directions := "salad.html"
  ingredients := ["lettuce", "oil"]
  yield := 2
  totalTime := 10
  uid := none
  isChecked := true
  dateToEat := ⟨0⟩
  authorID := none

/-- A plan with the same recipe twice. -/
def saladDays : MealPlan Recipe where
  mealPlanName := "Jan 1, 2001 - Jan 2, 2001"
  startDate := ⟨0⟩
  endDate := ⟨1⟩
  recipes := [salad, salad]
  authorID := some "A"
  mealPlanUID := some "P1"

/-- A plan with the same recipe twice is read back with two IDs. -/
theorem saveMealPlan_read_back_saladDays :
    ∃ document readBack,
      (serve .answered ∅ (UserController.saveMealPlan (some cook) saladDays "D1"
        fun index => if index = 0 then "R1" else "R2")).1["D1"]? = some document ∧
      MealPlan.ofDocument document = some (some readBack) ∧
      PlanReadBack cook "D1" saladDays readBack :=
  saveMealPlan_read_back ∅ cook saladDays "D1" (fun index => if index = 0 then "R1" else "R2")
    (by decide)

/-! ## Picking a date -/

/-- `updateData` of one date of the document at a path below the meal plan container. -/
structure DateUpdate where
  path : List String
  dateToEat : Date
deriving DecidableEq, Repr

/-- What the server makes of it: nothing where there is no such document. A longer path leads to a
collection below a document, and the app has none. -/
def DateUpdate.written (update : DateUpdate) (mealPlanContainer : Collection) : Option Collection :=
  match update.path with
  | [documentID] =>
      mealPlanContainer.updateData documentID Constants.dateToEat (.date update.dateToEat)
  | _ => none

/-- `RecipeController.updateDateToEat` -/
def updateDateToEat (date : Date) (recipe : Recipe) : Recipe :=
  { recipe with dateToEat := date }

/-- `datePickerValueChanged` for the recipe of a cell: the recipe in memory and the update. It
forces the ID of the recipe, and the ID has to be the path of a document. -/
def datePickerValueChanged (date : Date) (recipe : Recipe) : Option (Recipe × DateUpdate) :=
  let changed := updateDateToEat date recipe
  match changed.uid with
  | none => none
  | some uid =>
      match Firestore.documentPath uid with
      | none => none
      | some path => some (changed, ⟨path, date⟩)

/-! ## Histories -/

/-- A plan saved by a user under an ID, with the IDs of its recipes. -/
structure Saved where
  user : User
  mealPlan : MealPlan Recipe
  mealPlanUID : String
  recipeUIDs : Nat → String

namespace Saved

/-- The plan that is delivered for it. -/
def delivered (saved : Saved) : MealPlan Recipe :=
  saved.mealPlan.written saved.mealPlanUID (some saved.user.uuid) saved.recipeUIDs

/-- The request that saves it. -/
def request (saved : Saved) : Request :=
  UserController.saveMealPlan (some saved.user) saved.mealPlan saved.mealPlanUID saved.recipeUIDs

end Saved

/-- The container after acknowledged calls, with the plans saved and not deleted. A plan is
saved under an ID that no stored document has. -/
inductive History : Collection → List Saved → Prop where
  | start : History ∅ []
  | saveMealPlan {mealPlanContainer : Collection} {plans : List Saved}
      (before : History mealPlanContainer plans) (saved : Saved)
      (fresh : saved.mealPlanUID ∉ plans.map Saved.mealPlanUID) :
      History (serve .answered mealPlanContainer saved.request).1 (saved :: plans)
  | deleteMealPlan {mealPlanContainer : Collection} {plans : List Saved}
      (before : History mealPlanContainer plans) (mealPlanUID : String) :
      History (serve .answered mealPlanContainer (.deleteMealPlan mealPlanUID)).1
        (plans.filter fun saved => saved.mealPlanUID ≠ mealPlanUID)
  | datePickerValueChanged {mealPlanContainer updated : Collection} {plans : List Saved}
      (before : History mealPlanContainer plans) {date : Date} {recipe changed : Recipe}
      {update : DateUpdate} (picked : datePickerValueChanged date recipe = some (changed, update))
      (acknowledged : update.written mealPlanContainer = some updated) : History updated plans

/-- What a user's fetch gets from a container, unless it traps. -/
def fetch (user : User) (mealPlanContainer : Collection) :
    Option (Except MealPlanError (List UserController.Fetched)) :=
  UserController.fetchMealPlans (some user) (serve .answered mealPlanContainer .getMealPlans).2

/-! ## The container holds the plans -/

theorem ofDocument_set_dateToEat (document : Document) (value : Value) :
    MealPlan.ofDocument (document.set Constants.dateToEat value) =
      MealPlan.ofDocument document := by
  have unread : ∀ name, name ≠ Constants.dateToEat →
      (document.set Constants.dateToEat value).field name = document.field name :=
    fun name different => Document.field_set_of_ne document value different
  have required : MealPlan.requiredFields (document.set Constants.dateToEat value) =
      MealPlan.requiredFields document := by
    rw [MealPlan.requiredFields, unread Constants.mealPlanName (by decide),
      unread Constants.startDate (by decide), unread Constants.endDate (by decide),
      unread Constants.mealPlanEncodedRecipes (by decide), unread Constants.authorID (by decide),
      unread Constants.mealPlanUID (by decide), ← MealPlan.requiredFields]
  rw [MealPlan.ofDocument, required, ← MealPlan.ofDocument]

/-- Every plan has a document that decodes to it, and every document has a plan. -/
structure Holds (mealPlanContainer : Collection) (plans : List Saved) : Prop where
  stored : ∀ saved ∈ plans, ∃ document,
    mealPlanContainer[saved.mealPlanUID]? = some document ∧
      MealPlan.ofDocument document = some (some saved.delivered)
  known : ∀ id document, mealPlanContainer[id]? = some document →
    ∃ saved ∈ plans, saved.mealPlanUID = id

theorem Holds.saveMealPlan {mealPlanContainer : Collection} {plans : List Saved}
    (holds : Holds mealPlanContainer plans) (saved : Saved)
    (fresh : saved.mealPlanUID ∉ plans.map Saved.mealPlanUID) :
    Holds (serve .answered mealPlanContainer saved.request).1 (saved :: plans) := by
  have get : ∀ id, (serve .answered mealPlanContainer saved.request).1[id]? =
      if saved.mealPlanUID = id then _ else mealPlanContainer[id]? :=
    fun id => Collection.setData_get _ _ _ _
  constructor
  · intro other member
    rw [get]
    rcases List.mem_cons.mp member with rfl | earlier
    · rw [if_pos rfl]
      exact ⟨_, rfl, MealPlan.ofDocument_dictionary _ _ _ _⟩
    · rw [if_neg fun same => fresh (List.mem_map.mpr ⟨other, earlier, same.symm⟩)]
      exact holds.stored other earlier
  · intro id document found
    by_cases same : saved.mealPlanUID = id
    · exact ⟨saved, List.mem_cons_self, same⟩
    · rw [get, if_neg same] at found
      obtain ⟨other, member, named⟩ := holds.known id document found
      exact ⟨other, List.mem_cons_of_mem _ member, named⟩

theorem Holds.deleteMealPlan {mealPlanContainer : Collection} {plans : List Saved}
    (holds : Holds mealPlanContainer plans) (mealPlanUID : String) :
    Holds (serve .answered mealPlanContainer (.deleteMealPlan mealPlanUID)).1
      (plans.filter fun saved => saved.mealPlanUID ≠ mealPlanUID) := by
  have get : ∀ id, (serve .answered mealPlanContainer (.deleteMealPlan mealPlanUID)).1[id]? =
      if mealPlanUID = id then none else mealPlanContainer[id]? :=
    fun id => Collection.delete_get _ _ _
  constructor
  · intro other member
    obtain ⟨listed, different⟩ := List.mem_filter.mp member
    rw [get, if_neg (Ne.symm (of_decide_eq_true different))]
    exact holds.stored other listed
  · intro id document found
    rw [get] at found
    split at found
    · cases found
    · rename_i different
      obtain ⟨other, member, rfl⟩ := holds.known id document found
      exact ⟨other, List.mem_filter.mpr ⟨member, decide_eq_true (Ne.symm different)⟩, rfl⟩

/-- A date picked sets a field of a document that no plan reads. -/
theorem Holds.datePickerValueChanged {mealPlanContainer updated : Collection} {plans : List Saved}
    (holds : Holds mealPlanContainer plans) {update : DateUpdate}
    (acknowledged : update.written mealPlanContainer = some updated) : Holds updated plans := by
  obtain ⟨documentID, acknowledged⟩ : ∃ documentID, mealPlanContainer.updateData documentID
      Constants.dateToEat (.date update.dateToEat) = some updated := by
    rw [DateUpdate.written] at acknowledged
    split at acknowledged
    · exact ⟨_, acknowledged⟩
    · cases acknowledged
  obtain ⟨target, found, rfl⟩ := Collection.updateData_eq_some_iff.mp acknowledged
  constructor
  · intro saved member
    obtain ⟨document, stored, decoded⟩ := holds.stored saved member
    rw [OrderedMaps.getElem?_insert]
    by_cases same : documentID = saved.mealPlanUID
    · rw [same, stored] at found
      obtain rfl := Option.some.inj found
      rw [if_pos same]
      exact ⟨_, rfl, (ofDocument_set_dateToEat document _).trans decoded⟩
    · rw [if_neg same]
      exact ⟨document, stored, decoded⟩
  · intro id document listed
    rw [OrderedMaps.getElem?_insert] at listed
    split at listed
    · rename_i same
      subst same
      exact holds.known _ target found
    · exact holds.known id document listed

/-- The container holds the plans after every history. -/
theorem History.holds {mealPlanContainer : Collection} {plans : List Saved}
    (history : History mealPlanContainer plans) : Holds mealPlanContainer plans := by
  induction history with
  | start => exact ⟨by simp, by simp⟩
  | saveMealPlan _ saved fresh ih => exact ih.saveMealPlan saved fresh
  | deleteMealPlan _ mealPlanUID ih => exact ih.deleteMealPlan mealPlanUID
  | datePickerValueChanged _ _ acknowledged ih => exact ih.datePickerValueChanged acknowledged

/-! ## What a fetch delivers -/

/-- **A fetch delivers each plan of its user as it was saved**, and nothing else under the ID
of its document. -/
theorem Holds.fetch {mealPlanContainer : Collection} {plans : List Saved}
    (holds : Holds mealPlanContainer plans) {saved : Saved} (member : saved ∈ plans) :
    ∃ fetched, fetch saved.user mealPlanContainer = some (.ok fetched) ∧
      ∀ mealPlan, ⟨saved.mealPlanUID, mealPlan⟩ ∈ fetched ↔ mealPlan = saved.delivered := by
  have decodes : ∀ entry ∈ mealPlanContainer.getDocuments, ∃ mealPlan,
      MealPlan.ofDocument entry.2 = some (some mealPlan) := by
    rintro ⟨id, document⟩ listed
    have stored := Collection.mem_getDocuments.mp listed
    obtain ⟨other, otherMember, rfl⟩ := holds.known id document stored
    obtain ⟨found, otherStored, decoded⟩ := holds.stored other otherMember
    obtain rfl := Option.some.inj (stored.symm.trans otherStored)
    exact ⟨_, decoded⟩
  obtain ⟨all, decodedAll⟩ := exists_decodeMealPlans decodes
  have answer : (serve .answered mealPlanContainer .getMealPlans).2 =
      .documents mealPlanContainer.getDocuments := rfl
  have delivers : MealPlans.fetch saved.user mealPlanContainer =
      some (.ok (UserController.ownMealPlans (some saved.user) all)) := by
    rw [MealPlans.fetch, answer, UserController.fetchMealPlans, decodedAll]
  obtain ⟨document, stored, decoded⟩ := holds.stored saved member
  refine ⟨_, delivers, fun mealPlan => ⟨fun delivered => ?_, ?_⟩⟩
  · obtain ⟨other, listed, read⟩ :=
      mem_decodeMealPlans decodedAll (List.mem_of_mem_filter delivered)
    obtain rfl := Option.some.inj (stored.symm.trans (Collection.mem_getDocuments.mp listed))
    exact Option.some.inj (Option.some.inj (read.symm.trans decoded))
  · rintro rfl
    refine List.mem_filter.mpr ⟨?_, by simp [Saved.delivered, MealPlan.written]⟩
    obtain ⟨mealPlan, read, listed⟩ :=
      decodeMealPlans_mem decodedAll (Collection.mem_getDocuments.mpr stored)
    obtain rfl := Option.some.inj (Option.some.inj (read.symm.trans decoded))
    exact listed

end MyMealPrep.MealPlans
