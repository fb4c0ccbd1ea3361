import Mathlib.Data.List.Induction
import MyMealPrep.Collections.SortedSuffixes
import MyMealPrep.RecipeBook.History

/-!
# The recently saved recipes

The home screen shows the last three recipes of the book. While the app runs, these are
the last three that the user saved, since a save appends its recipe. After a relaunch
the book is what the login fetch delivers, in the order of the document IDs, and the IDs
are random.

So the home screen shows the last three saved again exactly when their IDs are in the
order of the saves and after the IDs of all earlier ones (`recentlySaved_kept_iff`).
-/

set_option autoImplicit false

namespace MyMealPrep.Home.RecentlySaved

open Firestore (Collection Snapshot)
open RecipeBook (Call Client History Holds Row Saved addToRecipeBookButtonTapped loadUserData
  recipesLoaded rowOf savesOf serve survivors)

/-! ## The home screen -/

/-- `numberOfSections`, each with one row. -/
def numberOfSections (client : Client) : Nat :=
  if client.savedRecipes.length ≤ 3 then client.savedRecipes.length else 3

/-- `suffix(3)` -/
def lastThree {α : Type} (elements : List α) : List α :=
  elements.drop (elements.length - 3)

/-- The recipe of the cell in a section, where the book is not empty. -/
def cellForRowAt (client : Client) (index : Nat) : Option Recipe :=
  ((lastThree client.savedRecipes).map Row.recipe)[index]?

/-- The recipes shown as recently saved. -/
def recentlySavedRecipes (client : Client) : List Recipe :=
  (List.range (numberOfSections client)).filterMap (cellForRowAt client)

/-! ## Saves and a relaunch -/

/-- The user saves a recipe on its client, or another user saves one. -/
def save (user : User) (client : Client) (saved : Saved) : Client :=
  if saved.user.uuid = user.uuid then
    (addToRecipeBookButtonTapped saved.recipeUID
      { client with selected := some saved.recipe }).client
  else client

/-- The client of a new user after saves, in their order. -/
def afterSaves (user : User) (saves : List Saved) : Client :=
  saves.foldl (save user) { currentUser := some user }

/-- The recipe container after saves. -/
def container (saves : List Saved) : Collection :=
  saves.foldl (fun recipeContainer saved =>
    (serve .answered recipeContainer (RecipeBook.UserController.saveRecipe (some saved.user)
      saved.recipe saved.recipeUID)).1) ∅

/-- The client after a relaunch, once the fetch of the login has completed. -/
def relaunched (user : User) (recipeContainer : Collection) : Client :=
  (recipesLoaded (serve .answered recipeContainer .getRecipes).2
    (loadUserData { currentUser := some user }).client).client

/-- The saves of one user. -/
def own (user : User) (saves : List Saved) : List Saved :=
  saves.filter fun saved => saved.user.uuid = user.uuid

/-- After a relaunch the home screen shows the last three recipes that the user saved, whatever
the fresh IDs are. -/
def RecentlySavedKept : Prop :=
  ∀ (user : User) (saves : List Saved), (saves.map Saved.recipeUID).Nodup →
    recentlySavedRecipes (relaunched user (container saves)) =
      (lastThree (own user saves)).map Saved.delivered

/-- The IDs of the last three saves are in the order of the saves, and after all others. -/
def LastThreeInOrder (saves : List Saved) : Prop :=
  SortedSuffixes.Ascending Saved.recipeUID (lastThree saves) ∧
    ∀ first ∈ saves.take (saves.length - 3), ∀ second ∈ lastThree saves,
      first.recipeUID < second.recipeUID

/-! ## What the home screen shows -/

theorem length_lastThree {α : Type} (elements : List α) :
    (lastThree elements).length = if elements.length ≤ 3 then elements.length else 3 := by
  rw [lastThree, List.length_drop]
  split <;> omega

theorem map_lastThree {α β : Type} (f : α → β) (elements : List α) :
    (lastThree elements).map f = lastThree (elements.map f) := by
  rw [lastThree, lastThree, List.map_drop, List.length_map]

/-- Every section of the home screen has its recipe. -/
theorem recentlySavedRecipes_eq (client : Client) :
    recentlySavedRecipes client = (lastThree client.savedRecipes).map Row.recipe := by
  have all {α : Type} (elements : List α) :
      (List.range elements.length).filterMap (fun index => elements[index]?) = elements := by
    induction elements with
    | nil => rfl
    | cons first rest ih =>
        rw [List.length_cons, List.range_succ_eq_map, List.filterMap_cons, List.filterMap_map]
        exact congrArg (first :: ·) ih
  have sections : numberOfSections client =
      ((lastThree client.savedRecipes).map Row.recipe).length := by
    rw [List.length_map, length_lastThree, numberOfSections]
  rw [recentlySavedRecipes, sections]
  exact all _

theorem afterSaves_savedRecipes (user : User) (saves : List Saved) :
    (afterSaves user saves).savedRecipes =
      (own user saves).map fun saved => ⟨saved.recipe, saved.recipeUID, false⟩ := by
  suffices appends : ∀ client : Client, (saves.foldl (save user) client).savedRecipes =
      client.savedRecipes ++
        (own user saves).map fun saved => ⟨saved.recipe, saved.recipeUID, false⟩ from
    appends { currentUser := some user }
  induction saves with
  | nil => exact fun client => (List.append_nil _).symm
  | cons saved rest ih =>
      intro client
      rw [List.foldl_cons, ih, save]
      by_cases mine : saved.user.uuid = user.uuid
      · have kept : own user (saved :: rest) = saved :: own user rest :=
          List.filter_cons_of_pos (decide_eq_true mine)
        rw [if_pos mine, kept, List.map_cons, addToRecipeBookButtonTapped, List.append_assoc]
        rfl
      · have dropped : own user (saved :: rest) = own user rest :=
          List.filter_cons_of_neg (by simpa using mine)
        rw [if_neg mine, dropped]

/-- Before the relaunch the home screen shows the last three recipes that the user saved. -/
theorem recentlySavedRecipes_afterSaves (user : User) (saves : List Saved) :
    recentlySavedRecipes (afterSaves user saves) =
      (lastThree (own user saves)).map Saved.recipe := by
  rw [recentlySavedRecipes_eq, afterSaves_savedRecipes, ← map_lastThree, List.map_map]
  rfl

/-! ## What the relaunch delivers -/

/-- The calls of saves, the latest first. -/
def callsOf (saves : List Saved) : List Call :=
  saves.reverse.map fun saved => .saveRecipe saved.user saved.recipe saved.recipeUID

theorem savesOf_callsOf (saves : List Saved) : savesOf (callsOf saves) = saves.reverse := by
  rw [callsOf]
  induction saves.reverse with
  | nil => rfl
  | cons saved rest ih => rw [List.map_cons, savesOf, ih]

theorem survivors_callsOf (saves : List Saved) : survivors (callsOf saves) = saves.reverse := by
  have none : RecipeBook.deletesOf (callsOf saves) = [] := by
    rw [callsOf]
    induction saves.reverse with
    | nil => rfl
    | cons saved rest ih => rw [List.map_cons, RecipeBook.deletesOf, ih]; simp
  rw [survivors, savesOf_callsOf, none]
  exact List.filter_eq_self.mpr fun saved _ => by simp

theorem history_of_saves {saves : List Saved} (fresh : (saves.map Saved.recipeUID).Nodup) :
    History (callsOf saves) (container saves) [] := by
  induction saves using List.reverseRecOn with
  | nil => exact .start
  | append_singleton before saved ih =>
      rw [List.map_append, List.map_singleton, List.nodup_append_comm, List.singleton_append,
        List.nodup_cons] at fresh
      have saves : savesOf (callsOf before) = before.reverse := savesOf_callsOf before
      rw [container, List.foldl_append, callsOf, List.reverse_append, List.map_append]
      refine .saveRecipe (ih fresh.2) saved.user saved.recipe ?_
      rw [saves, List.map_reverse, List.mem_reverse]
      exact fresh.1

/-- The ID that a recipe was written under. -/
def uidOf (recipe : Recipe) : String :=
  recipe.uid.getD ""

theorem fetch_ascending {calls : List Call} {recipeContainer : Collection}
    {delivered : List Recipe} (holds : Holds calls recipeContainer delivered) {user : User}
    {rows : List Row} (fetched : RecipeBook.fetch user recipeContainer = .ok rows) :
    SortedSuffixes.Ascending uidOf (rows.map Row.recipe) := by
  have answer : RecipeBook.fetch user recipeContainer =
      RecipeBook.UserController.fetchRecipe (some user)
        (.documents recipeContainer.getDocuments) := rfl
  rw [answer, RecipeBook.UserController.fetchRecipe] at fetched
  cases decoded : RecipeBook.UserController.decodeRecipes recipeContainer.getDocuments with
  | none => simp [decoded] at fetched
  | some all =>
      simp only [decoded, Except.ok.injEq] at fetched
      obtain ⟨-, rfl⟩ := RecipeBook.decodeRecipes_eq_some_iff.mp decoded
      subst fetched
      rw [SortedSuffixes.Ascending, List.pairwise_map]
      refine List.Pairwise.filter _ (List.pairwise_filterMap.mpr ?_)
      have ids : ∀ entry ∈ recipeContainer.getDocuments, ∀ row ∈ rowOf entry,
          uidOf row.recipe = entry.1 := by
        intro entry member row read
        obtain ⟨saved, -, rfl⟩ := List.mem_map.mp (holds.getDocuments_perm.mem_iff.mp member)
        rw [rowOf, saved.ofDocument_entry] at read
        obtain rfl := Option.some.inj read
        rfl
      refine (OrderedMaps.pairwise_toList recipeContainer).imp_of_mem ?_
      intro first second firstMember secondMember ordered row read other otherRead
      rw [ids first firstMember row read, ids second secondMember other otherRead]
      exact ordered

/-- A relaunch delivers the recipes that the user saved, in the order of their IDs. -/
theorem relaunched_savedRecipes (user : User) {saves : List Saved}
    (fresh : (saves.map Saved.recipeUID).Nodup) :
    let recipes := (relaunched user (container saves)).savedRecipes.map Row.recipe
    recipes.Perm ((own user saves).map Saved.delivered) ∧
      SortedSuffixes.Ascending uidOf recipes := by
  have holds := (history_of_saves fresh).holds
  obtain ⟨rows, fetched, delivered⟩ := holds.fetch user
  have loaded : (relaunched user (container saves)).savedRecipes = rows := by
    have answer : RecipeBook.UserController.fetchRecipe (some user)
        (serve .answered (container saves) .getRecipes).2 = .ok rows := fetched
    simp only [relaunched, recipesLoaded, loadUserData, answer]
  rw [loaded]
  refine ⟨delivered.trans ?_, fetch_ascending holds fetched⟩
  rw [survivors_callsOf, List.filter_reverse]
  exact (List.reverse_perm _).map Saved.delivered

/-- **Before a relaunch the home screen shows the last three recipes that the user saved. After
it, it does exactly when their IDs are in the order of the saves and after all others.** -/
theorem recentlySaved_kept_iff (user : User) {saves : List Saved}
    (fresh : (saves.map Saved.recipeUID).Nodup) :
    recentlySavedRecipes (afterSaves user saves) =
        (lastThree (own user saves)).map Saved.recipe ∧
      (recentlySavedRecipes (relaunched user (container saves)) =
          (lastThree (own user saves)).map Saved.delivered ↔
        LastThreeInOrder (own user saves)) := by
  refine ⟨recentlySavedRecipes_afterSaves user saves, ?_⟩
  obtain ⟨perm, ascending⟩ := relaunched_savedRecipes user fresh
  rw [recentlySavedRecipes_eq, map_lastThree, map_lastThree, lastThree, perm.length_eq, lastThree,
    SortedSuffixes.drop_eq_drop_iff perm ascending, List.length_map, ← List.map_drop,
    ← List.map_take, LastThreeInOrder, SortedSuffixes.Ascending, List.pairwise_map]
  simp only [List.forall_mem_map]
  rfl

/-! ## Two saves -/

/-- The user saves soup under an ID. -/
def savedSoup (recipeUID : String) : Saved where
  user := RecipeBook.ann
  recipe := RecipeBook.soup
  recipeUID := recipeUID

/-- The user saves bread under an ID. -/
def savedBread (recipeUID : String) : Saved where
  user := RecipeBook.ann
  recipe := { RecipeBook.soup with label := "Bread", ingredients := ["flour", "water"] }
  recipeUID := recipeUID

/-- Under ascending IDs the recipes are shown in the order of their saves. -/
theorem recentlySaved_kept_ascending :
    recentlySavedRecipes
        (relaunched RecipeBook.ann (container [savedSoup "R1", savedBread "R2"])) =
      [(savedSoup "R1").delivered, (savedBread "R2").delivered] := by
  have inOrder : LastThreeInOrder (own RecipeBook.ann [savedSoup "R1", savedBread "R2"]) :=
    ⟨.cons (by decide) (List.pairwise_singleton _ _), by decide⟩
  exact (recentlySaved_kept_iff RecipeBook.ann (by decide)).2.mpr inOrder

/-- **Under descending IDs they are shown the other way round.** -/
theorem descending_ids_reorder : ¬ RecentlySavedKept := by
  intro kept
  have shown := kept RecipeBook.ann [savedSoup "R2", savedBread "R1"] (by decide)
  exact absurd shown (by decide)

end MyMealPrep.Home.RecentlySaved
