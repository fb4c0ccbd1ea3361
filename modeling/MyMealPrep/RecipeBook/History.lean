import Mathlib.Data.List.Perm.Lattice
import MyMealPrep.RecipeBook.System

/-!
# What a user gets back

Histories of acknowledged calls: any number of users save recipes, fetch their
recipes and delete recipes that a fetch has delivered. The abstract side of a
history is the list of saves and the list of the IDs deleted; what survives are
the saves whose ID was not deleted.

The container holds exactly the dictionaries of the survivors (`Holds`), and so a
fetch delivers the survivors of its user (`fetchRecipe_delivers_survivors`).
-/

set_option autoImplicit false

namespace MyMealPrep.RecipeBook

open Firestore (Collection Document Snapshot Value)

/-! ## Calls and histories -/

/-- A call that has been acknowledged. -/
inductive Call where
  | saveRecipe (user : User) (recipe : Recipe) (recipeUID : String)
  | fetchRecipe (user : User)
  | deleteRecipe (recipe : Recipe)

/-- A recipe saved by a user under an ID. -/
structure Saved where
  user : User
  recipe : Recipe
  recipeUID : String
deriving DecidableEq

namespace Saved

/-- The recipe that is delivered for it. -/
def delivered (saved : Saved) : Recipe :=
  saved.recipe.written saved.recipeUID (some saved.user.uuid)

/-- The entry of the container for it. -/
def entry (saved : Saved) : String × Document :=
  (saved.recipeUID,
    Value.storedFields (saved.recipe.dictionary saved.recipeUID (some saved.user.uuid)))

theorem ofDocument_entry (saved : Saved) :
    Recipe.ofDocument saved.entry.2 = some saved.delivered :=
  Recipe.ofDocument_dictionary _ _ _

end Saved

/-- The recipes saved, the latest first. -/
def savesOf : List Call → List Saved
  | [] => []
  | .saveRecipe user recipe recipeUID :: earlier => ⟨user, recipe, recipeUID⟩ :: savesOf earlier
  | _ :: earlier => savesOf earlier

/-- The IDs deleted. -/
def deletesOf : List Call → List String
  | [] => []
  | .deleteRecipe recipe :: earlier => recipe.uid.toList ++ deletesOf earlier
  | _ :: earlier => deletesOf earlier

/-- The saves that nobody has deleted. -/
def survivors (calls : List Call) : List Saved :=
  (savesOf calls).filter fun saved => saved.recipeUID ∉ deletesOf calls

/-- What a user's fetch gets from a container. -/
def fetch (user : User) (recipeContainer : Collection) : Except RecipeError (List Row) :=
  UserController.fetchRecipe (some user) (serve .answered recipeContainer .getRecipes).2

/-- The acknowledged calls, the latest first, with the container and the recipes
delivered so far. IDs are fresh, and a recipe deleted has the `uid` of one delivered; its check
mark and its date may have changed since. -/
inductive History : List Call → Collection → List Recipe → Prop where
  | start : History [] ∅ []
  | saveRecipe {calls : List Call} {recipeContainer : Collection} {delivered : List Recipe}
      (before : History calls recipeContainer delivered) (user : User) (recipe : Recipe)
      {recipeUID : String} (fresh : recipeUID ∉ (savesOf calls).map Saved.recipeUID) :
      History (.saveRecipe user recipe recipeUID :: calls)
        (serve .answered recipeContainer (UserController.saveRecipe (some user) recipe recipeUID)).1
        delivered
  | fetchRecipe {calls : List Call} {recipeContainer : Collection} {delivered : List Recipe}
      (before : History calls recipeContainer delivered) (user : User) {rows : List Row}
      (fetched : fetch user recipeContainer = .ok rows) :
      History (.fetchRecipe user :: calls) recipeContainer (delivered ++ rows.map Row.recipe)
  | deleteRecipe {calls : List Call} {recipeContainer : Collection} {delivered : List Recipe}
      {recipe : Recipe} {request : Request} (before : History calls recipeContainer delivered)
      (fetched : recipe.uid ∈ delivered.map Recipe.uid)
      (deleted : UserController.deleteRecipe recipe = some request) :
      History (.deleteRecipe recipe :: calls) (serve .answered recipeContainer request).1 delivered

/-! ## The container holds the survivors -/

/-- The container, the IDs and the recipes delivered belong to the calls. -/
structure Holds (calls : List Call) (recipeContainer : Collection) (delivered : List Recipe) :
    Prop where
  distinct : ((savesOf calls).map Saved.recipeUID).Nodup
  entries : ∀ id document, recipeContainer[id]? = some document ↔
    ∃ saved ∈ survivors calls, saved.entry = (id, document)
  uids : ∀ recipe ∈ delivered, ∃ saved ∈ savesOf calls, recipe.uid = some saved.recipeUID
  deletes : ∀ id ∈ deletesOf calls, id ∈ (savesOf calls).map Saved.recipeUID

theorem mem_survivors {calls : List Call} {saved : Saved} :
    saved ∈ survivors calls ↔ saved ∈ savesOf calls ∧ saved.recipeUID ∉ deletesOf calls := by
  simp [survivors]

/-- The snapshot of a container lists the survivors. -/
theorem Holds.getDocuments_perm {calls : List Call} {recipeContainer : Collection}
    {delivered : List Recipe} (holds : Holds calls recipeContainer delivered) :
    recipeContainer.getDocuments.Perm ((survivors calls).map Saved.entry) := by
  have distinctSurvivors : ((survivors calls).map Saved.entry).Nodup := by
    have ids : ((survivors calls).map Saved.recipeUID).Nodup :=
      holds.distinct.sublist (List.filter_sublist.map Saved.recipeUID)
    refine List.Nodup.of_map Prod.fst ?_
    rw [List.map_map]
    exact ids
  refine (List.perm_ext_iff_of_nodup (OrderedMaps.nodup_toList _) distinctSurvivors).mpr ?_
  rintro ⟨id, document⟩
  rw [List.mem_map, OrderedMaps.mem_toList]
  exact holds.entries id document

/-- The row that an entry of the container is decoded to. -/
def rowOf (entry : String × Document) : Option Row :=
  (Recipe.ofDocument entry.2).map fun recipe => ⟨recipe, entry.1, true⟩

theorem decodeRecipes_cons (entry : String × Document) (rest : Snapshot) :
    UserController.decodeRecipes (entry :: rest) =
      (Recipe.ofDocument entry.2).bind fun recipe =>
        (UserController.decodeRecipes rest).map (⟨recipe, entry.1, true⟩ :: ·) := by
  rw [UserController.decodeRecipes, List.mapM_cons]
  cases Recipe.ofDocument entry.2 with
  | none => rfl
  | some recipe =>
      rw [← UserController.decodeRecipes]
      cases UserController.decodeRecipes rest <;> rfl

/-- A snapshot whose documents are all recipes is decoded as a whole, and no other one is. -/
theorem decodeRecipes_eq_some_iff {snapshot : Snapshot} {rows : List Row} :
    UserController.decodeRecipes snapshot = some rows ↔
      (∀ entry ∈ snapshot, (Recipe.ofDocument entry.2).isSome = true) ∧
        snapshot.filterMap rowOf = rows := by
  induction snapshot generalizing rows with
  | nil => simp [UserController.decodeRecipes]
  | cons first rest ih =>
      rw [decodeRecipes_cons, List.forall_mem_cons, List.filterMap_cons, rowOf]
      cases read : Recipe.ofDocument first.2 with
      | none => simp
      | some recipe =>
          simp only [Option.bind_some, Option.map_eq_some_iff, ih, Option.isSome_some, true_and,
            Option.map_some]
          constructor
          · rintro ⟨others, ⟨all, rfl⟩, rfl⟩
            exact ⟨all, rfl⟩
          · rintro ⟨all, rfl⟩
            exact ⟨_, ⟨all, rfl⟩, rfl⟩

/-- A container that holds the survivors delivers those of the user. -/
theorem Holds.fetch {calls : List Call} {recipeContainer : Collection} {delivered : List Recipe}
    (holds : Holds calls recipeContainer delivered) (user : User) :
    ∃ rows, fetch user recipeContainer = .ok rows ∧
      (rows.map Row.recipe).Perm
        (((survivors calls).filter fun saved => saved.user.uuid = user.uuid).map
          Saved.delivered) := by
  have listed := holds.getDocuments_perm
  have decoded : UserController.decodeRecipes recipeContainer.getDocuments =
      some (recipeContainer.getDocuments.filterMap rowOf) := by
    refine decodeRecipes_eq_some_iff.mpr ⟨fun entry member => ?_, rfl⟩
    obtain ⟨saved, _, rfl⟩ := List.mem_map.mp (listed.mem_iff.mp member)
    rw [saved.ofDocument_entry]
    rfl
  have rows : (recipeContainer.getDocuments.filterMap rowOf).Perm
      ((survivors calls).map fun saved => ⟨saved.delivered, saved.recipeUID, true⟩) := by
    refine (listed.filterMap rowOf).trans (List.Perm.of_eq ?_)
    rw [List.filterMap_map]
    refine List.filterMap_eq_map_iff_forall_eq_some.mpr fun saved _ => ?_
    rw [Function.comp_apply, rowOf, saved.ofDocument_entry]
    rfl
  have answer : (serve .answered recipeContainer .getRecipes).2 =
      .documents recipeContainer.getDocuments := rfl
  refine ⟨_, by rw [RecipeBook.fetch, answer, UserController.fetchRecipe, decoded], ?_⟩
  refine ((rows.filter _).map Row.recipe).trans (List.Perm.of_eq ?_)
  rw [List.filter_map, List.map_map]
  refine congrArg₂ List.map rfl (List.filter_congr fun saved _ => ?_)
  rw [Bool.eq_iff_iff]
  simp [Saved.delivered, Recipe.written]

/-! ## Calls keep the container -/

theorem holds_start : Holds [] ∅ [] where
  distinct := List.nodup_nil
  entries := by simp [survivors, savesOf]
  uids := by simp
  deletes := by simp [deletesOf]

theorem Holds.saveRecipe {calls : List Call} {recipeContainer : Collection}
    {delivered : List Recipe} (holds : Holds calls recipeContainer delivered) (user : User)
    (recipe : Recipe) {recipeUID : String}
    (fresh : recipeUID ∉ (savesOf calls).map Saved.recipeUID) :
    Holds (.saveRecipe user recipe recipeUID :: calls)
      (serve .answered recipeContainer (UserController.saveRecipe (some user) recipe recipeUID)).1
      delivered := by
  let saved : Saved := ⟨user, recipe, recipeUID⟩
  have undeleted : recipeUID ∉ deletesOf calls := fun deleted => fresh (holds.deletes _ deleted)
  have stillSurvives : survivors (.saveRecipe user recipe recipeUID :: calls) =
      saved :: survivors calls := by
    have passes : decide (saved.recipeUID ∉ deletesOf calls) = true := decide_eq_true undeleted
    exact List.filter_cons_of_pos passes
  refine ⟨?_, ?_, ?_, ?_⟩
  · exact List.nodup_cons.mpr ⟨fresh, holds.distinct⟩
  · intro id document
    have get : (serve .answered recipeContainer
        (UserController.saveRecipe (some user) recipe recipeUID)).1[id]? =
          if recipeUID = id then some saved.entry.2 else recipeContainer[id]? :=
      Collection.setData_get _ _ _ _
    rw [get, stillSurvives, List.exists_mem_cons_iff]
    by_cases same : recipeUID = id
    · subst same
      have others : ¬ ∃ other ∈ survivors calls, other.entry = (recipeUID, document) := by
        rintro ⟨other, member, entry⟩
        refine fresh (List.mem_map.mpr ⟨other, (mem_survivors.mp member).1, ?_⟩)
        exact congrArg Prod.fst entry
      rw [if_pos rfl, or_iff_left others, Option.some.injEq]
      simp [Saved.entry, saved]
    · rw [if_neg same, holds.entries]
      simp [Saved.entry, saved, same]
  · intro other member
    obtain ⟨first, known, uid⟩ := holds.uids other member
    exact ⟨first, List.mem_cons_of_mem _ known, uid⟩
  · exact fun id deleted => List.mem_cons_of_mem _ (holds.deletes id deleted)

theorem Holds.fetchRecipe {calls : List Call} {recipeContainer : Collection}
    {delivered : List Recipe} (holds : Holds calls recipeContainer delivered) (user : User)
    {rows : List Row} (fetched : RecipeBook.fetch user recipeContainer = .ok rows) :
    Holds (.fetchRecipe user :: calls) recipeContainer (delivered ++ rows.map Row.recipe) := by
  refine ⟨holds.distinct, holds.entries, ?_, holds.deletes⟩
  intro recipe member
  rcases List.mem_append.mp member with old | new
  · exact holds.uids recipe old
  · obtain ⟨rows', fetched', listed⟩ := holds.fetch user
    obtain rfl : rows' = rows := Except.ok.inj (fetched'.symm.trans fetched)
    obtain ⟨saved, survives, rfl⟩ := List.mem_map.mp (listed.mem_iff.mp new)
    exact ⟨saved, (mem_survivors.mp (List.mem_of_mem_filter survives)).1, rfl⟩

/-- A recipe with the `uid` of one delivered was saved under it. -/
theorem Holds.saved_of_fetched {calls : List Call} {recipeContainer : Collection}
    {delivered : List Recipe} {recipe : Recipe} (holds : Holds calls recipeContainer delivered)
    (fetched : recipe.uid ∈ delivered.map Recipe.uid) :
    ∃ saved ∈ savesOf calls, recipe.uid = some saved.recipeUID := by
  obtain ⟨other, member, same⟩ := List.mem_map.mp fetched
  rw [← same]
  exact holds.uids other member

theorem Holds.deleteRecipe {calls : List Call} {recipeContainer : Collection}
    {delivered : List Recipe} {recipe : Recipe} {request : Request}
    (holds : Holds calls recipeContainer delivered)
    (fetched : recipe.uid ∈ delivered.map Recipe.uid)
    (deleted : UserController.deleteRecipe recipe = some request) :
    Holds (.deleteRecipe recipe :: calls) (serve .answered recipeContainer request).1
      delivered := by
  obtain ⟨known, knownSaved, uid⟩ := holds.saved_of_fetched fetched
  obtain rfl : request = .deleteRecipe known.recipeUID := by
    simpa [UserController.deleteRecipe, uid, eq_comm] using deleted
  have deletes : deletesOf (.deleteRecipe recipe :: calls) =
      known.recipeUID :: deletesOf calls := by
    simp [deletesOf, uid]
  have nowSurvives : ∀ saved, saved ∈ survivors (.deleteRecipe recipe :: calls) ↔
      saved ∈ survivors calls ∧ saved.recipeUID ≠ known.recipeUID := by
    intro saved
    have sameSaves : savesOf (.deleteRecipe recipe :: calls) = savesOf calls := rfl
    rw [mem_survivors, mem_survivors, deletes, sameSaves, List.mem_cons, not_or]
    exact ⟨fun ⟨known, different, kept⟩ => ⟨⟨known, kept⟩, different⟩,
      fun ⟨⟨known, kept⟩, different⟩ => ⟨known, different, kept⟩⟩
  refine ⟨holds.distinct, ?_, holds.uids, ?_⟩
  · intro id document
    have get : (serve .answered recipeContainer (.deleteRecipe known.recipeUID)).1[id]? =
        if known.recipeUID = id then none else recipeContainer[id]? :=
      Collection.delete_get _ _ _
    simp only [get, nowSurvives]
    by_cases same : known.recipeUID = id
    · subst same
      simp only [if_true, reduceCtorEq, false_iff, not_exists, not_and]
      rintro saved ⟨_, different⟩ entry
      exact different (congrArg Prod.fst entry)
    · rw [if_neg same, holds.entries]
      constructor
      · rintro ⟨saved, survives, entry⟩
        exact ⟨saved, ⟨survives, fun equal => same (equal.symm.trans (congrArg Prod.fst entry))⟩,
          entry⟩
      · rintro ⟨saved, ⟨survives, _⟩, entry⟩
        exact ⟨saved, survives, entry⟩
  · rw [deletes]
    intro id deletedID
    rcases List.mem_cons.mp deletedID with rfl | earlier
    · exact List.mem_map.mpr ⟨known, knownSaved, rfl⟩
    · exact holds.deletes id earlier

/-- The container holds the survivors after every history. -/
theorem History.holds {calls : List Call} {recipeContainer : Collection} {delivered : List Recipe}
    (history : History calls recipeContainer delivered) :
    Holds calls recipeContainer delivered := by
  induction history with
  | start => exact holds_start
  | saveRecipe _ user recipe fresh ih => exact ih.saveRecipe user recipe fresh
  | fetchRecipe _ user fetched ih => exact ih.fetchRecipe user fetched
  | deleteRecipe _ fetched deleted ih => exact ih.deleteRecipe fetched deleted

/-- Deleting a fetched recipe does not trap: it issues the request for the document saved under
its `uid`. -/
theorem History.exists_request {calls : List Call} {recipeContainer : Collection}
    {delivered : List Recipe} {recipe : Recipe}
    (history : History calls recipeContainer delivered)
    (fetched : recipe.uid ∈ delivered.map Recipe.uid) :
    ∃ saved ∈ savesOf calls,
      UserController.deleteRecipe recipe = some (.deleteRecipe saved.recipeUID) := by
  obtain ⟨saved, known, uid⟩ := history.holds.saved_of_fetched fetched
  exact ⟨saved, known, by rw [UserController.deleteRecipe, uid, Option.map_some]⟩

/-! ## The result -/

/-- **A user gets back exactly the recipes that it saved and nobody has deleted**, one
for each surviving document, each with its ID and its author. -/
theorem fetchRecipe_delivers_survivors {calls : List Call} {recipeContainer : Collection}
    {delivered : List Recipe} (history : History calls recipeContainer delivered) (user : User) :
    ∃ rows, fetch user recipeContainer = .ok rows ∧
      (rows.map Row.recipe).Perm
        (((survivors calls).filter fun saved => saved.user.uuid = user.uuid).map
          Saved.delivered) :=
  history.holds.fetch user

/-- The users of the history below. -/
def ann : User := ⟨"ann@mail.com", "secret", "A"⟩

def bob : User := ⟨"bob@mail.com", "private", "B"⟩

/-- A recipe as a search answers it. -/
def soup : Recipe where
  label := "Soup"
  image := none
  directions := "soup.html"
  ingredients := ["water", "salt"]
  yield := 2
  totalTime := 30
  uid := none
  isChecked := false
  dateToEat := ⟨0⟩
  authorID := none

/-- Two users save, one deletes what it fetched: the other's recipe is delivered. -/
theorem fetchRecipe_delivers_survivors_ann :
    ∃ recipeContainer rows, fetch ann recipeContainer = .ok rows ∧
      rows.map Row.recipe = [soup.written "R1" (some "A")] := by
  have first : History [.saveRecipe ann soup "R1"] _ _ := .saveRecipe .start ann soup (by decide)
  have second : History (.saveRecipe bob soup "R2" :: _) _ _ :=
    .saveRecipe first bob soup (by decide)
  have fetched := History.fetchRecipe second bob
    (show fetch bob _ = .ok [⟨soup.written "R2" (some "B"), "R2", true⟩] from rfl)
  have deleted : History (.deleteRecipe (soup.written "R2" (some "B")) :: _) _ _ :=
    .deleteRecipe fetched (by decide) rfl
  obtain ⟨rows, delivered, listed⟩ := fetchRecipe_delivers_survivors deleted ann
  refine ⟨_, rows, delivered, ?_⟩
  exact List.perm_singleton.mp listed

end MyMealPrep.RecipeBook
