import MyMealPrep.Machines.Following
import MyMealPrep.RecipeBook.History

/-!
# Recipes added during a fetch

A fetch empties the book when it starts and replaces it when it ends, whatever the
user has added in between. So a recipe added stays in the book exactly as long as
no other fetch is started and every snapshot delivered lists it
(`inBook_step_iff`).
-/

set_option autoImplicit false

namespace MyMealPrep.RecipeBook

open Firestore (Document Snapshot)
open RequestReply (Program)

variable {texts : TextEquality}

/-! ## What is in the book -/

/-- Some row of the book has the content of the recipe, as `==` compares it. -/
def InBook (texts : TextEquality) (client : Client) (recipe : Recipe) : Prop :=
  ∃ saved ∈ client.savedRecipes, saved.recipe.comparedContent texts = recipe.comparedContent texts

/-- The row has the content of the recipe, and no other row of the book has. -/
def OnlyRow (texts : TextEquality) (client : Client) (recipe : Recipe) (row : Nat) : Prop :=
  ∀ (other : Nat) (saved : Row), client.savedRecipes[other]? = some saved →
    (saved.recipe.comparedContent texts = recipe.comparedContent texts ↔ other = row)

/-- The client swipes the only row with the content of the recipe. -/
def DeletesRecipe (texts : TextEquality) (client : Nat) (recipe : Recipe) (s : State) : Label → Prop
  | .act actor (.commitDelete row) => actor = client ∧ OnlyRow texts (s.clients client) recipe row
  | _ => False

/-! ## What a fetch does to it -/

/-- Every document of the snapshot is a recipe. -/
def AllRecipes (snapshot : Snapshot) : Prop :=
  ∀ entry ∈ snapshot, (Recipe.ofDocument entry.2).isSome = true

/-- The snapshot lists a recipe of the user with the same content. -/
def ListsRecipe (texts : TextEquality) (currentUser : Option User) (recipe : Recipe)
    (snapshot : Snapshot) : Prop :=
  ∃ entry ∈ snapshot, ∃ listed, Recipe.ofDocument entry.2 = some listed ∧
    listed.authorID = currentUser.map User.uuid ∧
      listed.comparedContent texts = recipe.comparedContent texts

instance (currentUser : Option User) (recipe : Recipe) (snapshot : Snapshot) :
    Decidable (ListsRecipe texts currentUser recipe snapshot) :=
  inferInstanceAs (Decidable (∃ entry ∈ snapshot, ∃ listed ∈ Recipe.ofDocument entry.2,
    listed.authorID = currentUser.map User.uuid ∧
      listed.comparedContent texts = recipe.comparedContent texts))

/-- The client starts no fetch, and a fetch of it that delivers recipes delivers this one. -/
def RecipeSpared (texts : TextEquality) (client : Nat) (recipe : Recipe) (s : State) : Label → Prop
  | .act actor .loadUserData => actor ≠ client
  | .deliver index _ => ∀ task ∈ s.tasks[index]?, task.client = client →
      task.continuation = .recipesLoaded →
      ∀ snapshot, task.reply = some (.documents snapshot) → AllRecipes snapshot →
        ListsRecipe texts (s.clients client).currentUser recipe snapshot
  | _ => True

/-- The documents of a reply. -/
def Reply.snapshot : Reply → Option Snapshot
  | .documents snapshot => some snapshot
  | _ => none

/-- A delivery spares a recipe that its snapshot lists. -/
theorem recipeSpared_of_lists {s : State} {client index : Nat} {recipe : Recipe} {input : Input}
    {task : Task} {reply : Reply} {snapshot : Snapshot} (inFlight : s.tasks[index]? = some task)
    (answered : task.reply = some reply) (documents : reply.snapshot = some snapshot)
    (lists : ListsRecipe texts (s.clients client).currentUser recipe snapshot) :
    RecipeSpared texts client recipe s (.deliver index input) := by
  intro other found _ _ delivered replied _
  obtain rfl := Option.some.inj (inFlight.symm.trans found)
  obtain rfl := Option.some.inj (answered.symm.trans replied)
  obtain rfl := Option.some.inj documents
  exact lists

theorem fetchRecipe_documents (currentUser : Option User) (snapshot : Snapshot) :
    (∃ rows, UserController.fetchRecipe currentUser (.documents snapshot) = .ok rows ∧
      AllRecipes snapshot ∧ ∀ recipe : Recipe,
        (∃ row ∈ rows, row.recipe.comparedContent texts = recipe.comparedContent texts) ↔
          ListsRecipe texts currentUser recipe snapshot) ∨
    (∃ recipeError, UserController.fetchRecipe currentUser (.documents snapshot) =
      .error recipeError) ∧ ¬ AllRecipes snapshot := by
  rw [UserController.fetchRecipe]
  cases decoded : UserController.decodeRecipes snapshot with
  | none =>
      refine .inr ⟨⟨_, rfl⟩, fun all => ?_⟩
      rw [decodeRecipes_eq_some_iff.mpr ⟨all, rfl⟩] at decoded
      cases decoded
  | some rows =>
      obtain ⟨all, rfl⟩ := decodeRecipes_eq_some_iff.mp decoded
      refine .inl ⟨_, rfl, all, fun recipe => ⟨?_, ?_⟩⟩
      · rintro ⟨row, member, same⟩
        obtain ⟨listed, own⟩ := List.mem_filter.mp member
        obtain ⟨entry, entryMember, made⟩ := List.mem_filterMap.mp listed
        obtain ⟨other, read, rfl⟩ := Option.map_eq_some_iff.mp made
        exact ⟨entry, entryMember, other, read, beq_iff_eq.mp own, same⟩
      · rintro ⟨entry, entryMember, other, read, own, same⟩
        have made : rowOf entry = some ⟨other, entry.1, true⟩ := by
          rw [rowOf, read, Option.map_some]
        exact ⟨_, List.mem_filter.mpr
          ⟨List.mem_filterMap.mpr ⟨entry, entryMember, made⟩, beq_iff_eq.mpr own⟩, same⟩

/-! ## Steps -/

/-- The callback of a fetch keeps a recipe in the book exactly when its snapshot lists it, or is
not delivered. -/
theorem inBook_recipesLoaded {client : Client} {recipe : Recipe}
    (inBook : InBook texts client recipe) (reply : Reply) :
    InBook texts (recipesLoaded reply client).client recipe ↔
      ∀ snapshot, reply = .documents snapshot → AllRecipes snapshot →
        ListsRecipe texts client.currentUser recipe snapshot := by
  cases reply with
  | documents snapshot =>
      rw [recipesLoaded]
      rcases fetchRecipe_documents client.currentUser snapshot with
        ⟨rows, delivered, all, listed⟩ | ⟨⟨recipeError, failed⟩, notAll⟩
      · rw [delivered]
        constructor
        · rintro member _ ⟨⟩ -
          exact (listed recipe).mp member
        · exact fun lists => (listed recipe).mpr (lists snapshot rfl all)
      · rw [failed]
        refine ⟨?_, fun _ => inBook⟩
        rintro _ _ ⟨⟩ all
        exact absurd all notAll
  | _ => exact ⟨fun _ snapshot answered => (by cases answered), fun _ => inBook⟩

/-- When the first row equal to the one swiped goes, a row with the recipe remains: the row swiped,
when an equal one before it goes, or another one. -/
theorem exists_remaining_row {client : Client} {recipe : Recipe} {row index : Nat}
    {saved first : Row} (inBook : InBook texts client recipe)
    (notOnly : ¬ OnlyRow texts client recipe row)
    (swiped : client.savedRecipes[row]? = some saved)
    (erased : client.savedRecipes[index]? = some first)
    (equal : first.recipe.compared texts = saved.recipe.compared texts) :
    ∃ other kept, other ≠ index ∧ client.savedRecipes[other]? = some kept ∧
      kept.recipe.comparedContent texts = recipe.comparedContent texts := by
  by_cases swipesIt : saved.recipe.comparedContent texts = recipe.comparedContent texts
  · by_cases here : index = row
    · simp only [OnlyRow, not_forall] at notOnly
      obtain ⟨other, kept, found, differs⟩ := notOnly
      by_cases same : other = row
      · subst same
        obtain rfl := Option.some.inj (swiped.symm.trans found)
        exact absurd (iff_of_true swipesIt rfl) differs
      · have content : kept.recipe.comparedContent texts = recipe.comparedContent texts := by
          by_contra unlike
          exact differs (iff_of_false unlike same)
        exact ⟨other, kept, here ▸ same, found, content⟩
    · exact ⟨row, saved, Ne.symm here, swiped, swipesIt⟩
  · obtain ⟨kept, member, content⟩ := inBook
    obtain ⟨other, found⟩ := List.mem_iff_getElem?.mp member
    refine ⟨other, kept, ?_, found, content⟩
    rintro rfl
    obtain rfl := Option.some.inj (erased.symm.trans found)
    exact swipesIt ((Recipe.comparedContent_congr equal).symm.trans content)

/-- A swipe keeps a recipe in the book, unless its row is the only one with the recipe. -/
theorem inBook_commitDelete {client : Client} {recipe : Recipe} {row : Nat} {effect : Effect}
    (inBook : InBook texts client recipe) (swiped : commitDelete texts row client = some effect)
    (notOnly : ¬ OnlyRow texts client recipe row) : InBook texts effect.client recipe := by
  rw [commitDelete] at swiped
  split at swiped
  · cases swiped
  · rename_i saved listed
    rw [deleteRecipe] at swiped
    split at swiped
    · obtain rfl := Option.some.inj swiped
      exact inBook
    · rename_i index first
      obtain ⟨inRange, equal, -⟩ := List.findIdx?_eq_some_iff_getElem.mp first
      obtain ⟨other, kept, different, found, content⟩ := exists_remaining_row inBook notOnly listed
        (List.getElem?_eq_getElem inRange) (of_decide_eq_true equal)
      cases deletes : UserController.deleteRecipe saved.recipe with
      | none => simp [deletes] at swiped
      | some request =>
          simp only [deletes, Option.some.injEq] at swiped
          subst swiped
          exact ⟨kept, List.mem_eraseIdx_iff_getElem?.mpr ⟨other, different, found⟩, content⟩

/-- An action that deletes no recipe keeps a recipe in the book unless it starts a fetch. -/
theorem inBook_handle_iff {client : Client} {recipe : Recipe} {action : Action} {effect : Effect}
    (inBook : InBook texts client recipe) (handled : handle texts action client = some effect)
    (notOnly : ∀ row, action = .commitDelete row → ¬ OnlyRow texts client recipe row) :
    InBook texts effect.client recipe ↔ action ≠ .loadUserData := by
  cases action with
  | loadUserData =>
      obtain rfl := Option.some.inj handled
      refine iff_of_false ?_ (absurd rfl)
      rintro ⟨saved, member, -⟩
      cases member
  | searchBarSearchButtonClicked searchTerm =>
      obtain rfl := Option.some.inj handled
      refine iff_of_true ?_ Action.noConfusion
      rw [searchBarSearchButtonClicked]
      split <;> exact inBook
  | didSelectRowAt row =>
      refine iff_of_true ?_ Action.noConfusion
      rw [handle, didSelectRowAt] at handled
      split at handled
      · cases handled
      · obtain rfl := Option.some.inj handled
        exact inBook
  | addToRecipeBookButtonTapped recipeUID =>
      obtain rfl := Option.some.inj handled
      refine iff_of_true ?_ Action.noConfusion
      rw [addToRecipeBookButtonTapped]
      split
      · exact inBook
      · obtain ⟨saved, member, content⟩ := inBook
        exact ⟨saved, List.mem_append_left _ member, content⟩
  | commitDelete row =>
      exact iff_of_true (inBook_commitDelete inBook handled (notOnly row rfl)) Action.noConfusion

/-- A callback keeps a recipe in the book unless it delivers a snapshot that does not list it. -/
theorem inBook_resume_iff {client : Client} {recipe : Recipe} (inBook : InBook texts client recipe)
    (continuation : Continuation) (reply : Reply) (input : Input) :
    InBook texts (resume continuation reply input client).client recipe ↔
      (continuation = .recipesLoaded → ∀ snapshot, reply = .documents snapshot →
        AllRecipes snapshot → ListsRecipe texts client.currentUser recipe snapshot) := by
  cases continuation with
  | recipesLoaded =>
      rw [resume, inBook_recipesLoaded inBook]
      exact ⟨fun lists _ => lists, fun lists => lists rfl⟩
  | searched =>
      refine iff_of_true ?_ (fun other => by cases other)
      cases reply with
      | data json =>
          simp only [resume, searched]
          split <;> exact inBook
      | _ => exact inBook
  | recipeSaved => exact iff_of_true inBook (fun other => by cases other)
  | recipeDeleted => exact iff_of_true inBook (fun other => by cases other)

/-- **One step that deletes no recipe keeps a recipe in the book exactly when it spares it.** -/
theorem inBook_step_iff {s s' : State} {label : Label} {output : Output} {client : Nat}
    {recipe : Recipe} (inBook : InBook texts (s.clients client) recipe)
    (stepped : (program texts).StepCase s label output s')
    (notDeleted : ¬ DeletesRecipe texts client recipe s label) :
    InBook texts (s'.clients client) recipe ↔ RecipeSpared texts client recipe s label := by
  cases stepped with
  | @act actor action effect handled =>
      by_cases same : actor = client
      · subst same
        have notOnly : ∀ row, action = .commitDelete row →
            ¬ OnlyRow texts (s.clients actor) recipe row := by
          rintro row rfl only
          exact notDeleted ⟨rfl, only⟩
        rw [RequestReply.State.commit_clients_self, inBook_handle_iff inBook handled notOnly]
        cases action <;> simp [RecipeSpared]
      · rw [RequestReply.State.commit_clients_of_ne s _ _ (Ne.symm same)]
        refine iff_of_true inBook ?_
        cases action with
        | loadUserData => exact same
        | _ => trivial
  | serve inFlight waiting => exact iff_of_true inBook trivial
  | @deliver index input task reply effect inFlight answered resumed =>
      obtain rfl := Option.some.inj resumed
      have spared : RecipeSpared texts client recipe s (.deliver index input) ↔
          (task.client = client → task.continuation = .recipesLoaded → ∀ snapshot,
            reply = .documents snapshot → AllRecipes snapshot →
              ListsRecipe texts (s.clients client).currentUser recipe snapshot) := by
        simp [RecipeSpared, inFlight, answered]
      rw [spared]
      by_cases same : task.client = client
      · subst same
        rw [RequestReply.State.commit_clients_self, forall_prop_of_true rfl]
        exact inBook_resume_iff inBook task.continuation reply input
      · rw [RequestReply.State.commit_clients_of_ne s _ _ (Ne.symm same)]
        exact iff_of_true inBook fun other => absurd other same

/-! ## Runs -/

/-- A recipe added while a fetch of its client is in flight is in the book once the callback of
the fetch has run, when the steps in between are allowed and none of them deletes it. -/
def KeepsAddedRecipes (texts : TextEquality) (allowed : Nat → Recipe → State → Label → Prop)
    (s₀ : State) : Prop :=
  ∀ trace s index task recipeUID recipe output added later s' index' input output' s'',
    (program texts).Run Program.anyStep s₀ trace s → s.tasks[index]? = some task →
    task.continuation = .recipesLoaded → (s.clients task.client).selected = some recipe →
    (program texts).step s (.act task.client (.addToRecipeBookButtonTapped recipeUID)) =
      some (output, added) →
    (program texts).Awaits (fun _ s label => allowed task.client recipe s label ∧
      ¬ DeletesRecipe texts task.client recipe s label) [] added index later s' index' →
    allowed task.client recipe s' (.deliver index' input) →
    (program texts).step s' (.deliver index' input) = some (output', s'') →
    InBook texts (s''.clients task.client) recipe

theorem inBook_added {s added : State} {client : Nat} {recipeUID : String} {recipe : Recipe}
    {output : Output} (selected : (s.clients client).selected = some recipe)
    (step : (program texts).step s (.act client (.addToRecipeBookButtonTapped recipeUID)) =
      some (output, added)) : InBook texts (added.clients client) recipe := by
  cases Program.stepCase_of_step step with
  | act handled =>
      obtain rfl := Option.some.inj handled
      rw [RequestReply.State.commit_clients_self, addToRecipeBookButtonTapped, selected]
      exact ⟨_, List.mem_append_right _ (List.mem_singleton_self _), rfl⟩

theorem keepsAddedRecipes (s₀ : State) :
    KeepsAddedRecipes texts (RecipeSpared texts) s₀ := by
  intro trace s index task recipeUID recipe output added later s' index' input output' s''
    _ _ _ selected step awaits spared delivered
  have inBook : InBook texts (s'.clients task.client) recipe := by
    refine awaits.invariant (I := fun s => InBook texts (s.clients task.client) recipe)
      (inBook_added selected step) ?_
    rintro trace s label output s' inBook ⟨spared, notDeleted⟩ stepped
    exact (inBook_step_iff inBook stepped notDeleted).mpr spared
  exact (inBook_step_iff inBook (Program.stepCase_of_step delivered) id).mpr spared

end MyMealPrep.RecipeBook
