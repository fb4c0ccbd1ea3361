import MyMealPrep.Machines.Origins
import MyMealPrep.RecipeBook.UserSwitches

/-!
# Where the recipes come from

Recipes come in with the answers of searches, those of the search screen and the one that
the home screen takes a random recipe from. From then on they are copied: from the results
to the detail screen, into the book, into a document, back into the book of whoever fetches
it. On the way a recipe gets an ID and an author, and an empty image where it had none.

Nothing else happens to it. Whatever clients do, whichever users sign in and however the
replies overlap, every recipe of a book and of the recipe container has the content of one
that a search has answered, or of a document that was there from the start
(`recipes_have_origins`).
-/

set_option autoImplicit false

namespace MyMealPrep.RecipeBook

open Firestore (Collection Document Snapshot Value)
open RequestReply (Carriers OrOutside Program)

namespace UserSwitches

variable {texts : TextEquality}

/-! ## Who holds which recipes -/

/-- The recipes that a client has in memory. -/
def held (client : Client) : List Recipe :=
  client.recipes ++ client.selected.toList ++ client.savedRecipes.map Row.recipe

/-- The contents of some recipes. -/
def contents (recipes : List Recipe) : Set Recipe :=
  {content | ∃ recipe ∈ recipes, recipe.content = content}

/-- The content of the recipe that a document is read as. -/
def documentContent (document : Document) : Set Recipe :=
  {content | ∃ recipe, Recipe.ofDocument document = some recipe ∧ recipe.content = content}

/-- What a search can be answered with, decoded at any time. -/
def answerContent (json : Json) : Set Recipe :=
  {content | ∃ clock recipes, Recipe.decodeHits json clock = some recipes ∧
    content ∈ contents recipes}

/-- The recipes held by clients, documents, requests and replies. -/
def recipeCarriers (texts : TextEquality) : Carriers (sessions texts) Recipe where
  ofClient client := contents (held client)
  ofServer recipeContainer :=
    {content | ∃ (id : String) (document : Document), recipeContainer[id]? = some document ∧
      content ∈ documentContent document}
  ofRequest
    | .setRecipe _ data => documentContent (Value.storedFields data)
    | _ => ∅
  ofReply
    | .documents snapshot => {content | ∃ entry ∈ snapshot, content ∈ documentContent entry.2}
    | .data json => answerContent json
    | _ => ∅
  ofAction
    | .outside (.randomRecipeTapped hits _) => answerContent hits
    | _ => ∅
  outside
    | .answeredWith json, .search _ => answerContent json
    | _, _ => ∅

/-- The recipe has the content of a document of the start, or of a hit of a search answered
since, be it the one of the home screen. -/
def HasOrigin (s₀ : State) (trace : Trace) (recipe : Recipe) : Prop :=
  (∃ (id : String) (document : Document), s₀.server[id]? = some document ∧
    recipe.content ∈ documentContent document) ∨
  (∃ index json output searchTerm continuation,
    (.serve index (.answeredWith json), output) ∈ trace ∧
    output.served = some (.search searchTerm, continuation) ∧
    recipe.content ∈ answerContent json) ∨
  ∃ client hits chances output,
    (.act client (.outside (.randomRecipeTapped hits chances)), output) ∈ trace ∧
    recipe.content ∈ answerContent hits

/-! ## Copies keep the content -/

theorem documentContent_dictionary (recipe : Recipe) (recipeUID : String)
    (authorID : Option String) :
    documentContent (Value.storedFields (recipe.dictionary recipeUID authorID)) =
      {recipe.content} := by
  ext content
  rw [documentContent, Set.mem_ofPred_eq, Recipe.ofDocument_dictionary, Set.mem_singleton_iff]
  constructor
  · rintro ⟨_, written, rfl⟩
    obtain rfl := Option.some.inj written
    rfl
  · rintro rfl
    exact ⟨_, rfl, rfl⟩

theorem mem_held_iff {client : Client} {recipe : Recipe} :
    recipe ∈ held client ↔ recipe ∈ client.recipes ∨ client.selected = some recipe ∨
      ∃ row ∈ client.savedRecipes, row.recipe = recipe := by
  rw [held, List.mem_append, List.mem_append, Option.mem_toList, List.mem_map, or_assoc]

theorem contents_mono {fewer recipes : List Recipe} (subset : fewer ⊆ recipes) :
    contents fewer ⊆ contents recipes := by
  rintro content ⟨recipe, member, rfl⟩
  exact ⟨recipe, subset member, rfl⟩

theorem contents_held_mono {client changed : Client} (recipes : changed.recipes = client.recipes)
    (selected : changed.selected = client.selected)
    (rows : changed.savedRecipes ⊆ client.savedRecipes) :
    contents (held changed) ⊆ contents (held client) := by
  refine contents_mono fun recipe member => ?_
  rw [mem_held_iff, recipes, selected] at member
  exact mem_held_iff.mpr (member.imp_right fun other => other.imp_right
    fun ⟨row, inBook, same⟩ => ⟨row, rows inBook, same⟩)

/-! ## The law -/

theorem held_handle {action : Action} {client : Client} {effect : Effect}
    (handled : handle texts action client = some effect) :
    contents (held effect.client) ⊆ contents (held client) ∧
      ∀ issued ∈ effect.requests,
        (recipeCarriers texts).ofRequest issued.1 ⊆ contents (held client) := by
  cases action with
  | loadUserData =>
      obtain rfl := Option.some.inj handled
      refine ⟨contents_held_mono rfl rfl (List.nil_subset _), fun issued requested => ?_⟩
      obtain rfl := List.mem_singleton.mp requested
      exact Set.empty_subset _
  | searchBarSearchButtonClicked searchTerm =>
      obtain rfl := Option.some.inj handled
      rw [searchBarSearchButtonClicked]
      split
      · exact ⟨Set.Subset.refl _, by simp⟩
      · refine ⟨Set.Subset.refl _, fun issued requested => ?_⟩
        obtain rfl := List.mem_singleton.mp requested
        exact Set.empty_subset _
  | didSelectRowAt row =>
      simp only [handle, didSelectRowAt] at handled
      split at handled
      · cases handled
      · rename_i recipe shown
        obtain rfl := Option.some.inj handled
        refine ⟨contents_mono fun other member => ?_, by simp⟩
        rcases mem_held_iff.mp member with result | selected | inBook
        · exact mem_held_iff.mpr (.inl result)
        · obtain rfl := Option.some.inj selected
          exact mem_held_iff.mpr (.inl (List.mem_of_getElem? shown))
        · exact mem_held_iff.mpr (.inr (.inr inBook))
  | addToRecipeBookButtonTapped recipeUID =>
      obtain rfl := Option.some.inj handled
      rw [addToRecipeBookButtonTapped]
      split
      · exact ⟨Set.Subset.refl _, by simp⟩
      · rename_i recipe selected
        have known : recipe ∈ held client := mem_held_iff.mpr (.inr (.inl selected))
        refine ⟨contents_mono fun other member => ?_, fun issued requested => ?_⟩
        · rcases mem_held_iff.mp member with result | same | ⟨row, inBook, rfl⟩
          · exact mem_held_iff.mpr (.inl result)
          · exact mem_held_iff.mpr (.inr (.inl same))
          · rcases List.mem_append.mp inBook with old | added
            · exact mem_held_iff.mpr (.inr (.inr ⟨row, old, rfl⟩))
            · obtain rfl := List.mem_singleton.mp added
              exact known
        · obtain rfl := List.mem_singleton.mp requested
          show documentContent _ ⊆ _
          rw [documentContent_dictionary, Set.singleton_subset_iff]
          exact ⟨recipe, known, rfl⟩
  | commitDelete row =>
      cases inBook : client.savedRecipes[row]? with
      | none => simp [handle, commitDelete, inBook] at handled
      | some saved =>
          obtain ⟨index, deletes⟩ := commitDelete_eq texts inBook
          rw [handle, deletes] at handled
          obtain ⟨uid, -, rfl⟩ := Option.map_eq_some_iff.mp handled
          refine ⟨contents_held_mono rfl rfl List.eraseIdx_subset, fun issued requested => ?_⟩
          obtain rfl := List.mem_singleton.mp requested
          exact Set.empty_subset _

theorem held_randomRecipe (hits : Json) (chances : RecipeController.Chances) (client : Client) :
    contents (held (change (.randomRecipeTapped hits chances) client)) ⊆
      contents (held client) ∪ answerContent hits := by
  rintro content ⟨recipe, member, rfl⟩
  rcases mem_held_iff.mp member with result | selected | inBook
  · exact .inl ⟨recipe, mem_held_iff.mpr (.inl result), rfl⟩
  · obtain ⟨recipes, decoded, taken⟩ := Option.bind_eq_some_iff.mp selected
    exact .inr ⟨chances.clock, recipes, decoded, recipe, List.mem_of_getElem? taken, rfl⟩
  · exact .inl ⟨recipe, mem_held_iff.mpr (.inr (.inr inBook)), rfl⟩

theorem held_resume (continuation : Continuation) (reply : Reply) (input : Input)
    (client : Client) :
    contents (held (resume continuation reply input client).client) ⊆
      contents (held client) ∪ (recipeCarriers texts).ofReply reply := by
  have unchanged : contents (held client) ⊆
      contents (held client) ∪ (recipeCarriers texts).ofReply reply := Set.subset_union_left
  cases continuation with
  | recipesLoaded =>
      rw [resume, recipesLoaded]
      split
      · exact unchanged
      · rename_i rows fetched
        rintro content ⟨recipe, member, rfl⟩
        rcases mem_held_iff.mp member with result | selected | ⟨row, inBook, rfl⟩
        · exact unchanged ⟨recipe, mem_held_iff.mpr (.inl result), rfl⟩
        · exact unchanged ⟨recipe, mem_held_iff.mpr (.inr (.inl selected)), rfl⟩
        · cases reply with
          | documents snapshot =>
              obtain ⟨document, listed, -, read⟩ := mem_fetchRecipe fetched inBook
              exact .inr ⟨(row.documentID, document), listed, row.recipe, read, rfl⟩
          | _ => cases fetched
  | searched =>
      cases reply with
      | data json =>
          simp only [resume, searched]
          split
          · exact unchanged
          · rename_i recipes decoded
            rintro content ⟨recipe, member, rfl⟩
            rcases mem_held_iff.mp member with result | selected | inBook
            · exact .inr ⟨input.clock, recipes, decoded, recipe, result, rfl⟩
            · exact unchanged ⟨recipe, mem_held_iff.mpr (.inr (.inl selected)), rfl⟩
            · exact unchanged ⟨recipe, mem_held_iff.mpr (.inr (.inr inBook)), rfl⟩
      | _ => exact unchanged
  | recipeSaved => exact unchanged
  | recipeDeleted => exact unchanged

theorem held_serve (fate : Fate) (recipeContainer : Collection) (request : Request) :
    (recipeCarriers texts).ofServer (serve fate recipeContainer request).1 ⊆
      (recipeCarriers texts).ofServer recipeContainer ∪
        (recipeCarriers texts).ofRequest request := by
  rintro content ⟨id, document, stored, held⟩
  rcases (recipeStore texts).contents_serve stored with before | written
  · exact .inl ⟨id, document, before, held⟩
  · cases request with
    | setRecipe recipeUID data =>
        obtain ⟨rfl, rfl⟩ := Prod.mk.inj (Option.some.inj written)
        exact .inr held
    | _ => cases written

/-- The server answers with what it has, and a search with what the environment finds. -/
theorem held_answer (fate : Fate) (recipeContainer : Collection) (request : Request) :
    (recipeCarriers texts).ofReply (serve fate recipeContainer request).2 ⊆
      (recipeCarriers texts).ofServer recipeContainer ∪
        (recipeCarriers texts).outside fate request := by
  intro content answered
  cases reply : (serve fate recipeContainer request).2 with
  | documents snapshot =>
      rw [reply] at answered
      obtain ⟨⟨id, document⟩, listed, held⟩ := answered
      have listing : listedDocuments (serve fate recipeContainer request).2 = snapshot :=
        congrArg listedDocuments reply
      exact .inl ⟨id, document, stored_of_listed (listing ▸ listed), held⟩
  | data json =>
      rw [reply] at answered
      cases request with
      | search searchTerm =>
          cases fate with
          | answeredWith answer =>
              obtain rfl := Reply.data.inj reply
              exact .inr answered
          | _ => cases reply
      | _ => cases fate <;> cases reply
  | _ =>
      rw [reply] at answered
      cases answered

/-- Recipes are passed on and not made. -/
theorem recipeCarriers_law : (recipeCarriers texts).Law where
  handle := by
    intro action client effect handled
    cases action with
    | own action =>
        obtain ⟨kept, issued⟩ := held_handle handled
        exact ⟨kept.trans Set.subset_union_left,
          fun request requested => (issued request requested).trans Set.subset_union_left⟩
    | outside change =>
        obtain rfl := Option.some.inj handled
        refine ⟨?_, by simp⟩
        cases change with
        | signIn user =>
            exact (contents_held_mono rfl rfl (List.Subset.refl _)).trans Set.subset_union_left
        | randomRecipeTapped hits chances => exact held_randomRecipe hits chances client
  resume := by
    intro continuation reply input client effect resumed
    obtain rfl := Option.some.inj resumed
    refine ⟨held_resume continuation reply input client, fun issued requested => ?_⟩
    rw [resume_requests] at requested
    cases requested
  serve := held_serve
  answer s fate task := held_answer fate s.server task.request

/-! ## The result -/

/-- The app has just been opened: nothing is in flight, and the clients have no recipes. -/
structure Launched (s₀ : State) : Prop where
  idle : s₀.tasks = []
  empty : ∀ client, held (s₀.clients client) = []

section

variable {s₀ s : State} {trace : Trace} {allowed : Trace → State → Label → Prop}

theorem hasOrigin_of_mem (launched : Launched s₀) {recipe : Recipe}
    (known : recipe.content ∈ (recipeCarriers texts).origins s₀ trace) :
    HasOrigin s₀ trace recipe := by
  rcases known with (initially | document) | since
  · obtain ⟨client, original, inMemory, -⟩ := Set.mem_iUnion.mp initially
    rw [launched.empty client] at inMemory
    cases inMemory
  · exact .inl document
  · obtain ⟨⟨label, output⟩, listed, brought⟩ := Set.mem_iUnion₂.mp since
    cases label with
    | serve index fate =>
        obtain ⟨⟨request, continuation⟩, served, answered⟩ := Set.mem_iUnion₂.mp brought
        cases fate with
        | answeredWith json =>
            cases request with
            | search searchTerm =>
                exact .inr (.inl
                  ⟨index, json, output, searchTerm, continuation, listed, served, answered⟩)
            | _ => cases answered
        | _ => cases answered
    | act client action =>
        cases action with
        | own action => cases brought
        | outside change =>
            cases change with
            | signIn user => cases brought
            | randomRecipeTapped hits chances =>
                exact .inr (.inr ⟨client, hits, chances, output, listed, brought⟩)
    | deliver index input => cases brought

/-- **Every recipe of a book and of the recipe container has the content of one that a search
has answered**, or of a document of the start, in every run. -/
theorem recipes_have_origins (launched : Launched s₀)
    (run : (sessions texts).Run allowed s₀ trace s) :
    (∀ client, ∀ row ∈ (s.clients client).savedRecipes, HasOrigin s₀ trace row.recipe) ∧
      ∀ (id : String) (document : Document) (recipe : Recipe),
        s.server[id]? = some document → Recipe.ofDocument document = some recipe →
          HasOrigin s₀ trace recipe := by
  have within := recipeCarriers_law.origins_run launched.idle run
  constructor
  · intro client row inBook
    refine hasOrigin_of_mem launched (within.clients client ⟨row.recipe, ?_, rfl⟩)
    exact mem_held_iff.mpr (.inr (.inr ⟨row, inBook, rfl⟩))
  · intro id document recipe stored read
    exact hasOrigin_of_mem launched (within.server ⟨id, document, stored, recipe, read, rfl⟩)

end

/-- A recipe found and added on one client and fetched on another. -/
theorem recipes_have_origins_added :
    ∃ trace s row, (sessions .codePoints).Run Program.anyStep home trace s ∧
      row ∈ (s.clients 1).savedRecipes ∧ row.documentID = "R2" ∧
      HasOrigin home trace row.recipe := by
  have launched : Launched home := ⟨rfl, fun _ => rfl⟩
  have executed : ((sessions .codePoints).execute Program.anyStep home
      [.act 0 (.own (.searchBarSearchButtonClicked "soup")), .serve 0 (.answeredWith searchAnswer),
        .deliver 0 {}, .act 0 (.own (.didSelectRowAt 0)),
        .act 0 (.own (.addToRecipeBookButtonTapped "R2")), .serve 0 .answered, .deliver 0 {},
        .act 1 (.own .loadUserData), .serve 0 .answered, .deliver 0 {}] []).any
        (fun last => (last.2.clients 1).savedRecipes.any fun row => row.documentID == "R2") =
      true := by
    decide
  obtain ⟨⟨trace, s⟩, followed, added⟩ := (Option.any_eq_true _ _).mp executed
  obtain ⟨row, inBook, named⟩ := List.any_eq_true.mp added
  have run := Program.Run.of_execute .start followed
  exact ⟨trace, s, row, run, inBook, eq_of_beq named,
    (recipes_have_origins launched run).1 1 row inBook⟩

end UserSwitches

end MyMealPrep.RecipeBook
