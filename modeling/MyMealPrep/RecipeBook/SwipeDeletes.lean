import MyMealPrep.Machines.FreshKeys
import MyMealPrep.RecipeBook.History

/-!
# Which document a swipe deletes

`deleteRecipe` deletes the document named by the `uid` of the recipe. A fetched
recipe has the ID of its document there. A recipe added from a search has the
`uid` that the search answered, which is none at all, while `saveRecipe` makes up
the ID of the document and tells nobody: swiping such a row traps or deletes
another document.

So a swipe deletes the document of its row exactly when the row was fetched
(`swipe_deletes_own_document_iff`). The recipe container is a store whose keys are
the IDs of the documents; they are fresh, so a document deleted is never fetched
again.
-/

set_option autoImplicit false

namespace MyMealPrep.RecipeBook

open Firestore (Collection Document Snapshot Value)
open RequestReply (Program Store)

variable {texts : TextEquality}

/-! ## The recipe container as a store -/

/-- The document that a request writes, with its ID. -/
def writtenDocument : Request → Option (String × Document)
  | .setRecipe recipeUID data => some (recipeUID, Value.storedFields data)
  | _ => none

/-- The ID of the document that a request deletes when it succeeds. -/
def deletedID : Fate → Request → Option String
  | .failed, _ => none
  | _, .deleteRecipe uid => some uid
  | _, _ => none

/-- The documents that a reply lists. -/
def listedDocuments : Reply → Snapshot
  | .documents snapshot => snapshot
  | _ => []

theorem stored_of_listed {fate : Fate} {recipeContainer : Collection} {request : Request}
    {id : String} {document : Document}
    (listed : (id, document) ∈ listedDocuments (serve fate recipeContainer request).2) :
    recipeContainer[id]? = some document := by
  cases request with
  | getRecipes =>
      cases fate with
      | failed => cases listed
      | _ => exact Collection.mem_getDocuments.mp listed
  | _ => cases fate <;> cases listed

/-- The documents of the recipe container by their IDs. -/
def recipeStore (texts : TextEquality) : Store (program texts) String Document where
  contents recipeContainer id := recipeContainer[id]?
  writes := writtenDocument
  removes := deletedID
  lists := listedDocuments
  contents_serve := by
    intro fate recipeContainer request id document stored
    cases request with
    | setRecipe recipeUID data =>
        cases fate with
        | failed => exact .inl stored
        | _ => exact (Collection.get_of_setData_get stored).imp_right (congrArg some)
    | deleteRecipe uid =>
        cases fate with
        | failed => exact .inl stored
        | _ => exact .inl (Collection.get_of_delete_get stored)
    | _ => cases fate <;> exact .inl stored
  removes_serve := by
    intro fate recipeContainer request id removed
    cases request with
    | deleteRecipe uid =>
        cases fate with
        | failed => cases removed
        | _ =>
            obtain rfl := Option.some.inj removed
            exact (Collection.delete_get _ _ _).trans (if_pos rfl)
    | _ => cases fate <;> cases removed
  lists_answer listed := .inl (stored_of_listed listed)

theorem listsStored (texts : TextEquality) : (recipeStore texts).ListsStored :=
  fun _ _ _ _ _ => stored_of_listed

/-- The IDs in use at the start. -/
def oldIDs (recipeContainer : Collection) (id : String) : Prop :=
  recipeContainer[id]?.isSome = true

/-- A new document gets an ID that no document had, has or is about to get, and that is
not the `uid` of the recipe written. -/
def FreshIDs (texts : TextEquality) (recipeContainer : Collection) (trace : Trace) (s : State) :
    Label → Prop
  | .act client (.addToRecipeBookButtonTapped recipeUID) =>
      ¬ (recipeStore texts).Known (oldIDs recipeContainer) trace recipeUID ∧
        ∀ recipe ∈ (s.clients client).selected, recipe.uid ≠ some recipeUID
  | _ => True

instance (recipeContainer : Collection) (trace : Trace) (id : String) :
    Decidable ((recipeStore texts).Known (oldIDs recipeContainer) trace id) :=
  inferInstanceAs (Decidable (recipeContainer[id]?.isSome = true ∨
    ∃ entry ∈ trace, id ∈ (recipeStore texts).issuedKeys entry.2.requests))

instance (recipeContainer : Collection) (trace : Trace) (s : State) (label : Label) :
    Decidable (FreshIDs texts recipeContainer trace s label) := by
  unfold FreshIDs
  split <;> infer_instance

/-! ## The property -/

/-- Swiping a row of a client does not trap and deletes the document written for the
recipe of the row: once the deletion is served no fetch returns it. -/
def DeletesOwnDocument (texts : TextEquality) (recipeContainer : Collection) (trace : Trace)
    (s : State) (client row : Nat) (saved : Row) : Prop :=
  ∃ output s', (program texts).step s (.act client (.commitDelete row)) = some (output, s') ∧
    output.requests = [(.deleteRecipe saved.documentID, .recipeDeleted)] ∧
    ∀ later s'', (program texts).Run
        (fun later => FreshIDs texts recipeContainer
          (later ++ (.act client (.commitDelete row), output) :: trace)) s' later s'' →
      (recipeStore texts).Removed later saved.documentID →
      ∀ currentUser rows,
        UserController.fetchRecipe currentUser (.documents s''.server.getDocuments) = .ok rows →
        ∀ fetched ∈ rows, fetched.documentID ≠ saved.documentID

/-- Swiping any row of any book, in any state that a run reaches, deletes its document. -/
def SwipesDeleteOwnDocuments (texts : TextEquality) (s₀ : State) : Prop :=
  ∀ trace s client row saved, (program texts).Run (FreshIDs texts s₀.server) s₀ trace s →
    (s.clients client).savedRecipes[row]? = some saved →
    DeletesOwnDocument texts s₀.server trace s client row saved

/-! ## What handlers and callbacks do -/

/-- A swipe deletes the document named by the recipe of the row, or traps. -/
theorem commitDelete_eq (texts : TextEquality) {client : Client} {row : Nat} {saved : Row}
    (inBook : client.savedRecipes[row]? = some saved) :
    ∃ index, commitDelete texts row client = saved.recipe.uid.map fun uid =>
      { client := { client with savedRecipes := client.savedRecipes.eraseIdx index }
        requests := [(.deleteRecipe uid, .recipeDeleted)] } := by
  have equal : (client.savedRecipes.findIdx? fun other =>
      other.recipe.compared texts = saved.recipe.compared texts).isSome = true := by
    rw [List.findIdx?_isSome, List.any_eq_true]
    exact ⟨saved, List.mem_of_getElem? inBook, decide_eq_true rfl⟩
  obtain ⟨index, first⟩ := Option.isSome_iff_exists.mp equal
  refine ⟨index, ?_⟩
  rw [commitDelete, inBook]
  simp only [deleteRecipe, first, UserController.deleteRecipe]
  cases saved.recipe.uid <;> rfl

/-- Everything an action can do to the book of its client. -/
inductive BookCase (client : Client) : Action → Effect → Prop where
  | kept {action : Action} {effect : Effect}
      (rows : effect.client.savedRecipes ⊆ client.savedRecipes)
      (writes : ∀ issued ∈ effect.requests, writtenDocument issued.1 = none) :
      BookCase client action effect
  | added {recipeUID : String} {recipe : Recipe} {effect : Effect}
      (selected : client.selected = some recipe)
      (rows : effect.client.savedRecipes = client.savedRecipes ++ [⟨recipe, recipeUID, false⟩])
      (writes : effect.requests =
        [(UserController.saveRecipe client.currentUser recipe recipeUID, .recipeSaved)]) :
      BookCase client (.addToRecipeBookButtonTapped recipeUID) effect

theorem bookCase_of_handle {action : Action} {client : Client} {effect : Effect}
    (handled : handle texts action client = some effect) : BookCase client action effect := by
  cases action with
  | loadUserData =>
      obtain rfl := Option.some.inj handled
      exact .kept (List.nil_subset _) (by simp [loadUserData, writtenDocument])
  | searchBarSearchButtonClicked searchTerm =>
      obtain rfl := Option.some.inj handled
      simp only [searchBarSearchButtonClicked]
      split
      · exact .kept (List.Subset.refl _) (by simp)
      · exact .kept (List.Subset.refl _) (by simp [writtenDocument])
  | didSelectRowAt row =>
      simp only [handle, didSelectRowAt] at handled
      split at handled
      · cases handled
      · obtain rfl := Option.some.inj handled
        exact .kept (List.Subset.refl _) (by simp)
  | addToRecipeBookButtonTapped recipeUID =>
      obtain rfl := Option.some.inj handled
      simp only [addToRecipeBookButtonTapped]
      split
      · exact .kept (List.Subset.refl _) (by simp)
      · rename_i recipe selected
        exact .added selected rfl rfl
  | commitDelete row =>
      cases inBook : client.savedRecipes[row]? with
      | none => simp [handle, commitDelete, inBook] at handled
      | some saved =>
          obtain ⟨index, deletes⟩ := commitDelete_eq texts inBook
          rw [handle, deletes] at handled
          obtain ⟨uid, _, rfl⟩ := Option.map_eq_some_iff.mp handled
          exact .kept List.eraseIdx_subset (by simp [writtenDocument])

theorem resume_requests (continuation : Continuation) (reply : Reply) (input : Input)
    (client : Client) : (resume continuation reply input client).requests = [] := by
  cases continuation with
  | recipesLoaded =>
      simp only [resume, recipesLoaded]
      split <;> rfl
  | searched =>
      simp only [resume, searched]
      split
      · split <;> rfl
      · rfl
  | recipeSaved => rfl
  | recipeDeleted => rfl

theorem mem_decodeRecipes {snapshot : Snapshot} {rows : List Row}
    (decoded : UserController.decodeRecipes snapshot = some rows) {row : Row}
    (member : row ∈ rows) :
    ∃ document, (row.documentID, document) ∈ snapshot ∧ row.isFetched = true ∧
      Recipe.ofDocument document = some row.recipe := by
  obtain ⟨-, rfl⟩ := decodeRecipes_eq_some_iff.mp decoded
  obtain ⟨⟨id, document⟩, listed, made⟩ := List.mem_filterMap.mp member
  obtain ⟨recipe, read, rfl⟩ := Option.map_eq_some_iff.mp made
  exact ⟨document, listed, rfl, read⟩

theorem mem_fetchRecipe {currentUser : Option User} {snapshot : Snapshot} {rows : List Row}
    (fetched : UserController.fetchRecipe currentUser (.documents snapshot) = .ok rows) {row : Row}
    (member : row ∈ rows) :
    ∃ document, (row.documentID, document) ∈ snapshot ∧ row.isFetched = true ∧
      Recipe.ofDocument document = some row.recipe := by
  rw [UserController.fetchRecipe] at fetched
  split at fetched
  · cases fetched
  · rename_i all decoded
    obtain rfl := Except.ok.inj fetched
    exact mem_decodeRecipes decoded (List.mem_of_mem_filter member)

/-- The rows of a book after a callback: old ones, or rows of the snapshot fetched. -/
theorem resume_rows {continuation : Continuation} {reply : Reply} {input : Input}
    {client : Client} {row : Row}
    (member : row ∈ (resume continuation reply input client).client.savedRecipes) :
    row ∈ client.savedRecipes ∨ ∃ snapshot document, reply = .documents snapshot ∧
      (row.documentID, document) ∈ snapshot ∧ row.isFetched = true ∧
        Recipe.ofDocument document = some row.recipe := by
  cases continuation with
  | recipesLoaded =>
      simp only [resume, recipesLoaded] at member
      split at member
      · exact .inl member
      · rename_i rows fetched
        cases reply with
        | documents snapshot =>
            obtain ⟨document, known⟩ := mem_fetchRecipe fetched member
            exact .inr ⟨snapshot, document, rfl, known⟩
        | _ => cases fetched
  | searched =>
      simp only [resume, searched] at member
      split at member
      · split at member <;> exact .inl member
      · exact .inl member
  | recipeSaved => exact .inl member
  | recipeDeleted => exact .inl member

/-! ## The invariant -/

/-- The document was written by `saveRecipe` under the ID. -/
def WrittenUnder (id : String) (document : Document) : Prop :=
  ∃ (recipe : Recipe) (authorID : Option String),
    document = Value.storedFields (recipe.dictionary id authorID)

theorem WrittenUnder.uid {id : String} {document : Document} {recipe : Recipe}
    (written : WrittenUnder id document) (read : Recipe.ofDocument document = some recipe) :
    recipe.uid = some id := by
  obtain ⟨source, authorID, rfl⟩ := written
  rw [Recipe.ofDocument_dictionary] at read
  rw [← Option.some.inj read]
  rfl

/-- A fetched row names its document, a settled one; an added row does not. -/
def RowKept (texts : TextEquality) (recipeContainer : Collection) (trace : Trace) (s : State)
    (row : Row) : Prop :=
  match row.isFetched with
  | true => row.recipe.uid = some row.documentID ∧
      (recipeStore texts).Settled (oldIDs recipeContainer) trace s row.documentID
  | false => row.recipe.uid ≠ some row.documentID

/-- The rows of a book are kept. -/
def BookKept (texts : TextEquality) (recipeContainer : Collection) (trace : Trace) (s : State)
    (client : Client) : Prop :=
  ∀ row ∈ client.savedRecipes, RowKept texts recipeContainer trace s row

/-- The documents are dictionaries of recipes, those listed are settled, and the rows of the books
are kept. -/
structure BooksKept (texts : TextEquality) (recipeContainer : Collection) (trace : Trace)
    (s : State) : Prop where
  documents : (recipeStore texts).Kept (oldIDs recipeContainer) WrittenUnder trace s
  listings : (recipeStore texts).ListingsSettled (oldIDs recipeContainer) trace s
  rows : ∀ client, BookKept texts recipeContainer trace s (s.clients client)

section

variable {recipeContainer : Collection} {trace : Trace} {s s' : State} {label : Label}
  {output : Output}

/-- A request that writes a document comes from the add button. -/
theorem writes_of_step (stepped : (program texts).StepCase s label output s')
    {issued : Request × Continuation} (requested : issued ∈ output.requests) {id : String}
    {document : Document} (written : (recipeStore texts).writes issued.1 = some (id, document)) :
    ∃ client, label = .act client (.addToRecipeBookButtonTapped id) ∧
      output.requests = [issued] ∧ WrittenUnder id document := by
  cases stepped with
  | @act client action effect handled =>
      cases bookCase_of_handle handled with
      | kept rows writes =>
          have unwritten := writes issued requested
          rw [show (recipeStore texts).writes = writtenDocument from rfl, unwritten] at written
          cases written
      | added selected rows writes =>
          simp only [writes] at requested ⊢
          obtain rfl := List.mem_singleton.mp requested
          obtain ⟨rfl, rfl⟩ := Prod.mk.inj (Option.some.inj written)
          exact ⟨client, rfl, rfl, _, _, rfl⟩
  | serve inFlight waiting => cases requested
  | @deliver index input task reply effect inFlight answered resumed =>
      obtain rfl : resume task.continuation reply input (s.clients task.client) = effect :=
        Option.some.inj resumed
      simp only [resume_requests] at requested
      cases requested

theorem freshlyIssued (permitted : FreshIDs texts recipeContainer trace s label)
    (stepped : (program texts).StepCase s label output s') :
    (recipeStore texts).FreshlyIssued (oldIDs recipeContainer) trace output.requests := by
  refine .of_alone fun issued requested id document written => ?_
  obtain ⟨client, rfl, alone, -⟩ := writes_of_step stepped requested written
  exact ⟨alone, permitted.1⟩

theorem RowKept.step {row : Row} (kept : RowKept texts recipeContainer trace s row)
    (permitted : FreshIDs texts recipeContainer trace s label)
    (stepped : (program texts).StepCase s label output s') :
    RowKept texts recipeContainer ((label, output) :: trace) s' row := by
  cases origin : row.isFetched with
  | true =>
      simp only [RowKept, origin] at kept ⊢
      exact ⟨kept.1, kept.2.step (freshlyIssued permitted stepped) stepped⟩
  | false =>
      simp only [RowKept, origin] at kept ⊢
      exact kept

theorem BooksKept.rows_step (kept : BooksKept texts recipeContainer trace s)
    (permitted : FreshIDs texts recipeContainer trace s label)
    (stepped : (program texts).StepCase s label output s') :
    ∀ client, BookKept texts recipeContainer ((label, output) :: trace) s' (s'.clients client) := by
  have earlier : ∀ client,
      BookKept texts recipeContainer ((label, output) :: trace) s' (s.clients client) :=
    fun client row member => (kept.rows client row member).step permitted stepped
  cases stepped with
  | @act actor action effect handled =>
      refine RequestReply.State.forall_clients_commit earlier ?_
      intro row member
      cases bookCase_of_handle handled with
      | kept rows writes => exact earlier actor row (rows member)
      | @added recipeUID recipe _ selected rows writes =>
          rw [rows] at member
          rcases List.mem_append.mp member with old | added
          · exact earlier actor row old
          · obtain rfl := List.mem_singleton.mp added
            exact permitted.2 recipe selected
  | serve inFlight waiting => exact earlier
  | @deliver index input task reply effect inFlight answered resumed =>
      have stepped : (program texts).StepCase s (.deliver index input) _ _ :=
        .deliver inFlight answered resumed
      obtain rfl : resume task.continuation reply input (s.clients task.client) = effect :=
        Option.some.inj resumed
      refine RequestReply.State.forall_clients_commit earlier ?_
      intro row member
      rcases resume_rows member with old | ⟨snapshot, document, rfl, listed, fetched, read⟩
      · exact earlier _ row old
      · have member := List.mem_of_getElem? inFlight
        have written := (kept.documents.listed task member _ answered _ _ listed).1
        have settled := kept.listings task member _ answered _ _ listed
        simp only [RowKept, fetched]
        exact ⟨written.uid read, settled.step (freshlyIssued permitted stepped) stepped⟩

/-- **One step whose IDs are fresh keeps the books.** -/
theorem BooksKept.step (kept : BooksKept texts recipeContainer trace s)
    (permitted : FreshIDs texts recipeContainer trace s label)
    (stepped : (program texts).StepCase s label output s') :
    BooksKept texts recipeContainer ((label, output) :: trace) s' where
  documents := by
    refine kept.documents.step (freshlyIssued permitted stepped) ?_ stepped
    intro issued requested id document written
    obtain ⟨client, -, -, writtenUnder⟩ := writes_of_step stepped requested written
    exact writtenUnder
  listings := kept.listings.step (listsStored texts) kept.documents
    (freshlyIssued permitted stepped) stepped
  rows := kept.rows_step permitted stepped

end

/-! ## The results -/

/-- The app has just been opened: nothing is in flight, the books are empty, and every
document was written by `saveRecipe`. -/
structure Opened (s₀ : State) : Prop where
  idle : s₀.tasks = []
  empty : ∀ client, (s₀.clients client).savedRecipes = []
  written : ∀ id document, s₀.server[id]? = some document → WrittenUnder id document

theorem booksKept_start {s₀ : State} (opened : Opened s₀) :
    BooksKept texts s₀.server [] s₀ where
  documents := Store.kept_start opened.idle fun id document stored =>
    ⟨Option.isSome_iff_exists.mpr ⟨document, stored⟩, opened.written id document stored⟩
  listings := Store.listingsSettled_start opened.idle
  rows client row member := by simp [opened.empty] at member

theorem booksKept_run {s₀ s : State} {trace : Trace} (opened : Opened s₀)
    (run : (program texts).Run (FreshIDs texts s₀.server) s₀ trace s) :
    BooksKept texts s₀.server trace s :=
  run.invariant (booksKept_start opened)
    fun kept permitted stepped => kept.step permitted stepped

/-- **A swipe deletes the document of its row exactly when the row was fetched.** A row
added from a search traps, or deletes another document. -/
theorem swipe_deletes_own_document_iff {s₀ s : State} {trace : Trace} {client row : Nat}
    {saved : Row} (opened : Opened s₀)
    (run : (program texts).Run (FreshIDs texts s₀.server) s₀ trace s)
    (inBook : (s.clients client).savedRecipes[row]? = some saved) :
    DeletesOwnDocument texts s₀.server trace s client row saved ↔ saved.isFetched = true := by
  have kept := booksKept_run opened run
  have rowKept := kept.rows client saved (List.mem_of_getElem? inBook)
  obtain ⟨index, deletes⟩ := commitDelete_eq texts inBook
  constructor
  · rintro ⟨output, s', step, requests, -⟩
    by_contra added
    rw [Bool.not_eq_true] at added
    simp only [RowKept, added] at rowKept
    cases Program.stepCase_of_step step with
    | @act _ _ effect handled =>
        replace handled : commitDelete texts row (s.clients client) = some effect := handled
        obtain ⟨uid, named, rfl⟩ := Option.map_eq_some_iff.mp (deletes.symm.trans handled)
        simp only [List.cons.injEq, Prod.mk.injEq, Request.deleteRecipe.injEq, and_true]
          at requests
        exact rowKept (named.trans (congrArg some requests))
  · intro fetched
    simp only [RowKept, fetched] at rowKept
    obtain ⟨named, settled⟩ := rowKept
    rw [named, Option.map_some] at deletes
    have handled : (program texts).handle (.commitDelete row) (s.clients client) = some _ := deletes
    have permitted : FreshIDs texts s₀.server trace s (.act client (.commitDelete row)) := trivial
    have step := (program texts).step_act handled
    refine ⟨_, _, step, rfl, ?_⟩
    intro later s'' laterRun deleted currentUser rows delivered other member sameID
    have stepped := Program.stepCase_of_step step
    have afterwards := settled.step (freshlyIssued permitted stepped) stepped
    have gone : s''.server[saved.documentID]? = none :=
      Store.removed_run freshlyIssued afterwards laterRun deleted
    obtain ⟨document, listed, -⟩ := mem_fetchRecipe delivered member
    have stored := Collection.mem_getDocuments.mp listed
    rw [sameID, gone] at stored
    cases stored

/-! ## Two rows -/

/-- A client whose user has saved a recipe in an earlier session. -/
def home : State where
  clients := fun _ => { currentUser := some ann }
  server := Collection.setData ∅ "R1" (soup.dictionary "R1" (some ann.uuid))
  tasks := []

theorem home_opened : Opened home where
  idle := rfl
  empty _ := rfl
  written id document stored := by
    rw [home, Collection.setData_get] at stored
    split at stored
    · rename_i same
      subst same
      exact ⟨soup, some ann.uuid, (Option.some.inj stored).symm⟩
    · simp at stored

/-- A fetched row is deleted with its document. -/
theorem swipe_deletes_own_document_iff_fetched :
    ∃ trace s saved, (program .codePoints).Run (FreshIDs .codePoints home.server) home trace s ∧
      (s.clients 0).savedRecipes[0]? = some saved ∧
        DeletesOwnDocument .codePoints home.server trace s 0 0 saved := by
  have executed : ((program .codePoints).execute (FreshIDs .codePoints home.server) home
      [.act 0 .loadUserData, .serve 0 .answered, .deliver 0 {}] []).any
        (fun last => (last.2.clients 0).savedRecipes[0]?.any fun saved => saved.isFetched) =
      true := by
    decide
  obtain ⟨⟨trace, s⟩, followed, listed⟩ := (Option.any_eq_true _ _).mp executed
  obtain ⟨saved, inBook, fetched⟩ := (Option.any_eq_true _ _).mp listed
  have run := Program.Run.of_execute .start followed
  exact ⟨trace, s, saved, run, inBook,
    (swipe_deletes_own_document_iff home_opened run inBook).mpr fetched⟩

/-- The answer of a search with one hit. -/
def searchAnswer : Json :=
  .object
    [("q", .string "soup"),
      ("hits", .array [.object [("recipe", .object
        [("label", .string "Soup"), ("url", .string "soup.html"), ("image", .string "soup.png"),
          ("ingredientLines", .array [.string "water", .string "salt"]), ("yield", .number 2),
          ("totalTime", .number 30)])]])]

/-- **A swipe on a recipe added from a search traps.** -/
theorem swipe_traps : ¬ SwipesDeleteOwnDocuments .codePoints home := by
  intro deletes
  have executed : ((program .codePoints).execute (FreshIDs .codePoints home.server) home
      [.act 0 (.searchBarSearchButtonClicked "soup"), .serve 0 (.answeredWith searchAnswer),
        .deliver 0 {}, .act 0 (.didSelectRowAt 0), .act 0 (.addToRecipeBookButtonTapped "R2"),
        .serve 0 .answered, .deliver 0 {}] []).any
        (fun last => (last.2.clients 0).savedRecipes[0]?.isSome &&
          ((program .codePoints).step last.2 (.act 0 (.commitDelete 0))).isNone) = true := by
    decide
  obtain ⟨⟨trace, s⟩, followed, last⟩ := (Option.any_eq_true _ _).mp executed
  obtain ⟨listed, traps⟩ := Bool.and_eq_true_iff.mp last
  obtain ⟨saved, inBook⟩ := Option.isSome_iff_exists.mp listed
  obtain ⟨output, s', step, -⟩ :=
    deletes trace s 0 0 saved (.of_execute .start followed) inBook
  rw [step] at traps
  cases traps

end MyMealPrep.RecipeBook
