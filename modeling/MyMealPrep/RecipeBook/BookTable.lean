import MyMealPrep.Machines.Tables
import MyMealPrep.RecipeBook.FetchedBooks

/-!
# The table of the recipe book

`RecipeBookViewController` reloads its table when it comes to the front and when the button
above it hides it. A swipe deletes the recipe of its row and then the row of the table.

A search answers recipes without an ID, so the rows of the book that were fetched have the
IDs of their documents and those that were added have none. While no fetch exchanges the book
in front, the table has the rows of the book, and a swipe crashes exactly when its row was
added and not fetched yet (`swipe_crashes_iff_added`). A fetch over Firestore's local store
may be the first to show a recipe that the client is still saving.
-/

set_option autoImplicit false

namespace MyMealPrep.RecipeBook

open Firestore (Collection Document Snapshot Value)
open RequestReply (OnScreen Program Screen Store Table)

variable {texts : TextEquality}

namespace BookTable

/-- The table of `RecipeBookViewController`. -/
def table (texts : TextEquality) : Table (localProgram texts) Row where
  dataSource client := client.savedRecipes
  swiped
    | .commitDelete row => some row
    | _ => none
  loads
    | .recipesLoaded => true
    | _ => false
  hasReload := true

abbrev State := RequestReply.State (Screen Client Row) Collection Request Reply Continuation
abbrev Label := RequestReply.Label (OnScreen Action) Input Fate
abbrev Trace := RequestReply.Trace Request Continuation (OnScreen Action) Input Fate Empty

/-- The recipe books of any number of clients, with their tables. -/
def screens (texts : TextEquality) : Program (Screen Client Row) Collection Request Reply
    Continuation (OnScreen Action) Input Fate Empty :=
  (table texts).withTable

/-- A recipe that is added has no ID, as the search answers it. -/
def AddsSearched (s : RecipeBook.State) : RecipeBook.Label → Prop
  | .act client (.addToRecipeBookButtonTapped _) =>
      ∀ recipe ∈ (s.clients client).selected, recipe.uid = none
  | _ => True

/-- The use of the book: new documents get fresh IDs, and recipes are added from searches. -/
def Used (texts : TextEquality) (recipeContainer : Collection) (trace : RecipeBook.Trace)
    (s : RecipeBook.State) (label : RecipeBook.Label) : Prop :=
  FreshIDs texts recipeContainer trace s label ∧ AddsSearched s label

/-- The use of the screens, where no fetch exchanges the book in front. -/
def LoadedElsewhere (texts : TextEquality) (recipeContainer : Collection) (trace : Trace)
    (s : State) (label : Label) : Prop :=
  ((table texts).Offered s label ∧ (table texts).LoadsElsewhere s label) ∧
    ∀ own ∈ label.withoutTables, Used texts recipeContainer (RequestReply.withoutTables trace)
      s.withoutTables own

instance (s : RecipeBook.State) : (label : RecipeBook.Label) → Decidable (AddsSearched s label)
  | .act client (.addToRecipeBookButtonTapped _) =>
      inferInstanceAs (Decidable (∀ recipe ∈ (s.clients client).selected, recipe.uid = none))
  | .act _ .loadUserData
  | .act _ (.searchBarSearchButtonClicked _)
  | .act _ (.didSelectRowAt _)
  | .act _ (.commitDelete _)
  | .serve _ _
  | .deliver _ _ => .isTrue trivial

instance (recipeContainer : Collection) (trace : RecipeBook.Trace) (s : RecipeBook.State)
    (label : RecipeBook.Label) : Decidable (Used texts recipeContainer trace s label) :=
  inferInstanceAs (Decidable (_ ∧ _))

instance (recipeContainer : Collection) (trace : Trace) (s : State) (label : Label) :
    Decidable (LoadedElsewhere texts recipeContainer trace s label) :=
  inferInstanceAs (Decidable (_ ∧ ∀ own ∈ label.withoutTables, _))

/-! ## Rows and their IDs -/

/-- A row has the ID of its document once it is fetched, and none before. The rows are of
different documents. -/
structure NamedRows (client : Client) : Prop where
  uids : ∀ row ∈ client.savedRecipes,
    row.recipe.uid = if row.isFetched then some row.documentID else none
  nodup : (client.savedRecipes.map Row.documentID).Nodup

theorem NamedRows.sublist {client changed : Client} (named : NamedRows client)
    (rows : changed.savedRecipes.Sublist client.savedRecipes) : NamedRows changed where
  uids row member := named.uids row (rows.subset member)
  nodup := named.nodup.sublist (rows.map _)

/-- A recipe added without an ID, for a new document, is another row. -/
theorem NamedRows.added {client changed : Client} {recipe : Recipe} {recipeUID : String}
    (named : NamedRows client)
    (rows : changed.savedRecipes = client.savedRecipes ++ [⟨recipe, recipeUID, false⟩])
    (unnamed : recipe.uid = none)
    (fresh : ∀ row ∈ client.savedRecipes, row.documentID ≠ recipeUID) : NamedRows changed where
  uids row member := by
    rw [rows] at member
    rcases List.mem_append.mp member with old | new
    · exact named.uids row old
    · obtain rfl := List.mem_singleton.mp new
      exact unnamed
  nodup := by
    rw [rows, List.map_append, List.map_singleton]
    refine List.nodup_append.mpr ⟨named.nodup, List.nodup_singleton _, ?_⟩
    intro first firstMember second secondMember same
    obtain rfl := List.mem_singleton.mp secondMember
    obtain ⟨row, member, rfl⟩ := List.mem_map.mp firstMember
    exact fresh row member same

section

variable {client : Client} {row : Nat} {saved : Row}

/-- The first recipe equal to that of a fetched row is in the row. -/
theorem NamedRows.findIdx? (named : NamedRows client)
    (inBook : client.savedRecipes[row]? = some saved) (fetched : saved.isFetched = true) :
    (client.savedRecipes.findIdx? fun other =>
      other.recipe.compared texts = saved.recipe.compared texts) = some row := by
  obtain ⟨inRange, rfl⟩ := List.getElem?_eq_some_iff.mp inBook
  refine List.findIdx?_eq_some_iff_getElem.mpr ⟨inRange, decide_eq_true rfl, ?_⟩
  intro other before equal
  have otherInRange : other < client.savedRecipes.length := Nat.lt_trans before inRange
  have uid := named.uids _ (List.getElem_mem inRange)
  have otherUID := named.uids _ (List.getElem_mem otherInRange)
  have sameUID := Recipe.uid_eq_of_compared (of_decide_eq_true equal)
  rw [sameUID, uid, if_pos fetched] at otherUID
  have sameID : client.savedRecipes[row].documentID = client.savedRecipes[other].documentID := by
    split at otherUID
    · exact Option.some.inj otherUID
    · cases otherUID
  have sameRow : row = other := by
    refine (List.getElem?_inj ?_ named.nodup).mp ?_
    · rwa [List.length_map]
    · rw [List.getElem?_map, List.getElem?_map, List.getElem?_eq_getElem inRange,
        List.getElem?_eq_getElem otherInRange, Option.map_some, Option.map_some, sameID]
  omega

/-- **A swipe traps in a row that was added and takes exactly its row where it was fetched.** -/
theorem NamedRows.commitDelete (texts : TextEquality) (named : NamedRows client)
    (inBook : client.savedRecipes[row]? = some saved) :
    RecipeBook.commitDelete texts row client =
      if saved.isFetched then
        some { client := { client with savedRecipes := client.savedRecipes.eraseIdx row }
               requests := [(.deleteRecipe saved.documentID, .recipeDeleted)] }
      else none := by
  have uid := named.uids saved (List.mem_of_getElem? inBook)
  split
  · rename_i fetched
    rw [if_pos fetched] at uid
    rw [RecipeBook.commitDelete, inBook]
    simp only [deleteRecipe, named.findIdx? inBook fetched, UserController.deleteRecipe, uid,
      Option.map_some]
  · rename_i added
    rw [if_neg added] at uid
    obtain ⟨index, deletes⟩ := commitDelete_eq texts inBook
    rw [deletes, uid]
    rfl

end

/-! ## Fetched rows -/

/-- The rows that a snapshot is decoded to have IDs of its documents, in their order. -/
theorem map_documentID_sublist (snapshot : Snapshot) :
    ((snapshot.filterMap rowOf).map Row.documentID).Sublist (snapshot.map Prod.fst) := by
  induction snapshot with
  | nil => exact List.Sublist.refl _
  | cons entry rest ih =>
      cases read : Recipe.ofDocument entry.2 with
      | none =>
          have unread : rowOf entry = none := by rw [rowOf, read, Option.map_none]
          rw [List.filterMap_cons_none unread]
          exact ih.cons _
      | some recipe =>
          have made : rowOf entry = some ⟨recipe, entry.1, true⟩ := by
            rw [rowOf, read, Option.map_some]
          rw [List.filterMap_cons_some made]
          exact ih.cons_cons _

theorem namedRows_fetched {currentUser : Option User} {snapshot : Snapshot} {rows : List Row}
    (distinct : (snapshot.map Prod.fst).Nodup)
    (written : ∀ id document, (id, document) ∈ snapshot → WrittenUnder id document)
    (fetched : UserController.fetchRecipe currentUser (.documents snapshot) = .ok rows)
    {client : Client} (book : client.savedRecipes = rows) : NamedRows client where
  uids row inBook := by
    obtain ⟨document, listed, isFetched, read⟩ := mem_fetchRecipe fetched (book ▸ inBook)
    rw [if_pos isFetched]
    exact (written _ _ listed).uid read
  nodup := by
    rw [UserController.fetchRecipe] at fetched
    split at fetched
    · cases fetched
    · rename_i all decoded
      obtain ⟨-, rfl⟩ := decodeRecipes_eq_some_iff.mp decoded
      rw [book, ← Except.ok.inj fetched]
      exact distinct.sublist ((List.filter_sublist.map _).trans (map_documentID_sublist snapshot))

/-! ## Steps and runs -/

theorem rows_handle {action : Action} {client : Client} {effect : Effect}
    (handled : handle texts action client = some effect) :
    effect.client.savedRecipes.Sublist client.savedRecipes ∨
      ∃ recipeUID recipe, action = .addToRecipeBookButtonTapped recipeUID ∧
        client.selected = some recipe ∧
        effect.client.savedRecipes = client.savedRecipes ++ [⟨recipe, recipeUID, false⟩] ∧
        effect.requests =
          [(UserController.saveRecipe client.currentUser recipe recipeUID, .recipeSaved)] := by
  cases action with
  | loadUserData =>
      obtain rfl := Option.some.inj handled
      exact .inl (List.nil_sublist _)
  | searchBarSearchButtonClicked searchTerm =>
      obtain rfl := Option.some.inj handled
      rw [searchBarSearchButtonClicked]
      split <;> exact .inl (List.Sublist.refl _)
  | didSelectRowAt row =>
      simp only [handle, didSelectRowAt] at handled
      split at handled
      · cases handled
      · obtain rfl := Option.some.inj handled
        exact .inl (List.Sublist.refl _)
  | addToRecipeBookButtonTapped recipeUID =>
      obtain rfl := Option.some.inj handled
      rw [addToRecipeBookButtonTapped]
      split
      · exact .inl (List.Sublist.refl _)
      · rename_i recipe selected
        exact .inr ⟨recipeUID, recipe, rfl, selected, rfl, rfl⟩
  | commitDelete row =>
      cases inBook : client.savedRecipes[row]? with
      | none => simp [handle, RecipeBook.commitDelete, inBook] at handled
      | some saved =>
          obtain ⟨index, deletes⟩ := commitDelete_eq texts inBook
          rw [handle, deletes] at handled
          obtain ⟨uid, -, rfl⟩ := Option.map_eq_some_iff.mp handled
          exact .inl (List.eraseIdx_sublist _ _)

theorem rows_resume (continuation : Continuation) (reply : Reply) (input : Input)
    (client : Client) :
    (resume continuation reply input client).client.savedRecipes = client.savedRecipes ∨
      ∃ snapshot rows, reply = .documents snapshot ∧
        UserController.fetchRecipe client.currentUser (.documents snapshot) = .ok rows ∧
        (resume continuation reply input client).client.savedRecipes = rows := by
  cases continuation with
  | recipesLoaded =>
      rw [resume, recipesLoaded]
      split
      · exact .inl rfl
      · rename_i rows fetched
        cases reply with
        | documents snapshot => exact .inr ⟨snapshot, rows, rfl, fetched, rfl⟩
        | _ => cases fetched
  | searched =>
      simp only [resume, searched]
      split
      · split <;> exact .inl rfl
      · exact .inl rfl
  | recipeSaved => exact .inl rfl
  | recipeDeleted => exact .inl rfl

/-- The rows of every book are named, with IDs that have been issued. Replies list documents
under different IDs. -/
structure BooksNamed (texts : TextEquality) (recipeContainer : Collection)
    (trace : RecipeBook.Trace) (s : RecipeBook.State) : Prop where
  kept : (localStore texts).Kept (oldIDs recipeContainer) WrittenUnder trace s
  known : ∀ client, ∀ row ∈ (s.clients client).savedRecipes,
    (localStore texts).Known (oldIDs recipeContainer) trace row.documentID
  named : ∀ client, NamedRows (s.clients client)
  lists : ∀ task ∈ s.tasks, ∀ snapshot, task.reply = some (.documents snapshot) →
    (snapshot.map Prod.fst).Nodup

section

variable {recipeContainer : Collection} {trace : RecipeBook.Trace} {s s' : RecipeBook.State}
  {label : RecipeBook.Label} {output : Output}

theorem BooksNamed.lists_step (named : BooksNamed texts recipeContainer trace s)
    (stepped : (localProgram texts).StepCase s label output s') :
    ∀ task ∈ s'.tasks, ∀ snapshot, task.reply = some (.documents snapshot) →
      (snapshot.map Prod.fst).Nodup := by
  intro task member snapshot answered
  rcases Program.reply_of_stepCase stepped member answered with
    earlier | ⟨fate, served, -, -, -, reply⟩
  · exact named.lists task earlier snapshot answered
  · obtain rfl := serve_eq_documents reply
    exact List.pairwise_map.mpr ((OrderedMaps.pairwise_toList _).imp fun ordered => ordered.ne)

theorem BooksNamed.rows_step (named : BooksNamed texts recipeContainer trace s)
    (permitted : Used texts recipeContainer trace s label)
    (stepped : (localProgram texts).StepCase s label output s') (client : Nat) :
    NamedRows (s'.clients client) ∧ ∀ row ∈ (s'.clients client).savedRecipes,
      (localStore texts).Known (oldIDs recipeContainer) ((label, output) :: trace)
        row.documentID := by
  have earlier : ∀ other, NamedRows (s.clients other) ∧ ∀ row ∈ (s.clients other).savedRecipes,
      (localStore texts).Known (oldIDs recipeContainer) ((label, output) :: trace)
        row.documentID :=
    fun other => ⟨named.named other, fun row inBook => (named.known other row inBook).step _⟩
  cases stepped with
  | @act actor action effect handled =>
      refine RequestReply.State.forall_clients_commit (Q := fun client => NamedRows client ∧
        ∀ row ∈ client.savedRecipes,
          (localStore texts).Known (oldIDs recipeContainer) _ row.documentID) earlier ?_ client
      rcases rows_handle handled with fewer | ⟨recipeUID, recipe, rfl, selected, rows, requests⟩
      · exact ⟨(named.named actor).sublist fewer,
          fun row inBook => (earlier actor).2 row (fewer.subset inBook)⟩
      · obtain ⟨⟨unknown, -⟩, searched⟩ := permitted
        refine ⟨(named.named actor).added rows (searched recipe selected) ?_, fun row inBook => ?_⟩
        · rintro row inBook rfl
          exact unknown (named.known actor row inBook)
        · rw [rows] at inBook
          rcases List.mem_append.mp inBook with old | new
          · exact (earlier actor).2 row old
          · obtain rfl := List.mem_singleton.mp new
            refine RequestReply.Store.known_of_issued ?_
            rw [requests]
            exact List.mem_singleton_self recipeUID
  | serve inFlight waiting => exact earlier client
  | @deliver index input task reply effect inFlight answered resumed =>
      obtain rfl : resume task.continuation reply input (s.clients task.client) = effect :=
        Option.some.inj resumed
      refine RequestReply.State.forall_clients_commit (Q := fun client => NamedRows client ∧
        ∀ row ∈ client.savedRecipes,
          (localStore texts).Known (oldIDs recipeContainer) _ row.documentID) earlier ?_ client
      rcases rows_resume task.continuation reply input (s.clients task.client) with
        same | ⟨snapshot, rows, rfl, fetched, loaded⟩
      · refine ⟨(named.named task.client).sublist (same ▸ List.Sublist.refl _), ?_⟩
        exact fun row inBook => (earlier task.client).2 row (same ▸ inBook)
      · have member := List.mem_of_getElem? inFlight
        have documents := named.kept.listed task member _ answered
        refine ⟨namedRows_fetched (named.lists task member snapshot answered)
          (fun id document listed => (documents id document listed).1) fetched loaded, ?_⟩
        intro row inBook
        rw [loaded] at inBook
        obtain ⟨document, listed, -⟩ := mem_fetchRecipe fetched inBook
        exact (documents _ _ listed).2.step _

/-- **One step keeps the rows named.** -/
theorem BooksNamed.step (named : BooksNamed texts recipeContainer trace s)
    (permitted : Used texts recipeContainer trace s label)
    (stepped : (localProgram texts).StepCase s label output s') :
    BooksNamed texts recipeContainer ((label, output) :: trace) s' where
  kept := by
    obtain ⟨tasks, own⟩ := Program.stepCase_of_withLocalWrites stepped
    refine named.kept.step (freshlyIssued permitted.1 own).withLocalWrites ?_ stepped
    intro issued requested id document written
    obtain ⟨client, -, -, good⟩ := writes_of_step own requested written
    exact good
  known client := (named.rows_step permitted stepped client).2
  named client := (named.rows_step permitted stepped client).1
  lists := named.lists_step stepped

end

/-- Swipes take exactly their rows, and only the callback of a fetch exchanges the book. -/
theorem law (texts : TextEquality) :
    (table texts).Law fun s => ∀ client, NamedRows (s.clients client) where
  swipes := by
    intro s client action row effect named handled swiped
    cases action with
    | commitDelete swipedRow =>
        obtain rfl := Option.some.inj swiped
        replace handled : RecipeBook.commitDelete texts swipedRow (s.clients client) =
          some effect := handled
        cases inBook : (s.clients client).savedRecipes[swipedRow]? with
        | none => simp [RecipeBook.commitDelete, inBook] at handled
        | some saved =>
            rw [(named client).commitDelete texts inBook] at handled
            obtain rfl := Option.some.inj (Option.ite_none_right_eq_some.mp handled).2
            rfl
    | _ => cases swiped
  callbacks := by
    intro continuation reply input client effect noLoad resumed
    obtain rfl := Option.some.inj resumed
    cases continuation with
    | recipesLoaded => cases noLoad
    | searched =>
        simp only [table, resume, searched]
        split
        · split <;> rfl
        · rfl
    | recipeSaved => rfl
    | recipeDeleted => rfl

/-! ## The result -/

section

variable {s₀ s : State} {trace : Trace}

theorem booksNamed_run (opened : Opened s₀.withoutTables)
    (run : (screens texts).Run (LoadedElsewhere texts s₀.server) s₀ trace s) :
    BooksNamed texts s₀.server (RequestReply.withoutTables trace) s.withoutTables := by
  have ownRun : (localProgram texts).Run (Used texts s₀.server) s₀.withoutTables
      (RequestReply.withoutTables trace) s.withoutTables :=
    Table.run_withoutTables (fun used isOwn => used.2 _ isOwn) run
  refine ownRun.invariant (I := fun trace s => BooksNamed texts s₀.server trace s) ?_
    fun named permitted stepped => named.step permitted stepped
  have empty : ∀ client, (s₀.withoutTables.clients client).savedRecipes = [] := opened.empty
  refine ⟨?_, ?_, fun client => ?_, ?_⟩
  · exact Store.kept_start opened.idle fun id document stored =>
      ⟨Option.isSome_iff_exists.mpr ⟨document, stored⟩, opened.written id document stored⟩
  · simp [empty]
  · constructor <;> simp [empty]
  · simp [opened.idle]

/-- **While no fetch exchanges the book in front, the table has the rows of the book**, in every
run. **A swipe crashes exactly when the row was added and not fetched**, and otherwise takes the
row out of both and deletes its document. -/
theorem swipe_crashes_iff_added (opened : Opened s₀.withoutTables)
    (hidden : ∀ client, (s₀.clients client).isShown = false)
    (run : (screens texts).Run (LoadedElsewhere texts s₀.server) s₀ trace s) {client row : Nat}
    {saved : Row} (shown : (s.clients client).isShown = true)
    (displayed : (s.clients client).rows[row]? = some saved) :
    (s.clients client).rows = (s.clients client).client.savedRecipes ∧
      ((screens texts).step s (.act client (.own (.commitDelete row))) = none ↔
        saved.isFetched = false) ∧
      ∀ output s',
        (screens texts).step s (.act client (.own (.commitDelete row))) = some (output, s') →
        (s'.clients client).rows = (s.clients client).rows.eraseIdx row ∧
        (s'.clients client).client.savedRecipes = (s.clients client).rows.eraseIdx row ∧
        output.requests = [(.deleteRecipe saved.documentID, .recipeDeleted)] := by
  have rows : (s.clients client).rows = (s.clients client).client.savedRecipes :=
    (law texts).shows_run (fun permitted => permitted.1) hidden
      (fun earlier => (booksNamed_run opened earlier).named) run client shown
  have named : NamedRows (s.clients client).client := (booksNamed_run opened run).named client
  have inBook : (s.clients client).client.savedRecipes[row]? = some saved := rows ▸ displayed
  have handled := named.commitDelete texts inBook
  cases fetched : saved.isFetched with
  | false =>
      rw [fetched, if_neg Bool.false_ne_true] at handled
      have trapped : (screens texts).step s (.act client (.own (.commitDelete row))) = none := by
        simp only [screens, Program.step, Table.withTable, localProgram, Program.withLocalWrites,
          program, handle, handled, Option.bind_none]
      refine ⟨rows, iff_of_true trapped rfl, fun output s' stepped => ?_⟩
      rw [trapped] at stepped
      cases stepped
  | true =>
      rw [fetched, if_pos rfl] at handled
      have inRange := (List.getElem?_eq_some_iff.mp displayed).1
      have oneLess : ((s.clients client).client.savedRecipes.eraseIdx row).length + 1 =
          (s.clients client).rows.length := by
        rw [← rows, List.length_eraseIdx_of_lt inRange]
        omega
      have swiped : (screens texts).handle (.own (.commitDelete row)) (s.clients client) = some _ :=
        Table.handle_swiped rfl handled oneLess
      have step := (screens texts).step_act swiped
      refine ⟨rows, by simp [step], fun output s' stepped => ?_⟩
      obtain ⟨rfl, rfl⟩ := Prod.mk.inj (Option.some.inj (step.symm.trans stepped))
      rw [RequestReply.State.commit_clients_self]
      exact ⟨rfl, congrArg (List.eraseIdx · row) rows.symm, rfl⟩

end

/-- The home screen, with no book in front. -/
def homeScreens : State where
  clients client := { client := home.clients client }
  server := home.server
  tasks := home.tasks

theorem homeScreens_opened : Opened homeScreens.withoutTables := home_opened

/-- A recipe is added below a fetched one, and its row crashes. -/
theorem swipe_crashes_iff_added_below :
    ∃ trace s saved,
      (screens .codePoints).Run (LoadedElsewhere .codePoints homeScreens.server) homeScreens trace
        s ∧
      (s.clients 0).rows[1]? = some saved ∧
      (screens .codePoints).step s (.act 0 (.own (.commitDelete 1))) = none := by
  have executed : ((screens .codePoints).execute
      (LoadedElsewhere .codePoints homeScreens.server) homeScreens
      [.act 0 (.own .loadUserData), .serve 0 .answered, .deliver 0 {},
        .act 0 (.own (.searchBarSearchButtonClicked "soup")), .serve 0 (.answeredWith searchAnswer),
        .deliver 0 {}, .act 0 (.own (.didSelectRowAt 0)),
        .act 0 (.own (.addToRecipeBookButtonTapped "R2")), .act 0 .viewWillAppear] []).any
        (fun last => decide ((last.2.clients 0).isShown = true) &&
          (last.2.clients 0).rows[1]?.any fun saved => !saved.isFetched) = true := by
    decide
  obtain ⟨⟨trace, s⟩, followed, last⟩ := (Option.any_eq_true _ _).mp executed
  obtain ⟨shown, listed⟩ := Bool.and_eq_true_iff.mp last
  obtain ⟨saved, displayed, added⟩ := (Option.any_eq_true _ _).mp listed
  have run := Program.Run.of_execute .start followed
  obtain ⟨-, crashes, -⟩ := swipe_crashes_iff_added homeScreens_opened (fun _ => rfl) run
    (of_decide_eq_true shown) displayed
  refine ⟨trace, s, saved, run, displayed, crashes.mpr ?_⟩
  simpa using added

end BookTable

end MyMealPrep.RecipeBook
