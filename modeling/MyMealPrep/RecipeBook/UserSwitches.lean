import MyMealPrep.Machines.OutsideChanges
import MyMealPrep.Machines.Owners
import MyMealPrep.RecipeBook.RecipeController
import MyMealPrep.RecipeBook.SwipeDeletes

/-!
# Users that sign in one after another

A sign-in replaces the current user of a client and nothing else: the book of the user
before stays in memory, and so do the fetches in flight. Nobody but the client keeps
the users apart, the recipe container deletes what it is told to. A fetch shows a client also
its own saves and deletes that are still in flight (`localSessions`).

The home screen loads the book anew after each sign-in. A book is current when it has
been emptied for a load since the last sign-in, even while the answers of older
fetches still arrive: their callback filters by the user of that moment. When only
rows of current books are swiped, no document disappears unless its author was
signed in where its deletion was issued (`deleted_by_author`).
-/

set_option autoImplicit false

namespace MyMealPrep.RecipeBook

open Firestore (Collection Document Snapshot Value)
open RequestReply (OrOutside Ownership Program Store)

namespace UserSwitches

variable {texts : TextEquality}

/-! ## The program with sign-ins -/

/-- What the other screens do to a recipe book: a user signs in, or the recipe of the home
screen is opened, with the hits that it was taken from. -/
inductive Change where
  | signIn (user : User)
  | randomRecipeTapped (hits : Json) (chances : RecipeController.Chances)

/-- `randomRecipe` of the home screen, from the answer to `fetchRandomRecipe`. -/
def randomRecipe (hits : Json) (chances : RecipeController.Chances) : Option Recipe :=
  (Recipe.decodeHits hits chances.clock).bind (RecipeController.randomElement chances)

/-- A sign-in sets `UserController.shared.currentUser`, and `randomRecipeTapped` the recipe of
the detail screen. -/
def change : Change → Client → Client
  | .signIn user, client => { client with currentUser := some user }
  | .randomRecipeTapped hits chances, client =>
      { client with selected := randomRecipe hits chances }

abbrev Label := RequestReply.Label (OrOutside Action Change) Input Fate
abbrev Trace :=
  RequestReply.Trace Request Continuation (OrOutside Action Change) Input Fate Empty

/-- The recipe book of clients on which users sign in. -/
def sessions (texts : TextEquality) : Program Client Collection Request Reply Continuation
    (OrOutside Action Change) Input Fate Empty :=
  (program texts).withOutside change

/-- The recipe container, seen from them. -/
def sessionStore (texts : TextEquality) : Store (sessions texts) String Document :=
  (recipeStore texts).withOutside change

/-- The same over Firestore's local stores: a fetch of a client shows its own saves and deletes
before they are served. -/
def localSessions (texts : TextEquality) : Program Client Collection Request Reply Continuation
    (OrOutside Action Change) Input Fate Empty :=
  (sessions texts).withLocalWrites .answered

theorem servesStored (texts : TextEquality) : (sessionStore texts).ServesStored :=
  fun _ _ _ _ _ => stored_of_listed

/-- The recipe container, seen from them. -/
abbrev localSessionStore (texts : TextEquality) : Store (localSessions texts) String Document :=
  (sessionStore texts).withLocalWrites .answered (servesStored texts)

/-- The book of the client has been emptied for a load since the last sign-in. At the start it
is empty. -/
def isCurrent : Trace → Nat → Bool
  | [], _ => true
  | entry :: earlier, client =>
      match entry.1 with
      | .act other (.outside (.signIn _)) => other != client && isCurrent earlier client
      | .act other (.own .loadUserData) => other == client || isCurrent earlier client
      | _ => isCurrent earlier client

/-- IDs are fresh, a recipe that is added has no ID yet, as the search answers it, and only
rows of a current book are swiped. -/
def Guarded (texts : TextEquality) (recipeContainer : Collection) (trace : Trace) (s : State) :
    Label → Prop
  | .act client (.own (.addToRecipeBookButtonTapped recipeUID)) =>
      ¬ (sessionStore texts).Known (oldIDs recipeContainer) trace recipeUID ∧
        ∀ recipe ∈ (s.clients client).selected, recipe.uid = none
  | .act client (.own (.commitDelete _)) => isCurrent trace client = true
  | _ => True

instance (recipeContainer : Collection) (trace : Trace) (id : String) :
    Decidable ((sessionStore texts).Known (oldIDs recipeContainer) trace id) :=
  inferInstanceAs (Decidable (recipeContainer[id]?.isSome = true ∨
    ∃ entry ∈ trace, id ∈ (sessionStore texts).issuedKeys entry.2.requests))

instance (recipeContainer : Collection) (trace : Trace) (s : State) (label : Label) :
    Decidable (Guarded texts recipeContainer trace s label) := by
  unfold Guarded
  split <;> infer_instance

/-! ## Whose documents are whose -/

/-- The ID of the document that a request is to delete. -/
def deletion : Request → Option String
  | .deleteRecipe uid => some uid
  | _ => none

/-- A document is its author's, a client its current user's, and a row names the document
with the `uid` of its recipe. -/
def authors (texts : TextEquality) : Ownership (sessionStore texts) String where
  owner document := Document.text document Constants.authorID
  tenant client := client.currentUser.map User.uuid
  names client id := ∃ row ∈ client.savedRecipes, row.recipe.uid = some id
  current trace client := isCurrent trace client = true
  removal := deletion
  barred _ _ := False
  removal_of_lost := by
    intro fate recipeContainer request id document stored gone
    replace stored : recipeContainer[id]? = some document := stored
    replace gone : (serve fate recipeContainer request).1[id]? = none := gone
    have unchanged : ¬ recipeContainer[id]? = none := by simp [stored]
    cases request with
    | deleteRecipe uid =>
        by_cases same : uid = id
        · exact congrArg some same
        · have kept : (recipeContainer.delete uid)[id]? = recipeContainer[id]? :=
            (Collection.delete_get _ _ _).trans (if_neg same)
          cases fate with
          | failed => exact absurd gone unchanged
          | _ => exact absurd (kept.symm.trans gone) unchanged
    | setRecipe recipeUID data =>
        have kept : (recipeContainer.setData recipeUID data)[id]? ≠ none := by
          rw [Collection.setData_get]
          split
          · exact Option.some_ne_none _
          · exact unchanged
        cases fate with
        | failed => exact absurd gone unchanged
        | _ => exact absurd gone kept
    | _ => cases fate <;> exact absurd gone unchanged

theorem text_authorID_dictionary (recipe : Recipe) (id : String) (authorID : Option String) :
    Document.text (Value.storedFields (recipe.dictionary id authorID)) Constants.authorID =
      some (authorID.getD "") := by
  simp [Document.text, Document.field, Recipe.dictionary, Value.storedFields_eq_map,
    List.lookup_cons, Constants.recipeLabel, Constants.recipeImage, Constants.recipeDirections,
    Constants.recipeIngredients, Constants.recipeYield, Constants.recipeTotalTime,
    Constants.recipeUID, Constants.recipeIsChecked, Constants.dateToEat, Constants.authorID,
    Value.asString]

/-! ## What handlers and callbacks do -/

theorem handle_currentUser {action : Action} {client : Client} {effect : Effect}
    (handled : handle texts action client = some effect) :
    effect.client.currentUser = client.currentUser := by
  cases action with
  | loadUserData =>
      obtain rfl := Option.some.inj handled
      rfl
  | searchBarSearchButtonClicked searchTerm =>
      obtain rfl := Option.some.inj handled
      rw [searchBarSearchButtonClicked]
      split <;> rfl
  | didSelectRowAt row =>
      simp only [handle, didSelectRowAt] at handled
      split at handled
      · cases handled
      · obtain rfl := Option.some.inj handled
        rfl
  | addToRecipeBookButtonTapped recipeUID =>
      obtain rfl := Option.some.inj handled
      rw [addToRecipeBookButtonTapped]
      split <;> rfl
  | commitDelete row =>
      cases inBook : client.savedRecipes[row]? with
      | none => simp [handle, commitDelete, inBook] at handled
      | some saved =>
          obtain ⟨index, deletes⟩ := commitDelete_eq texts inBook
          rw [handle, deletes] at handled
          obtain ⟨uid, _, rfl⟩ := Option.map_eq_some_iff.mp handled
          rfl

theorem names_of_handle {action : Action} {client : Client} {effect : Effect}
    (handled : handle texts action client = some effect)
    (noID : ∀ recipeUID, action = .addToRecipeBookButtonTapped recipeUID →
      ∀ recipe ∈ client.selected, recipe.uid = none)
    {id : String} (named : (authors texts).names effect.client id) :
    action ≠ .loadUserData ∧ (authors texts).names client id := by
  obtain ⟨row, member, uid⟩ := named
  cases bookCase_of_handle handled with
  | kept rows writes =>
      refine ⟨?_, row, rows member, uid⟩
      rintro rfl
      obtain rfl := Option.some.inj handled
      cases member
  | @added recipeUID recipe _ selected rows writes =>
      rw [rows] at member
      rcases List.mem_append.mp member with old | new
      · exact ⟨Action.noConfusion, row, old, uid⟩
      · obtain rfl := List.mem_singleton.mp new
        rw [noID recipeUID rfl recipe selected] at uid
        cases uid

/-- A deletion comes from a swipe on a row that names the document. -/
theorem deletion_of_handle {action : Action} {client : Client} {effect : Effect}
    (handled : handle texts action client = some effect) {issued : Request × Continuation}
    (requested : issued ∈ effect.requests) {id : String} (deletes : deletion issued.1 = some id) :
    (∃ row, action = .commitDelete row) ∧ (authors texts).names client id := by
  cases action with
  | commitDelete row =>
      cases inBook : client.savedRecipes[row]? with
      | none => simp [handle, commitDelete, inBook] at handled
      | some saved =>
          obtain ⟨index, swiped⟩ := commitDelete_eq texts inBook
          rw [handle, swiped] at handled
          obtain ⟨uid, named, rfl⟩ := Option.map_eq_some_iff.mp handled
          obtain rfl := List.mem_singleton.mp requested
          obtain rfl := Option.some.inj deletes
          exact ⟨⟨row, rfl⟩, saved, List.mem_of_getElem? inBook, named⟩
  | loadUserData =>
      obtain rfl := Option.some.inj handled
      obtain rfl := List.mem_singleton.mp requested
      cases deletes
  | searchBarSearchButtonClicked searchTerm =>
      obtain rfl := Option.some.inj handled
      rw [searchBarSearchButtonClicked] at requested
      split at requested
      · cases requested
      · obtain rfl := List.mem_singleton.mp requested
        cases deletes
  | didSelectRowAt row =>
      simp only [handle, didSelectRowAt] at handled
      split at handled
      · cases handled
      · obtain rfl := Option.some.inj handled
        cases requested
  | addToRecipeBookButtonTapped recipeUID =>
      obtain rfl := Option.some.inj handled
      rw [addToRecipeBookButtonTapped] at requested
      split at requested
      · cases requested
      · obtain rfl := List.mem_singleton.mp requested
        cases deletes

theorem resume_currentUser (continuation : Continuation) (reply : Reply) (input : Input)
    (client : Client) :
    (resume continuation reply input client).client.currentUser = client.currentUser := by
  cases continuation with
  | recipesLoaded =>
      simp only [resume, recipesLoaded]
      split <;> rfl
  | searched =>
      simp only [resume, searched]
      split
      · split <;> rfl
      · rfl
  | recipeSaved => rfl
  | recipeDeleted => rfl

/-- A row after a callback is an old one, or was read from a document listed, by the current
user. -/
theorem row_of_resume {continuation : Continuation} {reply : Reply} {input : Input}
    {client : Client} {row : Row}
    (member : row ∈ (resume continuation reply input client).client.savedRecipes) :
    row ∈ client.savedRecipes ∨ ∃ document, (row.documentID, document) ∈ listedDocuments reply ∧
      Recipe.ofDocument document = some row.recipe ∧
      row.recipe.authorID = client.currentUser.map User.uuid := by
  cases continuation with
  | recipesLoaded =>
      simp only [resume, recipesLoaded] at member
      split at member
      · exact .inl member
      · rename_i rows fetched
        cases reply with
        | documents snapshot =>
            obtain ⟨document, listed, _, read⟩ := mem_fetchRecipe fetched member
            rw [UserController.fetchRecipe] at fetched
            split at fetched
            · cases fetched
            · obtain rfl := Except.ok.inj fetched
              exact .inr ⟨document, listed, read, eq_of_beq (List.mem_filter.mp member).2⟩
        | _ => cases fetched
  | searched =>
      simp only [resume, searched] at member
      split at member
      · split at member <;> exact .inl member
      · exact .inl member
  | recipeSaved => exact .inl member
  | recipeDeleted => exact .inl member

/-! ## The clients keep to the authors -/

section

variable {recipeContainer : Collection} {trace : Trace} {s s' : State} {label : Label}
  {output : Output}

/-- What writes a document is the add button, with the ID that comes with it. -/
theorem writes_of_sessions (stepped : (sessions texts).StepCase s label output s')
    {issued : Request × Continuation} (requested : issued ∈ output.requests) {id : String}
    {document : Document} (written : (sessionStore texts).writes issued.1 = some (id, document)) :
    ∃ client, label = .act client (.own (.addToRecipeBookButtonTapped id)) ∧
      output.requests = [issued] ∧ WrittenUnder id document := by
  rcases Program.stepCase_withOutside stepped with
    ⟨inner, rfl, own⟩ | ⟨client, change, -, rfl, -⟩
  · obtain ⟨client, rfl, alone, good⟩ := writes_of_step own requested written
    exact ⟨client, rfl, alone, good⟩
  · cases requested

/-- A book that is current after a step was so before it, unless the step loads it. -/
theorem isCurrent_before {trace : Trace} {label : Label} {output : Output} {client : Nat}
    (current : isCurrent ((label, output) :: trace) client = true)
    (noLoad : label ≠ .act client (.own .loadUserData)) : isCurrent trace client = true := by
  cases label with
  | act other action =>
      cases action with
      | outside change =>
          cases change with
          | signIn user => exact (Bool.and_eq_true_iff.mp current).2
          | _ => exact current
      | own action =>
          cases action with
          | loadUserData =>
              rcases Bool.or_eq_true_iff.mp current with here | before
              · obtain rfl := eq_of_beq here
                exact absurd rfl noLoad
              · exact before
          | _ => exact current
  | _ => exact current

/-- A row that names a document of a current book was in it before, or is new and of a document
of the current user. -/
theorem names_of_step
    (kept : (sessionStore texts).Kept (oldIDs recipeContainer) WrittenUnder trace s)
    (permitted : Guarded texts recipeContainer trace s label)
    (stepped : (sessions texts).StepCase s label output s') (client : Nat)
    (current : isCurrent ((label, output) :: trace) client = true) (id : String)
    (named : (authors texts).names (s'.clients client) id) :
    (isCurrent trace client = true ∧
      (authors texts).tenant (s'.clients client) = (authors texts).tenant (s.clients client) ∧
        (authors texts).names (s.clients client) id) ∨
    ∃ task ∈ s.tasks, ∃ reply document, task.reply = some reply ∧
      (id, document) ∈ (sessionStore texts).lists reply ∧
        (authors texts).owner document = (authors texts).tenant (s'.clients client) := by
  cases stepped with
  | @act actor action effect handled =>
      by_cases same : client = actor
      · subst same
        rw [RequestReply.State.commit_clients_self] at named ⊢
        cases action with
        | outside change =>
            cases change with
            | signIn user => simp [isCurrent] at current
            | randomRecipeTapped hits chances =>
                obtain rfl := Option.some.inj handled
                exact .inl ⟨current, rfl, named⟩
        | own action =>
            have noID : ∀ recipeUID, action = .addToRecipeBookButtonTapped recipeUID →
                ∀ recipe ∈ (s.clients client).selected, recipe.uid = none := by
              rintro recipeUID rfl
              exact permitted.2
            obtain ⟨noLoad, before⟩ := names_of_handle handled noID named
            have earlier := isCurrent_before current (by simpa using noLoad)
            have sameUser := congrArg (Option.map User.uuid) (handle_currentUser handled)
            exact .inl ⟨earlier, sameUser, before⟩
      · rw [RequestReply.State.commit_clients_of_ne _ _ _ same] at named ⊢
        have earlier := isCurrent_before current fun loads => same (by cases loads; rfl)
        exact .inl ⟨earlier, rfl, named⟩
  | serve inFlight waiting => exact .inl ⟨current, rfl, named⟩
  | @deliver index input task reply effect inFlight answered resumed =>
      obtain rfl : resume task.continuation reply input (s.clients task.client) = effect :=
        Option.some.inj resumed
      by_cases same : client = task.client
      · subst same
        rw [RequestReply.State.commit_clients_self] at named ⊢
        have sameUser := resume_currentUser task.continuation reply input (s.clients task.client)
        obtain ⟨row, member, uid⟩ := named
        rcases row_of_resume member with old | ⟨document, listed, read, author⟩
        · exact .inl ⟨current, congrArg (Option.map User.uuid) sameUser, row, old, uid⟩
        · have member := List.mem_of_getElem? inFlight
          have written := (kept.listed task member reply answered _ _ listed).1
          obtain rfl := Option.some.inj (uid.symm.trans (written.uid read))
          refine .inr ⟨task, member, reply, document, answered, listed, ?_⟩
          obtain ⟨recipe, authorID, rfl⟩ := written
          rw [Recipe.ofDocument_dictionary] at read
          have owner : (authors texts).owner (Value.storedFields
              (recipe.dictionary row.documentID authorID)) = some (authorID.getD "") :=
            text_authorID_dictionary recipe row.documentID authorID
          have tenant : (authors texts).tenant (resume task.continuation reply input
              (s.clients task.client)).client = row.recipe.authorID :=
            (congrArg (Option.map User.uuid) sameUser).trans author.symm
          rw [owner, tenant, ← Option.some.inj read]
          rfl
      · rw [RequestReply.State.commit_clients_of_ne _ _ _ same] at named ⊢
        exact .inl ⟨current, rfl, named⟩

/-- What deletes a document is a swipe on a row of a current book that names it. -/
theorem deletion_of_step (permitted : Guarded texts recipeContainer trace s label)
    (stepped : (sessions texts).StepCase s label output s') {issued : Request × Continuation}
    (requested : issued ∈ output.requests) {id : String} (deletes : deletion issued.1 = some id) :
    isCurrent trace output.client = true ∧ (authors texts).names (s.clients output.client) id := by
  cases stepped with
  | @act actor action effect handled =>
      cases action with
      | outside change =>
          obtain rfl := Option.some.inj handled
          cases requested
      | own action =>
          obtain ⟨⟨row, rfl⟩, named⟩ := deletion_of_handle handled requested deletes
          exact ⟨permitted, named⟩
  | serve inFlight waiting => cases requested
  | @deliver index input task reply effect inFlight answered resumed =>
      obtain rfl : resume task.continuation reply input (s.clients task.client) = effect :=
        Option.some.inj resumed
      simp only [resume_requests] at requested
      cases requested

end

/-- The app keeps to the authors of the documents. -/
theorem authors_law (texts : TextEquality) (recipeContainer : Collection) :
    (authors texts).Law (oldIDs recipeContainer) WrittenUnder (Guarded texts recipeContainer)
      fun _ _ => True where
  fresh := by
    intro trace s label output s' permitted stepped
    refine .of_alone fun issued requested id document written => ?_
    obtain ⟨client, rfl, alone, -⟩ := writes_of_sessions stepped requested written
    exact ⟨alone, permitted.1⟩
  written := by
    intro trace s label output s' _ stepped issued requested id document written
    obtain ⟨client, -, -, good⟩ := writes_of_sessions stepped requested written
    exact good
  invariant_step _ _ _ := trivial
  rows kept permitted stepped client current id named :=
    names_of_step kept permitted stepped client current id named
  removals _ permitted stepped _ requested _ deletes :=
    .inl (deletion_of_step permitted stepped requested deletes)
  barred_step _ _ never := never
  barred_unknown never := never.elim

/-! ## The result -/

/-- The same owners, for clients with local stores. -/
abbrev localAuthors (texts : TextEquality) : Ownership (localSessionStore texts) String :=
  (authors texts).withLocalWrites .answered (servesStored texts)

theorem localAuthors_law (texts : TextEquality) (recipeContainer : Collection) :
    (localAuthors texts).Law (oldIDs recipeContainer) WrittenUnder (Guarded texts recipeContainer)
      fun _ _ => True :=
  (authors_law texts recipeContainer).withLocalWrites fun _ _ => trivial

theorem authors_start {s₀ : State} (opened : Opened s₀) :
    (authors texts).Start (oldIDs s₀.server) WrittenUnder (fun _ _ => True) s₀ where
  idle := opened.idle
  stored id document stored :=
    ⟨Option.isSome_iff_exists.mpr ⟨document, stored⟩, opened.written id document stored⟩
  invariant := trivial
  unnamed client id := by
    rintro ⟨row, member, -⟩
    simp [opened.empty] at member

/-- **No document disappears unless its author deleted it**: the step serves a deletion that
a client issued at a moment of the run when the author of the document was signed in
there. -/
theorem deleted_by_author {s₀ s s' : State} {trace : Trace} {label : Label} {output : Output}
    {id : String} {document : Document} (opened : Opened s₀)
    (run : (localSessions texts).Run (Guarded texts s₀.server) s₀ trace s)
    (stepped : (localSessions texts).step s label = some (output, s'))
    (stored : s.server[id]? = some document) (gone : s'.server[id]? = none) :
    ∃ later entry earlier moment user continuation, trace = later ++ entry :: earlier ∧
      (localSessions texts).Run (Guarded texts s₀.server) s₀ earlier moment ∧
      entry.2.client = output.client ∧ (.deleteRecipe id, continuation) ∈ entry.2.requests ∧
      (moment.clients output.client).currentUser = some user ∧
      Document.text document Constants.authorID = some user.uuid := by
  have law := localAuthors_law texts s₀.server
  have start : (localAuthors texts).Start (oldIDs s₀.server) WrittenUnder (fun _ _ => True) s₀ :=
    (authors_start opened).withLocalWrites
  have kept := Ownership.kept_run law start run
  obtain ⟨request, _, -, removes, later, entry, earlier, moment, sameTrace, before, client,
    ⟨continuation, requested⟩, tenant⟩ :=
    Ownership.removed_by_owner law start run stepped stored gone
  obtain ⟨recipe, authorID, rfl⟩ := (kept.store.stored id document stored).1
  have author := text_authorID_dictionary recipe id authorID
  obtain ⟨user, signedIn, uuid⟩ := Option.map_eq_some_iff.mp (tenant.trans author)
  obtain rfl : request = .deleteRecipe id := by
    cases request with
    | deleteRecipe uid => exact congrArg Request.deleteRecipe (Option.some.inj removes)
    | _ => cases removes
  exact ⟨later, entry, earlier, moment, user, continuation, sameTrace, before, client, requested,
    signedIn, author.trans (congrArg some uuid.symm)⟩

/-- The document of a user who has come back disappears when that user swipes its row. -/
theorem deleted_by_author_home :
    ∃ trace s output s' earlier moment user,
      (localSessions .codePoints).Run (Guarded .codePoints home.server) home trace s ∧
      (localSessions .codePoints).step s (.serve 0 .answered) = some (output, s') ∧
      s'.server["R1"]? = none ∧
      (localSessions .codePoints).Run (Guarded .codePoints home.server) home earlier moment ∧
      (moment.clients output.client).currentUser = some user ∧ user.uuid = "A" := by
  have executed : ((localSessions .codePoints).execute (Guarded .codePoints home.server) home
      [.act 0 (.own .loadUserData), .act 0 (.outside (.signIn bob)), .serve 0 .answered,
        .deliver 0 {}, .act 0 (.outside (.signIn ann)), .act 0 (.own .loadUserData),
        .serve 0 .answered, .deliver 0 {}, .act 0 (.own (.commitDelete 0))] []).any
        (fun last => decide (last.2.server.textOf "R1" Constants.authorID = some "A") &&
          ((localSessions .codePoints).step last.2 (.serve 0 .answered)).any fun next =>
            next.2.server["R1"]?.isNone) = true := by
    decide
  obtain ⟨⟨trace, s⟩, followed, last⟩ := (Option.any_eq_true _ _).mp executed
  obtain ⟨author, served⟩ := Bool.and_eq_true_iff.mp last
  obtain ⟨⟨output, s'⟩, step, gone⟩ := (Option.any_eq_true _ _).mp served
  obtain ⟨document, stored, text⟩ := Option.bind_eq_some_iff.mp (of_decide_eq_true author)
  have run := Program.Run.of_execute .start followed
  obtain ⟨_, _, earlier, moment, user, _, -, before, -, -, signedIn, uuid⟩ :=
    deleted_by_author home_opened run step stored (Option.isNone_iff_eq_none.mp gone)
  exact ⟨trace, s, output, s', earlier, moment, user, run, step,
    Option.isNone_iff_eq_none.mp gone, before, signedIn, Option.some.inj (uuid.symm.trans text)⟩

/-- A book that was not loaded for the user who has signed in: the document of the user before
is deleted. -/
example :
    (((localSessions .codePoints).execute Program.anyStep home
      [.act 0 (.own .loadUserData), .serve 0 .answered, .deliver 0 {},
        .act 0 (.outside (.signIn bob)), .act 0 (.own (.commitDelete 0)),
        .serve 0 .answered] []).any fun last =>
      decide ((last.2.clients 0).currentUser = some bob) && last.2.server["R1"]?.isNone) =
      true := by
  decide

end UserSwitches

end MyMealPrep.RecipeBook
