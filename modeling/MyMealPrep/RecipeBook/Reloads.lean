import MyMealPrep.Collections.ListMoves
import MyMealPrep.Machines.Mirrors
import MyMealPrep.RecipeBook.FetchedBooks
import MyMealPrep.RecipeBook.UserSwitches

/-!
# What a reload would show

The book in memory is changed at once, and the recipe container when the requests are
served. Nothing brings the two together again but the next load. So it matters that
they agree: what is in the book is what a reload would show.

They do for a client whose user is signed in nowhere else, with any number of other
clients and users at work, when the requests for the book succeed, the book is loaded
only while nothing else is in flight for it, and recipes are added and swiped only once it
has been loaded (`reload_shows_book`). Serving requests in any order changes nothing:
the book is what the client expects of the container throughout. The other clients may
fetch while their own writes are in flight; Firestore's local stores show them these.
-/

set_option autoImplicit false

namespace MyMealPrep.RecipeBook

open Firestore (Collection Document Snapshot Value)
open RequestReply (Log Mirror OrOutside Ownership Program)

namespace UserSwitches

variable {texts : TextEquality}

/-! ## Loads -/

/-- The client has asked for its book. -/
def hasLoaded (trace : Trace) (client : Nat) : Bool :=
  trace.any fun entry =>
    match entry.1 with
    | .act other (.own .loadUserData) => other == client
    | _ => false

/-- The request concerns a search, and not the book. -/
def isSearch : Request → Bool
  | .search _ => true
  | _ => false

/-- The request is a fetch of the book. -/
def isFetch : Request → Bool
  | .getRecipes => true
  | _ => false

/-- Nothing is in flight for the book of the client. -/
def Idle (s : State) (client : Nat) : Prop :=
  ∀ task ∈ s.tasks, task.client = client → isSearch task.request = true

/-- The book has been loaded and is not being loaded. -/
def Ready (trace : Trace) (s : State) (client : Nat) : Prop :=
  hasLoaded trace client = true ∧
    ∀ task ∈ s.tasks, task.client = client → isFetch task.request = false

/-- The request succeeds. -/
def succeeds : Fate → Bool
  | .failed => false
  | _ => true

/-- The user is signed in on the client and nowhere else. The book is loaded while nothing else
is in flight for it, it is changed once it is loaded, and the requests for it succeed. -/
def Calm (client : Nat) (user : User) (trace : Trace) (s : State) : Label → Prop
  | .act other (.outside (.signIn another)) => other ≠ client ∧ another.uuid ≠ user.uuid
  | .act other (.own .loadUserData) => other = client → Idle s client
  | .act other (.own (.addToRecipeBookButtonTapped _)) => other = client → Ready trace s client
  | .act other (.own (.commitDelete _)) => other = client → Ready trace s client
  | .serve index fate => ∀ task ∈ s.tasks[index]?, task.client = client →
      isSearch task.request = true ∨ succeeds fate = true
  | _ => True

/-- The calm runs that keep to fresh IDs and to current books. -/
def Undisturbed (texts : TextEquality) (client : Nat) (user : User) (recipeContainer : Collection)
    (trace : Trace) (s : State) (label : Label) : Prop :=
  Guarded texts recipeContainer trace s label ∧ Calm client user trace s label

instance (s : State) (client : Nat) : Decidable (Idle s client) :=
  inferInstanceAs (Decidable (∀ task ∈ s.tasks, _))

instance (trace : Trace) (s : State) (client : Nat) : Decidable (Ready trace s client) :=
  inferInstanceAs (Decidable (_ ∧ ∀ task ∈ s.tasks, _))

instance (client : Nat) (user : User) (trace : Trace) (s : State) :
    (label : Label) → Decidable (Calm client user trace s label)
  | .act other (.outside (.signIn another)) =>
      inferInstanceAs (Decidable (other ≠ client ∧ another.uuid ≠ user.uuid))
  | .act other (.own .loadUserData) => inferInstanceAs (Decidable (other = client → Idle s client))
  | .act other (.own (.addToRecipeBookButtonTapped _))
  | .act other (.own (.commitDelete _)) =>
      inferInstanceAs (Decidable (other = client → Ready trace s client))
  | .serve index fate =>
      inferInstanceAs (Decidable (∀ task ∈ s.tasks[index]?, task.client = client →
        isSearch task.request = true ∨ succeeds fate = true))
  | .act _ (.outside (.randomRecipeTapped _ _))
  | .act _ (.own (.searchBarSearchButtonClicked _))
  | .act _ (.own (.didSelectRowAt _))
  | .deliver _ _ => .isTrue trivial

instance (client : Nat) (user : User) (recipeContainer : Collection) (trace : Trace) (s : State)
    (label : Label) : Decidable (Undisturbed texts client user recipeContainer trace s label) :=
  inferInstanceAs (Decidable (_ ∧ _))

/-! ## The book as a mirror -/

/-- The recipe container is a replay of the requests served, also when users switch. -/
def sessionLog (texts : TextEquality) :
    Log (localSessions texts) (localSessionStore texts).contents where
  change := (recipeLog texts).change
  contents_serve := (recipeLog texts).contents_serve

/-- The documents of the user. -/
def mirror (texts : TextEquality) (user : User) : Mirror (localSessionStore texts) where
  log := sessionLog texts
  change := servedChange .answered
  own document := Document.text document Constants.authorID = some user.uuid
  log_change fate request := by
    cases fate with
    | failed => exact .inl rfl
    | _ => exact .inr (by cases request <;> rfl)

theorem own_iff {user : User} {document : Document} :
    (mirror texts user).own document ↔ Document.text document Constants.authorID = some user.uuid :=
  Iff.rfl

/-- The row that a reload would make of a row of the book. -/
def reloaded (user : User) (row : Row) : Row where
  recipe := row.recipe.written row.documentID (some user.uuid)
  documentID := row.documentID
  isFetched := true

/-- The book is what the client expects of the container, and the client is not writing what a row
names. -/
structure BookMirrors (texts : TextEquality) (s : State) (client : Nat) (user : User) : Prop where
  nodup : ((s.clients client).savedRecipes.map Row.documentID).Nodup
  uids : ∀ row ∈ (s.clients client).savedRecipes, ∀ uid ∈ row.recipe.uid, uid = row.documentID
  unwritten : ∀ row ∈ (s.clients client).savedRecipes, ∀ uid ∈ row.recipe.uid, ∀ document,
    ¬ (mirror texts user).Writing s client uid document
  expected : ∀ id document, (mirror texts user).Expected s client id document ↔
    ∃ row ∈ (s.clients client).savedRecipes, row.documentID = id ∧
      document = Value.storedFields (row.recipe.dictionary id (some user.uuid))

/-- A reply lists what the client expects. -/
def ListsExpected (texts : TextEquality) (s : State) (client : Nat) (user : User)
    (reply : Reply) : Prop :=
  ∃ recipeContainer : Collection, reply = .documents recipeContainer.getDocuments ∧
    ∀ id document, recipeContainer[id]? = some document ∧ (mirror texts user).own document ↔
      (mirror texts user).Expected s client id document

/-! ## Requests and what they change -/

theorem change_eq_write_iff {request : Request} {id : String} {document : Document} :
    servedChange .answered request = some (id, some document) ↔
      writtenDocument request = some (id, document) := by
  cases request <;> simp [servedChange, writtenDocument]

theorem change_eq_remove_iff {request : Request} {id : String} :
    servedChange .answered request = some (id, none) ↔ deletion request = some id := by
  cases request <;> simp [servedChange, deletion]

theorem isFetch_of_isSearch {request : Request} (search : isSearch request = true) :
    isFetch request = false := by
  cases request <;> simp_all [isSearch, isFetch]

theorem change_eq_none {request : Request}
    (reads : isSearch request = true ∨ isFetch request = true) :
    servedChange .answered request = none := by
  cases request <;> simp_all [servedChange, isSearch, isFetch]

theorem serve_eq_self {request : Request}
    (reads : isSearch request = true ∨ isFetch request = true) {fate : Fate}
    {recipeContainer : Collection} : (serve fate recipeContainer request).1 = recipeContainer := by
  cases request with
  | setRecipe recipeUID data => simp [isSearch, isFetch] at reads
  | deleteRecipe uid => simp [isSearch, isFetch] at reads
  | _ => cases fate <;> rfl

/-! ## One user, one client -/

/-- The user is signed in on the client and nowhere else. -/
structure SignedIn (s : State) (client : Nat) (user : User) : Prop where
  here : (s.clients client).currentUser = some user
  nowhereElse : ∀ other, other ≠ client → ∀ another ∈ (s.clients other).currentUser,
    another.uuid ≠ user.uuid

section

variable {client : Nat} {user : User} {trace : Trace} {s s' : State} {label : Label}
  {output : Output}

theorem SignedIn.step (signedIn : SignedIn s client user) (calm : Calm client user trace s label)
    (stepped : (localSessions texts).StepCase s label output s') : SignedIn s' client user := by
  have committed : ∀ (actor : Nat) (tasks : List Task) (effect : Effect),
      effect.client.currentUser = (s.clients actor).currentUser →
        SignedIn (s.commit actor tasks effect) client user := by
    intro actor tasks effect same
    have kept : ∀ other, ((s.commit actor tasks effect).clients other).currentUser =
        (s.clients other).currentUser := by
      intro other
      by_cases here : other = actor
      · subst here
        rw [RequestReply.State.commit_clients_self, same]
      · rw [RequestReply.State.commit_clients_of_ne _ _ _ here]
    exact ⟨(kept client).trans signedIn.here,
      fun other elsewhere another there =>
        signedIn.nowhereElse other elsewhere another (kept other ▸ there)⟩
  cases stepped with
  | @act actor action effect handled =>
      cases action with
      | own action => exact committed actor s.tasks effect (handle_currentUser handled)
      | outside change =>
          obtain rfl := Option.some.inj handled
          cases change with
          | randomRecipeTapped hits chances => exact committed actor s.tasks _ rfl
          | signIn newUser =>
              obtain ⟨elsewhere, different⟩ := calm
              refine ⟨?_, fun other otherElsewhere another there => ?_⟩
              · rw [RequestReply.State.commit_clients_of_ne _ _ _ elsewhere.symm]
                exact signedIn.here
              · by_cases same : other = actor
                · subst same
                  rw [RequestReply.State.commit_clients_self] at there
                  obtain rfl := Option.some.inj there
                  exact different
                · rw [RequestReply.State.commit_clients_of_ne _ _ _ same] at there
                  exact signedIn.nowhereElse other otherElsewhere another there
  | serve inFlight waiting => exact ⟨signedIn.here, signedIn.nowhereElse⟩
  | @deliver index input task reply effect inFlight answered resumed =>
      obtain rfl : resume task.continuation reply input (s.clients task.client) = effect :=
        Option.some.inj resumed
      exact committed task.client _ _ (resume_currentUser _ _ _ _)

theorem author_of_handle {memory : Client} {action : Action} {effect : Effect}
    (handled : handle texts action memory = some effect) {issued : Request × Continuation}
    (requested : issued ∈ effect.requests) {id : String} {document : Document}
    (written : writtenDocument issued.1 = some (id, document)) :
    Document.text document Constants.authorID =
      some ((memory.currentUser.map User.uuid).getD "") := by
  cases bookCase_of_handle handled with
  | kept rows writes =>
      rw [writes issued requested] at written
      cases written
  | added selected rows writes =>
      rw [writes] at requested
      obtain rfl := List.mem_singleton.mp requested
      obtain ⟨rfl, rfl⟩ := Prod.mk.inj (Option.some.inj written)
      exact text_authorID_dictionary _ _ _

/-- The documents that the client is going to write are its user's, and the others are not. -/
def Authored (texts : TextEquality) (s : State) (client : Nat) (user : User) : Prop :=
  ∀ task ∈ s.tasks, ∀ id document, writtenDocument task.request = some (id, document) →
    ((mirror texts user).own document ↔ task.client = client)

theorem Authored.step (authored : Authored texts s client user) (signedIn : SignedIn s client user)
    (named : user.uuid ≠ "") (stepped : (localSessions texts).StepCase s label output s') :
    Authored texts s' client user := by
  intro task member id document written
  rcases Program.mem_tasks_of_stepCase stepped member with
    ⟨earlier, inFlight, sameClient, sameRequest⟩ | ⟨issued, requested, rfl⟩
  · rw [← sameClient]
    exact authored earlier inFlight id document (sameRequest ▸ written)
  · cases stepped with
    | @act actor action effect handled =>
        cases action with
        | outside change =>
            obtain rfl := Option.some.inj handled
            cases requested
        | own action =>
            have author := author_of_handle handled requested written
            rw [own_iff, author, Option.some.injEq]
            show _ ↔ actor = client
            constructor
            · intro same
              by_contra elsewhere
              cases there : (s.clients actor).currentUser with
              | none =>
                  rw [there] at same
                  exact named same.symm
              | some another =>
                  rw [there] at same
                  exact signedIn.nowhereElse actor elsewhere another there same
            · rintro rfl
              rw [signedIn.here]
              rfl
    | serve inFlight waiting => cases requested
    | @deliver index input task reply effect inFlight answered resumed =>
        obtain rfl : resume task.continuation reply input (s.clients task.client) = effect :=
          Option.some.inj resumed
        simp only [resume_requests] at requested
        cases requested

/-! ## What is expected -/

variable {s₀ : State}

/-- What the owners of the documents give in an undisturbed run. -/
abbrev DocumentsKept (texts : TextEquality) (client : Nat) (user : User) (s₀ : State)
    (trace : Trace) (s : State) : Prop :=
  Ownership.Kept (localAuthors texts) (oldIDs s₀.server) WrittenUnder
    (Undisturbed texts client user s₀.server) (fun _ _ => True) s₀ trace s

theorem absent_of_writing (kept : DocumentsKept texts client user s₀ trace s) {other : Nat}
    {id : String} {document : Document}
    (writing : (mirror texts user).Writing s other id document) :
    s.server[id]? = none := by
  obtain ⟨request, ⟨task, member, -, rfl, waiting⟩, writes⟩ := writing
  cases stored : s.server[id]? with
  | none => rfl
  | some found =>
      have settled := (kept.store.stored id found stored).2
      exact absurd (RequestReply.Store.mem_pending_of_writes (K := localSessionStore texts) member
        waiting (change_eq_write_iff.mp writes)) settled.notPending

theorem not_writing_step
    (fresh : (localSessionStore texts).FreshlyIssued (oldIDs s₀.server) trace output.requests)
    (stepped : (localSessions texts).StepCase s label output s') {id : String}
    (known : (localSessionStore texts).Known (oldIDs s₀.server) trace id) {other : Nat}
    (before : ∀ document, ¬ (mirror texts user).Writing s other id document)
    (document : Document) : ¬ (mirror texts user).Writing s' other id document := by
  rintro ⟨request, unserved, writes⟩
  rcases RequestReply.unserved_of_step stepped unserved with
    earlier | ⟨-, continuation, requested⟩
  · exact before document ⟨request, earlier, writes⟩
  · have issued := RequestReply.Store.mem_issuedKeys (K := localSessionStore texts) requested
      (change_eq_write_iff.mp writes)
    exact fresh.unknown id issued known

/-- The client and the others keep apart. -/
theorem separate (kept : DocumentsKept texts client user s₀ trace s)
    (authored : Authored texts s client user)
    (apart : ∀ id, (mirror texts user).Removing s client id → ∀ document,
      ¬ (mirror texts user).Writing s client id document)
    (signedIn : ∀ {earlier moment}, (localSessions texts).Run
      (Undisturbed texts client user s₀.server) s₀ earlier moment → SignedIn moment client user) :
    (mirror texts user).Separate s client where
  written id document writing := by
    refine ⟨?_, absent_of_writing kept writing, fun removing => apart id removing document writing⟩
    obtain ⟨_, ⟨task, member, own, rfl, -⟩, writes⟩ := writing
    exact (authored task member id document (change_eq_write_iff.mp writes)).mpr own
  foreignWritten other elsewhere id document writing := by
    refine ⟨?_, absent_of_writing kept writing⟩
    obtain ⟨_, ⟨task, member, foreign, rfl, -⟩, writes⟩ := writing
    intro own
    exact elsewhere (foreign.symm.trans
      ((authored task member id document (change_eq_write_iff.mp writes)).mp own))
  foreignRemoved other elsewhere id := by
    rintro ⟨_, ⟨task, member, rfl, rfl, -⟩, removes⟩ document stored own
    rcases kept.removals task member id (change_eq_remove_iff.mp removes) with
      never | ⟨-, tenant, owned, _, entry, earlier, moment, -, run, -, -, tenantThen⟩
    · exact never
    · have tenantOwns := (owned document (.inl stored)).symm.trans own
      rw [← tenantThen] at tenantOwns
      obtain ⟨another, there, same⟩ := Option.map_eq_some_iff.mp tenantOwns
      exact (signedIn run).nowhereElse _ elsewhere another there same

theorem expected_served (separate : (mirror texts user).Separate s client)
    (calm : Calm client user trace s label)
    (stepped : (localSessions texts).StepCase s label output s')
    {served : Request × Continuation} (serves : output.served = some served) (id : String)
    (document : Document) :
    (mirror texts user).Expected s' client id document ↔
      (mirror texts user).Expected s client id document := by
  by_cases own : output.client = client
  · refine Mirror.expected_serve_own separate stepped serves own ?_
    cases stepped with
    | @serve index fate task inFlight waiting =>
        obtain rfl := Option.some.inj serves
        have contents := (sessionLog texts).contents_serve fate s.server task.request
        have changes : (sessionLog texts).change fate task.request =
            (mirror texts user).change task.request := by
          rcases calm task inFlight own with search | success
          · have nothing := change_eq_none (.inl search)
            rcases (mirror texts user).log_change fate task.request with failed | same
            · exact failed.trans nothing.symm
            · exact same
          · cases fate with
            | failed => cases success
            | _ => cases task.request <;> rfl
        rw [← changes]
        exact contents
    | act handled => cases serves
    | deliver inFlight answered resumed => cases serves
  · exact Mirror.expected_serve_other separate stepped serves own

theorem expected_step (separate : (mirror texts user).Separate s client)
    (calm : Calm client user trace s label)
    (stepped : (localSessions texts).StepCase s label output s')
    (quiet : output.client = client → ∀ issued ∈ output.requests,
      isSearch issued.1 = true ∨ isFetch issued.1 = true) (id : String) (document : Document) :
    (mirror texts user).Expected s' client id document ↔
      (mirror texts user).Expected s client id document := by
  cases serves : output.served with
  | none =>
      exact Mirror.expected_quiet stepped serves fun own issued requested =>
        change_eq_none (quiet own issued requested)
  | some served => exact expected_served separate calm stepped serves id document

/-! ## What an action does to the book -/

/-- Everything an action can do to the book of its client and to its documents. -/
inductive OwnCase (memory : Client) : Action → Effect → Prop where
  | loaded {effect : Effect} (requests : effect.requests = [(.getRecipes, .recipesLoaded)]) :
      OwnCase memory .loadUserData effect
  | quiet {action : Action} {effect : Effect} (other : action ≠ .loadUserData)
      (rows : effect.client.savedRecipes = memory.savedRecipes)
      (searches : ∀ issued ∈ effect.requests, isSearch issued.1 = true ∧ issued.2 = .searched) :
      OwnCase memory action effect
  | added {recipeUID : String} {recipe : Recipe} {effect : Effect}
      (selected : memory.selected = some recipe)
      (rows : effect.client.savedRecipes = memory.savedRecipes ++ [⟨recipe, recipeUID, false⟩])
      (requests : effect.requests =
        [(UserController.saveRecipe memory.currentUser recipe recipeUID, .recipeSaved)]) :
      OwnCase memory (.addToRecipeBookButtonTapped recipeUID) effect
  | deleted {row index : Nat} {removed : Row} {uid : String} {effect : Effect}
      (found : memory.savedRecipes[index]? = some removed) (named : removed.recipe.uid = some uid)
      (rows : effect.client.savedRecipes = memory.savedRecipes.eraseIdx index)
      (requests : effect.requests = [(.deleteRecipe uid, .recipeDeleted)]) :
      OwnCase memory (.commitDelete row) effect

theorem ownCase_of_handle {memory : Client} {action : Action} {effect : Effect}
    (handled : handle texts action memory = some effect) : OwnCase memory action effect := by
  cases action with
  | loadUserData =>
      obtain rfl := Option.some.inj handled
      exact .loaded rfl
  | searchBarSearchButtonClicked searchTerm =>
      obtain rfl := Option.some.inj handled
      rw [searchBarSearchButtonClicked]
      split
      · exact .quiet Action.noConfusion rfl (by simp)
      · exact .quiet Action.noConfusion rfl (by simp [isSearch])
  | didSelectRowAt row =>
      simp only [handle, didSelectRowAt] at handled
      split at handled
      · cases handled
      · obtain rfl := Option.some.inj handled
        exact .quiet Action.noConfusion rfl (by simp)
  | addToRecipeBookButtonTapped recipeUID =>
      obtain rfl := Option.some.inj handled
      rw [addToRecipeBookButtonTapped]
      split
      · exact .quiet Action.noConfusion rfl (by simp)
      · rename_i recipe selected
        exact .added selected rfl rfl
  | commitDelete row =>
      simp only [handle, commitDelete, deleteRecipe] at handled
      split at handled
      · cases handled
      · rename_i saved inBook
        split at handled
        · obtain rfl := Option.some.inj handled
          exact .quiet Action.noConfusion rfl (by simp)
        · rename_i index first
          obtain ⟨inRange, same, -⟩ := List.findIdx?_eq_some_iff_getElem.mp first
          split at handled
          · cases handled
          · rename_i request forced
            obtain rfl := Option.some.inj handled
            obtain ⟨uid, named, rfl⟩ := Option.map_eq_some_iff.mp forced
            have sameUID := Recipe.uid_eq_of_compared (of_decide_eq_true same)
            exact .deleted (List.getElem?_eq_getElem inRange) (sameUID.trans named) rfl rfl

/-- What a load issues is a fetch, with the callback of one, and nothing else is. -/
theorem fetch_of_handle {memory : Client} {action : Action} {effect : Effect}
    (handled : handle texts action memory = some effect) {issued : Request × Continuation}
    (requested : issued ∈ effect.requests) :
    isFetch issued.1 = true ↔ issued.2 = .recipesLoaded := by
  cases ownCase_of_handle handled with
  | loaded requests =>
      rw [requests] at requested
      obtain rfl := List.mem_singleton.mp requested
      exact iff_of_true rfl rfl
  | quiet other rows searches =>
      obtain ⟨search, callback⟩ := searches issued requested
      rw [isFetch_of_isSearch search, callback]
      exact iff_of_false Bool.false_ne_true Continuation.noConfusion
  | added selected rows requests =>
      rw [requests] at requested
      obtain rfl := List.mem_singleton.mp requested
      exact iff_of_false Bool.false_ne_true Continuation.noConfusion
  | deleted found named rows requests =>
      rw [requests] at requested
      obtain rfl := List.mem_singleton.mp requested
      exact iff_of_false Bool.false_ne_true Continuation.noConfusion

/-- The callback of a fetch is the one of a load, and no other is. -/
def Paired (s : State) : Prop :=
  ∀ task ∈ s.tasks, isFetch task.request = true ↔ task.continuation = .recipesLoaded

theorem Paired.step (paired : Paired s)
    (stepped : (localSessions texts).StepCase s label output s') :
    Paired s' := by
  have every : s.EveryTask fun _ task =>
      isFetch task.request = true ↔ task.continuation = .recipesLoaded := paired
  cases stepped with
  | @act actor action effect handled =>
      refine every.commit (List.Subset.refl _) (fun _ _ _ related => related) ?_
      intro issued requested
      cases action with
      | outside change =>
          obtain rfl := Option.some.inj handled
          cases requested
      | own action => exact fetch_of_handle handled requested
  | @serve index fate task inFlight waiting =>
      have before := paired task (List.mem_of_getElem? inFlight)
      exact every.serve _ before
  | @deliver index input task reply effect inFlight answered resumed =>
      obtain rfl : resume task.continuation reply input (s.clients task.client) = effect :=
        Option.some.inj resumed
      refine every.commit List.eraseIdx_subset (fun _ _ _ related => related) ?_
      intro issued requested
      rw [resume_requests] at requested
      cases requested

/-! ## The invariant -/

/-- Nothing is in flight for a book that was never loaded. With a fetch in flight there is
nothing else but searches, and its reply lists what is expected. No document is written and
removed at once. A book that is ready mirrors the container. -/
structure Agrees (texts : TextEquality) (client : Nat) (user : User) (trace : Trace)
    (s : State) : Prop where
  unloaded : hasLoaded trace client = false → Idle s client
  alone : ∀ fetch ∈ s.tasks, fetch.client = client → isFetch fetch.request = true →
    ∀ task ∈ s.tasks, task.client = client →
      isSearch task.request = true ∨ isFetch task.request = true
  listed : ∀ fetch ∈ s.tasks, fetch.client = client → isFetch fetch.request = true →
    ∀ reply, fetch.reply = some reply → ListsExpected texts s client user reply
  apart : ∀ id, (mirror texts user).Removing s client id → ∀ document,
    ¬ (mirror texts user).Writing s client id document
  mirrors : Ready trace s client → BookMirrors texts s client user

/-- What the client issues in a step, with what has to hold before: a load while nothing is in
flight, changes when the book is ready, searches at any time. -/
inductive IssueCase (client : Nat) (trace : Trace) (s : State) (label : Label)
    (output : Output) : Prop where
  | foreign (foreign : output.client ≠ client)
  | load (label : label = .act client (.own .loadUserData)) (idle : Idle s client)
      (requests : output.requests = [(.getRecipes, .recipesLoaded)])
  | quiet (searches : ∀ issued ∈ output.requests, isSearch issued.1 = true)
  | change (ready : Ready trace s client)
      (noFetch : ∀ issued ∈ output.requests, isFetch issued.1 = false)

theorem issueCase (calm : Calm client user trace s label)
    (stepped : (localSessions texts).StepCase s label output s') :
    IssueCase client trace s label output := by
  by_cases own : output.client = client
  · cases stepped with
    | @act actor action effect handled =>
        subst own
        cases action with
        | outside change =>
            obtain rfl := Option.some.inj handled
            exact .quiet (by simp)
        | own action =>
            cases ownCase_of_handle handled with
            | loaded requests => exact .load rfl (calm rfl) requests
            | quiet other rows searches =>
                exact .quiet fun issued requested => (searches issued requested).1
            | added selected rows requests =>
                exact .change (calm rfl) (by simp [requests, UserController.saveRecipe, isFetch])
            | deleted found named rows requests =>
                exact .change (calm rfl) (by simp [requests, isFetch])
    | serve inFlight waiting => exact .quiet (by simp)
    | @deliver index input task reply effect inFlight answered resumed =>
        obtain rfl : resume task.continuation reply input (s.clients task.client) = effect :=
          Option.some.inj resumed
        exact .quiet (by simp [resume_requests])
  · exact .foreign own

/-- The client has asked for its book after a step when it had before, or asks in it. -/
theorem hasLoaded_cons (label : Label) (output : Output) (trace : Trace) (client : Nat) :
    hasLoaded ((label, output) :: trace) client = true ↔
      label = .act client (.own .loadUserData) ∨ hasLoaded trace client = true := by
  rw [hasLoaded, List.any_cons, Bool.or_eq_true]
  refine or_congr_left ?_
  split
  · rename_i other same
    have same : label = .act other (.own .loadUserData) := same
    subst same
    simp
  · rename_i notLoad
    refine iff_of_false Bool.false_ne_true ?_
    rintro rfl
    exact notLoad client rfl

theorem own_task_of_step (stepped : (localSessions texts).StepCase s label output s') {task : Task}
    (member : task ∈ s'.tasks) (own : task.client = client) :
    (∃ earlier ∈ s.tasks, earlier.client = client ∧ earlier.request = task.request) ∨
      output.client = client ∧ ∃ issued ∈ output.requests, issued.1 = task.request := by
  rcases Program.mem_tasks_of_stepCase stepped member with
    ⟨earlier, inFlight, sameClient, sameRequest⟩ | ⟨issued, requested, rfl⟩
  · exact .inl ⟨earlier, inFlight, sameClient.trans own, sameRequest⟩
  · exact .inr ⟨own, issued, requested, rfl⟩

/-- Nothing is in flight for a book that was never loaded. -/
theorem Agrees.unloaded_step (agrees : Agrees texts client user trace s)
    (calm : Calm client user trace s label)
    (stepped : (localSessions texts).StepCase s label output s')
    (never : hasLoaded ((label, output) :: trace) client = false) : Idle s' client := by
  have before : hasLoaded trace client = false := by
    by_contra loaded
    have now := (hasLoaded_cons label output trace client).mpr
      (.inr (Bool.not_eq_false _ ▸ loaded))
    rw [never] at now
    cases now
  intro task member own
  rcases own_task_of_step stepped member own with
    ⟨earlier, inFlight, ownEarlier, same⟩ | ⟨issuer, issued, requested, same⟩
  · exact same ▸ agrees.unloaded before earlier inFlight ownEarlier
  · cases issueCase calm stepped with
    | foreign foreign => exact absurd issuer foreign
    | load load idle requests =>
        have now := (hasLoaded_cons label output trace client).mpr (.inl load)
        rw [never] at now
        cases now
    | quiet searches => exact same ▸ searches issued requested
    | change ready noFetch =>
        rw [ready.1] at before
        cases before

/-- With a fetch in flight after a step, the client has issued nothing else but searches. -/
theorem quiet_of_fetch (calm : Calm client user trace s label)
    (stepped : (localSessions texts).StepCase s label output s') {fetch : Task}
    (member : fetch ∈ s'.tasks) (own : fetch.client = client)
    (fetches : isFetch fetch.request = true) :
    output.client = client → ∀ issued ∈ output.requests,
      isSearch issued.1 = true ∨ isFetch issued.1 = true := by
  intro issuer issued requested
  cases issueCase calm stepped with
  | foreign foreign => exact absurd issuer foreign
  | load load idle requests =>
      rw [requests] at requested
      obtain rfl := List.mem_singleton.mp requested
      exact .inr rfl
  | quiet searches => exact .inl (searches issued requested)
  | change ready noFetch =>
      rcases own_task_of_step stepped member own with
        ⟨earlier, inFlight, ownEarlier, same⟩ | ⟨-, asked, askedNow, same⟩
      · rw [← same, ready.2 earlier inFlight ownEarlier] at fetches
        cases fetches
      · rw [← same, noFetch asked askedNow] at fetches
        cases fetches

/-- A fetch is in flight with searches only. -/
theorem Agrees.alone_step (agrees : Agrees texts client user trace s)
    (calm : Calm client user trace s label)
    (stepped : (localSessions texts).StepCase s label output s') :
    ∀ fetch ∈ s'.tasks, fetch.client = client → isFetch fetch.request = true →
      ∀ task ∈ s'.tasks, task.client = client →
        isSearch task.request = true ∨ isFetch task.request = true := by
  intro fetch fetchMember fetchOwn fetches task member own
  rcases own_task_of_step stepped member own with
    ⟨earlier, inFlight, ownEarlier, same⟩ | ⟨issuer, issued, requested, same⟩
  · rw [← same]
    rcases own_task_of_step stepped fetchMember fetchOwn with
      ⟨asked, askedInFlight, ownAsked, sameFetch⟩ | ⟨issuer, issued, requested, sameFetch⟩
    · exact agrees.alone asked askedInFlight ownAsked (sameFetch ▸ fetches) earlier inFlight
        ownEarlier
    · rw [← sameFetch] at fetches
      cases issueCase calm stepped with
      | foreign foreign => exact absurd issuer foreign
      | load load idle requests => exact .inl (idle earlier inFlight ownEarlier)
      | quiet searches =>
          rw [isFetch_of_isSearch (searches issued requested)] at fetches
          cases fetches
      | change ready noFetch =>
          rw [noFetch issued requested] at fetches
          cases fetches
  · rw [← same]
    exact quiet_of_fetch calm stepped fetchMember fetchOwn fetches issuer issued requested

/-- The reply of a fetch lists what is expected. -/
theorem Agrees.listed_step (agrees : Agrees texts client user trace s)
    (separate : (mirror texts user).Separate s client) (calm : Calm client user trace s label)
    (stepped : (localSessions texts).StepCase s label output s') :
    ∀ fetch ∈ s'.tasks, fetch.client = client → isFetch fetch.request = true →
      ∀ reply, fetch.reply = some reply → ListsExpected texts s' client user reply := by
  intro fetch member own fetches reply answered
  have same := expected_step separate calm stepped
    (quiet_of_fetch calm stepped member own fetches)
  have earlier : fetch ∈ s.tasks → ListsExpected texts s' client user reply := by
    intro inFlight
    obtain ⟨recipeContainer, documents, expected⟩ :=
      agrees.listed fetch inFlight own fetches reply answered
    exact ⟨recipeContainer, documents, fun id document =>
      (expected id document).trans (same id document).symm⟩
  cases stepped with
  | act handled =>
      rcases List.mem_append.mp member with old | new
      · exact earlier old
      · obtain ⟨_, _, rfl⟩ := List.mem_map.mp new
        cases answered
  | @serve index fate task inFlight waiting =>
      rcases List.mem_or_eq_of_mem_set member with old | rfl
      · exact earlier old
      · have inTasks := List.mem_of_getElem? inFlight
        obtain rfl := Option.some.inj answered
        have success : succeeds fate = true := by
          refine (calm task inFlight own).resolve_left fun search => ?_
          rw [isFetch_of_isSearch search] at fetches
          cases fetches
        have idle : ∀ request, s.Unserved client request →
            (mirror texts user).change request = none := by
          rintro _ ⟨other, otherInFlight, ownOther, rfl, -⟩
          exact change_eq_none (agrees.alone task inTasks own fetches other otherInFlight ownOther)
        refine ⟨s.server, ?_, fun id document =>
          (Mirror.expected_idle idle).symm.trans (same id document).symm⟩
        -- The client sees the container itself: nothing that it has in flight changes it.
        have seen : (sessions texts).withOwn .answered s.server (s.unanswered task.client) =
            s.server := by
          refine Program.withOwn_eq_self fun request unanswered => ?_
          obtain ⟨other, otherInFlight, ownOther, -, rfl⟩ :=
            RequestReply.State.mem_unanswered.mp unanswered
          exact serve_eq_self (agrees.alone task inTasks own fetches other otherInFlight
            (ownOther.trans own))
        have reply : (localSessions texts).answer s fate task =
            (serve fate s.server task.request).2 :=
          congrArg (fun seen => (serve fate seen task.request).2) seen
        cases request : task.request <;> rw [request] at fetches reply <;> try cases fetches
        cases fate with
        | failed => cases success
        | _ => exact reply
  | deliver inFlight answered resumed =>
      rcases List.mem_append.mp member with old | new
      · exact earlier (List.eraseIdx_subset old)
      · obtain ⟨_, _, rfl⟩ := List.mem_map.mp new
        cases answered

/-! ## The book -/

theorem BookMirrors.known (mirrors : BookMirrors texts s client user)
    (kept : DocumentsKept texts client user s₀ trace s) {row : Row}
    (member : row ∈ (s.clients client).savedRecipes) :
    (localSessionStore texts).Known (oldIDs s₀.server) trace row.documentID := by
  rcases (mirrors.expected _ _).mpr ⟨row, member, rfl, rfl⟩ with
    ⟨stored, -⟩ | ⟨_, ⟨task, inFlight, -, rfl, waiting⟩, writes⟩
  · exact (kept.store.stored _ _ stored).2.known
  · exact kept.store.known _ (RequestReply.Store.mem_pending_of_writes
      (K := localSessionStore texts) inFlight waiting (change_eq_write_iff.mp writes))

/-- What a row of the book names is not being written after a step either. -/
theorem BookMirrors.unwritten_step (mirrors : BookMirrors texts s client user)
    (kept : DocumentsKept texts client user s₀ trace s)
    (fresh : (localSessionStore texts).FreshlyIssued (oldIDs s₀.server) trace output.requests)
    (stepped : (localSessions texts).StepCase s label output s') {row : Row}
    (member : row ∈ (s.clients client).savedRecipes) {uid : String} (named : uid ∈ row.recipe.uid)
    (document : Document) : ¬ (mirror texts user).Writing s' client uid document := by
  obtain rfl := mirrors.uids row member uid named
  exact not_writing_step fresh stepped (mirrors.known kept member)
    (mirrors.unwritten row member _ named) document

theorem BookMirrors.of_same (mirrors : BookMirrors texts s client user)
    (kept : DocumentsKept texts client user s₀ trace s)
    (fresh : (localSessionStore texts).FreshlyIssued (oldIDs s₀.server) trace output.requests)
    (stepped : (localSessions texts).StepCase s label output s')
    (rows : (s'.clients client).savedRecipes = (s.clients client).savedRecipes)
    (same : ∀ id document, (mirror texts user).Expected s' client id document ↔
      (mirror texts user).Expected s client id document) : BookMirrors texts s' client user where
  nodup := rows ▸ mirrors.nodup
  uids := rows ▸ mirrors.uids
  unwritten := by
    rw [rows]
    exact fun row member uid named => mirrors.unwritten_step kept fresh stepped member named
  expected id document := by
    rw [same, mirrors.expected, rows]

theorem dictionary_written (recipe : Recipe) (id : String) (authorID : Option String) :
    (recipe.written id authorID).dictionary id (some (authorID.getD "")) =
      recipe.dictionary id authorID := by
  simp [Recipe.written, Recipe.dictionary]

/-- The rows of a load mirror what its reply lists. -/
theorem bookMirrors_of_load {reply : Reply}
    (written : ∀ id document, (id, document) ∈ listedDocuments reply → WrittenUnder id document)
    (listed : ListsExpected texts s client user reply)
    (same : ∀ id document, (mirror texts user).Expected s' client id document ↔
      (mirror texts user).Expected s client id document)
    (quiet : ∀ id document, ¬ (mirror texts user).Writing s' client id document)
    (rows : (s'.clients client).savedRecipes =
      (recipesLoaded reply (s.clients client)).client.savedRecipes)
    (here : (s.clients client).currentUser = some user) : BookMirrors texts s' client user := by
  obtain ⟨recipeContainer, rfl, expected⟩ := listed
  replace written : ∀ id document, (id, document) ∈ recipeContainer.getDocuments →
    WrittenUnder id document := written
  have loaded : (s'.clients client).savedRecipes = UserController.ownRecipes (some user)
      (recipeContainer.getDocuments.filterMap rowOf) := by
    rw [rows, recipesLoaded, here, fetchRecipe_eq written]
  refine ⟨?_, ?_, fun _ _ uid _ document => quiet uid document, fun id document => ?_⟩
  · rw [loaded]
    exact (pairwise_ownRecipes _ _).imp (fun ordered => ne_of_lt ordered) |>.map _ fun _ _ => id
  · intro row member
    rw [loaded] at member
    obtain ⟨-, _, recipe, authorID, -, -, -, same⟩ := (mem_ownRecipes_iff written).mp member
    rw [same]
    rintro uid ⟨⟩
    rfl
  · rw [same, ← expected, loaded]
    constructor
    · rintro ⟨stored, own⟩
      obtain ⟨recipe, authorID, rfl⟩ := written id document (Collection.mem_getDocuments.mpr stored)
      have author : authorID.getD "" = user.uuid :=
        Option.some.inj ((text_authorID_dictionary recipe id authorID).symm.trans own)
      refine ⟨⟨recipe.written id authorID, id, true⟩, (mem_ownRecipes_iff written).mpr
        ⟨rfl, user, recipe, authorID, rfl, stored, author, rfl⟩, rfl, ?_⟩
      rw [← author, dictionary_written]
    · rintro ⟨row, member, rfl, rfl⟩
      obtain ⟨-, another, recipe, authorID, here, stored, author, same⟩ :=
        (mem_ownRecipes_iff written).mp member
      obtain rfl := Option.some.inj here
      rw [same, ← author, dictionary_written]
      exact ⟨stored, (text_authorID_dictionary recipe row.documentID authorID).trans
        (congrArg some author)⟩

/-- A recipe that is added is expected. -/
theorem BookMirrors.added (mirrors : BookMirrors texts s client user)
    (kept : DocumentsKept texts client user s₀ trace s)
    (fresh : (localSessionStore texts).FreshlyIssued (oldIDs s₀.server) trace output.requests)
    {recipe : Recipe} {recipeUID : String}
    (unknown : ¬ (localSessionStore texts).Known (oldIDs s₀.server) trace recipeUID)
    (noID : recipe.uid = none) (here : (s.clients client).currentUser = some user)
    (stepped : (localSessions texts).StepCase s label output s') (idle : output.served = none)
    (issuer : output.client = client)
    (rows : (s'.clients client).savedRecipes =
      (s.clients client).savedRecipes ++ [⟨recipe, recipeUID, false⟩])
    (requests : output.requests = [(UserController.saveRecipe (s.clients client).currentUser recipe
      recipeUID, .recipeSaved)]) : BookMirrors texts s' client user := by
  have otherID : ∀ row ∈ (s.clients client).savedRecipes, row.documentID ≠ recipeUID := by
    rintro row member rfl
    exact unknown (mirrors.known kept member)
  have changes : (mirror texts user).change
      (UserController.saveRecipe (s.clients client).currentUser recipe recipeUID) = some (recipeUID,
        some (Value.storedFields (recipe.dictionary recipeUID (some user.uuid)))) := by
    rw [here]
    rfl
  refine ⟨?_, ?_, ?_, fun id document => ?_⟩
  · rw [rows, List.map_append]
    refine List.nodup_append.mpr ⟨mirrors.nodup, List.nodup_singleton _, ?_⟩
    intro used member other otherMember
    obtain ⟨row, inBook, rfl⟩ := List.mem_map.mp member
    obtain rfl := List.mem_singleton.mp otherMember
    exact otherID row inBook
  · intro row member uid named
    rw [rows] at member
    rcases List.mem_append.mp member with old | new
    · exact mirrors.uids row old uid named
    · obtain rfl := List.mem_singleton.mp new
      rw [noID] at named
      cases named
  · intro row member uid named
    rw [rows] at member
    rcases List.mem_append.mp member with old | new
    · exact mirrors.unwritten_step kept fresh stepped old named
    · obtain rfl := List.mem_singleton.mp new
      rw [noID] at named
      cases named
  · rw [Mirror.expected_write stepped idle issuer requests changes, mirrors.expected, rows]
    simp only [List.mem_append, List.mem_singleton, or_and_right, exists_or, exists_eq_left]
    refine or_congr_right ⟨?_, ?_⟩
    · rintro ⟨rfl, rfl⟩
      exact ⟨rfl, rfl⟩
    · rintro ⟨rfl, rfl⟩
      exact ⟨rfl, rfl⟩

/-- A recipe that is deleted is not expected any more. -/
theorem BookMirrors.deleted (mirrors : BookMirrors texts s client user)
    (kept : DocumentsKept texts client user s₀ trace s)
    (fresh : (localSessionStore texts).FreshlyIssued (oldIDs s₀.server) trace output.requests)
    {index : Nat} {removed : Row} {uid : String}
    (found : (s.clients client).savedRecipes[index]? = some removed)
    (named : removed.recipe.uid = some uid)
    (stepped : (localSessions texts).StepCase s label output s')
    (idle : output.served = none) (issuer : output.client = client)
    (rows : (s'.clients client).savedRecipes = (s.clients client).savedRecipes.eraseIdx index)
    (requests : output.requests = [(.deleteRecipe uid, .recipeDeleted)]) :
    BookMirrors texts s' client user := by
  have member := List.mem_of_getElem? found
  obtain rfl := mirrors.uids removed member uid named
  have unwritten := mirrors.unwritten removed member _ named
  have remaining : ∀ row, row ∈ (s.clients client).savedRecipes.eraseIdx index ↔
      row ∈ (s.clients client).savedRecipes ∧ row.documentID ≠ removed.documentID :=
    fun row => ListMoves.mem_eraseIdx_iff mirrors.nodup found
  refine ⟨?_, ?_, ?_, fun id document => ?_⟩
  · rw [rows, ← List.eraseIdx_map]
    exact mirrors.nodup.sublist (List.eraseIdx_sublist _ _)
  · rw [rows]
    exact fun row member => mirrors.uids row (List.eraseIdx_subset member)
  · rw [rows]
    exact fun row member uid named =>
      mirrors.unwritten_step kept fresh stepped (List.eraseIdx_subset member) named
  · rw [Mirror.expected_remove stepped idle issuer requests rfl unwritten, mirrors.expected, rows]
    simp only [remaining]
    constructor
    · rintro ⟨⟨row, inBook, rfl, rfl⟩, other⟩
      exact ⟨row, ⟨inBook, other⟩, rfl, rfl⟩
    · rintro ⟨row, ⟨inBook, other⟩, rfl, rfl⟩
      exact ⟨⟨row, inBook, rfl, rfl⟩, other⟩

theorem ready_of_step (stepped : (localSessions texts).StepCase s label output s')
    (ready : Ready ((label, output) :: trace) s' client)
    (noLoad : label ≠ .act client (.own .loadUserData))
    (noFetch : ∀ index input task, label = .deliver index input → s.tasks[index]? = some task →
      task.client = client → isFetch task.request = false) : Ready trace s client := by
  refine ⟨((hasLoaded_cons label output trace client).mp ready.1).resolve_left noLoad, ?_⟩
  intro task member own
  rcases RequestReply.exists_task_of_stepCase stepped member with
    ⟨later, inFlight, sameClient, sameRequest⟩ | ⟨index, input, delivers, found⟩
  · rw [← sameRequest]
    exact ready.2 later inFlight (sameClient.trans own)
  · exact noFetch index input task delivers found own

theorem savedRecipes_resume {continuation : Continuation} (other : continuation ≠ .recipesLoaded)
    (reply : Reply) (input : Input) (memory : Client) :
    (resume continuation reply input memory).client.savedRecipes = memory.savedRecipes := by
  cases continuation with
  | recipesLoaded => exact absurd rfl other
  | searched =>
      simp only [resume, searched]
      split
      · split <;> rfl
      · rfl
  | recipeSaved => rfl
  | recipeDeleted => rfl

/-- The book mirrors the container when a load is delivered: nothing but searches is in flight
beside it. -/
theorem Agrees.mirrors_load (agrees : Agrees texts client user trace s)
    (kept : DocumentsKept texts client user s₀ trace s) (paired : Paired s)
    (here : (s.clients client).currentUser = some user) {index : Nat} {task : Task} {reply : Reply}
    (stepped : (localSessions texts).StepCase s label output s')
    (inFlight : s.tasks[index]? = some task) (own : task.client = client)
    (loads : task.continuation = .recipesLoaded) (answered : task.reply = some reply)
    (silent : output.requests = [])
    (rows : (s'.clients client).savedRecipes =
      (recipesLoaded reply (s.clients client)).client.savedRecipes)
    (unchanged : ∀ id document, (mirror texts user).Expected s' client id document ↔
      (mirror texts user).Expected s client id document) : BookMirrors texts s' client user := by
  have member := List.mem_of_getElem? inFlight
  have fetches := (paired task member).mpr loads
  have listed := agrees.listed task member own fetches reply answered
  refine bookMirrors_of_load ?_ listed unchanged ?_ rows here
  · exact fun id document listed =>
      (kept.store.listed task member reply answered id document listed).1
  · rintro id document ⟨request, unserved, writes⟩
    rcases RequestReply.unserved_of_step stepped unserved with
      ⟨other, otherInFlight, ownOther, rfl, -⟩ | ⟨-, _, requested⟩
    · have reads := agrees.alone task member own fetches other otherInFlight ownOther
      cases (change_eq_none reads).symm.trans writes
    · simp [silent] at requested

/-- A book that is ready mirrors the container. -/
theorem Agrees.mirrors_step (agrees : Agrees texts client user trace s)
    (kept : DocumentsKept texts client user s₀ trace s) (paired : Paired s)
    (here : (s.clients client).currentUser = some user)
    (separate : (mirror texts user).Separate s client)
    (permitted : Undisturbed texts client user s₀.server trace s label)
    (stepped : (localSessions texts).StepCase s label output s')
    (ready : Ready ((label, output) :: trace) s' client) : BookMirrors texts s' client user := by
  obtain ⟨guarded, calm⟩ := permitted
  have fresh := (localAuthors_law texts s₀.server).fresh guarded stepped
  have same := expected_step separate calm stepped
  have afterwards := stepped
  cases stepped with
  | @act actor action effect handled =>
      by_cases self : actor = client
      · subst self
        cases action with
        | outside change =>
            obtain rfl := Option.some.inj handled
            cases change with
            | signIn newUser => exact absurd rfl calm.1
            | randomRecipeTapped hits chances =>
                have before := ready_of_step afterwards ready (by simp) (by rintro _ _ _ ⟨⟩)
                refine (agrees.mirrors before).of_same kept fresh afterwards ?_
                  (same fun _ issued requested => ?_)
                · rw [RequestReply.State.commit_clients_self]
                  rfl
                · cases requested
        | own action =>
            cases ownCase_of_handle handled with
            | loaded requests =>
                have fetching := ready.2 ⟨actor, .getRecipes, .recipesLoaded, none⟩
                  (by simp [requests]) rfl
                cases fetching
            | quiet other rows searches =>
                have before := ready_of_step afterwards ready (by simpa using other)
                  (by rintro _ _ _ ⟨⟩)
                refine (agrees.mirrors before).of_same kept fresh afterwards ?_ ?_
                · rw [RequestReply.State.commit_clients_self, rows]
                · exact same fun _ issued requested => .inl (searches issued requested).1
            | @added recipeUID recipe effect selected rows requests =>
                refine (agrees.mirrors (calm rfl)).added kept fresh guarded.1
                  (guarded.2 recipe selected)
                  here afterwards rfl rfl ?_ requests
                rw [RequestReply.State.commit_clients_self, rows]
            | deleted found named rows requests =>
                refine (agrees.mirrors (calm rfl)).deleted kept fresh found named afterwards rfl
                  rfl ?_ requests
                rw [RequestReply.State.commit_clients_self, rows]
      · have before := ready_of_step afterwards ready (by simp [self]) (by rintro _ _ _ ⟨⟩)
        refine (agrees.mirrors before).of_same kept fresh afterwards ?_
          (same fun own => absurd own self)
        rw [RequestReply.State.commit_clients_of_ne _ _ _ (Ne.symm self)]
  | serve inFlight waiting =>
      have before := ready_of_step afterwards ready (by rintro ⟨⟩) (by rintro _ _ _ ⟨⟩)
      exact (agrees.mirrors before).of_same kept fresh afterwards rfl (same (by simp))
  | @deliver index input task reply effect inFlight answered resumed =>
      obtain rfl : resume task.continuation reply input (s.clients task.client) = effect :=
        Option.some.inj resumed
      have member := List.mem_of_getElem? inFlight
      have silent := resume_requests task.continuation reply input (s.clients task.client)
      have unchanged := same (by simp [silent])
      by_cases self : task.client = client
      · subst self
        by_cases loads : task.continuation = .recipesLoaded
        · refine agrees.mirrors_load kept paired here afterwards inFlight rfl loads answered silent
            ?_ unchanged
          rw [RequestReply.State.commit_clients_self, loads]
          rfl
        · have before := ready_of_step afterwards ready (by rintro ⟨⟩) ?_
          · refine (agrees.mirrors before).of_same kept fresh afterwards ?_ unchanged
            rw [RequestReply.State.commit_clients_self, savedRecipes_resume loads]
          · rintro position _ delivered ⟨⟩ found -
            obtain rfl := Option.some.inj (inFlight.symm.trans found)
            exact Bool.eq_false_iff.mpr fun fetches => loads ((paired task member).mp fetches)
      · have before := ready_of_step afterwards ready (by rintro ⟨⟩) ?_
        · refine (agrees.mirrors before).of_same kept fresh afterwards ?_ unchanged
          rw [RequestReply.State.commit_clients_of_ne _ _ _ (Ne.symm self)]
        · rintro position _ delivered ⟨⟩ found own
          obtain rfl := Option.some.inj (inFlight.symm.trans found)
          exact absurd own self

/-- A deletion is issued when the book is ready, for a row that names its document. -/
theorem ready_of_removal (calm : Calm client user trace s label)
    (stepped : (localSessions texts).StepCase s label output s') (issuer : output.client = client)
    {issued : Request × Continuation} (requested : issued ∈ output.requests) {id : String}
    (deletes : deletion issued.1 = some id) :
    Ready trace s client ∧ ∃ row ∈ (s.clients client).savedRecipes, row.recipe.uid = some id := by
  subst issuer
  cases stepped with
  | @act actor action effect handled =>
      cases action with
      | outside change =>
          obtain rfl := Option.some.inj handled
          cases requested
      | own action =>
          obtain ⟨⟨row, rfl⟩, named⟩ := deletion_of_handle handled requested deletes
          exact ⟨calm rfl, named⟩
  | serve inFlight waiting => cases requested
  | @deliver index input task reply effect inFlight answered resumed =>
      obtain rfl : resume task.continuation reply input (s.clients task.client) = effect :=
        Option.some.inj resumed
      simp only [resume_requests] at requested
      cases requested

theorem Agrees.apart_step (agrees : Agrees texts client user trace s)
    (kept : DocumentsKept texts client user s₀ trace s)
    (permitted : Undisturbed texts client user s₀.server trace s label)
    (stepped : (localSessions texts).StepCase s label output s') :
    ∀ id, (mirror texts user).Removing s' client id → ∀ document,
      ¬ (mirror texts user).Writing s' client id document := by
  rintro id ⟨request, unserved, removes⟩
  have fresh := (localAuthors_law texts s₀.server).fresh permitted.1 stepped
  have deletes := change_eq_remove_iff.mp removes
  rcases RequestReply.unserved_of_step stepped unserved with
    earlier | ⟨issuer, continuation, requested⟩
  · have apart := agrees.apart id ⟨request, earlier, removes⟩
    obtain ⟨task, inFlight, -, rfl, -⟩ := earlier
    rcases kept.removals task inFlight id deletes with never | ⟨known, -⟩
    · exact never.elim
    · exact not_writing_step fresh stepped known apart
  · obtain ⟨ready, row, inBook, named⟩ :=
      ready_of_removal permitted.2 stepped issuer requested deletes
    exact (agrees.mirrors ready).unwritten_step kept fresh stepped inBook named

/-- **One undisturbed step keeps the agreement.** -/
theorem Agrees.step (agrees : Agrees texts client user trace s)
    (kept : DocumentsKept texts client user s₀ trace s) (paired : Paired s)
    (here : (s.clients client).currentUser = some user)
    (separate : (mirror texts user).Separate s client)
    (permitted : Undisturbed texts client user s₀.server trace s label)
    (stepped : (localSessions texts).StepCase s label output s') :
    Agrees texts client user ((label, output) :: trace) s' where
  unloaded := agrees.unloaded_step permitted.2 stepped
  alone := agrees.alone_step permitted.2 stepped
  listed := agrees.listed_step separate permitted.2 stepped
  apart := agrees.apart_step kept permitted stepped
  mirrors := agrees.mirrors_step kept paired here separate permitted stepped

end

/-! ## The result -/

section

variable {client : Nat} {user : User} {trace : Trace} {s₀ s : State}

theorem signedIn_run (signedIn : SignedIn s₀ client user)
    (run : (localSessions texts).Run (Undisturbed texts client user s₀.server) s₀ trace s) :
    SignedIn s client user :=
  run.invariant (I := fun _ s => SignedIn s client user) signedIn
    fun before permitted stepped => before.step permitted.2 stepped

theorem documentsKept_run (opened : Opened s₀)
    (run : (localSessions texts).Run (Undisturbed texts client user s₀.server) s₀ trace s) :
    DocumentsKept texts client user s₀ trace s :=
  Ownership.kept_run ((localAuthors_law texts s₀.server).strengthen And.left)
    (authors_start opened).withLocalWrites run

/-- What the clients have in flight in an undisturbed run. -/
theorem inFlight_run (opened : Opened s₀) (signedIn : SignedIn s₀ client user)
    (named : user.uuid ≠ "")
    (run : (localSessions texts).Run (Undisturbed texts client user s₀.server) s₀ trace s) :
    Paired s ∧ Authored texts s client user := by
  induction run with
  | start => exact ⟨by simp [Paired, opened.idle], by simp [Authored, opened.idle]⟩
  | step before permitted stepped ih =>
      have stepCase := Program.stepCase_of_step stepped
      exact ⟨ih.1.step stepCase, ih.2.step (signedIn_run signedIn before) named stepCase⟩

/-- The book and the container agree in every undisturbed run. -/
theorem agrees_run (opened : Opened s₀) (signedIn : SignedIn s₀ client user)
    (named : user.uuid ≠ "")
    (run : (localSessions texts).Run (Undisturbed texts client user s₀.server) s₀ trace s) :
    Agrees texts client user trace s := by
  induction run with
  | start =>
      refine ⟨fun _ => by simp [Idle, opened.idle], ?_, ?_, ?_, fun ready => (by cases ready.1)⟩
      · simp [opened.idle]
      · simp [opened.idle]
      · rintro id ⟨request, ⟨task, inFlight, -⟩, -⟩
        simp [opened.idle] at inFlight
  | step before permitted stepped ih =>
      have kept := documentsKept_run opened before
      obtain ⟨paired, authored⟩ := inFlight_run opened signedIn named before
      exact ih.step kept paired (signedIn_run signedIn before).here
        (separate kept authored ih.apart (signedIn_run signedIn)) permitted
        (Program.stepCase_of_step stepped)

/-- **The book is what a reload would show**, once it has been loaded and nothing is in flight
for it: the same recipes, with the IDs and the author of their documents, each once. -/
theorem reload_shows_book (opened : Opened s₀) (signedIn : SignedIn s₀ client user)
    (named : user.uuid ≠ "")
    (run : (localSessions texts).Run (Undisturbed texts client user s₀.server) s₀ trace s)
    (loaded : hasLoaded trace client = true) (idle : Idle s client) :
    ∃ rows, UserController.fetchRecipe (s.clients client).currentUser
        (.documents s.server.getDocuments) = .ok rows ∧
      rows.Perm ((s.clients client).savedRecipes.map (reloaded user)) := by
  have here := (signedIn_run signedIn run).here
  have kept := documentsKept_run opened run
  have written : ∀ id document, (id, document) ∈ s.server.getDocuments →
      WrittenUnder id document := fun id document listed =>
    (kept.store.stored id document (Collection.mem_getDocuments.mp listed)).1
  have mirrors := (agrees_run opened signedIn named run).mirrors
    ⟨loaded, fun task member own => isFetch_of_isSearch (idle task member own)⟩
  have stored : ∀ id document, s.server[id]? = some document ∧ (mirror texts user).own document ↔
      ∃ row ∈ (s.clients client).savedRecipes, row.documentID = id ∧
        document = Value.storedFields (row.recipe.dictionary id (some user.uuid)) := by
    intro id document
    have expected : (mirror texts user).Expected s client id document ↔
        s.server[id]? = some document ∧ (mirror texts user).own document := by
      refine Mirror.expected_idle ?_
      rintro _ ⟨task, member, own, rfl, -⟩
      exact change_eq_none (.inl (idle task member own))
    exact expected.symm.trans (mirrors.expected id document)
  refine ⟨_, fetchRecipe_eq written, ?_⟩
  have onceFetched := (pairwise_ownRecipes (s.clients client).currentUser s.server).imp
    fun ordered same => ne_of_lt ordered (congrArg Row.documentID same)
  have onceInBook : ((s.clients client).savedRecipes.map (reloaded user)).Nodup := by
    refine List.Nodup.of_map Row.documentID ?_
    rw [List.map_map]
    exact mirrors.nodup
  refine (List.perm_ext_iff_of_nodup onceFetched onceInBook).mpr fun row => ?_
  rw [mem_ownRecipes_iff written, here, List.mem_map]
  constructor
  · rintro ⟨fetched, another, recipe, authorID, ⟨⟩, inContainer, author, same⟩
    obtain ⟨source, inBook, sameID, document⟩ := (stored _ _).mp ⟨inContainer,
      (text_authorID_dictionary recipe row.documentID authorID).trans (congrArg some author)⟩
    refine ⟨source, inBook, ?_⟩
    have reads := congrArg Recipe.ofDocument document
    rw [Recipe.ofDocument_dictionary, Recipe.ofDocument_dictionary, ← same] at reads
    rw [reloaded, sameID, ← Option.some.inj reads, ← fetched]
  · rintro ⟨source, inBook, rfl⟩
    obtain ⟨inContainer, -⟩ := (stored source.documentID _).mpr ⟨source, inBook, rfl, rfl⟩
    exact ⟨rfl, user, source.recipe, some user.uuid, rfl, inContainer, rfl, rfl⟩

end

/-- A client of a user with one recipe, next to those of another user. -/
def twoUsers : State :=
  { home with clients := fun client => { currentUser := some (if client = 0 then ann else bob) } }

theorem twoUsers_opened : Opened twoUsers where
  idle := rfl
  empty _ := rfl
  written := home_opened.written

theorem twoUsers_signedIn : SignedIn twoUsers 0 ann where
  here := rfl
  nowhereElse := by
    intro other elsewhere another there
    obtain rfl : (if other = 0 then ann else bob) = another := Option.some.inj there
    rw [if_neg elsewhere]
    decide

/-- While another user adds a recipe, one is added and the old one is deleted. The added one
is what a reload would show. -/
theorem reload_shows_book_added :
    ∃ trace s rows,
      (localSessions .codePoints).Run (Undisturbed .codePoints 0 ann twoUsers.server) twoUsers
        trace s ∧
      UserController.fetchRecipe (s.clients 0).currentUser (.documents s.server.getDocuments) =
        .ok rows ∧ rows.map Row.documentID = ["R3"] := by
  have executed : ((localSessions .codePoints).execute
      (Undisturbed .codePoints 0 ann twoUsers.server) twoUsers
      [.act 0 (.own .loadUserData), .act 1 (.own (.searchBarSearchButtonClicked "soup")),
        .serve 1 (.answeredWith searchAnswer), .deliver 1 {}, .serve 0 .answered,
        .act 1 (.own (.didSelectRowAt 0)), .act 1 (.own (.addToRecipeBookButtonTapped "R2")),
        .deliver 0 {}, .act 0 (.own (.searchBarSearchButtonClicked "soup")),
        .serve 1 (.answeredWith searchAnswer), .deliver 1 {}, .act 0 (.own (.didSelectRowAt 0)),
        .act 0 (.own (.addToRecipeBookButtonTapped "R3")), .act 0 (.own (.commitDelete 0)),
        .serve 2 .answered, .serve 1 .answered, .serve 0 .failed, .deliver 2 {}, .deliver 1 {}]
        []).any
        (fun last => hasLoaded last.1 0 && decide (Idle last.2 0) &&
          decide ((last.2.clients 0).savedRecipes.map Row.documentID = ["R3"])) = true := by
    decide
  obtain ⟨⟨trace, s⟩, followed, last⟩ := (Option.any_eq_true _ _).mp executed
  obtain ⟨ready, book⟩ := Bool.and_eq_true_iff.mp last
  obtain ⟨loaded, idle⟩ := Bool.and_eq_true_iff.mp ready
  have run := Program.Run.of_execute .start followed
  obtain ⟨rows, fetched, same⟩ := reload_shows_book twoUsers_opened twoUsers_signedIn (by decide)
    run loaded (of_decide_eq_true idle)
  refine ⟨trace, s, rows, run, fetched, ?_⟩
  have sameIDs := same.map Row.documentID
  rw [List.map_map, show Row.documentID ∘ reloaded ann = Row.documentID from rfl,
    of_decide_eq_true book] at sameIDs
  exact List.perm_singleton.mp sameIDs

end UserSwitches

end MyMealPrep.RecipeBook
