import MyMealPrep.Login.System
import MyMealPrep.Machines.Operations
import MyMealPrep.MealPlans.Effects
import MyMealPrep.MealPlans.MalformedDocuments
import MyMealPrep.RecipeBook.System

/-!
# What the functions of `UserController` call back

Six functions of `UserController` ask Firestore and take a completion handler.
`createUser` and `fetchUserWithEmail` forget it where they only print an error, or
return at a document that is no user. `updateEmail` and `updatePassword` never call
it. `fetchRecipe` always does, and `fetchMealPlans` does unless it traps.

So each of the six answers as it should on exactly the replies named in
`answers_iff`, and a sign-in or sign-up whose fetch fails shows nothing
(`failed_fetch_unanswered`).
-/

set_option autoImplicit false

namespace MyMealPrep.Home.UserController

open MealPlans (FieldMissing RecipeRejected ReachesRejected)

/-! ## The functions -/

/-- `createUser`, whose write waits in the given queue. -/
def createUser (queue : Option Nat) (user : User) :
    Operation Login.Request Login.Reply (Except UserError (Option User)) :=
  .request (.setUser queue user.uuid (Login.UserController.userDict user)) fun reply =>
    match Login.UserController.createUser user reply with
    | none => .finish
    | some result => .result result

/-- `fetchUserWithEmail` -/
def fetchUserWithEmail (email : String) :
    Operation Login.Request Login.Reply (Except UserError (Option User)) :=
  .request (.getUsers email) fun reply =>
    match Login.UserController.fetchUserWithEmail reply with
    | none => .finish
    | some result => .result result

/-- What `updateEmail` and `updatePassword` do with the user they have fetched. -/
def userFetched (queue : Option Nat) (field value : String) :
    Except UserError (Option User) → Operation Login.Request Login.Reply String
  | .error _ => .finish
  | .ok none => .finish
  | .ok (some user) => .request (.updateUser queue user.uuid field value) fun _ => .finish

/-- The common body of `updateEmail` and `updatePassword`. -/
def updateField (queue : Option Nat) (currentUser : Option User) (field value : String) :
    Operation Login.Request Login.Reply String :=
  match currentUser with
  | none => .finish
  | some currentUser =>
      (fetchUserWithEmail currentUser.email).onComplete (userFetched queue field value)

/-- `updateEmail` -/
def updateEmail (queue : Option Nat) (currentUser : Option User) (email : String) :
    Operation Login.Request Login.Reply String :=
  updateField queue currentUser Constants.email email

/-- `updatePassword` -/
def updatePassword (queue : Option Nat) (currentUser : Option User) (password : String) :
    Operation Login.Request Login.Reply String :=
  updateField queue currentUser Constants.password password

/-- `fetchRecipe` -/
def fetchRecipe (currentUser : Option User) :
    Operation RecipeBook.Request RecipeBook.Reply (Except RecipeError (List RecipeBook.Row)) :=
  .request .getRecipes fun reply =>
    .result (RecipeBook.UserController.fetchRecipe currentUser reply)

/-- `fetchMealPlans` -/
def fetchMealPlans (currentUser : Option User) :
    Operation MealPlans.Request MealPlans.Reply
      (Except MealPlanError (List MealPlans.UserController.Fetched)) :=
  .request .getMealPlans fun reply =>
    match MealPlans.UserController.fetchMealPlans currentUser reply with
    | none => .trap
    | some result => .result result

/-! ## Failures -/

/-- A query of users fails, or its first document is no user. -/
def UserFailed (reply : Login.Reply) : Prop :=
  reply = .error ∨ ∃ documentID document rest,
    reply = .documents ((documentID, document) :: rest) ∧ User.ofDocument documentID document = none

/-- A fetch of recipes fails, or one of its documents is no recipe. -/
def RecipesFailed (reply : RecipeBook.Reply) : Prop :=
  reply = .error ∨ ∃ snapshot, reply = .documents snapshot ∧
    ∃ entry ∈ snapshot, Recipe.ofDocument entry.2 = none

/-- A fetch of meal plans fails, or one of its documents is no meal plan. -/
def MealPlansFailed (reply : MealPlans.Reply) : Prop :=
  reply = .error ∨ ∃ snapshot, reply = .documents snapshot ∧
    ∃ entry ∈ snapshot, FieldMissing entry.2 ∨ RecipeRejected entry.2

/-- Each of the functions calls its handler exactly once, however its requests are answered, and
with a failure where something has failed. -/
def AlwaysAnswers : Prop :=
  (∀ queue user answer, Operation.Answers answer (createUser queue user)
    (answer (.setUser queue user.uuid (Login.UserController.userDict user)) = .error)) ∧
  (∀ email answer, Operation.Answers answer (fetchUserWithEmail email)
    (UserFailed (answer (.getUsers email)))) ∧
  (∀ queue currentUser email answer,
    Operation.CompletesOnce answer (updateEmail queue currentUser email)) ∧
  (∀ queue currentUser password answer,
    Operation.CompletesOnce answer (updatePassword queue currentUser password)) ∧
  (∀ currentUser answer, Operation.Answers answer (fetchRecipe currentUser)
    (RecipesFailed (answer .getRecipes))) ∧
  ∀ currentUser answer, Operation.Answers answer (fetchMealPlans currentUser)
    (MealPlansFailed (answer .getMealPlans))

/-! ## Users -/

theorem createUser_answers_iff (queue : Option Nat) (user : User)
    (answer : Login.Request → Login.Reply) :
    Operation.Answers answer (createUser queue user)
        (answer (.setUser queue user.uuid (Login.UserController.userDict user)) = .error) ↔
      answer (.setUser queue user.uuid (Login.UserController.userDict user)) ≠ .error := by
  rw [createUser, Operation.Answers, Operation.execute_request]
  cases answer (.setUser queue user.uuid (Login.UserController.userDict user)) <;>
    simp [Login.UserController.createUser]

/-- The completion of a fetch of users is called, with a user or none, unless the fetch has
failed. -/
theorem fetchUserWithEmail_eq_none_iff (reply : Login.Reply) :
    Login.UserController.fetchUserWithEmail reply = none ↔ UserFailed reply := by
  rw [UserFailed]
  cases reply with
  | error => simp [Login.UserController.fetchUserWithEmail]
  | done => simp [Login.UserController.fetchUserWithEmail]
  | account index => simp [Login.UserController.fetchUserWithEmail]
  | documents snapshot =>
      cases snapshot with
      | nil => simp [Login.UserController.fetchUserWithEmail]
      | cons first rest =>
          obtain ⟨documentID, document⟩ := first
          simp only [Login.UserController.fetchUserWithEmail]
          cases decoded : User.ofDocument documentID document with
          | none => exact iff_of_true rfl (.inr ⟨documentID, document, rest, rfl, decoded⟩)
          | some user => simp [decoded]

theorem fetchUserWithEmail_answers_iff (email : String) (answer : Login.Request → Login.Reply) :
    Operation.Answers answer (fetchUserWithEmail email) (UserFailed (answer (.getUsers email))) ↔
      ¬ UserFailed (answer (.getUsers email)) := by
  rw [fetchUserWithEmail, Operation.Answers, Operation.execute_request,
    ← fetchUserWithEmail_eq_none_iff]
  cases Login.UserController.fetchUserWithEmail (answer (.getUsers email)) <;> simp

theorem updateField_silent (queue : Option Nat) (currentUser : Option User)
    (field value : String) (answer : Login.Request → Login.Reply) :
    Operation.Silent answer (updateField queue currentUser field value) := by
  cases currentUser with
  | none => rfl
  | some currentUser =>
      refine Operation.silent_onComplete (fun fetched => ?_) _
      rcases fetched with _ | _ | user <;> rfl

/-- Updating a field issues the requests of the login screens. -/
theorem updateField_requests (client : Login.Client) (continuation : Login.Continuation)
    (field value : String) (answer : Login.Request → Login.Reply) :
    Operation.requests answer (updateField client.queue client.currentUser field value) =
      (Login.UserController.lookUpCurrentUser client continuation).flatMap fun issued =>
        issued.1 ::
          (Login.UserController.updateFetchedUser client (answer issued.1) field value).map
            Prod.fst := by
  rw [updateField.eq_def, Login.UserController.lookUpCurrentUser]
  cases client.currentUser with
  | none => rfl
  | some currentUser =>
      simp only [fetchUserWithEmail, Operation.onComplete, Operation.requests,
        List.flatMap_singleton, Login.UserController.updateFetchedUser]
      rcases Login.UserController.fetchUserWithEmail (answer (.getUsers currentUser.email)) with
        _ | _ | _ | user <;> rfl

/-! ## Recipes and meal plans -/

theorem fetchRecipe_answers (currentUser : Option User)
    (answer : RecipeBook.Request → RecipeBook.Reply) :
    Operation.Answers answer (fetchRecipe currentUser) (RecipesFailed (answer .getRecipes)) := by
  refine ⟨rfl, _, rfl, ?_⟩
  rintro (failed | ⟨snapshot, answered, malformed⟩)
  · rw [failed]
    exact ⟨_, rfl⟩
  · have undecoded : RecipeBook.UserController.decodeRecipes snapshot = none := by
      rw [RecipeBook.UserController.decodeRecipes, Decoding.mapM_eq_none_iff]
      obtain ⟨entry, member, rejected⟩ := malformed
      exact ⟨entry, member, by rw [rejected]; rfl⟩
    rw [answered, RecipeBook.UserController.fetchRecipe, undecoded]
    exact ⟨_, rfl⟩

/-- A snapshot is decoded as a whole only when all of its documents are meal plans. -/
theorem not_malformed_of_decoded {snapshot : Firestore.Snapshot}
    {fetchedMealPlans : List MealPlans.UserController.Fetched}
    (decoded : MealPlans.UserController.decodeMealPlans snapshot =
      some (some fetchedMealPlans)) :
    ¬ ∃ entry ∈ snapshot, FieldMissing entry.2 ∨ RecipeRejected entry.2 := by
  rintro ⟨entry, member, malformed⟩
  obtain ⟨mealPlan, read, -⟩ := MealPlans.decodeMealPlans_mem decoded member
  rcases MealPlans.decoding_cases entry.2 with ⟨_, other⟩ | ⟨_, _, other⟩ | ⟨present, accepted, _⟩
  · rw [read] at other
    cases other
  · rw [read] at other
    cases other
  · exact malformed.elim present accepted

theorem fetchMealPlans_answers_iff (currentUser : Option User)
    (answer : MealPlans.Request → MealPlans.Reply) :
    Operation.Answers answer (fetchMealPlans currentUser)
        (MealPlansFailed (answer .getMealPlans)) ↔
      ∀ snapshot, answer .getMealPlans = .documents snapshot → ¬ ReachesRejected snapshot := by
  rw [fetchMealPlans, Operation.Answers, Operation.execute_request, MealPlansFailed]
  cases answer .getMealPlans with
  | error => simp [MealPlans.UserController.fetchMealPlans]
  | done => simp [MealPlans.UserController.fetchMealPlans]
  | documents snapshot =>
      simp only [MealPlans.Reply.documents.injEq, forall_eq',
        ← MealPlans.decodeMealPlans_eq_none_iff, MealPlans.UserController.fetchMealPlans,
        reduceCtorEq, false_or, exists_eq_left']
      rcases decoded : MealPlans.UserController.decodeMealPlans snapshot with _ | _ | fetched
      · simp
      · simp
      · simp [not_malformed_of_decoded decoded]

/-! ## All of them -/

/-- **`createUser` answers unless its write fails, `fetchUserWithEmail` unless its query fails or
finds a document that is no user, `updateEmail` and `updatePassword` never, `fetchRecipe` always
and `fetchMealPlans` unless it reaches a rejected recipe.** -/
theorem answers_iff (queue : Option Nat) (user : User) (currentUser : Option User)
    (email password : String)
    (login : Login.Request → Login.Reply) (recipes : RecipeBook.Request → RecipeBook.Reply)
    (mealPlans : MealPlans.Request → MealPlans.Reply) :
    (Operation.Answers login (createUser queue user)
        (login (.setUser queue user.uuid (Login.UserController.userDict user)) = .error) ↔
      login (.setUser queue user.uuid (Login.UserController.userDict user)) ≠ .error) ∧
    (Operation.Answers login (fetchUserWithEmail email) (UserFailed (login (.getUsers email))) ↔
      ¬ UserFailed (login (.getUsers email))) ∧
    ¬ Operation.CompletesOnce login (updateEmail queue currentUser email) ∧
    ¬ Operation.CompletesOnce login (updatePassword queue currentUser password) ∧
    Operation.Answers recipes (fetchRecipe currentUser) (RecipesFailed (recipes .getRecipes)) ∧
    (Operation.Answers mealPlans (fetchMealPlans currentUser)
        (MealPlansFailed (mealPlans .getMealPlans)) ↔
      ∀ snapshot, mealPlans .getMealPlans = .documents snapshot → ¬ ReachesRejected snapshot) :=
  ⟨createUser_answers_iff queue user login, fetchUserWithEmail_answers_iff email login,
    Operation.not_completesOnce_of_silent (updateField_silent _ _ _ _ _),
    Operation.not_completesOnce_of_silent (updateField_silent _ _ _ _ _),
    fetchRecipe_answers currentUser recipes, fetchMealPlans_answers_iff currentUser mealPlans⟩

/-- A sign-in or a sign-up whose fetch has failed shows nothing and asks for nothing more. -/
theorem failed_fetch_unanswered {reply : Login.Reply} (failed : UserFailed reply)
    (texts : TextEquality) (email password : String) (client : Login.Client) :
    Login.signInFetched texts email password reply client = { client } ∧
      Login.signUpFetched email password reply client = { client } := by
  have unanswered := (fetchUserWithEmail_eq_none_iff reply).mpr failed
  exact ⟨by rw [Login.signInFetched, unanswered], by rw [Login.signUpFetched, unanswered]⟩

/-- **A fetch that fails is left without an answer.** -/
theorem failed_fetch_silent : ¬ AlwaysAnswers := by
  intro answers
  obtain ⟨-, value, completed, -⟩ := answers.2.1 "ann@mail.com" fun _ => .error
  exact absurd completed (by simp [fetchUserWithEmail, Login.UserController.fetchUserWithEmail])

end MyMealPrep.Home.UserController
