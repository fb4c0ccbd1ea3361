import MyMealPrep.Login.System

/-!
# What the handlers of the login do

Each handler and each callback is read once, here: which user it puts into
`currentUser`, which account it leaves `Auth` signed in with, which requests it
issues and when it enters the tab bar. The invariants of the login use these
facts and do not unfold the handlers again.
-/

set_option autoImplicit false

namespace MyMealPrep.Login

open Firestore (Collection Document Snapshot Value)

variable {platform : Platform}

/-! ## Answers -/

theorem answer_getUsers {s : State} {fate : Fate} {task : Task} {email : String}
    (request : task.request = .getUsers email) :
    (program platform).answer s fate task =
      (serve platform fate { s.server with users := usersSeen s task.client }
        (.getUsers email)).2 := by
  rw [RequestReply.Program.answer, request]
  rfl

theorem answer_eq_serve {s : State} {fate : Fate} {task : Task}
    (noQuery : ∀ email, task.request ≠ .getUsers email) :
    (program platform).answer s fate task = (serve platform fate s.server task.request).2 := by
  rw [RequestReply.Program.answer]
  cases request : task.request with
  | getUsers email => exact absurd request (noQuery email)
  | _ => rfl

/-! ## The fetched user -/

/-- The user of the first document found, when there is one. -/
def fetchedUser (reply : Reply) : Option User :=
  match UserController.fetchUserWithEmail reply with
  | some (.ok (some user)) => some user
  | _ => none

/-- A user is fetched from the first document of the answer. -/
theorem fetchedUser_eq_some_iff {reply : Reply} {user : User} :
    fetchedUser reply = some user ↔
      ∃ document rest, reply = .documents ((user.uuid, document) :: rest) ∧
        Document.text document "email" = some user.email ∧
        Document.text document "password" = some user.password := by
  cases reply with
  | documents snapshot =>
      cases snapshot with
      | nil => simp [fetchedUser, UserController.fetchUserWithEmail]
      | cons first rest =>
          obtain ⟨documentID, document⟩ := first
          cases decoded : User.ofDocument documentID document with
          | none =>
              simp only [fetchedUser, UserController.fetchUserWithEmail, decoded, reduceCtorEq,
                Reply.documents.injEq, List.cons.injEq, Prod.mk.injEq, false_iff, not_exists,
                not_and]
              rintro _ _ ⟨⟨rfl, rfl⟩, rfl⟩ email password
              rw [User.ofDocument_eq_some_iff.mpr ⟨email, password, rfl⟩] at decoded
              cases decoded
          | some found =>
              obtain ⟨email, password, sameID⟩ := User.ofDocument_eq_some_iff.mp decoded
              simp only [fetchedUser, UserController.fetchUserWithEmail, decoded,
                Option.some.injEq, Reply.documents.injEq, List.cons.injEq, Prod.mk.injEq]
              constructor
              · rintro rfl
                exact ⟨document, rest, ⟨⟨sameID.symm, rfl⟩, rfl⟩, email, password⟩
              · rintro ⟨_, _, ⟨⟨rfl, rfl⟩, rfl⟩, email', password'⟩
                rw [User.ofDocument_eq_some_iff.mpr ⟨email', password', rfl⟩] at decoded
                exact (Option.some.inj decoded).symm
  | _ => simp [fetchedUser, UserController.fetchUserWithEmail]

/-! ## What a callback sets -/

/-- The user a callback puts into `currentUser`. -/
def setsCurrentUser (texts : TextEquality) : Continuation → Reply → Option User
  | .viewDidLoad, reply => fetchedUser reply
  | .signInFetched email password, reply =>
      (fetchedUser reply).filter fun user =>
        texts.equal password user.password && texts.equal email user.email
  | .userStored _, .error => none
  | .userStored user, _ => some user
  | _, _ => none

/-- The account a callback leaves `Auth` signed in with. -/
def setsSession : Continuation → Reply → Option Session
  | .signedIn email, .account account => some { account, email }
  | .userCreated email _, .account account => some { account, email }
  | _, _ => none

theorem resume_currentUser (continuation : Continuation) (reply : Reply) (input : Input)
    (client : Client) :
    (resume platform continuation reply input client).client.currentUser =
      (setsCurrentUser platform.texts continuation reply).or client.currentUser := by
  cases continuation with
  | viewDidLoad =>
      simp only [resume, viewDidLoadFetched, setsCurrentUser, fetchedUser]
      split <;> simp_all
  | signInFetched email password =>
      simp only [resume, signInFetched, setsCurrentUser]
      split
      · rename_i user fetched
        have found : fetchedUser reply = some user := by rw [fetchedUser, fetched]
        by_cases samePassword : platform.texts.equal password user.password = true
        · by_cases sameEmail : platform.texts.equal email user.email = true <;>
            simp [found, samePassword, sameEmail, Option.filter]
        · simp [found, samePassword, Option.filter]
      · rename_i unknown
        have missing : fetchedUser reply = none := by rw [fetchedUser, unknown]
        simp [missing]
      · rename_i notUser _
        have missing : fetchedUser reply = none := by
          rw [fetchedUser]
          split
          · rename_i user found
            exact absurd found (notUser user)
          · rfl
        simp [missing]
  | userStored user =>
      cases reply <;> simp [resume, userStored, setsCurrentUser, UserController.createUser]
  | signedIn email => cases reply <;> simp [resume, signedIn, setsCurrentUser]
  | signUpFetched email password =>
      simp only [resume, signUpFetched, setsCurrentUser]
      split <;> simp
  | userCreated email password =>
      cases reply with
      | account index =>
          simp only [resume, userCreated, setsCurrentUser]
          split
          · split
            · split <;> simp
            · simp
          · simp
      | _ => simp [resume, userCreated, setsCurrentUser]
  | emailUpdated account newEmail =>
      cases reply <;> simp [resume, emailUpdated, setsCurrentUser]
  | passwordUpdated newPassword =>
      cases reply <;> simp [resume, passwordUpdated, setsCurrentUser]
  | updateEmailFetched email => simp [resume, setsCurrentUser]
  | updatePasswordFetched password => simp [resume, setsCurrentUser]
  | ignored => simp [resume, setsCurrentUser]

@[simp] theorem updateUsersEmail_client (newEmail : String) (client : Client) :
    (updateUsersEmail newEmail client).client = client := by
  simp only [updateUsersEmail]
  split
  · rfl
  · split <;> rfl

@[simp] theorem updateUsersPassword_client (texts : TextEquality)
    (newPassword reEnteredPassword : String) (client : Client) :
    (updateUsersPassword texts newPassword reEnteredPassword client).client = client := by
  simp only [updateUsersPassword]
  split
  · rfl
  split
  · rfl
  split
  · split <;> rfl
  · rfl

@[simp] theorem saveButtonTapped_client (texts : TextEquality)
    (newEmail newPassword reEnteredPassword : String) (client : Client) :
    (saveButtonTapped texts newEmail newPassword reEnteredPassword client).client = client := by
  simp [saveButtonTapped]

theorem handle_currentUser (action : Action) (client : Client) :
    (handle platform action client).client.currentUser = client.currentUser := by
  cases action with
  | viewDidLoad =>
      simp only [handle, viewDidLoad]
      split <;> rfl
  | signUpSignInButtonTapped statusIsSignUp username enterPassword =>
      simp only [handle, signUpSignInButtonTapped]
      repeat' split
      all_goals rfl
  | logoutButtonTapped => rfl
  | saveButtonTapped editEmail editPassword reEnter => simp [handle]

/-! ## What is issued -/

/-- The requests an action issues. -/
inductive IssuedByAction (client : Client) : Action → Request × Continuation → Prop where
  | viewDidLoad {session : Session} (signedIn : client.session = some session) :
      IssuedByAction client .viewDidLoad (.getUsers session.email, .viewDidLoad)
  | signIn {email password : String} :
      IssuedByAction client (.signUpSignInButtonTapped false email password)
        (.getUsers email, .signInFetched email password)
  | signUp {email password : String} (typed : password ≠ "") :
      IssuedByAction client (.signUpSignInButtonTapped true email password)
        (.getUsers email, .signUpFetched email password)
  | updateEmail {session : Session} {newEmail editPassword reEnter : String}
      (signedIn : client.session = some session) :
      IssuedByAction client (.saveButtonTapped newEmail editPassword reEnter)
        (.updateEmail session.account newEmail, .emailUpdated session.account newEmail)
  | updatePassword {session : Session} {editEmail newPassword reEnter : String}
      (signedIn : client.session = some session) :
      IssuedByAction client (.saveButtonTapped editEmail newPassword reEnter)
        (.updatePassword session.account newPassword, .passwordUpdated newPassword)

/-- An action issues no other requests. -/
theorem issuedByAction_of_mem {action : Action} {client : Client}
    {issued : Request × Continuation} (member : issued ∈ (handle platform action client).requests) :
    IssuedByAction client action issued := by
  cases action with
  | viewDidLoad =>
      simp only [handle, viewDidLoad] at member
      split at member
      · simp at member
      · rename_i session signedIn
        rw [List.mem_singleton] at member
        exact member ▸ .viewDidLoad signedIn
  | signUpSignInButtonTapped statusIsSignUp username enterPassword =>
      simp only [handle, signUpSignInButtonTapped] at member
      cases statusIsSignUp with
      | false =>
          split at member
          · simp at member
          · simp only [if_true] at member
            split at member
            · rw [List.mem_singleton] at member
              exact member ▸ .signIn
            · simp at member
      | true =>
          split at member
          · simp at member
          · rename_i typed
            simp only [Bool.or_eq_true, String.isEmpty_iff, not_or] at typed
            simp only [Bool.true_eq_false, if_false, List.mem_singleton] at member
            exact member ▸ .signUp typed.2
  | logoutButtonTapped => simp [handle, logoutButtonTapped] at member
  | saveButtonTapped editEmail editPassword reEnter =>
      simp only [handle, saveButtonTapped, List.mem_append, updateUsersEmail_client] at member
      rcases member with email | password
      · simp only [updateUsersEmail] at email
        split at email
        · simp at email
        · split at email
          · simp at email
          · rename_i session signedIn
            rw [List.mem_singleton] at email
            exact email ▸ .updateEmail signedIn
      · simp only [updateUsersPassword] at password
        split at password
        · simp at password
        · split at password
          · simp at password
          · split at password
            · split at password
              · simp at password
              · rename_i session signedIn
                rw [List.mem_singleton] at password
                exact password ▸ .updatePassword signedIn
            · simp at password

/-- The requests a callback issues. -/
inductive IssuedByCallback (platform : Platform) (client : Client) (input : Input) :
    Continuation → Reply → Request × Continuation → Prop where
  | signIn {email password : String} {reply : Reply} {user : User}
      (accepted : setsCurrentUser platform.texts (.signInFetched email password) reply =
        some user) :
      IssuedByCallback platform client input (.signInFetched email password) reply
        (.signIn email password, .signedIn email)
  | createUser {email password : String} {reply : Reply}
      (unknown : UserController.fetchUserWithEmail reply = some (.ok none)) :
      IssuedByCallback platform client input (.signUpFetched email password) reply
        (.createUser email password, .userCreated email password)
  | setUser {email password : String} {account : Nat} (validEmail : isValidEmail email = true)
      (validPassword : isValidPassword platform.characters password = true)
      (confirmed : platform.texts.equal input.enterPassword input.confirmPassword = true) :
      IssuedByCallback platform client input (.userCreated email password) (.account account)
        (.setUser (some account) input.uuid
            (UserController.userDict ⟨email, password, input.uuid⟩),
          .userStored ⟨email, password, input.uuid⟩)
  | lookUpForEmail {account : Nat} {newEmail : String} {reply : Reply} {currentUser : User}
      (present : client.currentUser = some currentUser) :
      IssuedByCallback platform client input (.emailUpdated account newEmail) reply
        (.getUsers currentUser.email, .updateEmailFetched newEmail)
  | lookUpForPassword {newPassword : String} {reply : Reply} {currentUser : User}
      (present : client.currentUser = some currentUser) :
      IssuedByCallback platform client input (.passwordUpdated newPassword) reply
        (.getUsers currentUser.email, .updatePasswordFetched newPassword)
  | updateEmail {newEmail : String} {reply : Reply} {user : User}
      (found : fetchedUser reply = some user) :
      IssuedByCallback platform client input (.updateEmailFetched newEmail) reply
        (.updateUser client.queue user.uuid Constants.email newEmail, .ignored)
  | updatePassword {newPassword : String} {reply : Reply} {user : User}
      (found : fetchedUser reply = some user) :
      IssuedByCallback platform client input (.updatePasswordFetched newPassword) reply
        (.updateUser client.queue user.uuid Constants.password newPassword, .ignored)

theorem updateFetchedUser_eq (client : Client) (reply : Reply) (field value : String) :
    UserController.updateFetchedUser client reply field value =
      match fetchedUser reply with
      | none => []
      | some user => [(.updateUser client.queue user.uuid field value, .ignored)] := by
  simp only [UserController.updateFetchedUser, fetchedUser]
  split <;> simp_all

theorem mem_updateFetchedUser {client : Client} {reply : Reply} {field value : String}
    {issued : Request × Continuation}
    (member : issued ∈ UserController.updateFetchedUser client reply field value) :
    ∃ user, fetchedUser reply = some user ∧
      issued = (.updateUser client.queue user.uuid field value, .ignored) := by
  rw [updateFetchedUser_eq] at member
  split at member
  · cases member
  · rename_i user found
    exact ⟨user, found, List.mem_singleton.mp member⟩

theorem mem_lookUpCurrentUser {client : Client} {continuation : Continuation}
    {issued : Request × Continuation}
    (member : issued ∈ UserController.lookUpCurrentUser client continuation) :
    ∃ currentUser, client.currentUser = some currentUser ∧
      issued = (.getUsers currentUser.email, continuation) := by
  rw [UserController.lookUpCurrentUser] at member
  split at member
  · cases member
  · rename_i currentUser present
    exact ⟨currentUser, present, List.mem_singleton.mp member⟩

/-- A callback issues no other requests. -/
theorem issuedByCallback_of_mem {continuation : Continuation} {reply : Reply} {input : Input}
    {client : Client} {issued : Request × Continuation}
    (member : issued ∈ (resume platform continuation reply input client).requests) :
    IssuedByCallback platform client input continuation reply issued := by
  cases continuation with
  | viewDidLoad =>
      simp only [resume, viewDidLoadFetched] at member
      split at member <;> simp at member
  | signInFetched email password =>
      simp only [resume, signInFetched] at member
      split at member
      · rename_i user fetched
        split at member
        · rename_i samePassword
          split at member
          · rename_i sameEmail
            rw [List.mem_singleton] at member
            have accepted : setsCurrentUser platform.texts (.signInFetched email password) reply =
                some user := by
              simp [setsCurrentUser, fetchedUser, fetched, samePassword, sameEmail]
            exact member ▸ .signIn accepted
          · simp at member
        · simp at member
      · simp at member
      · simp at member
  | signedIn email => cases reply <;> simp [resume, signedIn] at member
  | signUpFetched email password =>
      simp only [resume, signUpFetched] at member
      split at member
      · simp at member
      · rename_i unknown
        rw [List.mem_singleton] at member
        exact member ▸ .createUser unknown
      · simp at member
  | userCreated email password =>
      cases reply with
      | account index =>
          simp only [resume, userCreated] at member
          split at member
          · rename_i validEmail
            split at member
            · rename_i validPassword
              split at member
              · rename_i confirmed
                rw [List.mem_singleton] at member
                exact member ▸ .setUser validEmail validPassword confirmed
              · simp at member
            · simp at member
          · simp at member
      | _ => simp [resume, userCreated] at member
  | userStored user =>
      cases reply <;> simp [resume, userStored, UserController.createUser] at member
  | emailUpdated account newEmail =>
      simp only [resume, emailUpdated] at member
      split at member
      · cases member
      · obtain ⟨currentUser, present, rfl⟩ := mem_lookUpCurrentUser member
        exact .lookUpForEmail present
  | passwordUpdated newPassword =>
      simp only [resume, passwordUpdated] at member
      split at member
      · cases member
      · obtain ⟨currentUser, present, rfl⟩ := mem_lookUpCurrentUser member
        exact .lookUpForPassword present
  | updateEmailFetched newEmail =>
      obtain ⟨user, found, rfl⟩ := mem_updateFetchedUser member
      exact .updateEmail found
  | updatePasswordFetched newPassword =>
      obtain ⟨user, found, rfl⟩ := mem_updateFetchedUser member
      exact .updatePassword found
  | ignored => simp [resume] at member

end MyMealPrep.Login
