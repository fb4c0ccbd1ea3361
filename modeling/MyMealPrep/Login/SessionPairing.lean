import MyMealPrep.Login.EditTargets

/-!
# The user in memory and the account signed in

The app calls `toTabBar` at the end of the automatic login, of a sign-in and of a
sign-up. Each of these sets `currentUser` in one callback and finds the session set
by another step: a sign-in sets `currentUser` before `Auth` is asked, an automatic
login and a sign-up set it when the session is there. In between another attempt,
or a logout, may replace the half that is already set.

An attempt in flight needs one of the halves to stay (`needsUser`, `needsSession`).
In every run in which no step replaces a half that is needed, by that of another
email, every call of `toTabBar` finds a user of the email signed in
(`tabBars_paired`). A half that is replaced by that of another email shows at the
end of the attempt that needs it (`paired_iff_of_callsTabBar`).
-/

set_option autoImplicit false

namespace MyMealPrep.Login

open Firestore (Collection Document Snapshot Value)
open RequestReply (Program)

variable {platform : Platform}

/-! ## What an attempt in flight needs -/

/-- The email that the user in memory must keep until the callback has run: a sign-in
waits for `Auth`. -/
def needsUser (task : Task) : Option String :=
  match task.continuation, task.reply with
  | .signedIn email, none => some email
  | .signedIn email, some (.account _) => some email
  | _, _ => none

/-- The email that the session must keep until the callback has run: an automatic
login waits for its lookup, a sign-up for its write. -/
def needsSession (task : Task) : Option String :=
  match task.continuation, task.request, task.reply with
  | .viewDidLoad, .getUsers email, none => some email
  | .viewDidLoad, .getUsers _, some reply => (fetchedUser reply).map User.email
  | .userStored _, _, some .error => none
  | .userStored user, _, _ => some user.email
  | _, _, _ => none

/-- The callback sets `currentUser` to a user of the email that the other requests of
the client need, and the session to that email. -/
def KeepsNeeded (texts : TextEquality) (remaining : List Task) (task : Task) : Prop :=
  ∀ reply ∈ task.reply, ∀ other ∈ remaining, other.client = task.client →
    (∀ user ∈ setsCurrentUser texts task.continuation reply, ∀ email ∈ needsUser other,
      user.email = email) ∧
    (∀ session ∈ setsSession task.continuation reply, ∀ email ∈ needsSession other,
      session.email = email)

instance (texts : TextEquality) (remaining : List Task) (task : Task) :
    Decidable (KeepsNeeded texts remaining task) :=
  inferInstanceAs (Decidable (∀ reply ∈ task.reply, _))

/-- Users sign in, sign up and log out. No step replaces a half that another attempt
of the same client needs. -/
def HalvesKept (texts : TextEquality) (_ : Trace) (s : State) : Label → Prop
  | .act client .logoutButtonTapped =>
      ∀ task ∈ s.tasks, task.client = client → needsSession task = none
  | .act _ (.saveButtonTapped _ _ _) => False
  | .act _ _ => True
  | .serve _ _ => True
  | .deliver index _ => ∀ task ∈ s.tasks[index]?, KeepsNeeded texts (s.tasks.eraseIdx index) task

instance (texts : TextEquality) (trace : Trace) (s : State) (label : Label) :
    Decidable (HalvesKept texts trace s label) :=
  match label with
  | .act client .logoutButtonTapped => inferInstanceAs (Decidable
      (∀ task ∈ s.tasks, task.client = client → needsSession task = none))
  | .act _ (.saveButtonTapped _ _ _) => .isFalse id
  | .act _ .viewDidLoad => .isTrue trivial
  | .act _ (.signUpSignInButtonTapped _ _ _) => .isTrue trivial
  | .serve _ _ => .isTrue trivial
  | .deliver index _ => inferInstanceAs (Decidable
      (∀ task ∈ s.tasks[index]?, KeepsNeeded texts (s.tasks.eraseIdx index) task))

/-- Users sign in, sign up and log out. -/
def LoginOnly (_ : Trace) (_ : State) : Label → Prop
  | .act _ (.saveButtonTapped _ _ _) => False
  | _ => True

instance (trace : Trace) (s : State) (label : Label) : Decidable (LoginOnly trace s label) :=
  match label with
  | .act _ (.saveButtonTapped _ _ _) => .isFalse id
  | .act _ .viewDidLoad => .isTrue trivial
  | .act _ (.signUpSignInButtonTapped _ _ _) => .isTrue trivial
  | .act _ .logoutButtonTapped => .isTrue trivial
  | .serve _ _ => .isTrue trivial
  | .deliver _ _ => .isTrue trivial

/-! ## The property -/

/-- The user in memory has the email of the account signed in. -/
def Paired (client : Client) : Prop :=
  ∃ user ∈ client.currentUser, ∃ session ∈ client.session, user.email = session.email

instance (client : Client) : Decidable (Paired client) :=
  inferInstanceAs (Decidable (∃ user ∈ client.currentUser, _))

/-- A step that calls `toTabBar` finds them paired. -/
def TabBarPaired (s : State) (output : Output) : Prop :=
  .toTabBar ∈ output.events → Paired (s.clients output.client)

instance (s : State) (output : Output) : Decidable (TabBarPaired s output) :=
  inferInstanceAs (Decidable (_ → _))

/-- In every run under the guard, every call of `toTabBar` finds them paired. -/
def TabBarsPaired (platform : Platform) (allowed : Trace → State → Label → Prop) (s₀ : State) :
    Prop :=
  ∀ trace s label output s', (program platform).Run allowed s₀ trace s →
    allowed trace s label → (program platform).step s label = some (output, s') →
    TabBarPaired s' output

/-! ## What callbacks do to the session -/

/-- A callback of the login screen replaces the session by the one it sets and
otherwise keeps it. -/
theorem resume_session {continuation : Continuation}
    (login : ∀ account newEmail, continuation ≠ .emailUpdated account newEmail) (reply : Reply)
    (input : Input) (client : Client) :
    (resume platform continuation reply input client).client.session =
      (setsSession continuation reply).or client.session := by
  cases continuation with
  | viewDidLoad =>
      simp only [resume, viewDidLoadFetched, setsSession]
      split <;> rfl
  | signInFetched email password =>
      simp only [resume, signInFetched, setsSession]
      split
      · split
        · split <;> rfl
        · rfl
      · rfl
      · rfl
  | signedIn email => cases reply <;> rfl
  | signUpFetched email password =>
      simp only [resume, signUpFetched, setsSession]
      split <;> rfl
  | userCreated email password =>
      cases reply with
      | account index =>
          simp only [resume, userCreated, setsSession]
          split
          · split
            · split <;> rfl
            · rfl
          · rfl
      | _ => rfl
  | userStored user => cases reply <;> rfl
  | emailUpdated account newEmail => exact absurd rfl (login account newEmail)
  | passwordUpdated newPassword => cases reply <;> rfl
  | updateEmailFetched email => rfl
  | updatePasswordFetched password => rfl
  | ignored => rfl

theorem handle_session {action : Action} (client : Client)
    (loggedIn : action ≠ .logoutButtonTapped) :
    (handle platform action client).client.session = client.session := by
  cases action with
  | logoutButtonTapped => exact absurd rfl loggedIn
  | viewDidLoad =>
      simp only [handle, viewDidLoad]
      split <;> rfl
  | signUpSignInButtonTapped statusIsSignUp username enterPassword =>
      simp only [handle, signUpSignInButtonTapped]
      repeat' split
      all_goals rfl
  | saveButtonTapped editEmail editPassword reEnter => simp [handle]

/-- The callbacks that call `toTabBar`, with what they have found. -/
inductive CallsTabBar (task : Task) (reply : Reply) : Prop where
  | viewDidLoad {user : User} (continuation : task.continuation = .viewDidLoad)
      (fetched : fetchedUser reply = some user)
  | signedIn {email : String} {account : Nat} (continuation : task.continuation = .signedIn email)
      (accepted : reply = .account account)
  | userStored {user : User} (continuation : task.continuation = .userStored user)
      (stored : reply ≠ .error)

theorem callsTabBar_of_mem {task : Task} {reply : Reply} {input : Input} {client : Client}
    (member : .toTabBar ∈ (resume platform task.continuation reply input client).events) :
    CallsTabBar task reply := by
  cases continuation : task.continuation with
  | viewDidLoad =>
      simp only [continuation, resume, viewDidLoadFetched] at member
      split at member
      · rename_i user fetched
        exact .viewDidLoad continuation (by rw [fetchedUser, fetched])
      · simp at member
  | signedIn email =>
      cases reply with
      | account index => exact .signedIn continuation rfl
      | _ => simp [continuation, resume, signedIn] at member
  | userStored user =>
      refine .userStored continuation ?_
      rintro rfl
      simp [continuation, resume, userStored, UserController.createUser] at member
  | signInFetched email password =>
      simp only [continuation, resume, signInFetched] at member
      split at member
      · split at member
        · split at member <;> simp at member
        · simp at member
      · simp at member
      · simp at member
  | signUpFetched email password =>
      simp only [continuation, resume, signUpFetched] at member
      split at member <;> simp at member
  | userCreated email password =>
      cases reply with
      | account index =>
          simp only [continuation, resume, userCreated] at member
          split at member
          · split at member
            · split at member <;> simp at member
            · simp at member
          · simp at member
      | _ => simp [continuation, resume, userCreated] at member
  | emailUpdated account newEmail =>
      cases reply <;> simp [continuation, resume, emailUpdated] at member
  | passwordUpdated newPassword =>
      cases reply <;> simp [continuation, resume, passwordUpdated] at member
  | updateEmailFetched email => simp [continuation, resume] at member
  | updatePasswordFetched password => simp [continuation, resume] at member
  | ignored => simp [continuation, resume] at member

/-! ## The invariant -/

/-- What an attempt in flight needs is there. -/
structure NeedsMet (client : Client) (task : Task) : Prop where
  user : ∀ email ∈ needsUser task, ∃ user ∈ client.currentUser, user.email = email
  session : ∀ email ∈ needsSession task, ∃ session ∈ client.session, session.email = email
  lookup : task.continuation = .viewDidLoad → ∃ email, task.request = .getUsers email
  query : ∀ email password, task.continuation = .signInFetched email password →
    task.request = .getUsers email
  found : ∀ email password, task.continuation = .signInFetched email password →
    ∀ reply ∈ task.reply, ∀ user ∈ fetchedUser reply, user.email = email
  login : ∀ account newEmail, task.continuation ≠ .emailUpdated account newEmail

theorem fetchedUser_email {fate : Fate} {server : Server} {email : String} {found : User}
    (fetched : fetchedUser (serve platform fate server (.getUsers email)).2 = some found) :
    found.email = email := by
  obtain ⟨document, rest, answer, emailText, -⟩ := fetchedUser_eq_some_iff.mp fetched
  cases fate with
  | failed => simp [serve] at answer
  | answered =>
      have entries : server.users.whereField Constants.email email =
          (found.uuid, document) :: rest := by simpa [serve] using answer
      have first : (server.users.whereField Constants.email email).head? =
          some (found.uuid, document) := by rw [entries]; rfl
      have queried := (Collection.whereField_head?_eq_some_iff.mp first).2.1
      exact Option.some.inj (emailText.symm.trans queried)

theorem answer_email {s : State} {fate : Fate} {task : Task} {email : String} {found : User}
    (request : task.request = .getUsers email)
    (fetched : fetchedUser ((program platform).answer s fate task) = some found) :
    found.email = email := by
  rw [answer_getUsers request] at fetched
  exact fetchedUser_email fetched

/-- A request that has been served needs nothing more. -/
theorem NeedsMet.serve {client : Client} {task : Task} (met : NeedsMet client task)
    (waiting : task.reply = none) (s : State) (fate : Fate) :
    NeedsMet client { task with reply := some ((program platform).answer s fate task) } := by
  refine ⟨?_, ?_, met.lookup, met.query, ?_, met.login⟩
  · intro email needed
    refine met.user email ?_
    cases continuation : task.continuation with
    | signedIn email' =>
        simp only [needsUser, continuation, waiting] at needed ⊢
        split at needed <;> simp_all
    | _ => simp [needsUser, continuation] at needed
  · intro email needed
    refine met.session email ?_
    cases continuation : task.continuation with
    | viewDidLoad =>
        obtain ⟨queried, request⟩ := met.lookup continuation
        simp only [needsSession, continuation, request, waiting] at needed ⊢
        obtain ⟨found, fetched, rfl⟩ := Option.map_eq_some_iff.mp needed
        rw [answer_email request fetched]
        exact rfl
    | userStored user =>
        simp only [needsSession, continuation, waiting] at needed ⊢
        split at needed <;> simp_all
    | _ => simp [needsSession, continuation] at needed
  · rintro email password continuation reply ⟨⟩ user fetched
    exact answer_email (met.query email password continuation) fetched

theorem needsMet_of_action {client : Client} {action : Action} {issued : Request × Continuation}
    (member : issued ∈ (handle platform action client).requests)
    (login : ∀ newEmail newPassword reEnter,
      action ≠ .saveButtonTapped newEmail newPassword reEnter)
    (id : Nat) :
    NeedsMet (handle platform action client).client ⟨id, issued.1, issued.2, none⟩ := by
  cases issuedByAction_of_mem member with
  | @viewDidLoad session signedIn =>
      refine ⟨by simp [needsUser], ?_, fun _ => ⟨session.email, rfl⟩, by simp, by simp, by simp⟩
      rintro email ⟨⟩
      refine ⟨session, ?_, rfl⟩
      rw [handle_session client (by simp)]
      exact signedIn
  | signIn =>
      exact ⟨by simp [needsUser], by simp [needsSession], by simp, by simp, by simp, by simp⟩
  | signUp =>
      exact ⟨by simp [needsUser], by simp [needsSession], by simp, by simp, by simp, by simp⟩
  | updateEmail => exact absurd rfl (login _ _ _)
  | updatePassword => exact absurd rfl (login _ _ _)

theorem needsMet_of_callback {client : Client} {continuation : Continuation} {reply : Reply}
    {input : Input} {issued : Request × Continuation}
    (found : ∀ email password, continuation = .signInFetched email password →
      ∀ user ∈ fetchedUser reply, user.email = email)
    (member : issued ∈ (resume platform continuation reply input client).requests)
    (login : ∀ account newEmail, continuation ≠ .emailUpdated account newEmail) (id : Nat) :
    NeedsMet (resume platform continuation reply input client).client
      ⟨id, issued.1, issued.2, none⟩ := by
  cases issuedByCallback_of_mem member with
  | @signIn email password _ user accepted =>
      refine ⟨?_, by simp [needsSession], by simp, by simp, by simp, by simp⟩
      rintro _ ⟨⟩
      refine ⟨user, ?_, ?_⟩
      · rw [resume_currentUser, accepted]
        rfl
      · rw [setsCurrentUser, Option.filter_eq_some_iff] at accepted
        exact found email password rfl user accepted.1
  | @setUser email password account validEmail validPassword confirmed =>
      refine ⟨by simp [needsUser], ?_, by simp, by simp, by simp, by simp⟩
      rintro _ ⟨⟩
      refine ⟨⟨account, email⟩, ?_, rfl⟩
      rw [resume_session login]
      rfl
  | lookUpForEmail => exact absurd rfl (login _ _)
  | _ => exact ⟨by simp [needsUser], by simp [needsSession], by simp, by simp, by simp, by simp⟩

theorem needsMet_step {trace : Trace} {s s' : State} {label : Label} {output : Output}
    (every : s.EveryTask NeedsMet) (permitted : HalvesKept platform.texts trace s label)
    (stepped : (program platform).StepCase s label output s') : s'.EveryTask NeedsMet := by
  cases stepped with
  | @act client action effect handled =>
      obtain rfl : handle platform action (s.clients client) = effect := Option.some.inj handled
      have login : ∀ newEmail newPassword reEnter,
          action ≠ .saveButtonTapped newEmail newPassword reEnter := by
        rintro newEmail newPassword reEnter rfl
        exact permitted
      refine every.commit (List.Subset.refl _) ?_ fun r member => needsMet_of_action member login _
      intro task member sameClient met
      refine ⟨?_, ?_, met.lookup, met.query, met.found, met.login⟩
      · rw [handle_currentUser]
        exact met.user
      · by_cases loggedOut : action = .logoutButtonTapped
        · subst loggedOut
          simp [permitted task member sameClient]
        · rw [handle_session _ loggedOut]
          exact met.session
  | @serve index fate task inFlight waiting =>
      exact every.serve _ ((every task (List.mem_of_getElem? inFlight)).serve waiting s fate)
  | @deliver index input task reply effect inFlight answered resumed =>
      obtain rfl : resume platform task.continuation reply input (s.clients task.client) =
          effect := Option.some.inj resumed
      have served := every task (List.mem_of_getElem? inFlight)
      have login := served.login
      refine every.commit List.eraseIdx_subset ?_ fun r member =>
        needsMet_of_callback (fun email password continuation =>
          served.found email password continuation reply answered) member login _
      intro other member sameClient met
      obtain ⟨keepsUser, keepsSession⟩ :=
        permitted task inFlight reply answered other member sameClient
      refine ⟨?_, ?_, met.lookup, met.query, met.found, met.login⟩
      · intro email needed
        rw [resume_currentUser]
        cases replaced : setsCurrentUser platform.texts task.continuation reply with
        | none => simpa using met.user email needed
        | some user => exact ⟨user, rfl, keepsUser user replaced email needed⟩
      · intro email needed
        rw [resume_session login]
        cases replaced : setsSession task.continuation reply with
        | none => simpa using met.session email needed
        | some session => exact ⟨session, rfl, keepsSession session replaced email needed⟩

theorem needsMet_run {s₀ s : State} {trace : Trace} (idle : s₀.tasks = [])
    (run : (program platform).Run (HalvesKept platform.texts) s₀ trace s) : s.EveryTask NeedsMet :=
  run.invariant (I := fun _ s => s.EveryTask NeedsMet)
    (fun task member => by simp [idle] at member)
    fun every permitted stepped => needsMet_step every permitted stepped

/-! ## The results -/

/-- A callback that calls `toTabBar` leaves the client paired exactly when it finds
what it needs. -/
theorem paired_iff_of_callsTabBar {task : Task} {reply : Reply} (calls : CallsTabBar task reply)
    (answered : task.reply = some reply)
    (lookup : task.continuation = .viewDidLoad → ∃ email, task.request = .getUsers email)
    (input : Input) (client : Client) :
    Paired (resume platform task.continuation reply input client).client ↔
      (∀ email ∈ needsUser task, ∃ user ∈ client.currentUser, user.email = email) ∧
        ∀ email ∈ needsSession task, ∃ session ∈ client.session, session.email = email := by
  obtain ⟨id, request, continuation, _⟩ := task
  obtain rfl := answered
  cases calls with
  | @viewDidLoad user isLoad fetched =>
      obtain rfl := isLoad
      obtain ⟨email, rfl⟩ := lookup rfl
      have completed : UserController.fetchUserWithEmail reply = some (.ok (some user)) := by
        unfold fetchedUser at fetched
        split at fetched
        · rename_i completed
          rw [completed, Option.some.inj fetched]
        · cases fetched
      simp [Paired, resume, viewDidLoadFetched, completed, needsUser, needsSession, fetched,
        eq_comm]
  | @signedIn email account isSignIn accepted =>
      obtain rfl := isSignIn
      obtain rfl := accepted
      simp [Paired, resume, signedIn, needsUser, needsSession]
  | @userStored user isStore stored =>
      obtain rfl := isStore
      cases reply with
      | error => exact absurd rfl stored
      | _ => simp [Paired, resume, userStored, UserController.createUser, needsUser, needsSession,
          eq_comm]

theorem toTabBar_not_mem_handle (action : Action) (client : Client) :
    .toTabBar ∉ (handle platform action client).events := by
  cases action with
  | viewDidLoad =>
      simp only [handle, viewDidLoad]
      split <;> simp
  | signUpSignInButtonTapped statusIsSignUp username enterPassword =>
      simp only [handle, signUpSignInButtonTapped]
      repeat' split
      all_goals simp
  | logoutButtonTapped => simp [handle, logoutButtonTapped]
  | saveButtonTapped editEmail editPassword reEnter =>
      simp only [handle, saveButtonTapped, updateUsersEmail, updateUsersPassword]
      repeat' split
      all_goals simp

/-- **When no step replaces a half that an attempt of the same client needs, every
call of `toTabBar` finds a user in memory with the email signed in**, from every
state with nothing in flight. -/
theorem tabBars_paired (platform : Platform) (s₀ : State) (idle : s₀.tasks = []) :
    TabBarsPaired platform (HalvesKept platform.texts) s₀ := by
  intro trace s label output s' run permitted stepped member
  cases Program.stepCase_of_step stepped with
  | @act client action effect handled =>
      obtain rfl : handle platform action (s.clients client) = effect := Option.some.inj handled
      exact absurd member (toTabBar_not_mem_handle _ _)
  | serve => simp at member
  | @deliver index input task reply effect inFlight answered resumed =>
      obtain rfl : resume platform task.continuation reply input (s.clients task.client) =
          effect := Option.some.inj resumed
      have met := needsMet_run idle run task (List.mem_of_getElem? inFlight)
      rw [RequestReply.State.commit_clients_self]
      exact (paired_iff_of_callsTabBar (callsTabBar_of_mem member) answered met.lookup _ _).mpr
        ⟨met.user, met.session⟩

/-- A sign-up ends at the tab bar with its user signed in. -/
theorem tabBars_paired_signUp :
    ∃ trace s output s', (program plain).Run (HalvesKept plain.texts) fresh trace s ∧
      (program plain).step s (.deliver 0 {}) = some (output, s') ∧ .toTabBar ∈ output.events ∧
        Paired (s'.clients output.client) := by
  have executed : ((program plain).execute (HalvesKept plain.texts) fresh
      ((signUpSteps 0 "ann@mail.com" "secret" "A").take 6) []).any
        (fun last => HalvesKept plain.texts last.1 last.2 (.deliver 0 {}) &&
          ((program plain).step last.2 (.deliver 0 {})).any
            fun next => next.1.events.contains .toTabBar) = true := by
    decide
  obtain ⟨⟨trace, s⟩, followed, last⟩ := (Option.any_eq_true _ _).mp executed
  obtain ⟨permitted, stepped⟩ := Bool.and_eq_true_iff.mp last
  obtain ⟨⟨output, s'⟩, step, shown⟩ := (Option.any_eq_true _ _).mp stepped
  have run := Program.Run.of_execute .start followed
  have called : .toTabBar ∈ output.events := List.contains_iff_mem.mp shown
  exact ⟨trace, s, output, s', run, step, called,
    tabBars_paired plain fresh rfl trace s _ output s' run (of_decide_eq_true permitted) step
      called⟩

/-- A tap in sign-in mode and the answer to its fetch. -/
def signInSteps (email password : String) (position : Nat) : List Label :=
  [.act 0 (.signUpSignInButtonTapped false email password), .serve position .answered,
    .deliver position {}]

/-- **Two sign-ins that overlap pair one user with the session of the other.** Both
accounts exist; the second fetch replaces the user in memory before `Auth` has
answered the first sign-in. -/
theorem overlapping_signIns_mispair : ¬ TabBarsPaired plain LoginOnly fresh := by
  intro paired
  have executed : ((program plain).execute LoginOnly fresh
      (signUpSteps 0 "ann@mail.com" "secret" "A" ++ [.act 0 .logoutButtonTapped] ++
        signUpSteps 0 "bob@mail.com" "private" "B" ++ [.act 0 .logoutButtonTapped] ++
        signInSteps "ann@mail.com" "secret" 0 ++ signInSteps "bob@mail.com" "private" 1 ++
        [.serve 0 .answered]) []).any
          (fun last => ((program plain).step last.2 (.deliver 0 {})).any
            fun next => !TabBarPaired next.2 next.1) = true := by
    decide
  obtain ⟨⟨trace, s⟩, followed, last⟩ := (Option.any_eq_true _ _).mp executed
  obtain ⟨⟨output, s'⟩, step, mispaired⟩ := (Option.any_eq_true _ _).mp last
  have holds := paired trace s (.deliver 0 {}) output s' (.of_execute .start followed) trivial step
  simp [holds] at mispaired

end MyMealPrep.Login
