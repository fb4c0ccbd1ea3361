import MyMealPrep.Login.SessionPairing
import MyMealPrep.Machines.Attempts
import MyMealPrep.Machines.Settling

/-!
# Answers of the login

Whoever taps the button of the login screen waits for an answer: the tab bar, or a popup. So
does the automatic login. A chain of up to three requests lies between the two, and attempts
may overlap.

No attempt is answered twice. Each is answered once or in flight, exactly when no callback has
fallen silent (`attempts_answered`). These are the callbacks that only print: of a query that
fails or finds a document that is no user, of a sign-in that `Auth` refuses, of a user
document that is not written, and of an automatic login that finds nobody. The edits of the
profile are all answered once (`edits_answered`).

The chains are finite. When users stop, at most six steps follow for each request in flight
(`login_settles`).
-/

set_option autoImplicit false

namespace MyMealPrep.Login

open RequestReply (Attempts Program Ranking WithoutActions)

variable {platform : Platform}

/-! ## Attempts -/

/-- What a fetch of a user by email tells the callback. -/
def isCompleted (reply : Reply) : Bool :=
  match UserController.fetchUserWithEmail reply with
  | some (.ok _) => true
  | _ => false

/-- The attempts of the login screen. -/
def loginAttempts (platform : Platform) : Attempts (program platform) where
  carries
    | .viewDidLoad => true
    | .signInFetched _ _ => true
    | .signedIn _ => true
    | .signUpFetched _ _ => true
    | .userCreated _ _ => true
    | .userStored _ => true
    | _ => false
  answers
    | .toTabBar => true
    | .errorPopup _ _ => true
    | _ => false
  silent
    | .viewDidLoad, reply => (fetchedUser reply).isNone
    | .signInFetched _ _, reply => !isCompleted reply
    | .signUpFetched _ _, reply => !isCompleted reply
    | .signedIn _, .account _ => false
    | .signedIn _, _ => true
    | .userStored _, .error => true
    | _, _ => false

/-- An action starts an attempt: the button is tapped with an email and a password typed, or the
login screen opens and asks for the user signed in with `Auth`. -/
def isAttempt (action : Action) (requests : List (Request × Continuation)) : Bool :=
  match action with
  | .signUpSignInButtonTapped _ username enterPassword =>
      !(username.isEmpty || enterPassword.isEmpty)
  | .viewDidLoad => !requests.isEmpty
  | _ => false

/-- The attempts that a client starts in a step. -/
def attemptsStarted (client : Nat) (entry : Label × Output) : Nat :=
  match entry.1 with
  | .act actor action => if actor = client then (isAttempt action entry.2.requests).toNat else 0
  | .serve _ _ => 0
  | .deliver _ _ => 0

/-! ## Callbacks -/

theorem fetchedUser_eq_none {reply : Reply}
    (notUser : ∀ user, UserController.fetchUserWithEmail reply ≠ some (.ok (some user))) :
    fetchedUser reply = none := by
  rw [fetchedUser]
  split
  · rename_i user found
    exact absurd found (notUser user)
  · rfl

theorem isCompleted_eq_false {reply : Reply}
    (notUser : ∀ user, UserController.fetchUserWithEmail reply ≠ some (.ok (some user)))
    (notNobody : UserController.fetchUserWithEmail reply ≠ some (.ok none)) :
    isCompleted reply = false := by
  rw [isCompleted]
  split
  · rename_i found completed
    cases found with
    | none => exact absurd completed notNobody
    | some user => exact absurd completed (notUser user)
  · rfl

theorem carried_updateFetchedUser (A : Attempts (program platform))
    (ended : A.carries .ignored = false) (client : Client) (reply : Reply) (field value : String) :
    A.carried (UserController.updateFetchedUser client reply field value) = 0 := by
  refine List.countP_eq_zero.mpr fun issued member => ?_
  obtain ⟨user, -, rfl⟩ := mem_updateFetchedUser member
  simp [ended]

theorem carried_lookUpCurrentUser (A : Attempts (program platform)) (client : Client)
    {continuation : Continuation} (ended : A.carries continuation = false) :
    A.carried (UserController.lookUpCurrentUser client continuation) = 0 := by
  refine List.countP_eq_zero.mpr fun issued member => ?_
  obtain ⟨user, -, rfl⟩ := mem_lookUpCurrentUser member
  simp [ended]

/-- A callback of an attempt carries it on or answers it, unless it falls silent. -/
theorem loginAttempts_law : (loginAttempts platform).Law where
  resumed := by
    intro continuation reply input client effect resumed
    obtain rfl := Option.some.inj resumed
    cases continuation with
    | viewDidLoad =>
        simp only [resume, viewDidLoadFetched]
        split
        · rename_i user fetched
          simp only [loginAttempts, fetchedUser, fetched]
          rfl
        · rename_i other
          simp only [loginAttempts, fetchedUser_eq_none other]
          rfl
    | signInFetched email password =>
        simp only [resume, signInFetched]
        split
        · rename_i user fetched
          simp only [loginAttempts, isCompleted, fetched]
          split
          · split <;> rfl
          · rfl
        · rename_i fetched
          simp only [loginAttempts, isCompleted, fetched]
          rfl
        · rename_i notUser notNobody
          simp only [loginAttempts, isCompleted_eq_false notUser notNobody]
          rfl
    | signedIn email => cases reply <;> rfl
    | signUpFetched email password =>
        simp only [resume, signUpFetched]
        split
        · rename_i user fetched
          simp only [loginAttempts, isCompleted, fetched]
          rfl
        · rename_i fetched
          simp only [loginAttempts, isCompleted, fetched]
          rfl
        · rename_i notUser notNobody
          simp only [loginAttempts, isCompleted_eq_false notUser notNobody]
          rfl
    | userCreated email password =>
        cases reply with
        | account account =>
            simp only [resume, userCreated]
            split
            · split
              · split <;> rfl
              · rfl
            · rfl
        | _ => rfl
    | userStored user => cases reply <;> rfl
    | emailUpdated account newEmail =>
        cases reply with
        | error => rfl
        | _ => exact carried_lookUpCurrentUser _ _ rfl
    | passwordUpdated newPassword =>
        cases reply with
        | error => rfl
        | _ => exact carried_lookUpCurrentUser _ _ rfl
    | updateEmailFetched email => exact carried_updateFetchedUser _ rfl _ _ _ _
    | updatePasswordFetched password => exact carried_updateFetchedUser _ rfl _ _ _ _
    | ignored => rfl

/-! ## Taps -/

theorem handle_started (action : Action) (client : Client) :
    (loginAttempts platform).carried (handle platform action client).requests +
      (handle platform action client).events.countP (loginAttempts platform).answers =
        (isAttempt action (handle platform action client).requests).toNat := by
  cases action with
  | viewDidLoad =>
      rw [handle, viewDidLoad]
      cases client.session <;> rfl
  | signUpSignInButtonTapped statusIsSignUp email password =>
      rw [handle, signUpSignInButtonTapped, isAttempt]
      split
      · rename_i empty
        rw [empty]
        rfl
      · rename_i typed
        rw [Bool.eq_false_of_not_eq_true typed]
        split
        · split <;> rfl
        · rfl
  | logoutButtonTapped => rfl
  | saveButtonTapped newEmail newPassword reEnteredPassword =>
      simp only [handle, saveButtonTapped, updateUsersEmail, updateUsersPassword]
      repeat' split
      all_goals rfl

theorem loginAttempts_startedIn {s s' : State} {label : Label} {output : Output} (client : Nat)
    (stepped : (program platform).StepCase s label output s') :
    (loginAttempts platform).startedIn client label output =
      attemptsStarted client (label, output) := by
  cases stepped with
  | @act actor action effect handled =>
      obtain rfl := Option.some.inj handled
      rw [Attempts.startedIn, attemptsStarted]
      dsimp only
      rw [handle_started]
  | serve inFlight waiting => rfl
  | deliver inFlight answered resumed => rfl

/-- **No attempt is answered twice**: in every run, however attempts overlap, a client is not
shown more tab bars and popups than it has started attempts, those in flight counted in. **They
are the same number exactly when no callback of the client has fallen silent.** -/
theorem attempts_answered {s₀ s : State} {trace : Trace} {allowed : Trace → State → Label → Prop}
    (idle : s₀.tasks = []) (run : (program platform).Run allowed s₀ trace s) (client : Nat) :
    (loginAttempts platform).shown client trace + (loginAttempts platform).pending s client ≤
        (trace.map (attemptsStarted client)).sum ∧
      ((loginAttempts platform).shown client trace + (loginAttempts platform).pending s client =
          (trace.map (attemptsStarted client)).sum ↔
        (program platform).Run ((loginAttempts platform).Heard client) s₀ trace s) := by
  rw [← Attempts.started_eq_sum (fun stepped => loginAttempts_startedIn client stepped) run]
  exact loginAttempts_law.balance idle run client

/-- The button is tapped twice, and the query of the first attempt fails. -/
theorem attempts_answered_twice :
    ∃ trace s, (program plain).Run Program.anyStep fresh trace s ∧
      (trace.map (attemptsStarted 0)).sum = 2 ∧
      (loginAttempts plain).shown 0 trace + (loginAttempts plain).pending s 0 ≤ 2 ∧
      ¬ (program plain).Run ((loginAttempts plain).Heard 0) fresh trace s := by
  have executed : ((program plain).execute Program.anyStep fresh
      [.act 0 (.signUpSignInButtonTapped true "ann@mail.com" "secret"),
        .act 0 (.signUpSignInButtonTapped true "ann@mail.com" "secret"), .serve 0 .failed,
        .deliver 0 {}] []).any
        (fun last => decide ((last.1.map (attemptsStarted 0)).sum = 2 ∧
          (loginAttempts plain).shown 0 last.1 + (loginAttempts plain).pending last.2 0 = 1)) =
      true := by
    decide
  obtain ⟨⟨trace, s⟩, followed, last⟩ := (Option.any_eq_true _ _).mp executed
  obtain ⟨two, one⟩ := of_decide_eq_true last
  dsimp only at two one
  have run := Program.Run.of_execute .start followed
  have idle : fresh.tasks = [] := rfl
  obtain ⟨most, exactly⟩ := attempts_answered idle run 0
  rw [two] at most exactly
  refine ⟨trace, s, run, two, most, fun heard => ?_⟩
  have same := exactly.mpr heard
  omega

/-! ## Edits -/

/-- The edits of the profile. Each is answered by a popup, or by the request to sign in
again. -/
def editAttempts (platform : Platform) : Attempts (program platform) where
  carries
    | .emailUpdated _ _ => true
    | .passwordUpdated _ => true
    | _ => false
  answers
    | .editInfoPopup _ _ _ => true
    | .reAuthUser => true
    | _ => false
  silent _ _ := false

/-- The edits that a tap of the save button starts: requests to `Auth`, and popups for what was
typed wrong. -/
def editsStarted (client : Nat) (entry : Label × Output) : Nat :=
  match entry.1 with
  | .act actor (.saveButtonTapped _ _ _) =>
      if actor = client then entry.2.requests.length + entry.2.events.length else 0
  | _ => 0

/-- A callback of an edit answers it, and no other callback does. -/
theorem editAttempts_law : (editAttempts platform).Law where
  resumed := by
    intro continuation reply input client effect resumed
    obtain rfl := Option.some.inj resumed
    cases continuation with
    | viewDidLoad =>
        simp only [resume, viewDidLoadFetched]
        split <;> rfl
    | signInFetched email password =>
        simp only [resume, signInFetched]
        split
        · split
          · split <;> rfl
          · rfl
        · rfl
        · rfl
    | signedIn email => cases reply <;> rfl
    | signUpFetched email password =>
        simp only [resume, signUpFetched]
        split <;> rfl
    | userCreated email password =>
        cases reply with
        | account account =>
            simp only [resume, userCreated]
            split
            · split
              · split <;> rfl
              · rfl
            · rfl
        | _ => rfl
    | userStored user => cases reply <;> rfl
    | emailUpdated account newEmail =>
        have lookUp : ∀ memory, (editAttempts platform).carried
            (UserController.lookUpCurrentUser memory (.updateEmailFetched newEmail)) = 0 :=
          fun memory => carried_lookUpCurrentUser (editAttempts platform) memory rfl
        cases reply with
        | error => rfl
        | _ => exact congrArg (· + 1) (lookUp _)
    | passwordUpdated newPassword =>
        have lookUp : ∀ memory, (editAttempts platform).carried
            (UserController.lookUpCurrentUser memory (.updatePasswordFetched newPassword)) = 0 :=
          fun memory => carried_lookUpCurrentUser (editAttempts platform) memory rfl
        cases reply with
        | error => rfl
        | _ => exact congrArg (· + 1) (lookUp _)
    | updateEmailFetched email => exact carried_updateFetchedUser _ rfl _ _ _ _
    | updatePasswordFetched password => exact carried_updateFetchedUser _ rfl _ _ _ _
    | ignored => rfl

theorem editAttempts_startedIn {s s' : State} {label : Label} {output : Output} (client : Nat)
    (stepped : (program platform).StepCase s label output s') :
    (editAttempts platform).startedIn client label output =
      editsStarted client (label, output) := by
  cases stepped with
  | @act actor action effect handled =>
      obtain rfl := Option.some.inj handled
      rw [Attempts.startedIn, editsStarted]
      cases action with
      | viewDidLoad =>
          rw [handle, viewDidLoad]
          cases (s.clients actor).session <;> exact ite_self _
      | signUpSignInButtonTapped statusIsSignUp email password =>
          simp only [handle, signUpSignInButtonTapped]
          repeat' split
          all_goals rfl
      | logoutButtonTapped => split <;> rfl
      | saveButtonTapped newEmail newPassword reEnteredPassword =>
          simp only [handle, saveButtonTapped, updateUsersEmail, updateUsersPassword]
          repeat' split
          all_goals rfl
  | serve inFlight waiting => rfl
  | deliver inFlight answered resumed => rfl

/-- **Every edit of the profile is answered once**, unless it is still in flight: in every run, a
client has been shown as many popups of the profile as it has started edits. -/
theorem edits_answered {s₀ s : State} {trace : Trace} {allowed : Trace → State → Label → Prop}
    (idle : s₀.tasks = []) (run : (program platform).Run allowed s₀ trace s) (client : Nat) :
    (editAttempts platform).shown client trace + (editAttempts platform).pending s client =
      (trace.map (editsStarted client)).sum := by
  have heard : (program platform).Run ((editAttempts platform).Heard client) s₀ trace s := by
    induction run with
    | start => exact .start
    | @step trace s s' label output before permitted stepped ih =>
        refine .step ih ?_ stepped
        cases label with
        | deliver index input => exact fun _ _ _ _ _ _ => rfl
        | _ => trivial
  rw [← Attempts.started_eq_sum (fun stepped => editAttempts_startedIn client stepped) run]
  exact ((editAttempts_law.balance idle run client).2).mpr heard

/-- The email and the password are edited at once, and the first edit fails. -/
theorem edits_answered_failed :
    ∃ trace s, (program plain).Run Program.anyStep fresh trace s ∧
      (trace.map (editsStarted 0)).sum = 2 ∧
      (editAttempts plain).shown 0 trace + (editAttempts plain).pending s 0 = 2 := by
  have executed : ((program plain).execute Program.anyStep fresh
      (signUpSteps 0 "ann@mail.com" "secret" "A" ++
        [.act 0 (.saveButtonTapped "ann@work.com" "renewed" "renewed"), .serve 0 .failed,
          .deliver 0 {}]) []).any
        (fun last => (last.1.map (editsStarted 0)).sum == 2) = true := by
    decide
  obtain ⟨⟨trace, s⟩, followed, two⟩ := (Option.any_eq_true _ _).mp executed
  have run := Program.Run.of_execute .start followed
  have idle : fresh.tasks = [] := rfl
  exact ⟨trace, s, run, eq_of_beq two, (edits_answered idle run 0).trans (eq_of_beq two)⟩

/-! ## Coming to rest -/

/-- The requests that a callback leads to, its own counted. -/
def loginRanking (platform : Platform) : Ranking (program platform) where
  rank
    | .viewDidLoad => 1
    | .signInFetched _ _ => 2
    | .signedIn _ => 1
    | .signUpFetched _ _ => 3
    | .userCreated _ _ => 2
    | .userStored _ => 1
    | .emailUpdated _ _ => 3
    | .passwordUpdated _ => 3
    | .updateEmailFetched _ => 2
    | .updatePasswordFetched _ => 2
    | .ignored => 1
  positive := by
    intro continuation
    cases continuation <;> exact Nat.succ_pos _

theorem resume_requests_length (continuation : Continuation) (reply : Reply) (input : Input)
    (client : Client) : (resume platform continuation reply input client).requests.length ≤ 1 := by
  cases continuation with
  | viewDidLoad =>
      simp only [resume, viewDidLoadFetched]
      split <;> simp
  | signInFetched email password =>
      simp only [resume, signInFetched]
      repeat' split
      all_goals simp
  | signedIn email => cases reply <;> simp [resume, signedIn]
  | signUpFetched email password =>
      simp only [resume, signUpFetched]
      split <;> simp
  | userCreated email password =>
      simp only [resume, userCreated]
      repeat' split
      all_goals simp
  | userStored user =>
      simp only [resume, userStored]
      split <;> simp
  | emailUpdated account newEmail =>
      simp only [resume, emailUpdated, UserController.lookUpCurrentUser]
      repeat' split
      all_goals simp
  | passwordUpdated newPassword =>
      simp only [resume, passwordUpdated, UserController.lookUpCurrentUser]
      repeat' split
      all_goals simp
  | updateEmailFetched email =>
      simp only [resume, UserController.updateFetchedUser]
      split <;> simp
  | updatePasswordFetched password =>
      simp only [resume, UserController.updateFetchedUser]
      split <;> simp
  | ignored => simp [resume]

theorem loginRanking_law : (loginRanking platform).Law where
  resumed := by
    intro continuation reply input client effect resumed
    obtain rfl := Option.some.inj resumed
    refine Ranking.sum_rank_lt (resume_requests_length continuation reply input client) ?_
    intro issued requested
    cases issuedByCallback_of_mem requested <;> exact Nat.lt_add_one _

theorem loginRanking_le (continuation : Continuation) :
    (loginRanking platform).rank continuation ≤ 3 := by
  cases continuation <;> simp [loginRanking]

instance : Nonempty Fate := ⟨.answered⟩

instance : Nonempty Input := ⟨{}⟩

/-- **When users stop, the login comes to rest**: however requests are answered, at most six steps
follow for each request in flight, and as long as one is left there is a next step. -/
theorem login_settles {s₀ s : State} {trace : Trace}
    (run : (program platform).Run WithoutActions s₀ trace s) :
    trace.length ≤ 6 * s₀.tasks.length ∧
      (s.tasks ≠ [] → ∃ label output s', WithoutActions trace s label ∧
        (program platform).step s label = some (output, s')) := by
  constructor
  · have steps := loginRanking_law.length_add_remaining_le run
    have most : (loginRanking platform).remaining s₀ ≤ 2 * 3 * s₀.tasks.length :=
      Ranking.remaining_le loginRanking_le s₀
    omega
  · intro inFlight
    exact RequestReply.exists_step_of_inFlight (fun _ _ _ _ => rfl) inFlight trace

/-- A sign-up in flight runs to its end. -/
theorem login_settles_signUp :
    ∃ s₀ trace s, (program plain).Run WithoutActions s₀ trace s ∧ s₀.tasks.length = 1 ∧
      trace.length = 6 ∧ s.tasks = [] ∧ trace.length ≤ 6 * s₀.tasks.length := by
  have tapped : ((program plain).execute Program.anyStep fresh
      ((signUpSteps 0 "ann@mail.com" "secret" "A").take 1) []).any
        (fun first => decide (first.2.tasks.length = 1) &&
          ((program plain).execute WithoutActions first.2
            ((signUpSteps 0 "ann@mail.com" "secret" "A").drop 1) []).any
              fun last => decide (last.1.length = 6) && last.2.tasks.isEmpty) = true := by
    decide
  obtain ⟨⟨_, s₀⟩, -, first⟩ := (Option.any_eq_true _ _).mp tapped
  obtain ⟨one, executed⟩ := Bool.and_eq_true_iff.mp first
  obtain ⟨⟨trace, s⟩, followed, last⟩ := (Option.any_eq_true _ _).mp executed
  obtain ⟨six, idle⟩ := Bool.and_eq_true_iff.mp last
  have run := Program.Run.of_execute .start followed
  exact ⟨s₀, trace, s, run, of_decide_eq_true one, of_decide_eq_true six,
    List.isEmpty_iff.mp idle, (login_settles run).1⟩

end MyMealPrep.Login
