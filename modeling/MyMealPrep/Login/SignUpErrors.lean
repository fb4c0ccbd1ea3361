import MyMealPrep.Login.Callbacks
import MyMealPrep.Login.LocalStore

/-!
# Sign-ups that end in a popup

A sign-up asks the users collection whether the email is known, lets `Auth` create
the account and only then checks the email and the passwords. Its popups are
shown on five occasions; the three checks come after the account exists.

`popup_leaves_stores_iff` says for which attempts a popup means that nothing has
changed. The attempt is followed from the tap until nothing is in flight
(`Attempt` lists where it can stand), with every fate of every request.
-/

set_option autoImplicit false

namespace MyMealPrep.Login

open Firestore (Collection Document Snapshot Value)
open RequestReply (Program)

variable {platform : Platform}

/-! ## The property -/

/-- A popup of the sign-up screen. -/
def Event.isErrorPopup : Event → Bool
  | .errorPopup _ _ => true
  | _ => false

/-- One of the steps shows a popup. -/
def showsPopup : Trace → Bool
  | [] => false
  | (_, output) :: earlier => output.events.any Event.isErrorPopup || showsPopup earlier

/-- One of the requests fails for a reason of the service or of the connection. -/
def anyFailed : Trace → Bool
  | [] => false
  | (label, _) :: earlier =>
      (match label with
        | .serve _ .failed => true
        | _ => false) || anyFailed earlier

/-- The accounts, the users collection and the user in memory are as they were. -/
structure Unchanged (client : Nat) (s₀ s : State) : Prop where
  accounts : s.server.auth.list = s₀.server.auth.list
  users : s.server.users = s₀.server.users
  currentUser : (s.clients client).currentUser = (s₀.clients client).currentUser

/-- What is typed into the sign-up screen. -/
structure SignUp where
  email : String
  password : String
  confirmation : String
deriving DecidableEq, Repr

/-- The tap of the button in sign-up mode. -/
def SignUp.action (signUp : SignUp) : Action :=
  .signUpSignInButtonTapped true signUp.email signUp.password

/-- The tap comes first. Then nobody acts, and the password fields keep what was
typed. -/
def Attempting (client : Nat) (signUp : SignUp) (trace : Trace) (_ : State) : Label → Prop
  | .act actor action => trace.isEmpty = true ∧ actor = client ∧ action = signUp.action
  | .serve _ _ => True
  | .deliver _ input =>
      input.enterPassword = signUp.password ∧ input.confirmPassword = signUp.confirmation

instance (client : Nat) (signUp : SignUp) (trace : Trace) (s : State) (label : Label) :
    Decidable (Attempting client signUp trace s label) :=
  match label with
  | .act actor action => inferInstanceAs (Decidable
      (trace.isEmpty = true ∧ actor = client ∧ action = signUp.action))
  | .serve _ _ => .isTrue trivial
  | .deliver _ input => inferInstanceAs (Decidable
      (input.enterPassword = signUp.password ∧ input.confirmPassword = signUp.confirmation))

/-- An attempt to sign up, from the tap in a state with nothing in flight until
nothing is in flight again. -/
structure Attempted (platform : Platform) (client : Nat) (signUp : SignUp) (s₀ : State)
    (trace : Trace) (s : State) : Prop where
  idle : s₀.tasks = []
  run : (program platform).Run (Attempting client signUp) s₀ trace s
  tapped : trace ≠ []
  finished : s.tasks = []

/-- Attempts that show a popup change nothing. -/
def PopupsLeaveStores (platform : Platform) : Prop :=
  ∀ (client : Nat) (signUp : SignUp) (s₀ s : State) (trace : Trace),
    Attempted platform client signUp s₀ trace s → showsPopup trace = true →
      Unchanged client s₀ s

/-! ## The condition -/

/-- What is typed passes the checks that come after the account is created. -/
def SignUp.isAccepted (platform : Platform) (signUp : SignUp) : Bool :=
  isValidEmail signUp.email && isValidPassword platform.characters signUp.password &&
    platform.texts.equal signUp.password signUp.confirmation

/-- There is no account to be had: a users document has the email, or the service refuses it, as
it must when an account has it. -/
def SignUp.Refused (platform : Platform) (signUp : SignUp) (server : Server) : Prop :=
  server.users.whereField Constants.email signUp.email ≠ [] ∨
    platform.auth.createUser server.auth signUp.email signUp.password = none

/-- The attempts that create no account before a check can fail. -/
def SafeAttempt (platform : Platform) (signUp : SignUp) (server : Server) (trace : Trace) : Prop :=
  signUp.email = "" ∨ signUp.password = "" ∨ signUp.Refused platform server ∨
    anyFailed trace = true ∨ signUp.isAccepted platform = true

/-- An email that an account has is refused. -/
theorem SignUp.refused_of_used {signUp : SignUp} {server : Server}
    (used : signUp.email ∈ server.auth.list.map Account.email) :
    signUp.Refused platform server := by
  refine .inr ?_
  cases created : platform.auth.createUser server.auth signUp.email signUp.password with
  | none => rfl
  | some next => exact absurd used (AuthService.unused_of_createUser created)

/-! ## The steps of an attempt -/

section

variable {client : Nat} {signUp : SignUp} {s₀ s s' : State} {trace : Trace} {label : Label}
  {output : Output}

/-- Nothing has happened yet: both fields have been typed, the server and the user in
memory are as they were, no popup has been shown and no request has failed. -/
structure Quiet (client : Nat) (signUp : SignUp) (s₀ : State) (trace : Trace) (s : State) :
    Prop where
  typed : signUp.email ≠ "" ∧ signUp.password ≠ ""
  server : s.server = s₀.server
  currentUser : (s.clients client).currentUser = (s₀.clients client).currentUser
  noPopup : showsPopup trace = false
  noFailure : anyFailed trace = false

/-- Where an attempt can stand. -/
inductive Attempt (platform : Platform) (client : Nat) (signUp : SignUp) (s₀ : State) :
    Trace → State → Prop where
  | fetching {trace : Trace} {s : State} (quiet : Quiet client signUp s₀ trace s)
      (tasks : s.tasks = [⟨client, .getUsers signUp.email,
        .signUpFetched signUp.email signUp.password, none⟩]) :
      Attempt platform client signUp s₀ trace s
  | fetched {trace : Trace} {s : State} (quiet : Quiet client signUp s₀ trace s)
      (tasks : s.tasks = [⟨client, .getUsers signUp.email,
        .signUpFetched signUp.email signUp.password,
        some (.documents (s₀.server.users.whereField Constants.email signUp.email))⟩]) :
      Attempt platform client signUp s₀ trace s
  | creating {trace : Trace} {s : State} (quiet : Quiet client signUp s₀ trace s)
      (unknown : s₀.server.users.whereField Constants.email signUp.email = [])
      (tasks : s.tasks = [⟨client, .createUser signUp.email signUp.password,
        .userCreated signUp.email signUp.password, none⟩]) :
      Attempt platform client signUp s₀ trace s
  | refused {trace : Trace} {s : State} {request : Request} {continuation : Continuation}
      (unchanged : Unchanged client s₀ s)
      (callback : continuation = .signUpFetched signUp.email signUp.password ∨
        continuation = .userCreated signUp.email signUp.password)
      (reason : anyFailed trace = true ∨ signUp.Refused platform s₀.server)
      (tasks : s.tasks = [⟨client, request, continuation, some .error⟩]) :
      Attempt platform client signUp s₀ trace s
  | created {trace : Trace} {s : State} {index : Nat}
      (typed : signUp.email ≠ "" ∧ signUp.password ≠ "")
      (changed : s.server.auth.list ≠ s₀.server.auth.list)
      (unused : ¬ signUp.Refused platform s₀.server)
      (noPopup : showsPopup trace = false) (noFailure : anyFailed trace = false)
      (tasks : s.tasks = [⟨client, .createUser signUp.email signUp.password,
        .userCreated signUp.email signUp.password, some (.account index)⟩]) :
      Attempt platform client signUp s₀ trace s
  | storing {trace : Trace} {s : State} {queue : Option Nat} {user : User} {reply : Option Reply}
      (noPopup : showsPopup trace = false) (accepted : signUp.isAccepted platform = true)
      (tasks : s.tasks = [⟨client, .setUser queue user.uuid (UserController.userDict user),
        .userStored user, reply⟩]) :
      Attempt platform client signUp s₀ trace s
  | ended {trace : Trace} {s : State}
      (harmless : showsPopup trace = true → Unchanged client s₀ s)
      (safe : SafeAttempt platform signUp s₀.server trace) (tasks : s.tasks = []) :
      Attempt platform client signUp s₀ trace s
  | broken {trace : Trace} {s : State} (popup : showsPopup trace = true)
      (changed : s.server.auth.list ≠ s₀.server.auth.list)
      (notSafe : ¬ SafeAttempt platform signUp s₀.server trace) (tasks : s.tasks = []) :
      Attempt platform client signUp s₀ trace s

theorem fetchUserWithEmail_documents {snapshot : Snapshot} :
    UserController.fetchUserWithEmail (.documents snapshot) = some (.ok none) ↔ snapshot = [] := by
  cases snapshot with
  | nil => simp [UserController.fetchUserWithEmail]
  | cons first rest =>
      obtain ⟨documentID, document⟩ := first
      simp only [UserController.fetchUserWithEmail]
      split <;> simp

theorem Unchanged.trans (unchanged : Unchanged client s₀ s) (server : s'.server = s.server)
    (currentUser : (s'.clients client).currentUser = (s.clients client).currentUser) :
    Unchanged client s₀ s' where
  accounts := by rw [server, unchanged.accounts]
  users := by rw [server, unchanged.users]
  currentUser := currentUser.trans unchanged.currentUser

theorem Quiet.unchanged (quiet : Quiet client signUp s₀ trace s) : Unchanged client s₀ s where
  accounts := by rw [quiet.server]
  users := by rw [quiet.server]
  currentUser := quiet.currentUser

/-- A refused sign-up ends without a change, with or without a popup. -/
theorem resume_refused {continuation : Continuation} (input : Input) (memory : Client)
    (callback : continuation = .signUpFetched signUp.email signUp.password ∨
      continuation = .userCreated signUp.email signUp.password) :
    (resume platform continuation .error input memory).client = memory ∧
      (resume platform continuation .error input memory).requests = [] := by
  rcases callback with rfl | rfl
  · simp [resume, signUpFetched, UserController.fetchUserWithEmail]
  · simp [resume, userCreated]

theorem attempt_tap (idle : s₀.tasks = []) :
    Attempt platform client signUp s₀
      [(.act client signUp.action,
        { client, requests := (handle platform signUp.action (s₀.clients client)).requests
          events := (handle platform signUp.action (s₀.clients client)).events })]
      (s₀.commit client s₀.tasks (handle platform signUp.action (s₀.clients client))) := by
  by_cases empty : signUp.email = "" ∨ signUp.password = ""
  · have effect : handle platform signUp.action (s₀.clients client) =
        { client := s₀.clients client } := by
      rcases empty with empty | empty <;>
        simp [SignUp.action, handle, signUpSignInButtonTapped, empty]
    refine .ended ?_ ?_ ?_
    · simp [effect, showsPopup]
    · rcases empty with empty | empty
      · exact .inl empty
      · exact .inr (.inl empty)
    · simp [effect, idle]
  · have effect : handle platform signUp.action (s₀.clients client) =
        { client := s₀.clients client
          requests := [(.getUsers signUp.email,
            .signUpFetched signUp.email signUp.password)] } := by
      simp [SignUp.action, handle, signUpSignInButtonTapped, (not_or.mp empty).1,
        (not_or.mp empty).2]
    refine .fetching ⟨not_or.mp empty, rfl, ?_, ?_, rfl⟩ ?_
    · simp [effect]
    · simp [effect, showsPopup]
    · simp [effect, idle]

/-- The fetch of a known email ends without a change, with or without a popup. -/
theorem resume_known {snapshot : Snapshot} (signUp : SignUp) (input : Input) (memory : Client)
    (known : snapshot ≠ []) :
    (resume platform (.signUpFetched signUp.email signUp.password) (.documents snapshot) input
        memory).client = memory ∧
      (resume platform (.signUpFetched signUp.email signUp.password) (.documents snapshot) input
        memory).requests = [] := by
  simp only [resume, signUpFetched]
  split
  · simp
  · rename_i unknown
    exact absurd (fetchUserWithEmail_documents.mp unknown) known
  · simp

theorem resume_unknown {input : Input} {memory : Client} :
    resume platform (.signUpFetched signUp.email signUp.password) (.documents []) input memory =
      { client := memory
        requests := [(.createUser signUp.email signUp.password,
          .userCreated signUp.email signUp.password)] } :=
  rfl

theorem createUser_changes {accounts created : Accounts} {email password : String} {index : Nat}
    (accepted : platform.auth.createUser accounts email password = some (created, index)) :
    created.list ≠ accounts.list := by
  rw [(platform.auth.createUser_list accepted).1]
  simp

/-- The checks after the account has been created. -/
theorem resume_created (index : Nat) {input : Input} (memory : Client)
    (typed : input.enterPassword = signUp.password ∧
      input.confirmPassword = signUp.confirmation) :
    (resume platform (.userCreated signUp.email signUp.password) (.account index) input
        memory).requests =
      (if signUp.isAccepted platform then
        [(.setUser (some index) input.uuid
            (UserController.userDict ⟨signUp.email, signUp.password, input.uuid⟩),
          .userStored ⟨signUp.email, signUp.password, input.uuid⟩)]
      else []) ∧
    (resume platform (.userCreated signUp.email signUp.password) (.account index) input
        memory).events.any Event.isErrorPopup = !signUp.isAccepted platform := by
  simp only [resume, userCreated, typed.1, typed.2]
  by_cases validEmail : isValidEmail signUp.email = true
  · rw [if_pos validEmail]
    by_cases validPassword : isValidPassword platform.characters signUp.password = true
    · rw [if_pos validPassword]
      by_cases confirmed : platform.texts.equal signUp.password signUp.confirmation = true
      · have accepted : signUp.isAccepted platform = true := by
          simp only [SignUp.isAccepted, validEmail, validPassword, confirmed, Bool.and_self]
        rw [if_pos confirmed, accepted]
        exact ⟨rfl, rfl⟩
      · have accepted : signUp.isAccepted platform = false := by simp [SignUp.isAccepted, confirmed]
        rw [if_neg confirmed, accepted]
        exact ⟨rfl, rfl⟩
    · have accepted : signUp.isAccepted platform = false := by
        simp [SignUp.isAccepted, validPassword]
      rw [if_neg validPassword, accepted]
      exact ⟨rfl, rfl⟩
  · have accepted : signUp.isAccepted platform = false := by simp [SignUp.isAccepted, validEmail]
    rw [if_neg validEmail, accepted]
    exact ⟨rfl, rfl⟩

theorem Quiet.fetch_served (quiet : Quiet client signUp s₀ trace s) (index : Nat) (fate : Fate)
    (tasks : s.tasks = [⟨client, .getUsers signUp.email,
      .signUpFetched signUp.email signUp.password, none⟩])
    (events : output.events = []) :
    Attempt platform client signUp s₀ ((.serve index fate, output) :: trace)
      { s with
        server := ((program platform).serve fate s.server (.getUsers signUp.email)).1
        tasks := [⟨client, .getUsers signUp.email, .signUpFetched signUp.email signUp.password,
          some ((program platform).answer s fate ⟨client, .getUsers signUp.email,
            .signUpFetched signUp.email signUp.password, none⟩)⟩] } := by
  rw [answer_getUsers rfl]
  cases fate with
  | answered =>
      -- the client has no write in flight, so it sees the server
      have sees : usersSeen s client = s₀.server.users := by
        rw [usersSeen, localUsers_eq_self, quiet.server]
        intro request waits
        obtain ⟨task, waiting, rfl⟩ := List.mem_map.mp waits
        rw [tasks] at waiting
        obtain rfl := List.mem_singleton.mp (List.mem_of_mem_filter waiting)
        rfl
      refine .fetched ⟨quiet.typed, quiet.server, quiet.currentUser, ?_, ?_⟩ ?_
      · simp [showsPopup, events, quiet.noPopup]
      · simp [anyFailed, quiet.noFailure]
      · simp [serve, sees]
  | failed => exact .refused (quiet.unchanged.trans rfl rfl) (.inl rfl) (.inl rfl) rfl

/-- Delivering the fetch goes on to create the account when the email is unknown. -/
theorem Quiet.fetch_delivered (quiet : Quiet client signUp s₀ trace s) (index : Nat) (input : Input)
    (events : output.events = (resume platform (.signUpFetched signUp.email signUp.password)
      (.documents (s₀.server.users.whereField Constants.email signUp.email)) input
      (s.clients client)).events) :
    Attempt platform client signUp s₀ ((.deliver index input, output) :: trace)
      (s.commit client [] (resume platform (.signUpFetched signUp.email signUp.password)
        (.documents (s₀.server.users.whereField Constants.email signUp.email)) input
        (s.clients client))) := by
  by_cases unknown : s₀.server.users.whereField Constants.email signUp.email = []
  · rw [unknown, resume_unknown] at events ⊢
    refine .creating ⟨quiet.typed, quiet.server, ?_, ?_, ?_⟩ unknown rfl
    · simpa using quiet.currentUser
    · simp [showsPopup, events, quiet.noPopup]
    · simp [anyFailed, quiet.noFailure]
  · obtain ⟨sameClient, noRequests⟩ := resume_known signUp input (s.clients client) unknown
    refine .ended (fun _ => quiet.unchanged.trans rfl ?_) (.inr (.inr (.inl (.inl unknown)))) ?_
    · rw [RequestReply.State.commit_clients_self, sameClient]
    · rw [RequestReply.State.commit_tasks, noRequests]
      rfl

/-- Serving the creation creates the account, unless the service refuses it or it fails. -/
theorem Quiet.creation_served (quiet : Quiet client signUp s₀ trace s)
    (unknown : s₀.server.users.whereField Constants.email signUp.email = []) (index : Nat)
    (fate : Fate) (events : output.events = []) :
    Attempt platform client signUp s₀ ((.serve index fate, output) :: trace)
      { s with
        server := ((program platform).serve fate s.server
          (.createUser signUp.email signUp.password)).1
        tasks := [⟨client, .createUser signUp.email signUp.password,
          .userCreated signUp.email signUp.password,
          some ((program platform).answer s fate ⟨client,
            .createUser signUp.email signUp.password,
            .userCreated signUp.email signUp.password, none⟩)⟩] } := by
  rw [answer_eq_serve fun email same => by cases same]
  cases fate with
  | failed => exact .refused (quiet.unchanged.trans rfl rfl) (.inr rfl) (.inl rfl) rfl
  | answered =>
      cases creation : platform.auth.createUser s₀.server.auth signUp.email signUp.password with
      | none =>
          have answer : serve platform .answered s.server
              (.createUser signUp.email signUp.password) = (s.server, .error) := by
            simp [serve, quiet.server, creation]
          refine .refused (quiet.unchanged.trans ?_ rfl) (.inr rfl) (.inr (.inr creation))
            (?_ : (_ : List Task) =
              [⟨client, .createUser signUp.email signUp.password, _, some .error⟩])
          · simp [program, answer]
          · simp [answer]
      | some next =>
          obtain ⟨auth, account⟩ := next
          have answer : serve platform .answered s.server
              (.createUser signUp.email signUp.password) =
                ({ s.server with auth }, .account account) := by
            simp [serve, quiet.server, creation]
          refine .created quiet.typed ?_ ?_ ?_ ?_
            (?_ : (_ : List Task) = [⟨client, _, _, some (.account account)⟩])
          · simpa only [program, answer] using createUser_changes creation
          · rintro (known | refused)
            · exact known unknown
            · rw [creation] at refused
              cases refused
          · simp [showsPopup, events, quiet.noPopup]
          · simp [anyFailed, quiet.noFailure]
          · simp [answer]

theorem refusal_delivered {continuation : Continuation} (unchanged : Unchanged client s₀ s)
    (callback : continuation = .signUpFetched signUp.email signUp.password ∨
      continuation = .userCreated signUp.email signUp.password)
    (reason : anyFailed trace = true ∨ signUp.Refused platform s₀.server) (index : Nat)
    (input : Input) :
    Attempt platform client signUp s₀ ((.deliver index input, output) :: trace)
      (s.commit client [] (resume platform continuation .error input (s.clients client))) := by
  obtain ⟨sameClient, noRequests⟩ := resume_refused input (s.clients client) callback
  refine .ended (fun _ => unchanged.trans rfl ?_) ?_ ?_
  · rw [RequestReply.State.commit_clients_self, sameClient]
  · rcases reason with failed | used
    · exact .inr (.inr (.inr (.inl (by simp [anyFailed, failed]))))
    · exact .inr (.inr (.inl used))
  · rw [RequestReply.State.commit_tasks, noRequests]
    rfl

/-- Once the account is there, the checks pass and the user is stored, or a popup ends the
attempt. -/
theorem creation_delivered {account index : Nat} {input : Input}
    (typed : signUp.email ≠ "" ∧ signUp.password ≠ "")
    (changed : s.server.auth.list ≠ s₀.server.auth.list)
    (unused : ¬ signUp.Refused platform s₀.server) (noPopup : showsPopup trace = false)
    (noFailure : anyFailed trace = false)
    (fields : input.enterPassword = signUp.password ∧
      input.confirmPassword = signUp.confirmation)
    (events : output.events = (resume platform (.userCreated signUp.email signUp.password)
      (.account account) input (s.clients client)).events) :
    Attempt platform client signUp s₀ ((.deliver index input, output) :: trace)
      (s.commit client [] (resume platform (.userCreated signUp.email signUp.password)
        (.account account) input (s.clients client))) := by
  obtain ⟨requests, popup⟩ := resume_created account (s.clients client) fields
  cases accepted : signUp.isAccepted platform with
  | true =>
      rw [accepted] at requests popup
      refine .storing ?_ accepted (?_ : (_ : List Task) = [⟨client, .setUser (some account) _ _,
        .userStored ⟨signUp.email, signUp.password, input.uuid⟩, none⟩])
      · rw [showsPopup, events, popup, noPopup]
        rfl
      · rw [RequestReply.State.commit_tasks, requests]
        rfl
  | false =>
      rw [accepted] at requests popup
      refine .broken ?_ changed ?_ ?_
      · rw [showsPopup, events, popup]
        rfl
      · rintro (empty | empty | used | failed | accepts)
        · exact typed.1 empty
        · exact typed.2 empty
        · exact unused used
        · simp [anyFailed, noFailure] at failed
        · simp [accepted] at accepts
      · rw [RequestReply.State.commit_tasks, requests]
        rfl

theorem store_delivered {user : User} {reply : Reply} {index : Nat} {input : Input}
    (noPopup : showsPopup trace = false) (accepted : signUp.isAccepted platform = true)
    (events : output.events =
      (resume platform (.userStored user) reply input (s.clients client)).events) :
    Attempt platform client signUp s₀ ((.deliver index input, output) :: trace)
      (s.commit client [] (resume platform (.userStored user) reply input (s.clients client))) := by
  refine .ended ?_ (.inr (.inr (.inr (.inr accepted)))) ?_
  · intro popup
    rw [showsPopup, noPopup, events, Bool.or_false] at popup
    cases reply <;>
      simp [resume, userStored, UserController.createUser, Event.isErrorPopup] at popup
  · cases reply <;> simp [resume, userStored, UserController.createUser]

/-- One step of an attempt leads from one of its states to the next. -/
theorem attempt_step (attempt : Attempt platform client signUp s₀ trace s) (tapped : trace ≠ [])
    (permitted : Attempting client signUp trace s label)
    (stepped : (program platform).StepCase s label output s') :
    Attempt platform client signUp s₀ ((label, output) :: trace) s' := by
  have noAction : ¬ ∃ actor action, label = .act actor action := by
    rintro ⟨actor, action, rfl⟩
    exact tapped (List.isEmpty_iff.mp permitted.1)
  cases attempt with
  | fetching quiet tasks =>
      obtain ⟨index, fate, rfl, events, rfl⟩ :=
        Program.serve_of_waiting tasks rfl noAction stepped
      exact quiet.fetch_served index fate tasks events
  | fetched quiet tasks =>
      obtain ⟨index, input, _, rfl, resumed, events, rfl⟩ :=
        Program.deliver_of_answered tasks rfl noAction stepped
      obtain rfl := Option.some.inj resumed
      exact quiet.fetch_delivered index input events
  | creating quiet unknown tasks =>
      obtain ⟨index, fate, rfl, events, rfl⟩ :=
        Program.serve_of_waiting tasks rfl noAction stepped
      exact quiet.creation_served unknown index fate events
  | refused unchanged callback reason tasks =>
      obtain ⟨index, input, _, rfl, resumed, events, rfl⟩ :=
        Program.deliver_of_answered tasks rfl noAction stepped
      obtain rfl := Option.some.inj resumed
      exact refusal_delivered unchanged callback reason index input
  | created typed changed unused noPopup noFailure tasks =>
      obtain ⟨index, input, _, rfl, resumed, events, rfl⟩ :=
        Program.deliver_of_answered tasks rfl noAction stepped
      obtain rfl := Option.some.inj resumed
      exact creation_delivered typed changed unused noPopup noFailure permitted events
  | storing noPopup accepted tasks =>
      rcases Program.stepCase_of_single tasks stepped with acts | ⟨_, _, rfl, _, events, rfl⟩ |
        ⟨_, input, reply, _, rfl, _, resumed, events, rfl⟩
      · exact absurd acts noAction
      · exact .storing (by simp [showsPopup, events, noPopup]) accepted rfl
      · obtain rfl := Option.some.inj resumed
        exact store_delivered noPopup accepted events
  | ended harmless safe tasks =>
      exact absurd (Program.stepCase_of_idle tasks stepped) noAction
  | broken popup changed notSafe tasks =>
      exact absurd (Program.stepCase_of_idle tasks stepped) noAction

theorem attempt_run (idle : s₀.tasks = [])
    (run : (program platform).Run (Attempting client signUp) s₀ trace s) :
    (trace = [] ∧ s = s₀) ∨ (trace ≠ [] ∧ Attempt platform client signUp s₀ trace s) := by
  refine run.invariant (I := fun trace s => (trace = [] ∧ s = s₀) ∨
    (trace ≠ [] ∧ Attempt platform client signUp s₀ trace s)) (.inl ⟨rfl, rfl⟩) ?_
  rintro trace s label output s' (⟨rfl, rfl⟩ | ⟨tapped, attempt⟩) permitted stepped
  · obtain ⟨actor, action, rfl⟩ := Program.stepCase_of_idle idle stepped
    obtain ⟨-, rfl, rfl⟩ := permitted
    cases stepped with
    | act handled =>
        obtain rfl := Option.some.inj handled
        exact .inr ⟨by simp, attempt_tap idle⟩
  · exact .inr ⟨by simp, attempt_step attempt tapped permitted stepped⟩

/-! ## The results -/

/-- **A popup means that nothing has changed exactly when a field was empty, a users document
had the email, the service refused the account, a request failed, or the email and the passwords
pass the checks that come after the account is created.** -/
theorem popup_leaves_stores_iff (attempted : Attempted platform client signUp s₀ trace s) :
    (showsPopup trace = true → Unchanged client s₀ s) ↔
      SafeAttempt platform signUp s₀.server trace := by
  rcases attempt_run attempted.idle attempted.run with ⟨empty, _⟩ | ⟨_, attempt⟩
  · exact absurd empty attempted.tapped
  · have finished := attempted.finished
    cases attempt with
    | ended harmless safe tasks => exact iff_of_true harmless safe
    | broken popup changed notSafe tasks =>
        exact iff_of_false (fun harmless => changed (harmless popup).accounts) notSafe
    | fetching quiet tasks => simp [finished] at tasks
    | fetched quiet tasks => simp [finished] at tasks
    | creating quiet unknown tasks => simp [finished] at tasks
    | refused unchanged callback reason tasks => simp [finished] at tasks
    | created typed changed unused noPopup noFailure tasks => simp [finished] at tasks
    | storing noPopup accepted tasks => simp [finished] at tasks

end

/-! ## Two attempts -/

/-- The steps of an attempt whose confirmation is the given one. -/
def attemptSteps (signUp : SignUp) : List Label :=
  [.act 0 signUp.action, .serve 0 .answered,
    .deliver 0 { enterPassword := signUp.password, confirmPassword := signUp.confirmation },
    .serve 0 .answered,
    .deliver 0 { enterPassword := signUp.password, confirmPassword := signUp.confirmation }]

/-- An attempt with an email in use shows a popup and changes nothing. -/
theorem popup_leaves_stores_iff_inUse :
    ∃ s₀ trace s, Attempted plain 0 ⟨"ann@mail.com", "secret", "secret"⟩ s₀ trace s ∧
      showsPopup trace = true ∧ Unchanged 0 s₀ s := by
  let signUp : SignUp := ⟨"ann@mail.com", "secret", "secret"⟩
  let s₀ : State := { fresh with
    server :=
      { auth := .empty
        users := Collection.setData ∅ "A" (UserController.userDict ⟨signUp.email, "other", "A"⟩) } }
  have executed : ((program plain).execute (Attempting 0 signUp) s₀
      ((attemptSteps signUp).take 3) []).any
      (fun last => last.2.tasks.isEmpty && !last.1.isEmpty && showsPopup last.1) = true := by
    decide
  obtain ⟨⟨trace, s⟩, followed, last⟩ := (Option.any_eq_true _ _).mp executed
  simp only [Bool.and_eq_true, Bool.not_eq_true', List.isEmpty_iff, List.isEmpty_eq_false_iff]
    at last
  obtain ⟨⟨finished, tapped⟩, popup⟩ := last
  have attempted : Attempted plain 0 signUp s₀ trace s :=
    ⟨rfl, .of_execute .start followed, tapped, finished⟩
  refine ⟨s₀, trace, s, attempted, popup, ?_⟩
  exact (popup_leaves_stores_iff attempted).mpr (.inr (.inr (.inl (.inl (by decide))))) popup

/-- **A mistyped confirmation leaves an account behind.** The popup is shown, the
account exists and no users document does. -/
theorem popup_leaves_an_account : ¬ PopupsLeaveStores plain := by
  intro leave
  let signUp : SignUp := ⟨"ann@mail.com", "secret", "secrte"⟩
  have executed : ((program plain).execute (Attempting 0 signUp) fresh (attemptSteps signUp) []).any
      (fun last => last.2.tasks.isEmpty && !last.1.isEmpty && showsPopup last.1 &&
        last.2.server.auth.list.length == 1) = true := by
    decide
  obtain ⟨⟨trace, s⟩, followed, last⟩ := (Option.any_eq_true _ _).mp executed
  simp only [Bool.and_eq_true, Bool.not_eq_true', List.isEmpty_iff, List.isEmpty_eq_false_iff,
    beq_iff_eq] at last
  obtain ⟨⟨⟨finished, tapped⟩, popup⟩, account⟩ := last
  have unchanged := leave 0 signUp fresh s trace
    ⟨rfl, .of_execute .start followed, tapped, finished⟩ popup
  rw [unchanged.accounts] at account
  cases account

end MyMealPrep.Login
