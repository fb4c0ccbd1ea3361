import MyMealPrep.Login.EditTargets
import MyMealPrep.Login.Registrations

/-!
# Signing in after a sign-up

However sign-ups overlap, the users collection has at most one document for each
email, and whoever has reached the tab bar by a sign-up can sign in from any client
at any later time: the query finds the document that the sign-up wrote, the checks
pass, `Auth` accepts and the tab bar opens (`signUps_register`).

A sign-in is followed from its tap through whatever else happens in between
(`Program.Awaits`).
-/

set_option autoImplicit false

namespace MyMealPrep.Login

open Firestore (Collection Document Snapshot Value)
open RequestReply (Program)

/-! ## The property -/

/-- At most one users document has an email. -/
def OneDocumentPerEmail (users : Collection) : Prop :=
  ∀ email first second, users.textOf first Constants.email = some email →
    users.textOf second Constants.email = some email → first = second

/-- The step delivers the write of a new user and opens the tab bar. -/
def SignUpEnds (platform : Platform) (s : State) (index : Nat) (user : User) (s' : State) :
    Prop :=
  ∃ input output task, s.tasks[index]? = some task ∧ task.continuation = .userStored user ∧
    (program platform).step s (.deliver index input) = some (output, s') ∧ .toTabBar ∈ output.events

/-- A sign-in as the user, by any client: the tap queries the email. Whenever the answer is
delivered, the user is in memory with its document's ID and `Auth` is asked, and whenever the
answer of `Auth` is delivered, the tab bar opens. -/
def SignsIn (platform : Platform) (user : User) (s : State) : Prop :=
  ∀ client, ∃ output tapped,
    (program platform).step s
        (.act client (.signUpSignInButtonTapped false user.email user.password)) =
      some (output, tapped) ∧
    output.requests =
      [(.getUsers user.email, .signInFetched user.email user.password)] ∧
    ∀ trace fetched index,
      (program platform).Awaits RequestsAnswered [] tapped s.tasks.length trace fetched index →
      ∀ input output checked,
        (program platform).step fetched (.deliver index input) = some (output, checked) →
        (checked.clients client).currentUser = some user ∧
        output.requests = [(.signIn user.email user.password, .signedIn user.email)] ∧
        ∀ trace asked index,
          (program platform).Awaits RequestsAnswered [] checked (fetched.tasks.length - 1) trace
            asked index →
          ∀ input output ended,
            (program platform).step asked (.deliver index input) = some (output, ended) →
            output.client = client ∧ output.events = [.toTabBar]

/-! ## One sign-in -/

theorem isEmpty_of_isValidEmail {email : String} (valid : isValidEmail email = true) :
    email.isEmpty = false := by
  rw [Bool.eq_false_iff]
  intro empty
  rw [String.isEmpty_iff.mp empty] at valid
  exact absurd valid (by decide)

theorem handle_signIn (platform : Platform) {user : User}
    (validEmail : isValidEmail user.email = true) (typed : user.password ≠ "")
    (client : Client) :
    handle platform (.signUpSignInButtonTapped false user.email user.password) client =
      { client
        requests := [(.getUsers user.email, .signInFetched user.email user.password)] } := by
  have nonempty : user.password.isEmpty = false :=
    Bool.eq_false_iff.mpr fun empty => typed (String.isEmpty_iff.mp empty)
  simp [handle, signUpSignInButtonTapped, isEmpty_of_isValidEmail validEmail, nonempty,
    validEmail]

/-- The user is put into memory and `Auth` is asked. -/
def asksAuth (user : User) (client : Client) : Effect where
  client := { client with currentUser := some user }
  requests := [(.signIn user.email user.password, .signedIn user.email)]

theorem resume_signInFetched (platform : Platform) {user : User} {reply : Reply}
    (found : fetchedUser reply = some user) (input : Input) (client : Client) :
    resume platform (.signInFetched user.email user.password) reply input client =
      asksAuth user client := by
  have completed : UserController.fetchUserWithEmail reply = some (.ok (some user)) := by
    unfold fetchedUser at found
    split at found
    · rename_i completed
      rw [completed, Option.some.inj found]
    · cases found
  simp [resume, signInFetched, completed, asksAuth]

section

variable {platform : Platform} {user : User} {s tapped fetched checked asked ended : State}
  {trace : Trace} {client index : Nat} {input : Input} {output : Output}

/-- The user can sign in, and nobody else has the email. -/
structure Ready (user : User) (s : State) : Prop where
  enrolled : Enrolled s.server user
  registered : Registered s.server s.tasks

theorem Ready.step {label : Label} {s' : State} (ready : Ready user s)
    (permitted : RequestsAnswered trace s label)
    (stepped : (program platform).StepCase s label output s') : Ready user s' where
  enrolled := enrolled_step ready.enrolled ready.registered stepped
  registered := registered_step ready.registered permitted stepped

theorem Ready.run {s' : State} (ready : Ready user s)
    (run : (program platform).Run RequestsAnswered s trace s') : Ready user s' :=
  run.invariant (I := fun _ s => Ready user s) ready
    fun ready permitted stepped => ready.step permitted stepped

/-- A request that creates no account is answered. -/
theorem answered_of_permitted {task : Task} {fate : Fate}
    (permitted : RequestsAnswered trace s (.serve index fate))
    (inFlight : s.tasks[index]? = some task) (other : task.request.createsAccount = false) :
    fate = .answered :=
  permitted.resolve_right fun creates => by
    rw [creates task inFlight] at other
    cases other

theorem Ready.fetch (ready : Ready user tapped) (task : Task) {index₀ : Nat}
    (issued : tapped.tasks[index₀]? = some task) (waiting : task.reply = none)
    (request : task.request = .getUsers user.email)
    (continuation : task.continuation = .signInFetched user.email user.password)
    (awaits : (program platform).Awaits RequestsAnswered [] tapped index₀ trace fetched index)
    (stepped : (program platform).step fetched (.deliver index input) = some (output, checked)) :
    Ready user checked ∧ index < fetched.tasks.length ∧
    output.requests = [(.signIn user.email user.password, .signedIn user.email)] ∧
    checked = fetched.commit task.client (fetched.tasks.eraseIdx index)
      (asksAuth user (fetched.clients task.client)) := by
  obtain ⟨before, reply, inFlight, given⟩ := awaits.answered (I := Ready user) ready
    (fun ready permitted stepped => ready.step permitted stepped) issued waiting
  have permitted : RequestsAnswered [] fetched (.deliver index input) := by
    rintro other found
    obtain rfl := Option.some.inj (found.symm.trans inFlight)
    rw [MakesFreshUUID]
    simp only [continuation]
  have stepCase := Program.stepCase_of_step stepped
  refine ⟨before.step permitted stepCase, (List.getElem?_eq_some_iff.mp inFlight).1, ?_⟩
  cases stepCase with
  | @deliver _ _ delivered answer effect found answered resumed =>
      obtain rfl := Option.some.inj (found.symm.trans inFlight)
      obtain ⟨_, between, _, fate, then_, inFlight, allowed, rfl⟩ := given answer answered
      obtain rfl := answered_of_permitted allowed inFlight (by rw [request]; rfl)
      have isUser :
          fetchedUser ((program platform).answer between .answered task) = some user := by
        rw [answer_getUsers request]
        exact (then_.enrolled.found then_.registered task.client).fetchedUser
      obtain rfl : resume platform task.continuation _ input (fetched.clients task.client) =
          effect :=
        Option.some.inj resumed
      have continues := resume_signInFetched platform isUser input (fetched.clients task.client)
      rw [← continuation] at continues
      constructor
      · exact congrArg RequestReply.Effect.requests continues
      · exact congrArg (fetched.commit task.client (fetched.tasks.eraseIdx index)) continues

theorem Ready.accept (ready : Ready user checked) (task : Task) {index₀ : Nat}
    (issued : checked.tasks[index₀]? = some task) (waiting : task.reply = none)
    (request : task.request = .signIn user.email user.password)
    (continuation : task.continuation = .signedIn user.email)
    (awaits : (program platform).Awaits RequestsAnswered [] checked index₀ trace asked index)
    (stepped : (program platform).step asked (.deliver index input) = some (output, ended)) :
    output.client = task.client ∧ output.events = [.toTabBar] := by
  obtain ⟨before, reply, inFlight, given⟩ := awaits.answered (I := Ready user) ready
    (fun ready permitted stepped => ready.step permitted stepped) issued waiting
  cases Program.stepCase_of_step stepped with
  | @deliver _ _ delivered answer effect found answered resumed =>
      obtain rfl := Option.some.inj (found.symm.trans inFlight)
      obtain ⟨_, between, _, fate, then_, inFlight, allowed, rfl⟩ := given answer answered
      obtain rfl := answered_of_permitted allowed inFlight (by rw [request]; rfl)
      obtain ⟨account, accepted⟩ := then_.enrolled.signIn platform
      have answer : (program platform).answer between .answered task = .account account := by
        rw [answer_eq_serve (by simp [request]), request]
        exact accepted
      obtain rfl : resume platform task.continuation _ input (asked.clients task.client) =
          effect :=
        Option.some.inj resumed
      refine ⟨rfl, ?_⟩
      change (resume platform task.continuation ((program platform).answer between .answered task)
        input (asked.clients task.client)).events = _
      rw [answer, continuation]
      rfl

/-- A user that can sign in does, whatever happens in between. -/
theorem Ready.signsIn (ready : Ready user s) (validEmail : isValidEmail user.email = true)
    (typed : user.password ≠ "") : SignsIn platform user s := by
  intro client
  have tap := handle_signIn platform validEmail typed (s.clients client)
  have handled : (program platform).handle
      (.signUpSignInButtonTapped false user.email user.password)
      (s.clients client) = some _ := congrArg some tap
  have step := (program platform).step_act handled
  refine ⟨_, _, step, rfl, ?_⟩
  have permitted : RequestsAnswered [] s
      (.act client (.signUpSignInButtonTapped false user.email user.password)) := trivial
  have readyTapped := ready.step permitted (Program.stepCase_of_step step)
  intro trace fetched index awaits input output checked stepped
  obtain ⟨readyChecked, inRange, requests, rfl⟩ := readyTapped.fetch
    ⟨client, .getUsers user.email, .signInFetched user.email user.password, none⟩
    (by simp) rfl rfl rfl awaits stepped
  refine ⟨by simp [asksAuth], requests, ?_⟩
  intro trace asked index' awaits' input' output' ended stepped'
  have position : (fetched.tasks.eraseIdx index).length = fetched.tasks.length - 1 :=
    List.length_eraseIdx_of_lt inRange
  exact readyChecked.accept
    ⟨client, .signIn user.email user.password, .signedIn user.email, none⟩
    (by simp [asksAuth, ← position]) rfl rfl rfl awaits' stepped'

end

/-! ## The results -/

/-- A user whose sign-up has reached the tab bar can sign in. -/
theorem SignUpEnds.ready {platform : Platform} {s s' : State} {index : Nat} {user : User}
    (ends : SignUpEnds platform s index user s') (registered : Registered s.server s.tasks) :
    Ready user s' ∧ isValidEmail user.email = true ∧ user.password ≠ "" := by
  obtain ⟨input, output, task, inFlight, continuation, stepped, -⟩ := ends
  have member := List.mem_of_getElem? inFlight
  have shaped := registered.shaped task member
  rw [Shaped, continuation] at shaped
  have stepCase := Program.stepCase_of_step stepped
  have permitted : RequestsAnswered [] s (.deliver index input) := by
    rintro other found
    obtain rfl := Option.some.inj (found.symm.trans inFlight)
    rw [MakesFreshUUID]
    simp only [continuation]
  refine ⟨⟨?_, registered_step registered permitted stepCase⟩, shaped.2⟩
  cases stepCase with
  | @deliver _ _ delivered answer effect found answered resumed =>
      obtain rfl := Option.some.inj (found.symm.trans inFlight)
      exact registered.stored delivered member user continuation (by simp [answered])

/-- **Sign-ups register their users.** In every state that a run of sign-ups and sign-ins
reaches, each email has at most one users document. Once a sign-up has reached the tab bar,
its user can sign in ever after. -/
theorem signUps_register (platform : Platform) :
    (∀ trace s, (program platform).Run RequestsAnswered fresh trace s →
      OneDocumentPerEmail s.server.users) ∧
    ∀ trace s index user s', (program platform).Run RequestsAnswered fresh trace s →
      SignUpEnds platform s index user s' →
        ∀ later s'', (program platform).Run RequestsAnswered s' later s'' →
          SignsIn platform user s'' := by
  constructor
  · intro trace s run
    exact (registered_run run).unique
  · intro trace s index user s' run ends later s'' laterRun
    obtain ⟨ready, validEmail, typed⟩ := ends.ready (registered_run run)
    exact (ready.run laterRun).signsIn validEmail typed

instance (s : State) (task : Task) (uuid : String) : Decidable (MakesFreshUUID s task uuid) :=
  match continuation : task.continuation with
  | .userCreated _ _ =>
      decidable_of_iff (s.server.users[uuid]?.isNone = true ∧
        ∀ other ∈ s.tasks, storingUUID other ≠ some uuid)
        (by rw [MakesFreshUUID, continuation]; simp)
  | .viewDidLoad | .signInFetched _ _ | .signedIn _ | .signUpFetched _ _ | .userStored _
  | .emailUpdated _ _ | .passwordUpdated _ | .updateEmailFetched _ | .updatePasswordFetched _
  | .ignored => .isTrue (by rw [MakesFreshUUID, continuation]; trivial)

instance (trace : Trace) (s : State) (label : Label) :
    Decidable (RequestsAnswered trace s label) :=
  match label with
  | .act _ (.saveButtonTapped _ _ _) => .isFalse id
  | .act _ .viewDidLoad => .isTrue trivial
  | .act _ (.signUpSignInButtonTapped _ _ _) => .isTrue trivial
  | .act _ .logoutButtonTapped => .isTrue trivial
  | .serve index fate => inferInstanceAs (Decidable
      (fate = .answered ∨ ∀ task ∈ s.tasks[index]?, task.request.createsAccount = true))
  | .deliver index input => inferInstanceAs (Decidable
      (∀ task ∈ s.tasks[index]?, MakesFreshUUID s task input.uuid))

/-- The user whose document a callback waits for. -/
def storedUser : Continuation → Option User
  | .userStored user => some user
  | _ => none

theorem eq_userStored {continuation : Continuation} {user : User}
    (stored : storedUser continuation = some user) : continuation = .userStored user := by
  cases continuation <;> simp_all [storedUser]

/-- A user signs up and can sign in. -/
theorem signUps_register_ann :
    ∃ trace s s', (program plain).Run RequestsAnswered fresh trace s ∧
      SignUpEnds plain s 0 ⟨"ann@mail.com", "secret", "A"⟩ s' ∧
        OneDocumentPerEmail s.server.users ∧
          SignsIn plain ⟨"ann@mail.com", "secret", "A"⟩ s' := by
  have executed : ((program plain).execute RequestsAnswered fresh
      ((signUpSteps 0 "ann@mail.com" "secret" "A").take 6) []).any
        (fun last => (last.2.tasks.head?.any fun task =>
            decide (storedUser task.continuation = some ⟨"ann@mail.com", "secret", "A"⟩)) &&
          ((program plain).step last.2 (.deliver 0 {})).any
            fun next => next.1.events.contains .toTabBar) = true := by
    decide
  obtain ⟨⟨trace, s⟩, followed, last⟩ := (Option.any_eq_true _ _).mp executed
  obtain ⟨storing, stepped⟩ := Bool.and_eq_true_iff.mp last
  obtain ⟨task, first, isStore⟩ := (Option.any_eq_true _ _).mp storing
  obtain ⟨⟨output, s'⟩, step, shown⟩ := (Option.any_eq_true _ _).mp stepped
  have run := Program.Run.of_execute .start followed
  have continuation : task.continuation = .userStored ⟨"ann@mail.com", "secret", "A"⟩ :=
    eq_userStored (of_decide_eq_true isStore)
  have ends : SignUpEnds plain s 0 ⟨"ann@mail.com", "secret", "A"⟩ s' :=
    ⟨{}, output, task, List.head?_eq_getElem? ▸ first, continuation, step,
      List.contains_iff_mem.mp shown⟩
  exact ⟨trace, s, s', run, ends, (signUps_register plain).1 trace s run,
    (signUps_register plain).2 trace s 0 _ s' run ends [] s' .start⟩

end MyMealPrep.Login
