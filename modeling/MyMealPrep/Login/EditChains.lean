import MyMealPrep.Login.EditTargets

/-!
# The chains of a login edit

A tap of the save button starts a chain of callbacks for each credential typed:
`Auth` changes the account, a query by the email in memory looks up the users
document, the document found is updated. Both chains advance on their own, in any
order, and both look the document up by the email that one of them replaces.

Each chain is in one of the phases of `Phase`, and `Advance` lists how a chain
moves from one phase to the next. Serving a request of the chain is such a move
(`chain_serve`), delivering a reply is another (`chain_deliver`).
-/

set_option autoImplicit false

namespace MyMealPrep.Login

open Firestore (Collection Document Snapshot Value)
open RequestReply (Program)

variable {platform : Platform}

/-! ## Credentials -/

/-- The credential a chain changes. -/
inductive Credential where
  | email
  | password
deriving DecidableEq, Repr

namespace Credential

/-- The field of the users document. -/
def field : Credential → String
  | .email => Constants.email
  | .password => Constants.password

/-- The other credential. -/
def other : Credential → Credential
  | .email => .password
  | .password => .email

/-- The credential of an account. -/
def ofAccount : Credential → Account → String
  | .email, account => account.email
  | .password, account => account.password

/-- The request to `Auth`. -/
def authRequest : Credential → Nat → String → Request
  | .email, account, value => .updateEmail account value
  | .password, account, value => .updatePassword account value

/-- The callback of `Auth`. -/
def authContinuation : Credential → Nat → String → Continuation
  | .email, account, value => .emailUpdated account value
  | .password, _, value => .passwordUpdated value

/-- The callback of the lookup. -/
def lookupContinuation : Credential → String → Continuation
  | .email, value => .updateEmailFetched value
  | .password, value => .updatePasswordFetched value

instance {p : Credential → Prop} [DecidablePred p] : Decidable (∀ credential, p credential) :=
  decidable_of_iff (p .email ∧ p .password)
    ⟨fun ⟨first, second⟩ credential => by cases credential <;> assumption,
      fun all => ⟨all .email, all .password⟩⟩

theorem field_injective {first second : Credential} (same : first.field = second.field) :
    first = second := by
  cases first <;> cases second <;> first | rfl | exact absurd same (by decide)

end Credential

/-! ## Phases -/

/-- How far a chain has come. The last phases keep the document updated, if one was
found. -/
inductive Phase where
  | absent
  | authorizing
  | authorized
  | lookingUp
  | lookedUp (reply : Reply)
  | writing (uuid : String)
  | written (uuid : String)
  | closed (target : Option String)

namespace Phase

/-- `Auth` has changed the account. -/
def isAuthorized : Phase → Bool
  | .absent | .authorizing => false
  | _ => true

/-- The document that the lookup found, once it is served. -/
def target : Phase → Option (Option String)
  | .lookedUp reply => some ((fetchedUser reply).map User.uuid)
  | .writing uuid => some (some uuid)
  | .written uuid => some (some uuid)
  | .closed target => some target
  | _ => none

/-- The update of the document is in flight. -/
def isWriting (uuid : String) : Phase → Bool
  | .writing target => target = uuid
  | _ => false

/-- The document has been updated. -/
def wrote (uuid : String) : Phase → Bool
  | .written target => target = uuid
  | .closed target => target = some uuid
  | _ => false

/-- The update of the document has been issued. -/
def issued (uuid : String) (phase : Phase) : Bool :=
  phase.isWriting uuid || phase.wrote uuid

end Phase

/-- The request of a chain in flight. -/
def chainTasks (client : Nat) (userEmail : String) (account : Nat) (value : String)
    (credential : Credential) : Phase → List Task
  | .absent => []
  | .authorizing =>
      [⟨client, credential.authRequest account value, credential.authContinuation account value,
        none⟩]
  | .authorized =>
      [⟨client, credential.authRequest account value, credential.authContinuation account value,
        some .done⟩]
  | .lookingUp => [⟨client, .getUsers userEmail, credential.lookupContinuation value, none⟩]
  | .lookedUp reply =>
      [⟨client, .getUsers userEmail, credential.lookupContinuation value, some reply⟩]
  | .writing uuid =>
      [⟨client, .updateUser (some account) uuid credential.field value, .ignored, none⟩]
  | .written uuid =>
      [⟨client, .updateUser (some account) uuid credential.field value, .ignored, some .done⟩]
  | .closed _ => []

/-- The requests of one step of a chain: the one served, or those issued. -/
structure Moves where
  served : Option (Request × Continuation) := none
  requests : List (Request × Continuation) := []

/-- One step of a chain: the phases before and after, the server after, and the requests. A
lookup is answered from the documents that the client sees. -/
inductive Advance (platform : Platform) (userEmail : String) (account : Nat) (value : String)
    (credential : Credential) (seen : Collection) (server : Server) :
    Phase → Phase → Server → Moves → Prop where
  | authorize
      (accepted :
        (serve platform .answered server (credential.authRequest account value)).2 = .done) :
      Advance platform userEmail account value credential seen server .authorizing .authorized
        (serve platform .answered server (credential.authRequest account value)).1
        { served := some (credential.authRequest account value,
            credential.authContinuation account value) }
  | lookUp :
      Advance platform userEmail account value credential seen server .authorized .lookingUp
        server { requests := [(.getUsers userEmail, credential.lookupContinuation value)] }
  | find :
      Advance platform userEmail account value credential seen server .lookingUp
        (.lookedUp (.documents (seen.whereField Constants.email userEmail))) server
        { served := some (.getUsers userEmail, credential.lookupContinuation value) }
  | write {reply : Reply} {found : User} (fetched : fetchedUser reply = some found) :
      Advance platform userEmail account value credential seen server (.lookedUp reply)
        (.writing found.uuid) server
        { requests := [(.updateUser (some account) found.uuid credential.field value, .ignored)] }
  | stop {reply : Reply} (missing : fetchedUser reply = none) :
      Advance platform userEmail account value credential seen server (.lookedUp reply)
        (.closed none) server {}
  | update {uuid : String} {users : Collection}
      (updated : server.users.updateData uuid credential.field (.string value) = some users) :
      Advance platform userEmail account value credential seen server (.writing uuid)
        (.written uuid) { server with users }
        { served := some (.updateUser (some account) uuid credential.field value, .ignored) }
  | close {uuid : String} :
      Advance platform userEmail account value credential seen server (.written uuid)
        (.closed (some uuid)) server {}

theorem eq_of_mem_chainTasks {client account : Nat} {userEmail value : String}
    {credential : Credential} {phase : Phase} {task : Task}
    (member : task ∈ chainTasks client userEmail account value credential phase) :
    chainTasks client userEmail account value credential phase = [task] ∧
      task.client = client := by
  cases phase with
  | absent => simp [chainTasks] at member
  | closed target => simp [chainTasks] at member
  | _ =>
      obtain rfl := List.mem_singleton.mp member
      exact ⟨rfl, rfl⟩

/-! ## The guard -/

/-- After the tap no user acts, and every request succeeds. -/
def Succeeds (platform : Platform) (_ : Trace) (s : State) : Label → Prop
  | .act _ _ => False
  | .serve index fate =>
      fate = .answered ∧ ∀ task ∈ s.tasks[index]?, (program platform).answer s fate task ≠ .error
  | .deliver _ _ => True

instance (reply : Reply) : Decidable (reply = .error) :=
  match reply with
  | .error => isTrue rfl
  | .done => isFalse (by simp)
  | .account _ => isFalse (by simp)
  | .documents _ => isFalse (by simp)

instance (trace : Trace) (s : State) (label : Label) :
    Decidable (Succeeds platform trace s label) :=
  match label with
  | .act _ _ => .isFalse id
  | .serve index fate => inferInstanceAs (Decidable (fate = .answered ∧
      ∀ task ∈ s.tasks[index]?, (program platform).answer s fate task ≠ .error))
  | .deliver _ _ => .isTrue trivial

/-- The client of an edit: its user and the account it is signed in with. -/
structure SignedIn (user : User) (account : Nat) (client : Client) : Prop where
  currentUser : client.currentUser = some user
  session : client.session.map Session.account = some account

theorem SignedIn.resume {user : User} {account : Nat} {client : Client}
    (signedIn : SignedIn user account client) {continuation : Continuation} {reply : Reply}
    {input : Input} (sameUser : setsCurrentUser platform.texts continuation reply = none)
    (sameSession :
      (resume platform continuation reply input client).client.session.map Session.account =
        client.session.map Session.account) :
    SignedIn user account (Login.resume platform continuation reply input client).client where
  currentUser := by rw [resume_currentUser, sameUser, signedIn.currentUser]; rfl
  session := sameSession.trans signedIn.session

/-! ## One chain steps -/

section Chain

variable {client account : Nat} {user : User} {value : String} {credential : Credential}
  {s : State} {phase : Phase} {task : Task}

theorem chain_serve (waiting : task.reply = none)
    (member : task ∈ chainTasks client user.email account value credential phase)
    (succeeds : (program platform).answer s .answered task ≠ .error) :
    ∃ next, Advance platform user.email account value credential (usersSeen s client) s.server
        phase next (serve platform .answered s.server task.request).1
        { served := some (task.request, task.continuation) } ∧
      chainTasks client user.email account value credential next =
        [{ task with reply := some ((program platform).answer s .answered task) }] := by
  cases phase with
  | absent => simp [chainTasks] at member
  | authorizing =>
      obtain rfl := List.mem_singleton.mp member
      have noQuery : ∀ email, credential.authRequest account value ≠ .getUsers email := by
        cases credential <;> exact fun email same => by cases same
      rw [answer_eq_serve noQuery] at succeeds ⊢
      have accepted : (serve platform .answered s.server
          (credential.authRequest account value)).2 = .done := by
        cases credential with
        | email =>
            simp only [Credential.authRequest, serve] at succeeds ⊢
            split <;> simp_all
        | password =>
            simp only [Credential.authRequest, serve] at succeeds ⊢
            split <;> simp_all
      exact ⟨.authorized, .authorize accepted, by rw [accepted]; rfl⟩
  | authorized =>
      obtain rfl := List.mem_singleton.mp member
      cases waiting
  | lookingUp =>
      obtain rfl := List.mem_singleton.mp member
      exact ⟨_, .find, rfl⟩
  | lookedUp reply =>
      obtain rfl := List.mem_singleton.mp member
      cases waiting
  | writing uuid =>
      obtain rfl := List.mem_singleton.mp member
      rw [answer_eq_serve fun email same => by cases same] at succeeds ⊢
      cases updated : s.server.users.updateData uuid credential.field (.string value) with
      | none => simp [serve, updated] at succeeds
      | some users =>
          simp only [serve, updated]
          exact ⟨.written uuid, .update updated, rfl⟩
  | written uuid =>
      obtain rfl := List.mem_singleton.mp member
      cases waiting
  | closed target => simp [chainTasks] at member

theorem chain_deliver (seen : Collection) (server : Server) (input : Input) {reply : Reply}
    {memory : Client} (answered : task.reply = some reply)
    (member : task ∈ chainTasks client user.email account value credential phase)
    (signedIn : SignedIn user account memory) :
    ∃ next, Advance platform user.email account value credential seen server phase next server
        { requests := (resume platform task.continuation reply input memory).requests } ∧
      chainTasks client user.email account value credential next =
        (resume platform task.continuation reply input memory).requests.map
          (fun issued => ⟨client, issued.1, issued.2, none⟩) ∧
      SignedIn user account (resume platform task.continuation reply input memory).client := by
  cases phase with
  | absent => simp [chainTasks] at member
  | authorizing =>
      obtain rfl := List.mem_singleton.mp member
      cases answered
  | authorized =>
      obtain rfl := List.mem_singleton.mp member
      obtain rfl := Option.some.inj answered
      have issued : (resume platform (credential.authContinuation account value) .done input
          memory).requests = [(.getUsers user.email, credential.lookupContinuation value)] := by
        cases credential <;>
          simp [resume, Credential.authContinuation, emailUpdated, passwordUpdated,
            UserController.lookUpCurrentUser, signedIn.currentUser, Credential.lookupContinuation]
      refine ⟨.lookingUp, issued ▸ .lookUp, by rw [issued]; rfl, ?_⟩
      cases credential with
      | email =>
          refine signedIn.resume rfl ?_
          simp only [resume, Credential.authContinuation, emailUpdated, Option.map_map]
          congr 1
          funext session
          simp only [Function.comp_apply]
          split <;> rfl
      | password => exact signedIn.resume rfl rfl
  | lookingUp =>
      obtain rfl := List.mem_singleton.mp member
      cases answered
  | lookedUp answer =>
      obtain rfl := List.mem_singleton.mp member
      obtain rfl := Option.some.inj answered
      have updates : (resume platform (credential.lookupContinuation value) answer input
          memory).requests =
            UserController.updateFetchedUser memory answer credential.field value := by
        cases credential <;> rfl
      have kept : SignedIn user account
          (resume platform (credential.lookupContinuation value) answer input memory).client := by
        cases credential <;> exact signedIn
      rw [updateFetchedUser_eq, show memory.queue = some account from signedIn.session] at updates
      cases fetched : fetchedUser answer with
      | none =>
          rw [fetched] at updates
          exact ⟨.closed none, updates ▸ .stop fetched, by rw [updates]; rfl, kept⟩
      | some found =>
          rw [fetched] at updates
          exact ⟨.writing found.uuid, updates ▸ .write fetched, by rw [updates]; rfl, kept⟩
  | writing uuid =>
      obtain rfl := List.mem_singleton.mp member
      cases answered
  | written uuid =>
      obtain rfl := List.mem_singleton.mp member
      exact ⟨.closed (some uuid), .close, rfl, signedIn⟩
  | closed target => simp [chainTasks] at member

end Chain

end MyMealPrep.Login
