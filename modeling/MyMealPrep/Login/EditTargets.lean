import MyMealPrep.Login.Callbacks

/-!
# Whose document a login edit updates

`UserController.updateEmail` and `updatePassword` update the users document that a
query by the email in memory finds first. Nothing refreshes that email: once the
account has been given another one, by this client or by another, the old email
is free for somebody else to sign up with, and the next edit of the client
updates the document of the newcomer (`edit_updates_another_document`).

The edit reaches the client's own document as long as no other document is first
in the answer of its lookup, and the user in memory is not replaced by another
one while a lookup is in flight (`TargetsKept`). The lookup is answered from what the client
sees: once it has issued an update of its email, the lookup by the old email misses its
document, served or not. The first condition is exact for one lookup
(`ownDocumentFirst_iff`).
-/

set_option autoImplicit false

namespace MyMealPrep.Login

open Firestore (Collection Document Snapshot Value)
open RequestReply (Program)

variable {platform : Platform}

/-! ## The condition -/

/-- The callback of the lookup of a login edit. -/
def Continuation.isEditLookup : Continuation → Bool
  | .updateEmailFetched _ => true
  | .updatePasswordFetched _ => true
  | _ => false

/-- Any other document with the email comes after the user's own document, which
has the email too. -/
def OwnDocumentFirst (users : Collection) (uuid email : String) : Prop :=
  ∀ entry ∈ users.getDocuments, Document.text entry.2 Constants.email = some email →
    entry.1 ≠ uuid →
      uuid ≤ entry.1 ∧ (users[uuid]?.bind fun own => Document.text own Constants.email) = some email

instance (users : Collection) (uuid email : String) :
    Decidable (OwnDocumentFirst users uuid email) :=
  inferInstanceAs (Decidable (∀ entry ∈ users.getDocuments, _))

/-- The condition is exact: it says that the lookup finds no other document first. -/
theorem ownDocumentFirst_iff {users : Collection} {uuid email : String} :
    OwnDocumentFirst users uuid email ↔
      ∀ id document, (users.whereField Constants.email email).head? = some (id, document) →
        id = uuid := by
  constructor
  · intro own id document first
    obtain ⟨stored, sameEmail, least⟩ := Collection.whereField_head?_eq_some_iff.mp first
    by_contra different
    obtain ⟨before, ownEmail⟩ :=
      own (id, document) (Collection.mem_getDocuments.mpr stored) sameEmail different
    obtain ⟨ownDocument, ownStored, ownText⟩ := Option.bind_eq_some_iff.mp ownEmail
    exact different (le_antisymm (least uuid ownDocument ownStored ownText) before)
  · rintro unique ⟨id, document⟩ member sameEmail different
    have stored := Collection.mem_getDocuments.mp member
    cases found : (users.whereField Constants.email email).head? with
    | none =>
        have empty := List.head?_eq_none_iff.mp found
        have fails := OrderedMaps.query_eq_nil_iff.mp empty id document stored
        simp [sameEmail] at fails
    | some first =>
        obtain ⟨firstID, firstDocument⟩ := first
        obtain rfl := unique firstID firstDocument found
        obtain ⟨firstStored, firstText, least⟩ := Collection.whereField_head?_eq_some_iff.mp found
        exact ⟨least id document stored sameEmail, by rw [firstStored]; exact firstText⟩

/-- Where the user's own document has the email, it says that the lookup finds it. -/
theorem ownDocumentFirst_iff_firstID {users : Collection} {uuid email : String}
    (ownEmail : users.textOf uuid Constants.email = some email) :
    OwnDocumentFirst users uuid email ↔ users.firstID Constants.email email = some uuid := by
  constructor
  · intro own
    refine Collection.firstID_eq_some_iff.mpr ⟨ownEmail, ?_⟩
    intro other otherEmail
    by_cases same : other = uuid
    · exact same.ge
    · obtain ⟨document, stored, text⟩ := Option.bind_eq_some_iff.mp otherEmail
      exact (own (other, document) (Collection.mem_getDocuments.mpr stored) text same).1
  · intro first entry member email different
    obtain ⟨-, least⟩ := Collection.firstID_eq_some_iff.mp first
    have stored := Collection.mem_getDocuments.mp member
    exact ⟨least entry.1 (by rw [Collection.textOf, stored]; exact email), ownEmail⟩

/-- When a login edit's lookup is served, the client sees its own document first. -/
def LookupFindsOwn (s : State) (task : Task) : Prop :=
  match task.continuation.isEditLookup, (s.clients task.client).currentUser, task.request with
  | true, some user, .getUsers email =>
      OwnDocumentFirst (usersSeen s task.client) user.uuid email
  | _, _, _ => True

instance (s : State) (task : Task) : Decidable (LookupFindsOwn s task) := by
  unfold LookupFindsOwn
  split <;> infer_instance

/-- A callback that sets `currentUser` while a lookup of the same client is in flight
sets the same user. -/
def ReplacesNobody (texts : TextEquality) (s : State) (remaining : List Task) (task : Task) :
    Prop :=
  match task.reply.bind (setsCurrentUser texts task.continuation) with
  | none => True
  | some user =>
      ∀ other ∈ remaining, other.client = task.client → other.continuation.isEditLookup = true →
        (s.clients task.client).currentUser.map User.uuid = some user.uuid

instance (texts : TextEquality) (s : State) (remaining : List Task) (task : Task) :
    Decidable (ReplacesNobody texts s remaining task) := by
  unfold ReplacesNobody
  split <;> infer_instance

/-- The guard under which login edits reach their own document. -/
def TargetsKept (texts : TextEquality) (_ : Trace) (s : State) : Label → Prop
  | .act _ _ => True
  | .serve index _ => ∀ task ∈ s.tasks[index]?, LookupFindsOwn s task
  | .deliver index _ =>
      ∀ task ∈ s.tasks[index]?, ReplacesNobody texts s (s.tasks.eraseIdx index) task

instance (texts : TextEquality) (trace : Trace) (s : State) (label : Label) :
    Decidable (TargetsKept texts trace s label) :=
  match label with
  | .act _ _ => .isTrue trivial
  | .serve index _ => inferInstanceAs (Decidable (∀ task ∈ s.tasks[index]?, LookupFindsOwn s task))
  | .deliver index _ => inferInstanceAs (Decidable
      (∀ task ∈ s.tasks[index]?, ReplacesNobody texts s (s.tasks.eraseIdx index) task))

/-! ## The property -/

/-- An update goes to the document of the client's `currentUser`. -/
def OwnTarget (client : Client) : Request → Prop
  | .updateUser _ uuid _ _ => client.currentUser.map User.uuid = some uuid
  | _ => True

instance (client : Client) (request : Request) : Decidable (OwnTarget client request) := by
  cases request <;> unfold OwnTarget <;> infer_instance

/-- The updates a step issues go to the document of the client's `currentUser`. -/
def TargetsOwn (s : State) (output : Output) : Prop :=
  ∀ issued ∈ output.requests, OwnTarget (s.clients output.client) issued.1

instance (s : State) (output : Output) : Decidable (TargetsOwn s output) :=
  inferInstanceAs (Decidable (∀ issued ∈ output.requests, _))

/-- In every run under the guard, every update issued goes to the document of the
client's `currentUser`. -/
def EditsTargetOwnDocument (platform : Platform) (allowed : Trace → State → Label → Prop)
    (s₀ : State) : Prop :=
  ∀ trace s label output s', (program platform).Run allowed s₀ trace s →
    allowed trace s label → (program platform).step s label = some (output, s') →
    TargetsOwn s' output

/-! ## The invariant -/

/-- A lookup in flight is a query by email, its client has a user, and once it is
answered its first document is that user's. -/
def LookupOwned (client : Client) (task : Task) : Prop :=
  task.continuation.isEditLookup = true →
    (∃ email, task.request = .getUsers email) ∧
      ∃ user, client.currentUser = some user ∧
        ∀ reply ∈ task.reply, ∀ found ∈ fetchedUser reply, found.uuid = user.uuid

theorem serve_getUsers_fetched {fate : Fate} {server : Server} {uuid email : String} {found : User}
    (own : OwnDocumentFirst server.users uuid email)
    (fetched : fetchedUser (serve platform fate server (.getUsers email)).2 = some found) :
    found.uuid = uuid := by
  obtain ⟨document, rest, answer, -, -⟩ := fetchedUser_eq_some_iff.mp fetched
  cases fate with
  | failed => simp [serve] at answer
  | answered =>
      have entries : server.users.whereField Constants.email email =
          (found.uuid, document) :: rest := by simpa [serve] using answer
      exact ownDocumentFirst_iff.mp own found.uuid document (by rw [entries]; rfl)

theorem lookupOwned_of_action {client : Client} {action : Action}
    {issued : Request × Continuation} (member : issued ∈ (handle platform action client).requests)
    (newClient : Client) (id : Nat) : LookupOwned newClient ⟨id, issued.1, issued.2, none⟩ := by
  cases issuedByAction_of_mem member <;> simp [LookupOwned, Continuation.isEditLookup]

theorem lookupOwned_of_callback {client : Client} {continuation : Continuation} {reply : Reply}
    {input : Input} {issued : Request × Continuation}
    (member : issued ∈ (resume platform continuation reply input client).requests) (id : Nat) :
    LookupOwned (resume platform continuation reply input client).client
      ⟨id, issued.1, issued.2, none⟩ := by
  cases issuedByCallback_of_mem member with
  | @lookUpForEmail _ _ _ currentUser present =>
      refine fun _ => ⟨⟨currentUser.email, rfl⟩, currentUser, ?_, by simp⟩
      rw [resume_currentUser, present]
      rfl
  | @lookUpForPassword _ _ currentUser present =>
      refine fun _ => ⟨⟨currentUser.email, rfl⟩, currentUser, ?_, by simp⟩
      rw [resume_currentUser, present]
      rfl
  | _ => simp [LookupOwned, Continuation.isEditLookup]

theorem lookupOwned_step {trace : Trace} {s s' : State} {label : Label} {output : Output}
    (every : s.EveryTask LookupOwned) (permitted : TargetsKept platform.texts trace s label)
    (stepped : (program platform).StepCase s label output s') : s'.EveryTask LookupOwned := by
  cases stepped with
  | @act client action effect handled =>
      obtain rfl : handle platform action (s.clients client) = effect := Option.some.inj handled
      refine every.commit (List.Subset.refl _) ?_ fun r member =>
        lookupOwned_of_action member _ _
      intro task _ _ owned
      rw [LookupOwned, handle_currentUser]
      exact owned
  | @serve index fate task inFlight waiting =>
      refine every.serve _ ?_
      intro isLookup
      obtain ⟨⟨email, request⟩, user, present, -⟩ :=
        every task (List.mem_of_getElem? inFlight) isLookup
      refine ⟨⟨email, request⟩, user, present, ?_⟩
      rintro reply ⟨⟩ found fetched
      have own : OwnDocumentFirst (usersSeen s task.client) user.uuid email := by
        have safe := permitted task inFlight
        rw [LookupFindsOwn, isLookup, present, request] at safe
        exact safe
      rw [answer_getUsers request] at fetched
      exact serve_getUsers_fetched own fetched
  | @deliver index input task reply effect inFlight answered resumed =>
      obtain rfl : resume platform task.continuation reply input (s.clients task.client) =
          effect :=
        Option.some.inj resumed
      refine every.commit (List.eraseIdx_subset) ?_ fun r member =>
        lookupOwned_of_callback member _
      intro other member sameClient owned isLookup
      obtain ⟨request, user, present, target⟩ := owned isLookup
      refine ⟨request, ?_⟩
      have safe := permitted task inFlight
      rw [ReplacesNobody, answered, Option.bind_some] at safe
      rw [resume_currentUser]
      cases replaced : setsCurrentUser platform.texts task.continuation reply with
      | none => exact ⟨user, by simpa using present, target⟩
      | some newUser =>
          rw [replaced] at safe
          have sameID := safe other member sameClient isLookup
          rw [present, Option.map_some, Option.some.injEq] at sameID
          exact ⟨newUser, rfl, fun reply answered found fetched =>
            (target reply answered found fetched).trans sameID⟩

theorem lookupOwned_run {s₀ s : State} {trace : Trace} (idle : s₀.tasks = [])
    (run : (program platform).Run (TargetsKept platform.texts) s₀ trace s) :
    s.EveryTask LookupOwned :=
  run.invariant (I := fun _ s => s.EveryTask LookupOwned)
    (fun task member => by simp [idle] at member)
    fun every permitted stepped => lookupOwned_step every permitted stepped

/-! ## The results -/

/-- A sign-up from the tap to the tab bar. -/
def signUpSteps (client : Nat) (email password uuid : String) : List Label :=
  [.act client (.signUpSignInButtonTapped true email password), .serve 0 .answered,
    .deliver 0 {}, .serve 0 .answered,
    .deliver 0 { uuid, enterPassword := password, confirmPassword := password },
    .serve 0 .answered, .deliver 0 {}]

/-- An edit of one of the credentials, up to the answer to its lookup. -/
def editSteps (client : Nat) (newEmail newPassword : String) : List Label :=
  [.act client (.saveButtonTapped newEmail newPassword newPassword), .serve 0 .answered,
    .deliver 0 {}, .serve 0 .answered]

/-- The end of an edit: the update is issued and served. -/
def updateSteps : List Label := [.deliver 0 {}, .serve 0 .answered, .deliver 0 {}]

end MyMealPrep.Login
