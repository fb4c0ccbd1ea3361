import MyMealPrep.Login.Callbacks
import MyMealPrep.Login.LocalStore
import MyMealPrep.Machines.Following

/-!
# What a sign-up leaves behind

The query that looks for a user with the email and the write of the new user are
far apart, so two sign-ups may both find nobody. What keeps them apart is `Auth`:
it creates one account for an email, and only the attempt that got the account goes
on to store a user.

`Registered` is the invariant. A request in flight may hold an account: the one that
it has been answered with, or the one of the user that it is going to store. The
emails held are distinct, they have accounts, and no stored user has one of them.

So there is at most one users document for each email, and a sign-up that reached
the tab bar can be signed in to ever after (`signUps_register`).
-/

set_option autoImplicit false

namespace MyMealPrep.Login

open Firestore (Collection Document Snapshot Value)
open RequestReply (Program)

/-! ## The runs -/

/-- The account that a request in flight holds and no stored user has. -/
def heldAccount (task : Task) : Option Account :=
  match task.continuation, task.reply with
  | .userCreated email password, some (.account _) => some ⟨email, password⟩
  | .userStored user, none => some ⟨user.email, user.password⟩
  | _, _ => none

/-- The `uuid` of the user that a request in flight is going to store. -/
def storingUUID (task : Task) : Option String :=
  match task.continuation, task.reply with
  | .userStored user, none => some user.uuid
  | _, _ => none

/-- A callback that makes a user makes a UUID that no user has or is about to get. -/
def MakesFreshUUID (s : State) (task : Task) (uuid : String) : Prop :=
  match task.continuation with
  | .userCreated _ _ =>
      s.server.users[uuid]? = none ∧ ∀ other ∈ s.tasks, storingUUID other ≠ some uuid
  | _ => True

/-- The request creates an account. -/
def Request.createsAccount : Request → Bool
  | .createUser _ _ => true
  | _ => false

/-- Users sign up, sign in and log out. Every request is answered, except that an account may not
be created, and UUIDs are fresh. -/
def RequestsAnswered (_ : Trace) (s : State) : Label → Prop
  | .act _ (.saveButtonTapped _ _ _) => False
  | .act _ _ => True
  | .serve index fate =>
      fate = .answered ∨ ∀ task ∈ s.tasks[index]?, task.request.createsAccount = true
  | .deliver index input => ∀ task ∈ s.tasks[index]?, MakesFreshUUID s task input.uuid

/-! ## The invariant -/

/-- The document of a user. -/
def userDocument (user : User) : Document :=
  Value.storedFields (UserController.userDict user)

@[simp] theorem userDocument_email (user : User) :
    Document.text (userDocument user) "email" = some user.email := by
  simp [userDocument, UserController.userDict, Value.storedFields_eq_map, Document.text,
    Document.field, Constants.email, Value.asString]

@[simp] theorem userDocument_password (user : User) :
    Document.text (userDocument user) "password" = some user.password := by
  simp [userDocument, UserController.userDict, Value.storedFields_eq_map, Document.text,
    Document.field, List.lookup_cons, Constants.email, Constants.password, Value.asString]

/-- A request in flight belongs to its callback. The password of a sign-up is not empty, and a
user that is stored has a valid email. -/
def Shaped (task : Task) : Prop :=
  match task.continuation with
  | .viewDidLoad => ∃ email, task.request = .getUsers email
  | .signInFetched email _ => task.request = .getUsers email
  | .signUpFetched email password => task.request = .getUsers email ∧ password ≠ ""
  | .signedIn email => ∃ password, task.request = .signIn email password
  | .userCreated email password => task.request = .createUser email password ∧ password ≠ ""
  | .userStored user =>
      (∃ queue, task.request = .setUser queue user.uuid (UserController.userDict user)) ∧
        isValidEmail user.email = true ∧ user.password ≠ ""
  | _ => False

/-- The user can sign in: its document is stored, and its account exists. -/
structure Enrolled (server : Server) (user : User) : Prop where
  document : server.users[user.uuid]? = some (userDocument user)
  account : ⟨user.email, user.password⟩ ∈ server.auth.list

/-- Every users document is that of a user with an account, one for each email, and so will
be those that requests in flight are going to store. -/
structure Registered (server : Server) (tasks : List Task) : Prop where
  shaped : ∀ task ∈ tasks, Shaped task
  documents : ∀ id document, server.users[id]? = some document →
    ∃ user, user.uuid = id ∧ document = userDocument user ∧
      ⟨user.email, user.password⟩ ∈ server.auth.list
  unique : ∀ email first second, server.users.textOf first Constants.email = some email →
    server.users.textOf second Constants.email = some email → first = second
  accounts : ∀ account ∈ tasks.filterMap heldAccount, account ∈ server.auth.list
  unstored : ∀ account ∈ tasks.filterMap heldAccount, ∀ id,
    server.users.textOf id Constants.email ≠ some account.email
  held : ((tasks.filterMap heldAccount).map Account.email).Nodup
  unused : ∀ uuid ∈ tasks.filterMap storingUUID, server.users[uuid]? = none
  uuids : (tasks.filterMap storingUUID).Nodup
  stored : ∀ task ∈ tasks, ∀ user, task.continuation = .userStored user →
    task.reply ≠ none → Enrolled server user

section

variable {platform : Platform} {server : Server} {tasks others : List Task} {task : Task}

/-- The order of the requests in flight does not matter. -/
theorem Registered.perm (registered : Registered server tasks) (arranged : tasks.Perm others) :
    Registered server others where
  shaped task member := registered.shaped task (arranged.mem_iff.mpr member)
  documents := registered.documents
  unique := registered.unique
  accounts account member :=
    registered.accounts account ((arranged.filterMap heldAccount).mem_iff.mpr member)
  unstored account member :=
    registered.unstored account ((arranged.filterMap heldAccount).mem_iff.mpr member)
  held := ((arranged.filterMap heldAccount).map Account.email).nodup_iff.mp registered.held
  unused uuid member :=
    registered.unused uuid ((arranged.filterMap storingUUID).mem_iff.mpr member)
  uuids := (arranged.filterMap storingUUID).nodup_iff.mp registered.uuids
  stored task member := registered.stored task (arranged.mem_iff.mpr member)

/-- A request that holds nothing and has stored nothing. -/
structure HoldsNothing (task : Task) : Prop where
  shaped : Shaped task
  account : heldAccount task = none
  uuid : storingUUID task = none
  stores : ∀ user, task.continuation = .userStored user → task.reply = none

theorem Registered.cons_iff (nothing : HoldsNothing task) :
    Registered server (task :: tasks) ↔ Registered server tasks := by
  have accounts : (task :: tasks).filterMap heldAccount = tasks.filterMap heldAccount :=
    List.filterMap_cons_none nothing.account
  have uuids : (task :: tasks).filterMap storingUUID = tasks.filterMap storingUUID :=
    List.filterMap_cons_none nothing.uuid
  constructor
  · rintro ⟨shaped, documents, unique, held, unstored, distinct, unused, fresh, stored⟩
    rw [accounts] at held unstored distinct
    rw [uuids] at unused fresh
    exact ⟨fun other member => shaped other (List.mem_cons_of_mem _ member), documents, unique,
      held, unstored, distinct, unused, fresh,
      fun other member => stored other (List.mem_cons_of_mem _ member)⟩
  · rintro ⟨shaped, documents, unique, held, unstored, distinct, unused, fresh, stored⟩
    refine ⟨List.forall_mem_cons.mpr ⟨nothing.shaped, shaped⟩, documents, unique, ?_, ?_, ?_, ?_,
      ?_, List.forall_mem_cons.mpr ⟨?_, stored⟩⟩
    · rwa [accounts]
    · rwa [accounts]
    · rwa [accounts]
    · rwa [uuids]
    · rwa [uuids]
    · exact fun user isStore answered => absurd (nothing.stores user isStore) answered

theorem Registered.append (registered : Registered server tasks) {issued : List Task}
    (nothing : ∀ task ∈ issued, HoldsNothing task) : Registered server (tasks ++ issued) := by
  induction issued generalizing tasks with
  | nil => simpa using registered
  | cons first rest ih =>
      obtain ⟨firstNothing, restNothing⟩ := List.forall_mem_cons.mp nothing
      refine ((Registered.cons_iff firstNothing).mpr (ih registered restNothing)).perm ?_
      exact List.perm_middle.symm

/-- A request in flight goes, with what it holds. -/
theorem Registered.of_cons (registered : Registered server (task :: tasks)) :
    Registered server tasks := by
  have accounts : (tasks.filterMap heldAccount).Sublist ((task :: tasks).filterMap heldAccount) :=
    (List.sublist_cons_self task tasks).filterMap heldAccount
  have uuids : (tasks.filterMap storingUUID).Sublist ((task :: tasks).filterMap storingUUID) :=
    (List.sublist_cons_self task tasks).filterMap storingUUID
  exact
    { shaped := fun other member => registered.shaped other (List.mem_cons_of_mem _ member)
      documents := registered.documents
      unique := registered.unique
      accounts := fun account member => registered.accounts account (accounts.subset member)
      unstored := fun account member => registered.unstored account (accounts.subset member)
      held := registered.held.sublist (accounts.map Account.email)
      unused := fun uuid member => registered.unused uuid (uuids.subset member)
      uuids := registered.uuids.sublist uuids
      stored := fun other member => registered.stored other (List.mem_cons_of_mem _ member) }

/-! ## What the server does -/

theorem Enrolled.createUser {user : User} (enrolled : Enrolled server user)
    {email password : String} {auth : Accounts} {index : Nat}
    (created : platform.auth.createUser server.auth email password = some (auth, index)) :
    Enrolled { server with auth } user := by
  refine ⟨enrolled.document, ?_⟩
  rw [(platform.auth.createUser_list created).1]
  exact List.mem_append_left _ enrolled.account

/-- An account that is created is held by the request that created it. -/
theorem Registered.createUser (registered : Registered server tasks) {email password : String}
    {auth : Accounts} {index : Nat}
    (created : platform.auth.createUser server.auth email password = some (auth, index))
    (shape : Shaped task) (continuation : task.continuation = .userCreated email password) :
    Registered { server with auth } ({ task with reply := some (.account index) } :: tasks) := by
  have unknown := platform.auth.unused_of_createUser created
  have known := (platform.auth.createUser_list created).1
  have holds : heldAccount { task with reply := some (.account index) } =
      some ⟨email, password⟩ := by
    simp [heldAccount, continuation]
  have accounts := List.filterMap_cons_some (l := tasks) holds
  have stores : storingUUID { task with reply := some (.account index) } = none := by
    simp [storingUUID, continuation]
  have uuids := List.filterMap_cons_none (l := tasks) stores
  refine ⟨List.forall_mem_cons.mpr ⟨by simpa [Shaped, continuation] using shape,
    registered.shaped⟩, ?_, registered.unique, ?_, ?_, ?_, ?_, ?_,
    List.forall_mem_cons.mpr ⟨by simp [continuation], ?_⟩⟩
  · intro id document stored
    obtain ⟨user, sameID, isUser, member⟩ := registered.documents id document stored
    exact ⟨user, sameID, isUser, known ▸ List.mem_append_left _ member⟩
  · rw [accounts, List.forall_mem_cons, known]
    exact ⟨by simp, fun account member => List.mem_append_left _
      (registered.accounts account member)⟩
  · rw [accounts, List.forall_mem_cons]
    refine ⟨fun id sameEmail => ?_, registered.unstored⟩
    obtain ⟨document, stored, text⟩ := Option.bind_eq_some_iff.mp sameEmail
    obtain ⟨user, -, rfl, member⟩ := registered.documents id document stored
    rw [Constants.email, userDocument_email] at text
    exact unknown (List.mem_map.mpr ⟨_, member, Option.some.inj text⟩)
  · rw [accounts, List.map_cons, List.nodup_cons]
    refine ⟨fun held => unknown ?_, registered.held⟩
    obtain ⟨account, member, same⟩ := List.mem_map.mp held
    exact List.mem_map.mpr ⟨account, registered.accounts account member, same⟩
  · rw [uuids]
    exact registered.unused
  · rw [uuids]
    exact registered.uuids
  · intro other member user isStore answered
    exact (registered.stored other member user isStore answered).createUser created

/-- What a request holds that is going to store a user: an account whose email no stored user and
no other request has, and a UUID that is free. -/
structure Holds (server : Server) (tasks : List Task) (user : User) : Prop where
  account : ⟨user.email, user.password⟩ ∈ server.auth.list
  unstored : ∀ id, server.users.textOf id Constants.email ≠ some user.email
  apart : user.email ∉ (tasks.filterMap heldAccount).map Account.email
  unused : server.users[user.uuid]? = none
  fresh : user.uuid ∉ tasks.filterMap storingUUID

theorem Registered.holds (registered : Registered server (task :: tasks)) {user : User}
    (waiting : task.reply = none) (continuation : task.continuation = .userStored user) :
    Holds server tasks user := by
  have held : heldAccount task = some ⟨user.email, user.password⟩ := by
    simp [heldAccount, continuation, waiting]
  have storing : storingUUID task = some user.uuid := by
    simp [storingUUID, continuation, waiting]
  obtain ⟨-, -, -, accounts, unstored, distinct, unused, fresh, -⟩ := registered
  rw [List.filterMap_cons_some held, List.forall_mem_cons] at accounts unstored
  rw [List.filterMap_cons_some held, List.map_cons, List.nodup_cons] at distinct
  rw [List.filterMap_cons_some storing, List.forall_mem_cons] at unused
  rw [List.filterMap_cons_some storing, List.nodup_cons] at fresh
  exact ⟨accounts.1, unstored.1, distinct.1, unused.1, fresh.1⟩

theorem textOf_setUser (users : Collection) (user : User) (id : String) :
    (users.setData user.uuid (UserController.userDict user)).textOf id Constants.email =
      if user.uuid = id then some user.email else users.textOf id Constants.email := by
  rw [Collection.textOf, Collection.setData_get]
  split
  · exact userDocument_email user
  · rfl

/-- The emails stay distinct when the one written is new. -/
theorem unique_setUser {users : Collection} {user : User}
    (unique : ∀ email first second, users.textOf first Constants.email = some email →
      users.textOf second Constants.email = some email → first = second)
    (unstored : ∀ id, users.textOf id Constants.email ≠ some user.email)
    (email first second : String)
    (firstText : (users.setData user.uuid (UserController.userDict user)).textOf first
      Constants.email = some email)
    (secondText : (users.setData user.uuid (UserController.userDict user)).textOf second
      Constants.email = some email) : first = second := by
  rw [textOf_setUser] at firstText secondText
  split at firstText
  · rename_i isFirst
    split at secondText
    · rename_i isSecond
      exact isFirst.symm.trans isSecond
    · rw [← Option.some.inj firstText] at secondText
      exact absurd secondText (unstored second)
  · split at secondText
    · rw [← Option.some.inj secondText] at firstText
      exact absurd firstText (unstored first)
    · exact unique email first second firstText secondText

theorem Holds.enrolled {user : User} (holds : Holds server tasks user) :
    Enrolled
      { server with users := server.users.setData user.uuid (UserController.userDict user) }
      user := by
  refine ⟨?_, holds.account⟩
  rw [Collection.setData_get, if_pos rfl]
  rfl

theorem Enrolled.setUser {user other : User} (enrolled : Enrolled server other)
    (unused : server.users[user.uuid]? = none) :
    Enrolled
      { server with users := server.users.setData user.uuid (UserController.userDict user) }
      other := by
  have different : user.uuid ≠ other.uuid := by
    intro same
    rw [same, enrolled.document] at unused
    cases unused
  refine ⟨?_, enrolled.account⟩
  rw [Collection.setData_get, if_neg different]
  exact enrolled.document

/-- A user that is written is stored with the account that the request held. -/
theorem Registered.setUser (registered : Registered server (task :: tasks)) {user : User}
    (waiting : task.reply = none) (continuation : task.continuation = .userStored user) :
    Registered
      { server with
        users := server.users.setData user.uuid (UserController.userDict user) }
      ({ task with reply := some .done } :: tasks) := by
  have holds := registered.holds waiting continuation
  have rest := registered.of_cons
  have noAccount : heldAccount { task with reply := some .done } = none := by
    simp [heldAccount, continuation]
  have noUUID : storingUUID { task with reply := some .done } = none := by
    simp [storingUUID, continuation]
  have accounts := List.filterMap_cons_none (l := tasks) noAccount
  have uuids := List.filterMap_cons_none (l := tasks) noUUID
  have shape := registered.shaped task List.mem_cons_self
  refine ⟨List.forall_mem_cons.mpr ⟨by simpa [Shaped, continuation] using shape, rest.shaped⟩,
    ?_, unique_setUser registered.unique holds.unstored, ?_, ?_, ?_, ?_, ?_,
    List.forall_mem_cons.mpr ⟨?_, ?_⟩⟩
  · intro id document stored
    rw [Collection.setData_get] at stored
    split at stored
    · rename_i same
      exact ⟨user, same, (Option.some.inj stored).symm, holds.account⟩
    · exact registered.documents id document stored
  · rw [accounts]
    exact rest.accounts
  · rw [accounts]
    intro account member id sameEmail
    rw [textOf_setUser] at sameEmail
    split at sameEmail
    · refine holds.apart (List.mem_map.mpr ⟨account, member, ?_⟩)
      exact (Option.some.inj sameEmail).symm
    · exact rest.unstored account member id sameEmail
  · rw [accounts]
    exact rest.held
  · rw [uuids]
    intro uuid member
    have different : user.uuid ≠ uuid := fun same => holds.fresh (same ▸ member)
    rw [Collection.setData_get, if_neg different]
    exact rest.unused uuid member
  · rw [uuids]
    exact rest.uuids
  · intro other isStore _
    obtain rfl : user = other := by simpa [continuation] using isStore
    exact holds.enrolled
  · intro other member another isStore answered
    exact (rest.stored other member another isStore answered).setUser holds.unused

/-! ## What a callback hands over -/

/-- The user made for an account takes the account over from the request that created it. -/
theorem Registered.handOver (registered : Registered server (task :: tasks))
    (client : Nat) (queue : Option Nat) {email password uuid : String} {account : Nat}
    (continuation : task.continuation = .userCreated email password)
    (answered : task.reply = some (.account account)) (validEmail : isValidEmail email = true)
    (absent : server.users[uuid]? = none)
    (unstored : ∀ other ∈ tasks, storingUUID other ≠ some uuid) :
    Registered server
      (⟨client, .setUser queue uuid (UserController.userDict ⟨email, password, uuid⟩),
        .userStored ⟨email, password, uuid⟩, none⟩ :: tasks) := by
  have held : heldAccount task = some ⟨email, password⟩ := by
    simp [heldAccount, continuation, answered]
  have heldBefore := List.filterMap_cons_some (l := tasks) held
  have typed : password ≠ "" := by
    have shape := registered.shaped task List.mem_cons_self
    rw [Shaped, continuation] at shape
    exact shape.2
  have rest := registered.of_cons
  have holding := registered.accounts
  have free := registered.unstored
  have distinct := registered.held
  rw [heldBefore] at holding free distinct
  exact
    { shaped := List.forall_mem_cons.mpr ⟨⟨⟨queue, rfl⟩, validEmail, typed⟩, rest.shaped⟩
      documents := rest.documents
      unique := rest.unique
      accounts := holding
      unstored := free
      held := distinct
      unused := List.forall_mem_cons.mpr ⟨absent, rest.unused⟩
      uuids := by
        refine List.nodup_cons.mpr ⟨fun member => ?_, rest.uuids⟩
        obtain ⟨other, inFlight, storing⟩ := List.mem_filterMap.mp member
        exact unstored other inFlight storing
      stored := List.forall_mem_cons.mpr ⟨by simp, rest.stored⟩ }

end

/-- A created account goes on to a user with a valid email, or no further. -/
theorem userCreated_requests (platform : Platform) (email password : String) (reply : Reply)
    (input : Input) (client : Client) :
    (resume platform (.userCreated email password) reply input client).requests = [] ∨
    ∃ account, reply = .account account ∧ isValidEmail email = true ∧
      (resume platform (.userCreated email password) reply input client).requests =
        [(.setUser (some account) input.uuid
            (UserController.userDict ⟨email, password, input.uuid⟩),
          .userStored ⟨email, password, input.uuid⟩)] := by
  cases reply with
  | account index =>
      simp only [resume, userCreated]
      split
      · rename_i validEmail
        split
        · split
          · exact .inr ⟨index, rfl, validEmail, rfl⟩
          · exact .inl rfl
        · exact .inl rfl
      · exact .inl rfl
  | _ => exact .inl rfl

/-! ## Steps -/

section

variable {platform : Platform} {trace : Trace} {s s' : State} {label : Label} {output : Output}

theorem holdsNothing_of_action {client : Client} {action : Action}
    (login : ∀ newEmail newPassword reEnter,
      action ≠ .saveButtonTapped newEmail newPassword reEnter)
    {issued : Request × Continuation} (member : issued ∈ (handle platform action client).requests)
    (id : Nat) : HoldsNothing ⟨id, issued.1, issued.2, none⟩ := by
  cases issuedByAction_of_mem member with
  | viewDidLoad signedIn => exact ⟨⟨_, rfl⟩, rfl, rfl, by simp⟩
  | signIn => exact ⟨rfl, rfl, rfl, by simp⟩
  | signUp typed => exact ⟨⟨rfl, typed⟩, rfl, rfl, by simp⟩
  | updateEmail signedIn => exact absurd rfl (login _ _ _)
  | updatePassword signedIn => exact absurd rfl (login _ _ _)

/-- What the callbacks of the login issue holds nothing, but for the write of a user. -/
theorem holdsNothing_of_callback {task : Task} (shaped : Shaped task)
    (created : ∀ email password, task.continuation ≠ .userCreated email password) {reply : Reply}
    {input : Input} {client : Client} {issued : Request × Continuation}
    (member : issued ∈ (resume platform task.continuation reply input client).requests) (id : Nat) :
    HoldsNothing ⟨id, issued.1, issued.2, none⟩ := by
  obtain ⟨_, request, continuation, _⟩ := task
  cases issuedByCallback_of_mem member with
  | signIn accepted => exact ⟨⟨_, rfl⟩, rfl, rfl, by simp⟩
  | createUser unknown => exact ⟨⟨rfl, shaped.2⟩, rfl, rfl, by simp⟩
  | setUser validEmail validPassword confirmed => exact absurd rfl (created _ _)
  | lookUpForEmail present => exact shaped.elim
  | lookUpForPassword present => exact shaped.elim
  | updateEmail found => exact shaped.elim
  | updatePassword found => exact shaped.elim

/-- Only the callback that has a user stored holds its UUID. -/
theorem storingUUID_eq_none {task : Task}
    (stored : ∀ user, task.continuation ≠ .userStored user) : storingUUID task = none := by
  rw [storingUUID]
  split
  · rename_i isStored _
    exact absurd isStored (stored _)
  · rfl

theorem HoldsNothing.serve {task : Task} (nothing : HoldsNothing task) {reply : Reply}
    (created : ∀ email password, task.continuation ≠ .userCreated email password)
    (stored : ∀ user, task.continuation ≠ .userStored user) :
    HoldsNothing { task with reply := some reply } := by
  refine ⟨nothing.shaped, ?_, storingUUID_eq_none stored,
    fun user isStore => absurd isStore (stored user)⟩
  rw [heldAccount]
  split
  · rename_i isCreated _
    exact absurd isCreated (created _ _)
  · rename_i isStored _
    exact absurd isStored (stored _)
  · rfl

/-- A request that waits holds nothing unless it stores a user. -/
theorem HoldsNothing.of_waiting {task : Task} (shaped : Shaped task) (waiting : task.reply = none)
    (stored : ∀ user, task.continuation ≠ .userStored user) : HoldsNothing task := by
  refine ⟨shaped, ?_, storingUUID_eq_none stored,
    fun user isStore => absurd isStore (stored user)⟩
  rw [heldAccount, waiting]
  split
  · rename_i isAnswered
    cases isAnswered
  · rename_i isStored _
    exact absurd isStored (stored _)
  · rfl

theorem Registered.keep {server : Server} {task : Task} {others : List Task}
    (registered : Registered server (task :: others)) (waiting : task.reply = none)
    (created : ∀ email password, task.continuation ≠ .userCreated email password)
    (stored : ∀ user, task.continuation ≠ .userStored user)
    (reply : Reply) : Registered server ({ task with reply := some reply } :: others) := by
  have nothing := HoldsNothing.of_waiting (registered.shaped task List.mem_cons_self) waiting stored
  apply (Registered.cons_iff (nothing.serve created stored)).mpr
  exact (Registered.cons_iff nothing).mp registered

theorem Registered.serve {fate : Fate} {task : Task} {others : List Task}
    (registered : Registered s.server (task :: others)) (waiting : task.reply = none)
    (fares : fate = .answered ∨ task.request.createsAccount = true) :
    Registered (Login.serve platform fate s.server task.request).1
      ({ task with reply := some ((program platform).answer s fate task) } :: others) := by
  have shaped := registered.shaped task List.mem_cons_self
  obtain ⟨client, request, continuation, reply⟩ := task
  obtain rfl : reply = none := waiting
  cases continuation with
  | userCreated email password =>
      obtain ⟨rfl, typed⟩ :
        request = .createUser email password ∧ password ≠ "" := shaped
      have nothing : HoldsNothing ⟨client, .createUser email password,
          .userCreated email password, none⟩ := .of_waiting ⟨rfl, typed⟩ rfl (by simp)
      have rest := (Registered.cons_iff nothing).mp registered
      have refused : HoldsNothing ⟨client, .createUser email password,
          .userCreated email password, some .error⟩ := ⟨⟨rfl, typed⟩, rfl, rfl, by simp⟩
      rw [answer_eq_serve (by simp)]
      cases fate with
      | failed => exact (Registered.cons_iff refused).mpr rest
      | answered =>
          simp only [Login.serve]
          cases created : platform.auth.createUser s.server.auth email password with
          | none => exact (Registered.cons_iff refused).mpr rest
          | some added => exact Registered.createUser rest created nothing.shaped rfl
  | userStored user =>
      obtain ⟨queue, rfl⟩ := shaped.1
      obtain rfl := fares.resolve_right (by simp [Request.createsAccount])
      rw [answer_eq_serve (by simp)]
      exact Registered.setUser registered rfl rfl
  | viewDidLoad =>
      obtain ⟨email, rfl⟩ := shaped
      obtain rfl := fares.resolve_right (by simp [Request.createsAccount])
      exact registered.keep rfl (by simp) (by simp) _
  | signInFetched email password =>
      obtain rfl : request = .getUsers email := shaped
      obtain rfl := fares.resolve_right (by simp [Request.createsAccount])
      exact registered.keep rfl (by simp) (by simp) _
  | signUpFetched email password =>
      obtain rfl : request = .getUsers email := shaped.1
      obtain rfl := fares.resolve_right (by simp [Request.createsAccount])
      exact registered.keep rfl (by simp) (by simp) _
  | signedIn email =>
      obtain ⟨password, rfl⟩ := shaped
      obtain rfl := fares.resolve_right (by simp [Request.createsAccount])
      have keeps : (Login.serve platform .answered s.server (.signIn email password)).1 =
          s.server := by
        simp only [Login.serve]
        split <;> rfl
      rw [keeps]
      exact registered.keep rfl (by simp) (by simp) _
  | _ => exact shaped.elim

/-- **One step keeps the registrations.** -/
theorem registered_step (registered : Registered s.server s.tasks)
    (permitted : RequestsAnswered trace s label)
    (stepped : (program platform).StepCase s label output s') :
    Registered s'.server s'.tasks := by
  cases stepped with
  | @act client action effect handled =>
      obtain rfl : handle platform action (s.clients client) = effect := Option.some.inj handled
      have login : ∀ newEmail newPassword reEnter,
          action ≠ .saveButtonTapped newEmail newPassword reEnter := by
        rintro newEmail newPassword reEnter rfl
        exact permitted
      refine registered.append ?_
      intro task member
      obtain ⟨issued, requested, rfl⟩ := List.mem_map.mp member
      exact holdsNothing_of_action login requested client
  | @serve index fate task inFlight waiting =>
      have fares : fate = .answered ∨ task.request.createsAccount = true :=
        permitted.imp_right fun creates => creates task inFlight
      have arranged := RequestReply.State.perm_cons_eraseIdx inFlight
      exact ((registered.perm arranged).serve waiting fares).perm
        (RequestReply.State.perm_set _ inFlight arranged).symm
  | @deliver index input task reply effect inFlight answered resumed =>
      obtain rfl : resume platform task.continuation reply input (s.clients task.client) = effect :=
        Option.some.inj resumed
      have arrangedBefore := registered.perm (RequestReply.State.perm_cons_eraseIdx inFlight)
      have shaped := arrangedBefore.shaped task List.mem_cons_self
      by_cases created : ∃ email password, task.continuation = .userCreated email password
      · obtain ⟨email, password, isCreated⟩ := created
        rcases userCreated_requests platform email password reply input
            (s.clients task.client) with
          none | ⟨account, rfl, validEmail, issued⟩
        · simpa [isCreated, none] using arrangedBefore.of_cons
        · have fresh := permitted task inFlight
          rw [MakesFreshUUID, isCreated] at fresh
          have unstored : ∀ other ∈ s.tasks.eraseIdx index, storingUUID other ≠ some input.uuid :=
            fun other member => fresh.2 other (List.mem_of_mem_eraseIdx member)
          have handed := arrangedBefore.handOver task.client (some account) isCreated answered
            validEmail fresh.1 unstored
          rw [RequestReply.State.commit_tasks, RequestReply.State.commit_server, isCreated, issued]
          exact handed.perm (List.perm_append_singleton _ _).symm
      · refine arrangedBefore.of_cons.append ?_
        intro other member
        obtain ⟨issued, requested, rfl⟩ := List.mem_map.mp member
        refine holdsNothing_of_callback shaped ?_ requested task.client
        intro email password isCreated
        exact created ⟨email, password, isCreated⟩

theorem Enrolled.serve {server : Server} {user : User} (enrolled : Enrolled server user)
    {fate : Fate} {task : Task} (shaped : Shaped task) (waiting : task.reply = none)
    (unused : ∀ uuid, storingUUID task = some uuid → server.users[uuid]? = none) :
    Enrolled (Login.serve platform fate server task.request).1 user := by
  cases fate with
  | failed => exact enrolled
  | answered =>
      obtain ⟨client, request, continuation, reply⟩ := task
      obtain rfl : reply = none := waiting
      cases continuation with
      | userCreated email password =>
          obtain rfl : request = .createUser email password := shaped.1
          simp only [Login.serve]
          cases created : platform.auth.createUser server.auth email password with
          | none => exact enrolled
          | some added => exact enrolled.createUser created
      | userStored stored =>
          obtain ⟨queue, rfl⟩ := shaped.1
          exact enrolled.setUser (unused stored.uuid rfl)
      | viewDidLoad =>
          obtain ⟨email, rfl⟩ := shaped
          exact enrolled
      | signInFetched email password =>
          obtain rfl : request = .getUsers email := shaped
          exact enrolled
      | signUpFetched email password =>
          obtain rfl : request = .getUsers email := shaped.1
          exact enrolled
      | signedIn email =>
          obtain ⟨password, rfl⟩ := shaped
          simp only [Login.serve]
          split <;> exact enrolled
      | _ => exact shaped.elim

theorem enrolled_step {user : User} (enrolled : Enrolled s.server user)
    (registered : Registered s.server s.tasks)
    (stepped : (program platform).StepCase s label output s') : Enrolled s'.server user := by
  cases stepped with
  | act handled => exact enrolled
  | @serve index fate task inFlight waiting =>
      have member := List.mem_of_getElem? inFlight
      refine enrolled.serve (registered.shaped task member) waiting fun uuid storing => ?_
      exact registered.unused uuid (List.mem_filterMap.mpr ⟨task, member, storing⟩)
  | deliver inFlight answered resumed => exact enrolled

theorem registered_run (run : (program platform).Run RequestsAnswered fresh trace s) :
    Registered s.server s.tasks := by
  refine run.invariant (I := fun _ s => Registered s.server s.tasks) ?_
    fun registered permitted stepped => registered_step registered permitted stepped
  exact
    { shaped := by simp [fresh]
      documents := by simp [fresh]
      unique := by simp [fresh, Collection.textOf]
      accounts := by simp [fresh]
      unstored := by simp [fresh]
      held := by simp [fresh]
      unused := by simp [fresh]
      uuids := by simp [fresh]
      stored := by simp [fresh] }

end

/-! ## Signing in -/

section

variable {platform : Platform} {s : State} {user : User}

/-- The document of a user is the one that a query for the email finds first. -/
structure Found (users : Collection) (user : User) : Prop where
  document : users[user.uuid]? = some (userDocument user)
  alone : ∀ id, users.textOf id Constants.email = some user.email → id = user.uuid

/-- The only writes are those of new users. -/
theorem Shaped.stores {task : Task} (shaped : Shaped task) {queue : Option Nat}
    (queued : task.request.queue = some queue) :
    ∃ user queue, task.continuation = .userStored user ∧
      task.request = .setUser queue user.uuid (UserController.userDict user) := by
  obtain ⟨client, request, continuation, reply⟩ := task
  cases continuation with
  | userStored user =>
      obtain ⟨queue, rfl⟩ := shaped.1
      exact ⟨user, queue, rfl, rfl⟩
  | viewDidLoad =>
      obtain ⟨email, rfl⟩ := shaped
      cases queued
  | signInFetched email password =>
      obtain rfl : request = .getUsers email := shaped
      cases queued
  | signUpFetched email password =>
      obtain rfl : request = .getUsers email := shaped.1
      cases queued
  | signedIn email =>
      obtain ⟨password, rfl⟩ := shaped
      cases queued
  | userCreated email password =>
      obtain rfl : request = .createUser email password := shaped.1
      cases queued
  | _ => exact shaped.elim

/-- A client sees the document of a user that can sign in, whatever it has in flight: a user that it
is about to store has another email and another UUID. -/
theorem Enrolled.found (enrolled : Enrolled s.server user)
    (registered : Registered s.server s.tasks) (client : Nat) :
    Found (usersSeen s client) user := by
  have ownText : s.server.users.textOf user.uuid Constants.email = some user.email := by
    rw [Collection.textOf, enrolled.document]
    exact userDocument_email user
  have initial : Found s.server.users user :=
    ⟨enrolled.document, fun id text => registered.unique _ _ _ text ownText⟩
  refine localUsers_induction (P := fun users => Found users user) initial
    fun request waits queued users before => ?_
  obtain ⟨task, inFlight, rfl⟩ := List.mem_map.mp waits
  obtain ⟨member, ofClient⟩ := List.mem_filter.mp inFlight
  have waiting : task.reply = none :=
    Option.isNone_iff_eq_none.mp (Bool.and_eq_true_iff.mp ofClient).2
  obtain ⟨other, queue, continuation, request⟩ := (registered.shaped task member).stores queued
  obtain ⟨earlier, later, split⟩ := List.append_of_mem member
  have arranged : s.tasks.Perm (task :: (earlier ++ later)) := split ▸ List.perm_middle
  have holds := (registered.perm arranged).holds waiting continuation
  have differentEmail : other.email ≠ user.email := fun same =>
    holds.unstored user.uuid (ownText.trans (congrArg some same.symm))
  have differentID : other.uuid ≠ user.uuid := fun same => by
    have absent := holds.unused
    rw [same, enrolled.document] at absent
    cases absent
  rw [request, localWrite]
  refine ⟨?_, fun id text => before.alone id ?_⟩
  · rw [Collection.setData_get, if_neg differentID]
    exact before.document
  · rw [textOf_setUser] at text
    split at text
    · exact absurd (Option.some.inj text) differentEmail
    · exact text

/-- The query for the email of such a user finds that user. -/
theorem Found.fetchedUser {server : Server} (found : Found server.users user) :
    Login.fetchedUser (Login.serve platform .answered server (.getUsers user.email)).2 =
      some user := by
  have first : (server.users.whereField Constants.email user.email).head? =
      some (user.uuid, userDocument user) := by
    refine Collection.whereField_head?_eq_some_iff.mpr
      ⟨found.document, userDocument_email user, fun other document stored sameEmail => ?_⟩
    have otherText : server.users.textOf other Constants.email = some user.email := by
      rw [Collection.textOf, stored]
      exact sameEmail
    exact (found.alone other otherText).symm.le
  obtain ⟨rest, entries⟩ := List.head?_eq_some_iff.mp first
  refine fetchedUser_eq_some_iff.mpr ⟨userDocument user, rest, ?_, userDocument_email user,
    userDocument_password user⟩
  rw [Login.serve, entries]

theorem Enrolled.signIn {server : Server} (enrolled : Enrolled server user)
    (platform : Platform) :
    ∃ account, (Login.serve platform .answered server (.signIn user.email user.password)).2 =
      .account account := by
  obtain ⟨account, signsIn⟩ := platform.auth.exists_signIn enrolled.account
  exact ⟨account, by simp [Login.serve, signsIn]⟩

end

end MyMealPrep.Login
