import MyMealPrep.Login.EditChains
import MyMealPrep.Login.LocalStore

/-!
# What the chains of an edit do to the stores

`Editing` says what the phases of the two chains determine while an edit runs: the
requests in flight, the account, and every email and password in the users
collection. It holds in every run that follows a tap of the save button and whose
requests all succeed (`editing_run`).

Which document a chain updates depends on when its lookup is served. As long as
no update of an email has been issued, the lookup finds what it would have
found before the tap; once the client has issued the update of its own document's email, it
sees the new email there and the lookup misses the document (`TargetsFollow`). What the client
sees is `SeenFollows`.
-/

set_option autoImplicit false

namespace MyMealPrep.Login

open Firestore (Collection Document Snapshot Value)
open RequestReply (Program)

variable {platform : Platform}

/-! ## What a trace says about the lookups -/

/-- A request that updates the email of a document. -/
def isEmailUpdate : Request × Continuation → Bool
  | (.updateUser _ _ field _, _) => field = Constants.email
  | _ => false

/-- A served lookup for a change of the credential. -/
def isLookupOf (credential : Credential) : Option (Request × Continuation) → Bool
  | some (.getUsers _, .updateEmailFetched _) => credential = .email
  | some (.getUsers _, .updatePasswordFetched _) => credential = .password
  | _ => false

/-- An update of the email of a document has been issued. -/
def emailIssued : Trace → Bool
  | [] => false
  | (_, output) :: earlier => output.requests.any isEmailUpdate || emailIssued earlier

/-- A lookup of the credential was served after an update of the email of a document had been
issued. -/
def lookedUpLate (credential : Credential) : Trace → Bool
  | [] => false
  | (_, output) :: earlier =>
      (isLookupOf credential output.served && emailIssued earlier) ||
        lookedUpLate credential earlier

/-! ## What the phases determine -/

/-- An edit: the client, its user, its account, the texts typed for each credential,
and the server and the account as they were at the tap. The user's own document
has a password. -/
structure EditContext where
  client : Nat
  user : User
  account : Nat
  typed : Credential → String
  server : Server
  old : Account
  password : (server.users.textOf user.uuid Constants.password).isSome = true

namespace EditContext

variable (edit : EditContext)

/-- The lookup found the user's own document before the tap. -/
def FoundOwn : Prop :=
  edit.server.users.firstID Constants.email edit.user.email = some edit.user.uuid

/-- The account and the texts of the users collection. -/
structure StoresFollow (phases : Credential → Phase) (server : Server) : Prop where
  account : ∃ current, server.auth.list[edit.account]? = some current ∧
    ∀ credential : Credential, credential.ofAccount current =
      if (phases credential).isAuthorized then edit.typed credential
      else credential.ofAccount edit.old
  texts : ∀ uuid (credential : Credential), server.users.textOf uuid credential.field =
    if (phases credential).wrote uuid then some (edit.typed credential)
    else edit.server.users.textOf uuid credential.field

/-- The emails that the client sees, and its own password. -/
structure SeenFollows (phases : Credential → Phase) (server : Server) (seen : Collection) :
    Prop where
  password : (seen.textOf edit.user.uuid Constants.password).isSome = true
  unissued : (∀ uuid, (phases .email).issued uuid = false) → ∀ uuid,
    seen.textOf uuid Constants.email = server.users.textOf uuid Constants.email
  issued : (phases .email).issued edit.user.uuid = true →
    seen.textOf edit.user.uuid Constants.email = some (edit.typed .email)

/-- The documents the lookups found, and the lookups that came too late. -/
structure TargetsFollow (phases : Credential → Phase) (trace : Trace) : Prop where
  issued : emailIssued trace = true ↔ ∃ uuid, (phases .email).issued uuid = true
  emailInTime : lookedUpLate .email trace = false
  inTime : ∀ credential, (phases credential).target = none →
    lookedUpLate credential trace = false
  found : ∀ credential target, (phases credential).target = some target →
    lookedUpLate credential trace = false → (target = some edit.user.uuid ↔ edit.FoundOwn)
  lost : ∀ credential target, (phases credential).target = some target →
    lookedUpLate credential trace = true → edit.typed .email ≠ edit.user.email →
      edit.FoundOwn → target ≠ some edit.user.uuid

/-- A document for which an update is issued is the one the lookup found. -/
theorem target_of_issued {phase : Phase} {uuid : String} (issued : phase.issued uuid = true) :
    phase.target = some (some uuid) := by
  cases phase with
  | writing target =>
      obtain rfl : target = uuid := by
        simpa [Phase.issued, Phase.isWriting, Phase.wrote] using issued
      rfl
  | written target =>
      obtain rfl : target = uuid := by
        simpa [Phase.issued, Phase.isWriting, Phase.wrote] using issued
      rfl
  | closed target =>
      obtain rfl : target = some uuid := by
        simpa [Phase.issued, Phase.isWriting, Phase.wrote] using issued
      rfl
  | _ => cases issued

theorem wrote_eq_false {phase : Phase} {uuid : String} (unissued : phase.issued uuid = false) :
    phase.wrote uuid = false :=
  (Bool.or_eq_false_iff.mp unissued).2

variable {edit} {phases : Credential → Phase} {credential : Credential} {next : Phase}
  {server : Server} {seen : Collection} {trace : Trace} {label : Label} {output : Output}

/-! ## The stores follow the phases -/

theorem StoresFollow.keep (stores : edit.StoresFollow phases server)
    (sameAuthorized : next.isAuthorized = (phases credential).isAuthorized)
    (sameWrote : ∀ uuid, next.wrote uuid = (phases credential).wrote uuid) :
    edit.StoresFollow (Function.update phases credential next) server := by
  have authorized : ∀ other, (Function.update phases credential next other).isAuthorized =
      (phases other).isAuthorized := by
    intro other
    by_cases same : other = credential
    · rw [same, Function.update_self, sameAuthorized]
    · rw [Function.update_of_ne same]
  have wrote : ∀ other uuid, (Function.update phases credential next other).wrote uuid =
      (phases other).wrote uuid := by
    intro other uuid
    by_cases same : other = credential
    · rw [same, Function.update_self, sameWrote]
    · rw [Function.update_of_ne same]
  exact ⟨by simpa only [authorized] using stores.account, by simpa only [wrote] using stores.texts⟩

/-- The account has the new credential once `Auth` has accepted it. -/
theorem authorize_account {value : String} {account : Nat} {current : Account}
    (stored : server.auth.list[account]? = some current)
    (accepted :
      (serve platform .answered server (credential.authRequest account value)).2 = .done) :
    (∃ changed,
      (serve platform .answered server
          (credential.authRequest account value)).1.auth.list[account]? = some changed ∧
      ∀ other : Credential, other.ofAccount changed =
        if other = credential then value else other.ofAccount current) ∧
    (serve platform .answered server (credential.authRequest account value)).1.users =
      server.users := by
  cases credential with
  | email =>
      cases updated : platform.auth.updateEmail server.auth account value with
      | none => simp [Credential.authRequest, serve, updated] at accepted
      | some auth =>
          simp only [Credential.authRequest, serve, updated, and_true]
          refine ⟨{ current with email := value }, ?_, ?_⟩
          · rw [platform.auth.updateEmail_getElem? updated, if_pos rfl, stored]
            rfl
          · rintro (_ | _) <;> rfl
  | password =>
      cases updated : platform.auth.updatePassword server.auth account value with
      | none => simp [Credential.authRequest, serve, updated] at accepted
      | some auth =>
          simp only [Credential.authRequest, serve, updated, and_true]
          refine ⟨{ current with password := value }, ?_, ?_⟩
          · rw [platform.auth.updatePassword_getElem? updated, if_pos rfl, stored]
            rfl
          · rintro (_ | _) <;> rfl

theorem StoresFollow.authorize (stores : edit.StoresFollow phases server)
    (phase : phases credential = .authorizing)
    (accepted : (serve platform .answered server
      (credential.authRequest edit.account (edit.typed credential))).2 = .done) :
    edit.StoresFollow (Function.update phases credential .authorized)
      (serve platform .answered server
        (credential.authRequest edit.account (edit.typed credential))).1 := by
  obtain ⟨current, stored, credentials⟩ := stores.account
  obtain ⟨⟨changed, changedStored, changedCredentials⟩, sameUsers⟩ :=
    authorize_account stored accepted
  constructor
  · refine ⟨changed, changedStored, ?_⟩
    intro other
    rw [changedCredentials other]
    by_cases same : other = credential
    · subst same
      simp [Phase.isAuthorized]
    · rw [if_neg same, Function.update_of_ne same, credentials other]
  · intro uuid other
    rw [sameUsers, stores.texts uuid other]
    by_cases same : other = credential
    · subst same
      simp [phase, Phase.wrote]
    · rw [Function.update_of_ne same]

theorem StoresFollow.update (stores : edit.StoresFollow phases server) {uuid : String}
    {users : Collection} (phase : phases credential = .writing uuid)
    (updated : server.users.updateData uuid credential.field
      (.string (edit.typed credential)) = some users) :
    edit.StoresFollow (Function.update phases credential (.written uuid))
      { server with users } := by
  constructor
  · obtain ⟨current, stored, credentials⟩ := stores.account
    refine ⟨current, stored, ?_⟩
    intro other
    rw [credentials other]
    by_cases same : other = credential
    · subst same
      simp [phase, Phase.isAuthorized]
    · rw [Function.update_of_ne same]
  · intro otherID other
    rw [Collection.textOf_updateData updated, stores.texts otherID other]
    by_cases same : other = credential
    · subst same
      by_cases sameID : uuid = otherID
      · simp [sameID, Phase.wrote]
      · simp [sameID, phase, Phase.wrote]
    · have sameField : credential.field ≠ other.field := fun equal =>
        same (Credential.field_injective equal).symm
      rw [Function.update_of_ne same, if_neg (fun both => sameField both.2)]

/-! ## The targets follow the phases -/

/-- A move that serves no lookup keeps what is known about the targets. -/
theorem TargetsFollow.keep (targets : edit.TargetsFollow phases trace)
    (sameTarget : next.target = (phases credential).target)
    (noLookup : ∀ other, isLookupOf other output.served = false)
    (issued : (output.requests.any isEmailUpdate || emailIssued trace) = true ↔
      ∃ uuid, (Function.update phases credential next .email).issued uuid = true) :
    edit.TargetsFollow (Function.update phases credential next) ((label, output) :: trace) := by
  have target : ∀ other, (Function.update phases credential next other).target =
      (phases other).target := by
    intro other
    by_cases same : other = credential
    · rw [same, Function.update_self, sameTarget]
    · rw [Function.update_of_ne same]
  have late : ∀ other, lookedUpLate other ((label, output) :: trace) =
      lookedUpLate other trace := by
    intro other
    rw [lookedUpLate, noLookup other, Bool.false_and, Bool.false_or]
  refine ⟨issued, ?_, ?_, ?_, ?_⟩
  · rw [late]
    exact targets.emailInTime
  · simpa only [target, late] using targets.inTime
  · simpa only [target, late] using targets.found
  · simpa only [target, late] using targets.lost

/-- What a lookup finds when the user's own document has a password. -/
theorem target_eq_own_iff {users : Collection} {uuid email : String}
    (password : (users.textOf uuid Constants.password).isSome = true) :
    ((fetchedUser (.documents (users.whereField Constants.email email))).map User.uuid =
        some uuid) ↔ users.firstID Constants.email email = some uuid := by
  constructor
  · intro target
    obtain ⟨found, fetched, rfl⟩ := Option.map_eq_some_iff.mp target
    obtain ⟨document, rest, answer, -, -⟩ := fetchedUser_eq_some_iff.mp fetched
    rw [Reply.documents.injEq] at answer
    rw [Collection.firstID, answer]
    rfl
  · intro first
    obtain ⟨⟨firstID, document⟩, head, rfl⟩ := Option.map_eq_some_iff.mp first
    obtain ⟨rest, answer⟩ := List.head?_eq_some_iff.mp head
    obtain ⟨stored, emailText, -⟩ := Collection.whereField_head?_eq_some_iff.mp head
    obtain ⟨text, passwordText⟩ := Option.isSome_iff_exists.mp password
    rw [Collection.textOf, stored, Option.bind_some] at passwordText
    have fetched : fetchedUser (.documents (users.whereField Constants.email email)) =
        some ⟨email, text, firstID⟩ :=
      fetchedUser_eq_some_iff.mpr ⟨document, rest, by rw [answer], emailText, passwordText⟩
    rw [fetched]
    rfl

/-- As long as no update of an email has been issued, a lookup finds what it would have found
first. -/
theorem TargetsFollow.finds_iff_of_unissued (targets : edit.TargetsFollow phases trace)
    (stores : edit.StoresFollow phases server) (sees : edit.SeenFollows phases server seen)
    (inTime : emailIssued trace = false) :
    seen.firstID Constants.email edit.user.email = some edit.user.uuid ↔ edit.FoundOwn := by
  have unissued : ∀ uuid, (phases .email).issued uuid = false := by
    intro uuid
    rw [Bool.eq_false_iff]
    exact fun issued => by simpa [inTime] using targets.issued.mpr ⟨uuid, issued⟩
  have sameEmails : ∀ uuid, seen.textOf uuid Constants.email =
      edit.server.users.textOf uuid Constants.email := by
    intro uuid
    have text := stores.texts uuid .email
    rw [wrote_eq_false (unissued uuid), if_neg Bool.false_ne_true] at text
    exact (sees.unissued unissued uuid).trans text
  rw [FoundOwn, Collection.firstID_congr sameEmails]

/-- Once the update of the own document's email has been issued, a lookup misses it. -/
theorem TargetsFollow.misses_of_issued (targets : edit.TargetsFollow phases trace)
    (sees : edit.SeenFollows phases server seen) (isLate : emailIssued trace = true)
    (changes : edit.typed .email ≠ edit.user.email) (foundOwn : edit.FoundOwn) :
    seen.firstID Constants.email edit.user.email ≠ some edit.user.uuid := by
  obtain ⟨uuid, issued⟩ := targets.issued.mp isLate
  have ownTarget := (targets.found .email (some uuid) (target_of_issued issued)
    targets.emailInTime).mpr foundOwn
  obtain rfl := Option.some.inj ownTarget
  intro first
  have old := (Collection.firstID_eq_some_iff.mp first).1
  rw [sees.issued issued, Option.some.injEq] at old
  exact changes old

/-- Serving a lookup fixes its target. -/
theorem TargetsFollow.find (targets : edit.TargetsFollow phases trace)
    (stores : edit.StoresFollow phases server) (sees : edit.SeenFollows phases server seen)
    (phase : phases credential = .lookingUp)
    (served : output.served = some (.getUsers edit.user.email,
      credential.lookupContinuation (edit.typed credential)))
    (issues : output.requests = []) :
    edit.TargetsFollow (Function.update phases credential
        (.lookedUp (.documents (seen.whereField Constants.email edit.user.email))))
      ((label, output) :: trace) := by
  have lookups : ∀ other, isLookupOf other output.served = decide (other = credential) := by
    intro other
    rw [served]
    cases credential <;> rfl
  have late : lookedUpLate credential ((label, output) :: trace) = emailIssued trace := by
    rw [lookedUpLate, lookups, targets.inTime credential (by rw [phase]; rfl)]
    simp
  have lateOther : ∀ other, other ≠ credential →
      lookedUpLate other ((label, output) :: trace) = lookedUpLate other trace := by
    intro other different
    rw [lookedUpLate, lookups, decide_eq_false different, Bool.false_and, Bool.false_or]
  have emailUnissued : credential = .email → emailIssued trace = false := by
    rintro rfl
    rw [Bool.eq_false_iff, ne_eq, targets.issued, phase]
    simp [Phase.issued, Phase.isWriting, Phase.wrote]
  refine ⟨?_, ?_, ?_, ?_, ?_⟩
  · rw [emailIssued, issues, List.any_nil, Bool.false_or, targets.issued]
    by_cases same : credential = .email
    · subst same
      simp [phase, Phase.issued, Phase.isWriting, Phase.wrote]
    · rw [Function.update_of_ne (Ne.symm same)]
  · by_cases same : credential = .email
    · rw [← same, late, emailUnissued same]
    · rw [lateOther _ (Ne.symm same), targets.emailInTime]
  · intro other noTarget
    by_cases same : other = credential
    · subst same
      simp [Phase.target] at noTarget
    · rw [Function.update_of_ne same] at noTarget
      rw [lateOther other same, targets.inTime other noTarget]
  · intro other target found inTime
    by_cases same : other = credential
    · subst same
      rw [late] at inTime
      rw [Function.update_self, Phase.target, Option.some.injEq] at found
      rw [← found, target_eq_own_iff sees.password]
      exact targets.finds_iff_of_unissued stores sees inTime
    · rw [Function.update_of_ne same] at found
      rw [lateOther other same] at inTime
      exact targets.found other target found inTime
  · intro other target found lateLookup changes foundOwn
    by_cases same : other = credential
    · subst same
      rw [late] at lateLookup
      rw [Function.update_self, Phase.target, Option.some.injEq] at found
      rw [← found, ne_eq, target_eq_own_iff sees.password]
      exact targets.misses_of_issued sees lateLookup changes foundOwn
    · rw [Function.update_of_ne same] at found
      rw [lateOther other same] at lateLookup
      exact targets.lost other target found lateLookup changes foundOwn

/-! ## The invariant -/

/-- The request in flight of the chain of a credential. -/
def chain (edit : EditContext) (phases : Credential → Phase) (credential : Credential) :
    List Task :=
  chainTasks edit.client edit.user.email edit.account (edit.typed credential) credential
    (phases credential)

/-- An edit in progress. -/
structure Editing (edit : EditContext) (phases : Credential → Phase) (trace : Trace) (s : State) :
    Prop where
  tasks : s.tasks.Perm (edit.chain phases .email ++ edit.chain phases .password)
  signedIn : SignedIn edit.user edit.account (s.clients edit.client)
  started : ∀ credential, phases credential = .absent ↔ edit.typed credential = ""
  stores : edit.StoresFollow phases s.server
  targets : edit.TargetsFollow phases trace

/-- The user's own document keeps a password. -/
theorem StoresFollow.hasPassword (stores : edit.StoresFollow phases server) :
    (server.users.textOf edit.user.uuid Constants.password).isSome = true := by
  have text := stores.texts edit.user.uuid .password
  rw [Credential.field] at text
  rw [text]
  split
  · rfl
  · exact edit.password

theorem Editing.arranged {s : State} (editing : edit.Editing phases trace s)
    (credential : Credential) :
    s.tasks.Perm (edit.chain phases credential ++ edit.chain phases credential.other) := by
  cases credential with
  | email => exact editing.tasks
  | password => exact editing.tasks.trans List.perm_append_comm

theorem StoresFollow.advance {moved : Server} {moves : Moves}
    (stores : edit.StoresFollow phases server)
    (advance : Advance platform edit.user.email edit.account (edit.typed credential) credential
      seen server (phases credential) next moved moves) :
    edit.StoresFollow (Function.update phases credential next) moved := by
  generalize phase : phases credential = before at advance
  cases advance with
  | authorize accepted => exact stores.authorize phase accepted
  | update updated => exact stores.update phase updated
  | close => exact stores.keep (by rw [phase]; rfl) (by simp [phase, Phase.wrote])
  | _ => exact stores.keep (by rw [phase]; rfl) (by intro uuid; rw [phase]; rfl)

/-- A move that issues no update keeps the documents with an update issued. -/
theorem TargetsFollow.issued_of_same (targets : edit.TargetsFollow phases trace)
    (noUpdate : output.requests.any isEmailUpdate = false)
    (sameIssued : ∀ uuid, next.issued uuid = (phases credential).issued uuid) :
    (output.requests.any isEmailUpdate || emailIssued trace) = true ↔
      ∃ uuid, (Function.update phases credential next .email).issued uuid = true := by
  rw [noUpdate, Bool.false_or, targets.issued]
  by_cases same : credential = .email
  · subst same
    simp only [Function.update_self, sameIssued]
  · rw [Function.update_of_ne (Ne.symm same)]

theorem TargetsFollow.advance {moved : Server} {moves : Moves}
    (stores : edit.StoresFollow phases server) (sees : edit.SeenFollows phases server seen)
    (targets : edit.TargetsFollow phases trace)
    (advance : Advance platform edit.user.email edit.account (edit.typed credential) credential
      seen server (phases credential) next moved moves)
    (served : output.served = moves.served) (requests : output.requests = moves.requests) :
    edit.TargetsFollow (Function.update phases credential next) ((label, output) :: trace) := by
  have same : output.requests.any isEmailUpdate = false →
      (∀ uuid, next.issued uuid = (phases credential).issued uuid) →
      ((output.requests.any isEmailUpdate || emailIssued trace) = true ↔
        ∃ uuid, (Function.update phases credential next .email).issued uuid = true) :=
    targets.issued_of_same
  generalize phase : phases credential = before at advance same
  cases advance with
  | authorize accepted =>
      refine targets.keep (by rw [phase]; rfl) ?_ (same (by rw [requests]; rfl) fun _ => rfl)
      intro other
      rw [served]
      cases credential <;> rfl
  | lookUp =>
      exact targets.keep (by rw [phase]; rfl) (by simp [served, isLookupOf])
        (same (by rw [requests]; rfl) fun _ => rfl)
  | find => exact targets.find stores sees phase served requests
  | write fetched =>
      refine targets.keep (by simp [phase, Phase.target, fetched])
        (by simp [served, isLookupOf]) ?_
      rw [requests]
      cases credential with
      | email =>
          simp only [Function.update_self]
          simp [isEmailUpdate, Credential.field, Phase.issued, Phase.isWriting, Phase.wrote]
      | password =>
          rw [Function.update_of_ne (by simp), ← targets.issued]
          simp [isEmailUpdate, Credential.field, Constants.password, Constants.email]
  | stop missing =>
      exact targets.keep (by simp [phase, Phase.target, missing])
        (by simp [served, isLookupOf])
        (same (by rw [requests]; rfl) (by simp [Phase.issued, Phase.isWriting, Phase.wrote]))
  | update updated =>
      exact targets.keep (by rw [phase]; rfl) (by intro other; rw [served]; rfl)
        (same (by rw [requests]; rfl) (by simp [Phase.issued, Phase.isWriting, Phase.wrote]))
  | close =>
      exact targets.keep (by rw [phase]; rfl) (by simp [served, isLookupOf])
        (same (by rw [requests]; rfl) (by simp [Phase.issued, Phase.isWriting, Phase.wrote]))

/-- A move leads neither from nor to an absent chain. -/
theorem absent_iff_of_advance {value : String} {before : Phase} {moved : Server} {account : Nat}
    {email : String} {moves : Moves}
    (advance : Advance platform email account value credential seen server before next moved
      moves) :
    next = .absent ↔ before = .absent := by
  cases advance <;> simp

/-! ## What the client sees -/

/-- What the request of a chain is going to write: the typed text into the document whose
update is issued, or nothing. -/
theorem textOf_chain_write {task : Task} (member : task ∈ edit.chain phases credential)
    (users : Collection) (id field : String) :
    (localWrite users task.request).textOf id field = users.textOf id field ∨
      credential.field = field ∧ (phases credential).issued id = true ∧
        (localWrite users task.request).textOf id field = some (edit.typed credential) := by
  rw [chain] at member
  cases phase : phases credential with
  | absent => simp [phase, chainTasks] at member
  | closed target => simp [phase, chainTasks] at member
  | writing uuid =>
      rw [phase] at member
      obtain rfl := List.mem_singleton.mp member
      rw [textOf_localWrite_updateUser]
      split
      · rename_i writes
        obtain ⟨rfl, same, -⟩ := writes
        exact .inr ⟨same, by simp [Phase.issued, Phase.isWriting], rfl⟩
      · exact .inl rfl
  | written uuid =>
      rw [phase] at member
      obtain rfl := List.mem_singleton.mp member
      rw [textOf_localWrite_updateUser]
      split
      · rename_i writes
        obtain ⟨rfl, same, -⟩ := writes
        exact .inr ⟨same, by simp [Phase.issued, Phase.wrote], rfl⟩
      · exact .inl rfl
  | authorizing =>
      rw [phase] at member
      obtain rfl := List.mem_singleton.mp member
      cases credential <;> exact .inl rfl
  | authorized =>
      rw [phase] at member
      obtain rfl := List.mem_singleton.mp member
      cases credential <;> exact .inl rfl
  | lookingUp =>
      rw [phase] at member
      obtain rfl := List.mem_singleton.mp member
      exact .inl rfl
  | lookedUp reply =>
      rw [phase] at member
      obtain rfl := List.mem_singleton.mp member
      exact .inl rfl

/-- A request in flight belongs to one of the chains. -/
theorem Editing.owner {s : State} (editing : edit.Editing phases trace s) {task : Task}
    (inFlight : task ∈ s.tasks) : ∃ credential, task ∈ edit.chain phases credential := by
  rcases List.mem_append.mp (editing.tasks.mem_iff.mp inFlight) with email | password
  · exact ⟨.email, email⟩
  · exact ⟨.password, password⟩

/-- What the writes in flight are going to write. -/
theorem Editing.textOf_write {s : State} (editing : edit.Editing phases trace s) {client : Nat}
    {request : Request} (waits : request ∈ s.unanswered client) (users : Collection)
    (id field : String) :
    (localWrite users request).textOf id field = users.textOf id field ∨
      ∃ credential : Credential, credential.field = field ∧
        (phases credential).issued id = true ∧
        (localWrite users request).textOf id field = some (edit.typed credential) := by
  obtain ⟨task, waiting, rfl⟩ := List.mem_map.mp waits
  obtain ⟨credential, member⟩ := editing.owner (List.mem_of_mem_filter waiting)
  exact (textOf_chain_write member users id field).imp_right fun writes => ⟨credential, writes⟩

/-- The update of an email that is in flight waits. -/
theorem Editing.waits_of_writing {s : State} (editing : edit.Editing phases trace s)
    {uuid : String} (phase : phases .email = .writing uuid) :
    .updateUser (s.clients edit.client).queue uuid Constants.email (edit.typed .email) ∈
      s.unanswered edit.client := by
  have inFlight : (⟨edit.client, .updateUser (some edit.account) uuid Constants.email
      (edit.typed .email), .ignored, none⟩ : Task) ∈ s.tasks := by
    refine editing.tasks.mem_iff.mpr (List.mem_append_left _ ?_)
    rw [chain, phase]
    exact List.mem_singleton_self _
  rw [Client.queue, editing.signedIn.session]
  exact List.mem_map.mpr ⟨_, List.mem_filter.mpr ⟨inFlight, by simp⟩, rfl⟩

/-- **The client sees its edits as soon as they are issued.** -/
theorem Editing.sees {s : State} (editing : edit.Editing phases trace s) :
    edit.SeenFollows phases s.server (usersSeen s edit.client) where
  password := by
    refine localUsers_induction (P := fun users : Collection =>
      (users.textOf edit.user.uuid Constants.password).isSome = true) editing.stores.hasPassword ?_
    intro request waits _ users before
    rcases editing.textOf_write waits users edit.user.uuid Constants.password with
      same | ⟨credential, -, -, text⟩
    · rwa [same]
    · rw [text]
      rfl
  unissued := by
    intro unissued uuid
    refine localUsers_induction (P := fun users : Collection =>
      users.textOf uuid Constants.email = s.server.users.textOf uuid Constants.email) rfl ?_
    intro request waits _ users before
    rcases editing.textOf_write waits users uuid Constants.email with
      same | ⟨credential, isEmail, issued, -⟩
    · rwa [same]
    · obtain rfl : credential = .email := Credential.field_injective isEmail
      rw [unissued uuid] at issued
      cases issued
  issued := by
    intro issued
    have leaves : ∀ request ∈ s.unanswered edit.client, ∀ users : Collection,
        users.textOf edit.user.uuid Constants.email = some (edit.typed .email) →
          (localWrite users request).textOf edit.user.uuid Constants.email =
            some (edit.typed .email) := by
      intro request waits users before
      rcases editing.textOf_write waits users edit.user.uuid Constants.email with
        same | ⟨credential, isEmail, -, text⟩
      · rwa [same]
      · obtain rfl : credential = .email := Credential.field_injective isEmail
        exact text
    -- the update waits, or it has been served
    rcases Bool.or_eq_true_iff.mp issued with writing | wrote
    · have phase : phases .email = .writing edit.user.uuid := by
        cases phase : phases .email with
        | writing uuid =>
            rw [phase, Phase.isWriting, decide_eq_true_eq] at writing
            rw [writing]
        | _ => simp [phase, Phase.isWriting] at writing
      have stored : s.server.users[edit.user.uuid]?.isSome = true := by
        obtain ⟨text, password⟩ := Option.isSome_iff_exists.mp editing.stores.hasPassword
        obtain ⟨document, found, -⟩ := Option.bind_eq_some_iff.mp password
        rw [found]
        rfl
      exact textOf_localUsers_of_mem stored (editing.waits_of_writing phase) leaves
    · have text := editing.stores.texts edit.user.uuid .email
      rw [wrote, if_pos rfl] at text
      exact localUsers_induction (P := fun users : Collection =>
        users.textOf edit.user.uuid Constants.email = some (edit.typed .email)) text
        fun request waits _ => leaves request waits

theorem Editing.advance {s s' : State} {moves : Moves} (editing : edit.Editing phases trace s)
    (advance : Advance platform edit.user.email edit.account (edit.typed credential) credential
      (usersSeen s edit.client) s.server (phases credential) next s'.server moves)
    (served : output.served = moves.served) (requests : output.requests = moves.requests)
    (tasks : s'.tasks.Perm (edit.chain (Function.update phases credential next) credential ++
      edit.chain phases credential.other))
    (signedIn : SignedIn edit.user edit.account (s'.clients edit.client)) :
    edit.Editing (Function.update phases credential next) ((label, output) :: trace) s' where
  tasks := by
    have otherChain : edit.chain (Function.update phases credential next) credential.other =
        edit.chain phases credential.other := by
      cases credential <;> rfl
    rw [← otherChain] at tasks
    cases credential with
    | email => exact tasks
    | password => exact tasks.trans List.perm_append_comm
  signedIn := signedIn
  started := by
    intro other
    by_cases same : other = credential
    · rw [same, Function.update_self, absent_iff_of_advance advance, editing.started]
    · rw [Function.update_of_ne same, editing.started]
  stores := editing.stores.advance advance
  targets := TargetsFollow.advance editing.stores editing.sees editing.targets advance served
    requests

theorem editing_step {s s' : State} (editing : edit.Editing phases trace s)
    (permitted : Succeeds platform trace s label)
    (stepped : (program platform).StepCase s label output s') :
    ∃ later, edit.Editing later ((label, output) :: trace) s' := by
  cases stepped with
  | act handled => exact permitted.elim
  | @serve index fate task inFlight waiting =>
      obtain ⟨rfl, succeeds⟩ := permitted
      obtain ⟨credential, member⟩ := editing.owner (List.mem_of_getElem? inFlight)
      obtain ⟨next, advance, served⟩ := chain_serve waiting member (succeeds task inFlight)
      have arranged := editing.arranged credential
      rw [chain, (eq_of_mem_chainTasks member).1] at arranged
      refine ⟨_, editing.advance advance rfl rfl ?_ editing.signedIn⟩
      rw [chain, Function.update_self, served]
      exact RequestReply.State.perm_set _ inFlight arranged
  | @deliver index input task reply effect inFlight answered resumed =>
      obtain rfl : resume platform task.continuation reply input (s.clients task.client) =
          effect := Option.some.inj resumed
      obtain ⟨credential, member⟩ := editing.owner (List.mem_of_getElem? inFlight)
      obtain ⟨chainTask, sameClient⟩ := eq_of_mem_chainTasks member
      have signedIn := editing.signedIn
      rw [← sameClient] at signedIn
      obtain ⟨next, advance, issued, stillSignedIn⟩ :=
        chain_deliver (usersSeen s edit.client) s.server input answered member signedIn
      have arranged := editing.arranged credential
      rw [chain, chainTask] at arranged
      refine ⟨_, editing.advance advance rfl rfl ?_ ?_⟩
      · rw [chain, Function.update_self, issued, RequestReply.State.commit_tasks, sameClient]
        exact ((RequestReply.State.perm_eraseIdx inFlight arranged).append_right _).trans
          List.perm_append_comm
      · rw [← sameClient, RequestReply.State.commit_clients_self]
        exact stillSignedIn

/-- **An edit whose requests all succeed keeps the invariant in every run.** -/
theorem editing_run {s₀ s : State} (started : edit.Editing phases [] s₀)
    (run : (program platform).Run (Succeeds platform) s₀ trace s) :
    ∃ later, edit.Editing later trace s :=
  run.invariant (I := fun trace s => ∃ later, edit.Editing later trace s) ⟨phases, started⟩
    fun ⟨_, editing⟩ permitted stepped => editing_step editing permitted stepped

/-! ## The tap and the end -/

/-- The phase of a chain right after the tap. -/
def tapped (edit : EditContext) (credential : Credential) : Phase :=
  if edit.typed credential = "" then .absent else .authorizing

theorem saveButtonTapped_requests {client : Client} {account : Nat} {user : User}
    (signedIn : SignedIn user account client) (texts : TextEquality)
    (newEmail newPassword : String) :
    (saveButtonTapped texts newEmail newPassword newPassword client).client = client ∧
      (saveButtonTapped texts newEmail newPassword newPassword client).requests =
        (if newEmail = "" then [] else
          [(.updateEmail account newEmail, .emailUpdated account newEmail)]) ++
        (if newPassword = "" then [] else
          [(.updatePassword account newPassword, .passwordUpdated newPassword)]) := by
  obtain ⟨session, present, rfl⟩ := Option.map_eq_some_iff.mp signedIn.session
  by_cases noEmail : newEmail = "" <;> by_cases noPassword : newPassword = "" <;>
    simp [saveButtonTapped, updateUsersEmail, updateUsersPassword, present, noEmail, noPassword]

theorem editing_tap {s₀ s₁ : State} (idle : s₀.tasks = []) (sameServer : edit.server = s₀.server)
    (signedIn : SignedIn edit.user edit.account (s₀.clients edit.client))
    (stored : s₀.server.auth.list[edit.account]? = some edit.old)
    (step : (program platform).step s₀ (.act edit.client (.saveButtonTapped (edit.typed .email)
      (edit.typed .password) (edit.typed .password))) = some (output, s₁)) :
    edit.Editing edit.tapped [] s₁ := by
  obtain ⟨sameClient, requests⟩ :=
    saveButtonTapped_requests signedIn platform.texts (edit.typed .email) (edit.typed .password)
  have committed : s₁ = s₀.commit edit.client s₀.tasks (saveButtonTapped platform.texts
      (edit.typed .email) (edit.typed .password) (edit.typed .password)
      (s₀.clients edit.client)) := by
    cases Program.stepCase_of_step step with
    | act handled => rw [← Option.some.inj handled]; rfl
  subst committed
  refine ⟨?_, ?_, ?_, ?_, ?_⟩
  · rw [RequestReply.State.commit_tasks, idle, requests, chain, chain, tapped, tapped]
    by_cases noEmail : edit.typed .email = "" <;>
      by_cases noPassword : edit.typed .password = "" <;>
      simp [noEmail, noPassword, chainTasks, Credential.authRequest, Credential.authContinuation]
  · rw [RequestReply.State.commit_clients_self, sameClient]
    exact signedIn
  · intro credential
    simp [tapped]
  · refine ⟨⟨edit.old, stored, ?_⟩, ?_⟩
    · intro credential
      by_cases untyped : edit.typed credential = "" <;> simp [tapped, untyped, Phase.isAuthorized]
    · intro uuid credential
      rw [RequestReply.State.commit_server, sameServer]
      by_cases untyped : edit.typed credential = "" <;> simp [tapped, untyped, Phase.wrote]
  · have noTarget : ∀ credential, (edit.tapped credential).target = none := by
      intro credential
      by_cases untyped : edit.typed credential = "" <;> simp [tapped, untyped, Phase.target]
    refine ⟨?_, rfl, fun _ _ => rfl, ?_, ?_⟩
    · by_cases untyped : edit.typed .email = "" <;>
        simp [emailIssued, tapped, untyped, Phase.issued, Phase.isWriting, Phase.wrote]
    · intro credential target found
      simp [noTarget] at found
    · intro credential target found
      simp [noTarget] at found

/-- Once nothing is in flight a chain that was started is closed. -/
theorem Editing.closed {s : State} (editing : edit.Editing phases trace s)
    (finished : s.tasks = []) (typed : edit.typed credential ≠ "") :
    ∃ target, phases credential = .closed target := by
  have empty : edit.chain phases credential = [] := by
    have arranged := editing.arranged credential
    rw [finished] at arranged
    exact (List.append_eq_nil_iff.mp arranged.nil_eq.symm).1
  cases phase : phases credential with
  | absent => exact absurd ((editing.started credential).mp phase) typed
  | closed target => exact ⟨target, rfl⟩
  | _ => simp [chain, chainTasks, phase] at empty

/-- Once nothing is in flight the account has every credential typed. -/
theorem Editing.finished_account {s : State} (editing : edit.Editing phases trace s)
    (finished : s.tasks = []) :
    ∃ current, s.server.auth.list[edit.account]? = some current ∧
      ∀ credential : Credential, credential.ofAccount current =
        if edit.typed credential = "" then credential.ofAccount edit.old
        else edit.typed credential := by
  obtain ⟨current, stored, credentials⟩ := editing.stores.account
  refine ⟨current, stored, ?_⟩
  intro credential
  rw [credentials credential]
  by_cases untyped : edit.typed credential = ""
  · simp [untyped, (editing.started credential).mpr untyped, Phase.isAuthorized]
  · obtain ⟨target, phase⟩ := editing.closed finished untyped
    simp [untyped, phase, Phase.isAuthorized]

/-- Once nothing is in flight the user's own document has a credential typed exactly
when the lookup found that document. -/
theorem Editing.finished_text {s : State} (editing : edit.Editing phases trace s)
    (credential : Credential) (finished : s.tasks = []) (typed : edit.typed credential ≠ "") :
    ∃ target, (phases credential).target = some target ∧
      s.server.users.textOf edit.user.uuid credential.field =
        if target = some edit.user.uuid then some (edit.typed credential)
        else edit.server.users.textOf edit.user.uuid credential.field := by
  obtain ⟨target, phase⟩ := editing.closed finished typed
  refine ⟨target, by rw [phase]; rfl, ?_⟩
  rw [editing.stores.texts, phase]
  simp [Phase.wrote]

theorem Editing.untyped_text {s : State} (editing : edit.Editing phases trace s)
    (untyped : edit.typed credential = "") (uuid : String) :
    s.server.users.textOf uuid credential.field =
      edit.server.users.textOf uuid credential.field := by
  rw [editing.stores.texts, (editing.started credential).mpr untyped]
  rfl

/-- A late lookup comes after an update of an email. -/
theorem emailIssued_of_lookedUpLate (late : lookedUpLate credential trace = true) :
    emailIssued trace = true := by
  induction trace with
  | nil => cases late
  | cons entry earlier ih =>
      rw [lookedUpLate, Bool.or_eq_true, Bool.and_eq_true] at late
      rw [emailIssued, Bool.or_eq_true]
      rcases late with ⟨_, issued⟩ | late
      · exact Or.inr issued
      · exact Or.inr (ih late)

/-- Without a new email no lookup is late. -/
theorem Editing.inTime {s : State} (editing : edit.Editing phases trace s)
    (untyped : edit.typed .email = "") : lookedUpLate credential trace = false := by
  rw [Bool.eq_false_iff]
  intro late
  obtain ⟨uuid, issued⟩ := editing.targets.issued.mp (emailIssued_of_lookedUpLate late)
  rw [(editing.started .email).mpr untyped] at issued
  cases issued

end EditContext

end MyMealPrep.Login
