import MyMealPrep.Login.EditInvariants

/-!
# Changing the email and the password at once

One tap of the save button with both a new email and a new password starts two
chains, each of which looks the users document up by the email in memory. When the
chain of the email has issued the update of the document before the lookup of the other one is
served, the client sees the new email there: that lookup misses the document and the new
password is written to `Auth` only.

`combined_edit_iff` says exactly when both stores end up with both credentials:
the lookup found the user's own document before the tap, and the lookup of the
password was not late.
-/

set_option autoImplicit false

namespace MyMealPrep.Login

open Firestore (Collection Document Snapshot Value)
open RequestReply (Program)

variable {platform : Platform}

/-! ## Agreement of the stores -/

/-- The account and the users document with the ID have these credentials. -/
structure StoresHold (s : State) (account : Nat) (uuid email password : String) : Prop where
  account : s.server.auth.list[account]? = some ⟨email, password⟩
  email : s.server.users.textOf uuid Constants.email = some email
  password : s.server.users.textOf uuid Constants.password = some password

instance (s : State) (account : Nat) (uuid email password : String) :
    Decidable (StoresHold s account uuid email password) :=
  decidable_of_iff (s.server.auth.list[account]? = some ⟨email, password⟩ ∧
      s.server.users.textOf uuid Constants.email = some email ∧
      s.server.users.textOf uuid Constants.password = some password)
    ⟨fun ⟨stored, emailText, passwordText⟩ => ⟨stored, emailText, passwordText⟩,
      fun holds => ⟨holds.account, holds.email, holds.password⟩⟩

/-- Nothing is in flight, and the account, the users document and the user in memory
of a client agree. -/
structure Agree (s : State) (client account : Nat) (user : User) : Prop where
  idle : s.tasks = []
  signedIn : SignedIn user account (s.clients client)
  stores : StoresHold s account user.uuid user.email user.password

/-- The edit that a client of a state in agreement makes. -/
def Agree.context {s : State} {client account : Nat} {user : User}
    (agree : Agree s client account user) (typed : Credential → String) : EditContext where
  client
  user
  account
  typed
  server := s.server
  old := ⟨user.email, user.password⟩
  password := by rw [agree.stores.password]; rfl

/-- The texts of a tap that changes both credentials. -/
def bothTyped (newEmail newPassword : String) : Credential → String
  | .email => newEmail
  | .password => newPassword

/-! ## The property -/

/-- Every change of both credentials whose requests all succeed leaves both of them
in both stores. -/
def CombinedEditsComplete (platform : Platform) : Prop :=
  ∀ (s₀ s₁ s : State) (client account : Nat) (user : User) (newEmail newPassword : String)
    (output : Output) (trace : Trace),
    Agree s₀ client account user →
    newEmail ≠ "" → newEmail ≠ user.email → newPassword ≠ "" → newPassword ≠ user.password →
    (program platform).step s₀ (.act client (.saveButtonTapped newEmail newPassword newPassword)) =
      some (output, s₁) →
    (program platform).Run (Succeeds platform) s₁ trace s → s.tasks = [] →
    StoresHold s account user.uuid newEmail newPassword

section

variable {s₀ s₁ s : State} {client account : Nat} {user : User} {newEmail newPassword : String}
  {output : Output} {trace : Trace}

/-- **Both credentials reach both stores exactly when the user's own document is
first for its email before the tap and the lookup of the password is served before
the update of the document's email is issued.** -/
theorem combined_edit_iff (agree : Agree s₀ client account user) (email : newEmail ≠ "")
    (changesEmail : newEmail ≠ user.email) (password : newPassword ≠ "")
    (changesPassword : newPassword ≠ user.password)
    (step : (program platform).step s₀
        (.act client (.saveButtonTapped newEmail newPassword newPassword)) =
      some (output, s₁))
    (run : (program platform).Run (Succeeds platform) s₁ trace s) (finished : s.tasks = []) :
    StoresHold s account user.uuid newEmail newPassword ↔
      OwnDocumentFirst s₀.server.users user.uuid user.email ∧
        lookedUpLate .password trace = false := by
  let edit := agree.context (bothTyped newEmail newPassword)
  have started : edit.Editing edit.tapped [] s₁ :=
    EditContext.editing_tap agree.idle rfl agree.signedIn agree.stores.account step
  obtain ⟨phases, editing⟩ := EditContext.editing_run started run
  rw [ownDocumentFirst_iff_firstID agree.stores.email]
  have stored : s.server.auth.list[account]? = some ⟨newEmail, newPassword⟩ := by
    obtain ⟨current, stored, credentials⟩ := editing.finished_account finished
    have newEmailStored : current.email = newEmail := (credentials .email).trans (if_neg email)
    have newPasswordStored : current.password = newPassword :=
      (credentials .password).trans (if_neg password)
    exact stored.trans (congrArg some (congrArg₂ Account.mk newEmailStored newPasswordStored))
  obtain ⟨emailTarget, emailFound, emailText⟩ : ∃ target, (phases .email).target = some target ∧
      s.server.users.textOf user.uuid Constants.email =
        if target = some user.uuid then some newEmail else some user.email := by
    rw [← agree.stores.email]
    exact editing.finished_text .email finished email
  obtain ⟨passwordTarget, passwordFound, passwordText⟩ :
      ∃ target, (phases .password).target = some target ∧
        s.server.users.textOf user.uuid Constants.password =
          if target = some user.uuid then some newPassword else some user.password := by
    rw [← agree.stores.password]
    exact editing.finished_text .password finished password
  have emailOwn : emailTarget = some user.uuid ↔
      s₀.server.users.firstID Constants.email user.email = some user.uuid :=
    editing.targets.found .email emailTarget emailFound editing.targets.emailInTime
  constructor
  · intro holds
    have emailIsOwn : emailTarget = some user.uuid := by
      by_contra missed
      rw [if_neg missed] at emailText
      exact changesEmail (Option.some.inj (holds.email.symm.trans emailText))
    have passwordIsOwn : passwordTarget = some user.uuid := by
      by_contra missed
      rw [if_neg missed] at passwordText
      exact changesPassword (Option.some.inj (holds.password.symm.trans passwordText))
    have foundOwn := emailOwn.mp emailIsOwn
    refine ⟨foundOwn, ?_⟩
    rw [Bool.eq_false_iff]
    intro late
    exact editing.targets.lost .password passwordTarget passwordFound late changesEmail foundOwn
      passwordIsOwn
  · rintro ⟨foundOwn, inTime⟩
    have passwordIsOwn : passwordTarget = some user.uuid :=
      (editing.targets.found .password passwordTarget passwordFound inTime).mpr foundOwn
    rw [if_pos (emailOwn.mpr foundOwn)] at emailText
    rw [if_pos passwordIsOwn] at passwordText
    exact ⟨stored, emailText, passwordText⟩

end

/-! ## Two orders of the callbacks -/

/-- The user of the runs below. -/
def ann : User := ⟨"ann@mail.com", "secret", "A"⟩

/-- A client that has just signed up. -/
def signedUp : State where
  clients := fun client =>
    if client = 0 then { currentUser := some ann, session := some ⟨0, ann.email⟩ } else {}
  server :=
    { auth := ⟨[⟨ann.email, ann.password⟩], List.nodup_singleton _⟩
      users := Collection.setData ∅ ann.uuid (UserController.userDict ann) }
  tasks := []

theorem signedUp_agree : Agree signedUp 0 0 ann where
  idle := rfl
  signedIn := ⟨rfl, rfl⟩
  stores := by decide

/-- Each of the requests in flight is served and delivered in turn, the oldest first. -/
def inTurn : List Label :=
  [.serve 0 .answered, .serve 1 .answered, .deliver 0 {}, .deliver 0 {}, .serve 0 .answered,
    .serve 1 .answered, .deliver 0 {}, .deliver 0 {}, .serve 0 .answered, .serve 1 .answered,
    .deliver 0 {}, .deliver 0 {}]

/-- The update of the email is issued, and then the password is looked up while it is in
flight. -/
def emailFirst : List Label :=
  [.serve 0 .answered, .deliver 0 {}, .serve 1 .answered, .deliver 1 {}, .serve 0 .answered,
    .deliver 0 {}, .serve 1 .answered, .deliver 1 {}, .serve 0 .answered, .deliver 0 {}]

/-- When the two chains take turns, both credentials reach both stores. -/
theorem combined_edit_iff_inTurn :
    ∃ s₁ trace s, (program plain).Run (Succeeds plain) s₁ trace s ∧ s.tasks = [] ∧
      StoresHold s 0 "A" "ann@work.com" "renewed" := by
  have executed : ((program plain).step signedUp
      (.act 0 (.saveButtonTapped "ann@work.com" "renewed" "renewed"))).any (fun tapped =>
        ((program plain).execute (Succeeds plain) tapped.2 inTurn []).any fun last =>
          last.2.tasks.isEmpty && !lookedUpLate .password last.1) = true := by
    decide
  obtain ⟨⟨output, s₁⟩, step, rest⟩ := (Option.any_eq_true _ _).mp executed
  obtain ⟨⟨trace, s⟩, followed, last⟩ := (Option.any_eq_true _ _).mp rest
  obtain ⟨finished, inTime⟩ := Bool.and_eq_true_iff.mp last
  have run := Program.Run.of_execute .start followed
  have idle : s.tasks = [] := List.isEmpty_iff.mp finished
  refine ⟨s₁, trace, s, run, idle, ?_⟩
  exact (combined_edit_iff signedUp_agree (by decide) (by decide) (by decide) (by decide) step run
    idle).mpr ⟨by decide, by simpa using inTime⟩

/-- **A new password is lost.** The update of the email is in flight when the lookup for the
password is served, and the client no longer finds the document. -/
theorem combined_edit_loses_password : ¬ CombinedEditsComplete plain := by
  intro complete
  have executed : ((program plain).step signedUp
      (.act 0 (.saveButtonTapped "ann@work.com" "renewed" "renewed"))).any (fun tapped =>
        ((program plain).execute (Succeeds plain) tapped.2 emailFirst []).any fun last =>
          last.2.tasks.isEmpty && !StoresHold last.2 0 "A" "ann@work.com" "renewed") = true := by
    decide
  obtain ⟨⟨output, s₁⟩, step, rest⟩ := (Option.any_eq_true _ _).mp executed
  obtain ⟨⟨trace, s⟩, followed, last⟩ := (Option.any_eq_true _ _).mp rest
  obtain ⟨finished, lost⟩ := Bool.and_eq_true_iff.mp last
  have holds : StoresHold s 0 "A" "ann@work.com" "renewed" :=
    complete signedUp s₁ s 0 0 ann "ann@work.com" "renewed" output trace signedUp_agree (by decide)
      (by decide) (by decide) (by decide) step (.of_execute .start followed)
      (List.isEmpty_iff.mp finished)
  simp [holds] at lost

end MyMealPrep.Login
