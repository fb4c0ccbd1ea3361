import MyMealPrep.Login.CombinedEdit

/-!
# Editing the login again and again

Edits of one credential each, every one of them run to its end before the next.
`Auth` always has the new credential. The users document has it as long as the
lookup finds the document, which it does by the email in memory: a change of the
email is the last edit that reaches the document
(`stores_agree_throughout_iff`).

Each edit is one instance of `EditContext.Editing` (`EditDone.outcome`). A client
is `Current` while its document still has the email in memory and `Drifted`
afterwards; from a drifted client every edit separates the stores.
-/

set_option autoImplicit false

namespace MyMealPrep.Login

open Firestore (Collection Document Snapshot Value)
open RequestReply (Program)

variable {platform : Platform}

/-! ## Edits and their runs -/

/-- A new value for one of the credentials. -/
structure Edit where
  credential : Credential
  value : String
deriving DecidableEq, Repr

namespace Edit

/-- The texts typed, the other fields left empty. -/
def typed (edit : Edit) (credential : Credential) : String :=
  if credential = edit.credential then edit.value else ""

/-- The tap of the save button. -/
def action (edit : Edit) : Action :=
  .saveButtonTapped (edit.typed .email) (edit.typed .password) (edit.typed .password)

end Edit

/-- A client makes an edit, and all its requests succeed until nothing is in flight. -/
def EditDone (platform : Platform) (client : Nat) (edit : Edit) (s s' : State) : Prop :=
  ∃ output s₁ trace, (program platform).step s (.act client edit.action) = some (output, s₁) ∧
    (program platform).Run (Succeeds platform) s₁ trace s' ∧ s'.tasks = []

/-- The edit gives the account another value for its credential. -/
def Changes (account : Nat) (edit : Edit) (s : State) : Prop :=
  edit.value ≠ "" ∧ ∀ current ∈ s.server.auth.list[account]?,
    edit.credential.ofAccount current ≠ edit.value

instance (account : Nat) (edit : Edit) (s : State) : Decidable (Changes account edit s) :=
  inferInstanceAs (Decidable (_ ∧ _))

/-- Edits one after the other, with the states after each of them. -/
inductive EditRun (platform : Platform) (client account : Nat) :
    State → List Edit → List State → Prop where
  | none {s : State} : EditRun platform client account s [] []
  | edit {s s' : State} {edit : Edit} {edits : List Edit} {states : List State}
      (changes : Changes account edit s) (done : EditDone platform client edit s s')
      (rest : EditRun platform client account s' edits states) :
      EditRun platform client account s (edit :: edits) (s' :: states)

/-- The account and the users document with the ID have the same credentials. -/
def StoresAgree (s : State) (account : Nat) (uuid : String) : Prop :=
  ∃ current ∈ s.server.auth.list[account]?, ∀ credential : Credential,
    s.server.users.textOf uuid credential.field = some (credential.ofAccount current)

instance (s : State) (account : Nat) (uuid : String) : Decidable (StoresAgree s account uuid) :=
  inferInstanceAs (Decidable (∃ current ∈ s.server.auth.list[account]?, _))

/-- After every edit of every sequence the stores agree. -/
def EditsKeepAgreement (platform : Platform) : Prop :=
  ∀ (s : State) (client account : Nat) (user : User) (edits : List Edit) (states : List State),
    Agree s client account user → EditRun platform client account s edits states →
    ∀ s' ∈ states, StoresAgree s' account user.uuid

/-! ## What one edit does -/

/-- Nothing is in flight, and the account and the users document of a client have the
same credentials. -/
structure InAgreement (s : State) (client account : Nat) (user : User) (current : Account) :
    Prop where
  idle : s.tasks = []
  signedIn : SignedIn user account (s.clients client)
  account : s.server.auth.list[account]? = some current
  texts : ∀ credential : Credential,
    s.server.users.textOf user.uuid credential.field = some (credential.ofAccount current)

/-- The lookup finds the user's own document first. -/
def FindsOwn (s : State) (user : User) : Prop :=
  s.server.users.firstID Constants.email user.email = some user.uuid

/-- The state after an edit: the account has the new value, and the document has it
if the lookup found the document. -/
structure Outcome (s s' : State) (client account : Nat) (user : User) (current : Account)
    (edit : Edit) : Prop where
  idle : s'.tasks = []
  signedIn : SignedIn user account (s'.clients client)
  account : ∃ changed, s'.server.auth.list[account]? = some changed ∧
    ∀ credential : Credential, credential.ofAccount changed =
      if credential = edit.credential then edit.value else credential.ofAccount current
  found : FindsOwn s user →
    s'.server.users.textOf user.uuid edit.credential.field = some edit.value
  missed : ¬ FindsOwn s user →
    s'.server.users.textOf user.uuid edit.credential.field =
      s.server.users.textOf user.uuid edit.credential.field
  others : ∀ credential : Credential, credential ≠ edit.credential → ∀ uuid,
    s'.server.users.textOf uuid credential.field = s.server.users.textOf uuid credential.field

section

variable {s s' : State} {client account : Nat} {user : User} {current : Account} {edit : Edit}

/-- An edit from a state in agreement has its outcome. -/
theorem EditDone.outcome (agreement : InAgreement s client account user current)
    (typed : edit.value ≠ "") (done : EditDone platform client edit s s') :
    Outcome s s' client account user current edit := by
  obtain ⟨output, s₁, trace, step, run, finished⟩ := done
  let context : EditContext :=
    { client, user, account, typed := edit.typed, server := s.server, old := current
      password := by
        have text := agreement.texts .password
        rw [Credential.field] at text
        rw [text]
        rfl }
  have started : context.Editing context.tapped [] s₁ :=
    EditContext.editing_tap agreement.idle rfl agreement.signedIn agreement.account step
  obtain ⟨phases, editing⟩ := EditContext.editing_run started run
  have ownTyped : edit.typed edit.credential = edit.value := if_pos rfl
  have otherTyped : ∀ credential, credential ≠ edit.credential → edit.typed credential = "" :=
    fun credential different => if_neg different
  -- the lookup is in time: it is the one of the email, or no email is typed
  have inTime : lookedUpLate edit.credential trace = false := by
    by_cases email : edit.credential = .email
    · rw [email]
      exact editing.targets.emailInTime
    · exact editing.inTime (otherTyped .email (Ne.symm email))
  obtain ⟨target, found, text⟩ := editing.finished_text edit.credential finished
    (by rw [← ownTyped] at typed; exact typed)
  have own : target = some user.uuid ↔ FindsOwn s user :=
    editing.targets.found edit.credential target found inTime
  refine ⟨finished, editing.signedIn, ?_, ?_, ?_, ?_⟩
  · obtain ⟨changed, stored, credentials⟩ := editing.finished_account finished
    refine ⟨changed, stored, ?_⟩
    intro credential
    rw [credentials credential]
    by_cases same : credential = edit.credential
    · subst same
      rw [if_pos rfl, if_neg (by rw [← ownTyped] at typed; exact typed)]
      exact ownTyped
    · rw [if_neg same, if_pos (otherTyped credential same)]
  · intro finds
    rw [← ownTyped]
    exact text.trans (if_pos (own.mpr finds))
  · intro misses
    exact text.trans (if_neg fun hit => misses (own.mp hit))
  · intro credential different uuid
    exact editing.untyped_text (otherTyped credential different) uuid

/-- After an edit that changes its credential the stores agree exactly when the
lookup found the document. -/
theorem Outcome.storesAgree_iff (agreement : InAgreement s client account user current)
    (changes : Changes account edit s) (outcome : Outcome s s' client account user current edit) :
    StoresAgree s' account user.uuid ↔ FindsOwn s user := by
  obtain ⟨changed, stored, credentials⟩ := outcome.account
  constructor
  · rintro ⟨other, otherStored, texts⟩
    obtain rfl : changed = other := Option.some.inj (stored.symm.trans otherStored)
    by_contra misses
    have newText := texts edit.credential
    rw [outcome.missed misses, agreement.texts, credentials, if_pos rfl,
      Option.some.injEq] at newText
    exact changes.2 current agreement.account newText
  · intro finds
    refine ⟨changed, stored, ?_⟩
    intro credential
    rw [credentials credential]
    by_cases same : credential = edit.credential
    · subst same
      rw [if_pos rfl, outcome.found finds]
    · rw [if_neg same, outcome.others credential same, agreement.texts]

/-- Where the stores agree after an edit, the next edit starts in agreement. -/
theorem Outcome.inAgreement (outcome : Outcome s s' client account user current edit)
    (agrees : StoresAgree s' account user.uuid) :
    ∃ changed, InAgreement s' client account user changed ∧
      ∀ credential : Credential, credential.ofAccount changed =
        if credential = edit.credential then edit.value else credential.ofAccount current := by
  obtain ⟨changed, stored, credentials⟩ := outcome.account
  obtain ⟨other, otherStored, texts⟩ := agrees
  obtain rfl : changed = other := Option.some.inj (stored.symm.trans otherStored)
  exact ⟨changed, ⟨outcome.idle, outcome.signedIn, stored, texts⟩, credentials⟩

/-! ## Sequences of edits -/

theorem not_findsOwn_of_drifted (agreement : InAgreement s client account user current)
    (drifted : current.email ≠ user.email) : ¬ FindsOwn s user := by
  intro finds
  have email := (Collection.firstID_eq_some_iff.mp finds).1
  exact drifted (Option.some.inj ((agreement.texts .email).symm.trans email))

/-- From a drifted client no edit keeps the stores in agreement. -/
theorem storesAgree_of_drifted {edits : List Edit} {states : List State}
    (agreement : InAgreement s client account user current)
    (drifted : current.email ≠ user.email) (run : EditRun platform client account s edits states) :
    (∀ s' ∈ states, StoresAgree s' account user.uuid) ↔ edits = [] := by
  cases run with
  | none => simp
  | @edit _ s' edit edits states changes done rest =>
      have outcome := done.outcome agreement changes.1
      simp only [reduceCtorEq, iff_false]
      intro agree
      exact not_findsOwn_of_drifted agreement drifted
        ((outcome.storesAgree_iff agreement changes).mp (agree s' List.mem_cons_self))

/-- The sequences of edits that keep the stores in agreement. -/
theorem storesAgree_iff_findsOwn {edits : List Edit} {states : List State}
    (agreement : InAgreement s client account user current)
    (inMemory : current.email = user.email) (run : EditRun platform client account s edits states) :
    (∀ s' ∈ states, StoresAgree s' account user.uuid) ↔
      edits = [] ∨ (FindsOwn s user ∧ ∀ edit ∈ edits.dropLast, edit.credential = .password) := by
  induction run generalizing current with
  | none => simp
  | @edit s s' edit edits states changes done rest ih =>
      have outcome := done.outcome agreement changes.1
      have first := outcome.storesAgree_iff agreement changes
      rw [List.forall_mem_cons, first]
      simp only [reduceCtorEq, false_or]
      refine and_congr_right ?_
      intro finds
      obtain ⟨changed, next, credentials⟩ := outcome.inAgreement (first.mpr finds)
      cases changesEmail : edit.credential with
      | email =>
          -- the document has lost the email in memory
          have drifted : changed.email ≠ user.email := by
            have newEmail : changed.email = edit.value :=
              (credentials .email).trans (if_pos changesEmail.symm)
            have old := changes.2 current agreement.account
            rw [changesEmail] at old
            rw [newEmail, ← inMemory]
            exact Ne.symm old
          rw [storesAgree_of_drifted next drifted rest]
          cases edits with
          | nil => simp
          | cons second others => simp [changesEmail]
      | password =>
          have sameEmail : changed.email = user.email := by
            have kept := credentials .email
            rw [changesEmail, if_neg (by simp)] at kept
            exact kept.trans inMemory
          have sameEmails : ∀ uuid, s'.server.users.textOf uuid Constants.email =
              s.server.users.textOf uuid Constants.email :=
            outcome.others .email (by rw [changesEmail]; simp)
          have stillFinds : FindsOwn s' user := by
            rw [FindsOwn, Collection.firstID_congr sameEmails]
            exact finds
          rw [ih next sameEmail]
          cases edits with
          | nil => simp
          | cons second others => simp [changesEmail, stillFinds]

/-- **The stores agree after every edit exactly when there is no edit, or the user's
own document is first for its email and no edit but the last changes the
email.** -/
theorem stores_agree_throughout_iff {edits : List Edit} {states : List State}
    (agree : Agree s client account user) (run : EditRun platform client account s edits states) :
    (∀ s' ∈ states, StoresAgree s' account user.uuid) ↔
      edits = [] ∨ (OwnDocumentFirst s.server.users user.uuid user.email ∧
        ∀ edit ∈ edits.dropLast, edit.credential = .password) := by
  have agreement : InAgreement s client account user ⟨user.email, user.password⟩ := by
    refine ⟨agree.idle, agree.signedIn, agree.stores.account, ?_⟩
    rintro (_ | _)
    · exact agree.stores.email
    · exact agree.stores.password
  rw [ownDocumentFirst_iff_firstID agree.stores.email]
  exact storesAgree_iff_findsOwn agreement rfl run

end

/-! ## Two sequences -/

/-- Make an edit and follow the labels until nothing is in flight. -/
def followEdit (client : Nat) (edit : Edit) (labels : List Label) (s : State) : Option State :=
  match (program plain).step s (.act client edit.action) with
  | none => none
  | some (_, s₁) =>
      match (program plain).execute (Succeeds plain) s₁ labels [] with
      | none => none
      | some (_, s') => if s'.tasks.isEmpty then some s' else none

theorem editDone_of_followEdit {client : Nat} {edit : Edit} {labels : List Label} {s s' : State}
    (followed : followEdit client edit labels s = some s') : EditDone plain client edit s s' := by
  unfold followEdit at followed
  split at followed
  · cases followed
  · rename_i output s₁ step
    split at followed
    · cases followed
    · rename_i trace last executed
      split at followed
      · rename_i finished
        obtain rfl := Option.some.inj followed
        exact ⟨output, s₁, trace, step, .of_execute .start executed,
          List.isEmpty_iff.mp finished⟩
      · cases followed

/-- The requests of one chain, each answered and delivered. -/
def oneChain : List Label :=
  [.serve 0 .answered, .deliver 0 {}, .serve 0 .answered, .deliver 0 {}, .serve 0 .answered,
    .deliver 0 {}]

/-- A new password and then a new email keep the stores in agreement. -/
theorem stores_agree_throughout_iff_emailLast :
    ∃ s₁ s₂,
      EditRun plain 0 0 signedUp [⟨.password, "renewed"⟩, ⟨.email, "ann@work.com"⟩] [s₁, s₂] ∧
      ∀ s' ∈ [s₁, s₂], StoresAgree s' 0 ann.uuid := by
  have executed : (followEdit 0 ⟨.password, "renewed"⟩ oneChain signedUp).any (fun s₁ =>
      decide (Changes 0 ⟨.email, "ann@work.com"⟩ s₁) &&
        (followEdit 0 ⟨.email, "ann@work.com"⟩ oneChain s₁).isSome) = true := by
    decide
  obtain ⟨s₁, first, rest⟩ := (Option.any_eq_true _ _).mp executed
  obtain ⟨changes, followed⟩ := Bool.and_eq_true_iff.mp rest
  obtain ⟨s₂, second⟩ := Option.isSome_iff_exists.mp followed
  have run :
      EditRun plain 0 0 signedUp [⟨.password, "renewed"⟩, ⟨.email, "ann@work.com"⟩] [s₁, s₂] :=
    .edit (by decide) (editDone_of_followEdit first)
      (.edit (of_decide_eq_true changes) (editDone_of_followEdit second) .none)
  exact ⟨s₁, s₂, run,
    (stores_agree_throughout_iff signedUp_agree run).mpr (Or.inr ⟨by decide, by decide⟩)⟩

/-- **An edit after a change of the email separates the stores.** The new password
reaches `Auth` and not the document. -/
theorem edits_separate_stores : ¬ EditsKeepAgreement plain := by
  intro keep
  have executed : (followEdit 0 ⟨.email, "ann@work.com"⟩ oneChain signedUp).any (fun s₁ =>
      decide (Changes 0 ⟨.password, "renewed"⟩ s₁) &&
        (followEdit 0 ⟨.password, "renewed"⟩ (oneChain.take 4) s₁).any
          fun s₂ => !StoresAgree s₂ 0 ann.uuid) = true := by
    decide
  obtain ⟨s₁, first, rest⟩ := (Option.any_eq_true _ _).mp executed
  obtain ⟨changes, followed⟩ := Bool.and_eq_true_iff.mp rest
  obtain ⟨s₂, second, separated⟩ := (Option.any_eq_true _ _).mp followed
  have run :
      EditRun plain 0 0 signedUp [⟨.email, "ann@work.com"⟩, ⟨.password, "renewed"⟩] [s₁, s₂] :=
    .edit (by decide) (editDone_of_followEdit first)
      (.edit (of_decide_eq_true changes) (editDone_of_followEdit second) .none)
  have agrees := keep signedUp 0 0 ann _ _ signedUp_agree run s₂ (by simp)
  simp [agrees] at separated

end MyMealPrep.Login
