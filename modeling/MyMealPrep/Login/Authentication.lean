import Mathlib.Data.List.Nodup
import Mathlib.Data.List.Perm.Basic

/-!
# The authentication service

The service keeps accounts, each with an email and a password, and no two of
them with the same email: the accounts carry that fact, so that no operation can
lose it. An account is named by its position; accounts are never removed.

`AuthService` is what the app relies on. The service signs in with the credentials of an account
and no others, and what it accepts it does. It need not accept anything else, whatever its
reasons (a weak password, a login too long ago): a free email may be refused. It cannot
accept an email in use, for the accounts would not be distinct (`unused_of_createUser`). The
service that refuses nothing else is `AuthService.obliging`.
-/

set_option autoImplicit false

namespace MyMealPrep.Login

/-- The credentials of an account. -/
structure Account where
  email : String
  password : String
deriving DecidableEq, Repr

/-- The accounts of the service, with pairwise distinct emails. -/
structure Accounts where
  list : List Account
  distinct : (list.map Account.email).Nodup

namespace Accounts

/-- No accounts. -/
def empty : Accounts := ⟨[], List.nodup_nil⟩

end Accounts

/-- The operations of the service. Each answers with the accounts that it leaves, or refuses. -/
structure AuthService where
  signIn : Accounts → String → String → Option Nat
  createUser : Accounts → String → String → Option (Accounts × Nat)
  updateEmail : Accounts → Nat → String → Option Accounts
  updatePassword : Accounts → Nat → String → Option Accounts
  signIn_eq_some_iff : ∀ {accounts email password index},
    signIn accounts email password = some index ↔
      accounts.list[index]? = some ⟨email, password⟩
  createUser_list : ∀ {accounts created email password index},
    createUser accounts email password = some (created, index) →
      created.list = accounts.list ++ [⟨email, password⟩] ∧ index = accounts.list.length
  updateEmail_getElem? : ∀ {accounts updated index email},
    updateEmail accounts index email = some updated → ∀ other : Nat,
      updated.list[other]? =
        if index = other then accounts.list[other]?.map fun account => { account with email }
        else accounts.list[other]?
  updatePassword_getElem? : ∀ {accounts updated index password},
    updatePassword accounts index password = some updated → ∀ other : Nat,
      updated.list[other]? =
        if index = other then accounts.list[other]?.map fun account => { account with password }
        else accounts.list[other]?

namespace AuthService

theorem unused_of_createUser {service : AuthService} {accounts created : Accounts}
    {email password : String} {index : Nat}
    (accepted : service.createUser accounts email password = some (created, index)) :
    email ∉ accounts.list.map Account.email := by
  have distinct := created.distinct
  rw [(service.createUser_list accepted).1, List.map_append] at distinct
  exact fun used => (List.nodup_append.mp distinct).2.2 email used email (by simp) rfl

theorem exists_signIn {service : AuthService} {accounts : Accounts} {email password : String}
    (member : ⟨email, password⟩ ∈ accounts.list) :
    ∃ index, service.signIn accounts email password = some index := by
  obtain ⟨index, stored⟩ := List.getElem?_of_mem member
  exact ⟨index, service.signIn_eq_some_iff.mpr stored⟩

/-! ## A service that accepts what it can -/

theorem nodup_append {accounts : List Account} {email password : String}
    (distinct : (accounts.map Account.email).Nodup)
    (unused : email ∉ accounts.map Account.email) :
    ((accounts ++ [Account.mk email password]).map Account.email).Nodup := by
  rw [List.map_append]
  refine List.nodup_append.mpr ⟨distinct, List.nodup_singleton email, ?_⟩
  intro used member other otherMember
  rw [List.map_singleton, List.mem_singleton] at otherMember
  subst otherMember
  exact fun same => unused (same ▸ member)

theorem nodup_set {accounts : List Account} {index : Nat} {account : Account}
    (distinct : (accounts.map Account.email).Nodup) (inRange : index < accounts.length)
    (unused : account.email ∉ (accounts.eraseIdx index).map Account.email) :
    ((accounts.set index account).map Account.email).Nodup := by
  have rearranged : (accounts.set index account).Perm (account :: accounts.eraseIdx index) :=
    List.set_perm_cons_eraseIdx inRange account
  refine (rearranged.map Account.email).nodup_iff.mpr ?_
  rw [List.map_cons]
  exact List.nodup_cons.mpr
    ⟨unused, distinct.sublist ((List.eraseIdx_sublist accounts index).map Account.email)⟩

theorem map_email_set_password (accounts : List Account) {index : Nat}
    (inRange : index < accounts.length) (password : String) :
    (accounts.set index { accounts[index] with password }).map Account.email =
      accounts.map Account.email := by
  have within : index < (accounts.map Account.email).length := by simpa using inRange
  have same : accounts[index].email = (accounts.map Account.email)[index] := by simp
  rw [List.map_set, same, List.set_getElem_self]

/-- `signIn(withEmail:password:)` finds the account with these credentials. -/
def findAccount (accounts : Accounts) (email password : String) : Option Nat :=
  accounts.list.findIdx? fun account => account = ⟨email, password⟩

/-- `createUser(withEmail:password:)` adds an account unless the email is in use. -/
def addAccount (accounts : Accounts) (email password : String) : Option (Accounts × Nat) :=
  if unused : email ∉ accounts.list.map Account.email then
    some (⟨accounts.list ++ [⟨email, password⟩], nodup_append accounts.distinct unused⟩,
      accounts.list.length)
  else none

/-- `updateEmail(to:)` on an account, refused when another account has the email. -/
def replaceEmail (accounts : Accounts) (index : Nat) (email : String) : Option Accounts :=
  if valid : index < accounts.list.length ∧
      email ∉ (accounts.list.eraseIdx index).map Account.email then
    some ⟨accounts.list.set index { accounts.list[index] with email },
      nodup_set accounts.distinct valid.1 valid.2⟩
  else none

/-- `updatePassword(to:)` on an account. -/
def replacePassword (accounts : Accounts) (index : Nat) (password : String) : Option Accounts :=
  if inRange : index < accounts.list.length then
    some ⟨accounts.list.set index { accounts.list[index] with password },
      (map_email_set_password accounts.list inRange password).symm ▸ accounts.distinct⟩
  else none

theorem findAccount_eq_some_iff {accounts : Accounts} {email password : String} {index : Nat} :
    findAccount accounts email password = some index ↔
      accounts.list[index]? = some ⟨email, password⟩ := by
  rw [findAccount, List.findIdx?_eq_some_iff_getElem]
  constructor
  · rintro ⟨inRange, same, -⟩
    exact List.getElem?_eq_some_iff.mpr ⟨inRange, of_decide_eq_true same⟩
  · intro stored
    obtain ⟨inRange, same⟩ := List.getElem?_eq_some_iff.mp stored
    refine ⟨inRange, decide_eq_true same, fun earlier before found => ?_⟩
    -- two accounts with one email are the same
    have earlierInRange : earlier < accounts.list.length := Nat.lt_trans before inRange
    have emails : (accounts.list.map Account.email)[earlier]? =
        (accounts.list.map Account.email)[index]? := by
      rw [List.getElem?_map, List.getElem?_map, stored, List.getElem?_eq_getElem earlierInRange,
        of_decide_eq_true found]
    have within : earlier < (accounts.list.map Account.email).length := by
      simpa using earlierInRange
    exact absurd ((List.getElem?_inj within accounts.distinct).mp emails) (Nat.ne_of_lt before)

theorem addAccount_list {accounts created : Accounts} {email password : String} {index : Nat}
    (accepted : addAccount accounts email password = some (created, index)) :
    created.list = accounts.list ++ [⟨email, password⟩] ∧ index = accounts.list.length := by
  unfold addAccount at accepted
  split at accepted
  · cases accepted
    exact ⟨rfl, rfl⟩
  · cases accepted

theorem replaceEmail_getElem? {accounts updated : Accounts} {index : Nat} {email : String}
    (accepted : replaceEmail accounts index email = some updated) (other : Nat) :
    updated.list[other]? =
      if index = other then accounts.list[other]?.map fun account => { account with email }
      else accounts.list[other]? := by
  unfold replaceEmail at accepted
  split at accepted
  · rename_i valid
    obtain rfl := Option.some.inj accepted
    rw [List.getElem?_set]
    by_cases same : index = other
    · subst same
      simp [valid.1]
    · simp [same]
  · cases accepted

theorem replacePassword_getElem? {accounts updated : Accounts} {index : Nat} {password : String}
    (accepted : replacePassword accounts index password = some updated) (other : Nat) :
    updated.list[other]? =
      if index = other then accounts.list[other]?.map fun account => { account with password }
      else accounts.list[other]? := by
  unfold replacePassword at accepted
  split at accepted
  · rename_i inRange
    obtain rfl := Option.some.inj accepted
    rw [List.getElem?_set]
    by_cases same : index = other
    · subst same
      simp [inRange]
    · simp [same]
  · cases accepted

/-- The service that refuses only what it must. -/
def obliging : AuthService where
  signIn := findAccount
  createUser := addAccount
  updateEmail := replaceEmail
  updatePassword := replacePassword
  signIn_eq_some_iff := findAccount_eq_some_iff
  createUser_list := addAccount_list
  updateEmail_getElem? := replaceEmail_getElem?
  updatePassword_getElem? := replacePassword_getElem?

end AuthService

end MyMealPrep.Login
