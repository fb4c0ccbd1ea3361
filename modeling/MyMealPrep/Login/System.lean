import MyMealPrep.Firestore.Collection
import MyMealPrep.Login.Authentication
import MyMealPrep.Machines.RequestReply
import MyMealPrep.Models.Texts
import MyMealPrep.Models.User

/-!
# Signing in, signing up and editing a login

The login part of the app: `SignUpAndInViewController`, `ProfileViewController`
(logging out), `EditLoginInfoViewController` and the functions of
`UserController` on the users collection. Every client keeps
`UserController.shared.currentUser` in memory and the account its own `Auth` is
signed in with; all of them share the accounts of the service and the users
collection. Each request is a step of its own, each callback another one.

What a user has typed when a handler reads it comes with the action, and what a
callback reads from the screen or makes up (a new UUID) comes with the input of
its delivery. A request that fails changes nothing at the server.

A query is answered from Firestore's local store on the client: the documents of the server, as
the client's own writes in flight are going to leave them. The store keeps a queue of writes
for each account, and only those of the account signed in count (`seen`).

The authentication service and the texts of the standard library are parameters
(`Platform`).
-/

set_option autoImplicit false

namespace MyMealPrep.Login

open Firestore (Collection Document Snapshot Value)

/-- What the login is built on. -/
structure Platform where
  auth : AuthService
  characters : CharacterView
  texts : TextEquality

/-! ## Requests, replies and continuations -/

/-- A request to Firestore's users collection or to the authentication service. A write has the
queue that it waits in: the account signed in when it is issued, if any. -/
inductive Request where
  | getUsers (email : String)
  | setUser (queue : Option Nat) (uuid : String) (data : Document)
  | updateUser (queue : Option Nat) (uuid field value : String)
  | signIn (email password : String)
  | createUser (email password : String)
  | updateEmail (account : Nat) (email : String)
  | updatePassword (account : Nat) (password : String)

/-- What comes back: an error, nothing, an account or the documents found. -/
inductive Reply where
  | error
  | done
  | account (index : Nat)
  | documents (snapshot : Snapshot)

/-- The callbacks of the requests, each with what its closure captures. -/
inductive Continuation where
  | viewDidLoad
  | signInFetched (email password : String)
  | signedIn (email : String)
  | signUpFetched (email password : String)
  | userCreated (email password : String)
  | userStored (user : User)
  | emailUpdated (account : Nat) (newEmail : String)
  | passwordUpdated (newPassword : String)
  | updateEmailFetched (email : String)
  | updatePasswordFetched (password : String)
  | ignored

/-- What a handler shows or calls. -/
inductive Event where
  | toTabBar
  | presentLoginScreen
  | errorPopup (title message : String)
  | editInfoPopup (title message actionTitle : String)
  | reAuthUser
deriving DecidableEq, Repr

/-- What a user does. Texts are those of the text fields when the handler runs. -/
inductive Action where
  | viewDidLoad
  | signUpSignInButtonTapped (statusIsSignUp : Bool) (username enterPassword : String)
  | logoutButtonTapped
  | saveButtonTapped (editEmail editPassword reEnter : String)
deriving DecidableEq, Repr

/-- What a callback reads besides its reply: a new UUID and the password fields of
the sign-up screen. -/
structure Input where
  uuid : String := ""
  enterPassword : String := ""
  confirmPassword : String := ""

/-- How a request fares. -/
inductive Fate where
  | answered
  | failed
deriving DecidableEq, Repr

/-- The account `Auth.auth().currentUser` stands for, with its email. -/
structure Session where
  account : Nat
  email : String
deriving DecidableEq, Repr

/-- What one client keeps in memory. -/
structure Client where
  currentUser : Option User := none
  session : Option Session := none
deriving DecidableEq, Repr

/-- The queue of the writes issued now. -/
def Client.queue (client : Client) : Option Nat :=
  client.session.map Session.account

/-- What all clients share. -/
structure Server where
  auth : Accounts
  users : Collection

abbrev Effect := RequestReply.Effect Client Request Continuation Event
abbrev Task := RequestReply.Task Request Reply Continuation
abbrev State := RequestReply.State Client Server Request Reply Continuation
abbrev Label := RequestReply.Label Action Input Fate
abbrev Output := RequestReply.Output Request Continuation Event
abbrev Trace := RequestReply.Trace Request Continuation Action Input Fate Event

/-! ## The server -/

/-- The server handles one request. -/
def serve (platform : Platform) : Fate → Server → Request → Server × Reply
  | .failed, server, _ => (server, .error)
  | .answered, server, .getUsers email =>
      (server, .documents (server.users.whereField Constants.email email))
  | .answered, server, .setUser _ uuid data =>
      ({ server with users := server.users.setData uuid data }, .done)
  | .answered, server, .updateUser _ uuid field value =>
      match server.users.updateData uuid field (.string value) with
      | none => (server, .error)
      | some users => ({ server with users }, .done)
  | .answered, server, .signIn email password =>
      match platform.auth.signIn server.auth email password with
      | none => (server, .error)
      | some index => (server, .account index)
  | .answered, server, .createUser email password =>
      match platform.auth.createUser server.auth email password with
      | none => (server, .error)
      | some (auth, index) => ({ server with auth }, .account index)
  | .answered, server, .updateEmail account email =>
      match platform.auth.updateEmail server.auth account email with
      | none => (server, .error)
      | some auth => ({ server with auth }, .done)
  | .answered, server, .updatePassword account password =>
      match platform.auth.updatePassword server.auth account password with
      | none => (server, .error)
      | some auth => ({ server with auth }, .done)

/-! ## The local store -/

/-- The queue of a write. -/
def Request.queue : Request → Option (Option Nat)
  | .setUser queue _ _ => some queue
  | .updateUser queue _ _ _ => some queue
  | _ => none

/-- What a write is going to make of the users collection. -/
def localWrite (users : Collection) : Request → Collection
  | .setUser _ uuid data => users.setData uuid data
  | .updateUser _ uuid field value => (users.updateData uuid field (.string value)).getD users
  | _ => users

/-- The users collection that a client sees: its own writes that are not answered yet and wait in
the queue of its account are applied in the order in which they were issued. -/
def localUsers (client : Client) (unanswered : List Request) (users : Collection) : Collection :=
  (unanswered.filter fun request => request.queue == some client.queue).foldl localWrite users

/-- The users collection that a client of a state sees. -/
def usersSeen (s : State) (client : Nat) : Collection :=
  localUsers (s.clients client) (s.unanswered client) s.server.users

/-- What a request is answered from: a query from the local store. -/
def seen (client : Client) (unanswered : List Request) (request : Request) (server : Server) :
    Server :=
  match request with
  | .getUsers _ => { server with users := localUsers client unanswered server.users }
  | _ => server

/-! ## `UserController` on the users collection -/

namespace UserController

/-- The dictionary `createUser` writes. -/
def userDict (user : User) : Document :=
  [(Constants.email, .string user.email), (Constants.password, .string user.password)]

/-- What `createUser` passes to its completion when its write is answered. -/
def createUser (user : User) : Reply → Option (Except UserError (Option User))
  | .error => none
  | _ => some (.ok (some user))

/-- What `fetchUserWithEmail` passes to its completion when its query is answered.
A failed query and a first document that is no user leave the completion
uncalled. -/
def fetchUserWithEmail : Reply → Option (Except UserError (Option User))
  | .error => none
  | .documents ((documentID, document) :: _) =>
      match User.ofDocument documentID document with
      | none => none
      | some user => some (.ok (some user))
  | _ => some (.ok none)

/-- `updateEmail` and `updatePassword` look up the document of the email in memory;
`continuation` is the callback of the lookup. -/
def lookUpCurrentUser (client : Client) (continuation : Continuation) :
    List (Request × Continuation) :=
  match client.currentUser with
  | none => []
  | some currentUser => [(.getUsers currentUser.email, continuation)]

/-- The update issued by the callback of that lookup. -/
def updateFetchedUser (client : Client) (reply : Reply) (field value : String) :
    List (Request × Continuation) :=
  match fetchUserWithEmail reply with
  | some (.ok (some user)) => [(.updateUser client.queue user.uuid field value, .ignored)]
  | _ => []

end UserController

/-! ## `SignUpAndInViewController` -/

/-- A letter from A to Z in either case. -/
def isLetter (c : Char) : Bool :=
  ('a' ≤ c && c ≤ 'z') || ('A' ≤ c && c ≤ 'Z')

/-- `[A-Za-z0-9]` -/
def isAlphanumeric (c : Char) : Bool :=
  isLetter c || ('0' ≤ c && c ≤ '9')

/-- `[A-Z0-9a-z._%+-]` -/
def isLocalCharacter (c : Char) : Bool :=
  isAlphanumeric c || ['.', '_', '%', '+', '-'].contains c

/-- `[A-Za-z0-9.-]` -/
def isDomainCharacter (c : Char) : Bool :=
  isAlphanumeric c || ['.', '-'].contains c

/-- `[A-Za-z0-9.-]+\.[A-Za-z]{2,64}`, where the final letters are all those after the
last dot. -/
def isDomain (text : List Char) : Bool :=
  match text.reverse.span isLetter with
  | (final, '.' :: front) =>
      2 ≤ final.length && final.length ≤ 64 && !front.isEmpty && front.all isDomainCharacter
  | _ => false

/-- `isValidEmail`: the whole text matches
`[A-Z0-9a-z._%+-]+@[A-Za-z0-9.-]+\.[A-Za-z]{2,64}`. -/
def isValidEmail (email : String) : Bool :=
  match email.toList.span isLocalCharacter with
  | (front, '@' :: domain) => !front.isEmpty && isDomain domain
  | _ => false

/-- `isValidPassword` -/
def isValidPassword (characters : CharacterView) (password : String) : Bool :=
  let minPasswordLength := 6
  minPasswordLength ≤ characters.count password

/-- `viewDidLoad`: a client whose `Auth` still has an account fetches its user. -/
def viewDidLoad (client : Client) : Effect :=
  match client.session with
  | none => { client }
  | some session => { client, requests := [(.getUsers session.email, .viewDidLoad)] }

/-- The callback of `viewDidLoad`. -/
def viewDidLoadFetched (reply : Reply) (client : Client) : Effect :=
  match UserController.fetchUserWithEmail reply with
  | some (.ok (some user)) =>
      { client := { client with currentUser := some user }, events := [.toTabBar] }
  | _ => { client }

/-- `signUpSignInButtonTapped` -/
def signUpSignInButtonTapped (statusIsSignUp : Bool) (email password : String) (client : Client) :
    Effect :=
  if email.isEmpty || password.isEmpty then { client }
  else if statusIsSignUp = false then
    if isValidEmail email then
      { client, requests := [(.getUsers email, .signInFetched email password)] }
    else
      { client, events := [.errorPopup "Whoops" "That isn't a valid email. Try again!"] }
  else
    { client, requests := [(.getUsers email, .signUpFetched email password)] }

/-- The callback of the fetch of a sign-in: `currentUser` is set before `Auth` is
asked. -/
def signInFetched (texts : TextEquality) (email password : String) (reply : Reply)
    (client : Client) : Effect :=
  match UserController.fetchUserWithEmail reply with
  | some (.ok (some user)) =>
      if texts.equal password user.password then
        if texts.equal email user.email then
          { client := { client with currentUser := some user }
            requests := [(.signIn email password, .signedIn email)] }
        else
          { client
            events := [.errorPopup "Whoops" "Your email and password don't match. Try again."] }
      else
        { client
          events := [.errorPopup "Whoops" "Your email and password don't match. Try again."] }
  | some (.ok none) =>
      { client
        events := [.errorPopup "Hold up!"
          "I couldn't find an account with that email. Try again or tap Sign Up"] }
  | _ => { client }

/-- The callback of `Auth.signIn`. -/
def signedIn (email : String) (reply : Reply) (client : Client) : Effect :=
  match reply with
  | .account account =>
      { client := { client with session := some { account, email } }, events := [.toTabBar] }
  | _ => { client }

/-- The callback of the fetch of a sign-up. -/
def signUpFetched (email password : String) (reply : Reply) (client : Client) : Effect :=
  match UserController.fetchUserWithEmail reply with
  | some (.ok (some _)) =>
      { client
        events := [.errorPopup "Whoops"
          "It looks like there is already an account with this email."] }
  | some (.ok none) =>
      { client, requests := [(.createUser email password, .userCreated email password)] }
  | _ => { client }

/-- The callback of `Auth.createUser`, which checks the email and the passwords only
now that the account exists. -/
def userCreated (platform : Platform) (email password : String) (reply : Reply) (input : Input)
    (client : Client) : Effect :=
  match reply with
  | .account account =>
      let client := { client with session := some { account, email } }
      if isValidEmail email then
        if isValidPassword platform.characters password then
          if platform.texts.equal input.enterPassword input.confirmPassword then
            let user : User := { email, password, uuid := input.uuid }
            { client
              requests := [(.setUser client.queue user.uuid (UserController.userDict user),
                .userStored user)] }
          else
            { client, events := [.errorPopup "Whoops" "Your passwords don't match. Try again"] }
        else
          { client
            events := [.errorPopup "Whoops" "Make sure your password is at least 6 characters."] }
      else
        { client, events := [.errorPopup "Whoops" "That isn't a valid email. Try again!"] }
  | _ =>
      { client
        events := [.errorPopup "Whoops" "Make sure your password is at least 6 characters."] }

/-- The callback of `UserController.createUser`. -/
def userStored (user : User) (reply : Reply) (client : Client) : Effect :=
  match UserController.createUser user reply with
  | some (.ok user) =>
      { client := { client with currentUser := user }, events := [.toTabBar] }
  | _ => { client }

/-! ## `ProfileViewController` -/

/-- `logoutButtonTapped` signs `Auth` out and leaves `currentUser` as it is. -/
def logoutButtonTapped (client : Client) : Effect :=
  { client := { client with session := none }, events := [.presentLoginScreen] }

/-! ## `EditLoginInfoViewController` -/

/-- `updateUsersEmail` -/
def updateUsersEmail (newEmail : String) (client : Client) : Effect :=
  if newEmail.isEmpty then { client }
  else
    match client.session with
    | none => { client }
    | some session =>
        { client
          requests := [(.updateEmail session.account newEmail,
            .emailUpdated session.account newEmail)] }

/-- The callback of `Auth`'s `updateEmail`. The email `Auth` has in memory is updated,
`currentUser` is not. -/
def emailUpdated (account : Nat) (newEmail : String) (reply : Reply) (client : Client) : Effect :=
  match reply with
  | .error => { client, events := [.reAuthUser] }
  | _ =>
      let client := { client with
        session := client.session.map fun session =>
          if session.account = account then { session with email := newEmail } else session }
      { client
        requests := UserController.lookUpCurrentUser client (.updateEmailFetched newEmail)
        events := [.editInfoPopup "Success!" "You successfully updated your email" "OK"] }

/-- `updateUsersPassword` -/
def updateUsersPassword (texts : TextEquality) (newPassword reEnteredPassword : String)
    (client : Client) : Effect :=
  if (!newPassword.isEmpty && reEnteredPassword.isEmpty)
      || (newPassword.isEmpty && !reEnteredPassword.isEmpty) then
    { client
      events := [.editInfoPopup "Hold Up!"
        "Please make sure you have entered AND retyped a new password" "OK"] }
  else if !texts.equal newPassword reEnteredPassword then
    { client
      events := [.editInfoPopup "Error" "Your passwords don't match. Try again." "OK"] }
  else if !newPassword.isEmpty && !reEnteredPassword.isEmpty then
    match client.session with
    | none => { client }
    | some session =>
        { client
          requests := [(.updatePassword session.account newPassword,
            .passwordUpdated newPassword)] }
  else { client }

/-- The callback of `Auth`'s `updatePassword`. -/
def passwordUpdated (newPassword : String) (reply : Reply) (client : Client) : Effect :=
  match reply with
  | .error => { client, events := [.reAuthUser] }
  | _ =>
      { client
        requests := UserController.lookUpCurrentUser client (.updatePasswordFetched newPassword)
        events := [.editInfoPopup "Success!" "You successfully updated your password" "OK"] }

/-- `saveButtonTapped`: first the email, then the password. -/
def saveButtonTapped (texts : TextEquality) (newEmail newPassword reEnteredPassword : String)
    (client : Client) : Effect :=
  let email := updateUsersEmail newEmail client
  let password := updateUsersPassword texts newPassword reEnteredPassword email.client
  { client := password.client
    requests := email.requests ++ password.requests
    events := email.events ++ password.events }

/-! ## The program -/

/-- The handler of an action. -/
def handle (platform : Platform) (action : Action) (client : Client) : Effect :=
  match action with
  | .viewDidLoad => viewDidLoad client
  | .signUpSignInButtonTapped statusIsSignUp username enterPassword =>
      signUpSignInButtonTapped statusIsSignUp username enterPassword client
  | .logoutButtonTapped => logoutButtonTapped client
  | .saveButtonTapped editEmail editPassword reEnter =>
      saveButtonTapped platform.texts editEmail editPassword reEnter client

/-- The callback of a request. -/
def resume (platform : Platform) (continuation : Continuation) (reply : Reply) (input : Input)
    (client : Client) : Effect :=
  match continuation with
  | .viewDidLoad => viewDidLoadFetched reply client
  | .signInFetched email password => signInFetched platform.texts email password reply client
  | .signedIn email => signedIn email reply client
  | .signUpFetched email password => signUpFetched email password reply client
  | .userCreated email password => userCreated platform email password reply input client
  | .userStored user => userStored user reply client
  | .emailUpdated account newEmail => emailUpdated account newEmail reply client
  | .passwordUpdated newPassword => passwordUpdated newPassword reply client
  | .updateEmailFetched email =>
      { client, requests := UserController.updateFetchedUser client reply Constants.email email }
  | .updatePasswordFetched password =>
      { client
        requests := UserController.updateFetchedUser client reply Constants.password password }
  | .ignored => { client }

/-- The login part of the app. None of its handlers traps. -/
def program (platform : Platform) : RequestReply.Program Client Server Request Reply Continuation
    Action Input Fate Event where
  handle action client := some (handle platform action client)
  resume continuation reply input client := some (resume platform continuation reply input client)
  serve := serve platform
  seen := seen

/-- A service that refuses only what it must, and plain texts. -/
def plain : Platform where
  auth := .obliging
  characters := codePoints
  texts := .codePoints

/-- No account, no user, nobody signed in and nothing in flight. -/
def fresh : State where
  clients := fun _ => {}
  server := { auth := .empty, users := ∅ }
  tasks := []

end MyMealPrep.Login
