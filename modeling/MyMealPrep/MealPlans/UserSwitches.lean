import MyMealPrep.Machines.OutsideChanges
import MyMealPrep.Machines.Owners
import MyMealPrep.MealPlans.History
import MyMealPrep.MealPlans.References
import MyMealPrep.MealPlans.SwipeDeletes

/-!
# Users that sign in one after another, and their meal plans

A sign-in replaces the current user of a client; the plans in memory, the fetches in
flight and the selection screen stay. A list of plans is current when it has been
emptied for a load since the last sign-in. A fetch shows a client also its own saves and
deletes that are still in flight (`localSessions`).

A swipe deletes the document that the plan of the row names. A fetched plan of a current
list names a document of the current user. A plan created in the session names a
UUID that no document ever has, so that its swipe deletes nothing. So when only rows
of current lists are swiped, no document disappears unless its author was signed in
where its deletion was issued (`plan_deleted_by_author`).
-/

set_option autoImplicit false

namespace MyMealPrep.MealPlans

open Firestore (Collection Document Snapshot Value)
open RequestReply (OrOutside Ownership Program Store)

namespace UserSwitches

variable {platform : Platform}

/-! ## The program with sign-ins -/

/-- What the other screens do to the plans: a user signs in, recipes are found or fetched, the
book is changed, and a date is picked for a recipe. -/
inductive Change where
  | signIn (user : User)
  | recipesFound (recipes : List Recipe)
  | bookChanged (savedRecipes : List Ref)
  | datePicked (recipe : Ref) (date : Date)

/-- A sign-in sets `UserController.shared.currentUser`. Recipes found are new objects, and
`RecipeController.shared.savedRecipes` becomes any list of objects. A date picked changes the
recipe in memory; the document to be updated is named by the recipe, and so it is no plan's. -/
def change : Change → Client → Client
  | .signIn user, client => { client with currentUser := some user }
  | .recipesFound recipes, client =>
      { client with recipes := (client.recipes.allocAll recipes).1 }
  | .bookChanged savedRecipes, client => { client with savedRecipes }
  | .datePicked recipe date, client =>
      { client with recipes := client.recipes.modify recipe (updateDateToEat date) }

abbrev Label := RequestReply.Label (OrOutside Action Change) Unit Fate
abbrev Trace :=
  RequestReply.Trace Request Continuation (OrOutside Action Change) Unit Fate Empty

/-- The meal plans of clients on which users sign in. -/
def sessions (platform : Platform) : Program Client Collection Request Reply Continuation
    (OrOutside Action Change) Unit Fate Empty :=
  (program platform).withOutside change

/-- The meal plan container, seen from them. -/
def sessionStore (platform : Platform) : Store (sessions platform) String Document :=
  (mealPlanStore platform).withOutside change

/-- The same over Firestore's local stores: a fetch of a client shows its own saves and deletes
before they are served. -/
def localSessions (platform : Platform) : Program Client Collection Request Reply Continuation
    (OrOutside Action Change) Unit Fate Empty :=
  (sessions platform).withLocalWrites .answered

theorem servesStored (platform : Platform) : (sessionStore platform).ServesStored :=
  fun _ _ _ _ _ => stored_of_listed

/-- The list of the client has been emptied for a load since the last sign-in. At the start no
plan is in memory. -/
def isCurrent : Trace → Nat → Bool
  | [], _ => true
  | entry :: earlier, client =>
      match entry.1 with
      | .act other (.outside (.signIn _)) => other != client && isCurrent earlier client
      | .act other (.own .fetchMealPlans) => other == client || isCurrent earlier client
      | _ => isCurrent earlier client

/-- The UUID that the handler of an action makes for a plan or for a document. -/
def madeUUID : Label → Option String
  | .act client (.own action) => MealPlans.madeUUID (.act client action)
  | _ => none

/-- A UUID is used when it is the ID of a document or an earlier handler made it. -/
def Used (platform : Platform) (mealPlanContainer : Collection) (trace : Trace) (uuid : String) :
    Prop :=
  (sessionStore platform).Known (oldIDs mealPlanContainer) trace uuid ∨
    ∃ entry ∈ trace, madeUUID entry.1 = some uuid

/-- The row that is swiped is one of a current list. -/
def SwipesCurrent (trace : Trace) : Label → Prop
  | .act client (.own (.commitDelete _)) => isCurrent trace client = true
  | _ => True

/-- The UUID that a handler makes is not used, and only rows of a current list are swiped. -/
def Guarded (platform : Platform) (mealPlanContainer : Collection) (trace : Trace) (_ : State)
    (label : Label) : Prop :=
  (∀ uuid ∈ madeUUID label, ¬ Used platform mealPlanContainer trace uuid) ∧
    SwipesCurrent trace label

instance (mealPlanContainer : Collection) (trace : Trace) (uuid : String) :
    Decidable (Used platform mealPlanContainer trace uuid) :=
  inferInstanceAs (Decidable ((mealPlanContainer[uuid]?.isSome = true ∨
    ∃ entry ∈ trace, uuid ∈ (sessionStore platform).issuedKeys entry.2.requests) ∨
      ∃ entry ∈ trace, madeUUID entry.1 = some uuid))

instance (trace : Trace) (label : Label) : Decidable (SwipesCurrent trace label) := by
  unfold SwipesCurrent
  split <;> infer_instance

instance (mealPlanContainer : Collection) (trace : Trace) (s : State) (label : Label) :
    Decidable (Guarded platform mealPlanContainer trace s label) :=
  inferInstanceAs (Decidable ((∀ uuid ∈ madeUUID label,
    ¬ Used platform mealPlanContainer trace uuid) ∧ SwipesCurrent trace label))

/-! ## Whose documents are whose -/

/-- The ID of the document that a request is to delete. -/
def deletion : Request → Option String
  | .deleteMealPlan mealPlanUID => some mealPlanUID
  | _ => none

/-- A fetched plan of the list names the document. -/
def Names (client : Client) (id : String) : Prop :=
  ∃ ref ∈ client.mealPlans, ∃ plan, client.plans.read ref = some plan ∧ plan.isFetched = true ∧
    plan.mealPlan.mealPlanUID = some id

/-- A document is its author's and a client its current user's. A UUID that was made for
something else than a document is never created. -/
def authors (platform : Platform) (mealPlanContainer : Collection) :
    Ownership (sessionStore platform) String where
  owner document := Document.text document Constants.authorID
  tenant client := client.currentUser.map User.uuid
  names := Names
  current trace client := isCurrent trace client = true
  removal := deletion
  barred trace id := Used platform mealPlanContainer trace id ∧
    ¬ (sessionStore platform).Known (oldIDs mealPlanContainer) trace id
  removal_of_lost := by
    intro fate container request id document stored gone
    replace stored : container[id]? = some document := stored
    replace gone : (serve fate container request).1[id]? = none := gone
    have unchanged : ¬ container[id]? = none := by simp [stored]
    cases fate with
    | failed => exact absurd gone unchanged
    | answered =>
        cases request with
        | getMealPlans => exact absurd gone unchanged
        | setMealPlan mealPlanUID data =>
            have kept : (container.setData mealPlanUID data)[id]? ≠ none := by
              rw [Collection.setData_get]
              split
              · exact Option.some_ne_none _
              · exact unchanged
            exact absurd gone kept
        | deleteMealPlan mealPlanUID =>
            by_cases same : mealPlanUID = id
            · exact congrArg some same
            · have kept : (container.delete mealPlanUID)[id]? = container[id]? :=
                (Collection.delete_get _ _ _).trans (if_neg same)
              exact absurd (kept.symm.trans gone) unchanged

theorem text_authorID_dictionary (mealPlan : MealPlan Recipe) (id : String)
    (authorID : Option String) (recipeUIDs : Nat → String) :
    Document.text (Value.storedFields (mealPlan.dictionary id authorID recipeUIDs))
      Constants.authorID = some (authorID.getD "") := by
  simp [Document.text, Document.field, MealPlan.dictionary, Value.storedFields_eq_map,
    List.lookup_cons, Constants.mealPlanName, Constants.startDate, Constants.endDate,
    Constants.mealPlanRecipes, Constants.authorID, Constants.mealPlanUID, Value.asString]

/-! ## What handlers and callbacks do -/

theorem toggle_currentUser {texts : TextEquality} {ref : Ref} {client : Client}
    {selection : Selection} {effect : Effect}
    (toggled : ToggleCase texts ref client selection effect) :
    effect.client.currentUser = client.currentUser := by
  cases toggled <;> rfl

theorem handle_currentUser {action : Action} {client : Client} {effect : Effect}
    (handled : handle platform action client = some effect) :
    effect.client.currentUser = client.currentUser := by
  cases actionCase_of_handle handled with
  | toggled shown mayShow => exact toggle_currentUser (toggleCase _ _ _ _)
  | _ => rfl

theorem names_of_handle {action : Action} {client : Client} {effect : Effect}
    (handled : handle platform action client = some effect) {id : String}
    (named : Names effect.client id) : action ≠ .fetchMealPlans ∧ Names client id := by
  have loads : action ≠ .fetchMealPlans := by
    rintro rfl
    obtain rfl := Option.some.inj handled
    obtain ⟨ref, member, -⟩ := named
    cases member
  refine ⟨loads, ?_⟩
  obtain ⟨ref, member, plan, read, fetched, uid⟩ := named
  cases actionCase_of_handle handled with
  | idle => exact ⟨ref, member, plan, read, fetched, uid⟩
  | fetchMealPlans => exact absurd rfl loads
  | @created startDate endDate mealPlanUID clock mealPlan _ recipes dates =>
      rcases Heap.of_read_alloc read with old | ⟨-, rfl⟩
      · rcases List.mem_append.mp member with before | new
        · exact ⟨ref, before, plan, old, fetched, uid⟩
        · obtain rfl := List.mem_singleton.mp new
          have missing := Heap.read_alloc_eq_none client.plans { mealPlan }
          rw [old] at missing
          cases missing
      · cases fetched
  | searched shown found => exact ⟨ref, member, plan, read, fetched, uid⟩
  | @toggled selection target shown mayShow =>
      obtain ⟨plans, mealPlans, -⟩ := (toggleCase platform.texts target client selection).lists
      rw [plans] at read
      exact ⟨ref, mealPlans ▸ member, plan, read, fetched, uid⟩
  | @saved mealPlanUID recipeUIDs selection target mealPlan shown opened =>
      rw [Heap.read_modify] at read
      split at read
      · obtain ⟨old, oldRead, rfl⟩ := Option.map_eq_some_iff.mp read
        exact ⟨ref, member, old, oldRead, fetched, uid⟩
      · exact ⟨ref, member, plan, read, fetched, uid⟩
  | deleted listed first => exact ⟨ref, List.eraseIdx_subset member, plan, read, fetched, uid⟩

/-- A deletion comes from a swipe on a row whose plan names the document. -/
theorem deletion_of_handle {action : Action} {client : Client} {effect : Effect}
    (handled : handle platform action client = some effect) {issued : Request × Continuation}
    (requested : issued ∈ effect.requests) {id : String} (deletes : deletion issued.1 = some id) :
    (∃ row, action = .commitDelete row) ∧ ∃ ref ∈ client.mealPlans, ∃ plan,
      client.plans.read ref = some plan ∧ plan.mealPlan.mealPlanUID = some id := by
  by_cases swipes : ∃ row, action = .commitDelete row
  · refine ⟨swipes, ?_⟩
    obtain ⟨row, rfl⟩ := swipes
    cases listed : rowPlan client row with
    | none =>
        simp only [handle, commitDelete] at handled
        split at handled
        · cases handled
        · rename_i ref found
          split at handled
          · cases handled
          · rename_i plan read
            rw [rowPlan, found, Option.bind_some, read] at listed
            cases listed
    | some plan =>
        obtain ⟨index, swiped⟩ := commitDelete_eq platform.texts listed
        rw [handle, swiped] at handled
        obtain ⟨mealPlanUID, named, rfl⟩ := Option.map_eq_some_iff.mp handled
        obtain rfl := List.mem_singleton.mp requested
        obtain rfl := Option.some.inj deletes
        obtain ⟨ref, found, read⟩ := Option.bind_eq_some_iff.mp listed
        exact ⟨ref, List.mem_of_getElem? found, plan, read, named⟩
  · cases actionCase_of_handle handled with
    | idle => cases requested
    | fetchMealPlans =>
        obtain rfl := List.mem_singleton.mp requested
        cases deletes
    | created uid recipes dates => cases requested
    | searched shown found => cases requested
    | @toggled selection ref shown mayShow =>
        rw [((toggleCase platform.texts ref client selection).selected shown).2] at requested
        cases requested
    | saved shown opened =>
        obtain rfl := List.mem_singleton.mp requested
        cases deletes
    | deleted listed first => exact absurd ⟨_, rfl⟩ swipes

theorem resume_currentUser {continuation : Continuation} {reply : Reply} {client : Client}
    {effect : Effect} (resumed : resume continuation reply client = some effect) :
    effect.client.currentUser = client.currentUser := by
  cases (loadedCase_of_resume resumed).1 with
  | idle => rfl
  | @loaded snapshot fetched answered delivered =>
      obtain ⟨recipes, plans, same, -⟩ := allocPlans_eq client fetched
      have kept : (client.allocPlans fetched).1.currentUser = client.currentUser :=
        same ▸ rfl
      exact kept

/-- A plan that names a document after a callback did so before it, or was read from a
document listed, by the current user. -/
theorem names_of_resume {continuation : Continuation} {reply : Reply} {client : Client}
    {effect : Effect} (resumed : resume continuation reply client = some effect) {id : String}
    (named : Names effect.client id) :
    Names client id ∨ ∃ (fetched : UserController.Fetched) (document : Document),
      (fetched.documentID, document) ∈ listedDocuments reply ∧
      MealPlan.ofDocument document = some (some fetched.mealPlan) ∧
      fetched.mealPlan.mealPlanUID = some id ∧
      fetched.mealPlan.authorID = client.currentUser.map User.uuid := by
  cases (loadedCase_of_resume resumed).1 with
  | idle => exact .inl named
  | @loaded snapshot fetched answered delivered =>
      subst answered
      obtain ⟨ref, member, plan, read, -, uid⟩ := named
      obtain ⟨all, decoded, rfl⟩ := fetchMealPlans_eq_ok_iff.mp delivered
      rcases read_allocPlans read with old | ⟨first, fetchedFirst, object⟩
      · obtain ⟨_, -, new⟩ := newObjectOf_of_mem member
        rw [new.missing] at old
        cases old
      · obtain ⟨inSnapshot, own⟩ := List.mem_filter.mp fetchedFirst
        obtain ⟨document, listed, read⟩ := mem_decodeMealPlans decoded inSnapshot
        exact .inr ⟨first, document, listed, read, object.uid.symm.trans uid, eq_of_beq own⟩

/-! ## The clients keep to the authors -/

section

variable {mealPlanContainer : Collection} {trace : Trace} {s s' : State} {label : Label}
  {output : Output}

/-- What writes a document is the save button, with the UUID that its handler makes. -/
theorem writes_of_sessions (stepped : (sessions platform).StepCase s label output s')
    {issued : Request × Continuation} (requested : issued ∈ output.requests) {id : String}
    {document : Document} (written : writtenDocument issued.1 = some (id, document)) :
    madeUUID label = some id ∧ output.requests = [issued] ∧ WrittenUnder id document := by
  rcases Program.stepCase_withOutside stepped with
    ⟨inner, rfl, own⟩ | ⟨client, change, -, rfl, -⟩
  · obtain ⟨made, alone, good⟩ := writes_of_step own requested written
    refine ⟨?_, alone, good⟩
    cases inner with
    | act client action => exact made
    | _ => cases made
  · cases requested

theorem barred_step {id : String} (permitted : Guarded platform mealPlanContainer trace s label)
    (stepped : (sessions platform).StepCase s label output s')
    (never : (authors platform mealPlanContainer).barred trace id) :
    (authors platform mealPlanContainer).barred ((label, output) :: trace) id := by
  obtain ⟨used, unknown⟩ := never
  refine ⟨?_, fun known => ?_⟩
  · rcases used with known | ⟨entry, member, made⟩
    · exact absurd known unknown
    · exact .inr ⟨entry, List.mem_cons_of_mem _ member, made⟩
  · rcases known.of_cons with before | issued
    · exact unknown before
    · obtain ⟨request, requested, created⟩ := List.mem_filterMap.mp issued
      obtain ⟨⟨_, document⟩, written, rfl⟩ := Option.map_eq_some_iff.mp created
      exact permitted.1 _ (writes_of_sessions stepped requested written).1 used

/-- A plan in memory that was not fetched names a UUID that is barred. -/
def PlansBarred (platform : Platform) (mealPlanContainer : Collection) (trace : Trace)
    (client : Client) : Prop :=
  ∀ ref plan, client.plans.read ref = some plan → plan.isFetched = false →
    ∃ uuid, plan.mealPlan.mealPlanUID = some uuid ∧
      (authors platform mealPlanContainer).barred trace uuid

/-- The plans in memory that were not fetched keep to the UUIDs that are barred. -/
theorem plansBarred_step
    (kept : ∀ client, PlansBarred platform mealPlanContainer trace (s.clients client))
    (permitted : Guarded platform mealPlanContainer trace s label)
    (stepped : (sessions platform).StepCase s label output s') :
    ∀ client, PlansBarred platform mealPlanContainer ((label, output) :: trace)
      (s'.clients client) := by
  have earlier : ∀ client, PlansBarred platform mealPlanContainer ((label, output) :: trace)
      (s.clients client) := by
    intro client ref plan read created
    obtain ⟨uuid, named, never⟩ := kept client ref plan read created
    exact ⟨uuid, named, barred_step permitted stepped never⟩
  have afterwards := stepped
  cases stepped with
  | @act actor action effect handled =>
      refine RequestReply.State.forall_clients_commit earlier ?_
      intro ref plan read created
      cases action with
      | outside change =>
          obtain rfl := Option.some.inj handled
          have samePlans : (UserSwitches.change change (s.clients actor)).plans =
              (s.clients actor).plans := by
            cases change <;> rfl
          exact earlier actor ref plan (samePlans ▸ read) created
      | own action =>
          cases plansCase_of_handle handled with
          | unchanged plans selected writes =>
              rw [plans] at read
              exact earlier actor ref plan read created
          | @created startDate endDate mealPlanUID clock _ mealPlan uid plans selected writes =>
              rw [plans] at read
              rcases Heap.of_read_alloc read with old | ⟨-, rfl⟩
              · exact earlier actor ref plan old created
              · have unused := permitted.1 mealPlanUID rfl
                refine ⟨mealPlanUID, uid, .inr ⟨_, List.mem_cons_self, rfl⟩, fun known => ?_⟩
                rcases known.of_cons with before | issued
                · exact unused (.inl before)
                · simp [writes, Store.issuedKeys] at issued
          | saved shown plans selected writes =>
              rw [plans, Heap.read_modify] at read
              split at read
              · obtain ⟨old, oldRead, rfl⟩ := Option.map_eq_some_iff.mp read
                exact earlier actor _ old oldRead created
              · exact earlier actor ref plan read created
  | serve inFlight waiting => exact earlier
  | @deliver index input task reply effect inFlight answered resumed =>
      refine RequestReply.State.forall_clients_commit earlier ?_
      intro ref plan read created
      cases loadCase_of_resume resumed with
      | unchanged plans selected writes =>
          rw [plans] at read
          exact earlier _ ref plan read created
      | loaded replied delivered plans selected writes =>
          rw [plans] at read
          rcases read_allocPlans read with old | ⟨fetched, member, object⟩
          · exact earlier _ ref plan old created
          · rw [object.isFetched] at created
            cases created

/-- A list that is current after a step was so before it, unless the step loads it. -/
theorem isCurrent_before {trace : Trace} {label : Label} {output : Output} {client : Nat}
    (current : isCurrent ((label, output) :: trace) client = true)
    (noLoad : label ≠ .act client (.own .fetchMealPlans)) : isCurrent trace client = true := by
  cases label with
  | act other action =>
      cases action with
      | outside change =>
          cases change with
          | signIn user => exact (Bool.and_eq_true_iff.mp current).2
          | _ => exact current
      | own action =>
          cases action with
          | fetchMealPlans =>
              rcases Bool.or_eq_true_iff.mp current with here | before
              · obtain rfl := eq_of_beq here
                exact absurd rfl noLoad
              · exact before
          | _ => exact current
  | _ => exact current

/-- A document that a row of a current list names was named before, or is listed and of the
current user. -/
theorem names_of_step
    (kept : (sessionStore platform).Kept (oldIDs mealPlanContainer) WrittenUnder trace s)
    (stepped : (sessions platform).StepCase s label output s') (client : Nat)
    (current : isCurrent ((label, output) :: trace) client = true) (id : String)
    (named : Names (s'.clients client) id) :
    (isCurrent trace client = true ∧
      (s'.clients client).currentUser.map User.uuid =
        (s.clients client).currentUser.map User.uuid ∧ Names (s.clients client) id) ∨
    ∃ task ∈ s.tasks, ∃ reply document, task.reply = some reply ∧
      (id, document) ∈ listedDocuments reply ∧
        Document.text document Constants.authorID =
          (s'.clients client).currentUser.map User.uuid := by
  cases stepped with
  | @act actor action effect handled =>
      by_cases same : client = actor
      · subst same
        rw [RequestReply.State.commit_clients_self] at named ⊢
        cases action with
        | outside change =>
            cases change with
            | signIn user => simp [isCurrent] at current
            | recipesFound recipes =>
                obtain rfl := Option.some.inj handled
                exact .inl ⟨current, rfl, named⟩
            | bookChanged savedRecipes =>
                obtain rfl := Option.some.inj handled
                exact .inl ⟨current, rfl, named⟩
            | datePicked recipe date =>
                obtain rfl := Option.some.inj handled
                exact .inl ⟨current, rfl, named⟩
        | own action =>
            obtain ⟨noLoad, before⟩ := names_of_handle handled named
            have earlier := isCurrent_before current (by simpa using noLoad)
            have sameUser := congrArg (Option.map User.uuid) (handle_currentUser handled)
            exact .inl ⟨earlier, sameUser, before⟩
      · rw [RequestReply.State.commit_clients_of_ne _ _ _ same] at named ⊢
        have earlier := isCurrent_before current fun loads => same (by cases loads; rfl)
        exact .inl ⟨earlier, rfl, named⟩
  | serve inFlight waiting => exact .inl ⟨current, rfl, named⟩
  | @deliver index input task reply effect inFlight answered resumed =>
      by_cases same : client = task.client
      · subst same
        rw [RequestReply.State.commit_clients_self] at named ⊢
        have sameUser := resume_currentUser resumed
        rcases names_of_resume resumed named with
          old | ⟨fetched, document, listed, read, uid, author⟩
        · exact .inl ⟨current, congrArg (Option.map User.uuid) sameUser, old⟩
        · have member := List.mem_of_getElem? inFlight
          have written := (kept.listed task member reply answered _ _ listed).1
          obtain rfl := Option.some.inj (uid.symm.trans (written.uid read))
          refine .inr ⟨task, member, reply, document, answered, listed, ?_⟩
          obtain ⟨mealPlan, authorID, recipeUIDs, rfl⟩ := written
          rw [MealPlan.ofDocument_dictionary] at read
          rw [text_authorID_dictionary, sameUser, ← author,
            ← Option.some.inj (Option.some.inj read)]
          rfl
      · rw [RequestReply.State.commit_clients_of_ne _ _ _ same] at named ⊢
        exact .inl ⟨current, rfl, named⟩

/-- What deletes a document is a swipe on a row of a current list that names it. Other swipes
delete nothing. -/
theorem deletion_of_step
    (kept : ∀ client, PlansBarred platform mealPlanContainer trace (s.clients client))
    (permitted : Guarded platform mealPlanContainer trace s label)
    (stepped : (sessions platform).StepCase s label output s') {issued : Request × Continuation}
    (requested : issued ∈ output.requests) {id : String} (deletes : deletion issued.1 = some id) :
    (isCurrent trace output.client = true ∧ Names (s.clients output.client) id) ∨
      (authors platform mealPlanContainer).barred trace id := by
  cases stepped with
  | @act actor action effect handled =>
      cases action with
      | outside change =>
          obtain rfl := Option.some.inj handled
          cases requested
      | own action =>
          obtain ⟨⟨row, rfl⟩, ref, member, plan, read, uid⟩ :=
            deletion_of_handle handled requested deletes
          cases origin : plan.isFetched with
          | true => exact .inl ⟨permitted.2, ref, member, plan, read, origin, uid⟩
          | false =>
              obtain ⟨uuid, named, never⟩ := kept actor ref plan read origin
              exact .inr (Option.some.inj (named.symm.trans uid) ▸ never)
  | serve inFlight waiting => cases requested
  | deliver inFlight answered resumed =>
      cases (loadedCase_of_resume resumed).1 <;> cases requested

end

/-- The app keeps to the authors of the documents. -/
theorem authors_law (mealPlanContainer : Collection) :
    (authors platform mealPlanContainer).Law (oldIDs mealPlanContainer) WrittenUnder
      (Guarded platform mealPlanContainer)
      fun trace s => ∀ client, PlansBarred platform mealPlanContainer trace (s.clients client) where
  fresh := by
    intro trace s label output s' permitted stepped
    refine .of_alone fun issued requested id document written => ?_
    obtain ⟨made, alone, -⟩ := writes_of_sessions stepped requested written
    exact ⟨alone, fun known => permitted.1 id made (.inl known)⟩
  written := by
    intro trace s label output s' _ stepped issued requested id document written
    exact (writes_of_sessions stepped requested written).2.2
  invariant_step kept permitted stepped := plansBarred_step kept permitted stepped
  rows kept _ stepped client current id named := names_of_step kept stepped client current id named
  removals kept permitted stepped _ requested _ deletes :=
    deletion_of_step kept permitted stepped requested deletes
  barred_step permitted stepped never := barred_step permitted stepped never
  barred_unknown never := never.2

/-! ## The result -/

/-- The same owners, for clients with local stores. -/
abbrev localAuthors (platform : Platform) (mealPlanContainer : Collection) :
    Ownership ((sessionStore platform).withLocalWrites .answered (servesStored platform)) String :=
  (authors platform mealPlanContainer).withLocalWrites .answered (servesStored platform)

theorem localAuthors_law (platform : Platform) (mealPlanContainer : Collection) :
    (localAuthors platform mealPlanContainer).Law (oldIDs mealPlanContainer) WrittenUnder
      (Guarded platform mealPlanContainer)
      fun trace s => ∀ client, PlansBarred platform mealPlanContainer trace (s.clients client) :=
  (authors_law mealPlanContainer).withLocalWrites fun _ kept => kept

theorem authors_start {s₀ : State} (opened : Opened s₀) :
    (authors platform s₀.server).Start (oldIDs s₀.server) WrittenUnder
      (fun trace s => ∀ client, PlansBarred platform s₀.server trace (s.clients client)) s₀ where
  idle := opened.idle
  stored id document stored :=
    ⟨Option.isSome_iff_exists.mpr ⟨document, stored⟩, opened.written id document stored⟩
  invariant client ref plan read := by
    rw [opened.empty] at read
    cases read
  unnamed client id := by
    rintro ⟨ref, -, plan, read, -⟩
    rw [opened.empty] at read
    cases read

/-- No document of a plan disappears unless its author deleted it: the step serves a deletion
that a client issued at a moment of the run when the author of the document was signed in
there. -/
def DeletedByAuthor (platform : Platform) (s₀ : State) : Prop :=
  ∀ trace s label output s' id document,
    (localSessions platform).Run (Guarded platform s₀.server) s₀ trace s →
    (localSessions platform).step s label = some (output, s') →
    s.server[id]? = some document → s'.server[id]? = none →
    ∃ later entry earlier moment user continuation, trace = later ++ entry :: earlier ∧
      (localSessions platform).Run (Guarded platform s₀.server) s₀ earlier moment ∧
      entry.2.client = output.client ∧
      (.deleteMealPlan id, continuation) ∈ entry.2.requests ∧
      (moment.clients output.client).currentUser = some user ∧
      Document.text document Constants.authorID = some user.uuid

/-- The swipe of a plan that was created in the session is to delete a document that there is not
and never will be. -/
def CreatedDeletesNothing (platform : Platform) (s₀ : State) : Prop :=
  ∀ trace s client row plan output s',
    (localSessions platform).Run (Guarded platform s₀.server) s₀ trace s →
    rowPlan (s.clients client) row = some plan → plan.isFetched = false →
    (localSessions platform).step s (.act client (.own (.commitDelete row))) = some (output, s') →
    ∃ id, output.requests = [(.deleteMealPlan id, .mealPlanDeleted)] ∧
      ∀ later s'', (localSessions platform).Run
        (fun later => Guarded platform s₀.server (later ++ trace)) s later s'' →
        s''.server[id]? = none

section

variable {s₀ : State}

theorem deletedByAuthor (opened : Opened s₀) : DeletedByAuthor platform s₀ := by
  intro trace s label output s' id document run stepped stored gone
  have law := localAuthors_law platform s₀.server
  have start : (localAuthors platform s₀.server).Start _ _ _ s₀ :=
    (authors_start opened).withLocalWrites
  have kept := Ownership.kept_run law start run
  obtain ⟨request, _, -, removes, later, entry, earlier, moment, sameTrace, before, client,
    ⟨continuation, requested⟩, tenant⟩ :=
    Ownership.removed_by_owner law start run stepped stored gone
  obtain ⟨mealPlan, authorID, recipeUIDs, rfl⟩ := (kept.store.stored id document stored).1
  have author := text_authorID_dictionary mealPlan id authorID recipeUIDs
  obtain ⟨user, signedIn, uuid⟩ := Option.map_eq_some_iff.mp (tenant.trans author)
  obtain rfl : request = .deleteMealPlan id := by
    cases request with
    | deleteMealPlan uid => exact congrArg Request.deleteMealPlan (Option.some.inj removes)
    | _ => cases removes
  exact ⟨later, entry, earlier, moment, user, continuation, sameTrace, before, client, requested,
    signedIn, author.trans (congrArg some uuid.symm)⟩

theorem createdDeletesNothing (opened : Opened s₀) : CreatedDeletesNothing platform s₀ := by
  intro trace s client row plan output s' run listed created step
  have law := localAuthors_law platform s₀.server
  have start : (localAuthors platform s₀.server).Start _ _ _ s₀ :=
    (authors_start opened).withLocalWrites
  have kept := Ownership.kept_run law start run
  obtain ⟨ref, -, read⟩ := Option.bind_eq_some_iff.mp listed
  obtain ⟨uuid, named, never⟩ := kept.invariant client ref plan read created
  obtain ⟨index, swiped⟩ := commitDelete_eq platform.texts listed
  rw [named, Option.map_some] at swiped
  refine ⟨uuid, ?_, fun later s'' rest => law.unstored_of_barred kept.store never rest⟩
  cases Program.stepCase_of_step step with
  | @act _ _ effect handled =>
      replace handled : commitDelete platform.texts row (s.clients client) = some effect := handled
      obtain rfl := Option.some.inj (swiped.symm.trans handled)
      rfl

/-- **A plan's document is deleted by its author only**, and the swipe of a plan created in the
session deletes nothing. -/
theorem plan_deleted_by_author (opened : Opened s₀) :
    DeletedByAuthor platform s₀ ∧ CreatedDeletesNothing platform s₀ :=
  ⟨deletedByAuthor opened, createdDeletesNothing opened⟩

end

/-- Another user of the app. -/
def bob : User := ⟨"bob@mail.com", "hidden", "B"⟩

/-- The plan of a user who has come back disappears when that user swipes its row. -/
theorem plan_deleted_by_author_home :
    ∃ trace s output s' earlier moment user,
      (localSessions greenwich).Run (Guarded greenwich home.server) home trace s ∧
      (localSessions greenwich).step s (.serve 0 .answered) = some (output, s') ∧
      s'.server["D0"]? = none ∧
      (localSessions greenwich).Run (Guarded greenwich home.server) home earlier moment ∧
      (moment.clients output.client).currentUser = some user ∧ user.uuid = "A" := by
  have executed : ((localSessions greenwich).execute (Guarded greenwich home.server) home
      [.act 0 (.own .fetchMealPlans), .act 0 (.outside (.signIn bob)), .serve 0 .answered,
        .deliver 0 (), .act 0 (.outside (.signIn ann)), .act 0 (.own .fetchMealPlans),
        .serve 0 .answered, .deliver 0 (), .act 0 (.own (.commitDelete 0))] []).any
        (fun last => decide (last.2.server.textOf "D0" Constants.authorID = some "A") &&
          ((localSessions greenwich).step last.2 (.serve 0 .answered)).any fun next =>
            next.2.server["D0"]?.isNone) = true := by
    decide
  obtain ⟨⟨trace, s⟩, followed, last⟩ := (Option.any_eq_true _ _).mp executed
  obtain ⟨author, served⟩ := Bool.and_eq_true_iff.mp last
  obtain ⟨⟨output, s'⟩, step, gone⟩ := (Option.any_eq_true _ _).mp served
  obtain ⟨document, stored, text⟩ := Option.bind_eq_some_iff.mp (of_decide_eq_true author)
  have run := Program.Run.of_execute .start followed
  obtain ⟨_, _, earlier, moment, user, _, -, before, -, -, signedIn, uuid⟩ :=
    (plan_deleted_by_author home_opened).1 trace s _ output s' "D0" document run step stored
      (Option.isNone_iff_eq_none.mp gone)
  exact ⟨trace, s, output, s', earlier, moment, user, run, step,
    Option.isNone_iff_eq_none.mp gone, before, signedIn, Option.some.inj (uuid.symm.trans text)⟩

end UserSwitches

end MyMealPrep.MealPlans
