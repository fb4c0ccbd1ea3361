import MyMealPrep.MealPlans.References
import MyMealPrep.MealPlans.SwipeDeletes

/-!
# Rows of the list of plans

`deleteMealPlan` looks the plan of a row up by comparing all fields, recipes included,
although plans are changed in place all the time. What makes it find the row is that
the plans listed have different `mealPlanUID`s: a created plan has a new one, and fetched
plans have the IDs of their documents, which replace the list as a whole.

So the UIDs are distinct in every run, and a swipe removes exactly its row
(`rows_distinct`). The runs here are of all functions of `MealPlanController`, those
that no screen calls among them.
-/

set_option autoImplicit false

namespace MyMealPrep.MealPlans

open Firestore (Collection Document Snapshot Value)
open RequestReply (Program)

variable {platform : Platform}

/-! ## All functions of `MealPlanController` -/

/-- An action of a screen, or a call that changes a plan in place. -/
inductive ControllerAction where
  | onScreen (action : Action)
  | updateMealPlanRecipes (mealPlan : Ref) (recipes : List Ref)
  | updateMPDates (mealPlan : Ref) (startDate endDate : Date)
  | deleteMPRecipe (mealPlan recipe : Ref)

namespace MealPlanController

/-- `updateMealPlanRecipes` -/
def updateMealPlanRecipes (mealPlan : Ref) (recipes : List Ref) (client : Client) : Effect where
  client := { client with
    plans := client.plans.modify mealPlan fun plan =>
      { plan with mealPlan := plan.mealPlan.withRecipes recipes } }

/-- `updateMPDates` -/
def updateMPDates (mealPlan : Ref) (startDate endDate : Date) (client : Client) : Effect where
  client := { client with
    plans := client.plans.modify mealPlan fun plan =>
      { plan with mealPlan := { plan.mealPlan with startDate, endDate } } }

/-- `deleteMPRecipe` removes the first equal recipe of the plan. -/
def deleteMPRecipe (texts : TextEquality) (mealPlan recipe : Ref) (client : Client) : Effect :=
  match client.plans.read mealPlan with
  | none => { client }
  | some plan =>
      match plan.mealPlan.recipes.findIdx? fun other =>
          client.recipeValue texts other = client.recipeValue texts recipe with
      | none => { client }
      | some index =>
          { client := { client with
              plans := client.plans.modify mealPlan fun plan =>
                { plan with
                  mealPlan := plan.mealPlan.withRecipes (plan.mealPlan.recipes.eraseIdx index) } } }

end MealPlanController

/-- The handler of an action or a call. -/
def handleAll (platform : Platform) (action : ControllerAction) (client : Client) : Option Effect :=
  match action with
  | .onScreen action => handle platform action client
  | .updateMealPlanRecipes mealPlan recipes =>
      some (MealPlanController.updateMealPlanRecipes mealPlan recipes client)
  | .updateMPDates mealPlan startDate endDate =>
      some (MealPlanController.updateMPDates mealPlan startDate endDate client)
  | .deleteMPRecipe mealPlan recipe =>
      some (MealPlanController.deleteMPRecipe platform.texts mealPlan recipe client)

abbrev ControllerLabel := RequestReply.Label ControllerAction Unit Fate
abbrev ControllerTrace :=
  RequestReply.Trace Request Continuation ControllerAction Unit Fate Empty

/-- The meal plans of any number of clients, with all functions of the controller. -/
def controllerProgram (platform : Platform) : Program Client Collection Request Reply Continuation
    ControllerAction Unit Fate Empty where
  handle := handleAll platform
  resume continuation reply _ client := resume continuation reply client
  serve := serve

/-! ## The property -/

namespace Client

/-- The `mealPlanUID` of a plan in memory. -/
def uidOf (client : Client) (ref : Ref) : Option String :=
  (client.plans.read ref).bind fun plan => plan.mealPlan.mealPlanUID

end Client

/-- The plans listed have different UIDs. -/
structure DistinctRows (client : Client) : Prop where
  named : ∀ ref ∈ client.mealPlans, (client.uidOf ref).isSome = true
  distinct : (client.mealPlans.map client.uidOf).Nodup

/-- Swiping a row does not trap and removes exactly the plan of the row. -/
def RemovesRow (platform : Platform) (s : State) (client row : Nat) : Prop :=
  ∃ output s', (controllerProgram platform).step s (.act client (.onScreen (.commitDelete row))) =
      some (output, s') ∧
    (s'.clients client).mealPlans = (s.clients client).mealPlans.eraseIdx row ∧
    ∀ ref, (s'.clients client).readPlan ref = (s.clients client).readPlan ref

/-- The UID that a plan is created with, and the client that creates it. -/
def createdUID : ControllerLabel → Option (Nat × String)
  | .act client (.onScreen (.selectRecipeButtonTapped _ _ mealPlanUID _)) =>
      some (client, mealPlanUID)
  | _ => none

/-- A plan is created with a UID that no plan listed has. -/
def FreshPlanUUIDs (_ : ControllerTrace) (s : State) (label : ControllerLabel) : Prop :=
  ∀ created ∈ createdUID label, ∀ ref ∈ (s.clients created.1).mealPlans,
    (s.clients created.1).uidOf ref ≠ some created.2

instance (trace : ControllerTrace) (s : State) (label : ControllerLabel) :
    Decidable (FreshPlanUUIDs trace s label) :=
  inferInstanceAs (Decidable (∀ created ∈ createdUID label,
    ∀ ref ∈ (s.clients created.1).mealPlans, (s.clients created.1).uidOf ref ≠ some created.2))

/-! ## Rows of one client -/

theorem readPlan_uid (client : Client) (ref : Ref) :
    (client.readPlan ref).bind MealPlan.mealPlanUID = client.uidOf ref := by
  rw [Client.readPlan, Client.uidOf]
  cases client.plans.read ref <;> rfl

theorem planValue_uid (texts : TextEquality) (client : Client) (ref : Ref) :
    (client.planValue texts ref).bind MealPlan.mealPlanUID = client.uidOf ref := by
  rw [← readPlan_uid, Client.planValue, Option.bind_map]
  rfl

theorem uidOf_modify {client changed : Client} {target : Ref} {change : Plan → Plan}
    (plans : changed.plans = client.plans.modify target change)
    (keeps : ∀ plan, (change plan).mealPlan.mealPlanUID = plan.mealPlan.mealPlanUID) :
    changed.uidOf = client.uidOf := by
  funext ref
  rw [Client.uidOf, Client.uidOf, plans, Heap.read_modify]
  split
  · cases client.plans.read ref with
    | none => rfl
    | some plan => exact keeps plan
  · rfl

/-- The rows stay distinct when the UIDs stay and the list does, or some rows go. -/
theorem DistinctRows.sublist {client changed : Client} (rows : DistinctRows client)
    (uids : changed.uidOf = client.uidOf)
    (list : changed.mealPlans.Sublist client.mealPlans) : DistinctRows changed where
  named ref member := by
    rw [uids]
    exact rows.named ref (list.subset member)
  distinct := by
    rw [uids]
    exact rows.distinct.sublist (list.map _)

/-- A plan created under a fresh UID is another row. -/
theorem DistinctRows.created {client changed : Client} {mealPlan : MealPlan Ref}
    {mealPlanUID : String} (rows : DistinctRows client)
    (uid : mealPlan.mealPlanUID = some mealPlanUID)
    (fresh : ∀ ref ∈ client.mealPlans, client.uidOf ref ≠ some mealPlanUID)
    (plans : changed.plans = (client.plans.alloc { mealPlan }).1)
    (list : changed.mealPlans = client.mealPlans ++ [(client.plans.alloc { mealPlan }).2]) :
    DistinctRows changed := by
  have new : changed.uidOf (client.plans.alloc { mealPlan }).2 = some mealPlanUID := by
    rw [Client.uidOf, plans, Heap.read_alloc_self]
    exact uid
  have old : ∀ ref ∈ client.mealPlans, changed.uidOf ref = client.uidOf ref := by
    intro ref member
    obtain ⟨plan, read, -⟩ :=
      Option.bind_eq_some_iff.mp (Option.isSome_iff_exists.mp (rows.named ref member)).choose_spec
    rw [Client.uidOf, Client.uidOf, plans, Heap.read_alloc_of_read read, read]
  constructor
  · intro ref member
    rw [list] at member
    rcases List.mem_append.mp member with before | last
    · rw [old ref before]
      exact rows.named ref before
    · obtain rfl := List.mem_singleton.mp last
      rw [new]
      rfl
  · rw [list, List.map_append, List.map_congr_left old, List.map_singleton, new]
    refine List.nodup_append.mpr ⟨rows.distinct, List.nodup_singleton _, ?_⟩
    intro first firstMember second secondMember same
    obtain rfl := List.mem_singleton.mp secondMember
    obtain ⟨ref, member, rfl⟩ := List.mem_map.mp firstMember
    exact fresh ref member same

/-- With distinct rows, the first plan equal to that of a row is in the row. -/
theorem DistinctRows.findIdx? {client : Client} (rows : DistinctRows client) (texts : TextEquality)
    {row : Nat} {ref : Ref} (listed : client.mealPlans[row]? = some ref) :
    (client.mealPlans.findIdx? fun other =>
      client.planValue texts other = client.planValue texts ref) = some row := by
  obtain ⟨inRange, rfl⟩ := List.getElem?_eq_some_iff.mp listed
  refine List.findIdx?_eq_some_iff_getElem.mpr ⟨inRange, decide_eq_true rfl, ?_⟩
  intro other before equal
  have sameUID : client.uidOf client.mealPlans[other] = client.uidOf client.mealPlans[row] := by
    rw [← planValue_uid texts, ← planValue_uid texts, of_decide_eq_true equal]
  have otherInRange : other < client.mealPlans.length := Nat.lt_trans before inRange
  have sameRow : other = row := by
    refine (List.getElem?_inj ?_ rows.distinct).mp ?_
    · rwa [List.length_map]
    · rw [List.getElem?_map, List.getElem?_map, List.getElem?_eq_getElem otherInRange,
        List.getElem?_eq_getElem inRange, Option.map_some, Option.map_some, sameUID]
  omega

/-! ## Fetched rows -/

/-- The documents of a snapshot were written by `saveMealPlan`, each under its own ID. -/
structure SnapshotWritten (snapshot : Snapshot) : Prop where
  distinct : (snapshot.map Prod.fst).Nodup
  written : ∀ id document, (id, document) ∈ snapshot → WrittenUnder id document

theorem map_documentID_decodeMealPlans {snapshot : Snapshot}
    {plans : List UserController.Fetched}
    (decoded : UserController.decodeMealPlans snapshot = some (some plans)) :
    plans.map UserController.Fetched.documentID = snapshot.map Prod.fst := by
  have related := decodeMealPlans_eq_some_iff.mp decoded
  induction related with
  | nil => rfl
  | cons first rest ih =>
      rw [List.map_cons, List.map_cons, first.1, ih (decodeMealPlans_eq_some_iff.mpr rest)]

/-- The plans that a fetch delivers have the IDs of some of the documents, in their order. -/
theorem map_documentID_sublist {currentUser : Option User} {snapshot : Snapshot}
    {plans : List UserController.Fetched}
    (delivered : UserController.fetchMealPlans currentUser (.documents snapshot) =
      some (.ok plans)) :
    (plans.map UserController.Fetched.documentID).Sublist (snapshot.map Prod.fst) := by
  obtain ⟨all, decoded, rfl⟩ := fetchMealPlans_eq_ok_iff.mp delivered
  rw [← map_documentID_decodeMealPlans decoded]
  exact List.filter_sublist.map _

theorem distinctRows_loaded {client : Client} {snapshot : Snapshot}
    {fetched : List UserController.Fetched} (snapshotWritten : SnapshotWritten snapshot)
    (delivered : UserController.fetchMealPlans client.currentUser (.documents snapshot) =
      some (.ok fetched)) :
    DistinctRows { (client.allocPlans fetched).1 with
      mealPlans := (client.allocPlans fetched).2 } := by
  obtain ⟨sameLength, objects⟩ := List.forall₂_iff_zip.mp (allocPlans_spec client fetched)
  have each : List.Forall₂ (fun ref first => (client.allocPlans fetched).1.uidOf ref =
      some first.documentID) (client.allocPlans fetched).2 fetched := by
    refine List.forall₂_iff_zip.mpr ⟨sameLength, fun {ref first} member => ?_⟩
    obtain ⟨document, listed, decoded⟩ :=
      mem_fetchMealPlans delivered (List.of_mem_zip member).2
    rw [← readPlan_uid, (objects member).value]
    exact (snapshotWritten.written _ _ listed).uid decoded
  have uids : (client.allocPlans fetched).2.map (client.allocPlans fetched).1.uidOf =
      (fetched.map UserController.Fetched.documentID).map some := by
    rw [List.map_map, ← List.forall₂_eq_eq_eq]
    exact List.forall₂_map_left_iff.mpr (List.forall₂_map_right_iff.mpr each)
  constructor
  · intro ref member
    have listed := List.mem_map_of_mem (f := (client.allocPlans fetched).1.uidOf) member
    rw [uids] at listed
    obtain ⟨id, -, same⟩ := List.mem_map.mp listed
    exact Option.isSome_iff_exists.mpr ⟨id, same.symm⟩
  · refine uids ▸ List.Nodup.map (fun _ _ => Option.some.inj) ?_
    exact snapshotWritten.distinct.sublist (map_documentID_sublist delivered)

/-! ## Steps and runs -/

/-- The requests in flight write plans under their own IDs, and replies list such documents. -/
structure TaskWritten (task : Task) : Prop where
  writes : ∀ id document, writtenDocument task.request = some (id, document) →
    WrittenUnder id document
  lists : ∀ snapshot, task.reply = some (.documents snapshot) → SnapshotWritten snapshot

/-- The rows of every client are distinct, and every document was written under its ID. -/
structure RowsKept (s : State) : Prop where
  rows : ∀ client, DistinctRows (s.clients client)
  documents : ∀ id document, s.server[id]? = some document → WrittenUnder id document
  tasks : ∀ task ∈ s.tasks, TaskWritten task

theorem distinctRows_handle {texts : TextEquality} {action : Action} {client : Client}
    {effect : Effect} (rows : DistinctRows client) (acted : ActionCase texts client action effect)
    (fresh : ∀ startDate endDate mealPlanUID clock,
      action = .selectRecipeButtonTapped startDate endDate mealPlanUID clock →
        ∀ ref ∈ client.mealPlans, client.uidOf ref ≠ some mealPlanUID) :
    DistinctRows effect.client := by
  cases acted with
  | idle => exact rows
  | fetchMealPlans => exact ⟨by simp [fetchMealPlans], by simp [fetchMealPlans]⟩
  | created uid recipes dates => exact rows.created uid (fresh _ _ _ _ rfl) rfl rfl
  | searched shown found => exact rows.sublist rfl (.refl _)
  | @toggled selection ref shown mayShow =>
      obtain ⟨plans, mealPlans, -⟩ := (toggleCase texts ref client selection).lists
      refine rows.sublist ?_ (mealPlans ▸ List.Sublist.refl _)
      funext other
      rw [Client.uidOf, Client.uidOf, plans]
  | saved shown opened => exact rows.sublist (uidOf_modify rfl fun _ => rfl) (.refl _)
  | deleted listed first => exact rows.sublist rfl (List.eraseIdx_sublist _ _)

theorem distinctRows_handleAll {action : ControllerAction} {client : Client} {effect : Effect}
    (rows : DistinctRows client) (handled : handleAll platform action client = some effect)
    (fresh : ∀ startDate endDate mealPlanUID clock,
      action = .onScreen (.selectRecipeButtonTapped startDate endDate mealPlanUID clock) →
        ∀ ref ∈ client.mealPlans, client.uidOf ref ≠ some mealPlanUID) :
    DistinctRows effect.client := by
  cases action with
  | onScreen action =>
      exact distinctRows_handle rows (actionCase_of_handle handled)
        fun startDate endDate mealPlanUID clock same =>
          fresh startDate endDate mealPlanUID clock (congrArg ControllerAction.onScreen same)
  | updateMealPlanRecipes mealPlan recipes =>
      obtain rfl := Option.some.inj handled
      exact rows.sublist (uidOf_modify rfl fun _ => rfl) (.refl _)
  | updateMPDates mealPlan startDate endDate =>
      obtain rfl := Option.some.inj handled
      exact rows.sublist (uidOf_modify rfl fun _ => rfl) (.refl _)
  | deleteMPRecipe mealPlan recipe =>
      obtain rfl := Option.some.inj handled
      rw [MealPlanController.deleteMPRecipe]
      split
      · exact rows
      · split
        · exact rows
        · exact rows.sublist (uidOf_modify rfl fun _ => rfl) (.refl _)

/-- What a handler writes is a plan under its ID. -/
theorem writtenUnder_of_handleAll {action : ControllerAction} {client : Client} {effect : Effect}
    (handled : handleAll platform action client = some effect) {issued : Request × Continuation}
    (requested : issued ∈ effect.requests) {id : String} {document : Document}
    (written : writtenDocument issued.1 = some (id, document)) : WrittenUnder id document := by
  cases action with
  | onScreen action =>
      cases plansCase_of_handle handled with
      | unchanged plans selected writes =>
          rw [writes issued requested] at written
          cases written
      | created uid plans selected writes =>
          rw [writes] at requested
          cases requested
      | saved shown plans selected writes =>
          rw [writes] at requested
          obtain rfl := List.mem_singleton.mp requested
          obtain ⟨rfl, rfl⟩ := Prod.mk.inj (Option.some.inj written)
          exact ⟨_, _, _, rfl⟩
  | updateMealPlanRecipes mealPlan recipes =>
      obtain rfl := Option.some.inj handled
      cases requested
  | updateMPDates mealPlan startDate endDate =>
      obtain rfl := Option.some.inj handled
      cases requested
  | deleteMPRecipe mealPlan recipe =>
      obtain rfl := Option.some.inj handled
      rw [MealPlanController.deleteMPRecipe] at requested
      split at requested
      · cases requested
      · split at requested <;> cases requested

/-- What the server makes of a written plan, and what it answers. -/
theorem written_serve (fate : Fate) {mealPlanContainer : Collection} {request : Request}
    (documents : ∀ id document, mealPlanContainer[id]? = some document → WrittenUnder id document)
    (writes : ∀ id document, writtenDocument request = some (id, document) →
      WrittenUnder id document) :
    (∀ id document, (serve fate mealPlanContainer request).1[id]? = some document →
      WrittenUnder id document) ∧
    ∀ snapshot, (serve fate mealPlanContainer request).2 = .documents snapshot →
      SnapshotWritten snapshot := by
  constructor
  · intro id document stored
    cases fate with
    | failed => exact documents id document stored
    | answered =>
        cases request with
        | getMealPlans => exact documents id document stored
        | setMealPlan mealPlanUID data =>
            rcases Collection.get_of_setData_get stored with before | now
            · exact documents id document before
            · exact writes id document (congrArg some now)
        | deleteMealPlan mealPlanUID =>
            exact documents id document (Collection.get_of_delete_get stored)
  · intro snapshot answered
    cases fate with
    | failed => cases answered
    | answered =>
        cases request with
        | getMealPlans =>
            obtain rfl := Reply.documents.inj answered
            refine ⟨?_, fun id document listed =>
              documents id document (Collection.mem_getDocuments.mp listed)⟩
            refine List.pairwise_map.mpr ((OrderedMaps.pairwise_toList _).imp fun ordered => ?_)
            exact ordered.ne
        | _ => cases answered

/-- **One step keeps the rows.** -/
theorem RowsKept.step {trace : ControllerTrace} {s s' : State} {label : ControllerLabel}
    {output : RequestReply.Output Request Continuation Empty} (kept : RowsKept s)
    (permitted : FreshPlanUUIDs trace s label)
    (stepped : (controllerProgram platform).StepCase s label output s') : RowsKept s' := by
  cases stepped with
  | @act actor action effect handled =>
      refine ⟨?_, kept.documents, ?_⟩
      · refine RequestReply.State.forall_clients_commit kept.rows ?_
        refine distinctRows_handleAll (kept.rows actor) handled ?_
        rintro startDate endDate mealPlanUID clock rfl
        exact permitted (actor, mealPlanUID) rfl
      · intro task member
        rcases List.mem_append.mp member with old | new
        · exact kept.tasks task old
        · obtain ⟨issued, requested, rfl⟩ := List.mem_map.mp new
          exact ⟨fun id document written => writtenUnder_of_handleAll handled requested written,
            fun snapshot answered => by cases answered⟩
  | @serve index fate task inFlight waiting =>
      have member := List.mem_of_getElem? inFlight
      obtain ⟨documents, lists⟩ :=
        written_serve fate kept.documents (kept.tasks task member).writes
      refine ⟨kept.rows, documents, ?_⟩
      intro other otherMember
      rcases List.mem_or_eq_of_mem_set otherMember with old | rfl
      · exact kept.tasks other old
      · exact ⟨(kept.tasks task member).writes, fun snapshot answered =>
          lists snapshot (Option.some.inj answered)⟩
  | @deliver index input task reply effect inFlight answered resumed =>
      have member := List.mem_of_getElem? inFlight
      refine ⟨RequestReply.State.forall_clients_commit kept.rows ?_, kept.documents, ?_⟩
      · cases (loadedCase_of_resume resumed).1 with
        | idle => exact kept.rows _
        | loaded replied delivered =>
            subst replied
            exact distinctRows_loaded ((kept.tasks task member).lists _ answered) delivered
      · intro other otherMember
        rcases List.mem_append.mp otherMember with old | new
        · exact kept.tasks other (List.mem_of_mem_eraseIdx old)
        · obtain ⟨issued, requested, rfl⟩ := List.mem_map.mp new
          cases (loadedCase_of_resume resumed).1 <;> cases requested

/-- The app has just been opened: nothing is in flight, no plan is listed, and every document
was written by `saveMealPlan`. -/
structure Started (s₀ : State) : Prop where
  idle : s₀.tasks = []
  unlisted : ∀ client, (s₀.clients client).mealPlans = []
  written : ∀ id document, s₀.server[id]? = some document → WrittenUnder id document

theorem rowsKept_start {s₀ : State} (started : Started s₀) : RowsKept s₀ where
  rows client := by constructor <;> simp [started.unlisted]
  documents := started.written
  tasks := by simp [started.idle]

/-- With distinct rows, a swipe removes its row. -/
theorem removesRow_of_distinctRows {s : State} {client row : Nat}
    (rows : DistinctRows (s.clients client))
    (inRange : row < (s.clients client).mealPlans.length) :
    RemovesRow platform s client row := by
  have listed : (s.clients client).mealPlans[row]? = some _ := List.getElem?_eq_getElem inRange
  obtain ⟨mealPlanUID, hasUID⟩ :=
    Option.isSome_iff_exists.mp (rows.named _ (List.mem_of_getElem? listed))
  obtain ⟨plan, read, named⟩ := Option.bind_eq_some_iff.mp hasUID
  have first := rows.findIdx? platform.texts listed
  have handled : (controllerProgram platform).handle (.onScreen (.commitDelete row))
      (s.clients client) = some
        { client := { s.clients client with
            mealPlans := (s.clients client).mealPlans.eraseIdx row }
          requests := [(.deleteMealPlan mealPlanUID, .mealPlanDeleted)] } := by
    show commitDelete platform.texts row (s.clients client) = _
    rw [commitDelete, listed]
    simp only [read, deleteMealPlan, first, UserController.deleteMealPlan, named, Option.map_some]
  refine ⟨_, _, (controllerProgram platform).step_act handled, ?_, ?_⟩
  · rw [RequestReply.State.commit_clients_self]
  · intro ref
    rw [RequestReply.State.commit_clients_self]
    rfl

/-- **The plans listed have distinct UIDs in every run, and so a swipe removes exactly its
row.** -/
theorem rows_distinct {s₀ s : State} {trace : ControllerTrace} (started : Started s₀)
    (run : (controllerProgram platform).Run FreshPlanUUIDs s₀ trace s) (client : Nat) :
    DistinctRows (s.clients client) ∧
      ∀ row < (s.clients client).mealPlans.length, RemovesRow platform s client row := by
  have kept : RowsKept s :=
    run.invariant (I := fun _ s => RowsKept s) (rowsKept_start started)
      fun kept permitted stepped => kept.step permitted stepped
  exact ⟨kept.rows client, fun row inRange => removesRow_of_distinctRows (kept.rows client) inRange⟩

theorem home_started : Started home where
  idle := rfl
  unlisted _ := rfl
  written := home_opened.written

/-- A fetched plan, a created plan and the fetched one emptied: the first row is removed. -/
theorem rows_distinct_two :
    ∃ trace s, (controllerProgram greenwich).Run FreshPlanUUIDs home trace s ∧
      (s.clients 0).mealPlans.length = 2 ∧ DistinctRows (s.clients 0) ∧
      RemovesRow greenwich s 0 0 := by
  have executed : ((controllerProgram greenwich).execute FreshPlanUUIDs home
      [.act 0 (.onScreen .fetchMealPlans), .serve 0 .answered, .deliver 0 (),
        .act 0 (.onScreen (.selectRecipeButtonTapped ⟨0⟩ ⟨oneDay⟩ "P1" fun _ => ⟨0⟩)),
        .act 0 (.updateMealPlanRecipes 0 [])] []).any
        (fun last => decide ((last.2.clients 0).mealPlans.length = 2)) = true := by
    decide
  obtain ⟨⟨trace, s⟩, followed, last⟩ := (Option.any_eq_true _ _).mp executed
  have two : (s.clients 0).mealPlans.length = 2 := of_decide_eq_true last
  have run := Program.Run.of_execute .start followed
  obtain ⟨rows, removes⟩ := rows_distinct home_started run 0
  exact ⟨trace, s, run, two, rows, removes 0 (by omega)⟩

end MyMealPrep.MealPlans
