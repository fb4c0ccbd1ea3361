import MyMealPrep.Machines.FreshKeys
import MyMealPrep.MealPlans.Effects

/-!
# Which document a swipe deletes

`deleteMealPlan` deletes the document named by the `mealPlanUID` of the plan. A plan
gets one UUID there when it is created, while `saveMealPlan` makes up another one
for the document and tells nobody. Only a plan that was fetched has the ID of its
document, so swiping a plan that was created and saved in this session deletes
nothing and the plan comes back with the next fetch.

So a swipe deletes the documents of its row exactly when the plan of the row was
fetched (`swipe_deletes_own_documents_iff`). The meal plan container is a store
whose keys are the IDs of the documents.
-/

set_option autoImplicit false

namespace MyMealPrep.MealPlans

open Firestore (Collection Document Snapshot Value)
open RequestReply (Program Store)

variable {platform : Platform}

/-! ## The meal plan container as a store -/

/-- The ID of the document that a request deletes when it succeeds. -/
def deletedID : Fate → Request → Option String
  | .answered, .deleteMealPlan mealPlanUID => some mealPlanUID
  | _, _ => none

/-- The documents that a reply lists. -/
def listedDocuments : Reply → Snapshot
  | .documents snapshot => snapshot
  | _ => []

theorem stored_of_listed {fate : Fate} {mealPlanContainer : Collection} {request : Request}
    {id : String} {document : Document}
    (listed : (id, document) ∈ listedDocuments (serve fate mealPlanContainer request).2) :
    mealPlanContainer[id]? = some document := by
  cases fate with
  | failed => cases listed
  | answered =>
      cases request with
      | getMealPlans => exact Collection.mem_getDocuments.mp listed
      | _ => cases listed

/-- The documents of the meal plan container by their IDs. -/
def mealPlanStore (platform : Platform) : Store (program platform) String Document where
  contents mealPlanContainer id := mealPlanContainer[id]?
  writes := writtenDocument
  removes := deletedID
  lists := listedDocuments
  contents_serve := by
    intro fate mealPlanContainer request id document stored
    cases fate with
    | failed => exact .inl stored
    | answered =>
        cases request with
        | getMealPlans => exact .inl stored
        | setMealPlan mealPlanUID data =>
            exact (Collection.get_of_setData_get stored).imp_right (congrArg some)
        | deleteMealPlan mealPlanUID => exact .inl (Collection.get_of_delete_get stored)
  removes_serve := by
    intro fate mealPlanContainer request id removed
    cases fate with
    | failed => cases removed
    | answered =>
        cases request with
        | deleteMealPlan mealPlanUID =>
            obtain rfl := Option.some.inj removed
            exact (Collection.delete_get _ _ _).trans (if_pos rfl)
        | _ => cases removed
  lists_answer listed := .inl (stored_of_listed listed)

theorem listsStored (platform : Platform) : (mealPlanStore platform).ListsStored :=
  fun _ _ _ _ _ => stored_of_listed

/-- The IDs in use at the start. -/
def oldIDs (mealPlanContainer : Collection) (id : String) : Prop :=
  mealPlanContainer[id]?.isSome = true

/-! ## Fresh UUIDs -/

/-- The UUID that the handler of an action makes for a plan or for a document. -/
def madeUUID : Label → Option String
  | .act _ (.selectRecipeButtonTapped _ _ mealPlanUID _) => some mealPlanUID
  | .act _ (.saveRecipesButtonTapped mealPlanUID _) => some mealPlanUID
  | _ => none

/-- A UUID is used when it is the ID of a document or an earlier handler made it. -/
def Used (platform : Platform) (mealPlanContainer : Collection) (trace : Trace) (uuid : String) :
    Prop :=
  (mealPlanStore platform).Known (oldIDs mealPlanContainer) trace uuid ∨
    ∃ entry ∈ trace, madeUUID entry.1 = some uuid

/-- The UUID that a handler makes is not used. -/
def FreshUUIDs (platform : Platform) (mealPlanContainer : Collection) (trace : Trace) (_ : State)
    (label : Label) : Prop :=
  ∀ uuid ∈ madeUUID label, ¬ Used platform mealPlanContainer trace uuid

instance (mealPlanContainer : Collection) (trace : Trace) (uuid : String) :
    Decidable (Used platform mealPlanContainer trace uuid) :=
  inferInstanceAs (Decidable ((mealPlanContainer[uuid]?.isSome = true ∨
    ∃ entry ∈ trace, uuid ∈ (mealPlanStore platform).issuedKeys entry.2.requests) ∨
      ∃ entry ∈ trace, madeUUID entry.1 = some uuid))

instance (mealPlanContainer : Collection) (trace : Trace) (s : State) (label : Label) :
    Decidable (FreshUUIDs platform mealPlanContainer trace s label) :=
  inferInstanceAs (Decidable (∀ uuid ∈ madeUUID label,
    ¬ Used platform mealPlanContainer trace uuid))

/-! ## The property -/

/-- Swiping a row of a client does not trap and deletes the document written for the plan
of the row: once the deletion is served no fetch returns it. -/
def DeletesOwnDocuments (platform : Platform) (mealPlanContainer : Collection) (trace : Trace)
    (s : State) (client row : Nat) (plan : Plan) : Prop :=
  ∃ output s', (program platform).step s (.act client (.commitDelete row)) = some (output, s') ∧
    ∀ id ∈ plan.documentIDs,
      output.requests = [(.deleteMealPlan id, .mealPlanDeleted)] ∧
      ∀ later s'', (program platform).Run
          (fun later => FreshUUIDs platform mealPlanContainer
            (later ++ (.act client (.commitDelete row), output) :: trace)) s' later s'' →
        (mealPlanStore platform).Removed later id →
        ∀ currentUser mealPlans,
          UserController.fetchMealPlans currentUser (.documents s''.server.getDocuments) =
            some (.ok mealPlans) →
          ∀ fetched ∈ mealPlans, fetched.documentID ≠ id

/-- Swiping any row with a saved plan, in any state that a run reaches, deletes its
document. -/
def SwipesDeleteOwnDocuments (platform : Platform) (s₀ : State) : Prop :=
  ∀ trace s client row plan,
    (program platform).Run (FreshUUIDs platform s₀.server) s₀ trace s →
    rowPlan (s.clients client) row = some plan → plan.documentIDs ≠ [] →
    DeletesOwnDocuments platform s₀.server trace s client row plan

/-! ## The invariant -/

/-- The document was written by `saveMealPlan` under the ID. -/
def WrittenUnder (id : String) (document : Document) : Prop :=
  ∃ (mealPlan : MealPlan Recipe) (authorID : Option String) (recipeUIDs : Nat → String),
    document = Value.storedFields (mealPlan.dictionary id authorID recipeUIDs)

theorem WrittenUnder.uid {id : String} {document : Document} {mealPlan : MealPlan Recipe}
    (written : WrittenUnder id document)
    (read : MealPlan.ofDocument document = some (some mealPlan)) :
    mealPlan.mealPlanUID = some id := by
  obtain ⟨source, authorID, recipeUIDs, rfl⟩ := written
  rw [MealPlan.ofDocument_dictionary] at read
  rw [← Option.some.inj (Option.some.inj read)]
  rfl

/-- A fetched plan names its document, a settled one. A created plan has a UUID that is used
and is no ID, unlike those of the documents written for it. -/
def PlanKept (platform : Platform) (mealPlanContainer : Collection) (trace : Trace) (s : State)
    (plan : Plan) : Prop :=
  match plan.isFetched with
  | true => ∃ id, plan.documentIDs = [id] ∧ plan.mealPlan.mealPlanUID = some id ∧
      (mealPlanStore platform).Settled (oldIDs mealPlanContainer) trace s id
  | false => ∃ uuid, plan.mealPlan.mealPlanUID = some uuid ∧
      Used platform mealPlanContainer trace uuid ∧
      ¬ (mealPlanStore platform).Known (oldIDs mealPlanContainer) trace uuid ∧
      ∀ id ∈ plan.documentIDs, (mealPlanStore platform).Known (oldIDs mealPlanContainer) trace id

/-- The plans in memory are kept. -/
def PlansInMemoryKept (platform : Platform) (mealPlanContainer : Collection) (trace : Trace)
    (s : State) (client : Client) : Prop :=
  ∀ ref plan, client.plans.read ref = some plan →
    PlanKept platform mealPlanContainer trace s plan

/-- The plan on the selection screen is a created one. -/
def SelectedCreated (client : Client) : Prop :=
  ∀ ref ∈ selectedPlan client,
    ∃ plan, client.plans.read ref = some plan ∧ plan.isFetched = false

/-- The documents are dictionaries of plans, those listed are settled, the plans in memory are
kept, and the plan on a selection screen is a created one. -/
structure PlansKept (platform : Platform) (mealPlanContainer : Collection) (trace : Trace)
    (s : State) : Prop where
  documents : (mealPlanStore platform).Kept (oldIDs mealPlanContainer) WrittenUnder trace s
  listings : (mealPlanStore platform).ListingsSettled (oldIDs mealPlanContainer) trace s
  plans : ∀ client, PlansInMemoryKept platform mealPlanContainer trace s (s.clients client)
  selected : ∀ client, SelectedCreated (s.clients client)

section

variable {mealPlanContainer : Collection} {trace : Trace} {s s' : State} {label : Label}
  {output : Output} {plan : Plan}

/-- A request that writes a document comes from the save button. -/
theorem writes_of_step (stepped : (program platform).StepCase s label output s')
    {issued : Request × Continuation} (requested : issued ∈ output.requests) {id : String}
    {document : Document} (written : writtenDocument issued.1 = some (id, document)) :
    madeUUID label = some id ∧ output.requests = [issued] ∧ WrittenUnder id document := by
  cases stepped with
  | @act client action effect handled =>
      cases plansCase_of_handle handled with
      | unchanged plans selected writes =>
          rw [writes issued requested] at written
          cases written
      | created uid plans selected writes =>
          simp only [writes] at requested
          cases requested
      | saved shown plans selected writes =>
          simp only [writes] at requested ⊢
          obtain rfl := List.mem_singleton.mp requested
          obtain ⟨rfl, rfl⟩ := Prod.mk.inj (Option.some.inj written)
          exact ⟨rfl, rfl, _, _, _, rfl⟩
  | serve inFlight waiting => cases requested
  | deliver inFlight answered resumed =>
      cases loadCase_of_resume resumed with
      | unchanged plans selected writes =>
          simp only [writes] at requested
          cases requested
      | loaded replied delivered plans selected writes =>
          simp only [writes] at requested
          cases requested

theorem madeUUID_of_issued (stepped : (program platform).StepCase s label output s') {id : String}
    (issued : id ∈ (mealPlanStore platform).issuedKeys output.requests) :
    madeUUID label = some id := by
  obtain ⟨request, requested, created⟩ := List.mem_filterMap.mp issued
  obtain ⟨⟨_, document⟩, written, rfl⟩ := Option.map_eq_some_iff.mp created
  exact (writes_of_step stepped requested written).1

theorem freshlyIssued (permitted : FreshUUIDs platform mealPlanContainer trace s label)
    (stepped : (program platform).StepCase s label output s') :
    (mealPlanStore platform).FreshlyIssued (oldIDs mealPlanContainer) trace output.requests := by
  refine .of_alone fun issued requested id document written => ?_
  obtain ⟨made, alone, -⟩ := writes_of_step stepped requested written
  exact ⟨alone, fun known => permitted id made (.inl known)⟩

theorem Used.step {uuid : String} (used : Used platform mealPlanContainer trace uuid) :
    Used platform mealPlanContainer ((label, output) :: trace) uuid := by
  rcases used with known | ⟨entry, member, made⟩
  · exact .inl (known.step _)
  · exact .inr ⟨entry, List.mem_cons_of_mem _ member, made⟩

theorem Used.unknown_step {uuid : String} (used : Used platform mealPlanContainer trace uuid)
    (unknown : ¬ (mealPlanStore platform).Known (oldIDs mealPlanContainer) trace uuid)
    (permitted : FreshUUIDs platform mealPlanContainer trace s label)
    (stepped : (program platform).StepCase s label output s') :
    ¬ (mealPlanStore platform).Known (oldIDs mealPlanContainer) ((label, output) :: trace)
        uuid := by
  intro known
  rcases known.of_cons with before | issued
  · exact unknown before
  · exact permitted uuid (madeUUID_of_issued stepped issued) used

theorem PlanKept.step (kept : PlanKept platform mealPlanContainer trace s plan)
    (permitted : FreshUUIDs platform mealPlanContainer trace s label)
    (stepped : (program platform).StepCase s label output s') :
    PlanKept platform mealPlanContainer ((label, output) :: trace) s' plan := by
  cases origin : plan.isFetched with
  | true =>
      simp only [PlanKept, origin] at kept ⊢
      obtain ⟨id, ids, named, settled⟩ := kept
      exact ⟨id, ids, named, settled.step (freshlyIssued permitted stepped) stepped⟩
  | false =>
      simp only [PlanKept, origin] at kept ⊢
      obtain ⟨uuid, named, used, unknown, known⟩ := kept
      exact ⟨uuid, named, used.step, used.unknown_step unknown permitted stepped,
        fun id member => (known id member).step _⟩

theorem PlansKept.plans_step (kept : PlansKept platform mealPlanContainer trace s)
    (permitted : FreshUUIDs platform mealPlanContainer trace s label)
    (stepped : (program platform).StepCase s label output s') :
    ∀ client, PlansInMemoryKept platform mealPlanContainer ((label, output) :: trace) s'
      (s'.clients client) := by
  have earlier : ∀ client, PlansInMemoryKept platform mealPlanContainer
      ((label, output) :: trace) s' (s.clients client) :=
    fun client ref plan read => (kept.plans client ref plan read).step permitted stepped
  have afterwards := stepped
  cases stepped with
  | @act actor action effect handled =>
      refine RequestReply.State.forall_clients_commit earlier ?_
      intro ref plan read
      cases plansCase_of_handle handled with
      | unchanged plans selected writes =>
          rw [plans] at read
          exact earlier actor ref plan read
      | @created startDate endDate mealPlanUID clock _ mealPlan uid plans selected writes =>
          rw [plans] at read
          rcases Heap.of_read_alloc read with old | ⟨-, rfl⟩
          · exact earlier actor ref plan old
          · have unused := permitted mealPlanUID rfl
            refine ⟨mealPlanUID, uid, .inr ⟨_, List.mem_cons_self, rfl⟩, ?_, by simp⟩
            intro known
            rcases known.of_cons with before | issued
            · exact unused (.inl before)
            · simp [writes, Store.issuedKeys] at issued
      | @saved mealPlanUID recipeUIDs _ target checkedRecipes _ shown plans selected writes =>
          rw [plans, Heap.read_modify] at read
          split at read
          · rename_i same
            subst same
            obtain ⟨old, oldRead, rfl⟩ := Option.map_eq_some_iff.mp read
            obtain ⟨created, createdRead, origin⟩ := kept.selected actor _ shown
            obtain rfl := Option.some.inj (oldRead.symm.trans createdRead)
            have oldKept := earlier actor _ _ oldRead
            simp only [PlanKept, Plan.saved, origin] at oldKept ⊢
            obtain ⟨uuid, named, used, unknown, known⟩ := oldKept
            refine ⟨uuid, named, used, unknown, ?_⟩
            intro id member
            rcases List.mem_append.mp member with before | now
            · exact known id before
            · obtain rfl := List.mem_singleton.mp now
              refine Store.known_of_issued ?_
              simp [writes, Store.issuedKeys, Store.creates, mealPlanStore, writtenDocument,
                UserController.saveMealPlan]
          · exact earlier actor ref plan read
  | serve inFlight waiting => exact earlier
  | @deliver index input task reply effect inFlight answered resumed =>
      refine RequestReply.State.forall_clients_commit earlier ?_
      intro ref plan read
      cases loadCase_of_resume resumed with
      | unchanged plans selected writes =>
          rw [plans] at read
          exact earlier _ ref plan read
      | loaded replied delivered plans selected writes =>
          rw [plans] at read
          rcases read_allocPlans read with old | ⟨fetched, member, object⟩
          · exact earlier _ ref plan old
          · obtain ⟨document, listed, decoded⟩ := mem_fetchMealPlans delivered member
            subst replied
            have member := List.mem_of_getElem? inFlight
            have written := (kept.documents.listed task member _ answered _ _ listed).1
            have settled := kept.listings task member _ answered _ _ listed
            simp only [PlanKept, object.isFetched]
            exact ⟨_, object.documentIDs, object.uid.trans (written.uid decoded),
              settled.step (freshlyIssued permitted afterwards) afterwards⟩

theorem PlansKept.selected_step (kept : PlansKept platform mealPlanContainer trace s)
    (stepped : (program platform).StepCase s label output s') :
    ∀ client, SelectedCreated (s'.clients client) := by
  cases stepped with
  | @act actor action effect handled =>
      refine RequestReply.State.forall_clients_commit kept.selected ?_
      intro ref shown
      cases plansCase_of_handle handled with
      | unchanged plans selected writes =>
          rw [plans]
          exact kept.selected actor ref (selected ▸ shown)
      | created uid plans selected writes =>
          rw [selected] at shown
          obtain rfl := Option.some.inj shown
          exact ⟨_, by rw [plans]; exact Heap.read_alloc_self _ _, rfl⟩
      | saved opened plans selected writes =>
          obtain ⟨plan, read, origin⟩ := kept.selected actor ref (selected ▸ shown)
          rw [plans, Heap.read_modify, read]
          split
          · exact ⟨_, rfl, origin⟩
          · exact ⟨plan, rfl, origin⟩
  | serve inFlight waiting => exact kept.selected
  | @deliver index input task reply effect inFlight answered resumed =>
      refine RequestReply.State.forall_clients_commit kept.selected ?_
      intro ref shown
      cases loadCase_of_resume resumed with
      | unchanged plans selected writes =>
          rw [plans]
          exact kept.selected _ ref (selected ▸ shown)
      | loaded replied delivered plans selected writes =>
          obtain ⟨plan, read, origin⟩ := kept.selected _ ref (selected ▸ shown)
          exact ⟨plan, by rw [plans]; exact read_allocPlans_of_read _ read, origin⟩

/-- **One step whose UUIDs are fresh keeps the plans.** -/
theorem PlansKept.step (kept : PlansKept platform mealPlanContainer trace s)
    (permitted : FreshUUIDs platform mealPlanContainer trace s label)
    (stepped : (program platform).StepCase s label output s') :
    PlansKept platform mealPlanContainer ((label, output) :: trace) s' where
  documents := by
    refine kept.documents.step (freshlyIssued permitted stepped) ?_ stepped
    intro issued requested id document written
    exact (writes_of_step stepped requested written).2.2
  listings := kept.listings.step (listsStored platform) kept.documents
    (freshlyIssued permitted stepped) stepped
  plans := kept.plans_step permitted stepped
  selected := kept.selected_step stepped

end

/-! ## The results -/

/-- The app has just been opened: nothing is in flight, no plan is in memory or on a
screen, and every document was written by `saveMealPlan`. The book may hold any recipes. -/
structure Opened (s₀ : State) : Prop where
  idle : s₀.tasks = []
  empty : ∀ client, (s₀.clients client).plans = {}
  closed : ∀ client, (s₀.clients client).selection = none
  written : ∀ id document, s₀.server[id]? = some document → WrittenUnder id document

theorem plansKept_start {s₀ : State} (opened : Opened s₀) :
    PlansKept platform s₀.server [] s₀ where
  documents := Store.kept_start opened.idle fun id document stored =>
    ⟨Option.isSome_iff_exists.mpr ⟨document, stored⟩, opened.written id document stored⟩
  listings := Store.listingsSettled_start opened.idle
  plans client ref plan read := by
    rw [opened.empty] at read
    cases read
  selected client ref shown := by
    rw [selectedPlan, opened.closed] at shown
    cases shown

theorem plansKept_run {s₀ s : State} {trace : Trace} (opened : Opened s₀)
    (run : (program platform).Run (FreshUUIDs platform s₀.server) s₀ trace s) :
    PlansKept platform s₀.server trace s :=
  run.invariant (plansKept_start opened)
    fun kept permitted stepped => kept.step permitted stepped

/-- **A swipe deletes the documents of its row exactly when the plan was fetched.** A plan
created and saved in this session has another UUID than its documents. -/
theorem swipe_deletes_own_documents_iff {s₀ s : State} {trace : Trace} {client row : Nat}
    {plan : Plan} (opened : Opened s₀)
    (run : (program platform).Run (FreshUUIDs platform s₀.server) s₀ trace s)
    (listed : rowPlan (s.clients client) row = some plan) (saved : plan.documentIDs ≠ []) :
    DeletesOwnDocuments platform s₀.server trace s client row plan ↔ plan.isFetched = true := by
  obtain ⟨ref, -, read⟩ := Option.bind_eq_some_iff.mp listed
  have planKept := (plansKept_run opened run).plans client ref plan read
  obtain ⟨index, deletes⟩ := commitDelete_eq platform.texts listed
  constructor
  · rintro ⟨output, s', step, deletesAll⟩
    by_contra created
    rw [Bool.not_eq_true] at created
    simp only [PlanKept, created] at planKept
    obtain ⟨uuid, named, -, unknown, known⟩ := planKept
    obtain ⟨id, others, ids⟩ := List.exists_cons_of_ne_nil saved
    have member : id ∈ plan.documentIDs := by simp [ids]
    obtain ⟨requests, -⟩ := deletesAll id member
    cases Program.stepCase_of_step step with
    | @act _ _ effect handled =>
        replace handled :
            commitDelete platform.texts row (s.clients client) = some effect := handled
        rw [deletes, named, Option.map_some] at handled
        obtain rfl := Option.some.inj handled
        simp only [List.cons.injEq, Prod.mk.injEq, Request.deleteMealPlan.injEq, and_true]
          at requests
        exact unknown (requests ▸ known id member)
  · intro fetched
    simp only [PlanKept, fetched] at planKept
    obtain ⟨id, ids, named, settled⟩ := planKept
    rw [named, Option.map_some] at deletes
    have handled : (program platform).handle (.commitDelete row) (s.clients client) = some _ :=
      deletes
    have permitted : FreshUUIDs platform s₀.server trace s (.act client (.commitDelete row)) := by
      rintro uuid ⟨⟩
    have step := (program platform).step_act handled
    refine ⟨_, _, step, ?_⟩
    intro other member
    obtain rfl : other = id := by simpa [ids] using member
    refine ⟨rfl, ?_⟩
    intro later s'' laterRun deleted currentUser mealPlans delivered fetchedAgain again sameID
    have stepped := Program.stepCase_of_step step
    have afterwards := settled.step (freshlyIssued permitted stepped) stepped
    have gone : s''.server[other]? = none :=
      Store.removed_run freshlyIssued afterwards laterRun deleted
    obtain ⟨document, inSnapshot, -⟩ := mem_fetchMealPlans delivered again
    have stored := Collection.mem_getDocuments.mp inSnapshot
    rw [sameID, gone] at stored
    cases stored

/-! ## Two rows -/

/-- A user of the app. -/
def ann : User := ⟨"ann@mail.com", "secret", "A"⟩

/-- A recipe of the book of the user. -/
def stew : Recipe where
  label := "Stew"
  image := some ""
  directions := "stew.html"
  ingredients := ["carrots", "stock"]
  yield := 4
  totalTime := 60
  uid := some "R1"
  isChecked := false
  dateToEat := ⟨0⟩
  authorID := some "A"

/-- A day, in nanoseconds. -/
def oneDay : Int := 24 * 60 * 60 * 1000000000

/-- A platform on which days start at the reference instant, for the first two days. -/
def greenwich : Platform where
  startOfDay date := some ⟨date.nanoseconds - date.nanoseconds % oneDay⟩
  day startDate endDate := some ((endDate.nanoseconds - startDate.nanoseconds) / oneDay)
  mediumStyle date := if date.nanoseconds < oneDay then "Jan 1, 2001" else "Jan 2, 2001"
  lowercased := String.toLower
  contains text other :=
    (List.range (text.length + 1)).any fun start =>
      other.toList.isPrefixOf (text.toList.drop start)
  texts := .codePoints

/-- A plan of an earlier session. -/
def weekend : MealPlan Recipe where
  mealPlanName := "Jan 1, 2001 - Jan 2, 2001"
  startDate := ⟨0⟩
  endDate := ⟨oneDay⟩
  recipes := [stew]
  authorID := some "A"
  mealPlanUID := some "P0"

/-- A client whose user has a recipe in the book and has saved a plan in an earlier session. -/
def home : State where
  clients := fun _ => { currentUser := some ann, recipes := ⟨[stew]⟩, savedRecipes := [0] }
  server := Collection.setData ∅ "D0" (weekend.dictionary "D0" (some ann.uuid) fun _ => "R2")
  tasks := []

theorem home_opened : Opened home where
  idle := rfl
  empty _ := rfl
  closed _ := rfl
  written id document stored := by
    rcases Collection.get_of_setData_get stored with before | written
    · simp at before
    · obtain ⟨rfl, rfl⟩ := Prod.mk.inj written
      exact ⟨weekend, some ann.uuid, _, rfl⟩

/-- A fetched plan is deleted with its document. -/
theorem swipe_deletes_own_documents_iff_fetched :
    ∃ trace s plan,
      (program greenwich).Run (FreshUUIDs greenwich home.server) home trace s ∧
      rowPlan (s.clients 0) 0 = some plan ∧ plan.documentIDs = ["D0"] ∧
        DeletesOwnDocuments greenwich home.server trace s 0 0 plan := by
  have executed : ((program greenwich).execute (FreshUUIDs greenwich home.server) home
      [.act 0 .fetchMealPlans, .serve 0 .answered, .deliver 0 ()] []).any
        (fun last => (rowPlan (last.2.clients 0) 0).any fun plan =>
          plan.isFetched && decide (plan.documentIDs = ["D0"])) = true := by
    decide
  obtain ⟨⟨trace, s⟩, followed, last⟩ := (Option.any_eq_true _ _).mp executed
  obtain ⟨plan, listed, origin⟩ := (Option.any_eq_true _ _).mp last
  obtain ⟨fetched, ids⟩ := Bool.and_eq_true_iff.mp origin
  replace ids := of_decide_eq_true ids
  have run := Program.Run.of_execute .start followed
  exact ⟨trace, s, plan, run, listed, ids,
    (swipe_deletes_own_documents_iff home_opened run listed (by simp [ids])).mpr fetched⟩

/-- **Swiping a plan that was created and saved deletes another document.** -/
theorem swipe_misses_saved_plan : ¬ SwipesDeleteOwnDocuments greenwich home := by
  intro deletes
  have executed : ((program greenwich).execute (FreshUUIDs greenwich home.server) home
      [.act 0 (.selectRecipeButtonTapped ⟨0⟩ ⟨oneDay⟩ "P1" fun _ => ⟨0⟩),
        .act 0 (.toggleRecipeChecked 0), .act 0 (.saveRecipesButtonTapped "D1" fun _ => "R3"),
        .serve 0 .answered, .deliver 0 ()] []).any
        (fun last => (rowPlan (last.2.clients 0) 0).any fun plan =>
          decide (plan.documentIDs = ["D1"]) &&
            ((program greenwich).step last.2 (.act 0 (.commitDelete 0))).any fun next =>
              next.1.requests.any fun issued => match issued.1 with
                | .deleteMealPlan id => id != "D1"
                | _ => false) = true := by
    decide
  obtain ⟨⟨trace, s⟩, followed, last⟩ := (Option.any_eq_true _ _).mp executed
  obtain ⟨plan, listed, both⟩ := (Option.any_eq_true _ _).mp last
  obtain ⟨ids, misses⟩ := Bool.and_eq_true_iff.mp both
  replace ids := of_decide_eq_true ids
  obtain ⟨output, s', step, deletesAll⟩ :=
    deletes trace s 0 0 plan (.of_execute .start followed) listed (by simp [ids])
  obtain ⟨requests, -⟩ := deletesAll "D1" (by simp [ids])
  simp [step, requests] at misses

end MyMealPrep.MealPlans
