import MyMealPrep.Machines.Following
import MyMealPrep.MealPlans.References

/-!
# Plans created during a fetch

A fetch empties the list of plans when it starts and replaces it when it ends,
whatever the user has created in between. A plan created is in no document before a
later screen saves it, and afterwards a snapshot may list it: then a copy of the plan
takes its place in the list.

So a plan created stays in the list as long as no other fetch is started and every
snapshot delivered lists it, and as long as it is not changed once a copy has taken
its place (`PlanStands.step`). A fetch started, or a snapshot delivered without the plan,
loses it (`fetchSpares_of_inList`).
-/

set_option autoImplicit false

namespace MyMealPrep.MealPlans

open Firestore (Document Snapshot)
open RequestReply (Program)

variable {platform : Platform}

/-! ## What is in the list -/

/-- What a plan has in common with the plan that is read back: everything but its ID and its
author, and the contents of its recipes. -/
def contentOf (mealPlan : MealPlan (Option Recipe)) : MealPlan (Option Recipe) :=
  { mealPlan with
    recipes := mealPlan.recipes.map (Option.map Recipe.content)
    authorID := none
    mealPlanUID := none }

/-- The content of a plan in memory. -/
def planContent (client : Client) (ref : Ref) : Option (MealPlan (Option Recipe)) :=
  (client.readPlan ref).map contentOf

/-- The content of a plan read from a document. -/
def readContent (mealPlan : MealPlan Recipe) : MealPlan (Option Recipe) :=
  contentOf (mealPlan.withRecipes (mealPlan.recipes.map some))

/-- Some plan of the list has the content of the plan. -/
def InList (client : Client) (ref : Ref) : Prop :=
  ∃ other ∈ client.mealPlans, planContent client other = planContent client ref

/-- The content of a plan in memory, as `==` compares it. -/
def comparedContent (texts : TextEquality) (client : Client) (ref : Ref) :
    Option (MealPlan (Option Recipe)) :=
  (planContent client ref).map (comparedPlan texts)

/-- The action swipes a plan equal to the plan or, when the plan itself is not in the list, one
with an equal content. -/
def DeletesPlan (texts : TextEquality) (client : Client) (ref : Ref) : Action → Prop
  | .commitDelete row => ∃ other ∈ client.mealPlans[row]?,
      client.planValue texts other = client.planValue texts ref ∨
        ref ∉ client.mealPlans ∧ comparedContent texts client other =
          comparedContent texts client ref
  | _ => False

/-- The action saves the plan or runs the block of a tap on one of its recipes. -/
def EditsPlan (client : Client) (ref : Ref) : Action → Prop
  | .saveRecipesButtonTapped _ _ => selectedPlan client = some ref
  | .toggleRecipeChecked tapped => ∃ selection ∈ client.selection,
      selection.MayShow client tapped ∧ ∃ plan ∈ client.plans.read ref,
        tapped ∈ plan.mealPlan.recipes
  | _ => False

/-! ## What a fetch does to it -/

/-- Every document of the snapshot is a plan. -/
def AllMealPlans (snapshot : Snapshot) : Prop :=
  ∀ entry ∈ snapshot, ∃ mealPlan, MealPlan.ofDocument entry.2 = some (some mealPlan)

/-- The snapshot lists a plan of the user with the content. -/
def ListsPlan (currentUser : Option User) (content : Option (MealPlan (Option Recipe)))
    (snapshot : Snapshot) : Prop :=
  ∃ entry ∈ snapshot, ∃ listed, MealPlan.ofDocument entry.2 = some (some listed) ∧
    listed.authorID = currentUser.map User.uuid ∧ content = some (readContent listed)

instance (currentUser : Option User) (content : Option (MealPlan (Option Recipe)))
    (snapshot : Snapshot) : Decidable (ListsPlan currentUser content snapshot) :=
  decidable_of_iff (∃ entry ∈ snapshot, ∃ read ∈ MealPlan.ofDocument entry.2, ∃ listed ∈ read,
    listed.authorID = currentUser.map User.uuid ∧ content = some (readContent listed)) <|
    exists_congr fun _ => and_congr_right fun _ =>
      ⟨fun ⟨_, decoded, listed, found, own⟩ => ⟨listed, decoded.trans (congrArg some found), own⟩,
        fun ⟨listed, decoded, own⟩ => ⟨some listed, decoded, listed, rfl, own⟩⟩

/-- The client starts no fetch, and a fetch of it that delivers plans delivers this one. -/
def FetchSpares (client : Nat) (ref : Ref) (s : State) : Label → Prop
  | .act actor .fetchMealPlans => actor ≠ client
  | .deliver index _ => ∀ task ∈ s.tasks[index]?, task.client = client →
      task.continuation = .mealPlansLoaded →
      ∀ snapshot, task.reply = some (.documents snapshot) → AllMealPlans snapshot →
        ListsPlan (s.clients client).currentUser (planContent (s.clients client) ref) snapshot
  | _ => True

/-- Fetches spare the plan, and it is changed only while it is in the list itself. -/
def PlanSpared (client : Nat) (ref : Ref) (s : State) (label : Label) : Prop :=
  FetchSpares client ref s label ∧
    ∀ action, label = .act client action → EditsPlan (s.clients client) ref action →
      ref ∈ (s.clients client).mealPlans

/-- The documents of a reply. -/
def Reply.snapshot : Reply → Option Snapshot
  | .documents snapshot => some snapshot
  | _ => none

/-- A delivery spares a plan that its snapshot lists. -/
theorem planSpared_of_lists {s : State} {client index : Nat} {ref : Ref} {task : Task}
    {reply : Reply} {snapshot : Snapshot} (inFlight : s.tasks[index]? = some task)
    (answered : task.reply = some reply) (documents : reply.snapshot = some snapshot)
    (lists : ListsPlan (s.clients client).currentUser (planContent (s.clients client) ref)
      snapshot) : PlanSpared client ref s (.deliver index ()) := by
  refine ⟨?_, fun action acts => by cases acts⟩
  intro other found _ _ delivered replied _
  obtain rfl := Option.some.inj (inFlight.symm.trans found)
  obtain rfl := Option.some.inj (answered.symm.trans replied)
  obtain rfl := Option.some.inj documents
  exact lists

theorem fetchMealPlans_documents {currentUser : Option User} {snapshot : Snapshot}
    {fetched : List UserController.Fetched}
    (delivered : UserController.fetchMealPlans currentUser (.documents snapshot) =
      some (.ok fetched)) :
    AllMealPlans snapshot ∧ ∀ content, ListsPlan currentUser content snapshot ↔
      ∃ first ∈ fetched, content = some (readContent first.mealPlan) := by
  obtain ⟨all, decoded, rfl⟩ := fetchMealPlans_eq_ok_iff.mp delivered
  refine ⟨fun entry listed => ?_, fun content => ⟨?_, ?_⟩⟩
  · obtain ⟨mealPlan, read, -⟩ := decodeMealPlans_mem decoded listed
    exact ⟨mealPlan, read⟩
  · rintro ⟨entry, entryMember, listed, read, own, same⟩
    obtain ⟨mealPlan, readAgain, member⟩ := decodeMealPlans_mem decoded entryMember
    obtain rfl := Option.some.inj (Option.some.inj (read.symm.trans readAgain))
    exact ⟨_, List.mem_filter.mpr ⟨member, beq_iff_eq.mpr own⟩, same⟩
  · rintro ⟨first, member, same⟩
    obtain ⟨listed, own⟩ := List.mem_filter.mp member
    obtain ⟨document, entryMember, read⟩ := mem_decodeMealPlans decoded listed
    exact ⟨_, entryMember, _, read, beq_iff_eq.mp own, same⟩

/-! ## The content of a plan -/

section

variable {texts : TextEquality} {client changed : Client} {ref : Ref}

theorem planContent_congr (plan : changed.plans.read ref = client.plans.read ref)
    (recipes : ∀ plan, client.plans.read ref = some plan → ∀ recipe ∈ plan.mealPlan.recipes,
      changed.recipes.read recipe = client.recipes.read recipe) :
    planContent changed ref = planContent client ref := by
  rw [planContent, planContent, Client.readPlan, Client.readPlan, plan]
  cases read : client.plans.read ref with
  | none => rfl
  | some object => simp only [Option.map_some, List.map_congr_left (recipes object read)]

theorem comparedPlan_contentOf (mealPlan : MealPlan (Option Recipe)) :
    comparedPlan texts (contentOf mealPlan) =
      { comparedPlan texts mealPlan with
        recipes :=
          (comparedPlan texts mealPlan).recipes.map (Option.map (Recipe.contentCompared texts))
        authorID := none
        mealPlanUID := none } := by
  have contents (recipe : Recipe) : recipe.content.compared texts =
      Recipe.contentCompared texts (recipe.compared texts) :=
    recipe.comparedContent_eq texts
  simp [comparedPlan, contentOf, Function.comp_def, contents]

theorem comparedContent_congr {other : Ref}
    (same : client.planValue texts ref = client.planValue texts other) :
    comparedContent texts client ref = comparedContent texts client other := by
  have fromValue : ∀ plan, comparedContent texts client plan =
      (client.planValue texts plan).map fun mealPlan =>
        { mealPlan with
          recipes := mealPlan.recipes.map (Option.map (Recipe.contentCompared texts))
          authorID := none
          mealPlanUID := none } := by
    intro plan
    rw [comparedContent, planContent, Client.planValue, Option.map_map, Option.map_map]
    exact congrArg (fun change => (client.readPlan plan).map change)
      (funext comparedPlan_contentOf)
  rw [fromValue, fromValue, same]

/-- A copy of a plan: no action changes it or one of its recipes. -/
structure Detached (client : Client) (copy : Ref) : Prop where
  unselected : selectedPlan client ≠ some copy
  recipes : ∀ plan, client.plans.read copy = some plan → ∀ recipe ∈ plan.mealPlan.recipes,
    recipe ∉ client.savedRecipes

/-- The plan is in the list itself, or a copy of it is. -/
structure PlanStands (client : Client) (ref : Ref) : Prop where
  referenced : Referenced client
  readable : (client.plans.read ref).isSome = true
  stands : ref ∈ client.mealPlans ∨ ∃ copy ∈ client.mealPlans, Detached client copy ∧
    planContent client copy = planContent client ref

theorem PlanStands.inList (stands : PlanStands client ref) : InList client ref := by
  rcases stands.stands with itself | ⟨copy, member, -, content⟩
  · exact ⟨ref, itself, rfl⟩
  · exact ⟨copy, member, content⟩

/-- The plan stands as long as it is not changed unless it is in the list itself, and copies are
not changed at all. -/
theorem PlanStands.congr (stands : PlanStands client ref) (referenced : Referenced changed)
    (readable : (changed.plans.read ref).isSome = true)
    (mealPlans : client.mealPlans ⊆ changed.mealPlans)
    (own : ref ∉ client.mealPlans → planContent changed ref = planContent client ref)
    (copies : ∀ copy ∈ client.mealPlans, Detached client copy →
      Detached changed copy ∧ planContent changed copy = planContent client copy) :
    PlanStands changed ref := by
  refine ⟨referenced, readable, ?_⟩
  by_cases itself : ref ∈ client.mealPlans
  · exact .inl (mealPlans itself)
  · obtain ⟨copy, member, detached, content⟩ := stands.stands.resolve_left itself
    obtain ⟨stillDetached, sameContent⟩ := copies copy member detached
    exact .inr ⟨copy, mealPlans member, stillDetached,
      sameContent.trans (content.trans (own itself).symm)⟩

theorem InList.readable (inList : InList client ref) (referenced : Referenced client) :
    (client.plans.read ref).isSome = true := by
  obtain ⟨other, member, same⟩ := inList
  obtain ⟨plan, read⟩ := Option.isSome_iff_exists.mp (referenced.listed other member)
  cases own : client.plans.read ref with
  | some _ => rfl
  | none => simp [planContent, Client.readPlan, read, own] at same

/-! ## Actions -/

theorem planContent_alloc (readable : (client.plans.read ref).isSome = true) (new : Plan)
    (plans : changed.plans = (client.plans.alloc new).1)
    (recipes : changed.recipes = client.recipes) :
    planContent changed ref = planContent client ref := by
  obtain ⟨plan, read⟩ := Option.isSome_iff_exists.mp readable
  refine planContent_congr ?_ fun _ _ _ _ => by rw [recipes]
  rw [plans, read, Heap.read_alloc_of_read read]

/-- A plan stays when a recipe that it does not have changes. -/
theorem planContent_modify_recipe {tapped : Ref} {change : Recipe → Recipe}
    (without : ∀ plan, client.plans.read ref = some plan → tapped ∉ plan.mealPlan.recipes)
    (plans : changed.plans = client.plans)
    (recipes : changed.recipes = client.recipes.modify tapped change) :
    planContent changed ref = planContent client ref := by
  refine planContent_congr (by rw [plans]) fun plan read recipe member => ?_
  rw [recipes, Heap.read_modify, if_neg]
  rintro rfl
  exact without plan read member

theorem planContent_modify_plan {saved : Ref} {change : Plan → Plan} (different : saved ≠ ref)
    (plans : changed.plans = client.plans.modify saved change)
    (recipes : changed.recipes = client.recipes) :
    planContent changed ref = planContent client ref := by
  refine planContent_congr ?_ fun _ _ _ _ => by rw [recipes]
  rw [plans, Heap.read_modify, if_neg different]

/-- The plan stands when a recipe of the book changes that it does not have, unless it is in the
list itself. -/
theorem PlanStands.modifyRecipe {tapped : Ref} {change : Recipe → Recipe}
    {selection : Option Selection} (stands : PlanStands client ref)
    (referenced : Referenced changed) (saved : tapped ∈ client.savedRecipes)
    (selected : selectedPlan changed = selectedPlan client)
    (recipes : changed.recipes = client.recipes.modify tapped change)
    (others : changed = { client with recipes := changed.recipes, selection })
    (unedited : ref ∉ client.mealPlans → ∀ plan, client.plans.read ref = some plan →
      tapped ∉ plan.mealPlan.recipes) : PlanStands changed ref := by
  have plans : changed.plans = client.plans := by rw [others]
  have mealPlans : changed.mealPlans = client.mealPlans := by rw [others]
  have savedRecipes : changed.savedRecipes = client.savedRecipes := by rw [others]
  refine stands.congr referenced ?_ ?_ ?_ ?_
  · rw [plans]
    exact stands.readable
  · rw [mealPlans]
    exact List.Subset.refl _
  · exact fun gone => planContent_modify_recipe (unedited gone) plans recipes
  · intro copy member detached
    have without : ∀ plan, client.plans.read copy = some plan → tapped ∉ plan.mealPlan.recipes :=
      fun plan read tappedToo => detached.recipes plan read tapped tappedToo saved
    refine ⟨⟨?_, ?_⟩, planContent_modify_recipe without plans recipes⟩
    · rw [selected]
      exact detached.unselected
    · rw [plans, savedRecipes]
      exact detached.recipes

theorem PlanStands.toggle {selection : Selection} {tapped : Ref} {effect : Effect}
    (stands : PlanStands client ref) (shown : client.selection = some selection)
    (mayShow : selection.MayShow client tapped)
    (toggled : ToggleCase texts tapped client selection effect)
    (unedited : ref ∉ client.mealPlans → ∀ plan, client.plans.read ref = some plan →
      tapped ∉ plan.mealPlan.recipes) : PlanStands effect.client ref := by
  have saved := stands.referenced.saved_of_mayShow shown mayShow
  have referenced := stands.referenced.toggle shown saved toggled
  cases toggled with
  | idle => exact stands
  | checked read unchecked =>
      exact stands.modifyRecipe referenced saved (by simp [selectedPlan, shown]) rfl rfl unedited
  | unchecked read wasChecked first =>
      exact stands.modifyRecipe referenced saved (by simp [selectedPlan, shown]) rfl rfl unedited

/-- A swipe keeps the plan in the list, unless it deletes it. -/
theorem PlanStands.commitDelete {row index : Nat} {other : Ref} (stands : PlanStands client ref)
    (referenced : Referenced { client with mealPlans := client.mealPlans.eraseIdx index })
    (listed : client.mealPlans[row]? = some other)
    (first : (client.mealPlans.findIdx? fun candidate =>
      client.planValue texts candidate = client.planValue texts other) = some index)
    (notDeleted : ¬ DeletesPlan texts client ref (.commitDelete row)) :
    PlanStands { client with mealPlans := client.mealPlans.eraseIdx index } ref := by
  obtain ⟨inRange, equal, -⟩ := List.findIdx?_eq_some_iff_getElem.mp first
  replace equal := of_decide_eq_true equal
  have found : client.mealPlans[index]? = some client.mealPlans[index] :=
    List.getElem?_eq_getElem inRange
  -- The plan removed has the value of the one swiped, so it is neither the plan nor its copy.
  have remains : ∀ candidate ∈ client.mealPlans,
      client.planValue texts candidate ≠ client.planValue texts other →
        candidate ∈ client.mealPlans.eraseIdx index := by
    intro candidate member differs
    obtain ⟨position, here⟩ := List.mem_iff_getElem?.mp member
    refine List.mem_eraseIdx_iff_getElem?.mpr ⟨position, ?_, here⟩
    rintro rfl
    obtain rfl := Option.some.inj (found.symm.trans here)
    exact differs equal
  have unlike : client.planValue texts ref ≠ client.planValue texts other := fun same =>
    notDeleted ⟨other, listed, .inl same.symm⟩
  refine ⟨referenced, stands.readable, ?_⟩
  by_cases itself : ref ∈ client.mealPlans
  · exact .inl (remains ref itself unlike)
  · obtain ⟨copy, member, detached, content⟩ := stands.stands.resolve_left itself
    refine .inr ⟨copy, remains copy member fun same => ?_, ⟨detached.unselected, detached.recipes⟩,
      content⟩
    refine notDeleted ⟨other, listed, .inr ⟨itself, ?_⟩⟩
    rw [← comparedContent_congr same, comparedContent, content]
    rfl

/-- An action keeps the plan in the list, unless it starts a fetch, deletes the plan, or changes
it when it is not in the list itself. -/
theorem PlanStands.handle {action : Action} {effect : Effect} (stands : PlanStands client ref)
    (acted : ActionCase texts client action effect) (noFetch : action ≠ .fetchMealPlans)
    (notDeleted : ¬ DeletesPlan texts client ref action)
    (unedited : EditsPlan client ref action → ref ∈ client.mealPlans) :
    PlanStands effect.client ref := by
  have referenced := stands.referenced.handle acted
  cases acted with
  | idle => exact stands
  | fetchMealPlans => exact absurd rfl noFetch
  | @created startDate endDate mealPlanUID clock mealPlan uid recipes dates =>
      refine stands.congr referenced ?_ (List.subset_append_left _ _) ?_ ?_
      · exact (Heap.extends_alloc _ _).isSome_read stands.readable
      · exact fun _ => planContent_alloc stands.readable { mealPlan } rfl rfl
      · intro copy member detached
        have readable := stands.referenced.listed copy member
        refine ⟨⟨?_, ?_⟩, planContent_alloc readable { mealPlan } rfl rfl⟩
        · intro selected
          obtain rfl := Option.some.inj selected
          rw [Heap.read_alloc_eq_none] at readable
          cases readable
        · intro plan read
          obtain ⟨old, oldRead⟩ := Option.isSome_iff_exists.mp readable
          rw [Heap.read_alloc_of_read oldRead] at read
          exact detached.recipes plan (oldRead.trans read)
  | searched shown found =>
      refine stands.congr referenced stands.readable (List.Subset.refl _) (fun _ => rfl) ?_
      intro copy member detached
      refine ⟨⟨fun selected => detached.unselected ?_, detached.recipes⟩, rfl⟩
      simpa [selectedPlan, shown] using selected
  | @toggled selection tapped shown mayShow =>
      refine stands.toggle shown mayShow (toggleCase _ _ _ _) ?_
      exact fun gone plan read has =>
        gone (unedited ⟨selection, shown, mayShow, plan, read, has⟩)
  | @saved mealPlanUID recipeUIDs selection saved mealPlan shown opened =>
      have selected : selectedPlan client = some saved := by
        rw [selectedPlan, shown, Option.bind_some, opened]
      refine stands.congr referenced ?_ (List.Subset.refl _) ?_ ?_
      · exact (Heap.isSome_read_modify _ _ _ _).trans stands.readable
      · intro gone
        exact planContent_modify_plan (fun same => gone (unedited (same ▸ selected))) rfl rfl
      · intro copy member detached
        have different : saved ≠ copy := fun same => detached.unselected (same ▸ selected)
        refine ⟨⟨detached.unselected, ?_⟩, planContent_modify_plan different rfl rfl⟩
        intro plan read
        rw [Heap.read_modify, if_neg different] at read
        exact detached.recipes plan read
  | deleted listed first => exact stands.commitDelete referenced listed first notDeleted

/-! ## Callbacks -/

theorem planContent_loaded {fetched : List UserController.Fetched} (referenced : Referenced client)
    (readable : (client.plans.read ref).isSome = true) (mealPlans : List Ref) :
    planContent { (client.allocPlans fetched).1 with mealPlans } ref = planContent client ref := by
  obtain ⟨recipes, plans, same, recipesGrow, plansGrow⟩ := allocPlans_eq client fetched
  obtain ⟨plan, read⟩ := Option.isSome_iff_exists.mp readable
  rw [same]
  refine planContent_congr ((plansGrow ref plan read).trans read.symm) ?_
  intro other otherRead recipe member
  obtain ⟨object, found⟩ :=
    Option.isSome_iff_exists.mp (referenced.planned ref other otherRead recipe member)
  exact (recipesGrow recipe object found).trans found.symm

theorem planContent_newObject {fetched : List UserController.Fetched}
    {first : UserController.Fetched} (object : NewObjectOf client (client.allocPlans fetched).1 ref
      first) (mealPlans : List Ref) :
    planContent { (client.allocPlans fetched).1 with mealPlans } ref =
      some (readContent first.mealPlan) :=
  congrArg (Option.map contentOf) object.value

/-- Among the objects of fetched plans there is one with a content exactly when a fetched plan
has it. -/
theorem exists_newObject_iff (fetched : List UserController.Fetched)
    (content : Option (MealPlan (Option Recipe))) (mealPlans : List Ref) :
    (∃ new ∈ (client.allocPlans fetched).2,
      planContent { (client.allocPlans fetched).1 with mealPlans } new = content) ↔
    ∃ first ∈ fetched, content = some (readContent first.mealPlan) := by
  constructor
  · rintro ⟨new, member, same⟩
    obtain ⟨first, firstMember, object⟩ := newObjectOf_of_mem member
    exact ⟨first, firstMember, same.symm.trans (planContent_newObject object mealPlans)⟩
  · rintro ⟨first, member, same⟩
    obtain ⟨sameLength, objects⟩ := List.forall₂_iff_get.mp (allocPlans_spec client fetched)
    obtain ⟨index, inRange, rfl⟩ := List.mem_iff_getElem.mp member
    have newInRange : index < (client.allocPlans fetched).2.length := sameLength ▸ inRange
    refine ⟨(client.allocPlans fetched).2[index], List.getElem_mem newInRange, ?_⟩
    rw [same]
    exact planContent_newObject (objects index newInRange inRange) mealPlans

theorem inList_loaded_iff {snapshot : Snapshot} {fetched : List UserController.Fetched}
    (referenced : Referenced client) (readable : (client.plans.read ref).isSome = true)
    (delivered : UserController.fetchMealPlans client.currentUser (.documents snapshot) =
      some (.ok fetched)) :
    InList { (client.allocPlans fetched).1 with mealPlans := (client.allocPlans fetched).2 } ref ↔
      ListsPlan client.currentUser (planContent client ref) snapshot := by
  rw [InList, planContent_loaded referenced readable, exists_newObject_iff,
    (fetchMealPlans_documents delivered).2]

theorem PlanStands.resume {reply : Reply} {effect : Effect} (stands : PlanStands client ref)
    (loaded : LoadedCase reply client effect)
    (lists : ∀ snapshot, reply = .documents snapshot → AllMealPlans snapshot →
      ListsPlan client.currentUser (planContent client ref) snapshot) :
    PlanStands effect.client ref := by
  have referenced := stands.referenced.resume loaded
  cases loaded with
  | idle => exact stands
  | @loaded snapshot fetched answered delivered =>
      obtain ⟨recipes, plans, same, -, plansGrow⟩ := allocPlans_eq client fetched
      have listed := lists snapshot answered (fetchMealPlans_documents delivered).1
      obtain ⟨copy, member, content⟩ :=
        (inList_loaded_iff stands.referenced stands.readable delivered).mpr listed
      obtain ⟨first, -, object⟩ := newObjectOf_of_mem member
      refine ⟨referenced, ?_, .inr ⟨copy, member, ⟨?_, ?_⟩, content⟩⟩
      · rw [same]
        exact plansGrow.isSome_read stands.readable
      · -- The plan on the screen was in memory before the copy was made.
        intro selected
        rw [same] at selected
        obtain ⟨selection, shown, opened⟩ := Option.bind_eq_some_iff.mp selected
        have old := (stands.referenced.selected selection shown).mealPlan copy opened
        rw [object.missing] at old
        cases old
      · intro plan read recipe has saved
        obtain ⟨missing, -⟩ := object.recipes plan read recipe has
        rw [same] at saved
        have old := stands.referenced.saved recipe saved
        rw [missing] at old
        cases old

end

/-! ## Steps -/

/-- The client of a request in flight swipes the plan. -/
def Deletes (texts : TextEquality) (client : Nat) (ref : Ref) (s : State) (label : Label) : Prop :=
  ∃ action, label = .act client action ∧ DeletesPlan texts (s.clients client) ref action

theorem planSpared_serve (texts : TextEquality) (client : Nat) (ref : Ref) (s : State) (index : Nat)
    (fate : Fate) :
    PlanSpared client ref s (.serve index fate) ∧
      ¬ Deletes texts client ref s (.serve index fate) := by
  refine ⟨⟨trivial, ?_⟩, ?_⟩
  · intro action acts
    cases acts
  · rintro ⟨action, acts, -⟩
    cases acts

/-- **A step that spares the plan and does not delete it keeps it in the list.** -/
theorem PlanStands.step {s s' : State} {label : Label} {output : Output} {client : Nat} {ref : Ref}
    (stands : PlanStands (s.clients client) ref)
    (stepped : (program platform).StepCase s label output s')
    (spared : PlanSpared client ref s label)
    (notDeleted : ¬ Deletes platform.texts client ref s label) :
    PlanStands (s'.clients client) ref := by
  obtain ⟨fetchSpares, unedited⟩ := spared
  cases stepped with
  | @act actor action effect handled =>
      by_cases same : actor = client
      · subst same
        rw [RequestReply.State.commit_clients_self]
        refine stands.handle (actionCase_of_handle handled) ?_ ?_ (unedited action rfl)
        · rintro rfl
          exact fetchSpares rfl
        · exact fun deletes => notDeleted ⟨action, rfl, deletes⟩
      · rw [RequestReply.State.commit_clients_of_ne s _ _ (Ne.symm same)]
        exact stands
  | serve inFlight waiting => exact stands
  | @deliver index input task reply effect inFlight answered resumed =>
      by_cases same : task.client = client
      · subst same
        rw [RequestReply.State.commit_clients_self]
        obtain ⟨loaded, others⟩ := loadedCase_of_resume resumed
        by_cases loads : task.continuation = .mealPlansLoaded
        · refine stands.resume loaded fun snapshot replied => ?_
          rw [replied] at answered
          exact fetchSpares task inFlight rfl loads snapshot answered
        · rw [others loads]
          exact stands
      · rw [RequestReply.State.commit_clients_of_ne s _ _ (Ne.symm same)]
        exact stands

/-- A fetch that is started, or delivers plans without the plan, loses it. -/
theorem fetchSpares_of_inList {s s' : State} {label : Label} {output : Output} {client : Nat}
    {ref : Ref} (referenced : Referenced (s.clients client))
    (readable : ((s.clients client).plans.read ref).isSome = true)
    (stepped : (program platform).StepCase s label output s')
    (inList : InList (s'.clients client) ref) : FetchSpares client ref s label := by
  cases stepped with
  | @act actor action effect handled =>
      cases action with
      | fetchMealPlans =>
          rintro rfl
          obtain rfl := Option.some.inj handled
          rw [RequestReply.State.commit_clients_self] at inList
          obtain ⟨other, member, -⟩ := inList
          cases member
      | _ => trivial
  | serve inFlight waiting => trivial
  | @deliver index input task reply effect inFlight answered resumed =>
      intro other found same loads snapshot replied all
      obtain rfl := Option.some.inj (inFlight.symm.trans found)
      obtain rfl := Option.some.inj (answered.symm.trans replied)
      subst same
      obtain ⟨fetched, decoded⟩ := exists_decodeMealPlans all
      have delivered (currentUser : Option User) :
          UserController.fetchMealPlans currentUser (.documents snapshot) =
            some (.ok (UserController.ownMealPlans currentUser fetched)) := by
        rw [UserController.fetchMealPlans, decoded]
      change resume task.continuation (.documents snapshot) _ = some effect at resumed
      rw [loads, resume, mealPlansLoaded, delivered] at resumed
      obtain rfl := Option.some.inj resumed
      rw [RequestReply.State.commit_clients_self] at inList
      exact (inList_loaded_iff referenced readable (delivered _)).mp inList

/-! ## Runs -/

/-- A plan created while a fetch of its client is in flight is in the list once the callback of
the fetch has run, when the steps in between are allowed and none of them deletes it. -/
def KeepsCreatedPlans (platform : Platform) (allowed : Nat → Ref → State → Label → Prop)
    (s₀ : State) : Prop :=
  ∀ trace s index task startDate endDate mealPlanUID clock output created ref later s' index'
      output' s'',
    (program platform).Run Program.anyStep s₀ trace s → s.tasks[index]? = some task →
    task.continuation = .mealPlansLoaded → startDate.nanoseconds < endDate.nanoseconds →
    (program platform).step s
      (.act task.client (.selectRecipeButtonTapped startDate endDate mealPlanUID clock)) =
        some (output, created) →
    (created.clients task.client).mealPlans.getLast? = some ref →
    (program platform).Awaits (fun _ s label => allowed task.client ref s label ∧
      ¬ Deletes platform.texts task.client ref s label) [] created index later s' index' →
    allowed task.client ref s' (.deliver index' ()) →
    (program platform).step s' (.deliver index' ()) = some (output', s'') →
    InList (s''.clients task.client) ref

theorem AllReferenced.run {s₀ s : State} {trace : Trace} (referenced : AllReferenced s₀)
    (run : (program platform).Run Program.anyStep s₀ trace s) : AllReferenced s :=
  run.invariant (I := fun _ s => AllReferenced s) referenced fun kept _ stepped => kept.step stepped

theorem AllReferenced.planStands {s : State} {client : Nat} {ref : Ref}
    (referenced : AllReferenced s) (member : ref ∈ (s.clients client).mealPlans) :
    PlanStands (s.clients client) ref :=
  ⟨referenced client, (referenced client).listed ref member, .inl member⟩

theorem keepsCreatedPlans {s₀ : State} (referenced : AllReferenced s₀) :
    KeepsCreatedPlans platform PlanSpared s₀ := by
  intro trace s index task startDate endDate mealPlanUID clock output created ref later s' index'
    output' s'' run _ _ _ step last awaits spared delivered
  have createdReferenced : AllReferenced created :=
    (referenced.run run).step (Program.stepCase_of_step step)
  have stands : PlanStands (s'.clients task.client) ref := by
    refine awaits.invariant (I := fun s => PlanStands (s.clients task.client) ref)
      (createdReferenced.planStands (List.mem_of_getLast? last)) ?_
    rintro trace s label output s' stands ⟨spared, notDeleted⟩ stepped
    exact stands.step stepped spared notDeleted
  refine (stands.step (Program.stepCase_of_step delivered) spared ?_).inList
  rintro ⟨action, isAction, -⟩
  cases isAction

end MyMealPrep.MealPlans
