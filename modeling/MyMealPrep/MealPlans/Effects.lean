import MyMealPrep.MealPlans.System

/-!
# What the screens do to the plans

The cases of the handlers and callbacks, each with everything it does
(`ActionCase`, `LoadedCase`), and what they do to the plans in memory. Most leave
them and write no document. The cases that do something are a plan created, a plan
saved and plans fetched (`PlansCase`, `LoadCase`). A plan created is the one shown by
the selection screen opened with it; a plan saved is the one shown.
-/

set_option autoImplicit false

namespace MyMealPrep.MealPlans

open Firestore (Document Snapshot Value)

variable {platform : Platform}

/-! ## Rows and requests -/

/-- The document that a request writes, with its ID. -/
def writtenDocument : Request → Option (String × Document)
  | .setMealPlan mealPlanUID data => some (mealPlanUID, Value.storedFields data)
  | _ => none

/-- The plan in a row of the list. -/
def rowPlan (client : Client) (row : Nat) : Option Plan :=
  client.mealPlans[row]?.bind client.plans.read

/-- A swipe deletes the document named by the plan of the row. -/
theorem commitDelete_eq (texts : TextEquality) {client : Client} {row : Nat} {plan : Plan}
    (listed : rowPlan client row = some plan) :
    ∃ index, commitDelete texts row client = plan.mealPlan.mealPlanUID.map fun mealPlanUID =>
      { client := { client with mealPlans := client.mealPlans.eraseIdx index }
        requests := [(.deleteMealPlan mealPlanUID, .mealPlanDeleted)] } := by
  obtain ⟨ref, inList, read⟩ := Option.bind_eq_some_iff.mp listed
  have equal : (client.mealPlans.findIdx? fun other =>
      client.planValue texts other = client.planValue texts ref).isSome = true := by
    rw [List.findIdx?_isSome, List.any_eq_true]
    exact ⟨ref, List.mem_of_getElem? inList, decide_eq_true rfl⟩
  obtain ⟨index, first⟩ := Option.isSome_iff_exists.mp equal
  refine ⟨index, ?_⟩
  rw [commitDelete, inList]
  simp only [read, deleteMealPlan, first, UserController.deleteMealPlan]
  cases plan.mealPlan.mealPlanUID <;> rfl

/-- The plan on the selection screen. -/
def selectedPlan (client : Client) : Option Ref :=
  client.selection.bind Selection.mealPlan

/-! ## Cases of the handlers -/

/-- Everything an action can do. -/
inductive ActionCase (texts : TextEquality) (client : Client) : Action → Effect → Prop where
  | idle {action : Action} : ActionCase texts client action { client }
  | fetchMealPlans : ActionCase texts client .fetchMealPlans (fetchMealPlans client)
  | created {startDate endDate : Date} {mealPlanUID : String} {clock : Nat → Date}
      {mealPlan : MealPlan Ref} (uid : mealPlan.mealPlanUID = some mealPlanUID)
      (recipes : mealPlan.recipes = []) (dates : startDate.nanoseconds < endDate.nanoseconds) :
      ActionCase texts client (.selectRecipeButtonTapped startDate endDate mealPlanUID clock)
        { client := { client with
            plans := (client.plans.alloc { mealPlan }).1
            mealPlans := client.mealPlans ++ [(client.plans.alloc { mealPlan }).2]
            selection := some
              { mealPlan := some (client.plans.alloc { mealPlan }).2
                recipeSearchArray := client.savedRecipes } } }
  | searched {searchText : String} {selection : Selection} {recipeSearchArray : List Ref}
      (shown : client.selection = some selection)
      (found : recipeSearchArray ⊆ client.savedRecipes) :
      ActionCase texts client (.textDidChange searchText)
        { client := { client with selection := some { selection with recipeSearchArray } } }
  | toggled {selection : Selection} {ref : Ref} (shown : client.selection = some selection)
      (mayShow : selection.MayShow client ref) :
      ActionCase texts client (.toggleRecipeChecked ref)
        (toggleRecipeChecked texts ref client selection)
  | saved {mealPlanUID : String} {recipeUIDs : Nat → String} {selection : Selection} {ref : Ref}
      {mealPlan : MealPlan Recipe} (shown : client.selection = some selection)
      (opened : selection.mealPlan = some ref) :
      ActionCase texts client (.saveRecipesButtonTapped mealPlanUID recipeUIDs)
        { client := { client with
            plans := client.plans.modify ref fun plan =>
              plan.saved selection.checkedRecipes mealPlanUID }
          requests := [(UserController.saveMealPlan client.currentUser mealPlan mealPlanUID
            recipeUIDs, .mealPlanSaved)] }
  | deleted {row index : Nat} {ref : Ref} {mealPlanUID : String}
      (listed : client.mealPlans[row]? = some ref)
      (first : (client.mealPlans.findIdx? fun other =>
        client.planValue texts other = client.planValue texts ref) = some index) :
      ActionCase texts client (.commitDelete row)
        { client := { client with mealPlans := client.mealPlans.eraseIdx index }
          requests := [(.deleteMealPlan mealPlanUID, .mealPlanDeleted)] }

theorem actionCase_of_handle {action : Action} {client : Client} {effect : Effect}
    (handled : handle platform action client = some effect) :
    ActionCase platform.texts client action effect := by
  cases action with
  | fetchMealPlans =>
      obtain rfl := Option.some.inj handled
      exact .fetchMealPlans
  | selectRecipeButtonTapped startDate endDate mealPlanUID clock =>
      simp only [handle, selectRecipeButtonTapped] at handled
      split at handled
      · rename_i ordered
        simp only [MealPlanController.createMealPlan] at handled
        cases dates : MealPlanController.dates platform startDate endDate clock with
        | none => simp [dates] at handled
        | some all =>
            simp only [dates, List.getLast?_concat, Option.some.injEq] at handled
            subst handled
            exact .created rfl rfl ordered
      · obtain rfl := Option.some.inj handled
        exact .idle
  | textDidChange searchText =>
      obtain rfl := Option.some.inj handled
      simp only [textDidChange, onSelection]
      split
      · exact .idle
      · rename_i selection shown
        refine .searched shown ?_
        split
        · exact List.Subset.refl _
        · exact List.filter_sublist.subset
  | toggleRecipeChecked recipe =>
      obtain rfl := Option.some.inj handled
      simp only [checkBoxBlock, onSelection]
      split
      · exact .idle
      · rename_i selection shown
        split
        · rename_i mayShow
          exact .toggled shown mayShow
        · exact .idle
  | saveRecipesButtonTapped mealPlanUID recipeUIDs =>
      obtain rfl := Option.some.inj handled
      simp only [saveRecipesButtonTapped, onSelection]
      split
      · exact .idle
      · rename_i selection shown
        split
        · exact .idle
        · rename_i ref opened
          split
          · exact .idle
          · exact .saved shown opened
  | commitDelete row =>
      simp only [handle, commitDelete, deleteMealPlan] at handled
      split at handled
      · cases handled
      · rename_i ref listed
        split at handled
        · cases handled
        · split at handled
          · obtain rfl := Option.some.inj handled
            exact .idle
          · rename_i plan read _ index first
            simp only [UserController.deleteMealPlan] at handled
            cases named : plan.mealPlan.mealPlanUID with
            | none => simp [named] at handled
            | some mealPlanUID =>
                simp only [named, Option.map_some, Option.some.injEq] at handled
                subst handled
                exact .deleted listed first

/-- Everything that the block of a tap can do. -/
inductive ToggleCase (texts : TextEquality) (ref : Ref) (client : Client) (selection : Selection) :
    Effect → Prop where
  | idle : ToggleCase texts ref client selection { client }
  | checked {recipe : Recipe} (read : client.recipes.read ref = some recipe)
      (unchecked : recipe.isChecked = false) :
      ToggleCase texts ref client selection
        { client := { client with
            recipes := client.recipes.modify ref fun recipe => { recipe with isChecked := true }
            selection := some { selection with
              checkedRecipes := selection.checkedRecipes ++ [ref] } } }
  | unchecked {recipe : Recipe} {index : Nat} (read : client.recipes.read ref = some recipe)
      (checked : recipe.isChecked = true)
      (first : (selection.checkedRecipes.findIdx? fun other =>
        client.recipeValue texts other = some (recipe.compared texts)) = some index) :
      ToggleCase texts ref client selection
        { client := { client with
            recipes := client.recipes.modify ref fun recipe => { recipe with isChecked := false }
            selection := some { selection with
              checkedRecipes := selection.checkedRecipes.eraseIdx index } } }

theorem toggleCase (texts : TextEquality) (ref : Ref) (client : Client) (selection : Selection) :
    ToggleCase texts ref client selection (toggleRecipeChecked texts ref client selection) := by
  rw [toggleRecipeChecked]
  split
  · exact .idle
  · rename_i recipe read
    split
    · rename_i checked
      split
      · exact .idle
      · rename_i index first
        exact .unchecked read checked first
    · rename_i unchecked
      exact .checked read (Bool.eq_false_iff.mpr unchecked)

theorem ToggleCase.lists {texts : TextEquality} {ref : Ref} {client : Client}
    {selection : Selection} {effect : Effect}
    (toggled : ToggleCase texts ref client selection effect) :
    effect.client.plans = client.plans ∧ effect.client.mealPlans = client.mealPlans ∧
      effect.client.savedRecipes = client.savedRecipes := by
  cases toggled <;> exact ⟨rfl, rfl, rfl⟩

/-! ## What an action does to the plans -/

/-- Everything an action can do to the plans of its client. -/
inductive PlansCase (client : Client) : Action → Effect → Prop where
  | unchanged {action : Action} {effect : Effect} (plans : effect.client.plans = client.plans)
      (selected : selectedPlan effect.client = selectedPlan client)
      (writes : ∀ issued ∈ effect.requests, writtenDocument issued.1 = none) :
      PlansCase client action effect
  | created {startDate endDate : Date} {mealPlanUID : String} {clock : Nat → Date}
      {effect : Effect} {mealPlan : MealPlan Ref} (uid : mealPlan.mealPlanUID = some mealPlanUID)
      (plans : effect.client.plans = (client.plans.alloc { mealPlan }).1)
      (selected : selectedPlan effect.client = some (client.plans.alloc { mealPlan }).2)
      (writes : effect.requests = []) :
      PlansCase client (.selectRecipeButtonTapped startDate endDate mealPlanUID clock) effect
  | saved {mealPlanUID : String} {recipeUIDs : Nat → String} {effect : Effect} {ref : Ref}
      {checkedRecipes : List Ref} {mealPlan : MealPlan Recipe}
      (shown : selectedPlan client = some ref)
      (plans : effect.client.plans =
        client.plans.modify ref fun plan => plan.saved checkedRecipes mealPlanUID)
      (selected : selectedPlan effect.client = selectedPlan client)
      (writes : effect.requests = [(UserController.saveMealPlan client.currentUser mealPlan
        mealPlanUID recipeUIDs, .mealPlanSaved)]) :
      PlansCase client (.saveRecipesButtonTapped mealPlanUID recipeUIDs) effect

theorem ToggleCase.selected {texts : TextEquality} {ref : Ref} {client : Client}
    {selection : Selection} {effect : Effect}
    (toggled : ToggleCase texts ref client selection effect)
    (shown : client.selection = some selection) :
    selectedPlan effect.client = selectedPlan client ∧ effect.requests = [] := by
  cases toggled with
  | idle => exact ⟨rfl, rfl⟩
  | checked read unchecked => exact ⟨by simp [selectedPlan, shown], rfl⟩
  | unchecked read wasChecked first => exact ⟨by simp [selectedPlan, shown], rfl⟩

theorem plansCase_of_handle {action : Action} {client : Client} {effect : Effect}
    (handled : handle platform action client = some effect) : PlansCase client action effect := by
  cases actionCase_of_handle handled with
  | idle => exact .unchanged rfl rfl (by simp)
  | fetchMealPlans => exact .unchanged rfl rfl (by simp [fetchMealPlans, writtenDocument])
  | created uid recipes dates => exact .created uid rfl rfl rfl
  | searched shown found => exact .unchanged rfl (by simp [selectedPlan, shown]) (by simp)
  | @toggled selection ref shown mayShow =>
      have toggled := toggleCase platform.texts ref client selection
      obtain ⟨selected, requests⟩ := toggled.selected shown
      exact .unchanged toggled.lists.1 selected (by simp [requests])
  | @saved mealPlanUID recipeUIDs selection ref mealPlan shown opened =>
      have selected : selectedPlan client = some ref := by
        rw [selectedPlan, shown, Option.bind_some, opened]
      exact .saved selected rfl rfl rfl
  | deleted listed first => exact .unchanged rfl rfl (by simp [writtenDocument])

/-! ## Fetched plans -/

/-- A snapshot is decoded to the plans of its documents, in their order. -/
theorem decodeMealPlans_eq_some_iff {snapshot : Snapshot} {plans : List UserController.Fetched} :
    UserController.decodeMealPlans snapshot = some (some plans) ↔
      List.Forall₂ (fun entry fetched => entry.1 = fetched.documentID ∧
        MealPlan.ofDocument entry.2 = some (some fetched.mealPlan)) snapshot plans := by
  induction snapshot generalizing plans with
  | nil => simp [UserController.decodeMealPlans, eq_comm]
  | cons first rest ih =>
      rw [UserController.decodeMealPlans, List.forall₂_cons_left_iff]
      constructor
      · intro decoded
        split at decoded
        · cases decoded
        · cases decoded
        · rename_i mealPlan read
          obtain ⟨others, restDecoded, joined⟩ := Option.map_eq_some_iff.mp decoded
          obtain ⟨tail, rfl, rfl⟩ := Option.map_eq_some_iff.mp joined
          exact ⟨_, tail, ⟨rfl, read⟩, ih.mp restDecoded, rfl⟩
      · rintro ⟨⟨_, mealPlan⟩, tail, ⟨rfl, read⟩, restDecoded, rfl⟩
        rw [read, ih.mpr restDecoded]
        rfl

theorem mem_decodeMealPlans {snapshot : Snapshot} {plans : List UserController.Fetched}
    (decoded : UserController.decodeMealPlans snapshot = some (some plans))
    {fetched : UserController.Fetched} (member : fetched ∈ plans) :
    ∃ document, (fetched.documentID, document) ∈ snapshot ∧
      MealPlan.ofDocument document = some (some fetched.mealPlan) := by
  obtain ⟨sameLength, related⟩ := List.forall₂_iff_get.mp (decodeMealPlans_eq_some_iff.mp decoded)
  obtain ⟨index, inRange, rfl⟩ := List.mem_iff_getElem.mp member
  have inSnapshot : index < snapshot.length := sameLength ▸ inRange
  obtain ⟨sameID, read⟩ := related index inSnapshot inRange
  refine ⟨snapshot[index].2, ?_, read⟩
  rw [show plans[index].documentID = snapshot[index].1 from sameID.symm]
  exact List.getElem_mem inSnapshot

theorem decodeMealPlans_mem {snapshot : Snapshot} {plans : List UserController.Fetched}
    (decoded : UserController.decodeMealPlans snapshot = some (some plans))
    {entry : String × Document} (listed : entry ∈ snapshot) :
    ∃ mealPlan, MealPlan.ofDocument entry.2 = some (some mealPlan) ∧
      ⟨entry.1, mealPlan⟩ ∈ plans := by
  obtain ⟨sameLength, related⟩ := List.forall₂_iff_get.mp (decodeMealPlans_eq_some_iff.mp decoded)
  obtain ⟨index, inRange, rfl⟩ := List.mem_iff_getElem.mp listed
  have inPlans : index < plans.length := sameLength ▸ inRange
  obtain ⟨sameID, read⟩ := related index inRange inPlans
  refine ⟨plans[index].mealPlan, read, ?_⟩
  rw [show snapshot[index].1 = plans[index].documentID from sameID]
  exact List.getElem_mem inPlans

/-- A snapshot whose documents are all plans is decoded as a whole. -/
theorem exists_decodeMealPlans {snapshot : Snapshot}
    (decoded : ∀ entry ∈ snapshot, ∃ mealPlan,
      MealPlan.ofDocument entry.2 = some (some mealPlan)) :
    ∃ plans, UserController.decodeMealPlans snapshot = some (some plans) := by
  simp only [decodeMealPlans_eq_some_iff]
  induction snapshot with
  | nil => exact ⟨[], .nil⟩
  | cons first rest ih =>
      obtain ⟨⟨mealPlan, read⟩, restDecoded⟩ := List.forall_mem_cons.mp decoded
      obtain ⟨plans, related⟩ := ih restDecoded
      exact ⟨⟨first.1, mealPlan⟩ :: plans, .cons ⟨rfl, read⟩ related⟩

/-- A fetch delivers the plans of the user where all documents are plans. -/
theorem fetchMealPlans_eq_ok_iff {currentUser : Option User} {snapshot : Snapshot}
    {plans : List UserController.Fetched} :
    UserController.fetchMealPlans currentUser (.documents snapshot) = some (.ok plans) ↔
      ∃ all, UserController.decodeMealPlans snapshot = some (some all) ∧
        UserController.ownMealPlans currentUser all = plans := by
  rw [UserController.fetchMealPlans]
  rcases UserController.decodeMealPlans snapshot with _ | _ | all <;> simp

theorem mem_fetchMealPlans {currentUser : Option User} {snapshot : Snapshot}
    {plans : List UserController.Fetched}
    (delivered : UserController.fetchMealPlans currentUser (.documents snapshot) =
      some (.ok plans))
    {fetched : UserController.Fetched} (member : fetched ∈ plans) :
    ∃ document, (fetched.documentID, document) ∈ snapshot ∧
      MealPlan.ofDocument document = some (some fetched.mealPlan) := by
  obtain ⟨all, decoded, rfl⟩ := fetchMealPlans_eq_ok_iff.mp delivered
  exact mem_decodeMealPlans decoded (List.mem_of_mem_filter member)

/-- The object of a fetched plan. -/
structure IsObjectOf (plan : Plan) (fetched : UserController.Fetched) : Prop where
  isFetched : plan.isFetched = true
  documentIDs : plan.documentIDs = [fetched.documentID]
  uid : plan.mealPlan.mealPlanUID = fetched.mealPlan.mealPlanUID

/-- The plans in memory after the objects of fetched plans are made. -/
theorem read_allocPlans {client : Client} {fetched : List UserController.Fetched} {ref : Ref}
    {plan : Plan} (read : (client.allocPlans fetched).1.plans.read ref = some plan) :
    client.plans.read ref = some plan ∨ ∃ first ∈ fetched, IsObjectOf plan first := by
  induction fetched generalizing client with
  | nil => exact .inl read
  | cons first rest ih =>
      rcases ih read with early | ⟨other, member, object⟩
      · refine (Heap.of_read_alloc early).imp_right ?_
        rintro ⟨-, rfl⟩
        exact ⟨first, List.mem_cons_self, rfl, rfl, rfl⟩
      · exact .inr ⟨other, List.mem_cons_of_mem _ member, object⟩

theorem allocPlans_eq (client : Client) (fetched : List UserController.Fetched) :
    ∃ recipes plans, (client.allocPlans fetched).1 = { client with recipes, plans } ∧
      client.recipes.Extends recipes ∧ client.plans.Extends plans := by
  induction fetched generalizing client with
  | nil => exact ⟨client.recipes, client.plans, rfl, .refl _, .refl _⟩
  | cons first rest ih =>
      obtain ⟨recipes, plans, same, recipesGrow, plansGrow⟩ := ih (client.allocPlan first).1
      exact ⟨recipes, plans, same, (Heap.extends_allocAll _ _).trans recipesGrow,
        (Heap.extends_alloc _ _).trans plansGrow⟩

theorem read_allocPlans_of_read {client : Client} (fetched : List UserController.Fetched)
    {ref : Ref} {plan : Plan} (read : client.plans.read ref = some plan) :
    (client.allocPlans fetched).1.plans.read ref = some plan := by
  obtain ⟨recipes, plans, same, -, plansGrow⟩ := allocPlans_eq client fetched
  rw [same]
  exact plansGrow ref plan read

/-! ## Cases of the callbacks -/

/-- Everything a callback can do. -/
inductive LoadedCase (reply : Reply) (client : Client) : Effect → Prop where
  | idle : LoadedCase reply client { client }
  | loaded {snapshot : Snapshot} {fetched : List UserController.Fetched}
      (answered : reply = .documents snapshot)
      (delivered : UserController.fetchMealPlans client.currentUser (.documents snapshot) =
        some (.ok fetched)) :
      LoadedCase reply client
        { client := { (client.allocPlans fetched).1 with
            mealPlans := (client.allocPlans fetched).2 } }

/-- A callback is one of the cases, and only that of a fetch loads plans. -/
theorem loadedCase_of_resume {continuation : Continuation} {reply : Reply} {client : Client}
    {effect : Effect} (resumed : resume continuation reply client = some effect) :
    LoadedCase reply client effect ∧
      (continuation ≠ .mealPlansLoaded → effect = { client }) := by
  cases continuation with
  | mealPlansLoaded =>
      refine ⟨?_, fun other => absurd rfl other⟩
      simp only [resume, mealPlansLoaded] at resumed
      split at resumed
      · cases resumed
      · obtain rfl := Option.some.inj resumed
        exact .idle
      · rename_i fetched delivered
        obtain rfl := Option.some.inj resumed
        cases reply with
        | documents snapshot => exact .loaded rfl delivered
        | _ => cases delivered
  | _ =>
      obtain rfl := Option.some.inj resumed
      exact ⟨.idle, fun _ => rfl⟩

/-- Everything a callback can do to the plans of its client. -/
inductive LoadCase (reply : Reply) (client : Client) : Effect → Prop where
  | unchanged {effect : Effect} (plans : effect.client.plans = client.plans)
      (selected : selectedPlan effect.client = selectedPlan client)
      (writes : effect.requests = []) : LoadCase reply client effect
  | loaded {snapshot : Snapshot} {fetched : List UserController.Fetched} {effect : Effect}
      (answered : reply = .documents snapshot)
      (delivered : UserController.fetchMealPlans client.currentUser (.documents snapshot) =
        some (.ok fetched))
      (plans : effect.client.plans = (client.allocPlans fetched).1.plans)
      (selected : selectedPlan effect.client = selectedPlan client)
      (writes : effect.requests = []) : LoadCase reply client effect

theorem loadCase_of_resume {continuation : Continuation} {reply : Reply} {client : Client}
    {effect : Effect} (resumed : resume continuation reply client = some effect) :
    LoadCase reply client effect := by
  cases (loadedCase_of_resume resumed).1 with
  | idle => exact .unchanged rfl rfl rfl
  | @loaded snapshot fetched answered delivered =>
      obtain ⟨recipes, plans, same, -⟩ := allocPlans_eq client fetched
      exact .loaded answered delivered rfl (by rw [same]; rfl) rfl

end MyMealPrep.MealPlans
