import MyMealPrep.Machines.SingleValues
import MyMealPrep.MealPlans.Origins
import MyMealPrep.ShoppingLists.Contents

/-!
# What a plan shows and what its document says

A plan in memory is an object whose recipes are objects of the book or of a fetch. Its
document holds copies of them, made when the plan was saved. The objects are shared with
the book, with other plans and with the cells of the screens, which change their check
marks and dates, and the document is changed by nobody.

So the plan and its last document agree on everything else in every run: on the name and the
dates of the plan, and on the recipes in their order (`shown_plan_agrees`). In
particular the shopping list of the detail screen is that of the document, wherever and
whenever the plan is fetched.
-/

set_option autoImplicit false

namespace MyMealPrep.MealPlans

open Firestore (Collection Document Snapshot Value)
open RequestReply (OrOutside Program Store)
open ShoppingLists (addMealPlanRecipesIngredients)

namespace UserSwitches

variable {platform : Platform}

/-! ## The detail screen -/

/-- A plan with its recipes, as the detail screen shows it. -/
def planShown (client : Client) (mealPlan : MealPlan Ref) : MealPlan Recipe :=
  mealPlan.withRecipes (mealPlan.recipes.filterMap client.recipes.read)

/-- `seeShoppingListButtonTapped` of the detail screen of a plan. -/
def seeShoppingListButtonTapped {Data : Type} (coding : Coding Data (List ShoppingList))
    (mealPlan : Option Ref) (client : Client) (state : ShoppingLists.State Data) :
    ShoppingLists.State Data :=
  match mealPlan.bind client.plans.read with
  | none => state
  | some plan => addMealPlanRecipesIngredients coding (planShown client plan.mealPlan) state

/-- What a plan shares with its copies: its name, its dates, and its recipes but for their check
marks and dates. -/
def outline (mealPlan : MealPlan Recipe) : MealPlan Recipe :=
  { mealPlan with
    recipes := mealPlan.recipes.map unmarked
    authorID := none
    mealPlanUID := none }

/-! ## Fresh documents -/

/-- The ID that the save button makes for a document. -/
def documentUUID : Label → Option String
  | .act _ (.own (.saveRecipesButtonTapped mealPlanUID _)) => some mealPlanUID
  | _ => none

/-- The ID that the save button makes is that of no document. -/
def FreshDocuments (platform : Platform) (mealPlanContainer : Collection) (trace : Trace)
    (_ : State) (label : Label) : Prop :=
  ∀ id ∈ documentUUID label,
    ¬ (sessionStore platform).Known (oldIDs mealPlanContainer) trace id

instance (mealPlanContainer : Collection) (trace : Trace) (s : State) (label : Label) :
    Decidable (FreshDocuments platform mealPlanContainer trace s label) :=
  inferInstanceAs (Decidable (∀ id ∈ documentUUID label,
    ¬ (mealPlanContainer[id]?.isSome = true ∨
      ∃ entry ∈ trace, id ∈ (sessionStore platform).issuedKeys entry.2.requests)))

/-- The app has just been opened, over any container: nothing is in flight, and no plan is in
memory or on a screen. -/
structure JustOpened (s₀ : State) : Prop where
  idle : s₀.tasks = []
  empty : ∀ client, (s₀.clients client).plans = {}
  closed : ∀ client, (s₀.clients client).selection = none

/-! ## Outlines -/

/-- A document says of a plan what the plan shows. -/
def Describes (document : Document) (client : Client) (mealPlan : MealPlan Ref) : Prop :=
  ∃ written, MealPlan.ofDocument document = some (some written) ∧
    outline written = outline (planShown client mealPlan)

/-- The recipes of a client stay, but for their check marks and dates. -/
def KeepsRecipes (client next : Client) : Prop :=
  ∀ ref recipe, client.recipes.read ref = some recipe →
    (next.recipes.read ref).map unmarked = some (unmarked recipe)

section

variable {client next : Client} {mealPlan : MealPlan Ref}

theorem keepsRecipes_of_extends (grows : client.recipes.Extends next.recipes) :
    KeepsRecipes client next := by
  intro ref recipe read
  rw [grows ref recipe read]
  rfl

theorem keepsRecipes_of_eq (same : next.recipes = client.recipes) : KeepsRecipes client next :=
  keepsRecipes_of_extends (same ▸ .refl _)

theorem keepsRecipes_of_unmarked (same : ∀ ref,
    (next.recipes.read ref).map unmarked = (client.recipes.read ref).map unmarked) :
    KeepsRecipes client next := by
  intro ref recipe read
  rw [same, read]
  rfl

theorem unmarked_modify (recipes : Heap Recipe) (ref other : Ref) {change : Recipe → Recipe}
    (same : ∀ recipe, unmarked (change recipe) = unmarked recipe) :
    ((recipes.modify ref change).read other).map unmarked = (recipes.read other).map unmarked := by
  rw [Heap.read_modify]
  split
  · rw [Option.map_map]
    exact congrArg (fun f => (recipes.read other).map f) (funext same)
  · rfl

theorem KeepsRecipes.isSome_read (keeps : KeepsRecipes client next) {ref : Ref}
    (readable : (client.recipes.read ref).isSome = true) :
    (next.recipes.read ref).isSome = true := by
  obtain ⟨recipe, read⟩ := Option.isSome_iff_exists.mp readable
  have kept := keeps ref recipe read
  cases found : next.recipes.read ref with
  | none =>
      rw [found] at kept
      cases kept
  | some _ => rfl

theorem outline_planShown (same : ∀ ref ∈ mealPlan.recipes,
    (next.recipes.read ref).map unmarked = (client.recipes.read ref).map unmarked) :
    outline (planShown next mealPlan) = outline (planShown client mealPlan) := by
  have recipes : (mealPlan.recipes.filterMap next.recipes.read).map unmarked =
      (mealPlan.recipes.filterMap client.recipes.read).map unmarked := by
    rw [List.map_filterMap, List.map_filterMap]
    exact List.filterMap_congr same
  simp only [outline, planShown, MealPlan.withRecipes, recipes]

/-- A plan whose recipes are in memory keeps its outline with them. -/
theorem KeepsRecipes.outline_planShown (keeps : KeepsRecipes client next)
    (readable : ∀ recipe ∈ mealPlan.recipes, (client.recipes.read recipe).isSome = true) :
    outline (planShown next mealPlan) = outline (planShown client mealPlan) := by
  refine UserSwitches.outline_planShown fun ref member => ?_
  obtain ⟨recipe, read⟩ := Option.isSome_iff_exists.mp (readable ref member)
  rw [keeps ref recipe read, read]
  rfl

/-- A plan and the plan that is read back have the same outline. -/
theorem outline_written (mealPlan : MealPlan Recipe) (mealPlanUID : String)
    (authorID : Option String) (recipeUIDs : Nat → String) :
    outline (mealPlan.written mealPlanUID authorID recipeUIDs) = outline mealPlan := by
  have recipes : (mealPlan.recipes.zipIdx.map fun recipe =>
      recipe.1.written (recipeUIDs recipe.2) authorID).map unmarked =
        mealPlan.recipes.map unmarked := by
    rw [List.map_map, ← List.zipIdx_map_fst 0 mealPlan.recipes, List.map_map,
      List.zipIdx_map_fst]
    rfl
  simp only [outline, MealPlan.written, recipes]

/-- Plans with one outline make the same shopping list. -/
theorem shopping_of_outline {Data : Type} {coding : Coding Data (List ShoppingList)}
    {first second : MealPlan Recipe} (same : outline first = outline second)
    (state : ShoppingLists.State Data) :
    addMealPlanRecipesIngredients coding first state =
      addMealPlanRecipesIngredients coding second state := by
  have ingredients : ∀ mealPlan : MealPlan Recipe, mealPlan.recipes.flatMap Recipe.ingredients =
      (outline mealPlan).recipes.flatMap Recipe.ingredients := by
    intro mealPlan
    rw [outline, List.flatMap_map]
    rfl
  rw [ShoppingLists.addMealPlanRecipesIngredients_eq,
    ShoppingLists.addMealPlanRecipesIngredients_eq, ingredients, same, ← ingredients]

end

/-! ## What a client remembers -/

/-- The recipes of a plan are in memory, and its last document, wherever it occurs, says what
the plan shows. -/
structure PlanRemembered (platform : Platform) (mealPlanContainer : Collection) (trace : Trace)
    (s : State) (client : Client) (plan : Plan) : Prop where
  readable : ∀ recipe ∈ plan.mealPlan.recipes, (client.recipes.read recipe).isSome = true
  known : ∀ id ∈ plan.documentIDs.getLast?,
    (sessionStore platform).Known (oldIDs mealPlanContainer) trace id
  described : ∀ id ∈ plan.documentIDs.getLast?, ∀ document,
    (sessionStore platform).Occurs s id document → Describes document client plan.mealPlan

/-- The recipes checked on a selection screen are in memory, and the plans are remembered. -/
structure Remembers (platform : Platform) (mealPlanContainer : Collection) (trace : Trace)
    (s : State) (client : Client) : Prop where
  checked : ∀ selection ∈ client.selection, ∀ ref ∈ selection.checkedRecipes,
    (client.recipes.read ref).isSome = true
  plans : ∀ ref plan, client.plans.read ref = some plan →
    PlanRemembered platform mealPlanContainer trace s client plan

/-- A document has one value, and the clients remember their plans. -/
structure Remembered (platform : Platform) (mealPlanContainer : Collection) (trace : Trace)
    (s : State) : Prop where
  documents : (sessionStore platform).Kept (oldIDs mealPlanContainer) (fun _ _ => True) trace s
  single : (sessionStore platform).Single s
  clients : ∀ client, Remembers platform mealPlanContainer trace s (s.clients client)

/-! ## Handlers and callbacks -/

/-- The save button does nothing, or writes what the plan then shows. -/
theorem saveRecipesButtonTapped_cases (mealPlanUID : String) (recipeUIDs : Nat → String)
    (client : Client) :
    saveRecipesButtonTapped mealPlanUID recipeUIDs client = { client } ∨
    ∃ selection ref, client.selection = some selection ∧ selection.mealPlan = some ref ∧
      ∃ plan, client.plans.read ref = some plan ∧
        saveRecipesButtonTapped mealPlanUID recipeUIDs client =
          { client := { client with
              plans := client.plans.modify ref fun plan =>
                plan.saved selection.checkedRecipes mealPlanUID }
            requests := [(UserController.saveMealPlan client.currentUser
              (planShown client (plan.saved selection.checkedRecipes mealPlanUID).mealPlan)
              mealPlanUID recipeUIDs, .mealPlanSaved)] } := by
  simp only [saveRecipesButtonTapped, onSelection]
  split
  · exact .inl rfl
  · rename_i selection shown
    split
    · exact .inl rfl
    · rename_i ref opened
      split
      · exact .inl rfl
      · rename_i plan read
        exact .inr ⟨selection, ref, shown, opened, plan, read, rfl⟩

theorem unmarked_toggle {texts : TextEquality} {ref : Ref} {client : Client}
    {selection : Selection} {effect : Effect}
    (toggled : ToggleCase texts ref client selection effect) (other : Ref) :
    (effect.client.recipes.read other).map unmarked =
      (client.recipes.read other).map unmarked := by
  cases toggled with
  | idle => rfl
  | checked read unchecked => exact unmarked_modify _ _ _ fun _ => rfl
  | unchecked read wasChecked first => exact unmarked_modify _ _ _ fun _ => rfl

theorem readable_of_toggle {texts : TextEquality} {ref : Ref} {client : Client}
    {selection after : Selection} {effect : Effect}
    (toggled : ToggleCase texts ref client selection effect)
    (shown : client.selection = some selection)
    (checked : ∀ ref ∈ selection.checkedRecipes, (client.recipes.read ref).isSome = true)
    (shownAfter : effect.client.selection = some after) :
    ∀ ref ∈ after.checkedRecipes, (client.recipes.read ref).isSome = true := by
  cases toggled with
  | idle =>
      obtain rfl := Option.some.inj (shown.symm.trans shownAfter)
      exact checked
  | checked read unchecked =>
      obtain rfl := Option.some.inj shownAfter
      intro other member
      rcases List.mem_append.mp member with before | new
      · exact checked other before
      · rw [List.mem_singleton.mp new, read]
        rfl
  | unchecked read wasChecked first =>
      obtain rfl := Option.some.inj shownAfter
      exact fun other member => checked other (List.eraseIdx_subset member)

/-- The objects of fetched plans show what was fetched. -/
theorem planShown_allocPlans {client : Client} {fetched : List UserController.Fetched} {ref : Ref}
    {plan : Plan} (read : (client.allocPlans fetched).1.plans.read ref = some plan) :
    client.plans.read ref = some plan ∨ ∃ first ∈ fetched, plan.documentIDs = [first.documentID] ∧
      (∀ recipe ∈ plan.mealPlan.recipes,
        ((client.allocPlans fetched).1.recipes.read recipe).isSome = true) ∧
      planShown (client.allocPlans fetched).1 plan.mealPlan = first.mealPlan := by
  induction fetched generalizing client with
  | nil => exact .inl read
  | cons first rest ih =>
      rcases ih read with early | ⟨other, member, same⟩
      · refine (Heap.of_read_alloc early).imp_right ?_
        rintro ⟨-, rfl⟩
        obtain ⟨recipes, plans, same, recipesGrow, -⟩ :=
          allocPlans_eq (client.allocPlan first).1 rest
        replace recipesGrow : (client.allocPlan first).1.recipes.Extends
            ((client.allocPlan first).1.allocPlans rest).1.recipes := by
          rw [same]
          exact recipesGrow
        refine ⟨first, List.mem_cons_self, rfl, fun recipe member => ?_, ?_⟩
        · exact recipesGrow.isSome_read (Heap.isSome_read_allocAll member)
        · have objects := congrArg (List.filterMap id) recipesGrow.map_read_allocAll
          rw [List.filterMap_map, List.filterMap_map] at objects
          exact congrArg first.mealPlan.withRecipes (objects.trans List.filterMap_some)
      · exact .inr ⟨other, List.mem_cons_of_mem _ member, same⟩

/-! ## Steps -/

section

variable {mealPlanContainer : Collection} {trace : Trace} {s s' : State} {label : Label}
  {output : Output} {client next : Client} {plan : Plan}

/-- Only the save button writes, and under the ID that it makes. -/
theorem documentUUID_of_writes (stepped : (sessions platform).StepCase s label output s')
    {issued : Request × Continuation} (requested : issued ∈ output.requests) {id : String}
    {document : Document} (written : writtenDocument issued.1 = some (id, document)) :
    documentUUID label = some id ∧ output.requests = [issued] := by
  obtain ⟨made, alone, -⟩ := writes_of_sessions stepped requested written
  refine ⟨?_, alone⟩
  cases stepped with
  | @act actor action effect handled =>
      cases action with
      | outside change => cases made
      | own action =>
          have acted : handle platform action (s.clients actor) = some effect := handled
          cases plansCase_of_handle acted with
          | unchanged plans selected writes =>
              rw [writes issued requested] at written
              cases written
          | created uid plans selected writes =>
              rw [show effect.requests = [] from writes] at requested
              cases requested
          | saved shown plans selected writes => exact made
  | serve inFlight waiting => cases requested
  | deliver inFlight answered resumed => cases made

theorem freshlyIssued_documents
    (permitted : FreshDocuments platform mealPlanContainer trace s label)
    (stepped : (sessions platform).StepCase s label output s') :
    (sessionStore platform).FreshlyIssued (oldIDs mealPlanContainer) trace output.requests := by
  refine .of_alone fun issued requested id document written => ?_
  obtain ⟨made, alone⟩ := documentUUID_of_writes stepped requested written
  exact ⟨alone, permitted id made⟩

theorem PlanRemembered.step
    (remembered : PlanRemembered platform mealPlanContainer trace s client plan)
    (permitted : FreshDocuments platform mealPlanContainer trace s label)
    (stepped : (sessions platform).StepCase s label output s')
    (keeps : KeepsRecipes client next) :
    PlanRemembered platform mealPlanContainer ((label, output) :: trace) s' next plan where
  readable recipe member := keeps.isSome_read (remembered.readable recipe member)
  known id last := (remembered.known id last).step _
  described id last := by
    refine Store.only_step (fun document occurs => ?_) (remembered.known id last)
      (freshlyIssued_documents permitted stepped) stepped
    obtain ⟨written, read, same⟩ := remembered.described id last document occurs
    exact ⟨written, read, same.trans (keeps.outline_planShown remembered.readable).symm⟩

theorem Remembers.step (remembers : Remembers platform mealPlanContainer trace s client)
    (permitted : FreshDocuments platform mealPlanContainer trace s label)
    (stepped : (sessions platform).StepCase s label output s')
    (plans : next.plans = client.plans) (keeps : KeepsRecipes client next)
    (checked : ∀ selection ∈ next.selection, ∀ ref ∈ selection.checkedRecipes,
      (next.recipes.read ref).isSome = true) :
    Remembers platform mealPlanContainer ((label, output) :: trace) s' next where
  checked := checked
  plans ref plan read := by
    rw [plans] at read
    exact (remembers.plans ref plan read).step permitted stepped keeps

theorem Remembers.selection_kept (remembers : Remembers platform mealPlanContainer trace s client)
    (keeps : KeepsRecipes client next) (selection : next.selection = client.selection) :
    ∀ selection ∈ next.selection, ∀ ref ∈ selection.checkedRecipes,
      (next.recipes.read ref).isSome = true := by
  intro other opened ref member
  exact keeps.isSome_read (remembers.checked other (selection ▸ opened) ref member)

/-- The plan that is saved is remembered with its new document. -/
theorem planRemembered_saved {actor : Nat} {recipeUIDs : Nat → String} {mealPlanUID : String}
    {checkedRecipes : List Ref}
    (kept : Remembered platform mealPlanContainer trace s)
    (permitted : FreshDocuments platform mealPlanContainer trace s
      (.act actor (.own (.saveRecipesButtonTapped mealPlanUID recipeUIDs))))
    (stepped : (sessions platform).StepCase s
      (.act actor (.own (.saveRecipesButtonTapped mealPlanUID recipeUIDs))) output s')
    (readable : ∀ recipe ∈ checkedRecipes, (client.recipes.read recipe).isSome = true)
    (recipes : next.recipes = client.recipes)
    (requests : output.requests = [(UserController.saveMealPlan client.currentUser
      (planShown client (plan.saved checkedRecipes mealPlanUID).mealPlan) mealPlanUID recipeUIDs,
      .mealPlanSaved)]) :
    PlanRemembered platform mealPlanContainer
      ((.act actor (.own (.saveRecipesButtonTapped mealPlanUID recipeUIDs)), output) :: trace) s'
      next (plan.saved checkedRecipes mealPlanUID) where
  readable recipe member := by
    rw [recipes]
    exact readable recipe member
  known id last := by
    rw [Plan.saved, List.getLast?_concat] at last
    obtain rfl := Option.some.inj last
    refine Store.known_of_issued ?_
    rw [requests]
    exact Store.mem_issuedKeys (List.mem_singleton_self _) rfl
  described id last document occurs := by
    rw [Plan.saved, List.getLast?_concat] at last
    obtain rfl := Option.some.inj last
    rcases Store.occurs_of_step stepped occurs with before | ⟨issued, requested, written⟩
    · exact absurd (kept.documents.known_of_occurs before) (permitted mealPlanUID rfl)
    · rw [requests] at requested
      obtain rfl := List.mem_singleton.mp requested
      obtain ⟨-, rfl⟩ := Prod.mk.inj (Option.some.inj written)
      refine ⟨_, MealPlan.ofDocument_dictionary _ _ _ _, ?_⟩
      rw [outline_written]
      simp only [planShown, recipes]

theorem Remembered.save {actor : Nat} {recipeUIDs : Nat → String} {mealPlanUID : String}
    (kept : Remembered platform mealPlanContainer trace s)
    (permitted : FreshDocuments platform mealPlanContainer trace s
      (.act actor (.own (.saveRecipesButtonTapped mealPlanUID recipeUIDs))))
    (stepped : (sessions platform).StepCase s
      (.act actor (.own (.saveRecipesButtonTapped mealPlanUID recipeUIDs))) output s')
    (requests : output.requests =
      (saveRecipesButtonTapped mealPlanUID recipeUIDs (s.clients actor)).requests) :
    Remembers platform mealPlanContainer
      ((.act actor (.own (.saveRecipesButtonTapped mealPlanUID recipeUIDs)), output) :: trace) s'
      (saveRecipesButtonTapped mealPlanUID recipeUIDs (s.clients actor)).client := by
  have remembers := kept.clients actor
  rcases saveRecipesButtonTapped_cases mealPlanUID recipeUIDs (s.clients actor) with
    idle | ⟨selection, ref, shown, -, plan, read, saved⟩
  · rw [idle]
    exact remembers.step permitted stepped rfl (keepsRecipes_of_eq rfl) remembers.checked
  · rw [saved] at requests ⊢
    refine ⟨remembers.checked, fun other found otherRead => ?_⟩
    rw [Heap.read_modify] at otherRead
    split at otherRead
    · rename_i same
      subst same
      rw [read] at otherRead
      obtain rfl := Option.some.inj otherRead
      exact planRemembered_saved kept permitted stepped (remembers.checked selection shown) rfl
        requests
    · exact (remembers.plans other found otherRead).step permitted stepped (keepsRecipes_of_eq rfl)

theorem Remembered.handle {actor : Nat} {action : Action} {effect : Effect}
    (kept : Remembered platform mealPlanContainer trace s)
    (permitted : FreshDocuments platform mealPlanContainer trace s (.act actor (.own action)))
    (stepped : (sessions platform).StepCase s (.act actor (.own action)) output s')
    (handled : handle platform action (s.clients actor) = some effect)
    (requests : output.requests = effect.requests) :
    Remembers platform mealPlanContainer ((.act actor (.own action), output) :: trace) s'
      effect.client := by
  have remembers := kept.clients actor
  have same : KeepsRecipes (s.clients actor) (s.clients actor) := keepsRecipes_of_eq rfl
  cases actionCase_of_handle handled with
  | idle => exact remembers.step permitted stepped rfl same remembers.checked
  | fetchMealPlans => exact remembers.step permitted stepped rfl same remembers.checked
  | created uid recipes dates =>
      refine ⟨?_, fun other found read => ?_⟩
      · rintro _ ⟨⟩ ref member
        cases member
      · rcases Heap.of_read_alloc read with old | ⟨-, rfl⟩
        · exact (remembers.plans other found old).step permitted stepped (keepsRecipes_of_eq rfl)
        · exact ⟨by simp [recipes], by simp, by simp⟩
  | @searched searchText selection recipeSearchArray shown found =>
      refine remembers.step permitted stepped rfl same ?_
      rintro _ ⟨⟩
      exact remembers.checked selection shown
  | @toggled selection ref shown mayShow =>
      have toggled := toggleCase platform.texts ref (s.clients actor) selection
      have keeps := keepsRecipes_of_unmarked (unmarked_toggle toggled)
      refine remembers.step permitted stepped toggled.lists.1 keeps fun after shownAfter => ?_
      have readable :=
        readable_of_toggle toggled shown (remembers.checked selection shown) shownAfter
      exact fun other member => keeps.isSome_read (readable other member)
  | saved shown opened =>
      rw [← Option.some.inj handled] at requests ⊢
      exact kept.save permitted stepped requests
  | deleted listed first => exact remembers.step permitted stepped rfl same remembers.checked

theorem Remembered.change {actor : Nat} {outside : Change}
    (kept : Remembered platform mealPlanContainer trace s)
    (permitted : FreshDocuments platform mealPlanContainer trace s (.act actor (.outside outside)))
    (stepped : (sessions platform).StepCase s (.act actor (.outside outside)) output s') :
    Remembers platform mealPlanContainer ((.act actor (.outside outside), output) :: trace) s'
      (UserSwitches.change outside (s.clients actor)) := by
  have remembers := kept.clients actor
  cases outside with
  | signIn user =>
      exact remembers.step permitted stepped rfl (keepsRecipes_of_eq rfl) remembers.checked
  | bookChanged savedRecipes =>
      exact remembers.step permitted stepped rfl (keepsRecipes_of_eq rfl) remembers.checked
  | recipesFound recipes =>
      have keeps : KeepsRecipes (s.clients actor)
          (UserSwitches.change (.recipesFound recipes) (s.clients actor)) :=
        keepsRecipes_of_extends (Heap.extends_allocAll _ _)
      exact remembers.step permitted stepped rfl keeps (remembers.selection_kept keeps rfl)
  | datePicked recipe date =>
      have keeps : KeepsRecipes (s.clients actor)
          (UserSwitches.change (.datePicked recipe date) (s.clients actor)) :=
        keepsRecipes_of_unmarked fun other => unmarked_modify _ _ _ fun _ => rfl
      exact remembers.step permitted stepped rfl keeps (remembers.selection_kept keeps rfl)

theorem Remembered.resume {index : Nat} {task : Task} {reply : Reply} {effect : Effect}
    (kept : Remembered platform mealPlanContainer trace s)
    (permitted : FreshDocuments platform mealPlanContainer trace s (.deliver index ()))
    (stepped : (sessions platform).StepCase s (.deliver index ()) output s')
    (inFlight : s.tasks[index]? = some task) (answered : task.reply = some reply)
    (resumed : resume task.continuation reply (s.clients task.client) = some effect) :
    Remembers platform mealPlanContainer ((.deliver index (), output) :: trace) s'
      effect.client := by
  have remembers := kept.clients task.client
  cases (loadedCase_of_resume resumed).1 with
  | idle => exact remembers.step permitted stepped rfl (keepsRecipes_of_eq rfl) remembers.checked
  | @loaded snapshot fetched replied delivered =>
      subst replied
      obtain ⟨recipes, plans, same, recipesGrow, -⟩ :=
        allocPlans_eq (s.clients task.client) fetched
      have keeps : KeepsRecipes (s.clients task.client)
          { ((s.clients task.client).allocPlans fetched).1 with
            mealPlans := ((s.clients task.client).allocPlans fetched).2 } := by
        refine keepsRecipes_of_extends ?_
        rw [same]
        exact recipesGrow
      refine ⟨remembers.selection_kept keeps (by rw [same]), fun ref plan read => ?_⟩
      rcases planShown_allocPlans read with old | ⟨first, member, ids, readable, shown⟩
      · exact (remembers.plans ref plan old).step permitted stepped keeps
      · obtain ⟨document, listed, decoded⟩ := mem_fetchMealPlans delivered member
        have occurs : (sessionStore platform).Occurs s first.documentID document :=
          .inr (.inr ⟨task, List.mem_of_getElem? inFlight, _, answered, listed⟩)
        have only : ∀ other, (sessionStore platform).Occurs s first.documentID other →
            other = document := fun other otherOccurs =>
          kept.single _ other document otherOccurs occurs
        have known := kept.documents.known_of_occurs occurs
        refine ⟨readable, fun id last => ?_, fun id last => ?_⟩
        · rw [ids] at last
          obtain rfl := Option.some.inj last
          exact known.step _
        · rw [ids] at last
          obtain rfl := Option.some.inj last
          intro other otherOccurs
          obtain rfl := Store.only_step only known (freshlyIssued_documents permitted stepped)
            stepped other otherOccurs
          exact ⟨_, decoded, congrArg outline shown.symm⟩

/-- **One step whose documents are fresh keeps what the clients remember.** -/
theorem Remembered.step (kept : Remembered platform mealPlanContainer trace s)
    (permitted : FreshDocuments platform mealPlanContainer trace s label)
    (stepped : (sessions platform).StepCase s label output s') :
    Remembered platform mealPlanContainer ((label, output) :: trace) s' where
  documents := kept.documents.step (freshlyIssued_documents permitted stepped)
    (fun _ _ _ _ _ => trivial) stepped
  single := kept.single.step kept.documents (freshlyIssued_documents permitted stepped) stepped
  clients := by
    have earlier : ∀ client, Remembers platform mealPlanContainer ((label, output) :: trace) s'
        (s.clients client) := fun client =>
      (kept.clients client).step permitted stepped rfl (keepsRecipes_of_eq rfl)
        (kept.clients client).checked
    have afterwards := stepped
    cases stepped with
    | @act actor action effect handled =>
        refine RequestReply.State.forall_clients_commit earlier ?_
        cases action with
        | own action => exact kept.handle permitted afterwards handled rfl
        | outside change =>
            obtain rfl := Option.some.inj handled
            exact kept.change permitted afterwards
    | serve inFlight waiting => exact earlier
    | deliver inFlight answered resumed =>
        refine RequestReply.State.forall_clients_commit earlier ?_
        exact kept.resume permitted afterwards inFlight answered resumed

end

/-! ## The result -/

theorem remembered_start {s₀ : State} (opened : JustOpened s₀) :
    Remembered platform s₀.server [] s₀ where
  documents := Store.kept_start opened.idle fun id document stored =>
    ⟨Option.isSome_iff_exists.mpr ⟨document, stored⟩, trivial⟩
  single := Store.single_start opened.idle
  clients client := by
    refine ⟨fun selection shown => ?_, fun ref plan read => ?_⟩
    · rw [opened.closed] at shown
      cases shown
    · rw [opened.empty] at read
      cases read

/-- **A plan in memory shows what its last document says**, but for check marks and dates, in
every run: whoever reads the document gets the plan, and makes the same shopping list of it
as the detail screen. -/
theorem shown_plan_agrees {s₀ s : State} {trace : Trace} {client : Nat} {ref : Ref} {plan : Plan}
    {id : String} {document : Document} (opened : JustOpened s₀)
    (run : (sessions platform).Run (FreshDocuments platform s₀.server) s₀ trace s)
    (read : (s.clients client).plans.read ref = some plan)
    (last : plan.documentIDs.getLast? = some id) (stored : s.server[id]? = some document) :
    ∃ mealPlan, MealPlan.ofDocument document = some (some mealPlan) ∧
      outline mealPlan = outline (planShown (s.clients client) plan.mealPlan) ∧
      ∀ (Data : Type) (coding : Coding Data (List ShoppingList))
        (state : ShoppingLists.State Data),
        seeShoppingListButtonTapped coding (some ref) (s.clients client) state =
          addMealPlanRecipesIngredients coding mealPlan state := by
  have remembered : Remembered platform s₀.server trace s :=
    run.invariant (remembered_start opened) fun kept permitted stepped =>
      kept.step permitted stepped
  obtain ⟨mealPlan, decoded, same⟩ :=
    ((remembered.clients client).plans ref plan read).described id last document (.inl stored)
  refine ⟨mealPlan, decoded, same, fun Data coding state => ?_⟩
  have shown : seeShoppingListButtonTapped coding (some ref) (s.clients client) state =
      addMealPlanRecipesIngredients coding (planShown (s.clients client) plan.mealPlan) state := by
    simp only [seeShoppingListButtonTapped, Option.bind_some, read]
  rw [shown, shopping_of_outline same]

theorem home_justOpened : JustOpened home := ⟨rfl, fun _ => rfl, fun _ => rfl⟩

/-- A plan that was saved, after its recipe has been unchecked and given another date. -/
theorem shown_plan_agrees_dated :
    ∃ trace s plan document mealPlan,
      (sessions greenwich).Run (FreshDocuments greenwich home.server) home trace s ∧
      (s.clients 0).plans.read 0 = some plan ∧ s.server["D1"]? = some document ∧
      MealPlan.ofDocument document = some (some mealPlan) ∧
      outline mealPlan = outline (planShown (s.clients 0) plan.mealPlan) := by
  have executed : ((sessions greenwich).execute (FreshDocuments greenwich home.server) home
      [.act 0 (.own (.selectRecipeButtonTapped ⟨0⟩ ⟨oneDay⟩ "P1" fun _ => ⟨0⟩)),
        .act 0 (.own (.toggleRecipeChecked 0)),
        .act 0 (.own (.saveRecipesButtonTapped "D1" fun _ => "R3")), .serve 0 .answered,
        .act 0 (.own (.toggleRecipeChecked 0)),
        .act 0 (.outside (.datePicked 0 ⟨oneDay⟩))] []).any
        (fun last => ((last.2.clients 0).plans.read 0).any fun plan =>
          decide (plan.documentIDs.getLast? = some "D1") && last.2.server["D1"]?.isSome) =
            true := by
    decide
  obtain ⟨⟨trace, s⟩, followed, found⟩ := (Option.any_eq_true _ _).mp executed
  obtain ⟨plan, read, known⟩ := (Option.any_eq_true _ _).mp found
  obtain ⟨last, saved⟩ := Bool.and_eq_true_iff.mp known
  obtain ⟨document, stored⟩ := Option.isSome_iff_exists.mp saved
  have run := Program.Run.of_execute .start followed
  obtain ⟨mealPlan, decoded, same, -⟩ :=
    shown_plan_agrees home_justOpened run read (of_decide_eq_true last) stored
  exact ⟨trace, s, plan, document, mealPlan, run, read, stored, decoded, same⟩

end UserSwitches

end MyMealPrep.MealPlans
