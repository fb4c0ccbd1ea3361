import MyMealPrep.Machines.Origins
import MyMealPrep.MealPlans.UserSwitches

/-!
# Where the recipes of the plans come from

A plan has no recipes of its own. Those checked on the selection screen are the objects of
the book; saving copies them into a document, and a fetch makes new objects of the copies.
A check mark and a date are changed in place, and a copy gets a new ID and the author of
the plan.

So every recipe in memory and every recipe of the meal plan container has, but for its check
mark and its date, the content of a recipe that a client had in memory at the start or has
found since, or of one in a document of the start (`plan_recipes_have_origins`).
-/

set_option autoImplicit false

namespace MyMealPrep.MealPlans

open Firestore (Collection Document Snapshot Value)
open RequestReply (Carriers OrOutside Program)

namespace UserSwitches

variable {platform : Platform}

/-! ## Who holds which recipes -/

/-- The content of a recipe but for its check mark and its date. -/
def unmarked (recipe : Recipe) : Recipe :=
  { recipe.content with isChecked := false, dateToEat := ⟨0⟩ }

/-- The recipes in memory. -/
def inMemory (client : Client) : Set Recipe :=
  {content | ∃ recipe ∈ client.recipes.objects, unmarked recipe = content}

/-- The recipes of a plan. -/
def ofPlan (mealPlan : MealPlan Recipe) : Set Recipe :=
  {content | ∃ recipe ∈ mealPlan.recipes, unmarked recipe = content}

/-- The recipes of the plan that a document is read as. -/
def inDocument (document : Document) : Set Recipe :=
  {content | ∃ mealPlan, MealPlan.ofDocument document = some (some mealPlan) ∧
    content ∈ ofPlan mealPlan}

/-- The recipes held by clients, documents, requests and replies. -/
def recipeCarriers (platform : Platform) : Carriers (sessions platform) Recipe where
  ofClient := inMemory
  ofServer mealPlanContainer :=
    {content | ∃ (id : String) (document : Document), mealPlanContainer[id]? = some document ∧
      content ∈ inDocument document}
  ofRequest
    | .setMealPlan _ data => inDocument (Value.storedFields data)
    | _ => ∅
  ofReply
    | .documents snapshot => {content | ∃ entry ∈ snapshot, content ∈ inDocument entry.2}
    | _ => ∅
  ofAction
    | .outside (.recipesFound recipes) => {content | ∃ recipe ∈ recipes, unmarked recipe = content}
    | _ => ∅
  outside _ _ := ∅

/-- The recipe is one of the start or one found since, but for its ID, author, check mark and
date. -/
def HasOrigin (s₀ : State) (trace : Trace) (recipe : Recipe) : Prop :=
  (∃ client, unmarked recipe ∈ inMemory (s₀.clients client)) ∨
  (∃ (id : String) (document : Document), s₀.server[id]? = some document ∧
    unmarked recipe ∈ inDocument document) ∨
  ∃ client recipes output, (.act client (.outside (.recipesFound recipes)), output) ∈ trace ∧
    ∃ found ∈ recipes, unmarked found = unmarked recipe

/-! ## Copies keep the content -/

theorem inDocument_dictionary (mealPlan : MealPlan Recipe) (mealPlanUID : String)
    (authorID : Option String) (recipeUIDs : Nat → String) :
    inDocument (Value.storedFields (mealPlan.dictionary mealPlanUID authorID recipeUIDs)) ⊆
      ofPlan mealPlan := by
  rintro content ⟨plan, read, recipe, member, rfl⟩
  rw [MealPlan.ofDocument_dictionary] at read
  obtain rfl := Option.some.inj (Option.some.inj read)
  obtain ⟨⟨original, index⟩, listed, rfl⟩ := List.mem_map.mp member
  exact ⟨original, List.fst_mem_of_mem_zipIdx listed, rfl⟩

theorem unmarked_mem_inMemory {client : Client} {ref : Ref} {recipe : Recipe}
    (read : client.recipes.read ref = some recipe) : unmarked recipe ∈ inMemory client :=
  ⟨recipe, List.mem_of_getElem? read, rfl⟩

theorem inMemory_modify {client changed : Client} {ref : Ref} {change : Recipe → Recipe}
    (recipes : changed.recipes = client.recipes.modify ref change)
    (same : ∀ recipe, unmarked (change recipe) = unmarked recipe) :
    inMemory changed ⊆ inMemory client := by
  rintro content ⟨recipe, member, rfl⟩
  obtain ⟨other, listed⟩ := List.mem_iff_getElem?.mp member
  have read : changed.recipes.read other = some recipe := listed
  rw [recipes, Heap.read_modify] at read
  split at read
  · obtain ⟨original, found, rfl⟩ := Option.map_eq_some_iff.mp read
    rw [same]
    exact unmarked_mem_inMemory found
  · exact unmarked_mem_inMemory read

theorem inMemory_allocPlans (client : Client) (fetched : List UserController.Fetched) :
    inMemory (client.allocPlans fetched).1 ⊆
      inMemory client ∪ ⋃ plan ∈ fetched, ofPlan plan.mealPlan := by
  induction fetched generalizing client with
  | nil => exact Set.subset_union_left
  | cons first rest ih =>
      rintro content copied
      rcases ih (client.allocPlan first).1 copied with ⟨recipe, member, rfl⟩ | later
      · rcases List.mem_append.mp member with old | new
        · exact .inl ⟨recipe, old, rfl⟩
        · exact .inr (Set.mem_biUnion (x := first) List.mem_cons_self ⟨recipe, new, rfl⟩)
      · exact .inr (Set.biUnion_subset_biUnion_left
          (fun plan listed => List.mem_cons_of_mem _ listed) later)

/-! ## The law -/

theorem inMemory_toggle {texts : TextEquality} {ref : Ref} {client : Client}
    {selection : Selection} {effect : Effect}
    (toggled : ToggleCase texts ref client selection effect) :
    inMemory effect.client ⊆ inMemory client ∧ effect.requests = [] := by
  cases toggled with
  | idle => exact ⟨Set.Subset.refl _, rfl⟩
  | checked read unchecked => exact ⟨inMemory_modify rfl fun _ => rfl, rfl⟩
  | unchecked read checked first => exact ⟨inMemory_modify rfl fun _ => rfl, rfl⟩

/-- What is saved are recipes in memory. -/
theorem saveRecipesButtonTapped_requests {mealPlanUID : String} {recipeUIDs : Nat → String}
    {client : Client} {issued : Request × Continuation}
    (requested : issued ∈ (saveRecipesButtonTapped mealPlanUID recipeUIDs client).requests) :
    (recipeCarriers platform).ofRequest issued.1 ⊆ inMemory client := by
  simp only [saveRecipesButtonTapped, onSelection] at requested
  split at requested
  · cases requested
  · rename_i selection shown
    split at requested
    · cases requested
    · split at requested
      · cases requested
      · obtain rfl := List.mem_singleton.mp requested
        refine (inDocument_dictionary _ _ _ _).trans ?_
        rintro content ⟨recipe, member, rfl⟩
        obtain ⟨ref, -, read⟩ := List.mem_filterMap.mp member
        exact unmarked_mem_inMemory read

theorem inMemory_handle {action : Action} {client : Client} {effect : Effect}
    (handled : handle platform action client = some effect) :
    inMemory effect.client ⊆ inMemory client ∧
      ∀ issued ∈ effect.requests, (recipeCarriers platform).ofRequest issued.1 ⊆
        inMemory client := by
  cases actionCase_of_handle handled with
  | idle => exact ⟨Set.Subset.refl _, by simp⟩
  | fetchMealPlans =>
      refine ⟨Set.Subset.refl _, fun issued requested => ?_⟩
      obtain rfl := List.mem_singleton.mp requested
      exact Set.empty_subset _
  | created uid recipes dates => exact ⟨Set.Subset.refl _, by simp⟩
  | searched shown found => exact ⟨Set.Subset.refl _, by simp⟩
  | @toggled selection ref shown mayShow =>
      obtain ⟨kept, nothing⟩ := inMemory_toggle (toggleCase platform.texts ref client selection)
      exact ⟨kept, by simp [nothing]⟩
  | saved shown opened =>
      refine ⟨Set.Subset.refl _, fun issued requested => ?_⟩
      rw [← Option.some.inj handled] at requested
      exact saveRecipesButtonTapped_requests requested
  | deleted listed first =>
      refine ⟨Set.Subset.refl _, fun issued requested => ?_⟩
      obtain rfl := List.mem_singleton.mp requested
      exact Set.empty_subset _

theorem inMemory_resume {continuation : Continuation} {reply : Reply} {client : Client}
    {effect : Effect} (resumed : resume continuation reply client = some effect) :
    inMemory effect.client ⊆ inMemory client ∪ (recipeCarriers platform).ofReply reply ∧
      effect.requests = [] := by
  cases (loadedCase_of_resume resumed).1 with
  | idle => exact ⟨Set.subset_union_left, rfl⟩
  | @loaded snapshot fetched replied delivered =>
      subst replied
      refine ⟨(inMemory_allocPlans client fetched).trans ?_, rfl⟩
      refine Set.union_subset_union_right _ (Set.iUnion₂_subset ?_)
      intro plan listed content copied
      obtain ⟨document, stored, read⟩ := mem_fetchMealPlans delivered listed
      exact ⟨(plan.documentID, document), stored, plan.mealPlan, read, copied⟩

theorem inDocument_serve (fate : Fate) (mealPlanContainer : Collection) (request : Request) :
    (recipeCarriers platform).ofServer (serve fate mealPlanContainer request).1 ⊆
      (recipeCarriers platform).ofServer mealPlanContainer ∪
        (recipeCarriers platform).ofRequest request := by
  rintro content ⟨id, document, stored, held⟩
  rcases (mealPlanStore platform).contents_serve stored with before | written
  · exact .inl ⟨id, document, before, held⟩
  · cases request with
    | setMealPlan mealPlanUID data =>
        obtain ⟨rfl, rfl⟩ := Prod.mk.inj (Option.some.inj written)
        exact .inr held
    | _ => cases written

theorem inDocument_answer (fate : Fate) (mealPlanContainer : Collection) (request : Request) :
    (recipeCarriers platform).ofReply (serve fate mealPlanContainer request).2 ⊆
      (recipeCarriers platform).ofServer mealPlanContainer ∪
        (recipeCarriers platform).outside fate request := by
  intro content answered
  cases reply : (serve fate mealPlanContainer request).2 with
  | documents snapshot =>
      rw [reply] at answered
      obtain ⟨⟨id, document⟩, listed, held⟩ := answered
      have listing : listedDocuments (serve fate mealPlanContainer request).2 = snapshot :=
        congrArg listedDocuments reply
      exact .inl ⟨id, document, stored_of_listed (listing ▸ listed), held⟩
  | _ =>
      rw [reply] at answered
      cases answered

/-- Recipes are passed on and not made. -/
theorem recipeCarriers_law (platform : Platform) : (recipeCarriers platform).Law where
  handle := by
    intro action client effect handled
    cases action with
    | own action =>
        obtain ⟨kept, issued⟩ := inMemory_handle handled
        exact ⟨kept.trans Set.subset_union_left,
          fun request requested => (issued request requested).trans Set.subset_union_left⟩
    | outside change =>
        obtain rfl := Option.some.inj handled
        refine ⟨?_, by simp⟩
        cases change with
        | recipesFound recipes =>
            rintro content ⟨recipe, member, rfl⟩
            rcases List.mem_append.mp member with old | new
            · exact .inl ⟨recipe, old, rfl⟩
            · exact .inr ⟨recipe, new, rfl⟩
        | datePicked recipe date =>
            have dated : (UserSwitches.change (.datePicked recipe date) client).recipes =
              client.recipes.modify recipe (updateDateToEat date) := rfl
            exact (inMemory_modify dated fun _ => rfl).trans Set.subset_union_left
        | _ => exact Set.subset_union_left
  resume := by
    intro continuation reply input client effect resumed
    obtain ⟨kept, nothing⟩ := inMemory_resume resumed
    exact ⟨kept, by simp [nothing]⟩
  serve := inDocument_serve
  answer s fate task := inDocument_answer fate s.server task.request

/-! ## The result -/

section

variable {s₀ s : State} {trace : Trace} {allowed : Trace → State → Label → Prop}

theorem hasOrigin_of_mem {recipe : Recipe}
    (known : unmarked recipe ∈ (recipeCarriers platform).origins s₀ trace) :
    HasOrigin s₀ trace recipe := by
  rcases known with (initially | document) | since
  · exact .inl (Set.mem_iUnion.mp initially)
  · exact .inr (.inl document)
  · obtain ⟨⟨label, output⟩, listed, brought⟩ := Set.mem_iUnion₂.mp since
    cases label with
    | act client action =>
        cases action with
        | own action => cases brought
        | outside change =>
            cases change with
            | recipesFound recipes => exact .inr (.inr ⟨client, recipes, output, listed, brought⟩)
            | _ => cases brought
    | serve index fate =>
        obtain ⟨served, isServed, nothing⟩ := Set.mem_iUnion₂.mp brought
        cases nothing
    | _ => cases brought

/-- **Every recipe in memory and every recipe of a plan in the meal plan container is a copy of
one of the start** or of one found since, but for check marks and dates, in every run. -/
theorem plan_recipes_have_origins (idle : s₀.tasks = [])
    (run : (sessions platform).Run allowed s₀ trace s) :
    (∀ client ref recipe, (s.clients client).recipes.read ref = some recipe →
      HasOrigin s₀ trace recipe) ∧
      ∀ (id : String) (document : Document) (mealPlan : MealPlan Recipe),
        s.server[id]? = some document → MealPlan.ofDocument document = some (some mealPlan) →
          ∀ recipe ∈ mealPlan.recipes, HasOrigin s₀ trace recipe := by
  have within := (recipeCarriers_law platform).origins_run idle run
  constructor
  · intro client ref recipe read
    exact hasOrigin_of_mem (within.clients client (unmarked_mem_inMemory read))
  · intro id document mealPlan stored read recipe member
    exact hasOrigin_of_mem
      (within.server ⟨id, document, stored, mealPlan, read, recipe, member, rfl⟩)

end

/-- A recipe checked, saved with a plan on one client and fetched on another. -/
theorem plan_recipes_have_origins_saved :
    ∃ trace s recipe, (sessions greenwich).Run Program.anyStep home trace s ∧
      (s.clients 1).recipes.read 1 = some recipe ∧ HasOrigin home trace recipe := by
  have executed : ((sessions greenwich).execute Program.anyStep home
      [.act 0 (.own (.selectRecipeButtonTapped ⟨0⟩ ⟨oneDay⟩ "P1" fun _ => ⟨0⟩)),
        .act 0 (.own (.toggleRecipeChecked 0)),
        .act 0 (.own (.saveRecipesButtonTapped "D1" fun _ => "R3")), .serve 0 .answered,
        .deliver 0 (), .act 1 (.own .fetchMealPlans), .serve 0 .answered, .deliver 0 ()] []).any
        (fun last => ((last.2.clients 1).recipes.read 1).isSome) = true := by
    decide
  obtain ⟨⟨trace, s⟩, followed, readable⟩ := (Option.any_eq_true _ _).mp executed
  obtain ⟨recipe, read⟩ := Option.isSome_iff_exists.mp readable
  have run := Program.Run.of_execute .start followed
  exact ⟨trace, s, recipe, run, read, (plan_recipes_have_origins rfl run).1 1 1 recipe read⟩

end UserSwitches

end MyMealPrep.MealPlans
