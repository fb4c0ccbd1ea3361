import MyMealPrep.MealPlans.Effects

/-!
# What a client refers to

What holds of the references of a client throughout: they are to objects, and a
selection screen shows and keeps recipes of the book (`Referenced`).

The objects of fetched plans are new. Nothing that was readable changes when they
are made, and none of their references was readable before (`allocPlans_spec`).
-/

set_option autoImplicit false

namespace MyMealPrep.MealPlans

open Firestore (Snapshot)

variable {platform : Platform}

/-! ## The objects of fetched plans -/

/-- The object of a fetched plan: it is new, it has the value that was fetched, and so are
its recipes. -/
structure NewObjectOf (client grown : Client) (ref : Ref) (fetched : UserController.Fetched) :
    Prop where
  missing : client.plans.read ref = none
  value : grown.readPlan ref =
    some (fetched.mealPlan.withRecipes (fetched.mealPlan.recipes.map some))
  recipes : ∀ plan, grown.plans.read ref = some plan → ∀ recipe ∈ plan.mealPlan.recipes,
    client.recipes.read recipe = none ∧ (grown.recipes.read recipe).isSome = true

theorem readPlan_of_extends {client grown : Client} {ref : Ref} {plan : Plan}
    (read : client.plans.read ref = some plan)
    (readable : ∀ recipe ∈ plan.mealPlan.recipes, (client.recipes.read recipe).isSome = true)
    (recipesGrow : client.recipes.Extends grown.recipes)
    (plansGrow : client.plans.Extends grown.plans) :
    grown.readPlan ref = client.readPlan ref := by
  rw [Client.readPlan, Client.readPlan, plansGrow ref plan read, read, Option.map_some,
    Option.map_some]
  refine congrArg (fun recipes => some (plan.mealPlan.withRecipes recipes)) ?_
  refine List.map_congr_left fun recipe member => ?_
  obtain ⟨object, found⟩ := Option.isSome_iff_exists.mp (readable recipe member)
  rw [found]
  exact recipesGrow recipe object found

/-- **The plans fetched are new objects**, in their order. -/
theorem allocPlans_spec (client : Client) (fetched : List UserController.Fetched) :
    List.Forall₂ (NewObjectOf client (client.allocPlans fetched).1) (client.allocPlans fetched).2
      fetched := by
  induction fetched generalizing client with
  | nil => exact .nil
  | cons first rest ih =>
      obtain ⟨recipes, plans, same, recipesGrow, plansGrow⟩ :=
        allocPlans_eq (client.allocPlan first).1 rest
      replace recipesGrow : (client.allocPlan first).1.recipes.Extends
          ((client.allocPlan first).1.allocPlans rest).1.recipes := by rw [same]; exact recipesGrow
      replace plansGrow : (client.allocPlan first).1.plans.Extends
          ((client.allocPlan first).1.allocPlans rest).1.plans := by rw [same]; exact plansGrow
      have read : (client.allocPlan first).1.plans.read (client.allocPlan first).2 = some _ :=
        Heap.read_alloc_self _ _
      have readable : ∀ recipe ∈ (client.recipes.allocAll first.mealPlan.recipes).2,
          ((client.allocPlan first).1.recipes.read recipe).isSome = true :=
        fun recipe member => Heap.isSome_read_allocAll member
      have missing : client.plans.read (client.allocPlan first).2 = none :=
        Heap.read_alloc_eq_none client.plans
          ⟨first.mealPlan.withRecipes (client.recipes.allocAll first.mealPlan.recipes).2,
            [first.documentID], true⟩
      refine .cons ⟨missing, ?_, ?_⟩ ?_
      · refine (readPlan_of_extends read readable recipesGrow plansGrow).trans ?_
        rw [Client.readPlan, read, Option.map_some]
        exact congrArg (fun recipes => some (first.mealPlan.withRecipes recipes))
          (Heap.map_read_allocAll _ _)
      · intro plan found recipe member
        obtain rfl := Option.some.inj ((plansGrow _ _ read).symm.trans found)
        exact ⟨Heap.read_allocAll_eq_none member, recipesGrow.isSome_read (readable recipe member)⟩
      · refine (ih (client.allocPlan first).1).imp fun ref other object => ?_
        refine ⟨(Heap.extends_alloc _ _).read_eq_none object.missing, object.value, ?_⟩
        intro plan found recipe member
        obtain ⟨missing, made⟩ := object.recipes plan found recipe member
        exact ⟨(Heap.extends_allocAll _ _).read_eq_none missing, made⟩

/-- A plan in memory was there before, or is one of the new objects. -/
theorem mem_allocPlans {client : Client} {fetched : List UserController.Fetched} {ref : Ref}
    {plan : Plan} (read : (client.allocPlans fetched).1.plans.read ref = some plan) :
    client.plans.read ref = some plan ∨ ref ∈ (client.allocPlans fetched).2 := by
  induction fetched generalizing client with
  | nil => exact .inl read
  | cons first rest ih =>
      rcases ih read with early | new
      · refine (Heap.of_read_alloc early).imp_right ?_
        rintro ⟨rfl, -⟩
        exact List.mem_cons_self
      · exact .inr (List.mem_cons_of_mem _ new)

theorem newObjectOf_of_mem {client : Client} {fetched : List UserController.Fetched} {ref : Ref}
    (member : ref ∈ (client.allocPlans fetched).2) :
    ∃ first ∈ fetched, NewObjectOf client (client.allocPlans fetched).1 ref first := by
  obtain ⟨index, inRange, rfl⟩ := List.mem_iff_getElem.mp member
  have objects := List.forall₂_iff_get.mp (allocPlans_spec client fetched)
  have inFetched : index < fetched.length := objects.1 ▸ inRange
  exact ⟨fetched[index], List.getElem_mem inFetched, objects.2 index inRange inFetched⟩

/-! ## References are to objects -/

/-- The selection screen shows and keeps recipes of the book, for a plan in memory. -/
structure SelectionReferenced (client : Client) (selection : Selection) : Prop where
  mealPlan : ∀ ref ∈ selection.mealPlan, (client.plans.read ref).isSome = true
  searched : selection.recipeSearchArray ⊆ client.savedRecipes
  checked : selection.checkedRecipes ⊆ client.savedRecipes

/-- The references of a client are to objects. -/
structure Referenced (client : Client) : Prop where
  saved : ∀ ref ∈ client.savedRecipes, (client.recipes.read ref).isSome = true
  listed : ∀ ref ∈ client.mealPlans, (client.plans.read ref).isSome = true
  planned : ∀ ref plan, client.plans.read ref = some plan →
    ∀ recipe ∈ plan.mealPlan.recipes, (client.recipes.read recipe).isSome = true
  selected : ∀ selection ∈ client.selection, SelectionReferenced client selection

/-- A cell shows recipes of the book. -/
theorem Referenced.saved_of_mayShow {client : Client} {selection : Selection} {ref : Ref}
    (referenced : Referenced client) (shown : client.selection = some selection)
    (mayShow : selection.MayShow client ref) : ref ∈ client.savedRecipes :=
  mayShow.elim (fun searched => (referenced.selected selection shown).searched searched) id

/-- Changing a recipe in place keeps the references, whichever recipes of the book are checked
afterwards. -/
theorem Referenced.modifyRecipe {client : Client} {selection : Selection} {ref : Ref}
    {change : Recipe → Recipe} {checkedRecipes : List Ref} (referenced : Referenced client)
    (shown : client.selection = some selection)
    (checked : checkedRecipes ⊆ client.savedRecipes) :
    Referenced { client with
      recipes := client.recipes.modify ref change
      selection := some { selection with checkedRecipes } } := by
  obtain ⟨mealPlan, searched, -⟩ := referenced.selected selection shown
  refine ⟨?_, referenced.listed, ?_, ?_⟩
  · intro other member
    exact (Heap.isSome_read_modify _ _ _ _).trans (referenced.saved other member)
  · intro other plan found recipe member
    exact (Heap.isSome_read_modify _ _ _ _).trans
      (referenced.planned other plan found recipe member)
  · rintro _ ⟨⟩
    exact ⟨mealPlan, searched, checked⟩

theorem Referenced.toggle {texts : TextEquality} {client : Client} {selection : Selection}
    {ref : Ref} {effect : Effect} (referenced : Referenced client)
    (shown : client.selection = some selection) (saved : ref ∈ client.savedRecipes)
    (toggled : ToggleCase texts ref client selection effect) : Referenced effect.client := by
  have checked := (referenced.selected selection shown).checked
  cases toggled with
  | idle => exact referenced
  | checked read unchecked =>
      refine referenced.modifyRecipe shown ?_
      exact List.append_subset.mpr ⟨checked, by simpa using saved⟩
  | unchecked read wasChecked first =>
      refine referenced.modifyRecipe shown ?_
      exact fun other member => checked (List.mem_of_mem_eraseIdx member)

theorem Referenced.handle {texts : TextEquality} {client : Client} {action : Action}
    {effect : Effect} (referenced : Referenced client)
    (acted : ActionCase texts client action effect) :
    Referenced effect.client := by
  cases acted with
  | idle => exact referenced
  | fetchMealPlans =>
      exact ⟨referenced.saved, by simp [MealPlans.fetchMealPlans], referenced.planned,
        fun selection shown =>
          let before := referenced.selected selection shown
          ⟨before.mealPlan, before.searched, before.checked⟩⟩
  | @created startDate endDate mealPlanUID clock mealPlan uid recipes dates =>
      have grows := Heap.extends_alloc client.plans { mealPlan }
      have made : ((client.plans.alloc { mealPlan }).1.read
          (client.plans.alloc { mealPlan }).2).isSome = true := by
        rw [Heap.read_alloc_self]
        rfl
      refine ⟨referenced.saved, ?_, ?_, ?_⟩
      · intro ref member
        rcases List.mem_append.mp member with old | new
        · exact grows.isSome_read (referenced.listed ref old)
        · obtain rfl := List.mem_singleton.mp new
          exact made
      · intro ref plan found
        rcases Heap.of_read_alloc found with old | ⟨-, rfl⟩
        · exact referenced.planned ref plan old
        · simp [recipes]
      · rintro _ ⟨⟩
        refine ⟨?_, List.Subset.refl _, List.nil_subset _⟩
        rintro ref ⟨⟩
        exact made
  | searched shown found =>
      refine ⟨referenced.saved, referenced.listed, referenced.planned, ?_⟩
      rintro _ ⟨⟩
      have before := referenced.selected _ shown
      exact ⟨before.mealPlan, found, before.checked⟩
  | toggled shown mayShow =>
      exact referenced.toggle shown (referenced.saved_of_mayShow shown mayShow)
        (toggleCase _ _ _ _)
  | @saved mealPlanUID recipeUIDs selection target mealPlan shown opened =>
      have before := referenced.selected _ shown
      refine ⟨referenced.saved, ?_, ?_, ?_⟩
      · exact fun ref member =>
          (Heap.isSome_read_modify _ _ _ _).trans (referenced.listed ref member)
      · intro ref plan found recipe member
        simp only [Heap.read_modify] at found
        split at found
        · obtain ⟨old, oldRead, rfl⟩ := Option.map_eq_some_iff.mp found
          exact referenced.saved recipe (before.checked member)
        · exact referenced.planned ref plan found recipe member
      · intro other otherShown
        have after := referenced.selected other otherShown
        refine ⟨fun ref opened => ?_, after.searched, after.checked⟩
        exact (Heap.isSome_read_modify _ _ _ _).trans (after.mealPlan ref opened)
  | deleted listed first =>
      exact ⟨referenced.saved,
        fun ref member => referenced.listed ref (List.mem_of_mem_eraseIdx member),
        referenced.planned, fun selection shown =>
          let before := referenced.selected selection shown
          ⟨before.mealPlan, before.searched, before.checked⟩⟩

theorem Referenced.resume {client : Client} {reply : Reply} {effect : Effect}
    (referenced : Referenced client) (loaded : LoadedCase reply client effect) :
    Referenced effect.client := by
  cases loaded with
  | idle => exact referenced
  | @loaded snapshot fetched answered delivered =>
      obtain ⟨recipes, plans, same, recipesGrow, plansGrow⟩ := allocPlans_eq client fetched
      have grown : (client.allocPlans fetched).1.recipes = recipes ∧
          (client.allocPlans fetched).1.plans = plans := by rw [same]; exact ⟨rfl, rfl⟩
      refine ⟨?_, ?_, ?_, ?_⟩
      · rw [same]
        exact fun ref member => recipesGrow.isSome_read (referenced.saved ref member)
      · intro ref member
        obtain ⟨first, -, object⟩ := newObjectOf_of_mem member
        have value := object.value
        rw [Client.readPlan] at value
        obtain ⟨plan, found, -⟩ := Option.map_eq_some_iff.mp value
        exact Option.isSome_iff_exists.mpr ⟨plan, found⟩
      · intro ref plan found recipe member
        rcases mem_allocPlans found with old | new
        · have readable := referenced.planned ref plan old recipe member
          rw [← grown.1] at recipesGrow
          exact recipesGrow.isSome_read readable
        · obtain ⟨first, -, object⟩ := newObjectOf_of_mem new
          exact (object.recipes plan found recipe member).2
      · rw [same]
        intro selection shown
        have before := referenced.selected selection shown
        exact ⟨fun ref opened => plansGrow.isSome_read (before.mealPlan ref opened),
          before.searched, before.checked⟩

/-- Every client refers to objects. -/
def AllReferenced (s : State) : Prop :=
  ∀ client, Referenced (s.clients client)

/-- **One step keeps the references.** -/
theorem AllReferenced.step {s s' : State} {label : Label} {output : Output}
    (referenced : AllReferenced s) (stepped : (program platform).StepCase s label output s') :
    AllReferenced s' := by
  cases stepped with
  | act handled =>
      exact RequestReply.State.forall_clients_commit referenced
        ((referenced _).handle (actionCase_of_handle handled))
  | serve inFlight waiting => exact referenced
  | deliver inFlight answered resumed =>
      exact RequestReply.State.forall_clients_commit referenced
        ((referenced _).resume (loadedCase_of_resume resumed).1)

end MyMealPrep.MealPlans
