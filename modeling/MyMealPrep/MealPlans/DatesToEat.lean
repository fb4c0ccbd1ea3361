import MyMealPrep.MealPlans.History

/-!
# Dates picked for the recipes of a plan

The dates of the recipes of a plan are inside its document. The cell that picks a
date writes it elsewhere: to the document of the meal plan container whose ID is the
`uid` of the recipe in memory. A recipe that came from a search has no `uid`, and
the cell traps, as it does where the `uid` is not the path of a document. Otherwise it is the
ID of a recipe, and there is no such document as a rule; where there is one, it gets a field
that no plan reads.

So a date picked is never stored: it comes back with the next fetch exactly when it
is the date that was saved (`picked_date_returns_iff`).
-/

set_option autoImplicit false

namespace MyMealPrep.MealPlans

open Firestore (Collection)

/-! ## The property -/

/-- The recipe of a cell on a detail screen of a saved plan: the one in memory right after
saving, or one that a fetch delivered, with the date last picked for it. -/
inductive Shown (saved : Saved) (index : Nat) : Recipe → Prop where
  | afterSaving {recipe : Recipe} (inMemory : saved.mealPlan.recipes[index]? = some recipe)
      (dateToEat : Date) : Shown saved index (updateDateToEat dateToEat recipe)
  | fetched {mealPlanContainer : Collection} {plans : List Saved}
      (history : History mealPlanContainer plans) (stored : saved ∈ plans)
      {fetched : List UserController.Fetched} {mealPlan : MealPlan Recipe}
      (delivered : fetch saved.user mealPlanContainer = some (.ok fetched))
      (member : ⟨saved.mealPlanUID, mealPlan⟩ ∈ fetched) {recipe : Recipe}
      (inPlan : mealPlan.recipes[index]? = some recipe) (dateToEat : Date) :
      Shown saved index (updateDateToEat dateToEat recipe)

/-- The plan with another date for one of its recipes. -/
def withDateToEat (mealPlan : MealPlan Recipe) (index : Nat) (date : Date) : MealPlan Recipe :=
  { mealPlan with recipes := mealPlan.recipes.modify index (updateDateToEat date) }

/-- A fetch of the user delivers the plan with the date picked. -/
def DeliversDate (mealPlanContainer : Collection) (saved : Saved) (index : Nat) (date : Date) :
    Prop :=
  ∃ fetched, fetch saved.user mealPlanContainer = some (.ok fetched) ∧
    ⟨saved.mealPlanUID, withDateToEat saved.delivered index date⟩ ∈ fetched

/-- Picking a date does not trap, and once the update has succeeded it is delivered. -/
def PickedDateReturns (mealPlanContainer : Collection) (saved : Saved) (index : Nat)
    (recipe : Recipe) (date : Date) : Prop :=
  ∃ changed update, datePickerValueChanged date recipe = some (changed, update) ∧
    ∀ updated, update.written mealPlanContainer = some updated →
      DeliversDate updated saved index date

/-- Picking a date does not trap, and it is delivered whether the update succeeds or not. -/
def PickedDateStored (mealPlanContainer : Collection) (saved : Saved) (index : Nat)
    (recipe : Recipe) (date : Date) : Prop :=
  ∃ changed update, datePickerValueChanged date recipe = some (changed, update) ∧
    DeliversDate ((update.written mealPlanContainer).getD mealPlanContainer) saved index date

/-- Every date picked for a recipe of a saved plan comes back with the plan. -/
def PickedDatesReturn : Prop :=
  ∀ mealPlanContainer plans saved index recipe date, History mealPlanContainer plans →
    saved ∈ plans → Shown saved index recipe →
    PickedDateReturns mealPlanContainer saved index recipe date

/-! ## The dates of a plan -/

/-- The date that a plan was saved with for one of its recipes. -/
def savedDate (saved : Saved) (index : Nat) : Option Date :=
  saved.mealPlan.recipes[index]?.map Recipe.dateToEat

theorem delivered_recipes_get (saved : Saved) (index : Nat) :
    saved.delivered.recipes[index]? = saved.mealPlan.recipes[index]?.map fun recipe =>
      recipe.written (saved.recipeUIDs index) (some saved.user.uuid) := by
  rw [Saved.delivered, MealPlan.written, List.getElem?_map, List.getElem?_zipIdx, Option.map_map,
    Nat.zero_add]
  rfl

/-- A cell shows a recipe that the plan was saved with. -/
theorem Shown.isSome_savedDate {saved : Saved} {index : Nat} {recipe : Recipe}
    (shown : Shown saved index recipe) : (savedDate saved index).isSome = true := by
  cases shown with
  | afterSaving inMemory dateToEat =>
      rw [savedDate, inMemory]
      rfl
  | fetched history stored delivered member inPlan dateToEat =>
      obtain ⟨all, deliveredAll, exactly⟩ := history.holds.fetch stored
      obtain rfl := Except.ok.inj (Option.some.inj (delivered.symm.trans deliveredAll))
      obtain rfl := (exactly _).mp member
      rw [delivered_recipes_get] at inPlan
      obtain ⟨recipe, inMemory, -⟩ := Option.map_eq_some_iff.mp inPlan
      rw [savedDate, inMemory]
      rfl

/-- Setting a date changes nothing exactly when it is the date already there. -/
theorem withDateToEat_eq_iff {mealPlan : MealPlan Recipe} {index : Nat} {recipe : Recipe}
    (inPlan : mealPlan.recipes[index]? = some recipe) (date : Date) :
    withDateToEat mealPlan index date = mealPlan ↔ recipe.dateToEat = date := by
  obtain ⟨inRange, rfl⟩ := List.getElem?_eq_some_iff.mp inPlan
  constructor
  · intro same
    have entry := congrArg (fun plan => plan.recipes[index]?) same
    rw [withDateToEat] at entry
    simp only [List.getElem?_modify_eq, inPlan, Option.map_eq_map, Option.map_some,
      Option.some.injEq] at entry
    exact (congrArg Recipe.dateToEat entry).symm
  · rintro rfl
    have unchanged : mealPlan.recipes.modify index
        (updateDateToEat mealPlan.recipes[index].dateToEat) = mealPlan.recipes := by
      refine List.ext_getElem? fun position => ?_
      rw [List.getElem?_modify]
      split
      · rename_i same
        subst same
        rw [inPlan]
        rfl
      · simp
    rw [withDateToEat, unchanged]

/-- A container delivers a date exactly when it is the date the plan was saved with. -/
theorem deliversDate_iff {mealPlanContainer : Collection} {plans : List Saved}
    (holds : Holds mealPlanContainer plans) {saved : Saved} (member : saved ∈ plans) {index : Nat}
    (inRange : (savedDate saved index).isSome = true) (date : Date) :
    DeliversDate mealPlanContainer saved index date ↔ savedDate saved index = some date := by
  obtain ⟨recipe, inMemory, -⟩ :=
    Option.map_eq_some_iff.mp (Option.isSome_iff_exists.mp inRange).choose_spec
  have inPlan := delivered_recipes_get saved index
  rw [inMemory, Option.map_some] at inPlan
  obtain ⟨fetched, delivered, exactly⟩ := holds.fetch member
  have unchanged := withDateToEat_eq_iff inPlan date
  have sameDate : savedDate saved index = some date ↔
      (recipe.written (saved.recipeUIDs index) (some saved.user.uuid)).dateToEat = date := by
    rw [savedDate, inMemory, Option.map_some, Option.some.injEq]
    rfl
  rw [sameDate, ← unchanged, ← exactly]
  constructor
  · rintro ⟨others, deliveredOthers, listed⟩
    obtain rfl := Except.ok.inj (Option.some.inj (delivered.symm.trans deliveredOthers))
    exact listed
  · exact fun listed => ⟨fetched, delivered, listed⟩

/-- The path of the document that the cell of a recipe updates. -/
def updatedPath (recipe : Recipe) : Option (List String) :=
  recipe.uid.bind Firestore.documentPath

theorem datePickerValueChanged_eq (date : Date) (recipe : Recipe) :
    datePickerValueChanged date recipe =
      (updatedPath recipe).map fun path => (updateDateToEat date recipe, ⟨path, date⟩) := by
  rw [datePickerValueChanged, updateDateToEat, updatedPath]
  cases recipe.uid with
  | none => rfl
  | some uid => cases documentPath : Firestore.documentPath uid <;> simp [documentPath]

theorem written_eq_none {mealPlanContainer : Collection} {path : List String}
    (absent : ∀ id document, path = [id] → mealPlanContainer[id]? ≠ some document) (date : Date) :
    DateUpdate.written ⟨path, date⟩ mealPlanContainer = none := by
  rw [DateUpdate.written]
  split
  · rename_i id single
    have missing : mealPlanContainer[id]? = none :=
      Option.eq_none_iff_forall_ne_some.mpr fun document => absent id document single
    rw [Collection.updateData, missing]
  · rfl

/-! ## The result -/

/-- **A date picked comes back exactly when the `uid` of the recipe is the path of a document
and, where the meal plan container has that document, the date is the one the plan was saved with.**
Without regard to whether the update succeeds, it comes back exactly when the `uid` is such a path
and the date is the one saved. -/
theorem picked_date_returns_iff {mealPlanContainer : Collection} {plans : List Saved}
    {saved : Saved} {index : Nat} {recipe : Recipe} (history : History mealPlanContainer plans)
    (member : saved ∈ plans) (shown : Shown saved index recipe) (date : Date) :
    (PickedDateReturns mealPlanContainer saved index recipe date ↔
      ∃ path, updatedPath recipe = some path ∧ ∀ id document, path = [id] →
        mealPlanContainer[id]? = some document → savedDate saved index = some date) ∧
    (PickedDateStored mealPlanContainer saved index recipe date ↔
      (updatedPath recipe).isSome = true ∧ savedDate saved index = some date) := by
  have holds := history.holds
  have inRange := shown.isSome_savedDate
  have picks := datePickerValueChanged_eq date recipe
  cases named : updatedPath recipe with
  | none => simp [PickedDateReturns, PickedDateStored, picks, named]
  | some path =>
      rw [named, Option.map_some] at picks
      have returns : PickedDateReturns mealPlanContainer saved index recipe date ↔
          ∀ updated, DateUpdate.written ⟨path, date⟩ mealPlanContainer = some updated →
            DeliversDate updated saved index date := by
        simp [PickedDateReturns, picks]
      have isStored : PickedDateStored mealPlanContainer saved index recipe date ↔
          DeliversDate ((DateUpdate.written ⟨path, date⟩ mealPlanContainer).getD mealPlanContainer)
            saved index date := by
        simp [PickedDateStored, picks]
      rw [returns, isStored]
      by_cases present : ∃ id document, path = [id] ∧ mealPlanContainer[id]? = some document
      · obtain ⟨id, document, rfl, found⟩ := present
        obtain ⟨updated, acknowledged⟩ :
            ∃ updated, DateUpdate.written ⟨[id], date⟩ mealPlanContainer = some updated :=
          ⟨_, Collection.updateData_eq_some_iff.mpr ⟨document, found, rfl⟩⟩
        -- The field written is one that no plan reads.
        have afterwards :=
          deliversDate_iff (holds.datePickerValueChanged acknowledged) member inRange date
        simp only [acknowledged, Option.some.injEq, forall_eq', Option.getD_some, afterwards,
          Option.isSome_some, true_and, and_true]
        constructor
        · exact fun isSaved => ⟨[id], rfl, fun _ _ _ _ => isSaved⟩
        · rintro ⟨_, rfl, returnsSaved⟩
          exact returnsSaved id document rfl found
      · have absent : ∀ id document, path = [id] → mealPlanContainer[id]? ≠ some document :=
          fun id document single found => present ⟨id, document, single, found⟩
        have before := deliversDate_iff holds member inRange date
        rw [written_eq_none absent]
        simp only [reduceCtorEq, false_implies, implies_true, Option.getD_none, before,
          Option.isSome_some, true_and, true_iff, and_true]
        exact ⟨path, rfl, fun id document single found =>
          absurd found (absent id document single)⟩

/-! ## A plan of salads -/

/-- A plan saved with the IDs of its two recipes. -/
def savedSaladDays : Saved :=
  ⟨cook, saladDays, "D1", fun index => if index = 0 then "R1" else "R2"⟩

theorem history_saladDays :
    History (serve .answered ∅ savedSaladDays.request).1 [savedSaladDays] :=
  .saveMealPlan .start savedSaladDays (by simp)

/-- A date picked for a fetched recipe is not stored, unless it is the date already there. -/
theorem picked_date_returns_iff_saladDays :
    ∃ mealPlanContainer recipe, Shown savedSaladDays 0 recipe ∧
      PickedDateStored mealPlanContainer savedSaladDays 0 recipe ⟨0⟩ ∧
        ¬ PickedDateStored mealPlanContainer savedSaladDays 0 recipe ⟨5⟩ := by
  obtain ⟨fetched, delivered, exactly⟩ := history_saladDays.holds.fetch List.mem_cons_self
  have shown : Shown savedSaladDays 0 (updateDateToEat ⟨0⟩ (salad.written "R1" (some "A"))) :=
    .fetched history_saladDays List.mem_cons_self delivered ((exactly _).mpr rfl) rfl ⟨0⟩
  refine ⟨(serve .answered ∅ savedSaladDays.request).1, _, shown, ?_, ?_⟩
  · exact (picked_date_returns_iff history_saladDays List.mem_cons_self shown ⟨0⟩).2.mpr
      (by decide)
  · exact mt (picked_date_returns_iff history_saladDays List.mem_cons_self shown ⟨5⟩).2.mp
      (by decide)

/-- **Picking a date traps for a recipe that came from a search.** -/
theorem picking_date_traps : ¬ PickedDatesReturn := by
  intro returns
  have shown : Shown savedSaladDays 0 (updateDateToEat ⟨0⟩ salad) := .afterSaving rfl ⟨0⟩
  obtain ⟨changed, update, picked, -⟩ :=
    returns _ _ _ _ _ ⟨5⟩ history_saladDays List.mem_cons_self shown
  cases picked

end MyMealPrep.MealPlans
