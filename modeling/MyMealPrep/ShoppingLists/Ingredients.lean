import Mathlib.Data.List.Nodup
import MyMealPrep.ShoppingLists.Contents

/-!
# Adding the ingredients of a meal plan

Two nested loops put every ingredient in front of the list and save the list each
time. What they leave is said once for any number of ingredients (`Added`): the new
entries in reverse, before an old list that keeps its entries, and the file with
the whole of it. It holds of one insertion and composes, so it holds of both loops
(`addMealPlanRecipesIngredients_added`).
-/

set_option autoImplicit false

namespace MyMealPrep.ShoppingLists

variable {Data : Type} {coding : Coding Data (List ShoppingList)} {state middle next : State Data}
  {first second : List String}

/-- What adding ingredients one after another makes of the list and its file. -/
structure Added (coding : Coding Data (List ShoppingList)) (ingredients : List String)
    (state next : State Data) : Prop where
  /-- The new entries, unchecked and in reverse, and then the old list. -/
  contents : next.contents =
    (ingredients.map fun item => { item, isChecked := false }).reverse ++ state.contents
  /-- The new entries are new objects, and the old list has the objects that it had. -/
  listItems : ∃ refs, next.listItems = refs ++ state.listItems ∧ refs.Nodup ∧
    ∀ ref ∈ refs, state.items.read ref = none
  /-- No object is changed. -/
  items : state.items.Extends next.items
  /-- The file has the whole list. -/
  saved : ingredients ≠ [] →
    next.file = some (coding.encode next.contents) ∧ next.InSync coding
  /-- Without ingredients nothing happens. -/
  unchanged : ingredients = [] → next = state

namespace Added

theorem refl (state : State Data) : Added coding [] state state where
  contents := rfl
  listItems := ⟨[], rfl, List.nodup_nil, fun _ member => absurd member List.not_mem_nil⟩
  items := Heap.Extends.refl _
  saved nonempty := absurd rfl nonempty
  unchanged _ := rfl

theorem trans (left : Added coding first state middle) (right : Added coding second middle next) :
    Added coding (first ++ second) state next where
  contents := by
    rw [right.contents, left.contents, List.map_append, List.reverse_append, List.append_assoc]
  listItems := by
    obtain ⟨firstRefs, firstItems, firstNodup, firstNew⟩ := left.listItems
    obtain ⟨secondRefs, secondItems, secondNodup, secondNew⟩ := right.listItems
    refine ⟨secondRefs ++ firstRefs, ?_, ?_, ?_⟩
    · rw [secondItems, firstItems, List.append_assoc]
    · refine List.Nodup.append secondNodup firstNodup fun ref newer older => ?_
      -- The older entries are in the list already, and so in memory.
      have readable := middle.listed ref (firstItems ▸ List.mem_append_left _ older)
      rw [secondNew ref newer] at readable
      cases readable
    · intro ref member
      rcases List.mem_append.mp member with newer | older
      · exact left.items.read_eq_none (secondNew ref newer)
      · exact firstNew ref older
  items := left.items.trans right.items
  saved nonempty := by
    by_cases none : second = []
    · rw [right.unchanged none]
      refine left.saved fun nothing => nonempty ?_
      rw [nothing, none, List.append_nil]
    · exact right.saved none
  unchanged empty := by
    obtain ⟨noneFirst, noneSecond⟩ := List.append_eq_nil_iff.mp empty
    rw [right.unchanged noneSecond, left.unchanged noneFirst]

end Added

/-- One pass of the inner loop. -/
theorem insertItem_added (item : String) (state : State Data) :
    Added coding [item] state (saveToPersistentStorage coding (insertItem item state)) where
  contents := by
    rw [contents_saveToPersistentStorage, contents_insertItem]
    rfl
  listItems := by
    refine ⟨[(state.items.alloc { item }).2], ?_, List.nodup_singleton _, ?_⟩
    · cases entries : state.listItems with
      | nil => simp [saveToPersistentStorage, insertItem, entries]
      | cons ref rest => simp [saveToPersistentStorage, insertItem, entries]
    · intro ref member
      rw [List.mem_singleton.mp member]
      exact Heap.read_alloc_eq_none _ _
  items := Heap.extends_alloc _ _
  saved _ := ⟨rfl, saveToPersistentStorage_inSync _⟩
  unchanged empty := absurd empty (List.cons_ne_nil _ _)

theorem addRecipeIngredients_added (recipe : Recipe) (state : State Data) :
    Added coding recipe.ingredients state (addRecipeIngredients coding recipe state) := by
  rw [addRecipeIngredients]
  induction recipe.ingredients generalizing state with
  | nil => exact Added.refl state
  | cons ingredient rest ih =>
      rw [List.foldl_cons]
      exact (insertItem_added ingredient state).trans (ih _)

/-- **Adding a plan puts the ingredients of all its recipes, in reverse and unchecked, before
the list, and the file has the result.** -/
theorem addMealPlanRecipesIngredients_added (coding : Coding Data (List ShoppingList))
    (mealPlan : MealPlan Recipe) (state : State Data) :
    Added coding (mealPlan.recipes.flatMap Recipe.ingredients) state
      (addMealPlanRecipesIngredients coding mealPlan state) := by
  rw [addMealPlanRecipesIngredients]
  induction mealPlan.recipes generalizing state with
  | nil => exact Added.refl state
  | cons recipe rest ih =>
      rw [List.foldl_cons, List.flatMap_cons]
      exact (addRecipeIngredients_added recipe state).trans (ih _)

end MyMealPrep.ShoppingLists
