import MyMealPrep.ShoppingLists.System

/-!
# What the operations make of the list

One lemma for each operation says what it makes of the contents of the list, and
which operations leave the file in agreement with them. Adding puts each new entry
in front of the list, so the ingredients of a recipe come out reversed.
-/

set_option autoImplicit false

namespace MyMealPrep.ShoppingLists

variable {Data : Type} {coding : Coding Data (List ShoppingList)} {state next : State Data}

/-! ## Contents -/

/-- Lists of entries that read the same have the same contents. -/
theorem contents_eq_of_map_some {entries : List ShoppingList}
    (read : state.listItems.map state.items.read = entries.map some) : state.contents = entries :=
  List.map_injective_iff.mpr (fun _ _ => Option.some.inj) (state.map_some_contents.trans read)

@[simp] theorem contents_saveToPersistentStorage (state : State Data) :
    (saveToPersistentStorage coding state).contents = state.contents := rfl

/-- A loaded list has the entries of the file. -/
theorem contents_loadFromPersistence {decodedData : List ShoppingList}
    (decoded : state.file.bind coding.decode = some decodedData) :
    (loadFromPersistence coding state).contents = decodedData := by
  refine contents_eq_of_map_some ?_
  simp only [loadFromPersistence]
  split
  · rename_i missing
    rw [decoded] at missing
    cases missing
  · rename_i entries found
    obtain rfl := Option.some.inj (decoded.symm.trans found)
    exact Heap.map_read_allocAll state.items decodedData

theorem loadFromPersistence_file (state : State Data) :
    (loadFromPersistence coding state).file = state.file := by
  simp only [loadFromPersistence]
  split <;> rfl

theorem contents_insertItem (item : String) (state : State Data) :
    (insertItem item state).contents = { item } :: state.contents := by
  refine contents_eq_of_map_some ?_
  have first : (insertItem item state).listItems =
      (state.items.alloc { item }).2 :: state.listItems := by
    cases entries : state.listItems with
    | nil => simp [insertItem, entries]
    | cons ref rest => simp [insertItem, entries]
  rw [first, List.map_cons, List.map_cons, state.map_some_contents]
  refine congrArg₂ List.cons (Heap.read_alloc_self _ _) (List.map_congr_left fun ref member => ?_)
  obtain ⟨entry, read⟩ := Option.isSome_iff_exists.mp (state.listed ref member)
  rw [read]
  exact Heap.read_alloc_of_read read _

/-- The entries of ingredients added one after another: the last one comes first. -/
def addedEntries (ingredients : List String) : List ShoppingList :=
  (ingredients.map fun item => { item }).reverse

theorem addedEntries_cons (ingredient : String) (rest : List String) :
    addedEntries (ingredient :: rest) = addedEntries rest ++ [{ item := ingredient }] := by
  rw [addedEntries, List.map_cons, List.reverse_cons, addedEntries]

/-- The ingredients added come before the list. -/
theorem contents_addIngredients (ingredients : List String) (state : State Data) :
    (ingredients.foldl (fun state ingredient =>
        saveToPersistentStorage coding (insertItem ingredient state)) state).contents =
      addedEntries ingredients ++ state.contents := by
  induction ingredients generalizing state with
  | nil => rfl
  | cons ingredient rest ih =>
      rw [List.foldl_cons, ih, contents_saveToPersistentStorage, contents_insertItem,
        addedEntries_cons, List.append_assoc, List.singleton_append]

/-- Adding a plan adds the ingredients of its recipes one after another. -/
theorem addMealPlanRecipesIngredients_eq (mealPlan : MealPlan Recipe) (state : State Data) :
    addMealPlanRecipesIngredients coding mealPlan state =
      (mealPlan.recipes.flatMap Recipe.ingredients).foldl (fun state ingredient =>
        saveToPersistentStorage coding (insertItem ingredient state)) state := by
  rw [addMealPlanRecipesIngredients, List.foldl_flatMap]
  rfl

/-- A move in the table moves the entries of the list, and leaves the file. -/
theorem moveRowAt_eq_some {sourceRow destinationRow : Nat}
    (performed : moveRowAt sourceRow destinationRow state = some next) :
    ListMoves.move state.contents sourceRow destinationRow = some next.contents ∧
      next.file = state.file := by
  simp only [moveRowAt] at performed
  split at performed
  · cases performed
  · rename_i listItems moved
    obtain rfl := Option.some.inj performed
    refine ⟨?_, rfl⟩
    have entries := ListMoves.move_map state.items.read state.listItems sourceRow destinationRow
    rw [moved, ← state.map_some_contents, ListMoves.move_map, Option.map_some] at entries
    obtain ⟨result, found, same⟩ := Option.map_eq_some_iff.mp entries
    rw [found, contents_eq_of_map_some same.symm]

/-! ## Agreement with the file -/

theorem saveToPersistentStorage_inSync (state : State Data) :
    (saveToPersistentStorage coding state).InSync coding :=
  coding.decode_encode _

theorem loadFromPersistence_inSync (inSync : state.InSync coding) :
    (loadFromPersistence coding state).InSync coding := by
  rw [State.InSync, contents_loadFromPersistence inSync, loadFromPersistence_file]
  exact inSync

/-- Adding any ingredient makes the file agree, and adding none leaves the state. -/
theorem addIngredients_inSync (coding : Coding Data (List ShoppingList))
    (ingredients : List String) (state : State Data) :
    ingredients = [] ∨ (ingredients.foldl (fun state ingredient =>
      saveToPersistentStorage coding (insertItem ingredient state)) state).InSync coding := by
  induction ingredients generalizing state with
  | nil => exact .inl rfl
  | cons ingredient rest ih =>
      refine .inr ?_
      rw [List.foldl_cons]
      rcases ih (saveToPersistentStorage coding (insertItem ingredient state)) with rfl | inSync
      · exact saveToPersistentStorage_inSync _
      · exact inSync

theorem addIngredients_keeps_inSync (ingredients : List String) (inSync : state.InSync coding) :
    (ingredients.foldl (fun state ingredient =>
      saveToPersistentStorage coding (insertItem ingredient state)) state).InSync coding := by
  rcases addIngredients_inSync coding ingredients state with rfl | saved
  · exact inSync
  · exact saved

theorem deleteItem_inSync {texts : TextEquality} {item : Ref} (inSync : state.InSync coding)
    (performed : deleteItem texts coding item state = some next) : next.InSync coding := by
  simp only [deleteItem] at performed
  split at performed
  · cases performed
  · split at performed
    · obtain rfl := Option.some.inj performed
      exact inSync
    · obtain rfl := Option.some.inj performed
      exact saveToPersistentStorage_inSync _

end MyMealPrep.ShoppingLists
