import MyMealPrep.ShoppingLists.Contents

/-!
# The list and its file over a session

Every operation of the controller saves the list after changing it, and so does a
swipe in the table. Moving a row changes the list and does not save it. So over a
sequence of operations the file agrees with the list after each of them exactly
when every move is a harmless one, over entries that are all equal
(`staysInSync_iff`).
-/

set_option autoImplicit false

namespace MyMealPrep.ShoppingLists

variable {Data : Type} {texts : TextEquality} {coding : Coding Data (List ShoppingList)}
  {state next : State Data}

/-! ## Operations -/

/-- An operation on the shopping list. An entry given to one is an object in memory, in
the list or not. -/
inductive Operation where
  | addItemToShoppingList (item : String)
  | addRecipeIngredients (recipe : Recipe)
  | addMealPlanRecipesIngredients (mealPlan : MealPlan Recipe)
  | deleteItem (item : Ref)
  | clearListItems
  | updateListItem (listItem : Ref) (itemName : String)
  | toggleItemChecked (ingredient : Ref)
  | loadFromPersistence
  | commitDelete (row : Nat)
  | moveRowAt (sourceRow destinationRow : Nat)

/-- Perform an operation. It has no value when a row is out of range. -/
def perform (texts : TextEquality) (coding : Coding Data (List ShoppingList))
    (operation : Operation) (state : State Data) : Option (State Data) :=
  match operation with
  | .addItemToShoppingList item => some (addItemToShoppingList coding item state)
  | .addRecipeIngredients recipe => some (addRecipeIngredients coding recipe state)
  | .addMealPlanRecipesIngredients mealPlan =>
      some (addMealPlanRecipesIngredients coding mealPlan state)
  | .deleteItem item => deleteItem texts coding item state
  | .clearListItems => some (clearListItems coding state)
  | .updateListItem listItem itemName => some (updateListItem coding listItem itemName state)
  | .toggleItemChecked ingredient => some (toggleItemChecked coding ingredient state)
  | .loadFromPersistence => some (loadFromPersistence coding state)
  | .commitDelete row => commitDelete texts coding row state
  | .moveRowAt sourceRow destinationRow => moveRowAt sourceRow destinationRow state

/-- The file agrees with the list after every operation. -/
def StaysInSync (texts : TextEquality) (coding : Coding Data (List ShoppingList)) :
    State Data → List Operation → Prop
  | _, [] => True
  | state, operation :: rest =>
      ∀ next ∈ perform texts coding operation state,
        next.InSync coding ∧ StaysInSync texts coding next rest

/-- A move is harmless when all entries from the one row to the other are equal, in text and
check mark. The other operations are. -/
def Harmless (state : State Data) : Operation → Prop
  | .moveRowAt sourceRow destinationRow =>
      ∀ row, row ≤ max sourceRow destinationRow → min sourceRow destinationRow ≤ row →
        state.contents[row]? = state.contents[sourceRow]?
  | _ => True

/-- Every move is harmless where it is made. -/
def MovesHarmless (texts : TextEquality) (coding : Coding Data (List ShoppingList)) :
    State Data → List Operation → Prop
  | _, [] => True
  | state, operation :: rest =>
      ∀ next ∈ perform texts coding operation state,
        Harmless state operation ∧ MovesHarmless texts coding next rest

/-! ## One operation -/

/-- A move keeps the agreement exactly when it is harmless. -/
theorem moveRowAt_inSync_iff (inSync : state.InSync coding) {sourceRow destinationRow : Nat}
    (performed : moveRowAt sourceRow destinationRow state = some next) :
    next.InSync coding ↔ Harmless state (.moveRowAt sourceRow destinationRow) := by
  obtain ⟨moved, sameFile⟩ := moveRowAt_eq_some performed
  obtain ⟨entry, found, inRange, result⟩ := ListMoves.move_eq_some_iff.mp moved
  calc next.InSync coding
    _ ↔ next.contents = state.contents := by
        rw [State.InSync, sameFile, show _ = some state.contents from inSync, Option.some.injEq,
          eq_comm]
    _ ↔ ∀ row, min sourceRow destinationRow ≤ row → row ≤ max sourceRow destinationRow →
          state.contents[row]? = some entry := by
        rw [← result]
        exact ListMoves.move_eq_self_iff inRange found
    _ ↔ Harmless state (.moveRowAt sourceRow destinationRow) := by
        rw [Harmless, found]
        exact forall_congr' fun row => imp.swap

/-- **One operation keeps the agreement exactly when it is harmless.** -/
theorem perform_inSync_iff (inSync : state.InSync coding) {operation : Operation}
    (performed : perform texts coding operation state = some next) :
    next.InSync coding ↔ Harmless state operation := by
  cases operation with
  | moveRowAt sourceRow destinationRow => exact moveRowAt_inSync_iff inSync performed
  | addItemToShoppingList item =>
      obtain rfl := Option.some.inj performed
      exact iff_of_true (saveToPersistentStorage_inSync _) trivial
  | addRecipeIngredients recipe =>
      obtain rfl := Option.some.inj performed
      exact iff_of_true (addIngredients_keeps_inSync recipe.ingredients inSync) trivial
  | addMealPlanRecipesIngredients mealPlan =>
      obtain rfl := Option.some.inj performed
      rw [addMealPlanRecipesIngredients_eq]
      exact iff_of_true (addIngredients_keeps_inSync _ inSync) trivial
  | deleteItem item => exact iff_of_true (deleteItem_inSync inSync performed) trivial
  | clearListItems =>
      obtain rfl := Option.some.inj performed
      exact iff_of_true (saveToPersistentStorage_inSync _) trivial
  | updateListItem listItem itemName =>
      obtain rfl := Option.some.inj performed
      exact iff_of_true (saveToPersistentStorage_inSync _) trivial
  | toggleItemChecked ingredient =>
      obtain rfl := Option.some.inj performed
      exact iff_of_true (saveToPersistentStorage_inSync _) trivial
  | loadFromPersistence =>
      obtain rfl := Option.some.inj performed
      exact iff_of_true (loadFromPersistence_inSync inSync) trivial
  | commitDelete row =>
      simp only [perform, commitDelete] at performed
      split at performed
      · cases performed
      · exact iff_of_true (deleteItem_inSync inSync performed) trivial

/-! ## A session -/

/-- **The file agrees with the list after every operation exactly when every move is
harmless.** -/
theorem staysInSync_iff (inSync : state.InSync coding) (operations : List Operation) :
    StaysInSync texts coding state operations ↔ MovesHarmless texts coding state operations := by
  induction operations generalizing state with
  | nil => exact Iff.rfl
  | cons operation rest ih =>
      refine forall₂_congr fun next performed => ?_
      rw [← perform_inSync_iff inSync performed]
      exact and_congr_right fun stillInSync => ih stillInSync

/-- A list of entries and its file. -/
def listOf (entries : List ShoppingList) : State Json where
  items := (Heap.allocAll {} entries).1
  listItems := (Heap.allocAll {} entries).2
  file := some (ShoppingList.coding.encode entries)
  listed := fun _ member => Heap.isSome_read_allocAll member

theorem listOf_inSync (entries : List ShoppingList) :
    (listOf entries).InSync ShoppingList.coding := by
  rw [State.InSync, contents_eq_of_map_some (Heap.map_read_allocAll {} entries)]
  exact ShoppingList.coding.decode_encode entries

instance (state : State Data) (operation : Operation) : Decidable (Harmless state operation) := by
  unfold Harmless
  split <;> infer_instance

instance (state : State Data) : Decidable (state.InSync coding) :=
  inferInstanceAs (Decidable (_ = _))

instance decidableMovesHarmless (texts : TextEquality)
    (coding : Coding Data (List ShoppingList)) :
    (state : State Data) → (operations : List Operation) →
      Decidable (MovesHarmless texts coding state operations)
  | _, [] => .isTrue trivial
  | state, operation :: rest =>
      letI := fun next => decidableMovesHarmless texts coding next rest
      inferInstanceAs (Decidable (∀ next ∈ perform texts coding operation state,
        Harmless state operation ∧ MovesHarmless texts coding next rest))

/-- Entries are checked, renamed and moved past an equal one, and the file follows. -/
theorem staysInSync_iff_harmless :
    StaysInSync .codePoints ShoppingList.coding (listOf [{ item := "milk" }])
      [.addItemToShoppingList "eggs", .moveRowAt 0 0, .updateListItem 1 "milk", .moveRowAt 1 0,
        .toggleItemChecked 0, .loadFromPersistence, .commitDelete 1] := by
  refine (staysInSync_iff (listOf_inSync _) _).mpr ?_
  decide

/-- **A move past a different entry is not stored.** -/
theorem moveRowAt_not_stored :
    ¬ ∀ (state : State Json) operations, state.InSync ShoppingList.coding →
      StaysInSync .codePoints ShoppingList.coding state operations := by
  intro stays
  have executed : (moveRowAt 0 1 (listOf [{ item := "milk" }, { item := "eggs" }])).any
      (fun next => decide (¬ next.InSync ShoppingList.coding)) = true := by
    decide
  obtain ⟨next, performed, differs⟩ := (Option.any_eq_true _ _).mp executed
  have inSync := stays _ [.moveRowAt 0 1]
    (listOf_inSync [{ item := "milk" }, { item := "eggs" }]) next performed
  exact of_decide_eq_true differs inSync.1

end MyMealPrep.ShoppingLists
