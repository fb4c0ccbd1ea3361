import MyMealPrep.Collections.ListMoves
import MyMealPrep.Machines.Heap
import MyMealPrep.Models.MealPlan
import MyMealPrep.Models.ShoppingList

/-!
# The shopping list

The list in memory and the file it is kept in, with the functions of
`ShoppingListController` and the callbacks of the table. The entries are objects:
a cell keeps the entry it shows, and editing or checking it changes the object,
whether or not it is in the list.

The file holds data of any kind that a coder makes of the list. It may be missing,
and it may hold data that cannot be decoded.
-/

set_option autoImplicit false

namespace MyMealPrep.ShoppingLists

variable {Data : Type}

/-! ## The list and its file -/

/-- The entries in memory, the list of them and `MyMealPrep.json`. Every entry of the list is
in memory. -/
structure State (Data : Type) where
  items : Heap ShoppingList := {}
  listItems : List Ref := []
  file : Option Data := none
  listed : ∀ ref ∈ listItems, (items.read ref).isSome = true

namespace State

variable {state : State Data}

/-- The list with the entries themselves. -/
def contents (state : State Data) : List ShoppingList :=
  state.listItems.filterMap state.items.read

theorem map_some_contents (state : State Data) :
    state.contents.map some = state.listItems.map state.items.read := by
  have every := state.listed
  rw [contents]
  generalize state.listItems = refs at every
  induction refs with
  | nil => rfl
  | cons ref rest ih =>
      obtain ⟨entry, read⟩ := Option.isSome_iff_exists.mp (every ref List.mem_cons_self)
      rw [List.filterMap_cons_some read, List.map_cons, List.map_cons, read,
        ih fun other member => every other (List.mem_cons_of_mem _ member)]

/-- The file decodes to the list. -/
def InSync (coding : Coding Data (List ShoppingList)) (state : State Data) : Prop :=
  state.file.bind coding.decode = some state.contents

end State

/-! ## Persistence -/

section

variable (texts : TextEquality) (coding : Coding Data (List ShoppingList))

/-- `saveToPersistentStorage` -/
def saveToPersistentStorage (state : State Data) : State Data :=
  { state with file := some (coding.encode state.contents) }

/-- `loadFromPersistence`: new entries, or the old list when there is nothing to decode. -/
def loadFromPersistence (state : State Data) : State Data :=
  match state.file.bind coding.decode with
  | none => state
  | some decodedData =>
      { state with
        items := (state.items.allocAll decodedData).1
        listItems := (state.items.allocAll decodedData).2
        listed := fun _ member => Heap.isSome_read_allocAll member }

/-! ## Changing the list -/

/-- Insert a new entry at the front. -/
def insertItem (item : String) (state : State Data) : State Data :=
  let ingredient := state.items.alloc { item }
  { state with
    items := ingredient.1
    listItems :=
      if !state.listItems.isEmpty then state.listItems.insertIdx 0 ingredient.2
      else state.listItems ++ [ingredient.2]
    listed := by
      intro ref member
      have known : ref = ingredient.2 ∨ ref ∈ state.listItems := by
        split at member
        · exact List.eq_or_mem_of_mem_insertIdx member
        · exact (List.mem_append.mp member).symm.imp_left List.mem_singleton.mp
      rcases known with rfl | old
      · rw [Heap.read_alloc_self]
        rfl
      · obtain ⟨entry, read⟩ := Option.isSome_iff_exists.mp (state.listed ref old)
        rw [Heap.read_alloc_of_read read]
        rfl }

/-- `addItemToShoppingList` -/
def addItemToShoppingList (item : String) (state : State Data) : State Data :=
  saveToPersistentStorage coding (insertItem item state)

/-- `addRecipeIngredients` saves after every ingredient. -/
def addRecipeIngredients (recipe : Recipe) (state : State Data) : State Data :=
  recipe.ingredients.foldl
    (fun state ingredient => saveToPersistentStorage coding (insertItem ingredient state)) state

/-- `addMealPlanRecipesIngredients` -/
def addMealPlanRecipesIngredients (mealPlan : MealPlan Recipe) (state : State Data) : State Data :=
  mealPlan.recipes.foldl (fun state recipe => addRecipeIngredients coding recipe state) state

/-- Remove the entry at a position. -/
def removeItem (index : Nat) (state : State Data) : State Data :=
  { state with
    listItems := state.listItems.eraseIdx index
    listed := fun ref member => state.listed ref (List.mem_of_mem_eraseIdx member) }

/-- `deleteItem` removes the first entry that is equal to the given one, by its text. -/
def deleteItem (item : Ref) (state : State Data) : Option (State Data) :=
  match state.items.read item with
  | none => none
  | some entry =>
      match state.listItems.findIdx? fun other =>
          (state.items.read other).any fun listItem => listItem.equal texts entry with
      | none => some state
      | some index => some (saveToPersistentStorage coding (removeItem index state))

/-- `clearListItems` -/
def clearListItems (state : State Data) : State Data :=
  saveToPersistentStorage coding { state with listItems := [], listed := by simp }

/-- Change an entry in place. -/
def changeItem (ref : Ref) (change : ShoppingList → ShoppingList) (state : State Data) :
    State Data :=
  { state with
    items := state.items.modify ref change
    listed := by
      intro other member
      rw [Heap.read_modify]
      split
      · rw [Option.isSome_map]
        exact state.listed other member
      · exact state.listed other member }

/-- `updateListItem` -/
def updateListItem (listItem : Ref) (itemName : String) (state : State Data) : State Data :=
  saveToPersistentStorage coding
    (changeItem listItem (fun entry => { entry with item := itemName }) state)

/-- `toggleItemChecked` -/
def toggleItemChecked (ingredient : Ref) (state : State Data) : State Data :=
  saveToPersistentStorage coding
    (changeItem ingredient (fun entry => { entry with isChecked := !entry.isChecked }) state)

/-! ## The table -/

/-- `viewDidLoad`, as far as the list goes. -/
def viewDidLoad (state : State Data) : State Data :=
  loadFromPersistence coding state

/-- `tableView(_:commit:forRowAt:)` with a delete. -/
def commitDelete (row : Nat) (state : State Data) : Option (State Data) :=
  match state.listItems[row]? with
  | none => none
  | some listItem => deleteItem texts coding listItem state

/-- `tableView(_:moveRowAt:to:)` takes the entry out and puts it in again, in memory. -/
def moveRowAt (sourceRow destinationRow : Nat) (state : State Data) : Option (State Data) :=
  match moved : ListMoves.move state.listItems sourceRow destinationRow with
  | none => none
  | some listItems =>
      some { state with
        listItems
        listed := fun ref member => state.listed ref (ListMoves.mem_of_mem_move moved member) }

end

end MyMealPrep.ShoppingLists
