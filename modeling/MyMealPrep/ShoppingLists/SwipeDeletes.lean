import MyMealPrep.ShoppingLists.Contents

/-!
# Which entry a swipe deletes

A swipe turns its row into the entry there, and `deleteItem` looks that entry up again
with an equality that compares the text twice and the check mark never. So it removes
the first entry whose text is equal to that of the row, and the list comes out as if
the row had been removed exactly when all entries from that first one to the row are
the same, in spelling and check mark (`swipe_removes_row_iff`).
-/

set_option autoImplicit false

namespace MyMealPrep.ShoppingLists

variable {Data : Type} {texts : TextEquality} {coding : Coding Data (List ShoppingList)}
  {state : State Data}

/-- Swiping a row does not trap and leaves the list without the entry of the row. -/
def RemovesRow (texts : TextEquality) (coding : Coding Data (List ShoppingList))
    (state : State Data) (row : Nat) : Prop :=
  ∃ next, commitDelete texts coding row state = some next ∧
    next.contents = state.contents.eraseIdx row

/-- Swiping any row of any list removes the entry of the row. -/
def SwipesRemoveRows (texts : TextEquality) (coding : Coding Data (List ShoppingList)) : Prop :=
  ∀ (state : State Data) (row : Nat), row < state.contents.length →
    RemovesRow texts coding state row

theorem equal_iff (lhs rhs : ShoppingList) :
    lhs.equal texts rhs = true ↔ texts.equal lhs.item rhs.item = true := by
  simp [ShoppingList.equal]

theorem read_listItems {row : Nat} {entry : ShoppingList}
    (found : state.contents[row]? = some entry) :
    ∃ ref, state.listItems[row]? = some ref ∧ state.items.read ref = some entry := by
  have both := congrArg (fun entries => entries[row]?) state.map_some_contents
  simp only [List.getElem?_map, found, Option.map_some] at both
  exact Option.map_eq_some_iff.mp both.symm

theorem read_row {row : Nat} {item : Ref}
    (listed : state.listItems[row]? = some item) :
    ∃ entry, state.items.read item = some entry ∧ state.contents[row]? = some entry := by
  obtain ⟨entry, read⟩ := Option.isSome_iff_exists.mp
    (state.listed item (List.mem_of_getElem? listed))
  have both := congrArg (fun entries => entries[row]?) state.map_some_contents
  simp only [List.getElem?_map, listed, Option.map_some, read] at both
  obtain ⟨other, found, same⟩ := Option.map_eq_some_iff.mp both
  obtain rfl := Option.some.inj same
  exact ⟨other, read, found⟩

/-- The first entry that is equal is looked up among the entries. -/
theorem findIdx?_listItems (entry : ShoppingList) :
    (state.listItems.findIdx? fun other =>
        (state.items.read other).any fun listItem => listItem.equal texts entry) =
      state.contents.findIdx? fun listItem => listItem.equal texts entry := by
  have looksUp := List.findIdx?_map (f := state.items.read)
    (p := fun read => read.any fun listItem => listItem.equal texts entry) (l := state.listItems)
  rw [← state.map_some_contents, List.findIdx?_map] at looksUp
  exact looksUp.symm

theorem contents_removeItem (index : Nat) (state : State Data) :
    (removeItem index state).contents = state.contents.eraseIdx index := by
  refine contents_eq_of_map_some ?_
  rw [removeItem, ← List.eraseIdx_map, ← state.map_some_contents, List.eraseIdx_map]

/-- A swipe removes the first entry whose text is equal to that of its row. -/
theorem commitDelete_eq (texts : TextEquality) (coding : Coding Data (List ShoppingList))
    {row : Nat} {entry : ShoppingList} (found : state.contents[row]? = some entry) :
    ∃ first next, commitDelete texts coding row state = some next ∧
      next.contents = state.contents.eraseIdx first ∧ first ≤ row ∧
      (∃ other, state.contents[first]? = some other ∧
        texts.equal other.item entry.item = true) ∧
      ∀ index < first, ∀ other, state.contents[index]? = some other →
        ¬ texts.equal other.item entry.item = true := by
  obtain ⟨ref, inList, read⟩ := read_listItems found
  obtain ⟨inRange, here⟩ := List.getElem?_eq_some_iff.mp found
  have equal : (state.contents.findIdx? fun listItem =>
      listItem.equal texts entry).isSome = true := by
    rw [List.findIdx?_isSome, List.any_eq_true]
    exact ⟨entry, List.mem_of_getElem? found, (equal_iff entry entry).mpr (by simp)⟩
  obtain ⟨first, looked⟩ := Option.isSome_iff_exists.mp equal
  obtain ⟨firstInRange, same, earlier⟩ := List.findIdx?_eq_some_iff_getElem.mp looked
  have deletes : commitDelete texts coding row state =
      some (saveToPersistentStorage coding (removeItem first state)) := by
    rw [commitDelete, inList]
    simp only [deleteItem, read, findIdx?_listItems, looked]
  refine ⟨first, _, deletes, contents_removeItem first state, ?_, ?_, ?_⟩
  · by_contra later
    exact earlier row (by omega) ((equal_iff _ _).mpr (by simp [here]))
  · exact ⟨_, List.getElem?_eq_getElem firstInRange, (equal_iff _ _).mp same⟩
  · intro index before other otherFound sameText
    obtain ⟨_, rfl⟩ := List.getElem?_eq_some_iff.mp otherFound
    exact earlier index before ((equal_iff _ _).mpr sameText)

/-- **A swipe removes its row exactly when every entry up to the row is the same as the row's,
from the first one with an equal text on.** -/
theorem swipe_removes_row_iff {row : Nat} {entry : ShoppingList}
    (found : state.contents[row]? = some entry) :
    RemovesRow texts coding state row ↔
      ∀ first other, state.contents[first]? = some other →
        texts.equal other.item entry.item = true →
          ∀ index, first ≤ index → index ≤ row → state.contents[index]? = some entry := by
  have inRange := (List.getElem?_eq_some_iff.mp found).1
  obtain ⟨first, next, deletes, contents, ordered, ⟨other, firstFound, sameText⟩, earlier⟩ :=
    commitDelete_eq texts coding found
  have sameList := ListMoves.eraseIdx_eq_eraseIdx_iff ordered inRange
  rw [found] at sameList
  have removes : RemovesRow texts coding state row ↔
      state.contents.eraseIdx first = state.contents.eraseIdx row := by
    simp [RemovesRow, deletes, contents]
  rw [removes, sameList]
  constructor
  · intro equal start another startFound sameAsRow index lower upper
    have notBefore : first ≤ start :=
      Nat.le_of_not_lt fun before => earlier start before another startFound sameAsRow
    exact equal index (Nat.le_trans notBefore lower) upper
  · exact fun equal index lower upper => equal first other firstFound sameText index lower upper

/-! ## Milk twice -/

/-- A list with the same text twice, the first one checked. -/
def milkTwice : State (List ShoppingList) where
  items := ⟨[{ item := "milk", isChecked := true }, { item := "milk" }]⟩
  listItems := [0, 1]
  listed := by decide

/-- A file that keeps the entries as they are. -/
def plainCoding : Coding (List ShoppingList) (List ShoppingList) where
  encode := id
  decode := some
  decode_encode _ := rfl

/-- The first of two entries is removed. -/
theorem swipe_removes_row_iff_first : RemovesRow .codePoints plainCoding milkTwice 0 := by
  have found : milkTwice.contents[0]? = some { item := "milk", isChecked := true } := rfl
  refine (swipe_removes_row_iff found).mpr ?_
  intro first other _ _ index _ upper
  obtain rfl := Nat.le_zero.mp upper
  rfl

/-- **Swiping the second entry removes the checked one.** -/
theorem swipe_removes_checked : ¬ SwipesRemoveRows .codePoints plainCoding := by
  intro removes
  obtain ⟨next, performed, contents⟩ := removes milkTwice 1 (by decide)
  obtain rfl := Option.some.inj performed
  exact absurd contents (by decide)

/-- A list with two spellings of one text, the first one checked. -/
def coffeeTwice : State (List ShoppingList) where
  items := ⟨[{ item := "café", isChecked := true }, { item := "cafe\u0301" }]⟩
  listItems := [0, 1]
  listed := by decide

example : ¬ RemovesRow .accents plainCoding coffeeTwice 1 := by
  rintro ⟨next, performed, contents⟩
  obtain rfl := Option.some.inj performed
  exact absurd contents (by decide)

end MyMealPrep.ShoppingLists
