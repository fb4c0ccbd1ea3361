import MyMealPrep.ShoppingLists.SwipeDeletes

/-!
# Tapping the edit button twice

A cell of the shopping list shows the text of its entry up to the first comma. The
edit button of a cell switches its text field between two modes, and when it leaves
editing it makes the text of the field the text of the entry and saves the list. So
two taps without typing write what is shown. The entry keeps its text exactly when
it has no comma (`edit_taps_keep_item_iff`), and with it the list and a file that
already had the list (`edit_taps_keep_iff`).
-/

set_option autoImplicit false

namespace MyMealPrep.ShoppingLists

variable {Data : Type}

/-! ## The cell -/

/-- The images of the two buttons of a cell. -/
inductive Image where
  | editButton
  | checkMark
  | checkedBox
  | emptyCheckbox
deriving DecidableEq, Repr

/-- A text field. -/
structure TextField where
  text : Option String := none
  isUserInteractionEnabled : Bool := false
deriving DecidableEq, Repr

/-- A cell of the table, as it comes from the storyboard. -/
structure ShoppingListTableViewCell where
  itemTextField : TextField := {}
  editItemButton : Image := .editButton
  checkboxButton : Image := .emptyCheckbox
  item : Option Ref := none
deriving DecidableEq, Repr

namespace ShoppingListTableViewCell

variable (view : CharacterView)

/-- Show a text, and a check mark. -/
def shows (cell : ShoppingListTableViewCell) (text : String) (isChecked : Bool) :
    ShoppingListTableViewCell :=
  { cell with
    itemTextField := { cell.itemTextField with text := some text }
    checkboxButton := if isChecked then .checkedBox else .emptyCheckbox }

/-- `updateViews` -/
def updateViews (state : State Data) (cell : ShoppingListTableViewCell) :
    ShoppingListTableViewCell :=
  match cell.item.bind state.items.read with
  | none => cell
  | some item =>
      if !view.contains item.item "," then cell.shows item.item item.isChecked
      else
        match view.firstIndex item.item "," with
        | none => cell
        | some endOfItem => cell.shows (view.upTo item.item endOfItem) item.isChecked

/-- `item`, with its `didSet`. -/
def setItem (item : Ref) (state : State Data) (cell : ShoppingListTableViewCell) :
    ShoppingListTableViewCell :=
  updateViews view state { cell with item := some item }

/-- `editItemButtonTapped` -/
def editItemButtonTapped (coding : Coding Data (List ShoppingList))
    (screen : ShoppingListTableViewCell × State Data) : ShoppingListTableViewCell × State Data :=
  let cell := screen.1
  if cell.itemTextField.isUserInteractionEnabled = false then
    ({ cell with
        itemTextField := { cell.itemTextField with isUserInteractionEnabled := true }
        editItemButton := .checkMark }, screen.2)
  else
    match cell.item with
    | none => screen
    | some item =>
        ({ cell with
            itemTextField := { cell.itemTextField with isUserInteractionEnabled := false }
            editItemButton := .editButton },
          updateListItem coding item (cell.itemTextField.text.getD "") screen.2)

end ShoppingListTableViewCell

/-- The list and its file once an entry has been shown in a cell and the edit button has been
tapped twice. -/
def afterEditTaps (view : CharacterView) (coding : Coding Data (List ShoppingList))
    (cell : ShoppingListTableViewCell) (item : Ref) (state : State Data) : State Data :=
  ((ShoppingListTableViewCell.editItemButtonTapped coding)^[2]
    (cell.setItem view item state, state)).2

/-- The text of the entry, the list and the file are what they were. -/
def EditTapsKeep (view : CharacterView) (coding : Coding Data (List ShoppingList))
    (cell : ShoppingListTableViewCell) (item : Ref) (state : State Data) : Prop :=
  ((afterEditTaps view coding cell item state).items.read item).map ShoppingList.item =
      (state.items.read item).map ShoppingList.item ∧
    (afterEditTaps view coding cell item state).contents = state.contents ∧
    (afterEditTaps view coding cell item state).file = state.file

/-! ## What the taps write -/

section

variable {view : CharacterView} {coding : Coding Data (List ShoppingList)}
  {cell : ShoppingListTableViewCell} {item : Ref} {state : State Data} {entry : ShoppingList}

/-- What a cell shows of a text. -/
def shownText (view : CharacterView) (text : String) : String :=
  ((view.firstIndex text ",").map (view.upTo text)).getD text

theorem shownText_eq_iff (view : CharacterView) (text : String) :
    shownText view text = text ↔ "," ∉ view.characters text := by
  rw [shownText, ← List.contains_iff_mem]
  change _ ↔ ¬ view.contains text "," = true
  rw [CharacterView.contains_eq_isSome]
  cases found : view.firstIndex text "," with
  | none => exact iff_of_true rfl Bool.false_ne_true
  | some index =>
      exact iff_of_false (CharacterView.upTo_ne (by decide) found) (not_not_intro rfl)

theorem setItem_eq (read : state.items.read item = some entry) :
    cell.setItem view item state =
      ShoppingListTableViewCell.shows { cell with item := some item }
        (shownText view entry.item) entry.isChecked := by
  have reads : (some item).bind state.items.read = some entry := read
  simp only [ShoppingListTableViewCell.setItem, ShoppingListTableViewCell.updateViews, reads,
    shownText, CharacterView.contains_eq_isSome]
  cases view.firstIndex entry.item "," with
  | none => rfl
  | some index => rfl

/-- In either mode, one of two taps writes what is shown. -/
theorem afterEditTaps_eq (coding : Coding Data (List ShoppingList))
    (cell : ShoppingListTableViewCell) (read : state.items.read item = some entry) :
    afterEditTaps view coding cell item state =
      updateListItem coding item (shownText view entry.item) state := by
  rw [afterEditTaps, setItem_eq read]
  cases mode : cell.itemTextField.isUserInteractionEnabled with
  | false | true =>
      simp [ShoppingListTableViewCell.editItemButtonTapped, ShoppingListTableViewCell.shows, mode]

theorem changeItem_self (read : state.items.read item = some entry) :
    changeItem item (fun other => { other with item := entry.item }) state = state := by
  have same : state.items.modify item (fun other => { other with item := entry.item }) =
      state.items := by
    refine congrArg Heap.mk (List.ext_getElem? fun ref => ?_)
    rw [List.getElem?_modify]
    split
    · rename_i here
      rw [← here, show state.items.objects[item]? = some entry from read]
      rfl
    · exact Option.map_id_apply
  cases state
  simp_all [changeItem]

/-- **Two taps keep the text of an entry exactly when it has no comma.** -/
theorem edit_taps_keep_item_iff (read : state.items.read item = some entry) :
    ((afterEditTaps view coding cell item state).items.read item).map ShoppingList.item =
        some entry.item ↔ "," ∉ view.characters entry.item := by
  have written : (afterEditTaps view coding cell item state).items.read item =
      some { entry with item := shownText view entry.item } := by
    rw [afterEditTaps_eq coding cell read]
    simp [updateListItem, saveToPersistentStorage, changeItem, Heap.read_modify, read]
  rw [written, Option.map_some, Option.some.injEq, shownText_eq_iff]

/-- **Two taps leave everything exactly when the entry has no comma** and the file already has
the list. -/
theorem edit_taps_keep_iff (read : state.items.read item = some entry) :
    EditTapsKeep view coding cell item state ↔
      "," ∉ view.characters entry.item ∧ state.file = some (coding.encode state.contents) := by
  rw [EditTapsKeep, read, Option.map_some, edit_taps_keep_item_iff read]
  refine and_congr_right fun absent => ?_
  have saves : afterEditTaps view coding cell item state =
      saveToPersistentStorage coding state := by
    rw [afterEditTaps_eq coding cell read, updateListItem, (shownText_eq_iff view _).mpr absent,
      changeItem_self read]
  rw [saves, contents_saveToPersistentStorage, eq_self, true_and]
  exact eq_comm

end

/-! ## Salt and pepper -/

/-- A stored list with one entry. -/
def seasoning (item : String) : State (List ShoppingList) where
  items := ⟨[{ item }]⟩
  listItems := [0]
  file := some [{ item }]
  listed := by simp [Heap.read]

/-- An entry without a comma stays. -/
theorem edit_taps_keep_salt : EditTapsKeep codePoints plainCoding {} 0 (seasoning "salt") := by
  have read : (seasoning "salt").items.read 0 = some { item := "salt" } := rfl
  exact (edit_taps_keep_iff read).mpr ⟨by decide, rfl⟩

/-- **Two taps cut an entry with a comma.** -/
theorem edit_taps_cut :
    ¬ ∀ (cell : ShoppingListTableViewCell) (item : Ref) (state : State (List ShoppingList)),
      state.items.read item ≠ none → state.InSync plainCoding →
        EditTapsKeep codePoints plainCoding cell item state := by
  intro keep
  have kept := (keep {} 0 (seasoning "salt, pepper") (by decide) rfl).1
  revert kept
  decide

end MyMealPrep.ShoppingLists
