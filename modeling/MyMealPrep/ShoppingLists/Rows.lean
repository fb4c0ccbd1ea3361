import MyMealPrep.ShoppingLists.EditTaps
import MyMealPrep.ShoppingLists.Relaunches

/-!
# The rows of the shopping list

A row of the table has a cell while it is displayed, and the cell keeps the entry that
it was given. The check box and the edit button of a cell act on that entry, so that
they act on the list only while the cell of a row has the entry of the row.

A swipe takes its row out of the table and the first entry with the text of the row out
of the list. Every cell between the two is then left with the entry of another row, or
with the one removed, and what is checked or typed there goes to the wrong entry or to
none. Nothing else that happens to the table or to the list does this, so the rows show
the list all the time exactly when no swipe passes a displayed row on the way to its
text (`rows_show_iff`).
-/

set_option autoImplicit false

namespace MyMealPrep.ShoppingLists.Rows

variable {Data : Type}

/-! ## The table -/

/-- The list with its file, and the rows of the table, with a cell for each one displayed. -/
structure Screen (Data : Type) where
  state : State Data
  cells : List (Option ShoppingListTableViewCell)

/-- What the table and the user do. The cells dequeued are reused ones, in any state. -/
inductive Event where
  | viewWillAppear (meanwhile : List Operation) (dequeued : Nat → Option ShoppingListTableViewCell)
  | cellForRowAt (row : Nat) (dequeued : ShoppingListTableViewCell)
  | didEndDisplaying (row : Nat)
  | addListItemButtonTapped (text : Option String)
      (dequeued : Nat → Option ShoppingListTableViewCell)
  | clearListTapped
  | checkBoxButtonTapped (row : Nat)
  | editItemButtonTapped (row : Nat)
  | editText (row : Nat) (text : String)
  | commitDelete (row : Nat)
  | moveRowAt (sourceRow destinationRow : Nat)

section

variable (texts : TextEquality) (view : CharacterView) (coding : Coding Data (List ShoppingList))

/-- What other screens do to the list, one operation after another. -/
def performAll (operations : List Operation) (state : State Data) : Option (State Data) :=
  operations.foldlM (fun state operation => perform texts coding operation state) state

/-- `reloadData`: `numberOfRowsInSection`, and `cellForRowAt` for the rows displayed. -/
def reloadData (dequeued : Nat → Option ShoppingListTableViewCell) (state : State Data) :
    Screen Data where
  state
  cells := state.listItems.mapIdx fun row item =>
    (dequeued row).map fun cell => cell.setItem view item state

/-- `tableView(_:cellForRowAt:)` -/
def cellForRowAt (row : Nat) (dequeued : ShoppingListTableViewCell) (screen : Screen Data) :
    Option (Screen Data) :=
  match screen.state.listItems[row]? with
  | none => none
  | some item =>
      some { screen with
        cells := screen.cells.set row (some (dequeued.setItem view item screen.state)) }

/-- What happens in the cell of a row. There has to be one. -/
def onCell (row : Nat) (screen : Screen Data)
    (body : ShoppingListTableViewCell × State Data →
      Option ShoppingListTableViewCell × State Data) :
    Option (Screen Data) :=
  match screen.cells[row]? with
  | some (some cell) =>
      some { state := (body (cell, screen.state)).2
             cells := screen.cells.set row (body (cell, screen.state)).1 }
  | _ => none

/-- `checkBoxButtonTapped` has the screen toggle the entry, and update the cell. -/
def checkBoxButtonTapped (screen : ShoppingListTableViewCell × State Data) :
    ShoppingListTableViewCell × State Data :=
  match screen.1.item with
  | none => screen
  | some item =>
      let state := toggleItemChecked coding item screen.2
      (screen.1.updateViews view state, state)

/-- Typing in the text field of a cell, in the mode that takes it. -/
def editText (text : String) (screen : ShoppingListTableViewCell × State Data) :
    ShoppingListTableViewCell × State Data :=
  let cell := screen.1
  if cell.itemTextField.isUserInteractionEnabled then
    ({ cell with itemTextField := { cell.itemTextField with text := some text } }, screen.2)
  else screen

/-- `tableView(_:commit:forRowAt:)`. `deleteRows` traps unless the list has one entry less
than the table had rows. -/
def commitDelete (row : Nat) (screen : Screen Data) : Option (Screen Data) :=
  match ShoppingLists.commitDelete texts coding row screen.state with
  | none => none
  | some state =>
      if state.listItems.length + 1 = screen.cells.length then
        some { state, cells := screen.cells.eraseIdx row }
      else none

/-- `tableView(_:moveRowAt:to:)`, where the table has moved the row. -/
def moveRowAt (sourceRow destinationRow : Nat) (screen : Screen Data) : Option (Screen Data) :=
  match ShoppingLists.moveRowAt sourceRow destinationRow screen.state with
  | none => none
  | some state =>
      (ListMoves.move screen.cells sourceRow destinationRow).map fun cells => { state, cells }

/-- What an event makes of the screen. -/
def handle (event : Event) (screen : Screen Data) : Option (Screen Data) :=
  match event with
  | .viewWillAppear meanwhile dequeued =>
      (performAll texts coding meanwhile screen.state).map (reloadData view dequeued)
  | .cellForRowAt row dequeued => cellForRowAt view row dequeued screen
  | .didEndDisplaying row => onCell row screen fun shown => (none, shown.2)
  | .addListItemButtonTapped text dequeued =>
      some (reloadData view dequeued (addItemToShoppingList coding (text.getD "") screen.state))
  | .clearListTapped => some (reloadData view (fun _ => none) (clearListItems coding screen.state))
  | .checkBoxButtonTapped row =>
      onCell row screen fun shown => (checkBoxButtonTapped view coding shown).map some id
  | .editItemButtonTapped row =>
      onCell row screen fun shown =>
        (ShoppingListTableViewCell.editItemButtonTapped coding shown).map some id
  | .editText row text =>
      onCell row screen fun shown => (editText text shown).map some id
  | .commitDelete row => commitDelete texts coding row screen
  | .moveRowAt sourceRow destinationRow => moveRowAt sourceRow destinationRow screen

end

/-- The screen of a process that has just been started. -/
def launched (file : Option Data) : Screen Data where
  state := .unloaded file
  cells := []

/-! ## The property -/

/-- A cell shows an entry: its buttons act on it, its check box is that of the entry, and unless
it is being edited, its text is that of the entry, to the comma or whole. -/
structure Shows (view : CharacterView) (items : Heap ShoppingList)
    (cell : ShoppingListTableViewCell) (item : Ref) : Prop where
  given : cell.item = some item
  checkbox : ∀ entry ∈ items.read item,
    cell.checkboxButton = if entry.isChecked then .checkedBox else .emptyCheckbox
  text : cell.itemTextField.isUserInteractionEnabled = false → ∀ entry ∈ items.read item,
    cell.itemTextField.text.getD "" = shownText view entry.item ∨
      cell.itemTextField.text.getD "" = entry.item

/-- The table has a row for each entry of the list, no entry has two rows, and the cell of a row
shows its entry. -/
structure RowsShow (view : CharacterView) (screen : Screen Data) : Prop where
  once : screen.state.listItems.Nodup
  length : screen.cells.length = screen.state.listItems.length
  shows : ∀ (row : Nat) (cell : ShoppingListTableViewCell), screen.cells[row]? = some (some cell) →
    ∃ item, screen.state.listItems[row]? = some item ∧ Shows view screen.state.items cell item

/-- A row is displayed. -/
def IsDisplayed (screen : Screen Data) (row : Nat) : Prop :=
  ∃ cell, screen.cells[row]? = some (some cell)

/-- No row that a swipe passes is displayed: none above its own, from the first one with a text
equal to its own on. Other events are harmless. -/
def HarmlessSwipe (texts : TextEquality) (screen : Screen Data) : Event → Prop
  | .commitDelete row => ∀ entry first other, screen.state.contents[row]? = some entry →
      screen.state.contents[first]? = some other → texts.equal other.item entry.item = true →
        ∀ passed, first ≤ passed → passed < row → ¬ IsDisplayed screen passed
  | _ => True

/-! ## Cells -/

section

variable {view : CharacterView} {coding : Coding Data (List ShoppingList)}
  {state next : State Data} {cell : ShoppingListTableViewCell} {item : Ref}

theorem Shows.congr (shows : Shows view state.items cell item)
    (same : next.items.read item = state.items.read item) : Shows view next.items cell item where
  given := shows.given
  checkbox := by
    rw [same]
    exact shows.checkbox
  text := by
    rw [same]
    exact shows.text

theorem shows_setItem (cell : ShoppingListTableViewCell)
    (readable : (state.items.read item).isSome = true) :
    Shows view state.items (cell.setItem view item state) item := by
  obtain ⟨entry, read⟩ := Option.isSome_iff_exists.mp readable
  rw [setItem_eq read]
  refine ⟨rfl, fun other found => ?_, fun _ other found => .inl ?_⟩
  · obtain rfl := Option.some.inj (read.symm.trans found)
    rfl
  · obtain rfl := Option.some.inj (read.symm.trans found)
    rfl

/-- What is done in a cell changes no entry but its own, and the cell shows that one then. -/
structure ActsOn (view : CharacterView) (state : State Data) (item : Ref)
    (shown : ShoppingListTableViewCell × State Data) : Prop where
  sameList : shown.2.listItems = state.listItems
  others : ∀ other, other ≠ item → shown.2.items.read other = state.items.read other
  here : Shows view shown.2.items shown.1 item

theorem actsOn_changeItem (change : ShoppingList → ShoppingList)
    (here : Shows view (changeItem item change state).items cell item) :
    ActsOn view state item
      (cell, saveToPersistentStorage coding (changeItem item change state)) where
  sameList := rfl
  others := by
    intro other different
    exact (Heap.read_modify state.items item other change).trans (if_neg different.symm)
  here := here

/-- A tap on the check box toggles the entry of the cell, which shows it as it is then. -/
theorem actsOn_checkBoxButtonTapped (shows : Shows view state.items cell item)
    (readable : (state.items.read item).isSome = true) :
    ActsOn view state item (checkBoxButtonTapped view coding (cell, state)) := by
  have updated : checkBoxButtonTapped view coding (cell, state) =
      (cell.setItem view item (toggleItemChecked coding item state),
        toggleItemChecked coding item state) := by
    have unchanged : { cell with item := some item } = cell := by rw [← shows.given]
    simp only [checkBoxButtonTapped, shows.given, ShoppingListTableViewCell.setItem, unchanged]
  rw [updated]
  refine actsOn_changeItem _ (shows_setItem cell ?_)
  exact (Heap.isSome_read_modify state.items item item _).trans readable

/-- A tap on the edit button leaves the entry of the cell, or gives it the text of the cell. -/
theorem actsOn_editItemButtonTapped (shows : Shows view state.items cell item) :
    ActsOn view state item
      (ShoppingListTableViewCell.editItemButtonTapped coding (cell, state)) := by
  cases mode : cell.itemTextField.isUserInteractionEnabled with
  | false =>
      simp only [ShoppingListTableViewCell.editItemButtonTapped, mode, if_true]
      exact ⟨rfl, fun _ _ => rfl, shows.given, shows.checkbox, fun off => by cases off⟩
  | true =>
      simp only [ShoppingListTableViewCell.editItemButtonTapped, mode, shows.given,
        Bool.true_eq_false, if_false]
      have named : ∀ entry ∈ (state.items.modify item fun entry =>
          { entry with item := cell.itemTextField.text.getD "" }).read item,
          ∃ before, state.items.read item = some before ∧
            { before with item := cell.itemTextField.text.getD "" } = entry := by
        intro entry found
        have changed := (Heap.read_modify state.items item item _).symm.trans found
        rw [if_pos rfl] at changed
        exact Option.map_eq_some_iff.mp changed
      refine actsOn_changeItem _ ⟨rfl, fun entry found => ?_, fun _ entry found => ?_⟩
      · obtain ⟨before, read, rfl⟩ := named entry found
        exact shows.checkbox before read
      · obtain ⟨before, read, rfl⟩ := named entry found
        exact .inr rfl

theorem actsOn_editText (shows : Shows view state.items cell item) (text : String) :
    ActsOn view state item (editText text (cell, state)) := by
  cases mode : cell.itemTextField.isUserInteractionEnabled with
  | false =>
      simp only [editText, mode, Bool.false_eq_true, if_false]
      exact ⟨rfl, fun _ _ => rfl, shows⟩
  | true =>
      simp only [editText, mode, if_true]
      exact ⟨rfl, fun _ _ => rfl, shows.given, shows.checkbox, fun off => by cases off⟩

end

/-! ## The table and the list -/

section

variable {texts : TextEquality} {view : CharacterView}
  {coding : Coding Data (List ShoppingList)} {screen next : Screen Data}

theorem rowsShow_reloadData (dequeued : Nat → Option ShoppingListTableViewCell)
    {state : State Data} (once : state.listItems.Nodup) :
    RowsShow view (reloadData view dequeued state) where
  once := once
  length := List.length_mapIdx
  shows := by
    intro row cell found
    rw [reloadData, List.getElem?_mapIdx] at found
    obtain ⟨item, listed, same⟩ := Option.map_eq_some_iff.mp found
    obtain ⟨reused, -, rfl⟩ := Option.map_eq_some_iff.mp same
    exact ⟨item, listed, shows_setItem reused (state.listed item (List.mem_of_getElem? listed))⟩

/-- The entry of one row changes, and its cell shows it as it is then. -/
theorem RowsShow.set (shows : RowsShow view screen) {row : Nat} {item : Ref}
    (listed : screen.state.listItems[row]? = some item) {state : State Data}
    (sameList : state.listItems = screen.state.listItems)
    (others : ∀ other, other ≠ item → state.items.read other = screen.state.items.read other)
    {changed : Option ShoppingListTableViewCell}
    (here : ∀ cell ∈ changed, Shows view state.items cell item) :
    RowsShow view { state, cells := screen.cells.set row changed } where
  once := by
    rw [sameList]
    exact shows.once
  length := by
    rw [List.length_set, shows.length, sameList]
  shows := by
    intro index cell found
    simp only [sameList]
    rw [List.getElem?_set] at found
    split at found
    · rename_i same
      obtain ⟨-, placed⟩ := Option.ite_none_right_eq_some.mp found
      rw [← same]
      exact ⟨item, listed, here cell (Option.some.inj placed)⟩
    · rename_i elsewhere
      obtain ⟨other, otherListed, shown⟩ := shows.shows index cell found
      refine ⟨other, otherListed, shown.congr (others other fun same => elsewhere ?_)⟩
      exact (List.getElem?_inj (List.getElem?_eq_some_iff.mp listed).1 shows.once).mp
        (listed.trans (same ▸ otherListed.symm))

theorem RowsShow.inCell (shows : RowsShow view screen) {row : Nat}
    {body : ShoppingListTableViewCell × State Data → ShoppingListTableViewCell × State Data}
    (acts : ∀ cell item, Shows view screen.state.items cell item →
      (screen.state.items.read item).isSome = true →
        ActsOn view screen.state item (body (cell, screen.state)))
    (handled : onCell row screen (fun shown => (body shown).map some id) = some next) :
    RowsShow view next := by
  rw [onCell] at handled
  split at handled
  · rename_i cell displayed
    obtain ⟨item, listed, shown⟩ := shows.shows row cell displayed
    obtain ⟨sameList, others, here⟩ := acts cell item shown
      (screen.state.listed item (List.mem_of_getElem? listed))
    obtain rfl := Option.some.inj handled
    refine shows.set listed sameList others ?_
    rintro _ ⟨⟩
    exact here
  · cases handled

/-- Moving a row moves its cell and its entry. -/
theorem RowsShow.move (shows : RowsShow view screen) {sourceRow destinationRow : Nat}
    (handled : moveRowAt sourceRow destinationRow screen = some next) : RowsShow view next := by
  simp only [moveRowAt, ShoppingLists.moveRowAt] at handled
  split at handled
  · cases handled
  · rename_i state moved
    split at moved
    · cases moved
    · rename_i listItems movedItems
      obtain rfl := Option.some.inj moved
      obtain ⟨cells, movedCells, rfl⟩ := Option.map_eq_some_iff.mp handled
      obtain ⟨item, listed, inRange, rfl⟩ := ListMoves.move_eq_some_iff.mp movedItems
      obtain ⟨shown, displayed, inTable, rfl⟩ := ListMoves.move_eq_some_iff.mp movedCells
      refine ⟨?_, ?_, fun index cell found => ?_⟩
      · exact (Multiset.coe_eq_coe.mp (Bags.coe_move movedItems)).nodup_iff.mpr shows.once
      · simp only [List.length_insertIdx, List.length_eraseIdx, shows.length]
      · simp only [ListMoves.getElem?_move inTable displayed] at found
        simp only [ListMoves.getElem?_move inRange listed]
        split at found
        · obtain rfl := Option.some.inj found
          obtain ⟨other, otherListed, shows⟩ := shows.shows sourceRow cell displayed
          obtain rfl := Option.some.inj (listed.symm.trans otherListed)
          exact ⟨item, if_pos ‹_›, shows⟩
        · rename_i elsewhere
          rw [if_neg elsewhere]
          split at found
          · rename_i between
            rw [if_pos between]
            exact shows.shows _ cell found
          · rename_i notBetween
            rw [if_neg notBetween]
            split at found
            · rename_i after
              rw [if_pos after]
              exact shows.shows _ cell found
            · rename_i outside
              rw [if_neg outside]
              exact shows.shows _ cell found

/-! ## Swipes -/

/-- A swipe takes the first entry with a text equal to that of its row out of the list. -/
theorem commitDelete_first {state next : State Data} {row : Nat}
    (performed : ShoppingLists.commitDelete texts coding row state = some next) :
    ∃ entry first other, state.contents[row]? = some entry ∧
      next = saveToPersistentStorage coding (removeItem first state) ∧
      first ≤ row ∧ row < state.listItems.length ∧
      state.contents[first]? = some other ∧ texts.equal other.item entry.item = true ∧
      ∀ index another, state.contents[index]? = some another →
        texts.equal another.item entry.item = true → first ≤ index := by
  rw [ShoppingLists.commitDelete] at performed
  split at performed
  · cases performed
  · rename_i item listed
    obtain ⟨entry, read, found⟩ := read_row listed
    simp only [deleteItem, read, findIdx?_listItems] at performed
    split at performed
    · rename_i missing
      have unequal := List.findIdx?_eq_none_iff.mp missing entry (List.mem_of_getElem? found)
      rw [(equal_iff entry entry).mpr (TextEquality.equal_self _)] at unequal
      cases unequal
    · rename_i first looked
      obtain ⟨inRange, same, earlier⟩ := List.findIdx?_eq_some_iff_getElem.mp looked
      have least : ∀ index another, state.contents[index]? = some another →
          texts.equal another.item entry.item = true → first ≤ index := by
        intro index another here sameText
        by_contra before
        obtain ⟨_, rfl⟩ := List.getElem?_eq_some_iff.mp here
        exact earlier index (Nat.lt_of_not_le before) ((equal_iff _ _).mpr sameText)
      exact ⟨entry, first, _, found, (Option.some.inj performed).symm,
        least row entry found (TextEquality.equal_self _),
        (List.getElem?_eq_some_iff.mp listed).1, List.getElem?_eq_getElem inRange,
        (equal_iff _ _).mp same, least⟩

/-- **After a swipe the rows show the list exactly when none that it passes is displayed.** -/
theorem RowsShow.swipe_iff (shows : RowsShow view screen) {row : Nat}
    (handled : commitDelete texts coding row screen = some next) :
    RowsShow view next ↔ HarmlessSwipe texts screen (.commitDelete row) := by
  simp only [commitDelete] at handled
  split at handled
  · cases handled
  · rename_i state performed
    obtain ⟨fits, reached⟩ := Option.ite_none_right_eq_some.mp handled
    obtain rfl := Option.some.inj reached
    obtain ⟨entry, first, other, found, rfl, notAfter, inRange, firstFound, sameText, least⟩ :=
      commitDelete_first performed
    constructor
    · intro still swiped start another swipedFound startFound startText passed lower upper
      rintro ⟨cell, displayed⟩
      obtain rfl := Option.some.inj (found.symm.trans swipedFound)
      -- The cell of a row that is passed stays, and the entry of the row moves up.
      have low := Nat.le_trans (least start another startFound startText) lower
      obtain ⟨item, listed, shown⟩ := shows.shows passed cell displayed
      obtain ⟨below, belowListed, shownBelow⟩ := still.shows passed cell
        ((List.getElem?_eraseIdx_of_lt upper).trans displayed)
      have moved := (List.getElem?_eraseIdx_of_ge low).symm.trans belowListed
      obtain rfl := Option.some.inj (shown.given.symm.trans shownBelow.given)
      have same := (List.getElem?_inj (List.getElem?_eq_some_iff.mp listed).1 shows.once).mp
        (listed.trans moved.symm)
      omega
    · intro harmless
      refine ⟨shows.once.sublist (List.eraseIdx_sublist _ _), ?_, fun index cell displayed => ?_⟩
      · have shorter := List.length_eraseIdx_of_lt (Nat.lt_of_lt_of_eq inRange shows.length.symm)
        exact shorter.trans (Nat.sub_eq_of_eq_add fits.symm)
      · by_cases before : index < first
        · rw [List.getElem?_eraseIdx_of_lt (Nat.lt_of_lt_of_le before notAfter)] at displayed
          obtain ⟨item, listed, shown⟩ := shows.shows index cell displayed
          exact ⟨item, (List.getElem?_eraseIdx_of_lt before).trans listed, shown⟩
        · have notBefore := Nat.le_of_not_lt before
          by_cases above : index < row
          · rw [List.getElem?_eraseIdx_of_lt above] at displayed
            exact absurd ⟨cell, displayed⟩
              (harmless entry first other found firstFound sameText index notBefore above)
          · rw [List.getElem?_eraseIdx_of_ge (Nat.le_of_not_lt above)] at displayed
            obtain ⟨item, listed, shown⟩ := shows.shows (index + 1) cell displayed
            exact ⟨item, (List.getElem?_eraseIdx_of_ge notBefore).trans listed, shown⟩

/-! ## A run of the screen -/

/-- No operation has the list refer to an entry twice. -/
theorem nodup_perform {operation : Operation} {state next : State Data}
    (once : state.listItems.Nodup) (performed : perform texts coding operation state = some next) :
    next.listItems.Nodup := by
  cases load : Relaunches.loads operation with
  | false =>
      obtain ⟨_, kept, _⟩ := Relaunches.performed_perform once load performed
      exact kept.once
  | true =>
      cases operation with
      | loadFromPersistence =>
          obtain rfl := Option.some.inj performed
          rw [loadFromPersistence]
          split
          · exact once
          · exact List.nodup_range'
      | _ => cases load

theorem nodup_performAll {operations : List Operation} {state next : State Data}
    (once : state.listItems.Nodup)
    (performed : performAll texts coding operations state = some next) :
    next.listItems.Nodup := by
  induction operations generalizing state with
  | nil =>
      obtain rfl := Option.some.inj performed
      exact once
  | cons operation rest ih =>
      rw [performAll, List.foldlM_cons] at performed
      obtain ⟨middle, first, others⟩ := Option.bind_eq_some_iff.mp performed
      exact ih (nodup_perform once first) others

/-- **An event leaves the rows showing the list exactly when it is a harmless swipe, or none.** -/
theorem RowsShow.step_iff (shows : RowsShow view screen) {event : Event}
    (handled : handle texts view coding event screen = some next) :
    RowsShow view next ↔ HarmlessSwipe texts screen event := by
  cases event with
  | viewWillAppear meanwhile dequeued =>
      obtain ⟨state, performed, rfl⟩ := Option.map_eq_some_iff.mp handled
      have once := nodup_performAll shows.once performed
      exact iff_of_true (rowsShow_reloadData dequeued once) trivial
  | cellForRowAt row dequeued =>
      simp only [handle, cellForRowAt] at handled
      split at handled
      · cases handled
      · rename_i item listed
        obtain rfl := Option.some.inj handled
        refine iff_of_true (shows.set listed rfl (fun _ _ => rfl) ?_) trivial
        rintro _ ⟨⟩
        exact shows_setItem dequeued (screen.state.listed item (List.mem_of_getElem? listed))
  | didEndDisplaying row =>
      simp only [handle, onCell] at handled
      split at handled
      · rename_i cell displayed
        obtain ⟨item, listed, -⟩ := shows.shows row cell displayed
        obtain rfl := Option.some.inj handled
        exact iff_of_true (shows.set listed rfl (fun _ _ => rfl) nofun) trivial
      · cases handled
  | addListItemButtonTapped text dequeued =>
      obtain rfl := Option.some.inj handled
      have added : perform texts coding (.addItemToShoppingList (text.getD ""))
          screen.state = some _ := rfl
      exact iff_of_true (rowsShow_reloadData dequeued (nodup_perform shows.once added)) trivial
  | clearListTapped =>
      obtain rfl := Option.some.inj handled
      exact iff_of_true (rowsShow_reloadData _ List.nodup_nil) trivial
  | checkBoxButtonTapped row =>
      refine iff_of_true (shows.inCell (fun cell item shown readable => ?_) handled) trivial
      exact actsOn_checkBoxButtonTapped shown readable
  | editItemButtonTapped row =>
      refine iff_of_true (shows.inCell (fun cell item shown _ => ?_) handled) trivial
      exact actsOn_editItemButtonTapped shown
  | editText row text =>
      refine iff_of_true (shows.inCell (fun cell item shown _ => ?_) handled) trivial
      exact actsOn_editText shown text
  | commitDelete row => exact shows.swipe_iff handled
  | moveRowAt sourceRow destinationRow => exact iff_of_true (shows.move handled) trivial

end

/-- **The rows show the list after every event exactly when no swipe passes a displayed row.** -/
theorem rows_show_iff (texts : TextEquality) (view : CharacterView)
    (coding : Coding Data (List ShoppingList)) (file : Option Data) (events : List Event) :
    EventRuns.Throughout (handle texts view coding) (RowsShow view) (launched file) events ↔
      EventRuns.Allowed (handle texts view coding) (HarmlessSwipe texts) (launched file)
        events := by
  refine EventRuns.throughout_iff_allowed (fun shows handled => shows.step_iff handled) ?_ events
  exact ⟨List.nodup_nil, rfl, nofun⟩

/-- With milk on the list twice, the second row is swiped, and the cell of the first one is left
with the milk that was removed. -/
theorem rows_show_iff_milk :
    ¬ EventRuns.Throughout (handle .codePoints codePoints plainCoding) (RowsShow codePoints)
      (launched none)
      [.viewWillAppear [.addItemToShoppingList "milk", .addItemToShoppingList "milk"]
        (fun _ => some {}), .commitDelete 1] := by
  intro shows
  obtain ⟨-, others⟩ := (rows_show_iff .codePoints codePoints plainCoding none _).mp shows _ rfl
  obtain ⟨harmless, -⟩ := others _ rfl
  exact harmless _ 0 _ rfl rfl rfl 0 (Nat.le_refl 0) Nat.one_pos ⟨_, rfl⟩

/-! ## Taps -/

/-- One row of the list is changed, and the file has the list. -/
def RowBecomes (coding : Coding Data (List ShoppingList)) (screen : Screen Data) (row : Nat)
    (change : ShoppingList → ShoppingList) (next : Screen Data) : Prop :=
  ∃ entry, screen.state.contents[row]? = some entry ∧
    next.state.contents = screen.state.contents.set row (change entry) ∧ next.state.InSync coding

section

variable {texts : TextEquality} {view : CharacterView}
  {coding : Coding Data (List ShoppingList)} {state : State Data} {screen next : Screen Data}

theorem contents_changeItem (once : state.listItems.Nodup) {row : Nat} {item : Ref}
    {entry : ShoppingList} (listed : state.listItems[row]? = some item)
    (read : state.items.read item = some entry) (change : ShoppingList → ShoppingList) :
    (changeItem item change state).contents = state.contents.set row (change entry) := by
  refine contents_eq_of_map_some (List.ext_getElem? fun index => ?_)
  rw [List.map_set, state.map_some_contents, List.getElem?_set, List.length_map,
    List.getElem?_map, List.getElem?_map]
  change (state.listItems[index]?).map (state.items.modify item change).read = _
  by_cases same : row = index
  · subst same
    rw [if_pos rfl, if_pos (List.getElem?_eq_some_iff.mp listed).1, listed, Option.map_some,
      Heap.read_modify, if_pos rfl, read, Option.map_some]
  · rw [if_neg same]
    cases other : state.listItems[index]? with
    | none => rfl
    | some ref =>
        have different : item ≠ ref := by
          rintro rfl
          exact same ((List.getElem?_inj (List.getElem?_eq_some_iff.mp listed).1 once).mp
            (listed.trans other.symm))
        rw [Option.map_some, Option.map_some, Heap.read_modify, if_neg different]

/-- Changing the entry of the cell of a row and saving changes that row, in the list and in the
file. -/
theorem RowsShow.rowBecomes (shows : RowsShow view screen) {row : Nat} {item : Ref}
    (listed : screen.state.listItems[row]? = some item) (change : ShoppingList → ShoppingList)
    (changed : next.state = saveToPersistentStorage coding (changeItem item change screen.state)) :
    RowBecomes coding screen row change next := by
  obtain ⟨entry, read, found⟩ := read_row listed
  rw [RowBecomes, changed]
  exact ⟨entry, found, contents_changeItem shows.once listed read change,
    saveToPersistentStorage_inSync _⟩

/-- **What is tapped in a row reaches that row of the list, and the file,** in every run in which
no swipe passes a displayed row: a check mark, and a text that has been typed. -/
theorem taps_reach_rows {file : Option Data}
    (run : EventRuns.Run (handle texts view coding) (HarmlessSwipe texts) (launched file) screen)
    {row : Nat} {cell : ShoppingListTableViewCell}
    (displayed : screen.cells[row]? = some (some cell)) :
    (∃ next, handle texts view coding (.checkBoxButtonTapped row) screen = some next ∧
      RowBecomes coding screen row (fun entry => { entry with isChecked := !entry.isChecked })
        next) ∧
    (cell.itemTextField.isUserInteractionEnabled = true →
      ∃ next, handle texts view coding (.editItemButtonTapped row) screen = some next ∧
        RowBecomes coding screen row
          (fun entry => { entry with item := cell.itemTextField.text.getD "" }) next) := by
  have shows : RowsShow view screen := run.invariant ⟨List.nodup_nil, rfl, nofun⟩
    fun shows harmless handled => (shows.step_iff handled).mpr harmless
  obtain ⟨item, listed, shown⟩ := shows.shows row cell displayed
  constructor
  · refine ⟨_, by rw [handle, onCell, displayed], shows.rowBecomes listed _ ?_⟩
    simp only [checkBoxButtonTapped, shown.given, Prod.map_snd, id_eq]
    rfl
  · intro editing
    refine ⟨_, by rw [handle, onCell, displayed], shows.rowBecomes listed _ ?_⟩
    simp only [ShoppingListTableViewCell.editItemButtonTapped, editing, Bool.true_eq_false,
      if_false, shown.given, Prod.map_snd, id_eq]
    rfl

end

/-- Eggs, and milk above them. -/
def milkAndEggs : Screen (List ShoppingList) :=
  reloadData codePoints (fun _ => some {})
    (addItemToShoppingList plainCoding "milk"
      (addItemToShoppingList plainCoding "eggs" (launched none).state))

/-- The milk has been swiped. -/
def onlyEggs : Screen (List ShoppingList) where
  state := saveToPersistentStorage plainCoding (removeItem 0 milkAndEggs.state)
  cells := milkAndEggs.cells.eraseIdx 0

/-- Then the eggs are checked. -/
theorem taps_reach_rows_eggs : ∃ next,
    handle .codePoints codePoints plainCoding (.checkBoxButtonTapped 0) onlyEggs = some next ∧
      next.state.contents = [{ item := "eggs", isChecked := true }] ∧
      next.state.InSync plainCoding := by
  have appeared : handle .codePoints codePoints plainCoding
      (.viewWillAppear [.addItemToShoppingList "eggs", .addItemToShoppingList "milk"]
        fun _ => some {}) (launched none) = some milkAndEggs := rfl
  have harmless : HarmlessSwipe .codePoints milkAndEggs (.commitDelete 0) :=
    fun _ _ _ _ _ _ _ _ upper => absurd upper (Nat.not_lt_zero _)
  have swiped : handle .codePoints codePoints plainCoding (.commitDelete 0) milkAndEggs =
      some onlyEggs := rfl
  have run : EventRuns.Run (handle .codePoints codePoints plainCoding)
      (HarmlessSwipe .codePoints) (launched none) onlyEggs :=
    .step (.step .start (by trivial) appeared) harmless swiped
  have displayed : ∃ cell, onlyEggs.cells[0]? = some (some cell) := ⟨_, rfl⟩
  obtain ⟨cell, displayed⟩ := displayed
  obtain ⟨⟨next, tapped, entry, found, contents, inSync⟩, -⟩ := taps_reach_rows run displayed
  obtain rfl := Option.some.inj found
  exact ⟨next, tapped, contents, inSync⟩

end MyMealPrep.ShoppingLists.Rows
