import MyMealPrep.Collections.Bags
import MyMealPrep.Machines.EventRuns
import MyMealPrep.ShoppingLists.Agreement
import MyMealPrep.ShoppingLists.SwipeDeletes

/-!
# The shopping list over launches

The process of the app is killed between two operations on the list and started again
with an empty one, and the file stays. Every operation that saves writes the whole file:
a write that fails and a process killed in the middle of an operation are left out.

For its user the shopping list is a bag of entries: it changes when entries are added,
removed, renamed, checked or cleared, a swipe removes the entry of its row, and neither
a launch nor a move is to change it.

The list in memory and the file together refine this bag (`entries_survive_launches`) in
every run in which the shopping list screen is loaded before anything else is done to
the list after a launch, and in which a deletion comes upon the entry that is meant
before any other with an equal text. A move is not stored, so that the order after a
launch is an older one, but no entry is lost or doubled.
-/

set_option autoImplicit false

namespace MyMealPrep.ShoppingLists

variable {Data : Type} {texts : TextEquality} {coding : Coding Data (List ShoppingList)}

/-- The entries that a load would find. -/
def State.stored (coding : Coding Data (List ShoppingList)) (state : State Data) :
    List ShoppingList :=
  (state.file.bind coding.decode).getD []

theorem nothing_listed : ∀ ref ∈ ([] : List Ref),
    (Heap.read ({} : Heap ShoppingList) ref).isSome = true := by
  simp

/-- The list of a process that has just been started. -/
def State.unloaded (file : Option Data) : State Data where
  file
  listed := nothing_listed

namespace Relaunches

/-! ## Launches -/

/-- An operation on the list, or the process is killed and started again. -/
inductive Event where
  | operate (operation : Operation)
  | relaunch

/-- The shopping list of a process, and whether the process has loaded it. -/
structure Process (Data : Type) where
  state : State Data
  isLoaded : Bool

/-- The operation is a load. -/
def loads : Operation → Bool
  | .loadFromPersistence => true
  | _ => false

/-- What an event makes of the process. -/
def handle (texts : TextEquality) (coding : Coding Data (List ShoppingList)) (event : Event)
    (process : Process Data) : Option (Process Data) :=
  match event with
  | .operate operation => (perform texts coding operation process.state).map fun state =>
      { state, isLoaded := process.isLoaded || loads operation }
  | .relaunch =>
      some { state := .unloaded process.state.file, isLoaded := false }

/-- After a launch the list is loaded before anything else is done to it. -/
def LoadedFirst (process : Process Data) : Event → Prop
  | .operate operation => process.isLoaded = true ∨ loads operation = true
  | .relaunch => True

instance (process : Process Data) (event : Event) : Decidable (LoadedFirst process event) := by
  unfold LoadedFirst
  split <;> infer_instance

/-! ## The bag -/

/-- The shopping list as its user has it in mind. -/
def bag (coding : Coding Data (List ShoppingList)) (process : Process Data) :
    Multiset ShoppingList :=
  if process.isLoaded then process.state.contents else process.state.stored coding

/-- An entry, when it is one of the list. -/
def listedEntry (state : State Data) (ref : Ref) : Option ShoppingList :=
  if ref ∈ state.listItems then state.items.read ref else none

/-- Remove an entry, when it is one of the list. -/
def removal (state : State Data) (item : Ref) : Bags.Change ShoppingList :=
  (listedEntry state item).elim .keep .remove

/-- Replace an entry, when it is one of the list. -/
def replacement (state : State Data) (ref : Ref) (change : ShoppingList → ShoppingList) :
    Bags.Change ShoppingList :=
  (listedEntry state ref).elim .keep fun entry => .replace entry (change entry)

/-- What an operation is to do to the bag. -/
def operationChange (state : State Data) : Operation → Bags.Change ShoppingList
  | .addItemToShoppingList item => .add [{ item }]
  | .addRecipeIngredients recipe => .add (addedEntries recipe.ingredients)
  | .addMealPlanRecipesIngredients mealPlan =>
      .add (addedEntries (mealPlan.recipes.flatMap Recipe.ingredients))
  | .deleteItem item => removal state item
  | .clearListItems => .clear
  | .updateListItem listItem itemName =>
      replacement state listItem fun entry => { entry with item := itemName }
  | .toggleItemChecked ingredient =>
      replacement state ingredient fun entry => { entry with isChecked := !entry.isChecked }
  | .loadFromPersistence => .keep
  | .commitDelete row => (state.contents[row]?).elim .keep .remove
  | .moveRowAt _ _ => .keep

/-- What an event is to do to the bag: a launch leaves it. -/
def eventChange (process : Process Data) : Event → Bags.Change ShoppingList
  | .operate operation => operationChange process.state operation
  | .relaunch => .keep

/-- What the events of a run are to do to the bag, one after another. -/
def changes (texts : TextEquality) (coding : Coding Data (List ShoppingList)) :
    Process Data → List Event → List (Bags.Change ShoppingList)
  | _, [] => []
  | process, event :: rest =>
      eventChange process event ::
        (handle texts coding event process).elim [] fun next => changes texts coding next rest

/-! ## Deletions -/

/-- The first entry with the text of an entry, when there is one, is the same as that entry,
which is one of the list. -/
def FindsEntry (texts : TextEquality) (state : State Data) (item : Ref) : Prop :=
  ∀ entry ∈ state.items.read item, ∀ found ∈ state.contents.find? (·.equal texts entry),
    item ∈ state.listItems ∧ found = entry

instance (state : State Data) (item : Ref) : Decidable (FindsEntry texts state item) :=
  inferInstanceAs (Decidable (∀ entry ∈ state.items.read item, _))

/-- A deletion comes first upon the entry that is meant. -/
def RemovesOwn (texts : TextEquality) (state : State Data) : Operation → Prop
  | .deleteItem item => FindsEntry texts state item
  | .commitDelete row => ∀ item ∈ state.listItems[row]?, FindsEntry texts state item
  | _ => True

instance (state : State Data) (operation : Operation) :
    Decidable (RemovesOwn texts state operation) :=
  match operation with
  | .deleteItem item => inferInstanceAs (Decidable (FindsEntry texts state item))
  | .commitDelete row =>
      inferInstanceAs (Decidable (∀ item ∈ state.listItems[row]?, FindsEntry texts state item))
  | .addItemToShoppingList _ | .addRecipeIngredients _ | .addMealPlanRecipesIngredients _
  | .clearListItems | .updateListItem _ _ | .toggleItemChecked _ | .loadFromPersistence
  | .moveRowAt _ _ => .isTrue trivial

/-- The guard: the list is loaded first, and deletions come first upon what is meant. -/
def Permitted (texts : TextEquality) (process : Process Data) (event : Event) : Prop :=
  LoadedFirst process event ∧
    match event with
    | .operate operation => RemovesOwn texts process.state operation
    | .relaunch => True

instance (process : Process Data) (event : Event) : Decidable (Permitted texts process event) :=
  match event with
  | .operate operation => inferInstanceAs (Decidable
      (LoadedFirst process (.operate operation) ∧ RemovesOwn texts process.state operation))
  | .relaunch => inferInstanceAs (Decidable (LoadedFirst process .relaunch ∧ True))

/-! ## One operation -/

section

variable {state next : State Data}

/-- What an operation does that does to the bag what it is to do: the list refers to each entry
once, and the file agrees with it or stays, with the entries. -/
structure Performed (coding : Coding Data (List ShoppingList)) (state : State Data)
    (change : Bags.Change ShoppingList) (next : State Data) : Prop where
  once : next.listItems.Nodup
  contents : (next.contents : Multiset ShoppingList) = change.apply state.contents
  stored : next.InSync coding ∨
    next.file = state.file ∧ (next.contents : Multiset ShoppingList) = state.contents

theorem Performed.refl (once : state.listItems.Nodup) : Performed coding state .keep state :=
  ⟨once, rfl, .inr ⟨rfl, rfl⟩⟩

theorem nodup_insertItem (once : state.listItems.Nodup) (item : String) :
    (insertItem item state).listItems.Nodup := by
  have new : (state.items.alloc { item }).2 ∉ state.listItems := by
    intro member
    have readable := state.listed _ member
    rw [Heap.read_alloc_eq_none] at readable
    cases readable
  have first : (insertItem item state).listItems =
      (state.items.alloc { item }).2 :: state.listItems := by
    cases entries : state.listItems with
    | nil => simp [insertItem, entries]
    | cons ref rest => simp [insertItem, entries]
  rw [first]
  exact List.nodup_cons.mpr ⟨new, once⟩

theorem performed_addIngredients (once : state.listItems.Nodup) (ingredients : List String) :
    Performed coding state (.add (addedEntries ingredients))
      (ingredients.foldl (fun state ingredient =>
        saveToPersistentStorage coding (insertItem ingredient state)) state) where
  once := by
    induction ingredients generalizing state with
    | nil => exact once
    | cons ingredient rest ih => exact ih (nodup_insertItem once ingredient)
  contents := by
    rw [contents_addIngredients]
    exact (Multiset.coe_add _ _).symm
  stored := by
    rcases addIngredients_inSync coding ingredients state with rfl | inSync
    · exact .inr ⟨rfl, rfl⟩
    · exact .inl inSync

theorem performed_changeItem (once : state.listItems.Nodup) (ref : Ref)
    (change : ShoppingList → ShoppingList) :
    Performed coding state (replacement state ref change)
      (saveToPersistentStorage coding (changeItem ref change state)) where
  once := once
  contents := by
    rw [contents_saveToPersistentStorage, replacement, listedEntry]
    by_cases member : ref ∈ state.listItems
    · obtain ⟨entry, read⟩ := Option.isSome_iff_exists.mp (state.listed ref member)
      rw [if_pos member, read]
      exact Bags.contents_modify once member read
    · rw [if_neg member]
      exact congrArg _ (Bags.filterMap_modify_of_not_mem member)
  stored := .inl (saveToPersistentStorage_inSync _)

/-- A deletion removes the first entry with an equal text, where there is one. -/
theorem performed_deleteItem (once : state.listItems.Nodup) {item : Ref}
    (performed : deleteItem texts coding item state = some next) :
    ∃ entry, state.items.read item = some entry ∧
      Performed coding state ((state.contents.find? (·.equal texts entry)).elim .keep .remove)
        next := by
  simp only [deleteItem] at performed
  split at performed
  · cases performed
  · rename_i entry read
    rw [findIdx?_listItems] at performed
    refine ⟨entry, read, ?_⟩
    rw [List.find?_eq_bind_findIdx?_getElem?]
    split at performed
    · rename_i missing
      obtain rfl := Option.some.inj performed
      rw [missing]
      exact .refl once
    · rename_i index first
      obtain rfl := Option.some.inj performed
      obtain ⟨inRange, -⟩ := List.findIdx?_eq_some_iff_getElem.mp first
      have here := List.getElem?_eq_getElem inRange
      rw [first, Option.bind_some, here]
      refine ⟨once.sublist (List.eraseIdx_sublist _ _), ?_,
        .inl (saveToPersistentStorage_inSync _)⟩
      rw [contents_saveToPersistentStorage, contents_removeItem]
      exact Bags.coe_eraseIdx here

/-- What a deletion removes is what it is to remove, when it comes first upon that. -/
theorem FindsEntry.removal_eq {item : Ref} {entry : ShoppingList}
    (finds : FindsEntry texts state item) (read : state.items.read item = some entry) :
    (state.contents.find? (·.equal texts entry)).elim .keep .remove = removal state item := by
  cases found : state.contents.find? (·.equal texts entry) with
  | some other =>
      obtain ⟨member, rfl⟩ := finds entry read other found
      rw [removal, listedEntry, if_pos member, read]
  | none =>
      have missing : item ∉ state.listItems := by
        intro member
        obtain ⟨row, listed⟩ := List.mem_iff_getElem?.mp member
        obtain ⟨other, readOther, here⟩ := read_row listed
        obtain rfl := Option.some.inj (read.symm.trans readOther)
        have unequal := List.find?_eq_none.mp found entry (List.mem_of_getElem? here)
        exact unequal ((equal_iff entry entry).mpr (by simp))
      rw [removal, listedEntry, if_neg missing]

theorem performed_moveRowAt (once : state.listItems.Nodup) {sourceRow destinationRow : Nat}
    (performed : moveRowAt sourceRow destinationRow state = some next) :
    Performed coding state .keep next := by
  obtain ⟨movedContents, sameFile⟩ := moveRowAt_eq_some performed
  have sameEntries := Bags.coe_move movedContents
  refine ⟨?_, sameEntries, .inr ⟨sameFile, sameEntries⟩⟩
  simp only [moveRowAt] at performed
  split at performed
  · cases performed
  · rename_i listItems moved
    obtain rfl := Option.some.inj performed
    exact (Multiset.coe_eq_coe.mp (Bags.coe_move moved)).nodup_iff.mpr once

/-- **An operation other than a load changes the bag, as it is to do** when its deletion comes
first upon what is meant. -/
theorem performed_perform (once : state.listItems.Nodup) {operation : Operation}
    (noLoad : loads operation = false)
    (performed : perform texts coding operation state = some next) :
    ∃ change, Performed coding state change next ∧
      (RemovesOwn texts state operation → change = operationChange state operation) := by
  cases operation with
  | addItemToShoppingList item =>
      obtain rfl := Option.some.inj performed
      exact ⟨_, performed_addIngredients once [item], fun _ => rfl⟩
  | addRecipeIngredients recipe =>
      obtain rfl := Option.some.inj performed
      exact ⟨_, performed_addIngredients once recipe.ingredients, fun _ => rfl⟩
  | addMealPlanRecipesIngredients mealPlan =>
      obtain rfl := Option.some.inj performed
      rw [addMealPlanRecipesIngredients_eq]
      exact ⟨_, performed_addIngredients once _, fun _ => rfl⟩
  | deleteItem item =>
      obtain ⟨entry, read, deleted⟩ := performed_deleteItem once performed
      exact ⟨_, deleted, fun finds => finds.removal_eq read⟩
  | clearListItems =>
      obtain rfl := Option.some.inj performed
      exact ⟨.clear, ⟨List.nodup_nil, rfl, .inl (saveToPersistentStorage_inSync _)⟩, fun _ => rfl⟩
  | updateListItem listItem itemName =>
      obtain rfl := Option.some.inj performed
      exact ⟨_, performed_changeItem once listItem _, fun _ => rfl⟩
  | toggleItemChecked ingredient =>
      obtain rfl := Option.some.inj performed
      exact ⟨_, performed_changeItem once ingredient _, fun _ => rfl⟩
  | loadFromPersistence => cases noLoad
  | commitDelete row =>
      simp only [perform, commitDelete] at performed
      split at performed
      · cases performed
      · rename_i listItem listed
        obtain ⟨entry, read, deleted⟩ := performed_deleteItem once performed
        refine ⟨_, deleted, fun removes => (removes listItem listed).removal_eq read |>.trans ?_⟩
        obtain ⟨other, readOther, here⟩ := read_row listed
        rw [removal, listedEntry, if_pos (List.mem_of_getElem? listed), readOther, operationChange,
          here]
  | moveRowAt sourceRow destinationRow =>
      exact ⟨_, performed_moveRowAt once performed, fun _ => rfl⟩

end

/-! ## One event -/

/-- The list refers to each entry once, it is empty until it is loaded, and from then on the
entries stored are its own. -/
structure Kept (coding : Coding Data (List ShoppingList)) (process : Process Data) : Prop where
  once : process.state.listItems.Nodup
  empty : process.isLoaded = false → process.state.listItems = []
  stored : process.isLoaded = true →
    (process.state.stored coding : Multiset ShoppingList) = process.state.contents

section

variable {process next : Process Data}

/-- The bag is what is stored, at any time. -/
theorem Kept.stored_eq_bag (kept : Kept coding process) :
    (process.state.stored coding : Multiset ShoppingList) = bag coding process := by
  rw [bag]
  split
  · rename_i loaded
    exact kept.stored loaded
  · rfl

theorem stored_of_inSync {state : State Data} (inSync : state.InSync coding) :
    state.stored coding = state.contents := by
  rw [State.stored, inSync, Option.getD_some]

theorem Kept.load (kept : Kept coding process) :
    Kept coding ⟨loadFromPersistence coding process.state, true⟩ ∧
      bag coding ⟨loadFromPersistence coding process.state, true⟩ = bag coding process := by
  have sameBag := kept.stored_eq_bag
  cases decoded : process.state.file.bind coding.decode with
  | none =>
      have unchanged : loadFromPersistence coding process.state = process.state := by
        rw [loadFromPersistence, decoded]
      have nothing : process.state.contents = [] := by
        cases loaded : process.isLoaded with
        | false => rw [State.contents, kept.empty loaded, List.filterMap_nil]
        | true =>
            have none := kept.stored loaded
            rw [State.stored, decoded] at none
            exact (Multiset.coe_eq_zero _).mp none.symm
      rw [unchanged]
      refine ⟨⟨kept.once, fun fresh => (by cases fresh), fun _ => ?_⟩, ?_⟩
      · rw [State.stored, decoded, nothing]
        rfl
      · rw [← sameBag, bag, State.stored, decoded, nothing]
        rfl
  | some entries =>
      have contents := contents_loadFromPersistence decoded
      refine ⟨⟨?_, fun fresh => (by cases fresh), fun _ => ?_⟩, ?_⟩
      · rw [loadFromPersistence, decoded]
        exact List.nodup_range'
      · rw [stored_of_inSync]
        rw [State.InSync, loadFromPersistence_file, contents, decoded]
      · rw [← sameBag, bag, if_pos rfl, contents, State.stored, decoded]
        rfl

/-- An operation on a loaded list does to the bag what it is to do. -/
theorem Kept.operate (kept : Kept coding process) (loaded : process.isLoaded = true)
    {operation : Operation} (noLoad : loads operation = false) {state : State Data}
    (removes : RemovesOwn texts process.state operation)
    (performed : perform texts coding operation process.state = some state) :
    Kept coding ⟨state, true⟩ ∧
      bag coding ⟨state, true⟩ =
        (operationChange process.state operation).apply (bag coding process) := by
  obtain ⟨change, ⟨once, contents, stored⟩, asMeant⟩ :=
    performed_perform kept.once noLoad performed
  obtain rfl := asMeant removes
  refine ⟨⟨once, fun fresh => (by cases fresh), fun _ => ?_⟩, ?_⟩
  · rcases stored with inSync | ⟨sameFile, sameEntries⟩
    · rw [stored_of_inSync inSync]
    · have sameStored : state.stored coding = process.state.stored coding := by
        rw [State.stored, sameFile, State.stored]
      rw [sameStored, kept.stored loaded]
      exact sameEntries.symm
  · rw [bag, if_pos rfl, contents, bag, if_pos loaded]

/-- **One event does to the bag what it is to do.** -/
theorem Kept.step (kept : Kept coding process) {event : Event}
    (permitted : Permitted texts process event)
    (handled : handle texts coding event process = some next) :
    Kept coding next ∧
      bag coding next = (eventChange process event).apply (bag coding process) := by
  cases event with
  | relaunch =>
      obtain rfl := Option.some.inj handled
      exact ⟨⟨List.nodup_nil, fun _ => rfl, fun loaded => (by cases loaded)⟩,
        kept.stored_eq_bag⟩
  | operate operation =>
      obtain ⟨state, performed, rfl⟩ := Option.map_eq_some_iff.mp handled
      cases load : loads operation with
      | true =>
          cases operation with
          | loadFromPersistence =>
              obtain rfl := Option.some.inj performed
              simp only [Bool.or_true]
              exact kept.load
          | _ => cases load
      | false =>
          have loaded := permitted.1.resolve_right (by simp [load])
          rw [loaded]
          exact kept.operate loaded load permitted.2 performed

end

/-! ## Any number of launches -/

/-- A run of events does to the bag what they are to do, one after another. -/
theorem Kept.run {process last : Process Data} (kept : Kept coding process) {events : List Event}
    (followed : EventRuns.follow (handle texts coding) (Permitted texts) process events =
      some last) :
    Kept coding last ∧
      bag coding last = (changes texts coding process events).foldl
        (fun bag change => change.apply bag) (bag coding process) := by
  induction events generalizing process with
  | nil =>
      obtain rfl := Option.some.inj followed
      exact ⟨kept, rfl⟩
  | cons event rest ih =>
      rw [EventRuns.follow] at followed
      obtain ⟨permitted, handled⟩ := Option.ite_none_right_eq_some.mp followed
      obtain ⟨next, handled, followed⟩ := Option.bind_eq_some_iff.mp handled
      obtain ⟨keptNext, sameBag⟩ := kept.step permitted handled
      obtain ⟨keptLast, lastBag⟩ := ih keptNext followed
      refine ⟨keptLast, lastBag.trans ?_⟩
      rw [changes, handled, Option.elim_some, List.foldl_cons, sameBag]

/-- A process that has just been started, with whatever the file holds. -/
def launch (file : Option Data) : Process Data where
  state := .unloaded file
  isLoaded := false

theorem launch_kept (coding : Coding Data (List ShoppingList)) (file : Option Data) :
    Kept coding (launch file) :=
  ⟨List.nodup_nil, fun _ => rfl, fun loaded => (by cases loaded)⟩

/-- **The list and its file refine the bag over any number of launches.** The bag is changed by
what was done to the list and by nothing else, and at any time it is what the next launch
would load. -/
theorem entries_survive_launches (texts : TextEquality)
    (coding : Coding Data (List ShoppingList)) {file : Option Data} {events : List Event}
    {last : Process Data}
    (followed : EventRuns.follow (handle texts coding) (Permitted texts) (launch file) events =
      some last) :
    bag coding last = (changes texts coding (launch file) events).foldl
        (fun bag change => change.apply bag) (bag coding (launch file)) ∧
      (last.state.stored coding : Multiset ShoppingList) = bag coding last := by
  obtain ⟨kept, sameBag⟩ := (launch_kept coding file).run followed
  exact ⟨sameBag, kept.stored_eq_bag⟩

/-- A list that is added to, moved, killed, loaded, checked, swiped and killed again. -/
def twoLaunches : List Event :=
  [.operate .loadFromPersistence, .operate (.addItemToShoppingList "eggs"),
    .operate (.addItemToShoppingList "salt"), .operate (.moveRowAt 0 1), .relaunch,
    .operate .loadFromPersistence, .operate (.toggleItemChecked 1), .operate (.commitDelete 0),
    .operate (.moveRowAt 1 0), .relaunch]

/-- The moves are lost, and no entry is but the one swiped. -/
theorem entries_survive_launches_twice :
    ∃ last, EventRuns.follow (handle .codePoints ShoppingList.coding) (Permitted .codePoints)
        (launch (some (ShoppingList.coding.encode [{ item := "milk" }]))) twoLaunches =
          some last ∧
      bag ShoppingList.coding last =
        (["eggs", "milk"].map fun item => { item, isChecked := item = "eggs" } :
          List ShoppingList) := by
  have executed : (EventRuns.follow (handle .codePoints ShoppingList.coding)
      (Permitted .codePoints) (launch (some (ShoppingList.coding.encode [{ item := "milk" }])))
        twoLaunches).isSome = true := by
    decide
  obtain ⟨last, followed⟩ := Option.isSome_iff_exists.mp executed
  have refines := entries_survive_launches .codePoints ShoppingList.coding followed
  exact ⟨last, followed, refines.1.trans (by decide)⟩

end Relaunches

end MyMealPrep.ShoppingLists
