import Mathlib.Data.List.InsertIdx
import Mathlib.Data.Nat.Init

/-!
# Moving an element of a list

An element is taken out at one position and put in at another one. The list stays
the same exactly when all elements from the one position to the other are equal
(`move_eq_self_iff`): each of them has then moved up or down by one, or is the
element moved.

For the same reason it makes no difference at which of two positions an element is
taken out exactly when all elements from the one to the other are equal
(`eraseIdx_eq_eraseIdx_iff`).
-/

set_option autoImplicit false

namespace ListMoves

variable {α β : Type} {items moved : List α} {source destination : Nat} {item : α}

/-- Take the element at a position out and put it in at another position. There is no value
when the first is no position of the list or the second none of the rest. -/
def move (items : List α) (source destination : Nat) : Option (List α) :=
  match items[source]? with
  | none => none
  | some item =>
      if destination ≤ (items.eraseIdx source).length then
        some ((items.eraseIdx source).insertIdx destination item)
      else none

theorem move_eq_some_iff :
    move items source destination = some moved ↔
      ∃ item, items[source]? = some item ∧ destination < items.length ∧
        (items.eraseIdx source).insertIdx destination item = moved := by
  cases found : items[source]? with
  | none => simp [move, found]
  | some item =>
      have inRange := (List.getElem?_eq_some_iff.mp found).1
      have rest : destination ≤ (items.eraseIdx source).length ↔ destination < items.length := by
        rw [List.length_eraseIdx_of_lt inRange]
        omega
      simp [move, found, rest]

theorem mem_of_mem_move (performed : move items source destination = some moved)
    (member : item ∈ moved) : item ∈ items := by
  obtain ⟨first, found, _, rfl⟩ := move_eq_some_iff.mp performed
  rcases List.eq_or_mem_of_mem_insertIdx member with rfl | other
  · exact List.mem_of_getElem? found
  · exact List.mem_of_mem_eraseIdx other

/-- Moving a position moves what is listed there. -/
theorem move_map (f : α → β) (items : List α) (source destination : Nat) :
    move (items.map f) source destination = (move items source destination).map (List.map f) := by
  rw [move, move, List.getElem?_map]
  cases items[source]? with
  | none => rfl
  | some item =>
      rw [Option.map_some, List.eraseIdx_map]
      simp only [List.length_map]
      split
      · rw [Option.map_some, List.map_insertIdx]
      · rfl

theorem getElem?_eq_of_steps {first last : Nat} (start : items[first]? = some item)
    (steps : ∀ index, first ≤ index → index < last → items[index + 1]? = items[index]?)
    {index : Nat} (lower : first ≤ index) (upper : index ≤ last) : items[index]? = some item := by
  induction index, lower using Nat.le_induction with
  | base => exact start
  | succ index lower ih => exact (steps index lower upper).trans (ih (Nat.le_of_succ_le upper))

/-- What stands where after a move. -/
theorem getElem?_move (inRange : destination < items.length) (found : items[source]? = some item)
    (index : Nat) :
    ((items.eraseIdx source).insertIdx destination item)[index]? =
      if index = destination then some item
      else if source ≤ index ∧ index < destination then items[index + 1]?
      else if destination < index ∧ index ≤ source then items[index - 1]?
      else items[index]? := by
  have sourceInRange := (List.getElem?_eq_some_iff.mp found).1
  have length := List.length_eraseIdx_of_lt sourceInRange
  rw [List.getElem?_insertIdx]
  by_cases here : index = destination
  · subst here
    have fits : index ≤ (items.eraseIdx source).length := by omega
    simp [fits]
  by_cases before : index < destination
  · have notAfter : ¬ (destination < index ∧ index ≤ source) := by omega
    by_cases kept : index < source
    · have notBetween : ¬ (source ≤ index ∧ index < destination) := by omega
      simp only [if_pos before, if_neg here, if_neg notBetween, if_neg notAfter]
      exact List.getElem?_eraseIdx_of_lt kept
    · have between : source ≤ index ∧ index < destination := by omega
      simp only [if_pos before, if_neg here, if_pos between]
      exact List.getElem?_eraseIdx_of_ge between.1
  · have notBetween : ¬ (source ≤ index ∧ index < destination) := by omega
    by_cases kept : index - 1 < source
    · have after : destination < index ∧ index ≤ source := by omega
      simp only [if_neg before, if_neg here, if_neg notBetween, if_pos after]
      exact List.getElem?_eraseIdx_of_lt kept
    · have notAfter : ¬ (destination < index ∧ index ≤ source) := by omega
      simp only [if_neg before, if_neg here, if_neg notBetween, if_neg notAfter]
      rw [List.getElem?_eraseIdx_of_ge (by omega), Nat.sub_add_cancel (by omega)]

/-- **A move leaves the list exactly when all elements between its ends are equal.** -/
theorem move_eq_self_iff (inRange : destination < items.length)
    (found : items[source]? = some item) :
    (items.eraseIdx source).insertIdx destination item = items ↔
      ∀ index, min source destination ≤ index → index ≤ max source destination →
        items[index]? = some item := by
  constructor
  · intro unchanged index lower upper
    have stands := getElem?_move inRange found
    rw [unchanged] at stands
    have atDestination : items[destination]? = some item := by
      rw [stands destination, if_pos rfl]
    rcases Nat.le_total source destination with up | down
    · rw [Nat.min_eq_left up] at lower
      rw [Nat.max_eq_right up] at upper
      refine getElem?_eq_of_steps found (fun index low high => ?_) lower upper
      rw [stands index, if_neg (by omega), if_pos ⟨low, high⟩]
    · rw [Nat.min_eq_right down] at lower
      rw [Nat.max_eq_left down] at upper
      refine getElem?_eq_of_steps atDestination (fun index low high => ?_) lower upper
      rw [stands (index + 1), if_neg (by omega), if_neg (by omega), if_pos (by omega),
        Nat.add_sub_cancel]
  · intro equal
    refine List.ext_getElem? fun index => ?_
    rw [getElem?_move inRange found]
    split
    · rename_i here
      exact (equal index (by omega) (by omega)).symm
    · split
      · rw [equal index (by omega) (by omega), equal (index + 1) (by omega) (by omega)]
      · split
        · rw [equal index (by omega) (by omega), equal (index - 1) (by omega) (by omega)]
        · rfl

/-- **Taking an element out earlier leaves the same list exactly when all elements up to the
later position are equal.** -/
theorem eraseIdx_eq_eraseIdx_iff {first last : Nat} (ordered : first ≤ last)
    (inRange : last < items.length) :
    items.eraseIdx first = items.eraseIdx last ↔
      ∀ index, first ≤ index → index ≤ last → items[index]? = items[last]? := by
  constructor
  · intro same
    have found : items[first]? = some items[first] := List.getElem?_eq_getElem (by omega)
    have steps : ∀ index, first ≤ index → index < last → items[index + 1]? = items[index]? := by
      intro index lower upper
      rw [← List.getElem?_eraseIdx_of_ge lower, same, List.getElem?_eraseIdx_of_lt upper]
    intro index lower upper
    rw [getElem?_eq_of_steps found steps lower upper,
      getElem?_eq_of_steps found steps ordered (Nat.le_refl last)]
  · intro equal
    refine List.ext_getElem? fun index => ?_
    by_cases before : index < first
    · rw [List.getElem?_eraseIdx_of_lt before, List.getElem?_eraseIdx_of_lt (by omega)]
    · by_cases between : index < last
      · rw [List.getElem?_eraseIdx_of_ge (by omega), List.getElem?_eraseIdx_of_lt between,
          equal index (by omega) (by omega), equal (index + 1) (by omega) (by omega)]
      · rw [List.getElem?_eraseIdx_of_ge (by omega), List.getElem?_eraseIdx_of_ge (by omega)]

theorem filter_eraseIdx {test : α → Bool} {index : Nat} (found : items[index]? = some item)
    (rejected : test item = false) : (items.eraseIdx index).filter test = items.filter test := by
  obtain ⟨inRange, rfl⟩ := List.getElem?_eq_some_iff.mp found
  have dropped : (items.drop index).filter test = (items.drop (index + 1)).filter test := by
    rw [List.drop_eq_getElem_cons inRange, List.filter_cons_of_neg (by simp [rejected])]
  rw [List.eraseIdx_eq_take_drop_succ, List.filter_append, ← dropped, ← List.filter_append,
    List.take_append_drop]

/-- Removing an item keeps the others, where a field tells the items apart. -/
theorem mem_eraseIdx_iff {field : α → β} {other : α} {index : Nat}
    (distinct : (items.map field).Nodup) (found : items[index]? = some item) :
    other ∈ items.eraseIdx index ↔ other ∈ items ∧ field other ≠ field item := by
  obtain ⟨inRange, rfl⟩ := List.getElem?_eq_some_iff.mp found
  rw [List.mem_eraseIdx_iff_getElem?]
  constructor
  · rintro ⟨position, elsewhere, here⟩
    obtain ⟨positionInRange, rfl⟩ := List.getElem?_eq_some_iff.mp here
    refine ⟨List.getElem_mem positionInRange, fun same => elsewhere ?_⟩
    have inFields : position < (items.map field).length := by simpa using positionInRange
    refine (List.getElem?_inj inFields distinct).mp ?_
    rw [List.getElem?_map, List.getElem?_map, List.getElem?_eq_getElem positionInRange,
      List.getElem?_eq_getElem inRange, Option.map_some, Option.map_some, same]
  · rintro ⟨member, different⟩
    obtain ⟨position, positionInRange, rfl⟩ := List.mem_iff_getElem.mp member
    refine ⟨position, ?_, List.getElem?_eq_getElem positionInRange⟩
    rintro rfl
    exact different rfl

end ListMoves
