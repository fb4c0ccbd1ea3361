import Mathlib.Data.List.Induction
import Mathlib.Data.List.Nodup

/-!
# Lists that elements are toggled in

Toggling an element takes it off a list, or puts it at the end of the list when it is
not there. After any number of toggles, the list that was empty at first has the
elements that were toggled an odd number of times, each once, in the order of their
last toggles (`toggled_afterToggles`).
-/

set_option autoImplicit false

namespace Toggles

variable {α : Type} [DecidableEq α]

/-- Take an element off a list, or put it at the end. -/
def toggle (element : α) (elements : List α) : List α :=
  if element ∈ elements then elements.erase element else elements ++ [element]

/-- What toggles one after another make of a list. -/
def toggleAll (elements toggles : List α) : List α :=
  toggles.foldl (fun elements element => toggle element elements) elements

/-- How many toggles there were after the last one of an element. -/
def sinceLast (toggles : List α) (element : α) : Nat :=
  toggles.reverse.idxOf element

/-- What is left in a list after toggles. -/
structure AfterToggles (toggles elements : List α) : Prop where
  /-- No element is there twice. -/
  once : elements.Nodup
  /-- The elements are those toggled an odd number of times. -/
  odd : ∀ element, element ∈ elements ↔ toggles.count element % 2 = 1
  /-- The last toggle of an element was before those of the elements that come after it. -/
  ordered : elements.Pairwise fun first second =>
    sinceLast toggles second < sinceLast toggles first

variable {toggles elements : List α} {element other : α}

/-! ## One toggle -/

/-- A toggle changes whether its element is in the list, and nothing about the others. -/
theorem mem_toggle_iff (once : elements.Nodup) :
    other ∈ toggle element elements ↔
      if other = element then element ∉ elements else other ∈ elements := by
  rw [toggle]
  split
  · rename_i present
    rw [once.mem_erase_iff]
    split
    · rename_i same
      exact iff_of_false (fun erased => erased.1 same) (not_not_intro present)
    · rename_i different
      exact and_iff_right different
  · rename_i absent
    rw [List.mem_append, List.mem_singleton]
    split
    · rename_i same
      exact iff_of_true (.inr same) absent
    · rename_i different
      exact or_iff_left different

theorem nodup_toggle (once : elements.Nodup) (element : α) : (toggle element elements).Nodup := by
  rw [toggle]
  split
  · exact once.erase element
  · rename_i absent
    rw [List.nodup_append]
    refine ⟨once, List.nodup_singleton element, ?_⟩
    rintro other member _ last rfl
    exact absent (List.mem_singleton.mp last ▸ member)

theorem toggle_eq_eraseIdx (once : elements.Nodup) {index : Nat}
    (found : elements[index]? = some element) :
    toggle element elements = elements.eraseIdx index := by
  obtain ⟨inRange, rfl⟩ := List.getElem?_eq_some_iff.mp found
  rw [toggle, if_pos (List.getElem_mem inRange), once.erase_getElem index inRange]

/-- A toggle was just now, and the toggles of the other elements are one more toggle ago. -/
theorem sinceLast_concat (toggles : List α) (element other : α) :
    sinceLast (toggles ++ [element]) other =
      if element = other then 0 else sinceLast toggles other + 1 := by
  rw [sinceLast, List.reverse_append, List.reverse_singleton, List.singleton_append,
    List.idxOf_cons]
  by_cases same : element = other
  · simp [same]
  · rw [if_neg same, beq_eq_false_iff_ne.mpr same, cond_false, sinceLast]

/-- One more toggle. -/
theorem AfterToggles.toggle (after : AfterToggles toggles elements) (element : α) :
    AfterToggles (toggles ++ [element]) (toggle element elements) where
  once := nodup_toggle after.once element
  odd other := by
    rw [mem_toggle_iff after.once, List.count_append, List.count_singleton]
    split
    · rename_i same
      rw [after.odd, same, beq_self_eq_true, if_pos rfl]
      omega
    · rename_i different
      have miss : (element == other) = false := beq_eq_false_iff_ne.mpr (Ne.symm different)
      rw [after.odd, miss]
      rfl
  ordered := by
    have later : elements.Pairwise fun first second => element ≠ first → element ≠ second →
        sinceLast (toggles ++ [element]) second < sinceLast (toggles ++ [element]) first := by
      refine after.ordered.imp fun before first second => ?_
      rw [sinceLast_concat, sinceLast_concat, if_neg first, if_neg second]
      omega
    rw [Toggles.toggle]
    split
    · refine (later.sublist List.erase_sublist).imp_of_mem fun first second before => ?_
      exact before (after.once.mem_erase_iff.mp first).1.symm
        (after.once.mem_erase_iff.mp second).1.symm
    · rename_i absent
      rw [List.pairwise_append]
      refine ⟨later.imp_of_mem fun first second before => ?_, List.pairwise_singleton _ _, ?_⟩
      · exact before (ne_of_mem_of_not_mem first absent).symm
          (ne_of_mem_of_not_mem second absent).symm
      · rintro first member _ last
        rw [List.mem_singleton.mp last, sinceLast_concat, sinceLast_concat, if_pos rfl,
          if_neg (ne_of_mem_of_not_mem member absent).symm]
        omega

/-! ## All toggles -/

theorem toggleAll_append (elements first second : List α) :
    toggleAll elements (first ++ second) = toggleAll (toggleAll elements first) second :=
  List.foldl_append

/-- Toggles change whether the elements toggled an odd number of times are in the list. -/
theorem mem_toggleAll_iff (once : elements.Nodup) :
    other ∈ toggleAll elements toggles ↔
      if toggles.count other % 2 = 1 then other ∉ elements else other ∈ elements := by
  induction toggles generalizing elements with
  | nil => rfl
  | cons first rest ih =>
      rw [toggleAll, List.foldl_cons, ← toggleAll, ih (nodup_toggle once first),
        mem_toggle_iff once, List.count_cons]
      by_cases same : other = first
      · subst same
        rw [if_pos rfl, beq_self_eq_true, if_pos rfl]
        rcases Nat.mod_two_eq_zero_or_one (rest.count other) with even | odd
        · rw [if_neg (by omega), if_pos (by omega)]
        · rw [if_pos odd, if_neg (by omega), not_not]
      · rw [if_neg same, beq_eq_false_iff_ne.mpr (Ne.symm same)]
        rfl

/-- **Toggles leave the elements toggled an odd number of times, each once, in the order of
their last toggles.** -/
theorem toggled_afterToggles (toggles : List α) : AfterToggles toggles (toggleAll [] toggles) := by
  induction toggles using List.reverseRecOn with
  | nil =>
      refine ⟨List.nodup_nil, fun element => ?_, List.Pairwise.nil⟩
      exact iff_of_false List.not_mem_nil (by simp)
  | append_singleton before element ih =>
      rw [toggleAll, List.foldl_append]
      exact ih.toggle element

end Toggles
