import Mathlib.Data.Multiset.AddSub
import MyMealPrep.Collections.ListMoves
import MyMealPrep.Machines.Heap

/-!
# Lists seen as bags

Where the order of a list does not matter, a list is the bag of its entries. `Change` is
what can be done to a bag: entries are added, one is removed or replaced, all of them
go.

The operations on lists are such changes. A list of references is seen as the bag of the
objects behind them, where changing an object in place replaces it in the bag
(`contents_modify`).
-/

set_option autoImplicit false

namespace Bags

variable {α : Type}

/-! ## Changes -/

/-- What can be done to a bag. -/
inductive Change (α : Type) where
  | keep
  | add (entries : List α)
  | remove (entry : α)
  | replace (entry other : α)
  | clear
deriving DecidableEq, Repr

/-- The bag after a change. -/
def Change.apply [DecidableEq α] : Change α → Multiset α → Multiset α
  | keep, bag => bag
  | add entries, bag => entries + bag
  | remove entry, bag => bag.erase entry
  | replace entry other, bag => other ::ₘ bag.erase entry
  | clear, _ => 0

/-! ## Lists -/

section

variable {items moved : List α} {index : Nat} {item : α}

/-- A list with one position removed has one entry less. -/
theorem coe_eraseIdx [DecidableEq α] (found : items[index]? = some item) :
    (items.eraseIdx index : Multiset α) = (items : Multiset α).erase item := by
  obtain ⟨inRange, rfl⟩ := List.getElem?_eq_some_iff.mp found
  have whole : (items : Multiset α) = items[index] ::ₘ (items.eraseIdx index : Multiset α) :=
    Multiset.coe_eq_coe.mpr (List.getElem_cons_eraseIdx_perm inRange).symm
  rw [whole, Multiset.erase_cons_head]

/-- A move keeps the entries. -/
theorem coe_move {source destination : Nat}
    (performed : ListMoves.move items source destination = some moved) :
    (moved : Multiset α) = items := by
  obtain ⟨first, found, inRange, rfl⟩ := ListMoves.move_eq_some_iff.mp performed
  obtain ⟨sourceInRange, rfl⟩ := List.getElem?_eq_some_iff.mp found
  have shorter : destination ≤ (items.eraseIdx source).length := by
    rw [List.length_eraseIdx_of_lt sourceInRange]
    omega
  exact Multiset.coe_eq_coe.mpr
    ((List.perm_insertIdx _ _ shorter).trans (List.getElem_cons_eraseIdx_perm sourceInRange))

end

/-! ## References -/

section

variable {refs : List Ref} {heap : Heap α} {ref : Ref} {change : α → α}

theorem filterMap_modify_of_not_mem (missing : ref ∉ refs) :
    refs.filterMap (heap.modify ref change).read = refs.filterMap heap.read := by
  refine List.filterMap_congr fun other member => ?_
  rw [Heap.read_modify, if_neg]
  rintro rfl
  exact missing member

/-- **Changing an object in place replaces it** among the objects of a list that refers to
it once. -/
theorem contents_modify [DecidableEq α] {object : α} (once : refs.Nodup) (member : ref ∈ refs)
    (read : heap.read ref = some object) :
    (refs.filterMap (heap.modify ref change).read : Multiset α) =
      change object ::ₘ (refs.filterMap heap.read : Multiset α).erase object := by
  induction refs with
  | nil => cases member
  | cons first rest ih =>
      obtain ⟨notInRest, onceInRest⟩ := List.nodup_cons.mp once
      by_cases same : first = ref
      · subst same
        have changed : (heap.modify first change).read first = some (change object) := by
          rw [Heap.read_modify, if_pos rfl, read, Option.map_some]
        rw [List.filterMap_cons_some changed, List.filterMap_cons_some read,
          filterMap_modify_of_not_mem notInRest, ← Multiset.cons_coe, ← Multiset.cons_coe,
          Multiset.erase_cons_head]
      · have inRest := (List.mem_cons.mp member).resolve_left (Ne.symm same)
        have kept : (heap.modify ref change).read first = heap.read first := by
          rw [Heap.read_modify, if_neg (Ne.symm same)]
        cases found : heap.read first with
        | none =>
            rw [List.filterMap_cons_none (kept.trans found), List.filterMap_cons_none found]
            exact ih onceInRest inRest
        | some other =>
            have listed : object ∈ (rest.filterMap heap.read : Multiset α) :=
              Multiset.mem_coe.mpr (List.mem_filterMap.mpr ⟨ref, inRest, read⟩)
            rw [List.filterMap_cons_some (kept.trans found), List.filterMap_cons_some found,
              ← Multiset.cons_coe, ← Multiset.cons_coe, ih onceInRest inRest, Multiset.cons_swap,
              Multiset.erase_cons_tail_of_mem listed]

end

end Bags
