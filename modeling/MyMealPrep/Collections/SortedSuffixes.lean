import Mathlib.Data.List.Sort

/-!
# Suffixes of sorted lists

A list is put in the order of its keys. What comes last then is what came last before
exactly when it is in order already, and after everything else
(`drop_eq_drop_iff`).
-/

set_option autoImplicit false

namespace SortedSuffixes

variable {α κ : Type} [LinearOrder κ] {key : α → κ} {elements sorted : List α}

/-- The keys of a list in their strict order. -/
def Ascending (key : α → κ) (elements : List α) : Prop :=
  elements.Pairwise fun first second => key first < key second

theorem Ascending.nodup (ascending : Ascending key elements) : (elements.map key).Nodup := by
  rw [List.Nodup, List.pairwise_map]
  exact ascending.imp fun ordered => ordered.ne

theorem Ascending.eq_of_perm (first : Ascending key elements) (second : Ascending key sorted)
    (perm : elements.Perm sorted) : elements = sorted := by
  refine List.Perm.eq_of_pairwise ?_ first second perm
  exact fun _ _ _ _ less greater => absurd greater less.asymm

/-- Any list without equal keys can be put in order. -/
theorem exists_ascending (distinct : (elements.map key).Nodup) :
    ∃ ordered, ordered.Perm elements ∧ Ascending key ordered := by
  let inOrder : α → α → Bool := fun first second => decide (key first ≤ key second)
  have perm := List.mergeSort_perm elements inOrder
  have weakly : (elements.mergeSort inOrder).Pairwise fun first second =>
      inOrder first second = true := by
    apply List.pairwise_mergeSort
    · intro first second third less more
      exact decide_eq_true ((of_decide_eq_true less).trans (of_decide_eq_true more))
    · intro first second
      rw [Bool.or_eq_true]
      exact (le_total (key first) (key second)).imp decide_eq_true decide_eq_true
  have different : (elements.mergeSort inOrder).Pairwise fun first second =>
      key first ≠ key second :=
    List.pairwise_map.mp ((perm.map key).nodup_iff.mpr distinct)
  refine ⟨_, perm, (weakly.and different).imp ?_⟩
  exact fun both => lt_of_le_of_ne (of_decide_eq_true both.1) both.2

/-- **The last elements stay the last ones, in their order, exactly when they are in order and
after all others.** -/
theorem drop_eq_drop_iff (perm : sorted.Perm elements) (ascending : Ascending key sorted)
    (index : Nat) :
    sorted.drop index = elements.drop index ↔
      Ascending key (elements.drop index) ∧
        ∀ first ∈ elements.take index, ∀ second ∈ elements.drop index,
          key first < key second := by
  have parts := List.take_append_drop index sorted
  constructor
  · intro same
    rw [Ascending, ← parts, List.pairwise_append] at ascending
    obtain ⟨-, later, across⟩ := ascending
    rw [same] at later across
    refine ⟨later, fun first early => across first ?_⟩
    -- The first parts have the same elements, since the last ones do.
    have first : (sorted.take index).Perm (elements.take index) := by
      rw [← parts, ← List.take_append_drop index elements, same] at perm
      exact (List.perm_append_right_iff _).mp perm
    exact first.mem_iff.mpr early
  · rintro ⟨later, across⟩
    have distinct : ((elements.take index).map key).Nodup := by
      have all := (perm.map key).nodup_iff.mp ascending.nodup
      exact all.sublist ((List.take_sublist index elements).map key)
    obtain ⟨ordered, sameEarly, early⟩ := exists_ascending distinct
    have whole : sorted = ordered ++ elements.drop index := by
      refine ascending.eq_of_perm ?_ ?_
      · rw [Ascending, List.pairwise_append]
        exact ⟨early, later, fun first member => across first (sameEarly.mem_iff.mp member)⟩
      · have arranged := sameEarly.symm.append_right (elements.drop index)
        rw [List.take_append_drop] at arranged
        exact perm.trans arranged
    rcases Nat.le_total index elements.length with inRange | beyond
    · have length : ordered.length = index := by
        rw [sameEarly.length_eq, List.length_take, Nat.min_eq_left inRange]
      rw [whole, List.drop_left' length]
    · rw [List.drop_eq_nil_of_le beyond, List.drop_eq_nil_of_le (perm.length_eq ▸ beyond)]

end SortedSuffixes
