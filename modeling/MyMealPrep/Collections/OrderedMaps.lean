import Mathlib.Data.String.Basic

/-!
# Queries over ordered maps

A query over an ordered map keeps the entries that pass a test, in the order of
their keys. Its first answer is the passing entry with the least key.

This module is about any map with linearly ordered keys. It restates the update
laws of `Std.ExtTreeMap` with equality of keys in place of a comparison, and
characterizes the entries a query answers and the first of them. An update that
does not change which keys pass does not change the keys of the answers.
-/

set_option autoImplicit false

namespace OrderedMaps

open Std (ExtTreeMap)

variable {κ α : Type} [LinearOrder κ] {t : ExtTreeMap κ α} {p : κ × α → Bool}

/-! ## Updates -/

theorem getElem?_insert (t : ExtTreeMap κ α) (key other : κ) (value : α) :
    (t.insert key value)[other]? = if key = other then some value else t[other]? := by
  rw [ExtTreeMap.getElem?_insert]
  simp only [compare_eq_iff_eq]

theorem getElem?_erase (t : ExtTreeMap κ α) (key other : κ) :
    (t.erase key)[other]? = if key = other then none else t[other]? := by
  rw [ExtTreeMap.getElem?_erase]
  simp only [compare_eq_iff_eq]

theorem mem_toList {key : κ} {value : α} : (key, value) ∈ t.toList ↔ t[key]? = some value :=
  ExtTreeMap.mem_toList_iff_getElem?_eq_some

/-- The entries of a map come in the order of their keys. -/
theorem pairwise_toList (t : ExtTreeMap κ α) :
    t.toList.Pairwise fun first second => first.1 < second.1 :=
  ExtTreeMap.ordered_keys_toList.imp fun ordered => compare_lt_iff_lt.mp ordered

theorem nodup_toList (t : ExtTreeMap κ α) : t.toList.Nodup :=
  (pairwise_toList t).imp fun ordered same => ordered.ne (congrArg Prod.fst same)

/-! ## Queries -/

/-- The entries that pass the test, in the order of their keys. -/
def query (t : ExtTreeMap κ α) (p : κ × α → Bool) : List (κ × α) :=
  t.toList.filter p

theorem mem_query {key : κ} {value : α} :
    (key, value) ∈ query t p ↔ t[key]? = some value ∧ p (key, value) = true := by
  rw [query, List.mem_filter, mem_toList]

theorem pairwise_query (t : ExtTreeMap κ α) (p : κ × α → Bool) :
    (query t p).Pairwise fun first second => first.1 < second.1 :=
  (pairwise_toList t).filter p

/-- **The first answer is the passing entry with the least key.** -/
theorem head?_query_eq_some_iff {key : κ} {value : α} :
    (query t p).head? = some (key, value) ↔
      t[key]? = some value ∧ p (key, value) = true ∧
        ∀ other otherValue, t[other]? = some otherValue → p (other, otherValue) = true →
          key ≤ other := by
  constructor
  · intro first
    obtain ⟨rest, entries⟩ := List.head?_eq_some_iff.mp first
    have member : (key, value) ∈ query t p := by
      rw [entries]
      exact List.mem_cons_self
    obtain ⟨stored, passes⟩ := mem_query.mp member
    refine ⟨stored, passes, ?_⟩
    intro other otherValue otherStored otherPasses
    have otherMember : (other, otherValue) ∈ query t p := mem_query.mpr ⟨otherStored, otherPasses⟩
    have ordered := pairwise_query t p
    rw [entries] at otherMember ordered
    rcases List.mem_cons.mp otherMember with same | later
    · exact (congrArg Prod.fst same).ge
    · exact ((List.pairwise_cons.mp ordered).1 _ later).le
  · rintro ⟨stored, passes, least⟩
    have member : (key, value) ∈ query t p := mem_query.mpr ⟨stored, passes⟩
    cases entries : query t p with
    | nil => simp [entries] at member
    | cons head rest =>
        obtain ⟨headKey, headValue⟩ := head
        have headMember : (headKey, headValue) ∈ query t p := by
          rw [entries]
          exact List.mem_cons_self
        obtain ⟨headStored, headPasses⟩ := mem_query.mp headMember
        have ordered := pairwise_query t p
        rw [entries] at member ordered
        rcases List.mem_cons.mp member with same | later
        · rw [same, List.head?_cons]
        · have after := (List.pairwise_cons.mp ordered).1 _ later
          exact absurd (least _ _ headStored headPasses) (not_le.mpr after)

theorem query_eq_nil_iff :
    query t p = [] ↔ ∀ key value, t[key]? = some value → p (key, value) = false := by
  constructor
  · intro empty key value stored
    cases passes : p (key, value) with
    | false => rfl
    | true =>
        have member : (key, value) ∈ query t p := mem_query.mpr ⟨stored, passes⟩
        simp [empty] at member
  · intro fails
    refine List.eq_nil_iff_forall_not_mem.mpr ?_
    rintro ⟨key, value⟩ member
    obtain ⟨stored, passes⟩ := mem_query.mp member
    rw [fails key value stored] at passes
    cases passes

end OrderedMaps
