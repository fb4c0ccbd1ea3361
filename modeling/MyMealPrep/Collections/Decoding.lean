import Mathlib.Data.List.Basic

/-!
# Decoding a list as a whole

A list is decoded element by element, and the first element that cannot be decoded
ends the decoding with its failure. What was decoded is filtered afterwards.

The filter comes too late to hide a failure. Two lists that agree on the elements
kept have the same result exactly when their first failures are the same
(`filter_mapM_eq_iff`).
-/

set_option autoImplicit false

namespace Decoding

variable {α β ε : Type}

/-- How an element fails, if it does. -/
def failure (decode : α → Except ε β) (element : α) : Option ε :=
  match decode element with
  | .error reason => some reason
  | .ok _ => none

/-- How the first element that fails does so. -/
def firstFailure (decode : α → Except ε β) (elements : List α) : Option ε :=
  elements.findSome? (failure decode)

/-- What an element is decoded to. -/
def decoded (decode : α → Except ε β) (element : α) : Option β :=
  match decode element with
  | .error _ => none
  | .ok value => some value

variable {decode : α → Except ε β}

theorem firstFailure_cons (decode : α → Except ε β) (element : α) (rest : List α) :
    firstFailure decode (element :: rest) =
      (failure decode element).or (firstFailure decode rest) := by
  rw [firstFailure, List.findSome?_cons]
  cases failure decode element <;> rfl

/-- The first failure decides whether a list is decoded. -/
theorem mapM_eq (decode : α → Except ε β) (elements : List α) :
    elements.mapM decode =
      match firstFailure decode elements with
      | some reason => .error reason
      | none => .ok (elements.filterMap (decoded decode)) := by
  induction elements with
  | nil => rfl
  | cons element rest ih =>
      rw [List.mapM_cons, ih, firstFailure_cons, failure]
      cases read : decode element with
      | error reason => rfl
      | ok value =>
          have taken : decoded decode element = some value := by rw [decoded, read]
          rw [List.filterMap_cons_some taken]
          cases firstFailure decode rest <;> rfl

/-- A filter that can be read off the elements may as well come first. -/
theorem filter_filterMap_decoded {own : β → Bool} {mine : α → Bool}
    (agrees : ∀ element value, decode element = .ok value → own value = mine element)
    (elements : List α) :
    (elements.filterMap (decoded decode)).filter own =
      (elements.filter mine).filterMap (decoded decode) := by
  induction elements with
  | nil => rfl
  | cons element rest ih =>
      cases read : decode element with
      | error reason =>
          have dropped : decoded decode element = none := by rw [decoded, read]
          rw [List.filterMap_cons_none dropped, ih]
          cases kept : mine element with
          | false => rw [List.filter_cons_of_neg (by simp [kept])]
          | true => rw [List.filter_cons_of_pos kept, List.filterMap_cons_none dropped]
      | ok value =>
          have same := agrees element value read
          have taken : decoded decode element = some value := by rw [decoded, read]
          rw [List.filterMap_cons_some taken]
          cases kept : mine element with
          | false =>
              rw [List.filter_cons_of_neg (by simp [same, kept]),
                List.filter_cons_of_neg (by simp [kept]), ih]
          | true =>
              rw [List.filter_cons_of_pos (same.trans kept), List.filter_cons_of_pos kept,
                List.filterMap_cons_some taken, ih]

/-- Without reasons, a list cannot be decoded exactly when one of its elements cannot. -/
theorem mapM_eq_none_iff {decode : α → Option β} {elements : List α} :
    elements.mapM decode = none ↔ ∃ element ∈ elements, decode element = none := by
  induction elements with
  | nil => simp
  | cons element rest ih =>
      rw [List.mapM_cons, List.exists_mem_cons_iff, ← ih]
      cases decode element with
      | none => exact iff_of_true rfl (.inl rfl)
      | some value => cases rest.mapM decode <;> simp

/-- **Lists that agree on the elements kept have the same result exactly when they fail
alike.** -/
theorem filter_mapM_eq_iff {own : β → Bool} {mine : α → Bool}
    (agrees : ∀ element value, decode element = .ok value → own value = mine element)
    {first second : List α} (same : first.filter mine = second.filter mine) :
    (first.mapM decode).map (List.filter own) = (second.mapM decode).map (List.filter own) ↔
      firstFailure decode first = firstFailure decode second := by
  rw [mapM_eq, mapM_eq]
  cases firstFailure decode first with
  | some reason =>
      cases firstFailure decode second with
      | some other => simp [Except.map]
      | none => simp [Except.map]
  | none =>
      cases firstFailure decode second with
      | some other => simp [Except.map]
      | none =>
          simp only [Except.map, filter_filterMap_decoded agrees, same]

end Decoding
