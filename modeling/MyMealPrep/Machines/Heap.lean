import Mathlib.Data.List.Basic

/-!
# Objects and references

Objects of a class are shared: every holder of a reference sees what another one
does to the object. A heap keeps the objects in the order of their allocation, a
reference is a position. Objects are never moved or freed, so what was allocated
stays readable (`read_alloc_of_read`), and changing one object leaves the others
(`read_modify`).
-/

set_option autoImplicit false

/-- A reference to an object. -/
abbrev Ref := Nat

/-- The objects of a class, by their references. -/
structure Heap (α : Type) where
  objects : List α := []
deriving DecidableEq, Repr

namespace Heap

variable {α : Type}

/-- The object behind a reference. -/
def read (heap : Heap α) (ref : Ref) : Option α :=
  heap.objects[ref]?

/-- A new object. -/
def alloc (heap : Heap α) (object : α) : Heap α × Ref :=
  (⟨heap.objects ++ [object]⟩, heap.objects.length)

/-- New objects, in order. -/
def allocAll (heap : Heap α) (objects : List α) : Heap α × List Ref :=
  (⟨heap.objects ++ objects⟩, List.range' heap.objects.length objects.length)

/-- Change the object behind a reference. -/
def modify (heap : Heap α) (ref : Ref) (change : α → α) : Heap α :=
  ⟨heap.objects.modify ref change⟩

variable {heap : Heap α} {ref : Ref} {object : α}

@[simp] theorem read_alloc_self (heap : Heap α) (object : α) :
    (heap.alloc object).1.read (heap.alloc object).2 = some object := by
  simp [read, alloc]

theorem read_alloc_of_read (found : heap.read ref = some object) (new : α) :
    (heap.alloc new).1.read ref = some object := by
  rw [read, alloc, List.getElem?_append_left (List.getElem?_eq_some_iff.mp found).1]
  exact found

theorem of_read_alloc {new : α} (found : (heap.alloc new).1.read ref = some object) :
    heap.read ref = some object ∨ ref = (heap.alloc new).2 ∧ object = new := by
  rw [read, alloc, List.getElem?_append] at found
  split at found
  · exact .inl found
  · rename_i beyond
    rw [List.getElem?_singleton] at found
    split at found
    · rename_i last
      refine .inr ⟨?_, (Option.some.inj found).symm⟩
      exact Nat.le_antisymm (Nat.sub_eq_zero_iff_le.mp last) (Nat.le_of_not_lt beyond)
    · cases found

/-- The new references read the new objects. -/
theorem map_read_allocAll (heap : Heap α) (objects : List α) :
    (heap.allocAll objects).2.map (heap.allocAll objects).1.read = objects.map some := by
  refine List.ext_getElem (by simp [allocAll]) fun index inRange _ => ?_
  have inObjects : index < objects.length := by simpa [allocAll] using inRange
  simp [allocAll, read, inObjects]

theorem isSome_read_allocAll {objects : List α} (member : ref ∈ (heap.allocAll objects).2) :
    ((heap.allocAll objects).1.read ref).isSome = true := by
  have read := List.mem_map_of_mem (f := (heap.allocAll objects).1.read) member
  rw [map_read_allocAll] at read
  obtain ⟨object, _, same⟩ := List.mem_map.mp read
  rw [← same]
  rfl

theorem read_modify (heap : Heap α) (ref other : Ref) (change : α → α) :
    (heap.modify ref change).read other =
      if ref = other then (heap.read other).map change else heap.read other := by
  rw [read, modify, List.getElem?_modify]
  split <;> simp [read]

theorem isSome_read_modify (heap : Heap α) (ref other : Ref) (change : α → α) :
    ((heap.modify ref change).read other).isSome = (heap.read other).isSome := by
  rw [read_modify]
  split
  · exact Option.isSome_map
  · rfl

/-! ## Growing heaps -/

/-- Everything readable stays as it is. -/
def Extends (old new : Heap α) : Prop :=
  ∀ ref object, old.read ref = some object → new.read ref = some object

theorem Extends.refl (heap : Heap α) : heap.Extends heap := fun _ _ found => found

theorem Extends.trans {first second third : Heap α} (left : first.Extends second)
    (right : second.Extends third) : first.Extends third :=
  fun ref object found => right ref object (left ref object found)

theorem Extends.isSome_read {old new : Heap α} (grows : old.Extends new)
    (readable : (old.read ref).isSome = true) : (new.read ref).isSome = true := by
  obtain ⟨object, found⟩ := Option.isSome_iff_exists.mp readable
  rw [grows ref object found]
  rfl

/-- What is not readable in the larger heap was not so in the smaller one. -/
theorem Extends.read_eq_none {old new : Heap α} (grows : old.Extends new)
    (missing : new.read ref = none) : old.read ref = none := by
  cases found : old.read ref with
  | none => rfl
  | some object =>
      rw [grows ref object found] at missing
      cases missing

/-- New references read the new objects in a larger heap too. -/
theorem Extends.map_read_allocAll {old new : Heap α} {objects : List α}
    (grows : (old.allocAll objects).1.Extends new) :
    (old.allocAll objects).2.map new.read = objects.map some := by
  rw [← Heap.map_read_allocAll old]
  refine List.map_congr_left fun ref member => ?_
  obtain ⟨object, found⟩ := Option.isSome_iff_exists.mp (isSome_read_allocAll member)
  rw [found]
  exact grows ref object found

theorem extends_alloc (heap : Heap α) (new : α) : heap.Extends (heap.alloc new).1 :=
  fun _ _ found => read_alloc_of_read found new

theorem extends_allocAll (heap : Heap α) (objects : List α) :
    heap.Extends (heap.allocAll objects).1 := by
  intro ref object found
  rw [read, allocAll, List.getElem?_append_left (List.getElem?_eq_some_iff.mp found).1]
  exact found

theorem read_alloc_eq_none (heap : Heap α) (new : α) : heap.read (heap.alloc new).2 = none := by
  simp [read, alloc]

theorem read_allocAll_eq_none {objects : List α} (member : ref ∈ (heap.allocAll objects).2) :
    heap.read ref = none := by
  have beyond : heap.objects.length ≤ ref := (List.mem_range'_1.mp member).1
  simpa [read] using beyond

end Heap
