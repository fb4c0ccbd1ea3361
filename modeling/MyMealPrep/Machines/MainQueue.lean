import Mathlib.Data.List.Basic

/-!
# A main queue of assignments

Callbacks that may not touch a view put blocks on the main queue, and each block
assigns a value to the view. What the view will have once the queue is drained is the
value of the last block, or what it has (`drained`). A block put on the queue sets
it, and running a block leaves it.
-/

set_option autoImplicit false

namespace MainQueue

variable {α : Type}

/-- What a view will have once its blocks have run. -/
def drained (shown : Option α) (blocks : List α) : Option α :=
  blocks.getLast?.or shown

@[simp] theorem drained_nil (shown : Option α) : drained shown [] = shown := rfl

theorem drained_run (shown : Option α) (value : α) (rest : List α) :
    drained (some value) rest = drained shown (value :: rest) := by
  rw [drained, drained, List.getLast?_cons]
  cases rest.getLast? <;> rfl

theorem drained_append (shown : Option α) (blocks new : List α) :
    drained shown (blocks ++ new) = new.getLast?.or (drained shown blocks) := by
  rw [drained, drained, List.getLast?_append, Option.or_assoc]

end MainQueue
