import MyMealPrep.Login.System

/-!
# What the local store shows

A client sees the users collection with its own writes in flight applied. No document is
missing from what it sees, and what holds of the documents of the server and survives each of
these writes holds of what it sees (`localUsers_induction`). A write that waits decides its
field, when no other write of that field waits (`textOf_localUsers_of_mem`).
-/

set_option autoImplicit false

namespace MyMealPrep.Login

open Firestore (Collection Document Value)

/-! ## One write -/

theorem isSome_localWrite {users : Collection} {id : String} (stored : users[id]?.isSome = true)
    (request : Request) : (localWrite users request)[id]?.isSome = true := by
  cases request with
  | setUser queue uuid data =>
      rw [localWrite, Collection.setData_get]
      split
      · rfl
      · exact stored
  | updateUser queue uuid field value =>
      rw [localWrite, Collection.updateData]
      split
      · exact stored
      · rw [Option.getD_some, OrderedMaps.getElem?_insert]
        split
        · rfl
        · exact stored
  | _ => exact stored

/-- An update sets its field in a document that is there. -/
theorem textOf_localWrite_updateUser (users : Collection) (queue : Option Nat)
    (uuid field value id other : String) :
    (localWrite users (.updateUser queue uuid field value)).textOf id other =
      if uuid = id ∧ field = other ∧ users[id]?.isSome = true then some value
      else users.textOf id other := by
  rw [localWrite]
  cases updated : users.updateData uuid field (.string value) with
  | none =>
      have missing : users[uuid]? = none := by
        cases found : users[uuid]? with
        | none => rfl
        | some document => simp [Collection.updateData, found] at updated
      rw [Option.getD_none, if_neg]
      rintro ⟨rfl, -, stored⟩
      rw [missing] at stored
      cases stored
  | some after =>
      obtain ⟨document, found, -⟩ := Collection.updateData_eq_some_iff.mp updated
      rw [Option.getD_some, Collection.textOf_updateData updated]
      refine if_congr ⟨?_, fun both => ⟨both.1, both.2.1⟩⟩ rfl rfl
      rintro ⟨rfl, same⟩
      exact ⟨rfl, same, by rw [found]; rfl⟩

/-! ## All that wait -/

section

variable {client : Client} {unanswered : List Request} {users : Collection}

/-- What survives every write that waits holds of what the client sees. -/
theorem localUsers_induction {P : Collection → Prop} (initial : P users)
    (write : ∀ request ∈ unanswered, request.queue = some client.queue →
      ∀ users, P users → P (localWrite users request)) :
    P (localUsers client unanswered users) := by
  refine List.foldlRecOn _ _ initial fun users before request member => ?_
  obtain ⟨waiting, queued⟩ := List.mem_filter.mp member
  exact write request waiting (eq_of_beq queued) users before

/-- An update that waits is seen when every other write that waits leaves it. -/
theorem textOf_localUsers_of_mem {id field value : String} (stored : users[id]?.isSome = true)
    (waits : .updateUser client.queue id field value ∈ unanswered)
    (leaves : ∀ request ∈ unanswered, ∀ users : Collection,
      users.textOf id field = some value →
        (localWrite users request).textOf id field = some value) :
    (localUsers client unanswered users).textOf id field = some value := by
  have queued : Request.updateUser client.queue id field value ∈
      unanswered.filter fun request => request.queue == some client.queue :=
    List.mem_filter.mpr ⟨waits, beq_self_eq_true _⟩
  obtain ⟨earlier, later, split⟩ := List.append_of_mem queued
  have stillStored : (earlier.foldl localWrite users)[id]?.isSome = true :=
    List.foldlRecOn (motive := fun users : Collection => users[id]?.isSome = true) _ _ stored
      fun _ before request _ => isSome_localWrite before request
  rw [localUsers, split, List.foldl_append, List.foldl_cons]
  refine List.foldlRecOn (motive := fun users : Collection =>
    users.textOf id field = some value) _ _ ?_ fun users before request member => ?_
  · rw [textOf_localWrite_updateUser, if_pos ⟨rfl, rfl, stillStored⟩]
  · refine leaves request ?_ users before
    have inFilter : request ∈ unanswered.filter fun request =>
        request.queue == some client.queue := by
      rw [split]
      exact List.mem_append_right _ (List.mem_cons_of_mem _ member)
    exact List.mem_of_mem_filter inFilter

theorem localUsers_eq_self (noWrite : ∀ request ∈ unanswered, request.queue = none) :
    localUsers client unanswered users = users := by
  have nothing : (unanswered.filter fun request => request.queue == some client.queue) = [] := by
    refine List.filter_eq_nil_iff.mpr fun request member queued => ?_
    have queue := eq_of_beq queued
    rw [noWrite request member] at queue
    cases queue
  rw [localUsers, nothing]
  rfl

end

end MyMealPrep.Login
