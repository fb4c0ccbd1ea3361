import MyMealPrep.Machines.FreshKeys

/-!
# Clients that other code changes too

A program is a part of an application, and the rest of the application may change the
state of a client between two of its handlers. `Program.withOutside` is the program
together with such changes: they are actions that issue no requests.

A step is a step of the program itself or a change from outside
(`stepCase_withOutside`), so what was proved about the steps of the program carries
over, and its server is the same store (`Store.withOutside`).
-/

set_option autoImplicit false

namespace RequestReply

variable {Client Server Request Reply Continuation Action Input Fate Event Outside κ ν : Type}

/-- An action of the program itself, or a change from outside. -/
inductive OrOutside (Action Outside : Type) where
  | own (action : Action)
  | outside (change : Outside)
deriving DecidableEq, Repr

namespace Program

variable (P : Program Client Server Request Reply Continuation Action Input Fate Event)
  (apply : Outside → Client → Client)

/-- The program with changes of its clients from outside. -/
def withOutside : Program Client Server Request Reply Continuation (OrOutside Action Outside)
    Input Fate Event where
  handle action client :=
    match action with
    | .own action => P.handle action client
    | .outside change => some { client := apply change client }
  resume := P.resume
  serve := P.serve
  seen := P.seen

/-- A label of the program itself among those with changes from outside. -/
def ownLabel : Label Action Input Fate → Label (OrOutside Action Outside) Input Fate
  | .act client action => .act client (.own action)
  | .serve index fate => .serve index fate
  | .deliver index input => .deliver index input

variable {P apply}
variable {s s' : State Client Server Request Reply Continuation}
  {label : Label (OrOutside Action Outside) Input Fate} {output : Output Request Continuation Event}

/-- **A step is one of the program itself, or a change from outside.** -/
theorem stepCase_withOutside (stepped : (P.withOutside apply).StepCase s label output s') :
    (∃ inner, label = ownLabel inner ∧ P.StepCase s inner output s') ∨
    ∃ client change, label = .act client (.outside change) ∧ output = { client } ∧
      s' = s.commit client s.tasks
        ({ client := apply change (s.clients client) } :
          Effect Client Request Continuation Event) := by
  cases stepped with
  | @act client action effect handled =>
      cases action with
      | own action => exact .inl ⟨.act client action, rfl, .act handled⟩
      | outside change =>
          obtain rfl := Option.some.inj handled
          exact .inr ⟨client, change, rfl, rfl, rfl⟩
  | @serve index fate task inFlight waiting =>
      exact .inl ⟨.serve index fate, rfl, .serve inFlight waiting⟩
  | @deliver index input task reply effect inFlight answered resumed =>
      exact .inl ⟨.deliver index input, rfl, .deliver inFlight answered resumed⟩

end Program

/-- The same store, seen from the program with changes from outside. -/
def Store.withOutside
    {P : Program Client Server Request Reply Continuation Action Input Fate Event}
    (K : Store P κ ν) (apply : Outside → Client → Client) : Store (P.withOutside apply) κ ν where
  contents := K.contents
  writes := K.writes
  removes := K.removes
  lists := K.lists
  contents_serve := K.contents_serve
  removes_serve := K.removes_serve
  lists_answer := K.lists_answer

end RequestReply
