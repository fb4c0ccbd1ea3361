import Mathlib.Data.Option.Basic

/-!
# Runs of an event handler

A screen reacts to one event after another and waits for nothing. A handler has no
value where it traps, so a run has no step there. What holds at first and survives
every allowed event holds in every run (`Run.invariant`).

When a guard says exactly which events a property survives, then over a list of events
the property holds throughout exactly when each of them passes the guard where it
happens (`throughout_iff_allowed`).
-/

set_option autoImplicit false

namespace EventRuns

variable {State Event : Type}

/-- The states reached by events that a guard allows. -/
inductive Run (handle : Event → State → Option State) (allowed : State → Event → Prop)
    (s₀ : State) : State → Prop where
  | start : Run handle allowed s₀ s₀
  | step {s s' : State} {event : Event} (before : Run handle allowed s₀ s)
      (permitted : allowed s event) (handled : handle event s = some s') :
      Run handle allowed s₀ s'

/-- The guard that allows every event. -/
def anyEvent (_ : State) (_ : Event) : Prop := True

instance (s : State) (event : Event) : Decidable (anyEvent s event) :=
  inferInstanceAs (Decidable True)

/-- Handle a list of events, as long as the guard allows each of them. -/
def follow (handle : Event → State → Option State) (allowed : State → Event → Prop)
    [∀ s event, Decidable (allowed s event)] : State → List Event → Option State
  | s, [] => some s
  | s, event :: rest =>
      if allowed s event then
        (handle event s).bind fun next => follow handle allowed next rest
      else none

variable {handle : Event → State → Option State} {allowed : State → Event → Prop} {s₀ s s' : State}

/-- What holds at the start and survives every allowed event holds in every run. -/
theorem Run.invariant {I : State → Prop} (run : Run handle allowed s₀ s) (initial : I s₀)
    (preserved : ∀ {s event s'}, I s → allowed s event → handle event s = some s' → I s') :
    I s := by
  induction run with
  | start => exact initial
  | step _ permitted handled ih => exact preserved ih permitted handled

/-- A list of events that can be followed extends a run. -/
theorem Run.of_follow [∀ s event, Decidable (allowed s event)] {events : List Event}
    (run : Run handle allowed s₀ s) (followed : follow handle allowed s events = some s') :
    Run handle allowed s₀ s' := by
  induction events generalizing s with
  | nil =>
      obtain rfl := Option.some.inj followed
      exact run
  | cons event rest ih =>
      rw [follow] at followed
      obtain ⟨permitted, handled⟩ := Option.ite_none_right_eq_some.mp followed
      obtain ⟨next, stepped, restFollowed⟩ := Option.bind_eq_some_iff.mp handled
      exact ih (.step run permitted stepped) restFollowed

/-! ## Lists of events -/

/-- A property holds after each of a list of events, as far as they are handled. -/
def Throughout (handle : Event → State → Option State) (P : State → Prop) :
    State → List Event → Prop
  | _, [] => True
  | s, event :: rest => ∀ next ∈ handle event s, P next ∧ Throughout handle P next rest

/-- Each of a list of events passes a guard where it is handled. -/
def Allowed (handle : Event → State → Option State) (allowed : State → Event → Prop) :
    State → List Event → Prop
  | _, [] => True
  | s, event :: rest => ∀ next ∈ handle event s, allowed s event ∧ Allowed handle allowed next rest

/-- **A property holds throughout exactly when every event passes the guard that says which
events it survives.** -/
theorem throughout_iff_allowed {P : State → Prop}
    (survives : ∀ {s event s'}, P s → handle event s = some s' → (P s' ↔ allowed s event))
    (holds : P s) (events : List Event) :
    Throughout handle P s events ↔ Allowed handle allowed s events := by
  induction events generalizing s with
  | nil => exact Iff.rfl
  | cons event rest ih =>
      refine forall₂_congr fun next handled => ?_
      rw [← survives holds handled]
      exact and_congr_right fun still => ih still

end EventRuns
