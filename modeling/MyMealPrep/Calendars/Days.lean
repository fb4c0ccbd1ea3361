import Mathlib.Data.Int.Range
import Mathlib.Logic.Function.Iterate
import Mathlib.Order.Lattice

/-!
# Days of a calendar

A calendar cuts a linear order of instants into days, which have the integers as their
numbers. An instant belongs to the last day whose midnight is not after it, so numbers
and instants are compared through one equivalence (`Calendar.le_day_iff`), and everything
else about the order of days follows from it. Days may differ in length.

The midnights of the days from one number to another are a list that is determined by
what it contains and its order (`Calendar.EveryDay`). A loop that starts with one
midnight and appends the next in every round has, after any number of rounds, the
midnights of one day more than rounds (`Calendar.iterate_append`).
-/

set_option autoImplicit false

/-- A calendar on a linear order of instants. -/
structure Calendar (Instant : Type*) [LinearOrder Instant] where
  /-- The first instant of a day. -/
  midnight : Int → Instant
  /-- The day of an instant. -/
  day : Instant → Int
  day_midnight : ∀ number, day (midnight number) = number
  le_day_iff : ∀ number instant, number ≤ day instant ↔ midnight number ≤ instant

namespace Calendar

variable {Instant : Type*} [LinearOrder Instant] (calendar : Calendar Instant)

/-! ## The order of days -/

theorem midnight_lt_iff (first second : Int) :
    calendar.midnight first < calendar.midnight second ↔ first < second := by
  apply lt_iff_lt_of_le_iff_le
  rw [← calendar.le_day_iff, calendar.day_midnight]

/-- Of two instants the earlier one is not on a later day. -/
theorem day_mono {earlier later : Instant} (ordered : earlier ≤ later) :
    calendar.day earlier ≤ calendar.day later := by
  have started : calendar.midnight (calendar.day earlier) ≤ earlier :=
    (calendar.le_day_iff _ _).mp le_rfl
  rw [calendar.le_day_iff]
  exact started.trans ordered

/-! ## The midnights from one day to another -/

/-- The list has one midnight for every day from the first to the last, in increasing order. -/
structure EveryDay (first last : Int) (instants : List Instant) : Prop where
  increasing : instants.Pairwise (· < ·)
  mem_iff : ∀ instant, instant ∈ instants ↔
    ∃ number, first ≤ number ∧ number ≤ last ∧ calendar.midnight number = instant

/-- The midnights of the days from the first to before the last. -/
def midnights (first last : Int) : List Instant :=
  (Int.range first last).map calendar.midnight

theorem pairwise_midnights (first last : Int) :
    (calendar.midnights first last).Pairwise (· < ·) := by
  rw [midnights, Int.range, List.map_map, List.pairwise_map]
  refine List.pairwise_lt_range.imp fun ordered => ?_
  apply (calendar.midnight_lt_iff _ _).mpr
  exact Int.add_lt_add_left (Int.ofNat_lt.mpr ordered) first

theorem everyDay_midnights (first last : Int) :
    calendar.EveryDay first last (calendar.midnights first (last + 1)) where
  increasing := calendar.pairwise_midnights first (last + 1)
  mem_iff instant := by
    simp only [midnights, List.mem_map, Int.mem_range_iff, Int.lt_add_one_iff, and_assoc]

variable {calendar}

/-- No midnight of a later day is in the list. -/
theorem EveryDay.le_last {first last number : Int} {instants : List Instant}
    (everyDay : calendar.EveryDay first last instants)
    (member : calendar.midnight number ∈ instants) : number ≤ last := by
  obtain ⟨other, -, within, same⟩ := (everyDay.mem_iff _).mp member
  rw [← calendar.day_midnight number, ← same, calendar.day_midnight]
  exact within

/-! ## Loops that append the next midnight -/

theorem midnights_succ {first last : Int} (ordered : first ≤ last) :
    calendar.midnights first (last + 1) =
      calendar.midnights first last ++ [calendar.midnight last] := by
  have count : (last + 1 - first).toNat = (last - first).toNat + 1 := by omega
  have number : first + ((last - first).toNat : Int) = last := by omega
  simp only [midnights, Int.range, count, List.range_succ, List.map_append, List.map_singleton,
    number]

/-- **A loop that appends the next midnight** has appended one for each round. -/
theorem iterate_append {step : List Instant → List Instant}
    (appends : ∀ instants number, step (instants ++ [calendar.midnight number]) =
      instants ++ [calendar.midnight number] ++ [calendar.midnight (number + 1)])
    (first : Int) (rounds : Nat) :
    step^[rounds] [calendar.midnight first] =
      calendar.midnights first (first + rounds) ++ [calendar.midnight (first + rounds)] := by
  induction rounds with
  | zero => simp [midnights, Int.range]
  | succ rounds ih =>
      have number : first + ((rounds + 1 : Nat) : Int) = first + rounds + 1 := by omega
      rw [Function.iterate_succ_apply', ih, appends, number, midnights_succ (by omega)]

end Calendar
