import MyMealPrep.Calendars.Days
import MyMealPrep.MealPlans.SwipeDeletes

/-!
# The dates of a new meal plan

`createMealPlan` rounds two instants to their midnights, counts the days between them and
appends the next midnight to a list, once for every number from 0 to the count. The list has
the first midnight before the loop starts, and the range of the loop includes both of its
ends.

Under a calendar of a fixed offset the function traps exactly when the second instant is
on an earlier day than the first (`isSome_createMealPlan_iff`), which a tap of the button
rules out (`isSome_selectRecipeButtonTapped`). But for every pair of instants the list goes
on to the midnight after the end day (`createMealPlan_one_day_more`).
-/

set_option autoImplicit false

namespace MyMealPrep

theorem Date.nanoseconds_injective : Function.Injective Date.nanoseconds := by
  rintro ⟨first⟩ ⟨second⟩ same
  exact congrArg Date.mk same

/-- Instants in the order of time. -/
instance : LinearOrder Date := LinearOrder.lift' Date.nanoseconds Date.nanoseconds_injective

namespace MealPlans

open MealPlanController

/-! ## Calendars of a fixed offset -/

/-- The calendar of a time zone with a fixed offset, in nanoseconds. All days have the same
length. -/
def fixedOffset (offset : Int) : Calendar Date where
  midnight number := ⟨number * oneDay - offset⟩
  day date := (date.nanoseconds + offset) / oneDay
  day_midnight number := by
    rw [Int.sub_add_cancel]
    exact Int.mul_ediv_cancel number (by decide)
  le_day_iff number date := by
    rw [Int.le_ediv_iff_mul_le (by decide), ← sub_le_iff_le_add]
    rfl

/-- The calendar of the platform has a fixed offset. It finds the midnight of the day of an
instant, and counts the days between two instants that are whole days apart. -/
structure FixedOffset (platform : Platform) (offset : Int) : Prop where
  startOfDay : ∀ date, platform.startOfDay date =
    some ((fixedOffset offset).midnight ((fixedOffset offset).day date))
  day : ∀ date days, platform.day date (addingTimeInterval date (days * (60 * 60 * 24))) = some days

/-! ## The property -/

/-- `createMealPlan` does not trap, and its dates are the midnights of the days from that of the
start to that of the end, each once and in increasing order. -/
def BuildsEveryDay (platform : Platform) (offset : Int) (startDate endDate : Date)
    (mealPlanUID : String) (clock : Nat → Date) (client : Client) : Prop :=
  (createMealPlan platform startDate endDate mealPlanUID clock client).isSome = true ∧
    ∃ built, dates platform startDate endDate clock = some built ∧
      (fixedOffset offset).EveryDay ((fixedOffset offset).day startDate)
        ((fixedOffset offset).day endDate) built

/-! ## The loop -/

section

variable {platform : Platform} {offset : Int} (calendar : FixedOffset platform offset)

theorem addingTimeInterval_midnight (offset number days : Int) :
    addingTimeInterval ((fixedOffset offset).midnight number) (days * (60 * 60 * 24)) =
      (fixedOffset offset).midnight (number + days) := by
  apply congrArg Date.mk
  change number * oneDay - offset + days * (60 * 60 * 24) * 1000000000 =
    (number + days) * oneDay - offset
  rw [oneDay]
  omega

theorem appendNextDay_concat (offset : Int) (built : List Date) (number : Int) :
    appendNextDay (built ++ [(fixedOffset offset).midnight number]) =
      built ++ [(fixedOffset offset).midnight number] ++
        [(fixedOffset offset).midnight (number + 1)] := by
  have next := addingTimeInterval_midnight offset number 1
  rw [Int.one_mul] at next
  rw [appendNextDay, List.getLast?_concat]
  simp only [next]

include calendar

theorem daysBetween_midnight (first last : Int) :
    daysBetween platform ((fixedOffset offset).midnight first)
      ((fixedOffset offset).midnight last) = last - first := by
  have apart := addingTimeInterval_midnight offset first (last - first)
  rw [add_sub_cancel] at apart
  rw [daysBetween, ← apart, calendar.day, Option.getD_some]

/-- The dates are the midnights of all days from the start to the end, and that of the day
after. The range of the loop is negative exactly when the end is on an earlier day. -/
theorem dates_eq (startDate endDate : Date) (clock : Nat → Date) :
    dates platform startDate endDate clock =
      if (fixedOffset offset).day endDate < (fixedOffset offset).day startDate then none
      else some ((fixedOffset offset).midnights ((fixedOffset offset).day startDate)
          ((fixedOffset offset).day endDate + 1) ++
        [(fixedOffset offset).midnight ((fixedOffset offset).day endDate + 1)]) := by
  rw [dates, calendar.startOfDay, calendar.startOfDay]
  simp only [Option.getD_some, daysBetween_midnight calendar]
  generalize (fixedOffset offset).day startDate = first
  generalize (fixedOffset offset).day endDate = last
  by_cases before : last < first
  · rw [if_pos before, if_pos (by omega)]
  · have rounds : first + (((last - first).toNat + 1 : Nat) : Int) = last + 1 := by omega
    rw [if_neg before, if_neg (by omega),
      Calendar.iterate_append (appendNextDay_concat offset) first, rounds]

/-- **`createMealPlan` traps exactly when the end is on an earlier day than the start.** -/
theorem isSome_createMealPlan_iff (startDate endDate : Date) (mealPlanUID : String)
    (clock : Nat → Date) (client : Client) :
    (createMealPlan platform startDate endDate mealPlanUID clock client).isSome = true ↔
      (fixedOffset offset).day startDate ≤ (fixedOffset offset).day endDate := by
  rw [createMealPlan, dates_eq calendar]
  by_cases before : (fixedOffset offset).day endDate < (fixedOffset offset).day startDate
  · rw [if_pos before]
    exact iff_of_false Bool.false_ne_true (not_le.mpr before)
  · rw [if_neg before]
    exact iff_of_true rfl (not_lt.mp before)

/-- A tap of the button does not trap, whatever the two pickers show. -/
theorem isSome_selectRecipeButtonTapped (startDate endDate : Date) (mealPlanUID : String)
    (clock : Nat → Date) (client : Client) :
    (selectRecipeButtonTapped platform startDate endDate mealPlanUID clock client).isSome =
      true := by
  rw [selectRecipeButtonTapped]
  split
  · rename_i ordered
    have created := (isSome_createMealPlan_iff calendar startDate endDate mealPlanUID clock
      client).mpr ((fixedOffset offset).day_mono (le_of_lt ordered))
    obtain ⟨after, created⟩ := Option.isSome_iff_exists.mp created
    rw [created]
    rfl
  · rfl

/-- **`createMealPlan` does not trap when the start is before the end, but it always builds one
midnight more than there are days**: that of the day after the end. -/
theorem createMealPlan_one_day_more {startDate endDate : Date}
    (ordered : startDate.nanoseconds < endDate.nanoseconds) (mealPlanUID : String)
    (clock : Nat → Date) (client : Client) :
    (createMealPlan platform startDate endDate mealPlanUID clock client).isSome = true ∧
    (∃ built, (fixedOffset offset).EveryDay ((fixedOffset offset).day startDate)
        ((fixedOffset offset).day endDate) built ∧
      dates platform startDate endDate clock =
        some (built ++ [(fixedOffset offset).midnight ((fixedOffset offset).day endDate + 1)])) ∧
    ¬ BuildsEveryDay platform offset startDate endDate mealPlanUID clock client := by
  have inOrder : startDate ≤ endDate := le_of_lt ordered
  have days := (fixedOffset offset).day_mono inOrder
  have built := dates_eq calendar startDate endDate clock
  rw [if_neg (not_lt.mpr days)] at built
  refine ⟨(isSome_createMealPlan_iff calendar _ _ mealPlanUID clock client).mpr days,
    ⟨_, (fixedOffset offset).everyDay_midnights _ _, built⟩, ?_⟩
  rintro ⟨-, others, same, everyDay⟩
  obtain rfl := Option.some.inj (built.symm.trans same)
  have within := everyDay.le_last (List.mem_append_right _ (List.mem_singleton_self _))
  omega

end

/-! ## From an evening to the next noon -/

/-- A platform with a calendar of a fixed offset. -/
def atOffset (offset : Int) : Platform :=
  { greenwich with
    startOfDay := fun date =>
      some ⟨date.nanoseconds - (date.nanoseconds + offset) % oneDay⟩ }

theorem atOffset_fixedOffset (offset : Int) : FixedOffset (atOffset offset) offset where
  startOfDay date := by
    have rounded : date.nanoseconds - (date.nanoseconds + offset) % oneDay =
        (date.nanoseconds + offset) / oneDay * oneDay - offset := by
      have parts := Int.mul_ediv_add_emod (date.nanoseconds + offset) oneDay
      rw [mul_comm] at parts
      omega
    exact congrArg (fun nanoseconds => some (Date.mk nanoseconds)) rounded
  day date days := by
    have apart : date.nanoseconds + days * (60 * 60 * 24) * 1000000000 - date.nanoseconds =
        days * oneDay := by
      rw [oneDay]
      omega
    have counted : days * oneDay / oneDay = days := Int.mul_ediv_cancel days (by decide)
    exact congrArg some ((congrArg (· / oneDay) apart).trans counted)

/-- An hour, in nanoseconds. -/
def oneHour : Int := 60 * 60 * 1000000000

/-- Eight in the evening of the first day, five hours behind the reference. -/
def evening : Date := ⟨25 * oneHour⟩

/-- Twelve on the next day. -/
def noon : Date := ⟨41 * oneHour⟩

/-- The two midnights and a third one. -/
theorem createMealPlan_one_day_more_evening :
    (createMealPlan (atOffset (-5 * oneHour)) evening noon "P1" (fun _ => ⟨0⟩) {}).isSome = true ∧
    ∃ built, (fixedOffset (-5 * oneHour)).EveryDay 0 1 built ∧
      dates (atOffset (-5 * oneHour)) evening noon (fun _ => ⟨0⟩) =
        some (built ++ [⟨53 * oneHour⟩]) := by
  have ordered : evening.nanoseconds < noon.nanoseconds := by decide
  have created := createMealPlan_one_day_more (atOffset_fixedOffset (-5 * oneHour)) ordered "P1"
    (fun _ => ⟨0⟩) {}
  exact ⟨created.1, created.2.1⟩

/-- **From an evening to the next noon there are three midnights.** -/
theorem evening_to_noon_has_three_midnights :
    ¬ BuildsEveryDay (atOffset (-5 * oneHour)) (-5 * oneHour) evening noon "P1" (fun _ => ⟨0⟩)
      {} := by
  rintro ⟨-, built, same, everyDay⟩
  have three : dates (atOffset (-5 * oneHour)) evening noon (fun _ => ⟨0⟩) =
      some [⟨5 * oneHour⟩, ⟨29 * oneHour⟩, ⟨53 * oneHour⟩] := by
    decide
  obtain rfl := Option.some.inj (three.symm.trans same)
  have within : (2 : Int) ≤ (fixedOffset (-5 * oneHour)).day noon := by
    apply everyDay.le_last
    decide
  exact absurd within (by decide)

end MealPlans

end MyMealPrep
