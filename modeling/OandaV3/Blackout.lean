import Mathlib.Algebra.Order.Group.MinMax
import Mathlib.Tactic.Linarith
import OandaV3.ForexCalendar

/-! # The blackout window

An event blacks out the time from `minutes_before` before it to `minutes_after` after it.
`is_event_blackout` looks for events from `minutes_before` before now to `minutes_after` after now: the
two sides are swapped.

* `exists_reflected_iff`: when a set of points meets an interval around a point exactly when it meets the
  reflected interval.
* `isEventBlackout_iff_window_iff`: so the answer is the one of the event-centred window exactly when a
  matching event is in the common part, or both of the outer parts have one, or neither. -/

namespace OandaV3

/-! ### An interval and its reflection -/

section reflected

variable {α : Type*} [AddCommGroup α] [LinearOrder α] [IsOrderedAddMonoid α]

/-- A long side of an interval holds the common part of an interval and its reflection, and one outer
part. -/
theorem exists_interval_iff {points : α → Prop} {x short long : α} (hshort : 0 ≤ short)
    (hle : short ≤ long) :
    (∃ p, points p ∧ x - short ≤ p ∧ p ≤ x + long) ↔
      (∃ p, points p ∧ x - short ≤ p ∧ p ≤ x + short) ∨
        ∃ p, points p ∧ x + short < p ∧ p ≤ x + long := by
  constructor
  · rintro ⟨p, hp, hlow, hhigh⟩
    rcases le_or_gt p (x + short) with hnear | hfar
    · exact Or.inl ⟨p, hp, hlow, hnear⟩
    · exact Or.inr ⟨p, hp, hfar, hhigh⟩
  · rintro (⟨p, hp, hlow, hhigh⟩ | ⟨p, hp, hlow, hhigh⟩)
    · exact ⟨p, hp, hlow, hhigh.trans (add_le_add_right hle x)⟩
    · have hstart : x - short ≤ x + short := by
        rw [sub_eq_add_neg]
        exact add_le_add_right (neg_le_self hshort) x
      exact ⟨p, hp, (hstart.trans_lt hlow).le, hhigh⟩

theorem exists_interval_iff_before {points : α → Prop} {x short long : α} (hshort : 0 ≤ short)
    (hle : short ≤ long) :
    (∃ p, points p ∧ x - long ≤ p ∧ p ≤ x + short) ↔
      (∃ p, points p ∧ x - short ≤ p ∧ p ≤ x + short) ∨
        ∃ p, points p ∧ x - long ≤ p ∧ p < x - short := by
  constructor
  · rintro ⟨p, hp, hlow, hhigh⟩
    rcases le_or_gt (x - short) p with hnear | hfar
    · exact Or.inl ⟨p, hp, hnear, hhigh⟩
    · exact Or.inr ⟨p, hp, hlow, hfar⟩
  · rintro (⟨p, hp, hlow, hhigh⟩ | ⟨p, hp, hlow, hhigh⟩)
    · exact ⟨p, hp, (sub_le_sub_left hle x).trans hlow, hhigh⟩
    · have hstart : x - short ≤ x + short := by
        rw [sub_eq_add_neg]
        exact add_le_add_right (neg_le_self hshort) x
      exact ⟨p, hp, hlow, (hhigh.trans_le hstart).le⟩

theorem or_iff_or_iff {a b c : Prop} : (c ∨ a ↔ c ∨ b) ↔ c ∨ (a ↔ b) := by
  by_cases hc : c
  · simp [hc]
  · simp [hc]

/-- An interval and its reflection meet a set at the same time exactly when the set meets the common
part, or both outer parts, or neither. -/
theorem exists_reflected_iff {points : α → Prop} {x before after : α} (hbefore : 0 ≤ before)
    (hafter : 0 ≤ after) :
    ((∃ p, points p ∧ x - before ≤ p ∧ p ≤ x + after) ↔
        ∃ p, points p ∧ x - after ≤ p ∧ p ≤ x + before) ↔
      (∃ p, points p ∧ x - min before after ≤ p ∧ p ≤ x + min before after) ∨
        ((∃ p, points p ∧ x - max before after ≤ p ∧ p < x - min before after) ↔
          ∃ p, points p ∧ x + min before after < p ∧ p ≤ x + max before after) := by
  rcases le_total before after with hle | hle
  · rw [min_eq_left hle, max_eq_right hle, exists_interval_iff hbefore hle,
      exists_interval_iff_before hbefore hle, or_iff_or_iff]
    exact or_congr_right iff_comm
  · rw [min_eq_right hle, max_eq_left hle, exists_interval_iff hafter hle,
      exists_interval_iff_before hafter hle, or_iff_or_iff]

end reflected

/-! ### The blackout -/

/-- A blackout event that the currency and impact filters accept. -/
def MatchesBlackout (u : UnicodeTable) (currencies impacts : Option (List String))
    (event : CalendarEvent) : Prop :=
  EventFilters.accepts u ⟨currencies, none, impacts⟩ event = true ∧ event.isBlackout = true

instance (u : UnicodeTable) (currencies impacts : Option (List String)) (event : CalendarEvent) :
    Decidable (MatchesBlackout u currencies impacts event) := by
  unfold MatchesBlackout
  infer_instance

/-- Some matching event blacks out the time. -/
def InBlackout (u : UnicodeTable) (events : List CalendarEvent) (minutesBefore minutesAfter : ℕ)
    (currencies impacts : Option (List String)) (nowUtc : Instant) : Prop :=
  ∃ event ∈ events, MatchesBlackout u currencies impacts event ∧
    event.eventTime - minutesBefore * minuteMicros ≤ nowUtc ∧
      nowUtc ≤ event.eventTime + minutesAfter * minuteMicros

instance (u : UnicodeTable) (events : List CalendarEvent) (minutesBefore minutesAfter : ℕ)
    (currencies impacts : Option (List String)) (nowUtc : Instant) :
    Decidable (InBlackout u events minutesBefore minutesAfter currencies impacts nowUtc) := by
  unfold InBlackout
  infer_instance

/-- The times of the matching events. -/
def blackoutTimes (u : UnicodeTable) (events : List CalendarEvent) (currencies impacts : Option (List String))
    (time : Instant) : Prop :=
  ∃ event ∈ events, MatchesBlackout u currencies impacts event ∧ event.eventTime = time

section blackout

variable {u : UnicodeTable} {events : List CalendarEvent} {minutesBefore minutesAfter : ℕ}
  {currencies impacts : Option (List String)} {nowUtc : Instant}

theorem isEventBlackout_iff :
    isEventBlackout u events minutesBefore minutesAfter currencies impacts nowUtc = .ok true ↔
      ∃ time, blackoutTimes u events currencies impacts time ∧
        nowUtc - minutesBefore * minuteMicros ≤ time ∧ time ≤ nowUtc + minutesAfter * minuteMicros := by
  have hvalid : ¬ ((minutesBefore : ℤ) < 0 ∨ (minutesAfter : ℤ) < 0) := by omega
  unfold isEventBlackout filterEvents blackoutTimes MatchesBlackout
  simp only [if_neg hvalid, Except.ok.injEq, List.any_eq_true, List.mem_filter, Bool.and_eq_true,
    Option.all_some, decide_eq_true_eq]
  constructor
  · rintro ⟨event, ⟨hevent, ⟨haccepts, hstart⟩, hstop⟩, hblackout⟩
    exact ⟨event.eventTime, ⟨event, hevent, ⟨haccepts, hblackout⟩, rfl⟩, hstart, hstop⟩
  · rintro ⟨_, ⟨event, hevent, ⟨haccepts, hblackout⟩, rfl⟩, hstart, hstop⟩
    exact ⟨event, ⟨hevent, ⟨haccepts, hstart⟩, hstop⟩, hblackout⟩

theorem inBlackout_iff :
    InBlackout u events minutesBefore minutesAfter currencies impacts nowUtc ↔
      ∃ time, blackoutTimes u events currencies impacts time ∧
        nowUtc - minutesAfter * minuteMicros ≤ time ∧ time ≤ nowUtc + minutesBefore * minuteMicros := by
  unfold InBlackout blackoutTimes
  constructor
  · rintro ⟨event, hevent, hmatches, hstart, hstop⟩
    exact ⟨event.eventTime, ⟨event, hevent, hmatches, rfl⟩, by linarith, by linarith⟩
  · rintro ⟨_, ⟨event, hevent, hmatches, rfl⟩, hstart, hstop⟩
    exact ⟨event, hevent, hmatches, by linarith, by linarith⟩

end blackout

/-- **The swapped window.**  The answer is the one of the event-centred window exactly when a matching
event lies within the shorter side of now, or the outer part before now and the outer part after now both
hold one, or neither does. -/
theorem isEventBlackout_iff_window_iff (u : UnicodeTable) (events : List CalendarEvent)
    (minutesBefore minutesAfter : ℕ) (currencies impacts : Option (List String)) (nowUtc : Instant) :
    (isEventBlackout u events minutesBefore minutesAfter currencies impacts nowUtc = .ok true ↔
        InBlackout u events minutesBefore minutesAfter currencies impacts nowUtc) ↔
      let short := min (minutesBefore * minuteMicros) (minutesAfter * minuteMicros)
      let long := max (minutesBefore * minuteMicros) (minutesAfter * minuteMicros)
      (∃ time, blackoutTimes u events currencies impacts time ∧
          nowUtc - short ≤ time ∧ time ≤ nowUtc + short) ∨
        ((∃ time, blackoutTimes u events currencies impacts time ∧
            nowUtc - long ≤ time ∧ time < nowUtc - short) ↔
          ∃ time, blackoutTimes u events currencies impacts time ∧
            nowUtc + short < time ∧ time ≤ nowUtc + long) := by
  have hminute : 0 ≤ minuteMicros := by decide
  rw [isEventBlackout_iff, inBlackout_iff]
  exact exists_reflected_iff (mul_nonneg (Int.natCast_nonneg _) hminute)
    (mul_nonneg (Int.natCast_nonneg _) hminute)

/-- A release of US prices at 12:30 UTC of the first day. -/
def usPrices : CalendarEvent where
  title := "US CPI m/m"
  eventTime := 750 * minuteMicros
  impact := .HIGH
  currency := some "USD"
  country := some "United States"
  isBlackout := true
  forecast := none
  previous := none
  actual := none

/-- Twenty minutes before the release, with the default of 30 minutes before and 15 after. -/
theorem isEventBlackout_misses_upcoming :
    ¬ ∀ u events minutesBefore minutesAfter currencies impacts nowUtc,
      isEventBlackout u events (minutesBefore : ℕ) (minutesAfter : ℕ) currencies impacts nowUtc =
          .ok true ↔
        InBlackout u events minutesBefore minutesAfter currencies impacts nowUtc := by
  intro h
  have hmisses := h .ascii [usPrices] 30 15 (some ["USD"]) (some ["HIGH"]) (730 * minuteMicros)
  revert hmisses
  decide +kernel

end OandaV3
