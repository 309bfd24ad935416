import Mathlib.Order.Bounds.Basic
import OandaV3.CalendarClient

/-! # The status of a calendar refresh

`refresh_calendar` of `orchestration/scan_orchestrator.py` calls `get_events` and puts a status together
from properties of the provider.  Two of them, `last_refreshed_at` and `calendar_version`, call
`get_events` again, without force: each may refresh the calendar once more, and sets the flag that
`used_cached` reads.

* `refreshCalendar_describes_iff`: when the status describes the calendar of its own call. -/

namespace OandaV3

/-! ### The status -/

/-- `CalendarRefreshStatus`. -/
structure CalendarRefreshStatus where
  lastAttemptedAt : Option Instant
  lastRefreshedAt : Option Instant
  calendarVersion : ℕ
  eventCount : ℕ
  nextHighImpact : Option Instant
  usedCached : Bool
  lastError : Option String
deriving DecidableEq, Repr

/-- The time of the first event with high impact. -/
def nextHighImpact (events : List CalendarEvent) : Option Instant :=
  (events.find? fun event => event.impact == .HIGH).map CalendarEvent.eventTime

/-- `refresh_calendar`: its own call of `get_events`, and those of `last_refreshed_at` and
`calendar_version`. -/
def refreshCalendar (u : UnicodeTable) (refreshHours : ℤ) (own second third : CalendarOccasion) (force : Bool)
    (client : ForexCalendarClient) : CalendarRefreshStatus × ForexCalendarClient :=
  let (events, client₁) := client.getEvents u refreshHours own force
  let client₂ := (client₁.getEvents u refreshHours second false).2
  let client₃ := (client₂.getEvents u refreshHours third false).2
  ({  lastAttemptedAt := client₁.lastAttemptedAt
      lastRefreshedAt := client₂.lastRefreshedAt
      calendarVersion := client₃.calendarVersion
      eventCount := events.list.length
      nextHighImpact := nextHighImpact events.list
      usedCached := client₃.lastRequestUsedCached
      lastError := client₃.lastError }, client₃)

/-- The status describes the events and the state that its own call of `get_events` left, and `used_cached`
is false when this call counted a version. -/
structure DescribesOneCalendar (now : Instant) (client : ForexCalendarClient)
    (own : CalendarEvents × ForexCalendarClient) (status : CalendarRefreshStatus) : Prop where
  eventCount : status.eventCount = own.1.list.length
  version : status.calendarVersion = own.2.calendarVersion
  refreshed : status.lastRefreshedAt = own.2.lastRefreshedAt
  usedCached : status.usedCached = false ↔ own.2.calendarVersion = client.calendarVersion + 1
  nextHighImpact : ∀ time, status.nextHighImpact = some time ↔
    IsLeast {t | now ≤ t ∧ ∃ event ∈ own.1.list, event.impact = .HIGH ∧ event.eventTime = t} time

/-! ### What one call does -/

namespace CalendarOccasion

variable (u : UnicodeTable) (refreshHours : ℤ) (occasion : CalendarOccasion) (force : Bool)
  (lastRefreshedAt : Option Instant) (cached : CalendarEvents)

/-- The call asks the provider. -/
def attempts : Bool := force || refreshDue refreshHours lastRefreshedAt occasion.checkAt

/-- The call publishes what it fetched. -/
def publishes : Bool :=
  occasion.attempts refreshHours force lastRefreshedAt && occasion.fetched.isOk &&
    (force || refreshDue refreshHours lastRefreshedAt occasion.recheckAt || cached.list.isEmpty)

/-- The call asks the provider and gets no answer. -/
def fails : Bool := occasion.attempts refreshHours force lastRefreshedAt && !occasion.fetched.isOk

def events : CalendarEvents :=
  match occasion.fetched with
  | .ok rows => parseCalendarRows u rows
  | .error _ => CalendarEvents.empty

/-- The events that the call returns. -/
def supplied : CalendarEvents :=
  if occasion.publishes refreshHours force lastRefreshedAt cached then occasion.events u else cached

/-- The time of the last refresh after the call. -/
def refreshedAt : Option Instant :=
  if occasion.publishes refreshHours force lastRefreshedAt cached then some occasion.attemptAt
  else lastRefreshedAt

end CalendarOccasion

section

variable {u : UnicodeTable} {refreshHours : ℤ} {occasion : CalendarOccasion} {force : Bool}
  {client : ForexCalendarClient}

theorem getEvents_publishes
    (h : occasion.publishes refreshHours force client.lastRefreshedAt client.events = true) :
    client.getEvents u refreshHours occasion force =
      (occasion.events u, (client.noteAttempt occasion.attemptAt).withEvents occasion.attemptAt
        (occasion.events u)) := by
  obtain ⟨checkAt, attemptAt, recheckAt, fetched⟩ := occasion
  unfold CalendarOccasion.publishes CalendarOccasion.attempts at h
  simp only [Bool.and_eq_true] at h
  obtain ⟨⟨hattempt, hok⟩, hpublish⟩ := h
  unfold ForexCalendarClient.getEvents ForexCalendarClient.checkDue
  rw [if_pos hattempt]
  cases fetched with
  | error error => cases hok
  | ok rows =>
      have hstale : (client.noteAttempt attemptAt).publish refreshHours recheckAt force attemptAt
          (parseCalendarRows u rows) = (none, _) := ForexCalendarClient.publish_of_stale hpublish
      simp only [hstale]
      rfl

theorem getEvents_keeps
    (h : occasion.publishes refreshHours force client.lastRefreshedAt client.events = false) :
    let result := client.getEvents u refreshHours occasion force
    result.1 = client.events ∧ client.SameCalendar result.2 ∧ result.2.lastRequestUsedCached =
      (!occasion.fails refreshHours force client.lastRefreshedAt || !client.events.list.isEmpty) := by
  obtain ⟨checkAt, attemptAt, recheckAt, fetched⟩ := occasion
  unfold CalendarOccasion.publishes at h
  unfold CalendarOccasion.fails
  unfold ForexCalendarClient.getEvents ForexCalendarClient.checkDue
  by_cases hattempt : (force || refreshDue refreshHours client.lastRefreshedAt checkAt) = true
  · rw [if_pos hattempt]
    rw [CalendarOccasion.attempts, hattempt] at h ⊢
    cases fetched with
    | error error => exact ⟨rfl, ⟨rfl, rfl, rfl, rfl⟩, rfl⟩
    | ok rows =>
        have hfresh : (client.noteAttempt attemptAt).publish refreshHours recheckAt force attemptAt
            (parseCalendarRows u rows) = (some _, _) := ForexCalendarClient.publish_of_fresh h
        simp only [hfresh]
        exact ⟨rfl, ⟨rfl, rfl, rfl, rfl⟩, rfl⟩
  · rw [if_neg hattempt]
    rw [CalendarOccasion.attempts, Bool.eq_false_of_not_eq_true hattempt]
    exact ⟨rfl, ⟨rfl, rfl, rfl, rfl⟩, rfl⟩

/-! ### The next event -/

theorem nextHighImpact_isLeast {events : List CalendarEvent}
    (hsorted : events.Pairwise fun e f => e.eventTime ≤ f.eventTime) (time : Instant) :
    nextHighImpact events = some time ↔
      IsLeast {t | ∃ event ∈ events, event.impact = .HIGH ∧ event.eventTime = t} time := by
  induction events with
  | nil =>
      refine iff_of_false (fun h => by cases h) ?_
      rintro ⟨⟨event, hevent, -⟩, -⟩
      cases hevent
  | cons event events ih =>
      rw [List.pairwise_cons] at hsorted
      by_cases hhigh : event.impact = .HIGH
      · have hnext : nextHighImpact (event :: events) = some event.eventTime := by
          unfold nextHighImpact
          rw [List.find?_cons_of_pos (by rw [hhigh]; rfl)]
          rfl
        have hleast : IsLeast {t | ∃ e ∈ event :: events, e.impact = .HIGH ∧ e.eventTime = t}
            event.eventTime := by
          refine ⟨⟨event, List.mem_cons_self, hhigh, rfl⟩, ?_⟩
          rintro t ⟨later, hlater, -, rfl⟩
          rcases List.mem_cons.mp hlater with rfl | hlater
          · exact le_refl _
          · exact hsorted.1 later hlater
        rw [hnext, Option.some.injEq]
        exact ⟨fun heq => heq ▸ hleast, fun h => hleast.unique h⟩
      · have hnext : nextHighImpact (event :: events) = nextHighImpact events := by
          unfold nextHighImpact
          rw [List.find?_cons_of_neg (by simpa using hhigh)]
        have hset : {t | ∃ e ∈ event :: events, e.impact = .HIGH ∧ e.eventTime = t} =
            {t | ∃ e ∈ events, e.impact = .HIGH ∧ e.eventTime = t} := by
          ext t
          simp [hhigh]
        rw [hnext, hset]
        exact ih hsorted.2

/-- It is the earliest one from `now` on exactly when none is before `now`. -/
theorem nextHighImpact_iff (events : CalendarEvents) (now : Instant) :
    (∀ time, nextHighImpact events.list = some time ↔ IsLeast {t | now ≤ t ∧
        ∃ event ∈ events.list, event.impact = .HIGH ∧ event.eventTime = t} time) ↔
      ∀ event ∈ events.list, event.impact = .HIGH → now ≤ event.eventTime := by
  constructor
  · intro h event hevent hhigh
    cases hnext : nextHighImpact events.list with
    | none =>
        have hnone : ¬ (events.list.find? fun event => event.impact == .HIGH).isSome := by
          simpa [nextHighImpact] using hnext
        exact absurd (List.find?_isSome.mpr ⟨event, hevent, by rw [hhigh]; rfl⟩) hnone
    | some time =>
        have hnow := ((h time).mp hnext).1.1
        have hfirst := (nextHighImpact_isLeast events.sorted time).mp hnext
        exact hnow.trans (hfirst.2 ⟨event, hevent, hhigh, rfl⟩)
  · intro h time
    rw [nextHighImpact_isLeast events.sorted]
    have hset : {t | now ≤ t ∧ ∃ event ∈ events.list, event.impact = .HIGH ∧ event.eventTime = t} =
        {t | ∃ event ∈ events.list, event.impact = .HIGH ∧ event.eventTime = t} := by
      ext t
      refine ⟨fun ht => ht.2, fun ht => ⟨?_, ht⟩⟩
      obtain ⟨event, hevent, hhigh, rfl⟩ := ht
      exact h event hevent hhigh
    rw [hset]

end

/-! ### One calendar -/

/-- The calls of the properties publish nothing; the own call publishes exactly when the last call asks the
provider in vain while the calendar is empty; and no event with high impact is before `now`. -/
def OneCalendar (u : UnicodeTable) (refreshHours : ℤ) (own second third : CalendarOccasion) (force : Bool)
    (client : ForexCalendarClient) (now : Instant) : Prop :=
  let events := own.supplied u refreshHours force client.lastRefreshedAt client.events
  let refreshedAt := own.refreshedAt refreshHours force client.lastRefreshedAt client.events
  (second.publishes refreshHours false refreshedAt events = false ∧
      third.publishes refreshHours false refreshedAt events = false) ∧
    (own.publishes refreshHours force client.lastRefreshedAt client.events = true ↔
      third.fails refreshHours false refreshedAt = true ∧ events.list = []) ∧
    ∀ event ∈ events.list, event.impact = .HIGH → now ≤ event.eventTime

theorem getEvents_eq (u : UnicodeTable) (refreshHours : ℤ) (own : CalendarOccasion) (force : Bool)
    (client : ForexCalendarClient) :
    let result := client.getEvents u refreshHours own force
    result.1 = own.supplied u refreshHours force client.lastRefreshedAt client.events ∧
      result.2.events = own.supplied u refreshHours force client.lastRefreshedAt client.events ∧
      result.2.lastRefreshedAt =
        own.refreshedAt refreshHours force client.lastRefreshedAt client.events := by
  intro result
  unfold CalendarOccasion.supplied CalendarOccasion.refreshedAt
  by_cases h : own.publishes refreshHours force client.lastRefreshedAt client.events = true
  · have hresult : result = _ := getEvents_publishes h
    rw [if_pos h, if_pos h, hresult]
    exact ⟨rfl, rfl, rfl⟩
  · obtain ⟨hevents, hsame, -⟩ := getEvents_keeps (Bool.eq_false_of_not_eq_true h)
    rw [if_neg h, if_neg h]
    exact ⟨hevents, hsame.events, hsame.lastRefreshedAt⟩

/-- A call counts a version exactly when it publishes. -/
theorem version_getEvents (u : UnicodeTable) (refreshHours : ℤ) (occasion : CalendarOccasion) (force : Bool)
    (client : ForexCalendarClient) :
    (client.getEvents u refreshHours occasion force).2.calendarVersion = client.calendarVersion +
      if occasion.publishes refreshHours force client.lastRefreshedAt client.events then 1 else 0 := by
  cases h : occasion.publishes refreshHours force client.lastRefreshedAt client.events with
  | true =>
      rw [getEvents_publishes h]
      rfl
  | false => exact (getEvents_keeps h).2.1.calendarVersion

section

variable (u : UnicodeTable) (refreshHours : ℤ) (second third : CalendarOccasion) (client : ForexCalendarClient)

/-- The client after the call of `last_refreshed_at`. -/
def ForexCalendarClient.afterSecond : ForexCalendarClient :=
  (client.getEvents u refreshHours second false).2

/-- The client after the call of `calendar_version`. -/
def ForexCalendarClient.afterThird : ForexCalendarClient :=
  ((client.afterSecond u refreshHours second).getEvents u refreshHours third false).2

/-- The two calls leave the version exactly when they publish nothing. -/
theorem version_afterThird :
    (client.afterThird u refreshHours second third).calendarVersion = client.calendarVersion ↔
      second.publishes refreshHours false client.lastRefreshedAt client.events = false ∧
        third.publishes refreshHours false client.lastRefreshedAt client.events = false := by
  have hthird := version_getEvents u refreshHours third false (client.afterSecond u refreshHours second)
  have hsecond := version_getEvents u refreshHours second false client
  unfold ForexCalendarClient.afterThird
  rw [hthird]
  unfold ForexCalendarClient.afterSecond
  cases hpublishes : second.publishes refreshHours false client.lastRefreshedAt client.events with
  | true =>
      rw [hsecond, hpublishes, if_pos rfl]
      refine iff_of_false ?_ ?_
      · omega
      · rintro ⟨hkeeps, -⟩
        cases hkeeps
  | false =>
      obtain ⟨-, hsame, -⟩ := getEvents_keeps hpublishes
      rw [hsame.events, hsame.lastRefreshedAt, hsame.calendarVersion]
      cases third.publishes refreshHours false client.lastRefreshedAt client.events <;> simp

/-- When they publish nothing, they leave the time of the refresh, and the flag of the second one. -/
theorem usedCached_afterThird
    (h : second.publishes refreshHours false client.lastRefreshedAt client.events = false ∧
      third.publishes refreshHours false client.lastRefreshedAt client.events = false) :
    (client.afterSecond u refreshHours second).lastRefreshedAt = client.lastRefreshedAt ∧
      ((client.afterThird u refreshHours second third).lastRequestUsedCached = false ↔
        third.fails refreshHours false client.lastRefreshedAt = true ∧ client.events.list = []) := by
  obtain ⟨hsecond, hthird⟩ := h
  obtain ⟨-, hsame, -⟩ := getEvents_keeps hsecond
  rw [← hsame.events, ← hsame.lastRefreshedAt] at hthird
  obtain ⟨-, -, hcached⟩ := getEvents_keeps hthird
  rw [hsame.events, hsame.lastRefreshedAt] at hcached
  refine ⟨hsame.lastRefreshedAt, ?_⟩
  unfold ForexCalendarClient.afterThird ForexCalendarClient.afterSecond
  rw [hcached]
  simp

end

/-- **One calendar.** The status describes the calendar of its own call of `get_events` exactly under
`OneCalendar`: never after a fetch that brought events and is still fresh when the flag is read. -/
theorem refreshCalendar_describes_iff (u : UnicodeTable) (refreshHours : ℤ) (own second third : CalendarOccasion)
    (force : Bool) (client : ForexCalendarClient) (now : Instant) :
    DescribesOneCalendar now client (client.getEvents u refreshHours own force)
        (refreshCalendar u refreshHours own second third force client).1 ↔
      OneCalendar u refreshHours own second third force client now := by
  obtain ⟨hresult, hevents, hrefreshed⟩ := getEvents_eq u refreshHours own force client
  have hversion := version_afterThird u refreshHours second third
    (client.getEvents u refreshHours own force).2
  rw [hevents, hrefreshed] at hversion
  have hpublished : (client.getEvents u refreshHours own force).2.calendarVersion =
      client.calendarVersion + 1 ↔
        own.publishes refreshHours force client.lastRefreshedAt client.events = true := by
    rw [version_getEvents]
    cases own.publishes refreshHours force client.lastRefreshedAt client.events <;> simp
  have hflags := usedCached_afterThird u refreshHours second third
    (client.getEvents u refreshHours own force).2
  rw [hevents, hrefreshed] at hflags
  have hnext := nextHighImpact_iff (own.supplied u refreshHours force client.lastRefreshedAt client.events) now
  rw [← hresult] at hnext
  constructor
  · intro h
    have hkept := hversion.mp h.version
    refine ⟨hkept, ?_, ?_⟩
    · rw [← (hflags hkept).2, ← hpublished]
      exact h.usedCached.symm
    · rw [← hresult]
      exact hnext.mp h.nextHighImpact
  · rintro ⟨hkept, hflag, hfuture⟩
    rw [← hresult] at hfuture
    refine ⟨rfl, hversion.mpr hkept, ?_, ?_, hnext.mpr hfuture⟩
    · rw [hrefreshed]
      exact (hflags hkept).1
    · rw [hpublished, hflag]
      exact (hflags hkept).2

/-! ### A forced refresh -/

/-- The row of an event with high impact. -/
def inflationRow : CalendarRow where
  texts := [("title", "CPI m/m"), ("country", "USD"), ("impact", "High")]
  eventTime := some (24 * 60 * minuteMicros)

/-- A provider that answers, on a clock that stands still. -/
def answeredOccasion : CalendarOccasion where
  checkAt := 0
  attemptAt := 0
  recheckAt := 0
  fetched := .ok [inflationRow]

/-- The first refresh of a client publishes what it fetched, and its status says that it used the cache. -/
theorem refreshCalendar_usedCached :
    let own := ForexCalendarClient.initial.getEvents .ascii 1 answeredOccasion true
    let status := (refreshCalendar .ascii 1 answeredOccasion answeredOccasion answeredOccasion true
      ForexCalendarClient.initial).1
    own.2.calendarVersion = 1 ∧ status.calendarVersion = 1 ∧ status.eventCount = 1 ∧
      status.usedCached = true ∧
      ¬ DescribesOneCalendar 0 ForexCalendarClient.initial own status := by
  intro own status
  have hown : own.2.calendarVersion = 1 := by decide +kernel
  have hflag : status.usedCached = true := by decide +kernel
  refine ⟨hown, by decide +kernel, by decide +kernel, hflag, fun h => ?_⟩
  rw [h.usedCached.mpr hown] at hflag
  cases hflag

end OandaV3
