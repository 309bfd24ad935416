import Mathlib.Data.Int.Basic
import Mathlib.Order.Bounds.Basic
import Mathlib.Tactic.Linarith
import Mathlib.Tactic.LinearCombination
import OandaV3.MarketHours

/-! # The reminder engine

`.worktrees/scan-force/alerts/time_alert_engine.py` looks once a minute which reminders are due, sends each of
them where it has a notifier, and sets when it is due next; a chat command cancels a reminder at any time.
Reads, deliveries and writes may fail, and what is not written comes again.

* `nextSessionFireAt_eq`, `nextFixedTimeFireAt_eq`: the two functions find the first moment of a period.
* `ReminderInv.step`: what every step keeps.
* `timeAlerts_follow`: a reminder is listed exactly when a moment of its schedule came more than a second after
  its last turn; it takes its turn once for it, however late; and one that is cancelled while it is not under way
  stays silent. -/

/-! ## Recurrences

Moments that recur, and for each moment the first of them after it.  A reminder whose turn is due at the first
moment after its last one is due by `u` exactly when a moment came in between (`Recurrence.next_le_iff`).

* `periodic`: the moments of a period.
* `Follows`: turns with a moment between each and the one before. -/

namespace Recurrences

section general

variable {τ : Type} [LinearOrder τ]

/-- Moments, and the first of them after each moment. -/
structure Recurrence (τ : Type) [LinearOrder τ] where
  moments : Set τ
  next : τ → τ
  isLeast : ∀ t, IsLeast {r | r ∈ moments ∧ t < r} (next t)

variable (R : Recurrence τ) {t u : τ}

/-- What comes first after a moment comes by another one when anything does. -/
theorem Recurrence.next_le_iff : R.next t ≤ u ↔ ∃ r ∈ R.moments, t < r ∧ r ≤ u := by
  obtain ⟨⟨hmem, hafter⟩, hleast⟩ := R.isLeast t
  constructor
  · exact fun hle => ⟨R.next t, hmem, hafter, hle⟩
  · rintro ⟨r, hr, htr, hru⟩
    exact (hleast ⟨hr, htr⟩).trans hru

/-- From where the next turn is looked for: a bit after the last turn, or the start. -/
def since (delay : τ → τ) (start : τ) : List τ → τ
  | [] => start
  | u :: _ => delay u

/-- Turns, the last one first, each with a moment since the one before. -/
def Follows (delay : τ → τ) (start : τ) : List τ → Prop
  | [] => True
  | u :: us => (∃ r ∈ R.moments, since delay start us < r ∧ r ≤ u) ∧ Follows delay start us

end general

/-! ### Periods -/

/-- The first moment of a period after `t`. -/
def nextPeriodic (period offset t : ℤ) : ℤ := t + period - (t - offset) % period

/-- The moments `offset`, `offset + period`, and so on, in both directions. -/
def periodic (period offset : ℤ) (hperiod : 0 < period) : Recurrence ℤ where
  moments := {r | period ∣ r - offset}
  next := nextPeriodic period offset
  isLeast t := by
    have hlt := Int.emod_lt_of_pos (t - offset) hperiod
    have hdiv := Int.emod_add_mul_ediv (t - offset) period
    refine ⟨⟨⟨(t - offset) / period + 1, ?_⟩, ?_⟩, ?_⟩
    · rw [nextPeriodic]
      linarith
    · rw [nextPeriodic]
      linarith
    · rintro r ⟨⟨k, hk⟩, htr⟩
      -- a multiple of the period after the last one that is not after `t`
      have hnonneg := Int.emod_nonneg (t - offset) hperiod.ne'
      have hstep : period * ((t - offset) / period) < period * k := by linarith
      have hk' : (t - offset) / period + 1 ≤ k := lt_of_mul_lt_mul_left hstep hperiod.le
      have hmul := mul_le_mul_of_nonneg_left hk' hperiod.le
      rw [nextPeriodic]
      linarith

/-- The moment of a period within one period after `t` is the first one after it. -/
theorem nextPeriodic_eq {period offset t r : ℤ} (hperiod : 0 < period) (hdvd : period ∣ r - offset)
    (hafter : t < r) (hwithin : r ≤ t + period) : r = nextPeriodic period offset t := by
  have hnext := (periodic period offset hperiod).isLeast t
  have hmem : period ∣ nextPeriodic period offset t - offset := hnext.1.1
  have hlt : t < nextPeriodic period offset t := hnext.1.2
  have hle : nextPeriodic period offset t ≤ r := hnext.2 ⟨hdvd, hafter⟩
  have hdiff : period ∣ r - nextPeriodic period offset t := by
    simpa using Int.dvd_sub hdvd hmem
  have hzero := Int.eq_zero_of_dvd_of_nonneg_of_lt (by linarith) (by linarith) hdiff
  linarith

end Recurrences

namespace OandaV3

open Recurrences

/-! ### Schedules -/

/-- A parsed `HH:MM`. -/
structure ClockTime where
  hours : ℤ
  minutes : ℤ
  hours_bounds : 0 ≤ hours ∧ hours < 24
  minutes_bounds : 0 ≤ minutes ∧ minutes < 60

/-- The time of a day that has passed at `HH:MM`. -/
def ClockTime.ofDay (t : ClockTime) : ℤ := t.hours * hour + t.minutes * minute

inductive TimeAlertSessionName where
  | london
  | newyork
  | marketOpen
deriving DecidableEq, Repr

/-- An entry of `SESSION_OPEN_SCHEDULE`: every day, or on one weekday. -/
structure SessionOpening where
  weekday : Option ℤ
  opensAt : ClockTime

/-- `SESSION_OPEN_SCHEDULE`. -/
def sessionOpenSchedule : TimeAlertSessionName → SessionOpening
  | .london => ⟨none, 8, 0, by decide, by decide⟩
  | .newyork => ⟨none, 13, 0, by decide, by decide⟩
  | .marketOpen => ⟨some 6, 22, 0, by decide, by decide⟩

/-- `next_session_fire_at`. -/
def nextSessionFireAt (sessionName : TimeAlertSessionName) (now : Instant) : Instant :=
  let schedule := sessionOpenSchedule sessionName
  let candidate := dateOf now * dayMicros + schedule.opensAt.ofDay
  match schedule.weekday with
  | none => if candidate ≤ now then candidate + dayMicros else candidate
  | some weekday =>
      let daysAhead := (weekday - Calendar.weekday (dateOf now)) % 7
      let daysAhead := if daysAhead = 0 ∧ candidate ≤ now then 7 else daysAhead
      candidate + daysAhead * dayMicros

/-- `next_fixed_time_fire_at`, in a zone with a fixed offset such as the default one. -/
def nextFixedTimeFireAt (utcOffset : ℤ) (localTime : ClockTime) (now : Instant) : Instant :=
  let localNow := now + utcOffset
  let candidate := dateOf localNow * dayMicros + localTime.ofDay
  (if candidate ≤ localNow then candidate + dayMicros else candidate) - utcOffset

/-- What a reminder is for: its kind and schedule, with what they need. -/
inductive TimeAlertSchedule where
  | once (localTime : ClockTime)
  | daily (localTime : ClockTime)
  | session (sessionName : TimeAlertSessionName)

/-- The first turn of a new reminder, in `time_alert_command`. -/
def TimeAlertSchedule.firstFireAt (utcOffset : ℤ) (now : Instant) : TimeAlertSchedule → Instant
  | .once localTime => nextFixedTimeFireAt utcOffset localTime now
  | .daily localTime => nextFixedTimeFireAt utcOffset localTime now
  | .session sessionName => nextSessionFireAt sessionName now

/-- `next_time_alert_fire_at`. -/
def TimeAlertSchedule.nextFireAt (utcOffset : ℤ) (now : Instant) : TimeAlertSchedule → Option Instant
  | .once _ => none
  | .daily localTime => some (nextFixedTimeFireAt utcOffset localTime (now + second))
  | .session sessionName => some (nextSessionFireAt sessionName (now + second))

/-- `alert.kind.value == "SESSION"`. -/
def TimeAlertSchedule.isSession : TimeAlertSchedule → Bool
  | .session _ => true
  | _ => false

/-- `alert.schedule == "once"`. -/
def TimeAlertSchedule.isOnce : TimeAlertSchedule → Bool
  | .once _ => true
  | _ => false

/-! ### Reminders -/

inductive TimeAlertStatus where
  | ACTIVE
  | COMPLETED
  | CANCELLED
deriving DecidableEq, Repr

/-- `TimeAlert`, as far as the engine changes it. -/
structure TimeAlert where
  schedule : TimeAlertSchedule
  status : TimeAlertStatus
  nextFireAt : Option Instant
  lastFiredAt : Option Instant

/-- The engine lists the reminder. -/
def TimeAlert.isDue (alert : TimeAlert) (now : Instant) (sessionAlerts : Bool) : Bool :=
  alert.status == .ACTIVE && (alert.nextFireAt.any fun due => decide (due ≤ now)) &&
    (sessionAlerts || !alert.schedule.isSession)

/-- `mark_time_alert_triggered`. -/
def TimeAlert.triggered (alert : TimeAlert) (nextFireAt : Option Instant) (firedAt : Instant) : TimeAlert where
  schedule := alert.schedule
  status := if nextFireAt.isSome then .ACTIVE else .COMPLETED
  nextFireAt := nextFireAt
  lastFiredAt := some firedAt

/-- A reminder, its turn that is under way and whether this can be marked, and what happened so far: the times
of the messages and of the turns that were written, the last one first. -/
structure ReminderSystem where
  alert : TimeAlert
  underWay : Option (Instant × Bool)
  messages : List Instant
  marks : List Instant

/-- The steps of the engine, each of which may fail, and a cancellation, which writes back the last turn that it
has read. -/
inductive ReminderAction where
  | list (now : Instant) (readable sessionAlerts : Bool)
  | deliver (delivered : Bool)
  | mark (readable refuses : Bool)
  | cancel (lastFiredAt : Option Instant) (refuses : Bool)

/-- A step; without a notifier nothing is delivered before a turn is marked. -/
def ReminderSystem.step (utcOffset : ℤ) (notifier : Bool) (s : ReminderSystem) :
    ReminderAction → ReminderSystem
  | .list now readable sessionAlerts =>
      { s with
        underWay := if readable && s.alert.isDue now sessionAlerts then some (now, !notifier) else none }
  | .deliver delivered =>
      match s.underWay with
      | some (now, false) =>
          if delivered then { s with underWay := some (now, true), messages := now :: s.messages }
          else { s with underWay := none }
      | _ => s
  | .mark readable refuses =>
      match s.underWay with
      | some (now, true) =>
          if readable && !refuses then
            { s with
              alert := s.alert.triggered (s.alert.schedule.nextFireAt utcOffset now) now
              underWay := none
              marks := now :: s.marks }
          else { s with underWay := none }
      | _ => s
  | .cancel lastFiredAt refuses =>
      if refuses then s
      else { s with alert := { s.alert with status := .CANCELLED, nextFireAt := none, lastFiredAt } }

/-- The reminder that `time_alert_command` has created. -/
def newReminder (utcOffset : ℤ) (schedule : TimeAlertSchedule) (created : Instant) : ReminderSystem where
  alert := ⟨schedule, .ACTIVE, some (schedule.firstFireAt utcOffset created), none⟩
  underWay := none
  messages := []
  marks := []

def ReminderSystem.run (utcOffset : ℤ) (notifier : Bool) (s : ReminderSystem)
    (actions : List ReminderAction) : ReminderSystem :=
  actions.foldl (ReminderSystem.step utcOffset notifier) s

/-! ### The moments of a schedule -/

def everyDay (offset : ℤ) : Recurrence ℤ := periodic dayMicros offset (by decide)

def everyWeek (weekday offset : ℤ) : Recurrence ℤ :=
  periodic (7 * dayMicros) ((weekday - 3) * dayMicros + offset) (by decide)

def SessionOpening.recurrence (opening : SessionOpening) : Recurrence ℤ :=
  match opening.weekday with
  | none => everyDay opening.opensAt.ofDay
  | some weekday => everyWeek weekday opening.opensAt.ofDay

/-- The moments a reminder is for. -/
def TimeAlertSchedule.recurrence (utcOffset : ℤ) : TimeAlertSchedule → Recurrence ℤ
  | .once localTime => everyDay (localTime.ofDay - utcOffset)
  | .daily localTime => everyDay (localTime.ofDay - utcOffset)
  | .session sessionName => (sessionOpenSchedule sessionName).recurrence

theorem ClockTime.ofDay_bounds (t : ClockTime) : 0 ≤ t.ofDay ∧ t.ofDay < dayMicros := by
  obtain ⟨hours, minutes, hhours, hminutes⟩ := t
  simp only [ClockTime.ofDay, dayMicros, hour, minute, second]
  omega

theorem ofDay_near {offset : ℤ} (hlo : 0 ≤ offset) (hhi : offset < dayMicros) (now : Instant) :
    now < dateOf now * dayMicros + offset + dayMicros ∧ dateOf now * dayMicros + offset < now + dayMicros := by
  have hmod := Int.emod_add_mul_ediv now dayMicros
  have hnonneg := Int.emod_nonneg now (show dayMicros ≠ 0 by decide)
  have hlt := Int.emod_lt_of_pos now (show 0 < dayMicros by decide)
  rw [dateOf]
  constructor
  · linarith
  · linarith

theorem nextOfDay_eq {offset : ℤ} (hlo : 0 ≤ offset) (hhi : offset < dayMicros) (now : Instant) :
    (if dateOf now * dayMicros + offset ≤ now then dateOf now * dayMicros + offset + dayMicros
      else dateOf now * dayMicros + offset) = nextPeriodic dayMicros offset now := by
  obtain ⟨hafter, hbefore⟩ := ofDay_near hlo hhi now
  by_cases hpast : dateOf now * dayMicros + offset ≤ now
  · rw [if_pos hpast]
    refine nextPeriodic_eq (by decide) ⟨dateOf now + 1, by linarith⟩ (by linarith) (by linarith)
  · rw [if_neg hpast]
    refine nextPeriodic_eq (by decide) ⟨dateOf now, by linarith⟩ (not_le.1 hpast) (by linarith)

theorem nextFixedTimeFireAt_eq (utcOffset : ℤ) (localTime : ClockTime) (now : Instant) :
    nextFixedTimeFireAt utcOffset localTime now = (everyDay (localTime.ofDay - utcOffset)).next now := by
  obtain ⟨hlo, hhi⟩ := localTime.ofDay_bounds
  simp only [nextFixedTimeFireAt, nextOfDay_eq hlo hhi, everyDay, periodic, nextPeriodic]
  rw [show now + utcOffset - localTime.ofDay = now - (localTime.ofDay - utcOffset) by linarith]
  linarith

theorem nextSessionFireAt_eq (sessionName : TimeAlertSessionName) (now : Instant) :
    nextSessionFireAt sessionName now = (sessionOpenSchedule sessionName).recurrence.next now := by
  obtain ⟨hlo, hhi⟩ := (sessionOpenSchedule sessionName).opensAt.ofDay_bounds
  rw [nextSessionFireAt, SessionOpening.recurrence]
  generalize (sessionOpenSchedule sessionName).opensAt.ofDay = offset at *
  cases hweekday : (sessionOpenSchedule sessionName).weekday with
  | none => exact nextOfDay_eq hlo hhi now
  | some weekday =>
    obtain ⟨hafter, hbefore⟩ := ofDay_near hlo hhi now
    obtain ⟨k, hk, hk0, hk6, hmod⟩ : ∃ k, k = (weekday - Calendar.weekday (dateOf now)) % 7 ∧ 0 ≤ k ∧
        k ≤ 6 ∧ 7 ∣ dateOf now + k - (weekday - 3) := by
      refine ⟨_, rfl, ?_⟩
      rw [Calendar.weekday]
      omega
    simp only [← hk]
    obtain ⟨m, hm⟩ := hmod
    by_cases hpast : k = 0 ∧ dateOf now * dayMicros + offset ≤ now
    · rw [if_pos hpast]
      refine nextPeriodic_eq (by decide) ⟨m + 1, by rw [hpast.1] at hm; linear_combination dayMicros * hm⟩
        (by linarith) (by linarith)
    · rw [if_neg hpast]
      refine nextPeriodic_eq (by decide) ⟨m, by linear_combination dayMicros * hm⟩ ?_ ?_
      · rcases hk0.eq_or_lt with rfl | hpos
        · simpa using hpast
        · nlinarith
      · nlinarith

theorem TimeAlertSchedule.firstFireAt_eq (utcOffset : ℤ) (now : Instant) (schedule : TimeAlertSchedule) :
    schedule.firstFireAt utcOffset now = (schedule.recurrence utcOffset).next now := by
  cases schedule with
  | once localTime => exact nextFixedTimeFireAt_eq utcOffset localTime now
  | daily localTime => exact nextFixedTimeFireAt_eq utcOffset localTime now
  | session sessionName => exact nextSessionFireAt_eq sessionName now

theorem TimeAlertSchedule.nextFireAt_eq (utcOffset : ℤ) (now : Instant) (schedule : TimeAlertSchedule) :
    schedule.nextFireAt utcOffset now =
      if schedule.isOnce then none else some ((schedule.recurrence utcOffset).next (now + second)) := by
  cases schedule with
  | once localTime => rfl
  | daily localTime => exact congrArg some (nextFixedTimeFireAt_eq utcOffset localTime (now + second))
  | session sessionName => exact congrArg some (nextSessionFireAt_eq sessionName (now + second))

/-! ### Runs -/

section runs

variable (utcOffset : ℤ) (notifier : Bool) (schedule : TimeAlertSchedule) (created : Instant)

/-- A moment of the schedule has come more than a second after the last turn, or since the creation. -/
def HasCome (marks : List Instant) (now : Instant) : Prop :=
  ∃ r ∈ (schedule.recurrence utcOffset).moments, since (· + second) created marks < r ∧ r ≤ now

/-- What holds after every step. -/
structure ReminderInv (s : ReminderSystem) : Prop where
  schedule_eq : s.alert.schedule = schedule
  /-- An active reminder is due at the first moment since its last turn. -/
  active : s.alert.status = .ACTIVE →
    s.alert.nextFireAt = some ((schedule.recurrence utcOffset).next (since (· + second) created s.marks))
  underWay : ∀ now sent, s.underWay = some (now, sent) → HasCome utcOffset schedule created s.marks now
  follows : Follows (schedule.recurrence utcOffset) (· + second) created s.marks
  awaits : ∀ now, s.underWay = some (now, false) → notifier = true
  sublist : notifier = true → s.marks.Sublist s.messages
  sent : notifier = true → ∀ now, s.underWay = some (now, true) → (now :: s.marks).Sublist s.messages
  unsent : notifier = false → s.messages = []
  messages : ∀ now ∈ s.messages, ∃ marks, marks <:+ s.marks ∧ HasCome utcOffset schedule created marks now
  /-- A reminder for one time has had its turn, or has not. -/
  once : schedule.isOnce → s.marks = [] ∨ s.marks.length = 1 ∧ s.underWay = none ∧ s.alert.status ≠ .ACTIVE

variable {utcOffset notifier schedule created} {s : ReminderSystem}

theorem ReminderInv.isDue_iff (h : ReminderInv utcOffset notifier schedule created s) (now : Instant)
    (sessionAlerts : Bool) :
    s.alert.isDue now sessionAlerts = true ↔ s.alert.status = .ACTIVE ∧
      (schedule.isSession → sessionAlerts) ∧ HasCome utcOffset schedule created s.marks now := by
  rw [HasCome, ← Recurrence.next_le_iff]
  by_cases hactive : s.alert.status = .ACTIVE
  · cases sessionAlerts <;> simp [TimeAlert.isDue, hactive, h.active hactive, h.schedule_eq, and_comm]
  · simp [TimeAlert.isDue, hactive]

theorem ReminderInv.init :
    ReminderInv utcOffset notifier schedule created (newReminder utcOffset schedule created) where
  schedule_eq := rfl
  active _ := congrArg some (schedule.firstFireAt_eq utcOffset created)
  underWay _ _ hturn := nomatch hturn
  follows := trivial
  awaits _ hturn := nomatch hturn
  sublist _ := .slnil
  sent _ _ hturn := nomatch hturn
  unsent _ := rfl
  messages := nofun
  once _ := .inl rfl

theorem ReminderInv.withoutTurn (h : ReminderInv utcOffset notifier schedule created s) :
    ReminderInv utcOffset notifier schedule created { s with underWay := none } where
  schedule_eq := h.schedule_eq
  active := h.active
  underWay _ _ hturn := nomatch hturn
  follows := h.follows
  awaits _ hturn := nomatch hturn
  sublist := h.sublist
  sent _ _ hturn := nomatch hturn
  unsent := h.unsent
  messages := h.messages
  once honce := (h.once honce).imp_right fun ⟨hlength, _, hstatus⟩ => ⟨hlength, rfl, hstatus⟩

/-- A reminder that is due is listed. -/
theorem ReminderInv.listed (h : ReminderInv utcOffset notifier schedule created s) {now : Instant}
    {sessionAlerts : Bool} (hdue : s.alert.isDue now sessionAlerts = true) :
    ReminderInv utcOffset notifier schedule created { s with underWay := some (now, !notifier) } := by
  obtain ⟨hactive, -, hcome⟩ := (h.isDue_iff now sessionAlerts).1 hdue
  refine { h with underWay := ?_, awaits := ?_, sent := ?_, once := ?_ }
  · rintro _ _ ⟨⟩
    exact hcome
  · intro _ hturn
    exact Bool.not_eq_eq_eq_not.1 (Prod.mk.inj (Option.some.inj hturn)).2
  · intro hnotifier _ hturn
    rw [hnotifier] at hturn
    exact nomatch hturn
  · exact fun honce => (h.once honce).imp_right fun hended => absurd hactive hended.2.2

/-- The message of the turn under way is delivered. -/
theorem ReminderInv.delivered (h : ReminderInv utcOffset notifier schedule created s) {now : Instant}
    (hturn : s.underWay = some (now, false)) :
    ReminderInv utcOffset notifier schedule created
      { s with underWay := some (now, true), messages := now :: s.messages } := by
  have hnotifier := h.awaits now hturn
  refine { h with
    underWay := ?_
    awaits := fun _ hturn => (nomatch hturn)
    sublist := fun _ => (h.sublist hnotifier).cons now
    sent := ?_
    unsent := fun hnone => absurd (hnotifier.symm.trans hnone) Bool.true_eq_false_eq_False
    messages := ?_
    once := ?_ }
  · rintro _ _ ⟨⟩
    exact h.underWay now false hturn
  · rintro _ _ ⟨⟩
    exact (h.sublist hnotifier).cons_cons now
  · intro sentAt hsentAt
    rcases List.mem_cons.1 hsentAt with rfl | hearlier
    · exact ⟨s.marks, List.suffix_rfl, h.underWay sentAt false hturn⟩
    · exact h.messages sentAt hearlier
  · intro honce
    refine (h.once honce).imp_right fun hended => ?_
    rw [hended.2.1] at hturn
    exact nomatch hturn

theorem ReminderInv.triggered (h : ReminderInv utcOffset notifier schedule created s) {now : Instant}
    (hturn : s.underWay = some (now, true)) :
    ReminderInv utcOffset notifier schedule created
      { s with
        alert := s.alert.triggered (s.alert.schedule.nextFireAt utcOffset now) now
        underWay := none
        marks := now :: s.marks } where
  schedule_eq := h.schedule_eq
  active hactive := by
    simp only [TimeAlert.triggered, h.schedule_eq, schedule.nextFireAt_eq] at hactive ⊢
    by_cases honce : schedule.isOnce = true
    · simp [honce] at hactive
    · rw [if_neg honce, since]
  underWay _ _ hturn := nomatch hturn
  follows := ⟨h.underWay now true hturn, h.follows⟩
  awaits _ hturn := nomatch hturn
  sublist hnotifier := h.sent hnotifier now hturn
  sent _ _ hturn := nomatch hturn
  unsent := h.unsent
  messages sentAt hsentAt := by
    obtain ⟨marks, hsuffix, hcome⟩ := h.messages sentAt hsentAt
    exact ⟨marks, hsuffix.trans (List.suffix_cons now s.marks), hcome⟩
  once honce := by
    refine .inr ⟨?_, rfl, ?_⟩
    · rcases h.once honce with hfirst | hended
      · simp [hfirst]
      · rw [hended.2.1] at hturn
        exact nomatch hturn
    · simp [TimeAlert.triggered, h.schedule_eq, schedule.nextFireAt_eq, honce]

theorem ReminderInv.step (h : ReminderInv utcOffset notifier schedule created s) (action : ReminderAction) :
    ReminderInv utcOffset notifier schedule created (s.step utcOffset notifier action) := by
  cases action with
  | list now readable sessionAlerts =>
    rw [ReminderSystem.step]
    by_cases hdue : (readable && s.alert.isDue now sessionAlerts) = true
    · rw [if_pos hdue]
      exact h.listed (Bool.and_eq_true_iff.1 hdue).2
    · rw [if_neg hdue]
      exact h.withoutTurn
  | deliver delivered =>
    rw [ReminderSystem.step]
    match hturn : s.underWay with
    | none => exact h
    | some (now, true) => exact h
    | some (now, false) =>
      cases delivered with
      | false => exact h.withoutTurn
      | true => exact h.delivered hturn
  | mark readable refuses =>
    rw [ReminderSystem.step]
    match hturn : s.underWay with
    | none => exact h
    | some (now, false) => exact h
    | some (now, true) =>
      by_cases hwritten : (readable && !refuses) = true
      · dsimp only
        rw [if_pos hwritten]
        exact h.triggered hturn
      · dsimp only
        rw [if_neg hwritten]
        exact h.withoutTurn
  | cancel lastFiredAt refuses =>
    rw [ReminderSystem.step]
    cases refuses with
    | true => exact h
    | false =>
      exact
        { h with
          active := fun hactive => nomatch hactive
          once := fun honce => (h.once honce).imp_right fun ⟨hlength, hidle, _⟩ => ⟨hlength, hidle, nofun⟩ }

theorem ReminderInv.run (h : ReminderInv utcOffset notifier schedule created s) (actions : List ReminderAction) :
    ReminderInv utcOffset notifier schedule created (s.run utcOffset notifier actions) := by
  induction actions generalizing s with
  | nil => exact h
  | cons action actions ih => exact ih (h.step action)

/-- A reminder that is cancelled, with no turn under way. -/
def ReminderSystem.Silent (s : ReminderSystem) : Prop :=
  s.alert.status = .CANCELLED ∧ s.underWay = none

theorem ReminderSystem.Silent.step (utcOffset : ℤ) (notifier : Bool) (h : s.Silent) (action : ReminderAction) :
    (s.step utcOffset notifier action).Silent ∧ (s.step utcOffset notifier action).messages = s.messages ∧
      (s.step utcOffset notifier action).marks = s.marks := by
  obtain ⟨hcancelled, hidle⟩ := h
  cases action with
  | list now readable sessionAlerts =>
    simp [ReminderSystem.step, ReminderSystem.Silent, TimeAlert.isDue, hcancelled]
  | deliver delivered => simp [ReminderSystem.step, ReminderSystem.Silent, hcancelled, hidle]
  | mark readable refuses => simp [ReminderSystem.step, ReminderSystem.Silent, hcancelled, hidle]
  | cancel lastFiredAt refuses =>
    cases refuses <;> simp [ReminderSystem.step, ReminderSystem.Silent, hcancelled, hidle]

theorem ReminderSystem.Silent.run (h : s.Silent) (actions : List ReminderAction) :
    (s.run utcOffset notifier actions).Silent ∧ (s.run utcOffset notifier actions).messages = s.messages ∧
      (s.run utcOffset notifier actions).marks = s.marks := by
  induction actions generalizing s with
  | nil => exact ⟨h, rfl, rfl⟩
  | cons action actions ih =>
    obtain ⟨hsilent, hmessages, hmarks⟩ := h.step utcOffset notifier action
    obtain ⟨hend, hend_messages, hend_marks⟩ := ih hsilent
    exact ⟨hend, hend_messages.trans hmessages, hend_marks.trans hmarks⟩

end runs

/-- After any run, the engine lists a reminder exactly when it is active, its session alerts are on, and a
moment of its schedule came more than a second after its last turn.  Each turn and each message has such a
moment, with a notifier each turn was sent and without one nothing, a reminder for one time has one turn at
most, and nothing comes of one that was cancelled between turns. -/
theorem timeAlerts_follow (utcOffset : ℤ) (notifier : Bool) (schedule : TimeAlertSchedule) (created : Instant)
    (actions : List ReminderAction) :
    let s := (newReminder utcOffset schedule created).run utcOffset notifier actions
    (∀ now readable sessionAlerts,
      (s.step utcOffset notifier (.list now readable sessionAlerts)).underWay = some (now, !notifier) ↔
        readable ∧ s.alert.status = .ACTIVE ∧ (schedule.isSession → sessionAlerts) ∧
          HasCome utcOffset schedule created s.marks now) ∧
      Follows (schedule.recurrence utcOffset) (· + second) created s.marks ∧
      (notifier = true → s.marks.Sublist s.messages) ∧ (notifier = false → s.messages = []) ∧
      (∀ now ∈ s.messages, ∃ marks, marks <:+ s.marks ∧ HasCome utcOffset schedule created marks now) ∧
      (schedule.isOnce → s.marks.length ≤ 1) ∧
      (s.Silent → ∀ later, (s.run utcOffset notifier later).Silent ∧
        (s.run utcOffset notifier later).messages = s.messages ∧
        (s.run utcOffset notifier later).marks = s.marks) := by
  intro s
  have h : ReminderInv utcOffset notifier schedule created s := ReminderInv.init.run actions
  refine ⟨?_, h.follows, h.sublist, h.unsent, h.messages, ?_, fun hsilent => hsilent.run⟩
  · intro now readable sessionAlerts
    rw [← h.isDue_iff now sessionAlerts, ReminderSystem.step]
    cases readable <;> cases hdue : s.alert.isDue now sessionAlerts <;> simp
  · intro honce
    rcases h.once honce with hfirst | hended
    · simp [hfirst]
    · exact hended.1.le

end OandaV3
