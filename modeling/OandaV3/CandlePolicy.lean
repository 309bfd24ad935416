import OandaV3.Calendar
import OandaV3.DocTable
import OandaV3.Models
import OandaV3.Segments

/-! # Candles and the closed-bar policy

`core/candle_policy.py`; instants are microseconds since the epoch, UTC.  A bar is closed by one of two
rules: `trim_to_closed` adds the duration of its timeframe to its start,
`get_last_completed_candle_start` floors the current instant to a boundary and subtracts the duration.
The boundaries of H2 to W hang on 17:00 in New York, so a day with a change of the clock is 23 or 25
hours long.

* `floorTimeToBoundary_isFloor`: floors are monotone, idempotent lower bounds, so that a cached candle
  only gets staler.
* `closedBarPolicies_agree_iff`: the two rules agree at an instant exactly when the grid of the timeframe
  is regular around it (`RegularAt`). -/

namespace OandaV3

/-! ### Timeframes -/

/-- `OANDA_CANDLE_GRANULARITIES`. -/
inductive Timeframe where
  | S5 | S10 | S15 | S30
  | M1 | M2 | M4 | M5 | M10 | M15 | M30
  | H1 | H2 | H3 | H4 | H6 | H8 | H12
  | D | W
deriving DecidableEq, Repr

namespace Timeframe

/-- Every supported timeframe. -/
def all : List Timeframe :=
  [S5, S10, S15, S30, M1, M2, M4, M5, M10, M15, M30, H1, H2, H3, H4, H6, H8, H12, D, W]

/-- The name of a timeframe. -/
def text : Timeframe → String
  | S5 => "S5" | S10 => "S10" | S15 => "S15" | S30 => "S30"
  | M1 => "M1" | M2 => "M2" | M4 => "M4" | M5 => "M5" | M10 => "M10" | M15 => "M15" | M30 => "M30"
  | H1 => "H1" | H2 => "H2" | H3 => "H3" | H4 => "H4" | H6 => "H6" | H8 => "H8" | H12 => "H12"
  | D => "D" | W => "W"

/-- The timeframe with this name. -/
def ofText (text : String) : Option Timeframe := all.find? (fun tf => tf.text == text)

theorem ofText_text (tf : Timeframe) : ofText tf.text = some tf := by
  cases tf <;> decide

end Timeframe

/-- A second, in microseconds. -/
def second : ℤ := 1000000

def minute : ℤ := 60 * second

def hour : ℤ := 60 * minute

/-- `TIMEFRAME_DELTAS`. -/
def Timeframe.delta : Timeframe → ℤ
  | S5 => 5 * second
  | S10 => 10 * second
  | S15 => 15 * second
  | S30 => 30 * second
  | M1 => minute
  | M2 => 2 * minute
  | M4 => 4 * minute
  | M5 => 5 * minute
  | M10 => 10 * minute
  | M15 => 15 * minute
  | M30 => 30 * minute
  | H1 => hour
  | H2 => 2 * hour
  | H3 => 3 * hour
  | H4 => 4 * hour
  | H6 => 6 * hour
  | H8 => 8 * hour
  | H12 => 12 * hour
  | D => 24 * hour
  | W => 7 * (24 * hour)

theorem Timeframe.delta_pos (tf : Timeframe) : 0 < tf.delta := by cases tf <;> decide

/-- `get_timeframe_delta`. -/
def getTimeframeDelta (timeframe : String) : Except Exn ℤ :=
  match Timeframe.ofText timeframe with
  | some tf => .ok tf.delta
  | none => .error (.valueError ("Unsupported timeframe '" ++ timeframe ++ "'. Supported values: " ++
      "['D', 'H1', 'H12', 'H2', 'H3', 'H4', 'H6', 'H8', 'M1', 'M10', 'M15', 'M2', 'M30', 'M4', " ++
      "'M5', 'S10', 'S15', 'S30', 'S5', 'W']."))

/-! ### Candles -/

/-- A row of a candle frame with the canonical columns. -/
structure Candle where
  time : ℤ
  openPrice : ℚ
  high : ℚ
  low : ℚ
  close : ℚ
  tickVolume : ℤ
deriving DecidableEq, Repr

/-- `validate_candle_df` on a frame with the canonical columns: a stable sort by time. -/
def validateCandleDf (df : List Candle) : List Candle := sortOn Candle.time df

/-- `trim_to_closed`: the bars whose duration is over. -/
def trimToClosed (tf : Timeframe) (nowUtc : ℤ) (df : List Candle) : List Candle :=
  (validateCandleDf df).filter fun candle => decide (candle.time + tf.delta ≤ nowUtc)

theorem mem_trimToClosed {tf : Timeframe} {nowUtc : ℤ} {df : List Candle} {candle : Candle} :
    candle ∈ trimToClosed tf nowUtc df ↔ candle ∈ df ∧ candle.time + tf.delta ≤ nowUtc := by
  rw [trimToClosed, List.mem_filter, validateCandleDf, mem_sortOn, decide_eq_true_eq]

/-! ### Boundaries -/

/-- What the code reads off the alignment zone, New York: the local date of an instant, and 17:00 of a
local date.  17:00 exists once on each date, and later on a later date. -/
structure DailyAnchors where
  localDate : ℤ → ℤ
  localAnchor : ℤ → ℤ
  anchor_le : ∀ t, localAnchor (localDate t - 1) ≤ t
  lt_anchor : ∀ t, t < localAnchor (localDate t + 1)
  anchor_lt : ∀ d, localAnchor d < localAnchor (d + 1)

/-- The clock of the alignment zone: a day from 17:00 to 17:00 has 23, 24 or 25 hours, and the clock does
not change on two days in a row. -/
structure AlignmentZone extends DailyAnchors where
  day_length : ∀ d, localAnchor (d + 1) - localAnchor d = 23 * hour ∨
    localAnchor (d + 1) - localAnchor d = 24 * hour ∨ localAnchor (d + 1) - localAnchor d = 25 * hour
  change_apart : ∀ d, localAnchor (d + 1) - localAnchor d = 24 * hour ∨
    localAnchor (d + 2) - localAnchor (d + 1) = 24 * hour

instance : Coe AlignmentZone DailyAnchors := ⟨AlignmentZone.toDailyAnchors⟩

section

variable (zone : DailyAnchors)

/-- The date of `_oanda_daily_anchor_for`: the last one whose 17:00 is not after the instant. -/
def oandaDailyAnchorDate (timestamp : ℤ) : ℤ :=
  let localDate := zone.localDate timestamp
  if timestamp < zone.localAnchor localDate then localDate - 1 else localDate

/-- `_floor_to_oanda_day_aligned_boundary`. -/
def floorToOandaDayAlignedBoundary (timestamp : ℤ) (tf : Timeframe) : ℤ :=
  let anchor := zone.localAnchor (oandaDailyAnchorDate zone timestamp)
  let elapsed := timestamp - anchor
  let slots := elapsed / tf.delta
  anchor + slots * tf.delta

/-- `_floor_to_oanda_weekly_boundary`: weeks begin on Fridays. -/
def floorToOandaWeeklyBoundary (timestamp : ℤ) : ℤ :=
  zone.localAnchor (Calendar.weekStart 4 (oandaDailyAnchorDate zone timestamp))

/-- `floor_time_to_boundary`. -/
def floorTimeToBoundary (timestamp : ℤ) (tf : Timeframe) : ℤ :=
  match tf with
  | .S5 | .S10 | .S15 | .S30 | .M1 | .M2 | .M4 | .M5 | .M10 | .M15 | .M30 | .H1 =>
      timestamp / tf.delta * tf.delta
  | .H2 | .H3 | .H4 | .H6 | .H8 | .H12 | .D => floorToOandaDayAlignedBoundary zone timestamp tf
  | .W => floorToOandaWeeklyBoundary zone timestamp

/-- `get_current_candle_start`. -/
def getCurrentCandleStart (tf : Timeframe) (nowUtc : ℤ) : ℤ :=
  floorTimeToBoundary zone nowUtc tf

/-- `get_last_completed_candle_start`. -/
def getLastCompletedCandleStart (tf : Timeframe) (nowUtc : ℤ) : ℤ :=
  getCurrentCandleStart zone tf nowUtc - tf.delta

/-- `calculate_candle_staleness_seconds`, in microseconds. -/
def calculateCandleStaleness (lastCompletedCandle : ℤ) (tf : Timeframe) (nowUtc : ℤ) : ℤ :=
  let expected := getLastCompletedCandleStart zone tf nowUtc
  if expected ≤ lastCompletedCandle then 0 else expected - lastCompletedCandle

/-- A bar starts at this instant. -/
def IsBoundary (tf : Timeframe) (b : ℤ) : Prop := floorTimeToBoundary zone b tf = b

instance (tf : Timeframe) (b : ℤ) : Decidable (IsBoundary zone tf b) :=
  inferInstanceAs (Decidable (_ = _))

/-! ### Days and weeks of the alignment zone -/

namespace DailyAnchors

theorem localAnchor_strictMono : StrictMono zone.localAnchor :=
  strictMono_int_of_lt_succ zone.anchor_lt

theorem anchor_date_le (t : ℤ) : zone.localAnchor (oandaDailyAnchorDate zone t) ≤ t := by
  simp only [oandaDailyAnchorDate]
  split_ifs with h
  · exact zone.anchor_le t
  · exact not_lt.mp h

theorem lt_anchor_date (t : ℤ) : t < zone.localAnchor (oandaDailyAnchorDate zone t + 1) := by
  simp only [oandaDailyAnchorDate]
  split_ifs with h
  · rwa [sub_add_cancel]
  · exact zone.lt_anchor t

/-- The days from 17:00 to 17:00. -/
def days : Segments where
  start := zone.localAnchor
  index := oandaDailyAnchorDate zone
  start_lt := zone.anchor_lt
  start_index_le := zone.anchor_date_le
  lt_start_succ := zone.lt_anchor_date

end DailyAnchors

theorem floorTimeToBoundary_days {tf : Timeframe} (htf : tf ∈ [.H2, .H3, .H4, .H6, .H8, .H12, .D])
    (t : ℤ) : floorTimeToBoundary zone t tf = zone.days.floor tf.delta t := by
  simp only [List.mem_cons, List.not_mem_nil, or_false] at htf
  rcases htf with rfl | rfl | rfl | rfl | rfl | rfl | rfl <;> rfl

theorem floorTimeToBoundary_fixed {tf : Timeframe}
    (htf : tf ∉ [.H2, .H3, .H4, .H6, .H8, .H12, .D, .W]) (t : ℤ) :
    floorTimeToBoundary zone t tf = (Segments.multiples tf.delta tf.delta_pos).floor tf.delta t := by
  rw [Segments.multiples_floor]
  cases tf <;> first | rfl | exact absurd (by decide) htf

theorem weekday_weekStart (d : ℤ) : Calendar.weekday (Calendar.weekStart 4 d) = 4 := by
  unfold Calendar.weekStart Calendar.weekday
  omega

theorem week_le (t : ℤ) :
    zone.localAnchor (Calendar.weekStart 4 (oandaDailyAnchorDate zone t)) ≤ t :=
  (zone.localAnchor_strictMono.monotone (Calendar.weekStart_le 4 _)).trans (zone.anchor_date_le t)

/-- Weekly bars start at 17:00 on Fridays. -/
theorem isBoundary_week_iff {b : ℤ} : IsBoundary zone .W b ↔
    ∃ friday, Calendar.weekday friday = 4 ∧ b = zone.localAnchor friday := by
  constructor
  · intro h
    exact ⟨_, weekday_weekStart _, Eq.symm h⟩
  · rintro ⟨friday, hfriday, rfl⟩
    have hdate : oandaDailyAnchorDate zone (zone.localAnchor friday) = friday :=
      zone.days.index_eq le_rfl (zone.anchor_lt friday)
    have hweek : Calendar.weekStart 4 friday = friday := by
      rw [Calendar.weekStart, hfriday]
      omega
    unfold IsBoundary
    simp only [floorTimeToBoundary, floorToOandaWeeklyBoundary, hdate, hweek]

/-! ### Floors -/

theorem floor_cases (tf : Timeframe) :
    (∃ s : Segments, ∀ t, floorTimeToBoundary zone t tf = s.floor tf.delta t) ∨ tf = .W := by
  by_cases hdays : tf ∈ [Timeframe.H2, .H3, .H4, .H6, .H8, .H12, .D]
  · exact Or.inl ⟨zone.days, floorTimeToBoundary_days zone hdays⟩
  · by_cases hweek : tf = .W
    · exact Or.inr hweek
    · refine Or.inl ⟨Segments.multiples tf.delta tf.delta_pos, floorTimeToBoundary_fixed zone ?_⟩
      simp only [List.mem_cons, List.not_mem_nil, or_false] at hdays ⊢
      tauto

theorem floorTimeToBoundary_le (tf : Timeframe) (t : ℤ) : floorTimeToBoundary zone t tf ≤ t := by
  rcases floor_cases zone tf with ⟨s, hfloor⟩ | rfl
  · rw [hfloor]
    exact s.floor_le tf.delta_pos t
  · exact week_le zone t

theorem floorTimeToBoundary_mono (tf : Timeframe) :
    Monotone fun t => floorTimeToBoundary zone t tf := by
  intro t u h
  rcases floor_cases zone tf with ⟨s, hfloor⟩ | rfl
  · simp only [hfloor]
    exact s.floor_mono tf.delta_pos h
  · exact zone.localAnchor_strictMono.monotone (Calendar.weekStart_mono 4 (zone.days.index_mono h))

theorem isBoundary_floor (tf : Timeframe) (t : ℤ) :
    IsBoundary zone tf (floorTimeToBoundary zone t tf) := by
  rcases floor_cases zone tf with ⟨s, hfloor⟩ | rfl
  · unfold IsBoundary
    simp only [hfloor]
    exact s.floor_floor tf.delta_pos t
  · exact (isBoundary_week_iff zone).mpr ⟨_, weekday_weekStart _, rfl⟩

/-- A floor is the latest boundary up to the instant. -/
theorem isGreatest_floor (tf : Timeframe) (t : ℤ) :
    IsGreatest {b | IsBoundary zone tf b ∧ b ≤ t} (floorTimeToBoundary zone t tf) := by
  refine ⟨⟨isBoundary_floor zone tf t, floorTimeToBoundary_le zone tf t⟩, ?_⟩
  rintro b ⟨hb, hle⟩
  have hmono : floorTimeToBoundary zone b tf ≤ floorTimeToBoundary zone t tf :=
    floorTimeToBoundary_mono zone tf hle
  rwa [hb] at hmono

/-- **Floors to the boundaries of bars.**  A floor does not decrease, is at most the instant and stays
where it is; a week starts at the latest Friday 17:00, and a cached candle only gets staler. -/
theorem floorTimeToBoundary_isFloor :
    (∀ tf s t, s ≤ t →
      floorTimeToBoundary zone s tf ≤ floorTimeToBoundary zone t tf ∧
        floorTimeToBoundary zone t tf ≤ t ∧
        floorTimeToBoundary zone (floorTimeToBoundary zone t tf) tf = floorTimeToBoundary zone t tf) ∧
      (∀ t, IsGreatest {b | (∃ friday, Calendar.weekday friday = 4 ∧ b = zone.localAnchor friday) ∧
        b ≤ t} (floorTimeToBoundary zone t .W)) ∧
      ∀ lastCompletedCandle tf nowUtc later, nowUtc ≤ later →
        calculateCandleStaleness zone lastCompletedCandle tf nowUtc ≤
          calculateCandleStaleness zone lastCompletedCandle tf later := by
  refine ⟨fun tf s t h => ?_, fun t => ?_, fun lastCompletedCandle tf nowUtc later h => ?_⟩
  · exact ⟨floorTimeToBoundary_mono zone tf h, floorTimeToBoundary_le zone tf t,
      isBoundary_floor zone tf t⟩
  · simp only [← isBoundary_week_iff]
    exact isGreatest_floor zone .W t
  · have hmono := floorTimeToBoundary_mono zone tf h
    simp only [calculateCandleStaleness, getLastCompletedCandleStart, getCurrentCandleStart] at hmono ⊢
    split_ifs <;> omega

end

variable (zone : AlignmentZone)

/-! ### The two policies -/

/-- The two closed-bar policies agree at an instant: of the bars that start at a boundary,
`trim_to_closed` keeps those up to the last completed one, and that one starts at a boundary. -/
structure ClosedBarPoliciesAgree (tf : Timeframe) (nowUtc : ℤ) : Prop where
  keeps_iff : ∀ df, ∀ candle ∈ df, IsBoundary zone tf candle.time →
    (candle ∈ trimToClosed tf nowUtc df ↔ candle.time ≤ getLastCompletedCandleStart zone tf nowUtc)
  last : IsBoundary zone tf (getLastCompletedCandleStart zone tf nowUtc)

/-- The length of the day that begins at 17:00 of a date. -/
def dayLength (d : ℤ) : ℤ := zone.localAnchor (d + 1) - zone.localAnchor d

/-- The grid is regular around an instant: a day-aligned bar is not the first of a day after a change
of the clock, and a week and the one before it have their usual length so far. -/
def RegularAt (tf : Timeframe) (nowUtc : ℤ) : Prop :=
  let date := oandaDailyAnchorDate zone nowUtc
  match tf with
  | .H2 | .H3 | .H4 | .H6 | .H8 | .H12 | .D =>
      tf.delta ≤ nowUtc - zone.localAnchor date ∨ dayLength zone (date - 1) = 24 * hour
  | .W =>
      let week := Calendar.weekStart 4 date
      zone.localAnchor week - zone.localAnchor (week - 7) = tf.delta ∧
        nowUtc < zone.localAnchor week + tf.delta
  | _ => True

/-- The frames do not matter. -/
theorem closedBarPoliciesAgree_iff {tf : Timeframe} {nowUtc : ℤ} :
    ClosedBarPoliciesAgree zone tf nowUtc ↔
      IsBoundary zone tf (getLastCompletedCandleStart zone tf nowUtc) ∧
        ∀ b, IsBoundary zone tf b →
          (b + tf.delta ≤ nowUtc ↔ b ≤ getLastCompletedCandleStart zone tf nowUtc) := by
  constructor
  · intro h
    refine ⟨h.last, fun b hb => ?_⟩
    have hkeeps := h.keeps_iff [⟨b, 1, 1, 1, 1, 0⟩] ⟨b, 1, 1, 1, 1, 0⟩ List.mem_cons_self hb
    rw [mem_trimToClosed] at hkeeps
    simpa using hkeeps
  · rintro ⟨hlast, hclosed⟩
    refine ⟨fun df candle hcandle hb => ?_, hlast⟩
    rw [mem_trimToClosed, hclosed candle.time hb]
    exact and_iff_right hcandle

theorem agree_fixed {tf : Timeframe} (htf : tf ∉ [.H2, .H3, .H4, .H6, .H8, .H12, .D, .W])
    (nowUtc : ℤ) : ClosedBarPoliciesAgree zone tf nowUtc := by
  rw [closedBarPoliciesAgree_iff]
  simp only [IsBoundary, getLastCompletedCandleStart, getCurrentCandleStart,
    floorTimeToBoundary_fixed zone htf]
  refine Segments.closed_iff _ tf.delta_pos (Or.inr ?_)
  rw [Segments.multiples_length]

theorem dayLength_cases (d : ℤ) : dayLength zone d = 23 * hour ∨ dayLength zone d = 24 * hour ∨
    dayLength zone d = 25 * hour := zone.day_length d

/-- A day-aligned duration fills a day of 24 hours, and no other one. -/
theorem delta_dvd_dayLength {tf : Timeframe} (htf : tf ∈ [.H2, .H3, .H4, .H6, .H8, .H12, .D]) (d : ℤ) :
    tf.delta ∣ dayLength zone d ↔ dayLength zone d = 24 * hour := by
  simp only [List.mem_cons, List.not_mem_nil, or_false] at htf
  have hcases := dayLength_cases zone d
  rcases htf with rfl | rfl | rfl | rfl | rfl | rfl | rfl <;>
    simp only [Timeframe.delta, hour, minute, second] at hcases ⊢ <;> omega

/-- In the first bar of a day after a change of the clock, no bar starts one duration earlier. -/
theorem not_last_of_change {tf : Timeframe} (htf : tf ∈ [.H2, .H3, .H4, .H6, .H8, .H12, .D])
    {nowUtc : ℤ}
    (hfirst : nowUtc - zone.localAnchor (oandaDailyAnchorDate zone nowUtc) < tf.delta)
    (hdvd : ¬ tf.delta ∣ dayLength zone (oandaDailyAnchorDate zone nowUtc - 1)) :
    ¬ zone.days.IsSlot tf.delta (zone.days.floor tf.delta nowUtc - tf.delta) := by
  have hpos := tf.delta_pos
  have hyesterday : dayLength zone (oandaDailyAnchorDate zone nowUtc - 1) =
      zone.localAnchor (oandaDailyAnchorDate zone nowUtc) -
        zone.localAnchor (oandaDailyAnchorDate zone nowUtc - 1) := by
    rw [dayLength, sub_add_cancel]
  by_cases hfits : tf.delta ≤ dayLength zone (oandaDailyAnchorDate zone nowUtc - 1)
  · have hlow : zone.localAnchor (oandaDailyAnchorDate zone nowUtc - 1) ≤
        zone.localAnchor (oandaDailyAnchorDate zone nowUtc) - tf.delta := by omega
    have hhigh : zone.localAnchor (oandaDailyAnchorDate zone nowUtc) - tf.delta <
        zone.localAnchor (oandaDailyAnchorDate zone nowUtc - 1 + 1) := by
      rw [sub_add_cancel]
      omega
    exact zone.days.not_isSlot_of_not_dvd hfirst hlow hhigh (by rwa [hyesterday] at hdvd)
  · -- a daily bar after a day of 23 hours: the day before that one had 24
    have hcases := dayLength_cases zone (oandaDailyAnchorDate zone nowUtc - 1)
    have hbefore := zone.change_apart (oandaDailyAnchorDate zone nowUtc - 2)
    rw [show oandaDailyAnchorDate zone nowUtc - 2 + 1 = oandaDailyAnchorDate zone nowUtc - 1 by ring,
      show oandaDailyAnchorDate zone nowUtc - 2 + 2 = oandaDailyAnchorDate zone nowUtc by ring,
      ← hyesterday] at hbefore
    have hdaily : tf.delta = 24 * hour := by
      simp only [List.mem_cons, List.not_mem_nil, or_false] at htf
      rcases htf with rfl | rfl | rfl | rfl | rfl | rfl | rfl <;>
        simp only [Timeframe.delta, hour, minute, second] at hcases hfits ⊢ <;> omega
    rw [hdaily] at hfits hfirst hdvd ⊢
    simp only [hour, minute, second] at hcases hbefore hfits hfirst hdvd ⊢
    refine zone.days.not_isSlot_of_not_dvd (i := oandaDailyAnchorDate zone nowUtc - 2) hfirst ?_ ?_ ?_
    · simp only [DailyAnchors.days]
      omega
    · simp only [DailyAnchors.days]
      rw [show oandaDailyAnchorDate zone nowUtc - 2 + 1 = oandaDailyAnchorDate zone nowUtc - 1 by ring]
      omega
    · simp only [DailyAnchors.days]
      omega

/-- The day-aligned timeframes agree outside the first bar of a day after a change of the clock. -/
theorem agree_days_iff {tf : Timeframe} (htf : tf ∈ [.H2, .H3, .H4, .H6, .H8, .H12, .D]) (nowUtc : ℤ) :
    ClosedBarPoliciesAgree zone tf nowUtc ↔
      tf.delta ≤ nowUtc - zone.localAnchor (oandaDailyAnchorDate zone nowUtc) ∨
        dayLength zone (oandaDailyAnchorDate zone nowUtc - 1) = 24 * hour := by
  rw [closedBarPoliciesAgree_iff, ← delta_dvd_dayLength zone htf]
  simp only [IsBoundary, getLastCompletedCandleStart, getCurrentCandleStart,
    floorTimeToBoundary_days zone htf]
  constructor
  · rintro ⟨hlast, -⟩
    by_contra hnot
    obtain ⟨hfirst, hdvd⟩ := not_or.mp hnot
    exact not_last_of_change zone htf (not_le.mp hfirst) hdvd hlast
  · intro hregular
    exact zone.days.closed_iff tf.delta_pos hregular

/-- Days of at least 23 hours. -/
theorem AlignmentZone.add_le_localAnchor (d : ℤ) (n : ℕ) :
    zone.localAnchor d + n * (23 * hour) ≤ zone.localAnchor (d + n) := by
  induction n with
  | zero => simp
  | succ n ih =>
      have hlength := zone.day_length (d + n)
      push_cast
      rw [← add_assoc d]
      simp only [hour, minute, second] at hlength ih ⊢
      omega

/-- The weekly timeframe agrees in a week of its usual length after another one. -/
theorem agree_week_iff (nowUtc : ℤ) : ClosedBarPoliciesAgree zone .W nowUtc ↔
    zone.localAnchor (Calendar.weekStart 4 (oandaDailyAnchorDate zone nowUtc)) -
        zone.localAnchor (Calendar.weekStart 4 (oandaDailyAnchorDate zone nowUtc) - 7) =
      Timeframe.W.delta ∧
    nowUtc < zone.localAnchor (Calendar.weekStart 4 (oandaDailyAnchorDate zone nowUtc)) +
      Timeframe.W.delta := by
  rw [closedBarPoliciesAgree_iff]
  simp only [getLastCompletedCandleStart, getCurrentCandleStart, floorTimeToBoundary,
    floorToOandaWeeklyBoundary]
  have hle := week_le zone nowUtc
  have hfriday := weekday_weekStart (oandaDailyAnchorDate zone nowUtc)
  generalize Calendar.weekStart 4 (oandaDailyAnchorDate zone nowUtc) = week at hle hfriday ⊢
  constructor
  · rintro ⟨hlast, hclosed⟩
    have hthis : IsBoundary zone .W (zone.localAnchor week) :=
      (isBoundary_week_iff zone).mpr ⟨week, hfriday, rfl⟩
    obtain ⟨friday, hday, hstart⟩ := (isBoundary_week_iff zone).mp hlast
    have hpos := Timeframe.W.delta_pos
    have hbefore : friday < week := zone.localAnchor_strictMono.lt_iff_lt.mp (by omega)
    have hlong := zone.add_le_localAnchor (week - 14) 14
    have hnear : week - 14 < friday := by
      refine zone.localAnchor_strictMono.lt_iff_lt.mp ?_
      simp only [Timeframe.delta, hour, minute, second] at hstart hlong
      rw [show week - 14 + ((14 : ℕ) : ℤ) = week by push_cast; ring] at hlong
      push_cast at hlong
      omega
    obtain rfl : friday = week - 7 := by
      unfold Calendar.weekday at hday hfriday
      omega
    refine ⟨by omega, ?_⟩
    by_contra hover
    have hkept := (hclosed _ hthis).mp (not_lt.mp hover)
    omega
  · rintro ⟨hlength, hover⟩
    have hlast : zone.localAnchor week - Timeframe.W.delta = zone.localAnchor (week - 7) := by omega
    have hlastFriday : Calendar.weekday (week - 7) = 4 := by
      unfold Calendar.weekday at hfriday ⊢
      omega
    rw [hlast]
    refine ⟨(isBoundary_week_iff zone).mpr ⟨week - 7, hlastFriday, rfl⟩, fun b hb => ?_⟩
    obtain ⟨friday, hday, rfl⟩ := (isBoundary_week_iff zone).mp hb
    constructor
    · intro hclosed
      have hbefore : friday < week := zone.localAnchor_strictMono.lt_iff_lt.mp (by omega)
      refine zone.localAnchor_strictMono.le_iff_le.mpr ?_
      unfold Calendar.weekday at hday hfriday
      omega
    · intro hbefore
      omega

/-- **The two closed-bar policies agree exactly where the grid is regular.** -/
theorem closedBarPolicies_agree_iff (tf : Timeframe) (nowUtc : ℤ) :
    ClosedBarPoliciesAgree zone tf nowUtc ↔ RegularAt zone tf nowUtc := by
  by_cases hfixed : tf ∈ [Timeframe.H2, .H3, .H4, .H6, .H8, .H12, .D, .W]
  · by_cases hdays : tf ∈ [Timeframe.H2, .H3, .H4, .H6, .H8, .H12, .D]
    · rw [agree_days_iff zone hdays]
      simp only [List.mem_cons, List.not_mem_nil, or_false] at hdays
      rcases hdays with rfl | rfl | rfl | rfl | rfl | rfl | rfl <;> rfl
    · obtain rfl : tf = .W := by
        simp only [List.mem_cons, List.not_mem_nil, or_false] at hfixed hdays
        tauto
      exact agree_week_iff zone nowUtc
  · refine iff_of_true (agree_fixed zone hfixed nowUtc) ?_
    cases tf <;> trivial

/-- New York in 2026: daylight saving time from March 8 to November 1, standard time before and after. -/
def newYork2026 : AlignmentZone where
  localDate t :=
    if 20520 * (24 * hour) + 7 * hour ≤ t ∧ t < 20758 * (24 * hour) + 6 * hour then
      (t - 4 * hour) / (24 * hour)
    else (t - 5 * hour) / (24 * hour)
  localAnchor d := d * (24 * hour) + if 20520 ≤ d ∧ d < 20758 then 21 * hour else 22 * hour
  anchor_le t := by
    simp only [hour, minute, second]
    split_ifs <;> omega
  lt_anchor t := by
    simp only [hour, minute, second]
    split_ifs <;> omega
  anchor_lt d := by
    simp only [hour, minute, second]
    split_ifs <;> omega
  day_length d := by
    simp only [hour, minute, second]
    split_ifs <;> omega
  change_apart d := by
    simp only [hour, minute, second]
    split_ifs <;> omega

/-- The last bar of the day that the change of the clock on 2026-11-01 makes longer, and the bar after
it. -/
theorem floorTimeToBoundary_isFloor_change :
    floorTimeToBoundary newYork2026 (20758 * (24 * hour) + 21 * hour) .H4 ≤
        floorTimeToBoundary newYork2026 (20758 * (24 * hour) + 22 * hour) .H4 ∧
      floorTimeToBoundary newYork2026 (20758 * (24 * hour) + 22 * hour) .H4 ≤
        20758 * (24 * hour) + 22 * hour ∧
      floorTimeToBoundary newYork2026
          (floorTimeToBoundary newYork2026 (20758 * (24 * hour) + 22 * hour) .H4) .H4 =
        floorTimeToBoundary newYork2026 (20758 * (24 * hour) + 22 * hour) .H4 :=
  (floorTimeToBoundary_isFloor newYork2026).1 .H4 _ _ (by decide)

/-- Friday 2026-11-06, 21:30 UTC: the week since October 30, 21:00 UTC, has an hour left, but 7 days are
over. -/
theorem closedBarPolicies_differ_longWeek :
    ¬ ClosedBarPoliciesAgree newYork2026 .W (20763 * (24 * hour) + 21 * hour + 30 * minute) := by
  intro h
  have hkeeps := (closedBarPoliciesAgree_iff newYork2026).mp h
  have hstart : IsBoundary newYork2026 .W (20756 * (24 * hour) + 21 * hour) := by decide
  have hforming := (hkeeps.2 _ hstart).mp (by decide)
  exact absurd hforming (by decide)

end OandaV3
