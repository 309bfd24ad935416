import OandaV3.CandlePolicy
import OandaV3.Scan
import OandaV3.Sessions

/-! # Market hours

`data/market_hours.py` looks for the moment in the sessions of three weeks of a calendar, and reports whether
the FX and the metals market are open, until when, or from when on.  A calendar is third-party code; what it
promises is in `MarketCalendar`.

* `scanSchedule_spec`: the loop over the schedule finds the next session.
* `mem_around_of_contains`: the session that is on is one of the schedule.
* `marketHours_status`: the report is right about each market and about both.
* `nextMarketOpenAt_first`: the next opening of any market, also when one of them is open. -/

namespace OandaV3

open Fallible Sessions

/-! ### Calendars -/

def dayMicros : ℤ := 24 * hour

/-- A market calendar: the session of each day that has one.  Sessions follow each other, and are near the
day they are listed under. -/
structure MarketCalendar where
  session : ℤ → Option (Session Instant)
  ordered : ∀ d d' s s', d < d' → session d = some s → session d' = some s' → s.closes ≤ s'.opens
  near : ∀ d s, session d = some s → (d - 1) * dayMicros ≤ s.opens ∧ s.closes ≤ (d + 2) * dayMicros

/-- `schedule`: the sessions from a day to another one. -/
def MarketCalendar.schedule (calendar : MarketCalendar) (startDate endDate : ℤ) : List (Session Instant) :=
  ((List.range (endDate - startDate + 1).toNat).map fun n : ℕ => startDate + n).filterMap calendar.session

/-- `now.date()`, of the UTC date. -/
def dateOf (now : Instant) : ℤ := now / dayMicros

/-- `_LOOKBACK_DAYS`. -/
def lookbackDays : ℤ := 7

/-- `_LOOKAHEAD_DAYS`. -/
def lookaheadDays : ℤ := 14

/-! ### Statuses -/

/-- `MarketHoursStatus`. -/
structure MarketHoursStatus where
  checkedAt : Instant
  isMarketOpen : Bool
  source : String
  category : Option String := none
  reason : Option String := none
  nextOpenAt : Option Instant := none
  nextCloseAt : Option Instant := none
deriving DecidableEq, Repr

/-- `MarketHoursStatus.validate_contract`. -/
def MarketHoursStatus.validate (status : MarketHoursStatus) : Except Exn MarketHoursStatus :=
  if status.category.any Text.isBlank then
    .error (.valueError "MarketHoursStatus.category must be non-empty when provided.")
  else .ok status

/-- `MarketHoursOverview`, with its statuses. -/
structure MarketHoursReport where
  overall : MarketHoursStatus
  fx : MarketHoursStatus
  metals : MarketHoursStatus
deriving DecidableEq, Repr

/-- `MarketHoursOverview.validate_contract`. -/
def MarketHoursReport.validate (report : MarketHoursReport) : Except Exn MarketHoursReport :=
  if report.fx.category.any (· != "fx") then .error (.valueError "fx status must use category 'fx'.")
  else if report.metals.category.any (· != "metals") then
    .error (.valueError "metals status must use category 'metals'.")
  else .ok report

/-- The flags that a scan reads. -/
def MarketHoursReport.flags (report : MarketHoursReport) : MarketHoursOverview where
  fx := report.fx.isMarketOpen
  metals := report.metals.isMarketOpen
  overall := report.overall.isMarketOpen

/-- `"pandas_market_calendars_refined"`. -/
def marketHoursSource : String := "pandas_market_calendars_refined"

/-! ### One market -/

/-- What the loop over a schedule has found: the session that is on, the next opening, the last close. -/
structure ScheduleScan where
  activeRow : Option (Session Instant)
  nextOpen : Option Instant
  previousClose : Option Instant

/-- The loop of `_compute_category_status`. -/
def scanSchedule (now : Instant) : List (Session Instant) → Option Instant → ScheduleScan
  | [], previousClose => ⟨none, none, previousClose⟩
  | row :: rows, previousClose =>
      if row.closes ≤ now then scanSchedule now rows (some row.closes)
      else if row.opens ≤ now ∧ now < row.closes then ⟨some row, none, previousClose⟩
      else if now < row.opens then ⟨none, some row.opens, previousClose⟩
      else scanSchedule now rows previousClose

/-- `_find_next_open_after`. -/
def findNextOpenAfter (calendar : MarketCalendar) (now : Instant) : Option Instant :=
  ((calendar.schedule (dateOf (now + second)) (dateOf now + lookaheadDays)).find?
    fun row => decide (now < row.opens)).map Session.opens

/-- `_closed_reason`. -/
def closedReason (now : Instant) (previousClose nextOpen : Option Instant) : String :=
  if 5 ≤ Calendar.weekday (dateOf now) then "weekend_closed"
  else if previousClose.any fun close => dateOf close == dateOf now then "after_close"
  else if nextOpen.any fun opening => dateOf opening == dateOf now then "pre_open"
  else "holiday_closed"

/-- `_compute_category_status`, of a calendar that is loaded. -/
def computeCategoryStatus (category : String) (calendar : MarketCalendar) (now : Instant) :
    Except Exn MarketHoursStatus :=
  let found := scanSchedule now
    (calendar.schedule (dateOf now - lookbackDays) (dateOf now + lookaheadDays)) none
  let nextOpen := found.nextOpen.or (findNextOpenAfter calendar now)
  match found.activeRow with
  | some row => MarketHoursStatus.validate {
      checkedAt := now
      isMarketOpen := true
      source := marketHoursSource
      category := some category
      reason := some "open"
      nextCloseAt := some row.closes }
  | none => MarketHoursStatus.validate {
      checkedAt := now
      isMarketOpen := false
      source := marketHoursSource
      category := some category
      reason := some (closedReason now found.previousClose nextOpen)
      nextOpenAt := nextOpen }

/-! ### The service -/

/-- `MarketHoursService`: its calendars, as `_load_calendar` finds them. -/
structure MarketHoursService where
  fxCalendar : Except Exn MarketCalendar
  metalsCalendar : Except Exn MarketCalendar

/-- `min(candidates) if candidates else None`. -/
def earliest (candidates : List Instant) : Option Instant := candidates.min?

/-- `_build_overall_status`. -/
def buildOverallStatus (now : Instant) (fxStatus metalsStatus : MarketHoursStatus) :
    Except Exn MarketHoursStatus :=
  let openStatuses := [fxStatus, metalsStatus].filter MarketHoursStatus.isMarketOpen
  if openStatuses ≠ [] then
    MarketHoursStatus.validate {
      checkedAt := now
      isMarketOpen := true
      source := marketHoursSource
      category := some "overall"
      reason := some (if openStatuses.length = 2 then "open" else "partial_open")
      nextCloseAt := earliest (openStatuses.filterMap MarketHoursStatus.nextCloseAt) }
  else
    MarketHoursStatus.validate {
      checkedAt := now
      isMarketOpen := false
      source := marketHoursSource
      category := some "overall"
      reason := if fxStatus.reason = metalsStatus.reason then fxStatus.reason else some "mixed_closed"
      nextOpenAt := earliest ([fxStatus, metalsStatus].filterMap MarketHoursStatus.nextOpenAt) }

/-- The calendar of a category, and its status. -/
def MarketHoursService.categoryStatusAt (service : MarketHoursService) (category : String)
    (now : Instant) : Except Exn MarketHoursStatus :=
  if category = "metals" then do
    let calendar ← service.metalsCalendar
    computeCategoryStatus category calendar now
  else do
    let calendar ← service.fxCalendar
    computeCategoryStatus category calendar now

/-- `get_status`. -/
def MarketHoursService.getStatus (service : MarketHoursService) (now : Instant) :
    Except Exn MarketHoursReport := do
  let fxStatus ← service.categoryStatusAt "fx" now
  let metalsStatus ← service.categoryStatusAt "metals" now
  let overall ← buildOverallStatus now fxStatus metalsStatus
  MarketHoursReport.validate { overall, fx := fxStatus, metals := metalsStatus }

/-- The turn of a category in `next_market_open_at`. -/
def MarketHoursService.nextOpenOf (service : MarketHoursService) (status : MarketHoursStatus) :
    Except Exn (Option Instant) :=
  match status.isMarketOpen, status.nextCloseAt with
  | true, some close => do
      let followUp ← service.categoryStatusAt (status.category.getD "fx") (close + second)
      return followUp.nextOpenAt
  | _, _ => .ok status.nextOpenAt

/-- `next_market_open_at`. -/
def MarketHoursService.nextMarketOpenAt (service : MarketHoursService) (now : Instant) :
    Except Exn (Option Instant) := do
  let report ← service.getStatus now
  if report.overall.isMarketOpen = false then return report.overall.nextOpenAt
  else do
    let fxOpen ← service.nextOpenOf report.fx
    let metalsOpen ← service.nextOpenOf report.metals
    return earliest ([fxOpen, metalsOpen].filterMap id)

/-- `_CATEGORY_ALIASES`. -/
def categoryAliases : List (String × String) :=
  [("overall", "overall"), ("fx", "fx"), ("major_fx", "fx"), ("minor_fx", "fx"), ("metals", "metals"),
    ("metal", "metals"), ("energy_cfd", "overall"), ("index_cfd", "overall")]

/-- `_normalize_category`. -/
def normalizeCategory (category : String) : Except Exn String :=
  match categoryAliases.lookup (Text.lower (Text.strip category)) with
  | some normalized => .ok normalized
  | none => .error (.keyError ("Unsupported market-hours category '" ++ category ++ "'."))

/-- `get_category_status`. -/
def MarketHoursService.getCategoryStatus (service : MarketHoursService) (category : String)
    (now : Instant) : Except Exn MarketHoursStatus := do
  let normalized ← normalizeCategory category
  if normalized = "overall" then return (← service.getStatus now).overall
  else service.categoryStatusAt normalized now

/-- `get_instrument_status`. -/
def MarketHoursService.getInstrumentStatus (service : MarketHoursService) (instrument : String)
    (now : Instant) : Except Exn MarketHoursStatus := do
  let spec ← getInstrumentSpec instrument
  service.getCategoryStatus spec.category now

/-! ### Schedules -/

namespace MarketCalendar

variable (calendar : MarketCalendar) {startDate endDate now horizon : ℤ} {s : Session Instant}

theorem mem_schedule : s ∈ calendar.schedule startDate endDate ↔
    ∃ d, startDate ≤ d ∧ d ≤ endDate ∧ calendar.session d = some s := by
  simp only [schedule, List.mem_filterMap, List.mem_map, List.mem_range]
  constructor
  · rintro ⟨d, ⟨n, hn, rfl⟩, hd⟩
    exact ⟨startDate + n, by omega, by omega, hd⟩
  · rintro ⟨d, hstart, hend, hd⟩
    exact ⟨d, ⟨(d - startDate).toNat, by omega, by omega⟩, hd⟩

theorem ordered_schedule (startDate endDate : ℤ) : Ordered (calendar.schedule startDate endDate) := by
  have hdays : ((List.range (endDate - startDate + 1).toNat).map fun n : ℕ => startDate + n).Pairwise
      (· < ·) := by
    refine List.pairwise_map.mpr (List.pairwise_lt_range.imp fun h => ?_)
    omega
  refine List.Pairwise.filterMap calendar.session (fun d d' hlt s hs s' hs' => ?_) hdays
  exact calendar.ordered d d' s s' hlt hs hs'

/-- A session of the calendar is on. -/
def IsOpen (now : Instant) : Prop := ∃ d s, calendar.session d = some s ∧ s.Contains now

/-- The openings after a moment, of the sessions that are listed up to a day. -/
def openingsAfter (now : Instant) (horizon : ℤ) : Set Instant :=
  {t | ∃ d s, d ≤ horizon ∧ calendar.session d = some s ∧ s.opens = t ∧ now < t}

theorem dateOf_bounds (t : Instant) : dateOf t * dayMicros ≤ t ∧ t < (dateOf t + 1) * dayMicros := by
  have hpos : 0 < dayMicros := by decide
  exact ⟨Int.ediv_mul_le t hpos.ne', Int.lt_ediv_add_one_mul_self t hpos⟩

theorem near_of_contains {d : ℤ} (hs : calendar.session d = some s) (hon : s.Contains now) :
    dateOf now - 2 < d ∧ d ≤ dateOf now + 1 := by
  obtain ⟨hopens, hcloses⟩ := calendar.near d s hs
  obtain ⟨hlo, hhi⟩ := dateOf_bounds now
  have hpos : 0 < dayMicros := by decide
  have h₁ : dateOf now * dayMicros < (d + 2) * dayMicros := hlo.trans_lt (hon.2.trans_le hcloses)
  have h₂ : (d - 1) * dayMicros < (dateOf now + 1) * dayMicros := hopens.trans_lt (hon.1.trans_lt hhi)
  have h₁' := lt_of_mul_lt_mul_right h₁ hpos.le
  have h₂' := lt_of_mul_lt_mul_right h₂ hpos.le
  omega

/-- A session that opens after a moment is listed no earlier than the day before it. -/
theorem near_of_opens {d : ℤ} (hs : calendar.session d = some s) (hafter : now < s.opens) :
    dateOf now - 2 < d := by
  obtain ⟨-, hcloses⟩ := calendar.near d s hs
  obtain ⟨hlo, -⟩ := dateOf_bounds now
  have hpos : 0 < dayMicros := by decide
  have h₁ : dateOf now * dayMicros < (d + 2) * dayMicros :=
    hlo.trans_lt (hafter.trans (s.lt.trans_le hcloses))
  have h₁' := lt_of_mul_lt_mul_right h₁ hpos.le
  omega

/-- The schedule that is looked through. -/
def around (now : Instant) : List (Session Instant) :=
  calendar.schedule (dateOf now - lookbackDays) (dateOf now + lookaheadDays)

theorem mem_around_of_contains {d : ℤ} (hs : calendar.session d = some s) (hon : s.Contains now) :
    s ∈ calendar.around now := by
  obtain ⟨hlo, hhi⟩ := calendar.near_of_contains hs hon
  refine calendar.mem_schedule.mpr ⟨d, ?_, ?_, hs⟩
  · unfold lookbackDays
    omega
  · unfold lookaheadDays
    omega

theorem isOpen_iff : calendar.IsOpen now ↔ ∃ s ∈ calendar.around now, s.Contains now := by
  constructor
  · rintro ⟨d, s, hs, hon⟩
    exact ⟨s, calendar.mem_around_of_contains hs hon, hon⟩
  · rintro ⟨s, hs, hon⟩
    obtain ⟨d, -, -, hs⟩ := calendar.mem_schedule.mp hs
    exact ⟨d, s, hs, hon⟩

theorem openingsAfter_eq : calendar.openingsAfter now (dateOf now + lookaheadDays) =
    {t | ∃ s ∈ calendar.around now, s.opens = t ∧ now < t} := by
  ext t
  constructor
  · rintro ⟨d, s, hd, hs, rfl, hafter⟩
    have hnear := calendar.near_of_opens hs hafter
    refine ⟨s, calendar.mem_schedule.mpr ⟨d, ?_, hd, hs⟩, rfl, hafter⟩
    unfold lookbackDays
    omega
  · rintro ⟨s, hs, rfl, hafter⟩
    obtain ⟨d, -, hd, hs⟩ := calendar.mem_schedule.mp hs
    exact ⟨d, s, hd, hs, rfl, hafter⟩

end MarketCalendar

/-! ### One market -/

section market

variable {calendar : MarketCalendar} {now : Instant}

/-- The loop stops at the next session: it is on, or still to come. -/
theorem scanSchedule_spec (now : Instant) (rows : List (Session Instant)) (previousClose : Option Instant) :
    (scanSchedule now rows previousClose).activeRow =
        (next now rows).filter (fun s => decide (s.opens ≤ now)) ∧
      (scanSchedule now rows previousClose).nextOpen =
        ((next now rows).filter fun s => decide (now < s.opens)).map Session.opens := by
  induction rows generalizing previousClose with
  | nil => exact ⟨rfl, rfl⟩
  | cons row rows ih =>
      rw [scanSchedule, next]
      by_cases hover : row.closes ≤ now
      · rw [if_pos hover, if_pos hover]
        exact ih (some row.closes)
      · rw [if_neg hover, if_neg hover]
        by_cases hopens : row.opens ≤ now
        · have hnot : ¬ now < row.opens := not_lt.mpr hopens
          rw [if_pos ⟨hopens, not_le.mp hover⟩]
          simp [Option.filter, hopens]
        · have hlater : now < row.opens := not_le.mp hopens
          rw [if_neg fun h => hopens h.1, if_pos hlater]
          simp [Option.filter, hlater]

/-- The moments at which the session that is on closes. -/
def MarketCalendar.closings (calendar : MarketCalendar) (now : Instant) : Set Instant :=
  {t | ∃ d s, calendar.session d = some s ∧ s.Contains now ∧ s.closes = t}

/-- A status is right about a market: whether it is open, until when, and from when on. -/
structure MarketHoursStatus.Right (calendar : MarketCalendar) (now : Instant) (status : MarketHoursStatus) :
    Prop where
  open_iff : status.isMarketOpen = true ↔ calendar.IsOpen now
  closes : LeastOf (calendar.closings now) status.nextCloseAt
  opened : status.isMarketOpen = true → status.nextOpenAt = none
  opens : status.isMarketOpen = false →
    LeastOf (calendar.openingsAfter now (dateOf now + lookaheadDays)) status.nextOpenAt

theorem findNextOpenAfter_eq_none
    (h : calendar.openingsAfter now (dateOf now + lookaheadDays) = ∅) :
    findNextOpenAfter calendar now = none := by
  rw [findNextOpenAfter, Option.map_eq_none_iff, List.find?_eq_none]
  intro row hrow
  obtain ⟨d, -, hd, hs⟩ := calendar.mem_schedule.mp hrow
  rw [decide_eq_true_eq]
  intro hafter
  exact Set.notMem_empty row.opens (h ▸ ⟨d, row, hd, hs, rfl, hafter⟩)

theorem leastOf_closings {s : Session Instant} (hs : s ∈ calendar.around now) (hon : s.Contains now) :
    LeastOf (calendar.closings now) (some s.closes) := by
  have hordered : Ordered (calendar.around now) := calendar.ordered_schedule _ _
  obtain ⟨d, -, -, hd⟩ := calendar.mem_schedule.mp hs
  refine ⟨⟨d, s, hd, hon, rfl⟩, ?_⟩
  rintro t ⟨d', s', hd', hon', rfl⟩
  have hs' := calendar.mem_around_of_contains hd' hon'
  have heq := (next_eq_of_contains hordered hs hon).symm.trans (next_eq_of_contains hordered hs' hon')
  rw [Option.some.inj heq]

theorem computeCategoryStatus_spec {category : String} (hcategory : Text.isBlank category = false)
    (calendar : MarketCalendar) (now : Instant) :
    ∃ status, computeCategoryStatus category calendar now = .ok status ∧ status.Right calendar now ∧
      status.category = some category := by
  have hordered : Ordered (calendar.around now) := calendar.ordered_schedule _ _
  obtain ⟨hactive, hnextOpen⟩ := scanSchedule_spec now (calendar.around now) none
  have hvalid : ∀ status : MarketHoursStatus, status.category = some category →
      status.validate = .ok status := by
    intro status hstatus
    rw [MarketHoursStatus.validate, hstatus, Option.any_some, hcategory, if_neg Bool.false_ne_true]
  by_cases hopen : calendar.IsOpen now
  · obtain ⟨s, hs, hon⟩ := calendar.isOpen_iff.mp hopen
    have hrow : (scanSchedule now (calendar.around now) none).activeRow = some s := by
      rw [hactive, next_eq_of_contains hordered hs hon, Option.filter_some, if_pos (decide_eq_true hon.1)]
    have hright := leastOf_closings hs hon
    rw [MarketCalendar.around] at hrow
    simp only [computeCategoryStatus, hrow]
    refine ⟨_, hvalid _ rfl, ⟨iff_of_true rfl hopen, hright, fun _ => rfl, ?_⟩, rfl⟩
    exact fun hclosed => absurd hclosed (Bool.noConfusion)
  · have hclosed : ∀ s ∈ calendar.around now, ¬ s.Contains now :=
      fun s hs hon => hopen (calendar.isOpen_iff.mpr ⟨s, hs, hon⟩)
    have hleast := leastOf_next hordered hclosed
    rw [← calendar.openingsAfter_eq] at hleast
    -- the next session is not on, so it is still to come
    have hfilter : ∀ s, next now (calendar.around now) = some s → now < s.opens := by
      intro s hs
      obtain ⟨hmem, hlt, -⟩ := next_eq_some hordered hs
      exact not_le.mp fun hle => hclosed s hmem ⟨hle, hlt⟩
    have hrow : (scanSchedule now (calendar.around now) none).activeRow = none := by
      rw [hactive]
      cases hnext : next now (calendar.around now) with
      | none => rfl
      | some s => rw [Option.filter_some, if_neg (by simpa using hfilter s hnext)]
    have hopening : (scanSchedule now (calendar.around now) none).nextOpen =
        (next now (calendar.around now)).map Session.opens := by
      rw [hnextOpen]
      cases hnext : next now (calendar.around now) with
      | none => rfl
      | some s => rw [Option.filter_some, if_pos (decide_eq_true (hfilter s hnext))]
    have hor : ((scanSchedule now (calendar.around now) none).nextOpen).or
        (findNextOpenAfter calendar now) = (next now (calendar.around now)).map Session.opens := by
      rw [hopening]
      cases hnext : next now (calendar.around now) with
      | some s => rfl
      | none =>
          rw [hnext] at hleast
          exact findNextOpenAfter_eq_none hleast
    rw [← hor] at hleast
    rw [MarketCalendar.around] at hrow hleast
    simp only [computeCategoryStatus, hrow]
    refine ⟨_, hvalid _ rfl, ⟨iff_of_false Bool.false_ne_true hopen, ?_, fun _ => ?_, fun _ => hleast⟩, rfl⟩
    · exact Set.eq_empty_iff_forall_notMem.mpr fun t ⟨d, s, hs, hon, _⟩ => hopen ⟨d, s, hs, hon⟩
    · contradiction

theorem LeastOf.eq_none {o : Option Instant} (h : LeastOf ∅ o) : o = none := by
  cases o with
  | none => rfl
  | some t => exact absurd h.1 (Set.notMem_empty t)

theorem MarketHoursStatus.Right.nextCloseAt_closed {status : MarketHoursStatus}
    (hright : status.Right calendar now) (hclosed : status.isMarketOpen = false) :
    status.nextCloseAt = none := by
  have hnot : ¬ calendar.IsOpen now := by
    rw [← hright.open_iff, hclosed]
    exact Bool.false_ne_true
  have hempty : calendar.closings now = ∅ :=
    Set.eq_empty_iff_forall_notMem.mpr fun t ⟨d, s, hs, hon, _⟩ => hnot ⟨d, s, hs, hon⟩
  exact LeastOf.eq_none (hempty ▸ hright.closes)

end market

/-! ### Both markets -/

section both

variable {fx metals : MarketCalendar} {now : Instant} {fxStatus metalsStatus : MarketHoursStatus}

theorem earliest_pair (o p : Option Instant) : earliest ([o, p].filterMap id) = least o p := by
  cases o <;> cases p <;> rfl

theorem earliest_closings (hfx : fxStatus.Right fx now) (hmetals : metalsStatus.Right metals now) :
    earliest (([fxStatus, metalsStatus].filter MarketHoursStatus.isMarketOpen).filterMap
      MarketHoursStatus.nextCloseAt) = least fxStatus.nextCloseAt metalsStatus.nextCloseAt := by
  rw [← earliest_pair]
  congr 1
  cases hfxOpen : fxStatus.isMarketOpen with
  | true =>
      cases hmetalsOpen : metalsStatus.isMarketOpen with
      | true => simp [List.filter, List.filterMap, hfxOpen, hmetalsOpen]
      | false => simp [List.filter, List.filterMap, hfxOpen, hmetalsOpen,
          hmetals.nextCloseAt_closed hmetalsOpen]
  | false =>
      have hfxClose := hfx.nextCloseAt_closed hfxOpen
      cases hmetalsOpen : metalsStatus.isMarketOpen with
      | true => simp [List.filter, List.filterMap, hfxOpen, hmetalsOpen, hfxClose]
      | false => simp [List.filter, List.filterMap, hfxOpen, hmetalsOpen, hfxClose,
          hmetals.nextCloseAt_closed hmetalsOpen]

structure MarketHoursStatus.RightOfBoth (fx metals : MarketCalendar) (now : Instant)
    (status : MarketHoursStatus) : Prop where
  open_iff : status.isMarketOpen = true ↔ fx.IsOpen now ∨ metals.IsOpen now
  closes : LeastOf (fx.closings now ∪ metals.closings now) status.nextCloseAt
  opened : status.isMarketOpen = true → status.nextOpenAt = none
  opens : status.isMarketOpen = false →
    LeastOf (fx.openingsAfter now (dateOf now + lookaheadDays) ∪
      metals.openingsAfter now (dateOf now + lookaheadDays)) status.nextOpenAt

theorem buildOverallStatus_spec (hfx : fxStatus.Right fx now) (hmetals : metalsStatus.Right metals now) :
    ∃ overall, buildOverallStatus now fxStatus metalsStatus = .ok overall ∧
      overall.RightOfBoth fx metals now := by
  have hvalid : ∀ status : MarketHoursStatus, status.category = some "overall" →
      status.validate = .ok status := by
    intro status hstatus
    have hnotBlank : Text.isBlank "overall" = false := by decide
    rw [MarketHoursStatus.validate, hstatus, Option.any_some, hnotBlank, if_neg Bool.false_ne_true]
  have hcloses := hfx.closes.union hmetals.closes
  rw [← earliest_closings hfx hmetals] at hcloses
  rw [buildOverallStatus]
  by_cases hopen : [fxStatus, metalsStatus].filter MarketHoursStatus.isMarketOpen = []
  · have hboth : fxStatus.isMarketOpen = false ∧ metalsStatus.isMarketOpen = false := by
      simpa [List.filter_eq_nil_iff] using hopen
    have hopens := (hfx.opens hboth.1).union (hmetals.opens hboth.2)
    rw [← earliest_pair] at hopens
    rw [hopen] at hcloses
    rw [if_neg (not_not.mpr hopen)]
    refine ⟨_, hvalid _ rfl, ⟨iff_of_false Bool.false_ne_true ?_, hcloses, ?_, fun _ => hopens⟩⟩
    · rw [← hfx.open_iff, ← hmetals.open_iff, hboth.1, hboth.2]
      simp
    · exact fun h => absurd h Bool.false_ne_true
  · have hone : fx.IsOpen now ∨ metals.IsOpen now := by
      rw [← hfx.open_iff, ← hmetals.open_iff]
      by_contra hnone
      refine hopen (List.filter_eq_nil_iff.mpr ?_)
      simpa using hnone
    rw [if_pos hopen]
    refine ⟨_, hvalid _ rfl, ⟨iff_of_true rfl hone, hcloses, fun _ => rfl, ?_⟩⟩
    exact fun h => absurd h.symm Bool.false_ne_true

end both

/-! ### The service -/

section service

variable (fx metals : MarketCalendar) (now : Instant)

theorem categoryStatusAt_fx (other : Except Exn MarketCalendar) :
    MarketHoursService.categoryStatusAt ⟨.ok fx, other⟩ "fx" now = computeCategoryStatus "fx" fx now :=
  rfl

theorem categoryStatusAt_metals (other : Except Exn MarketCalendar) :
    MarketHoursService.categoryStatusAt ⟨other, .ok metals⟩ "metals" now =
      computeCategoryStatus "metals" metals now :=
  rfl

/-- The report says of each market, and of both together, whether it is open, until when, and from when on. -/
theorem getStatus_spec :
    ∃ report, MarketHoursService.getStatus ⟨.ok fx, .ok metals⟩ now = .ok report ∧
      (computeCategoryStatus "fx" fx now = .ok report.fx ∧ report.fx.Right fx now ∧
        report.fx.category = some "fx") ∧
      (computeCategoryStatus "metals" metals now = .ok report.metals ∧ report.metals.Right metals now ∧
        report.metals.category = some "metals") ∧
      report.overall.RightOfBoth fx metals now := by
  obtain ⟨fxStatus, hfx, hfxRight, hfxCategory⟩ :=
    computeCategoryStatus_spec (show Text.isBlank "fx" = false by decide) fx now
  obtain ⟨metalsStatus, hmetals, hmetalsRight, hmetalsCategory⟩ :=
    computeCategoryStatus_spec (show Text.isBlank "metals" = false by decide) metals now
  obtain ⟨overall, hoverall, hboth⟩ := buildOverallStatus_spec hfxRight hmetalsRight
  refine ⟨⟨overall, fxStatus, metalsStatus⟩, ?_, ⟨hfx, hfxRight, hfxCategory⟩,
    ⟨hmetals, hmetalsRight, hmetalsCategory⟩, hboth⟩
  simp [MarketHoursService.getStatus, categoryStatusAt_fx, categoryStatusAt_metals, hfx, hmetals, hoverall,
    MarketHoursReport.validate, hfxCategory, hmetalsCategory, bind, Except.bind]

/-- The service and a scan take each category of the registry for the same market. -/
theorem category_cases {instrument : String} {spec : InstrumentSpec}
    (hspec : getInstrumentSpec instrument = .ok spec) :
    (normalizeCategory spec.category = .ok "metals" ∧
        ∀ overview : MarketHoursOverview, overview.categoryStatus spec.category = .ok overview.metals) ∨
      (normalizeCategory spec.category = .ok "fx" ∧
        ∀ overview : MarketHoursOverview, overview.categoryStatus spec.category = .ok overview.fx) ∨
      (normalizeCategory spec.category = .ok "overall" ∧
        ∀ overview : MarketHoursOverview, overview.categoryStatus spec.category = .ok overview.overall) := by
  have hall : ∀ spec ∈ instrumentRegistry,
      spec.category ∈ ["metal", "major_fx", "minor_fx", "energy_cfd", "index_cfd"] := by decide
  have hmem : spec.category ∈ ["metal", "major_fx", "minor_fx", "energy_cfd", "index_cfd"] := by
    rw [getInstrumentSpec] at hspec
    split at hspec
    · next found hfind =>
        obtain rfl := Except.ok.inj hspec
        exact hall found (List.mem_of_find?_eq_some hfind)
    · cases hspec
  generalize spec.category = category at hmem
  simp only [List.mem_cons, List.not_mem_nil, or_false] at hmem
  rcases hmem with rfl | rfl | rfl | rfl | rfl
  · exact Or.inl ⟨by decide, fun _ => rfl⟩
  · exact Or.inr (Or.inl ⟨by decide, fun _ => rfl⟩)
  · exact Or.inr (Or.inl ⟨by decide, fun _ => rfl⟩)
  · exact Or.inr (Or.inr ⟨by decide, fun _ => rfl⟩)
  · exact Or.inr (Or.inr ⟨by decide, fun _ => rfl⟩)

/-- An instrument is open exactly when the flags of a scan say so; an unknown one is refused by both. -/
theorem getInstrumentStatus_spec {service : MarketHoursService} {report : MarketHoursReport}
    (hreport : service.getStatus now = .ok report)
    (hfx : service.categoryStatusAt "fx" now = .ok report.fx)
    (hmetals : service.categoryStatusAt "metals" now = .ok report.metals) (instrument : String) :
    (service.getInstrumentStatus instrument now).map MarketHoursStatus.isMarketOpen =
      (getInstrumentSpec instrument).bind fun spec => report.flags.categoryStatus spec.category := by
  rw [MarketHoursService.getInstrumentStatus]
  cases hspec : getInstrumentSpec instrument with
  | error e => rfl
  | ok spec =>
      simp only [bind, Except.bind, MarketHoursService.getCategoryStatus]
      rcases category_cases hspec with ⟨hnormal, hflag⟩ | ⟨hnormal, hflag⟩ | ⟨hnormal, hflag⟩
      · simp only [hnormal, hflag, hmetals]
        rw [if_neg (by decide)]
        rfl
      · simp only [hnormal, hflag, hfx]
        rw [if_neg (by decide)]
        rfl
      · simp only [hnormal, hflag, hreport, if_pos]
        rfl

/-- With its calendars loaded the service reports each market and both of them rightly, and takes each
instrument for open exactly when a scan does. -/
theorem marketHours_status :
    ∃ report, MarketHoursService.getStatus ⟨.ok fx, .ok metals⟩ now = .ok report ∧
      report.fx.Right fx now ∧ report.metals.Right metals now ∧
      report.overall.RightOfBoth fx metals now ∧
      ∀ instrument,
        (MarketHoursService.getInstrumentStatus ⟨.ok fx, .ok metals⟩ instrument now).map
            MarketHoursStatus.isMarketOpen =
          (getInstrumentSpec instrument).bind fun spec => report.flags.categoryStatus spec.category := by
  obtain ⟨report, hreport, ⟨hfx, hfxRight, -⟩, ⟨hmetals, hmetalsRight, -⟩, hboth⟩ :=
    getStatus_spec fx metals now
  refine ⟨report, hreport, hfxRight, hmetalsRight, hboth, ?_⟩
  exact getInstrumentStatus_spec now hreport (by rw [categoryStatusAt_fx, hfx])
    (by rw [categoryStatusAt_metals, hmetals])

end service

/-! ### The next opening -/

section nextOpen

variable {calendar fx metals : MarketCalendar} {now : Instant}

/-- A calendar that breaks for more than a second after each session. -/
def MarketCalendar.Breaks (calendar : MarketCalendar) : Prop :=
  ∀ d d' s s', d < d' → calendar.session d = some s → calendar.session d' = some s' →
    s.closes + second < s'.opens

/-- A second after a session nothing is on, and what opens after it is what opens after the session. -/
theorem MarketCalendar.Breaks.after (hbreaks : calendar.Breaks) {d : ℤ} {s : Session Instant}
    (hs : calendar.session d = some s) (hon : s.Contains now) :
    ¬ calendar.IsOpen (s.closes + second) ∧
      ∀ horizon, calendar.openingsAfter (s.closes + second) horizon = calendar.openingsAfter now horizon := by
  have hsecond : 0 < second := by decide
  constructor
  · rintro ⟨d', s', hs', hopens, hcloses⟩
    rcases lt_trichotomy d d' with hlt | rfl | hgt
    · exact absurd hopens (not_le.mpr (hbreaks d d' s s' hlt hs hs'))
    · obtain rfl := Option.some.inj (hs.symm.trans hs')
      exact absurd hcloses (not_lt.mpr (by linarith))
    · have hover := calendar.ordered d' d s' s hgt hs' hs
      have hlt := s.lt
      exact absurd hcloses (not_lt.mpr (by linarith))
  · intro horizon
    ext t
    constructor
    · rintro ⟨d', s', hd', hs', rfl, hafter⟩
      exact ⟨d', s', hd', hs', rfl, by linarith [hon.2]⟩
    · rintro ⟨d', s', hd', hs', rfl, hafter⟩
      refine ⟨d', s', hd', hs', rfl, ?_⟩
      rcases lt_trichotomy d d' with hlt | rfl | hgt
      · exact hbreaks d d' s s' hlt hs hs'
      · obtain rfl := Option.some.inj (hs.symm.trans hs')
        exact absurd hafter (not_lt.mpr hon.1)
      · have hover := calendar.ordered d' d s' s hgt hs' hs
        exact absurd (hafter.trans s'.lt) (not_lt.mpr (hover.trans hon.1))

/-- The turn of a category: the first opening after now, of the sessions of two weeks at least. -/
theorem nextOpenOf_spec (service : MarketHoursService) {status : MarketHoursStatus} {category : String}
    (hbreaks : calendar.Breaks) (hnotBlank : Text.isBlank category = false)
    (hservice : ∀ t, service.categoryStatusAt category t = computeCategoryStatus category calendar t)
    (hcategory : status.category = some category) (hright : status.Right calendar now) :
    ∃ o horizon, service.nextOpenOf status = .ok o ∧ dateOf now + lookaheadDays ≤ horizon ∧
      LeastOf (calendar.openingsAfter now horizon) o := by
  rw [MarketHoursService.nextOpenOf]
  cases hopen : status.isMarketOpen with
  | false => exact ⟨status.nextOpenAt, _, rfl, le_refl _, hright.opens hopen⟩
  | true =>
      obtain ⟨d, s, hs, hon⟩ := hright.open_iff.mp hopen
      obtain ⟨close, hclose, ⟨d', s', hs', hon', rfl⟩, -⟩ :
          ∃ close, status.nextCloseAt = some close ∧ IsLeast (calendar.closings now) close := by
        have hleast := hright.closes
        cases hclose : status.nextCloseAt with
        | some close =>
            rw [hclose] at hleast
            exact ⟨close, rfl, hleast⟩
        | none =>
            rw [hclose] at hleast
            exact absurd ⟨d, s, hs, hon, rfl⟩ (Set.eq_empty_iff_forall_notMem.mp hleast s.closes)
      obtain ⟨hclosed, hsame⟩ := hbreaks.after hs' hon'
      obtain ⟨followUp, hfollowUp, hfollowRight, -⟩ :=
        computeCategoryStatus_spec hnotBlank calendar (s'.closes + second)
      have hfollowClosed : followUp.isMarketOpen = false :=
        Bool.eq_false_iff.mpr fun h => hclosed (hfollowRight.open_iff.mp h)
      refine ⟨followUp.nextOpenAt, dateOf (s'.closes + second) + lookaheadDays, ?_, ?_, ?_⟩
      · simp [hclose, hcategory, hservice, hfollowUp, bind, Except.bind, pure, Except.pure]
      · have hlater : now ≤ s'.closes + second := by
          have hsecond : 0 < second := by decide
          linarith [hon'.2]
        have hdates : dateOf now ≤ dateOf (s'.closes + second) :=
          Int.ediv_le_ediv (by decide) hlater
        linarith
      · rw [← hsame]
        exact hfollowRight.opens hfollowClosed

/-- When every session is followed by a break, the next market opening is the first one of either market after
now, among the sessions of two weeks at least; also while a market is open. -/
theorem nextMarketOpenAt_first (hfx : fx.Breaks) (hmetals : metals.Breaks) (now : Instant) :
    ∃ next fxHorizon metalsHorizon,
      MarketHoursService.nextMarketOpenAt ⟨.ok fx, .ok metals⟩ now = .ok next ∧
      dateOf now + lookaheadDays ≤ fxHorizon ∧ dateOf now + lookaheadDays ≤ metalsHorizon ∧
      LeastOf (fx.openingsAfter now fxHorizon ∪ metals.openingsAfter now metalsHorizon) next := by
  obtain ⟨report, hreport, ⟨-, hfxRight, hfxCategory⟩, ⟨-, hmetalsRight, hmetalsCategory⟩, hboth⟩ :=
    getStatus_spec fx metals now
  cases hopen : report.overall.isMarketOpen with
  | false =>
      refine ⟨report.overall.nextOpenAt, _, _, ?_, le_refl _, le_refl _, hboth.opens hopen⟩
      simp [MarketHoursService.nextMarketOpenAt, hreport, hopen, bind, Except.bind, pure, Except.pure]
  | true =>
      obtain ⟨fxOpen, fxHorizon, hfxOpen, hfxHorizon, hfxLeast⟩ :=
        nextOpenOf_spec ⟨.ok fx, .ok metals⟩ hfx (by decide)
          (fun t => categoryStatusAt_fx fx t _) hfxCategory hfxRight
      obtain ⟨metalsOpen, metalsHorizon, hmetalsOpen, hmetalsHorizon, hmetalsLeast⟩ :=
        nextOpenOf_spec ⟨.ok fx, .ok metals⟩ hmetals (by decide)
          (fun t => categoryStatusAt_metals metals t _) hmetalsCategory hmetalsRight
      refine ⟨least fxOpen metalsOpen, fxHorizon, metalsHorizon, ?_, hfxHorizon, hmetalsHorizon,
        hfxLeast.union hmetalsLeast⟩
      simp [MarketHoursService.nextMarketOpenAt, hreport, hopen, hfxOpen, hmetalsOpen, ← earliest_pair, bind,
        Except.bind, pure, Except.pure]

/-- A market that is open every day until an hour before midnight. -/
def dailyCalendar : MarketCalendar where
  session d := some ⟨d * dayMicros, d * dayMicros + 23 * hour, by simp [hour, minute, second]⟩
  ordered := by
    rintro d d' s s' hlt hs hs'
    obtain rfl := Option.some.inj hs
    obtain rfl := Option.some.inj hs'
    have h : (d * 86400000000 + 82800000000 : ℤ) ≤ d' * 86400000000 := by omega
    exact h
  near := by
    rintro d s hs
    obtain rfl := Option.some.inj hs
    have h : ((d - 1) * 86400000000 : ℤ) ≤ d * 86400000000 ∧
        (d * 86400000000 + 82800000000 : ℤ) ≤ (d + 2) * 86400000000 := by omega
    exact h

theorem breaks_dailyCalendar : dailyCalendar.Breaks := by
  rintro d d' s s' hlt hs hs'
  obtain rfl := Option.some.inj hs
  obtain rfl := Option.some.inj hs'
  have h : (d * 86400000000 + 82800000000 + 1000000 : ℤ) < d' * 86400000000 := by omega
  exact h

/-- At ten in the evening both markets are open, and the next opening is at midnight. -/
theorem nextMarketOpenAt_first_daily :
    MarketHoursService.nextMarketOpenAt ⟨.ok dailyCalendar, .ok dailyCalendar⟩ (22 * hour) =
        .ok (some dayMicros) ∧
      ∃ next fxHorizon metalsHorizon,
        MarketHoursService.nextMarketOpenAt ⟨.ok dailyCalendar, .ok dailyCalendar⟩ (22 * hour) = .ok next ∧
        dateOf (22 * hour) + lookaheadDays ≤ fxHorizon ∧
        dateOf (22 * hour) + lookaheadDays ≤ metalsHorizon ∧
        LeastOf (dailyCalendar.openingsAfter (22 * hour) fxHorizon ∪
          dailyCalendar.openingsAfter (22 * hour) metalsHorizon) next :=
  ⟨by decide +kernel, nextMarketOpenAt_first breaks_dailyCalendar breaks_dailyCalendar (22 * hour)⟩

end nextOpen

end OandaV3
