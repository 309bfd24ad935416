import OandaV3.CandleProvider

/-! # VWAP reads

`indicators/vwap.py`: a VWAP is anchored to a day, a week or a month in UTC.  `get_vwap` requests as
many candles as may have begun since the start of the period that contains the current instant; the
result is about the period that contains the last closed candle.

`buildVwapReadResult_eq`: the contract of the result never refuses a read.

`coversWindow_iff`: the request covers the whole period of the last closed candle exactly when the
current period is old enough for as many candles. -/

namespace OandaV3

open Fallible Windows

/-! ### Requests -/

/-- `SUPPORTED_VWAP_TIMEFRAMES`. -/
def supportedVwapTimeframes : List Timeframe := [.M30, .H1, .H4, .D]

/-- The anchors of `_ANCHOR_MAP`. -/
inductive VwapAnchor where
  | D | W | M
deriving DecidableEq, Repr

/-- `validate_vwap_timeframe`. -/
def validateVwapTimeframe (timeframe : String) : Except Exn Timeframe :=
  match Timeframe.ofText (Text.upper (Text.strip timeframe)) with
  | some tf =>
      if tf ∈ supportedVwapTimeframes then .ok tf
      else .error (.valueError "VWAP timeframe must be one of 'M30', 'H1', 'H4', 'D'.")
  | none => .error (.valueError "VWAP timeframe must be one of 'M30', 'H1', 'H4', 'D'.")

/-- `normalize_vwap_anchor`. -/
def normalizeVwapAnchor (anchor : Option String) : Except Exn VwapAnchor :=
  let raw := match anchor with
    | none => "D"
    | some text => Text.upper (Text.strip text)
  if raw ∈ ["D", "DAILY"] then .ok .D
  else if raw ∈ ["W", "WEEKLY"] then .ok .W
  else if raw ∈ ["M", "MONTHLY"] then .ok .M
  else .error (.valueError "anchor must be D, W, M, daily, weekly, or monthly.")

/-- `normalize_vwap_bands`, of numbers. -/
def normalizeVwapBands (bands : List ℚ) : Except Exn (List ℚ) :=
  if bands.all (decide <| 0 < ·) then .ok (sortOn id bands.dedup)
  else .error (.valueError "VWAP bands must be comma-separated positive numbers.")

/-- The first day of the period of a day; weeks (`W-FRI`) end on Fridays. -/
def VwapAnchor.firstDay : VwapAnchor → ℤ → ℤ
  | .D, day => day
  | .W, day => Calendar.weekStart 5 day
  | .M, day => Calendar.monthStart day

/-- `_current_anchor_window_start`: the start of the period of an instant. -/
def VwapAnchor.periodStart (anchor : VwapAnchor) (t : ℤ) : ℤ :=
  anchor.firstDay (t / (24 * hour)) * (24 * hour)

/-- `resolve_vwap_candle_count`, of a validated request. -/
def resolveVwapCandleCount (tf : Timeframe) (anchor : VwapAnchor) (nowUtc : ℤ)
    (bufferCandles : ℤ := 4) : ℤ :=
  let elapsed := max (nowUtc - anchor.periodStart nowUtc) tf.delta
  -- `ceil` of the quotient
  let periods := -(-elapsed / tf.delta)
  max 2 (periods + max bufferCandles 1)

/-! ### The result -/

/-- The last row of `pandas_ta.vwap`: the value, and the columns of the bands by deviation (lower and
upper), each where it is there and a number. -/
structure VwapPayload where
  value : Option ℚ
  bands : Option (ℚ → Option (Option (ℚ × ℚ)))

/-- `pandas_ta.vwap` of a frame. -/
abbrev PandasTaVwap := VwapAnchor → List ℚ → List Candle → VwapPayload

/-- `VwapBand`. -/
structure VwapBand where
  deviation : ℚ
  lower : ℚ
  upper : ℚ
deriving DecidableEq, Repr

/-- `VwapPricePosition`. -/
inductive VwapPricePosition where
  | above | below | at
deriving DecidableEq, Repr

/-- `VwapReadResult`. -/
structure VwapReadResult where
  instrument : String
  timeframe : Timeframe
  anchor : VwapAnchor
  anchorStart : ℤ
  lastCompletedCandle : ℤ
  referenceClose : ℚ
  vwap : ℚ
  pricePosition : VwapPricePosition
  distancePrice : ℚ
  distancePips : ℚ
  bands : List VwapBand
  source : String
deriving DecidableEq, Repr

/-- `VwapReadResult.validate_contract`; the name of the anchor goes with the anchor. -/
def VwapReadResult.validateContract (r : VwapReadResult) : Except Exn Unit := do
  let _ ← getInstrumentSpec r.instrument
  let _ ← getTimeframeDelta r.timeframe.text
  require (decide (r.anchorStart ≤ r.lastCompletedCandle))
    "anchor_start must be less than or equal to last_completed_candle."
  require (decide (r.pricePosition = .above → 0 < r.distancePrice))
    "price_position above requires a positive distance_price."
  require (decide (r.pricePosition = .below → r.distancePrice < 0))
    "price_position below requires a negative distance_price."
  require (decide (r.pricePosition = .at → r.distancePrice = 0))
    "price_position at requires a zero distance_price."
  require (!Text.isBlank r.source) "source must be a non-empty string."

/-- The candles in the period of the last one. -/
def activeWindow (anchor : VwapAnchor) (frame : List Candle) : List Candle :=
  lastBlock (fun candle => anchor.periodStart candle.time) frame

/-- One band of `_extract_band_models`. -/
def extractBandModel (deviation : ℚ) : Option (Option (ℚ × ℚ)) → Except Exn VwapBand
  | none => .error (.runtimeError ("VWAP band columns missing for deviation " ++
      toString deviation ++ "."))
  | some none => .error (.runtimeError ("VWAP band values unavailable for deviation " ++
      toString deviation ++ "."))
  | some (some (lower, upper)) =>
      if upper < lower then .error (.valueError "upper must be greater than or equal to lower.")
      else .ok ⟨deviation, lower, upper⟩

/-- `_extract_band_models`. -/
def extractBandModels (payload : VwapPayload) (deviations : List ℚ) : Except Exn (List VwapBand) :=
  match payload.bands with
  | none => .ok []
  | some columns => deviations.mapM fun deviation => extractBandModel deviation (columns deviation)

/-- Python's `(source or "unknown").strip() or "unknown"`. -/
def vwapSource : Option String → String
  | none => "unknown"
  | some text => if Text.isBlank text then "unknown" else Text.strip text

/-- The distance of a close from the VWAP, 0 when it is close to 0. -/
def vwapDistance (spec : InstrumentSpec) (close vwap : ℚ) : ℚ :=
  let rawDistance := close - vwap
  let tolerance := max (spec.pipSize / 1000000000) (1 / 1000000000000)
  if |rawDistance| ≤ max (|rawDistance| / 1000000000) tolerance then 0 else rawDistance

/-- The `VwapReadResult(...)` of a read: `first` opens the period of `latest`. -/
def vwapReadResult (spec : InstrumentSpec) (instrument : String) (tf : Timeframe)
    (anchor : VwapAnchor) (source : Option String) (first latest : Candle) (vwap : ℚ)
    (bands : List VwapBand) : VwapReadResult :=
  let distance := vwapDistance spec latest.close vwap
  { instrument
    timeframe := tf
    anchor
    anchorStart := first.time
    lastCompletedCandle := latest.time
    referenceClose := latest.close
    vwap
    pricePosition := if 0 < distance then .above else if distance < 0 then .below else .at
    distancePrice := distance
    distancePips := distance / spec.pipSize
    bands
    source := vwapSource source }

/-- `build_vwap_read_result`, of a validated request at an instant. -/
def buildVwapReadResult (pandasTaVwap : PandasTaVwap) (instrument : String) (tf : Timeframe)
    (anchor : VwapAnchor) (bands : List ℚ) (source : Option String) (nowUtc : ℤ)
    (candles : List Candle) : Except Exn VwapReadResult := do
  let spec ← getInstrumentSpec instrument
  let closed := trimToClosed tf nowUtc (validateCandleDf candles)
  match closed.getLast? with
  | none => .error (.runtimeError ("VWAP requires closed candles for " ++ instrument ++ " " ++
      tf.text ++ "."))
  | some latest =>
      let payload := pandasTaVwap anchor bands closed
      match payload.value, (activeWindow anchor closed).head? with
      | none, _ => .error (.runtimeError ("VWAP is unavailable for " ++ instrument ++ " " ++
          tf.text ++ "."))
      | some _, none => .error outOfBounds
      | some vwap, some first =>
          let bandModels ← extractBandModels payload bands
          let result := vwapReadResult spec instrument tf anchor source first latest vwap bandModels
          result.validateContract
          return result

/-- `get_vwap`, of a validated instrument, with what the provider answers. -/
def getVwap (pandasTaVwap : PandasTaVwap) (instrument timeframe : String) (anchor : Option String)
    (bands : List ℚ) (nowUtc : ℤ) (getCandles : Timeframe → ℤ → Except Exn (List Candle))
    (getSource : Timeframe → Except Exn (Option String)) : Except Exn VwapReadResult := do
  let tf ← validateVwapTimeframe timeframe
  let resolvedBands ← normalizeVwapBands bands
  let resolvedAnchor ← normalizeVwapAnchor anchor
  let candles ← getCandles tf (resolveVwapCandleCount tf resolvedAnchor nowUtc)
  let source ← getSource tf
  buildVwapReadResult pandasTaVwap instrument tf resolvedAnchor resolvedBands source nowUtc candles

/-! ### Every read meets its contract -/

theorem isBlank_vwapSource (source : Option String) : Text.isBlank (vwapSource source) = false := by
  cases source with
  | none => decide
  | some text =>
      change Text.isBlank (if Text.isBlank text then "unknown" else Text.strip text) = false
      split_ifs with hblank
      · decide
      · rw [Text.isBlank_strip]
        exact Bool.eq_false_iff.mpr hblank

/-- The contract of a result that is read never refuses it. -/
theorem validateContract_vwapReadResult {spec : InstrumentSpec} {instrument : String}
    (hspec : getInstrumentSpec instrument = .ok spec) (tf : Timeframe) (anchor : VwapAnchor)
    (source : Option String) {first latest : Candle} (htime : first.time ≤ latest.time) (vwap : ℚ)
    (bands : List VwapBand) :
    (vwapReadResult spec instrument tf anchor source first latest vwap bands).validateContract =
      .ok () := by
  have hdelta : getTimeframeDelta tf.text = .ok tf.delta := by
    rw [getTimeframeDelta, Timeframe.ofText_text]
  simp only [VwapReadResult.validateContract, vwapReadResult, hspec, hdelta, htime,
    isBlank_vwapSource]
  -- the position says the sign of the distance
  rcases lt_trichotomy (vwapDistance spec latest.close vwap) 0 with hneg | hzero | hpos
  · simp [hneg, hneg.not_gt, require, bind, Except.bind]
  · simp [hzero, require, bind, Except.bind]
  · simp [hpos, require, bind, Except.bind]

/-- Every closed candle that can be read gives a result: there is a candle that opens its period. -/
theorem buildVwapReadResult_eq {pandasTaVwap : PandasTaVwap} {instrument : String} {tf : Timeframe}
    {anchor : VwapAnchor} {bands : List ℚ} {nowUtc : ℤ} {candles closed : List Candle}
    {spec : InstrumentSpec} {latest : Candle} {vwap : ℚ} {models : List VwapBand}
    (source : Option String) (hspec : getInstrumentSpec instrument = .ok spec)
    (hclosed : trimToClosed tf nowUtc (validateCandleDf candles) = closed)
    (hlast : closed.getLast? = some latest)
    (hvalue : (pandasTaVwap anchor bands closed).value = some vwap)
    (hmodels : extractBandModels (pandasTaVwap anchor bands closed) bands = .ok models) :
    ∃ first, (activeWindow anchor closed).head? = some first ∧
      buildVwapReadResult pandasTaVwap instrument tf anchor bands source nowUtc candles =
        .ok (vwapReadResult spec instrument tf anchor source first latest vwap models) := by
  have hsorted : closed.Pairwise fun c d => c.time ≤ d.time := by
    rw [← hclosed, trimToClosed, validateCandleDf]
    exact pairwise_sortOn.filter _
  have hlatest : latest ∈ activeWindow anchor closed := by
    rw [activeWindow, lastBlock, hlast]
    exact List.mem_filter.mpr ⟨List.mem_of_getLast? hlast, decide_eq_true rfl⟩
  obtain ⟨first, hfirst⟩ : ∃ first, (activeWindow anchor closed).head? = some first :=
    ⟨_, List.head?_eq_some_head (List.ne_nil_of_mem hlatest)⟩
  refine ⟨first, hfirst, ?_⟩
  have hmem : first ∈ closed := by
    have hwindow := List.mem_of_head? hfirst
    rw [activeWindow, lastBlock, hlast] at hwindow
    exact (List.mem_filter.mp hwindow).1
  have htime : first.time ≤ latest.time := by
    obtain ⟨init, rfl⟩ := List.getLast?_eq_some_iff.mp hlast
    rcases List.mem_append.mp hmem with hinit | hlast
    · exact (List.pairwise_append.mp hsorted).2.2 first hinit latest List.mem_cons_self
    · exact (List.mem_singleton.mp hlast) ▸ le_rfl
  have hcontract := validateContract_vwapReadResult hspec tf anchor source htime vwap models
  simp only [buildVwapReadResult, hspec, hclosed, bind, Except.bind, hlast, hvalue, hfirst, hmodels,
    hcontract]
  rfl

/-! ### Periods -/

theorem VwapAnchor.firstDay_mono (anchor : VwapAnchor) : Monotone anchor.firstDay := by
  cases anchor with
  | D => exact monotone_id
  | W => exact Calendar.weekStart_mono 5
  | M => exact Calendar.monthStart_mono

theorem VwapAnchor.firstDay_le (anchor : VwapAnchor) (day : ℤ) : anchor.firstDay day ≤ day := by
  cases anchor with
  | D => exact le_rfl
  | W => exact Calendar.weekStart_le 5 day
  | M => exact Calendar.monthStart_le day

theorem VwapAnchor.periodStart_mono (anchor : VwapAnchor) : Monotone anchor.periodStart := by
  intro t u htu
  have hday : (0 : ℤ) < 24 * hour := by decide
  exact mul_le_mul_of_nonneg_right (anchor.firstDay_mono (Int.ediv_le_ediv hday htu)) hday.le

theorem VwapAnchor.periodStart_le (anchor : VwapAnchor) (t : ℤ) : anchor.periodStart t ≤ t := by
  have hday : (0 : ℤ) < 24 * hour := by decide
  calc anchor.periodStart t ≤ t / (24 * hour) * (24 * hour) :=
        mul_le_mul_of_nonneg_right (anchor.firstDay_le _) hday.le
    _ ≤ t := Int.ediv_mul_le t hday.ne'

/-! ### How many candles are requested -/

section count

variable (tf : Timeframe) (anchor : VwapAnchor) (nowUtc : ℤ)

theorem resolveVwapCandleCount_pos : 0 < resolveVwapCandleCount tf anchor nowUtc :=
  lt_max_of_lt_left (by decide)

/-- The current period is old enough for `n` candles: `n` is at most 5, or more than `n - 5` durations
are over. -/
def OldEnough (n : ℕ) : Prop :=
  n ≤ 5 ∨ ((n : ℤ) - 5) * tf.delta < nowUtc - anchor.periodStart nowUtc

instance (n : ℕ) : Decidable (OldEnough tf anchor nowUtc n) := inferInstanceAs (Decidable (_ ∨ _))

/-- As many candles are requested as the current period is old enough for. -/
theorem le_resolveVwapCandleCount_iff (n : ℕ) :
    n ≤ (resolveVwapCandleCount tf anchor nowUtc).toNat ↔ OldEnough tf anchor nowUtc n := by
  have hdelta := tf.delta_pos
  have hceil (elapsed : ℤ) : (n : ℤ) ≤ -(-elapsed / tf.delta) + 4 ↔
      ((n : ℤ) - 5) * tf.delta < elapsed := by
    have hfloor : -elapsed / tf.delta < 5 - n ↔ -elapsed < (5 - n) * tf.delta :=
      Int.ediv_lt_iff_lt_mul hdelta
    have hneg : (5 - (n : ℤ)) * tf.delta = -(((n : ℤ) - 5) * tf.delta) := by ring
    rw [hneg] at hfloor
    omega
  -- five candles are always requested
  have hfew : ((n : ℤ) - 5) * tf.delta < tf.delta ↔ n ≤ 5 := by
    constructor
    · intro hlt
      by_contra hmore
      have hle := le_mul_of_one_le_left hdelta.le (show (1 : ℤ) ≤ (n : ℤ) - 5 by omega)
      omega
    · intro hle
      have hneg := mul_nonpos_of_nonpos_of_nonneg (show (n : ℤ) - 5 ≤ 0 by omega) hdelta.le
      omega
  rw [Int.le_toNat (resolveVwapCandleCount_pos tf anchor nowUtc).le, resolveVwapCandleCount,
    le_max_iff, show max (4 : ℤ) 1 = 4 from rfl, hceil, lt_max_iff, hfew, OldEnough]
  omega

end count

/-! ### What the request covers -/

/-- The closed candles at an instant, oldest first. -/
structure ClosedHistory (tf : Timeframe) (nowUtc : ℤ) where
  candles : List Candle
  increasing : Increasing Candle.time candles
  ended : ∀ candle ∈ candles, candle.time + tf.delta ≤ nowUtc

/-- A VWAP that restarts with every period depends on the period of the last candle only. -/
def PandasTaVwap.Restarts (pandasTaVwap : PandasTaVwap) : Prop :=
  ∀ anchor bands frame,
    pandasTaVwap anchor bands frame = pandasTaVwap anchor bands (activeWindow anchor frame)

/-- The candles `get_vwap` requests. -/
def vwapRequest (tf : Timeframe) (anchor : VwapAnchor) (nowUtc : ℤ) (closed : List Candle) :
    List Candle :=
  newest (resolveVwapCandleCount tf anchor nowUtc).toNat closed

/-- The requested candles hold the whole period of the last closed candle, and what is read from them is
what would be read from all closed candles. -/
structure CoversWindow (tf : Timeframe) (anchor : VwapAnchor) (nowUtc : ℤ) (closed : List Candle) :
    Prop where
  contains : ∀ candle ∈ activeWindow anchor closed, candle ∈ vwapRequest tf anchor nowUtc closed
  window : activeWindow anchor (vwapRequest tf anchor nowUtc closed) = activeWindow anchor closed
  result : ∀ pandasTaVwap : PandasTaVwap, pandasTaVwap.Restarts →
    ∀ instrument timeframe anchorText bands getSource, validateVwapTimeframe timeframe = .ok tf →
      normalizeVwapAnchor anchorText = .ok anchor →
      getVwap pandasTaVwap instrument timeframe anchorText bands nowUtc
          (fun _ count => .ok (newest count.toNat closed)) getSource =
        getVwap pandasTaVwap instrument timeframe anchorText bands nowUtc (fun _ _ => .ok closed)
          getSource

section covers

variable {tf : Timeframe} {anchor : VwapAnchor} {nowUtc : ℤ}

/-- Frames with the same last candle and the same period of it give the same result. -/
theorem buildVwapReadResult_congr {pandasTaVwap : PandasTaVwap} (hrestarts : pandasTaVwap.Restarts)
    (instrument : String) (bands : List ℚ) (source : Option String) {frame frame' : List Candle}
    (hframe : trimToClosed tf nowUtc (validateCandleDf frame) = frame)
    (hframe' : trimToClosed tf nowUtc (validateCandleDf frame') = frame')
    (hlast : frame.getLast? = frame'.getLast?)
    (hwindow : activeWindow anchor frame = activeWindow anchor frame') :
    buildVwapReadResult pandasTaVwap instrument tf anchor bands source nowUtc frame =
      buildVwapReadResult pandasTaVwap instrument tf anchor bands source nowUtc frame' := by
  have hpayload : pandasTaVwap anchor bands frame = pandasTaVwap anchor bands frame' := by
    rw [hrestarts anchor bands frame, hwindow, ← hrestarts anchor bands frame']
  simp only [buildVwapReadResult, hframe, hframe', hlast, hwindow, hpayload]

theorem coversWindow_iff_le (anchor : VwapAnchor) (history : ClosedHistory tf nowUtc) :
    CoversWindow tf anchor nowUtc history.candles ↔
      (activeWindow anchor history.candles).length ≤
        (resolveVwapCandleCount tf anchor nowUtc).toNat := by
  have hmono : history.candles.Pairwise fun c d => anchor.periodStart c.time ≤ anchor.periodStart d.time :=
    history.increasing.imp fun hlt => anchor.periodStart_mono hlt.le
  have hsuffix : activeWindow anchor history.candles <:+ history.candles := lastBlock_suffix hmono
  have hnodup : history.candles.Nodup :=
    history.increasing.imp fun hlt heq => hlt.ne (congrArg Candle.time heq)
  constructor
  · intro hcovers
    exact (subset_newest_iff hnodup hsuffix _).mp hcovers.contains
  · intro hlong
    have hpos : 0 < (resolveVwapCandleCount tf anchor nowUtc).toNat := by
      have hcount := resolveVwapCandleCount_pos tf anchor nowUtc
      omega
    have hwindow : activeWindow anchor (vwapRequest tf anchor nowUtc history.candles) =
        activeWindow anchor history.candles := lastBlock_newest hmono hpos hlong
    refine ⟨(subset_newest_iff hnodup hsuffix _).mpr hlong, hwindow, ?_⟩
    intro pandasTaVwap hrestarts instrument timeframe anchorText bands getSource htf hanchor
    have hrequest := newest_suffix (resolveVwapCandleCount tf anchor nowUtc).toNat history.candles
    have hsame (resolvedBands : List ℚ) (source : Option String) :=
      buildVwapReadResult_congr hrestarts instrument resolvedBands source
        (trimToClosed_eq_self (history.increasing.sublist hrequest.sublist)
          fun candle hcandle => history.ended candle (hrequest.subset hcandle))
        (trimToClosed_eq_self history.increasing history.ended)
        (getLast?_newest history.candles hpos) hwindow
    simp only [getVwap, htf, hanchor, bind, Except.bind]
    cases normalizeVwapBands bands with
    | error e => rfl
    | ok resolvedBands =>
        cases getSource tf with
        | error e => rfl
        | ok source => exact hsame resolvedBands source

/-- The last closed candle in the current period is enough, for candles that do not overlap. -/
theorem coversWindow_of_samePeriod (anchor : VwapAnchor) (history : ClosedHistory tf nowUtc)
    (hspaced : history.candles.Pairwise fun c d => c.time + tf.delta ≤ d.time)
    (hsame : ∀ last ∈ history.candles.getLast?,
      anchor.periodStart last.time = anchor.periodStart nowUtc) :
    CoversWindow tf anchor nowUtc history.candles := by
  rw [coversWindow_iff_le, le_resolveVwapCandleCount_iff]
  have hmem : ∀ candle ∈ activeWindow anchor history.candles,
      candle ∈ history.candles ∧ anchor.periodStart candle.time = anchor.periodStart nowUtc := by
    intro candle hcandle
    rw [activeWindow, lastBlock] at hcandle
    cases hlast : history.candles.getLast? with
    | none =>
        rw [hlast] at hcandle
        exact absurd hcandle List.not_mem_nil
    | some last =>
        rw [hlast, List.mem_filter, decide_eq_true_eq] at hcandle
        exact ⟨hcandle.1, hcandle.2.trans (hsame last hlast)⟩
  have hsuffix : activeWindow anchor history.candles <:+ history.candles :=
    lastBlock_suffix (history.increasing.imp fun hlt => anchor.periodStart_mono hlt.le)
  have hfew := length_mul_le (anchor.periodStart_le nowUtc) (hspaced.sublist hsuffix.sublist)
    (fun candle hcandle => (hmem candle hcandle).2 ▸ anchor.periodStart_le candle.time)
    (fun candle hcandle => history.ended candle (hmem candle hcandle).1)
  have hdelta := tf.delta_pos
  refine Or.inr ?_
  rw [sub_mul]
  omega

end covers

/-- **The request covers the window exactly when the current period is old enough** for as many candles as
the period of the last closed candle holds. -/
theorem coversWindow_iff (tf : Timeframe) (anchor : VwapAnchor) (nowUtc : ℤ)
    (history : ClosedHistory tf nowUtc) :
    CoversWindow tf anchor nowUtc history.candles ↔
      OldEnough tf anchor nowUtc (activeWindow anchor history.candles).length :=
  (coversWindow_iff_le anchor history).trans (le_resolveVwapCandleCount_iff tf anchor nowUtc _)

def fridayCandle (n : ℕ) : Candle := ⟨20462 * (24 * hour) + n * hour, 1, 1, 1, 1, 1⟩

/-- Saturday, 10:00 UTC. -/
def saturdayMorning : ℤ := 20463 * (24 * hour) + 10 * hour

/-- The hours of Friday until 21:00 UTC. -/
def fridayHistory : ClosedHistory .H1 saturdayMorning where
  candles := (List.range 21).map fridayCandle
  increasing := by decide +kernel
  ended := by decide +kernel

/-- On Saturday morning 14 candles are requested, and the last period has 21. -/
theorem vwapRequest_misses_friday :
    ¬ CoversWindow .H1 .D saturdayMorning fridayHistory.candles := by
  intro hcovers
  have hfirst := hcovers.contains (fridayCandle 0) (by decide +kernel)
  exact absurd hfirst (by decide +kernel)

end OandaV3
