import OandaV3.CandlePolicy
import OandaV3.Dict
import OandaV3.Fallible
import OandaV3.Windows

/-! # Correlation of daily returns

`data/correlation_service.py`: the daily returns of two symbols, each from OANDA or from yfinance, are
joined on the UTC date on which their bars start.

* `overlap_or_endsEarly`: two bars that start on one UTC date overlap, unless both are from yfinance and the
  first one ends before 24 hours are over.
* `correlation_pairs_overlap`: so does every pair of bars the inner join keeps. -/

namespace OandaV3

open Fallible Windows

/-! ### Returns -/

/-- A float that a division can give. -/
inductive Change where
  | finite (q : ℚ)
  | infinite (positive : Bool)
  | nan
deriving DecidableEq, Repr

/-- `current / previous - 1` on floats. -/
def pctChange (previous current : ℚ) : Change :=
  if previous ≠ 0 then .finite (current / previous - 1)
  else if current = 0 then .nan
  else .infinite (decide (0 < current))

/-- Times `-1.0`. -/
def Change.neg : Change → Change
  | finite q => .finite (-q)
  | infinite positive => .infinite (!positive)
  | nan => .nan

/-- `close_series.pct_change().dropna().tail(lookback)`: the first close has no change. -/
def pctChanges (closes : List (ℤ × ℚ)) (lookback : ℕ) : List (ℤ × Change) :=
  newest lookback ((List.zipWith (fun previous current =>
    (current.1, pctChange previous.2 current.2)) closes closes.tail).filter fun r => r.2 != .nan)

/-- `Timestamp.normalize()`: midnight of the UTC date. -/
def normalizeDate (t : ℤ) : ℤ := t / (24 * hour) * (24 * hour)

/-! ### The services -/

/-- What a correlation raises, beside the exceptions of the services. -/
inductive CorrelationError where
  | exn (e : Exn)
  | typeError (message : String)
deriving DecidableEq, Repr

/-- An exception of a service passes through. -/
def raised {α : Type} (x : Except Exn α) : Except CorrelationError α := x.mapError .exn

/-- A row of a yfinance history; a missing close was not a number. -/
structure HistoryRecord where
  time : ℤ
  close : Option ℚ
deriving DecidableEq, Repr

/-- What `CorrelationService` calls. -/
structure CorrelationService where
  /-- `INSTRUMENT_ALIASES` on a stripped, case-folded symbol. -/
  instrumentAlias : String → Option String
  /-- `INSTRUMENT_REGISTRY`. -/
  registered : String → Bool
  normalizeCommandInstrument : String → Except Exn String
  normalizeCommandTimeframe : String → Except Exn String
  getCandles : String → String → ℤ → Except Exn (List Candle)
  /-- `ticker.history` with daily bars between two days. -/
  tickerHistory : String → ℤ → ℤ → Except Exn (List HistoryRecord)
  utcToday : ℤ
  /-- `Series.corr`; nothing when it is not a number. -/
  corr : List (Change × Change) → Option ℚ

namespace CorrelationService

variable (service : CorrelationService)

/-- `_is_oanda_instrument`. -/
def isOandaInstrument (symbol : String) : Bool :=
  (service.instrumentAlias symbol).isSome ||
    match service.normalizeCommandInstrument symbol with
    | .ok normalized => service.registered normalized
    | .error _ => false

/-- `YFinanceService.get_history` for daily bars: the symbol and the newest rows. -/
def getHistory (symbol : String) (startDay endDay maxRows : ℤ) :
    Except Exn (String × List HistoryRecord) := do
  let resolved := Text.upper (Text.strip symbol)
  if resolved.isEmpty then .error (.valueError "symbol must be a non-empty string.")
  else if maxRows < 1 ∨ 1000 < maxRows then
    .error (.valueError "max_rows must be between 1 and 1000.")
  else
    let frame ← service.tickerHistory resolved startDay endDay
    return (resolved, newest maxRows.toNat frame)

/-- Returns by the start of their bar, with their source and label. -/
structure LoadedSeries where
  returns : List (ℤ × Change)
  source : String
  label : String
deriving DecidableEq, Repr

/-- `float(item["close"])`. -/
def historyClose (record : HistoryRecord) : Except CorrelationError (ℤ × ℚ) :=
  match record.close with
  | some close => .ok (record.time, close)
  | none =>
      .error (.typeError "float() argument must be a string or a real number, not 'NoneType'")

/-- `_load_series` before its dates are normalized. -/
def loadReturns (symbol : String) (lookback : ℤ) : Except CorrelationError LoadedSeries :=
  if service.isOandaInstrument symbol then do
    let instrument ← raised (service.normalizeCommandInstrument symbol)
    let frame ← raised (service.getCandles instrument "D" (lookback + 1))
    return {
      returns := pctChanges (frame.map fun candle => (candle.time, candle.close)) lookback.toNat
      source := "oanda"
      label := instrument }
  else do
    let endDay := service.utcToday + 1
    let (resolved, history) ← raised
      (service.getHistory symbol (endDay - max (lookback * 3) 30) endDay (lookback + 1))
    if history.isEmpty then
      .error (.exn (.runtimeError ("No yfinance history available for " ++ symbol ++ ".")))
    else
      let closes ← history.mapM historyClose
      return {
        returns := pctChanges closes lookback.toNat
        source := "yfinance"
        label := resolved }

/-- `returns.index = returns.index.normalize()`. -/
def LoadedSeries.normalized (series : LoadedSeries) : LoadedSeries :=
  { series with returns := series.returns.map fun r => (normalizeDate r.1, r.2) }

/-- `_load_series`. -/
def loadSeries (symbol : String) (lookback : ℤ) : Except CorrelationError LoadedSeries :=
  LoadedSeries.normalized <$> service.loadReturns symbol lookback

/-- Two returns of one date. -/
structure AlignedReturn where
  date : ℤ
  primary : Change
  secondary : Change
deriving DecidableEq, Repr

/-- `pd.concat([...], axis=1, join="inner").dropna()`, which refuses an index with a date twice; no return
is missing in a series, so nothing is dropped. -/
def concatInner (primary secondary : List (ℤ × Change)) :
    Except CorrelationError (List AlignedReturn) :=
  if (primary.map Prod.fst).Nodup ∧ (secondary.map Prod.fst).Nodup then
    .ok (primary.filterMap fun r =>
      (secondary.lookup r.1).map fun y => { date := r.1, primary := r.2, secondary := y })
  else .error (.exn (.valueError "cannot reindex on an axis with duplicate labels"))

/-- A return of the second symbol, `* -1.0` for the transform `inverse`. -/
def transformReturn (transform : String) (change : Change) : Change :=
  if transform = "inverse" then change.neg else change

/-- The returns of both symbols by date. -/
def alignedReturns (primary secondary : LoadedSeries) (transform : String) :
    Except CorrelationError (List AlignedReturn) :=
  concatInner primary.returns
    (secondary.returns.map fun r => (r.1, transformReturn transform r.2))

/-- `CorrelationResult`. -/
structure CorrelationResult where
  primary : String
  secondary : String
  timeframe : String
  lookback : ℤ
  secondaryTransform : String
  correlation : Option ℚ
  alignedObservations : ℕ
  primarySource : String
  secondarySource : String
  startUtc : Option ℤ
  endUtc : Option ℤ
deriving DecidableEq, Repr

/-- The first violation of the contract of `CorrelationResult`. -/
def CorrelationResult.contractError (r : CorrelationResult) : Option String :=
  firstViolation
    [(decide (0 < r.lookback), "lookback must be greater than 0."),
     (r.correlation.all fun q => decide (-1 ≤ q), "correlation must be greater than or equal to -1."),
     (r.correlation.all fun q => decide (q ≤ 1), "correlation must be less than or equal to 1."),
     (!Text.isBlank r.primary && !Text.isBlank r.secondary,
      "primary and secondary must be non-empty strings."),
     (Text.upper (Text.strip r.timeframe) == "D", "CorrelationResult timeframe must be D."),
     (r.startUtc.isNone == r.endUtc.isNone, "start_utc and end_utc must be provided together."),
     (r.startUtc.all fun s => r.endUtc.all fun e => decide (s ≤ e),
      "end_utc must be greater than or equal to start_utc."),
     (decide (2 ≤ r.alignedObservations) || r.correlation.isNone,
      "correlation requires at least 2 aligned observations.")]

/-- `get_correlation` from the two loaded series on. -/
def correlate (primary secondary : LoadedSeries) (lookback : ℤ) (transform : String) :
    Except CorrelationError CorrelationResult := do
  let aligned ← alignedReturns primary secondary transform
  let result : CorrelationResult := {
    primary := primary.label
    secondary := secondary.label
    timeframe := "D"
    lookback
    secondaryTransform := transform
    correlation :=
      if aligned.length < 2 then none else service.corr (aligned.map fun r => (r.primary, r.secondary))
    alignedObservations := aligned.length
    primarySource := primary.source
    secondarySource := secondary.source
    startUtc := (aligned.map AlignedReturn.date).min?
    endUtc := (aligned.map AlignedReturn.date).max? }
  match result.contractError with
  | none => return result
  | some message => .error (.exn (.valueError message))

/-- `get_correlation`. -/
def getCorrelation (primary secondary timeframe : String) (lookback : ℤ)
    (secondaryTransform : String) : Except CorrelationError CorrelationResult := do
  let resolvedTimeframe ← raised (service.normalizeCommandTimeframe timeframe)
  if resolvedTimeframe ≠ "D" then
    .error (.exn (.valueError "Correlation supports timeframe D only in v1."))
  else if lookback < 2 then .error (.exn (.valueError "lookback must be at least 2."))
  else
    let transform := Text.lower (Text.strip secondaryTransform)
    if transform ≠ "raw" ∧ transform ≠ "inverse" then
      .error (.exn (.valueError "secondary_transform must be 'raw' or 'inverse'."))
    else
      let primarySeries ← service.loadSeries primary lookback
      let secondarySeries ← service.loadSeries secondary lookback
      service.correlate primarySeries secondarySeries lookback transform

end CorrelationService

/-! ### Daily bars -/

/-- The days of a source: bar `d` spans from the start of day `d` to the start of the next one.  A change of
the clock shortens a day by an hour at most. -/
structure DailyCalendar where
  start : ℤ → ℤ
  day_length : ∀ d, 23 * hour ≤ start (d + 1) - start d

namespace DailyCalendar

variable (A B : DailyCalendar) (d e : ℤ)

/-- The days start at 17:00 in New York, five or four hours behind UTC. -/
def AtNewYorkClose : Prop :=
  ∀ d, A.start d = d * (24 * hour) + 21 * hour ∨ A.start d = d * (24 * hour) + 22 * hour

/-- The spans of two bars have an instant in common. -/
def Overlap : Prop := A.start d < B.start (e + 1) ∧ B.start e < A.start (d + 1)

instance : Decidable (A.Overlap B d e) := inferInstanceAs (Decidable (_ ∧ _))

/-- A shortened day is over before another one starts. -/
def EndsEarly : Prop :=
  A.start (d + 1) - A.start d < 24 * hour ∧ A.start (d + 1) ≤ B.start e

variable {A B d e}

/-- Instants of one date are less than a day apart. -/
theorem lt_of_date_eq {t u : ℤ} (h : normalizeDate t = normalizeDate u) : t < u + 24 * hour := by
  unfold normalizeDate hour minute second at *
  omega

/-- Bars of one date overlap, unless a shortened day lies before the other bar. -/
theorem overlap_or_endsEarly (h : normalizeDate (A.start d) = normalizeDate (B.start e)) :
    A.Overlap B d e ∨ A.EndsEarly B d e ∨ B.EndsEarly A e d := by
  have hd := lt_of_date_eq h
  have he := lt_of_date_eq h.symm
  unfold Overlap EndsEarly
  omega

/-- A bar from 17:00 in New York overlaps every bar of its date. -/
theorem AtNewYorkClose.overlap (hA : A.AtNewYorkClose)
    (h : normalizeDate (A.start d) = normalizeDate (B.start e)) : A.Overlap B d e := by
  have hlength := B.day_length e
  have hstart := hA d
  have hnext := hA (d + 1)
  unfold normalizeDate at h
  unfold Overlap
  simp only [hour, minute, second] at *
  omega

theorem Overlap.symm (h : A.Overlap B d e) : B.Overlap A e d := And.symm h

end DailyCalendar

namespace CorrelationService

/-- What the services send: OANDA daily bars start at 17:00 in New York, and every bar of a symbol starts a
day of the symbol's calendar. -/
structure DailyBars (service : CorrelationService) (calendar : String → DailyCalendar) : Prop where
  new_york : ∀ symbol, service.isOandaInstrument symbol = true → (calendar symbol).AtNewYorkClose
  candles : ∀ symbol instrument count frame, service.isOandaInstrument symbol = true →
    service.normalizeCommandInstrument symbol = .ok instrument →
    service.getCandles instrument "D" count = .ok frame →
    ∀ candle ∈ frame, ∃ d, candle.time = (calendar symbol).start d
  history : ∀ symbol startDay endDay frame, service.isOandaInstrument symbol = false →
    service.tickerHistory (Text.upper (Text.strip symbol)) startDay endDay = .ok frame →
    ∀ record ∈ frame, ∃ d, record.time = (calendar symbol).start d

variable {service : CorrelationService} {calendar : String → DailyCalendar} {symbol : String}
  {lookback : ℤ}

theorem raised_eq_ok {α : Type} {x : Except Exn α} {a : α} : raised x = .ok a ↔ x = .ok a := by
  cases x <;> simp [raised, Except.mapError]

theorem time_of_pctChanges {closes : List (ℤ × ℚ)} {n : ℕ} {r : ℤ × Change}
    (h : r ∈ pctChanges closes n) : ∃ close ∈ closes, close.1 = r.1 := by
  have hmem := List.mem_of_mem_filter ((newest_suffix _ _).subset h)
  rw [← List.map_uncurry_zip_eq_zipWith, List.mem_map] at hmem
  obtain ⟨⟨previous, current⟩, hpair, rfl⟩ := hmem
  exact ⟨current, List.mem_of_mem_tail (List.of_mem_zip hpair).2, rfl⟩

theorem getHistory_ok {startDay endDay maxRows : ℤ} {payload : String × List HistoryRecord}
    (h : service.getHistory symbol startDay endDay maxRows = .ok payload) :
    ∃ frame, service.tickerHistory (Text.upper (Text.strip symbol)) startDay endDay = .ok frame ∧
      ∀ record ∈ payload.2, record ∈ frame := by
  unfold getHistory at h
  simp only at h
  split_ifs at h
  obtain ⟨frame, hframe, h⟩ := bind_eq_ok.mp h
  obtain rfl := Except.ok.inj h
  exact ⟨frame, hframe, fun record hrecord => (newest_suffix _ _).subset hrecord⟩

theorem historyClose_ok {record : HistoryRecord} {close : ℤ × ℚ}
    (h : historyClose record = .ok close) : close.1 = record.time := by
  unfold historyClose at h
  split at h
  · rw [← Except.ok.inj h]
  · cases h

/-- Every loaded return belongs to a bar of the symbol, and the source tells which calendar it has. -/
theorem loadReturns_ok (hbars : service.DailyBars calendar) {series : LoadedSeries}
    (h : service.loadReturns symbol lookback = .ok series) :
    (∀ r ∈ series.returns, ∃ d, r.1 = (calendar symbol).start d) ∧
      ((calendar symbol).AtNewYorkClose ∨ series.source = "yfinance") := by
  unfold loadReturns at h
  split_ifs at h with hoanda
  · obtain ⟨instrument, hinstrument, h⟩ := bind_eq_ok.mp h
    obtain ⟨frame, hframe, h⟩ := bind_eq_ok.mp h
    obtain rfl := Except.ok.inj h
    refine ⟨fun r hr => ?_, Or.inl (hbars.new_york symbol hoanda)⟩
    obtain ⟨close, hclose, htime⟩ := time_of_pctChanges hr
    obtain ⟨candle, hcandle, rfl⟩ := List.mem_map.mp hclose
    obtain ⟨d, hd⟩ := hbars.candles symbol instrument _ frame hoanda (raised_eq_ok.mp hinstrument)
      (raised_eq_ok.mp hframe) candle hcandle
    exact ⟨d, htime.symm.trans hd⟩
  · obtain ⟨⟨resolved, history⟩, hhistory, h⟩ := bind_eq_ok.mp h
    obtain ⟨frame, hframe, hsubset⟩ := getHistory_ok (raised_eq_ok.mp hhistory)
    simp only at h
    split_ifs at h
    obtain ⟨closes, hcloses, h⟩ := bind_eq_ok.mp h
    obtain rfl := Except.ok.inj h
    refine ⟨fun r hr => ?_, Or.inr rfl⟩
    obtain ⟨close, hclose, htime⟩ := time_of_pctChanges hr
    obtain ⟨record, hrecord, hok⟩ := mem_of_mapM hcloses hclose
    obtain ⟨d, hd⟩ := hbars.history symbol _ _ frame (Bool.eq_false_iff.mpr hoanda) hframe record
      (hsubset record hrecord)
    exact ⟨d, htime.symm.trans ((historyClose_ok hok).trans hd)⟩

theorem concatInner_ok {primary secondary : List (ℤ × Change)} {rows : List AlignedReturn}
    (h : concatInner primary secondary = .ok rows) {row : AlignedReturn} (hrow : row ∈ rows) :
    (row.date, row.primary) ∈ primary ∧ (row.date, row.secondary) ∈ secondary := by
  unfold concatInner at h
  split_ifs at h
  obtain rfl := Except.ok.inj h
  obtain ⟨r, hr, hmap⟩ := List.mem_filterMap.mp hrow
  obtain ⟨y, hy, rfl⟩ := Option.map_eq_some_iff.mp hmap
  exact ⟨hr, Dict.mem_of_lookup hy⟩

theorem getCorrelation_ok {primary secondary timeframe transform : String}
    {result : CorrelationResult}
    (h : service.getCorrelation primary secondary timeframe lookback transform = .ok result) :
    ∃ p s rows, service.loadReturns primary lookback = .ok p ∧
      service.loadReturns secondary lookback = .ok s ∧
      alignedReturns p.normalized s.normalized result.secondaryTransform = .ok rows ∧
      result.alignedObservations = rows.length := by
  unfold getCorrelation at h
  obtain ⟨resolved, -, h⟩ := bind_eq_ok.mp h
  simp only at h
  split_ifs at h
  obtain ⟨_, hprimary, h⟩ := bind_eq_ok.mp h
  obtain ⟨_, hsecondary, h⟩ := bind_eq_ok.mp h
  obtain ⟨p, hp, rfl⟩ := map_eq_ok.mp hprimary
  obtain ⟨s, hs, rfl⟩ := map_eq_ok.mp hsecondary
  obtain ⟨rows, hrows, h⟩ := bind_eq_ok.mp h
  simp only at h
  split at h
  · obtain rfl := Except.ok.inj h
    exact ⟨p, s, rows, hp, hs, hrows, rfl⟩
  · cases h

/-- **Pairs line up.**  Every row a correlation joins comes from a return of each symbol, and the bars of
both start on one UTC date and overlap, unless both are from yfinance and the one that starts first covers a
day shorter than 24 hours. -/
theorem correlation_pairs_overlap (service : CorrelationService) (calendar : String → DailyCalendar)
    (hbars : service.DailyBars calendar) (primary secondary timeframe transform : String)
    (lookback : ℤ) (result : CorrelationResult)
    (h : service.getCorrelation primary secondary timeframe lookback transform = .ok result) :
    ∃ p s rows, service.loadReturns primary lookback = .ok p ∧
      service.loadReturns secondary lookback = .ok s ∧
      alignedReturns p.normalized s.normalized result.secondaryTransform = .ok rows ∧
      result.alignedObservations = rows.length ∧
      ∀ row ∈ rows, ∃ d e y, ((calendar primary).start d, row.primary) ∈ p.returns ∧
        ((calendar secondary).start e, y) ∈ s.returns ∧
        row.secondary = transformReturn result.secondaryTransform y ∧
        normalizeDate ((calendar primary).start d) = row.date ∧
        normalizeDate ((calendar secondary).start e) = row.date ∧
        ((calendar primary).Overlap (calendar secondary) d e ∨
          p.source = "yfinance" ∧ s.source = "yfinance" ∧
            ((calendar primary).EndsEarly (calendar secondary) d e ∨
              (calendar secondary).EndsEarly (calendar primary) e d)) := by
  obtain ⟨p, s, rows, hp, hs, hrows, hcount⟩ := getCorrelation_ok h
  refine ⟨p, s, rows, hp, hs, hrows, hcount, fun row hrow => ?_⟩
  obtain ⟨hpbars, hpsource⟩ := loadReturns_ok hbars hp
  obtain ⟨hsbars, hssource⟩ := loadReturns_ok hbars hs
  obtain ⟨hleft, hright⟩ := concatInner_ok hrows hrow
  obtain ⟨⟨t, x⟩, hx, hxrow⟩ := List.mem_map.mp hleft
  obtain ⟨⟨date, y'⟩, hy', hyrow⟩ := List.mem_map.mp hright
  obtain ⟨⟨u, y⟩, hy, huy⟩ := List.mem_map.mp hy'
  obtain ⟨rfl, rfl⟩ := Prod.mk.inj huy
  obtain ⟨hdate, hxeq⟩ := Prod.mk.inj hxrow
  obtain ⟨hdate', hyeq⟩ := Prod.mk.inj hyrow
  obtain ⟨d, hd⟩ := hpbars _ hx
  obtain ⟨e, he⟩ := hsbars _ hy
  simp only at hd he hxeq hyeq hdate hdate'
  subst hd he hxeq
  refine ⟨d, e, y, hx, hy, hyeq.symm, hdate, hdate', ?_⟩
  have hsame := hdate.trans hdate'.symm
  rcases hpsource with hnewYork | hp
  · exact Or.inl (hnewYork.overlap hsame)
  rcases hssource with hnewYork | hs
  · exact Or.inl (hnewYork.overlap hsame.symm).symm
  exact (DailyCalendar.overlap_or_endsEarly hsame).imp_right fun hearly => ⟨hp, hs, hearly⟩

/-! ### A change of the clock -/

/-- Days from midnight in a zone this much ahead of UTC, without a change of the clock. -/
def fixedZone (offset : ℤ) : DailyCalendar where
  start := fun d => d * (24 * hour) - offset
  day_length := by intro d; unfold hour minute second; omega

/-- Days from midnight in London, which puts its clock forward on day 20541, 2026-03-29. -/
def londonSpring : DailyCalendar where
  start := fun d => if d ≤ 20541 then d * (24 * hour) else d * (24 * hour) - hour
  day_length := by intro d; unfold hour minute second; split_ifs <;> omega

def sampleCalendar (symbol : String) : DailyCalendar :=
  if symbol = "SPX500_USD" then fixedZone (-22 * hour)
  else if Text.upper (Text.strip symbol) = "LONDON" then londonSpring
  else fixedZone hour

/-- A history with a bar at the start of each of these days. -/
def sampleHistory (calendar : DailyCalendar) (days : List (ℤ × ℚ)) : List HistoryRecord :=
  days.map fun day => ⟨calendar.start day.1, some day.2⟩

/-- One OANDA symbol, one symbol of London and one of a zone an hour ahead. -/
def sampleService : CorrelationService where
  instrumentAlias := fun _ => none
  registered := fun _ => true
  normalizeCommandInstrument := fun symbol =>
    if symbol = "SPX500_USD" then .ok symbol else .error (.valueError symbol)
  normalizeCommandTimeframe := .ok
  getCandles := fun _ _ _ => .ok ([20538, 20539, 20541].map fun d =>
    { time := (fixedZone (-22 * hour)).start d, openPrice := 1, high := 1, low := 1, close := 1,
      tickVolume := 1 })
  tickerHistory := fun symbol _ _ =>
    if symbol = "LONDON" then .ok (sampleHistory londonSpring [(20539, 100), (20541, 110)])
    else .ok (sampleHistory (fixedZone hour) [(20539, 50), (20540, 55), (20542, 66)])
  utcToday := 20542
  corr := fun _ => none

theorem sampleService_dailyBars : sampleService.DailyBars sampleCalendar := by
  have hoanda : ∀ symbol, sampleService.isOandaInstrument symbol = true → symbol = "SPX500_USD" := by
    intro symbol h
    by_contra hne
    simp [isOandaInstrument, sampleService, hne] at h
  refine ⟨fun symbol h => ?_, fun symbol instrument count frame h _ hframe candle hcandle => ?_,
    fun symbol startDay endDay frame h hframe record hrecord => ?_⟩
  · obtain rfl := hoanda symbol h
    intro d
    right
    rw [sampleCalendar, if_pos rfl, fixedZone]
    ring
  · obtain rfl := hoanda symbol h
    obtain rfl := Except.ok.inj hframe
    obtain ⟨d, -, rfl⟩ := List.mem_map.mp hcandle
    exact ⟨d, rfl⟩
  · have hne : symbol ≠ "SPX500_USD" := by
      rintro rfl
      exact absurd h (by decide)
    rw [sampleCalendar, if_neg hne]
    simp only [sampleService] at hframe
    split_ifs at hframe ⊢ <;>
    · obtain rfl := Except.ok.inj hframe
      obtain ⟨day, -, rfl⟩ := List.mem_map.mp hrecord
      exact ⟨_, rfl⟩

/-- London's Sunday of 23 hours and the Monday of the zone ahead start on one UTC date, and the first ends
when the second begins. -/
theorem correlation_clockChange :
    sampleService.DailyBars sampleCalendar ∧
      (sampleService.getCorrelation "LONDON" "LAGOS" "D" 2 "raw").map
        (fun result => result.alignedObservations) = .ok 1 ∧
      sampleService.loadReturns "LONDON" 2 =
        .ok ⟨[(londonSpring.start 20541, .finite (1 / 10))], "yfinance", "LONDON"⟩ ∧
      sampleService.loadReturns "LAGOS" 2 = .ok ⟨[((fixedZone hour).start 20540, .finite (1 / 10)),
        ((fixedZone hour).start 20542, .finite (1 / 5))], "yfinance", "LAGOS"⟩ ∧
      concatInner [(normalizeDate (londonSpring.start 20541), .finite (1 / 10))]
        [(normalizeDate ((fixedZone hour).start 20540), .finite (1 / 10)),
          (normalizeDate ((fixedZone hour).start 20542), .finite (1 / 5))] =
        .ok [⟨20541 * (24 * hour), .finite (1 / 10), .finite (1 / 5)⟩] ∧
      ¬ londonSpring.Overlap (fixedZone hour) 20541 20542 :=
  ⟨sampleService_dailyBars, by decide +kernel, by decide +kernel, by decide +kernel,
    by decide +kernel, by decide +kernel⟩

/-- The OANDA bar of this Sunday, from 22:00 UTC on, overlaps London's. -/
theorem correlation_pairs_overlap_oanda :
    ∃ rows : List AlignedReturn, rows.length = 1 ∧ ∀ row ∈ rows, ∃ d e,
      normalizeDate ((sampleCalendar "SPX500_USD").start d) = row.date ∧
      normalizeDate ((sampleCalendar "LONDON").start e) = row.date ∧
      (sampleCalendar "SPX500_USD").Overlap (sampleCalendar "LONDON") d e := by
  obtain ⟨p, s, rows, hp, -, -, hcount, hrows⟩ := correlation_pairs_overlap sampleService
    sampleCalendar sampleService_dailyBars "SPX500_USD" "LONDON" "D" "raw" 2
    { primary := "SPX500_USD"
      secondary := "LONDON"
      timeframe := "D"
      lookback := 2
      secondaryTransform := "raw"
      correlation := none
      alignedObservations := 1
      primarySource := "oanda"
      secondarySource := "yfinance"
      startUtc := some (20541 * (24 * hour))
      endUtc := some (20541 * (24 * hour)) } (by decide +kernel)
  have hsource : (sampleService.loadReturns "SPX500_USD" 2).map (fun series => series.source) =
      .ok "oanda" := by decide +kernel
  rw [hp] at hsource
  refine ⟨rows, hcount.symm, fun row hrow => ?_⟩
  obtain ⟨d, e, y, -, -, -, hd, he, hoverlap⟩ := hrows row hrow
  refine ⟨d, e, hd, he, hoverlap.resolve_right fun hyfinance => ?_⟩
  exact absurd (hyfinance.1.symm.trans (Except.ok.inj hsource)) (by decide)

end CorrelationService

end OandaV3
