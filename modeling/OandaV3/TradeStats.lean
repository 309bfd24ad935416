import OandaV3.Projection
import OandaV3.RealizedPnl

/-! # Trade statistics

`journal/trade_stats_service.py`: the summary of a window comes from the stored rows, the breakdown
per instrument from the projected trade records.  The two count the commission of an opening fill
differently: `compute_realized_pnl` adds it to the summary, `_project_trade_record` sums up close
events only.  A trade whose opening has no price is not projected, and only the summary counts it.

`getTradeStats_reconciles_iff` says exactly when the two agree over whole trades.  When every trade of
the window has a record and no instrument is asked for, this is when the openings cost nothing
together. -/

namespace OandaV3

open Fallible

/-! ### The report -/

structure TradeGroupStats where
  tradeCount : ℕ
  winCount : ℕ
  lossCount : ℕ
  breakevenCount : ℕ
  winRate : Option ℚ
  avgRealizedR : Option ℚ
  rrEligibleCount : ℕ
  maeSampledTradeCount : ℕ
  avgMaePips : Option ℚ
deriving DecidableEq, Repr

/-- `TradeStatsSummary`. -/
structure TradeStatsSummary extends RealizedPnLSummary, TradeGroupStats where
  profitFactor : Option ℚ
  expectancy : Option ℚ
  averageWin : Option ℚ
  averageLoss : Option ℚ
  largestWin : Option ℚ
  largestLoss : Option ℚ
  maxDrawdown : Option ℚ
deriving DecidableEq, Repr

/-- `InstrumentTradeStats`. -/
structure InstrumentTradeStats extends TradeGroupStats where
  instrument : String
  grossRealizedPl : ℚ
  netRealizedPl : ℚ
deriving DecidableEq, Repr

/-- `TradeStatsReport`. -/
structure TradeStatsReport where
  summary : TradeStatsSummary
  perInstrument : List InstrumentTradeStats
deriving DecidableEq, Repr

/-- The checks `TradeStatsSummary` and `InstrumentTradeStats` share. -/
def TradeGroupStats.checks (stats : TradeGroupStats) : List (Bool × String) :=
  [(stats.tradeCount == stats.winCount + stats.lossCount + stats.breakevenCount,
    "trade counts must add up to trade_count."),
   (stats.rrEligibleCount != 0 || stats.avgRealizedR.isNone,
    "avg_realized_r requires rr_eligible_count > 0."),
   (stats.maeSampledTradeCount != 0 || stats.avgMaePips.isNone,
    "avg_mae_pips requires mae_sampled_trade_count > 0.")]

/-- The fields that must not be negative; a win rate is at most 1. -/
def TradeGroupStats.fieldChecks (stats : TradeGroupStats) : List (Bool × String) :=
  [(stats.winRate.all fun rate => decide (0 ≤ rate ∧ rate ≤ 1), "win_rate must be between 0 and 1."),
   (stats.avgMaePips.all fun pips => decide (0 ≤ pips),
    "avg_mae_pips must be greater than or equal to 0.")]

/-- The first violation of the contract of `TradeStatsSummary`. -/
def TradeStatsSummary.contractError (summary : TradeStatsSummary) : Option String :=
  (firstViolation (summary.fieldChecks ++
    [(summary.profitFactor.all fun factor => decide (0 ≤ factor),
      "profit_factor must be greater than or equal to 0.")])).or
    (summary.toRealizedPnLSummary.contractError.or (firstViolation summary.checks))

/-- The first violation of the contract of `InstrumentTradeStats`, or the failure of the registry. -/
def InstrumentTradeStats.validate (cfg : Config) (stats : InstrumentTradeStats) :
    Except Exn InstrumentTradeStats := do
  let stats ← checked stats (firstViolation (stats.fieldChecks ++
    [(validOandaInstrumentSymbol stats.instrument,
      "instrument must look like an OANDA instrument symbol such as SPX500_USD or SGD_JPY.")]))
  match cfg.validateLiveInstrument (Text.upper (Text.strip stats.instrument)) with
  | .error (.keyError key) => .error (.valueError key)
  | .error e => .error e
  | .ok _ => checked stats (firstViolation stats.checks)

/-! ### Values of a group of trades -/

/-- `_net_pnl`. -/
def netPnl (trade : TradeRecord) : ℚ := trade.accountPnl.getD 0

/-- `_average_decimal`. -/
def averageDecimal (values : List ℚ) : Option ℚ :=
  if values.isEmpty then none else some (values.sum / values.length)

/-- `_mae_values`: the sampled adverse excursions. -/
def maeValues (maePips : String → Option ℚ) (trades : List TradeRecord) : List ℚ :=
  trades.filterMap fun trade => maePips trade.tradeId

/-- The realized R of a trade that had a stop loss and is not risk free. -/
def realizedR (cfg : Config) (trade : TradeRecord) : Except Exn (Option ℚ) :=
  match trade.slPrice, trade.pips with
  | some slPrice, some pips => do
      let pipSize ← cfg.getPipSize trade.instrument
      let riskPips := |(trade.openPrice - slPrice) / pipSize|
      return if riskPips ≤ 0 then none else some (pips / riskPips)
  | _, _ => .ok none

/-- `_realized_r_values`. -/
def realizedRValues (cfg : Config) (trades : List TradeRecord) : Except Exn (List ℚ) := do
  let values ← trades.mapM (realizedR cfg)
  return values.reduceOption

/-- `(cumulative, peak, max_drawdown)`. -/
structure Drawdown where
  cumulative : ℚ := 0
  peak : ℚ := 0
  maxDrawdown : ℚ := 0
deriving DecidableEq, Repr

/-- The loop body of `_max_drawdown`. -/
def Drawdown.addTrade (d : Drawdown) (trade : TradeRecord) : Drawdown :=
  let cumulative := d.cumulative + netPnl trade
  let peak := max d.peak cumulative
  ⟨cumulative, peak, max d.maxDrawdown (peak - cumulative)⟩

/-- `_max_drawdown`. -/
def maxDrawdown (trades : List TradeRecord) : Option ℚ :=
  if trades.isEmpty then none else some (trades.foldl Drawdown.addTrade {}).maxDrawdown

/-- The values that the summary and the instruments have in common. -/
def tradeGroupStats (cfg : Config) (maePips : String → Option ℚ) (trades : List TradeRecord) :
    Except Exn TradeGroupStats := do
  let netValues := trades.map netPnl
  let wins := netValues.filter (0 < ·)
  let rrValues ← realizedRValues cfg trades
  let mae := maeValues maePips trades
  return {
    tradeCount := trades.length
    winCount := wins.length
    lossCount := (netValues.filter (· < 0)).length
    breakevenCount := (netValues.filter (· = 0)).length
    winRate := if trades.isEmpty then none else some (wins.length / trades.length)
    avgRealizedR := averageDecimal rrValues
    rrEligibleCount := rrValues.length
    maeSampledTradeCount := mae.length
    avgMaePips := averageDecimal mae }

/-! ### `get_trade_stats` -/

/-- `_closed_trades_for_window`. -/
def closedTradesForWindow (store : TradeStore) (startUtc endUtc : Instant)
    (instrument : Option String) : List TradeRecord :=
  sortOn TradeStore.closedAtKey (store.listClosedTrades.filter fun trade =>
    trade.closedAt.any (fun t => decide (startUtc ≤ t) && decide (t < endUtc)) &&
      instrument.all (trade.instrument == ·))

/-- `_build_summary`. -/
def buildSummary (cfg : Config) (maePips : String → Option ℚ) (pnl : RealizedPnLSummary)
    (trades : List TradeRecord) : Except Exn TradeStatsSummary := do
  let netValues := trades.map netPnl
  let wins := netValues.filter (0 < ·)
  let losses := netValues.filter (· < 0)
  let group ← tradeGroupStats cfg maePips trades
  let summary : TradeStatsSummary := { pnl, group with
    profitFactor := if losses.isEmpty then none else some (wins.sum / |losses.sum|)
    expectancy := averageDecimal netValues
    averageWin := averageDecimal wins
    averageLoss := averageDecimal losses
    largestWin := wins.max?
    largestLoss := losses.min?
    maxDrawdown := maxDrawdown trades }
  checked summary summary.contractError

/-- `_build_instrument_summary`. -/
def buildInstrumentSummary (cfg : Config) (maePips : String → Option ℚ) (instrument : String)
    (trades : List TradeRecord) : Except Exn InstrumentTradeStats := do
  let group ← tradeGroupStats cfg maePips trades
  let stats : InstrumentTradeStats := { group with
    instrument
    grossRealizedPl := (trades.map fun trade => trade.instrumentPnl.getD 0).sum
    netRealizedPl := (trades.map netPnl).sum }
  stats.validate cfg

/-- The instruments of the trades, sorted, each once. -/
def tradedInstruments (trades : List TradeRecord) : List String :=
  sortOn id (trades.map fun trade => trade.instrument).dedup

/-- `get_trade_stats`, on the store the read sync has left. -/
def getTradeStats (cfg : Config) (store : TradeStore) (nowUtc : Instant) (today : ℤ)
    (maePips : String → Option ℚ) (period : Period) (startDate endDate : Option ℤ)
    (instrument : Option String) : Except Exn TradeStatsReport := do
  let resolvedPeriod ← resolvePeriodSelector period startDate endDate
  let pnl ← computeRealizedPnl cfg store nowUtc today resolvedPeriod instrument none none
  let trades := closedTradesForWindow store pnl.startUtc pnl.endUtc instrument
  let summary ← buildSummary cfg maePips pnl trades
  let perInstrument ← (tradedInstruments trades).mapM fun inst =>
    buildInstrumentSummary cfg maePips inst (trades.filter (·.instrument = inst))
  let report : TradeStatsReport := { summary, perInstrument }
  checked report (firstViolation
    [(decide (report.perInstrument.map InstrumentTradeStats.instrument).Nodup,
      "per_instrument instruments must be unique.")])

/-! ### The breakdown -/

variable {cfg : Config} {store : TradeStore}

/-- The net values of the instruments are the net values of the trades. -/
theorem sum_perInstrument {maePips : String → Option ℚ} {trades : List TradeRecord}
    {perInstrument : List InstrumentTradeStats}
    (h : (tradedInstruments trades).mapM (fun inst => buildInstrumentSummary cfg maePips inst
      (trades.filter (·.instrument = inst))) = .ok perInstrument) :
    (perInstrument.map InstrumentTradeStats.netRealizedPl).sum = (trades.map netPnl).sum := by
  have hone : ∀ inst stats, buildInstrumentSummary cfg maePips inst
      (trades.filter (·.instrument = inst)) = .ok stats →
      stats.netRealizedPl = ((trades.filter (·.instrument = inst)).map netPnl).sum := by
    intro inst stats hstats
    obtain ⟨group, -, hstats⟩ := bind_eq_ok.mp hstats
    obtain ⟨stats', hchecked, hstats⟩ := bind_eq_ok.mp hstats
    obtain ⟨-, rfl⟩ := checked_eq_ok.mp hchecked
    split at hstats
    · cases hstats
    · cases hstats
    · obtain ⟨-, rfl⟩ := checked_eq_ok.mp hstats
      rfl
  have hsums : perInstrument.map InstrumentTradeStats.netRealizedPl =
      (tradedInstruments trades).map fun inst =>
        ((trades.filter (·.instrument = inst)).map netPnl).sum :=
    map_of_mapM hone h
  have hnd : (tradedInstruments trades).Nodup := perm_sortOn.nodup_iff.mpr (List.nodup_dedup _)
  have hkeys := sum_by_key hnd trades (fun trade => some trade.instrument) netPnl
  simp only [Option.some.injEq] at hkeys
  rw [hsums]
  simp only [sum_filter, decide_eq_true_eq]
  rw [hkeys]
  refine congrArg List.sum (List.map_congr_left fun trade htrade => ?_)
  have hmem : trade.instrument ∈ tradedInstruments trades :=
    mem_sortOn.mpr (List.mem_dedup.mpr (List.mem_map_of_mem htrade))
  simp [hmem]

/-! ### The events of a trade -/

def rowTradeId (row : HistoryRow) : Option String := row.asTrade.map TradeHistoryEvent.tradeId

/-- What a row adds to the result of its trade. -/
def rowClosed : HistoryRow → ℚ
  | .trade e => if e.isClosing then e.netRealizedPl else 0
  | .financing _ => 0

/-- What an opening fill costs. -/
def rowOpeningCommission : HistoryRow → ℚ
  | .trade e => if e.isClosing then 0 else e.commission
  | .financing _ => 0

theorem sum_closeEvents (rows : List HistoryRow) :
    ((closeEvents (rows.filterMap HistoryRow.asTrade)).map TradeHistoryEvent.netRealizedPl).sum =
      (rows.map rowClosed).sum := by
  induction rows with
  | nil => rfl
  | cons row rows ih =>
      cases row with
      | financing e =>
          rw [List.filterMap_cons_none rfl, ih]
          simp [rowClosed]
      | trade e =>
          rw [List.filterMap_cons_some (rfl : HistoryRow.asTrade (.trade e) = some e),
            List.map_cons, List.sum_cons, ← ih]
          simp only [closeEvents, List.filter_cons, rowClosed]
          split_ifs <;> simp

theorem sum_closeEvents_tradeEvents (tradeId : String) :
    ((closeEvents (store.tradeEvents tradeId)).map TradeHistoryEvent.netRealizedPl).sum =
      (store.tradeHistoryEvents.docs.map fun row =>
        if rowTradeId row = some tradeId then rowClosed row else 0).sum := by
  rw [TradeStore.tradeEvents, TradeStore.listTradeHistoryTradeEvents, sum_closeEvents, sum_listed,
    TradeStore.selectedSum]
  refine congrArg List.sum (List.map_congr_left fun row _ => ?_)
  cases row with
  | trade e => simp [TradeStore.HistoryQuery.selects, rowTradeId, HistoryRow.asTrade]
  | financing e => simp [TradeStore.HistoryQuery.selects, rowTradeId, HistoryRow.asTrade]

/-- A projected closed record books the close events of its trade, the last of them last. -/
theorem projection_closed {tradeId : String} {events : List TradeHistoryEvent}
    {existing : Option TradeRecord} {record : TradeRecord}
    (h : projection cfg tradeId events existing = .ok (some record)) (hclosed : record.state = .CLOSED) :
    netPnl record = ((closeEvents events).map TradeHistoryEvent.netRealizedPl).sum ∧
      ∃ final ∈ events, record.closedAt = some final.timeUtc := by
  have hclose : hasClose events = true := by
    have hstate := projection_state h
    rw [hclosed] at hstate
    by_contra hopen
    simp [hopen] at hstate
  obtain ⟨base, -, ⟨hopen, -⟩ | ⟨-, final, pips, hfinal, -, hv⟩⟩ := projection_some h
  · rw [hclose] at hopen
    cases hopen
  · have hmem : final ∈ events := (mem_closeEvents.mp (List.mem_of_getLast? hfinal)).1
    rw [netPnl, TradeFields.validate_ok hv]
    exact ⟨rfl, final, hmem, rfl⟩

theorem net_of_normalizeTransaction {zone : String} {t : Transaction} {rows : List HistoryRow}
    (h : normalizeTransaction zone t = .ok rows) : ∀ row ∈ rows, ∀ e ∈ row.asTrade,
      e.netRealizedPl = e.realizedPl + e.financing - e.commission := by
  intro row hrow e he
  rcases row_of_mem (normalizedRows_of_ok h ▸ hrow) with ⟨_, _, _, _, _, _, -, -, -, -, -, rfl⟩ |
    ⟨_, _, _, _, rfl⟩
  · obtain rfl := Option.some.inj he
    rfl
  · cases he

/-! ### Whole trades -/

/-- The row lies in a window. -/
def InWindow (window : WindowBounds) (e : TradeHistoryEvent) : Prop :=
  window.startUtc ≤ e.timeUtc ∧ e.timeUtc < window.endUtc

instance (window : WindowBounds) (e : TradeHistoryEvent) : Decidable (InWindow window e) :=
  inferInstanceAs (Decidable (_ ∧ _))

/-- A trade with all its events in the window, one OPEN and one CLOSE among them. -/
structure TradeStore.WholeTrade (store : TradeStore) (window : WindowBounds) (tradeId : String) :
    Prop where
  inside : ∀ e ∈ store.tradeEvents tradeId, InWindow window e
  opened : (store.tradeEvents tradeId).countP (·.eventType == .OPEN) = 1
  closed : (store.tradeEvents tradeId).countP (·.eventType == .CLOSE) = 1

instance (window : WindowBounds) (tradeId : String) :
    Decidable (store.WholeTrade window tradeId) :=
  decidable_of_iff ((∀ e ∈ store.tradeEvents tradeId, InWindow window e) ∧
    (store.tradeEvents tradeId).countP (·.eventType == .OPEN) = 1 ∧
    (store.tradeEvents tradeId).countP (·.eventType == .CLOSE) = 1)
    ⟨fun ⟨inside, opened, closed⟩ => ⟨inside, opened, closed⟩,
      fun ⟨inside, opened, closed⟩ => ⟨inside, opened, closed⟩⟩

/-- Every trade with an event in the window is whole, the records are projected from the events, and
there is no financing row. -/
structure TradeStore.WholeTrades (cfg : Config) (store : TradeStore) (window : WindowBounds) :
    Prop where
  noFinancing : ∀ row ∈ store.tradeHistoryEvents.docs, row.asTrade.isSome
  net : ∀ row ∈ store.tradeHistoryEvents.docs, ∀ e ∈ row.asTrade,
    e.netRealizedPl = e.realizedPl + e.financing - e.commission
  whole : ∀ row ∈ store.tradeHistoryEvents.docs, ∀ e ∈ row.asTrade, InWindow window e →
    store.WholeTrade window e.tradeId
  projected : ∀ record ∈ store.trades.docs, ∃ existing,
    projection cfg record.tradeId (store.tradeEvents record.tradeId) existing = .ok (some record)

/-- The trade of the row has a record, of the instrument that is asked for. -/
def TradeStore.recorded (store : TradeStore) (instrument : Option String) (row : HistoryRow) : Bool :=
  ((rowTradeId row).bind store.getTrade).any fun record => instrument.all (record.instrument == ·)

/-- What the selected close events book of trades that the breakdown does not list. -/
def unlistedSum (store : TradeStore) (window : WindowBounds) (instrument : Option String) : ℚ :=
  store.selectedSum (windowQuery window.startUtc window.endUtc instrument) fun row =>
    if store.recorded instrument row then 0 else rowClosed row

/-- What close events that are not selected book of trades that the breakdown lists. -/
def unselectedSum (store : TradeStore) (window : WindowBounds) (instrument : Option String) : ℚ :=
  store.selectedSum (windowQuery window.startUtc window.endUtc none) fun row =>
    if store.recorded instrument row then
      if (windowQuery window.startUtc window.endUtc instrument).selects row then 0 else rowClosed row
    else 0

section whole

variable {window : WindowBounds} {instrument : Option String}

theorem mem_closedTradesForWindow {startUtc endUtc : Instant} {trade : TradeRecord} :
    trade ∈ closedTradesForWindow store startUtc endUtc instrument ↔
      store.getTrade trade.tradeId = some trade ∧ trade.state = .CLOSED ∧
      (∃ t, trade.closedAt = some t ∧ startUtc ≤ t ∧ t < endUtc) ∧
      ∀ i, instrument = some i → trade.instrument = i := by
  rw [closedTradesForWindow, mem_sortOn, List.mem_filter, TradeStore.mem_listClosedTrades,
    Bool.and_eq_true, Option.any_eq_true]
  cases instrument <;> simp [and_assoc]

theorem recorded_eq_true {e : TradeHistoryEvent} : store.recorded instrument (.trade e) = true ↔
    ∃ record, store.getTrade e.tradeId = some record ∧
      ∀ i, instrument = some i → record.instrument = i := by
  simp only [TradeStore.recorded, rowTradeId, HistoryRow.asTrade, Option.map_some, Option.bind_some,
    Option.any_eq_true]
  cases instrument <;> simp

theorem InWindow.selects {e : TradeHistoryEvent} :
    (windowQuery window.startUtc window.endUtc none).selects (.trade e) = true ↔
      InWindow window e := by
  rw [windowQuery_selects]
  simp [InWindow, HistoryRow.timeUtc]

/-- The record of a whole trade is closed by an event of the window. -/
theorem closed_of_whole (hwhole : store.WholeTrades cfg window) {tradeId : String}
    (htrade : store.WholeTrade window tradeId) {record : TradeRecord}
    (hrecord : store.getTrade tradeId = some record) :
    record.state = .CLOSED ∧
      ∃ t, record.closedAt = some t ∧ window.startUtc ≤ t ∧ t < window.endUtc := by
  obtain ⟨hmem, hid⟩ := Table.find_some hrecord
  obtain ⟨existing, hprojection⟩ := hwhole.projected record hmem
  rw [hid] at hprojection
  have hclose : hasClose (store.tradeEvents tradeId) = true := by
    obtain ⟨c, hc, htype⟩ := List.countP_pos_iff.mp (by rw [htrade.closed]; exact one_pos)
    exact hasClose_iff.mpr ⟨c, hc, beq_iff_eq.mp htype⟩
  have hclosed : record.state = .CLOSED := by rw [projection_state hprojection, if_pos hclose]
  obtain ⟨-, final, hfinal, hclosedAt⟩ := projection_closed hprojection hclosed
  exact ⟨hclosed, _, hclosedAt, htrade.inside final hfinal⟩

theorem inWindow_of_closed (hwhole : store.WholeTrades cfg window) {record : TradeRecord}
    (hrecord : store.getTrade record.tradeId = some record) (hclosed : record.state = .CLOSED)
    {t : Instant} (hclosedAt : record.closedAt = some t) (hin : window.startUtc ≤ t ∧ t < window.endUtc)
    {e : TradeHistoryEvent} (he : e ∈ store.tradeEvents record.tradeId) : InWindow window e := by
  obtain ⟨existing, hprojection⟩ := hwhole.projected record (Table.find_some hrecord).1
  obtain ⟨-, final, hfinal, hfinalAt⟩ := projection_closed hprojection hclosed
  obtain rfl : final.timeUtc = t := Option.some.inj (hfinalAt.symm.trans hclosedAt)
  obtain ⟨hfinalRow, hfinalId⟩ := TradeStore.mem_tradeEvents.mp hfinal
  exact (hwhole.whole _ hfinalRow final rfl hin).inside e (by rw [hfinalId]; exact he)

variable (instrument) in
/-- The trade of a row is listed exactly when the row lies in the window and the trade has a record
of the instrument. -/
theorem listed_iff (hwhole : store.WholeTrades cfg window) {e : TradeHistoryEvent}
    (he : HistoryRow.trade e ∈ store.tradeHistoryEvents.docs) :
    e.tradeId ∈ (closedTradesForWindow store window.startUtc window.endUtc instrument).map
        (fun trade => trade.tradeId) ↔
      InWindow window e ∧ store.recorded instrument (.trade e) = true := by
  have hevent : e ∈ store.tradeEvents e.tradeId := TradeStore.mem_tradeEvents.mpr ⟨he, rfl⟩
  rw [recorded_eq_true, List.mem_map]
  constructor
  · rintro ⟨record, hlisted, hid⟩
    obtain ⟨hrecord, hclosed, ⟨t, hclosedAt, hin⟩, hinstrument⟩ :=
      mem_closedTradesForWindow.mp hlisted
    refine ⟨inWindow_of_closed hwhole hrecord hclosed hclosedAt hin (by rw [hid]; exact hevent),
      record, by rw [← hid]; exact hrecord, hinstrument⟩
  · rintro ⟨hin, record, hrecord, hinstrument⟩
    obtain ⟨hclosed, hclosedAt⟩ := closed_of_whole hwhole (hwhole.whole _ he e rfl hin) hrecord
    have hid : record.tradeId = e.tradeId := (Table.find_some hrecord).2
    exact ⟨record, mem_closedTradesForWindow.mpr
      ⟨by rw [hid]; exact hrecord, hclosed, hclosedAt, hinstrument⟩, hid⟩

/-- The net values of the listed trades are those of the close events with a record. -/
theorem sum_closedTrades (hwhole : store.WholeTrades cfg window) :
    ((closedTradesForWindow store window.startUtc window.endUtc instrument).map netPnl).sum =
      store.selectedSum (windowQuery window.startUtc window.endUtc none) fun row =>
        if store.recorded instrument row then rowClosed row else 0 := by
  have hids : ((closedTradesForWindow store window.startUtc window.endUtc instrument).map
      fun trade => trade.tradeId).Nodup := by
    have hperm : (closedTradesForWindow store window.startUtc window.endUtc instrument).Perm _ :=
      perm_sortOn.trans (perm_sortOnDesc.filter _)
    rw [(hperm.map _).nodup_iff]
    exact store.trades.nodup.sublist ((List.filter_sublist.trans List.filter_sublist).map _)
  have hnet : ∀ trade ∈ closedTradesForWindow store window.startUtc window.endUtc instrument,
      netPnl trade = (store.tradeHistoryEvents.docs.map fun row =>
        if rowTradeId row = some trade.tradeId then rowClosed row else 0).sum := by
    intro trade htrade
    obtain ⟨hrecord, hclosed, -, -⟩ := mem_closedTradesForWindow.mp htrade
    obtain ⟨existing, hprojection⟩ := hwhole.projected trade (Table.find_some hrecord).1
    rw [(projection_closed hprojection hclosed).1, sum_closeEvents_tradeEvents]
  have hkeys := sum_by_key hids store.tradeHistoryEvents.docs rowTradeId rowClosed
  rw [List.map_map] at hkeys
  rw [List.map_congr_left hnet]
  refine hkeys.trans (congrArg List.sum (List.map_congr_left fun row hrow => ?_))
  cases row with
  | financing e => simp [rowClosed]
  | trade e =>
      have hlisted := listed_iff instrument hwhole hrow
      rw [← InWindow.selects] at hlisted
      simp only [rowTradeId, HistoryRow.asTrade, Option.map_some, Option.any_some, decide_eq_true_eq,
        hlisted, ite_and]

/-- The close events with a record are the selected ones, without those of trades that are not
listed, and with those that are not selected. -/
theorem sum_recorded (store : TradeStore) (window : WindowBounds) (instrument : Option String) :
    (store.selectedSum (windowQuery window.startUtc window.endUtc none) fun row =>
        if store.recorded instrument row then rowClosed row else 0) =
      store.selectedSum (windowQuery window.startUtc window.endUtc instrument) rowClosed -
        unlistedSum store window instrument + unselectedSum store window instrument := by
  rw [sub_add_eq_add_sub, eq_sub_iff_add_eq, unlistedSum, unselectedSum]
  simp only [TradeStore.selectedSum, ← List.sum_map_add]
  refine congrArg List.sum (List.map_congr_left fun row _ => ?_)
  by_cases hselected : (windowQuery window.startUtc window.endUtc instrument).selects row = true
  · have hinside : (windowQuery window.startUtc window.endUtc none).selects row = true := by
      obtain ⟨hstart, hend, -⟩ := (windowQuery_selects row).mp hselected
      rw [windowQuery_selects]
      refine ⟨hstart, hend, fun i hi => ?_⟩
      cases hi
    rw [if_pos hinside, if_pos hinside, if_pos hselected, if_pos hselected, if_pos hselected]
    split_ifs <;> ring
  · rw [if_neg hselected, if_neg hselected, if_neg hselected]
    split_ifs <;> ring

/-- The net total of the rows is what the close events book less what the openings cost. -/
theorem selectedSum_rowNet (hwhole : store.WholeTrades cfg window)
    (query : TradeStore.HistoryQuery) :
    store.selectedSum query rowNet =
      store.selectedSum query rowClosed - store.selectedSum query rowOpeningCommission := by
  simp only [TradeStore.selectedSum, eq_sub_iff_add_eq, ← List.sum_map_add]
  refine congrArg List.sum (List.map_congr_left fun row hrow => ?_)
  cases row with
  | financing e => exact absurd (hwhole.noFinancing _ hrow) (by simp [HistoryRow.asTrade])
  | trade e =>
      have hnet := hwhole.net _ hrow e rfl
      simp only [rowNet, rowGross, rowFinancing, rowCommission, rowClosed, rowOpeningCommission]
      split_ifs
      · rw [hnet]
        ring
      · ring
      · ring

end whole

theorem getTradeStats_ok {nowUtc : Instant} {today : ℤ} {maePips : String → Option ℚ}
    {period resolved : Period} {startDate endDate : Option ℤ} {instrument : Option String}
    {window : WindowBounds} {report : TradeStatsReport}
    (hresolved : resolvePeriodSelector period startDate endDate = .ok resolved)
    (hwindow : resolvePeriodWindow cfg cfg.journalTimezone nowUtc today resolved = .ok window)
    (h : getTradeStats cfg store nowUtc today maePips period startDate endDate instrument =
      .ok report) :
    report.summary.netRealizedPl =
        (realizedPnlSummary store resolved window instrument).netRealizedPl ∧
      (report.perInstrument.map InstrumentTradeStats.netRealizedPl).sum =
        ((closedTradesForWindow store window.startUtc window.endUtc instrument).map netPnl).sum := by
  obtain ⟨_, hsame, h⟩ := bind_eq_ok.mp h
  obtain rfl := Except.ok.inj (hresolved.symm.trans hsame)
  obtain ⟨pnl, hpnl, h⟩ := bind_eq_ok.mp h
  obtain ⟨_, hsame, hpnl⟩ := bind_eq_ok.mp hpnl
  obtain rfl : resolved = _ := Except.ok.inj hsame
  obtain ⟨_, hsame, hpnl⟩ := bind_eq_ok.mp hpnl
  obtain rfl := Except.ok.inj (hwindow.symm.trans hsame)
  obtain ⟨-, rfl⟩ := checked_eq_ok.mp hpnl
  obtain ⟨summary, hsummary, h⟩ := bind_eq_ok.mp h
  obtain ⟨perInstrument, hper, h⟩ := bind_eq_ok.mp h
  obtain ⟨-, rfl⟩ := checked_eq_ok.mp h
  obtain ⟨group, -, hsummary⟩ := bind_eq_ok.mp hsummary
  obtain ⟨-, rfl⟩ := checked_eq_ok.mp hsummary
  exact ⟨rfl, sum_perInstrument hper⟩

/-- **When the statistics reconcile.**  Over whole trades the net total of the summary is the sum over
the instruments if and only if the commissions of the opening fills come to what the selected close
events book of trades without a record, less what the other close events book of listed trades. -/
theorem getTradeStats_reconciles_iff (cfg : Config) (store : TradeStore) (nowUtc : Instant) (today : ℤ)
    (maePips : String → Option ℚ) (period resolved : Period) (startDate endDate : Option ℤ)
    (instrument : Option String) (window : WindowBounds) (report : TradeStatsReport)
    (hresolved : resolvePeriodSelector period startDate endDate = .ok resolved)
    (hwindow : resolvePeriodWindow cfg cfg.journalTimezone nowUtc today resolved = .ok window)
    (hwhole : store.WholeTrades cfg window)
    (h : getTradeStats cfg store nowUtc today maePips period startDate endDate instrument =
      .ok report) :
    report.summary.netRealizedPl =
        (report.perInstrument.map InstrumentTradeStats.netRealizedPl).sum ↔
      store.selectedSum (windowQuery window.startUtc window.endUtc instrument) rowOpeningCommission =
        unlistedSum store window instrument - unselectedSum store window instrument := by
  obtain ⟨hsummary, hper⟩ := getTradeStats_ok hresolved hwindow h
  rw [hsummary, hper, summary_net, sum_closedTrades hwhole, sum_recorded, selectedSum_rowNet hwhole]
  constructor
  · intro heq
    linarith
  · intro heq
    linarith

/-- The journal of one trade: opened at a cost, reduced, closed. -/
def oneTrade (commission : ℤ) : TradeStore :=
  ((ingest sampleConfig "UTC" [
    { openingFill 5 0 "5" 100 with commission := some ⟨commission, 0⟩ },
    reducingFill 6 1 "5" 40, closingFill 7 2 "5" 60]).eval World.answer
      (sampleWorld noFills)).2.store

def firstDayWindow : WindowBounds := windowBounds "UTC" (.custom 0 0) 0 86400000000

theorem oneTrade_whole : ∀ commission ∈ [0, 1],
    (oneTrade commission).WholeTrades sampleConfig firstDayWindow := by
  have hprojected : ∀ commission ∈ [0, 1], ∀ record ∈ (oneTrade commission).trades.docs,
      projection sampleConfig record.tradeId ((oneTrade commission).tradeEvents record.tradeId)
        (some record) = .ok (some record) := by decide +kernel
  intro commission hcommission
  refine ⟨?_, ?_, ?_, ?_⟩
  · revert commission
    decide +kernel
  · revert commission
    decide +kernel
  · revert commission
    decide +kernel
  · exact fun record hrecord => ⟨some record, hprojected commission hcommission record hrecord⟩

/-- The opening cost 1: the summary shows a loss of 1, the breakdown none. -/
theorem getTradeStats_differs_openingCommission :
    (oneTrade 1).WholeTrades sampleConfig firstDayWindow ∧
      ∃ report, getTradeStats sampleConfig (oneTrade 1) 0 0 (fun _ => none) (.custom 0 0) none none
        none = .ok report ∧ report.summary.netRealizedPl = -1 ∧
        (report.perInstrument.map InstrumentTradeStats.netRealizedPl).sum = 0 := by
  refine ⟨oneTrade_whole 1 (by decide), ?_⟩
  have hreport : (getTradeStats sampleConfig (oneTrade 1) 0 0 (fun _ => none) (.custom 0 0) none none
      none).map (fun report => (report.summary.netRealizedPl,
        (report.perInstrument.map InstrumentTradeStats.netRealizedPl).sum)) = .ok (-1, 0) := by
    decide +kernel
  obtain ⟨report, hok, hvalues⟩ := map_eq_ok.mp hreport
  exact ⟨report, hok, (Prod.mk.inj hvalues).1, (Prod.mk.inj hvalues).2⟩

/-- An opening that cost nothing. -/
theorem getTradeStats_reconciles_freeOpening : ∃ report,
    getTradeStats sampleConfig (oneTrade 0) 0 0 (fun _ => none) (.custom 0 0) none none none =
        .ok report ∧
      report.summary.tradeCount = 1 ∧
      report.summary.netRealizedPl =
        (report.perInstrument.map InstrumentTradeStats.netRealizedPl).sum := by
  have hreturns : (getTradeStats sampleConfig (oneTrade 0) 0 0 (fun _ => none) (.custom 0 0) none none
      none).map (fun report => report.summary.tradeCount) = .ok 1 := by decide +kernel
  obtain ⟨report, hok, hcount⟩ := map_eq_ok.mp hreturns
  have hcost : (oneTrade 0).selectedSum (windowQuery 0 86400000000 none) rowOpeningCommission =
      unlistedSum (oneTrade 0) firstDayWindow none - unselectedSum (oneTrade 0) firstDayWindow none := by
    decide +kernel
  exact ⟨report, hok, hcount, (getTradeStats_reconciles_iff sampleConfig (oneTrade 0) 0 0
    (fun _ => none) (.custom 0 0) (.custom 0 0) none none none firstDayWindow report rfl rfl
    (oneTrade_whole 0 (by decide)) hok).mpr hcost⟩

end OandaV3
