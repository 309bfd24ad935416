import Mathlib.Data.List.MinMax
import OandaV3.CandleRange
import OandaV3.HistoryService

/-! # The excursions of open trades

`journal/mae_mfe_service.py` reports how far the price went against an open trade and in its favour, from
minute candles since its opening.  Trades of one instrument share one frame, which is read from the earliest
opening on and cut down for each of them; without candles the samples are used, or what is stored.

`summaryMap_eq_summaryForTrade`: the summary a trade gets in a batch is the one it gets alone. -/

namespace OandaV3

open Fallible

/-! ### Samples and summaries -/

/-- `ExcursionSample`. -/
structure ExcursionSample where
  tradeId : String
  sampledAt : Instant
  bid : ℚ
  ask : ℚ
  adversePips : ℚ
  favorablePips : ℚ
deriving DecidableEq, Repr

/-- What is reported about a trade. -/
structure MaeMfeSummary where
  tradeId : String
  sampleCount : ℕ
  maePips : ℚ
  mfePips : ℚ
  maePrice : Option ℚ
  mfePrice : Option ℚ
  maeAt : Option Instant
  mfeAt : Option Instant
  lastSampledAt : Option Instant
  summarySource : String
deriving DecidableEq, Repr

/-- The samples that are stored for each trade, oldest first. -/
abbrev ExcursionRepository := String → List ExcursionSample

/-- `get_mae_mfe`, with the source `_stored_summary_for_trade` gives it. -/
def storedSummaryForTrade (repository : ExcursionRepository) (tradeId : String) :
    Option MaeMfeSummary := do
  let samples := repository tradeId
  let maeSample ← samples.argmax ExcursionSample.adversePips
  let mfeSample ← samples.argmax ExcursionSample.favorablePips
  return {
    tradeId
    sampleCount := samples.length
    maePips := maeSample.adversePips
    mfePips := mfeSample.favorablePips
    maePrice := none
    mfePrice := none
    maeAt := none
    mfeAt := none
    lastSampledAt := samples.getLast?.map ExcursionSample.sampledAt
    summarySource := "tick_samples_fallback" }

/-- `_summary_from_samples`. -/
def summaryFromSamples (trade : TradeRecord) (samples : List ExcursionSample) : Option MaeMfeSummary := do
  let maeSample ← samples.argmax ExcursionSample.adversePips
  let mfeSample ← samples.argmax ExcursionSample.favorablePips
  return {
    tradeId := trade.tradeId
    sampleCount := samples.length
    maePips := maeSample.adversePips
    mfePips := mfeSample.favorablePips
    maePrice := some (if 0 < trade.units then maeSample.bid else maeSample.ask)
    mfePrice := some (if 0 < trade.units then mfeSample.bid else mfeSample.ask)
    maeAt := some maeSample.sampledAt
    mfeAt := some mfeSample.sampledAt
    lastSampledAt := samples.getLast?.map ExcursionSample.sampledAt
    summarySource := "tick_samples_fallback" }

/-! ### Replaying candles -/

/-- The rows of the extremes of a frame: the lowest bid and the highest bid for a long trade, the highest ask
and the lowest ask for a short one, each with its price. -/
def extremeRows (units : ℚ) (frame : List BidAskCandle) :
    Option ((BidAskCandle × ℚ) × (BidAskCandle × ℚ)) := do
  if 0 < units then
    let maeRow ← frame.argmin (·.bid.low)
    let mfeRow ← frame.argmax (·.bid.high)
    return ((maeRow, maeRow.bid.low), (mfeRow, mfeRow.bid.high))
  else
    let maeRow ← frame.argmax (·.ask.high)
    let mfeRow ← frame.argmin (·.ask.low)
    return ((maeRow, maeRow.ask.high), (mfeRow, mfeRow.ask.low))

/-- `_summary_from_frame`. -/
def summaryFromFrame (cfg : Config) (trade : TradeRecord) (frame : List BidAskCandle) (sampleCount : ℕ)
    (lastSampledAt : Option Instant) : Except Exn (Option MaeMfeSummary) :=
  match extremeRows trade.units frame with
  | none => .ok none
  | some ((maeRow, maePrice), (mfeRow, mfePrice)) => do
      let pipSize ← cfg.getPipSize trade.instrument
      return some {
        tradeId := trade.tradeId
        sampleCount
        maePips := max 0 ((if 0 < trade.units then trade.openPrice - maePrice
          else maePrice - trade.openPrice) / pipSize)
        mfePips := max 0 ((if 0 < trade.units then mfePrice - trade.openPrice
          else trade.openPrice - mfePrice) / pipSize)
        maePrice := some maePrice
        mfePrice := some mfePrice
        maeAt := some maeRow.time
        mfeAt := some mfeRow.time
        lastSampledAt
        summarySource := "m1_bid_ask_replay" }

/-- `_load_bid_ask_frame`: a load that fails gives an empty frame. -/
def loadBidAskFrame (cfg : Config) (api : String → RangeApi) (instrument : String)
    (startUtc endUtc : ℤ) : List BidAskCandle :=
  let loaded : Except Exn (List BidAskCandle) := do
    let resolvedInstrument ← cfg.validateLiveInstrument instrument
    getBidAskCandlesRange resolvedInstrument .M1 (api resolvedInstrument) startUtc endUtc 5000
  match loaded with
  | .ok frame => frame
  | .error _ => []

/-- The start of the minute of an instant. -/
def openedMinute (openedAt : ℤ) : ℤ := openedAt / minute * minute

/-- `_slice_trade_frame`. -/
def sliceTradeFrame (frame : List BidAskCandle) (openedAt : ℤ) : List BidAskCandle :=
  frame.filter fun candle => decide (openedMinute openedAt ≤ candle.time)

/-! ### The service -/

section service

variable (cfg : Config) (api : String → RangeApi) (repository : ExcursionRepository) (now : ℤ)

/-- The summary of a trade from the frame of its instrument. -/
def summaryOfTrade (frame : List BidAskCandle) (samples : List ExcursionSample) (trade : TradeRecord) :
    Except Exn (Option MaeMfeSummary) := do
  let replay ← summaryFromFrame cfg trade (sliceTradeFrame frame trade.openedAt) samples.length
    (samples.getLast?.map ExcursionSample.sampledAt)
  return ((replay.or (summaryFromSamples trade samples)).or
    (storedSummaryForTrade repository trade.tradeId))

/-- The summaries, by trade id. -/
abbrev Summaries := List (String × Option MaeMfeSummary)

/-- The inner loop of `summary_map_for_open_trades`. -/
def groupSummaries (sampleMap : List (String × List ExcursionSample)) (frame : List BidAskCandle) :
    List TradeRecord → Summaries → Except Exn Summaries
  | [], summaries => .ok summaries
  | trade :: trades, summaries => do
      let samples := (sampleMap.lookup trade.tradeId).getD []
      let summary ← summaryOfTrade cfg repository frame samples trade
      groupSummaries sampleMap frame trades (Dict.assign summaries trade.tradeId summary)

def earliestOpening : List TradeRecord → ℤ
  | [] => now
  | trade :: trades => trades.foldl (fun earliest trade => min earliest trade.openedAt) trade.openedAt

/-- The outer loop of `summary_map_for_open_trades`. -/
def instrumentSummaries (sampleMap : List (String × List ExcursionSample)) :
    List (String × List TradeRecord) → Summaries → Except Exn Summaries
  | [], summaries => .ok summaries
  | (instrument, trades) :: groups, summaries => do
      let frame := loadBidAskFrame cfg api instrument (earliestOpening now trades) now
      let summaries ← groupSummaries cfg repository sampleMap frame trades summaries
      instrumentSummaries sampleMap groups summaries

/-- `summary_map_for_open_trades`. -/
def summaryMapForOpenTrades (trades : List TradeRecord)
    (sampleMap : Option (List (String × List ExcursionSample))) : Except Exn Summaries :=
  let resolvedSampleMap :=
    sampleMap.getD (trades.map fun trade => (trade.tradeId, repository trade.tradeId))
  instrumentSummaries cfg api repository now resolvedSampleMap
    (Dict.groupBy (fun trade : TradeRecord => trade.instrument) trades) []

/-- `summary_for_trade`. -/
def summaryForTrade (trade : TradeRecord) (samples : Option (List ExcursionSample)) :
    Except Exn (Option MaeMfeSummary) :=
  let resolvedSamples := samples.getD (repository trade.tradeId)
  if trade.state ≠ .OPEN then
    .ok ((summaryFromSamples trade resolvedSamples).or (storedSummaryForTrade repository trade.tradeId))
  else do
    let summaryMap ← summaryMapForOpenTrades cfg api repository now [trade]
      (some [(trade.tradeId, resolvedSamples)])
    return (summaryMap.lookup trade.tradeId).join

end service

/-! ### Slices of a shared frame -/

section slices

variable {cfg : Config} {api : String → RangeApi} {repository : ExcursionRepository} {now : ℤ}

/-- The loads of an instrument succeed: its pip size is known, its candles last a minute and are over by now,
and every request is answered with those that meet it. -/
structure LoadsMinutes (cfg : Config) (api : String → RangeApi) (now : ℤ) (instrument : String)
    (history : BidAskHistory) : Prop where
  resolved : ∃ symbol, cfg.validateLiveInstrument instrument = .ok symbol ∧ history.Serves (api symbol)
  pip : ∃ pipSize, cfg.getPipSize instrument = .ok pipSize
  minutes : ∀ candle ∈ history.candles, history.closeTime candle.time = candle.time + minute
  closed : ∀ candle ∈ history.candles, candle.time + minute ≤ now

theorem lt_openedMinute_add (t : ℤ) : t < openedMinute t + minute := by
  unfold openedMinute minute second
  omega

theorem LoadsMinutes.load {instrument : String} {history : BidAskHistory}
    (h : LoadsMinutes cfg api now instrument history) (startUtc : ℤ) :
    loadBidAskFrame cfg api instrument startUtc now =
      if startUtc < now then history.window startUtc now else [] := by
  obtain ⟨symbol, hsymbol, hserves⟩ := h.resolved
  rw [loadBidAskFrame, hsymbol]
  simp only [bind, Except.bind]
  split_ifs with hwindow
  · rw [getBidAskCandlesRange_eq symbol .M1 hserves hwindow (by decide) (by decide)]
  · rw [getBidAskCandlesRange, dif_neg (by decide), if_pos (not_lt.mp hwindow)]

/-- **A slice does not show where its frame began**: it holds the minutes from the one of the opening on. -/
theorem LoadsMinutes.slice {instrument : String} {history : BidAskHistory}
    (h : LoadsMinutes cfg api now instrument history) {startUtc openedAt : ℤ}
    (hstart : startUtc ≤ openedAt) :
    sliceTradeFrame (loadBidAskFrame cfg api instrument startUtc now) openedAt =
      sliceTradeFrame history.candles openedAt := by
  have hminute := lt_openedMinute_add openedAt
  rw [h.load]
  split_ifs with hwindow
  · rw [sliceTradeFrame, sliceTradeFrame, BidAskHistory.window, List.filter_filter]
    refine List.filter_congr fun candle hcandle => ?_
    have hclosed := h.closed candle hcandle
    have hspan := h.minutes candle hcandle
    have hmeets : openedMinute openedAt ≤ candle.time → history.Meets startUtc now candle := by
      intro hsince
      have hpos := history.lt_closeTime candle hcandle
      unfold BidAskHistory.Meets
      constructor <;> omega
    by_cases hsince : openedMinute openedAt ≤ candle.time
    · simp [hsince, hmeets hsince]
    · simp [hsince]
  · -- the trade was opened after the last candle
    refine (List.filter_eq_nil_iff.mpr fun candle hcandle => ?_).symm
    have hclosed := h.closed candle hcandle
    rw [decide_eq_true_eq]
    omega

end slices

/-! ### Batches -/

section batches

variable {cfg : Config} {api : String → RangeApi} {repository : ExcursionRepository} {now : ℤ}
  {history : String → BidAskHistory}

/-- The summary of a trade from all minutes of its instrument. -/
def soleSummary (cfg : Config) (repository : ExcursionRepository) (history : String → BidAskHistory)
    (samples : List ExcursionSample) (trade : TradeRecord) : Option MaeMfeSummary :=
  (summaryOfTrade cfg repository (history trade.instrument).candles samples trade).toOption.join

theorem summaryOfTrade_ok (repository : ExcursionRepository) {trade : TradeRecord} {pipSize : ℚ}
    (hpip : cfg.getPipSize trade.instrument = .ok pipSize) (frame : List BidAskCandle)
    (samples : List ExcursionSample) :
    ∃ summary, summaryOfTrade cfg repository frame samples trade = .ok summary := by
  unfold summaryOfTrade summaryFromFrame
  rw [hpip]
  split
  · exact ⟨_, rfl⟩
  · exact ⟨_, rfl⟩

theorem LoadsMinutes.sole {trade : TradeRecord}
    (h : LoadsMinutes cfg api now trade.instrument (history trade.instrument)) {startUtc : ℤ}
    (hstart : startUtc ≤ trade.openedAt) (samples : List ExcursionSample) :
    summaryOfTrade cfg repository (loadBidAskFrame cfg api trade.instrument startUtc now) samples
      trade = .ok (soleSummary cfg repository history samples trade) := by
  obtain ⟨pipSize, hpip⟩ := h.pip
  obtain ⟨summary, hsummary⟩ := summaryOfTrade_ok repository hpip
    (history trade.instrument).candles samples
  rw [soleSummary, hsummary, summaryOfTrade, h.slice hstart]
  exact hsummary

theorem foldl_min_le (trades : List TradeRecord) (earliest : ℤ) :
    trades.foldl (fun earliest trade => min earliest trade.openedAt) earliest ≤ earliest ∧
      ∀ trade ∈ trades, trades.foldl (fun earliest trade => min earliest trade.openedAt) earliest ≤
        trade.openedAt := by
  induction trades generalizing earliest with
  | nil => exact ⟨le_rfl, fun _ h => absurd h List.not_mem_nil⟩
  | cons first trades ih =>
      obtain ⟨hle, hall⟩ := ih (min earliest first.openedAt)
      refine ⟨hle.trans (min_le_left _ _), fun trade htrade => ?_⟩
      rcases List.mem_cons.mp htrade with rfl | hlater
      · exact hle.trans (min_le_right _ _)
      · exact hall trade hlater

theorem earliestOpening_le {trades : List TradeRecord} {trade : TradeRecord} (h : trade ∈ trades) :
    earliestOpening now trades ≤ trade.openedAt := by
  cases trades with
  | nil => cases h
  | cons first trades =>
      obtain ⟨hle, hall⟩ := foldl_min_le trades first.openedAt
      rcases List.mem_cons.mp h with rfl | hlater
      · exact hle
      · exact hall trade hlater

theorem groupSummaries_ok {sampleMap : List (String × List ExcursionSample)} {frame : List BidAskCandle}
    (value : TradeRecord → Option MaeMfeSummary) {trades : List TradeRecord}
    (h : ∀ trade ∈ trades, summaryOfTrade cfg repository frame
      ((sampleMap.lookup trade.tradeId).getD []) trade = .ok (value trade)) (summaries : Summaries) :
    groupSummaries cfg repository sampleMap frame trades summaries =
      .ok (Dict.assignAll (fun trade : TradeRecord => trade.tradeId) value trades summaries) := by
  induction trades generalizing summaries with
  | nil => rfl
  | cons trade trades ih =>
      rw [List.forall_mem_cons] at h
      rw [groupSummaries, h.1]
      exact ih h.2 _

theorem instrumentSummaries_ok {sampleMap : List (String × List ExcursionSample)}
    (value : TradeRecord → Option MaeMfeSummary) {groups : List (String × List TradeRecord)}
    (h : ∀ group ∈ groups, ∀ trade ∈ group.2, summaryOfTrade cfg repository
      (loadBidAskFrame cfg api group.1 (earliestOpening now group.2) now)
      ((sampleMap.lookup trade.tradeId).getD []) trade = .ok (value trade)) (summaries : Summaries) :
    instrumentSummaries cfg api repository now sampleMap groups summaries =
      .ok (Dict.assignAll (fun trade : TradeRecord => trade.tradeId) value (groups.flatMap Prod.snd)
        summaries) := by
  induction groups generalizing summaries with
  | nil => rfl
  | cons group groups ih =>
      rw [List.forall_mem_cons] at h
      rw [instrumentSummaries, groupSummaries_ok value h.1, List.flatMap_cons, Dict.assignAll_append]
      exact ih h.2 _

/-- The batch gives every trade the summary that depends on this trade and its samples only. -/
theorem summaryMap_ok (repository : ExcursionRepository) (trades : List TradeRecord)
    (hids : ∀ a ∈ trades, ∀ b ∈ trades, a.tradeId = b.tradeId → a = b)
    (hloads : ∀ trade ∈ trades, LoadsMinutes cfg api now trade.instrument (history trade.instrument))
    (sampleMap : List (String × List ExcursionSample)) :
    ∃ summaries, summaryMapForOpenTrades cfg api repository now trades (some sampleMap) =
        .ok summaries ∧
      ∀ trade ∈ trades, summaries.lookup trade.tradeId =
        some (soleSummary cfg repository history ((sampleMap.lookup trade.tradeId).getD []) trade) := by
  refine ⟨_, instrumentSummaries_ok (fun trade => soleSummary cfg repository history
    ((sampleMap.lookup trade.tradeId).getD []) trade) (fun group hgroup trade htrade => ?_) [],
    fun trade htrade => ?_⟩
  · obtain ⟨hmem, hinstrument⟩ := (Dict.mem_groupBy hgroup).2 trade htrade
    rw [← hinstrument]
    exact (hloads trade hmem).sole (earliestOpening_le htrade) _
  · obtain ⟨group, hgroup, hin⟩ := Dict.exists_groupBy (fun trade : TradeRecord => trade.instrument)
      htrade
    refine Dict.lookup_assignAll (fun trade : TradeRecord => trade.tradeId) _ []
      (List.mem_flatMap.mpr ⟨group, hgroup, hin⟩) fun other hother hid => ?_
    obtain ⟨group', hgroup', hin'⟩ := List.mem_flatMap.mp hother
    rw [hids other ((Dict.mem_groupBy hgroup').2 other hin').1 trade htrade hid]

end batches

/-- **A batch gives what a trade gets alone.**  For every list of open trades whose loads succeed, the batch
returns, and the summary it gives a trade is the one `summary_for_trade` gives it with the same samples, by a
map or from the repository; so it depends neither on the other trades nor on their order. -/
theorem summaryMap_eq_summaryForTrade (cfg : Config) (api : String → RangeApi)
    (repository : ExcursionRepository) (now : ℤ) (history : String → BidAskHistory)
    (trades : List TradeRecord) (sampleMap : Option (List (String × List ExcursionSample)))
    (hids : ∀ a ∈ trades, ∀ b ∈ trades, a.tradeId = b.tradeId → a = b)
    (hopen : ∀ trade ∈ trades, trade.state = .OPEN)
    (hloads : ∀ trade ∈ trades, LoadsMinutes cfg api now trade.instrument (history trade.instrument)) :
    ∃ summaries, summaryMapForOpenTrades cfg api repository now trades sampleMap = .ok summaries ∧
      ∀ trade ∈ trades, ∃ summary, summaries.lookup trade.tradeId = some summary ∧
        summaryForTrade cfg api repository now trade
          (sampleMap.map fun samples => (samples.lookup trade.tradeId).getD []) = .ok summary := by
  obtain ⟨summaries, hbatch, hall⟩ := summaryMap_ok repository trades hids hloads
    (sampleMap.getD (trades.map fun trade => (trade.tradeId, repository trade.tradeId)))
  refine ⟨summaries, hbatch, fun trade htrade => ⟨_, hall trade htrade, ?_⟩⟩
  -- alone, the samples are the same
  have hsamples : ((sampleMap.getD (trades.map fun trade =>
      (trade.tradeId, repository trade.tradeId))).lookup trade.tradeId).getD [] =
        (sampleMap.map fun samples => (samples.lookup trade.tradeId).getD []).getD
          (repository trade.tradeId) := by
    cases sampleMap with
    | some samples => rfl
    | none =>
        rw [Option.getD_none, Dict.lookup_map_self (fun trade : TradeRecord => trade.tradeId) repository
          htrade]
        rfl
  obtain ⟨sole, halone, hsole⟩ := summaryMap_ok repository [trade]
    (fun a ha b hb _ => (List.mem_singleton.mp ha).trans (List.mem_singleton.mp hb).symm)
    (fun other hother => List.mem_singleton.mp hother ▸ hloads trade htrade)
    [(trade.tradeId, (sampleMap.map fun samples => (samples.lookup trade.tradeId).getD []).getD
      (repository trade.tradeId))]
  have hlookup := hsole trade (List.mem_singleton_self trade)
  rw [List.lookup_cons_self, Option.getD_some] at hlookup
  rw [summaryForTrade]
  simp only [hopen trade htrade, ne_eq, not_true_eq_false, if_false, halone, bind, Except.bind]
  rw [hlookup, hsamples]
  rfl

def openTrade (tradeId : String) (units : ℚ) (openedAt : Instant) : TradeFields where
  tradeId
  instrument := "EUR_USD"
  units
  openPrice := 10
  closePrice := none
  slPrice := none
  tpPrice := none
  gsloPrice := none
  state := .OPEN
  closeReason := none
  pips := none
  instrumentPnl := none
  instrumentPnlCurrency := none
  accountPnl := none
  accountCurrency := none
  openedAt
  closedAt := none
  notes := none

/-- A long trade within the first minute, and a short one within the second. -/
def twoTrades : List TradeRecord :=
  [⟨openTrade "1" 100 (30 * second), by decide +kernel⟩,
    ⟨openTrade "2" (-100) (90 * second), by decide +kernel⟩]

theorem loadsMinutes_threeQuotes (instrument : String) :
    LoadsMinutes sampleConfig (fun _ => threeQuotes.answer) (3 * minute) instrument threeQuotes where
  resolved := ⟨instrument, rfl, threeQuotes.serves_answer⟩
  pip := ⟨_, rfl⟩
  minutes _ _ := rfl
  closed := by decide

/-- The two trades in a batch, after three minutes. -/
theorem summaryMap_twoTrades :
    ∃ summaries, summaryMapForOpenTrades sampleConfig (fun _ => threeQuotes.answer) (fun _ => [])
        (3 * minute) twoTrades none = .ok summaries ∧
      ∀ trade ∈ twoTrades, ∃ summary, summaries.lookup trade.tradeId = some summary ∧
        summaryForTrade sampleConfig (fun _ => threeQuotes.answer) (fun _ => []) (3 * minute) trade none =
          .ok summary :=
  summaryMap_eq_summaryForTrade sampleConfig (fun _ => threeQuotes.answer) (fun _ => []) (3 * minute)
    (fun _ => threeQuotes) twoTrades none (by decide +kernel) (by decide +kernel)
    fun _ _ => loadsMinutes_threeQuotes _

end OandaV3
