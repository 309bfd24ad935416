import OandaV3.Signals

/-! # Snapshots of the bot

What the bias, the ladder and the plan of the bot read of a snapshot, and the mirror of a snapshot: prices are
negated, highs and lows and the two sides are swapped, and the indicators that lean to one side lean to the
other. -/

namespace OandaV3

open Fallible Mirrors Mirrors.Mirror

/-! ### Snapshots of the bot -/

inductive Direction where
  | BULLISH
  | BEARISH
  | NEUTRAL
deriving DecidableEq, Repr

inductive ChopStatus where
  | PASS
  | CAUTION
  | REJECT
deriving DecidableEq, Repr

/-- `TimeframeSnapshot` of the bot, with what the bias, the ladder and the plan read. -/
structure BotSnapshot where
  instrument : String
  timeframe : String
  version : ℕ
  lastCompletedCandle : Instant
  computedAt : Instant
  metrics : MetricValues
  structureEvents : StructureEventSummary
  orderBlocks : List OrderBlockSummary
  liquidity : LiquidityPoolSummary
  smcContext : SmcContextSummary
  spreadAcceptable : Bool
  chop : ChopStatus
  sfp : Option SweepEvent
  turtleSoup : Option TurtleSoupEvent

/-- `SCAN_INSTRUMENTS` of the bot, the keys of its registry. -/
def botScanInstruments : List String :=
  ["XAU_USD", "XAG_USD", "EUR_USD", "GBP_USD", "USD_JPY", "AUD_USD", "USD_CAD", "USD_CHF", "NZD_USD",
    "EUR_GBP", "EUR_JPY", "GBP_JPY"]

/-- `get_instrument_spec` of the bot, as a check. -/
def checkBotInstrument (instrument : String) : Except Exn Unit :=
  if instrument ∈ botScanInstruments then .ok ()
  else .error (.keyError ("Unsupported instrument '" ++ instrument ++ "'. Supported instruments: " ++
    ", ".intercalate botScanInstruments ++ "."))

/-! ### The mirror -/

instance : Mirror Direction where
  mirror
    | .BULLISH => .BEARISH
    | .BEARISH => .BULLISH
    | .NEUTRAL => .NEUTRAL
  mirror_mirror direction := by cases direction <;> rfl

instance : Mirror TradeDirection where
  mirror
    | .LONG => .SHORT
    | .SHORT => .LONG
  mirror_mirror direction := by cases direction <;> rfl

instance : Mirror LiquiditySide where
  mirror
    | .BUY_SIDE => .SELL_SIDE
    | .SELL_SIDE => .BUY_SIDE
  mirror_mirror side := by cases side <;> rfl

instance : Mirror SwingKind where
  mirror
    | .HIGH => .LOW
    | .LOW => .HIGH
  mirror_mirror kind := by cases kind <;> rfl

instance : Mirror OrderBlockSummary where
  mirror block :=
    { block with
      direction := mirror block.direction
      upperPrice := -block.lowerPrice
      lowerPrice := -block.upperPrice
      contract := by
        have h := block.contract
        simpa only [OrderBlockSummaryFields.validateContract, neg_le_neg_iff] using h }
  mirror_mirror block := by simp

instance : Mirror LiquidityLevelSummary where
  mirror level := { level with side := mirror level.side, price := -level.price }
  mirror_mirror level := by simp

instance : Mirror SwingPointSummary where
  mirror swing := { swing with kind := mirror swing.kind, level := -swing.level }
  mirror_mirror swing := by simp

instance : Mirror StructureBreak where
  mirror found := { found with direction := mirror found.direction, level := mirror found.level }
  mirror_mirror found := by simp

instance : Mirror StructureEventSummary where
  mirror events :=
    { latestBreak := mirror events.latestBreak
      recentBreaks := mirror events.recentBreaks
      latestSwingHigh := mirror events.latestSwingLow
      latestSwingLow := mirror events.latestSwingHigh
      size := by
        rw [length_mirror]
        exact events.size }
  mirror_mirror events := by simp

def PreviousHighLowFields.mirrored (previous : PreviousHighLowFields) : PreviousHighLowFields where
  previousHigh := mirror previous.previousLow
  previousLow := mirror previous.previousHigh
  brokenHigh := previous.brokenLow
  brokenLow := previous.brokenHigh
  asOf := previous.asOf

theorem PreviousHighLowFields.validateContract_mirrored (previous : PreviousHighLowFields) :
    previous.mirrored.validateContract = previous.validateContract := by
  obtain ⟨high, low, brokenHigh, brokenLow, asOf⟩ := previous
  unfold validateContract mirrored
  cases high <;> cases low <;> simp [mirror_rat, Bool.or_comm]

instance : Mirror PreviousHighLowSummary where
  mirror previous := ⟨previous.mirrored, previous.validateContract_mirrored.trans previous.contract⟩
  mirror_mirror previous := by simp [PreviousHighLowFields.mirrored]

instance : Mirror RetracementSummary where
  mirror retracement :=
    { retracement with
      direction := mirror retracement.direction
      contract := by
        have h := retracement.contract
        unfold RetracementFields.validateContract at h ⊢
        cases hdirection : retracement.direction with
        | none => simpa [hdirection] using h
        | some direction => simpa [hdirection] using h }
  mirror_mirror retracement := by simp

instance : Mirror LiquidityPoolSummary where
  mirror pool := ⟨mirror pool.levels, by rw [length_mirror]; exact pool.size⟩
  mirror_mirror pool := by simp

instance : Mirror SmcContextSummary where
  mirror context :=
    { context with
      previousHighLow := mirror context.previousHighLow
      retracement := mirror context.retracement }
  mirror_mirror context := by simp

/-- A metric in the mirror: a MACD histogram changes its sign, and an RSI counts from the other end. -/
instance : Mirror (String × Option ℚ) where
  mirror metric :=
    (metric.1,
      if metric.1 = "macd_hist" then metric.2.map fun value => -value
      else if metric.1 = "rsi" then metric.2.map fun value => 100 - value
      else metric.2)
  mirror_mirror metric := by
    obtain ⟨name, value⟩ := metric
    by_cases hmacd : name = "macd_hist"
    · cases value <;> simp [hmacd]
    · by_cases hrsi : name = "rsi"
      · cases value <;> simp [hrsi]
      · simp [hmacd, hrsi]

instance : Mirror BotSnapshot where
  mirror snapshot :=
    { snapshot with
      metrics := mirror snapshot.metrics
      structureEvents := mirror snapshot.structureEvents
      orderBlocks := mirror snapshot.orderBlocks
      liquidity := mirror snapshot.liquidity
      smcContext := mirror snapshot.smcContext
      sfp := mirror snapshot.sfp
      turtleSoup := mirror snapshot.turtleSoup }
  mirror_mirror snapshot := by simp

end OandaV3
