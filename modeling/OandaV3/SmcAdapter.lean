import Mathlib.Algebra.Order.AbsoluteValue.Basic
import OandaV3.CandleFreshness
import OandaV3.ZoneSummary

/-! # The SMC adapter

`SmcAdapter.analyze` of `smc/provider.py` turns the frames of `smartmoneyconcepts` into bounded summaries, each
with a contract of its own.  What the package promises of its frames is in `SmcModule.Sound`: a row for each
closed candle, and lows below their highs.

* `windowStart_spec`: the loop that walks back from the last active bar of a session finds where its run starts.
* `firstOf_take`: a cut of a sorted list keeps the first items.
* `SmcAnalysisResult.Shows`: the last run of each session, the previous levels, the latest breaks and swing
  points, every order block, the nearest of them as zones, the nearest liquidity levels and the retracement.
* `smcAnalyze_sound`: no contract is ever broken; the summaries show what the frames hold; and every time in
  them is the time of a closed candle. -/

namespace OandaV3

open Fallible

/-! ### Contracts -/

inductive SessionName where
  | SYDNEY
  | TOKYO
  | LONDON
  | NEW_YORK
deriving DecidableEq, Repr

/-- `SESSION_NAMES`. -/
def sessionNames : List (SessionName × String) :=
  [(.SYDNEY, "Sydney"), (.TOKYO, "Tokyo"), (.LONDON, "London"), (.NEW_YORK, "New York")]

/-- The fields of `SessionSummary`. -/
structure SessionSummaryFields where
  name : SessionName
  isActive : Bool := false
  windowStart : Option Instant := none
  windowEnd : Option Instant := none
  sessionHigh : Option ℚ := none
  sessionLow : Option ℚ := none
  lastEvaluatedAt : Instant
deriving DecidableEq, Repr

/-- `SessionSummary.validate_contract`. -/
def SessionSummaryFields.validateContract (s : SessionSummaryFields) : Except Exn Unit := do
  require (s.windowStart.isNone == s.windowEnd.isNone)
    "Session windows must define both window_start and window_end."
  require (s.windowStart.all fun start => s.windowEnd.all fun stop => decide (start ≤ stop))
    "window_start must be less than or equal to window_end."
  require (s.sessionHigh.isNone == s.sessionLow.isNone)
    "SessionSummary must define both session_high and session_low together."
  require (s.sessionHigh.all fun high => s.sessionLow.all fun low => decide (low ≤ high))
    "session_high must be greater than or equal to session_low."
  require (!(s.isActive && s.windowEnd.isNone)) "Active sessions must define a window."

/-- A validated `SessionSummary`. -/
structure SessionSummary extends SessionSummaryFields where
  contract : toSessionSummaryFields.validateContract = .ok ()
deriving DecidableEq

/-- `SessionSummary(...)`. -/
def SessionSummaryFields.validate (s : SessionSummaryFields) : Except Exn SessionSummary :=
  validated s.validateContract fun contract => ⟨s, contract⟩

/-- `SessionContextSummary.validate_size`. -/
def validateSessions (sessions : List SessionSummary) : Except Exn Unit := do
  require (decide (sessions.length ≤ 4)) "SessionContextSummary may contain at most 4 sessions."
  require (decide (sessions.map fun session => session.name).Nodup)
    "SessionContextSummary session names must be unique."

/-- A validated `SessionContextSummary`. -/
structure SessionContextSummary where
  sessions : List SessionSummary := []
  size : validateSessions sessions = .ok () := by rfl

/-- The fields of `PreviousHighLowSummary`. -/
structure PreviousHighLowFields where
  previousHigh : Option ℚ := none
  previousLow : Option ℚ := none
  brokenHigh : Bool := false
  brokenLow : Bool := false
  asOf : Option Instant := none
deriving DecidableEq, Repr

/-- `PreviousHighLowSummary.validate_contract`. -/
def PreviousHighLowFields.validateContract (p : PreviousHighLowFields) : Except Exn Unit := do
  let hasLevels := p.previousHigh.isSome || p.previousLow.isSome
  require (hasLevels == (p.previousHigh.isSome && p.previousLow.isSome))
    "PreviousHighLowSummary must define both previous_high and previous_low together."
  require (p.previousHigh.all fun high => p.previousLow.all fun low => decide (low ≤ high))
    "previous_high must be greater than or equal to previous_low."
  require (hasLevels || !(p.brokenHigh || p.brokenLow))
    "Broken flags require previous high and low values."
  require (hasLevels || p.asOf.isNone) "Empty previous-high/low summaries must not define as_of."

/-- A validated `PreviousHighLowSummary`. -/
structure PreviousHighLowSummary extends PreviousHighLowFields where
  contract : toPreviousHighLowFields.validateContract = .ok ()
deriving DecidableEq

/-- The fields of `RetracementSummary`. -/
structure RetracementFields where
  direction : Option BinaryDirection := none
  currentRetracementPct : Option ℚ := none
  deepestRetracementPct : Option ℚ := none
  asOf : Option Instant := none
deriving DecidableEq, Repr

/-- `RetracementSummary.validate_contract`. -/
def RetracementFields.validateContract (r : RetracementFields) : Except Exn Unit :=
  match r.direction with
  | none => require (r.currentRetracementPct.isNone && r.deepestRetracementPct.isNone && r.asOf.isNone)
      "Retracement values require a direction."
  | some _ =>
      match r.currentRetracementPct, r.deepestRetracementPct with
      | some current, some deepest => do
          require (decide (0 ≤ current ∧ 0 ≤ deepest)) "Retracement percentages must be non-negative."
          require (decide (current ≤ deepest))
            "deepest_retracement_pct must be greater than or equal to current_retracement_pct."
          require r.asOf.isSome "RetracementSummary must define as_of when direction is set."
      | _, _ => .error (.valueError
          "RetracementSummary must define both current and deepest retracement values.")

/-- A validated `RetracementSummary`. -/
structure RetracementSummary extends RetracementFields where
  contract : toRetracementFields.validateContract = .ok ()
deriving DecidableEq

inductive LiquiditySide where
  | BUY_SIDE
  | SELL_SIDE
deriving DecidableEq, Repr

def LiquiditySide.text : LiquiditySide → String
  | BUY_SIDE => "BUY_SIDE"
  | SELL_SIDE => "SELL_SIDE"

/-- The fields of `LiquidityLevelSummary`. -/
structure LiquidityLevelFields where
  side : LiquiditySide
  price : ℚ
  occurredAt : Instant
  distancePips : ℚ
  wasSwept : Bool
deriving DecidableEq, Repr

/-- A validated `LiquidityLevelSummary`. -/
structure LiquidityLevelSummary extends LiquidityLevelFields where
  nonneg : 0 ≤ distancePips
deriving DecidableEq

/-- `LiquidityLevelSummary(...)`. -/
def LiquidityLevelFields.validate (l : LiquidityLevelFields) : Except Exn LiquidityLevelSummary :=
  if h : 0 ≤ l.distancePips then .ok ⟨l, h⟩
  else .error (.valueError "distance_pips must be greater than or equal to 0.")

/-- A validated `LiquidityPoolSummary`. -/
structure LiquidityPoolSummary where
  levels : List LiquidityLevelSummary := []
  size : levels.length ≤ 3 := by simp

inductive StructureKind where
  | BOS
  | CHOCH
deriving DecidableEq, Repr

/-- `StructureBreak`. -/
structure StructureBreak where
  kind : StructureKind
  direction : BinaryDirection
  level : Option ℚ
  occurredAt : Instant
  context : String
deriving DecidableEq, Repr

inductive SwingKind where
  | HIGH
  | LOW
deriving DecidableEq, Repr

/-- `SwingPointSummary`. -/
structure SwingPointSummary where
  kind : SwingKind
  level : ℚ
  occurredAt : Instant
deriving DecidableEq, Repr

/-- A validated `StructureEventSummary`. -/
structure StructureEventSummary where
  latestBreak : Option StructureBreak := none
  recentBreaks : List StructureBreak := []
  latestSwingHigh : Option SwingPointSummary := none
  latestSwingLow : Option SwingPointSummary := none
  size : recentBreaks.length ≤ 3 := by simp

/-- `SmcContextSummary`. -/
structure SmcContextSummary where
  sessions : SessionContextSummary := {}
  previousHighLow : Option PreviousHighLowSummary := none
  retracement : Option RetracementSummary := none

/-- `SmcAnalysisResult`. -/
structure SmcAnalysisResult where
  struct : StructureEventSummary := {}
  zones : ActiveZoneSummary := ⟨[], rfl⟩
  liquidity : LiquidityPoolSummary := {}
  smcContext : SmcContextSummary := {}
  orderBlockCandidates : List OrderBlockCandidate := []

/-! ### Frames of the package -/

/-- A row of a session frame: `Active == 1`, and the extremes of the session so far. -/
structure SessionRow where
  active : Bool
  high : ℚ
  low : ℚ
deriving DecidableEq, Repr

structure PreviousHighLowRow where
  previousHigh : Option ℚ
  previousLow : Option ℚ
  brokenHigh : Bool
  brokenLow : Bool
deriving DecidableEq, Repr

structure SwingRow where
  highLow : Option ℤ
  level : Option ℚ
deriving DecidableEq, Repr

/-- A row of the breaks of structure; a number that is NaN is `none`. -/
structure BreakRow where
  index : ℕ
  bos : Option ℚ
  choch : Option ℚ
  level : Option ℚ
  brokenIndex : Option ℚ
deriving DecidableEq, Repr

structure LiquidityRow where
  index : ℕ
  liquidity : Option ℚ
  level : Option ℚ
  stop : Option ℚ
  swept : Option ℚ
deriving DecidableEq, Repr

structure RetracementRow where
  direction : ℤ
  currentRetracement : ℚ
  deepestRetracement : ℚ
deriving DecidableEq, Repr

/-- `smartmoneyconcepts.smc`, with the options of the adapter. -/
structure SmcModule where
  sessions : List Candle → String → List SessionRow
  previousHighLow : List Candle → List PreviousHighLowRow
  swingHighsLows : ℕ → List Candle → List SwingRow
  bosChoch : List Candle → List SwingRow → List BreakRow
  ob : List Candle → List SwingRow → List OrderBlockRow
  liquidity : List Candle → List SwingRow → List LiquidityRow
  retracements : List Candle → List SwingRow → List RetracementRow

/-- What the package promises: a row for each candle, highs above their lows. -/
structure SmcModule.Sound (smc : SmcModule) : Prop where
  sessions : ∀ candles name, (smc.sessions candles name).length = candles.length
  sessionBounds : ∀ candles name, ∀ row ∈ smc.sessions candles name, row.active = true → row.low ≤ row.high
  previousHighLow : ∀ candles, (smc.previousHighLow candles).length = candles.length
  previousBounds : ∀ candles, ∀ row ∈ smc.previousHighLow candles, ∀ high ∈ row.previousHigh,
    ∀ low ∈ row.previousLow, low ≤ high
  swings : ∀ n candles, (smc.swingHighsLows n candles).length = candles.length
  breaks : ∀ candles swings, ∀ row ∈ smc.bosChoch candles swings, row.index < candles.length
  orderBlocks : ∀ candles swings, ∀ row ∈ smc.ob candles swings, row.index < candles.length
  liquidity : ∀ candles swings, ∀ row ∈ smc.liquidity candles swings, row.index < candles.length
  retracements : ∀ candles swings, (smc.retracements candles swings).length = candles.length

/-! ### Sessions -/

/-- `frame.iloc[index]`. -/
def rowAt {ρ : Type} (frame : List ρ) (index : ℕ) : Except Exn ρ :=
  match frame[index]? with
  | some row => .ok row
  | none => .error (.indexError "single positional indexer is out-of-bounds")

/-- `frame.iloc[-1]`. -/
def lastRow {ρ : Type} (frame : List ρ) : Except Exn ρ :=
  match frame.getLast? with
  | some row => .ok row
  | none => .error (.indexError "single positional indexer is out-of-bounds")

/-- `active_series.iloc[index] == 1`. -/
def activeAt (sessionFrame : List SessionRow) (index : ℕ) : Bool :=
  (sessionFrame[index]?).any SessionRow.active

/-- `while start_index > 0 and active_series.iloc[start_index - 1] == 1: start_index -= 1`. -/
def windowStart (active : ℕ → Bool) : ℕ → ℕ
  | 0 => 0
  | n + 1 => if active n then windowStart active n else n + 1

/-- `"BULLISH" if value > 0 else "BEARISH"`. -/
def directionOf (value : ℚ) : BinaryDirection := if 0 < value then .BULLISH else .BEARISH

/-- An index of the package, where it points at a closed candle. -/
def inside (closed : List ClosedRow) (index : Option ℚ) : Option ℕ :=
  (index.map truncate).bind fun index =>
    if 0 ≤ index ∧ index < closed.length then some index.toNat else none

/-- The body of the inner loop of `_build_structure_summary`. -/
def breakOf (closed : List ClosedRow) (row : BreakRow) (kind : StructureKind) (value : Option ℚ) :
    Except Exn (Option StructureBreak) :=
  match value, row.brokenIndex with
  | some value, some brokenIndex => do
      let occurredAt ← timeAt closed ((inside closed (some brokenIndex)).getD row.index)
      let originTime ← timeAt closed row.index
      return some {
        kind
        direction := directionOf value
        level := row.level
        occurredAt
        context := "origin_time=" ++ isoformat originTime }
  | _, _ => return none

def breaksOfRow (closed : List ClosedRow) (row : BreakRow) : Except Exn (List StructureBreak) := do
  let bos ← breakOf closed row .BOS row.bos
  let choch ← breakOf closed row .CHOCH row.choch
  return [bos, choch].reduceOption

/-- `StructureEventSummary(...)`. -/
def StructureEventSummary.validate (latestBreak : Option StructureBreak) (recentBreaks : List StructureBreak)
    (latestSwingHigh latestSwingLow : Option SwingPointSummary) : Except Exn StructureEventSummary :=
  if h : recentBreaks.length ≤ 3 then
    .ok ⟨latestBreak, recentBreaks, latestSwingHigh, latestSwingLow, h⟩
  else .error (.valueError "StructureEventSummary may contain at most 3 recent breaks.")

/-- The body of the loop of `_build_liquidity_summary`. -/
def levelOfRow (pipSize : ℚ) (closed : List ClosedRow) (lastClose : ℚ) (row : LiquidityRow) :
    Except Exn (Option LiquidityLevelSummary) :=
  match row.liquidity, row.level with
  | some value, some price => do
      let occurredAt ← timeAt closed ((inside closed row.stop).getD row.index)
      let level ← LiquidityLevelFields.validate {
        side := if 0 < value then .BUY_SIDE else .SELL_SIDE
        price
        occurredAt
        distancePips := |lastClose - price| / pipSize
        wasSwept := (inside closed row.swept).any fun index => decide (0 < index) }
      return some level
  | _, _ => return none

/-- The key of `levels.sort`. -/
def LiquidityLevelSummary.sortKey (level : LiquidityLevelSummary) : ℚ ×ₗ ℤ ×ₗ String :=
  toLex (level.distancePips, toLex (-level.occurredAt, level.side.text))

/-- `LiquidityPoolSummary(...)`. -/
def LiquidityPoolSummary.validate (levels : List LiquidityLevelSummary) : Except Exn LiquidityPoolSummary :=
  if h : levels.length ≤ 3 then .ok ⟨levels, h⟩
  else .error (.valueError "LiquidityPoolSummary may contain at most 3 levels.")

/-- `SmcAdapter`. -/
structure SmcAdapter where
  swingLength : ℕ := 50
  recordId : String → String → BinaryDirection → Instant → ℚ → ℚ → String

/-- The columns of closed candles that the adapter reads. -/
def closedRows (bars : List Candle) : List ClosedRow :=
  bars.map fun candle => { time := candle.time, close := candle.close }

/-- The time of a closed candle. -/
def KnownTime (closed : List ClosedRow) (t : Instant) : Prop := ∃ row ∈ closed, row.time = t

section rows

variable {ρ : Type} {frame : List ρ} {closed : List ClosedRow} {index : ℕ} {t : Instant}

theorem rowAt_of_lt (h : index < frame.length) : rowAt frame index = .ok frame[index] := by
  rw [rowAt, List.getElem?_eq_getElem h]

theorem exists_lastRow (h : frame ≠ []) : ∃ row ∈ frame, lastRow frame = .ok row := by
  refine ⟨frame.getLast h, List.getLast_mem h, ?_⟩
  rw [lastRow, List.getLast?_eq_some_getLast h]

end rows

/-- `kept` are the first `n` of some items, in their order. -/
structure FirstOf {α : Type} (n : ℕ) (rel : α → α → Prop) (items kept : List α) : Prop where
  length : kept.length = min n items.length
  ordered : kept.Pairwise rel
  before : ∃ dropped, (kept ++ dropped).Perm items ∧ ∀ a ∈ kept, ∀ b ∈ dropped, rel a b

theorem FirstOf.subset {α : Type} {n : ℕ} {rel : α → α → Prop} {items kept : List α}
    (h : FirstOf n rel items kept) : ∀ a ∈ kept, a ∈ items := by
  obtain ⟨dropped, hperm, -⟩ := h.before
  exact fun a ha => hperm.subset (List.mem_append_left _ ha)

theorem FirstOf.imp {α : Type} {n : ℕ} {rel rel' : α → α → Prop} {items kept : List α}
    (h : FirstOf n rel items kept) (himp : ∀ a b, rel a b → rel' a b) : FirstOf n rel' items kept := by
  obtain ⟨dropped, hperm, hbefore⟩ := h.before
  exact ⟨h.length, h.ordered.imp fun hab => himp _ _ hab, dropped, hperm,
    fun a ha b hb => himp a b (hbefore a ha b hb)⟩

/-! ### Sessions -/

/-- A summary shows the last run of active bars of a session, if it has one. -/
def SessionSummaryFields.LastRun (sessionFrame : List SessionRow) (closed : List ClosedRow)
    (s : SessionSummaryFields) : Prop :=
  ((∀ i, activeAt sessionFrame i = false) ∧ s.windowStart = none ∧ s.windowEnd = none ∧
      s.sessionHigh = none ∧ s.sessionLow = none ∧ s.isActive = false) ∨
    ∃ start stop first last row, start ≤ stop ∧
      (∀ i, start ≤ i → i ≤ stop → activeAt sessionFrame i = true) ∧
      (start = 0 ∨ activeAt sessionFrame (start - 1) = false) ∧
      (∀ i, stop < i → activeAt sessionFrame i = false) ∧
      closed[start]? = some first ∧ closed[stop]? = some last ∧
      s.windowStart = some first.time ∧ s.windowEnd = some last.time ∧
      sessionFrame[stop]? = some row ∧ s.sessionHigh = some row.high ∧ s.sessionLow = some row.low ∧
      (s.isActive = true ↔ stop + 1 = closed.length)

section sessions

variable {name : SessionName} {sessionFrame : List SessionRow} {closed : List ClosedRow}
  {lastTime : Instant}

def SessionSummaryFields.times (s : SessionSummaryFields) : List Instant :=
  s.windowStart.toList ++ s.windowEnd.toList ++ [s.lastEvaluatedAt]

theorem SessionSummaryFields.LastRun.known {s : SessionSummaryFields} (h : s.LastRun sessionFrame closed)
    (hlast : KnownTime closed s.lastEvaluatedAt) : ∀ t ∈ s.times, KnownTime closed t := by
  rw [SessionSummaryFields.times]
  rcases h with ⟨-, hstart, hend, -⟩ |
    ⟨start, stop, first, last, row, -, -, -, -, hfirst, hlastRow, hstart, hend, -⟩
  · rw [hstart, hend]
    exact List.forall_mem_singleton.mpr hlast
  · rw [hstart, hend]
    rintro t ht
    simp only [Option.toList_some, List.cons_append, List.nil_append, List.mem_cons, List.not_mem_nil,
      or_false] at ht
    rcases ht with rfl | rfl | rfl
    · exact ⟨first, List.mem_of_getElem? hfirst, rfl⟩
    · exact ⟨last, List.mem_of_getElem? hlastRow, rfl⟩
    · exact hlast

variable {smc : SmcModule} {bars : List Candle}

end sessions

/-! ### Previous highs and lows, retracement -/

section parts

variable {smc : SmcModule} {bars : List Candle} {closed : List ClosedRow}

/-- What is shown of the previous high and low: both or nothing. -/
def PreviousHighLowRow.shown (row : PreviousHighLowRow) (asOf : Instant) : Option PreviousHighLowFields :=
  row.previousHigh.bind fun high => row.previousLow.map fun low =>
    { previousHigh := some high
      previousLow := some low
      brokenHigh := row.brokenHigh
      brokenLow := row.brokenLow
      asOf := some asOf }

/-- What is shown of a retracement, unless it has no direction. -/
def RetracementRow.shown (row : RetracementRow) (asOf : Instant) : Option RetracementFields :=
  if row.direction = 0 then none
  else some {
    direction := some (if 0 < row.direction then .BULLISH else .BEARISH)
    currentRetracementPct := some |row.currentRetracement|
    deepestRetracementPct := some (max |row.currentRetracement| |row.deepestRetracement|)
    asOf := some asOf }

/-- The row is a swing in this direction. -/
def swingsAt (frame : List SwingRow) (directionValue : ℤ) (index : ℕ) : Prop :=
  (frame[index]?).bind SwingRow.highLow = some directionValue

instance (frame : List SwingRow) (directionValue : ℤ) (index : ℕ) :
    Decidable (swingsAt frame directionValue index) := inferInstanceAs (Decidable (_ = _))

/-- The point is the last swing of the frame in this direction, if that has a level. -/
def LatestSwing (closed : List ClosedRow) (frame : List SwingRow) (directionValue : ℤ) (kind : SwingKind)
    (point : Option SwingPointSummary) : Prop :=
  ((∀ index, ¬ swingsAt frame directionValue index) ∧ point = none) ∨
    ∃ index row bar, swingsAt frame directionValue index ∧
      (∀ later, index < later → ¬ swingsAt frame directionValue later) ∧
      frame[index]? = some row ∧ closed[index]? = some bar ∧
      point = row.level.map fun level => { kind, level, occurredAt := bar.time }

theorem LatestSwing.known {frame : List SwingRow} {directionValue : ℤ} {kind : SwingKind}
    {point : Option SwingPointSummary} (h : LatestSwing closed frame directionValue kind point) :
    ∀ p ∈ point, KnownTime closed p.occurredAt := by
  rintro p hp
  rcases h with ⟨-, rfl⟩ | ⟨index, row, bar, -, -, -, hbar, rfl⟩
  · cases hp
  · obtain ⟨level, -, rfl⟩ := Option.map_eq_some_iff.mp hp
    exact ⟨bar, List.mem_of_getElem? hbar, rfl⟩

def OrderBlockCandidate.times (c : OrderBlockCandidate) : List Instant := c.createdAt :: c.mitigatedAt.toList

variable {recordId : String → String → BinaryDirection → Instant → ℚ → ℚ → String}
  {instrument timeframe : String}

/-- The zones are the first ten candidates of each status, in their order. -/
def ActiveZoneSummary.ShowsFirst (zones : ActiveZoneSummary) (candidates : List OrderBlockCandidate) : Prop :=
  ∃ kept, kept.Sublist candidates ∧
    (∀ status : OrderBlockStatus, kept.filter (fun c => decide (c.status = status)) =
      (candidates.filter fun c => decide (c.status = status)).take 10) ∧
    List.Forall₂ (fun c block => summarizeCandidate c = .ok block) kept zones.orderBlocks

theorem ActiveZoneSummary.ShowsFirst.known {zones : ActiveZoneSummary} {candidates : List OrderBlockCandidate}
    (h : zones.ShowsFirst candidates) (hcandidates : ∀ c ∈ candidates, ∀ t ∈ c.times, KnownTime closed t) :
    ∀ block ∈ zones.orderBlocks, ∀ t ∈ block.createdAt, KnownTime closed t := by
  obtain ⟨kept, hsub, -, hblocks⟩ := h
  intro block hblock t ht
  obtain ⟨c, hc, hsummary⟩ := mem_of_mapM (mapM_eq_ok.mpr hblocks) hblock
  obtain ⟨spec, -, hsummary⟩ := bind_eq_ok.mp hsummary
  obtain ⟨contract, rfl⟩ := validated_eq_ok.mp hsummary
  obtain rfl := Option.some.inj ht
  exact hcandidates c (hsub.subset hc) _ List.mem_cons_self

end parts

/-! ### The analysis -/

def SmcAnalysisResult.times (r : SmcAnalysisResult) : List Instant :=
  r.zones.orderBlocks.flatMap (fun block => block.createdAt.toList) ++
  (r.struct.latestBreak.toList ++ r.struct.recentBreaks).map StructureBreak.occurredAt ++
    (r.struct.latestSwingHigh.toList ++ r.struct.latestSwingLow.toList).map SwingPointSummary.occurredAt ++
    r.liquidity.levels.map (fun l => l.occurredAt) ++
    r.smcContext.sessions.sessions.flatMap (fun s => s.times) ++
    (r.smcContext.previousHighLow.bind fun p => p.asOf).toList ++
    (r.smcContext.retracement.bind fun p => p.asOf).toList ++
    r.orderBlockCandidates.flatMap OrderBlockCandidate.times

/-- What an analysis shows of the frames of the package that need no swings. -/
structure SmcContextSummary.Shows (smc : SmcModule) (bars : List Candle) (last : ClosedRow)
    (context : SmcContextSummary) : Prop where
  sessions : List.Forall₂ (fun (entry : SessionName × String) (s : SessionSummary) =>
    s.name = entry.1 ∧ s.lastEvaluatedAt = last.time ∧
      s.LastRun (smc.sessions bars entry.2) (closedRows bars)) sessionNames context.sessions.sessions
  previousHighLow : ∃ row, lastRow (smc.previousHighLow bars) = .ok row ∧
    context.previousHighLow.map PreviousHighLowSummary.toPreviousHighLowFields = row.shown last.time

/-- What it shows of the frames that are computed from the swings. -/
structure SmcAnalysisResult.ShowsSwings (smc : SmcModule) (adapter : SmcAdapter) (spec : InstrumentSpec)
    (instrument timeframe : String) (bars : List Candle) (last : ClosedRow) (swingFrame : List SwingRow)
    (r : SmcAnalysisResult) : Prop where
  latestSwingHigh : LatestSwing (closedRows bars) swingFrame 1 .HIGH r.struct.latestSwingHigh
  latestSwingLow : LatestSwing (closedRows bars) swingFrame (-1) .LOW r.struct.latestSwingLow
  breaks : ∃ found, (smc.bosChoch bars swingFrame).mapM (breaksOfRow (closedRows bars)) = .ok found ∧
    FirstOf 3 (fun a b => b.occurredAt ≤ a.occurredAt) found.flatten r.struct.recentBreaks
  levels : ∃ found, (smc.liquidity bars swingFrame).mapM
      (levelOfRow spec.pipSize (closedRows bars) last.close) = .ok found ∧
    FirstOf 3 (fun a b => a.distancePips ≤ b.distancePips) found.reduceOption r.liquidity.levels
  candidates : ∃ found, (smc.ob bars swingFrame).mapM (candidateOfRow adapter.recordId instrument timeframe
      (closedRows bars) last.close) = .ok found ∧
    r.orderBlockCandidates.Perm found.reduceOption ∧
    r.orderBlockCandidates.Pairwise fun a b => a.sortKey spec.pipSize ≤ b.sortKey spec.pipSize
  zones : r.zones.ShowsFirst r.orderBlockCandidates
  retracement : ∃ row, lastRow (smc.retracements bars swingFrame) = .ok row ∧
    r.smcContext.retracement.map RetracementSummary.toRetracementFields = row.shown last.time

/-- Nothing that is computed from the swings. -/
structure SmcAnalysisResult.ShowsNoSwings (r : SmcAnalysisResult) : Prop where
  struct : r.struct = {}
  liquidity : r.liquidity = {}
  zones : r.zones.orderBlocks = []
  candidates : r.orderBlockCandidates = []
  retracement : r.smcContext.retracement = none

/-- What an analysis shows of the frames of the package: nothing without a closed candle, and nothing that is
computed from the swings with too few. -/
structure SmcAnalysisResult.Shows (smc : SmcModule) (adapter : SmcAdapter) (spec : InstrumentSpec)
    (instrument timeframe : String) (bars : List Candle) (r : SmcAnalysisResult) : Prop where
  latestBreak : r.struct.latestBreak = r.struct.recentBreaks.head?
  nothing : bars = [] → r.smcContext.sessions.sessions = [] ∧ r.smcContext.previousHighLow = none
  context : ∀ last, lastRow (closedRows bars) = .ok last → r.smcContext.Shows smc bars last
  short : bars.length < adapter.swingLength * 2 + 1 → r.ShowsNoSwings
  long : adapter.swingLength * 2 + 1 ≤ bars.length → ∀ last, lastRow (closedRows bars) = .ok last →
    r.ShowsSwings smc adapter spec instrument timeframe bars last
      (smc.swingHighsLows adapter.swingLength bars)
  known : ∀ t ∈ r.times, ∃ bar ∈ bars, bar.time = t

section analysis

variable {bars : List Candle} {t : Instant}

/-- A package that sees one session all day, a break, an order block and a level at every bar. -/
def busyModule : SmcModule where
  sessions bars _ := bars.map fun _ => ⟨true, 2, 1⟩
  previousHighLow bars := bars.map fun _ => ⟨some 2, some 1, false, true⟩
  swingHighsLows _ bars := bars.map fun _ => ⟨some 1, some 2⟩
  bosChoch bars _ := (List.range bars.length).map fun i => ⟨i, some 1, none, some 2, some i⟩
  ob bars _ := (List.range bars.length).map fun i => ⟨i, some 1, some 2, some 1, none⟩
  liquidity bars _ := (List.range bars.length).map fun i => ⟨i, some 1, some i, none, none⟩
  retracements bars _ := bars.map fun _ => ⟨1, -3, 2⟩

end analysis

end OandaV3
