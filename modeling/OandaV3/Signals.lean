import OandaV3.IndicatorAlertEngine
import OandaV3.Mirrors
import OandaV3.SmcAdapter

/-! # Signals

`.worktrees/scan-force/smc/sfp.py` and `turtle_soup.py` look for a false breakout in the last closed bar: it
goes through a level, the last swing or the extreme of the bars before, and closes back.  Their events become
part of a snapshot, with the summaries of the SMC adapter; the mirror of a snapshot has every price negated and
both sides swapped.

* `detectSfp_shape`, `detectTurtleSoup_shape`: the close of an event is on the inner side of its level, and its
  extreme beyond it.
* `detectSfpClosed_mirror`, `detectTurtleSoupBar_mirror`: both sides are treated alike. -/

namespace OandaV3

open Fallible Mirrors Mirrors.Mirror

/-! ### False breakouts -/

/-- A false breakout: `SFPResult`, when it is detected.  One that is not has no fields. -/
structure SweepEvent where
  direction : BinaryDirection
  referenceLevel : ℚ
  referenceTime : Instant
  sweepPrice : ℚ
  closePrice : ℚ
  occurredAt : Instant
deriving DecidableEq, Repr

/-- `TurtleSoupResult`, when it is detected. -/
structure TurtleSoupEvent extends SweepEvent where
  lookbackBars : ℕ
deriving DecidableEq, Repr

/-- The bar goes through the level on a side, and closes back. -/
def Candle.sweeps (bar : Candle) (level : ℚ) : BinaryDirection → Bool
  | .BEARISH => decide (level < bar.high ∧ bar.close < level)
  | .BULLISH => decide (bar.low < level ∧ level < bar.close)

/-- The extreme of the bar on the side of a false breakout. -/
def Candle.sweepPrice (bar : Candle) : BinaryDirection → ℚ
  | .BEARISH => bar.high
  | .BULLISH => bar.low

def Candle.sweepEvent (bar : Candle) (direction : BinaryDirection) (level : ℚ) (time : Instant) :
    SweepEvent where
  direction
  referenceLevel := level
  referenceTime := time
  sweepPrice := bar.sweepPrice direction
  closePrice := bar.close
  occurredAt := bar.time

/-- What is detected on one side only. -/
def eitherSide {α : Type} : Option α → Option α → Option α
  | some event, none => some event
  | none, some event => some event
  | _, _ => none

/-! ### Swing failures -/

/-- `_latest_swing`. -/
def latestSwing (swingFrame : List SwingRow) (directionValue : ℤ) (beforeIndex : ℕ) : Option (ℕ × ℚ) :=
  let matching := (List.range swingFrame.length).filter fun index =>
    decide ((swingFrame[index]?).bind SwingRow.highLow = some directionValue)
  matching.reverse.findSome? fun index =>
    if beforeIndex ≤ index then none
    else ((swingFrame[index]?).bind SwingRow.level).map fun level => (index, level)

/-- The value of a swing in the frame: a high may fail to the downside. -/
def swingValue : BinaryDirection → ℤ
  | .BEARISH => 1
  | .BULLISH => -1

/-- One side of `detect_sfp`. -/
def sfpSide (closed : List Candle) (swingFrame : List SwingRow) (last : Candle) (direction : BinaryDirection) :
    Except Exn (Option SweepEvent) :=
  match latestSwing swingFrame (swingValue direction) (closed.length - 1) with
  | none => .ok none
  | some (index, level) =>
      if last.sweeps level direction then do
        let row ← rowAt closed index
        return some (last.sweepEvent direction level row.time)
      else .ok none

/-- `detect_sfp`, on the closed bars and their swings. -/
def detectSfpClosed (closed : List Candle) (swingFrame : List SwingRow) : Except Exn (Option SweepEvent) := do
  let last ← lastRow closed
  let bearish ← sfpSide closed swingFrame last .BEARISH
  let bullish ← sfpSide closed swingFrame last .BULLISH
  return eitherSide bullish bearish

/-- `detect_sfp`. -/
def detectSfp (smc : SmcModule) (candles : List Candle) (tf : Timeframe) (nowUtc : Instant)
    (swingLength : ℤ) : Except Exn (Option SweepEvent) :=
  if swingLength ≤ 0 then .error (.valueError "swing_length must be positive.")
  else
    let closed := trimToClosed tf nowUtc candles
    if closed.length < swingLength.toNat * 2 + 2 then .ok none
    else detectSfpClosed closed (smc.swingHighsLows swingLength.toNat closed)

/-! ### Turtle soup -/

/-- `_latest_reference_extreme`. -/
def latestReferenceExtreme (extreme : List ℚ → Option ℚ) (column : Candle → ℚ) (window : List Candle) :
    Except Exn (ℚ × Instant) :=
  match extreme (window.map column) with
  | none => .error (.valueError "max() arg is an empty sequence")
  | some target => do
      let row ← lastRow (window.filter fun row => column row = target)
      return (target, row.time)

/-- The event of a bar, given the references: their prices and times. -/
def turtleSoupEvent (priorHigh priorLow : ℚ × Instant) (lastBar : Candle) : Option SweepEvent :=
  let bearish := lastBar.sweeps priorHigh.1 .BEARISH && decide (priorLow.1 ≤ lastBar.close)
  let bullish := lastBar.sweeps priorLow.1 .BULLISH && decide (lastBar.close ≤ priorHigh.1)
  eitherSide
    (if bullish then some (lastBar.sweepEvent .BULLISH priorLow.1 priorLow.2) else none)
    (if bearish then some (lastBar.sweepEvent .BEARISH priorHigh.1 priorHigh.2) else none)

/-- `detect_turtle_soup`, on the window and the last bar. -/
def detectTurtleSoupBar (priorWindow : List Candle) (lastBar : Candle) : Except Exn (Option SweepEvent) := do
  let priorHigh ← latestReferenceExtreme List.max? Candle.high priorWindow
  let priorLow ← latestReferenceExtreme List.min? Candle.low priorWindow
  return turtleSoupEvent priorHigh priorLow lastBar

/-- `detect_turtle_soup`. -/
def detectTurtleSoup (candles : List Candle) (tf : Timeframe) (nowUtc : Instant) (lookbackBars : ℤ) :
    Except Exn (Option TurtleSoupEvent) :=
  if lookbackBars ≤ 0 then .error (.valueError "lookback_bars must be positive.")
  else
    let closed := trimToClosed tf nowUtc candles
    let count := lookbackBars.toNat
    if closed.length < count + 1 then .ok none
    else do
      let lastBar ← lastRow closed
      let event ← detectTurtleSoupBar (closed.drop (closed.length - (count + 1))).dropLast lastBar
      return event.map fun event => ⟨event, count⟩

/-! ### What an event shows -/

/-- The close is back on the inner side of the level, and the extreme is beyond it. -/
def SweepEvent.Shaped (event : SweepEvent) : Prop :=
  match event.direction with
  | .BULLISH => event.sweepPrice < event.referenceLevel ∧ event.referenceLevel < event.closePrice
  | .BEARISH => event.closePrice < event.referenceLevel ∧ event.referenceLevel < event.sweepPrice

def SweepEvent.Positive (event : SweepEvent) : Prop :=
  0 < event.referenceLevel ∧ 0 < event.sweepPrice ∧ 0 < event.closePrice

theorem eitherSide_eq_some {α : Type} {a b : Option α} {event : α} (h : eitherSide a b = some event) :
    (a = some event ∧ b = none) ∨ (a = none ∧ b = some event) := by
  cases a with
  | none =>
      cases b with
      | none => cases h
      | some b => exact .inr ⟨rfl, h⟩
  | some a =>
      cases b with
      | none => exact .inl ⟨h, rfl⟩
      | some b => cases h

section shape

variable {bar last : Candle} {level : ℚ} {direction : BinaryDirection} {time : Instant} {event : SweepEvent}
  {closed : List Candle}

theorem Candle.shaped_sweepEvent (h : bar.sweeps level direction = true) :
    (bar.sweepEvent direction level time).Shaped := by
  cases direction with
  | BULLISH =>
      simp only [Candle.sweeps, decide_eq_true_eq] at h
      exact h
  | BEARISH =>
      simp only [Candle.sweeps, decide_eq_true_eq] at h
      exact h.symm

theorem mem_of_lastRow {ρ : Type} {frame : List ρ} {row : ρ} (h : lastRow frame = .ok row) : row ∈ frame := by
  unfold lastRow at h
  split at h
  case h_1 found hfound =>
    obtain rfl := Except.ok.inj h
    exact List.mem_of_getLast? hfound
  case h_2 => cases h

theorem mem_of_rowAt {ρ : Type} {frame : List ρ} {index : ℕ} {row : ρ} (h : rowAt frame index = .ok row) :
    row ∈ frame := by
  unfold rowAt at h
  split at h
  case h_1 found hfound =>
    obtain rfl := Except.ok.inj h
    exact List.mem_of_getElem? hfound
  case h_2 => cases h

theorem sfpSide_ok {swingFrame : List SwingRow} (h : sfpSide closed swingFrame last direction = .ok (some event)) :
    event.Shaped ∧ event.occurredAt = last.time ∧ ∃ row ∈ closed, event.referenceTime = row.time := by
  unfold sfpSide at h
  split at h
  case h_1 => cases h
  case h_2 index level _ =>
    split_ifs at h with hsweeps
    · obtain ⟨row, hrow, hevent⟩ := bind_eq_ok.mp h
      obtain rfl := Option.some.inj (Except.ok.inj hevent)
      exact ⟨Candle.shaped_sweepEvent hsweeps, rfl, row, mem_of_rowAt hrow, rfl⟩
    · cases h

theorem latestSwing_lt {swingFrame : List SwingRow} {value : ℤ} {beforeIndex : ℕ} {found : ℕ × ℚ}
    (h : latestSwing swingFrame value beforeIndex = some found) : found.1 < beforeIndex := by
  unfold latestSwing at h
  obtain ⟨index, -, hindex⟩ := List.exists_of_findSome?_eq_some h
  split_ifs at hindex with hbefore
  obtain ⟨level, -, rfl⟩ := Option.map_eq_some_iff.mp hindex
  exact not_le.mp hbefore

theorem exists_sfpSide (closed : List Candle) (swingFrame : List SwingRow) (last : Candle) (direction : BinaryDirection) :
    ∃ event, sfpSide closed swingFrame last direction = .ok event := by
  unfold sfpSide
  split
  case h_1 => exact ⟨none, rfl⟩
  case h_2 index level hfound =>
    split_ifs
    · have hlt : index < closed.length := (latestSwing_lt hfound).trans_le (Nat.sub_le ..)
      rw [rowAt_of_lt hlt]
      exact ⟨_, rfl⟩
    · exact ⟨none, rfl⟩

/-- The event of a swing failure is one of the last bar, and its level that of an earlier one. -/
theorem detectSfp_shape {smc : SmcModule} {candles : List Candle} {tf : Timeframe} {nowUtc : Instant}
    {swingLength : ℤ} (h : detectSfp smc candles tf nowUtc swingLength = .ok (some event)) :
    event.Shaped ∧ (∃ row ∈ trimToClosed tf nowUtc candles, event.occurredAt = row.time) ∧
      ∃ row ∈ trimToClosed tf nowUtc candles, event.referenceTime = row.time := by
  simp only [detectSfp] at h
  split_ifs at h
  · cases h
  · obtain ⟨last, hlast, h⟩ := bind_eq_ok.mp h
    obtain ⟨bearish, hbearish, h⟩ := bind_eq_ok.mp h
    obtain ⟨bullish, hbullish, h⟩ := bind_eq_ok.mp h
    obtain ⟨rfl, -⟩ | ⟨-, rfl⟩ := eitherSide_eq_some (Except.ok.inj h)
    · obtain ⟨hshaped, htime, hreference⟩ := sfpSide_ok hbullish
      exact ⟨hshaped, ⟨last, mem_of_lastRow hlast, htime⟩, hreference⟩
    · obtain ⟨hshaped, htime, hreference⟩ := sfpSide_ok hbearish
      exact ⟨hshaped, ⟨last, mem_of_lastRow hlast, htime⟩, hreference⟩

theorem latestReferenceExtreme_ok {extreme : List ℚ → Option ℚ} {column : Candle → ℚ} {window : List Candle}
    {found : ℚ × Instant} (h : latestReferenceExtreme extreme column window = .ok found) :
    extreme (window.map column) = some found.1 ∧ ∃ row ∈ window, column row = found.1 ∧ row.time = found.2 := by
  unfold latestReferenceExtreme at h
  split at h
  case h_1 => cases h
  case h_2 target htarget =>
    obtain ⟨row, hrow, hresult⟩ := bind_eq_ok.mp h
    obtain rfl := Except.ok.inj hresult
    obtain ⟨hmem, hcolumn⟩ := List.mem_filter.mp (mem_of_lastRow hrow)
    exact ⟨htarget, row, hmem, of_decide_eq_true hcolumn, rfl⟩

theorem exists_latestReferenceExtreme {extreme : List ℚ → Option ℚ} {column : Candle → ℚ}
    {window : List Candle} (h : ∃ target ∈ window.map column, extreme (window.map column) = some target) :
    ∃ found, latestReferenceExtreme extreme column window = .ok found := by
  obtain ⟨target, htarget, hextreme⟩ := h
  obtain ⟨row, hrow, hcolumn⟩ := List.mem_map.mp htarget
  have hne : (window.filter fun row => column row = target) ≠ [] :=
    List.ne_nil_of_mem (List.mem_filter.mpr ⟨hrow, decide_eq_true hcolumn⟩)
  obtain ⟨last, -, hlast⟩ := exists_lastRow hne
  refine ⟨(target, last.time), ?_⟩
  unfold latestReferenceExtreme
  simp only [hextreme, hlast]
  rfl

theorem exists_latestHigh {window : List Candle} (h : window ≠ []) :
    ∃ found, latestReferenceExtreme List.max? Candle.high window = .ok found := by
  have hne : window.map Candle.high ≠ [] := List.map_eq_nil_iff.not.mpr h
  obtain ⟨target, htarget⟩ := Option.isSome_iff_exists.mp (List.isSome_max?_of_ne_nil hne)
  exact exists_latestReferenceExtreme ⟨target, List.max?_mem htarget, htarget⟩

theorem exists_latestLow {window : List Candle} (h : window ≠ []) :
    ∃ found, latestReferenceExtreme List.min? Candle.low window = .ok found := by
  have hne : window.map Candle.low ≠ [] := List.map_eq_nil_iff.not.mpr h
  obtain ⟨target, htarget⟩ := Option.isSome_iff_exists.mp (List.isSome_min?_of_ne_nil hne)
  exact exists_latestReferenceExtreme ⟨target, List.min?_mem htarget, htarget⟩

theorem detectTurtleSoupBar_ok {priorWindow : List Candle} {lastBar : Candle}
    (h : detectTurtleSoupBar priorWindow lastBar = .ok (some event)) :
    event.Shaped ∧ event.occurredAt = lastBar.time ∧ ∃ row ∈ priorWindow, event.referenceTime = row.time := by
  obtain ⟨priorHigh, hhigh, h⟩ := bind_eq_ok.mp h
  obtain ⟨priorLow, hlow, h⟩ := bind_eq_ok.mp h
  obtain ⟨-, high, hhighMem, -, hhighTime⟩ := latestReferenceExtreme_ok hhigh
  obtain ⟨-, low, hlowMem, -, hlowTime⟩ := latestReferenceExtreme_ok hlow
  obtain ⟨hevent, -⟩ | ⟨-, hevent⟩ := eitherSide_eq_some (Except.ok.inj h)
  · split_ifs at hevent with hbullish
    obtain rfl := Option.some.inj hevent
    exact ⟨Candle.shaped_sweepEvent (Bool.and_eq_true_iff.mp hbullish).1, rfl, low, hlowMem,
      hlowTime.symm⟩
  · split_ifs at hevent with hbearish
    obtain rfl := Option.some.inj hevent
    exact ⟨Candle.shaped_sweepEvent (Bool.and_eq_true_iff.mp hbearish).1, rfl, high, hhighMem,
      hhighTime.symm⟩

/-- The event of a turtle soup is one of the last bar, and its level that of an earlier one. -/
theorem detectTurtleSoup_shape {candles : List Candle} {tf : Timeframe} {nowUtc : Instant} {lookbackBars : ℤ}
    {event : TurtleSoupEvent} (h : detectTurtleSoup candles tf nowUtc lookbackBars = .ok (some event)) :
    event.Shaped ∧ (∃ row ∈ trimToClosed tf nowUtc candles, event.occurredAt = row.time) ∧
      ∃ row ∈ trimToClosed tf nowUtc candles, event.referenceTime = row.time := by
  simp only [detectTurtleSoup] at h
  split_ifs at h
  · cases h
  · obtain ⟨lastBar, hlast, h⟩ := bind_eq_ok.mp h
    obtain ⟨found, hfound, h⟩ := bind_eq_ok.mp h
    obtain ⟨event', rfl, rfl⟩ := Option.map_eq_some_iff.mp (Except.ok.inj h)
    obtain ⟨hshaped, htime, row, hrow, hreference⟩ := detectTurtleSoupBar_ok hfound
    exact ⟨hshaped, ⟨lastBar, mem_of_lastRow hlast, htime⟩, row,
      List.mem_of_mem_drop (List.mem_of_mem_dropLast hrow), hreference⟩

end shape

/-! ### Both sides -/

instance : Mirror ℚ := Mirror.ofNeg

instance : Mirror BinaryDirection where
  mirror
    | .BULLISH => .BEARISH
    | .BEARISH => .BULLISH
  mirror_mirror direction := by cases direction <;> rfl

instance : Mirror Candle where
  mirror bar :=
    { bar with openPrice := -bar.openPrice, high := -bar.low, low := -bar.high, close := -bar.close }
  mirror_mirror bar := by simp

instance : Mirror SweepEvent where
  mirror event :=
    { event with
      direction := mirror event.direction
      referenceLevel := -event.referenceLevel
      sweepPrice := -event.sweepPrice
      closePrice := -event.closePrice }
  mirror_mirror event := by simp

instance : Mirror TurtleSoupEvent where
  mirror event := { event with toSweepEvent := mirror event.toSweepEvent }
  mirror_mirror event := by simp

theorem mirror_rat (q : ℚ) : mirror q = -q := rfl

section mirror

variable (bar : Candle) (level : ℚ) (time : Instant) (window : List Candle)

theorem sweeps_mirror (direction : BinaryDirection) :
    (mirror bar).sweeps (-level) (mirror direction) = bar.sweeps level direction := by
  cases direction with
  | BULLISH =>
      refine decide_eq_decide.mpr ?_
      exact and_congr neg_lt_neg_iff neg_lt_neg_iff
  | BEARISH =>
      refine decide_eq_decide.mpr ?_
      exact and_congr neg_lt_neg_iff neg_lt_neg_iff

theorem sweepEvent_mirror (direction : BinaryDirection) :
    (mirror bar).sweepEvent (mirror direction) (-level) time = mirror (bar.sweepEvent direction level time) := by
  cases direction <;> rfl

theorem eitherSide_mirror {α : Type} [Mirror α] (a b : Option α) :
    eitherSide (mirror a) (mirror b) = mirror (eitherSide b a) := by
  cases a <;> cases b <;> rfl

theorem lastRow_mirror : lastRow (mirror window) = (lastRow window).map mirror := by
  unfold lastRow
  rw [show (mirror window).getLast? = window.getLast?.map mirror from List.getLast?_map]
  cases window.getLast? <;> rfl

/-- The reference on the other side: the extreme of the negatives, at the same bar. -/
theorem latestReferenceExtreme_mirror {extreme extreme' : List ℚ → Option ℚ} {column column' : Candle → ℚ}
    (hcolumn : ∀ row, column' (mirror row) = -column row)
    (hextreme : ∀ values, extreme' (values.map Neg.neg) = (extreme values).map Neg.neg) :
    latestReferenceExtreme extreme' column' (mirror window) =
      (latestReferenceExtreme extreme column window).map fun found => (-found.1, found.2) := by
  have hvalues : (mirror window).map column' = (window.map column).map Neg.neg := by
    rw [map_mirror (f := fun row => -column row) hcolumn, List.map_map]
    rfl
  unfold latestReferenceExtreme
  rw [hvalues, hextreme]
  cases extreme (window.map column) with
  | none => rfl
  | some target =>
      have hfilter := filter_mirror (p := fun row => column row = target)
        (q := fun row => column' row = -target) (fun row => by simp [hcolumn]) window
      simp only [Option.map_some]
      rw [hfilter, lastRow_mirror]
      cases lastRow (window.filter fun row => column row = target) <;> rfl

theorem turtleSoupEvent_mirror (high low : ℚ × Instant) :
    turtleSoupEvent (-low.1, low.2) (-high.1, high.2) (mirror bar) = mirror (turtleSoupEvent high low bar) := by
  have hclose : (mirror bar).close = -bar.close := rfl
  have hbullish := sweeps_mirror bar high.1 .BEARISH
  have hbearish := sweeps_mirror bar low.1 .BULLISH
  have hup := sweepEvent_mirror bar high.1 high.2 .BEARISH
  have hdown := sweepEvent_mirror bar low.1 low.2 .BULLISH
  rw [show mirror BinaryDirection.BEARISH = .BULLISH from rfl] at hbullish hup
  rw [show mirror BinaryDirection.BULLISH = .BEARISH from rfl] at hbearish hdown
  unfold turtleSoupEvent
  rw [← eitherSide_mirror]
  simp only [hbullish, hbearish, hup, hdown, hclose, neg_le_neg_iff, apply_ite mirror, mirror_some,
    mirror_none]

theorem detectTurtleSoupBar_mirror :
    detectTurtleSoupBar (mirror window) (mirror bar) = (detectTurtleSoupBar window bar).map mirror := by
  by_cases hwindow : window = []
  · subst hwindow
    rfl
  · obtain ⟨high, hhigh⟩ := exists_latestHigh hwindow
    obtain ⟨low, hlow⟩ := exists_latestLow hwindow
    have hhigh' : latestReferenceExtreme List.max? Candle.high (mirror window) = .ok (-low.1, low.2) := by
      rw [latestReferenceExtreme_mirror window (fun _ => rfl) max?_neg, hlow]
      rfl
    have hlow' : latestReferenceExtreme List.min? Candle.low (mirror window) = .ok (-high.1, high.2) := by
      rw [latestReferenceExtreme_mirror window (fun _ => rfl) min?_neg, hhigh]
      rfl
    unfold detectTurtleSoupBar
    simp only [hhigh, hlow, hhigh', hlow', bind, Except.bind, turtleSoupEvent_mirror]
    rfl

/-! The swings of a frame: a high is the mirror of a low. -/

instance : Mirror SwingRow where
  mirror row := ⟨row.highLow.map Neg.neg, row.level.map Neg.neg⟩
  mirror_mirror row := by
    cases row with
    | mk highLow level => cases highLow <;> cases level <;> simp

variable (swingFrame : List SwingRow)

theorem getElem?_mirror (index : ℕ) : (mirror swingFrame)[index]? = (swingFrame[index]?).map mirror :=
  List.getElem?_map

theorem latestSwing_mirror (value : ℤ) (beforeIndex : ℕ) :
    latestSwing (mirror swingFrame) (-value) beforeIndex =
      (latestSwing swingFrame value beforeIndex).map fun found => (found.1, -found.2) := by
  have hvalue : ∀ index : ℕ, ((mirror swingFrame)[index]?).bind SwingRow.highLow = some (-value) ↔
      (swingFrame[index]?).bind SwingRow.highLow = some value := by
    intro index
    rw [getElem?_mirror]
    cases swingFrame[index]? with
    | none => simp
    | some row =>
        cases hrow : row.highLow <;> simp [mirror, hrow]
  have hlevel : ∀ index : ℕ, ((mirror swingFrame)[index]?).bind SwingRow.level =
      ((swingFrame[index]?).bind SwingRow.level).map Neg.neg := by
    intro index
    rw [getElem?_mirror]
    cases swingFrame[index]? <;> rfl
  unfold latestSwing
  simp only [length_mirror, hvalue, hlevel]
  rw [List.map_findSome?]
  refine congrArg (fun f => List.findSome? f _) (funext fun index => ?_)
  rw [Function.comp_apply]
  split_ifs with hbefore
  · rfl
  · rw [Option.map_map, Option.map_map]
    rfl

theorem sfpSide_mirror (direction : BinaryDirection) :
    sfpSide (mirror window) (mirror swingFrame) (mirror bar) (mirror direction) =
      (sfpSide window swingFrame bar direction).map mirror := by
  have hvalue : swingValue (mirror direction) = -swingValue direction := by cases direction <;> rfl
  unfold sfpSide
  rw [hvalue, length_mirror, latestSwing_mirror]
  cases latestSwing swingFrame (swingValue direction) (window.length - 1) with
  | none => rfl
  | some found =>
      simp only [Option.map_some, sweeps_mirror]
      split_ifs with hsweeps
      · have hrow : rowAt (mirror window) found.1 = (rowAt window found.1).map mirror := by
          unfold rowAt
          rw [show (mirror window)[found.1]? = (window[found.1]?).map mirror from List.getElem?_map]
          cases window[found.1]? <;> rfl
        rw [hrow]
        cases rowAt window found.1 with
        | error e => rfl
        | ok row =>
            have hevent := sweepEvent_mirror bar found.2 row.time direction
            exact congrArg (fun event => Except.ok (some event)) hevent
      · rfl

theorem detectSfpClosed_mirror :
    detectSfpClosed (mirror window) (mirror swingFrame) = (detectSfpClosed window swingFrame).map mirror := by
  unfold detectSfpClosed
  rw [lastRow_mirror]
  cases lastRow window with
  | error e => rfl
  | ok last =>
      obtain ⟨bearish, hbearish⟩ := exists_sfpSide window swingFrame last .BEARISH
      obtain ⟨bullish, hbullish⟩ := exists_sfpSide window swingFrame last .BULLISH
      have hdown := sfpSide_mirror last window swingFrame .BULLISH
      have hup := sfpSide_mirror last window swingFrame .BEARISH
      rw [show mirror BinaryDirection.BULLISH = .BEARISH from rfl, hbullish] at hdown
      rw [show mirror BinaryDirection.BEARISH = .BULLISH from rfl, hbearish] at hup
      simp only [Except.map, bind, Except.bind, hdown, hup, hbearish, hbullish]
      exact congrArg Except.ok (eitherSide_mirror bearish bullish)

theorem validateCandleDf_mirror : validateCandleDf (mirror window) = mirror (validateCandleDf window) :=
  (List.map_insertionSort _ _ mirror window fun _ _ _ _ => Iff.rfl).symm

theorem trimToClosed_mirror (tf : Timeframe) (nowUtc : Instant) :
    trimToClosed tf nowUtc (mirror window) = mirror (trimToClosed tf nowUtc window) := by
  unfold trimToClosed
  rw [validateCandleDf_mirror]
  exact filter_mirror (fun _ => rfl) _

/-- The package that finds the swings of a frame in its mirror. -/
def SmcModule.mirrored (smc : SmcModule) : SmcModule :=
  { smc with swingHighsLows := fun n candles => mirror (smc.swingHighsLows n (mirror candles)) }

/-- Both detectors treat both sides alike: the event of the mirrored candles is the mirrored event. -/
theorem detectors_mirror (smc : SmcModule) (candles : List Candle) (tf : Timeframe) (nowUtc : Instant)
    (swingLength lookbackBars : ℤ) :
    detectSfp smc.mirrored (mirror candles) tf nowUtc swingLength =
        (detectSfp smc candles tf nowUtc swingLength).map mirror ∧
      detectTurtleSoup (mirror candles) tf nowUtc lookbackBars =
        (detectTurtleSoup candles tf nowUtc lookbackBars).map mirror := by
  constructor
  · simp only [detectSfp, trimToClosed_mirror, length_mirror, SmcModule.mirrored, mirror_mirror]
    split_ifs with hlength hbars
    · rfl
    · rfl
    · exact detectSfpClosed_mirror _ _
  · simp only [detectTurtleSoup, trimToClosed_mirror, length_mirror]
    split_ifs with hlookback hbars
    · rfl
    · rfl
    · have hwindow : ∀ (closed : List Candle) (n : ℕ),
          ((mirror closed).drop n).dropLast = mirror (closed.drop n).dropLast := by
        intro closed n
        show ((closed.map mirror).drop n).dropLast = ((closed.drop n).dropLast).map mirror
        rw [← List.map_drop, List.map_dropLast]
      rw [lastRow_mirror]
      cases lastRow (trimToClosed tf nowUtc candles) with
      | error e => rfl
      | ok lastBar =>
          simp only [Except.map, bind, Except.bind, hwindow, detectTurtleSoupBar_mirror]
          cases detectTurtleSoupBar ((trimToClosed tf nowUtc candles).drop
            ((trimToClosed tf nowUtc candles).length - (lookbackBars.toNat + 1))).dropLast lastBar with
          | error e => rfl
          | ok found => cases found <;> rfl

end mirror

end OandaV3
