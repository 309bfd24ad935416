import Mathlib.Data.List.Induction
import OandaV3.PrefixSums
import OandaV3.TradeStats

/-! # The maximal drawdown

`_max_drawdown` keeps a running peak and compares it with the running net P/L once for each trade.

* `Drawdown.tracks`: after any number of trades the peak is the highest point, and the drawdown the
  deepest fall, of the running net P/L.
* `maxDrawdown_isGreatest`: the result is the largest `C i - C j` over `i ≤ j`. -/

namespace OandaV3

open Fallible

/-- The cumulative net P/L of the first `k` trades. -/
def cumulativeNetPl (trades : List TradeRecord) (k : ℕ) : ℚ := prefixSum (trades.map netPnl) k

/-- The losses of cumulative net P/L between two points of the list. -/
def drawdowns (trades : List TradeRecord) : Set ℚ :=
  {d | ∃ i j, i ≤ j ∧ j ≤ trades.length ∧ cumulativeNetPl trades i - cumulativeNetPl trades j = d}

theorem drawdowns_eq_falls (trades : List TradeRecord) :
    drawdowns trades = falls (trades.map netPnl) := by
  unfold drawdowns falls cumulativeNetPl
  rw [List.length_map]

/-- The loop's variables after some net values. -/
structure Drawdown.Tracks (d : Drawdown) (netValues : List ℚ) : Prop where
  cumulative : d.cumulative = netValues.sum
  peak : IsGreatest (heights netValues) d.peak
  maxDrawdown : IsGreatest (falls netValues) d.maxDrawdown

theorem Drawdown.tracks_nil : ({} : Drawdown).Tracks [] := by
  refine ⟨rfl, ?_, ?_⟩
  · rw [heights_nil]
    exact isGreatest_singleton
  · rw [falls_nil]
    exact isGreatest_singleton

theorem Drawdown.tracks_addTrade {d : Drawdown} {netValues : List ℚ} (h : d.Tracks netValues)
    (trade : TradeRecord) : (d.addTrade trade).Tracks (netValues ++ [netPnl trade]) := by
  have hpeak := isGreatest_heights_concat h.peak (netPnl trade)
  unfold Drawdown.addTrade
  refine ⟨?_, ?_, ?_⟩
  · simp [h.cumulative]
  · simpa [h.cumulative] using hpeak
  · simpa [h.cumulative] using isGreatest_falls_concat h.maxDrawdown hpeak

theorem Drawdown.tracks (trades : List TradeRecord) :
    (trades.foldl Drawdown.addTrade {}).Tracks (trades.map netPnl) := by
  induction trades using List.reverseRecOn with
  | nil => exact Drawdown.tracks_nil
  | append_singleton trades trade ih =>
      rw [List.foldl_append, List.map_append]
      exact Drawdown.tracks_addTrade ih trade

/-- The drawdown of a report is that of the closed trades of its window. -/
theorem getTradeStats_maxDrawdown {cfg : Config} {store : TradeStore} {nowUtc : Instant} {today : ℤ}
    {maePips : String → Option ℚ} {period : Period} {startDate endDate : Option ℤ}
    {instrument : Option String} {report : TradeStatsReport}
    (h : getTradeStats cfg store nowUtc today maePips period startDate endDate instrument =
      .ok report) :
    report.summary.maxDrawdown = maxDrawdown
      (closedTradesForWindow store report.summary.startUtc report.summary.endUtc instrument) := by
  obtain ⟨resolved, -, h⟩ := bind_eq_ok.mp h
  obtain ⟨pnl, -, h⟩ := bind_eq_ok.mp h
  obtain ⟨summary, hsummary, h⟩ := bind_eq_ok.mp h
  obtain ⟨perInstrument, -, h⟩ := bind_eq_ok.mp h
  obtain ⟨-, rfl⟩ := checked_eq_ok.mp h
  obtain ⟨group, -, hsummary⟩ := bind_eq_ok.mp hsummary
  obtain ⟨-, rfl⟩ := checked_eq_ok.mp hsummary
  rfl

/-- **The single pass finds the largest drawdown.**  The result is the greatest difference between the
cumulative net P/L of an earlier and a later point of the list, and `None` for the empty list only. -/
theorem maxDrawdown_isGreatest (trades : List TradeRecord) :
    ∃ d, IsGreatest (drawdowns trades) d ∧
      maxDrawdown trades = if trades = [] then none else some d := by
  refine ⟨(trades.foldl Drawdown.addTrade {}).maxDrawdown, ?_, ?_⟩
  · rw [drawdowns_eq_falls]
    exact (Drawdown.tracks trades).maxDrawdown
  · unfold maxDrawdown
    simp only [List.isEmpty_iff]

end OandaV3
