import Mathlib.Algebra.BigOperators.Group.List.Basic
import OandaV3.Calendar
import OandaV3.HistoryService

/-! # Realized profit and loss

`compute_realized_pnl` of `journal/trade_history_service.py`: the totals of the stored rows of a window
that begins and ends with a local midnight, or ends now.

* `realizedPnlSummary_totals`: the loop adds up three amounts of each row, `rowGross`, `rowFinancing` and
  `rowCommission`, whatever the order of the rows.
* `computeRealizedPnl_additive`: the totals of adjacent windows add up, and so do the totals of the
  instruments. -/

namespace OandaV3

open Fallible

/-! ### Windows -/

/-- A period selector, parsed; a custom one names its first and its last day. -/
inductive Period where
  | day
  | week
  | month
  | custom (startDate endDate : ℤ)
  | unsupported
deriving DecidableEq, Repr

/-- The bounds of a window; its end is excluded. -/
structure WindowBounds where
  period : Period
  startLocal : LocalTime
  endLocal : LocalTime
  startUtc : Instant
  endUtc : Instant
deriving DecidableEq, Repr

/-- `resolve_period_selector`. -/
def resolvePeriodSelector (period : Period) : Option ℤ → Option ℤ → Except Exn Period
  | none, none => .ok period
  | some startDate, some endDate =>
      if endDate < startDate then
        .error (.valueError "end_date must be greater than or equal to start_date.")
      else .ok (.custom startDate endDate)
  | _, _ => .error (.valueError "start_date and end_date must be provided together.")

/-- The window from one instant to another. -/
def windowBounds (zone : String) (period : Period) (startUtc endUtc : Instant) : WindowBounds where
  period := period
  startLocal := ⟨startUtc, zone⟩
  endLocal := ⟨endUtc, zone⟩
  startUtc := startUtc
  endUtc := endUtc

/-- `resolve_period_window`, at an instant that is `today` in the zone. -/
def resolvePeriodWindow (cfg : Config) (zone : String) (nowUtc : Instant) (today : ℤ)
    (period : Period) : Except Exn WindowBounds :=
  match period with
  | .day => .ok (windowBounds zone period (cfg.localMidnightUtc zone today) nowUtc)
  | .week => .ok (windowBounds zone period
      (cfg.localMidnightUtc zone (Calendar.weekStart 0 today)) nowUtc)
  | .month => .ok (windowBounds zone period
      (cfg.localMidnightUtc zone (Calendar.monthStart today)) nowUtc)
  | .custom startDate endDate =>
      if endDate < startDate then
        .error (.valueError "custom period end date must not be earlier than the start date.")
      else .ok (windowBounds zone period (cfg.localMidnightUtc zone startDate)
        (cfg.localMidnightUtc zone (endDate + 1)))
  | .unsupported => .error (.valueError "Unsupported trade-history period.")

/-! ### Totals -/

/-- The three running totals. -/
structure PnlTotals where
  grossRealizedPl : ℚ := 0
  financing : ℚ := 0
  commission : ℚ := 0
deriving DecidableEq, Repr

/-- The loop body: a trade event always counts its commission, and its profit and financing when it
closes something. -/
def PnlTotals.addRecord (totals : PnlTotals) : HistoryRow → PnlTotals
  | .trade e =>
      let totals := { totals with commission := totals.commission + e.commission }
      if e.isClosing then
        { totals with
          grossRealizedPl := totals.grossRealizedPl + e.realizedPl
          financing := totals.financing + e.financing }
      else totals
  | .financing e => { totals with financing := totals.financing + e.financing }

/-- `RealizedPnLSummary`. -/
structure RealizedPnLSummary extends PnlTotals where
  period : Period
  instrument : Option String
  startUtc : Instant
  endUtc : Instant
  startLocal : LocalTime
  endLocal : LocalTime
  netRealizedPl : ℚ
deriving DecidableEq, Repr

def windowQuery (startUtc endUtc : Instant) (instrument : Option String) :
    TradeStore.HistoryQuery where
  startUtc := some startUtc
  endUtc := some endUtc
  instrument := instrument

def realizedPnlSummary (store : TradeStore) (period : Period) (window : WindowBounds)
    (instrument : Option String) : RealizedPnLSummary :=
  let records := store.listTradeHistoryRecords (windowQuery window.startUtc window.endUtc instrument)
  let totals := records.foldl PnlTotals.addRecord {}
  { totals with
    period
    instrument
    startUtc := window.startUtc
    endUtc := window.endUtc
    startLocal := window.startLocal
    endLocal := window.endLocal
    netRealizedPl := totals.grossRealizedPl + totals.financing - totals.commission }

/-- The first violation of the contract of `RealizedPnLSummary`. -/
def RealizedPnLSummary.contractError (summary : RealizedPnLSummary) : Option String :=
  firstViolation
    [(summary.instrument.all validOandaInstrumentSymbol,
      "instrument must look like an OANDA instrument symbol such as SPX500_USD or SGD_JPY."),
     (decide (summary.startUtc ≤ summary.endUtc),
      "end_utc must be greater than or equal to start_utc."),
     (decide (summary.netRealizedPl =
        summary.grossRealizedPl + summary.financing - summary.commission),
      "net_realized_pl must equal gross_realized_pl + financing - commission.")]

/-- `compute_realized_pnl`. -/
def computeRealizedPnl (cfg : Config) (store : TradeStore) (nowUtc : Instant) (today : ℤ)
    (period : Period) (instrument : Option String) (startDate endDate : Option ℤ) :
    Except Exn RealizedPnLSummary := do
  let resolvedPeriod ← resolvePeriodSelector period startDate endDate
  let window ← resolvePeriodWindow cfg cfg.journalTimezone nowUtc today resolvedPeriod
  let summary := realizedPnlSummary store resolvedPeriod window instrument
  checked summary summary.contractError

/-! ### The amounts of a row -/

def HistoryRow.contractError : HistoryRow → Option String
  | .trade e => e.contractError
  | .financing e => e.contractError

def rowGross : HistoryRow → ℚ
  | .trade e => if e.isClosing then e.realizedPl else 0
  | .financing _ => 0

def rowFinancing : HistoryRow → ℚ
  | .trade e => if e.isClosing then e.financing else 0
  | .financing e => e.financing

def rowCommission : HistoryRow → ℚ
  | .trade e => e.commission
  | .financing _ => 0

def rowNet (row : HistoryRow) : ℚ := rowGross row + rowFinancing row - rowCommission row

theorem foldl_addRecord (records : List HistoryRow) (totals : PnlTotals) :
    records.foldl PnlTotals.addRecord totals =
      { grossRealizedPl := totals.grossRealizedPl + (records.map rowGross).sum
        financing := totals.financing + (records.map rowFinancing).sum
        commission := totals.commission + (records.map rowCommission).sum } := by
  induction records generalizing totals with
  | nil => simp
  | cons record records ih =>
      rw [List.foldl_cons, ih]
      cases record with
      | financing e => simp [PnlTotals.addRecord, rowGross, rowFinancing, rowCommission, add_assoc]
      | trade e =>
          simp only [PnlTotals.addRecord, rowGross, rowFinancing, rowCommission, List.map_cons,
            List.sum_cons]
          split_ifs <;> simp [add_assoc]

/-! ### Sums over the rows of a window -/

section sums

variable {α : Type}

theorem sum_filter (items : List α) (p : α → Bool) (f : α → ℚ) :
    ((items.filter p).map f).sum = (items.map fun a => if p a then f a else 0).sum := by
  induction items with
  | nil => rfl
  | cons a items ih =>
      rw [List.filter_cons, List.map_cons, List.sum_cons, ← ih]
      split_ifs <;> simp

/-- Two lists are summed up in either order. -/
theorem sum_comm {β : Type} (items : List α) (others : List β) (f : α → β → ℚ) :
    (items.map fun a => (others.map (f a)).sum).sum =
      (others.map fun b => (items.map fun a => f a b).sum).sum := by
  induction items with
  | nil => simp
  | cons a items ih => simp only [List.map_cons, List.sum_cons, List.sum_map_add, ih]

/-- The sums of the keys add up to the sum over the items that have one of them. -/
theorem sum_by_key {κ : Type} [DecidableEq κ] {keys : List κ} (hkeys : keys.Nodup) (items : List α)
    (key : α → Option κ) (f : α → ℚ) :
    (keys.map fun k => (items.map fun a => if key a = some k then f a else 0).sum).sum =
      (items.map fun a => if (key a).any (· ∈ keys) then f a else 0).sum := by
  rw [sum_comm]
  refine congrArg List.sum (List.map_congr_left fun a _ => ?_)
  cases key a with
  | none => simp
  | some j =>
      simp only [Option.some.injEq, @eq_comm _ j, Option.any_some, decide_eq_true_eq]
      rw [List.sum_map_ite_eq]
      split_ifs with hmem
      · rw [List.count_eq_one_of_mem hkeys hmem]
        simp
      · rw [List.count_eq_zero_of_not_mem hmem]
        simp

end sums

/-- The sum of an amount over the rows a query selects. -/
def TradeStore.selectedSum (store : TradeStore) (query : TradeStore.HistoryQuery)
    (amount : HistoryRow → ℚ) : ℚ :=
  (store.tradeHistoryEvents.docs.map fun row => if query.selects row then amount row else 0).sum

def TradeStore.instruments (store : TradeStore) : List String :=
  (store.tradeHistoryEvents.docs.filterMap TradeStore.rowInstrument).dedup

/-- The sum of an amount over the rows a query selects that name no instrument. -/
def TradeStore.accountSum (store : TradeStore) (query : TradeStore.HistoryQuery)
    (amount : HistoryRow → ℚ) : ℚ :=
  (store.tradeHistoryEvents.docs.map fun row =>
    if query.selects row && (TradeStore.rowInstrument row).isNone then amount row else 0).sum

/-- The order of the listing does not matter for a sum. -/
theorem sum_listed (store : TradeStore) (query : TradeStore.HistoryQuery) (amount : HistoryRow → ℚ) :
    ((store.listTradeHistoryRecords query).map amount).sum = store.selectedSum query amount := by
  rw [TradeStore.selectedSum, ← sum_filter, TradeStore.listTradeHistoryRecords]
  split_ifs
  · exact (perm_sortOnDesc.map amount).sum_eq
  · exact (perm_sortOn.map amount).sum_eq

theorem realizedPnlSummary_totals (store : TradeStore) (period : Period) (window : WindowBounds)
    (instrument : Option String) :
    (realizedPnlSummary store period window instrument).toPnlTotals = {
      grossRealizedPl := store.selectedSum
        (windowQuery window.startUtc window.endUtc instrument) rowGross
      financing := store.selectedSum
        (windowQuery window.startUtc window.endUtc instrument) rowFinancing
      commission := store.selectedSum
        (windowQuery window.startUtc window.endUtc instrument) rowCommission } := by
  simp only [realizedPnlSummary, foldl_addRecord, sum_listed, zero_add]

section windows

variable (store : TradeStore) {startUtc midUtc endUtc : Instant} (instrument : Option String)

theorem windowQuery_selects {instrument : Option String} (row : HistoryRow) :
    (windowQuery startUtc endUtc instrument).selects row = true ↔
      startUtc ≤ row.timeUtc ∧ row.timeUtc < endUtc ∧
        ∀ i, instrument = some i → TradeStore.rowInstrument row = some i := by
  cases instrument <;> simp [windowQuery, TradeStore.HistoryQuery.selects, and_assoc]

theorem selectedSum_split (hstart : startUtc ≤ midUtc) (hend : midUtc ≤ endUtc)
    (amount : HistoryRow → ℚ) :
    store.selectedSum (windowQuery startUtc endUtc instrument) amount =
      store.selectedSum (windowQuery startUtc midUtc instrument) amount +
        store.selectedSum (windowQuery midUtc endUtc instrument) amount := by
  simp only [TradeStore.selectedSum, ← List.sum_map_add]
  congr 1
  refine List.map_congr_left fun row _ => ?_
  simp only [windowQuery_selects]
  rcases lt_or_ge row.timeUtc midUtc with hbefore | hafter
  · have hout : ¬ midUtc ≤ row.timeUtc := hbefore.not_ge
    have hin : row.timeUtc < endUtc := hbefore.trans_le hend
    simp only [hout, hin, hbefore, false_and, true_and, if_false, add_zero]
  · have hout : ¬ row.timeUtc < midUtc := hafter.not_gt
    have hin : startUtc ≤ row.timeUtc := hstart.trans hafter
    simp only [hout, hin, hafter, false_and, true_and, and_false, if_false, zero_add]

/-- The rows of a window are those of its instruments, and those without an instrument. -/
theorem selectedSum_instruments (startUtc endUtc : Instant) (amount : HistoryRow → ℚ) :
    store.selectedSum (windowQuery startUtc endUtc none) amount =
      (store.instruments.map fun i =>
        store.selectedSum (windowQuery startUtc endUtc (some i)) amount).sum +
      store.accountSum (windowQuery startUtc endUtc none) amount := by
  have hsplit : (store.instruments.map fun i =>
      store.selectedSum (windowQuery startUtc endUtc (some i)) amount).sum =
      (store.tradeHistoryEvents.docs.map fun row =>
        if (TradeStore.rowInstrument row).any (· ∈ store.instruments) then
          if startUtc ≤ row.timeUtc ∧ row.timeUtc < endUtc then amount row else 0 else 0).sum := by
    have hkeys : store.instruments.Nodup := List.nodup_dedup _
    rw [← sum_by_key hkeys]
    refine congrArg List.sum (List.map_congr_left fun i _ => ?_)
    refine congrArg List.sum (List.map_congr_left fun row _ => ?_)
    simp only [windowQuery_selects, Option.some.injEq, forall_eq']
    rw [← ite_and]
    exact if_congr (by tauto) rfl rfl
  rw [hsplit, TradeStore.selectedSum, TradeStore.accountSum, ← List.sum_map_add]
  refine congrArg List.sum (List.map_congr_left fun row hrow => ?_)
  simp only [Bool.and_eq_true, windowQuery_selects, reduceCtorEq, false_implies, implies_true,
    and_true]
  cases hinstrument : TradeStore.rowInstrument row with
  | none => simp
  | some j =>
      have hmem : j ∈ store.instruments :=
        List.mem_dedup.mpr (List.mem_filterMap.mpr ⟨row, hrow, hinstrument⟩)
      simp [hmem]

/-- Rows without an instrument are financing rows. -/
theorem accountSum_congr (query : TradeStore.HistoryQuery) {amount amount' : HistoryRow → ℚ}
    (hamount : ∀ e, amount (.financing e) = amount' (.financing e)) :
    store.accountSum query amount = store.accountSum query amount' := by
  refine congrArg List.sum (List.map_congr_left fun row _ => ?_)
  cases row with
  | trade e => simp [TradeStore.rowInstrument]
  | financing e => rw [hamount]

theorem accountSum_eq_zero (query : TradeStore.HistoryQuery) {amount : HistoryRow → ℚ}
    (hamount : ∀ e, amount (.financing e) = 0) : store.accountSum query amount = 0 := by
  have hzero : store.accountSum query amount = store.accountSum query fun _ => 0 :=
    accountSum_congr store query hamount
  rw [hzero, TradeStore.accountSum]
  simp

theorem selectedSum_net (query : TradeStore.HistoryQuery) :
    store.selectedSum query rowGross + store.selectedSum query rowFinancing -
      store.selectedSum query rowCommission = store.selectedSum query rowNet := by
  simp only [TradeStore.selectedSum, sub_eq_iff_eq_add, ← List.sum_map_add]
  refine congrArg List.sum (List.map_congr_left fun row _ => ?_)
  split_ifs
  · rw [rowNet]
    ring
  · ring

end windows

/-- A summary meets its contract when its window is in order and its instrument looks like one. -/
theorem contractError_eq_none {store : TradeStore} {period : Period} {window : WindowBounds}
    {instrument : Option String} :
    (realizedPnlSummary store period window instrument).contractError = none ↔
      instrument.all validOandaInstrumentSymbol = true ∧ window.startUtc ≤ window.endUtc := by
  rw [RealizedPnLSummary.contractError, firstViolation_eq_none]
  constructor
  · intro h
    exact ⟨h _ List.mem_cons_self,
      of_decide_eq_true (h _ (List.mem_cons_of_mem _ List.mem_cons_self))⟩
  · rintro ⟨hinstrument, horder⟩ check hcheck
    simp only [List.mem_cons, List.not_mem_nil, or_false] at hcheck
    rcases hcheck with rfl | rfl | rfl
    · exact hinstrument
    · exact decide_eq_true horder
    · exact decide_eq_true rfl

theorem computeRealizedPnl_custom {cfg : Config}
    (hmidnights : Monotone (cfg.localMidnightUtc cfg.journalTimezone)) (store : TradeStore)
    (nowUtc : Instant) (today : ℤ) {instrument : Option String}
    (hinstrument : instrument.all validOandaInstrumentSymbol = true) {first last : ℤ}
    (h : first ≤ last) :
    computeRealizedPnl cfg store nowUtc today (.custom first last) instrument none none =
      .ok (realizedPnlSummary store (.custom first last)
        (windowBounds cfg.journalTimezone (.custom first last)
          (cfg.localMidnightUtc cfg.journalTimezone first)
          (cfg.localMidnightUtc cfg.journalTimezone (last + 1))) instrument) := by
  have horder := hmidnights (show first ≤ last + 1 by omega)
  have hwindow : resolvePeriodWindow cfg cfg.journalTimezone nowUtc today (.custom first last) =
      .ok (windowBounds cfg.journalTimezone (.custom first last)
        (cfg.localMidnightUtc cfg.journalTimezone first)
        (cfg.localMidnightUtc cfg.journalTimezone (last + 1))) := by
    rw [resolvePeriodWindow, if_neg h.not_gt]
  exact bind_eq_ok.mpr ⟨.custom first last, rfl, bind_eq_ok.mpr ⟨_, hwindow,
    checked_eq_ok.mpr ⟨contractError_eq_none.mpr ⟨hinstrument, horder⟩, rfl⟩⟩⟩

theorem computeRealizedPnl_ok {cfg : Config} {store : TradeStore} {nowUtc : Instant} {today : ℤ}
    {period : Period} {startDate endDate : Option ℤ} {instrument : Option String}
    {summary : RealizedPnLSummary}
    (h : computeRealizedPnl cfg store nowUtc today period instrument startDate endDate =
      .ok summary) : ∃ resolved window,
      summary = realizedPnlSummary store resolved window instrument ∧
      ∀ other : Option String, other.all validOandaInstrumentSymbol = true →
        computeRealizedPnl cfg store nowUtc today period other startDate endDate =
          .ok (realizedPnlSummary store resolved window other) := by
  obtain ⟨resolved, hresolved, h⟩ := bind_eq_ok.mp h
  obtain ⟨window, hwindow, h⟩ := bind_eq_ok.mp h
  obtain ⟨hcontract, rfl⟩ := checked_eq_ok.mp h
  obtain ⟨-, horder⟩ := contractError_eq_none.mp hcontract
  refine ⟨resolved, window, rfl, fun other hother => ?_⟩
  exact bind_eq_ok.mpr ⟨resolved, hresolved, bind_eq_ok.mpr ⟨window, hwindow,
    checked_eq_ok.mpr ⟨contractError_eq_none.mpr ⟨hother, horder⟩, rfl⟩⟩⟩

/-- The totals of one summary are those of two others together. -/
structure RealizedPnLSummary.IsSum (whole first rest : RealizedPnLSummary) : Prop where
  grossRealizedPl : whole.grossRealizedPl = first.grossRealizedPl + rest.grossRealizedPl
  financing : whole.financing = first.financing + rest.financing
  commission : whole.commission = first.commission + rest.commission
  netRealizedPl : whole.netRealizedPl = first.netRealizedPl + rest.netRealizedPl

/-- The totals of a summary are those of its instruments, and the financing of the account. -/
structure RealizedPnLSummary.IsSumOver (whole : RealizedPnLSummary)
    (parts : List RealizedPnLSummary) (accountFinancing : ℚ) : Prop where
  grossRealizedPl : whole.grossRealizedPl = (parts.map fun part => part.grossRealizedPl).sum
  financing : whole.financing = (parts.map fun part => part.financing).sum + accountFinancing
  commission : whole.commission = (parts.map fun part => part.commission).sum
  netRealizedPl : whole.netRealizedPl =
    (parts.map fun part => part.netRealizedPl).sum + accountFinancing

section summaries

variable (store : TradeStore) (period : Period) (window : WindowBounds) (instrument : Option String)

theorem summary_gross : (realizedPnlSummary store period window instrument).grossRealizedPl =
    store.selectedSum (windowQuery window.startUtc window.endUtc instrument) rowGross :=
  congrArg PnlTotals.grossRealizedPl (realizedPnlSummary_totals store period window instrument)

theorem summary_financing : (realizedPnlSummary store period window instrument).financing =
    store.selectedSum (windowQuery window.startUtc window.endUtc instrument) rowFinancing :=
  congrArg PnlTotals.financing (realizedPnlSummary_totals store period window instrument)

theorem summary_commission : (realizedPnlSummary store period window instrument).commission =
    store.selectedSum (windowQuery window.startUtc window.endUtc instrument) rowCommission :=
  congrArg PnlTotals.commission (realizedPnlSummary_totals store period window instrument)

theorem summary_net : (realizedPnlSummary store period window instrument).netRealizedPl =
    store.selectedSum (windowQuery window.startUtc window.endUtc instrument) rowNet := by
  rw [← selectedSum_net, ← summary_gross store period, ← summary_financing store period,
    ← summary_commission store period]
  rfl

theorem isSumOver_instruments :
    (realizedPnlSummary store period window none).IsSumOver
      (store.instruments.map fun i => realizedPnlSummary store period window (some i))
      (store.accountSum (windowQuery window.startUtc window.endUtc none) rowFinancing) := by
  have hsum := selectedSum_instruments store window.startUtc window.endUtc
  have hgross : store.accountSum (windowQuery window.startUtc window.endUtc none) rowGross = 0 :=
    accountSum_eq_zero store _ fun _ => rfl
  have hcommission :
      store.accountSum (windowQuery window.startUtc window.endUtc none) rowCommission = 0 :=
    accountSum_eq_zero store _ fun _ => rfl
  have hnet : store.accountSum (windowQuery window.startUtc window.endUtc none) rowNet =
      store.accountSum (windowQuery window.startUtc window.endUtc none) rowFinancing :=
    accountSum_congr store _ fun e => by simp [rowNet, rowGross, rowCommission]
  refine ⟨?_, ?_, ?_, ?_⟩
  · simp only [summary_gross, List.map_map, Function.comp_def, hsum rowGross, hgross, add_zero]
  · simp only [summary_financing, List.map_map, Function.comp_def, hsum rowFinancing]
  · simp only [summary_commission, List.map_map, Function.comp_def, hsum rowCommission, hcommission,
      add_zero]
  · simp only [summary_net, List.map_map, Function.comp_def, hsum rowNet, hnet]

end summaries

theorem isSum_of_adjacent (store : TradeStore) (zone : String) (period first rest : Period)
    {startUtc midUtc endUtc : Instant} (instrument : Option String) (hstart : startUtc ≤ midUtc)
    (hend : midUtc ≤ endUtc) :
    (realizedPnlSummary store period (windowBounds zone period startUtc endUtc) instrument).IsSum
      (realizedPnlSummary store first (windowBounds zone first startUtc midUtc) instrument)
      (realizedPnlSummary store rest (windowBounds zone rest midUtc endUtc) instrument) := by
  have hsplit := selectedSum_split store instrument hstart hend
  refine ⟨?_, ?_, ?_, ?_⟩
  · simp only [summary_gross, windowBounds, hsplit]
  · simp only [summary_financing, windowBounds, hsplit]
  · simp only [summary_commission, windowBounds, hsplit]
  · simp only [summary_net, windowBounds, hsplit]

/-- The instruments of rows that meet their contract look like instruments. -/
theorem valid_of_mem_instruments {store : TradeStore}
    (hrows : ∀ row ∈ store.tradeHistoryEvents.docs, row.contractError = none) {i : String}
    (hi : i ∈ store.instruments) : (some i).all validOandaInstrumentSymbol = true := by
  obtain ⟨row, hrow, hinstrument⟩ := List.mem_filterMap.mp (List.mem_dedup.mp hi)
  rw [← hinstrument]
  have hcontract := hrows row hrow
  cases row with
  | trade e =>
      rw [TradeStore.rowInstrument, Option.all_some]
      exact e.valid_instrument hcontract
  | financing e =>
      rw [TradeStore.rowInstrument]
      exact e.valid_instrument hcontract

/-- **Realized profit and loss is additive**, over adjacent windows and over the instruments of a
store whose rows meet their contract. -/
theorem computeRealizedPnl_additive (cfg : Config) (store : TradeStore) (nowUtc : Instant) (today : ℤ)
    (hmidnights : Monotone (cfg.localMidnightUtc cfg.journalTimezone))
    (hrows : ∀ row ∈ store.tradeHistoryEvents.docs, row.contractError = none) :
    (∀ instrument : Option String, instrument.all validOandaInstrumentSymbol = true →
      ∀ a b c, a ≤ b → b < c → ∃ whole first rest,
      computeRealizedPnl cfg store nowUtc today (.custom a c) instrument none none = .ok whole ∧
      computeRealizedPnl cfg store nowUtc today (.custom a b) instrument none none = .ok first ∧
      computeRealizedPnl cfg store nowUtc today (.custom (b + 1) c) instrument none none =
        .ok rest ∧
      whole.IsSum first rest) ∧
    ∀ period startDate endDate whole,
      computeRealizedPnl cfg store nowUtc today period none startDate endDate = .ok whole →
      ∃ part : String → RealizedPnLSummary, (∀ i ∈ store.instruments,
        computeRealizedPnl cfg store nowUtc today period (some i) startDate endDate = .ok (part i)) ∧
        whole.IsSumOver (store.instruments.map part) (store.accountSum
          (windowQuery whole.startUtc whole.endUtc none) rowFinancing) := by
  constructor
  · intro instrument hinstrument a b c hab hbc
    have hstart := hmidnights (show a ≤ b + 1 by omega)
    have hend := hmidnights (show b + 1 ≤ c + 1 by omega)
    have custom := fun first last (h : first ≤ last) =>
      computeRealizedPnl_custom hmidnights store nowUtc today hinstrument h
    exact ⟨_, _, _, custom a c (by omega), custom a b hab, custom (b + 1) c (by omega),
      isSum_of_adjacent store cfg.journalTimezone (.custom a c) (.custom a b) (.custom (b + 1) c)
        instrument hstart hend⟩
  · intro period startDate endDate whole hwhole
    obtain ⟨resolved, window, rfl, hparts⟩ := computeRealizedPnl_ok hwhole
    exact ⟨fun i => realizedPnlSummary store resolved window (some i),
      fun i hi => hparts (some i) (valid_of_mem_instruments hrows hi),
      isSumOver_instruments store resolved window⟩

/-- A financing of 1 on the first day and one of 2 at the midnight after it. -/
def twoMidnights : TradeStore :=
  (TradeStore.empty.upsertTradeHistoryEvents [
    .financing ⟨"7:DAILY_FINANCING:EUR_USD", 7, "001", some "EUR_USD", 1, 0, ⟨0, "UTC"⟩, .null⟩,
    .financing ⟨"8:DAILY_FINANCING:ACCOUNT", 8, "001", none, 2, 86400000000, ⟨86400000000, "UTC"⟩,
      .null⟩]).2

/-- The second financing belongs to the second day. -/
theorem computeRealizedPnl_additive_twoMidnights : ∃ whole first rest,
    computeRealizedPnl sampleConfig twoMidnights 0 0 (.custom 0 1) none none none = .ok whole ∧
    computeRealizedPnl sampleConfig twoMidnights 0 0 (.custom 0 0) none none none = .ok first ∧
    computeRealizedPnl sampleConfig twoMidnights 0 0 (.custom 1 1) none none none = .ok rest ∧
    whole.IsSum first rest :=
  (computeRealizedPnl_additive sampleConfig twoMidnights 0 0
    (fun a b hab => by
      have hscale : a * (24 * 3600 * 1000000) ≤ b * (24 * 3600 * 1000000) := by omega
      exact hscale)
    (by decide +kernel)).1 none rfl 0 0 1 (by decide) (by decide)

end OandaV3
