import Mathlib.Algebra.BigOperators.Ring.List
import Mathlib.Algebra.Order.BigOperators.Group.List
import Mathlib.Algebra.Order.Field.Basic
import Mathlib.Tactic.FieldSimp
import Mathlib.Tactic.Ring
import OandaV3.PollerMirror

/-! # The two closers of a trade

A trade is closed in the journal by the poller, from the averages of the broker's trade detail, or by
the projection of its close events.

* `weightedClosePips_eq_computePips`: both give the same pips when the broker's average price is the
  units-weighted mean of the fills.
* `closers_agree_iff`: both give the same close price and money exactly when there are no partial
  closes, or their mean price is the price of the closing fill: the projection takes the price of the
  last fill, the poller the average. -/

/-! ## Weighted means of a list

The mean of the values of a list, each with a weight.

* `weightedMean_affine`: the mean commutes with a shift and a scaling of the values.
* `weightedMean_concat_eq_iff`: with positive weights, the mean is the last value exactly when the
  values before it have that mean, or there are none. -/

namespace OandaV3

section

variable {α K : Type*} [Field K]

/-- The mean of the values `f` with the weights `w`. -/
def weightedMean (f w : α → K) (as : List α) : K :=
  (as.map fun a => f a * w a).sum / (as.map w).sum

variable {f g w v : α → K} {as : List α}

theorem weightedMean_congr (hf : ∀ a ∈ as, f a = g a) (hw : ∀ a ∈ as, w a = v a) :
    weightedMean f w as = weightedMean g v as := by
  have hproduct : ∀ a ∈ as, f a * w a = g a * v a := fun a ha => by rw [hf a ha, hw a ha]
  rw [weightedMean, weightedMean, List.map_congr_left hproduct, List.map_congr_left hw]

theorem weightedMean_affine (hw : (as.map w).sum ≠ 0) (shift scale : K) :
    weightedMean (fun a => (f a - shift) * scale) w as = (weightedMean f w as - shift) * scale := by
  have hsum : (as.map fun a => (f a - shift) * scale * w a).sum =
      ((as.map fun a => f a * w a).sum - shift * (as.map w).sum) * scale := by
    clear hw
    induction as with
    | nil => simp
    | cons a as ih =>
        simp only [List.map_cons, List.sum_cons, ih]
        ring
  rw [weightedMean, hsum, weightedMean]
  field_simp

variable [LinearOrder K] [IsStrictOrderedRing K]

theorem sum_weights_pos (hw : ∀ a ∈ as, 0 < w a) (has : as ≠ []) : 0 < (as.map w).sum :=
  List.sum_pos _ (by simpa using hw) (by simpa using has)

/-- The mean is the last value exactly when the values before it have that mean. -/
theorem weightedMean_concat_eq_iff {last : α} (hw : ∀ a ∈ as ++ [last], 0 < w a) :
    weightedMean f w (as ++ [last]) = f last ↔ as = [] ∨ weightedMean f w as = f last := by
  have hsum := sum_weights_pos hw (List.concat_ne_nil _ _)
  rw [weightedMean, div_eq_iff hsum.ne']
  simp only [List.map_append, List.sum_append, List.map_singleton, List.sum_singleton, mul_add,
    add_left_inj]
  rcases eq_or_ne as [] with rfl | has
  · simp
  · have hpos := sum_weights_pos (fun a ha => hw a (List.mem_append_left _ ha)) has
    rw [weightedMean, div_eq_iff hpos.ne']
    exact ⟨Or.inr, fun h => h.resolve_left has⟩

end

end OandaV3

namespace OandaV3

open Fallible Interaction Program

namespace TradeHistoryEvent

variable {e : TradeHistoryEvent}

/-- The price of a fill; zero when it has none. -/
def fillPrice (e : TradeHistoryEvent) : ℚ := e.price.getD 0

/-- The event has a price: a zero is read as none. -/
def Priced (e : TradeHistoryEvent) : Prop := e.fillPrice ≠ 0

instance : Decidable e.Priced := inferInstanceAs (Decidable (_ ≠ _))

theorem Priced.priceOrElse_eq (h : e.Priced) (fallback : ℚ) :
    priceOrElse e.price fallback = e.fillPrice := by
  unfold Priced fillPrice at h
  rw [priceOrElse, fillPrice]
  cases hprice : e.price with
  | none => rw [hprice] at h; exact absurd rfl h
  | some p =>
      rw [hprice, Option.getD_some] at h
      rw [priceOr, if_neg h]
      rfl

/-- An event that meets its contract has the absolute value of its units. -/
theorem absUnits_eq (h : e.contractError = none) : e.absUnits = |e.units| := by
  have habs := firstViolation_eq_none.mp h
    (decide (e.absUnits = |e.units|), "abs_units must equal abs(units).")
  simp only [List.mem_cons, true_or, or_true, forall_const] at habs
  exact of_decide_eq_true habs

end TradeHistoryEvent

/-- The units-weighted mean of the prices of the fills. -/
def averageFillPrice (fills : List TradeHistoryEvent) : ℚ :=
  weightedMean TradeHistoryEvent.fillPrice (fun e => |e.units|) fills

/-! ### Pips -/

section pips

variable {cfg : Config} {base : TradeBase} {closes : List TradeHistoryEvent} {pipSize : ℚ}

theorem resolvePipSize_ok {instrument : String} (h : cfg.getPipSize instrument = .ok pipSize) :
    resolvePipSize cfg instrument = .ok (some pipSize) := by
  rw [resolvePipSize, h]

theorem absUnits_pos {e : TradeHistoryEvent} (h : e.contractError = none) : 0 < |e.units| :=
  abs_pos.mpr (e.units_ne_zero h)

theorem weightedClosePips_average (hcloses : closes ≠ [])
    (hvalid : ∀ e ∈ closes, e.contractError = none) (hpriced : ∀ e ∈ closes, e.Priced)
    (hpip : cfg.getPipSize base.instrument = .ok pipSize) (hsize : pipSize ≠ 0) :
    weightedClosePips cfg base closes = .ok (some
      ((averageFillPrice closes - base.openPrice) / pipSize * (if 0 < base.units then 1 else -1))) := by
  have hunits : (closes.map fun e => |e.units|).sum ≠ 0 :=
    (sum_weights_pos (fun e he => absUnits_pos (hvalid e he)) hcloses).ne'
  have habs : closes.map TradeHistoryEvent.absUnits = closes.map fun e => |e.units| :=
    List.map_congr_left fun e he => TradeHistoryEvent.absUnits_eq (hvalid e he)
  have hmean : weightedMean (closePips base pipSize) TradeHistoryEvent.absUnits closes =
      (averageFillPrice closes - base.openPrice) / pipSize * (if 0 < base.units then 1 else -1) := by
    have haffine := weightedMean_affine (f := TradeHistoryEvent.fillPrice) hunits base.openPrice
      ((if 0 < base.units then 1 else -1) / pipSize)
    rw [div_mul_eq_mul_div, mul_div_assoc, averageFillPrice, ← haffine]
    refine weightedMean_congr (fun e he => ?_) fun e he =>
      TradeHistoryEvent.absUnits_eq (hvalid e he)
    rw [closePips, (hpriced e he).priceOrElse_eq, div_mul_eq_mul_div, mul_div_assoc]
  rw [weightedMean] at hmean
  unfold weightedClosePips
  refine bind_eq_ok.mpr ⟨_, resolvePipSize_ok hpip, ?_⟩
  simp only [if_neg hsize, habs, if_neg hunits, ← hmean]
  rfl

theorem computePips_of_ne_zero {existing : TradeRecord} {e : TradeClosedEvent}
    (hpip : cfg.getPipSize existing.instrument = .ok pipSize) (hsize : pipSize ≠ 0) :
    computePips cfg existing e = .ok ((e.closePrice - existing.openPrice) / pipSize *
      (if 0 < existing.units then 1 else -1)) := by
  refine bind_eq_ok.mpr ⟨_, hpip, ?_⟩
  rw [if_neg hsize]
  split_ifs
  · rw [mul_one]
    rfl
  · rw [mul_neg_one, ← neg_div]
    rfl

theorem computePips_of_zero {existing : TradeRecord} {e : TradeClosedEvent}
    (hpip : cfg.getPipSize existing.instrument = .ok 0) (pips : ℚ) :
    computePips cfg existing e ≠ .ok pips := by
  intro h
  obtain ⟨size, hsize, h⟩ := bind_eq_ok.mp h
  obtain rfl := Except.ok.inj (hpip.symm.trans hsize)
  exact nomatch h

theorem weightedClosePips_of_zero (hpip : cfg.getPipSize base.instrument = .ok 0) :
    weightedClosePips cfg base closes = .ok none :=
  bind_eq_ok.mpr ⟨_, resolvePipSize_ok hpip, rfl⟩

theorem resolveClosePrice_average {detail : TradeDetail} {average fallback : ℚ}
    (h : detail.averageClosePrice = some average) : resolveClosePrice detail fallback = average := by
  rw [resolveClosePrice, h]
  rfl

/-- **The two formulas for pips agree** on every trade, long or short, whose close events have prices
with the broker's average as their units-weighted mean. -/
theorem weightedClosePips_eq_computePips (cfg : Config) (existing : TradeRecord)
    (events : List TradeHistoryEvent) (base : TradeBase) (detail : TradeDetail)
    (e : TradeClosedEvent) (pipSize : ℚ)
    (hbase : tradeBase events (some existing) = some base) (hcloses : closeEvents events ≠ [])
    (hvalid : ∀ close ∈ closeEvents events, close.contractError = none)
    (hpriced : ∀ close ∈ closeEvents events, close.Priced)
    (haverage : detail.averageClosePrice = some (averageFillPrice (closeEvents events)))
    (hprice : e.closePrice = resolveClosePrice detail existing.openPrice)
    (hpip : cfg.getPipSize existing.instrument = .ok pipSize) :
    (∀ pips, weightedClosePips cfg base (closeEvents events) = .ok (some pips) ↔
      computePips cfg existing e = .ok pips) ∧
    (pipSize ≠ 0 → ∃ pips, computePips cfg existing e = .ok pips) := by
  obtain rfl := Option.some.inj ((tradeBase_some events existing).symm.trans hbase)
  by_cases hsize : pipSize = 0
  · subst hsize
    refine ⟨fun pips => ?_, fun h => absurd rfl h⟩
    rw [weightedClosePips_of_zero hpip]
    exact iff_of_false (fun h => nomatch h) (computePips_of_zero hpip pips)
  · rw [weightedClosePips_average hcloses hvalid hpriced hpip hsize,
      computePips_of_ne_zero hpip hsize, hprice, resolveClosePrice_average haverage]
    refine ⟨fun pips => ?_, fun _ => ⟨_, rfl⟩⟩
    simp only [Except.ok.injEq, Option.some.injEq]
    rfl

end pips

/-! ### Close price and money -/

/-- A trade closed by any number of reductions and one closing fill, all priced, without financing
or commission. -/
structure ClosedInParts (reductions : List TradeHistoryEvent) (final : TradeHistoryEvent) :
    Prop where
  reduces : ∀ e ∈ reductions, e.eventType = .PARTIAL_CLOSE
  closes : final.eventType = .CLOSE
  valid : ∀ e ∈ reductions ++ [final], e.contractError = none
  priced : ∀ e ∈ reductions ++ [final], e.Priced
  /-- The net as the normalizer computes it. -/
  booked : ∀ e ∈ reductions ++ [final],
    e.netRealizedPl = e.realizedPl + e.financing - e.commission
  plain : ∀ e ∈ reductions ++ [final], e.financing = 0 ∧ e.commission = 0

instance (reductions : List TradeHistoryEvent) (final : TradeHistoryEvent) :
    Decidable (ClosedInParts reductions final) :=
  decidable_of_iff ((∀ e ∈ reductions, e.eventType = .PARTIAL_CLOSE) ∧ final.eventType = .CLOSE ∧
      (∀ e ∈ reductions ++ [final], e.contractError = none) ∧
      (∀ e ∈ reductions ++ [final], e.Priced) ∧
      (∀ e ∈ reductions ++ [final], e.netRealizedPl = e.realizedPl + e.financing - e.commission) ∧
      ∀ e ∈ reductions ++ [final], e.financing = 0 ∧ e.commission = 0)
    ⟨fun ⟨h₁, h₂, h₃, h₄, h₅, h₆⟩ => ⟨h₁, h₂, h₃, h₄, h₅, h₆⟩,
      fun ⟨h₁, h₂, h₃, h₄, h₅, h₆⟩ => ⟨h₁, h₂, h₃, h₄, h₅, h₆⟩⟩

/-- The close price and the account P&L in the record of a trade. -/
def TradeStore.closing (store : TradeStore) (tradeId : String) : Option (Option ℚ × Option ℚ) :=
  (store.getTrade tradeId).map fun record => (record.closePrice, record.accountPnl)

section closers

variable {cfg : Config} {w w' : World} {existing : TradeRecord}
  {reductions : List TradeHistoryEvent} {final : TradeHistoryEvent}

theorem ClosedInParts.hasClose (h : ClosedInParts reductions final)
    {events : List TradeHistoryEvent} (hfills : closeEvents events = reductions ++ [final]) :
    hasClose events = true := by
  rw [← closeEvents_any_close, hfills, List.any_append, List.any_cons, h.closes]
  simp

/-- Without financing and commission the net is the realized P&L. -/
theorem ClosedInParts.netRealizedPl (h : ClosedInParts reductions final) :
    (reductions ++ [final]).map TradeHistoryEvent.netRealizedPl =
      (reductions ++ [final]).map TradeHistoryEvent.realizedPl := by
  refine List.map_congr_left fun e he => ?_
  obtain ⟨hfinancing, hcommission⟩ := h.plain e he
  rw [h.booked e he, hfinancing, hcommission, add_zero, sub_zero]

/-- The projection writes the price of the last fill. -/
theorem projected_closing {b : Bool} (hstored : w.store.getTrade existing.tradeId = some existing)
    (hfills : closeEvents (w.store.tradeEvents existing.tradeId) = reductions ++ [final])
    (hparts : ClosedInParts reductions final)
    (h : (projectTradeRecord cfg existing.tradeId).eval World.answer w = (.ok b, w')) :
    w'.store.closing existing.tradeId = some (some final.fillPrice,
      some ((reductions ++ [final]).map TradeHistoryEvent.realizedPl).sum) := by
  have hclose := hparts.hasClose hfills
  have hevents : w.store.tradeEvents existing.tradeId ≠ [] := by
    intro hnil
    rw [hnil] at hclose
    exact absurd hclose Bool.false_ne_true
  obtain ⟨hprojects, -, hget⟩ := projectTradeRecord_ok h
  obtain ⟨result, hresult⟩ := hprojects hevents
  rw [hstored] at hresult hget
  cases result with
  | none => exact absurd hresult projection_some_ne_none
  | some record =>
      obtain ⟨base, -, ⟨hopen, -⟩ | ⟨-, last, pips, hlast, -, hrecord⟩⟩ := projection_some hresult
      · rw [hclose] at hopen
        cases hopen
      · rw [hfills, List.getLast?_concat, Option.some.injEq] at hlast
        subst hlast
        have hpriced := hparts.priced final List.mem_concat_self
        rw [TradeStore.closing, hget, journalRecord_of_some hevents hresult, Option.map_some,
          TradeFields.validate_ok hrecord, hfills]
        simp only [TradeFields.normalizeCurrencies, closedFields, hpriced.priceOrElse_eq,
          hparts.netRealizedPl]

/-- The poller writes the average price of the broker. -/
theorem polled_closing {now : Instant} {accountCurrency : String}
    {current : List (String × OpenTrade)} {result : List PollEvent × List String}
    {detail : TradeDetail} {average realized : ℚ}
    (hstored : w.store.getTrade existing.tradeId = some existing)
    (hmissing : current.any (fun entry => entry.1 == existing.tradeId) = false)
    (hdetail : w.broker.tradeDetail existing.tradeId = some detail)
    (haverage : detail.averageClosePrice = some average)
    (hrealized : detail.realizedPL = some realized)
    (h : (pollExisting cfg now accountCurrency current existing).eval World.answer w =
      (.ok result, w')) :
    w'.store.closing existing.tradeId = some (some average, some realized) := by
  have hcloses : closes w current existing.tradeId = true := by
    rw [closes, hmissing, hdetail]
    rfl
  obtain ⟨detail', transactions, e, pips, closed, hdetail', he, -, hclosed, -, rfl⟩ :=
    pollExisting_closed hstored hcloses h
  obtain rfl := Option.some.inj (hdetail.symm.trans hdetail')
  obtain ⟨instrument, currency, -, rfl⟩ := TradeClosedEvent.validated_ok he
  rw [TradeStore.closing, World.withStore_store,
    w.store.getTrade_upsertTrade_self (closedByPoller_ok hclosed).1, Option.map_some,
    TradeFields.validate_ok hclosed]
  simp only [TradeFields.normalizeCurrencies, closedByPoller, resolveClosePrice_average haverage,
    hrealized, Option.getD_some]

/-- **The projection and the poller give a closed trade the same close price and money exactly when
it was never reduced, or the mean price of its reductions is the price of its closing fill.** -/
theorem closers_agree_iff (cfg : Config) (w projected polled : World) (existing : TradeRecord)
    (reductions : List TradeHistoryEvent) (final : TradeHistoryEvent) (detail : TradeDetail)
    (now : Instant) (accountCurrency : String) (current : List (String × OpenTrade)) (b : Bool)
    (result : List PollEvent × List String)
    (hstored : w.store.getTrade existing.tradeId = some existing)
    (hfills : closeEvents (w.store.tradeEvents existing.tradeId) = reductions ++ [final])
    (hparts : ClosedInParts reductions final)
    (hmissing : current.any (fun entry => entry.1 == existing.tradeId) = false)
    (hdetail : w.broker.tradeDetail existing.tradeId = some detail)
    (haverage : detail.averageClosePrice = some (averageFillPrice (reductions ++ [final])))
    (hrealized : detail.realizedPL =
      some ((reductions ++ [final]).map TradeHistoryEvent.realizedPl).sum)
    (hprojected : (projectTradeRecord cfg existing.tradeId).eval World.answer w = (.ok b, projected))
    (hpolled : (pollExisting cfg now accountCurrency current existing).eval World.answer w =
      (.ok result, polled)) :
    polled.store.closing existing.tradeId = projected.store.closing existing.tradeId ↔
      reductions = [] ∨ averageFillPrice reductions = final.fillPrice := by
  have hunits : ∀ e ∈ reductions ++ [final], 0 < |e.units| :=
    fun e he => absUnits_pos (hparts.valid e he)
  rw [polled_closing hstored hmissing hdetail haverage hrealized hpolled,
    projected_closing hstored hfills hparts hprojected]
  simp only [Option.some.injEq, Prod.mk.injEq, and_true]
  exact weightedMean_concat_eq_iff hunits

end closers

/-! ### A trade that is closed in two fills -/

def sampleClose (id : ℕ) (eventType : TradeHistoryEventType) (units price realizedPl : ℚ) :
    TradeHistoryEvent :=
  legEvent (sampleFill id id "MARKET_ORDER" 0) id "001" "EUR_USD" "UTC"
    ⟨eventType, "1", units, some price, realizedPl, 0⟩ 0

def sampleOpenRecord (units : ℚ) : TradeFields :=
  openFields "1" {
    units
    openPrice := 11 / 10
    openedAt := 0
    instrument := "EUR_USD"
    slPrice := none
    tpPrice := none
    gsloPrice := none
    notes := none }

/-- 100 units, bought at 1.1. -/
def sampleLong : TradeRecord := ⟨sampleOpenRecord 100, by decide +kernel⟩

/-- 100 units, sold at 1.1. -/
def sampleShort : TradeRecord := ⟨sampleOpenRecord (-100), by decide +kernel⟩

/-- The broker's detail of a trade that was closed by these fills. -/
def detailOfFills (fills : List TradeHistoryEvent) : TradeDetail where
  averageClosePrice := some (averageFillPrice fills)
  realizedPL := some (fills.map TradeHistoryEvent.realizedPl).sum

/-- The long trade in the journal, and its closing fills in the history and at the broker. -/
def closedAtBroker (fills : List TradeHistoryEvent) : World :=
  let w := (sampleWorld noFills).withStore
    ((TradeStore.empty.upsertTrade sampleLong).upsertTradeHistoryEvents (fills.map .trade)).2
  { w with broker := { w.broker with tradeDetail := fun _ => some (detailOfFills fills) } }

/-- 40 units are sold at 1.2. -/
def sampleReduction : TradeHistoryEvent := sampleClose 2 .PARTIAL_CLOSE (-40) (12 / 10) 4

/-- The other 60 are sold at this price. -/
def sampleClosing (price : ℚ) : TradeHistoryEvent :=
  sampleClose 3 .CLOSE (-60) price (60 * (price - 11 / 10))

/-- What the projection of the closed trade returns, and the world it leaves. -/
def sampleProjected (fills : List TradeHistoryEvent) : Except Exn Bool × World :=
  (projectTradeRecord sampleConfig "1").eval World.answer (closedAtBroker fills)

/-- What the poller's turn on the closed trade returns, and the world it leaves. -/
def samplePolled (fills : List TradeHistoryEvent) :
    Except Exn (List PollEvent × List String) × World :=
  (pollExisting sampleConfig 5 "SGD" [] sampleLong).eval World.answer (closedAtBroker fills)

/-- The trade is reduced at 1.2 and closed at 1.3: the projection writes 1.3 and the poller 1.26. -/
theorem closers_disagree :
    let fills := [sampleReduction, sampleClosing (13 / 10)]
    (closedAtBroker fills).store.getTrade "1" = some sampleLong ∧
      closeEvents ((closedAtBroker fills).store.tradeEvents "1") = fills ∧
      ClosedInParts [sampleReduction] (sampleClosing (13 / 10)) ∧
      (closedAtBroker fills).broker.tradeDetail "1" = some (detailOfFills fills) ∧
      (sampleProjected fills).1 = .ok true ∧ (samplePolled fills).1.isOk = true ∧
      (sampleProjected fills).2.store.closing "1" = some (some (13 / 10), some 16) ∧
      (samplePolled fills).2.store.closing "1" = some (some (63 / 50), some 16) := by
  decide +kernel

/-- The trade is reduced and closed at 1.2. -/
theorem closers_agree_onePrice :
    let fills := [sampleReduction, sampleClosing (12 / 10)]
    (samplePolled fills).2.store.closing "1" = (sampleProjected fills).2.store.closing "1" := by
  intro fills
  have hprojected : (sampleProjected fills).1 = .ok true := by decide +kernel
  have hpolled : (samplePolled fills).1.isOk = true := by decide +kernel
  obtain ⟨result, hresult⟩ : ∃ result, (samplePolled fills).1 = .ok result := by
    cases h : (samplePolled fills).1 with
    | ok result => exact ⟨result, rfl⟩
    | error e => rw [h] at hpolled; cases hpolled
  exact (closers_agree_iff sampleConfig (closedAtBroker fills) (sampleProjected fills).2
    (samplePolled fills).2 sampleLong [sampleReduction] (sampleClosing (12 / 10))
    (detailOfFills fills) 5 "SGD" [] true result (by decide +kernel) (by decide +kernel)
    (by decide +kernel) rfl rfl rfl rfl (Prod.ext hprojected rfl) (Prod.ext hresult rfl)).mpr
    (by decide +kernel)

/-- The poller's event for the short trade, closed at the broker's average price. -/
def sampleClosedEvent (fills : List TradeHistoryEvent) : TradeClosedEvent where
  tradeId := "1"
  instrument := "EUR_USD"
  units := -100
  openPrice := 11 / 10
  closePrice := resolveClosePrice (detailOfFills fills) (11 / 10)
  realizedPnl := none
  closeReason := .MANUAL
  closedAt := 5
  accountCurrency := none

/-- A short trade, bought back at 1.0 and 1.2: both formulas give a loss of 200 pips. -/
theorem weightedClosePips_short :
    let fills := [sampleClose 2 .PARTIAL_CLOSE 40 1 0, sampleClose 3 .CLOSE 60 (12 / 10) 0]
    weightedClosePips sampleConfig (recordBase sampleShort.toTradeFields) (closeEvents fills) =
      .ok (some (-200)) := by
  intro fills
  exact ((weightedClosePips_eq_computePips sampleConfig sampleShort fills
    (recordBase sampleShort.toTradeFields) (detailOfFills (closeEvents fills))
    (sampleClosedEvent (closeEvents fills)) (1 / 10000) rfl (by decide +kernel)
    (by decide +kernel) (by decide +kernel) rfl rfl rfl).1 (-200)).mpr (by decide +kernel)

end OandaV3
