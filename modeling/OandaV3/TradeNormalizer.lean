import Mathlib.Algebra.Order.BigOperators.Group.List
import Mathlib.Algebra.Order.Floor.Ring
import Mathlib.Data.Rat.Floor
import Mathlib.Tactic.Ring
import OandaV3.Fallible
import OandaV3.Models

/-! # Transaction normalization

`journal/trade_normalizer.py`: one broker transaction becomes zero or more history rows.  An
order fill yields one row for each of its legs (the opened trade, every closed trade, the reduced
trade, in this order); a daily financing yields one row for each position.

* `normalizeTransactions_ok`: a successful normalization is the concatenation of the rows of the
  transactions, `normalizedRows`.
* `row_of_mem`, `eventId_of_mem`: every row belongs to a leg or a position of its transaction, whose
  id is part of the event id.
* `id_eq_of_eventId_eq`: rows of different transactions never share an event id. -/

namespace OandaV3

/-- `Decimal("0")` when the payload has no value. -/
def decimalFrom (value : Option Decimal) : ℚ := (value.map Decimal.toRat).getD 0

/-- `_optional_decimal`. -/
def optionalDecimal (value : Option Decimal) : Option ℚ := value.map Decimal.toRat

/-- `_optional_string`. -/
def optionalString (value : Option String) : Option String :=
  (value.map Text.strip).filter (fun s => !s.isEmpty)

/-- `_required_string`. -/
def requiredString (value : Option String) (key : String) : Except Exn String :=
  match value with
  | none => .error (.valueError s!"Missing required transaction field '{key}'.")
  | some s =>
      if Text.isBlank s then .error (.valueError s!"Missing required transaction field '{key}'.")
      else .ok s

/-- `parse_oanda_timestamp`, on a parsed instant. -/
def parseOandaTimestamp (value : Option Instant) : Except Exn Instant :=
  match value with
  | none => .error (.valueError "OANDA timestamp is missing.")
  | some t => .ok t

/-- Python's `price or fallback`: a zero price is no price. -/
def priceOr (price fallback : Option ℚ) : Option ℚ :=
  match price with
  | some p => if p = 0 then fallback else some p
  | none => fallback

/-! ### Commission -/

/-- `_decimal_quantum`. -/
def decimalQuantum (value : Decimal) : ℚ :=
  if 0 ≤ value.exponent then 1 else (10 : ℚ) ^ value.exponent

/-- `quantize(quantum, rounding=ROUND_HALF_UP)`: ties go away from zero. -/
def quantizeHalfUp (q quantum : ℚ) : ℚ :=
  if 0 ≤ q then ⌊q / quantum + 1 / 2⌋ * quantum else -(⌊-q / quantum + 1 / 2⌋ * quantum)

/-- The loop of `_allocate_commission`: the last unit gets what is left. -/
def allocateFrom (totalCommission totalAbsUnits quantum : ℚ) : ℚ → List ℚ → List ℚ
  | _, [] => []
  | runningTotal, [_] => [totalCommission - runningTotal]
  | runningTotal, unit :: units =>
      let allocation := quantizeHalfUp (totalCommission * |unit| / totalAbsUnits) quantum
      allocation :: allocateFrom totalCommission totalAbsUnits quantum (runningTotal + allocation) units

/-- `_allocate_commission`. -/
def allocateCommission (totalCommission : Decimal) (units : List ℚ) : List ℚ :=
  let totalAbsUnits := (units.map (|·|)).sum
  if totalAbsUnits = 0 then units.map (fun _ => 0)
  else allocateFrom totalCommission.toRat totalAbsUnits (decimalQuantum totalCommission) 0 units

theorem length_allocateFrom (totalCommission totalAbsUnits quantum : ℚ) (units : List ℚ)
    (runningTotal : ℚ) :
    (allocateFrom totalCommission totalAbsUnits quantum runningTotal units).length =
      units.length := by
  induction units generalizing runningTotal with
  | nil => rfl
  | cons unit units ih =>
      cases units with
      | nil => rfl
      | cons next units => rw [allocateFrom, List.length_cons, ih, List.length_cons] <;> simp

theorem length_allocateCommission (totalCommission : Decimal) (units : List ℚ) :
    (allocateCommission totalCommission units).length = units.length := by
  simp only [allocateCommission]
  split_ifs
  · exact List.length_map _
  · exact length_allocateFrom _ _ _ _ _

theorem sum_allocateFrom (totalCommission totalAbsUnits quantum : ℚ) {units : List ℚ}
    (hunits : units ≠ []) (runningTotal : ℚ) :
    (allocateFrom totalCommission totalAbsUnits quantum runningTotal units).sum =
      totalCommission - runningTotal := by
  induction units generalizing runningTotal with
  | nil => exact absurd rfl hunits
  | cons unit units ih =>
      cases units with
      | nil => exact List.sum_singleton
      | cons next units =>
          rw [allocateFrom, List.sum_cons, ih (List.cons_ne_nil _ _)]
          · ring
          · exact List.cons_ne_nil _ _

/-- The shares add up to the commission when there is a leg with units. -/
theorem sum_allocateCommission (totalCommission : Decimal) {units : List ℚ} {unit : ℚ}
    (hmem : unit ∈ units) (hunit : unit ≠ 0) :
    (allocateCommission totalCommission units).sum = totalCommission.toRat := by
  have hnonneg : ∀ x ∈ units.map (|·|), 0 ≤ x := by
    intro x hx
    obtain ⟨u, -, rfl⟩ := List.mem_map.mp hx
    exact abs_nonneg u
  have hpos : 0 < (units.map (|·|)).sum :=
    lt_of_lt_of_le (abs_pos.mpr hunit)
      (List.single_le_sum hnonneg _ (List.mem_map_of_mem hmem))
  rw [allocateCommission, if_neg hpos.ne', sum_allocateFrom _ _ _ (List.ne_nil_of_mem hmem), sub_zero]

/-! ### Order fills -/

/-- One leg of an order fill. -/
structure Leg where
  eventType : TradeHistoryEventType
  tradeId : String
  units : ℚ
  price : Option ℚ
  realizedPl : ℚ
  financing : ℚ
deriving DecidableEq, Repr

/-- The leg of `tradeOpened`. -/
def openedLeg (t : Transaction) (opened : TradeLink) : Except Exn Leg := do
  let tradeId ← requiredString opened.tradeID "tradeID"
  return {
    eventType := .OPEN
    tradeId
    units := decimalFrom (opened.units.or t.units)
    price := priceOr (optionalDecimal opened.price) (optionalDecimal t.price)
    realizedPl := 0
    financing := 0 }

/-- The leg of an entry of `tradesClosed`, or of `tradeReduced`. -/
def closedLeg (eventType : TradeHistoryEventType) (t : Transaction) (closed : TradeLink) :
    Except Exn Leg := do
  let tradeId ← requiredString closed.tradeID "tradeID"
  return {
    eventType
    tradeId
    units := decimalFrom closed.units
    price := priceOr (optionalDecimal closed.price) (optionalDecimal t.price)
    realizedPl := decimalFrom closed.realizedPL
    financing := decimalFrom closed.financing }

/-- All legs of an order fill. -/
def legs (t : Transaction) : Except Exn (List Leg) := do
  let opened ← t.tradeOpened.toList.mapM (openedLeg t)
  let closed ← t.tradesClosed.mapM (closedLeg .CLOSE t)
  let reduced ← t.tradeReduced.toList.mapM (closedLeg .PARTIAL_CLOSE t)
  return opened ++ closed ++ reduced

/-- `_resolve_side`. -/
def resolveSide (units fallbackUnits : ℚ) : TradeDirection :=
  let signedUnits := if units ≠ 0 then units else fallbackUnits
  if 0 < signedUnits then .LONG else .SHORT

/-- The event id of a row. -/
def eventIdText (transactionId : ℕ) (kind subject : String) : String :=
  toString transactionId ++ ":" ++ kind ++ ":" ++ subject

/-- `TradeHistoryEvent(...)` for one leg and its share of the commission. -/
def legEvent (t : Transaction) (timeUtc : Instant) (accountId instrument zone : String)
    (leg : Leg) (commission : ℚ) : TradeHistoryEvent where
  eventId := eventIdText t.id leg.eventType.text leg.tradeId
  transactionId := t.id
  batchId := optionalString t.batchID
  eventType := leg.eventType
  accountId := accountId
  instrument := instrument
  tradeId := leg.tradeId
  orderId := optionalString t.orderID
  units := leg.units
  absUnits := |leg.units|
  side := resolveSide leg.units (decimalFrom t.units)
  price := leg.price
  realizedPl := leg.realizedPl
  financing := leg.financing
  commission := commission
  netRealizedPl := leg.realizedPl + leg.financing - commission
  timeUtc := timeUtc
  timeLocal := ⟨timeUtc, zone⟩
  reason := optionalString t.reason
  rawJson := .encoded t.raw

/-- A row that meets its contract, or the validation error. -/
def checked {α : Type} (a : α) (violation : Option String) : Except Exn α :=
  match violation with
  | none => .ok a
  | some message => .error (.valueError message)

/-- `_normalize_order_fill`. -/
def normalizeOrderFill (journalTimezone : String) (t : Transaction) :
    Except Exn (List HistoryRow) := do
  let timeUtc ← parseOandaTimestamp t.time
  let accountId ← requiredString t.accountID "accountID"
  let instrument ← requiredString t.instrument "instrument"
  let fillLegs ← legs t
  let shares := allocateCommission (t.commission.getD ⟨0, 0⟩) (fillLegs.map Leg.units)
  (fillLegs.zip shares).mapM fun (leg, commission) =>
    let event := legEvent t timeUtc accountId instrument journalTimezone leg commission
    checked (.trade event) event.contractError

/-! ### Daily financing -/

/-- `FinancingEvent(...)` for one position, or for the account. -/
def financingRow (t : Transaction) (timeUtc : Instant) (accountId zone : String)
    (instrument : Option String) (financing : Option Decimal) : FinancingEvent where
  eventId := eventIdText t.id "DAILY_FINANCING" (instrument.getD "ACCOUNT")
  transactionId := t.id
  accountId := accountId
  instrument := instrument
  financing := decimalFrom financing
  timeUtc := timeUtc
  timeLocal := ⟨timeUtc, zone⟩
  rawJson := .encoded t.raw

/-- `_normalize_daily_financing`. -/
def normalizeDailyFinancing (journalTimezone : String) (t : Transaction) :
    Except Exn (List HistoryRow) := do
  let timeUtc ← parseOandaTimestamp t.time
  let accountId ← requiredString t.accountID "accountID"
  let rows :=
    if t.positionFinancings.isEmpty then
      [financingRow t timeUtc accountId journalTimezone none t.financing]
    else t.positionFinancings.map fun item =>
      financingRow t timeUtc accountId journalTimezone (optionalString item.instrument) item.financing
  rows.mapM fun event => checked (.financing event) event.contractError

/-! ### Transactions -/

/-- `normalize_transaction`. -/
def normalizeTransaction (journalTimezone : String) (t : Transaction) :
    Except Exn (List HistoryRow) :=
  match Text.upper (Text.strip (t.type.getD "")) with
  | "ORDER_FILL" => normalizeOrderFill journalTimezone t
  | "DAILY_FINANCING" => normalizeDailyFinancing journalTimezone t
  | _ => .ok []

/-- `normalize_transactions`. -/
def normalizeTransactions (journalTimezone : String) (transactions : List Transaction) :
    Except Exn (List HistoryRow) := do
  let rows ← transactions.mapM (normalizeTransaction journalTimezone)
  return rows.flatten

/-- The rows of one transaction; none when the normalizer rejects it. -/
def normalizedRows (journalTimezone : String) (t : Transaction) : List HistoryRow :=
  match normalizeTransaction journalTimezone t with
  | .ok rows => rows
  | .error _ => []

/-! ### Checked rows -/

open Fallible

section checked

variable {α β : Type}

theorem checked_eq_ok {a b : α} {v : Option String} :
    checked a v = .ok b ↔ v = none ∧ a = b := by
  cases v with
  | none => exact ⟨fun h => ⟨rfl, Except.ok.inj h⟩, fun h => congrArg _ h.2⟩
  | some m => exact ⟨fun h => (nomatch h), fun h => (nomatch h.1)⟩

/-- Checked rows are the rows that were built, and each of them meets its contract. -/
theorem mapM_checked_eq_ok {as : List α} {g : α → β} {v : α → Option String} {bs : List β}
    (h : as.mapM (fun a => checked (g a) (v a)) = .ok bs) :
    bs = as.map g ∧ ∀ a ∈ as, v a = none := by
  induction mapM_eq_ok.mp h with
  | nil => exact ⟨rfl, fun a ha => by cases ha⟩
  | cons hhead htail ih =>
      obtain ⟨hv, rfl⟩ := checked_eq_ok.mp hhead
      obtain ⟨rfl, htail'⟩ := ih (mapM_eq_ok.mpr htail)
      exact ⟨rfl, List.forall_mem_cons.mpr ⟨hv, htail'⟩⟩

end checked

section rows

variable {zone : String} {ts : List Transaction} {t : Transaction} {rows : List HistoryRow}
  {row : HistoryRow}

theorem exists_share (total : Decimal) {fillLegs : List Leg} {leg : Leg} (hleg : leg ∈ fillLegs) :
    ∃ commission, (leg, commission) ∈
      fillLegs.zip (allocateCommission total (fillLegs.map Leg.units)) := by
  obtain ⟨i, hi, rfl⟩ := List.getElem_of_mem hleg
  have hlt : i < (allocateCommission total (fillLegs.map Leg.units)).length := by
    rw [length_allocateCommission, List.length_map]
    exact hi
  exact ⟨_, List.mem_iff_getElem.mpr ⟨i, by simpa using ⟨hi, hlt⟩, List.getElem_zip⟩⟩

theorem normalizeOrderFill_ok (h : normalizeOrderFill zone t = .ok rows) :
    ∃ timeUtc accountId instrument fillLegs, t.time = some timeUtc ∧
      requiredString t.accountID "accountID" = .ok accountId ∧
      requiredString t.instrument "instrument" = .ok instrument ∧ legs t = .ok fillLegs ∧
      (∀ leg ∈ fillLegs, leg.units ≠ 0) ∧
      rows = (fillLegs.zip (allocateCommission (t.commission.getD ⟨0, 0⟩)
        (fillLegs.map Leg.units))).map (fun (leg, commission) =>
          .trade (legEvent t timeUtc accountId instrument zone leg commission)) := by
  obtain ⟨timeUtc, htime, h⟩ := bind_eq_ok.mp h
  obtain ⟨accountId, haccount, h⟩ := bind_eq_ok.mp h
  obtain ⟨instrument, hinstrument, h⟩ := bind_eq_ok.mp h
  obtain ⟨fillLegs, hlegs, h⟩ := bind_eq_ok.mp h
  refine ⟨timeUtc, accountId, instrument, fillLegs, ?_, haccount, hinstrument, hlegs,
    fun leg hleg => ?_, (mapM_checked_eq_ok h).1⟩
  · cases htime' : t.time with
    | none => rw [htime'] at htime; cases htime
    | some u => rw [htime'] at htime; exact congrArg some (Except.ok.inj htime)
  · obtain ⟨commission, hshare⟩ := exists_share (t.commission.getD ⟨0, 0⟩) hleg
    have hcontract := (mapM_checked_eq_ok h).2 _ hshare
    exact TradeHistoryEvent.units_ne_zero _ hcontract

/-- An accepted daily financing yields financing rows of the transaction. -/
theorem normalizeDailyFinancing_ok (h : normalizeDailyFinancing zone t = .ok rows) :
    ∀ row ∈ rows, ∃ timeUtc accountId instrument financing,
      row = .financing (financingRow t timeUtc accountId zone instrument financing) := by
  obtain ⟨timeUtc, htime, h⟩ := bind_eq_ok.mp h
  obtain ⟨accountId, haccount, h⟩ := bind_eq_ok.mp h
  intro row hrow
  rw [(mapM_checked_eq_ok h).1] at hrow
  obtain ⟨event, hevent, rfl⟩ := List.mem_map.mp hrow
  split_ifs at hevent
  · exact ⟨_, _, _, _, by rw [List.mem_singleton.mp hevent]⟩
  · obtain ⟨item, -, rfl⟩ := List.mem_map.mp hevent
    exact ⟨_, _, _, _, rfl⟩

theorem requiredString_ok {value : Option String} {key s : String}
    (h : requiredString value key = .ok s) : value = some s := by
  cases value with
  | none => cases h
  | some v =>
      simp only [requiredString] at h
      split_ifs at h with hblank
      exact congrArg some (Except.ok.inj h)

/-- The legs of a fill are its opened trade, its closed trades and its reduced trade. -/
theorem legs_ok {fillLegs : List Leg} (h : legs t = .ok fillLegs) : ∃ opened closed reduced,
    t.tradeOpened.toList.mapM (openedLeg t) = .ok opened ∧
    t.tradesClosed.mapM (closedLeg .CLOSE t) = .ok closed ∧
    t.tradeReduced.toList.mapM (closedLeg .PARTIAL_CLOSE t) = .ok reduced ∧
    fillLegs = opened ++ closed ++ reduced := by
  obtain ⟨opened, hopened, h⟩ := bind_eq_ok.mp h
  obtain ⟨closed, hclosed, h⟩ := bind_eq_ok.mp h
  obtain ⟨reduced, hreduced, h⟩ := bind_eq_ok.mp h
  exact ⟨opened, closed, reduced, hopened, hclosed, hreduced, (Except.ok.inj h).symm⟩

theorem link_of_leg {fillLegs : List Leg} (h : legs t = .ok fillLegs) {leg : Leg}
    (hleg : leg ∈ fillLegs) :
    (∃ opened ∈ t.tradeOpened, openedLeg t opened = .ok leg) ∨
    (∃ closed ∈ t.tradesClosed, closedLeg .CLOSE t closed = .ok leg) ∨
    ∃ reduced ∈ t.tradeReduced, closedLeg .PARTIAL_CLOSE t reduced = .ok leg := by
  obtain ⟨opened, closed, reduced, hopened, hclosed, hreduced, rfl⟩ := legs_ok h
  rcases List.mem_append.mp hleg with hleg | hleg
  · rcases List.mem_append.mp hleg with hleg | hleg
    · obtain ⟨link, hlink, hok⟩ := mem_of_mapM hopened hleg
      exact Or.inl ⟨link, by simpa using hlink, hok⟩
    · exact Or.inr (Or.inl (mem_of_mapM hclosed hleg))
  · obtain ⟨link, hlink, hok⟩ := mem_of_mapM hreduced hleg
    exact Or.inr (Or.inr ⟨link, by simpa using hlink, hok⟩)

theorem openedLeg_ok {opened : TradeLink} {leg : Leg} (h : openedLeg t opened = .ok leg) :
    opened.tradeID = some leg.tradeId ∧ leg.eventType = .OPEN ∧
      leg.units = decimalFrom (opened.units.or t.units) ∧
      leg.price = priceOr (optionalDecimal opened.price) (optionalDecimal t.price) ∧
      leg.realizedPl = 0 ∧ leg.financing = 0 := by
  obtain ⟨tradeId, hid, h⟩ := bind_eq_ok.mp h
  obtain rfl := Except.ok.inj h
  exact ⟨requiredString_ok hid, rfl, rfl, rfl, rfl, rfl⟩

theorem closedLeg_ok {eventType : TradeHistoryEventType} {closed : TradeLink} {leg : Leg}
    (h : closedLeg eventType t closed = .ok leg) :
    closed.tradeID = some leg.tradeId ∧ leg.eventType = eventType ∧
      leg.realizedPl = decimalFrom closed.realizedPL ∧
      leg.financing = decimalFrom closed.financing := by
  obtain ⟨tradeId, hid, h⟩ := bind_eq_ok.mp h
  obtain rfl := Except.ok.inj h
  exact ⟨requiredString_ok hid, rfl, rfl, rfl⟩

theorem normalizedRows_of_ok (h : normalizeTransaction zone t = .ok rows) :
    normalizedRows zone t = rows := by
  rw [normalizedRows, h]

/-- Every row of a transaction is the event of one of its legs, or a financing row. -/
theorem row_of_mem (h : row ∈ normalizedRows zone t) :
    (∃ timeUtc accountId instrument fillLegs leg commission,
      Text.upper (Text.strip (t.type.getD "")) = "ORDER_FILL" ∧ t.time = some timeUtc ∧
      t.instrument = some instrument ∧ legs t = .ok fillLegs ∧ leg ∈ fillLegs ∧
      row = .trade (legEvent t timeUtc accountId instrument zone leg commission)) ∨
    ∃ timeUtc accountId instrument financing,
      row = .financing (financingRow t timeUtc accountId zone instrument financing) := by
  cases hrows : normalizeTransaction zone t with
  | error e => rw [normalizedRows, hrows] at h; cases h
  | ok rows =>
      rw [normalizedRows_of_ok hrows] at h
      unfold normalizeTransaction at hrows
      split at hrows
      · next hfill =>
          obtain ⟨timeUtc, accountId, instrument, fillLegs, htime, -, hinstrument, hlegs, -, rfl⟩ :=
            normalizeOrderFill_ok hrows
          obtain ⟨⟨leg, commission⟩, hmem, rfl⟩ := List.mem_map.mp h
          exact Or.inl ⟨_, _, _, _, leg, commission, hfill, htime, requiredString_ok hinstrument, hlegs,
            (List.of_mem_zip hmem).1, rfl⟩
      · exact Or.inr (normalizeDailyFinancing_ok hrows row h)
      · cases hrows
        cases h

theorem event_of_mem {e : TradeHistoryEvent} (h : .trade e ∈ normalizedRows zone t) :
    (e.eventType = .OPEN ∧ ∃ opened ∈ t.tradeOpened, opened.tradeID = some e.tradeId) ∨
    (e.eventType = .CLOSE ∧ ∃ closed ∈ t.tradesClosed, closed.tradeID = some e.tradeId) ∨
    (e.eventType = .PARTIAL_CLOSE ∧
      ∃ reduced ∈ t.tradeReduced, reduced.tradeID = some e.tradeId) := by
  rcases row_of_mem h with ⟨_, _, _, _, leg, _, -, -, -, hlegs, hleg, hrow⟩ | ⟨_, _, _, _, hrow⟩
  · obtain rfl := HistoryRow.trade.inj hrow
    rcases link_of_leg hlegs hleg with ⟨link, hlink, hok⟩ | ⟨link, hlink, hok⟩ | ⟨link, hlink, hok⟩
    · obtain ⟨hid, htype, -⟩ := openedLeg_ok hok
      exact Or.inl ⟨htype, link, hlink, hid⟩
    · obtain ⟨hid, htype, -⟩ := closedLeg_ok hok
      exact Or.inr (Or.inl ⟨htype, link, hlink, hid⟩)
    · obtain ⟨hid, htype, -⟩ := closedLeg_ok hok
      exact Or.inr (Or.inr ⟨htype, link, hlink, hid⟩)
  · cases hrow

theorem openingEvent_of_mem {e : TradeHistoryEvent} (h : .trade e ∈ normalizedRows zone t)
    (hopen : e.eventType = .OPEN) : ∃ opened ∈ t.tradeOpened, opened.tradeID = some e.tradeId ∧
      e.units = decimalFrom (opened.units.or t.units) ∧
      e.price = priceOr (optionalDecimal opened.price) (optionalDecimal t.price) ∧
      t.time = some e.timeUtc ∧ t.instrument = some e.instrument := by
  rcases row_of_mem h with ⟨_, _, _, _, leg, _, -, htime, hinstrument, hlegs, hleg, hrow⟩ |
    ⟨_, _, _, _, hrow⟩
  · obtain rfl := HistoryRow.trade.inj hrow
    rcases link_of_leg hlegs hleg with ⟨link, hlink, hok⟩ | ⟨link, -, hok⟩ | ⟨link, -, hok⟩
    · obtain ⟨hid, -, hunits, hprice, -⟩ := openedLeg_ok hok
      exact ⟨link, hlink, hid, hunits, hprice, htime, hinstrument⟩
    · exact nomatch (closedLeg_ok hok).2.1.symm.trans hopen
    · exact nomatch (closedLeg_ok hok).2.1.symm.trans hopen
  · cases hrow

theorem opened_of_mem {e : TradeHistoryEvent} (h : .trade e ∈ normalizedRows zone t)
    (hopen : e.eventType = .OPEN) : ∃ opened ∈ t.tradeOpened, opened.tradeID = some e.tradeId :=
  let ⟨opened, hopened, hid, _⟩ := openingEvent_of_mem h hopen
  ⟨opened, hopened, hid⟩

theorem closed_of_mem {e : TradeHistoryEvent} (h : .trade e ∈ normalizedRows zone t)
    (hclose : e.eventType = .CLOSE) : ∃ closed ∈ t.tradesClosed, closed.tradeID = some e.tradeId := by
  rcases event_of_mem h with ⟨h, -⟩ | ⟨-, h⟩ | ⟨h, -⟩
  · rw [hclose] at h; cases h
  · exact h
  · rw [hclose] at h; cases h

theorem closeEvent_of_fill {closed : TradeLink} {tradeId : String}
    (hfill : t.type = some "ORDER_FILL") (hrows : normalizeTransaction zone t = .ok rows)
    (hclosed : closed ∈ t.tradesClosed) (hid : closed.tradeID = some tradeId) :
    ∃ e : TradeHistoryEvent, .trade e ∈ rows ∧ e.tradeId = tradeId ∧ e.eventType = .CLOSE := by
  have hnormal : normalizeTransaction zone t = normalizeOrderFill zone t := by
    have htext : Text.upper (Text.strip (t.type.getD "")) = "ORDER_FILL" := by
      rw [hfill]
      decide
    simp only [normalizeTransaction, htext]
  obtain ⟨timeUtc, accountId, instrument, fillLegs, -, -, -, hlegs, -, rfl⟩ :=
    normalizeOrderFill_ok (hnormal ▸ hrows)
  obtain ⟨leg, hleg, hok⟩ : ∃ leg ∈ fillLegs, closedLeg .CLOSE t closed = .ok leg := by
    obtain ⟨opened, closing, reduced, -, hclosing, -, rfl⟩ := legs_ok hlegs
    obtain ⟨leg, hleg, hok⟩ := exists_of_mapM hclosing hclosed
    exact ⟨leg, by simp [hleg], hok⟩
  obtain ⟨hlegId, htype, -⟩ := closedLeg_ok hok
  obtain ⟨commission, hmem⟩ := exists_share (t.commission.getD ⟨0, 0⟩) hleg
  refine ⟨_, List.mem_map.mpr ⟨_, hmem, rfl⟩, ?_, htype⟩
  exact Option.some.inj (hlegId.symm.trans hid)

/-! ### The identity of a row -/

theorem eventId_of_trade {e : TradeHistoryEvent} (h : .trade e ∈ normalizedRows zone t) :
    HistoryRow.eventId (.trade e) = eventIdText t.id e.eventType.text e.tradeId := by
  rcases row_of_mem h with ⟨_, _, _, _, leg, _, -, -, -, -, -, hrow⟩ | ⟨_, _, _, _, hrow⟩
  · obtain rfl := HistoryRow.trade.inj hrow
    rfl
  · cases hrow

theorem eventId_of_financing {e : FinancingEvent} (h : .financing e ∈ normalizedRows zone t) :
    ∃ subject, HistoryRow.eventId (.financing e) = eventIdText t.id "DAILY_FINANCING" subject := by
  rcases row_of_mem h with ⟨_, _, _, _, _, _, -, -, -, -, -, hrow⟩ | ⟨_, _, _, _, hrow⟩
  · cases hrow
  · obtain rfl := HistoryRow.financing.inj hrow
    exact ⟨_, rfl⟩

theorem eventId_of_mem (h : row ∈ normalizedRows zone t) :
    ∃ kind subject, row.eventId = eventIdText t.id kind subject := by
  rcases row_of_mem h with ⟨_, _, _, _, _, _, -, -, -, -, -, rfl⟩ | ⟨_, _, _, _, rfl⟩ <;>
    exact ⟨_, _, rfl⟩

/-- What stands before the first colon, and what stands after it. -/
theorem eq_of_append_colon {a b rest rest' : List Char} (ha : ':' ∉ a) (hb : ':' ∉ b)
    (h : a ++ ':' :: rest = b ++ ':' :: rest') : a = b ∧ rest = rest' := by
  induction a generalizing b with
  | nil =>
      cases b with
      | nil => exact ⟨rfl, (List.cons.inj h).2⟩
      | cons c b => exact absurd ((List.cons.inj h).1 ▸ List.mem_cons_self) hb
  | cons c a ih =>
      cases b with
      | nil => exact absurd ((List.cons.inj h).1 ▸ List.mem_cons_self) ha
      | cons c' b =>
          obtain ⟨rfl, htail⟩ := List.cons.inj h
          obtain ⟨rfl, hrest⟩ := ih (List.not_mem_of_not_mem_cons ha)
            (List.not_mem_of_not_mem_cons hb) htail
          exact ⟨rfl, hrest⟩

/-- An event id determines the transaction id it starts with, and what follows it. -/
theorem eventIdText_inj {m n : ℕ} {kind subject kind' subject' : String}
    (h : eventIdText m kind subject = eventIdText n kind' subject') :
    m = n ∧ kind.toList ++ ':' :: subject.toList = kind'.toList ++ ':' :: subject'.toList := by
  have hdigits : ∀ k : ℕ, ':' ∉ (toString k).toList := by
    intro k hcolon
    rw [Nat.toString_eq_repr, Nat.toList_repr] at hcolon
    have hdig : ':'.isDigit = true := Nat.isDigit_of_mem_toDigits (by decide) (by decide) hcolon
    exact absurd hdig (by decide)
  have hlists := congrArg String.toList h
  simp only [eventIdText, String.toList_append, List.append_assoc] at hlists
  obtain ⟨hm, hrest⟩ := eq_of_append_colon (hdigits m) (hdigits n) hlists
  refine ⟨?_, hrest⟩
  simp only [Nat.toString_eq_repr, Nat.toList_repr] at hm
  calc m = Nat.ofDigitChars 10 (Nat.toDigits 10 m) 0 := Nat.ofDigitChars_ten_toDigits.symm
    _ = Nat.ofDigitChars 10 (Nat.toDigits 10 n) 0 := by rw [hm]
    _ = n := Nat.ofDigitChars_ten_toDigits

/-- The event id of a trade event determines its type and its trade. -/
theorem eventType_of_eventIdText {m n : ℕ} {type type' : TradeHistoryEventType}
    {tradeId tradeId' : String}
    (h : eventIdText m type.text tradeId = eventIdText n type'.text tradeId') :
    type = type' ∧ tradeId = tradeId' := by
  have htext : ∀ type : TradeHistoryEventType, ':' ∉ type.text.toList := by
    intro type
    cases type <;> decide
  obtain ⟨htype, hid⟩ := eq_of_append_colon (htext type) (htext type') (eventIdText_inj h).2
  refine ⟨?_, String.toList_injective hid⟩
  cases type <;> cases type' <;> first | rfl | exact absurd htype (by decide)

/-- Rows of different transactions never share an event id. -/
theorem id_eq_of_eventId_eq {zone' : String} {t' : Transaction} {row' : HistoryRow}
    (h : row ∈ normalizedRows zone t) (h' : row' ∈ normalizedRows zone' t')
    (hid : row.eventId = row'.eventId) : t.id = t'.id := by
  obtain ⟨kind, subject, hrow⟩ := eventId_of_mem h
  obtain ⟨kind', subject', hrow'⟩ := eventId_of_mem h'
  rw [hrow, hrow'] at hid
  exact (eventIdText_inj hid).1

/-! ### Rows of a batch -/

/-- A batch is accepted exactly when each of its transactions is, and then it yields the
concatenation of their rows. -/
theorem normalizeTransactions_ok : normalizeTransactions zone ts = .ok rows ↔
    rows = ts.flatMap (normalizedRows zone) ∧
      ∀ t ∈ ts, normalizeTransaction zone t = .ok (normalizedRows zone t) := by
  rw [normalizeTransactions, bind_eq_ok]
  constructor
  · rintro ⟨rss, hrss, h⟩
    obtain rfl : rss.flatten = rows := Except.ok.inj h
    clear h
    induction mapM_eq_ok.mp hrss with
    | nil => exact ⟨rfl, fun t ht => by cases ht⟩
    | cons hhead htail ih =>
        obtain ⟨hflat, htail'⟩ := ih (mapM_eq_ok.mpr htail)
        rw [List.flatten_cons, hflat, List.flatMap_cons, normalizedRows_of_ok hhead]
        exact ⟨rfl, List.forall_mem_cons.mpr ⟨normalizedRows_of_ok hhead ▸ hhead, htail'⟩⟩
  · rintro ⟨rfl, haccept⟩
    refine ⟨ts.map (normalizedRows zone), mapM_eq_ok.mpr ?_, congrArg Except.ok
      List.flatMap_def.symm⟩
    rw [List.forall₂_map_right_iff, List.forall₂_same]
    exact haccept

end rows

end OandaV3
