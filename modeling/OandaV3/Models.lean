import Mathlib.Data.Rat.Cast.Order
import OandaV3.Text

/-! # Public models

The enumerations, the trade journal record, the normalized history rows, the sync watermark and
the broker payloads (`core/enums.py`, `core/models.py`, `core/events.py`).

* Amounts and prices are exact rationals; an instant is a number of microseconds since the
  epoch, in UTC.
* A `TradeRecord` carries the proof of its own contract, so a record that the validator of
  `core/models.py` rejects cannot be built; `TradeFields.validate` is the only way to make one.
* Transaction ids are the decimal numerals of the broker, carried as the numbers they denote. -/

namespace OandaV3

/-- Exceptions of the modelled code. -/
inductive Exn where
  | valueError (message : String)
  | runtimeError (message : String)
  | keyError (key : String)
  | attributeError (name : String)
  | indexError (message : String)
  | persistenceWriteError (action : String)
  | brokerError (message : String)
deriving DecidableEq, Repr

/-- Microseconds since the epoch, UTC. -/
abbrev Instant := ℤ

inductive TradeState where
  | OPEN
  | CLOSED
deriving DecidableEq, Repr

inductive CloseReason where
  | SL_HIT
  | TP_HIT
  | MIT
  | MANUAL
deriving DecidableEq, Repr

/-! ### Decimals and JSON values -/

/-- A finite `Decimal`: `coefficient * 10 ^ exponent`. -/
structure Decimal where
  coefficient : ℤ
  exponent : ℤ
deriving DecidableEq, Repr

/-- The number a decimal denotes. -/
def Decimal.toRat (d : Decimal) : ℚ := d.coefficient * (10 : ℚ) ^ d.exponent

/-- JSON-like values.  `encoded j` is a string whose text is the JSON serialization of the
object or array `j`; `str` is every other string. -/
inductive Json where
  | null
  | bool (b : Bool)
  | num (q : ℚ)
  | str (s : String)
  | encoded (j : Json)
  | arr (items : List Json)
  | obj (fields : List (String × Json))

namespace Json

mutual
/-- Structural equality test. -/
def beq : Json → Json → Bool
  | null, null => true
  | bool a, bool b => a == b
  | num a, num b => a == b
  | str a, str b => a == b
  | encoded a, encoded b => beq a b
  | arr a, arr b => beqItems a b
  | obj a, obj b => beqFields a b
  | _, _ => false
def beqItems : List Json → List Json → Bool
  | [], [] => true
  | a :: as, b :: bs => beq a b && beqItems as bs
  | _, _ => false
def beqFields : List (String × Json) → List (String × Json) → Bool
  | [], [] => true
  | (k, a) :: as, (k', b) :: bs => k == k' && beq a b && beqFields as bs
  | _, _ => false
end

mutual
theorem beq_iff : ∀ a b : Json, beq a b = true ↔ a = b
  | a, b => by
      cases a <;> cases b <;> simp only [beq, reduceCtorEq, Bool.false_eq_true, beq_iff_eq,
        bool.injEq, num.injEq, str.injEq, encoded.injEq, arr.injEq, obj.injEq]
      · exact beq_iff _ _
      · exact beqItems_iff _ _
      · exact beqFields_iff _ _
theorem beqItems_iff : ∀ as bs : List Json, beqItems as bs = true ↔ as = bs
  | [], [] => by simp [beqItems]
  | [], _ :: _ => by simp [beqItems]
  | _ :: _, [] => by simp [beqItems]
  | a :: as, b :: bs => by simp [beqItems, beq_iff a b, beqItems_iff as bs]
theorem beqFields_iff : ∀ as bs : List (String × Json), beqFields as bs = true ↔ as = bs
  | [], [] => by simp [beqFields]
  | [], _ :: _ => by simp [beqFields]
  | _ :: _, [] => by simp [beqFields]
  | (k, a) :: as, (k', b) :: bs => by simp [beqFields, beq_iff a b, beqFields_iff as bs]
end

instance : DecidableEq Json := fun a b => decidable_of_iff _ (beq_iff a b)

end Json

/-! ### Contracts -/

/-- The message of the first check that fails. -/
def firstViolation (checks : List (Bool × String)) : Option String :=
  (checks.find? (fun c => !c.1)).map Prod.snd

theorem firstViolation_eq_none {checks : List (Bool × String)} :
    firstViolation checks = none ↔ ∀ c ∈ checks, c.1 = true := by
  rw [firstViolation, Option.map_eq_none_iff, List.find?_eq_none]
  simp

/-- `OANDA_INSTRUMENT_RE` on upper-case characters: `^[A-Z0-9]+_[A-Z0-9]+$`. -/
def matchesInstrumentRe (cs : List Char) : Bool :=
  let alnum := fun c : Char => ('A' ≤ c && c ≤ 'Z') || ('0' ≤ c && c ≤ '9')
  match cs.span (· != '_') with
  | (left, '_' :: right) =>
      !left.isEmpty && left.all alnum && !right.isEmpty && right.all alnum
  | _ => false

/-- `_validate_oanda_instrument_symbol`. -/
def validOandaInstrumentSymbol (value : String) : Bool :=
  matchesInstrumentRe (Text.upper (Text.strip value)).toList

/-- `_normalize_currency` of `core/models.py`: the normalized text. -/
def normalizeCurrency (value : String) : String := Text.upper (Text.strip value)

/-- A normalized currency code has three letters. -/
def validCurrency (value : String) : Bool :=
  value.toList.length == 3 && value.toList.all Char.isAlpha

/-- The fields of a trade record, before validation. -/
structure TradeFields where
  tradeId : String
  instrument : String
  units : ℚ
  openPrice : ℚ
  closePrice : Option ℚ
  slPrice : Option ℚ
  tpPrice : Option ℚ
  gsloPrice : Option ℚ
  state : TradeState
  closeReason : Option CloseReason
  pips : Option ℚ
  instrumentPnl : Option ℚ
  instrumentPnlCurrency : Option String
  accountPnl : Option ℚ
  accountCurrency : Option String
  openedAt : Instant
  closedAt : Option Instant
  notes : Option String
deriving DecidableEq, Repr

namespace TradeFields

/-- `_normalize_currencies`. -/
def normalizeCurrencies (r : TradeFields) : TradeFields :=
  { r with
    instrumentPnlCurrency := r.instrumentPnlCurrency.map normalizeCurrency
    accountCurrency := r.accountCurrency.map normalizeCurrency }

def closeOnlyFields (r : TradeFields) : List Bool :=
  [r.closePrice.isSome, r.closeReason.isSome, r.pips.isSome, r.instrumentPnl.isSome,
    r.instrumentPnlCurrency.isSome, r.accountPnl.isSome, r.accountCurrency.isSome,
    r.closedAt.isSome]

/-- `Field(gt=0)` on an optional price. -/
def positive (price : Option ℚ) : Bool := price.all (fun p => decide (0 < p))

/-- `closed_at` is not before `opened_at`. -/
def closesAfterOpening (r : TradeFields) : Bool :=
  r.closedAt.all (fun t => decide (r.openedAt ≤ t))

/-- The first violation of the contract of `TradeRecord`. -/
def contractError (r : TradeFields) : Option String :=
  firstViolation
    [(decide (0 < r.openPrice), "open_price must be greater than 0."),
     (positive r.closePrice, "close_price must be greater than 0."),
     (positive r.slPrice, "sl_price must be greater than 0."),
     (positive r.tpPrice, "tp_price must be greater than 0."),
     (positive r.gsloPrice, "gslo_price must be greater than 0."),
     (r.instrumentPnlCurrency.all validCurrency, "Currency fields must use 3-letter alphabetic codes."),
     (r.accountCurrency.all validCurrency, "Currency fields must use 3-letter alphabetic codes."),
     (validOandaInstrumentSymbol r.instrument,
      "instrument must look like an OANDA instrument symbol such as SPX500_USD or SGD_JPY."),
     (!Text.isBlank r.tradeId, "trade_id must be a non-empty string."),
     (decide (r.units ≠ 0), "units must be non-zero."),
     (r.state == .CLOSED || !r.closeOnlyFields.any id,
      "OPEN trades must not define close-only fields."),
     (r.state == .OPEN || r.closeOnlyFields.all id,
      "CLOSED trades must define close price, close metadata, and P&L."),
     (r.state == .OPEN || r.closesAfterOpening, "closed_at cannot be earlier than opened_at.")]

end TradeFields

structure TradeRecord extends TradeFields where
  contract : toTradeFields.contractError = none
deriving DecidableEq

namespace TradeFields

/-- `TradeRecord.model_validate`. -/
def validate (r : TradeFields) : Except Exn TradeRecord :=
  match h : r.normalizeCurrencies.contractError with
  | none => .ok ⟨r.normalizeCurrencies, h⟩
  | some message => .error (.valueError message)

theorem validate_ok {r : TradeFields} {t : TradeRecord} (h : r.validate = .ok t) :
    t.toTradeFields = r.normalizeCurrencies := by
  unfold validate at h
  split at h
  · exact congrArg TradeRecord.toTradeFields (Except.ok.inj h).symm
  · cases h

end TradeFields

/-! ### Normalized history rows -/

inductive TradeHistoryEventType where
  | OPEN
  | CLOSE
  | PARTIAL_CLOSE
deriving DecidableEq, Repr

def TradeHistoryEventType.text : TradeHistoryEventType → String
  | OPEN => "OPEN"
  | CLOSE => "CLOSE"
  | PARTIAL_CLOSE => "PARTIAL_CLOSE"

inductive TradeDirection where
  | LONG
  | SHORT
deriving DecidableEq, Repr

/-- An instant shown in a time zone. -/
structure LocalTime where
  utc : Instant
  zone : String
deriving DecidableEq, Repr

/-- Normalized transaction-backed trade lifecycle event. -/
structure TradeHistoryEvent where
  eventId : String
  transactionId : ℕ
  batchId : Option String
  eventType : TradeHistoryEventType
  accountId : String
  instrument : String
  tradeId : String
  orderId : Option String
  units : ℚ
  absUnits : ℚ
  side : TradeDirection
  price : Option ℚ
  realizedPl : ℚ
  financing : ℚ
  commission : ℚ
  netRealizedPl : ℚ
  timeUtc : Instant
  timeLocal : LocalTime
  reason : Option String
  rawJson : Json
deriving DecidableEq

/-- The first violation of the contract of `TradeHistoryEvent`. -/
def TradeHistoryEvent.contractError (e : TradeHistoryEvent) : Option String :=
  firstViolation
    [(decide (0 ≤ e.absUnits), "abs_units must be greater than or equal to 0."),
     (validOandaInstrumentSymbol e.instrument,
      "instrument must look like an OANDA instrument symbol such as SPX500_USD or SGD_JPY."),
     (!Text.isBlank e.eventId, "event_id must be a non-empty string."),
     (!Text.isBlank e.accountId, "account_id must be a non-empty string."),
     (!Text.isBlank e.tradeId, "trade_id must be a non-empty string."),
     (decide (e.units ≠ 0), "units must be non-zero."),
     (decide (e.absUnits = |e.units|), "abs_units must equal abs(units)."),
     (e.side == .SHORT || decide (0 < e.units), "LONG events must use positive units."),
     (e.side == .LONG || decide (e.units < 0), "SHORT events must use negative units.")]

theorem TradeHistoryEvent.units_ne_zero (e : TradeHistoryEvent) (h : e.contractError = none) :
    e.units ≠ 0 := by
  have hunits := firstViolation_eq_none.mp h (decide (e.units ≠ 0), "units must be non-zero.")
  exact of_decide_eq_true (hunits (by simp only [List.mem_cons, true_or, or_true]))

/-- An event that meets its contract has an instrument that looks like one. -/
theorem TradeHistoryEvent.valid_instrument (e : TradeHistoryEvent) (h : e.contractError = none) :
    validOandaInstrumentSymbol e.instrument = true := by
  have hinstrument := firstViolation_eq_none.mp h (validOandaInstrumentSymbol e.instrument,
    "instrument must look like an OANDA instrument symbol such as SPX500_USD or SGD_JPY.")
  simp only [List.mem_cons, true_or, or_true, forall_const] at hinstrument
  exact hinstrument

/-- Normalized daily financing record. -/
structure FinancingEvent where
  eventId : String
  transactionId : ℕ
  accountId : String
  instrument : Option String
  financing : ℚ
  timeUtc : Instant
  timeLocal : LocalTime
  rawJson : Json
deriving DecidableEq

/-- The first violation of the contract of `FinancingEvent`. -/
def FinancingEvent.contractError (e : FinancingEvent) : Option String :=
  firstViolation
    [(!Text.isBlank e.eventId, "event_id must be a non-empty string."),
     (!Text.isBlank e.accountId, "account_id must be a non-empty string."),
     (e.instrument.all validOandaInstrumentSymbol,
      "instrument must look like an OANDA instrument symbol such as SPX500_USD or SGD_JPY.")]

/-- The instrument of a financing that meets its contract looks like one, when there is one. -/
theorem FinancingEvent.valid_instrument (e : FinancingEvent) (h : e.contractError = none) :
    e.instrument.all validOandaInstrumentSymbol = true := by
  have hinstrument := firstViolation_eq_none.mp h (e.instrument.all validOandaInstrumentSymbol,
    "instrument must look like an OANDA instrument symbol such as SPX500_USD or SGD_JPY.")
  simp only [List.mem_cons, true_or, or_true, forall_const] at hinstrument
  exact hinstrument

/-- A row of the event table. -/
inductive HistoryRow where
  | trade (e : TradeHistoryEvent)
  | financing (e : FinancingEvent)
deriving DecidableEq

namespace HistoryRow

def eventId : HistoryRow → String
  | trade e => e.eventId
  | financing e => e.eventId

def transactionId : HistoryRow → ℕ
  | trade e => e.transactionId
  | financing e => e.transactionId

def timeUtc : HistoryRow → Instant
  | trade e => e.timeUtc
  | financing e => e.timeUtc

/-- `isinstance(record, TradeHistoryEvent)`. -/
def asTrade : HistoryRow → Option TradeHistoryEvent
  | trade e => some e
  | financing _ => none

end HistoryRow

structure TradeHistorySyncState where
  accountId : String
  lastTransactionId : ℕ
  lastSyncUtc : Instant
  nonBlank : Text.isBlank accountId = false
deriving DecidableEq, Repr

/-! ### Broker payloads -/

/-- `tradeOpened`, an entry of `tradesClosed`, or `tradeReduced`. -/
structure TradeLink where
  tradeID : Option String := none
  units : Option Decimal := none
  price : Option Decimal := none
  realizedPL : Option Decimal := none
  financing : Option Decimal := none
deriving DecidableEq, Repr

/-- An entry of `positionFinancings`. -/
structure PositionFinancing where
  instrument : Option String := none
  financing : Option Decimal := none
deriving DecidableEq, Repr

/-- One transaction of the account, as the history client returns it. -/
structure Transaction where
  id : ℕ
  type : Option String := none
  time : Option Instant := none
  accountID : Option String := none
  instrument : Option String := none
  orderID : Option String := none
  batchID : Option String := none
  reason : Option String := none
  units : Option Decimal := none
  price : Option Decimal := none
  commission : Option Decimal := none
  financing : Option Decimal := none
  tradeOpened : Option TradeLink := none
  tradesClosed : List TradeLink := []
  tradeReduced : Option TradeLink := none
  positionFinancings : List PositionFinancing := []
  raw : Json := .null
deriving DecidableEq

/-- One entry of the broker's open-trades list, after `_normalize_trade`. -/
structure OpenTrade where
  id : Option String := none
  instrument : Option String := none
  currentUnits : Option ℚ := none
  price : Option ℚ := none
  stopLossPrice : Option ℚ := none
  takeProfitPrice : Option ℚ := none
  gsloPrice : Option ℚ := none
  openTime : Option Instant := none
deriving DecidableEq, Repr

/-- The fields of a trade detail the poller reads. -/
structure TradeDetail where
  averageClosePrice : Option ℚ := none
  closePrice : Option ℚ := none
  price : Option ℚ := none
  closeReason : Json := .null
  realizedPL : Option ℚ := none
  closeTime : Option Instant := none
deriving DecidableEq

/-- `get_account_details_sync`: the id and the newest transaction id of the account. -/
structure AccountDetails where
  id : Option String := none
  lastTransactionID : Option ℕ := none
deriving DecidableEq, Repr

end OandaV3
