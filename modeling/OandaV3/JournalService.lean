import OandaV3.HistoryService

/-! # The journal service

`core/events.py` and `journal/journal_service.py`: the poller's typed events and the journal writes
they cause.

`handleTradeOpened_ok`, `handleTradeModified_ok` and `handleTradeClosed_ok` say what each handler
writes on a reliable world. -/

namespace OandaV3

open Fallible

open Interaction Program

/-! ### Events -/

/-- `_normalize_currency` of `core/events.py`. -/
def normalizeEventCurrency : Option String → Except Exn (Option String)
  | none => .ok none
  | some value =>
      let normalized := normalizeCurrency value
      if normalized.isEmpty then
        .error (.valueError "account_currency must be a non-empty string when provided.")
      else .ok (some normalized)

structure TradeOpenedEvent where
  tradeId : String
  instrument : String
  units : ℚ
  openPrice : ℚ
  sl : Option ℚ
  tp : Option ℚ
  gslo : Option ℚ
  openedAt : Instant
  accountCurrency : Option String
deriving DecidableEq, Repr

structure TradeClosedEvent where
  tradeId : String
  instrument : String
  units : ℚ
  openPrice : ℚ
  closePrice : ℚ
  realizedPnl : Option ℚ
  closeReason : CloseReason
  closedAt : Instant
  accountCurrency : Option String
deriving DecidableEq, Repr

structure TradeModifiedEvent where
  tradeId : String
  newSl : Option ℚ
  newTp : Option ℚ
  modifiedAt : Instant
deriving DecidableEq, Repr

/-- `TradeOpenedEvent.__post_init__`. -/
def TradeOpenedEvent.validated (cfg : Config) (e : TradeOpenedEvent) :
    Except Exn TradeOpenedEvent := do
  let instrument ← cfg.validateLiveInstrument e.instrument
  if e.units = 0 then .error (.valueError "units must be non-zero.")
  else
    let accountCurrency ← normalizeEventCurrency e.accountCurrency
    return { e with instrument, accountCurrency }

/-- `TradeClosedEvent.__post_init__`. -/
def TradeClosedEvent.validated (cfg : Config) (e : TradeClosedEvent) :
    Except Exn TradeClosedEvent := do
  let instrument ← cfg.validateLiveInstrument e.instrument
  if e.units = 0 then .error (.valueError "units must be non-zero.")
  else
    let accountCurrency ← normalizeEventCurrency e.accountCurrency
    return { e with instrument, accountCurrency }

theorem TradeOpenedEvent.validated_ok {cfg : Config} {e e' : TradeOpenedEvent}
    (h : e.validated cfg = .ok e') : ∃ instrument accountCurrency,
      cfg.validateLiveInstrument e.instrument = .ok instrument ∧
      e' = { e with instrument, accountCurrency } := by
  obtain ⟨instrument, hinstrument, h⟩ := bind_eq_ok.mp h
  split_ifs at h
  obtain ⟨accountCurrency, -, h⟩ := bind_eq_ok.mp h
  exact ⟨instrument, accountCurrency, hinstrument, (Except.ok.inj h).symm⟩

theorem TradeClosedEvent.validated_ok {cfg : Config} {e e' : TradeClosedEvent}
    (h : e.validated cfg = .ok e') : ∃ instrument accountCurrency,
      cfg.validateLiveInstrument e.instrument = .ok instrument ∧
      e' = { e with instrument, accountCurrency } := by
  obtain ⟨instrument, hinstrument, h⟩ := bind_eq_ok.mp h
  split_ifs at h
  obtain ⟨accountCurrency, -, h⟩ := bind_eq_ok.mp h
  exact ⟨instrument, accountCurrency, hinstrument, (Except.ok.inj h).symm⟩

/-! ### Handlers -/

/-- `repository.get(trade_id).notes if repository.get(trade_id) is not None else None`. -/
def currentNotes (tradeId : String) : Prog (Option String) := do
  match ← ask (.getTrade tradeId) with
  | none => return none
  | some _ =>
      match ← ask (.getTrade tradeId) with
      | none => .raise (.attributeError "notes")
      | some record => return record.notes

/-- The record of a newly opened trade. -/
def openedFields (e : TradeOpenedEvent) (notes : Option String) : TradeFields where
  tradeId := e.tradeId
  instrument := e.instrument
  units := e.units
  openPrice := e.openPrice
  closePrice := none
  slPrice := e.sl
  tpPrice := e.tp
  gsloPrice := e.gslo
  state := .OPEN
  closeReason := none
  pips := none
  instrumentPnl := none
  instrumentPnlCurrency := none
  accountPnl := none
  accountCurrency := none
  openedAt := e.openedAt
  closedAt := none
  notes := notes

/-- `handle_trade_opened`. -/
def handleTradeOpened (e : TradeOpenedEvent) : Prog TradeRecord := do
  let notes ← currentNotes e.tradeId
  let record ← ofExcept (openedFields e notes).validate
  ask (.upsertTrade record)
  return record

/-- The record of a trade with moved protective orders. -/
def modifiedFields (existing : TradeFields) (e : TradeModifiedEvent) : TradeFields :=
  { existing with slPrice := e.newSl, tpPrice := e.newTp }

/-- `handle_trade_modified`. -/
def handleTradeModified (e : TradeModifiedEvent) : Prog (Option TradeRecord) := do
  match ← ask (.getTrade e.tradeId) with
  | none => return none
  | some existing =>
      let updated ← ofExcept (modifiedFields existing.toTradeFields e).validate
      ask (.upsertTrade updated)
      return some updated

/-- `_compute_pips`. -/
def computePips (cfg : Config) (existing : TradeRecord) (e : TradeClosedEvent) :
    Except Exn ℚ := do
  let move := e.closePrice - existing.openPrice
  let signedMove := if 0 < existing.units then move else -move
  let pipSize ← cfg.getPipSize existing.instrument
  if pipSize = 0 then .error (.runtimeError "float division by zero")
  else return signedMove / pipSize

/-- Python's `event.account_currency or self.settings.account_currency`. -/
def closeCurrency (cfg : Config) (e : TradeClosedEvent) : String :=
  match e.accountCurrency with
  | some currency => if currency.isEmpty then cfg.accountCurrency else currency
  | none => cfg.accountCurrency

def closedByPoller (cfg : Config) (existing : TradeFields) (e : TradeClosedEvent) (pips : ℚ) :
    TradeFields :=
  { existing with
    closePrice := some e.closePrice
    state := .CLOSED
    closeReason := some e.closeReason
    pips := some pips
    instrumentPnl := some (e.realizedPnl.getD 0)
    instrumentPnlCurrency := some (closeCurrency cfg e)
    accountPnl := some (e.realizedPnl.getD 0)
    accountCurrency := some (closeCurrency cfg e)
    closedAt := some e.closedAt }

/-- `TradeStore.close_trade`, with the values of the event. -/
def closeTrade (cfg : Config) (e : TradeClosedEvent) (pips : ℚ) : Prog (Option TradeRecord) := do
  match ← ask (.getTrade e.tradeId) with
  | none => return none
  | some existing =>
      let closed ← ofExcept (closedByPoller cfg existing.toTradeFields e pips).validate
      ask (.upsertTrade closed)
      return some closed

/-- `handle_trade_closed`. -/
def handleTradeClosed (cfg : Config) (e : TradeClosedEvent) : Prog (Option TradeRecord) := do
  match ← ask (.getTrade e.tradeId) with
  | none => return none
  | some existing =>
      let pips ← ofExcept (computePips cfg existing e)
      closeTrade cfg e pips

/-! ### The records the handlers write -/

section records

variable {record : TradeRecord}

theorem openedFields_ok {e : TradeOpenedEvent} {notes : Option String}
    (h : (openedFields e notes).validate = .ok record) :
    record.tradeId = e.tradeId ∧ record.state = .OPEN := by
  rw [TradeFields.validate_ok h]
  exact ⟨rfl, rfl⟩

theorem modifiedFields_ok {existing : TradeFields} {e : TradeModifiedEvent}
    (h : (modifiedFields existing e).validate = .ok record) :
    record.tradeId = existing.tradeId ∧ record.state = existing.state := by
  rw [TradeFields.validate_ok h]
  exact ⟨rfl, rfl⟩

theorem closedByPoller_ok {cfg : Config} {existing : TradeFields} {e : TradeClosedEvent} {pips : ℚ}
    (h : (closedByPoller cfg existing e pips).validate = .ok record) :
    record.tradeId = existing.tradeId ∧ record.state = .CLOSED := by
  rw [TradeFields.validate_ok h]
  exact ⟨rfl, rfl⟩

end records

/-! ### The handlers on a reliable world -/

section reliable

variable {cfg : Config} {w w' : World}

theorem handleTradeOpened_ok {e : TradeOpenedEvent} {r : TradeRecord}
    (h : (handleTradeOpened e).eval World.answer w = (.ok r, w')) :
    w' = w.withStore (w.store.upsertTrade r) ∧
      (openedFields e ((w.store.getTrade e.tradeId).bind fun t => t.notes)).validate = .ok r := by
  simp only [handleTradeOpened, currentNotes, bind_def, eval_bind, eval_perform, World.answer,
    eval_ofExcept] at h
  cases hget : w.store.getTrade e.tradeId with
  | none =>
      simp only [hget, eval_pure] at h
      cases hv : (openedFields e none).validate with
      | error err => rw [hv] at h; cases h
      | ok r' => rw [hv] at h; cases h; exact ⟨rfl, hv⟩
  | some t =>
      simp only [hget, eval_bind, eval_perform, World.answer, eval_pure] at h
      cases hv : (openedFields e t.notes).validate with
      | error err => rw [hv] at h; cases h
      | ok r' => rw [hv] at h; cases h; exact ⟨rfl, hv⟩

theorem handleTradeModified_ok {e : TradeModifiedEvent} {existing : TradeRecord}
    {r : Option TradeRecord} (hget : w.store.getTrade e.tradeId = some existing)
    (h : (handleTradeModified e).eval World.answer w = (.ok r, w')) :
    ∃ updated, (modifiedFields existing.toTradeFields e).validate = .ok updated ∧
      w' = w.withStore (w.store.upsertTrade updated) := by
  simp only [handleTradeModified, bind_def, eval_bind, eval_perform, World.answer, hget,
    eval_ofExcept] at h
  cases hv : (modifiedFields existing.toTradeFields e).validate with
  | error err => rw [hv] at h; cases h
  | ok updated => rw [hv] at h; cases h; exact ⟨updated, rfl, rfl⟩

theorem handleTradeClosed_ok {e : TradeClosedEvent} {existing : TradeRecord}
    {r : Option TradeRecord} (hget : w.store.getTrade e.tradeId = some existing)
    (h : (handleTradeClosed cfg e).eval World.answer w = (.ok r, w')) :
    ∃ pips closed, computePips cfg existing e = .ok pips ∧
      (closedByPoller cfg existing.toTradeFields e pips).validate = .ok closed ∧
      w' = w.withStore (w.store.upsertTrade closed) := by
  simp only [handleTradeClosed, closeTrade, bind_def, eval_bind, eval_perform, World.answer, hget,
    eval_ofExcept] at h
  cases hp : computePips cfg existing e with
  | error err => rw [hp] at h; cases h
  | ok pips =>
      simp only [hp, eval_bind, eval_perform, World.answer, hget, eval_ofExcept] at h
      cases hv : (closedByPoller cfg existing.toTradeFields e pips).validate with
      | error err => rw [hv] at h; cases h
      | ok closed => rw [hv] at h; cases h; exact ⟨pips, closed, rfl, hv, rfl⟩

end reliable

end OandaV3
