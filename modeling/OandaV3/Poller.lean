import OandaV3.JournalService

/-! # The trade poller

`background/poller_task.py`: one cycle compares the broker's open trades with the journal's, and
turns the difference into events and journal writes.

`agent/runtime.py` and the history tools of `mcp_server/adapters.py` run it, and the syncs of the history,
under the runtime's state lock, except for the syncs before a read. -/

namespace OandaV3

open Interaction Program

inductive PollEvent where
  | opened (e : TradeOpenedEvent)
  | modified (e : TradeModifiedEvent)
  | closed (e : TradeClosedEvent)
deriving DecidableEq, Repr

/-- What a cycle emits, and the errors it records in its status. -/
structure PollReport where
  emitted : List PollEvent
  cycleErrors : List String
deriving DecidableEq, Repr

/-- A field the code reads with `payload[key]`. -/
def requiredField {α : Type} (key : String) : Option α → Except Exn α
  | some a => .ok a
  | none => .error (.keyError key)

/-- `{str(item["id"]): item for item in current}`: an id keeps its first place and its last
item. -/
def currentById (current : List OpenTrade) : Except Exn (List (String × OpenTrade)) := do
  let entries ← current.mapM fun item => do
    let id ← requiredField "id" item.id
    return (id, item)
  return DocTable.putAll Prod.fst entries []

/-- Python's `value or self.settings.account_currency`. -/
def currencyOrDefault (cfg : Config) : Option String → String
  | some currency => if currency.isEmpty then cfg.accountCurrency else currency
  | none => cfg.accountCurrency

/-- `_safe_account_currency`. -/
def safeAccountCurrency (cfg : Config) : Prog String := do
  match ← (ask .getAccountSummary).attempt with
  | .ok currency => return currencyOrDefault cfg currency
  | .error _ => return cfg.accountCurrency

/-- The account currency of a cycle: asked for only when there is a trade on either side. -/
def cycleCurrency (cfg : Config) (idle : Bool) : Prog String :=
  if idle then return cfg.accountCurrency else safeAccountCurrency cfg

/-- The event of a trade that is new at the broker. -/
def openedEvent (cfg : Config) (now : Instant) (accountCurrency tradeId : String)
    (payload : OpenTrade) : Except Exn TradeOpenedEvent := do
  let instrument ← requiredField "instrument" payload.instrument
  let units ← requiredField "currentUnits" payload.currentUnits
  let openPrice ← requiredField "price" payload.price
  TradeOpenedEvent.validated cfg {
    tradeId
    instrument
    units
    openPrice
    sl := payload.stopLossPrice
    tp := payload.takeProfitPrice
    gslo := payload.gsloPrice
    openedAt := payload.openTime.getD now
    accountCurrency := some accountCurrency }

/-- The loop body for a trade of the broker's list. -/
def pollCurrent (cfg : Config) (now : Instant) (accountCurrency : String)
    (existingOpen : List TradeRecord) (entry : String × OpenTrade) : Prog (List PollEvent) := do
  let (tradeId, payload) := entry
  match existingOpen.find? (fun trade => trade.tradeId == tradeId) with
  | none =>
      let event ← ofExcept (openedEvent cfg now accountCurrency tradeId payload)
      let _ ← handleTradeOpened event
      return [.opened event]
  | some existing =>
      if existing.slPrice ≠ payload.stopLossPrice ∨ existing.tpPrice ≠ payload.takeProfitPrice then
        let event : TradeModifiedEvent := {
          tradeId
          newSl := payload.stopLossPrice
          newTp := payload.takeProfitPrice
          modifiedAt := now }
        let _ ← handleTradeModified event
        return [.modified event]
      else return []

/-- `_resolve_close_price`. -/
def resolveClosePrice (detail : TradeDetail) (fallback : ℚ) : ℚ :=
  ((detail.averageClosePrice.or detail.closePrice).or detail.price).getD fallback

/-- `_safe_trade_transactions`. -/
def safeTradeTransactions (tradeId : String) : Prog (List Json) := do
  match ← (ask (.getTradeTransactions tradeId)).attempt with
  | .ok transactions => return transactions
  | .error _ => return []

/-- The event of a trade that is missing at the broker. -/
def closedEvent (cfg : Config) (now : Instant) (accountCurrency : String) (existing : TradeRecord)
    (detail : TradeDetail) (transactions : List Json) : Except Exn TradeClosedEvent :=
  let closePrice := resolveClosePrice detail existing.openPrice
  TradeClosedEvent.validated cfg {
    tradeId := existing.tradeId
    instrument := existing.instrument
    units := existing.units
    openPrice := existing.openPrice
    closePrice
    realizedPnl := detail.realizedPL
    closeReason := inferCloseReason closePrice existing.slPrice existing.tpPrice
      detail.closeReason transactions
    closedAt := detail.closeTime.getD now
    accountCurrency := some accountCurrency }

/-- The loop body for an open trade of the journal. -/
def pollExisting (cfg : Config) (now : Instant) (accountCurrency : String)
    (current : List (String × OpenTrade)) (existing : TradeRecord) :
    Prog (List PollEvent × List String) := do
  if current.any (fun entry => entry.1 == existing.tradeId) then return ([], [])
  match ← (ask (.getTradeDetail existing.tradeId)).attempt with
  | .error _ => return ([], ["trade_detail_unavailable:" ++ existing.tradeId])
  | .ok detail =>
      let transactions ← safeTradeTransactions existing.tradeId
      let event ← ofExcept (closedEvent cfg now accountCurrency existing detail transactions)
      let _ ← handleTradeClosed cfg event
      return ([.closed event], [])

/-- `_poll_once_sync`. -/
def pollOnceSync (cfg : Config) : Prog PollReport := do
  let now ← ask .utcNow
  let current ← ask .getOpenTrades
  let current ← ofExcept (currentById current)
  let existingOpen ← ask .listOpenTrades
  let accountCurrency ← cycleCurrency cfg (current.isEmpty && existingOpen.isEmpty)
  let first ← each (pollCurrent cfg now accountCurrency existingOpen) current
  let second ← each (pollExisting cfg now accountCurrency current) existingOpen
  return {
    emitted := first.flatten ++ second.flatMap Prod.fst
    cycleErrors := second.flatMap Prod.snd }

/-! ### The runtime -/

/-- `run_blocking(fn, write=True)`. -/
def runBlocking {α : Type} (fn : Prog α) : Prog α := do
  ask .acquireStateLock
  let result ← fn.attempt
  ask .releaseStateLock
  ofExcept result

/-- `sync_open_trades`. -/
def syncOpenTrades (cfg : Config) : Prog PollReport := runBlocking (pollOnceSync cfg)

/-- `sync_trade_history`. -/
def syncTradeHistory (cfg : Config) : Prog SyncReport := runBlocking (incrementalSync cfg)

/-- `_try_sync_for_read`: a sync without the lock, whose failure is at most a warning or an error of
the read that follows. -/
def trySyncForRead (cfg : Config) : Prog (Except Exn SyncReport) := (incrementalSync cfg).attempt

/-- The syncs of `get_trade_history` and `get_trade_stats`, before they read the store. -/
def syncsBeforeRead (cfg : Config) : Prog (Except Exn SyncReport) := do
  let _ ← syncTradeHistory cfg
  trySyncForRead cfg

end OandaV3
