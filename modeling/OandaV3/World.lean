import OandaV3.Program
import OandaV3.TradeStore

/-! # The broker, the store and the calls

The services reach the outside world by `Call`s: operations of the trade store, requests to the
broker, the clock, and the runtime's state lock.  `World.answer` is what a reliable world answers;
`World.host` adds that a held lock blocks its next taker.

The broker keeps an append-only `TransactionLog` whose ids increase.  `TransactionLog.Grows` says that a
log was extended; the open-trades list and the other answers of the broker are unconstrained
here. -/

namespace OandaV3

open Interaction

/-! ### The transaction log -/

/-- The transactions of the account, oldest first. -/
structure TransactionLog where
  transactions : List Transaction
  increasing : (transactions.map Transaction.id).Pairwise (· < ·)
deriving DecidableEq

/-- `TRADE_HISTORY_TYPE_FILTER`. -/
def tradeHistoryTypeFilter : List String := ["ORDER_FILL", "DAILY_FINANCING"]

/-- The broker's type filter. -/
def Transaction.hasType (typeFilter : List String) (t : Transaction) : Bool :=
  t.type.any typeFilter.contains

/-- A transaction the trade history is made of. -/
def Transaction.relevant (t : Transaction) : Bool := t.hasType tradeHistoryTypeFilter

namespace TransactionLog

/-- The newest id of any type: `lastTransactionID`. -/
def lastTransactionID (log : TransactionLog) : Option ℕ :=
  log.transactions.getLast?.map Transaction.id

/-- `_transaction_sort_key(item.get("id"))`. -/
def idKey (t : Transaction) : ℕ ×ₗ String := transactionSortKey (toString t.id)

/-- The since-id answer: every transaction of the wanted types newer than `id`. -/
def since (log : TransactionLog) (id : ℕ) (typeFilter : List String) : List Transaction :=
  sortOn idKey (log.transactions.filter (fun t => decide (id < t.id) && t.hasType typeFilter))

/-- The window answer: every transaction of the wanted types from `startUtc` to `endUtc`. -/
def window (log : TransactionLog) (startUtc endUtc : Instant) (typeFilter : List String) :
    List Transaction :=
  sortOn idKey (log.transactions.filter (fun t =>
    t.time.any (fun time => decide (startUtc ≤ time) && decide (time ≤ endUtc)) &&
      t.hasType typeFilter))

@[simp] theorem mem_since {log : TransactionLog} {id : ℕ} {typeFilter : List String}
    {t : Transaction} : t ∈ log.since id typeFilter ↔
      t ∈ log.transactions ∧ id < t.id ∧ t.hasType typeFilter = true := by
  simp [since, List.mem_filter]

@[simp] theorem mem_window {log : TransactionLog} {startUtc endUtc : Instant}
    {typeFilter : List String} {t : Transaction} : t ∈ log.window startUtc endUtc typeFilter ↔
      t ∈ log.transactions ∧
        t.time.any (fun time => decide (startUtc ≤ time) && decide (time ≤ endUtc)) = true ∧
        t.hasType typeFilter = true := by
  simp [window, List.mem_filter]

theorem nodup_window (log : TransactionLog) (startUtc endUtc : Instant) (typeFilter : List String) :
    ((log.window startUtc endUtc typeFilter).map Transaction.id).Nodup := by
  refine ((perm_sortOn.map _).nodup_iff).mpr ?_
  exact (log.increasing.imp Nat.ne_of_lt).sublist (List.filter_sublist.map _)

theorem eq_of_id_eq {log : TransactionLog} {t u : Transaction} (ht : t ∈ log.transactions)
    (hu : u ∈ log.transactions) (h : t.id = u.id) : t = u :=
  List.inj_on_of_nodup_map (log.increasing.imp Nat.ne_of_lt) ht hu h

theorem id_le_last {log : TransactionLog} {last : ℕ} (h : log.lastTransactionID = some last)
    {t : Transaction} (ht : t ∈ log.transactions) : t.id ≤ last := by
  obtain ⟨u, hu, rfl⟩ := Option.map_eq_some_iff.mp h
  obtain ⟨front, hfront⟩ := List.getLast?_eq_some_iff.mp hu
  rw [hfront, List.mem_append, List.mem_singleton] at ht
  rcases ht with ht | rfl
  · have hinc := log.increasing
    rw [hfront, List.map_append, List.pairwise_append] at hinc
    exact (hinc.2.2 _ (List.mem_map_of_mem ht) _ (by simp)).le
  · exact le_refl _

theorem exists_last {log : TransactionLog} {t : Transaction} (ht : t ∈ log.transactions) :
    ∃ last, log.lastTransactionID = some last ∧ t.id ≤ last := by
  cases hlast : log.lastTransactionID with
  | none =>
      rw [lastTransactionID, Option.map_eq_none_iff, List.getLast?_eq_none_iff] at hlast
      rw [hlast] at ht
      cases ht
  | some last => exact ⟨last, rfl, id_le_last hlast ht⟩

/-- The log was extended. -/
def Grows (log log' : TransactionLog) : Prop := log.transactions <+: log'.transactions

instance (log log' : TransactionLog) : Decidable (log.Grows log') :=
  inferInstanceAs (Decidable (_ <+: _))

theorem Grows.refl (log : TransactionLog) : log.Grows log := List.prefix_rfl

theorem Grows.trans {a b c : TransactionLog} (h : a.Grows b) (h' : b.Grows c) : a.Grows c :=
  List.IsPrefix.trans h h'

theorem Grows.mem {log log' : TransactionLog} (h : log.Grows log') {t : Transaction}
    (ht : t ∈ log.transactions) : t ∈ log'.transactions := h.subset ht

theorem Grows.mem_or_newer {log log' : TransactionLog} (h : log.Grows log') {t : Transaction}
    (ht : t ∈ log'.transactions) : t ∈ log.transactions ∨ ∀ u ∈ log.transactions, u.id < t.id := by
  obtain ⟨added, hadded⟩ := h
  rw [← hadded, List.mem_append] at ht
  refine ht.imp_right fun ht u hu => ?_
  have hinc := log'.increasing
  rw [← hadded, List.map_append, List.pairwise_append] at hinc
  exact hinc.2.2 _ (List.mem_map_of_mem hu) _ (List.mem_map_of_mem ht)

theorem Grows.last_le {log log' : TransactionLog} (h : log.Grows log') {last last' : ℕ}
    (hl : log.lastTransactionID = some last) (hl' : log'.lastTransactionID = some last') :
    last ≤ last' := by
  obtain ⟨u, hu, rfl⟩ := Option.map_eq_some_iff.mp hl
  exact id_le_last hl' (h.mem (List.mem_of_getLast? hu))

end TransactionLog

/-! ### The broker and the world -/

/-- What the broker would answer now.  A detail or transaction request without an answer fails. -/
structure Broker where
  accountId : String
  log : TransactionLog
  openTrades : List OpenTrade
  tradeDetail : String → Option TradeDetail
  tradeTransactions : String → Option (List Json)
  currency : Option String

/-- The state the services act on. -/
structure World where
  store : TradeStore
  broker : Broker
  clock : Instant
  stateLock : Bool

inductive Call where
  | utcNow
  | getTradeHistorySyncState (accountId : String)
  | upsertTradeHistorySyncState (state : TradeHistorySyncState)
  | upsertRawTransactions (transactions : List Transaction)
  | upsertTradeHistoryEvents (events : List HistoryRow)
  | listTradeHistoryTradeEvents (query : TradeStore.HistoryQuery)
  | getTrade (tradeId : String)
  | upsertTrade (trade : TradeRecord)
  | listOpenTrades
  | listClosedTrades
  | getAccountDetails
  | fetchTransactionsSince (lastTransactionId : ℕ) (typeFilter : List String)
  | fetchTransactionsForWindow (startUtc endUtc : Instant) (typeFilter : List String)
  | getOpenTrades
  | getTradeDetail (tradeId : String)
  | getTradeTransactions (tradeId : String)
  | getAccountSummary
  | acquireStateLock
  | releaseStateLock
deriving DecidableEq

/-- The type of the answer to a call. -/
abbrev Ans : Call → Type
  | .utcNow => Instant
  | .getTradeHistorySyncState _ => Option TradeHistorySyncState
  | .upsertTradeHistorySyncState _ => Unit
  | .upsertRawTransactions _ => TradeStore.UpsertCounts
  | .upsertTradeHistoryEvents _ => TradeStore.UpsertCounts
  | .listTradeHistoryTradeEvents _ => List TradeHistoryEvent
  | .getTrade _ => Option TradeRecord
  | .upsertTrade _ => Unit
  | .listOpenTrades => List TradeRecord
  | .listClosedTrades => List TradeRecord
  | .getAccountDetails => AccountDetails
  | .fetchTransactionsSince _ _ => List Transaction × ℕ
  | .fetchTransactionsForWindow _ _ _ => List Transaction
  | .getOpenTrades => List OpenTrade
  | .getTradeDetail _ => TradeDetail
  | .getTradeTransactions _ => List Json
  | .getAccountSummary => Option String
  | .acquireStateLock => Unit
  | .releaseStateLock => Unit

abbrev Prog (α : Type) := Program Call Ans Exn α

abbrev ask (c : Call) : Prog (Ans c) := Program.perform c

namespace World

variable (w : World)

/-- The world with another store. -/
def withStore (store : TradeStore) : World := { w with store }

@[simp] theorem withStore_store (store : TradeStore) : (w.withStore store).store = store := rfl
@[simp] theorem withStore_broker (store : TradeStore) : (w.withStore store).broker = w.broker := rfl
@[simp] theorem withStore_clock (store : TradeStore) : (w.withStore store).clock = w.clock := rfl
@[simp] theorem withStore_stateLock (store : TradeStore) :
    (w.withStore store).stateLock = w.stateLock := rfl
@[simp] theorem withStore_withStore (store store' : TradeStore) :
    (w.withStore store).withStore store' = w.withStore store' := rfl
@[simp] theorem withStore_self : w.withStore w.store = w := rfl

/-- The request succeeded with this answer, or failed. -/
def request {α : Type} (what : String) : Option α → Except Exn α
  | some a => .ok a
  | none => .error (.brokerError what)

/-- The answer of a world whose store does not fail. -/
def answer : (c : Call) → World → Except Exn (Ans c) × World
  | .utcNow, w => (.ok w.clock, w)
  | .getTradeHistorySyncState accountId, w =>
      (.ok (TradeStore.readOperation none (.ok (w.store.getTradeHistorySyncState accountId))), w)
  | .upsertTradeHistorySyncState state, w =>
      (.ok (), w.withStore (w.store.upsertTradeHistorySyncState state))
  | .upsertRawTransactions transactions, w =>
      (.ok (w.store.upsertRawTransactions transactions).1,
        w.withStore (w.store.upsertRawTransactions transactions).2)
  | .upsertTradeHistoryEvents events, w =>
      (.ok (w.store.upsertTradeHistoryEvents events).1,
        w.withStore (w.store.upsertTradeHistoryEvents events).2)
  | .listTradeHistoryTradeEvents query, w => (.ok (w.store.listTradeHistoryTradeEvents query), w)
  | .getTrade tradeId, w => (.ok (w.store.getTrade tradeId), w)
  | .upsertTrade trade, w => (.ok (), w.withStore (w.store.upsertTrade trade))
  | .listOpenTrades, w => (.ok w.store.listOpenTrades, w)
  | .listClosedTrades, w => (.ok w.store.listClosedTrades, w)
  | .getAccountDetails, w =>
      (.ok ⟨some w.broker.accountId, w.broker.log.lastTransactionID⟩, w)
  | .fetchTransactionsSince id typeFilter, w =>
      (match w.broker.log.lastTransactionID with
        | some last => .ok (w.broker.log.since id typeFilter, last)
        | none => .error (.runtimeError
            "OANDA transactions-since-id response did not contain lastTransactionID."), w)
  | .fetchTransactionsForWindow startUtc endUtc typeFilter, w =>
      (if endUtc ≤ startUtc then .error (.valueError "end_utc must be greater than start_utc.")
        else .ok (w.broker.log.window startUtc endUtc typeFilter), w)
  | .getOpenTrades, w => (.ok w.broker.openTrades, w)
  | .getTradeDetail tradeId, w => (request "trade detail" (w.broker.tradeDetail tradeId), w)
  | .getTradeTransactions tradeId, w =>
      (request "trade transactions" (w.broker.tradeTransactions tradeId), w)
  | .getAccountSummary, w => (.ok w.broker.currency, w)
  | .acquireStateLock, w => (.ok (), { w with stateLock := true })
  | .releaseStateLock, w => (.ok (), { w with stateLock := false })

/-- A lock that is held blocks. -/
def enabled (c : Call) (w : World) : Prop := c = .acquireStateLock → w.stateLock = false

/-- The reliable world as a host of concurrent programs. -/
def host : Host Call Ans Exn World := (Host.ofFun answer).when enabled

/-! ### Growth of the broker's log -/

/-- Only the broker and the clock moved, and the log was extended. -/
structure Grows (w w' : World) : Prop where
  store : w'.store = w.store
  stateLock : w'.stateLock = w.stateLock
  accountId : w'.broker.accountId = w.broker.accountId
  log : w.broker.log.Grows w'.broker.log

theorem Grows.refl (w : World) : w.Grows w := ⟨rfl, rfl, rfl, .refl _⟩

theorem Grows.trans {a b c : World} (h : a.Grows b) (h' : b.Grows c) : a.Grows c :=
  ⟨h'.store.trans h.store, h'.stateLock.trans h.stateLock, h'.accountId.trans h.accountId,
    h.log.trans h'.log⟩

/-- The world with another log. -/
def withLog (log : TransactionLog) : World := { w with broker := { w.broker with log } }

theorem Grows.withLog {w : World} {log : TransactionLog} (h : w.broker.log.Grows log) :
    w.Grows (w.withLog log) := ⟨rfl, rfl, rfl, h⟩

/-- No call changes the broker. -/
theorem answer_broker (c : Call) (w : World) : (answer c w).2.broker = w.broker := by
  cases c <;> rfl

theorem eval_broker {α : Type} (p : Prog α) (w : World) :
    (p.eval answer w).2.broker = w.broker := by
  induction p generalizing w with
  | done a => rfl
  | raise e => rfl
  | call c k ih => rw [← answer_broker c w]; exact ih _ _

end World

end OandaV3
