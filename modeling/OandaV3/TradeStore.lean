import OandaV3.DocTable
import OandaV3.Models
import OandaV3.TransactionKey

/-! # The trade store

The journal tables of `data/persistence/trade_store.py`: trade records by trade id, raw
transactions by transaction id, normalized history rows by event id, and sync watermarks by
account id.  Every table is a `Table`, so no key is stored twice.

`readOperation` and `strictWriteOperation` are the two wrappers every operation runs in: a failed
read becomes its default, a failed write is raised.  `upsertRows` is the loop shared by
`upsert_raw_transactions` and `upsert_trade_history_events`; `upsertRows_table` says that it puts
the rows of the batch in order. -/

namespace OandaV3

structure TradeStore where
  trades : Table (fun trade : TradeRecord => trade.tradeId)
  rawTransactions : Table Transaction.id
  tradeHistoryEvents : Table HistoryRow.eventId
  tradeHistorySync : Table TradeHistorySyncState.accountId
deriving DecidableEq

namespace TradeStore

/-- The store of a new database. -/
def empty : TradeStore := ⟨.empty, .empty, .empty, .empty⟩

/-! ### Operations -/

/-- `_read_operation`: an exception of the read becomes the default. -/
def readOperation {α : Type} (default : α) : Except Exn α → α
  | .ok a => a
  | .error _ => default

/-- `_strict_write_operation`: an exception of the write is raised as a write error. -/
def strictWriteOperation {α : Type} (action : String) : Except Exn α → Except Exn α
  | .ok a => .ok a
  | .error _ => .error (.persistenceWriteError action)

/-! ### Keyed upserts of a batch -/

/-- `(seen, inserted, updated)`. -/
structure UpsertCounts where
  seen : ℕ := 0
  inserted : ℕ := 0
  updated : ℕ := 0
deriving DecidableEq, Repr

instance : Add UpsertCounts :=
  ⟨fun a b => ⟨a.seen + b.seen, a.inserted + b.inserted, a.updated + b.updated⟩⟩

section upsert

variable {κ ρ : Type} [DecidableEq κ] [DecidableEq ρ] {key : ρ → κ}

/-- One turn of the upsert loop: insert a new row, rewrite a changed one. -/
def upsertRow (state : Table key × UpsertCounts) (record : ρ) : Table key × UpsertCounts :=
  let (table, counts) := state
  match table.find (key record) with
  | none => (table.insert record, counts + ⟨1, 1, 0⟩)
  | some existing =>
      if existing = record then (table, counts + ⟨1, 0, 0⟩)
      else (table.insert record, counts + ⟨1, 0, 1⟩)

def upsertRows (table : Table key) (records : List ρ) : Table key × UpsertCounts :=
  records.foldl upsertRow (table, {})

theorem upsertRow_table (state : Table key × UpsertCounts) (record : ρ) :
    (upsertRow state record).1 = state.1.insert record := by
  obtain ⟨table, counts⟩ := state
  simp only [upsertRow]
  split
  · rfl
  · rename_i existing hfind
    split_ifs with h
    · subst h; exact (Table.insert_find hfind).symm
    · rfl

@[simp] theorem upsertRows_table (table : Table key) (records : List ρ) :
    (upsertRows table records).1 = table.insertAll records := by
  have hfold : ∀ (rs : List ρ) (state : Table key × UpsertCounts),
      (rs.foldl upsertRow state).1 = state.1.insertAll rs := by
    intro rs
    induction rs with
    | nil => intro state; rfl
    | cons r rs ih =>
        intro state
        rw [List.foldl_cons, ih, upsertRow_table, Table.insertAll_cons]
  exact hfold records (table, {})

end upsert

/-- `upsert_raw_transactions`. -/
def upsertRawTransactions (store : TradeStore) (transactions : List Transaction) :
    UpsertCounts × TradeStore :=
  let (table, counts) := upsertRows store.rawTransactions transactions
  (counts, { store with rawTransactions := table })

/-- `upsert_trade_history_events`. -/
def upsertTradeHistoryEvents (store : TradeStore) (events : List HistoryRow) :
    UpsertCounts × TradeStore :=
  let (table, counts) := upsertRows store.tradeHistoryEvents events
  (counts, { store with tradeHistoryEvents := table })

/-! ### History rows -/

/-- The filters of `list_trade_history_records`. -/
structure HistoryQuery where
  startUtc : Option Instant := none
  endUtc : Option Instant := none
  instrument : Option String := none
  eventTypes : List String := []
  tradeId : Option String := none
  descending : Bool := false
deriving DecidableEq, Repr

/-- `getattr(record, "instrument", None)`. -/
def rowInstrument : HistoryRow → Option String
  | .trade e => some e.instrument
  | .financing e => e.instrument

/-- `record.event_type`. -/
def rowEventType : HistoryRow → String
  | .trade e => e.eventType.text
  | .financing _ => "DAILY_FINANCING"

/-- The row passes every filter of the query. -/
def HistoryQuery.selects (query : HistoryQuery) (row : HistoryRow) : Bool :=
  query.startUtc.all (fun start => decide (start ≤ row.timeUtc)) &&
  query.endUtc.all (fun stop => decide (row.timeUtc < stop)) &&
  query.instrument.all (fun instrument => rowInstrument row == some instrument) &&
  (query.eventTypes.isEmpty || (query.eventTypes.map Text.upper).contains (rowEventType row)) &&
  query.tradeId.all (fun tradeId => row.asTrade.any (fun e => e.tradeId == tradeId))

/-- The sort key of a row: time, transaction, event id. -/
def rowSortKey (row : HistoryRow) : Instant ×ₗ (ℕ ×ₗ String) ×ₗ String :=
  toLex (row.timeUtc, toLex (transactionSortKey (toString row.transactionId), row.eventId))

theorem rowSortKey_inj {row row' : HistoryRow} (h : rowSortKey row = rowSortKey row') :
    row.eventId = row'.eventId := by
  simp only [rowSortKey, toLex_inj, Prod.mk.injEq] at h
  exact h.2.2

/-- `list_trade_history_records`. -/
def listTradeHistoryRecords (store : TradeStore) (query : HistoryQuery) : List HistoryRow :=
  let records := store.tradeHistoryEvents.docs.filter query.selects
  if query.descending then sortOnDesc rowSortKey records else sortOn rowSortKey records

/-- `list_trade_history_trade_events`. -/
def listTradeHistoryTradeEvents (store : TradeStore) (query : HistoryQuery) :
    List TradeHistoryEvent :=
  (store.listTradeHistoryRecords query).filterMap HistoryRow.asTrade

/-- The trade events of one trade, oldest first. -/
def tradeEvents (store : TradeStore) (tradeId : String) : List TradeHistoryEvent :=
  store.listTradeHistoryTradeEvents { tradeId := some tradeId }

@[simp] theorem listTradeHistoryTradeEvents_tradeId (store : TradeStore) (tradeId : String) :
    store.listTradeHistoryTradeEvents { tradeId := some tradeId } = store.tradeEvents tradeId := rfl

theorem mem_listTradeHistoryTradeEvents {store : TradeStore} {query : HistoryQuery}
    {e : TradeHistoryEvent} : e ∈ store.listTradeHistoryTradeEvents query ↔
      HistoryRow.trade e ∈ store.tradeHistoryEvents.docs ∧ query.selects (.trade e) = true := by
  have hrecords : ∀ row, row ∈ store.listTradeHistoryRecords query ↔
      row ∈ store.tradeHistoryEvents.docs ∧ query.selects row = true := by
    intro row
    rw [← List.mem_filter, listTradeHistoryRecords]
    split_ifs
    · exact mem_sortOnDesc
    · exact mem_sortOn
  rw [listTradeHistoryTradeEvents, List.mem_filterMap]
  constructor
  · rintro ⟨row, hrow, htrade⟩
    cases row with
    | financing e' => cases htrade
    | trade e' =>
        obtain rfl : e' = e := Option.some.inj htrade
        exact (hrecords _).mp hrow
  · exact fun h => ⟨.trade e, (hrecords _).mpr h, rfl⟩

@[simp] theorem mem_tradeEvents {store : TradeStore} {tradeId : String} {e : TradeHistoryEvent} :
    e ∈ store.tradeEvents tradeId ↔
      HistoryRow.trade e ∈ store.tradeHistoryEvents.docs ∧ e.tradeId = tradeId := by
  rw [tradeEvents, mem_listTradeHistoryTradeEvents]
  simp [HistoryQuery.selects, HistoryRow.asTrade]

/-- The events of a trade depend on which rows of the trade are stored, not on their order. -/
theorem tradeEvents_congr {store store' : TradeStore} {tradeId : String}
    (h : ∀ e : TradeHistoryEvent, e.tradeId = tradeId →
      (HistoryRow.trade e ∈ store.tradeHistoryEvents.docs ↔
        HistoryRow.trade e ∈ store'.tradeHistoryEvents.docs)) :
    store.tradeEvents tradeId = store'.tradeEvents tradeId := by
  have hselects : ∀ row : HistoryRow, HistoryQuery.selects { tradeId := some tradeId } row = true →
      (row ∈ store.tradeHistoryEvents.docs ↔ row ∈ store'.tradeHistoryEvents.docs) := by
    intro row hrow
    cases row with
    | financing e => simp [HistoryQuery.selects, HistoryRow.asTrade] at hrow
    | trade e => exact h e (by simpa [HistoryQuery.selects, HistoryRow.asTrade] using hrow)
  have hsort : store.listTradeHistoryRecords { tradeId := some tradeId } =
      store'.listTradeHistoryRecords { tradeId := some tradeId } := by
    refine sortOn_eq_of_perm ?_ ?_
    · intro row hrow row' hrow' hkey
      have hfind := Table.find_of_mem (List.mem_filter.mp hrow).1
      rw [rowSortKey_inj hkey, Table.find_of_mem (List.mem_filter.mp hrow').1] at hfind
      exact (Option.some.inj hfind).symm
    · refine (List.perm_ext_iff_of_nodup (store.tradeHistoryEvents.nodup.of_map.filter _)
        (store'.tradeHistoryEvents.nodup.of_map.filter _)).mpr fun row => ?_
      rw [List.mem_filter, List.mem_filter]
      exact and_congr_left fun hrow => hselects row hrow
  simp only [tradeEvents, listTradeHistoryTradeEvents, hsort]

/-! ### Trade records and watermarks -/

/-- `get_trade`. -/
def getTrade (store : TradeStore) (tradeId : String) : Option TradeRecord :=
  store.trades.find tradeId

/-- `upsert_trade`. -/
def upsertTrade (store : TradeStore) (trade : TradeRecord) : TradeStore :=
  { store with trades := store.trades.insert trade }

/-- `list_open_trades`: newest opening first. -/
def listOpenTrades (store : TradeStore) : List TradeRecord :=
  sortOnDesc (fun trade => trade.openedAt)
    (store.trades.docs.filter (fun trade => trade.state == .OPEN))

/-- `trade.closed_at or datetime.min`. -/
def closedAtKey (trade : TradeRecord) : WithBot Instant :=
  match trade.closedAt with
  | some t => (t : WithBot Instant)
  | none => ⊥

/-- `list_closed_trades`: newest closing first. -/
def listClosedTrades (store : TradeStore) : List TradeRecord :=
  sortOnDesc closedAtKey
    (store.trades.docs.filter (fun trade => trade.state == .CLOSED))

/-- `get_trade_history_sync_state`. -/
def getTradeHistorySyncState (store : TradeStore) (accountId : String) :
    Option TradeHistorySyncState :=
  store.tradeHistorySync.find accountId

/-- The transaction id of the watermark of an account. -/
def watermark (store : TradeStore) (accountId : String) : Option ℕ :=
  (store.getTradeHistorySyncState accountId).map TradeHistorySyncState.lastTransactionId

/-- `upsert_trade_history_sync_state`. -/
def upsertTradeHistorySyncState (store : TradeStore) (state : TradeHistorySyncState) :
    TradeStore :=
  { store with tradeHistorySync := store.tradeHistorySync.insert state }

theorem mem_listOpenTrades {store : TradeStore} {trade : TradeRecord} :
    trade ∈ store.listOpenTrades ↔
      store.getTrade trade.tradeId = some trade ∧ trade.state = .OPEN := by
  rw [listOpenTrades, mem_sortOnDesc, List.mem_filter, beq_iff_eq, Table.mem_iff_find, getTrade]

theorem mem_listClosedTrades {store : TradeStore} {trade : TradeRecord} :
    trade ∈ store.listClosedTrades ↔
      store.getTrade trade.tradeId = some trade ∧ trade.state = .CLOSED := by
  rw [listClosedTrades, mem_sortOnDesc, List.mem_filter, beq_iff_eq, Table.mem_iff_find, getTrade]

section frame

variable (store : TradeStore)

@[simp] theorem getTrade_upsertTrade (trade : TradeRecord) (tradeId : String) :
    (store.upsertTrade trade).getTrade tradeId =
      if trade.tradeId = tradeId then some trade else store.getTrade tradeId :=
  Table.find_insert _ _ _

theorem getTrade_upsertTrade_self {trade : TradeRecord} {tradeId : String}
    (h : trade.tradeId = tradeId) : (store.upsertTrade trade).getTrade tradeId = some trade := by
  rw [getTrade_upsertTrade, if_pos h]

theorem getTrade_upsertTrade_ne {trade : TradeRecord} {tradeId : String}
    (h : trade.tradeId ≠ tradeId) :
    (store.upsertTrade trade).getTrade tradeId = store.getTrade tradeId := by
  rw [getTrade_upsertTrade, if_neg h]

@[simp] theorem upsertTrade_tradeHistoryEvents (trade : TradeRecord) :
    (store.upsertTrade trade).tradeHistoryEvents = store.tradeHistoryEvents := rfl

@[simp] theorem upsertTrade_rawTransactions (trade : TradeRecord) :
    (store.upsertTrade trade).rawTransactions = store.rawTransactions := rfl

@[simp] theorem upsertTrade_tradeHistorySync (trade : TradeRecord) :
    (store.upsertTrade trade).tradeHistorySync = store.tradeHistorySync := rfl

@[simp] theorem upsertRawTransactions_table (transactions : List Transaction) :
    (store.upsertRawTransactions transactions).2 =
      { store with rawTransactions := store.rawTransactions.insertAll transactions } := by
  simp [upsertRawTransactions]

@[simp] theorem upsertTradeHistoryEvents_table (events : List HistoryRow) :
    (store.upsertTradeHistoryEvents events).2 =
      { store with tradeHistoryEvents := store.tradeHistoryEvents.insertAll events } := by
  simp [upsertTradeHistoryEvents]

@[simp] theorem getTradeHistorySyncState_upsert (state : TradeHistorySyncState)
    (accountId : String) :
    (store.upsertTradeHistorySyncState state).getTradeHistorySyncState accountId =
      if state.accountId = accountId then some state
      else store.getTradeHistorySyncState accountId :=
  Table.find_insert _ _ _

@[simp] theorem watermark_upsert (state : TradeHistorySyncState) (accountId : String) :
    (store.upsertTradeHistorySyncState state).watermark accountId =
      if state.accountId = accountId then some state.lastTransactionId
      else store.watermark accountId := by
  rw [watermark, getTradeHistorySyncState_upsert]
  split_ifs <;> rfl

end frame

theorem watermark_of_eq {store store' : TradeStore}
    (h : store'.tradeHistorySync = store.tradeHistorySync) (accountId : String) :
    store'.watermark accountId = store.watermark accountId := by
  rw [watermark, getTradeHistorySyncState, h]
  rfl

@[simp] theorem tradeEvents_upsertTrade (store : TradeStore) (trade : TradeRecord)
    (tradeId : String) : (store.upsertTrade trade).tradeEvents tradeId = store.tradeEvents tradeId :=
  rfl

end TradeStore

end OandaV3
