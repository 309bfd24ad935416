import Mathlib.Data.List.Dedup
import OandaV3.CloseReasons
import OandaV3.TradeNormalizer
import OandaV3.World

/-! # The trade history service

`journal/trade_history_service.py`: transactions are fetched from the broker, stored raw,
normalized into history rows, and projected onto the trade journal.

* `projection`: the pure part of `_project_trade_record`, from the stored events of a trade and
  the record it has so far to the record it gets.
* `ingest`: what `incremental_sync` and one chunk of `backfill_history` share.
* `incrementalSync`, `backfillHistory`: the two operations that move the watermark.
* `mem_splitUtcWindow`: the chunks of a window lie in it, and leave no instant of it out. -/

namespace OandaV3

open Interaction Program

/-- The settings, the instrument registry and the time-zone database the services use. -/
structure Config where
  oandaAccountId : String
  journalTimezone : String
  accountCurrency : String
  /-- `get_pip_size`. -/
  getPipSize : String → Except Exn ℚ
  /-- `validate_live_instrument`. -/
  validateLiveInstrument : String → Except Exn String
  /-- Midnight of a day, given by its ordinal, in a zone. -/
  localMidnightUtc : String → ℤ → Instant

/-! ### Projection -/

/-- Python's `price or fallback` when the fallback is a price. -/
def priceOrElse (price : Option ℚ) (fallback : ℚ) : ℚ := (priceOr price none).getD fallback

/-- `event.event_type in {"CLOSE", "PARTIAL_CLOSE"}`. -/
def TradeHistoryEvent.isClosing (e : TradeHistoryEvent) : Bool :=
  e.eventType == .CLOSE || e.eventType == .PARTIAL_CLOSE

/-- The close events of a trade, oldest first. -/
def closeEvents (events : List TradeHistoryEvent) : List TradeHistoryEvent :=
  events.filter TradeHistoryEvent.isClosing

/-- What a projected record keeps from the journal, or takes from the opening event. -/
structure TradeBase where
  units : ℚ
  openPrice : ℚ
  openedAt : Instant
  instrument : String
  slPrice : Option ℚ
  tpPrice : Option ℚ
  gsloPrice : Option ℚ
  notes : Option String
deriving DecidableEq, Repr

/-- The base of a projection: the existing record, else the first opening event, when it has a
price. -/
def tradeBase (events : List TradeHistoryEvent) : Option TradeRecord → Option TradeBase
  | some existing => some {
      units := existing.units
      openPrice := existing.openPrice
      openedAt := existing.openedAt
      instrument := existing.instrument
      slPrice := existing.slPrice
      tpPrice := existing.tpPrice
      gsloPrice := existing.gsloPrice
      notes := existing.notes }
  | none => do
      let openEvent ← events.find? (fun e => e.eventType == .OPEN)
      let openPrice ← openEvent.price
      return {
        units := openEvent.units
        openPrice
        openedAt := openEvent.timeUtc
        instrument := openEvent.instrument
        slPrice := none
        tpPrice := none
        gsloPrice := none
        notes := none }

/-- The record of a trade that is still open. -/
def openFields (tradeId : String) (base : TradeBase) : TradeFields where
  tradeId := tradeId
  instrument := base.instrument
  units := base.units
  openPrice := base.openPrice
  closePrice := none
  slPrice := base.slPrice
  tpPrice := base.tpPrice
  gsloPrice := base.gsloPrice
  state := .OPEN
  closeReason := none
  pips := none
  instrumentPnl := none
  instrumentPnlCurrency := none
  accountPnl := none
  accountCurrency := none
  openedAt := base.openedAt
  closedAt := none
  notes := base.notes

/-- The reason in the evidence of an event. -/
def TradeHistoryEvent.reasonEvidence (e : TradeHistoryEvent) : Json :=
  match e.reason with
  | some reason => .str reason
  | none => .null

/-- `_resolve_pip_size`: the registry's pip size, else a guess from the symbol. -/
def resolvePipSize (cfg : Config) (instrument : String) : Except Exn (Option ℚ) :=
  match cfg.getPipSize instrument with
  | .ok size => .ok (some size)
  | .error (.keyError _) | .error (.valueError _) =>
      match instrument.toList.span (· != '_') with
      | (base, '_' :: quote) =>
          if String.ofList base = "XAU" then .ok (some (1 / 100))
          else if String.ofList base = "XAG" then .ok (some (1 / 10000))
          else if String.ofList quote = "JPY" ∨ String.ofList quote = "HUF" then
            .ok (some (1 / 100))
          else .ok (some (1 / 10000))
      | _ => .ok none
  | .error e => .error e

def closePips (base : TradeBase) (pipSize : ℚ) (e : TradeHistoryEvent) : ℚ :=
  (priceOrElse e.price base.openPrice - base.openPrice) / pipSize *
    (if 0 < base.units then 1 else -1)

/-- `_compute_weighted_close_pips`. -/
def weightedClosePips (cfg : Config) (base : TradeBase) (closes : List TradeHistoryEvent) :
    Except Exn (Option ℚ) := do
  match ← resolvePipSize cfg base.instrument with
  | none => return none
  | some pipSize =>
      if pipSize = 0 then return none
      let totalAbsUnits := (closes.map TradeHistoryEvent.absUnits).sum
      if totalAbsUnits = 0 then return some 0
      return some ((closes.map (fun e => closePips base pipSize e * e.absUnits)).sum / totalAbsUnits)

/-- The record of a trade that is fully closed. -/
def closedFields (cfg : Config) (tradeId : String) (base : TradeBase)
    (closes : List TradeHistoryEvent) (final : TradeHistoryEvent) (pips : Option ℚ) :
    TradeFields :=
  let closePrice := priceOrElse final.price base.openPrice
  let accountPnl := (closes.map TradeHistoryEvent.netRealizedPl).sum
  { openFields tradeId base with
    closePrice := some closePrice
    state := .CLOSED
    closeReason := some (inferCloseReason closePrice base.slPrice base.tpPrice
      final.reasonEvidence [final.rawJson])
    pips := pips
    instrumentPnl := some accountPnl
    instrumentPnlCurrency := some cfg.accountCurrency
    accountPnl := some accountPnl
    accountCurrency := some cfg.accountCurrency
    closedAt := some final.timeUtc }

/-- The record `_project_trade_record` writes for a trade with these events, if it writes one. -/
def projection (cfg : Config) (tradeId : String) (events : List TradeHistoryEvent)
    (existing : Option TradeRecord) : Except Exn (Option TradeRecord) :=
  match tradeBase events existing with
  | none => .ok none
  | some base =>
      let closes := closeEvents events
      match closes.getLast? with
      | some final =>
          if closes.any (fun e => e.eventType == .CLOSE) then do
            let pips ← weightedClosePips cfg base closes
            let record ← (closedFields cfg tradeId base closes final pips).validate
            return some record
          else some <$> (openFields tradeId base).validate
      | none => some <$> (openFields tradeId base).validate

/-- `_project_trade_record`. -/
def projectTradeRecord (cfg : Config) (tradeId : String) : Prog Bool := do
  let events ← ask (.listTradeHistoryTradeEvents { tradeId := some tradeId })
  if events.isEmpty then return false
  let existing ← ask (.getTrade tradeId)
  match ← ofExcept (projection cfg tradeId events existing) with
  | none => return false
  | some record =>
      ask (.upsertTrade record)
      return true

/-- The trade ids of a batch of rows, sorted, each once. -/
def projectedTradeIds (rows : List HistoryRow) : List String :=
  sortOn id ((rows.filterMap HistoryRow.asTrade).map TradeHistoryEvent.tradeId).dedup

/-- `_project_trade_records_from_events`. -/
def projectTradeRecordsFromEvents (cfg : Config) (rows : List HistoryRow) : Prog ℕ := do
  let projected ← each (projectTradeRecord cfg) (projectedTradeIds rows)
  return projected.count true

/-! ### The repair of manual closes -/

/-- The reason inferred from the last close event of a closed trade. -/
def repairReason (trade : TradeRecord) (final : TradeHistoryEvent) : CloseReason :=
  inferCloseReason (priceOrElse trade.closePrice trade.openPrice) trade.slPrice trade.tpPrice
    final.reasonEvidence [final.rawJson]

/-- One turn of `_repair_manual_mit_closes_from_history`. -/
def repairManualMitClose (cfg : Config) (trade : TradeRecord) : Prog Bool := do
  if trade.closeReason ≠ some .MANUAL then return false
  let events ← ask (.listTradeHistoryTradeEvents { tradeId := some trade.tradeId })
  match (closeEvents events).getLast? with
  | none => return false
  | some final =>
      if repairReason trade final ≠ .MIT then return false
      projectTradeRecord cfg trade.tradeId

/-- `_repair_manual_mit_closes_from_history`. -/
def repairManualMitClosesFromHistory (cfg : Config) : Prog ℕ := do
  let closed ← ask .listClosedTrades
  let repaired ← each (repairManualMitClose cfg) closed
  return repaired.count true

/-! ### Ingestion -/

structure IngestCounts where
  raw : TradeStore.UpsertCounts := {}
  events : TradeStore.UpsertCounts := {}
  projectedTrades : ℕ := 0
deriving DecidableEq, Repr

instance : Add IngestCounts :=
  ⟨fun a b => ⟨a.raw + b.raw, a.events + b.events, a.projectedTrades + b.projectedTrades⟩⟩

/-- Store a batch raw, unless it is empty. -/
def storeRaw (transactions : List Transaction) : Prog TradeStore.UpsertCounts :=
  if transactions.isEmpty then return {} else ask (.upsertRawTransactions transactions)

/-- Store the rows of a batch, unless there are none. -/
def storeRows (rows : List HistoryRow) : Prog TradeStore.UpsertCounts :=
  if rows.isEmpty then return {} else ask (.upsertTradeHistoryEvents rows)

/-- The steps `incremental_sync` and a chunk of `backfill_history` share. -/
def ingest (cfg : Config) (timezoneName : String) (transactions : List Transaction) :
    Prog IngestCounts := do
  let raw ← storeRaw transactions
  let normalized ← ofExcept (normalizeTransactions timezoneName transactions)
  let events ← storeRows normalized
  let projectedTrades ← projectTradeRecordsFromEvents cfg normalized
  let _ ← repairManualMitClosesFromHistory cfg
  return { raw, events, projectedTrades }

/-- The rows of different transactions of a log have no event id in common. -/
theorem TransactionLog.rowsApart (log : TransactionLog) (zone : String) :
    Table.KeysApart HistoryRow.eventId (normalizedRows zone) (· ∈ log.transactions) :=
  fun _ _ ht hu _ hd _ he hkey => eq_of_id_eq ht hu (id_eq_of_eventId_eq hd he hkey)

/-- `TradeHistorySyncState(...)`. -/
def syncState (accountId : String) (lastTransactionId : ℕ) (lastSyncUtc : Instant) :
    Except Exn TradeHistorySyncState :=
  if h : Text.isBlank accountId = false then
    .ok { accountId, lastTransactionId, lastSyncUtc, nonBlank := h }
  else .error (.valueError "account_id must be a non-empty string.")

theorem syncState_of_nonBlank {accountId : String} (h : Text.isBlank accountId = false)
    (lastTransactionId : ℕ) (lastSyncUtc : Instant) :
    syncState accountId lastTransactionId lastSyncUtc =
      .ok { accountId, lastTransactionId, lastSyncUtc, nonBlank := h } := dif_pos h

theorem syncState_ok {accountId : String} {lastTransactionId : ℕ} {lastSyncUtc : Instant}
    {state : TradeHistorySyncState}
    (h : syncState accountId lastTransactionId lastSyncUtc = .ok state) :
    state.accountId = accountId ∧ state.lastTransactionId = lastTransactionId := by
  unfold syncState at h
  split_ifs at h
  obtain rfl := Except.ok.inj h
  exact ⟨rfl, rfl⟩

/-! ### Incremental sync -/

/-- What `incremental_sync` returns. -/
structure SyncReport where
  mode : String
  accountId : String
  lastTransactionId : ℕ
  counts : IngestCounts
deriving DecidableEq, Repr

/-- Python's `account.get("id") or account_id`. -/
def resolvedAccountId (account : AccountDetails) (accountId : String) : String :=
  match account.id with
  | some id => if id.isEmpty then accountId else id
  | none => accountId

/-- The first sync of an account: the watermark becomes the newest transaction id. -/
def initializeSync (accountId : String) (nowUtc : Instant) : Prog SyncReport := do
  let account ← ask .getAccountDetails
  let accountId := resolvedAccountId account accountId
  match account.lastTransactionID with
  | none =>
      .raise (.runtimeError "OANDA account details did not include lastTransactionID.")
  | some lastTransactionId =>
      let state ← ofExcept (syncState accountId lastTransactionId nowUtc)
      ask (.upsertTradeHistorySyncState state)
      return { mode := "initialized", accountId, lastTransactionId, counts := {} }

/-- Every later sync: ingest what is newer than the watermark, then move it. -/
def continueSync (cfg : Config) (state : TradeHistorySyncState) (nowUtc : Instant) :
    Prog SyncReport := do
  let (transactions, newLastTransactionId) ←
    ask (.fetchTransactionsSince state.lastTransactionId tradeHistoryTypeFilter)
  let counts ← ingest cfg cfg.journalTimezone transactions
  let next ← ofExcept (syncState state.accountId newLastTransactionId nowUtc)
  ask (.upsertTradeHistorySyncState next)
  return {
    mode := "incremental"
    accountId := state.accountId
    lastTransactionId := newLastTransactionId
    counts }

/-- `incremental_sync`. -/
def incrementalSync (cfg : Config) : Prog SyncReport := do
  let state ← ask (.getTradeHistorySyncState cfg.oandaAccountId)
  let nowUtc ← ask .utcNow
  match state with
  | none => initializeSync cfg.oandaAccountId nowUtc
  | some state => continueSync cfg state nowUtc

/-! ### Backfill -/

/-- Thirty days. -/
def safeBackfillChunk : ℤ := 30 * 24 * 3600 * 1000000

/-- The loop of `_split_utc_window`. -/
def splitFrom (endUtc chunkSize : ℤ) : ℕ → ℤ → List (ℤ × ℤ)
  | 0, _ => []
  | fuel + 1, cursor =>
      if cursor < endUtc then
        let nextCursor := min (cursor + chunkSize) endUtc
        (cursor, nextCursor) :: splitFrom endUtc chunkSize fuel nextCursor
      else []

/-- `_split_utc_window`, with one turn of fuel for every chunk of the window. -/
def splitUtcWindow (startUtc endUtc chunkSize : ℤ) : List (ℤ × ℤ) :=
  splitFrom endUtc chunkSize (((endUtc - startUtc) / chunkSize).toNat + 1) startUtc

theorem mem_splitFrom {endUtc chunkSize : ℤ} {fuel : ℕ} {cursor : ℤ}
    {chunk : ℤ × ℤ} (hsize : 0 < chunkSize)
    (h : chunk ∈ splitFrom endUtc chunkSize fuel cursor) :
    cursor ≤ chunk.1 ∧ chunk.1 < chunk.2 ∧ chunk.2 ≤ endUtc := by
  induction fuel generalizing cursor with
  | zero => cases h
  | succ fuel ih =>
      simp only [splitFrom] at h
      split_ifs at h with hlt
      · rcases List.mem_cons.mp h with rfl | h
        · simp only [lt_min_iff, min_le_iff, le_refl, true_and, or_true, and_true]
          omega
        · have := ih h
          omega
      · cases h

theorem splitFrom_cover {endUtc chunkSize : ℤ} {fuel : ℕ} {cursor t : ℤ}
    (hfuel : endUtc - cursor ≤ fuel * chunkSize) (hcursor : cursor < endUtc)
    (ht : cursor ≤ t ∧ t ≤ endUtc) :
    ∃ chunk ∈ splitFrom endUtc chunkSize fuel cursor, chunk.1 ≤ t ∧ t ≤ chunk.2 := by
  induction fuel generalizing cursor with
  | zero => simp only [Nat.cast_zero, zero_mul] at hfuel; omega
  | succ fuel ih =>
      simp only [splitFrom, if_pos hcursor]
      by_cases hin : t ≤ min (cursor + chunkSize) endUtc
      · exact ⟨_, List.mem_cons_self, ht.1, hin⟩
      · have hnext : min (cursor + chunkSize) endUtc = cursor + chunkSize := by omega
        rw [hnext] at hin ⊢
        have hrest : endUtc - (cursor + chunkSize) ≤ fuel * chunkSize := by
          rw [Nat.cast_succ, add_mul, one_mul] at hfuel
          omega
        obtain ⟨chunk, hmem, hchunk⟩ := ih hrest (by omega) (by omega)
        exact ⟨chunk, List.mem_cons_of_mem _ hmem, hchunk⟩

theorem mem_splitUtcWindow {startUtc endUtc chunkSize : ℤ} (hsize : 0 < chunkSize) :
    (∀ chunk ∈ splitUtcWindow startUtc endUtc chunkSize,
      startUtc ≤ chunk.1 ∧ chunk.1 < chunk.2 ∧ chunk.2 ≤ endUtc) ∧
    ∀ t, startUtc < endUtc → startUtc ≤ t → t ≤ endUtc →
      ∃ chunk ∈ splitUtcWindow startUtc endUtc chunkSize, chunk.1 ≤ t ∧ t ≤ chunk.2 := by
  refine ⟨fun chunk h => mem_splitFrom hsize h, fun t hlt h₁ h₂ => splitFrom_cover ?_ hlt ⟨h₁, h₂⟩⟩
  have hdiv := Int.lt_ediv_add_one_mul_self (endUtc - startUtc) hsize
  have hnonneg : 0 ≤ (endUtc - startUtc) / chunkSize := Int.ediv_nonneg (by omega) hsize.le
  rw [Nat.cast_succ, Int.toNat_of_nonneg hnonneg]
  omega

/-- The newest id of a batch by sort key. -/
def maxTransactionId (transactions : List Transaction) : Option ℕ :=
  maxBy (fun id : ℕ => transactionSortKey (toString id)) (transactions.map Transaction.id)

/-- The running maximum of `backfill_history`. -/
def laterId (chunkMax current : Option ℕ) : Option ℕ :=
  match chunkMax, current with
  | none, current => current
  | some id, none => some id
  | some id, some best =>
      if transactionSortKey (toString best) < transactionSortKey (toString id) then some id
      else some best

/-- The loop of `backfill_history` over its chunks. -/
def backfillChunks (cfg : Config) (timezoneName : String) :
    List (Instant × Instant) → Option ℕ → IngestCounts → Prog (Option ℕ × IngestCounts)
  | [], best, totals => return (best, totals)
  | (chunkStart, chunkEnd) :: chunks, best, totals => do
      let transactions ←
        ask (.fetchTransactionsForWindow chunkStart chunkEnd tradeHistoryTypeFilter)
      let counts ← ingest cfg timezoneName transactions
      backfillChunks cfg timezoneName chunks (laterId (maxTransactionId transactions) best)
        (totals + counts)

/-- `_advance_sync_state_watermark`. -/
def advanceSyncStateWatermark (cfg : Config) (candidate : ℕ) : Prog Unit := do
  let existing ← ask (.getTradeHistorySyncState cfg.oandaAccountId)
  if existing.any (fun state => decide (transactionSortKey (toString candidate) ≤
      transactionSortKey (toString state.lastTransactionId))) then return ()
  let nowUtc ← ask .utcNow
  let state ← ofExcept (syncState cfg.oandaAccountId candidate nowUtc)
  ask (.upsertTradeHistorySyncState state)

/-- What `backfill_history` returns. -/
structure BackfillReport where
  startDay : ℤ
  endDay : ℤ
  timezoneName : String
  chunks : ℕ
  counts : IngestCounts
deriving DecidableEq, Repr

/-- Python's `tz_name or self.settings.journal_timezone`. -/
def backfillTimezone (cfg : Config) (tzName : Option String) : String :=
  match tzName with
  | some name => if name.isEmpty then cfg.journalTimezone else name
  | none => cfg.journalTimezone

/-- The chunks of a backfill over local days. -/
def backfillWindow (cfg : Config) (timezoneName : String) (startDay endDay : ℤ) :
    List (Instant × Instant) :=
  splitUtcWindow (cfg.localMidnightUtc timezoneName startDay)
    (cfg.localMidnightUtc timezoneName (endDay + 1)) safeBackfillChunk

/-- `backfill_history`. -/
def backfillHistory (cfg : Config) (startDay endDay : ℤ) (tzName : Option String) :
    Prog BackfillReport := do
  let timezoneName := backfillTimezone cfg tzName
  if endDay < startDay then
    .raise (.valueError "end_date must be greater than or equal to start_date.")
  else
    let chunks := backfillWindow cfg timezoneName startDay endDay
    let (best, counts) ← backfillChunks cfg timezoneName chunks none {}
    match best with
    | some candidate => advanceSyncStateWatermark cfg candidate
    | none => pure ()
    return { startDay, endDay, timezoneName, chunks := chunks.length, counts }

/-! ### A sample account

The account on which the programs are run by evaluation. -/

/-- Settings of the sample account: pips of a ten-thousandth, days in UTC. -/
def sampleConfig : Config where
  oandaAccountId := "001"
  journalTimezone := "UTC"
  accountCurrency := "SGD"
  getPipSize := fun _ => .ok (1 / 10000)
  validateLiveInstrument := .ok
  localMidnightUtc := fun _ day => day * (24 * 3600 * 1000000)

/-- An order fill without legs. -/
def sampleFill (id : ℕ) (time : Instant) (reason : String) (units : ℤ) : Transaction where
  id := id
  type := some "ORDER_FILL"
  time := some time
  accountID := some "001"
  instrument := some "EUR_USD"
  reason := some reason
  units := some ⟨units, 0⟩
  price := some ⟨11, -1⟩
  raw := .obj [("reason", .str reason)]

def openingFill (id : ℕ) (time : Instant) (tradeId : String) (units : ℤ) : Transaction :=
  { sampleFill id time "MARKET_ORDER" units with
    tradeOpened := some { tradeID := some tradeId, units := some ⟨units, 0⟩ } }

def reducingFill (id : ℕ) (time : Instant) (tradeId : String) (units : ℤ) : Transaction :=
  { sampleFill id time "MARKET_ORDER" (-units) with
    tradeReduced := some { tradeID := some tradeId, units := some ⟨-units, 0⟩ } }

def closingFill (id : ℕ) (time : Instant) (tradeId : String) (units : ℤ) : Transaction :=
  { sampleFill id time "MARKET_ORDER" (-units) with
    tradesClosed := [{ tradeID := some tradeId, units := some ⟨-units, 0⟩ }] }

def noFills : TransactionLog := ⟨[], .nil⟩

def oneFill : TransactionLog := ⟨[openingFill 1 0 "1" 100], by decide⟩

def twoFills : TransactionLog := ⟨[openingFill 1 0 "1" 100, openingFill 2 1 "2" 100], by decide⟩

/-- A new database and a broker with this log. -/
def sampleWorld (log : TransactionLog) : World where
  store := .empty
  broker := {
    accountId := "001"
    log
    openTrades := []
    tradeDetail := fun _ => none
    tradeTransactions := fun _ => none
    currency := none }
  clock := 0
  stateLock := false

/-- The watermark of the sample account. -/
def sampleState (lastTransactionId : ℕ) : TradeHistorySyncState where
  accountId := "001"
  lastTransactionId := lastTransactionId
  lastSyncUtc := 0
  nonBlank := by decide

/-- A database that holds a watermark and nothing else, and a broker with this log. -/
def watermarkedWorld (log : TransactionLog) (lastTransactionId : ℕ) : World :=
  (sampleWorld log).withStore
    (TradeStore.empty.upsertTradeHistorySyncState (sampleState lastTransactionId))

end OandaV3
