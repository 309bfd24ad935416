import OandaV3.PollerMirror
import OandaV3.PollerRules
import OandaV3.Projection

/-! # A sound journal

The broker's own account of a trade: `TransactionLog.Opened` and `TransactionLog.Closed`.  A broker
is `Coherent` when its open-trades list holds exactly the trades that were opened and not closed.

A journal is sound (`JournalSound`) when its history rows come from the broker's log, its trades were
opened at the broker, and its closed trades were closed there.  What each write does to a sound
journal is said once here (`JournalSound.storeRows`, `JournalSound.upsertTrade`,
`FromLog.projected`), and `rg_incrementalSync_sound`, `rg_backfillHistory_sound` say that a sync
and a backfill are sound as soon as their ingestions are. -/

namespace OandaV3

open Interaction Program

namespace TransactionLog

/-- The trades whose opening fill is in the log. -/
def openedIds (log : TransactionLog) : List String :=
  log.transactions.filterMap fun t => t.tradeOpened.bind TradeLink.tradeID

/-- The trades whose closing fill is in the log. -/
def closedIds (log : TransactionLog) : List String :=
  log.transactions.flatMap fun t => t.tradesClosed.filterMap TradeLink.tradeID

/-- The log holds the fill that opened the trade. -/
def Opened (log : TransactionLog) (tradeId : String) : Prop := tradeId ∈ log.openedIds

/-- The log holds the fill that closed the trade. -/
def Closed (log : TransactionLog) (tradeId : String) : Prop := tradeId ∈ log.closedIds

instance (log : TransactionLog) (tradeId : String) : Decidable (log.Opened tradeId) :=
  inferInstanceAs (Decidable (_ ∈ _))

instance (log : TransactionLog) (tradeId : String) : Decidable (log.Closed tradeId) :=
  inferInstanceAs (Decidable (_ ∈ _))

theorem Grows.opened {log log' : TransactionLog} (h : log.Grows log') {tradeId : String}
    (ho : log.Opened tradeId) : log'.Opened tradeId :=
  (h.sublist.filterMap _).subset ho

theorem Grows.closed {log log' : TransactionLog} (h : log.Grows log') {tradeId : String}
    (hc : log.Closed tradeId) : log'.Closed tradeId :=
  let ⟨t, ht, hlink⟩ := List.mem_flatMap.mp hc
  List.mem_flatMap.mpr ⟨t, h.mem ht, hlink⟩

end TransactionLog

/-- The open-trades list holds the trades that were opened and not closed. -/
def Broker.Coherent (broker : Broker) : Prop :=
  ∀ tradeId, tradeId ∈ broker.openIds ↔
    broker.log.Opened tradeId ∧ ¬ broker.log.Closed tradeId

def TradeStore.isClosed (store : TradeStore) (tradeId : String) : Bool :=
  (store.getTrade tradeId).any (fun trade => trade.state == .CLOSED)

/-- The rows of the journal come from the log, and its trades were opened and closed there. -/
structure JournalSound (w : World) : Prop where
  coherent : w.broker.Coherent
  rows : ∀ row ∈ w.store.tradeHistoryEvents.docs, ∃ t ∈ w.broker.log.transactions,
    ∃ zone, row ∈ normalizedRows zone t
  opened : ∀ trade ∈ w.store.trades.docs, w.broker.log.Opened trade.tradeId
  closed : ∀ trade ∈ w.store.trades.docs, trade.state = .CLOSED → w.broker.log.Closed trade.tradeId

/-- Events of one trade that come from the log. -/
def FromLog (log : TransactionLog) (tradeId : String) (events : List TradeHistoryEvent) : Prop :=
  ∀ e ∈ events, e.tradeId = tradeId ∧
    ∃ t ∈ log.transactions, ∃ zone, HistoryRow.trade e ∈ normalizedRows zone t

/-- The log grows, and a sound journal stays sound. -/
structure World.Moves (w w' : World) : Prop where
  log : w.broker.log.Grows w'.broker.log
  sound : JournalSound w → JournalSound w'

/-- The broker trades: only the broker and the clock move, the log grows, and a coherent broker stays
coherent. -/
structure World.Trades (w w' : World) : Prop where
  grows : w.Grows w'
  coherent : w.broker.Coherent → w'.broker.Coherent

section

variable {w w' : World} {log log' : TransactionLog} {tradeId : String}
  {events : List TradeHistoryEvent} {trade record : TradeRecord}

theorem World.Moves.refl (w : World) : w.Moves w := ⟨.refl _, fun h => h⟩

theorem World.Moves.trans {a b c : World} (h : a.Moves b) (h' : b.Moves c) : a.Moves c :=
  ⟨h.log.trans h'.log, fun hs => h'.sound (h.sound hs)⟩

theorem World.Trades.refl (w : World) : w.Trades w := ⟨.refl w, fun h => h⟩

theorem World.Trades.trans {a b c : World} (h : a.Trades b) (h' : b.Trades c) : a.Trades c :=
  ⟨h.grows.trans h'.grows, fun hc => h'.coherent (h.coherent hc)⟩

theorem TradeStore.isClosed_iff {store : TradeStore} :
    store.isClosed tradeId = true ↔
      ∃ trade, store.getTrade tradeId = some trade ∧ trade.state = .CLOSED := by
  simp [isClosed, Option.any_eq_true]

theorem FromLog.grows (h : FromLog log tradeId events) (hlog : log.Grows log') :
    FromLog log' tradeId events := fun e he =>
  let ⟨hid, t, ht, hrow⟩ := h e he
  ⟨hid, t, hlog.mem ht, hrow⟩

theorem FromLog.opened (h : FromLog log tradeId events) {e : TradeHistoryEvent} (he : e ∈ events)
    (hopen : e.eventType = .OPEN) : log.Opened tradeId := by
  obtain ⟨rfl, t, ht, zone, hrow⟩ := h e he
  obtain ⟨opened, hopened, hid⟩ := opened_of_mem hrow hopen
  exact List.mem_filterMap.mpr ⟨t, ht, Option.bind_eq_some_iff.mpr ⟨opened, hopened, hid⟩⟩

theorem FromLog.closed (h : FromLog log tradeId events) (hclose : hasClose events = true) :
    log.Closed tradeId := by
  obtain ⟨e, he, hclose⟩ := hasClose_iff.mp hclose
  obtain ⟨rfl, t, ht, zone, hrow⟩ := h e he
  obtain ⟨closed, hclosed, hid⟩ := closed_of_mem hrow hclose
  exact List.mem_flatMap.mpr ⟨t, ht, List.mem_filterMap.mpr ⟨closed, hclosed, hid⟩⟩

namespace JournalSound

theorem start (hstore : w.store = .empty) (hbroker : w.broker.Coherent) : JournalSound w :=
  ⟨hbroker, hstore ▸ fun _ h => (nomatch h), hstore ▸ fun _ h => (nomatch h),
    hstore ▸ fun _ h => (nomatch h)⟩

theorem trades (h : JournalSound w) (hstep : w.Trades w') : JournalSound w' := by
  have hlog := hstep.grows.log
  refine ⟨hstep.coherent h.coherent, ?_, ?_, ?_⟩ <;> rw [hstep.grows.store]
  · intro row hrow
    obtain ⟨t, ht, hzone⟩ := h.rows row hrow
    exact ⟨t, hlog.mem ht, hzone⟩
  · exact fun trade htrade => hlog.opened (h.opened trade htrade)
  · exact fun trade htrade hclosed => hlog.closed (h.closed trade htrade hclosed)

theorem getTrade_opened (h : JournalSound w) (hget : w.store.getTrade tradeId = some trade) :
    w.broker.log.Opened tradeId :=
  let ⟨hmem, hid⟩ := Table.find_some hget
  hid ▸ h.opened trade hmem

theorem getTrade_closed (h : JournalSound w) (hget : w.store.getTrade tradeId = some trade)
    (hclosed : trade.state = .CLOSED) : w.broker.log.Closed tradeId :=
  let ⟨hmem, hid⟩ := Table.find_some hget
  hid ▸ h.closed trade hmem hclosed

theorem isClosed_closed (h : JournalSound w) (hclosed : w.store.isClosed tradeId = true) :
    w.broker.log.Closed tradeId :=
  let ⟨_, hget, hstate⟩ := TradeStore.isClosed_iff.mp hclosed
  h.getTrade_closed hget hstate

theorem fromLog (h : JournalSound w) (tradeId : String) :
    FromLog w.broker.log tradeId (w.store.tradeEvents tradeId) := fun _ he =>
  let ⟨hrow, hid⟩ := TradeStore.mem_tradeEvents.mp he
  ⟨hid, h.rows _ hrow⟩

/-! ### Writes -/

theorem storeRaw (h : JournalSound w) (transactions : List Transaction) :
    JournalSound (w.withStore (w.store.upsertRawTransactions transactions).2) := by
  rw [TradeStore.upsertRawTransactions_table]
  exact { h with }

theorem upsertSyncState (h : JournalSound w) (state : TradeHistorySyncState) :
    JournalSound (w.withStore (w.store.upsertTradeHistorySyncState state)) :=
  { h with }

theorem storeRows {rows : List HistoryRow} (h : JournalSound w)
    (hrows : ∀ row ∈ rows, ∃ t ∈ w.broker.log.transactions, ∃ zone, row ∈ normalizedRows zone t) :
    JournalSound (w.withStore (w.store.upsertTradeHistoryEvents rows).2) := by
  rw [TradeStore.upsertTradeHistoryEvents_table]
  refine { h with rows := fun row hrow => ?_ }
  rcases DocTable.mem_putAll hrow with hrow | hrow
  · exact hrows row hrow
  · exact h.rows row hrow

/-- Storing a record of a trade that was opened, as closed only when it was. -/
theorem upsertTrade (h : JournalSound w) (hopened : w.broker.log.Opened record.tradeId)
    (hclosed : record.state = .CLOSED → w.broker.log.Closed record.tradeId) :
    JournalSound (w.withStore (w.store.upsertTrade record)) := by
  refine { h with opened := fun trade htrade => ?_, closed := fun trade htrade hstate => ?_ }
  · rcases Table.mem_insert.mp htrade with rfl | ⟨htrade, -⟩
    · exact hopened
    · exact h.opened trade htrade
  · rcases Table.mem_insert.mp htrade with rfl | ⟨htrade, -⟩
    · exact hclosed hstate
    · exact h.closed trade htrade hstate

end JournalSound

/-- A projected trade was opened at the broker, and it is closed only when it was closed there. -/
theorem FromLog.projected {cfg : Config} {existing : Option TradeRecord}
    (h : FromLog log tradeId events)
    (hexisting : ∀ trade, existing = some trade → log.Opened tradeId)
    (hrecord : projection cfg tradeId events existing = .ok (some record)) :
    log.Opened record.tradeId ∧ (record.state = .CLOSED → log.Closed record.tradeId) := by
  rw [projection_tradeId hrecord, projection_state hrecord]
  refine ⟨?_, fun hstate => ?_⟩
  · cases existing with
    | some trade => exact hexisting trade rfl
    | none =>
        have hbase := recordBase_projection hrecord
        simp only [tradeBase] at hbase
        cases hfind : events.find? (fun e => e.eventType == .OPEN) with
        | none => rw [hfind] at hbase; cases hbase
        | some e =>
            have hopen : e.eventType = .OPEN := by simpa using List.find?_some hfind
            exact h.opened (List.mem_of_find?_eq_some hfind) hopen
  · cases hclose : hasClose events with
    | true => exact h.closed hclose
    | false => rw [hclose] at hstate; cases hstate

end

/-! ### Syncs and backfills -/

section rules

variable {cfg : Config} {lossy : Call → Prop} {ok : Call → World → Prop}
  {rely guar : World → World → Prop} {s : World}
  (hrefl : ∀ t, rely t t) (hsound : ∀ t t', JournalSound t → rely t t' → JournalSound t')
  (hguar : ∀ t t', t'.store.trades = t.store.trades → t.Moves t' → guar t t')

include hrefl hsound hguar

/-- An ingestion of a batch of the log, when its projections and repairs keep `B`. -/
theorem rg_ingest_sound {zone : String} {transactions : List Transaction}
    {B : List HistoryRow → World → Prop}
    (hlog : ∀ t t', rely t t' → t.broker.log.Grows t'.broker.log)
    (hB : ∀ rows t t', B rows t → rely t t' → B rows t')
    (hBsound : ∀ rows t, B rows t → JournalSound t)
    (hrows : ∀ rows t, JournalSound (t.withStore (t.store.upsertTradeHistoryEvents rows).2) →
      (rows ≠ [] → ok (.upsertTradeHistoryEvents rows) t) →
        B rows (t.withStore (t.store.upsertTradeHistoryEvents rows).2))
    (hproject : ∀ rows t, B rows t → (each (projectTradeRecord cfg) (projectedTradeIds rows)).Rg
      (World.guarded lossy ok) rely guar (After (B rows) (B rows)) t)
    (hrepair : ∀ rows t, B rows t → (repairManualMitClosesFromHistory cfg).Rg
      (World.guarded lossy ok) rely guar (After (B rows) (B rows)) t)
    (hs : JournalSound s) (hbatch : ∀ u ∈ transactions, u ∈ s.broker.log.transactions) :
    (ingest cfg zone transactions).Rg (World.guarded lossy ok) rely guar
      (After JournalSound JournalSound) s := by
  let I : World → Prop := fun t => JournalSound t ∧ ∀ u ∈ transactions, u ∈ t.broker.log.transactions
  have hI : ∀ t t', I t → rely t t' → I t' := fun t t' ht h =>
    ⟨hsound t t' ht.1 h, fun u hu => (hlog t t' h).mem (ht.2 u hu)⟩
  have hraw : ∀ t stored, I t → guar t (t.withStore (t.store.upsertRawTransactions stored).2) ∧
      I (t.withStore (t.store.upsertRawTransactions stored).2) := fun t stored ht =>
    ⟨hguar t _ (by rw [TradeStore.upsertRawTransactions_table]; rfl)
      ⟨.refl _, fun h => h.storeRaw stored⟩, ht.1.storeRaw stored, ht.2⟩
  have hstored : ∀ rows, normalizeTransactions zone transactions = .ok rows → ∀ t stored, I t →
      (∀ row ∈ stored, row ∈ rows) →
        guar t (t.withStore (t.store.upsertTradeHistoryEvents stored).2) ∧
          JournalSound (t.withStore (t.store.upsertTradeHistoryEvents stored).2) := by
    intro rows hnormal t stored ht hsub
    have hlogRows : ∀ row ∈ stored, ∃ u ∈ t.broker.log.transactions,
        ∃ zone, row ∈ normalizedRows zone u := by
      obtain ⟨rfl, -⟩ := normalizeTransactions_ok.mp hnormal
      intro row hrow
      obtain ⟨u, hu, hmem⟩ := List.mem_flatMap.mp (hsub row hrow)
      exact ⟨u, ht.2 u hu, zone, hmem⟩
    exact ⟨hguar t _ (by rw [TradeStore.upsertTradeHistoryEvents_table]; rfl)
      ⟨.refl _, fun h => h.storeRows hlogRows⟩, ht.1.storeRows hlogRows⟩
  refine (rg_ingest (I := I) (A := I) (B := B) (E := JournalSound) hrefl hI hI hB hsound
    (fun t ht => ht.1) hBsound (fun t ht => hraw t transactions ht)
    (fun t stored ht _ => ⟨(hraw t stored ht).1, (hraw t stored ht).2.1⟩)
    (fun rows hnormal t ht hok => ?_) (fun rows hnormal t stored ht hpre => ?_) hproject hrepair
    ⟨hs, hbatch⟩).mono fun r t hr => ?_
  · obtain ⟨hg, hst⟩ := hstored rows hnormal t rows ht fun _ h => h
    exact ⟨hg, hrows rows t hst hok⟩
  · exact hstored rows hnormal t stored ht fun _ h => hpre.subset h
  · cases r with
    | ok counts => obtain ⟨rows, -, ht⟩ := hr; exact hBsound rows t ht
    | error e => exact hr

variable (hingest : ∀ zone transactions t, JournalSound t →
  (∀ u ∈ transactions, u ∈ t.broker.log.transactions) →
    (ingest cfg zone transactions).Rg (World.guarded lossy ok) rely guar
      (After JournalSound JournalSound) t)

include hingest

theorem rg_incrementalSync_sound (hs : JournalSound s) :
    (incrementalSync cfg).Rg (World.guarded lossy ok) rely guar (After JournalSound JournalSound)
      s := by
  have hself : ∀ t, guar t t := fun t => hguar t t rfl (.refl t)
  have hwrite : ∀ t next, JournalSound t →
      guar t (t.withStore (t.store.upsertTradeHistorySyncState next)) ∧
        JournalSound (t.withStore (t.store.upsertTradeHistorySyncState next)) := fun t next ht =>
    ⟨hguar t _ rfl ⟨.refl _, fun h => h.upsertSyncState next⟩, ht.upsertSyncState next⟩
  refine rg_incrementalSync (N := JournalSound) (S := fun _ => JournalSound) hself hsound hsound
    (fun _ => hsound) (fun _ h => h) (fun _ h => h) (fun _ _ h => h) (fun _ h _ => h)
    (fun _ _ h _ => h) (fun t nowUtc ht => ?_) (fun t state nowUtc ht => ?_) hs
  · exact rg_initializeSync (N := fun _ _ => JournalSound) hself hsound hsound (fun _ _ => hsound)
      (fun _ _ h _ _ => h) (fun t _ _ next h _ => hwrite t next h) ht
  · exact rg_continueSync (J := fun _ => JournalSound) hrefl hself hsound hsound (fun _ => hsound)
      (fun _ h => h) (fun _ _ h => h)
      (fun t last h _ => hingest _ _ t h fun u hu => (TransactionLog.mem_since.mp hu).1)
      (fun t _ next h _ => hwrite t next h) ht

theorem rg_backfillHistory_sound {startDay endDay : ℤ} {tzName : Option String}
    (hs : JournalSound s) :
    (backfillHistory cfg startDay endDay tzName).Rg (World.guarded lossy ok) rely guar
      (After JournalSound JournalSound) s := by
  have hself : ∀ t, guar t t := fun t => hguar t t rfl (.refl t)
  exact rg_backfillHistory (B := fun _ => JournalSound) hrefl (fun _ => hsound) hsound (fun _ _ h => h)
    (fun zone chunks => rg_backfillChunks hrefl hself (fun _ => hsound) (fun _ _ h => h)
      (fun _ t _ _ h _ => hingest zone _ t h fun u hu => (TransactionLog.mem_window.mp hu).1) chunks
      none {} hs)
    (fun candidate t ht => rg_advanceSyncStateWatermark hself hsound hsound (fun _ h => h)
      (fun t _ next h _ => ⟨hguar t _ rfl ⟨.refl _, fun h => h.upsertSyncState next⟩,
        h.upsertSyncState next⟩) ht) hs

end rules

end OandaV3
