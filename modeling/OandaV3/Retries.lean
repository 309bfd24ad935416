import OandaV3.Stored

/-! # Syncs that fail and are tried again

A batch is written row by row, so a sync that fails may leave some of its raw transactions and rows
behind; the watermark is written last, and the next sync fetches the same batch again.

`Synced` ties the tables to the watermark: what is newer than the first watermark and at most the
current one is stored, and nothing else was touched but rows a later sync writes again
(`Table.Replayed`).  `syncs_exactly_once`: whatever failed, the watermark passes stored transactions
only, and a sync that returns leaves the tables every other run with this watermark leaves.  The
first sync of an account is left out: it has no watermark to continue from
(`syncs_first_watermark_late`). -/

namespace OandaV3

open Interaction Program

/-- A number of syncs, each of them whatever became of the ones before. -/
def runSyncs (cfg : Config) (n : ℕ) : Prog (List (Except Exn SyncReport)) :=
  each (fun _ => (incrementalSync cfg).attempt) (List.range n)

def syncsThenOne (cfg : Config) (n : ℕ) : Prog SyncReport := do
  let _ ← runSyncs cfg n
  incrementalSync cfg

/-- A relevant transaction of the log, newer than `first` and at most `last`. -/
def Between (log : TransactionLog) (first last : ℕ) (t : Transaction) : Prop :=
  t ∈ log.transactions ∧ t.relevant = true ∧ first < t.id ∧ t.id ≤ last

/-- The transaction is stored raw, and its rows are stored as the normalizer yields them. -/
def TradeStore.HoldsExactly (zone : String) (store : TradeStore) (t : Transaction) : Prop :=
  store.rawTransactions.find t.id = some t ∧
    normalizeTransaction zone t = .ok (normalizedRows zone t) ∧
    ∀ row ∈ normalizedRows zone t, store.tradeHistoryEvents.find row.eventId =
      DocTable.last HistoryRow.eventId row.eventId (normalizedRows zone t)

/-- The raw transactions and the rows are the same, as maps. -/
def SameTables (store store' : TradeStore) : Prop :=
  (∀ id, store.rawTransactions.find id = store'.rawTransactions.find id) ∧
    ∀ eventId, store.tradeHistoryEvents.find eventId = store'.tradeHistoryEvents.find eventId

/-- How far an account that started at `base`, with the watermark `first`, has got: the raw
transactions up to `raw` and the rows up to `rows` are stored, and of what is newer than `seen`
nothing was touched. -/
structure Synced (cfg : Config) (base : World) (first watermark raw rows seen : ℕ) (w : World) :
    Prop where
  watermark_eq : w.store.watermark cfg.oandaAccountId = some watermark
  first_le : first ≤ watermark
  watermark_le_raw : watermark ≤ raw
  watermark_le_rows : watermark ≤ rows
  raw_le : raw ≤ seen
  rows_le : rows ≤ seen
  newest : ∃ v ∈ w.broker.log.transactions, seen ≤ v.id
  rawTransactions : Table.Replayed base.store.rawTransactions w.store.rawTransactions (fun t => [t])
    (Between w.broker.log first seen) (Between w.broker.log first raw)
  tradeHistoryEvents : Table.Replayed base.store.tradeHistoryEvents w.store.tradeHistoryEvents
    (normalizedRows cfg.journalTimezone) (Between w.broker.log first seen)
    (Between w.broker.log first rows)
  accepted : ∀ t, Between w.broker.log first rows t →
    normalizeTransaction cfg.journalTimezone t = .ok (normalizedRows cfg.journalTimezone t)

/-- Some prefix of the log is stored up to the watermark. -/
def Retriable (cfg : Config) (base : World) (first : ℕ) (w : World) : Prop :=
  ∃ watermark seen, Synced cfg base first watermark watermark watermark seen w

/-- Exactly the log up to the watermark is stored. -/
def UpToDate (cfg : Config) (base : World) (first : ℕ) (w : World) : Prop :=
  ∃ watermark, Synced cfg base first watermark watermark watermark watermark w

section

variable {cfg : Config} {base w w' s : World} {first watermark raw rows seen last : ℕ}
  {log log' : TransactionLog} {t : Transaction}

theorem Between.grows (h : Between log first last t) (hlog : log.Grows log') :
    Between log' first last t := ⟨hlog.mem h.1, h.2⟩

theorem Between.mono (h : Between log first seen t) (hle : seen ≤ last) :
    Between log first last t := ⟨h.1, h.2.1, h.2.2.1, h.2.2.2.trans hle⟩

theorem Between.of_grows (h : Between log' first last t) (hlog : log.Grows log')
    (hnewest : ∃ v ∈ log.transactions, last ≤ v.id) : Between log first last t := by
  obtain ⟨v, hv, hle⟩ := hnewest
  rcases hlog.mem_or_newer h.1 with hmem | hnewer
  · exact ⟨hmem, h.2⟩
  · have := hnewer v hv
    have := h.2.2.2
    omega

theorem keysApart_raw (log : TransactionLog) (first last : ℕ) :
    Table.KeysApart Transaction.id (fun t => [t]) (Between log first last) := by
  intro t u ht hu d hd e he hkey
  obtain rfl := List.mem_singleton.mp hd
  obtain rfl := List.mem_singleton.mp he
  exact TransactionLog.eq_of_id_eq ht.1 hu.1 hkey

theorem keysApart_rows (log : TransactionLog) (first last : ℕ) (zone : String) :
    Table.KeysApart HistoryRow.eventId (normalizedRows zone) (Between log first last) :=
  fun t u ht hu => log.rowsApart zone t u ht.1 hu.1

theorem Synced.start (hfirst : base.store.watermark cfg.oandaAccountId = some first)
    (hnewest : ∃ v ∈ base.broker.log.transactions, first ≤ v.id) :
    Synced cfg base first first first first first base := by
  have hnone : ∀ t, ¬ Between base.broker.log first first t := fun t ht => by
    have := ht.2.2
    omega
  exact ⟨hfirst, le_refl _, le_refl _, le_refl _, le_refl _, le_refl _, hnewest,
    (Table.Replayed.start _ _).mono (fun _ h => h) hnone,
    (Table.Replayed.start _ _).mono (fun _ h => h) hnone, fun t ht => (hnone t ht).elim⟩

theorem Synced.grows (h : Synced cfg base first watermark raw rows seen w) (hgrows : w.Grows w') :
    Synced cfg base first watermark raw rows seen w' := by
  obtain ⟨v, hv, hseen⟩ := h.newest
  have hdone : ∀ {level}, level ≤ seen → ∀ t, Between w'.broker.log first level t →
      Between w.broker.log first level t := fun hle t ht =>
    ht.of_grows hgrows.log ⟨v, hv, hle.trans hseen⟩
  refine { h with
    watermark_eq := (hgrows.later.watermark _).trans h.watermark_eq
    newest := ⟨v, hgrows.log.mem hv, hseen⟩
    rawTransactions := ?_
    tradeHistoryEvents := ?_
    accepted := fun t ht => h.accepted t (hdone h.rows_le t ht) }
  · rw [hgrows.store]
    exact h.rawTransactions.mono (fun t ht => ht.grows hgrows.log) (hdone h.raw_le)
  · rw [hgrows.store]
    exact h.tradeHistoryEvents.mono (fun t ht => ht.grows hgrows.log) (hdone h.rows_le)

/-- A sync that has fetched the log up to `last` may touch all of it. -/
theorem Synced.fetched (h : Synced cfg base first watermark raw rows seen w)
    (hlast : w.broker.log.lastTransactionID = some last) :
    Synced cfg base first watermark raw rows last w := by
  obtain ⟨v, hv, hseen⟩ := h.newest
  have hle : seen ≤ last := hseen.trans (TransactionLog.id_le_last hlast hv)
  obtain ⟨u, hu, hulast⟩ := Option.map_eq_some_iff.mp hlast
  exact { h with
    raw_le := h.raw_le.trans hle
    rows_le := h.rows_le.trans hle
    newest := ⟨u, List.mem_of_getLast? hu, hulast.ge⟩
    rawTransactions := h.rawTransactions.mono (fun _ ht => ht.mono hle) fun _ ht => ht
    tradeHistoryEvents := h.tradeHistoryEvents.mono (fun _ ht => ht.mono hle) fun _ ht => ht }

theorem Synced.upsertTrade (h : Synced cfg base first watermark raw rows seen w)
    (record : TradeRecord) :
    Synced cfg base first watermark raw rows seen (w.withStore (w.store.upsertTrade record)) :=
  { h with }

/-- Forgetting what is stored above the watermark. -/
theorem Synced.retriable (h : Synced cfg base first watermark raw rows seen w) :
    Retriable cfg base first w :=
  ⟨watermark, seen, h.watermark_eq, h.first_le, le_refl _, le_refl _, h.watermark_le_raw.trans h.raw_le,
    h.watermark_le_rows.trans h.rows_le, h.newest,
    h.rawTransactions.mono (fun _ ht => ht) (fun _ ht => ht.mono h.watermark_le_raw),
    h.tradeHistoryEvents.mono (fun _ ht => ht) (fun _ ht => ht.mono h.watermark_le_rows),
    fun t ht => h.accepted t (ht.mono h.watermark_le_rows)⟩

/-! ### Storing a fetched batch -/

/-- The batch is what is newer than the watermark, in the order of the log. -/
structure BatchOf (log : TransactionLog) (watermark last : ℕ) (batch : List Transaction) : Prop where
  pending : ∀ t ∈ batch, t ∈ log.transactions ∧ t.relevant = true ∧ watermark < t.id ∧ t.id ≤ last
  complete : ∀ t ∈ log.transactions, t.relevant = true → watermark < t.id → t.id ≤ last → t ∈ batch

theorem batchOf_since (hlast : log.lastTransactionID = some last) :
    BatchOf log watermark last (log.since watermark tradeHistoryTypeFilter) :=
  ⟨fun _ ht =>
    let ⟨hlog, hlt, hrelevant⟩ := TransactionLog.mem_since.mp ht
    ⟨hlog, hrelevant, hlt, TransactionLog.id_le_last hlast hlog⟩,
    fun _ ht hrelevant hlt _ => TransactionLog.mem_since.mpr ⟨ht, hlt, hrelevant⟩⟩

theorem BatchOf.grows {batch : List Transaction} (h : BatchOf log watermark last batch)
    (hlog : log.Grows log') (hnewest : ∃ v ∈ log.transactions, last ≤ v.id) :
    BatchOf log' watermark last batch :=
  ⟨fun t ht => let ⟨hmem, hrest⟩ := h.pending t ht; ⟨hlog.mem hmem, hrest⟩,
    fun t ht hrelevant hlt hle =>
      h.complete t (Between.of_grows ⟨ht, hrelevant, hlt, hle⟩ hlog hnewest).1 hrelevant hlt hle⟩

variable {batch : List Transaction}

theorem Synced.storeRawPart (h : Synced cfg base first watermark watermark watermark last w)
    (hbatch : BatchOf w.broker.log watermark last batch)
    {stored : List Transaction} (hstored : ∀ t ∈ stored, t ∈ batch) :
    Synced cfg base first watermark watermark watermark last
      (w.withStore (w.store.upsertRawTransactions stored).2) := by
  rw [TradeStore.upsertRawTransactions_table]
  refine { h with
    rawTransactions :=
      h.rawTransactions.insertAll (keysApart_raw _ _ _) (fun _ ht => ht.mono h.raw_le) fun t ht => ?_ }
  have hfirst := h.first_le
  obtain ⟨hlog, hrelevant, hlt, hle⟩ := hbatch.pending t (hstored t ht)
  exact ⟨t, ⟨hlog, hrelevant, by omega, hle⟩, fun hdone => absurd hdone.2.2.2 (by omega),
    List.mem_singleton_self t⟩

theorem Synced.storeRaw (h : Synced cfg base first watermark watermark watermark last w)
    (hbatch : BatchOf w.broker.log watermark last batch) :
    Synced cfg base first watermark last watermark last
      (w.withStore (w.store.upsertRawTransactions batch).2) := by
  rw [TradeStore.upsertRawTransactions_table]
  have hblocks : batch.flatMap (fun t => [t]) = batch := List.flatMap_singleton' batch
  have hpending : ∀ t ∈ batch, Between w.broker.log first last t := fun t ht =>
    let ⟨hlog, hrelevant, hlt, hle⟩ := hbatch.pending t ht
    ⟨hlog, hrelevant, h.first_le.trans_lt hlt, hle⟩
  have hall := h.rawTransactions.insertBlocks (keysApart_raw _ _ _) (fun _ ht => ht.mono h.raw_le)
    hpending
  rw [hblocks] at hall
  refine { h with
    watermark_le_raw := h.raw_le
    raw_le := le_refl _
    rawTransactions := hall.mono (fun _ ht => ht) fun t ht => ?_ }
  by_cases hle : t.id ≤ watermark
  · exact Or.inl ⟨ht.1, ht.2.1, ht.2.2.1, hle⟩
  · exact Or.inr (hbatch.complete t ht.1 ht.2.1 (by omega) ht.2.2.2)

theorem Synced.storeRowsPart (h : Synced cfg base first watermark last watermark last w)
    (hbatch : BatchOf w.broker.log watermark last batch)
    {stored : List HistoryRow}
    (hstored : ∀ row ∈ stored, row ∈ batch.flatMap (normalizedRows cfg.journalTimezone)) :
    Synced cfg base first watermark last watermark last
      (w.withStore (w.store.upsertTradeHistoryEvents stored).2) := by
  rw [TradeStore.upsertTradeHistoryEvents_table]
  refine { h with
    tradeHistoryEvents := h.tradeHistoryEvents.insertAll (keysApart_rows _ _ _ _)
      (fun _ ht => ht.mono h.rows_le) fun row hrow => ?_ }
  obtain ⟨t, ht, hmem⟩ := List.mem_flatMap.mp (hstored row hrow)
  have hfirst := h.first_le
  obtain ⟨hlog, hrelevant, hlt, hle⟩ := hbatch.pending t ht
  exact ⟨t, ⟨hlog, hrelevant, by omega, hle⟩, fun hdone => absurd hdone.2.2.2 (by omega), hmem⟩

theorem Synced.storeRows (h : Synced cfg base first watermark last watermark last w)
    (hbatch : BatchOf w.broker.log watermark last batch)
    (haccepted : ∀ t ∈ batch, normalizeTransaction cfg.journalTimezone t =
      .ok (normalizedRows cfg.journalTimezone t)) :
    Synced cfg base first watermark last last last (w.withStore
      (w.store.upsertTradeHistoryEvents (batch.flatMap (normalizedRows cfg.journalTimezone))).2) := by
  rw [TradeStore.upsertTradeHistoryEvents_table]
  have hdone : ∀ t, Between w.broker.log first last t →
      Between w.broker.log first watermark t ∨ t ∈ batch := by
    intro t ht
    by_cases hle : t.id ≤ watermark
    · exact Or.inl ⟨ht.1, ht.2.1, ht.2.2.1, hle⟩
    · exact Or.inr (hbatch.complete t ht.1 ht.2.1 (by omega) ht.2.2.2)
  refine { h with
    watermark_le_rows := h.rows_le
    rows_le := le_refl _
    tradeHistoryEvents := (h.tradeHistoryEvents.insertBlocks (keysApart_rows _ _ _ _)
      (fun _ ht => ht.mono h.rows_le) fun t ht => ?_).mono (fun _ ht => ht) hdone
    accepted := fun t ht => (hdone t ht).elim (h.accepted t) (haccepted t) }
  have hfirst := h.first_le
  obtain ⟨hlog, hrelevant, hlt, hle⟩ := hbatch.pending t ht
  exact ⟨hlog, hrelevant, by omega, hle⟩

theorem Synced.upsertSyncState {state : TradeHistorySyncState}
    (h : Synced cfg base first watermark last last last w)
    (haccount : state.accountId = cfg.oandaAccountId) (hlast : state.lastTransactionId = last) :
    Synced cfg base first last last last last
      (w.withStore (w.store.upsertTradeHistorySyncState state)) :=
  { h with
    watermark_eq := by rw [World.withStore_store, TradeStore.watermark_upsert, if_pos haccount, hlast]
    first_le := h.first_le.trans h.watermark_le_raw
    watermark_le_raw := le_refl _
    watermark_le_rows := le_refl _
    raw_le := le_refl _
    rows_le := le_refl _ }

/-! ### Syncs -/

variable {guar : World → World → Prop} {lossy : Call → Prop} {ok : Call → World → Prop}

theorem Retriable.grows (h : Retriable cfg base first w) (hgrows : w.Grows w') :
    Retriable cfg base first w' :=
  let ⟨watermark, seen, hsynced⟩ := h
  ⟨watermark, seen, hsynced.grows hgrows⟩

theorem UpToDate.retriable (h : UpToDate cfg base first w) : Retriable cfg base first w :=
  let ⟨watermark, hsynced⟩ := h
  ⟨watermark, watermark, hsynced⟩

/-- A step that keeps an account in a state from which syncs can be tried again. -/
def KeepsRetriable (cfg : Config) (base : World) (first : ℕ) (w w' : World) : Prop :=
  Retriable cfg base first w → Retriable cfg base first w'

/-- The batch of a sync: stored completely when nothing failed, and in any case so that it can be
tried again. -/
theorem rg_ingest_synced
    (hs : Synced cfg base first watermark watermark watermark last s)
    (hbatch : BatchOf s.broker.log watermark last batch) :
    (ingest cfg cfg.journalTimezone batch).Rg (World.guarded lossy ok) World.Grows
      (KeepsRetriable cfg base first)
      (After (Synced cfg base first watermark last last last) (Retriable cfg base first)) s := by
  let I : World → Prop := fun t => Synced cfg base first watermark watermark watermark last t ∧
    BatchOf t.broker.log watermark last batch
  let I₁ : World → Prop := fun t => Synced cfg base first watermark last watermark last t ∧
    BatchOf t.broker.log watermark last batch
  let I₂ : List HistoryRow → World → Prop := fun _ => Synced cfg base first watermark last last last
  have hself : ∀ t, KeepsRetriable cfg base first t t := fun _ h => h
  have hI₂ : ∀ rows t t', I₂ rows t → t.Grows t' → I₂ rows t' := fun _ _ _ ht h => ht.grows h
  have hwrite : ∀ rows t record, I₂ rows t →
      KeepsRetriable cfg base first t (t.withStore (t.store.upsertTrade record)) ∧
      I₂ rows (t.withStore (t.store.upsertTrade record)) := fun _ t record ht =>
    ⟨fun _ => (ht.upsertTrade record).retriable, ht.upsertTrade record⟩
  refine (rg_ingest (I := I) (A := I₁) (B := I₂) (E := Retriable cfg base first) World.Grows.refl
    (fun t t' ht h => ⟨ht.1.grows h, ht.2.grows h.log ht.1.newest⟩)
    (fun t t' ht h => ⟨ht.1.grows h, ht.2.grows h.log ht.1.newest⟩) hI₂ (fun _ _ ht h => ht.grows h)
    (fun _ ht => ht.1.retriable) (fun _ _ ht => ht.retriable) (fun t ht => ?_)
    (fun t stored ht hpre => ?_) (fun rows hnormal t ht _ => ?_)
    (fun rows hnormal t stored ht hpre => ?_)
    (fun rows _ ht => rg_projectTrades_of_trades World.Grows.refl (hI₂ rows) (hwrite rows) hself _ ht)
    (fun rows _ ht => rg_repair_of_trades World.Grows.refl (hI₂ rows) (hwrite rows) hself ht)
    ⟨hs, hbatch⟩).mono ?_
  · have hstored := ht.1.storeRaw ht.2
    exact ⟨fun _ => hstored.retriable, hstored, ht.2⟩
  · have hstored := ht.1.storeRawPart ht.2 fun _ hmem => hpre.subset hmem
    exact ⟨fun _ => hstored.retriable, hstored.retriable⟩
  · obtain ⟨rfl, haccepted⟩ := normalizeTransactions_ok.mp hnormal
    have hstored := ht.1.storeRows ht.2 haccepted
    exact ⟨fun _ => hstored.retriable, hstored⟩
  · obtain ⟨rfl, -⟩ := normalizeTransactions_ok.mp hnormal
    have hstored := ht.1.storeRowsPart ht.2 fun _ hmem => hpre.subset hmem
    exact ⟨fun _ => hstored.retriable, hstored.retriable⟩
  · intro r t hr
    cases r with
    | ok counts => obtain ⟨rows, -, ht⟩ := hr; exact ht
    | error e => exact hr

theorem rg_incrementalSync_retriable (hlossy : ∀ c, ¬ lossy c) (hs : Retriable cfg base first s) :
    (incrementalSync cfg).Rg (World.guarded lossy ok) World.Grows (KeepsRetriable cfg base first)
      (After (UpToDate cfg base first) (Retriable cfg base first)) s := by
  let S : TradeHistorySyncState → World → Prop := fun state t =>
    state.accountId = cfg.oandaAccountId ∧ ∃ seen, Synced cfg base first state.lastTransactionId
      state.lastTransactionId state.lastTransactionId seen t
  have hself : ∀ t, KeepsRetriable cfg base first t t := fun _ h => h
  have hS : ∀ state t t', S state t → t.Grows t' → S state t' :=
    fun _ _ _ ⟨haccount, seen, ht⟩ h => ⟨haccount, seen, ht.grows h⟩
  have hSE : ∀ state t, S state t → Retriable cfg base first t :=
    fun state t ⟨_, seen, ht⟩ => ⟨state.lastTransactionId, seen, ht⟩
  have hdone : ∀ t t', UpToDate cfg base first t → t.Grows t' → UpToDate cfg base first t' :=
    fun _ _ ⟨watermark, ht⟩ h => ⟨watermark, ht.grows h⟩
  refine rg_incrementalSync (N := fun _ => False) (S := S) hself (fun _ _ ht h => ht.grows h)
    (fun _ _ h _ => h) hS (fun _ h => h) (fun _ h => h.elim) hSE (fun t ht hanswer => ?_)
    (fun t state ht hstate => ?_) (fun _ _ h => h.elim) (fun t state nowUtc ht => ?_) hs
  · obtain ⟨watermark, seen, hsynced⟩ := ht
    rcases hanswer with hanswer | ⟨h, -⟩
    · have hnone : t.store.getTradeHistorySyncState cfg.oandaAccountId = none :=
        Except.ok.inj hanswer
      have hwatermark := hsynced.watermark_eq
      rw [TradeStore.watermark, hnone] at hwatermark
      cases hwatermark
    · exact hlossy _ h
  · obtain ⟨watermark, seen, hsynced⟩ := ht
    have hwatermark := hsynced.watermark_eq
    rw [TradeStore.watermark, hstate] at hwatermark
    obtain rfl := Option.some.inj hwatermark
    exact ⟨(Table.find_some hstate).2, seen, hsynced⟩
  · refine rg_continueSync (J := fun last =>
      fun t => state.accountId = cfg.oandaAccountId ∧
        Synced cfg base first state.lastTransactionId last last last t)
      World.Grows.refl hself (hS state) hdone
      (fun _ _ _ ht h => ⟨ht.1, ht.2.grows h⟩) (hSE state) (fun _ _ ht => ht.2.retriable)
      (fun t₁ last ht₁ hlast => ?_) (fun t₁ last next ht₁ hnext => ?_) ht
    · obtain ⟨haccount, seen, hsynced⟩ := ht₁
      refine (rg_ingest_synced (hsynced.fetched hlast) (batchOf_since hlast)).mono fun r _ hr => ?_
      cases r with
      | ok counts => exact ⟨haccount, hr⟩
      | error e => exact hr
    · obtain ⟨hid, hlast⟩ := syncState_ok hnext
      have hmoved := ht₁.2.upsertSyncState (hid.trans ht₁.1) hlast
      exact ⟨fun _ => hmoved.retriable, last, hmoved⟩

theorem rg_runSyncs (hlossy : ∀ c, ¬ lossy c) (n : ℕ) (hs : Retriable cfg base first s) :
    (runSyncs cfg n).Rg (World.guarded lossy ok) World.Grows (KeepsRetriable cfg base first)
      (After (Retriable cfg base first) (Retriable cfg base first)) s :=
  rg_each_after World.Grows.refl (fun _ _ ht h => ht.grows h) (fun _ _ _ ht =>
    rg_attempt ((rg_incrementalSync_retriable hlossy ht).mono fun r _ hr => by
      cases r with
      | ok report => exact UpToDate.retriable hr
      | error e => exact hr)) hs

theorem rg_syncsThenOne (hlossy : ∀ c, ¬ lossy c) (n : ℕ) (hs : Retriable cfg base first s) :
    (syncsThenOne cfg n).Rg (World.guarded lossy ok) World.Grows (KeepsRetriable cfg base first)
      (After (UpToDate cfg base first) (Retriable cfg base first)) s :=
  rg_bind_after World.Grows.refl (rg_runSyncs hlossy n hs)
    (fun _ _ ht => rg_incrementalSync_retriable hlossy ht) fun _ _ h => h

/-! ### What is stored -/

/-- Up to the watermark everything is stored exactly. -/
theorem Synced.holdsExactly (h : Synced cfg base first watermark raw rows seen w)
    (ht : Between w.broker.log first watermark t) :
    w.store.HoldsExactly cfg.journalTimezone t := by
  have hraw := h.rawTransactions.inside t (ht.mono h.watermark_le_raw) t (List.mem_singleton_self t)
  refine ⟨hraw.trans ?_, h.accepted t (ht.mono h.watermark_le_rows),
    h.tradeHistoryEvents.inside t (ht.mono h.watermark_le_rows)⟩
  simp [DocTable.last, DocTable.get_cons]

/-- Two accounts that are up to date at one watermark of one log have the same tables. -/
theorem UpToDate.sameTables (h : UpToDate cfg base first w) (h' : UpToDate cfg base first w')
    (hwatermark : w.store.watermark cfg.oandaAccountId = w'.store.watermark cfg.oandaAccountId)
    (hlog : w.broker.log.Grows w'.broker.log ∨ w'.broker.log.Grows w.broker.log) :
    SameTables w.store w'.store := by
  obtain ⟨watermark, hw⟩ := h
  obtain ⟨watermark', hw'⟩ := h'
  rw [hw.watermark_eq, hw'.watermark_eq] at hwatermark
  obtain rfl := Option.some.inj hwatermark
  have hsame : ∀ t, Between w.broker.log first watermark t ↔
      Between w'.broker.log first watermark t := by
    intro t
    rcases hlog with hlog | hlog
    · exact ⟨fun ht => ht.grows hlog, fun ht => ht.of_grows hlog hw.newest⟩
    · exact ⟨fun ht => ht.of_grows hlog hw'.newest, fun ht => ht.grows hlog⟩
  exact ⟨hw.rawTransactions.find_eq hw'.rawTransactions hsame,
    hw.tradeHistoryEvents.find_eq hw'.tradeHistoryEvents hsame⟩

/-- The store after one batch of what is newer than `first` and at most `last`. -/
def afterOneBatch (cfg : Config) (base : World) (log : TransactionLog) (first last : ℕ) :
    TradeStore :=
  let batch := (log.since first tradeHistoryTypeFilter).filter (fun t => decide (t.id ≤ last))
  { base.store with
    rawTransactions := base.store.rawTransactions.insertAll batch
    tradeHistoryEvents := base.store.tradeHistoryEvents.insertAll
      (batch.flatMap (normalizedRows cfg.journalTimezone)) }

/-- An account that is up to date has the tables one uninterrupted batch leaves. -/
theorem Synced.afterOneBatch
    (h : Synced cfg base first watermark watermark watermark watermark w) :
    SameTables w.store (afterOneBatch cfg base w.broker.log first watermark) := by
  have hmem : ∀ t, t ∈ (w.broker.log.since first tradeHistoryTypeFilter).filter
      (fun t => decide (t.id ≤ watermark)) ↔ Between w.broker.log first watermark t := by
    intro t
    rw [List.mem_filter, TransactionLog.mem_since, decide_eq_true_eq]
    exact ⟨fun ⟨⟨hlog, hlt, hrelevant⟩, hle⟩ => ⟨hlog, hrelevant, hlt, hle⟩,
      fun ⟨hlog, hrelevant, hlt, hle⟩ => ⟨⟨hlog, hlt, hrelevant⟩, hle⟩⟩
  have hraw := (Table.Replayed.start base.store.rawTransactions fun t => [t]).insertBlocks
    (keysApart_raw w.broker.log first watermark) (fun _ h => h.elim) fun t ht => (hmem t).mp ht
  have hrows := (Table.Replayed.start base.store.tradeHistoryEvents
    (normalizedRows cfg.journalTimezone)).insertBlocks
    (keysApart_rows w.broker.log first watermark _) (fun _ h => h.elim) fun t ht => (hmem t).mp ht
  rw [List.flatMap_singleton'] at hraw
  refine ⟨h.rawTransactions.find_eq (hraw.mono (fun t ht => ht) fun t ht => ?_) fun _ => Iff.rfl,
    h.tradeHistoryEvents.find_eq (hrows.mono (fun t ht => ht) fun t ht => ?_) fun _ => Iff.rfl⟩
  · exact Or.inr ((hmem t).mpr ht)
  · exact Or.inr ((hmem t).mpr ht)

end

/-- **Syncs have an exactly-once effect.**  From an account whose watermark `first` is at most an id
of the log: in every state reached, no event id is stored twice and everything above `first` up to
the watermark is stored; and a sync that returns, after any number of failed ones, leaves the tables
of one uninterrupted batch, and of every run in which nothing failed. -/
theorem syncs_exactly_once (cfg : Config) (w : World) (first : ℕ)
    (hfirst : w.store.watermark cfg.oandaAccountId = some first)
    (hnewest : ∃ v ∈ w.broker.log.transactions, first ≤ v.id) :
    (∀ n tr w', (runSyncs cfg n).Reaches (World.faulty fun _ => False) World.Grows w tr w' →
      (w'.store.tradeHistoryEvents.docs.map HistoryRow.eventId).Nodup ∧
      ∃ watermark, w'.store.watermark cfg.oandaAccountId = some watermark ∧
        ∀ t, Between w'.broker.log first watermark t →
          w'.store.HoldsExactly cfg.journalTimezone t) ∧
    ∀ n w₁ report, (syncsThenOne cfg n).Ends (World.faulty fun _ => False) World.Grows w
        (.ok report) w₁ →
      (∃ watermark, w₁.store.watermark cfg.oandaAccountId = some watermark ∧
        SameTables w₁.store (afterOneBatch cfg w w₁.broker.log first watermark)) ∧
      ∀ m w₂ report₂, (syncsThenOne cfg m).Ends (Host.ofFun World.answer) World.Grows w
          (.ok report₂) w₂ →
        w₁.store.watermark cfg.oandaAccountId = w₂.store.watermark cfg.oandaAccountId →
        w₁.broker.log.Grows w₂.broker.log ∨ w₂.broker.log.Grows w₁.broker.log →
          SameTables w₁.store w₂.store := by
  have hstart : Retriable cfg w first w := ⟨first, first, .start hfirst hnewest⟩
  have hhost : ∀ c s₁ r s₂, (World.faulty fun _ => False).step c s₁ r s₂ →
      (World.guarded (fun _ => False) fun _ _ => True).step c s₁ r s₂ :=
    fun _ _ _ _ h => ⟨trivial, h⟩
  have hdone : ∀ {n w₁ report}, (syncsThenOne cfg n).Ends (World.faulty fun _ => False) World.Grows
      w (.ok report) w₁ → UpToDate cfg w first w₁ := fun {n w₁ report} hends =>
    (hends.of_host hhost).post World.Grows.refl (fun _ _ _ => World.Grows.trans) (fun _ _ h => h)
      (rg_syncsThenOne (fun _ h => h) n hstart)
  refine ⟨fun n tr w' hreach => ⟨w'.store.tradeHistoryEvents.nodup, ?_⟩,
    fun n w₁ report hends => ⟨?_, fun m w₂ report₂ hends₂ hsame hlog => ?_⟩⟩
  · have hrg := (rg_runSyncs (fun _ h => h) n hstart).conseq hhost
      (fun _ _ h => h) (fun _ _ h => h)
    obtain ⟨watermark, seen, hsynced⟩ := hreach.invariant World.Grows.refl
      (fun _ _ _ => World.Grows.trans) (fun _ _ h => h) hrg hstart (fun _ _ h hI => hI.grows h)
      (fun _ _ h hI => h hI)
    exact ⟨watermark, hsynced.watermark_eq, fun t ht => hsynced.holdsExactly ht⟩
  · obtain ⟨watermark, hsynced⟩ := hdone hends
    exact ⟨watermark, hsynced.watermark_eq, hsynced.afterOneBatch⟩
  · exact (hdone hends).sameTables
      (hdone (hends₂.of_host fun c s₁ r s₂ hstep => Or.inl hstep)) hsame hlog

/-! ### The first sync -/

/-- The reliable world, but for writes of the watermark. -/
def watermarkWriteFails : (c : Call) → World → Except Exn (Ans c) × World
  | .upsertTradeHistorySyncState _, w => (.error (.persistenceWriteError "watermark"), w)
  | c, w => World.answer c w

theorem faulty_of_watermarkWriteFails (c : Call) (w : World) :
    (World.faulty fun _ => False).step c w (watermarkWriteFails c w).1
      (watermarkWriteFails c w).2 := by
  cases c with
  | upsertTradeHistorySyncState state => exact Or.inr (Or.inl ⟨rfl, ⟨_, rfl⟩, rfl⟩)
  | _ => exact Or.inl rfl

/-- The same world when the second trade has been opened. -/
def withTwoFills (w : World) : World := { w with broker := { w.broker with log := twoFills } }

theorem withTwoFills_grows {w : World} (h : w.broker.log = oneFill) :
    w.Grows (withTwoFills w) :=
  ⟨rfl, rfl, rfl, h ▸ ⟨[openingFill 2 1 "2" 100], rfl⟩⟩

/-- A first sync whose watermark write failed, and one that did not, each followed by a sync after
the second trade was opened. -/
def afterFailedFirst : World :=
  ((incrementalSync sampleConfig).eval World.answer (withTwoFills
    ((runSyncs sampleConfig 1).eval watermarkWriteFails (sampleWorld oneFill)).2)).2

def afterFirst : World :=
  ((incrementalSync sampleConfig).eval World.answer (withTwoFills
    ((runSyncs sampleConfig 1).eval World.answer (sampleWorld oneFill)).2)).2

/-- From an account without a watermark the log as a whole is not stored: the first watermark passes what
was there before, and a first sync that fails delays it. -/
theorem syncs_first_watermark_late :
    (¬ ∀ tr w', (runSyncs sampleConfig 1).Reaches (World.faulty fun _ => False) World.Grows
        (sampleWorld oneFill) tr w' →
      ∀ watermark, w'.store.watermark "001" = some watermark →
        ∀ t ∈ w'.broker.log.transactions, t.relevant = true → t.id ≤ watermark →
          w'.store.HoldsExactly "UTC" t) ∧
    ¬ ∀ w₁ report w₂ report₂, (syncsThenOne sampleConfig 1).Ends (World.faulty fun _ => False)
        World.Grows (sampleWorld oneFill) (.ok report) w₁ →
      (syncsThenOne sampleConfig 1).Ends (Host.ofFun World.answer) World.Grows
        (sampleWorld oneFill) (.ok report₂) w₂ →
      w₁.store.watermark "001" = w₂.store.watermark "001" → w₁.broker.log = w₂.broker.log →
        SameTables w₁.store w₂.store := by
  constructor
  · intro h
    have hreach := h _ _ (Program.reaches_trace (World.faulty_of_answer _) _ _) 1 (by decide +kernel)
      (openingFill 1 0 "1" 100) (by decide +kernel) (by decide) (by decide)
    exact absurd hreach.1 (by decide +kernel)
  · intro h
    obtain ⟨results, hfailed⟩ := Program.ends_of_isOk World.Grows
      (p := runSyncs sampleConfig 1) (s := sampleWorld oneFill) faulty_of_watermarkWriteFails
      (by decide +kernel)
    obtain ⟨report, hreport⟩ := Program.ends_of_isOk World.Grows
      (p := incrementalSync sampleConfig)
      (s := withTwoFills ((runSyncs sampleConfig 1).eval watermarkWriteFails
        (sampleWorld oneFill)).2) (World.faulty_of_answer fun _ => False) (by decide +kernel)
    obtain ⟨results₂, hfirst⟩ := Program.ends_of_isOk World.Grows
      (H := Host.ofFun World.answer) (h := World.answer)
      (p := runSyncs sampleConfig 1) (s := sampleWorld oneFill) (fun _ _ => rfl) (by decide +kernel)
    obtain ⟨report₂, hreport₂⟩ := Program.ends_of_isOk World.Grows
      (H := Host.ofFun World.answer) (h := World.answer) (p := incrementalSync sampleConfig)
      (s := withTwoFills ((runSyncs sampleConfig 1).eval World.answer (sampleWorld oneFill)).2)
      (fun _ _ => rfl) (by decide +kernel)
    have hsame := h afterFailedFirst report afterFirst report₂
      (hfailed.bind (.env (withTwoFills_grows (by decide +kernel)) hreport))
      (hfirst.bind (.env (withTwoFills_grows (by decide +kernel)) hreport₂))
      (by decide +kernel) (by decide +kernel)
    exact absurd (hsame.1 2) (by decide +kernel)

/-- A sync whose watermark write failed, and a second one: the tables of one batch. -/
theorem syncs_exactly_once_twoFills :
    ∃ w₁ report, (syncsThenOne sampleConfig 1).Ends (World.faulty fun _ => False) World.Grows
        (watermarkedWorld twoFills 1) (.ok report) w₁ ∧
      ∃ watermark, w₁.store.watermark "001" = some watermark ∧
        SameTables w₁.store (afterOneBatch sampleConfig (watermarkedWorld twoFills 1)
          w₁.broker.log 1 watermark) := by
  obtain ⟨results, hfailed⟩ := Program.ends_of_isOk World.Grows
    (p := runSyncs sampleConfig 1) (s := watermarkedWorld twoFills 1) faulty_of_watermarkWriteFails
    (by decide +kernel)
  obtain ⟨report, hreport⟩ := Program.ends_of_isOk World.Grows
    (p := incrementalSync sampleConfig)
    (s := ((runSyncs sampleConfig 1).eval watermarkWriteFails (watermarkedWorld twoFills 1)).2)
    (World.faulty_of_answer fun _ => False) (by decide +kernel)
  have hends := hfailed.bind (f := fun _ => incrementalSync sampleConfig) hreport
  exact ⟨_, report, hends, ((syncs_exactly_once sampleConfig (watermarkedWorld twoFills 1) 1
    (by decide +kernel) ⟨openingFill 1 0 "1" 100, by decide +kernel, by decide⟩).2 1 _ report
    hends).1⟩

end OandaV3
