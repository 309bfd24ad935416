import OandaV3.HistoryRules

/-! # Stored transactions

`TradeStore.Holds`: a transaction is stored raw, and its rows are stored.  Batches of one log never
take a stored transaction away (`Holds.storeRaw`, `Holds.storeRows`), so holding survives every step
of an ingestion (`World.Later`), and an ingested batch is held (`rg_ingest_holds`). -/

namespace OandaV3

open Interaction Program

/-- The transaction is accepted by the normalizer, and under the key of each of its rows a row of
it is stored. -/
def TradeStore.HoldsRows (store : TradeStore) (t : Transaction) : Prop :=
  ∃ zone, normalizeTransaction zone t = .ok (normalizedRows zone t) ∧
    ∀ row ∈ normalizedRows zone t, ∃ zone', ∃ row' ∈ normalizedRows zone' t,
      store.tradeHistoryEvents.find row.eventId = some row'

/-- The transaction is stored, raw and normalized. -/
def TradeStore.Holds (store : TradeStore) (t : Transaction) : Prop :=
  store.rawTransactions.find t.id = some t ∧ store.HoldsRows t

section

variable {log : TransactionLog} {store store' : TradeStore} {t : Transaction}
  {transactions : List Transaction} {rows : List HistoryRow} {zone : String}

/-- Raw transactions of the same log do not displace one another. -/
theorem find_storeRaw (hlog : ∀ u ∈ transactions, u ∈ log.transactions)
    (ht : t ∈ log.transactions) (h : t ∈ transactions ∨ store.rawTransactions.find t.id = some t) :
    (store.upsertRawTransactions transactions).2.rawTransactions.find t.id = some t := by
  rw [TradeStore.upsertRawTransactions_table]
  simp only [Table.find_insertAll]
  cases hlast : DocTable.last Transaction.id t.id transactions with
  | none =>
      rw [DocTable.last_eq_none] at hlast
      exact h.resolve_left fun hmem => hlast t hmem rfl
  | some u =>
      obtain ⟨hmem, hid⟩ := DocTable.last_some hlast
      rw [Option.some_or, TransactionLog.eq_of_id_eq (hlog u hmem) ht hid]

/-- Rows of the same log do not displace the rows of another transaction. -/
theorem find_storeRows {eventId : String} {row' : HistoryRow} {zone' : String}
    (hlog : ∀ row ∈ rows, ∃ u ∈ log.transactions, ∃ zone, row ∈ normalizedRows zone u)
    (ht : t ∈ log.transactions) (hrow' : row' ∈ normalizedRows zone' t) (hid : row'.eventId = eventId)
    (h : (∃ row ∈ rows, row.eventId = eventId) ∨
      ∃ zone, ∃ row ∈ normalizedRows zone t, store.tradeHistoryEvents.find eventId = some row) :
    ∃ zone, ∃ row ∈ normalizedRows zone t,
      (store.upsertTradeHistoryEvents rows).2.tradeHistoryEvents.find eventId = some row := by
  rw [TradeStore.upsertTradeHistoryEvents_table]
  simp only [Table.find_insertAll]
  cases hlast : DocTable.last HistoryRow.eventId eventId rows with
  | none =>
      rw [DocTable.last_eq_none] at hlast
      refine h.resolve_left ?_
      rintro ⟨row, hrow, hkey⟩
      exact hlast row hrow hkey
  | some row =>
      obtain ⟨hmem, hkey⟩ := DocTable.last_some hlast
      obtain ⟨u, hu, zone, hrow⟩ := hlog row hmem
      have hsame : u.id = t.id := id_eq_of_eventId_eq hrow hrow' (hkey.trans hid.symm)
      obtain rfl := TransactionLog.eq_of_id_eq hu ht hsame
      exact ⟨zone, row, hrow, rfl⟩

theorem TradeStore.HoldsRows.of_eq (h : store.HoldsRows t)
    (heq : store'.tradeHistoryEvents = store.tradeHistoryEvents) : store'.HoldsRows t := by
  obtain ⟨zone, haccepted, hrows⟩ := h
  exact ⟨zone, haccepted, by rw [heq]; exact hrows⟩

theorem TradeStore.Holds.storeRaw (h : store.Holds t) (ht : t ∈ log.transactions)
    (hlog : ∀ u ∈ transactions, u ∈ log.transactions) :
    (store.upsertRawTransactions transactions).2.Holds t :=
  ⟨find_storeRaw hlog ht (Or.inr h.1),
    h.2.of_eq (by rw [TradeStore.upsertRawTransactions_table])⟩

theorem TradeStore.Holds.storeRows (h : store.Holds t) (ht : t ∈ log.transactions)
    (hlog : ∀ row ∈ rows, ∃ u ∈ log.transactions, ∃ zone, row ∈ normalizedRows zone u) :
    (store.upsertTradeHistoryEvents rows).2.Holds t := by
  obtain ⟨hraw, zone, haccepted, hrows⟩ := h
  refine ⟨by rw [TradeStore.upsertTradeHistoryEvents_table]; exact hraw, zone, haccepted,
    fun row hrow => ?_⟩
  exact find_storeRows hlog ht hrow rfl (Or.inr (hrows row hrow))

/-- Storing all rows of an accepted transaction makes it held. -/
theorem TradeStore.HoldsRows.of_storeRows (ht : t ∈ log.transactions)
    (hlog : ∀ row ∈ rows, ∃ u ∈ log.transactions, ∃ zone, row ∈ normalizedRows zone u)
    (haccepted : normalizeTransaction zone t = .ok (normalizedRows zone t))
    (hrows : ∀ row ∈ normalizedRows zone t, row ∈ rows) :
    (store.upsertTradeHistoryEvents rows).2.HoldsRows t :=
  ⟨zone, haccepted, fun row hrow =>
    find_storeRows hlog ht hrow rfl (Or.inl ⟨row, hrows row hrow, rfl⟩)⟩

end

/-! ### Steps of an ingestion -/

/-- What the environment and an ingestion have in common: the watermarks stay, the log grows, and
what is held stays held. -/
structure World.Later (w w' : World) : Prop where
  tradeHistorySync : w'.store.tradeHistorySync = w.store.tradeHistorySync
  accountId : w'.broker.accountId = w.broker.accountId
  log : w.broker.log.Grows w'.broker.log
  holds : ∀ t ∈ w.broker.log.transactions, w.store.Holds t → w'.store.Holds t

section

variable {cfg : Config} {lossy : Call → Prop} {ok : Call → World → Prop} {zone : String}
  {transactions : List Transaction} {guar : World → World → Prop} {s w w' : World}

theorem World.Later.refl (w : World) : w.Later w := ⟨rfl, rfl, .refl _, fun _ _ h => h⟩

theorem World.Later.trans {a b c : World} (h : a.Later b) (h' : b.Later c) : a.Later c :=
  ⟨h'.tradeHistorySync.trans h.tradeHistorySync, h'.accountId.trans h.accountId, h.log.trans h'.log,
    fun t ht hholds => h'.holds t (h.log.mem ht) (h.holds t ht hholds)⟩

theorem World.Grows.later (h : w.Grows w') : w.Later w' :=
  ⟨by rw [h.store], h.accountId, h.log, fun _ _ hholds => h.store ▸ hholds⟩

theorem World.Later.storeRaw (hlog : ∀ u ∈ transactions, u ∈ w.broker.log.transactions) :
    w.Later (w.withStore (w.store.upsertRawTransactions transactions).2) :=
  ⟨by rw [TradeStore.upsertRawTransactions_table]; rfl, rfl, .refl _,
    fun _ ht h => h.storeRaw ht hlog⟩

theorem World.Later.storeRows {rows : List HistoryRow}
    (hlog : ∀ row ∈ rows, ∃ u ∈ w.broker.log.transactions, ∃ zone, row ∈ normalizedRows zone u) :
    w.Later (w.withStore (w.store.upsertTradeHistoryEvents rows).2) :=
  ⟨by rw [TradeStore.upsertTradeHistoryEvents_table]; rfl, rfl, .refl _,
    fun _ ht h => h.storeRows ht hlog⟩

theorem World.Later.upsertTrade (w : World) (record : TradeRecord) :
    w.Later (w.withStore (w.store.upsertTrade record)) :=
  ⟨rfl, rfl, .refl _, fun _ _ h => h⟩

theorem rows_of_log {rows : List HistoryRow}
    (hrows : normalizeTransactions zone transactions = .ok rows)
    (hlog : ∀ u ∈ transactions, u ∈ w.broker.log.transactions) :
    ∀ row ∈ rows, ∃ u ∈ w.broker.log.transactions, ∃ zone, row ∈ normalizedRows zone u := by
  obtain ⟨rfl, -⟩ := normalizeTransactions_ok.mp hrows
  intro row hrow
  obtain ⟨u, hu, hmem⟩ := List.mem_flatMap.mp hrow
  exact ⟨u, hlog u hu, zone, hmem⟩

/-- An ingested batch of the log is held, whatever fails on the way. -/
theorem rg_ingest_holds (hguar : ∀ t t', World.Later t t' → guar t t')
    (hlog : ∀ u ∈ transactions, u ∈ s.broker.log.transactions) :
    (ingest cfg zone transactions).Rg (World.guarded lossy ok) World.Grows guar
      (After (fun t => s.Later t ∧ ∀ u ∈ transactions, t.store.Holds u) s.Later) s := by
  have hbatch : ∀ t, s.Later t → ∀ u ∈ transactions, u ∈ t.broker.log.transactions :=
    fun t ht u hu => ht.log.mem (hlog u hu)
  have hraw : ∀ t stored, s.Later t → (∀ u ∈ stored, u ∈ transactions) →
      t.Later (t.withStore (t.store.upsertRawTransactions stored).2) :=
    fun t stored ht hsub => .storeRaw fun u hu => hbatch t ht u (hsub u hu)
  have hrows : ∀ rows, normalizeTransactions zone transactions = .ok rows → ∀ t stored, s.Later t →
      (∀ row ∈ stored, row ∈ rows) →
      t.Later (t.withStore (t.store.upsertTradeHistoryEvents stored).2) :=
    fun rows hnormal t stored ht hsub => .storeRows fun row hrow =>
      rows_of_log hnormal (hbatch t ht) row (hsub row hrow)
  have hstable : ∀ t t' : World, s.Later t → t.Grows t' → s.Later t' :=
    fun t t' ht hgrows => ht.trans hgrows.later
  let I₁ : World → Prop := fun t => s.Later t ∧
    ∀ u ∈ transactions, t.store.rawTransactions.find u.id = some u
  let I₂ : List HistoryRow → World → Prop := fun _ t => s.Later t ∧
    ∀ u ∈ transactions, t.store.Holds u
  have hI₁ : ∀ t t', I₁ t → t.Grows t' → I₁ t' := fun t t' ht hgrows =>
    ⟨hstable t t' ht.1 hgrows, hgrows.store ▸ ht.2⟩
  have hI₂ : ∀ rows t t', I₂ rows t → t.Grows t' → I₂ rows t' := fun rows t t' ht hgrows =>
    ⟨hstable t t' ht.1 hgrows, hgrows.store ▸ ht.2⟩
  have hwrite : ∀ rows t record, I₂ rows t → guar t (t.withStore (t.store.upsertTrade record)) ∧
      I₂ rows (t.withStore (t.store.upsertTrade record)) := fun rows t record ht =>
    ⟨hguar _ _ (.upsertTrade t record), ht.1.trans (.upsertTrade t record), ht.2⟩
  have hself : ∀ t, guar t t := fun t => hguar t t (.refl t)
  refine (rg_ingest (I := s.Later) (A := I₁) (B := I₂) (E := s.Later) World.Grows.refl hstable
    hI₁ hI₂ hstable (fun t ht => ht.1) (fun rows t ht => ht.1) (fun t ht => ?_)
    (fun t stored ht hpre => ?_) (fun rows hnormal t ht _ => ?_)
    (fun rows hnormal t stored ht hpre => ?_)
    (fun rows t ht => rg_projectTrades_of_trades World.Grows.refl (hI₂ rows) (hwrite rows) hself _ ht)
    (fun rows t ht => rg_repair_of_trades World.Grows.refl (hI₂ rows) (hwrite rows) hself ht)
    (.refl s)).mono ?_
  · have hlater := hraw t transactions ht fun _ hu => hu
    exact ⟨hguar _ _ hlater, ht.trans hlater, fun u hu =>
      find_storeRaw (hbatch t ht) (hbatch t ht u hu) (Or.inl hu)⟩
  · have hlater := hraw t stored ht fun _ hu => hpre.subset hu
    exact ⟨hguar _ _ hlater, ht.trans hlater⟩
  · have hlater := hrows rows hnormal t rows ht.1 fun _ hrow => hrow
    refine ⟨hguar _ _ hlater, ht.1.trans hlater, fun u hu => ⟨?_, ?_⟩⟩
    · rw [World.withStore_store, TradeStore.upsertTradeHistoryEvents_table]
      exact ht.2 u hu
    · have hlogRows := rows_of_log hnormal (hbatch t ht.1)
      obtain ⟨rfl, haccepted⟩ := normalizeTransactions_ok.mp hnormal
      exact .of_storeRows (hbatch t ht.1 u hu) hlogRows (haccepted u hu) fun row hrow =>
        List.mem_flatMap.mpr ⟨u, hu, hrow⟩
  · have hlater := hrows rows hnormal t stored ht.1 fun _ hrow => hpre.subset hrow
    exact ⟨hguar _ _ hlater, ht.1.trans hlater⟩
  · intro r t hr
    cases r with
    | ok counts => obtain ⟨rows, -, ht⟩ := hr; exact ht
    | error e => exact hr

/-! ### Steps of a sync -/

/-- Every relevant transaction newer than `after`, up to `last`, is held; `last` is at most an id of
the log, so that what is appended is newer. -/
def HeldUpTo (after last : ℕ) (w : World) : Prop :=
  (∃ v ∈ w.broker.log.transactions, last ≤ v.id) ∧
    ∀ t ∈ w.broker.log.transactions, t.relevant = true → after < t.id → t.id ≤ last →
      w.store.Holds t

theorem HeldUpTo.of_log {after last : ℕ} (h : HeldUpTo after last w)
    (hlog : w.broker.log.Grows w'.broker.log)
    (hholds : ∀ t ∈ w.broker.log.transactions, w.store.Holds t → w'.store.Holds t) :
    HeldUpTo after last w' := by
  obtain ⟨⟨v, hv, hlast⟩, hheld⟩ := h
  refine ⟨⟨v, hlog.mem hv, hlast⟩, fun u hu hrelevant hlt hle => ?_⟩
  rcases hlog.mem_or_newer hu with hu | hnewer
  · exact hholds u hu (hheld u hu hrelevant hlt hle)
  · exact absurd (hnewer v hv) (by omega)

theorem HeldUpTo.later {after last : ℕ} (h : HeldUpTo after last w) (hlater : w.Later w') :
    HeldUpTo after last w' := h.of_log hlater.log hlater.holds

theorem HeldUpTo.trans {first mid last : ℕ} (h : mid ≤ first ∨ HeldUpTo first mid w)
    (h' : HeldUpTo mid last w) : HeldUpTo first last w := by
  refine ⟨h'.1, fun t ht hrelevant hlt hle => ?_⟩
  by_cases hmid : mid < t.id
  · exact h'.2 t ht hrelevant hmid hle
  · rcases h with h | h
    · omega
    · exact h.2 t ht hrelevant hlt (by omega)

/-- A step that keeps what is held, keeps a watermark, and moves it over held transactions only. -/
structure SafeStep (accountId : String) (w w' : World) : Prop where
  log : w.broker.log.Grows w'.broker.log
  holds : ∀ t ∈ w.broker.log.transactions, w.store.Holds t → w'.store.Holds t
  advances : ∀ before, w.store.watermark accountId = some before →
    ∃ after, w'.store.watermark accountId = some after ∧
      (before < after → HeldUpTo before after w)

variable {accountId : String}

theorem World.Later.watermark (h : w.Later w') (accountId : String) :
    w'.store.watermark accountId = w.store.watermark accountId :=
  TradeStore.watermark_of_eq h.tradeHistorySync accountId

theorem World.Later.safe (h : w.Later w') : SafeStep accountId w w' :=
  ⟨h.log, h.holds, fun before hbefore =>
    ⟨before, (h.watermark accountId).trans hbefore, fun hlt => absurd hlt (lt_irrefl _)⟩⟩

theorem SafeStep.upsertSyncState {state : TradeHistorySyncState}
    (h : ∀ before, w.store.watermark state.accountId = some before →
      before < state.lastTransactionId → HeldUpTo before state.lastTransactionId w) :
    SafeStep state.accountId w (w.withStore (w.store.upsertTradeHistorySyncState state)) :=
  ⟨.refl _, fun _ _ hholds => hholds, fun before hbefore => ⟨state.lastTransactionId,
    by rw [World.withStore_store, TradeStore.watermark_upsert, if_pos rfl], h before hbefore⟩⟩

theorem SafeStep.upsertSyncState_ne {state : TradeHistorySyncState}
    (h : state.accountId ≠ accountId) :
    SafeStep accountId w (w.withStore (w.store.upsertTradeHistorySyncState state)) :=
  ⟨.refl _, fun _ _ hholds => hholds, fun before hbefore => ⟨before,
    by rw [World.withStore_store, TradeStore.watermark_upsert, if_neg h, hbefore],
    fun hlt => absurd hlt (lt_irrefl _)⟩⟩

/-- A sync that read the watermark moves it over stored transactions only. -/
theorem rg_continueSync_safe {state : TradeHistorySyncState} {nowUtc : Instant}
    (hwatermark : s.store.watermark state.accountId = some state.lastTransactionId) :
    (continueSync cfg state nowUtc).Rg (World.guarded lossy ok) World.Grows
      (SafeStep state.accountId) (fun _ _ => True) s := by
  let K : World → Prop := fun t => t.store.watermark state.accountId = some state.lastTransactionId
  let J : ℕ → World → Prop := fun last t => K t ∧ HeldUpTo state.lastTransactionId last t
  have hK : ∀ t t', K t → t.Later t' → K t' := fun t t' ht hlater =>
    (hlater.watermark state.accountId).trans ht
  refine Rg.mono (rg_continueSync (K := K) (J := J) (D := fun _ => True) World.Grows.refl
    (fun t => (World.Later.refl t).safe) (fun t t' ht hgrows => hK t t' ht hgrows.later)
    (fun _ _ _ _ => trivial) (fun last t t' ht hgrows => ?_) (fun t ht => ht)
    (fun last t ht => ht.1) (fun t last ht hlast => ?_) (fun t last next ht hnext => ?_)
    hwatermark) fun _ _ _ => trivial
  · exact ⟨hK t t' ht.1 hgrows.later, ht.2.later hgrows.later⟩
  · refine (rg_ingest_holds (fun _ _ => World.Later.safe)
      fun u hu => (TransactionLog.mem_since.mp hu).1).mono fun r t' hr => ?_
    cases r with
    | error e => exact hK t t' ht hr
    | ok counts =>
        obtain ⟨hlater, hheld⟩ := hr
        obtain ⟨v, hv, rfl⟩ := Option.map_eq_some_iff.mp hlast
        refine ⟨hK t t' ht hlater, ⟨v, hlater.log.mem (List.mem_of_getLast? hv), le_refl _⟩,
          fun u hu hrelevant hlt hle => ?_⟩
        rcases hlater.log.mem_or_newer hu with hu | hnewer
        · exact hheld u (TransactionLog.mem_since.mpr ⟨hu, hlt, hrelevant⟩)
        · exact absurd (hnewer v (List.mem_of_getLast? hv)) (by omega)
  · obtain ⟨hid, hnext'⟩ := syncState_ok hnext
    refine ⟨hid ▸ .upsertSyncState fun before hbefore _ => ?_, trivial⟩
    rw [hid] at hbefore
    obtain rfl := Option.some.inj (ht.1.symm.trans hbefore)
    exact hnext' ▸ ht.2

end

end OandaV3
