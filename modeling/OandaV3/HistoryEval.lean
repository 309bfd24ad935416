import OandaV3.Projection

/-! # The history service on a reliable world

What the programs of the history service do to a world whose store does not fail, when they
return.

* `projectTradeRecord_ok`, `projectTrades_ok`: projecting a trade changes the record of that trade
  and nothing else; `journalRecord` is the record it ends with.
* `repair_settled`: where every record already is the projection of its trade, the repair of manual
  closes changes nothing.
* `ingest_ok`, `ingest_returns`: what an ingested batch did, and when a batch is ingested. -/

namespace OandaV3

open Interaction Program

variable {cfg : Config} {w w' : World}

/-- The record a trade has after a projection that does not raise. -/
def journalRecord (cfg : Config) (tradeId : String) (events : List TradeHistoryEvent)
    (existing : Option TradeRecord) : Option TradeRecord :=
  if events.isEmpty then existing
  else match projection cfg tradeId events existing with
    | .ok (some record) => some record
    | _ => existing

/-- The projection of a trade does not raise. -/
def Projects (cfg : Config) (tradeId : String) (events : List TradeHistoryEvent)
    (existing : Option TradeRecord) : Prop :=
  events ≠ [] → ∃ result, projection cfg tradeId events existing = .ok result

theorem journalRecord_nil (tradeId : String) (existing : Option TradeRecord) :
    journalRecord cfg tradeId [] existing = existing := rfl

theorem journalRecord_of_some {tradeId : String} {events : List TradeHistoryEvent}
    {existing : Option TradeRecord} {record : TradeRecord} (hne : events ≠ [])
    (h : projection cfg tradeId events existing = .ok (some record)) :
    journalRecord cfg tradeId events existing = some record := by
  rw [journalRecord, h, if_neg (by simpa using hne)]

theorem journalRecord_of_none {tradeId : String} {events : List TradeHistoryEvent}
    {existing : Option TradeRecord} (h : projection cfg tradeId events existing = .ok none) :
    journalRecord cfg tradeId events existing = existing := by
  rw [journalRecord, h]
  split_ifs <;> rfl

/-- A projection that does not raise either writes `journalRecord` or leaves it. -/
theorem journalRecord_cases {tradeId : String} {events : List TradeHistoryEvent}
    {existing : Option TradeRecord} (h : Projects cfg tradeId events existing) :
    journalRecord cfg tradeId events existing = existing ∨
      ∃ record, events ≠ [] ∧ projection cfg tradeId events existing = .ok (some record) ∧
        journalRecord cfg tradeId events existing = some record := by
  by_cases hne : events = []
  · subst hne; exact Or.inl rfl
  · obtain ⟨result, hresult⟩ := h hne
    cases result with
    | none => exact Or.inl (journalRecord_of_none hresult)
    | some record => exact Or.inr ⟨record, hne, hresult, journalRecord_of_some hne hresult⟩

/-! ### Projecting trades -/

/-- Only trade records changed. -/
def TradesOnly (w w' : World) : Prop :=
  ∃ trades, w' = w.withStore { w.store with trades }

theorem TradesOnly.refl (w : World) : TradesOnly w w := ⟨w.store.trades, rfl⟩

theorem TradesOnly.trans {a b c : World} (h : TradesOnly a b) (h' : TradesOnly b c) :
    TradesOnly a c := by
  obtain ⟨t, rfl⟩ := h
  obtain ⟨t', rfl⟩ := h'
  exact ⟨t', rfl⟩

theorem TradesOnly.upsertTrade (w : World) (record : TradeRecord) :
    TradesOnly w (w.withStore (w.store.upsertTrade record)) := ⟨_, rfl⟩

theorem TradesOnly.tradeEvents (h : TradesOnly w w') (tradeId : String) :
    w'.store.tradeEvents tradeId = w.store.tradeEvents tradeId := by
  obtain ⟨t, rfl⟩ := h
  rfl

theorem projectTradeRecord_ok {tradeId : String} {b : Bool}
    (h : (projectTradeRecord cfg tradeId).eval World.answer w = (.ok b, w')) :
    Projects cfg tradeId (w.store.tradeEvents tradeId) (w.store.getTrade tradeId) ∧
      (w' = w ∨ ∃ record, w.store.tradeEvents tradeId ≠ [] ∧
        projection cfg tradeId (w.store.tradeEvents tradeId) (w.store.getTrade tradeId) =
          .ok (some record) ∧ w' = w.withStore (w.store.upsertTrade record)) ∧
      w'.store.getTrade tradeId =
        journalRecord cfg tradeId (w.store.tradeEvents tradeId) (w.store.getTrade tradeId) := by
  simp only [projectTradeRecord, bind_def, eval_bind, eval_perform, World.answer,
    TradeStore.listTradeHistoryTradeEvents_tradeId] at h
  split_ifs at h with hempty
  · have hnil : w.store.tradeEvents tradeId = [] := List.isEmpty_iff.mp hempty
    simp only [eval_pure, Prod.mk.injEq] at h
    obtain ⟨-, rfl⟩ := h
    exact ⟨fun hne => absurd hnil hne, Or.inl rfl, by rw [hnil, journalRecord_nil]⟩
  · have hne : w.store.tradeEvents tradeId ≠ [] := mt List.isEmpty_iff.mpr hempty
    simp only [eval_bind, eval_perform, World.answer, eval_ofExcept] at h
    cases hp : projection cfg tradeId (w.store.tradeEvents tradeId) (w.store.getTrade tradeId) with
    | error e => rw [hp] at h; simp at h
    | ok result =>
        rw [hp] at h
        cases result with
        | none =>
            simp only [eval_pure, Prod.mk.injEq] at h
            obtain ⟨-, rfl⟩ := h
            exact ⟨fun _ => ⟨_, hp⟩, Or.inl rfl, (journalRecord_of_none hp).symm⟩
        | some record =>
            simp only [eval_bind, eval_perform, World.answer, eval_pure, Prod.mk.injEq] at h
            obtain ⟨-, rfl⟩ := h
            refine ⟨fun _ => ⟨_, hp⟩, Or.inr ⟨record, hne, rfl, rfl⟩, ?_⟩
            rw [journalRecord_of_some hne hp, World.withStore_store,
              TradeStore.getTrade_upsertTrade_self _ (projection_tradeId hp)]

theorem projectTrades_ok {tradeIds : List String} {bs : List Bool} (hnd : tradeIds.Nodup)
    (h : (each (projectTradeRecord cfg) tradeIds).eval World.answer w = (.ok bs, w')) :
    TradesOnly w w' ∧
      (∀ tradeId ∈ tradeIds,
        Projects cfg tradeId (w.store.tradeEvents tradeId) (w.store.getTrade tradeId) ∧
        w'.store.getTrade tradeId =
          journalRecord cfg tradeId (w.store.tradeEvents tradeId) (w.store.getTrade tradeId)) ∧
      ∀ tradeId ∉ tradeIds, w'.store.getTrade tradeId = w.store.getTrade tradeId := by
  induction tradeIds generalizing w bs with
  | nil =>
      obtain ⟨-, rfl⟩ := Prod.mk.inj h
      exact ⟨.refl w, fun _ hid => absurd hid List.not_mem_nil, fun _ _ => rfl⟩
  | cons first rest ih =>
      obtain ⟨hfirst, hrest⟩ := List.nodup_cons.mp hnd
      obtain ⟨b, w₁, hb, h⟩ := eval_bind_ok World.answer h
      obtain ⟨cs, w₂, hcs, h⟩ := eval_bind_ok World.answer h
      obtain ⟨-, rfl⟩ := Prod.mk.inj h
      obtain ⟨hproj, hw₁, hget⟩ := projectTradeRecord_ok hb
      have honly : TradesOnly w w₁ := by
        rcases hw₁ with rfl | ⟨record, -, -, rfl⟩
        · exact .refl _
        · exact .upsertTrade w record
      have hother : ∀ tradeId ≠ first, w₁.store.getTrade tradeId = w.store.getTrade tradeId := by
        intro tradeId hne
        rcases hw₁ with rfl | ⟨record, -, hrecord, rfl⟩
        · rfl
        · exact w.store.getTrade_upsertTrade_ne (projection_tradeId hrecord ▸ Ne.symm hne)
      obtain ⟨honly', hmem, hnot⟩ := ih hrest hcs
      refine ⟨honly.trans honly', fun tradeId hid => ?_, fun tradeId hid => ?_⟩
      · rcases List.mem_cons.mp hid with rfl | hid
        · exact ⟨hproj, (hnot _ hfirst).trans hget⟩
        · have hne : tradeId ≠ first := fun he => hfirst (he ▸ hid)
          rw [← hother tradeId hne, ← honly.tradeEvents]
          exact hmem tradeId hid
      · obtain ⟨hne, hid⟩ := not_or.mp (mt List.mem_cons.mpr hid)
        rw [hnot tradeId hid, hother tradeId hne]

theorem projectTradeRecord_returns {tradeId : String}
    (h : Projects cfg tradeId (w.store.tradeEvents tradeId) (w.store.getTrade tradeId)) :
    ∃ b w', (projectTradeRecord cfg tradeId).eval World.answer w = (.ok b, w') := by
  simp only [projectTradeRecord, bind_def, eval_bind, eval_perform, World.answer,
    TradeStore.listTradeHistoryTradeEvents_tradeId]
  split_ifs with hempty
  · exact ⟨_, _, rfl⟩
  · obtain ⟨result, hresult⟩ := h (mt List.isEmpty_iff.mpr hempty)
    simp only [eval_bind, eval_perform, World.answer, eval_ofExcept, hresult]
    cases result <;> exact ⟨_, _, rfl⟩

theorem projectTrades_returns {tradeIds : List String} (hnd : tradeIds.Nodup)
    (h : ∀ tradeId ∈ tradeIds,
      Projects cfg tradeId (w.store.tradeEvents tradeId) (w.store.getTrade tradeId)) :
    ∃ bs w', (each (projectTradeRecord cfg) tradeIds).eval World.answer w = (.ok bs, w') := by
  induction tradeIds generalizing w with
  | nil => exact ⟨_, _, rfl⟩
  | cons first rest ih =>
      obtain ⟨hfirst, hrest⟩ := List.nodup_cons.mp hnd
      obtain ⟨b, w₁, hb⟩ := projectTradeRecord_returns (h first List.mem_cons_self)
      have hone : (each (projectTradeRecord cfg) [first]).eval World.answer w = (.ok [b], w₁) := by
        simp only [each, eval_bind, hb, eval_done]
      obtain ⟨honly, -, hnot⟩ := projectTrades_ok (List.nodup_singleton first) hone
      obtain ⟨bs, w', hbs⟩ := ih (w := w₁) hrest fun tradeId hid => by
        have hne : tradeId ∉ [first] := fun he => hfirst (List.mem_singleton.mp he ▸ hid)
        rw [honly.tradeEvents, hnot tradeId hne]
        exact h tradeId (List.mem_cons_of_mem _ hid)
      exact ⟨b :: bs, w', by simp only [each, eval_bind, hb, hbs, eval_done]⟩

theorem mem_projectedTradeIds {rows : List HistoryRow} {tradeId : String} :
    tradeId ∈ projectedTradeIds rows ↔
      ∃ e : TradeHistoryEvent, .trade e ∈ rows ∧ e.tradeId = tradeId := by
  simp only [projectedTradeIds, mem_sortOn, List.mem_dedup, List.mem_map, List.mem_filterMap]
  constructor
  · rintro ⟨e, ⟨row, hrow, he⟩, rfl⟩
    cases row with
    | financing e' => cases he
    | trade e' => cases he; exact ⟨e, hrow, rfl⟩
  · rintro ⟨e, he, rfl⟩
    exact ⟨e, ⟨.trade e, he, rfl⟩, rfl⟩

theorem nodup_projectedTradeIds (rows : List HistoryRow) : (projectedTradeIds rows).Nodup :=
  perm_sortOn.nodup_iff.mpr (List.nodup_dedup _)

/-! ### The repair of manual closes -/

/-- Every record of a trade with events is the projection of these events. -/
def Settled (cfg : Config) (store : TradeStore) : Prop :=
  ∀ tradeId record, store.tradeEvents tradeId ≠ [] → store.getTrade tradeId = some record →
    projection cfg tradeId (store.tradeEvents tradeId) (some record) = .ok (some record)

/-- Projecting a trade of a settled store changes nothing. -/
theorem projectTradeRecord_settled {record : TradeRecord} (hset : Settled cfg w.store)
    (hrecord : w.store.getTrade record.tradeId = some record) :
    ∃ b, (projectTradeRecord cfg record.tradeId).eval World.answer w = (.ok b, w) := by
  have hproj : Projects cfg record.tradeId (w.store.tradeEvents record.tradeId)
      (w.store.getTrade record.tradeId) := fun hne => ⟨_, hrecord ▸ hset _ _ hne hrecord⟩
  obtain ⟨b, w', hrun⟩ := projectTradeRecord_returns hproj
  obtain ⟨-, rfl | ⟨record', hne, hproj, rfl⟩, -⟩ := projectTradeRecord_ok hrun
  · exact ⟨b, hrun⟩
  · rw [hrecord, hset _ _ hne hrecord] at hproj
    obtain rfl : record = record' := Option.some.inj (Except.ok.inj hproj)
    rw [TradeStore.upsertTrade, Table.insert_find hrecord] at hrun
    exact ⟨b, hrun⟩

theorem repairManualMitClose_settled {trade : TradeRecord} (hset : Settled cfg w.store)
    (htrade : w.store.getTrade trade.tradeId = some trade) :
    ∃ b, (repairManualMitClose cfg trade).eval World.answer w = (.ok b, w) := by
  simp only [repairManualMitClose, bind_def]
  split_ifs
  · exact ⟨_, rfl⟩
  · simp only [eval_bind, eval_perform, World.answer,
      TradeStore.listTradeHistoryTradeEvents_tradeId]
    cases (closeEvents (w.store.tradeEvents trade.tradeId)).getLast? with
    | none => exact ⟨_, rfl⟩
    | some final =>
        simp only
        split_ifs
        · exact ⟨_, rfl⟩
        · exact projectTradeRecord_settled hset htrade

theorem repair_settled (hset : Settled cfg w.store) :
    ∃ n, (repairManualMitClosesFromHistory cfg).eval World.answer w = (.ok n, w) := by
  have hloop : ∀ trades : List TradeRecord,
      (∀ trade ∈ trades, w.store.getTrade trade.tradeId = some trade) →
      ∃ bs, (each (repairManualMitClose cfg) trades).eval World.answer w = (.ok bs, w) := by
    intro trades hall
    induction trades with
    | nil => exact ⟨_, rfl⟩
    | cons trade trades ih =>
        obtain ⟨b, hb⟩ := repairManualMitClose_settled hset (hall trade List.mem_cons_self)
        obtain ⟨bs, hbs⟩ := ih fun t ht => hall t (List.mem_cons_of_mem _ ht)
        exact ⟨b :: bs, by simp only [each, eval_bind, hb, hbs, eval_done]⟩
  obtain ⟨bs, hbs⟩ := hloop w.store.listClosedTrades
    fun trade ht => (TradeStore.mem_listClosedTrades.mp ht).1
  exact ⟨_, by simp only [repairManualMitClosesFromHistory, bind_def, eval_bind, eval_perform,
    World.answer, hbs, eval_pure]; rfl⟩

/-! ### Ingestion -/

/-- The store after the rows of a batch are stored and before any trade is projected. -/
def storeBatch (store : TradeStore) (transactions : List Transaction) (rows : List HistoryRow) :
    TradeStore :=
  { store with
    rawTransactions := store.rawTransactions.insertAll transactions
    tradeHistoryEvents := store.tradeHistoryEvents.insertAll rows }

theorem storeRaw_eval (transactions : List Transaction) : ∃ counts,
    (storeRaw transactions).eval World.answer w =
      (.ok counts, w.withStore (w.store.upsertRawTransactions transactions).2) := by
  unfold storeRaw
  split_ifs with hempty
  · rw [List.isEmpty_iff.mp hempty]
    exact ⟨_, rfl⟩
  · exact ⟨_, eval_perform _ _ _⟩

theorem storeRows_eval (rows : List HistoryRow) : ∃ counts,
    (storeRows rows).eval World.answer w =
      (.ok counts, w.withStore (w.store.upsertTradeHistoryEvents rows).2) := by
  unfold storeRows
  split_ifs with hempty
  · rw [List.isEmpty_iff.mp hempty]
    exact ⟨_, rfl⟩
  · exact ⟨_, eval_perform _ _ _⟩

theorem storeBatch_eq (transactions : List Transaction) (rows : List HistoryRow) :
    (w.withStore (w.store.upsertRawTransactions transactions).2).withStore
      ((w.store.upsertRawTransactions transactions).2.upsertTradeHistoryEvents rows).2 =
        w.withStore (storeBatch w.store transactions rows) := by
  simp only [TradeStore.upsertRawTransactions_table, TradeStore.upsertTradeHistoryEvents_table,
    World.withStore_withStore, storeBatch]

/-- An ingested batch: its rows are stored, their trades projected, manual closes repaired. -/
theorem ingest_ok {zone : String} {transactions : List Transaction} {counts : IngestCounts}
    (h : (ingest cfg zone transactions).eval World.answer w = (.ok counts, w')) :
    ∃ rows bs n w₁, normalizeTransactions zone transactions = .ok rows ∧
      (each (projectTradeRecord cfg) (projectedTradeIds rows)).eval World.answer
        (w.withStore (storeBatch w.store transactions rows)) = (.ok bs, w₁) ∧
      (repairManualMitClosesFromHistory cfg).eval World.answer w₁ = (.ok n, w') := by
  unfold ingest at h
  obtain ⟨raw, w₀, hraw, h⟩ := eval_bind_ok World.answer h
  obtain ⟨_, hraw'⟩ := storeRaw_eval transactions
  obtain ⟨-, rfl⟩ := Prod.mk.inj (hraw.symm.trans hraw')
  obtain ⟨rows, w₁, hrows, h⟩ := eval_bind_ok World.answer h
  rw [eval_ofExcept] at hrows
  obtain ⟨hnormal, rfl⟩ := Prod.mk.inj hrows
  obtain ⟨events, w₂, hevents, h⟩ := eval_bind_ok World.answer h
  obtain ⟨_, hevents'⟩ := storeRows_eval rows
  obtain ⟨-, rfl⟩ := Prod.mk.inj (hevents.symm.trans hevents')
  rw [World.withStore_store, storeBatch_eq] at h
  obtain ⟨projected, w₃, hprojected, h⟩ := eval_bind_ok World.answer h
  obtain ⟨repaired, w₄, hrepaired, h⟩ := eval_bind_ok World.answer h
  obtain ⟨-, rfl⟩ := Prod.mk.inj h
  unfold projectTradeRecordsFromEvents at hprojected
  obtain ⟨bs, w₅, hbs, hprojected⟩ := eval_bind_ok World.answer hprojected
  obtain ⟨-, rfl⟩ := Prod.mk.inj hprojected
  exact ⟨rows, bs, repaired, _, hnormal, hbs, hrepaired⟩

/-- A batch is ingested when its transactions are accepted, its trades project, and the records
it leaves are settled. -/
theorem ingest_returns {zone : String} {transactions : List Transaction} {rows : List HistoryRow}
    {bs : List Bool} {w₁ : World} (hrows : normalizeTransactions zone transactions = .ok rows)
    (hproject : (each (projectTradeRecord cfg) (projectedTradeIds rows)).eval World.answer
      (w.withStore (storeBatch w.store transactions rows)) = (.ok bs, w₁))
    (hset : Settled cfg w₁.store) :
    ∃ counts, (ingest cfg zone transactions).eval World.answer w = (.ok counts, w₁) := by
  obtain ⟨raw, hraw⟩ := storeRaw_eval (w := w) transactions
  obtain ⟨events, hevents⟩ :=
    storeRows_eval (w := w.withStore (w.store.upsertRawTransactions transactions).2) rows
  obtain ⟨n, hn⟩ := repair_settled hset
  unfold ingest
  refine ⟨{ raw, events, projectedTrades := bs.count true }, (eval_bind_of_ok _ hraw).trans ?_⟩
  rw [hrows]
  refine (eval_bind_of_ok _ (eval_ofExcept _ _ _)).trans ?_
  refine (eval_bind_of_ok _ hevents).trans ?_
  rw [World.withStore_store, storeBatch_eq]
  refine (eval_bind_of_ok _ (eval_bind_of_ok _ hproject)).trans ?_
  exact eval_bind_of_ok _ hn

theorem incrementalSync_ok {state : TradeHistorySyncState} {report : SyncReport}
    (hstate : w.store.getTradeHistorySyncState cfg.oandaAccountId = some state)
    (h : (incrementalSync cfg).eval World.answer w = (.ok report, w')) :
    ∃ counts w₁ next, (ingest cfg cfg.journalTimezone
        (w.broker.log.since state.lastTransactionId tradeHistoryTypeFilter)).eval World.answer w =
          (.ok counts, w₁) ∧
      w' = w₁.withStore (w₁.store.upsertTradeHistorySyncState next) := by
  unfold incrementalSync at h
  simp only [bind_def, eval_bind, eval_perform, World.answer, hstate, TradeStore.readOperation] at h
  obtain ⟨fetched, w₀, hfetch, h⟩ := eval_bind_ok World.answer h
  obtain ⟨counts, w₁, hingest, h⟩ := eval_bind_ok World.answer h
  obtain ⟨next, w₂, hnext, h⟩ := eval_bind_ok World.answer h
  obtain ⟨_, w₃, hwrite, h⟩ := eval_bind_ok World.answer h
  obtain ⟨-, rfl⟩ := Prod.mk.inj h
  obtain ⟨-, rfl⟩ := Prod.mk.inj ((eval_ofExcept World.answer _ _).symm.trans hnext)
  obtain ⟨-, rfl⟩ := Prod.mk.inj ((eval_perform World.answer _ _).symm.trans hwrite)
  rw [eval_perform, World.answer] at hfetch
  obtain ⟨hfetched, rfl⟩ := Prod.mk.inj hfetch
  split at hfetched
  · obtain rfl := Except.ok.inj hfetched
    exact ⟨counts, w₁, next, hingest, rfl⟩
  · cases hfetched

end OandaV3
