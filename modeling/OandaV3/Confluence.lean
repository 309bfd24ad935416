import OandaV3.HistoryEval

/-! # Ingestion is confluent

Batches of transactions with distinct ids may be delivered in any order, in any split and more
than once: the event table and the trade records end as if one batch had held them all
(`ingest_confluent`).  In particular the chunks of a backfill do not matter.

The invariant is `Ingested`: after every batch the event of a key is the one its transaction
yields, and the record of a trade is `journalRecord` of the events stored so far and the record it
had before the first batch.  `Ingested.step` says that one batch keeps it. -/

namespace OandaV3

open Interaction Program

/-- No two transactions open the same trade. -/
def TradeOpenedOnce (transactions : List Transaction) : Prop :=
  ∀ t ∈ transactions, ∀ u ∈ transactions, ∀ opened ∈ t.tradeOpened, ∀ opened' ∈ u.tradeOpened,
    ∀ tradeId, opened.tradeID = some tradeId → opened'.tradeID = some tradeId → t = u

/-- The same events and the same trade records, as maps. -/
def SameJournal (store store' : TradeStore) : Prop :=
  (∀ eventId, store.tradeHistoryEvents.find eventId = store'.tradeHistoryEvents.find eventId) ∧
    ∀ tradeId, store.getTrade tradeId = store'.getTrade tradeId

/-- The event table holds, under every key, the last row of these transactions with the key. -/
def EventsOf (zone : String) (done : List Transaction) (store : TradeStore) : Prop :=
  ∀ eventId, store.tradeHistoryEvents.find eventId =
    DocTable.last HistoryRow.eventId eventId (done.flatMap (normalizedRows zone))

section

variable {cfg : Config} {zone : String} {ts done done' batch : List Transaction}
  {before : String → Option TradeRecord} {store store' : TradeStore} {w w' : World}

/-! ### Stored rows -/

/-- A row is stored exactly when it is the last one with its key among the rows of one of the
transactions. -/
theorem EventsOf.mem_iff (hevents : EventsOf zone done store)
    (hids : (ts.map Transaction.id).Nodup) (hsub : ∀ t ∈ done, t ∈ ts) {row : HistoryRow} :
    row ∈ store.tradeHistoryEvents.docs ↔ ∃ t ∈ done,
      DocTable.last HistoryRow.eventId row.eventId (normalizedRows zone t) = some row := by
  have honly : ∀ {t : Transaction} {k : String}, t ∈ done →
      (∃ d ∈ normalizedRows zone t, d.eventId = k) →
      ∀ u ∈ done, (∃ d ∈ normalizedRows zone u, d.eventId = k) → u = t := by
    rintro t k ht ⟨d, hd, rfl⟩ u hu ⟨d', hd', hk⟩
    exact List.inj_on_of_nodup_map hids (hsub u hu) (hsub t ht) (id_eq_of_eventId_eq hd' hd hk)
  rw [Table.mem_iff_find, hevents]
  constructor
  · intro h
    obtain ⟨hmem, -⟩ := DocTable.last_some h
    obtain ⟨t, ht, hrow⟩ := List.mem_flatMap.mp hmem
    rw [DocTable.last_flatMap (honly ht ⟨row, hrow, rfl⟩) ht] at h
    exact ⟨t, ht, h⟩
  · rintro ⟨t, ht, h⟩
    rw [DocTable.last_flatMap (honly ht ⟨row, (DocTable.last_some h).1, rfl⟩) ht]
    exact h

theorem EventsOf.mono (hevents : EventsOf zone done store) (hevents' : EventsOf zone done' store')
    (hids : (ts.map Transaction.id).Nodup) (hsub' : ∀ t ∈ done', t ∈ ts)
    (hmono : ∀ t ∈ done, t ∈ done') {row : HistoryRow}
    (h : row ∈ store.tradeHistoryEvents.docs) : row ∈ store'.tradeHistoryEvents.docs := by
  obtain ⟨t, ht, hlast⟩ := (hevents.mem_iff hids fun t ht => hsub' t (hmono t ht)).mp h
  exact (hevents'.mem_iff hids hsub').mpr ⟨t, hmono t ht, hlast⟩

theorem EventsOf.tradeEvents_mono (hevents : EventsOf zone done store)
    (hevents' : EventsOf zone done' store') (hids : (ts.map Transaction.id).Nodup)
    (hsub' : ∀ t ∈ done', t ∈ ts) (hmono : ∀ t ∈ done, t ∈ done') {tradeId : String}
    {e : TradeHistoryEvent} (h : e ∈ store.tradeEvents tradeId) : e ∈ store'.tradeEvents tradeId := by
  obtain ⟨hmem, hid⟩ := TradeStore.mem_tradeEvents.mp h
  exact TradeStore.mem_tradeEvents.mpr ⟨hevents.mono hevents' hids hsub' hmono hmem, hid⟩

theorem EventsOf.find_eq (hevents : EventsOf zone done store)
    (hevents' : EventsOf zone done' store') (hids : (ts.map Transaction.id).Nodup)
    (hsub' : ∀ t ∈ done', t ∈ ts) (hsame : ∀ t, t ∈ done ↔ t ∈ done') (eventId : String) :
    store.tradeHistoryEvents.find eventId = store'.tradeHistoryEvents.find eventId := by
  have hiff : ∀ row, row ∈ store.tradeHistoryEvents.docs ↔ row ∈ store'.tradeHistoryEvents.docs :=
    fun row => ⟨hevents.mono hevents' hids hsub' fun t ht => (hsame t).mp ht,
      hevents'.mono hevents hids (fun t ht => hsub' t ((hsame t).mp ht))
        fun t ht => (hsame t).mpr ht⟩
  ext row
  constructor
  · intro h
    obtain ⟨hmem, rfl⟩ := Table.find_some h
    exact Table.find_of_mem ((hiff row).mp hmem)
  · intro h
    obtain ⟨hmem, rfl⟩ := Table.find_some h
    exact Table.find_of_mem ((hiff row).mpr hmem)

theorem EventsOf.opening_unique (hevents : EventsOf zone done store)
    (hids : (ts.map Transaction.id).Nodup) (honce : TradeOpenedOnce ts)
    (hsub : ∀ t ∈ done, t ∈ ts) {tradeId : String} {e e' : TradeHistoryEvent}
    (he : e ∈ store.tradeEvents tradeId) (he' : e' ∈ store.tradeEvents tradeId)
    (hopen : e.eventType = .OPEN) (hopen' : e'.eventType = .OPEN) : e = e' := by
  obtain ⟨hmem, rfl⟩ := TradeStore.mem_tradeEvents.mp he
  obtain ⟨hmem', hid⟩ := TradeStore.mem_tradeEvents.mp he'
  obtain ⟨t, ht, hlast⟩ := (hevents.mem_iff hids hsub).mp hmem
  obtain ⟨u, hu, hlast'⟩ := (hevents.mem_iff hids hsub).mp hmem'
  have hrow := (DocTable.last_some hlast).1
  have hrow' := (DocTable.last_some hlast').1
  obtain ⟨link, hlink, hlinkId⟩ := opened_of_mem hrow hopen
  obtain ⟨link', hlink', hlinkId'⟩ := opened_of_mem hrow' hopen'
  obtain rfl : t = u :=
    honce t (hsub t ht) u (hsub u hu) link hlink link' hlink' _ hlinkId (hid ▸ hlinkId')
  have hkey : HistoryRow.eventId (.trade e) = HistoryRow.eventId (.trade e') := by
    rw [eventId_of_trade hrow, eventId_of_trade hrow', hopen, hopen', hid]
  rw [hkey, hlast'] at hlast
  exact (HistoryRow.trade.inj (Option.some.inj hlast)).symm

/-- The opening event of a trade stays the same when more transactions are stored. -/
theorem EventsOf.opening_mono (hevents : EventsOf zone done store)
    (hevents' : EventsOf zone done' store') (hids : (ts.map Transaction.id).Nodup)
    (honce : TradeOpenedOnce ts) (hsub' : ∀ t ∈ done', t ∈ ts) (hmono : ∀ t ∈ done, t ∈ done')
    {tradeId : String} {e : TradeHistoryEvent}
    (h : (store.tradeEvents tradeId).find? (fun e => e.eventType == .OPEN) = some e) :
    (store'.tradeEvents tradeId).find? (fun e => e.eventType == .OPEN) = some e := by
  have hopen : e.eventType = .OPEN := by simpa using List.find?_some h
  have hmem' : e ∈ store'.tradeEvents tradeId :=
    hevents.tradeEvents_mono hevents' hids hsub' hmono (List.mem_of_find?_eq_some h)
  cases hfind : (store'.tradeEvents tradeId).find? (fun e => e.eventType == .OPEN) with
  | none => exact absurd hopen (by simpa using List.find?_eq_none.mp hfind e hmem')
  | some e' =>
      have hopen' : e'.eventType = .OPEN := by simpa using List.find?_some hfind
      rw [hevents'.opening_unique hids honce hsub' hmem' (List.mem_of_find?_eq_some hfind) hopen
        hopen']

/-! ### Projecting in two steps -/

/-- A record projected from some of the events has the base the record before it had. -/
theorem projection_journalRecord {tradeId : String} {events events' : List TradeHistoryEvent}
    {existing : Option TradeRecord} (hproj : Projects cfg tradeId events existing)
    (hopen : ∀ e, events.find? (fun e => e.eventType == .OPEN) = some e →
      events'.find? (fun e => e.eventType == .OPEN) = some e) :
    projection cfg tradeId events' (journalRecord cfg tradeId events existing) =
      projection cfg tradeId events' existing := by
  rcases journalRecord_cases hproj with h | ⟨record, -, hrecord, h⟩
  · rw [h]
  · rw [h]
    refine projection_congr ((tradeBase_some events' record).trans ?_)
    have hbase := recordBase_projection hrecord
    cases existing with
    | some r => exact hbase.symm
    | none =>
        cases hfind : events.find? (fun e => e.eventType == .OPEN) with
        | none => simp [tradeBase, hfind] at hbase
        | some e =>
            rw [← hbase]
            simp only [tradeBase, hfind, hopen e hfind]

/-- Projecting again with more events forgets the first projection. -/
theorem journalRecord_journalRecord {tradeId : String} {events events' : List TradeHistoryEvent}
    {existing : Option TradeRecord} (hne : events' ≠ [])
    (hproj : Projects cfg tradeId events existing)
    (hproj' : Projects cfg tradeId events' (journalRecord cfg tradeId events existing))
    (hopen : ∀ e, events.find? (fun e => e.eventType == .OPEN) = some e →
      events'.find? (fun e => e.eventType == .OPEN) = some e) :
    journalRecord cfg tradeId events' (journalRecord cfg tradeId events existing) =
      journalRecord cfg tradeId events' existing := by
  have heq := projection_journalRecord hproj hopen
  obtain ⟨result, hresult⟩ := hproj' hne
  cases result with
  | some record =>
      rw [journalRecord_of_some hne hresult, journalRecord_of_some hne (heq.symm.trans hresult)]
  | none =>
      have hnone : ∀ r : Option TradeRecord, projection cfg tradeId events' r = .ok none → r = none := by
        intro r hr
        cases r with
        | none => rfl
        | some record => exact absurd hr projection_some_ne_none
      rw [journalRecord_of_none hresult, journalRecord_of_none (heq.symm.trans hresult),
        hnone _ hresult, hnone _ (heq.symm.trans hresult)]

/-! ### One batch -/

/-- The state after the batches that held the transactions `done`, all of them from `ts`. -/
structure Ingested (cfg : Config) (zone : String) (ts : List Transaction)
    (before : String → Option TradeRecord) (done : List Transaction) (store : TradeStore) :
    Prop where
  subset : ∀ t ∈ done, t ∈ ts
  events : EventsOf zone done store
  projects : ∀ tradeId, Projects cfg tradeId (store.tradeEvents tradeId) (before tradeId)
  records : ∀ tradeId, store.getTrade tradeId =
    journalRecord cfg tradeId (store.tradeEvents tradeId) (before tradeId)

/-- In an ingested state every record is the projection of its trade. -/
theorem Ingested.settled (h : Ingested cfg zone ts before done store) : Settled cfg store := by
  intro tradeId record hne hrecord
  obtain ⟨result, hresult⟩ := h.projects tradeId hne
  have hget := h.records tradeId
  cases result with
  | none =>
      rw [journalRecord_of_none hresult] at hget
      rw [← hget, hrecord] at hresult
      exact absurd hresult projection_some_ne_none
  | some projected =>
      rw [journalRecord_of_some hne hresult, hrecord] at hget
      rw [Option.some.inj hget]
      exact projection_self hresult

theorem EventsOf.storeBatch (hevents : EventsOf zone done store) :
    EventsOf zone (done ++ batch)
      (storeBatch store batch (batch.flatMap (normalizedRows zone))) := by
  intro eventId
  rw [List.flatMap_append, DocTable.last_append, ← hevents]
  exact Table.find_insertAll _ _ _

theorem EventsOf.tradeEvents_storeBatch (hevents : EventsOf zone done store)
    (hids : (ts.map Transaction.id).Nodup) (hsub : ∀ t ∈ done ++ batch, t ∈ ts)
    {tradeId : String} (hid : tradeId ∉ projectedTradeIds (batch.flatMap (normalizedRows zone))) :
    (OandaV3.storeBatch store batch (batch.flatMap (normalizedRows zone))).tradeEvents tradeId =
      store.tradeEvents tradeId := by
  have hsub' : ∀ t ∈ done, t ∈ ts := fun t ht => hsub t (List.mem_append_left _ ht)
  refine TradeStore.tradeEvents_congr fun e he => ?_
  rw [hevents.storeBatch.mem_iff hids hsub, hevents.mem_iff hids hsub']
  constructor
  · rintro ⟨t, ht, hlast⟩
    rcases List.mem_append.mp ht with ht | ht
    · exact ⟨t, ht, hlast⟩
    · refine absurd (mem_projectedTradeIds.mpr ⟨e, ?_, he⟩) hid
      exact List.mem_flatMap.mpr ⟨t, ht, (DocTable.last_some hlast).1⟩
  · rintro ⟨t, ht, hlast⟩
    exact ⟨t, List.mem_append_left _ ht, hlast⟩

/-- What the records are, before and after the projection of a batch. -/
theorem Ingested.project (h : Ingested cfg zone ts before done w.store)
    (hids : (ts.map Transaction.id).Nodup) (honce : TradeOpenedOnce ts)
    (hbatch : ∀ t ∈ batch, t ∈ ts) {bs : List Bool} {w₁ : World}
    (hrun : (each (projectTradeRecord cfg)
      (projectedTradeIds (batch.flatMap (normalizedRows zone)))).eval World.answer
        (w.withStore (storeBatch w.store batch (batch.flatMap (normalizedRows zone)))) =
          (.ok bs, w₁)) :
    Ingested cfg zone ts before (done ++ batch) w₁.store := by
  obtain ⟨honly, hmem, hnot⟩ := projectTrades_ok (nodup_projectedTradeIds _) hrun
  have hsub : ∀ t ∈ done ++ batch, t ∈ ts := fun t ht =>
    (List.mem_append.mp ht).elim (h.subset t) (hbatch t)
  have hmono : ∀ t ∈ done, t ∈ done ++ batch := fun t ht => List.mem_append_left _ ht
  have hevents : EventsOf zone (done ++ batch) (storeBatch w.store batch
      (batch.flatMap (normalizedRows zone))) := h.events.storeBatch
  have hsame : ∀ tradeId, w₁.store.tradeEvents tradeId = (storeBatch w.store batch
      (batch.flatMap (normalizedRows zone))).tradeEvents tradeId := honly.tradeEvents
  have hopening : ∀ tradeId e,
      (w.store.tradeEvents tradeId).find? (fun e => e.eventType == .OPEN) = some e →
      (w₁.store.tradeEvents tradeId).find? (fun e => e.eventType == .OPEN) = some e := by
    intro tradeId e he
    rw [hsame]
    exact h.events.opening_mono hevents hids honce hsub hmono he
  have hbefore : ∀ tradeId, (w.withStore (storeBatch w.store batch
      (batch.flatMap (normalizedRows zone)))).store.getTrade tradeId =
        journalRecord cfg tradeId (w.store.tradeEvents tradeId) (before tradeId) := h.records
  refine ⟨hsub, ?_, fun tradeId => ?_, fun tradeId => ?_⟩
  · obtain ⟨trades, rfl⟩ := honly
    exact hevents
  · by_cases hid : tradeId ∈ projectedTradeIds (batch.flatMap (normalizedRows zone))
    · have hproj := (hmem tradeId hid).1
      rw [hbefore] at hproj
      intro hne
      rw [← projection_journalRecord (h.projects tradeId) (hopening tradeId), hsame]
      exact hproj (hsame tradeId ▸ hne)
    · rw [hsame, h.events.tradeEvents_storeBatch hids hsub hid]
      exact h.projects tradeId
  · by_cases hid : tradeId ∈ projectedTradeIds (batch.flatMap (normalizedRows zone))
    · obtain ⟨hproj, hget⟩ := hmem tradeId hid
      rw [hbefore] at hproj hget
      change Projects cfg tradeId ((storeBatch w.store batch
        (batch.flatMap (normalizedRows zone))).tradeEvents tradeId) _ at hproj
      change _ = journalRecord cfg tradeId ((storeBatch w.store batch
        (batch.flatMap (normalizedRows zone))).tradeEvents tradeId) _ at hget
      rw [← hsame] at hproj hget
      by_cases hne : w₁.store.tradeEvents tradeId = []
      · have hnil : w.store.tradeEvents tradeId = [] := by
          rw [List.eq_nil_iff_forall_not_mem] at hne ⊢
          intro e he
          refine hne e ?_
          rw [hsame]
          exact h.events.tradeEvents_mono hevents hids hsub hmono he
        rw [hget, hne, hnil]
        rfl
      · rw [hget]
        exact journalRecord_journalRecord hne (h.projects tradeId) hproj (hopening tradeId)
    · rw [hnot tradeId hid, hbefore, hsame, h.events.tradeEvents_storeBatch hids hsub hid]

theorem Ingested.step (h : Ingested cfg zone ts before done w.store)
    (hids : (ts.map Transaction.id).Nodup) (honce : TradeOpenedOnce ts)
    (hbatch : ∀ t ∈ batch, t ∈ ts) {counts : IngestCounts}
    (hrun : (ingest cfg zone batch).eval World.answer w = (.ok counts, w')) :
    Ingested cfg zone ts before (done ++ batch) w'.store ∧
      ∀ t ∈ batch, normalizeTransaction zone t = .ok (normalizedRows zone t) := by
  obtain ⟨rows, bs, n, w₁, hrows, hproject, hrepair⟩ := ingest_ok hrun
  obtain ⟨rfl, haccepted⟩ := normalizeTransactions_ok.mp hrows
  have h₁ := h.project hids honce hbatch hproject
  obtain ⟨m, hm⟩ := repair_settled h₁.settled
  obtain ⟨-, rfl⟩ := Prod.mk.inj (hrepair.symm.trans hm)
  exact ⟨h₁, haccepted⟩

theorem Ingested.run (hids : (ts.map Transaction.id).Nodup) (honce : TradeOpenedOnce ts)
    {batches : List (List Transaction)} {counts : List IngestCounts}
    (h : Ingested cfg zone ts before done w.store) (hbatches : ∀ t ∈ batches.flatten, t ∈ ts)
    (hrun : (each (ingest cfg zone) batches).eval World.answer w = (.ok counts, w')) :
    Ingested cfg zone ts before (done ++ batches.flatten) w'.store ∧
      ∀ t ∈ batches.flatten, normalizeTransaction zone t = .ok (normalizedRows zone t) := by
  induction batches generalizing w done counts with
  | nil =>
      obtain ⟨-, rfl⟩ := Prod.mk.inj hrun
      rw [List.flatten_nil, List.append_nil]
      exact ⟨h, fun _ ht => absurd ht List.not_mem_nil⟩
  | cons batch batches ih =>
      rw [List.flatten_cons] at hbatches ⊢
      obtain ⟨c, w₁, hc, hrun⟩ := eval_bind_ok World.answer hrun
      obtain ⟨cs, w₂, hcs, hrun⟩ := eval_bind_ok World.answer hrun
      obtain ⟨-, rfl⟩ := Prod.mk.inj hrun
      obtain ⟨h₁, hacc⟩ := h.step hids honce (fun t ht => hbatches t (List.mem_append_left _ ht)) hc
      obtain ⟨h₂, haccs⟩ := ih h₁ (fun t ht => hbatches t (List.mem_append_right _ ht)) hcs
      rw [← List.append_assoc]
      exact ⟨h₂, fun t ht => (List.mem_append.mp ht).elim (hacc t) (haccs t)⟩

theorem Ingested.start (hempty : store.tradeHistoryEvents = .empty) :
    Ingested cfg zone ts store.getTrade [] store := by
  have hnil : ∀ tradeId, store.tradeEvents tradeId = [] := by
    intro tradeId
    rw [List.eq_nil_iff_forall_not_mem]
    intro e he
    have hrow := (TradeStore.mem_tradeEvents.mp he).1
    rw [hempty] at hrow
    cases hrow
  refine ⟨fun t ht => absurd ht List.not_mem_nil, fun eventId => ?_, fun tradeId hne => ?_,
    fun tradeId => ?_⟩
  · rw [hempty]; rfl
  · exact absurd (hnil tradeId) hne
  · rw [hnil tradeId]; rfl

/-- The transactions of an ingested state, delivered as one batch, are ingested too. -/
theorem Ingested.oneBatch (h : Ingested cfg zone ts w.store.getTrade done store)
    (hids : (ts.map Transaction.id).Nodup) (honce : TradeOpenedOnce ts)
    (hempty : w.store.tradeHistoryEvents = .empty)
    (haccepted : ∀ t ∈ done, normalizeTransaction zone t = .ok (normalizedRows zone t))
    (hbatch : ∀ t, t ∈ batch ↔ t ∈ done) :
    ∃ counts w', (ingest cfg zone batch).eval World.answer w = (.ok counts, w') ∧
      SameJournal store w'.store := by
  have h₀ : Ingested cfg zone ts w.store.getTrade [] w.store := .start hempty
  have hsub : ∀ t ∈ [] ++ batch, t ∈ ts := fun t ht => h.subset t ((hbatch t).mp ht)
  have hrows := normalizeTransactions_ok.mpr
    ⟨rfl, fun t ht => haccepted t ((hbatch t).mp ht)⟩
  have hevents : EventsOf zone ([] ++ batch)
    (storeBatch w.store batch (batch.flatMap (normalizedRows zone))) := h₀.events.storeBatch
  have hfind := h.events.find_eq hevents hids hsub fun t => (hbatch t).symm
  have htrade : ∀ tradeId, store.tradeEvents tradeId =
      (storeBatch w.store batch (batch.flatMap (normalizedRows zone))).tradeEvents tradeId :=
    fun tradeId => TradeStore.tradeEvents_congr fun e _ => by
      rw [Table.mem_iff_find, Table.mem_iff_find, hfind]
  have hprojects : ∀ tradeId ∈ projectedTradeIds (batch.flatMap (normalizedRows zone)),
      Projects cfg tradeId ((w.withStore (storeBatch w.store batch
        (batch.flatMap (normalizedRows zone)))).store.tradeEvents tradeId)
        (w.store.getTrade tradeId) := fun tradeId _ => htrade tradeId ▸ h.projects tradeId
  obtain ⟨bs, w₁, hproject⟩ := projectTrades_returns (nodup_projectedTradeIds _) hprojects
  have h₁ := h₀.project hids honce (fun t ht => hsub t ht) hproject
  obtain ⟨counts, hrun⟩ := ingest_returns hrows hproject h₁.settled
  refine ⟨counts, w₁, hrun, fun eventId => h.events.find_eq h₁.events hids hsub
    (fun t => (hbatch t).symm) eventId, fun tradeId => ?_⟩
  have honly := (projectTrades_ok (nodup_projectedTradeIds _) hproject).1
  rw [h.records, h₁.records, honly.tradeEvents, World.withStore_store, ← htrade]

/-! ### The chunks of a backfill -/

theorem backfillChunks_ok {chunks : List (ℤ × ℤ)} {best : Option ℕ} {totals : IngestCounts}
    {r : Option ℕ × IngestCounts}
    (h : (backfillChunks cfg zone chunks best totals).eval World.answer w = (.ok r, w')) :
    ∃ counts, (each (ingest cfg zone) (chunks.map fun chunk =>
      w.broker.log.window chunk.1 chunk.2 tradeHistoryTypeFilter)).eval World.answer w =
        (.ok counts, w') := by
  induction chunks generalizing w best totals with
  | nil => exact ⟨[], by rw [← (Prod.mk.inj h).2]; rfl⟩
  | cons chunk chunks ih =>
      obtain ⟨chunkStart, chunkEnd⟩ := chunk
      obtain ⟨batch, w₀, hfetch, h⟩ := eval_bind_ok World.answer h
      obtain ⟨c, w₁, hc, h⟩ := eval_bind_ok World.answer h
      obtain ⟨cs, hcs⟩ := ih h
      rw [eval_perform, World.answer] at hfetch
      obtain ⟨hbatch, rfl⟩ := Prod.mk.inj hfetch
      split_ifs at hbatch
      obtain rfl := Except.ok.inj hbatch
      have hbroker : w₁.broker = w.broker := by rw [← World.eval_broker _ w, hc]
      rw [hbroker] at hcs
      exact ⟨c :: cs, by simp only [List.map_cons, each, eval_bind, hc, hcs, eval_done]⟩

theorem mem_chunks {log : TransactionLog} {startUtc endUtc chunkSize : ℤ} (hsize : 0 < chunkSize)
    (hlt : startUtc < endUtc) (t : Transaction) :
    t ∈ ((splitUtcWindow startUtc endUtc chunkSize).map fun chunk =>
      log.window chunk.1 chunk.2 tradeHistoryTypeFilter).flatten ↔
        t ∈ log.window startUtc endUtc tradeHistoryTypeFilter := by
  obtain ⟨hin, hcover⟩ := mem_splitUtcWindow hsize
  simp only [List.mem_flatten, List.mem_map, exists_exists_and_eq_and, TransactionLog.mem_window,
    Option.any_eq_true, Bool.and_eq_true, decide_eq_true_eq]
  constructor
  · rintro ⟨chunk, hchunk, hlog, ⟨time, htime, h₁, h₂⟩, htype⟩
    obtain ⟨hlo, -, hhi⟩ := hin chunk hchunk
    exact ⟨hlog, ⟨time, htime, hlo.trans h₁, h₂.trans hhi⟩, htype⟩
  · rintro ⟨hlog, ⟨time, htime, h₁, h₂⟩, htype⟩
    obtain ⟨chunk, hchunk, hlo, hhi⟩ := hcover time hlt h₁ h₂
    exact ⟨chunk, hchunk, hlog, ⟨time, htime, hlo, hhi⟩, htype⟩

end

/-! ### Confluence -/

/-- Batches delivered in any split, in any order and more than once leave the events and the trade
records one batch leaves; the chunks of a backfill window leave those of the whole window. -/
theorem ingest_confluent (cfg : Config) (zone : String) :
    (∀ (ts : List Transaction) (batches : List (List Transaction)) (w w' : World)
      (counts : List IngestCounts),
      (ts.map Transaction.id).Nodup → TradeOpenedOnce ts →
      (∀ t, t ∈ batches.flatten ↔ t ∈ ts) → w.store.tradeHistoryEvents = .empty →
      (each (ingest cfg zone) batches).eval World.answer w = (.ok counts, w') →
      ∃ c w₁, (ingest cfg zone ts).eval World.answer w = (.ok c, w₁) ∧
        SameJournal w'.store w₁.store) ∧
    ∀ (startUtc endUtc chunkSize : ℤ) (w w' : World) (r : Option ℕ × IngestCounts),
      startUtc < endUtc → 0 < chunkSize →
      TradeOpenedOnce (w.broker.log.window startUtc endUtc tradeHistoryTypeFilter) →
      w.store.tradeHistoryEvents = .empty →
      (backfillChunks cfg zone (splitUtcWindow startUtc endUtc chunkSize) none {}).eval
        World.answer w = (.ok r, w') →
      ∃ r₁ w₁, (backfillChunks cfg zone [(startUtc, endUtc)] none {}).eval World.answer w =
        (.ok r₁, w₁) ∧ SameJournal w'.store w₁.store := by
  have hconfluent : ∀ (ts : List Transaction) (batches : List (List Transaction)) (w w' : World)
      (counts : List IngestCounts), (ts.map Transaction.id).Nodup → TradeOpenedOnce ts →
      (∀ t, t ∈ batches.flatten ↔ t ∈ ts) → w.store.tradeHistoryEvents = .empty →
      (each (ingest cfg zone) batches).eval World.answer w = (.ok counts, w') →
      ∃ c w₁, (ingest cfg zone ts).eval World.answer w = (.ok c, w₁) ∧
        SameJournal w'.store w₁.store := by
    intro ts batches w w' counts hids honce hcover hempty hrun
    obtain ⟨h, haccepted⟩ := (Ingested.start hempty).run hids honce
      (fun t ht => (hcover t).mp ht) hrun
    exact h.oneBatch hids honce hempty haccepted fun t => (hcover t).symm
  refine ⟨hconfluent, fun startUtc endUtc chunkSize w w' r hlt hsize honce hempty hrun => ?_⟩
  obtain ⟨counts, hcounts⟩ := backfillChunks_ok hrun
  have hids : ((w.broker.log.window startUtc endUtc tradeHistoryTypeFilter).map
      Transaction.id).Nodup := w.broker.log.nodup_window _ _ _
  obtain ⟨c, w₁, hc, hsame⟩ := hconfluent _ _ w w' counts hids honce (mem_chunks hsize hlt)
    hempty hcounts
  refine ⟨(laterId (maxTransactionId
    (w.broker.log.window startUtc endUtc tradeHistoryTypeFilter)) none, {} + c), w₁, ?_, hsame⟩
  have hfetch : (ask (.fetchTransactionsForWindow startUtc endUtc tradeHistoryTypeFilter)).eval
      World.answer w =
        (.ok (w.broker.log.window startUtc endUtc tradeHistoryTypeFilter), w) := by
    rw [eval_perform, World.answer, if_neg (not_le.mpr hlt)]
  exact (eval_bind_of_ok _ hfetch).trans (eval_bind_of_ok _ hc)

/-- The closing fill delivered before the opening one, and again after it. -/
theorem ingest_confluent_late_opening :
    ∃ c w₁, (ingest sampleConfig "UTC" [openingFill 5 0 "5" 100, closingFill 6 1 "5" 100]).eval
        World.answer (sampleWorld ⟨[], .nil⟩) = (.ok c, w₁) ∧
      SameJournal ((each (ingest sampleConfig "UTC") [[closingFill 6 1 "5" 100],
        [openingFill 5 0 "5" 100], [closingFill 6 1 "5" 100]]).eval World.answer
          (sampleWorld ⟨[], .nil⟩)).2.store w₁.store := by
  have hreturns : ((each (ingest sampleConfig "UTC") [[closingFill 6 1 "5" 100],
      [openingFill 5 0 "5" 100], [closingFill 6 1 "5" 100]]).eval World.answer
        (sampleWorld ⟨[], .nil⟩)).1 =
      .ok [⟨⟨1, 1, 0⟩, ⟨1, 1, 0⟩, 0⟩, ⟨⟨1, 1, 0⟩, ⟨1, 1, 0⟩, 1⟩, ⟨⟨1, 0, 0⟩, ⟨1, 0, 0⟩, 1⟩] := by
    decide +kernel
  have honce : TradeOpenedOnce [openingFill 5 0 "5" 100, closingFill 6 1 "5" 100] := by
    intro t ht u hu opened hopened opened' hopened' tradeId _ _
    simp only [List.mem_cons, List.not_mem_nil, or_false] at ht hu
    rcases ht with rfl | rfl
    · rcases hu with rfl | rfl
      · rfl
      · exact absurd hopened' (by simp [closingFill, sampleFill])
    · exact absurd hopened (by simp [closingFill, sampleFill])
  exact (ingest_confluent sampleConfig "UTC").1 _ _ _ _ _ (by decide) honce
    (fun t => by simp only [List.flatten_cons, List.flatten_nil, List.append_nil,
      List.cons_append, List.nil_append, List.mem_cons, List.not_mem_nil, or_false]; tauto)
    rfl (Prod.ext hreturns rfl)

end OandaV3
