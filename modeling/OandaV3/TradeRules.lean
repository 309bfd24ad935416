import OandaV3.HistoryEval
import OandaV3.PollerMirror
import OandaV3.PollerRules

/-! # What a writer does to one trade

A poller cycle and a history sync, each running alone on a world whose calls do not fail, and what they
do to the record and the events of one trade.  `Tracks` is what is asserted of the trade: `K` of its
record and `V` of the event table, while the broker stays as it is.

* `Tracks.pollOnceSync`: a cycle keeps the assertion when the records it would open, modify or close
  meet `K` (`PollerKeeps`).
* `Tracks.incrementalSync`: a sync keeps it when the record it would project meets `K`, and `V` survives
  the rows of a batch of the log (`SyncKeeps`).

Both hold whether the writer returns or raises. -/

namespace OandaV3

open Interaction Program

/-- What is asserted of one trade while a writer runs. -/
structure Tracks (tradeId : String) (broker : Broker) (V : Table HistoryRow.eventId → Prop)
    (K : Option TradeRecord → Prop) (w : World) : Prop where
  broker : w.broker = broker
  events : V w.store.tradeHistoryEvents
  record : K (w.store.getTrade tradeId)

/-- The records a cycle may write for the trade. -/
structure PollerKeeps (cfg : Config) (tradeId : String) (broker : Broker)
    (K : Option TradeRecord → Prop) : Prop where
  opened : tradeId ∈ broker.openIds → ∀ item ∈ broker.openTrades, item.id = some tradeId →
    ∀ before, K before → (∀ trade, before = some trade → trade.state ≠ .OPEN) →
      ∀ now accountCurrency event notes record,
        openedEvent cfg now accountCurrency tradeId item = .ok event →
          (openedFields event notes).validate = .ok record → K (some record)
  modified : tradeId ∈ broker.openIds → ∀ item ∈ broker.openTrades, item.id = some tradeId →
    ∀ now existing updated, K (some existing) →
      (modifiedFields existing.toTradeFields ⟨tradeId, item.stopLossPrice, item.takeProfitPrice,
        now⟩).validate = .ok updated → K (some updated)
  closed : tradeId ∉ broker.openIds → ∀ before, K (some before) → before.state = .OPEN →
    ∀ existing event pips closed, K (some existing) →
      (closedByPoller cfg existing.toTradeFields event pips).validate = .ok closed → K (some closed)

/-- The records a sync may write for the trade, and the rows it may store. -/
structure SyncKeeps (cfg : Config) (tradeId : String) (broker : Broker)
    (V : Table HistoryRow.eventId → Prop) (K : Option TradeRecord → Prop) : Prop where
  stored : ∀ (table : Table HistoryRow.eventId) (batch : List Transaction), V table →
    (∀ t ∈ batch, t ∈ broker.log.transactions) →
      V (table.insertAll (batch.flatMap (normalizedRows cfg.journalTimezone)))
  projected : ∀ (store : TradeStore) existing record, V store.tradeHistoryEvents → K existing →
    projection cfg tradeId (store.tradeEvents tradeId) existing = .ok (some record) → K (some record)

section

variable {cfg : Config} {tradeId : String} {broker : Broker} {V : Table HistoryRow.eventId → Prop}
  {K : Option TradeRecord → Prop} {w : World} {α : Type}

/-- A world whose calls do not fail, as one of the faulty worlds. -/
abbrev World.alone : Host Call Ans Exn World := World.guarded (fun _ => False) fun _ _ => True

theorem keeps_eval {J : World → Prop} {p : Prog α}
    (h : p.Rg World.alone Eq (fun _ _ => True) (After J J) w) : J (p.eval World.answer w).2 := by
  have hpost := (Program.ends_eval Eq (H := World.alone)
    (fun c s => ⟨trivial, World.faulty_of_answer _ c s⟩) p w).post (fun _ => rfl)
    (fun _ _ _ => Eq.trans) (fun _ _ h => h) h
  cases hr : (p.eval World.answer w).1 with
  | ok a => rw [hr] at hpost; exact hpost
  | error e => rw [hr] at hpost; exact hpost

theorem eval_bind_snd {β : Type} {J : World → Prop} {p : Prog α} {f : α → Prog β}
    (hp : J (p.eval World.answer w).2)
    (hf : ∀ a, (p.eval World.answer w).1 = .ok a →
      J ((f a).eval World.answer (p.eval World.answer w).2).2) :
    J ((p.bind f).eval World.answer w).2 := by
  rw [eval_bind]
  cases hr : p.eval World.answer w with
  | mk r w₁ =>
      rw [hr] at hp hf
      cases r with
      | ok a => exact hf a rfl
      | error e => exact hp

theorem eval_read_snd {β : Type} {J : World → Prop} {c : Call} {f : Ans c → Prog β}
    (hc : c.isRead = true) (h : J w)
    (hf : ∀ a, (World.answer c w).1 = .ok a → J ((f a).eval World.answer w).2) :
    J (((ask c).bind f).eval World.answer w).2 := by
  have hsame : ((ask c).eval World.answer w).2 = w := by
    rw [eval_perform, World.answer_of_isRead hc]
  refine eval_bind_snd (hsame.symm ▸ h) fun a ha => ?_
  rw [eval_perform] at ha
  exact hsame.symm ▸ hf a ha

theorem repair_tradeHistoryEvents :
    ((repairManualMitClosesFromHistory cfg).eval World.answer w).2.store.tradeHistoryEvents =
      w.store.tradeHistoryEvents :=
  keeps_eval (rg_repair_of_trades
    (J := fun t => t.store.tradeHistoryEvents = w.store.tradeHistoryEvents) (fun _ => rfl)
    (fun _ _ ht heq => heq ▸ ht) (fun _ _ ht => ⟨trivial, ht⟩) (fun _ => trivial) rfl)

namespace Tracks

theorem of_eq (w w' : World) (h : Tracks tradeId broker V K w) (heq : w = w') :
    Tracks tradeId broker V K w' := heq ▸ h

theorem upsert_other {record : TradeRecord} (h : Tracks tradeId broker V K w)
    (hne : record.tradeId ≠ tradeId) :
    Tracks tradeId broker V K (w.withStore (w.store.upsertTrade record)) :=
  ⟨h.broker, h.events, by
    rw [World.withStore_store, TradeStore.getTrade_upsertTrade_ne _ hne]; exact h.record⟩

theorem upsert_self {record : TradeRecord} (h : Tracks tradeId broker V K w)
    (hid : record.tradeId = tradeId) (hK : K (some record)) :
    Tracks tradeId broker V K (w.withStore (w.store.upsertTrade record)) :=
  ⟨h.broker, h.events, by
    rw [World.withStore_store, TradeStore.getTrade_upsertTrade_self _ hid]; exact hK⟩

theorem upsert {record : TradeRecord} (h : Tracks tradeId broker V K w)
    (hK : record.tradeId = tradeId → K (some record)) :
    Tracks tradeId broker V K (w.withStore (w.store.upsertTrade record)) := by
  by_cases hid : record.tradeId = tradeId
  · exact h.upsert_self hid (hK hid)
  · exact h.upsert_other hid

/-! ### Syncs -/

section sync

variable (hkeep : SyncKeeps cfg tradeId broker V K)

include hkeep

theorem rg_projectTradeRecord {other : String} (h : Tracks tradeId broker V K w) :
    (projectTradeRecord cfg other).Rg World.alone Eq (fun _ _ => True)
      (After (Tracks tradeId broker V K) (Tracks tradeId broker V K)) w := by
  refine OandaV3.rg_projectTradeRecord
    (E := fun events t => Tracks tradeId broker V K t ∧ events = t.store.tradeEvents other)
    (X := fun events existing t => Tracks tradeId broker V K t ∧
      events = t.store.tradeEvents other ∧ existing = t.store.getTrade other)
    (fun _ => trivial) of_eq (fun _ _ _ ht heq => heq ▸ ht) (fun _ _ _ _ ht heq => heq ▸ ht)
    (fun _ _ ht => ht.1) (fun _ _ _ ht => ht.1) (fun t events ht hanswer => ⟨ht, ?_⟩)
    (fun t events existing ht hanswer => ⟨ht.1, ht.2, ?_⟩)
    (fun t events existing record ht hne hrecord => ⟨trivial, ht.1.upsert fun hid => ?_⟩) h
  · exact (Except.ok.inj (hanswer.resolve_right fun h => h.1)).symm
  · exact (Except.ok.inj (hanswer.resolve_right fun h => h.1)).symm
  · obtain rfl : other = tradeId := (projection_tradeId hrecord).symm.trans hid
    obtain ⟨ht, rfl, rfl⟩ := ht
    exact hkeep.projected t.store _ record ht.events ht.record hrecord

theorem projectTrades {tradeIds : List String} (h : Tracks tradeId broker V K w) :
    Tracks tradeId broker V K
      ((each (projectTradeRecord cfg) tradeIds).eval World.answer w).2 :=
  keeps_eval (rg_each_after (fun _ => rfl) of_eq
    (fun _ _ _ ht => rg_projectTradeRecord hkeep ht) h)

theorem projectTradeRecordsFromEvents (rows : List HistoryRow) (h : Tracks tradeId broker V K w) :
    Tracks tradeId broker V K
      ((OandaV3.projectTradeRecordsFromEvents cfg rows).eval World.answer w).2 :=
  eval_bind_snd (projectTrades hkeep h) fun _ _ => projectTrades hkeep h

theorem repair (h : Tracks tradeId broker V K w) :
    Tracks tradeId broker V K
      ((repairManualMitClosesFromHistory cfg).eval World.answer w).2 :=
  keeps_eval (rg_repairManualMitClosesFromHistory (L := fun _ => Tracks tradeId broker V K)
    (fun _ => rfl) (fun _ => trivial) of_eq (fun _ => of_eq) (fun _ _ ht => ht) (fun _ _ ht _ _ => ht)
    (fun _ _ _ _ ht => rg_repairManualMitClose (D := Tracks tradeId broker V K) (fun _ => trivial)
      of_eq (fun _ _ _ ht _ _ _ _ => ht) (fun _ ht => rg_projectTradeRecord hkeep ht) ht) h)

theorem ingest {transactions : List Transaction} (h : Tracks tradeId broker V K w)
    (hbatch : ∀ t ∈ transactions, t ∈ broker.log.transactions) :
    Tracks tradeId broker V K
      ((OandaV3.ingest cfg cfg.journalTimezone transactions).eval World.answer w).2 := by
  obtain ⟨_, hraw⟩ := storeRaw_eval (w := w) transactions
  have htracks : Tracks tradeId broker V K
      (w.withStore (w.store.upsertRawTransactions transactions).2) := by
    rw [TradeStore.upsertRawTransactions_table]
    exact ⟨h.broker, h.events, h.record⟩
  refine eval_bind_snd (by rw [hraw]; exact htracks) fun _ _ => ?_
  rw [hraw]
  refine eval_bind_snd (by rw [eval_ofExcept]; exact htracks) fun rows hrows => ?_
  rw [eval_ofExcept] at hrows ⊢
  obtain ⟨rfl, -⟩ := normalizeTransactions_ok.mp hrows
  obtain ⟨_, hevents⟩ := storeRows_eval
    (w := w.withStore (w.store.upsertRawTransactions transactions).2)
    (transactions.flatMap (normalizedRows cfg.journalTimezone))
  have hstored : Tracks tradeId broker V K (w.withStore (storeBatch w.store transactions
      (transactions.flatMap (normalizedRows cfg.journalTimezone)))) :=
    ⟨h.broker, hkeep.stored _ _ h.events hbatch, h.record⟩
  rw [World.withStore_store, storeBatch_eq] at hevents
  refine eval_bind_snd (by rw [hevents]; exact hstored) fun _ _ => ?_
  rw [hevents]
  have hprojected := projectTradeRecordsFromEvents hkeep
    (transactions.flatMap (normalizedRows cfg.journalTimezone)) hstored
  have hrepaired := repair hkeep hprojected
  refine eval_bind_snd hprojected fun _ _ => eval_bind_snd hrepaired fun _ _ => ?_
  rw [eval_pure]
  exact hrepaired

theorem incrementalSync (h : Tracks tradeId broker V K w) :
    Tracks tradeId broker V K ((OandaV3.incrementalSync cfg).eval World.answer w).2 := by
  have hwrite : ∀ (w : World) (x : Except Exn TradeHistorySyncState) (report : SyncReport),
      Tracks tradeId broker V K w → Tracks tradeId broker V K (((Program.ofExcept x).bind fun next =>
        (ask (.upsertTradeHistorySyncState next)).bind fun _ => Program.done report).eval
          World.answer w).2 := by
    intro w x report hw
    refine eval_bind_snd (by rw [eval_ofExcept]; exact hw) fun next _ => ?_
    rw [eval_ofExcept]
    exact ⟨hw.broker, hw.events, hw.record⟩
  refine eval_read_snd rfl h fun state _ => ?_
  cases state with
  | none =>
      refine eval_read_snd rfl h fun nowUtc _ => ?_
      refine eval_read_snd rfl h fun account _ => ?_
      cases account.lastTransactionID with
      | none => exact h
      | some last => exact hwrite w _ _ h
  | some state =>
      refine eval_read_snd rfl h fun nowUtc _ => ?_
      refine eval_read_snd rfl h fun fetched hfetched => ?_
      have hbatch : ∀ t ∈ fetched.1, t ∈ broker.log.transactions := by
        intro t ht
        simp only [World.answer] at hfetched
        split at hfetched
        · obtain rfl := Except.ok.inj hfetched
          exact h.broker ▸ (TransactionLog.mem_since.mp ht).1
        · cases hfetched
      have hingest := h.ingest hkeep hbatch
      exact eval_bind_snd hingest fun counts _ => hwrite _ _ _ hingest

end sync

/-! ### Poller cycles -/

/-- The trade's open records when the journal is read. -/
def Read (tradeId : String) (K : Option TradeRecord → Prop) (existingOpen : List TradeRecord) :
    Prop :=
  ∃ before, K before ∧ ∀ trade,
    (trade ∈ existingOpen ∧ trade.tradeId = tradeId) ↔ before = some trade ∧ trade.state = .OPEN

theorem read (h : Tracks tradeId broker V K w) : Read tradeId K w.store.listOpenTrades := by
  refine ⟨_, h.record, fun trade => ⟨?_, ?_⟩⟩
  · rintro ⟨htrade, rfl⟩
    exact TradeStore.mem_listOpenTrades.mp htrade
  · rintro ⟨hget, hopen⟩
    obtain rfl := TradeStore.getTrade_tradeId hget
    exact ⟨TradeStore.mem_listOpenTrades.mpr ⟨hget, hopen⟩, rfl⟩

section poller

variable {existingOpen : List TradeRecord} {current : List (String × OpenTrade)}
  (hkeep : PollerKeeps cfg tradeId broker K)
  (hcurrent : currentById broker.openTrades = .ok current)

include hkeep hcurrent

theorem rg_pollCurrent {now : Instant} {accountCurrency : String} {entry : String × OpenTrade}
    (hentry : entry ∈ current) (hread : Read tradeId K existingOpen)
    (h : Tracks tradeId broker V K w) :
    (pollCurrent cfg now accountCurrency existingOpen entry).Rg World.alone Eq (fun _ _ => True)
      (After (Tracks tradeId broker V K) (Tracks tradeId broker V K)) w := by
  obtain ⟨hitem, hid⟩ := mem_currentById hcurrent hentry
  have hlisted : entry.1 ∈ broker.openIds :=
    ((currentById_ok hcurrent).2 entry.1).mp (List.mem_map_of_mem hentry)
  refine OandaV3.rg_pollCurrent
    (X := fun existing t => Tracks tradeId broker V K t ∧ t.store.getTrade entry.1 = some existing)
    (fun _ => rfl) (fun _ => trivial) of_eq (fun _ _ _ ht heq => heq ▸ ht) (fun _ _ ht => ht.1)
    (fun _ _ ht hget => ⟨ht, hget⟩)
    (fun hfind event hevent t notes record ht hrecord => ⟨trivial, ht.upsert fun hself => ?_⟩)
    (fun _ t existing updated ht hupdated => ⟨trivial, ht.1.upsert fun hself => ?_⟩) h
  · obtain rfl : entry.1 = tradeId :=
      (openedEvent_ok hevent).1.symm.trans ((openedFields_ok hrecord).1.symm.trans hself)
    obtain ⟨before, hbefore, hopen⟩ := hread
    refine hkeep.opened hlisted entry.2 hitem hid before hbefore (fun trade htrade hstate => ?_)
      now accountCurrency event notes record hevent hrecord
    obtain ⟨hmem, hsame⟩ := (hopen trade).mpr ⟨htrade, hstate⟩
    exact absurd (beq_iff_eq.mpr hsame) (List.find?_eq_none.mp hfind trade hmem)
  · obtain rfl : entry.1 = tradeId :=
      (TradeStore.getTrade_tradeId ht.2).symm.trans ((modifiedFields_ok hupdated).1.symm.trans hself)
    exact hkeep.modified hlisted entry.2 hitem hid now existing updated (ht.2 ▸ ht.1.record) hupdated

theorem rg_pollExisting {now : Instant} {accountCurrency : String} {existing : TradeRecord}
    (hexisting : existing ∈ existingOpen) (hread : Read tradeId K existingOpen)
    (h : Tracks tradeId broker V K w) :
    (pollExisting cfg now accountCurrency current existing).Rg World.alone Eq (fun _ _ => True)
      (After (Tracks tradeId broker V K) (Tracks tradeId broker V K)) w := by
  by_cases hany : current.any (fun entry => entry.1 == existing.tradeId) = true
  · unfold pollExisting
    rw [if_pos hany]
    rintro t rfl
    exact h
  have hmissing : existing.tradeId ∉ broker.openIds := by
    rw [Broker.openIds, ← (currentById_ok hcurrent).2]
    simpa using hany
  refine OandaV3.rg_pollExisting (D := Tracks tradeId broker V K)
    (X := fun existing' t => Tracks tradeId broker V K t ∧
      t.store.getTrade existing.tradeId = some existing')
    (fun _ => rfl) (fun _ => trivial) of_eq of_eq (fun _ ht => ht) (fun _ _ _ ht heq => heq ▸ ht)
    (fun _ _ ht => ht.1) (fun _ _ ht _ => ht) (fun _ _ ht hget => ⟨ht, hget⟩)
    (fun _ _ event _ t existing' pips closed ht hclosed => ⟨trivial, ht.1.upsert fun hself => ?_⟩) h
  obtain rfl : existing.tradeId = tradeId :=
    (TradeStore.getTrade_tradeId ht.2).symm.trans ((closedByPoller_ok hclosed).1.symm.trans hself)
  obtain ⟨before, hbefore, hopen⟩ := hread
  obtain ⟨rfl, hstate⟩ := (hopen existing).mp ⟨hexisting, rfl⟩
  exact hkeep.closed hmissing existing hbefore hstate existing' event pips closed
    (ht.2 ▸ ht.1.record) hclosed

end poller

theorem pollOnceSync (hkeep : PollerKeeps cfg tradeId broker K) (h : Tracks tradeId broker V K w) :
    Tracks tradeId broker V K ((OandaV3.pollOnceSync cfg).eval World.answer w).2 := by
  refine keeps_eval (OandaV3.rg_pollOnceSync
    (L := fun current t => Tracks tradeId broker V K t ∧ currentById broker.openTrades = .ok current)
    (M := fun current existingOpen t => Tracks tradeId broker V K t ∧
      currentById broker.openTrades = .ok current ∧ Read tradeId K existingOpen)
    (fun _ => rfl) (fun _ => trivial) of_eq (fun _ _ _ ht heq => heq ▸ ht)
    (fun _ _ _ _ ht heq => heq ▸ ht) (fun _ ht => ht) (fun _ _ ht => ht.1) (fun _ _ _ ht => ht.1)
    (fun t current ht _ hcurrent => ⟨ht, ht.broker ▸ hcurrent⟩)
    (fun t current existingOpen ht _ hanswer => ⟨ht.1, ht.2, ?_⟩)
    (fun now accountCurrency current existingOpen entry hentry t ht => ?_)
    (fun now accountCurrency current existingOpen existing hexisting t ht => ?_) h)
  · obtain rfl : t.store.listOpenTrades = existingOpen :=
      Except.ok.inj (hanswer.resolve_right fun h => h.1)
    exact ht.1.read
  · exact (rg_pollCurrent hkeep ht.2.1 hentry ht.2.2 ht.1).mono fun r _ hr => by
      cases r <;> exact ⟨hr, ht.2⟩
  · exact (rg_pollExisting hkeep ht.2.1 hexisting ht.2.2 ht.1).mono fun r _ hr => by
      cases r <;> exact ⟨hr, ht.2⟩

end Tracks

end

end OandaV3
