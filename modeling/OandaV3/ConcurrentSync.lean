import OandaV3.PollerRules

/-! # Concurrent syncs

`sync_trade_history` runs `incremental_sync` under the runtime's state lock; `get_trade_history` and
`get_trade_stats` run it again without the lock.  A sync reads the
watermark, asks the broker for what is newer, and writes the id the broker named, without looking at
the watermark again.

A sync that fetched early and writes late lowers the watermark another one has written
(`concurrentSyncs_lowered`).  When the syncs write in the order in which they fetched
(`WritesInFetchOrder`), no step lowers it (`concurrentSyncs_monotone`). -/

namespace OandaV3

open Interaction Program

inductive SyncCaller where
  | syncTradeHistory
  | trySyncForRead
deriving DecidableEq, Repr

def SyncCaller.run (cfg : Config) : SyncCaller → Prog SyncReport
  | .syncTradeHistory => OandaV3.syncTradeHistory cfg
  | .trySyncForRead => incrementalSync cfg

/-! ### What a sync fetches and writes -/

/-- The requests whose answer names the newest id of the account. -/
def Call.isFetch : Call → Bool
  | .getAccountDetails | .fetchTransactionsSince _ _ => true
  | _ => false

def Call.writtenId : Call → Option ℕ
  | .upsertTradeHistorySyncState state => some state.lastTransactionId
  | _ => none

/-- The newest id an answer names. -/
def fetchedId : (c : Call) → Except Exn (Ans c) → Option ℕ
  | .getAccountDetails, .ok account => account.lastTransactionID
  | .fetchTransactionsSince _ _, .ok fetched => fetched.2
  | _, _ => none

/-- A call that neither fetches nor writes the watermark. -/
def Call.Quiet (c : Call) : Prop := c.isFetch = false ∧ c.writtenId = none

/-- A call after a fetch that named `id`: no fetch, and no other id is written. -/
def Call.AfterFetch (id : Option ℕ) (c : Call) : Prop :=
  c.isFetch = false ∧ ∀ written, c.writtenId = some written → id = some written

/-- A program that writes the watermark only after one fetch, and then the fetched id. -/
def Unfetched {α : Type} : Prog α → Prop
  | .done _ => True
  | .raise _ => True
  | .call c k =>
      if c.isFetch then ∀ r, (k r).Calls (Call.AfterFetch (fetchedId c r))
      else c.Quiet ∧ ∀ r, Unfetched (k r)

section

variable {cfg : Config} {α β : Type}

theorem Call.not_isFetch {c : Call} {id : ℕ} (h : c.writtenId = some id) : c.isFetch = false := by
  cases c <;> first | rfl | cases h

theorem Call.Quiet.afterFetch {c : Call} (h : c.Quiet) (id : Option ℕ) : c.AfterFetch id :=
  ⟨h.1, fun written hwritten => by rw [h.2] at hwritten; cases hwritten⟩

theorem unfetched_of_quiet {p : Prog α} (h : p.Calls Call.Quiet) : Unfetched p := by
  induction p with
  | done a => trivial
  | raise e => trivial
  | call c k ih =>
      rw [Unfetched, h.1.1]
      exact ⟨h.1, fun r => ih r (h.2 r)⟩

/-- Quiet programs may follow. -/
theorem unfetched_bind {p : Prog α} {f : α → Prog β} (hp : Unfetched p)
    (hf : ∀ a, (f a).Calls Call.Quiet) : Unfetched (p.bind f) := by
  induction p with
  | done a => exact unfetched_of_quiet (hf a)
  | raise e => trivial
  | call c k ih =>
      rw [Unfetched] at hp
      rw [Program.bind, Unfetched]
      split_ifs at hp ⊢
      · exact fun r => calls_bind (hp r) fun a => (hf a).mono fun c hc => hc.afterFetch _
      · exact ⟨hp.1, fun r => ih r (hp.2 r)⟩

theorem unfetched_attempt {p : Prog α} (hp : Unfetched p) : Unfetched p.attempt := by
  induction p with
  | done a => trivial
  | raise e => trivial
  | call c k ih =>
      rw [Unfetched] at hp
      rw [Program.attempt, Unfetched]
      split_ifs at hp ⊢
      · exact fun r => calls_attempt (hp r)
      · exact ⟨hp.1, fun r => ih r (hp.2 r)⟩

theorem quiet_ingest (zone : String) (transactions : List Transaction) :
    (ingest cfg zone transactions).Calls Call.Quiet :=
  calls_ingest (fun c hc => by cases c <;> first | exact ⟨rfl, rfl⟩ | cases hc) ⟨rfl, rfl⟩
    fun _ _ => ⟨rfl, rfl⟩

theorem afterFetch_write {accountId : String} {id : ℕ} {nowUtc : Instant}
    {f : TradeHistorySyncState → Unit → Prog β}
    (hf : ∀ state answer, (f state answer).Calls (Call.AfterFetch (some id))) :
    ((Program.ofExcept (syncState accountId id nowUtc)).bind fun state =>
      (ask (.upsertTradeHistorySyncState state)).bind (f state)).Calls
        (Call.AfterFetch (some id)) := by
  cases hstate : syncState accountId id nowUtc with
  | error e => trivial
  | ok state =>
      have hwrite : Call.AfterFetch (some id) (.upsertTradeHistorySyncState state) :=
        ⟨rfl, fun written hwritten => by rw [← (syncState_ok hstate).2]; exact hwritten⟩
      exact calls_bind (p := ask (.upsertTradeHistorySyncState state)) (calls_perform hwrite) (hf state)

theorem unfetched_initializeSync {accountId : String} {nowUtc : Instant} :
    Unfetched (initializeSync accountId nowUtc) := by
  intro r
  cases r with
  | error e => trivial
  | ok account =>
      obtain ⟨id, last⟩ := account
      cases last with
      | none => trivial
      | some last => exact afterFetch_write fun _ _ => trivial

theorem unfetched_continueSync {state : TradeHistorySyncState} {nowUtc : Instant} :
    Unfetched (continueSync cfg state nowUtc) := by
  intro r
  cases r with
  | error e => trivial
  | ok fetched =>
      exact calls_bind (p := ingest cfg cfg.journalTimezone fetched.1)
        ((quiet_ingest _ _).mono fun c hc => hc.afterFetch _) fun _ =>
          afterFetch_write fun _ _ => trivial

theorem unfetched_incrementalSync : Unfetched (incrementalSync cfg) := by
  refine ⟨⟨rfl, rfl⟩, fun r => ?_⟩
  cases r with
  | error e => trivial
  | ok state =>
      refine ⟨⟨rfl, rfl⟩, fun r => ?_⟩
      cases r with
      | error e => trivial
      | ok nowUtc =>
          cases state with
          | none => exact unfetched_initializeSync
          | some state => exact unfetched_continueSync

theorem unfetched_run (caller : SyncCaller) : Unfetched (caller.run cfg) := by
  cases caller with
  | trySyncForRead => exact unfetched_incrementalSync
  | syncTradeHistory =>
      refine ⟨⟨rfl, rfl⟩, fun r => ?_⟩
      cases r with
      | error e => trivial
      | ok _ =>
          exact unfetched_bind (p := (incrementalSync cfg).attempt)
            (unfetched_attempt unfetched_incrementalSync) fun result =>
              calls_bind (p := ask .releaseStateLock) (calls_perform ⟨rfl, rfl⟩) fun _ =>
                calls_ofExcept

end

/-! ### Interleavings -/

section

variable {ι : Type} {cfg : Config} {lossy : Call → Prop} {accountId : String} {w w₀ w' : World}
  {tr : List (Event Call Ans Exn World ι)}

def Call.writesWatermark (accountId : String) : Call → Bool
  | .upsertTradeHistorySyncState state => state.accountId == accountId
  | _ => false

/-- The log the first thread fetched from is no longer than the log the second one fetched from. -/
def FetchedNoLater (tr : List (Event Call Ans Exn World ι)) (i j : ι) : Prop :=
  ∀ f ∈ tr, f.thread = i → f.call.isFetch = true →
    ∀ f' ∈ tr, f'.thread = j → f'.call.isFetch = true → f.pre.broker.log.Grows f'.pre.broker.log

/-- No sync writes the watermark after a sync that fetched from a longer log has written it. -/
def WritesInFetchOrder (accountId : String) (tr : List (Event Call Ans Exn World ι)) : Prop :=
  tr.Pairwise fun e e' => e.call.writesWatermark accountId = true →
    e'.call.writesWatermark accountId = true → FetchedNoLater tr e.thread e'.thread

/-- The step does not lower the watermark. -/
def KeepsWatermark (accountId : String) (w w' : World) : Prop :=
  ∀ before, w.store.watermark accountId = some before →
    ∃ after, w'.store.watermark accountId = some after ∧ before ≤ after

def ConcurrentSyncs [DecidableEq ι] (cfg : Config) (lossy : Call → Prop) (callers : ι → SyncCaller)
    (w₀ : World) (tr : List (Event Call Ans Exn World ι)) (pool : ι → Prog SyncReport)
    (w : World) : Prop :=
  Run (World.guarded lossy World.enabled) World.Grows (fun i => (callers i).run cfg) w₀ tr pool w

theorem faulty_broker {c : Call} {r : Except Exn (Ans c)}
    (h : (World.faulty lossy).step c w r w') : w'.broker = w.broker := by
  rcases World.faulty_post h with rfl | h
  · exact World.answer_broker c w
  · cases c with
    | upsertRawTransactions transactions => obtain ⟨stored, -, rfl⟩ := h; rfl
    | upsertTradeHistoryEvents rows => obtain ⟨stored, -, rfl⟩ := h; rfl
    | _ => exact congrArg World.broker h

/-- Only a write of the watermark changes it. -/
theorem faulty_sync {c : Call} {r : Except Exn (Ans c)} (hc : c.writtenId = none)
    (h : (World.faulty lossy).step c w r w') :
    w'.store.tradeHistorySync = w.store.tradeHistorySync := by
  rcases World.faulty_post h with rfl | h
  · cases c with
    | upsertTradeHistorySyncState state => cases hc
    | _ => rfl
  · cases c with
    | upsertRawTransactions transactions => obtain ⟨stored, -, rfl⟩ := h; rfl
    | upsertTradeHistoryEvents rows => obtain ⟨stored, -, rfl⟩ := h; rfl
    | _ => exact congrArg (fun t : World => t.store.tradeHistorySync) h

theorem faulty_write {state : TradeHistorySyncState}
    {r : Except Exn (Ans (.upsertTradeHistorySyncState state))}
    (h : (World.faulty lossy).step (.upsertTradeHistorySyncState state) w r w') :
    w' = w ∨ w' = w.withStore (w.store.upsertTradeHistorySyncState state) :=
  (World.faulty_post h).symm

/-- The fetched id is the newest of the log. -/
theorem faulty_fetchedId {c : Call} {r : Except Exn (Ans c)} {id : ℕ}
    (h : (World.faulty lossy).step c w r w') (hid : fetchedId c r = some id) :
    c.isFetch = true ∧ w.broker.log.lastTransactionID = some id := by
  cases r with
  | error e => cases c <;> cases hid
  | ok a =>
      rcases h with h | ⟨-, ⟨e, he⟩, -⟩ | ⟨-, ⟨a', ha', -⟩, -⟩
      · have hanswer : (World.answer c w).1 = .ok a := congrArg Prod.fst h
        cases c with
        | getAccountDetails =>
            obtain rfl := Except.ok.inj hanswer
            exact ⟨rfl, hid⟩
        | fetchTransactionsSince last typeFilter =>
            simp only [World.answer] at hanswer
            split at hanswer
            · rename_i last' hlast
              obtain rfl := Except.ok.inj hanswer
              exact ⟨rfl, hlast.trans hid⟩
            · cases hanswer
        | _ => cases hid
      · cases he
      · cases c <;> first | (cases ha'; done) | cases hid

/-! ### The invariant of concurrent syncs -/

/-- A thread has not fetched yet, or it has and writes what it fetched. -/
def SyncThread (tr : List (Event Call Ans Exn World ι)) (i : ι) (p : Prog SyncReport) : Prop :=
  (Unfetched p ∧ ∀ e ∈ tr, e.thread = i → e.call.writtenId = none) ∨
    ∃ id, p.Calls (Call.AfterFetch id) ∧
      (∃ f ∈ tr, f.thread = i ∧ f.call.isFetch = true ∧ fetchedId f.call f.answer = id) ∧
      ∀ e ∈ tr, e.thread = i → ∀ written, e.call.writtenId = some written → id = some written

/-- What holds in every configuration that concurrent syncs reach. -/
structure SyncInvariant (accountId : String) (w₀ : World) (tr : List (Event Call Ans Exn World ι))
    (pool : ι → Prog SyncReport) (w : World) : Prop where
  thread : ∀ i, SyncThread tr i (pool i)
  fetched : ∀ f ∈ tr, ∀ id, fetchedId f.call f.answer = some id →
    f.pre.broker.log.lastTransactionID = some id ∧ w₀.broker.log.Grows f.pre.broker.log
  origin : ∀ id, w.store.watermark accountId = some id →
    w₀.store.watermark accountId = some id ∨
      ∃ e ∈ tr, e.call.writesWatermark accountId = true ∧ e.call.writtenId = some id
  log : w₀.broker.log.Grows w.broker.log

theorem SyncThread.other {p : Prog SyncReport} {e : Event Call Ans Exn World ι} {i : ι}
    (h : SyncThread tr i p) (hne : e.thread ≠ i) : SyncThread (tr ++ [e]) i p := by
  have hold : ∀ e' ∈ tr ++ [e], e'.thread = i → e' ∈ tr := fun e' he' hi =>
    (List.mem_append.mp he').resolve_right fun h => hne (List.mem_singleton.mp h ▸ hi)
  rcases h with ⟨hp, hquiet⟩ | ⟨id, hp, ⟨f, hf, hfetch⟩, hwrites⟩
  · exact Or.inl ⟨hp, fun e' he' hi => hquiet e' (hold e' he' hi) hi⟩
  · exact Or.inr ⟨id, hp, ⟨f, List.mem_append_left _ hf, hfetch⟩,
      fun e' he' hi => hwrites e' (hold e' he' hi) hi⟩

/-- A call of a thread: it is a fetch, or a quiet call, or it comes after the fetch. -/
theorem SyncThread.step {i : ι} {c : Call} {k : Except Exn (Ans c) → Prog SyncReport}
    {r : Except Exn (Ans c)} (h : SyncThread tr i (.call c k)) :
    SyncThread (tr ++ [⟨i, c, r, w, w'⟩]) i (k r) := by
  rcases h with ⟨hp, hquiet⟩ | ⟨id, hp, ⟨f, hf, hfetch⟩, hwrites⟩
  · rw [Unfetched] at hp
    split_ifs at hp with hc
    · refine Or.inr ⟨_, hp r, ⟨_, List.mem_append_right _ List.mem_cons_self, rfl, hc, rfl⟩, ?_⟩
      intro e he hi written hwritten
      rcases List.mem_append.mp he with he | he
      · rw [hquiet e he hi] at hwritten
        cases hwritten
      · obtain rfl := List.mem_singleton.mp he
        cases (Call.not_isFetch hwritten).symm.trans hc
    · refine Or.inl ⟨hp.2 r, fun e he hi => ?_⟩
      rcases List.mem_append.mp he with he | he
      · exact hquiet e he hi
      · obtain rfl := List.mem_singleton.mp he
        exact hp.1.2
  · refine Or.inr ⟨id, hp.2 r, ⟨f, List.mem_append_left _ hf, hfetch⟩, fun e he hi => ?_⟩
    rcases List.mem_append.mp he with he | he
    · exact hwrites e he hi
    · obtain rfl := List.mem_singleton.mp he
      exact hp.1.2

/-- The watermark after a call: as before, or the one the call wrote. -/
theorem faulty_watermark (accountId : String) {c : Call} {r : Except Exn (Ans c)}
    (h : (World.faulty lossy).step c w r w') :
    w'.store.watermark accountId = w.store.watermark accountId ∨
      (c.writesWatermark accountId = true ∧ ∃ id, c.writtenId = some id ∧
        w'.store.watermark accountId = some id) := by
  cases hwritten : c.writtenId with
  | none => exact Or.inl (TradeStore.watermark_of_eq (faulty_sync hwritten h) accountId)
  | some id =>
      cases c with
      | upsertTradeHistorySyncState state =>
          obtain rfl := Option.some.inj hwritten
          rcases faulty_write h with rfl | rfl
          · exact Or.inl rfl
          · rw [World.withStore_store, TradeStore.watermark_upsert]
            split_ifs with hid
            · exact Or.inr ⟨beq_iff_eq.mpr hid, _, rfl, rfl⟩
            · exact Or.inl rfl
      | _ => cases hwritten

/-- One write in fetch order: what it replaces came from a fetch of a log that is no longer. -/
theorem SyncInvariant.keepsWatermark (h : SyncInvariant accountId w₀ tr pool w) {i : ι} {c : Call}
    {k : Except Exn (Ans c) → Prog SyncReport} {r : Except Exn (Ans c)}
    (hfirst : ∀ first, w₀.store.watermark accountId = some first →
      ∃ t ∈ w₀.broker.log.transactions, first ≤ t.id)
    (hi : pool i = .call c k) (hstep : (World.faulty lossy).step c w r w')
    (horder : c.writesWatermark accountId = true → ∀ e ∈ tr,
      e.call.writesWatermark accountId = true → FetchedNoLater tr e.thread i) :
    KeepsWatermark accountId w w' := by
  intro before hbefore
  rcases faulty_watermark accountId hstep with hsame | ⟨hwrites, id, hid, hnew⟩
  · exact ⟨before, hsame.trans hbefore, le_refl _⟩
  refine ⟨id, hnew, ?_⟩
  -- this thread has fetched, and named `id`
  obtain ⟨f, hf, hthread, hfetch, hfid⟩ : ∃ f ∈ tr, f.thread = i ∧ f.call.isFetch = true ∧
      fetchedId f.call f.answer = some id := by
    rcases hi ▸ h.thread i with ⟨hp, -⟩ | ⟨id', hp, ⟨f, hf, hthread, hfetch, hfid⟩, -⟩
    · rw [Unfetched, Call.not_isFetch hid] at hp
      cases hp.1.2.symm.trans hid
    · exact ⟨f, hf, hthread, hfetch, hfid.trans (hp.1.2 id hid)⟩
  obtain ⟨hlast, hgrows⟩ := h.fetched f hf id hfid
  rcases h.origin before hbefore with hstart | ⟨e, he, hewrites, hewritten⟩
  · obtain ⟨t, ht, hle⟩ := hfirst before hstart
    exact hle.trans (TransactionLog.id_le_last hlast (hgrows.mem ht))
  · -- so has the thread that wrote `before`
    rcases h.thread e.thread with ⟨-, hquiet⟩ | ⟨id', -, ⟨f', hf', hthread', hfetch', hfid'⟩, hwrote⟩
    · rw [hquiet e he rfl] at hewritten
      cases hewritten
    · rw [hwrote e he rfl before hewritten] at hfid'
      exact (horder hwrites e he hewrites f' hf' hthread' hfetch' f hf hthread hfetch).last_le
        (h.fetched f' hf' before hfid').1 hlast

variable [DecidableEq ι] {callers : ι → SyncCaller} {pool : ι → Prog SyncReport}

theorem concurrentSyncs_invariant (h : ConcurrentSyncs cfg lossy callers w₀ tr pool w) :
    SyncInvariant accountId w₀ tr pool w := by
  induction h with
  | start =>
      exact ⟨fun i => Or.inl ⟨unfetched_run (callers i), fun e he => nomatch he⟩,
        fun f hf => (nomatch hf), fun id hid => Or.inl hid, .refl _⟩
  | env _ hgrows ih =>
      refine ⟨ih.thread, ih.fetched, fun id hid => ih.origin id ?_, ih.log.trans hgrows.log⟩
      rwa [hgrows.store] at hid
  | @call tr pool w w' i c k r _ hi hstep ih =>
      refine ⟨fun j => ?_, fun f hf id hid => ?_, fun id hid => ?_, ?_⟩
      · by_cases hj : j = i
        · subst hj
          rw [Function.update_self]
          exact (hi ▸ ih.thread j).step
        · rw [Function.update_of_ne hj]
          exact (ih.thread j).other (Ne.symm hj)
      · rcases List.mem_append.mp hf with hf | hf
        · exact ih.fetched f hf id hid
        · obtain rfl := List.mem_singleton.mp hf
          exact ⟨(faulty_fetchedId hstep.2 hid).2, ih.log⟩
      · rcases faulty_watermark accountId hstep.2 with hsame | ⟨hwrites, id', hid', hnew⟩
        · refine (ih.origin id (hsame ▸ hid)).imp_right fun ⟨e, he, hwrite⟩ => ?_
          exact ⟨e, List.mem_append_left _ he, hwrite⟩
        · obtain rfl := Option.some.inj (hnew.symm.trans hid)
          exact Or.inr ⟨_, List.mem_append_right _ List.mem_cons_self, hwrites, hid'⟩
      · rw [faulty_broker hstep.2]
        exact ih.log

end

/-- **Concurrent syncs.**  When no sync writes the watermark after a sync that fetched from a longer
log has written it, no step of any number of concurrent syncs lowers the watermark. -/
theorem concurrentSyncs_monotone {ι : Type} [DecidableEq ι] (cfg : Config) (lossy : Call → Prop)
    (callers : ι → SyncCaller) (accountId : String) (w₀ : World)
    (hfirst : ∀ first, w₀.store.watermark accountId = some first →
      ∃ t ∈ w₀.broker.log.transactions, first ≤ t.id)
    (tr : List (Event Call Ans Exn World ι)) (pool : ι → Prog SyncReport) (w : World)
    (hrun : ConcurrentSyncs cfg lossy callers w₀ tr pool w) (horder : WritesInFetchOrder accountId tr) :
    ∀ e ∈ tr, KeepsWatermark accountId e.pre e.post := by
  induction hrun with
  | start => exact fun e he => nomatch he
  | env _ _ ih => exact ih horder
  | @call tr pool w w' i c k r hrun hi hstep ih =>
      obtain ⟨hbefore, -, hlast⟩ := List.pairwise_append.mp horder
      have hsub : ∀ {j j' : ι}, FetchedNoLater (tr ++ [⟨i, c, r, w, w'⟩]) j j' →
          FetchedNoLater tr j j' := fun h f hf hj hfetch f' hf' =>
        h f (List.mem_append_left _ hf) hj hfetch f' (List.mem_append_left _ hf')
      intro e he
      rcases List.mem_append.mp he with he | he
      · exact ih (hbefore.imp fun h hw hw' => hsub (h hw hw')) e he
      · obtain rfl := List.mem_singleton.mp he
        exact (concurrentSyncs_invariant hrun).keepsWatermark hfirst hi hstep.2 fun hwrites e' he' hwrites' =>
          hsub (hlast e' he' _ List.mem_cons_self hwrites' hwrites)

/-! ### Two syncs on the sample account -/

instance {ι : Type} [DecidableEq ι] (tr : List (Event Call Ans Exn World ι)) (i j : ι) :
    Decidable (FetchedNoLater tr i j) :=
  inferInstanceAs (Decidable (∀ f ∈ tr, _ → _ → ∀ f' ∈ tr, _ → _ → _))

instance {ι : Type} [DecidableEq ι] (accountId : String) (tr : List (Event Call Ans Exn World ι)) :
    Decidable (WritesInFetchOrder accountId tr) :=
  inferInstanceAs (Decidable (tr.Pairwise fun _ _ => _ → _ → _))

/-- `sync_trade_history` and a sync before a read, at the same time. -/
def twoCallers (locked : Bool) : SyncCaller := if locked then .syncTradeHistory else .trySyncForRead

/-- The sync without the lock fetches (four calls), ... -/
def earlyFetch :=
  Run.schedule World.answer (List.replicate 4 false) (fun b => (twoCallers b).run sampleConfig)
    (watermarkedWorld oneFill 1)

/-- ... a trade is opened, the locked sync runs (twelve calls), and the first one writes. -/
def lateWrite :=
  Run.schedule World.answer (List.replicate 12 true ++ [false]) earlyFetch.2.1
    (earlyFetch.2.2.withLog twoFills)

theorem concurrentSyncs_lateWrite : ConcurrentSyncs sampleConfig (fun _ => False) twoCallers
    (watermarkedWorld oneFill 1) (earlyFetch.1 ++ lateWrite.1) lateWrite.2.1 lateWrite.2.2 := by
  have hfetch := World.run_of_schedule (fun _ => False) World.Grows (List.replicate 4 false)
    (fun b => (twoCallers b).run sampleConfig) (watermarkedWorld oneFill 1) (by decide +kernel)
  have hgrows : earlyFetch.2.2.Grows (earlyFetch.2.2.withLog twoFills) :=
    .withLog (by decide +kernel)
  exact (hfetch.env hgrows).append (World.run_of_schedule _ _ _ _ _ (by decide +kernel))

/-- The sync that fetched first writes last, and lowers the watermark from 2 to 1. -/
theorem concurrentSyncs_lowered :
    ¬ ∀ tr pool w, ConcurrentSyncs sampleConfig (fun _ => False) twoCallers
      (watermarkedWorld oneFill 1) tr pool w → ∀ e ∈ tr, KeepsWatermark "001" e.pre e.post := by
  intro h
  have hlast : ∃ e ∈ earlyFetch.1 ++ lateWrite.1, e.pre.store.watermark "001" = some 2 ∧
      e.post.store.watermark "001" = some 1 := by decide +kernel
  obtain ⟨e, he, hpre, hpost⟩ := hlast
  obtain ⟨after, hafter, hle⟩ := h _ _ _ concurrentSyncs_lateWrite e he 2 hpre
  obtain rfl := Option.some.inj (hpost.symm.trans hafter)
  omega

/-- The first sync runs to its end, the same trade is opened, and the second one runs. -/
def firstSync :=
  Run.schedule World.answer (List.replicate 5 false) (fun b => (twoCallers b).run sampleConfig)
    (watermarkedWorld oneFill 1)

def secondSync :=
  Run.schedule World.answer (List.replicate 12 true) firstSync.2.1 (firstSync.2.2.withLog twoFills)

theorem concurrentSyncs_secondSync : ConcurrentSyncs sampleConfig (fun _ => False) twoCallers
    (watermarkedWorld oneFill 1) (firstSync.1 ++ secondSync.1) secondSync.2.1 secondSync.2.2 := by
  have hfirst := World.run_of_schedule (fun _ => False) World.Grows (List.replicate 5 false)
    (fun b => (twoCallers b).run sampleConfig) (watermarkedWorld oneFill 1) (by decide +kernel)
  have hgrows : firstSync.2.2.Grows (firstSync.2.2.withLog twoFills) :=
    .withLog (by decide +kernel)
  exact (hfirst.env hgrows).append (World.run_of_schedule _ _ _ _ _ (by decide +kernel))

/-- One after the other, the two syncs move the watermark to 2 and never lower it. -/
theorem concurrentSyncs_monotone_twoFills :
    secondSync.2.2.store.watermark "001" = some 2 ∧
    ∀ e ∈ firstSync.1 ++ secondSync.1, KeepsWatermark "001" e.pre e.post :=
  ⟨by decide +kernel, concurrentSyncs_monotone sampleConfig (fun _ => False) twoCallers "001"
    (watermarkedWorld oneFill 1)
    (fun first h => ⟨_, List.mem_singleton_self _, (Option.some.inj h) ▸ (by decide)⟩)
    (firstSync.1 ++ secondSync.1) secondSync.2.1 secondSync.2.2 concurrentSyncs_secondSync
    (by decide +kernel)⟩

end OandaV3
