import OandaV3.JournalSound

/-! # A poller cycle beside a history sync

`sync_open_trades` runs a poller cycle under the state lock.  `get_trade_history` first syncs under
the lock, and then syncs again without it.  The second sync can record a trade between the poller's
two reads: the trade is not in the list the poller fetched, it is among the open trades the poller
reads, and the poller closes it although it is open (`journalTasks_close_open`).

`journalTasks_closed`: when every trade whose detail the poller asks for had been opened before the
list was fetched, or is closed by then (`OpenedWhenListed`), the journal shows no trade as closed that
the broker has not closed. -/

namespace OandaV3

open Interaction Program

inductive JournalTask where
  | syncOpenTrades
  | getTradeHistory
deriving DecidableEq, Repr

/-- The program of a call, up to the reads that follow the syncs. -/
def JournalTask.run (cfg : Config) : JournalTask → Prog Unit
  | .syncOpenTrades => do
      let _ ← OandaV3.syncOpenTrades cfg
  | .getTradeHistory => do
      let _ ← syncsBeforeRead cfg

/-- The trade whose detail is asked for. -/
def Call.detailOf : Call → Option String
  | .getTradeDetail tradeId => some tradeId
  | _ => none

/-- The poller asks for the detail of a trade only if the trade had been opened when the broker's list
was fetched, or is closed at the broker now. -/
def OpenedWhenListed {ι : Type} (tr : List (Event Call Ans Exn World ι)) : Prop :=
  ∀ e ∈ tr, ∀ tradeId ∈ e.call.detailOf,
    (∀ f ∈ tr, f.call = .getOpenTrades → f.pre.broker.log.Opened tradeId) ∨
      e.pre.broker.log.Closed tradeId

instance {ι : Type} (tr : List (Event Call Ans Exn World ι)) : Decidable (OpenedWhenListed tr) :=
  inferInstanceAs (Decidable (∀ e ∈ tr, ∀ _ ∈ e.call.detailOf, _ ∨ _))

/-- The same for one call: the trades `Early` had been opened when the list was fetched. -/
def DetailOk (Early : String → Prop) : Call → World → Prop
  | .getOpenTrades, w => ∀ tradeId, Early tradeId → w.broker.log.Opened tradeId
  | .getTradeDetail tradeId, w => Early tradeId ∨ w.broker.log.Closed tradeId
  | _, _ => True

section

variable {cfg : Config} {lossy : Call → Prop} {Early : String → Prop} {s t w w' : World}
  {current : List (String × OpenTrade)} {record : TradeRecord}

theorem World.Moves.stateLock (w : World) (locked : Bool) : w.Moves { w with stateLock := locked } :=
  ⟨.refl _, fun h => ⟨h.coherent, h.rows, h.opened, h.closed⟩⟩

theorem JournalSound.moves (h : JournalSound w) (hstep : w.Moves w') : JournalSound w' :=
  hstep.sound h

theorem World.Trades.moves (h : w.Trades w') : w.Moves w' :=
  ⟨h.grows.log, fun hs => hs.trades h⟩

/-- Storing a record of a trade that was opened, as closed only when it was. -/
theorem World.Moves.upsertTrade (h : JournalSound w) (hopened : w.broker.log.Opened record.tradeId)
    (hclosed : record.state = .CLOSED → w.broker.log.Closed record.tradeId) :
    w.Moves (w.withStore (w.store.upsertTrade record)) :=
  ⟨.refl _, fun _ => h.upsertTrade hopened hclosed⟩

/-! ### The history sync -/

theorem rg_projectTradeRecord_moves {tradeId : String} {ok : Call → World → Prop}
    (hs : JournalSound s) :
    (projectTradeRecord cfg tradeId).Rg (World.guarded lossy ok) World.Moves World.Moves
      (After JournalSound JournalSound) s := by
  let E : List TradeHistoryEvent → World → Prop := fun events t =>
    JournalSound t ∧ FromLog t.broker.log tradeId events
  refine rg_projectTradeRecord (E := E) (X := fun events existing t => E events t ∧
      ∀ trade, existing = some trade → t.broker.log.Opened tradeId)
    World.Moves.refl (fun _ _ ht h => ht.moves h) (fun _ _ _ ht h => ⟨ht.1.moves h, ht.2.grows h.log⟩)
    (fun _ _ _ _ ht h => ⟨⟨ht.1.1.moves h, ht.1.2.grows h.log⟩, fun trade htrade =>
      h.log.opened (ht.2 trade htrade)⟩) (fun _ _ ht => ht.1) (fun _ _ _ ht => ht.1.1)
    (fun t events ht hanswer => ⟨ht, ?_⟩) (fun t events existing ht hanswer => ⟨ht, ?_⟩)
    (fun t events existing record ht _ hrecord => ?_) hs
  · rcases hanswer with hanswer | ⟨-, hdefault⟩
    · exact Except.ok.inj hanswer ▸ ht.fromLog tradeId
    · exact Option.some.inj hdefault ▸ fun e he => nomatch he
  · rintro trade rfl
    exact ht.1.getTrade_opened (getTrade_of_mayAnswer hanswer)
  · obtain ⟨hopened, hclosed⟩ := ht.1.2.projected ht.2 hrecord
    have hstep := World.Moves.upsertTrade ht.1.1 hopened hclosed
    exact ⟨hstep, hstep.sound ht.1.1⟩

theorem rg_ingest_moves {zone : String} {transactions : List Transaction}
    {ok : Call → World → Prop} (hs : JournalSound s)
    (hbatch : ∀ u ∈ transactions, u ∈ s.broker.log.transactions) :
    (ingest cfg zone transactions).Rg (World.guarded lossy ok) World.Moves World.Moves
      (After JournalSound JournalSound) s := by
  have hmoves : ∀ t t', JournalSound t → t.Moves t' → JournalSound t' := fun _ _ ht h => ht.moves h
  refine rg_ingest_sound (B := fun _ => JournalSound) World.Moves.refl hmoves (fun _ _ _ h => h)
    (fun _ _ h => h.log) (fun _ => hmoves) (fun _ _ ht => ht) (fun _ _ ht _ => ht)
    (fun rows t ht => rg_each_after World.Moves.refl hmoves
      (fun tradeId _ t ht => rg_projectTradeRecord_moves ht) ht)
    (fun rows t ht => ?_) hs hbatch
  exact rg_repairManualMitClosesFromHistory (L := fun _ => JournalSound) World.Moves.refl
    World.Moves.refl hmoves (fun _ => hmoves) (fun _ _ ht => ht) (fun _ _ ht _ _ => ht)
    (fun closed trade _ t ht => rg_repairManualMitClose (D := JournalSound) World.Moves.refl hmoves
      (fun _ _ _ ht _ _ _ _ => ht) (fun t ht => rg_projectTradeRecord_moves ht) ht) ht

theorem rg_incrementalSync_moves {ok : Call → World → Prop} (hs : JournalSound s) :
    (incrementalSync cfg).Rg (World.guarded lossy ok) World.Moves World.Moves
      (After JournalSound JournalSound) s :=
  rg_incrementalSync_sound World.Moves.refl (fun _ _ ht h => ht.moves h) (fun _ _ _ h => h)
    (fun _ _ _ ht hbatch => rg_ingest_moves ht hbatch) hs

/-! ### The poller cycle -/

/-- The broker's list is fetched: its trades were opened, and the early trades that are not in it
were closed. -/
structure Listed (Early : String → Prop) (current : List (String × OpenTrade)) (w : World) :
    Prop where
  sound : JournalSound w
  listed : ∀ tradeId ∈ current.map Prod.fst, w.broker.log.Opened tradeId
  missing : ∀ tradeId, Early tradeId → tradeId ∉ current.map Prod.fst → w.broker.log.Closed tradeId

theorem Listed.moves (h : Listed Early current w) (hstep : w.Moves w') : Listed Early current w' :=
  ⟨hstep.sound h.sound, fun tradeId hmem => hstep.log.opened (h.listed tradeId hmem),
    fun tradeId hearly hmem => hstep.log.closed (h.missing tradeId hearly hmem)⟩

theorem JournalSound.listed (h : JournalSound w)
    (hearly : ∀ tradeId, Early tradeId → w.broker.log.Opened tradeId)
    (hcurrent : currentById w.broker.openTrades = .ok current) : Listed Early current w := by
  have hmem := (currentById_ok hcurrent).2
  refine ⟨h, fun tradeId hlisted => ((h.coherent tradeId).mp ((hmem tradeId).mp hlisted)).1,
    fun tradeId htradeId hmissing => ?_⟩
  by_contra hclosed
  exact hmissing ((hmem tradeId).mpr ((h.coherent tradeId).mpr ⟨hearly tradeId htradeId, hclosed⟩))

theorem rg_pollCurrent_moves {now : Instant} {accountCurrency : String}
    {existingOpen : List TradeRecord} {entry : String × OpenTrade} {ok : Call → World → Prop}
    (hentry : entry ∈ current) (hs : Listed Early current s) :
    (pollCurrent cfg now accountCurrency existingOpen entry).Rg (World.guarded lossy ok)
      World.Moves World.Moves (After (Listed Early current) (Listed Early current)) s := by
  have hlisted : entry.1 ∈ current.map Prod.fst := List.mem_map_of_mem hentry
  -- a record that was read is closed only when the trade was closed
  let X : TradeRecord → World → Prop := fun existing t => Listed Early current t ∧
    existing.tradeId = entry.1 ∧ (existing.state = .CLOSED → t.broker.log.Closed entry.1)
  refine rg_pollCurrent (X := X) World.Moves.refl World.Moves.refl (fun _ _ ht h => ht.moves h)
    (fun _ _ _ ht h => ⟨ht.1.moves h, ht.2.1, fun hstate => h.log.closed (ht.2.2 hstate)⟩)
    (fun _ _ ht => ht.1) (fun _ _ ht hget => ⟨ht, TradeStore.getTrade_tradeId hget,
      ht.sound.getTrade_closed hget⟩) (fun _ event hevent t notes record ht hrecord => ?_)
    (fun _ t existing updated ht hupdated => ?_) hs
  · obtain ⟨hself, hstate⟩ := openedFields_ok hrecord
    have hid : record.tradeId = entry.1 := hself.trans (openedEvent_ok hevent).1
    have hstep : t.Moves (t.withStore (t.store.upsertTrade record)) :=
      .upsertTrade ht.sound (hid ▸ ht.listed _ hlisted) fun h => nomatch hstate.symm.trans h
    exact ⟨hstep, ht.moves hstep⟩
  · obtain ⟨hself, hsame⟩ := modifiedFields_ok hupdated
    have hid : updated.tradeId = entry.1 := hself.trans ht.2.1
    have hstep : t.Moves (t.withStore (t.store.upsertTrade updated)) :=
      .upsertTrade ht.1.sound (hid ▸ ht.1.listed _ hlisted) fun hstate =>
        hid ▸ ht.2.2 (hsame.symm.trans hstate)
    exact ⟨hstep, ht.1.moves hstep⟩

theorem rg_pollExisting_moves {now : Instant} {accountCurrency : String} {existing : TradeRecord}
    (hs : Listed Early current s) :
    (pollExisting cfg now accountCurrency current existing).Rg
      (World.guarded lossy (DetailOk Early)) World.Moves World.Moves
      (After (Listed Early current) (Listed Early current)) s := by
  -- the trade was closed at the broker once its detail was asked for
  let D : World → Prop := fun t => Listed Early current t ∧ t.broker.log.Closed existing.tradeId
  have hD : ∀ t t', D t → t.Moves t' → D t' := fun _ _ ht h => ⟨ht.1.moves h, h.log.closed ht.2⟩
  refine rg_pollExisting (D := D) (X := fun existing' t => D t ∧ existing'.tradeId = existing.tradeId ∧
      t.broker.log.Opened existing.tradeId) World.Moves.refl World.Moves.refl
    (fun _ _ ht h => ht.moves h) hD (fun _ ht => ht.1)
    (fun _ _ _ ht h => ⟨hD _ _ ht.1 h, ht.2.1, h.log.opened ht.2.2⟩) (fun _ _ ht => ht.1)
    (fun hmissing t ht hok => ⟨ht, ?_⟩) (fun t existing' ht hget => ⟨ht,
      TradeStore.getTrade_tradeId hget, ht.1.sound.getTrade_opened hget⟩)
    (fun _ _ event _ t existing' pips closed ht hclosed => ?_) hs
  · have hmem : existing.tradeId ∉ current.map Prod.fst := by
      simpa using Bool.eq_false_iff.mp hmissing
    rcases hok with hearly | hclosed
    · exact ht.missing _ hearly hmem
    · exact hclosed
  · have hid : closed.tradeId = existing.tradeId := (closedByPoller_ok hclosed).1.trans ht.2.1
    have hstep : t.Moves (t.withStore (t.store.upsertTrade closed)) :=
      .upsertTrade ht.1.1.sound (hid ▸ ht.2.2) fun _ => hid ▸ ht.1.2
    exact ⟨hstep, hD _ _ ht.1 hstep⟩

theorem rg_pollOnceSync_moves (hs : JournalSound s) :
    (pollOnceSync cfg).Rg (World.guarded lossy (DetailOk Early)) World.Moves World.Moves
      (After JournalSound JournalSound) s :=
  rg_pollOnceSync (L := Listed Early) (M := fun current _ => Listed Early current) World.Moves.refl
    World.Moves.refl (fun _ _ ht h => ht.moves h) (fun _ _ _ ht h => ht.moves h)
    (fun _ _ _ _ ht h => ht.moves h) (fun _ ht => ht) (fun _ _ ht => ht.sound)
    (fun _ _ _ ht => ht.sound) (fun _ _ ht hok hcurrent => ht.listed hok hcurrent)
    (fun _ _ _ ht _ _ => ht) (fun _ _ _ _ _ hentry _ ht => rg_pollCurrent_moves hentry ht)
    (fun _ _ _ _ _ _ _ ht => rg_pollExisting_moves ht) hs

/-! ### The two calls together -/

theorem rg_journalTask (task : JournalTask) (hs : JournalSound s) :
    (task.run cfg).Rg (World.guarded lossy (DetailOk Early)) World.Moves World.Moves
      (fun _ _ => True) s := by
  have hmoves : ∀ t t', JournalSound t → t.Moves t' → JournalSound t' := fun _ _ ht h => ht.moves h
  have hlock : ∀ t b, JournalSound t → JournalSound { t with stateLock := b } := fun t b ht =>
    ht.moves (.stateLock t b)
  have htask : (task.run cfg).Rg (World.guarded lossy (DetailOk Early)) World.Moves World.Moves
      (After JournalSound JournalSound) s := by
    cases task with
    | syncOpenTrades =>
        exact rg_bind_after World.Moves.refl (rg_runBlocking World.Moves.refl World.Moves.refl
          .stateLock hmoves hlock (fun _ ht => rg_pollOnceSync_moves ht) hs)
          (fun _ t ht t' ht' => hmoves t t' ht ht') fun _ t ht => ht
    | getTradeHistory =>
        refine rg_bind_after World.Moves.refl (rg_bind_after World.Moves.refl
          (rg_runBlocking World.Moves.refl World.Moves.refl .stateLock hmoves hlock
            (fun _ ht => rg_incrementalSync_moves ht) hs) (fun _ t ht => ?_) fun _ t ht => ht)
          (fun _ t ht t' ht' => hmoves t t' ht ht') fun _ t ht => ht
        exact rg_attempt ((rg_incrementalSync_moves ht).mono fun r _ hr => by cases r <;> exact hr)
  exact htask.mono fun _ _ _ => trivial

end

/-- **A poller cycle beside a history sync.**  In every state that a poller cycle and the syncs of
`get_trade_history` reach from a sound journal while a coherent broker trades, the journal shows no
trade as closed that the broker has not closed, when the trades whose detail the poller asks for had
been opened when it fetched the broker's list. -/
theorem journalTasks_closed (cfg : Config) (lossy : Call → Prop) (w w' : World)
    (tr : List (Event Call Ans Exn World JournalTask)) (pool : JournalTask → Prog Unit)
    (hsound : JournalSound w)
    (hrun : Run (World.guarded lossy World.enabled) World.Trades (fun task => task.run cfg) w tr pool w')
    (hlisted : OpenedWhenListed tr) (tradeId : String)
    (hclosed : w'.store.isClosed tradeId = true) : w'.broker.log.Closed tradeId := by
  let Early : String → Prop := fun tradeId =>
    ∀ f ∈ tr, f.call = .getOpenTrades → f.pre.broker.log.Opened tradeId
  have hok : ∀ e ∈ tr, DetailOk Early e.call e.pre := by
    intro e he
    have hdetail := hlisted e he
    cases hcall : e.call with
    | getOpenTrades => exact fun tradeId hearly => hearly e he hcall
    | getTradeDetail tradeId => exact hdetail tradeId (by rw [hcall]; rfl)
    | _ => trivial
  have hstart : ∀ task : JournalTask, (task.run cfg).Rg
      ((World.guarded lossy World.enabled).when (DetailOk Early)) World.Moves World.Moves
      (fun _ _ => True) w := fun task =>
    (rg_journalTask task hsound).conseq (fun _ _ _ _ h => ⟨h.1, h.2.2⟩) (fun _ _ h => h) (fun _ _ h => h)
  have hend : JournalSound w' := (hrun.when hok).invariant (R := fun _ => World.Moves)
    (G := fun _ => World.Moves) (Q := fun _ _ _ => True) (fun _ => World.Moves.refl)
    (fun _ _ _ _ => World.Moves.trans) (fun _ _ _ => World.Trades.moves) (fun _ _ _ _ _ h => h) hstart
    hsound (fun _ _ h hs => hs.trades h) (fun _ _ _ h hs => hs.moves h)
  exact hend.isClosed_closed hclosed

/-! ### A trade recorded between the poller's two reads -/

/-- Trade 1 is open, and the broker answers every detail request. -/
def tradeOneOpen : World :=
  let world := watermarkedWorld oneFill 1
  { world with
    clock := 10
    broker := { world.broker with
      openTrades := [sampleOpenTrade "1"]
      tradeDetail := fun _ => some {} } }

/-- Trade 2 is open as well. -/
def World.withTradeTwo (w : World) : World :=
  { w with
    broker := { w.broker with
      log := twoFills
      openTrades := [sampleOpenTrade "1", sampleOpenTrade "2"] } }

theorem journalSound_tradeOneOpen : JournalSound tradeOneOpen := by
  refine ⟨fun tradeId => ?_, fun row (hrow : row ∈ []) => (nomatch hrow), by decide +kernel,
    by decide +kernel⟩
  have hlog : tradeOneOpen.broker.log.openedIds = ["1"] ∧
      tradeOneOpen.broker.log.closedIds = [] ∧ tradeOneOpen.broker.openIds = ["1"] := by
    decide +kernel
  simp [TransactionLog.Opened, TransactionLog.Closed, hlog]

theorem trades_withTradeTwo {w : World} (h : w.broker.log = oneFill) : w.Trades w.withTradeTwo := by
  refine ⟨⟨rfl, rfl, rfl, h ▸ ⟨[openingFill 2 1 "2" 100], rfl⟩⟩, fun _ tradeId => ?_⟩
  have hlog : w.withTradeTwo.broker.log.openedIds = ["1", "2"] ∧
      w.withTradeTwo.broker.log.closedIds = [] ∧ w.withTradeTwo.broker.openIds = ["1", "2"] :=
    ⟨rfl, rfl, rfl⟩
  simp [TransactionLog.Opened, TransactionLog.Closed, hlog]

/-- The locked sync runs (seven calls), and the poller fetches the broker's list (three). -/
def listFetched :=
  Run.schedule World.answer
    (List.replicate 7 JournalTask.getTradeHistory ++ List.replicate 3 .syncOpenTrades)
    (fun task => task.run sampleConfig) tradeOneOpen

/-- Trade 2 is opened, the sync without the lock records it, and the poller goes on. -/
def tradeRecorded :=
  Run.schedule World.answer
    (List.replicate 10 JournalTask.getTradeHistory ++ List.replicate 20 .syncOpenTrades)
    listFetched.2.1 listFetched.2.2.withTradeTwo

theorem run_tradeRecorded : Run (World.guarded (fun _ => False) World.enabled) World.Trades
    (fun task : JournalTask => task.run sampleConfig) tradeOneOpen (listFetched.1 ++ tradeRecorded.1)
    tradeRecorded.2.1 tradeRecorded.2.2 := by
  have hfetched := World.run_of_schedule (fun _ => False) World.Trades
    (List.replicate 7 JournalTask.getTradeHistory ++ List.replicate 3 .syncOpenTrades)
    (fun task => task.run sampleConfig) tradeOneOpen (by decide +kernel)
  exact (hfetched.env (trades_withTradeTwo (by decide +kernel))).append
    (World.run_of_schedule _ _ _ _ _ (by decide +kernel))

/-- The poller closes trade 2 in the journal, and the broker has not closed it. -/
theorem journalTasks_close_open : JournalSound tradeOneOpen ∧
    ¬ ∀ tr pool w', Run (World.guarded (fun _ => False) World.enabled) World.Trades
        (fun task : JournalTask => task.run sampleConfig) tradeOneOpen tr pool w' →
      ∀ tradeId, w'.store.isClosed tradeId = true → w'.broker.log.Closed tradeId :=
  ⟨journalSound_tradeOneOpen, fun h => absurd (h _ _ _ run_tradeRecorded "2" (by decide +kernel))
    (by decide +kernel)⟩

/-- Trade 1 is open in the journal too. -/
def tradeOneRecorded : World := ((pollOnceSync sampleConfig).eval World.answer tradeOneOpen).2

def World.withoutTradeOne (w : World) : World :=
  { w with
    broker := { w.broker with
      log := ⟨[openingFill 1 0 "1" 100, closingFill 2 1 "1" 100], by decide⟩
      openTrades := [] } }

theorem journalSound_tradeOneRecorded : JournalSound tradeOneRecorded := by
  have hbroker : tradeOneRecorded.broker = tradeOneOpen.broker := World.eval_broker _ _
  have hrows : tradeOneRecorded.store.tradeHistoryEvents.docs = [] := by decide +kernel
  refine ⟨hbroker ▸ journalSound_tradeOneOpen.coherent, fun row hrow => ?_, by decide +kernel,
    by decide +kernel⟩
  rw [hrows] at hrow
  cases hrow

theorem trades_withoutTradeOne {w : World} (h : w.broker.log = oneFill) :
    w.Trades w.withoutTradeOne := by
  refine ⟨⟨rfl, rfl, rfl, h ▸ ⟨[closingFill 2 1 "1" 100], rfl⟩⟩, fun _ tradeId => ?_⟩
  have hlog : w.withoutTradeOne.broker.log.openedIds = ["1"] ∧
      w.withoutTradeOne.broker.log.closedIds = ["1"] ∧ w.withoutTradeOne.broker.openIds = [] :=
    ⟨rfl, rfl, rfl⟩
  simp [TransactionLog.Opened, TransactionLog.Closed, hlog]

/-- The locked sync runs, ... -/
def syncedFirst :=
  Run.schedule World.answer (List.replicate 7 JournalTask.getTradeHistory)
    (fun task => task.run sampleConfig) tradeOneRecorded

/-- ... trade 1 is closed, and the poller runs while the sync without the lock is on its way. -/
def tradeClosed :=
  Run.schedule World.answer
    (List.replicate 3 JournalTask.syncOpenTrades ++ List.replicate 3 .getTradeHistory ++
      List.replicate 20 .syncOpenTrades ++ List.replicate 20 .getTradeHistory)
    syncedFirst.2.1 syncedFirst.2.2.withoutTradeOne

theorem run_tradeClosed : Run (World.guarded (fun _ => False) World.enabled) World.Trades
    (fun task : JournalTask => task.run sampleConfig) tradeOneRecorded
    (syncedFirst.1 ++ tradeClosed.1) tradeClosed.2.1 tradeClosed.2.2 := by
  have hsynced := World.run_of_schedule (fun _ => False) World.Trades
    (List.replicate 7 JournalTask.getTradeHistory) (fun task => task.run sampleConfig) tradeOneRecorded
    (by decide +kernel)
  exact (hsynced.env (trades_withoutTradeOne (by decide +kernel))).append
    (World.run_of_schedule _ _ _ _ _ (by decide +kernel))

/-- Both record trade 1 as closed, and it is. -/
theorem journalTasks_closed_tradeOne : tradeClosed.2.2.store.isClosed "1" = true ∧
    tradeClosed.2.2.broker.log.Closed "1" :=
  have hclosed : tradeClosed.2.2.store.isClosed "1" = true := by decide +kernel
  ⟨hclosed, journalTasks_closed sampleConfig (fun _ => False) tradeOneRecorded tradeClosed.2.2
    (syncedFirst.1 ++ tradeClosed.1) tradeClosed.2.1 journalSound_tradeOneRecorded run_tradeClosed
    (by decide +kernel) "1" hclosed⟩

end OandaV3
