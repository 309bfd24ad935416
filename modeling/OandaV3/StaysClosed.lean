import OandaV3.JournalSound

/-! # Closed trades stay closed

`JournalOp` is a poller cycle, a sync or a backfill; `runJournal` makes a sequence of them while the
broker trades.

The projection decides from the stored events alone whether a trade is open.  A backfill of the days
before a trade was closed, or the repair of a manual close of which only partial closes are stored,
therefore writes an open record over a closed one (`runJournal_reopens_partHistory`).
`runJournal_stays_closed`: when every closed trade that is projected has its closing fill among the
stored events (`ClosesStored`), no step of a sequence reopens a trade. -/

namespace OandaV3

open Interaction Program

/-- A call of the services that write the journal. -/
inductive JournalOp where
  | runOnce
  | incrementalSync
  | backfillHistory (startDay endDay : ℤ) (tzName : Option String)
deriving DecidableEq, Repr

def JournalOp.run (cfg : Config) : JournalOp → Prog Unit
  | .runOnce => do
      let _ ← pollOnceSync cfg
  | .incrementalSync => do
      let _ ← OandaV3.incrementalSync cfg
  | .backfillHistory startDay endDay tzName => do
      let _ ← OandaV3.backfillHistory cfg startDay endDay tzName

/-- A sequence of calls; a call that raises ends there, and the next one starts. -/
def runJournal (cfg : Config) (ops : List JournalOp) : Prog (List (Except Exn Unit)) :=
  each (fun op => (op.run cfg).attempt) ops

/-- No closed trade is opened again. -/
def KeepsClosed (w w' : World) : Prop :=
  ∀ tradeId, w.store.isClosed tradeId = true → w'.store.isClosed tradeId = true

/-- Where trades are about to be projected, the closing fill of every closed one is stored: with the
rows of a batch, for the trades of the batch; and before the repair, for the manual closes whose last
close event asks for it. -/
def ClosesStored : Call → World → Prop
  | .upsertTradeHistoryEvents rows, w =>
      ∀ tradeId ∈ projectedTradeIds rows, w.store.isClosed tradeId = true →
        hasClose ((w.store.upsertTradeHistoryEvents rows).2.tradeEvents tradeId) = true
  | .listClosedTrades, w =>
      ∀ trade ∈ w.store.listClosedTrades, trade.closeReason = some .MANUAL →
        ∀ final ∈ (closeEvents (w.store.tradeEvents trade.tradeId)).getLast?,
          repairReason trade final = .MIT → hasClose (w.store.tradeEvents trade.tradeId) = true
  | _, _ => True

instance (c : Call) (w : World) : Decidable (ClosesStored c w) := by
  cases c <;> unfold ClosesStored <;> infer_instance

/-- A step of the journal: it stays sound, and no closed trade is opened again. -/
structure JournalStep (w w' : World) : Prop where
  moves : w.Moves w'
  keepsClosed : KeepsClosed w w'

section

variable {cfg : Config} {lossy : Call → Prop} {s t w w' : World} {tradeId : String}
  {record : TradeRecord}

theorem JournalStep.of_trades_eq (htrades : w'.store.trades = w.store.trades) (h : w.Moves w') :
    JournalStep w w' :=
  ⟨h, fun tradeId hclosed => by rwa [TradeStore.isClosed, TradeStore.getTrade, htrades]⟩

theorem JournalStep.refl (w : World) : JournalStep w w := .of_trades_eq rfl (.refl w)

theorem isClosed_upsertTrade (store : TradeStore) (record : TradeRecord) (tradeId : String) :
    (store.upsertTrade record).isClosed tradeId =
      if record.tradeId = tradeId then record.state == .CLOSED else store.isClosed tradeId := by
  rw [TradeStore.isClosed, TradeStore.getTrade_upsertTrade]
  split_ifs <;> rfl

/-- Storing a record: sound, and closed when the stored record was. -/
theorem JournalStep.upsertTrade (h : JournalSound w) (hopened : w.broker.log.Opened record.tradeId)
    (hclosed : record.state = .CLOSED → w.broker.log.Closed record.tradeId)
    (hkeep : w.store.isClosed record.tradeId = true → record.state = .CLOSED) :
    JournalStep w (w.withStore (w.store.upsertTrade record)) := by
  refine ⟨⟨.refl _, fun _ => h.upsertTrade hopened hclosed⟩, fun tradeId hbefore => ?_⟩
  rw [World.withStore_store, isClosed_upsertTrade]
  split_ifs with hid
  · exact beq_iff_eq.mpr (hkeep (hid ▸ hbefore))
  · exact hbefore

/-! ### Projections -/

/-- A closed trade has its closing fill among the stored events. -/
def CloseKnown (store : TradeStore) (tradeId : String) : Prop :=
  store.isClosed tradeId = true → hasClose (store.tradeEvents tradeId) = true

theorem CloseKnown.upsertTrade {store : TradeStore} {tradeId' : String}
    (h : CloseKnown store tradeId') (hrecord : record.state = .CLOSED →
      hasClose (store.tradeEvents record.tradeId) = true) :
    CloseKnown (store.upsertTrade record) tradeId' := by
  intro hclosed
  rw [TradeStore.tradeEvents_upsertTrade]
  rw [isClosed_upsertTrade] at hclosed
  split_ifs at hclosed with hid
  · exact hid ▸ hrecord (beq_iff_eq.mp hclosed)
  · exact h hclosed

/-- Projecting a trade whose close is known keeps what is known about the closes. -/
theorem rg_projectTradeRecord_keeps {K : World → Prop}
    (hK : ∀ t t', K t → t.Trades t' → K t') (hsound : ∀ t, K t → JournalSound t)
    (hknown : ∀ t, K t → CloseKnown t.store tradeId)
    (hwrite : ∀ t record, K t → record.tradeId = tradeId →
      (record.state = .CLOSED → hasClose (t.store.tradeEvents tradeId) = true) →
        JournalSound (t.withStore (t.store.upsertTrade record)) →
          K (t.withStore (t.store.upsertTrade record)))
    (hs : K s) :
    (projectTradeRecord cfg tradeId).Rg (World.guarded lossy ClosesStored) World.Trades JournalStep
      (After K K) s := by
  let E : List TradeHistoryEvent → World → Prop := fun events t =>
    K t ∧ (events = [] ∨ events = t.store.tradeEvents tradeId)
  let X : List TradeHistoryEvent → Option TradeRecord → World → Prop := fun events existing t =>
    E events t ∧ ∀ trade, existing = some trade → t.broker.log.Opened tradeId
  have hE : ∀ events t t', E events t → t.Trades t' → E events t' := fun events t t' ht h =>
    ⟨hK t t' ht.1 h, h.grows.store ▸ ht.2⟩
  refine rg_projectTradeRecord (E := E) (X := X) JournalStep.refl hK hE
    (fun events existing t t' ht h => ⟨hE events t t' ht.1 h, fun trade htrade =>
      h.grows.log.opened (ht.2 trade htrade)⟩) (fun _ _ ht => ht.1) (fun _ _ _ ht => ht.1.1)
    (fun t events ht hanswer => ⟨ht, ?_⟩) (fun t events existing ht hanswer => ⟨ht, ?_⟩)
    (fun t events existing record ht hne hrecord => ?_) hs
  · rcases hanswer with hanswer | ⟨-, hdefault⟩
    · exact Or.inr (Except.ok.inj hanswer).symm
    · exact Or.inl (Option.some.inj hdefault).symm
  · rintro trade rfl
    exact (hsound t ht.1).getTrade_opened (getTrade_of_mayAnswer hanswer)
  · obtain ⟨⟨hKt, hread⟩, hexisting⟩ := ht
    obtain rfl := hread.resolve_left hne
    have hid := projection_tradeId hrecord
    have hstate := projection_state hrecord
    obtain ⟨hopened, hclosed⟩ := ((hsound t hKt).fromLog tradeId).projected hexisting hrecord
    have hstep : JournalStep t (t.withStore (t.store.upsertTrade record)) :=
      .upsertTrade (hsound t hKt) hopened hclosed fun hbefore => by
        rw [hstate, hknown t hKt (hid ▸ hbefore), if_pos rfl]
    refine ⟨hstep, hwrite t record hKt hid (fun hrecordClosed => ?_) (hstep.moves.sound (hsound t hKt))⟩
    by_contra hnone
    rw [hstate, if_neg hnone] at hrecordClosed
    cases hrecordClosed

/-- The closes of the projected trades are known. -/
def BatchKnown (rows : List HistoryRow) (w : World) : Prop :=
  JournalSound w ∧ ∀ tradeId ∈ projectedTradeIds rows, CloseKnown w.store tradeId

theorem BatchKnown.trades {rows : List HistoryRow} (h : BatchKnown rows w) (hstep : w.Trades w') :
    BatchKnown rows w' := ⟨h.1.trades hstep, hstep.grows.store ▸ h.2⟩

theorem rg_projectTrades_keeps {rows : List HistoryRow} (hs : BatchKnown rows s) :
    (each (projectTradeRecord cfg) (projectedTradeIds rows)).Rg (World.guarded lossy ClosesStored)
      World.Trades JournalStep (After (BatchKnown rows) (BatchKnown rows)) s := by
  refine rg_each_after World.Trades.refl (fun _ _ ht h => ht.trades h) (fun tradeId hmem t ht => ?_) hs
  exact rg_projectTradeRecord_keeps (fun _ _ ht h => ht.trades h) (fun _ ht => ht.1)
    (fun _ ht => ht.2 tradeId hmem) (fun t record ht hid hrecord hsound => ⟨hsound,
      fun tradeId' hmem' => (ht.2 tradeId' hmem').upsertTrade (hid ▸ hrecord)⟩) ht

/-- The manual closes that ask for a repair have their closing fill stored. -/
def RepairKnown (rows : List HistoryRow) (closed : List TradeRecord) (w : World) : Prop :=
  BatchKnown rows w ∧ ∀ trade ∈ closed, trade.closeReason = some .MANUAL →
    ∀ final ∈ (closeEvents (w.store.tradeEvents trade.tradeId)).getLast?,
      repairReason trade final = .MIT → hasClose (w.store.tradeEvents trade.tradeId) = true

theorem rg_repair_keeps {rows : List HistoryRow} (hs : BatchKnown rows s) :
    (repairManualMitClosesFromHistory cfg).Rg (World.guarded lossy ClosesStored) World.Trades
      JournalStep (After (BatchKnown rows) (BatchKnown rows)) s := by
  have hL : ∀ closed t t', RepairKnown rows closed t → t.Trades t' → RepairKnown rows closed t' :=
    fun closed t t' ht h => ⟨ht.1.trades h, h.grows.store ▸ ht.2⟩
  refine rg_repairManualMitClosesFromHistory (L := RepairKnown rows) World.Trades.refl
    JournalStep.refl (fun _ _ ht h => ht.trades h) hL (fun _ _ ht => ht.1)
    (fun t closed ht hok hanswer => ⟨ht, ?_⟩) (fun closed trade hmem t ht => ?_) hs
  · rcases hanswer with hanswer | ⟨-, hdefault⟩
    · obtain rfl : t.store.listClosedTrades = closed := Except.ok.inj hanswer
      exact hok
    · obtain rfl : [] = closed := Option.some.inj hdefault
      exact fun trade htrade => nomatch htrade
  · -- once the repair is decided, the closing fill of the trade is stored
    let D : World → Prop := fun t => RepairKnown rows closed t ∧
      hasClose (t.store.tradeEvents trade.tradeId) = true
    refine rg_repairManualMitClose (D := D) JournalStep.refl (hL closed)
      (fun t events final ht hmanual hanswer hfinal hreason => ⟨ht, ?_⟩) (fun t ht => ?_) ht
    · rcases hanswer with hanswer | ⟨-, hdefault⟩
      · obtain rfl : t.store.tradeEvents trade.tradeId = events := Except.ok.inj hanswer
        exact ht.2 trade hmem hmanual final hfinal hreason
      · obtain rfl : [] = events := Option.some.inj hdefault
        cases hfinal
    · refine Rg.mono (rg_projectTradeRecord_keeps (K := D)
        (fun t t' ht h => ⟨hL closed t t' ht.1 h, h.grows.store ▸ ht.2⟩) (fun _ ht => ht.1.1.1)
        (fun _ ht _ => ht.2) (fun t record ht hid hrecord hsound => ⟨⟨⟨hsound, ?_⟩, ht.1.2⟩, ht.2⟩) ht)
        fun r t hr => ?_
      · exact fun tradeId' hmem' => (ht.1.1.2 tradeId' hmem').upsertTrade (hid ▸ hrecord)
      · cases r <;> exact hr.1

theorem rg_ingest_keeps {zone : String} {transactions : List Transaction} (hs : JournalSound s)
    (hbatch : ∀ u ∈ transactions, u ∈ s.broker.log.transactions) :
    (ingest cfg zone transactions).Rg (World.guarded lossy ClosesStored) World.Trades JournalStep
      (After JournalSound JournalSound) s := by
  refine rg_ingest_sound (B := BatchKnown) World.Trades.refl (fun _ _ h h' => h.trades h')
    (fun _ _ => .of_trades_eq) (fun _ _ h => h.grows.log) (fun _ _ _ ht h => ht.trades h)
    (fun _ _ ht => ht.1) (fun rows t hsound hok => ⟨hsound, fun tradeId hmem hclosed => ?_⟩)
    (fun rows t ht => rg_projectTrades_keeps ht) (fun rows t ht => rg_repair_keeps ht) hs hbatch
  by_cases hempty : rows = []
  · subst hempty
    cases hmem
  · refine hok hempty tradeId hmem ?_
    rw [TradeStore.upsertTradeHistoryEvents_table] at hclosed
    exact hclosed

/-! ### Poller cycles -/

/-- The broker's list is fetched: its trades are open, and every other trade of the journal was closed
at the broker. -/
structure Polled (current : List (String × OpenTrade)) (w : World) : Prop where
  sound : JournalSound w
  listed : ∀ tradeId ∈ current.map Prod.fst, w.broker.log.Opened tradeId ∧
    w.store.isClosed tradeId = false
  missing : ∀ trade ∈ w.store.trades.docs, trade.tradeId ∉ current.map Prod.fst →
    w.broker.log.Closed trade.tradeId

variable {current : List (String × OpenTrade)}

theorem Polled.trades (h : Polled current w) (hstep : w.Trades w') : Polled current w' := by
  have hlog := hstep.grows.log
  refine ⟨h.sound.trades hstep, ?_, ?_⟩ <;> rw [hstep.grows.store]
  · exact fun tradeId hmem => ⟨hlog.opened (h.listed tradeId hmem).1, (h.listed tradeId hmem).2⟩
  · exact fun trade htrade hmem => hlog.closed (h.missing trade htrade hmem)

theorem JournalSound.polled (h : JournalSound w)
    (hcurrent : currentById w.broker.openTrades = .ok current) : Polled current w := by
  have hmem := (currentById_ok hcurrent).2
  refine ⟨h, fun tradeId hlisted => ?_, fun trade htrade hmissing => ?_⟩
  · obtain ⟨hopened, hclosed⟩ := (h.coherent tradeId).mp ((hmem tradeId).mp hlisted)
    exact ⟨hopened, Bool.eq_false_iff.mpr fun hstored => hclosed (h.isClosed_closed hstored)⟩
  · by_contra hclosed
    exact hmissing ((hmem _).mpr ((h.coherent _).mpr ⟨h.opened trade htrade, hclosed⟩))

/-- A write of the poller: listed trades stay open, and only missing ones are closed. -/
theorem Polled.upsertTrade (h : Polled current w)
    (hlisted : record.tradeId ∈ current.map Prod.fst → record.state = .OPEN)
    (hmissing : record.tradeId ∉ current.map Prod.fst →
      record.state = .CLOSED ∧ w.broker.log.Opened record.tradeId ∧
        w.broker.log.Closed record.tradeId) :
    JournalStep w (w.withStore (w.store.upsertTrade record)) ∧
      Polled current (w.withStore (w.store.upsertTrade record)) := by
  by_cases hmem : record.tradeId ∈ current.map Prod.fst
  · obtain ⟨hopened, hclosed⟩ := h.listed _ hmem
    have hstep : JournalStep w (w.withStore (w.store.upsertTrade record)) :=
      .upsertTrade h.sound hopened (fun hstate => nomatch (hlisted hmem).symm.trans hstate)
        fun hbefore => nomatch hclosed.symm.trans hbefore
    refine ⟨hstep, hstep.moves.sound h.sound, fun tradeId htradeId => ⟨(h.listed _ htradeId).1, ?_⟩,
      fun trade htrade hne => ?_⟩
    · rw [World.withStore_store, isClosed_upsertTrade, hlisted hmem]
      split_ifs
      · rfl
      · exact (h.listed _ htradeId).2
    · rcases Table.mem_insert.mp htrade with rfl | ⟨htrade, -⟩
      · exact absurd hmem hne
      · exact h.missing trade htrade hne
  · obtain ⟨hstate, hopened, hclosed⟩ := hmissing hmem
    have hstep : JournalStep w (w.withStore (w.store.upsertTrade record)) :=
      .upsertTrade h.sound hopened (fun _ => hclosed) fun _ => hstate
    refine ⟨hstep, hstep.moves.sound h.sound, fun tradeId htradeId => ⟨(h.listed _ htradeId).1, ?_⟩,
      fun trade htrade hne => ?_⟩
    · have hne : record.tradeId ≠ tradeId := fun heq => hmem (heq ▸ htradeId)
      rw [World.withStore_store, isClosed_upsertTrade, if_neg hne]
      exact (h.listed _ htradeId).2
    · rcases Table.mem_insert.mp htrade with rfl | ⟨htrade, -⟩
      · exact hclosed
      · exact h.missing trade htrade hne

theorem Polled.open_of_listed (h : Polled current w) (hmem : tradeId ∈ current.map Prod.fst)
    (hget : w.store.getTrade tradeId = some record) : record.state = .OPEN := by
  cases hstate : record.state with
  | OPEN => rfl
  | CLOSED =>
      have hclosed := TradeStore.isClosed_iff.mpr ⟨record, hget, hstate⟩
      exact nomatch (h.listed tradeId hmem).2.symm.trans hclosed

theorem rg_pollCurrent_keeps {now : Instant} {accountCurrency : String}
    {existingOpen : List TradeRecord} {entry : String × OpenTrade} (hentry : entry ∈ current)
    (hs : Polled current s) :
    (pollCurrent cfg now accountCurrency existingOpen entry).Rg (World.guarded lossy ClosesStored)
      World.Trades JournalStep (After (Polled current) (Polled current)) s := by
  have hlisted : entry.1 ∈ current.map Prod.fst := List.mem_map_of_mem hentry
  refine rg_pollCurrent
    (X := fun existing t => Polled current t ∧ t.store.getTrade entry.1 = some existing)
    World.Trades.refl JournalStep.refl (fun _ _ ht h => ht.trades h)
    (fun _ _ _ ht h => ⟨ht.1.trades h, h.grows.store ▸ ht.2⟩) (fun _ _ ht => ht.1)
    (fun _ _ ht hget => ⟨ht, hget⟩) (fun _ event hevent t notes record ht hrecord => ?_)
    (fun _ t existing updated ht hupdated => ?_) hs
  · obtain ⟨hself, hstate⟩ := openedFields_ok hrecord
    have hid : record.tradeId = entry.1 := hself.trans (openedEvent_ok hevent).1
    exact ht.upsertTrade (fun _ => hstate) fun hmissing => absurd (hid ▸ hlisted) hmissing
  · obtain ⟨hself, hsame⟩ := modifiedFields_ok hupdated
    have hid : updated.tradeId = entry.1 := hself.trans (TradeStore.getTrade_tradeId ht.2)
    exact ht.1.upsertTrade (fun _ => hsame.trans (ht.1.open_of_listed hlisted ht.2))
      fun hmissing => absurd (hid ▸ hlisted) hmissing

theorem rg_pollExisting_keeps {now : Instant} {accountCurrency : String} {existing : TradeRecord}
    (hs : Polled current s) :
    (pollExisting cfg now accountCurrency current existing).Rg (World.guarded lossy ClosesStored)
      World.Trades JournalStep (After (Polled current) (Polled current)) s := by
  by_cases hlisted : current.any (fun entry => entry.1 == existing.tradeId) = true
  · unfold pollExisting
    rw [if_pos hlisted]
    exact fun t ht => hs.trades ht
  have hmissing : existing.tradeId ∉ current.map Prod.fst := by simpa using hlisted
  refine rg_pollExisting (D := Polled current)
    (X := fun existing' t => Polled current t ∧ t.store.getTrade existing.tradeId = some existing')
    World.Trades.refl JournalStep.refl (fun _ _ ht h => ht.trades h) (fun _ _ ht h => ht.trades h)
    (fun _ ht => ht) (fun _ _ _ ht h => ⟨ht.1.trades h, h.grows.store ▸ ht.2⟩) (fun _ _ ht => ht.1)
    (fun _ _ ht _ => ht) (fun _ _ ht hget => ⟨ht, hget⟩)
    (fun _ _ event _ t existing' pips closed ht hclosed => ?_) hs
  obtain ⟨hself, hstate⟩ := closedByPoller_ok hclosed
  have hid : closed.tradeId = existing.tradeId := hself.trans (TradeStore.getTrade_tradeId ht.2)
  refine ht.1.upsertTrade (fun h => absurd (hid ▸ h) hmissing) fun _ => ⟨hstate, ?_, ?_⟩
  · exact hid ▸ ht.1.sound.getTrade_opened ht.2
  · obtain ⟨hmem, hid'⟩ := Table.find_some ht.2
    exact hid ▸ hid' ▸ ht.1.missing existing' hmem (hid'.symm ▸ hmissing)

theorem rg_pollOnceSync_keeps (hs : JournalSound s) :
    (pollOnceSync cfg).Rg (World.guarded lossy ClosesStored) World.Trades JournalStep
      (After JournalSound JournalSound) s :=
  rg_pollOnceSync (L := Polled) (M := fun current _ => Polled current) World.Trades.refl
    JournalStep.refl (fun _ _ ht h => ht.trades h) (fun _ _ _ ht h => ht.trades h)
    (fun _ _ _ _ ht h => ht.trades h) (fun _ ht => ht) (fun _ _ ht => ht.sound)
    (fun _ _ _ ht => ht.sound) (fun _ _ ht _ hcurrent => ht.polled hcurrent)
    (fun _ _ _ ht _ _ => ht) (fun _ _ _ _ _ hentry _ ht => rg_pollCurrent_keeps hentry ht)
    (fun _ _ _ _ _ _ _ ht => rg_pollExisting_keeps ht) hs

/-! ### Sequences of calls -/

/-- Every step of a sequence keeps the journal sound and its closed trades closed. -/
theorem rg_runJournal {ops : List JournalOp} (hs : JournalSound s) :
    (runJournal cfg ops).Rg (World.guarded lossy ClosesStored) World.Trades JournalStep
      (fun _ _ => True) s := by
  refine (rg_each_after (J := JournalSound) (E := fun _ => True) World.Trades.refl
    (fun _ _ ht h => ht.trades h) (fun op _ t ht => rg_attempt ?_) hs).mono fun _ _ _ => trivial
  have hsound : ∀ t t', JournalSound t → t.Trades t' → JournalSound t' := fun _ _ ht h => ht.trades h
  have hop : (op.run cfg).Rg (World.guarded lossy ClosesStored) World.Trades JournalStep
      (After JournalSound JournalSound) t := by
    cases op with
    | runOnce =>
        exact rg_bind_after World.Trades.refl (rg_pollOnceSync_keeps ht)
          (fun _ t₁ ht₁ t₂ ht₂ => hsound t₁ t₂ ht₁ ht₂) fun _ t₁ ht₁ => ht₁
    | incrementalSync =>
        exact rg_bind_after World.Trades.refl (rg_incrementalSync_sound World.Trades.refl hsound
          (fun _ _ => .of_trades_eq) (fun _ _ _ => rg_ingest_keeps) ht)
          (fun _ t₁ ht₁ t₂ ht₂ => hsound t₁ t₂ ht₁ ht₂) fun _ t₁ ht₁ => ht₁
    | backfillHistory startDay endDay tzName =>
        exact rg_bind_after World.Trades.refl (rg_backfillHistory_sound World.Trades.refl hsound
          (fun _ _ => .of_trades_eq) (fun _ _ _ => rg_ingest_keeps) ht)
          (fun _ t₁ ht₁ t₂ ht₂ => hsound t₁ t₂ ht₁ ht₂) fun _ t₁ ht₁ => ht₁
  exact hop.mono fun r _ hr => by cases r <;> exact hr

end

/-- **Closed trades stay closed.**  In a sequence of poller cycles, syncs and backfills that starts
from a sound journal while a coherent broker trades, no step opens a closed trade again, when every
closed trade that is projected has its closing fill among the stored events. -/
theorem runJournal_stays_closed (cfg : Config) (lossy : Call → Prop) (ops : List JournalOp)
    (w w' : World) (tr : List (Event Call Ans Exn World Unit)) (hsound : JournalSound w)
    (hreach : (runJournal cfg ops).Reaches (World.faulty lossy) World.Trades w tr w')
    (hstored : ∀ e ∈ tr, ClosesStored e.call e.pre) :
    ∀ e ∈ tr, KeepsClosed e.pre e.post := fun e he =>
  ((hreach.when hstored).guarantee World.Trades.refl (fun _ _ _ => World.Trades.trans)
    (fun _ _ h => h) (rg_runJournal hsound) e he).keepsClosed

/-! ### A backfill of the first day -/

def openedTrade : World :=
  let world := sampleWorld ⟨[openingFill 1 90000000000 "1" 100], by decide⟩
  { world with
    broker := { world.broker with
      openTrades := [sampleOpenTrade "1"]
      tradeDetail := fun _ => some {} } }

/-- The same world once the trade is closed on day 2. -/
def World.afterClose (w : World) : World :=
  { w with
    broker := { w.broker with
      log := ⟨[openingFill 1 90000000000 "1" 100, closingFill 2 180000000000 "1" 100], by decide⟩
      openTrades := [] } }

theorem journalSound_openedTrade : JournalSound openedTrade := by
  refine .start rfl fun tradeId => ?_
  have hlog : openedTrade.broker.log.openedIds = ["1"] ∧ openedTrade.broker.log.closedIds = [] ∧
      openedTrade.broker.openIds = ["1"] := by decide +kernel
  simp [TransactionLog.Opened, TransactionLog.Closed, hlog]

theorem trades_afterClose {w : World} (h : w.broker.log = openedTrade.broker.log) :
    w.Trades w.afterClose := by
  refine ⟨⟨rfl, rfl, rfl, h ▸ ⟨[closingFill 2 180000000000 "1" 100], rfl⟩⟩, fun _ tradeId => ?_⟩
  have hlog : w.afterClose.broker.log.openedIds = ["1"] ∧
      w.afterClose.broker.log.closedIds = ["1"] ∧ w.afterClose.broker.openIds = [] := ⟨rfl, rfl, rfl⟩
  simp [TransactionLog.Opened, TransactionLog.Closed, hlog]

/-- The poller records the trade (six calls), ... -/
def pollOpened (ops : List JournalOp) :=
  Run.schedule World.answer (List.replicate 6 ())
    (fun _ => runJournal sampleConfig (.runOnce :: .runOnce :: ops)) openedTrade

/-- ... the trade is closed at the broker, the poller records that, and `ops` are run. -/
def pollClosed (ops : List JournalOp) :=
  Run.schedule World.answer (List.replicate 40 ()) (pollOpened ops).2.1
    (pollOpened ops).2.2.afterClose

theorem reaches_pollClosed {H : Host Call Ans Exn World}
    (hH : ∀ c w, H.step c w (World.answer c w).1 (World.answer c w).2) {ops : List JournalOp}
    (hlog : (pollOpened ops).2.2.broker.log = openedTrade.broker.log) :
    (runJournal sampleConfig (.runOnce :: .runOnce :: ops)).Reaches H World.Trades openedTrade
      ((pollOpened ops).1 ++ (pollClosed ops).1) (pollClosed ops).2.2 :=
  ⟨_, ((Run.of_schedule hH _ _ _).env (trades_afterClose hlog)).append (Run.of_schedule hH _ _ _)⟩

/-- The backfill of day 1 opens the closed trade again. -/
theorem runJournal_reopens_partHistory : JournalSound openedTrade ∧
    ¬ ∀ tr w', (runJournal sampleConfig [.runOnce, .runOnce, .backfillHistory 1 1 none]).Reaches
        (Host.ofFun World.answer) World.Trades openedTrade tr w' →
      ∀ e ∈ tr, KeepsClosed e.pre e.post := by
  refine ⟨journalSound_openedTrade, fun h => ?_⟩
  have hreopened : ∃ e ∈ (pollOpened [.backfillHistory 1 1 none]).1 ++
      (pollClosed [.backfillHistory 1 1 none]).1,
      e.pre.store.isClosed "1" = true ∧ e.post.store.isClosed "1" = false := by decide +kernel
  obtain ⟨e, he, hclosed, hopen⟩ := hreopened
  have hkeeps := h _ _ (reaches_pollClosed (fun _ _ => rfl) (by decide +kernel)) e he "1" hclosed
  exact nomatch hopen.symm.trans hkeeps

/-- The backfill of both days, and a sync, keep it closed. -/
theorem runJournal_stays_closed_wholeHistory :
    (pollClosed [.backfillHistory 1 2 none, .incrementalSync]).2.2.store.isClosed "1" = true ∧
    ∀ e ∈ (pollOpened [.backfillHistory 1 2 none, .incrementalSync]).1 ++
      (pollClosed [.backfillHistory 1 2 none, .incrementalSync]).1, KeepsClosed e.pre e.post :=
  ⟨by decide +kernel, runJournal_stays_closed sampleConfig (fun _ => False)
    [.runOnce, .runOnce, .backfillHistory 1 2 none, .incrementalSync] openedTrade _ _
    journalSound_openedTrade
    (reaches_pollClosed (World.faulty_of_answer _) (by decide +kernel)) (by decide +kernel)⟩

end OandaV3
