import OandaV3.Lifecycle
import OandaV3.TradeRules

/-! # The order of the writers

Poller cycles and history syncs write one record of a trade.  `runWriters` runs a schedule of them one
after the other, each on what the broker reports then; a writer that raises is followed by the next.

The projection of a sync keeps the units, the price and the time of the record it finds, and the
poller's cycle opens a record with the units that are open then.  So the record keeps the units its
first writer reported (`Lifecycle.firstUnits`), and everything else comes out the same
(`writers_agree`): two schedules end with the same record exactly when their first writers reported
the same units.  A poller cycle that is the first to see a trade after a partial close reports less
than the fill that opened it (`writers_disagree`). -/

namespace OandaV3

open Interaction Program

/-! ### Schedules -/

inductive Writer where
  | poller
  | historySync
deriving DecidableEq, Repr

def Writer.run (cfg : Config) : Writer → Prog Unit
  | .poller => do
      let _ ← pollOnceSync cfg
  | .historySync => do
      let _ ← incrementalSync cfg

/-- A writer runs, on what the broker reports then. -/
structure Observation where
  writer : Writer
  broker : Broker
  clock : Instant

namespace Observation

variable (o : Observation) (cfg : Config) (w : World)

/-- The world the writer runs in. -/
def world : World := { w with broker := o.broker, clock := o.clock }

/-- What the writer returns, and the world it leaves. -/
def outcome : Except Exn Unit × World := (o.writer.run cfg).eval World.answer (o.world w)

/-- The world the writer leaves. -/
def after : World := (o.outcome cfg w).2

def returns : Bool := (o.outcome cfg w).1.isOk

end Observation

def runWriters (cfg : Config) (w : World) (s : List Observation) : World :=
  s.foldl (fun w o => o.after cfg w) w

/-- Some observation of the schedule has a property, in the world it starts from. -/
def Occurs (cfg : Config) (P : World → Observation → Prop) : World → List Observation → Prop
  | _, [] => False
  | w, o :: os => P w o ∨ Occurs cfg P (o.after cfg w) os

instance Occurs.decidable {cfg : Config} {P : World → Observation → Prop}
    [∀ w o, Decidable (P w o)] : ∀ w s, Decidable (Occurs cfg P w s)
  | _, [] => inferInstanceAs (Decidable False)
  | w, o :: os => @instDecidableOr _ _ _ (Occurs.decidable (o.after cfg w) os)

/-- The fields of a record the writers share. -/
structure TradeOutcome where
  units : ℚ
  openPrice : ℚ
  openedAt : Instant
  closePrice : Option ℚ
  closeReason : Option CloseReason
  pips : Option ℚ
  accountPnl : Option ℚ
deriving DecidableEq, Repr

/-- The outcome a record shows. -/
def TradeFields.outcome (record : TradeFields) : TradeOutcome where
  units := record.units
  openPrice := record.openPrice
  openedAt := record.openedAt
  closePrice := record.closePrice
  closeReason := record.closeReason
  pips := record.pips
  accountPnl := record.accountPnl

def TradeStore.outcome (store : TradeStore) (tradeId : String) : Option TradeOutcome :=
  (store.getTrade tradeId).map fun record => record.outcome

namespace Lifecycle

variable (L : Lifecycle) (cfg : Config)

/-- A poller cycle sees the trade open, and returns. -/
def SeesOpen (w : World) (o : Observation) : Prop :=
  o.writer = .poller ∧ L.tradeId ∈ o.broker.openIds ∧ o.returns cfg w = true

/-- A sync after the close fetches the closing fill and returns, and every event of the trade is
stored. -/
def IngestsFills (w : World) (o : Observation) : Prop :=
  o.writer = .historySync ∧ o.returns cfg w = true ∧
    L.closing ∈ o.broker.log.transactions ∧
    (w.store.watermark cfg.oandaAccountId).any (fun id => decide (id < L.closing.id)) = true ∧
    L.EventsHeld cfg.journalTimezone (o.after cfg w).store.tradeHistoryEvents

instance (w : World) (o : Observation) : Decidable (L.SeesOpen cfg w o) :=
  inferInstanceAs (Decidable (_ ∧ _))

instance (w : World) (o : Observation) : Decidable (L.IngestsFills cfg w o) :=
  inferInstanceAs (Decidable (_ ∧ _))

/-- A schedule of writers over the lifecycle, from a journal that does not know the trade. -/
structure Schedule (w : World) (s : List Observation) : Prop where
  no_record : w.store.getTrade L.tradeId = none
  no_events : ∀ e : TradeHistoryEvent, .trade e ∈ w.store.tradeHistoryEvents.docs →
    e.tradeId ≠ L.tradeId
  reports : ∀ o ∈ s, L.Reports o.broker
  grows : s.Pairwise fun o o' => o.broker.log.Grows o'.broker.log
  seen : Occurs cfg (L.SeesOpen cfg) w s
  ingested : Occurs cfg (L.IngestsFills cfg) w s

/-- The units an observation reports for a trade the journal has no record of. -/
def reportedUnits (o : Observation) : ℚ :=
  match o.writer with
  | .poller => L.openUnits o.broker.log
  | .historySync => L.units

/-- The units reported by the last observation that starts without a record of the trade. -/
def firstUnits : World → List Observation → ℚ
  | _, [] => L.units
  | w, o :: os =>
      if ((o.after cfg w).store.getTrade L.tradeId).isSome then L.reportedUnits o
      else firstUnits (o.after cfg w) os

/-! ### The record before the close is ingested -/

/-- The record of the trade, or `fresh` when there is none yet. -/
def Tracked (log : TransactionLog) (u : ℚ) (ordered fresh : Prop) : Option TradeRecord → Prop
  | some record => L.Records log u ordered record
  | none => fresh

/-- The symbol of the trade is one the registry returns as it is. -/
def Canonical : Prop := ∀ symbol, cfg.validateLiveInstrument L.instrument = .ok symbol →
  symbol = L.instrument

variable {L cfg} {broker : Broker} {u : ℚ} {ordered fresh : Prop} {w : World}

theorem pollerKeeps_tracked (hsymbol : L.Canonical cfg) (h : L.Reports broker)
    (hfresh : fresh → u = L.openUnits broker.log) :
    PollerKeeps cfg L.tradeId broker (L.Tracked broker.log u ordered fresh) := by
  refine ⟨fun hlisted item hitem hid before hbefore hopen now currency event notes record hevent
    hrecord => ?_, fun hlisted item hitem hid now existing updated hexisting hupdated => ?_,
    fun hmissing before hbefore hstate existing event pips closed hexisting hclosed => ?_⟩
  · obtain ⟨hopening, hclosing⟩ := h.listed.mp hlisted
    have hu : u = L.openUnits broker.log := by
      cases before with
      | none => exact hfresh hbefore
      | some trade =>
          cases hstate : trade.state with
          | OPEN => exact absurd hstate (hopen trade rfl)
          | CLOSED => exact absurd (Records.closing hbefore hstate) hclosing
    obtain ⟨hshow, hunits, hprice, htime, hsl, htp⟩ := h.shows item hitem hid
    obtain ⟨-, hesl, hetp, heunits, heprice, hetime,
      ⟨symbol, hesymbol, hvalid⟩, -⟩ := openedEvent_ok hevent
    have hfields := TradeFields.validate_ok hrecord
    obtain rfl : L.instrument = symbol := Option.some.inj (hshow.symm.trans hesymbol)
    refine ⟨?_, hu ▸ openUnits_side h hopening hclosing, ?_, ?_, ?_, fun _ => ⟨?_, ?_⟩, hopening, ?_⟩ <;>
      rw [hfields]
    · exact (Option.some.inj (heunits.symm.trans hunits)).trans hu.symm
    · exact Option.some.inj (heprice.symm.trans hprice)
    · exact hetime.trans (by rw [htime]; rfl)
    · exact hsymbol _ hvalid
    · exact hesl.trans hsl
    · exact hetp.trans htp
    · exact fun hstate => nomatch hstate
  · have hshow := h.shows item hitem hid
    have hfields := TradeFields.validate_ok hupdated
    exact ⟨hfields ▸ hexisting.units, hexisting.side, hfields ▸ hexisting.openPrice,
      hfields ▸ hexisting.openedAt, hfields ▸ hexisting.instrument,
      fun _ => hfields ▸ ⟨hshow.stopLoss, hshow.takeProfit⟩, hexisting.opening,
      hfields ▸ hexisting.closing⟩
  · have hfields := TradeFields.validate_ok hclosed
    have hclosing : L.closing ∈ broker.log.transactions := by
      by_contra hnone
      exact hmissing (h.listed.mpr ⟨hexisting.opening, hnone⟩)
    exact ⟨hfields ▸ hexisting.units, hexisting.side, hfields ▸ hexisting.openPrice,
      hfields ▸ hexisting.openedAt, hfields ▸ hexisting.instrument, hfields ▸ hexisting.orders,
      hexisting.opening, fun _ => hclosing⟩

theorem units_side (L : Lifecycle) : 0 < L.units * L.units := by
  have hopen := L.stays_open [] (by simp)
  simpa using hopen

/-- A record with the base of one that shows the trade shows it too. -/
theorem Records.of_base {record record' : TradeRecord} (h : L.Records broker.log u ordered record)
    (hbase : recordBase record.toTradeFields = recordBase record'.toTradeFields)
    (hclosing : record'.state = .CLOSED → L.closing ∈ broker.log.transactions) :
    L.Records broker.log u ordered record' := by
  simp only [recordBase, TradeBase.mk.injEq] at hbase
  obtain ⟨hunits, hprice, htime, hinstrument, hsl, htp, -⟩ := hbase
  exact ⟨hunits ▸ h.units, h.side, hprice ▸ h.openPrice, htime ▸ h.openedAt,
    hinstrument ▸ h.instrument, fun hordered => hsl ▸ htp ▸ h.orders hordered, h.opening, hclosing⟩

theorem syncKeeps_tracked (h : L.Reports broker) (hfresh : fresh → u = L.units ∧ ¬ ordered) :
    SyncKeeps cfg L.tradeId broker (L.EventsFrom cfg.journalTimezone broker.log)
      (L.Tracked broker.log u ordered fresh) := by
  refine ⟨fun table batch hfrom hbatch => hfrom.insertAll hbatch,
    fun store existing record hfrom hexisting hrecord => ?_⟩
  have hevent : ∀ e ∈ store.tradeEvents L.tradeId, e.tradeId = L.tradeId ∧
      ∃ t ∈ broker.log.transactions, .trade e ∈ normalizedRows cfg.journalTimezone t := by
    intro e he
    obtain ⟨hmem, hid⟩ := TradeStore.mem_tradeEvents.mp he
    obtain ⟨t, ht, hrow⟩ := hfrom e hid hmem
    exact ⟨hid, t, ht, hrow.mem⟩
  have hclosing : record.state = .CLOSED → L.closing ∈ broker.log.transactions := by
    intro hstate
    rw [projection_state hrecord] at hstate
    split_ifs at hstate with hclose
    obtain ⟨e, he, hclose⟩ := hasClose_iff.mp hclose
    obtain ⟨hid, t, ht, hrow⟩ := hevent e he
    exact closing_event h ht hrow hid hclose
  have hbase := recordBase_projection hrecord
  cases existing with
  | some existing =>
      rw [tradeBase_some] at hbase
      exact Records.of_base hexisting (Option.some.inj hbase) hclosing
  | none =>
      obtain ⟨hu, hordered⟩ := hfresh hexisting
      simp only [tradeBase] at hbase
      cases hfind : (store.tradeEvents L.tradeId).find? (fun e => e.eventType == .OPEN) with
      | none => rw [hfind] at hbase; cases hbase
      | some e =>
          obtain ⟨hid, t, ht, hrow⟩ := hevent e (List.mem_of_find?_eq_some hfind)
          have hopen : e.eventType = .OPEN := by simpa using List.find?_some hfind
          obtain ⟨hunits, hprice, htime, hinstrument⟩ := opening_event h ht hrow hid hopen
          simp only [hfind, hprice, Option.bind_eq_bind, Option.bind_some, Option.pure_def,
            Option.some.injEq, recordBase, TradeBase.mk.injEq] at hbase
          obtain ⟨hrunits, hrprice, hrtime, hrinstrument, -⟩ := hbase
          exact ⟨hu ▸ hrunits ▸ hunits, hu ▸ L.units_side, hrprice.symm, hrtime ▸ htime,
            hrinstrument ▸ hinstrument, fun h => absurd h hordered,
            opening_mem h ht (hid ▸ fills_of_row hrow), hclosing⟩

/-! ### The record after the close is ingested -/

/-- The events of the trade are stored, and its record is their projection. -/
structure Finished (L : Lifecycle) (cfg : Config) (log : TransactionLog) (u : ℚ)
    (record : TradeRecord) (store : TradeStore) : Prop where
  stored : store.getTrade L.tradeId = some record
  records : L.Records log u True record
  closed : record.state = .CLOSED
  events_from : L.EventsFrom cfg.journalTimezone log store.tradeHistoryEvents
  events_held : L.EventsHeld cfg.journalTimezone store.tradeHistoryEvents
  projected : projection cfg L.tradeId (store.tradeEvents L.tradeId) (some record) =
    .ok (some record)

theorem pollerKeeps_finished {record : TradeRecord} (h : L.Reports broker)
    (hclosing : L.closing ∈ broker.log.transactions) (hclosed : record.state = .CLOSED) :
    PollerKeeps cfg L.tradeId broker (· = some record) := by
  have hmissing : L.tradeId ∉ broker.openIds := fun hlisted => (h.listed.mp hlisted).2 hclosing
  refine ⟨fun hlisted => absurd hlisted hmissing, fun hlisted => absurd hlisted hmissing,
    fun _ before hbefore hopen => ?_⟩
  obtain rfl := Option.some.inj hbefore
  exact nomatch hopen.symm.trans hclosed

theorem syncKeeps_finished {record : TradeRecord} (h : L.Reports broker)
    (hclosing : L.closing ∈ broker.log.transactions)
    (hprojected : ∀ store : TradeStore,
      L.EventsFrom cfg.journalTimezone broker.log store.tradeHistoryEvents →
      L.EventsHeld cfg.journalTimezone store.tradeHistoryEvents →
        projection cfg L.tradeId (store.tradeEvents L.tradeId) (some record) = .ok (some record)) :
    SyncKeeps cfg L.tradeId broker (fun table => L.EventsFrom cfg.journalTimezone broker.log table ∧
      L.EventsHeld cfg.journalTimezone table) (· = some record) := by
  have hfills : ∀ t ∈ L.fills, t ∈ broker.log.transactions := by
    rw [← fillsOf_eq h hclosing]
    exact fun t ht => (mem_fillsOf.mp ht).1
  refine ⟨fun table batch htable hbatch =>
    ⟨htable.1.insertAll hbatch, htable.2.insertAll hfills hbatch⟩,
    fun store existing record' htable hexisting hrecord => ?_⟩
  obtain rfl : existing = some record := hexisting
  rw [hprojected store htable.1 htable.2] at hrecord
  exact (Except.ok.inj hrecord).symm

/-! ### One observation -/

theorem after_poller {o : Observation} (ho : o.writer = .poller) :
    o.after cfg w = ((pollOnceSync cfg).eval World.answer (o.world w)).2 := by
  rw [Observation.after, Observation.outcome, ho, Writer.run, bind_def, eval_bind]
  cases (pollOnceSync cfg).eval World.answer (o.world w) with
  | mk r w' => cases r <;> rfl

theorem after_sync {o : Observation} (ho : o.writer = .historySync) :
    o.after cfg w = ((incrementalSync cfg).eval World.answer (o.world w)).2 := by
  rw [Observation.after, Observation.outcome, ho, Writer.run, bind_def, eval_bind]
  cases (incrementalSync cfg).eval World.answer (o.world w) with
  | mk r w' => cases r <;> rfl

/-- Any writer keeps what both writers keep. -/
theorem tracks_after {o : Observation} {V : Table HistoryRow.eventId → Prop}
    {K : Option TradeRecord → Prop}
    (hpoller : o.writer = .poller → PollerKeeps cfg L.tradeId o.broker K)
    (hsync : o.writer = .historySync → SyncKeeps cfg L.tradeId o.broker V K)
    (hV : V w.store.tradeHistoryEvents) (hK : K (w.store.getTrade L.tradeId)) :
    Tracks L.tradeId o.broker V K (o.after cfg w) := by
  have h : Tracks L.tradeId o.broker V K (o.world w) := ⟨rfl, hV, hK⟩
  cases ho : o.writer with
  | poller => rw [after_poller ho]; exact h.pollOnceSync (hpoller ho)
  | historySync => rw [after_sync ho]; exact h.incrementalSync (hsync ho)

variable {log : TransactionLog} {o : Observation} {record : TradeRecord}

theorem Tracked.grows {before : Option TradeRecord} (h : L.Tracked log u ordered fresh before)
    {log' : TransactionLog} (hlog : log.Grows log') : L.Tracked log' u ordered fresh before := by
  cases before with
  | none => exact h
  | some record => exact Records.grows h hlog

/-- A writer keeps the record; the first one makes it from the units it reports. -/
theorem tracked_after (hsymbol : L.Canonical cfg) (hreports : L.Reports o.broker)
    (hlog : log.Grows o.broker.log)
    (hfresh : fresh → u = L.reportedUnits o ∧ ¬ ordered)
    (hfrom : L.EventsFrom cfg.journalTimezone log w.store.tradeHistoryEvents)
    (hrecord : L.Tracked log u ordered fresh (w.store.getTrade L.tradeId)) :
    Tracks L.tradeId o.broker (L.EventsFrom cfg.journalTimezone o.broker.log)
      (L.Tracked o.broker.log u ordered fresh) (o.after cfg w) := by
  refine tracks_after (fun ho => pollerKeeps_tracked hsymbol hreports fun h => ?_)
    (fun ho => syncKeeps_tracked hreports fun h => ?_) (hfrom.grows hlog) (hrecord.grows hlog)
  · have hu := (hfresh h).1
    rwa [reportedUnits, ho] at hu
  · have hu := hfresh h
    rwa [reportedUnits, ho] at hu

/-- A cycle that saw the trade open leaves its protective orders in the record. -/
theorem orders_after (hreports : L.Reports o.broker) (hsees : L.SeesOpen cfg w o)
    (hrecord : L.Tracked o.broker.log u False fresh ((o.after cfg w).store.getTrade L.tradeId)) :
    L.Tracked o.broker.log u True False ((o.after cfg w).store.getTrade L.tradeId) := by
  obtain ⟨ho, hlisted, hreturns⟩ := hsees
  rw [after_poller ho] at hrecord ⊢
  rw [Observation.returns, Observation.outcome, ho, Writer.run, bind_def, eval_bind] at hreturns
  cases hrun : (pollOnceSync cfg).eval World.answer (o.world w) with
  | mk r w' =>
      rw [hrun] at hreturns hrecord
      cases r with
      | error e => cases hreturns
      | ok report =>
          obtain ⟨entries, hentries, hmirrored, -⟩ := pollOnceSync_loops hrun
          obtain ⟨entry, hentry, hid⟩ :=
            List.mem_map.mp (((currentById_ok hentries).2 L.tradeId).mpr hlisted)
          obtain ⟨hitem, hitemId⟩ := mem_currentById hentries hentry
          obtain ⟨trade, hget, -, hsl, htp, -⟩ := hmirrored entry hentry
          have hshow := hreports.shows entry.2 hitem (hid ▸ hitemId)
          rw [hid] at hget
          simp only [hget] at hrecord ⊢
          exact { hrecord with
            orders := fun _ => ⟨hsl.trans hshow.stopLoss, htp.trans hshow.takeProfit⟩ }

theorem Finished.syncKeeps {store : TradeStore} (hreports : L.Reports broker)
    (h : L.Finished cfg broker.log u record store) :
    SyncKeeps cfg L.tradeId broker (fun table => L.EventsFrom cfg.journalTimezone broker.log table ∧
      L.EventsHeld cfg.journalTimezone table) (· = some record) :=
  syncKeeps_finished hreports (h.records.closing h.closed) fun _ hfrom hheld =>
    tradeEvents_eq hreports hreports h.events_from hfrom h.events_held hheld ▸ h.projected

theorem Finished.of_tracks {store : TradeStore} (hreports : L.Reports broker)
    (h : L.Finished cfg broker.log u record store)
    (hw : Tracks L.tradeId broker (fun table => L.EventsFrom cfg.journalTimezone broker.log table ∧
      L.EventsHeld cfg.journalTimezone table) (· = some record) w) :
    L.Finished cfg broker.log u record w.store :=
  ⟨hw.record, h.records, h.closed, hw.events.1, hw.events.2, tradeEvents_eq hreports hreports
    h.events_from hw.events.1 h.events_held hw.events.2 ▸ h.projected⟩

theorem finished_after (hreports : L.Reports o.broker) (hlog : log.Grows o.broker.log)
    (h : L.Finished cfg log u record w.store) :
    L.Finished cfg o.broker.log u record (o.after cfg w).store := by
  have h' : L.Finished cfg o.broker.log u record w.store :=
    { h with records := h.records.grows hlog, events_from := h.events_from.grows hlog }
  exact h'.of_tracks hreports (tracks_after
    (fun _ => pollerKeeps_finished hreports (h'.records.closing h.closed) h.closed)
    (fun _ => h'.syncKeeps hreports) ⟨h'.events_from, h.events_held⟩ h.stored)

/-- The projection of an accepted batch with the closing fill finishes the record. -/
theorem finished_of_projects {batch : List Transaction} {bs : List Bool} {w' : World}
    (hbatch : ∀ t ∈ batch, t ∈ w.broker.log.transactions)
    (hclosing : L.closing ∈ batch)
    (haccepted : normalizeTransaction cfg.journalTimezone L.closing =
      .ok (normalizedRows cfg.journalTimezone L.closing))
    (hfrom : L.EventsFrom cfg.journalTimezone w.broker.log w.store.tradeHistoryEvents)
    (hrecord : L.Tracked w.broker.log u True False (w.store.getTrade L.tradeId))
    (hproject : (each (projectTradeRecord cfg) (projectedTradeIds
      (batch.flatMap (normalizedRows cfg.journalTimezone)))).eval World.answer (w.withStore
        (storeBatch w.store batch (batch.flatMap (normalizedRows cfg.journalTimezone)))) = (.ok bs, w'))
    (hheld : L.EventsHeld cfg.journalTimezone w'.store.tradeHistoryEvents) :
    ∃ record, L.Finished cfg w.broker.log u record w'.store := by
  obtain ⟨e, hrow, hid, hclose⟩ := closing_row haccepted
  obtain ⟨honly, hmem, -⟩ := projectTrades_ok (nodup_projectedTradeIds _) hproject
  have hprojected : L.tradeId ∈ projectedTradeIds
      (batch.flatMap (normalizedRows cfg.journalTimezone)) :=
    mem_projectedTradeIds.mpr ⟨e, List.mem_flatMap.mpr ⟨L.closing, hclosing, hrow.mem⟩, hid⟩
  obtain ⟨hprojects, hget⟩ := hmem L.tradeId hprojected
  rw [← honly.tradeEvents] at hprojects hget
  have hclosingEvent : e ∈ w'.store.tradeEvents L.tradeId := by
    refine TradeStore.mem_tradeEvents.mpr ⟨hheld L.closing ?_ _ hrow.mem ?_ hrow, hid⟩
    · exact List.mem_cons_of_mem _ (List.mem_append_right _ (List.mem_singleton_self _))
    · simp [HistoryRow.asTrade, hid]
  have hhasClose : hasClose (w'.store.tradeEvents L.tradeId) = true :=
    hasClose_iff.mpr ⟨e, hclosingEvent, hclose⟩
  change Projects cfg L.tradeId _ (w.store.getTrade L.tradeId) at hprojects
  change _ = journalRecord cfg L.tradeId _ (w.store.getTrade L.tradeId) at hget
  cases hexisting : w.store.getTrade L.tradeId with
  | none => rw [hexisting] at hrecord; exact hrecord.elim
  | some existing =>
      rw [hexisting] at hrecord hprojects hget
      obtain ⟨result, hresult⟩ := hprojects (List.ne_nil_of_mem hclosingEvent)
      cases result with
      | none => exact absurd hresult projection_some_ne_none
      | some record =>
          rw [journalRecord_of_some (List.ne_nil_of_mem hclosingEvent) hresult] at hget
          have hbase := recordBase_projection hresult
          rw [tradeBase_some] at hbase
          have hstate : record.state = .CLOSED := by rw [projection_state hresult, if_pos hhasClose]
          refine ⟨record, hget, Records.of_base hrecord (Option.some.inj hbase) fun _ =>
            hbatch _ hclosing, hstate, ?_, hheld, projection_self hresult⟩
          obtain ⟨trades, rfl⟩ := honly
          exact hfrom.insertAll hbatch

/-- A sync that ingested the fills after the close finishes the record. -/
theorem finished_of_ingests (hreports : L.Reports o.broker) (hlog : log.Grows o.broker.log)
    (hfrom : L.EventsFrom cfg.journalTimezone log w.store.tradeHistoryEvents)
    (hrecord : L.Tracked log u True False (w.store.getTrade L.tradeId))
    (h : L.IngestsFills cfg w o) :
    ∃ record, L.Finished cfg o.broker.log u record (o.after cfg w).store := by
  obtain ⟨ho, hreturns, hclosing, hmark, hheld⟩ := h
  rw [after_sync ho] at hheld ⊢
  rw [Observation.returns, Observation.outcome, ho, Writer.run, bind_def, eval_bind] at hreturns
  cases hrun : (incrementalSync cfg).eval World.answer (o.world w) with
  | mk r w' =>
      rw [hrun] at hreturns hheld
      cases r with
      | error e => cases hreturns
      | ok report =>
          obtain ⟨state, hstate, hlast⟩ : ∃ state, (o.world w).store.getTradeHistorySyncState
              cfg.oandaAccountId = some state ∧ state.lastTransactionId < L.closing.id := by
            obtain ⟨last, hlast, hlt⟩ := (Option.any_eq_true _ _).mp hmark
            obtain ⟨state, hstate, rfl⟩ := Option.map_eq_some_iff.mp hlast
            exact ⟨state, hstate, of_decide_eq_true hlt⟩
          obtain ⟨counts, w₁, next, hingest, rfl⟩ := incrementalSync_ok hstate hrun
          obtain ⟨rows, bs, n, w₂, hrows, hproject, hrepair⟩ := ingest_ok hingest
          obtain ⟨rfl, haccepted⟩ := normalizeTransactions_ok.mp hrows
          have hfill : L.closing.hasType tradeHistoryTypeFilter = true := by
            rw [Transaction.hasType, L.fill_type _ (List.mem_cons_of_mem _
              (List.mem_append_right _ (List.mem_singleton_self _)))]
            decide
          have hfetched : L.closing ∈ o.broker.log.since state.lastTransactionId
              tradeHistoryTypeFilter := TransactionLog.mem_since.mpr ⟨hclosing, hlast, hfill⟩
          have hevents : ((repairManualMitClosesFromHistory cfg).eval
              World.answer w₂).2.store.tradeHistoryEvents = w₂.store.tradeHistoryEvents :=
            repair_tradeHistoryEvents
          rw [hrepair] at hevents
          have hheld₂ : L.EventsHeld cfg.journalTimezone w₂.store.tradeHistoryEvents := by
            rw [← hevents]
            exact hheld
          obtain ⟨record, hfinished⟩ := finished_of_projects (w := o.world w)
            (fun t ht => (TransactionLog.mem_since.mp ht).1) hfetched (haccepted _ hfetched)
            (hfrom.grows hlog) (hrecord.grows hlog) hproject hheld₂
          have hbroker : w₂.broker = o.broker := by
            have hsame := World.eval_broker (each (projectTradeRecord cfg) (projectedTradeIds
              ((o.broker.log.since state.lastTransactionId tradeHistoryTypeFilter).flatMap
                (normalizedRows cfg.journalTimezone)))) ((o.world w).withStore (storeBatch w.store
                  (o.broker.log.since state.lastTransactionId tradeHistoryTypeFilter)
                  ((o.broker.log.since state.lastTransactionId tradeHistoryTypeFilter).flatMap
                    (normalizedRows cfg.journalTimezone))))
            change _ = o.broker at hsame
            rw [← hsame]
            exact congrArg (fun r => r.2.broker) hproject.symm
          have htracks : Tracks L.tradeId o.broker (fun table =>
              L.EventsFrom cfg.journalTimezone o.broker.log table ∧
                L.EventsHeld cfg.journalTimezone table) (· = some record) w₂ :=
            ⟨hbroker, ⟨hfinished.events_from, hheld₂⟩, hfinished.stored⟩
          have hrepaired := htracks.repair (hfinished.syncKeeps hreports)
          rw [hrepair] at hrepaired
          exact ⟨record, hfinished.of_tracks hreports
            ⟨hrepaired.broker, hrepaired.events, hrepaired.record⟩⟩

/-! ### Whole schedules -/

variable {s os : List Observation} {P : World → Observation → Prop}

theorem Occurs.exists_mem (h : Occurs cfg P w s) : ∃ o ∈ s, ∃ w', P w' o := by
  induction s generalizing w with
  | nil => exact h.elim
  | cons o os ih =>
      rcases h with h | h
      · exact ⟨o, List.mem_cons_self, w, h⟩
      · obtain ⟨o', ho', hP⟩ := ih h
        exact ⟨o', List.mem_cons_of_mem _ ho', hP⟩

theorem finished_run (hreports : L.Reports broker) (h : L.Finished cfg broker.log u record w.store)
    (hs : ∀ o ∈ s, L.Reports o.broker) (hlog : ∀ o ∈ s, broker.log.Grows o.broker.log)
    (hgrows : s.Pairwise fun o o' => o.broker.log.Grows o'.broker.log) :
    ∃ broker', L.Reports broker' ∧
      L.Finished cfg broker'.log u record (runWriters cfg w s).store := by
  induction s generalizing w broker with
  | nil => exact ⟨broker, hreports, h⟩
  | cons o os ih =>
      rw [List.forall_mem_cons] at hs hlog
      rw [List.pairwise_cons] at hgrows
      exact ih hs.1 (finished_after hs.1 hlog.1 h) hs.2 hgrows.1 hgrows.2

/-- Once a cycle has seen the trade open, a sync that ingests its fills finishes it. -/
theorem ordered_run (hsymbol : L.Canonical cfg) (hs : ∀ o ∈ s, L.Reports o.broker)
    (hlog : ∀ o ∈ s, log.Grows o.broker.log)
    (hgrows : s.Pairwise fun o o' => o.broker.log.Grows o'.broker.log)
    (hfrom : L.EventsFrom cfg.journalTimezone log w.store.tradeHistoryEvents)
    (hrecord : L.Tracked log u True False (w.store.getTrade L.tradeId))
    (hingested : Occurs cfg (L.IngestsFills cfg) w s) :
    ∃ broker' record, L.Reports broker' ∧
      L.Finished cfg broker'.log u record (runWriters cfg w s).store := by
  induction s generalizing w log with
  | nil => exact hingested.elim
  | cons o os ih =>
      rw [List.forall_mem_cons] at hs hlog
      rw [List.pairwise_cons] at hgrows
      rcases hingested with hingests | hingested
      · obtain ⟨record, hfinished⟩ := finished_of_ingests hs.1 hlog.1 hfrom hrecord hingests
        obtain ⟨broker', hbroker', hrun⟩ := finished_run hs.1 hfinished hs.2 hgrows.1 hgrows.2
        exact ⟨broker', record, hbroker', hrun⟩
      · have hafter := tracked_after hsymbol hs.1 hlog.1 (fun h => h.elim) hfrom hrecord
        exact ih hs.2 hgrows.1 hgrows.2 hafter.events hafter.record hingested

/-- A writer, before any cycle has seen the trade open: the first one that makes a record makes it from
the units it reports. -/
theorem first_after (hsymbol : L.Canonical cfg) (hreports : L.Reports o.broker)
    (hlog : log.Grows o.broker.log)
    (hfrom : L.EventsFrom cfg.journalTimezone log w.store.tradeHistoryEvents)
    (hrecord : L.Tracked log u False True (w.store.getTrade L.tradeId))
    (hfresh : w.store.getTrade L.tradeId = none → u = L.firstUnits cfg w (o :: os)) :
    L.EventsFrom cfg.journalTimezone o.broker.log (o.after cfg w).store.tradeHistoryEvents ∧
      L.Tracked o.broker.log u False True ((o.after cfg w).store.getTrade L.tradeId) ∧
      ((o.after cfg w).store.getTrade L.tradeId = none → u = L.firstUnits cfg (o.after cfg w) os) := by
  cases hbefore : w.store.getTrade L.tradeId with
  | some existing =>
      rw [hbefore] at hrecord
      have hafter : Tracks L.tradeId o.broker (L.EventsFrom cfg.journalTimezone o.broker.log)
          (L.Tracked o.broker.log u False False) (o.after cfg w) :=
        tracked_after hsymbol hreports hlog (fun h => h.elim) hfrom (by rw [hbefore]; exact hrecord)
      have hkept := hafter.record
      cases hget : (o.after cfg w).store.getTrade L.tradeId with
      | none => rw [hget] at hkept; exact hkept.elim
      | some record =>
          rw [hget] at hkept
          exact ⟨hafter.events, hkept, fun h => nomatch h⟩
  | none =>
      have hfirst := hfresh hbefore
      rw [firstUnits] at hfirst
      cases hget : (o.after cfg w).store.getTrade L.tradeId with
      | none =>
          have hafter : Tracks L.tradeId o.broker (L.EventsFrom cfg.journalTimezone o.broker.log)
              (L.Tracked o.broker.log (L.reportedUnits o) False True) (o.after cfg w) :=
            tracked_after hsymbol hreports hlog (fun _ => ⟨rfl, fun h => h⟩) hfrom
              (by rw [hbefore]; trivial)
          rw [hget] at hfirst
          exact ⟨hafter.events, trivial, fun _ => hfirst⟩
      | some record =>
          rw [hget] at hfirst
          have hafter : Tracks L.tradeId o.broker (L.EventsFrom cfg.journalTimezone o.broker.log)
              (L.Tracked o.broker.log u False True) (o.after cfg w) :=
            tracked_after hsymbol hreports hlog (fun _ => ⟨hfirst, fun h => h⟩) hfrom
              (by rw [hbefore]; trivial)
          have hmade := hafter.record
          rw [hget] at hmade
          exact ⟨hafter.events, hmade, fun h => nomatch h⟩

/-- A schedule finishes the record, with the units its first writer reported. -/
theorem tracked_run (hsymbol : L.Canonical cfg) (hs : ∀ o ∈ s, L.Reports o.broker)
    (hlog : ∀ o ∈ s, log.Grows o.broker.log)
    (hgrows : s.Pairwise fun o o' => o.broker.log.Grows o'.broker.log)
    (hfrom : L.EventsFrom cfg.journalTimezone log w.store.tradeHistoryEvents)
    (hrecord : L.Tracked log u False True (w.store.getTrade L.tradeId))
    (hfresh : w.store.getTrade L.tradeId = none → u = L.firstUnits cfg w s)
    (hseen : Occurs cfg (L.SeesOpen cfg) w s) (hingested : Occurs cfg (L.IngestsFills cfg) w s) :
    ∃ broker' record, L.Reports broker' ∧
      L.Finished cfg broker'.log u record (runWriters cfg w s).store := by
  induction s generalizing w log with
  | nil => exact hseen.elim
  | cons o os ih =>
      rw [List.forall_mem_cons] at hs hlog
      rw [List.pairwise_cons] at hgrows
      obtain ⟨hevents, hrecord', hfresh'⟩ := first_after hsymbol hs.1 hlog.1 hfrom hrecord hfresh
      rcases hseen with hsees | hseen
      · have hingested' : Occurs cfg (L.IngestsFills cfg) (o.after cfg w) os :=
          hingested.resolve_left fun h => nomatch hsees.1.symm.trans h.1
        exact ordered_run (s := os) (w := o.after cfg w) hsymbol hs.2 hgrows.1 hgrows.2 hevents
          (orders_after hs.1 hsees hrecord') hingested'
      · -- what is seen open later is not closed now
        have hingested' : Occurs cfg (L.IngestsFills cfg) (o.after cfg w) os := by
          refine hingested.resolve_left fun h => ?_
          obtain ⟨o', ho', w', hsees⟩ := Occurs.exists_mem hseen
          exact ((hs.2 o' ho').listed.mp hsees.2.1).2 ((hgrows.1 o' ho').mem h.2.2.1)
        exact ih hs.2 hgrows.1 hgrows.2 hevents hrecord' hfresh' hseen hingested'

theorem Schedule.finished (hsymbol : L.Canonical cfg) (h : L.Schedule cfg w s) :
    ∃ broker' record, L.Reports broker' ∧
      L.Finished cfg broker'.log (L.firstUnits cfg w s) record (runWriters cfg w s).store := by
  have hempty : ∀ o ∈ s, TransactionLog.Grows noFills o.broker.log := fun _ _ => List.nil_prefix
  exact tracked_run hsymbol h.reports hempty h.grows (fun e hid he => absurd hid (h.no_events e he))
    (by rw [h.no_record]; trivial) (fun _ => rfl) h.seen h.ingested

/-- Finished records differ in their units only. -/
theorem Finished.outcome_eq {store store' : TradeStore} {broker' : Broker} {u' : ℚ}
    {record' : TradeRecord} (hreports : L.Reports broker) (hreports' : L.Reports broker')
    (h : L.Finished cfg broker.log u record store)
    (h' : L.Finished cfg broker'.log u' record' store') :
    record.outcome = { record'.outcome with units := u } := by
  have hevents := tradeEvents_eq hreports hreports' h.events_from h'.events_from h.events_held
    h'.events_held
  obtain ⟨base, hbase, hcases⟩ := projection_some h.projected
  obtain ⟨base', hbase', hcases'⟩ := projection_some h'.projected
  rw [tradeBase_some] at hbase hbase'
  obtain rfl := Option.some.inj hbase
  obtain rfl := Option.some.inj hbase'
  rw [← hevents] at hcases'
  have hclose : hasClose (store.tradeEvents L.tradeId) = true := by
    have hstate := (projection_state h.projected).symm.trans h.closed
    split_ifs at hstate with hclose
    exact hclose
  rw [hclose] at hcases hcases'
  obtain ⟨-, final, pips, hfinal, hpips, hvalid⟩ := hcases.resolve_left fun h => nomatch h.1
  obtain ⟨-, final', pips', hfinal', hpips', hvalid'⟩ := hcases'.resolve_left fun h => nomatch h.1
  obtain rfl := Option.some.inj (hfinal.symm.trans hfinal')
  have hprice := h.records.openPrice.trans h'.records.openPrice.symm
  obtain ⟨hsl, htp⟩ := h.records.orders trivial
  obtain ⟨hsl', htp'⟩ := h'.records.orders trivial
  have hside : 0 < record.units ↔ 0 < record'.units := by
    have hpos := h.records.side
    have hpos' := h'.records.side
    rw [h.records.units, h'.records.units]
    rcases mul_pos_iff.mp hpos with ⟨h₁, h₂⟩ | ⟨h₁, h₂⟩ <;>
      rcases mul_pos_iff.mp hpos' with ⟨h₁', h₂'⟩ | ⟨h₁', h₂'⟩
    · exact iff_of_true h₂ h₂'
    · exact absurd h₁ h₁'.not_gt
    · exact absurd h₁' h₁.not_gt
    · exact iff_of_false h₂.not_gt h₂'.not_gt
  have hinstrument := h.records.instrument.trans h'.records.instrument.symm
  have hsame : ∀ closes, weightedClosePips cfg (recordBase record.toTradeFields) closes =
      weightedClosePips cfg (recordBase record'.toTradeFields) closes :=
    weightedClosePips_congr hinstrument hprice hside
  obtain rfl := Except.ok.inj (hpips.symm.trans ((hsame _).trans hpips'))
  rw [TradeFields.outcome, TradeFields.outcome]
  simp only [TradeOutcome.mk.injEq]
  refine ⟨h.records.units, hprice, h.records.openedAt.trans h'.records.openedAt.symm, ?_, ?_, ?_, ?_⟩ <;>
    rw [TradeFields.validate_ok hvalid, TradeFields.validate_ok hvalid']
  · simp only [TradeFields.normalizeCurrencies, closedFields, recordBase, hprice]
  · simp only [TradeFields.normalizeCurrencies, closedFields, recordBase, hprice, hsl, htp, hsl', htp']
  · rfl
  · rfl

end Lifecycle

/-- **The order of the writers.**  Two schedules over one lifecycle end with the same outcome exactly
when the first writers that recorded the trade reported the same units. -/
theorem writers_agree (cfg : Config) (L : Lifecycle) (hsymbol : L.Canonical cfg) (w w' : World)
    (s s' : List Observation) (hs : L.Schedule cfg w s) (hs' : L.Schedule cfg w' s') :
    (∃ outcome, (runWriters cfg w s).store.outcome L.tradeId = some outcome ∧
      (runWriters cfg w' s').store.outcome L.tradeId = some outcome) ↔
        L.firstUnits cfg w s = L.firstUnits cfg w' s' := by
  obtain ⟨broker, record, hreports, h⟩ := hs.finished hsymbol
  obtain ⟨broker', record', hreports', h'⟩ := hs'.finished hsymbol
  have houtcome := h.outcome_eq hreports hreports' h'
  simp only [TradeStore.outcome, h.stored, h'.stored, Option.map_some, Option.some.injEq]
  constructor
  · rintro ⟨outcome, rfl, heq⟩
    have hunits := congrArg TradeOutcome.units heq
    exact h.records.units.symm.trans (hunits.symm.trans h'.records.units)
  · intro hunits
    refine ⟨_, rfl, ?_⟩
    rw [houtcome, hunits, ← h'.records.units]
    rfl

/-! ### A trade that is closed in two steps -/

/-- 100 units are opened, 40 of them are closed, and then the other 60. -/
def sampleLifecycle : Lifecycle where
  tradeId := "1"
  instrument := "EUR_USD"
  units := 100
  openPrice := 11 / 10
  openedAt := 0
  stopLoss := none
  takeProfit := none
  opening := openingFill 1 0 "1" 100
  opened := { tradeID := some "1", units := some ⟨100, 0⟩ }
  reductions := [reducingFill 2 1 "1" 40]
  closing := closingFill 3 2 "1" 60
  opening_fill := by decide
  reducing_fill := by decide
  closing_fill := by decide
  fill_type := by decide
  units_eq := by decide +kernel
  price_eq := by decide +kernel
  time_eq := rfl
  instrument_eq := rfl
  stays_open := by decide +kernel

/-- The broker after the opening fill, ... -/
def openedBroker : Broker :=
  { (sampleWorld noFills).broker with
    log := oneFill
    openTrades := [sampleOpenTrade "1"] }

/-- ... after the partial close, ... -/
def reducedBroker : Broker :=
  { openedBroker with
    log := ⟨[openingFill 1 0 "1" 100, reducingFill 2 1 "1" 40], by decide⟩
    openTrades := [{ sampleOpenTrade "1" with currentUnits := some 60 }] }

/-- ... and after the closing fill. -/
def closedBroker : Broker :=
  { openedBroker with
    log := ⟨[openingFill 1 0 "1" 100, reducingFill 2 1 "1" 40, closingFill 3 2 "1" 60], by decide⟩
    openTrades := [] }

/-- An account with a watermark before the trade. -/
def beforeTrade : World := watermarkedWorld noFills 0

/-- The poller sees the trade before its partial close. -/
def pollerFirst : List Observation :=
  [⟨.poller, openedBroker, 1⟩, ⟨.historySync, closedBroker, 3⟩]

/-- The poller sees the trade after its partial close. -/
def pollerLate : List Observation :=
  [⟨.poller, reducedBroker, 2⟩, ⟨.historySync, closedBroker, 3⟩]

/-- A sync records the trade, and the poller sees it after its partial close. -/
def syncFirst : List Observation :=
  [⟨.historySync, openedBroker, 1⟩, ⟨.poller, reducedBroker, 2⟩, ⟨.historySync, closedBroker, 3⟩]

theorem schedule_sample {s : List Observation}
    (h : (∀ o ∈ s, sampleLifecycle.Reports o.broker) ∧
      (s.Pairwise fun o o' => o.broker.log.Grows o'.broker.log) ∧
      Occurs sampleConfig (sampleLifecycle.SeesOpen sampleConfig) beforeTrade s ∧
      Occurs sampleConfig (sampleLifecycle.IngestsFills sampleConfig) beforeTrade s) :
    sampleLifecycle.Schedule sampleConfig beforeTrade s :=
  ⟨rfl, fun _ he => (nomatch he), h.1, h.2.1, h.2.2.1, h.2.2.2⟩

theorem schedule_pollerFirst : sampleLifecycle.Schedule sampleConfig beforeTrade pollerFirst :=
  schedule_sample (by decide +kernel)

/-- The poller that sees the trade late records 60 units, the one that sees it early records 100. -/
theorem writers_disagree : sampleLifecycle.Schedule sampleConfig beforeTrade pollerFirst ∧
    sampleLifecycle.Schedule sampleConfig beforeTrade pollerLate ∧
    ¬ ∃ outcome, (runWriters sampleConfig beforeTrade pollerFirst).store.outcome "1" = some outcome ∧
      (runWriters sampleConfig beforeTrade pollerLate).store.outcome "1" = some outcome := by
  refine ⟨schedule_pollerFirst, schedule_sample (by decide +kernel), ?_⟩
  rintro ⟨outcome, hfirst, hlate⟩
  have hunits : (runWriters sampleConfig beforeTrade pollerFirst).store.outcome "1" ≠
      (runWriters sampleConfig beforeTrade pollerLate).store.outcome "1" := by decide +kernel
  exact hunits (hfirst.trans hlate.symm)

/-- A sync that records the trade before the late poller sees it makes no difference. -/
theorem writers_agree_syncFirst :
    ∃ outcome, (runWriters sampleConfig beforeTrade pollerFirst).store.outcome "1" = some outcome ∧
      (runWriters sampleConfig beforeTrade syncFirst).store.outcome "1" = some outcome :=
  (writers_agree sampleConfig sampleLifecycle (fun _ h => (Except.ok.inj h).symm) beforeTrade
    beforeTrade pollerFirst syncFirst schedule_pollerFirst
    (schedule_sample (by decide +kernel))).mpr (by decide +kernel)

end OandaV3
