import OandaV3.HistoryEval
import OandaV3.Poller

/-! # A poller cycle mirrors the broker

`pollOnceSync_mirror`: after a cycle that returns, the open trades of the journal are the broker's
trades and the formerly open ones whose detail the broker did not give; the cycle emits one opened
event for each new trade and one closed event for each closed trade; and a second cycle with the
same answers emits nothing and writes nothing.

`pollCurrent_ok` and `pollExisting_ok` are the step lemmas of the two loops, `pollCurrents_ok` and
`pollExistings_ok` their inductions. -/

namespace OandaV3

open Fallible

open Interaction Program

def PollEvent.openedId : PollEvent → Option String
  | .opened e => some e.tradeId
  | _ => none

def PollEvent.closedId : PollEvent → Option String
  | .closed e => some e.tradeId
  | _ => none

def TradeStore.isOpen (store : TradeStore) (tradeId : String) : Bool :=
  (store.getTrade tradeId).any (fun trade => trade.state == .OPEN)

def Broker.openIds (broker : Broker) : List String := broker.openTrades.filterMap OpenTrade.id

section

variable {cfg : Config} {w w' : World} {now : Instant} {accountCurrency : String}

theorem TradeStore.isOpen_iff {store : TradeStore} {tradeId : String} :
    store.isOpen tradeId = true ↔
      ∃ trade, store.getTrade tradeId = some trade ∧ trade.state = .OPEN := by
  simp [isOpen, Option.any_eq_true]

theorem TradeStore.getTrade_tradeId {store : TradeStore} {tradeId : String} {trade : TradeRecord}
    (h : store.getTrade tradeId = some trade) : trade.tradeId = tradeId :=
  (Table.find_some h).2

theorem TradeStore.find_listOpenTrades {store : TradeStore} {tradeId : String}
    {trade : TradeRecord} :
    store.listOpenTrades.find? (fun trade => trade.tradeId == tradeId) = some trade ↔
      store.getTrade tradeId = some trade ∧ trade.state = .OPEN := by
  constructor
  · intro h
    have hid : trade.tradeId = tradeId := by simpa using List.find?_some h
    exact hid ▸ mem_listOpenTrades.mp (List.mem_of_find?_eq_some h)
  · rintro ⟨hget, hopen⟩
    obtain rfl := getTrade_tradeId hget
    have hmem := mem_listOpenTrades.mpr ⟨hget, hopen⟩
    cases hfind : store.listOpenTrades.find? (fun t => t.tradeId == trade.tradeId) with
    | none => exact absurd (List.find?_eq_none.mp hfind trade hmem) (by simp)
    | some t =>
        have hid : t.tradeId = trade.tradeId := by simpa using List.find?_some hfind
        have ht := (mem_listOpenTrades.mp (List.mem_of_find?_eq_some hfind)).1
        rw [hid, hget] at ht
        exact ht.symm

theorem TradeStore.mem_map_listOpenTrades {store : TradeStore} {tradeId : String} :
    tradeId ∈ (store.listOpenTrades.map fun trade => trade.tradeId) ↔
      store.isOpen tradeId = true := by
  rw [List.mem_map, isOpen_iff]
  constructor
  · rintro ⟨trade, htrade, rfl⟩
    exact ⟨trade, mem_listOpenTrades.mp htrade⟩
  · rintro ⟨trade, hget, hopen⟩
    obtain rfl := getTrade_tradeId hget
    exact ⟨trade, mem_listOpenTrades.mpr ⟨hget, hopen⟩, rfl⟩

theorem TradeStore.isNone_find_listOpenTrades {store : TradeStore} {tradeId : String} :
    (store.listOpenTrades.find? (fun trade => trade.tradeId == tradeId)).isNone = true ↔
      store.isOpen tradeId = false := by
  rw [← Bool.not_eq_true, isOpen_iff, Option.isNone_iff_eq_none, Option.eq_none_iff_forall_ne_some]
  simp only [ne_eq, find_listOpenTrades, not_exists]

theorem TradeStore.nodup_listOpenTrades (store : TradeStore) :
    (store.listOpenTrades.map fun trade => trade.tradeId).Nodup := by
  refine ((perm_sortOnDesc.map _).nodup_iff).mpr ?_
  exact store.trades.nodup.sublist (List.filter_sublist.map _)

/-! ### The broker's list by id -/

theorem currentById_keyed {current : List OpenTrade} {entries : List (String × OpenTrade)}
    (h : currentById current = .ok entries) : ∃ pairs, entries = DocTable.putAll Prod.fst pairs [] ∧
      List.Forall₂ (fun (item : OpenTrade) (pair : String × OpenTrade) =>
        item.id = some pair.1 ∧ pair.2 = item) current pairs := by
  obtain ⟨pairs, hpairs, h⟩ := bind_eq_ok.mp h
  refine ⟨pairs, (Except.ok.inj h).symm, (mapM_eq_ok.mp hpairs).imp fun item pair hpair => ?_⟩
  cases hid : item.id with
  | none => rw [hid] at hpair; cases hpair
  | some id => rw [hid] at hpair; cases hpair; exact ⟨rfl, rfl⟩

theorem currentById_ok {current : List OpenTrade} {entries : List (String × OpenTrade)}
    (h : currentById current = .ok entries) :
    (entries.map Prod.fst).Nodup ∧
      ∀ tradeId, tradeId ∈ entries.map Prod.fst ↔ tradeId ∈ current.filterMap OpenTrade.id := by
  obtain ⟨pairs, rfl, hkeyed⟩ := currentById_keyed h
  refine ⟨DocTable.nodup_putAll List.nodup_nil, fun tradeId => ?_⟩
  have hall : List.Forall₂ (fun item pair => item.id = some pair.1) current pairs :=
    hkeyed.imp fun _ _ hpair => hpair.1
  have hget : (DocTable.get Prod.fst tradeId (DocTable.putAll Prod.fst pairs [])).isSome ↔
      ∃ pair ∈ pairs, pair.1 = tradeId := by
    rw [DocTable.get_putAll, DocTable.get_nil, Option.or_none, DocTable.last_isSome]
  rw [List.mem_map, ← DocTable.get_isSome, hget, List.mem_filterMap]
  have hmem : ∀ {items : List OpenTrade} {pairs : List (String × OpenTrade)},
      List.Forall₂ (fun item pair => item.id = some pair.1) items pairs →
      ((∃ pair ∈ pairs, pair.1 = tradeId) ↔ ∃ item ∈ items, item.id = some tradeId) := by
    intro items pairs hall
    induction hall with
    | nil => simp
    | cons hhead _ ih => rw [List.exists_mem_cons_iff, List.exists_mem_cons_iff, hhead, ih,
        Option.some.injEq]
  exact hmem hall

theorem mem_currentById {current : List OpenTrade} {entries : List (String × OpenTrade)}
    (h : currentById current = .ok entries) {entry : String × OpenTrade} (hentry : entry ∈ entries) :
    entry.2 ∈ current ∧ entry.2.id = some entry.1 := by
  obtain ⟨pairs, rfl, hkeyed⟩ := currentById_keyed h
  have hpair := (DocTable.mem_putAll hentry).resolve_right List.not_mem_nil
  obtain ⟨i, hi, rfl⟩ := List.getElem_of_mem hpair
  have hlt : i < current.length := hkeyed.length_eq ▸ hi
  obtain ⟨hid, hitem⟩ := hkeyed.get hlt hi
  exact ⟨hitem ▸ List.getElem_mem hlt, hitem ▸ hid⟩

/-! ### The first loop -/

theorem openedEvent_ok {tradeId : String} {payload : OpenTrade} {e : TradeOpenedEvent}
    (h : openedEvent cfg now accountCurrency tradeId payload = .ok e) :
    e.tradeId = tradeId ∧ e.sl = payload.stopLossPrice ∧ e.tp = payload.takeProfitPrice ∧
      payload.currentUnits = some e.units ∧ payload.price = some e.openPrice ∧
      e.openedAt = payload.openTime.getD now ∧
      (∃ instrument, payload.instrument = some instrument ∧
        cfg.validateLiveInstrument instrument = .ok e.instrument) ∧
      e.gslo = payload.gsloPrice := by
  have hrequired : ∀ {α : Type} {key : String} {value : Option α} {a : α},
      requiredField key value = .ok a → value = some a := by
    intro α key value a hvalue
    cases value with
    | none => cases hvalue
    | some a' => exact congrArg some (Except.ok.inj hvalue)
  obtain ⟨instrument, hinstrument, h⟩ := bind_eq_ok.mp h
  obtain ⟨units, hunits, h⟩ := bind_eq_ok.mp h
  obtain ⟨openPrice, hprice, h⟩ := bind_eq_ok.mp h
  obtain ⟨instrument', currency, hvalid, rfl⟩ := TradeOpenedEvent.validated_ok h
  exact ⟨rfl, rfl, rfl, hrequired hunits, hrequired hprice, rfl,
    ⟨instrument, hrequired hinstrument, hvalid⟩, rfl⟩

/-- The journal shows a trade of the broker's list as open, with the broker's protective
orders. -/
def Mirrored (store : TradeStore) (entry : String × OpenTrade) : Prop :=
  ∃ trade, store.getTrade entry.1 = some trade ∧ trade.state = .OPEN ∧
    trade.slPrice = entry.2.stopLossPrice ∧ trade.tpPrice = entry.2.takeProfitPrice

/-- The guaranteed stop a cycle leaves in a record: a new record takes the broker's, a known one keeps
its own. -/
def guaranteedStop (existingOpen : List TradeRecord) (entry : String × OpenTrade) : Option ℚ :=
  match existingOpen.find? (fun trade => trade.tradeId == entry.1) with
  | none => entry.2.gsloPrice
  | some existing => existing.gsloPrice

/-- The journal mirrors a trade of the broker's list, with the guaranteed stop of the cycle. -/
def MirroredWith (existingOpen : List TradeRecord) (store : TradeStore)
    (entry : String × OpenTrade) : Prop :=
  ∃ trade, store.getTrade entry.1 = some trade ∧ trade.state = .OPEN ∧
    trade.slPrice = entry.2.stopLossPrice ∧ trade.tpPrice = entry.2.takeProfitPrice ∧
    trade.gsloPrice = guaranteedStop existingOpen entry

theorem MirroredWith.mirrored {existingOpen : List TradeRecord} {store : TradeStore}
    {entry : String × OpenTrade} (h : MirroredWith existingOpen store entry) :
    Mirrored store entry := by
  obtain ⟨trade, hget, hopen, hsl, htp, -⟩ := h
  exact ⟨trade, hget, hopen, hsl, htp⟩

/-- A written record mirrors its trade. -/
theorem MirroredWith.upsertTrade {existingOpen : List TradeRecord} {entry : String × OpenTrade}
    {record : TradeRecord} (store : TradeStore) (hid : record.tradeId = entry.1)
    (hopen : record.state = .OPEN) (hsl : record.slPrice = entry.2.stopLossPrice)
    (htp : record.tpPrice = entry.2.takeProfitPrice)
    (hgslo : record.gsloPrice = guaranteedStop existingOpen entry) :
    MirroredWith existingOpen (store.upsertTrade record) entry :=
  ⟨record, store.getTrade_upsertTrade_self hid, hopen, hsl, htp, hgslo⟩

/-- The open trades read before the loops still are what the journal holds under this id. -/
def Current (existingOpen : List TradeRecord) (store : TradeStore) (tradeId : String) : Prop :=
  ∀ trade, existingOpen.find? (fun trade => trade.tradeId == tradeId) = some trade →
    store.getTrade tradeId = some trade ∧ trade.state = .OPEN

theorem pollCurrent_ok {existingOpen : List TradeRecord} {entry : String × OpenTrade}
    {events : List PollEvent} (hcurrent : Current existingOpen w.store entry.1)
    (h : (pollCurrent cfg now accountCurrency existingOpen entry).eval World.answer w =
      (.ok events, w')) :
    TradesOnly w w' ∧ MirroredWith existingOpen w'.store entry ∧
      (∀ tradeId ≠ entry.1, w'.store.getTrade tradeId = w.store.getTrade tradeId) ∧
      events.filterMap PollEvent.openedId =
        (if (existingOpen.find? (fun trade => trade.tradeId == entry.1)).isNone then [entry.1]
          else []) ∧
      events.filterMap PollEvent.closedId = [] := by
  obtain ⟨tradeId, payload⟩ := entry
  simp only [pollCurrent] at h
  cases hfind : existingOpen.find? (fun trade => trade.tradeId == tradeId) with
  | none =>
      rw [hfind] at h
      obtain ⟨e, w₁, hevent, h⟩ := eval_bind_ok World.answer h
      rw [eval_ofExcept] at hevent
      obtain ⟨he, rfl⟩ := Prod.mk.inj hevent
      obtain ⟨r, w₂, hr, h⟩ := eval_bind_ok World.answer h
      obtain ⟨hevents, rfl⟩ := Prod.mk.inj h
      obtain rfl := Except.ok.inj hevents
      obtain ⟨hid, hsl, htp, -, -, -, -, hgslo⟩ := openedEvent_ok he
      obtain ⟨rfl, hrecord⟩ := handleTradeOpened_ok hr
      have hfields := TradeFields.validate_ok hrecord
      obtain ⟨hself, hstate⟩ := openedFields_ok hrecord
      have hrid : r.tradeId = tradeId := hself.trans hid
      refine ⟨.upsertTrade _ _, .upsertTrade _ hrid hstate ?_ ?_ ?_, fun other hne => ?_, ?_, rfl⟩
      · rw [hfields]; exact hsl
      · rw [hfields]; exact htp
      · rw [hfields, guaranteedStop, hfind]; exact hgslo
      · exact w.store.getTrade_upsertTrade_ne (hrid.symm ▸ Ne.symm hne)
      · simp [PollEvent.openedId, hid]
  | some existing =>
      rw [hfind] at h
      obtain ⟨hget, hopen⟩ := hcurrent existing hfind
      simp only at h
      split_ifs at h with hmoved
      · obtain ⟨r, w₁, hr, h⟩ := eval_bind_ok World.answer h
        obtain ⟨hevents, rfl⟩ := Prod.mk.inj h
        obtain rfl := Except.ok.inj hevents
        obtain ⟨updated, hupdated, rfl⟩ := handleTradeModified_ok hget hr
        have hfields := TradeFields.validate_ok hupdated
        obtain ⟨hself, hsame⟩ := modifiedFields_ok hupdated
        have hrid : updated.tradeId = tradeId := hself.trans (TradeStore.getTrade_tradeId hget)
        refine ⟨.upsertTrade _ _, .upsertTrade _ hrid (hsame.trans hopen) ?_ ?_ ?_,
          fun other hne => ?_, rfl, rfl⟩
        · rw [hfields]; rfl
        · rw [hfields]; rfl
        · rw [hfields, guaranteedStop, hfind]; rfl
        · exact w.store.getTrade_upsertTrade_ne (hrid.symm ▸ Ne.symm hne)
      · obtain ⟨hevents, rfl⟩ := Prod.mk.inj h
        obtain rfl := Except.ok.inj hevents
        rw [not_or, not_not, not_not] at hmoved
        have hgslo : existing.gsloPrice = guaranteedStop existingOpen (tradeId, payload) := by
          rw [guaranteedStop, hfind]
        exact ⟨.refl _, ⟨existing, hget, hopen, hmoved.1, hmoved.2, hgslo⟩, fun _ _ => rfl, rfl, rfl⟩

theorem pollCurrents_ok {existingOpen : List TradeRecord} {entries : List (String × OpenTrade)}
    {events : List (List PollEvent)} (hnd : (entries.map Prod.fst).Nodup)
    (hcurrent : ∀ entry ∈ entries, Current existingOpen w.store entry.1)
    (h : (each (pollCurrent cfg now accountCurrency existingOpen) entries).eval World.answer w =
      (.ok events, w')) :
    TradesOnly w w' ∧ (∀ entry ∈ entries, MirroredWith existingOpen w'.store entry) ∧
      (∀ tradeId ∉ entries.map Prod.fst,
        w'.store.getTrade tradeId = w.store.getTrade tradeId) ∧
      events.flatten.filterMap PollEvent.openedId = (entries.map Prod.fst).filter (fun tradeId =>
        (existingOpen.find? (fun trade => trade.tradeId == tradeId)).isNone) ∧
      events.flatten.filterMap PollEvent.closedId = [] := by
  induction entries generalizing w events with
  | nil =>
      obtain ⟨hevents, rfl⟩ := Prod.mk.inj h
      obtain rfl := Except.ok.inj hevents
      exact ⟨.refl _, fun _ he => absurd he List.not_mem_nil, fun _ _ => rfl, rfl, rfl⟩
  | cons entry entries ih =>
      rw [List.map_cons, List.nodup_cons] at hnd
      obtain ⟨es, w₁, hes, h⟩ := eval_bind_ok World.answer h
      obtain ⟨ess, w₂, hess, h⟩ := eval_bind_ok World.answer h
      obtain ⟨hevents, rfl⟩ := Prod.mk.inj h
      obtain rfl := Except.ok.inj hevents
      obtain ⟨honly, hmirror, hother, hopened, hclosed⟩ :=
        pollCurrent_ok (hcurrent entry List.mem_cons_self) hes
      have hne : ∀ e ∈ entries, e.1 ≠ entry.1 := fun e he heq =>
        hnd.1 (heq ▸ List.mem_map_of_mem he)
      have hcurrent' : ∀ e ∈ entries, Current existingOpen w₁.store e.1 := by
        intro e he trade hfind
        rw [hother e.1 (hne e he)]
        exact hcurrent e (List.mem_cons_of_mem _ he) trade hfind
      obtain ⟨honly', hmirror', hother', hopened', hclosed'⟩ := ih hnd.2 hcurrent' hess
      refine ⟨honly.trans honly', ?_, fun tradeId hid => ?_, ?_, ?_⟩
      · rw [List.forall_mem_cons]
        refine ⟨?_, hmirror'⟩
        obtain ⟨trade, hget, hrest⟩ := hmirror
        exact ⟨trade, (hother' entry.1 hnd.1).trans hget, hrest⟩
      · rw [List.map_cons, List.mem_cons, not_or] at hid
        rw [hother' tradeId hid.2, hother tradeId hid.1]
      · rw [List.flatten_cons, List.filterMap_append, hopened, hopened', List.map_cons,
          List.filter_cons]
        split_ifs <;> rfl
      · rw [List.flatten_cons, List.filterMap_append, hclosed, hclosed', List.append_nil]

/-! ### The second loop -/

/-- The second loop closes the trade: it is not in the broker's list, and its detail is given. -/
def closes (w : World) (current : List (String × OpenTrade)) (tradeId : String) : Bool :=
  !current.any (fun entry => entry.1 == tradeId) && (w.broker.tradeDetail tradeId).isSome

theorem closedEvent_ok {existing : TradeRecord} {detail : TradeDetail} {transactions : List Json}
    {e : TradeClosedEvent}
    (h : closedEvent cfg now accountCurrency existing detail transactions = .ok e) :
    e.tradeId = existing.tradeId := by
  obtain ⟨instrument', currency, -, rfl⟩ := TradeClosedEvent.validated_ok h
  rfl

theorem safeTradeTransactions_eval (tradeId : String) :
    ∃ transactions, (safeTradeTransactions tradeId).eval World.answer w = (.ok transactions, w) := by
  simp only [safeTradeTransactions, bind_def, eval_bind, eval_attempt, eval_perform, World.answer]
  cases World.request "trade transactions" (w.broker.tradeTransactions tradeId) with
  | ok transactions => exact ⟨transactions, rfl⟩
  | error e => exact ⟨[], rfl⟩

theorem pollExisting_kept {current : List (String × OpenTrade)} {existing : TradeRecord}
    (hkept : closes w current existing.tradeId = false) : ∃ errors,
    (pollExisting cfg now accountCurrency current existing).eval World.answer w =
      (.ok ([], errors), w) := by
  unfold pollExisting
  split_ifs with hin
  · exact ⟨[], rfl⟩
  · have hdetail : w.broker.tradeDetail existing.tradeId = none := by
      simpa [closes, hin] using hkept
    simp only [bind_def, eval_bind, eval_attempt, eval_perform, World.answer, hdetail,
      World.request]
    exact ⟨_, rfl⟩

theorem pollExisting_closed {current : List (String × OpenTrade)} {existing : TradeRecord}
    {result : List PollEvent × List String}
    (hstored : w.store.getTrade existing.tradeId = some existing)
    (hcloses : closes w current existing.tradeId = true)
    (h : (pollExisting cfg now accountCurrency current existing).eval World.answer w =
      (.ok result, w')) :
    ∃ detail transactions e pips closed,
      w.broker.tradeDetail existing.tradeId = some detail ∧
      closedEvent cfg now accountCurrency existing detail transactions = .ok e ∧
      computePips cfg existing e = .ok pips ∧
      (closedByPoller cfg existing.toTradeFields e pips).validate = .ok closed ∧
      result = ([.closed e], []) ∧ w' = w.withStore (w.store.upsertTrade closed) := by
  simp only [closes, Bool.and_eq_true, Bool.not_eq_true'] at hcloses
  obtain ⟨hout, hdetail⟩ := hcloses
  obtain ⟨detail, hdetail⟩ := Option.isSome_iff_exists.mp hdetail
  unfold pollExisting at h
  rw [if_neg (by rw [hout]; exact Bool.false_ne_true)] at h
  have hrequest : ((ask (.getTradeDetail existing.tradeId)).attempt).eval World.answer w =
      (.ok (.ok detail), w) := by
    rw [eval_attempt, eval_perform, World.answer, hdetail]
    rfl
  rw [bind_def, eval_bind_of_ok _ hrequest] at h
  obtain ⟨transactions, htransactions⟩ := safeTradeTransactions_eval (w := w) existing.tradeId
  simp only [bind_def, eval_bind_of_ok _ htransactions] at h
  obtain ⟨e, w₁, hevent, h⟩ := eval_bind_ok World.answer h
  rw [eval_ofExcept] at hevent
  obtain ⟨he, rfl⟩ := Prod.mk.inj hevent
  obtain ⟨r, w₂, hr, h⟩ := eval_bind_ok World.answer h
  obtain ⟨hresult, rfl⟩ := Prod.mk.inj h
  obtain rfl := Except.ok.inj hresult
  obtain ⟨pips, closed, hpips, hclosed, rfl⟩ :=
    handleTradeClosed_ok ((closedEvent_ok he) ▸ hstored) hr
  exact ⟨detail, transactions, e, pips, closed, hdetail, he, hpips, hclosed, rfl, rfl⟩

theorem pollExisting_ok {current : List (String × OpenTrade)} {existing : TradeRecord}
    {result : List PollEvent × List String}
    (hget : w.store.getTrade existing.tradeId = some existing ∨
      current.any (fun entry => entry.1 == existing.tradeId) = true)
    (h : (pollExisting cfg now accountCurrency current existing).eval World.answer w =
      (.ok result, w')) :
    TradesOnly w w' ∧
      (∀ tradeId ≠ existing.tradeId, w'.store.getTrade tradeId = w.store.getTrade tradeId) ∧
      result.1.filterMap PollEvent.openedId = [] ∧
      if closes w current existing.tradeId then
        result.1.filterMap PollEvent.closedId = [existing.tradeId] ∧
          w'.store.isOpen existing.tradeId = false
      else result.1 = [] ∧ w' = w := by
  cases hcloses : closes w current existing.tradeId with
  | false =>
      obtain ⟨errors, hkept⟩ := pollExisting_kept hcloses
      obtain ⟨hresult, rfl⟩ := Prod.mk.inj (h.symm.trans hkept)
      obtain rfl := Except.ok.inj hresult
      exact ⟨.refl _, fun _ _ => rfl, rfl, rfl, rfl⟩
  | true =>
      have hout : current.any (fun entry => entry.1 == existing.tradeId) = false := by
        simp only [closes, Bool.and_eq_true, Bool.not_eq_true'] at hcloses
        exact hcloses.1
      have hstored := hget.resolve_right (by rw [hout]; exact Bool.false_ne_true)
      obtain ⟨detail, transactions, e, pips, closed, -, he, -, hclosed, rfl, rfl⟩ :=
        pollExisting_closed hstored hcloses h
      obtain ⟨hcid, hstate⟩ := closedByPoller_ok hclosed
      refine ⟨.upsertTrade _ _, fun tradeId hne => ?_, rfl, ?_⟩
      · exact w.store.getTrade_upsertTrade_ne (hcid.symm ▸ Ne.symm hne)
      · simp only [if_true]
        refine ⟨by simp [PollEvent.closedId, closedEvent_ok he], ?_⟩
        rw [World.withStore_store, TradeStore.isOpen, w.store.getTrade_upsertTrade_self hcid,
          Option.any_some, hstate]
        rfl

theorem closes_of_tradesOnly (h : TradesOnly w w') : closes w' = closes w := by
  obtain ⟨trades, rfl⟩ := h
  rfl

theorem pollExistings_ok {current : List (String × OpenTrade)} {existingOpen : List TradeRecord}
    {results : List (List PollEvent × List String)}
    (hnd : (existingOpen.map fun trade => trade.tradeId).Nodup)
    (hget : ∀ trade ∈ existingOpen, w.store.getTrade trade.tradeId = some trade ∨
      current.any (fun entry => entry.1 == trade.tradeId) = true)
    (h : (each (pollExisting cfg now accountCurrency current) existingOpen).eval World.answer w =
      (.ok results, w')) :
    (∀ trade ∈ existingOpen, closes w current trade.tradeId = true →
      w'.store.isOpen trade.tradeId = false) ∧
    (∀ tradeId, (∀ trade ∈ existingOpen, trade.tradeId = tradeId →
      closes w current tradeId = false) → w'.store.getTrade tradeId = w.store.getTrade tradeId) ∧
    (results.flatMap Prod.fst).filterMap PollEvent.openedId = [] ∧
    (results.flatMap Prod.fst).filterMap PollEvent.closedId =
      (existingOpen.map fun trade => trade.tradeId).filter (closes w current) := by
  induction existingOpen generalizing w results with
  | nil =>
      obtain ⟨hresults, rfl⟩ := Prod.mk.inj h
      obtain rfl := Except.ok.inj hresults
      exact ⟨fun _ ht => absurd ht List.not_mem_nil, fun _ _ => rfl, rfl, rfl⟩
  | cons existing rest ih =>
      rw [List.map_cons, List.nodup_cons] at hnd
      obtain ⟨r, w₁, hr, h⟩ := eval_bind_ok World.answer h
      obtain ⟨rs, w₂, hrs, h⟩ := eval_bind_ok World.answer h
      obtain ⟨hresults, rfl⟩ := Prod.mk.inj h
      obtain rfl := Except.ok.inj hresults
      obtain ⟨honly, hother, hopened, hclosed⟩ :=
        pollExisting_ok (hget existing List.mem_cons_self) hr
      have hne : ∀ trade ∈ rest, trade.tradeId ≠ existing.tradeId := fun trade ht heq =>
        hnd.1 (heq ▸ List.mem_map_of_mem ht)
      obtain ⟨hisClosed, hkept, hopened', hclosed'⟩ := ih hnd.2 (fun trade ht => by
        rw [hother _ (hne trade ht)]
        exact hget trade (List.mem_cons_of_mem _ ht)) hrs
      rw [closes_of_tradesOnly honly] at hisClosed hkept hclosed'
      have hstay : w₂.store.getTrade existing.tradeId = w₁.store.getTrade existing.tradeId :=
        hkept _ fun trade ht heq => absurd heq (hne trade ht)
      refine ⟨?_, fun tradeId hall => ?_, ?_, ?_⟩
      · rw [List.forall_mem_cons]
        refine ⟨fun hcloses => ?_, hisClosed⟩
        rw [hcloses] at hclosed
        rw [TradeStore.isOpen, hstay]
        exact hclosed.2
      · rw [hkept tradeId fun trade ht => hall trade (List.mem_cons_of_mem _ ht)]
        by_cases heq : tradeId = existing.tradeId
        · have hcloses := hall existing List.mem_cons_self heq.symm
          rw [← heq, hcloses] at hclosed
          rw [hclosed.2]
        · exact hother tradeId heq
      · rw [List.flatMap_cons, List.filterMap_append, hopened, hopened', List.append_nil]
      · rw [List.flatMap_cons, List.filterMap_append, hclosed', List.map_cons, List.filter_cons]
        cases hcloses : closes w current existing.tradeId with
        | true => rw [hcloses] at hclosed; rw [hclosed.1]; rfl
        | false => rw [hcloses] at hclosed; rw [hclosed.1]; rfl

/-! ### A second cycle -/

theorem pollCurrents_mirrored {entries : List (String × OpenTrade)}
    (hmirrored : ∀ entry ∈ entries, Mirrored w.store entry) : ∃ events,
    (each (pollCurrent cfg now accountCurrency w.store.listOpenTrades) entries).eval World.answer w =
      (.ok events, w) ∧ events.flatten = [] := by
  induction entries with
  | nil => exact ⟨[], rfl, rfl⟩
  | cons entry entries ih =>
      obtain ⟨events, hevents, hflat⟩ := ih fun e he => hmirrored e (List.mem_cons_of_mem _ he)
      obtain ⟨trade, hget, hopen, hsl, htp⟩ := hmirrored entry List.mem_cons_self
      have hone : (pollCurrent cfg now accountCurrency w.store.listOpenTrades entry).eval
          World.answer w = (.ok [], w) := by
        simp only [pollCurrent, TradeStore.find_listOpenTrades.mpr ⟨hget, hopen⟩, hsl, htp,
          ne_eq, not_true_eq_false, or_self, if_false, eval_pure]
      exact ⟨[] :: events, by simp only [each, eval_bind, hone, hevents, eval_done], hflat⟩

theorem pollExistings_kept {current : List (String × OpenTrade)} {existingOpen : List TradeRecord}
    (hkept : ∀ trade ∈ existingOpen, closes w current trade.tradeId = false) : ∃ results,
    (each (pollExisting cfg now accountCurrency current) existingOpen).eval World.answer w =
      (.ok results, w) ∧ results.flatMap Prod.fst = [] := by
  induction existingOpen with
  | nil => exact ⟨[], rfl, rfl⟩
  | cons existing rest ih =>
      obtain ⟨results, hresults, hflat⟩ := ih fun t ht => hkept t (List.mem_cons_of_mem _ ht)
      have hhead : ∃ errors, (pollExisting cfg now accountCurrency current existing).eval
        World.answer w = (.ok ([], errors), w) := pollExisting_kept (hkept existing List.mem_cons_self)
      obtain ⟨errors, hone⟩ := hhead
      exact ⟨([], errors) :: results, by simp only [each, eval_bind, hone, hresults, eval_done],
        hflat⟩

theorem safeAccountCurrency_eval :
    ∃ currency, (safeAccountCurrency cfg).eval World.answer w = (.ok currency, w) := by
  simp only [safeAccountCurrency, bind_def, eval_bind, eval_attempt, eval_perform, World.answer]
  exact ⟨_, rfl⟩

/-! ### The cycle -/

theorem cycleCurrency_eval (cfg : Config) (w : World) (idle : Bool) :
    ∃ currency, (cycleCurrency cfg idle).eval World.answer w = (.ok currency, w) := by
  unfold cycleCurrency
  split_ifs
  · exact ⟨_, rfl⟩
  · exact safeAccountCurrency_eval

theorem pollOnceSync_ok {report : PollReport}
    (h : (pollOnceSync cfg).eval World.answer w = (.ok report, w')) :
    ∃ entries currency first second w₁, currentById w.broker.openTrades = .ok entries ∧
      (each (pollCurrent cfg w.clock currency w.store.listOpenTrades) entries).eval
        World.answer w = (.ok first, w₁) ∧
      (each (pollExisting cfg w.clock currency entries) w.store.listOpenTrades).eval
        World.answer w₁ = (.ok second, w') ∧
      report.emitted = first.flatten ++ second.flatMap Prod.fst := by
  simp only [pollOnceSync, bind_def, eval_bind, eval_perform, World.answer, eval_ofExcept] at h
  cases hentries : currentById w.broker.openTrades with
  | error e => rw [hentries] at h; cases h
  | ok entries =>
      rw [hentries] at h
      obtain ⟨currency, hcurrency⟩ := cycleCurrency_eval cfg w
        (entries.isEmpty && w.store.listOpenTrades.isEmpty)
      simp only [hcurrency] at h
      cases hfirst : (each (pollCurrent cfg w.clock currency w.store.listOpenTrades) entries).eval
          World.answer w with
      | mk r₁ w₁ =>
          rw [hfirst] at h
          cases r₁ with
          | error e => cases h
          | ok first =>
              simp only at h
              cases hsecond : (each (pollExisting cfg w.clock currency entries)
                  w.store.listOpenTrades).eval World.answer w₁ with
              | mk r₂ w₂ =>
                  rw [hsecond] at h
                  cases r₂ with
                  | error e => cases h
                  | ok second =>
                      obtain ⟨hreport, rfl⟩ := Prod.mk.inj h
                      obtain rfl := Except.ok.inj hreport
                      exact ⟨entries, currency, first, second, w₁, rfl, hfirst, hsecond, rfl⟩

/-- A cycle on a mirrored journal emits nothing and writes nothing. -/
theorem pollOnceSync_mirrored {entries : List (String × OpenTrade)}
    (hentries : currentById w.broker.openTrades = .ok entries)
    (hmirrored : ∀ entry ∈ entries, Mirrored w.store entry)
    (hkept : ∀ trade ∈ w.store.listOpenTrades, closes w entries trade.tradeId = false) :
    ∃ errors, (pollOnceSync cfg).eval World.answer w = (.ok ⟨[], errors⟩, w) := by
  obtain ⟨currency, hcurrency⟩ := cycleCurrency_eval cfg w
    (entries.isEmpty && w.store.listOpenTrades.isEmpty)
  have hfirst : ∃ events, (each (pollCurrent cfg w.clock currency w.store.listOpenTrades)
    entries).eval World.answer w = (.ok events, w) ∧ events.flatten = [] :=
      pollCurrents_mirrored hmirrored
  have hsecond : ∃ results, (each (pollExisting cfg w.clock currency entries)
    w.store.listOpenTrades).eval World.answer w = (.ok results, w) ∧
      results.flatMap Prod.fst = [] := pollExistings_kept hkept
  obtain ⟨events, hevents, hflat⟩ := hfirst
  obtain ⟨results, hresults, hflat'⟩ := hsecond
  refine ⟨results.flatMap Prod.snd, ?_⟩
  simp only [pollOnceSync, bind_def, eval_bind, eval_perform, World.answer, eval_ofExcept,
    hentries, hcurrency, hevents, hresults, eval_pure, hflat, hflat', List.append_nil]

/-- The world at another time. -/
def World.at (w : World) (clock : Instant) : World := { w with clock }

theorem closes_iff {entries : List (String × OpenTrade)}
    (hentries : currentById w.broker.openTrades = .ok entries) {tradeId : String} :
    closes w entries tradeId = true ↔
      tradeId ∉ w.broker.openIds ∧ w.broker.tradeDetail tradeId ≠ none := by
  have hin : entries.any (fun entry => entry.1 == tradeId) = true ↔ tradeId ∈ w.broker.openIds := by
    rw [Broker.openIds, ← (currentById_ok hentries).2, List.any_eq_true, List.mem_map]
    simp
  rw [closes, Bool.and_eq_true, Bool.not_eq_true', ← Bool.not_eq_true, hin, ne_eq,
    Option.isSome_iff_ne_none]

/-- What a cycle that returned has done: listed trades are mirrored, missing ones are closed when their
detail is given, and the others are left alone. -/
theorem pollOnceSync_loops {report : PollReport}
    (h : (pollOnceSync cfg).eval World.answer w = (.ok report, w')) :
    ∃ entries, currentById w.broker.openTrades = .ok entries ∧
      (∀ entry ∈ entries, MirroredWith w.store.listOpenTrades w'.store entry) ∧
      (∀ tradeId, w.store.isOpen tradeId = true → closes w entries tradeId = true →
        w'.store.isOpen tradeId = false) ∧
      (∀ tradeId ∉ w.broker.openIds, (w.store.isOpen tradeId = true → closes w entries tradeId = false) →
        w'.store.getTrade tradeId = w.store.getTrade tradeId) ∧
      report.emitted.filterMap PollEvent.openedId = (entries.map Prod.fst).filter (fun tradeId =>
        (w.store.listOpenTrades.find? (fun trade => trade.tradeId == tradeId)).isNone) ∧
      report.emitted.filterMap PollEvent.closedId =
        (w.store.listOpenTrades.map fun trade => trade.tradeId).filter (closes w entries) := by
  obtain ⟨entries, currency, first, second, w₁, hentries, hfirst, hsecond, hemitted⟩ :=
    pollOnceSync_ok h
  obtain ⟨hnd, hids⟩ := currentById_ok hentries
  obtain ⟨honly, hmirrored, hother, hopened, hclosed⟩ := pollCurrents_ok hnd
    (fun entry _ trade hfind => TradeStore.find_listOpenTrades.mp hfind) hfirst
  have hstored : ∀ trade ∈ w.store.listOpenTrades,
      w₁.store.getTrade trade.tradeId = some trade ∨
        entries.any (fun entry => entry.1 == trade.tradeId) = true := by
    intro trade htrade
    by_cases hmem : trade.tradeId ∈ entries.map Prod.fst
    · exact Or.inr (by simpa using hmem)
    · rw [hother _ hmem]
      exact Or.inl (TradeStore.mem_listOpenTrades.mp htrade).1
  obtain ⟨hnowClosed, hkept, hopened', hclosed'⟩ := pollExistings_ok w.store.nodup_listOpenTrades
    hstored hsecond
  rw [closes_of_tradesOnly honly] at hnowClosed hkept hclosed'
  refine ⟨entries, hentries, fun entry hentry => ?_, fun tradeId hopen hcloses => ?_,
    fun tradeId hmem hdeferred => ?_, ?_, ?_⟩
  · obtain ⟨trade, hget, hrest⟩ := hmirrored entry hentry
    refine ⟨trade, (hkept entry.1 fun _ _ _ => ?_).trans hget, hrest⟩
    rw [← Bool.not_eq_true, closes_iff hentries, not_and_or, not_not]
    exact Or.inl ((hids _).mp (List.mem_map_of_mem hentry))
  · obtain ⟨trade, htrade, rfl⟩ := List.mem_map.mp (TradeStore.mem_map_listOpenTrades.mpr hopen)
    exact hnowClosed trade htrade hcloses
  · rw [hkept tradeId fun trade htrade hid => ?_, hother tradeId (mt (hids _).mp hmem)]
    exact hdeferred (TradeStore.mem_map_listOpenTrades.mp (hid ▸ List.mem_map_of_mem htrade))
  · rw [hemitted, List.filterMap_append, hopened, hopened', List.append_nil]
  · rw [hemitted, List.filterMap_append, hclosed, hclosed', List.nil_append]

/-- **The poller mirrors the broker.** -/
theorem pollOnceSync_mirror (cfg : Config) (w w' : World) (report : PollReport)
    (h : (pollOnceSync cfg).eval World.answer w = (.ok report, w')) :
    (∀ tradeId, w'.store.isOpen tradeId = true ↔ tradeId ∈ w.broker.openIds ∨
      (w.store.isOpen tradeId = true ∧ tradeId ∉ w.broker.openIds ∧
        w.broker.tradeDetail tradeId = none)) ∧
    (∀ tradeId, (report.emitted.filterMap PollEvent.openedId).count tradeId =
      if tradeId ∈ w.broker.openIds ∧ w.store.isOpen tradeId = false then 1 else 0) ∧
    (∀ tradeId, (report.emitted.filterMap PollEvent.closedId).count tradeId =
      if w.store.isOpen tradeId = true ∧ w'.store.isOpen tradeId = false then 1 else 0) ∧
    ∀ clock, ∃ errors, (pollOnceSync cfg).eval World.answer (w'.at clock) =
      (.ok ⟨[], errors⟩, w'.at clock) := by
  obtain ⟨entries, hentries, hmirrored, hnowClosed, hkept, hopened, hclosed⟩ := pollOnceSync_loops h
  obtain ⟨hnd, hids⟩ := currentById_ok hentries
  have hopen : ∀ tradeId, w'.store.isOpen tradeId = true ↔ tradeId ∈ w.broker.openIds ∨
      (w.store.isOpen tradeId = true ∧ tradeId ∉ w.broker.openIds ∧
        w.broker.tradeDetail tradeId = none) := by
    intro tradeId
    by_cases hmem : tradeId ∈ w.broker.openIds
    · obtain ⟨entry, hentry, rfl⟩ := List.mem_map.mp ((hids _).mpr hmem)
      obtain ⟨trade, hget, hstate, -⟩ := hmirrored entry hentry
      exact iff_of_true (TradeStore.isOpen_iff.mpr ⟨trade, hget, hstate⟩) (Or.inl hmem)
    · cases hcloses : closes w entries tradeId with
      | true =>
          have hdetail := ((closes_iff hentries).mp hcloses).2
          refine iff_of_false (fun hnow => ?_) (by simp [hmem, hdetail])
          by_cases hwas : w.store.isOpen tradeId = true
          · exact nomatch (hnowClosed tradeId hwas hcloses).symm.trans hnow
          · rw [TradeStore.isOpen, hkept tradeId hmem fun h => absurd h hwas] at hnow
            exact hwas hnow
      | false =>
          have hdetail : w.broker.tradeDetail tradeId = none := by
            rw [← Bool.not_eq_true, closes_iff hentries, not_and_or, not_not, ne_eq, not_not]
              at hcloses
            exact hcloses.resolve_left hmem
          rw [TradeStore.isOpen, hkept tradeId hmem fun _ => hcloses]
          simp [hmem, hdetail, TradeStore.isOpen]
  refine ⟨hopen, fun tradeId => ?_, fun tradeId => ?_, fun clock => ?_⟩
  · rw [hopened, (hnd.filter _).count]
    refine if_congr ?_ rfl rfl
    rw [List.mem_filter, hids, Broker.openIds, TradeStore.isNone_find_listOpenTrades]
  · rw [hclosed, (w.store.nodup_listOpenTrades.filter _).count]
    refine if_congr ?_ rfl rfl
    rw [List.mem_filter, TradeStore.mem_map_listOpenTrades, closes_iff hentries,
      ← Bool.not_eq_true (_ : Bool), hopen]
    tauto
  · have hbroker : w'.broker = w.broker := by
      have hsame := World.eval_broker (pollOnceSync cfg) w
      rwa [h] at hsame
    have hagain : currentById (w'.at clock).broker.openTrades = .ok entries := by
      simp only [World.at, hbroker, hentries]
    refine pollOnceSync_mirrored hagain (fun entry hentry => (hmirrored entry hentry).mirrored)
      fun trade htrade => ?_
    rw [← Bool.not_eq_true, closes_iff hagain]
    simp only [World.at, hbroker]
    rcases (hopen _).mp (TradeStore.mem_map_listOpenTrades.mp (List.mem_map_of_mem htrade)) with
      hmem | ⟨-, -, hnone⟩
    · exact fun hout => hout.1 hmem
    · exact fun hout => hout.2 hnone

end

def sampleOpenTrade (id : String) : OpenTrade where
  id := some id
  instrument := some "EUR_USD"
  currentUnits := some 100
  price := some (11 / 10)
  openTime := some 0

/-- The journal shows 5 and 6 as open; the broker has opened 7, and gives a detail of 5 only. -/
def replacedTrades : World :=
  let seen := { sampleWorld noFills with
    broker := { (sampleWorld noFills).broker with
      openTrades := [sampleOpenTrade "5", sampleOpenTrade "6"] } }
  { seen with
    store := ((pollOnceSync sampleConfig).eval World.answer seen).2.store
    broker := { seen.broker with
      openTrades := [sampleOpenTrade "7"]
      tradeDetail := fun tradeId =>
        if tradeId = "5" then some { averageClosePrice := some (12 / 10) } else none } }

/-- Trade 5 is closed, trade 6 deferred, trade 7 opened. -/
theorem pollOnceSync_mirror_replacedTrades : ∃ report w',
    (pollOnceSync sampleConfig).eval World.answer replacedTrades = (.ok report, w') ∧
      (∀ tradeId, w'.store.isOpen tradeId = true ↔ tradeId ∈ replacedTrades.broker.openIds ∨
        (replacedTrades.store.isOpen tradeId = true ∧
          tradeId ∉ replacedTrades.broker.openIds ∧
          replacedTrades.broker.tradeDetail tradeId = none)) ∧
      report.emitted.filterMap PollEvent.openedId = ["7"] ∧
      report.emitted.filterMap PollEvent.closedId = ["5"] ∧
      report.cycleErrors = ["trade_detail_unavailable:6"] := by
  have hreturns : ((pollOnceSync sampleConfig).eval World.answer replacedTrades).1.map
      (fun report => (report.emitted.filterMap PollEvent.openedId,
        report.emitted.filterMap PollEvent.closedId, report.cycleErrors)) =
      .ok (["7"], ["5"], ["trade_detail_unavailable:6"]) := by
    decide +kernel
  cases hrun : (pollOnceSync sampleConfig).eval World.answer replacedTrades with
  | mk r w' =>
      rw [hrun] at hreturns
      cases r with
      | error e => cases hreturns
      | ok report =>
          obtain ⟨hopened, hrest⟩ := Prod.mk.inj (Except.ok.inj hreturns)
          obtain ⟨hclosed, herrors⟩ := Prod.mk.inj hrest
          exact ⟨report, w', rfl, (pollOnceSync_mirror _ _ _ _ hrun).1, hopened, hclosed, herrors⟩

end OandaV3
