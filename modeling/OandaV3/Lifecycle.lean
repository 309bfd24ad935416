import Mathlib.Data.List.Infix
import OandaV3.PollerMirror

/-! # The lifecycle of a trade

A trade as the broker reports it: one opening fill, partial closes, one closing fill, and protective
orders that do not change (`Lifecycle`).  `Lifecycle.Reports` says that a broker is at some point of
the lifecycle: its log holds a prefix of the fills, and its open-trades list shows the trade with the
units that are still open from the opening fill to the closing one.

* `Lifecycle.fillsOf_eq`: how far a log has got.
* `Lifecycle.opening_event`: what an opening event of the trade says.
* `Lifecycle.EventsFrom`, `Lifecycle.EventsHeld`: the stored events of the trade come from the log, and
  all of them are stored; stores of which both hold have the same events of the trade
  (`Lifecycle.tradeEvents_eq`).
* `Lifecycle.Records`: what every writer of the journal leaves in the record of the trade. -/

namespace OandaV3

namespace Transaction

variable (t : Transaction) (tradeId : String)

/-- The transaction opens the trade. -/
def opens : Bool := t.tradeOpened.any (fun link => link.tradeID == some tradeId)

/-- The transaction closes a part of the trade. -/
def reduces : Bool := t.tradeReduced.any (fun link => link.tradeID == some tradeId)

/-- The transaction closes the trade. -/
def closes : Bool := t.tradesClosed.any (fun link => link.tradeID == some tradeId)

/-- The transaction is a fill of the trade. -/
def fills : Bool := t.opens tradeId || t.reduces tradeId || t.closes tradeId

/-- The signed units by which the transaction changes the trade. -/
def reducedUnits : ℚ :=
  if t.reduces tradeId then decimalFrom (t.tradeReduced.bind TradeLink.units) else 0

end Transaction

def TransactionLog.fillsOf (log : TransactionLog) (tradeId : String) : List Transaction :=
  log.transactions.filter (fun t => t.fills tradeId)

/-- One opening fill, partial closes and one closing fill, with constant protective orders. -/
structure Lifecycle where
  tradeId : String
  instrument : String
  units : ℚ
  openPrice : ℚ
  openedAt : Instant
  stopLoss : Option ℚ
  takeProfit : Option ℚ
  opening : Transaction
  opened : TradeLink
  reductions : List Transaction
  closing : Transaction
  opening_fill : opening.tradeOpened = some opened ∧ opened.tradeID = some tradeId ∧
    opening.reduces tradeId = false ∧ opening.closes tradeId = false
  reducing_fill : ∀ t ∈ reductions, t.reduces tradeId = true ∧ t.opens tradeId = false ∧
    t.closes tradeId = false
  closing_fill : closing.closes tradeId = true ∧ closing.opens tradeId = false ∧
    closing.reduces tradeId = false
  fill_type : ∀ t ∈ opening :: (reductions ++ [closing]), t.type = some "ORDER_FILL"
  units_eq : decimalFrom (opened.units.or opening.units) = units
  price_eq : priceOr (optionalDecimal opened.price) (optionalDecimal opening.price) = some openPrice
  time_eq : opening.time = some openedAt
  instrument_eq : opening.instrument = some instrument
  /-- A partial close leaves something open, on the same side. -/
  stays_open : ∀ rs ∈ reductions.inits,
    0 < units * (units + (rs.map (fun t => t.reducedUnits tradeId)).sum)

namespace Lifecycle

variable (L : Lifecycle)

/-- The fills, oldest first. -/
def fills : List Transaction := L.opening :: (L.reductions ++ [L.closing])

/-- The units that are still open after the fills of the log. -/
def openUnits (log : TransactionLog) : ℚ :=
  L.units + ((log.fillsOf L.tradeId).map (fun t => t.reducedUnits L.tradeId)).sum

/-- The entry of the trade in the open-trades list. -/
structure Shows (log : TransactionLog) (item : OpenTrade) : Prop where
  instrument : item.instrument = some L.instrument
  units : item.currentUnits = some (L.openUnits log)
  price : item.price = some L.openPrice
  time : item.openTime = some L.openedAt
  stopLoss : item.stopLossPrice = L.stopLoss
  takeProfit : item.takeProfitPrice = L.takeProfit

/-- The broker is at some point of the lifecycle. -/
structure Reports (broker : Broker) : Prop where
  fillsOf : broker.log.fillsOf L.tradeId <+: L.fills
  listed : L.tradeId ∈ broker.openIds ↔
    L.opening ∈ broker.log.transactions ∧ L.closing ∉ broker.log.transactions
  shows : ∀ item ∈ broker.openTrades, item.id = some L.tradeId → L.Shows broker.log item

instance (log : TransactionLog) (item : OpenTrade) : Decidable (L.Shows log item) :=
  decidable_of_iff (item.instrument = some L.instrument ∧
    item.currentUnits = some (L.openUnits log) ∧ item.price = some L.openPrice ∧
    item.openTime = some L.openedAt ∧ item.stopLossPrice = L.stopLoss ∧
    item.takeProfitPrice = L.takeProfit)
    ⟨fun ⟨h₁, h₂, h₃, h₄, h₅, h₆⟩ => ⟨h₁, h₂, h₃, h₄, h₅, h₆⟩,
      fun ⟨h₁, h₂, h₃, h₄, h₅, h₆⟩ => ⟨h₁, h₂, h₃, h₄, h₅, h₆⟩⟩

instance (broker : Broker) : Decidable (L.Reports broker) :=
  decidable_of_iff (broker.log.fillsOf L.tradeId <+: L.fills ∧
    (L.tradeId ∈ broker.openIds ↔
      L.opening ∈ broker.log.transactions ∧ L.closing ∉ broker.log.transactions) ∧
    ∀ item ∈ broker.openTrades, item.id = some L.tradeId → L.Shows broker.log item)
    ⟨fun ⟨h₁, h₂, h₃⟩ => ⟨h₁, h₂, h₃⟩, fun ⟨h₁, h₂, h₃⟩ => ⟨h₁, h₂, h₃⟩⟩

variable {L : Lifecycle} {broker : Broker} {log : TransactionLog} {t : Transaction} {zone : String}

/-! ### How far a log has got -/

theorem opening_opens : L.opening.opens L.tradeId = true := by
  simp [Transaction.opens, L.opening_fill.1, L.opening_fill.2.1]

theorem opening_ne_closing : L.opening ≠ L.closing := by
  intro h
  have hcloses := L.closing_fill.1
  rw [← h, L.opening_fill.2.2.2] at hcloses
  cases hcloses

theorem closing_not_mem_reductions : L.closing ∉ L.reductions := by
  intro h
  have hcloses := L.closing_fill.1
  rw [(L.reducing_fill _ h).2.2] at hcloses
  cases hcloses

theorem mem_fillsOf {tradeId : String} :
    t ∈ log.fillsOf tradeId ↔ t ∈ log.transactions ∧ t.fills tradeId = true := List.mem_filter

theorem eq_opening (ht : t ∈ L.fills) (hopens : t.opens L.tradeId = true) : t = L.opening := by
  simp only [fills, List.mem_cons, List.mem_append, List.not_mem_nil, or_false] at ht
  rcases ht with rfl | ht | rfl
  · rfl
  · rw [(L.reducing_fill t ht).2.1] at hopens; cases hopens
  · rw [L.closing_fill.2.1] at hopens; cases hopens

theorem eq_closing (ht : t ∈ L.fills) (hcloses : t.closes L.tradeId = true) : t = L.closing := by
  simp only [fills, List.mem_cons, List.mem_append, List.not_mem_nil, or_false] at ht
  rcases ht with rfl | ht | rfl
  · rw [L.opening_fill.2.2.2] at hcloses; cases hcloses
  · rw [(L.reducing_fill t ht).2.2] at hcloses; cases hcloses
  · rfl

/-- No fill is in the log, or the opening one and some partial closes, or all of them. -/
theorem fillsOf_cases (h : L.Reports broker) :
    broker.log.fillsOf L.tradeId = [] ∨
      (∃ rs, rs <+: L.reductions ∧ broker.log.fillsOf L.tradeId = L.opening :: rs) ∨
      broker.log.fillsOf L.tradeId = L.fills := by
  rcases List.prefix_cons_iff.mp h.fillsOf with hnil | ⟨rs, hrs, hpre⟩
  · exact Or.inl hnil
  · rcases List.prefix_concat_iff.mp hpre with rfl | hpre
    · exact Or.inr (Or.inr hrs)
    · exact Or.inr (Or.inl ⟨rs, hpre, hrs⟩)

theorem mem_fills (h : L.Reports broker) (ht : t ∈ broker.log.transactions)
    (hfills : t.fills L.tradeId = true) : t ∈ L.fills :=
  h.fillsOf.subset (mem_fillsOf.mpr ⟨ht, hfills⟩)

/-- A log with a fill of the trade has the opening one. -/
theorem opening_mem (h : L.Reports broker) (ht : t ∈ broker.log.transactions)
    (hfills : t.fills L.tradeId = true) : L.opening ∈ broker.log.transactions := by
  have hmem := mem_fillsOf.mpr ⟨ht, hfills⟩
  rcases fillsOf_cases h with hnil | ⟨rs, -, hrs⟩ | hall
  · rw [hnil] at hmem; cases hmem
  · exact (mem_fillsOf.mp (hrs ▸ List.mem_cons_self)).1
  · have hfirst : L.opening ∈ broker.log.fillsOf L.tradeId := by
      rw [hall]
      exact List.mem_cons_self
    exact (mem_fillsOf.mp hfirst).1

theorem fillsOf_eq (h : L.Reports broker) (hclosing : L.closing ∈ broker.log.transactions) :
    broker.log.fillsOf L.tradeId = L.fills := by
  have hmem : L.closing ∈ broker.log.fillsOf L.tradeId := by
    refine mem_fillsOf.mpr ⟨hclosing, ?_⟩
    rw [Transaction.fills, L.closing_fill.1, Bool.or_true]
  rcases fillsOf_cases h with hnil | ⟨rs, hpre, hrs⟩ | hall
  · rw [hnil] at hmem; cases hmem
  · rw [hrs] at hmem
    rcases List.mem_cons.mp hmem with heq | hmem
    · exact absurd heq.symm opening_ne_closing
    · exact absurd (hpre.subset hmem) closing_not_mem_reductions
  · exact hall

/-- While the trade is open, what is still open is on the side of the opening units. -/
theorem openUnits_side (h : L.Reports broker) (hopening : L.opening ∈ broker.log.transactions)
    (hclosing : L.closing ∉ broker.log.transactions) :
    0 < L.units * L.openUnits broker.log := by
  have hmem : L.opening ∈ broker.log.fillsOf L.tradeId := by
    refine mem_fillsOf.mpr ⟨hopening, ?_⟩
    rw [Transaction.fills, opening_opens, Bool.true_or, Bool.true_or]
  rcases fillsOf_cases h with hnil | ⟨rs, hpre, hrs⟩ | hall
  · rw [hnil] at hmem; cases hmem
  · have hzero : L.opening.reducedUnits L.tradeId = 0 := by
      rw [Transaction.reducedUnits, L.opening_fill.2.2.1]
      rfl
    rw [openUnits, hrs, List.map_cons, List.sum_cons, hzero, zero_add]
    exact L.stays_open rs ((List.mem_inits _ _).mpr hpre)
  · have hlast : L.closing ∈ broker.log.fillsOf L.tradeId := by
      rw [hall]
      exact List.mem_cons_of_mem _ (List.mem_append_right _ (List.mem_singleton_self _))
    exact absurd (mem_fillsOf.mp hlast).1 hclosing

/-! ### Events of the trade -/

/-- The row of the transaction that a sync stores under its event id. -/
abbrev RowOf (zone : String) (t : Transaction) (row : HistoryRow) : Prop :=
  Table.OfBlock HistoryRow.eventId (normalizedRows zone) t row

theorem fills_of_row {e : TradeHistoryEvent} (h : .trade e ∈ normalizedRows zone t) :
    t.fills e.tradeId = true := by
  simp only [Transaction.fills, Transaction.opens, Transaction.reduces, Transaction.closes,
    Bool.or_eq_true, Option.any_eq_true, List.any_eq_true, beq_iff_eq]
  rcases event_of_mem h with ⟨-, link, hlink, hid⟩ | ⟨-, link, hlink, hid⟩ | ⟨-, link, hlink, hid⟩
  · exact Or.inl (Or.inl ⟨link, hlink, hid⟩)
  · exact Or.inr ⟨link, hlink, hid⟩
  · exact Or.inl (Or.inr ⟨link, hlink, hid⟩)

theorem opening_event {e : TradeHistoryEvent} (h : L.Reports broker)
    (ht : t ∈ broker.log.transactions) (hrow : .trade e ∈ normalizedRows zone t)
    (hid : e.tradeId = L.tradeId) (hopen : e.eventType = .OPEN) :
    e.units = L.units ∧ e.price = some L.openPrice ∧ e.timeUtc = L.openedAt ∧
      e.instrument = L.instrument := by
  obtain ⟨link, hlink, hlinkId, hunits, hprice, htime, hinstrument⟩ := openingEvent_of_mem hrow hopen
  have hopens : t.opens L.tradeId = true := by
    rw [Transaction.opens, Option.any_eq_true]
    exact ⟨link, hlink, by rw [hlinkId, hid, beq_self_eq_true]⟩
  obtain rfl := eq_opening (mem_fills h ht (hid ▸ fills_of_row hrow)) hopens
  obtain rfl : L.opened = link := Option.some.inj (L.opening_fill.1.symm.trans hlink)
  refine ⟨hunits.trans L.units_eq, hprice.trans L.price_eq, ?_, ?_⟩
  · exact Option.some.inj (htime.symm.trans L.time_eq)
  · exact Option.some.inj (hinstrument.symm.trans L.instrument_eq)

theorem closing_event {e : TradeHistoryEvent} (h : L.Reports broker)
    (ht : t ∈ broker.log.transactions) (hrow : .trade e ∈ normalizedRows zone t)
    (hid : e.tradeId = L.tradeId) (hclose : e.eventType = .CLOSE) :
    L.closing ∈ broker.log.transactions := by
  obtain ⟨link, hlink, hlinkId⟩ := closed_of_mem hrow hclose
  have hcloses : t.closes L.tradeId = true := by
    rw [Transaction.closes, List.any_eq_true]
    exact ⟨link, hlink, by rw [hlinkId, hid, beq_self_eq_true]⟩
  exact eq_closing (mem_fills h ht (hid ▸ fills_of_row hrow)) hcloses ▸ ht

theorem closing_row {rows : List HistoryRow} (hrows : normalizeTransaction zone L.closing = .ok rows) :
    ∃ e : TradeHistoryEvent, RowOf zone L.closing (.trade e) ∧ e.tradeId = L.tradeId ∧
      e.eventType = .CLOSE := by
  obtain ⟨link, hlink, hlinkId⟩ := List.any_eq_true.mp L.closing_fill.1
  obtain ⟨e, he, hid, hclose⟩ := closeEvent_of_fill
    (L.fill_type _ (List.mem_cons_of_mem _ (List.mem_append_right _ (List.mem_singleton_self _))))
    hrows hlink (beq_iff_eq.mp hlinkId)
  rw [← normalizedRows_of_ok hrows] at he
  obtain ⟨row, hrow⟩ := Option.isSome_iff_exists.mp
    (DocTable.last_isSome.mpr ⟨_, he, (rfl : HistoryRow.eventId (.trade e) = _)⟩)
  obtain ⟨hmem, hkey⟩ := DocTable.last_some hrow
  rw [← hkey] at hrow
  cases row with
  | trade e' =>
      rw [eventId_of_trade hmem, eventId_of_trade he] at hkey
      obtain ⟨htype, hid'⟩ := eventType_of_eventIdText hkey
      exact ⟨e', hrow, hid'.trans hid, htype.trans hclose⟩
  | financing e' =>
      obtain ⟨subject, hsubject⟩ := eventId_of_financing hmem
      rw [hsubject, eventId_of_trade he, hclose] at hkey
      have hkind := (eq_of_append_colon (by decide) (by decide) (eventIdText_inj hkey).2).1
      exact absurd hkind (by decide)

/-! ### Stored events of the trade -/

variable {table table' : Table HistoryRow.eventId} {batch : List Transaction}

/-- The stored events of the trade come from the log. -/
def EventsFrom (L : Lifecycle) (zone : String) (log : TransactionLog)
    (table : Table HistoryRow.eventId) : Prop :=
  ∀ e : TradeHistoryEvent, e.tradeId = L.tradeId → .trade e ∈ table.docs →
    ∃ t ∈ log.transactions, RowOf zone t (.trade e)

/-- Every event of the trade is stored, as its fill leaves it. -/
def EventsHeld (L : Lifecycle) (zone : String) (table : Table HistoryRow.eventId) : Prop :=
  ∀ t ∈ L.fills, ∀ row ∈ normalizedRows zone t,
    row.asTrade.any (fun e => e.tradeId == L.tradeId) = true → RowOf zone t row → row ∈ table.docs

instance (table : Table HistoryRow.eventId) : Decidable (L.EventsHeld zone table) :=
  inferInstanceAs (Decidable (∀ t ∈ L.fills, ∀ row ∈ normalizedRows zone t,
    _ = true → DocTable.last _ _ _ = some row → row ∈ table.docs))

theorem EventsFrom.grows (h : L.EventsFrom zone log table) {log' : TransactionLog}
    (hlog : log.Grows log') : L.EventsFrom zone log' table := fun e hid he =>
  let ⟨t, ht, hrow⟩ := h e hid he
  ⟨t, hlog.mem ht, hrow⟩

theorem EventsFrom.insertAll (h : L.EventsFrom zone log table)
    (hbatch : ∀ t ∈ batch, t ∈ log.transactions) :
    L.EventsFrom zone log (table.insertAll (batch.flatMap (normalizedRows zone))) := by
  intro e hid he
  rcases Table.mem_insertBlocks (log.rowsApart zone) hbatch he with he | ⟨t, ht, hrow⟩
  · exact h e hid he
  · exact ⟨t, hbatch t ht, hrow⟩

/-- Storing a batch of a log that holds the fills loses no event of the trade. -/
theorem EventsHeld.insertAll (h : L.EventsHeld zone table)
    (hfills : ∀ t ∈ L.fills, t ∈ log.transactions)
    (hbatch : ∀ t ∈ batch, t ∈ log.transactions) :
    L.EventsHeld zone (table.insertAll (batch.flatMap (normalizedRows zone))) :=
  fun t ht row hmem hid hrow =>
    hrow.mem_insertBlocks (log.rowsApart zone) hbatch (hfills t ht) (h t ht row hmem hid hrow)

/-- Two stores that hold all events of the trade hold the same ones. -/
theorem tradeEvents_eq {store store' : TradeStore} {broker' : Broker}
    (hreports : L.Reports broker) (hreports' : L.Reports broker')
    (hfrom : L.EventsFrom zone broker.log store.tradeHistoryEvents)
    (hfrom' : L.EventsFrom zone broker'.log store'.tradeHistoryEvents)
    (hheld : L.EventsHeld zone store.tradeHistoryEvents)
    (hheld' : L.EventsHeld zone store'.tradeHistoryEvents) :
    store.tradeEvents L.tradeId = store'.tradeEvents L.tradeId := by
  have hstored : ∀ {store store' : TradeStore} {broker : Broker}, L.Reports broker →
      L.EventsFrom zone broker.log store.tradeHistoryEvents →
      L.EventsHeld zone store'.tradeHistoryEvents → ∀ e : TradeHistoryEvent, e.tradeId = L.tradeId →
        .trade e ∈ store.tradeHistoryEvents.docs → .trade e ∈ store'.tradeHistoryEvents.docs := by
    intro store store' broker hreports hfrom hheld e hid he
    obtain ⟨t, ht, hrow⟩ := hfrom e hid he
    have hfill : t ∈ L.fills := mem_fills hreports ht (hid ▸ fills_of_row hrow.mem)
    exact hheld t hfill _ hrow.mem (by simp [HistoryRow.asTrade, hid]) hrow
  exact TradeStore.tradeEvents_congr fun e hid =>
    ⟨hstored hreports hfrom hheld' e hid, hstored hreports' hfrom' hheld e hid⟩

/-! ### Records of the trade -/

/-- The record shows the trade, with these units and, from some point on, with its protective
orders. -/
structure Records (L : Lifecycle) (log : TransactionLog) (u : ℚ) (ordered : Prop)
    (record : TradeRecord) : Prop where
  units : record.units = u
  side : 0 < L.units * u
  openPrice : record.openPrice = L.openPrice
  openedAt : record.openedAt = L.openedAt
  instrument : record.instrument = L.instrument
  orders : ordered → record.slPrice = L.stopLoss ∧ record.tpPrice = L.takeProfit
  opening : L.opening ∈ log.transactions
  closing : record.state = .CLOSED → L.closing ∈ log.transactions

theorem Records.grows {u : ℚ} {ordered : Prop} {record : TradeRecord}
    (h : L.Records log u ordered record) {log' : TransactionLog} (hlog : log.Grows log') :
    L.Records log' u ordered record :=
  { h with opening := hlog.mem h.opening, closing := fun hstate => hlog.mem (h.closing hstate) }

end Lifecycle

end OandaV3
