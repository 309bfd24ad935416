import OandaV3.Conservation
import OandaV3.RealizedPnl
import OandaV3.Watermark

/-! # Pages of the trade history

`get_trade_history` shows one page of the stored trade events, with a summary of the day of the page's
first row.  The date is read off the local time the row was stored with, in the time zone of the operation
that stored it; the summary takes the day of that date in the journal's time zone.

* `getTradeHistory_covers_iff`: the summary covers the first row exactly when the day of its date, taken
  in the journal's zone, holds the row.
* `pageDateSummary_covers`: so it does in every state reached by syncs and backfills whose fills are dated
  by the days of the journal (`DayHolds`). -/

namespace OandaV3

open Fallible Interaction Program

/-! ### The page -/

/-- `TRADE_HISTORY_PAGE_SIZE`. -/
def tradeHistoryPageSize : ℕ := 20

/-- `has_trade_history_data`. -/
def TradeStore.hasTradeHistoryData (store : TradeStore) : Bool :=
  !store.tradeHistoryEvents.docs.isEmpty

/-- The warning `_try_sync_for_read` returns, from the report of its sync or the text of the exception. -/
def staleWarning (store : TradeStore) : Except String SyncReport → Except Exn (Option String)
  | .ok _ => .ok none
  | .error text =>
      if store.hasTradeHistoryData then
        .ok (some "Sync warning: using stored trade-history data; latest sync failed.")
      else .error (.runtimeError
        ("Trade history sync failed and no stored data is available: " ++ text))

/-- `_filter_rows_for_view`. -/
def filterRowsForView (rows : List TradeHistoryEvent) (view : String) :
    Except Exn (List TradeHistoryEvent) :=
  match Text.lower (Text.strip view) with
  | "all" => .ok rows
  | "opened" => .ok (rows.filter fun row => row.eventType == .OPEN)
  | "closed" => .ok (rows.filter TradeHistoryEvent.isClosing)
  | _ => .error (.valueError "Unsupported trade-history view.")

/-- `TradeHistoryPage`. -/
structure TradeHistoryPage where
  period : Period
  view : String
  instrument : Option String
  windowStartUtc : Instant
  windowEndUtc : Instant
  windowStartLocal : LocalTime
  windowEndLocal : LocalTime
  summary : RealizedPnLSummary
  pageDateLocal : Option ℤ
  pageDateSummary : Option RealizedPnLSummary
  rows : List TradeHistoryEvent
  page : ℕ
  pageSize : ℕ
  totalRows : ℕ
  totalPages : ℕ
  staleWarning : Option String
deriving DecidableEq

/-- The date of `start_local`: a custom window starts at midnight of its first day. -/
def RealizedPnLSummary.startDate (localDate : String → Instant → ℤ) (summary : RealizedPnLSummary) :
    ℤ :=
  match summary.period with
  | .custom startDate _ => startDate
  | _ => localDate summary.startLocal.zone summary.startLocal.utc

/-- The first violation of the contract of `TradeHistoryPage`. -/
def TradeHistoryPage.contractError (localDate : String → Instant → ℤ) (page : TradeHistoryPage) :
    Option String :=
  firstViolation
    [(["all", "opened", "closed"].contains page.view,
      "Input should be 'all', 'opened' or 'closed'"),
     (decide (1 ≤ page.page), "Input should be greater than or equal to 1"),
     (page.instrument.all validOandaInstrumentSymbol,
      "instrument must look like an OANDA instrument symbol such as SPX500_USD or SGD_JPY."),
     (decide (page.windowStartUtc ≤ page.windowEndUtc),
      "window_end_utc must be greater than or equal to window_start_utc."),
     (decide (1 ≤ page.totalPages), "total_pages must be greater than or equal to 1."),
     (page.pageDateLocal.isNone == page.pageDateSummary.isNone,
      "page_date_local and page_date_summary must be provided together."),
     (page.pageDateLocal.all fun date =>
        page.pageDateSummary.all fun summary => summary.startDate localDate == date,
      "page_date_summary must align with page_date_local.")]

structure PageRequest where
  period : Period
  view : String
  instrument : Option String
  page : ℤ
  startDate : Option ℤ
  endDate : Option ℤ
deriving DecidableEq, Repr

/-- `get_trade_history` on the store its reads see, at an instant that is `today` in the journal's zone;
`localDate` is the date of an instant in a zone. -/
def getTradeHistory (cfg : Config) (localDate : String → Instant → ℤ)
    (synced : Except String SyncReport) (store : TradeStore) (nowUtc : Instant) (today : ℤ)
    (request : PageRequest) : Except Exn TradeHistoryPage := do
  let resolvedPeriod ← resolvePeriodSelector request.period request.startDate request.endDate
  let warning ← staleWarning store synced
  let pnl ← computeRealizedPnl cfg store nowUtc today resolvedPeriod request.instrument none none
  let rows := store.listTradeHistoryTradeEvents
    { windowQuery pnl.startUtc pnl.endUtc request.instrument with descending := true }
  let filteredRows ← filterRowsForView rows request.view
  let totalRows := filteredRows.length
  let totalPages := max 1 ((totalRows + tradeHistoryPageSize - 1) / tradeHistoryPageSize)
  let resolvedPage := min (max request.page.toNat 1) totalPages
  let pageRows := (filteredRows.drop ((resolvedPage - 1) * tradeHistoryPageSize)).take
    tradeHistoryPageSize
  let pageDateLocal := pageRows.head?.map fun row => localDate row.timeLocal.zone row.timeLocal.utc
  let pageDateSummary ← pageDateLocal.mapM fun date =>
    computeRealizedPnl cfg store nowUtc today (.custom date date) request.instrument none none
  let page : TradeHistoryPage := {
    period := resolvedPeriod
    view := request.view
    instrument := request.instrument
    windowStartUtc := pnl.startUtc
    windowEndUtc := pnl.endUtc
    windowStartLocal := pnl.startLocal
    windowEndLocal := pnl.endLocal
    summary := pnl
    pageDateLocal
    pageDateSummary
    rows := pageRows
    page := resolvedPage
    pageSize := tradeHistoryPageSize
    totalRows
    totalPages
    staleWarning := warning }
  checked page (page.contractError localDate)

/-- The window of the page-date summary holds the time of the first row. -/
def TradeHistoryPage.CoversFirstRow (page : TradeHistoryPage) : Prop :=
  ∀ row ∈ page.rows.head?, ∃ summary ∈ page.pageDateSummary,
    summary.startUtc ≤ row.timeUtc ∧ row.timeUtc < summary.endUtc

/-- The journal's day with the date of a local time holds the time. -/
def Config.DayHolds (cfg : Config) (localDate : String → Instant → ℤ) (time : LocalTime) : Prop :=
  cfg.localMidnightUtc cfg.journalTimezone (localDate time.zone time.utc) ≤ time.utc ∧
    time.utc < cfg.localMidnightUtc cfg.journalTimezone (localDate time.zone time.utc + 1)

section page

variable {cfg : Config} {localDate : String → Instant → ℤ} {store : TradeStore} {nowUtc : Instant}
  {today : ℤ} {instrument : Option String} {request : PageRequest} {synced : Except String SyncReport}
  {page : TradeHistoryPage}

theorem computeRealizedPnl_day {date : ℤ} {summary : RealizedPnLSummary}
    (h : computeRealizedPnl cfg store nowUtc today (.custom date date) instrument none none =
      .ok summary) :
    summary.startUtc = cfg.localMidnightUtc cfg.journalTimezone date ∧
      summary.endUtc = cfg.localMidnightUtc cfg.journalTimezone (date + 1) := by
  obtain ⟨resolved, hresolved, h⟩ := bind_eq_ok.mp h
  obtain rfl : .custom date date = resolved := Except.ok.inj hresolved
  obtain ⟨window, hwindow, h⟩ := bind_eq_ok.mp h
  rw [resolvePeriodWindow, if_neg (lt_irrefl date)] at hwindow
  obtain rfl := Except.ok.inj hwindow
  obtain ⟨-, rfl⟩ := checked_eq_ok.mp h
  exact ⟨rfl, rfl⟩

theorem mem_of_filterRowsForView {rows filtered : List TradeHistoryEvent} {view : String}
    (h : filterRowsForView rows view = .ok filtered) {row : TradeHistoryEvent}
    (hrow : row ∈ filtered) : row ∈ rows := by
  unfold filterRowsForView at h
  split at h
  · exact Except.ok.inj h ▸ hrow
  · exact (List.mem_filter.mp (Except.ok.inj h ▸ hrow)).1
  · exact (List.mem_filter.mp (Except.ok.inj h ▸ hrow)).1
  · cases h

/-- The rows of a page are stored, and its summary is the one of the date of the first row. -/
theorem getTradeHistory_ok
    (h : getTradeHistory cfg localDate synced store nowUtc today request = .ok page) :
    (∀ row ∈ page.rows, .trade row ∈ store.tradeHistoryEvents.docs) ∧
      ∀ row ∈ page.rows.head?, ∃ summary, page.pageDateSummary = some summary ∧
        computeRealizedPnl cfg store nowUtc today
          (.custom (localDate row.timeLocal.zone row.timeLocal.utc)
            (localDate row.timeLocal.zone row.timeLocal.utc)) request.instrument none none =
          .ok summary := by
  obtain ⟨resolvedPeriod, -, h⟩ := bind_eq_ok.mp h
  obtain ⟨warning, -, h⟩ := bind_eq_ok.mp h
  obtain ⟨pnl, -, h⟩ := bind_eq_ok.mp h
  obtain ⟨filteredRows, hfiltered, h⟩ := bind_eq_ok.mp h
  obtain ⟨pageDateSummary, hsummary, h⟩ := bind_eq_ok.mp h
  obtain ⟨-, rfl⟩ := checked_eq_ok.mp h
  refine ⟨fun row hrow => ?_, fun row hrow => ?_⟩
  · have hmem := List.mem_of_mem_drop (List.mem_of_mem_take hrow)
    exact (TradeStore.mem_listTradeHistoryTradeEvents.mp
      (mem_of_filterRowsForView hfiltered hmem)).1
  · rw [Option.mem_def.mp hrow] at hsummary
    obtain ⟨summary, hcompute, hsome⟩ := bind_eq_ok.mp hsummary
    exact ⟨summary, (Except.ok.inj hsome).symm, hcompute⟩

/-- The summary of a page covers its first row exactly when the journal's day with the date of the row
holds the row. -/
theorem getTradeHistory_covers_iff
    (h : getTradeHistory cfg localDate synced store nowUtc today request = .ok page) :
    page.CoversFirstRow ↔ ∀ row ∈ page.rows.head?,
      cfg.localMidnightUtc cfg.journalTimezone
        (localDate row.timeLocal.zone row.timeLocal.utc) ≤ row.timeUtc ∧
      row.timeUtc < cfg.localMidnightUtc cfg.journalTimezone
        (localDate row.timeLocal.zone row.timeLocal.utc + 1) := by
  refine forall₂_congr fun row hrow => ?_
  obtain ⟨summary, hsummary, hcompute⟩ := (getTradeHistory_ok h).2 row hrow
  obtain ⟨hstart, hend⟩ := computeRealizedPnl_day hcompute
  rw [hsummary, ← hstart, ← hend]
  simp

end page

/-! ### The dates of the stored rows -/

/-- A fill of a trade: an order fill with a leg. -/
def Transaction.FillsTrade (t : Transaction) : Prop :=
  t.kind = "ORDER_FILL" ∧ (t.tradeOpened ≠ none ∨ t.closingLinks ≠ [])

/-- The transactions an answer brings. -/
def fetchedTransactions : (c : Call) → Except Exn (Ans c) → List Transaction
  | .fetchTransactionsSince _ _, .ok fetched => fetched.1
  | .fetchTransactionsForWindow _ _ _, .ok transactions => transactions
  | _, _ => []

/-- The fills have dates, in a zone, by which the journal's days hold them. -/
def Config.DatesFills (cfg : Config) (localDate : String → Instant → ℤ) (zone : String)
    (transactions : List Transaction) : Prop :=
  ∀ t ∈ transactions, t.FillsTrade → ∀ time ∈ t.time, cfg.DayHolds localDate ⟨time, zone⟩

/-- The time zone in which a call stores its rows. -/
def HistoryOp.timezone (cfg : Config) : HistoryOp → String
  | .incrementalSync => cfg.journalTimezone
  | .backfillHistory _ _ tzName => backfillTimezone cfg tzName

/-- A trade event is shown at its time, and the journal's day with its date holds it. -/
def HistoryRow.Dated (cfg : Config) (localDate : String → Instant → ℤ) : HistoryRow → Prop
  | .trade e => e.timeLocal.utc = e.timeUtc ∧ cfg.DayHolds localDate e.timeLocal
  | .financing _ => True

def Call.StoresOnly (good : HistoryRow → Prop) : Call → Prop
  | .upsertTradeHistoryEvents rows => ∀ row ∈ rows, good row
  | _ => True

section dates

variable {cfg : Config} {localDate : String → Instant → ℤ} {zone : String}
  {transactions : List Transaction}

/-- A trade event comes from a fill, and shows the time of the fill in the zone it was stored in. -/
theorem fill_of_mem {t : Transaction} {e : TradeHistoryEvent} (h : .trade e ∈ normalizedRows zone t) :
    t.FillsTrade ∧ t.time = some e.timeUtc ∧ e.timeLocal = ⟨e.timeUtc, zone⟩ := by
  rcases row_of_mem h with ⟨_, _, _, _, leg, _, hfill, htime, -, hlegs, hleg, hrow⟩ | ⟨_, _, _, _, hrow⟩
  · obtain rfl := HistoryRow.trade.inj hrow
    refine ⟨⟨hfill, ?_⟩, htime, rfl⟩
    rcases link_of_leg hlegs hleg with ⟨link, hlink, -⟩ | ⟨link, hlink, -⟩ | ⟨link, hlink, -⟩
    · exact Or.inl (Option.ne_none_iff_exists'.mpr ⟨link, hlink⟩)
    · exact Or.inr (List.ne_nil_of_mem (List.mem_append_left _ hlink))
    · exact Or.inr (List.ne_nil_of_mem (List.mem_append_right _ (Option.mem_toList.mpr hlink)))
  · cases hrow

theorem dated_of_normalized {rows : List HistoryRow} (hdates : cfg.DatesFills localDate zone transactions)
    (h : normalizeTransactions zone transactions = .ok rows) :
    ∀ row ∈ rows, row.Dated cfg localDate := by
  obtain ⟨rfl, -⟩ := normalizeTransactions_ok.mp h
  intro row hrow
  obtain ⟨t, ht, hmem⟩ := List.mem_flatMap.mp hrow
  cases row with
  | financing e => trivial
  | trade e =>
      obtain ⟨hfill, htime, hlocal⟩ := fill_of_mem hmem
      rw [HistoryRow.Dated, hlocal]
      exact ⟨rfl, hdates t ht hfill e.timeUtc htime⟩

theorem calls_ingest_dated (hdates : cfg.DatesFills localDate zone transactions) :
    (ingest cfg zone transactions).Calls (Call.StoresOnly (HistoryRow.Dated cfg localDate)) :=
  calls_ingest (fun c _ => by cases c <;> trivial) trivial
    fun _ hrows => dated_of_normalized hdates hrows

/-- The answers that bring fills dated in a zone. -/
def AnswersDated (cfg : Config) (localDate : String → Instant → ℤ) (zone : String) (c : Call)
    (r : Except Exn (Ans c)) : Prop :=
  cfg.DatesFills localDate zone (fetchedTransactions c r)

theorem callsOn_incrementalSync :
    (incrementalSync cfg).CallsOn (AnswersDated cfg localDate cfg.journalTimezone)
      (Call.StoresOnly (HistoryRow.Dated cfg localDate)) := by
  refine callsOn_perform trivial fun state _ => callsOn_perform trivial fun nowUtc _ => ?_
  cases state with
  | none =>
      refine callsOn_perform trivial fun account _ => ?_
      obtain ⟨id, last⟩ := account
      cases last with
      | none => trivial
      | some last =>
          exact callsOn_bind calls_ofExcept.callsOn fun _ => callsOn_perform trivial fun _ _ => trivial
  | some state =>
      refine callsOn_perform trivial fun fetched hfetched => ?_
      exact callsOn_bind (p := ingest cfg cfg.journalTimezone fetched.1)
        (calls_ingest_dated hfetched).callsOn fun _ =>
          callsOn_bind calls_ofExcept.callsOn fun _ => callsOn_perform trivial fun _ _ => trivial

theorem callsOn_backfillChunks (chunks : List (Instant × Instant)) (best : Option ℕ)
    (totals : IngestCounts) :
    (backfillChunks cfg zone chunks best totals).CallsOn (AnswersDated cfg localDate zone)
      (Call.StoresOnly (HistoryRow.Dated cfg localDate)) := by
  induction chunks generalizing best totals with
  | nil => trivial
  | cons chunk chunks ih =>
      exact callsOn_perform trivial fun _ hfetched =>
        callsOn_bind (calls_ingest_dated hfetched).callsOn fun _ => ih _ _

theorem callsOn_advanceSyncStateWatermark (candidate : ℕ) :
    (advanceSyncStateWatermark cfg candidate).CallsOn (AnswersDated cfg localDate zone)
      (Call.StoresOnly (HistoryRow.Dated cfg localDate)) := by
  refine callsOn_perform trivial fun existing _ => ?_
  split_ifs
  · trivial
  · exact callsOn_perform trivial fun _ _ =>
      callsOn_bind calls_ofExcept.callsOn fun _ => (calls_perform trivial).callsOn

theorem callsOn_backfillHistory (startDay endDay : ℤ) (tzName : Option String) :
    (backfillHistory cfg startDay endDay tzName).CallsOn
      (AnswersDated cfg localDate (backfillTimezone cfg tzName))
      (Call.StoresOnly (HistoryRow.Dated cfg localDate)) := by
  unfold backfillHistory
  split_ifs
  · trivial
  · refine callsOn_bind (callsOn_backfillChunks _ none {}) fun result => ?_
    obtain ⟨best, counts⟩ := result
    cases best with
    | none => trivial
    | some candidate => exact callsOn_bind (callsOn_advanceSyncStateWatermark candidate) fun _ => trivial

theorem HistoryOp.callsOn_run (op : HistoryOp) :
    (op.run cfg).CallsOn (AnswersDated cfg localDate (op.timezone cfg))
      (Call.StoresOnly (HistoryRow.Dated cfg localDate)) := by
  cases op with
  | incrementalSync => exact callsOn_bind callsOn_incrementalSync fun _ => trivial
  | backfillHistory startDay endDay tzName =>
      exact callsOn_bind (callsOn_backfillHistory startDay endDay tzName) fun _ => trivial

/-- The stored rows after a call: as before, or rows it stored. -/
theorem faulty_rows {lossy : Call → Prop} {good : HistoryRow → Prop} {c : Call}
    {r : Except Exn (Ans c)} {w w' : World} (hc : c.StoresOnly good)
    (h : (World.faulty lossy).step c w r w') (hw : ∀ row ∈ w.store.tradeHistoryEvents.docs, good row) :
    ∀ row ∈ w'.store.tradeHistoryEvents.docs, good row := by
  have hstored : ∀ rows : List HistoryRow, (∀ row ∈ rows, good row) →
      ∀ row ∈ (w.store.upsertTradeHistoryEvents rows).2.tradeHistoryEvents.docs, good row := by
    intro rows hrows row hrow
    rw [TradeStore.upsertTradeHistoryEvents_table] at hrow
    exact (DocTable.mem_putAll hrow).elim (hrows row) (hw row)
  rcases World.faulty_post h with rfl | h
  · cases c with
    | upsertTradeHistoryEvents rows => exact hstored rows hc
    | _ => exact hw
  · cases c with
    | upsertRawTransactions transactions =>
        obtain ⟨stored, -, rfl⟩ := h
        exact hw
    | upsertTradeHistoryEvents rows =>
        obtain ⟨stored, hpart, rfl⟩ := h
        exact hstored stored fun row hrow => hc row (hpart.subset hrow)
    | _ =>
        obtain rfl : w' = w := h
        exact hw

end dates

/-! ### Pages of a reachable store -/

/-- The environment leaves the stored rows alone. -/
def World.KeepsRows (w w' : World) : Prop :=
  w'.store.tradeHistoryEvents = w.store.tradeHistoryEvents

/-- A state that syncs and backfills reach from a store without rows, with the trace of their calls. -/
def HistoryRun {ι : Type} [DecidableEq ι] (cfg : Config) (lossy : Call → Prop) (ops : ι → HistoryOp)
    (tr : List (Event Call Ans Exn World ι)) (w : World) : Prop :=
  ∃ w₀ pool, w₀.store.tradeHistoryEvents = .empty ∧
    Run (World.faulty lossy) World.KeepsRows (fun i => (ops i).run cfg) w₀ tr pool w

/-- Every fill that is fetched has, in the time zone of the call that fetches it, a date by which the
journal's day holds it. -/
def FetchesDated {ι : Type} (cfg : Config) (localDate : String → Instant → ℤ) (ops : ι → HistoryOp)
    (tr : List (Event Call Ans Exn World ι)) : Prop :=
  ∀ e ∈ tr, AnswersDated cfg localDate ((ops e.thread).timezone cfg) e.call e.answer

theorem HistoryRun.rows_dated {ι : Type} [DecidableEq ι] {cfg : Config} {lossy : Call → Prop}
    {localDate : String → Instant → ℤ} {ops : ι → HistoryOp} {tr : List (Event Call Ans Exn World ι)}
    {w : World} (hrun : HistoryRun cfg lossy ops tr w) (hdates : FetchesDated cfg localDate ops tr) :
    ∀ row ∈ w.store.tradeHistoryEvents.docs, row.Dated cfg localDate := by
  obtain ⟨w₀, pool, hempty, hrun⟩ := hrun
  have hkeeps : ∀ a b : World, a.KeepsRows b →
      (∀ row ∈ a.store.tradeHistoryEvents.docs, row.Dated cfg localDate) →
        ∀ row ∈ b.store.tradeHistoryEvents.docs, row.Dated cfg localDate := by
    intro a b hab ha
    rwa [show b.store.tradeHistoryEvents = a.store.tradeHistoryEvents from hab]
  have hstart : ∀ row ∈ w₀.store.tradeHistoryEvents.docs, row.Dated cfg localDate := by
    rw [hempty]
    exact fun row hrow => nomatch hrow
  exact (Run.callsOn_invariant (fun i => (ops i).callsOn_run) hkeeps
    (fun c a r b hc hstep ha => faulty_rows hc hstep ha) hstart hrun hdates).2

/-- **The page-date summary covers the page.**  In every state that any number of syncs and backfills
reach, whatever fails, the summary of every page covers the first row of the page, when every fill was
fetched in a time zone by whose date the journal's day holds it. -/
theorem pageDateSummary_covers {ι : Type} [DecidableEq ι] (cfg : Config) (lossy : Call → Prop)
    (localDate : String → Instant → ℤ) (ops : ι → HistoryOp) (tr : List (Event Call Ans Exn World ι))
    (w : World) (hrun : HistoryRun cfg lossy ops tr w) (hdates : FetchesDated cfg localDate ops tr)
    (synced : Except String SyncReport) (nowUtc : Instant) (today : ℤ) (request : PageRequest)
    (page : TradeHistoryPage)
    (hpage : getTradeHistory cfg localDate synced w.store nowUtc today request = .ok page) :
    page.CoversFirstRow := by
  refine (getTradeHistory_covers_iff hpage).mpr fun row hrow => ?_
  have hstored := (getTradeHistory_ok hpage).1 row (List.mem_of_mem_head? hrow)
  obtain ⟨htime, hholds⟩ := hrun.rows_dated hdates _ hstored
  rw [Config.DayHolds, htime] at hholds
  rwa [htime]

/-! ### A fill between two midnights -/

instance (page : TradeHistoryPage) : Decidable page.CoversFirstRow := by
  unfold TradeHistoryPage.CoversFirstRow
  infer_instance

instance (t : Transaction) : Decidable t.FillsTrade := by
  unfold Transaction.FillsTrade
  infer_instance

instance (cfg : Config) (localDate : String → Instant → ℤ) (time : LocalTime) :
    Decidable (cfg.DayHolds localDate time) := by
  unfold Config.DayHolds
  infer_instance

instance (cfg : Config) (localDate : String → Instant → ℤ) (zone : String) (c : Call)
    (r : Except Exn (Ans c)) : Decidable (AnswersDated cfg localDate zone c r) := by
  unfold AnswersDated Config.DatesFills
  infer_instance

instance {ι : Type} (cfg : Config) (localDate : String → Instant → ℤ) (ops : ι → HistoryOp)
    (tr : List (Event Call Ans Exn World ι)) : Decidable (FetchesDated cfg localDate ops tr) := by
  unfold FetchesDated
  infer_instance

def hourMicros : ℤ := 3600 * 1000000

/-- Singapore is eight hours ahead of UTC. -/
def zoneOffset (zone : String) : ℤ := if zone = "Asia/Singapore" then 8 * hourMicros else 0

/-- The sample settings with a journal in Singapore. -/
def singaporeConfig : Config :=
  { sampleConfig with
    journalTimezone := "Asia/Singapore"
    localMidnightUtc := fun zone day => day * (24 * hourMicros) - zoneOffset zone }

def zoneDate (zone : String) (time : Instant) : ℤ := (time + zoneOffset zone) / (24 * hourMicros)

/-- A trade opened at 20:00 UTC of day 0, which is 04:00 of day 1 in Singapore. -/
def eveningFill : TransactionLog := ⟨[openingFill 1 (20 * hourMicros) "1" 100], by decide⟩

/-- A backfill of two days in a zone, and the sync of the read after it. -/
def backfillAndRead (tzName : Option String) (reads : Bool) : HistoryOp :=
  if reads then .incrementalSync else .backfillHistory 0 1 tzName

/-- The backfill, with its ten calls, then the sync, with its five calls. -/
def backfilled (tzName : Option String) :=
  Run.schedule World.answer (List.replicate 10 false ++ List.replicate 5 true)
    (fun reads => (backfillAndRead tzName reads).run singaporeConfig) (sampleWorld eveningFill)

theorem historyRun_backfilled (tzName : Option String) :
    HistoryRun singaporeConfig (fun _ => False) (backfillAndRead tzName) (backfilled tzName).1
      (backfilled tzName).2.2 :=
  ⟨_, _, rfl, Run.of_schedule (World.faulty_of_answer _) _ _ _⟩

/-- The first page of the two days. -/
def backfilledPage (tzName : Option String) : Except Exn TradeHistoryPage :=
  getTradeHistory singaporeConfig zoneDate
    (.ok { mode := "incremental", accountId := "001", lastTransactionId := 1, counts := {} })
    (backfilled tzName).2.2.store (48 * hourMicros) 2
    { period := .custom 0 1, view := "all", instrument := none, page := 1, startDate := none,
      endDate := none }

/-- Backfilled in the journal's zone, the fill is covered. -/
theorem pageDateSummary_covers_journalZone : ∃ page, backfilledPage none = .ok page ∧
    page.rows.length = 1 ∧ page.CoversFirstRow := by
  have hreturns : (backfilledPage none).map (fun page => page.rows.length) = .ok 1 := by decide +kernel
  obtain ⟨page, hok, hlength⟩ := map_eq_ok.mp hreturns
  exact ⟨page, hok, hlength, pageDateSummary_covers _ _ _ _ _ _ (historyRun_backfilled none)
    (by decide +kernel) _ _ _ _ page hok⟩

/-- Backfilled in UTC, the fill is dated day 0, and the journal's day 0 ends at 16:00 UTC. -/
theorem pageDateSummary_misses_utcBackfill :
    ¬ ∀ tr w, HistoryRun singaporeConfig (fun _ => False) (backfillAndRead (some "UTC")) tr w →
      ∀ synced nowUtc today request page,
        getTradeHistory singaporeConfig zoneDate synced w.store nowUtc today request = .ok page →
          page.CoversFirstRow := by
  intro h
  have hmisses : (backfilledPage (some "UTC")).map (fun page => decide page.CoversFirstRow) =
      .ok false := by decide +kernel
  obtain ⟨page, hok, hfalse⟩ := map_eq_ok.mp hmisses
  exact of_decide_eq_false hfalse
    (h _ _ (historyRun_backfilled (some "UTC")) _ _ _ _ page hok)

end OandaV3
