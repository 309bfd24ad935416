import Mathlib.Data.List.Range
import Mathlib.Data.List.TakeDrop
import OandaV3.TradeHistoryPage

/-! # The pages of one history

Reads that ask for different pages of the same view, on a store that does not change, see slices of one
list of rows.

* `getTradeHistory_turn`: what any other page number gives, when one read returns.
* `pairwise_listed`: the rows come newest first, by a key that no two rows share.
* `pages_partition`: the pages one after another are the rows of the view in the window. -/

/-! ## Slices of a list

A list is cut into slices of one size, the last of which may be short.

* `flatMap_slice`: the slices one after another are the list.
* `length_slice`: every slice that does not reach the end is full.
* `le_sliceCount_mul`: rounding the number of slices up is enough for the whole list. -/

namespace Slices

variable {α : Type*}

/-- The slice with an index, counted from 0. -/
def slice (size : ℕ) (l : List α) (i : ℕ) : List α := (l.drop (i * size)).take size

/-- The number of slices of a list with `n` items, and one for the empty list. -/
def sliceCount (size n : ℕ) : ℕ := max 1 ((n + size - 1) / size)

theorem flatMap_slice_take (size : ℕ) (l : List α) (count : ℕ) :
    (List.range count).flatMap (slice size l) = l.take (count * size) := by
  induction count with
  | zero => simp
  | succ count ih =>
      rw [List.range_succ, List.flatMap_append, ih, List.flatMap_singleton, slice, Nat.succ_mul,
        List.take_add]

theorem le_sliceCount_mul {size : ℕ} (hsize : 0 < size) (n : ℕ) :
    n ≤ sliceCount size n * size := by
  have hceil : n ≤ (n + size - 1) / size * size := by
    have hdiv := Nat.div_add_mod (n + size - 1) size
    have hmod := Nat.mod_lt (n + size - 1) hsize
    rw [Nat.mul_comm] at hdiv
    omega
  exact hceil.trans (Nat.mul_le_mul_right size (le_max_right _ _))

theorem succ_mul_le_of_lt_sliceCount {size n i : ℕ} (hsize : 0 < size)
    (hi : i + 1 < sliceCount size n) : (i + 1) * size ≤ n := by
  have hlt : i + 1 < (n + size - 1) / size := by
    unfold sliceCount at hi
    omega
  have hmul : (i + 1 + 1) * size ≤ n + size - 1 :=
    (Nat.mul_le_mul_right size hlt).trans (Nat.div_mul_le_self _ _)
  rw [Nat.succ_mul] at hmul
  omega

theorem flatMap_slice {size : ℕ} (hsize : 0 < size) (l : List α) :
    (List.range (sliceCount size l.length)).flatMap (slice size l) = l := by
  rw [flatMap_slice_take]
  exact List.take_of_length_le (le_sliceCount_mul hsize l.length)

theorem length_slice {size : ℕ} {l : List α} {i : ℕ} (h : (i + 1) * size ≤ l.length) :
    (slice size l i).length = size := by
  rw [Nat.succ_mul] at h
  rw [slice, List.length_take, List.length_drop]
  omega

end Slices

namespace OandaV3

open Fallible Slices

/-! ### One page and the others -/

def viewSelects (view : String) (row : TradeHistoryEvent) : Bool :=
  if Text.lower (Text.strip view) = "all" then true
  else if Text.lower (Text.strip view) = "opened" then row.eventType == .OPEN
  else row.isClosing

theorem filterRowsForView_ok {rows filtered : List TradeHistoryEvent} {view : String}
    (h : filterRowsForView rows view = .ok filtered) :
    filtered = rows.filter (viewSelects view) := by
  unfold filterRowsForView at h
  unfold viewSelects
  split at h
  · rename_i hview
    obtain rfl := Except.ok.inj h
    simp [hview]
  · rename_i hview
    obtain rfl := Except.ok.inj h
    simp [hview]
  · rename_i hview
    obtain rfl := Except.ok.inj h
    simp [hview]
  · cases h

def resolvePage (totalPages : ℕ) (requested : ℤ) : ℕ := min (max requested.toNat 1) totalPages

def firstDate (localDate : String → Instant → ℤ) (rows : List TradeHistoryEvent) : Option ℤ :=
  rows.head?.map fun row => localDate row.timeLocal.zone row.timeLocal.utc

def daySummary (cfg : Config) (store : TradeStore) (instrument : Option String) (date : ℤ) :
    RealizedPnLSummary :=
  realizedPnlSummary store (.custom date date)
    (windowBounds cfg.journalTimezone (.custom date date)
      (cfg.localMidnightUtc cfg.journalTimezone date)
      (cfg.localMidnightUtc cfg.journalTimezone (date + 1))) instrument

theorem startDate_daySummary {cfg : Config} {localDate : String → Instant → ℤ} {store : TradeStore}
    {instrument : Option String} {date : ℤ} :
    (daySummary cfg store instrument date).startDate localDate = date := rfl

/-- The same read, turned to another page of its rows. -/
def TradeHistoryPage.turn (cfg : Config) (localDate : String → Instant → ℤ) (store : TradeStore)
    (page : TradeHistoryPage) (rows : List TradeHistoryEvent) (number : ℕ) : TradeHistoryPage :=
  { page with
    rows := slice tradeHistoryPageSize rows (number - 1)
    page := number
    pageDateLocal := firstDate localDate (slice tradeHistoryPageSize rows (number - 1))
    pageDateSummary := (firstDate localDate (slice tradeHistoryPageSize rows (number - 1))).map
      (daySummary cfg store page.instrument) }

section pages

variable {cfg : Config} {localDate : String → Instant → ℤ} {store : TradeStore} {nowUtc : Instant}
  {today : ℤ} {request : PageRequest} {synced : Except String SyncReport} {page : TradeHistoryPage}

theorem valid_instrument_of_contract (h : page.contractError localDate = none) :
    page.instrument.all validOandaInstrumentSymbol = true := by
  rw [TradeHistoryPage.contractError, firstViolation_eq_none] at h
  simp only [List.forall_mem_cons] at h
  exact h.2.2.1

theorem contractError_turn (h : page.contractError localDate = none) {rows : List TradeHistoryEvent}
    {number : ℕ} (hnumber : 1 ≤ number) :
    (page.turn cfg localDate store rows number).contractError localDate = none := by
  rw [TradeHistoryPage.contractError, firstViolation_eq_none] at h ⊢
  simp only [List.forall_mem_cons, List.not_mem_nil, false_implies, implies_true, and_true] at h ⊢
  obtain ⟨hview, -, hinstrument, hwindow, htotal, -, -⟩ := h
  refine ⟨hview, decide_eq_true hnumber, hinstrument, hwindow, htotal, ?_, ?_⟩
  · simp only [TradeHistoryPage.turn, Option.isNone_map, beq_self_eq_true]
  · simp only [TradeHistoryPage.turn]
    cases firstDate localDate (slice tradeHistoryPageSize rows (number - 1)) with
    | none => rfl
    | some date => simp [startDate_daySummary]

theorem mapM_daySummary (hmidnights : Monotone (cfg.localMidnightUtc cfg.journalTimezone))
    {instrument : Option String} (hinstrument : instrument.all validOandaInstrumentSymbol = true)
    (date : Option ℤ) :
    (date.mapM fun date =>
        computeRealizedPnl cfg store nowUtc today (.custom date date) instrument none none) =
      .ok (date.map (daySummary cfg store instrument)) := by
  cases date with
  | none => rfl
  | some date =>
      exact bind_eq_ok.mpr ⟨_,
        computeRealizedPnl_custom hmidnights store nowUtc today hinstrument le_rfl, rfl⟩

/-- When one read returns, so does the read of any other page, with the same rows behind it. -/
theorem getTradeHistory_turn (hmidnights : Monotone (cfg.localMidnightUtc cfg.journalTimezone))
    (h : getTradeHistory cfg localDate synced store nowUtc today request = .ok page) :
    ∃ rows, rows = (store.listTradeHistoryTradeEvents
          { windowQuery page.windowStartUtc page.windowEndUtc request.instrument with
            descending := true }).filter (viewSelects page.view) ∧
      page.instrument = request.instrument ∧
      page.totalPages = sliceCount tradeHistoryPageSize rows.length ∧
      ∀ number : ℤ, getTradeHistory cfg localDate synced store nowUtc today
          { request with page := number } =
        .ok (page.turn cfg localDate store rows (resolvePage page.totalPages number)) := by
  obtain ⟨resolvedPeriod, hresolved, h⟩ := bind_eq_ok.mp h
  obtain ⟨warning, hwarning, h⟩ := bind_eq_ok.mp h
  obtain ⟨pnl, hpnl, h⟩ := bind_eq_ok.mp h
  obtain ⟨rows, hrows, h⟩ := bind_eq_ok.mp h
  obtain ⟨pageDateSummary, -, h⟩ := bind_eq_ok.mp h
  obtain ⟨hcontract, rfl⟩ := checked_eq_ok.mp h
  refine ⟨rows, filterRowsForView_ok hrows, rfl, rfl, fun number => ?_⟩
  have hinstrument := valid_instrument_of_contract hcontract
  have hnumber : 1 ≤ resolvePage (sliceCount tradeHistoryPageSize rows.length) number :=
    le_min (le_max_right _ _) (le_max_left _ _)
  exact bind_eq_ok.mpr ⟨resolvedPeriod, hresolved, bind_eq_ok.mpr ⟨warning, hwarning,
    bind_eq_ok.mpr ⟨pnl, hpnl, bind_eq_ok.mpr ⟨rows, hrows, bind_eq_ok.mpr
      ⟨_, mapM_daySummary hmidnights hinstrument _, checked_eq_ok.mpr
        ⟨contractError_turn hcontract hnumber, rfl⟩⟩⟩⟩⟩⟩

end pages

/-! ### The rows -/

/-- Stored rows are listed newest first, by a key that no two of them share. -/
theorem pairwise_listed (store : TradeStore) (query : TradeStore.HistoryQuery)
    (hquery : query.descending = true) :
    (store.listTradeHistoryTradeEvents query).Pairwise fun e f =>
      TradeStore.rowSortKey (.trade f) < TradeStore.rowSortKey (.trade e) := by
  have hids : ((store.listTradeHistoryRecords query).map HistoryRow.eventId).Nodup := by
    unfold TradeStore.listTradeHistoryRecords
    rw [if_pos hquery, (perm_sortOnDesc.map _).nodup_iff]
    exact store.tradeHistoryEvents.nodup.sublist (List.filter_sublist.map _)
  have hsorted : (store.listTradeHistoryRecords query).Pairwise fun row row' =>
      TradeStore.rowSortKey row' < TradeStore.rowSortKey row := by
    have hdesc : (store.listTradeHistoryRecords query).Pairwise fun row row' =>
        TradeStore.rowSortKey row' ≤ TradeStore.rowSortKey row := by
      unfold TradeStore.listTradeHistoryRecords
      rw [if_pos hquery]
      exact pairwise_sortOnDesc
    refine (hdesc.and (List.pairwise_map.mp hids)).imp ?_
    rintro row row' ⟨hle, hne⟩
    exact lt_of_le_of_ne hle fun hkey => hne (TradeStore.rowSortKey_inj hkey).symm
  refine hsorted.filterMap _ fun row row' hlt e he f hf => ?_
  cases row with
  | financing e' => cases he
  | trade e' =>
      cases row' with
      | financing f' => cases hf
      | trade f' =>
          obtain rfl := Option.some.inj he
          obtain rfl := Option.some.inj hf
          exact hlt

/-- A row of the view in the window of a page. -/
def TradeHistoryPage.Shows (store : TradeStore) (page : TradeHistoryPage) (e : TradeHistoryEvent) :
    Prop :=
  HistoryRow.trade e ∈ store.tradeHistoryEvents.docs ∧ page.windowStartUtc ≤ e.timeUtc ∧
    e.timeUtc < page.windowEndUtc ∧ (∀ instrument ∈ page.instrument, e.instrument = instrument) ∧
      viewSelects page.view e = true

theorem windowQuery_descending_selects {startUtc endUtc : Instant} {instrument : Option String}
    {e : TradeHistoryEvent} :
    TradeStore.HistoryQuery.selects
        { windowQuery startUtc endUtc instrument with descending := true } (.trade e) = true ↔
      startUtc ≤ e.timeUtc ∧ e.timeUtc < endUtc ∧ ∀ i ∈ instrument, e.instrument = i := by
  have hselects : TradeStore.HistoryQuery.selects
      { windowQuery startUtc endUtc instrument with descending := true } (.trade e) =
        (windowQuery startUtc endUtc instrument).selects (.trade e) := rfl
  rw [hselects, windowQuery_selects]
  cases instrument with
  | none => simp [HistoryRow.timeUtc]
  | some i => simp [HistoryRow.timeUtc, TradeStore.rowInstrument]

theorem mem_listed_iff {store : TradeStore} {page : TradeHistoryPage} {e : TradeHistoryEvent} :
    e ∈ (store.listTradeHistoryTradeEvents
        { windowQuery page.windowStartUtc page.windowEndUtc page.instrument with
          descending := true }).filter (viewSelects page.view) ↔ page.Shows store e := by
  rw [List.mem_filter, TradeStore.mem_listTradeHistoryTradeEvents,
    windowQuery_descending_selects, TradeHistoryPage.Shows]
  simp only [and_assoc]

theorem resolvePage_of_mem {totalPages i : ℕ} (h : i < totalPages) :
    resolvePage totalPages ((i : ℤ) + 1) = i + 1 := by
  unfold resolvePage
  omega

theorem resolvePage_clamp {totalPages : ℕ} (number : ℤ) (h : 1 ≤ totalPages) :
    resolvePage totalPages (min (max number 1) totalPages) = resolvePage totalPages number := by
  unfold resolvePage
  omega

/-- **The pages partition the history.**  When one read of a view returns, so do the reads of pages
1 to `total_pages`: one after another their rows are the rows of the view in the window, newest first,
each once.  All pages but the last are full, and a page number out of range is clamped. -/
theorem pages_partition (cfg : Config)
    (hmidnights : Monotone (cfg.localMidnightUtc cfg.journalTimezone))
    (localDate : String → Instant → ℤ) (synced : Except String SyncReport) (store : TradeStore)
    (nowUtc : Instant) (today : ℤ) (request : PageRequest) (page : TradeHistoryPage)
    (h : getTradeHistory cfg localDate synced store nowUtc today request = .ok page) :
    let read := fun number : ℤ => getTradeHistory cfg localDate synced store nowUtc today
      { request with page := number }
    ∃ (rows : List TradeHistoryEvent) (pages : List TradeHistoryPage),
      (∀ e, e ∈ rows ↔ page.Shows store e) ∧
      rows.Pairwise (fun e f =>
        TradeStore.rowSortKey (.trade f) < TradeStore.rowSortKey (.trade e)) ∧
      (List.range page.totalPages).mapM (fun i : ℕ => read ((i : ℤ) + 1)) = .ok pages ∧
      pages.map TradeHistoryPage.page = (List.range page.totalPages).map (· + 1) ∧
      pages.flatMap TradeHistoryPage.rows = rows ∧
      (∀ shown ∈ pages.dropLast, shown.rows.length = tradeHistoryPageSize) ∧
      ∀ number : ℤ, read number = read (min (max number 1) page.totalPages) := by
  intro read
  have hsize : 0 < tradeHistoryPageSize := by decide
  obtain ⟨rows, hrows, hinstrument, htotal, hread⟩ := getTradeHistory_turn hmidnights h
  have htotal_pos : 1 ≤ page.totalPages := htotal ▸ le_max_left _ _
  refine ⟨rows, (List.range page.totalPages).map fun i => page.turn cfg localDate store rows (i + 1),
    ?_, ?_, ?_, ?_, ?_, ?_, ?_⟩
  · intro e
    rw [hrows, ← hinstrument]
    exact mem_listed_iff
  · rw [hrows]
    exact (pairwise_listed store _ rfl).sublist List.filter_sublist
  · refine mapM_eq_ok.mpr (List.forall₂_map_right_iff.mpr (List.forall₂_same.mpr fun i hi => ?_))
    rw [← resolvePage_of_mem (List.mem_range.mp hi)]
    exact hread (i + 1)
  · simp [TradeHistoryPage.turn]
  · rw [List.flatMap_map, htotal]
    exact flatMap_slice hsize rows
  · intro shown hshown
    rw [← List.map_dropLast, List.mem_map] at hshown
    obtain ⟨i, hi, rfl⟩ := hshown
    obtain ⟨total, htotals⟩ := Nat.exists_eq_add_of_le' htotal_pos
    rw [htotals, List.range_succ, List.dropLast_concat, List.mem_range] at hi
    have hnext : i + 1 < sliceCount tradeHistoryPageSize rows.length := by omega
    exact length_slice (succ_mul_le_of_lt_sliceCount hsize hnext)
  · intro number
    calc read number = .ok (page.turn cfg localDate store rows (resolvePage page.totalPages number)) :=
          hread number
      _ = read (min (max number 1) page.totalPages) := by
          rw [← resolvePage_clamp number htotal_pos]
          exact (hread _).symm

/-- A trade opened in a minute of the first day. -/
def openedAtMinute (n : ℕ) : TradeHistoryEvent where
  eventId := toString (n + 1) ++ ":OPEN:" ++ toString n
  transactionId := n + 1
  batchId := none
  eventType := .OPEN
  accountId := "001"
  instrument := "EUR_USD"
  tradeId := toString n
  orderId := none
  units := 1
  absUnits := 1
  side := .LONG
  price := some (11 / 10)
  realizedPl := 0
  financing := 0
  commission := 0
  netRealizedPl := 0
  timeUtc := n * (60 * 1000000)
  timeLocal := ⟨n * (60 * 1000000), "UTC"⟩
  reason := some "MARKET_ORDER"
  rawJson := .null

def busyDayRead (number : ℤ) : Except Exn TradeHistoryPage :=
  getTradeHistory sampleConfig (fun _ time => time / (24 * 3600 * 1000000))
    (.ok { mode := "incremental", accountId := "001", lastTransactionId := 21, counts := {} })
    (TradeStore.empty.upsertTradeHistoryEvents
      ((List.range 21).map fun n => .trade (openedAtMinute n))).2
    (24 * 3600 * 1000000) 1
    { period := .custom 0 0, view := "opened", instrument := none, page := number,
      startDate := none, endDate := none }

/-- The day has two pages. -/
theorem pages_partition_busyDay : ∃ page pages, busyDayRead 1 = .ok page ∧ page.totalPages = 2 ∧
    (List.range 2).mapM (fun i : ℕ => busyDayRead ((i : ℤ) + 1)) = .ok pages ∧
    (∀ shown ∈ pages.dropLast, shown.rows.length = tradeHistoryPageSize) ∧
    busyDayRead 7 = busyDayRead 2 := by
  have hreturns : (busyDayRead 1).map TradeHistoryPage.totalPages = .ok 2 := by decide +kernel
  obtain ⟨page, hok, htotal⟩ := map_eq_ok.mp hreturns
  have hmidnights : Monotone (sampleConfig.localMidnightUtc sampleConfig.journalTimezone) := by
    intro a b hab
    have hscale : a * (24 * 3600 * 1000000) ≤ b * (24 * 3600 * 1000000) := by omega
    exact hscale
  obtain ⟨rows, pages, -, -, hpages, -, -, hfull, hclamp⟩ :=
    pages_partition sampleConfig hmidnights _ _ _ _ _ _ page hok
  refine ⟨page, pages, hok, htotal, ?_, hfull, ?_⟩
  · rw [htotal] at hpages
    exact hpages
  · have hseventh := hclamp 7
    rw [htotal] at hseventh
    exact hseventh

end OandaV3
