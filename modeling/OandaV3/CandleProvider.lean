import OandaV3.CandleCache

/-! # The candle provider

`providers/oanda.py` fetches candles for the cache: the newest ones by a count, which includes the
forming one, or the ones from a start on.  `CandleBroker` is the service it asks: a closed history that grows,
and a forming candle after it.

`getCandles_exact`: in a run in which the broker serves every call (`CandleBroker.Serves`), every frame that
is returned is the newest part of the closed history. -/

namespace OandaV3

open Fallible Windows

/-! ### Fetching -/

/-- `OANDA_MAX_CANDLE_COUNT`. -/
def oandaMaxCandleCount : ℕ := 5000

/-- What the broker quotes in a raw candle; invalid quotes do not convert to numbers. -/
inductive RawMid where
  | missing
  | invalid
  | prices (openPrice high low close : ℚ) (tickVolume : ℤ)
deriving DecidableEq, Repr

/-- A candle of a broker payload. -/
structure RawCandle where
  time : ℤ
  complete : Bool
  mid : RawMid
deriving DecidableEq, Repr

/-- What a request asks for. -/
inductive CandleQuery where
  | count (count : ℕ)
  | since (start : ℤ)
deriving DecidableEq, Repr

/-- The parameters of `_request_candles_payload`. -/
def candleQuery (count : ℕ) : Option ℤ → CandleQuery
  | none => .count (min (count + 1) oandaMaxCandleCount)
  | some since => .since since

def candleResponseError (instrument : String) (tf : Timeframe) (problem : String) : Exn :=
  .runtimeError ("OANDA candle response for " ++ instrument ++ " " ++ tf.text ++ " " ++ problem)

/-- The rows of the complete candles. -/
def canonicalRows (instrument : String) (tf : Timeframe) : List RawCandle → Except Exn (List Candle)
  | [] => .ok []
  | raw :: raws =>
      if !raw.complete then canonicalRows instrument tf raws
      else match raw.mid with
        | .missing => canonicalRows instrument tf raws
        | .invalid =>
            .error (candleResponseError instrument tf "contained invalid candle data.")
        | .prices openPrice high low close tickVolume => do
            let rows ← canonicalRows instrument tf raws
            return ⟨raw.time, openPrice, high, low, close, tickVolume⟩ :: rows

/-- `_fetch_candles_from_api`. -/
def fetchCandlesFromApi (instrument : String) (tf : Timeframe) (nowUtc : ℤ)
    (api : CandleQuery → Except Exn (List RawCandle)) (count : ℕ) (since : Option ℤ) :
    Except Exn (List Candle) :=
  match api (candleQuery count since) with
  | .error e => .error e
  | .ok [] => .error (candleResponseError instrument tf "contained no candles.")
  | .ok rawCandles =>
      match canonicalRows instrument tf rawCandles with
      | .error e => .error e
      | .ok [] =>
          if since.isSome then .ok []
          else .error (candleResponseError instrument tf "contained no complete candles.")
      | .ok rows =>
          match trimToClosed tf nowUtc (validateCandleDf rows) with
          | [] => .error (candleResponseError instrument tf
              "yielded no closed candles after trimming.")
          | trimmed => .ok trimmed

/-- The provider of one key. -/
structure OandaMarketDataProvider where
  zone : AlignmentZone
  instrument : String
  tf : Timeframe
  defaultCandleCount : ℤ

namespace OandaMarketDataProvider

variable (provider : OandaMarketDataProvider)

/-- How the cache is called, at an instant. -/
def call (nowUtc : ℤ) (api : CandleQuery → Except Exn (List RawCandle)) : CacheCall where
  nowUtc
  fetchedAt := nowUtc
  fetcher := fetchCandlesFromApi provider.instrument provider.tf nowUtc api

/-- `get_candles`. -/
def getCandles (count : Option ℤ) (nowUtc : ℤ) (api : CandleQuery → Except Exn (List RawCandle))
    (cache : CandleCache) : Except Exn (List Candle) × CandleCache :=
  let resolvedCount := count.getD provider.defaultCandleCount
  if resolvedCount ≤ 0 then (.error CandleCache.invalidCount, cache)
  else if (oandaMaxCandleCount : ℤ) < resolvedCount then
    (.error (.valueError "count must be less than or equal to 5000."), cache)
  else
    cache.getCandles provider.zone provider.instrument provider.tf resolvedCount
      (provider.call nowUtc api)

end OandaMarketDataProvider

/-! ### The broker -/

/-- Closed candles, oldest first, and the forming one. -/
structure CandleBroker where
  closed : List Candle
  forming : Option Candle
  increasing : Increasing Candle.time (closed ++ forming.toList)

/-- A candle as the broker sends it. -/
def Candle.toRaw (candle : Candle) (complete : Bool) : RawCandle where
  time := candle.time
  complete
  mid := .prices candle.openPrice candle.high candle.low candle.close candle.tickVolume

namespace CandleBroker

variable (broker : CandleBroker)

/-- The candles of a broker. -/
def raws : List RawCandle :=
  broker.closed.map (·.toRaw true) ++ broker.forming.toList.map (·.toRaw false)

/-- The candles a request is answered with: the newest ones, or 500 from a start on. -/
def answer : CandleQuery → Except Exn (List RawCandle)
  | .count count => .ok (newest count broker.raws)
  | .since start => .ok ((broker.raws.filter fun raw => decide (start ≤ raw.time)).take 500)

end CandleBroker

/-! ### Runs -/

/-- What happens to a cache. -/
inductive ProviderEvent where
  | getCandles (count : Option ℤ) (nowUtc : ℤ) (broker : CandleBroker)
  | clearMemory
  | restart

namespace OandaMarketDataProvider

variable (provider : OandaMarketDataProvider)

/-- One event, with the frame it returns. -/
def step (event : ProviderEvent) (cache : CandleCache) :
    Except Exn (Option (List Candle)) × CandleCache :=
  match event with
  | .getCandles count nowUtc broker =>
      let (result, cache) := provider.getCandles count nowUtc broker.answer cache
      (result.map some, cache)
  | .clearMemory => (.ok none, cache.clearMemory)
  | .restart => (.ok none, cache.clearMemory)

end OandaMarketDataProvider

/-! ### When the broker serves a call -/

/-- The entry a read finds, in memory or else in the file. -/
def CandleCache.foundEntry (call : CacheCall) (cache : CandleCache) : Option CacheEntry :=
  match cache.memory with
  | some entry => some entry
  | none =>
      match (cache.loadCsvEntry true call).1 with
      | .ok entry => entry
      | .error _ => none

namespace CandleBroker

variable (broker : CandleBroker) (tf : Timeframe) (nowUtc : ℤ) (count : ℕ)

/-- A request by count brings the newest closed candles: each of them is over by the clock, and the cap
leaves room for the forming one. -/
def ServesCount : Prop :=
  (∀ candle ∈ broker.closed, candle.time + tf.delta ≤ nowUtc) ∧
    (count < oandaMaxCandleCount ∨ broker.forming = none ∨
      broker.closed.length < oandaMaxCandleCount)

/-- The closed candles after an entry. -/
def missing (entry : CacheEntry) : List Candle :=
  newer Candle.time entry.lastCompletedCandle broker.closed

/-- A request from the end of an entry brings what is missing: the missing candles start late enough, are
over by the clock and fit on one page, and the entry with them is long enough or everything. -/
def ServesSince (entry : CacheEntry) : Prop :=
  (∀ candle ∈ broker.missing entry, entry.lastCompletedCandle + tf.delta ≤ candle.time ∧
      candle.time + tf.delta ≤ nowUtc) ∧
    (broker.missing entry).length ≤ 500 ∧
    (count ≤ entry.candles.length + (broker.missing entry).length ∨
      broker.closed.length ≤ entry.candles.length + (broker.missing entry).length)

instance : Decidable (broker.ServesCount tf nowUtc count) :=
  inferInstanceAs (Decidable (_ ∧ _))

instance (entry : CacheEntry) : Decidable (broker.ServesSince tf nowUtc count entry) :=
  inferInstanceAs (Decidable (_ ∧ _ ∧ _))

/-- The broker serves a read that finds this entry. -/
def Serves (zone : AlignmentZone) : Option CacheEntry → Prop
  | none => broker.ServesCount tf nowUtc count
  | some entry =>
      if isCacheFresh zone entry.lastCompletedCandle tf nowUtc then
        if count ≤ entry.candleCount then broker.missing entry = []
        else broker.ServesCount tf nowUtc count
      else broker.ServesSince tf nowUtc count entry

instance (zone : AlignmentZone) :
    (found : Option CacheEntry) → Decidable (broker.Serves tf nowUtc count zone found)
  | none => inferInstanceAs (Decidable (broker.ServesCount tf nowUtc count))
  | some entry =>
      inferInstanceAs (Decidable (if isCacheFresh zone entry.lastCompletedCandle tf nowUtc then
        if count ≤ entry.candleCount then broker.missing entry = []
        else broker.ServesCount tf nowUtc count
      else broker.ServesSince tf nowUtc count entry))

end CandleBroker

/-- A frame is the newest part of the closed history. -/
structure ExactFrame (count : ℕ) (closed frame : List Candle) : Prop where
  newest : frame = newest count closed
  length : frame.length = min count closed.length
  increasing : Increasing Candle.time frame

/-- The closed history after an event. -/
def closedAfter (closed : List Candle) : ProviderEvent → List Candle
  | .getCandles _ _ broker => broker.closed
  | _ => closed

/-- The closed history only grows. -/
def BrokerGrows : List Candle → List ProviderEvent → Prop
  | _, [] => True
  | closed, event :: events =>
      closed <+: closedAfter closed event ∧ BrokerGrows (closedAfter closed event) events

namespace OandaMarketDataProvider

variable (provider : OandaMarketDataProvider)

/-- The broker serves an event. -/
def ServedAt (cache : CandleCache) : ProviderEvent → Prop
  | .getCandles count nowUtc broker =>
      let resolvedCount := count.getD provider.defaultCandleCount
      0 < resolvedCount → resolvedCount ≤ oandaMaxCandleCount →
        broker.Serves provider.tf nowUtc resolvedCount.toNat provider.zone
          (cache.foundEntry (provider.call nowUtc broker.answer))
  | _ => True

instance (cache : CandleCache) :
    (event : ProviderEvent) → Decidable (provider.ServedAt cache event)
  | .getCandles _ _ _ => inferInstanceAs (Decidable (_ < _ → _ ≤ _ → CandleBroker.Serves _ _ _ _ _ _))
  | .clearMemory => .isTrue trivial
  | .restart => .isTrue trivial

/-- The frame of an event is exact. -/
def ExactAt (cache : CandleCache) (event : ProviderEvent) : Prop :=
  match event with
  | .getCandles count _ broker => ∀ frame, (provider.step event cache).1 = .ok (some frame) →
      ExactFrame (count.getD provider.defaultCandleCount).toNat broker.closed frame
  | _ => True

/-- Every event of a run has a property, each with the cache as it finds it. -/
def Throughout (property : CandleCache → ProviderEvent → Prop) :
    CandleCache → List ProviderEvent → Prop
  | _, [] => True
  | cache, event :: events =>
      property cache event ∧ Throughout property (provider.step event cache).2 events

instance : (cache : CandleCache) → (events : List ProviderEvent) →
    Decidable (provider.Throughout provider.ServedAt cache events)
  | _, [] => .isTrue trivial
  | cache, event :: events =>
      have := instDecidableThroughoutServedAt (provider.step event cache).2 events
      inferInstanceAs (Decidable (_ ∧ _))

end OandaMarketDataProvider

/-! ### What a fetch brings -/

section fetch

variable {instrument : String} {tf : Timeframe} {nowUtc : ℤ}

theorem canonicalRows_toRaw (instrument : String) (tf : Timeframe) (rows forming : List Candle) :
    canonicalRows instrument tf (rows.map (·.toRaw true) ++ forming.map (·.toRaw false)) =
      .ok rows := by
  induction rows with
  | nil =>
      induction forming with
      | nil => rfl
      | cons candle forming ih => exact ih
  | cons candle rows ih =>
      rw [List.map_cons, List.cons_append, canonicalRows, ih]
      rfl

theorem trimToClosed_increasing {rows : List Candle} (hincreasing : Increasing Candle.time rows) :
    trimToClosed tf nowUtc (validateCandleDf rows) =
      rows.filter fun candle => decide (candle.time + tf.delta ≤ nowUtc) := by
  rw [trimToClosed, validateCandleDf, validateCandleDf, sortOn_eq_self hincreasing,
    sortOn_eq_self hincreasing]

theorem trimToClosed_eq_self {rows : List Candle} (hincreasing : Increasing Candle.time rows)
    (hover : ∀ candle ∈ rows, candle.time + tf.delta ≤ nowUtc) :
    trimToClosed tf nowUtc (validateCandleDf rows) = rows := by
  rw [trimToClosed_increasing hincreasing, List.filter_eq_self]
  exact fun candle hcandle => decide_eq_true (hover candle hcandle)

/-- A fetch that returns brings the complete candles of the payload, if they are all over. -/
theorem fetch_eq {api : CandleQuery → Except Exn (List RawCandle)} {count : ℕ} {since : Option ℤ}
    {rows forming fetched : List Candle}
    (hanswer : api (candleQuery count since) =
      .ok (rows.map (·.toRaw true) ++ forming.map (·.toRaw false)))
    (hincreasing : Increasing Candle.time rows)
    (hover : ∀ candle ∈ rows, candle.time + tf.delta ≤ nowUtc)
    (h : fetchCandlesFromApi instrument tf nowUtc api count since = .ok fetched) : fetched = rows := by
  have hrows := canonicalRows_toRaw instrument tf rows forming
  rw [fetchCandlesFromApi, hanswer] at h
  generalize rows.map (·.toRaw true) ++ forming.map (·.toRaw false) = raws at hrows h
  cases raws with
  | nil => cases h
  | cons raw raws =>
      simp only [hrows] at h
      cases rows with
      | nil =>
          cases since with
          | none => cases h
          | some start => exact (Except.ok.inj h).symm
      | cons candle rows =>
          simp only [trimToClosed_eq_self hincreasing hover] at h
          exact (Except.ok.inj h).symm

end fetch

namespace CandleBroker

variable {broker : CandleBroker}

/-- A request by count is answered with the newest closed candles, and maybe the forming one. -/
theorem answer_count {count : ℕ} (hcount : count ≤ oandaMaxCandleCount)
    (hroom : count < oandaMaxCandleCount ∨ broker.forming = none ∨
      broker.closed.length < oandaMaxCandleCount) :
    ∃ (n : ℕ) (forming : List Candle), broker.answer (candleQuery count none) =
        .ok ((newest n broker.closed).map (·.toRaw true) ++ forming.map (·.toRaw false)) ∧
      (count ≤ n ∨ broker.closed.length ≤ n) := by
  rw [candleQuery, answer, raws]
  cases hforming : broker.forming with
  | none =>
      refine ⟨min (count + 1) oandaMaxCandleCount, [], ?_, Or.inl (by omega)⟩
      rw [Option.toList_none, List.map_nil, List.append_nil, List.append_nil, newest_map]
  | some candle =>
      simp only [hforming, reduceCtorEq, false_or] at hroom
      refine ⟨min count (oandaMaxCandleCount - 1), [candle], ?_, ?_⟩
      · have hlast : min (count + 1) oandaMaxCandleCount =
            min count (oandaMaxCandleCount - 1) + 1 := by
          rw [oandaMaxCandleCount]
          omega
        rw [hlast, Option.toList_some, List.map_singleton,
          newest_append (by rw [List.length_singleton]; omega), List.length_singleton,
          Nat.add_sub_cancel, newest_map]
      · rw [oandaMaxCandleCount] at hroom ⊢
        omega

/-- A request from a start on is answered with all closed candles from there, if they fit on a page. -/
theorem answer_since {start : ℤ} {rows : List Candle}
    (hrows : broker.closed.filter (fun candle => decide (start ≤ candle.time)) = rows)
    (hpage : rows.length ≤ 500) :
    ∃ forming : List Candle, broker.answer (.since start) =
      .ok (rows.map (·.toRaw true) ++ forming.map (·.toRaw false)) := by
  refine ⟨(broker.forming.toList.filter fun candle => decide (start ≤ candle.time)).take
    (500 - rows.length), ?_⟩
  have hclosed : (broker.closed.map (·.toRaw true)).filter (fun raw => decide (start ≤ raw.time)) =
      rows.map (·.toRaw true) := by
    rw [← hrows, List.filter_map]
    rfl
  have hforming : (broker.forming.toList.map (·.toRaw false)).filter
      (fun raw => decide (start ≤ raw.time)) =
      (broker.forming.toList.filter fun candle => decide (start ≤ candle.time)).map (·.toRaw false) := by
    rw [List.filter_map]
    rfl
  rw [answer, raws, List.filter_append, hclosed, hforming, List.take_append, List.length_map,
    List.take_of_length_le (by rw [List.length_map]; exact hpage), ← List.map_take]

end CandleBroker

/-! ### Windows of the closed history -/

/-- The entry is a window of the closed history, and counts all of it. -/
structure CacheEntry.WindowOf (entry : CacheEntry) (closed : List Candle) : Prop where
  window : entry.candles <:+: closed
  ends : entry.candles.getLast?.map Candle.time = some entry.lastCompletedCandle
  counted : entry.candleCount = entry.candles.length

/-- The cache holds windows of the closed history. -/
structure CandleCache.WindowsOf (cache : CandleCache) (closed : List Candle) : Prop where
  memory : ∀ entry, cache.memory = some entry → entry.WindowOf closed
  csv : ∀ file, cache.csv = some file → file.candles <:+: closed ∧
    ∃ metadata, cache.metadata = some metadata ∧ metadata.candleCount = file.candles.length

/-- A read leaves windows, and its frame is exact. -/
structure ReadsExactly (count : ℕ) (closed : List Candle)
    (result : Except Exn (List Candle) × CandleCache) : Prop where
  windows : result.2.WindowsOf closed
  frame : ∀ frame, result.1 = .ok frame → ExactFrame count closed frame

section windows

variable {closed : List Candle} {cache : CandleCache} {count : ℕ}

theorem exactFrame_newest (hclosed : Increasing Candle.time closed) :
    ExactFrame count closed (newest count closed) where
  newest := rfl
  length := length_newest count closed
  increasing := hclosed.sublist (newest_suffix count closed).sublist

theorem ReadsExactly.error (h : cache.WindowsOf closed) (e : Exn) :
    ReadsExactly count closed (.error e, cache) := by
  refine ⟨h, fun frame hframe => ?_⟩
  cases hframe

/-- The tail of a window at the end is exact, if it is long enough. -/
theorem ReadsExactly.tail (h : cache.WindowsOf closed) (hclosed : Increasing Candle.time closed)
    {candles : List Candle} (hsuffix : candles <:+ closed)
    (hlong : count ≤ candles.length ∨ closed.length ≤ candles.length) :
    ReadsExactly count closed (.ok (candleTail candles count), cache) := by
  refine ⟨h, fun frame hframe => ?_⟩
  obtain rfl := Except.ok.inj hframe
  have htail : candleTail candles count = newest count closed := newest_eq_of_suffix hsuffix hlong
  rw [htail]
  exact exactFrame_newest hclosed

theorem windowsOf_empty (closed : List Candle) : CandleCache.WindowsOf {} closed where
  memory _ h := nomatch h
  csv _ h := nomatch h

/-- Windows stay windows when the history grows. -/
theorem CandleCache.WindowsOf.mono (h : cache.WindowsOf closed) {closed' : List Candle}
    (hgrows : closed <+: closed') : cache.WindowsOf closed' where
  memory entry hentry := ⟨(h.memory entry hentry).window.trans hgrows.isInfix,
    (h.memory entry hentry).ends, (h.memory entry hentry).counted⟩
  csv file hfile := ⟨(h.csv file hfile).1.trans hgrows.isInfix, (h.csv file hfile).2⟩

theorem CandleCache.WindowsOf.clearMemory (h : cache.WindowsOf closed) :
    cache.clearMemory.WindowsOf closed where
  memory _ heq := nomatch heq
  csv := h.csv

theorem CandleCache.WindowsOf.setMemory (h : cache.WindowsOf closed) {entry : CacheEntry}
    (hentry : entry.WindowOf closed) : WindowsOf { cache with memory := some entry } closed where
  memory _ heq := Option.some.inj heq ▸ hentry
  csv := h.csv

theorem dropDuplicates_eq_self {candles : List Candle} (h : Increasing Candle.time candles) :
    dropDuplicates candles = candles := by
  induction candles with
  | nil => rfl
  | cons candle candles ih =>
      rw [Increasing, List.pairwise_cons] at h
      have hlater : candles.any (·.time == candle.time) = false := by
        rw [List.any_eq_false]
        intro later hmem
        rw [beq_iff_eq]
        exact (h.1 later hmem).ne'
      rw [dropDuplicates, hlater, if_neg Bool.false_ne_true, ih h.2]

variable {instrument : String} {tf : Timeframe} {call : CacheCall}

theorem ReadsExactly.persisted (h : cache.WindowsOf closed) (hclosed : Increasing Candle.time closed)
    (hcsv : call.csvWrite = none) (hmetadata : call.metadataWrite = true) {candles : List Candle}
    (hsuffix : candles <:+ closed)
    (hlong : count ≤ candles.length ∨ closed.length ≤ candles.length) (source : String) :
    ReadsExactly count closed (match cache.persistEntry instrument tf call candles source with
      | (.error e, cache) => (.error e, cache)
      | (.ok entry, cache) => (.ok (candleTail entry.candles count), cache)) := by
  have hsorted : validateCandleDf candles = candles :=
    sortOn_eq_self (hclosed.sublist hsuffix.sublist)
  rw [CandleCache.persistEntry, hsorted]
  cases hlatest : candles.getLast? with
  | none => exact .error h _
  | some latest =>
      simp only [CandleCache.saveCandles, hcsv, CandleCache.upsertCacheMetadata, hmetadata, if_true,
        hsorted]
      refine .tail ⟨fun entry hentry => ?_, fun file hfile => ?_⟩ hclosed hsuffix hlong
      · obtain rfl := Option.some.inj hentry
        exact ⟨hsuffix.isInfix, congrArg (Option.map Candle.time) hlatest, rfl⟩
      · obtain rfl := Option.some.inj hfile
        exact ⟨hsuffix.isInfix, _, rfl, rfl⟩

end windows

/-! ### One read -/

section read

variable {provider : OandaMarketDataProvider} {broker : CandleBroker} {cache : CandleCache} {count : ℕ}
  {nowUtc : ℤ}

theorem CandleBroker.increasing_closed (broker : CandleBroker) : Increasing Candle.time broker.closed :=
  broker.increasing.sublist (List.sublist_append_left _ _)

theorem replaceFromApi_exact (h : cache.WindowsOf broker.closed) (hcount : count ≤ oandaMaxCandleCount)
    (hserves : broker.ServesCount provider.tf nowUtc count) :
    ReadsExactly count broker.closed (cache.replaceFromApi provider.instrument provider.tf count
      (provider.call nowUtc broker.answer)) := by
  obtain ⟨hover, hroom⟩ := hserves
  obtain ⟨n, forming, hanswer, hlong⟩ := CandleBroker.answer_count hcount hroom
  have hsuffix : newest n broker.closed <:+ broker.closed := newest_suffix n _
  have hfetch : ∀ fetched, (provider.call nowUtc broker.answer).fetcher count none = .ok fetched →
      fetched = newest n broker.closed := fun fetched hok =>
    fetch_eq hanswer (broker.increasing_closed.sublist hsuffix.sublist)
      (fun candle hcandle => hover candle (hsuffix.subset hcandle)) hok
  rw [CandleCache.replaceFromApi]
  rcases hresult : (provider.call nowUtc broker.answer).fetcher count none with
    e | _ | ⟨candle, candles⟩
  · exact .error h e
  · exact .error h _
  · have hfetched := hfetch _ hresult
    dsimp only
    rw [hfetched]
    refine .persisted h broker.increasing_closed rfl rfl hsuffix ?_ _
    rw [length_newest]
    omega

theorem appendRefresh_exact (h : cache.WindowsOf broker.closed) {entry : CacheEntry}
    (hentry : entry.WindowOf broker.closed)
    (hserves : broker.ServesSince provider.tf nowUtc count entry) :
    ReadsExactly count broker.closed (cache.appendRefresh provider.instrument provider.tf count entry
      (provider.call nowUtc broker.answer)) := by
  obtain ⟨hmissing, hpage, hlong⟩ := hserves
  obtain ⟨latest, hlatest, htime⟩ := Option.map_eq_some_iff.mp hentry.ends
  have hclosed := broker.increasing_closed
  have hsuffix := append_newer_suffix hclosed hentry.window hlatest
  rw [CandleBroker.missing, ← htime] at hmissing hpage hlong
  rw [← List.length_append] at hlong
  -- no closed candle starts between the last one and the end of its slot
  have hrows : broker.closed.filter
      (fun candle => decide (latest.time + provider.tf.delta ≤ candle.time)) =
        newer Candle.time latest.time broker.closed := by
    refine List.filter_congr fun candle hcandle => decide_eq_decide.mpr ⟨fun hle => ?_, fun hlt => ?_⟩
    · have hpos := provider.tf.delta_pos
      omega
    · exact (hmissing candle (mem_newer.mpr ⟨hcandle, hlt⟩)).1
  obtain ⟨forming, hanswer⟩ := CandleBroker.answer_since hrows hpage
  have hfetch : ∀ fetched, (provider.call nowUtc broker.answer).fetcher count
      (some (entry.lastCompletedCandle + provider.tf.delta)) = .ok fetched →
      fetched = newer Candle.time latest.time broker.closed := fun fetched hok =>
    fetch_eq (by rw [← htime]; exact hanswer) (hclosed.sublist List.filter_sublist)
      (fun candle hcandle => (hmissing candle hcandle).2) hok
  rw [CandleCache.appendRefresh]
  rcases hresult : (provider.call nowUtc broker.answer).fetcher count
      (some (entry.lastCompletedCandle + provider.tf.delta)) with e | _ | ⟨candle, candles⟩
  · exact .error h e
  · have hnone := hfetch _ hresult
    rw [← hnone, List.append_nil] at hsuffix hlong
    exact .tail h hclosed hsuffix hlong
  · have hfetched := hfetch _ hresult
    dsimp only
    rw [hfetched, dropDuplicates_eq_self (hclosed.sublist hsuffix.sublist),
      sortOn_eq_self (hclosed.sublist hsuffix.sublist)]
    exact .persisted h hclosed rfl rfl hsuffix hlong _

theorem readEntry_exact (h : cache.WindowsOf broker.closed) {entry : CacheEntry}
    (hentry : entry.WindowOf broker.closed) (hcount : count ≤ oandaMaxCandleCount)
    (hserves : broker.Serves provider.tf nowUtc count provider.zone (some entry)) :
    ReadsExactly count broker.closed (cache.readEntry provider.zone provider.instrument provider.tf
      count entry (provider.call nowUtc broker.answer)) := by
  rw [CandleBroker.Serves] at hserves
  rw [CandleCache.readEntry]
  by_cases hfresh : isCacheFresh provider.zone entry.lastCompletedCandle provider.tf nowUtc = true
  · rw [if_pos hfresh] at hserves
    rw [if_pos (show isCacheFresh provider.zone entry.lastCompletedCandle provider.tf
      (provider.call nowUtc broker.answer).nowUtc = true from hfresh)]
    split_ifs at hserves ⊢ with henough
    · obtain ⟨latest, hlatest, htime⟩ := Option.map_eq_some_iff.mp hentry.ends
      rw [CandleBroker.missing, ← htime] at hserves
      have hsuffix := suffix_of_newer_nil broker.increasing_closed hentry.window hlatest hserves
      rw [hentry.counted] at henough
      exact .tail h broker.increasing_closed hsuffix (Or.inl henough)
    · exact replaceFromApi_exact h hcount hserves
  · rw [if_neg hfresh] at hserves
    rw [if_neg (show ¬ isCacheFresh provider.zone entry.lastCompletedCandle provider.tf
      (provider.call nowUtc broker.answer).nowUtc = true from hfresh)]
    exact appendRefresh_exact h hentry hserves

theorem loadCsvEntry_window {closed : List Candle} (h : cache.WindowsOf closed)
    (hclosed : Increasing Candle.time closed) {call : CacheCall} (hread : call.metadataRead = true) :
    (∃ e, cache.loadCsvEntry true call = (.error e, cache)) ∨
      cache.loadCsvEntry true call = (.ok none, cache) ∨
      ∃ entry, cache.loadCsvEntry true call = (.ok (some entry), cache) ∧ entry.WindowOf closed := by
  rw [CandleCache.loadCsvEntry, CandleCache.loadCandles]
  cases hcsv : cache.csv with
  | none => exact Or.inr (Or.inl rfl)
  | some file =>
      cases call.csvRead with
      | some e => exact Or.inl ⟨e, rfl⟩
      | none =>
          obtain ⟨hwindow, metadata, hmetadata, hcounted⟩ := h.csv file hcsv
          have hsorted : validateCandleDf file.candles = file.candles :=
            sortOn_eq_self (hclosed.sublist hwindow.sublist)
          simp only [hsorted, CandleCache.getCacheMetadata, hread, if_true, hmetadata]
          cases hlatest : file.candles.getLast? with
          | none => exact Or.inl ⟨_, rfl⟩
          | some latest =>
              exact Or.inr (Or.inr ⟨_, rfl, hwindow, congrArg (Option.map Candle.time) hlatest,
                hcounted⟩)

/-- **One read**: when the broker serves it, the frame is exact and the cache keeps its windows. -/
theorem getCandles_readsExactly (h : cache.WindowsOf broker.closed) (requested : Option ℤ)
    (hserved : provider.ServedAt cache (.getCandles requested nowUtc broker)) :
    ReadsExactly (requested.getD provider.defaultCandleCount).toNat broker.closed
      (provider.getCandles requested nowUtc broker.answer cache) := by
  rw [OandaMarketDataProvider.getCandles]
  split_ifs with hpos hmax
  · exact .error h _
  · exact .error h _
  · have hserves := hserved (not_le.mp hpos) (not_lt.mp hmax)
    have hcount : (requested.getD provider.defaultCandleCount).toNat ≤ oandaMaxCandleCount := by omega
    rw [CandleCache.getCandles, if_neg hpos]
    rw [CandleCache.foundEntry] at hserves
    cases hmemory : cache.memory with
    | some entry =>
        rw [hmemory] at hserves
        exact readEntry_exact h (h.memory entry hmemory) hcount hserves
    | none =>
        rw [hmemory] at hserves
        have hread : (provider.call nowUtc broker.answer).metadataRead = true := rfl
        rcases loadCsvEntry_window h broker.increasing_closed hread with
          ⟨e, hload⟩ | hload | ⟨entry, hload, hentry⟩
        · simp only [hload]
          exact .error h e
        · simp only [hload] at hserves ⊢
          exact replaceFromApi_exact h hcount hserves
        · simp only [hload] at hserves ⊢
          exact readEntry_exact (h.setMemory hentry) hentry hcount hserves

theorem step_exact {closed : List Candle} (h : cache.WindowsOf closed) (event : ProviderEvent)
    (hgrows : closed <+: closedAfter closed event) (hserved : provider.ServedAt cache event) :
    provider.ExactAt cache event ∧
      (provider.step event cache).2.WindowsOf (closedAfter closed event) := by
  cases event with
  | getCandles requested nowUtc broker =>
      obtain ⟨hwindows, hframe⟩ := getCandles_readsExactly (h.mono hgrows) requested hserved
      refine ⟨fun frame hok => ?_, hwindows⟩
      obtain ⟨frame', hframe', hsome⟩ := map_eq_ok.mp hok
      obtain rfl := Option.some.inj hsome
      exact hframe frame' hframe'
  | clearMemory => exact ⟨trivial, h.clearMemory⟩
  | restart => exact ⟨trivial, h.clearMemory⟩

end read

theorem throughout_exact (provider : OandaMarketDataProvider) {cache : CandleCache}
    {closed : List Candle} (h : cache.WindowsOf closed) (events : List ProviderEvent)
    (hgrows : BrokerGrows closed events)
    (hserved : provider.Throughout provider.ServedAt cache events) :
    provider.Throughout provider.ExactAt cache events := by
  induction events generalizing cache closed with
  | nil => trivial
  | cons event events ih =>
      obtain ⟨hexact, hwindows⟩ := step_exact h event hgrows.1 hserved.1
      exact ⟨hexact, ih hwindows hgrows.2 hserved.2⟩

/-- **The cache path is the direct path where the broker serves it**: in a run from an empty cache with a
growing closed history, in which the broker serves every call, every frame that is returned is the
newest part of the closed history. -/
theorem getCandles_exact (provider : OandaMarketDataProvider) (events : List ProviderEvent)
    (hgrows : BrokerGrows [] events) (hserved : provider.Throughout provider.ServedAt {} events) :
    provider.Throughout provider.ExactAt {} events :=
  throughout_exact provider (windowsOf_empty []) events hgrows hserved

def minuteCandle (n : ℕ) : Candle := ⟨n * minute, 1, 1, 1, n + 1, 1⟩

theorem increasing_minutes (n : ℕ) :
    Increasing Candle.time ((List.range n).map minuteCandle ++ (some (minuteCandle n)).toList) := by
  rw [Option.toList_some, ← List.map_singleton, ← List.map_append, ← List.range_succ, Increasing,
    List.pairwise_map]
  refine List.pairwise_lt_range.imp fun {a b} hlt => ?_
  simp only [minuteCandle, minute, second]
  omega

/-- A broker with `n` closed minutes, and the next one forming. -/
def minuteBroker (n : ℕ) : CandleBroker where
  closed := (List.range n).map minuteCandle
  forming := some (minuteCandle n)
  increasing := increasing_minutes n

def minuteProvider : OandaMarketDataProvider := ⟨newYork2026, "EUR_USD", .M1, 500⟩

/-- A read of `count` minutes just after the third one, and a read of three a minute later. -/
def twoReads (count : ℤ) : List ProviderEvent :=
  [.getCandles (some count) (3 * minute + 5 * second) (minuteBroker 3), .restart,
    .getCandles (some 3) (4 * minute + 5 * second) (minuteBroker 4)]

theorem brokerGrows_twoReads (count : ℤ) : BrokerGrows [] (twoReads count) :=
  have hgrows : (minuteBroker 3).closed <+: (minuteBroker 4).closed := ⟨[minuteCandle 3], rfl⟩
  ⟨List.nil_prefix, List.prefix_refl _, hgrows, trivial⟩

/-- A stale entry that is too short is only extended: the second read returns two of three candles. -/
theorem getCandles_short :
    ¬ ∀ events, BrokerGrows [] events →
      minuteProvider.Throughout minuteProvider.ExactAt {} events := by
  intro hall
  have hsecond := (hall _ (brokerGrows_twoReads 1)).2.2.1
  have hshort : (minuteProvider.step (.getCandles (some 3) (4 * minute + 5 * second) (minuteBroker 4))
      (minuteProvider.step .restart (minuteProvider.step (.getCandles (some 1)
        (3 * minute + 5 * second) (minuteBroker 3)) {}).2).2).1 =
      .ok (some [minuteCandle 2, minuteCandle 3]) := by decide +kernel
  have hlength := (hsecond _ hshort).length
  exact absurd hlength (by decide)

/-- With three candles from the start, both reads are served. -/
theorem getCandles_exact_twoReads :
    minuteProvider.Throughout minuteProvider.ExactAt {} (twoReads 3) :=
  getCandles_exact minuteProvider (twoReads 3) (brokerGrows_twoReads 3) (by decide +kernel)

end OandaV3
