import Mathlib.Data.List.Induction
import OandaV3.CandleFreshness
import OandaV3.Windows

/-! # The candle cache

`providers/cache.py`: the candles of one key (instrument and timeframe) are held in memory, in a CSV
file and, as far as they are described, in the metadata table of the trade store.  A read goes through
memory, the file and the fetcher.  Reading and writing metadata never raises: the trade store swallows
its failures.  The file is replaced at once or not at all.

`candleFreshness_describes_frame`: whenever a read returns a frame, the freshness that is read next
describes it, after any reads, failures and restarts. -/

namespace OandaV3

open Fallible

/-! ### The three levels -/

/-- `CacheEntry`. -/
structure CacheEntry where
  candles : List Candle
  lastCompletedCandle : ℤ
  fetchedAt : ℤ
  source : String
  candleCount : ℕ
deriving DecidableEq, Repr

/-- A CSV file with candles, and when it was written. -/
structure CandleFile where
  candles : List Candle
  modifiedAt : ℤ
deriving DecidableEq, Repr

/-- The record `upsert_cache_metadata` stores. -/
structure CacheMetadata where
  lastCompletedCandle : ℤ
  fetchedAt : ℤ
  candleCount : ℕ
  source : String
deriving DecidableEq, Repr

/-- What is held for one key. -/
structure CandleCache where
  memory : Option CacheEntry := none
  csv : Option CandleFile := none
  metadata : Option CacheMetadata := none
deriving DecidableEq, Repr

/-- What one call meets: the clock when it begins and when the fetch is over, the fetcher (by the count
and the start), and what fails. -/
structure CacheCall where
  nowUtc : ℤ
  fetchedAt : ℤ
  fetcher : ℕ → Option ℤ → Except Exn (List Candle)
  csvRead : Option Exn := none
  csvWrite : Option Exn := none
  metadataRead : Bool := true
  metadataWrite : Bool := true

/-- `is_cache_fresh`. -/
def isCacheFresh (zone : AlignmentZone) (cachedLastCandle : ℤ) (tf : Timeframe) (nowUtc : ℤ) : Bool :=
  calculateCandleStaleness zone cachedLastCandle tf nowUtc == 0

/-- `drop_duplicates` by time, keeping the last. -/
def dropDuplicates : List Candle → List Candle
  | [] => []
  | candle :: candles =>
      if candles.any (·.time == candle.time) then dropDuplicates candles
      else candle :: dropDuplicates candles

/-- `_tail`. -/
def candleTail (candles : List Candle) (count : ℕ) : List Candle := candles.drop (candles.length - count)

namespace CandleCache

variable (zone : AlignmentZone) (instrument : String) (tf : Timeframe)

/-- `get_cache_metadata`. -/
def getCacheMetadata (call : CacheCall) (cache : CandleCache) : Option CacheMetadata :=
  if call.metadataRead then cache.metadata else none

/-- `upsert_cache_metadata`. -/
def upsertCacheMetadata (call : CacheCall) (metadata : CacheMetadata) (cache : CandleCache) :
    CandleCache :=
  if call.metadataWrite then { cache with metadata := some metadata } else cache

/-- `save_candles`. -/
def saveCandles (call : CacheCall) (candles : List Candle) (cache : CandleCache) :
    Except Exn Unit × CandleCache :=
  match call.csvWrite with
  | some e => (.error e, cache)
  | none => (.ok (), { cache with csv := some ⟨validateCandleDf candles, call.fetchedAt⟩ })

/-- `load_candles`. -/
def loadCandles (call : CacheCall) (cache : CandleCache) : Except Exn (Option CandleFile) :=
  match cache.csv, call.csvRead with
  | none, _ => .ok none
  | some _, some e => .error e
  | some file, none => .ok (some { file with candles := validateCandleDf file.candles })

/-- `_load_csv_entry`. -/
def loadCsvEntry (bootstrapMetadata : Bool) (call : CacheCall) (cache : CandleCache) :
    Except Exn (Option CacheEntry) × CandleCache :=
  match cache.loadCandles call with
  | .error e => (.error e, cache)
  | .ok none => (.ok none, cache)
  | .ok (some file) =>
      match cache.getCacheMetadata call, file.candles.getLast? with
      | some _, none => (.error outOfBounds, cache)
      | some metadata, some latest =>
          (.ok (some {
            candles := file.candles
            lastCompletedCandle := latest.time
            fetchedAt := metadata.fetchedAt
            source := metadata.source
            candleCount := metadata.candleCount }), cache)
      | none, latest =>
          if !bootstrapMetadata then (.ok none, cache)
          else match latest with
            | none => (.error outOfBounds, cache)
            | some latest =>
                let cache := cache.upsertCacheMetadata call
                  ⟨latest.time, file.modifiedAt, file.candles.length, "csv"⟩
                (.ok (some {
                  candles := file.candles
                  lastCompletedCandle := latest.time
                  fetchedAt := file.modifiedAt
                  source := "csv"
                  candleCount := file.candles.length }), cache)

/-- `_persist_entry`. -/
def persistEntry (call : CacheCall) (candles : List Candle) (source : String) (cache : CandleCache) :
    Except Exn CacheEntry × CandleCache :=
  let validated := validateCandleDf candles
  match validated.getLast? with
  | none => (.error (.runtimeError ("Cannot persist an empty candle cache for " ++ instrument ++ " " ++
      tf.text ++ ".")), cache)
  | some latest =>
      let entry : CacheEntry := {
        candles := validated
        lastCompletedCandle := latest.time
        fetchedAt := call.fetchedAt
        source
        candleCount := validated.length }
      match cache.saveCandles call validated with
      | (.error e, cache) => (.error e, cache)
      | (.ok (), cache) =>
          let cache := cache.upsertCacheMetadata call
            ⟨entry.lastCompletedCandle, entry.fetchedAt, entry.candleCount, entry.source⟩
          (.ok entry, { cache with memory := some entry })

/-- `_replace_from_api`. -/
def replaceFromApi (count : ℕ) (call : CacheCall) (cache : CandleCache) :
    Except Exn (List Candle) × CandleCache :=
  match call.fetcher count none with
  | .error e => (.error e, cache)
  | .ok [] => (.error (.runtimeError ("Market-data fetch for " ++ instrument ++ " " ++ tf.text ++
      " returned no closed candles.")), cache)
  | .ok candles =>
      match cache.persistEntry instrument tf call candles "oanda_api" with
      | (.error e, cache) => (.error e, cache)
      | (.ok entry, cache) => (.ok (candleTail entry.candles count), cache)

/-- `_append_refresh`. -/
def appendRefresh (count : ℕ) (existing : CacheEntry) (call : CacheCall) (cache : CandleCache) :
    Except Exn (List Candle) × CandleCache :=
  let since := existing.lastCompletedCandle + tf.delta
  match call.fetcher count (some since) with
  | .error e => (.error e, cache)
  | .ok [] => (.ok (candleTail existing.candles count), cache)
  | .ok newer =>
      let combined := sortOn Candle.time (dropDuplicates (existing.candles ++ newer))
      match cache.persistEntry instrument tf call combined "oanda_api" with
      | (.error e, cache) => (.error e, cache)
      | (.ok entry, cache) => (.ok (candleTail entry.candles count), cache)

/-- A read that finds an entry. -/
def readEntry (count : ℕ) (entry : CacheEntry) (call : CacheCall) (cache : CandleCache) :
    Except Exn (List Candle) × CandleCache :=
  if isCacheFresh zone entry.lastCompletedCandle tf call.nowUtc then
    if count ≤ entry.candleCount then (.ok (candleTail entry.candles count), cache)
    else cache.replaceFromApi instrument tf count call
  else cache.appendRefresh instrument tf count entry call

/-- What a request that is not positive raises. -/
def invalidCount : Exn := .valueError "count must be a positive integer."

/-- `get_candles`. -/
def getCandles (count : ℤ) (call : CacheCall) (cache : CandleCache) :
    Except Exn (List Candle) × CandleCache :=
  if count ≤ 0 then (.error invalidCount, cache)
  else
    match cache.memory with
    | some entry => cache.readEntry zone instrument tf count.toNat entry call
    | none =>
        match cache.loadCsvEntry true call with
        | (.error e, cache) => (.error e, cache)
        | (.ok none, cache) => cache.replaceFromApi instrument tf count.toNat call
        | (.ok (some entry), cache) =>
            { cache with memory := some entry }.readEntry zone instrument tf count.toNat entry call

/-- `get_cached_candles`. -/
def getCachedCandles (count : ℤ) (call : CacheCall) (cache : CandleCache) :
    Except Exn (Option (List Candle)) × CandleCache :=
  if count ≤ 0 then (.error invalidCount, cache)
  else
    match cache.memory with
    | some entry => (.ok (some (candleTail entry.candles count.toNat)), cache)
    | none =>
        match cache.loadCsvEntry false call with
        | (.error e, cache) => (.error e, cache)
        | (.ok none, cache) => (.ok none, cache)
        | (.ok (some entry), cache) =>
            (.ok (some (candleTail entry.candles count.toNat)), { cache with memory := some entry })

/-- `get_candle_freshness`. -/
def getCandleFreshness (call : CacheCall) (cache : CandleCache) : CandleFreshness :=
  match cache.memory with
  | some entry =>
      let staleness := calculateCandleStaleness zone entry.lastCompletedCandle tf call.nowUtc
      { instrument
        timeframe := tf.text
        lastCompletedCandle := some entry.lastCompletedCandle
        fetchedAt := some entry.fetchedAt
        source := some entry.source
        candleCount := entry.candleCount
        isFresh := staleness == 0
        staleness := some staleness }
  | none =>
      match cache.getCacheMetadata call with
      | some metadata =>
          let staleness := calculateCandleStaleness zone metadata.lastCompletedCandle tf call.nowUtc
          { instrument
            timeframe := tf.text
            lastCompletedCandle := some metadata.lastCompletedCandle
            fetchedAt := some metadata.fetchedAt
            source := some metadata.source
            candleCount := metadata.candleCount
            isFresh := staleness == 0
            staleness := some staleness }
      | none =>
          { instrument
            timeframe := tf.text
            lastCompletedCandle := none
            fetchedAt := none
            source := none
            candleCount := 0
            isFresh := false
            staleness := none }

/-- `clear_memory`; a restart leaves the same behind. -/
def clearMemory (cache : CandleCache) : CandleCache := { cache with memory := none }

end CandleCache

/-! ### Runs -/

inductive CacheOp where
  | getCandles (count : ℤ) (call : CacheCall)
  | getCachedCandles (count : ℤ) (call : CacheCall)
  | clearMemory
  | restart

namespace CandleCache

variable (zone : AlignmentZone) (instrument : String) (tf : Timeframe)

/-- One operation, with the frame it returns. -/
def step (op : CacheOp) (cache : CandleCache) : Except Exn (Option (List Candle)) × CandleCache :=
  match op with
  | .getCandles count call =>
      let (result, cache) := cache.getCandles zone instrument tf count call
      (result.map some, cache)
  | .getCachedCandles count call => cache.getCachedCandles count call
  | .clearMemory => (.ok none, cache.clearMemory)
  | .restart => (.ok none, cache.clearMemory)

/-- The cache after operations on an empty one. -/
def run (ops : List CacheOp) : CandleCache :=
  ops.foldl (fun cache op => (cache.step zone instrument tf op).2) {}

end CandleCache

/-! ### Entries end where they say -/

/-- The entry ends with its last completed candle, and counts at least that one. -/
structure CacheEntry.WellFormed (entry : CacheEntry) : Prop where
  ends : entry.candles.getLast?.map Candle.time = some entry.lastCompletedCandle
  counted : 0 < entry.candleCount

/-- Whatever is in memory ends where it says, and the metadata counts something. -/
structure CandleCache.WellFormed (cache : CandleCache) : Prop where
  memory : ∀ entry, cache.memory = some entry → entry.WellFormed
  metadata : ∀ metadata, cache.metadata = some metadata → 0 < metadata.candleCount

/-- A read leaves a well-formed cache, with the entry its frame is the tail of. -/
structure LeavesEntry (count : ℕ) (result : Except Exn (List Candle) × CandleCache) : Prop where
  wellFormed : result.2.WellFormed
  frame : ∀ frame, result.1 = .ok frame →
    ∃ entry, result.2.memory = some entry ∧ frame = candleTail entry.candles count

theorem getLast?_candleTail (candles : List Candle) {count : ℕ} (hcount : 0 < count) :
    (candleTail candles count).getLast? = candles.getLast? := Windows.getLast?_newest candles hcount

theorem LeavesEntry.error {count : ℕ} {cache : CandleCache} (h : cache.WellFormed) (e : Exn) :
    LeavesEntry count (.error e, cache) := by
  refine ⟨h, fun frame hframe => ?_⟩
  cases hframe

theorem LeavesEntry.ok {count : ℕ} {cache : CandleCache} (h : cache.WellFormed) {entry : CacheEntry}
    (hentry : cache.memory = some entry) :
    LeavesEntry count (.ok (candleTail entry.candles count), cache) := by
  refine ⟨h, fun frame hframe => ⟨entry, hentry, ?_⟩⟩
  exact (Except.ok.inj hframe).symm

namespace CandleCache

variable {zone : AlignmentZone} {instrument : String} {tf : Timeframe} {cache : CandleCache}

theorem wellFormed_empty : WellFormed {} where
  memory _ h := nomatch h
  metadata _ h := nomatch h

theorem WellFormed.setMemory (h : cache.WellFormed) {entry : CacheEntry} (hentry : entry.WellFormed) :
    WellFormed { cache with memory := some entry } where
  memory _ heq := Option.some.inj heq ▸ hentry
  metadata := h.metadata

theorem WellFormed.clearMemory (h : cache.WellFormed) : cache.clearMemory.WellFormed where
  memory _ heq := nomatch heq
  metadata := h.metadata

theorem WellFormed.upsertCacheMetadata (h : cache.WellFormed) (call : CacheCall)
    {metadata : CacheMetadata} (hcount : 0 < metadata.candleCount) :
    (cache.upsertCacheMetadata call metadata).WellFormed := by
  rw [CandleCache.upsertCacheMetadata]
  split_ifs
  · exact ⟨h.memory, fun m hm => Option.some.inj hm ▸ hcount⟩
  · exact h

theorem WellFormed.saveCandles (h : cache.WellFormed) (call : CacheCall) (candles : List Candle) :
    (cache.saveCandles call candles).2.WellFormed := by
  rw [CandleCache.saveCandles]
  cases call.csvWrite with
  | some e => exact h
  | none => exact ⟨h.memory, h.metadata⟩

theorem getCacheMetadata_some {call : CacheCall} {metadata : CacheMetadata}
    (h : cache.getCacheMetadata call = some metadata) : cache.metadata = some metadata := by
  rw [getCacheMetadata] at h
  split_ifs at h
  exact h

/-- An entry from the file is well formed, and so is the cache it leaves. -/
theorem WellFormed.loadCsvEntry (h : cache.WellFormed) (bootstrap : Bool) (call : CacheCall) :
    (cache.loadCsvEntry bootstrap call).2.WellFormed ∧
      ∀ entry, (cache.loadCsvEntry bootstrap call).1 = .ok (some entry) → entry.WellFormed := by
  rw [CandleCache.loadCsvEntry]
  rcases cache.loadCandles call with e | _ | file
  · exact ⟨h, fun entry hentry => by cases hentry⟩
  · exact ⟨h, fun entry hentry => by cases hentry⟩
  · dsimp only
    cases hmetadata : cache.getCacheMetadata call with
    | some metadata =>
        cases hlatest : file.candles.getLast? with
        | none => exact ⟨h, fun entry hentry => by cases hentry⟩
        | some latest =>
            refine ⟨h, fun entry hentry => ?_⟩
            obtain rfl := Option.some.inj (Except.ok.inj hentry)
            exact ⟨congrArg (Option.map Candle.time) hlatest,
              h.metadata metadata (getCacheMetadata_some hmetadata)⟩
    | none =>
        cases bootstrap with
        | false => exact ⟨h, fun entry hentry => by cases hentry⟩
        | true =>
            cases hlatest : file.candles.getLast? with
            | none => exact ⟨h, fun entry hentry => by cases hentry⟩
            | some latest =>
                have hcount : 0 < file.candles.length :=
                  List.length_pos_of_mem (List.mem_of_getLast? hlatest)
                refine ⟨h.upsertCacheMetadata call hcount, fun entry hentry => ?_⟩
                obtain rfl := Option.some.inj (Except.ok.inj hentry)
                exact ⟨congrArg (Option.map Candle.time) hlatest, hcount⟩

theorem WellFormed.persistEntry (h : cache.WellFormed) (instrument : String) (tf : Timeframe)
    (call : CacheCall) (candles : List Candle) (source : String) :
    (cache.persistEntry instrument tf call candles source).2.WellFormed ∧
      ∀ entry, (cache.persistEntry instrument tf call candles source).1 = .ok entry →
        (cache.persistEntry instrument tf call candles source).2.memory = some entry := by
  rw [CandleCache.persistEntry]
  cases hlatest : (validateCandleDf candles).getLast? with
  | none => exact ⟨h, fun entry hentry => by cases hentry⟩
  | some latest =>
      have hcount : 0 < (validateCandleDf candles).length :=
        List.length_pos_of_mem (List.mem_of_getLast? hlatest)
      have hsaved := h.saveCandles call (validateCandleDf candles)
      dsimp only
      generalize cache.saveCandles call (validateCandleDf candles) = saved at hsaved ⊢
      obtain ⟨e | u, cache'⟩ := saved
      · exact ⟨hsaved, fun entry hentry => by cases hentry⟩
      · refine ⟨(hsaved.upsertCacheMetadata call hcount).setMemory ⟨?_, hcount⟩, fun entry hentry => ?_⟩
        · exact congrArg (Option.map Candle.time) hlatest
        · exact congrArg some (Except.ok.inj hentry)

theorem WellFormed.persisted (h : cache.WellFormed) (call : CacheCall) (candles : List Candle)
    (source : String) (count : ℕ) :
    LeavesEntry count (match cache.persistEntry instrument tf call candles source with
      | (.error e, cache) => (.error e, cache)
      | (.ok entry, cache) => (.ok (candleTail entry.candles count), cache)) := by
  obtain ⟨hwell, hentry⟩ := h.persistEntry instrument tf call candles source
  generalize cache.persistEntry instrument tf call candles source = persisted at hwell hentry ⊢
  obtain ⟨e | entry, cache'⟩ := persisted
  · exact .error hwell e
  · exact .ok hwell (hentry entry rfl)

theorem WellFormed.replaceFromApi (h : cache.WellFormed) (count : ℕ) (call : CacheCall) :
    LeavesEntry count (cache.replaceFromApi instrument tf count call) := by
  rw [CandleCache.replaceFromApi]
  rcases call.fetcher count none with e | _ | ⟨candle, candles⟩
  · exact .error h e
  · exact .error h _
  · exact h.persisted call _ _ count

theorem WellFormed.appendRefresh (h : cache.WellFormed) (count : ℕ) {entry : CacheEntry}
    (hentry : cache.memory = some entry) (call : CacheCall) :
    LeavesEntry count (cache.appendRefresh instrument tf count entry call) := by
  rw [CandleCache.appendRefresh]
  rcases call.fetcher count (some (entry.lastCompletedCandle + tf.delta)) with e | _ | ⟨candle, candles⟩
  · exact .error h e
  · exact .ok h hentry
  · exact h.persisted call _ _ count

theorem WellFormed.readEntry (h : cache.WellFormed) (count : ℕ) {entry : CacheEntry}
    (hentry : cache.memory = some entry) (call : CacheCall) :
    LeavesEntry count (cache.readEntry zone instrument tf count entry call) := by
  rw [CandleCache.readEntry]
  split_ifs
  · exact .ok h hentry
  · exact h.replaceFromApi count call
  · exact h.appendRefresh count hentry call

theorem WellFormed.getCandles (h : cache.WellFormed) (count : ℤ) (call : CacheCall) :
    LeavesEntry count.toNat (cache.getCandles zone instrument tf count call) := by
  rw [CandleCache.getCandles]
  split_ifs with hcount
  · exact .error h _
  · cases hmemory : cache.memory with
    | some entry => exact h.readEntry count.toNat hmemory call
    | none =>
        obtain ⟨hwell, hloaded⟩ := h.loadCsvEntry true call
        dsimp only
        generalize cache.loadCsvEntry true call = loaded at hwell hloaded ⊢
        obtain ⟨e | _ | entry, cache'⟩ := loaded
        · exact .error hwell e
        · exact WellFormed.replaceFromApi hwell count.toNat call
        · exact (hwell.setMemory (hloaded entry rfl)).readEntry count.toNat rfl call

theorem WellFormed.getCachedCandles (h : cache.WellFormed) (count : ℤ) (call : CacheCall) :
    (cache.getCachedCandles count call).2.WellFormed ∧
      ∀ frame, (cache.getCachedCandles count call).1 = .ok (some frame) →
        ∃ entry, (cache.getCachedCandles count call).2.memory = some entry ∧
          frame = candleTail entry.candles count.toNat := by
  rw [CandleCache.getCachedCandles]
  split_ifs with hcount
  · exact ⟨h, fun frame hframe => by cases hframe⟩
  · cases hmemory : cache.memory with
    | some entry =>
        refine ⟨h, fun frame hframe => ⟨entry, hmemory, ?_⟩⟩
        exact (Option.some.inj (Except.ok.inj hframe)).symm
    | none =>
        obtain ⟨hwell, hloaded⟩ := h.loadCsvEntry false call
        dsimp only
        generalize cache.loadCsvEntry false call = loaded at hwell hloaded ⊢
        obtain ⟨e | _ | entry, cache'⟩ := loaded
        · exact ⟨hwell, fun frame hframe => by cases hframe⟩
        · exact ⟨hwell, fun frame hframe => by cases hframe⟩
        · refine ⟨hwell.setMemory (hloaded entry rfl), fun frame hframe => ⟨entry, rfl, ?_⟩⟩
          exact (Option.some.inj (Except.ok.inj hframe)).symm

theorem step_returned {op : CacheOp} {frame : List Candle}
    (h : (cache.step zone instrument tf op).1 = .ok (some frame)) :
    (∃ count call, op = .getCandles count call ∧ 0 < count ∧
      (cache.getCandles zone instrument tf count call).1 = .ok frame) ∨
    ∃ count call, op = .getCachedCandles count call ∧ 0 < count ∧
      (cache.getCachedCandles count call).1 = .ok (some frame) := by
  cases op with
  | getCandles count call =>
      change (cache.getCandles zone instrument tf count call).1.map some = .ok (some frame) at h
      obtain ⟨frame', hframe, hsome⟩ := map_eq_ok.mp h
      obtain rfl := Option.some.inj hsome
      refine Or.inl ⟨count, call, rfl, ?_, hframe⟩
      by_contra hcount
      rw [CandleCache.getCandles, if_pos (not_lt.mp hcount)] at hframe
      cases hframe
  | getCachedCandles count call =>
      refine Or.inr ⟨count, call, rfl, ?_, h⟩
      by_contra hcount
      rw [step, CandleCache.getCachedCandles, if_pos (not_lt.mp hcount)] at h
      cases h
  | clearMemory => cases Except.ok.inj h
  | restart => cases Except.ok.inj h

theorem WellFormed.step (h : cache.WellFormed) (op : CacheOp) :
    (cache.step zone instrument tf op).2.WellFormed := by
  cases op with
  | getCandles count call => exact (h.getCandles count call).wellFormed
  | getCachedCandles count call => exact (h.getCachedCandles count call).1
  | clearMemory => exact h.clearMemory
  | restart => exact h.clearMemory

theorem WellFormed.step_frame (h : cache.WellFormed) {op : CacheOp} {frame : List Candle}
    (hframe : (cache.step zone instrument tf op).1 = .ok (some frame)) :
    ∃ entry, (cache.step zone instrument tf op).2.memory = some entry ∧
      frame.getLast? = entry.candles.getLast? := by
  rcases step_returned hframe with ⟨count, call, rfl, hcount, hok⟩ | ⟨count, call, rfl, hcount, hok⟩
  · obtain ⟨entry, hentry, rfl⟩ := (h.getCandles count call).frame frame hok
    exact ⟨entry, hentry, getLast?_candleTail _ (by omega)⟩
  · obtain ⟨entry, hentry, rfl⟩ := (h.getCachedCandles count call).2 frame hok
    exact ⟨entry, hentry, getLast?_candleTail _ (by omega)⟩

/-- **Every run keeps the cache well formed.** -/
theorem wellFormed_run (ops : List CacheOp) : (run zone instrument tf ops).WellFormed := by
  rw [run]
  induction ops using List.reverseRecOn with
  | nil => exact wellFormed_empty
  | append_singleton ops op ih =>
      rw [List.foldl_append]
      exact ih.step op

end CandleCache

open CandleCache

/-- **The freshness describes the frame**: after any operations, when a read returns a frame, the next
`get_candle_freshness` names its last candle, when it was fetched, its source and a positive count, and
the freshness of a snapshot of this frame raises no `RuntimeError`. -/
theorem candleFreshness_describes_frame (zone : AlignmentZone) (instrument : String) (tf : Timeframe)
    (ops : List CacheOp) (op : CacheOp) (frame : List Candle) (next : CacheCall)
    (hframe : ((run zone instrument tf ops).step zone instrument tf op).1 = .ok (some frame)) :
    let freshness :=
      ((run zone instrument tf ops).step zone instrument tf op).2.getCandleFreshness zone instrument tf
        next
    ∃ latest, frame.getLast? = some latest ∧ freshness.Describes latest.time ∧
      NoRuntimeError (buildSnapshotFreshness instrument tf.text frame (.ok freshness)) := by
  intro freshness
  have hwell : (run zone instrument tf ops).WellFormed := wellFormed_run ops
  obtain ⟨entry, hmemory, hends⟩ := hwell.step_frame hframe
  have hentry := (hwell.step op).memory entry hmemory
  obtain ⟨latest, hlatest, htime⟩ := Option.map_eq_some_iff.mp hentry.ends
  have hdescribes : freshness.Describes latest.time := by
    simp only [freshness, getCandleFreshness, hmemory, htime]
    exact ⟨rfl, rfl, rfl, Int.natCast_pos.mpr hentry.counted⟩
  exact ⟨latest, hends.trans hlatest, hdescribes,
    buildSnapshotFreshness_noRuntimeError instrument tf.text (hends.trans hlatest) hdescribes⟩

/-- A candle of the hour 0, fetched an hour later; the metadata cannot be written. -/
def fetchedHour : CacheCall where
  nowUtc := hour
  fetchedAt := hour
  fetcher _ _ := .ok [⟨0, 11 / 10, 11 / 10, 11 / 10, 11 / 10, 1⟩]
  metadataWrite := false

/-- The candle is read back from the file after a restart. -/
theorem candleFreshness_describes_restarted :
    (((run newYork2026 "EUR_USD" .H1 [.getCandles 1 fetchedHour, .restart]).step newYork2026 "EUR_USD"
      .H1 (.getCandles 1 fetchedHour)).2.getCandleFreshness newYork2026 "EUR_USD" .H1
        fetchedHour).Describes 0 := by
  have hframe : ((run newYork2026 "EUR_USD" .H1 [.getCandles 1 fetchedHour, .restart]).step newYork2026
      "EUR_USD" .H1 (.getCandles 1 fetchedHour)).1 =
        .ok (some [⟨0, 11 / 10, 11 / 10, 11 / 10, 11 / 10, 1⟩]) := by decide +kernel
  obtain ⟨latest, hlatest, hdescribes, -⟩ := candleFreshness_describes_frame newYork2026 "EUR_USD" .H1
    [.getCandles 1 fetchedHour, .restart] (.getCandles 1 fetchedHour) _ fetchedHour hframe
  obtain rfl := Option.some.inj hlatest
  exact hdescribes

end OandaV3
