import OandaV3.CandleProvider

/-! # Reads of a stale cache without a newer candle

A read that finds a stale entry asks for the candles after it.  The answer may hold no newer closed
candle: no candle at all, only incomplete ones, or complete ones that `trim_to_closed` drops.  The comment in
`_fetch_candles_from_api` wants an empty frame then, so that the cache falls back to what it has; two of
the three answers raise instead.

`staleRead_keeps_iff`: the read returns the tail of the entry exactly when the answer has candles, but no
complete ones.  It leaves the cache as it was when, besides, the entry was in memory; an entry found in the
file is loaded into memory. -/

namespace OandaV3

/-! ### The entry a read finds -/

/-- The cache once a read has found its entry: the one in memory, or the one of the file, which goes into
memory. -/
def CandleCache.lookedUp (call : CacheCall) (cache : CandleCache) : CandleCache :=
  match cache.memory with
  | some _ => cache
  | none =>
      match cache.loadCsvEntry true call with
      | (.ok (some entry), cache) => { cache with memory := some entry }
      | (_, cache) => cache

section lookup

variable {zone : AlignmentZone} {instrument : String} {tf : Timeframe} {cache : CandleCache}
  {call : CacheCall}

@[simp] theorem upsertCacheMetadata_csv (metadata : CacheMetadata) :
    (cache.upsertCacheMetadata call metadata).csv = cache.csv := by
  unfold CandleCache.upsertCacheMetadata
  split_ifs <;> rfl

theorem loadCsvEntry_csv (bootstrap : Bool) : (cache.loadCsvEntry bootstrap call).2.csv = cache.csv := by
  unfold CandleCache.loadCsvEntry
  split
  · rfl
  · rfl
  · split
    · rfl
    · rfl
    · split
      · rfl
      · split
        · rfl
        · exact upsertCacheMetadata_csv _

theorem lookedUp_csv : (cache.lookedUp call).csv = cache.csv := by
  have hload : (cache.loadCsvEntry true call).2.csv = cache.csv := loadCsvEntry_csv true
  unfold CandleCache.lookedUp
  split
  · rfl
  · split
    · next entry loaded hloaded =>
        rw [hloaded] at hload
        exact hload
    · next result loaded _ hloaded =>
        rw [hloaded] at hload
        exact hload

theorem lookedUp_memory {entry : CacheEntry} (h : cache.foundEntry call = some entry) :
    (cache.lookedUp call).memory = some entry := by
  unfold CandleCache.foundEntry at h
  rw [CandleCache.lookedUp]
  cases hmemory : cache.memory with
  | some held =>
      rw [hmemory] at h
      exact hmemory.trans h
  | none =>
      rw [hmemory] at h
      rcases hload : cache.loadCsvEntry true call with ⟨_ | _ | found, loaded⟩
      · rw [hload] at h
        cases h
      · rw [hload] at h
        cases h
      · rw [hload] at h
        exact h

theorem loadCsvEntry_of_metadata (bootstrap : Bool) (h : cache.getCacheMetadata call ≠ none) :
    (cache.loadCsvEntry bootstrap call).2 = cache := by
  obtain ⟨metadata, hmetadata⟩ := Option.ne_none_iff_exists'.mp h
  unfold CandleCache.loadCsvEntry
  rw [hmetadata]
  split
  · rfl
  · rfl
  · split
    · rfl
    · rfl
    · next hnone => cases hnone

/-- Nothing but the memory changes when the entry is in memory or has its metadata. -/
theorem lookedUp_eq {entry : CacheEntry} (h : cache.foundEntry call = some entry)
    (hheld : cache.memory ≠ none ∨ cache.getCacheMetadata call ≠ none) :
    cache.lookedUp call = { cache with memory := some entry } := by
  have hentry := lookedUp_memory h
  rw [CandleCache.lookedUp] at hentry ⊢
  cases hmemory : cache.memory with
  | some held =>
      rw [hmemory] at hentry
      obtain rfl := Option.some.inj (hmemory.symm.trans hentry)
      simp only [← hmemory]
  | none =>
      have hload := loadCsvEntry_of_metadata true (hheld.resolve_left fun hne => hne hmemory)
      rw [hmemory] at hentry
      rcases hloaded : cache.loadCsvEntry true call with ⟨_ | _ | found, loaded⟩
      · rw [hloaded] at hentry hload
        exact absurd (hentry.symm.trans ((congrArg CandleCache.memory hload).trans hmemory)) (by simp)
      · rw [hloaded] at hentry hload
        exact absurd (hentry.symm.trans ((congrArg CandleCache.memory hload).trans hmemory)) (by simp)
      · rw [hloaded] at hentry hload
        obtain rfl : loaded = cache := hload
        obtain rfl := Option.some.inj hentry
        rfl

/-- The cache is the one before exactly when the entry was in memory. -/
theorem lookedUp_eq_self {entry : CacheEntry} (h : cache.foundEntry call = some entry) :
    cache.lookedUp call = cache ↔ cache.memory ≠ none := by
  constructor
  · intro heq hmemory
    rw [← heq, lookedUp_memory h] at hmemory
    cases hmemory
  · intro hne
    obtain ⟨held, hmemory⟩ := Option.ne_none_iff_exists'.mp hne
    rw [CandleCache.lookedUp, hmemory]

theorem getCandles_found {count : ℤ} (hcount : 0 < count) {entry : CacheEntry}
    (h : cache.foundEntry call = some entry) :
    cache.getCandles zone instrument tf count call =
      (cache.lookedUp call).readEntry zone instrument tf count.toNat entry call := by
  unfold CandleCache.foundEntry at h
  rw [CandleCache.getCandles, if_neg (not_le.mpr hcount), CandleCache.lookedUp]
  cases hmemory : cache.memory with
  | some held =>
      rw [hmemory] at h
      obtain rfl := Option.some.inj h
      rfl
  | none =>
      rw [hmemory] at h
      rcases hload : cache.loadCsvEntry true call with ⟨_ | _ | found, loaded⟩
      · rw [hload] at h
        cases h
      · rw [hload] at h
        cases h
      · rw [hload] at h
        obtain rfl := Option.some.inj h
        rfl

end lookup

/-! ### Answers without a newer closed candle -/

section fetch

variable {instrument : String} {tf : Timeframe} {nowUtc : ℤ}
  {api : CandleQuery → Except Exn (List RawCandle)} {count : ℕ} {since : ℤ} {raws : List RawCandle}
  {rows : List Candle}

/-- The three answers without a closed candle, and what becomes of them. -/
theorem fetch_nothingClosed (hanswer : api (.since since) = .ok raws)
    (hrows : canonicalRows instrument tf raws = .ok rows)
    (htrim : trimToClosed tf nowUtc (validateCandleDf rows) = []) :
    fetchCandlesFromApi instrument tf nowUtc api count (some since) =
      if raws = [] then .error (candleResponseError instrument tf "contained no candles.")
      else if rows = [] then .ok []
      else .error (candleResponseError instrument tf "yielded no closed candles after trimming.") := by
  rw [fetchCandlesFromApi, candleQuery, hanswer]
  cases raws with
  | nil => rfl
  | cons raw raws =>
      simp only [hrows, List.cons_ne_nil, if_false]
      cases rows with
      | nil => rfl
      | cons row rows => simp only [htrim, List.cons_ne_nil, if_false]

end fetch

/-- A stale read without a newer closed candle leaves the cache with the entry it found. -/
theorem getCandles_nothingClosed (provider : OandaMarketDataProvider) (cache : CandleCache)
    (requested : Option ℤ) (nowUtc : ℤ) (api : CandleQuery → Except Exn (List RawCandle))
    (entry : CacheEntry) (raws : List RawCandle) (rows : List Candle)
    (hpos : 0 < requested.getD provider.defaultCandleCount)
    (hmax : requested.getD provider.defaultCandleCount ≤ oandaMaxCandleCount)
    (hfound : cache.foundEntry (provider.call nowUtc api) = some entry)
    (hstale : isCacheFresh provider.zone entry.lastCompletedCandle provider.tf nowUtc = false)
    (hanswer : api (.since (entry.lastCompletedCandle + provider.tf.delta)) = .ok raws)
    (hrows : canonicalRows provider.instrument provider.tf raws = .ok rows)
    (htrim : trimToClosed provider.tf nowUtc (validateCandleDf rows) = []) :
    ((provider.getCandles requested nowUtc api cache).1 =
        .ok (candleTail entry.candles (requested.getD provider.defaultCandleCount).toNat) ↔
      raws ≠ [] ∧ rows = []) ∧
    (provider.getCandles requested nowUtc api cache).2 = cache.lookedUp (provider.call nowUtc api) := by
  have hfetch : (provider.call nowUtc api).fetcher (requested.getD provider.defaultCandleCount).toNat
      (some (entry.lastCompletedCandle + provider.tf.delta)) = _ :=
    fetch_nothingClosed hanswer hrows htrim
  have hnow : isCacheFresh provider.zone entry.lastCompletedCandle provider.tf
      (provider.call nowUtc api).nowUtc = false := hstale
  rw [OandaMarketDataProvider.getCandles, if_neg (not_le.mpr hpos), if_neg (not_lt.mpr hmax),
    getCandles_found hpos hfound, CandleCache.readEntry, hnow, if_neg Bool.false_ne_true,
    CandleCache.appendRefresh, hfetch]
  by_cases hraws : raws = []
  · rw [if_pos hraws]
    simp [hraws]
  · rw [if_neg hraws]
    by_cases hnone : rows = []
    · rw [if_pos hnone]
      simp [hraws, hnone]
    · rw [if_neg hnone]
      simp [hnone]

/-- **When a stale read keeps what it has.**  For every cache whose entry is stale and every answer
without a newer closed candle, the read returns the tail of the entry and leaves the memory, the file and
the metadata as they were exactly when the answer has candles but no complete one, and the entry was in
memory.  Whatever the answer, the file stays; an entry that has its metadata is at most loaded into
memory. -/
theorem staleRead_keeps_iff (provider : OandaMarketDataProvider) (cache : CandleCache)
    (requested : Option ℤ) (nowUtc : ℤ) (api : CandleQuery → Except Exn (List RawCandle))
    (entry : CacheEntry) (raws : List RawCandle) (rows : List Candle)
    (hpos : 0 < requested.getD provider.defaultCandleCount)
    (hmax : requested.getD provider.defaultCandleCount ≤ oandaMaxCandleCount)
    (hfound : cache.foundEntry (provider.call nowUtc api) = some entry)
    (hstale : isCacheFresh provider.zone entry.lastCompletedCandle provider.tf nowUtc = false)
    (hanswer : api (.since (entry.lastCompletedCandle + provider.tf.delta)) = .ok raws)
    (hrows : canonicalRows provider.instrument provider.tf raws = .ok rows)
    (htrim : trimToClosed provider.tf nowUtc (validateCandleDf rows) = []) :
    (provider.getCandles requested nowUtc api cache =
        (.ok (candleTail entry.candles (requested.getD provider.defaultCandleCount).toNat), cache) ↔
      (raws ≠ [] ∧ rows = []) ∧ cache.memory ≠ none) ∧
    ((provider.getCandles requested nowUtc api cache).1 =
        .ok (candleTail entry.candles (requested.getD provider.defaultCandleCount).toNat) ↔
      raws ≠ [] ∧ rows = []) ∧
    (cache.memory ≠ none ∨ cache.metadata ≠ none →
      (provider.getCandles requested nowUtc api cache).2 = { cache with memory := some entry }) ∧
    (provider.getCandles requested nowUtc api cache).2.csv = cache.csv := by
  obtain ⟨hresult, hcache⟩ := getCandles_nothingClosed provider cache requested nowUtc api entry raws
    rows hpos hmax hfound hstale hanswer hrows htrim
  refine ⟨?_, hresult, fun hheld => ?_, ?_⟩
  · rw [Prod.ext_iff, hresult, hcache, lookedUp_eq_self hfound]
  · have hread : cache.getCacheMetadata (provider.call nowUtc api) = cache.metadata := if_pos rfl
    rw [hcache, lookedUp_eq hfound (by rwa [hread])]
  · rw [hcache, lookedUp_csv]

def noCandles : CandleQuery → Except Exn (List RawCandle) := fun _ => .ok []

/-- Only the forming minute is sent. -/
def onlyForming : CandleQuery → Except Exn (List RawCandle) :=
  fun _ => .ok [(minuteCandle 5).toRaw false]

def threeMinutes : CacheEntry where
  candles := [minuteCandle 0, minuteCandle 1, minuteCandle 2]
  lastCompletedCandle := 2 * minute
  fetchedAt := 3 * minute
  source := "oanda_api"
  candleCount := 3

/-- An answer without candles raises, although the three minutes are there. -/
theorem staleRead_noCandles :
    isCacheFresh newYork2026 threeMinutes.lastCompletedCandle .M1 (5 * minute) = false ∧
      minuteProvider.getCandles (some 2) (5 * minute) noCandles { memory := some threeMinutes } =
        (.error (candleResponseError "EUR_USD" .M1 "contained no candles."),
          { memory := some threeMinutes }) ∧
      minuteProvider.getCandles (some 2) (5 * minute) noCandles { memory := some threeMinutes } ≠
        (.ok (candleTail threeMinutes.candles 2), { memory := some threeMinutes }) := by
  decide +kernel

/-- An answer with the forming minute only falls back. -/
theorem staleRead_keeps_forming :
    minuteProvider.getCandles (some 2) (5 * minute) onlyForming { memory := some threeMinutes } =
      (.ok [minuteCandle 1, minuteCandle 2], { memory := some threeMinutes }) :=
  (staleRead_keeps_iff minuteProvider { memory := some threeMinutes } (some 2) (5 * minute) onlyForming
    threeMinutes [(minuteCandle 5).toRaw false] [] (by decide) (by decide) rfl (by decide +kernel) rfl
    rfl rfl).1.mpr ⟨⟨by decide, rfl⟩, by decide⟩

end OandaV3
