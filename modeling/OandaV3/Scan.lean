import Mathlib.Data.Finset.Prod
import Mathlib.Data.List.TakeWhile
import Mathlib.Algebra.BigOperators.Group.Finset.Piecewise
import OandaV3.CandleFreshness
import OandaV3.MarketHistory

/-! # The scan cycle

`ScanOrchestrator._run_scan`: for each instrument the snapshots of `SCAN_TIMEFRAMES` are built and
published one after another, and `ScanCycleStatus` counts the snapshots of the instruments that came
through.  Everything the orchestrator asks for is an answer or a failure of the turn of an instrument.

`snapshotsPublished_eq_iff`: the count is the number of versions added to the store exactly when no
instrument stops after its first snapshot. -/

namespace OandaV3

open Fallible

/-! ### What a scan asks for -/

/-- `SCAN_TIMEFRAMES`. -/
def scanTimeframes : List String := ["M15", "H1", "H4", "D"]

/-- The `is_market_open` flags of `MarketHoursOverview`. -/
structure MarketHoursOverview where
  fx : Bool
  metals : Bool
  overall : Bool
deriving DecidableEq, Repr

/-- `category_status`, of a lower-case category. -/
def MarketHoursOverview.categoryStatus (overview : MarketHoursOverview) (category : String) :
    Except Exn Bool :=
  if category ∈ ["fx", "major_fx", "minor_fx"] then .ok overview.fx
  else if category ∈ ["metal", "metals"] then .ok overview.metals
  else if category ∈ ["overall", "energy_cfd", "index_cfd"] then .ok overview.overall
  else .error (.keyError ("Unsupported market-hours category '" ++ category ++ "'."))

/-- `PriceSnapshot`. -/
structure PriceSnapshot where
  instrument : String
  bid : ℚ
  ask : ℚ
  fetchedAt : ℤ
deriving DecidableEq, Repr

/-- What the parts of the orchestrator answer for one timeframe of an instrument. -/
structure TimeframeAnswers where
  cachedCandles : Except Exn (Option (List Candle))
  candles : Except Exn (List Candle)
  smc : Except Exn Json
  indicators : Except Exn Json
  freshness : Except Exn CandleFreshness
  pricedAt : ℤ
  computedAt : ℤ

structure ScanTurn where
  instrument : String
  isEventBlackout : Except Exn Bool
  currentPrice : Except Exn PriceSnapshot
  timeframe : String → TimeframeAnswers
  filterEvents : Except Exn Unit

/-- `ScanRunKind`. -/
inductive ScanRunKind where
  | full | instrumentRefresh | snapshotRefresh
deriving DecidableEq, Repr

/-- A call of `_run_scan`. -/
structure ScanCycle where
  runKind : ScanRunKind
  force : Bool
  startedAt : ℤ
  completedAt : ℤ
  marketHours : Except Exn MarketHoursOverview
  refreshCalendar : Except Exn Unit
  turns : List ScanTurn

/-- `ScanCycleStatus`; an error is an instrument and what was raised. -/
structure ScanCycleStatus where
  runKind : ScanRunKind
  startedAt : ℤ
  completedAt : ℤ
  requestedInstruments : List String
  scannedInstruments : List String
  snapshotsPublished : ℕ
  skippedReason : Option String
  forcedMarketFetch : Bool
  errors : List (String × Exn)
deriving DecidableEq, Repr

/-- `ScanCycleStatus.validate_instruments`. -/
def ScanCycleStatus.validateInstruments (status : ScanCycleStatus) : Except Exn Unit := do
  status.requestedInstruments.forM fun instrument => discard (getInstrumentSpec instrument)
  status.scannedInstruments.forM fun instrument => discard (getInstrumentSpec instrument)

/-! ### One snapshot -/

/-- `_spread_from_price`. -/
def spreadFromPrice (price : PriceSnapshot) : Except Exn SpreadResult := do
  let spec ← getInstrumentSpec price.instrument
  let rawSpread := price.ask - price.bid
  let spread : SpreadResult := {
    instrument := price.instrument
    bid := price.bid
    ask := price.ask
    rawSpread
    spreadPips := rawSpread / spec.pipSize
    pipSize := spec.pipSize
    fetchedAt := price.fetchedAt }
  spread.validateContract
  return spread

/-- `_closed_market_spread_context`. -/
def closedMarketSpreadContext (store : MarketStateStore) (instrument timeframe : String)
    (candles : List Candle) (pricedAt : ℤ) : Except Exn SpreadResult :=
  match store.getSnapshot instrument timeframe with
  | some existing => .ok existing.spread
  | none =>
      match candles.getLast? with
      | none => .error outOfBounds
      | some reference => do
          let spread ← spreadFromPrice
            { instrument, bid := reference.close, ask := reference.close, fetchedAt := pricedAt }
          return { spread with
            source := some "closed_market_cache"
            fallbackNote := some "No live spread available; bid and ask mirror the cached close." }

/-- The market and the price at the turn of an instrument. -/
structure MarketSide where
  marketOpen : Bool
  currentPrice : Option PriceSnapshot
  cacheOnly : Bool

namespace ScanTurn

variable (turn : ScanTurn) (side : MarketSide) (store : MarketStateStore)

/-- The candles of `_build_snapshot`: cached ones only, or whatever the provider can get. -/
def readCandles (timeframe : String) : Except Exn (Option (List Candle)) :=
  if side.cacheOnly then (turn.timeframe timeframe).cachedCandles
  else (turn.timeframe timeframe).candles.map some

/-- The spread of `_build_snapshot`. -/
def snapshotSpread (timeframe : String) (candles : List Candle) : Except Exn SpreadResult :=
  match side.currentPrice with
  | none => closedMarketSpreadContext store turn.instrument timeframe candles
      (turn.timeframe timeframe).pricedAt
  | some price => spreadFromPrice price

/-- The snapshot of a frame of candles; none when its freshness is refused while only the cache is
read. -/
def snapshotOf (timeframe : String) (candles : List Candle) :
    Except Exn (Option TimeframeSnapshot) := do
  let answers := turn.timeframe timeframe
  let smc ← answers.smc
  let indicators ← answers.indicators
  match buildSnapshotFreshness turn.instrument timeframe candles answers.freshness with
  | .error e => if e.isRuntimeError && side.cacheOnly then .ok none else .error e
  | .ok freshness =>
      let spread ← turn.snapshotSpread side store timeframe candles
      match candles.head?, candles.getLast? with
      | some first, some latest =>
          SnapshotFields.validate {
            instrument := turn.instrument
            timeframe
            lastCompletedCandle := latest.time
            computedAt := answers.computedAt
            candleRangeStart := first.time
            candleRangeEnd := latest.time
            indicators, smc, spread, freshness } |>.map some
      | _, _ => .error outOfBounds

/-- `_build_snapshot` before the snapshot is published. -/
def makeSnapshot (timeframe : String) : Except Exn (Option TimeframeSnapshot) := do
  match ← turn.readCandles side timeframe with
  | none => return none
  | some candles => turn.snapshotOf side store timeframe candles

/-- `_build_snapshot`. -/
def buildSnapshot (timeframe : String) : Except Exn (Option TimeframeSnapshot) × MarketStateStore :=
  match turn.makeSnapshot side store timeframe with
  | .error e => (.error e, store)
  | .ok none => (.ok none, store)
  | .ok (some snapshot) =>
      let (published, store) := store.publishSnapshot snapshot.toSnapshotFields
      (published.map some, store)

/-- The loop of `_scan_instrument` over the timeframes. -/
def buildSnapshots : MarketStateStore → List String → List (String × TimeframeSnapshot) →
    Except Exn (Option (List (String × TimeframeSnapshot))) × MarketStateStore
  | store, [], snapshots => (.ok (some snapshots), store)
  | store, timeframe :: timeframes, snapshots =>
      match turn.buildSnapshot side store timeframe with
      | (.error e, store) => (.error e, store)
      | (.ok none, store) => (.ok none, store)
      | (.ok (some snapshot), store) =>
          buildSnapshots store timeframes (snapshots ++ [(timeframe, snapshot)])

end ScanTurn

/-! ### One instrument -/

/-- What `_scan_instrument` returns. -/
structure ScanResult where
  snapshots : Option (List (String × TimeframeSnapshot))
  published : ℕ
  skippedReason : Option String
  forcedMarketFetch : Bool

namespace ScanTurn

variable (turn : ScanTurn) (overview : MarketHoursOverview) (force : Bool)

/-- What `_scan_instrument` asks before its first snapshot. -/
def marketSide : Except Exn MarketSide := do
  let _ ← turn.isEventBlackout
  let spec ← getInstrumentSpec turn.instrument
  let marketOpen ← overview.categoryStatus spec.category
  let currentPrice ← if marketOpen then turn.currentPrice.map some else pure none
  return { marketOpen, currentPrice, cacheOnly := !marketOpen && !force }

/-- `_scan_instrument`. -/
def scanInstrument (store : MarketStateStore) : Except Exn ScanResult × MarketStateStore :=
  match turn.marketSide overview force with
  | .error e => (.error e, store)
  | .ok side =>
      match turn.buildSnapshots side store scanTimeframes [] with
      | (.error e, store) => (.error e, store)
      | (.ok none, store) =>
          (.ok { snapshots := none, published := 0, skippedReason := some "market_closed_no_cache",
                 forcedMarketFetch := false }, store)
      | (.ok (some snapshots), store) =>
          match turn.filterEvents with
          | .error e => (.error e, store)
          | .ok () =>
              (.ok { snapshots := some snapshots, published := scanTimeframes.length,
                     skippedReason := none, forcedMarketFetch := force && !side.marketOpen }, store)

end ScanTurn

/-! ### The cycle -/

/-- What `_run_scan` accumulates. -/
structure ScanProgress where
  scanned : List String := []
  errors : List (String × Exn) := []
  skippedReasons : List String := []
  snapshotsPublished : ℕ := 0
  forcedMarketFetch : Bool := false
deriving DecidableEq, Repr

/-- What the outcome of one instrument adds. -/
def ScanProgress.add (progress : ScanProgress) (instrument : String) :
    Except Exn ScanResult → ScanProgress
  | .error e => { progress with errors := progress.errors ++ [(instrument, e)] }
  | .ok result =>
      match result.snapshots with
      | none =>
          { progress with
            skippedReasons := progress.skippedReasons ++ result.skippedReason.toList }
      | some _ =>
          { progress with
            scanned := progress.scanned ++ [instrument]
            snapshotsPublished := progress.snapshotsPublished + result.published
            forcedMarketFetch := progress.forcedMarketFetch || result.forcedMarketFetch }

/-- The reason of a cycle without scanned instruments and errors. -/
def ScanProgress.skippedReason (progress : ScanProgress) : Option String :=
  match progress.scanned, progress.errors, progress.skippedReasons with
  | [], [], reason :: reasons =>
      if reasons.all (· == reason) then some reason else some "mixed_skip_reasons"
  | _, _, _ => none

/-- The loop of `_run_scan` over the instruments. -/
def scanTurns (overview : MarketHoursOverview) (force : Bool) :
    ScanProgress → MarketStateStore → List ScanTurn → ScanProgress × MarketStateStore
  | progress, store, [] => (progress, store)
  | progress, store, turn :: turns =>
      let (outcome, store) := turn.scanInstrument overview force store
      scanTurns overview force (progress.add turn.instrument outcome) store turns

def ScanCycle.status (cycle : ScanCycle) (progress : ScanProgress) : ScanCycleStatus where
  runKind := cycle.runKind
  startedAt := cycle.startedAt
  completedAt := cycle.completedAt
  requestedInstruments := cycle.turns.map ScanTurn.instrument
  scannedInstruments := progress.scanned
  snapshotsPublished := progress.snapshotsPublished
  skippedReason := progress.skippedReason
  forcedMarketFetch := progress.forcedMarketFetch
  errors := progress.errors

/-- `_run_scan`. -/
def runScan (store : MarketStateStore) (cycle : ScanCycle) :
    Except Exn ScanCycleStatus × MarketStateStore :=
  match cycle.marketHours, cycle.refreshCalendar with
  | .error e, _ => (.error e, store)
  | .ok _, .error e => (.error e, store)
  | .ok overview, .ok () =>
      let (progress, store) := scanTurns overview cycle.force {} store cycle.turns
      let status := cycle.status progress
      (status.validateInstruments.map fun _ => status, store)

/-! ### Versions -/

namespace MarketStateStore

variable {store : MarketStateStore}

/-- The versions given out for these keys. -/
def versions (keys : Finset SnapshotKey) (store : MarketStateStore) : ℕ :=
  ∑ key ∈ keys, store.currentVersion key

theorem currentVersion_insertSnapshot (key key' : SnapshotKey) (version : ℕ)
    (stored : TimeframeSnapshot) : (store.insertSnapshot key version stored).currentVersion key' =
      if key' = key then version else store.currentVersion key' := by
  rw [currentVersion, insertSnapshot_snapshotVersions]
  split_ifs <;> rfl

theorem versions_insertSnapshot {keys : Finset SnapshotKey} {key : SnapshotKey} (hkey : key ∈ keys)
    {stored : TimeframeSnapshot} {version : ℕ} (hversion : version = store.currentVersion key + 1) :
    (store.insertSnapshot key version stored).versions keys = store.versions keys + 1 := by
  have hsum : ∀ key' ∈ keys, (store.insertSnapshot key version stored).currentVersion key' =
      store.currentVersion key' + if key' = key then 1 else 0 := by
    intro key' _
    rw [currentVersion_insertSnapshot]
    split_ifs with heq
    · rw [heq, hversion]
    · rfl
  rw [versions, Finset.sum_congr rfl hsum, Finset.sum_add_distrib, Finset.sum_ite_eq' keys key,
    if_pos hkey, versions]

theorem publishSnapshot_validated (store : MarketStateStore) (snapshot : TimeframeSnapshot) :
    ∃ stored : TimeframeSnapshot,
      stored.version = store.currentVersion (snapshot.instrument, snapshot.timeframe) + 1 ∧
      store.publishSnapshot snapshot.toSnapshotFields = (.ok stored,
        store.insertSnapshot (snapshot.instrument, snapshot.timeframe) stored.version stored) := by
  -- the contract does not look at the version
  have hcontract : { snapshot.toSnapshotFields with version :=
      (store.snapshotVersions (snapshot.instrument, snapshot.timeframe)).getD 0 + 1 }.validateContract =
      .ok () := snapshot.contract
  refine ⟨⟨_, hcontract⟩, rfl, ?_⟩
  rw [publishSnapshot, validate_of_contract hcontract]

end MarketStateStore

open MarketStateStore

/-! ### One snapshot adds one version -/

namespace ScanTurn

variable {turn : ScanTurn} {side : MarketSide} {store : MarketStateStore}

/-- The snapshot of a timeframe can be built. -/
def builds (turn : ScanTurn) (side : MarketSide) (store : MarketStateStore) (timeframe : String) :
    Bool :=
  match turn.makeSnapshot side store timeframe with
  | .ok (some _) => true
  | _ => false

/-- A snapshot is about the instrument and the timeframe it was built for. -/
theorem makeSnapshot_key {timeframe : String} {snapshot : TimeframeSnapshot}
    (h : turn.makeSnapshot side store timeframe = .ok (some snapshot)) :
    (snapshot.instrument, snapshot.timeframe) = (turn.instrument, timeframe) := by
  unfold makeSnapshot at h
  obtain ⟨found, -, h⟩ := bind_eq_ok.mp h
  cases found with
  | none => cases Except.ok.inj h
  | some candles =>
      dsimp only [snapshotOf] at h
      obtain ⟨smc, -, h⟩ := bind_eq_ok.mp h
      obtain ⟨indicators, -, h⟩ := bind_eq_ok.mp h
      split at h
      · split at h
        · cases Except.ok.inj h
        · cases h
      · obtain ⟨spread, -, h⟩ := bind_eq_ok.mp h
        split at h
        · obtain ⟨snapshot', hvalid, h⟩ := map_eq_ok.mp h
          obtain rfl := Option.some.inj h
          rw [validate_ok hvalid]
        · cases h

/-- The store matters for the spread of its own key only. -/
theorem makeSnapshot_congr {store' : MarketStateStore} {timeframe : String}
    (h : store.getSnapshot turn.instrument timeframe = store'.getSnapshot turn.instrument timeframe) :
    turn.makeSnapshot side store timeframe = turn.makeSnapshot side store' timeframe := by
  simp only [makeSnapshot, snapshotOf, snapshotSpread, closedMarketSpreadContext, h]

theorem builds_congr {store' : MarketStateStore} {timeframe : String}
    (h : store.getSnapshot turn.instrument timeframe = store'.getSnapshot turn.instrument timeframe) :
    turn.builds side store timeframe = turn.builds side store' timeframe := by
  rw [builds, builds, makeSnapshot_congr h]

/-- **What one timeframe can do**: leave the store without a snapshot, or publish one. -/
theorem buildSnapshot_cases (turn : ScanTurn) (side : MarketSide) (store : MarketStateStore)
    (timeframe : String) :
    (turn.builds side store timeframe = false ∧
      ((∃ e, turn.buildSnapshot side store timeframe = (.error e, store)) ∨
        turn.buildSnapshot side store timeframe = (.ok none, store))) ∨
    (turn.builds side store timeframe = true ∧ ∃ stored : TimeframeSnapshot,
      stored.version = store.currentVersion (turn.instrument, timeframe) + 1 ∧
      turn.buildSnapshot side store timeframe = (.ok (some stored),
        store.insertSnapshot (turn.instrument, timeframe) stored.version stored)) := by
  rw [buildSnapshot, builds]
  cases hmake : turn.makeSnapshot side store timeframe with
  | error e => exact Or.inl ⟨rfl, Or.inl ⟨e, rfl⟩⟩
  | ok made =>
      cases made with
      | none => exact Or.inl ⟨rfl, Or.inr rfl⟩
      | some snapshot =>
          obtain ⟨stored, hversion, hpublish⟩ := publishSnapshot_validated store snapshot
          rw [makeSnapshot_key hmake] at hversion hpublish
          exact Or.inr ⟨rfl, stored, hversion, by simp only [hpublish]; rfl⟩

/-! ### The loop over the timeframes -/

/-- The snapshots of a turn before the first one that cannot be built. -/
def buildCount (turn : ScanTurn) (side : MarketSide) (store : MarketStateStore)
    (timeframes : List String) : ℕ :=
  (timeframes.takeWhile (turn.builds side store)).length

/-- A published snapshot does not matter for the other timeframes. -/
theorem builds_insertSnapshot {timeframe timeframe' : String} (hne : timeframe' ≠ timeframe)
    (version : ℕ) (stored : TimeframeSnapshot) :
    turn.builds side (store.insertSnapshot (turn.instrument, timeframe) version stored) timeframe' =
      turn.builds side store timeframe' := by
  refine builds_congr ?_
  rw [getSnapshot, insertSnapshot_latestSnapshots, if_neg fun h => hne (Prod.mk.inj h).2, getSnapshot]

theorem takeWhile_builds_insertSnapshot {timeframe : String} {timeframes : List String}
    (hnotin : timeframe ∉ timeframes) (version : ℕ) (stored : TimeframeSnapshot) :
    timeframes.takeWhile
        (turn.builds side (store.insertSnapshot (turn.instrument, timeframe) version stored)) =
      timeframes.takeWhile (turn.builds side store) := by
  induction timeframes with
  | nil => rfl
  | cons timeframe' timeframes ih =>
      rw [List.mem_cons, not_or] at hnotin
      rw [List.takeWhile_cons, List.takeWhile_cons, ih hnotin.2,
        builds_insertSnapshot (Ne.symm hnotin.1)]

/-- **The loop publishes what it can build**: one version for each timeframe before the first one that
fails, and it comes to its end if none does. -/
theorem buildSnapshots_spec (turn : ScanTurn) (side : MarketSide) (store : MarketStateStore)
    {keys : Finset SnapshotKey} {timeframes : List String}
    (hkeys : ∀ timeframe ∈ timeframes, (turn.instrument, timeframe) ∈ keys)
    (hnodup : timeframes.Nodup) (snapshots : List (String × TimeframeSnapshot)) :
    (turn.buildSnapshots side store timeframes snapshots).2.versions keys =
        store.versions keys + turn.buildCount side store timeframes ∧
      ((∃ made, (turn.buildSnapshots side store timeframes snapshots).1 = .ok (some made)) ↔
        turn.buildCount side store timeframes = timeframes.length) := by
  induction timeframes generalizing store snapshots with
  | nil => exact ⟨rfl, fun _ => rfl, fun _ => ⟨snapshots, rfl⟩⟩
  | cons timeframe timeframes ih =>
      rw [List.forall_mem_cons] at hkeys
      rw [List.nodup_cons] at hnodup
      rcases turn.buildSnapshot_cases side store timeframe with
        ⟨hbuilds, ⟨e, hfails⟩ | hfails⟩ | ⟨hbuilds, stored, hversion, hok⟩
      · simp [buildSnapshots, hfails, buildCount, hbuilds]
      · simp [buildSnapshots, hfails, buildCount, hbuilds]
      · obtain ⟨hversions, hmade⟩ := @ih
          (store.insertSnapshot (turn.instrument, timeframe) stored.version stored) hkeys.2 hnodup.2
          (snapshots ++ [(timeframe, stored)])
        have hcount : turn.buildCount side store (timeframe :: timeframes) =
            turn.buildCount side (store.insertSnapshot (turn.instrument, timeframe) stored.version
              stored) timeframes + 1 := by
          rw [buildCount, buildCount, takeWhile_builds_insertSnapshot hnodup.1,
            List.takeWhile_cons_of_pos hbuilds, List.length_cons]
        simp only [buildSnapshots, hok]
        rw [hversions, versions_insertSnapshot hkeys.1 hversion, hcount, hmade, List.length_cons]
        omega

theorem currentVersion_buildSnapshots (turn : ScanTurn) (side : MarketSide)
    (store : MarketStateStore) {key : SnapshotKey} {timeframes : List String}
    (hkey : ∀ timeframe ∈ timeframes, key ≠ (turn.instrument, timeframe))
    (snapshots : List (String × TimeframeSnapshot)) :
    (turn.buildSnapshots side store timeframes snapshots).2.currentVersion key =
      store.currentVersion key := by
  induction timeframes generalizing store snapshots with
  | nil => rfl
  | cons timeframe timeframes ih =>
      rw [List.forall_mem_cons] at hkey
      rcases turn.buildSnapshot_cases side store timeframe with
        ⟨-, ⟨e, hfails⟩ | hfails⟩ | ⟨-, stored, -, hok⟩
      · simp only [buildSnapshots, hfails]
      · simp only [buildSnapshots, hfails]
      · simp only [buildSnapshots, hok]
        rw [ih _ hkey.2, currentVersion_insertSnapshot, if_neg hkey.1]

/-! ### One instrument -/

/-- A turn that publishes its first snapshot comes to its end. -/
def Complete (turn : ScanTurn) (overview : MarketHoursOverview) (force : Bool)
    (store : MarketStateStore) : Prop :=
  ∀ side, turn.marketSide overview force = .ok side → turn.builds side store "M15" = true →
    (∀ timeframe ∈ scanTimeframes, turn.builds side store timeframe = true) ∧
      turn.filterEvents = .ok ()

theorem buildCount_eq_zero_iff : turn.buildCount side store scanTimeframes = 0 ↔
    turn.builds side store "M15" = false := by
  rw [buildCount, scanTimeframes, List.takeWhile_cons]
  cases turn.builds side store "M15" <;> simp

theorem buildCount_eq_length_iff {timeframes : List String} :
    turn.buildCount side store timeframes = timeframes.length ↔
      ∀ timeframe ∈ timeframes, turn.builds side store timeframe = true := by
  rw [buildCount, ← List.takeWhile_eq_self_iff]
  exact ⟨(List.takeWhile_prefix _).eq_of_length, congrArg List.length⟩

end ScanTurn

/-- What the outcome of one instrument adds to the count. -/
def publishedBy : Except Exn ScanResult → ℕ
  | .ok { snapshots := some _, published, .. } => published
  | _ => 0

theorem ScanProgress.add_snapshotsPublished (progress : ScanProgress) (instrument : String)
    (outcome : Except Exn ScanResult) : (progress.add instrument outcome).snapshotsPublished =
      progress.snapshotsPublished + publishedBy outcome := by
  rcases outcome with e | ⟨_ | snapshots, published, reason, forced⟩ <;> rfl

namespace ScanTurn

variable {turn : ScanTurn} {overview : MarketHoursOverview} {force : Bool} {store : MarketStateStore}
  {keys : Finset SnapshotKey}

/-- A turn is complete when it publishes nothing, or everything and the events are filtered. -/
theorem complete_iff {side : MarketSide} (hside : turn.marketSide overview force = .ok side) :
    turn.Complete overview force store ↔ turn.buildCount side store scanTimeframes = 0 ∨
      turn.buildCount side store scanTimeframes = scanTimeframes.length ∧
        turn.filterEvents = .ok () := by
  rw [buildCount_eq_zero_iff, buildCount_eq_length_iff]
  constructor
  · intro hcomplete
    cases hfirst : turn.builds side store "M15" with
    | false => exact Or.inl rfl
    | true => exact Or.inr (hcomplete side hside hfirst)
  · intro h side' hside' hfirst
    obtain rfl := Except.ok.inj (hside.symm.trans hside')
    rcases h with hnone | hall
    · rw [hnone] at hfirst
      cases hfirst
    · exact hall

/-- **An instrument counts at most what it publishes**, and all of it exactly when it does not stop
after its first snapshot. -/
theorem scanInstrument_spec (turn : ScanTurn) (overview : MarketHoursOverview) (force : Bool)
    (store : MarketStateStore)
    (hkeys : ∀ timeframe ∈ scanTimeframes, (turn.instrument, timeframe) ∈ keys) :
    ∃ added, (turn.scanInstrument overview force store).2.versions keys =
        store.versions keys + added ∧
      publishedBy (turn.scanInstrument overview force store).1 ≤ added ∧
      (publishedBy (turn.scanInstrument overview force store).1 = added ↔
        turn.Complete overview force store) := by
  rw [scanInstrument]
  cases hside : turn.marketSide overview force with
  | error e =>
      refine ⟨0, rfl, le_rfl, fun _ side hok => ?_, fun _ => rfl⟩
      rw [hside] at hok
      cases hok
  | ok side =>
      obtain ⟨hversions, hmade⟩ := turn.buildSnapshots_spec side store hkeys (by decide) []
      refine ⟨turn.buildCount side store scanTimeframes, ?_⟩
      rw [complete_iff hside]
      dsimp only
      have hstopped (hnone : ∀ made, (turn.buildSnapshots side store scanTimeframes []).1 ≠
          .ok (some made)) : turn.buildCount side store scanTimeframes ≠ scanTimeframes.length :=
        fun hall => (hmade.mpr hall).elim hnone
      generalize turn.buildSnapshots side store scanTimeframes [] = run at hversions hmade hstopped ⊢
      obtain ⟨e | _ | snapshots, after⟩ := run
      · have hcount := hstopped fun made h => (nomatch h)
        refine ⟨hversions, Nat.zero_le _, ?_⟩
        simp only [publishedBy, hcount, false_and, or_false, eq_comm]
      · have hcount := hstopped fun made h => (nomatch h)
        refine ⟨hversions, Nat.zero_le _, ?_⟩
        simp only [publishedBy, hcount, false_and, or_false, eq_comm]
      · have hall := hmade.mp ⟨snapshots, rfl⟩
        cases hfilter : turn.filterEvents with
        | error e =>
            refine ⟨hversions, Nat.zero_le _, ?_⟩
            rw [hall]
            simp [publishedBy, scanTimeframes]
        | ok u =>
            refine ⟨hversions, hall.ge, ?_⟩
            rw [hall]
            simp [publishedBy]

theorem currentVersion_scanInstrument {key : SnapshotKey}
    (hkey : ∀ timeframe ∈ scanTimeframes, key ≠ (turn.instrument, timeframe)) :
    (turn.scanInstrument overview force store).2.currentVersion key = store.currentVersion key := by
  rw [scanInstrument]
  cases turn.marketSide overview force with
  | error e => rfl
  | ok side =>
      have hframe := turn.currentVersion_buildSnapshots side store hkey []
      dsimp only
      generalize turn.buildSnapshots side store scanTimeframes [] = run at hframe ⊢
      obtain ⟨e | _ | snapshots, after⟩ := run
      · exact hframe
      · exact hframe
      · cases turn.filterEvents with
        | error e => exact hframe
        | ok u => exact hframe

end ScanTurn

/-! ### The cycle -/

/-- Every turn is complete, each with the store as it finds it. -/
def CompleteTurns (overview : MarketHoursOverview) (force : Bool) :
    MarketStateStore → List ScanTurn → Prop
  | _, [] => True
  | store, turn :: turns => turn.Complete overview force store ∧
      CompleteTurns overview force (turn.scanInstrument overview force store).2 turns

def ScanCycle.Complete (cycle : ScanCycle) (store : MarketStateStore) : Prop :=
  ∀ overview, cycle.marketHours = .ok overview →
    CompleteTurns overview cycle.force store cycle.turns

def ScanCycle.keys (cycle : ScanCycle) : Finset SnapshotKey :=
  (cycle.turns.map ScanTurn.instrument).toFinset ×ˢ scanTimeframes.toFinset

section cycle

variable {overview : MarketHoursOverview} {force : Bool} {store : MarketStateStore}
  {keys : Finset SnapshotKey} {turns : List ScanTurn}

/-- Over a list of turns the count never exceeds the versions, and meets them exactly when every turn
is complete. -/
theorem scanTurns_spec (overview : MarketHoursOverview) (force : Bool) (store : MarketStateStore)
    (hkeys : ∀ turn ∈ turns, ∀ timeframe ∈ scanTimeframes, (turn.instrument, timeframe) ∈ keys)
    (progress : ScanProgress) :
    let run := scanTurns overview force progress store turns
    store.versions keys + run.1.snapshotsPublished ≤
        run.2.versions keys + progress.snapshotsPublished ∧
      (store.versions keys + run.1.snapshotsPublished =
          run.2.versions keys + progress.snapshotsPublished ↔
        CompleteTurns overview force store turns) := by
  induction turns generalizing store progress with
  | nil => exact ⟨le_rfl, fun _ => trivial, fun _ => rfl⟩
  | cons turn turns ih =>
      rw [List.forall_mem_cons] at hkeys
      obtain ⟨added, hadded, hle, hcomplete⟩ :=
        turn.scanInstrument_spec overview force store hkeys.1
      obtain ⟨hrest, hrestComplete⟩ := @ih (turn.scanInstrument overview force store).2 hkeys.2
        (progress.add turn.instrument (turn.scanInstrument overview force store).1)
      rw [ScanProgress.add_snapshotsPublished] at hrest hrestComplete
      rw [CompleteTurns, ← hcomplete, ← hrestComplete]
      simp only [scanTurns]
      omega

theorem currentVersion_scanTurns {key : SnapshotKey}
    (hkey : ∀ turn ∈ turns, ∀ timeframe ∈ scanTimeframes, key ≠ (turn.instrument, timeframe))
    (progress : ScanProgress) :
    (scanTurns overview force progress store turns).2.currentVersion key =
      store.currentVersion key := by
  induction turns generalizing store progress with
  | nil => rfl
  | cons turn turns ih =>
      rw [List.forall_mem_cons] at hkey
      simp only [scanTurns]
      rw [ih hkey.2, ScanTurn.currentVersion_scanInstrument hkey.1]

end cycle

/-- **The count of a scan cycle is right when no instrument stops half way**: a cycle adds versions to
its own keys only, and it reports as many as it adds exactly when every turn is complete. -/
theorem snapshotsPublished_eq_iff (store : MarketStateStore) (cycle : ScanCycle)
    (status : ScanCycleStatus) (h : (runScan store cycle).1 = .ok status) :
    (∀ key ∉ cycle.keys, (runScan store cycle).2.currentVersion key = store.currentVersion key) ∧
      (store.versions cycle.keys + status.snapshotsPublished =
          (runScan store cycle).2.versions cycle.keys ↔ cycle.Complete store) := by
  unfold runScan at h ⊢
  rw [ScanCycle.Complete]
  cases hhours : cycle.marketHours with
  | error e =>
      simp only [hhours] at h
      cases h
  | ok overview =>
      cases hcalendar : cycle.refreshCalendar with
      | error e =>
          simp only [hhours, hcalendar] at h
          cases h
      | ok u =>
          simp only [hhours, hcalendar] at h ⊢
          obtain ⟨-, -, rfl⟩ := map_eq_ok.mp h
          have hkeys : ∀ turn ∈ cycle.turns, ∀ timeframe ∈ scanTimeframes,
              (turn.instrument, timeframe) ∈ cycle.keys := by
            intro turn hturn timeframe htimeframe
            rw [ScanCycle.keys, Finset.mem_product, List.mem_toFinset, List.mem_toFinset]
            exact ⟨List.mem_map_of_mem hturn, htimeframe⟩
          obtain ⟨-, hiff⟩ := scanTurns_spec overview cycle.force store hkeys {}
          refine ⟨fun key hkey => ?_, ?_⟩
          · refine currentVersion_scanTurns (fun turn hturn timeframe htimeframe heq => ?_) _
            exact hkey (heq ▸ hkeys turn hturn timeframe htimeframe)
          · refine hiff.trans ⟨fun hall overview' hoverview => ?_, fun hall => hall overview rfl⟩
            obtain rfl := Except.ok.inj hoverview
            exact hall

/-- A closed market in which these timeframes of EUR_USD are cached. -/
def closedMarketCycle (cached : List String) : ScanCycle where
  runKind := .full
  force := false
  startedAt := hour
  completedAt := 3 * hour
  marketHours := .ok ⟨false, false, false⟩
  refreshCalendar := .ok ()
  turns := [{
    instrument := "EUR_USD"
    isEventBlackout := .ok false
    currentPrice := .error (.brokerError "closed")
    timeframe := fun timeframe => {
      cachedCandles := .ok (if timeframe ∈ cached then
        some [⟨0, 11 / 10, 11 / 10, 11 / 10, 11 / 10, 1⟩] else none)
      candles := .error (.brokerError "closed")
      smc := .ok .null
      indicators := .ok .null
      freshness := .ok {
        instrument := "EUR_USD"
        timeframe
        lastCompletedCandle := some 0
        fetchedAt := some hour
        source := some "oanda_api"
        candleCount := 1
        isFresh := true
        staleness := some 0 }
      pricedAt := hour
      computedAt := 2 * hour }
    filterEvents := .ok () }]

/-- With the first timeframe cached and the second one not, a version is added and none reported. -/
theorem snapshotsPublished_misses_first :
    ¬ ∀ status, (runScan (empty 5) (closedMarketCycle ["M15"])).1 = .ok status →
      (empty 5).versions (closedMarketCycle ["M15"]).keys + status.snapshotsPublished =
        (runScan (empty 5) (closedMarketCycle ["M15"])).2.versions (closedMarketCycle ["M15"]).keys := by
  intro hall
  have hreported : (runScan (empty 5) (closedMarketCycle ["M15"])).1.map
      ScanCycleStatus.snapshotsPublished = .ok 0 := by decide +kernel
  obtain ⟨status, hstatus, hzero⟩ := map_eq_ok.mp hreported
  have hcount := hall status hstatus
  rw [hzero] at hcount
  exact absurd hcount (by decide +kernel)

/-- With all timeframes cached, all four versions are reported. -/
theorem snapshotsPublished_eq_four :
    ∃ status, (runScan (empty 5) (closedMarketCycle scanTimeframes)).1 = .ok status ∧
      status.snapshotsPublished = 4 ∧ (closedMarketCycle scanTimeframes).Complete (empty 5) := by
  have hreported : (runScan (empty 5) (closedMarketCycle scanTimeframes)).1.map
      ScanCycleStatus.snapshotsPublished = .ok 4 := by decide +kernel
  obtain ⟨status, hstatus, hfour⟩ := map_eq_ok.mp hreported
  refine ⟨status, hstatus, hfour, ?_⟩
  refine (snapshotsPublished_eq_iff (empty 5) (closedMarketCycle scanTimeframes) status hstatus).2.mp ?_
  rw [hfour]
  decide +kernel

end OandaV3
