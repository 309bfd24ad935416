import Mathlib.Logic.Function.Basic
import OandaV3.CandlePolicy
import OandaV3.RetainedLog

/-! # The market state store

`core/market_state.py`: numbered snapshots per instrument and timeframe, the last of them kept in a
history, and per instrument an order-block tracker that pins snapshots by their numbers.  Every
operation runs under the lock of the store, so an interleaving is a list of publications.

`publish_cases` says what a publication can do: raise and leave the store, or insert one version. -/

namespace OandaV3

/-! ### Contracts of the published models -/

/-- `InstrumentSpec`. -/
structure InstrumentSpec where
  symbol : String
  pipSize : ℚ
  category : String
deriving DecidableEq, Repr

/-- `INSTRUMENT_REGISTRY`, in the order of `SCAN_INSTRUMENTS`. -/
def instrumentRegistry : List InstrumentSpec :=
  [⟨"XAU_USD", 1 / 100, "metal"⟩, ⟨"SPX500_USD", 1, "index_cfd"⟩, ⟨"XAG_USD", 1 / 10000, "metal"⟩,
    ⟨"EUR_USD", 1 / 10000, "major_fx"⟩, ⟨"GBP_USD", 1 / 10000, "major_fx"⟩,
    ⟨"USD_JPY", 1 / 100, "major_fx"⟩, ⟨"AUD_USD", 1 / 10000, "major_fx"⟩,
    ⟨"USD_CAD", 1 / 10000, "major_fx"⟩, ⟨"USD_CHF", 1 / 10000, "major_fx"⟩,
    ⟨"NZD_USD", 1 / 10000, "major_fx"⟩, ⟨"EUR_GBP", 1 / 10000, "minor_fx"⟩,
    ⟨"EUR_JPY", 1 / 100, "minor_fx"⟩, ⟨"GBP_JPY", 1 / 100, "minor_fx"⟩,
    ⟨"BCO_USD", 1 / 100, "energy_cfd"⟩, ⟨"WTICO_USD", 1 / 100, "energy_cfd"⟩,
    ⟨"JP225_USD", 1, "index_cfd"⟩]

/-- `SCAN_INSTRUMENTS`. -/
def scanInstruments : List String := instrumentRegistry.map InstrumentSpec.symbol

/-- `get_instrument_spec`. -/
def getInstrumentSpec (instrument : String) : Except Exn InstrumentSpec :=
  match instrumentRegistry.find? (·.symbol == instrument) with
  | some spec => .ok spec
  | none => .error (.keyError ("Unsupported instrument '" ++ instrument ++
      "'. Supported instruments: " ++ ", ".intercalate scanInstruments ++ "."))

def require (check : Bool) (message : String) : Except Exn Unit :=
  if check then .ok () else .error (.valueError message)

/-- `SnapshotFreshness`; the staleness is in microseconds. -/
structure SnapshotFreshness where
  instrument : String
  timeframe : String
  lastCompletedCandle : Option ℤ := none
  fetchedAt : Option ℤ := none
  source : Option String := none
  candleCount : ℕ
  isFresh : Bool
  staleness : Option ℤ := none
deriving DecidableEq, Repr

/-- The bound of the staleness of a `SnapshotFreshness`, and its `validate_contract`. -/
def SnapshotFreshness.validateContract (f : SnapshotFreshness) : Except Exn Unit := do
  require (f.staleness.all fun staleness => decide (0 ≤ staleness))
    "staleness_seconds must be greater than or equal to 0."
  let _ ← getInstrumentSpec f.instrument
  let _ ← getTimeframeDelta f.timeframe
  require (f.lastCompletedCandle.isSome == f.fetchedAt.isSome)
    "last_completed_candle and fetched_at must either both be set or both be None."
  if f.lastCompletedCandle.isNone then
    require (f.source.isNone && f.candleCount == 0)
      "Empty freshness state cannot declare a source or non-zero candle count."
    require (!f.isFresh && f.staleness.isNone)
      "Empty freshness state must be stale with no staleness_seconds value."
  else
    require f.source.isSome "Freshness with candle history must declare a source."

/-- `SpreadResult`. -/
structure SpreadResult where
  instrument : String
  bid : ℚ
  ask : ℚ
  rawSpread : ℚ
  spreadPips : ℚ
  pipSize : ℚ
  fetchedAt : ℤ
  source : Option String := none
  fallbackNote : Option String := none
deriving DecidableEq, Repr

/-- The bounds of the fields of `SpreadResult`, and its `validate_contract`. -/
def SpreadResult.validateContract (s : SpreadResult) : Except Exn Unit := do
  require (decide (0 < s.bid)) "bid must be greater than 0."
  require (decide (0 < s.ask)) "ask must be greater than 0."
  require (decide (0 ≤ s.rawSpread)) "raw_spread must be greater than or equal to 0."
  require (decide (0 ≤ s.spreadPips)) "spread_pips must be greater than or equal to 0."
  require (decide (0 < s.pipSize)) "pip_size must be greater than 0."
  let spec ← getInstrumentSpec s.instrument
  require (decide (s.bid ≤ s.ask)) "ask must be greater than or equal to bid."
  require (decide (|s.rawSpread - (s.ask - s.bid)| ≤ max (spec.pipSize / 1000) (1 / 1000000000000)))
    "raw_spread must match ask - bid."
  require (s.source.all (!Text.isBlank ·)) "source must be a non-empty string when provided."
  require (s.fallbackNote.all (!Text.isBlank ·))
    "fallback_note must be a non-empty string when provided."

/-- The fields of `TimeframeSnapshot`; `smc` is what the detector made of structure, zones and
liquidity. -/
structure SnapshotFields where
  instrument : String
  timeframe : String
  version : ℕ := 0
  lastCompletedCandle : ℤ
  computedAt : ℤ
  candleRangeStart : ℤ
  candleRangeEnd : ℤ
  indicators : Json
  smc : Json
  spread : SpreadResult
  freshness : SnapshotFreshness
deriving DecidableEq

/-- `TimeframeSnapshot.validate_contract`, after the contracts of its parts. -/
def SnapshotFields.validateContract (s : SnapshotFields) : Except Exn Unit := do
  s.spread.validateContract
  s.freshness.validateContract
  let _ ← getInstrumentSpec s.instrument
  let _ ← getTimeframeDelta s.timeframe
  require (s.lastCompletedCandle == s.candleRangeEnd)
    "last_completed_candle must match candle_range_end."
  require (decide (s.candleRangeStart ≤ s.candleRangeEnd))
    "candle_range_start must be less than or equal to candle_range_end."
  require (decide (s.lastCompletedCandle ≤ s.computedAt))
    "computed_at cannot be earlier than last_completed_candle."
  require (s.freshness.instrument == s.instrument)
    "Snapshot freshness instrument must match the snapshot instrument."
  require (s.freshness.timeframe == s.timeframe)
    "Snapshot freshness timeframe must match the snapshot timeframe."
  require (s.freshness.lastCompletedCandle == some s.lastCompletedCandle)
    "Snapshot freshness last_completed_candle must match the snapshot boundary."
  require (s.spread.instrument == s.instrument)
    "SpreadResult instrument must match the snapshot instrument."

/-- A validated `TimeframeSnapshot`. -/
structure TimeframeSnapshot extends SnapshotFields where
  contract : toSnapshotFields.validateContract = .ok ()
deriving DecidableEq

/-- `TimeframeSnapshot.model_validate`. -/
def SnapshotFields.validate (s : SnapshotFields) : Except Exn TimeframeSnapshot :=
  match h : s.validateContract with
  | .ok () => .ok ⟨s, h⟩
  | .error e => .error e

/-- `OrderBlockRecord`. -/
structure OrderBlockRecord where
  id : String
  instrument : String
  timeframe : String
  bullish : Bool
  upperPrice : ℚ
  lowerPrice : ℚ
  createdAt : ℤ
  active : Bool
  mitigatedAt : Option ℤ
  sourceSnapshotVersion : ℕ
  lastAnalyzedClose : ℚ
deriving DecidableEq, Repr

/-- `OrderBlockRecord.validate_contract`, after its positive version. -/
def OrderBlockRecord.validateContract (r : OrderBlockRecord) : Except Exn Unit := do
  require (decide (0 < r.sourceSnapshotVersion)) "source_snapshot_version must be greater than 0."
  let _ ← getInstrumentSpec r.instrument
  let _ ← getTimeframeDelta r.timeframe
  require (decide (r.lowerPrice ≤ r.upperPrice))
    "upper_price must be greater than or equal to lower_price."
  require (!r.active || r.mitigatedAt.isNone) "Active order blocks must not define mitigated_at."
  require (r.active || r.mitigatedAt.isSome) "Mitigated order blocks must define mitigated_at."

abbrev PinnedVersions := Table (Prod.fst : String × ℕ → String)

/-- The fields of `InstrumentOrderBlockTracker`. -/
structure TrackerFields where
  instrument : String
  trackerVersion : ℕ := 0
  createdAt : ℤ
  records : List OrderBlockRecord := []
  sourceSnapshotVersions : PinnedVersions
deriving DecidableEq

/-- The checks of one record of a tracker; `seen` are the ids before it. -/
def TrackerFields.checkRecord (t : TrackerFields) (seen : List String) (record : OrderBlockRecord) :
    Except Exn Unit := do
  require (record.instrument == t.instrument) "Tracker records must match the tracker instrument."
  require (!seen.contains record.id) "Tracker records must have unique ids."
  match t.sourceSnapshotVersions.find record.timeframe with
  | none =>
      throw (.valueError "Every tracker record timeframe must appear in source_snapshot_versions.")
  | some (_, expected) =>
      require (record.sourceSnapshotVersion == expected)
        "Tracker record snapshot versions must match source_snapshot_versions."

/-- The loop over the records. -/
def TrackerFields.checkRecords (t : TrackerFields) : List String → List OrderBlockRecord →
    Except Exn Unit
  | _, [] => .ok ()
  | seen, record :: records => do
      t.checkRecord seen record
      t.checkRecords (record.id :: seen) records

/-- `InstrumentOrderBlockTracker.validate_contract`, after the contracts of the records. -/
def TrackerFields.validateContract (t : TrackerFields) : Except Exn Unit := do
  t.records.forM OrderBlockRecord.validateContract
  let _ ← getInstrumentSpec t.instrument
  t.sourceSnapshotVersions.docs.forM fun (timeframe, version) => do
    let _ ← getTimeframeDelta timeframe
    require (decide (0 < version)) "source_snapshot_versions must contain positive integers."
  t.checkRecords [] t.records

/-- A validated `InstrumentOrderBlockTracker`. -/
structure InstrumentOrderBlockTracker extends TrackerFields where
  contract : toTrackerFields.validateContract = .ok ()
deriving DecidableEq

/-- `InstrumentOrderBlockTracker.model_validate`. -/
def TrackerFields.validate (t : TrackerFields) : Except Exn InstrumentOrderBlockTracker :=
  match h : t.validateContract with
  | .ok () => .ok ⟨t, h⟩
  | .error e => .error e

/-! ### The store -/

/-- `SnapshotKey`: instrument and timeframe. -/
abbrev SnapshotKey := String × String

/-- `MarketStateStore`; an ordered history lists its versions as they were inserted. -/
structure MarketStateStore where
  snapshotHistoryRetention : ℕ
  latestSnapshots : SnapshotKey → Option TimeframeSnapshot
  snapshotHistory : SnapshotKey → Option (List (ℕ × TimeframeSnapshot))
  snapshotVersions : SnapshotKey → Option ℕ
  orderBlockTrackers : String → Option InstrumentOrderBlockTracker
  orderBlockTrackerVersions : String → Option ℕ

namespace MarketStateStore

/-- The store without publications. -/
def empty (retention : ℕ) : MarketStateStore where
  snapshotHistoryRetention := retention
  latestSnapshots _ := none
  snapshotHistory _ := none
  snapshotVersions _ := none
  orderBlockTrackers _ := none
  orderBlockTrackerVersions _ := none

/-- `MarketStateStore.__init__`. -/
def new (retention : ℤ) : Except Exn MarketStateStore :=
  if retention < 0 then
    .error (.valueError "snapshot_history_retention must be greater than or equal to zero.")
  else .ok (empty retention.toNat)

variable (store : MarketStateStore)

/-- `get_snapshot`. -/
def getSnapshot (instrument timeframe : String) : Option TimeframeSnapshot :=
  store.latestSnapshots (instrument, timeframe)

/-- `get_snapshot_version`. -/
def getSnapshotVersion (instrument timeframe : String) (version : ℕ) : Option TimeframeSnapshot := do
  let history ← store.snapshotHistory (instrument, timeframe)
  let (_, snapshot) ← DocTable.get Prod.fst version history
  return snapshot

/-- `get_order_block_tracker`. -/
def getOrderBlockTracker (instrument : String) : Option InstrumentOrderBlockTracker :=
  store.orderBlockTrackers instrument

/-- Insert a version into the history of its key, and evict the oldest ones. -/
def insertSnapshot (key : SnapshotKey) (version : ℕ) (stored : TimeframeSnapshot) :
    MarketStateStore :=
  let history := DocTable.put Prod.fst (version, stored) ((store.snapshotHistory key).getD [])
  let maxVersions := store.snapshotHistoryRetention + 1
  { store with
    latestSnapshots := Function.update store.latestSnapshots key (some stored)
    snapshotHistory := Function.update store.snapshotHistory key
      (some (RetainedLog.evict maxVersions history))
    snapshotVersions := Function.update store.snapshotVersions key (some version) }

/-- `publish_snapshot`. -/
def publishSnapshot (snapshot : SnapshotFields) : Except Exn TimeframeSnapshot × MarketStateStore :=
  let key := (snapshot.instrument, snapshot.timeframe)
  let nextVersion := (store.snapshotVersions key).getD 0 + 1
  match { snapshot with version := nextVersion }.validate with
  | .error e => (.error e, store)
  | .ok stored => (.ok stored, store.insertSnapshot key nextVersion stored)

/-- The first pinned version that is not in its history, as the error it raises. -/
def missingPin (instrument : String) (pins : PinnedVersions) : Option Exn :=
  (pins.docs.find? fun (timeframe, version) =>
      (store.getSnapshotVersion instrument timeframe version).isNone).map
    fun (timeframe, version) => .keyError ("Missing pinned snapshot version " ++ instrument ++ " " ++
      timeframe ++ " v" ++ toString version ++ ".")

/-- Replace the tracker of an instrument. -/
def insertTracker (instrument : String) (version : ℕ) (stored : InstrumentOrderBlockTracker) :
    MarketStateStore :=
  { store with
    orderBlockTrackers := Function.update store.orderBlockTrackers instrument (some stored)
    orderBlockTrackerVersions :=
      Function.update store.orderBlockTrackerVersions instrument (some version) }

/-- `_publish_order_block_tracker_locked`. -/
def publishOrderBlockTracker (tracker : TrackerFields) :
    Except Exn InstrumentOrderBlockTracker × MarketStateStore :=
  match store.missingPin tracker.instrument tracker.sourceSnapshotVersions with
  | some e => (.error e, store)
  | none =>
      let nextVersion := (store.orderBlockTrackerVersions tracker.instrument).getD 0 + 1
      match { tracker with trackerVersion := nextVersion }.validate with
      | .error e => (.error e, store)
      | .ok stored => (.ok stored, store.insertTracker tracker.instrument nextVersion stored)

/-- `assemble_order_block_tracker`, at an instant. -/
def assembleOrderBlockTracker (instrument : String) (records : List OrderBlockRecord)
    (sourceSnapshotVersions : PinnedVersions) (nowUtc : ℤ) :
    Except Exn InstrumentOrderBlockTracker × MarketStateStore :=
  match store.missingPin instrument sourceSnapshotVersions with
  | some e => (.error e, store)
  | none =>
      let fields : TrackerFields := { instrument, createdAt := nowUtc, records, sourceSnapshotVersions }
      match fields.validate with
      | .error e => (.error e, store)
      | .ok tracker => store.publishOrderBlockTracker tracker.toTrackerFields

section inserted

variable (key key' : SnapshotKey) (instrument instrument' : String) (version : ℕ)
  (stored : TimeframeSnapshot) (tracker : InstrumentOrderBlockTracker)

@[simp] theorem insertSnapshot_latestSnapshots :
    (store.insertSnapshot key version stored).latestSnapshots key' =
      if key' = key then some stored else store.latestSnapshots key' :=
  Function.update_apply _ _ _ _

@[simp] theorem insertSnapshot_snapshotHistory :
    (store.insertSnapshot key version stored).snapshotHistory key' =
      if key' = key then
        some (RetainedLog.evict (store.snapshotHistoryRetention + 1)
          (DocTable.put Prod.fst (version, stored) ((store.snapshotHistory key).getD [])))
      else store.snapshotHistory key' :=
  Function.update_apply _ _ _ _

@[simp] theorem insertSnapshot_snapshotVersions :
    (store.insertSnapshot key version stored).snapshotVersions key' =
      if key' = key then some version else store.snapshotVersions key' :=
  Function.update_apply _ _ _ _

@[simp] theorem insertTracker_orderBlockTrackers :
    (store.insertTracker instrument version tracker).orderBlockTrackers instrument' =
      if instrument' = instrument then some tracker else store.orderBlockTrackers instrument' :=
  Function.update_apply _ _ _ _

@[simp] theorem insertTracker_orderBlockTrackerVersions :
    (store.insertTracker instrument version tracker).orderBlockTrackerVersions instrument' =
      if instrument' = instrument then some version
      else store.orderBlockTrackerVersions instrument' :=
  Function.update_apply _ _ _ _

end inserted

/-! ### Publications -/

inductive Publication where
  | snapshot (snapshot : SnapshotFields)
  | tracker (tracker : TrackerFields)
  | assemble (instrument : String) (records : List OrderBlockRecord)
      (sourceSnapshotVersions : PinnedVersions) (nowUtc : ℤ)

inductive Published where
  | snapshot (snapshot : TimeframeSnapshot)
  | tracker (tracker : InstrumentOrderBlockTracker)

/-- The store and the outcome after one publication. -/
def publish (op : Publication) : Except Exn Published × MarketStateStore :=
  match op with
  | .snapshot snapshot =>
      let (result, store) := store.publishSnapshot snapshot
      (result.map .snapshot, store)
  | .tracker tracker =>
      let (result, store) := store.publishOrderBlockTracker tracker
      (result.map .tracker, store)
  | .assemble instrument records pins nowUtc =>
      let (result, store) := store.assembleOrderBlockTracker instrument records pins nowUtc
      (result.map .tracker, store)

/-- The operation publishes a snapshot of this key. -/
def Publication.publishesTo (key : SnapshotKey) : Publication → Bool
  | .snapshot fields => (fields.instrument, fields.timeframe) == key
  | _ => false

def Publication.instrument : Publication → String
  | .snapshot fields => fields.instrument
  | .tracker fields => fields.instrument
  | .assemble name _ _ _ => name

/-- A list of publications, with their outcomes. -/
def runPublications : MarketStateStore → List Publication → List (Except Exn Published) × MarketStateStore
  | store, [] => ([], store)
  | store, op :: ops =>
      let (outcome, store) := store.publish op
      let (outcomes, store) := runPublications store ops
      (outcome :: outcomes, store)

/-! ### What a publication can do -/

theorem validate_ok {s : SnapshotFields} {t : TimeframeSnapshot} (h : s.validate = .ok t) :
    t.toSnapshotFields = s := by
  unfold SnapshotFields.validate at h
  split at h
  · exact congrArg TimeframeSnapshot.toSnapshotFields (Except.ok.inj h).symm
  · cases h

theorem validate_of_contract {s : SnapshotFields} (h : s.validateContract = .ok ()) :
    s.validate = .ok ⟨s, h⟩ := by
  unfold SnapshotFields.validate
  split
  · rfl
  · next e he =>
      rw [h] at he
      cases he

theorem tracker_validate_ok {f : TrackerFields} {t : InstrumentOrderBlockTracker}
    (h : f.validate = .ok t) : t.toTrackerFields = f := by
  unfold TrackerFields.validate at h
  split at h
  · exact congrArg InstrumentOrderBlockTracker.toTrackerFields (Except.ok.inj h).symm
  · cases h

theorem publishSnapshot_cases (store : MarketStateStore) (snapshot : SnapshotFields) :
    (∃ e, store.publishSnapshot snapshot = (.error e, store)) ∨
    ∃ stored, stored.toSnapshotFields = { snapshot with version :=
        (store.snapshotVersions (snapshot.instrument, snapshot.timeframe)).getD 0 + 1 } ∧
      store.publishSnapshot snapshot = (.ok stored,
        store.insertSnapshot (snapshot.instrument, snapshot.timeframe) stored.version stored) := by
  rw [MarketStateStore.publishSnapshot]
  cases hstored : { snapshot with version :=
      (store.snapshotVersions (snapshot.instrument, snapshot.timeframe)).getD 0 + 1 }.validate with
  | error e => exact Or.inl ⟨e, rfl⟩
  | ok stored =>
      have hfields := validate_ok hstored
      exact Or.inr ⟨stored, hfields, by rw [hfields]⟩

theorem publishOrderBlockTracker_cases (store : MarketStateStore) (tracker : TrackerFields) :
    (∃ e, store.publishOrderBlockTracker tracker = (.error e, store)) ∨
    ∃ stored, stored.toTrackerFields = { tracker with trackerVersion :=
        (store.orderBlockTrackerVersions tracker.instrument).getD 0 + 1 } ∧
      store.missingPin tracker.instrument tracker.sourceSnapshotVersions = none ∧
      store.publishOrderBlockTracker tracker = (.ok stored,
        store.insertTracker tracker.instrument stored.trackerVersion stored) := by
  rw [MarketStateStore.publishOrderBlockTracker]
  cases hpins : store.missingPin tracker.instrument tracker.sourceSnapshotVersions with
  | some e => exact Or.inl ⟨e, rfl⟩
  | none =>
      cases hstored : { tracker with trackerVersion :=
          (store.orderBlockTrackerVersions tracker.instrument).getD 0 + 1 }.validate with
      | error e => exact Or.inl ⟨e, by simp only [hstored]⟩
      | ok stored =>
          have hfields := tracker_validate_ok hstored
          exact Or.inr ⟨stored, hfields, rfl, by simp only [hstored, hfields]⟩

theorem assembleOrderBlockTracker_cases (store : MarketStateStore) (instrument : String)
    (records : List OrderBlockRecord) (pins : PinnedVersions) (nowUtc : ℤ) :
    (∃ e, store.assembleOrderBlockTracker instrument records pins nowUtc = (.error e, store)) ∨
    ∃ tracker : TrackerFields, tracker.instrument = instrument ∧
      store.assembleOrderBlockTracker instrument records pins nowUtc =
        store.publishOrderBlockTracker tracker := by
  rw [assembleOrderBlockTracker]
  cases store.missingPin instrument pins with
  | some e => exact Or.inl ⟨e, rfl⟩
  | none =>
      cases htracker : TrackerFields.validate
          { instrument, createdAt := nowUtc, records, sourceSnapshotVersions := pins } with
      | error e => exact Or.inl ⟨e, by simp only [htracker]⟩
      | ok tracker =>
          exact Or.inr ⟨tracker.toTrackerFields, by rw [tracker_validate_ok htracker],
            by simp only [htracker]⟩

theorem Publication.instrument_of_publishesTo {op : Publication} {key : SnapshotKey}
    (h : op.publishesTo key = true) : op.instrument = key.1 := by
  cases op with
  | snapshot fields =>
      rw [Publication.publishesTo, beq_iff_eq] at h
      exact congrArg Prod.fst h
  | tracker fields => cases h
  | assemble name records pins nowUtc => cases h

/-- **What a publication can do**: raise and leave the store, insert the next snapshot of its key, or
insert the next tracker of its instrument, whose pins are all in the store. -/
theorem publish_cases (store : MarketStateStore) (op : Publication) :
    (∃ e, store.publish op = (.error e, store)) ∨
    (∃ stored : TimeframeSnapshot, op.publishesTo (stored.instrument, stored.timeframe) = true ∧
      stored.version = (store.snapshotVersions (stored.instrument, stored.timeframe)).getD 0 + 1 ∧
      store.publish op = (.ok (.snapshot stored),
        store.insertSnapshot (stored.instrument, stored.timeframe) stored.version stored)) ∨
    ∃ stored : InstrumentOrderBlockTracker, stored.instrument = op.instrument ∧
      (∀ key, op.publishesTo key = false) ∧
      stored.trackerVersion = (store.orderBlockTrackerVersions stored.instrument).getD 0 + 1 ∧
      store.missingPin stored.instrument stored.sourceSnapshotVersions = none ∧
      store.publish op = (.ok (.tracker stored),
        store.insertTracker stored.instrument stored.trackerVersion stored) := by
  have htracker : ∀ tracker : TrackerFields,
      (∃ e, store.publishOrderBlockTracker tracker = (.error e, store)) ∨
      ∃ stored : InstrumentOrderBlockTracker, stored.instrument = tracker.instrument ∧
        stored.trackerVersion = (store.orderBlockTrackerVersions stored.instrument).getD 0 + 1 ∧
        store.missingPin stored.instrument stored.sourceSnapshotVersions = none ∧
        store.publishOrderBlockTracker tracker = (.ok stored,
          store.insertTracker stored.instrument stored.trackerVersion stored) := by
    intro tracker
    rcases publishOrderBlockTracker_cases store tracker with herror | ⟨stored, hfields, hpins, hok⟩
    · exact Or.inl herror
    · have hinstrument : stored.instrument = tracker.instrument := by rw [hfields]
      have hsource : stored.sourceSnapshotVersions = tracker.sourceSnapshotVersions := by rw [hfields]
      exact Or.inr ⟨stored, hinstrument, by rw [hfields], by rw [hinstrument, hsource, hpins],
        by rw [hok, hinstrument]⟩
  cases op with
  | snapshot fields =>
      rcases publishSnapshot_cases store fields with ⟨e, he⟩ | ⟨stored, hfields, hok⟩
      · exact Or.inl ⟨e, by rw [publish, he]; rfl⟩
      · refine Or.inr (Or.inl ⟨stored, ?_, by rw [hfields], ?_⟩)
        · rw [Publication.publishesTo, hfields, beq_self_eq_true]
        · have hkey : (stored.instrument, stored.timeframe) = (fields.instrument, fields.timeframe) := by
            rw [hfields]
          rw [publish, hok, hkey]
          rfl
  | tracker fields =>
      rcases htracker fields with ⟨e, he⟩ | ⟨stored, hinstrument, hversion, hpins, hok⟩
      · exact Or.inl ⟨e, by rw [publish, he]; rfl⟩
      · exact Or.inr (Or.inr ⟨stored, hinstrument, fun _ => rfl, hversion, hpins,
          by rw [publish, hok]; rfl⟩)
  | assemble name records pins nowUtc =>
      rcases assembleOrderBlockTracker_cases store name records pins nowUtc with
        ⟨e, he⟩ | ⟨tracker, hname, hpublish⟩
      · exact Or.inl ⟨e, by rw [publish, he]; rfl⟩
      · rcases htracker tracker with ⟨e, he⟩ | ⟨stored, hinstrument, hversion, hpins, hok⟩
        · exact Or.inl ⟨e, by rw [publish, hpublish, he]; rfl⟩
        · exact Or.inr (Or.inr ⟨stored, hinstrument.trans hname, fun _ => rfl, hversion, hpins,
            by rw [publish, hpublish, hok]; rfl⟩)

end MarketStateStore

end OandaV3
