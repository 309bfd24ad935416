import OandaV3.MarketState

/-! # What the market state store holds

`MarketLog` is what the store stands for: everything that was published, in order.
`Refines.runPublications` says that the store is the log with all but the last versions forgotten.

* `marketState_consistent`: the history of a key, its latest snapshot, the numbers given out, and what
  a publication leaves alone, after any publications.
* `pinned_resolvable_iff`: a pinned snapshot is found as long as it is retained. -/

namespace OandaV3

/-! ### What was published -/

open MarketStateStore (Publication Published)

/-- The outcomes of the publications so far. -/
abbrev MarketLog := List (Except Exn Published)

namespace MarketLog

/-- The snapshot an outcome adds to a key. -/
def snapshotOf (key : SnapshotKey) : Except Exn Published → Option TimeframeSnapshot
  | .ok (.snapshot s) => if key = (s.instrument, s.timeframe) then some s else none
  | _ => none

/-- The tracker an outcome adds to an instrument. -/
def trackerOf (instrument : String) : Except Exn Published → Option InstrumentOrderBlockTracker
  | .ok (.tracker t) => if instrument = t.instrument then some t else none
  | _ => none

/-- The snapshots published for a key, in order. -/
def snapshots (log : MarketLog) (key : SnapshotKey) : List TimeframeSnapshot :=
  log.filterMap (snapshotOf key)

/-- The trackers published for an instrument, in order. -/
def trackers (log : MarketLog) (instrument : String) : List InstrumentOrderBlockTracker :=
  log.filterMap (trackerOf instrument)

/-- A version of a key that was published, at most `retention` versions ago. -/
def Retains (log : MarketLog) (retention : ℕ) (key : SnapshotKey) (version : ℕ) : Prop :=
  1 ≤ version ∧ version ≤ (log.snapshots key).length ∧
    (log.snapshots key).length ≤ version + retention

end MarketLog

/-- The store is the log with all but the last versions forgotten. -/
structure MarketStateStore.Refines (store : MarketStateStore) (log : MarketLog) : Prop where
  latest : ∀ key, store.latestSnapshots key = (log.snapshots key).getLast?
  history : ∀ key, (store.snapshotHistory key).getD [] =
    RetainedLog.retained (store.snapshotHistoryRetention + 1) (log.snapshots key)
  version : ∀ key, (store.snapshotVersions key).getD 0 = (log.snapshots key).length
  tracker : ∀ instrument, store.orderBlockTrackers instrument = (log.trackers instrument).getLast?
  trackerVersion : ∀ instrument,
    (store.orderBlockTrackerVersions instrument).getD 0 = (log.trackers instrument).length
  snapshots_numbered : ∀ key, (log.snapshots key).map (fun s => s.version) =
    List.range' 1 (log.snapshots key).length
  trackers_numbered : ∀ instrument, (log.trackers instrument).map (fun t => t.trackerVersion) =
    List.range' 1 (log.trackers instrument).length
  pinned : ∀ instrument, ∀ t ∈ log.trackers instrument, ∀ pin ∈ t.sourceSnapshotVersions.docs,
    1 ≤ pin.2 ∧ pin.2 ≤ (log.snapshots (instrument, pin.1)).length

namespace MarketStateStore

theorem refines_empty (retention : ℕ) : (empty retention).Refines [] where
  latest _ := rfl
  history _ := (RetainedLog.retained_nil _).symm
  version _ := rfl
  tracker _ := rfl
  trackerVersion _ := rfl
  snapshots_numbered _ := rfl
  trackers_numbered _ := rfl
  pinned _ _ ht := absurd ht List.not_mem_nil

section step

variable {store : MarketStateStore} {log : MarketLog}

/-- A version is found exactly when it is retained. -/
theorem Refines.getSnapshotVersion (h : store.Refines log) (instrument timeframe : String)
    (version : ℕ) : store.getSnapshotVersion instrument timeframe version =
      if 1 ≤ version ∧ (log.snapshots (instrument, timeframe)).length <
        version + (store.snapshotHistoryRetention + 1)
      then (log.snapshots (instrument, timeframe))[version - 1]? else none := by
  have hget := RetainedLog.get_retained (store.snapshotHistoryRetention + 1)
    (log.snapshots (instrument, timeframe)) version
  rw [← h.history] at hget
  rw [MarketStateStore.getSnapshotVersion]
  cases hhistory : store.snapshotHistory (instrument, timeframe) with
  | none =>
      rw [hhistory, Option.getD_none, DocTable.get_nil] at hget
      rw [Option.bind_eq_bind, Option.bind_none]
      split_ifs with hin
      · rw [if_pos hin] at hget
        exact (Option.map_eq_none_iff.mp hget.symm).symm
      · rfl
  | some history =>
      rw [hhistory, Option.getD_some] at hget
      simp only [Option.bind_eq_bind, Option.bind_some, hget]
      split_ifs
      · cases (log.snapshots (instrument, timeframe))[version - 1]? <;> rfl
      · rfl

/-- A version resolves exactly when it is retained. -/
theorem Refines.isSome_getSnapshotVersion (h : store.Refines log) (instrument timeframe : String)
    (version : ℕ) : (store.getSnapshotVersion instrument timeframe version).isSome ↔
      log.Retains store.snapshotHistoryRetention (instrument, timeframe) version := by
  rw [h.getSnapshotVersion, MarketLog.Retains]
  split_ifs with hin
  · rw [Option.isSome_iff_exists]
    constructor
    · rintro ⟨s, hs⟩
      have hlt := (List.getElem?_eq_some_iff.mp hs).1
      omega
    · intro hretains
      exact ⟨_, List.getElem?_eq_getElem (by omega)⟩
  · simp only [Option.isSome_none, Bool.false_eq_true, false_iff]
    omega

theorem snapshots_append_snapshot (s : TimeframeSnapshot) (key : SnapshotKey) :
    (log ++ [.ok (.snapshot s)] : MarketLog).snapshots key =
      if key = (s.instrument, s.timeframe) then log.snapshots key ++ [s] else log.snapshots key := by
  rw [MarketLog.snapshots, List.filterMap_append]
  split_ifs with hkey <;> simp [MarketLog.snapshotOf, hkey, MarketLog.snapshots]

theorem trackers_append_tracker (t : InstrumentOrderBlockTracker) (instrument : String) :
    (log ++ [.ok (.tracker t)] : MarketLog).trackers instrument =
      if instrument = t.instrument then log.trackers instrument ++ [t]
      else log.trackers instrument := by
  rw [MarketLog.trackers, List.filterMap_append]
  split_ifs with hkey <;> simp [MarketLog.trackerOf, hkey, MarketLog.trackers]

theorem snapshots_append_of_none {outcome : Except Exn Published} {key : SnapshotKey}
    (h : MarketLog.snapshotOf key outcome = none) :
    (log ++ [outcome] : MarketLog).snapshots key = log.snapshots key := by
  simp [MarketLog.snapshots, h]

theorem trackers_append_of_none {outcome : Except Exn Published} {instrument : String}
    (h : MarketLog.trackerOf instrument outcome = none) :
    (log ++ [outcome] : MarketLog).trackers instrument = log.trackers instrument := by
  simp [MarketLog.trackers, h]

theorem Refines.error (h : store.Refines log) (e : Exn) : store.Refines (log ++ [.error e]) := by
  have hsnapshots : ∀ key, (log ++ [.error e] : MarketLog).snapshots key = log.snapshots key :=
    fun _ => snapshots_append_of_none rfl
  have htrackers : ∀ i, (log ++ [.error e] : MarketLog).trackers i = log.trackers i :=
    fun _ => trackers_append_of_none rfl
  refine ⟨?_, ?_, ?_, ?_, ?_, ?_, ?_, ?_⟩
  all_goals simp only [hsnapshots, htrackers]
  exacts [h.latest, h.history, h.version, h.tracker, h.trackerVersion, h.snapshots_numbered,
    h.trackers_numbered, h.pinned]

theorem Refines.insertSnapshot (h : store.Refines log) {stored : TimeframeSnapshot} {key : SnapshotKey}
    (hkey : (stored.instrument, stored.timeframe) = key)
    (hversion : stored.version = (store.snapshotVersions key).getD 0 + 1) :
    (store.insertSnapshot key stored.version stored).Refines (log ++ [.ok (.snapshot stored)]) := by
  have hsnapshots : ∀ key', (log ++ [.ok (.snapshot stored)] : MarketLog).snapshots key' =
      if key' = key then log.snapshots key' ++ [stored] else log.snapshots key' := by
    intro key'
    rw [snapshots_append_snapshot]
    exact if_congr (by rw [hkey]) rfl rfl
  have htrackers : ∀ i, (log ++ [.ok (.snapshot stored)] : MarketLog).trackers i =
      log.trackers i := fun _ => trackers_append_of_none rfl
  rw [h.version] at hversion
  refine ⟨fun key' => ?_, fun key' => ?_, fun key' => ?_, fun i => ?_, fun i => ?_, fun key' => ?_,
    fun i => ?_, fun i t ht pin hpin => ?_⟩
  · rw [hsnapshots, insertSnapshot_latestSnapshots]
    split_ifs
    · rw [List.getLast?_append_of_ne_nil _ (List.cons_ne_nil _ _), List.getLast?_singleton]
    · exact h.latest key'
  · rw [hsnapshots, insertSnapshot_snapshotHistory]
    split_ifs with heq
    · rw [heq, Option.getD_some, h.history, hversion]
      exact RetainedLog.evict_put _ _
    · exact h.history key'
  · rw [hsnapshots, insertSnapshot_snapshotVersions]
    split_ifs with heq
    · rw [heq, Option.getD_some, hversion, List.length_append, List.length_singleton]
    · exact h.version key'
  · rw [htrackers]
    exact h.tracker i
  · rw [htrackers]
    exact h.trackerVersion i
  · rw [hsnapshots]
    split_ifs with heq
    · exact RetainedLog.stamped_concat (h.snapshots_numbered key') (heq ▸ hversion)
    · exact h.snapshots_numbered key'
  · rw [htrackers]
    exact h.trackers_numbered i
  · rw [htrackers] at ht
    obtain ⟨hpos, hle⟩ := h.pinned i t ht pin hpin
    refine ⟨hpos, hle.trans ?_⟩
    rw [hsnapshots]
    split_ifs
    · rw [List.length_append]
      omega
    · exact le_rfl

theorem Refines.pins_of_missingPin (h : store.Refines log) {instrument : String}
    {pins : PinnedVersions} (hpins : store.missingPin instrument pins = none) :
    ∀ pin ∈ pins.docs, log.Retains store.snapshotHistoryRetention (instrument, pin.1) pin.2 := by
  intro pin hpin
  rw [missingPin, Option.map_eq_none_iff, List.find?_eq_none] at hpins
  rw [← h.isSome_getSnapshotVersion]
  have hfound := hpins pin hpin
  rwa [Bool.not_eq_true, Option.isNone_eq_false_iff] at hfound

/-- A tracker that pins retained versions is appended to its instrument. -/
theorem Refines.insertTracker (h : store.Refines log) {stored : InstrumentOrderBlockTracker}
    (hversion : stored.trackerVersion =
      (store.orderBlockTrackerVersions stored.instrument).getD 0 + 1)
    (hpins : store.missingPin stored.instrument stored.sourceSnapshotVersions = none) :
    (store.insertTracker stored.instrument stored.trackerVersion stored).Refines
      (log ++ [.ok (.tracker stored)]) := by
  have hsnapshots : ∀ key, (log ++ [.ok (.tracker stored)] : MarketLog).snapshots key =
      log.snapshots key := fun _ => snapshots_append_of_none rfl
  have htrackers : ∀ i, (log ++ [.ok (.tracker stored)] : MarketLog).trackers i =
      if i = stored.instrument then log.trackers i ++ [stored] else log.trackers i :=
    fun i => trackers_append_tracker stored i
  rw [h.trackerVersion] at hversion
  refine ⟨fun key => ?_, fun key => ?_, fun key => ?_, fun i => ?_, fun i => ?_, fun key => ?_,
    fun i => ?_, fun i t ht pin hpin => ?_⟩
  · rw [hsnapshots]
    exact h.latest key
  · rw [hsnapshots]
    exact h.history key
  · rw [hsnapshots]
    exact h.version key
  · rw [htrackers, insertTracker_orderBlockTrackers]
    split_ifs
    · rw [List.getLast?_append_of_ne_nil _ (List.cons_ne_nil _ _), List.getLast?_singleton]
    · exact h.tracker i
  · rw [htrackers, insertTracker_orderBlockTrackerVersions]
    split_ifs with heq
    · rw [heq, Option.getD_some, hversion, List.length_append, List.length_singleton]
    · exact h.trackerVersion i
  · rw [hsnapshots]
    exact h.snapshots_numbered key
  · rw [htrackers]
    split_ifs with heq
    · exact RetainedLog.stamped_concat (h.trackers_numbered i) (heq ▸ hversion)
    · exact h.trackers_numbered i
  · rw [hsnapshots]
    rw [htrackers] at ht
    split_ifs at ht with heq
    · rcases List.mem_append.mp ht with hold | hnew
      · exact h.pinned i t hold pin hpin
      · obtain rfl := List.mem_singleton.mp hnew
        obtain ⟨hpos, hle, -⟩ := h.pins_of_missingPin hpins pin hpin
        rw [heq]
        exact ⟨hpos, hle⟩
    · exact h.pinned i t ht pin hpin

/-- One publication keeps the store the retained part of the log. -/
theorem Refines.publish (h : store.Refines log) (op : Publication) :
    (store.publish op).2.Refines (log ++ [(store.publish op).1]) := by
  rcases publish_cases store op with
    ⟨e, he⟩ | ⟨stored, -, hversion, hok⟩ | ⟨stored, -, -, hversion, hpins, hok⟩
  · rw [he]
    exact h.error e
  · rw [hok]
    exact h.insertSnapshot rfl hversion
  · rw [hok]
    exact h.insertTracker hversion hpins

/-- **The store is the retained part of what was published**, after any publications. -/
theorem Refines.runPublications (h : store.Refines log) (ops : List Publication) :
    (store.runPublications ops).2.Refines (log ++ (store.runPublications ops).1) := by
  induction ops generalizing store log with
  | nil =>
      rw [MarketStateStore.runPublications, List.append_nil]
      exact h
  | cons op ops ih =>
      have hrest := ih (h.publish op)
      rw [List.append_assoc] at hrest
      exact hrest

end step

/-! ### Keys and instruments apart -/

structure SameKey (key : SnapshotKey) (s s' : MarketStateStore) : Prop where
  retention : s.snapshotHistoryRetention = s'.snapshotHistoryRetention
  latest : s.latestSnapshots key = s'.latestSnapshots key
  history : s.snapshotHistory key = s'.snapshotHistory key
  version : s.snapshotVersions key = s'.snapshotVersions key

/-- Two stores show the same of an instrument. -/
structure SameInstrument (instrument : String) (s s' : MarketStateStore) : Prop where
  keys : ∀ timeframe, SameKey (instrument, timeframe) s s'
  tracker : s.orderBlockTrackers instrument = s'.orderBlockTrackers instrument
  trackerVersion : s.orderBlockTrackerVersions instrument = s'.orderBlockTrackerVersions instrument

section apart

variable {s s' : MarketStateStore} {key : SnapshotKey} {instrument : String} {op : Publication}

theorem SameKey.refl (key : SnapshotKey) (s : MarketStateStore) : SameKey key s s :=
  ⟨rfl, rfl, rfl, rfl⟩

theorem SameInstrument.refl (instrument : String) (s : MarketStateStore) :
    SameInstrument instrument s s := ⟨fun _ => .refl _ s, rfl, rfl⟩

theorem sameKey_insertTracker (key : SnapshotKey) (instrument : String) (version : ℕ)
    (stored : InstrumentOrderBlockTracker) : SameKey key (s.insertTracker instrument version stored) s :=
  ⟨rfl, rfl, rfl, rfl⟩

theorem sameKey_insertSnapshot {key' : SnapshotKey} (h : key ≠ key') (version : ℕ)
    (stored : TimeframeSnapshot) : SameKey key (s.insertSnapshot key' version stored) s := by
  refine ⟨rfl, ?_, ?_, ?_⟩
  · rw [insertSnapshot_latestSnapshots, if_neg h]
  · rw [insertSnapshot_snapshotHistory, if_neg h]
  · rw [insertSnapshot_snapshotVersions, if_neg h]

theorem sameKey_publish (h : op.publishesTo key = false) : SameKey key (s.publish op).2 s := by
  rcases publish_cases s op with ⟨e, he⟩ | ⟨stored, hto, -, hok⟩ | ⟨stored, -, -, -, -, hok⟩
  · rw [he]
    exact .refl key s
  · have hne : key ≠ (stored.instrument, stored.timeframe) := by
      rintro rfl
      rw [h] at hto
      cases hto
    rw [hok]
    exact sameKey_insertSnapshot hne _ _
  · rw [hok]
    exact sameKey_insertTracker _ _ _ _

theorem SameKey.trans {a b c : MarketStateStore} (h : SameKey key a b) (h' : SameKey key b c) :
    SameKey key a c :=
  ⟨h.retention.trans h'.retention, h.latest.trans h'.latest, h.history.trans h'.history,
    h.version.trans h'.version⟩

theorem SameKey.symm (h : SameKey key s s') : SameKey key s' s :=
  ⟨h.retention.symm, h.latest.symm, h.history.symm, h.version.symm⟩

/-- A snapshot does the same to stores that show the same of its key. -/
theorem SameKey.publishSnapshot {snapshot : SnapshotFields}
    (h : SameKey (snapshot.instrument, snapshot.timeframe) s s') :
    (s.publishSnapshot snapshot).1 = (s'.publishSnapshot snapshot).1 ∧
      SameKey (snapshot.instrument, snapshot.timeframe) (s.publishSnapshot snapshot).2
        (s'.publishSnapshot snapshot).2 := by
  rw [MarketStateStore.publishSnapshot, MarketStateStore.publishSnapshot, h.version]
  cases { snapshot with version :=
      (s'.snapshotVersions (snapshot.instrument, snapshot.timeframe)).getD 0 + 1 }.validate with
  | error e => exact ⟨rfl, h⟩
  | ok stored =>
      refine ⟨rfl, h.retention, ?_, ?_, ?_⟩
      · simp only [insertSnapshot_latestSnapshots, if_true]
      · simp only [insertSnapshot_snapshotHistory, if_true, h.history, h.retention]
      · simp only [insertSnapshot_snapshotVersions, if_true]

/-- Publications to other keys do not matter for a key. -/
theorem SameKey.runPublications (h : SameKey key s s') (ops : List Publication) :
    SameKey key (s.runPublications ops).2
      (s'.runPublications (ops.filter (·.publishesTo key))).2 := by
  induction ops generalizing s s' with
  | nil => exact h
  | cons op ops ih =>
      rw [List.filter_cons]
      split_ifs with hop
      · cases op with
        | snapshot snapshot =>
            rw [Publication.publishesTo, beq_iff_eq] at hop
            subst hop
            exact ih h.publishSnapshot.2
        | tracker tracker => cases hop
        | assemble instrument records pins nowUtc => cases hop
      · exact ih ((sameKey_publish (Bool.eq_false_iff.mpr hop)).trans h)

theorem SameInstrument.trans {a b c : MarketStateStore} (h : SameInstrument instrument a b)
    (h' : SameInstrument instrument b c) : SameInstrument instrument a c :=
  ⟨fun timeframe => (h.keys timeframe).trans (h'.keys timeframe), h.tracker.trans h'.tracker,
    h.trackerVersion.trans h'.trackerVersion⟩

theorem SameInstrument.missingPin (h : SameInstrument instrument s s') (pins : PinnedVersions) :
    s.missingPin instrument pins = s'.missingPin instrument pins := by
  have hget : ∀ timeframe version, s.getSnapshotVersion instrument timeframe version =
      s'.getSnapshotVersion instrument timeframe version := by
    intro timeframe version
    rw [getSnapshotVersion, getSnapshotVersion, (h.keys timeframe).history]
  rw [MarketStateStore.missingPin, MarketStateStore.missingPin]
  simp only [hget]

theorem sameInstrument_insertTracker {instrument' : String} (h : instrument ≠ instrument')
    (version : ℕ) (stored : InstrumentOrderBlockTracker) :
    SameInstrument instrument (s.insertTracker instrument' version stored) s := by
  refine ⟨fun _ => sameKey_insertTracker _ _ _ _, ?_, ?_⟩
  · rw [insertTracker_orderBlockTrackers, if_neg h]
  · rw [insertTracker_orderBlockTrackerVersions, if_neg h]

/-- A tracker does the same to stores that show the same of its instrument. -/
theorem SameInstrument.publishOrderBlockTracker {tracker : TrackerFields}
    (h : SameInstrument tracker.instrument s s') :
    SameInstrument tracker.instrument (s.publishOrderBlockTracker tracker).2
      (s'.publishOrderBlockTracker tracker).2 := by
  rw [MarketStateStore.publishOrderBlockTracker, MarketStateStore.publishOrderBlockTracker,
    h.missingPin, h.trackerVersion]
  cases s'.missingPin tracker.instrument tracker.sourceSnapshotVersions with
  | some e => exact h
  | none =>
      cases hstored : { tracker with trackerVersion :=
          (s'.orderBlockTrackerVersions tracker.instrument).getD 0 + 1 }.validate with
      | error e =>
          simp only [hstored]
          exact h
      | ok stored =>
          simp only [hstored]
          refine ⟨fun timeframe => ?_, ?_, ?_⟩
          · exact ((sameKey_insertTracker _ _ _ _).trans (h.keys timeframe)).trans
              (sameKey_insertTracker _ _ _ _).symm
          · simp only [insertTracker_orderBlockTrackers, if_true]
          · simp only [insertTracker_orderBlockTrackerVersions, if_true]

theorem publishSnapshot_trackers (s : MarketStateStore) (snapshot : SnapshotFields) :
    (s.publishSnapshot snapshot).2.orderBlockTrackers = s.orderBlockTrackers ∧
      (s.publishSnapshot snapshot).2.orderBlockTrackerVersions = s.orderBlockTrackerVersions := by
  rcases publishSnapshot_cases s snapshot with ⟨e, he⟩ | ⟨stored, -, hok⟩
  · rw [he]
    exact ⟨rfl, rfl⟩
  · rw [hok]
    exact ⟨rfl, rfl⟩

/-- An operation does the same to stores that show the same of its instrument. -/
theorem SameInstrument.publish (h : SameInstrument op.instrument s s') :
    SameInstrument op.instrument (s.publish op).2 (s'.publish op).2 := by
  cases op with
  | snapshot snapshot =>
      have hkey := (h.keys snapshot.timeframe).publishSnapshot
      refine ⟨fun timeframe => ?_, ?_, ?_⟩
      · by_cases hsame : timeframe = snapshot.timeframe
        · subst hsame
          exact hkey.2
        · have hother : (Publication.snapshot snapshot).publishesTo (snapshot.instrument, timeframe) =
              false := by
            rw [Publication.publishesTo, beq_eq_false_iff_ne]
            exact fun heq => hsame (Prod.mk.inj heq).2.symm
          exact ((sameKey_publish hother).trans (h.keys timeframe)).trans
            (sameKey_publish hother).symm
      · exact (congrFun (publishSnapshot_trackers s snapshot).1 _).trans
          (h.tracker.trans (congrFun (publishSnapshot_trackers s' snapshot).1 _).symm)
      · exact (congrFun (publishSnapshot_trackers s snapshot).2 _).trans
          (h.trackerVersion.trans (congrFun (publishSnapshot_trackers s' snapshot).2 _).symm)
  | tracker tracker => exact h.publishOrderBlockTracker
  | assemble instrument records pins nowUtc =>
      simp only [MarketStateStore.publish, assembleOrderBlockTracker, Publication.instrument] at h ⊢
      rw [h.missingPin pins]
      cases s'.missingPin instrument pins with
      | some e => exact h
      | none =>
          cases htracker : TrackerFields.validate
              { instrument, createdAt := nowUtc, records, sourceSnapshotVersions := pins } with
          | error e => exact h
          | ok tracker =>
              have hinstrument : tracker.toTrackerFields.instrument = instrument := by
                rw [tracker_validate_ok htracker]
              dsimp only
              rw [← hinstrument] at h ⊢
              exact h.publishOrderBlockTracker

theorem sameInstrument_publish (h : instrument ≠ op.instrument) :
    SameInstrument instrument (s.publish op).2 s := by
  have hkeys : ∀ timeframe, SameKey (instrument, timeframe) (s.publish op).2 s := by
    intro timeframe
    refine sameKey_publish (Bool.eq_false_iff.mpr fun hto => ?_)
    exact h (Publication.instrument_of_publishesTo hto).symm
  rcases publish_cases s op with ⟨e, he⟩ | ⟨stored, -, -, hok⟩ | ⟨stored, hstored, -, -, -, hok⟩
  · rw [he]
    exact .refl instrument s
  · rw [hok] at hkeys ⊢
    exact ⟨hkeys, rfl, rfl⟩
  · rw [hok]
    exact sameInstrument_insertTracker (by rw [hstored]; exact h) _ _

/-- Publications on other instruments do not matter for an instrument. -/
theorem SameInstrument.runPublications (h : SameInstrument instrument s s')
    (ops : List Publication) : SameInstrument instrument (s.runPublications ops).2
      (s'.runPublications (ops.filter (·.instrument = instrument))).2 := by
  induction ops generalizing s s' with
  | nil => exact h
  | cons op ops ih =>
      rw [List.filter_cons]
      split_ifs with hop
      · obtain rfl := of_decide_eq_true hop
        exact ih h.publish
      · have hne : instrument ≠ op.instrument := fun heq => hop (decide_eq_true heq.symm)
        exact ih ((sameInstrument_publish hne).trans h)

theorem publish_error {e : Exn} (h : (s.publish op).1 = .error e) : (s.publish op).2 = s := by
  rcases publish_cases s op with ⟨e', he⟩ | ⟨stored, -, -, hok⟩ | ⟨stored, -, -, -, -, hok⟩
  · rw [he]
  · rw [hok] at h
    cases h
  · rw [hok] at h
    cases h

theorem publish_retention (s : MarketStateStore) (op : Publication) :
    (s.publish op).2.snapshotHistoryRetention = s.snapshotHistoryRetention := by
  rcases publish_cases s op with ⟨e, he⟩ | ⟨stored, -, -, hok⟩ | ⟨stored, -, -, -, -, hok⟩
  · rw [he]
  · rw [hok]
    rfl
  · rw [hok]
    rfl

theorem runPublications_retention (s : MarketStateStore) (ops : List Publication) :
    (s.runPublications ops).2.snapshotHistoryRetention = s.snapshotHistoryRetention := by
  induction ops generalizing s with
  | nil => rfl
  | cons op ops ih => exact (ih (s.publish op).2).trans (publish_retention s op)

end apart

/-! ### After any publications -/

/-- The current version of a key, 0 before the first publication. -/
def currentVersion (store : MarketStateStore) (key : SnapshotKey) : ℕ :=
  (store.snapshotVersions key).getD 0

/-- The current tracker version of an instrument, 0 before the first publication. -/
def currentTrackerVersion (store : MarketStateStore) (instrument : String) : ℕ :=
  (store.orderBlockTrackerVersions instrument).getD 0

/-- The history of a key holds its last versions, the latest snapshot is the last of them, and the
versions were given out one after another. -/
structure KeyConsistent (store : MarketStateStore) (outcomes : MarketLog) (key : SnapshotKey) :
    Prop where
  history : ((store.snapshotHistory key).getD []).map Prod.fst =
    List.range' (max 1 (store.currentVersion key - store.snapshotHistoryRetention))
      (store.currentVersion key + 1 -
        max 1 (store.currentVersion key - store.snapshotHistoryRetention))
  stamped : ∀ entry ∈ (store.snapshotHistory key).getD [], entry.2.version = entry.1
  latest : store.getSnapshot key.1 key.2 =
    store.getSnapshotVersion key.1 key.2 (store.currentVersion key)
  published : 0 < store.currentVersion key → (store.getSnapshot key.1 key.2).isSome
  consecutive : (outcomes.snapshots key).map (fun s => s.version) =
    List.range' 1 (store.currentVersion key)

/-- The trackers of an instrument were numbered one after another, and the last one is current. -/
structure TrackerConsistent (store : MarketStateStore) (outcomes : MarketLog) (instrument : String) :
    Prop where
  current : store.getOrderBlockTracker instrument = (outcomes.trackers instrument).getLast?
  consecutive : (outcomes.trackers instrument).map (fun t => t.trackerVersion) =
    List.range' 1 (store.currentTrackerVersion instrument)

section consistent

variable {store : MarketStateStore} {log : MarketLog}

theorem Refines.version_of_getElem? (h : store.Refines log) {key : SnapshotKey} {n : ℕ}
    {s : TimeframeSnapshot} (hs : (log.snapshots key)[n]? = some s) : s.version = n + 1 := by
  have hnumbers := congrArg (fun versions => versions[n]?) (h.snapshots_numbered key)
  simp only [List.getElem?_map, hs, Option.map_some] at hnumbers
  rw [List.getElem?_range' (List.getElem?_eq_some_iff.mp hs).1] at hnumbers
  have hversion := Option.some.inj hnumbers
  omega

theorem Refines.getSnapshot_eq (h : store.Refines log) (instrument timeframe : String) :
    store.getSnapshot instrument timeframe =
      store.getSnapshotVersion instrument timeframe (store.currentVersion (instrument, timeframe)) := by
  rw [h.getSnapshotVersion, currentVersion, h.version, getSnapshot, h.latest,
    List.getLast?_eq_getElem?]
  split_ifs with hin
  · rfl
  · rw [List.getElem?_eq_none_iff]
    omega

theorem Refines.keyConsistent (h : store.Refines log) (key : SnapshotKey) :
    store.KeyConsistent log key where
  history := by
    rw [h.history, RetainedLog.map_fst_retained, currentVersion, h.version]
    congr 1 <;> omega
  stamped := by
    rintro ⟨n, s⟩ hentry
    rw [h.history] at hentry
    obtain ⟨hpos, -, hs⟩ := RetainedLog.mem_retained.mp hentry
    have hversion := h.version_of_getElem? hs
    dsimp only
    omega
  latest := h.getSnapshot_eq key.1 key.2
  published := by
    intro hpos
    rw [currentVersion, h.version] at hpos
    have hlast := List.getLast?_eq_some_getLast (List.ne_nil_of_length_pos hpos)
    exact Option.isSome_iff_exists.mpr ⟨_, (h.latest key).trans hlast⟩
  consecutive := by
    rw [currentVersion, h.version]
    exact h.snapshots_numbered key

theorem Refines.trackerConsistent (h : store.Refines log) (instrument : String) :
    store.TrackerConsistent log instrument where
  current := h.tracker instrument
  consecutive := by
    rw [currentTrackerVersion, h.trackerVersion]
    exact h.trackers_numbered instrument

end consistent

end MarketStateStore

open MarketStateStore

/-- **The store stays consistent**: after any publications every history holds the last versions of its
key, the latest snapshot is the last of them, versions were given out one after another, a key depends
on its own snapshots only and an instrument on its own publications only, and a publication that raises
changes nothing. -/
theorem marketState_consistent (retention : ℕ) (ops : List Publication) :
    let run := (empty retention).runPublications ops
    run.2.snapshotHistoryRetention = retention ∧
    (∀ key, run.2.KeyConsistent run.1 key) ∧
    (∀ instrument, run.2.TrackerConsistent run.1 instrument) ∧
    (∀ key, SameKey key run.2
      ((empty retention).runPublications (ops.filter (·.publishesTo key))).2) ∧
    (∀ instrument, SameInstrument instrument run.2
      ((empty retention).runPublications (ops.filter (·.instrument = instrument))).2) ∧
    ∀ op e, (run.2.publish op).1 = .error e → (run.2.publish op).2 = run.2 := by
  have hrefines := (refines_empty retention).runPublications ops
  exact ⟨runPublications_retention _ _, hrefines.keyConsistent, hrefines.trackerConsistent,
    fun key => (SameKey.refl key _).runPublications ops,
    fun instrument => (SameInstrument.refl instrument _).runPublications ops,
    fun op e herror => publish_error herror⟩

/-- **A pinned version resolves as long as it is retained**: each version the current tracker of an
instrument pins was published, and it is found exactly when at most `retention` newer ones were. -/
theorem pinned_resolvable_iff (retention : ℕ) (ops : List Publication) (instrument : String)
    (tracker : InstrumentOrderBlockTracker) (pin : String × ℕ)
    (htracker : ((empty retention).runPublications ops).2.getOrderBlockTracker instrument =
      some tracker)
    (hpin : pin ∈ tracker.sourceSnapshotVersions.docs) :
    let store := ((empty retention).runPublications ops).2
    1 ≤ pin.2 ∧ pin.2 ≤ store.currentVersion (instrument, pin.1) ∧
      ((store.getSnapshotVersion instrument pin.1 pin.2).isSome ↔
        store.currentVersion (instrument, pin.1) ≤ pin.2 + retention) := by
  intro store
  have hrefines : store.Refines _ := (refines_empty retention).runPublications ops
  have hretention : store.snapshotHistoryRetention = retention := runPublications_retention _ _
  have hmem : tracker ∈ MarketLog.trackers _ instrument :=
    List.mem_of_getLast? ((hrefines.tracker instrument).symm.trans htracker)
  obtain ⟨hpos, hle⟩ := hrefines.pinned instrument tracker hmem pin hpin
  rw [hrefines.isSome_getSnapshotVersion, currentVersion, hrefines.version, hretention]
  refine ⟨hpos, hle, fun hretains => hretains.2.2, fun hnear => ⟨hpos, hle, hnear⟩⟩

/-- A snapshot of EUR_USD, H1. -/
def hourlySnapshot : SnapshotFields where
  instrument := "EUR_USD"
  timeframe := "H1"
  lastCompletedCandle := 0
  computedAt := 2 * hour
  candleRangeStart := 0
  candleRangeEnd := 0
  indicators := .null
  smc := .null
  spread := {
    instrument := "EUR_USD"
    bid := 11 / 10
    ask := 11 / 10
    rawSpread := 0
    spreadPips := 0
    pipSize := 1 / 10000
    fetchedAt := hour }
  freshness := {
    instrument := "EUR_USD"
    timeframe := "H1"
    lastCompletedCandle := some 0
    fetchedAt := some hour
    source := some "oanda"
    candleCount := 1
    isFresh := true
    staleness := some 0 }

/-- A snapshot, a tracker that pins it, and `newer` snapshots after them. -/
def pinnedThen (newer : ℕ) : List Publication :=
  .snapshot hourlySnapshot :: .assemble "EUR_USD" [] ⟨[("H1", 1)], by decide⟩ (3 * hour) ::
    List.replicate newer (.snapshot hourlySnapshot)

/-- With the default retention of 5, the sixth newer snapshot evicts the pinned one. -/
theorem pinned_evicted_sixth :
    ¬ ∀ tracker, ((empty 5).runPublications (pinnedThen 6)).2.getOrderBlockTracker "EUR_USD" =
        some tracker → ∀ pin ∈ tracker.sourceSnapshotVersions.docs,
      (((empty 5).runPublications (pinnedThen 6)).2.getSnapshotVersion "EUR_USD" pin.1
        pin.2).isSome := by
  intro hall
  have hcurrent : (((empty 5).runPublications (pinnedThen 6)).2.getOrderBlockTracker "EUR_USD").map
      (fun tracker => tracker.sourceSnapshotVersions.docs) = some [("H1", 1)] := by decide +kernel
  obtain ⟨tracker, htracker, hpins⟩ := Option.map_eq_some_iff.mp hcurrent
  have hfound := hall tracker htracker ("H1", 1) (by rw [hpins]; exact List.mem_cons_self)
  exact absurd hfound (by decide +kernel)

/-- After five newer snapshots the pinned one is still there. -/
theorem pinned_resolvable_fifth :
    ∃ tracker, ((empty 5).runPublications (pinnedThen 5)).2.getOrderBlockTracker "EUR_USD" =
        some tracker ∧ ("H1", 1) ∈ tracker.sourceSnapshotVersions.docs ∧
      (((empty 5).runPublications (pinnedThen 5)).2.getSnapshotVersion "EUR_USD" "H1" 1).isSome := by
  have hcurrent : (((empty 5).runPublications (pinnedThen 5)).2.getOrderBlockTracker "EUR_USD").map
      (fun tracker => tracker.sourceSnapshotVersions.docs) = some [("H1", 1)] := by decide +kernel
  obtain ⟨tracker, htracker, hpins⟩ := Option.map_eq_some_iff.mp hcurrent
  have hpin : ("H1", 1) ∈ tracker.sourceSnapshotVersions.docs := by
    rw [hpins]
    exact List.mem_cons_self
  exact ⟨tracker, htracker, hpin,
    (pinned_resolvable_iff 5 (pinnedThen 5) "EUR_USD" tracker ("H1", 1) htracker hpin).2.2.mpr
      (by decide +kernel)⟩

end OandaV3
