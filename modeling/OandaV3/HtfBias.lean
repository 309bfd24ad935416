import Mathlib.Algebra.BigOperators.Ring.List
import Mathlib.Algebra.Order.BigOperators.Group.List
import Mathlib.Algebra.Order.Ring.Abs
import Mathlib.Data.List.Basic
import OandaV3.TradePlan

/-! # The higher-timeframe bias

`.worktrees/scan-force/smc/htf_bias.py` weighs the D, H4 and H1 snapshots of an instrument into one direction and
a score of how well they agree.  A change of regime is searched by a package; a recent one is a transition.

* `normalizeMembers_eq_ok`: which members are taken.
* `HtfBiasResult.Follows`: what a bias promises, and `htfBias_follows`.
* `htfBias_returns`, `htfBias_perm`: for which members there is a bias, in any order. -/

namespace OandaV3

open Fallible Mirrors Mirrors.Mirror

/-! ### Members -/

/-- `HTF_TIMEFRAMES`. -/
def htfTimeframes : List String := ["D", "H4", "H1"]

/-- `PinnedHTFMember`. -/
structure PinnedHTFMember where
  snapshot : BotSnapshot
  candles : List Candle
  sourceSnapshotVersion : ℤ

/-- `normalized_candles`. -/
def PinnedHTFMember.normalizedCandles (member : PinnedHTFMember) : Except Exn (List Candle) :=
  let snapshot := member.snapshot
  if snapshot.timeframe ∉ htfTimeframes then
    .error (.valueError ("Unsupported HTF member timeframe '" ++ snapshot.timeframe ++ "'."))
  else if member.sourceSnapshotVersion ≤ 0 then
    .error (.valueError "Pinned HTF members require a positive source_snapshot_version.")
  else if (snapshot.version : ℤ) ≠ member.sourceSnapshotVersion then
    .error (.valueError "Pinned HTF member version must match the snapshot version.")
  else
    let normalized := validateCandleDf member.candles
    match normalized.getLast? with
    | none => .error (.valueError
        ("Pinned HTF member " ++ snapshot.timeframe ++ " requires at least one closed candle."))
    | some last =>
        if last.time ≠ snapshot.lastCompletedCandle then
          .error (.valueError ("Pinned HTF candles for " ++ snapshot.instrument ++ " " ++ snapshot.timeframe ++
            " must end at the snapshot boundary."))
        else .ok normalized

/-- The loop of `_normalize_members`, with the members so far. -/
def addMembers : List PinnedHTFMember → List PinnedHTFMember → Except Exn (List PinnedHTFMember)
  | seen, [] => .ok seen
  | seen, member :: members =>
      if seen.any fun other => other.snapshot.timeframe == member.snapshot.timeframe then
        .error (.valueError ("Duplicate HTF member supplied for " ++ member.snapshot.timeframe ++ "."))
      else if seen.any fun other => other.snapshot.instrument != member.snapshot.instrument then
        .error (.valueError "All HTF members must belong to the same instrument.")
      else do
        let _ ← member.normalizedCandles
        addMembers (seen ++ [member]) members

def tupleText : List String → String
  | [timeframe] => "('" ++ timeframe ++ "',)"
  | timeframes => "(" ++ ", ".intercalate (timeframes.map fun timeframe => "'" ++ timeframe ++ "'") ++ ")"

/-- `_normalize_members`, with the members in the order of the timeframes. -/
def normalizeMembers (members : List PinnedHTFMember) : Except Exn (List PinnedHTFMember) := do
  let normalized ← addMembers [] members
  match htfTimeframes.mapM fun timeframe => normalized.find? fun member => member.snapshot.timeframe == timeframe with
  | some ordered => return ordered
  | none => .error (.valueError ("HTF bias requires exactly " ++ tupleText htfTimeframes ++ ", got " ++
      tupleText (normalized.map fun member => member.snapshot.timeframe) ++ "."))

/-! ### Which members are taken -/

/-- Two members of one instrument and of different timeframes. -/
def PinnedHTFMember.Fits (member other : PinnedHTFMember) : Prop :=
  member.snapshot.timeframe ≠ other.snapshot.timeframe ∧ member.snapshot.instrument = other.snapshot.instrument

/-- The candles of a member are taken. -/
def PinnedHTFMember.IsPinned (member : PinnedHTFMember) : Prop :=
  ∃ closed, member.normalizedCandles = .ok closed

theorem PinnedHTFMember.Fits.symm {member other : PinnedHTFMember} (h : member.Fits other) : other.Fits member :=
  ⟨h.1.symm, h.2.symm⟩

theorem PinnedHTFMember.pinned {member : PinnedHTFMember} {closed : List Candle}
    (h : member.normalizedCandles = .ok closed) :
    member.snapshot.timeframe ∈ htfTimeframes ∧ ∃ last, lastRow closed = .ok last := by
  simp only [normalizedCandles] at h
  split_ifs at h with hsupported hpositive hmatch
  cases hlast : (validateCandleDf member.candles).getLast? with
  | none =>
      rw [hlast] at h
      cases h
  | some last =>
      rw [hlast] at h
      simp only at h
      split_ifs at h with hboundary
      cases h
      refine ⟨hsupported, last, ?_⟩
      rw [lastRow, hlast]

theorem addMembers_eq_ok {seen members normalized : List PinnedHTFMember} :
    addMembers seen members = .ok normalized ↔ normalized = seen ++ members ∧
      (∀ other ∈ seen, ∀ member ∈ members, other.Fits member) ∧ members.Pairwise PinnedHTFMember.Fits ∧
      ∀ member ∈ members, member.IsPinned := by
  induction members generalizing seen with
  | nil =>
      rw [addMembers, List.append_nil]
      exact ⟨fun h => ⟨(Except.ok.inj h).symm, by simp⟩, fun h => congrArg Except.ok h.1.symm⟩
  | cons member members ih =>
      have hfits : (seen.any fun other => other.snapshot.timeframe == member.snapshot.timeframe) = false →
          (seen.any fun other => other.snapshot.instrument != member.snapshot.instrument) = false →
          ∀ other ∈ seen, other.Fits member := fun htimeframe hinstrument other hother => by
        rw [List.any_eq_false] at htimeframe hinstrument
        exact ⟨by simpa using htimeframe other hother, by simpa using hinstrument other hother⟩
      rw [addMembers, List.pairwise_cons, List.forall_mem_cons]
      split_ifs with hduplicate hinstrument
      · refine iff_of_false (fun h => nomatch h) fun h => ?_
        obtain ⟨other, hother, htimeframe⟩ := List.any_eq_true.mp hduplicate
        exact (h.2.1 other hother member List.mem_cons_self).1 (beq_iff_eq.mp htimeframe)
      · refine iff_of_false (fun h => nomatch h) fun h => ?_
        obtain ⟨other, hother, hdiffers⟩ := List.any_eq_true.mp hinstrument
        exact (bne_iff_ne.mp hdiffers) (h.2.1 other hother member List.mem_cons_self).2
      · rw [bind_eq_ok]
        constructor
        · rintro ⟨closed, hclosed, h⟩
          obtain ⟨rfl, hseen, hmembers, hpinned⟩ := ih.mp h
          have hmember := hfits (Bool.not_eq_true _ ▸ hduplicate) (Bool.not_eq_true _ ▸ hinstrument)
          refine ⟨(List.append_cons ..).symm, fun other hother => ?_, ⟨?_, hmembers⟩, ⟨closed, hclosed⟩,
            hpinned⟩
          · rw [List.forall_mem_cons]
            exact ⟨hmember other hother, hseen other (List.mem_append_left _ hother)⟩
          · exact hseen member (List.mem_append_right _ List.mem_cons_self)
        · rintro ⟨rfl, hseen, ⟨hmember, hmembers⟩, ⟨closed, hclosed⟩, hpinned⟩
          refine ⟨closed, hclosed, ih.mpr ⟨List.append_cons .., fun other hother => ?_, hmembers, hpinned⟩⟩
          rw [List.mem_append, List.mem_singleton] at hother
          obtain hother | rfl := hother
          · exact (List.forall_mem_cons.mp (hseen other hother)).2
          · exact hmember

section taken

variable {members ordered : List PinnedHTFMember} (hfits : members.Pairwise PinnedHTFMember.Fits)

include hfits in
theorem nodup_timeframes : (members.map fun member => member.snapshot.timeframe).Nodup :=
  List.pairwise_map.mpr (hfits.imp fun h => h.1)

include hfits in
/-- One member at most is found for a timeframe. -/
theorem find?_timeframe {timeframe : String} {member : PinnedHTFMember} :
    members.find? (fun member => member.snapshot.timeframe == timeframe) = some member ↔
      member.snapshot.timeframe = timeframe ∧ member ∈ members := by
  refine ⟨fun h => ⟨?_, List.mem_of_find?_eq_some h⟩, fun ⟨htimeframe, hmember⟩ => ?_⟩
  · have hfirst := List.find?_some h
    exact beq_iff_eq.mp hfirst
  · cases hfound : members.find? fun member => member.snapshot.timeframe == timeframe with
    | none => exact absurd (beq_iff_eq.mpr htimeframe) (List.find?_eq_none.mp hfound member hmember)
    | some other =>
        have hfirst := List.find?_some hfound
        have hother : other.snapshot.timeframe = timeframe := beq_iff_eq.mp hfirst
        rw [List.inj_on_of_nodup_map (nodup_timeframes hfits) (List.mem_of_find?_eq_some hfound) hmember
          (hother.trans htimeframe.symm)]

include hfits in
theorem mapM_timeframes {timeframes : List String} :
    (timeframes.mapM fun timeframe => members.find? fun member => member.snapshot.timeframe == timeframe) =
        some ordered ↔
      ordered.map (fun member => member.snapshot.timeframe) = timeframes ∧
        ∀ member ∈ ordered, member ∈ members := by
  induction timeframes generalizing ordered with
  | nil =>
      rw [List.mapM_nil, List.map_eq_nil_iff]
      exact ⟨fun h => by cases h; exact ⟨rfl, by simp⟩, fun h => congrArg some h.1.symm⟩
  | cons timeframe timeframes ih =>
      simp only [List.mapM_cons, Option.bind_eq_bind, Option.bind_eq_some_iff, Option.pure_def, Option.some.injEq, ih,
        find?_timeframe hfits]
      constructor
      · rintro ⟨member, ⟨rfl, hmember⟩, rest, ⟨rfl, hrest⟩, rfl⟩
        exact ⟨rfl, List.forall_mem_cons.mpr ⟨hmember, hrest⟩⟩
      · rintro ⟨htimeframes, hmem⟩
        obtain ⟨member, rest, rfl, htimeframe, hrest⟩ := List.map_eq_cons_iff.mp htimeframes
        obtain ⟨hmember, hmem⟩ := List.forall_mem_cons.mp hmem
        exact ⟨member, ⟨htimeframe, hmember⟩, rest, ⟨hrest, hmem⟩, rfl⟩

include hfits in
theorem perm_of_timeframes (hpinned : ∀ member ∈ members, member.IsPinned)
    (htimeframes : ordered.map (fun member => member.snapshot.timeframe) = htfTimeframes)
    (hmem : ∀ member ∈ ordered, member ∈ members) : ordered.Perm members := by
  have hordered : ordered.Nodup := List.Nodup.of_map _ (htimeframes ▸ (by decide : htfTimeframes.Nodup))
  refine (List.perm_ext_iff_of_nodup hordered (nodup_timeframes hfits).of_map).mpr fun member => ⟨hmem member, ?_⟩
  intro hmember
  obtain ⟨closed, hclosed⟩ := hpinned member hmember
  have htimeframe := (PinnedHTFMember.pinned hclosed).1
  rw [← htimeframes, List.mem_map] at htimeframe
  obtain ⟨other, hother, hsame⟩ := htimeframe
  rwa [← List.inj_on_of_nodup_map (nodup_timeframes hfits) (hmem other hother) hmember hsame]

end taken

/-- The members taken are pinned, fit each other, and are given in the order of the timeframes. -/
theorem normalizeMembers_eq_ok {members ordered : List PinnedHTFMember} :
    normalizeMembers members = .ok ordered ↔ ordered.Perm members ∧
      ordered.map (fun member => member.snapshot.timeframe) = htfTimeframes ∧
      members.Pairwise PinnedHTFMember.Fits ∧ ∀ member ∈ members, member.IsPinned := by
  constructor
  · intro h
    obtain ⟨normalized, hnormalized, htaken⟩ := bind_eq_ok.mp h
    obtain ⟨hall, -, hfits, hpinned⟩ := addMembers_eq_ok.mp hnormalized
    obtain rfl : normalized = members := hall
    cases hfound : htfTimeframes.mapM fun timeframe =>
        normalized.find? fun member => member.snapshot.timeframe == timeframe with
    | none =>
        rw [hfound] at htaken
        cases htaken
    | some found =>
        rw [hfound] at htaken
        cases htaken
        obtain ⟨htimeframes, hmem⟩ := (mapM_timeframes hfits).mp hfound
        exact ⟨perm_of_timeframes hfits hpinned htimeframes hmem, htimeframes, hfits, hpinned⟩
  · rintro ⟨hperm, htimeframes, hfits, hpinned⟩
    have hadd : addMembers [] members = .ok members := addMembers_eq_ok.mpr ⟨rfl, by simp, hfits, hpinned⟩
    have hfound := (mapM_timeframes hfits).mpr ⟨htimeframes, fun member => hperm.mem_iff.mp⟩
    unfold normalizeMembers
    rw [hadd]
    simp only [bind, Except.bind, hfound]
    rfl

/-! ### Changes of regime -/

/-- `HTFBiasTuning`. -/
structure HtfBiasTuning where
  weights : String → ℚ
  transitionWindows : String → ℤ
  neutralBand : ℚ
  rupturesPenalty : ℚ

/-- What `Settings` checks of the tuning. -/
structure HtfBiasTuning.Checked (tuning : HtfBiasTuning) : Prop where
  weights : ∀ timeframe ∈ htfTimeframes, 0 < tuning.weights timeframe
  transitionWindows : ∀ timeframe ∈ htfTimeframes, 0 < tuning.transitionWindows timeframe
  neutralBand : 0 ≤ tuning.neutralBand ∧ tuning.neutralBand < 1
  rupturesPenalty : 0 < tuning.rupturesPenalty

/-- `normalized_weights`. -/
def HtfBiasTuning.normalizedWeights (tuning : HtfBiasTuning) : Except Exn (String → ℚ) :=
  let total := (htfTimeframes.map tuning.weights).sum
  if total ≤ 0 then .error (.valueError "HTF bias weights must sum to a positive value.")
  else .ok fun timeframe => tuning.weights timeframe / total

/-- `RegimeChangepoint`. -/
structure RegimeChangepoint where
  timeframe : String
  changepointIndex : ℕ
  changepointTime : Instant
  method : String
  barsAgo : Option ℕ
deriving DecidableEq, Repr

/-- `Series.mean`. -/
def mean (values : List ℚ) : ℚ := values.sum / values.length

/-- `Series.median`. -/
def median (values : List ℚ) : ℚ :=
  let sorted := sortOn id values
  let middle := sorted.length / 2
  if sorted.length % 2 = 1 then sorted.getD middle 0
  else (sorted.getD (middle - 1) 0 + sorted.getD middle 0) / 2

/-- The square of `Series.std(ddof=0)`. -/
def variance (values : List ℚ) : ℚ := mean (values.map fun value => (value - mean values) ^ 2)

/-- `closes.diff().dropna()`. -/
def differences (closes : List ℚ) : List ℚ := (closes.zip closes.tail).map fun pair => pair.2 - pair.1

/-- `_passes_regime_shift_filter`; the deviation is compared by its square. -/
def passesRegimeShiftFilter (transitionWindow : ℤ) (closes : List ℚ) (changepointIndex : ℕ) : Bool :=
  let returns := differences closes
  let window := (max 4 transitionWindow).toNat
  let preReturns := (returns.take changepointIndex).drop (changepointIndex - window)
  let postReturns := (returns.drop changepointIndex).take window
  let shift := |mean postReturns - mean preReturns|
  !returns.isEmpty && !preReturns.isEmpty && !postReturns.isEmpty &&
    decide (median (returns.map fun value => |value|) * (3 / 2) ≤ shift) &&
    decide (variance returns * (9 / 4) ≤ shift ^ 2) && decide (3 / 2000000000 ≤ shift)

/-- `ruptures.Pelt(model="rbf").fit(values).predict(pen=penalty)`. -/
abbrev Predict := List ℚ → ℚ → List ℕ

section analysis

variable (predict : Predict) (tuning : HtfBiasTuning)

/-- `_detect_changepoint`. -/
def detectChangepoint (timeframe : String) (closed : List Candle) : Option RegimeChangepoint :=
  if closed.length < 8 then none
  else
    let closes := closed.map fun bar => bar.close
    match (predict closes tuning.rupturesPenalty).reverse with
    | _ :: changepointIndex :: _ =>
        match closed[changepointIndex]? with
        | none => none
        | some bar =>
            if passesRegimeShiftFilter (tuning.transitionWindows timeframe) closes changepointIndex then
              some ⟨timeframe, changepointIndex, bar.time, "ruptures_pelt_rbf",
                some (closed.length - 1 - changepointIndex)⟩
            else none
    | _ => none

/-! ### Scores -/

/-- `_direction_to_sign`. -/
def BinaryDirection.sign : BinaryDirection → ℚ
  | .BULLISH => 1
  | .BEARISH => -1

/-- `_direction_from_score`. -/
def directionFromScore (neutralBand score : ℚ) : Direction :=
  if neutralBand ≤ score then .BULLISH
  else if score ≤ -neutralBand then .BEARISH
  else .NEUTRAL

/-- `_clamp_score`. -/
def clampScore (value : ℚ) : ℚ := max (-1) (min 1 value)

/-- The latest break, and the balance of the recent ones. -/
def structureScore (events : StructureEventSummary) : ℚ :=
  (match events.latestBreak with
    | none => 0
    | some found => (if found.kind = .BOS then 45 / 100 else 35 / 100) * found.direction.sign) +
  if events.recentBreaks = [] then 0
  else 15 / 100 * ((events.recentBreaks.map fun found => found.direction.sign).sum / events.recentBreaks.length)

/-- The close against the previous day. -/
def previousDayScore (latestClose : ℚ) (previous : PreviousHighLowSummary) : ℚ :=
  if previous.brokenHigh && !previous.brokenLow && previous.previousHigh.any (fun high => high < latestClose) then
    20 / 100
  else if previous.brokenLow && !previous.brokenHigh && previous.previousLow.any (fun low => latestClose < low) then
    -(20 / 100)
  else 0

/-- The retracement, the weaker the deeper. -/
def retracementScore (retracement : RetracementSummary) : ℚ :=
  match retracement.direction with
  | none => 0
  | some direction =>
      let current := retracement.currentRetracementPct.getD 0
      (if 66 < current then 4 / 100 else if 50 < current then 7 / 100 else 10 / 100) * direction.sign

/-- The first order block that is not mitigated. -/
def orderBlockScore (blocks : List OrderBlockSummary) : ℚ :=
  match blocks.find? fun block => block.isMitigated != some true with
  | none => 0
  | some block => 10 / 100 * block.direction.sign

/-- `metrics.get`: the last value under a name stands. -/
def metricOf (metrics : MetricValues) (name : String) : Option ℚ :=
  metrics.reverse.findSome? fun metric => if metric.1 = name then metric.2 else none

/-- The MACD histogram and the RSI. -/
def momentumScore (metrics : MetricValues) : ℚ :=
  (match metricOf metrics "macd_hist" with
    | none => 0
    | some value => if 0 < value then 10 / 100 else if value < 0 then -(10 / 100) else 0) +
  match metricOf metrics "rsi" with
  | none => 0
  | some value => if 55 ≤ value then 5 / 100 else if value ≤ 45 then -(5 / 100) else 0

/-- `_trend_dampener`. -/
def trendDampener (snapshot : BotSnapshot) : ℚ :=
  (match snapshot.chop with
    | .PASS => 1
    | .CAUTION => 80 / 100
    | .REJECT => 60 / 100) *
  match metricOf snapshot.metrics "adx" with
  | none => 85 / 100
  | some adx => if adx < 15 then 65 / 100 else if adx < 20 then 80 / 100 else 1

/-- `_TimeframeBiasEvidence`. -/
structure TimeframeBiasEvidence where
  timeframe : String
  score : ℚ
  vote : Direction
  latestBreak : Option StructureBreak
  changepoint : Option RegimeChangepoint
  isRecentTransition : Bool
deriving DecidableEq, Repr

/-- The score of a snapshot, before its bounds. -/
def snapshotScore (snapshot : BotSnapshot) (latestClose : ℚ) : ℚ :=
  (structureScore snapshot.structureEvents +
    (snapshot.smcContext.previousHighLow.elim 0 (previousDayScore latestClose)) +
    (snapshot.smcContext.retracement.elim 0 retracementScore) +
    orderBlockScore snapshot.orderBlocks + momentumScore snapshot.metrics) * trendDampener snapshot

/-- `changepoint.bars_ago <= self.tuning.transition_windows[timeframe]`. -/
def HtfBiasTuning.isRecent (changepoint : RegimeChangepoint) : Bool :=
  changepoint.barsAgo.any fun barsAgo => decide ((barsAgo : ℤ) ≤ tuning.transitionWindows changepoint.timeframe)

/-- `_score_timeframe`. -/
def scoreTimeframe (member : PinnedHTFMember) : Except Exn TimeframeBiasEvidence := do
  let closed ← member.normalizedCandles
  let last ← lastRow closed
  let timeframe := member.snapshot.timeframe
  let score := clampScore (snapshotScore member.snapshot last.close)
  let changepoint := detectChangepoint predict tuning timeframe closed
  return {
    timeframe
    score
    vote := directionFromScore tuning.neutralBand score
    latestBreak := member.snapshot.structureEvents.latestBreak
    changepoint
    isRecentTransition := changepoint.any tuning.isRecent }

/-! ### The bias -/

/-- `HTFBiasResult`. -/
@[ext] structure HtfBiasResult where
  direction : Direction
  alignmentScore : ℚ
  timeframeVotes : List (String × Direction)
  structureBreaks : List StructureBreak
  regimeChangepoints : List RegimeChangepoint
  isTransitioning : Bool
  lastChangepointBarsAgo : Option ℕ
  bounds : 0 ≤ alignmentScore ∧ alignmentScore ≤ 1
  known : lastChangepointBarsAgo ≠ none → regimeChangepoints ≠ []
deriving DecidableEq, Repr

def voteOf (evidence : List TimeframeBiasEvidence) (timeframe : String) : Option Direction :=
  (evidence.find? fun item => item.timeframe == timeframe).map fun item => item.vote

/-- `_is_material_d_h4_conflict`. -/
def isMaterialConflict (evidence : List TimeframeBiasEvidence) : Bool :=
  decide (voteOf evidence "D" ≠ some .NEUTRAL ∧ voteOf evidence "H4" ≠ some .NEUTRAL ∧
    voteOf evidence "D" ≠ voteOf evidence "H4")

/-- `_has_transition_conflict`. -/
def hasTransitionConflict (evidence : List TimeframeBiasEvidence) (baseDirection : Direction) : Bool :=
  decide (baseDirection ≠ .NEUTRAL) && evidence.any fun item =>
    item.isRecentTransition && decide (item.vote ≠ .NEUTRAL ∧ item.vote ≠ baseDirection)

/-- `non_neutral_votes`. -/
def nonNeutralVotes (evidence : List TimeframeBiasEvidence) : List Direction :=
  (evidence.map fun item => item.vote).filter fun vote => decide (vote ≠ .NEUTRAL)

/-- Weighed evidence gives no direction. -/
def IsUndecided (evidence : List TimeframeBiasEvidence) (aggregate : ℚ) : Prop :=
  directionFromScore (15 / 100) aggregate = .NEUTRAL ∨ |aggregate| < tuning.neutralBand ∨
    isMaterialConflict evidence = true ∨
    hasTransitionConflict evidence (directionFromScore (15 / 100) aggregate) = true

instance (evidence : List TimeframeBiasEvidence) (aggregate : ℚ) :
    Decidable (IsUndecided tuning evidence aggregate) :=
  inferInstanceAs (Decidable (_ ∨ _))

/-- In a transition, every vote that is not neutral is for the direction. -/
def IsAgreedTransition (evidence : List TimeframeBiasEvidence) (direction : Direction) : Prop :=
  (evidence.any fun item => item.isRecentTransition) = true ∧ nonNeutralVotes evidence ≠ [] ∧
    ∀ vote ∈ nonNeutralVotes evidence, vote = direction

instance (evidence : List TimeframeBiasEvidence) (direction : Direction) :
    Decidable (IsAgreedTransition evidence direction) :=
  inferInstanceAs (Decidable (_ ∧ _))

/-- The alignment of the evidence for a direction. -/
def alignmentScore (evidence : List TimeframeBiasEvidence) (aggregate : ℚ) (direction : Direction) : ℚ :=
  if IsAgreedTransition evidence direction then min (min |aggregate| 1) (55 / 100) else min |aggregate| 1

def alignEvidence (evidence : List TimeframeBiasEvidence) (aggregate : ℚ) : Direction × ℚ :=
  if IsUndecided tuning evidence aggregate then (.NEUTRAL, 0)
  else
    (directionFromScore (15 / 100) aggregate,
      alignmentScore evidence aggregate (directionFromScore (15 / 100) aggregate))

theorem alignEvidence_bounds (evidence : List TimeframeBiasEvidence) (aggregate : ℚ) :
    0 ≤ (alignEvidence tuning evidence aggregate).2 ∧ (alignEvidence tuning evidence aggregate).2 ≤ 1 := by
  have hmin : 0 ≤ min |aggregate| 1 := le_min (abs_nonneg _) zero_le_one
  unfold alignEvidence alignmentScore
  split_ifs with hundecided hagreed
  · exact ⟨le_refl 0, zero_le_one⟩
  · exact ⟨le_min hmin (by norm_num), (min_le_left _ _).trans (min_le_right _ _)⟩
  · exact ⟨hmin, min_le_right _ _⟩

/-- `last_changepoint_bars_ago`. -/
def lastBarsAgo (changepoints : List RegimeChangepoint) : Option ℕ :=
  (changepoints.filterMap fun found => found.barsAgo).min?

theorem ne_nil_of_lastBarsAgo (changepoints : List RegimeChangepoint) (h : lastBarsAgo changepoints ≠ none) :
    changepoints ≠ [] := by
  rintro rfl
  exact h rfl

def biasOfEvidence (evidence : List TimeframeBiasEvidence) (aggregate : ℚ) : HtfBiasResult where
  direction := (alignEvidence tuning evidence aggregate).1
  alignmentScore := (alignEvidence tuning evidence aggregate).2
  timeframeVotes := evidence.map fun item => (item.timeframe, item.vote)
  structureBreaks := sortOnDesc StructureBreak.occurredAt (evidence.filterMap fun item => item.latestBreak)
  regimeChangepoints := evidence.filterMap fun item => item.changepoint
  isTransitioning := evidence.any fun item => item.isRecentTransition
  lastChangepointBarsAgo := lastBarsAgo (evidence.filterMap fun item => item.changepoint)
  bounds := alignEvidence_bounds tuning evidence aggregate
  known := ne_nil_of_lastBarsAgo (evidence.filterMap fun item => item.changepoint)

/-- `aggregate`. -/
def aggregateScore (weights : String → ℚ) (evidence : List TimeframeBiasEvidence) : ℚ :=
  (evidence.map fun item => weights item.timeframe * item.score).sum

/-- `compute`. -/
def computeHtfBias (members : List PinnedHTFMember) : Except Exn HtfBiasResult := do
  let ordered ← normalizeMembers members
  let weights ← tuning.normalizedWeights
  let evidence ← ordered.mapM (scoreTimeframe predict tuning)
  return biasOfEvidence tuning evidence (aggregateScore weights evidence)

end analysis

/-! ### What a bias promises -/

section sound

variable {predict : Predict} {tuning : HtfBiasTuning}

structure TimeframeBiasEvidence.Scored (tuning : HtfBiasTuning) (item : TimeframeBiasEvidence) : Prop where
  vote : item.vote = directionFromScore tuning.neutralBand item.score
  recent : item.isRecentTransition = item.changepoint.any tuning.isRecent
  timeframe : ∀ found, item.changepoint = some found → found.timeframe = item.timeframe

theorem timeframe_detectChangepoint {timeframe : String} {closed : List Candle} {found : RegimeChangepoint}
    (h : detectChangepoint predict tuning timeframe closed = some found) : found.timeframe = timeframe := by
  simp only [detectChangepoint] at h
  split at h
  · cases h
  · split at h
    · split at h
      · cases h
      · split at h
        · cases h
          rfl
        · cases h
    · cases h

theorem scoreTimeframe_ok {member : PinnedHTFMember} {item : TimeframeBiasEvidence}
    (h : scoreTimeframe predict tuning member = .ok item) :
    item.timeframe = member.snapshot.timeframe ∧ item.Scored tuning := by
  obtain ⟨closed, -, h⟩ := bind_eq_ok.mp h
  obtain ⟨last, -, h⟩ := bind_eq_ok.mp h
  cases h
  exact ⟨rfl, rfl, rfl, fun found hfound => timeframe_detectChangepoint hfound⟩

/-- What a bias promises, of its own fields. -/
structure HtfBiasResult.Follows (tuning : HtfBiasTuning) (result : HtfBiasResult) : Prop where
  timeframes : result.timeframeVotes.map Prod.fst = htfTimeframes
  breaks : result.structureBreaks.Pairwise fun found older => older.occurredAt ≤ found.occurredAt
  aligned : result.alignmentScore = 0 ↔ result.direction = .NEUTRAL
  supported : result.direction ≠ .NEUTRAL → ∃ timeframe, (timeframe, result.direction) ∈ result.timeframeVotes
  unopposed : result.direction ≠ .NEUTRAL → ∀ vote vote', ("D", vote) ∈ result.timeframeVotes →
    ("H4", vote') ∈ result.timeframeVotes → vote = .NEUTRAL ∨ vote' = .NEUTRAL ∨ vote = vote'
  settled : result.direction ≠ .NEUTRAL → ∀ found ∈ result.regimeChangepoints, tuning.isRecent found = true →
    ∀ vote, (found.timeframe, vote) ∈ result.timeframeVotes → vote = .NEUTRAL ∨ vote = result.direction
  transitioning : result.isTransitioning = result.regimeChangepoints.any tuning.isRecent
  cautious : result.isTransitioning = true →
    (∀ timeframe vote, (timeframe, vote) ∈ result.timeframeVotes →
      vote = .NEUTRAL ∨ vote = result.direction) →
    result.alignmentScore ≤ 55 / 100

theorem directionFromScore_cases (neutralBand score : ℚ) :
    neutralBand ≤ score ∧ directionFromScore neutralBand score = .BULLISH ∨
      score ≤ -neutralBand ∧ directionFromScore neutralBand score = .BEARISH ∨
      directionFromScore neutralBand score = .NEUTRAL := by
  unfold directionFromScore
  split_ifs with hbullish hbearish
  · exact .inl ⟨hbullish, rfl⟩
  · exact .inr (.inl ⟨hbearish, rfl⟩)
  · exact .inr (.inr rfl)

theorem directionFromScore_bullish {neutralBand score : ℚ} (h : neutralBand ≤ score) :
    directionFromScore neutralBand score = .BULLISH := if_pos h

theorem directionFromScore_bearish {neutralBand score : ℚ} (hband : 0 ≤ neutralBand) (hscore : score < 0)
    (h : score ≤ -neutralBand) : directionFromScore neutralBand score = .BEARISH := by
  unfold directionFromScore
  rw [if_neg (by linarith), if_pos h]

section weighed

variable {evidence : List TimeframeBiasEvidence} {weights : String → ℚ}

theorem aggregateScore_between (hne : evidence ≠ []) (hpos : ∀ item ∈ evidence, 0 < weights item.timeframe)
    (hsum : (evidence.map fun item => weights item.timeframe).sum = 1) :
    (∃ item ∈ evidence, aggregateScore weights evidence ≤ item.score) ∧
      ∃ item ∈ evidence, item.score ≤ aggregateScore weights evidence := by
  have hmean : (evidence.map fun item => weights item.timeframe * aggregateScore weights evidence).sum =
      aggregateScore weights evidence := by
    rw [List.sum_map_mul_right, hsum, one_mul]
  constructor
  · obtain ⟨item, hitem, hle⟩ := List.exists_le_of_sum_le hne
      (fun item => weights item.timeframe * aggregateScore weights evidence)
      (fun item => weights item.timeframe * item.score) hmean.le
    exact ⟨item, hitem, le_of_mul_le_mul_left hle (hpos item hitem)⟩
  · obtain ⟨item, hitem, hle⟩ := List.exists_le_of_sum_le hne
      (fun item => weights item.timeframe * item.score)
      (fun item => weights item.timeframe * aggregateScore weights evidence) hmean.ge
    exact ⟨item, hitem, le_of_mul_le_mul_left hle (hpos item hitem)⟩

end weighed

theorem alignEvidence_undecided {evidence : List TimeframeBiasEvidence} {aggregate : ℚ}
    (h : IsUndecided tuning evidence aggregate) : alignEvidence tuning evidence aggregate = (.NEUTRAL, 0) := if_pos h

theorem alignEvidence_decided {evidence : List TimeframeBiasEvidence} {aggregate : ℚ}
    (h : ¬IsUndecided tuning evidence aggregate) :
    alignEvidence tuning evidence aggregate = (directionFromScore (15 / 100) aggregate,
      alignmentScore evidence aggregate (directionFromScore (15 / 100) aggregate)) := if_neg h

theorem alignmentScore_pos (evidence : List TimeframeBiasEvidence) {aggregate : ℚ} (direction : Direction)
    (h : aggregate ≠ 0) : 0 < alignmentScore evidence aggregate direction := by
  have hmin : 0 < min |aggregate| 1 := lt_min (abs_pos.mpr h) one_pos
  unfold alignmentScore
  split_ifs with hagreed
  · exact lt_min hmin (by norm_num)
  · exact hmin

theorem mem_nonNeutralVotes {evidence : List TimeframeBiasEvidence} {vote : Direction} :
    vote ∈ nonNeutralVotes evidence ↔ (∃ item ∈ evidence, item.vote = vote) ∧ vote ≠ .NEUTRAL := by
  rw [nonNeutralVotes, List.mem_filter, List.mem_map, decide_eq_true_iff]

section weighed

variable {evidence : List TimeframeBiasEvidence} {aggregate : ℚ}
  (htimeframes : evidence.map (fun item => item.timeframe) = htfTimeframes)

include htimeframes in
theorem eq_of_timeframe {item item' : TimeframeBiasEvidence} (hitem : item ∈ evidence) (hitem' : item' ∈ evidence)
    (h : item.timeframe = item'.timeframe) : item = item' :=
  List.inj_on_of_nodup_map (htimeframes ▸ (by decide : htfTimeframes.Nodup)) hitem hitem' h

include htimeframes in
theorem voteOf_timeframe {item : TimeframeBiasEvidence} (hitem : item ∈ evidence) :
    voteOf evidence item.timeframe = some item.vote := by
  cases hfound : evidence.find? fun other => other.timeframe == item.timeframe with
  | none =>
      have hnone := List.find?_eq_none.mp hfound item hitem
      exact absurd (beq_self_eq_true item.timeframe) hnone
  | some other =>
      have htimeframe : other.timeframe = item.timeframe := by simpa only [beq_iff_eq] using List.find?_some hfound
      rw [voteOf, hfound, eq_of_timeframe htimeframes (List.mem_of_find?_eq_some hfound) hitem htimeframe]
      rfl

/-- A decided direction has the sign of the aggregate, which reaches both bands. -/
theorem decided_cases (h : ¬IsUndecided tuning evidence aggregate) :
    (0 < aggregate ∧ tuning.neutralBand ≤ aggregate ∧ directionFromScore (15 / 100) aggregate = .BULLISH) ∨
      (aggregate < 0 ∧ aggregate ≤ -tuning.neutralBand ∧
        directionFromScore (15 / 100) aggregate = .BEARISH) := by
  obtain ⟨hneutral, hband, -⟩ := not_or.mp h |>.imp_right not_or.mp
  rw [not_lt] at hband
  obtain ⟨hscore, hdirection⟩ | ⟨hscore, hdirection⟩ | hdirection :=
    directionFromScore_cases (15 / 100) aggregate
  · have hpos : 0 < aggregate := by linarith
    rw [abs_of_pos hpos] at hband
    exact .inl ⟨hpos, hband, hdirection⟩
  · have hneg : aggregate < 0 := by linarith
    rw [abs_of_neg hneg] at hband
    exact .inr ⟨hneg, by linarith, hdirection⟩
  · exact absurd hdirection hneutral

theorem exists_vote (hband : 0 ≤ tuning.neutralBand) (hscored : ∀ item ∈ evidence, item.Scored tuning)
    (hbetween : (∃ item ∈ evidence, aggregate ≤ item.score) ∧ ∃ item ∈ evidence, item.score ≤ aggregate)
    (h : ¬IsUndecided tuning evidence aggregate) :
    ∃ item ∈ evidence, item.vote = directionFromScore (15 / 100) aggregate := by
  obtain ⟨-, hreached, hdirection⟩ | ⟨hneg, hreached, hdirection⟩ := decided_cases h
  · obtain ⟨item, hitem, hscore⟩ := hbetween.1
    refine ⟨item, hitem, ?_⟩
    rw [(hscored item hitem).vote, hdirection]
    exact directionFromScore_bullish (hreached.trans hscore)
  · obtain ⟨item, hitem, hscore⟩ := hbetween.2
    refine ⟨item, hitem, ?_⟩
    rw [(hscored item hitem).vote, hdirection]
    exact directionFromScore_bearish hband (hscore.trans_lt hneg) (hscore.trans hreached)

theorem mem_timeframeVotes {timeframe : String} {vote : Direction} :
    (timeframe, vote) ∈ (biasOfEvidence tuning evidence aggregate).timeframeVotes ↔
      ∃ item ∈ evidence, item.timeframe = timeframe ∧ item.vote = vote := by
  simp only [biasOfEvidence, List.mem_map, Prod.mk.injEq]

theorem decided_of_direction (h : (biasOfEvidence tuning evidence aggregate).direction ≠ .NEUTRAL) :
    ¬IsUndecided tuning evidence aggregate ∧
      (biasOfEvidence tuning evidence aggregate).direction = directionFromScore (15 / 100) aggregate := by
  have hdecided : ¬IsUndecided tuning evidence aggregate := fun hundecided =>
    h (congrArg Prod.fst (alignEvidence_undecided hundecided))
  exact ⟨hdecided, congrArg Prod.fst (alignEvidence_decided hdecided)⟩

/-- Without a conflict no recent transition is against the direction. -/
theorem vote_of_transition {direction : Direction} (hdirection : direction ≠ .NEUTRAL)
    (h : hasTransitionConflict evidence direction ≠ true) {item : TimeframeBiasEvidence} (hitem : item ∈ evidence)
    (hrecent : item.isRecentTransition = true) : item.vote = .NEUTRAL ∨ item.vote = direction := by
  by_contra hagainst
  rw [not_or] at hagainst
  refine h ?_
  rw [hasTransitionConflict, Bool.and_eq_true, decide_eq_true_iff, List.any_eq_true]
  refine ⟨hdirection, item, hitem, ?_⟩
  rw [Bool.and_eq_true, decide_eq_true_iff]
  exact ⟨hrecent, hagainst⟩

theorem alignEvidence_eq_zero :
    (alignEvidence tuning evidence aggregate).2 = 0 ↔ (alignEvidence tuning evidence aggregate).1 = .NEUTRAL := by
  by_cases hundecided : IsUndecided tuning evidence aggregate
  · rw [alignEvidence_undecided hundecided]
    exact iff_of_true rfl rfl
  · rw [alignEvidence_decided hundecided]
    obtain ⟨hsign, -, -⟩ | ⟨hsign, -, -⟩ := decided_cases hundecided
    · exact iff_of_false (alignmentScore_pos _ _ hsign.ne').ne' (not_or.mp hundecided).1
    · exact iff_of_false (alignmentScore_pos _ _ hsign.ne).ne' (not_or.mp hundecided).1

include htimeframes in
theorem follows_biasOfEvidence (hscored : ∀ item ∈ evidence, item.Scored tuning)
    (hband : 0 ≤ tuning.neutralBand)
    (hbetween : (∃ item ∈ evidence, aggregate ≤ item.score) ∧
      ∃ item ∈ evidence, item.score ≤ aggregate) :
    (biasOfEvidence tuning evidence aggregate).Follows tuning := by
  constructor
  case timeframes =>
    rw [← htimeframes]
    exact List.map_map
  case breaks => exact pairwise_sortOnDesc
  case aligned => exact alignEvidence_eq_zero
  case supported =>
    intro h
    obtain ⟨hdecided, hdirection⟩ := decided_of_direction h
    obtain ⟨item, hitem, hfor⟩ := exists_vote hband hscored hbetween hdecided
    exact ⟨item.timeframe, mem_timeframeVotes.mpr ⟨item, hitem, rfl, hfor.trans hdirection.symm⟩⟩
  case unopposed =>
    intro h vote vote' hd hh4
    obtain ⟨item, hitem, htf, rfl⟩ := mem_timeframeVotes.mp hd
    obtain ⟨item', hitem', htf', rfl⟩ := mem_timeframeVotes.mp hh4
    have hconflict : isMaterialConflict evidence ≠ true := fun hconflict =>
      (decided_of_direction h).1 (.inr (.inr (.inl hconflict)))
    rw [isMaterialConflict, ← htf, ← htf', voteOf_timeframe htimeframes hitem,
      voteOf_timeframe htimeframes hitem'] at hconflict
    simpa only [ne_eq, decide_eq_true_eq, Option.some.injEq, not_and_or, not_not] using hconflict
  case settled =>
    intro h found hfound hrecent vote hmem
    obtain ⟨hdecided, hdirection⟩ := decided_of_direction h
    obtain ⟨item, hitem, hchangepoint⟩ := List.mem_filterMap.mp hfound
    obtain ⟨item', hitem', htf, rfl⟩ := mem_timeframeVotes.mp hmem
    -- the timeframe of the changepoint is that of the evidence, which is one for each timeframe
    obtain rfl : item = item' := eq_of_timeframe htimeframes hitem hitem'
      (((hscored item hitem).timeframe found hchangepoint).symm.trans htf.symm)
    have hconflict : hasTransitionConflict evidence (directionFromScore (15 / 100) aggregate) ≠ true :=
      fun hconflict => hdecided (.inr (.inr (.inr hconflict)))
    rw [hdirection] at h ⊢
    refine vote_of_transition h hconflict hitem ?_
    rw [(hscored item hitem).recent, hchangepoint]
    exact hrecent
  case transitioning =>
    show evidence.any (fun item => item.isRecentTransition) =
      (evidence.filterMap fun item => item.changepoint).any tuning.isRecent
    rw [List.any_filterMap, Bool.eq_iff_iff, List.any_eq_true, List.any_eq_true]
    refine exists_congr fun item => and_congr_right fun hitem => ?_
    rw [(hscored item hitem).recent]
    cases item.changepoint <;> rfl
  case cautious =>
    intro htransitioning hagreed
    show (alignEvidence tuning evidence aggregate).2 ≤ 55 / 100
    by_cases hundecided : IsUndecided tuning evidence aggregate
    · rw [alignEvidence_undecided hundecided]
      norm_num
    · obtain ⟨item, hitem, hfor⟩ := exists_vote hband hscored hbetween hundecided
      have hdirection : (biasOfEvidence tuning evidence aggregate).direction =
          directionFromScore (15 / 100) aggregate := congrArg Prod.fst (alignEvidence_decided hundecided)
      have hvote : directionFromScore (15 / 100) aggregate ∈ nonNeutralVotes evidence :=
        mem_nonNeutralVotes.mpr ⟨⟨item, hitem, hfor⟩, (not_or.mp hundecided).1⟩
      have hall : IsAgreedTransition evidence (directionFromScore (15 / 100) aggregate) := by
        refine ⟨htransitioning, List.ne_nil_of_mem hvote, fun vote hmem => ?_⟩
        obtain ⟨⟨item', hitem', rfl⟩, hne⟩ := mem_nonNeutralVotes.mp hmem
        have hagrees := hagreed _ _ (mem_timeframeVotes.mpr ⟨item', hitem', rfl, rfl⟩)
        exact (hagrees.resolve_left hne).trans hdirection
      rw [alignEvidence_decided hundecided, alignmentScore, if_pos hall]
      exact min_le_right _ _

end weighed

theorem normalizedWeights_ok (hchecked : tuning.Checked) {weights : String → ℚ}
    (h : tuning.normalizedWeights = .ok weights) :
    (∀ timeframe ∈ htfTimeframes, 0 < weights timeframe) ∧ (htfTimeframes.map weights).sum = 1 := by
  simp only [HtfBiasTuning.normalizedWeights] at h
  split_ifs at h with htotal
  cases h
  rw [not_le] at htotal
  refine ⟨fun timeframe htimeframe => div_pos (hchecked.weights timeframe htimeframe) htotal, ?_⟩
  simp only [div_eq_mul_inv, List.sum_map_mul_right]
  exact mul_inv_cancel₀ htotal.ne'

/-- A bias follows its evidence: its direction is voted for, opposed by no settled vote and by no transition, and
its alignment is zero without a direction and small in a transition. -/
theorem htfBias_follows (hchecked : tuning.Checked) {members : List PinnedHTFMember} {result : HtfBiasResult}
    (h : computeHtfBias predict tuning members = .ok result) : result.Follows tuning := by
  obtain ⟨ordered, hordered, h⟩ := bind_eq_ok.mp h
  obtain ⟨weights, hweights, h⟩ := bind_eq_ok.mp h
  obtain ⟨evidence, hevidence, h⟩ := bind_eq_ok.mp h
  cases h
  have htimeframes : evidence.map (fun item => item.timeframe) = htfTimeframes :=
    (map_of_mapM (fun member item hitem => (scoreTimeframe_ok hitem).1) hevidence).trans
      (normalizeMembers_eq_ok.mp hordered).2.1
  have hscored : ∀ item ∈ evidence, item.Scored tuning := fun item hitem => by
    obtain ⟨member, -, hmember⟩ := mem_of_mapM hevidence hitem
    exact (scoreTimeframe_ok hmember).2
  obtain ⟨hpos, hsum⟩ := normalizedWeights_ok hchecked hweights
  refine follows_biasOfEvidence htimeframes hscored hchecked.neutralBand.1 (aggregateScore_between ?_ ?_ ?_)
  · rintro rfl
    cases htimeframes
  · exact fun item hitem => hpos _ (htimeframes ▸ List.mem_map_of_mem hitem)
  · rw [← hsum, ← htimeframes, List.map_map]
    rfl

/-- A snapshot whose structure broke upwards. -/
def brokenMember (timeframe : String) : PinnedHTFMember where
  snapshot :=
    { sweptSnapshot with
      timeframe
      structureEvents :=
        ⟨some ⟨.BOS, .BULLISH, none, 0, "BOS"⟩, [], none, none, length_nil_le StructureBreak⟩ }
  candles := sweptBars
  sourceSnapshotVersion := 1

def brokenMembers : List PinnedHTFMember := [brokenMember "D", brokenMember "H4", brokenMember "H1"]

def evenTuning : HtfBiasTuning := ⟨fun _ => 1, fun _ => 3, 1 / 10, 10⟩

theorem evenTuning_checked : evenTuning.Checked where
  weights _ _ := one_pos
  transitionWindows _ _ := show (0 : ℤ) < 3 by decide
  neutralBand := by norm_num [evenTuning]
  rupturesPenalty := by norm_num [evenTuning]

/-- The search that sees no change. -/
def noChange : Predict := fun closes _ => [closes.length]

theorem htfBias_broken : ∃ result, computeHtfBias noChange evenTuning brokenMembers = .ok result ∧
    result.direction = .BULLISH := by
  have hdirection : (computeHtfBias noChange evenTuning brokenMembers).map (fun result => result.direction) =
      .ok .BULLISH := by decide +kernel
  exact map_eq_ok.mp hdirection

theorem htfBias_follows_broken : ∃ result, computeHtfBias noChange evenTuning brokenMembers = .ok result ∧
    result.direction = .BULLISH ∧ result.Follows evenTuning := by
  obtain ⟨result, hresult, hdirection⟩ := htfBias_broken
  exact ⟨result, hresult, hdirection, htfBias_follows evenTuning_checked hresult⟩

/-- The order in which the members come does not matter. -/
theorem htfBias_perm {members members' : List PinnedHTFMember} (hperm : members.Perm members')
    {result : HtfBiasResult} :
    computeHtfBias predict tuning members = .ok result ↔ computeHtfBias predict tuning members' = .ok result := by
  have hfits : members.Pairwise PinnedHTFMember.Fits ↔ members'.Pairwise PinnedHTFMember.Fits :=
    hperm.pairwise_iff PinnedHTFMember.Fits.symm
  have hnormalize : ∀ ordered,
      normalizeMembers members = .ok ordered ↔ normalizeMembers members' = .ok ordered := by
    intro ordered
    rw [normalizeMembers_eq_ok, normalizeMembers_eq_ok, hperm.congr_right, hfits]
    simp only [hperm.mem_iff]
  unfold computeHtfBias
  rw [bind_eq_ok, bind_eq_ok]
  simp only [hnormalize]

theorem htfBias_perm_broken : ∃ result, computeHtfBias noChange evenTuning brokenMembers = .ok result ∧
    computeHtfBias noChange evenTuning brokenMembers.reverse = .ok result := by
  obtain ⟨result, hresult, -⟩ := htfBias_broken
  exact ⟨result, hresult, (htfBias_perm (List.reverse_perm brokenMembers)).mpr hresult⟩

/-- A bias is given exactly for pinned members of one instrument, one for each timeframe. -/
theorem htfBias_returns (hchecked : tuning.Checked) (members : List PinnedHTFMember) :
    (∃ result, computeHtfBias predict tuning members = .ok result) ↔
      members.Pairwise PinnedHTFMember.Fits ∧ (∀ member ∈ members, member.IsPinned) ∧
        ∀ timeframe ∈ htfTimeframes, ∃ member ∈ members, member.snapshot.timeframe = timeframe := by
  constructor
  · rintro ⟨result, h⟩
    obtain ⟨ordered, hordered, -⟩ := bind_eq_ok.mp h
    obtain ⟨hperm, htimeframes, hfits, hpinned⟩ := normalizeMembers_eq_ok.mp hordered
    refine ⟨hfits, hpinned, fun timeframe htimeframe => ?_⟩
    rw [← htimeframes, List.mem_map] at htimeframe
    obtain ⟨member, hmember, rfl⟩ := htimeframe
    exact ⟨member, hperm.mem_iff.mp hmember, rfl⟩
  · rintro ⟨hfits, hpinned, hall⟩
    obtain ⟨ordered, hordered⟩ : ∃ ordered, normalizeMembers members = .ok ordered := by
      obtain ⟨d, hd, hdaily⟩ := hall "D" (by decide)
      obtain ⟨h4, hh4, hfour⟩ := hall "H4" (by decide)
      obtain ⟨h1, hh1, hone⟩ := hall "H1" (by decide)
      have htimeframes : [d, h4, h1].map (fun member => member.snapshot.timeframe) = htfTimeframes := by
        rw [List.map_cons, List.map_cons, List.map_cons, List.map_nil, hdaily, hfour, hone, htfTimeframes]
      have hsub : ∀ member ∈ [d, h4, h1], member ∈ members := by
        simp only [List.forall_mem_cons]
        exact ⟨hd, hh4, hh1, by simp⟩
      exact ⟨[d, h4, h1], normalizeMembers_eq_ok.mpr
        ⟨perm_of_timeframes hfits hpinned htimeframes hsub, htimeframes, hfits, hpinned⟩⟩
    obtain ⟨weights, hweights⟩ : ∃ weights, tuning.normalizedWeights = .ok weights := by
      have htotal : ¬(htfTimeframes.map tuning.weights).sum ≤ 0 := not_le.mpr (List.sum_pos _
        (List.forall_mem_map.mpr hchecked.weights) (by simp [htfTimeframes]))
      exact ⟨_, if_neg htotal⟩
    obtain ⟨evidence, hevidence⟩ : ∃ evidence, ordered.mapM (scoreTimeframe predict tuning) = .ok evidence := by
      refine exists_mapM fun member hmember => ?_
      obtain ⟨closed, hclosed⟩ := hpinned member ((normalizeMembers_eq_ok.mp hordered).1.mem_iff.mp hmember)
      obtain ⟨last, hlast⟩ := (PinnedHTFMember.pinned hclosed).2
      exact ⟨_, bind_eq_ok.mpr ⟨closed, hclosed, bind_eq_ok.mpr ⟨last, hlast, rfl⟩⟩⟩
    exact ⟨_, bind_eq_ok.mpr ⟨ordered, hordered, bind_eq_ok.mpr ⟨weights, hweights,
      bind_eq_ok.mpr ⟨evidence, hevidence, rfl⟩⟩⟩⟩

theorem htfBias_returns_broken : ∃ result, computeHtfBias noChange evenTuning brokenMembers = .ok result := by
  refine (htfBias_returns evenTuning_checked brokenMembers).mpr ⟨?_, ?_, ?_⟩
  · simp [brokenMembers, brokenMember, PinnedHTFMember.Fits]
  · simp only [brokenMembers, List.forall_mem_cons]
    exact ⟨⟨sweptBars, rfl⟩, ⟨sweptBars, rfl⟩, ⟨sweptBars, rfl⟩, by simp⟩
  · simp [brokenMembers, brokenMember, htfTimeframes]

end sound

end OandaV3
