import Mathlib.Algebra.Order.Group.MinMax
import OandaV3.HtfBias

/-! # The bias in the mirror

`htfBias_mirror`: a mirrored market has the mirrored bias.  Members, changes of regime and scores are mirrored one
by one; the package must search changes by the distances of the closes, which are those of their negatives. -/

namespace OandaV3

open Fallible Mirrors Mirrors.Mirror

section mirror

instance : Mirror PinnedHTFMember where
  mirror member := { member with snapshot := mirror member.snapshot, candles := mirror member.candles }
  mirror_mirror member := by simp

instance : Mirror TimeframeBiasEvidence where
  mirror item :=
    { item with score := -item.score, vote := mirror item.vote, latestBreak := mirror item.latestBreak }
  mirror_mirror item := by simp

instance : Mirror HtfBiasResult where
  mirror result :=
    { result with
      direction := mirror result.direction
      timeframeVotes := result.timeframeVotes.map fun vote => (vote.1, mirror vote.2)
      structureBreaks := mirror result.structureBreaks }
  mirror_mirror result := by simp [List.map_map, Function.comp_def]

/-! ### Members in the mirror -/

theorem normalizedCandles_mirror (member : PinnedHTFMember) :
    (mirror member).normalizedCandles = member.normalizedCandles.map mirror := by
  have hsort : validateCandleDf (mirror member).candles = mirror (validateCandleDf member.candles) :=
    validateCandleDf_mirror member.candles
  have htimeframe : (mirror member).snapshot.timeframe = member.snapshot.timeframe := rfl
  have hversion : (mirror member).snapshot.version = member.snapshot.version := rfl
  have hsource : (mirror member).sourceSnapshotVersion = member.sourceSnapshotVersion := rfl
  have hlast : (mirror (validateCandleDf member.candles)).getLast? =
      (validateCandleDf member.candles).getLast?.map mirror := List.getLast?_map
  unfold PinnedHTFMember.normalizedCandles
  simp only [htimeframe, hversion, hsource, hsort, hlast]
  cases (validateCandleDf member.candles).getLast? with
  | none =>
      simp only [Option.map_none]
      split_ifs <;> rfl
  | some last =>
      have htime : (mirror last).time = last.time := rfl
      have hboundary : (mirror member).snapshot.lastCompletedCandle = member.snapshot.lastCompletedCandle := rfl
      simp only [Option.map_some, htime, hboundary]
      split_ifs <;> rfl

theorem addMembers_mirror (members seen : List PinnedHTFMember) :
    addMembers (mirror seen) (mirror members) = (addMembers seen members).map mirror := by
  induction members generalizing seen with
  | nil => rfl
  | cons member members ih =>
      have htimeframe : ((mirror seen).any fun other =>
            other.snapshot.timeframe == (mirror member).snapshot.timeframe) =
          seen.any fun other => other.snapshot.timeframe == member.snapshot.timeframe :=
        any_mirror (fun _ => rfl) seen
      have hinstrument : ((mirror seen).any fun other =>
            other.snapshot.instrument != (mirror member).snapshot.instrument) =
          seen.any fun other => other.snapshot.instrument != member.snapshot.instrument :=
        any_mirror (fun _ => rfl) seen
      rw [mirror_cons, addMembers, addMembers, htimeframe, hinstrument, normalizedCandles_mirror]
      split_ifs with hduplicate hdiffers
      · rfl
      · rfl
      · cases member.normalizedCandles with
        | error e => rfl
        | ok closed =>
            show addMembers (mirror seen ++ [mirror member]) (mirror members) =
              (addMembers (seen ++ [member]) members).map mirror
            rw [← ih, mirror_append]
            rfl

theorem normalizeMembers_mirror (members : List PinnedHTFMember) :
    normalizeMembers (mirror members) = (normalizeMembers members).map mirror := by
  have hadd := addMembers_mirror members []
  rw [mirror_nil] at hadd
  unfold normalizeMembers
  rw [hadd]
  cases addMembers [] members with
  | error e => rfl
  | ok normalized =>
      have hfind : ∀ timeframe : String,
          (mirror normalized).find? (fun member => member.snapshot.timeframe == timeframe) =
            mirror (normalized.find? fun member => member.snapshot.timeframe == timeframe) :=
        fun timeframe => find?_mirror (fun _ => rfl) normalized
      have hgot : ((mirror normalized).map fun member => member.snapshot.timeframe) =
          normalized.map fun member => member.snapshot.timeframe := map_mirror (fun _ => rfl) normalized
      simp only [Except.map, bind, Except.bind, hfind, hgot]
      rw [mapM_mirror fun _ => rfl]
      cases htfTimeframes.mapM fun timeframe =>
        normalized.find? fun member => member.snapshot.timeframe == timeframe <;> rfl

/-! ### Changes of regime in the mirror -/

theorem differences_neg (closes : List ℚ) :
    differences (closes.map Neg.neg) = (differences closes).map Neg.neg := by
  unfold differences
  rw [← List.map_tail, List.zip_map, List.map_map, List.map_map]
  refine List.map_congr_left fun pair _ => ?_
  show -pair.2 - -pair.1 = -(pair.2 - pair.1)
  ring

theorem mean_neg (values : List ℚ) : mean (values.map Neg.neg) = -mean values := by
  unfold mean
  rw [← List.sum_neg, List.length_map, neg_div]

theorem variance_neg (values : List ℚ) : variance (values.map Neg.neg) = variance values := by
  have hsquares : (values.map Neg.neg).map (fun value => (value - -mean values) ^ 2) =
      values.map fun value => (value - mean values) ^ 2 := by
    rw [List.map_map]
    refine List.map_congr_left fun value _ => ?_
    show (-value - -mean values) ^ 2 = (value - mean values) ^ 2
    ring
  unfold variance
  rw [mean_neg, hsquares]

theorem passesRegimeShiftFilter_neg (transitionWindow : ℤ) (closes : List ℚ) (changepointIndex : ℕ) :
    passesRegimeShiftFilter transitionWindow (closes.map Neg.neg) changepointIndex =
      passesRegimeShiftFilter transitionWindow closes changepointIndex := by
  have habs : ((differences closes).map Neg.neg).map (fun value => |value|) =
      (differences closes).map fun value => |value| := by
    rw [List.map_map]
    exact List.map_congr_left fun value _ => abs_neg value
  have hshift : ∀ pre post : List ℚ,
      |mean (post.map Neg.neg) - mean (pre.map Neg.neg)| = |mean post - mean pre| := by
    intro pre post
    rw [mean_neg, mean_neg, neg_sub_neg, abs_sub_comm]
  simp only [passesRegimeShiftFilter, differences_neg, ← List.map_take, ← List.map_drop, hshift, habs,
    variance_neg, List.isEmpty_map]

section predict

variable {predict : Predict}
  (hpredict : ∀ closes penalty, predict (closes.map Neg.neg) penalty = predict closes penalty)
  (tuning : HtfBiasTuning)

include hpredict in
theorem detectChangepoint_mirror (timeframe : String) (closed : List Candle) :
    detectChangepoint predict tuning timeframe (mirror closed) =
      detectChangepoint predict tuning timeframe closed := by
  have hcloses : (mirror closed).map (fun bar => bar.close) = (closed.map fun bar => bar.close).map Neg.neg := by
    rw [map_mirror (f := fun bar : Candle => -bar.close) fun _ => rfl, List.map_map]
    rfl
  have hbar : ∀ index : ℕ, (mirror closed)[index]? = (closed[index]?).map mirror := fun index => List.getElem?_map
  simp only [detectChangepoint, length_mirror, hcloses, hpredict, passesRegimeShiftFilter_neg, hbar]
  split_ifs with hshort
  · rfl
  · split
    · rename_i changepointIndex _ _
      cases closed[changepointIndex]? <;> rfl
    · rfl

end predict

/-! ### Scores in the mirror -/

theorem sign_mirror (direction : BinaryDirection) : (mirror direction).sign = -direction.sign := by
  cases direction with
  | BULLISH => rfl
  | BEARISH => exact (neg_neg 1).symm

theorem directionFromScore_neg {neutralBand : ℚ} (hband : 0 < neutralBand) (score : ℚ) :
    directionFromScore neutralBand (-score) = mirror (directionFromScore neutralBand score) := by
  unfold directionFromScore
  by_cases hbullish : neutralBand ≤ score
  · rw [if_neg (by linarith), if_pos (by linarith), if_pos hbullish]
    rfl
  · by_cases hbearish : score ≤ -neutralBand
    · rw [if_pos (by linarith), if_neg hbullish, if_pos hbearish]
      rfl
    · rw [if_neg (by linarith), if_neg (by linarith), if_neg hbullish, if_neg hbearish]
      rfl

theorem clampScore_neg (value : ℚ) : clampScore (-value) = -clampScore value := by
  unfold clampScore
  rw [← min_neg_neg, ← max_neg_neg, neg_neg, max_min_distrib_left, max_eq_right (by norm_num)]

theorem structureScore_mirror (events : StructureEventSummary) :
    structureScore (mirror events) = -structureScore events := by
  have hlatest : (mirror events).latestBreak = mirror events.latestBreak := rfl
  have hrecent : (mirror events).recentBreaks = events.recentBreaks.map mirror := rfl
  have hsigns : ((events.recentBreaks.map mirror).map fun found => found.direction.sign).sum =
      -(events.recentBreaks.map fun found => found.direction.sign).sum := by
    rw [List.sum_neg, List.map_map, List.map_map]
    exact congrArg List.sum (List.map_congr_left fun found _ => sign_mirror found.direction)
  unfold structureScore
  simp only [hlatest, hrecent, hsigns, List.map_eq_nil_iff, List.length_map]
  cases events.latestBreak with
  | none =>
      split_ifs with hnil
      · simp
      · simp only [mirror_none]
        ring
  | some found =>
      have hdirection : (mirror found).direction.sign = -found.direction.sign := sign_mirror found.direction
      have hkind : (mirror found).kind = found.kind := rfl
      simp only [mirror_some, hdirection, hkind]
      split_ifs <;> ring

theorem previousDayScore_mirror (latestClose : ℚ) (previous : PreviousHighLowSummary) :
    previousDayScore (-latestClose) (mirror previous) = -previousDayScore latestClose previous := by
  have hhigh : (mirror previous).previousHigh = mirror previous.previousLow := rfl
  have hlow : (mirror previous).previousLow = mirror previous.previousHigh := rfl
  have hbrokenHigh : (mirror previous).brokenHigh = previous.brokenLow := rfl
  have hbrokenLow : (mirror previous).brokenLow = previous.brokenHigh := rfl
  have hbelow : (mirror previous.previousLow).any (fun high => decide (high < -latestClose)) =
      previous.previousLow.any fun low => decide (latestClose < low) := by
    cases previous.previousLow with
    | none => rfl
    | some low => simp [mirror_rat]
  have habove : (mirror previous.previousHigh).any (fun low => decide (-latestClose < low)) =
      previous.previousHigh.any fun high => decide (high < latestClose) := by
    cases previous.previousHigh with
    | none => rfl
    | some high => simp [mirror_rat]
  unfold previousDayScore
  rw [hhigh, hlow, hbrokenHigh, hbrokenLow, hbelow, habove]
  -- only a day broken on one side counts, so the two branches exclude each other
  cases previous.brokenHigh <;> cases previous.brokenLow <;> simp
  all_goals split_ifs <;> simp

theorem retracementScore_mirror (retracement : RetracementSummary) :
    retracementScore (mirror retracement) = -retracementScore retracement := by
  have hdirection : (mirror retracement).direction = mirror retracement.direction := rfl
  have hcurrent : (mirror retracement).currentRetracementPct = retracement.currentRetracementPct := rfl
  unfold retracementScore
  rw [hdirection, hcurrent]
  cases retracement.direction with
  | none => exact neg_zero.symm
  | some direction =>
      show _ * (mirror direction).sign = _
      rw [sign_mirror, mul_neg]

theorem orderBlockScore_mirror (blocks : List OrderBlockSummary) :
    orderBlockScore (mirror blocks) = -orderBlockScore blocks := by
  unfold orderBlockScore
  rw [find?_mirror (p := fun block : OrderBlockSummary => block.isMitigated != some true) fun _ => rfl]
  cases blocks.find? fun block => block.isMitigated != some true with
  | none => exact neg_zero.symm
  | some block =>
      show 10 / 100 * (mirror block.direction).sign = _
      rw [sign_mirror, mul_neg]

theorem metricOf_mirror {name : String} {f : ℚ → ℚ}
    (hf : ∀ value : Option ℚ, (mirror (name, value)).2 = value.map f) (metrics : MetricValues) :
    metricOf (mirror metrics) name = (metricOf metrics name).map f := by
  have hreverse : (mirror metrics).reverse = metrics.reverse.map mirror := List.map_reverse.symm
  unfold metricOf
  rw [hreverse]
  induction metrics.reverse with
  | nil => rfl
  | cons metric metrics ih =>
      obtain ⟨other, value⟩ := metric
      rw [List.map_cons, List.findSome?_cons, List.findSome?_cons, ih]
      by_cases hname : other = name
      · subst hname
        have hother : (mirror (other, value)).1 = other := rfl
        simp only [hother, if_true, hf]
        cases value <;> rfl
      · have hother : (mirror (other, value)).1 ≠ name := hname
        simp only [if_neg hname, if_neg hother]

theorem momentumScore_mirror (metrics : MetricValues) : momentumScore (mirror metrics) = -momentumScore metrics := by
  have hmacd : metricOf (mirror metrics) "macd_hist" = (metricOf metrics "macd_hist").map Neg.neg :=
    metricOf_mirror (fun value => rfl) metrics
  have hrsi : metricOf (mirror metrics) "rsi" = (metricOf metrics "rsi").map fun value => 100 - value :=
    metricOf_mirror (fun value => rfl) metrics
  unfold momentumScore
  rw [hmacd, hrsi, neg_add]
  congr 1
  · cases metricOf metrics "macd_hist" with
    | none => exact neg_zero.symm
    | some value =>
        simp only [Option.map_some]
        split_ifs <;> linarith
  · cases metricOf metrics "rsi" with
    | none => exact neg_zero.symm
    | some value =>
        simp only [Option.map_some]
        split_ifs <;> linarith

theorem trendDampener_mirror (snapshot : BotSnapshot) : trendDampener (mirror snapshot) = trendDampener snapshot := by
  have hadx : metricOf (mirror snapshot).metrics "adx" = metricOf snapshot.metrics "adx" :=
    (metricOf_mirror (f := id) (fun value => by cases value <;> rfl) snapshot.metrics).trans Option.map_id_apply
  have hchop : (mirror snapshot).chop = snapshot.chop := rfl
  unfold trendDampener
  rw [hadx, hchop]

theorem snapshotScore_mirror (snapshot : BotSnapshot) (latestClose : ℚ) :
    snapshotScore (mirror snapshot) (-latestClose) = -snapshotScore snapshot latestClose := by
  have hprevious : ((mirror snapshot).smcContext.previousHighLow.elim 0 (previousDayScore (-latestClose))) =
      -(snapshot.smcContext.previousHighLow.elim 0 (previousDayScore latestClose)) := by
    show (mirror snapshot.smcContext.previousHighLow).elim 0 _ = _
    cases snapshot.smcContext.previousHighLow with
    | none => exact neg_zero.symm
    | some previous => exact previousDayScore_mirror latestClose previous
  have hretracement : ((mirror snapshot).smcContext.retracement.elim 0 retracementScore) =
      -(snapshot.smcContext.retracement.elim 0 retracementScore) := by
    show (mirror snapshot.smcContext.retracement).elim 0 _ = _
    cases snapshot.smcContext.retracement with
    | none => exact neg_zero.symm
    | some retracement => exact retracementScore_mirror retracement
  have hstructure : structureScore (mirror snapshot).structureEvents = -structureScore snapshot.structureEvents :=
    structureScore_mirror snapshot.structureEvents
  have hblocks : orderBlockScore (mirror snapshot).orderBlocks = -orderBlockScore snapshot.orderBlocks :=
    orderBlockScore_mirror snapshot.orderBlocks
  have hmomentum : momentumScore (mirror snapshot).metrics = -momentumScore snapshot.metrics :=
    momentumScore_mirror snapshot.metrics
  unfold snapshotScore
  rw [hprevious, hretracement, hstructure, hblocks, hmomentum, trendDampener_mirror]
  ring

section bias

variable {predict : Predict}
  (hpredict : ∀ closes penalty, predict (closes.map Neg.neg) penalty = predict closes penalty)
  {tuning : HtfBiasTuning} (hband : 0 < tuning.neutralBand)

include hpredict hband in
theorem scoreTimeframe_mirror (member : PinnedHTFMember) :
    scoreTimeframe predict tuning (mirror member) = (scoreTimeframe predict tuning member).map mirror := by
  unfold scoreTimeframe
  rw [normalizedCandles_mirror]
  cases member.normalizedCandles with
  | error e => rfl
  | ok closed =>
      simp only [Except.map, bind, Except.bind, lastRow_mirror]
      cases lastRow closed with
      | error e => rfl
      | ok last =>
          have hclose : (mirror last).close = -last.close := rfl
          have hsnapshot : (mirror member).snapshot = mirror member.snapshot := rfl
          have htimeframe : (mirror member.snapshot).timeframe = member.snapshot.timeframe := rfl
          have hlatest : (mirror member.snapshot).structureEvents.latestBreak =
              mirror member.snapshot.structureEvents.latestBreak := rfl
          simp only [hclose, hsnapshot, htimeframe, hlatest, snapshotScore_mirror, clampScore_neg,
            directionFromScore_neg hband, detectChangepoint_mirror hpredict]
          rfl

end bias

/-! ### The bias in the mirror -/

variable (evidence : List TimeframeBiasEvidence)

theorem voteOf_mirror (timeframe : String) :
    voteOf (mirror evidence) timeframe = mirror (voteOf evidence timeframe) := by
  unfold voteOf
  rw [find?_mirror (p := fun item : TimeframeBiasEvidence => item.timeframe == timeframe) fun _ => rfl]
  cases evidence.find? fun item => item.timeframe == timeframe <;> rfl

theorem mirror_eq_neutral {vote : Direction} : mirror vote = .NEUTRAL ↔ vote = .NEUTRAL :=
  mirror_eq_iff (b := Direction.NEUTRAL)

theorem isMaterialConflict_mirror : isMaterialConflict (mirror evidence) = isMaterialConflict evidence := by
  have hneutral : ∀ vote : Option Direction, mirror vote = some .NEUTRAL ↔ vote = some .NEUTRAL := fun vote =>
    mirror_eq_iff (b := some Direction.NEUTRAL)
  unfold isMaterialConflict
  simp only [voteOf_mirror, ne_eq, hneutral, mirror_inj]

theorem hasTransitionConflict_mirror (direction : Direction) :
    hasTransitionConflict (mirror evidence) (mirror direction) = hasTransitionConflict evidence direction := by
  have hany : ((mirror evidence).any fun item => item.isRecentTransition &&
        decide (item.vote ≠ .NEUTRAL ∧ item.vote ≠ mirror direction)) =
      evidence.any fun item => item.isRecentTransition &&
        decide (item.vote ≠ .NEUTRAL ∧ item.vote ≠ direction) := any_mirror (fun item => by
    have hvote : (mirror item).vote = mirror item.vote := rfl
    have hrecent : (mirror item).isRecentTransition = item.isRecentTransition := rfl
    simp only [hvote, hrecent, ne_eq, mirror_eq_neutral, mirror_inj]) evidence
  unfold hasTransitionConflict
  rw [hany]
  simp only [ne_eq, mirror_eq_neutral]

theorem nonNeutralVotes_mirror : nonNeutralVotes (mirror evidence) = mirror (nonNeutralVotes evidence) := by
  have hvotes : (mirror evidence).map (fun item => item.vote) = (evidence.map fun item => item.vote).map mirror := by
    rw [map_mirror (f := fun item : TimeframeBiasEvidence => mirror item.vote) fun _ => rfl, List.map_map]
    rfl
  unfold nonNeutralVotes
  rw [hvotes, List.filter_map]
  show List.map mirror _ = List.map mirror _
  simp only [Function.comp_def, ne_eq, mirror_eq_neutral]

theorem isAgreedTransition_mirror (direction : Direction) :
    IsAgreedTransition (mirror evidence) (mirror direction) ↔ IsAgreedTransition evidence direction := by
  unfold IsAgreedTransition
  rw [any_mirror (fun _ => rfl) evidence, nonNeutralVotes_mirror]
  refine and_congr_right fun _ => and_congr (not_congr List.map_eq_nil_iff) ?_
  refine ⟨fun h vote hvote => mirror_inj.mp (h _ (List.mem_map_of_mem hvote)), fun h vote hvote => ?_⟩
  rw [mem_mirror] at hvote
  rw [← h _ hvote, mirror_mirror]

section bias

variable {tuning : HtfBiasTuning}

theorem isUndecided_mirror (aggregate : ℚ) :
    IsUndecided tuning (mirror evidence) (-aggregate) ↔ IsUndecided tuning evidence aggregate := by
  unfold IsUndecided
  rw [directionFromScore_neg (by norm_num), mirror_eq_neutral, abs_neg, isMaterialConflict_mirror,
    hasTransitionConflict_mirror]

theorem alignEvidence_mirror (aggregate : ℚ) :
    alignEvidence tuning (mirror evidence) (-aggregate) =
      (mirror (alignEvidence tuning evidence aggregate).1, (alignEvidence tuning evidence aggregate).2) := by
  by_cases hundecided : IsUndecided tuning evidence aggregate
  · rw [alignEvidence_undecided hundecided, alignEvidence_undecided ((isUndecided_mirror _ _).mpr hundecided)]
    rfl
  · rw [alignEvidence_decided hundecided, alignEvidence_decided (mt (isUndecided_mirror _ _).mp hundecided),
      directionFromScore_neg (by norm_num)]
    simp only [alignmentScore, isAgreedTransition_mirror, abs_neg]

theorem biasOfEvidence_mirror (aggregate : ℚ) :
    biasOfEvidence tuning (mirror evidence) (-aggregate) = mirror (biasOfEvidence tuning evidence aggregate) := by
  have halign : alignEvidence tuning (mirror evidence) (-aggregate) =
      (mirror (alignEvidence tuning evidence aggregate).1, (alignEvidence tuning evidence aggregate).2) :=
    alignEvidence_mirror evidence aggregate
  have hbreaks : sortOnDesc StructureBreak.occurredAt ((mirror evidence).filterMap fun item => item.latestBreak) =
      mirror (sortOnDesc StructureBreak.occurredAt (evidence.filterMap fun item => item.latestBreak)) := by
    rw [filterMap_mirror (f := fun item : TimeframeBiasEvidence => item.latestBreak) fun _ => rfl]
    exact (List.map_insertionSort _ _ mirror _ fun _ _ _ _ => Iff.rfl).symm
  have hchangepoints : ((mirror evidence).filterMap fun item => item.changepoint) =
      evidence.filterMap fun item => item.changepoint := List.filterMap_map
  have hvotes : ((mirror evidence).map fun item => (item.timeframe, item.vote)) =
      (evidence.map fun item => (item.timeframe, item.vote)).map fun vote => (vote.1, mirror vote.2) := by
    rw [map_mirror (f := fun item : TimeframeBiasEvidence => (item.timeframe, mirror item.vote)) fun _ => rfl,
      List.map_map]
    rfl
  have hrecent : ((mirror evidence).any fun item => item.isRecentTransition) =
      evidence.any fun item => item.isRecentTransition := any_mirror (fun _ => rfl) evidence
  apply HtfBiasResult.ext
  · exact congrArg (fun aligned => aligned.1) halign
  · exact congrArg (fun aligned => aligned.2) halign
  · exact hvotes
  · exact hbreaks
  · exact hchangepoints
  · exact hrecent
  · exact congrArg lastBarsAgo hchangepoints

theorem aggregateScore_mirror (weights : String → ℚ) :
    aggregateScore weights (mirror evidence) = -aggregateScore weights evidence := by
  unfold aggregateScore
  rw [List.sum_neg, List.map_map]
  show ((evidence.map mirror).map _).sum = _
  rw [List.map_map]
  exact congrArg List.sum (List.map_congr_left fun item _ => mul_neg _ _)

end bias

/-- The bias of a mirrored market is the mirrored bias, as the changes of regime are searched by distances.  A
neutral band of zero takes a score of zero for bullish on both sides. -/
theorem htfBias_mirror {predict : Predict}
    (hpredict : ∀ closes penalty, predict (closes.map Neg.neg) penalty = predict closes penalty)
    {tuning : HtfBiasTuning} (hband : 0 < tuning.neutralBand) (members : List PinnedHTFMember) :
    computeHtfBias predict tuning (mirror members) = (computeHtfBias predict tuning members).map mirror := by
  unfold computeHtfBias
  rw [normalizeMembers_mirror]
  cases normalizeMembers members with
  | error e => rfl
  | ok ordered =>
      cases tuning.normalizedWeights with
      | error e => rfl
      | ok weights =>
          simp only [Except.map, bind, Except.bind]
          rw [mapM_except_mirror (scoreTimeframe_mirror hpredict hband)]
          cases ordered.mapM (scoreTimeframe predict tuning) with
          | error e => rfl
          | ok evidence =>
              show Except.ok _ = Except.ok _
              rw [aggregateScore_mirror, biasOfEvidence_mirror]

theorem htfBias_mirror_broken : computeHtfBias noChange evenTuning (mirror brokenMembers) =
    (computeHtfBias noChange evenTuning brokenMembers).map mirror :=
  htfBias_mirror (fun closes _ => congrArg (fun n => [n]) (List.length_map _)) (by norm_num [evenTuning])
    brokenMembers

end mirror

end OandaV3
