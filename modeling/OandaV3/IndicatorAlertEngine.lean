import OandaV3.CandlePolicy
import OandaV3.PriceAlerts
import OandaV3.Turns

/-! # The indicator alert engine

`.worktrees/scan-force/alerts/indicator_alert_engine.py` evaluates the indicator alerts of an instrument and
a timeframe when a snapshot is built: once for each closed candle, which a cursor in the store records.  Scans
and chat commands build snapshots in threads of their own, and commands edit the alerts meanwhile; so the
calls take turns, one call of the store or of the notifier at a time, and each of these may fail.

The alerts and the cursor are those of one instrument and one timeframe.

* `EvaluationInv.turn`: what every turn keeps.
* `indicatorAlerts_evaluated`: the cursor is set on a candle only when every alert that was listed for it and
  whose condition holds had its message. -/

namespace OandaV3

open DocTable Turns

/-! ### Alerts and their conditions -/

inductive IndicatorKind where
  | RSI
  | STOCH
  | MACD
  | SMA_CROSS
deriving DecidableEq, Repr

/-- `IndicatorAlertCondition`; a threshold is there exactly when it is needed. -/
inductive IndicatorAlertCondition where
  | above (threshold : ℚ)
  | below (threshold : ℚ)
  | crossUp
  | crossDown
deriving DecidableEq, Repr

/-- `IndicatorAlert`. -/
structure IndicatorAlert where
  id : ℤ
  chatId : ℤ
  indicator : IndicatorKind
  condition : IndicatorAlertCondition
  status : AlertStatus
  repeats : Bool
  cooloffMinutes : Option ℤ
  firedAt : Option Instant
deriving DecidableEq, Repr

/-- The metrics of a summary, by name. -/
abbrev MetricValues := List (String × Option ℚ)

/-- `_optional_metric_value`. -/
def optionalMetricValue (metrics : MetricValues) (name : String) : Option ℚ := (metrics.lookup name).join

/-- `_required_metric_value`. -/
def requiredMetricValue (metrics : MetricValues) (name : String) : Except Exn ℚ :=
  match optionalMetricValue metrics name with
  | some value => .ok value
  | none => .error (.runtimeError ("Indicator metric '" ++ name ++ "' is unavailable for alert evaluation."))

/-- The difference of two metrics, if both are there. -/
def optionalDifference (metrics : MetricValues) (name other : String) : Option ℚ := do
  let value ← optionalMetricValue metrics name
  let value' ← optionalMetricValue metrics other
  return value - value'

/-- `_resolve_values`. -/
def resolveValues (indicator : IndicatorKind) (current previous : MetricValues) :
    Except Exn (ℚ × Option ℚ) :=
  match indicator with
  | .RSI => do
      let value ← requiredMetricValue current "rsi"
      return (value, optionalMetricValue previous "rsi")
  | .STOCH => do
      let value ← requiredMetricValue current "stoch_k"
      return (value, optionalMetricValue previous "stoch_k")
  | .SMA_CROSS => do
      let sma50 ← requiredMetricValue current "sma_50"
      let sma200 ← requiredMetricValue current "sma_200"
      return (sma50 - sma200, optionalDifference previous "sma_50" "sma_200")
  | .MACD => do
      let macd ← requiredMetricValue current "macd"
      let signal ← requiredMetricValue current "macd_signal"
      return (macd - signal, optionalDifference previous "macd" "macd_signal")

def crossBaseline : IndicatorKind → ℚ
  | .MACD => 0
  | .SMA_CROSS => 0
  | .RSI => 50
  | .STOCH => 50

/-- `_is_triggered`. -/
def isTriggered (alert : IndicatorAlert) (currentValue : ℚ) (previousValue : Option ℚ) : Bool :=
  let baseline := crossBaseline alert.indicator
  let previous := previousValue.getD baseline
  match alert.condition with
  | .above threshold => decide (threshold < currentValue)
  | .below threshold => decide (currentValue < threshold)
  | .crossUp => decide (previous ≤ baseline ∧ baseline < currentValue)
  | .crossDown => decide (baseline ≤ previous ∧ currentValue < baseline)

/-- What an alert comes to on two summaries: whether it is triggered, unless a metric is missing. -/
def evaluateAlert (current previous : MetricValues) (alert : IndicatorAlert) : Except Exn Bool := do
  let (currentValue, previousValue) ← resolveValues alert.indicator current previous
  return isTriggered alert currentValue previousValue

/-- `_cooloff_elapsed`. -/
def IndicatorAlert.cooloffElapsed (alert : IndicatorAlert) (now : Instant) : Bool :=
  match alert.firedAt, alert.cooloffMinutes with
  | some firedAt, some minutes => decide (firedAt + minutes * minute ≤ now)
  | _, _ => true

/-- `list_active_indicator_alerts`, and those of them that may fire. -/
def eligibleAlerts (alerts : List IndicatorAlert) (now : Instant) : List IndicatorAlert :=
  let active := sortOn (fun alert => alert.id)
    (alerts.filter fun alert => alert.status == .PENDING || alert.status == .FIRED)
  active.filter fun alert =>
    !(alert.status == .FIRED && !alert.repeats) &&
      !(alert.status == .FIRED && alert.repeats && !alert.cooloffElapsed now)

/-- `mark_indicator_alert_fired`, once it has read the alert. -/
def IndicatorAlert.fired (alert : IndicatorAlert) (now : Instant) : IndicatorAlert :=
  { alert with status := .FIRED, firedAt := some now }

/-! ### Calls of the engine -/

/-- A call of `evaluate_for_snapshot`: the candles, by their number and the time of the last one; the summary
of them, and that of all but the last, which may not be built; and whether there is a notifier. -/
structure SnapshotCall where
  candleCount : ℕ
  lastCandle : Instant
  current : MetricValues
  previous : Except Exn MetricValues
  notifies : Bool

inductive EvaluationEnd where
  | tooShort
  | alreadyEvaluated
  | deliveryFailed
  | evaluated
deriving DecidableEq, Repr

/-- Where a call is.  In its loop it has the previous summary, the alerts that are left, and whether a
delivery has failed. -/
inductive EvaluationPhase where
  | called (call : SnapshotCall)
  | listing (call : SnapshotCall)
  | evaluating (call : SnapshotCall) (previous : MetricValues) (rest : List IndicatorAlert) (failed : Bool)
  /-- The message is delivered. -/
  | marking (call : SnapshotCall) (previous : MetricValues) (alert : IndicatorAlert)
      (rest : List IndicatorAlert) (failed : Bool)
  /-- The alert is read again, and will be written. -/
  | writing (call : SnapshotCall) (previous : MetricValues) (existing : IndicatorAlert)
      (rest : List IndicatorAlert) (failed : Bool)
  | ended (call : SnapshotCall) (result : Except Exn EvaluationEnd)
  /-- A command, which edits the alerts. -/
  | editing

structure EvaluationInput where
  now : Instant
  readable : Bool
  delivered : Bool
  refuses : Bool
  edited : List IndicatorAlert

/-- The alerts and the cursor in the store. -/
structure IndicatorStore where
  alerts : List IndicatorAlert
  cursor : Option Instant

/-- The write of an alert, in the place of the one with its id. -/
def IndicatorStore.upsert (store : IndicatorStore) (alert : IndicatorAlert) : IndicatorStore :=
  { store with alerts := DocTable.put IndicatorAlert.id alert store.alerts }

def listedAlerts (input : EvaluationInput) (store : IndicatorStore) : List IndicatorAlert :=
  if input.readable then eligibleAlerts store.alerts input.now else []

/-- The listing of the alerts, and the summary of the candles before, when it is needed. -/
def startEvaluation (call : SnapshotCall) (eligible : List IndicatorAlert) : EvaluationPhase :=
  match eligible with
  | [] => .evaluating call [] [] false
  | alert :: rest =>
      match call.previous with
      | .error e => .ended call (.error e)
      | .ok previous => .evaluating call previous (alert :: rest) false

/-- The end of a call, with the write of the cursor unless a delivery has failed. -/
def endEvaluation (input : EvaluationInput) (call : SnapshotCall) (failed : Bool) (store : IndicatorStore) :
    EvaluationPhase × IndicatorStore :=
  if failed then (.ended call (.ok .deliveryFailed), store)
  else if input.now < call.lastCandle then
    (.ended call (.error
      (.valueError "updated_at must be greater than or equal to last_evaluated_candle.")), store)
  else if input.refuses then
    (.ended call (.error (.persistenceWriteError "upsert_indicator_alert_evaluation_cursor")), store)
  else (.ended call (.ok .evaluated), { store with cursor := some call.lastCandle })

/-- A step of `evaluate_for_snapshot`. -/
def evaluationStep (input : EvaluationInput) :
    EvaluationPhase → IndicatorStore → EvaluationPhase × IndicatorStore
  | .called call, store =>
      if call.candleCount < 2 then (.ended call (.ok .tooShort), store)
      else if input.readable && store.cursor == some call.lastCandle then
        (.ended call (.ok .alreadyEvaluated), store)
      else (.listing call, store)
  | .listing call, store => (startEvaluation call (listedAlerts input store), store)
  | .evaluating call _ [] failed, store => endEvaluation input call failed store
  | .evaluating call previous (alert :: rest) failed, store =>
      match evaluateAlert call.current previous alert with
      | .error e => (.ended call (.error e), store)
      | .ok false => (.evaluating call previous rest failed, store)
      | .ok true =>
          if call.notifies && !input.delivered then (.evaluating call previous rest true, store)
          else (.marking call previous alert rest failed, store)
  | .marking call previous alert rest failed, store =>
      match (if input.readable then DocTable.get IndicatorAlert.id alert.id store.alerts else none) with
      | none => (.evaluating call previous rest failed, store)
      | some existing => (.writing call previous existing rest failed, store)
  | .writing call previous existing rest failed, store =>
      if input.refuses then (.ended call (.error (.persistenceWriteError "upsert_indicator_alert")), store)
      else (.evaluating call previous rest failed, store.upsert (existing.fired input.now))
  | .ended call result, store => (.ended call result, store)
  | .editing, store => (.editing, { store with alerts := input.edited })

def EvaluationPhase.call? : EvaluationPhase → Option SnapshotCall
  | .called call | .listing call | .evaluating call _ _ _ | .marking call _ _ _ _ | .writing call _ _ _ _
  | .ended call _ => some call
  | .editing => none

/-- The call is in its loop: the previous summary, the alerts that are left, and whether a delivery failed. -/
def EvaluationPhase.InLoop (call : SnapshotCall) (previous : MetricValues) (rest : List IndicatorAlert)
    (failed : Bool) : EvaluationPhase → Prop
  | .evaluating call' previous' rest' failed' | .marking call' previous' _ rest' failed'
  | .writing call' previous' _ rest' failed' =>
      call' = call ∧ previous' = previous ∧ rest' = rest ∧ failed' = failed
  | _ => False

/-! ### Runs -/

section runs

variable {ι : Type} [DecidableEq ι] (calls : ι → Option SnapshotCall) (store : IndicatorStore)

/-- The calls of the engine, and the commands. -/
def evaluationStart : System ι EvaluationPhase IndicatorStore where
  phases i :=
    match calls i with
    | some call => .called call
    | none => .editing
  shared := store

/-- The calls after turns, the last one first. -/
def evaluationAfter (turns : List (Turn ι EvaluationInput)) : System ι EvaluationPhase IndicatorStore :=
  after evaluationStep (evaluationStart calls store) turns

variable (turns : List (Turn ι EvaluationInput)) (j : ι) (call : SnapshotCall) (previous : MetricValues)

/-- The call has listed these alerts, and goes on with them. -/
def AlertsListed (eligible : List IndicatorAlert) : Prop :=
  Taken evaluationStep (evaluationStart calls store)
    (fun s t => t.call = j ∧ s.phases j = .listing call ∧ eligible = listedAlerts t.input s.shared ∧
      startEvaluation call eligible = .evaluating call previous eligible false) turns

/-- The call has found the condition of the alert to hold, and its message was delivered, if there is a
notifier. -/
def AlertSent (alert : IndicatorAlert) : Prop :=
  Taken evaluationStep (evaluationStart calls store)
    (fun s t => t.call = j ∧ ∃ rest failed, s.phases j = .evaluating call previous (alert :: rest) failed ∧
      evaluateAlert call.current previous alert = .ok true ∧
        (call.notifies = true → t.input.delivered = true)) turns

/-- The condition of the alert does not hold, or its message was sent. -/
def AlertSettled (alert : IndicatorAlert) : Prop :=
  evaluateAlert call.current previous alert = .ok false ∨ AlertSent calls store turns j call previous alert

/-- The candle was evaluated: a call for it has settled all alerts that it had listed. -/
def CandleEvaluated (candle : Instant) : Prop :=
  ∃ j call previous eligible, calls j = some call ∧ call.lastCandle = candle ∧
    AlertsListed calls store turns j call previous eligible ∧
      ∀ alert ∈ eligible, AlertSettled calls store turns j call previous alert

/-- How far a call is in its loop. -/
def EvaluationProgress (rest : List IndicatorAlert) (failed : Bool) : Prop :=
  ∃ eligible, AlertsListed calls store turns j call previous eligible ∧ (∀ alert ∈ rest, alert ∈ eligible) ∧
    (failed = false → ∀ alert ∈ eligible, alert ∈ rest ∨ AlertSettled calls store turns j call previous alert)

/-- What holds after every turn. -/
structure EvaluationInv (s : System ι EvaluationPhase IndicatorStore) : Prop where
  call : ∀ i call, (s.phases i).call? = some call → calls i = some call
  loop : ∀ i call previous rest failed, (s.phases i).InLoop call previous rest failed →
    EvaluationProgress calls store turns i call previous rest failed
  cursor : ∀ candle, s.shared.cursor = some candle →
    store.cursor = some candle ∨ CandleEvaluated calls store turns candle
  skipped : ∀ i call, s.phases i = .ended call (.ok .alreadyEvaluated) →
    store.cursor = some call.lastCandle ∨ CandleEvaluated calls store turns call.lastCandle
  sent : ∀ i call previous alert, AlertSent calls store turns i call previous alert →
    ∃ eligible, AlertsListed calls store turns i call previous eligible ∧ alert ∈ eligible

end runs

/-! ### What a step does -/

section step

variable (input : EvaluationInput) {phase : EvaluationPhase} {store : IndicatorStore} {call : SnapshotCall}
  {previous : MetricValues} {rest : List IndicatorAlert} {failed : Bool}

theorem endEvaluation_cases (call : SnapshotCall) (failed : Bool) (store : IndicatorStore) :
    ∃ result, (endEvaluation input call failed store).1 = .ended call result ∧
      result ≠ .ok .alreadyEvaluated ∧ ((endEvaluation input call failed store).2 = store ∨
        failed = false ∧ (endEvaluation input call failed store).2.cursor = some call.lastCandle) := by
  unfold endEvaluation
  split_ifs with hfailed hclock hrefuses
  · exact ⟨_, rfl, nofun, .inl rfl⟩
  · exact ⟨_, rfl, nofun, .inl rfl⟩
  · exact ⟨_, rfl, nofun, .inl rfl⟩
  · exact ⟨_, rfl, nofun, .inr ⟨Bool.eq_false_iff.mpr hfailed, rfl⟩⟩

theorem startEvaluation_cases (call : SnapshotCall) (eligible : List IndicatorAlert) :
    (∃ e, startEvaluation call eligible = .ended call (.error e)) ∨
      ∃ previous, startEvaluation call eligible = .evaluating call previous eligible false := by
  unfold startEvaluation
  cases eligible with
  | nil => exact .inr ⟨[], rfl⟩
  | cons alert rest =>
      cases call.previous with
      | error e => exact .inl ⟨e, rfl⟩
      | ok previous => exact .inr ⟨previous, rfl⟩

theorem call?_evaluationStep : (evaluationStep input phase store).1.call? = phase.call? := by
  cases phase with
  | called call =>
      simp only [evaluationStep]
      split_ifs <;> rfl
  | listing call =>
      obtain ⟨e, h⟩ | ⟨previous, h⟩ := startEvaluation_cases call (listedAlerts input store)
      · simp [evaluationStep, h, EvaluationPhase.call?]
      · simp [evaluationStep, h, EvaluationPhase.call?]
  | evaluating call previous rest failed =>
      cases rest with
      | nil =>
          obtain ⟨result, h, -⟩ := endEvaluation_cases input call failed store
          simp [evaluationStep, h, EvaluationPhase.call?]
      | cons alert rest =>
          simp only [evaluationStep]
          split
          · rfl
          · rfl
          · split_ifs <;> rfl
  | marking call previous alert rest failed =>
      simp only [evaluationStep]
      split <;> rfl
  | writing call previous existing rest failed =>
      simp only [evaluationStep]
      split_ifs <;> rfl
  | ended call result => rfl
  | editing => rfl

variable (phase store) in
/-- The cursor moves at the end of a loop without a failed delivery. -/
theorem cursor_evaluationStep : (evaluationStep input phase store).2.cursor = store.cursor ∨
    ∃ call previous, phase = .evaluating call previous [] false ∧
      (evaluationStep input phase store).2.cursor = some call.lastCandle := by
  cases phase with
  | called call =>
      simp only [evaluationStep]
      split_ifs <;> exact .inl rfl
  | listing call => exact .inl rfl
  | evaluating call previous rest failed =>
      cases rest with
      | nil =>
          obtain ⟨result, -, -, hsame | ⟨rfl, hcursor⟩⟩ := endEvaluation_cases input call failed store
          · exact .inl (congrArg IndicatorStore.cursor hsame)
          · exact .inr ⟨call, previous, rfl, hcursor⟩
      | cons alert rest =>
          simp only [evaluationStep]
          split
          · exact .inl rfl
          · exact .inl rfl
          · split_ifs <;> exact .inl rfl
  | marking call previous alert rest failed =>
      simp only [evaluationStep]
      split <;> exact .inl rfl
  | writing call previous existing rest failed =>
      simp only [evaluationStep]
      split_ifs <;> exact .inl rfl
  | ended call result => exact .inl rfl
  | editing => exact .inl rfl

/-- How a call comes to a point of its loop: it has listed the alerts, it goes on with the same alerts, or it
is done with one more, whose condition does not hold, whose message was lost, or whose message was sent. -/
theorem inLoop_evaluationStep (h : (evaluationStep input phase store).1.InLoop call previous rest failed) :
    (phase = .listing call ∧ rest = listedAlerts input store ∧ failed = false ∧
        startEvaluation call rest = .evaluating call previous rest false) ∨
      phase.InLoop call previous rest failed ∨
      ∃ alert failed', phase = .evaluating call previous (alert :: rest) failed' ∧
        (failed = false → failed' = false ∧ (evaluateAlert call.current previous alert = .ok false ∨
          evaluateAlert call.current previous alert = .ok true ∧
            (call.notifies = true → input.delivered = true))) := by
  cases phase with
  | called call =>
      simp only [evaluationStep] at h
      split_ifs at h <;> exact h.elim
  | listing call' =>
      obtain ⟨e, hstart⟩ | ⟨previous', hstart⟩ := startEvaluation_cases call' (listedAlerts input store)
      · simp only [evaluationStep, hstart] at h
        exact h.elim
      · simp only [evaluationStep, hstart] at h
        obtain ⟨rfl, rfl, rfl, rfl⟩ := h
        exact .inl ⟨rfl, rfl, rfl, hstart⟩
  | evaluating call' previous' rest' failed' =>
      cases rest' with
      | nil =>
          obtain ⟨result, hend, -⟩ := endEvaluation_cases input call' failed' store
          simp only [evaluationStep, hend] at h
          exact h.elim
      | cons alert rest' =>
          simp only [evaluationStep] at h
          split at h
          case h_1 => exact h.elim
          case h_2 hvalue =>
            obtain ⟨rfl, rfl, rfl, rfl⟩ := h
            exact .inr (.inr ⟨alert, _, rfl, fun hfailed => ⟨hfailed, .inl hvalue⟩⟩)
          case h_3 hvalue =>
            split_ifs at h with hlost
            · obtain ⟨rfl, rfl, rfl, rfl⟩ := h
              exact .inr (.inr ⟨alert, _, rfl, nofun⟩)
            · obtain ⟨rfl, rfl, rfl, rfl⟩ := h
              refine .inr (.inr ⟨alert, _, rfl, fun hfailed => ⟨hfailed, .inr ⟨hvalue, ?_⟩⟩⟩)
              simpa using hlost
  | marking call' previous' alert rest' failed' =>
      simp only [evaluationStep] at h
      split at h
      · exact .inr (.inl h)
      · exact .inr (.inl h)
  | writing call' previous' existing rest' failed' =>
      simp only [evaluationStep] at h
      split_ifs at h
      · exact h.elim
      · exact .inr (.inl h)
  | ended call' result => exact h.elim
  | editing => exact h.elim

theorem skipped_evaluationStep
    (h : (evaluationStep input phase store).1 = .ended call (.ok .alreadyEvaluated)) :
    store.cursor = some call.lastCandle ∨ phase = .ended call (.ok .alreadyEvaluated) := by
  cases phase with
  | called call' =>
      simp only [evaluationStep] at h
      split_ifs at h with hshort hcursor
      · simp at h
      · simp only [EvaluationPhase.ended.injEq] at h
        simp only [Bool.and_eq_true, beq_iff_eq] at hcursor
        exact .inl (h.1 ▸ hcursor.2)
  | listing call' =>
      obtain ⟨e, hstart⟩ | ⟨previous', hstart⟩ := startEvaluation_cases call' (listedAlerts input store)
      · simp [evaluationStep, hstart] at h
      · simp [evaluationStep, hstart] at h
  | evaluating call' previous' rest' failed' =>
      cases rest' with
      | nil =>
          obtain ⟨result, hend, hresult, -⟩ := endEvaluation_cases input call' failed' store
          simp only [evaluationStep, hend, EvaluationPhase.ended.injEq] at h
          exact absurd h.2 hresult
      | cons alert rest' =>
          simp only [evaluationStep] at h
          split at h
          · simp at h
          · simp at h
          · split_ifs at h
  | marking call' previous' alert rest' failed' =>
      simp only [evaluationStep] at h
      split at h <;> simp at h
  | writing call' previous' existing rest' failed' =>
      simp only [evaluationStep] at h
      split_ifs at h
      simp at h
  | ended call' result => exact .inr h
  | editing => simp [evaluationStep] at h

end step

/-! ### What every turn keeps -/

section invariant

variable {ι : Type} [DecidableEq ι] {calls : ι → Option SnapshotCall} {store : IndicatorStore}
  {turns : List (Turn ι EvaluationInput)} {j : ι} {call : SnapshotCall} {previous : MetricValues}
  {alert : IndicatorAlert} {eligible rest : List IndicatorAlert} {failed : Bool} {candle : Instant}

theorem AlertsListed.turn (h : AlertsListed calls store turns j call previous eligible)
    (t : Turn ι EvaluationInput) : AlertsListed calls store (t :: turns) j call previous eligible :=
  taken_cons.mpr (.inr h)

theorem AlertSettled.turn (h : AlertSettled calls store turns j call previous alert)
    (t : Turn ι EvaluationInput) : AlertSettled calls store (t :: turns) j call previous alert :=
  h.imp_right fun hsent => taken_cons.mpr (.inr hsent)

theorem CandleEvaluated.turn (h : CandleEvaluated calls store turns candle) (t : Turn ι EvaluationInput) :
    CandleEvaluated calls store (t :: turns) candle := by
  obtain ⟨j, call, previous, eligible, hcall, hcandle, hlisted, hsettled⟩ := h
  exact ⟨j, call, previous, eligible, hcall, hcandle, hlisted.turn t,
    fun alert halert => (hsettled alert halert).turn t⟩

theorem EvaluationProgress.turn (h : EvaluationProgress calls store turns j call previous rest failed)
    (t : Turn ι EvaluationInput) :
    EvaluationProgress calls store (t :: turns) j call previous rest failed := by
  obtain ⟨eligible, hlisted, hrest, hdone⟩ := h
  exact ⟨eligible, hlisted.turn t, hrest,
    fun hfailed alert halert => (hdone hfailed alert halert).imp_right fun hsettled => hsettled.turn t⟩

/-- One alert more is settled, or its message is lost. -/
theorem EvaluationProgress.settle {failed' : Bool}
    (h : EvaluationProgress calls store turns j call previous (alert :: rest) failed)
    (hsettled : failed' = false → failed = false ∧ AlertSettled calls store turns j call previous alert) :
    EvaluationProgress calls store turns j call previous rest failed' := by
  obtain ⟨eligible, hlisted, hrest, hdone⟩ := h
  refine ⟨eligible, hlisted, fun other hother => hrest other (.tail _ hother), ?_⟩
  intro hfailed other hother
  obtain ⟨hbefore, halert⟩ := hsettled hfailed
  obtain hleft | hother := hdone hbefore other hother
  · obtain rfl | hleft := List.mem_cons.mp hleft
    · exact .inr halert
    · exact .inl hleft
  · exact .inr hother

/-- At the end of a loop without a failed delivery, the candle is evaluated. -/
theorem EvaluationProgress.evaluated (h : EvaluationProgress calls store turns j call previous [] false)
    (hcall : calls j = some call) : CandleEvaluated calls store turns call.lastCandle := by
  obtain ⟨eligible, hlisted, -, hdone⟩ := h
  refine ⟨j, call, previous, eligible, hcall, rfl, hlisted, fun alert halert => ?_⟩
  exact (hdone rfl alert halert).resolve_left List.not_mem_nil

theorem EvaluationInv.progress (h : EvaluationInv calls store turns (evaluationAfter calls store turns))
    (hphase : (evaluationAfter calls store turns).phases j = .evaluating call previous rest failed) :
    EvaluationProgress calls store turns j call previous rest failed :=
  h.loop j call previous rest failed (by rw [hphase]; exact ⟨rfl, rfl, rfl, rfl⟩)

theorem EvaluationInv.turn (h : EvaluationInv calls store turns (evaluationAfter calls store turns))
    (t : Turn ι EvaluationInput) :
    EvaluationInv calls store (t :: turns) (evaluationAfter calls store (t :: turns)) := by
  have hphases := System.phases_turn evaluationStep (evaluationAfter calls store turns) t
  refine ⟨fun i call hi => ?_, fun i call previous rest failed hi => ?_, fun candle hcandle => ?_,
    fun i call hi => ?_, fun i call previous alert hsent => ?_⟩
  · rw [evaluationAfter, after, ← evaluationAfter, hphases] at hi
    split_ifs at hi with hturn
    · rw [call?_evaluationStep] at hi
      exact h.call i call (hturn ▸ hi)
    · exact h.call i call hi
  · rw [evaluationAfter, after, ← evaluationAfter, hphases] at hi
    split_ifs at hi with hturn
    · subst hturn
      obtain ⟨hphase, rfl, rfl, hstart⟩ | hloop | ⟨alert, failed', hphase, hsettled⟩ :=
        inLoop_evaluationStep t.input hi
      · -- the alerts have just been listed
        exact ⟨_, taken_cons.mpr (.inl ⟨rfl, hphase, rfl, hstart⟩), fun _ hleft => hleft,
          fun _ _ hleft => .inl hleft⟩
      · exact (h.loop _ _ _ _ _ hloop).turn t
      · refine ((h.progress hphase).turn t).settle fun hfailed => ?_
        refine (hsettled hfailed).imp_right fun hvalue => ?_
        exact hvalue.imp_right fun ⟨hholds, hdelivered⟩ =>
          taken_cons.mpr (.inl ⟨rfl, rest, failed', hphase, hholds, hdelivered⟩)
    · exact (h.loop _ _ _ _ _ hi).turn t
  · obtain hsame | ⟨call, previous, hphase, hmoved⟩ := cursor_evaluationStep t.input
      ((evaluationAfter calls store turns).phases t.call) (evaluationAfter calls store turns).shared
    · exact (h.cursor candle (hsame.symm.trans hcandle)).imp_right fun hbefore => hbefore.turn t
    · -- the call at the end of its loop has written the cursor
      have hcall := h.call t.call call (by rw [hphase]; rfl)
      obtain rfl := Option.some.inj (hmoved.symm.trans hcandle)
      exact .inr (((h.progress hphase).evaluated hcall).turn t)
  · rw [evaluationAfter, after, ← evaluationAfter, hphases] at hi
    refine Or.imp_right (fun hbefore => CandleEvaluated.turn hbefore t) ?_
    split_ifs at hi with hturn
    · obtain hcursor | hended := skipped_evaluationStep t.input hi
      · exact h.cursor _ hcursor
      · exact h.skipped _ _ hended
    · exact h.skipped _ _ hi
  · obtain ⟨rfl, rest, failed, hphase, -, -⟩ | hbefore := taken_cons.mp hsent
    · obtain ⟨eligible, hlisted, hrest, -⟩ := h.progress hphase
      exact ⟨eligible, hlisted.turn t, hrest alert (.head _)⟩
    · obtain ⟨eligible, hlisted, hmem⟩ := h.sent i call previous alert hbefore
      exact ⟨eligible, hlisted.turn t, hmem⟩

variable (calls store) in
theorem evaluationInv (turns : List (Turn ι EvaluationInput)) :
    EvaluationInv calls store turns (evaluationAfter calls store turns) := by
  induction turns with
  | nil =>
      have hstart : ∀ i, (evaluationAfter calls store ([] : List (Turn ι EvaluationInput))).phases i =
          match calls i with
          | some call => .called call
          | none => .editing := fun _ => rfl
      refine ⟨fun i call hi => ?_, fun i call previous rest failed hi => ?_, fun _ hcandle => .inl hcandle,
        fun i call hi => ?_, fun i call previous alert hsent => ?_⟩
      · rw [hstart] at hi
        split at hi
        case h_1 call' hcall => rw [hcall, ← hi]; rfl
        case h_2 => cases hi
      · rw [hstart] at hi
        split at hi <;> exact hi.elim
      · rw [hstart] at hi
        split at hi <;> cases hi
      · obtain ⟨later, t, earlier, hnil, -⟩ := hsent
        simp at hnil
  | cons t turns ih => exact ih.turn t

end invariant

/-- However calls and commands interleave, and whichever of their steps fail: when the cursor is on a candle,
or a call skips one, then it was evaluated before, unless the cursor was on it from the start; and an alert
whose message was sent is one that the call had listed. -/
theorem indicatorAlerts_evaluated {ι : Type} [DecidableEq ι] (calls : ι → Option SnapshotCall)
    (store : IndicatorStore) (turns : List (Turn ι EvaluationInput)) :
    (∀ candle, (evaluationAfter calls store turns).shared.cursor = some candle →
      store.cursor = some candle ∨ CandleEvaluated calls store turns candle) ∧
    (∀ i call, (evaluationAfter calls store turns).phases i = .ended call (.ok .alreadyEvaluated) →
      store.cursor = some call.lastCandle ∨ CandleEvaluated calls store turns call.lastCandle) ∧
    ∀ i call previous alert, AlertSent calls store turns i call previous alert →
      ∃ eligible, AlertsListed calls store turns i call previous eligible ∧ alert ∈ eligible :=
  have h := evaluationInv calls store turns
  ⟨h.cursor, h.skipped, h.sent⟩

-- a message is lost, and the candle is left to the next call
example :
    let alert : IndicatorAlert := ⟨1, 7, .RSI, .above 70, .PENDING, false, none, none⟩
    let call : SnapshotCall := ⟨2, 0, [("rsi", some 75)], .ok [], true⟩
    let input : EvaluationInput := ⟨60, true, false, false, []⟩
    let s := evaluationAfter (fun _ : Unit => some call) ⟨[alert], none⟩ (.replicate 4 ⟨(), input⟩)
    s.phases () = .ended call (.ok .deliveryFailed) ∧ s.shared.cursor = none := by
  exact ⟨rfl, rfl⟩

end OandaV3
