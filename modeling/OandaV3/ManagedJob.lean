import OandaV3.Models
import OandaV3.Turns

/-! # A job of the scheduler

`_ManagedJob` of `.worktrees/scan-force/orchestration/scheduler.py` runs a job for whoever triggers it.  A
trigger that finds the job running asks for a rerun with a flag, and the one that runs it looks at the flag
when it records how the run ended; it releases the execution lock some steps later.

* `managedJob_status`: in every interleaving of triggers the runs follow each other, and the status is the one
  of their history.
* `managedJob_reruns`: once the job is at rest, each trigger was followed by a run, unless it asked for a rerun
  after the last look at the flag; the flag is then still set, and only then. -/

namespace OandaV3

open Turns

/-! ### The machine -/

/-- How `self.fn()` ends: it returns, it raises an `Exception`, or something that is none. -/
inductive JobOutcome where
  | succeeded
  | failed (error : String)
  | interrupted
deriving DecidableEq, Repr

/-- The fields of a `_ManagedJob`. -/
structure ManagedJob where
  executionLock : Bool := false
  isRunning : Bool := false
  pendingRerun : Bool := false
  consecutiveFailures : ℕ := 0
  lastStartedAt : Option Instant := none
  lastCompletedAt : Option Instant := none
  lastSucceededAt : Option Instant := none
  lastFailedAt : Option Instant := none
  lastError : Option String := none
deriving DecidableEq, Repr

/-- Where a call of `trigger` is.  Each block under the state lock is one step. -/
inductive TriggerPhase where
  | enter
  | refused
  | top
  | calling
  | ended (error : Option String)
  | sleeping (seconds : ℕ)
  | leaving
  | releasing
  | gone
deriving DecidableEq, Repr

/-- What a step reads: the clock, and how the job ends. -/
structure TriggerInput where
  now : Instant
  outcome : JobOutcome
deriving DecidableEq, Repr

/-- `_failure_backoff_seconds`. -/
def failureBackoffSeconds (consecutiveFailures : ℕ) : ℕ :=
  if consecutiveFailures ≤ 1 then 5 else if consecutiveFailures = 2 then 15 else 60

/-- A step of `trigger`. -/
def triggerStep (input : TriggerInput) : TriggerPhase → ManagedJob → TriggerPhase × ManagedJob
  | .enter, job =>
      if job.executionLock then (.refused, job) else (.top, { job with executionLock := true })
  | .refused, job => (.gone, { job with pendingRerun := true })
  | .top, job =>
      (.calling, { job with isRunning := true, pendingRerun := false, lastStartedAt := some input.now })
  | .calling, job =>
      match input.outcome with
      | .succeeded => (.ended none, job)
      | .failed error => (.ended (some error), job)
      | .interrupted => (.leaving, job)
  | .ended (some error), job =>
      (if job.pendingRerun then .sleeping (failureBackoffSeconds (job.consecutiveFailures + 1)) else .leaving,
        { job with
          isRunning := false
          lastCompletedAt := some input.now
          lastFailedAt := some input.now
          lastError := some error
          consecutiveFailures := job.consecutiveFailures + 1 })
  | .ended none, job =>
      (if job.pendingRerun then .top else .leaving,
        { job with
          isRunning := false
          lastCompletedAt := some input.now
          lastSucceededAt := some input.now
          lastError := none
          consecutiveFailures := 0 })
  | .sleeping _, job => (.top, job)
  | .leaving, job => (.releasing, { job with isRunning := false })
  | .releasing, job => (.gone, { job with executionLock := false })
  | .gone, job => (.gone, job)

/-- The call holds the execution lock. -/
def TriggerPhase.Inside : TriggerPhase → Prop
  | .top | .calling | .ended _ | .sleeping _ | .leaving | .releasing => True
  | .enter | .refused | .gone => False

instance (phase : TriggerPhase) : Decidable phase.Inside := by
  cases phase <;> unfold TriggerPhase.Inside <;> infer_instance

/-- The call is in a run of the job: it has recorded the start and not the end. -/
def TriggerPhase.Running : TriggerPhase → Prop
  | .calling | .ended _ => True
  | _ => False

/-- No trigger has come yet. -/
def idleJob (ι : Type) : System ι TriggerPhase ManagedJob where
  phases _ := .enter
  shared := {}

section runs

variable {ι : Type} [DecidableEq ι]

/-- The job after turns of its triggers, the last one first. -/
def jobAfter (turns : List (Turn ι TriggerInput)) : System ι TriggerPhase ManagedJob :=
  after triggerStep (idleJob ι) turns

/-- The steps of the triggers, the last one first. -/
def jobTrace (turns : List (Turn ι TriggerInput)) : List (Step ι TriggerInput TriggerPhase) :=
  trace triggerStep (idleJob ι) turns

end runs

/-! ### The history -/

abbrev JobStep (ι : Type) := Step ι TriggerInput TriggerPhase

namespace JobStep

variable {ι : Type}

def starts (e : JobStep ι) : Bool := e.before == .top

/-- The end of a run is recorded, and the flag looked at. -/
def checks (e : JobStep ι) : Bool :=
  match e.before with
  | .ended _ => true
  | _ => false

/-- The run had failed with this error. -/
def error? (e : JobStep ι) : Option String :=
  match e.before with
  | .ended error => error
  | _ => none

def requests (e : JobStep ι) : Bool := e.before == .refused

end JobStep

/-- What `status` reads of a job, and the failures that are counted. -/
structure JobStatus where
  isRunning : Bool
  consecutiveFailures : ℕ
  lastStartedAt : Option Instant
  lastCompletedAt : Option Instant
  lastSucceededAt : Option Instant
  lastFailedAt : Option Instant
  lastError : Option String
deriving DecidableEq, Repr

def ManagedJob.status (job : ManagedJob) : JobStatus where
  isRunning := job.isRunning
  consecutiveFailures := job.consecutiveFailures
  lastStartedAt := job.lastStartedAt
  lastCompletedAt := job.lastCompletedAt
  lastSucceededAt := job.lastSucceededAt
  lastFailedAt := job.lastFailedAt
  lastError := job.lastError

section history

variable {ι : Type} (history : List (JobStep ι))

def lastTime (kind : JobStep ι → Bool) : Option Instant := (history.find? kind).map (·.input.now)

/-- The status that a history tells: the last start, the last ends, and the failures since the last
success. -/
def statusOf : JobStatus where
  isRunning := (history.find? fun e => e.starts || e.checks || e.before == .leaving).any JobStep.starts
  consecutiveFailures := ((history.filter JobStep.checks).takeWhile fun e => e.error?.isSome).length
  lastStartedAt := lastTime history JobStep.starts
  lastCompletedAt := lastTime history JobStep.checks
  lastSucceededAt := lastTime history fun e => e.checks && e.error?.isNone
  lastFailedAt := lastTime history fun e => e.checks && e.error?.isSome
  lastError := (history.find? JobStep.checks).bind JobStep.error?

variable (i : ι)

/-- The call has started a run. -/
def Ran : Prop := ∃ e ∈ history, e.call = i ∧ e.starts = true

/-- The call has asked for a rerun, and a run has started since. -/
def Served : Prop := ∃ e ∈ history.dropWhile fun e => !e.starts, e.call = i ∧ e.requests = true

/-- The call has asked for a rerun, and none has started since. -/
def Waits : Prop := ∃ e ∈ history.takeWhile fun e => !e.starts, e.call = i ∧ e.requests = true

/-- The call has asked for a rerun after the last start, and after the last look at the flag. -/
def Lost : Prop :=
  ∃ e ∈ history.takeWhile fun e => !e.starts && !e.checks, e.call = i ∧ e.requests = true

end history

/-! ### One call at a time -/

section step

variable (input : TriggerInput) {phase : TriggerPhase} (job : ManagedJob)

/-- A call leaves with the release of the lock, and only then. -/
theorem inside_next (hin : phase.Inside) :
    (triggerStep input phase job).1.Inside ↔ phase ≠ .releasing := by
  cases phase with
  | enter | refused | gone => exact hin.elim
  | top | sleeping | leaving => exact iff_of_true trivial nofun
  | releasing => exact iff_of_false id (not_not.mpr rfl)
  | calling =>
      refine iff_of_true ?_ nofun
      rw [triggerStep]
      split <;> trivial
  | ended error =>
      refine iff_of_true ?_ nofun
      cases error <;> simp only [triggerStep] <;> split_ifs <;> trivial

/-- A call that is inside keeps the lock until it releases it. -/
theorem executionLock_next (hin : phase.Inside) :
    (triggerStep input phase job).2.executionLock = (job.executionLock && phase != .releasing) := by
  cases phase with
  | enter | refused | gone => exact hin.elim
  | top | sleeping | leaving => exact (Bool.and_true _).symm
  | releasing => exact (Bool.and_false _).symm
  | calling =>
      rw [triggerStep]
      split <;> exact (Bool.and_true _).symm
  | ended error => cases error <;> exact (Bool.and_true _).symm

end step

theorem disciplined_triggerStep :
    Disciplined triggerStep TriggerPhase.Inside ManagedJob.executionLock where
  outside := by
    intro input phase job hout hnext
    cases phase with
    | enter =>
        rw [triggerStep] at hnext ⊢
        split_ifs at hnext ⊢ with hlock
        · rfl
        · exact absurd trivial hnext
    | refused | gone => rfl
    | top | calling | ended | sleeping | leaving | releasing => exact absurd trivial hout
  enter := by
    intro input phase job hout hnext
    cases phase with
    | enter =>
        rw [triggerStep] at hnext ⊢
        split_ifs at hnext ⊢ with hlock
        · exact hnext.elim
        · exact ⟨Bool.eq_false_iff.mpr hlock, rfl⟩
    | refused | gone => exact hnext.elim
    | top | calling | ended | sleeping | leaving | releasing => exact absurd trivial hout
  stay := by
    intro input phase job hin hnext
    have hphase := (inside_next input job hin).mp hnext
    rw [executionLock_next input job hin, bne_iff_ne.mpr hphase, Bool.and_true]
  leave := by
    intro input phase job hin hnext
    have hphase := not_not.mp fun h => hnext ((inside_next input job hin).mpr h)
    rw [executionLock_next input job hin, hphase, bne_self_eq_false, Bool.and_false]

/-! ### The status -/

section status

variable {ι : Type} (e : JobStep ι) (history : List (JobStep ι))

/-- What a step tells about the job. -/
def JobStatus.record (e : JobStep ι) (status : JobStatus) : JobStatus :=
  match e.before with
  | .top => { status with isRunning := true, lastStartedAt := some e.input.now }
  | .ended none =>
      { status with
        isRunning := false
        consecutiveFailures := 0
        lastCompletedAt := some e.input.now
        lastSucceededAt := some e.input.now
        lastError := none }
  | .ended (some error) =>
      { status with
        isRunning := false
        consecutiveFailures := status.consecutiveFailures + 1
        lastCompletedAt := some e.input.now
        lastFailedAt := some e.input.now
        lastError := some error }
  | .leaving => { status with isRunning := false }
  | _ => status

theorem statusOf_cons : statusOf (e :: history) = (statusOf history).record e := by
  obtain ⟨call, input, before, next⟩ := e
  cases before with
  | ended error => cases error <;> rfl
  | enter | refused | top | calling | sleeping | leaving | releasing | gone => rfl

theorem status_triggerStep (job : ManagedJob) :
    (triggerStep e.input e.before job).2.status = job.status.record e := by
  obtain ⟨call, input, before, next⟩ := e
  cases before with
  | enter =>
      simp only [triggerStep]
      split_ifs <;> rfl
  | calling =>
      simp only [triggerStep]
      split <;> rfl
  | ended error => cases error <;> rfl
  | refused | top | sleeping | leaving | releasing | gone => rfl

theorem status_jobAfter [DecidableEq ι] (turns : List (Turn ι TriggerInput)) :
    (jobAfter turns).shared.status = statusOf (jobTrace turns) := by
  induction turns with
  | nil => rfl
  | cons t turns ih =>
      have hstep := status_triggerStep ((jobAfter turns).step triggerStep t) (jobAfter turns).shared
      exact hstep.trans ((congrArg _ ih).trans (statusOf_cons _ _).symm)

end status

/-! ### What a history says of a call -/

section history

variable {ι : Type} {e : JobStep ι} {history : List (JobStep ι)} {i : ι}

theorem waits_cons : Waits (e :: history) i ↔
    e.starts = false ∧ ((e.call = i ∧ e.requests = true) ∨ Waits history i) := by
  rw [Waits, List.takeWhile_cons]
  cases hstarts : e.starts with
  | true => simp
  | false => simp [Waits]

theorem lost_cons : Lost (e :: history) i ↔
    e.starts = false ∧ e.checks = false ∧ ((e.call = i ∧ e.requests = true) ∨ Lost history i) := by
  rw [Lost, List.takeWhile_cons]
  cases hstarts : e.starts with
  | true => simp
  | false =>
      cases hchecks : e.checks with
      | true => simp
      | false => simp [Lost]

/-- A trigger that is lost waits. -/
theorem Lost.waits (h : Lost history i) : Waits history i := by
  induction history with
  | nil =>
      obtain ⟨e, he, -⟩ := h
      exact absurd he List.not_mem_nil
  | cons e history ih =>
      obtain ⟨hstarts, -, hlost⟩ := lost_cons.mp h
      exact waits_cons.mpr ⟨hstarts, hlost.imp_right ih⟩

theorem asked_iff : (∃ e ∈ history, e.call = i ∧ e.requests = true) ↔
    Waits history i ∨ Served history i := by
  have hsplit := List.takeWhile_append_dropWhile (p := fun e : JobStep ι => !e.starts) (l := history)
  rw [Waits, Served]
  constructor
  · rintro ⟨e, he, hcall⟩
    rw [← hsplit, List.mem_append] at he
    exact he.imp (fun he => ⟨e, he, hcall⟩) fun he => ⟨e, he, hcall⟩
  · rintro (⟨e, he, hcall⟩ | ⟨e, he, hcall⟩)
    · exact ⟨e, List.takeWhile_subset _ he, hcall⟩
    · exact ⟨e, List.dropWhile_subset _ he, hcall⟩

theorem Ran.cons (h : Ran history i) : Ran (e :: history) i :=
  let ⟨e', he', hcall⟩ := h
  ⟨e', List.mem_cons_of_mem e he', hcall⟩

end history

/-! ### The invariant -/

/-- The call is about to start a run. -/
def TriggerPhase.Reruns : TriggerPhase → Prop
  | .top | .sleeping _ => True
  | _ => False

/-- The call has started a run. -/
def TriggerPhase.HasRun : TriggerPhase → Prop
  | .calling | .ended _ | .sleeping _ | .leaving | .releasing => True
  | _ => False

/-- The call is between the start of a run and what clears `is_running`. -/
def TriggerPhase.InRun : TriggerPhase → Prop
  | .calling | .ended _ | .leaving => True
  | _ => False

theorem TriggerPhase.Running.inside {phase : TriggerPhase} (h : phase.Running) : phase.Inside := by
  cases phase <;> trivial

theorem TriggerPhase.InRun.inside {phase : TriggerPhase} (h : phase.InRun) : phase.Inside := by
  cases phase <;> trivial

/-- What holds of a job and of its history. -/
structure JobInv {ι : Type} (history : List (JobStep ι)) (s : System ι TriggerPhase ManagedJob) : Prop where
  running : ∀ i, (s.phases i).Running → s.shared.isRunning = true
  inRun : s.shared.isRunning = true → ∃ i, (s.phases i).InRun
  sleeping : ∀ i seconds, s.phases i = .sleeping seconds →
    seconds = failureBackoffSeconds s.shared.consecutiveFailures
  pending : s.shared.pendingRerun = true ↔ ∃ i, Waits history i
  ready : ∀ i, Waits history i → ¬ Lost history i → ∃ j, (s.phases j).Reruns
  hasRun : ∀ i, (s.phases i).HasRun → Ran history i
  gone : ∀ i, s.phases i = .gone → Ran history i ∨ ∃ e ∈ history, e.call = i ∧ e.requests = true

/-! ### A turn keeps it -/

section turn

variable {ι : Type} [DecidableEq ι] {history : List (JobStep ι)} {s : System ι TriggerPhase ManagedJob}

/-- A call that is not inside changes neither the run that is on nor the count of failures. -/
theorem shared_of_outside (input : TriggerInput) {phase : TriggerPhase} (job : ManagedJob)
    (hout : ¬ phase.Inside) :
    (triggerStep input phase job).2.isRunning = job.isRunning ∧
      (triggerStep input phase job).2.consecutiveFailures = job.consecutiveFailures := by
  cases phase with
  | enter =>
      simp only [triggerStep]
      split_ifs <;> exact ⟨rfl, rfl⟩
  | refused | gone => exact ⟨rfl, rfl⟩
  | top | calling | ended | sleeping | leaving | releasing => exact absurd trivial hout

def jobStep (s : System ι TriggerPhase ManagedJob) (t : Turn ι TriggerInput) : JobStep ι :=
  s.step triggerStep t

theorem phases_turn (t : Turn ι TriggerInput) (i : ι) : (s.turn triggerStep t).phases i =
    if i = t.call then (triggerStep t.input (s.phases t.call) s.shared).1 else s.phases i :=
  Function.update_apply ..

omit [DecidableEq ι] in
/-- When a call that holds the lock takes its turn, no other call is inside. -/
theorem outside_of_ne {t : Turn ι TriggerInput} {i : ι}
    (hex : Exclusive TriggerPhase.Inside ManagedJob.executionLock s)
    (hi : i ≠ t.call) (hin : (s.phases i).Inside) : ¬ (s.phases t.call).Inside :=
  fun hcall => hi (hex.unique i t.call hin hcall)

variable (hex : Exclusive TriggerPhase.Inside ManagedJob.executionLock s) (h : JobInv history s)
  (t : Turn ι TriggerInput)

include hex h

theorem running_turn {i : ι} (hi : ((s.turn triggerStep t).phases i).Running) :
    (s.turn triggerStep t).shared.isRunning = true := by
  rw [phases_turn] at hi
  change (triggerStep t.input (s.phases t.call) s.shared).2.isRunning = true
  split_ifs at hi with hcall
  · have hrun := h.running t.call
    cases hphase : s.phases t.call with
    | enter =>
        rw [hphase] at hi
        simp only [triggerStep] at hi
        split_ifs at hi <;> exact hi.elim
    | top => rfl
    | calling =>
        rw [hphase] at hrun
        simp only [triggerStep]
        split <;> exact hrun trivial
    | ended error =>
        rw [hphase] at hi
        cases error <;> simp only [triggerStep] at hi <;> split_ifs at hi <;> exact hi.elim
    | refused | sleeping | leaving | releasing | gone =>
        rw [hphase] at hi
        exact hi.elim
  · rw [(shared_of_outside t.input s.shared (outside_of_ne hex hcall hi.inside)).1]
    exact h.running i hi

omit hex in
theorem inRun_turn (hrunning : (s.turn triggerStep t).shared.isRunning = true) :
    ∃ i, ((s.turn triggerStep t).phases i).InRun := by
  change (triggerStep t.input (s.phases t.call) s.shared).2.isRunning = true at hrunning
  have hself : ((triggerStep t.input (s.phases t.call) s.shared).1).InRun →
      ∃ i, ((s.turn triggerStep t).phases i).InRun := by
    intro hnext
    refine ⟨t.call, ?_⟩
    rwa [phases_turn, if_pos rfl]
  -- the run that was on is the one of another call, which has not moved
  have hother : s.shared.isRunning = true → ¬ (s.phases t.call).InRun →
      ∃ i, ((s.turn triggerStep t).phases i).InRun := by
    intro hwas hnot
    obtain ⟨i, hi⟩ := h.inRun hwas
    have hne : i ≠ t.call := by
      rintro rfl
      exact hnot hi
    refine ⟨i, ?_⟩
    rwa [phases_turn, if_neg hne]
  cases hphase : s.phases t.call with
  | enter | refused | gone =>
      have hout : ¬ (s.phases t.call).Inside := by
        rw [hphase]
        exact id
      have hsame := (shared_of_outside t.input s.shared hout).1
      exact hother (hsame.symm.trans hrunning) (by rw [hphase]; exact id)
  | top =>
      refine hself ?_
      rw [hphase]
      trivial
  | calling =>
      refine hself ?_
      rw [hphase, triggerStep]
      split <;> trivial
  | ended error =>
      rw [hphase] at hrunning
      cases error <;> exact absurd hrunning Bool.false_ne_true
  | leaving =>
      rw [hphase] at hrunning
      exact absurd hrunning Bool.false_ne_true
  | sleeping | releasing =>
      rw [hphase] at hrunning
      exact hother hrunning (by rw [hphase]; exact id)

theorem sleeping_turn {i : ι} {seconds : ℕ} (hi : (s.turn triggerStep t).phases i = .sleeping seconds) :
    seconds = failureBackoffSeconds (s.turn triggerStep t).shared.consecutiveFailures := by
  rw [phases_turn] at hi
  change seconds = failureBackoffSeconds (triggerStep t.input (s.phases t.call) s.shared).2.consecutiveFailures
  split_ifs at hi with hcall
  · cases hphase : s.phases t.call with
    | ended error =>
        rw [hphase] at hi
        cases error with
        | none =>
            simp only [triggerStep] at hi
            split_ifs at hi
        | some error =>
            simp only [triggerStep] at hi
            split_ifs at hi
            exact (TriggerPhase.sleeping.inj hi).symm
    | enter =>
        rw [hphase] at hi
        simp only [triggerStep] at hi
        split_ifs at hi
    | calling =>
        rw [hphase] at hi
        simp only [triggerStep] at hi
        split at hi <;> cases hi
    | refused | top | sleeping | leaving | releasing | gone =>
        rw [hphase] at hi
        cases hi
  · have hin : (s.phases i).Inside := by
      rw [hi]
      trivial
    rw [(shared_of_outside t.input s.shared (outside_of_ne hex hcall hin)).2]
    exact h.sleeping i seconds hi

omit hex in
theorem pending_turn : (s.turn triggerStep t).shared.pendingRerun = true ↔
    ∃ i, Waits (jobStep s t :: history) i := by
  have hcons : (∃ i, Waits (jobStep s t :: history) i) ↔
      (jobStep s t).starts = false ∧
        ((jobStep s t).requests = true ∨ s.shared.pendingRerun = true) := by
    rw [h.pending]
    constructor
    · rintro ⟨i, hi⟩
      obtain ⟨hstarts, hwaits⟩ := waits_cons.mp hi
      exact ⟨hstarts, hwaits.imp And.right fun hwaits => ⟨i, hwaits⟩⟩
    · rintro ⟨hstarts, hrequests | ⟨i, hwaits⟩⟩
      · exact ⟨t.call, waits_cons.mpr ⟨hstarts, Or.inl ⟨rfl, hrequests⟩⟩⟩
      · exact ⟨i, waits_cons.mpr ⟨hstarts, Or.inr hwaits⟩⟩
  rw [hcons]
  change (triggerStep t.input (s.phases t.call) s.shared).2.pendingRerun = true ↔
    (s.phases t.call == .top) = false ∧ ((s.phases t.call == .refused) = true ∨ s.shared.pendingRerun = true)
  cases s.phases t.call with
  | enter =>
      simp only [triggerStep]
      split_ifs <;> simp
  | calling =>
      simp only [triggerStep]
      split <;> simp
  | ended error => cases error <;> simp [triggerStep]
  | refused | top | sleeping | leaving | releasing | gone => simp [triggerStep]

omit hex in
theorem ready_turn {i : ι} (hwaits : Waits (jobStep s t :: history) i)
    (hlost : ¬ Lost (jobStep s t :: history) i) : ∃ j, ((s.turn triggerStep t).phases j).Reruns := by
  obtain ⟨hstarts, hwaits⟩ := waits_cons.mp hwaits
  rw [lost_cons] at hlost
  have hself : ((triggerStep t.input (s.phases t.call) s.shared).1).Reruns →
      ∃ j, ((s.turn triggerStep t).phases j).Reruns := by
    intro hnext
    refine ⟨t.call, ?_⟩
    rwa [phases_turn, if_pos rfl]
  cases hchecks : (jobStep s t).checks with
  | true =>
      -- the flag is set, so the call that looks at it starts another run
      have hbefore : (jobStep s t).requests = false := by
        change (s.phases t.call == .refused) = false
        change (match s.phases t.call with | .ended _ => true | _ => false) = true at hchecks
        cases hphase : s.phases t.call with
        | ended error => rfl
        | _ => rw [hphase] at hchecks; cases hchecks
      have hpending := h.pending.mpr
        ⟨i, hwaits.resolve_left fun hcall => Bool.eq_false_iff.mp hbefore hcall.2⟩
      refine hself ?_
      change (match s.phases t.call with | .ended _ => true | _ => false) = true at hchecks
      cases hphase : s.phases t.call with
      | ended error => cases error <;> simp only [triggerStep, hpending] <;> trivial
      | _ => rw [hphase] at hchecks; cases hchecks
  | false =>
      have hnot : ¬ (((jobStep s t).call = i ∧ (jobStep s t).requests = true) ∨
          Lost history i) := fun hor => hlost ⟨hstarts, hchecks, hor⟩
      obtain ⟨j, hj⟩ := h.ready i (hwaits.resolve_left fun hcall => hnot (Or.inl hcall))
        fun hlost => hnot (Or.inr hlost)
      by_cases hcall : j = t.call
      · refine hself ?_
        rw [hcall] at hj
        change (s.phases t.call == .top) = false at hstarts
        cases hphase : s.phases t.call with
        | sleeping => trivial
        | top => rw [hphase] at hstarts; cases hstarts
        | _ => rw [hphase] at hj; exact hj.elim
      · refine ⟨j, ?_⟩
        rwa [phases_turn, if_neg hcall]

omit hex in
theorem hasRun_turn {i : ι} (hi : ((s.turn triggerStep t).phases i).HasRun) :
    Ran (jobStep s t :: history) i := by
  rw [phases_turn] at hi
  split_ifs at hi with hcall
  · subst hcall
    by_cases hran : (s.phases t.call).HasRun
    · exact (h.hasRun t.call hran).cons
    · cases hphase : s.phases t.call with
      | top => exact ⟨jobStep s t, List.mem_cons_self, rfl, beq_iff_eq.mpr hphase⟩
      | enter =>
          rw [hphase] at hi
          simp only [triggerStep] at hi
          split_ifs at hi <;> exact hi.elim
      | refused | gone => rw [hphase] at hi; exact hi.elim
      | calling | ended | sleeping | leaving | releasing => rw [hphase] at hran; exact absurd trivial hran
  · exact (h.hasRun i hi).cons

omit hex in
theorem gone_turn {i : ι} (hi : (s.turn triggerStep t).phases i = .gone) :
    Ran (jobStep s t :: history) i ∨
      ∃ e ∈ jobStep s t :: history, e.call = i ∧ e.requests = true := by
  have hcons : (Ran history i ∨ ∃ e ∈ history, e.call = i ∧ e.requests = true) →
      Ran (jobStep s t :: history) i ∨
        ∃ e ∈ jobStep s t :: history, e.call = i ∧ e.requests = true := by
    rintro (hran | ⟨e, he, hcall⟩)
    · exact Or.inl hran.cons
    · exact Or.inr ⟨e, List.mem_cons_of_mem _ he, hcall⟩
  rw [phases_turn] at hi
  split_ifs at hi with hcall
  · subst hcall
    cases hphase : s.phases t.call with
    | refused => exact Or.inr ⟨jobStep s t, List.mem_cons_self, rfl, beq_iff_eq.mpr hphase⟩
    | releasing => exact hcons (Or.inl (h.hasRun t.call (by rw [hphase]; trivial)))
    | gone => exact hcons (h.gone t.call hphase)
    | enter =>
        rw [hphase] at hi
        simp only [triggerStep] at hi
        split_ifs at hi
    | calling =>
        rw [hphase] at hi
        simp only [triggerStep] at hi
        split at hi <;> cases hi
    | ended error =>
        rw [hphase] at hi
        cases error <;> simp only [triggerStep] at hi <;> split_ifs at hi
    | top | sleeping | leaving => rw [hphase] at hi; cases hi
  · exact hcons (h.gone i hi)

end turn

/-! ### Runs -/

section runs

variable {ι : Type} [DecidableEq ι]

omit [DecidableEq ι] in
theorem exclusive_idleJob : Exclusive TriggerPhase.Inside ManagedJob.executionLock (idleJob ι) where
  unique _ _ hi := hi.elim
  locked := iff_of_false Bool.false_ne_true fun ⟨_, hi⟩ => hi

theorem exclusive_jobAfter (turns : List (Turn ι TriggerInput)) :
    Exclusive TriggerPhase.Inside ManagedJob.executionLock (jobAfter turns) :=
  disciplined_triggerStep.exclusive exclusive_idleJob turns

theorem jobInv_jobAfter (turns : List (Turn ι TriggerInput)) :
    JobInv (jobTrace turns) (jobAfter turns) := by
  induction turns with
  | nil =>
      exact
        { running := fun _ hi => hi.elim
          inRun := fun hrunning => absurd hrunning Bool.false_ne_true
          sleeping := fun _ _ hi => nomatch hi
          pending := iff_of_false Bool.false_ne_true fun ⟨_, _, he, _⟩ => absurd he List.not_mem_nil
          ready := fun _ ⟨_, he, _⟩ => absurd he List.not_mem_nil
          hasRun := fun _ hi => hi.elim
          gone := fun _ hi => nomatch hi }
  | cons t turns ih =>
      have hex := exclusive_jobAfter turns
      exact
        { running := fun _ => running_turn hex ih t
          inRun := inRun_turn ih t
          sleeping := fun _ _ => sleeping_turn hex ih t
          pending := pending_turn ih t
          ready := fun _ => ready_turn ih t
          hasRun := fun _ => hasRun_turn ih t
          gone := fun _ => gone_turn ih t }

/-- However the triggers of a job interleave, one call at most holds the execution lock; the status is the
one of the history; the job counts as running while it runs, and only while a call holds the lock; and a call
that waits for a rerun waits for the backoff of the failures so far. -/
theorem managedJob_status (turns : List (Turn ι TriggerInput)) :
    (∀ i j, ((jobAfter turns).phases i).Inside → ((jobAfter turns).phases j).Inside → i = j) ∧
      (jobAfter turns).shared.status = statusOf (jobTrace turns) ∧
      ((∃ i, ((jobAfter turns).phases i).Running) → (jobAfter turns).shared.isRunning = true) ∧
      ((jobAfter turns).shared.isRunning = true → ∃ i, ((jobAfter turns).phases i).Inside) ∧
      ∀ i seconds, (jobAfter turns).phases i = .sleeping seconds →
        seconds = failureBackoffSeconds (statusOf (jobTrace turns)).consecutiveFailures := by
  have hinv := jobInv_jobAfter turns
  have hstatus := status_jobAfter turns
  refine ⟨(exclusive_jobAfter turns).unique, hstatus, ?_, ?_, ?_⟩
  · rintro ⟨i, hi⟩
    exact hinv.running i hi
  · intro hrunning
    obtain ⟨i, hi⟩ := hinv.inRun hrunning
    exact ⟨i, hi.inside⟩
  · intro i seconds hi
    rw [← hstatus]
    exact hinv.sleeping i seconds hi

/-- Once no call holds the lock, each trigger that returned has run the job, or was followed by a run, or it
asked for a rerun after the last look at the flag.  The flag is then set exactly when there is such a one. -/
theorem managedJob_reruns (turns : List (Turn ι TriggerInput))
    (hrest : ∀ i, ¬ ((jobAfter turns).phases i).Inside) :
    ((jobAfter turns).shared.pendingRerun = true ↔ ∃ i, Lost (jobTrace turns) i) ∧
      ∀ i, (jobAfter turns).phases i = .gone →
        Ran (jobTrace turns) i ∨ Served (jobTrace turns) i ∨ Lost (jobTrace turns) i := by
  have hinv := jobInv_jobAfter turns
  have hlost : ∀ i, Waits (jobTrace turns) i → Lost (jobTrace turns) i := by
    intro i hwaits
    by_contra hnot
    obtain ⟨j, hj⟩ := hinv.ready i hwaits hnot
    refine hrest j ?_
    cases hphase : (jobAfter turns).phases j with
    | top | sleeping => trivial
    | _ => rw [hphase] at hj; exact hj.elim
  refine ⟨?_, fun i hgone => ?_⟩
  · rw [hinv.pending]
    exact exists_congr fun i => ⟨hlost i, Lost.waits⟩
  · rcases hinv.gone i hgone with hran | hasked
    · exact Or.inl hran
    · rcases asked_iff.mp hasked with hwaits | hserved
      · exact Or.inr (Or.inr (hlost i hwaits))
      · exact Or.inr (Or.inl hserved)

end runs

/-! ### A trigger that comes too late -/

/-- The first call runs the job twice: the second one asks for a rerun in time, the third one after the look at
the flag, and before the lock is released. -/
def lateTrigger : List (Turn (Fin 3) TriggerInput) :=
  ([0, 0, 1, 1, 0, 0, 0, 0, 2, 0, 2, 0, 0].map fun call => ⟨call, ⟨0, .succeeded⟩⟩).reverse

theorem managedJob_reruns_late :
    (jobAfter lateTrigger).shared.pendingRerun = true ∧
      ((jobAfter lateTrigger).shared.pendingRerun = true ↔ ∃ i, Lost (jobTrace lateTrigger) i) ∧
      ∀ i, (jobAfter lateTrigger).phases i = .gone →
        Ran (jobTrace lateTrigger) i ∨ Served (jobTrace lateTrigger) i ∨ Lost (jobTrace lateTrigger) i :=
  ⟨by decide +kernel, managedJob_reruns lateTrigger (by decide +kernel)⟩

end OandaV3
