import OandaV3.CandlePolicy
import OandaV3.Fallible

/-! # The macro context

`data/macro.py` downloads five quotes at once and keeps the last complete answer.  A call that does not force
a download gets that answer while it is younger than the refresh interval; a failed download is reported
beside it.

* `fetchStatus_eq_ok`: a download counts only if it has a close for each of the five symbols.
* `macroContext_serves`: whatever calls came before, a status holds the data of the latest complete download,
  and its flags tell how old they are and whether the call's own download failed. -/

namespace OandaV3

open Fallible

/-! ### Statuses -/

/-- `MacroIndicatorStatus`. -/
structure MacroIndicatorStatus where
  name : String
  symbol : String
  value : Option ℚ := none
  asOf : Option Instant := none
deriving DecidableEq, Repr

/-- `MACRO_SYMBOLS`, in their order. -/
def macroSymbols : List (String × String) :=
  [("VIX", "^VIX"), ("DXY", "DX-Y.NYB"), ("CL", "CL=F"), ("SPX", "^GSPC"), ("US10Y", "^TNX")]

/-- `MacroContextStatus`; the indicators are in the order of `MACRO_SYMBOLS`. -/
structure MacroContextStatus where
  lastAttemptedAt : Option Instant := none
  lastRefreshedAt : Option Instant := none
  usedCached : Bool := false
  lastError : Option String := none
  indicators : List MacroIndicatorStatus := macroSymbols.map fun (name, symbol) => { name, symbol }
deriving DecidableEq, Repr

/-! ### Downloads -/

/-- A column of a frame: its values by their time, `none` for a missing one. -/
abbrev MacroSeries := List (Instant × Option ℚ)

/-- A frame has columns of two levels, or of one. -/
inductive MacroFrame where
  | multi (columns : List ((String × String) × MacroSeries))
  | flat (columns : List (String × MacroSeries))
deriving Repr

/-- `frame.empty`. -/
def MacroFrame.isEmpty : MacroFrame → Bool
  | .multi columns => columns.all fun column => column.2.isEmpty
  | .flat columns => columns.all fun column => column.2.isEmpty

/-- `_extract_series`.  Columns of two levels hold a symbol of a field under this pair, in one order or the
other. -/
def extractSeries (field symbol : String) : MacroFrame → Option MacroSeries
  | .multi columns => (columns.lookup (field, symbol)).or (columns.lookup (symbol, field))
  | .flat columns => (columns.lookup field).or (columns.lookup symbol)

/-- The last value of a series that is not missing. -/
def lastValue (series : MacroSeries) : Option (Instant × ℚ) :=
  (series.filterMap fun (time, value) => value.map fun value => (time, value)).getLast?

/-- `_extract_indicator`. -/
def extractIndicator (frame : MacroFrame) (name symbol : String) : Except String MacroIndicatorStatus :=
  if frame.isEmpty then .error "Macro download returned no rows."
  else
    match ["Adj Close", "Close"].findSome? fun field => (extractSeries field symbol frame).bind lastValue with
    | some (asOf, value) => .ok { name, symbol, value := some value, asOf := some asOf }
    | none => .error ("Macro download did not include close data for " ++ symbol ++ ".")

/-- The status of a download, in `refresh`. -/
def fetchStatus (now : Instant) (download : Except String MacroFrame) : Except String MacroContextStatus := do
  let frame ← download
  let indicators ← macroSymbols.mapM fun (name, symbol) => extractIndicator frame name symbol
  return { lastAttemptedAt := some now, lastRefreshedAt := some now, indicators }

/-! ### The service -/

/-- `MacroContextService`. -/
structure MacroContextService where
  refreshInterval : ℤ
  lastStatus : Option MacroContextStatus := none
  lastGoodStatus : Option MacroContextStatus := none

/-- A call reads the clock, and once more when it downloads. -/
structure MacroCall where
  force : Bool
  now : Instant
  refreshedAt : Instant
  download : Except String MacroFrame

/-- `_status_from_failure`. -/
def MacroContextService.statusFromFailure (service : MacroContextService) (now : Instant) (error : String) :
    MacroContextStatus :=
  match service.lastGoodStatus with
  | some good =>
      { good with lastAttemptedAt := some now, usedCached := true, lastError := some error }
  | none => { lastAttemptedAt := some now, lastError := some error }

/-- `refresh(force=True)`. -/
def MacroContextService.refresh (service : MacroContextService) (call : MacroCall) :
    MacroContextStatus × MacroContextService :=
  match fetchStatus call.refreshedAt call.download with
  | .ok status => (status, { service with lastGoodStatus := some status, lastStatus := some status })
  | .error error =>
      let status := service.statusFromFailure call.refreshedAt error
      (status, { service with lastStatus := some status })

/-- The last complete answer is younger than the refresh interval. -/
def MacroContextService.isFresh (service : MacroContextService) (good : MacroContextStatus) (now : Instant) :
    Bool :=
  good.lastRefreshedAt.any fun refreshedAt => now - refreshedAt < service.refreshInterval

/-- The last complete answer, when it is served again. -/
def MacroContextStatus.cachedAt (good : MacroContextStatus) (now : Instant) : MacroContextStatus :=
  { good with lastAttemptedAt := some now, usedCached := true, lastError := none }

/-- `get_status`, and `refresh` with its `force`. -/
def MacroContextService.getStatus (service : MacroContextService) (call : MacroCall) :
    MacroContextStatus × MacroContextService :=
  match call.force, service.lastGoodStatus with
  | false, none => (service.lastStatus.getD {}, service)
  | false, some good =>
      if service.isFresh good call.now then
        (good.cachedAt call.now, { service with lastStatus := some (good.cachedAt call.now) })
      else service.refresh call
  | true, _ => service.refresh call

/-! ### Runs -/

def MacroContextService.downloads (service : MacroContextService) (call : MacroCall) : Bool :=
  call.force || service.lastGoodStatus.any fun good => !service.isFresh good call.now

/-- A download that was made, and what became of it. -/
structure MacroAttempt where
  now : Instant
  result : Except String MacroContextStatus

/-- The text of a failed download. -/
def MacroAttempt.error? (attempt : MacroAttempt) : Option String :=
  match attempt.result with
  | .ok _ => none
  | .error error => some error

/-- The status of a failed download before there is a complete one. -/
def MacroAttempt.failed (attempt : MacroAttempt) : MacroContextStatus :=
  { lastAttemptedAt := some attempt.now, lastError := attempt.error? }

/-- The latest complete download. -/
def latestGood (attempts : List MacroAttempt) : Option MacroContextStatus :=
  attempts.findSome? fun attempt => attempt.result.toOption

section runs

variable (refreshInterval : ℤ)

/-- The service after calls, the last one first. -/
def macroAfter : List MacroCall → MacroContextService
  | [] => { refreshInterval }
  | call :: calls => ((macroAfter calls).getStatus call).2

/-- The downloads of calls, the last one first. -/
def macroAttempts : List MacroCall → List MacroAttempt
  | [] => []
  | call :: calls =>
      if (macroAfter refreshInterval calls).downloads call then
        ⟨call.refreshedAt, fetchStatus call.refreshedAt call.download⟩ :: macroAttempts calls
      else macroAttempts calls

end runs

/-! ### Downloads -/

/-- An indicator that was found: its symbol, with a value and its time. -/
def MacroIndicatorStatus.Found (entry : String × String) (indicator : MacroIndicatorStatus) : Prop :=
  indicator.name = entry.1 ∧ indicator.symbol = entry.2 ∧ indicator.value.isSome = true ∧
    indicator.asOf.isSome = true

theorem extractIndicator_found {frame : MacroFrame} {name symbol : String} {indicator : MacroIndicatorStatus}
    (h : extractIndicator frame name symbol = .ok indicator) : indicator.Found (name, symbol) := by
  rw [extractIndicator] at h
  split_ifs at h
  split at h
  · obtain rfl := Except.ok.inj h
    exact ⟨rfl, rfl, rfl, rfl⟩
  · cases h

/-- A download counts when each symbol has a close; it is complete then, and dated now. -/
theorem fetchStatus_eq_ok {now : Instant} {download : Except String MacroFrame} {status : MacroContextStatus}
    (h : fetchStatus now download = .ok status) :
    status = { lastAttemptedAt := some now, lastRefreshedAt := some now, indicators := status.indicators } ∧
      List.Forall₂ MacroIndicatorStatus.Found macroSymbols status.indicators := by
  obtain ⟨frame, -, h⟩ := bind_eq_ok.mp h
  obtain ⟨indicators, hindicators, hstatus⟩ := bind_eq_ok.mp h
  obtain rfl := Except.ok.inj hstatus
  refine ⟨rfl, ?_⟩
  exact (mapM_eq_ok.mp hindicators).imp fun entry indicator hindicator => extractIndicator_found hindicator

/-! ### What the service remembers -/

section runs

variable {refreshInterval : ℤ} {attempts : List MacroAttempt} {service : MacroContextService}

/-- The service remembers the latest complete download; before there is one, the latest failure. -/
structure MacroInv (refreshInterval : ℤ) (attempts : List MacroAttempt) (service : MacroContextService) :
    Prop where
  interval : service.refreshInterval = refreshInterval
  good : service.lastGoodStatus = latestGood attempts
  failed : service.lastGoodStatus = none → service.lastStatus = attempts.head?.map MacroAttempt.failed
  fetched : ∀ attempt ∈ attempts, ∃ download, attempt.result = fetchStatus attempt.now download

theorem getStatus_cases (service : MacroContextService) (call : MacroCall) :
    (service.downloads call = true ∧ service.getStatus call = service.refresh call) ∨
      (service.downloads call = false ∧ service.lastGoodStatus = none ∧
        service.getStatus call = (service.lastStatus.getD {}, service)) ∨
      ∃ good, service.downloads call = false ∧ service.lastGoodStatus = some good ∧
        service.isFresh good call.now = true ∧
        service.getStatus call =
          (good.cachedAt call.now, { service with lastStatus := some (good.cachedAt call.now) }) := by
  rw [MacroContextService.getStatus, MacroContextService.downloads]
  cases hforce : call.force with
  | true => exact Or.inl ⟨rfl, rfl⟩
  | false =>
      cases hgood : service.lastGoodStatus with
      | none => exact Or.inr (Or.inl ⟨rfl, rfl, rfl⟩)
      | some good =>
          cases hfresh : service.isFresh good call.now with
          | true => exact Or.inr (Or.inr ⟨good, by simp [hfresh], rfl, hfresh, by simp [hfresh]⟩)
          | false => exact Or.inl ⟨by simp [hfresh], by simp [hfresh]⟩

theorem MacroInv.refresh (h : MacroInv refreshInterval attempts service) (call : MacroCall) :
    MacroInv refreshInterval
      (⟨call.refreshedAt, fetchStatus call.refreshedAt call.download⟩ :: attempts) (service.refresh call).2 := by
  have hfetched : ∀ attempt ∈ (⟨call.refreshedAt, fetchStatus call.refreshedAt call.download⟩ :: attempts),
      ∃ download, attempt.result = fetchStatus attempt.now download :=
    List.forall_mem_cons.mpr ⟨⟨call.download, rfl⟩, h.fetched⟩
  rw [MacroContextService.refresh]
  cases hfetch : fetchStatus call.refreshedAt call.download with
  | ok status =>
      rw [hfetch] at hfetched
      exact ⟨h.interval, rfl, fun hnone => (nomatch hnone), hfetched⟩
  | error error =>
      rw [hfetch] at hfetched
      refine ⟨h.interval, h.good, fun hnone => ?_, hfetched⟩
      change some (service.statusFromFailure call.refreshedAt error) = _
      rw [MacroContextService.statusFromFailure, show service.lastGoodStatus = none from hnone]
      rfl

theorem macroInv_macroAfter (refreshInterval : ℤ) (calls : List MacroCall) :
    MacroInv refreshInterval (macroAttempts refreshInterval calls) (macroAfter refreshInterval calls) := by
  induction calls with
  | nil => exact ⟨rfl, rfl, fun _ => rfl, fun _ hmem => absurd hmem List.not_mem_nil⟩
  | cons call calls ih =>
      rw [macroAttempts, macroAfter]
      rcases getStatus_cases (macroAfter refreshInterval calls) call with
        ⟨hdownloads, hstatus⟩ | ⟨hdownloads, -, hstatus⟩ | ⟨good, hdownloads, hgood, -, hstatus⟩
      · rw [if_pos hdownloads, hstatus]
        exact ih.refresh call
      · rw [if_neg (Bool.eq_false_iff.mp hdownloads), hstatus]
        exact ih
      · rw [if_neg (Bool.eq_false_iff.mp hdownloads), hstatus]
        refine ⟨ih.interval, ih.good, fun hnone => ?_, ih.fetched⟩
        exact absurd (hgood.symm.trans hnone) (Option.some_ne_none _)

/-! ### What a status says -/

/-- What a status holds of a download. -/
def MacroContextStatus.data (status : MacroContextStatus) : Option Instant × List MacroIndicatorStatus :=
  (status.lastRefreshedAt, status.indicators)

/-- A status accounts for the downloads so far, the one of its own call among them. -/
structure MacroContextStatus.Accounts (refreshInterval : ℤ) (attempts : List MacroAttempt) (call : MacroCall)
    (downloads : Bool) (status : MacroContextStatus) : Prop where
  data : status.data = ((latestGood attempts).getD {}).data
  complete : ∀ t, status.lastRefreshedAt = some t →
    List.Forall₂ MacroIndicatorStatus.Found macroSymbols status.indicators
  error : status.lastError =
    if downloads = true ∨ latestGood attempts = none then attempts.head?.bind MacroAttempt.error? else none
  cached : status.usedCached = true ↔
    (latestGood attempts).isSome = true ∧ (downloads = true → status.lastError.isSome = true)
  fresh : status.lastError = none → ∀ t, status.lastRefreshedAt = some t →
    if downloads = true then t = call.refreshedAt else call.now - t < refreshInterval

theorem MacroInv.of_latestGood (h : MacroInv refreshInterval attempts service) {good : MacroContextStatus}
    (hgood : latestGood attempts = some good) :
    ∃ t, good = { lastAttemptedAt := some t, lastRefreshedAt := some t, indicators := good.indicators } ∧
      List.Forall₂ MacroIndicatorStatus.Found macroSymbols good.indicators := by
  obtain ⟨attempt, hmem, hattempt⟩ := List.exists_of_findSome?_eq_some hgood
  obtain ⟨download, hfetch⟩ := h.fetched attempt hmem
  rw [hfetch] at hattempt
  cases hok : fetchStatus attempt.now download with
  | error error => rw [hok] at hattempt; cases hattempt
  | ok status =>
      rw [hok] at hattempt
      obtain rfl := Option.some.inj hattempt
      exact ⟨attempt.now, fetchStatus_eq_ok hok⟩

/-- A download that was made accounts for itself. -/
theorem MacroInv.accounts_refresh (h : MacroInv refreshInterval attempts service) (call : MacroCall) :
    (service.refresh call).1.Accounts refreshInterval
      (⟨call.refreshedAt, fetchStatus call.refreshedAt call.download⟩ :: attempts) call true := by
  rw [MacroContextService.refresh]
  cases hfetch : fetchStatus call.refreshedAt call.download with
  | ok status =>
      obtain ⟨hstatus, hfound⟩ := fetchStatus_eq_ok hfetch
      exact
        { data := rfl
          complete := fun _ _ => hfound
          error := by rw [hstatus]; rfl
          cached := by rw [hstatus]; simp
          fresh := fun _ t ht => by
            rw [hstatus] at ht
            exact (Option.some.inj ht).symm }
  | error error =>
      have hgood : latestGood (⟨call.refreshedAt, .error error⟩ :: attempts) = service.lastGoodStatus :=
        h.good.symm
      cases hlast : service.lastGoodStatus with
      | none =>
          rw [hlast] at hgood
          simp only [MacroContextService.statusFromFailure, hlast]
          exact
            { data := by rw [hgood]; rfl
              complete := fun _ ht => (nomatch ht)
              error := rfl
              cached := by simp [hgood]
              fresh := fun herror => (nomatch herror) }
      | some good =>
          rw [hlast] at hgood
          obtain ⟨-, -, hfound⟩ := h.of_latestGood (h.good.symm.trans hlast)
          simp only [MacroContextService.statusFromFailure, hlast]
          exact
            { data := by rw [hgood]; rfl
              complete := fun _ _ => hfound
              error := rfl
              cached := by simp [hgood]
              fresh := fun herror => (nomatch herror) }

/-- The status of a run's last call: a call downloads when it is forced, or when the latest complete download
is as old as the refresh interval; and its status accounts for the downloads. -/
theorem macroContext_serves (refreshInterval : ℤ) (calls : List MacroCall) (call : MacroCall) :
    ((macroAfter refreshInterval calls).downloads call = true ↔
        call.force = true ∨ ∃ good t, latestGood (macroAttempts refreshInterval calls) = some good ∧
          good.lastRefreshedAt = some t ∧ refreshInterval ≤ call.now - t) ∧
      ((macroAfter refreshInterval calls).getStatus call).1.Accounts refreshInterval
        (macroAttempts refreshInterval (call :: calls)) call
        ((macroAfter refreshInterval calls).downloads call) := by
  have h := macroInv_macroAfter refreshInterval calls
  refine ⟨?_, ?_⟩
  · rw [MacroContextService.downloads, Bool.or_eq_true, h.good]
    refine or_congr Iff.rfl ?_
    cases hgood : latestGood (macroAttempts refreshInterval calls) with
    | none => simp
    | some good =>
        obtain ⟨t, hstatus, -⟩ := h.of_latestGood hgood
        have ht : good.lastRefreshedAt = some t := by rw [hstatus]
        simp [MacroContextService.isFresh, ht, h.interval]
  · rw [macroAttempts]
    rcases getStatus_cases (macroAfter refreshInterval calls) call with
      ⟨hdownloads, hstatus⟩ | ⟨hdownloads, hnone, hstatus⟩ | ⟨good, hdownloads, hgood, hfresh, hstatus⟩
    · rw [if_pos hdownloads, hstatus, hdownloads]
      exact h.accounts_refresh call
    · have hlatest := h.good.symm.trans hnone
      rw [if_neg (Bool.eq_false_iff.mp hdownloads), hstatus, hdownloads, h.failed hnone]
      cases hattempts : (macroAttempts refreshInterval calls).head? with
      | none =>
          exact
            { data := by rw [hlatest]; rfl
              complete := fun _ ht => (nomatch ht)
              error := by rw [hattempts, if_pos (Or.inr hlatest)]; rfl
              cached := by simp [hlatest]
              fresh := fun _ _ ht => (nomatch ht) }
      | some attempt =>
          exact
            { data := by rw [hlatest]; rfl
              complete := fun _ ht => (nomatch ht)
              error := by rw [hattempts, if_pos (Or.inr hlatest)]; rfl
              cached := by simp [hlatest, MacroAttempt.failed]
              fresh := fun _ _ ht => (nomatch ht) }
    · have hlatest := h.good.symm.trans hgood
      obtain ⟨-, -, hfound⟩ := h.of_latestGood hlatest
      rw [if_neg (Bool.eq_false_iff.mp hdownloads), hstatus, hdownloads]
      exact
        { data := by rw [hlatest]; rfl
          complete := fun _ _ => hfound
          error := by simp [hlatest, MacroContextStatus.cachedAt]
          cached := by simp [hlatest, MacroContextStatus.cachedAt]
          fresh := fun _ t' ht' => by
            rw [if_neg Bool.false_ne_true]
            rw [MacroContextService.isFresh, h.interval, show good.lastRefreshedAt = some t' from ht'] at hfresh
            exact of_decide_eq_true hfresh }

end runs

end OandaV3
