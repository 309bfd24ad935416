import OandaV3.Fallible
import OandaV3.MarketState

/-! # Candle freshness

`CandleFreshness` says what the provider knows of the newest closed candle it holds, and
`_build_snapshot_freshness` compares it with the frame a snapshot is built from.

`buildSnapshotFreshness_noRuntimeError`: when the two agree, neither `RuntimeError` is raised. -/

namespace OandaV3

open Fallible

/-! ### Instants as text -/

/-- A number in decimal, filled up with zeros. -/
def zeroPadded (width : ℕ) (n : ℤ) : String :=
  let digits := toString n.toNat
  "".pushn '0' (width - digits.length) ++ digits

/-- `isoformat` of an instant in UTC. -/
def isoformat (t : ℤ) : String :=
  let day := t / (24 * hour)
  let marchMonth := Calendar.monthIndex day
  -- the years of `monthIndex` begin in March
  let month := (marchMonth + 2) % 12 + 1
  let year := (marchMonth + 2) / 12
  let time := t % (24 * hour)
  let micros := time % second
  zeroPadded 4 year ++ "-" ++ zeroPadded 2 month ++ "-" ++
    zeroPadded 2 (day - Calendar.monthStart day + 1) ++ "T" ++ zeroPadded 2 (time / hour) ++ ":" ++
    zeroPadded 2 (time % hour / minute) ++ ":" ++ zeroPadded 2 (time % minute / second) ++
    (if micros = 0 then "" else "." ++ zeroPadded 6 micros) ++ "+00:00"

example : isoformat 0 = "1970-01-01T00:00:00+00:00" := by decide +kernel

/-! ### Freshness of a frame -/

/-- The exception is a `RuntimeError`. -/
def Exn.isRuntimeError : Exn → Bool
  | .runtimeError _ | .persistenceWriteError _ => true
  | _ => false

/-- What `iloc` raises on an empty frame. -/
def outOfBounds : Exn := .indexError "single positional indexer is out-of-bounds"

/-- `CandleFreshness`; the staleness is in microseconds. -/
structure CandleFreshness where
  instrument : String
  timeframe : String
  lastCompletedCandle : Option ℤ
  fetchedAt : Option ℤ
  source : Option String
  candleCount : ℤ
  isFresh : Bool
  staleness : Option ℤ
deriving DecidableEq, Repr

/-- The provenance of a candle frame that ends at `latest` is known. -/
structure CandleFreshness.Describes (f : CandleFreshness) (latest : ℤ) : Prop where
  lastCompletedCandle : f.lastCompletedCandle = some latest
  fetchedAt : f.fetchedAt.isSome
  source : f.source.isSome
  candleCount : 0 < f.candleCount

/-- `_build_snapshot_freshness`, with what `get_candle_freshness` answers. -/
def buildSnapshotFreshness (instrument timeframe : String) (candles : List Candle)
    (answer : Except Exn CandleFreshness) : Except Exn SnapshotFreshness := do
  let freshness ← answer
  let latestCandle ← match candles.getLast? with
    | some candle => .ok candle.time
    | none => .error outOfBounds
  match freshness.lastCompletedCandle, freshness.fetchedAt, freshness.source,
      decide (0 < freshness.candleCount) with
  | some lastCompletedCandle, some fetchedAt, some source, true =>
      if lastCompletedCandle ≠ latestCandle then
        .error (.runtimeError ("Freshness boundary mismatch for " ++ instrument ++ " " ++ timeframe ++
          ": " ++ isoformat lastCompletedCandle ++ " != " ++ isoformat latestCandle ++ "."))
      else
        let fields : SnapshotFreshness := {
          instrument, timeframe
          lastCompletedCandle := some lastCompletedCandle
          fetchedAt := some fetchedAt
          source := some source
          candleCount := freshness.candleCount.toNat
          isFresh := freshness.isFresh
          staleness := freshness.staleness }
        fields.validateContract
        return fields
  | _, _, _, _ =>
      .error (.runtimeError ("Freshness metadata missing for " ++ instrument ++ " " ++ timeframe ++
        "; snapshot publication cannot infer provenance."))

/-- A computation raises no `RuntimeError`. -/
abbrev NoRuntimeError {α : Type} (result : Except Exn α) : Prop :=
  RaisesOnly (fun e => e.isRuntimeError = false) result

theorem noRuntimeError_require (check : Bool) (message : String) :
    NoRuntimeError (require check message) := by
  cases check with
  | true => exact .ok ()
  | false => exact .error rfl

theorem noRuntimeError_getInstrumentSpec (instrument : String) :
    NoRuntimeError (getInstrumentSpec instrument) := by
  unfold getInstrumentSpec
  split
  · exact .ok _
  · exact .error rfl

theorem noRuntimeError_getTimeframeDelta (timeframe : String) :
    NoRuntimeError (getTimeframeDelta timeframe) := by
  unfold getTimeframeDelta
  split
  · exact .ok _
  · exact .error rfl

theorem SnapshotFreshness.noRuntimeError (f : SnapshotFreshness) :
    NoRuntimeError f.validateContract := by
  unfold validateContract
  refine (noRuntimeError_require _ _).bind fun _ _ => ?_
  refine (noRuntimeError_getInstrumentSpec _).bind fun _ _ => ?_
  refine (noRuntimeError_getTimeframeDelta _).bind fun _ _ => ?_
  refine (noRuntimeError_require _ _).bind fun _ _ => ?_
  split
  · exact (noRuntimeError_require _ _).bind fun _ _ => noRuntimeError_require _ _
  · exact noRuntimeError_require _ _

/-- **Known provenance is not refused**: a frame that its freshness describes raises no
`RuntimeError`. -/
theorem buildSnapshotFreshness_noRuntimeError (instrument timeframe : String) {candles : List Candle}
    {latest : Candle} {f : CandleFreshness} (hlatest : candles.getLast? = some latest)
    (hf : f.Describes latest.time) :
    NoRuntimeError (buildSnapshotFreshness instrument timeframe candles (.ok f)) := by
  obtain ⟨fetchedAt, hfetched⟩ := Option.isSome_iff_exists.mp hf.fetchedAt
  obtain ⟨source, hsource⟩ := Option.isSome_iff_exists.mp hf.source
  simp only [buildSnapshotFreshness, hlatest, hf.lastCompletedCandle, hfetched, hsource,
    decide_eq_true hf.candleCount, ne_eq, not_true_eq_false, if_false, bind, Except.bind]
  exact (SnapshotFreshness.noRuntimeError _).bind fun _ _ => .ok _

end OandaV3
