import Mathlib.Data.List.Chain
import OandaV3.LatestQueues
import OandaV3.MaeMfe
import OandaV3.PriceStream

/-! # The excursion tracker

`tracking/excursion_tracker.py` stores a sample of an open trade for a tick of its instrument, when the
excursions of the trade moved far enough from the last sample it wrote.  A run is a list of ticks, each with
the trades that are open then; every insert may fail, and then the rest of the tick is skipped.

* `processTrades_spec`: what one tick can do to a tracker that follows its samples.
* `excursionTracker_tracks`: the stored summary of a trade stays within the least move of every excursion
  the trade had. -/

/-! ## Samples of values that change

A sampler logs a value of a key when none was logged before, or when it is far from the last one that was.
`Follows` ties the log to the last value of each key.

* `Follows.write`: logging such a value keeps it.
* `Near`: a value is logged, or it is not far from one of its key that is.
* `Follows.near_of_last`: a value that is not far from the last one of its key needs not be logged. -/

namespace Sampler

open Latest

variable {κ α : Type} [DecidableEq κ] {key : α → κ} {far : α → α → Prop} {written : List α}
  {last : κ → Option α}

/-- The last value of each key in the log; values of one key that follow each other are far apart. -/
structure Follows (key : α → κ) (far : α → α → Prop) (written : List α) (last : κ → Option α) :
    Prop where
  last : ∀ k, last k = (ofKey key k written).getLast?
  apart : ∀ k, (ofKey key k written).IsChain far

/-- A value is logged, or one of its key that it is not far from. -/
def Near (key : α → κ) (far : α → α → Prop) (written : List α) (a : α) : Prop :=
  ∃ b ∈ written, key b = key a ∧ (b = a ∨ ¬ far b a)

omit [DecidableEq κ] in
theorem Near.append {a : α} (h : Near key far written a) (more : List α) :
    Near key far (written ++ more) a := by
  obtain ⟨b, hb, hnear⟩ := h
  exact ⟨b, List.mem_append_left more hb, hnear⟩

namespace Follows

theorem start : Follows key far [] fun _ => none := ⟨fun _ => rfl, fun _ => List.IsChain.nil⟩

theorem write (h : Follows key far written last) {a : α} (hfar : ∀ b, last (key a) = some b → far b a)
    {last' : κ → Option α} (hself : last' (key a) = some a) (hother : ∀ k, k ≠ key a → last' k = last k) :
    Follows key far (written ++ [a]) last' := by
  constructor
  · intro k
    by_cases hk : key a = k
    · subst hk
      rw [ofKey_append_self written rfl, List.getLast?_concat, hself]
    · rw [ofKey_append_of_ne written hk, hother k (Ne.symm hk), h.last]
  · intro k
    by_cases hk : key a = k
    · subst hk
      rw [ofKey_append_self written rfl, List.isChain_append]
      refine ⟨h.apart (key a), List.IsChain.singleton a, fun b hb c hc => ?_⟩
      obtain rfl := Option.some.inj hc
      exact hfar b ((h.last (key a)).trans hb)
    · rw [ofKey_append_of_ne written hk]
      exact h.apart k

theorem near_of_last (h : Follows key far written last) {a b : α} (hb : last (key a) = some b)
    (hfar : ¬ far b a) : Near key far written a := by
  rw [h.last] at hb
  obtain ⟨hmem, hkey⟩ := List.mem_filter.mp (List.mem_of_getLast? hb)
  exact ⟨b, hmem, of_decide_eq_true hkey, Or.inr hfar⟩

end Follows

end Sampler

namespace OandaV3

open Dict Latest

/-! ### The tracker -/

/-- `DEFAULT_MAE_MFE_MIN_PIP_MOVE`. -/
def defaultMaeMfeMinPipMove : ℚ := 1 / 2

/-- The first violation of the contract of `ExcursionSample`. -/
def ExcursionSample.contractError (sample : ExcursionSample) : Option String :=
  firstViolation
    [(decide (0 < sample.bid), "bid must be greater than 0."),
     (decide (0 < sample.ask), "ask must be greater than 0."),
     (decide (0 ≤ sample.adversePips), "adverse_pips must be greater than or equal to 0."),
     (decide (0 ≤ sample.favorablePips), "favorable_pips must be greater than or equal to 0."),
     (!Text.isBlank sample.tradeId, "trade_id must be a non-empty string."),
     (decide (sample.bid ≤ sample.ask), "ask must be greater than or equal to bid.")]

/-- The sample of a trade at a tick. -/
def excursionAt (pipSize : ℚ) (trade : TradeRecord) (tick : PriceTick) : ExcursionSample where
  tradeId := trade.tradeId
  sampledAt := tick.time
  bid := tick.bid
  ask := tick.ask
  adversePips := max 0 ((if 0 < trade.units then trade.openPrice - tick.bid
    else tick.ask - trade.openPrice) / pipSize)
  favorablePips := max 0 ((if 0 < trade.units then tick.bid - trade.openPrice
    else trade.openPrice - tick.ask) / pipSize)

/-- `_build_sample`. -/
def buildSample (cfg : Config) (trade : TradeRecord) (tick : PriceTick) : Except Exn ExcursionSample := do
  let pipSize ← cfg.getPipSize trade.instrument
  if pipSize = 0 then .error (.runtimeError "float division by zero")
  else
    match (excursionAt pipSize trade tick).contractError with
    | some message => .error (.valueError message)
    | none => .ok (excursionAt pipSize trade tick)

/-- A sample that moved far enough from the last one. -/
def FarFrom (minMove : ℚ) (last sample : ExcursionSample) : Prop :=
  minMove ≤ |sample.adversePips - last.adversePips| ∨
    minMove ≤ |sample.favorablePips - last.favorablePips|

instance (minMove : ℚ) (last sample : ExcursionSample) : Decidable (FarFrom minMove last sample) :=
  inferInstanceAs (Decidable (_ ∨ _))

/-- `ExcursionTracker`, with the table its samples go to. -/
structure ExcursionTracker where
  excursionSamples : List ExcursionSample
  lastWritten : List (String × ExcursionSample) := []
deriving DecidableEq

/-- What the settings and the instrument registry give the tracker. -/
structure TrackerSettings where
  cfg : Config
  /-- `mae_mfe_min_pip_move`, where the settings have it. -/
  maeMfeMinPipMove : Option ℚ

/-- The least move between two samples. -/
def TrackerSettings.minMove (settings : TrackerSettings) : ℚ :=
  settings.maeMfeMinPipMove.getD defaultMaeMfeMinPipMove

/-- A tick, and the trades that `list_open` returns; an insert for a trade is persisted or not. -/
structure TrackerTick where
  tick : PriceTick
  openTrades : List (TradeRecord × Bool)

namespace ExcursionTracker

/-- `list_excursion_samples`. -/
def listForTrade (s : ExcursionTracker) : ExcursionRepository := fun tradeId =>
  sortOn ExcursionSample.sampledAt (s.excursionSamples.filter fun sample => decide (sample.tradeId = tradeId))

/-- `_should_write`. -/
def shouldWrite (settings : TrackerSettings) (s : ExcursionTracker) (sample : ExcursionSample) : Bool :=
  match s.lastWritten.lookup sample.tradeId with
  | none => true
  | some last => decide (FarFrom settings.minMove last sample)

def insert (s : ExcursionTracker) (sample : ExcursionSample) : ExcursionTracker where
  excursionSamples := s.excursionSamples ++ [sample]
  lastWritten := assign s.lastWritten sample.tradeId sample

/-- The loop of `process_tick`. -/
def processTrades (settings : TrackerSettings) (tick : PriceTick) (s : ExcursionTracker) :
    List (TradeRecord × Bool) → ExcursionTracker × Except Exn (List ExcursionSample)
  | [] => (s, .ok [])
  | (trade, persisted) :: trades =>
      if trade.instrument ≠ tick.instrument then processTrades settings tick s trades
      else
        match buildSample settings.cfg trade tick with
        | .error e => (s, .error e)
        | .ok sample =>
            if s.shouldWrite settings sample = false then processTrades settings tick s trades
            else if persisted = false then
              (s, .error (.persistenceWriteError "insert_excursion_sample"))
            else
              let (s', written) := processTrades settings tick (s.insert sample) trades
              (s', written.map (sample :: ·))

/-- `process_tick`. -/
def processTick (settings : TrackerSettings) (s : ExcursionTracker) (t : TrackerTick) :
    ExcursionTracker × Except Exn (List ExcursionSample) :=
  processTrades settings t.tick s t.openTrades

/-- A run; a tick whose processing raises leaves what was written. -/
def run (settings : TrackerSettings) (s : ExcursionTracker) (ticks : List TrackerTick) : ExcursionTracker :=
  ticks.foldl (fun s t => (s.processTick settings t).1) s

end ExcursionTracker

/-! ### Samples that are built -/

section built

variable {cfg : Config} {trade : TradeRecord} {tick : PriceTick} {sample : ExcursionSample}

/-- The records and the ticks see to everything but the prices. -/
theorem contractError_excursionAt (pipSize : ℚ) (trade : TradeRecord) (tick : PriceTick) :
    (excursionAt pipSize trade tick).contractError = none ↔ 0 < tick.bid := by
  have htradeId : (!Text.isBlank trade.tradeId) = true :=
    firstViolation_eq_none.mp trade.contract
      (!Text.isBlank trade.tradeId, "trade_id must be a non-empty string.") (by simp)
  rw [ExcursionSample.contractError, firstViolation_eq_none]
  constructor
  · intro h
    exact of_decide_eq_true (h _ List.mem_cons_self)
  · intro hbid
    have hask : 0 < tick.ask := hbid.trans_le tick.contract
    have hadverse : 0 ≤ (excursionAt pipSize trade tick).adversePips := le_max_left _ _
    have hfavorable : 0 ≤ (excursionAt pipSize trade tick).favorablePips := le_max_left _ _
    simp only [List.forall_mem_cons, List.not_mem_nil, IsEmpty.forall_iff, implies_true, and_true,
      decide_eq_true_eq]
    exact ⟨hbid, hask, hadverse, hfavorable, htradeId, tick.contract⟩

/-- A sample is built when the pip size is known and the bid is positive. -/
theorem buildSample_eq_ok :
    buildSample cfg trade tick = .ok sample ↔
      ∃ pipSize, cfg.getPipSize trade.instrument = .ok pipSize ∧ pipSize ≠ 0 ∧ 0 < tick.bid ∧
        sample = excursionAt pipSize trade tick := by
  rw [buildSample, Fallible.bind_eq_ok]
  refine exists_congr fun pipSize => and_congr_right fun _ => ?_
  split_ifs with hzero
  · exact iff_of_false (nomatch ·) fun h => h.1 hzero
  · rw [← contractError_excursionAt pipSize trade tick]
    cases hcontract : (excursionAt pipSize trade tick).contractError with
    | some message => exact iff_of_false (fun h => nomatch h) fun h => nomatch h.2.1
    | none => exact ⟨fun h => ⟨hzero, rfl, (Except.ok.inj h).symm⟩, fun h => congrArg Except.ok h.2.2.symm⟩

theorem buildSample_tradeId (h : buildSample cfg trade tick = .ok sample) :
    sample.tradeId = trade.tradeId := by
  obtain ⟨pipSize, -, -, -, rfl⟩ := buildSample_eq_ok.mp h
  rfl

end built

/-! ### One tick -/

abbrev ExcursionTracker.Follows (settings : TrackerSettings) (s : ExcursionTracker)
    (written : List ExcursionSample) : Prop :=
  Sampler.Follows ExcursionSample.tradeId (FarFrom settings.minMove) written
    fun tradeId => s.lastWritten.lookup tradeId

/-- A sample was written for a trade, or one it is not far from. -/
abbrev NearSample (settings : TrackerSettings) (written : List ExcursionSample) (sample : ExcursionSample) :
    Prop :=
  Sampler.Near ExcursionSample.tradeId (FarFrom settings.minMove) written sample

def TrackerTick.concerns (t : TrackerTick) (trade : TradeRecord) : Prop :=
  trade ∈ t.openTrades.map Prod.fst ∧ trade.instrument = t.tick.instrument

section tick

variable {settings : TrackerSettings} {s : ExcursionTracker} {written : List ExcursionSample}

/-- What a tick does to a tracker: it writes some of the samples it builds, and if it returns then every
trade that it concerns has a sample near its own. -/
structure Processed (settings : TrackerSettings) (t : TrackerTick) (s : ExcursionTracker)
    (written : List ExcursionSample) (out : ExcursionTracker × Except Exn (List ExcursionSample))
    (more : List ExcursionSample) : Prop where
  samples : out.1.excursionSamples = s.excursionSamples ++ more
  follows : out.1.Follows settings (written ++ more)
  built : ∀ sample ∈ more, ∃ trade, t.concerns trade ∧ buildSample settings.cfg trade t.tick = .ok sample
  near : ∀ result, out.2 = .ok result → ∀ trade, t.concerns trade →
    ∃ sample, buildSample settings.cfg trade t.tick = .ok sample ∧
      NearSample settings (written ++ more) sample

theorem Processed.skip {tick : PriceTick} {trade : TradeRecord} {persisted : Bool}
    {trades : List (TradeRecord × Bool)} {out : ExcursionTracker × Except Exn (List ExcursionSample)}
    {more : List ExcursionSample} (h : Processed settings ⟨tick, trades⟩ s written out more)
    (hnear : trade.instrument = tick.instrument → ∃ sample,
      buildSample settings.cfg trade tick = .ok sample ∧ NearSample settings written sample) :
    Processed settings ⟨tick, (trade, persisted) :: trades⟩ s written out more := by
  refine ⟨h.samples, h.follows, fun sample hsample => ?_, fun result hresult concerned hconcerned => ?_⟩
  · obtain ⟨concerned, hconcerned, hbuilt⟩ := h.built sample hsample
    exact ⟨concerned, ⟨List.mem_cons_of_mem _ hconcerned.1, hconcerned.2⟩, hbuilt⟩
  · rcases List.mem_cons.mp hconcerned.1 with rfl | hlater
    · obtain ⟨sample, hbuilt, hsample⟩ := hnear hconcerned.2
      exact ⟨sample, hbuilt, hsample.append more⟩
    · exact h.near result hresult concerned ⟨hlater, hconcerned.2⟩

theorem Processed.raise (hfollows : s.Follows settings written) (t : TrackerTick) (e : Exn) :
    Processed settings t s written (s, .error e) [] where
  samples := (List.append_nil _).symm
  follows := by
    rw [List.append_nil]
    exact hfollows
  built := fun _ h => absurd h List.not_mem_nil
  near := fun _ h => nomatch h

theorem ExcursionTracker.Follows.insert (h : s.Follows settings written) {sample : ExcursionSample}
    (hwrite : s.shouldWrite settings sample = true) :
    (s.insert sample).Follows settings (written ++ [sample]) := by
  refine Sampler.Follows.write h (fun last hlast => ?_) (lookup_assign_self _ _ sample) fun k hk =>
    lookup_assign_ne _ sample hk
  rw [ExcursionTracker.shouldWrite, hlast] at hwrite
  exact of_decide_eq_true hwrite

theorem near_of_not_shouldWrite (h : s.Follows settings written) {sample : ExcursionSample}
    (hwrite : s.shouldWrite settings sample = false) : NearSample settings written sample := by
  rw [ExcursionTracker.shouldWrite] at hwrite
  cases hlast : s.lastWritten.lookup sample.tradeId with
  | none => rw [hlast] at hwrite; cases hwrite
  | some last =>
      rw [hlast] at hwrite
      exact Sampler.Follows.near_of_last h hlast (of_decide_eq_false hwrite)

theorem Processed.write {tick : PriceTick} {trade : TradeRecord} {persisted : Bool}
    {trades : List (TradeRecord × Bool)} {out : ExcursionTracker × Except Exn (List ExcursionSample)}
    {more : List ExcursionSample} {sample : ExcursionSample}
    (h : Processed settings ⟨tick, trades⟩ (s.insert sample) (written ++ [sample]) out more)
    (hinstrument : trade.instrument = tick.instrument)
    (hbuilt : buildSample settings.cfg trade tick = .ok sample) :
    Processed settings ⟨tick, (trade, persisted) :: trades⟩ s written
      (out.1, out.2.map (sample :: ·)) (sample :: more) := by
  have hself : NearSample settings (written ++ [sample]) sample :=
    ⟨sample, List.mem_append_right _ List.mem_cons_self, rfl, Or.inl rfl⟩
  have hskip : Processed settings ⟨tick, (trade, persisted) :: trades⟩ _ _ out more :=
    h.skip fun _ => ⟨sample, hbuilt, hself⟩
  have happend : written ++ sample :: more = written ++ [sample] ++ more :=
    (List.append_cons written sample more)
  refine ⟨?_, happend ▸ hskip.follows, fun later hlater => ?_, fun result hresult => ?_⟩
  · rw [hskip.samples]
    exact (List.append_cons _ _ _).symm
  · rcases List.mem_cons.mp hlater with rfl | hmore
    · exact ⟨trade, ⟨List.mem_cons_self, hinstrument⟩, hbuilt⟩
    · exact hskip.built later hmore
  · obtain ⟨rest, hrest, -⟩ := Fallible.map_eq_ok.mp hresult
    rw [happend]
    exact hskip.near rest hrest

theorem processTrades_spec (tick : PriceTick) (trades : List (TradeRecord × Bool))
    (h : s.Follows settings written) : ∃ more,
      Processed settings ⟨tick, trades⟩ s written (s.processTrades settings tick trades) more := by
  induction trades generalizing s written with
  | nil =>
      refine ⟨[], (List.append_nil _).symm, ?_, fun _ hmem => absurd hmem List.not_mem_nil,
        fun _ _ _ hconcerned => absurd hconcerned.1 List.not_mem_nil⟩
      rw [List.append_nil]
      exact h
  | cons entry trades ih =>
      obtain ⟨trade, persisted⟩ := entry
      rw [ExcursionTracker.processTrades]
      by_cases hinstrument : trade.instrument = tick.instrument
      · rw [if_neg (not_not_intro hinstrument)]
        cases hbuilt : buildSample settings.cfg trade tick with
        | error e => exact ⟨[], Processed.raise h _ e⟩
        | ok sample =>
            dsimp only
            cases hwrite : s.shouldWrite settings sample with
            | false =>
                rw [if_pos rfl]
                obtain ⟨more, hmore⟩ := ih h
                exact ⟨more, hmore.skip fun _ => ⟨sample, hbuilt, near_of_not_shouldWrite h hwrite⟩⟩
            | true =>
                rw [if_neg (Bool.noConfusion ·)]
                cases persisted with
                | false => exact ⟨[], Processed.raise h _ _⟩
                | true =>
                    obtain ⟨more, hmore⟩ := ih (h.insert hwrite)
                    exact ⟨sample :: more, hmore.write hinstrument hbuilt⟩
      · rw [if_pos hinstrument]
        obtain ⟨more, hmore⟩ := ih h
        exact ⟨more, hmore.skip fun hsame => absurd hsame hinstrument⟩

end tick

/-! ### Runs -/

namespace ExcursionTracker

theorem run_concat (settings : TrackerSettings) (s : ExcursionTracker) (ticks : List TrackerTick)
    (t : TrackerTick) :
    s.run settings (ticks ++ [t]) = ((s.run settings ticks).processTick settings t).1 := by
  rw [run, List.foldl_append]
  rfl

/-- What a run wrote, and what it owes to the ticks that returned. -/
structure Tracks (settings : TrackerSettings) (start : ExcursionTracker) (ticks : List TrackerTick)
    (written : List ExcursionSample) : Prop where
  samples : (start.run settings ticks).excursionSamples = start.excursionSamples ++ written
  follows : (start.run settings ticks).Follows settings written
  built : ∀ sample ∈ written, ∃ t ∈ ticks, ∃ trade, t.concerns trade ∧
    buildSample settings.cfg trade t.tick = .ok sample
  near : ∀ before t after result, ticks = before ++ t :: after →
    ((start.run settings before).processTick settings t).2 = .ok result → ∀ trade, t.concerns trade →
      ∃ sample, buildSample settings.cfg trade t.tick = .ok sample ∧ NearSample settings written sample

theorem tracks_run (settings : TrackerSettings) (stored : List ExcursionSample) (ticks : List TrackerTick) :
    ∃ written, Tracks settings { excursionSamples := stored } ticks written := by
  induction ticks using List.reverseRecOn with
  | nil =>
      refine ⟨[], (List.append_nil _).symm, Sampler.Follows.start, fun _ h => absurd h List.not_mem_nil,
        fun before t after result h => ?_⟩
      exact absurd h.symm (List.append_ne_nil_of_right_ne_nil before (List.cons_ne_nil t after))
  | append_singleton ticks last ih =>
      obtain ⟨written, h⟩ := ih
      obtain ⟨more, hmore⟩ := processTrades_spec last.tick last.openTrades h.follows
      refine ⟨written ++ more, ?_, ?_, fun sample hsample => ?_, ?_⟩
      · rw [run_concat, ← List.append_assoc, ← h.samples]
        exact hmore.samples
      · rw [run_concat]
        exact hmore.follows
      · rcases List.mem_append.mp hsample with hearlier | hnew
        · obtain ⟨t, ht, hbuilt⟩ := h.built sample hearlier
          exact ⟨t, List.mem_append_left _ ht, hbuilt⟩
        · exact ⟨last, List.mem_append_right _ List.mem_cons_self, hmore.built sample hnew⟩
      · intro before t after result hsplit hresult trade htrade
        rcases List.eq_nil_or_concat' after with rfl | ⟨after', t', rfl⟩
        · -- the tick is the last one
          obtain ⟨rfl, hlast⟩ := List.append_inj' hsplit rfl
          obtain rfl := List.head_eq_of_cons_eq hlast
          exact hmore.near result hresult trade htrade
        · rw [← List.cons_append, ← List.append_assoc] at hsplit
          obtain ⟨hticks, -⟩ := List.append_inj' hsplit rfl
          obtain ⟨sample, hbuilt, hnear⟩ := h.near before t after' result hticks hresult trade htrade
          exact ⟨sample, hbuilt, hnear.append more⟩

end ExcursionTracker

/-- A value is at most another one, or less than the least move above it. -/
def Within (minMove value bound : ℚ) : Prop := value ≤ bound ∨ value < bound + minMove

theorem within_of_le_of_lt {minMove a b bound : ℚ} (hb : b ≤ bound) (hfar : ¬ minMove ≤ |a - b|) :
    Within minMove a bound := by
  have hdiff : a - b < minMove := (le_abs_self (a - b)).trans_lt (not_le.mp hfar)
  exact Or.inr (by linarith)

/-- The stored summary of a trade covers all of its samples, and reports two of them. -/
theorem storedSummaryForTrade_spec {repository : ExcursionRepository} {tradeId : String}
    {sample : ExcursionSample} (h : sample ∈ repository tradeId) :
    ∃ summary, storedSummaryForTrade repository tradeId = some summary ∧
      (∀ other ∈ repository tradeId, other.adversePips ≤ summary.maePips ∧
        other.favorablePips ≤ summary.mfePips) ∧
      (∃ worst ∈ repository tradeId, worst.adversePips = summary.maePips) ∧
      ∃ best ∈ repository tradeId, best.favorablePips = summary.mfePips := by
  have hne : repository tradeId ≠ [] := List.ne_nil_of_mem h
  obtain ⟨worst, hworst⟩ := Option.ne_none_iff_exists'.mp
    (mt (List.argmax_eq_none (f := ExcursionSample.adversePips)).mp hne)
  obtain ⟨best, hbest⟩ := Option.ne_none_iff_exists'.mp
    (mt (List.argmax_eq_none (f := ExcursionSample.favorablePips)).mp hne)
  rw [storedSummaryForTrade, hworst, hbest]
  exact ⟨_, rfl, fun other hother => ⟨List.le_of_mem_argmax hother hworst,
    List.le_of_mem_argmax hother hbest⟩, ⟨worst, List.argmax_mem hworst, rfl⟩,
    ⟨best, List.argmax_mem hbest, rfl⟩⟩

/-- **The stored excursions of a trade are right up to the least move.**  However ticks, failed inserts
and changes of the open trades follow each other: only samples of the ticks are added; those of a trade that
follow each other are the least move apart; and once the processing of a tick returned, the stored summary of
every trade it concerns misses its excursions by less than the least move, if at all, from then on, and is
never more than those of two of its samples. -/
theorem excursionTracker_tracks (settings : TrackerSettings) (stored : List ExcursionSample)
    (ticks : List TrackerTick) :
    let start : ExcursionTracker := { excursionSamples := stored }
    let s := start.run settings ticks
    ∃ written, s.excursionSamples = stored ++ written ∧
      (∀ tradeId, (ofKey ExcursionSample.tradeId tradeId written).IsChain (FarFrom settings.minMove)) ∧
      (∀ sample ∈ written, ∃ t ∈ ticks, ∃ trade, t.concerns trade ∧
        buildSample settings.cfg trade t.tick = .ok sample) ∧
      ∀ before t after result, ticks = before ++ t :: after →
        ((start.run settings before).processTick settings t).2 = .ok result →
        ∀ trade, t.concerns trade → ∃ sample summary,
          buildSample settings.cfg trade t.tick = .ok sample ∧
          storedSummaryForTrade s.listForTrade trade.tradeId = some summary ∧
          Within settings.minMove sample.adversePips summary.maePips ∧
          Within settings.minMove sample.favorablePips summary.mfePips ∧
          (∃ worst ∈ s.listForTrade trade.tradeId, worst.adversePips = summary.maePips) ∧
          ∃ best ∈ s.listForTrade trade.tradeId, best.favorablePips = summary.mfePips := by
  intro start s
  obtain ⟨written, h⟩ := ExcursionTracker.tracks_run settings stored ticks
  refine ⟨written, h.samples, h.follows.apart, h.built, ?_⟩
  intro before t after result hsplit hresult trade htrade
  obtain ⟨sample, hbuilt, last, hlast, hkey, hnear⟩ := h.near before t after result hsplit hresult trade htrade
  have hmem : last ∈ s.listForTrade trade.tradeId := by
    have hall : last ∈ s.excursionSamples := h.samples ▸ List.mem_append_right stored hlast
    exact mem_sortOn.mpr (List.mem_filter.mpr ⟨hall,
      decide_eq_true (hkey.trans (buildSample_tradeId hbuilt))⟩)
  obtain ⟨summary, hsummary, hcovers, hworst, hbest⟩ := storedSummaryForTrade_spec hmem
  obtain ⟨hadverse, hfavorable⟩ := hcovers last hmem
  have hwithin : Within settings.minMove sample.adversePips summary.maePips ∧
      Within settings.minMove sample.favorablePips summary.mfePips := by
    rcases hnear with rfl | hfar
    · exact ⟨Or.inl hadverse, Or.inl hfavorable⟩
    · rw [FarFrom, not_or] at hfar
      exact ⟨within_of_le_of_lt hadverse hfar.1, within_of_le_of_lt hfavorable hfar.2⟩
  exact ⟨sample, summary, hbuilt, hsummary, hwithin.1, hwithin.2, hworst, hbest⟩

/-- Ten units of gold, bought at 3000. -/
def heldGold : TradeRecord where
  tradeId := "5"
  instrument := "XAU_USD"
  units := 10
  openPrice := 3000
  closePrice := none
  slPrice := none
  tpPrice := none
  gsloPrice := none
  state := .OPEN
  closeReason := none
  pips := none
  instrumentPnl := none
  instrumentPnlCurrency := none
  accountPnl := none
  accountCurrency := none
  openedAt := 0
  closedAt := none
  notes := none
  contract := by decide +kernel

/-- A tick of gold while they are held. -/
def heldTick (price : ℚ) (time : Instant) : TrackerTick := ⟨goldTick price time, [(heldGold, true)]⟩

/-- A second tick that moves too little to be stored is within the least move of the summary. -/
theorem excursionTracker_tracks_gold :
    let settings : TrackerSettings := ⟨sampleConfig, none⟩
    let second := heldTick (2999 + 1 / 100000) 2
    let s := ExcursionTracker.run settings { excursionSamples := [] } [heldTick 2999 1, second]
    s.excursionSamples.length = 1 ∧ ∃ sample summary,
      buildSample sampleConfig heldGold second.tick = .ok sample ∧
        storedSummaryForTrade s.listForTrade "5" = some summary ∧
        Within (1 / 2) sample.adversePips summary.maePips ∧
        Within (1 / 2) sample.favorablePips summary.mfePips := by
  intro settings second s
  obtain ⟨_, -, -, -, hnear⟩ := excursionTracker_tracks settings [] [heldTick 2999 1, second]
  have hreturns : ((ExcursionTracker.run settings { excursionSamples := [] }
      [heldTick 2999 1]).processTick settings second).2 = .ok [] := by decide +kernel
  obtain ⟨sample, summary, hbuilt, hsummary, hadverse, hfavorable, -, -⟩ :=
    hnear [heldTick 2999 1] second [] [] rfl hreturns heldGold ⟨List.mem_cons_self, rfl⟩
  exact ⟨by decide +kernel, sample, summary, hbuilt, hsummary, hadverse, hfavorable⟩

end OandaV3
