import OandaV3.AccountCandles

/-! # Bid and ask candles of a time window

`get_bid_ask_candles_range` in `providers/account_client.py` reads a window in chunks: a cursor moves from the
start to the end by `max_count_per_request` durations, every chunk is requested on its own, and what the
requests bring is put together, with repeated candles dropped and sorted by time.

`getBidAskCandlesRange_eq`: when every request brings the candles whose span meets its chunk, the result is
the candles whose span meets the window, for every size of the chunks. -/

namespace OandaV3

open Fallible Windows

/-! ### One request -/

/-- The rows of the complete candles with a bid and an ask. -/
def bidAskRows : List RawQuotedCandle → Except Exn (List BidAskCandle)
  | [] => .ok []
  | candle :: candles =>
      if !candle.complete then bidAskRows candles
      else match candle.bid, candle.ask with
        | .missing, _ => bidAskRows candles
        | _, .missing => bidAskRows candles
        | .invalid e, _ => .error e
        | _, .invalid e => .error e
        | .prices bid, .prices ask => do
            let volume ← candle.volume
            let rows ← bidAskRows candles
            return ⟨candle.time, bid, ask, volume⟩ :: rows

/-- `_normalize_bid_ask_candle_payload`. -/
def normalizeBidAskCandlePayload (instrument : String) (tf : Timeframe) (allowEmpty : Bool)
    (payload : List RawQuotedCandle) : Except Exn (List BidAskCandle) :=
  match payload with
  | [] =>
      if allowEmpty then .ok []
      else .error (candleResponseError instrument tf "contained no candles.")
  | rawCandles =>
      match bidAskRows rawCandles with
      | .error e => .error e
      | .ok [] =>
          if allowEmpty then .ok []
          else .error (candleResponseError instrument tf "contained no complete bid/ask candles.")
      | .ok rows => .ok (sortOn BidAskCandle.time rows)

/-! ### The chunks -/

/-- A service that answers requests for the candles from an instant to another one. -/
abbrev RangeApi := ℤ → ℤ → Except Exn (List RawQuotedCandle)

/-- The loop of `get_bid_ask_candles_range`: the frames with a row, one for each chunk. -/
def rangeFrames (instrument : String) (tf : Timeframe) (api : RangeApi) (chunkSpan : ℤ)
    (hspan : 0 < chunkSpan) (windowEnd cursor : ℤ) : Except Exn (List (List BidAskCandle)) :=
  if cursor < windowEnd then do
    let next := min windowEnd (cursor + chunkSpan)
    let payload ← api cursor next
    let frame ← normalizeBidAskCandlePayload instrument tf true payload
    let frames ← rangeFrames instrument tf api chunkSpan hspan windowEnd next
    return if frame.isEmpty then frames else frame :: frames
  else .ok []
termination_by (windowEnd - cursor).toNat

/-- What a chunk size outside of 1 to 5000 raises. -/
def invalidChunkCount : Exn := .valueError "max_count_per_request must be between 1 and 5000."

/-- `get_bid_ask_candles_range`. -/
def getBidAskCandlesRange (instrument : String) (tf : Timeframe) (api : RangeApi)
    (startUtc endUtc maxCountPerRequest : ℤ) : Except Exn (List BidAskCandle) :=
  if h : maxCountPerRequest ≤ 0 ∨ oandaMaxCandleCount < maxCountPerRequest then .error invalidChunkCount
  else if endUtc ≤ startUtc then .ok []
  else do
    let frames ← rangeFrames instrument tf api (tf.delta * maxCountPerRequest)
      (Int.mul_pos tf.delta_pos (by omega)) endUtc startUtc
    return sortOn BidAskCandle.time (firstByKey BidAskCandle.time frames.flatten)

/-! ### The history -/

/-- The complete candles, and the instant each of them is over by. -/
structure BidAskHistory where
  candles : List BidAskCandle
  closeTime : ℤ → ℤ
  lt_closeTime : ∀ candle ∈ candles, candle.time < closeTime candle.time
  increasing : Increasing BidAskCandle.time candles

namespace BidAskHistory

variable (history : BidAskHistory)

/-- The span of a candle meets the instants from one up to another. -/
def Meets (fromUtc toUtc : ℤ) (candle : BidAskCandle) : Prop :=
  candle.time < toUtc ∧ fromUtc < history.closeTime candle.time

instance (fromUtc toUtc : ℤ) (candle : BidAskCandle) : Decidable (history.Meets fromUtc toUtc candle) :=
  inferInstanceAs (Decidable (_ ∧ _))

/-- The candles whose span meets a window. -/
def window (fromUtc toUtc : ℤ) : List BidAskCandle :=
  history.candles.filter fun candle => decide (history.Meets fromUtc toUtc candle)

/-- Every request is answered with the complete candles whose span meets it; forming ones may be sent as
well. -/
def Serves (api : RangeApi) : Prop :=
  ∀ fromUtc toUtc, fromUtc < toUtc → ∃ payload, api fromUtc toUtc = .ok payload ∧
    payload.filter RawQuotedCandle.complete = (history.window fromUtc toUtc).map fun candle =>
      { time := candle.time, complete := true, volume := .ok candle.tickVolume, mid := .missing,
        bid := .prices candle.bid, ask := .prices candle.ask }

theorem increasing_window (fromUtc toUtc : ℤ) :
    Increasing BidAskCandle.time (history.window fromUtc toUtc) :=
  history.increasing.sublist List.filter_sublist

theorem mem_window {fromUtc toUtc : ℤ} {candle : BidAskCandle} :
    candle ∈ history.window fromUtc toUtc ↔
      candle ∈ history.candles ∧ history.Meets fromUtc toUtc candle := by
  rw [window, List.mem_filter, decide_eq_true_eq]

/-- A span meets a window exactly when it meets one of its two parts. -/
theorem mem_window_split {fromUtc cut toUtc : ℤ} (hfrom : fromUtc ≤ cut) (hto : cut ≤ toUtc)
    {candle : BidAskCandle} : candle ∈ history.window fromUtc toUtc ↔
      candle ∈ history.window fromUtc cut ∨ candle ∈ history.window cut toUtc := by
  rw [mem_window, mem_window, mem_window, ← and_or_left]
  refine and_congr_right fun hcandle => ?_
  have hspan := history.lt_closeTime candle hcandle
  unfold Meets
  omega

end BidAskHistory

/-! ### The whole window -/

section range

variable (instrument : String) (tf : Timeframe) {api : RangeApi} {history : BidAskHistory}

/-- Only the complete candles count. -/
theorem bidAskRows_complete (payload : List RawQuotedCandle) :
    bidAskRows payload = bidAskRows (payload.filter RawQuotedCandle.complete) := by
  induction payload with
  | nil => rfl
  | cons candle candles ih =>
      cases hcomplete : candle.complete with
      | false => rw [List.filter_cons_of_neg (by rw [hcomplete]; exact Bool.false_ne_true), ← ih,
          bidAskRows, hcomplete, Bool.not_false, if_pos rfl]
      | true => rw [List.filter_cons_of_pos hcomplete, bidAskRows, bidAskRows, ih]

theorem BidAskHistory.Serves.request (hserves : history.Serves api) {fromUtc toUtc : ℤ}
    (h : fromUtc < toUtc) : ∃ payload, api fromUtc toUtc = .ok payload ∧
      normalizeBidAskCandlePayload instrument tf true payload = .ok (history.window fromUtc toUtc) := by
  obtain ⟨payload, hanswer, hcomplete⟩ := hserves fromUtc toUtc h
  refine ⟨payload, hanswer, ?_⟩
  have hsorted := sortOn_eq_self (history.increasing_window fromUtc toUtc)
  have hrows : bidAskRows payload = .ok (history.window fromUtc toUtc) := by
    rw [bidAskRows_complete, hcomplete]
    generalize history.window fromUtc toUtc = rows
    induction rows with
    | nil => rfl
    | cons row rows ih =>
        rw [List.map_cons, bidAskRows, ih]
        rfl
  cases payload with
  | nil =>
      rw [bidAskRows, Except.ok.injEq] at hrows
      rw [← hrows]
      rfl
  | cons candle candles =>
      simp only [normalizeBidAskCandlePayload, hrows, if_true]
      cases hwindow : history.window fromUtc toUtc with
      | nil => rfl
      | cons row rows =>
          rw [hwindow] at hsorted
          simp only [hsorted]

theorem rangeFrames_step {chunkSpan : ℤ} (hspan : 0 < chunkSpan) {windowEnd cursor : ℤ}
    (h : cursor < windowEnd) {payload : List RawQuotedCandle} {frame : List BidAskCandle}
    {frames : List (List BidAskCandle)}
    (hanswer : api cursor (min windowEnd (cursor + chunkSpan)) = .ok payload)
    (hframe : normalizeBidAskCandlePayload instrument tf true payload = .ok frame)
    (hframes : rangeFrames instrument tf api chunkSpan hspan windowEnd
      (min windowEnd (cursor + chunkSpan)) = .ok frames) :
    rangeFrames instrument tf api chunkSpan hspan windowEnd cursor =
      .ok (if frame.isEmpty then frames else frame :: frames) := by
  rw [rangeFrames, if_pos h]
  simp only [bind, Except.bind, hanswer, hframe, hframes]
  rfl

/-- The frames of the chunks hold the candles of the rest of the window. -/
theorem rangeFrames_ok (hserves : history.Serves api) {chunkSpan : ℤ} (hspan : 0 < chunkSpan)
    (windowEnd cursor : ℤ) :
    ∃ frames, rangeFrames instrument tf api chunkSpan hspan windowEnd cursor = .ok frames ∧
      ∀ candle, candle ∈ frames.flatten ↔
        cursor < windowEnd ∧ candle ∈ history.window cursor windowEnd := by
  induction cursor using rangeFrames.induct chunkSpan hspan windowEnd with
  | case1 cursor h next ih =>
      obtain ⟨frames, hframes, hrest⟩ := ih
      have hle : next ≤ windowEnd := min_le_left windowEnd (cursor + chunkSpan)
      have hnext : cursor < next := by omega
      obtain ⟨payload, hanswer, hframe⟩ := hserves.request instrument tf hnext
      refine ⟨_, rangeFrames_step instrument tf hspan h hanswer hframe hframes, fun candle => ?_⟩
      clear_value next
      have hall : candle ∈ (if (history.window cursor next).isEmpty then frames
          else history.window cursor next :: frames).flatten ↔
            candle ∈ history.window cursor next ∨ candle ∈ frames.flatten := by
        cases hwindow : history.window cursor next with
        | nil => simp
        | cons row rows => simp [or_assoc]
      rw [hall, hrest, and_iff_right h]
      -- the last chunk ends with the window
      rcases hle.eq_or_lt with rfl | hmore
      · simp
      · rw [and_iff_right hmore]
        exact (history.mem_window_split hnext.le hle).symm
  | case2 cursor h =>
      refine ⟨[], ?_, fun candle => ?_⟩
      · rw [rangeFrames, if_neg h]
      · simp [h]

theorem getBidAskCandlesRange_eq (hserves : history.Serves api) {startUtc endUtc : ℤ}
    (hwindow : startUtc < endUtc) {maxCountPerRequest : ℤ} (hmin : 1 ≤ maxCountPerRequest)
    (hmax : maxCountPerRequest ≤ oandaMaxCandleCount) :
    getBidAskCandlesRange instrument tf api startUtc endUtc maxCountPerRequest =
      .ok (history.window startUtc endUtc) := by
  have hspan : 0 < tf.delta * maxCountPerRequest := Int.mul_pos tf.delta_pos (by omega)
  obtain ⟨frames, hframes, hmem⟩ :=
    rangeFrames_ok instrument tf hserves hspan endUtc startUtc
  rw [getBidAskCandlesRange, dif_neg (by omega), if_neg (by omega), hframes]
  simp only [bind, Except.bind]
  refine congrArg Except.ok (sortOn_firstByKey (history.increasing_window _ _) fun candle => ?_)
  rw [hmem, and_iff_right hwindow]

end range

/-- **The chunks do not show.**  For every window and any two sizes of the chunks the results are the same,
strictly increasing in time, and hold every complete candle whose span meets the window exactly once, and
nothing else. -/
theorem getBidAskCandlesRange_chunks (instrument : String) (tf : Timeframe) (api : RangeApi)
    (history : BidAskHistory) (hserves : history.Serves api) (startUtc endUtc : ℤ)
    (hwindow : startUtc < endUtc) (maxCount maxCount' : ℤ)
    (hcount : 1 ≤ maxCount ∧ maxCount ≤ oandaMaxCandleCount)
    (hcount' : 1 ≤ maxCount' ∧ maxCount' ≤ oandaMaxCandleCount) :
    ∃ rows, getBidAskCandlesRange instrument tf api startUtc endUtc maxCount = .ok rows ∧
      getBidAskCandlesRange instrument tf api startUtc endUtc maxCount' = .ok rows ∧
      Increasing BidAskCandle.time rows ∧ (∀ row ∈ rows, row ∈ history.candles) ∧
      ∀ candle ∈ history.candles, history.Meets startUtc endUtc candle → rows.count candle = 1 := by
  refine ⟨history.window startUtc endUtc, getBidAskCandlesRange_eq _ _ hserves hwindow hcount.1 hcount.2,
    getBidAskCandlesRange_eq _ _ hserves hwindow hcount'.1 hcount'.2, history.increasing_window _ _,
    fun row hrow => (history.mem_window.mp hrow).1, fun candle hcandle hmeets => ?_⟩
  have hnodup : (history.window startUtc endUtc).Nodup :=
    (history.increasing_window _ _).imp fun hlt heq => hlt.ne (congrArg BidAskCandle.time heq)
  exact List.count_eq_one_of_mem hnodup (history.mem_window.mpr ⟨hcandle, hmeets⟩)

/-- A service that sends just the candles of a history. -/
def BidAskHistory.answer (history : BidAskHistory) : RangeApi := fun fromUtc toUtc =>
  .ok ((history.window fromUtc toUtc).map fun candle =>
    { time := candle.time, complete := true, volume := .ok candle.tickVolume, mid := .missing,
      bid := .prices candle.bid, ask := .prices candle.ask })

theorem BidAskHistory.serves_answer (history : BidAskHistory) : history.Serves history.answer := by
  intro fromUtc toUtc _
  refine ⟨_, rfl, List.filter_eq_self.mpr ?_⟩
  simp only [List.forall_mem_map]
  exact fun _ _ => trivial

/-- The bids and asks of three minutes. -/
def threeQuotes : BidAskHistory where
  candles := [quotedMinute 0, quotedMinute 1, quotedMinute 2].map QuotedCandle.bidAskCandle
  closeTime time := time + minute
  lt_closeTime candle _ := by
    simp only [minute, second]
    omega
  increasing := by decide

/-- Half a minute into three minutes, in chunks of one and of two minutes. -/
theorem getBidAskCandlesRange_chunks_minutes :
    ∃ rows, getBidAskCandlesRange "EUR_USD" .M1 threeQuotes.answer (30 * second) (3 * minute) 1 =
        .ok rows ∧
      getBidAskCandlesRange "EUR_USD" .M1 threeQuotes.answer (30 * second) (3 * minute) 2 = .ok rows ∧
      rows.count (quotedMinute 0).bidAskCandle = 1 := by
  obtain ⟨rows, hone, htwo, -, -, hall⟩ := getBidAskCandlesRange_chunks "EUR_USD" .M1 threeQuotes.answer
    threeQuotes threeQuotes.serves_answer (30 * second) (3 * minute) (by decide) 1 2 (by decide) (by decide)
  exact ⟨rows, hone, htwo, hall _ (by decide) (by decide)⟩

end OandaV3
