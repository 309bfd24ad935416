import OandaV3.CandleProvider
import OandaV3.Dict

/-! # Direct candle reads

`providers/account_client.py` reads candles by a count, without a cache: `get_candles` reads mid prices, and
`get_bid_ask_candles` puts the bids and asks of two requests together.  One more candle than the count is
requested, at most 5000, to pay for a forming one; unlike the cache, the client does not cut the answer
down to the count.

`directReads_newest_iff`: a direct read returns the newest closed candles of the count exactly when the
request brings as many, and `get_candles` only if each of them is over by its duration as well. -/

namespace OandaV3

open Fallible Windows

/-! ### Payloads -/

/-- The four prices of a quote. -/
structure Quote where
  openPrice : ℚ
  high : ℚ
  low : ℚ
  close : ℚ
deriving DecidableEq, Repr

/-- One price component of a raw candle; an invalid one raises when it is converted to numbers. -/
inductive RawQuote where
  | missing
  | invalid (e : Exn)
  | prices (quote : Quote)
deriving DecidableEq, Repr

/-- A candle of a payload, with the components that were asked for. -/
structure RawQuotedCandle where
  time : ℤ
  complete : Bool
  volume : Except Exn ℤ
  mid : RawQuote
  bid : RawQuote
  ask : RawQuote

/-- What `price` asks for: `M`, `B`, `A` or `BA`. -/
inductive PriceComponent where
  | M | B | A | BA
deriving DecidableEq, Repr

/-- A service that answers requests by a count. -/
abbrev CountApi := ℕ → PriceComponent → Except Exn (List RawQuotedCandle)

/-- `_request_candles_payload`. -/
def requestCandlesPayload (api : CountApi) (count : ℕ) (price : PriceComponent) :
    Except Exn (List RawQuotedCandle) :=
  api (min (count + 1) oandaMaxCandleCount) price

/-- The mid prices of a raw candle, with its volume. -/
def RawQuotedCandle.toRaw (raw : RawQuotedCandle) : RawCandle where
  time := raw.time
  complete := raw.complete
  mid := match raw.mid, raw.volume with
    | .missing, _ => .missing
    | .prices quote, .ok volume =>
        .prices quote.openPrice quote.high quote.low quote.close volume
    | _, _ => .invalid

/-! ### Mid candles -/

/-- What a request over the cap raises. -/
def excessiveCount : Exn := .valueError "count must be less than or equal to 5000."

/-- `get_candles`. -/
def accountGetCandles (instrument : String) (tf : Timeframe) (nowUtc : ℤ) (api : CountApi) (count : ℤ) :
    Except Exn (List Candle) :=
  if count ≤ 0 then .error CandleCache.invalidCount
  else if (oandaMaxCandleCount : ℤ) < count then .error excessiveCount
  else
    match requestCandlesPayload api count.toNat .M with
    | .error e => .error e
    | .ok [] => .error (candleResponseError instrument tf "contained no candles.")
    | .ok rawCandles =>
        match canonicalRows instrument tf (rawCandles.map RawQuotedCandle.toRaw) with
        | .error e => .error e
        | .ok [] => .error (candleResponseError instrument tf "contained no complete candles.")
        | .ok rows =>
            match trimToClosed tf nowUtc (validateCandleDf rows) with
            | [] => .error (candleResponseError instrument tf
                "yielded no closed candles after trimming.")
            | trimmed => .ok trimmed

/-! ### Bid and ask candles -/

/-- A row of `_extract_export_rows`. -/
structure ExportRow where
  quote : Quote
  tickVolume : ℤ
deriving DecidableEq, Repr

/-- The loop of `_extract_export_rows`. -/
def exportRows (price : RawQuotedCandle → RawQuote) :
    List RawQuotedCandle → List (ℤ × ExportRow) → Except Exn (List (ℤ × ExportRow))
  | [], rows => .ok rows
  | candle :: candles, rows =>
      if !candle.complete then exportRows price candles rows
      else match price candle with
        | .missing => exportRows price candles rows
        | .invalid e => .error e
        | .prices quote => do
            let volume ← candle.volume
            exportRows price candles (Dict.assign rows candle.time ⟨quote, volume⟩)

/-- `_extract_export_rows`. -/
def extractExportRows (instrument : String) (tf : Timeframe) (priceKey : String)
    (price : RawQuotedCandle → RawQuote) (payload : List RawQuotedCandle) :
    Except Exn (List (ℤ × ExportRow)) :=
  match payload with
  | [] => .error (candleResponseError instrument tf "contained no candles.")
  | rawCandles =>
      match exportRows price rawCandles [] with
      | .error e => .error e
      | .ok [] => .error (candleResponseError instrument tf
          ("contained no complete " ++ priceKey ++ " candles."))
      | .ok rows => .ok rows

structure BidAskCandle where
  time : ℤ
  bid : Quote
  ask : Quote
  tickVolume : ℤ
deriving DecidableEq, Repr

/-- The rows with a bid and an ask, in the order of their times. -/
def mergedRows (bidRows askRows : List (ℤ × ExportRow)) : List BidAskCandle :=
  let times := (bidRows.map Prod.fst).filter fun time => (askRows.lookup time).isSome
  (sortOn id times).filterMap fun time => do
    let bidRow ← bidRows.lookup time
    let askRow ← askRows.lookup time
    return ⟨time, bidRow.quote, askRow.quote, bidRow.tickVolume⟩

/-- `_merge_bid_ask_candles`. -/
def mergeBidAskCandles (instrument : String) (tf : Timeframe)
    (bidPayload askPayload : List RawQuotedCandle) : Except Exn (List BidAskCandle) := do
  let bidRows ← extractExportRows instrument tf "bid" RawQuotedCandle.bid bidPayload
  let askRows ← extractExportRows instrument tf "ask" RawQuotedCandle.ask askPayload
  match mergedRows bidRows askRows with
  | [] => .error (candleResponseError instrument tf "contained no complete bid/ask candles.")
  | merged => .ok (sortOn BidAskCandle.time merged)

/-- `get_bid_ask_candles`. -/
def accountGetBidAskCandles (instrument : String) (tf : Timeframe) (api : CountApi) (count : ℤ) :
    Except Exn (List BidAskCandle) :=
  if count ≤ 0 then .error CandleCache.invalidCount
  else if (oandaMaxCandleCount : ℤ) < count then .error excessiveCount
  else do
    let bidPayload ← requestCandlesPayload api count.toNat .B
    let askPayload ← requestCandlesPayload api count.toNat .A
    mergeBidAskCandles instrument tf bidPayload askPayload

/-! ### The history -/

/-- A candle of the broker with all its prices. -/
structure QuotedCandle where
  time : ℤ
  mid : Quote
  bid : Quote
  ask : Quote
  tickVolume : ℤ
deriving DecidableEq, Repr

namespace QuotedCandle

/-- A candle as it is sent. -/
def toRaw (candle : QuotedCandle) (price : PriceComponent) (complete : Bool) : RawQuotedCandle where
  time := candle.time
  complete
  volume := .ok candle.tickVolume
  mid := if price = .M then .prices candle.mid else .missing
  bid := if price = .B ∨ price = .BA then .prices candle.bid else .missing
  ask := if price = .A ∨ price = .BA then .prices candle.ask else .missing

/-- The row of a candle frame. -/
def midCandle (candle : QuotedCandle) : Candle where
  time := candle.time
  openPrice := candle.mid.openPrice
  high := candle.mid.high
  low := candle.mid.low
  close := candle.mid.close
  tickVolume := candle.tickVolume

@[simp] theorem midCandle_time (candle : QuotedCandle) : candle.midCandle.time = candle.time := rfl

def bidAskCandle (candle : QuotedCandle) : BidAskCandle where
  time := candle.time
  bid := candle.bid
  ask := candle.ask
  tickVolume := candle.tickVolume

end QuotedCandle

/-- Closed candles, oldest first, and the forming one. -/
structure QuotedHistory where
  closed : List QuotedCandle
  forming : Option QuotedCandle
  increasing : Increasing QuotedCandle.time (closed ++ forming.toList)

namespace QuotedHistory

variable (history : QuotedHistory)

/-- A request by a count is answered with the newest candles, the forming one included. -/
def answer : CountApi := fun count price =>
  .ok (newest count (history.closed.map (·.toRaw price true) ++
    history.forming.toList.map (·.toRaw price false)))

/-- The request for a count brings as many closed candles, or all: there are some, a forming one leaves
room for them under the cap, and without one there is none too many. -/
def CountFits (count : ℕ) : Prop :=
  history.closed ≠ [] ∧
    if history.forming.isSome then
      count < oandaMaxCandleCount ∨ history.closed.length < oandaMaxCandleCount
    else history.closed.length ≤ count ∨ count = oandaMaxCandleCount

instance (count : ℕ) : Decidable (history.CountFits count) :=
  inferInstanceAs (Decidable (_ ∧ _))

/-- How many closed candles a request for a count brings at most. -/
def served (count : ℕ) : ℕ := min (count + 1) oandaMaxCandleCount - history.forming.toList.length

theorem countFits_iff {count : ℕ} (hmax : count ≤ oandaMaxCandleCount) :
    history.CountFits count ↔ history.closed ≠ [] ∧
      min (history.served count) history.closed.length = min count history.closed.length := by
  unfold CountFits served
  refine and_congr_right fun _ => ?_
  cases history.forming with
  | none =>
      simp only [Option.isSome_none, Bool.false_eq_true, if_false, Option.toList_none, List.length_nil]
      rw [oandaMaxCandleCount] at hmax ⊢
      omega
  | some candle =>
      simp only [Option.isSome_some, if_true, Option.toList_some, List.length_singleton]
      rw [oandaMaxCandleCount] at hmax ⊢
      omega

theorem increasing_closed : Increasing QuotedCandle.time history.closed :=
  history.increasing.sublist (List.sublist_append_left _ _)

theorem increasing_newest (n : ℕ) : Increasing QuotedCandle.time (newest n history.closed) :=
  history.increasing_closed.sublist (newest_suffix n _).sublist

theorem request_answer (count : ℕ) (price : PriceComponent) :
    requestCandlesPayload history.answer count price =
      .ok ((newest (history.served count) history.closed).map (·.toRaw price true) ++
        history.forming.toList.map (·.toRaw price false)) := by
  have hroom : (history.forming.toList.map (·.toRaw price false)).length ≤
      min (count + 1) oandaMaxCandleCount := by
    rw [List.length_map, oandaMaxCandleCount]
    cases history.forming <;> simp
  rw [requestCandlesPayload, answer, newest_append hroom, List.length_map, newest_map, served]

end QuotedHistory

/-! ### Reads of mid candles -/

section mid

variable (instrument : String) (tf : Timeframe) (nowUtc : ℤ)

theorem canonicalRows_answer (closed forming : List QuotedCandle) :
    canonicalRows instrument tf ((closed.map (·.toRaw .M true) ++
      forming.map (·.toRaw .M false)).map RawQuotedCandle.toRaw) =
        .ok (closed.map QuotedCandle.midCandle) := by
  induction closed with
  | nil =>
      induction forming with
      | nil => rfl
      | cons candle forming ih => exact ih
  | cons candle closed ih =>
      rw [List.map_cons, List.cons_append, List.map_cons, canonicalRows, ih]
      rfl

theorem QuotedHistory.served_pos (history : QuotedHistory) {count : ℕ} (hpos : 0 < count) :
    0 < history.served count := by
  unfold served
  rw [oandaMaxCandleCount]
  cases history.forming with
  | none =>
      rw [Option.toList_none, List.length_nil]
      omega
  | some candle =>
      rw [Option.toList_some, List.length_singleton]
      omega

theorem QuotedHistory.newest_served_ne_nil (history : QuotedHistory) {count : ℕ} (hpos : 0 < count)
    (hclosed : history.closed ≠ []) : newest (history.served count) history.closed ≠ [] :=
  mt (newest_eq_nil_iff (history.served_pos hpos)).mp hclosed

theorem accountGetCandles_answer (history : QuotedHistory) {count : ℤ} (hpos : 0 < count)
    (hmax : count ≤ oandaMaxCandleCount) (hclosed : history.closed ≠ []) :
    accountGetCandles instrument tf nowUtc history.answer count =
      match ((newest (history.served count.toNat) history.closed).map
          QuotedCandle.midCandle).filter fun candle => decide (candle.time + tf.delta ≤ nowUtc) with
      | [] => .error (candleResponseError instrument tf "yielded no closed candles after trimming.")
      | trimmed => .ok trimmed := by
  have hrows : newest (history.served count.toNat) history.closed ≠ [] :=
    history.newest_served_ne_nil (by omega) hclosed
  have htrim : Increasing Candle.time
      ((newest (history.served count.toNat) history.closed).map QuotedCandle.midCandle) :=
    List.pairwise_map.mpr (history.increasing_newest _)
  rw [accountGetCandles, if_neg (not_le.mpr hpos), if_neg (not_lt.mpr hmax), history.request_answer]
  have hcanonical := canonicalRows_answer instrument tf
    (newest (history.served count.toNat) history.closed) history.forming.toList
  rw [← trimToClosed_increasing htrim]
  cases hnewest : newest (history.served count.toNat) history.closed with
  | nil => exact absurd hnewest hrows
  | cons candle candles =>
      rw [hnewest] at hcanonical
      simp only [List.map_cons, List.cons_append] at hcanonical ⊢
      rw [hcanonical]

/-- `get_candles` returns the newest closed candles exactly when the request brings as many, and each
of them is over by its duration. -/
theorem accountGetCandles_newest_iff (history : QuotedHistory) {count : ℤ} (hpos : 0 < count)
    (hmax : count ≤ oandaMaxCandleCount) :
    accountGetCandles instrument tf nowUtc history.answer count =
        .ok ((newest count.toNat history.closed).map QuotedCandle.midCandle) ↔
      history.CountFits count.toNat ∧
        ∀ candle ∈ newest count.toNat history.closed, candle.time + tf.delta ≤ nowUtc := by
  by_cases hclosed : history.closed = []
  · refine iff_of_false (fun h => ?_) (fun h => h.1.1 hclosed)
    have hnone : newest (history.served count.toNat) history.closed = [] := by
      rw [hclosed, newest, List.drop_nil]
    rw [accountGetCandles, if_neg (not_le.mpr hpos), if_neg (not_lt.mpr hmax), history.request_answer,
      hnone] at h
    cases hforming : history.forming <;> rw [hforming] at h <;> cases h
  · have hincreasing : Increasing Candle.time (history.closed.map QuotedCandle.midCandle) := by
      rw [Increasing, List.pairwise_map]
      exact history.increasing_closed
    have hearlier : (history.closed.map QuotedCandle.midCandle).Pairwise fun a b =>
        decide (b.time + tf.delta ≤ nowUtc) = true → decide (a.time + tf.delta ≤ nowUtc) = true := by
      refine hincreasing.imp fun {a b} hlt hover => ?_
      rw [decide_eq_true_eq] at hover ⊢
      omega
    have hwindow := filter_newest_eq_iff (m := history.served count.toNat) hearlier
      (show 0 < count.toNat by omega)
    simp only [newest_map, List.forall_mem_map, decide_eq_true_eq, List.length_map,
      QuotedCandle.midCandle_time] at hwindow
    have hsome : (newest count.toNat history.closed).map QuotedCandle.midCandle ≠ [] := by
      rw [Ne, List.map_eq_nil_iff, newest_eq_nil_iff (by omega)]
      exact hclosed
    rw [accountGetCandles_answer instrument tf nowUtc history hpos hmax hclosed,
      history.countFits_iff (by omega), and_iff_right hclosed, and_comm, ← hwindow]
    split
    · next hempty =>
        rw [hempty]
        simpa using hsome.symm
    · rw [Except.ok.injEq]

end mid

/-! ### Reads of bids and asks -/

section bidAsk

variable {instrument : String} {tf : Timeframe}

/-- The rows of increasing closed candles. -/
def quoteRows (pick : QuotedCandle → Quote) (closed : List QuotedCandle) : List (ℤ × ExportRow) :=
  closed.map fun candle => (candle.time, ⟨pick candle, candle.tickVolume⟩)

theorem exportRows_answer {price : RawQuotedCandle → RawQuote} {pick : QuotedCandle → Quote}
    {component : PriceComponent}
    (hprice : ∀ candle complete, price (QuotedCandle.toRaw candle component complete) =
      .prices (pick candle))
    (closed forming : List QuotedCandle) (hincreasing : Increasing QuotedCandle.time closed)
    (rows : List (ℤ × ExportRow)) (hrows : ∀ kv ∈ rows, ∀ candle ∈ closed, kv.1 < candle.time) :
    exportRows price (closed.map (·.toRaw component true) ++ forming.map (·.toRaw component false)) rows =
      .ok (rows ++ quoteRows pick closed) := by
  induction closed generalizing rows with
  | nil =>
      rw [quoteRows, List.map_nil, List.map_nil, List.nil_append, List.append_nil]
      induction forming with
      | nil => rfl
      | cons candle forming ih => exact ih
  | cons candle closed ih =>
      rw [Increasing, List.pairwise_cons] at hincreasing
      have hfresh := Dict.assign_fresh (⟨pick candle, candle.tickVolume⟩ : ExportRow)
        fun kv hkv => (hrows kv hkv candle List.mem_cons_self).ne
      have hrest := ih hincreasing.2 (rows ++ [(candle.time, ⟨pick candle, candle.tickVolume⟩)]) ?_
      · rw [List.map_cons, List.cons_append, exportRows, hprice]
        exact (congrArg _ hfresh).trans (hrest.trans (by rw [quoteRows, quoteRows, List.map_cons,
          List.append_assoc, List.singleton_append]))
      · intro kv hkv later hlater
        rcases List.mem_append.mp hkv with hold | hnew
        · exact hrows kv hold later (List.mem_cons_of_mem _ hlater)
        · rw [List.mem_singleton.mp hnew]
          exact hincreasing.1 later hlater

theorem lookup_quoteRows (pick : QuotedCandle → Quote) {closed : List QuotedCandle}
    (hincreasing : Increasing QuotedCandle.time closed) {candle : QuotedCandle} (h : candle ∈ closed) :
    (quoteRows pick closed).lookup candle.time = some ⟨pick candle, candle.tickVolume⟩ := by
  induction closed with
  | nil => cases h
  | cons first closed ih =>
      rw [Increasing, List.pairwise_cons] at hincreasing
      rw [quoteRows, List.map_cons]
      rcases List.mem_cons.mp h with rfl | hlater
      · exact List.lookup_cons_self
      · rw [List.lookup_cons, beq_false_of_ne (hincreasing.1 candle hlater).ne']
        exact ih hincreasing.2 hlater

theorem mergedRows_quoteRows {closed : List QuotedCandle}
    (hincreasing : Increasing QuotedCandle.time closed) :
    mergedRows (quoteRows QuotedCandle.bid closed) (quoteRows QuotedCandle.ask closed) =
      closed.map QuotedCandle.bidAskCandle := by
  have htimes : (quoteRows QuotedCandle.bid closed).map Prod.fst = closed.map QuotedCandle.time := by
    rw [quoteRows, List.map_map]
    rfl
  have hboth : (closed.map QuotedCandle.time).filter
      (fun time => ((quoteRows QuotedCandle.ask closed).lookup time).isSome) =
        closed.map QuotedCandle.time := by
    rw [List.filter_eq_self]
    simp only [List.forall_mem_map]
    intro candle hcandle
    rw [lookup_quoteRows QuotedCandle.ask hincreasing hcandle, Option.isSome_some]
  have hsorted : sortOn id (closed.map QuotedCandle.time) = closed.map QuotedCandle.time :=
    sortOn_eq_self (List.pairwise_map.mpr hincreasing)
  rw [mergedRows, htimes]
  simp only [hboth, hsorted, List.filterMap_map]
  rw [← List.filterMap_eq_map]
  refine List.filterMap_congr fun candle hcandle => ?_
  simp only [Function.comp_apply, lookup_quoteRows QuotedCandle.bid hincreasing hcandle,
    lookup_quoteRows QuotedCandle.ask hincreasing hcandle]
  rfl

theorem extractExportRows_answer (priceKey : String) (price : RawQuotedCandle → RawQuote)
    (pick : QuotedCandle → Quote) (component : PriceComponent) (forming : List QuotedCandle)
    (hprice : ∀ candle complete, price (QuotedCandle.toRaw candle component complete) =
      .prices (pick candle))
    {closed : List QuotedCandle} (hincreasing : Increasing QuotedCandle.time closed)
    (hclosed : closed ≠ []) :
    extractExportRows instrument tf priceKey price
        (closed.map (·.toRaw component true) ++ forming.map (·.toRaw component false)) =
      .ok (quoteRows pick closed) := by
  have hrows := exportRows_answer hprice closed forming hincreasing [] fun kv hkv => by cases hkv
  rw [List.nil_append] at hrows
  cases closed with
  | nil => exact absurd rfl hclosed
  | cons candle closed =>
      rw [List.map_cons, List.cons_append] at hrows ⊢
      simp only [extractExportRows, hrows, quoteRows, List.map_cons]

/-- `_merge_bid_ask_candles` on two answers about the same candles. -/
theorem mergeBidAskCandles_answer {closed forming : List QuotedCandle}
    (hincreasing : Increasing QuotedCandle.time closed) (hclosed : closed ≠ []) :
    mergeBidAskCandles instrument tf
        (closed.map (·.toRaw .B true) ++ forming.map (·.toRaw .B false))
        (closed.map (·.toRaw .A true) ++ forming.map (·.toRaw .A false)) =
      .ok (closed.map QuotedCandle.bidAskCandle) := by
  have hbid : extractExportRows instrument tf "bid" RawQuotedCandle.bid _ = _ :=
    extractExportRows_answer "bid" _ QuotedCandle.bid .B forming (fun _ _ => rfl) hincreasing hclosed
  have hask : extractExportRows instrument tf "ask" RawQuotedCandle.ask _ = _ :=
    extractExportRows_answer "ask" _ QuotedCandle.ask .A forming (fun _ _ => rfl) hincreasing hclosed
  have hsorted : sortOn BidAskCandle.time (closed.map QuotedCandle.bidAskCandle) =
      closed.map QuotedCandle.bidAskCandle :=
    sortOn_eq_self (List.pairwise_map.mpr hincreasing)
  rw [mergeBidAskCandles, hbid, hask]
  simp only [bind, Except.bind, mergedRows_quoteRows hincreasing]
  cases closed with
  | nil => exact absurd rfl hclosed
  | cons candle closed =>
      rw [List.map_cons] at hsorted ⊢
      simp only [hsorted]

/-- `get_bid_ask_candles` returns the newest closed candles exactly when the request brings as
many. -/
theorem accountGetBidAskCandles_newest_iff (history : QuotedHistory) {count : ℤ} (hpos : 0 < count)
    (hmax : count ≤ oandaMaxCandleCount) :
    accountGetBidAskCandles instrument tf history.answer count =
        .ok ((newest count.toNat history.closed).map QuotedCandle.bidAskCandle) ↔
      history.CountFits count.toNat := by
  rw [accountGetBidAskCandles, if_neg (not_le.mpr hpos), if_neg (not_lt.mpr hmax),
    history.request_answer, history.request_answer, history.countFits_iff (by omega)]
  simp only [bind, Except.bind]
  by_cases hclosed : history.closed = []
  · refine iff_of_false (fun h => ?_) (fun h => h.1 hclosed)
    have hnone : newest (history.served count.toNat) history.closed = [] := by
      rw [hclosed, newest, List.drop_nil]
    rw [hnone] at h
    cases hforming : history.forming <;> rw [hforming] at h <;> cases h
  · have hserved := history.newest_served_ne_nil (show 0 < count.toNat by omega) hclosed
    rw [mergeBidAskCandles_answer (history.increasing_newest _) hserved, and_iff_right hclosed,
      Except.ok.injEq, ← newest_map, ← newest_map, newest_eq_newest_iff, List.length_map]

end bidAsk

/-- **When direct reads honour the count.**  `get_bid_ask_candles` returns the newest closed candles, as many as
the count asks for or all, exactly when the request brings as many; `get_candles` exactly when each of
them is over by its duration as well. -/
theorem directReads_newest_iff (instrument : String) (tf : Timeframe) (nowUtc : ℤ)
    (history : QuotedHistory) (count : ℤ) (hpos : 0 < count) (hmax : count ≤ oandaMaxCandleCount) :
    ((newest count.toNat history.closed).length = min count.toNat history.closed.length ∧
      Increasing QuotedCandle.time (newest count.toNat history.closed)) ∧
    (accountGetCandles instrument tf nowUtc history.answer count =
        .ok ((newest count.toNat history.closed).map QuotedCandle.midCandle) ↔
      history.CountFits count.toNat ∧
        ∀ candle ∈ newest count.toNat history.closed, candle.time + tf.delta ≤ nowUtc) ∧
    (accountGetBidAskCandles instrument tf history.answer count =
        .ok ((newest count.toNat history.closed).map QuotedCandle.bidAskCandle) ↔
      history.CountFits count.toNat) :=
  ⟨⟨length_newest _ _, history.increasing_newest _⟩,
    accountGetCandles_newest_iff instrument tf nowUtc history hpos hmax,
    accountGetBidAskCandles_newest_iff history hpos hmax⟩

/-- A minute with a spread of two. -/
def quotedMinute (n : ℕ) : QuotedCandle where
  time := n * minute
  mid := ⟨10, 10, 10, 10⟩
  bid := ⟨9, 9, 9, 9⟩
  ask := ⟨11, 11, 11, 11⟩
  tickVolume := n

def twoMinutes : QuotedHistory where
  closed := [quotedMinute 0, quotedMinute 1]
  forming := none
  increasing := by decide

/-- Two closed minutes, and a third one forming. -/
def formingMinute : QuotedHistory where
  closed := [quotedMinute 0, quotedMinute 1]
  forming := some (quotedMinute 2)
  increasing := by decide

/-- With no minute forming, a read of one candle returns two. -/
theorem directReads_closedMarket :
    accountGetCandles "EUR_USD" .M1 (2 * minute) twoMinutes.answer 1 =
        .ok [(quotedMinute 0).midCandle, (quotedMinute 1).midCandle] ∧
      accountGetCandles "EUR_USD" .M1 (2 * minute) twoMinutes.answer 1 ≠
        .ok ((newest 1 twoMinutes.closed).map QuotedCandle.midCandle) ∧
      accountGetBidAskCandles "EUR_USD" .M1 twoMinutes.answer 1 ≠
        .ok ((newest 1 twoMinutes.closed).map QuotedCandle.bidAskCandle) := by
  decide +kernel

/-- The forming minute takes the place of the extra one. -/
theorem directReads_newest_forming :
    accountGetCandles "EUR_USD" .M1 (2 * minute) formingMinute.answer 1 =
        .ok ((newest 1 formingMinute.closed).map QuotedCandle.midCandle) ∧
      accountGetBidAskCandles "EUR_USD" .M1 formingMinute.answer 1 =
        .ok ((newest 1 formingMinute.closed).map QuotedCandle.bidAskCandle) :=
  have hreads := (directReads_newest_iff "EUR_USD" .M1 (2 * minute) formingMinute 1 (by decide)
    (by decide)).2
  ⟨hreads.1.mpr (by decide +kernel), hreads.2.mpr (by decide +kernel)⟩

end OandaV3
