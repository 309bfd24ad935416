import OandaV3.PollerMirror

/-! # Protective orders

`_normalize_trade` of `providers/account_client.py`, and what a cycle of the poller leaves of the stop
loss, the take profit and the guaranteed stop of a trade.

A new record takes all three prices of the broker (`openedFields`).  The record of a known trade is
compared with the broker in two of them only, and `TradeModifiedEvent` carries these two.
`pollOnceSync_orders`: a record shows the three prices of the broker exactly when the trade was not
open in the journal before, or had the guaranteed stop of the broker already. -/

namespace OandaV3

open Fallible

open Interaction Program

/-! ### The broker's list -/

/-- The nested order of a trade. -/
structure OrderPayload where
  price : Option ℚ := none
deriving DecidableEq, Repr

/-- One entry of the broker's open-trades list, before `_normalize_trade`. -/
structure RawTrade where
  id : Option String := none
  instrument : Option String := none
  currentUnits : Option ℚ := none
  price : Option ℚ := none
  openTime : Option Instant := none
  stopLossOrder : Option OrderPayload := none
  takeProfitOrder : Option OrderPayload := none
  guaranteedStopLossOrder : Option OrderPayload := none
deriving DecidableEq, Repr

/-- `_extract_nested_price`. -/
def extractNestedPrice (payload : Option OrderPayload) : Option ℚ := payload.bind OrderPayload.price

/-- `_normalize_trade`. -/
def normalizeTrade (cfg : Config) (trade : RawTrade) : Except Exn OpenTrade := do
  let instrument ← trade.instrument.mapM cfg.validateLiveInstrument
  return {
    id := trade.id
    instrument
    currentUnits := trade.currentUnits
    price := trade.price
    stopLossPrice := extractNestedPrice trade.stopLossOrder
    takeProfitPrice := extractNestedPrice trade.takeProfitOrder
    gsloPrice := extractNestedPrice trade.guaranteedStopLossOrder
    openTime := trade.openTime }

/-- `_normalize_open_trades_payload`. -/
def normalizeOpenTradesPayload (cfg : Config) (trades : List RawTrade) :
    Except Exn (List OpenTrade) := trades.mapM (normalizeTrade cfg)

/-- The payload of a trade id: the last entry of the list with it. -/
def payloadOf (trades : List RawTrade) (tradeId : String) : Option RawTrade :=
  DocTable.last RawTrade.id (some tradeId) trades

section

variable {cfg : Config} {w w' : World} {trades : List RawTrade} {tradeId : String}

theorem normalizeTrade_ok {trade : RawTrade} {normalized : OpenTrade}
    (h : normalizeTrade cfg trade = .ok normalized) :
    trade.id = normalized.id ∧
      normalized.stopLossPrice = extractNestedPrice trade.stopLossOrder ∧
      normalized.takeProfitPrice = extractNestedPrice trade.takeProfitOrder ∧
      normalized.gsloPrice = extractNestedPrice trade.guaranteedStopLossOrder := by
  obtain ⟨instrument, -, h⟩ := bind_eq_ok.mp h
  obtain rfl := Except.ok.inj h
  exact ⟨rfl, rfl, rfl, rfl⟩

theorem entry_of_payload {current : List OpenTrade} {entries : List (String × OpenTrade)}
    {payload : RawTrade} (hcurrent : normalizeOpenTradesPayload cfg trades = .ok current)
    (hentries : currentById current = .ok entries) (hpayload : payloadOf trades tradeId = some payload) :
    ∃ normalized, (tradeId, normalized) ∈ entries ∧ normalizeTrade cfg payload = .ok normalized := by
  obtain ⟨pairs, rfl, hkeyed⟩ := currentById_keyed hentries
  have hnormal : List.Forall₂ (fun trade normalized => normalizeTrade cfg trade = .ok normalized)
      trades current := mapM_eq_ok.mp hcurrent
  have hlast : Option.Rel (fun trade normalized => normalizeTrade cfg trade = .ok normalized)
      (payloadOf trades tradeId) (DocTable.last OpenTrade.id (some tradeId) current) :=
    DocTable.last_rel (fun _ _ h => by rw [(normalizeTrade_ok h).1]) hnormal
  have hlast' : Option.Rel (fun (item : OpenTrade) (pair : String × OpenTrade) =>
      item.id = some pair.1 ∧ pair.2 = item) (DocTable.last OpenTrade.id (some tradeId) current)
      (DocTable.last Prod.fst tradeId pairs) :=
    DocTable.last_rel (fun _ _ h => by rw [h.1, Option.some.injEq]) hkeyed
  rw [hpayload] at hlast
  generalize DocTable.last OpenTrade.id (some tradeId) current = item at hlast hlast'
  cases hlast with
  | some hnormalized =>
      rename_i normalized
      cases hpair : DocTable.last Prod.fst tradeId pairs with
      | none => rw [hpair] at hlast'; cases hlast'
      | some pair =>
          rw [hpair] at hlast'
          cases hlast' with
          | some hrel =>
              obtain ⟨-, rfl⟩ := hrel
              refine ⟨pair.2, ?_, hnormalized⟩
              have hget : DocTable.get Prod.fst tradeId (DocTable.putAll Prod.fst pairs []) =
                  some pair := by
                rw [DocTable.get_putAll, hpair, Option.some_or]
              obtain ⟨hmem, rfl⟩ := DocTable.get_some hget
              exact hmem

/-- The record of a trade shows the three prices of the payload. -/
def ShowsOrders (store : TradeStore) (tradeId : String) (payload : RawTrade) : Prop :=
  ∃ record, store.getTrade tradeId = some record ∧ record.state = .OPEN ∧
    record.slPrice = extractNestedPrice payload.stopLossOrder ∧
    record.tpPrice = extractNestedPrice payload.takeProfitOrder ∧
    record.gsloPrice = extractNestedPrice payload.guaranteedStopLossOrder

end

/-- **A moved guaranteed stop is not followed.**  After a cycle the record of a listed trade shows the
broker's prices exactly when the trade was new to the journal, or its record had the broker's
guaranteed stop already. -/
theorem pollOnceSync_orders (cfg : Config) (w w' : World) (trades : List RawTrade)
    (report : PollReport)
    (htrades : normalizeOpenTradesPayload cfg trades = .ok w.broker.openTrades)
    (h : (pollOnceSync cfg).eval World.answer w = (.ok report, w')) :
    (∀ tradeId payload, payloadOf trades tradeId = some payload →
      ShowsOrders w'.store tradeId payload) ↔
    ∀ tradeId payload, payloadOf trades tradeId = some payload →
      ∀ record, w.store.getTrade tradeId = some record → record.state = .OPEN →
        record.gsloPrice = extractNestedPrice payload.guaranteedStopLossOrder := by
  obtain ⟨entries, hentries, hmirrored, -⟩ := pollOnceSync_loops h
  refine forall₃_congr fun tradeId payload hpayload => ?_
  obtain ⟨normalized, hentry, hnormalized⟩ := entry_of_payload htrades hentries hpayload
  obtain ⟨-, hsl, htp, hgslo⟩ := normalizeTrade_ok hnormalized
  obtain ⟨stored, hget, hopen, hstoredSl, hstoredTp, hstoredGslo⟩ := hmirrored _ hentry
  have hshows : ShowsOrders w'.store tradeId payload ↔
      guaranteedStop w.store.listOpenTrades (tradeId, normalized) =
        extractNestedPrice payload.guaranteedStopLossOrder := by
    constructor
    · rintro ⟨record, hrecord, -, -, -, hrecordGslo⟩
      obtain rfl := Option.some.inj (hget.symm.trans hrecord)
      exact hstoredGslo.symm.trans hrecordGslo
    · intro hsame
      exact ⟨stored, hget, hopen, hstoredSl.trans hsl, hstoredTp.trans htp, hstoredGslo.trans hsame⟩
  rw [hshows, guaranteedStop]
  cases hfind : w.store.listOpenTrades.find? (fun trade => trade.tradeId == tradeId) with
  | none =>
      refine iff_of_true hgslo fun record hrecord hstate => ?_
      have hfound := TradeStore.find_listOpenTrades.mpr ⟨hrecord, hstate⟩
      rw [hfind] at hfound
      cases hfound
  | some existing =>
      obtain ⟨hexisting, hstate⟩ := TradeStore.find_listOpenTrades.mp hfind
      constructor
      · intro hsame record hrecord _
        obtain rfl := Option.some.inj (hexisting.symm.trans hrecord)
        exact hsame
      · intro hall
        exact hall existing hexisting hstate

def guardedTrade (stop : ℚ) : RawTrade where
  id := some "5"
  instrument := some "EUR_USD"
  currentUnits := some 100
  price := some (11 / 10)
  openTime := some 0
  guaranteedStopLossOrder := some { price := some stop }

/-- The broker lists the trade with this guaranteed stop. -/
def World.listing (w : World) (stop : ℚ) : World :=
  { w with broker := { w.broker with
    openTrades := (normalizeOpenTradesPayload sampleConfig [guardedTrade stop]).toOption.getD [] } }

/-- The journal has seen the trade with its first guaranteed stop. -/
def guardedWorld : World :=
  ((pollOnceSync sampleConfig).eval World.answer ((sampleWorld noFills).listing 1)).2

/-- The guaranteed stop of the trade moves from 1 to 2, and the record keeps 1. -/
theorem pollOnceSync_misses_guaranteedStop : ∃ report w',
    (pollOnceSync sampleConfig).eval World.answer (guardedWorld.listing 2) = (.ok report, w') ∧
      payloadOf [guardedTrade 2] "5" = some (guardedTrade 2) ∧
      ¬ ShowsOrders w'.store "5" (guardedTrade 2) := by
  have hreturns : ((pollOnceSync sampleConfig).eval World.answer (guardedWorld.listing 2)).1 =
      .ok ⟨[], []⟩ := by decide +kernel
  have hkept : (((pollOnceSync sampleConfig).eval World.answer
      (guardedWorld.listing 2)).2.store.getTrade "5").map (fun record => record.gsloPrice) =
        some (some 1) := by decide +kernel
  refine ⟨_, _, Prod.ext hreturns rfl, by decide +kernel, ?_⟩
  rintro ⟨record, hrecord, -, -, -, hgslo⟩
  rw [hrecord, Option.map_some, hgslo] at hkept
  exact absurd hkept (by decide +kernel)

/-- A second cycle on the same list shows the prices of the broker. -/
theorem pollOnceSync_orders_guardedWorld : ∃ report w',
    (pollOnceSync sampleConfig).eval World.answer (guardedWorld.listing 1) = (.ok report, w') ∧
      ShowsOrders w'.store "5" (guardedTrade 1) := by
  have hreturns : ((pollOnceSync sampleConfig).eval World.answer (guardedWorld.listing 1)).1 =
      .ok ⟨[], []⟩ := by decide +kernel
  have hstored : (guardedWorld.store.getTrade "5").map (fun record => record.gsloPrice) =
      some (some 1) := by decide +kernel
  have hrun : (pollOnceSync sampleConfig).eval World.answer (guardedWorld.listing 1) =
      (.ok ⟨[], []⟩, _) := Prod.ext hreturns rfl
  refine ⟨_, _, hrun, (pollOnceSync_orders sampleConfig _ _ [guardedTrade 1] _ (by decide +kernel)
    hrun).mpr (fun tradeId payload hpayload record hrecord _ => ?_) "5" _ (by decide +kernel)⟩
  obtain ⟨hmem, hid⟩ := DocTable.last_some hpayload
  obtain rfl := List.mem_singleton.mp hmem
  obtain rfl : "5" = tradeId := Option.some.inj hid
  rw [World.listing] at hrecord
  rw [hrecord, Option.map_some, Option.some.injEq] at hstored
  exact hstored

end OandaV3
