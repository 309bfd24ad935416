import OandaV3.TradeStore
import OandaV3.TradeNormalizer

/-! # What a transaction books

The rows of a transaction are stored by event id, and the event id is made of the transaction id, the
kind of the row and a trade id or an instrument.  Two legs of one transaction with the same kind and
the same subject get the same event id, and the store keeps the last of them.

`normalizeTransaction_conserves`: nothing is lost between a transaction and an empty store exactly
when no two closed trades have one id and no two positions one subject. -/

namespace OandaV3

open Fallible

/-! ### The money of a row -/

def HistoryRow.realizedPl : HistoryRow → ℚ
  | trade e => e.realizedPl
  | financing _ => 0

def HistoryRow.financed : HistoryRow → ℚ
  | trade e => e.financing
  | financing e => e.financing

def HistoryRow.commission : HistoryRow → ℚ
  | trade e => e.commission
  | financing _ => 0

/-- The sum of an amount over the stored rows. -/
def TradeStore.rowSum (store : TradeStore) (amount : HistoryRow → ℚ) : ℚ :=
  (store.tradeHistoryEvents.docs.map amount).sum

/-! ### The money of a transaction -/

namespace Transaction

variable (t : Transaction)

/-- `str(transaction.get("type", "")).strip().upper()`. -/
def kind : String := Text.upper (Text.strip (t.type.getD ""))

/-- The legs that book money: `tradesClosed` and `tradeReduced`. -/
def closingLinks : List TradeLink := t.tradesClosed ++ t.tradeReduced.toList

def legsRealizedPl : ℚ :=
  if t.kind = "ORDER_FILL" then (t.closingLinks.map fun link => decimalFrom link.realizedPL).sum
  else 0

/-- The financing of the legs; a daily financing without positions is booked on the account. -/
def legsFinancing : ℚ :=
  if t.kind = "ORDER_FILL" then (t.closingLinks.map fun link => decimalFrom link.financing).sum
  else if t.positionFinancings.isEmpty then decimalFrom t.financing
  else (t.positionFinancings.map fun item => decimalFrom item.financing).sum

def HasLeg : Prop :=
  (t.kind = "ORDER_FILL" ∧ (t.tradeOpened ≠ none ∨ t.closingLinks ≠ [])) ∨
    (t.kind ≠ "ORDER_FILL" ∧ t.positionFinancings ≠ [])

/-- What the event id of a position names. -/
def positionSubject (item : PositionFinancing) : String :=
  (optionalString item.instrument).getD "ACCOUNT"

/-- No two legs of one kind name the same trade, or the same instrument; and a daily financing with
positions has no commission. -/
def LegsApart : Prop :=
  (t.kind = "ORDER_FILL" → (t.tradesClosed.map TradeLink.tradeID).Nodup) ∧
    (t.kind ≠ "ORDER_FILL" → (t.positionFinancings.map positionSubject).Nodup ∧
      (t.positionFinancings ≠ [] → decimalFrom t.commission = 0))

instance : Decidable t.HasLeg := by unfold HasLeg; infer_instance
instance : Decidable t.LegsApart := by unfold LegsApart; infer_instance

variable {t}

theorem legsApart_of_fill (h : t.kind = "ORDER_FILL") :
    t.LegsApart ↔ (t.tradesClosed.map TradeLink.tradeID).Nodup :=
  ⟨fun hapart => hapart.1 h, fun hnd => ⟨fun _ => hnd, fun hne => absurd h hne⟩⟩

theorem legsApart_of_financing (h : t.kind ≠ "ORDER_FILL") :
    t.LegsApart ↔ (t.positionFinancings.map positionSubject).Nodup ∧
      (t.positionFinancings ≠ [] → decimalFrom t.commission = 0) :=
  ⟨fun hapart => hapart.2 h, fun hnd => ⟨fun heq => absurd heq h, fun _ => hnd⟩⟩

variable (t)

/-- Nothing is lost between the transaction and a store that held nothing. -/
structure Conserved (rows : List HistoryRow) : Prop where
  distinct : (rows.map HistoryRow.eventId).Nodup
  financing : (TradeStore.empty.upsertTradeHistoryEvents rows).2.rowSum HistoryRow.financed =
    t.legsFinancing
  realizedPl : (TradeStore.empty.upsertTradeHistoryEvents rows).2.rowSum HistoryRow.realizedPl =
    t.legsRealizedPl
  commission : t.HasLeg →
    (TradeStore.empty.upsertTradeHistoryEvents rows).2.rowSum HistoryRow.commission =
      decimalFrom t.commission

end Transaction

section

variable {zone : String} {t : Transaction} {rows : List HistoryRow} {fillLegs : List Leg}

theorem rowSum_upsert (h : (rows.map HistoryRow.eventId).Nodup) (amount : HistoryRow → ℚ) :
    (TradeStore.empty.upsertTradeHistoryEvents rows).2.rowSum amount = (rows.map amount).sum := by
  have htable : (TradeStore.empty.upsertTradeHistoryEvents rows).2.tradeHistoryEvents =
      Table.empty.insertAll rows := TradeStore.upsertRows_table _ _
  rw [TradeStore.rowSum, htable, Table.docs_insertAll_empty h]

/-! ### Order fills -/

theorem sum_legs (h : legs t = .ok fillLegs) {amount : Leg → ℚ} {booked : TradeLink → ℚ}
    (hopened : ∀ link leg, openedLeg t link = .ok leg → amount leg = 0)
    (hclosed : ∀ type link leg, closedLeg type t link = .ok leg → amount leg = booked link) :
    (fillLegs.map amount).sum = (t.closingLinks.map booked).sum := by
  obtain ⟨opened, closed, reduced, hopen, hclose, hreduce, rfl⟩ := legs_ok h
  rw [List.map_append, List.map_append, map_of_mapM hopened hopen, map_of_mapM (hclosed _) hclose,
    map_of_mapM (hclosed _) hreduce, Transaction.closingLinks, List.map_append]
  simp

theorem legs_ne_nil (h : legs t = .ok fillLegs) (hkind : t.kind = "ORDER_FILL") (hleg : t.HasLeg) :
    fillLegs ≠ [] := by
  obtain ⟨opened, closed, reduced, hopen, hclose, hreduce, rfl⟩ := legs_ok h
  have hlength := (mapM_eq_ok.mp hopen).length_eq
  have hlength' := (mapM_eq_ok.mp hclose).length_eq
  have hlength'' := (mapM_eq_ok.mp hreduce).length_eq
  rw [← List.length_pos_iff, List.length_append, List.length_append, ← hlength, ← hlength',
    ← hlength'']
  rcases hleg with ⟨-, hopened | hlinks⟩ | ⟨hne, -⟩
  · obtain ⟨link, hlink⟩ := Option.ne_none_iff_exists'.mp hopened
    rw [hlink]
    simp
  · rw [Transaction.closingLinks, ← List.length_pos_iff, List.length_append] at hlinks
    omega
  · exact absurd hkind hne

/-- What tells trades apart tells legs apart. -/
theorem nodup_map_tradeId {β : Type} {f : String → β} (hf : Function.Injective f) (ls : List Leg) :
    (ls.map fun leg => f leg.tradeId).Nodup ↔ (ls.map Leg.tradeId).Nodup := by
  rw [← List.nodup_map_iff hf, List.map_map]
  rfl

/-- An optional link gives at most one leg. -/
theorem nodup_of_optional {β : Type} {link : Option TradeLink} {f : TradeLink → Except Exn Leg}
    {ls : List Leg} (h : link.toList.mapM f = .ok ls) (g : Leg → β) : (ls.map g).Nodup := by
  have hlength := (mapM_eq_ok.mp h).length_eq
  match ls, link with
  | [], _ => exact List.nodup_nil
  | [leg], _ => exact List.nodup_singleton _
  | _ :: _ :: _, none => cases hlength
  | _ :: _ :: _, some link => cases hlength

theorem keys_of_mapM {f : TradeLink → Except Exn Leg} {type : TradeHistoryEventType}
    (hf : ∀ link leg, f link = .ok leg → leg.eventType = type) {links : List TradeLink}
    {ls : List Leg} (h : links.mapM f = .ok ls) :
    ls.map (fun leg => (leg.eventType, leg.tradeId)) = ls.map fun leg => (type, leg.tradeId) := by
  refine List.map_congr_left fun leg hleg => ?_
  obtain ⟨link, -, hok⟩ := mem_of_mapM h hleg
  rw [hf link leg hok]

/-- The legs of a fill differ in kind or trade exactly when its closed trades differ. -/
theorem nodup_legs (h : legs t = .ok fillLegs) :
    (fillLegs.map fun leg => (leg.eventType, leg.tradeId)).Nodup ↔
      (t.tradesClosed.map TradeLink.tradeID).Nodup := by
  obtain ⟨opened, closed, reduced, hopen, hclose, hreduce, rfl⟩ := legs_ok h
  have hclosedIds : closed.map (fun leg => some leg.tradeId) = t.tradesClosed.map TradeLink.tradeID :=
    map_of_mapM (fun _ _ hok => (closedLeg_ok hok).1.symm) hclose
  rw [← hclosedIds, nodup_map_tradeId (Option.some_injective _),
    ← nodup_map_tradeId (Prod.mk_right_injective TradeHistoryEventType.CLOSE), List.map_append,
    List.map_append, keys_of_mapM (fun _ _ hok => (openedLeg_ok hok).2.1) hopen,
    keys_of_mapM (fun _ _ hok => (closedLeg_ok hok).2.1) hclose,
    keys_of_mapM (fun _ _ hok => (closedLeg_ok hok).2.1) hreduce, List.nodup_append',
    List.nodup_append']
  constructor
  · exact fun hnd => hnd.1.2.1
  · -- legs of different lists differ in kind
    intro hnd
    refine ⟨⟨nodup_of_optional hopen _, hnd, fun a ha ha' => ?_⟩, nodup_of_optional hreduce _,
      fun a ha ha' => ?_⟩
    · obtain ⟨leg, -, rfl⟩ := List.mem_map.mp ha
      obtain ⟨leg', -, hleg'⟩ := List.mem_map.mp ha'
      cases (Prod.mk.inj hleg').1
    · obtain ⟨leg', -, rfl⟩ := List.mem_map.mp ha'
      rcases List.mem_append.mp ha with ha | ha
      · obtain ⟨leg, -, hleg⟩ := List.mem_map.mp ha
        cases (Prod.mk.inj hleg).1
      · obtain ⟨leg, -, hleg⟩ := List.mem_map.mp ha
        cases (Prod.mk.inj hleg).1

theorem columns_of_fill (h : normalizeOrderFill zone t = .ok rows) : ∃ fillLegs,
    legs t = .ok fillLegs ∧ (∀ leg ∈ fillLegs, leg.units ≠ 0) ∧
    rows.map HistoryRow.eventId =
      fillLegs.map (fun leg => eventIdText t.id leg.eventType.text leg.tradeId) ∧
    rows.map HistoryRow.financed = fillLegs.map Leg.financing ∧
    rows.map HistoryRow.realizedPl = fillLegs.map Leg.realizedPl ∧
    rows.map HistoryRow.commission =
      allocateCommission (t.commission.getD ⟨0, 0⟩) (fillLegs.map Leg.units) := by
  obtain ⟨timeUtc, accountId, instrument, fillLegs, -, -, -, hlegs, hunits, hrows⟩ :=
    normalizeOrderFill_ok h
  have hlength : fillLegs.length =
      (allocateCommission (t.commission.getD ⟨0, 0⟩) (fillLegs.map Leg.units)).length := by
    rw [length_allocateCommission, List.length_map]
  have hleg : ∀ {β : Type} (f : HistoryRow → β) (g : Leg → β), (∀ leg commission,
      f (.trade (legEvent t timeUtc accountId instrument zone leg commission)) = g leg) →
        rows.map f = fillLegs.map g := by
    intro β f g hfg
    have hfst := List.map_fst_zip hlength.le
    rw [hrows, List.map_map, ← congrArg (List.map g) hfst, List.map_map]
    exact List.map_congr_left fun pair _ => hfg pair.1 pair.2
  refine ⟨fillLegs, hlegs, hunits, hleg _ _ fun _ _ => rfl, hleg _ _ fun _ _ => rfl,
    hleg _ _ fun _ _ => rfl, ?_⟩
  rw [hrows, List.map_map]
  exact List.map_snd_zip hlength.ge

/-- The event ids of a fill differ exactly when its closed trades do. -/
theorem nodup_eventId_of_fill (h : normalizeOrderFill zone t = .ok rows) :
    (rows.map HistoryRow.eventId).Nodup ↔ (t.tradesClosed.map TradeLink.tradeID).Nodup := by
  obtain ⟨fillLegs, hlegs, -, hids, -⟩ := columns_of_fill h
  have hinj : Function.Injective fun key : TradeHistoryEventType × String =>
      eventIdText t.id key.1.text key.2 := by
    intro key key' heq
    obtain ⟨htype, hid⟩ := eventType_of_eventIdText heq
    exact Prod.ext htype hid
  rw [hids, ← nodup_legs hlegs, ← List.nodup_map_iff hinj, List.map_map]
  rfl

/-- A fill loses nothing exactly when its closed trades differ. -/
theorem conserved_of_fill (hkind : t.kind = "ORDER_FILL") (h : normalizeOrderFill zone t = .ok rows) :
    t.Conserved rows ↔ t.LegsApart := by
  obtain ⟨fillLegs, hlegs, hunits, -, hfinancing, hrealizedPl, hcommission⟩ := columns_of_fill h
  rw [Transaction.legsApart_of_fill hkind, ← nodup_eventId_of_fill h]
  refine ⟨Transaction.Conserved.distinct, fun hnd => ⟨hnd, ?_, ?_, fun hhas => ?_⟩⟩
  · rw [rowSum_upsert hnd, hfinancing, Transaction.legsFinancing, if_pos hkind]
    exact sum_legs hlegs (fun _ _ hok => (openedLeg_ok hok).2.2.2.2.2)
      fun _ _ _ hok => (closedLeg_ok hok).2.2.2
  · rw [rowSum_upsert hnd, hrealizedPl, Transaction.legsRealizedPl, if_pos hkind]
    exact sum_legs hlegs (fun _ _ hok => (openedLeg_ok hok).2.2.2.2.1)
      fun _ _ _ hok => (closedLeg_ok hok).2.2.1
  · obtain ⟨leg, hmem⟩ := List.exists_mem_of_ne_nil _ (legs_ne_nil hlegs hkind hhas)
    rw [rowSum_upsert hnd, hcommission, sum_allocateCommission _ (List.mem_map_of_mem hmem)
      (hunits leg hmem), decimalFrom]
    cases t.commission with
    | none => simp [Decimal.toRat]
    | some commission => rfl

/-! ### Daily financing -/

theorem financingRows_ok (h : normalizeDailyFinancing zone t = .ok rows) : ∃ timeUtc accountId,
    rows = (if t.positionFinancings.isEmpty then
        [financingRow t timeUtc accountId zone none t.financing]
      else t.positionFinancings.map fun item =>
        financingRow t timeUtc accountId zone (optionalString item.instrument) item.financing).map
      HistoryRow.financing := by
  obtain ⟨timeUtc, -, h⟩ := bind_eq_ok.mp h
  obtain ⟨accountId, -, h⟩ := bind_eq_ok.mp h
  exact ⟨timeUtc, accountId, (mapM_checked_eq_ok h).1⟩

/-- The event ids of a daily financing differ exactly when its positions do. -/
theorem nodup_eventId_of_financing (h : normalizeDailyFinancing zone t = .ok rows) :
    (rows.map HistoryRow.eventId).Nodup ↔
      (t.positionFinancings.map Transaction.positionSubject).Nodup := by
  obtain ⟨timeUtc, accountId, hrows⟩ := financingRows_ok h
  have hinj : Function.Injective (eventIdText t.id "DAILY_FINANCING") := by
    intro subject subject' heq
    have hlists := (eventIdText_inj heq).2
    exact String.toList_injective (List.cons.inj (List.append_cancel_left hlists)).2
  refine Iff.trans ?_ (List.nodup_map_iff hinj)
  rw [hrows]
  split_ifs with hempty
  · rw [List.isEmpty_iff.mp hempty]
    simp
  · simp only [List.map_map]
    exact Iff.rfl

/-- A daily financing loses nothing exactly when its positions differ, and none of them hides a
commission. -/
theorem conserved_of_financing (hkind : t.kind ≠ "ORDER_FILL")
    (h : normalizeDailyFinancing zone t = .ok rows) : t.Conserved rows ↔ t.LegsApart := by
  obtain ⟨timeUtc, accountId, hrows⟩ := financingRows_ok h
  have hzero : ∀ f : HistoryRow → ℚ, (∀ e, f (.financing e) = 0) → (rows.map f).sum = 0 := by
    intro f hf
    refine List.sum_eq_zero fun q hq => ?_
    rw [hrows, List.map_map] at hq
    obtain ⟨e, -, rfl⟩ := List.mem_map.mp hq
    exact hf e
  have hfinancing : (rows.map HistoryRow.financed).sum = t.legsFinancing := by
    rw [Transaction.legsFinancing, if_neg hkind, hrows]
    split_ifs
    · simp [HistoryRow.financed, financingRow]
    · rw [List.map_map, List.map_map]
      rfl
  rw [Transaction.legsApart_of_financing hkind, ← nodup_eventId_of_financing h]
  constructor
  · intro hconserved
    refine ⟨hconserved.distinct, fun hpositions => ?_⟩
    have hsum := hconserved.commission (Or.inr ⟨hkind, hpositions⟩)
    rw [rowSum_upsert hconserved.distinct, hzero _ fun _ => rfl] at hsum
    exact hsum.symm
  · rintro ⟨hnd, hnone⟩
    refine ⟨hnd, ?_, ?_, fun hhas => ?_⟩
    · rw [rowSum_upsert hnd, hfinancing]
    · rw [rowSum_upsert hnd, hzero _ fun _ => rfl, Transaction.legsRealizedPl, if_neg hkind]
    · have hpositions := (hhas.resolve_left fun hfill => hkind hfill.1).2
      rw [rowSum_upsert hnd, hzero _ fun _ => rfl, hnone hpositions]

end

/-- **What is booked is kept, unless two legs share an event id.**  The rows of an accepted fill or
daily financing have different event ids and keep the money of the transaction exactly when its legs
of one kind name different trades, or instruments. -/
theorem normalizeTransaction_conserves (zone : String) (t : Transaction) (rows : List HistoryRow)
    (hkind : t.kind = "ORDER_FILL" ∨ t.kind = "DAILY_FINANCING")
    (h : normalizeTransaction zone t = .ok rows) : t.Conserved rows ↔ t.LegsApart := by
  rcases hkind with hkind | hkind
  · rw [normalizeTransaction, ← Transaction.kind, hkind] at h
    exact conserved_of_fill hkind h
  · rw [normalizeTransaction, ← Transaction.kind, hkind] at h
    exact conserved_of_financing (by rw [hkind]; decide) h

/-- A daily financing of two positions in one instrument. -/
def twoPositions : Transaction where
  id := 7
  type := some "DAILY_FINANCING"
  time := some 0
  accountID := some "001"
  positionFinancings := [
    { instrument := some "EUR_USD", financing := some ⟨1, 0⟩ },
    { instrument := some "EUR_USD", financing := some ⟨2, 0⟩ }]

/-- Both rows have the event id `7:DAILY_FINANCING:EUR_USD`: of 3 units of financing 2 are stored. -/
theorem normalizeTransaction_loses_financing : ∃ rows,
    normalizeTransaction "UTC" twoPositions = .ok rows ∧ ¬ twoPositions.Conserved rows := by
  have hids : (normalizeTransaction "UTC" twoPositions).map (List.map HistoryRow.eventId) =
      .ok ["7:DAILY_FINANCING:EUR_USD", "7:DAILY_FINANCING:EUR_USD"] := by decide +kernel
  obtain ⟨rows, hrows, hids⟩ := map_eq_ok.mp hids
  refine ⟨rows, hrows, fun hconserved => ?_⟩
  have hdistinct := hconserved.distinct
  rw [hids] at hdistinct
  exact absurd hdistinct (by decide)

/-- A fill that opens one trade, closes two and reduces a fourth. -/
def fourLegs : Transaction where
  id := 8
  type := some "ORDER_FILL"
  time := some 0
  accountID := some "001"
  instrument := some "EUR_USD"
  units := some ⟨-100, 0⟩
  price := some ⟨11, -1⟩
  commission := some ⟨100, -2⟩
  tradeOpened := some { tradeID := some "8", units := some ⟨-10, 0⟩ }
  tradesClosed := [
    { tradeID := some "1", units := some ⟨-30, 0⟩, realizedPL := some ⟨5, 0⟩ },
    { tradeID := some "2", units := some ⟨-30, 0⟩, financing := some ⟨-1, -2⟩ }]
  tradeReduced := some { tradeID := some "3", units := some ⟨-30, 0⟩, realizedPL := some ⟨-2, 0⟩ }

/-- Its four rows are kept, and their shares of the commission add up to it. -/
theorem normalizeTransaction_conserves_fourLegs : ∃ rows,
    normalizeTransaction "UTC" fourLegs = .ok rows ∧ fourLegs.Conserved rows := by
  have haccepted : (normalizeTransaction "UTC" fourLegs).map List.length = .ok 4 := by decide +kernel
  obtain ⟨rows, hrows, -⟩ := map_eq_ok.mp haccepted
  exact ⟨rows, hrows, (normalizeTransaction_conserves "UTC" fourLegs rows (by decide) hrows).mpr
    (by decide)⟩

end OandaV3
