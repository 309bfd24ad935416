import Mathlib.Data.List.ReduceOption
import Mathlib.Data.List.Sublists
import Mathlib.Data.Prod.Lex
import Mathlib.Data.String.Basic
import Mathlib.Logic.Function.Basic
import OandaV3.DocTable
import OandaV3.Fallible
import OandaV3.MarketState

/-! # Order-block zones

`smc/provider.py`: the detector's rows become order-block candidates, nearest first, and the zone
summary publishes at most ten mitigated and ten unmitigated ones of them.

* `selectCandidates_eq`: the loop with its two counters is one pass under two quotas.
* `validateSize_of_select`: the size check of the published model passes what the loop selects.
* `buildOrderBlockCandidates_ok`: the candidates that are found are well formed and in order.
* `buildZoneSummary_nearest`: the main result. -/

/-! ## Quotas

One pass over a list that keeps at most a given number of items of each kind.

* `select_sublist`, `filter_select`: of every kind the pass keeps the first items, as many as the
  quota allows, in their places.
* `rel_of_dropped`: in an ordered list, what the pass keeps comes before what it drops. -/

namespace Quota

variable {α κ : Type} [DecidableEq κ] {kind : α → κ}

/-- The pass; `left` is what is left of the quota of each kind. -/
def select (kind : α → κ) (left : κ → ℕ) : List α → List α
  | [] => []
  | a :: l =>
    if left (kind a) = 0 then select kind left l
    else a :: select kind (Function.update left (kind a) (left (kind a) - 1)) l

theorem select_sublist (left : κ → ℕ) (l : List α) : (select kind left l).Sublist l := by
  induction l generalizing left with
  | nil => exact List.Sublist.refl []
  | cons a l ih =>
      rw [select]
      split_ifs
      · exact (ih left).cons a
      · exact (ih _).cons_cons a

theorem filter_select (left : κ → ℕ) (l : List α) (k : κ) :
    (select kind left l).filter (fun a => decide (kind a = k)) =
      (l.filter fun a => decide (kind a = k)).take (left k) := by
  induction l generalizing left with
  | nil => simp [select]
  | cons a l ih =>
      rw [select]
      by_cases hk : kind a = k
      · have hkeep : ∀ m : List α, (a :: m).filter (fun a => decide (kind a = k)) =
            a :: m.filter fun a => decide (kind a = k) :=
          fun m => List.filter_cons_of_pos (decide_eq_true hk)
        rw [hkeep, hk]
        split_ifs with hnone
        · rw [ih, hnone, List.take_zero, List.take_zero]
        · obtain ⟨n, hn⟩ := Nat.exists_eq_succ_of_ne_zero hnone
          rw [hkeep, ih, Function.update_self, hn, Nat.succ_sub_one, List.take_succ_cons]
      · -- the quota of another kind changes nothing for `k`
        have hskip : ∀ m : List α, (a :: m).filter (fun a => decide (kind a = k)) =
            m.filter fun a => decide (kind a = k) :=
          fun m => List.filter_cons_of_neg (by simp [hk])
        rw [hskip]
        split_ifs
        · exact ih left
        · rw [hskip, ih, Function.update_of_ne (Ne.symm hk)]

theorem countP_select_le (left : κ → ℕ) (l : List α) (k : κ) :
    (select kind left l).countP (fun a => decide (kind a = k)) ≤ left k := by
  rw [List.countP_eq_length_filter, filter_select]
  exact List.length_take_le _ _

theorem rel_of_dropped {r : α → α → Prop} {left : κ → ℕ} {l : List α} (h : l.Pairwise r) {k : κ}
    {a b : α} (ha : a ∈ (select kind left l).filter fun a => decide (kind a = k))
    (hb : b ∈ (l.filter fun a => decide (kind a = k)).drop (left k)) : r a b := by
  rw [filter_select] at ha
  exact (h.filter _).rel_of_mem_take_of_mem_drop ha hb

end Quota

namespace OandaV3

/-! ### Candidates -/

inductive BinaryDirection where
  | BULLISH
  | BEARISH
deriving DecidableEq, Repr

inductive OrderBlockStatus where
  | ACTIVE
  | MITIGATED
deriving DecidableEq, Repr

/-- `OrderBlockCandidate`. -/
structure OrderBlockCandidate where
  id : String
  instrument : String
  timeframe : String
  direction : BinaryDirection
  upperPrice : ℚ
  lowerPrice : ℚ
  createdAt : Instant
  status : OrderBlockStatus
  mitigatedAt : Option Instant
  lastAnalyzedClose : ℚ
deriving DecidableEq, Repr

/-- `_zone_distance_pips`. -/
def zoneDistancePips (lastClose upperPrice lowerPrice pipSize : ℚ) : ℚ :=
  if lowerPrice ≤ lastClose ∧ lastClose ≤ upperPrice then 0
  else if upperPrice < lastClose then (lastClose - upperPrice) / pipSize
  else (lowerPrice - lastClose) / pipSize

theorem zoneDistancePips_nonneg {lastClose upperPrice lowerPrice pipSize : ℚ} (h : 0 < pipSize) :
    0 ≤ zoneDistancePips lastClose upperPrice lowerPrice pipSize := by
  unfold zoneDistancePips
  split_ifs with hinside habove
  · exact le_refl 0
  · exact div_nonneg (by linarith) h.le
  · have hbelow : lastClose < lowerPrice := by
      by_contra hlower
      exact hinside ⟨not_lt.mp hlower, not_lt.mp habove⟩
    exact div_nonneg (by linarith) h.le

namespace OrderBlockCandidate

/-- The distance of a candidate from the close it was found at. -/
def distancePips (pipSize : ℚ) (c : OrderBlockCandidate) : ℚ :=
  zoneDistancePips c.lastAnalyzedClose c.upperPrice c.lowerPrice pipSize

/-- The key of `candidates.sort`. -/
def sortKey (pipSize : ℚ) (c : OrderBlockCandidate) : ℚ ×ₗ ℕ ×ₗ ℤ ×ₗ String :=
  toLex (c.distancePips pipSize,
    toLex (if c.status = .ACTIVE then 0 else 1, toLex (-c.createdAt, c.id)))

end OrderBlockCandidate

/-- A row of the order-block frame; a number that is NaN or not there is `none`. -/
structure OrderBlockRow where
  index : ℕ
  ob : Option ℚ
  top : Option ℚ
  bottom : Option ℚ
  mitigatedIndex : Option ℚ
deriving DecidableEq, Repr

structure ClosedRow where
  time : Instant
  close : ℚ
deriving DecidableEq, Repr

/-- `int(number)` of a float: towards zero. -/
def truncate (q : ℚ) : ℤ := q.num.tdiv q.den

/-- `closed["time"].iloc[int(index)]`. -/
def timeAt (closed : List ClosedRow) (index : ℕ) : Except Exn Instant :=
  match closed[index]? with
  | some row => .ok row.time
  | none => .error (.indexError "single positional indexer is out-of-bounds")

/-- The time of mitigation, when the index of the mitigation is inside the closed candles. -/
def mitigation (closed : List ClosedRow) (mitigatedIndex : Option ℚ) : Option Instant :=
  match mitigatedIndex.map truncate with
  | some index =>
      if 0 < index ∧ index < closed.length then (closed[index.toNat]?).map ClosedRow.time else none
  | none => none

section Candidates

/- `build_order_block_record_id` hashes its arguments; the id breaks ties only. -/
variable (recordId : String → String → BinaryDirection → Instant → ℚ → ℚ → String)

/-- The body of the loop over the rows; a row that lacks a number is skipped. -/
def candidateOfRow (instrument timeframe : String) (closed : List ClosedRow) (lastClose : ℚ)
    (row : OrderBlockRow) : Except Exn (Option OrderBlockCandidate) :=
  match row.ob, row.top, row.bottom with
  | some value, some top, some bottom => do
      let createdAt ← timeAt closed row.index
      let mitigatedAt := mitigation closed row.mitigatedIndex
      let direction := if 0 < value then .BULLISH else .BEARISH
      return some {
        id := recordId instrument timeframe direction createdAt (max top bottom) (min top bottom)
        instrument := instrument
        timeframe := timeframe
        direction := direction
        upperPrice := max top bottom
        lowerPrice := min top bottom
        createdAt := createdAt
        status := if mitigatedAt.isSome then .MITIGATED else .ACTIVE
        mitigatedAt := mitigatedAt
        lastAnalyzedClose := lastClose }
  | _, _, _ => return none

/-- `_build_order_block_candidates`. -/
def buildOrderBlockCandidates (instrument timeframe : String) (closed : List ClosedRow)
    (orderBlockFrame : List OrderBlockRow) : Except Exn (List OrderBlockCandidate) := do
  let spec ← getInstrumentSpec instrument
  match closed.getLast? with
  | none => throw (.indexError "single positional indexer is out-of-bounds")
  | some last =>
      let candidates ← orderBlockFrame.mapM
        (candidateOfRow recordId instrument timeframe closed last.close)
      return sortOn (OrderBlockCandidate.sortKey spec.pipSize) candidates.reduceOption

end Candidates

/-! ### The published models -/

/-- The fields of `OrderBlockSummary`. -/
structure OrderBlockSummaryFields where
  direction : BinaryDirection
  upperPrice : ℚ
  lowerPrice : ℚ
  createdAt : Option Instant := none
  distancePips : Option ℚ := none
  isMitigated : Option Bool := none
deriving DecidableEq, Repr

/-- The bound of a field of `OrderBlockSummary`, and its `validate_bounds`. -/
def OrderBlockSummaryFields.validateContract (b : OrderBlockSummaryFields) : Except Exn Unit := do
  require (b.distancePips.all fun d => decide (0 ≤ d))
    "distance_pips must be greater than or equal to 0."
  require (decide (b.lowerPrice ≤ b.upperPrice))
    "upper_price must be greater than or equal to lower_price."

/-- A validated `OrderBlockSummary`. -/
structure OrderBlockSummary extends OrderBlockSummaryFields where
  contract : toOrderBlockSummaryFields.validateContract = .ok ()
deriving DecidableEq

/-- `OrderBlockSummary(...)`. -/
def OrderBlockSummaryFields.validate (b : OrderBlockSummaryFields) : Except Exn OrderBlockSummary :=
  Fallible.validated b.validateContract fun contract => ⟨b, contract⟩

/-- `MAX_ACTIVE_ORDER_BLOCKS`. -/
def maxActiveOrderBlocks : ℕ := 10

/-- `MAX_ORDER_BLOCKS_PER_MITIGATION_STATUS`. -/
def maxOrderBlocksPerMitigationStatus : ℕ := maxActiveOrderBlocks

/-- `MAX_PUBLISHED_ORDER_BLOCKS`. -/
def maxPublishedOrderBlocks : ℕ := maxOrderBlocksPerMitigationStatus * 2

/-- `ActiveZoneSummary.validate_size`. -/
def validateSize (orderBlocks : List OrderBlockSummary) : Except Exn Unit := do
  let mitigatedCount := orderBlocks.countP fun block => decide (block.isMitigated = some true)
  let unmitigatedCount := orderBlocks.length - mitigatedCount
  require (decide (orderBlocks.length ≤ maxPublishedOrderBlocks))
    ("ActiveZoneSummary may contain at most " ++ toString maxPublishedOrderBlocks ++
      " order blocks.")
  require (decide (mitigatedCount ≤ maxOrderBlocksPerMitigationStatus))
    ("ActiveZoneSummary may contain at most " ++ toString maxOrderBlocksPerMitigationStatus ++
      " mitigated order blocks.")
  require (decide (unmitigatedCount ≤ maxOrderBlocksPerMitigationStatus))
    ("ActiveZoneSummary may contain at most " ++ toString maxOrderBlocksPerMitigationStatus ++
      " unmitigated order blocks.")

/-- A validated `ActiveZoneSummary`. -/
structure ActiveZoneSummary where
  orderBlocks : List OrderBlockSummary := []
  size : validateSize orderBlocks = .ok ()

/-- `ActiveZoneSummary(order_blocks=...)`. -/
def ActiveZoneSummary.validate (orderBlocks : List OrderBlockSummary) :
    Except Exn ActiveZoneSummary :=
  Fallible.validated (validateSize orderBlocks) fun size => ⟨orderBlocks, size⟩

/-! ### The zone summary -/

/-- The locals of the loop that selects. -/
structure Selection where
  selectedCandidates : List OrderBlockCandidate := []
  mitigatedCount : ℕ := 0
  unmitigatedCount : ℕ := 0
deriving DecidableEq, Repr

def Selection.step (s : Selection) (candidate : OrderBlockCandidate) : Selection :=
  if candidate.status = .MITIGATED then
    if maxOrderBlocksPerMitigationStatus ≤ s.mitigatedCount then s
    else { s with
      mitigatedCount := s.mitigatedCount + 1
      selectedCandidates := s.selectedCandidates ++ [candidate] }
  else
    if maxOrderBlocksPerMitigationStatus ≤ s.unmitigatedCount then s
    else { s with
      unmitigatedCount := s.unmitigatedCount + 1
      selectedCandidates := s.selectedCandidates ++ [candidate] }

def selectCandidates (candidates : List OrderBlockCandidate) : List OrderBlockCandidate :=
  (candidates.foldl Selection.step {}).selectedCandidates

def summarizeCandidate (candidate : OrderBlockCandidate) : Except Exn OrderBlockSummary := do
  let spec ← getInstrumentSpec candidate.instrument
  OrderBlockSummaryFields.validate {
    direction := candidate.direction
    upperPrice := candidate.upperPrice
    lowerPrice := candidate.lowerPrice
    createdAt := some candidate.createdAt
    distancePips := some (candidate.distancePips spec.pipSize)
    isMitigated := some (decide (candidate.status = .MITIGATED)) }

/-- `_build_zone_summary`. -/
def buildZoneSummary (candidates : List OrderBlockCandidate) : Except Exn ActiveZoneSummary := do
  let orderBlocks ← (selectCandidates candidates).mapM summarizeCandidate
  ActiveZoneSummary.validate orderBlocks

/-! ### The loop and the two quotas -/

namespace Selection

/-- What is left of the quota of each status. -/
def left (s : Selection) : OrderBlockStatus → ℕ
  | .MITIGATED => maxOrderBlocksPerMitigationStatus - s.mitigatedCount
  | .ACTIVE => maxOrderBlocksPerMitigationStatus - s.unmitigatedCount

/-- A round whose quota is used up changes nothing. -/
theorem step_of_left_eq_zero {s : Selection} {candidate : OrderBlockCandidate}
    (h : s.left candidate.status = 0) : s.step candidate = s := by
  unfold step
  cases hstatus : candidate.status with
  | ACTIVE =>
      rw [hstatus] at h
      rw [if_neg (by decide), if_pos (Nat.le_of_sub_eq_zero h)]
  | MITIGATED =>
      rw [hstatus] at h
      rw [if_pos rfl, if_pos (Nat.le_of_sub_eq_zero h)]

theorem step_of_left_ne_zero {s : Selection} {candidate : OrderBlockCandidate}
    (h : s.left candidate.status ≠ 0) :
    (s.step candidate).selectedCandidates = s.selectedCandidates ++ [candidate] ∧
      (s.step candidate).left =
        Function.update s.left candidate.status (s.left candidate.status - 1) := by
  unfold step
  cases hstatus : candidate.status with
  | ACTIVE =>
      rw [hstatus] at h
      have hroom : ¬maxOrderBlocksPerMitigationStatus ≤ s.unmitigatedCount :=
        fun hfull => h (Nat.sub_eq_zero_of_le hfull)
      rw [if_neg (by decide), if_neg hroom]
      refine ⟨rfl, ?_⟩
      funext status
      cases status with
      | ACTIVE =>
          rw [Function.update_self]
          exact Nat.sub_add_eq _ _ _
      | MITIGATED => rfl
  | MITIGATED =>
      rw [hstatus] at h
      have hroom : ¬maxOrderBlocksPerMitigationStatus ≤ s.mitigatedCount :=
        fun hfull => h (Nat.sub_eq_zero_of_le hfull)
      rw [if_pos rfl, if_neg hroom]
      refine ⟨rfl, ?_⟩
      funext status
      cases status with
      | ACTIVE => rfl
      | MITIGATED =>
          rw [Function.update_self]
          exact Nat.sub_add_eq _ _ _

/-- The loop appends what one pass selects under the quotas that are left. -/
theorem selectedCandidates_foldl (s : Selection) (candidates : List OrderBlockCandidate) :
    (candidates.foldl step s).selectedCandidates =
      s.selectedCandidates ++ Quota.select OrderBlockCandidate.status s.left candidates := by
  induction candidates generalizing s with
  | nil => exact (List.append_nil _).symm
  | cons candidate candidates ih =>
      rw [List.foldl_cons, ih, Quota.select]
      split_ifs with hleft
      · rw [step_of_left_eq_zero hleft]
      · obtain ⟨hselected, hquota⟩ := step_of_left_ne_zero hleft
        rw [hselected, hquota, List.append_assoc, List.singleton_append]

end Selection

/-- The loop is one pass under two quotas. -/
theorem selectCandidates_eq (candidates : List OrderBlockCandidate) :
    selectCandidates candidates = Quota.select OrderBlockCandidate.status
      (fun _ => maxOrderBlocksPerMitigationStatus) candidates := by
  have hquota : Selection.left {} = fun _ => maxOrderBlocksPerMitigationStatus := by
    funext status
    cases status <;> rfl
  rw [selectCandidates, Selection.selectedCandidates_foldl, hquota]
  rfl

theorem selectCandidates_sublist (candidates : List OrderBlockCandidate) :
    (selectCandidates candidates).Sublist candidates := by
  rw [selectCandidates_eq]
  exact Quota.select_sublist _ _

theorem filter_selectCandidates (candidates : List OrderBlockCandidate)
    (status : OrderBlockStatus) :
    (selectCandidates candidates).filter (fun c => decide (c.status = status)) =
      (candidates.filter fun c => decide (c.status = status)).take
        maxOrderBlocksPerMitigationStatus := by
  rw [selectCandidates_eq]
  exact Quota.filter_select _ _ _

theorem countP_selectCandidates_le (candidates : List OrderBlockCandidate)
    (status : OrderBlockStatus) :
    (selectCandidates candidates).countP (fun c => decide (c.status = status)) ≤
      maxOrderBlocksPerMitigationStatus := by
  rw [selectCandidates_eq]
  exact Quota.countP_select_le _ _ _

/-! ### The checks of the published models -/

theorem isMitigated_of_summarizeCandidate {candidate : OrderBlockCandidate}
    {block : OrderBlockSummary} (h : summarizeCandidate candidate = .ok block) :
    block.isMitigated = some (decide (candidate.status = .MITIGATED)) := by
  obtain ⟨spec, -, hblock⟩ := Fallible.bind_eq_ok.mp h
  obtain ⟨contract, rfl⟩ := Fallible.validated_eq_ok.mp hblock
  rfl

/-- The size check passes at most ten mitigated blocks and at most ten others. -/
theorem validateSize_of_le {orderBlocks : List OrderBlockSummary} {mitigated unmitigated : ℕ}
    (hmitigated : orderBlocks.countP (fun b => decide (b.isMitigated = some true)) = mitigated)
    (hlength : orderBlocks.length = mitigated + unmitigated)
    (hle : mitigated ≤ maxOrderBlocksPerMitigationStatus)
    (hle' : unmitigated ≤ maxOrderBlocksPerMitigationStatus) :
    validateSize orderBlocks = .ok () := by
  have hall : mitigated + unmitigated ≤ maxPublishedOrderBlocks := by
    unfold maxPublishedOrderBlocks
    omega
  unfold validateSize
  simp [hmitigated, hlength, require, hall, hle, hle', bind, Except.bind]

theorem validateSize_of_select {candidates : List OrderBlockCandidate}
    {orderBlocks : List OrderBlockSummary}
    (h : (selectCandidates candidates).mapM summarizeCandidate = .ok orderBlocks) :
    validateSize orderBlocks = .ok () := by
  have hflags : orderBlocks.map (fun b => b.isMitigated) =
      (selectCandidates candidates).map fun c => some (decide (c.status = .MITIGATED)) :=
    Fallible.map_of_mapM (fun _ _ hblock => isMitigated_of_summarizeCandidate hblock) h
  have hmitigated : orderBlocks.countP (fun b => decide (b.isMitigated = some true)) =
      (selectCandidates candidates).countP fun c => decide (c.status = .MITIGATED) := by
    have hcount := congrArg (List.countP fun flag => decide (flag = some true)) hflags
    rw [List.countP_map, List.countP_map] at hcount
    refine hcount.trans (List.countP_congr fun c _ => ?_)
    simp
  have hlength : orderBlocks.length =
      (selectCandidates candidates).countP (fun c => decide (c.status = .MITIGATED)) +
        (selectCandidates candidates).countP fun c => decide (c.status = .ACTIVE) := by
    have hsame := congrArg List.length hflags
    rw [List.length_map, List.length_map] at hsame
    rw [hsame, List.length_eq_countP_add_countP fun c : OrderBlockCandidate =>
      decide (c.status = .MITIGATED)]
    congr 1
    refine List.countP_congr fun c _ => ?_
    cases c.status <;> simp
  exact validateSize_of_le hmitigated hlength (countP_selectCandidates_le _ _)
    (countP_selectCandidates_le _ _)

/-! ### The candidates that are found -/

structure OrderBlockCandidate.WellFormed (c : OrderBlockCandidate) : Prop where
  bounds : c.lowerPrice ≤ c.upperPrice
  supported : ∃ spec, getInstrumentSpec c.instrument = .ok spec

theorem pipSize_pos {instrument : String} {spec : InstrumentSpec}
    (h : getInstrumentSpec instrument = .ok spec) : 0 < spec.pipSize := by
  have hall : ∀ spec ∈ instrumentRegistry, 0 < spec.pipSize := by decide +kernel
  unfold getInstrumentSpec at h
  split at h
  · next found hfound =>
      obtain rfl := Except.ok.inj h
      exact hall _ (List.mem_of_find?_eq_some hfound)
  · cases h

theorem summarizeCandidate_ok {c : OrderBlockCandidate} (h : c.WellFormed) :
    ∃ block, summarizeCandidate c = .ok block := by
  obtain ⟨spec, hspec⟩ := h.supported
  have hdistance : 0 ≤ c.distancePips spec.pipSize := zoneDistancePips_nonneg (pipSize_pos hspec)
  unfold summarizeCandidate
  rw [hspec]
  exact ⟨_, Fallible.validated_of_ok (by
    simp [OrderBlockSummaryFields.validateContract, require, hdistance, h.bounds, bind,
      Except.bind])⟩

section Candidates

variable {recordId : String → String → BinaryDirection → Instant → ℚ → ℚ → String}
  {instrument timeframe : String} {closed : List ClosedRow} {rows : List OrderBlockRow}
  {candidates : List OrderBlockCandidate}

theorem candidateOfRow_wellFormed {lastClose : ℚ} {row : OrderBlockRow} {c : OrderBlockCandidate}
    (hspec : ∃ spec, getInstrumentSpec instrument = .ok spec)
    (h : candidateOfRow recordId instrument timeframe closed lastClose row = .ok (some c)) :
    c.WellFormed := by
  unfold candidateOfRow at h
  split at h
  · obtain ⟨createdAt, -, hc⟩ := Fallible.bind_eq_ok.mp h
    obtain rfl := Option.some.inj (Except.ok.inj hc)
    exact ⟨min_le_max, hspec⟩
  · cases h

theorem buildOrderBlockCandidates_ok
    (h : buildOrderBlockCandidates recordId instrument timeframe closed rows = .ok candidates) :
    (∀ c ∈ candidates, c.WellFormed) ∧ ∃ spec, getInstrumentSpec instrument = .ok spec ∧
      candidates.Pairwise fun c d => c.sortKey spec.pipSize ≤ d.sortKey spec.pipSize := by
  obtain ⟨spec, hspec, h⟩ := Fallible.bind_eq_ok.mp h
  cases hlast : closed.getLast? with
  | none =>
      rw [hlast] at h
      cases h
  | some last =>
      rw [hlast] at h
      obtain ⟨found, hfound, h⟩ := Fallible.bind_eq_ok.mp h
      obtain rfl := Except.ok.inj h
      refine ⟨fun c hc => ?_, spec, hspec, pairwise_sortOn⟩
      rw [mem_sortOn, List.reduceOption_mem_iff] at hc
      obtain ⟨row, -, hrow⟩ := Fallible.mem_of_mapM hfound hc
      exact candidateOfRow_wellFormed ⟨spec, hspec⟩ hrow

end Candidates

/-! ### The zone summary of any candidates -/

/-- The check of the published model rejects nothing that the loop selects. -/
theorem map_buildZoneSummary (candidates : List OrderBlockCandidate) :
    (buildZoneSummary candidates).map ActiveZoneSummary.orderBlocks =
      (selectCandidates candidates).mapM summarizeCandidate := by
  unfold buildZoneSummary
  cases hblocks : (selectCandidates candidates).mapM summarizeCandidate with
  | error e => rfl
  | ok orderBlocks =>
      have hvalid : ActiveZoneSummary.validate orderBlocks = .ok ⟨orderBlocks, _⟩ :=
        Fallible.validated_of_ok (validateSize_of_select hblocks)
      exact congrArg (Except.map ActiveZoneSummary.orderBlocks) hvalid

theorem buildZoneSummary_ok {candidates : List OrderBlockCandidate}
    (h : ∀ c ∈ candidates, c.WellFormed) :
    ∃ summary, buildZoneSummary candidates = .ok summary := by
  obtain ⟨orderBlocks, hblocks⟩ := Fallible.exists_mapM fun c hc =>
    summarizeCandidate_ok (h c ((selectCandidates_sublist candidates).subset hc))
  obtain ⟨summary, hsummary, -⟩ :=
    Fallible.map_eq_ok.mp ((map_buildZoneSummary candidates).trans hblocks)
  exact ⟨summary, hsummary⟩

/-- In an ordered list, what is kept of a status is no farther than what is dropped of it. -/
theorem distancePips_le_of_dropped {candidates : List OrderBlockCandidate} {pipSize : ℚ}
    (h : candidates.Pairwise fun c d => c.sortKey pipSize ≤ d.sortKey pipSize)
    {status : OrderBlockStatus} {kept dropped : OrderBlockCandidate}
    (hkept : kept ∈ (selectCandidates candidates).filter fun c => decide (c.status = status))
    (hdropped : dropped ∈ (candidates.filter fun c => decide (c.status = status)).drop
      maxOrderBlocksPerMitigationStatus) :
    kept.distancePips pipSize ≤ dropped.distancePips pipSize := by
  rw [selectCandidates_eq] at hkept
  have hkey := Quota.rel_of_dropped h hkept hdropped
  exact Prod.Lex.monotone_fst _ _ hkey

/-- **Zone selection keeps the nearest blocks**: what is selected is a subsequence with the first
ten candidates of each status; in an ordered list no candidate that is kept is farther than one of its
status that is dropped; the check of the published model rejects nothing; and the lists that
`_build_order_block_candidates` makes are ordered, and always give a summary. -/
theorem buildZoneSummary_nearest (candidates : List OrderBlockCandidate) :
    (selectCandidates candidates).Sublist candidates ∧
    (∀ status : OrderBlockStatus,
      (selectCandidates candidates).filter (fun c => decide (c.status = status)) =
        (candidates.filter fun c => decide (c.status = status)).take 10) ∧
    (∀ pipSize : ℚ,
      (candidates.Pairwise fun c d => c.sortKey pipSize ≤ d.sortKey pipSize) →
      ∀ status : OrderBlockStatus,
      ∀ kept ∈ (selectCandidates candidates).filter (fun c => decide (c.status = status)),
      ∀ dropped ∈ (candidates.filter fun c => decide (c.status = status)).drop 10,
        kept.distancePips pipSize ≤ dropped.distancePips pipSize) ∧
    (buildZoneSummary candidates).map ActiveZoneSummary.orderBlocks =
      (selectCandidates candidates).mapM summarizeCandidate ∧
    ∀ (recordId : String → String → BinaryDirection → Instant → ℚ → ℚ → String)
      (instrument timeframe : String) (closed : List ClosedRow) (rows : List OrderBlockRow),
      buildOrderBlockCandidates recordId instrument timeframe closed rows = .ok candidates →
      (∃ spec, getInstrumentSpec instrument = .ok spec ∧
        candidates.Pairwise fun c d => c.sortKey spec.pipSize ≤ d.sortKey spec.pipSize) ∧
      ∃ summary, buildZoneSummary candidates = .ok summary := by
  refine ⟨selectCandidates_sublist candidates, filter_selectCandidates candidates,
    fun pipSize hordered status kept hkept dropped hdropped =>
      distancePips_le_of_dropped hordered hkept hdropped,
    map_buildZoneSummary candidates, ?_⟩
  intro recordId instrument timeframe closed rows hfound
  obtain ⟨hwell, hordered⟩ := buildOrderBlockCandidates_ok hfound
  exact ⟨hordered, buildZoneSummary_ok hwell⟩

def quietClose : List ClosedRow := [⟨0, 1⟩]

/-- Twelve blocks above one another, the first one at the close. -/
def twelveRows : List OrderBlockRow :=
  (List.range 12).map fun n => ⟨0, some 1, some (2 + n), some (1 + n), none⟩

/-- The candidates of these rows. -/
def twelveBlocks : List OrderBlockCandidate :=
  (List.range 12).map fun n => ⟨"", "EUR_USD", "H1", .BULLISH, 2 + n, 1 + n, 0, .ACTIVE, none, 1⟩

theorem buildZoneSummary_nearest_twelve :
    (∃ summary, buildZoneSummary twelveBlocks = .ok summary) ∧
      ∀ kept ∈ (selectCandidates twelveBlocks).filter (fun c => decide (c.status = .ACTIVE)),
      ∀ dropped ∈ (twelveBlocks.filter fun c => decide (c.status = .ACTIVE)).drop 10,
        kept.distancePips (1 / 10000) ≤ dropped.distancePips (1 / 10000) := by
  obtain ⟨-, -, hnearest, -, hbuilt⟩ := buildZoneSummary_nearest twelveBlocks
  have hfound : buildOrderBlockCandidates (fun _ _ _ _ _ _ => "") "EUR_USD" "H1" quietClose twelveRows =
      .ok twelveBlocks := by decide +kernel
  obtain ⟨-, hsummary⟩ := hbuilt _ _ _ _ _ hfound
  exact ⟨hsummary, hnearest (1 / 10000) (by decide +kernel) .ACTIVE⟩

/-- Twelve unmitigated blocks and two mitigated ones: all but two of the first are published. -/
example :
    let block (status : OrderBlockStatus) (n : ℕ) : OrderBlockCandidate :=
      ⟨toString n, "EUR_USD", "H1", .BULLISH, 2 + n, 1 + n, n, status, none, 1⟩
    let candidates := (List.range 12).map (block .ACTIVE) ++ (List.range 2).map (block .MITIGATED)
    (buildZoneSummary candidates).map (fun summary =>
      summary.orderBlocks.map fun published => published.isMitigated) =
        .ok (List.replicate 10 (some false) ++ List.replicate 2 (some true)) := by
  decide +kernel

end OandaV3
