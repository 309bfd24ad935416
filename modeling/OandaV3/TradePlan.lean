import OandaV3.BotSnapshots

/-! # Trade plans

`.worktrees/scan-force/bot/tradeplan.py` makes a plan for an instrument from its bias and its H1 and M15
snapshots: an entry zone, a stop, a target and what the target pays for the risk; or it says why there is none.

* `TradePlanSummary`: fields that have passed their contract.
* `tradePlan_outcome`: which inputs give a valid plan, which a rejection, and which make the code fail.
* `tradePlan_mirror`: plans to sell are those to buy, in the mirror. -/

namespace OandaV3

open Fallible Mirrors Mirrors.Mirror

/-! ### The contract of a plan -/

/-- The fields of `TradePlanSummary`. -/
structure TradePlanFields where
  instrument : String
  direction : Option TradeDirection := none
  valid : Bool := false
  setup : Option String := none
  triggerTimeframe : Option String := none
  entryLow : Option ℚ := none
  entryHigh : Option ℚ := none
  invalidationPrice : Option ℚ := none
  targetPrice : Option ℚ := none
  rewardRisk : Option ℚ := none
  rationale : List String := []
  rejectionReasons : List String := []
  computedAt : Instant
deriving DecidableEq, Repr

/-- The bounds of the fields of `TradePlanSummary`, and its `validate_contract`. -/
def TradePlanFields.validateContract (p : TradePlanFields) : Except Exn Unit := do
  require (p.entryLow.all fun price => decide (0 < price)) "entry_low must be greater than 0."
  require (p.entryHigh.all fun price => decide (0 < price)) "entry_high must be greater than 0."
  require (p.invalidationPrice.all fun price => decide (0 < price))
    "invalidation_price must be greater than 0."
  require (p.targetPrice.all fun price => decide (0 < price)) "target_price must be greater than 0."
  require (p.rewardRisk.all fun ratio => decide (0 < ratio)) "reward_risk must be greater than 0."
  checkBotInstrument p.instrument
  if p.valid then
    require (p.direction.isSome && p.setup.isSome && p.triggerTimeframe.isSome && p.entryLow.isSome &&
        p.entryHigh.isSome && p.invalidationPrice.isSome && p.targetPrice.isSome && p.rewardRisk.isSome)
      "Valid trade plans must define direction, setup, levels, and RR."
    require (p.entryHigh.all fun high => p.entryLow.all fun low => decide (low ≤ high))
      "entry_high must be greater than or equal to entry_low."
    require p.rejectionReasons.isEmpty "Valid trade plans must not define rejection_reasons."
  else
    require (!p.rejectionReasons.isEmpty) "Invalid trade plans must define rejection_reasons."

/-- A validated `TradePlanSummary`. -/
structure TradePlanSummary extends TradePlanFields where
  contract : toTradePlanFields.validateContract = .ok ()
deriving DecidableEq

/-- How `build_trade_plan` fails: an `assert`, or an exception of the models. -/
inductive PlanError where
  | assertionError
  | exn (e : Exn)
deriving DecidableEq, Repr

/-- `TradePlanSummary(...)`. -/
def TradePlanFields.validate (p : TradePlanFields) : Except PlanError TradePlanSummary :=
  (validated p.validateContract fun contract => (⟨p, contract⟩ : TradePlanSummary)).mapError .exn

/-! ### Triggers -/

/-- What `_select_trigger` returns. -/
structure PlanTrigger where
  setup : String
  timeframe : String
  entryLow : ℚ
  entryHigh : ℚ
  invalidation : ℚ
deriving DecidableEq, Repr

def TradeDirection.pattern : TradeDirection → BinaryDirection
  | .LONG => .BULLISH
  | .SHORT => .BEARISH

/-- `a or b` of two prices: a zero counts as missing. -/
def orPrice (a b : ℚ) : ℚ := if a = 0 then b else a

def orderBlockTrigger (direction : TradeDirection) (timeframe : String) (block : OrderBlockSummary) :
    PlanTrigger where
  setup := "Order-block retest"
  timeframe
  entryLow := min block.lowerPrice block.upperPrice
  entryHigh := max block.lowerPrice block.upperPrice
  invalidation :=
    match direction with
    | .LONG => block.lowerPrice
    | .SHORT => block.upperPrice

/-- The confirmation of a false breakout. -/
def sweepTrigger (setup : String) (direction : TradeDirection) (timeframe : String) (event : SweepEvent) :
    PlanTrigger :=
  let reference := orPrice (orPrice event.referenceLevel event.closePrice) event.sweepPrice
  let close := orPrice (orPrice event.closePrice event.referenceLevel) event.sweepPrice
  let entryLow := min reference close
  let entryHigh := max reference close
  { setup
    timeframe
    entryLow
    entryHigh
    invalidation :=
      match direction with
      | .LONG => min entryLow (orPrice event.sweepPrice entryLow)
      | .SHORT => max entryHigh (orPrice event.sweepPrice entryHigh) }

/-- The body of the loop of `_select_trigger`. -/
def snapshotTrigger (direction : TradeDirection) (timeframe : String) (snapshot : BotSnapshot) :
    Option PlanTrigger :=
  match snapshot.orderBlocks.find? fun block => block.direction == direction.pattern with
  | some block => some (orderBlockTrigger direction timeframe block)
  | none =>
      match snapshot.sfp.filter fun event => event.direction == direction.pattern with
      | some event => some (sweepTrigger "SFP confirmation" direction timeframe event)
      | none =>
          match snapshot.turtleSoup.filter fun event => event.direction == direction.pattern with
          | some event => some (sweepTrigger "Turtle Soup confirmation" direction timeframe event.toSweepEvent)
          | none => none

/-- `_select_trigger`. -/
def selectTrigger (direction : TradeDirection) (h1 m15 : BotSnapshot) : Option PlanTrigger :=
  [("M15", m15), ("H1", h1)].findSome? fun (timeframe, snapshot) =>
    snapshotTrigger direction timeframe snapshot

/-! ### Targets -/

/-- The price is beyond another one, in the direction of the trade. -/
def TradeDirection.beyond : TradeDirection → ℚ → ℚ → Bool
  | .LONG, reference, price => decide (reference < price)
  | .SHORT, reference, price => decide (price < reference)

/-- The end of the entry zone that the target is measured from. -/
def PlanTrigger.reference (trigger : PlanTrigger) : TradeDirection → ℚ
  | .LONG => trigger.entryHigh
  | .SHORT => trigger.entryLow

/-- The levels of a snapshot that may be a target, on either side of the entry. -/
def snapshotTargets (direction : TradeDirection) (snapshot : BotSnapshot) : List ℚ :=
  let previous := snapshot.smcContext.previousHighLow
  match direction with
  | .LONG =>
      (previous.bind fun p => p.previousHigh).toList ++
        (snapshot.liquidity.levels.filter fun level => level.side == .SELL_SIDE).map (fun level => level.price) ++
        (snapshot.structureEvents.latestSwingHigh.map fun swing => swing.level).toList
  | .SHORT =>
      (previous.bind fun p => p.previousLow).toList ++
        (snapshot.liquidity.levels.filter fun level => level.side == .BUY_SIDE).map (fun level => level.price) ++
        (snapshot.structureEvents.latestSwingLow.map fun swing => swing.level).toList

/-- `_select_target_price`. -/
def selectTargetPrice (direction : TradeDirection) (h1 m15 : BotSnapshot) (trigger : PlanTrigger) : Option ℚ :=
  let candidates := (snapshotTargets direction m15 ++ snapshotTargets direction h1).filter
    (direction.beyond (trigger.reference direction))
  match direction with
  | .LONG => candidates.min?
  | .SHORT => candidates.max?

/-- `_compute_reward_risk`. -/
def computeRewardRisk (direction : TradeDirection) (trigger : PlanTrigger) (targetPrice : ℚ) : Option ℚ :=
  let entryMid := (trigger.entryLow + trigger.entryHigh) / 2
  let risk :=
    match direction with
    | .LONG => entryMid - trigger.invalidation
    | .SHORT => trigger.invalidation - entryMid
  let reward :=
    match direction with
    | .LONG => targetPrice - entryMid
    | .SHORT => entryMid - targetPrice
  if risk ≤ 0 ∨ reward ≤ 0 then none else some (reward / risk)

/-! ### The plan -/

def Direction.trade : Direction → Option TradeDirection
  | .NEUTRAL => none
  | .BULLISH => some .LONG
  | .BEARISH => some .SHORT

def Direction.text : Direction → String
  | .NEUTRAL => "NEUTRAL"
  | .BULLISH => "BULLISH"
  | .BEARISH => "BEARISH"

/-- What `build_trade_plan` reads. -/
structure PlanInput where
  instrument : String
  createdAt : Instant
  bias : Direction
  h1 : BotSnapshot
  m15 : BotSnapshot

namespace PlanInput

variable (input : PlanInput)

def computedAt : Instant := max (max input.createdAt input.h1.computedAt) input.m15.computedAt

def trigger : Option PlanTrigger :=
  input.bias.trade.bind fun direction => selectTrigger direction input.h1 input.m15

def targetPrice : Option ℚ :=
  input.bias.trade.bind fun direction =>
    input.trigger.bind fun trigger => selectTargetPrice direction input.h1 input.m15 trigger

def rewardRisk : Option ℚ :=
  input.bias.trade.bind fun direction =>
    input.trigger.bind fun trigger =>
      input.targetPrice.bind fun targetPrice => computeRewardRisk direction trigger targetPrice

/-- `rejection_reasons`. -/
def rejectionReasons : List String :=
  (if input.bias = .NEUTRAL then ["HTF bias is neutral."] else []) ++
  (if !input.h1.spreadAcceptable || !input.m15.spreadAcceptable then ["Spread gate rejected the setup."]
    else []) ++
  (if input.h1.chop = .REJECT ∨ input.m15.chop = .REJECT then ["Chop filter rejected the setup."] else []) ++
  (if input.trigger = none then ["No qualifying trigger was found on H1 or M15."] else []) ++
  (if input.bias.trade.isSome ∧ input.targetPrice = none then ["No read-only target level was available."]
    else []) ++
  (if input.bias.trade.isSome ∧ input.rewardRisk.any (fun ratio => ratio < 1) then
    ["Reward/risk is below 1.0."] else [])

def rejectedFields : TradePlanFields where
  instrument := input.instrument
  rejectionReasons := input.rejectionReasons
  computedAt := input.computedAt

def validFields (direction : TradeDirection) (trigger : PlanTrigger) (targetPrice rewardRisk : ℚ) :
    TradePlanFields where
  instrument := input.instrument
  direction := some direction
  valid := true
  setup := some trigger.setup
  triggerTimeframe := some trigger.timeframe
  entryLow := some trigger.entryLow
  entryHigh := some trigger.entryHigh
  invalidationPrice := some trigger.invalidation
  targetPrice := some targetPrice
  rewardRisk := some rewardRisk
  rationale := ["HTF bias " ++ input.bias.text ++ ".", trigger.setup]
  computedAt := input.computedAt

/-- The fields that `build_trade_plan` passes to the contract. -/
def fields : Except PlanError TradePlanFields :=
  if input.rejectionReasons ≠ [] then .ok input.rejectedFields
  else
    match input.bias.trade, input.trigger, input.targetPrice, input.rewardRisk with
    | some direction, some trigger, some targetPrice, some rewardRisk =>
        .ok (input.validFields direction trigger targetPrice rewardRisk)
    | _, _, _, _ => .error .assertionError

end PlanInput

/-- `build_trade_plan`. -/
def buildTradePlan (input : PlanInput) : Except PlanError TradePlanSummary := do
  let fields ← input.fields
  fields.validate

/-! ### What a trigger and a target are -/

section levels

variable {direction : TradeDirection} {timeframe : String} {snapshot h1 m15 : BotSnapshot} {trigger : PlanTrigger}
  {target ratio : ℚ}

/-- The stop is outside the entry zone, or at its end. -/
def PlanTrigger.Stopped (trigger : PlanTrigger) : TradeDirection → Prop
  | .LONG => trigger.invalidation ≤ trigger.entryLow
  | .SHORT => trigger.entryHigh ≤ trigger.invalidation

/-- The entry zone is one price, and the stop is on it. -/
def PlanTrigger.Flat (trigger : PlanTrigger) : Prop :=
  trigger.entryLow = trigger.entryHigh ∧ trigger.invalidation = trigger.entryLow

/-- The middle of the entry zone. -/
def PlanTrigger.entryMid (trigger : PlanTrigger) : ℚ := (trigger.entryLow + trigger.entryHigh) / 2

theorem lower_le_upper (block : OrderBlockSummary) : block.lowerPrice ≤ block.upperPrice := by
  have h := block.contract
  simp only [OrderBlockSummaryFields.validateContract, require] at h
  obtain ⟨-, -, h⟩ := bind_eq_ok.mp h
  split_ifs at h with hbounds
  exact of_decide_eq_true hbounds

theorem orderBlockTrigger_zone (direction : TradeDirection) (timeframe : String) (block : OrderBlockSummary) :
    (orderBlockTrigger direction timeframe block).entryLow ≤ (orderBlockTrigger direction timeframe block).entryHigh ∧
      (orderBlockTrigger direction timeframe block).Stopped direction := by
  refine ⟨min_le_max, ?_⟩
  cases direction with
  | LONG => exact le_min le_rfl (lower_le_upper block)
  | SHORT => exact max_le (lower_le_upper block) le_rfl

theorem sweepTrigger_zone (setup : String) (direction : TradeDirection) (timeframe : String) (event : SweepEvent) :
    (sweepTrigger setup direction timeframe event).entryLow ≤ (sweepTrigger setup direction timeframe event).entryHigh ∧
      (sweepTrigger setup direction timeframe event).Stopped direction := by
  refine ⟨min_le_max, ?_⟩
  cases direction with
  | LONG => exact min_le_left _ _
  | SHORT => exact le_max_left _ _

/-- A trigger is the retest of an order block or the confirmation of a false breakout, of its direction. -/
theorem snapshotTrigger_cases (h : snapshotTrigger direction timeframe snapshot = some trigger) :
    (∃ block ∈ snapshot.orderBlocks, block.direction = direction.pattern ∧
        trigger = orderBlockTrigger direction timeframe block) ∨
      (∃ event, snapshot.sfp = some event ∧ event.direction = direction.pattern ∧
        trigger = sweepTrigger "SFP confirmation" direction timeframe event) ∨
      ∃ event, snapshot.turtleSoup = some event ∧ event.direction = direction.pattern ∧
        trigger = sweepTrigger "Turtle Soup confirmation" direction timeframe event.toSweepEvent := by
  unfold snapshotTrigger at h
  split at h
  case h_1 block hblock =>
    exact .inl ⟨block, List.mem_of_find?_eq_some hblock, eq_of_beq (List.find?_some hblock :),
      (Option.some.inj h).symm⟩
  case h_2 =>
    split at h
    case h_1 event hevent =>
      obtain ⟨hsfp, hdirection⟩ := Option.filter_eq_some_iff.mp hevent
      exact .inr (.inl ⟨event, hsfp, eq_of_beq hdirection, (Option.some.inj h).symm⟩)
    case h_2 =>
      split at h
      case h_1 event hevent =>
        obtain ⟨hturtle, hdirection⟩ := Option.filter_eq_some_iff.mp hevent
        exact .inr (.inr ⟨event, hturtle, eq_of_beq hdirection, (Option.some.inj h).symm⟩)
      case h_2 => cases h

theorem snapshotTrigger_zone (h : snapshotTrigger direction timeframe snapshot = some trigger) :
    trigger.entryLow ≤ trigger.entryHigh ∧ trigger.Stopped direction := by
  obtain ⟨block, -, -, rfl⟩ | ⟨event, -, -, rfl⟩ | ⟨event, -, -, rfl⟩ := snapshotTrigger_cases h
  · exact orderBlockTrigger_zone direction timeframe block
  · exact sweepTrigger_zone _ direction timeframe event
  · exact sweepTrigger_zone _ direction timeframe event.toSweepEvent

/-- The trigger of the M15 snapshot comes first. -/
theorem selectTrigger_eq_some : selectTrigger direction h1 m15 = some trigger ↔
    snapshotTrigger direction "M15" m15 = some trigger ∨
      snapshotTrigger direction "M15" m15 = none ∧ snapshotTrigger direction "H1" h1 = some trigger := by
  unfold selectTrigger
  cases hm15 : snapshotTrigger direction "M15" m15 with
  | none => cases hh1 : snapshotTrigger direction "H1" h1 <;> simp [hm15, hh1]
  | some found => simp [hm15]

theorem selectTrigger_zone (h : selectTrigger direction h1 m15 = some trigger) :
    trigger.entryLow ≤ trigger.entryHigh ∧ trigger.Stopped direction := by
  obtain h | ⟨-, h⟩ := selectTrigger_eq_some.mp h
  · exact snapshotTrigger_zone h
  · exact snapshotTrigger_zone h

/-- The target is the nearest level beyond the entry zone. -/
structure NearestTarget (direction : TradeDirection) (h1 m15 : BotSnapshot) (trigger : PlanTrigger)
    (target : ℚ) : Prop where
  level : target ∈ snapshotTargets direction m15 ++ snapshotTargets direction h1
  beyond : direction.beyond (trigger.reference direction) target = true
  nearest : ∀ other ∈ snapshotTargets direction m15 ++ snapshotTargets direction h1,
    direction.beyond (trigger.reference direction) other = true → direction.beyond other target = false

theorem selectTargetPrice_eq_some : selectTargetPrice direction h1 m15 trigger = some target ↔
    NearestTarget direction h1 m15 trigger target := by
  have hspec : ∀ (targets : List ℚ), target ∈ targets ∧ (∀ other ∈ targets, direction.beyond other target = false) ↔
      (match direction with
        | .LONG => targets.min?
        | .SHORT => targets.max?) = some target := by
    intro targets
    cases direction with
    | LONG => simp [List.min?_eq_some_iff, TradeDirection.beyond]
    | SHORT => simp [List.max?_eq_some_iff, TradeDirection.beyond]
  unfold selectTargetPrice
  rw [← hspec]
  simp only [List.mem_filter]
  exact ⟨fun h => ⟨h.1.1, h.1.2, fun other hother hbeyond => h.2 other ⟨hother, hbeyond⟩⟩,
    fun h => ⟨⟨h.level, h.beyond⟩, fun other hother => h.nearest other hother.1 hother.2⟩⟩

/-- The target pays the ratio for the risk. -/
def PlanTrigger.Pays (trigger : PlanTrigger) (target ratio : ℚ) : Prop :=
  ratio * |trigger.entryMid - trigger.invalidation| = |target - trigger.entryMid|

theorem PlanTrigger.entryMid_mem (h : trigger.entryLow ≤ trigger.entryHigh) :
    trigger.entryLow ≤ trigger.entryMid ∧ trigger.entryMid ≤ trigger.entryHigh := by
  unfold PlanTrigger.entryMid
  constructor
  · linarith
  · linarith

/-- The stop is at the middle of the zone only if the zone is flat. -/
theorem PlanTrigger.flat_of_mid (hzone : trigger.entryLow ≤ trigger.entryHigh)
    (hstop : trigger.Stopped direction) (hmid : trigger.entryMid = trigger.invalidation) : trigger.Flat := by
  unfold PlanTrigger.entryMid at hmid
  cases direction with
  | LONG =>
      have hlow : trigger.invalidation ≤ trigger.entryLow := hstop
      exact ⟨by linarith, by linarith⟩
  | SHORT =>
      have hhigh : trigger.entryHigh ≤ trigger.invalidation := hstop
      exact ⟨by linarith, by linarith⟩

/-- There is a ratio unless the zone is flat. -/
theorem computeRewardRisk_cases (hzone : trigger.entryLow ≤ trigger.entryHigh) (hstop : trigger.Stopped direction)
    (hbeyond : direction.beyond (trigger.reference direction) target = true) :
    (trigger.Flat ∧ computeRewardRisk direction trigger target = none) ∨
      ¬ trigger.Flat ∧ ∃ ratio, computeRewardRisk direction trigger target = some ratio ∧ 0 < ratio ∧
        trigger.Pays target ratio := by
  obtain ⟨hlow, hhigh⟩ := PlanTrigger.entryMid_mem hzone
  by_cases hflat : trigger.Flat
  · refine .inl ⟨hflat, if_pos (.inl ?_)⟩
    obtain ⟨hpoint, hstopped⟩ := hflat
    cases direction with
    | LONG =>
        show (trigger.entryLow + trigger.entryHigh) / 2 - trigger.invalidation ≤ 0
        linarith
    | SHORT =>
        show trigger.invalidation - (trigger.entryLow + trigger.entryHigh) / 2 ≤ 0
        linarith
  · have hne : trigger.entryMid ≠ trigger.invalidation :=
      fun hmid => hflat (PlanTrigger.flat_of_mid hzone hstop hmid)
    refine .inr ⟨hflat, ?_⟩
    cases direction with
    | LONG =>
        have hstopped : trigger.invalidation ≤ trigger.entryLow := hstop
        have htarget : trigger.entryHigh < target := of_decide_eq_true hbeyond
        have hrisk : 0 < trigger.entryMid - trigger.invalidation :=
          sub_pos.mpr (lt_of_le_of_ne (hstopped.trans hlow) hne.symm)
        have hreward : 0 < target - trigger.entryMid := by linarith
        refine ⟨_, if_neg (not_or.mpr ⟨not_le.mpr hrisk, not_le.mpr hreward⟩), div_pos hreward hrisk, ?_⟩
        unfold PlanTrigger.Pays
        rw [abs_of_pos hrisk, abs_of_pos hreward]
        exact div_mul_cancel₀ _ hrisk.ne'
    | SHORT =>
        have hstopped : trigger.entryHigh ≤ trigger.invalidation := hstop
        have htarget : target < trigger.entryLow := of_decide_eq_true hbeyond
        have hrisk : 0 < trigger.invalidation - trigger.entryMid :=
          sub_pos.mpr (lt_of_le_of_ne (hhigh.trans hstopped) hne)
        have hreward : 0 < trigger.entryMid - target := by linarith
        refine ⟨_, if_neg (not_or.mpr ⟨not_le.mpr hrisk, not_le.mpr hreward⟩), div_pos hreward hrisk, ?_⟩
        unfold PlanTrigger.Pays
        rw [abs_sub_comm, abs_of_pos hrisk, abs_sub_comm, abs_of_pos hreward]
        exact div_mul_cancel₀ _ hrisk.ne'

end levels

/-! ### When there is a plan -/

theorem Direction.exists_trade {bias : Direction} (h : bias ≠ .NEUTRAL) :
    ∃ direction, bias.trade = some direction := by
  cases bias with
  | BULLISH => exact ⟨.LONG, rfl⟩
  | BEARISH => exact ⟨.SHORT, rfl⟩
  | NEUTRAL => exact absurd rfl h

namespace PlanInput

variable {input : PlanInput} {direction : TradeDirection} {trigger : PlanTrigger} {target ratio : ℚ}

/-- The bias has a direction, no gate rejects, and there are a trigger and a target. -/
structure Setup (input : PlanInput) (direction : TradeDirection) (trigger : PlanTrigger) (target : ℚ) :
    Prop where
  bias : input.bias.trade = some direction
  spread : input.h1.spreadAcceptable = true ∧ input.m15.spreadAcceptable = true
  chop : input.h1.chop ≠ .REJECT ∧ input.m15.chop ≠ .REJECT
  first : snapshotTrigger direction "M15" input.m15 = some trigger ∨
    snapshotTrigger direction "M15" input.m15 = none ∧ snapshotTrigger direction "H1" input.h1 = some trigger
  nearest : NearestTarget direction input.h1 input.m15 trigger target

/-- Besides, the target pays at least what is risked. -/
structure Accepts (input : PlanInput) (direction : TradeDirection) (trigger : PlanTrigger) (target ratio : ℚ) :
    Prop extends input.Setup direction trigger target where
  notFlat : ¬ trigger.Flat
  pays : trigger.Pays target ratio
  enough : 1 ≤ ratio

theorem Setup.zone (h : input.Setup direction trigger target) :
    trigger.entryLow ≤ trigger.entryHigh ∧ trigger.Stopped direction :=
  selectTrigger_zone (selectTrigger_eq_some.mpr h.first)

theorem Setup.found (h : input.Setup direction trigger target) :
    input.trigger = some trigger ∧ input.targetPrice = some target ∧
      input.rewardRisk = computeRewardRisk direction trigger target := by
  have htrigger : input.trigger = some trigger := by
    rw [PlanInput.trigger, h.bias]
    exact selectTrigger_eq_some.mpr h.first
  have htarget : input.targetPrice = some target := by
    rw [PlanInput.targetPrice, h.bias, htrigger]
    exact selectTargetPrice_eq_some.mpr h.nearest
  refine ⟨htrigger, htarget, ?_⟩
  rw [PlanInput.rewardRisk, h.bias, htrigger, htarget]
  rfl

/-- There is a setup when the bias has a direction, the gates are open, and a trigger and a target are found. -/
theorem exists_setup (hbias : input.bias ≠ .NEUTRAL)
    (hspread : ¬ ((!input.h1.spreadAcceptable || !input.m15.spreadAcceptable) = true))
    (hchop : ¬ (input.h1.chop = .REJECT ∨ input.m15.chop = .REJECT)) (htrigger : ¬ input.trigger = none)
    (htarget : ¬ (input.bias.trade.isSome ∧ input.targetPrice = none)) :
    ∃ direction trigger target, input.Setup direction trigger target := by
  obtain ⟨direction, hdirection⟩ := Direction.exists_trade hbias
  obtain ⟨trigger, hfound⟩ := Option.ne_none_iff_exists'.mp htrigger
  obtain ⟨target, hlevel⟩ := Option.ne_none_iff_exists'.mp fun hnone =>
    htarget ⟨by rw [hdirection]; rfl, hnone⟩
  refine ⟨direction, trigger, target, hdirection, by simpa using hspread, not_or.mp hchop, ?_, ?_⟩
  · rw [PlanInput.trigger, hdirection] at hfound
    exact selectTrigger_eq_some.mp hfound
  · rw [PlanInput.targetPrice, hdirection, hfound] at hlevel
    exact selectTargetPrice_eq_some.mp hlevel

theorem rejectionReasons_eq_nil : input.rejectionReasons = [] ↔
    ∃ direction trigger target, input.Setup direction trigger target ∧
      ∀ ratio, input.rewardRisk = some ratio → 1 ≤ ratio := by
  simp only [rejectionReasons, List.append_eq_nil_iff, ite_eq_right_iff, List.cons_ne_nil, imp_false]
  constructor
  · rintro ⟨⟨⟨⟨⟨hbias, hspread⟩, hchop⟩, htrigger⟩, htarget⟩, hratio⟩
    obtain ⟨direction, trigger, target, h⟩ := exists_setup hbias hspread hchop htrigger htarget
    refine ⟨direction, trigger, target, h, fun ratio hfound => ?_⟩
    rw [h.bias, hfound] at hratio
    simpa using hratio
  · rintro ⟨direction, trigger, target, h, hratio⟩
    obtain ⟨htrigger, htarget, -⟩ := h.found
    have hbias : input.bias ≠ .NEUTRAL := by
      intro hneutral
      have hnone := h.bias
      rw [hneutral] at hnone
      cases hnone
    refine ⟨⟨⟨⟨⟨hbias, ?_⟩, not_or.mpr h.chop⟩, ?_⟩, ?_⟩, ?_⟩
    · simp [h.spread]
    · simp [htrigger]
    · simp [htarget]
    · rintro ⟨-, hlow⟩
      cases hfound : input.rewardRisk with
      | none => simp [hfound] at hlow
      | some ratio =>
          have hlt : ratio < 1 := by simpa [hfound] using hlow
          exact absurd (hratio ratio hfound) (not_le.mpr hlt)

theorem Setup.flat_or_pays (h : input.Setup direction trigger target) :
    (trigger.Flat ∧ input.rewardRisk = none) ∨
      ¬ trigger.Flat ∧ ∃ ratio, input.rewardRisk = some ratio ∧ 0 < ratio ∧ trigger.Pays target ratio := by
  rw [h.found.2.2]
  exact computeRewardRisk_cases h.zone.1 h.zone.2 h.nearest.beyond

/-- What the code makes of an input: it fails on a flat setup, and plans or rejects the others. -/
theorem fields_cases (input : PlanInput) :
    (∃ direction trigger target, input.Setup direction trigger target ∧ trigger.Flat ∧
        input.fields = .error .assertionError) ∨
      (∃ direction trigger target ratio, input.Accepts direction trigger target ratio ∧
        input.fields = .ok (input.validFields direction trigger target ratio)) ∨
      input.rejectionReasons ≠ [] ∧ input.fields = .ok input.rejectedFields := by
  by_cases hreasons : input.rejectionReasons = []
  · obtain ⟨direction, trigger, target, h, hratio⟩ := rejectionReasons_eq_nil.mp hreasons
    obtain ⟨htrigger, htarget, -⟩ := h.found
    have hfields : input.fields = input.rewardRisk.elim (.error .assertionError)
        fun ratio => .ok (input.validFields direction trigger target ratio) := by
      rw [fields, if_neg (not_not.mpr hreasons), h.bias, htrigger, htarget]
      cases input.rewardRisk <;> rfl
    obtain ⟨hflat, hnone⟩ | ⟨hflat, ratio, hsome, -, hpays⟩ := h.flat_or_pays
    · exact .inl ⟨direction, trigger, target, h, hflat, by rw [hfields, hnone, Option.elim_none]⟩
    · refine .inr (.inl ⟨direction, trigger, target, ratio, ?_, by rw [hfields, hsome, Option.elim_some]⟩)
      exact { h with notFlat := hflat, pays := hpays, enough := hratio ratio hsome }
  · exact .inr (.inr ⟨hreasons, if_pos hreasons⟩)

theorem fields_of_flat (h : input.Setup direction trigger target) (hflat : trigger.Flat) :
    input.fields = .error .assertionError := by
  obtain ⟨-, hnone⟩ | ⟨hnot, -⟩ := h.flat_or_pays
  · have hreasons : input.rejectionReasons = [] :=
      rejectionReasons_eq_nil.mpr ⟨direction, trigger, target, h, fun ratio hsome => by simp [hnone] at hsome⟩
    rw [fields, if_neg (not_not.mpr hreasons), h.bias, h.found.1, h.found.2.1, hnone]
  · exact absurd hflat hnot

theorem fields_of_accepts (h : input.Accepts direction trigger target ratio) :
    input.fields = .ok (input.validFields direction trigger target ratio) := by
  obtain ⟨hflat, -⟩ | ⟨hflat, ratio', hsome, -, hpays⟩ := h.toSetup.flat_or_pays
  · exact absurd hflat h.notFlat
  · have hrisk : |trigger.entryMid - trigger.invalidation| ≠ 0 := by
      refine abs_ne_zero.mpr (sub_ne_zero.mpr fun hmid => hflat ?_)
      exact PlanTrigger.flat_of_mid h.zone.1 h.zone.2 hmid
    obtain rfl : ratio' = ratio := mul_right_cancel₀ hrisk (hpays.trans h.pays.symm)
    have hreasons : input.rejectionReasons = [] := by
      refine rejectionReasons_eq_nil.mpr ⟨direction, trigger, target, h.toSetup, fun found hfound => ?_⟩
      obtain rfl := Option.some.inj (hsome.symm.trans hfound)
      exact h.enough
    rw [fields, if_neg (not_not.mpr hreasons), h.bias, h.toSetup.found.1, h.toSetup.found.2.1, hsome]

end PlanInput

/-! ### The contract -/

section contract

variable {input : PlanInput} {direction : TradeDirection} {trigger : PlanTrigger} {target ratio : ℚ}

theorem require_bind {α : Type} {check : Bool} {message : String} {f : Unit → Except Exn α} {a : α} :
    (require check message >>= f) = .ok a ↔ check = true ∧ f () = .ok a := by
  cases check with
  | true => exact (and_iff_right rfl).symm
  | false => exact iff_of_false nofun (fun h => Bool.false_ne_true h.1)

theorem require_eq_ok {check : Bool} {message : String} : require check message = .ok () ↔ check = true := by
  cases check with
  | true => exact iff_of_true rfl rfl
  | false => exact iff_of_false nofun nofun

theorem checkBotInstrument_bind {α : Type} {instrument : String} {f : Unit → Except Exn α} {a : α} :
    (checkBotInstrument instrument >>= f) = .ok a ↔ instrument ∈ botScanInstruments ∧ f () = .ok a := by
  unfold checkBotInstrument
  split_ifs with h
  · exact (and_iff_right h).symm
  · exact iff_of_false nofun (fun hboth => h hboth.1)

theorem rejectedFields_contract (hreasons : input.rejectionReasons ≠ []) :
    input.rejectedFields.validateContract = .ok () ↔ input.instrument ∈ botScanInstruments := by
  simp only [TradePlanFields.validateContract, require_bind, checkBotInstrument_bind]
  simp [PlanInput.rejectedFields, require, hreasons]

theorem validFields_contract (h : input.Accepts direction trigger target ratio) :
    (input.validFields direction trigger target ratio).validateContract = .ok () ↔
      input.instrument ∈ botScanInstruments ∧ 0 < trigger.entryLow ∧ 0 < trigger.invalidation ∧ 0 < target := by
  have hzone := h.zone.1
  have hratio : 0 < ratio := zero_lt_one.trans_le h.enough
  simp only [TradePlanFields.validateContract, require_bind, checkBotInstrument_bind]
  simp only [PlanInput.validFields, Option.all_some, decide_eq_true_eq, if_true, require_bind, require_eq_ok]
  simp only [Option.isSome_some, Bool.and_self, hzone, List.isEmpty_nil, hratio, true_and, and_true]
  constructor
  · rintro ⟨hlow, -, hstop, htarget, hsupported⟩
    exact ⟨hsupported, hlow, hstop, htarget⟩
  · rintro ⟨hsupported, hlow, hstop, htarget⟩
    exact ⟨hlow, hlow.trans_le hzone, hstop, htarget, hsupported⟩

theorem validate_eq_ok {p : TradePlanFields} {plan : TradePlanSummary} :
    p.validate = .ok plan ↔ plan.toTradePlanFields = p := by
  unfold TradePlanFields.validate
  constructor
  · intro h
    cases hvalid : validated p.validateContract fun contract => (⟨p, contract⟩ : TradePlanSummary) with
    | error e =>
        rw [hvalid] at h
        cases h
    | ok found =>
        rw [hvalid] at h
        obtain rfl := Except.ok.inj h
        obtain ⟨-, rfl⟩ := validated_eq_ok.mp hvalid
        rfl
  · rintro rfl
    rw [validated_of_ok plan.contract]
    rfl

theorem validate_eq_error {p : TradePlanFields} {e : PlanError} (h : p.validate = .error e) :
    e ≠ .assertionError ∧ p.validateContract ≠ .ok () := by
  unfold TradePlanFields.validate at h
  cases hcheck : p.validateContract with
  | ok u =>
      rw [validated_of_ok hcheck] at h
      cases h
  | error e' =>
      refine ⟨?_, nofun⟩
      rintro rfl
      cases hvalid : validated p.validateContract fun contract => (⟨p, contract⟩ : TradePlanSummary) with
      | error e =>
          rw [hvalid] at h
          cases h
      | ok found =>
          rw [hvalid] at h
          cases h

end contract

/-- What `build_trade_plan` makes of any input.  It fails its assertions exactly on a flat setup; it gives a valid
plan exactly for an accepted setup, whose prices and text the plan shows; any other plan it gives is a rejection
of an input without an accepted setup; and the contract refuses only unsupported instruments, and accepted setups
with a price that is not positive. -/
theorem tradePlan_outcome (input : PlanInput) :
    (buildTradePlan input = .error .assertionError ↔
      ∃ direction trigger target, input.Setup direction trigger target ∧ trigger.Flat) ∧
    (∀ plan, buildTradePlan input = .ok plan ∧ plan.valid = true ↔
      ∃ direction trigger target ratio, input.Accepts direction trigger target ratio ∧
        plan.toTradePlanFields = input.validFields direction trigger target ratio) ∧
    (∀ plan, buildTradePlan input = .ok plan → plan.valid = false →
      plan.toTradePlanFields = input.rejectedFields ∧ input.rejectionReasons ≠ [] ∧
        ¬ ∃ direction trigger target ratio, input.Accepts direction trigger target ratio) ∧
    (∀ e, buildTradePlan input = .error (.exn e) → input.instrument ∉ botScanInstruments ∨
      ∃ direction trigger target ratio, input.Accepts direction trigger target ratio ∧
        ¬ (0 < trigger.entryLow ∧ 0 < trigger.invalidation ∧ 0 < target)) := by
  have hbuild : buildTradePlan input = input.fields >>= TradePlanFields.validate := rfl
  refine ⟨⟨fun h => ?_, ?_⟩, fun plan => ⟨?_, ?_⟩, fun plan h hvalid => ?_, fun e h => ?_⟩
  · obtain ⟨direction, trigger, target, hsetup, hflat, -⟩ | ⟨_, _, _, _, -, hfields⟩ | ⟨-, hfields⟩ :=
      input.fields_cases
    · exact ⟨direction, trigger, target, hsetup, hflat⟩
    · rw [hbuild, hfields] at h
      exact absurd rfl (validate_eq_error h).1
    · rw [hbuild, hfields] at h
      exact absurd rfl (validate_eq_error h).1
  · rintro ⟨direction, trigger, target, hsetup, hflat⟩
    rw [hbuild, PlanInput.fields_of_flat hsetup hflat]
    rfl
  · rintro ⟨h, hvalid⟩
    obtain ⟨_, _, _, -, -, hfields⟩ | ⟨direction, trigger, target, ratio, haccepts, hfields⟩ | ⟨-, hfields⟩ :=
      input.fields_cases
    · rw [hbuild, hfields] at h
      cases h
    · rw [hbuild, hfields] at h
      exact ⟨direction, trigger, target, ratio, haccepts, validate_eq_ok.mp h⟩
    · rw [hbuild, hfields] at h
      rw [validate_eq_ok.mp h] at hvalid
      cases hvalid
  · rintro ⟨direction, trigger, target, ratio, haccepts, hplan⟩
    refine ⟨?_, by rw [hplan]; rfl⟩
    rw [hbuild, PlanInput.fields_of_accepts haccepts]
    exact validate_eq_ok.mpr hplan
  · obtain ⟨_, _, _, -, -, hfields⟩ | ⟨_, _, _, _, -, hfields⟩ | ⟨hreasons, hfields⟩ := input.fields_cases
    · rw [hbuild, hfields] at h
      cases h
    · rw [hbuild, hfields] at h
      rw [validate_eq_ok.mp h] at hvalid
      cases hvalid
    · rw [hbuild, hfields] at h
      refine ⟨validate_eq_ok.mp h, hreasons, ?_⟩
      rintro ⟨direction, trigger, target, ratio, haccepts⟩
      have hvalid' := PlanInput.fields_of_accepts haccepts
      rw [hfields] at hvalid'
      exact absurd (congrArg TradePlanFields.valid (Except.ok.inj hvalid')) Bool.false_ne_true
  · obtain ⟨_, _, _, -, -, hfields⟩ | ⟨direction, trigger, target, ratio, haccepts, hfields⟩ |
      ⟨hreasons, hfields⟩ := input.fields_cases
    · rw [hbuild, hfields] at h
      cases h
    · rw [hbuild, hfields] at h
      have hcontract := (validFields_contract haccepts).not.mp (validate_eq_error h).2
      by_cases hsupported : input.instrument ∈ botScanInstruments
      · exact .inr ⟨direction, trigger, target, ratio, haccepts, fun hprices => hcontract ⟨hsupported, hprices⟩⟩
      · exact .inl hsupported
    · rw [hbuild, hfields] at h
      exact .inl ((rejectedFields_contract hreasons).not.mp (validate_eq_error h).2)

/-! ### Snapshots that the detectors made -/

/-- The events of the snapshot are those of the detectors, its order blocks have a height, and the prices that a
plan reads are positive. -/
structure BotSnapshot.Detected (snapshot : BotSnapshot) : Prop where
  sfp : ∃ smc candles tf nowUtc swingLength,
    detectSfp smc candles tf nowUtc swingLength = .ok snapshot.sfp
  turtleSoup : ∃ candles tf nowUtc lookbackBars,
    detectTurtleSoup candles tf nowUtc lookbackBars = .ok snapshot.turtleSoup
  blocks : ∀ block ∈ snapshot.orderBlocks, 0 < block.lowerPrice ∧ block.lowerPrice < block.upperPrice
  sfpPrices : ∀ event ∈ snapshot.sfp, event.Positive
  turtleSoupPrices : ∀ event ∈ snapshot.turtleSoup, event.Positive
  targets : ∀ direction, ∀ price ∈ snapshotTargets direction snapshot, 0 < price

section detected

variable {direction : TradeDirection} {timeframe setup : String} {snapshot : BotSnapshot} {trigger : PlanTrigger}
  {event : SweepEvent} {input : PlanInput}

theorem orPrice_of_pos {a b : ℚ} (h : 0 < a) : orPrice a b = a := if_neg h.ne'

/-- The confirmation of a detected false breakout goes from the level to the close. -/
theorem sweepTrigger_detected (hshaped : event.Shaped) (hpositive : event.Positive) :
    ¬ (sweepTrigger setup direction timeframe event).Flat ∧
      0 < (sweepTrigger setup direction timeframe event).entryLow ∧
      0 < (sweepTrigger setup direction timeframe event).invalidation := by
  obtain ⟨hlevel, hsweep, hclose⟩ := hpositive
  have hne : event.referenceLevel ≠ event.closePrice := by
    unfold SweepEvent.Shaped at hshaped
    split at hshaped
    · exact hshaped.2.ne
    · exact hshaped.1.ne'
  unfold sweepTrigger
  simp only [orPrice_of_pos hlevel, orPrice_of_pos hclose, orPrice_of_pos hsweep]
  refine ⟨fun hflat => hne (inf_eq_sup.mp hflat.1), lt_min hlevel hclose, ?_⟩
  cases direction with
  | LONG => exact lt_min (lt_min hlevel hclose) hsweep
  | SHORT => exact lt_max_of_lt_left (lt_max_of_lt_left hlevel)

theorem orderBlockTrigger_detected {block : OrderBlockSummary}
    (h : 0 < block.lowerPrice ∧ block.lowerPrice < block.upperPrice) :
    ¬ (orderBlockTrigger direction timeframe block).Flat ∧
      0 < (orderBlockTrigger direction timeframe block).entryLow ∧
      0 < (orderBlockTrigger direction timeframe block).invalidation := by
  have hupper := h.1.trans h.2
  refine ⟨fun hflat => h.2.ne (inf_eq_sup.mp hflat.1), lt_min h.1 hupper, ?_⟩
  cases direction with
  | LONG => exact h.1
  | SHORT => exact hupper

theorem BotSnapshot.Detected.snapshotTrigger_pos (h : snapshot.Detected)
    (htrigger : snapshotTrigger direction timeframe snapshot = some trigger) :
    ¬ trigger.Flat ∧ 0 < trigger.entryLow ∧ 0 < trigger.invalidation := by
  obtain ⟨block, hblock, -, rfl⟩ | ⟨event, hevent, -, rfl⟩ | ⟨event, hevent, -, rfl⟩ :=
    snapshotTrigger_cases htrigger
  · exact orderBlockTrigger_detected (h.blocks block hblock)
  · obtain ⟨smc, candles, tf, nowUtc, swingLength, hdetected⟩ := h.sfp
    rw [hevent] at hdetected
    exact sweepTrigger_detected (detectSfp_shape hdetected).1 (h.sfpPrices event hevent)
  · obtain ⟨candles, tf, nowUtc, lookbackBars, hdetected⟩ := h.turtleSoup
    rw [hevent] at hdetected
    exact sweepTrigger_detected (detectTurtleSoup_shape hdetected).1 (h.turtleSoupPrices event hevent)

/-- For snapshots that the detectors made, a plan or a rejection always comes back. -/
theorem tradePlan_returns (hh1 : input.h1.Detected) (hm15 : input.m15.Detected)
    (hsupported : input.instrument ∈ botScanInstruments) : ∃ plan, buildTradePlan input = .ok plan := by
  have hsetup : ∀ direction trigger target, input.Setup direction trigger target →
      ¬ trigger.Flat ∧ 0 < trigger.entryLow ∧ 0 < trigger.invalidation ∧ 0 < target := by
    intro direction trigger target h
    have htrigger : ¬ trigger.Flat ∧ 0 < trigger.entryLow ∧ 0 < trigger.invalidation := by
      obtain hfirst | ⟨-, hsecond⟩ := h.first
      · exact hm15.snapshotTrigger_pos hfirst
      · exact hh1.snapshotTrigger_pos hsecond
    refine ⟨htrigger.1, htrigger.2.1, htrigger.2.2, ?_⟩
    obtain hlevel | hlevel := List.mem_append.mp h.nearest.level
    · exact hm15.targets direction target hlevel
    · exact hh1.targets direction target hlevel
  obtain ⟨hassertion, -, -, hcontract⟩ := tradePlan_outcome input
  cases hbuild : buildTradePlan input with
  | ok plan => exact ⟨plan, rfl⟩
  | error e =>
      cases e with
      | assertionError =>
          obtain ⟨direction, trigger, target, h, hflat⟩ := hassertion.mp hbuild
          exact absurd hflat (hsetup direction trigger target h).1
      | exn e =>
          obtain hunsupported | ⟨direction, trigger, target, ratio, h, hprices⟩ := hcontract e hbuild
          · exact absurd hsupported hunsupported
          · exact absurd (hsetup direction trigger target h.toSetup).2 hprices

/-- The last of two bars goes below the first one and closes above its low. -/
def sweptBars : List Candle :=
  [⟨0, 10, 12, 8, 10, 100⟩, ⟨15 * minute, 10, 10, 4, 9, 100⟩]

theorem length_nil_le (α : Type) : ([] : List α).length ≤ 3 := Nat.zero_le 3

theorem validateSessions_nil : validateSessions [] = .ok () := rfl

def sweptDay : PreviousHighLowFields := { previousHigh := some 24, previousLow := some 8 }

theorem sweptDay_contract : sweptDay.validateContract = .ok () := rfl

/-- A snapshot of these bars. -/
def sweptSnapshot : BotSnapshot where
  instrument := "EUR_USD"
  timeframe := "M15"
  version := 1
  lastCompletedCandle := 15 * minute
  computedAt := 30 * minute
  metrics := []
  structureEvents := ⟨none, [], none, none, length_nil_le StructureBreak⟩
  orderBlocks := []
  liquidity := ⟨[], length_nil_le LiquidityLevelSummary⟩
  smcContext := ⟨⟨[], validateSessions_nil⟩, some ⟨sweptDay, sweptDay_contract⟩, none⟩
  spreadAcceptable := true
  chop := .PASS
  sfp := none
  turtleSoup := some ⟨⟨.BULLISH, 8, 0, 4, 9, 15 * minute⟩, 1⟩

theorem sweptSnapshot_detected : sweptSnapshot.Detected where
  sfp := ⟨busyModule, [], .M15, 0, 1, rfl⟩
  turtleSoup := ⟨sweptBars, .M15, 30 * minute, 1, rfl⟩
  blocks := nofun
  sfpPrices := nofun
  turtleSoupPrices event hevent := by
    obtain rfl := Option.some.inj hevent
    exact ⟨by decide, by decide, by decide⟩
  targets direction price hprice := by
    cases direction with
    | LONG =>
        obtain rfl : price = 24 := List.mem_singleton.mp hprice
        decide
    | SHORT =>
        obtain rfl : price = 8 := List.mem_singleton.mp hprice
        decide

theorem tradePlan_returns_swept :
    ∃ plan, buildTradePlan ⟨"EUR_USD", 0, .BULLISH, sweptSnapshot, sweptSnapshot⟩ = .ok plan :=
  tradePlan_returns sweptSnapshot_detected sweptSnapshot_detected (by decide)

end detected

/-! ### Both directions -/

section mirror

instance : Mirror PlanTrigger where
  mirror trigger :=
    { trigger with
      entryLow := -trigger.entryHigh
      entryHigh := -trigger.entryLow
      invalidation := -trigger.invalidation }
  mirror_mirror trigger := by simp

instance : Mirror PlanInput where
  mirror input := { input with bias := mirror input.bias, h1 := mirror input.h1, m15 := mirror input.m15 }
  mirror_mirror input := by simp

def mirrorText (text : String) : String :=
  if text = "HTF bias BULLISH." then "HTF bias BEARISH."
  else if text = "HTF bias BEARISH." then "HTF bias BULLISH."
  else text

instance : Mirror TradePlanFields where
  mirror p :=
    { p with
      direction := mirror p.direction
      entryLow := mirror p.entryHigh
      entryHigh := mirror p.entryLow
      invalidationPrice := mirror p.invalidationPrice
      targetPrice := mirror p.targetPrice
      rationale := p.rationale.map mirrorText }
  mirror_mirror p := by
    have htext : mirrorText ∘ mirrorText = id := by
      funext text
      unfold mirrorText
      by_cases hup : text = "HTF bias BULLISH."
      · simp [hup]
      · by_cases hdown : text = "HTF bias BEARISH."
        · simp [hdown]
        · simp [hup, hdown]
    simp [htext]

variable (direction : TradeDirection) (timeframe setup : String) (snapshot h1 m15 : BotSnapshot)
  (trigger : PlanTrigger) (a b : ℚ)

theorem orPrice_neg : orPrice (-a) (-b) = -orPrice a b := by
  unfold orPrice
  simp only [neg_eq_zero]
  split_ifs <;> rfl

theorem orderBlockTrigger_mirror (block : OrderBlockSummary) :
    orderBlockTrigger (mirror direction) timeframe (mirror block) =
      mirror (orderBlockTrigger direction timeframe block) := by
  have hlow : (mirror block).lowerPrice = -block.upperPrice := rfl
  have hhigh : (mirror block).upperPrice = -block.lowerPrice := rfl
  unfold orderBlockTrigger
  simp only [hlow, hhigh, min_neg_neg, max_neg_neg]
  cases direction <;> simp [mirror, max_comm, min_comm]

theorem sweepTrigger_mirror (event : SweepEvent) :
    sweepTrigger setup (mirror direction) timeframe (mirror event) =
      mirror (sweepTrigger setup direction timeframe event) := by
  have hlevel : (mirror event).referenceLevel = -event.referenceLevel := rfl
  have hclose : (mirror event).closePrice = -event.closePrice := rfl
  have hsweep : (mirror event).sweepPrice = -event.sweepPrice := rfl
  unfold sweepTrigger
  simp only [hlevel, hclose, hsweep, orPrice_neg, min_neg_neg, max_neg_neg]
  cases direction with
  | LONG => simp [mirror]
  | SHORT => simp [mirror]

theorem pattern_mirror : (mirror direction).pattern = mirror direction.pattern := by
  cases direction <;> rfl

theorem filter_pattern_mirror {α : Type} [Mirror α] (toward : α → BinaryDirection)
    (htoward : ∀ event, toward (mirror event) = mirror (toward event)) (found : Option α) :
    ((mirror found).filter fun event => toward event == mirror direction.pattern) =
      mirror (found.filter fun event => toward event == direction.pattern) := by
  cases found with
  | none => rfl
  | some event =>
      simp only [mirror_some, Option.filter_some, htoward, beq_iff_eq, mirror_inj]
      split_ifs <;> rfl

theorem snapshotTrigger_mirror :
    snapshotTrigger (mirror direction) timeframe (mirror snapshot) =
      mirror (snapshotTrigger direction timeframe snapshot) := by
  have hblock := find?_mirror (p := fun block : OrderBlockSummary => block.direction == direction.pattern)
    (q := fun block => block.direction == mirror direction.pattern)
    (fun block => by
      rw [Bool.eq_iff_iff, beq_iff_eq, beq_iff_eq]
      exact mirror_inj) snapshot.orderBlocks
  have hsfp := filter_pattern_mirror direction (fun event : SweepEvent => event.direction)
    (fun _ => rfl) snapshot.sfp
  have hturtle := filter_pattern_mirror direction (fun event : TurtleSoupEvent => event.direction)
    (fun _ => rfl) snapshot.turtleSoup
  unfold snapshotTrigger
  rw [pattern_mirror, show (mirror snapshot).orderBlocks = mirror snapshot.orderBlocks from rfl,
    show (mirror snapshot).sfp = mirror snapshot.sfp from rfl,
    show (mirror snapshot).turtleSoup = mirror snapshot.turtleSoup from rfl, hblock, hsfp, hturtle]
  cases snapshot.orderBlocks.find? fun block => block.direction == direction.pattern with
  | some block => exact congrArg some (orderBlockTrigger_mirror direction timeframe block)
  | none =>
      cases snapshot.sfp.filter fun event => event.direction == direction.pattern with
      | some event => exact congrArg some (sweepTrigger_mirror direction timeframe _ event)
      | none =>
          cases snapshot.turtleSoup.filter fun event => event.direction == direction.pattern with
          | some event => exact congrArg some (sweepTrigger_mirror direction timeframe _ event.toSweepEvent)
          | none => rfl

theorem selectTrigger_mirror :
    selectTrigger (mirror direction) (mirror h1) (mirror m15) = mirror (selectTrigger direction h1 m15) := by
  unfold selectTrigger
  simp only [List.findSome?_cons, List.findSome?_nil, snapshotTrigger_mirror]
  cases snapshotTrigger direction "M15" m15 with
  | some trigger => rfl
  | none => cases snapshotTrigger direction "H1" h1 <;> rfl

theorem beyond_mirror : (mirror direction).beyond (-a) (-b) = direction.beyond a b := by
  cases direction with
  | LONG => exact decide_eq_decide.mpr neg_lt_neg_iff
  | SHORT => exact decide_eq_decide.mpr neg_lt_neg_iff

theorem previousLevel_mirror (previous : Option PreviousHighLowSummary) :
    ((mirror previous).bind fun p => p.previousLow).toList =
        (previous.bind fun p => p.previousHigh).toList.map Neg.neg ∧
      ((mirror previous).bind fun p => p.previousHigh).toList =
        (previous.bind fun p => p.previousLow).toList.map Neg.neg := by
  cases previous with
  | none => exact ⟨rfl, rfl⟩
  | some p =>
      refine ⟨?_, ?_⟩
      · show (mirror p.previousHigh).toList = p.previousHigh.toList.map Neg.neg
        cases p.previousHigh <;> rfl
      · show (mirror p.previousLow).toList = p.previousLow.toList.map Neg.neg
        cases p.previousLow <;> rfl

theorem sideLevels_mirror (side : LiquiditySide) (levels : List LiquidityLevelSummary) :
    ((mirror levels).filter fun level => level.side == mirror side).map (fun level => level.price) =
      ((levels.filter fun level => level.side == side).map fun level => level.price).map Neg.neg := by
  induction levels with
  | nil => rfl
  | cons level levels ih =>
      have hside : (mirror level).side = mirror level.side := rfl
      simp only [mirror_cons, List.filter_cons, hside, beq_iff_eq, mirror_inj]
      split_ifs
      · exact congrArg (-level.price :: ·) ih
      · exact ih

theorem swingLevel_mirror (swing : Option SwingPointSummary) :
    ((mirror swing).map fun swing => swing.level).toList =
      (swing.map fun swing => swing.level).toList.map Neg.neg := by
  cases swing <;> rfl

theorem snapshotTargets_mirror :
    snapshotTargets (mirror direction) (mirror snapshot) = (snapshotTargets direction snapshot).map Neg.neg := by
  have hprevious := previousLevel_mirror snapshot.smcContext.previousHighLow
  cases direction with
  | LONG =>
      have hlevels := sideLevels_mirror .SELL_SIDE snapshot.liquidity.levels
      have hswing := swingLevel_mirror snapshot.structureEvents.latestSwingHigh
      simp only [snapshotTargets, List.map_append, ← hprevious.1, ← hlevels, ← hswing]
      rfl
  | SHORT =>
      have hlevels := sideLevels_mirror .BUY_SIDE snapshot.liquidity.levels
      have hswing := swingLevel_mirror snapshot.structureEvents.latestSwingLow
      simp only [snapshotTargets, List.map_append, ← hprevious.2, ← hlevels, ← hswing]
      rfl

theorem selectTargetPrice_mirror :
    selectTargetPrice (mirror direction) (mirror h1) (mirror m15) (mirror trigger) =
      mirror (selectTargetPrice direction h1 m15 trigger) := by
  have hreference : (mirror trigger).reference (mirror direction) = -trigger.reference direction := by
    cases direction <;> rfl
  unfold selectTargetPrice
  simp only [snapshotTargets_mirror, hreference, ← List.map_append, List.filter_map, Function.comp_def,
    beyond_mirror]
  cases direction with
  | LONG => exact max?_neg _
  | SHORT => exact min?_neg _

theorem computeRewardRisk_mirror :
    computeRewardRisk (mirror direction) (mirror trigger) (-a) = computeRewardRisk direction trigger a := by
  have hlow : (mirror trigger).entryLow = -trigger.entryHigh := rfl
  have hhigh : (mirror trigger).entryHigh = -trigger.entryLow := rfl
  have hstop : (mirror trigger).invalidation = -trigger.invalidation := rfl
  unfold computeRewardRisk
  simp only [hlow, hhigh, hstop]
  have hmid : (-trigger.entryHigh + -trigger.entryLow) / 2 = -((trigger.entryLow + trigger.entryHigh) / 2) := by
    ring
  rw [hmid]
  cases direction with
  | LONG => simp only [show mirror TradeDirection.LONG = .SHORT from rfl, neg_sub_neg]
  | SHORT => simp only [show mirror TradeDirection.SHORT = .LONG from rfl, neg_sub_neg]

variable (input : PlanInput)

theorem trade_mirror (bias : Direction) : (mirror bias).trade = mirror bias.trade := by
  cases bias <;> rfl

namespace PlanInput

theorem trigger_mirror : (mirror input).trigger = mirror input.trigger := by
  unfold PlanInput.trigger
  rw [show (mirror input).bias = mirror input.bias from rfl, trade_mirror]
  cases input.bias.trade with
  | none => rfl
  | some direction => exact selectTrigger_mirror direction input.h1 input.m15

theorem targetPrice_mirror : (mirror input).targetPrice = mirror input.targetPrice := by
  unfold PlanInput.targetPrice
  rw [show (mirror input).bias = mirror input.bias from rfl, trade_mirror, trigger_mirror]
  cases input.bias.trade with
  | none => rfl
  | some direction =>
      cases input.trigger with
      | none => rfl
      | some trigger => exact selectTargetPrice_mirror direction input.h1 input.m15 trigger

theorem rewardRisk_mirror : (mirror input).rewardRisk = input.rewardRisk := by
  unfold PlanInput.rewardRisk
  rw [show (mirror input).bias = mirror input.bias from rfl, trade_mirror, trigger_mirror, targetPrice_mirror]
  cases input.bias.trade with
  | none => rfl
  | some direction =>
      cases input.trigger with
      | none => rfl
      | some trigger =>
          cases input.targetPrice with
          | none => rfl
          | some target => exact computeRewardRisk_mirror direction trigger target

/-- The reasons against a plan are the same in the mirror. -/
theorem rejectionReasons_mirror : (mirror input).rejectionReasons = input.rejectionReasons := by
  have hneutral : (mirror input).bias = .NEUTRAL ↔ input.bias = .NEUTRAL :=
    mirror_eq_iff (b := Direction.NEUTRAL)
  have hbias : (mirror input).bias.trade.isSome = input.bias.trade.isSome := by
    rw [show (mirror input).bias = mirror input.bias from rfl, trade_mirror, isSome_mirror]
  have hh1 : (mirror input).h1.spreadAcceptable = input.h1.spreadAcceptable := rfl
  have hm15 : (mirror input).m15.spreadAcceptable = input.m15.spreadAcceptable := rfl
  have hchop : (mirror input).h1.chop = input.h1.chop := rfl
  have hchop' : (mirror input).m15.chop = input.m15.chop := rfl
  unfold rejectionReasons
  simp only [hneutral, hbias, hh1, hm15, hchop, hchop', trigger_mirror, targetPrice_mirror, rewardRisk_mirror,
    mirror_eq_none]

theorem setup_mem {trigger : PlanTrigger} (h : input.trigger = some trigger) :
    trigger.setup ∈ ["Order-block retest", "SFP confirmation", "Turtle Soup confirmation"] := by
  have hsnapshot : ∀ direction timeframe snapshot, snapshotTrigger direction timeframe snapshot = some trigger →
      trigger.setup ∈ ["Order-block retest", "SFP confirmation", "Turtle Soup confirmation"] := by
    intro direction timeframe snapshot hfound
    obtain ⟨block, -, -, rfl⟩ | ⟨event, -, -, rfl⟩ | ⟨event, -, -, rfl⟩ := snapshotTrigger_cases hfound
    · exact List.mem_cons_self
    · exact List.mem_cons_of_mem _ List.mem_cons_self
    · exact List.mem_cons_of_mem _ (List.mem_cons_of_mem _ List.mem_cons_self)
  obtain ⟨direction, -, hselect⟩ := Option.bind_eq_some_iff.mp h
  obtain hfound | ⟨-, hfound⟩ := selectTrigger_eq_some.mp hselect
  · exact hsnapshot _ _ _ hfound
  · exact hsnapshot _ _ _ hfound

/-- The rationale names the bias, and the setup, which names no side. -/
theorem rationale_mirror {direction : TradeDirection} (hbias : input.bias.trade = some direction)
    {trigger : PlanTrigger} (htrigger : input.trigger = some trigger) :
    ["HTF bias " ++ (mirror input).bias.text ++ ".", (mirror trigger).setup] =
      ["HTF bias " ++ input.bias.text ++ ".", trigger.setup].map mirrorText := by
  have hsetup : mirrorText trigger.setup = trigger.setup := by
    have hall : ∀ setup ∈ ["Order-block retest", "SFP confirmation", "Turtle Soup confirmation"],
        mirrorText setup = setup := by decide
    exact hall _ (input.setup_mem htrigger)
  have htext : "HTF bias " ++ (mirror input.bias).text ++ "." =
      mirrorText ("HTF bias " ++ input.bias.text ++ ".") := by
    cases hinput : input.bias with
    | BULLISH => decide
    | BEARISH => decide
    | NEUTRAL =>
        rw [hinput] at hbias
        cases hbias
  rw [List.map_cons, List.map_cons, List.map_nil, hsetup, ← htext]
  rfl

end PlanInput

/-- A plan in a mirrored market is the mirrored plan, and fails or is rejected for the same reasons. -/
theorem tradePlan_mirror : (mirror input).fields = input.fields.map mirror := by
  unfold PlanInput.fields
  rw [PlanInput.rejectionReasons_mirror]
  split_ifs with hreasons
  · show Except.ok (mirror input).rejectedFields = .ok (mirror input.rejectedFields)
    unfold PlanInput.rejectedFields
    rw [PlanInput.rejectionReasons_mirror]
    rfl
  · rw [show (mirror input).bias.trade = mirror input.bias.trade from trade_mirror input.bias,
      PlanInput.trigger_mirror, PlanInput.targetPrice_mirror, PlanInput.rewardRisk_mirror]
    cases hbias : input.bias.trade with
    | none => rfl
    | some direction =>
        cases htrigger : input.trigger with
        | none => rfl
        | some trigger =>
            cases input.targetPrice with
            | none => rfl
            | some target =>
                cases input.rewardRisk with
                | none => rfl
                | some ratio =>
                    show Except.ok _ = Except.ok (mirror (input.validFields direction trigger target ratio))
                    unfold PlanInput.validFields
                    rw [input.rationale_mirror hbias htrigger]
                    rfl

end mirror

end OandaV3
