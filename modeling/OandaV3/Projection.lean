import OandaV3.HistoryService

/-! # Projected records

What `projection` makes of the events of a trade and the record it has.

* `projection_some`: a projected record keeps the base it was computed from, is CLOSED exactly
  when the events hold a CLOSE, and is the validation of `openFields` or `closedFields`.
* `projection_congr`: the existing record matters through its base only.
* `projection_self`: projecting a projected record again gives the same record. -/

namespace OandaV3

open Fallible

variable {cfg : Config} {tradeId : String} {events events' : List TradeHistoryEvent}
  {existing : Option TradeRecord} {record : TradeRecord} {base : TradeBase}

def recordBase (record : TradeFields) : TradeBase where
  units := record.units
  openPrice := record.openPrice
  openedAt := record.openedAt
  instrument := record.instrument
  slPrice := record.slPrice
  tpPrice := record.tpPrice
  gsloPrice := record.gsloPrice
  notes := record.notes

theorem tradeBase_some (events : List TradeHistoryEvent) (record : TradeRecord) :
    tradeBase events (some record) = some (recordBase record.toTradeFields) := rfl

/-- The events hold the closing fill of the trade. -/
def hasClose (events : List TradeHistoryEvent) : Bool :=
  events.any (fun e => e.eventType == .CLOSE)

theorem closeEvents_any_close :
    (closeEvents events).any (fun e => e.eventType == .CLOSE) = hasClose events := by
  rw [hasClose, closeEvents, List.any_filter]
  congr 1
  funext e
  cases h : e.eventType <;> simp [TradeHistoryEvent.isClosing, h]

theorem mem_closeEvents {e : TradeHistoryEvent} :
    e ∈ closeEvents events ↔ e ∈ events ∧ e.isClosing = true := List.mem_filter

theorem hasClose_iff : hasClose events = true ↔ ∃ e ∈ events, e.eventType = .CLOSE := by
  simp [hasClose, List.any_eq_true]

theorem closeEvents_ne_nil (h : hasClose events = true) : closeEvents events ≠ [] := by
  obtain ⟨e, he, hclose⟩ := hasClose_iff.mp h
  exact List.ne_nil_of_mem (mem_closeEvents.mpr ⟨he, by simp [TradeHistoryEvent.isClosing, hclose]⟩)

/-- The record depends on the existing one through the base only. -/
theorem projection_congr {existing' : Option TradeRecord}
    (h : tradeBase events existing = tradeBase events existing') :
    projection cfg tradeId events existing = projection cfg tradeId events existing' := by
  simp only [projection, h]

theorem projection_of_base_none (h : tradeBase events existing = none) :
    projection cfg tradeId events existing = .ok none := by
  simp only [projection, h]

theorem projection_of_open (hbase : tradeBase events existing = some base)
    (hclose : hasClose events = false) :
    projection cfg tradeId events existing = some <$> (openFields tradeId base).validate := by
  simp only [projection, hbase, closeEvents_any_close, hclose]
  cases (closeEvents events).getLast? <;> rfl

/-- With a closing fill the record is closed by the last close event. -/
theorem projection_of_closed {final : TradeHistoryEvent}
    (hbase : tradeBase events existing = some base) (hclose : hasClose events = true)
    (hfinal : (closeEvents events).getLast? = some final) :
    projection cfg tradeId events existing = (do
      let pips ← weightedClosePips cfg base (closeEvents events)
      let record ← (closedFields cfg tradeId base (closeEvents events) final pips).validate
      return some record) := by
  simp only [projection, hbase, hfinal, closeEvents_any_close, hclose, if_true]

theorem projection_some (h : projection cfg tradeId events existing = .ok (some record)) :
    ∃ base, tradeBase events existing = some base ∧
      ((hasClose events = false ∧ (openFields tradeId base).validate = .ok record) ∨
        (hasClose events = true ∧ ∃ final pips, (closeEvents events).getLast? = some final ∧
          weightedClosePips cfg base (closeEvents events) = .ok pips ∧
          (closedFields cfg tradeId base (closeEvents events) final pips).validate = .ok record)) := by
  cases hbase : tradeBase events existing with
  | none => rw [projection_of_base_none hbase] at h; cases h
  | some base =>
      refine ⟨base, rfl, ?_⟩
      cases hclose : hasClose events with
      | false =>
          rw [projection_of_open hbase hclose] at h
          cases hv : (openFields tradeId base).validate with
          | error e => rw [hv] at h; cases h
          | ok r => rw [hv] at h; cases h; exact Or.inl ⟨rfl, rfl⟩
      | true =>
          obtain ⟨final, hfinal⟩ := Option.ne_none_iff_exists'.mp
            (mt List.getLast?_eq_none_iff.mp (closeEvents_ne_nil hclose))
          rw [projection_of_closed hbase hclose hfinal] at h
          obtain ⟨pips, hpips, h⟩ := bind_eq_ok.mp h
          obtain ⟨r, hr, h⟩ := bind_eq_ok.mp h
          cases h
          exact Or.inr ⟨rfl, final, pips, hfinal, hpips, hr⟩

/-- A validated record has the fields it was built from, up to the case of the currencies. -/
theorem recordBase_of_validate {fields : TradeFields} (h : fields.validate = .ok record) :
    recordBase record.toTradeFields = recordBase fields := by
  rw [TradeFields.validate_ok h]; rfl

theorem recordBase_projection (h : projection cfg tradeId events existing = .ok (some record)) :
    tradeBase events existing = some (recordBase record.toTradeFields) := by
  obtain ⟨base, hbase, ⟨-, hv⟩ | ⟨-, final, pips, -, -, hv⟩⟩ := projection_some h <;>
    rw [recordBase_of_validate hv] <;> exact hbase

theorem projection_tradeId (h : projection cfg tradeId events existing = .ok (some record)) :
    record.tradeId = tradeId := by
  obtain ⟨base, -, ⟨-, hv⟩ | ⟨-, final, pips, -, -, hv⟩⟩ := projection_some h <;>
    rw [TradeFields.validate_ok hv] <;> rfl

/-- A projected record is CLOSED exactly when the events hold the closing fill. -/
theorem projection_state (h : projection cfg tradeId events existing = .ok (some record)) :
    record.state = if hasClose events then .CLOSED else .OPEN := by
  obtain ⟨base, -, ⟨hclose, hv⟩ | ⟨hclose, final, pips, -, -, hv⟩⟩ := projection_some h <;>
    rw [TradeFields.validate_ok hv, hclose] <;> rfl

theorem projection_self (h : projection cfg tradeId events existing = .ok (some record)) :
    projection cfg tradeId events (some record) = .ok (some record) := by
  rw [← h]
  exact projection_congr ((tradeBase_some events record).trans (recordBase_projection h).symm)

/-- A base taken from a record never fails to give a record. -/
theorem projection_some_ne_none : projection cfg tradeId events (some record) ≠ .ok none := by
  have hbase := tradeBase_some events record
  cases hclose : hasClose events with
  | false =>
      rw [projection_of_open hbase hclose]
      cases (openFields tradeId (recordBase record.toTradeFields)).validate <;>
        exact fun h => nomatch h
  | true =>
      obtain ⟨final, hfinal⟩ := Option.ne_none_iff_exists'.mp
        (mt List.getLast?_eq_none_iff.mp (closeEvents_ne_nil hclose))
      rw [projection_of_closed hbase hclose hfinal]
      intro h
      obtain ⟨pips, -, h⟩ := bind_eq_ok.mp h
      obtain ⟨r, -, h⟩ := bind_eq_ok.mp h
      cases h

/-- The pips depend on the price, the side and the instrument of the base. -/
theorem weightedClosePips_congr {base base' : TradeBase} (hinstrument : base.instrument = base'.instrument)
    (hprice : base.openPrice = base'.openPrice) (hside : 0 < base.units ↔ 0 < base'.units)
    (closes : List TradeHistoryEvent) :
    weightedClosePips cfg base closes = weightedClosePips cfg base' closes := by
  simp only [weightedClosePips, closePips, hinstrument, hprice, hside]

end OandaV3
