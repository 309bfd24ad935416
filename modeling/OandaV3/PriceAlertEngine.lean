import OandaV3.PriceAlerts
import OandaV3.PriceStream

/-! # The price alert engine

`.worktrees/scan-force/alerts/price_alert_engine.py`: an alert is armed by a tick on its safe side, and
fires at the first tick after it that crosses the target.  `evaluate_tick` runs in a thread of its own, next
to those of the chat commands, so that any of these comes between two of its calls of the store.

A run is a list of `AlertAction`s in any order.  The reads and writes of the engine may fail, the delivery
of a message too, and the process may restart.  A command that cancels reads before it writes; what it writes
depends on fields only that never change, so that it is one action here.

* `TableInv.set`, `TableInv.added`: a write of a held alert and a new one keep `TableInv`.
* `AlertSystem.inv_step`: every action keeps `AlertSystem.Inv`.
* `priceAlerts_fire_once`: no alert fires twice, none without a tick on its safe side before, and each
  extra message of an alert is one that could not be marked; with a notifier, a fired alert has one. -/

namespace OandaV3

open Dict DocTable

/-! ### Ticks and alerts -/

/-- `fire_value`. -/
def PriceTick.fireValue (tick : PriceTick) : AlertDirection → ℚ
  | .above => tick.ask
  | .below => tick.bid

/-- `crossed`. -/
def PriceTick.crossed (tick : PriceTick) (alert : PriceAlertFields) : Bool :=
  match alert.direction with
  | .above => decide (alert.targetPrice ≤ tick.ask)
  | .below => decide (tick.bid ≤ alert.targetPrice)

/-- `payload.update({"armed": True})`. -/
def PriceAlertFields.armedNow (alert : PriceAlertFields) : PriceAlertFields := { alert with armed := true }

/-- `payload.update({"status": AlertStatus.FIRED, "armed": False, "fired_at": now})`. -/
def PriceAlertFields.firedAtTime (now : Instant) (alert : PriceAlertFields) : PriceAlertFields :=
  { alert with status := .FIRED, armed := false, firedAt := some now }

/-- The payload of `price_alert_command`. -/
structure PriceAlertCommand where
  instrument : String
  targetPrice : ℚ
  direction : AlertDirection
  chatId : ℤ
  notes : Option String
  createdAt : Instant
deriving DecidableEq, Repr

def PriceAlertCommand.payload (command : PriceAlertCommand) : AlertPayload where
  instrument := command.instrument
  targetPrice := command.targetPrice
  direction := command.direction
  chatId := command.chatId
  notes := command.notes
  createdAt := command.createdAt

section engine

variable {live : String → Bool}

/-- `list_pending_price_alerts`. -/
def listPendingPriceAlerts (table : AlertTable live) : List (PriceAlert live) :=
  sortOn (fun alert : PriceAlert live => alert.id)
    ((table.docs.map Prod.snd).filter fun alert => alert.status == .PENDING)

/-- `get_price_alert`, which finds nothing when the read fails. -/
def readPriceAlert (readable : Bool) (table : AlertTable live) (alertId : ℤ) : Option (PriceAlert live) :=
  if readable then getPriceAlert table alertId else none

/-- The end of `mark_price_alert_armed` and `mark_price_alert_fired`. -/
def rewritePriceAlert (insertion : AlertInsertion live) (payload : PriceAlertFields) (table : AlertTable live) :
    Except Exn (PriceAlert live) × AlertTable live :=
  match payload.validate live with
  | .error e => (.error e, table)
  | .ok alert => upsertPriceAlert insertion (some alert.id) alert.toAlertPayload table

/-! ### The engine, the commands and the store -/

/-- `FiredPriceAlert`. -/
structure FiredPriceAlert (live : String → Bool) where
  alert : PriceAlert live
  fireValue : ℚ
deriving DecidableEq

/-- Where `evaluate_tick` is: outside, before the next alert of its loop, or between two calls. -/
inductive EngineStage (live : String → Bool) where
  | waiting
  | evaluating (tick : PriceTick) (rest : List (PriceAlert live))
  /-- `mark_price_alert_armed` has read the alert. -/
  | arming (tick : PriceTick) (existing : PriceAlert live) (rest : List (PriceAlert live))
  /-- The message is delivered, where there is a notifier. -/
  | notified (tick : PriceTick) (alert : PriceAlert live) (rest : List (PriceAlert live))
  /-- `mark_price_alert_fired` has read the alert. -/
  | firing (tick : PriceTick) (existing : PriceAlert live) (rest : List (PriceAlert live))
deriving DecidableEq

/-- What comes of `build_price_alert_fired` and `deliver_message_blocking`, if there is a notifier. -/
inductive Delivery where
  | noNotifier
  | raised
  | delivered
  | failed
deriving DecidableEq, Repr

/-- What the next call of the engine meets. -/
structure EngineOutcome where
  readable : Bool := true
  delivery : Delivery := .delivered
  persisted : Bool := true
  now : Instant
deriving DecidableEq, Repr

/-- The table and the engine, with what has happened so far. -/
structure AlertSystem (live : String → Bool) where
  table : AlertTable live
  stage : EngineStage live := .waiting
  /-- The ticks that were evaluated. -/
  ticks : List PriceTick := []
  /-- The ids of the alerts whose message was delivered. -/
  messages : List ℤ := []
  /-- What `evaluate_tick` has appended to its result. -/
  fired : List (FiredPriceAlert live) := []
  /-- The ids of the alerts that were not marked as fired after their message. -/
  unmarked : List ℤ := []

inductive AlertAction where
  | tick (tick : PriceTick) (readable : Bool)
  | engine (outcome : EngineOutcome)
  | priceAlertCommand (command : PriceAlertCommand)
  | cancelPriceAlertForChat (alertId chatId : ℤ)
  | restart
deriving DecidableEq

/-- The action delivers no message without a notifier. -/
def AlertAction.notifies : AlertAction → Bool
  | .engine outcome => outcome.delivery != .noNotifier
  | _ => true

namespace EngineStage

/-- The alert between its message and its mark. -/
def unmarked : EngineStage live → List ℤ
  | .notified _ alert _ => [alert.id]
  | .firing _ existing _ => [existing.id]
  | _ => []

end EngineStage

namespace AlertSystem

/-- One turn of the loop of `evaluate_tick`, up to its next call of the store. -/
def evaluate (s : AlertSystem live) (tick : PriceTick) (alert : PriceAlert live)
    (rest : List (PriceAlert live)) (outcome : EngineOutcome) : AlertSystem live :=
  if alert.instrument ≠ tick.instrument then { s with stage := .evaluating tick rest }
  else if alert.armed = false then
    if tick.crossed alert.toPriceAlertFields then { s with stage := .evaluating tick rest }
    else
      -- `mark_price_alert_armed`
      match readPriceAlert outcome.readable s.table alert.id with
      | none => { s with stage := .evaluating tick rest }
      | some existing =>
          if existing.status ≠ .PENDING ∨ existing.armed = true then
            { s with stage := .evaluating tick rest }
          else { s with stage := .arming tick existing rest }
  else if tick.crossed alert.toPriceAlertFields = false then { s with stage := .evaluating tick rest }
  else
    match outcome.delivery with
    | .raised => { s with stage := .waiting }
    | .failed => { s with stage := .evaluating tick rest }
    | .noNotifier => { s with stage := .notified tick alert rest }
    | .delivered => { s with stage := .notified tick alert rest, messages := s.messages ++ [alert.id] }

/-- The next call of the engine. -/
def engine (insertion : AlertInsertion live) (s : AlertSystem live)
    (outcome : EngineOutcome) : AlertSystem live :=
  match s.stage with
  | .waiting => s
  | .evaluating _ [] => { s with stage := .waiting }
  | .evaluating tick (alert :: rest) => s.evaluate tick alert rest outcome
  | .arming tick existing rest =>
      if outcome.persisted then
        match rewritePriceAlert insertion existing.armedNow s.table with
        | (.error _, table) => { s with table, stage := .waiting }
        | (.ok _, table) => { s with table, stage := .evaluating tick rest }
      else { s with stage := .waiting }
  | .notified tick alert rest =>
      -- `mark_price_alert_fired`
      match readPriceAlert outcome.readable s.table alert.id with
      | none => { s with stage := .evaluating tick rest, unmarked := s.unmarked ++ [alert.id] }
      | some existing => { s with stage := .firing tick existing rest }
  | .firing tick existing rest =>
      if outcome.persisted then
        match rewritePriceAlert insertion (existing.firedAtTime outcome.now) s.table with
        | (.error _, table) =>
            { s with table, stage := .waiting, unmarked := s.unmarked ++ [existing.id] }
        | (.ok updated, table) =>
            { s with
              table, stage := .evaluating tick rest
              fired := s.fired ++ [⟨updated, tick.fireValue existing.direction⟩] }
      else { s with stage := .waiting, unmarked := s.unmarked ++ [existing.id] }

def step (insertion : AlertInsertion live) (s : AlertSystem live) : AlertAction → AlertSystem live
  | .tick tick readable =>
      match s.stage with
      | .waiting =>
          { s with
            stage := .evaluating tick (if readable then listPendingPriceAlerts s.table else [])
            ticks := s.ticks ++ [tick] }
      | _ => s
  | .engine outcome => s.engine insertion outcome
  | .priceAlertCommand command =>
      { s with table := (upsertPriceAlert insertion none command.payload s.table).2 }
  | .cancelPriceAlertForChat alertId chatId =>
      { s with table := (cancelPriceAlertForChat insertion alertId chatId s.table).2 }
  | .restart =>
      -- the store is opened again, so that its counter is not set
      { s with
        table := { s.table with nextId := none }
        stage := .waiting
        unmarked := s.unmarked ++ s.stage.unmarked }

def run (insertion : AlertInsertion live) (s : AlertSystem live)
    (actions : List AlertAction) : AlertSystem live :=
  actions.foldl (step insertion) s

end AlertSystem

/-! ### What the table holds -/

variable {docs start : List (ℕ × PriceAlert live)} {table : AlertTable live} {alert : PriceAlert live}
  {ticks : List PriceTick} {fired : List (FiredPriceAlert live)} {insertion : AlertInsertion live}

theorem instrument_of_core {a b : PriceAlertFields} (h : a.core = b.core) : a.instrument = b.instrument :=
  congrArg (fun core => core.2.1) h

theorem direction_of_core {a b : PriceAlertFields} (h : a.core = b.core) : a.direction = b.direction :=
  congrArg (fun core => core.2.2.2.1) h

theorem crossed_of_core {a b : PriceAlertFields} (h : a.core = b.core) (tick : PriceTick) :
    tick.crossed a = tick.crossed b := by
  have htarget : a.targetPrice = b.targetPrice := congrArg (fun core => core.2.2.1) h
  rw [PriceTick.crossed, PriceTick.crossed, direction_of_core h, htarget]

/-- The alert replaces the one with its id. -/
def setAlert (alert : PriceAlert live) (docs : List (ℕ × PriceAlert live)) : List (ℕ × PriceAlert live) :=
  docs.map fun doc => if doc.2.id = alert.id then (doc.1, alert) else doc

theorem mem_setAlert {doc : ℕ × PriceAlert live} (h : doc ∈ setAlert alert docs) :
    doc.2 = alert ∨ doc ∈ docs ∧ doc.2.id ≠ alert.id := by
  obtain ⟨old, hold, rfl⟩ := List.mem_map.mp h
  split_ifs with hid
  · exact Or.inl rfl
  · exact Or.inr ⟨hold, hid⟩

theorem mem_setAlert_of_ne {doc : ℕ × PriceAlert live} (h : doc ∈ docs) (hid : doc.2.id ≠ alert.id) :
    doc ∈ setAlert alert docs :=
  List.mem_map.mpr ⟨doc, h, if_neg hid⟩

theorem exists_mem_setAlert (h : Holds docs alert) : ∃ doc ∈ setAlert alert docs, doc.2 = alert := by
  obtain ⟨doc, hdoc, hcore⟩ := h
  exact ⟨(doc.1, alert), List.mem_map.mpr ⟨doc, hdoc, if_pos (id_of_core hcore)⟩, rfl⟩

/-- Two documents with one id are one. -/
theorem Sound.eq_of_id (hsound : Sound docs) {doc doc' : ℕ × PriceAlert live} (h : doc ∈ docs)
    (h' : doc' ∈ docs) (hid : doc.2.id = doc'.2.id) : doc = doc' :=
  List.inj_on_of_nodup_map hsound.ids h h' hid

theorem setAlert_core (hsound : Sound docs) (h : Holds docs alert) (doc : ℕ × PriceAlert live)
    (hdoc : doc ∈ docs) :
    (if doc.2.id = alert.id then (doc.1, alert) else doc).1 = doc.1 ∧
      (if doc.2.id = alert.id then (doc.1, alert) else doc).2.core = doc.2.core := by
  obtain ⟨held, hheld, hcore⟩ := h
  split_ifs with hid
  · rw [hsound.eq_of_id hdoc hheld (hid.trans (id_of_core hcore).symm)]
    exact ⟨rfl, hcore.symm⟩
  · exact ⟨rfl, rfl⟩

theorem extends_setAlert (hsound : Sound docs) (h : Holds docs alert) :
    Extends docs [] (setAlert alert docs) :=
  extends_map fun doc hdoc => setAlert_core hsound h doc hdoc

theorem upsertPriceAlert_held (insertion : AlertInsertion live) (hsound : Sound table.docs)
    (h : Holds table.docs alert) :
    upsertPriceAlert insertion (some alert.id) alert.toAlertPayload table =
      (.ok alert, { table with docs := setAlert alert table.docs }) := by
  obtain ⟨held, hheld, hcore⟩ := h
  have hfind : findAlertDocument table.docs alert.id = some held := by
    rw [← id_of_core hcore]
    exact DocTable.get_of_mem hsound.ids hheld
  rw [upsertPriceAlert_existing insertion alert hfind]
  have hmap : (table.docs.map fun doc => if doc.1 = held.1 then (doc.1, alert) else doc) =
      setAlert alert table.docs := by
    refine List.map_congr_left fun doc hdoc => ?_
    have hiff : doc.1 = held.1 ↔ doc.2.id = alert.id := by
      rw [← id_of_core hcore]
      exact ⟨fun hkey => by rw [List.inj_on_of_nodup_map hsound.keys hdoc hheld hkey],
        fun hid => by rw [hsound.eq_of_id hdoc hheld hid]⟩
    simp only [hiff]
  rw [hmap]

/-- An alert that is read is held. -/
theorem holds_of_getPriceAlert {id : ℤ} (h : getPriceAlert table id = some alert) :
    (∃ doc ∈ table.docs, doc.2 = alert) ∧ alert.id = id := by
  obtain ⟨doc, hdoc, rfl⟩ := Option.map_eq_some_iff.mp h
  obtain ⟨hmem, hid⟩ := DocTable.get_some hdoc
  exact ⟨⟨doc, hmem, rfl⟩, hid⟩

theorem mem_listPendingPriceAlerts : alert ∈ listPendingPriceAlerts table ↔
    (∃ doc ∈ table.docs, doc.2 = alert) ∧ alert.status = .PENDING := by
  rw [listPendingPriceAlerts, mem_sortOn, List.mem_filter, List.mem_map, beq_iff_eq]

theorem nodup_listPendingPriceAlerts (hsound : Sound table.docs) :
    ((listPendingPriceAlerts table).map fun alert => alert.id).Nodup := by
  have hperm : ((listPendingPriceAlerts table).map fun alert => alert.id).Perm
      (((table.docs.map Prod.snd).filter fun alert => alert.status == .PENDING).map
        fun alert => alert.id) := perm_sortOn.map _
  refine hperm.nodup_iff.mpr (List.Nodup.sublist (List.filter_sublist.map _) ?_)
  rw [List.map_map]
  exact hsound.ids

theorem cancelPriceAlertForChat_table (insertion : AlertInsertion live) (alertId chatId : ℤ)
    (hsound : Sound table.docs) :
    (cancelPriceAlertForChat insertion alertId chatId table).2 = table ∨ ∃ doc ∈ table.docs,
      (cancelPriceAlertForChat insertion alertId chatId table).2 =
        { table with docs := setAlert doc.2.cancel table.docs } := by
  unfold cancelPriceAlertForChat
  cases hget : getPriceAlert table alertId with
  | none => exact Or.inl rfl
  | some existing =>
      obtain ⟨⟨doc, hdoc, rfl⟩, -⟩ := holds_of_getPriceAlert hget
      by_cases hchat : doc.2.chatId ≠ chatId
      · exact Or.inl (by simp only [if_pos hchat])
      · refine Or.inr ⟨doc, hdoc, ?_⟩
        have hheld : Holds table.docs doc.2.cancel := ⟨doc, hdoc, rfl⟩
        simp only [if_neg hchat, cancelPriceAlert, hget, validate_cancelled,
          upsertPriceAlert_held insertion hsound hheld]

theorem upsertPriceAlert_command (insertion : AlertInsertion live) (command : PriceAlertCommand)
    (hcurrent : table.Current) :
    (upsertPriceAlert insertion none command.payload table).2 = table ∨ ∃ alert : PriceAlert live,
      alert.id = nextNumericId table.docs ∧ alert.armed = false ∧
        (upsertPriceAlert insertion none command.payload table).2 = table.added alert := by
  let resolved : PriceAlertFields := { command.payload with id := nextNumericId table.docs }
  have hfind : findAlertDocument table.docs (nextNumericId table.docs) = none :=
    DocTable.get_eq_none.mpr fun doc hdoc => (lt_nextNumericId hdoc).ne
  cases hcontract : resolved.contractError live with
  | none =>
      refine Or.inr ⟨⟨resolved, hcontract⟩, rfl, rfl, ?_⟩
      unfold upsertPriceAlert writePriceAlert
      simp only [Option.getD_none]
      rw [validate_of_contract hcontract]
      simp only [resolved, hfind, insertion.insert_of_current _ hcurrent]
  | some message =>
      have hvalidate : resolved.validate live = .error (.valueError message) := by
        unfold PriceAlertFields.validate
        split
        · rename_i h
          rw [h] at hcontract
          cases hcontract
        · rename_i other h
          rw [h] at hcontract
          rw [Option.some.inj hcontract]
      refine Or.inl ?_
      unfold upsertPriceAlert writePriceAlert
      simp only [Option.getD_none]
      rw [hvalidate]

theorem contractError_armedNow (alert : PriceAlert live) (h : alert.status = .PENDING) :
    alert.armedNow.contractError live = none := by
  have hcontract := alert.contract
  unfold PriceAlertFields.contractError at hcontract ⊢
  rw [firstViolation_eq_none] at hcontract ⊢
  simp_all [PriceAlertFields.armedNow]

theorem contractError_firedAtTime (alert : PriceAlert live) (now : Instant) :
    (alert.firedAtTime now).contractError live = none := by
  have hcontract := alert.contract
  unfold PriceAlertFields.contractError at hcontract ⊢
  rw [firstViolation_eq_none] at hcontract ⊢
  simp_all [PriceAlertFields.firedAtTime]

theorem rewritePriceAlert_held (insertion : AlertInsertion live) (hsound : Sound table.docs)
    {payload : PriceAlertFields}
    (hcontract : payload.contractError live = none) (h : Holds table.docs ⟨payload, hcontract⟩) :
    rewritePriceAlert insertion payload table =
      (.ok ⟨payload, hcontract⟩, { table with docs := setAlert ⟨payload, hcontract⟩ table.docs }) := by
  rw [rewritePriceAlert, validate_of_contract hcontract]
  exact upsertPriceAlert_held insertion hsound h

/-! ### Alerts and ticks -/

/-- The ticks a stored alert is armed for: one on its safe side, unless it was armed from the start. -/
def Warned (start : List (ℕ × PriceAlert live)) (ticks : List PriceTick) (alert : PriceAlertFields) : Prop :=
  (∃ doc ∈ start, doc.2.id = alert.id ∧ doc.2.armed = true) ∨
    ∃ tick ∈ ticks, tick.instrument = alert.instrument ∧ tick.crossed alert = false

theorem Warned.of_core {a b : PriceAlertFields} (h : Warned start ticks a) (hcore : a.core = b.core) :
    Warned start ticks b := by
  refine h.imp (fun ⟨doc, hdoc, hid, harmed⟩ => ⟨doc, hdoc, hid.trans (id_of_core hcore), harmed⟩) ?_
  rintro ⟨tick, htick, hinstrument, hcrossed⟩
  exact ⟨tick, htick, hinstrument.trans (instrument_of_core hcore), crossed_of_core hcore tick ▸ hcrossed⟩

theorem Warned.mono {a : PriceAlertFields} (h : Warned start ticks a) {ticks' : List PriceTick}
    (hsub : ticks ⊆ ticks') : Warned start ticks' a :=
  h.imp_right fun ⟨tick, htick, hsafe⟩ => ⟨tick, hsub htick, hsafe⟩

/-- An alert fired at a tick that crosses its target, after one on its safe side. -/
def FiredRightly (start : List (ℕ × PriceAlert live)) (ticks : List PriceTick) (alert : PriceAlertFields)
    (fireValue : ℚ) : Prop :=
  ∃ earlier tick, earlier ++ [tick] <+: ticks ∧ tick.instrument = alert.instrument ∧
    tick.crossed alert = true ∧ fireValue = tick.fireValue alert.direction ∧ Warned start earlier alert

theorem FiredRightly.concat {a : PriceAlertFields} {fireValue : ℚ}
    (h : FiredRightly start ticks a fireValue) (tick : PriceTick) :
    FiredRightly start (ticks ++ [tick]) a fireValue := by
  obtain ⟨earlier, at', hprefix, hrest⟩ := h
  exact ⟨earlier, at', hprefix.trans (List.prefix_append ticks [tick]), hrest⟩

theorem FiredRightly.of_core {a b : PriceAlertFields} {fireValue : ℚ}
    (h : FiredRightly start ticks a fireValue) (hcore : a.core = b.core) :
    FiredRightly start ticks b fireValue := by
  obtain ⟨earlier, tick, hprefix, hinstrument, hcrossed, hvalue, hwarned⟩ := h
  exact ⟨earlier, tick, hprefix, hinstrument.trans (instrument_of_core hcore),
    crossed_of_core hcore tick ▸ hcrossed, direction_of_core hcore ▸ hvalue, hwarned.of_core hcore⟩

/-- The table holds an alert that is no longer pending. -/
def Retired (docs : List (ℕ × PriceAlert live)) (alert : PriceAlert live) : Prop :=
  ∃ doc ∈ docs, doc.2.core = alert.core ∧ doc.2.status ≠ .PENDING

def firedIds (fired : List (FiredPriceAlert live)) : List ℤ := fired.map fun f => f.alert.id

/-! ### The invariant of the table -/

/-- What the table says about the ticks and about the alerts that have fired. -/
structure TableInv (start : List (ℕ × PriceAlert live)) (ticks : List PriceTick)
    (fired : List (FiredPriceAlert live)) (table : AlertTable live) : Prop where
  sound : Sound table.docs
  current : table.Current
  retired : ∀ f ∈ fired, Retired table.docs f.alert
  armed : ∀ doc ∈ table.docs, doc.2.armed = true → Warned start ticks doc.2.toPriceAlertFields

namespace TableInv

/-- A held alert is written; if it is pending, then it has not fired. -/
theorem set (h : TableInv start ticks fired table) (hheld : Holds table.docs alert)
    (hstatus : alert.status ≠ .PENDING ∨ alert.id ∉ firedIds fired)
    (harmed : alert.armed = true → Warned start ticks alert.toPriceAlertFields) :
    TableInv start ticks fired { table with docs := setAlert alert table.docs } := by
  refine ⟨(extends_setAlert h.sound hheld).sound h.sound,
    current_map h.current fun doc hdoc => (setAlert_core h.sound hheld doc hdoc).1, fun f hf => ?_,
    fun doc hdoc hdocArmed => ?_⟩
  · obtain ⟨doc, hdoc, hcore, hretired⟩ := h.retired f hf
    by_cases hid : doc.2.id = alert.id
    · obtain ⟨doc', hdoc', rfl⟩ := exists_mem_setAlert hheld
      have hnot : doc'.2.status ≠ .PENDING := hstatus.resolve_right fun hnew =>
        hnew (List.mem_map.mpr ⟨f, hf, (id_of_core hcore).symm.trans hid⟩)
      obtain ⟨held, hmem, hheldCore⟩ := hheld
      have hsame : doc = held := h.sound.eq_of_id hdoc hmem (hid.trans (id_of_core hheldCore).symm)
      exact ⟨doc', hdoc', hheldCore.symm.trans (hsame ▸ hcore), hnot⟩
    · exact ⟨doc, mem_setAlert_of_ne hdoc hid, hcore, hretired⟩
  · rcases mem_setAlert hdoc with rfl | ⟨hold, -⟩
    · exact harmed hdocArmed
    · exact h.armed doc hold hdocArmed

theorem added (h : TableInv start ticks fired table) (hid : alert.id = nextNumericId table.docs)
    (hunarmed : alert.armed = false) : TableInv start ticks fired (table.added alert) := by
  refine ⟨(extends_added h.current hid).sound h.sound, AutoTable.current_added alert h.current,
    fun f hf => ?_, fun doc hdoc harmed => ?_⟩
  · obtain ⟨doc, hdoc, hretired⟩ := h.retired f hf
    exact ⟨doc, List.mem_append_left _ hdoc, hretired⟩
  · rcases List.mem_append.mp hdoc with hold | hnew
    · exact h.armed doc hold harmed
    · obtain rfl := List.mem_singleton.mp hnew
      rw [hunarmed] at harmed
      cases harmed

end TableInv

/-! ### The invariant of the engine -/

/-- The alerts that a tick still has to do with. -/
def EngineStage.inHand : EngineStage live → List (PriceAlert live)
  | .waiting => []
  | .evaluating _ rest => rest
  | .arming _ alert rest | .notified _ alert rest | .firing _ alert rest => alert :: rest

/-- The alerts in hand are held, have not fired, and are different ones. -/
structure HandInv (docs : List (ℕ × PriceAlert live)) (fired : List (FiredPriceAlert live))
    (hand : List (PriceAlert live)) : Prop where
  holds : ∀ alert ∈ hand, Holds docs alert
  fresh : ∀ alert ∈ hand, alert.id ∉ firedIds fired
  nodup : (hand.map fun alert => alert.id).Nodup

/-- The tick is the last one, and came after those that the rest is armed for. -/
def AlertTurn (start : List (ℕ × PriceAlert live)) (ticks : List PriceTick) (tick : PriceTick)
    (rest : List (PriceAlert live)) : Prop :=
  ∃ earlier, ticks = earlier ++ [tick] ∧
    ∀ alert ∈ rest, alert.armed = true → Warned start earlier alert.toPriceAlertFields

/-- What the engine has found out where it is. -/
def EngineStage.Right (start : List (ℕ × PriceAlert live)) (ticks : List PriceTick) :
    EngineStage live → Prop
  | .waiting => True
  | .evaluating tick rest => AlertTurn start ticks tick rest
  | .arming tick alert rest =>
      (alert.status = .PENDING ∧ tick.instrument = alert.instrument ∧
        tick.crossed alert.toPriceAlertFields = false) ∧ AlertTurn start ticks tick rest
  | .notified tick alert rest | .firing tick alert rest =>
      FiredRightly start ticks alert.toPriceAlertFields (tick.fireValue alert.direction) ∧
        AlertTurn start ticks tick rest

/-- No more messages than turns that ended in a mark or without one, and as many where all are sent. -/
def MessagesFor (notifies : Prop) (messages turns : ℕ) : Prop :=
  messages ≤ turns ∧ (notifies → messages = turns)

theorem MessagesFor.add {notifies : Prop} {messages turns : ℕ} (h : MessagesFor notifies messages turns)
    (n : ℕ) : MessagesFor notifies (messages + n) (turns + n) :=
  ⟨Nat.add_le_add_right h.1 n, fun hnotifies => congrArg (· + n) (h.2 hnotifies)⟩

theorem MessagesFor.unsent {notifies : Prop} {messages turns : ℕ} (h : MessagesFor notifies messages turns)
    (hnone : ¬ notifies) (n : ℕ) : MessagesFor notifies messages (turns + n) :=
  ⟨h.1.trans (Nat.le_add_right _ _), fun hnotifies => absurd hnotifies hnone⟩

/-- What holds after every run; `notifies` says that every delivery of the run has a notifier. -/
structure AlertSystem.Inv (notifies : Prop) (start : List (ℕ × PriceAlert live)) (s : AlertSystem live) :
    Prop where
  table : TableInv start s.ticks s.fired s.table
  hand : HandInv s.table.docs s.fired s.stage.inHand
  stage : s.stage.Right start s.ticks
  fireOnce : (firedIds s.fired).Nodup
  rightly : ∀ f ∈ s.fired, FiredRightly start s.ticks f.alert.toPriceAlertFields f.fireValue
  messages : ∀ id, MessagesFor notifies (s.messages.count id)
    ((firedIds s.fired).count id + s.unmarked.count id + s.stage.unmarked.count id)

section inv

variable {notifies : Prop} {s : AlertSystem live} {tick : PriceTick} {rest : List (PriceAlert live)}

theorem HandInv.tail {hand : List (PriceAlert live)} (h : HandInv docs fired (alert :: hand)) :
    HandInv docs fired hand :=
  ⟨fun a ha => h.holds a (List.mem_cons_of_mem _ ha), fun a ha => h.fresh a (List.mem_cons_of_mem _ ha),
    (List.nodup_cons.mp h.nodup).2⟩

theorem HandInv.nil : HandInv docs fired [] :=
  ⟨fun _ h => absurd h List.not_mem_nil, fun _ h => absurd h List.not_mem_nil, List.nodup_nil⟩

theorem HandInv.reread {hand : List (PriceAlert live)} (h : HandInv docs fired (alert :: hand))
    {existing : PriceAlert live} (hheld : Holds docs existing) (hid : existing.id = alert.id) :
    HandInv docs fired (existing :: hand) := by
  refine ⟨List.forall_mem_cons.mpr ⟨hheld, h.tail.holds⟩, List.forall_mem_cons.mpr ⟨?_, h.tail.fresh⟩, ?_⟩
  · rw [hid]
    exact h.fresh alert List.mem_cons_self
  · rw [List.map_cons, hid]
    exact h.nodup

theorem HandInv.extends {created : List (PriceAlert live)} {docs' : List (ℕ × PriceAlert live)}
    {hand : List (PriceAlert live)} (h : HandInv docs fired hand) (hextends : Extends docs created docs') :
    HandInv docs' fired hand :=
  ⟨fun a ha => hextends.holds (h.holds a ha), h.fresh, h.nodup⟩

theorem AlertTurn.tail {hand : List (PriceAlert live)} (h : AlertTurn start ticks tick (alert :: hand)) :
    AlertTurn start ticks tick hand := by
  obtain ⟨earlier, hticks, harmed⟩ := h
  exact ⟨earlier, hticks, fun a ha => harmed a (List.mem_cons_of_mem _ ha)⟩

/-- The alert that is read under the id of one that is held is the same one. -/
theorem held_of_read {readable : Bool} {existing : PriceAlert live} (hsound : Sound table.docs)
    (hheld : Holds table.docs alert) (h : readPriceAlert readable table alert.id = some existing) :
    Holds table.docs existing ∧ existing.core = alert.core := by
  have hget : getPriceAlert table alert.id = some existing := by
    cases readable with
    | true => exact h
    | false => cases h
  obtain ⟨found, hfound, hcore⟩ := getPriceAlert_of_holds hsound hheld
  obtain rfl := Option.some.inj (hget.symm.trans hfound)
  obtain ⟨⟨doc, hdoc, hsame⟩, -⟩ := holds_of_getPriceAlert hget
  exact ⟨⟨doc, hdoc, hsame ▸ rfl⟩, hcore⟩

/-- What the invariant says where the engine is. -/
theorem AlertSystem.Inv.at_stage (h : s.Inv notifies start) {stage : EngineStage live}
    (hstage : s.stage = stage) :
    HandInv s.table.docs s.fired stage.inHand ∧ stage.Right start s.ticks ∧
      ∀ id, MessagesFor notifies (s.messages.count id)
        ((firedIds s.fired).count id + s.unmarked.count id + stage.unmarked.count id) := by
  subst hstage
  exact ⟨h.hand, h.stage, h.messages⟩

theorem AlertSystem.inv_tick (h : s.Inv notifies start) (tick : PriceTick) (readable : Bool) :
    (s.step insertion (.tick tick readable)).Inv notifies start := by
  unfold AlertSystem.step
  cases hstage : s.stage with
  | waiting =>
      let pending := listPendingPriceAlerts s.table
      have hpending : HandInv s.table.docs s.fired pending := by
        refine ⟨fun alert halert => ?_, fun alert halert hin => ?_, nodup_listPendingPriceAlerts h.table.sound⟩
        · obtain ⟨⟨doc, hdoc, rfl⟩, -⟩ := mem_listPendingPriceAlerts.mp halert
          exact ⟨doc, hdoc, rfl⟩
        · -- an alert that has fired is no longer pending
          obtain ⟨⟨doc, hdoc, rfl⟩, hstatus⟩ := mem_listPendingPriceAlerts.mp halert
          obtain ⟨f, hf, hid⟩ := List.mem_map.mp hin
          obtain ⟨doc', hdoc', hcore, hretired⟩ := h.table.retired f hf
          rw [h.table.sound.eq_of_id hdoc' hdoc ((id_of_core hcore).trans hid)] at hretired
          exact hretired hstatus
      have hturn : AlertTurn start (s.ticks ++ [tick]) tick pending := by
        refine ⟨s.ticks, rfl, fun alert halert harmed => ?_⟩
        obtain ⟨⟨doc, hdoc, rfl⟩, -⟩ := mem_listPendingPriceAlerts.mp halert
        exact h.table.armed doc hdoc harmed
      refine ⟨⟨h.table.sound, h.table.current, h.table.retired, fun doc hdoc harmed =>
        (h.table.armed doc hdoc harmed).mono (List.subset_append_left _ _)⟩, ?_, ?_, h.fireOnce,
        fun f hf => (h.rightly f hf).concat tick, fun id => ?_⟩
      · cases readable with
        | true => exact hpending
        | false => exact HandInv.nil
      · cases readable with
        | true => exact hturn
        | false => exact ⟨s.ticks, rfl, fun _ hnone => absurd hnone List.not_mem_nil⟩
      · exact (h.at_stage hstage).2.2 id
  | _ => exact h

theorem AlertSystem.inv_evaluate (h : s.Inv notifies start)
    (hstage : s.stage = .evaluating tick (alert :: rest)) (outcome : EngineOutcome)
    (houtcome : notifies → outcome.delivery ≠ .noNotifier) :
    (s.evaluate tick alert rest outcome).Inv notifies start := by
  obtain ⟨hhand, hturn, hmessages⟩ : HandInv s.table.docs s.fired (alert :: rest) ∧
      AlertTurn start s.ticks tick (alert :: rest) ∧ ∀ id, MessagesFor notifies (s.messages.count id)
        ((firedIds s.fired).count id + s.unmarked.count id) := h.at_stage hstage
  have hskip : AlertSystem.Inv notifies start { s with stage := .evaluating tick rest } :=
    ⟨h.table, hhand.tail, hturn.tail, h.fireOnce, h.rightly, hmessages⟩
  unfold AlertSystem.evaluate
  by_cases hinstrument : alert.instrument = tick.instrument
  swap
  · rw [if_pos hinstrument]
    exact hskip
  rw [if_neg (not_not_intro hinstrument)]
  cases harmed : alert.armed <;> cases hcrossed : tick.crossed alert.toPriceAlertFields
  · -- the alert is to be armed, if it still can be
    simp only [if_true, Bool.false_eq_true, if_false]
    cases hread : readPriceAlert outcome.readable s.table alert.id with
    | none => exact hskip
    | some existing =>
        dsimp only
        by_cases hchanged : existing.status ≠ .PENDING ∨ existing.armed = true
        · rw [if_pos hchanged]
          exact hskip
        · rw [if_neg hchanged]
          obtain ⟨hheld, hcore⟩ := held_of_read h.table.sound (hhand.holds alert List.mem_cons_self) hread
          exact ⟨h.table, hhand.reread hheld (id_of_core hcore),
            ⟨⟨not_not.mp (not_or.mp hchanged).1, hinstrument.symm.trans (instrument_of_core hcore).symm,
              (crossed_of_core hcore tick).trans hcrossed⟩, hturn.tail⟩, h.fireOnce, h.rightly, hmessages⟩
  · exact hskip
  · exact hskip
  · -- the alert fires, if its message is delivered
    have hrightly : FiredRightly start s.ticks alert.toPriceAlertFields (tick.fireValue alert.direction) := by
      obtain ⟨earlier, hticks, hwarned⟩ := hturn
      exact ⟨earlier, tick, hticks ▸ List.prefix_rfl, hinstrument.symm, hcrossed, rfl,
        hwarned alert List.mem_cons_self harmed⟩
    rw [if_neg (Bool.noConfusion ·), if_neg (Bool.noConfusion ·)]
    cases hdelivery : outcome.delivery with
    | raised => exact ⟨h.table, HandInv.nil, trivial, h.fireOnce, h.rightly, hmessages⟩
    | failed => exact hskip
    | noNotifier =>
        exact ⟨h.table, hhand, ⟨hrightly, hturn.tail⟩, h.fireOnce, h.rightly, fun id =>
          (hmessages id).unsent (fun hnotifies => houtcome hnotifies hdelivery) _⟩
    | delivered =>
        refine ⟨h.table, hhand, ⟨hrightly, hturn.tail⟩, h.fireOnce, h.rightly, fun id => ?_⟩
        rw [List.count_append]
        exact (hmessages id).add _

theorem AlertSystem.inv_arm (h : s.Inv notifies start) {existing : PriceAlert live}
    (hstage : s.stage = .arming tick existing rest) (outcome : EngineOutcome) :
    (s.engine insertion outcome).Inv notifies start := by
  obtain ⟨hhand, ⟨⟨hpending, hinstrument, hsafe⟩, hturn⟩, hmessages⟩ := h.at_stage hstage
  unfold AlertSystem.engine
  rw [hstage]
  dsimp only
  split_ifs
  · have hcontract := contractError_armedNow existing hpending
    have hheld : Holds s.table.docs ⟨existing.armedNow, hcontract⟩ :=
      hhand.holds existing List.mem_cons_self
    rw [rewritePriceAlert_held insertion h.table.sound hcontract hheld]
    have hwarned : Warned start s.ticks existing.armedNow := by
      obtain ⟨earlier, hticks, -⟩ := hturn
      exact Or.inr ⟨tick, hticks ▸ List.mem_append_right _ List.mem_cons_self, hinstrument, hsafe⟩
    exact ⟨h.table.set hheld (Or.inr (hhand.fresh existing List.mem_cons_self)) fun _ => hwarned,
      hhand.tail.extends (extends_setAlert h.table.sound hheld), hturn, h.fireOnce, h.rightly, hmessages⟩
  · exact ⟨h.table, HandInv.nil, trivial, h.fireOnce, h.rightly, hmessages⟩

theorem AlertSystem.inv_read (h : s.Inv notifies start) (hstage : s.stage = .notified tick alert rest)
    (outcome : EngineOutcome) : (s.engine insertion outcome).Inv notifies start := by
  obtain ⟨hhand, ⟨hrightly, hturn⟩, hmessages⟩ := h.at_stage hstage
  unfold AlertSystem.engine
  rw [hstage]
  dsimp only
  split
  · refine ⟨h.table, hhand.tail, hturn, h.fireOnce, h.rightly, fun id => ?_⟩
    rw [List.count_append, ← Nat.add_assoc]
    exact hmessages id
  · rename_i existing hread
    obtain ⟨hheld, hcore⟩ := held_of_read h.table.sound (hhand.holds alert List.mem_cons_self) hread
    have hid := id_of_core hcore
    refine ⟨h.table, hhand.reread hheld hid, ⟨?_, hturn⟩, h.fireOnce, h.rightly, fun id => ?_⟩
    · rw [direction_of_core hcore]
      exact hrightly.of_core hcore.symm
    · show MessagesFor notifies _ (_ + [existing.id].count id)
      rw [hid]
      exact hmessages id

theorem AlertSystem.inv_fire (h : s.Inv notifies start) {existing : PriceAlert live}
    (hstage : s.stage = .firing tick existing rest) (outcome : EngineOutcome) :
    (s.engine insertion outcome).Inv notifies start := by
  obtain ⟨hhand, ⟨hrightly, hturn⟩, hmessages⟩ := h.at_stage hstage
  unfold AlertSystem.engine
  rw [hstage]
  dsimp only
  split_ifs
  · have hcontract := contractError_firedAtTime existing outcome.now
    let updated : PriceAlert live := ⟨existing.firedAtTime outcome.now, hcontract⟩
    have hheld : Holds s.table.docs updated := hhand.holds existing List.mem_cons_self
    rw [rewritePriceAlert_held insertion h.table.sound hcontract hheld]
    have hset := h.table.set hheld (Or.inl fun hstatus => nomatch hstatus) fun harmed => nomatch harmed
    have hids : firedIds (s.fired ++ [⟨updated, tick.fireValue existing.direction⟩]) =
        firedIds s.fired ++ [existing.id] := List.map_append
    refine ⟨⟨hset.sound, hset.current, ?_, hset.armed⟩, ⟨?_, ?_, hhand.tail.nodup⟩, hturn, ?_, ?_, ?_⟩
    · intro f hf
      rcases List.mem_append.mp hf with hold | hnew
      · exact hset.retired f hold
      · obtain rfl := List.mem_singleton.mp hnew
        obtain ⟨doc, hdoc, hsame⟩ := exists_mem_setAlert hheld
        exact ⟨doc, hdoc, hsame ▸ rfl, hsame ▸ fun hstatus => nomatch hstatus⟩
    · exact (hhand.tail.extends (extends_setAlert h.table.sound hheld)).holds
    · intro a ha hin
      rw [hids, List.mem_append, List.mem_singleton] at hin
      rcases hin with hold | hself
      · exact hhand.tail.fresh a ha hold
      · exact (List.nodup_cons.mp hhand.nodup).1 (List.mem_map.mpr ⟨a, ha, hself⟩)
    · rw [hids, ← List.concat_eq_append]
      exact h.fireOnce.concat (hhand.fresh existing List.mem_cons_self)
    · intro f hf
      rcases List.mem_append.mp hf with hold | hnew
      · exact h.rightly f hold
      · obtain rfl := List.mem_singleton.mp hnew
        exact hrightly.of_core rfl
    · intro id
      show MessagesFor notifies (s.messages.count id)
        ((firedIds (s.fired ++ [⟨updated, _⟩])).count id + s.unmarked.count id + 0)
      rw [hids, List.count_append, Nat.add_zero, Nat.add_right_comm]
      exact hmessages id
  · refine ⟨h.table, HandInv.nil, trivial, h.fireOnce, h.rightly, fun id => ?_⟩
    rw [List.count_append, ← Nat.add_assoc]
    exact hmessages id

/-- The next call of the engine. -/
theorem AlertSystem.inv_engine (h : s.Inv notifies start) (outcome : EngineOutcome)
    (houtcome : notifies → outcome.delivery ≠ .noNotifier) :
    (s.engine insertion outcome).Inv notifies start := by
  cases hstage : s.stage with
  | waiting =>
      unfold AlertSystem.engine
      rw [hstage]
      exact h
  | evaluating tick hand =>
      cases hand with
      | nil =>
          unfold AlertSystem.engine
          rw [hstage]
          exact ⟨h.table, HandInv.nil, trivial, h.fireOnce, h.rightly, (h.at_stage hstage).2.2⟩
      | cons alert rest =>
          unfold AlertSystem.engine
          rw [hstage]
          exact AlertSystem.inv_evaluate h hstage outcome houtcome
  | arming tick existing rest => exact AlertSystem.inv_arm h hstage outcome
  | notified tick alert rest => exact AlertSystem.inv_read h hstage outcome
  | firing tick existing rest => exact AlertSystem.inv_fire h hstage outcome

theorem AlertSystem.inv_command (h : s.Inv notifies start) {table : AlertTable live}
    {created : List (PriceAlert live)} (htable : TableInv start s.ticks s.fired table)
    (hextends : Extends s.table.docs created table.docs) : AlertSystem.Inv notifies start { s with table } :=
  ⟨htable, h.hand.extends hextends, h.stage, h.fireOnce, h.rightly, h.messages⟩

theorem AlertSystem.inv_step (h : s.Inv notifies start) (action : AlertAction)
    (haction : notifies → action.notifies) :
    (s.step insertion action).Inv notifies start := by
  cases action with
  | tick tick readable => exact AlertSystem.inv_tick h tick readable
  | engine outcome =>
      exact AlertSystem.inv_engine h outcome fun hnotifies => bne_iff_ne.mp (haction hnotifies)
  | priceAlertCommand command =>
      unfold AlertSystem.step
      rcases upsertPriceAlert_command insertion command h.table.current with hsame | ⟨alert, hid, harmed, hadded⟩
      · simp only [hsame]
        exact h
      · simp only [hadded]
        exact AlertSystem.inv_command h (h.table.added hid harmed) (extends_added h.table.current hid)
  | cancelPriceAlertForChat alertId chatId =>
      unfold AlertSystem.step
      rcases cancelPriceAlertForChat_table insertion alertId chatId h.table.sound with hsame | ⟨doc, hdoc, hset⟩
      · simp only [hsame]
        exact h
      · simp only [hset]
        have hheld : Holds s.table.docs doc.2.cancel := ⟨doc, hdoc, rfl⟩
        exact AlertSystem.inv_command h (h.table.set hheld (Or.inl fun hstatus => nomatch hstatus)
          fun harmed => nomatch harmed) (extends_setAlert h.table.sound hheld)
  | restart =>
      refine ⟨⟨h.table.sound, fun n hn => (nomatch hn), h.table.retired, h.table.armed⟩, HandInv.nil, trivial,
        h.fireOnce, h.rightly, fun id => ?_⟩
      show MessagesFor notifies _ (_ + (s.unmarked ++ s.stage.unmarked).count id)
      rw [List.count_append, ← Nat.add_assoc]
      exact h.messages id

theorem AlertSystem.inv_run (h : s.Inv notifies start) (actions : List AlertAction)
    (hactions : notifies → ∀ action ∈ actions, action.notifies) :
    (s.run insertion actions).Inv notifies start := by
  induction actions generalizing s with
  | nil => exact h
  | cons action actions ih =>
      exact ih (AlertSystem.inv_step h action fun hnotifies => hactions hnotifies _ List.mem_cons_self)
        fun hnotifies => (List.forall_mem_cons.mp (hactions hnotifies)).2

end inv

/-- **Price alerts fire once, and only when the price crosses.**  In every order of the ticks, the calls of
the engine, the commands and the restarts, whatever fails: no alert fires twice; one that has fired is in the
table and pending no more; it fired at a tick that crosses its target, for the price of this tick, after one
on its safe side, unless it was stored as armed; and an alert has at most one message, and one more for each
time it could not be marked as fired.  With a notifier its messages are exactly these: one if it has fired,
and one for each time it could not be marked, the turn that is under way included. -/
theorem priceAlerts_fire_once (insertion : AlertInsertion live) (table : AlertTable live)
    (hsound : Sound table.docs)
    (hopen : table.nextId = none) (actions : List AlertAction) :
    let s := AlertSystem.run insertion { table } actions
    (firedIds s.fired).Nodup ∧
      (∀ f ∈ s.fired, Retired s.table.docs f.alert) ∧
      (∀ f ∈ s.fired, FiredRightly table.docs s.ticks f.alert.toPriceAlertFields f.fireValue) ∧
      (∀ id, s.messages.count id ≤ 1 + s.unmarked.count id + s.stage.unmarked.count id) ∧
      ((∀ action ∈ actions, action.notifies) → ∀ id, s.messages.count id =
        (firedIds s.fired).count id + s.unmarked.count id + s.stage.unmarked.count id) := by
  intro s
  have hstart : AlertSystem.Inv (∀ action ∈ actions, action.notifies) table.docs { table } :=
    ⟨⟨hsound, fun n hn => (by rw [Option.mem_def.mp hn] at hopen; cases hopen),
      fun _ h => absurd h List.not_mem_nil, fun doc hdoc harmed => Or.inl ⟨doc, hdoc, rfl, harmed⟩⟩,
      HandInv.nil, trivial, List.nodup_nil, fun _ h => absurd h List.not_mem_nil,
      fun _ => ⟨le_refl 0, fun _ => rfl⟩⟩
  have h : s.Inv _ table.docs := AlertSystem.inv_run hstart actions id
  refine ⟨h.fireOnce, h.table.retired, h.rightly, fun id => ?_, fun hnotifies id =>
    (h.messages id).2 hnotifies⟩
  have honce := List.nodup_iff_count_le_one.mp h.fireOnce id
  have hmessages := (h.messages id).1
  omega

end engine

/-- `/pricealert` for gold above 3050. -/
def goldCommand : PriceAlertCommand where
  instrument := "XAU_USD"
  targetPrice := 3050
  direction := .above
  chatId := 7
  notes := none
  createdAt := 0

/-- Every call succeeds, at the time `now`. -/
def allWell (now : Instant) : AlertAction := .engine { now }

/-- A run in which gold rises over 3050 twice: the alert fires at the first tick that does, and not again. -/
def goldRises : List AlertAction :=
  [.priceAlertCommand goldCommand, .tick (goldTick 3000 1) true] ++ List.replicate 3 (allWell 1) ++
    [.tick (goldTick 3060 2) true] ++ List.replicate 4 (allWell 2) ++
    [.tick (goldTick 3040 3) true, allWell 3, .tick (goldTick 3070 4) true]

theorem priceAlerts_fire_once_gold :
    (let s := AlertSystem.run .refusing { table := newAlertTable } goldRises
    (firedIds s.fired).Nodup ∧
      (∀ f ∈ s.fired, Retired s.table.docs f.alert) ∧
      (∀ f ∈ s.fired, FiredRightly newAlertTable.docs s.ticks f.alert.toPriceAlertFields f.fireValue) ∧
      (∀ id, s.messages.count id ≤ 1 + s.unmarked.count id + s.stage.unmarked.count id) ∧
      ∀ id, s.messages.count id =
        (firedIds s.fired).count id + s.unmarked.count id + s.stage.unmarked.count id) ∧
    firedIds (AlertSystem.run .refusing { table := newAlertTable } goldRises).fired = [1] ∧
    (AlertSystem.run .refusing { table := newAlertTable } goldRises).ticks.length = 4 :=
  have ⟨honce, hretired, hrightly, hmost, hexactly⟩ :=
    priceAlerts_fire_once .refusing newAlertTable sound_newAlertTable rfl goldRises
  ⟨⟨honce, hretired, hrightly, hmost, hexactly (by decide)⟩, by decide +kernel, by decide +kernel⟩

/-! ### A tick that nothing disturbs -/

section undisturbed

variable {live : String → Bool} {docs : List (ℕ × PriceAlert live)} {alert : PriceAlert live}
  {insertion : AlertInsertion live}

def PriceAlert.afterTick (tick : PriceTick) (now : Instant) (alert : PriceAlert live) : PriceAlert live :=
  if h : alert.status = .PENDING ∧ alert.instrument = tick.instrument then
    if tick.crossed alert.toPriceAlertFields = alert.armed then
      if alert.armed then ⟨alert.firedAtTime now, contractError_firedAtTime alert now⟩
      else ⟨alert.armedNow, contractError_armedNow alert h.1⟩
    else alert
  else alert

def PriceAlert.fires (tick : PriceTick) (alert : PriceAlert live) : Bool :=
  alert.status == .PENDING && alert.instrument == tick.instrument && alert.armed &&
    tick.crossed alert.toPriceAlertFields

theorem afterTick_core (tick : PriceTick) (now : Instant) (alert : PriceAlert live) :
    (alert.afterTick tick now).core = alert.core := by
  unfold PriceAlert.afterTick
  split_ifs <;> rfl

theorem setAlert_self (hsound : Sound docs) {doc : ℕ × PriceAlert live} (hdoc : doc ∈ docs) :
    setAlert doc.2 docs = docs := by
  have hid : ∀ other ∈ docs, (if other.2.id = doc.2.id then (other.1, doc.2) else other) = other := by
    intro other hother
    split_ifs with hid
    · rw [hsound.eq_of_id hother hdoc hid]
    · rfl
  rw [setAlert, List.map_congr_left hid, List.map_id']

/-- What one alert of the loop adds to the result. -/
def firedBy (tick : PriceTick) (alert : PriceAlert live) : List ℤ :=
  if alert.fires tick then [alert.id] else []

/-- The engine gets from one state to another by itself, with calls at these times. -/
def Alone (insertion : AlertInsertion live) (times : List Instant) (s s' : AlertSystem live) : Prop :=
  s.run insertion (times.map allWell) = s'

theorem Alone.append {times times' : List Instant} {s s' s'' : AlertSystem live}
    (h : Alone insertion times s s') (h' : Alone insertion times' s' s'') :
    Alone insertion (times ++ times') s s'' := by
  rw [Alone, List.map_append, AlertSystem.run, List.foldl_append]
  rw [Alone, AlertSystem.run] at h h'
  rw [h, h']

/-- The calls of a turn: the alert is skipped, or read and written as armed, or its message is delivered,
and it is read and written as fired. -/
def turnCalls (tick : PriceTick) (alert : PriceAlert live) : ℕ :=
  if alert.instrument = tick.instrument ∧ tick.crossed alert.toPriceAlertFields = alert.armed then
    if alert.armed then 3 else 2
  else 1

/-- The calls of a loop; the last one returns. -/
def loopCalls (tick : PriceTick) (hand : List (PriceAlert live)) : ℕ :=
  (hand.map (turnCalls tick)).sum + 1

/-- A turn of the loop by itself. -/
structure Turned (tick : PriceTick) (now : Instant) (s : AlertSystem live) (alert : PriceAlert live)
    (rest : List (PriceAlert live)) (s' : AlertSystem live) : Prop where
  stage : s'.stage = .evaluating tick rest
  docs : s'.table.docs = setAlert (alert.afterTick tick now) s.table.docs
  fired : firedIds s'.fired = firedIds s.fired ++ firedBy tick alert

section turn

variable {s : AlertSystem live} {tick : PriceTick} {rest : List (PriceAlert live)}

theorem readPriceAlert_of_mem (hsound : Sound s.table.docs) (hmem : ∃ doc ∈ s.table.docs, doc.2 = alert) :
    readPriceAlert true s.table alert.id = some alert := by
  obtain ⟨doc, hdoc, rfl⟩ := hmem
  have hfind : findAlertDocument s.table.docs doc.2.id = some doc := DocTable.get_of_mem hsound.ids hdoc
  rw [readPriceAlert, if_pos rfl, getPriceAlert, hfind, Option.map_some]

/-- An alert is skipped, when its instrument is another one, or it is armed and not crossed, or crossed and
not armed. -/
theorem alone_skip (insertion : AlertInsertion live) (hsound : Sound s.table.docs)
    (hstage : s.stage = .evaluating tick (alert :: rest)) (hmem : ∃ doc ∈ s.table.docs, doc.2 = alert)
    (hskip : ¬(alert.instrument = tick.instrument ∧ tick.crossed alert.toPriceAlertFields = alert.armed))
    (now : Instant) :
    Alone insertion [now] s { s with stage := .evaluating tick rest } ∧
      Turned tick now s alert rest { s with stage := .evaluating tick rest } := by
  obtain ⟨doc, hdoc, rfl⟩ := hmem
  have hafter : doc.2.afterTick tick now = doc.2 := by
    unfold PriceAlert.afterTick
    split_ifs with hboth hturn harmed
    · exact absurd ⟨hboth.2, hturn⟩ hskip
    · exact absurd ⟨hboth.2, hturn⟩ hskip
    · rfl
    · rfl
  have hfires : doc.2.fires tick = false := by
    rw [Bool.eq_false_iff]
    intro hfires
    simp only [PriceAlert.fires, Bool.and_eq_true, beq_iff_eq] at hfires
    obtain ⟨⟨⟨-, hinstrument⟩, harmed⟩, hcrossed⟩ := hfires
    exact hskip ⟨hinstrument, hcrossed.trans harmed.symm⟩
  refine ⟨?_, rfl, ?_, ?_⟩
  · show s.engine insertion { now } = _
    rw [AlertSystem.engine, hstage]
    show s.evaluate tick doc.2 rest { now } = _
    by_cases hinstrument : doc.2.instrument = tick.instrument
    · have hturn : tick.crossed doc.2.toPriceAlertFields ≠ doc.2.armed := fun h => hskip ⟨hinstrument, h⟩
      rw [AlertSystem.evaluate, if_neg (not_not_intro hinstrument)]
      cases harmed : doc.2.armed with
      | false =>
          rw [harmed] at hturn
          rw [if_pos rfl, if_pos (Bool.eq_true_of_not_eq_false hturn)]
      | true =>
          rw [harmed] at hturn
          rw [if_neg Bool.false_ne_true.symm, if_pos (Bool.eq_false_of_not_eq_true hturn)]
    · rw [AlertSystem.evaluate, if_pos hinstrument]
  · rw [hafter, setAlert_self hsound hdoc]
  · rw [firedBy, hfires]
    exact (List.append_nil _).symm

variable (hsound : Sound s.table.docs) (hstage : s.stage = .evaluating tick (alert :: rest))
  (hmem : ∃ doc ∈ s.table.docs, doc.2 = alert) (hpending : alert.status = .PENDING)
  (hinstrument : alert.instrument = tick.instrument)
include hsound hstage hmem hpending hinstrument

/-- An alert that is not crossed is read, and written as armed. -/
theorem alone_arm (insertion : AlertInsertion live) (harmed : alert.armed = false)
    (hcrossed : tick.crossed alert.toPriceAlertFields = false) (first now : Instant) :
    ∃ s', Alone insertion [first, now] s s' ∧ Turned tick now s alert rest s' := by
  have hread := readPriceAlert_of_mem hsound hmem
  have hcontract := contractError_armedNow alert hpending
  let armed : PriceAlert live := ⟨alert.armedNow, hcontract⟩
  have hevaluate : s.engine insertion { now := first } = { s with stage := .arming tick alert rest } := by
    rw [AlertSystem.engine, hstage]
    show s.evaluate tick alert rest { now := first } = _
    rw [AlertSystem.evaluate, if_neg (not_not_intro hinstrument)]
    simp [harmed, hcrossed, hread, hpending]
  have hwrite : AlertSystem.engine insertion { s with stage := .arming tick alert rest } { now } =
      { s with
        table := { s.table with docs := setAlert armed s.table.docs }
        stage := .evaluating tick rest } := by
    obtain ⟨doc, hdoc, hsame⟩ := hmem
    have hrewrite := rewritePriceAlert_held insertion hsound hcontract ⟨doc, hdoc, hsame ▸ rfl⟩
    simp only [AlertSystem.engine, if_true, hrewrite, armed]
  have hcall : Alone insertion [first] s { s with stage := .arming tick alert rest } := hevaluate
  refine ⟨_, hcall.append hwrite, rfl, ?_, ?_⟩
  · rw [PriceAlert.afterTick, dif_pos ⟨hpending, hinstrument⟩]
    simp [harmed, hcrossed, armed]
  · simp [firedBy, PriceAlert.fires, harmed]

/-- The message of an armed alert that is crossed is delivered, and it is read and written as fired. -/
theorem alone_fire (insertion : AlertInsertion live) (harmed : alert.armed = true)
    (hcrossed : tick.crossed alert.toPriceAlertFields = true) (first second now : Instant) :
    ∃ s', Alone insertion [first, second, now] s s' ∧ Turned tick now s alert rest s' := by
  have hread := readPriceAlert_of_mem hsound hmem
  have hcontract := contractError_firedAtTime alert now
  let updated : PriceAlert live := ⟨alert.firedAtTime now, hcontract⟩
  let told : AlertSystem live :=
    { s with stage := .notified tick alert rest, messages := s.messages ++ [alert.id] }
  have hevaluate : s.engine insertion { now := first } = told := by
    rw [AlertSystem.engine, hstage]
    show s.evaluate tick alert rest { now := first } = _
    rw [AlertSystem.evaluate, if_neg (not_not_intro hinstrument)]
    simp [harmed, hcrossed, told]
  have hreads : told.engine insertion { now := second } = { told with stage := .firing tick alert rest } := by
    simp only [AlertSystem.engine, told, hread]
  have hwrite : AlertSystem.engine insertion { told with stage := .firing tick alert rest } { now } =
      { told with
        table := { s.table with docs := setAlert updated s.table.docs }
        stage := .evaluating tick rest
        fired := s.fired ++ [⟨updated, tick.fireValue alert.direction⟩] } := by
    obtain ⟨doc, hdoc, hsame⟩ := hmem
    have hrewrite := rewritePriceAlert_held insertion hsound hcontract ⟨doc, hdoc, hsame ▸ rfl⟩
    simp only [AlertSystem.engine, if_true, told, hrewrite, updated]
  have hcall : Alone insertion [first] s told := hevaluate
  have hcall' : Alone insertion [second] told { told with stage := .firing tick alert rest } := hreads
  refine ⟨_, hcall.append (hcall'.append hwrite), rfl, ?_, ?_⟩
  · rw [PriceAlert.afterTick, dif_pos ⟨hpending, hinstrument⟩]
    simp [harmed, hcrossed, updated]
  · have hfires : alert.fires tick = true := by
      simp [PriceAlert.fires, hpending, hinstrument, harmed, hcrossed]
    rw [firedBy, hfires]
    exact List.map_append

end turn

theorem alone_turn (insertion : AlertInsertion live) {s : AlertSystem live} {tick : PriceTick}
    {rest : List (PriceAlert live)} (hsound : Sound s.table.docs)
    (hstage : s.stage = .evaluating tick (alert :: rest)) (hmem : ∃ doc ∈ s.table.docs, doc.2 = alert)
    (hpending : alert.status = .PENDING) {times : List Instant} (htimes : times.length = turnCalls tick alert) :
    ∃ now ∈ times, ∃ s', Alone insertion times s s' ∧ Turned tick now s alert rest s' := by
  unfold turnCalls at htimes
  split_ifs at htimes with hturn harmed
  · obtain ⟨first, second, now, rfl⟩ := List.length_eq_three.mp htimes
    exact ⟨now, by simp, alone_fire hsound hstage hmem hpending hturn.1 insertion harmed
      (hturn.2.trans harmed) first second now⟩
  · have hunarmed : alert.armed = false := Bool.eq_false_of_not_eq_true harmed
    obtain ⟨first, now, rfl⟩ := List.length_eq_two.mp htimes
    exact ⟨now, by simp, alone_arm hsound hstage hmem hpending hturn.1 insertion hunarmed
      (hturn.2.trans hunarmed) first now⟩
  · obtain ⟨now, rfl⟩ := List.length_eq_one_iff.mp htimes
    exact ⟨now, List.mem_singleton_self now, _, alone_skip insertion hsound hstage hmem hturn now⟩

/-- What a loop makes of a document, where each alert is written at a time of its own. -/
def afterLoop (tick : PriceTick) (markedAt : ℤ → Instant) (hand : List (PriceAlert live))
    (doc : ℕ × PriceAlert live) : ℕ × PriceAlert live :=
  if doc.2 ∈ hand then (doc.1, doc.2.afterTick tick (markedAt doc.2.id)) else doc

/-- The first alert of a loop changes before the others, which it leaves as they are. -/
theorem map_afterLoop_cons (hsound : Sound docs) {doc : ℕ × PriceAlert live} (hdoc : doc ∈ docs)
    {rest : List (PriceAlert live)} (hfresh : doc.2.id ∉ rest.map fun alert => alert.id)
    (tick : PriceTick) (markedAt : ℤ → Instant) (now : Instant) :
    (setAlert (doc.2.afterTick tick now) docs).map (afterLoop tick markedAt rest) =
      docs.map (afterLoop tick (Function.update markedAt doc.2.id now) (doc.2 :: rest)) := by
  have hid : (doc.2.afterTick tick now).id = doc.2.id := id_of_core (afterTick_core tick now doc.2)
  rw [setAlert, List.map_map]
  refine List.map_congr_left fun other hother => ?_
  have hnot : ∀ alert : PriceAlert live, alert.id = doc.2.id → alert ∉ rest := fun alert hsame hmem =>
    hfresh (List.mem_map.mpr ⟨alert, hmem, hsame⟩)
  rw [Function.comp_apply, hid]
  by_cases hsame : other.2.id = doc.2.id
  · rw [hsound.eq_of_id hother hdoc hsame, if_pos rfl, afterLoop, afterLoop, if_neg (hnot _ hid),
      if_pos List.mem_cons_self, Function.update_self]
  · have hne : other.2 ≠ doc.2 := fun h => hsame (congrArg (fun alert : PriceAlert live => alert.id) h)
    rw [if_neg hsame, afterLoop, afterLoop, Function.update_of_ne hsame]
    simp only [List.mem_cons, hne, false_or]

theorem alone_loop (insertion : AlertInsertion live) {tick : PriceTick} (hand : List (PriceAlert live))
    {s : AlertSystem live} (hsound : Sound s.table.docs) (hstage : s.stage = .evaluating tick hand)
    (hhand : ∀ alert ∈ hand, (∃ doc ∈ s.table.docs, doc.2 = alert) ∧ alert.status = .PENDING)
    (hnodup : (hand.map fun alert => alert.id).Nodup) {times : List Instant}
    (htimes : times.length = loopCalls tick hand) :
    ∃ markedAt : ℤ → Instant, (∀ id, markedAt id ∈ times) ∧
      ∃ s', Alone insertion times s s' ∧ s'.stage = .waiting ∧
        s'.table.docs = s.table.docs.map (afterLoop tick markedAt hand) ∧
        firedIds s'.fired = firedIds s.fired ++ hand.flatMap (firedBy tick) := by
  induction hand generalizing s times with
  | nil =>
      obtain ⟨now, rfl⟩ := List.length_eq_one_iff.mp htimes
      have hstep : s.engine insertion { now } = { s with stage := .waiting } := by
        rw [AlertSystem.engine, hstage]
      have hsame : ∀ doc ∈ s.table.docs, afterLoop tick (fun _ => now) [] doc = doc := fun _ _ => rfl
      refine ⟨fun _ => now, fun _ => List.mem_singleton_self now, { s with stage := .waiting }, hstep, rfl,
        ?_, (List.append_nil _).symm⟩
      rw [List.map_congr_left hsame, List.map_id']
  | cons alert rest ih =>
      obtain ⟨hfirst, hrest⟩ := List.forall_mem_cons.mp hhand
      obtain ⟨hfresh, hdistinct⟩ := List.nodup_cons.mp hnodup
      obtain ⟨⟨doc, hdoc, rfl⟩, hpending⟩ := hfirst
      -- the calls of this turn, and those of the others
      have hlength : times.length = turnCalls tick doc.2 + loopCalls tick rest := by
        rw [htimes, loopCalls, List.map_cons, List.sum_cons, Nat.add_assoc]
        rfl
      obtain ⟨turn, others, rfl, hturns, hothers⟩ : ∃ turn others, times = turn ++ others ∧
          turn.length = turnCalls tick doc.2 ∧ others.length = loopCalls tick rest :=
        ⟨times.take (turnCalls tick doc.2), times.drop (turnCalls tick doc.2),
          (List.take_append_drop _ _).symm, by rw [List.length_take]; omega,
          by rw [List.length_drop]; omega⟩
      obtain ⟨now, hnow, s₁, hturn, hturned⟩ :=
        alone_turn insertion hsound hstage ⟨doc, hdoc, rfl⟩ hpending hturns
      have hheld : Holds s.table.docs (doc.2.afterTick tick now) :=
        ⟨doc, hdoc, (afterTick_core tick now doc.2).symm⟩
      have hsound₁ : Sound s₁.table.docs := by
        rw [hturned.docs]
        exact (extends_setAlert hsound hheld).sound hsound
      obtain ⟨markedAt, hmarked, s', hloop, hwaiting, hdocs, hfired⟩ := ih hsound₁ hturned.stage
        (fun other hother => by
          obtain ⟨⟨held, hmem, hsame⟩, hstatus⟩ := hrest other hother
          refine ⟨⟨held, ?_, hsame⟩, hstatus⟩
          rw [hturned.docs]
          refine mem_setAlert_of_ne hmem fun hid => hfresh (List.mem_map.mpr ⟨other, hother, ?_⟩)
          rw [← hsame, hid]
          exact id_of_core (afterTick_core tick now doc.2)) hdistinct hothers
      refine ⟨Function.update markedAt doc.2.id now, fun id => ?_, s', hturn.append hloop, hwaiting, ?_, ?_⟩
      · by_cases hid : id = doc.2.id
        · rw [hid, Function.update_self]
          exact List.mem_append_left _ hnow
        · rw [Function.update_of_ne hid]
          exact List.mem_append_right _ (hmarked id)
      · rw [hdocs, hturned.docs, map_afterLoop_cons hsound hdoc hfresh]
      · rw [hfired, hturned.fired, List.append_assoc]
        rfl

/-- **A tick that nothing disturbs** leaves each alert as it should: of the pending ones of its instrument,
those that it does not cross are armed, those that are armed and that it crosses have fired, in the order of
their ids and each at the time of a call, and all others are as they were. -/
theorem priceAlerts_undisturbed (insertion : AlertInsertion live) (s : AlertSystem live)
    (hsound : Sound s.table.docs)
    (hwaiting : s.stage = .waiting) (tick : PriceTick) :
    ∃ n, ∀ times : List Instant, times.length = n →
      let s' := s.run insertion (.tick tick true :: times.map allWell)
      s'.stage = .waiting ∧
      (∃ markedAt : ℤ → Instant, (∀ id, markedAt id ∈ times) ∧
        s'.table.docs = s.table.docs.map fun doc => (doc.1, doc.2.afterTick tick (markedAt doc.2.id))) ∧
      firedIds s'.fired = firedIds s.fired ++
        ((listPendingPriceAlerts s.table).filter fun alert => alert.fires tick).map fun alert => alert.id := by
  let hand := listPendingPriceAlerts s.table
  let begun : AlertSystem live := { s with stage := .evaluating tick hand, ticks := s.ticks ++ [tick] }
  have hbegin : s.step insertion (.tick tick true) = begun := by
    rw [AlertSystem.step, hwaiting]
    rfl
  refine ⟨loopCalls tick hand, fun times htimes => ?_⟩
  obtain ⟨markedAt, hmarked, s', hrun, hstage, hdocs, hfired⟩ := alone_loop insertion (s := begun) hand hsound
    rfl (fun alert halert => mem_listPendingPriceAlerts.mp halert) (nodup_listPendingPriceAlerts hsound) htimes
  have hwhole : s.run insertion (.tick tick true :: times.map allWell) = s' := by
    rw [← hrun, AlertSystem.run, List.foldl_cons, hbegin]
    rfl
  rw [hwhole]
  refine ⟨hstage, ⟨markedAt, hmarked, ?_⟩, ?_⟩
  · rw [hdocs]
    refine List.map_congr_left fun doc hdoc => ?_
    by_cases hpending : doc.2.status = .PENDING
    · exact if_pos (mem_listPendingPriceAlerts.mpr ⟨⟨doc, hdoc, rfl⟩, hpending⟩)
    · have hsame : doc.2.afterTick tick (markedAt doc.2.id) = doc.2 := dif_neg fun h => hpending h.1
      rw [hsame, afterLoop, if_neg fun h => hpending (mem_listPendingPriceAlerts.mp h).2]
  · rw [hfired]
    show _ ++ hand.flatMap (firedBy tick) = _ ++ (hand.filter _).map _
    congr 1
    clear htimes
    induction hand with
    | nil => rfl
    | cons alert rest ih =>
        rw [List.flatMap_cons, ih, List.filter_cons, firedBy]
        split_ifs
        · rfl
        · rfl

end undisturbed

/-- The alert for gold fires when nothing disturbs the tick. -/
theorem priceAlerts_undisturbed_gold :
    let s := AlertSystem.run .refusing { table := newAlertTable } (goldRises.take 5)
    ∃ n, ∀ times : List Instant, times.length = n →
      let s' := s.run .refusing (.tick (goldTick 3060 2) true :: times.map allWell)
      s'.stage = .waiting ∧
      (∃ markedAt : ℤ → Instant, (∀ id, markedAt id ∈ times) ∧ s'.table.docs =
        s.table.docs.map fun doc => (doc.1, doc.2.afterTick (goldTick 3060 2) (markedAt doc.2.id))) ∧
      firedIds s'.fired = firedIds s.fired ++
        ((listPendingPriceAlerts s.table).filter fun alert => alert.fires (goldTick 3060 2)).map
          fun alert => alert.id :=
  priceAlerts_undisturbed .refusing _ ⟨by decide +kernel, by decide +kernel⟩ (by decide +kernel)
    (goldTick 3060 2)

end OandaV3
