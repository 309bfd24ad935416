import OandaV3.AutoTable
import OandaV3.MarketState
import OandaV3.TradeStore

/-! # Price alerts

The price alerts of `data/persistence/trade_store.py`.  An alert has an id of its own, and its document a
number in the table.  `upsert_price_alert` inserts through the table, whose counter is set once;
`replace_price_alert_grid` writes its documents into the table with numbers it computes itself, and leaves
the counter behind.

A stored alert is a validated one (its JSON form is left out).  What an insertion does with a number in use
is left open: one document store refuses it, another one overwrites the document.

* `perform_spec`: what one operation does (`Performed`), with `Extends` for the table.
* `runAlerts_keeps`: a run in which no insertion follows a grid that follows an insertion loses nothing. -/

namespace OandaV3

open Dict DocTable TradeStore

/-! ### Alerts -/

/-- `AlertStatus`. -/
inductive AlertStatus where
  | PENDING
  | FIRED
  | CANCELLED
deriving DecidableEq, Repr

/-- `AlertDirection`. -/
inductive AlertDirection where
  | above
  | below
deriving DecidableEq, Repr

/-- A payload without an id, with its defaults; `createdAt` is its `created_at` or the time of the call. -/
structure AlertPayload where
  instrument : String
  targetPrice : ℚ
  direction : AlertDirection
  status : AlertStatus := .PENDING
  armed : Bool := false
  chatId : ℤ
  notes : Option String := none
  createdAt : Instant
  firedAt : Option Instant := none
deriving DecidableEq, Repr

/-- The fields of `PriceAlert`. -/
structure PriceAlertFields extends AlertPayload where
  id : ℤ
deriving DecidableEq, Repr

/-- The fields that stay as they were at the creation of an alert. -/
def PriceAlertFields.core (alert : PriceAlertFields) :
    ℤ × String × ℚ × AlertDirection × ℤ × Option String × Instant :=
  (alert.id, alert.instrument, alert.targetPrice, alert.direction, alert.chatId, alert.notes,
    alert.createdAt)

/-- `payload.update({"status": AlertStatus.CANCELLED, "armed": False, "fired_at": None})`. -/
def PriceAlertFields.cancelled (alert : PriceAlertFields) : PriceAlertFields :=
  { alert with status := .CANCELLED, armed := false, firedAt := none }

/-- The first violation of the contract of `PriceAlert`; `live` are the instruments of the catalog. -/
def PriceAlertFields.contractError (live : String → Bool) (alert : PriceAlertFields) : Option String :=
  firstViolation
    [(decide (0 < alert.id), "id must be greater than 0."),
     (decide (0 < alert.targetPrice), "target_price must be greater than 0."),
     (validOandaInstrumentSymbol alert.instrument,
      "instrument must look like an OANDA instrument symbol such as SPX500_USD or SGD_JPY."),
     (live alert.instrument, "Unknown live OANDA instrument '" ++ alert.instrument ++ "'."),
     (alert.status != .FIRED || alert.firedAt.isSome, "FIRED alerts must define fired_at."),
     (alert.status == .FIRED || alert.firedAt.isNone, "Only FIRED alerts may define fired_at."),
     (alert.status == .PENDING || !alert.armed, "Only pending alerts may remain armed.")]

structure PriceAlert (live : String → Bool) extends PriceAlertFields where
  contract : toPriceAlertFields.contractError live = none
deriving DecidableEq

/-- `PriceAlert.model_validate`. -/
def PriceAlertFields.validate (live : String → Bool) (alert : PriceAlertFields) :
    Except Exn (PriceAlert live) :=
  match h : alert.contractError live with
  | none => .ok ⟨alert, h⟩
  | some message => .error (.valueError message)

/-! ### Operations on the table -/

section operations

variable {live : String → Bool}

abbrev AlertTable (live : String → Bool) : Type := AutoTable (PriceAlert live)

abbrev AlertInsertion (live : String → Bool) : Type := Insertion (PriceAlert live)

/-- `_next_numeric_id`. -/
def nextNumericId (docs : List (ℕ × PriceAlert live)) : ℤ :=
  (docs.map fun doc => doc.2.id).foldl max 0 + 1

/-- `_find_alert_document`. -/
def findAlertDocument (docs : List (ℕ × PriceAlert live)) (alertId : ℤ) : Option (ℕ × PriceAlert live) :=
  DocTable.get (fun doc => doc.2.id) alertId docs

/-- `get_price_alert`. -/
def getPriceAlert (table : AlertTable live) (alertId : ℤ) : Option (PriceAlert live) :=
  (findAlertDocument table.docs alertId).map Prod.snd

/-- The `write` of `upsert_price_alert`. -/
def writePriceAlert (insertion : AlertInsertion live) (id : Option ℤ) (payload : AlertPayload)
    (table : AlertTable live) : Except Exn (PriceAlert live) × AlertTable live :=
  let resolved : PriceAlertFields := { payload with id := id.getD (nextNumericId table.docs) }
  match resolved.validate live with
  | .error e => (.error e, table)
  | .ok validated =>
      match findAlertDocument table.docs validated.id with
      | some existing =>
          (.ok validated, { table with
            docs := table.docs.map fun doc => if doc.1 = existing.1 then (doc.1, validated) else doc })
      | none =>
          match insertion.insert table validated with
          | (true, table) => (.ok validated, table)
          | (false, table') => (.error (.valueError
              ("Document with ID " ++ toString table.nextDocId ++ " already exists")), table')

/-- `upsert_price_alert`. -/
def upsertPriceAlert (insertion : AlertInsertion live) (id : Option ℤ) (payload : AlertPayload)
    (table : AlertTable live) : Except Exn (PriceAlert live) × AlertTable live :=
  let written := writePriceAlert insertion id payload table
  (strictWriteOperation "upsert_price_alert" written.1, written.2)

/-- `cancel_price_alert`. -/
def cancelPriceAlert (insertion : AlertInsertion live) (alertId : ℤ) (table : AlertTable live) :
    Except Exn (Option (PriceAlert live)) × AlertTable live :=
  match getPriceAlert table alertId with
  | none => (.ok none, table)
  | some existing =>
      match existing.cancelled.validate live with
      | .error e => (.error e, table)
      | .ok alert =>
          let written := upsertPriceAlert insertion (some alert.id) alert.toAlertPayload table
          (written.1.map some, written.2)

/-- `cancel_price_alert_for_chat`. -/
def cancelPriceAlertForChat (insertion : AlertInsertion live) (alertId chatId : ℤ) (table : AlertTable live) :
    Except Exn (Option (PriceAlert live)) × AlertTable live :=
  match getPriceAlert table alertId with
  | none => (.ok none, table)
  | some existing =>
      if existing.chatId ≠ chatId then (.ok none, table) else cancelPriceAlert insertion alertId table

/-- The loop that cancels the selected alerts of the table: the table, and the alerts it cancels. -/
def cancelWhere (select : PriceAlert live → Bool) :
    List (ℕ × PriceAlert live) → Except Exn (List (ℕ × PriceAlert live) × List (PriceAlert live))
  | [] => .ok ([], [])
  | doc :: docs =>
      if select doc.2 then do
        let validated ← doc.2.cancelled.validate live
        let (docs, cancelled) ← cancelWhere select docs
        return ((doc.1, validated) :: docs, validated :: cancelled)
      else do
        let (docs, cancelled) ← cancelWhere select docs
        return (doc :: docs, cancelled)

/-- The conditions of `cancel_price_alerts_for_chat`. -/
def selectedForChat (chatId : ℤ) (instrument : Option String) (statuses : List AlertStatus)
    (alert : PriceAlert live) : Bool :=
  alert.chatId == chatId && statuses.contains alert.status &&
    instrument.all fun instrument => alert.instrument == instrument

/-- `cancel_price_alerts_for_chat`. -/
def cancelPriceAlertsForChat (chatId : ℤ) (instrument : Option String) (statuses : List AlertStatus)
    (table : AlertTable live) : Except Exn (List (PriceAlert live)) × AlertTable live :=
  match cancelWhere (selectedForChat chatId instrument statuses) table.docs with
  | .ok (docs, cancelled) =>
      (.ok (sortOn (fun alert : PriceAlert live => alert.id) cancelled), { table with docs })
  | .error e => (strictWriteOperation "cancel_price_alerts_for_chat" (.error e), table)

/-- A payload of a grid; the other fields are set by `replace_price_alert_grid`. -/
structure GridPayload where
  targetPrice : ℚ
  direction : AlertDirection
  notes : Option String := none
  createdAt : Instant
deriving DecidableEq, Repr

/-- `resolved` of a grid. -/
def GridPayload.resolved (payload : GridPayload) (chatId : ℤ) (instrument : String) (id : ℤ) :
    PriceAlertFields where
  instrument := instrument
  targetPrice := payload.targetPrice
  direction := payload.direction
  chatId := chatId
  notes := payload.notes
  createdAt := payload.createdAt
  id := id

/-- The loop of `replace_price_alert_grid`: the table, and the alerts it creates. -/
def writeGrid (chatId : ℤ) (instrument : String) :
    List GridPayload → ℤ → ℕ → List (ℕ × PriceAlert live) →
      Except Exn (List (ℕ × PriceAlert live) × List (PriceAlert live))
  | [], _, _, docs => .ok (docs, [])
  | payload :: payloads, nextId, nextDocId, docs => do
      let validated ← (payload.resolved chatId instrument nextId).validate live
      let (docs, created) ← writeGrid chatId instrument payloads (nextId + 1) (nextDocId + 1)
        (assign docs nextDocId validated)
      return (docs, validated :: created)

/-- The conditions of the cancelling loop of `replace_price_alert_grid`. -/
def pendingInGrid (chatId : ℤ) (instrument : String) (alert : PriceAlert live) : Bool :=
  alert.chatId == chatId && alert.instrument == instrument && alert.status == .PENDING

/-- `replace_price_alert_grid`. -/
def replacePriceAlertGrid (chatId : ℤ) (instrument : String) (alerts : List GridPayload)
    (table : AlertTable live) : Except Exn (List (PriceAlert live)) × AlertTable live :=
  match getInstrumentSpec instrument with
  | .error e => (.error e, table)
  | .ok _ =>
      let nextId := (table.docs.map fun doc => doc.2.id).max?.getD 0 + 1
      let written := do
        let (docs, _) ← cancelWhere (pendingInGrid chatId instrument) table.docs
        writeGrid chatId instrument alerts nextId (AutoTable.afterKeys docs) docs
      match written with
      | .ok (docs, created) =>
          (.ok (sortOn (fun alert : PriceAlert live => alert.id) created), { table with docs })
      | .error e => (strictWriteOperation "replace_price_alert_grid" (.error e), table)

end operations

/-! ### Valid alerts -/

section valid

variable {live : String → Bool}

theorem validate_of_contract {alert : PriceAlertFields} (h : alert.contractError live = none) :
    alert.validate live = .ok ⟨alert, h⟩ := by
  unfold PriceAlertFields.validate
  split
  · rfl
  · rename_i message hmessage
    rw [h] at hmessage
    cases hmessage

theorem contractError_cancelled (alert : PriceAlert live) : alert.cancelled.contractError live = none := by
  have h := alert.contract
  unfold PriceAlertFields.contractError at h ⊢
  rw [firstViolation_eq_none] at h ⊢
  simp_all [PriceAlertFields.cancelled]

/-- What is valid with the id 1 is valid with every id. -/
theorem contractError_id {payload : AlertPayload}
    (h : PriceAlertFields.contractError live { payload with id := 1 } = none) {id : ℤ} (hid : 0 < id) :
    PriceAlertFields.contractError live { payload with id } = none := by
  unfold PriceAlertFields.contractError at h ⊢
  rw [firstViolation_eq_none] at h ⊢
  simp_all

def PriceAlert.cancel (alert : PriceAlert live) : PriceAlert live :=
  ⟨alert.cancelled, contractError_cancelled alert⟩

theorem validate_cancelled (alert : PriceAlert live) :
    alert.cancelled.validate live = .ok alert.cancel :=
  validate_of_contract _

end valid

/-! ### What an operation does to the table -/

section growth

variable {live : String → Bool} {docs docs' : List (ℕ × PriceAlert live)}
  {created : List (PriceAlert live)}

/-- The numbers and the ids are unique. -/
structure Sound (docs : List (ℕ × PriceAlert live)) : Prop where
  keys : (docs.map Prod.fst).Nodup
  ids : (docs.map fun doc => doc.2.id).Nodup

/-- The documents are kept, with other states of their alerts, and new alerts come after them. -/
def Extends (docs : List (ℕ × PriceAlert live)) (created : List (PriceAlert live))
    (docs' : List (ℕ × PriceAlert live)) : Prop :=
  ∃ change : ℕ × PriceAlert live → ℕ × PriceAlert live, ∃ new,
    (∀ doc ∈ docs, (change doc).1 = doc.1 ∧ (change doc).2.core = doc.2.core) ∧
    docs' = docs.map change ++ new ∧ new.map Prod.snd = created ∧
    (∀ doc ∈ docs, ∀ doc' ∈ new, doc.1 < doc'.1 ∧ doc.2.id < doc'.2.id) ∧
    new.Pairwise fun doc doc' => doc.1 < doc'.1 ∧ doc.2.id < doc'.2.id

theorem id_of_core {alert alert' : PriceAlertFields} (h : alert.core = alert'.core) :
    alert.id = alert'.id :=
  congrArg Prod.fst h

theorem Extends.sound (h : Extends docs created docs') (hsound : Sound docs) : Sound docs' := by
  obtain ⟨change, new, hchange, rfl, -, hafter, hnew⟩ := h
  have hkeys : (docs.map change).map Prod.fst = docs.map Prod.fst := by
    rw [List.map_map]
    exact List.map_congr_left fun doc hdoc => (hchange doc hdoc).1
  have hids : (docs.map change).map (fun doc => doc.2.id) = docs.map fun doc => doc.2.id := by
    rw [List.map_map]
    exact List.map_congr_left fun doc hdoc => id_of_core (hchange doc hdoc).2
  constructor
  · rw [List.map_append, hkeys, List.nodup_append]
    refine ⟨hsound.keys, ?_, ?_⟩
    · exact List.pairwise_map.mpr (hnew.imp fun h => Nat.ne_of_lt h.1)
    · intro key hkey key' hkey'
      obtain ⟨doc, hdoc, rfl⟩ := List.mem_map.mp hkey
      obtain ⟨doc', hdoc', rfl⟩ := List.mem_map.mp hkey'
      exact Nat.ne_of_lt (hafter doc hdoc doc' hdoc').1
  · rw [List.map_append, hids, List.nodup_append]
    refine ⟨hsound.ids, ?_, ?_⟩
    · exact List.pairwise_map.mpr (hnew.imp fun h => h.2.ne)
    · intro id hid id' hid'
      obtain ⟨doc, hdoc, rfl⟩ := List.mem_map.mp hid
      obtain ⟨doc', hdoc', rfl⟩ := List.mem_map.mp hid'
      exact (hafter doc hdoc doc' hdoc').2.ne

/-- The table holds an alert, in some state. -/
def Holds (docs : List (ℕ × PriceAlert live)) (alert : PriceAlert live) : Prop :=
  ∃ doc ∈ docs, doc.2.core = alert.core

theorem Extends.holds (h : Extends docs created docs') {alert : PriceAlert live}
    (halert : Holds docs alert) : Holds docs' alert := by
  obtain ⟨change, new, hchange, rfl, -⟩ := h
  obtain ⟨doc, hdoc, hcore⟩ := halert
  exact ⟨change doc, List.mem_append_left _ (List.mem_map_of_mem hdoc), (hchange doc hdoc).2.trans hcore⟩

theorem Extends.holds_created (h : Extends docs created docs') {alert : PriceAlert live}
    (halert : alert ∈ created) : Holds docs' alert := by
  obtain ⟨change, new, -, rfl, rfl, -⟩ := h
  obtain ⟨doc, hdoc, rfl⟩ := List.mem_map.mp halert
  exact ⟨doc, List.mem_append_right _ hdoc, rfl⟩

theorem Extends.id_ne (h : Extends docs created docs') {alert held : PriceAlert live}
    (halert : alert ∈ created) (hheld : Holds docs held) : held.id ≠ alert.id := by
  obtain ⟨change, new, -, -, rfl, hafter, -⟩ := h
  obtain ⟨doc', hdoc', rfl⟩ := List.mem_map.mp halert
  obtain ⟨doc, hdoc, hcore⟩ := hheld
  rw [← id_of_core hcore]
  exact (hafter doc hdoc doc' hdoc').2.ne

theorem Extends.created_nodup (h : Extends docs created docs') :
    (created.map fun alert => alert.id).Nodup := by
  obtain ⟨change, new, -, -, rfl, -, hnew⟩ := h
  rw [List.map_map]
  exact List.pairwise_map.mpr (hnew.imp fun h => h.2.ne)

theorem getPriceAlert_of_holds {table : AlertTable live} (hsound : Sound table.docs)
    {alert : PriceAlert live} (h : Holds table.docs alert) :
    ∃ found, getPriceAlert table alert.id = some found ∧ found.core = alert.core := by
  obtain ⟨doc, hdoc, hcore⟩ := h
  refine ⟨doc.2, ?_, hcore⟩
  have hfind : findAlertDocument table.docs alert.id = some doc := by
    rw [← id_of_core hcore]
    exact DocTable.get_of_mem hsound.ids hdoc
  unfold getPriceAlert
  rw [hfind, Option.map_some]

end growth

/-! ### Each operation -/

section each

variable {live : String → Bool} {docs : List (ℕ × PriceAlert live)} {table : AlertTable live}

theorem foldl_max_ge (ids : List ℤ) (m : ℤ) : m ≤ ids.foldl max m ∧ ∀ id ∈ ids, id ≤ ids.foldl max m := by
  induction ids generalizing m with
  | nil => exact ⟨le_refl m, fun id hid => absurd hid List.not_mem_nil⟩
  | cons first ids ih =>
      obtain ⟨hstart, hall⟩ := ih (max m first)
      refine ⟨(le_max_left m first).trans hstart, fun id hid => ?_⟩
      rcases List.mem_cons.mp hid with rfl | hlater
      · exact (le_max_right m id).trans hstart
      · exact hall id hlater

/-- The next id is beyond the ids in use. -/
theorem lt_nextNumericId {doc : ℕ × PriceAlert live} (h : doc ∈ docs) :
    doc.2.id < nextNumericId docs :=
  Int.lt_add_one_of_le ((foldl_max_ge _ 0).2 _ (List.mem_map_of_mem (f := fun doc => doc.2.id) h))

theorem nextNumericId_pos (docs : List (ℕ × PriceAlert live)) : 0 < nextNumericId docs :=
  Int.lt_add_one_of_le (foldl_max_ge _ 0).1

theorem le_max?_getD {ids : List ℤ} {id : ℤ} (h : id ∈ ids) : id ≤ ids.max?.getD 0 := by
  cases ids with
  | nil => cases h
  | cons first ids =>
      rw [List.max?_cons', Option.getD_some]
      rcases List.mem_cons.mp h with rfl | hlater
      · exact (foldl_max_ge ids id).1
      · exact (foldl_max_ge ids first).2 id hlater

theorem lt_maxId {doc : ℕ × PriceAlert live} (h : doc ∈ docs) :
    doc.2.id < (docs.map fun doc => doc.2.id).max?.getD 0 + 1 :=
  Int.lt_add_one_of_le (le_max?_getD (List.mem_map_of_mem (f := fun doc => doc.2.id) h))

theorem PriceAlert.id_pos (alert : PriceAlert live) : 0 < alert.id := by
  have h := alert.contract
  unfold PriceAlertFields.contractError at h
  rw [firstViolation_eq_none] at h
  exact of_decide_eq_true (h _ List.mem_cons_self)

theorem maxId_pos (docs : List (ℕ × PriceAlert live)) :
    0 < (docs.map fun doc => doc.2.id).max?.getD 0 + 1 := by
  cases docs with
  | nil => exact Int.zero_lt_one
  | cons doc docs =>
      have hlt := lt_maxId (List.mem_cons_self : doc ∈ doc :: docs)
      have hpos := doc.2.id_pos
      omega

theorem extends_map {change : ℕ × PriceAlert live → ℕ × PriceAlert live}
    (h : ∀ doc ∈ docs, (change doc).1 = doc.1 ∧ (change doc).2.core = doc.2.core) :
    Extends docs [] (docs.map change) :=
  ⟨change, [], h, (List.append_nil _).symm, rfl, by simp, List.Pairwise.nil⟩

/-- A document after the cancelling loop. -/
def cancelDoc (select : PriceAlert live → Bool) (doc : ℕ × PriceAlert live) : ℕ × PriceAlert live :=
  if select doc.2 then (doc.1, doc.2.cancel) else doc

theorem cancelDoc_core (select : PriceAlert live → Bool) (doc : ℕ × PriceAlert live) :
    (cancelDoc select doc).1 = doc.1 ∧ (cancelDoc select doc).2.core = doc.2.core := by
  unfold cancelDoc
  split_ifs
  · exact ⟨rfl, rfl⟩
  · exact ⟨rfl, rfl⟩

theorem cancelWhere_spec (select : PriceAlert live → Bool) (docs : List (ℕ × PriceAlert live)) :
    ∃ cancelled, cancelWhere select docs = .ok (docs.map (cancelDoc select), cancelled) := by
  induction docs with
  | nil => exact ⟨[], rfl⟩
  | cons doc docs ih =>
      obtain ⟨cancelled, hcancelled⟩ := ih
      rw [cancelWhere, hcancelled, validate_cancelled, List.map_cons, cancelDoc]
      by_cases hselect : select doc.2 = true
      · rw [if_pos hselect, if_pos hselect]
        exact ⟨doc.2.cancel :: cancelled, rfl⟩
      · rw [if_neg hselect, if_neg hselect]
        exact ⟨cancelled, rfl⟩

theorem writeGrid_spec {chatId : ℤ} {instrument : String} (payloads : List GridPayload)
    (hvalid : ∀ payload ∈ payloads, (payload.resolved chatId instrument 1).contractError live = none)
    (nextId : ℤ) (hpos : 0 < nextId) (nextDocId : ℕ) (docs : List (ℕ × PriceAlert live))
    (hkeys : ∀ doc ∈ docs, doc.1 < nextDocId) :
    ∃ new, writeGrid chatId instrument payloads nextId nextDocId docs =
        .ok (docs ++ new, new.map Prod.snd) ∧ (payloads = [] → new = []) ∧
      (∀ doc ∈ new, nextDocId ≤ doc.1 ∧ nextId ≤ doc.2.id) ∧
      new.Pairwise fun doc doc' => doc.1 < doc'.1 ∧ doc.2.id < doc'.2.id := by
  induction payloads generalizing nextId nextDocId docs with
  | nil => exact ⟨[], by simp [writeGrid], fun _ => rfl, by simp, List.Pairwise.nil⟩
  | cons payload payloads ih =>
      rw [List.forall_mem_cons] at hvalid
      have hcontract : (payload.resolved chatId instrument nextId).contractError live = none :=
        contractError_id hvalid.1 hpos
      let alert : PriceAlert live := ⟨payload.resolved chatId instrument nextId, hcontract⟩
      have hassign : assign docs nextDocId alert = docs ++ [(nextDocId, alert)] :=
        assign_fresh alert fun doc hdoc => Nat.ne_of_lt (hkeys doc hdoc)
      obtain ⟨new, hwritten, -, hbeyond, hnew⟩ := ih hvalid.2 (nextId + 1) (by omega) (nextDocId + 1)
        (docs ++ [(nextDocId, alert)]) (by
          intro doc hdoc
          rcases List.mem_append.mp hdoc with hold | hlast
          · exact Nat.lt_succ_of_lt (hkeys doc hold)
          · obtain rfl := List.mem_singleton.mp hlast
            exact Nat.lt_succ_self _)
      refine ⟨(nextDocId, alert) :: new, ?_, fun h => (List.cons_ne_nil _ _ h).elim, ?_, ?_⟩
      · rw [writeGrid, validate_of_contract hcontract]
        simp only [bind, Except.bind]
        rw [hassign, hwritten]
        simp [alert, pure, Except.pure]
      · intro doc hdoc
        rcases List.mem_cons.mp hdoc with rfl | hlater
        · exact ⟨le_refl _, le_refl _⟩
        · have hdoc := hbeyond doc hlater
          omega
      · refine List.pairwise_cons.mpr ⟨fun doc hdoc => ?_, hnew⟩
        have hdoc := hbeyond doc hdoc
        have hid : alert.id = nextId := rfl
        simp only [hid]
        omega

/-- A new alert is inserted with a new id and a new number when the counter is current. -/
theorem upsertPriceAlert_new (insertion : AlertInsertion live) (hcurrent : table.Current) {payload : AlertPayload}
    (hvalid : PriceAlertFields.contractError live { payload with id := 1 } = none) :
    ∃ alert : PriceAlert live,
      upsertPriceAlert insertion none payload table = (.ok alert, table.added alert) ∧
      alert.id = nextNumericId table.docs := by
  have hcontract := contractError_id hvalid (nextNumericId_pos table.docs)
  refine ⟨⟨_, hcontract⟩, ?_, rfl⟩
  have hfind : findAlertDocument table.docs (nextNumericId table.docs) = none := by
    refine DocTable.get_eq_none.mpr fun doc hdoc => ?_
    exact (lt_nextNumericId hdoc).ne
  unfold upsertPriceAlert writePriceAlert
  simp only [Option.getD_none, validate_of_contract hcontract, hfind,
    insertion.insert_of_current _ hcurrent]
  rfl

theorem upsertPriceAlert_existing (insertion : AlertInsertion live) (alert : PriceAlert live)
    {existing : ℕ × PriceAlert live}
    (h : findAlertDocument table.docs alert.id = some existing) :
    upsertPriceAlert insertion (some alert.id) alert.toAlertPayload table =
      (.ok alert, { table with
        docs := table.docs.map fun doc => if doc.1 = existing.1 then (doc.1, alert) else doc }) := by
  have hvalidate : alert.toPriceAlertFields.validate live = .ok alert := validate_of_contract alert.contract
  unfold upsertPriceAlert writePriceAlert
  simp only [Option.getD_some, hvalidate, h]
  rfl

theorem extends_added (hcurrent : table.Current) {alert : PriceAlert live}
    (hid : alert.id = nextNumericId table.docs) :
    Extends table.docs [alert] (table.added alert).docs := by
  refine ⟨id, [(table.nextDocId, alert)], fun _ _ => ⟨rfl, rfl⟩, ?_, rfl, ?_, List.pairwise_singleton _ _⟩
  · rw [List.map_id]
    rfl
  · intro doc hdoc doc' hdoc'
    obtain rfl := List.mem_singleton.mp hdoc'
    rw [hid]
    exact ⟨hcurrent.lt_nextDocId hdoc, lt_nextNumericId hdoc⟩

/-- An operation succeeds, and changes states of alerts only. -/
def ChangesStates {ρ : Type} (table : AlertTable live) (result : Except Exn ρ × AlertTable live) : Prop :=
  ∃ returned change, result = (.ok returned, { table with docs := table.docs.map change }) ∧
    (Sound table.docs → ∀ doc ∈ table.docs, (change doc).1 = doc.1 ∧ (change doc).2.core = doc.2.core)

theorem changesStates_nothing {ρ : Type} (returned : ρ) (table : AlertTable live) :
    ChangesStates table (.ok returned, table) :=
  ⟨returned, id, by rw [List.map_id], fun _ _ _ => ⟨rfl, rfl⟩⟩

theorem cancelPriceAlert_spec (insertion : AlertInsertion live) (alertId : ℤ) (table : AlertTable live) :
    ChangesStates table (cancelPriceAlert insertion alertId table) := by
  unfold cancelPriceAlert
  cases hget : getPriceAlert table alertId with
  | none => exact changesStates_nothing none table
  | some existing =>
      obtain ⟨doc, hdoc, rfl⟩ := Option.map_eq_some_iff.mp hget
      obtain ⟨hmem, hid⟩ := DocTable.get_some hdoc
      refine ⟨some doc.2.cancel, fun other => if other.1 = doc.1 then (other.1, doc.2.cancel) else other,
        ?_, ?_⟩
      · simp only [validate_cancelled]
        rw [upsertPriceAlert_existing insertion doc.2.cancel (hid ▸ hdoc)]
        rfl
      · intro hsound other hother
        simp only
        split_ifs with hkey
        · have hsame : other = doc := List.inj_on_of_nodup_map hsound.keys hother hmem hkey
          rw [hsame]
          exact ⟨rfl, rfl⟩
        · exact ⟨rfl, rfl⟩

/-- Changing states keeps the counter current. -/
theorem current_map {change : ℕ × PriceAlert live → ℕ × PriceAlert live} (hcurrent : table.Current)
    (h : ∀ doc ∈ table.docs, (change doc).1 = doc.1) :
    AutoTable.Current { table with docs := table.docs.map change } := by
  refine hcurrent.of_keys fun doc hdoc => ?_
  obtain ⟨old, hold, rfl⟩ := List.mem_map.mp hdoc
  exact ⟨old, hold, (h old hold).symm⟩

theorem replacePriceAlertGrid_spec {chatId : ℤ} {instrument : String} {alerts : List GridPayload}
    (hspec : (getInstrumentSpec instrument).isOk = true)
    (hvalid : ∀ payload ∈ alerts, (payload.resolved chatId instrument 1).contractError live = none) :
    ∃ (created : List (PriceAlert live)) (docs' : List (ℕ × PriceAlert live)),
      replacePriceAlertGrid chatId instrument alerts table = (.ok created, { table with docs := docs' }) ∧
      Extends table.docs created docs' ∧
      (alerts = [] → table.Current → AutoTable.Current { table with docs := docs' }) := by
  let change : ℕ × PriceAlert live → ℕ × PriceAlert live := cancelDoc (pendingInGrid chatId instrument)
  obtain ⟨spec, hspec⟩ : ∃ spec, getInstrumentSpec instrument = .ok spec := by
    cases h : getInstrumentSpec instrument with
    | error e => rw [h] at hspec; cases hspec
    | ok spec => exact ⟨spec, rfl⟩
  obtain ⟨cancelled, hcancelled⟩ := cancelWhere_spec (pendingInGrid chatId instrument) table.docs
  obtain ⟨new, hwritten, hempty, hbeyond, hnew⟩ := writeGrid_spec alerts hvalid
    ((table.docs.map fun doc => doc.2.id).max?.getD 0 + 1) (maxId_pos table.docs)
    (AutoTable.afterKeys (table.docs.map change)) (table.docs.map change)
    fun doc hdoc => AutoTable.lt_afterKeys hdoc
  have hsorted : sortOn (fun alert : PriceAlert live => alert.id) (new.map Prod.snd) =
      new.map Prod.snd :=
    List.Pairwise.insertionSort_eq (List.pairwise_map.mpr (hnew.imp fun h => h.2.le))
  refine ⟨new.map Prod.snd, table.docs.map change ++ new, ?_, ?_, ?_⟩
  · unfold replacePriceAlertGrid
    simp only [hspec, hcancelled, bind, Except.bind]
    rw [hwritten]
    simp only [hsorted]
  · refine ⟨change, new, fun doc _ => cancelDoc_core _ doc, rfl, rfl, ?_, hnew⟩
    intro doc hdoc doc' hdoc'
    have hdoc'' := hbeyond doc' hdoc'
    have hkey := AutoTable.lt_afterKeys (List.mem_map_of_mem (f := change) hdoc)
    rw [(cancelDoc_core _ doc).1] at hkey
    have hid := lt_maxId hdoc
    omega
  · intro halerts hcurrent
    rw [hempty halerts, List.append_nil]
    exact current_map hcurrent fun doc _ => (cancelDoc_core _ doc).1

end each

/-! ### Runs -/

inductive AlertOperation where
  | upsertPriceAlert (payload : AlertPayload)
  | replacePriceAlertGrid (chatId : ℤ) (instrument : String) (alerts : List GridPayload)
  | cancelPriceAlert (alertId : ℤ)
  | cancelPriceAlertForChat (alertId chatId : ℤ)
  | cancelPriceAlertsForChat (chatId : ℤ) (instrument : Option String) (statuses : List AlertStatus)
deriving DecidableEq, Repr

namespace AlertOperation

/-- The insertion of a new alert through the table. -/
def inserts : AlertOperation → Bool
  | upsertPriceAlert _ => true
  | _ => false

def writesGrid : AlertOperation → Bool
  | replacePriceAlertGrid _ _ alerts => !alerts.isEmpty
  | _ => false

/-- The alerts that the operation returns are new. -/
def creates : AlertOperation → Bool
  | upsertPriceAlert _ | replacePriceAlertGrid _ _ _ => true
  | _ => false

variable (live : String → Bool)

/-- Valid input: with an id, every alert to be created meets its contract. -/
def Valid : AlertOperation → Prop
  | upsertPriceAlert payload => PriceAlertFields.contractError live { payload with id := 1 } = none
  | replacePriceAlertGrid chatId instrument alerts =>
      (getInstrumentSpec instrument).isOk = true ∧
        ∀ payload ∈ alerts, (payload.resolved chatId instrument 1).contractError live = none
  | _ => True

variable {live}

/-- The alerts that an operation returns, and the table it leaves. -/
def perform (insertion : AlertInsertion live) (table : AlertTable live) :
    AlertOperation → Except Exn (List (PriceAlert live)) × AlertTable live
  | upsertPriceAlert payload =>
      let result := OandaV3.upsertPriceAlert insertion none payload table
      (result.1.map fun alert => [alert], result.2)
  | replacePriceAlertGrid chatId instrument alerts =>
      OandaV3.replacePriceAlertGrid chatId instrument alerts table
  | cancelPriceAlert alertId =>
      let result := OandaV3.cancelPriceAlert insertion alertId table
      (result.1.map Option.toList, result.2)
  | cancelPriceAlertForChat alertId chatId =>
      let result := OandaV3.cancelPriceAlertForChat insertion alertId chatId table
      (result.1.map Option.toList, result.2)
  | cancelPriceAlertsForChat chatId instrument statuses =>
      OandaV3.cancelPriceAlertsForChat chatId instrument statuses table

end AlertOperation

section runs

variable {live : String → Bool} {insertion : AlertInsertion live} {table : AlertTable live}
  {ops : List AlertOperation}

/-- The operations of a run with their outcomes, and the table it leaves. -/
structure AlertRun (live : String → Bool) where
  log : List (AlertOperation × Except Exn (List (PriceAlert live)))
  table : AlertTable live

def AlertRun.step (insertion : AlertInsertion live) (run : AlertRun live)
    (op : AlertOperation) : AlertRun live where
  log := run.log ++ [(op, (op.perform insertion run.table).1)]
  table := (op.perform insertion run.table).2

def runAlerts (insertion : AlertInsertion live) (table : AlertTable live)
    (ops : List AlertOperation) : AlertRun live :=
  ops.foldl (AlertRun.step insertion) ⟨[], table⟩

/-- The alerts an operation has created. -/
def createdBy (entry : AlertOperation × Except Exn (List (PriceAlert live))) : List (PriceAlert live) :=
  if entry.1.creates then entry.2.toOption.getD [] else []

/-- The alerts of the table and those a run has created. -/
def everCreated (table : AlertTable live) (run : AlertRun live) : List (PriceAlert live) :=
  table.docs.map Prod.snd ++ run.log.flatMap createdBy

/-- No alert is inserted after a grid that was written after an insertion. -/
def NoInsertAfterGrid (ops : List AlertOperation) : Prop :=
  ∀ first grid second, [first, grid, second].Sublist ops → first.inserts = true →
    grid.writesGrid = true → second.inserts = false

/-- What an operation does: it succeeds and adds the alerts it has created; the counter is set by an
insertion only, and stays current but for a grid. -/
structure Performed (table : AlertTable live) (op : AlertOperation)
    (result : Except Exn (List (PriceAlert live)) × AlertTable live) : Prop where
  succeeds : result.1.isOk = true
  docs : Extends table.docs (createdBy (op, result.1)) result.2.docs
  nextId : op.inserts = false → result.2.nextId = table.nextId
  current : op.writesGrid = false → table.Current → result.2.Current

theorem perform_map {op : AlertOperation} {returned : List (PriceAlert live)}
    {change : ℕ × PriceAlert live → ℕ × PriceAlert live} (hcreates : op.creates = false)
    (h : op.perform insertion table = (.ok returned, { table with docs := table.docs.map change }))
    (hchange : ∀ doc ∈ table.docs, (change doc).1 = doc.1 ∧ (change doc).2.core = doc.2.core) :
    Performed table op (op.perform insertion table) := by
  have hnone : createdBy (op, (.ok returned : Except Exn (List (PriceAlert live)))) = [] := by
    rw [createdBy, hcreates, if_neg Bool.false_ne_true]
  rw [h]
  refine ⟨rfl, ?_, fun _ => rfl,
    fun _ hcurrent => current_map hcurrent fun doc hdoc => (hchange doc hdoc).1⟩
  rw [hnone]
  exact extends_map hchange

theorem cancelPriceAlertForChat_spec (insertion : AlertInsertion live) (alertId chatId : ℤ)
    (table : AlertTable live) :
    ChangesStates table (cancelPriceAlertForChat insertion alertId chatId table) := by
  unfold cancelPriceAlertForChat
  cases getPriceAlert table alertId with
  | none => exact changesStates_nothing none table
  | some existing =>
      by_cases hchat : existing.chatId ≠ chatId
      · simp only [if_pos hchat]
        exact changesStates_nothing none table
      · simp only [if_neg hchat]
        exact cancelPriceAlert_spec insertion alertId table

theorem perform_spec (insertion : AlertInsertion live) {op : AlertOperation} (hsound : Sound table.docs)
    (hvalid : op.Valid live) (hcurrent : op.inserts = true → table.Current) :
    Performed table op (op.perform insertion table) := by
  cases op with
  | upsertPriceAlert payload =>
      obtain ⟨alert, hresult, hid⟩ := upsertPriceAlert_new insertion (hcurrent rfl) hvalid
      have hperform : (AlertOperation.upsertPriceAlert payload).perform insertion table =
          (.ok [alert], table.added alert) := by
        rw [AlertOperation.perform, hresult]
        rfl
      rw [hperform]
      refine ⟨rfl, extends_added (hcurrent rfl) hid, fun h => ?_,
        fun _ => AutoTable.current_added alert⟩
      cases h
  | replacePriceAlertGrid chatId instrument alerts =>
      obtain ⟨created, docs', hresult, hextends, hempty⟩ := replacePriceAlertGrid_spec hvalid.1 hvalid.2
      have hperform : (AlertOperation.replacePriceAlertGrid chatId instrument alerts).perform insertion
          table = (.ok created, { table with docs := docs' }) := hresult
      rw [hperform]
      refine ⟨rfl, hextends, fun _ => rfl, fun hgrid => hempty ?_⟩
      simpa [AlertOperation.writesGrid] using hgrid
  | cancelPriceAlert alertId =>
      obtain ⟨returned, change, hresult, hchange⟩ := cancelPriceAlert_spec insertion alertId table
      have hperform : (AlertOperation.cancelPriceAlert alertId).perform insertion table =
          (.ok returned.toList, { table with docs := table.docs.map change }) := by
        rw [AlertOperation.perform, hresult]
        rfl
      exact perform_map rfl hperform (hchange hsound)
  | cancelPriceAlertForChat alertId chatId =>
      obtain ⟨returned, change, hresult, hchange⟩ :=
        cancelPriceAlertForChat_spec insertion alertId chatId table
      have hperform : (AlertOperation.cancelPriceAlertForChat alertId chatId).perform insertion table =
          (.ok returned.toList, { table with docs := table.docs.map change }) := by
        rw [AlertOperation.perform, hresult]
        rfl
      exact perform_map rfl hperform (hchange hsound)
  | cancelPriceAlertsForChat chatId instrument statuses =>
      obtain ⟨cancelled, hcancelled⟩ :=
        cancelWhere_spec (selectedForChat chatId instrument statuses) table.docs
      have hperform : (AlertOperation.cancelPriceAlertsForChat chatId instrument statuses).perform insertion
          table = (.ok (sortOn (fun alert : PriceAlert live => alert.id) cancelled), { table with
            docs := table.docs.map (cancelDoc (selectedForChat chatId instrument statuses)) }) := by
        simp only [AlertOperation.perform, OandaV3.cancelPriceAlertsForChat, hcancelled]
      exact perform_map rfl hperform fun doc _ => cancelDoc_core _ doc

structure RunInvariant (table : AlertTable live) (ops : List AlertOperation) (run : AlertRun live) :
    Prop where
  sound : Sound run.table.docs
  succeeds : ∀ entry ∈ run.log, entry.2.isOk = true
  holds : ∀ alert ∈ everCreated table run, Holds run.table.docs alert
  ids : ((everCreated table run).map fun alert => alert.id).Nodup
  counter : run.table.nextId ≠ none → ∃ op ∈ ops, op.inserts = true
  current : run.table.Current ∨ ∃ first grid, [first, grid].Sublist ops ∧ first.inserts = true ∧
    grid.writesGrid = true

theorem everCreated_step (table : AlertTable live) (run : AlertRun live) (op : AlertOperation) :
    everCreated table (run.step insertion op) =
      everCreated table run ++ createdBy (op, (op.perform insertion run.table).1) := by
  unfold everCreated AlertRun.step
  rw [List.flatMap_append, List.flatMap_singleton, List.append_assoc]

theorem runInvariant_start (hsound : Sound table.docs) (hopen : table.nextId = none) :
    RunInvariant table [] ⟨[], table⟩ := by
  have hever : everCreated table ⟨[], table⟩ = table.docs.map Prod.snd := List.append_nil _
  refine ⟨hsound, fun entry hentry => absurd hentry List.not_mem_nil, fun alert halert => ?_, ?_,
    fun h => absurd hopen h, Or.inl fun n hn => ?_⟩
  · rw [hever] at halert
    obtain ⟨doc, hdoc, rfl⟩ := List.mem_map.mp halert
    exact ⟨doc, hdoc, rfl⟩
  · rw [hever, List.map_map]
    exact hsound.ids
  · rw [Option.mem_def.mp hn] at hopen
    cases hopen

theorem RunInvariant.step {run : AlertRun live} {op : AlertOperation} (h : RunInvariant table ops run)
    (hvalid : op.Valid live) (horder : NoInsertAfterGrid (ops ++ [op])) :
    RunInvariant table (ops ++ [op]) (run.step insertion op) := by
  have hcurrent : op.inserts = true → run.table.Current := by
    intro hinserts
    rcases h.current with hcurrent | ⟨first, grid, hsub, hfirst, hgrid⟩
    · exact hcurrent
    · have hnot := horder first grid op (hsub.append (List.Sublist.refl [op])) hfirst hgrid
      rw [hinserts] at hnot
      cases hnot
  obtain ⟨hok, hextends, hcounter, hkeeps⟩ := perform_spec insertion h.sound hvalid hcurrent
  refine ⟨hextends.sound h.sound, fun entry hentry => ?_, fun alert halert => ?_, ?_, fun hset => ?_, ?_⟩
  · rcases List.mem_append.mp hentry with hold | hlast
    · exact h.succeeds entry hold
    · obtain rfl := List.mem_singleton.mp hlast
      exact hok
  · rw [everCreated_step, List.mem_append] at halert
    rcases halert with hold | hnew
    · exact hextends.holds (h.holds alert hold)
    · exact hextends.holds_created hnew
  · rw [everCreated_step, List.map_append, List.nodup_append]
    refine ⟨h.ids, hextends.created_nodup, ?_⟩
    intro id hid id' hid'
    obtain ⟨held, hheld, rfl⟩ := List.mem_map.mp hid
    obtain ⟨alert, halert, rfl⟩ := List.mem_map.mp hid'
    exact hextends.id_ne halert (h.holds held hheld)
  · cases hinserts : op.inserts with
    | true => exact ⟨op, List.mem_append_right _ List.mem_cons_self, hinserts⟩
    | false =>
        have hsame : (run.step insertion op).table.nextId = run.table.nextId := hcounter hinserts
        rw [hsame] at hset
        obtain ⟨first, hfirst, hinsert⟩ := h.counter hset
        exact ⟨first, List.mem_append_left _ hfirst, hinsert⟩
  · rcases h.current with hbefore | ⟨first, grid, hsub, hpattern⟩
    · cases hgrid : op.writesGrid with
      | false => exact Or.inl (hkeeps hgrid hbefore)
      | true =>
          have hinserts : op.inserts = false := by
            cases op with
            | replacePriceAlertGrid _ _ _ => rfl
            | _ => cases hgrid
          cases hnext : run.table.nextId with
          | none =>
              have hsame : (run.step insertion op).table.nextId = none := (hcounter hinserts).trans hnext
              refine Or.inl fun n hn => ?_
              rw [hsame] at hn
              cases hn
          | some n =>
              obtain ⟨first, hfirst, hinsert⟩ := h.counter (by rw [hnext]; exact Option.some_ne_none n)
              exact Or.inr ⟨first, op, (List.singleton_sublist.mpr hfirst).append (List.Sublist.refl [op]),
                hinsert, hgrid⟩
    · exact Or.inr ⟨first, grid, hsub.trans (List.sublist_append_left _ _), hpattern⟩

/-- Every run from an open store keeps the invariant. -/
theorem runAlerts_invariant (insertion : AlertInsertion live) (hsound : Sound table.docs)
    (hopen : table.nextId = none)
    (hvalid : ∀ op ∈ ops, op.Valid live) (horder : NoInsertAfterGrid ops) :
    RunInvariant table ops (runAlerts insertion table ops) := by
  induction ops using List.reverseRecOn with
  | nil => exact runInvariant_start hsound hopen
  | append_singleton ops op ih =>
      have hrun : runAlerts insertion table (ops ++ [op]) =
          (runAlerts insertion table ops).step insertion op := List.foldl_append
      have hbefore := ih (fun op' hop' => hvalid op' (List.mem_append_left _ hop'))
        fun first grid second hsub => horder first grid second (hsub.trans (List.sublist_append_left _ _))
      rw [hrun]
      exact hbefore.step (hvalid op (List.mem_append_right _ List.mem_cons_self)) horder

/-- **Price alerts.** In every run of valid operations on an open store in which no alert is inserted after
a grid that was written after an insertion, every operation succeeds, the ids of the alerts that were there
or were created are distinct, and each of these alerts is found under its id. -/
theorem runAlerts_keeps (live : String → Bool) (insertion : AlertInsertion live) (table : AlertTable live)
    (hsound : Sound table.docs) (hopen : table.nextId = none) (ops : List AlertOperation)
    (hvalid : ∀ op ∈ ops, op.Valid live) (horder : NoInsertAfterGrid ops) :
    let run := runAlerts insertion table ops
    (∀ entry ∈ run.log, entry.2.isOk = true) ∧
      ((everCreated table run).map fun alert => alert.id).Nodup ∧
      ∀ alert ∈ everCreated table run,
        ∃ found, getPriceAlert run.table alert.id = some found ∧ found.core = alert.core := by
  have h := runAlerts_invariant insertion hsound hopen hvalid horder
  exact ⟨h.succeeds, h.ids, fun alert halert => getPriceAlert_of_holds h.sound (h.holds alert halert)⟩

end runs

/-! ### A grid between two insertions -/

instance {live : String → Bool} (op : AlertOperation) : Decidable (op.Valid live) :=
  match op with
  | .upsertPriceAlert _ => inferInstanceAs (Decidable (_ = _))
  | .replacePriceAlertGrid _ _ _ => inferInstanceAs (Decidable (_ ∧ _))
  | .cancelPriceAlert _ | .cancelPriceAlertForChat _ _ | .cancelPriceAlertsForChat _ _ _ =>
      inferInstanceAs (Decidable True)

/-- A catalog of one instrument. -/
def goldOnly (instrument : String) : Bool := instrument == "XAU_USD"

def goldPayload : AlertPayload where
  instrument := "XAU_USD"
  targetPrice := 3050
  direction := .above
  chatId := 7
  createdAt := 0

def newGoldAlert : AlertOperation := .upsertPriceAlert goldPayload

def goldGrid : AlertOperation :=
  .replacePriceAlertGrid 7 "XAU_USD" [{ targetPrice := 3048, direction := .below, createdAt := 1 }]

def newAlertTable : AlertTable goldOnly := ⟨[], none⟩

theorem sound_newAlertTable : Sound newAlertTable.docs := ⟨List.nodup_nil, List.nodup_nil⟩

/-- Grids before the insertions or after them keep the alerts. -/
theorem runAlerts_keeps_grids :
    let run := runAlerts .refusing newAlertTable [goldGrid, newGoldAlert, goldGrid]
    ((∀ entry ∈ run.log, entry.2.isOk = true) ∧
      ((everCreated newAlertTable run).map fun alert => alert.id).Nodup ∧
      ∀ alert ∈ everCreated newAlertTable run,
        ∃ found, getPriceAlert run.table alert.id = some found ∧ found.core = alert.core) ∧
    (everCreated newAlertTable run).map (fun alert => alert.id) = [1, 2, 3] := by
  have horder : NoInsertAfterGrid [goldGrid, newGoldAlert, goldGrid] := by
    intro first grid second hsub hfirst
    obtain ⟨rfl, -⟩ := List.cons.inj (hsub.eq_of_length rfl)
    cases hfirst
  exact ⟨runAlerts_keeps goldOnly .refusing newAlertTable sound_newAlertTable rfl
    [goldGrid, newGoldAlert, goldGrid] (by decide +kernel) horder, by decide +kernel⟩

/-- A grid between two insertions: the second insertion fails, or overwrites the alert of the grid. -/
theorem runAlerts_clash :
    (∀ op ∈ [newGoldAlert, goldGrid, newGoldAlert], op.Valid goldOnly) ∧
      (runAlerts .refusing newAlertTable [newGoldAlert, goldGrid, newGoldAlert]).log.map
        (fun entry => entry.2.isOk) = [true, true, false] ∧
      let run := runAlerts .overwriting newAlertTable [newGoldAlert, goldGrid, newGoldAlert]
      (everCreated newAlertTable run).map (fun alert => alert.id) = [1, 2, 3] ∧
        getPriceAlert run.table 2 = none := by
  decide +kernel

end OandaV3
