import OandaV3.HistoryRules
import OandaV3.Poller

/-! # Rules of the poller

One rely–guarantee rule for each program of the journal service and the poller, on a world with
faults.

* `rg_handleTradeOpened`, `rg_handleTradeModified`, `rg_handleTradeClosed`: what a handler writes,
  from the record it read.
* `rg_pollCurrent`, `rg_pollExisting`: the bodies of the two loops of a cycle.
* `rg_pollOnceSync`: the broker's list is fetched, the journal is read, and the loops run.
* `rg_runBlocking`: a call under the state lock. -/

namespace OandaV3

open Interaction Program

section

variable {cfg : Config} {lossy : Call → Prop} {ok : Call → World → Prop}
  {rely guar : World → World → Prop} {s : World} {J : World → Prop}

/-! ### Handlers -/

theorem getTrade_of_mayAnswer {tradeId : String} {existing : TradeRecord} {t : World}
    (h : World.mayAnswer lossy (.getTrade tradeId) t (some existing)) :
    t.store.getTrade tradeId = some existing := by
  rcases h with h | ⟨-, h⟩
  · exact Except.ok.inj h
  · cases h

/-- A handler that ends with the write of a record. -/
theorem rg_upsertTrade {α : Type} {record : TradeRecord} {a : α} {K : World → Prop}
    (hguar : ∀ t, guar t t) (hK : ∀ t t', K t → rely t t' → K t')
    (hJ : ∀ t t', J t → rely t t' → J t') (hKJ : ∀ t, K t → J t)
    (hwrite : ∀ t, K t → guar t (t.withStore (t.store.upsertTrade record)) ∧
      J (t.withStore (t.store.upsertTrade record)))
    (hs : K s) :
    ((ask (.upsertTrade record)).bind fun _ => Program.done a).Rg (World.guarded lossy ok) rely guar
      (After J J) s := by
  refine rg_ask (fun t _ ht _ _ => ⟨(hwrite t (hK s t hs ht)).1, ?_⟩) (fun _ _ _ _ _ h => nomatch h)
    fun t t' e ht _ hfails => ?_
  · exact fun t' ht' => hJ _ t' (hwrite t (hK s t hs ht)).2 ht'
  · obtain rfl : t' = t := hfails
    exact ⟨hguar t', fun t'' ht'' => hJ t' t'' (hKJ t' (hK s t' hs ht)) ht''⟩

section handlers

variable (hguar : ∀ t, guar t t) (hJ : ∀ t t', J t → rely t t' → J t')
  {X : TradeRecord → World → Prop}

include hguar hJ

theorem rg_currentNotes {tradeId : String} (hs : J s) :
    (currentNotes tradeId).Rg (World.guarded lossy ok) rely guar (After J J) s := by
  refine rg_read rfl hguar (fun t existing ht _ _ => ?_)
    fun t t' e ht ht' => hJ t t' (hJ s t hs ht) ht'
  have hJt := hJ s t hs ht
  cases existing with
  | none => exact fun t' ht' => hJ t t' hJt ht'
  | some _ =>
      refine rg_read rfl hguar (fun t₁ existing ht₁ _ _ => ?_)
        fun t₁ t₂ e ht₁ ht₂ => hJ t₁ t₂ (hJ t t₁ hJt ht₁) ht₂
      cases existing with
      | none => exact fun t₂ ht₂ => hJ t₁ t₂ (hJ t t₁ hJt ht₁) ht₂
      | some record => exact fun t₂ ht₂ => hJ t₁ t₂ (hJ t t₁ hJt ht₁) ht₂

theorem rg_handleTradeOpened {e : TradeOpenedEvent} (hrefl : ∀ t, rely t t)
    (hwrite : ∀ t notes record, J t → (openedFields e notes).validate = .ok record →
      guar t (t.withStore (t.store.upsertTrade record)) ∧
        J (t.withStore (t.store.upsertTrade record)))
    (hs : J s) :
    (handleTradeOpened e).Rg (World.guarded lossy ok) rely guar (After J J) s := by
  refine rg_bind_after hrefl (rg_currentNotes hguar hJ hs) (fun notes t ht => ?_)
    fun err t ht => ht
  refine rg_ofExcept (fun record hrecord => ?_) fun err _ t' ht' => hJ t t' ht ht'
  exact rg_upsertTrade hguar hJ hJ (fun _ h => h) (fun t' ht' => hwrite t' notes record ht' hrecord) ht

theorem rg_handleTradeModified {e : TradeModifiedEvent}
    (hX : ∀ existing t t', X existing t → rely t t' → X existing t')
    (hXJ : ∀ existing t, X existing t → J t)
    (hread : ∀ t existing, J t → t.store.getTrade e.tradeId = some existing → X existing t)
    (hwrite : ∀ t existing updated, X existing t →
      (modifiedFields existing.toTradeFields e).validate = .ok updated →
        guar t (t.withStore (t.store.upsertTrade updated)) ∧
          J (t.withStore (t.store.upsertTrade updated)))
    (hs : J s) :
    (handleTradeModified e).Rg (World.guarded lossy ok) rely guar (After J J) s := by
  refine rg_read rfl hguar (fun t existing ht _ hanswer => ?_)
    fun t t' err ht ht' => hJ t t' (hJ s t hs ht) ht'
  have hJt := hJ s t hs ht
  cases existing with
  | none => exact fun t' ht' => hJ t t' hJt ht'
  | some existing =>
      have hXt := hread t existing hJt (getTrade_of_mayAnswer hanswer)
      refine rg_ofExcept (fun updated hupdated => ?_) fun err _ t' ht' => hJ t t' hJt ht'
      exact rg_upsertTrade hguar (hX existing) hJ (hXJ existing)
        (fun t' ht' => hwrite t' existing updated ht' hupdated) hXt

theorem rg_handleTradeClosed {e : TradeClosedEvent}
    (hX : ∀ existing t t', X existing t → rely t t' → X existing t')
    (hXJ : ∀ existing t, X existing t → J t)
    (hread : ∀ t existing, J t → t.store.getTrade e.tradeId = some existing → X existing t)
    (hwrite : ∀ t existing pips closed, X existing t →
      (closedByPoller cfg existing.toTradeFields e pips).validate = .ok closed →
        guar t (t.withStore (t.store.upsertTrade closed)) ∧
          J (t.withStore (t.store.upsertTrade closed)))
    (hs : J s) :
    (handleTradeClosed cfg e).Rg (World.guarded lossy ok) rely guar (After J J) s := by
  refine rg_read rfl hguar (fun t existing ht _ _ => ?_)
    fun t t' err ht ht' => hJ t t' (hJ s t hs ht) ht'
  have hJt := hJ s t hs ht
  cases existing with
  | none => exact fun t' ht' => hJ t t' hJt ht'
  | some existing =>
      refine rg_ofExcept (fun pips _ => ?_) fun err _ t' ht' => hJ t t' hJt ht'
      refine rg_read rfl hguar (fun t₁ existing₁ ht₁ _ hanswer => ?_)
        fun t₁ t₂ err ht₁ ht₂ => hJ t₁ t₂ (hJ t t₁ hJt ht₁) ht₂
      have hJt₁ := hJ t t₁ hJt ht₁
      cases existing₁ with
      | none => exact fun t₂ ht₂ => hJ t₁ t₂ hJt₁ ht₂
      | some existing₁ =>
          have hXt := hread t₁ existing₁ hJt₁ (getTrade_of_mayAnswer hanswer)
          refine rg_ofExcept (fun closed hclosed => ?_) fun err _ t₂ ht₂ => hJ t₁ t₂ hJt₁ ht₂
          exact rg_upsertTrade hguar (hX existing₁) hJ (hXJ existing₁)
            (fun t₂ ht₂ => hwrite t₂ existing₁ pips closed ht₂ hclosed) hXt

end handlers

/-! ### The two loops -/

section loops

variable {now : Instant} {accountCurrency : String}

/-- A trade of the broker's list: `J` before and after, `X existing` once a record is read. -/
theorem rg_pollCurrent {existingOpen : List TradeRecord} {entry : String × OpenTrade}
    {X : TradeRecord → World → Prop} (hrefl : ∀ t, rely t t) (hguar : ∀ t, guar t t)
    (hJ : ∀ t t', J t → rely t t' → J t')
    (hX : ∀ existing t t', X existing t → rely t t' → X existing t')
    (hXJ : ∀ existing t, X existing t → J t)
    (hread : ∀ t existing, J t → t.store.getTrade entry.1 = some existing → X existing t)
    (hopen : existingOpen.find? (fun trade => trade.tradeId == entry.1) = none →
      ∀ event, openedEvent cfg now accountCurrency entry.1 entry.2 = .ok event →
        ∀ t notes record, J t → (openedFields event notes).validate = .ok record →
          guar t (t.withStore (t.store.upsertTrade record)) ∧
            J (t.withStore (t.store.upsertTrade record)))
    (hmodify : (∃ trade, existingOpen.find? (fun trade => trade.tradeId == entry.1) = some trade) →
      ∀ t existing updated, X existing t →
        (modifiedFields existing.toTradeFields ⟨entry.1, entry.2.stopLossPrice,
          entry.2.takeProfitPrice, now⟩).validate = .ok updated →
          guar t (t.withStore (t.store.upsertTrade updated)) ∧
            J (t.withStore (t.store.upsertTrade updated)))
    (hs : J s) :
    (pollCurrent cfg now accountCurrency existingOpen entry).Rg (World.guarded lossy ok) rely guar
      (After J J) s := by
  obtain ⟨tradeId, payload⟩ := entry
  unfold pollCurrent
  cases hfind : existingOpen.find? (fun trade => trade.tradeId == tradeId) with
  | none =>
      simp only [hfind]
      refine rg_ofExcept (fun event hevent => ?_) fun err _ t ht => hJ s t hs ht
      exact rg_bind_after hrefl (rg_handleTradeOpened hguar hJ hrefl (hopen hfind event hevent) hs)
        (fun _ t ht t' ht' => hJ t t' ht ht') fun err t ht => ht
  | some existing =>
      simp only [hfind]
      split_ifs
      · exact rg_bind_after hrefl (rg_handleTradeModified hguar hJ hX hXJ hread
          (hmodify ⟨existing, hfind⟩) hs) (fun _ t ht t' ht' => hJ t t' ht ht') fun err t ht => ht
      · exact fun t ht => hJ s t hs ht

/-- An open trade of the journal: `J` before and after, `D` once its detail is asked for. -/
theorem rg_pollExisting {current : List (String × OpenTrade)} {existing : TradeRecord}
    {D : World → Prop} {X : TradeRecord → World → Prop} (hrefl : ∀ t, rely t t)
    (hguar : ∀ t, guar t t) (hJ : ∀ t t', J t → rely t t' → J t')
    (hD : ∀ t t', D t → rely t t' → D t') (hDJ : ∀ t, D t → J t)
    (hX : ∀ existing' t t', X existing' t → rely t t' → X existing' t')
    (hXD : ∀ existing' t, X existing' t → D t)
    (hdetail : current.any (fun entry => entry.1 == existing.tradeId) = false →
      ∀ t, J t → ok (.getTradeDetail existing.tradeId) t → D t)
    (hread : ∀ t existing', D t → t.store.getTrade existing.tradeId = some existing' → X existing' t)
    (hclose : ∀ detail transactions event,
      closedEvent cfg now accountCurrency existing detail transactions = .ok event →
        ∀ t existing' pips closed, X existing' t →
          (closedByPoller cfg existing'.toTradeFields event pips).validate = .ok closed →
            guar t (t.withStore (t.store.upsertTrade closed)) ∧
              D (t.withStore (t.store.upsertTrade closed)))
    (hs : J s) :
    (pollExisting cfg now accountCurrency current existing).Rg (World.guarded lossy ok) rely guar
      (After J J) s := by
  unfold pollExisting
  split_ifs with hlisted
  · exact fun t ht => hJ s t hs ht
  refine rg_attempt_read rfl hguar fun t r ht hok _ => ?_
  have hDt := hdetail (Bool.eq_false_iff.mpr hlisted) t (hJ s t hs ht) hok
  cases r with
  | error err => exact fun t' ht' => hDJ t' (hD t t' hDt ht')
  | ok detail =>
      have htransactions : (safeTradeTransactions existing.tradeId).Rg (World.guarded lossy ok) rely
          guar (After D D) t := rg_attempt_read rfl hguar fun t₁ r₁ ht₁ _ _ => by
        cases r₁ with
        | ok transactions => exact fun t₂ ht₂ => hD t₁ t₂ (hD t t₁ hDt ht₁) ht₂
        | error err => exact fun t₂ ht₂ => hD t₁ t₂ (hD t t₁ hDt ht₁) ht₂
      refine rg_bind_after hrefl htransactions (fun transactions t₁ ht₁ => ?_)
        fun err t₁ ht₁ => hDJ t₁ ht₁
      refine rg_ofExcept (fun event hevent => ?_) fun err _ t₂ ht₂ => hDJ t₂ (hD t₁ t₂ ht₁ ht₂)
      have hid : event.tradeId = existing.tradeId := by
        obtain ⟨_, _, -, rfl⟩ := TradeClosedEvent.validated_ok hevent
        rfl
      exact rg_bind_after hrefl (rg_handleTradeClosed hguar hD hX hXD
        (fun t₂ existing' ht₂ hget => hread t₂ existing' ht₂ (hid ▸ hget))
        (hclose detail transactions event hevent) ht₁)
        (fun _ t₂ ht₂ t₃ ht₃ => hDJ t₃ (hD t₂ t₃ ht₂ ht₃)) fun err t₂ ht₂ => hDJ t₂ ht₂

theorem rg_cycleCurrency {idle : Bool} (hguar : ∀ t, guar t t) (hJ : ∀ t t', J t → rely t t' → J t')
    (hs : J s) : (cycleCurrency cfg idle).Rg (World.guarded lossy ok) rely guar (After J J) s := by
  unfold cycleCurrency
  split_ifs
  · exact fun t ht => hJ s t hs ht
  · refine rg_attempt_read rfl hguar fun t r ht _ _ => ?_
    cases r with
    | ok currency => exact fun t' ht' => hJ t t' (hJ s t hs ht) ht'
    | error err => exact fun t' ht' => hJ t t' (hJ s t hs ht) ht'

end loops

/-- A cycle: `P` before, `L` once the broker's list is fetched, `M` once the journal is read. -/
theorem rg_pollOnceSync {P E : World → Prop} {L : List (String × OpenTrade) → World → Prop}
    {M : List (String × OpenTrade) → List TradeRecord → World → Prop} (hrefl : ∀ t, rely t t)
    (hguar : ∀ t, guar t t) (hP : ∀ t t', P t → rely t t' → P t')
    (hL : ∀ current t t', L current t → rely t t' → L current t')
    (hM : ∀ current existingOpen t t', M current existingOpen t → rely t t' →
      M current existingOpen t')
    (hPE : ∀ t, P t → E t) (hLE : ∀ current t, L current t → E t)
    (hME : ∀ current existingOpen t, M current existingOpen t → E t)
    (hfetch : ∀ t current, P t → ok .getOpenTrades t →
      currentById t.broker.openTrades = .ok current → L current t)
    (hlist : ∀ t current existingOpen, L current t → ok .listOpenTrades t →
      World.mayAnswer lossy .listOpenTrades t existingOpen → M current existingOpen t)
    (hcurrent : ∀ now accountCurrency current existingOpen, ∀ entry ∈ current, ∀ t,
      M current existingOpen t →
        (pollCurrent cfg now accountCurrency existingOpen entry).Rg (World.guarded lossy ok) rely guar
          (After (M current existingOpen) (M current existingOpen)) t)
    (hexisting : ∀ now accountCurrency current existingOpen, ∀ existing ∈ existingOpen, ∀ t,
      M current existingOpen t →
        (pollExisting cfg now accountCurrency current existing).Rg (World.guarded lossy ok) rely guar
          (After (M current existingOpen) (M current existingOpen)) t)
    (hs : P s) :
    (pollOnceSync cfg).Rg (World.guarded lossy ok) rely guar (After E E) s := by
  refine rg_read rfl hguar (fun t now ht _ _ => ?_)
    fun t t' err ht ht' => hPE t' (hP t t' (hP s t hs ht) ht')
  have hPt := hP s t hs ht
  refine rg_read rfl hguar (fun t₁ listed ht₁ hok hanswer => ?_)
    fun t₁ t₂ err ht₁ ht₂ => hPE t₂ (hP t₁ t₂ (hP t t₁ hPt ht₁) ht₂)
  have hPt₁ := hP t t₁ hPt ht₁
  obtain rfl : t₁.broker.openTrades = listed := by
    rcases hanswer with hanswer | ⟨-, hdefault⟩
    · exact Except.ok.inj hanswer
    · cases hdefault
  refine rg_ofExcept (fun current hcurrentById => ?_) fun err _ t₂ ht₂ => hPE t₂ (hP t₁ t₂ hPt₁ ht₂)
  have hLt₁ := hfetch t₁ current hPt₁ hok hcurrentById
  refine rg_read rfl hguar (fun t₂ existingOpen ht₂ hok₂ hanswer₂ => ?_)
    fun t₂ t₃ err ht₂ ht₃ => hLE current t₃ (hL current t₂ t₃ (hL current t₁ t₂ hLt₁ ht₂) ht₃)
  have hMt₂ := hlist t₂ current existingOpen (hL current t₁ t₂ hLt₁ ht₂) hok₂ hanswer₂
  refine rg_bind_after hrefl (rg_cycleCurrency hguar (hM current existingOpen) hMt₂)
    (fun accountCurrency t₃ ht₃ => ?_) fun err t₃ ht₃ => hME current existingOpen t₃ ht₃
  refine rg_bind_after hrefl (rg_each_after hrefl (hM current existingOpen)
    (hcurrent now accountCurrency current existingOpen) ht₃) (fun first t₄ ht₄ => ?_)
    fun err t₄ ht₄ => hME current existingOpen t₄ ht₄
  refine rg_bind_after hrefl (rg_each_after hrefl (hM current existingOpen)
    (hexisting now accountCurrency current existingOpen) ht₄) (fun second t₅ ht₅ => ?_)
    fun err t₅ ht₅ => hME current existingOpen t₅ ht₅
  exact fun t₆ ht₆ => hME current existingOpen t₆ (hM current existingOpen t₅ t₆ ht₅ ht₆)

end

/-! ### Calls under the lock -/

section

variable {lossy : Call → Prop} {ok : Call → World → Prop} {rely guar : World → World → Prop}
  {α : Type} {fn : Prog α} {s : World} {J : World → Prop}

theorem rg_stateLock {β : Type} {c : Call} {f : Ans c → Prog β} {locked : Bool}
    (hc : ∀ t, (World.answer c t).2 = { t with stateLock := locked }) (hdefault : c.readDefault = none)
    (hfails : ∀ t t', c.partialEffect t t' → t' = t) (hself : ∀ t, guar t t)
    (hlock : ∀ t b, guar t { t with stateLock := b }) (hJ : ∀ t t', J t → rely t t' → J t')
    (hJlock : ∀ t b, J t → J { t with stateLock := b })
    (hf : ∀ a t, J t → (f a).Rg (World.guarded lossy ok) rely guar (After J J) t) (hs : J s) :
    ((ask c).bind f).Rg (World.guarded lossy ok) rely guar (After J J) s := by
  refine rg_ask (fun t a ht _ _ => ?_) (fun _ _ _ _ _ h => nomatch hdefault.symm.trans h)
    fun t t' e ht _ hfail => ?_
  · rw [hc t]
    exact ⟨hlock t locked, hf a _ (hJlock t locked (hJ s t hs ht))⟩
  · rw [hfails t t' hfail]
    exact ⟨hself t, fun t'' ht'' => hJ t t'' (hJ s t hs ht) ht''⟩

/-- A call under the lock keeps what the call keeps. -/
theorem rg_runBlocking (hrefl : ∀ t, rely t t) (hself : ∀ t, guar t t)
    (hlock : ∀ t b, guar t { t with stateLock := b }) (hJ : ∀ t t', J t → rely t t' → J t')
    (hJlock : ∀ t b, J t → J { t with stateLock := b })
    (hfn : ∀ t, J t → fn.Rg (World.guarded lossy ok) rely guar (After J J) t) (hs : J s) :
    (runBlocking fn).Rg (World.guarded lossy ok) rely guar (After J J) s := by
  refine rg_stateLock (fun _ => rfl) rfl (fun _ _ h => h) hself hlock hJ hJlock (fun _ t ht => ?_) hs
  have hattempt : fn.attempt.Rg (World.guarded lossy ok) rely guar (After J J) t :=
    rg_attempt ((hfn t ht).mono fun r _ hr => by cases r <;> exact hr)
  refine rg_bind_after hrefl hattempt (fun result t₁ ht₁ => ?_) fun e t₁ ht₁ => ht₁
  refine rg_stateLock (fun _ => rfl) rfl (fun _ _ h => h) hself hlock hJ hJlock (fun _ t₂ ht₂ => ?_) ht₁
  cases result with
  | ok a => exact fun t₃ ht₃ => hJ t₂ t₃ ht₂ ht₃
  | error e => exact fun t₃ ht₃ => hJ t₂ t₃ ht₂ ht₃

end

end OandaV3
