import OandaV3.World

/-! # A world whose calls may fail

`World.faulty` is the reliable world with three kinds of faults.  Broker requests and store writes
may fail; a failed batch write leaves a prefix of its rows behind.  A store read that is `lossy`
may fail too, and then answers its default (`TradeStore.readOperation`).

`rg_ask`, `rg_read` and `rg_attempt_read` are the rely–guarantee rules of a call. -/

namespace OandaV3

open Interaction Program

/-- What a store read answers when it fails. -/
def Call.readDefault : (c : Call) → Option (Ans c)
  | .getTradeHistorySyncState _ => some none
  | .listTradeHistoryTradeEvents _ => some []
  | .getTrade _ => some none
  | .listOpenTrades => some []
  | .listClosedTrades => some []
  | _ => none

/-- Broker requests and store writes. -/
def Call.canFail : Call → Bool
  | .upsertTradeHistorySyncState _ | .upsertRawTransactions _ | .upsertTradeHistoryEvents _ => true
  | .upsertTrade _ | .getAccountDetails | .fetchTransactionsSince _ _ => true
  | .fetchTransactionsForWindow _ _ _ | .getOpenTrades | .getTradeDetail _ => true
  | .getTradeTransactions _ | .getAccountSummary => true
  | _ => false

/-- What a failed call may have done: a batch write stops after some of its rows. -/
def Call.partialEffect : Call → World → World → Prop
  | .upsertRawTransactions transactions, w, w' =>
      ∃ stored, stored <+: transactions ∧ w' = w.withStore (w.store.upsertRawTransactions stored).2
  | .upsertTradeHistoryEvents rows, w, w' =>
      ∃ stored, stored <+: rows ∧ w' = w.withStore (w.store.upsertTradeHistoryEvents stored).2
  | _, w, w' => w' = w

/-- A call that changes nothing. -/
def Call.isRead : Call → Bool
  | .upsertTradeHistorySyncState _ | .upsertRawTransactions _ | .upsertTradeHistoryEvents _ => false
  | .upsertTrade _ | .acquireStateLock | .releaseStateLock => false
  | _ => true

namespace World

/-- The answers a call may return with. -/
def mayAnswer (lossy : Call → Prop) (c : Call) (w : World) (a : Ans c) : Prop :=
  (answer c w).1 = .ok a ∨ (lossy c ∧ c.readDefault = some a)

def faulty (lossy : Call → Prop) : Host Call Ans Exn World where
  step c w r w' := answer c w = (r, w') ∨
    (c.canFail = true ∧ (∃ e, r = .error e) ∧ c.partialEffect w w') ∨
    (lossy c ∧ (∃ a, c.readDefault = some a ∧ r = .ok a) ∧ w' = w)

/-- The world with faults, on the calls that meet a condition in the state they are made in. -/
abbrev guarded (lossy : Call → Prop) (ok : Call → World → Prop) : Host Call Ans Exn World :=
  (faulty lossy).when ok

theorem answer_of_isRead {c : Call} (hc : c.isRead = true) (w : World) : (answer c w).2 = w := by
  cases c <;> first | rfl | cases hc

theorem partialEffect_of_isRead {c : Call} (hc : c.isRead = true) {w w' : World}
    (h : c.partialEffect w w') : w' = w := by
  cases c <;> first | exact h | cases hc

/-- A failed call may have done nothing. -/
theorem partialEffect_self (c : Call) (w : World) : c.partialEffect w w := by
  cases c with
  | upsertRawTransactions transactions => exact ⟨[], List.nil_prefix, rfl⟩
  | upsertTradeHistoryEvents rows => exact ⟨[], List.nil_prefix, rfl⟩
  | _ => rfl

theorem faulty_post {lossy : Call → Prop} {c : Call} {w w' : World} {r : Except Exn (Ans c)}
    (h : (faulty lossy).step c w r w') : w' = (answer c w).2 ∨ c.partialEffect w w' := by
  rcases h with h | ⟨-, -, h⟩ | ⟨-, -, rfl⟩
  · exact Or.inl (congrArg Prod.snd h).symm
  · exact Or.inr h
  · exact Or.inr (partialEffect_self c w')

/-- A reliable call that raises changes nothing. -/
theorem answer_of_error {c : Call} {w : World} {e : Exn} (h : (answer c w).1 = .error e) :
    (answer c w).2 = w := by
  cases c <;> first | rfl | cases h

theorem faulty_of_answer (lossy : Call → Prop) (c : Call) (w : World) :
    (faulty lossy).step c w (answer c w).1 (answer c w).2 := Or.inl rfl

instance (c : Call) (w : World) : Decidable (enabled c w) := inferInstanceAs (Decidable (c = _ → _))

/-- A schedule that respects the lock is a run. -/
theorem run_of_schedule {ι α : Type} [DecidableEq ι] (lossy : Call → Prop) (env : World → World → Prop)
    (is : List ι) (pool : ι → Prog α) (w : World)
    (hlock : ∀ e ∈ (Run.schedule answer is pool w).1, enabled e.call e.pre) :
    Run (guarded lossy enabled) env pool w (Run.schedule answer is pool w).1
      (Run.schedule answer is pool w).2.1 (Run.schedule answer is pool w).2.2 :=
  (Run.of_schedule (faulty_of_answer lossy) is pool w).when hlock

end World

section rules

variable {lossy : Call → Prop} {ok : Call → World → Prop} 
  {rely guar : World → World → Prop} {α : Type} {s : World} {Q : Except Exn α → World → Prop}

/-- A call of the faulty world: it answers as the reliable world does, it answers the default of a
read, or it raises and has done a part of its work. -/
theorem rg_ask {c : Call} {f : Ans c → Prog α}
    (hok : ∀ t a, rely s t → ok c t → (World.answer c t).1 = .ok a →
      guar t (World.answer c t).2 ∧ (f a).Rg (World.guarded lossy ok) rely guar Q (World.answer c t).2)
    (hlost : ∀ t a, rely s t → ok c t → lossy c → c.readDefault = some a →
      guar t t ∧ (f a).Rg (World.guarded lossy ok) rely guar Q t)
    (hfail : ∀ t t' e, rely s t → ok c t → c.partialEffect t t' →
      guar t t' ∧ ∀ t'', rely t' t'' → Q (.error e) t'') :
    ((ask c).bind f).Rg (World.guarded lossy ok) rely guar Q s := by
  refine rg_perform fun t ht r t' ⟨hc, hstep⟩ => ?_
  rcases hstep with hanswer | ⟨-, ⟨e, rfl⟩, hfails⟩ | ⟨hlossy, ⟨a, hdefault, rfl⟩, hsame⟩
  · cases r with
    | ok a =>
        obtain ⟨hguar, hf⟩ := hok t a ht hc (by rw [hanswer])
        rw [hanswer] at hguar hf
        exact ⟨hguar, hf⟩
    | error e =>
        have hsame := World.answer_of_error (c := c) (w := t) (e := e) (by rw [hanswer])
        rw [hanswer] at hsame
        exact hsame ▸ hfail t t e ht hc (World.partialEffect_self c t)
  · exact hfail t t' e ht hc hfails
  · exact hsame ▸ hlost t a ht hc hlossy hdefault

theorem rg_read {c : Call} {f : Ans c → Prog α} (hc : c.isRead = true) (hguar : ∀ t, guar t t)
    (hok : ∀ t a, rely s t → ok c t → World.mayAnswer lossy c t a →
      (f a).Rg (World.guarded lossy ok) rely guar Q t)
    (hfail : ∀ t t' e, rely s t → rely t t' → Q (.error e) t') :
    ((ask c).bind f).Rg (World.guarded lossy ok) rely guar Q s := by
  refine rg_ask (fun t a ht hc' ha => ?_) (fun t a ht hc' hlossy ha => ?_)
    fun t t' e ht _ hfails => ?_
  · rw [World.answer_of_isRead hc]
    exact ⟨hguar t, hok t a ht hc' (Or.inl ha)⟩
  · exact ⟨hguar t, hok t a ht hc' (Or.inr ⟨hlossy, ha⟩)⟩
  · rw [World.partialEffect_of_isRead hc hfails]
    exact ⟨hguar t, fun t'' => hfail t t'' e ht⟩

/-- A call that only reads, and whose failure is handled. -/
theorem rg_attempt_read {c : Call} {f : Except Exn (Ans c) → Prog α} (hc : c.isRead = true)
    (hguar : ∀ t, guar t t)
    (hf : ∀ t r, rely s t → ok c t → (∀ a, r = .ok a → World.mayAnswer lossy c t a) →
      (f r).Rg (World.guarded lossy ok) rely guar Q t) :
    ((ask c).attempt.bind f).Rg (World.guarded lossy ok) rely guar Q s := by
  intro t ht r t' ⟨hok, hstep⟩
  obtain ⟨rfl, hanswer⟩ : t' = t ∧ ∀ a, r = .ok a → World.mayAnswer lossy c t a := by
    rcases hstep with hanswer | ⟨-, ⟨e, rfl⟩, hfails⟩ | ⟨hlossy, ⟨a, hdefault, rfl⟩, hsame⟩
    · have hr : (World.answer c t).1 = r := congrArg Prod.fst hanswer
      exact ⟨(congrArg Prod.snd hanswer).symm.trans (World.answer_of_isRead hc t),
        fun a ha => Or.inl (hr.trans ha)⟩
    · exact ⟨World.partialEffect_of_isRead hc hfails, fun a h => nomatch h⟩
    · exact ⟨hsame, fun a' h => Or.inr ⟨hlossy, Except.ok.inj h ▸ hdefault⟩⟩
  have hrest := hf t' r ht hok hanswer
  cases r with
  | ok a => exact ⟨hguar t', hrest⟩
  | error e => exact ⟨hguar t', hrest⟩

end rules

end OandaV3
