import OandaV3.Stored

/-! # Syncs and backfills move one watermark

`HistoryOp` is a call of `incremental_sync` or `backfill_history`; `runHistory` makes a sequence of
them.  A sync moves the watermark over transactions it ingested.  A backfill moves it to the newest
id of its windows, also over transactions that lie between the old watermark and the windows
(`runHistory_skips_twoDays`).

`runHistory_ingested`: where no window answer leaves such a gap (`NoGap`), in every state reached
everything from the first watermark to the current one is stored. -/

namespace OandaV3

open Interaction Program

/-- A call of the history service. -/
inductive HistoryOp where
  | incrementalSync
  | backfillHistory (startDay endDay : ℤ) (tzName : Option String)
deriving DecidableEq, Repr

def HistoryOp.run (cfg : Config) : HistoryOp → Prog Unit
  | .incrementalSync => do
      let _ ← OandaV3.incrementalSync cfg
  | .backfillHistory startDay endDay tzName => do
      let _ ← OandaV3.backfillHistory cfg startDay endDay tzName

/-- A sequence of calls; a call that raises ends there, and the next one starts. -/
def runHistory (cfg : Config) (ops : List HistoryOp) : Prog (List (Except Exn Unit)) :=
  each (fun op => (op.run cfg).attempt) ops

/-- A window answer leaves no gap: a relevant transaction above the watermark, and at most at an id
of the answer, is in the answer or held already. -/
def NoGap (accountId : String) : Call → World → Prop
  | .fetchTransactionsForWindow startUtc endUtc typeFilter, w =>
      ∀ watermark, w.store.watermark accountId = some watermark →
        ∀ u ∈ w.broker.log.window startUtc endUtc typeFilter, ∀ t ∈ w.broker.log.transactions,
          t.relevant = true → watermark < t.id → t.id ≤ u.id →
            t ∈ w.broker.log.window startUtc endUtc typeFilter ∨ w.store.Holds t
  | _, _ => True

section

variable {cfg : Config} {lossy : Call → Prop} {s w w' : World} {zone : String}

def HasWatermark (accountId : String) (w : World) : Prop :=
  ∃ watermark, w.store.watermark accountId = some watermark

theorem HasWatermark.safe {accountId : String} (h : HasWatermark accountId w)
    (hstep : SafeStep accountId w w') : HasWatermark accountId w' := by
  obtain ⟨before, hbefore⟩ := h
  obtain ⟨after, hafter, -⟩ := hstep.advances before hbefore
  exact ⟨after, hafter⟩

/-- An account that has a watermark is never initialized again. -/
theorem rg_incrementalSync_watermark (hlossy : ∀ c, ¬ lossy c) {ok : Call → World → Prop}
    (hs : HasWatermark cfg.oandaAccountId s) :
    (incrementalSync cfg).Rg (World.guarded lossy ok) World.Grows (SafeStep cfg.oandaAccountId)
      (fun _ t => HasWatermark cfg.oandaAccountId t) s := by
  have hgrows : ∀ t t', t.Grows t' → HasWatermark cfg.oandaAccountId t →
      HasWatermark cfg.oandaAccountId t' := fun t t' h ht => ht.safe h.later.safe
  refine Rg.mono (Rg.and_invariant (rg_incrementalSync (K := HasWatermark cfg.oandaAccountId)
    (D := fun _ => True) (E := fun _ => True) (N := fun _ => False)
    (S := fun state t => t.store.getTradeHistorySyncState cfg.oandaAccountId = some state)
    (fun t => (World.Later.refl t).safe) (fun t t' ht h => hgrows t t' h ht)
    (fun _ _ h _ => h) (fun state t t' ht h => h.store ▸ ht) (fun _ _ => trivial)
    (fun _ _ => trivial) (fun _ _ _ => trivial) (fun t ht hanswer => ?_)
    (fun _ _ _ hstate => hstate) (fun _ _ h => h.elim) (fun t state nowUtc hstate => ?_) hs)
    hgrows (fun t t' h ht => ht.safe h) hs) fun r t hr => hr.2
  · obtain ⟨watermark, hwatermark⟩ := ht
    rcases hanswer with hanswer | ⟨h, -⟩
    · have hnone : t.store.getTradeHistorySyncState cfg.oandaAccountId = none :=
        Except.ok.inj hanswer
      rw [TradeStore.watermark, hnone] at hwatermark
      cases hwatermark
    · exact (hlossy _ h).elim
  · have haccount : state.accountId = cfg.oandaAccountId := (Table.find_some hstate).2
    have hsafe : (continueSync cfg state nowUtc).Rg (World.guarded lossy ok) World.Grows
        (SafeStep state.accountId) (fun _ _ => True) t :=
      rg_continueSync_safe (by rw [haccount, TradeStore.watermark, hstate]; rfl)
    rw [haccount] at hsafe
    refine hsafe.mono fun r _ _ => ?_
    cases r <;> trivial

/-! ### Backfills -/

theorem maxTransactionId_mem {transactions : List Transaction} {id : ℕ}
    (h : maxTransactionId transactions = some id) : ∃ u ∈ transactions, u.id = id :=
  List.mem_map.mp (maxBy_mem h)

/-- The running maximum is an id of the chunk, or the maximum before it. -/
theorem laterId_cases {transactions : List Transaction} {best : Option ℕ} {id : ℕ}
    (h : laterId (maxTransactionId transactions) best = some id) :
    (∃ u ∈ transactions, u.id = id) ∨ best = some id := by
  cases hmax : maxTransactionId transactions with
  | none => rw [hmax] at h; exact Or.inr h
  | some chunkMax =>
      rw [hmax] at h
      cases best with
      | none =>
          obtain rfl := Option.some.inj h
          exact Or.inl (maxTransactionId_mem hmax)
      | some before =>
          simp only [laterId] at h
          split_ifs at h
          · obtain rfl := Option.some.inj h
            exact Or.inl (maxTransactionId_mem hmax)
          · exact Or.inr h

/-- What is above the watermark, and at most the candidate, is held. -/
def Backfilled (accountId : String) (best : Option ℕ) (w : World) : Prop :=
  HasWatermark accountId w ∧ ∀ candidate, best = some candidate →
    ∀ watermark, w.store.watermark accountId = some watermark → HeldUpTo watermark candidate w

theorem Backfilled.later {accountId : String} {best : Option ℕ} (h : Backfilled accountId best w)
    (hlater : w.Later w') : Backfilled accountId best w' := by
  refine ⟨h.1.safe hlater.safe, fun candidate hbest watermark hwatermark => ?_⟩
  rw [hlater.watermark] at hwatermark
  exact (h.2 candidate hbest watermark hwatermark).later hlater

theorem rg_backfillChunk {best : Option ℕ} {chunkStart chunkEnd : Instant}
    {ok : Call → World → Prop} (hs : Backfilled cfg.oandaAccountId best s)
    (hgap : NoGap cfg.oandaAccountId
      (.fetchTransactionsForWindow chunkStart chunkEnd tradeHistoryTypeFilter) s) :
    (ingest cfg zone (s.broker.log.window chunkStart chunkEnd tradeHistoryTypeFilter)).Rg
      (World.guarded lossy ok) World.Grows (SafeStep cfg.oandaAccountId)
      (After (Backfilled cfg.oandaAccountId (laterId (maxTransactionId
        (s.broker.log.window chunkStart chunkEnd tradeHistoryTypeFilter)) best))
        (HasWatermark cfg.oandaAccountId)) s := by
  refine (rg_ingest_holds (fun _ _ => World.Later.safe)
    fun u hu => (TransactionLog.mem_window.mp hu).1).mono fun r t hr => ?_
  cases r with
  | error e => exact hs.1.safe hr.safe
  | ok counts =>
      obtain ⟨hlater, hheld⟩ := hr
      refine ⟨hs.1.safe hlater.safe, fun candidate hbest watermark hwatermark => ?_⟩
      rcases laterId_cases hbest with ⟨u, hu, rfl⟩ | hbest
      · rw [hlater.watermark] at hwatermark
        have hulog := (TransactionLog.mem_window.mp hu).1
        refine ⟨⟨u, hlater.log.mem hulog, le_refl _⟩, fun t' ht' hrelevant hlt hle => ?_⟩
        rcases hlater.log.mem_or_newer ht' with ht' | hnewer
        · rcases hgap watermark hwatermark u hu t' ht' hrelevant hlt hle with hin | hholds
          · exact hheld t' hin
          · exact hlater.holds t' ht' hholds
        · exact absurd (hnewer u hulog) (by omega)
      · exact (hs.later hlater).2 candidate hbest watermark hwatermark

/-- A backfill without gaps moves the watermark over held transactions only. -/
theorem rg_backfillHistory_safe {startDay endDay : ℤ} {tzName : Option String}
    (hs : HasWatermark cfg.oandaAccountId s) :
    (backfillHistory cfg startDay endDay tzName).Rg
      (World.guarded lossy (NoGap cfg.oandaAccountId)) World.Grows (SafeStep cfg.oandaAccountId)
      (fun _ t => HasWatermark cfg.oandaAccountId t) s := by
  have hrefl : ∀ t, SafeStep cfg.oandaAccountId t t := fun t => (World.Later.refl t).safe
  have hhas : ∀ t t', HasWatermark cfg.oandaAccountId t → t.Grows t' →
      HasWatermark cfg.oandaAccountId t' := fun t t' ht h => ht.safe h.later.safe
  have hB : ∀ best t t', Backfilled cfg.oandaAccountId best t → t.Grows t' →
      Backfilled cfg.oandaAccountId best t' := fun best t t' ht h => ht.later h.later
  have hnone : Backfilled cfg.oandaAccountId none s := ⟨hs, fun _ h => nomatch h⟩
  refine (rg_backfillHistory (B := Backfilled cfg.oandaAccountId)
    (E := HasWatermark cfg.oandaAccountId) World.Grows.refl hB hhas (fun _ t ht => ht.1)
    (fun zone chunks => rg_backfillChunks World.Grows.refl hrefl hB (fun _ t ht => ht.1)
      (fun best t chunkStart chunkEnd ht hgap => rg_backfillChunk ht hgap) chunks none {} hnone)
    (fun candidate t ht => rg_advanceSyncStateWatermark hrefl (hB _) hhas (fun t ht => ht.1)
      (fun t₁ nowUtc next ht₁ hnext => ?_) ht) hnone).mono fun r t hr => ?_
  · obtain ⟨hid, hcandidate⟩ := syncState_ok hnext
    have hstep : SafeStep cfg.oandaAccountId t₁
        (t₁.withStore (t₁.store.upsertTradeHistorySyncState next)) :=
      hid ▸ .upsertSyncState fun before hbefore _ =>
        hcandidate ▸ ht₁.2 candidate rfl before (hid ▸ hbefore)
    exact ⟨hstep, ht₁.1.safe hstep⟩
  · cases r <;> exact hr

/-! ### Sequences of calls -/

theorem rg_runHistory {ops : List HistoryOp} (hs : HasWatermark cfg.oandaAccountId s) :
    (runHistory cfg ops).Rg (World.guarded (fun _ => False) (NoGap cfg.oandaAccountId)) World.Grows
      (SafeStep cfg.oandaAccountId) (fun _ _ => True) s := by
  have hhas : ∀ t t', HasWatermark cfg.oandaAccountId t → t.Grows t' →
      HasWatermark cfg.oandaAccountId t' := fun t t' ht h => ht.safe h.later.safe
  refine (rg_each_after (J := HasWatermark cfg.oandaAccountId) (E := fun _ => True)
    World.Grows.refl hhas (fun op _ t ht => rg_attempt ?_) hs).mono fun _ _ _ => trivial
  cases op with
  | incrementalSync =>
      exact rg_bind_after (J := HasWatermark cfg.oandaAccountId)
        (E := HasWatermark cfg.oandaAccountId) World.Grows.refl
        ((rg_incrementalSync_watermark (fun _ h => h) ht).mono fun r _ hr => by cases r <;> exact hr)
        (fun _ t₁ ht₁ t₂ ht₂ => hhas t₁ t₂ ht₁ ht₂) fun e t₁ ht₁ => ht₁
  | backfillHistory startDay endDay tzName =>
      exact rg_bind_after (J := HasWatermark cfg.oandaAccountId)
        (E := HasWatermark cfg.oandaAccountId) World.Grows.refl
        ((rg_backfillHistory_safe ht).mono fun r _ hr => by cases r <;> exact hr)
        (fun _ t₁ ht₁ t₂ ht₂ => hhas t₁ t₂ ht₁ ht₂) fun e t₁ ht₁ => ht₁

end

/-- Everything from the first watermark to the current one is stored. -/
def IngestedSince (accountId : String) (first : ℕ) (w : World) : Prop :=
  ∃ watermark, w.store.watermark accountId = some watermark ∧
    (watermark ≤ first ∨ HeldUpTo first watermark w)

theorem IngestedSince.safe {accountId : String} {first : ℕ} {w w' : World}
    (h : IngestedSince accountId first w) (hstep : SafeStep accountId w w') :
    IngestedSince accountId first w' := by
  obtain ⟨before, hbefore, hheld⟩ := h
  obtain ⟨after, hafter, hadvance⟩ := hstep.advances before hbefore
  refine ⟨after, hafter, ?_⟩
  by_cases hlt : before < after
  · exact Or.inr ((HeldUpTo.trans hheld (hadvance hlt)).of_log hstep.log hstep.holds)
  · rcases hheld with hle | hheld
    · exact Or.inl (by omega)
    · obtain ⟨⟨v, hv, hlast⟩, hheld⟩ := hheld.of_log hstep.log hstep.holds
      exact Or.inr ⟨⟨v, hv, by omega⟩, fun t ht hrelevant h₁ h₂ => hheld t ht hrelevant h₁ (by omega)⟩

/-- **Syncs and backfills without gaps.**  From an account whose watermark is `first`, in every state
a sequence of syncs and backfills reaches while the broker's log grows, every relevant transaction
above `first` and at most the watermark is stored, when no window answer leaves a gap. -/
theorem runHistory_ingested (cfg : Config) (ops : List HistoryOp) (w w' : World) (first : ℕ)
    (tr : List (Event Call Ans Exn World Unit))
    (hfirst : w.store.watermark cfg.oandaAccountId = some first)
    (hreach : (runHistory cfg ops).Reaches (World.faulty fun _ => False) World.Grows w tr w')
    (hgap : ∀ e ∈ tr, NoGap cfg.oandaAccountId e.call e.pre) :
    ∃ watermark, w'.store.watermark cfg.oandaAccountId = some watermark ∧
      ∀ t ∈ w'.broker.log.transactions, t.relevant = true → first < t.id → t.id ≤ watermark →
        w'.store.Holds t := by
  have hsince : IngestedSince cfg.oandaAccountId first w' :=
    (hreach.when hgap).invariant World.Grows.refl (fun _ _ _ => World.Grows.trans) (fun _ _ h => h)
      (rg_runHistory ⟨first, hfirst⟩) ⟨first, hfirst, Or.inl (le_refl _)⟩
      (fun _ _ h hI => hI.safe h.later.safe) (fun _ _ h hI => hI.safe h)
  obtain ⟨watermark, hwatermark, hheld⟩ := hsince
  refine ⟨watermark, hwatermark, fun t ht hrelevant hlt hle => ?_⟩
  rcases hheld with hle' | hheld
  · omega
  · exact hheld.2 t ht hrelevant hlt hle

/-- The watermark is 100; the fills 101 and 102 are of the days 1 and 2. -/
def twoDays : World :=
  watermarkedWorld ⟨[openingFill 100 0 "100" 100, openingFill 101 90000000000 "101" 100,
    openingFill 102 180000000000 "102" 100], by decide⟩ 100

/-- The backfill of day 2 moves the watermark over the fill of day 1. -/
theorem runHistory_skips_twoDays :
    ¬ ∀ tr w', (runHistory sampleConfig [.backfillHistory 2 2 none]).Reaches
        (Host.ofFun World.answer) World.Grows twoDays tr w' →
      ∃ watermark, w'.store.watermark "001" = some watermark ∧
        ∀ t ∈ w'.broker.log.transactions, t.relevant = true → 100 < t.id → t.id ≤ watermark →
          w'.store.Holds t := by
  intro h
  obtain ⟨watermark, hwatermark, hheld⟩ := h _ _ (Program.reaches_trace (fun _ _ => rfl) _ _)
  have h102 : ((runHistory sampleConfig [.backfillHistory 2 2 none]).eval World.answer
      twoDays).2.store.watermark "001" = some 102 := by decide +kernel
  obtain rfl := Option.some.inj (hwatermark.symm.trans h102)
  have hholds := hheld (openingFill 101 90000000000 "101" 100) (by decide +kernel) (by decide)
    (by decide) (by decide)
  exact absurd hholds.1 (by decide +kernel)

/-- A window answer holds every transaction above the watermark up to its newest. -/
def windowComplete (accountId : String) (c : Call) (w : World) : Bool :=
  match c with
  | .fetchTransactionsForWindow startUtc endUtc typeFilter =>
      (w.broker.log.window startUtc endUtc typeFilter).all fun u =>
        w.broker.log.transactions.all fun t =>
          (w.store.watermark accountId).all (fun watermark => decide (t.id ≤ watermark)) ||
            decide (u.id < t.id) ||
            (w.broker.log.window startUtc endUtc typeFilter).contains t
  | _ => true

theorem noGap_of_windowComplete {accountId : String} {c : Call} {w : World}
    (h : windowComplete accountId c w = true) : NoGap accountId c w := by
  cases c with
  | fetchTransactionsForWindow startUtc endUtc typeFilter =>
      intro watermark hwatermark u hu t ht _ hlt hle
      simp only [windowComplete, List.all_eq_true, Bool.or_eq_true, decide_eq_true_eq,
        hwatermark, Option.all_some, List.contains_iff_mem] at h
      rcases h u hu t ht with (h | h) | h
      · omega
      · omega
      · exact Or.inl h
  | _ => trivial

/-- The backfill of both days, then a sync. -/
theorem runHistory_ingested_twoDays :
    ∃ watermark, ((runHistory sampleConfig [.backfillHistory 1 2 none, .incrementalSync]).eval
        World.answer twoDays).2.store.watermark "001" = some watermark ∧
      ∀ t ∈ ((runHistory sampleConfig [.backfillHistory 1 2 none, .incrementalSync]).eval
        World.answer twoDays).2.broker.log.transactions, t.relevant = true → 100 < t.id →
          t.id ≤ watermark → ((runHistory sampleConfig [.backfillHistory 1 2 none,
            .incrementalSync]).eval World.answer twoDays).2.store.Holds t := by
  have hcomplete : ((runHistory sampleConfig [.backfillHistory 1 2 none, .incrementalSync]).trace
      World.answer twoDays).all (fun e => windowComplete "001" e.call e.pre) = true := by
    decide +kernel
  exact runHistory_ingested sampleConfig _ twoDays _ 100 _ (by decide +kernel)
    (Program.reaches_trace (World.faulty_of_answer _) _ _)
    fun e he => noGap_of_windowComplete (List.all_eq_true.mp hcomplete e he)

end OandaV3
