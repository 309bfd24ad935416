import OandaV3.Faults
import OandaV3.HistoryService

/-! # Rules of the history service

One rely–guarantee rule for each program of the history service, on a world with faults.  A rule
asks for assertions between the calls of its program that the environment keeps, and for what each
call does to them; the rules of the callers take those of the callees as premises.

* `rg_projectTradeRecord`, `rg_repairManualMitClose`: what is written, from what was read.
* `rg_ingest`: a batch is stored raw, then as rows, then projected and repaired.
* `calls_ingest`: the calls of an ingestion, whatever they are answered. -/

namespace OandaV3

open Interaction Program

section

variable {cfg : Config} {lossy : Call → Prop} {ok : Call → World → Prop}
  {rely guar : World → World → Prop} {s : World}

/-! ### Projection and repair -/

/-- Projecting a trade: `K` before, `E` once the events are read, `X` once the record is. -/
theorem rg_projectTradeRecord {tradeId : String} {K : World → Prop}
    {E : List TradeHistoryEvent → World → Prop}
    {X : List TradeHistoryEvent → Option TradeRecord → World → Prop}
    (hguar : ∀ t, guar t t) (hK : ∀ t t', K t → rely t t' → K t')
    (hE : ∀ events t t', E events t → rely t t' → E events t')
    (hX : ∀ events existing t t', X events existing t → rely t t' → X events existing t')
    (hEK : ∀ events t, E events t → K t) (hXK : ∀ events existing t, X events existing t → K t)
    (hevents : ∀ t events, K t → World.mayAnswer lossy
      (.listTradeHistoryTradeEvents { tradeId := some tradeId }) t events → E events t)
    (hexisting : ∀ t events existing, E events t →
      World.mayAnswer lossy (.getTrade tradeId) t existing → X events existing t)
    (hwrite : ∀ t events existing record, X events existing t → events ≠ [] →
      projection cfg tradeId events existing = .ok (some record) →
        guar t (t.withStore (t.store.upsertTrade record)) ∧
          K (t.withStore (t.store.upsertTrade record)))
    (hs : K s) :
    (projectTradeRecord cfg tradeId).Rg (World.guarded lossy ok) rely guar (After K K) s := by
  refine rg_read rfl hguar (fun t events ht _ hanswer => ?_)
    fun t t' e ht ht' => hK t t' (hK s t hs ht) ht'
  have hEt : E events t := hevents t events (hK s t hs ht) hanswer
  split_ifs with hempty
  · exact fun t' ht' => hK t t' (hEK events t hEt) ht'
  refine rg_read rfl hguar (fun t₁ existing ht₁ _ hanswer₁ => ?_)
    fun t₁ t₂ e ht₁ ht₂ => hEK events t₂ (hE events t₁ t₂ (hE events t t₁ hEt ht₁) ht₂)
  have hXt : X events existing t₁ := hexisting t₁ events existing (hE events t t₁ hEt ht₁) hanswer₁
  refine rg_ofExcept (fun result hresult => ?_)
    fun e _ t₂ ht₂ => hK t₁ t₂ (hXK events existing t₁ hXt) ht₂
  cases result with
  | none => exact fun t₂ ht₂ => hK t₁ t₂ (hXK events existing t₁ hXt) ht₂
  | some record =>
      have hstep : ∀ t₂, rely t₁ t₂ → guar t₂ (t₂.withStore (t₂.store.upsertTrade record)) ∧
          K (t₂.withStore (t₂.store.upsertTrade record)) := fun t₂ ht₂ =>
        hwrite t₂ events existing record (hX events existing t₁ t₂ hXt ht₂)
          (mt List.isEmpty_iff.mpr hempty) hresult
      refine rg_ask (fun t₂ _ ht₂ _ _ => ⟨(hstep t₂ ht₂).1, ?_⟩) (fun _ _ _ _ _ h => nomatch h)
        fun t₂ t₃ e ht₂ _ hfails => ?_
      · exact fun t₃ ht₃ => hK _ t₃ (hstep t₂ ht₂).2 ht₃
      · obtain rfl : t₃ = t₂ := hfails
        exact ⟨hguar t₃, fun t₄ ht₄ => hK t₃ t₄
          (hXK events existing t₃ (hX events existing t₁ t₃ hXt ht₂)) ht₄⟩

/-- Repairing a closed trade: `L` before, `D` once its events ask for a repair. -/
theorem rg_repairManualMitClose {trade : TradeRecord} {L D : World → Prop}
    (hguar : ∀ t, guar t t) (hL : ∀ t t', L t → rely t t' → L t')
    (hdecide : ∀ t events final, L t → trade.closeReason = some .MANUAL →
      World.mayAnswer lossy (.listTradeHistoryTradeEvents { tradeId := some trade.tradeId }) t
        events → (closeEvents events).getLast? = some final → repairReason trade final = .MIT → D t)
    (hproject : ∀ t, D t → (projectTradeRecord cfg trade.tradeId).Rg (World.guarded lossy ok) rely guar
      (After L L) t)
    (hs : L s) :
    (repairManualMitClose cfg trade).Rg (World.guarded lossy ok) rely guar (After L L) s := by
  unfold repairManualMitClose
  split_ifs with hmanual
  · exact fun t ht => hL s t hs ht
  refine rg_read rfl hguar (fun t events ht _ hanswer => ?_)
    fun t t' e ht ht' => hL t t' (hL s t hs ht) ht'
  have hLt : L t := hL s t hs ht
  cases hfinal : (closeEvents events).getLast? with
  | none => exact fun t' ht' => hL t t' hLt ht'
  | some final =>
      simp only
      split_ifs with hreason
      · exact fun t' ht' => hL t t' hLt ht'
      · exact hproject t (hdecide t events final hLt (not_not.mp hmanual) hanswer hfinal
          (not_not.mp hreason))

/-- The repair of the closed trades: `K` before, `L` once they are listed. -/
theorem rg_repairManualMitClosesFromHistory {K : World → Prop}
    {L : List TradeRecord → World → Prop} (hrefl : ∀ t, rely t t) (hguar : ∀ t, guar t t)
    (hK : ∀ t t', K t → rely t t' → K t')
    (hL : ∀ closed t t', L closed t → rely t t' → L closed t')
    (hLK : ∀ closed t, L closed t → K t)
    (hlist : ∀ t closed, K t → ok .listClosedTrades t →
      World.mayAnswer lossy .listClosedTrades t closed → L closed t)
    (hbody : ∀ closed, ∀ trade ∈ closed, ∀ t, L closed t →
      (repairManualMitClose cfg trade).Rg (World.guarded lossy ok) rely guar
        (After (L closed) (L closed)) t)
    (hs : K s) :
    (repairManualMitClosesFromHistory cfg).Rg (World.guarded lossy ok) rely guar (After K K) s := by
  refine rg_read rfl hguar (fun t closed ht hok hanswer => ?_)
    fun t t' e ht ht' => hK t t' (hK s t hs ht) ht'
  refine rg_bind_after hrefl (rg_each_after hrefl (hL closed) (hbody closed)
    (hlist t closed (hK s t hs ht) hok hanswer)) (fun _ t' ht' => ?_) fun e t' ht' => hLK closed t' ht'
  exact fun t'' ht'' => hK t' t'' (hLK closed t' ht') ht''

/-! ### Programs that write trade records only -/

section tradesOnly

variable {J : World → Prop} (hrefl : ∀ t, rely t t)
  (hJ : ∀ t t', J t → rely t t' → J t')
  (hwrite : ∀ t record, J t → guar t (t.withStore (t.store.upsertTrade record)) ∧
    J (t.withStore (t.store.upsertTrade record)))
  (hguar : ∀ t, guar t t)

include hJ hwrite hguar

theorem rg_projectTradeRecord_of_trades (tradeId : String) (hs : J s) :
    (projectTradeRecord cfg tradeId).Rg (World.guarded lossy ok) rely guar (After J J) s :=
  rg_projectTradeRecord hguar hJ (fun _ => hJ) (fun _ _ => hJ) (fun _ _ h => h)
    (fun _ _ _ h => h) (fun _ _ h _ => h) (fun _ _ _ h _ => h)
    (fun t _ _ record h _ _ => hwrite t record h) hs

include hrefl

theorem rg_projectTrades_of_trades (tradeIds : List String) (hs : J s) :
    (each (projectTradeRecord cfg) tradeIds).Rg (World.guarded lossy ok) rely guar (After J J) s :=
  rg_each_after hrefl hJ (fun tradeId _ _ ht =>
    rg_projectTradeRecord_of_trades hJ hwrite hguar tradeId ht) hs

theorem rg_repair_of_trades (hs : J s) :
    (repairManualMitClosesFromHistory cfg).Rg (World.guarded lossy ok) rely guar (After J J) s :=
  rg_repairManualMitClosesFromHistory (L := fun _ => J) hrefl hguar hJ (fun _ => hJ)
    (fun _ _ h => h) (fun _ _ h _ _ => h)
    (fun _ trade _ _ ht => rg_repairManualMitClose (D := J) hguar hJ (fun _ _ _ h _ _ _ _ => h)
      (fun _ h => rg_projectTradeRecord_of_trades hJ hwrite hguar trade.tradeId h) ht) hs

end tradesOnly

/-! ### Ingestion -/

/-- A call that stores a batch row by row: all of it, or a part of it when it fails. -/
theorem rg_storeBatch {ρ : Type} {c : Call} {batch : List ρ} {put : World → List ρ → World}
    {I A E : World → Prop} (hput : ∀ t, (World.answer c t).2 = put t batch)
    (hfails : ∀ t t', c.partialEffect t t' → ∃ stored, stored <+: batch ∧ t' = put t stored)
    (hdefault : c.readDefault = none) (hI : ∀ t t', I t → rely t t' → I t')
    (hA : ∀ t t', A t → rely t t' → A t') (hE : ∀ t t', E t → rely t t' → E t')
    (hstore : ∀ t, I t → ok c t → guar t (put t batch) ∧ A (put t batch))
    (hpart : ∀ t stored, I t → stored <+: batch → guar t (put t stored) ∧ E (put t stored))
    (hs : I s) : (ask c).Rg (World.guarded lossy ok) rely guar (After A E) s := by
  refine bind_done (ask c) ▸ rg_ask (fun t _ ht hok _ => ?_)
    (fun _ _ _ _ _ h => nomatch hdefault.symm.trans h) fun t t' e ht _ hfail => ?_
  · obtain ⟨hg, hAt⟩ := hstore t (hI s t hs ht) hok
    rw [hput t]
    exact ⟨hg, fun t' ht' => hA _ t' hAt ht'⟩
  · obtain ⟨stored, hpre, rfl⟩ := hfails t t' hfail
    obtain ⟨hg, hEt⟩ := hpart t stored (hI s t hs ht) hpre
    exact ⟨hg, fun t'' ht'' => hE _ t'' hEt ht''⟩

theorem rg_storeRaw {transactions : List Transaction} {I A E : World → Prop}
    (hI : ∀ t t', I t → rely t t' → I t')
    (hA : ∀ t t', A t → rely t t' → A t') (hE : ∀ t t', E t → rely t t' → E t')
    (hstore : ∀ t, I t → guar t (t.withStore (t.store.upsertRawTransactions transactions).2) ∧
      A (t.withStore (t.store.upsertRawTransactions transactions).2))
    (hpart : ∀ t stored, I t → stored <+: transactions →
      guar t (t.withStore (t.store.upsertRawTransactions stored).2) ∧
        E (t.withStore (t.store.upsertRawTransactions stored).2))
    (hs : I s) :
    (storeRaw transactions).Rg (World.guarded lossy ok) rely guar (After A E) s := by
  unfold storeRaw
  split_ifs with hempty
  · obtain rfl := List.isEmpty_iff.mp hempty
    exact fun t ht => (hstore t (hI s t hs ht)).2
  · exact rg_storeBatch (fun _ => rfl) (fun _ _ h => h) rfl hI hA hE (fun t ht _ => hstore t ht) hpart hs

theorem rg_storeRows {rows : List HistoryRow} {I A E : World → Prop}
    (hI : ∀ t t', I t → rely t t' → I t')
    (hA : ∀ t t', A t → rely t t' → A t') (hE : ∀ t t', E t → rely t t' → E t')
    (hstore : ∀ t, I t → (rows ≠ [] → ok (.upsertTradeHistoryEvents rows) t) →
      guar t (t.withStore (t.store.upsertTradeHistoryEvents rows).2) ∧
        A (t.withStore (t.store.upsertTradeHistoryEvents rows).2))
    (hpart : ∀ t stored, I t → stored <+: rows →
      guar t (t.withStore (t.store.upsertTradeHistoryEvents stored).2) ∧
        E (t.withStore (t.store.upsertTradeHistoryEvents stored).2))
    (hs : I s) :
    (storeRows rows).Rg (World.guarded lossy ok) rely guar (After A E) s := by
  unfold storeRows
  split_ifs with hempty
  · obtain rfl := List.isEmpty_iff.mp hempty
    exact fun t ht => (hstore t (hI s t hs ht) fun h => absurd rfl h).2
  · exact rg_storeBatch (fun _ => rfl) (fun _ _ h => h) rfl hI hA hE
      (fun t ht hok => hstore t ht fun _ => hok) hpart hs

/-- A batch: `I` before, `A` once it is stored raw, `B` once its rows are stored and until the end;
`E` when it was given up. -/
theorem rg_ingest {zone : String} {transactions : List Transaction} {I A E : World → Prop}
    {B : List HistoryRow → World → Prop} (hrefl : ∀ t, rely t t)
    (hI : ∀ t t', I t → rely t t' → I t') (hA : ∀ t t', A t → rely t t' → A t')
    (hB : ∀ rows t t', B rows t → rely t t' → B rows t')
    (hE : ∀ t t', E t → rely t t' → E t')
    (hAE : ∀ t, A t → E t) (hBE : ∀ rows t, B rows t → E t)
    (hraw : ∀ t, I t → guar t (t.withStore (t.store.upsertRawTransactions transactions).2) ∧
      A (t.withStore (t.store.upsertRawTransactions transactions).2))
    (hrawPart : ∀ t stored, I t → stored <+: transactions →
      guar t (t.withStore (t.store.upsertRawTransactions stored).2) ∧
        E (t.withStore (t.store.upsertRawTransactions stored).2))
    (hrows : ∀ rows, normalizeTransactions zone transactions = .ok rows → ∀ t, A t →
      (rows ≠ [] → ok (.upsertTradeHistoryEvents rows) t) →
        guar t (t.withStore (t.store.upsertTradeHistoryEvents rows).2) ∧
          B rows (t.withStore (t.store.upsertTradeHistoryEvents rows).2))
    (hrowsPart : ∀ rows, normalizeTransactions zone transactions = .ok rows →
      ∀ t stored, A t → stored <+: rows →
        guar t (t.withStore (t.store.upsertTradeHistoryEvents stored).2) ∧
          E (t.withStore (t.store.upsertTradeHistoryEvents stored).2))
    (hproject : ∀ rows t, B rows t → (each (projectTradeRecord cfg) (projectedTradeIds rows)).Rg
      (World.guarded lossy ok) rely guar (After (B rows) (B rows)) t)
    (hrepair : ∀ rows t, B rows t → (repairManualMitClosesFromHistory cfg).Rg
      (World.guarded lossy ok) rely guar (After (B rows) (B rows)) t)
    (hs : I s) :
    (ingest cfg zone transactions).Rg (World.guarded lossy ok) rely guar
      (After (fun t => ∃ rows, normalizeTransactions zone transactions = .ok rows ∧ B rows t) E)
      s := by
  refine rg_bind_after hrefl (rg_storeRaw hI hA hE hraw hrawPart hs) (fun _ t ht => ?_)
    fun e t ht => ht
  refine rg_ofExcept (fun rows hnormal => ?_) fun e _ t' ht' => hAE t' (hA t t' ht ht')
  refine rg_bind_after hrefl (rg_storeRows hA (hB rows) hE (hrows rows hnormal)
    (hrowsPart rows hnormal) ht) (fun _ t₁ ht₁ => ?_) fun e t₁ ht₁ => ht₁
  have hprojected : (projectTradeRecordsFromEvents cfg rows).Rg (World.guarded lossy ok) rely guar
      (After (B rows) (B rows)) t₁ :=
    rg_bind_after hrefl (hproject rows t₁ ht₁)
      (fun _ t₂ ht₂ t₃ ht₃ => hB rows t₂ t₃ ht₂ ht₃) fun e t₂ ht₂ => ht₂
  refine rg_bind_after hrefl hprojected (fun _ t₂ ht₂ => ?_) fun e t₂ ht₂ => hBE rows t₂ ht₂
  refine rg_bind_after hrefl (hrepair rows t₂ ht₂) (fun _ t₃ ht₃ => ?_)
    fun e t₃ ht₃ => hBE rows t₃ ht₃
  exact fun t₄ ht₄ => ⟨rows, hnormal, hB rows t₃ t₄ ht₃ ht₄⟩

/-! ### Syncs -/

/-- The first sync: `N` once the account is read. -/
theorem rg_initializeSync {accountId : String} {nowUtc : Instant} {K D : World → Prop}
    {N : String → ℕ → World → Prop} (hguar : ∀ t, guar t t)
    (hK : ∀ t t', K t → rely t t' → K t') (hD : ∀ t t', D t → rely t t' → D t')
    (hN : ∀ id last t t', N id last t → rely t t' → N id last t')
    (hdetails : ∀ t last, K t → ok .getAccountDetails t →
      t.broker.log.lastTransactionID = some last →
        N (resolvedAccountId ⟨some t.broker.accountId, some last⟩ accountId) last t)
    (hwrite : ∀ t id last next, N id last t → syncState id last nowUtc = .ok next →
      guar t (t.withStore (t.store.upsertTradeHistorySyncState next)) ∧
        D (t.withStore (t.store.upsertTradeHistorySyncState next)))
    (hs : K s) :
    (initializeSync accountId nowUtc).Rg (World.guarded lossy ok) rely guar (After D K) s := by
  refine rg_read rfl hguar (fun t account ht hok hanswer => ?_)
    fun t t' e ht ht' => hK t t' (hK s t hs ht) ht'
  have hKt := hK s t hs ht
  obtain rfl : ⟨some t.broker.accountId, t.broker.log.lastTransactionID⟩ = account := by
    rcases hanswer with hanswer | ⟨-, hdefault⟩
    · exact Except.ok.inj hanswer
    · cases hdefault
  cases hlast : t.broker.log.lastTransactionID with
  | none => exact fun t' ht' => hK t t' hKt ht'
  | some last =>
      have hNt := hdetails t last hKt hok hlast
      refine rg_ofExcept (fun next hnext => ?_) fun e _ t' ht' => hK t t' hKt ht'
      refine rg_ask (fun t₁ _ ht₁ _ _ => ?_) (fun _ _ _ _ _ h => nomatch h)
        fun t₁ t₂ e ht₁ _ hfails => ?_
      · obtain ⟨hg, hDt⟩ := hwrite t₁ _ last next (hN _ last t t₁ hNt ht₁) hnext
        exact ⟨hg, fun t₂ ht₂ => hD _ t₂ hDt ht₂⟩
      · obtain rfl : t₂ = t₁ := hfails
        exact ⟨hguar t₂, fun t₃ ht₃ => hK t₂ t₃ (hK t t₂ hKt ht₁) ht₃⟩

/-- A later sync: `J` once the batch is ingested, `D` once the watermark is moved, `E` when it was
given up. -/
theorem rg_continueSync {state : TradeHistorySyncState} {nowUtc : Instant} {K D E : World → Prop}
    {J : ℕ → World → Prop} (hrefl : ∀ t, rely t t) (hguar : ∀ t, guar t t)
    (hK : ∀ t t', K t → rely t t' → K t') (hD : ∀ t t', D t → rely t t' → D t')
    (hJ : ∀ last t t', J last t → rely t t' → J last t')
    (hKE : ∀ t, K t → E t) (hJE : ∀ last t, J last t → E t)
    (hingest : ∀ t last, K t → t.broker.log.lastTransactionID = some last →
      (ingest cfg cfg.journalTimezone
        (t.broker.log.since state.lastTransactionId tradeHistoryTypeFilter)).Rg
          (World.guarded lossy ok) rely guar (After (J last) E) t)
    (hwrite : ∀ t last next, J last t → syncState state.accountId last nowUtc = .ok next →
      guar t (t.withStore (t.store.upsertTradeHistorySyncState next)) ∧
        D (t.withStore (t.store.upsertTradeHistorySyncState next)))
    (hs : K s) :
    (continueSync cfg state nowUtc).Rg (World.guarded lossy ok) rely guar (After D E) s := by
  refine rg_read rfl hguar (fun t fetched ht _ hanswer => ?_)
    fun t t' e ht ht' => hKE t' (hK t t' (hK s t hs ht) ht')
  have hfetched : ∃ last, t.broker.log.lastTransactionID = some last ∧ fetched =
      (t.broker.log.since state.lastTransactionId tradeHistoryTypeFilter, last) := by
    rcases hanswer with hanswer | ⟨-, hdefault⟩
    · simp only [World.answer] at hanswer
      split at hanswer
      · rename_i last hlast
        exact ⟨last, hlast, (Except.ok.inj hanswer).symm⟩
      · cases hanswer
    · cases hdefault
  obtain ⟨last, hlast, rfl⟩ := hfetched
  refine rg_bind_after hrefl (hingest t last (hK s t hs ht) hlast) (fun _ t₁ ht₁ => ?_)
    fun e t₁ ht₁ => ht₁
  refine rg_ofExcept (fun next hnext => ?_) fun e _ t₂ ht₂ => hJE last t₂ (hJ last t₁ t₂ ht₁ ht₂)
  refine rg_ask (fun t₂ _ ht₂ _ _ => ?_) (fun _ _ _ _ _ h => nomatch h) fun t₂ t₃ e ht₂ _ hfails => ?_
  · obtain ⟨hg, hDt⟩ := hwrite t₂ last next (hJ last t₁ t₂ ht₁ ht₂) hnext
    exact ⟨hg, fun t₃ ht₃ => hD _ t₃ hDt ht₃⟩
  · obtain rfl : t₃ = t₂ := hfails
    exact ⟨hguar t₃, fun t₄ ht₄ => hJE last t₄ (hJ last t₃ t₄ (hJ last t₁ t₃ ht₁ ht₂) ht₄)⟩

/-- A sync: `N` when no watermark was read, `S state` when one was. -/
theorem rg_incrementalSync {K D E N : World → Prop} {S : TradeHistorySyncState → World → Prop}
    (hguar : ∀ t, guar t t) (hK : ∀ t t', K t → rely t t' → K t')
    (hN : ∀ t t', N t → rely t t' → N t') (hS : ∀ state t t', S state t → rely t t' → S state t')
    (hKE : ∀ t, K t → E t) (hNE : ∀ t, N t → E t) (hSE : ∀ state t, S state t → E t)
    (hnone : ∀ t, K t → World.mayAnswer lossy (.getTradeHistorySyncState cfg.oandaAccountId) t none →
      N t)
    (hsome : ∀ t state, K t →
      t.store.getTradeHistorySyncState cfg.oandaAccountId = some state → S state t)
    (hinit : ∀ t nowUtc, N t →
      (initializeSync cfg.oandaAccountId nowUtc).Rg (World.guarded lossy ok) rely guar (After D E) t)
    (hcontinue : ∀ t state nowUtc, S state t →
      (continueSync cfg state nowUtc).Rg (World.guarded lossy ok) rely guar (After D E) t)
    (hs : K s) :
    (incrementalSync cfg).Rg (World.guarded lossy ok) rely guar (After D E) s := by
  refine rg_read rfl hguar (fun t state ht _ hanswer => ?_)
    fun t t' e ht ht' => hKE t' (hK t t' (hK s t hs ht) ht')
  have hKt := hK s t hs ht
  cases state with
  | none =>
      have hNt := hnone t hKt hanswer
      exact rg_read rfl hguar (fun t₁ nowUtc ht₁ _ _ => hinit t₁ nowUtc (hN t t₁ hNt ht₁))
        fun t₁ t₂ e ht₁ ht₂ => hNE t₂ (hN t₁ t₂ (hN t t₁ hNt ht₁) ht₂)
  | some state =>
      have hget : t.store.getTradeHistorySyncState cfg.oandaAccountId = some state := by
        rcases hanswer with hanswer | ⟨-, hdefault⟩
        · exact Except.ok.inj hanswer
        · cases hdefault
      have hSt := hsome t state hKt hget
      exact rg_read rfl hguar
        (fun t₁ nowUtc ht₁ _ _ => hcontinue t₁ state nowUtc (hS state t t₁ hSt ht₁))
        fun t₁ t₂ e ht₁ ht₂ => hSE state t₂ (hS state t₁ t₂ (hS state t t₁ hSt ht₁) ht₂)

/-! ### Backfill -/

/-- The chunks of a backfill: `B best` between the chunks, where `best` is the greatest id so far. -/
theorem rg_backfillChunks {zone : String} {B : Option ℕ → World → Prop} {E : World → Prop}
    (hrefl : ∀ t, rely t t) (hguar : ∀ t, guar t t)
    (hB : ∀ best t t', B best t → rely t t' → B best t') (hBE : ∀ best t, B best t → E t)
    (hchunk : ∀ best t chunkStart chunkEnd, B best t →
      ok (.fetchTransactionsForWindow chunkStart chunkEnd tradeHistoryTypeFilter) t →
      (ingest cfg zone (t.broker.log.window chunkStart chunkEnd tradeHistoryTypeFilter)).Rg
        (World.guarded lossy ok) rely guar (After (B (laterId (maxTransactionId
          (t.broker.log.window chunkStart chunkEnd tradeHistoryTypeFilter)) best)) E) t)
    (chunks : List (Instant × Instant)) (best : Option ℕ) (totals : IngestCounts) (hs : B best s) :
    (backfillChunks cfg zone chunks best totals).Rg (World.guarded lossy ok) rely guar
      (fun r t => match r with
        | .ok (best', _) => B best' t
        | .error _ => E t) s := by
  induction chunks generalizing s best totals with
  | nil => exact fun t ht => hB best s t hs ht
  | cons chunk chunks ih =>
      obtain ⟨chunkStart, chunkEnd⟩ := chunk
      refine rg_read rfl hguar (fun t transactions ht hok hanswer => ?_)
        fun t t' e ht ht' => hBE best t' (hB best t t' (hB best s t hs ht) ht')
      obtain rfl : t.broker.log.window chunkStart chunkEnd tradeHistoryTypeFilter =
          transactions := by
        rcases hanswer with hanswer | ⟨-, hdefault⟩
        · simp only [World.answer] at hanswer
          split_ifs at hanswer
          exact Except.ok.inj hanswer
        · cases hdefault
      exact rg_bind_after hrefl (hchunk best t chunkStart chunkEnd (hB best s t hs ht) hok)
        (fun _ t₁ ht₁ => ih _ _ ht₁) fun e t₁ ht₁ => ht₁

/-- The watermark after a backfill: kept, or set to the greatest id of the backfill. -/
theorem rg_advanceSyncStateWatermark {candidate : ℕ} {K D : World → Prop}
    (hguar : ∀ t, guar t t) (hK : ∀ t t', K t → rely t t' → K t')
    (hD : ∀ t t', D t → rely t t' → D t') (hKD : ∀ t, K t → D t)
    (hwrite : ∀ t nowUtc next, K t → syncState cfg.oandaAccountId candidate nowUtc = .ok next →
      guar t (t.withStore (t.store.upsertTradeHistorySyncState next)) ∧
        D (t.withStore (t.store.upsertTradeHistorySyncState next)))
    (hs : K s) :
    (advanceSyncStateWatermark cfg candidate).Rg (World.guarded lossy ok) rely guar (After D D)
      s := by
  refine rg_read rfl hguar (fun t existing ht _ _ => ?_)
    fun t t' e ht ht' => hKD t' (hK t t' (hK s t hs ht) ht')
  have hKt := hK s t hs ht
  split_ifs
  · exact fun t' ht' => hKD t' (hK t t' hKt ht')
  refine rg_read rfl hguar (fun t₁ nowUtc ht₁ _ _ => ?_)
    fun t₁ t₂ e ht₁ ht₂ => hKD t₂ (hK t₁ t₂ (hK t t₁ hKt ht₁) ht₂)
  have hKt₁ := hK t t₁ hKt ht₁
  refine rg_ofExcept (fun next hnext => ?_) fun e _ t₂ ht₂ => hKD t₂ (hK t₁ t₂ hKt₁ ht₂)
  refine Program.bind_done (ask (.upsertTradeHistorySyncState next)) ▸ rg_ask
    (fun t₂ _ ht₂ _ _ => ?_) (fun _ _ _ _ _ h => nomatch h) fun t₂ t₃ e ht₂ _ hfails => ?_
  · obtain ⟨hg, hDt⟩ := hwrite t₂ nowUtc next (hK t₁ t₂ hKt₁ ht₂) hnext
    exact ⟨hg, fun t₃ ht₃ => hD _ t₃ hDt ht₃⟩
  · obtain rfl : t₃ = t₂ := hfails
    exact ⟨hguar t₃, fun t₄ ht₄ => hKD t₄ (hK t₃ t₄ (hK t₁ t₃ hKt₁ ht₂) ht₄)⟩

/-- A backfill: its chunks, then its watermark. -/
theorem rg_backfillHistory {startDay endDay : ℤ} {tzName : Option String}
    {B : Option ℕ → World → Prop} {E : World → Prop} (hrefl : ∀ t, rely t t)
    (hB : ∀ best t t', B best t → rely t t' → B best t') (hE : ∀ t t', E t → rely t t' → E t')
    (hBE : ∀ best t, B best t → E t)
    (hchunks : ∀ zone chunks, (backfillChunks cfg zone chunks none {}).Rg (World.guarded lossy ok)
      rely guar (fun r t => match r with
        | .ok (best, _) => B best t
        | .error _ => E t) s)
    (hadvance : ∀ candidate t, B (some candidate) t →
      (advanceSyncStateWatermark cfg candidate).Rg (World.guarded lossy ok) rely guar (After E E) t)
    (hs : B none s) :
    (backfillHistory cfg startDay endDay tzName).Rg (World.guarded lossy ok) rely guar (After E E)
      s := by
  unfold backfillHistory
  split_ifs
  · exact fun t ht => hBE none t (hB none s t hs ht)
  refine rg_bind hrefl ((hchunks _ _).mono fun r t hr => ?_)
  cases r with
  | error e => exact hr
  | ok result =>
      obtain ⟨best, counts⟩ := result
      cases best with
      | none => exact fun t' ht' => hBE none t' (hB none t t' hr ht')
      | some candidate =>
          exact rg_bind_after hrefl (hadvance candidate t hr) (fun _ t₁ ht₁ t₂ ht₂ =>
            hE t₁ t₂ ht₁ ht₂) fun e t₁ ht₁ => ht₁

end

/-! ### The calls of the programs -/

section calls

variable {cfg : Config} {P : Call → Prop}

/-- The calls by which a trade is projected and repaired. -/
def Call.accessesTrades : Call → Bool
  | .listTradeHistoryTradeEvents _ | .getTrade _ | .upsertTrade _ | .listClosedTrades => true
  | _ => false

variable (htrades : ∀ c : Call, c.accessesTrades = true → P c)

include htrades

theorem calls_projectTradeRecord (tradeId : String) : (projectTradeRecord cfg tradeId).Calls P := by
  refine calls_bind (calls_perform (htrades _ rfl)) fun events => ?_
  split_ifs
  · trivial
  · refine calls_bind (calls_perform (htrades _ rfl)) fun existing =>
      calls_bind calls_ofExcept fun result => ?_
    cases result with
    | none => trivial
    | some record => exact calls_bind (calls_perform (htrades _ rfl)) fun _ => trivial

theorem calls_repairManualMitClose (trade : TradeRecord) :
    (repairManualMitClose cfg trade).Calls P := by
  unfold repairManualMitClose
  split_ifs
  · trivial
  · refine calls_bind (calls_perform (htrades _ rfl)) fun events => ?_
    cases (closeEvents events).getLast? with
    | none => trivial
    | some final =>
        simp only
        split_ifs
        · trivial
        · exact calls_projectTradeRecord htrades _

/-- A batch is stored raw and as the rows the normalizer makes of it; the rest accesses trades. -/
theorem calls_ingest {zone : String} {transactions : List Transaction}
    (hraw : P (.upsertRawTransactions transactions))
    (hrows : ∀ rows, normalizeTransactions zone transactions = .ok rows →
      P (.upsertTradeHistoryEvents rows)) :
    (ingest cfg zone transactions).Calls P := by
  have hstoreRaw : (storeRaw transactions).Calls P := by
    unfold storeRaw
    split_ifs
    · trivial
    · exact calls_perform hraw
  refine calls_bind hstoreRaw fun _ => ?_
  cases hnormal : normalizeTransactions zone transactions with
  | error e => trivial
  | ok rows =>
      have hstoreRows : (storeRows rows).Calls P := by
        unfold storeRows
        split_ifs
        · trivial
        · exact calls_perform (hrows rows hnormal)
      refine calls_bind (p := storeRows rows) hstoreRows fun _ =>
        calls_bind ?_ fun _ => calls_bind ?_ fun _ => trivial
      · exact calls_bind (calls_each fun tradeId _ => calls_projectTradeRecord htrades tradeId)
          fun _ => trivial
      · exact calls_bind (calls_perform (htrades _ rfl)) fun closed =>
          calls_bind (calls_each fun trade _ => calls_repairManualMitClose htrades trade)
            fun _ => trivial

end calls

end OandaV3
