import OandaV3.Stored

/-! # A sync whose watermark read fails

`_read_operation` answers `None` for a read that fails, and `incremental_sync` takes `None` for an
account without a watermark: it moves the watermark to the newest id of the account and ingests
nothing.  While the log grows, `incrementalSync_advances_iff` says exactly when no call of a sync
moves the watermark over a transaction that is not stored: when the read of the watermark cannot fail,
or the first-run branch writes to another account.  In a single run it is enough that everything newer
than the watermark is stored when the account details are read. -/

namespace OandaV3

open Interaction Program

/-- The step replaces the watermark by a later id only when the transactions in between are
stored. -/
def AdvancesOverStored (accountId : String) (w w' : World) : Prop :=
  ∀ before after, w.store.watermark accountId = some before →
    w'.store.watermark accountId = some after → before < after →
    ∀ t ∈ w.broker.log.transactions, t.relevant = true → before < t.id → t.id ≤ after →
      w.store.Holds t

/-- Where the broker names the configured account, everything newer than its watermark is stored. -/
def NewerHeld (accountId : String) (w : World) : Prop :=
  resolvedAccountId ⟨some w.broker.accountId, none⟩ accountId = accountId →
    ∀ before, w.store.watermark accountId = some before →
      ∀ t ∈ w.broker.log.transactions, t.relevant = true → before < t.id → w.store.Holds t

theorem SafeStep.advancesOverStored {accountId : String} {w w' : World}
    (h : SafeStep accountId w w') : AdvancesOverStored accountId w w' := by
  intro before after hbefore hafter hlt
  obtain ⟨after', hafter', hheld⟩ := h.advances before hbefore
  obtain rfl := Option.some.inj (hafter.symm.trans hafter')
  exact (hheld hlt).2

section

variable {cfg : Config} {lossy : Call → Prop} {ok : Call → World → Prop} {s w w' : World}

theorem watermark_of_state {state : TradeHistorySyncState}
    (hstate : w.store.getTradeHistorySyncState cfg.oandaAccountId = some state) :
    w.store.watermark cfg.oandaAccountId = some state.lastTransactionId := by
  rw [TradeStore.watermark, hstate]
  rfl

/-! ### When everything newer is held -/

/-- A first-run branch: safe when everything newer is held once the account details are read. -/
theorem rg_initializeSync_safe {nowUtc : Instant}
    (hheld : ∀ t, s.Grows t → ok .getAccountDetails t → NewerHeld cfg.oandaAccountId t) :
    (initializeSync cfg.oandaAccountId nowUtc).Rg (World.guarded lossy ok) World.Grows
      (SafeStep cfg.oandaAccountId) (fun _ _ => True) s := by
  let N : String → ℕ → World → Prop := fun id last t => s.Grows t ∧
    (id = cfg.oandaAccountId → ∀ before, t.store.watermark cfg.oandaAccountId = some before →
      HeldUpTo before last t)
  refine Rg.mono (rg_initializeSync (K := s.Grows) (D := fun _ => True) (N := N)
    (fun t => (World.Later.refl t).safe) (fun _ _ => World.Grows.trans) (fun _ _ _ _ => trivial)
    (fun id last t t' ht hgrows => ?_) (fun t last ht hok hlast => ⟨ht, fun hid before hbefore => ?_⟩)
    (fun t id last next ht hnext => ?_) (.refl s)) fun _ _ _ => trivial
  · refine ⟨ht.1.trans hgrows, fun hid before hbefore => (ht.2 hid before ?_).later hgrows.later⟩
    rwa [hgrows.store] at hbefore
  · obtain ⟨v, hv, rfl⟩ := Option.map_eq_some_iff.mp hlast
    exact ⟨⟨v, List.mem_of_getLast? hv, le_refl _⟩,
      fun u hu hrelevant hlt _ => hheld t ht hok hid before hbefore u hu hrelevant hlt⟩
  · obtain ⟨hid, hnext'⟩ := syncState_ok hnext
    by_cases hsame : next.accountId = cfg.oandaAccountId
    · refine ⟨hsame ▸ .upsertSyncState fun before hbefore _ => ?_, trivial⟩
      rw [hnext']
      exact ht.2 (hid.symm.trans hsame) before (hsame ▸ hbefore)
    · exact ⟨.upsertSyncState_ne hsame, trivial⟩

/-- A sync is safe when everything newer is held whenever a lost read leads to the account details. -/
theorem rg_incrementalSync_safe
    (hheld : lossy (.getTradeHistorySyncState cfg.oandaAccountId) →
      ∀ t, w.Grows t → ok .getAccountDetails t → NewerHeld cfg.oandaAccountId t) :
    (incrementalSync cfg).Rg (World.guarded lossy ok) World.Grows (SafeStep cfg.oandaAccountId)
      (fun _ _ => True) w := by
  let N : World → Prop := fun t => w.Grows t ∧
    (t.store.watermark cfg.oandaAccountId = none ∨
      lossy (.getTradeHistorySyncState cfg.oandaAccountId))
  let S : TradeHistorySyncState → World → Prop := fun state t =>
    t.store.getTradeHistorySyncState cfg.oandaAccountId = some state
  refine Rg.mono (rg_incrementalSync (K := w.Grows) (N := N) (S := S) (D := fun _ => True)
    (E := fun _ => True) (fun t => (World.Later.refl t).safe) (fun _ _ => World.Grows.trans)
    (fun t t' ht hgrows => ⟨ht.1.trans hgrows, hgrows.store ▸ ht.2⟩)
    (fun state t t' ht hgrows => show t'.store.getTradeHistorySyncState _ = _ from hgrows.store ▸ ht)
    (fun _ _ => trivial) (fun _ _ => trivial) (fun _ _ _ => trivial) (fun t ht hanswer => ?_)
    (fun t state _ hstate => hstate) (fun t nowUtc ht => ?_) (fun t state nowUtc hstate => ?_)
    (.refl w)) fun _ _ _ => trivial
  · refine ⟨ht, hanswer.imp (fun hread => ?_) And.left⟩
    have hnone : t.store.getTradeHistorySyncState cfg.oandaAccountId = none := Except.ok.inj hread
    rw [TradeStore.watermark, hnone]
    rfl
  · refine (rg_initializeSync_safe fun t' hgrows hok => ?_).mono fun r _ _ => by cases r <;> trivial
    rcases ht.2 with hnone | hlossy
    · intro _ before hbefore
      rw [hgrows.store, hnone] at hbefore
      cases hbefore
    · exact hheld hlossy t' (ht.1.trans hgrows) hok
  · have haccount : state.accountId = cfg.oandaAccountId := (Table.find_some hstate).2
    have hsafe : (continueSync cfg state nowUtc).Rg (World.guarded lossy ok) World.Grows
        (SafeStep state.accountId) (fun _ _ => True) t :=
      rg_continueSync_safe (haccount.symm ▸ watermark_of_state hstate)
    exact (haccount ▸ hsafe).mono fun r _ _ => by cases r <;> trivial

theorem advancesOverStored_of_held (ok : Call → World → Prop) {tr : List (Event Call Ans Exn World Unit)}
    (hheld : lossy (.getTradeHistorySyncState cfg.oandaAccountId) →
      ∀ t, w.Grows t → ok .getAccountDetails t → NewerHeld cfg.oandaAccountId t)
    (hreach : (incrementalSync cfg).Reaches (World.faulty lossy) World.Grows w tr w')
    (hok : ∀ e ∈ tr, ok e.call e.pre) :
    ∀ e ∈ tr, AdvancesOverStored cfg.oandaAccountId e.pre e.post := fun e he =>
  ((hreach.when hok).guarantee World.Grows.refl (fun _ _ _ => World.Grows.trans) (fun _ _ h => h)
    (rg_incrementalSync_safe hheld) e he).advancesOverStored

/-! ### When it is not -/

/-- A log can grow by a relevant transaction that a store does not hold. -/
theorem exists_grows_not_holds (log : TransactionLog) (store : TradeStore) (before : ℕ) :
    ∃ log', log.Grows log' ∧ ∃ t ∈ log'.transactions,
      t.relevant = true ∧ before < t.id ∧ ¬ store.Holds t := by
  let ids := before :: log.transactions.map Transaction.id ++
    store.rawTransactions.docs.map Transaction.id
  let t : Transaction := { id := ids.sum + 1, type := some "ORDER_FILL" }
  have hnew : ∀ id ∈ ids, id < t.id := fun id hid =>
    Nat.lt_succ_of_le (List.single_le_sum (fun _ _ => Nat.zero_le _) id hid)
  have hlog : ((log.transactions ++ [t]).map Transaction.id).Pairwise (· < ·) := by
    rw [List.map_append, List.pairwise_append]
    refine ⟨log.increasing, List.pairwise_singleton .., fun id hid id' hid' => ?_⟩
    obtain rfl := List.mem_singleton.mp hid'
    exact hnew id (List.mem_append_left _ (List.mem_cons_of_mem _ hid))
  refine ⟨⟨log.transactions ++ [t], hlog⟩, List.prefix_append .., t, by simp, rfl,
    hnew before (List.mem_append_left _ List.mem_cons_self), fun hholds => ?_⟩
  have hraw : t.id ∈ ids :=
    List.mem_append_right _ (List.mem_map_of_mem (Table.find_some hholds.1).1)
  exact lt_irrefl _ (hnew _ hraw)

/-- A lost read leads to the first-run branch, whatever the log has become since. -/
theorem rg_initializeSync_of_reaches
    (h : ∀ tr w', (incrementalSync cfg).Reaches (World.faulty lossy) World.Grows w tr w' →
      ∀ e ∈ tr, AdvancesOverStored cfg.oandaAccountId e.pre e.post)
    (hlossy : lossy (.getTradeHistorySyncState cfg.oandaAccountId)) (hgrows : w.Grows s) :
    (initializeSync cfg.oandaAccountId s.clock).Rg (World.faulty lossy) World.Grows
      (AdvancesOverStored cfg.oandaAccountId) (fun _ _ => True) s := by
  have hread := (Program.rg_of_reaches h s hgrows _ s
    (Or.inr (Or.inr ⟨hlossy, ⟨none, rfl, rfl⟩, rfl⟩))).2
  exact (hread s (.refl s) (.ok s.clock) s (Or.inl rfl)).2

/-- The first-run branch writes the newest id, so what is newer than the watermark has to be held. -/
theorem holds_of_initializeSync {nowUtc : Instant} {state : TradeHistorySyncState}
    (hrg : (initializeSync cfg.oandaAccountId nowUtc).Rg (World.faulty lossy) World.Grows
      (AdvancesOverStored cfg.oandaAccountId) (fun _ _ => True) s)
    (hstate : s.store.getTradeHistorySyncState cfg.oandaAccountId = some state)
    (hid : resolvedAccountId ⟨some s.broker.accountId, none⟩ cfg.oandaAccountId =
      cfg.oandaAccountId) {t : Transaction} (ht : t ∈ s.broker.log.transactions)
    (hrelevant : t.relevant = true) (hlt : state.lastTransactionId < t.id) : s.store.Holds t := by
  have haccount : state.accountId = cfg.oandaAccountId := (Table.find_some hstate).2
  have hnonBlank : Text.isBlank cfg.oandaAccountId = false := haccount ▸ state.nonBlank
  obtain ⟨last, hlast, hle⟩ := TransactionLog.exists_last ht
  have hdetails := (hrg s (.refl s)
    (.ok ⟨some s.broker.accountId, s.broker.log.lastTransactionID⟩) s (Or.inl rfl)).2
  have hresolved : resolvedAccountId ⟨some s.broker.accountId, some last⟩ cfg.oandaAccountId =
    cfg.oandaAccountId := hid
  simp only [hlast, Program.bind, bind_def, hresolved, syncState_of_nonBlank hnonBlank,
    Program.ofExcept] at hdetails
  have hwrite := (hdetails s (.refl s) (.ok ()) _ (Or.inl rfl)).1
  refine hwrite _ last (watermark_of_state hstate) ?_ (hlt.trans_le hle) t ht hrelevant hlt hle
  rw [World.withStore_store, TradeStore.watermark_upsert, if_pos rfl]

/-- Where the read may be lost and the broker names the account, some run skips a transaction: it is
appended to the log while the sync runs. -/
theorem exists_skipping_run {state : TradeHistorySyncState}
    (hstate : w.store.getTradeHistorySyncState cfg.oandaAccountId = some state)
    (hlossy : lossy (.getTradeHistorySyncState cfg.oandaAccountId))
    (hid : resolvedAccountId ⟨some w.broker.accountId, none⟩ cfg.oandaAccountId =
      cfg.oandaAccountId) :
    ¬ ∀ tr w', (incrementalSync cfg).Reaches (World.faulty lossy) World.Grows w tr w' →
      ∀ e ∈ tr, AdvancesOverStored cfg.oandaAccountId e.pre e.post := by
  intro h
  obtain ⟨log', hlog, t, ht, hrelevant, hlt, hnot⟩ :=
    exists_grows_not_holds w.broker.log w.store state.lastTransactionId
  have hrg := rg_initializeSync_of_reaches h hlossy (World.Grows.withLog hlog)
  exact hnot (holds_of_initializeSync hrg hstate hid ht hrelevant hlt)

end

/-- **A failed read is taken for a first run.**  While the log grows, no call of a sync moves the
watermark over a transaction that is not stored exactly when the watermark read cannot fail, or the
first-run branch writes to another account.  No run does in which everything newer than the watermark
is stored when the account details are read. -/
theorem incrementalSync_advances_iff (cfg : Config) (lossy : Call → Prop) (w : World)
    (state : TradeHistorySyncState)
    (hstate : w.store.getTradeHistorySyncState cfg.oandaAccountId = some state) :
    ((∀ tr w', (incrementalSync cfg).Reaches (World.faulty lossy) World.Grows w tr w' →
        ∀ e ∈ tr, AdvancesOverStored cfg.oandaAccountId e.pre e.post) ↔
      (lossy (.getTradeHistorySyncState cfg.oandaAccountId) →
        resolvedAccountId ⟨some w.broker.accountId, none⟩ cfg.oandaAccountId ≠ cfg.oandaAccountId)) ∧
    ∀ tr w', (incrementalSync cfg).Reaches (World.faulty lossy) World.Grows w tr w' →
      (∀ e ∈ tr, e.call = .getAccountDetails → NewerHeld cfg.oandaAccountId e.pre) →
        ∀ e ∈ tr, AdvancesOverStored cfg.oandaAccountId e.pre e.post := by
  refine ⟨⟨fun h hlossy hid => exists_skipping_run hstate hlossy hid h,
    fun hother tr w' hreach => ?_⟩, fun tr w' hreach hheld => ?_⟩
  · refine advancesOverStored_of_held (fun _ _ => True) (fun hlossy t hgrows _ hid => ?_) hreach
      fun _ _ => trivial
    exact absurd (hgrows.accountId ▸ hid) (hother hlossy)
  · exact advancesOverStored_of_held
      (fun c t => c = .getAccountDetails → NewerHeld cfg.oandaAccountId t)
      (fun _ t _ hok => hok rfl) hreach hheld

/-- The watermark is 1, and the fill with id 2 is not stored. -/
def behindByOne : World := watermarkedWorld twoFills 1

theorem behindByOne_state :
    behindByOne.store.getTradeHistorySyncState sampleConfig.oandaAccountId =
      some (sampleState 1) := by decide +kernel

/-- When the read of the watermark fails, a sync moves the watermark over the fill with id 2. -/
theorem incrementalSync_skips_behindByOne :
    ¬ ∀ tr w', (incrementalSync sampleConfig).Reaches
        (World.faulty (· = .getTradeHistorySyncState "001")) World.Grows behindByOne tr w' →
      ∀ e ∈ tr, AdvancesOverStored "001" e.pre e.post := by
  intro h
  have hadvances : ∀ tr w', (incrementalSync sampleConfig).Reaches
        (World.faulty (· = .getTradeHistorySyncState "001")) World.Grows behindByOne tr w' →
      ∀ e ∈ tr, AdvancesOverStored sampleConfig.oandaAccountId e.pre e.post := h
  have hrg := rg_initializeSync_of_reaches hadvances rfl (.refl behindByOne)
  have hholds : behindByOne.store.Holds (openingFill 2 1 "2" 100) :=
    holds_of_initializeSync hrg behindByOne_state rfl (by decide +kernel) (by decide) (by decide)
  exact absurd hholds.1 (by decide +kernel)

/-- When the read of the watermark cannot fail, no call of the sync does. -/
theorem incrementalSync_advances_behindByOne :
    behindByOne.store.getTradeHistorySyncState "001" = some (sampleState 1) ∧
    ∀ tr w', (incrementalSync sampleConfig).Reaches (World.faulty fun _ => False) World.Grows
        behindByOne tr w' → ∀ e ∈ tr, AdvancesOverStored "001" e.pre e.post :=
  ⟨behindByOne_state, (incrementalSync_advances_iff sampleConfig (fun _ => False) behindByOne
    (sampleState 1) behindByOne_state).1.mpr fun h => h.elim⟩

end OandaV3
