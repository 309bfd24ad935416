import OandaV3.Dict
import OandaV3.TransactionOrder
import OandaV3.World

/-! # The history client

`providers/oanda_history.py` asks for the pages of a window, each a URL that names a range of ids, and then
for the transactions of one range after the other.  The account may trade between two requests: the `n`-th
one is answered by the `n`-th `HistoryApi`.

A payload comes as a `Transaction`.  What stands where a list is expected is `none` when it is no list; a
missing one is empty.

* `parseTransactionPageUrl_pageUrl`: the range is read from the URL of a page.
* `TransactionLog.Grows.range`: what is appended later is in no range that ends now.
* `fetchTransactionsForWindow_snapshot`: the pages bring the window as it was at the first request. -/

namespace OandaV3

open Dict Fallible

/-! ### URLs of pages -/

/-- `unquote` of `urllib.parse`: text without a percent sign stays as it is. -/
structure PercentDecoding where
  unquote : List Char → List Char
  plain : ∀ cs, '%' ∉ cs → unquote cs = cs

/-- The characters that `urlparse` removes. -/
def isUnsafeUrlChar (c : Char) : Bool := c == '\t' || c == '\r' || c == '\n'

/-- `urlparse(url).query`. -/
def urlQuery (url : List Char) : List Char :=
  (((url.filter fun c => !isUnsafeUrlChar c).takeWhile (· != '#')).dropWhile (· != '?')).drop 1

/-- A field of a query, unless it has no value. -/
def queryField (decoding : PercentDecoding) (field : List Char) : Option (List Char × List Char) :=
  let decode := fun cs : List Char => decoding.unquote (cs.map fun c => if c == '+' then ' ' else c)
  match field.span (· != '=') with
  | (name, _ :: value) => if value.isEmpty then none else some (decode name, decode value)
  | (_, []) => none

/-- `parse_qs(query).get(name, [])[0]`. -/
def queryValue (decoding : PercentDecoding) (query : List Char) (name : String) : Option String :=
  (((query.splitOn '&').filterMap (queryField decoding)).lookup name.toList).map String.ofList

/-- `_parse_transaction_page_url`; the message quotes a URL without quotes of its own. -/
def parseTransactionPageUrl (decoding : PercentDecoding) (pageUrl : String) :
    Except Exn (String × String) :=
  let query := urlQuery pageUrl.toList
  match queryValue decoding query "from", queryValue decoding query "to" with
  | some fromId, some toId => .ok (fromId, toId)
  | _, _ => .error (.runtimeError ("Could not parse transaction page URL: '" ++ pageUrl ++ "'."))

/-! ### Requests -/

/-- How the broker answers a request at some moment. -/
structure HistoryApi where
  transactionList : Instant → Instant → List String → Except Exn (Option (List String))
  transactionIdRange : String → String → List String → Except Exn (Option (List Transaction))
  transactionsSinceId : ℕ → List String → Except Exn (Option (List Transaction) × Option ℕ)

/-- `fetch_transaction_pages_sync`. -/
def fetchTransactionPages (decoding : PercentDecoding) (api : HistoryApi) (startUtc endUtc : Instant)
    (typeFilter : List String) : Except Exn (List (String × String)) :=
  if endUtc ≤ startUtc then .error (.valueError "end_utc must be greater than start_utc.")
  else do
    let pages ← api.transactionList startUtc endUtc typeFilter
    match pages with
    | none => .error (.runtimeError "OANDA transaction-list response did not contain a page list.")
    | some urls => urls.mapM (parseTransactionPageUrl decoding)

/-- The loop of `fetch_transactions_for_window_sync` from the `n`-th request on. -/
def fetchRanges (api : ℕ → HistoryApi) (typeFilter : List String) :
    ℕ → List (String × String) → List (String × Transaction) → Except Exn (List (String × Transaction))
  | _, [], transactionsById => .ok transactionsById
  | n, (fromId, toId) :: ranges, transactionsById =>
      match (api n).transactionIdRange fromId toId typeFilter with
      | .error e => .error e
      | .ok none => .error (.runtimeError
          "OANDA transaction id-range response did not contain transactions.")
      | .ok (some transactions) =>
          fetchRanges api typeFilter (n + 1) ranges
            (assignAll (fun t => toString t.id) id transactions transactionsById)

/-- `fetch_transactions_for_window_sync`. -/
def fetchTransactionsForWindow (decoding : PercentDecoding) (api : ℕ → HistoryApi)
    (startUtc endUtc : Instant) (typeFilter : List String) : Except Exn (List Transaction) := do
  let pages ← fetchTransactionPages decoding (api 0) startUtc endUtc typeFilter
  let transactionsById ← fetchRanges api typeFilter 1 pages []
  return sortOn TransactionLog.idKey (transactionsById.map Prod.snd)

/-- `fetch_transactions_since_sync`. -/
def fetchTransactionsSince (api : HistoryApi) (lastTransactionId : ℕ) (typeFilter : List String) :
    Except Exn (List Transaction × ℕ) := do
  let (transactions, lastSeen) ← api.transactionsSinceId lastTransactionId typeFilter
  match transactions, lastSeen with
  | none, _ => .error (.runtimeError
      "OANDA transactions-since-id response did not contain transactions.")
  | some _, none => .error (.runtimeError
      "OANDA transactions-since-id response did not contain lastTransactionID.")
  | some transactions, some last => .ok (sortOn TransactionLog.idKey transactions, last)

/-! ### The range of a page -/

section url

variable (decoding : PercentDecoding)

theorem queryField_plain {name value : List Char} (hname : ∀ c ∈ name, c ≠ '=' ∧ c ≠ '+' ∧ c ≠ '%')
    (hvalue : ∀ c ∈ value, c ≠ '+' ∧ c ≠ '%') (hne : value ≠ []) :
    queryField decoding (name ++ '=' :: value) = some (name, value) := by
  have hspan : (name ++ '=' :: value).span (· != '=') = (name, '=' :: value) := by
    rw [List.span_eq_takeWhile_dropWhile]
    have hall : ∀ c ∈ name, (c != '=') = true := fun c hc => bne_iff_ne.mpr (hname c hc).1
    rw [List.takeWhile_append_of_pos hall, List.dropWhile_append_of_pos hall]
    simp
  have hdecode : ∀ cs : List Char, (∀ c ∈ cs, c ≠ '+' ∧ c ≠ '%') →
      decoding.unquote (cs.map fun c => if c == '+' then ' ' else c) = cs := by
    intro cs hcs
    have hmap : (cs.map fun c => if c == '+' then ' ' else c) = cs := by
      refine (List.map_congr_left fun c hc => ?_).trans (List.map_id' cs)
      rw [if_neg fun h => (hcs c hc).1 (eq_of_beq h)]
    rw [hmap, decoding.plain cs fun h => (hcs _ h).2 rfl]
  have hempty : value.isEmpty = false := by
    cases value with
    | nil => exact absurd rfl hne
    | cons c cs => rfl
  rw [queryField, hspan]
  simp only [hempty, hdecode name fun c hc => (hname c hc).2, hdecode value hvalue]
  rfl

/-- The URL of a page, as the broker writes it. -/
def pageUrl (base types : String) (fromId toId : ℕ) : String :=
  base ++ "?from=" ++ toString fromId ++ "&to=" ++ toString toId ++ "&type=" ++ types

def rangeField (name : String) (n : ℕ) : List Char := name.toList ++ '=' :: (toString n).toList

/-- Letters, digits and the sign between name and value. -/
def IsPlain (c : Char) : Prop := c.isAlphanum = true ∨ c = '='

instance (c : Char) : Decidable (IsPlain c) := inferInstanceAs (Decidable (_ ∨ _))

theorem IsPlain.ne {c d : Char} (hc : IsPlain c) (hd : ¬ IsPlain d) : c ≠ d := by
  rintro rfl
  exact hd hc

theorem toString_isDigit (n : ℕ) : ∀ c ∈ (toString n).toList, c.isDigit = true := by
  rw [Nat.toString_eq_ofList_toDigits, String.toList_ofList]
  exact isDigit_toDigits n

theorem isAlphanum_from : ∀ c ∈ "from".toList, c.isAlphanum = true := List.all_eq_true.mp (by decide)

theorem isAlphanum_to : ∀ c ∈ "to".toList, c.isAlphanum = true := List.all_eq_true.mp (by decide)

theorem isPlain_rangeField {name : String} (hname : ∀ c ∈ name.toList, c.isAlphanum = true) (n : ℕ) :
    ∀ c ∈ rangeField name n, IsPlain c := by
  intro c hc
  rcases List.mem_append.mp hc with hc | hc
  · exact Or.inl (hname c hc)
  · rcases List.mem_cons.mp hc with rfl | hc
    · exact Or.inr rfl
    · exact Or.inl (by rw [Char.isAlphanum, toString_isDigit n c hc, Bool.or_true])

theorem queryField_rangeField {name : String} (hname : ∀ c ∈ name.toList, c.isAlphanum = true) (n : ℕ) :
    queryField decoding (rangeField name n) = some (name.toList, (toString n).toList) := by
  have hvalue : ∀ c ∈ (toString n).toList, IsPlain c := fun c hc =>
    isPlain_rangeField hname n c (List.mem_append_right _ (List.mem_cons_of_mem _ hc))
  refine queryField_plain decoding (fun c hc => ?_)
    (fun c hc => ⟨(hvalue c hc).ne (by decide), (hvalue c hc).ne (by decide)⟩) ?_
  · have hplain : IsPlain c := Or.inl (hname c hc)
    refine ⟨?_, hplain.ne (by decide), hplain.ne (by decide)⟩
    rintro rfl
    exact absurd (hname _ hc) (by decide)
  · rw [Nat.toString_eq_ofList_toDigits, String.toList_ofList]
    exact Nat.toDigits_ne_nil

theorem urlQuery_pageUrl {base : String} (hbase : '?' ∉ base.toList ∧ '#' ∉ base.toList) (types : String)
    (fromId toId : ℕ) : ∃ rest, urlQuery (pageUrl base types fromId toId).toList =
      rangeField "from" fromId ++ '&' :: (rangeField "to" toId ++ '&' :: rest) := by
  let range := rangeField "from" fromId ++ '&' :: (rangeField "to" toId ++ ['&'])
  have hrange : ∀ c ∈ range, isUnsafeUrlChar c = false ∧ c ≠ '#' := by
    have hplain : ∀ c, IsPlain c → isUnsafeUrlChar c = false ∧ c ≠ '#' := by
      intro c hc
      refine ⟨?_, hc.ne (by decide)⟩
      simp only [isUnsafeUrlChar, Bool.or_eq_false_iff, beq_eq_false_iff_ne]
      exact ⟨⟨hc.ne (by decide), hc.ne (by decide)⟩, hc.ne (by decide)⟩
    intro c hc
    simp only [range, List.mem_append, List.mem_cons, List.not_mem_nil, or_false] at hc
    rcases hc with hc | rfl | hc | rfl
    · exact hplain c (isPlain_rangeField isAlphanum_from fromId c hc)
    · decide
    · exact hplain c (isPlain_rangeField isAlphanum_to toId c hc)
    · decide
  have hurl : (pageUrl base types fromId toId).toList =
      base.toList ++ ('?' :: (range ++ ("type=".toList ++ types.toList))) := by
    simp [pageUrl, range, rangeField]
  let kept := base.toList.filter fun c => !isUnsafeUrlChar c
  have hkept : ∀ c ∈ kept, c ≠ '?' ∧ c ≠ '#' := by
    intro c hc
    have hmem := List.mem_of_mem_filter hc
    exact ⟨fun h => hbase.1 (h ▸ hmem), fun h => hbase.2 (h ▸ hmem)⟩
  have hfilter : range.filter (fun c => !isUnsafeUrlChar c) = range :=
    List.filter_eq_self.mpr fun c hc => by rw [(hrange c hc).1]; rfl
  have htake : ∀ c ∈ kept ++ '?' :: range, (c != '#') = true := by
    intro c hc
    rcases List.mem_append.mp hc with hc | hc
    · exact bne_iff_ne.mpr (hkept c hc).2
    · rcases List.mem_cons.mp hc with rfl | hc
      · decide
      · exact bne_iff_ne.mpr (hrange c hc).2
  have hdrop : ∀ c ∈ kept, (c != '?') = true := fun c hc => bne_iff_ne.mpr (hkept c hc).1
  let others := ("type=".toList ++ types.toList).filter fun c => !isUnsafeUrlChar c
  have hfiltered : (pageUrl base types fromId toId).toList.filter (fun c => !isUnsafeUrlChar c) =
      kept ++ '?' :: range ++ others := by
    have hquestion : ('?' :: range).filter (fun c => !isUnsafeUrlChar c) = '?' :: range := by
      rw [List.filter_cons, hfilter]
      rfl
    rw [hurl, ← List.cons_append, ← List.append_assoc, List.filter_append, List.filter_append, hquestion]
  refine ⟨others.takeWhile (· != '#'), ?_⟩
  rw [urlQuery, hfiltered, List.takeWhile_append_of_pos htake, List.append_assoc,
    List.dropWhile_append_of_pos hdrop]
  show range ++ _ = _
  simp only [range, List.append_assoc, List.cons_append, List.nil_append]

/-- **The range of a page** is read from its URL. -/
theorem parseTransactionPageUrl_pageUrl {base : String} (hbase : '?' ∉ base.toList ∧ '#' ∉ base.toList)
    (types : String) (fromId toId : ℕ) :
    parseTransactionPageUrl decoding (pageUrl base types fromId toId) =
      .ok (toString fromId, toString toId) := by
  obtain ⟨rest, hquery⟩ := urlQuery_pageUrl hbase types fromId toId
  have hsplit : ∀ name n rest, (∀ c ∈ String.toList name, c.isAlphanum = true) →
      (rangeField name n ++ '&' :: rest).splitOn '&' = rangeField name n :: rest.splitOn '&' := by
    intro name n rest hname
    refine List.splitOnP_append_cons_of_forall_mem (p := fun c => c == '&') (fun c hc => ?_)
      '&' (beq_self_eq_true '&') rest
    exact beq_eq_false_iff_ne.mpr ((isPlain_rangeField hname n c hc).ne (by decide))
  have hfields : ((urlQuery (pageUrl base types fromId toId).toList).splitOn '&').filterMap
      (queryField decoding) = ("from".toList, (toString fromId).toList) ::
        ("to".toList, (toString toId).toList) :: (rest.splitOn '&').filterMap (queryField decoding) := by
    rw [hquery, hsplit "from" fromId _ isAlphanum_from, hsplit "to" toId _ isAlphanum_to,
      List.filterMap_cons, queryField_rangeField decoding isAlphanum_from, List.filterMap_cons,
      queryField_rangeField decoding isAlphanum_to]
  have hto : ("to".toList == "from".toList) = false := by decide
  simp only [parseTransactionPageUrl, queryValue, hfields, List.lookup_cons, beq_self_eq_true, hto,
    Option.map_some, String.ofList_toList]

end url

/-! ### Keys of transactions -/

theorem zeroPad_injective {m n : ℕ} (h : zeroPad m = zeroPad n) : m = n := by
  have hvalue : ∀ k : ℕ, Nat.ofDigitChars 10 (zeroPad k).toList 0 = k := by
    intro k
    have hbody : (toString (k : ℤ).natAbs).toList = Nat.toDigits 10 k := by
      rw [Int.natAbs_natCast, Nat.toString_eq_ofList_toDigits, String.toList_ofList]
    simp only [zeroPad, hbody]
    rw [if_neg (by omega), String.toList_ofList, Nat.ofDigitChars_append,
      Nat.ofDigitChars_replicate_zero, Nat.mul_zero, Nat.ofDigitChars_ten_toDigits]
  rw [← hvalue m, h, hvalue n]

theorem transactionSortKey_natCast (n : ℕ) : transactionSortKey (toString n) = toLex (0, zeroPad n) := by
  have htext : (IdValue.str (toString n)).text = toString (n : ℤ) := rfl
  rw [transactionSortKey_toString fun _ => none, textKey, historyServiceSortKey, htext, int?_toString,
    numberedKey]

theorem id_eq_of_idKey {t u : Transaction} (h : TransactionLog.idKey t = TransactionLog.idKey u) :
    t.id = u.id := by
  rw [TransactionLog.idKey, TransactionLog.idKey, transactionSortKey_natCast,
    transactionSortKey_natCast] at h
  exact zeroPad_injective (congrArg Prod.snd (toLex.injective h))

/-! ### Ranges of the log -/

namespace TransactionLog

variable {log log' : TransactionLog} {typeFilter : List String}

/-- The transactions of the wanted types with an id of a range. -/
def range (log : TransactionLog) (fromId toId : ℕ) (typeFilter : List String) : List Transaction :=
  log.transactions.filter fun t =>
    decide (fromId ≤ t.id) && decide (t.id ≤ toId) && t.hasType typeFilter

theorem mem_range {fromId toId : ℕ} {t : Transaction} : t ∈ log.range fromId toId typeFilter ↔
    t ∈ log.transactions ∧ (fromId ≤ t.id ∧ t.id ≤ toId) ∧ t.hasType typeFilter = true := by
  rw [range, List.mem_filter, Bool.and_eq_true, Bool.and_eq_true, decide_eq_true_eq, decide_eq_true_eq]

/-- What is appended later is in no range that ends now. -/
theorem Grows.range (h : log.Grows log') {toId : ℕ} (hnow : ∃ t ∈ log.transactions, toId ≤ t.id)
    (fromId : ℕ) : log'.range fromId toId typeFilter = log.range fromId toId typeFilter := by
  obtain ⟨last, hlast, hle⟩ := hnow
  obtain ⟨added, hadded⟩ := h
  have hnone : added.filter (fun t =>
      decide (fromId ≤ t.id) && decide (t.id ≤ toId) && t.hasType typeFilter) = [] := by
    refine List.filter_eq_nil_iff.mpr fun t ht => ?_
    have hincreasing := log'.increasing
    rw [← hadded, List.map_append, List.pairwise_append] at hincreasing
    have hnewer := hincreasing.2.2 _ (List.mem_map_of_mem hlast) _ (List.mem_map_of_mem ht)
    simp only [Bool.and_eq_true, decide_eq_true_eq]
    omega
  rw [TransactionLog.range, TransactionLog.range, ← hadded, List.filter_append, hnone, List.append_nil]

end TransactionLog

/-! ### Windows -/

section window

variable {decoding : PercentDecoding} {api : ℕ → HistoryApi} {log : TransactionLog}
  {startUtc endUtc : Instant} {typeFilter : List String} {ranges : List (ℕ × ℕ)}

/-- `from` and `to` of a request for a range. -/
def rangeParams (r : ℕ × ℕ) : String × String := (toString r.1, toString r.2)

/-- What the broker promises about a window: the ranges of its pages end at transactions that are there and
have the wanted transactions of the window; later requests are answered from a log that has grown. -/
structure ServesWindow (api : ℕ → HistoryApi) (log : TransactionLog) (startUtc endUtc : Instant)
    (typeFilter : List String) (ranges : List (ℕ × ℕ)) : Prop where
  pages : ∃ base types, ('?' ∉ base.toList ∧ '#' ∉ base.toList) ∧
    (api 0).transactionList startUtc endUtc typeFilter =
      .ok (some (ranges.map fun r => pageUrl base types r.1 r.2))
  covers : ∀ t ∈ log.transactions, t.hasType typeFilter = true →
    (t.time.any (fun time => decide (startUtc ≤ time) && decide (time ≤ endUtc)) = true ↔
      ∃ r ∈ ranges, r.1 ≤ t.id ∧ t.id ≤ r.2)
  present : ∀ r ∈ ranges, ∃ t ∈ log.transactions, r.2 ≤ t.id
  later : ∀ n, ∃ log', log.Grows log' ∧ ∀ r : ℕ × ℕ,
    (api n).transactionIdRange (toString r.1) (toString r.2) typeFilter =
      .ok (some (log'.range r.1 r.2 typeFilter))

theorem ServesWindow.fetchPages (h : ServesWindow api log startUtc endUtc typeFilter ranges)
    (decoding : PercentDecoding) (hwindow : startUtc < endUtc) :
    fetchTransactionPages decoding (api 0) startUtc endUtc typeFilter = .ok (ranges.map rangeParams) := by
  obtain ⟨base, types, hbase, hpages⟩ := h.pages
  rw [fetchTransactionPages, if_neg (not_le.mpr hwindow), hpages]
  show (ranges.map _).mapM _ = _
  rw [mapM_eq_ok, List.forall₂_map_left_iff, List.forall₂_map_right_iff, List.forall₂_same]
  exact fun r _ => parseTransactionPageUrl_pageUrl decoding hbase types r.1 r.2

theorem ServesWindow.fetchRanges (h : ServesWindow api log startUtc endUtc typeFilter ranges)
    {rest : List (ℕ × ℕ)} (hrest : ∀ r ∈ rest, r ∈ ranges) (n : ℕ)
    (transactionsById : List (String × Transaction)) :
    OandaV3.fetchRanges api typeFilter n (rest.map rangeParams) transactionsById =
      .ok (assignAll (fun t => toString t.id) id
        (rest.flatMap fun r => log.range r.1 r.2 typeFilter) transactionsById) := by
  induction rest generalizing n transactionsById with
  | nil => rfl
  | cons r rest ih =>
      obtain ⟨log', hgrows, hanswer⟩ := h.later n
      have hr := h.present r (hrest r List.mem_cons_self)
      rw [List.map_cons, rangeParams, OandaV3.fetchRanges, hanswer, hgrows.range hr]
      simp only
      rw [ih (fun r' hr' => hrest r' (List.mem_cons_of_mem _ hr')), List.flatMap_cons, assignAll, assignAll,
        assignAll, List.foldl_append]

/-- The transactions that the loop leaves under their ids are those it was given. -/
theorem values_assignAll {log : TransactionLog} {transactions : List Transaction}
    (hlog : ∀ t ∈ transactions, t ∈ log.transactions) :
    let values := (assignAll (fun t : Transaction => toString t.id) id transactions []).map Prod.snd
    values.Nodup ∧ ∀ t, t ∈ values ↔ t ∈ transactions := by
  intro values
  have hitem : ∀ item ∈ assignAll (fun t : Transaction => toString t.id) id transactions [],
      item.2 ∈ transactions ∧ item.1 = toString item.2.id := by
    intro item hitem
    rcases mem_assignAll hitem with hnone | ⟨t, ht, rfl⟩
    · cases hnone
    · exact ⟨ht, rfl⟩
  constructor
  · have hkeys : (assignAll (fun t : Transaction => toString t.id) id transactions []).map Prod.fst =
        values.map fun t => toString t.id := by
      rw [List.map_map]
      exact List.map_congr_left fun item h => (hitem item h).2
    have hnodup := nodup_assignAll (fun t : Transaction => toString t.id) id transactions
      (d := []) List.nodup_nil
    exact List.Nodup.of_map _ (hkeys ▸ hnodup)
  · intro t
    constructor
    · intro ht
      obtain ⟨item, h, rfl⟩ := List.mem_map.mp ht
      exact (hitem item h).1
    · intro ht
      have hsame : ∀ u ∈ transactions, toString u.id = toString t.id → id u = id t := by
        intro u hu hid
        have hkey : TransactionLog.idKey u = TransactionLog.idKey t := congrArg transactionSortKey hid
        exact TransactionLog.eq_of_id_eq (hlog u hu) (hlog t ht) (id_eq_of_idKey hkey)
      have hlookup := lookup_assignAll (fun t : Transaction => toString t.id) id [] ht hsame
      exact List.mem_map.mpr ⟨_, mem_of_lookup hlookup, rfl⟩

/-- **The pages of a window bring it as it was at the first request**, each transaction once and in the order
of the ids, whatever the account does between the requests: the client is the one call that the services are
modelled with. -/
theorem fetchTransactionsForWindow_snapshot (decoding : PercentDecoding) (api : ℕ → HistoryApi) (w : World)
    (startUtc endUtc : Instant) (typeFilter : List String) (ranges : List (ℕ × ℕ))
    (h : ServesWindow api w.broker.log startUtc endUtc typeFilter ranges) :
    fetchTransactionsForWindow decoding api startUtc endUtc typeFilter =
      (World.answer (.fetchTransactionsForWindow startUtc endUtc typeFilter) w).1 := by
  rw [fetchTransactionsForWindow, World.answer]
  by_cases hwindow : endUtc ≤ startUtc
  · rw [fetchTransactionPages, if_pos hwindow, if_pos hwindow]
    rfl
  · rw [h.fetchPages decoding (not_le.mp hwindow), if_neg hwindow]
    simp only [bind, Except.bind, h.fetchRanges (fun _ hr => hr) 1 []]
    let fetched := ranges.flatMap fun r => w.broker.log.range r.1 r.2 typeFilter
    have hmem : ∀ t, t ∈ fetched ↔ t ∈ w.broker.log.transactions ∧ t.hasType typeFilter = true ∧
        ∃ r ∈ ranges, r.1 ≤ t.id ∧ t.id ≤ r.2 := by
      intro t
      simp only [fetched, List.mem_flatMap, TransactionLog.mem_range]
      exact ⟨fun ⟨r, hr, ht, hids, htype⟩ => ⟨ht, htype, r, hr, hids⟩,
        fun ⟨ht, htype, r, hr, hids⟩ => ⟨r, hr, ht, hids, htype⟩⟩
    obtain ⟨hnodup, hvalues⟩ := values_assignAll fun t ht => ((hmem t).mp ht).1
    have hperm := (List.perm_ext_iff_of_nodup hnodup
      (List.Nodup.filter (fun t => t.time.any (fun time => decide (startUtc ≤ time) && decide (time ≤ endUtc)) &&
        t.hasType typeFilter) (List.Nodup.of_map _ (w.broker.log.increasing.imp Nat.ne_of_lt)))).mpr
      fun t => by
        rw [hvalues, hmem, List.mem_filter, Bool.and_eq_true]
        exact and_congr_right fun ht => ⟨fun ⟨htype, hin⟩ => ⟨(h.covers t ht htype).mpr hin, htype⟩,
          fun ⟨htime, htype⟩ => ⟨htype, (h.covers t ht htype).mp htime⟩⟩
    refine congrArg Except.ok (sortOn_eq_of_perm (fun t ht u hu hkey => ?_) hperm)
    have hmemLog : ∀ v, v ∈ _ → v ∈ w.broker.log.transactions := fun v hv =>
      List.mem_of_mem_filter (hperm.mem_iff.mp hv)
    exact TransactionLog.eq_of_id_eq (hmemLog t ht) (hmemLog u hu) (id_eq_of_idKey hkey)

end window

/-! ### Transactions since an id -/

/-- What the broker promises about the transactions since an id. -/
def ServesSince (api : HistoryApi) (log : TransactionLog) (lastTransactionId : ℕ)
    (typeFilter : List String) : Prop :=
  api.transactionsSinceId lastTransactionId typeFilter =
    .ok (some (log.transactions.filter fun t => decide (lastTransactionId < t.id) && t.hasType typeFilter),
      log.lastTransactionID)

/-- The other request of the services is answered as they are modelled, too. -/
theorem fetchTransactionsSince_eq (api : HistoryApi) (w : World) (lastTransactionId : ℕ)
    (typeFilter : List String) (h : ServesSince api w.broker.log lastTransactionId typeFilter) :
    fetchTransactionsSince api lastTransactionId typeFilter =
      (World.answer (.fetchTransactionsSince lastTransactionId typeFilter) w).1 := by
  rw [fetchTransactionsSince, h, World.answer]
  cases w.broker.log.lastTransactionID with
  | none => rfl
  | some last => rfl

/-! ### A fill between two requests -/

/-- The history of an account as its log is now. -/
def historyApi (log : TransactionLog) (ranges : List (ℕ × ℕ)) : HistoryApi where
  transactionList := fun _ _ _ => .ok (some (ranges.map fun r =>
    pageUrl "https://api-fxpractice.oanda.com/v3/accounts/001/transactions/idrange" "ORDER_FILL" r.1 r.2))
  transactionIdRange := fun fromId toId typeFilter =>
    match int? (fun _ => none) fromId, int? (fun _ => none) toId with
    | some first, some last => .ok (some (log.range first.toNat last.toNat typeFilter))
    | _, _ => .error (.brokerError "Invalid value specified for 'from' or 'to'")
  transactionsSinceId := fun id typeFilter =>
    .ok (some (log.transactions.filter fun t => decide (id < t.id) && t.hasType typeFilter),
      log.lastTransactionID)

/-- No text has a percent sign. -/
def noPercent : PercentDecoding := ⟨id, fun _ _ => rfl⟩

/-- The account makes its second fill after the first request; two pages name the first fill. -/
def fillBetween : ℕ → HistoryApi
  | 0 => historyApi oneFill [(1, 1), (1, 1)]
  | _ => historyApi twoFills [(1, 2)]

theorem historyApi_range (log : TransactionLog) (ranges : List (ℕ × ℕ)) (r : ℕ × ℕ)
    (typeFilter : List String) :
    (historyApi log ranges).transactionIdRange (toString r.1) (toString r.2) typeFilter =
      .ok (some (log.range r.1 r.2 typeFilter)) := by
  have hint : ∀ n : ℕ, int? (fun _ => none) (toString n) = some (n : ℤ) := fun n =>
    int?_toString (fun _ => none) n
  simp only [historyApi, hint, Int.toNat_natCast]

theorem servesWindow_fillBetween : ServesWindow fillBetween (sampleWorld oneFill).broker.log 0 5
    tradeHistoryTypeFilter [(1, 1), (1, 1)] where
  pages := ⟨_, _, by decide +kernel, rfl⟩
  covers := by decide +kernel
  present := by decide +kernel
  later := fun n => by
    cases n with
    | zero => exact ⟨oneFill, TransactionLog.Grows.refl _, fun r => historyApi_range _ _ r _⟩
    | succ n => exact ⟨twoFills, by decide +kernel, fun r => historyApi_range _ _ r _⟩

/-- The second fill is not in the answer, though it was made before the ranges were requested. -/
theorem fetchTransactionsForWindow_snapshot_fill :
    fetchTransactionsForWindow noPercent fillBetween 0 5 tradeHistoryTypeFilter =
      (World.answer (.fetchTransactionsForWindow 0 5 tradeHistoryTypeFilter) (sampleWorld oneFill)).1 :=
  fetchTransactionsForWindow_snapshot noPercent fillBetween (sampleWorld oneFill) 0 5
    tradeHistoryTypeFilter [(1, 1), (1, 1)] servesWindow_fillBetween

end OandaV3
