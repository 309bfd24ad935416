import OandaV3.HistoryService
import OandaV3.Numerals

/-! # The order of transaction ids

The three copies of `_transaction_sort_key`, in `journal/trade_history_service.py`,
`providers/oanda_history.py` and `data/persistence/trade_store.py`, on any value under the key of an
id.

* `zeroPad_lt_zeroPad`: padded numerals of twenty places compare as their numbers.
* `sortKey_lt_sortKey`, `sortKey_lt_of_not_number`: the order of the keys.
* `isMaxOf_backfillMaximum`, `isMaxOf_watermark`: what the comparisons of keys pick.
* `transaction_ids_order_as_numbers`: the main result.
* `backfillMaximum_map`: the backfill over numbered transactions compares in the same way. -/

namespace OandaV3

/-! ### Ids and `int` -/

inductive IdValue where
  | none
  | int (n : ℤ)
  | str (text : String)
deriving DecidableEq, Repr

/-- `str(value)`. -/
def IdValue.text : IdValue → String
  | .none => "None"
  | .int n => toString n
  | .str text => text

section ids

variable (decimal : Char → Option (Fin 10))

/-! ### The three keys -/

/-- The key of an id that was read as a number, or not at all. -/
def numberedKey (number : Option ℤ) (text : String) : ℕ ×ₗ String :=
  match number with
  | some n => toLex (0, zeroPad n)
  | none => toLex (1, text)

/-- `TradeHistoryService._transaction_sort_key`. -/
def historyServiceSortKey (value : IdValue) : ℕ ×ₗ String :=
  numberedKey (int? decimal value.text) value.text

/-- `OandaHistoryClient._transaction_sort_key`. -/
def historyClientSortKey (value : IdValue) : ℕ ×ₗ String :=
  numberedKey (int? decimal value.text) value.text

/-- `TradeStore._transaction_sort_key`. -/
def tradeStoreSortKey : IdValue → ℕ ×ₗ String
  | .none => toLex (0, "")
  | .int n => numberedKey (some n) (toString n)
  | .str text => numberedKey (int? decimal text) text

def sortKeys : List (IdValue → ℕ ×ₗ String) :=
  [historyServiceSortKey decimal, historyClientSortKey decimal, tradeStoreSortKey decimal]

/-! ### Backfill and watermark -/

/-- The texts of the ids that a chunk of transactions has. -/
def idTexts (ids : List IdValue) : List String :=
  (ids.filter fun id => decide (id ≠ .none)).map IdValue.text

/-- `max_chunk_transaction_id`. -/
def maxChunkTransactionId (ids : List IdValue) : Option String :=
  maxBy (fun text => historyServiceSortKey decimal (.str text)) (idTexts ids)

/-- `max_transaction_id` after a chunk. -/
def laterTransactionId (chunkMax current : Option String) : Option String :=
  match chunkMax, current with
  | none, current => current
  | some id, none => some id
  | some id, some best =>
      if historyServiceSortKey decimal (.str best) < historyServiceSortKey decimal (.str id) then
        some id
      else some best

/-- `max_transaction_id` after the loop of `backfill_history` over its chunks. -/
def backfillMaximum (chunks : List (List IdValue)) : Option String :=
  chunks.foldl (fun best ids => laterTransactionId decimal (maxChunkTransactionId decimal ids) best)
    none

/-- The watermark after `_advance_sync_state_watermark`. -/
def advanceWatermark (existing : Option String) (candidate : String) : Option String :=
  match existing with
  | none => some candidate
  | some last =>
      if historyServiceSortKey decimal (.str candidate) ≤ historyServiceSortKey decimal (.str last) then
        some last
      else some candidate

/-- `int` reads a number of at most twenty digits from the id. -/
structure IdValue.IsNumeral (value : IdValue) (n : ℕ) : Prop where
  number : int? decimal value.text = some (n : ℤ)
  bound : n < 10 ^ 20

/-- The id has the greatest number of all numerals in a list. -/
structure IsNewest (ids : List String) (newest : String) : Prop where
  mem : newest ∈ ids
  newest : ∃ n, (IdValue.str newest).IsNumeral decimal n ∧
    ∀ id ∈ ids, ∀ m, (IdValue.str id).IsNumeral decimal m → m ≤ n

end ids

/-! ### Numerals -/

section numerals

variable {decimal : Char → Option (Fin 10)} {ds : List Char}

theorem toNat_of_isDigit {c : Char} (h : c.isDigit = true) : 48 ≤ c.toNat ∧ c.toNat ≤ 57 := by
  simp only [Char.isDigit, Bool.and_eq_true, decide_eq_true_eq] at h
  exact ⟨h.1, h.2⟩

theorem digits?_of_digits (hne : ds ≠ []) (h : ∀ d ∈ ds, d.isDigit = true) :
    digits? ds = some ds := by
  induction ds with
  | nil => exact absurd rfl hne
  | cons c cs ih =>
      rw [List.forall_mem_cons] at h
      cases cs with
      | nil => rw [digits?, if_pos h.1]
      | cons c' cs =>
          -- the next character is a digit, and no underscore
          have hc' : c' ≠ '_' := by
            rintro rfl
            exact absurd (h.2 '_' List.mem_cons_self) (by decide)
          rw [digits?, if_pos h.1, ih (List.cons_ne_nil _ _) h.2]
          · rfl
          · exact fun hnil => nomatch hnil
          · intro rest hrest
            exact hc' (List.cons.inj hrest).1

theorem signed?_of_digits (hne : ds ≠ []) (h : ∀ d ∈ ds, d.isDigit = true) :
    signed? ds = some (Nat.ofDigitChars 10 ds 0 : ℤ) := by
  unfold signed?
  split
  · exact absurd (h '-' List.mem_cons_self) (by decide)
  · exact absurd (h '+' List.mem_cons_self) (by decide)
  · rw [digits?_of_digits hne h]
    rfl

theorem trimSpaces_of_not_space {cs : List Char} (h : ∀ c ∈ cs, isAsciiSpace c = false) :
    trimSpaces cs = cs := by
  have hdrop : ∀ l : List Char, (∀ c ∈ l, isAsciiSpace c = false) →
      l.dropWhile isAsciiSpace = l := by
    intro l hl
    cases l with
    | nil => rfl
    | cons c l => rw [List.dropWhile_cons, hl c List.mem_cons_self, if_neg Bool.false_ne_true]
  rw [trimSpaces, hdrop cs h, hdrop cs.reverse (by simpa using h), List.reverse_reverse]

theorem mapM_asciiChar {cs : List Char} (h : ∀ c ∈ cs, c.toNat < 127) :
    cs.mapM (asciiChar decimal) = some cs := by
  induction cs with
  | nil => rfl
  | cons c cs ih =>
      rw [List.forall_mem_cons] at h
      rw [List.mapM_cons, asciiChar, if_pos h.1, ih h.2]
      rfl

theorem int?_ofList {cs : List Char} (h : ∀ c ∈ cs, 33 ≤ c.toNat ∧ c.toNat < 127) :
    int? decimal (String.ofList cs) = signed? cs := by
  have hspace : ∀ c ∈ cs, isAsciiSpace c = false := by
    intro c hc
    have hc' := h c hc
    simp [isAsciiSpace]
    omega
  rw [int?, String.toList_ofList, mapM_asciiChar fun c hc => (h c hc).2, Option.bind_some,
    trimSpaces_of_not_space hspace]

theorem isDigit_range (h : ∀ d ∈ ds, d.isDigit = true) :
    ∀ d ∈ ds, 33 ≤ d.toNat ∧ d.toNat < 127 := by
  intro d hd
  have hdigit := toNat_of_isDigit (h d hd)
  omega

theorem int?_of_digits (decimal : Char → Option (Fin 10)) (hne : ds ≠ [])
    (h : ∀ d ∈ ds, d.isDigit = true) :
    int? decimal (String.ofList ds) = some (Nat.ofDigitChars 10 ds 0 : ℤ) := by
  rw [int?_ofList (isDigit_range h), signed?_of_digits hne h]

theorem isDigit_toDigits (n : ℕ) : ∀ d ∈ Nat.toDigits 10 n, d.isDigit = true :=
  fun _ hd => Nat.isDigit_of_mem_toDigits (by decide) (by decide) hd

theorem int?_toString (decimal : Char → Option (Fin 10)) (z : ℤ) :
    int? decimal (toString z) = some z := by
  cases z with
  | ofNat n =>
      have htext : toString (Int.ofNat n) = String.ofList (Nat.toDigits 10 n) :=
        Nat.toString_eq_ofList_toDigits
      rw [htext, int?_of_digits decimal Nat.toDigits_ne_nil (isDigit_toDigits n),
        Nat.ofDigitChars_ten_toDigits]
      rfl
  | negSucc n =>
      have htext : toString (Int.negSucc n) = String.ofList ('-' :: Nat.toDigits 10 (n + 1)) := by
        apply String.toList_injective
        have hsucc : (toString (n + 1)).toList = Nat.toDigits 10 (n + 1) := by
          rw [Nat.toString_eq_ofList_toDigits, String.toList_ofList]
        show ("-" ++ toString (n + 1)).toList = _
        rw [String.toList_append, hsucc]
        exact String.toList_ofList.symm
      have hrange : ∀ c ∈ '-' :: Nat.toDigits 10 (n + 1), 33 ≤ c.toNat ∧ c.toNat < 127 := by
        rw [List.forall_mem_cons]
        exact ⟨by decide, isDigit_range (isDigit_toDigits _)⟩
      rw [htext, int?_ofList hrange, signed?, digits?_of_digits Nat.toDigits_ne_nil
        (isDigit_toDigits _), Option.map_some, Nat.ofDigitChars_ten_toDigits]
      rfl

/-! ### Padded numerals -/

theorem replicate_append_toDigits {w n : ℕ} (hw : 0 < w) (hn : n < 10 ^ w) :
    List.replicate (w - (Nat.toDigits 10 n).length) '0' ++ Nat.toDigits 10 n =
      Numerals.places 10 Nat.digitChar w n := by
  induction w generalizing n with
  | zero => cases hw
  | succ w ih =>
      rw [Numerals.places]
      rcases Nat.lt_or_ge n 10 with hlt | hge
      · rw [Nat.toDigits_of_lt_base hlt, Nat.div_eq_of_lt hlt, Nat.mod_eq_of_lt hlt,
          Numerals.places_zero]
        rfl
      · have hw : 0 < w := by
          rcases Nat.eq_zero_or_pos w with rfl | hpos
          · omega
          · exact hpos
        have hdiv : n / 10 < 10 ^ w := by omega
        rw [Nat.toDigits_of_base_le (by decide) hge, ← ih hw hdiv, List.length_append,
          List.length_singleton, Nat.add_sub_add_right, List.append_assoc]

theorem zeroPad_natCast {n : ℕ} (hn : n < 10 ^ 20) :
    zeroPad n = String.ofList (Numerals.places 10 Nat.digitChar 20 n) := by
  have hbody : (toString (n : ℤ).natAbs).toList = Nat.toDigits 10 n := by
    rw [Int.natAbs_natCast, Nat.toString_eq_ofList_toDigits, String.toList_ofList]
  simp only [zeroPad, hbody]
  rw [if_neg (by omega), replicate_append_toDigits (by decide) hn]

theorem zeroPad_lt_zeroPad {m n : ℕ} (hm : m < 10 ^ 20) (hn : n < 10 ^ 20) :
    zeroPad m < zeroPad n ↔ m < n := by
  rw [zeroPad_natCast hm, zeroPad_natCast hn, String.lt_iff_toList_lt, String.toList_ofList,
    String.toList_ofList]
  exact Numerals.places_lt_places (by decide) hm hn

end numerals

/-! ### The order of the keys -/

section keys

variable {decimal : Char → Option (Fin 10)} {key : IdValue → ℕ ×ₗ String} {value value' : IdValue}
  {m n : ℕ}

theorem int?_none (decimal : Char → Option (Fin 10)) : int? decimal "None" = none := by
  have htext : "None" = String.ofList ['N', 'o', 'n', 'e'] := rfl
  rw [htext, int?_ofList (by simp)]
  rfl

theorem sortKey_of_isNumeral (hkey : key ∈ sortKeys decimal) (h : value.IsNumeral decimal n) :
    key value = toLex (0, zeroPad n) := by
  simp only [sortKeys, List.mem_cons, List.not_mem_nil, or_false] at hkey
  rcases hkey with rfl | rfl | rfl
  · rw [historyServiceSortKey, h.number, numberedKey]
  · rw [historyClientSortKey, h.number, numberedKey]
  · cases value with
    | none =>
        have hnumber := h.number
        rw [IdValue.text, int?_none] at hnumber
        cases hnumber
    | int z =>
        have hnumber := h.number
        rw [IdValue.text, int?_toString] at hnumber
        obtain rfl := Option.some.inj hnumber
        rfl
    | str text =>
        have hnumber : int? decimal text = some (n : ℤ) := h.number
        rw [tradeStoreSortKey, hnumber, numberedKey]

/-- Each of the three keys of an id that is no number is the id, after all numbers. -/
theorem sortKey_of_not_number (hkey : key ∈ sortKeys decimal) (hnone : value ≠ .none)
    (h : int? decimal value.text = none) : key value = toLex (1, value.text) := by
  simp only [sortKeys, List.mem_cons, List.not_mem_nil, or_false] at hkey
  rcases hkey with rfl | rfl | rfl
  · rw [historyServiceSortKey, h, numberedKey]
  · rw [historyClientSortKey, h, numberedKey]
  · cases value with
    | none => exact absurd rfl hnone
    | int z =>
        rw [IdValue.text, int?_toString] at h
        cases h
    | str text =>
        have hnumber : int? decimal text = none := h
        rw [tradeStoreSortKey, hnumber, numberedKey]
        rfl

theorem sortKey_lt_sortKey (hkey : key ∈ sortKeys decimal) (hm : value.IsNumeral decimal m)
    (hn : value'.IsNumeral decimal n) : key value < key value' ↔ m < n := by
  rw [sortKey_of_isNumeral hkey hm, sortKey_of_isNumeral hkey hn, Prod.Lex.toLex_lt_toLex,
    ← zeroPad_lt_zeroPad hm.bound hn.bound]
  simp

theorem sortKey_lt_of_not_number (hkey : key ∈ sortKeys decimal) (hm : value.IsNumeral decimal m)
    (hnone : value' ≠ .none) (h : int? decimal value'.text = none) : key value < key value' := by
  rw [sortKey_of_isNumeral hkey hm, sortKey_of_not_number hkey hnone h, Prod.Lex.toLex_lt_toLex]
  exact Or.inl Nat.one_pos

/-- A missing id comes before every numeral in the store, and after every numeral elsewhere. -/
theorem missing_id_order (hm : value.IsNumeral decimal m) :
    tradeStoreSortKey decimal .none < tradeStoreSortKey decimal value ∧
      historyServiceSortKey decimal value < historyServiceSortKey decimal .none ∧
      historyClientSortKey decimal value < historyClientSortKey decimal .none := by
  have hkey : ∀ key ∈ sortKeys decimal, key value = toLex (0, zeroPad m) :=
    fun key hkey => sortKey_of_isNumeral hkey hm
  simp only [sortKeys, List.forall_mem_cons] at hkey
  obtain ⟨hservice, hclient, hstore, -⟩ := hkey
  have hlast : ∀ text, (toLex (0, zeroPad m) : ℕ ×ₗ String) < toLex (1, text) :=
    fun text => Prod.Lex.toLex_lt_toLex.mpr (Or.inl Nat.one_pos)
  refine ⟨?_, ?_, ?_⟩
  · rw [hstore, tradeStoreSortKey, Prod.Lex.toLex_lt_toLex]
    refine Or.inr ⟨rfl, ?_⟩
    show "" < zeroPad m
    obtain ⟨c, cs, hcs⟩ := List.exists_cons_of_length_pos
      (l := Numerals.places 10 Nat.digitChar 20 m) (by simp)
    rw [zeroPad_natCast hm.bound, hcs, String.lt_iff_toList_lt, String.toList_ofList,
      String.toList_ofList]
    exact List.nil_lt_cons c cs
  · rw [hservice, historyServiceSortKey, IdValue.text, int?_none]
    exact hlast _
  · rw [hclient, historyClientSortKey, IdValue.text, int?_none]
    exact hlast _

end keys

/-! ### What the comparisons pick -/

/-- The value that a running maximum has found in a list, if any. -/
def IsMaxOf {α κ : Type} [LE κ] (key : α → κ) (as : List α) (best : Option α) : Prop :=
  (best = none ∧ as = []) ∨ ∃ m, best = some m ∧ m ∈ as ∧ ∀ a ∈ as, key a ≤ key m

section maxima

variable {α κ : Type} [LinearOrder κ] {key : α → κ} {as bs : List α}

theorem isMaxOf_maxBy (key : α → κ) (as : List α) : IsMaxOf key as (maxBy key as) := by
  cases hmax : maxBy key as with
  | none =>
      cases as with
      | nil => exact Or.inl ⟨rfl, rfl⟩
      | cons a as => cases hmax
  | some m => exact Or.inr ⟨m, rfl, maxBy_mem hmax, key_le_of_maxBy hmax⟩

theorem isMaxOf_append_greater {m c : α} (hm : m ∈ as ∧ ∀ a ∈ as, key a ≤ key m)
    (hc : c ∈ bs ∧ ∀ b ∈ bs, key b ≤ key c) (hlt : key m < key c) :
    IsMaxOf key (as ++ bs) (some c) := by
  refine Or.inr ⟨c, rfl, List.mem_append_right _ hc.1, fun a ha => ?_⟩
  rcases List.mem_append.mp ha with ha | ha
  · exact (hm.2 a ha).trans hlt.le
  · exact hc.2 a ha

theorem isMaxOf_append_best {m c : α} (hm : m ∈ as ∧ ∀ a ∈ as, key a ≤ key m)
    (hc : ∀ b ∈ bs, key b ≤ key c) (hle : key c ≤ key m) : IsMaxOf key (as ++ bs) (some m) := by
  refine Or.inr ⟨m, rfl, List.mem_append_left _ hm.1, fun a ha => ?_⟩
  rcases List.mem_append.mp ha with ha | ha
  · exact hm.2 a ha
  · exact (hc a ha).trans hle

end maxima

section newest

variable {decimal : Char → Option (Fin 10)} {ids ids' : List String} {best : Option String}

abbrev textKey (decimal : Char → Option (Fin 10)) (text : String) : ℕ ×ₗ String :=
  historyServiceSortKey decimal (.str text)

theorem isMaxOf_laterTransactionId {chunkMax : Option String}
    (hbest : IsMaxOf (textKey decimal) ids best) (hchunk : IsMaxOf (textKey decimal) ids' chunkMax) :
    IsMaxOf (textKey decimal) (ids ++ ids') (laterTransactionId decimal chunkMax best) := by
  rcases hchunk with ⟨rfl, rfl⟩ | ⟨c, rfl, hc⟩
  · rw [List.append_nil]
    exact hbest
  · rcases hbest with ⟨rfl, rfl⟩ | ⟨m, rfl, hm⟩
    · exact Or.inr ⟨c, rfl, hc⟩
    · rw [laterTransactionId]
      split_ifs with hlt
      · exact isMaxOf_append_greater hm hc hlt
      · exact isMaxOf_append_best hm hc.2 (not_lt.mp hlt)

theorem isMaxOf_backfillMaximum (decimal : Char → Option (Fin 10)) (chunks : List (List IdValue)) :
    IsMaxOf (textKey decimal) (chunks.flatMap idTexts) (backfillMaximum decimal chunks) := by
  induction chunks using List.reverseRecOn with
  | nil => exact Or.inl ⟨rfl, rfl⟩
  | append_singleton chunks ids ih =>
      rw [backfillMaximum, List.foldl_append, List.flatMap_append, List.flatMap_singleton]
      exact isMaxOf_laterTransactionId ih (isMaxOf_maxBy _ _)

theorem isMaxOf_advanceWatermark (candidate : String) (hbest : IsMaxOf (textKey decimal) ids best) :
    IsMaxOf (textKey decimal) (ids ++ [candidate]) (advanceWatermark decimal best candidate) := by
  have hself : candidate ∈ [candidate] ∧
      ∀ id ∈ [candidate], textKey decimal id ≤ textKey decimal candidate := by simp
  rcases hbest with ⟨rfl, rfl⟩ | ⟨m, rfl, hm⟩
  · exact Or.inr ⟨candidate, rfl, hself⟩
  · rw [advanceWatermark]
    split_ifs with hle
    · exact isMaxOf_append_best hm hself.2 hle
    · exact isMaxOf_append_greater hm hself (not_le.mp hle)

theorem isMaxOf_watermark (existing : Option String) (candidates : List String) :
    IsMaxOf (textKey decimal) (existing.toList ++ candidates)
      (candidates.foldl (advanceWatermark decimal) existing) := by
  induction candidates using List.reverseRecOn with
  | nil =>
      cases existing with
      | none => exact Or.inl ⟨rfl, rfl⟩
      | some last => exact Or.inr ⟨last, rfl, by simp⟩
  | append_singleton candidates candidate ih =>
      rw [List.foldl_append, ← List.append_assoc]
      exact isMaxOf_advanceWatermark candidate ih

/-- The greatest key of a list of numerals is the one of its newest id. -/
theorem exists_isNewest (h : IsMaxOf (textKey decimal) ids best) (hne : ids ≠ [])
    (hnumeral : ∀ id ∈ ids, ∃ n, (IdValue.str id).IsNumeral decimal n) :
    ∃ newest, best = some newest ∧ IsNewest decimal ids newest := by
  rcases h with ⟨-, hempty⟩ | ⟨newest, hbest, hmem, hmax⟩
  · exact absurd hempty hne
  · obtain ⟨n, hn⟩ := hnumeral newest hmem
    refine ⟨newest, hbest, hmem, n, hn, fun id hid m hm => not_lt.mp fun hlt => ?_⟩
    exact (hmax id hid).not_gt ((sortKey_lt_sortKey List.mem_cons_self hn hm).mpr hlt)

/-- **The keys order transaction ids as numbers.**  A text of digits denotes its number; the three
keys of a numeral below 10 ^ 20 are the same, two numerals compare as their numbers, and any id that
is no number comes after all of them.  So the maximum of a backfill over any chunks, and the
watermark after any candidates, are the numerically newest ids. -/
theorem transaction_ids_order_as_numbers (decimal : Char → Option (Fin 10)) :
    (∀ ds : List Char, ds ≠ [] → (∀ d ∈ ds, d.isDigit = true) → Nat.ofDigitChars 10 ds 0 < 10 ^ 20 →
      (IdValue.str (String.ofList ds)).IsNumeral decimal (Nat.ofDigitChars 10 ds 0)) ∧
    (∀ value n, IdValue.IsNumeral decimal value n →
      ∀ key ∈ sortKeys decimal, ∀ key' ∈ sortKeys decimal, key value = key' value) ∧
    (∀ key ∈ sortKeys decimal, ∀ value value' m n, IdValue.IsNumeral decimal value m →
      IdValue.IsNumeral decimal value' n → (key value < key value' ↔ m < n)) ∧
    (∀ key ∈ sortKeys decimal, ∀ value m id, IdValue.IsNumeral decimal value m → id ≠ .none →
      int? decimal id.text = none → key value < key id) ∧
    (∀ chunks : List (List IdValue), chunks.flatMap idTexts ≠ [] →
      (∀ id ∈ chunks.flatMap idTexts, ∃ n, (IdValue.str id).IsNumeral decimal n) →
      ∃ newest, backfillMaximum decimal chunks = some newest ∧
        IsNewest decimal (chunks.flatMap idTexts) newest) ∧
    ∀ (existing : Option String) (candidates : List String), existing.toList ++ candidates ≠ [] →
      (∀ id ∈ existing.toList ++ candidates, ∃ n, (IdValue.str id).IsNumeral decimal n) →
      ∃ newest, candidates.foldl (advanceWatermark decimal) existing = some newest ∧
        IsNewest decimal (existing.toList ++ candidates) newest := by
  refine ⟨fun ds hne hds hbound => ⟨int?_of_digits decimal hne hds, hbound⟩,
    fun value n hn key hkey key' hkey' => ?_,
    fun key hkey value value' m n hm hn => sortKey_lt_sortKey hkey hm hn,
    fun key hkey value m id hm hnone hid => sortKey_lt_of_not_number hkey hm hnone hid,
    fun chunks hne hnumeral => exists_isNewest (isMaxOf_backfillMaximum decimal chunks) hne hnumeral,
    fun existing candidates hne hnumeral =>
      exists_isNewest (isMaxOf_watermark existing candidates) hne hnumeral⟩
  rw [sortKey_of_isNumeral hkey hn, sortKey_of_isNumeral hkey' hn]

/-- `int` reads the digits of ASCII alone. -/
def noDigits : Char → Option (Fin 10) := fun _ => none

theorem transaction_ids_order_as_numbers_ten :
    (∀ key ∈ sortKeys noDigits, key (.str "9") < key (.str "10") ∧ key (.str "10") < key (.str "x9")) ∧
      (∃ newest, backfillMaximum noDigits [[.str "9", .str "10"], [.none, .int 7]] = some newest ∧
        IsNewest noDigits ["9", "10", "7"] newest) ∧
      ∃ newest, ["10", "7"].foldl (advanceWatermark noDigits) (some "9") = some newest ∧
        IsNewest noDigits ["9", "10", "7"] newest := by
  obtain ⟨hdigits, -, hkeys, hnot, hbackfill, hwatermark⟩ := transaction_ids_order_as_numbers noDigits
  have hten : (IdValue.str "10").IsNumeral noDigits 10 :=
    hdigits ['1', '0'] (by decide) (List.all_eq_true.mp (by decide)) (by decide +kernel)
  have hnine : (IdValue.str "9").IsNumeral noDigits 9 :=
    hdigits ['9'] (by decide) (List.all_eq_true.mp (by decide)) (by decide +kernel)
  have hseven : (IdValue.str "7").IsNumeral noDigits 7 :=
    hdigits ['7'] (by decide) (List.all_eq_true.mp (by decide)) (by decide +kernel)
  have hnumeral : ∀ id ∈ ["9", "10", "7"], ∃ n, (IdValue.str id).IsNumeral noDigits n := by
    simp only [List.forall_mem_cons, List.not_mem_nil, IsEmpty.forall_iff, implies_true, and_true]
    exact ⟨⟨9, hnine⟩, ⟨10, hten⟩, ⟨7, hseven⟩⟩
  refine ⟨fun key hkey => ⟨(hkeys key hkey _ _ _ _ hnine hten).mpr (by decide), ?_⟩, ?_, ?_⟩
  · exact hnot key hkey _ _ (.str "x9") hten (by decide) (by decide +kernel)
  · exact hbackfill [[.str "9", .str "10"], [.none, .int 7]] (by decide) hnumeral
  · exact hwatermark (some "9") ["10", "7"] (by decide) hnumeral

/-- The text "10" sorts before "9", its key after it; a missing id is skipped. -/
example : backfillMaximum (fun _ => none) [[.str "9", .str "10"], [.none, .int 7]] = some "10" := by
  decide +kernel

end newest

/-! ### Numbered transactions -/

section numbered

variable {decimal : Char → Option (Fin 10)}

theorem transactionSortKey_toString (decimal : Char → Option (Fin 10)) (n : ℕ) :
    transactionSortKey (toString n) = textKey decimal (toString n) := by
  have hint : pyInt? (toString n) = some (n : ℤ) := int?_toString (fun _ => none) n
  have htext : (IdValue.str (toString n)).text = toString (n : ℤ) := rfl
  rw [transactionSortKey, hint, textKey, historyServiceSortKey, htext, int?_toString, numberedKey]

theorem maxChunkTransactionId_map (transactions : List Transaction) :
    maxChunkTransactionId decimal (transactions.map fun t => .str (toString t.id)) =
      (maxTransactionId transactions).map toString := by
  have htexts : idTexts (transactions.map fun t => .str (toString t.id)) =
      (transactions.map Transaction.id).map toString := by
    rw [idTexts, List.filter_eq_self.mpr (by simp), List.map_map, List.map_map]
    rfl
  have hkey : (fun id : ℕ => historyServiceSortKey decimal (.str (toString id))) =
      fun id => transactionSortKey (toString id) :=
    funext fun id => (transactionSortKey_toString decimal id).symm
  rw [maxChunkTransactionId, htexts, maxBy_map, hkey, maxTransactionId]

theorem laterTransactionId_map (chunkMax best : Option ℕ) :
    laterTransactionId decimal (chunkMax.map toString) (best.map toString) =
      (laterId chunkMax best).map toString := by
  cases chunkMax with
  | none => rfl
  | some id =>
      cases best with
      | none => rfl
      | some best =>
          simp only [Option.map_some, laterTransactionId, laterId, transactionSortKey_toString decimal]
          split_ifs <;> rfl

theorem backfillMaximum_map (chunks : List (List Transaction)) :
    backfillMaximum decimal (chunks.map fun transactions => transactions.map fun t =>
        .str (toString t.id)) =
      (chunks.foldl (fun best transactions => laterId (maxTransactionId transactions) best)
        none).map toString := by
  induction chunks using List.reverseRecOn with
  | nil => rfl
  | append_singleton chunks transactions ih =>
      rw [backfillMaximum, List.map_append, List.foldl_append, List.foldl_append]
      simp only [List.map_cons, List.map_nil, List.foldl_cons, List.foldl_nil]
      rw [← backfillMaximum, ih, maxChunkTransactionId_map, laterTransactionId_map]

end numbered

end OandaV3
