import OandaV3.Dict
import OandaV3.Models
import OandaV3.Pieces

/-! # Instrument names

`normalize_instrument` of `core/instrument_registry.py`: an alias is looked up before the separators of
a name are cleaned, so that the cleaned name may be an alias, may be empty, or may begin or end with a
space.

* `normalizeInstrument_idem_iff`: the names that normalizing twice leaves as they are, and with them the
  paths of `CandleCsvStore.path_for` that belong to the instrument looked up.

The case mappings and classes of characters are those of a `UnicodeTable`: they are known on ASCII, and
obey its laws on all characters. -/

namespace OandaV3

open Pieces

namespace UnicodeTable

variable (u : UnicodeTable)

/-! ### Normalizing a name -/

/-- `INSTRUMENT_ALIASES`. -/
def instrumentAliases : List (String × String) :=
  [("spx500usd", "SPX500_USD"), ("spx500", "SPX500_USD"), ("spx", "SPX500_USD"),
   ("us500", "SPX500_USD"), ("us500usd", "SPX500_USD"), ("silver", "XAG_USD"), ("oil", "WTICO_USD"),
   ("btc", "BTC_USD"), ("eth", "ETH_USD")]

/-- `INSTRUMENT_ALIASES.get(candidate.casefold())`. -/
def aliasMatch (candidate : List Char) : Option String :=
  instrumentAliases.lookup (String.ofList (u.casefoldText candidate))

/-- `.replace("/", "_").replace("-", "_").replace(" ", "_")` on one character. -/
def replaceSeparator (c : Char) : Char := if c = '/' ∨ c = '-' ∨ c = ' ' then '_' else c

/-- The parts of a name: `part for part in normalized.split("_") if part`. -/
def nameParts (candidate : List Char) : List (List Char) :=
  pieces '_' ((u.upperText candidate).map replaceSeparator)

/-- A name of two currencies without a separator. -/
def isPair (normalized : List Char) : Bool :=
  normalized.all u.isAlpha && normalized.length == 6

/-- A name that ends with a currency, without a separator. -/
def endsWithCurrency (normalized : List Char) : Bool :=
  decide (6 < normalized.length) &&
    (normalized.drop (normalized.length - 3)).all u.isAlpha &&
    (normalized.take (normalized.length - 3)).all u.isAlnum

/-- The separator put into a name without one. -/
def splitCurrency (normalized : List Char) : List Char :=
  if '_' ∈ normalized then normalized
  else if u.isPair normalized then normalized.take 3 ++ '_' :: normalized.drop 3
  else if u.endsWithCurrency normalized then
    normalized.take (normalized.length - 3) ++ '_' :: normalized.drop (normalized.length - 3)
  else normalized

/-- `normalize_instrument`. -/
def normalizeInstrument (instrument : String) : Except Exn String :=
  let candidate := Text.strip instrument
  if candidate = "" then .error (.valueError "Instrument cannot be empty.")
  else match u.aliasMatch candidate.toList with
    | some symbol => .ok symbol
    | none => .ok (String.ofList (u.splitCurrency (join '_' (u.nameParts candidate.toList))))

/-- `get_oanda_instrument_definition`, with the definitions of the registry and the catalog. -/
def getOandaInstrumentDefinition {δ : Type} (definitions : String → Option δ) (instrument : String) :
    Except Exn δ := do
  let resolved ← u.normalizeInstrument instrument
  match definitions resolved with
  | some definition => .ok definition
  | none => .error (.keyError ("Unknown live OANDA instrument '" ++ resolved ++ "'."))

/-- `validate_live_instrument`, with the symbol of a definition. -/
def validateLiveInstrument {δ : Type} (definitions : String → Option δ) (symbol : δ → String)
    (instrument : String) : Except Exn String :=
  (u.getOandaInstrumentDefinition definitions instrument).map symbol

/-- The `resolved_instrument` of `CandleCsvStore.path_for`. -/
def pathInstrument {δ : Type} (definitions : String → Option δ) (symbol : δ → String)
    (instrument : String) : Except Exn String := do
  u.validateLiveInstrument definitions symbol (← u.normalizeInstrument instrument)

/-! ### Parts of a name -/

/-- A part of a normalized name. -/
structure IsPart (part : List Char) : Prop where
  ne_nil : part ≠ []
  replaced : ∀ c ∈ part, c ≠ '_' ∧ replaceSeparator c = c
  upper : ∀ c ∈ part, u.upper c = [c]

variable {u}

theorem upperText_eq_self {text : List Char} (h : ∀ c ∈ text, u.upper c = [c]) :
    u.upperText text = text := by
  induction text with
  | nil => rfl
  | cons c text ih =>
      rw [List.forall_mem_cons] at h
      rw [upperText, List.flatMap_cons, h.1, List.singleton_append]
      exact congrArg (c :: ·) (ih h.2)

theorem isPart_of_mem {candidate part : List Char} (h : part ∈ u.nameParts candidate) :
    u.IsPart part := by
  obtain ⟨hne, hsep, hmade⟩ := mem_pieces h
  have hchar : ∀ c ∈ part, ∃ d ∈ u.upperText candidate, c = d ∧ replaceSeparator d = d := by
    intro c hc
    obtain ⟨d, hd, rfl⟩ := List.mem_map.mp (hmade c hc)
    by_cases hd' : d = '/' ∨ d = '-' ∨ d = ' '
    · rw [replaceSeparator, if_pos hd'] at hc
      exact absurd hc hsep
    · rw [replaceSeparator, if_neg hd']
      exact ⟨d, hd, rfl, if_neg hd'⟩
  refine ⟨hne, fun c hc => ?_, fun c hc => ?_⟩
  · obtain ⟨d, -, rfl, hd⟩ := hchar c hc
    exact ⟨fun hunderscore => hsep (hunderscore ▸ hc), hd⟩
  · obtain ⟨d, hd, rfl, -⟩ := hchar c hc
    obtain ⟨b, -, hb⟩ := List.mem_flatMap.mp hd
    exact u.upper_upper b c hb

/-- Cleaning a cleaned name changes nothing. -/
theorem nameParts_join {parts : List (List Char)} (h : ∀ part ∈ parts, u.IsPart part) :
    u.nameParts (join '_' parts) = parts := by
  have hchar : ∀ c ∈ join '_' parts, u.upper c = [c] ∧ replaceSeparator c = c := by
    intro c hc
    rcases mem_join hc with rfl | ⟨part, hpart, hc⟩
    · exact ⟨u.upper_ascii '_' (by decide), by decide⟩
    · exact ⟨(h part hpart).upper c hc, ((h part hpart).replaced c hc).2⟩
  have hmap : (join '_' parts).map replaceSeparator = join '_' parts :=
    (List.map_congr_left fun c hc => (hchar c hc).2).trans (List.map_id _)
  rw [nameParts, upperText_eq_self fun c hc => (hchar c hc).1, hmap]
  exact pieces_join fun part hpart =>
    ⟨(h part hpart).ne_nil, fun hmem => ((h part hpart).replaced _ hmem).1 rfl⟩

/-- An alias holds no underscore. -/
theorem aliasMatch_eq_none {candidate : List Char} (h : '_' ∈ candidate) :
    u.aliasMatch candidate = none := by
  have hkeys : ∀ entry ∈ instrumentAliases, '_' ∉ entry.1.toList := by decide
  have hmem : '_' ∈ u.casefoldText candidate := by
    refine List.mem_flatMap.mpr ⟨'_', h, ?_⟩
    rw [u.casefold_ascii '_' (by decide)]
    decide
  rw [aliasMatch, List.lookup_eq_none_iff]
  intro entry hentry
  have hne : String.ofList (u.casefoldText candidate) ≠ entry.1 := by
    intro hkey
    apply hkeys entry hentry
    rwa [← hkey, String.toList_ofList]
  simpa using hne

/-! ### Fixed points -/

/-- No space at either end. -/
def NoOuterSpace (text : List Char) : Prop :=
  (∀ c ∈ text.head?, Text.isSpace c = false) ∧ ∀ c ∈ text.getLast?, Text.isSpace c = false

/-- A name that is not split. -/
def IsWhole (u : UnicodeTable) (name : List Char) : Prop :=
  '_' ∈ name ∨ (u.isPair name = false ∧ u.endsWithCurrency name = false)

theorem splitCurrency_eq_self {name : List Char} (h : IsWhole u name) : u.splitCurrency name = name := by
  unfold splitCurrency
  rcases h with hmem | ⟨hpair, hends⟩
  · rw [if_pos hmem]
  · simp [hpair, hends]

theorem split_of_not_isWhole {name : List Char} (h : ¬ IsWhole u name) :
    '_' ∉ name ∧ (u.isPair name = true ∨ u.endsWithCurrency name = true) := by
  unfold IsWhole at h
  rw [not_or, not_and_or] at h
  simpa using h

/-- A cleaned name without outer spaces that is neither an alias nor split stays as it is. -/
theorem normalizeInstrument_fixed {parts : List (List Char)} (hne : parts ≠ [])
    (hparts : ∀ part ∈ parts, u.IsPart part) (hspace : NoOuterSpace (join '_' parts))
    (halias : u.aliasMatch (join '_' parts) = none) (hwhole : IsWhole u (join '_' parts)) :
    u.normalizeInstrument (String.ofList (join '_' parts)) = .ok (String.ofList (join '_' parts)) := by
  have hjoin : join '_' parts ≠ [] := join_ne_nil hne fun part hpart => (hparts part hpart).ne_nil
  have hstrip := Text.strip_eq_self hspace.1 hspace.2
  have hnonempty : String.ofList (join '_' parts) ≠ "" := by
    intro hempty
    rw [← String.toList_inj, String.toList_ofList] at hempty
    exact hjoin hempty
  unfold normalizeInstrument
  simp only [hstrip, if_neg hnonempty, String.toList_ofList, halias, nameParts_join hparts,
    splitCurrency_eq_self hwhole]

theorem normalizeInstrument_ok {instrument symbol : String}
    (h : u.normalizeInstrument instrument = .ok symbol) :
    u.aliasMatch (Text.strip instrument).toList = some symbol ∨
      (u.aliasMatch (Text.strip instrument).toList = none ∧ symbol =
        String.ofList (u.splitCurrency (join '_' (u.nameParts (Text.strip instrument).toList)))) := by
  unfold normalizeInstrument at h
  simp only at h
  split_ifs at h
  cases hmatch : u.aliasMatch (Text.strip instrument).toList with
  | some symbol' =>
      simp only [hmatch, Except.ok.injEq] at h
      exact Or.inl (congrArg some h)
  | none =>
      simp only [hmatch, Except.ok.injEq] at h
      exact Or.inr ⟨rfl, h.symm⟩

theorem alias_symbols : ∀ entry ∈ instrumentAliases,
    let parts := pieces '_' entry.2.toList
    parts ≠ [] ∧ join '_' parts = entry.2.toList ∧ '_' ∈ entry.2.toList ∧
      (∀ c ∈ entry.2.toList, Text.isSpace c = false) ∧
      ∀ part ∈ parts, part ≠ [] ∧ ∀ c ∈ part,
        (c ≠ '_' ∧ replaceSeparator c = c) ∧ c.toNat < 128 ∧ c.toUpper = c := by
  have hall : (instrumentAliases.all fun entry =>
      let parts := pieces '_' entry.2.toList
      !parts.isEmpty && join '_' parts == entry.2.toList && entry.2.toList.contains '_' &&
        entry.2.toList.all (fun c => !Text.isSpace c) &&
        parts.all fun part => !part.isEmpty && part.all fun c =>
          (c != '_' && replaceSeparator c == c) && decide (c.toNat < 128) && c.toUpper == c) = true := by
    decide +kernel
  intro entry hentry
  simpa [and_assoc] using List.all_eq_true.mp hall entry hentry

theorem exists_alias {candidate : List Char} {symbol : String}
    (h : u.aliasMatch candidate = some symbol) : ∃ entry ∈ instrumentAliases, entry.2 = symbol :=
  ⟨_, Dict.mem_of_lookup h, rfl⟩

theorem normalizeInstrument_alias {entry : String × String} (h : entry ∈ instrumentAliases) :
    u.normalizeInstrument entry.2 = .ok entry.2 := by
  obtain ⟨hne, hjoin, hunderscore, hspace, hparts⟩ := alias_symbols entry h
  have hfixed := normalizeInstrument_fixed (u := u) hne (fun part hpart =>
    ⟨(hparts part hpart).1, fun c hc => ((hparts part hpart).2 c hc).1, fun c hc => by
      obtain ⟨-, hascii, hupper⟩ := (hparts part hpart).2 c hc
      rw [u.upper_ascii c hascii, hupper]⟩)
  rw [hjoin, String.ofList_toList] at hfixed
  exact hfixed ⟨fun c hc => hspace c (List.mem_of_mem_head? hc),
    fun c hc => hspace c (List.mem_of_mem_getLast? hc)⟩ (aliasMatch_eq_none hunderscore)
    (Or.inl hunderscore)

theorem exists_join_cut {name : List Char} {n : ℕ} (hpos : 0 < n) (hlt : n < name.length) :
    ∃ base currency, base ≠ [] ∧ currency ≠ [] ∧ name = base ++ currency ∧
      name.take n ++ '_' :: name.drop n = join '_' [base, currency] := by
  refine ⟨name.take n, name.drop n, ?_, ?_, (List.take_append_drop n name).symm, ?_⟩
  · intro hnil
    have hlength := congrArg List.length hnil
    rw [List.length_take, List.length_nil] at hlength
    omega
  · intro hnil
    have hlength := congrArg List.length hnil
    rw [List.length_drop, List.length_nil] at hlength
    omega
  · rw [join_cons (List.cons_ne_nil _ _), join_singleton]

/-- A name without separator that is a pair or ends with a currency is split into two parts. -/
theorem splitCurrency_of_split {name : List Char} (hunderscore : '_' ∉ name)
    (h : u.isPair name = true ∨ u.endsWithCurrency name = true) :
    ∃ base currency, base ≠ [] ∧ currency ≠ [] ∧ name = base ++ currency ∧
      u.splitCurrency name = join '_' [base, currency] := by
  unfold splitCurrency
  rw [if_neg hunderscore]
  by_cases hpair : u.isPair name = true
  · have hlength : name.length = 6 := by
      unfold isPair at hpair
      simpa using (Bool.and_eq_true_iff.mp hpair).2
    rw [if_pos hpair]
    apply exists_join_cut <;> omega
  · have hends := h.resolve_left hpair
    have hlength : 6 < name.length := by
      unfold endsWithCurrency at hends
      simp only [Bool.and_eq_true, decide_eq_true_eq] at hends
      exact hends.1.1
    rw [if_neg hpair, if_pos hends]
    apply exists_join_cut <;> omega

theorem not_isSpace_of_split {name : List Char}
    (h : u.isPair name = true ∨ u.endsWithCurrency name = true) :
    ∀ c ∈ name, Text.isSpace c = false := by
  intro c hc
  rcases h with hpair | hends
  · unfold isPair at hpair
    simp only [Bool.and_eq_true, List.all_eq_true] at hpair
    exact u.isSpace_of_isAlpha c (hpair.1 c hc)
  · unfold endsWithCurrency at hends
    simp only [Bool.and_eq_true, List.all_eq_true] at hends
    rw [← List.take_append_drop (name.length - 3) name, List.mem_append] at hc
    rcases hc with hbase | hcurrency
    · exact u.isSpace_of_isAlnum c (hends.2 c hbase)
    · exact u.isSpace_of_isAlpha c (hends.1.2 c hcurrency)

/-- A cleaned name with an outer space does not stay as it is. -/
theorem normalizeInstrument_ne_of_space {name : List Char} (hupper : ∀ c ∈ name, u.upper c = [c])
    (hspace : (∃ c ∈ name.head?, Text.isSpace c = true) ∨ ∃ c ∈ name.getLast?, Text.isSpace c = true) :
    u.normalizeInstrument (String.ofList name) ≠ .ok (String.ofList name) := by
  intro hfixed
  have hmem : ∃ c ∈ name, Text.isSpace c = true := by
    rcases hspace with ⟨c, hc, hspace⟩ | ⟨c, hc, hspace⟩
    · exact ⟨c, List.mem_of_mem_head? hc, hspace⟩
    · exact ⟨c, List.mem_of_mem_getLast? hc, hspace⟩
  obtain ⟨c, hc, hcspace⟩ := hmem
  have hshort := Text.length_strip_lt hspace
  have hsub := Text.strip_sublist name
  rcases normalizeInstrument_ok hfixed with halias | ⟨-, hname⟩
  · obtain ⟨entry, hentry, hsymbol⟩ := exists_alias halias
    have hnone := (alias_symbols entry hentry).2.2.2.1 c (by rwa [hsymbol, String.toList_ofList])
    rw [hcspace] at hnone
    cases hnone
  · rw [← String.toList_inj, String.toList_ofList, String.toList_ofList] at hname
    have hclean : (u.upperText (Text.strip (String.ofList name)).toList) =
        (Text.strip (String.ofList name)).toList :=
      upperText_eq_self fun c hc => hupper c (hsub.subset hc)
    have hlength := length_join_pieces_le '_'
      ((u.upperText (Text.strip (String.ofList name)).toList).map replaceSeparator)
    rw [List.length_map, hclean] at hlength
    by_cases hwhole : IsWhole u (join '_' (u.nameParts (Text.strip (String.ofList name)).toList))
    · rw [splitCurrency_eq_self hwhole] at hname
      have hle := congrArg List.length hname
      unfold nameParts at hle
      rw [hclean] at hle
      omega
    · obtain ⟨hunderscore, hsplit⟩ := split_of_not_isWhole hwhole
      obtain ⟨base, currency, -, -, hparts, hjoin⟩ := splitCurrency_of_split hunderscore hsplit
      have hnospace := not_isSpace_of_split hsplit
      rw [hparts] at hnospace
      rw [hname, hjoin] at hc
      rcases mem_join hc with rfl | ⟨part, hpart, hcpart⟩
      · cases hcspace
      · have hnone : Text.isSpace c = false := by
          apply hnospace
          rw [List.mem_append]
          rcases List.mem_cons.mp hpart with rfl | hcurrency
          · exact Or.inl hcpart
          · exact Or.inr (List.mem_singleton.mp hcurrency ▸ hcpart)
        rw [hcspace] at hnone
        cases hnone

variable (u)

/-- The name is an alias; or it has parts, the first of which does not begin and the last of which does
not end with a space, and which are not one part that is an alias and not split. -/
def StaysNormalized (instrument : String) : Prop :=
  let candidate := (Text.strip instrument).toList
  let parts := u.nameParts candidate
  u.aliasMatch candidate ≠ none ∨
    (parts ≠ [] ∧ NoOuterSpace parts.flatten ∧
      ∀ part, parts = [part] →
        u.aliasMatch part = none ∨ u.isPair part = true ∨ u.endsWithCurrency part = true)

variable {u}

theorem exists_outerSpace {text : List Char} (h : ¬ NoOuterSpace text) :
    (∃ c ∈ text.head?, Text.isSpace c = true) ∨ ∃ c ∈ text.getLast?, Text.isSpace c = true := by
  unfold NoOuterSpace at h
  by_contra hnone
  push Not at hnone
  apply h
  exact ⟨fun c hc => Bool.eq_false_of_not_eq_true (hnone.1 c hc),
    fun c hc => Bool.eq_false_of_not_eq_true (hnone.2 c hc)⟩

theorem upper_join {parts : List (List Char)} (h : ∀ part ∈ parts, u.IsPart part) :
    ∀ c ∈ join '_' parts, u.upper c = [c] := by
  intro c hc
  rcases mem_join hc with rfl | ⟨part, hpart, hc⟩
  · exact u.upper_ascii '_' (by decide)
  · exact (h part hpart).upper c hc

theorem normalizeInstrument_several {parts : List (List Char)} (hne : parts ≠ [])
    (hparts : ∀ part ∈ parts, u.IsPart part) (hunderscore : '_' ∈ join '_' parts) :
    u.normalizeInstrument (String.ofList (join '_' parts)) = .ok (String.ofList (join '_' parts)) ↔
      NoOuterSpace (join '_' parts) := by
  constructor
  · intro hfixed
    by_contra hspace
    exact normalizeInstrument_ne_of_space (upper_join hparts) (exists_outerSpace hspace) hfixed
  · intro hspace
    exact normalizeInstrument_fixed hne hparts hspace (aliasMatch_eq_none hunderscore)
      (Or.inl hunderscore)

/-- One part that is not split stays as it is when it is no alias and has no space at the ends. -/
theorem normalizeInstrument_single {part : List Char} (hpart : u.IsPart part)
    (hwhole : u.isPair part = false ∧ u.endsWithCurrency part = false) :
    u.normalizeInstrument (String.ofList part) = .ok (String.ofList part) ↔
      NoOuterSpace part ∧ u.aliasMatch part = none := by
  have hparts : ∀ p ∈ [part], u.IsPart p := fun p hp => List.mem_singleton.mp hp ▸ hpart
  constructor
  · intro hfixed
    have hspace : NoOuterSpace part := by
      by_contra hspace
      exact normalizeInstrument_ne_of_space hpart.upper (exists_outerSpace hspace) hfixed
    refine ⟨hspace, ?_⟩
    rcases normalizeInstrument_ok hfixed with halias | ⟨hnone, -⟩
    · obtain ⟨entry, hentry, hsymbol⟩ := exists_alias halias
      have hunderscore := (alias_symbols entry hentry).2.2.1
      rw [hsymbol, String.toList_ofList] at hunderscore
      exact absurd rfl (hpart.replaced '_' hunderscore).1
    · rwa [Text.strip_eq_self hspace.1 hspace.2, String.toList_ofList] at hnone
  · rintro ⟨hspace, halias⟩
    have hfixed := normalizeInstrument_fixed (List.cons_ne_nil part []) hparts
    rw [join_singleton] at hfixed
    exact hfixed hspace halias (Or.inr hwhole)

theorem normalizeInstrument_split {part : List Char} (hpart : u.IsPart part)
    (hsplit : u.isPair part = true ∨ u.endsWithCurrency part = true) :
    u.normalizeInstrument (String.ofList (u.splitCurrency part)) =
      .ok (String.ofList (u.splitCurrency part)) := by
  have hspaces := not_isSpace_of_split hsplit
  have hunderscore : '_' ∉ part := fun hmem => (hpart.replaced '_' hmem).1 rfl
  obtain ⟨base, currency, hbase, hcurrency, rfl, hjoin⟩ := splitCurrency_of_split hunderscore hsplit
  rw [hjoin]
  have hparts : ∀ p ∈ [base, currency], u.IsPart p := by
    intro p hp
    have hsub : ∀ c ∈ p, c ∈ base ++ currency := by
      intro c hc
      rw [List.mem_append]
      rcases List.mem_cons.mp hp with rfl | hp
      · exact Or.inl hc
      · exact Or.inr (List.mem_singleton.mp hp ▸ hc)
    have hne : p ≠ [] := by
      rcases List.mem_cons.mp hp with rfl | hp
      · exact hbase
      · exact List.mem_singleton.mp hp ▸ hcurrency
    exact ⟨hne, fun c hc => hpart.replaced c (hsub c hc), fun c hc => hpart.upper c (hsub c hc)⟩
  refine (normalizeInstrument_several (List.cons_ne_nil _ _) hparts sep_mem_join).mpr ⟨?_, ?_⟩
  · intro c hc
    rw [head?_join hbase] at hc
    exact hspaces c (List.mem_append_left _ (List.mem_of_mem_head? hc))
  · intro c hc
    have hlast : (join '_' ([base] ++ [currency])).getLast? = currency.getLast? :=
      getLast?_join hcurrency
    rw [List.singleton_append] at hlast
    rw [hlast] at hc
    exact hspaces c (List.mem_append_right _ (List.mem_of_mem_getLast? hc))

/-- A name that is no alias is normalized to its parts; when they stay as they are. -/
theorem normalizeInstrument_parts_iff {parts : List (List Char)}
    (hparts : ∀ part ∈ parts, u.IsPart part) :
    u.normalizeInstrument (String.ofList (u.splitCurrency (join '_' parts))) =
        .ok (String.ofList (u.splitCurrency (join '_' parts))) ↔
      parts ≠ [] ∧ NoOuterSpace (join '_' parts) ∧ ∀ part, parts = [part] →
        u.aliasMatch part = none ∨ u.isPair part = true ∨ u.endsWithCurrency part = true := by
  rcases parts with _ | ⟨first, _ | ⟨second, rest⟩⟩
  · have hempty : u.normalizeInstrument (String.ofList (u.splitCurrency (join '_' []))) =
        .error (.valueError "Instrument cannot be empty.") := rfl
    rw [hempty]
    simp
  · have hfirst := hparts first List.mem_cons_self
    simp only [join_singleton, ne_eq, List.cons_ne_nil, not_false_eq_true, true_and,
      List.cons.injEq, and_true, forall_eq']
    by_cases hsplit : u.isPair first = true ∨ u.endsWithCurrency first = true
    · have hspaces := not_isSpace_of_split hsplit
      refine iff_of_true (normalizeInstrument_split hfirst hsplit) ⟨⟨?_, ?_⟩, Or.inr hsplit⟩
      · exact fun c hc => hspaces c (List.mem_of_mem_head? hc)
      · exact fun c hc => hspaces c (List.mem_of_mem_getLast? hc)
    · have hwhole : u.isPair first = false ∧ u.endsWithCurrency first = false := by
        simpa [not_or] using hsplit
      rw [splitCurrency_eq_self (Or.inr hwhole), normalizeInstrument_single hfirst hwhole]
      simp [hsplit]
  · rw [splitCurrency_eq_self (Or.inl sep_mem_join),
      normalizeInstrument_several (List.cons_ne_nil _ _) hparts sep_mem_join]
    simp

/-- A name that stays as it is resolves to the same instrument when it is normalized once more. -/
theorem pathInstrument_eq {instrument symbol : String}
    (h : u.normalizeInstrument instrument = .ok symbol)
    (hfixed : u.normalizeInstrument symbol = .ok symbol) {δ : Type} (definitions : String → Option δ)
    (symbolOf : δ → String) :
    u.pathInstrument definitions symbolOf instrument =
      u.validateLiveInstrument definitions symbolOf instrument := by
  have hlookup : u.getOandaInstrumentDefinition definitions symbol =
      u.getOandaInstrumentDefinition definitions instrument := by
    unfold getOandaInstrumentDefinition
    rw [h, hfixed]
  have hpath : u.pathInstrument definitions symbolOf instrument =
      u.validateLiveInstrument definitions symbolOf symbol := by
    unfold pathInstrument
    rw [h]
    rfl
  rw [hpath]
  exact congrArg (Except.map symbolOf) hlookup

/-- **Normalizing twice.** The symbol of an accepted name is normalized to itself, and the path of a file
is that of the instrument which the catalog finds, exactly when the name `StaysNormalized`. -/
theorem normalizeInstrument_idem_iff (u : UnicodeTable) (instrument symbol : String)
    (h : u.normalizeInstrument instrument = .ok symbol) :
    (u.normalizeInstrument symbol = .ok symbol ∧
      ∀ (δ : Type) (definitions : String → Option δ) (symbolOf : δ → String),
        u.pathInstrument definitions symbolOf instrument =
          u.validateLiveInstrument definitions symbolOf instrument) ↔
      u.StaysNormalized instrument := by
  have hchain : u.normalizeInstrument symbol = .ok symbol ↔ u.StaysNormalized instrument := by
    unfold StaysNormalized
    rcases normalizeInstrument_ok h with halias | ⟨hnone, rfl⟩
    · obtain ⟨entry, hentry, rfl⟩ := exists_alias halias
      have hsome : u.aliasMatch (Text.strip instrument).toList ≠ none := by
        rw [halias]
        exact Option.some_ne_none _
      exact iff_of_true (normalizeInstrument_alias hentry) (Or.inl hsome)
    · have hparts : ∀ part ∈ u.nameParts (Text.strip instrument).toList, u.IsPart part :=
        fun part hpart => isPart_of_mem hpart
      have hne : ∀ part ∈ u.nameParts (Text.strip instrument).toList, part ≠ [] :=
        fun part hpart => (hparts part hpart).ne_nil
      rw [normalizeInstrument_parts_iff hparts, NoOuterSpace, head?_join_eq_flatten hne,
        getLast?_join_eq_flatten hne]
      simp [hnone, NoOuterSpace]
  rw [← hchain]
  exact ⟨fun hboth => hboth.1, fun hfixed => ⟨hfixed, fun _ => pathInstrument_eq h hfixed⟩⟩

theorem normalizeInstrument_idem_iff_pair :
    ascii.normalizeInstrument " eur/usd" = .ok "EUR_USD" ∧
      (ascii.normalizeInstrument "EUR_USD" = .ok "EUR_USD" ∧
        ∀ (δ : Type) (definitions : String → Option δ) (symbolOf : δ → String),
          ascii.pathInstrument definitions symbolOf " eur/usd" =
            ascii.validateLiveInstrument definitions symbolOf " eur/usd") := by
  have haccepted : ascii.normalizeInstrument " eur/usd" = .ok "EUR_USD" := by decide +kernel
  have hstays : ascii.StaysNormalized " eur/usd" := by
    right
    have hparts : ascii.nameParts (Text.strip " eur/usd").toList = ["EUR".toList, "USD".toList] := by
      decide +kernel
    rw [hparts]
    refine ⟨List.cons_ne_nil _ _, ⟨?_, ?_⟩, ?_⟩
    · intro c hc
      obtain rfl := Option.some.inj hc
      rfl
    · intro c hc
      obtain rfl := Option.some.inj hc
      rfl
    · intro part hpart
      cases (List.cons.inj hpart).2
  exact ⟨haccepted, (normalizeInstrument_idem_iff ascii " eur/usd" "EUR_USD" haccepted).mpr hstays⟩

/-- A cleaned name may be an alias, and it may be empty. -/
theorem normalizeInstrument_changes :
    (ascii.normalizeInstrument "/spx" = .ok "SPX" ∧
        ascii.normalizeInstrument "SPX" = .ok "SPX500_USD") ∧
      (ascii.normalizeInstrument "/" = .ok "" ∧
        ascii.normalizeInstrument "" = .error (.valueError "Instrument cannot be empty.")) := by
  decide +kernel

end UnicodeTable

end OandaV3
