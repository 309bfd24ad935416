import Mathlib.Data.List.Infix
import OandaV3.CloseReasons
import OandaV3.InstrumentNames
import OandaV3.JsonRoundTrip

/-! # Evidence of a close

`infer_close_reason` of `journal/close_reasons.py`, on evidence that may be JSON text: a string that
starts like an object or an array is decoded, and the strings in it may be JSON texts again.  The limits
of the interpreter on the depth of a value and the digits of an integer are not modelled.

* `collectEvidence_decoded`: a string that holds JSON counts as what it holds.
* `perm_collectWith`: the order of items and fields is the order of the texts found.
* `hasText_serialized`: the JSON text of a payload holds the texts of the payload, and those of its dates
  and decimals, which are evidence of nothing.
* `rank_reasonOf_le`: more texts never move the reason down.
* `inferCloseReason_spec`: the three together.
* `inferCloseReason_of_represents`: on evidence that is decoded already, the inference of the journal's
  model. -/

namespace OandaV3

open JsonText

/-! ### Payloads -/

/-- The characters of `datetime.isoformat()` and of `str` of a `Decimal`. -/
def isStampChar (c : Char) : Bool := "0123456789+-.:TEINafinsty".toList.contains c

/-- A `datetime` or a `Decimal`, by the text that is written for it. -/
structure Stamp where
  text : String
  chars : text.toList.all isStampChar = true

/-- `_json_default`; a payload has no leaf of another type. -/
def jsonDefault (value : Stamp) : String := value.text

abbrev Evidence := JsonText.Value Stamp

/-- `_serialize_raw_json`. -/
def serializeRawJson (payload : List (String × Evidence)) : String := dumps jsonDefault (.obj payload)

/-! ### Collecting evidence -/

/-- `isinstance(value, (Mapping, list, tuple, set))`. -/
def isContainer : Evidence → Bool
  | .arr _ | .obj _ => true
  | _ => false

/-- `_decode_json`. -/
def decodeJson (value : String) : Option Evidence :=
  if value.toList.head? = some '{' ∨ value.toList.head? = some '[' then loads value.toList else none

mutual
/-- `_collect_evidence`, with what it does on a string. -/
def collectWith (onText : String → List String) : Evidence → List String
  | .str s => onText s
  | .obj fields => collectMapping onText fields
  | .arr items => collectSequence onText items
  | .null | .bool _ | .num _ | .foreign _ => []
def collectMapping (onText : String → List String) : List (String × Evidence) → List String
  | [] => []
  | (key, value) :: fields =>
      (if isEvidenceKey key then collectWith onText value
       else if isContainer value then collectWith onText value
       else []) ++ collectMapping onText fields
def collectSequence (onText : String → List String) : List Evidence → List String
  | [] => []
  | item :: items => collectWith onText item ++ collectSequence onText items
end

/-- The reason that the levels and the texts found give. -/
def reasonOf (closePrice : ℚ) (slPrice tpPrice : Option ℚ) (evidence : List String) : CloseReason :=
  if evidence.any (Text.contains "STOP") || matchesLevel closePrice slPrice then .SL_HIT
  else if evidence.any (fun item => Text.contains "TAKE" item || Text.contains "TP" item) ||
      matchesLevel closePrice tpPrice then .TP_HIT
  else if evidence.any (Text.contains "MARKET_IF_TOUCHED") then .MIT
  else .MANUAL

theorem inferCloseReason_eq_reasonOf (closePrice : ℚ) (slPrice tpPrice : Option ℚ) (rawReason : Json)
    (sources : List Json) :
    inferCloseReason closePrice slPrice tpPrice rawReason sources =
      reasonOf closePrice slPrice tpPrice
        (OandaV3.collectEvidence rawReason ++ sources.flatMap OandaV3.collectEvidence) := rfl

namespace UnicodeTable

variable (u : UnicodeTable)

/-- `_collect_evidence` of a string.  The strings in a JSON text are shorter than the text, so that the
length of the string is fuel enough. -/
def textEvidence : ℕ → String → List String
  | 0, _ => []
  | n + 1, s =>
      if Text.isBlank s then []
      else match decodeJson (Text.strip s) with
        | some decoded => collectWith (textEvidence n) decoded
        | none => [String.ofList (u.upperText (Text.strip s).toList)]

/-- `_collect_evidence`. -/
def collectEvidence : Evidence → List String :=
  collectWith fun s => u.textEvidence (s.toList.length + 1) s

/-- `infer_close_reason`. -/
def inferCloseReason (closePrice : ℚ) (slPrice tpPrice : Option ℚ) (rawReason : Evidence)
    (evidenceSources : List Evidence) : CloseReason :=
  reasonOf closePrice slPrice tpPrice
    (u.collectEvidence rawReason ++ evidenceSources.flatMap u.collectEvidence)

end UnicodeTable

/-! ### Texts found -/

section collectWith

variable {onText onText' : String → List String}

theorem collectSequence_eq_flatMap (items : List Evidence) :
    collectSequence onText items = items.flatMap (collectWith onText) := by
  induction items with
  | nil => rw [collectSequence, List.flatMap_nil]
  | cons item items ih => rw [collectSequence, ih, List.flatMap_cons]

/-- What one field of a mapping holds. -/
def collectField (onText : String → List String) (field : String × Evidence) : List String :=
  if isEvidenceKey field.1 || isContainer field.2 then collectWith onText field.2 else []

theorem collectMapping_eq_flatMap (fields : List (String × Evidence)) :
    collectMapping onText fields = fields.flatMap (collectField onText) := by
  induction fields with
  | nil => rw [collectMapping, List.flatMap_nil]
  | cons field fields ih =>
      rw [collectMapping, ih, List.flatMap_cons, collectField]
      cases isEvidenceKey field.1 <;> rfl

/-- Only the strings of a value matter. -/
theorem collectWith_congr {v : Evidence} (h : ∀ s ∈ v.texts, onText s = onText' s) :
    collectWith onText v = collectWith onText' v := by
  induction v using Value.induction with
  | null => rfl
  | bool b => rfl
  | num literal => rfl
  | str s =>
      rw [collectWith, collectWith]
      exact h s List.mem_cons_self
  | foreign a => rfl
  | arr items ih =>
      rw [collectWith, collectWith, collectSequence_eq_flatMap, collectSequence_eq_flatMap]
      refine List.flatMap_congr fun item hitem => ih item hitem fun s hs => h s ?_
      rw [Value.texts, Value.itemTexts_eq_flatMap]
      exact List.mem_flatMap.mpr ⟨item, hitem, hs⟩
  | obj fields ih =>
      rw [collectWith, collectWith, collectMapping_eq_flatMap, collectMapping_eq_flatMap]
      refine List.flatMap_congr fun field hfield => ?_
      rw [collectField, collectField, ih field hfield fun s hs => h s ?_]
      rw [Value.texts, Value.fieldTexts_eq_flatMap]
      exact List.mem_flatMap.mpr ⟨field, hfield, hs⟩

theorem isContainer_of_reordered {v w : Evidence} (h : Reordered v w) : isContainer v = isContainer w := by
  induction h with
  | refl v => rfl
  | trans _ _ ih ih' => exact ih.trans ih'
  | items => rfl
  | fields => rfl
  | item => rfl
  | field => rfl

theorem perm_collectWith {v w : Evidence} (h : Reordered v w) :
    (collectWith onText v).Perm (collectWith onText w) := by
  induction h with
  | refl v => exact List.Perm.refl _
  | trans _ _ ih ih' => exact ih.trans ih'
  | items hperm =>
      rw [collectWith, collectWith, collectSequence_eq_flatMap, collectSequence_eq_flatMap]
      exact hperm.flatMap_right _
  | fields hperm =>
      rw [collectWith, collectWith, collectMapping_eq_flatMap, collectMapping_eq_flatMap]
      exact hperm.flatMap_right _
  | item before after _ ih =>
      rw [collectWith, collectWith, collectSequence_eq_flatMap, collectSequence_eq_flatMap,
        List.flatMap_append, List.flatMap_append, List.flatMap_cons, List.flatMap_cons]
      exact (ih.append_right _).append_left _
  | field before after key hreordered ih =>
      rw [collectWith, collectWith, collectMapping_eq_flatMap, collectMapping_eq_flatMap,
        List.flatMap_append, List.flatMap_append, List.flatMap_cons, List.flatMap_cons]
      refine (List.Perm.append_right _ ?_).append_left _
      rw [collectField, collectField, isContainer_of_reordered hreordered]
      split_ifs
      · exact ih
      · exact List.Perm.refl _

end collectWith

/-! ### Decoding goes on -/

section decoding

variable (u : UnicodeTable)

theorem length_strip_le (s : String) : (Text.strip s).toList.length ≤ s.toList.length := by
  have hlength := (Text.strip_sublist s.toList).length_le
  rwa [String.ofList_toList] at hlength

theorem length_lt_of_decodeJson {s t : String} {v : Evidence} (h : decodeJson (Text.strip s) = some v)
    (ht : t ∈ v.texts) : t.toList.length < s.toList.length := by
  unfold decodeJson at h
  split_ifs at h
  exact (length_lt_of_loads h ht).trans_le (length_strip_le s)

/-- More fuel makes no difference. -/
theorem textEvidence_succ {n : ℕ} {s : String} (h : s.toList.length < n) :
    u.textEvidence (n + 1) s = u.textEvidence n s := by
  induction n generalizing s with
  | zero => omega
  | succ n ih =>
      rw [UnicodeTable.textEvidence]
      conv_rhs => rw [UnicodeTable.textEvidence]
      split_ifs
      · rfl
      · cases hdecoded : decodeJson (Text.strip s) with
        | none => rfl
        | some v =>
            refine collectWith_congr fun t ht => ih ?_
            have hlt := length_lt_of_decodeJson hdecoded ht
            omega

theorem textEvidence_fuel {n : ℕ} {s : String} (h : s.toList.length + 1 ≤ n) :
    u.textEvidence n s = u.textEvidence (s.toList.length + 1) s := by
  induction n, h using Nat.le_induction with
  | base => rfl
  | succ n hn ih => rw [textEvidence_succ u hn, ih]

theorem collectEvidence_blank {s : String} (hblank : Text.isBlank s = true) :
    u.collectEvidence (.str s) = [] := by
  rw [UnicodeTable.collectEvidence, collectWith, UnicodeTable.textEvidence, if_pos hblank]

/-- `_collect_evidence` of a string that is not decoded. -/
theorem collectEvidence_text {s : String} (hblank : Text.isBlank s = false)
    (hdecoded : decodeJson (Text.strip s) = none) :
    u.collectEvidence (.str s) = [String.ofList (u.upperText (Text.strip s).toList)] := by
  rw [UnicodeTable.collectEvidence, collectWith, UnicodeTable.textEvidence, hblank,
    if_neg Bool.false_ne_true, hdecoded]

/-- `_collect_evidence` of a string that is decoded. -/
theorem collectEvidence_decoded {s : String} {v : Evidence} (hblank : Text.isBlank s = false)
    (hdecoded : decodeJson (Text.strip s) = some v) :
    u.collectEvidence (.str s) = u.collectEvidence v := by
  rw [UnicodeTable.collectEvidence, collectWith, UnicodeTable.textEvidence, hblank,
    if_neg Bool.false_ne_true, hdecoded]
  refine collectWith_congr fun t ht => textEvidence_fuel u ?_
  exact length_lt_of_decodeJson hdecoded ht

end decoding

/-! ### Decoded evidence -/

mutual
/-- The value has the parts of the evidence: a string that is not decoded is the same ASCII string, and one
that is decoded is `encoded` what it holds. -/
def Represents : Json → Evidence → Prop
  | .null, .null => True
  | .bool a, .bool b => a = b
  | .num _, .num _ => True
  | .str s, .str t => s = t ∧ decodeJson (Text.strip s) = none ∧ ∀ c ∈ (Text.strip s).toList, c.toNat < 128
  | .encoded j, .str s => ∃ v, decodeJson (Text.strip s) = some v ∧ Represents j v
  | .arr items, .arr values => RepresentsItems items values
  | .obj fields, .obj values => RepresentsFields fields values
  | _, _ => False
def RepresentsItems : List Json → List Evidence → Prop
  | [], [] => True
  | j :: items, v :: values => Represents j v ∧ RepresentsItems items values
  | _, _ => False
def RepresentsFields : List (String × Json) → List (String × Evidence) → Prop
  | [], [] => True
  | (key, j) :: fields, (key', v) :: values => key = key' ∧ Represents j v ∧ RepresentsFields fields values
  | _, _ => False
end

section represents

variable (u : UnicodeTable)

theorem isContainer_of_represents {j : Json} {v : Evidence} (h : Represents j v) :
    isContainer v = j.isContainer := by
  cases j <;> cases v <;> first | rfl | exact (h.elim)

theorem isBlank_of_decodeJson {s : String} {v : Evidence} (h : decodeJson (Text.strip s) = some v) :
    Text.isBlank s = false := by
  rw [← Text.isBlank_strip, Text.isBlank, List.all_eq_false]
  have hhead : ∃ c, (Text.strip s).toList.head? = some c ∧ Text.isSpace c = false := by
    unfold decodeJson at h
    split_ifs at h with hbracket
    rcases hbracket with hbrace | hbracket
    · exact ⟨_, hbrace, by decide⟩
    · exact ⟨_, hbracket, by decide⟩
  obtain ⟨c, hc, hspace⟩ := hhead
  exact ⟨c, List.mem_of_head? hc, by rw [hspace]; exact Bool.false_ne_true⟩

mutual
theorem collectEvidence_of_represents :
    ∀ (j : Json) (v : Evidence), Represents j v → u.collectEvidence v = OandaV3.collectEvidence j
  | .null, .null, _ => rfl
  | .bool _, .bool _, _ => rfl
  | .num _, .num _, _ => rfl
  | .str s, .str t, h => by
      obtain ⟨rfl, hdecoded, hascii⟩ := h
      rw [OandaV3.collectEvidence]
      cases hblank : Text.isBlank s with
      | true => rw [collectEvidence_blank u hblank, if_pos rfl]
      | false =>
          rw [collectEvidence_text u hblank hdecoded, if_neg Bool.false_ne_true]
          exact congrArg (fun text => [text]) (u.upperString_of_ascii hascii)
  | .encoded j, .str s, h => by
      obtain ⟨v, hdecoded, hv⟩ := h
      rw [collectEvidence_decoded u (isBlank_of_decodeJson hdecoded) hdecoded, OandaV3.collectEvidence]
      exact collectEvidence_of_represents j v hv
  | .arr items, .arr values, h => collectItems_of_represents items values h
  | .obj fields, .obj values, h => collectFields_of_represents fields values h
theorem collectItems_of_represents :
    ∀ (items : List Json) (values : List Evidence), RepresentsItems items values →
      collectSequence (fun s => u.textEvidence (s.toList.length + 1) s) values =
        OandaV3.collectEvidence.collectItems items
  | [], [], _ => rfl
  | j :: items, v :: values, h => by
      have hrest := collectItems_of_represents items values h.2
      have hv := collectEvidence_of_represents j v h.1
      rw [UnicodeTable.collectEvidence] at hv
      rw [collectSequence, hv, hrest, OandaV3.collectEvidence.collectItems]
theorem collectFields_of_represents :
    ∀ (fields : List (String × Json)) (values : List (String × Evidence)), RepresentsFields fields values →
      collectMapping (fun s => u.textEvidence (s.toList.length + 1) s) values =
        OandaV3.collectEvidence.collectFields fields
  | [], [], _ => rfl
  | (key, j) :: fields, (key', v) :: values, h => by
      obtain ⟨rfl, hv, hvalues⟩ := h
      have hrest := collectFields_of_represents fields values hvalues
      have hj := collectEvidence_of_represents j v hv
      rw [UnicodeTable.collectEvidence] at hj
      rw [collectMapping, hj, hrest, isContainer_of_represents hv, OandaV3.collectEvidence.collectFields]
      cases isEvidenceKey key <;> rfl
end

theorem collectItems_eq_flatMap (items : List Json) :
    OandaV3.collectEvidence.collectItems items = items.flatMap OandaV3.collectEvidence := by
  induction items with
  | nil => rfl
  | cons item items ih =>
      rw [OandaV3.collectEvidence.collectItems, ih, List.flatMap_cons]

/-- The journal's model of the inference, on decoded evidence, gives the reason of the evidence itself. -/
theorem inferCloseReason_of_represents (closePrice : ℚ) (slPrice tpPrice : Option ℚ) {rawReason : Json}
    {raw : Evidence} (hraw : Represents rawReason raw) {sources : List Json} {evidence : List Evidence}
    (hsources : RepresentsItems sources evidence) :
    u.inferCloseReason closePrice slPrice tpPrice raw evidence =
      OandaV3.inferCloseReason closePrice slPrice tpPrice rawReason sources := by
  have hitems := collectItems_of_represents u sources evidence hsources
  rw [collectSequence_eq_flatMap, collectItems_eq_flatMap] at hitems
  rw [UnicodeTable.inferCloseReason, inferCloseReason_eq_reasonOf, collectEvidence_of_represents u _ _ hraw,
    ← hitems]
  rfl

end represents

/-! ### Markers -/

/-- The texts that decide about a reason. -/
def markers : List String := ["STOP", "TAKE", "TP", "MARKET_IF_TOUCHED"]

def HasText (marker : String) (evidence : List String) : Prop :=
  ∃ item ∈ evidence, Text.contains marker item = true

def CloseReason.rank : CloseReason → ℕ
  | .MANUAL => 0
  | .MIT => 1
  | .TP_HIT => 2
  | .SL_HIT => 3

theorem rank_injective : Function.Injective CloseReason.rank := by
  intro reason reason' h
  cases reason <;> cases reason' <;> first | rfl | cases h

theorem any_contains_eq_true {marker : String} {evidence : List String} :
    evidence.any (Text.contains marker) = true ↔ HasText marker evidence := List.any_eq_true

theorem any_tp_eq_true {evidence : List String} :
    (evidence.any fun item => Text.contains "TAKE" item || Text.contains "TP" item) = true ↔
      HasText "TAKE" evidence ∨ HasText "TP" evidence := by
  simp only [List.any_eq_true, Bool.or_eq_true, HasText]
  grind

/-- More texts never move the reason down. -/
theorem rank_reasonOf_le {closePrice : ℚ} {slPrice tpPrice : Option ℚ} {evidence evidence' : List String}
    (h : ∀ marker ∈ markers, HasText marker evidence → HasText marker evidence') :
    (reasonOf closePrice slPrice tpPrice evidence).rank ≤
      (reasonOf closePrice slPrice tpPrice evidence').rank := by
  have hstop : evidence.any (Text.contains "STOP") = true →
      evidence'.any (Text.contains "STOP") = true := by
    rw [any_contains_eq_true, any_contains_eq_true]
    exact h "STOP" (by decide)
  have htp : (evidence.any fun item => Text.contains "TAKE" item || Text.contains "TP" item) = true →
      (evidence'.any fun item => Text.contains "TAKE" item || Text.contains "TP" item) = true := by
    rw [any_tp_eq_true, any_tp_eq_true]
    exact Or.imp (h "TAKE" (by decide)) (h "TP" (by decide))
  have hmit : evidence.any (Text.contains "MARKET_IF_TOUCHED") = true →
      evidence'.any (Text.contains "MARKET_IF_TOUCHED") = true := by
    rw [any_contains_eq_true, any_contains_eq_true]
    exact h "MARKET_IF_TOUCHED" (by decide)
  unfold reasonOf
  simp only [Bool.or_eq_true]
  -- the branches are in the order of the reasons: a branch the larger evidence does not take, the
  -- smaller one does not take either
  by_cases hsl' : evidence'.any (Text.contains "STOP") = true ∨ matchesLevel closePrice slPrice = true
  · rw [if_pos hsl']
    split_ifs <;> decide
  rw [if_neg hsl', if_neg fun hsl => hsl' (hsl.imp_left hstop)]
  by_cases htp' : (evidence'.any fun item => Text.contains "TAKE" item || Text.contains "TP" item) = true ∨
      matchesLevel closePrice tpPrice = true
  · rw [if_pos htp']
    split_ifs <;> decide
  rw [if_neg htp', if_neg fun htp'' => htp' (htp''.imp_left htp)]
  by_cases hmit' : evidence'.any (Text.contains "MARKET_IF_TOUCHED") = true
  · rw [if_pos hmit']
    split_ifs <;> decide
  · rw [if_neg hmit', if_neg fun hmit'' => hmit' (hmit hmit'')]

/-- Only the markers matter. -/
theorem reasonOf_congr {closePrice : ℚ} {slPrice tpPrice : Option ℚ} {evidence evidence' : List String}
    (h : ∀ marker ∈ markers, HasText marker evidence ↔ HasText marker evidence') :
    reasonOf closePrice slPrice tpPrice evidence = reasonOf closePrice slPrice tpPrice evidence' :=
  rank_injective (Nat.le_antisymm (rank_reasonOf_le fun marker hmarker => (h marker hmarker).mp)
    (rank_reasonOf_le fun marker hmarker => (h marker hmarker).mpr))

theorem hasText_append {marker : String} {evidence evidence' : List String} :
    HasText marker (evidence ++ evidence') ↔ HasText marker evidence ∨ HasText marker evidence' := by
  simp only [HasText, List.mem_append]
  grind

theorem hasText_flatMap {α : Type} {marker : String} {l : List α} {f : α → List String} :
    HasText marker (l.flatMap f) ↔ ∃ a ∈ l, HasText marker (f a) := by
  simp only [HasText, List.mem_flatMap]
  grind

theorem hasText_of_perm {marker : String} {evidence evidence' : List String}
    (h : evidence.Perm evidence') : HasText marker evidence ↔ HasText marker evidence' := by
  simp only [HasText, h.mem_iff]

/-! ### Dates and decimals -/

theorem mem_of_contains {needle s : String} (h : Text.contains needle s = true) {c : Char}
    (hc : c ∈ needle.toList) : c ∈ s.toList := by
  obtain ⟨tail, htail, hprefix⟩ := List.any_eq_true.mp h
  have hsuffix := (List.mem_tails _ _).mp htail
  exact hsuffix.subset ((List.isPrefixOf_iff_prefix.mp hprefix).subset hc)

theorem stampChar_ascii {c : Char} (h : isStampChar c = true) :
    c.toNat < 128 ∧ c.toUpper ≠ 'P' ∧ c.toUpper ≠ 'K' ∧ c ≠ '{' ∧ c ≠ '[' := by
  have hall : ("0123456789+-.:TEINafinsty".toList.all fun c =>
      decide (c.toNat < 128) && c.toUpper != 'P' && c.toUpper != 'K' && c != '{' && c != '[') = true := by
    decide
  have hc := List.all_eq_true.mp hall c (List.contains_iff_mem.mp h)
  simpa [and_assoc] using hc

/-- Every marker has a letter that no date or decimal has. -/
theorem marker_letter {marker : String} (h : marker ∈ markers) :
    'P' ∈ marker.toList ∨ 'K' ∈ marker.toList := by
  have hall : ∀ marker ∈ markers, 'P' ∈ marker.toList ∨ 'K' ∈ marker.toList := by decide
  exact hall marker h

variable (u : UnicodeTable)

theorem not_hasText_stamp {marker : String} (hmarker : marker ∈ markers) (value : Stamp) :
    ¬HasText marker (u.collectEvidence (.str (jsonDefault value))) := by
  have hstamp : ∀ c ∈ (Text.strip value.text).toList, isStampChar c = true := by
    intro c hc
    have hsub := (Text.strip_sublist value.text.toList).subset
    rw [String.ofList_toList] at hsub
    exact List.all_eq_true.mp value.chars c (hsub hc)
  have hdecode : decodeJson (Text.strip value.text) = none := by
    refine if_neg fun hhead => ?_
    rcases hhead with hhead | hhead
    · exact (stampChar_ascii (hstamp _ (List.mem_of_mem_head? hhead))).2.2.2.1 rfl
    · exact (stampChar_ascii (hstamp _ (List.mem_of_mem_head? hhead))).2.2.2.2 rfl
  rintro ⟨item, hitem, hcontains⟩
  cases hblank : Text.isBlank value.text with
  | true =>
      rw [jsonDefault, collectEvidence_blank u hblank] at hitem
      cases hitem
  | false =>
      rw [jsonDefault, collectEvidence_text u hblank hdecode] at hitem
      obtain rfl := List.mem_singleton.mp hitem
      have hletter : ∀ c ∈ marker.toList, ∃ d, isStampChar d = true ∧ c = d.toUpper := by
        intro c hc
        have hmem := mem_of_contains hcontains hc
        rw [String.toList_ofList, UnicodeTable.upperText] at hmem
        obtain ⟨d, hd, hupper⟩ := List.mem_flatMap.mp hmem
        rw [u.upper_ascii d (stampChar_ascii (hstamp d hd)).1] at hupper
        exact ⟨d, hstamp d hd, List.mem_singleton.mp hupper⟩
      rcases marker_letter hmarker with hP | hK
      · obtain ⟨d, hd, hupper⟩ := hletter _ hP
        exact (stampChar_ascii hd).2.1 hupper.symm
      · obtain ⟨d, hd, hupper⟩ := hletter _ hK
        exact (stampChar_ascii hd).2.2.1 hupper.symm

theorem isContainer_plain (v : Evidence) : isContainer (plain jsonDefault v) = isContainer v := by
  cases v <;> rfl

/-- Writing the dates and decimals as strings adds no marker. -/
theorem hasText_plain {marker : String} {onText : String → List String}
    (h : ∀ value : Stamp, ¬HasText marker (collectWith onText (.str (jsonDefault value)))) (v : Evidence) :
    HasText marker (collectWith onText (plain jsonDefault v)) ↔ HasText marker (collectWith onText v) := by
  induction v using Value.induction with
  | null => rfl
  | bool b => rfl
  | num literal => rfl
  | str s => rfl
  | foreign value =>
      have hnone : ¬HasText marker (collectWith onText (.foreign value)) := by
        rintro ⟨item, hitem, -⟩
        cases hitem
      exact iff_of_false (h value) hnone
  | arr items ih =>
      rw [plain, plainItems_eq_map, collectWith, collectWith, collectSequence_eq_flatMap,
        collectSequence_eq_flatMap, List.flatMap_map, hasText_flatMap, hasText_flatMap]
      exact exists_congr fun item => and_congr_right fun hitem => ih item hitem
  | obj fields ih =>
      rw [plain, plainFields_eq_map, collectWith, collectWith, collectMapping_eq_flatMap,
        collectMapping_eq_flatMap, List.flatMap_map, hasText_flatMap, hasText_flatMap]
      refine exists_congr fun field => and_congr_right fun hfield => ?_
      rw [collectField, collectField, isContainer_plain]
      split_ifs
      · exact ih field hfield
      · rfl

/-! ### The text of a payload -/

theorem renderFields_eq_concat (fields : List (String × Evidence)) :
    ∃ text, renderFields jsonDefault fields = text ++ ['}'] := by
  induction fields with
  | nil => exact ⟨[], rfl⟩
  | cons field fields ih =>
      obtain ⟨key, value⟩ := field
      obtain ⟨text, htext⟩ := ih
      refine ⟨',' :: (quote key.toList ++ ':' :: (render jsonDefault value ++ text)), ?_⟩
      rw [renderFields, htext]
      simp

theorem serializeRawJson_eq (payload : List (String × Evidence)) :
    ∃ text, (serializeRawJson payload).toList = '{' :: (text ++ ['}']) := by
  rw [serializeRawJson, dumps, String.toList_ofList, sortKeys]
  cases (sortFields payload).insertionSort fun field field' => field.1 ≤ field'.1 with
  | nil => exact ⟨[], rfl⟩
  | cons field fields =>
      obtain ⟨key, value⟩ := field
      obtain ⟨text, htext⟩ := renderFields_eq_concat fields
      refine ⟨quote key.toList ++ ':' :: (render jsonDefault value ++ text), ?_⟩
      rw [render, htext]
      simp

theorem collectEvidence_serialized {payload : List (String × Evidence)}
    (h : WellFormed (.obj payload)) :
    u.collectEvidence (.str (serializeRawJson payload)) =
      u.collectEvidence (plain jsonDefault (sortKeys (.obj payload))) := by
  obtain ⟨text, htext⟩ := serializeRawJson_eq payload
  have hstrip : Text.strip (serializeRawJson payload) = serializeRawJson payload := by
    rw [← String.ofList_toList (s := serializeRawJson payload), htext]
    refine Text.strip_eq_self (fun c hc => ?_) fun c hc => ?_
    · obtain rfl := Option.some.inj hc
      decide
    · rw [← List.cons_append, List.getLast?_concat] at hc
      obtain rfl := Option.some.inj hc
      decide
  refine collectEvidence_decoded u ?_ ?_
  · rw [Text.isBlank, htext, List.all_cons]
    rfl
  · rw [hstrip, decodeJson, if_pos (Or.inl (by rw [htext]; rfl)), serializeRawJson, loads_dumps _ h]

theorem hasText_serialized {marker : String} (hmarker : marker ∈ markers)
    {payload : List (String × Evidence)} (h : WellFormed (.obj payload)) :
    HasText marker (u.collectEvidence (.str (serializeRawJson payload))) ↔
      HasText marker (u.collectEvidence (.obj payload)) := by
  rw [collectEvidence_serialized u h]
  refine (hasText_plain (not_hasText_stamp u hmarker) _).trans ?_
  exact hasText_of_perm (perm_collectWith (reordered_sortKeys _)).symm

/-! ### The reason -/

/-- The same source: a payload and its text, or the same values in another order. -/
inductive SameSource : Evidence → Evidence → Prop
  | serialized {payload : List (String × Evidence)} (h : WellFormed (.obj payload)) :
      SameSource (.obj payload) (.str (serializeRawJson payload))
  | reordered {source source' : Evidence} (h : Reordered source source') : SameSource source source'

theorem hasText_of_sameSource {marker : String} (hmarker : marker ∈ markers) {source source' : Evidence}
    (h : SameSource source source') :
    HasText marker (u.collectEvidence source) ↔ HasText marker (u.collectEvidence source') := by
  cases h with
  | serialized hpayload => exact (hasText_serialized u hmarker hpayload).symm
  | reordered hreordered => exact hasText_of_perm (perm_collectWith hreordered)

theorem inferCloseReason_eq (closePrice : ℚ) (slPrice tpPrice : Option ℚ) (rawReason : Evidence)
    (sources : List Evidence) :
    u.inferCloseReason closePrice slPrice tpPrice rawReason sources =
      reasonOf closePrice slPrice tpPrice ((rawReason :: sources).flatMap u.collectEvidence) := rfl

theorem hasText_of_forall₂ {marker : String} (hmarker : marker ∈ markers) {sources sources' : List Evidence}
    (h : List.Forall₂ SameSource sources sources') :
    HasText marker (sources.flatMap u.collectEvidence) ↔
      HasText marker (sources'.flatMap u.collectEvidence) := by
  induction h with
  | nil => rfl
  | cons hsource _ ih =>
      rw [List.flatMap_cons, List.flatMap_cons, hasText_append, hasText_append, ih,
        hasText_of_sameSource u hmarker hsource]

/-- **The reason does not depend on how the evidence is written or ordered, and more evidence never moves
it down.** -/
theorem inferCloseReason_spec (closePrice : ℚ) (slPrice tpPrice : Option ℚ) :
    (∀ (rawReason rawReason' : Evidence) (sources sources' : List Evidence),
      List.Forall₂ SameSource (rawReason :: sources) (rawReason' :: sources') →
      u.inferCloseReason closePrice slPrice tpPrice rawReason sources =
        u.inferCloseReason closePrice slPrice tpPrice rawReason' sources') ∧
    (∀ (rawReason rawReason' : Evidence) (sources sources' : List Evidence),
      (rawReason :: sources).Perm (rawReason' :: sources') →
      u.inferCloseReason closePrice slPrice tpPrice rawReason sources =
        u.inferCloseReason closePrice slPrice tpPrice rawReason' sources') ∧
    ∀ (rawReason : Evidence) (sources sources' : List Evidence), sources ⊆ sources' →
      (u.inferCloseReason closePrice slPrice tpPrice rawReason sources).rank ≤
        (u.inferCloseReason closePrice slPrice tpPrice rawReason sources').rank := by
  refine ⟨fun rawReason rawReason' sources sources' h => ?_,
    fun rawReason rawReason' sources sources' h => ?_, fun rawReason sources sources' h => ?_⟩
  · rw [inferCloseReason_eq, inferCloseReason_eq]
    exact reasonOf_congr fun marker hmarker => hasText_of_forall₂ u hmarker h
  · rw [inferCloseReason_eq, inferCloseReason_eq]
    exact reasonOf_congr fun marker _ => hasText_of_perm (h.flatMap_right _)
  · rw [inferCloseReason_eq, inferCloseReason_eq]
    refine rank_reasonOf_le fun marker _ hfound => ?_
    rw [hasText_flatMap] at hfound ⊢
    obtain ⟨source, hsource, hfound⟩ := hfound
    exact ⟨source, List.cons_subset_cons rawReason h hsource, hfound⟩

def touchedOrder : List (String × Evidence) :=
  [("type", .str " \x7b\"orderType\": [\"market_if_touched\"], \"n\": 1e5\x7d"),
   ("price", .num "1.25".toList),
   ("time", .foreign ⟨"2026-01-01T00:00:00+00:00", by decide⟩)]

example : serializeRawJson touchedOrder =
    "\x7b\"price\":1.25,\"time\":\"2026-01-01T00:00:00+00:00\"," ++
      "\"type\":\" \x7b\\\"orderType\\\": [\\\"market_if_touched\\\"], \\\"n\\\": 1e5\x7d\"\x7d" := by
  decide +kernel

theorem wellFormed_touchedOrder : WellFormed (.obj touchedOrder) := by
  refine .obj (by decide) fun field hfield => ?_
  simp only [touchedOrder, List.mem_cons, List.not_mem_nil, or_false] at hfield
  rcases hfield with rfl | rfl | rfl
  · exact .str _
  · exact .num (by decide)
  · exact .foreign _

theorem inferCloseReason_touched :
    UnicodeTable.ascii.inferCloseReason 1 none none .null [.str (serializeRawJson touchedOrder)] = .MIT := by
  have hsame := (inferCloseReason_spec UnicodeTable.ascii 1 none none).1 .null .null
    [.obj touchedOrder] [.str (serializeRawJson touchedOrder)]
    (.cons (.reordered (.refl _)) (.cons (.serialized wellFormed_touchedOrder) .nil))
  rw [← hsame]
  decide +kernel

end OandaV3
