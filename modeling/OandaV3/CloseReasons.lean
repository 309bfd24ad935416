import OandaV3.Models

/-! # Close-reason classification

`journal/close_reasons.py`: the reason a trade was closed, inferred from the texts found in the
broker's evidence and from the distance of the close price to the protective levels.

Evidence is a JSON value.  A string that holds the JSON text of an object or array is decoded
first; numbers, booleans and `None` hold no evidence. -/

namespace OandaV3

/-- `_EVIDENCE_KEYS`. -/
def evidenceKeys : List String := ["reason", "type", "orderType", "order_type"]

/-- The keys of an object are texts, and `_EVIDENCE_KEYS` is asked for the stripped key. -/
def isEvidenceKey (key : String) : Bool := evidenceKeys.contains (Text.strip key)

/-- Objects and arrays are searched under every key. -/
def Json.isContainer : Json → Bool
  | .arr _ | .obj _ => true
  | _ => false

/-- `_collect_evidence`: the upper-case texts of a source. -/
def collectEvidence : Json → List String
  | .str s => if Text.isBlank s then [] else [Text.upper (Text.strip s)]
  | .encoded j => collectEvidence j
  | .arr items => collectItems items
  | .obj fields => collectFields fields
  | .null | .bool _ | .num _ => []
where
  collectItems : List Json → List String
    | [] => []
    | item :: items => collectEvidence item ++ collectItems items
  collectFields : List (String × Json) → List String
    | [] => []
    | (key, value) :: fields =>
        (if isEvidenceKey key || value.isContainer then collectEvidence value else []) ++
          collectFields fields

/-- `_matches_level`. -/
def matchesLevel (closePrice : ℚ) : Option ℚ → Bool
  | none => false
  | some level => decide (|closePrice - level| ≤ max (|closePrice| * (1 / 1000000)) (1 / 1000000))

/-- `infer_close_reason`. -/
def inferCloseReason (closePrice : ℚ) (slPrice tpPrice : Option ℚ) (rawReason : Json)
    (evidenceSources : List Json) : CloseReason :=
  let evidence := collectEvidence rawReason ++ evidenceSources.flatMap collectEvidence
  if evidence.any (Text.contains "STOP") || matchesLevel closePrice slPrice then .SL_HIT
  else if evidence.any (fun item => Text.contains "TAKE" item || Text.contains "TP" item) ||
      matchesLevel closePrice tpPrice then .TP_HIT
  else if evidence.any (Text.contains "MARKET_IF_TOUCHED") then .MIT
  else .MANUAL

/-- A close outside both levels is an `MIT` close exactly when the texts say so. -/
theorem inferCloseReason_eq_MIT {closePrice : ℚ} {slPrice tpPrice : Option ℚ} {rawReason : Json}
    {sources : List Json} :
    inferCloseReason closePrice slPrice tpPrice rawReason sources = .MIT ↔
      let evidence := collectEvidence rawReason ++ sources.flatMap collectEvidence
      evidence.any (Text.contains "STOP") = false ∧ matchesLevel closePrice slPrice = false ∧
        evidence.any (fun item => Text.contains "TAKE" item || Text.contains "TP" item) = false ∧
        matchesLevel closePrice tpPrice = false ∧
        evidence.any (Text.contains "MARKET_IF_TOUCHED") = true := by
  simp only [inferCloseReason]
  split_ifs with h₁ h₂ h₃
  · simp only [Bool.or_eq_true] at h₁
    grind
  · simp only [Bool.or_eq_true] at h₂
    grind
  · simp only [Bool.or_eq_true, not_or, Bool.not_eq_true] at h₁ h₂
    grind
  · grind

end OandaV3
