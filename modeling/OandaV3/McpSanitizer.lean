import Mathlib.Data.List.Nodup
import OandaV3.Dict
import OandaV3.PyValue

/-! # The MCP boundary sanitiser

`_sanitize_mcp_payload` of `mcp_server/adapters.py` goes through a value tree, expands the models it
meets, renames the key `direction` to `side` and drops the other keys that would reveal a trade idea.

* `sanitizeItems_eq`: the loop over a mapping assigns the kept items under their new keys.
* `clean_sanitize`, `sanitize_of_clean`: a sanitised tree is clean, and a clean tree stays as it is.
* `get_sanitize`: a step down a tree commutes with sanitising.
* `sanitizeMcpPayload_spec`: the three together, at any depth. -/

namespace OandaV3

open Py Py.Value

variable {α : Type} [DecidableEq α]

/-! ### The sanitiser -/

/-- The keys that must not cross the boundary. -/
def disallowedKeys : List String :=
  ["bias", "direction", "valid", "setup", "entry", "target", "invalidation", "reward_risk", "score",
   "confidence", "recommendation", "trade_plan"]

/-- `key in disallowed`. -/
def isDisallowed : Key α → Bool
  | .str s => disallowedKeys.contains s
  | .other _ => false

mutual
/-- `_sanitize_mcp_payload`. -/
def sanitizeMcpPayload : Value α → Value α
  | .scalar a => .scalar a
  | .dict items => .dict (sanitizeItems items [])
  | .list items => .list (sanitizeList items)
  | .tuple items => .list (sanitizeList items)
  | .model fields => .dict (sanitizeItems (dumpFields fields) [])
termination_by v => v.size
decreasing_by
  all_goals rw [Value.size]
  · omega
  · omega
  · omega
  · have hdump := itemsSize_dumpFields_le fields
    omega
/-- The loop over the items of a mapping. -/
def sanitizeItems (items sanitized : List (Key α × Value α)) : List (Key α × Value α) :=
  match items with
  | [] => sanitized
  | (key, item) :: items =>
      if key = .str "direction" then
        sanitizeItems items (Dict.assign sanitized (.str "side") (sanitizeMcpPayload item))
      else if isDisallowed key then sanitizeItems items sanitized
      else sanitizeItems items (Dict.assign sanitized key (sanitizeMcpPayload item))
termination_by itemsSize items
decreasing_by
  all_goals rw [itemsSize]
  all_goals omega
/-- The loop over the elements of a list or a tuple. -/
def sanitizeList (items : List (Value α)) : List (Value α) :=
  match items with
  | [] => []
  | item :: items => sanitizeMcpPayload item :: sanitizeList items
termination_by listSize items
decreasing_by
  all_goals rw [listSize]
  all_goals omega
end

/-! ### Equations -/

/-- The key an item is stored under. -/
def sanitizeKey (key : Key α) : Key α := if key = .str "direction" then .str "side" else key

/-- The items that are not dropped. -/
def keepsKey (key : Key α) : Bool := decide (key = .str "direction") || !isDisallowed key

theorem sanitizeList_eq_map (items : List (Value α)) :
    sanitizeList items = items.map sanitizeMcpPayload := by
  induction items with
  | nil => rw [sanitizeList, List.map_nil]
  | cons item items ih => rw [sanitizeList, ih, List.map_cons]

theorem sanitizeItems_eq (items sanitized : List (Key α × Value α)) :
    sanitizeItems items sanitized =
      Dict.assignAll (fun item => sanitizeKey item.1) (fun item => sanitizeMcpPayload item.2)
        (items.filter fun item => keepsKey item.1) sanitized := by
  induction items generalizing sanitized with
  | nil => rw [sanitizeItems, List.filter_nil, Dict.assignAll, List.foldl_nil]
  | cons item items ih =>
      obtain ⟨key, v⟩ := item
      rw [sanitizeItems]
      split_ifs with hdirection hdisallowed
      · subst hdirection
        rw [ih, List.filter_cons_of_pos (by simp [keepsKey])]
        rfl
      · rw [ih, List.filter_cons_of_neg (by simp [keepsKey, hdirection, hdisallowed])]
      · rw [ih, List.filter_cons_of_pos (by simp [keepsKey, hdisallowed])]
        simp [Dict.assignAll, sanitizeKey, hdirection]

def sanitizedItems (items : List (Key α × Value α)) : List (Key α × Value α) :=
  Dict.assignAll (fun item => sanitizeKey item.1) (fun item => sanitizeMcpPayload item.2)
    (items.filter fun item => keepsKey item.1) []

theorem sanitize_dict (items : List (Key α × Value α)) :
    sanitizeMcpPayload (.dict items) = .dict (sanitizedItems items) := by
  rw [sanitizeMcpPayload, sanitizeItems_eq, sanitizedItems]

theorem sanitize_list (items : List (Value α)) :
    sanitizeMcpPayload (.list items) = .list (items.map sanitizeMcpPayload) := by
  rw [sanitizeMcpPayload, sanitizeList_eq_map]

theorem sanitize_tuple (items : List (Value α)) :
    sanitizeMcpPayload (.tuple items) = .list (items.map sanitizeMcpPayload) := by
  rw [sanitizeMcpPayload, sanitizeList_eq_map]

theorem sanitizedItems_congr {β : Type} {l : List β} (key : β → Key α) {value value' : β → Value α}
    (h : ∀ b ∈ l, sanitizeMcpPayload (value b) = sanitizeMcpPayload (value' b)) :
    sanitizedItems (l.map fun b => (key b, value b)) =
      sanitizedItems (l.map fun b => (key b, value' b)) := by
  unfold sanitizedItems Dict.assignAll
  rw [List.filter_map, List.filter_map, List.foldl_map, List.foldl_map]
  refine List.foldl_ext _ _ _ fun d b hb => ?_
  simp only [h b (List.mem_of_mem_filter hb)]

theorem sanitize_dump (v : Value α) : sanitizeMcpPayload v.dump = sanitizeMcpPayload v := by
  induction v using Value.induction with
  | scalar a => rw [dump]
  | dict items ih =>
      rw [dump, sanitize_dict, sanitize_dict, dumpItems_eq_map]
      rw [sanitizedItems_congr Prod.fst ih]
      simp
  | list items ih =>
      rw [dump, sanitize_list, sanitize_list, dumpList_eq_map, List.map_map]
      exact congrArg Value.list (List.map_congr_left ih)
  | tuple items ih =>
      rw [dump, sanitize_tuple, sanitize_tuple, dumpList_eq_map, List.map_map]
      exact congrArg Value.list (List.map_congr_left ih)
  | model fields ih => rw [dump, sanitize_dict, sanitizeMcpPayload, sanitizeItems_eq, sanitizedItems]

theorem sanitize_model (fields : List (String × Value α)) :
    sanitizeMcpPayload (.model fields) =
      .dict (sanitizedItems (fields.map fun field => (.str field.1, field.2))) := by
  rw [sanitizeMcpPayload, sanitizeItems_eq, dumpFields_eq_map]
  exact congrArg Value.dict
    (sanitizedItems_congr (fun field : String × Value α => .str field.1) fun field _ =>
      sanitize_dump field.2)

/-! ### Clean trees -/

/-- A tree without models, tuples and disallowed keys. -/
inductive Clean : Value α → Prop
  | scalar (a : α) : Clean (.scalar a)
  | dict {items : List (Key α × Value α)} : (items.map Prod.fst).Nodup →
      (∀ item ∈ items, isDisallowed item.1 = false) → (∀ item ∈ items, Clean item.2) →
        Clean (.dict items)
  | list {items : List (Value α)} : (∀ item ∈ items, Clean item) → Clean (.list items)

theorem isDisallowed_sanitizeKey {key : Key α} (h : keepsKey key = true) :
    isDisallowed (sanitizeKey key) = false := by
  unfold sanitizeKey
  split_ifs with hdirection
  · rfl
  · simpa [keepsKey, hdirection] using h

theorem clean_sanitizedItems {items : List (Key α × Value α)}
    (h : ∀ item ∈ items, Clean (sanitizeMcpPayload item.2)) : Clean (.dict (sanitizedItems items)) := by
  have hmem : ∀ item ∈ sanitizedItems items, ∃ before ∈ items, keepsKey before.1 = true ∧
      item = (sanitizeKey before.1, sanitizeMcpPayload before.2) := by
    intro item hitem
    rcases Dict.mem_assignAll hitem with hnil | ⟨before, hbefore, hitem⟩
    · cases hnil
    · obtain ⟨hbefore, hkeeps⟩ := List.mem_filter.mp hbefore
      exact ⟨before, hbefore, hkeeps, hitem⟩
  refine Clean.dict (Dict.nodup_assignAll _ _ _ List.nodup_nil) ?_ ?_
  · intro item hitem
    obtain ⟨before, -, hkeeps, rfl⟩ := hmem item hitem
    exact isDisallowed_sanitizeKey hkeeps
  · intro item hitem
    obtain ⟨before, hbefore, -, rfl⟩ := hmem item hitem
    exact h before hbefore

theorem clean_sanitize (v : Value α) : Clean (sanitizeMcpPayload v) := by
  induction v using Value.induction with
  | scalar a =>
      rw [sanitizeMcpPayload]
      exact Clean.scalar a
  | dict items ih =>
      rw [sanitize_dict]
      exact clean_sanitizedItems ih
  | list items ih =>
      rw [sanitize_list]
      exact Clean.list (List.forall_mem_map.mpr ih)
  | tuple items ih =>
      rw [sanitize_tuple]
      exact Clean.list (List.forall_mem_map.mpr ih)
  | model fields ih =>
      rw [sanitize_model]
      exact clean_sanitizedItems (List.forall_mem_map.mpr ih)

theorem sanitize_of_clean {v : Value α} (h : Clean v) : sanitizeMcpPayload v = v := by
  induction h with
  | scalar a => rw [sanitizeMcpPayload]
  | @dict items hdistinct hallowed _ ih =>
      have hdirection : ∀ item ∈ items, item.1 ≠ .str "direction" := by
        intro item hitem hkey
        have hdisallowed := hallowed item hitem
        simp [hkey, isDisallowed, disallowedKeys] at hdisallowed
      have hkept : (items.filter fun item => keepsKey item.1) = items :=
        List.filter_eq_self.mpr fun item hitem => by simp [keepsKey, hallowed item hitem]
      have hkeys : items.map (fun item => sanitizeKey item.1) = items.map Prod.fst :=
        List.map_congr_left fun item hitem => if_neg (hdirection item hitem)
      rw [sanitize_dict, sanitizedItems, hkept, Dict.assignAll_fresh _ _ (by simpa [hkeys])]
      refine congrArg Value.dict ((List.map_congr_left fun item hitem => ?_).trans (List.map_id items))
      rw [ih item hitem, sanitizeKey, if_neg (hdirection item hitem), id]
  | @list items _ ih =>
      rw [sanitize_list]
      exact congrArg Value.list ((List.map_congr_left ih).trans (List.map_id items))

/-! ### Down a path -/

theorem Clean.at? {v part : Value α} {path : List (Step α)} (h : Clean v)
    (hpart : v.at? path = some part) : Clean part := by
  induction path generalizing v with
  | nil => exact Option.some.inj hpart ▸ h
  | cons step path ih =>
      obtain ⟨next, hnext, hpart⟩ := Option.bind_eq_some_iff.mp hpart
      refine ih ?_ hpart
      cases step with
      | key k =>
          have hmem := Dict.mem_of_lookup hnext
          cases h with
          | scalar a => cases hmem
          | dict _ _ hvalues => exact hvalues _ hmem
          | list _ => cases hmem
      | index i =>
          have hmem := List.mem_of_getElem? hnext
          cases h with
          | scalar a => cases hmem
          | dict _ _ _ => cases hmem
          | list helements => exact helements _ hmem

omit [DecidableEq α] in
theorem Clean.allowed {v : Value α} (h : Clean v) : ∀ item ∈ v.items, isDisallowed item.1 = false := by
  cases h with
  | scalar a => exact fun item hitem => nomatch hitem
  | dict _ hallowed _ => exact hallowed
  | list _ => exact fun item hitem => nomatch hitem

/-- The step that leads to the same part of the sanitised tree. -/
def sanitizeStep : Step α → Step α
  | .key k => .key (sanitizeKey k)
  | .index i => .index i

/-- A step by an index, or by a key that is not dropped; `direction` and `side` only lead on from a
mapping that does not hold both. -/
def KeepsStep (v : Value α) : Step α → Prop
  | .key k => keepsKey k = true ∧
      (k = .str "direction" → .str "side" ∉ v.items.map Prod.fst) ∧
      (k = .str "side" → .str "direction" ∉ v.items.map Prod.fst)
  | .index _ => True

/-- The part at a path each step of which is kept. -/
inductive Keeps : Value α → List (Step α) → Value α → Prop
  | here (v : Value α) : Keeps v [] v
  | step {v next part : Value α} {step : Step α} {path : List (Step α)} : v.get step = some next →
      KeepsStep v step → Keeps next path part → Keeps v (step :: path) part

/-- The keys of every mapping of a tree differ. -/
inductive DistinctKeys : Value α → Prop
  | intro {v : Value α} : (v.items.map Prod.fst).Nodup →
      (∀ item ∈ v.items, DistinctKeys item.2) → (∀ element ∈ v.elements, DistinctKeys element) →
        DistinctKeys v

theorem DistinctKeys.get {v next : Value α} {step : Step α} (h : DistinctKeys v)
    (hnext : v.get step = some next) : DistinctKeys next := by
  obtain ⟨-, hitems, helements⟩ := h
  cases step with
  | key k => exact hitems _ (Dict.mem_of_lookup hnext)
  | index i => exact helements _ (List.mem_of_getElem? hnext)

/-- A value tree whose mappings hold every key once. -/
structure PayloadTree (α : Type) where
  value : Value α
  distinct : DistinctKeys value

theorem items_sanitize (v : Value α) : (sanitizeMcpPayload v).items = sanitizedItems v.items := by
  cases v with
  | scalar a => rw [sanitizeMcpPayload]; rfl
  | dict items => rw [sanitize_dict]; rfl
  | list items => rw [sanitize_list]; rfl
  | tuple items => rw [sanitize_tuple]; rfl
  | model fields => rw [sanitize_model]; rfl

theorem elements_sanitize (v : Value α) :
    (sanitizeMcpPayload v).elements = v.elements.map sanitizeMcpPayload := by
  cases v with
  | scalar a => rw [sanitizeMcpPayload]; rfl
  | dict items => rw [sanitize_dict]; rfl
  | list items => rw [sanitize_list]; rfl
  | tuple items => rw [sanitize_tuple]; rfl
  | model fields => rw [sanitize_model]; rfl

/-- Two keys are stored under one key only if they are `direction` and `side`. -/
theorem eq_or_clash_of_sanitizeKey {k k' : Key α} (h : sanitizeKey k = sanitizeKey k') :
    k = k' ∨ (k = .str "direction" ∧ k' = .str "side") ∨ (k = .str "side" ∧ k' = .str "direction") := by
  unfold sanitizeKey at h
  split_ifs at h with hk hk' hk'
  · exact Or.inl (hk.trans hk'.symm)
  · exact Or.inr (Or.inl ⟨hk, h.symm⟩)
  · exact Or.inr (Or.inr ⟨h, hk'⟩)
  · exact Or.inl h

theorem get_sanitize {v next : Value α} {step : Step α} (hdistinct : (v.items.map Prod.fst).Nodup)
    (hnext : v.get step = some next) (hkeeps : KeepsStep v step) :
    (sanitizeMcpPayload v).get (sanitizeStep step) = some (sanitizeMcpPayload next) := by
  cases step with
  | index i =>
      rw [sanitizeStep, Value.get, elements_sanitize, List.getElem?_map]
      exact congrArg (Option.map sanitizeMcpPayload) hnext
  | key k =>
      obtain ⟨hkept, hside, hdirection⟩ := hkeeps
      have hmem : (k, next) ∈ v.items := Dict.mem_of_lookup hnext
      have hfiltered : (k, next) ∈ v.items.filter fun item => keepsKey item.1 :=
        List.mem_filter.mpr ⟨hmem, hkept⟩
      rw [sanitizeStep, Value.get, items_sanitize]
      refine Dict.lookup_assignAll (fun item => sanitizeKey item.1)
        (fun item => sanitizeMcpPayload item.2) [] hfiltered fun item hitem hkey => ?_
      have hitem := List.mem_of_mem_filter hitem
      have hkeys : item.1 ∈ v.items.map Prod.fst := List.mem_map_of_mem hitem
      rcases eq_or_clash_of_sanitizeKey hkey with hsame | ⟨hd, hs⟩ | ⟨hs, hd⟩
      · rw [List.inj_on_of_nodup_map hdistinct hitem hmem hsame]
      · exact absurd (hd ▸ hkeys) (hdirection hs)
      · exact absurd (hs ▸ hkeys) (hside hd)

theorem at?_sanitize {v part : Value α} {path : List (Step α)} (h : Keeps v path part)
    (hdistinct : DistinctKeys v) :
    (sanitizeMcpPayload v).at? (path.map sanitizeStep) = some (sanitizeMcpPayload part) := by
  induction h with
  | here v => rfl
  | @step v next part step path hnext hkeeps _ ih =>
      obtain ⟨hnodup, -, -⟩ := id hdistinct
      rw [List.map_cons, at?_cons (get_sanitize hnodup hnext hkeeps)]
      exact ih (hdistinct.get hnext)

/-- **The sanitiser.**  In a sanitised tree no mapping at any depth holds a disallowed key; whatever a
path of kept steps leads to is found in sanitised form at the sanitised path; and sanitising twice is
sanitising once. -/
theorem sanitizeMcpPayload_spec (tree : PayloadTree α) :
    (∀ path part, (sanitizeMcpPayload tree.value).at? path = some part →
      ∀ item ∈ part.items, isDisallowed item.1 = false) ∧
    (∀ path part, Keeps tree.value path part →
      (sanitizeMcpPayload tree.value).at? (path.map sanitizeStep) =
        some (sanitizeMcpPayload part)) ∧
    sanitizeMcpPayload (sanitizeMcpPayload tree.value) = sanitizeMcpPayload tree.value := by
  refine ⟨?_, ?_, ?_⟩
  · intro path part hpart
    exact ((clean_sanitize tree.value).at? hpart).allowed
  · intro path part hkeeps
    exact at?_sanitize hkeeps tree.distinct
  · exact sanitize_of_clean (clean_sanitize tree.value)

/-- A zone as a model, inside a tuple, with a direction beside it. -/
def zonePayload : PayloadTree String where
  value := .dict [(.str "direction", .scalar "LONG"), (.str "score", .scalar "7"),
    (.str "zones", .tuple [.model [("price", .scalar "1.1"), ("entry", .scalar "1.2")]])]
  distinct := by
    have hscalar : ∀ a : String, DistinctKeys (.scalar a) := by
      intro a
      exact .intro List.nodup_nil (fun _ h => nomatch h) fun _ h => nomatch h
    have hzone : DistinctKeys (.model [("price", .scalar "1.1"), ("entry", .scalar "1.2")]) := by
      refine .intro (by decide) ?_ fun _ h => nomatch h
      simp [Value.items, hscalar]
    have hzones : DistinctKeys
        (.tuple [.model [("price", .scalar "1.1"), ("entry", .scalar "1.2")]]) := by
      refine .intro List.nodup_nil (fun _ h => nomatch h) ?_
      simp [Value.elements, hzone]
    refine .intro (by decide) ?_ fun _ h => nomatch h
    simp [Value.items, hscalar, hzones]

/-- The direction is found under its new name, and the price of the zone where it was. -/
theorem sanitizeMcpPayload_spec_zones :
    (sanitizeMcpPayload zonePayload.value).at? [.key (.str "side")] = some (.scalar "LONG") ∧
    (sanitizeMcpPayload zonePayload.value).at?
      [.key (.str "zones"), .index 0, .key (.str "price")] = some (.scalar "1.1") := by
  have hscalar : ∀ a : String, sanitizeMcpPayload (.scalar a) = .scalar a := by
    intro a
    rw [sanitizeMcpPayload]
  obtain ⟨-, hkept, -⟩ := sanitizeMcpPayload_spec zonePayload
  have hdirection : Keeps zonePayload.value [.key (.str "direction")] (.scalar "LONG") :=
    .step rfl ⟨by decide, by decide, by decide⟩ (.here _)
  have hprice : Keeps zonePayload.value [.key (.str "zones"), .index 0, .key (.str "price")]
      (.scalar "1.1") :=
    .step rfl ⟨by decide, by decide, by decide⟩
      (.step rfl trivial (.step rfl ⟨by decide, by decide, by decide⟩ (.here _)))
  rw [← hscalar "LONG", ← hscalar "1.1"]
  exact ⟨hkept _ _ hdirection, hkept _ _ hprice⟩

end OandaV3
