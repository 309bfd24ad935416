import Mathlib.Data.List.Induction

/-! # Dictionaries

A dictionary is the list of its items, in the order in which their keys came in; `List.lookup` reads it.

* `lookup_assign_self`, `lookup_assign_ne`: what an assignment changes.
* `lookup_assignAll`: a key that is assigned one value only holds it at the end.
* `mem_groupBy`, `exists_groupBy`: grouping by a key puts every item into the group of its key, and
  nothing else. -/

namespace Dict

variable {α κ ν : Type} [DecidableEq κ]

/-- `d[k] = v`. -/
def assign : List (κ × ν) → κ → ν → List (κ × ν)
  | [], k, v => [(k, v)]
  | item :: d, k, v => if item.1 = k then (k, v) :: d else item :: assign d k v

section assign

variable {d : List (κ × ν)} {k k' : κ} {v : ν}

theorem assign_fresh (v : ν) (h : ∀ item ∈ d, item.1 ≠ k) : assign d k v = d ++ [(k, v)] := by
  induction d with
  | nil => rfl
  | cons item d ih =>
      rw [List.forall_mem_cons] at h
      rw [assign, if_neg h.1, ih h.2, List.cons_append]

theorem mem_assign {item : κ × ν} (h : item ∈ assign d k v) : item = (k, v) ∨ item ∈ d := by
  induction d with
  | nil => exact Or.inl (List.mem_singleton.mp h)
  | cons first d ih =>
      rw [assign] at h
      split_ifs at h
      · exact (List.mem_cons.mp h).imp_right (List.mem_cons_of_mem first)
      · rcases List.mem_cons.mp h with rfl | hlater
        · exact Or.inr List.mem_cons_self
        · exact (ih hlater).imp_right (List.mem_cons_of_mem first)

theorem exists_assign (k : κ) (v : ν) {item : κ × ν} (h : item ∈ d) :
    ∃ item' ∈ assign d k v, item'.1 = item.1 := by
  induction d with
  | nil => cases h
  | cons first d ih =>
      rw [assign]
      split_ifs with hfirst
      · rcases List.mem_cons.mp h with rfl | hlater
        · exact ⟨(k, v), List.mem_cons_self, hfirst.symm⟩
        · exact ⟨item, List.mem_cons_of_mem _ hlater, rfl⟩
      · rcases List.mem_cons.mp h with rfl | hlater
        · exact ⟨item, List.mem_cons_self, rfl⟩
        · obtain ⟨item', hitem', hkey⟩ := ih hlater
          exact ⟨item', List.mem_cons_of_mem _ hitem', hkey⟩

@[simp] theorem lookup_assign_self (d : List (κ × ν)) (k : κ) (v : ν) :
    (assign d k v).lookup k = some v := by
  induction d with
  | nil => exact List.lookup_cons_self
  | cons item d ih =>
      rw [assign]
      split_ifs with hitem
      · exact List.lookup_cons_self
      · rw [List.lookup_cons, beq_false_of_ne (Ne.symm hitem)]
        exact ih

theorem lookup_assign_ne (d : List (κ × ν)) (v : ν) (h : k' ≠ k) :
    (assign d k v).lookup k' = d.lookup k' := by
  induction d with
  | nil =>
      rw [assign, List.lookup_cons, beq_false_of_ne h]
  | cons item d ih =>
      rw [assign]
      split_ifs with hitem
      · rw [List.lookup_cons, List.lookup_cons, beq_false_of_ne h, hitem, beq_false_of_ne h]
      · rw [List.lookup_cons, List.lookup_cons, ih]

theorem nodup_assign (v : ν) (h : (d.map Prod.fst).Nodup) :
    ((assign d k v).map Prod.fst).Nodup := by
  induction d with
  | nil => simp [assign]
  | cons item d ih =>
      rw [List.map_cons, List.nodup_cons] at h
      rw [assign]
      split_ifs with hitem
      · rw [List.map_cons, List.nodup_cons]
        exact ⟨hitem ▸ h.1, h.2⟩
      · rw [List.map_cons, List.nodup_cons]
        refine ⟨fun hmem => ?_, ih h.2⟩
        obtain ⟨later, hlater, hkey⟩ := List.mem_map.mp hmem
        rcases mem_assign hlater with rfl | hlater
        · exact hitem hkey.symm
        · exact h.1 (List.mem_map.mpr ⟨later, hlater, hkey⟩)

theorem isSome_lookup : (d.lookup k).isSome = true ↔ k ∈ d.map Prod.fst := by
  rw [Option.isSome_iff_ne_none, Ne, List.lookup_eq_none_iff]
  constructor
  · intro h
    by_contra hnot
    refine h fun item hitem => bne_iff_ne.mpr ?_
    rintro rfl
    exact hnot (List.mem_map_of_mem hitem)
  · intro h hall
    obtain ⟨item, hitem, rfl⟩ := List.mem_map.mp h
    exact bne_iff_ne.mp (hall item hitem) rfl

/-- `d.pop(k, None)`. -/
def pop (d : List (κ × ν)) (k : κ) : List (κ × ν) := d.filter fun item => decide (item.1 ≠ k)

@[simp] theorem lookup_pop_self (d : List (κ × ν)) (k : κ) : (pop d k).lookup k = none := by
  rw [List.lookup_eq_none_iff]
  intro item hitem
  have hkey : item.1 ≠ k := of_decide_eq_true (List.mem_filter.mp hitem).2
  exact bne_iff_ne.mpr hkey.symm

theorem lookup_pop_ne (d : List (κ × ν)) (h : k' ≠ k) : (pop d k).lookup k' = d.lookup k' := by
  induction d with
  | nil => rfl
  | cons item d ih =>
      rw [pop, List.filter_cons]
      split_ifs with hitem
      · rw [List.lookup_cons, List.lookup_cons, ← ih, pop]
      · have hkey : item.1 = k := by simpa using hitem
        rw [List.lookup_cons, beq_false_of_ne (hkey ▸ h)]
        exact ih

theorem nodup_pop (k : κ) (h : (d.map Prod.fst).Nodup) : ((pop d k).map Prod.fst).Nodup :=
  h.sublist (List.filter_sublist.map Prod.fst)

theorem mem_of_lookup (h : d.lookup k = some v) : (k, v) ∈ d := by
  obtain ⟨before, after, rfl, -⟩ := List.lookup_eq_some_iff.mp h
  simp

end assign

/-! ### Loops that assign -/

/-- One assignment for each item of a list. -/
def assignAll (key : α → κ) (value : α → ν) (l : List α) (d : List (κ × ν)) : List (κ × ν) :=
  l.foldl (fun d a => assign d (key a) (value a)) d

theorem assignAll_append (key : α → κ) (value : α → ν) (l m : List α) (d : List (κ × ν)) :
    assignAll key value (l ++ m) d = assignAll key value m (assignAll key value l d) :=
  List.foldl_append

theorem lookup_assignAll (key : α → κ) (value : α → ν) {l : List α} (d : List (κ × ν)) {a : α}
    (ha : a ∈ l) (hsame : ∀ b ∈ l, key b = key a → value b = value a) :
    (assignAll key value l d).lookup (key a) = some (value a) := by
  induction l using List.reverseRecOn with
  | nil => cases ha
  | append_singleton l b ih =>
      rw [assignAll_append]
      by_cases hkey : key b = key a
      · rw [← hsame b (by simp) hkey, ← hkey]
        exact lookup_assign_self _ _ _
      · have hal : a ∈ l := by
          rcases List.mem_append.mp ha with hal | hab
          · exact hal
          · exact absurd (congrArg key (List.mem_singleton.mp hab)).symm hkey
        refine (lookup_assign_ne _ _ (Ne.symm hkey)).trans (ih hal fun c hc => ?_)
        exact hsame c (List.mem_append_left _ hc)

theorem nodup_assignAll (key : α → κ) (value : α → ν) (l : List α) {d : List (κ × ν)}
    (h : (d.map Prod.fst).Nodup) : ((assignAll key value l d).map Prod.fst).Nodup := by
  induction l generalizing d with
  | nil => exact h
  | cons a l ih => exact ih (nodup_assign (value a) h)

theorem mem_assignAll {key : α → κ} {value : α → ν} {l : List α} {d : List (κ × ν)} {item : κ × ν}
    (h : item ∈ assignAll key value l d) : item ∈ d ∨ ∃ a ∈ l, item = (key a, value a) := by
  induction l generalizing d with
  | nil => exact Or.inl h
  | cons a l ih =>
      rcases ih h with hassigned | ⟨b, hb, hitem⟩
      · rcases mem_assign hassigned with hitem | hd
        · exact Or.inr ⟨a, List.mem_cons_self, hitem⟩
        · exact Or.inl hd
      · exact Or.inr ⟨b, List.mem_cons_of_mem a hb, hitem⟩

theorem assignAll_fresh (key : α → κ) (value : α → ν) {l : List α} {d : List (κ × ν)}
    (h : ((d.map Prod.fst) ++ l.map key).Nodup) :
    assignAll key value l d = d ++ l.map fun a => (key a, value a) := by
  induction l generalizing d with
  | nil => rw [List.map_nil, List.append_nil, assignAll, List.foldl_nil]
  | cons a l ih =>
      have hfresh : ∀ item ∈ d, item.1 ≠ key a := by
        intro item hitem
        rw [List.map_cons, List.nodup_append] at h
        exact h.2.2 _ (List.mem_map_of_mem hitem) _ List.mem_cons_self
      have hstep : assignAll key value (a :: l) d = assignAll key value l (d ++ [(key a, value a)]) := by
        rw [← assign_fresh (value a) hfresh]
        rfl
      rw [hstep, ih, List.append_assoc, List.map_cons, List.singleton_append]
      rw [List.map_append, List.append_assoc]
      exact h

theorem lookup_map_self {κ' : Type} [DecidableEq κ'] (key : α → κ') (value : κ' → ν) {l : List α} {a : α}
    (ha : a ∈ l) : (l.map fun b => (key b, value (key b))).lookup (key a) = some (value (key a)) := by
  induction l with
  | nil => cases ha
  | cons b l ih =>
      rw [List.map_cons, List.lookup_cons]
      by_cases hkey : key a = key b
      · rw [hkey, beq_self_eq_true]
      · rw [beq_false_of_ne hkey]
        exact ih ((List.mem_cons.mp ha).resolve_left fun hab => hkey (congrArg key hab))

/-- `d.setdefault(key(a), []).append(a)` for each item of a list. -/
def groupBy (key : α → κ) (l : List α) : List (κ × List α) :=
  l.foldl (fun d a => assign d (key a) ((d.lookup (key a)).getD [] ++ [a])) []

section groupBy

variable {key : α → κ} {l : List α}

theorem groupBy_concat (l : List α) (a : α) : groupBy key (l ++ [a]) =
    assign (groupBy key l) (key a) (((groupBy key l).lookup (key a)).getD [] ++ [a]) :=
  List.foldl_append

theorem lookup_groupBy (l : List α) (k : κ) :
    ((groupBy key l).lookup k).getD [] = l.filter fun a => decide (key a = k) := by
  induction l using List.reverseRecOn with
  | nil => rfl
  | append_singleton l a ih =>
      rw [groupBy_concat, List.filter_append]
      by_cases hkey : key a = k
      · subst hkey
        simp [ih]
      · rw [lookup_assign_ne _ _ (Ne.symm hkey), ih]
        simp [hkey]

theorem mem_groupBy {group : κ × List α} (h : group ∈ groupBy key l) :
    group.2 ≠ [] ∧ ∀ a ∈ group.2, a ∈ l ∧ key a = group.1 := by
  induction l using List.reverseRecOn with
  | nil => cases h
  | append_singleton l a ih =>
      rw [groupBy_concat, lookup_groupBy] at h
      rcases mem_assign h with rfl | hold
      · refine ⟨by simp, fun b hb => ?_⟩
        rcases List.mem_append.mp hb with hbl | hba
        · obtain ⟨hbl, hkey⟩ := List.mem_filter.mp hbl
          exact ⟨List.mem_append_left _ hbl, of_decide_eq_true hkey⟩
        · obtain rfl := List.mem_singleton.mp hba
          exact ⟨by simp, rfl⟩
      · exact ⟨(ih hold).1, fun b hb => ⟨List.mem_append_left _ ((ih hold).2 b hb).1,
          ((ih hold).2 b hb).2⟩⟩

theorem exists_groupBy (key : α → κ) {a : α} (h : a ∈ l) : ∃ group ∈ groupBy key l, a ∈ group.2 := by
  have hgroup : a ∈ ((groupBy key l).lookup (key a)).getD [] := by
    rw [lookup_groupBy, List.mem_filter]
    exact ⟨h, decide_eq_true rfl⟩
  cases hlookup : (groupBy key l).lookup (key a) with
  | none =>
      rw [hlookup] at hgroup
      cases hgroup
  | some group =>
      rw [hlookup] at hgroup
      exact ⟨_, mem_of_lookup hlookup, hgroup⟩

end groupBy

end Dict
