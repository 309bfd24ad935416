import OandaV3.DocTable

/-! # A numbered log of which the last entries are retained

The entries of a log are numbered from 1.  A store that appends each new entry under the next number
and then drops the oldest ones until at most `keep` are left holds `retained keep log`.

* `evict_put`: appending and evicting keeps the store of that form.
* `map_fst_retained`: the numbers in the store are consecutive and end with the length of the log.
* `get_retained`: a number is found exactly when it is one of the last `keep`, with its entry. -/

namespace RetainedLog

variable {α β : Type}

/-- Drop the oldest items while there are more than `keep`. -/
def evict (keep : ℕ) : List β → List β
  | [] => []
  | b :: bs => if keep < (b :: bs).length then evict keep bs else b :: bs

theorem evict_eq_drop (keep : ℕ) (bs : List β) : evict keep bs = bs.drop (bs.length - keep) := by
  induction bs with
  | nil => rw [evict, List.drop_nil]
  | cons b bs ih =>
      rw [evict]
      split_ifs with h
      · rw [ih]
        rw [List.length_cons] at h ⊢
        rw [show bs.length + 1 - keep = bs.length - keep + 1 by omega, List.drop_succ_cons]
      · rw [show (b :: bs).length - keep = 0 by omega, List.drop_zero]

/-- The entries of a log with their numbers. -/
def numbered (log : List α) : List (ℕ × α) := (log.zipIdx 1).map Prod.swap

@[simp] theorem length_numbered (log : List α) : (numbered log).length = log.length := by
  simp [numbered]

@[simp] theorem map_fst_numbered (log : List α) :
    (numbered log).map Prod.fst = List.range' 1 log.length := by
  simp [numbered, Function.comp_def]

/-- A log whose entries carry their numbers keeps that when the next one is appended. -/
theorem stamped_concat {number : α → ℕ} {log : List α} {a : α}
    (h : log.map number = List.range' 1 log.length) (ha : number a = log.length + 1) :
    (log ++ [a]).map number = List.range' 1 (log ++ [a]).length := by
  rw [List.map_append, h, List.map_singleton, ha, List.length_append, List.length_singleton,
    List.range'_1_concat, Nat.add_comm 1]

theorem numbered_append (log : List α) (a : α) :
    numbered (log ++ [a]) = numbered log ++ [(log.length + 1, a)] := by
  simp [numbered, List.zipIdx_append, Nat.add_comm]

theorem mem_numbered {log : List α} {n : ℕ} {a : α} :
    (n, a) ∈ numbered log ↔ 1 ≤ n ∧ log[n - 1]? = some a := by
  simp only [numbered, List.mem_map, Prod.exists, Prod.swap_prod_mk, Prod.mk.injEq,
    List.mk_mem_zipIdx_iff_le_and_getElem?_sub]
  constructor
  · rintro ⟨a, n, h, rfl, rfl⟩
    exact h
  · intro h
    exact ⟨a, n, h, rfl, rfl⟩

/-- The last entries of a log. -/
def retained (keep : ℕ) (log : List α) : List (ℕ × α) := (numbered log).drop (log.length - keep)

@[simp] theorem retained_nil (keep : ℕ) : retained keep ([] : List α) = [] := by
  rw [retained, numbered, List.zipIdx_nil, List.map_nil, List.drop_nil]

theorem evict_put {keep : ℕ} (log : List α) (a : α) :
    evict keep (DocTable.put Prod.fst (log.length + 1, a) (retained keep log)) =
      retained keep (log ++ [a]) := by
  have hnew : ∀ e ∈ retained keep log, e.1 ≠ (log.length + 1, a).1 := by
    rintro ⟨n, b⟩ hmem heq
    have hin := mem_numbered.mp (List.mem_of_mem_drop hmem)
    have hlt := (List.getElem?_eq_some_iff.mp hin.2).1
    dsimp only at heq
    omega
  rw [DocTable.put_of_forall_ne hnew, evict_eq_drop, retained, retained, numbered_append,
    ← List.drop_append_of_le_length (by rw [length_numbered]; omega), List.drop_drop]
  simp only [List.length_append, List.length_drop, length_numbered, List.length_cons, List.length_nil]
  congr 1
  omega

theorem map_fst_retained (keep : ℕ) (log : List α) : (retained keep log).map Prod.fst =
    List.range' (log.length - keep + 1) (log.length - (log.length - keep)) := by
  rw [retained, List.map_drop, map_fst_numbered, List.drop_range']
  rw [Nat.mul_one, Nat.add_comm]

theorem mem_retained {keep : ℕ} {log : List α} {n : ℕ} {a : α} : (n, a) ∈ retained keep log ↔
    1 ≤ n ∧ log.length < n + keep ∧ log[n - 1]? = some a := by
  rw [retained, List.mem_iff_getElem?]
  simp only [numbered, List.getElem?_drop, List.getElem?_map, List.getElem?_zipIdx, Option.map_map,
    Option.map_eq_some_iff, Function.comp_apply, Prod.swap_prod_mk, Prod.mk.injEq]
  constructor
  · rintro ⟨i, b, hget, hn, rfl⟩
    have hlt := (List.getElem?_eq_some_iff.mp hget).1
    rw [show n - 1 = log.length - keep + i by omega]
    exact ⟨by omega, by omega, hget⟩
  · rintro ⟨hpos, hlast, hget⟩
    refine ⟨n - 1 - (log.length - keep), a, ?_, by omega, rfl⟩
    rw [show log.length - keep + (n - 1 - (log.length - keep)) = n - 1 by omega]
    exact hget

/-- A number is found when it is one of the last ones. -/
theorem get_retained (keep : ℕ) (log : List α) (n : ℕ) :
    DocTable.get Prod.fst n (retained keep log) =
      if 1 ≤ n ∧ log.length < n + keep then (log[n - 1]?).map (Prod.mk n) else none := by
  have hnd : ((retained keep log).map Prod.fst).Nodup := by
    rw [map_fst_retained]
    exact List.nodup_range'
  cases hget : DocTable.get Prod.fst n (retained keep log) with
  | some entry =>
      obtain ⟨hmem, rfl⟩ := DocTable.get_some hget
      obtain ⟨hpos, hlast, hentry⟩ := mem_retained.mp hmem
      rw [if_pos ⟨hpos, hlast⟩, hentry]
      rfl
  | none =>
      split_ifs with hin
      · cases hentry : log[n - 1]? with
        | none => rfl
        | some a =>
            have hmem := mem_retained.mpr ⟨hin.1, hin.2, hentry⟩
            exact absurd rfl (DocTable.get_eq_none.mp hget _ hmem)
      · rfl

end RetainedLog
