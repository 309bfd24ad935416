import Mathlib.Algebra.Order.Group.Basic
import Mathlib.Order.Bounds.Image
import Mathlib.Data.List.TakeDrop
import Mathlib.Algebra.BigOperators.Group.List.Basic

/-! # Heights and falls of a running sum

The running sum of a list visits one height after each of its elements, and falls from an earlier
height to a later one.

* `isGreatest_heights_concat`: the highest point after one more element.
* `isGreatest_falls_concat`: the deepest fall after one more element, from the highest point. -/

namespace OandaV3

variable {α : Type*} [AddCommGroup α]

/-- The running sum after the first `k` elements. -/
def prefixSum (xs : List α) (k : ℕ) : α := (xs.take k).sum

/-- The heights the running sum visits, its start included. -/
def heights (xs : List α) : Set α := {h | ∃ k ≤ xs.length, prefixSum xs k = h}

/-- What the running sum loses from one point to the same or a later one. -/
def falls (xs : List α) : Set α :=
  {d | ∃ i j, i ≤ j ∧ j ≤ xs.length ∧ prefixSum xs i - prefixSum xs j = d}

@[simp] theorem prefixSum_zero (xs : List α) : prefixSum xs 0 = 0 := by simp [prefixSum]

theorem prefixSum_concat_of_le {xs : List α} {x : α} {k : ℕ} (h : k ≤ xs.length) :
    prefixSum (xs ++ [x]) k = prefixSum xs k := by
  rw [prefixSum, List.take_append_of_le_length h, prefixSum]

theorem prefixSum_concat_last (xs : List α) (x : α) :
    prefixSum (xs ++ [x]) (xs.length + 1) = xs.sum + x := by
  rw [prefixSum, List.take_of_length_le (by simp), List.sum_append, List.sum_singleton]

theorem heights_nil : heights ([] : List α) = {0} := by
  ext h
  simp only [heights, List.length_nil, Nat.le_zero_eq, Set.mem_ofPred_eq, Set.mem_singleton_iff]
  constructor
  · rintro ⟨k, rfl, rfl⟩
    exact prefixSum_zero []
  · rintro rfl
    exact ⟨0, rfl, prefixSum_zero []⟩

theorem heights_concat (xs : List α) (x : α) :
    heights (xs ++ [x]) = insert (xs.sum + x) (heights xs) := by
  ext h
  simp only [heights, List.length_append, List.length_singleton, Set.mem_ofPred_eq,
    Set.mem_insert_iff]
  constructor
  · rintro ⟨k, hk, rfl⟩
    rcases Nat.le_succ_iff.mp hk with hk | rfl
    · exact Or.inr ⟨k, hk, (prefixSum_concat_of_le hk).symm⟩
    · exact Or.inl (prefixSum_concat_last xs x)
  · rintro (rfl | ⟨k, hk, rfl⟩)
    · exact ⟨xs.length + 1, le_rfl, prefixSum_concat_last xs x⟩
    · exact ⟨k, by omega, prefixSum_concat_of_le hk⟩

theorem falls_nil : falls ([] : List α) = {0} := by
  ext d
  simp only [falls, List.length_nil, Nat.le_zero_eq, Set.mem_ofPred_eq, Set.mem_singleton_iff]
  constructor
  · rintro ⟨i, j, hij, rfl, rfl⟩
    obtain rfl := Nat.le_zero.mp hij
    exact sub_self _
  · rintro rfl
    exact ⟨0, 0, le_rfl, rfl, sub_self _⟩

/-- One more element adds the falls to the new point, from any height. -/
theorem falls_concat (xs : List α) (x : α) :
    falls (xs ++ [x]) =
      falls xs ∪ (fun h => h - (xs.sum + x)) '' heights (xs ++ [x]) := by
  ext d
  simp only [falls, heights, List.length_append, List.length_singleton, Set.mem_ofPred_eq,
    Set.mem_union, Set.mem_image]
  constructor
  · rintro ⟨i, j, hij, hj, rfl⟩
    rcases Nat.le_succ_iff.mp hj with hj | rfl
    · left
      refine ⟨i, j, hij, hj, ?_⟩
      rw [prefixSum_concat_of_le hj, prefixSum_concat_of_le (hij.trans hj)]
    · right
      refine ⟨_, ⟨i, hij, rfl⟩, ?_⟩
      rw [prefixSum_concat_last]
  · rintro (⟨i, j, hij, hj, rfl⟩ | ⟨_, ⟨i, hi, rfl⟩, rfl⟩)
    · refine ⟨i, j, hij, by omega, ?_⟩
      rw [prefixSum_concat_of_le hj, prefixSum_concat_of_le (hij.trans hj)]
    · refine ⟨i, xs.length + 1, hi, le_rfl, ?_⟩
      rw [prefixSum_concat_last]

/-! ### The greatest ones -/

section order

variable [LinearOrder α] {xs : List α} {peak deepest : α}

theorem isGreatest_heights_concat (h : IsGreatest (heights xs) peak) (x : α) :
    IsGreatest (heights (xs ++ [x])) (max peak (xs.sum + x)) := by
  rw [heights_concat, max_comm]
  exact h.insert _

/-- The deepest fall after one more element: an earlier one, or the one from the highest point. -/
theorem isGreatest_falls_concat [IsOrderedAddMonoid α] {x : α} (h : IsGreatest (falls xs) deepest)
    (hpeak : IsGreatest (heights (xs ++ [x])) peak) :
    IsGreatest (falls (xs ++ [x])) (max deepest (peak - (xs.sum + x))) := by
  have hmono : Monotone fun height : α => height - (xs.sum + x) := by
    intro a b hab
    exact sub_le_sub_right hab _
  rw [falls_concat]
  exact h.union (hmono.map_isGreatest hpeak)

end order

end OandaV3
