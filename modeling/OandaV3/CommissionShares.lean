import Mathlib.Algebra.BigOperators.Ring.List
import OandaV3.TradeNormalizer

/-! # The shares of a commission

`_allocate_commission` rounds the share of every leg but the last to the precision of the
commission, half up, and gives the last leg what is left.  No leg is charged more than the whole,
but the last one is credited when the legs before it gained more by rounding than its own share is
worth.

* `allocateCommission_concat`: the shares, with the remainder written out.
* `allocateCommission_between_iff`: every share lies between zero and the commission exactly when
  the rounding gains of the legs before the last are at most the exact share of the last. -/

namespace OandaV3

/-! ### Rounding half up -/

/-- What a number gains when it is rounded half up to a whole number. -/
def roundingGain (x : ℚ) : ℚ := ⌊x + 1 / 2⌋ - x

theorem decimalQuantum_pos (d : Decimal) : 0 < decimalQuantum d := by
  unfold decimalQuantum
  split_ifs
  · exact one_pos
  · exact zpow_pos (by norm_num) _

/-- A decimal is a whole number of its quanta. -/
theorem exists_quanta (d : Decimal) : ∃ n : ℤ, d.toRat = n * decimalQuantum d := by
  unfold decimalQuantum
  split_ifs with h
  · obtain ⟨k, hk⟩ := Int.eq_ofNat_of_zero_le h
    refine ⟨d.coefficient * 10 ^ k, ?_⟩
    rw [Decimal.toRat, hk, zpow_natCast, mul_one]
    push_cast
    rfl
  · exact ⟨d.coefficient, rfl⟩

theorem floor_add_half_le {x : ℚ} {n : ℤ} (h : x ≤ n) : ⌊x + 1 / 2⌋ ≤ n := by
  rw [← Int.lt_add_one_iff, Int.floor_lt]
  push_cast
  linarith

theorem floor_add_half_nonneg {x : ℚ} (h : 0 ≤ x) : 0 ≤ ⌊x + 1 / 2⌋ :=
  Int.floor_nonneg.mpr (by linarith)

/-! ### The shares -/

section shares

variable {totalCommission : Decimal}

/-- The loop rounds the share of every unit but the last. -/
theorem allocateFrom_concat (total totalAbsUnits quantum : ℚ) (units : List ℚ) (last : ℚ)
    (runningTotal : ℚ) :
    allocateFrom total totalAbsUnits quantum runningTotal (units ++ [last]) =
      units.map (fun unit => quantizeHalfUp (total * |unit| / totalAbsUnits) quantum) ++
        [total - (runningTotal + (units.map fun unit =>
          quantizeHalfUp (total * |unit| / totalAbsUnits) quantum).sum)] := by
  induction units generalizing runningTotal with
  | nil => simp only [List.nil_append, allocateFrom, List.map_nil, List.sum_nil, add_zero]
  | cons unit units ih =>
      rw [List.cons_append, allocateFrom, ih, List.map_cons, List.sum_cons, add_assoc,
        List.cons_append]
      simp

/-- The share of a leg before rounding, in quanta of the commission. -/
def exactShare (totalCommission : Decimal) (units : List ℚ) (unit : ℚ) : ℚ :=
  totalCommission.toRat / decimalQuantum totalCommission * (|unit| / (units.map (|·|)).sum)

theorem exactShare_mul (units : List ℚ) (unit : ℚ) :
    totalCommission.toRat * |unit| / (units.map (|·|)).sum =
      exactShare totalCommission units unit * decimalQuantum totalCommission := by
  have hquantum := (decimalQuantum_pos totalCommission).ne'
  rw [exactShare]
  field_simp

theorem sum_abs_nonneg (units : List ℚ) : 0 ≤ (units.map (|·|)).sum :=
  List.sum_nonneg fun x hx => by
    obtain ⟨u, -, rfl⟩ := List.mem_map.mp hx
    exact abs_nonneg u

theorem abs_le_sum_abs {units : List ℚ} {unit : ℚ} (hunit : unit ∈ units) :
    |unit| ≤ (units.map (|·|)).sum :=
  List.single_le_sum (fun x hx => by
    obtain ⟨u, -, rfl⟩ := List.mem_map.mp hx
    exact abs_nonneg u) _ (List.mem_map_of_mem hunit)

theorem exactShare_nonneg (hcommission : 0 ≤ totalCommission.toRat) (units : List ℚ) (unit : ℚ) :
    0 ≤ exactShare totalCommission units unit :=
  mul_nonneg (div_nonneg hcommission (decimalQuantum_pos _).le)
    (div_nonneg (abs_nonneg unit) (sum_abs_nonneg units))

theorem exactShare_le (hcommission : 0 ≤ totalCommission.toRat) {units : List ℚ} {unit : ℚ}
    (hunit : unit ∈ units) :
    exactShare totalCommission units unit ≤
      totalCommission.toRat / decimalQuantum totalCommission :=
  mul_le_of_le_one_right (div_nonneg hcommission (decimalQuantum_pos _).le)
    (div_le_one_of_le₀ (abs_le_sum_abs hunit) (sum_abs_nonneg units))

/-- The exact shares add up to the commission. -/
theorem sum_exactShare (totalCommission : Decimal) {units : List ℚ}
    (hunits : (units.map (|·|)).sum ≠ 0) :
    (units.map (exactShare totalCommission units)).sum =
      totalCommission.toRat / decimalQuantum totalCommission := by
  unfold exactShare
  rw [List.sum_map_mul_left]
  simp only [div_eq_mul_inv]
  rw [List.sum_map_mul_right, mul_inv_cancel₀ hunits, mul_one]

/-- A share rounded half up is the exact share and its rounding gain, in money. -/
theorem quantizeHalfUp_share (hcommission : 0 ≤ totalCommission.toRat) (units : List ℚ)
    (unit : ℚ) :
    quantizeHalfUp (totalCommission.toRat * |unit| / (units.map (|·|)).sum)
        (decimalQuantum totalCommission) =
      ⌊exactShare totalCommission units unit + 1 / 2⌋ * decimalQuantum totalCommission := by
  have hquantum := decimalQuantum_pos totalCommission
  have hshare := exactShare_nonneg hcommission units unit
  rw [exactShare_mul, quantizeHalfUp, if_pos (mul_nonneg hshare hquantum.le),
    mul_div_assoc, div_self hquantum.ne', mul_one]

/-- All shares of a commission: the last leg gets what is left. -/
theorem allocateCommission_concat (hcommission : 0 ≤ totalCommission.toRat) {before : List ℚ}
    {last : ℚ} (hunits : ((before ++ [last]).map (|·|)).sum ≠ 0) :
    let rounded := before.map fun unit =>
      ⌊exactShare totalCommission (before ++ [last]) unit + 1 / 2⌋ * decimalQuantum totalCommission
    allocateCommission totalCommission (before ++ [last]) =
      rounded ++ [totalCommission.toRat - rounded.sum] := by
  simp only [allocateCommission, if_neg hunits, allocateFrom_concat, zero_add,
    quantizeHalfUp_share hcommission]

theorem rounded_between (hcommission : 0 ≤ totalCommission.toRat) {units : List ℚ} {unit : ℚ}
    (hunit : unit ∈ units) :
    0 ≤ ⌊exactShare totalCommission units unit + 1 / 2⌋ * decimalQuantum totalCommission ∧
      ⌊exactShare totalCommission units unit + 1 / 2⌋ * decimalQuantum totalCommission ≤
        totalCommission.toRat := by
  have hquantum := decimalQuantum_pos totalCommission
  obtain ⟨n, hn⟩ := exists_quanta totalCommission
  have hle : exactShare totalCommission units unit ≤ n := by
    have := exactShare_le hcommission hunit
    rwa [hn, mul_div_assoc, div_self hquantum.ne', mul_one] at this
  refine ⟨mul_nonneg ?_ hquantum.le, ?_⟩
  · exact_mod_cast floor_add_half_nonneg (exactShare_nonneg hcommission units unit)
  · rw [hn]
    exact mul_le_mul_of_nonneg_right (by exact_mod_cast floor_add_half_le hle) hquantum.le

/-- The remainder is worth the exact share of the last leg, less what the others gained. -/
theorem remainder_eq (totalCommission : Decimal) {before : List ℚ} {last : ℚ}
    (hunits : ((before ++ [last]).map (|·|)).sum ≠ 0) :
    totalCommission.toRat - (before.map fun unit =>
        ⌊exactShare totalCommission (before ++ [last]) unit + 1 / 2⌋ *
          decimalQuantum totalCommission).sum =
      (exactShare totalCommission (before ++ [last]) last - (before.map fun unit =>
        roundingGain (exactShare totalCommission (before ++ [last]) unit)).sum) *
          decimalQuantum totalCommission := by
  have hquantum := (decimalQuantum_pos totalCommission).ne'
  have hsum := sum_exactShare totalCommission hunits
  rw [List.map_append, List.sum_append, List.map_singleton, List.sum_singleton,
    eq_div_iff hquantum] at hsum
  have hrounded : (before.map fun unit =>
        (⌊exactShare totalCommission (before ++ [last]) unit + 1 / 2⌋ : ℚ)).sum =
      (before.map fun unit =>
        roundingGain (exactShare totalCommission (before ++ [last]) unit)).sum +
      (before.map (exactShare totalCommission (before ++ [last]))).sum := by
    rw [← List.sum_map_add]
    simp only [roundingGain, sub_add_cancel]
  rw [List.sum_map_mul_right, hrounded, ← hsum]
  ring

/-- **Every share of a commission lies between zero and the whole exactly when the legs before the
last gain no more by rounding than the exact share of the last.** -/
theorem allocateCommission_between_iff (hcommission : 0 ≤ totalCommission.toRat) {units : List ℚ}
    (hunits : units ≠ []) :
    (∀ share ∈ allocateCommission totalCommission units,
      0 ≤ share ∧ share ≤ totalCommission.toRat) ↔
    (units.dropLast.map fun unit => roundingGain (exactShare totalCommission units unit)).sum ≤
      exactShare totalCommission units (units.getLast hunits) := by
  obtain ⟨before, last, rfl⟩ : ∃ before last, units = before ++ [last] :=
    ⟨_, _, (List.dropLast_concat_getLast hunits).symm⟩
  rw [List.dropLast_concat, List.getLast_append_singleton]
  by_cases hzero : ((before ++ [last]).map (|·|)).sum = 0
  · -- without units there is nothing to share, and nothing is rounded
    have hshare : ∀ unit, exactShare totalCommission (before ++ [last]) unit = 0 := by
      intro unit
      rw [exactShare, hzero, div_zero, mul_zero]
    simp only [allocateCommission, if_pos hzero, hshare]
    refine iff_of_true ?_ ?_
    · intro share hmem
      obtain ⟨-, -, rfl⟩ := List.mem_map.mp hmem
      exact ⟨le_rfl, hcommission⟩
    · norm_num [roundingGain]
  · have hquantum := decimalQuantum_pos totalCommission
    have hremainder := remainder_eq totalCommission hzero
    have hrounded : ∀ share ∈ before.map (fun unit =>
        ⌊exactShare totalCommission (before ++ [last]) unit + 1 / 2⌋ *
          decimalQuantum totalCommission), 0 ≤ share ∧ share ≤ totalCommission.toRat := by
      intro share hmem
      obtain ⟨unit, hunit, rfl⟩ := List.mem_map.mp hmem
      exact rounded_between hcommission (List.mem_append_left _ hunit)
    rw [allocateCommission_concat hcommission hzero, List.forall_mem_append,
      List.forall_mem_singleton]
    constructor
    · rintro ⟨-, hlast, -⟩
      rw [hremainder] at hlast
      exact sub_nonneg.mp (nonneg_of_mul_nonneg_left hlast hquantum)
    · intro hgain
      refine ⟨hrounded, ?_, sub_le_self _ (List.sum_nonneg fun share hmem => (hrounded share hmem).1)⟩
      rw [hremainder]
      exact mul_nonneg (sub_nonneg.mpr hgain) hquantum.le

/-- Two cents over four equal legs: each of the first three is rounded up to a cent, and the last
one is credited a cent. -/
theorem allocateCommission_fourLegs :
    let totalCommission : Decimal := ⟨2, -2⟩
    let units : List ℚ := [1, 1, 1, 1]
    0 ≤ totalCommission.toRat ∧ units ≠ [] ∧ (∀ unit ∈ units, unit ≠ 0) ∧
      allocateCommission totalCommission units = [1 / 100, 1 / 100, 1 / 100, -1 / 100] ∧
      ¬ ∀ share ∈ allocateCommission totalCommission units,
        0 ≤ share ∧ share ≤ totalCommission.toRat := by
  decide +kernel

/-- Five cents over three equal legs, as two, two and one. -/
theorem allocateCommission_threeLegs :
    allocateCommission ⟨5, -2⟩ [1, 1, 1] = [1 / 50, 1 / 50, 1 / 100] ∧
      ∀ share ∈ allocateCommission ⟨5, -2⟩ [1, 1, 1],
        0 ≤ share ∧ share ≤ Decimal.toRat ⟨5, -2⟩ :=
  ⟨by decide +kernel, (allocateCommission_between_iff (by decide +kernel)
    (List.cons_ne_nil _ _)).mpr (by decide +kernel)⟩

end shares

end OandaV3
