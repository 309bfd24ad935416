import Mathlib.Algebra.Order.Ring.Nat
import Mathlib.Data.List.Lex

/-! # Numerals of a fixed width

Numerals of equally many places, over any alphabet whose digits are in their order.

* `append_singleton_lt_iff`: how two texts of one length compare by their last letter.
* `places_lt_places`: the numerals compare as the numbers they denote. -/

namespace Numerals

variable {α : Type}

/-- The numeral of `w` places in base `b`, the last digit at its end. -/
def places (b : ℕ) (digit : ℕ → α) : ℕ → ℕ → List α
  | 0, _ => []
  | w + 1, n => places b digit w (n / b) ++ [digit (n % b)]

variable {b : ℕ} {digit : ℕ → α} {w m n : ℕ}

@[simp] theorem length_places (b : ℕ) (digit : ℕ → α) (w n : ℕ) :
    (places b digit w n).length = w := by
  induction w generalizing n with
  | zero => rfl
  | succ w ih => simp [places, ih]

theorem places_zero (b : ℕ) (digit : ℕ → α) (w : ℕ) :
    places b digit w 0 = List.replicate w (digit 0) := by
  induction w with
  | zero => rfl
  | succ w ih => rw [places, Nat.zero_div, Nat.zero_mod, ih, List.replicate_succ']

variable [LinearOrder α]

/-- Texts of one length compare by their last letter only when the rest is the same. -/
theorem append_singleton_lt_iff {s t : List α} (h : s.length = t.length) {a c : α} :
    s ++ [a] < t ++ [c] ↔ s < t ∨ (s = t ∧ a < c) := by
  induction s generalizing t with
  | nil =>
      obtain rfl := List.length_eq_zero_iff.mp h.symm
      simp [List.cons_lt_cons_iff]
  | cons x s ih =>
      cases t with
      | nil => cases h
      | cons y t =>
          rw [List.cons_append, List.cons_append, List.cons_lt_cons_iff, List.cons_lt_cons_iff,
            ih (Nat.succ.inj h)]
          grind

theorem places_lt_places (hdigit : ∀ d < b, ∀ e < b, (digit d < digit e ↔ d < e))
    (hm : m < b ^ w) (hn : n < b ^ w) :
    places b digit w m < places b digit w n ↔ m < n := by
  induction w generalizing m n with
  | zero =>
      rw [Nat.pow_zero] at hm hn
      simp [places]
      omega
  | succ w ih =>
      have hb : 0 < b := by
        rcases Nat.eq_zero_or_pos b with rfl | hpos
        · simp at hm
        · exact hpos
      have hm' : m / b < b ^ w := Nat.div_lt_of_lt_mul (by rwa [Nat.mul_comm, ← Nat.pow_succ])
      have hn' : n / b < b ^ w := Nat.div_lt_of_lt_mul (by rwa [Nat.mul_comm, ← Nat.pow_succ])
      -- neither number is less than the other when their numerals are equal
      have hsame : places b digit w (m / b) = places b digit w (n / b) ↔ m / b = n / b := by
        constructor
        · intro heq
          have hlt := ih hm' hn'
          have hgt := ih hn' hm'
          rw [heq] at hlt hgt
          simp only [lt_irrefl, false_iff] at hlt hgt
          omega
        · intro heq
          rw [heq]
      rw [places, places, append_singleton_lt_iff (by simp), ih hm' hn', hsame,
        hdigit _ (Nat.mod_lt m hb) _ (Nat.mod_lt n hb)]
      have hmdiv := Nat.div_add_mod m b
      have hndiv := Nat.div_add_mod n b
      constructor
      · rintro (hlt | ⟨heq, hlt⟩)
        · exact Nat.lt_of_div_lt_div hlt
        · rw [heq] at hmdiv
          omega
      · intro hlt
        rcases Nat.lt_or_eq_of_le (Nat.div_le_div_right (c := b) hlt.le) with hdiv | hdiv
        · exact Or.inl hdiv
        · refine Or.inr ⟨hdiv, ?_⟩
          rw [hdiv] at hmdiv
          omega

end Numerals
