import Mathlib.Algebra.Order.Group.Int
import Mathlib.Algebra.Order.Ring.Int
import Mathlib.Data.Int.ConditionallyCompleteOrder
import Mathlib.Order.Monotone.Basic
import Mathlib.Tactic.Linarith

/-! # Segments of a line

A line of integers cut into consecutive segments of any lengths, each of them filled with slots of one
length from its start; the last slot of a segment is cut off where the next segment begins.

* `index_eq`: a point lies in one segment only.
* `floor_le`, `lt_floor_add`, `floor_mono`, `floor_floor`: the start of the slot of a point.
* `closed_iff`: a slot has ended exactly when it starts no later than one slot before the current one,
  provided that a slot starts there.
* `not_isSlot_of_not_dvd`: when the segment before ended within a slot, no slot starts there. -/

/-- Consecutive segments, and the one each point lies in. -/
structure Segments where
  start : ℤ → ℤ
  index : ℤ → ℤ
  start_lt : ∀ i, start i < start (i + 1)
  start_index_le : ∀ t, start (index t) ≤ t
  lt_start_succ : ∀ t, t < start (index t + 1)

namespace Segments

variable (s : Segments)

def length (i : ℤ) : ℤ := s.start (i + 1) - s.start i

theorem start_strictMono : StrictMono s.start := strictMono_int_of_lt_succ s.start_lt

theorem start_le_start {i j : ℤ} : s.start i ≤ s.start j ↔ i ≤ j := s.start_strictMono.le_iff_le

theorem index_eq {t i : ℤ} (hle : s.start i ≤ t) (hlt : t < s.start (i + 1)) : s.index t = i := by
  have h₁ : i < s.index t + 1 := s.start_strictMono.lt_iff_lt.mp (hle.trans_lt (s.lt_start_succ t))
  have h₂ : s.index t < i + 1 := s.start_strictMono.lt_iff_lt.mp ((s.start_index_le t).trans_lt hlt)
  omega

theorem le_index {t i : ℤ} (hle : s.start i ≤ t) : i ≤ s.index t := by
  have hlt : i < s.index t + 1 := s.start_strictMono.lt_iff_lt.mp (hle.trans_lt (s.lt_start_succ t))
  omega

theorem index_mono {t u : ℤ} (h : t ≤ u) : s.index t ≤ s.index u :=
  s.le_index ((s.start_index_le t).trans h)

/-- The start of the slot of a point. -/
def floor (slot t : ℤ) : ℤ := s.start (s.index t) + (t - s.start (s.index t)) / slot * slot

/-- A slot starts at this point. -/
def IsSlot (slot b : ℤ) : Prop := s.floor slot b = b

instance (slot b : ℤ) : Decidable (s.IsSlot slot b) := inferInstanceAs (Decidable (_ = _))

section slots

variable {slot : ℤ}

theorem isSlot_iff_dvd (b : ℤ) : s.IsSlot slot b ↔ slot ∣ b - s.start (s.index b) := by
  unfold IsSlot floor
  constructor
  · intro h
    exact ⟨(b - s.start (s.index b)) / slot, by rw [mul_comm]; omega⟩
  · intro h
    rw [Int.ediv_mul_cancel h]
    omega

/-- A slot that starts before a later slot of its segment starts a whole slot before it. -/
theorem add_slot_le {i b c : ℤ} (hb : slot ∣ b - s.start i) (hc : slot ∣ c - s.start i) (h : b < c) :
    b + slot ≤ c := by
  have hdvd : slot ∣ c - b := by
    have hsub := Int.dvd_sub hc hb
    rwa [sub_sub_sub_cancel_right] at hsub
  have hle := Int.le_of_dvd (sub_pos.mpr h) hdvd
  omega

/-- When the current slot is the first of its segment, and the segments from `i` on do not make up
whole slots, no slot starts one slot earlier. -/
theorem not_isSlot_of_not_dvd {t i : ℤ} (hfirst : t - s.start (s.index t) < slot)
    (hlow : s.start i ≤ s.start (s.index t) - slot) (hhigh : s.start (s.index t) - slot < s.start (i + 1))
    (hdvd : ¬ slot ∣ s.start (s.index t) - s.start i) :
    ¬ s.IsSlot slot (s.floor slot t - slot) := by
  have hfloor : s.floor slot t = s.start (s.index t) := by
    rw [floor, Int.ediv_eq_zero_of_lt (sub_nonneg.mpr (s.start_index_le t)) hfirst, zero_mul, add_zero]
  rw [hfloor, s.isSlot_iff_dvd, s.index_eq hlow hhigh, sub_right_comm]
  intro h
  have hadd := Int.dvd_add h (Int.dvd_refl slot)
  rw [sub_add_cancel] at hadd
  exact hdvd hadd

variable (hslot : 0 < slot)
include hslot

theorem floor_le (t : ℤ) : s.floor slot t ≤ t := by
  have hdiv := Int.ediv_mul_le (t - s.start (s.index t)) hslot.ne'
  unfold floor
  omega

theorem lt_floor_add (t : ℤ) : t < s.floor slot t + slot := by
  have hdiv := Int.lt_ediv_add_one_mul_self (t - s.start (s.index t)) hslot
  rw [add_mul, one_mul] at hdiv
  unfold floor
  omega

theorem start_le_floor (t : ℤ) : s.start (s.index t) ≤ s.floor slot t := by
  have hpos : 0 ≤ (t - s.start (s.index t)) / slot :=
    Int.ediv_nonneg (sub_nonneg.mpr (s.start_index_le t)) hslot.le
  have hmul := Int.mul_nonneg hpos hslot.le
  unfold floor
  omega

theorem index_floor (t : ℤ) : s.index (s.floor slot t) = s.index t :=
  s.index_eq (s.start_le_floor hslot t) ((s.floor_le hslot t).trans_lt (s.lt_start_succ t))

theorem floor_mono : Monotone (s.floor slot) := by
  intro t u h
  rcases (s.index_mono h).eq_or_lt with hsame | hlater
  · have hdiv := Int.ediv_le_ediv hslot (Int.sub_le_sub_right h (s.start (s.index u)))
    have hmul := Int.mul_le_mul_of_nonneg_right hdiv hslot.le
    simp only [floor, hsame]
    omega
  · have hend : s.start (s.index t + 1) ≤ s.start (s.index u) := s.start_le_start.mpr (by omega)
    have hnext := s.lt_start_succ t
    have hle := s.floor_le hslot t
    have hstart := s.start_le_floor hslot u
    omega

theorem floor_floor (t : ℤ) : s.IsSlot slot (s.floor slot t) := by
  rw [s.isSlot_iff_dvd, s.index_floor hslot, floor, add_sub_cancel_left]
  exact Dvd.intro_left _ rfl

/-- The segment of the slot before the current one, when a slot starts there. -/
theorem exists_last {t : ℤ}
    (hprev : slot ≤ t - s.start (s.index t) ∨ slot ∣ s.length (s.index t - 1)) :
    ∃ i, s.index t - 1 ≤ i ∧ i ≤ s.index t ∧ s.start i ≤ s.floor slot t - slot ∧
      s.floor slot t - slot < s.start (i + 1) ∧ slot ∣ s.floor slot t - s.start i := by
  have hcurrent := (s.isSlot_iff_dvd _).mp (s.floor_floor hslot t)
  rw [s.index_floor hslot] at hcurrent
  have hle := s.floor_le hslot t
  have hlt := s.lt_floor_add hslot t
  have hnext := s.lt_start_succ t
  by_cases hsame : s.start (s.index t) ≤ s.floor slot t - slot
  · exact ⟨s.index t, by omega, le_rfl, hsame, by omega, hcurrent⟩
  · rcases hprev with hsecond | hwhole
    · have hzero : s.floor slot t - s.start (s.index t) = 0 :=
        Int.eq_zero_of_dvd_of_nonneg_of_lt (sub_nonneg.mpr (s.start_le_floor hslot t)) (by omega)
          hcurrent
      omega
    · have hlength : s.length (s.index t - 1) =
          s.start (s.index t) - s.start (s.index t - 1) := by
        rw [length, sub_add_cancel]
      have hpos : 0 < s.length (s.index t - 1) := sub_pos.mpr (s.start_lt _)
      have hfits := Int.le_of_dvd hpos hwhole
      have hstart := s.start_le_floor hslot t
      refine ⟨s.index t - 1, le_rfl, by omega, by omega, by rw [sub_add_cancel]; omega, ?_⟩
      have hadd := Int.dvd_add hcurrent hwhole
      rwa [hlength, sub_add_sub_cancel] at hadd

/-- **When the slots that have ended are those up to the last one.**  The slot before the current one
starts one slot earlier if it lies in the same segment, or if the segment before is filled with whole
slots. -/
theorem closed_iff {t : ℤ}
    (hprev : slot ≤ t - s.start (s.index t) ∨ slot ∣ s.length (s.index t - 1)) :
    s.IsSlot slot (s.floor slot t - slot) ∧
      ∀ b, s.IsSlot slot b → (b + slot ≤ t ↔ b ≤ s.floor slot t - slot) := by
  have hcurrent := (s.isSlot_iff_dvd _).mp (s.floor_floor hslot t)
  rw [s.index_floor hslot] at hcurrent
  have hle := s.floor_le hslot t
  have hlt := s.lt_floor_add hslot t
  obtain ⟨i, hprevious, hi, hlow, hhigh, hdvd⟩ := s.exists_last hslot hprev
  refine ⟨?_, fun b hb => ⟨fun hclosed => ?_, fun hbefore => by omega⟩⟩
  · rw [s.isSlot_iff_dvd, s.index_eq hlow hhigh, sub_right_comm]
    exact Int.dvd_sub hdvd (Int.dvd_refl slot)
  · have hbefore : b < s.floor slot t := by omega
    rw [s.isSlot_iff_dvd] at hb
    have hbt : s.index b ≤ s.index t := s.index_mono (by omega)
    -- the slot starts in the segment of the last one, before it, or after it
    rcases lt_trichotomy (s.index b) i with hearlier | heq | hlater
    · have hend : s.start (s.index b + 1) ≤ s.start i := s.start_le_start.mpr (by omega)
      have hnext := s.lt_start_succ b
      omega
    · rw [heq] at hb
      have hwhole := add_slot_le s hb hdvd hbefore
      omega
    · rw [show s.index b = s.index t by omega] at hb
      have hwhole := add_slot_le s hb hcurrent hbefore
      omega

end slots

/-- The segments of one length. -/
def multiples (slot : ℤ) (hslot : 0 < slot) : Segments where
  start i := i * slot
  index t := t / slot
  start_lt i := by
    rw [add_mul, one_mul]
    omega
  start_index_le t := Int.ediv_mul_le t hslot.ne'
  lt_start_succ t := Int.lt_ediv_add_one_mul_self t hslot

@[simp] theorem multiples_floor {slot : ℤ} (hslot : 0 < slot) (t : ℤ) :
    (multiples slot hslot).floor slot t = t / slot * slot := by
  have hzero : (t - t / slot * slot) / slot = 0 :=
    Int.ediv_eq_zero_of_lt (sub_nonneg.mpr (Int.ediv_mul_le t hslot.ne'))
      (by have hlt := Int.lt_ediv_add_one_mul_self t hslot
          rw [add_mul, one_mul] at hlt
          omega)
  rw [floor, multiples, hzero, zero_mul, add_zero]

theorem multiples_length {slot : ℤ} (hslot : 0 < slot) (i : ℤ) :
    (multiples slot hslot).length i = slot := by
  have hstep : (i + 1) * slot - i * slot = slot := by rw [add_mul, one_mul, add_sub_cancel_left]
  exact hstep

end Segments
