import Mathlib.Logic.Function.Basic

/-! # Calls that take turns

Any number of calls run one machine on a shared state, a step of one call at a time.  `after` is the state
that an interleaving leads to and `trace` its steps, the last one first.

`Disciplined.exclusive`: when a machine enters and leaves its critical phases with a lock, at most one call
is in such a phase, and the lock is taken exactly when one is. -/

namespace Turns

variable {ι τ φ γ : Type}

/-- What a call does in a turn: its next phase, and the next shared state. -/
abbrev Machine (τ φ γ : Type) := τ → φ → γ → φ × γ

/-- The phase of each call, and what they share. -/
structure System (ι φ γ : Type) where
  phases : ι → φ
  shared : γ

/-- Whose turn it is, and what the world answers. -/
structure Turn (ι τ : Type) where
  call : ι
  input : τ

structure Step (ι τ φ : Type) where
  call : ι
  input : τ
  before : φ
  next : φ

variable [DecidableEq ι] (m : Machine τ φ γ)

def System.turn (s : System ι φ γ) (t : Turn ι τ) : System ι φ γ where
  phases := Function.update s.phases t.call (m t.input (s.phases t.call) s.shared).1
  shared := (m t.input (s.phases t.call) s.shared).2

def System.step (s : System ι φ γ) (t : Turn ι τ) : Step ι τ φ where
  call := t.call
  input := t.input
  before := s.phases t.call
  next := (m t.input (s.phases t.call) s.shared).1

/-- The state after turns, the last one first. -/
def after (s₀ : System ι φ γ) : List (Turn ι τ) → System ι φ γ
  | [] => s₀
  | t :: ts => (after s₀ ts).turn m t

/-- The steps of turns, the last one first. -/
def trace (s₀ : System ι φ γ) : List (Turn ι τ) → List (Step ι τ φ)
  | [] => []
  | t :: ts => (after m s₀ ts).step m t :: trace s₀ ts

/-- A turn of this kind was taken. -/
def Taken (s₀ : System ι φ γ) (P : System ι φ γ → Turn ι τ → Prop) (ts : List (Turn ι τ)) : Prop :=
  ∃ later t earlier, ts = later ++ t :: earlier ∧ P (after m s₀ earlier) t

section taken

variable {m} {s₀ : System ι φ γ} {P : System ι φ γ → Turn ι τ → Prop} {t : Turn ι τ} {ts : List (Turn ι τ)}

theorem taken_cons : Taken m s₀ P (t :: ts) ↔ P (after m s₀ ts) t ∨ Taken m s₀ P ts := by
  constructor
  · rintro ⟨later, t', earlier, hts, hP⟩
    cases later with
    | nil =>
        obtain ⟨rfl, rfl⟩ := List.cons.inj hts
        exact Or.inl hP
    | cons last later => exact Or.inr ⟨later, t', earlier, (List.cons.inj hts).2, hP⟩
  · rintro (hP | ⟨later, t', earlier, hts, hP⟩)
    · exact ⟨[], t, ts, rfl, hP⟩
    · exact ⟨t :: later, t', earlier, congrArg (t :: ·) hts, hP⟩

end taken

theorem System.phases_turn (s : System ι φ γ) (t : Turn ι τ) (i : ι) :
    (s.turn m t).phases i = if i = t.call then (m t.input (s.phases t.call) s.shared).1 else s.phases i :=
  Function.update_apply ..

/-! ### A lock -/

/-- The machine takes the lock to get into a critical phase, and releases it to leave. -/
structure Disciplined (inside : φ → Prop) (lock : γ → Bool) : Prop where
  outside : ∀ x p g, ¬ inside p → ¬ inside (m x p g).1 → lock (m x p g).2 = lock g
  enter : ∀ x p g, ¬ inside p → inside (m x p g).1 → lock g = false ∧ lock (m x p g).2 = true
  stay : ∀ x p g, inside p → inside (m x p g).1 → lock (m x p g).2 = lock g
  leave : ∀ x p g, inside p → ¬ inside (m x p g).1 → lock (m x p g).2 = false

/-- One call at most is in a critical phase, and the lock says whether one is. -/
structure Exclusive (inside : φ → Prop) (lock : γ → Bool) (s : System ι φ γ) : Prop where
  unique : ∀ i j, inside (s.phases i) → inside (s.phases j) → i = j
  locked : lock s.shared = true ↔ ∃ i, inside (s.phases i)

section lock

variable {m} {inside : φ → Prop} {lock : γ → Bool} {s : System ι φ γ}

theorem Exclusive.turn (hm : Disciplined m inside lock) (h : Exclusive inside lock s) (t : Turn ι τ) :
    Exclusive inside lock (s.turn m t) := by
  have hself : (s.turn m t).phases t.call = (m t.input (s.phases t.call) s.shared).1 :=
    Function.update_self ..
  have hother : ∀ i, i ≠ t.call → (s.turn m t).phases i = s.phases i :=
    fun i hi => Function.update_of_ne hi ..
  by_cases hin : inside (s.phases t.call)
  · -- the call is the one that was inside
    have hout : ∀ i, i ≠ t.call → ¬ inside ((s.turn m t).phases i) := by
      intro i hi hinside
      rw [hother i hi] at hinside
      exact hi (h.unique i t.call hinside hin)
    refine ⟨fun i j hi hj => ?_, ?_⟩
    · rw [not_imp_not.mp (hout i) hi, not_imp_not.mp (hout j) hj]
    · by_cases hnext : inside (m t.input (s.phases t.call) s.shared).1
      · exact iff_of_true ((hm.stay _ _ _ hin hnext).trans (h.locked.mpr ⟨_, hin⟩)) ⟨_, hself.symm ▸ hnext⟩
      · refine iff_of_false (Bool.eq_false_iff.mp (hm.leave _ _ _ hin hnext)) ?_
        rintro ⟨i, hi⟩
        by_cases hcall : i = t.call
        · rw [hcall, hself] at hi
          exact hnext hi
        · exact hout i hcall hi
  · by_cases hnext : inside (m t.input (s.phases t.call) s.shared).1
    · -- the lock was free, so nobody was inside
      obtain ⟨hfree, htaken⟩ := hm.enter _ _ _ hin hnext
      have hnone : ∀ i, ¬ inside (s.phases i) :=
        fun i hi => Bool.eq_false_iff.mp hfree (h.locked.mpr ⟨i, hi⟩)
      have hout : ∀ i, i ≠ t.call → ¬ inside ((s.turn m t).phases i) := by
        intro i hi
        rw [hother i hi]
        exact hnone i
      refine ⟨fun i j hi hj => ?_, iff_of_true htaken ⟨_, hself.symm ▸ hnext⟩⟩
      rw [not_imp_not.mp (hout i) hi, not_imp_not.mp (hout j) hj]
    · have hsame : ∀ i, inside ((s.turn m t).phases i) ↔ inside (s.phases i) := by
        intro i
        by_cases hcall : i = t.call
        · rw [hcall, hself]
          exact iff_of_false hnext hin
        · rw [hother i hcall]
      refine ⟨fun i j hi hj => h.unique i j ((hsame i).mp hi) ((hsame j).mp hj), ?_⟩
      change lock (m t.input (s.phases t.call) s.shared).2 = true ↔ _
      rw [hm.outside _ _ _ hin hnext, h.locked]
      exact exists_congr fun i => (hsame i).symm

theorem Disciplined.exclusive (hm : Disciplined m inside lock) {s₀ : System ι φ γ}
    (h₀ : Exclusive inside lock s₀) (ts : List (Turn ι τ)) : Exclusive inside lock (after m s₀ ts) := by
  induction ts with
  | nil => exact h₀
  | cons t ts ih => exact ih.turn hm t

end lock

end Turns
