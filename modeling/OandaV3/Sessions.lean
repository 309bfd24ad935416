import Mathlib.Order.Bounds.Basic

/-! # Sessions

A session is open from one moment to a later one, this one excluded; a calendar lists sessions that do not
overlap, one after the other.  `next` is the first session of a list that is not over at a moment, which is
what a scan stops at.

* `next_eq_of_contains`: the session that is on is the next one.
* `leastOf_next`: when the next session is still to come, no other one opens before it.
* `LeastOf`: the least of a set that may be empty, and the least of two of them (`LeastOf.union`). -/

namespace Sessions

variable {τ : Type} [LinearOrder τ]

/-- From `opens` to `closes`. -/
structure Session (τ : Type) [LinearOrder τ] where
  opens : τ
  closes : τ
  lt : opens < closes

/-- The session is on. -/
def Session.Contains (s : Session τ) (now : τ) : Prop := s.opens ≤ now ∧ now < s.closes

/-- Each session is over when the next one opens. -/
def Ordered (l : List (Session τ)) : Prop := l.Pairwise fun s t => s.closes ≤ t.opens

/-- The first session that is not over. -/
def next (now : τ) : List (Session τ) → Option (Session τ)
  | [] => none
  | s :: l => if s.closes ≤ now then next now l else some s

section next

variable {now : τ} {l : List (Session τ)} {s t : Session τ}

theorem next_eq_none (h : next now l = none) : ∀ s ∈ l, s.closes ≤ now := by
  induction l with
  | nil => exact fun _ hs => absurd hs List.not_mem_nil
  | cons s l ih =>
      rw [next] at h
      split_ifs at h with hover
      exact List.forall_mem_cons.mpr ⟨hover, ih h⟩

/-- The next session is there, is not over, and all others are over or come after it. -/
theorem next_eq_some (hordered : Ordered l) (h : next now l = some s) :
    s ∈ l ∧ now < s.closes ∧ ∀ t ∈ l, t = s ∨ t.closes ≤ now ∨ s.closes ≤ t.opens := by
  induction l with
  | nil => cases h
  | cons first l ih =>
      obtain ⟨hfirst, hordered⟩ := List.pairwise_cons.mp hordered
      rw [next] at h
      split_ifs at h with hover
      · obtain ⟨hmem, hlt, hall⟩ := ih hordered h
        exact ⟨List.mem_cons_of_mem _ hmem, hlt, List.forall_mem_cons.mpr ⟨Or.inr (Or.inl hover), hall⟩⟩
      · obtain rfl := Option.some.inj h
        exact ⟨List.mem_cons_self, not_le.mp hover,
          List.forall_mem_cons.mpr ⟨Or.inl rfl, fun t ht => Or.inr (Or.inr (hfirst t ht))⟩⟩

theorem next_eq_of_contains (hordered : Ordered l) (ht : t ∈ l) (hon : t.Contains now) :
    next now l = some t := by
  cases h : next now l with
  | none => exact absurd hon.2 (not_lt.mpr (next_eq_none h t ht))
  | some s =>
      obtain ⟨-, hlt, hall⟩ := next_eq_some hordered h
      rcases hall t ht with rfl | hover | hlater
      · rfl
      · exact absurd hon.2 (not_lt.mpr hover)
      · exact absurd (hlater.trans hon.1) (not_le.mpr hlt)

end next

/-! ### The least of a set -/

/-- The least element of a set, if it has one; `none` when the set is empty. -/
def LeastOf (S : Set τ) : Option τ → Prop
  | none => S = ∅
  | some t => IsLeast S t

section leastOf

variable {S T : Set τ} {o p : Option τ}

/-- The less of two moments that may be missing. -/
def least : Option τ → Option τ → Option τ
  | none, p => p
  | o, none => o
  | some t, some u => some (min t u)

theorem LeastOf.union (hS : LeastOf S o) (hT : LeastOf T p) : LeastOf (S ∪ T) (least o p) := by
  cases o with
  | none =>
      rw [LeastOf] at hS
      rw [hS, Set.empty_union]
      cases p with
      | none => exact hT
      | some u => exact hT
  | some t =>
      cases p with
      | none =>
          rw [LeastOf] at hT
          rw [hT, Set.union_empty]
          exact hS
      | some u => exact IsLeast.union hS hT

/-- The opening of the next session is the first one after a moment that is in no session. -/
theorem leastOf_next {now : τ} {l : List (Session τ)} (hordered : Ordered l)
    (hclosed : ∀ s ∈ l, ¬ s.Contains now) :
    LeastOf {t | ∃ s ∈ l, s.opens = t ∧ now < t} ((next now l).map Session.opens) := by
  cases h : next now l with
  | none =>
      refine Set.eq_empty_iff_forall_notMem.mpr ?_
      rintro t ⟨s, hs, rfl, hnow⟩
      exact absurd (hnow.trans s.lt) (not_lt.mpr (next_eq_none h s hs))
  | some s =>
      obtain ⟨hmem, hlt, hall⟩ := next_eq_some hordered h
      have hnow : now < s.opens := not_le.mp fun hle => hclosed s hmem ⟨hle, hlt⟩
      refine ⟨⟨s, hmem, rfl, hnow⟩, ?_⟩
      rintro t ⟨u, hu, rfl, hafter⟩
      rcases hall u hu with rfl | hover | hlater
      · exact le_refl _
      · exact absurd (hafter.trans u.lt) (not_lt.mpr hover)
      · exact s.lt.le.trans hlater

end leastOf

end Sessions
