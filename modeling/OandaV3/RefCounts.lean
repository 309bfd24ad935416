import Mathlib.Data.Int.Notation
import Mathlib.Data.List.Nodup
import Mathlib.Logic.Function.Basic

/-! # Counted handles

A table that keeps one handle for each key in use, with the number of its users; `held` lists the
handles that hold the resource of a key.

`Balanced` says that table, handles and users agree: a resource is held as long as it has users
(`held_iff`), and the count is their number (`count_eq`).  It is kept by one more user of a handle
(`retain`), a new handle (`insert`), one user less (`release`) and the end of a handle (`drop`). -/

namespace RefCount

/-- A handle with the number of its users. -/
structure Counted (η : Type) where
  handle : η
  refcount : ℤ := 1
deriving DecidableEq, Repr

variable {κ η : Type}

/-- The count of a key; a key that is not in the table has none. -/
def count (table : κ → Option (Counted η)) (k : κ) : ℤ := ((table k).map Counted.refcount).getD 0

def closeHandle [DecidableEq η] (handle : η) (held : List (η × κ)) : List (η × κ) :=
  held.filter fun item => decide (item.1 ≠ handle)

/-- Table, handles and users agree. -/
structure Balanced (table : κ → Option (Counted η)) (held : List (η × κ)) (users : κ → ℕ) :
    Prop where
  entry : ∀ k e, table k = some e → e.refcount = users k ∧ 0 < users k ∧ (e.handle, k) ∈ held
  unused : ∀ k, table k = none → users k = 0
  owned : ∀ handle k, (handle, k) ∈ held → ∃ e, table k = some e ∧ e.handle = handle
  handles : (held.map Prod.fst).Nodup

namespace Balanced

variable {table : κ → Option (Counted η)} {held : List (η × κ)} {users users' : κ → ℕ} {k : κ}
  {e : Counted η}

theorem empty : Balanced (fun _ : κ => (none : Option (Counted η))) [] fun _ => 0 where
  entry := by simp
  unused := by simp
  owned := by simp
  handles := List.nodup_nil

theorem held_iff (h : Balanced table held users) :
    (∃ handle, (handle, k) ∈ held) ↔ 0 < users k := by
  constructor
  · rintro ⟨handle, hheld⟩
    obtain ⟨e, he, -⟩ := h.owned _ _ hheld
    exact (h.entry _ _ he).2.1
  · intro hpos
    cases hk : table k with
    | none => exact absurd (h.unused _ hk) (Nat.pos_iff_ne_zero.mp hpos)
    | some e => exact ⟨e.handle, (h.entry _ _ hk).2.2⟩

theorem count_eq (h : Balanced table held users) : count table k = users k := by
  unfold count
  cases hk : table k with
  | none => rw [h.unused _ hk]; rfl
  | some e => exact (h.entry _ _ hk).1

variable [DecidableEq κ]

/-- The number of users of a key changes, its handle stays. -/
theorem recount (h : Balanced table held users) (he : table k = some e) {n : ℤ}
    (hn : n = users' k) (hpos : 0 < users' k) (hother : ∀ k' ≠ k, users' k' = users k') :
    Balanced (Function.update table k (some { e with refcount := n })) held users' where
  entry := by
    intro k' e' he'
    by_cases hk : k' = k
    · subst hk
      rw [Function.update_self] at he'
      obtain rfl := Option.some.inj he'
      exact ⟨hn, hpos, (h.entry _ _ he).2.2⟩
    · rw [Function.update_of_ne hk] at he'
      rw [hother _ hk]
      exact h.entry _ _ he'
  unused := by
    intro k' hk'
    by_cases hk : k' = k
    · subst hk
      rw [Function.update_self] at hk'
      cases hk'
    · rw [Function.update_of_ne hk] at hk'
      rw [hother _ hk]
      exact h.unused _ hk'
  owned := by
    intro handle k' hheld
    obtain ⟨e', he', hhandle⟩ := h.owned _ _ hheld
    by_cases hk : k' = k
    · subst hk
      rw [he] at he'
      obtain rfl := Option.some.inj he'
      exact ⟨_, Function.update_self _ _ _, hhandle⟩
    · exact ⟨e', by rwa [Function.update_of_ne hk], hhandle⟩
  handles := h.handles

theorem retain (h : Balanced table held users) (he : table k = some e)
    (hk : users' k = users k + 1) (hother : ∀ k' ≠ k, users' k' = users k') :
    Balanced (Function.update table k (some { e with refcount := e.refcount + 1 })) held users' := by
  have hcount := (h.entry _ _ he).1
  exact h.recount he (by omega) (by omega) hother

theorem release (h : Balanced table held users) (he : table k = some e)
    (hmore : 0 < e.refcount - 1) (hk : users' k + 1 = users k)
    (hother : ∀ k' ≠ k, users' k' = users k') :
    Balanced (Function.update table k (some { e with refcount := e.refcount - 1 })) held users' := by
  have hcount := (h.entry _ _ he).1
  exact h.recount he (by omega) (by omega) hother

theorem insert (h : Balanced table held users) (hnone : table k = none) {handle : η}
    (hfresh : handle ∉ held.map Prod.fst) (hk : users' k = 1)
    (hother : ∀ k' ≠ k, users' k' = users k') :
    Balanced (Function.update table k (some { handle := handle })) (held ++ [(handle, k)])
      users' where
  entry := by
    intro k' e' he'
    by_cases hkk : k' = k
    · subst hkk
      rw [Function.update_self] at he'
      obtain rfl := Option.some.inj he'
      refine ⟨by rw [hk]; rfl, by omega, by simp⟩
    · rw [Function.update_of_ne hkk] at he'
      obtain ⟨hcount, hpos, hheld⟩ := h.entry _ _ he'
      rw [hother _ hkk]
      exact ⟨hcount, hpos, List.mem_append_left _ hheld⟩
  unused := by
    intro k' hk'
    by_cases hkk : k' = k
    · subst hkk
      rw [Function.update_self] at hk'
      cases hk'
    · rw [Function.update_of_ne hkk] at hk'
      rw [hother _ hkk]
      exact h.unused _ hk'
  owned := by
    intro handle' k' hheld
    rcases List.mem_append.mp hheld with hold | hnew
    · obtain ⟨e', he', hhandle⟩ := h.owned _ _ hold
      have hkk : k' ≠ k := by
        rintro rfl
        rw [hnone] at he'
        cases he'
      exact ⟨e', by rwa [Function.update_of_ne hkk], hhandle⟩
    · obtain ⟨rfl, rfl⟩ := Prod.mk.inj (List.mem_singleton.mp hnew)
      exact ⟨_, Function.update_self _ _ _, rfl⟩
  handles := by
    rw [List.map_append]
    exact h.handles.append (List.nodup_singleton _) (by simpa using hfresh)

/-- The last user; the handle is closed. -/
theorem drop [DecidableEq η] (h : Balanced table held users) (he : table k = some e)
    (hk : users' k = 0)
    (hother : ∀ k' ≠ k, users' k' = users k') :
    Balanced (Function.update table k none) (closeHandle e.handle held) users' where
  entry := by
    intro k' e' he'
    by_cases hkk : k' = k
    · subst hkk
      rw [Function.update_self] at he'
      cases he'
    · rw [Function.update_of_ne hkk] at he'
      obtain ⟨hcount, hpos, hheld⟩ := h.entry _ _ he'
      rw [hother _ hkk]
      refine ⟨hcount, hpos, List.mem_filter.mpr ⟨hheld, decide_eq_true fun hsame => hkk ?_⟩⟩
      -- a handle is held for one key only
      have hkeys := List.inj_on_of_nodup_map h.handles hheld (h.entry _ _ he).2.2 hsame
      exact congrArg Prod.snd hkeys
  unused := by
    intro k' hk'
    by_cases hkk : k' = k
    · rw [hkk]
      exact hk
    · rw [Function.update_of_ne hkk] at hk'
      rw [hother _ hkk]
      exact h.unused _ hk'
  owned := by
    intro handle k' hheld
    obtain ⟨hold, hne⟩ := List.mem_filter.mp hheld
    obtain ⟨e', he', hhandle⟩ := h.owned _ _ hold
    have hkk : k' ≠ k := by
      rintro rfl
      rw [he] at he'
      obtain rfl := Option.some.inj he'
      exact of_decide_eq_true hne hhandle.symm
    exact ⟨e', by rwa [Function.update_of_ne hkk], hhandle⟩
  handles := h.handles.sublist (List.filter_sublist.map _)

end Balanced

end RefCount
