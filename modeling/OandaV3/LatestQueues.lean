import Mathlib.Data.List.Nodup
import Mathlib.Data.List.Perm.Subperm
import Mathlib.Logic.Function.Basic

/-! # Queues of the latest values

A mailbox holds, for each key, the latest value that was put for it and not taken yet; the keys take turns
in the order in which they got a value.  A value that is put for a key whose turn is still to come replaces
the one before.

* `Accounts.put`, `Accounts.take`: what was taken and what waits is, for each key, a part of what was put,
  in the same order and with the same last value; everything else was replaced.
* `Ahead.put`, `Ahead.take`: a key whose turn comes after `n` others is the first after `n` values are
  taken. -/

namespace Latest

variable {κ α : Type} {key : α → κ}

/-- The keys whose turn is to come, and the value that waits for each of them. -/
structure Mailbox (key : α → κ) where
  turns : List κ
  waiting : κ → Option α
  nodup : turns.Nodup
  mem_turns : ∀ k, k ∈ turns ↔ (waiting k).isSome = true
  keyed : ∀ k a, waiting k = some a → key a = k

namespace Mailbox

variable (m : Mailbox key)

def empty (key : α → κ) : Mailbox key where
  turns := []
  waiting := fun _ => none
  nodup := List.nodup_nil
  mem_turns := fun _ => iff_of_false List.not_mem_nil Bool.false_ne_true
  keyed := fun _ _ h => nomatch h

theorem exists_of_turns {k : κ} {ks : List κ} (h : m.turns = k :: ks) :
    ∃ a, m.waiting k = some a ∧ key a = k := by
  have hmem : k ∈ m.turns := h ▸ List.mem_cons_self
  obtain ⟨a, ha⟩ := Option.isSome_iff_exists.mp ((m.mem_turns k).mp hmem)
  exact ⟨a, ha, m.keyed k a ha⟩

variable [DecidableEq κ]

/-- A value for its key, which gets a turn if it has none. -/
def put (a : α) : Mailbox key where
  turns := if key a ∈ m.turns then m.turns else m.turns ++ [key a]
  waiting := Function.update m.waiting (key a) (some a)
  nodup := by
    split_ifs with h
    · exact m.nodup
    · rw [← List.concat_eq_append]
      exact m.nodup.concat h
  mem_turns := fun k => by
    by_cases hk : k = key a
    · subst hk
      rw [Function.update_self]
      split_ifs with h
      · exact iff_of_true h rfl
      · exact iff_of_true (List.mem_append_right _ List.mem_cons_self) rfl
    · rw [Function.update_of_ne hk, ← m.mem_turns]
      split_ifs with h
      · exact Iff.rfl
      · rw [List.mem_append, List.mem_singleton, or_iff_left hk]
  keyed := fun k b hb => by
    by_cases hk : k = key a
    · subst hk
      rw [Function.update_self] at hb
      exact congrArg key (Option.some.inj hb).symm
    · rw [Function.update_of_ne hk] at hb
      exact m.keyed k b hb

/-- The mailbox after the turn of its first key. -/
def take {k : κ} {ks : List κ} (h : m.turns = k :: ks) : Mailbox key where
  turns := ks
  waiting := Function.update m.waiting k none
  nodup := (List.nodup_cons.mp (h ▸ m.nodup)).2
  mem_turns := fun k' => by
    have hnot : k ∉ ks := (List.nodup_cons.mp (h ▸ m.nodup)).1
    by_cases hk : k' = k
    · subst hk
      rw [Function.update_self]
      exact iff_of_false hnot Bool.noConfusion
    · rw [Function.update_of_ne hk, ← m.mem_turns, h, List.mem_cons, or_iff_right hk]
  keyed := fun k' b hb => by
    by_cases hk : k' = k
    · subst hk
      rw [Function.update_self] at hb
      cases hb
    · rw [Function.update_of_ne hk] at hb
      exact m.keyed k' b hb

section waiting

variable (a : α) {k k' : κ} {ks : List κ} (h : m.turns = k' :: ks)

@[simp] theorem waiting_put_self : (m.put a).waiting (key a) = some a := Function.update_self _ _ _

theorem waiting_put_of_ne (hk : k ≠ key a) : (m.put a).waiting k = m.waiting k :=
  Function.update_of_ne hk _ _

@[simp] theorem waiting_take_self : (m.take h).waiting k' = none := Function.update_self _ _ _

theorem waiting_take_of_ne (hk : k ≠ k') : (m.take h).waiting k = m.waiting k :=
  Function.update_of_ne hk _ _

end waiting

end Mailbox

/-! ### What was put, what was taken and what waits -/

section accounts

variable [DecidableEq κ]

def ofKey (key : α → κ) (k : κ) (as : List α) : List α := as.filter fun a => decide (key a = k)

theorem ofKey_append_self {k : κ} {a : α} (as : List α) (h : key a = k) :
    ofKey key k (as ++ [a]) = ofKey key k as ++ [a] := by
  simp [ofKey, h]

theorem ofKey_append_of_ne {k : κ} {a : α} (as : List α) (h : key a ≠ k) :
    ofKey key k (as ++ [a]) = ofKey key k as := by
  simp [ofKey, h]

/-- For each key, what was taken and then what waits is a part of what was put, with the same last
value. -/
structure Accounts (puts taken : List α) (m : Mailbox key) : Prop where
  sublist : ∀ k, (ofKey key k taken ++ (m.waiting k).toList).Sublist (ofKey key k puts)
  getLast? : ∀ k, (ofKey key k taken ++ (m.waiting k).toList).getLast? = (ofKey key k puts).getLast?

namespace Accounts

variable {puts taken : List α} {m : Mailbox key}

theorem empty : Accounts [] [] (Mailbox.empty key) :=
  ⟨fun _ => List.Sublist.slnil, fun _ => rfl⟩

theorem put (h : Accounts puts taken m) (a : α) : Accounts (puts ++ [a]) taken (m.put a) := by
  constructor
  · intro k
    by_cases hk : key a = k
    · subst hk
      rw [m.waiting_put_self, ofKey_append_self puts rfl]
      exact ((List.sublist_append_left _ _).trans (h.sublist (key a))).append (List.Sublist.refl [a])
    · rw [m.waiting_put_of_ne a (Ne.symm hk), ofKey_append_of_ne puts hk]
      exact h.sublist k
  · intro k
    by_cases hk : key a = k
    · subst hk
      rw [m.waiting_put_self, ofKey_append_self puts rfl, Option.toList_some, List.getLast?_concat,
        List.getLast?_concat]
    · rw [m.waiting_put_of_ne a (Ne.symm hk), ofKey_append_of_ne puts hk]
      exact h.getLast? k

theorem take (h : Accounts puts taken m) {k : κ} {ks : List κ} (hturns : m.turns = k :: ks) {a : α}
    (ha : m.waiting k = some a) : Accounts puts (taken ++ [a]) (m.take hturns) := by
  have hkey : key a = k := m.keyed k a ha
  have hsame : ∀ k', ofKey key k' (taken ++ [a]) ++ ((m.take hturns).waiting k').toList =
      ofKey key k' taken ++ (m.waiting k').toList := by
    intro k'
    by_cases hk : k' = k
    · subst hk
      rw [m.waiting_take_self, ha, ofKey_append_self taken hkey, Option.toList_none, List.append_nil]
      rfl
    · rw [m.waiting_take_of_ne hturns hk, ofKey_append_of_ne taken fun h' => hk (h'.symm.trans hkey)]
  exact ⟨fun k' => hsame k' ▸ h.sublist k', fun k' => hsame k' ▸ h.getLast? k'⟩

theorem mem_puts (h : Accounts puts taken m) {k : κ} {a : α} (ha : m.waiting k = some a) : a ∈ puts := by
  have hmem : a ∈ ofKey key k taken ++ (m.waiting k).toList := by
    rw [ha]
    exact List.mem_append_right _ List.mem_cons_self
  exact List.mem_of_mem_filter ((h.sublist k).subset hmem)

/-- The keys that have a turn are among any that have all the values. -/
theorem turns_length_le (h : Accounts puts taken m) {keys : List κ} (hkeys : ∀ a ∈ puts, key a ∈ keys) :
    m.turns.length ≤ keys.length := by
  refine (m.nodup.subperm fun k hk => ?_).length_le
  obtain ⟨a, ha⟩ := Option.isSome_iff_exists.mp ((m.mem_turns k).mp hk)
  exact m.keyed k a ha ▸ hkeys a (h.mem_puts ha)

end Accounts

end accounts

/-! ### Turns -/

/-- The turn of a key comes after those of `n` others. -/
def Ahead (m : Mailbox key) (k : κ) (n : ℕ) : Prop := m.turns[n]? = some k

namespace Ahead

variable {m : Mailbox key} {k : κ} {n : ℕ}

/-- The first key is the one with nobody ahead. -/
theorem eq_of_turns {k' : κ} {ks : List κ} (h : Ahead m k 0) (hturns : m.turns = k' :: ks) : k' = k := by
  unfold Ahead at h
  rw [hturns, List.getElem?_cons_zero] at h
  exact Option.some.inj h

theorem lt_length (h : Ahead m k n) : n < m.turns.length := (List.getElem?_eq_some_iff.mp h).1

variable [DecidableEq κ]

theorem exists_put (m : Mailbox key) (a : α) : ∃ n, Ahead (m.put a) (key a) n := by
  have hmem : key a ∈ (m.put a).turns := by
    rw [(m.put a).mem_turns, m.waiting_put_self]
    rfl
  exact List.mem_iff_getElem?.mp hmem

/-- Nobody passes a key. -/
theorem put (h : Ahead m k n) (a : α) : Ahead (m.put a) k n := by
  unfold Ahead Mailbox.put
  split_ifs
  · exact h
  · obtain ⟨hlt, -⟩ := List.getElem?_eq_some_iff.mp h
    exact (List.getElem?_append_left hlt).trans h

/-- A key moves up with every value that is taken. -/
theorem take {k' : κ} {ks : List κ} (h : Ahead m k (n + 1)) (hturns : m.turns = k' :: ks) :
    Ahead (m.take hturns) k n := by
  unfold Ahead at h
  rw [hturns, List.getElem?_cons_succ] at h
  exact h

end Ahead

end Latest
