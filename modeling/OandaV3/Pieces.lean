import Mathlib.Algebra.Order.BigOperators.Group.List
import Mathlib.Algebra.Order.Ring.Nat

/-! # Pieces of a list between separators

`pieces sep l` are the non-empty parts of a list between the occurrences of a separator, and `join sep`
puts parts together again with one separator between them.

* `pieces_join`: parts that are joined are the pieces of the result.
* `length_join_pieces_le`: joining the pieces of a list never makes it longer.
* `head?_join`, `getLast?_join`: a joined list starts as its first part and ends as its last. -/

namespace Pieces

variable {α : Type}

/-- `sep.join(parts)`. -/
def join (sep : α) (parts : List (List α)) : List α := [sep].intercalate parts

section join

variable {sep a : α} {parts : List (List α)} {part : List α}

@[simp] theorem join_nil : join sep [] = [] := rfl

@[simp] theorem join_singleton : join sep [part] = part := List.intercalate_singleton

theorem join_cons (h : parts ≠ []) : join sep (part :: parts) = part ++ sep :: join sep parts := by
  rw [join, List.intercalate_cons_of_ne_nil h, join, List.append_assoc, List.singleton_append]

theorem mem_join (h : a ∈ join sep parts) : a = sep ∨ ∃ part ∈ parts, a ∈ part := by
  induction parts with
  | nil => cases h
  | cons part parts ih =>
      by_cases hparts : parts = []
      · subst hparts
        rw [join_singleton] at h
        exact Or.inr ⟨part, List.mem_cons_self, h⟩
      · rw [join_cons hparts, List.mem_append, List.mem_cons] at h
        rcases h with hpart | rfl | hlater
        · exact Or.inr ⟨part, List.mem_cons_self, hpart⟩
        · exact Or.inl rfl
        · rcases ih hlater with hsep | ⟨later, hmem, ha⟩
          · exact Or.inl hsep
          · exact Or.inr ⟨later, List.mem_cons_of_mem part hmem, ha⟩

theorem mem_join_of_mem (hpart : part ∈ parts) (ha : a ∈ part) : a ∈ join sep parts := by
  induction parts with
  | nil => cases hpart
  | cons first parts ih =>
      by_cases hparts : parts = []
      · subst hparts
        obtain rfl := List.mem_singleton.mp hpart
        rwa [join_singleton]
      · rw [join_cons hparts, List.mem_append, List.mem_cons]
        rcases List.mem_cons.mp hpart with rfl | hlater
        · exact Or.inl ha
        · exact Or.inr (Or.inr (ih hlater))

theorem sep_mem_join {first second : List α} :
    sep ∈ join sep (first :: second :: parts) := by
  rw [join_cons (List.cons_ne_nil _ _), List.mem_append, List.mem_cons]
  exact Or.inr (Or.inl rfl)

theorem join_ne_nil (h : parts ≠ []) (hne : ∀ part ∈ parts, part ≠ []) : join sep parts ≠ [] := by
  obtain ⟨part, parts, rfl⟩ := List.exists_cons_of_ne_nil h
  have hpart := hne part List.mem_cons_self
  by_cases hparts : parts = []
  · subst hparts
    rwa [join_singleton]
  · rw [join_cons hparts]
    simp

theorem head?_join (hpart : part ≠ []) : (join sep (part :: parts)).head? = part.head? := by
  by_cases hparts : parts = []
  · subst hparts
    rw [join_singleton]
  · rw [join_cons hparts, List.head?_append_of_ne_nil _ hpart]

theorem getLast?_join (hpart : part ≠ []) :
    (join sep (parts ++ [part])).getLast? = part.getLast? := by
  induction parts with
  | nil => rw [List.nil_append, join_singleton]
  | cons first parts ih =>
      have hrest : parts ++ [part] ≠ [] := by simp
      have hjoin : join sep (parts ++ [part]) ≠ [] := by
        intro hnil
        rw [hnil, eq_comm, List.getLast?_nil, List.getLast?_eq_none_iff] at ih
        exact hpart ih
      rw [List.cons_append, join_cons hrest, List.getLast?_append_of_ne_nil _ (List.cons_ne_nil _ _),
        List.getLast?_cons_of_ne_nil hjoin, ih]

theorem head?_join_eq_flatten (h : ∀ part ∈ parts, part ≠ []) :
    (join sep parts).head? = parts.flatten.head? := by
  cases parts with
  | nil => rfl
  | cons part parts =>
      have hpart := h part List.mem_cons_self
      rw [head?_join hpart, List.flatten_cons, List.head?_append_of_ne_nil _ hpart]

theorem getLast?_join_eq_flatten (h : ∀ part ∈ parts, part ≠ []) :
    (join sep parts).getLast? = parts.flatten.getLast? := by
  rcases List.eq_nil_or_concat parts with rfl | ⟨front, part, rfl⟩
  · rfl
  · have hpart := h part (by simp)
    rw [List.concat_eq_append, getLast?_join hpart, List.flatten_concat,
      List.getLast?_append_of_ne_nil _ hpart]

theorem length_join (sep : α) (h : parts ≠ []) :
    (join sep parts).length + 1 = (parts.map fun part => part.length + 1).sum := by
  induction parts with
  | nil => exact absurd rfl h
  | cons part parts ih =>
      by_cases hparts : parts = []
      · subst hparts
        simp
      · rw [join_cons hparts, List.map_cons, List.sum_cons, ← ih hparts, List.length_append,
          List.length_cons]
        omega

end join

variable [DecidableEq α]

/-- The non-empty parts between separators. -/
def pieces (sep : α) (l : List α) : List (List α) :=
  (l.splitOn sep).filter fun piece => !piece.isEmpty

section pieces

variable {sep : α} {l : List α} {parts : List (List α)}

theorem sep_not_mem_of_splitOn {part : List α} (h : part ∈ l.splitOn sep) : sep ∉ part := by
  induction l generalizing part with
  | nil =>
      rw [List.splitOn_nil, List.mem_singleton] at h
      rw [h]
      exact List.not_mem_nil
  | cons a l ih =>
      rw [List.splitOn_cons_eq_if_modifyHead] at h
      obtain ⟨first, rest, hsplit⟩ := List.exists_cons_of_ne_nil (List.splitOn_ne_nil sep l)
      rw [hsplit] at h ih
      split_ifs at h with hsep
      · rcases List.mem_cons.mp h with rfl | hlater
        · exact List.not_mem_nil
        · exact ih hlater
      · rw [List.modifyHead_cons, List.mem_cons] at h
        rcases h with rfl | hlater
        · intro hmem
          rcases List.mem_cons.mp hmem with rfl | hfirst
          · exact hsep (beq_self_eq_true _)
          · exact ih List.mem_cons_self hfirst
        · exact ih (List.mem_cons_of_mem first hlater)

theorem mem_pieces {piece : List α} (h : piece ∈ pieces sep l) :
    piece ≠ [] ∧ sep ∉ piece ∧ ∀ a ∈ piece, a ∈ l := by
  obtain ⟨hsplit, hne⟩ := List.mem_filter.mp h
  refine ⟨by simpa using hne, sep_not_mem_of_splitOn hsplit, fun a ha => ?_⟩
  have hjoin : [sep].intercalate (l.splitOn sep) = l := List.intercalate_splitOn sep
  rw [← hjoin]
  exact mem_join_of_mem hsplit ha

theorem pieces_join (h : ∀ part ∈ parts, part ≠ [] ∧ sep ∉ part) :
    pieces sep (join sep parts) = parts := by
  by_cases hparts : parts = []
  · subst hparts
    rfl
  · rw [pieces, join, List.splitOn_intercalate sep (fun part hpart => (h part hpart).2) hparts]
    exact List.filter_eq_self.mpr fun part hpart => by simpa using (h part hpart).1

/-- Joining the pieces of a list never makes it longer. -/
theorem length_join_pieces_le (sep : α) (l : List α) :
    (join sep (pieces sep l)).length ≤ l.length := by
  by_cases hpieces : pieces sep l = []
  · rw [hpieces]
    exact Nat.zero_le _
  · have hjoin := length_join sep hpieces
    have hall := length_join sep (List.splitOn_ne_nil sep l)
    have hsub : ((pieces sep l).map fun part => part.length + 1).Sublist
        ((l.splitOn sep).map fun part => part.length + 1) := List.filter_sublist.map _
    have hsum := hsub.sum_le_sum fun _ _ => Nat.zero_le _
    rw [join, List.intercalate_splitOn] at hall
    omega

end pieces

end Pieces
