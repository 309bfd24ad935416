import Mathlib.Order.Defs.LinearOrder
import OandaV3.Dict

/-! # Tables that number their documents

A table is a dict from numbers to documents.  An `Insertion` takes the next number from a counter that is set
at the first insertion and counted up by every later one; documents that get into the dict otherwise leave
the counter as it is.

* `Insertion.insert_of_current`: when the counter is beyond every number in use, an insertion adds its document.
* `current_added`, `Current.of_keys`: what keeps the counter beyond the numbers in use. -/

namespace Dict

variable {ρ : Type}

/-- A table with its counter, once it is set. -/
structure AutoTable (ρ : Type) where
  docs : List (ℕ × ρ)
  nextId : Option ℕ
deriving DecidableEq

namespace AutoTable

/-- The number after the greatest one in use. -/
def afterKeys (docs : List (ℕ × ρ)) : ℕ := (docs.map Prod.fst).max?.getD 0 + 1

variable (t : AutoTable ρ)

/-- The number of the next document. -/
def nextDocId : ℕ := t.nextId.getD (afterKeys t.docs)

/-- The table with one more document. -/
def added (d : ρ) : AutoTable ρ where
  docs := t.docs ++ [(t.nextDocId, d)]
  nextId := some (t.nextDocId + 1)

/-- The counter is beyond the numbers in use. -/
def Current : Prop := ∀ n ∈ t.nextId, ∀ doc ∈ t.docs, doc.1 < n

variable {t}

theorem lt_afterKeys {docs : List (ℕ × ρ)} {doc : ℕ × ρ} (h : doc ∈ docs) :
    doc.1 < afterKeys docs :=
  Nat.lt_succ_of_le (List.le_max?_getD_of_mem (List.mem_map_of_mem h))

theorem Current.lt_nextDocId (h : t.Current) {doc : ℕ × ρ} (hdoc : doc ∈ t.docs) :
    doc.1 < t.nextDocId := by
  unfold nextDocId
  cases hnext : t.nextId with
  | none => exact lt_afterKeys hdoc
  | some n => exact h n hnext doc hdoc

theorem current_added (d : ρ) (h : t.Current) : (t.added d).Current := by
  intro n hn doc hdoc
  obtain rfl := Option.some.inj hn
  rcases List.mem_append.mp hdoc with hold | hnew
  · exact Nat.lt_succ_of_lt (h.lt_nextDocId hold)
  · obtain rfl := List.mem_singleton.mp hnew
    exact Nat.lt_succ_self _

theorem Current.of_keys {docs : List (ℕ × ρ)} (h : t.Current)
    (hkeys : ∀ doc ∈ docs, ∃ old ∈ t.docs, old.1 = doc.1) : Current { t with docs } := by
  intro n hn doc hdoc
  obtain ⟨old, hold, hkey⟩ := hkeys doc hdoc
  rw [← hkey]
  exact h n hn old hold

end AutoTable

/-! ### Insertions -/

/-- What is documented of `insert`, which says whether the document was stored: the number of a new document
is the one of the counter, once it is set, and when no document has it, the document is added and the counter
moves on.  What becomes of a number in use is left open. -/
structure Insertion (ρ : Type) where
  insert : AutoTable ρ → ρ → Bool × AutoTable ρ
  insert_free : ∀ t d, (∀ doc ∈ t.docs, doc.1 ≠ t.nextDocId) → insert t d = (true, t.added d)

namespace Insertion

theorem insert_of_current (insertion : Insertion ρ) {t : AutoTable ρ} (d : ρ) (h : t.Current) :
    insertion.insert t d = (true, t.added d) :=
  insertion.insert_free t d fun _ hdoc => Nat.ne_of_lt (h.lt_nextDocId hdoc)

/-- A number in use is refused; the counter moves on. -/
def refusing : Insertion ρ where
  insert t d :=
    if t.docs.any fun doc => doc.1 == t.nextDocId then
      (false, { t with nextId := some (t.nextDocId + 1) })
    else (true, t.added d)
  insert_free t d hfresh := by
    have hfree : (t.docs.any fun doc => doc.1 == t.nextDocId) = false := by
      rw [List.any_eq_false]
      intro doc hdoc
      simpa using hfresh doc hdoc
    rw [hfree, if_neg Bool.false_ne_true]

/-- The document with a number in use is overwritten. -/
def overwriting : Insertion ρ where
  insert t d := (true, { docs := assign t.docs t.nextDocId d, nextId := some (t.nextDocId + 1) })
  insert_free t d hfresh := by rw [assign_fresh d hfresh, AutoTable.added]

end Insertion

end Dict
