import OandaV3.DocTable

/-! # Windows of a growing history

A history is a list whose keys increase.  A window is a block of consecutive items of it (`<:+:`), and
`newest n` cuts the last `n` items off.

* `newest_eq_of_suffix`: a window at the end of the history answers for its newest items.
* `sortOn_firstByKey`: items that were read several times are put back into one history.
* `append_newer_suffix`: a window and everything after its last key is a window at the end.
* `lastBlock_newest`, `subset_newest_iff`: the newest items hold the block of the last item (everything of
  its class, for a classification that only grows) when they are as many as the block. -/

namespace Windows

variable {α κ : Type}

/-- The last `n` items. -/
def newest (n : ℕ) (l : List α) : List α := l.drop (l.length - n)

theorem newest_suffix (n : ℕ) (l : List α) : newest n l <:+ l := List.drop_suffix _ _

theorem length_newest (n : ℕ) (l : List α) : (newest n l).length = min n l.length := by
  rw [newest, List.length_drop]
  omega

theorem newest_eq_self {n : ℕ} {l : List α} (h : l.length ≤ n) : newest n l = l := by
  rw [newest, Nat.sub_eq_zero_of_le h, List.drop_zero]

/-- A window at the end answers for the newest items, if it is long enough or everything. -/
theorem newest_eq_of_suffix {n : ℕ} {s l : List α} (h : s <:+ l)
    (hlong : n ≤ s.length ∨ l.length ≤ s.length) : newest n s = newest n l := by
  obtain ⟨p, rfl⟩ := h
  rw [List.length_append] at hlong
  by_cases hn : n ≤ s.length
  · rw [newest, newest, List.length_append, List.drop_append,
      List.drop_eq_nil_of_le (by omega : p.length ≤ p.length + s.length - n), List.nil_append]
    congr 1
    omega
  · obtain rfl : p = [] := List.length_eq_zero_iff.mp (by omega)
    rfl

theorem newest_map {β : Type} (f : α → β) (n : ℕ) (l : List α) :
    newest n (l.map f) = (newest n l).map f := by
  rw [newest, newest, List.length_map, List.map_drop]

theorem newest_eq_nil_iff {n : ℕ} {l : List α} (hn : 0 < n) : newest n l = [] ↔ l = [] := by
  rw [← List.length_eq_zero_iff, length_newest, ← List.length_eq_zero_iff]
  omega

/-- The newest items of two parts reach into the first one behind the second. -/
theorem newest_append {n : ℕ} {l s : List α} (h : s.length ≤ n) :
    newest n (l ++ s) = newest (n - s.length) l ++ s := by
  rw [newest, newest, List.length_append, show l.length + s.length - n = l.length - (n - s.length) by omega,
    List.drop_append_of_le_length (by omega)]

/-- Two windows at the end are the same exactly when they are equally long. -/
theorem newest_eq_newest_iff {m n : ℕ} {l : List α} :
    newest m l = newest n l ↔ min m l.length = min n l.length := by
  constructor
  · intro h
    rw [← length_newest, ← length_newest, h]
  · intro h
    rw [newest, newest, show l.length - m = l.length - n by omega]

theorem getLast?_newest (l : List α) {n : ℕ} (hn : 0 < n) : (newest n l).getLast? = l.getLast? := by
  rw [newest, List.getLast?_drop]
  split_ifs with hshort
  · rw [List.length_eq_zero_iff.mp (by omega : l.length = 0)]
    rfl
  · rfl

/-- A filter that passes an item whenever it passes a later one cuts a window down to another window of
as many items, or not at all. -/
theorem filter_newest_eq_iff {p : α → Bool} {m n : ℕ} {l : List α}
    (hp : l.Pairwise fun a b => p b = true → p a = true) (hn : 0 < n) :
    (newest m l).filter p = newest n l ↔
      (∀ a ∈ newest n l, p a = true) ∧ min m l.length = min n l.length := by
  rw [← newest_eq_newest_iff]
  constructor
  · intro h
    have hall : ∀ a ∈ newest n l, p a = true := by
      intro a ha
      rw [← h, List.mem_filter] at ha
      exact ha.2
    refine ⟨hall, ?_⟩
    -- the last item passes, and with it all the others
    suffices hself : (newest m l).filter p = newest m l by rw [← hself, h]
    rw [List.filter_eq_self]
    intro a ha
    have hal := (newest_suffix m l).subset ha
    obtain ⟨last, hlast⟩ := Option.ne_none_iff_exists'.mp
      (mt List.getLast?_eq_none_iff.mp (List.ne_nil_of_mem hal))
    have hpass : p last = true := hall last (List.mem_of_getLast? ((getLast?_newest l hn).trans hlast))
    obtain ⟨init, rfl⟩ := List.getLast?_eq_some_iff.mp hlast
    rw [List.pairwise_append] at hp
    rcases List.mem_append.mp hal with hinit | hsingle
    · exact hp.2.2 a hinit last (List.mem_singleton_self last) hpass
    · rwa [List.mem_singleton.mp hsingle]
  · rintro ⟨hall, h⟩
    rw [h]
    exact List.filter_eq_self.mpr hall

section keys

variable [LinearOrder κ] {key : α → κ}

abbrev Increasing (key : α → κ) (l : List α) : Prop := l.Pairwise fun a b => key a < key b

def newer (key : α → κ) (last : κ) (l : List α) : List α := l.filter fun a => decide (last < key a)

theorem mem_newer {last : κ} {l : List α} {a : α} : a ∈ newer key last l ↔ a ∈ l ∧ last < key a := by
  rw [newer, List.mem_filter, decide_eq_true_eq]

theorem newer_append {p w s : List α} {a : α} (hincreasing : Increasing key (p ++ (w ++ s)))
    (hlast : w.getLast? = some a) : newer key (key a) (p ++ (w ++ s)) = s := by
  obtain ⟨init, rfl⟩ := List.getLast?_eq_some_iff.mp hlast
  rw [List.append_assoc, Increasing, List.pairwise_append, List.pairwise_append] at hincreasing
  obtain ⟨-, ⟨-, htail, hinit⟩, hp⟩ := hincreasing
  have hs : ∀ b ∈ s, key a < key b := by
    rw [List.singleton_append, List.pairwise_cons] at htail
    exact htail.1
  have hbefore : ∀ b ∈ p ++ (init ++ [a]), ¬ key a < key b := by
    intro b hb
    rcases List.mem_append.mp hb with hb | hb
    · exact (hp b hb a (by simp)).le.not_gt
    · rcases List.mem_append.mp hb with hb | hb
      · exact (hinit b hb a (by simp)).le.not_gt
      · rw [List.mem_singleton.mp hb]
        exact lt_irrefl _
  rw [newer, ← List.append_assoc, List.filter_append,
    List.filter_eq_nil_iff.mpr fun b hb => by simpa using hbefore b hb, List.nil_append,
    List.filter_eq_self]
  exact fun b hb => decide_eq_true (hs b hb)

/-- **A window and everything after its last key reaches the end.** -/
theorem append_newer_suffix {w l : List α} {a : α} (hincreasing : Increasing key l) (hw : w <:+: l)
    (hlast : w.getLast? = some a) : w ++ newer key (key a) l <:+ l := by
  obtain ⟨p, s, rfl⟩ := hw
  rw [List.append_assoc] at hincreasing ⊢
  rw [newer_append hincreasing hlast]
  exact ⟨p, rfl⟩

theorem suffix_of_newer_nil {w l : List α} {a : α} (hincreasing : Increasing key l) (hw : w <:+: l)
    (hlast : w.getLast? = some a) (hnone : newer key (key a) l = []) : w <:+ l := by
  have hsuffix := append_newer_suffix hincreasing hw hlast
  rwa [hnone, List.append_nil] at hsuffix

theorem sortOn_eq_self {l : List α} (h : Increasing key l) : sortOn key l = l :=
  List.Pairwise.insertionSort_eq (h.imp fun hlt => hlt.le)

/-- The items without an earlier one of the same key. -/
def firstByKey (key : α → κ) : List α → List α
  | [] => []
  | a :: l => a :: (firstByKey key l).filter fun b => decide (key b ≠ key a)

theorem firstByKey_subset (l : List α) : ∀ a ∈ firstByKey key l, a ∈ l := by
  induction l with
  | nil => exact fun a h => h
  | cons b l ih =>
      intro a h
      rw [firstByKey] at h
      rcases List.mem_cons.mp h with rfl | hlater
      · exact List.mem_cons_self
      · exact List.mem_cons_of_mem b (ih a (List.mem_filter.mp hlater).1)

theorem exists_firstByKey {l : List α} {a : α} (h : a ∈ l) : ∃ b ∈ firstByKey key l, key b = key a := by
  induction l with
  | nil => cases h
  | cons c l ih =>
      rw [firstByKey]
      by_cases hkey : key c = key a
      · exact ⟨c, List.mem_cons_self, hkey⟩
      · obtain ⟨b, hb, heq⟩ := ih ((List.mem_cons.mp h).resolve_left fun hac => hkey (hac ▸ rfl))
        refine ⟨b, List.mem_cons_of_mem c (List.mem_filter.mpr ⟨hb, decide_eq_true ?_⟩), heq⟩
        rw [heq]
        exact Ne.symm hkey

theorem pairwise_firstByKey (l : List α) : (firstByKey key l).Pairwise fun a b => key a ≠ key b := by
  induction l with
  | nil => exact List.Pairwise.nil
  | cons a l ih =>
      rw [firstByKey, List.pairwise_cons]
      refine ⟨fun b hb => ?_, ih.sublist List.filter_sublist⟩
      exact (of_decide_eq_true (List.mem_filter.mp hb).2).symm

theorem Increasing.injOn {m : List α} (hm : Increasing key m) :
    ∀ a ∈ m, ∀ b ∈ m, key a = key b → a = b := by
  have hnodup : (m.map key).Nodup := List.pairwise_map.mpr (hm.imp ne_of_lt)
  exact fun a ha b hb heq => List.inj_on_of_nodup_map hnodup ha hb heq

/-- Items of a history, in any order and any number of times, are put back in order. -/
theorem sortOn_firstByKey {l m : List α} (hm : Increasing key m) (hmem : ∀ a, a ∈ l ↔ a ∈ m) :
    sortOn key (firstByKey key l) = m := by
  have hsame : ∀ a, a ∈ firstByKey key l ↔ a ∈ m := by
    intro a
    refine ⟨fun ha => (hmem a).mp (firstByKey_subset l a ha), fun ha => ?_⟩
    obtain ⟨b, hb, hkey⟩ : ∃ b ∈ firstByKey key l, key b = key a :=
      exists_firstByKey ((hmem a).mpr ha)
    rwa [← hm.injOn b ((hmem b).mp (firstByKey_subset l b hb)) a ha hkey]
  have hperm : (firstByKey key l).Perm m :=
    (List.perm_ext_iff_of_nodup
      ((pairwise_firstByKey l).imp fun hne heq => hne (congrArg key heq))
      (hm.imp fun hlt heq => hlt.ne (congrArg key heq))).mpr hsame
  refine (sortOn_eq_of_perm (fun a ha b hb => ?_) hperm).trans (sortOn_eq_self hm)
  exact hm.injOn a ((hsame a).mp ha) b ((hsame b).mp hb)

end keys

/-! ### The block of the last item -/

section blocks

variable {μ : Type} [LinearOrder μ] {g : α → μ}

/-- The items of the class of the last one. -/
def lastBlock (g : α → μ) (l : List α) : List α :=
  match l.getLast? with
  | none => []
  | some last => l.filter fun a => decide (g a = g last)

/-- Items below a class come before the items in it. -/
theorem exists_split {l : List α} (hmono : l.Pairwise fun a b => g a ≤ g b) {m : μ}
    (hle : ∀ a ∈ l, g a ≤ m) :
    ∃ p s, l = p ++ s ∧ (∀ a ∈ p, g a ≠ m) ∧ ∀ a ∈ s, g a = m := by
  induction l with
  | nil => exact ⟨[], [], rfl, fun _ h => absurd h List.not_mem_nil, fun _ h => absurd h List.not_mem_nil⟩
  | cons a l ih =>
      rw [List.pairwise_cons] at hmono
      rw [List.forall_mem_cons] at hle
      by_cases ha : g a = m
      · refine ⟨[], a :: l, rfl, fun _ h => absurd h List.not_mem_nil, ?_⟩
        exact List.forall_mem_cons.mpr
          ⟨ha, fun b hb => le_antisymm (hle.2 b hb) (ha ▸ hmono.1 b hb)⟩
      · obtain ⟨p, s, rfl, hp, hs⟩ := ih hmono.2 hle.2
        exact ⟨a :: p, s, rfl, List.forall_mem_cons.mpr ⟨ha, hp⟩, hs⟩

theorem exists_eq_append_lastBlock {l : List α} (hmono : l.Pairwise fun a b => g a ≤ g b) :
    ∃ p, l = p ++ lastBlock g l ∧ ∀ last ∈ l.getLast?, ∀ a ∈ p, g a ≠ g last := by
  rw [lastBlock]
  cases hlast : l.getLast? with
  | none =>
      rw [List.getLast?_eq_none_iff.mp hlast]
      exact ⟨[], rfl, fun _ _ _ h => absurd h List.not_mem_nil⟩
  | some last =>
      obtain ⟨init, rfl⟩ := List.getLast?_eq_some_iff.mp hlast
      have hle : ∀ a ∈ init ++ [last], g a ≤ g last := by
        intro a ha
        rcases List.mem_append.mp ha with ha | ha
        · exact (List.pairwise_append.mp hmono).2.2 a ha last List.mem_cons_self
        · rw [List.mem_singleton.mp ha]
      obtain ⟨p, s, hsplit, hp, hs⟩ := exists_split hmono hle
      refine ⟨p, ?_, fun last' hlast' a ha => Option.some.inj hlast' ▸ hp a ha⟩
      dsimp only
      rw [hsplit, List.filter_append, List.filter_eq_nil_iff.mpr fun a ha => by simpa using hp a ha,
        List.nil_append, List.filter_eq_self.mpr fun a ha => decide_eq_true (hs a ha)]

theorem lastBlock_suffix {l : List α} (hmono : l.Pairwise fun a b => g a ≤ g b) :
    lastBlock g l <:+ l := by
  obtain ⟨p, hp, -⟩ := exists_eq_append_lastBlock hmono
  exact ⟨p, hp.symm⟩

theorem suffix_newest {w l : List α} (hw : w <:+ l) {n : ℕ} (hlong : w.length ≤ n) :
    w <:+ newest n l := by
  refine List.suffix_of_suffix_length_le hw (newest_suffix n l) ?_
  rw [length_newest]
  exact le_min hlong hw.length_le

/-- Enough newest items have the same block. -/
theorem lastBlock_newest {l : List α} (hmono : l.Pairwise fun a b => g a ≤ g b) {n : ℕ} (hn : 0 < n)
    (hlong : (lastBlock g l).length ≤ n) : lastBlock g (newest n l) = lastBlock g l := by
  obtain ⟨q, hq⟩ := suffix_newest (lastBlock_suffix hmono) hlong
  obtain ⟨p, hsplit, hp⟩ := exists_eq_append_lastBlock hmono
  cases hlast : l.getLast? with
  | none => rw [List.getLast?_eq_none_iff.mp hlast, newest_eq_self (Nat.zero_le n)]
  | some last =>
      -- what the newest items add to the block comes from before it
      obtain ⟨r, hr⟩ := newest_suffix n l
      rw [← hq, ← List.append_assoc] at hr
      have hfirst : r ++ q = p := List.append_cancel_right (hr.trans hsplit)
      have hbefore : ∀ a ∈ q, g a ≠ g last :=
        fun a ha => hp last hlast a (hfirst ▸ List.mem_append_right r ha)
      have hblock : ∀ a ∈ lastBlock g l, g a = g last := by
        intro a ha
        rw [lastBlock, hlast, List.mem_filter, decide_eq_true_eq] at ha
        exact ha.2
      rw [lastBlock, getLast?_newest l hn, hlast, ← hq]
      dsimp only
      rw [List.filter_append, List.filter_eq_nil_iff.mpr fun a ha => by simpa using hbefore a ha,
        List.nil_append, List.filter_eq_self.mpr fun a ha => decide_eq_true (hblock a ha)]

/-- The newest items of a list without duplicates hold a whole window at the end exactly when they are as
many. -/
theorem subset_newest_iff {w l : List α} (hnodup : l.Nodup) (hw : w <:+ l) (n : ℕ) :
    (∀ a ∈ w, a ∈ newest n l) ↔ w.length ≤ n := by
  constructor
  · intro hsubset
    have hle := (List.subperm_of_subset (hnodup.sublist hw.sublist) hsubset).length_le
    rw [length_newest] at hle
    omega
  · intro hlong a ha
    exact (suffix_newest hw hlong).subset ha

end blocks

/-- Items that start `slot` apart and end in time are few. -/
theorem length_mul_le {start : α → ℤ} {slot s t : ℤ} (hst : s ≤ t) {l : List α}
    (hspaced : l.Pairwise fun a b => start a + slot ≤ start b) (hlow : ∀ a ∈ l, s ≤ start a)
    (hhigh : ∀ a ∈ l, start a + slot ≤ t) : l.length * slot ≤ t - s := by
  induction l generalizing s with
  | nil =>
      rw [List.length_nil, Int.natCast_zero, Int.zero_mul]
      omega
  | cons a l ih =>
      rw [List.pairwise_cons] at hspaced
      rw [List.forall_mem_cons] at hlow hhigh
      have hrest := ih hhigh.1 hspaced.2 hspaced.1 hhigh.2
      rw [List.length_cons, Int.natCast_succ, Int.add_mul, Int.one_mul]
      omega

end Windows
