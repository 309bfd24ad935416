import Mathlib.Data.List.Nodup
import Mathlib.Data.List.Sort

/-! # Document tables

A document table is a list of documents in insertion order, looked up by a key.  `get` returns
the first document with a key; `put` overwrites that document in place, or appends a new one;
`putAll` puts a batch, one document at a time.

The facts every client uses: `get_put`, `get_putAll` (the last document of a batch with the key
wins), `nodup_putAll` (no key is ever stored twice), and `last_flatMap`, which reads a batch
assembled from blocks that share no key.

`Table key` is a document table that stores no key twice; `find`, `insert` and `insertAll` are its
operations, and `find_insert`, `find_insertAll` and `insert_find` their laws.

`sortOn f docs` lists documents in the order of `f`, stably.  The order in which they are stored makes
no difference whenever `f` tells them apart (`sortOn_eq_of_perm`). -/

namespace DocTable

variable {κ ρ α : Type} [DecidableEq κ] (key : ρ → κ)

/-- The first document with key `k`. -/
def get (k : κ) (docs : List ρ) : Option ρ := docs.find? (fun d => key d = k)

/-- Insert `d`, or overwrite the first document with its key. -/
def put (d : ρ) : List ρ → List ρ
  | [] => [d]
  | e :: es => if key e = key d then d :: es else e :: put d es

/-- Put the documents of a batch in order. -/
def putAll (ds docs : List ρ) : List ρ := ds.foldl (fun t d => put key d t) docs

/-- The last document of a batch with key `k`. -/
def last (k : κ) (ds : List ρ) : Option ρ := get key k ds.reverse

/-! ### Lookup -/

@[simp] theorem get_nil (k : κ) : get key k [] = none := rfl

theorem get_cons (k : κ) (e : ρ) (es : List ρ) :
    get key k (e :: es) = if key e = k then some e else get key k es := by
  by_cases h : key e = k <;> simp [get, h]

theorem get_append (k : κ) (ds es : List ρ) :
    get key k (ds ++ es) = (get key k ds).or (get key k es) := by
  simp [get, List.find?_append]

variable {key}

theorem get_some {k : κ} {docs : List ρ} {d : ρ} (h : get key k docs = some d) :
    d ∈ docs ∧ key d = k :=
  ⟨List.mem_of_find?_eq_some h, by simpa using List.find?_some h⟩

theorem get_eq_none {k : κ} {docs : List ρ} : get key k docs = none ↔ ∀ d ∈ docs, key d ≠ k := by
  simp [get, List.find?_eq_none]

theorem get_isSome {k : κ} {docs : List ρ} :
    (get key k docs).isSome ↔ ∃ d ∈ docs, key d = k := by
  simp [get, List.find?_isSome]

/-- In a table without repeated keys every document is found under its key. -/
theorem get_of_mem {docs : List ρ} (hnd : (docs.map key).Nodup) {d : ρ} (hd : d ∈ docs) :
    get key (key d) docs = some d := by
  induction docs with
  | nil => cases hd
  | cons e es ih =>
      rw [List.map_cons, List.nodup_cons] at hnd
      rw [get_cons]
      rcases List.mem_cons.mp hd with rfl | hd
      · simp
      · have hne : key e ≠ key d := fun h => hnd.1 (h ▸ List.mem_map_of_mem hd)
        rw [if_neg hne, ih hnd.2 hd]

theorem mem_iff_get {docs : List ρ} (hnd : (docs.map key).Nodup) {d : ρ} :
    d ∈ docs ↔ get key (key d) docs = some d :=
  ⟨get_of_mem hnd, fun h => (get_some h).1⟩

/-! ### Writing one document -/

variable (key)

theorem get_put (k : κ) (d : ρ) (docs : List ρ) :
    get key k (put key d docs) = if key d = k then some d else get key k docs := by
  induction docs with
  | nil => simp [put, get_cons]
  | cons e es ih =>
      by_cases he : key e = key d
      · rw [put, if_pos he, get_cons, get_cons, he]
        split_ifs <;> rfl
      · rw [put, if_neg he, get_cons, get_cons, ih]
        split_ifs with h1 h2 <;> first | rfl | exact absurd (h1.trans h2.symm) he

@[simp] theorem get_put_self (d : ρ) (docs : List ρ) :
    get key (key d) (put key d docs) = some d := by rw [get_put, if_pos rfl]

variable {key}

theorem put_of_get {d : ρ} {docs : List ρ} (h : get key (key d) docs = some d) :
    put key d docs = docs := by
  induction docs with
  | nil => cases h
  | cons e es ih =>
      rw [get_cons] at h
      by_cases he : key e = key d
      · rw [if_pos he, Option.some.injEq] at h
        rw [put, if_pos he, h]
      · rw [if_neg he] at h
        rw [put, if_neg he, ih h]

theorem mem_put {d e : ρ} {docs : List ρ} (h : e ∈ put key d docs) : e = d ∨ e ∈ docs := by
  induction docs with
  | nil => exact Or.inl (List.mem_singleton.mp h)
  | cons e' es ih =>
      by_cases he : key e' = key d
      · rw [put, if_pos he] at h
        rcases List.mem_cons.mp h with h | h
        · exact Or.inl h
        · exact Or.inr (List.mem_cons_of_mem _ h)
      · rw [put, if_neg he] at h
        rcases List.mem_cons.mp h with h | h
        · exact Or.inr (h ▸ List.mem_cons_self)
        · exact (ih h).imp_right (List.mem_cons_of_mem _)

theorem mem_keys_put {d : ρ} {docs : List ρ} {k : κ} :
    k ∈ (put key d docs).map key ↔ k = key d ∨ k ∈ docs.map key := by
  have hput := get_put key k d docs
  have iff_some : ∀ es : List ρ, k ∈ es.map key ↔ (get key k es).isSome := fun es => by
    rw [get_isSome, List.mem_map]
  rw [iff_some, iff_some, hput]
  by_cases h : key d = k
  · simp [h]
  · simp [h, Ne.symm h]

theorem nodup_put {d : ρ} {docs : List ρ} (hnd : (docs.map key).Nodup) :
    ((put key d docs).map key).Nodup := by
  induction docs with
  | nil => simp [put]
  | cons e es ih =>
      rw [List.map_cons, List.nodup_cons] at hnd
      by_cases he : key e = key d
      · rw [put, if_pos he, List.map_cons, List.nodup_cons, ← he]
        exact hnd
      · rw [put, if_neg he, List.map_cons, List.nodup_cons, mem_keys_put, not_or]
        exact ⟨⟨he, hnd.1⟩, ih hnd.2⟩

/-! ### Writing a batch -/

@[simp] theorem putAll_nil (docs : List ρ) : putAll key [] docs = docs := rfl

theorem putAll_cons (d : ρ) (ds docs : List ρ) :
    putAll key (d :: ds) docs = putAll key ds (put key d docs) := rfl

theorem nodup_putAll {ds docs : List ρ} (hnd : (docs.map key).Nodup) :
    ((putAll key ds docs).map key).Nodup := by
  induction ds generalizing docs with
  | nil => exact hnd
  | cons d ds ih => exact ih (nodup_put hnd)

theorem last_cons (k : κ) (d : ρ) (ds : List ρ) :
    last key k (d :: ds) = (last key k ds).or (if key d = k then some d else none) := by
  simp [last, List.reverse_cons, get_append, get_cons]

theorem last_append (k : κ) (ds es : List ρ) :
    last key k (ds ++ es) = (last key k es).or (last key k ds) := by
  simp [last, List.reverse_append, get_append]

theorem last_some {k : κ} {ds : List ρ} {d : ρ} (h : last key k ds = some d) :
    d ∈ ds ∧ key d = k := by
  have := get_some h
  exact ⟨List.mem_reverse.mp this.1, this.2⟩

theorem last_eq_none {k : κ} {ds : List ρ} : last key k ds = none ↔ ∀ d ∈ ds, key d ≠ k := by
  simp [last, get_eq_none]

theorem last_isSome {k : κ} {ds : List ρ} : (last key k ds).isSome ↔ ∃ d ∈ ds, key d = k := by
  simp [last, get_isSome]

theorem put_of_forall_ne {d : ρ} {docs : List ρ} (h : ∀ e ∈ docs, key e ≠ key d) :
    put key d docs = docs ++ [d] := by
  induction docs with
  | nil => rfl
  | cons e es ih =>
      rw [List.forall_mem_cons] at h
      rw [put, if_neg h.1, ih h.2, List.cons_append]

theorem putAll_of_nodup {ds docs : List ρ} (h : ((docs ++ ds).map key).Nodup) :
    putAll key ds docs = docs ++ ds := by
  induction ds generalizing docs with
  | nil => rw [putAll_nil, List.append_nil]
  | cons d ds ih =>
      rw [List.append_cons docs d ds] at h ⊢
      have hnew : ∀ e ∈ docs, key e ≠ key d := by
        intro e he hkey
        rw [List.map_append, List.map_append, List.nodup_append] at h
        have hdisjoint := (List.nodup_append.mp h.1).2.2
        exact hdisjoint (key e) (List.mem_map_of_mem he) (key d) (by simp) hkey
      rw [putAll_cons, put_of_forall_ne hnew, ih h]

/-- The last documents of two batches that are related one by one. -/
theorem last_rel {β κ' : Type} [DecidableEq κ'] {key' : β → κ'} {R : ρ → β → Prop} {k : κ} {k' : κ'}
    {ds : List ρ} {bs : List β} (hkey : ∀ d b, R d b → (key d = k ↔ key' b = k'))
    (h : List.Forall₂ R ds bs) : Option.Rel R (last key k ds) (last key' k' bs) := by
  induction h with
  | nil => exact Option.Rel.none
  | @cons d b ds bs hhead _ ih =>
      rw [last_cons, last_cons]
      generalize last key k ds = x at ih
      generalize last key' k' bs = y at ih
      cases ih with
      | some hrel => exact Option.Rel.some hrel
      | none =>
          by_cases hd : key d = k
          · rw [if_pos hd, if_pos ((hkey d b hhead).mp hd)]
            exact Option.Rel.some hhead
          · rw [if_neg hd, if_neg (mt (hkey d b hhead).mpr hd)]
            exact Option.Rel.none

/-- The last document of the batch with the key wins; other keys keep their document. -/
theorem get_putAll (k : κ) (ds docs : List ρ) :
    get key k (putAll key ds docs) = (last key k ds).or (get key k docs) := by
  induction ds generalizing docs with
  | nil => simp [last]
  | cons d ds ih =>
      rw [putAll_cons, ih, get_put, last_cons]
      cases last key k ds with
      | some e => rfl
      | none => by_cases h : key d = k <;> simp [h]

theorem mem_putAll {ds docs : List ρ} {e : ρ} (h : e ∈ putAll key ds docs) :
    e ∈ ds ∨ e ∈ docs := by
  induction ds generalizing docs with
  | nil => exact Or.inr h
  | cons d ds ih =>
      rcases ih h with h | h
      · exact Or.inl (List.mem_cons_of_mem _ h)
      · rcases mem_put h with rfl | h
        · exact Or.inl List.mem_cons_self
        · exact Or.inr h

/-! ### Batches made of blocks -/

/-- In a batch assembled from blocks, the last document with key `k` is the last one of the only
block that has the key, wherever and however often that block occurs. -/
theorem last_flatMap {f : α → List ρ} {k : κ} {ts : List α} {t₀ : α}
    (honly : ∀ t ∈ ts, (∃ d ∈ f t, key d = k) → t = t₀) (hmem : t₀ ∈ ts) :
    last key k (ts.flatMap f) = last key k (f t₀) := by
  induction ts with
  | nil => cases hmem
  | cons t ts ih =>
      rw [List.flatMap_cons, last_append]
      have honly' : ∀ u ∈ ts, (∃ d ∈ f u, key d = k) → u = t₀ :=
        fun u hu => honly u (List.mem_cons_of_mem _ hu)
      by_cases hin : t₀ ∈ ts
      · rw [ih honly' hin]
        cases hlast : last key k (f t₀) with
        | some e => rfl
        | none =>
            rw [Option.none_or, last_eq_none]
            intro d hd he
            have ht : t = t₀ := honly t List.mem_cons_self ⟨d, hd, he⟩
            exact last_eq_none.mp hlast d (ht ▸ hd) he
      · obtain rfl : t₀ = t := (List.mem_cons.mp hmem).resolve_right hin
        have hrest : last key k (ts.flatMap f) = none := by
          rw [last_eq_none]
          intro d hd he
          obtain ⟨u, hu, hdu⟩ := List.mem_flatMap.mp hd
          exact hin (honly' u hu ⟨d, hdu, he⟩ ▸ hu)
        rw [hrest, Option.none_or]

end DocTable

/-! ### Tables without repeated keys -/

/-- A document table in which no two documents have one key. -/
structure Table {κ ρ : Type} (key : ρ → κ) where
  docs : List ρ
  nodup : (docs.map key).Nodup

namespace Table

variable {κ ρ : Type} {key : ρ → κ}

@[ext] theorem ext {t u : Table key} (h : t.docs = u.docs) : t = u := by
  cases t; cases u; cases h; rfl

instance [DecidableEq ρ] : DecidableEq (Table key) := fun t u =>
  decidable_of_iff (t.docs = u.docs) ⟨ext, congrArg docs⟩

variable [DecidableEq κ]

/-- The table without documents. -/
def empty : Table key := ⟨[], List.nodup_nil⟩

/-- The document with key `k`. -/
def find (t : Table key) (k : κ) : Option ρ := DocTable.get key k t.docs

/-- Insert `d`, or overwrite the document with its key. -/
def insert (t : Table key) (d : ρ) : Table key :=
  ⟨DocTable.put key d t.docs, DocTable.nodup_put t.nodup⟩

/-- Insert the documents of a batch in order. -/
def insertAll (t : Table key) (ds : List ρ) : Table key :=
  ⟨DocTable.putAll key ds t.docs, DocTable.nodup_putAll t.nodup⟩

@[simp] theorem find_empty (k : κ) : (empty : Table key).find k = none := rfl

theorem find_some {t : Table key} {k : κ} {d : ρ} (h : t.find k = some d) :
    d ∈ t.docs ∧ key d = k := DocTable.get_some h

theorem find_of_mem {t : Table key} {d : ρ} (h : d ∈ t.docs) : t.find (key d) = some d :=
  DocTable.get_of_mem t.nodup h

theorem mem_iff_find {t : Table key} {d : ρ} : d ∈ t.docs ↔ t.find (key d) = some d :=
  DocTable.mem_iff_get t.nodup

theorem find_insert (t : Table key) (d : ρ) (k : κ) :
    (t.insert d).find k = if key d = k then some d else t.find k :=
  DocTable.get_put key k d t.docs

@[simp] theorem find_insert_self (t : Table key) (d : ρ) : (t.insert d).find (key d) = some d := by
  rw [find_insert, if_pos rfl]

theorem insert_find {t : Table key} {d : ρ} (h : t.find (key d) = some d) : t.insert d = t :=
  ext (DocTable.put_of_get h)

theorem mem_insert {t : Table key} {d e : ρ} :
    e ∈ (t.insert d).docs ↔ e = d ∨ (e ∈ t.docs ∧ key e ≠ key d) := by
  rw [mem_iff_find, mem_iff_find, find_insert]
  by_cases h : key d = key e
  · rw [if_pos h, Option.some.injEq]
    exact ⟨fun hd => Or.inl hd.symm, fun he => he.elim Eq.symm (fun hc => absurd h.symm hc.2)⟩
  · rw [if_neg h]
    exact ⟨fun he => Or.inr ⟨he, Ne.symm h⟩,
      fun he => he.elim (fun hd => absurd (congrArg key hd).symm h) And.left⟩

@[simp] theorem insertAll_nil (t : Table key) : t.insertAll [] = t := rfl

theorem docs_insertAll_empty {ds : List ρ} (h : (ds.map key).Nodup) :
    ((empty : Table key).insertAll ds).docs = ds :=
  DocTable.putAll_of_nodup h

theorem insertAll_cons (t : Table key) (d : ρ) (ds : List ρ) :
    t.insertAll (d :: ds) = (t.insert d).insertAll ds := rfl

/-- The last document of the batch with the key wins; other keys keep their document. -/
theorem find_insertAll (t : Table key) (ds : List ρ) (k : κ) :
    (t.insertAll ds).find k = (DocTable.last key k ds).or (t.find k) :=
  DocTable.get_putAll k ds t.docs

theorem find_insertAll_of_forall_ne {t : Table key} {ds : List ρ} {k : κ}
    (h : ∀ d ∈ ds, key d ≠ k) : (t.insertAll ds).find k = t.find k := by
  rw [find_insertAll, DocTable.last_eq_none.mpr h, Option.none_or]

theorem find_insertAll_isSome {t : Table key} {ds : List ρ} {k : κ} :
    ((t.insertAll ds).find k).isSome ↔ (∃ d ∈ ds, key d = k) ∨ (t.find k).isSome := by
  rw [find_insertAll, Option.isSome_or, Bool.or_eq_true, DocTable.last_isSome]

end Table

/-! ### Replay of a log of blocks

Every element of a log is stored as a block of documents.  `Table.Replayed` says how far a table
that started as `base` has got: blocks `done` are stored, and only blocks in `scope` were touched.
Storing a part of pending blocks again and again does no harm, and two tables that have stored all
they touched are equal. -/

namespace Table

variable {α κ ρ : Type} {key : ρ → κ} [DecidableEq κ]

/-- Different elements have no key in common. -/
def KeysApart (key : ρ → κ) (f : α → List ρ) (scope : α → Prop) : Prop :=
  ∀ t u, scope t → scope u → ∀ d ∈ f t, ∀ e ∈ f u, key d = key e → t = u

/-- The document a stored block leaves under its key. -/
def OfBlock (key : ρ → κ) (f : α → List ρ) (t : α) (d : ρ) : Prop :=
  DocTable.last key (key d) (f t) = some d

/-- The table holds the blocks `done` over what `base` held, and touched no key outside `scope`. -/
structure Replayed (base table : Table key) (f : α → List ρ) (scope done : α → Prop) : Prop where
  outside : ∀ k, (∀ t, scope t → ∀ d ∈ f t, key d ≠ k) → table.find k = base.find k
  inside : ∀ t, done t → ∀ d ∈ f t, table.find (key d) = DocTable.last key (key d) (f t)

variable {base table table' : Table key} {f : α → List ρ} {scope scope' done done' : α → Prop}

theorem OfBlock.mem {t : α} {d : ρ} (h : OfBlock key f t d) : d ∈ f t := (DocTable.last_some h).1

/-- Blocks in scope leave one document under a key. -/
theorem OfBlock.eq_of_key (hapart : KeysApart key f scope) {t u : α} {d e : ρ} (ht : scope t)
    (hu : scope u) (h : OfBlock key f t d) (h' : OfBlock key f u e) (hkey : key d = key e) :
    d = e := by
  obtain rfl := hapart t u ht hu d h.mem e h'.mem hkey
  rw [OfBlock, hkey, h'] at h
  exact (Option.some.inj h).symm

/-- What is there after blocks were stored was there before, or is of one of the blocks. -/
theorem mem_insertBlocks (hapart : KeysApart key f scope) {ts : List α} (hts : ∀ t ∈ ts, scope t)
    {d : ρ} (h : d ∈ (table.insertAll (ts.flatMap f)).docs) :
    d ∈ table.docs ∨ ∃ t ∈ ts, OfBlock key f t d := by
  rw [mem_iff_find, find_insertAll, Option.or_eq_some_iff] at h
  rcases h with h | ⟨-, h⟩
  · obtain ⟨t, ht, hd⟩ := List.mem_flatMap.mp (DocTable.last_some h).1
    rw [DocTable.last_flatMap (fun u hu ⟨e, he, hkey⟩ => hapart u t (hts u hu) (hts t ht) e he d hd
      hkey) ht] at h
    exact Or.inr ⟨t, ht, h⟩
  · exact Or.inl (mem_iff_find.mpr h)

theorem OfBlock.mem_insertBlocks (hapart : KeysApart key f scope) {ts : List α}
    (hts : ∀ t ∈ ts, scope t) {t : α} (ht : scope t) {d : ρ} (h : OfBlock key f t d)
    (hd : d ∈ table.docs) : d ∈ (table.insertAll (ts.flatMap f)).docs := by
  by_cases hfind : ∃ e ∈ (table.insertAll (ts.flatMap f)).docs, key e = key d
  · obtain ⟨e, he, hkey⟩ := hfind
    rcases Table.mem_insertBlocks hapart hts he with hold | ⟨u, hu, hblock⟩
    · have hsame := find_of_mem hold
      rw [hkey, find_of_mem hd] at hsame
      exact Option.some.inj hsame ▸ he
    · exact hblock.eq_of_key hapart (hts u hu) ht h hkey ▸ he
  · have hsome : ((table.insertAll (ts.flatMap f)).find (key d)).isSome = true :=
      find_insertAll_isSome.mpr (Or.inr (by rw [find_of_mem hd]; rfl))
    obtain ⟨e, he⟩ := Option.isSome_iff_exists.mp hsome
    obtain ⟨hmem, hkey⟩ := find_some he
    exact absurd ⟨e, hmem, hkey⟩ hfind

theorem Replayed.start (base : Table key) (f : α → List ρ) :
    Replayed base base f scope (fun _ => False) := ⟨fun _ _ => rfl, fun _ h => h.elim⟩

theorem Replayed.mono (h : Replayed base table f scope done) (hscope : ∀ t, scope t → scope' t)
    (hdone : ∀ t, done' t → done t) : Replayed base table f scope' done' :=
  ⟨fun k hk => h.outside k fun t ht => hk t (hscope t ht), fun t ht => h.inside t (hdone t ht)⟩

theorem Replayed.insertAll (h : Replayed base table f scope done) (hapart : KeysApart key f scope)
    (hdone : ∀ t, done t → scope t) {ds : List ρ}
    (hds : ∀ d ∈ ds, ∃ t, scope t ∧ ¬ done t ∧ d ∈ f t) :
    Replayed base (table.insertAll ds) f scope done := by
  constructor
  · intro k hk
    rw [find_insertAll_of_forall_ne fun d hd => ?_]
    · exact h.outside k hk
    · obtain ⟨t, ht, -, hmem⟩ := hds d hd
      exact hk t ht d hmem
  · intro t ht d hd
    rw [find_insertAll_of_forall_ne fun e he hkey => ?_]
    · exact h.inside t ht d hd
    · obtain ⟨u, hu, hpending, hmem⟩ := hds e he
      exact hpending (hapart u t hu (hdone t ht) e hmem d hd hkey ▸ ht)

theorem Replayed.insertBlocks (h : Replayed base table f scope done)
    (hapart : KeysApart key f scope) (hdone : ∀ t, done t → scope t) {ts : List α}
    (hts : ∀ t ∈ ts, scope t) :
    Replayed base (table.insertAll (ts.flatMap f)) f scope (fun t => done t ∨ t ∈ ts) := by
  constructor
  · intro k hk
    rw [find_insertAll_of_forall_ne fun d hd => ?_]
    · exact h.outside k hk
    · obtain ⟨t, ht, hmem⟩ := List.mem_flatMap.mp hd
      exact hk t (hts t ht) d hmem
  · intro t ht d hd
    have hscope : scope t := ht.elim (hdone t) (hts t)
    by_cases hmem : t ∈ ts
    · rw [find_insertAll, DocTable.last_flatMap (fun u hu ⟨e, he, hkey⟩ =>
        hapart u t (hts u hu) hscope e he d hd hkey) hmem]
      cases hlast : DocTable.last key (key d) (f t) with
      | some e => rfl
      | none => exact absurd rfl (DocTable.last_eq_none.mp hlast d hd)
    · rw [find_insertAll_of_forall_ne fun e he hkey => ?_]
      · exact h.inside t (ht.resolve_right hmem) d hd
      · obtain ⟨u, hu, he⟩ := List.mem_flatMap.mp he
        exact hmem (hapart u t (hts u hu) hscope e he d hd hkey ▸ hu)

/-- Tables that have stored all they touched are equal. -/
theorem Replayed.find_eq (h : Replayed base table f done done)
    (h' : Replayed base table' f done' done') (hdone : ∀ t, done t ↔ done' t) (k : κ) :
    table.find k = table'.find k := by
  by_cases hk : ∀ t, done t → ∀ d ∈ f t, key d ≠ k
  · rw [h.outside k hk, h'.outside k fun t ht => hk t ((hdone t).mpr ht)]
  · push Not at hk
    obtain ⟨t, ht, d, hd, rfl⟩ := hk
    rw [h.inside t ht d hd, h'.inside t ((hdone t).mp ht) d hd]

end Table

/-! ### Listing in order -/

/-- Stable sort by `f`. -/
def sortOn {ρ ο : Type} [LinearOrder ο] (f : ρ → ο) (docs : List ρ) : List ρ :=
  docs.insertionSort (fun d e => f d ≤ f e)

/-- Stable sort by `f`, greatest first. -/
def sortOnDesc {ρ ο : Type} [LinearOrder ο] (f : ρ → ο) (docs : List ρ) : List ρ :=
  docs.insertionSort (fun d e => f e ≤ f d)

section sortOn

variable {ρ ο : Type} [LinearOrder ο] {f : ρ → ο} {docs docs' : List ρ} {d : ρ}

@[simp] theorem mem_sortOn : d ∈ sortOn f docs ↔ d ∈ docs := by
  simp [sortOn, List.mem_insertionSort]

@[simp] theorem mem_sortOnDesc : d ∈ sortOnDesc f docs ↔ d ∈ docs := by
  simp [sortOnDesc, List.mem_insertionSort]

theorem perm_sortOn : (sortOn f docs).Perm docs := List.perm_insertionSort _ _

theorem perm_sortOnDesc : (sortOnDesc f docs).Perm docs := List.perm_insertionSort _ _

theorem pairwise_sortOn : (sortOn f docs).Pairwise (fun d e => f d ≤ f e) :=
  haveI : IsTrans ρ (fun d e => f d ≤ f e) := ⟨fun _ _ _ => le_trans⟩
  haveI : Std.Total (fun d e : ρ => f d ≤ f e) := ⟨fun _ _ => le_total _ _⟩
  List.pairwise_insertionSort _ _

theorem pairwise_sortOnDesc : (sortOnDesc f docs).Pairwise (fun d e => f e ≤ f d) :=
  haveI : IsTrans ρ (fun d e => f e ≤ f d) := ⟨fun _ _ _ hde hef => le_trans hef hde⟩
  haveI : Std.Total (fun d e : ρ => f e ≤ f d) := ⟨fun _ _ => le_total _ _⟩
  List.pairwise_insertionSort _ _

theorem sortOn_eq_of_perm (hinj : ∀ d ∈ docs, ∀ e ∈ docs, f d = f e → d = e)
    (hperm : docs.Perm docs') : sortOn f docs = sortOn f docs' := by
  refine List.Perm.eq_of_pairwise ?_ pairwise_sortOn pairwise_sortOn
    (perm_sortOn.trans (hperm.trans perm_sortOn.symm))
  intro d e hd he hde hed
  exact hinj d (mem_sortOn.mp hd) e (hperm.mem_iff.mpr (mem_sortOn.mp he)) (le_antisymm hde hed)

end sortOn
