import OandaV3.Dict
import OandaV3.DocTable

/-! # Grouping by an optional key

`foldGroups key f v₀ l` is the dict that a loop over `l` fills: an item with a key changes the value of
its key by `f`, starting from `v₀`; an item without a key changes nothing.  `GroupsBy key holds l d` says
that `d` lists the keys of `l` in increasing order, each with a value that `holds` of the items with the
key.

* `groupsBy_sortOn`: a sorted `foldGroups` holds the fold over the items of each key.
* `GroupsBy.map`: changing the values of a grouping. -/

namespace Dict

open DocTable

variable {α κ ν μ : Type} [DecidableEq κ]

/-! ### The loop -/

def groupStep (key : α → Option κ) (f : ν → α → ν) (v₀ : ν) (d : List (κ × ν)) (a : α) :
    List (κ × ν) :=
  match key a with
  | none => d
  | some k => assign d k (f ((d.lookup k).getD v₀) a)

/-- The dict that the loop fills. -/
def foldGroups (key : α → Option κ) (f : ν → α → ν) (v₀ : ν) (l : List α) : List (κ × ν) :=
  l.foldl (groupStep key f v₀) []

def itemsOf (key : α → Option κ) (l : List α) (k : κ) : List α :=
  l.filter fun a => decide (key a = some k)

/-- `d[k].append(a)` on a `defaultdict(list)`. -/
def append (d : List (κ × List α)) (k : κ) (a : α) : List (κ × List α) :=
  assign d k ((d.lookup k).getD [] ++ [a])

section loop

variable {key : α → Option κ} {f : ν → α → ν} {v₀ : ν} {l : List α} {group : κ × ν}

theorem foldGroups_concat (l : List α) (a : α) :
    foldGroups key f v₀ (l ++ [a]) = groupStep key f v₀ (foldGroups key f v₀ l) a :=
  List.foldl_append

theorem mem_foldGroups (h : group ∈ foldGroups key f v₀ l) : ∃ a ∈ l, key a = some group.1 := by
  induction l using List.reverseRecOn with
  | nil => cases h
  | append_singleton l a ih =>
      rw [foldGroups_concat, groupStep] at h
      cases hkey : key a with
      | none =>
          rw [hkey] at h
          obtain ⟨b, hb, hbkey⟩ := ih h
          exact ⟨b, List.mem_append_left _ hb, hbkey⟩
      | some k =>
          rw [hkey] at h
          rcases mem_assign h with rfl | hold
          · exact ⟨a, List.mem_append_right _ List.mem_cons_self, hkey⟩
          · obtain ⟨b, hb, hbkey⟩ := ih hold
            exact ⟨b, List.mem_append_left _ hb, hbkey⟩

theorem nodup_foldGroups : ((foldGroups key f v₀ l).map Prod.fst).Nodup := by
  induction l using List.reverseRecOn with
  | nil => exact List.nodup_nil
  | append_singleton l a ih =>
      rw [foldGroups_concat, groupStep]
      cases key a with
      | none => exact ih
      | some k => exact nodup_assign _ ih

theorem lookup_foldGroups (l : List α) (k : κ) :
    ((foldGroups key f v₀ l).lookup k).getD v₀ = (itemsOf key l k).foldl f v₀ := by
  induction l using List.reverseRecOn with
  | nil => rfl
  | append_singleton l a ih =>
      rw [foldGroups_concat, groupStep, itemsOf, List.filter_append, List.foldl_append]
      unfold itemsOf at ih
      cases hkey : key a with
      | none => simp [hkey, ih]
      | some k' =>
          by_cases hk : k' = k
          · subst hk
            simp [hkey, ih]
          · simp only
            rw [lookup_assign_ne _ _ (Ne.symm hk), ih]
            simp [hkey, hk]

theorem lookup_of_mem {d : List (κ × ν)} (hnodup : (d.map Prod.fst).Nodup) (h : group ∈ d) :
    d.lookup group.1 = some group.2 := by
  induction d with
  | nil => cases h
  | cons first d ih =>
      rw [List.map_cons, List.nodup_cons] at hnodup
      rw [List.lookup_cons]
      rcases List.mem_cons.mp h with rfl | hlater
      · simp
      · have hne : group.1 ≠ first.1 := fun heq => hnodup.1 (heq ▸ List.mem_map_of_mem hlater)
        rw [beq_false_of_ne hne]
        exact ih hnodup.2 hlater

theorem value_foldGroups (h : group ∈ foldGroups key f v₀ l) :
    group.2 = (itemsOf key l group.1).foldl f v₀ := by
  rw [← lookup_foldGroups, lookup_of_mem nodup_foldGroups h, Option.getD_some]

theorem exists_foldGroups {a : α} {k : κ} (ha : a ∈ l) (hkey : key a = some k) :
    ∃ group ∈ foldGroups key f v₀ l, group.1 = k := by
  induction l using List.reverseRecOn with
  | nil => cases ha
  | append_singleton l b ih =>
      rw [foldGroups_concat, groupStep]
      rcases List.mem_append.mp ha with hold | hlast
      · obtain ⟨group, hgroup, rfl⟩ := ih hold
        cases key b with
        | none => exact ⟨group, hgroup, rfl⟩
        | some k' => exact exists_assign k' _ hgroup
      · obtain rfl := List.mem_singleton.mp hlast
        rw [hkey]
        exact ⟨_, mem_of_lookup (lookup_assign_self _ _ _), rfl⟩

theorem foldl_concat (l m : List α) : m.foldl (fun group a => group ++ [a]) l = l ++ m := by
  induction m generalizing l with
  | nil => simp
  | cons a m ih => simp [ih]

end loop

/-! ### Sorted groups -/

/-- A dict of groups: the keys of the items in increasing order, each with a value for its items. -/
structure GroupsBy [LinearOrder κ] (key : α → Option κ) (holds : List α → ν → Prop) (l : List α)
    (d : List (κ × ν)) : Prop where
  increasing : d.Pairwise fun group group' => group.1 < group'.1
  value : ∀ group ∈ d, (∃ a ∈ l, key a = some group.1) ∧ holds (itemsOf key l group.1) group.2
  complete : ∀ a ∈ l, ∀ k, key a = some k → ∃ group ∈ d, group.1 = k

section GroupsBy

variable [LinearOrder κ] {key : α → Option κ} {l : List α}

theorem groupsBy_sortOn (key : α → Option κ) (f : ν → α → ν) (v₀ : ν) (l : List α) :
    GroupsBy key (fun items v => v = items.foldl f v₀) l
      (sortOn Prod.fst (foldGroups key f v₀ l)) := by
  refine ⟨?_, fun group hgroup => ?_, fun a ha k hkey => ?_⟩
  · have hnodup : ((sortOn Prod.fst (foldGroups key f v₀ l)).map Prod.fst).Nodup :=
      (perm_sortOn.map Prod.fst).nodup_iff.mpr nodup_foldGroups
    have hsorted : (sortOn Prod.fst (foldGroups key f v₀ l)).Pairwise
        fun group group' => group.1 ≤ group'.1 := pairwise_sortOn
    rw [List.nodup_iff_pairwise_ne, List.pairwise_map] at hnodup
    exact (hsorted.and hnodup).imp fun h => lt_of_le_of_ne h.1 h.2
  · have hmem := mem_sortOn.mp hgroup
    exact ⟨mem_foldGroups hmem, value_foldGroups hmem⟩
  · obtain ⟨group, hgroup, hk⟩ := exists_foldGroups ha hkey
    exact ⟨group, mem_sortOn.mpr hgroup, hk⟩

theorem GroupsBy.map {holds : List α → ν → Prop} {holds' : List α → μ → Prop} {d : List (κ × ν)}
    (h : GroupsBy key holds l d) (g : ν → μ) (hg : ∀ items v, holds items v → holds' items (g v)) :
    GroupsBy key holds' l (d.map fun group => (group.1, g group.2)) := by
  refine ⟨List.pairwise_map.mpr h.increasing, fun group hgroup => ?_, fun a ha k hkey => ?_⟩
  · obtain ⟨group, hmem, rfl⟩ := List.mem_map.mp hgroup
    exact ⟨(h.value group hmem).1, hg _ _ (h.value group hmem).2⟩
  · obtain ⟨group, hmem, hk⟩ := h.complete a ha k hkey
    exact ⟨_, List.mem_map_of_mem hmem, hk⟩

theorem GroupsBy.mono {holds holds' : List α → ν → Prop} {d : List (κ × ν)}
    (h : GroupsBy key holds l d) (hmono : ∀ items v, holds items v → holds' items v) :
    GroupsBy key holds' l d :=
  ⟨h.increasing, fun group hgroup => ⟨(h.value group hgroup).1, hmono _ _ (h.value group hgroup).2⟩,
    h.complete⟩

end GroupsBy

end Dict
