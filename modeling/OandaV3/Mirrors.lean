import Mathlib.Algebra.Order.Group.MinMax
import Mathlib.Order.MinMax

/-! # Mirrors

A mirror swaps the two sides of a type: buying and selling, up and down, a price and its negative.  Lists and
options are mirrored item by item.  A function that treats both sides alike commutes with the mirror; the rules
below push the mirror through the searches and extremes such functions are made of. -/

namespace Mirrors

class Mirror (α : Type) where
  mirror : α → α
  mirror_mirror : ∀ a, mirror (mirror a) = a

open Mirror

attribute [simp] mirror_mirror

variable {α β : Type} [Mirror α] [Mirror β]

theorem mirror_inj {a b : α} : mirror a = mirror b ↔ a = b := by
  refine ⟨fun h => ?_, congrArg mirror⟩
  have h' := congrArg mirror h
  rwa [mirror_mirror, mirror_mirror] at h'

theorem mirror_eq_iff {a b : α} : mirror a = b ↔ a = mirror b := by
  rw [← mirror_inj, mirror_mirror]

/-! ### Options and lists -/

instance : Mirror (Option α) where
  mirror := Option.map mirror
  mirror_mirror a := by
    rw [Option.map_map, (funext mirror_mirror : mirror ∘ mirror = (id : α → α)), Option.map_id, id]

instance : Mirror (List α) where
  mirror := List.map mirror
  mirror_mirror l := by
    rw [List.map_map, (funext mirror_mirror : mirror ∘ mirror = (id : α → α)), List.map_id]

@[simp] theorem mirror_none : mirror (none : Option α) = none := rfl

@[simp] theorem mirror_some (a : α) : mirror (some a) = some (mirror a) := rfl

@[simp] theorem mirror_nil : mirror ([] : List α) = [] := rfl

@[simp] theorem mirror_cons (a : α) (l : List α) : mirror (a :: l) = mirror a :: mirror l := rfl

@[simp] theorem mirror_append (l l' : List α) : mirror (l ++ l') = mirror l ++ mirror l' := List.map_append

@[simp] theorem isSome_mirror (o : Option α) : (mirror o).isSome = o.isSome := Option.isSome_map

@[simp] theorem length_mirror (l : List α) : (mirror l).length = l.length := List.length_map ..

theorem mirror_eq_none {o : Option α} : mirror o = none ↔ o = none := Option.map_eq_none_iff

theorem mem_mirror {a : α} {l : List α} : a ∈ mirror l ↔ mirror a ∈ l := by
  refine ⟨fun h => ?_, fun h => List.mem_map.mpr ⟨mirror a, h, mirror_mirror a⟩⟩
  obtain ⟨b, hb, rfl⟩ := List.mem_map.mp h
  rwa [mirror_mirror]

/-! ### Searches -/

/-- The first item that qualifies is mirrored, when the mirrored items qualify. -/
theorem find?_mirror {p q : α → Bool} (h : ∀ a, q (mirror a) = p a) (l : List α) :
    (mirror l).find? q = mirror (l.find? p) := by
  induction l with
  | nil => rfl
  | cons a l ih =>
      rw [mirror_cons, List.find?_cons, List.find?_cons, h]
      cases p a with
      | true => rfl
      | false => exact ih

theorem any_mirror {p q : α → Bool} (h : ∀ a, q (mirror a) = p a) (l : List α) :
    (mirror l).any q = l.any p := by
  have h' : q ∘ mirror = p := funext h
  rw [show (mirror l).any q = l.any (q ∘ mirror) from List.any_map, h']

theorem filter_mirror {p q : α → Bool} (h : ∀ a, q (mirror a) = p a) (l : List α) :
    (mirror l).filter q = mirror (l.filter p) := by
  have h' : q ∘ mirror = p := funext h
  rw [show (mirror l).filter q = (l.filter (q ∘ mirror)).map mirror from List.filter_map, h']
  rfl

theorem map_mirror {γ : Type} {f g : α → γ} (h : ∀ a, g (mirror a) = f a) (l : List α) :
    (mirror l).map g = l.map f := by
  have h' : g ∘ mirror = f := funext h
  rw [show (mirror l).map g = l.map (g ∘ mirror) from List.map_map, h']

theorem filterMap_mirror {f g : α → Option β} (h : ∀ a, g (mirror a) = mirror (f a)) (l : List α) :
    (mirror l).filterMap g = mirror (l.filterMap f) := by
  induction l with
  | nil => rfl
  | cons a l ih =>
      rw [mirror_cons, List.filterMap_cons, List.filterMap_cons, h, ih]
      cases f a <;> rfl

/-- A search for every item finds the mirrored values, when each search does. -/
theorem mapM_mirror {ι : Type} {f g : ι → Option α} (h : ∀ i, g i = mirror (f i)) (l : List ι) :
    l.mapM g = mirror (l.mapM f) := by
  induction l with
  | nil => rfl
  | cons i l ih =>
      rw [List.mapM_cons, List.mapM_cons, h, ih]
      cases f i with
      | none => rfl
      | some a => cases l.mapM f <;> rfl

/-- A loop over mirrored items gives the mirrored results, and raises the same. -/
theorem mapM_except_mirror {ε : Type} {f : α → Except ε β} (h : ∀ a, f (mirror a) = (f a).map mirror)
    (l : List α) : (mirror l).mapM f = (l.mapM f).map mirror := by
  induction l with
  | nil => rfl
  | cons a l ih =>
      rw [mirror_cons, List.mapM_cons, List.mapM_cons, h, ih]
      cases f a with
      | error e => rfl
      | ok b => cases l.mapM f <;> rfl

/-! ### Numbers -/

/-- Numbers are mirrored at zero. -/
abbrev Mirror.ofNeg {α : Type} [InvolutiveNeg α] : Mirror α := ⟨Neg.neg, neg_neg⟩

section order

variable {γ : Type} [AddCommGroup γ] [LinearOrder γ] [IsOrderedAddMonoid γ]

theorem foldl_min_neg (l : List γ) (a : γ) : (l.map Neg.neg).foldl min (-a) = -l.foldl max a := by
  induction l generalizing a with
  | nil => rfl
  | cons b l ih => rw [List.map_cons, List.foldl_cons, List.foldl_cons, min_neg_neg, ih]

theorem min?_neg (l : List γ) : (l.map Neg.neg).min? = l.max?.map Neg.neg := by
  cases l with
  | nil => rfl
  | cons a l =>
      rw [List.map_cons, List.min?_cons', List.max?_cons', foldl_min_neg]
      rfl

theorem max?_neg (l : List γ) : (l.map Neg.neg).max? = l.min?.map Neg.neg := by
  have h := min?_neg (l.map Neg.neg)
  rw [List.map_map, (funext neg_neg : Neg.neg ∘ Neg.neg = (id : γ → γ)), List.map_id] at h
  rw [h, Option.map_map, (funext neg_neg : Neg.neg ∘ Neg.neg = (id : γ → γ)), Option.map_id, id]

end order

end Mirrors
