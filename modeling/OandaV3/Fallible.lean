import Mathlib.Data.List.Forall2

/-! # Fallible computations

Inversion rules for computations that return or raise: what it takes for `>>=`, `map` and `mapM` to
return (`bind_eq_ok`, `map_eq_ok`, `mapM_eq_ok`), values that carry a check (`validated_eq_ok`), and
which exceptions can be raised at all (`RaisesOnly`). -/

namespace Fallible

variable {ε α β : Type}

/-! ### Computations that return -/

theorem bind_eq_ok {x : Except ε α} {f : α → Except ε β} {b : β} :
    (x >>= f) = .ok b ↔ ∃ a, x = .ok a ∧ f a = .ok b := by
  cases x with
  | error e => exact ⟨fun h => (nomatch h), fun ⟨a, ha, _⟩ => (nomatch ha)⟩
  | ok a => exact ⟨fun h => ⟨a, rfl, h⟩, fun ⟨a', ha, h⟩ => by cases ha; exact h⟩

theorem map_eq_ok {x : Except ε α} {f : α → β} {b : β} :
    x.map f = .ok b ↔ ∃ a, x = .ok a ∧ f a = b := by
  cases x with
  | error e => exact ⟨fun h => (nomatch h), fun ⟨a, ha, _⟩ => (nomatch ha)⟩
  | ok a => exact ⟨fun h => ⟨a, rfl, Except.ok.inj h⟩, fun ⟨a', ha, h⟩ => by cases ha; cases h; rfl⟩

theorem mapM_eq_ok {f : α → Except ε β} : ∀ {as : List α} {bs : List β},
    as.mapM f = .ok bs ↔ List.Forall₂ (fun a b => f a = .ok b) as bs
  | [], bs => by
      rw [List.mapM_nil, List.forall₂_nil_left_iff]
      exact ⟨fun h => (Except.ok.inj h).symm, fun h => h ▸ rfl⟩
  | a :: as, bs => by
      rw [List.mapM_cons, List.forall₂_cons_left_iff, bind_eq_ok]
      constructor
      · rintro ⟨b, hb, hbs⟩
        obtain ⟨bs', hbs', hcons⟩ := bind_eq_ok.mp hbs
        exact ⟨b, bs', hb, mapM_eq_ok.mp hbs', (Except.ok.inj hcons).symm⟩
      · rintro ⟨b, bs', hb, hbs', rfl⟩
        exact ⟨b, hb, bind_eq_ok.mpr ⟨bs', mapM_eq_ok.mpr hbs', rfl⟩⟩

theorem map_of_mapM {γ : Type} {f : α → Except ε β} {g : α → γ} {g' : β → γ}
    (hf : ∀ a b, f a = .ok b → g' b = g a) {as : List α} {bs : List β} (h : as.mapM f = .ok bs) :
    bs.map g' = as.map g := by
  induction mapM_eq_ok.mp h with
  | nil => rfl
  | cons hhead htail ih =>
      rw [List.map_cons, List.map_cons, hf _ _ hhead, ih (mapM_eq_ok.mpr htail)]

theorem mem_of_mapM {f : α → Except ε β} {as : List α} {bs : List β} (h : as.mapM f = .ok bs)
    {b : β} (hb : b ∈ bs) : ∃ a ∈ as, f a = .ok b := by
  have hall := mapM_eq_ok.mp h
  obtain ⟨i, hi, rfl⟩ := List.getElem_of_mem hb
  have hlt : i < as.length := hall.length_eq ▸ hi
  exact ⟨as[i], List.getElem_mem hlt, hall.get hlt hi⟩

theorem exists_of_mapM {f : α → Except ε β} {as : List α} {bs : List β} (h : as.mapM f = .ok bs)
    {a : α} (ha : a ∈ as) : ∃ b ∈ bs, f a = .ok b := by
  have hall := mapM_eq_ok.mp h
  obtain ⟨i, hi, rfl⟩ := List.getElem_of_mem ha
  have hlt : i < bs.length := hall.length_eq ▸ hi
  exact ⟨bs[i], List.getElem_mem hlt, hall.get hi hlt⟩

theorem exists_mapM {f : α → Except ε β} {as : List α} (h : ∀ a ∈ as, ∃ b, f a = .ok b) :
    ∃ bs, as.mapM f = .ok bs := by
  induction as with
  | nil => exact ⟨[], rfl⟩
  | cons a as ih =>
      rw [List.forall_mem_cons] at h
      obtain ⟨b, hb⟩ := h.1
      obtain ⟨bs, hbs⟩ := ih h.2
      exact ⟨b :: bs, mapM_eq_ok.mpr (.cons hb (mapM_eq_ok.mp hbs))⟩

/-! ### Values with a contract -/

/-- The value whose contract holds, or the exception of its check. -/
def validated : (check : Except ε Unit) → (check = .ok () → α) → Except ε α
  | .ok (), value => .ok (value rfl)
  | .error e, _ => .error e

variable {check : Except ε Unit} {value : check = .ok () → α}

theorem validated_of_ok (h : check = .ok ()) : validated check value = .ok (value h) := by
  subst h
  rfl

theorem validated_eq_ok {a : α} : validated check value = .ok a ↔ ∃ h, value h = a := by
  cases check with
  | error e => exact ⟨fun h => (nomatch h), fun ⟨h, _⟩ => (nomatch h)⟩
  | ok u => exact ⟨fun h => ⟨rfl, Except.ok.inj h⟩, fun ⟨_, ha⟩ => congrArg Except.ok ha⟩

/-! ### Computations that raise -/

/-- Every exception of a computation is of a kind. -/
def RaisesOnly (kind : ε → Prop) (x : Except ε α) : Prop := ∀ e, x = .error e → kind e

namespace RaisesOnly

variable {kind : ε → Prop}

theorem ok (a : α) : RaisesOnly kind (.ok a) := by
  intro e h
  cases h

theorem error {e : ε} (h : kind e) : RaisesOnly kind (.error e : Except ε α) := by
  intro e' h'
  obtain rfl := Except.error.inj h'
  exact h

theorem bind {x : Except ε α} {f : α → Except ε β} (hx : RaisesOnly kind x)
    (hf : ∀ a, x = .ok a → RaisesOnly kind (f a)) : RaisesOnly kind (x >>= f) := by
  cases x with
  | error e => exact error (hx e rfl)
  | ok a => exact hf a rfl

end RaisesOnly

end Fallible
