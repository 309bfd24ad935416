import Mathlib.Data.List.Basic
import Mathlib.Order.Basic

/-! # Python value trees

Values built from dictionaries, lists, tuples, pydantic models and scalars of any type.

* `Value.induction`: a property of every value follows from the same property of its parts.
* `Value.at?`: the value at a path of keys and indices; a model is read by the names of its fields.
* `Value.dump`: what `model_dump(mode="python")` makes of a value that lies inside a model. -/

namespace Py

variable {α : Type}

inductive Key (α : Type) where
  | str (s : String)
  | other (a : α)
deriving DecidableEq, Repr

inductive Value (α : Type) where
  | scalar (a : α)
  | dict (items : List (Key α × Value α))
  | list (items : List (Value α))
  | tuple (items : List (Value α))
  | model (fields : List (String × Value α))

namespace Value

/-! ### Sizes -/

mutual
/-- The size of a tree; a model is larger than the dictionary it is dumped to. -/
def size : Value α → ℕ
  | .scalar _ => 1
  | .dict items => itemsSize items + 1
  | .list items => listSize items + 1
  | .tuple items => listSize items + 1
  | .model fields => fieldsSize fields + 2
def itemsSize : List (Key α × Value α) → ℕ
  | [] => 0
  | (_, v) :: items => v.size + itemsSize items + 1
def listSize : List (Value α) → ℕ
  | [] => 0
  | v :: items => v.size + listSize items + 1
def fieldsSize : List (String × Value α) → ℕ
  | [] => 0
  | (_, v) :: fields => v.size + fieldsSize fields + 1
end

theorem size_lt_itemsSize {items : List (Key α × Value α)} {item : Key α × Value α}
    (h : item ∈ items) : item.2.size < itemsSize items := by
  induction items with
  | nil => cases h
  | cons first items ih =>
      obtain ⟨key, v⟩ := first
      rw [itemsSize]
      rcases List.mem_cons.mp h with rfl | hlater
      · simp only
        omega
      · have hlt := ih hlater
        omega

theorem size_lt_listSize {items : List (Value α)} {v : Value α} (h : v ∈ items) :
    v.size < listSize items := by
  induction items with
  | nil => cases h
  | cons first items ih =>
      rw [listSize]
      rcases List.mem_cons.mp h with rfl | hlater
      · omega
      · have hlt := ih hlater
        omega

theorem size_lt_fieldsSize {fields : List (String × Value α)} {field : String × Value α}
    (h : field ∈ fields) : field.2.size < fieldsSize fields := by
  induction fields with
  | nil => cases h
  | cons first fields ih =>
      obtain ⟨name, v⟩ := first
      rw [fieldsSize]
      rcases List.mem_cons.mp h with rfl | hlater
      · simp only
        omega
      · have hlt := ih hlater
        omega

@[elab_as_elim]
theorem induction {motive : Value α → Prop} (v : Value α) (scalar : ∀ a, motive (.scalar a))
    (dict : ∀ items, (∀ item ∈ items, motive item.2) → motive (.dict items))
    (list : ∀ items, (∀ item ∈ items, motive item) → motive (.list items))
    (tuple : ∀ items, (∀ item ∈ items, motive item) → motive (.tuple items))
    (model : ∀ fields, (∀ field ∈ fields, motive field.2) → motive (.model fields)) : motive v := by
  induction hsize : v.size using Nat.strongRecOn generalizing v with
  | _ n ih =>
      subst hsize
      cases v with
      | scalar a => exact scalar a
      | dict items =>
          refine dict items fun item hitem => ih _ ?_ item.2 rfl
          have hlt := size_lt_itemsSize hitem
          rw [size]
          omega
      | list items =>
          refine list items fun item hitem => ih _ ?_ item rfl
          have hlt := size_lt_listSize hitem
          rw [size]
          omega
      | tuple items =>
          refine tuple items fun item hitem => ih _ ?_ item rfl
          have hlt := size_lt_listSize hitem
          rw [size]
          omega
      | model fields =>
          refine model fields fun field hfield => ih _ ?_ field.2 rfl
          have hlt := size_lt_fieldsSize hfield
          rw [size]
          omega

/-! ### Dumping -/

mutual
/-- What `model_dump` makes of a value inside a model. -/
def dump : Value α → Value α
  | .scalar a => .scalar a
  | .dict items => .dict (dumpItems items)
  | .list items => .list (dumpList items)
  | .tuple items => .tuple (dumpList items)
  | .model fields => .dict (dumpFields fields)
def dumpItems : List (Key α × Value α) → List (Key α × Value α)
  | [] => []
  | (key, v) :: items => (key, v.dump) :: dumpItems items
def dumpList : List (Value α) → List (Value α)
  | [] => []
  | v :: items => v.dump :: dumpList items
/-- `model_dump(mode="python")` of a model with these fields. -/
def dumpFields : List (String × Value α) → List (Key α × Value α)
  | [] => []
  | (name, v) :: fields => (.str name, v.dump) :: dumpFields fields
end

theorem dumpItems_eq_map (items : List (Key α × Value α)) :
    dumpItems items = items.map fun item => (item.1, item.2.dump) := by
  induction items with
  | nil => rfl
  | cons item items ih => rw [dumpItems, ih, List.map_cons]

theorem dumpList_eq_map (items : List (Value α)) : dumpList items = items.map dump := by
  induction items with
  | nil => rfl
  | cons item items ih => rw [dumpList, ih, List.map_cons]

theorem dumpFields_eq_map (fields : List (String × Value α)) :
    dumpFields fields = fields.map fun field => (.str field.1, field.2.dump) := by
  induction fields with
  | nil => rfl
  | cons field fields ih => rw [dumpFields, ih, List.map_cons]

mutual
theorem size_dump_le : ∀ v : Value α, v.dump.size ≤ v.size
  | .scalar a => Nat.le_refl _
  | .dict items => by
      rw [dump, size, size]
      exact Nat.succ_le_succ (itemsSize_dumpItems_le items)
  | .list items => by
      rw [dump, size, size]
      exact Nat.succ_le_succ (listSize_dumpList_le items)
  | .tuple items => by
      rw [dump, size, size]
      exact Nat.succ_le_succ (listSize_dumpList_le items)
  | .model fields => by
      have hfields := itemsSize_dumpFields_le fields
      rw [dump, size, size]
      omega
theorem itemsSize_dumpItems_le : ∀ items : List (Key α × Value α),
    itemsSize (dumpItems items) ≤ itemsSize items
  | [] => Nat.le_refl _
  | (_, v) :: items => by
      have hhead := size_dump_le v
      have htail := itemsSize_dumpItems_le items
      rw [dumpItems, itemsSize, itemsSize]
      omega
theorem listSize_dumpList_le : ∀ items : List (Value α), listSize (dumpList items) ≤ listSize items
  | [] => Nat.le_refl _
  | v :: items => by
      have hhead := size_dump_le v
      have htail := listSize_dumpList_le items
      rw [dumpList, listSize, listSize]
      omega
theorem itemsSize_dumpFields_le : ∀ fields : List (String × Value α),
    itemsSize (dumpFields fields) ≤ fieldsSize fields
  | [] => Nat.le_refl _
  | (_, v) :: fields => by
      have hhead := size_dump_le v
      have htail := itemsSize_dumpFields_le fields
      rw [dumpFields, itemsSize, fieldsSize]
      omega
end

end Value

/-! ### Paths -/

inductive Step (α : Type) where
  | key (k : Key α)
  | index (i : ℕ)
deriving DecidableEq, Repr

namespace Value

/-- The items of a mapping: a dictionary, or a model by the names of its fields. -/
def items : Value α → List (Key α × Value α)
  | .dict items => items
  | .model fields => fields.map fun field => (.str field.1, field.2)
  | _ => []

/-- The elements of a list or a tuple. -/
def elements : Value α → List (Value α)
  | .list items => items
  | .tuple items => items
  | _ => []

variable [DecidableEq α]

/-- The part a step leads to. -/
def get (v : Value α) : Step α → Option (Value α)
  | .key k => v.items.lookup k
  | .index i => v.elements[i]?

/-- The part a path leads to. -/
def at? (v : Value α) : List (Step α) → Option (Value α)
  | [] => some v
  | step :: path => (v.get step).bind fun part => part.at? path

theorem at?_cons {v part : Value α} {step : Step α} {path : List (Step α)}
    (h : v.get step = some part) : v.at? (step :: path) = part.at? path := by
  rw [at?, h, Option.bind_some]

end Value

end Py
