import Mathlib.Data.Prod.Lex
import OandaV3.Text

/-! # Transaction sort keys

`_transaction_sort_key` of the history service, the history client and the store: ids that
Python's `int` accepts are ordered as zero-padded numerals of twenty digits, before all others.  `int` also
takes spaces, a sign, underscores and the digits of other scripts; `decimal` is the table of these digits. -/

namespace OandaV3

/-- The digits of `int(text)`: ASCII digits, with single underscores between them. -/
def digits? : List Char → Option (List Char)
  | [] => none
  | [c] => if c.isDigit then some [c] else none
  | c :: '_' :: cs => if c.isDigit then (digits? cs).map (c :: ·) else none
  | c :: cs => if c.isDigit then (digits? cs).map (c :: ·) else none

/-- The spaces that `int` skips at both ends. -/
def isAsciiSpace (c : Char) : Bool := (9 ≤ c.toNat && c.toNat ≤ 13) || c.toNat == 32

/-- The characters without the spaces at both ends. -/
def trimSpaces (cs : List Char) : List Char :=
  ((cs.dropWhile isAsciiSpace).reverse.dropWhile isAsciiSpace).reverse

def signed? : List Char → Option ℤ
  | '-' :: cs => (digits? cs).map fun ds => -(Nat.ofDigitChars 10 ds 0 : ℤ)
  | '+' :: cs => (digits? cs).map fun ds => (Nat.ofDigitChars 10 ds 0 : ℤ)
  | cs => (digits? cs).map fun ds => (Nat.ofDigitChars 10 ds 0 : ℤ)

section

variable (decimal : Char → Option (Fin 10))

/-- What `int` reads for a character: spaces and digits of any script are those of ASCII. -/
def asciiChar (c : Char) : Option Char :=
  if c.toNat < 127 then some c
  else if Text.isSpace c then some ' '
  else (decimal c).map fun d => Nat.digitChar d

/-- `int(text)`; `none` is the `ValueError`. -/
def int? (text : String) : Option ℤ :=
  (text.toList.mapM (asciiChar decimal)).bind fun cs => signed? (trimSpaces cs)

end

/-- `int(str(value))` of an id of the broker, which has no digits of other scripts. -/
def pyInt? (value : String) : Option ℤ := int? (fun _ => none) value

/-- `f"{n:020d}"`. -/
def zeroPad (n : ℤ) : String :=
  let body := (toString n.natAbs).toList
  if n < 0 then String.ofList ('-' :: (List.replicate (19 - body.length) '0' ++ body))
  else String.ofList (List.replicate (20 - body.length) '0' ++ body)

/-- `_transaction_sort_key`. -/
def transactionSortKey (value : String) : ℕ ×ₗ String :=
  match pyInt? value with
  | some n => toLex (0, zeroPad n)
  | none => toLex (1, value)

example : transactionSortKey "9" < transactionSortKey "10" := by decide

example : transactionSortKey "10" < transactionSortKey "x9" := by decide

/-- Python's `max(values, key=..., default=None)`: the first of the greatest values. -/
def maxBy {α κ : Type} [LT κ] [DecidableLT κ] (key : α → κ) : List α → Option α
  | [] => none
  | a :: as => some (as.foldl (fun best b => if key best < key b then b else best) a)

theorem maxBy_mem {α κ : Type} [LT κ] [DecidableLT κ] {key : α → κ} {as : List α} {m : α}
    (h : maxBy key as = some m) : m ∈ as := by
  have hfold : ∀ (bs : List α) (best : α),
      bs.foldl (fun best b => if key best < key b then b else best) best ∈ best :: bs := by
    intro bs
    induction bs with
    | nil => intro best; exact List.mem_cons_self
    | cons b bs ih =>
        intro best
        rw [List.foldl_cons]
        split_ifs
        · exact List.mem_cons_of_mem _ (ih b)
        · rcases List.mem_cons.mp (ih best) with hb | hb
          · rw [hb]; exact List.mem_cons_self
          · exact List.mem_cons_of_mem _ (List.mem_cons_of_mem _ hb)
  cases as with
  | nil => cases h
  | cons a as => exact Option.some.inj h ▸ hfold as a

theorem key_le_of_maxBy {α κ : Type} [LinearOrder κ] {key : α → κ} {as : List α} {m : α}
    (h : maxBy key as = some m) : ∀ a ∈ as, key a ≤ key m := by
  have hfold : ∀ (bs : List α) (best : α), ∀ b ∈ best :: bs,
      key b ≤ key (bs.foldl (fun best b => if key best < key b then b else best) best) := by
    intro bs
    induction bs with
    | nil => simp
    | cons c bs ih =>
        intro best b hb
        rw [List.foldl_cons]
        split_ifs with hlt
        · rcases List.mem_cons.mp hb with rfl | hb
          · exact hlt.le.trans (ih c c List.mem_cons_self)
          · exact ih c b hb
        · have hbest := ih best best List.mem_cons_self
          rcases List.mem_cons.mp hb with rfl | hb
          · exact hbest
          · rcases List.mem_cons.mp hb with rfl | hb
            · exact (not_lt.mp hlt).trans hbest
            · exact ih best b (List.mem_cons_of_mem _ hb)
  cases as with
  | nil => cases h
  | cons a as => exact Option.some.inj h ▸ hfold as a

theorem maxBy_map {α β κ : Type} [LT κ] [DecidableLT κ] (key : β → κ) (f : α → β) (as : List α) :
    maxBy key (as.map f) = (maxBy (fun a => key (f a)) as).map f := by
  cases as with
  | nil => rfl
  | cons a as =>
      rw [List.map_cons, maxBy, maxBy, Option.map_some]
      congr 1
      induction as generalizing a with
      | nil => rfl
      | cons b as ih =>
          rw [List.map_cons, List.foldl_cons, List.foldl_cons]
          split_ifs
          · exact ih b
          · exact ih a

end OandaV3
