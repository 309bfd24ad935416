import OandaV3.JsonText

/-! # What is encoded is decoded

* `readsBack`: every value is read back from its encoding, whatever ends it.
* `reordered_sortKeys`: sorting the keys changes the order of the fields only.
* `loads_dumps`: `json.loads` undoes `json.dumps`, up to the order of the fields. -/

namespace JsonText

open Value

variable {α : Type}

/-! ### Strings -/

theorem hexDigit_digitChar : ∀ d < 16, hexDigit (Nat.digitChar d) = some d := by decide

theorem hexUnit_digitChar {n : ℕ} (h : n < 65536) :
    hexUnit (Nat.digitChar (n / 4096 % 16)) (Nat.digitChar (n / 256 % 16)) (Nat.digitChar (n / 16 % 16))
      (Nat.digitChar (n % 16)) = some n := by
  have hd := fun m : ℕ => hexDigit_digitChar (m % 16) (Nat.mod_lt m (by decide))
  simp only [hexUnit, hd, Option.pure_def, Option.bind_eq_bind, Option.bind_some, Option.some.injEq]
  omega

/-- No character is a surrogate. -/
theorem codePoint_toNat (c : Char) : codePoint c.toNat = c := by
  rw [codePoint, if_pos (show c.toNat.isValidChar from c.valid), Char.ofNat_toNat]

theorem toNat_not_surrogate (c : Char) : ¬(55296 ≤ c.toNat ∧ c.toNat ≤ 57343) := by
  have hvalid : c.toNat.isValidChar := c.valid
  unfold Nat.isValidChar at hvalid
  omega

theorem toNat_lt (c : Char) : c.toNat < 1114112 := by
  have hvalid : c.toNat.isValidChar := c.valid
  unfold Nat.isValidChar at hvalid
  omega

theorem scanEscape_letter {c letter : Char} (h : letterEscapes.lookup c = some letter) (text : List Char) :
    scanEscape (letter :: text) = some (c, text) := by
  obtain ⟨before, after, hsplit, -⟩ := List.lookup_eq_some_iff.mp h
  have hmem : (c, letter) ∈ letterEscapes := by rw [hsplit]; simp
  simp only [letterEscapes, List.mem_cons, Prod.mk.injEq, List.not_mem_nil, or_false] at hmem
  rcases hmem with ⟨rfl, rfl⟩ | ⟨rfl, rfl⟩ | ⟨rfl, rfl⟩ | ⟨rfl, rfl⟩ | ⟨rfl, rfl⟩ | ⟨rfl, rfl⟩ |
    ⟨rfl, rfl⟩ <;> rfl

theorem scanEscape_unit {c : Char} (h : c.toNat < 65536) (text : List Char) :
    scanEscape ((escapeUnit c.toNat).tail ++ text) = some (c, text) := by
  have hnot := toNat_not_surrogate c
  have hhigh : ¬(55296 ≤ c.toNat ∧ c.toNat ≤ 56319) := by omega
  rw [escapeUnit, List.tail_cons]
  simp only [List.cons_append, List.nil_append, scanEscape, hexUnit_digitChar h, if_neg hhigh,
    codePoint_toNat, Option.pure_def, Option.bind_eq_bind, Option.bind_some]

/-- A pair of surrogates is read as one character. -/
theorem scanEscape_pair {high low : ℕ} (hhigh : 55296 ≤ high ∧ high ≤ 56319)
    (hlow : 56320 ≤ low ∧ low ≤ 57343) (text : List Char) :
    scanEscape ((escapeUnit high).tail ++ (escapeUnit low ++ text)) =
      some (codePoint (65536 + 1024 * (high - 55296) + (low - 56320)), text) := by
  have hhigh' : high < 65536 := by omega
  have hlow' : low < 65536 := by omega
  rw [escapeUnit, escapeUnit, List.tail_cons]
  simp only [List.cons_append, List.nil_append, scanEscape, hexUnit_digitChar hhigh',
    hexUnit_digitChar hlow', if_pos hhigh, if_pos hlow, Option.pure_def, Option.bind_eq_bind,
    Option.bind_some]

theorem scanEscape_surrogates {c : Char} (h : 65536 ≤ c.toNat) (text : List Char) :
    scanEscape ((escapeUnit (55296 + (c.toNat - 65536) / 1024)).tail ++
      (escapeUnit (56320 + (c.toNat - 65536) % 1024) ++ text)) = some (c, text) := by
  have hlt := toNat_lt c
  have hhigh : (c.toNat - 65536) / 1024 < 1024 := by omega
  have hlow : (c.toNat - 65536) % 1024 < 1024 := Nat.mod_lt _ (by decide)
  have hjoin : 65536 + 1024 * ((c.toNat - 65536) / 1024) + (c.toNat - 65536) % 1024 = c.toNat := by
    omega
  rw [scanEscape_pair ⟨by omega, by omega⟩ ⟨by omega, by omega⟩, Nat.add_sub_cancel_left,
    Nat.add_sub_cancel_left, hjoin, codePoint_toNat]

theorem scanString_escapeChar (n : ℕ) (c : Char) (text : List Char) :
    scanString (n + 1) (escapeChar c ++ text) =
      (scanString n text).map fun scanned => (c :: scanned.1, scanned.2) := by
  unfold escapeChar
  cases hletter : letterEscapes.lookup c with
  | some letter =>
      simp only [List.cons_append, List.nil_append, scanString, scanEscape_letter hletter]
      simp [Option.map_eq_bind]
  | none =>
      simp only
      split_ifs with hplain hbmp
      · have hquote : c ≠ '"' := by rintro rfl; cases hletter
        have hslash : c ≠ '\\' := by rintro rfl; cases hletter
        rw [List.singleton_append, scanString]
        · rw [if_neg (by omega)]
          simp [Option.map_eq_bind]
        · exact hquote
        · exact hslash
      · have hescape := scanEscape_unit hbmp text
        rw [escapeUnit] at hescape ⊢
        simp only [List.tail_cons, List.cons_append, List.nil_append] at hescape ⊢
        rw [scanString, hescape]
        simp [Option.map_eq_bind]
      · have hescape := scanEscape_surrogates (not_lt.mp hbmp) text
        rw [List.append_assoc]
        generalize escapeUnit (56320 + (c.toNat - 65536) % 1024) ++ text = later at hescape ⊢
        rw [escapeUnit] at hescape ⊢
        simp only [List.tail_cons, List.cons_append, List.nil_append] at hescape ⊢
        rw [scanString, hescape]
        simp [Option.map_eq_bind]

theorem scanString_quote {n : ℕ} {s : List Char} (h : s.length < n) (rest : List Char) :
    scanString n (s.flatMap escapeChar ++ '"' :: rest) = some (s, rest) := by
  induction s generalizing n with
  | nil =>
      cases n with
      | zero => cases h
      | succ n => rfl
  | cons c s ih =>
      cases n with
      | zero => cases h
      | succ n =>
          rw [List.length_cons] at h
          rw [List.flatMap_cons, List.append_assoc, scanString_escapeChar, ih (by omega), Option.map_some]

/-! ### What is encoded is decoded -/

/-- The values with an encoding: objects have one field for each key. -/
inductive WellFormed : Value α → Prop
  | null : WellFormed .null
  | bool (b : Bool) : WellFormed (.bool b)
  | num {literal : List Char} (h : isNumber literal = true) : WellFormed (.num literal)
  | str (s : String) : WellFormed (.str s)
  | foreign (a : α) : WellFormed (.foreign a)
  | arr {items : List (Value α)} (h : ∀ item ∈ items, WellFormed item) : WellFormed (.arr items)
  | obj {fields : List (String × Value α)} (hkeys : (fields.map Prod.fst).Nodup)
      (h : ∀ field ∈ fields, WellFormed field.2) : WellFormed (.obj fields)

mutual
/-- A value as it is decoded, with a string for every foreign leaf. -/
def plain (default : α → String) : Value α → Value α
  | .foreign a => .str (default a)
  | .arr items => .arr (plainItems default items)
  | .obj fields => .obj (plainFields default fields)
  | .null => .null
  | .bool b => .bool b
  | .num literal => .num literal
  | .str s => .str s
def plainItems (default : α → String) : List (Value α) → List (Value α)
  | [] => []
  | item :: items => plain default item :: plainItems default items
def plainFields (default : α → String) : List (String × Value α) → List (String × Value α)
  | [] => []
  | (key, value) :: fields => (key, plain default value) :: plainFields default fields
end

theorem plainItems_eq_map (default : α → String) (items : List (Value α)) :
    plainItems default items = items.map (plain default) := by
  induction items with
  | nil => rfl
  | cons item items ih => rw [plainItems, ih, List.map_cons]

theorem plainFields_eq_map (default : α → String) (fields : List (String × Value α)) :
    plainFields default fields = fields.map fun field => (field.1, plain default field.2) := by
  induction fields with
  | nil => rfl
  | cons field fields ih => rw [plainFields, ih, List.map_cons]

/-- A text that ends a name or a number before it. -/
def Ends (text : List Char) : Prop := ∀ c ∈ text.head?, isAtomChar c = false

theorem ends_cons {c : Char} (h : isAtomChar c = false) (text : List Char) : Ends (c :: text) := by
  intro d hd
  obtain rfl := Option.some.inj hd
  exact h

theorem skip_cons {c : Char} (h : isSpace c = false) (text : List Char) :
    skip (c :: text) = c :: text := by
  rw [skip, List.dropWhile_cons, h, if_neg Bool.false_ne_true]

theorem scanValue_atom {token rest : List Char} {v : Value α} (n : ℕ) (hatom : atom token = some v)
    (hchars : token.all isAtomChar = true) (hrest : Ends rest) :
    scanValue (n + 1) (token ++ rest) = some (v, rest) := by
  have htake : (token ++ rest).takeWhile isAtomChar = token := by
    rw [List.takeWhile_append_of_pos (by simpa using hchars)]
    cases rest with
    | nil => simp
    | cons c rest => rw [List.takeWhile_cons, hrest c rfl, if_neg Bool.false_ne_true, List.append_nil]
  have hdrop : (token ++ rest).dropWhile isAtomChar = rest := by
    rw [List.dropWhile_append_of_pos (by simpa using hchars)]
    cases rest with
    | nil => rfl
    | cons c rest => rw [List.dropWhile_cons, hrest c rfl, if_neg Bool.false_ne_true]
  obtain ⟨c, text, rfl⟩ := List.exists_cons_of_ne_nil (atom_some hatom).1
  have hc : isAtomChar c = true := by
    rw [List.all_cons, Bool.and_eq_true] at hchars
    exact hchars.1
  have hnot : ∀ d : Char, isAtomChar d = false → ∀ later, c :: text ++ rest = d :: later → False := by
    intro d hd later heq
    obtain ⟨rfl, -⟩ := List.cons.inj heq
    rw [hc] at hd
    cases hd
  rw [scanValue, htake, hdrop, hatom]
  · rfl
  · exact hnot '"' (by decide)
  · exact hnot '[' (by decide)
  · exact hnot '{' (by decide)

theorem atom_num {literal : List Char} (h : isNumber literal = true) :
    atom literal = some (.num literal : Value α) := by
  have hne : ∀ name : List Char, isNumber name = false → literal ≠ name := by
    rintro name hname rfl
    rw [h] at hname
    cases hname
  rw [atom, if_neg (hne _ (by decide)), if_neg (hne _ (by decide)), if_neg (hne _ (by decide)), if_pos h]

theorem all_isAtomChar {literal : List Char} (h : isNumber literal = true) :
    literal.all isAtomChar = true := by
  unfold isNumber at h
  rw [Bool.and_eq_true] at h
  exact h.1

/-- An encoding starts neither with a space nor with the end of an array. -/
theorem render_eq_cons (default : α → String) {v : Value α} (h : WellFormed v) :
    ∃ c text, render default v = c :: text ∧ isSpace c = false ∧ c ≠ ']' := by
  cases h with
  | null => exact ⟨'n', _, rfl, by decide, by decide⟩
  | bool b =>
      cases b with
      | false => exact ⟨'f', _, rfl, by decide, by decide⟩
      | true => exact ⟨'t', _, rfl, by decide, by decide⟩
  | @num literal hnumber =>
      obtain ⟨c, text, rfl⟩ := List.exists_cons_of_ne_nil (atom_some (atom_num (α := α) hnumber)).1
      have hchars := all_isAtomChar hnumber
      rw [List.all_cons, Bool.and_eq_true] at hchars
      have hnot : ∀ d : Char, isAtomChar d = false → c ≠ d := by
        rintro d hd rfl
        rw [hchars.1] at hd
        cases hd
      refine ⟨c, text, rfl, ?_, hnot ']' (by decide)⟩
      simp [isSpace, hnot ' ' (by decide), hnot '\t' (by decide), hnot '\n' (by decide),
        hnot '\r' (by decide)]
  | str s => exact ⟨'"', _, rfl, by decide, by decide⟩
  | foreign a => exact ⟨'"', _, rfl, by decide, by decide⟩
  | @arr items _ =>
      cases items with
      | nil => exact ⟨'[', _, rfl, by decide, by decide⟩
      | cons item items => exact ⟨'[', _, rfl, by decide, by decide⟩
  | @obj fields _ _ =>
      cases fields with
      | nil => exact ⟨'{', _, rfl, by decide, by decide⟩
      | cons field fields => exact ⟨'{', _, rfl, by decide, by decide⟩

def ReadsBack (default : α → String) (v : Value α) : Prop :=
  ∀ (n : ℕ) (rest : List Char), Ends rest → 2 * (render default v ++ rest).length + 1 ≤ n →
    scanValue n (render default v ++ rest) = some (plain default v, rest)

section ReadsBack

variable (default : α → String)

theorem skip_render {v : Value α} (h : WellFormed v) (rest : List Char) :
    skip (render default v ++ rest) = render default v ++ rest := by
  obtain ⟨c, text, hhead, hspace, -⟩ := render_eq_cons default h
  rw [hhead, List.cons_append, skip_cons hspace]

theorem ends_renderItems (items : List (Value α)) (rest : List Char) :
    Ends (renderItems default items ++ rest) := by
  cases items with
  | nil => exact ends_cons (by decide) _
  | cons item items => exact ends_cons (by decide) _

theorem ends_renderFields (fields : List (String × Value α)) (rest : List Char) :
    Ends (renderFields default fields ++ rest) := by
  cases fields with
  | nil => exact ends_cons (by decide) _
  | cons field fields => exact ends_cons (by decide) _

theorem scanItems_item {n : ℕ} {item : Value α} {text rest : List Char} {items : List (Value α)}
    (hwf : WellFormed item) (h : ReadsBack default item) (htext : Ends text)
    (hfuel : 2 * (render default item ++ text).length + 2 ≤ n + 1)
    (hlater : (skip text = ']' :: rest ∧ items = []) ∨
      ∃ text', skip text = ',' :: text' ∧ scanItems n text' = some (items, rest)) :
    scanItems (n + 1) (render default item ++ text) = some (plain default item :: items, rest) := by
  rw [scanItems, skip_render default hwf, h n text htext (by omega)]
  simp only [Option.bind_eq_bind, Option.bind_some]
  rcases hlater with ⟨hskip, rfl⟩ | ⟨text', hskip, hitems⟩
  · simp only [hskip, Option.pure_def]
  · simp only [hskip, hitems, Option.pure_def, Option.bind_some]

/-- The items of an array are read back up to its bracket. -/
theorem scanItems_render {item : Value α} {items : List (Value α)}
    (hwf : ∀ v ∈ item :: items, WellFormed v) (h : ∀ v ∈ item :: items, ReadsBack default v) {n : ℕ}
    {rest : List Char}
    (hfuel : 2 * (render default item ++ (renderItems default items ++ rest)).length + 2 ≤ n) :
    scanItems n (render default item ++ (renderItems default items ++ rest)) =
      some (plainItems default (item :: items), rest) := by
  induction items generalizing item n with
  | nil =>
      obtain ⟨n, rfl⟩ : ∃ m, n = m + 1 := ⟨n - 1, by omega⟩
      exact scanItems_item default (hwf item List.mem_cons_self) (h item List.mem_cons_self)
        (ends_renderItems default [] rest) hfuel (Or.inl ⟨skip_cons (by decide) _, rfl⟩)
  | cons next items ih =>
      obtain ⟨n, rfl⟩ : ∃ m, n = m + 1 := ⟨n - 1, by omega⟩
      refine scanItems_item default (hwf item List.mem_cons_self) (h item List.mem_cons_self)
        (ends_renderItems default _ rest) hfuel
        (Or.inr ⟨render default next ++ (renderItems default items ++ rest), ?_, ?_⟩)
      · rw [renderItems, List.cons_append, List.append_assoc, skip_cons (by decide)]
      · refine ih (fun v hv => hwf v (List.mem_cons_of_mem _ hv))
          (fun v hv => h v (List.mem_cons_of_mem _ hv)) ?_
        simp only [renderItems, List.length_append, List.length_cons] at hfuel ⊢
        omega

/-- No character is left out of a literal. -/
theorem length_le_escape (s : List Char) : s.length ≤ (s.flatMap escapeChar).length := by
  induction s with
  | nil => exact Nat.le_refl _
  | cons c s ih =>
      have hpos : 0 < (escapeChar c).length := by
        unfold escapeChar
        split
        · exact Nat.succ_pos _
        · split_ifs <;> exact Nat.succ_pos _
      rw [List.flatMap_cons, List.length_append, List.length_cons]
      omega

theorem scanFields_field {n : ℕ} {key : String} {value : Value α} {text rest : List Char}
    {fields : List (String × Value α)} (hwf : WellFormed value) (h : ReadsBack default value)
    (htext : Ends text)
    (hfuel : 2 * (quote key.toList ++ ':' :: (render default value ++ text)).length + 2 ≤ n + 1)
    (hlater : (skip text = '}' :: rest ∧ fields = []) ∨
      ∃ text', skip text = ',' :: text' ∧ scanFields n text' = some (fields, rest)) :
    scanFields (n + 1) (quote key.toList ++ ':' :: (render default value ++ text)) =
      some ((key, plain default value) :: fields, rest) := by
  have hlength := length_le_escape key.toList
  simp only [quote, List.cons_append, List.append_assoc, List.nil_append, List.length_cons,
    List.length_append] at hfuel ⊢
  have hkey := scanString_quote (n := n) (s := key.toList) (by omega)
    (':' :: (render default value ++ text))
  have hvalue := h n text htext (by rw [List.length_append]; omega)
  rw [scanFields, skip_cons (by decide)]
  simp only [hkey, Option.bind_eq_bind, Option.bind_some, skip_cons (show isSpace ':' = false by decide),
    skip_render default hwf, hvalue, String.ofList_toList]
  rcases hlater with ⟨hskip, rfl⟩ | ⟨text', hskip, hfields⟩
  · simp only [hskip, Option.pure_def]
  · simp only [hskip, hfields, Option.pure_def, Option.bind_some]

/-- The fields of an object are read back up to its brace. -/
theorem scanFields_render {key : String} {value : Value α} {fields : List (String × Value α)}
    (hwf : ∀ field ∈ (key, value) :: fields, WellFormed field.2)
    (h : ∀ field ∈ (key, value) :: fields, ReadsBack default field.2) {n : ℕ} {rest : List Char}
    (hfuel : 2 * (quote key.toList ++ ':' :: (render default value ++
      (renderFields default fields ++ rest))).length + 2 ≤ n) :
    scanFields n (quote key.toList ++ ':' :: (render default value ++
        (renderFields default fields ++ rest))) =
      some (plainFields default ((key, value) :: fields), rest) := by
  induction fields generalizing key value n with
  | nil =>
      obtain ⟨n, rfl⟩ : ∃ m, n = m + 1 := ⟨n - 1, by omega⟩
      exact scanFields_field default (hwf _ List.mem_cons_self) (h _ List.mem_cons_self)
        (ends_renderFields default [] rest) hfuel (Or.inl ⟨skip_cons (by decide) _, rfl⟩)
  | cons next fields ih =>
      obtain ⟨n, rfl⟩ : ∃ m, n = m + 1 := ⟨n - 1, by omega⟩
      obtain ⟨nextKey, nextValue⟩ := next
      refine scanFields_field default (hwf _ List.mem_cons_self) (h _ List.mem_cons_self)
        (ends_renderFields default _ rest) hfuel (Or.inr ⟨quote nextKey.toList ++ ':' ::
          (render default nextValue ++ (renderFields default fields ++ rest)), ?_, ?_⟩)
      · rw [renderFields, List.cons_append, List.append_assoc, List.cons_append, List.append_assoc,
          skip_cons (by decide)]
      · refine ih (fun v hv => hwf v (List.mem_cons_of_mem _ hv))
          (fun v hv => h v (List.mem_cons_of_mem _ hv)) ?_
        simp only [renderFields, List.length_append, List.length_cons] at hfuel ⊢
        omega

theorem scanValue_quote {n : ℕ} {s : String} {rest : List Char}
    (hfuel : 2 * (quote s.toList ++ rest).length + 1 ≤ n) :
    scanValue n (quote s.toList ++ rest) = some ((.str s : Value α), rest) := by
  have hlength := length_le_escape s.toList
  obtain ⟨n, rfl⟩ : ∃ m, n = m + 1 := ⟨n - 1, by omega⟩
  simp only [quote, List.cons_append, List.append_assoc, List.nil_append, List.length_cons,
    List.length_append] at hfuel ⊢
  have hstring := scanString_quote (n := n) (s := s.toList) (by omega) rest
  rw [scanValue, hstring]
  simp only [Option.bind_eq_bind, Option.bind_some, String.ofList_toList]
  rfl

theorem readsBack_atom {v : Value α} (hatom : atom (render default v) = some (plain default v))
    (hchars : (render default v).all isAtomChar = true) : ReadsBack default v := by
  intro n rest hrest hfuel
  obtain ⟨n, rfl⟩ : ∃ m, n = m + 1 := ⟨n - 1, by omega⟩
  exact scanValue_atom n hatom hchars hrest

theorem readsBack {v : Value α} (h : WellFormed v) : ReadsBack default v := by
  induction h with
  | null => exact readsBack_atom default (by rfl) (by rfl)
  | bool b => cases b <;> exact readsBack_atom default (by rfl) (by rfl)
  | num hnumber => exact readsBack_atom default (atom_num hnumber) (all_isAtomChar hnumber)
  | str s => exact fun n rest _ hfuel => scanValue_quote hfuel
  | foreign a => exact fun n rest _ hfuel => scanValue_quote hfuel
  | @arr items hitems ih =>
      intro n rest hrest hfuel
      obtain ⟨n, rfl⟩ : ∃ m, n = m + 1 := ⟨n - 1, by omega⟩
      cases items with
      | nil => rfl
      | cons item items =>
          obtain ⟨c, text, hhead, hspace, hclose⟩ := render_eq_cons default (hitems item List.mem_cons_self)
          rw [render, List.cons_append, List.append_assoc] at hfuel ⊢
          rw [List.length_cons] at hfuel
          have hscan : scanItems n (render default item ++ (renderItems default items ++ rest)) = _ :=
            scanItems_render default hitems ih (by omega)
          rw [scanValue, skip_render default (hitems item List.mem_cons_self), hscan, hhead]
          simp only [List.cons_append]
          split
          · rename_i heq
            exact absurd (List.cons.inj heq).1 hclose
          · rfl
  | @obj fields hkeys hfields ih =>
      intro n rest hrest hfuel
      obtain ⟨n, rfl⟩ : ∃ m, n = m + 1 := ⟨n - 1, by omega⟩
      cases fields with
      | nil => rfl
      | cons field fields =>
          obtain ⟨key, value⟩ := field
          rw [render, List.cons_append, List.append_assoc, List.cons_append, List.append_assoc] at hfuel ⊢
          rw [List.length_cons] at hfuel
          have hscan : scanFields n (quote key.toList ++ ':' :: (render default value ++
              (renderFields default fields ++ rest))) = _ :=
            scanFields_render default hfields ih (by omega)
          rw [scanValue, hscan, quote, List.cons_append, skip_cons (by decide)]
          have hdict := Dict.assignAll_fresh Prod.fst Prod.snd
            (l := plainFields default ((key, value) :: fields)) (d := []) (by
              rw [plainFields_eq_map, List.map_map]
              exact hkeys)
          rw [List.nil_append, List.map_id''] at hdict
          · simp only [Option.bind_eq_bind, Option.bind_some, hdict]
            rfl
          · intro field
            rfl

end ReadsBack

theorem loads_render (default : α → String) {v : Value α} (h : WellFormed v) :
    loads (render default v) = some (plain default v) := by
  have hskip := skip_render default h []
  have hread := readsBack default h (2 * (render default v).length + 1) [] (fun c hc => by cases hc)
    (by rw [List.append_nil])
  rw [List.append_nil] at hskip hread
  rw [loads, hskip, hread]
  rfl

/-! ### Order -/

/-- Two values that differ in the order of items and fields only. -/
inductive Reordered : Value α → Value α → Prop
  | refl (v : Value α) : Reordered v v
  | trans {u v w : Value α} (h : Reordered u v) (h' : Reordered v w) : Reordered u w
  | items {items items' : List (Value α)} (h : items.Perm items') : Reordered (.arr items) (.arr items')
  | fields {fields fields' : List (String × Value α)} (h : fields.Perm fields') :
      Reordered (.obj fields) (.obj fields')
  | item (before after : List (Value α)) {v w : Value α} (h : Reordered v w) :
      Reordered (.arr (before ++ v :: after)) (.arr (before ++ w :: after))
  | field (before after : List (String × Value α)) (key : String) {v w : Value α} (h : Reordered v w) :
      Reordered (.obj (before ++ (key, v) :: after)) (.obj (before ++ (key, w) :: after))

theorem sortItems_eq_map (items : List (Value α)) : sortItems items = items.map sortKeys := by
  induction items with
  | nil => rfl
  | cons item items ih => rw [sortItems, ih, List.map_cons]

theorem sortFields_eq_map (fields : List (String × Value α)) :
    sortFields fields = fields.map fun field => (field.1, sortKeys field.2) := by
  induction fields with
  | nil => rfl
  | cons field fields ih => rw [sortFields, ih, List.map_cons]

theorem Reordered.map_items {f : Value α → Value α} {items : List (Value α)} (before : List (Value α))
    (h : ∀ item ∈ items, Reordered item (f item)) :
    Reordered (.arr (before ++ items)) (.arr (before ++ items.map f)) := by
  induction items generalizing before with
  | nil => exact .refl _
  | cons item items ih =>
      rw [List.forall_mem_cons] at h
      have hlater := ih (before ++ [f item]) h.2
      rw [List.append_assoc, List.append_assoc] at hlater
      exact (Reordered.item before items h.1).trans hlater

theorem Reordered.map_fields {f : Value α → Value α} {fields : List (String × Value α)}
    (before : List (String × Value α)) (h : ∀ field ∈ fields, Reordered field.2 (f field.2)) :
    Reordered (.obj (before ++ fields))
      (.obj (before ++ fields.map fun field => (field.1, f field.2))) := by
  induction fields generalizing before with
  | nil => exact .refl _
  | cons field fields ih =>
      rw [List.forall_mem_cons] at h
      have hlater := ih (before ++ [(field.1, f field.2)]) h.2
      rw [List.append_assoc, List.append_assoc] at hlater
      exact (Reordered.field before fields field.1 h.1).trans hlater

theorem reordered_sortKeys (v : Value α) : Reordered v (sortKeys v) := by
  induction v using Value.induction with
  | null => exact .refl _
  | bool b => exact .refl _
  | num literal => exact .refl _
  | str s => exact .refl _
  | foreign a => exact .refl _
  | arr items ih =>
      rw [sortKeys, sortItems_eq_map]
      exact Reordered.map_items [] ih
  | obj fields ih =>
      rw [sortKeys, sortFields_eq_map]
      exact (Reordered.map_fields [] ih).trans (.fields (List.perm_insertionSort _ _).symm)

theorem WellFormed.sortKeys {v : Value α} (h : WellFormed v) : WellFormed (sortKeys v) := by
  induction h with
  | null => exact .null
  | bool b => exact .bool b
  | num hnumber => exact .num hnumber
  | str s => exact .str s
  | foreign a => exact .foreign a
  | arr hitems ih =>
      rw [JsonText.sortKeys, sortItems_eq_map]
      exact .arr (List.forall_mem_map.mpr ih)
  | @obj fields hkeys hfields ih =>
      have hperm := List.perm_insertionSort (fun field field' : String × Value α => field.1 ≤ field'.1)
        (fields.map fun field => (field.1, JsonText.sortKeys field.2))
      rw [JsonText.sortKeys, sortFields_eq_map]
      refine .obj ((hperm.map Prod.fst).nodup_iff.mpr ?_) fun field hfield => ?_
      · rw [List.map_map]
        exact hkeys
      · obtain ⟨field', hfield', rfl⟩ := List.mem_map.mp (hperm.mem_iff.mp hfield)
        exact ih field' hfield'

/-- `loads` undoes `dumps`, up to the order of the keys. -/
theorem loads_dumps (default : α → String) {v : Value α} (h : WellFormed v) :
    loads (dumps default v).toList = some (plain default (sortKeys v)) := by
  rw [dumps, String.toList_ofList, loads_render default h.sortKeys]

end JsonText
