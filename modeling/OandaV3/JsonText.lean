import Mathlib.Data.List.Sort
import Mathlib.Data.String.Basic
import OandaV3.Dict

/-! # JSON texts

Values as `json.dumps` writes and `json.loads` reads them.  A number is its literal; a `foreign` leaf is
written as a string by the `default` function of the encoder, and never read.  The decoder keeps the last
of several fields with one key, and reads a lone surrogate as the replacement character.

* `scansRead`: a scanner leaves a shorter text, and every string it finds is shorter than the text.
* `scanValue_fuel`: the fuel of the decoder, twice the length of the text, never runs out. -/

namespace JsonText

inductive Value (α : Type) where
  | null
  | bool (b : Bool)
  | num (literal : List Char)
  | str (s : String)
  | foreign (a : α)
  | arr (items : List (Value α))
  | obj (fields : List (String × Value α))

namespace Value

variable {α : Type}

@[elab_as_elim]
theorem induction {motive : Value α → Prop} (v : Value α) (null : motive .null)
    (bool : ∀ b, motive (.bool b)) (num : ∀ literal, motive (.num literal))
    (str : ∀ s, motive (.str s)) (foreign : ∀ a, motive (.foreign a))
    (arr : ∀ items, (∀ item ∈ items, motive item) → motive (.arr items))
    (obj : ∀ fields, (∀ field ∈ fields, motive field.2) → motive (.obj fields)) : motive v :=
  @Value.rec α motive (fun items => ∀ item ∈ items, motive item)
    (fun fields => ∀ field ∈ fields, motive field.2) (fun field => motive field.2)
    null bool num str foreign arr obj (fun _ h => by cases h)
    (fun _ _ hitem hitems => List.forall_mem_cons.mpr ⟨hitem, hitems⟩) (fun _ h => by cases h)
    (fun _ _ hfield hfields => List.forall_mem_cons.mpr ⟨hfield, hfields⟩) (fun _ _ hvalue => hvalue) v

mutual
/-- The strings of a value, its keys left out. -/
def texts : Value α → List String
  | .str s => [s]
  | .arr items => itemTexts items
  | .obj fields => fieldTexts fields
  | .null | .bool _ | .num _ | .foreign _ => []
def itemTexts : List (Value α) → List String
  | [] => []
  | item :: items => texts item ++ itemTexts items
def fieldTexts : List (String × Value α) → List String
  | [] => []
  | (_, value) :: fields => texts value ++ fieldTexts fields
end

theorem itemTexts_eq_flatMap (items : List (Value α)) : itemTexts items = items.flatMap texts := by
  induction items with
  | nil => rfl
  | cons item items ih => rw [itemTexts, ih, List.flatMap_cons]

theorem fieldTexts_eq_flatMap (fields : List (String × Value α)) :
    fieldTexts fields = fields.flatMap fun field => field.2.texts := by
  induction fields with
  | nil => rfl
  | cons field fields ih => rw [fieldTexts, ih, List.flatMap_cons]

end Value

/-! ### Strings -/

/-- The escapes of one letter: the character and the letter. -/
def letterEscapes : List (Char × Char) :=
  [('"', '"'), ('\\', '\\'), ('\n', 'n'), ('\r', 'r'), ('\t', 't'), ('\x0c', 'f'), ('\x08', 'b')]

/-- `\uXXXX`. -/
def escapeUnit (n : ℕ) : List Char :=
  ['\\', 'u', Nat.digitChar (n / 4096 % 16), Nat.digitChar (n / 256 % 16), Nat.digitChar (n / 16 % 16),
    Nat.digitChar (n % 16)]

/-- A character of a string, in ASCII. -/
def escapeChar (c : Char) : List Char :=
  match letterEscapes.lookup c with
  | some letter => ['\\', letter]
  | none =>
      if 32 ≤ c.toNat ∧ c.toNat ≤ 126 then [c]
      else if c.toNat < 65536 then escapeUnit c.toNat
      else escapeUnit (55296 + (c.toNat - 65536) / 1024) ++ escapeUnit (56320 + (c.toNat - 65536) % 1024)

def quote (s : List Char) : List Char := '"' :: (s.flatMap escapeChar ++ ['"'])

/-- The value of a hexadecimal digit. -/
def hexDigit (c : Char) : Option ℕ :=
  if c.isDigit then some (c.toNat - 48)
  else if 'a' ≤ c ∧ c ≤ 'f' then some (c.toNat - 87)
  else if 'A' ≤ c ∧ c ≤ 'F' then some (c.toNat - 55)
  else none

/-- The value of four hexadecimal digits. -/
def hexUnit (a b c d : Char) : Option ℕ := do
  return 4096 * (← hexDigit a) + 256 * (← hexDigit b) + 16 * (← hexDigit c) + (← hexDigit d)

def codePoint (n : ℕ) : Char := if n.isValidChar then Char.ofNat n else '\ufffd'

/-- The character of an escape, from the text after the backslash, and the text after it. -/
def scanEscape : List Char → Option (Char × List Char)
  | 'u' :: a :: b :: c :: d :: text => do
      let high ← hexUnit a b c d
      if 55296 ≤ high ∧ high ≤ 56319 then
        match text with
        | '\\' :: 'u' :: a :: b :: c :: d :: rest => do
            let low ← hexUnit a b c d
            if 56320 ≤ low ∧ low ≤ 57343 then
              return (codePoint (65536 + 1024 * (high - 55296) + (low - 56320)), rest)
            else return (codePoint high, text)
        | _ => return (codePoint high, text)
      else return (codePoint high, text)
  | letter :: text =>
      ((('/', '/') :: letterEscapes).find? fun escape => escape.2 == letter).map fun escape =>
        (escape.1, text)
  | [] => none

/-- The characters of a string literal after its first quote, and the text after it. -/
def scanString : ℕ → List Char → Option (List Char × List Char)
  | _ + 1, '"' :: text => some ([], text)
  | n + 1, '\\' :: text => do
      let (c, rest) ← scanEscape text
      let (s, rest) ← scanString n rest
      return (c :: s, rest)
  | n + 1, c :: text =>
      if c.toNat < 32 then none
      else do
        let (s, rest) ← scanString n text
        return (c :: s, rest)
  | _, _ => none

/-! ### Values -/

def isSpace (c : Char) : Bool := c == ' ' || c == '\t' || c == '\n' || c == '\r'

/-- The text after the white space. -/
def skip (text : List Char) : List Char := text.dropWhile isSpace

/-- The characters of numbers and names. -/
def isAtomChar (c : Char) : Bool := c.isAlphanum || c == '+' || c == '-' || c == '.'

/-- `[eE][+-]?[0-9]+`, or nothing. -/
def isExponent : List Char → Bool
  | [] => true
  | e :: text => (e == 'e' || e == 'E') &&
      match text with
      | [] => false
      | sign :: digits =>
          if sign = '+' ∨ sign = '-' then !digits.isEmpty && digits.all Char.isDigit
          else text.all Char.isDigit

/-- `(\.[0-9]+)?`, and an exponent. -/
def isFraction : List Char → Bool
  | '.' :: text => !(text.takeWhile Char.isDigit).isEmpty && isExponent (text.dropWhile Char.isDigit)
  | text => isExponent text

/-- `0|[1-9][0-9]*`, and a fraction. -/
def isUnsigned : List Char → Bool
  | '0' :: text => isFraction text
  | c :: text => c.isDigit && isFraction (text.dropWhile Char.isDigit)
  | [] => false

/-- The literals of numbers, those that are not JSON included. -/
def isNumber (token : List Char) : Bool :=
  token.all isAtomChar &&
    match token with
    | '-' :: text => isUnsigned text || text == "Infinity".toList
    | _ => isUnsigned token || token == "NaN".toList || token == "Infinity".toList

/-- The value of a number or a name. -/
def atom (token : List Char) : Option (Value α) :=
  if token = "null".toList then some .null
  else if token = "true".toList then some (.bool true)
  else if token = "false".toList then some (.bool false)
  else if isNumber token then some (.num token)
  else none

variable {α : Type}

mutual
/-- The value at the start of a text, and the text after it. -/
def scanValue : ℕ → List Char → Option (Value α × List Char)
  | n + 1, '"' :: text => do
      let (s, rest) ← scanString n text
      return (.str (String.ofList s), rest)
  | n + 1, '[' :: text =>
      match skip text with
      | ']' :: rest => some (.arr [], rest)
      | _ => do
          let (items, rest) ← scanItems n text
          return (.arr items, rest)
  | n + 1, '{' :: text =>
      match skip text with
      | '}' :: rest => some (.obj [], rest)
      | _ => do
          let (fields, rest) ← scanFields n text
          return (.obj (Dict.assignAll Prod.fst Prod.snd fields []), rest)
  | _ + 1, text => do
      let value ← atom (text.takeWhile isAtomChar)
      return (value, text.dropWhile isAtomChar)
  | 0, _ => none
/-- The items of an array up to its bracket. -/
def scanItems : ℕ → List Char → Option (List (Value α) × List Char)
  | n + 1, text => do
      let (item, rest) ← scanValue n (skip text)
      match skip rest with
      | ']' :: rest => return ([item], rest)
      | ',' :: rest => do
          let (items, rest) ← scanItems n rest
          return (item :: items, rest)
      | _ => none
  | 0, _ => none
/-- The fields of an object up to its brace. -/
def scanFields : ℕ → List Char → Option (List (String × Value α) × List Char)
  | n + 1, text =>
      match skip text with
      | '"' :: text => do
          let (key, rest) ← scanString n text
          match skip rest with
          | ':' :: rest => do
              let (value, rest) ← scanValue n (skip rest)
              match skip rest with
              | '}' :: rest => return ([(String.ofList key, value)], rest)
              | ',' :: rest => do
                  let (fields, rest) ← scanFields n rest
                  return ((String.ofList key, value) :: fields, rest)
              | _ => none
          | _ => none
      | _ => none
  | 0, _ => none
end

/-- `json.loads`, without the message of its error. -/
def loads (text : List Char) : Option (Value α) := do
  let (value, rest) ← scanValue (2 * text.length + 1) (skip text)
  if skip rest = [] then return value else none

/-! ### Encoding -/

mutual
/-- `json.dumps` with the separators `,` and `:`. -/
def render (default : α → String) : Value α → List Char
  | .null => "null".toList
  | .bool b => if b then "true".toList else "false".toList
  | .num literal => literal
  | .str s => quote s.toList
  | .foreign a => quote (default a).toList
  | .arr [] => ['[', ']']
  | .arr (item :: items) => '[' :: (render default item ++ renderItems default items)
  | .obj [] => ['{', '}']
  | .obj ((key, value) :: fields) =>
      '{' :: (quote key.toList ++ ':' :: (render default value ++ renderFields default fields))
def renderItems (default : α → String) : List (Value α) → List Char
  | [] => [']']
  | item :: items => ',' :: (render default item ++ renderItems default items)
def renderFields (default : α → String) : List (String × Value α) → List Char
  | [] => ['}']
  | (key, value) :: fields =>
      ',' :: (quote key.toList ++ ':' :: (render default value ++ renderFields default fields))
end

mutual
/-- The value that is encoded with `sort_keys=True`. -/
def sortKeys : Value α → Value α
  | .arr items => .arr (sortItems items)
  | .obj fields => .obj ((sortFields fields).insertionSort fun field field' => field.1 ≤ field'.1)
  | value => value
def sortItems : List (Value α) → List (Value α)
  | [] => []
  | item :: items => sortKeys item :: sortItems items
def sortFields : List (String × Value α) → List (String × Value α)
  | [] => []
  | (key, value) :: fields => (key, sortKeys value) :: sortFields fields
end

/-- `json.dumps(value, sort_keys=True, separators=(",", ":"), default=default)`. -/
def dumps (default : α → String) (value : Value α) : String :=
  String.ofList (render default (sortKeys value))

/-! ### A scanner consumes what it reads -/

open Value

theorem length_scanEscape {text rest : List Char} {c : Char} (h : scanEscape text = some (c, rest)) :
    rest.length < text.length := by
  unfold scanEscape at h
  split at h
  · rename_i text
    obtain ⟨high, -, h⟩ := Option.bind_eq_some_iff.mp h
    have hkept : some (codePoint high, text) = some (c, rest) → rest.length < text.length + 5 := by
      intro hsome
      obtain ⟨-, rfl⟩ := Prod.mk.inj (Option.some.inj hsome)
      omega
    split_ifs at h
    · split at h
      · obtain ⟨low, -, h⟩ := Option.bind_eq_some_iff.mp h
        split_ifs at h
        · obtain ⟨-, rfl⟩ := Prod.mk.inj (Option.some.inj h)
          simp only [List.length_cons]
          omega
        · exact hkept h
      · exact hkept h
    · exact hkept h
  · obtain ⟨escape, -, h⟩ := Option.map_eq_some_iff.mp h
    obtain ⟨-, rfl⟩ := Prod.mk.inj h
    exact Nat.lt_succ_self _
  · cases h

theorem length_scanString {n : ℕ} {text rest s : List Char} (h : scanString n text = some (s, rest)) :
    s.length + rest.length < text.length := by
  fun_induction scanString n text generalizing s rest with
  | case1 n text =>
      obtain ⟨rfl, rfl⟩ := Prod.mk.inj (Option.some.inj h)
      simp
  | case2 n text ih =>
      obtain ⟨⟨c, text'⟩, hescape, h⟩ := Option.bind_eq_some_iff.mp h
      obtain ⟨⟨s', rest'⟩, hscan, h⟩ := Option.bind_eq_some_iff.mp h
      obtain ⟨rfl, rfl⟩ := Prod.mk.inj (Option.some.inj h)
      have hlength := length_scanEscape hescape
      have hrest := ih text' hscan
      simp only [List.length_cons]
      omega
  | case3 => cases h
  | case4 n c text _ _ _ ih =>
      obtain ⟨⟨s', rest'⟩, hscan, h⟩ := Option.bind_eq_some_iff.mp h
      obtain ⟨rfl, rfl⟩ := Prod.mk.inj (Option.some.inj h)
      have hrest := ih hscan
      simp only [List.length_cons]
      omega
  | case5 => cases h

theorem length_skip_le (text : List Char) : (skip text).length ≤ text.length :=
  (List.dropWhile_sublist isSpace).length_le

/-- What a scanner has read: it left a shorter text, and the strings it found are shorter too. -/
def Reads (text rest : List Char) (strings : List String) : Prop :=
  rest.length < text.length ∧ ∀ s ∈ strings, s.toList.length < text.length

theorem atom_some {token : List Char} {v : Value α} (h : atom token = some v) :
    token ≠ [] ∧ v.texts = [] := by
  unfold atom at h
  split_ifs at h with hnull htrue hfalse hnumber <;> cases h
  · exact ⟨by rw [hnull]; decide, rfl⟩
  · exact ⟨by rw [htrue]; decide, rfl⟩
  · exact ⟨by rw [hfalse]; decide, rfl⟩
  · refine ⟨fun hnil => ?_, rfl⟩
    subst hnil
    revert hnumber
    decide

theorem reads_atom {text : List Char} {v : Value α}
    (h : atom (text.takeWhile isAtomChar) = some v) :
    Reads text (text.dropWhile isAtomChar) v.texts := by
  obtain ⟨hne, htexts⟩ := atom_some h
  refine ⟨?_, by rw [htexts]; simp⟩
  have hlength := congrArg List.length (List.takeWhile_append_dropWhile (p := isAtomChar) (l := text))
  have hpos := List.length_pos_of_ne_nil hne
  rw [List.length_append] at hlength
  omega

theorem length_of_skip {text rest : List Char} {c : Char} (h : skip text = c :: rest) :
    rest.length < text.length := by
  have hle := length_skip_le text
  rw [h, List.length_cons] at hle
  omega

theorem Reads.mono {text text' rest rest' : List Char} {strings : List String}
    (h : Reads text rest strings) (htext : text.length ≤ text'.length)
    (hrest : rest'.length ≤ rest.length) : Reads text' rest' strings :=
  ⟨by have hlt := h.1; omega, fun s hs => (h.2 s hs).trans_le htext⟩

theorem Reads.append {text rest rest' : List Char} {strings strings' : List String}
    (h : Reads text rest strings) (h' : Reads rest rest' strings') :
    Reads text rest' (strings ++ strings') := by
  refine ⟨h'.1.trans h.1, fun s hs => ?_⟩
  rcases List.mem_append.mp hs with hs | hs
  · exact h.2 s hs
  · exact (h'.2 s hs).trans h.1

/-- The three scanners read what they find, with this much fuel. -/
structure ScansRead (α : Type) (n : ℕ) : Prop where
  value : ∀ (text rest : List Char) (v : Value α), scanValue n text = some (v, rest) →
    Reads text rest v.texts
  items : ∀ (text rest : List Char) (items : List (Value α)), scanItems n text = some (items, rest) →
    Reads text rest (itemTexts items)
  fields : ∀ (text rest : List Char) (fields : List (String × Value α)),
    scanFields n text = some (fields, rest) → Reads text rest (fieldTexts fields)

theorem reads_empty {text rest : List Char} {c : Char} (bracket : Char) (h : skip text = c :: rest) :
    Reads (bracket :: text) rest [] := by
  have hlength := length_of_skip h
  refine ⟨?_, fun s hs => by cases hs⟩
  rw [List.length_cons]
  omega

theorem texts_assignAll {fields : List (String × Value α)} {s : String}
    (h : s ∈ (Value.obj (Dict.assignAll Prod.fst Prod.snd fields [])).texts) :
    s ∈ fieldTexts fields := by
  rw [texts, fieldTexts_eq_flatMap] at h
  obtain ⟨field, hfield, hs⟩ := List.mem_flatMap.mp h
  rw [fieldTexts_eq_flatMap]
  rcases Dict.mem_assignAll hfield with hnone | ⟨field', hmem, rfl⟩
  · cases hnone
  · exact List.mem_flatMap.mpr ⟨field', hmem, hs⟩

theorem reads_scanValue {n : ℕ} (h : ScansRead α n) {text rest : List Char} {v : Value α}
    (hscan : scanValue (n + 1) text = some (v, rest)) : Reads text rest v.texts := by
  unfold scanValue at hscan
  split at hscan
  · obtain ⟨⟨s, rest'⟩, hstring, hscan⟩ := Option.bind_eq_some_iff.mp hscan
    obtain ⟨rfl, rfl⟩ := Prod.mk.inj (Option.some.inj hscan)
    have hlength := length_scanString hstring
    refine ⟨?_, fun s' hs' => ?_⟩
    · rw [List.length_cons]
      omega
    · obtain rfl := List.mem_singleton.mp hs'
      rw [String.toList_ofList, List.length_cons]
      omega
  · rename_i m text hm
    obtain rfl := Nat.succ.inj hm
    split at hscan
    · rename_i hskip
      obtain ⟨rfl, rfl⟩ := Prod.mk.inj (Option.some.inj hscan)
      exact reads_empty '[' hskip
    · obtain ⟨⟨items, rest'⟩, hitems, hscan⟩ := Option.bind_eq_some_iff.mp hscan
      obtain ⟨rfl, rfl⟩ := Prod.mk.inj (Option.some.inj hscan)
      exact (h.items _ _ _ hitems).mono (Nat.le_succ _) le_rfl
  · rename_i m text hm
    obtain rfl := Nat.succ.inj hm
    split at hscan
    · rename_i hskip
      obtain ⟨rfl, rfl⟩ := Prod.mk.inj (Option.some.inj hscan)
      exact reads_empty '{' hskip
    · obtain ⟨⟨fields, rest'⟩, hfields, hscan⟩ := Option.bind_eq_some_iff.mp hscan
      obtain ⟨rfl, rfl⟩ := Prod.mk.inj (Option.some.inj hscan)
      obtain ⟨hlength, hstrings⟩ := h.fields _ _ _ hfields
      exact ⟨hlength.trans (Nat.lt_succ_self _),
        fun s hs => (hstrings s (texts_assignAll hs)).trans (Nat.lt_succ_self _)⟩
  · obtain ⟨v', hatom, hscan⟩ := Option.bind_eq_some_iff.mp hscan
    obtain ⟨rfl, rfl⟩ := Prod.mk.inj (Option.some.inj hscan)
    exact reads_atom hatom
  · cases hscan

theorem reads_scanItems {n : ℕ} (h : ScansRead α n) {text rest : List Char} {items : List (Value α)}
    (hscan : scanItems (n + 1) text = some (items, rest)) : Reads text rest (itemTexts items) := by
  rw [scanItems] at hscan
  obtain ⟨⟨item, rest₁⟩, hitem, hscan⟩ := Option.bind_eq_some_iff.mp hscan
  have hread := (h.value _ _ _ hitem).mono (length_skip_le text) le_rfl
  simp only at hscan
  split at hscan
  · rename_i hskip
    obtain ⟨rfl, rfl⟩ := Prod.mk.inj (Option.some.inj hscan)
    rw [itemTexts, itemTexts, List.append_nil]
    exact hread.mono le_rfl (length_of_skip hskip).le
  · rename_i hskip
    obtain ⟨⟨items', rest₃⟩, hitems, hscan⟩ := Option.bind_eq_some_iff.mp hscan
    obtain ⟨rfl, rfl⟩ := Prod.mk.inj (Option.some.inj hscan)
    rw [itemTexts]
    exact hread.append ((h.items _ _ _ hitems).mono (length_of_skip hskip).le le_rfl)
  · cases hscan

theorem reads_scanFields {n : ℕ} (h : ScansRead α n) {text rest : List Char}
    {fields : List (String × Value α)} (hscan : scanFields (n + 1) text = some (fields, rest)) :
    Reads text rest (fieldTexts fields) := by
  rw [scanFields] at hscan
  split at hscan
  · rename_i hskip
    obtain ⟨⟨key, rest₁⟩, hkey, hscan⟩ := Option.bind_eq_some_iff.mp hscan
    simp only at hscan
    split at hscan
    · rename_i rest₂ hcolon
      obtain ⟨⟨value, rest₃⟩, hvalue, hscan⟩ := Option.bind_eq_some_iff.mp hscan
      have hread : Reads text rest₃ value.texts := by
        have hlength := length_scanString hkey
        have htext := length_of_skip hskip
        have hrest := length_of_skip hcolon
        have hle := length_skip_le rest₂
        exact (h.value _ _ _ hvalue).mono (by omega) le_rfl
      simp only at hscan
      split at hscan
      · rename_i hbrace
        obtain ⟨rfl, rfl⟩ := Prod.mk.inj (Option.some.inj hscan)
        rw [fieldTexts, fieldTexts, List.append_nil]
        exact hread.mono le_rfl (length_of_skip hbrace).le
      · rename_i hcomma
        obtain ⟨⟨fields', rest₅⟩, hfields, hscan⟩ := Option.bind_eq_some_iff.mp hscan
        obtain ⟨rfl, rfl⟩ := Prod.mk.inj (Option.some.inj hscan)
        rw [fieldTexts]
        exact hread.append ((h.fields _ _ _ hfields).mono (length_of_skip hcomma).le le_rfl)
      · cases hscan
    · cases hscan
  · cases hscan

theorem scansRead (n : ℕ) : ScansRead α n := by
  induction n with
  | zero =>
      refine ⟨fun text rest v h => ?_, fun text rest items h => ?_, fun text rest fields h => ?_⟩
      · rw [scanValue] at h
        cases h
      · rw [scanItems] at h
        cases h
      · rw [scanFields] at h
        cases h
  | succ n ih =>
      exact ⟨fun _ _ _ h => reads_scanValue ih h, fun _ _ _ h => reads_scanItems ih h,
        fun _ _ _ h => reads_scanFields ih h⟩

theorem length_lt_of_loads {text : List Char} {v : Value α} (h : loads text = some v) {s : String}
    (hs : s ∈ v.texts) : s.toList.length < text.length := by
  obtain ⟨⟨value, rest⟩, hscan, h⟩ := Option.bind_eq_some_iff.mp h
  simp only at h
  split_ifs at h
  obtain rfl := Option.some.inj h
  exact ((scansRead _).value _ _ _ hscan |>.2 s hs).trans_le (length_skip_le text)

/-! ### The fuel never runs out -/

/-- A string needs no more fuel than it has characters. -/
theorem scanString_succ {n : ℕ} {text : List Char} (h : text.length ≤ n) :
    scanString (n + 1) text = scanString n text := by
  fun_induction scanString n text with
  | case1 n text => rfl
  | case2 n text ih =>
      rw [List.length_cons] at h
      rw [scanString]
      refine Option.bind_congr fun scanned hescape => ?_
      obtain ⟨c, rest⟩ := scanned
      have hlength := length_scanEscape hescape
      simp only
      rw [ih rest (by omega)]
  | case3 n c text _ _ hlow =>
      rw [scanString, if_pos hlow] <;> assumption
  | case4 n c text _ _ hlow ih =>
      rw [List.length_cons] at h
      rw [scanString, if_neg hlow, ih (by omega)] <;> assumption
  | case5 n text _ _ hother =>
      cases text with
      | nil => rfl
      | cons c text =>
          obtain ⟨n, rfl⟩ : ∃ m, n = m + 1 := ⟨n - 1, by rw [List.length_cons] at h; omega⟩
          exact absurd rfl (hother n c text rfl)

/-- More fuel makes no difference to a text that this much fuel is enough for. -/
structure FuelFree (α : Type) (n : ℕ) : Prop where
  value : ∀ text : List Char, 2 * text.length + 1 ≤ n →
    (scanValue (n + 1) text : Option (Value α × List Char)) = scanValue n text
  items : ∀ text : List Char, 2 * text.length + 2 ≤ n →
    (scanItems (n + 1) text : Option (List (Value α) × List Char)) = scanItems n text
  fields : ∀ text : List Char, 2 * text.length + 2 ≤ n →
    (scanFields (n + 1) text : Option (List (String × Value α) × List Char)) = scanFields n text

theorem scanValue_succ {n : ℕ} (h : FuelFree α n) {text : List Char}
    (hfuel : 2 * text.length + 1 ≤ n + 1) :
    (scanValue (n + 1 + 1) text : Option (Value α × List Char)) = scanValue (n + 1) text := by
  unfold scanValue
  split
  · rename_i m text hm
    obtain rfl := Nat.succ.inj hm
    rw [List.length_cons] at hfuel
    rw [scanString_succ (by omega)]
  · rename_i m text hm
    obtain rfl := Nat.succ.inj hm
    rw [List.length_cons] at hfuel
    rw [h.items text (by omega)]
  · rename_i m text hm
    obtain rfl := Nat.succ.inj hm
    rw [List.length_cons] at hfuel
    rw [h.fields text (by omega)]
  · rfl
  · rename_i hm
    cases hm

theorem scanItems_succ {n : ℕ} (h : FuelFree α n) {text : List Char}
    (hfuel : 2 * text.length + 2 ≤ n + 1) :
    (scanItems (n + 1 + 1) text : Option (List (Value α) × List Char)) = scanItems (n + 1) text := by
  have hskip := length_skip_le text
  rw [scanItems, scanItems, h.value _ (by omega)]
  refine Option.bind_congr fun scanned hscan => ?_
  obtain ⟨item, rest⟩ := scanned
  have hlt := ((scansRead n).value _ _ _ hscan).1
  simp only
  split
  · rfl
  · rename_i rest' hcomma
    have hrest := length_of_skip hcomma
    rw [h.items rest' (by omega)]
  · rfl

theorem scanFields_succ {n : ℕ} (h : FuelFree α n) {text : List Char}
    (hfuel : 2 * text.length + 2 ≤ n + 1) :
    (scanFields (n + 1 + 1) text : Option (List (String × Value α) × List Char)) =
      scanFields (n + 1) text := by
  rw [scanFields, scanFields]
  split
  · rename_i text' hquote
    have htext := length_of_skip hquote
    rw [scanString_succ (by omega)]
    refine Option.bind_congr fun scanned hkey => ?_
    obtain ⟨key, rest⟩ := scanned
    have hkeylength := length_scanString hkey
    simp only
    split
    · rename_i rest' hcolon
      have hrest := length_of_skip hcolon
      have hle := length_skip_le rest'
      rw [h.value _ (by omega)]
      refine Option.bind_congr fun scanned hvalue => ?_
      obtain ⟨value, rest''⟩ := scanned
      have hlt := ((scansRead n).value _ _ _ hvalue).1
      simp only
      split
      · rfl
      · rename_i hcomma
        have hlast := length_of_skip hcomma
        rw [h.fields _ (by omega)]
      · rfl
    · rfl
  · rfl

theorem fuelFree (n : ℕ) : FuelFree α n := by
  induction n with
  | zero => exact ⟨fun _ h => by omega, fun _ h => by omega, fun _ h => by omega⟩
  | succ n ih =>
      exact ⟨fun _ h => scanValue_succ ih h, fun _ h => scanItems_succ ih h,
        fun _ h => scanFields_succ ih h⟩

/-- The fuel of `loads` is enough. -/
theorem scanValue_fuel {n : ℕ} {text : List Char} (h : 2 * text.length + 1 ≤ n) :
    (scanValue n text : Option (Value α × List Char)) = scanValue (2 * text.length + 1) text := by
  induction n, h using Nat.le_induction with
  | base => rfl
  | succ n hn ih => rw [(fuelFree n).value text hn, ih]

end JsonText
