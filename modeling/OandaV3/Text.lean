import Mathlib.Data.List.Infix
import Mathlib.Data.String.Basic

/-! # Python string operations

The operations of `str` that the code uses, on the list of characters of a string.  Broker identifiers and
the reasons and currency codes of a broker are ASCII, and `upper` and `lower` are the case mappings of ASCII;
texts that come from elsewhere are mapped by a `UnicodeTable`. -/

namespace OandaV3.Text

/-- `str.isspace` on one character. -/
def isSpace (c : Char) : Bool :=
  let n := c.toNat
  (9 ≤ n && n ≤ 13) || (28 ≤ n && n ≤ 32) || n == 0x85 || n == 0xA0 || n == 0x1680 ||
    (0x2000 ≤ n && n ≤ 0x200A) || n == 0x2028 || n == 0x2029 || n == 0x202F || n == 0x205F ||
    n == 0x3000

/-- `str.strip`. -/
def strip (s : String) : String :=
  String.ofList (((s.toList.dropWhile isSpace).reverse.dropWhile isSpace).reverse)

/-- `not s.strip()`. -/
def isBlank (s : String) : Bool := s.toList.all isSpace

/-- `str.upper` of an ASCII text. -/
def upper (s : String) : String := String.ofList (s.toList.map Char.toUpper)

/-- `str.lower` of an ASCII text. -/
def lower (s : String) : String := String.ofList (s.toList.map Char.toLower)

/-- `needle in s`. -/
def contains (needle s : String) : Bool := s.toList.tails.any (needle.toList.isPrefixOf ·)

/-! ### Parts of a text -/

theorem lower_append (s t : String) : lower (s ++ t) = lower s ++ lower t := by
  rw [lower, String.toList_append, List.map_append, String.ofList_append, lower, lower]

theorem contains_lower_append {before needle after s : String}
    (h : lower s = before ++ (needle ++ after)) (t : String) :
    contains needle (lower (s ++ t)) = true := by
  rw [lower_append, h, contains, String.toList_append, String.toList_append, List.append_assoc,
    String.toList_append, List.append_assoc, List.any_eq_true]
  exact ⟨_, (List.mem_tails _ _).mpr (List.suffix_append _ _),
    List.isPrefixOf_iff_prefix.mpr (List.prefix_append _ _)⟩

/-! ### Spaces -/

theorem all_dropWhile (l : List Char) : (l.dropWhile isSpace).all isSpace = l.all isSpace := by
  induction l with
  | nil => rfl
  | cons c l ih =>
      rw [List.dropWhile_cons, List.all_cons]
      split_ifs with hspace
      · rw [ih, hspace, Bool.true_and]
      · rw [List.all_cons]

theorem isBlank_strip (s : String) : isBlank (strip s) = isBlank s := by
  rw [isBlank, strip, String.toList_ofList, List.all_reverse, all_dropWhile, List.all_reverse,
    all_dropWhile, isBlank]

theorem strip_eq_self {l : List Char} (hhead : ∀ c ∈ l.head?, isSpace c = false)
    (hlast : ∀ c ∈ l.getLast?, isSpace c = false) : strip (String.ofList l) = String.ofList l := by
  have hdrop : ∀ l : List Char, (∀ c ∈ l.head?, isSpace c = false) → l.dropWhile isSpace = l := by
    intro l h
    cases l with
    | nil => rfl
    | cons c l => rw [List.dropWhile_cons, h c rfl, if_neg Bool.false_ne_true]
  rw [strip, String.toList_ofList, hdrop l hhead, hdrop l.reverse (by rwa [List.head?_reverse]),
    List.reverse_reverse]

/-- What is left of a text is a part of it, and shorter if there is a space at an end. -/
theorem strip_sublist (l : List Char) : (strip (String.ofList l)).toList.Sublist l := by
  rw [strip, String.toList_ofList, String.toList_ofList]
  have hinner := (List.dropWhile_sublist isSpace (l := (l.dropWhile isSpace).reverse)).reverse
  rw [List.reverse_reverse] at hinner
  exact hinner.trans (List.dropWhile_sublist isSpace)

theorem getLast?_strip (l : List Char) :
    ∀ c ∈ (strip (String.ofList l)).toList.getLast?, isSpace c = false := by
  intro c hc
  rw [strip, String.toList_ofList, String.toList_ofList, List.getLast?_reverse] at hc
  have hnot := List.head?_dropWhile_not isSpace (l.dropWhile isSpace).reverse
  rw [Option.mem_def.mp hc] at hnot
  simpa using hnot

/-- A text with a space at an end gets shorter. -/
theorem length_strip_lt {l : List Char}
    (h : (∃ c ∈ l.head?, isSpace c = true) ∨ ∃ c ∈ l.getLast?, isSpace c = true) :
    (strip (String.ofList l)).toList.length < l.length := by
  refine lt_of_le_of_ne (strip_sublist l).length_le fun hlength => ?_
  have hsame := (strip_sublist l).eq_of_length hlength
  rcases h with ⟨c, hc, hspace⟩ | ⟨c, hc, hspace⟩
  · cases l with
    | nil => cases hc
    | cons d l =>
        obtain rfl := Option.some.inj hc
        have hle : (strip (String.ofList (d :: l))).toList.length ≤ l.length := by
          rw [strip, String.toList_ofList, String.toList_ofList, List.length_reverse,
            List.dropWhile_cons, if_pos hspace]
          refine (List.dropWhile_sublist isSpace).length_le.trans ?_
          rw [List.length_reverse]
          exact (List.dropWhile_sublist isSpace).length_le
        rw [hlength, List.length_cons] at hle
        omega
  · have hmem : c ∈ (strip (String.ofList l)).toList.getLast? := by
      rw [hsame]
      exact hc
    have hlast := getLast?_strip l c hmem
    rw [hspace] at hlast
    cases hlast

end OandaV3.Text

namespace OandaV3

/-! ### Unicode -/

/-- The properties of characters that the methods of `str` use. -/
structure UnicodeTable where
  upper : Char → List Char
  casefold : Char → List Char
  isAlpha : Char → Bool
  isAlnum : Char → Bool
  upper_ascii : ∀ c : Char, c.toNat < 128 → upper c = [c.toUpper]
  casefold_ascii : ∀ c : Char, c.toNat < 128 → casefold c = [c.toLower]
  upper_upper : ∀ c, ∀ d ∈ upper c, upper d = [d]
  isSpace_of_isAlpha : ∀ c, isAlpha c = true → Text.isSpace c = false
  isSpace_of_isAlnum : ∀ c, isAlnum c = true → Text.isSpace c = false

namespace UnicodeTable

variable (u : UnicodeTable)

/-- `str.upper`. -/
def upperText (text : List Char) : List Char := text.flatMap u.upper

/-- `str.casefold`. -/
def casefoldText (text : List Char) : List Char := text.flatMap u.casefold

/-- `str.upper`, on a string. -/
def upperString (s : String) : String := String.ofList (u.upperText s.toList)

/-- On ASCII there is one `str.upper`. -/
theorem upperString_of_ascii {s : String} (h : ∀ c ∈ s.toList, c.toNat < 128) :
    u.upperString s = Text.upper s := by
  have hchars : ∀ text : List Char, (∀ c ∈ text, c.toNat < 128) →
      u.upperText text = text.map Char.toUpper := by
    intro text htext
    induction text with
    | nil => rfl
    | cons c text ih =>
        rw [List.forall_mem_cons] at htext
        have hrest : text.flatMap u.upper = text.map Char.toUpper := ih htext.2
        rw [upperText, List.flatMap_cons, u.upper_ascii c htext.1, List.singleton_append, hrest,
          List.map_cons]
  rw [upperString, hchars _ h, Text.upper]

/-- What holds of the first 128 code points holds of every ASCII character. -/
theorem of_ascii {p : Char → Prop} (h : ∀ n < 128, p (Char.ofNat n)) {c : Char} (hc : c.toNat < 128) :
    p c := by
  have hchar := h c.toNat hc
  rwa [Char.ofNat_toNat] at hchar

/-- The table that knows the ASCII letters and digits only. -/
def ascii : UnicodeTable where
  upper c := if c.toNat < 128 then [c.toUpper] else [c]
  casefold c := if c.toNat < 128 then [c.toLower] else [c]
  isAlpha c := decide (c.toNat < 128) && c.isAlpha
  isAlnum c := decide (c.toNat < 128) && c.isAlphanum
  upper_ascii _ h := if_pos h
  casefold_ascii _ h := if_pos h
  upper_upper := by
    intro c d hd
    by_cases hc : c.toNat < 128
    · have htwice : ∀ n < 128, (Char.ofNat n).toUpper.toNat < 128 ∧
          (Char.ofNat n).toUpper.toUpper = (Char.ofNat n).toUpper := by decide +kernel
      obtain ⟨hlt, hupper⟩ :=
        of_ascii (p := fun c => c.toUpper.toNat < 128 ∧ c.toUpper.toUpper = c.toUpper) htwice hc
      rw [if_pos hc, List.mem_singleton] at hd
      rw [hd, if_pos hlt, hupper]
    · rw [if_neg hc, List.mem_singleton] at hd
      rw [hd, if_neg hc]
  isSpace_of_isAlpha := by
    have hspace : ∀ n < 128, (Char.ofNat n).isAlpha = true → Text.isSpace (Char.ofNat n) = false := by
      decide +kernel
    intro c h
    rw [Bool.and_eq_true, decide_eq_true_eq] at h
    exact of_ascii (p := fun c => c.isAlpha = true → Text.isSpace c = false) hspace h.1 h.2
  isSpace_of_isAlnum := by
    have hspace : ∀ n < 128, (Char.ofNat n).isAlphanum = true →
        Text.isSpace (Char.ofNat n) = false := by
      decide +kernel
    intro c h
    rw [Bool.and_eq_true, decide_eq_true_eq] at h
    exact of_ascii (p := fun c => c.isAlphanum = true → Text.isSpace c = false) hspace h.1 h.2

end UnicodeTable

end OandaV3
