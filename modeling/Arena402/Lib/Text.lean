/-
Python text, as lists of characters.

Which characters `str.strip` removes, substring search, and the decimal digits of the
scripts that have their own.
-/
import Mathlib.Data.List.TakeWhile
import Mathlib.Tactic

namespace Py

/-- `str.isspace()` for one character: the characters `str.strip()` removes. -/
def isSpace (c : Char) : Bool :=
  (9 ≤ c.toNat && c.toNat ≤ 13) || (0x1c ≤ c.toNat && c.toNat ≤ 0x20) || c.toNat = 0x85 ||
    c.toNat = 0xa0 || c.toNat = 0x1680 || (0x2000 ≤ c.toNat && c.toNat ≤ 0x200a) ||
    c.toNat = 0x2028 || c.toNat = 0x2029 || c.toNat = 0x202f || c.toNat = 0x205f ||
    c.toNat = 0x3000

/-- A text without the characters of a class at its two ends. -/
def trim (space : Char → Bool) (cs : List Char) : List Char :=
  ((cs.dropWhile space).reverse.dropWhile space).reverse

/-- `text.strip()`. -/
def strip (cs : List Char) : List Char :=
  trim isSpace cs

section

variable {space : Char → Bool}

/-- Spaces before a text are dropped. -/
theorem trim_append_left {spaces : List Char} (h : ∀ c ∈ spaces, space c = true)
    (cs : List Char) : trim space (spaces ++ cs) = trim space cs := by
  unfold trim
  rw [List.dropWhile_append_of_pos h]

/-- Spaces behind a text are dropped. -/
theorem trim_append_right (cs : List Char) {spaces : List Char}
    (h : ∀ c ∈ spaces, space c = true) : trim space (cs ++ spaces) = trim space cs := by
  unfold trim
  rw [List.dropWhile_append]
  by_cases hempty : (cs.dropWhile space).isEmpty = true
  · rw [if_pos hempty, List.dropWhile_eq_nil_iff.mpr h, List.isEmpty_iff.mp hempty]
  · rw [if_neg hempty, List.reverse_append, List.dropWhile_append_of_pos]
    intro c hc
    exact h c (List.mem_reverse.mp hc)

/-- A class of fewer spaces may be dropped first. -/
theorem trim_trim {fewer : Char → Bool} (h : ∀ c, fewer c = true → space c = true)
    (cs : List Char) : trim space (trim fewer cs) = trim space cs := by
  have hlead : ∀ c ∈ cs.takeWhile fewer, space c = true :=
    fun c hc => h c (List.mem_takeWhile_imp hc)
  have htrail : ∀ c ∈ ((cs.dropWhile fewer).reverse.takeWhile fewer).reverse, space c = true :=
    fun c hc => h c (List.mem_takeWhile_imp (List.mem_reverse.mp hc))
  have hparts : cs.dropWhile fewer =
      trim fewer cs ++ ((cs.dropWhile fewer).reverse.takeWhile fewer).reverse := by
    unfold trim
    rw [← List.reverse_append, List.takeWhile_append_dropWhile, List.reverse_reverse]
  calc trim space (trim fewer cs)
      = trim space (cs.dropWhile fewer) := by
        conv_rhs => rw [hparts]
        rw [trim_append_right _ htrail]
    _ = trim space (cs.takeWhile fewer ++ cs.dropWhile fewer) := (trim_append_left hlead _).symm
    _ = trim space cs := by rw [List.takeWhile_append_dropWhile]

/-- A text without spaces has none to drop. -/
theorem trim_eq_self {cs : List Char} (h : ∀ c ∈ cs, space c = false) : trim space cs = cs := by
  have hdrop : ∀ l : List Char, (∀ c ∈ l, space c = false) → l.dropWhile space = l := by
    intro l hl
    cases l with
    | nil => rfl
    | cons c tail => simp [hl c (by simp)]
  unfold trim
  rw [hdrop cs h, hdrop cs.reverse fun c hc => h c (by simpa using hc), List.reverse_reverse]

end

/-- The whitespace of Unicode, without the four separators that Python counts as spaces. -/
def isWhiteSpace (c : Char) : Bool :=
  isSpace c && !(0x1c ≤ c.toNat && c.toNat ≤ 0x1f)

theorem isSpace_of_isWhiteSpace (c : Char) (h : isWhiteSpace c = true) : isSpace c = true :=
  (Bool.and_eq_true_iff.mp h).1

/-- `part in text`. -/
def contains (part : List Char) : List Char → Bool
  | [] => part.isEmpty
  | c :: rest => part.isPrefixOf (c :: rest) || contains part rest

theorem contains_of_not_mem {c : Char} {part : List Char} :
    ∀ cs : List Char, c ∉ cs → contains (c :: part) cs = false := by
  intro cs
  induction cs with
  | nil =>
      intro _
      rfl
  | cons d rest ih =>
      intro h
      have hne : c ≠ d := fun hc => h (by simp [hc])
      have hrest : c ∉ rest := fun hc => h (List.mem_cons_of_mem d hc)
      unfold contains
      simp [List.isPrefixOf, hne, ih hrest]

/-- `text.lower()`, for text that is ASCII or is compared with ASCII text. -/
def lower (s : String) : String :=
  String.ofList (s.toList.map Char.toLower)

/-- The capitals of a character, as far as they are ASCII text. -/
def upperChar : Char → List Char
  | 'ß' => ['S', 'S']
  | 'ı' => ['I']
  | 'ſ' => ['S']
  | 'ﬀ' => ['F', 'F']
  | 'ﬁ' => ['F', 'I']
  | 'ﬂ' => ['F', 'L']
  | 'ﬃ' => ['F', 'F', 'I']
  | 'ﬄ' => ['F', 'F', 'L']
  | 'ﬅ' => ['S', 'T']
  | 'ﬆ' => ['S', 'T']
  | c => [c.toUpper]

/-- `str.upper` of text that is looked up among ASCII texts. -/
def upper (s : String) : String :=
  String.ofList (s.toList.flatMap upperChar)

/-- The zeros of the decimal digits outside ASCII (general category `Nd`, Unicode 15); the
    nine other digits of a script follow its zero. -/
def scriptZeros : List Nat :=
  [0x660, 0x6f0, 0x7c0, 0x966, 0x9e6, 0xa66, 0xae6, 0xb66, 0xbe6, 0xc66, 0xce6, 0xd66, 0xde6,
    0xe50, 0xed0, 0xf20, 0x1040, 0x1090, 0x17e0, 0x1810, 0x1946, 0x19d0, 0x1a80, 0x1a90, 0x1b50,
    0x1bb0, 0x1c40, 0x1c50, 0xa620, 0xa8d0, 0xa900, 0xa9d0, 0xa9f0, 0xaa50, 0xabf0, 0xff10,
    0x104a0, 0x10d30, 0x11066, 0x110f0, 0x11136, 0x111d0, 0x112f0, 0x11450, 0x114d0, 0x11650,
    0x116c0, 0x11730, 0x118e0, 0x11950, 0x11c50, 0x11d50, 0x11da0, 0x11f50, 0x16a60, 0x16ac0,
    0x16b50, 0x1d7ce, 0x1d7d8, 0x1d7e2, 0x1d7ec, 0x1d7f6, 0x1e140, 0x1e2f0, 0x1e4f0, 0x1e950,
    0x1fbf0]

/-- A decimal digit of any script as the ASCII digit; other characters stay. -/
def asciiDigit (c : Char) : Char :=
  match scriptZeros.find? fun first => first ≤ c.toNat && c.toNat < first + 10 with
  | some first => Nat.digitChar (c.toNat - first)
  | none => c

theorem asciiDigit_of_ascii {c : Char} (h : c.toNat < 128) : asciiDigit c = c := by
  have hnone : scriptZeros.find? (fun first => first ≤ c.toNat && c.toNat < first + 10) = none := by
    rw [List.find?_eq_none]
    intro first hfirst
    have hbig : ∀ z ∈ scriptZeros, 128 ≤ z := by decide
    have := hbig first hfirst
    simp only [Bool.and_eq_true, decide_eq_true_eq, not_and, not_lt]
    omega
  unfold asciiDigit
  rw [hnone]

/-- The digits of an integer literal, with single underscores between digits. -/
def intBody (cs : List Char) : Option Nat :=
  if cs.isEmpty || !(cs.all fun c => c.isDigit || c = '_') || cs.head? = some '_' ||
      cs.getLast? = some '_' || contains ['_', '_'] cs then none
  else some (Nat.ofDigitChars 10 (cs.filter Char.isDigit) 0)

/-- The spaces of C. -/
def isAsciiSpace (c : Char) : Bool :=
  (9 ≤ c.toNat && c.toNat ≤ 13) || c.toNat = 32

/-- A character as `int` sees it: outside ASCII a space is a blank and a decimal digit the ASCII
    digit. -/
def intChar (c : Char) : Char :=
  if 127 < c.toNat && isSpace c then ' ' else asciiDigit c

theorem intChar_of_ascii {c : Char} (h : c.toNat < 128) : intChar c = c := by
  unfold intChar
  rw [if_neg (by simp; omega), asciiDigit_of_ascii h]

/-- What `int` converts of a text, between the spaces of C. -/
def intSource (text : List Char) : List Char :=
  trim isAsciiSpace (text.map intChar)

/-- ASCII text without spaces is converted as it is. -/
theorem intSource_eq_self {cs : List Char}
    (h : ∀ c ∈ cs, c.toNat < 128 ∧ isAsciiSpace c = false) : intSource cs = cs := by
  have hmap : cs.map intChar = cs := by
    rw [List.map_congr_left fun c hc => intChar_of_ascii (h c hc).1, List.map_id']
  unfold intSource
  rw [hmap, trim_eq_self fun c hc => (h c hc).2]

/-- `int(text)`; `none` is the `ValueError`, which more than 4300 digits raise too. -/
def parseInt (text : List Char) : Option Int :=
  let cs := intSource text
  if 4300 < (cs.filter Char.isDigit).length then none
  else
    match cs with
    | '-' :: rest => (intBody rest).map fun n => -(n : Int)
    | '+' :: rest => (intBody rest).map fun n => (n : Int)
    | rest => (intBody rest).map fun n => (n : Int)

/-! ### ASCII text -/

/-- An ASCII text has as many bytes as characters. -/
theorem utf8ByteSize_ascii : ∀ {cs : List Char}, (∀ c ∈ cs, c.toNat < 128) →
    (String.ofList cs).utf8ByteSize = cs.length := by
  intro cs
  induction cs with
  | nil =>
      intro _
      rfl
  | cons c rest ih =>
      intro h
      have hsize : c.utf8Size = 1 := Char.utf8Size_eq_one_iff.mpr (by
        rw [UInt32.le_iff_toNat_le]
        exact Nat.le_of_lt_succ (h c List.mem_cons_self))
      rw [← List.singleton_append, String.ofList_append, String.utf8ByteSize_append,
        ih fun x hx => h x (List.mem_cons_of_mem c hx)]
      simp [hsize, Nat.add_comm]

theorem toNat_of_isDigit {c : Char} (h : c.isDigit = true) : c.toNat < 128 := by
  have hrange : 48 ≤ c.toNat ∧ c.toNat ≤ 57 := Char.isDigit_iff_toNat.mp h
  omega

theorem toNat_of_isAlphanum {c : Char} (h : c.isAlphanum = true) : c.toNat < 128 := by
  change (decide (c.val ≥ 65 ∧ c.val ≤ 90) || (decide (c.val ≥ 97) && decide (c.val ≤ 122)) ||
    c.isDigit) = true at h
  simp only [Bool.or_eq_true, Bool.and_eq_true, decide_eq_true_eq] at h
  rcases h with (⟨-, h⟩ | ⟨-, h⟩) | h
  · exact lt_of_le_of_lt (UInt32.le_iff_toNat_le.mp h) (by decide)
  · exact lt_of_le_of_lt (UInt32.le_iff_toNat_le.mp h) (by decide)
  · exact toNat_of_isDigit h

theorem fromUTF8?_toByteArray (text : String) : String.fromUTF8? text.toByteArray = some text := by
  unfold String.fromUTF8?
  rw [dif_pos text.isValidUTF8]
  rfl

end Py
