/-
Strings as Go writes them in JSON and reads them back.

A Go string is any sequence of bytes.  The encoder walks over it rune by rune: a rune is
written as it is or escaped, and a byte that starts no rune is written as the six characters
`\ufffd`.  The decoder gives U+FFFD for that escape, and a genuine U+FFFD is written as its
three bytes.  So what was read back is written the same way again exactly when the string was
valid UTF-8.
-/
import Mathlib.Tactic

namespace Go

abbrev Bytes := List UInt8

/-! ### Runes -/

/-- A part of a string: a rune, or a byte that starts none. -/
inductive Piece
  | rune (c : Char)
  | bad (b : UInt8)
deriving DecidableEq, Repr

/-- The rune at the start of a string. -/
def decodeRune (bs : Bytes) : Option Char :=
  bs.toByteArray.utf8DecodeChar? 0

/-- The walk over a string; the fuel is its length. -/
def pieces : Nat → Bytes → List Piece
  | 0, _ => []
  | _ + 1, [] => []
  | n + 1, b :: bs =>
    match decodeRune (b :: bs) with
    | some c => .rune c :: pieces n ((b :: bs).drop c.utf8Size)
    | none => .bad b :: pieces n bs

/-- The bytes of a piece. -/
def Piece.bytes : Piece → Bytes
  | .rune c => String.utf8EncodeChar c
  | .bad b => [b]

/-- The rune that a piece is read back as. -/
def Piece.char : Piece → Char
  | .rune c => c
  | .bad _ => '\uFFFD'

/-- The piece is no character. -/
def Piece.isBad : Piece → Bool
  | .rune _ => false
  | .bad _ => true

/-! ### Writing -/

/-- The bytes of a text. -/
def utf8 (text : String) : Bytes :=
  text.toList.flatMap String.utf8EncodeChar

/-- A digit in lower case. -/
def hexDigit (n : Nat) : UInt8 :=
  if n < 10 then (0x30 + n).toUInt8 else (0x57 + n).toUInt8

/-- The escape of a character by its code. -/
def unicodeEscape (n : Nat) : Bytes :=
  [0x5c, 0x75, hexDigit (n / 4096), hexDigit (n / 256 % 16), hexDigit (n / 16 % 16), hexDigit (n % 16)]

/-- A rune: the quote, the backslash, control characters, the HTML characters and the two line
    separators are escaped. -/
def encodeRune (c : Char) : Bytes :=
  if c = '"' then [0x5c, 0x22]
  else if c = '\\' then [0x5c, 0x5c]
  else if c = '\x08' then [0x5c, 0x62]
  else if c = '\x0c' then [0x5c, 0x66]
  else if c = '\n' then [0x5c, 0x6e]
  else if c = '\r' then [0x5c, 0x72]
  else if c = '\t' then [0x5c, 0x74]
  else if c.toNat < 0x20 || c = '<' || c = '>' || c = '&' || c = '\u2028' || c = '\u2029' then
    unicodeEscape c.toNat
  else String.utf8EncodeChar c

/-- What is written for a piece. -/
def encodePiece : Piece → Bytes
  | .rune c => encodeRune c
  | .bad _ => unicodeEscape 0xfffd

/-- What is written for a text, quotes included. -/
def encodeString (s : Bytes) : Bytes :=
  0x22 :: ((pieces s.length s).flatMap encodePiece ++ [0x22])

/-! ### Reading -/

/-- The value of a digit in either case. -/
def hexValue (b : UInt8) : Option Nat :=
  if 0x30 ≤ b ∧ b ≤ 0x39 then some (b.toNat - 0x30)
  else if 0x61 ≤ b ∧ b ≤ 0x66 then some (b.toNat - 0x57)
  else if 0x41 ≤ b ∧ b ≤ 0x46 then some (b.toNat - 0x37)
  else none

/-- The four hexadecimal digits after `\u`. -/
def hex4 (bs : Bytes) : Option (Nat × Bytes) :=
  match bs with
  | a :: b :: c :: d :: rest => do
    let a ← hexValue a
    let b ← hexValue b
    let c ← hexValue c
    let d ← hexValue d
    return (a * 4096 + b * 256 + c * 16 + d, rest)
  | _ => none

/-- The rune of a `\u` escape: two surrogates are one rune, a lone surrogate is U+FFFD. -/
def unicodeRune (n : Nat) (rest : Bytes) : Char × Bytes :=
  if 0xd800 ≤ n ∧ n < 0xe000 then
    match rest with
    | 0x5c :: 0x75 :: more =>
      match hex4 more with
      | some (low, rest') =>
        if n < 0xdc00 ∧ 0xdc00 ≤ low ∧ low < 0xe000 then
          (Char.ofNat (0x10000 + (n - 0xd800) * 1024 + (low - 0xdc00)), rest')
        else ('\uFFFD', rest)
      | none => ('\uFFFD', rest)
    | _ => ('\uFFFD', rest)
  else (Char.ofNat n, rest)

/-- The rune of an escape, after the backslash. -/
def readEscape : Bytes → Option (Char × Bytes)
  | 0x22 :: rest => some ('"', rest)
  | 0x5c :: rest => some ('\\', rest)
  | 0x2f :: rest => some ('/', rest)
  | 0x62 :: rest => some ('\x08', rest)
  | 0x66 :: rest => some ('\x0c', rest)
  | 0x6e :: rest => some ('\n', rest)
  | 0x72 :: rest => some ('\r', rest)
  | 0x74 :: rest => some ('\t', rest)
  | 0x75 :: rest => (hex4 rest).map fun x => unicodeRune x.1 x.2
  | _ => none

/-- The next rune of a literal: a raw byte that starts none is read as U+FFFD. -/
def readRune : Bytes → Option (Char × Bytes)
  | [] => none
  | b :: bs =>
    if b = 0x5c then readEscape bs
    else if b = 0x22 ∨ b < 0x20 then none
    else
      match decodeRune (b :: bs) with
      | some c => some (c, (b :: bs).drop c.utf8Size)
      | none => some ('\uFFFD', bs)

/-- The contents of a literal; the fuel is their length. -/
def readRunes : Nat → Bytes → Option (List Char)
  | _, [] => some []
  | 0, _ :: _ => none
  | n + 1, b :: bs => do
    let (c, rest) ← readRune (b :: bs)
    let more ← readRunes n rest
    return c :: more

/-- A literal with its quotes. -/
def decodeString (literal : Bytes) : Option Bytes :=
  match literal with
  | 0x22 :: rest =>
    if rest.getLast? = some 0x22 then
      (readRunes rest.dropLast.length rest.dropLast).map fun cs => cs.flatMap String.utf8EncodeChar
    else none
  | _ => none

/-! ### Runes at the start of a string -/

section Runes

variable {c : Char} {b : UInt8} {bs rest : Bytes}

theorem decodeRune_append (c : Char) (rest : Bytes) :
    decodeRune (String.utf8EncodeChar c ++ rest) = some c := by
  unfold decodeRune
  rw [List.toByteArray_append]
  exact ByteArray.utf8DecodeChar?_utf8EncodeChar_append

theorem drop_utf8Size (c : Char) (rest : Bytes) :
    (String.utf8EncodeChar c ++ rest).drop c.utf8Size = rest := by
  rw [← String.length_utf8EncodeChar, List.drop_left]

/-- A rune at the start is the start. -/
theorem eq_append_of_decodeRune (h : decodeRune bs = some c) :
    bs = String.utf8EncodeChar c ++ bs.drop c.utf8Size := by
  have hbytes := String.toByteArray_utf8EncodeChar_of_utf8DecodeChar?_eq_some h
  have hlist : String.utf8EncodeChar c = bs.take c.utf8Size := by
    have := congrArg (fun x : ByteArray => x.data.toList) hbytes
    simpa using this
  rw [hlist, List.take_append_drop]

/-- An ASCII byte is the rune of its number. -/
theorem utf8EncodeChar_ascii (h : c.toNat < 128) : String.utf8EncodeChar c = [c.toNat.toUInt8] := by
  have hsize : c.utf8Size = 1 := Char.utf8Size_eq_one_iff.mpr (by
    rw [UInt32.le_iff_toNat_le]
    exact Nat.le_of_lt_succ h)
  rw [String.utf8EncodeChar_eq_singleton hsize]
  rfl

/-- The first byte of a rune that is not ASCII is not ASCII. -/
theorem first_of_ascii (h : String.utf8EncodeChar c = b :: bs) (hb : b.toNat < 128) :
    c = Char.ofNat b.toNat := by
  have hvalid : (Char.ofNat b.toNat).toNat = b.toNat := by
    have hrange : b.toNat.isValidChar := Or.inl (by omega)
    unfold Char.ofNat
    rw [dif_pos hrange]
    rfl
  have hascii : String.utf8EncodeChar (Char.ofNat b.toNat) = [b] := by
    rw [utf8EncodeChar_ascii (by rw [hvalid]; exact hb), hvalid]
    simp
  have hdecode := decodeRune_append c []
  rw [List.append_nil, h] at hdecode
  have hdecode' := decodeRune_append (Char.ofNat b.toNat) bs
  rw [hascii] at hdecode'
  exact Option.some.inj (hdecode.symm.trans hdecode')

end Runes

/-! ### The walk -/

theorem pieces_append (c : Char) (rest : Bytes) (n : Nat) :
    pieces (n + 1) (String.utf8EncodeChar c ++ rest) = .rune c :: pieces n rest := by
  obtain ⟨b, bs, hcons⟩ := List.exists_cons_of_ne_nil String.utf8EncodeChar_ne_nil
  have hdecode := decodeRune_append c rest
  have hdrop := drop_utf8Size c rest
  rw [hcons] at hdecode hdrop ⊢
  rw [List.cons_append] at hdecode hdrop ⊢
  rw [pieces, hdecode]
  simp only [hdrop]

/-- The runes of an encoded text are its characters. -/
theorem pieces_utf8 : ∀ (cs : List Char) (n : Nat), cs.length ≤ n →
    pieces n (cs.flatMap String.utf8EncodeChar) = cs.map .rune := by
  intro cs
  induction cs with
  | nil =>
      intro n _
      cases n with
      | zero => rfl
      | succ n => rfl
  | cons c rest ih =>
      intro n hn
      obtain ⟨n, rfl⟩ : ∃ m, n = m + 1 := ⟨n - 1, by simp at hn; omega⟩
      rw [List.flatMap_cons, pieces_append, ih n (by simpa using hn)]
      rfl

/-- Nothing is lost in the walk. -/
theorem bytes_pieces : ∀ (n : Nat) (bs : Bytes), bs.length ≤ n →
    (pieces n bs).flatMap Piece.bytes = bs := by
  intro n
  induction n with
  | zero =>
      intro bs hn
      rw [List.eq_nil_of_length_eq_zero (Nat.le_zero.mp hn)]
      rfl
  | succ n ih =>
      intro bs hn
      obtain _ | ⟨b, bs⟩ := bs
      · rfl
      · rw [pieces]
        cases hdecode : decodeRune (b :: bs) with
        | none =>
            simp only [List.flatMap_cons, Piece.bytes]
            rw [ih bs (by simpa using hn)]
            rfl
        | some c =>
            simp only [List.flatMap_cons, Piece.bytes]
            have hpos := Char.utf8Size_pos c
            rw [ih _ (by simp only [List.length_drop, List.length_cons] at hn ⊢; omega)]
            exact (eq_append_of_decodeRune hdecode).symm

theorem length_flatMap_le {α : Type} {f : α → Bytes} (hf : ∀ a, f a ≠ []) :
    ∀ l : List α, l.length ≤ (l.flatMap f).length := by
  intro l
  induction l with
  | nil => exact Nat.le_refl _
  | cons a rest ih =>
      have := List.length_pos_of_ne_nil (hf a)
      simp only [List.length_cons, List.flatMap_cons, List.length_append]
      omega

/-- A string is valid UTF-8 when its walk meets no bad byte. -/
theorem isValidUTF8_iff (s : Bytes) :
    s.toByteArray.IsValidUTF8 ↔ ∀ p ∈ pieces s.length s, p.isBad = false := by
  constructor
  · rintro ⟨cs, hcs⟩
    have hs : s = cs.flatMap String.utf8EncodeChar := by
      have := congrArg (fun x : ByteArray => x.data.toList) hcs
      simpa [List.utf8Encode] using this
    have hlength := length_flatMap_le (fun c => String.utf8EncodeChar_ne_nil (c := c)) cs
    intro p hp
    rw [hs, pieces_utf8 cs _ hlength] at hp
    obtain ⟨c, -, rfl⟩ := List.mem_map.mp hp
    rfl
  · intro hall
    refine ⟨(pieces s.length s).map Piece.char, ?_⟩
    have hbytes : ((pieces s.length s).map Piece.char).flatMap String.utf8EncodeChar = s := by
      conv_rhs => rw [← bytes_pieces s.length s (Nat.le_refl _)]
      rw [List.flatMap_map]
      refine List.flatMap_congr fun p hp => ?_
      cases p with
      | rune c => rfl
      | bad b => exact absurd (hall _ hp) (by simp [Piece.isBad])
    rw [List.utf8Encode, hbytes]

/-! ### Reading back what was written -/

theorem hexValue_hexDigit {n : Nat} (h : n < 16) : hexValue (hexDigit n) = some n := by
  interval_cases n <;> decide

theorem hex4_digits {n : Nat} (h : n < 65536) (rest : Bytes) :
    hex4 (hexDigit (n / 4096) :: hexDigit (n / 256 % 16) :: hexDigit (n / 16 % 16)
      :: hexDigit (n % 16) :: rest) = some (n, rest) := by
  unfold hex4
  dsimp only
  rw [hexValue_hexDigit (by omega), hexValue_hexDigit (by omega), hexValue_hexDigit (by omega),
    hexValue_hexDigit (by omega)]
  have hsum : n / 4096 * 4096 + n / 256 % 16 * 256 + n / 16 % 16 * 16 + n % 16 = n := by omega
  simp only [Option.bind_eq_bind, Option.bind_some, hsum]
  rfl

/-- An escaped rune outside the surrogates is read as itself. -/
theorem readRune_unicodeEscape {n : Nat} (h : n < 0xd800 ∨ 0xe000 ≤ n ∧ n < 65536) (rest : Bytes) :
    readRune (unicodeEscape n ++ rest) = some (Char.ofNat n, rest) := by
  show (hex4 (hexDigit (n / 4096) :: hexDigit (n / 256 % 16) :: hexDigit (n / 16 % 16)
    :: hexDigit (n % 16) :: rest)).map (fun x => unicodeRune x.1 x.2) = _
  rw [hex4_digits (by omega)]
  simp only [Option.map_some, unicodeRune]
  rw [if_neg (by omega)]

theorem readRune_raw {c : Char} (hquote : c ≠ '"') (hslash : c ≠ '\\') (hcontrol : ¬ c.toNat < 0x20)
    (rest : Bytes) : readRune (String.utf8EncodeChar c ++ rest) = some (c, rest) := by
  obtain ⟨b, bs, hcons⟩ := List.exists_cons_of_ne_nil String.utf8EncodeChar_ne_nil
  have hdecode := decodeRune_append c rest
  have hdrop := drop_utf8Size c rest
  have hfirst : b.toNat < 128 → c = Char.ofNat b.toNat := first_of_ascii hcons
  rw [hcons, List.cons_append] at hdecode hdrop ⊢
  rw [readRune]
  have hnotSlash : b ≠ 0x5c := by
    rintro rfl
    exact hslash (hfirst (by decide))
  have hnotEnd : ¬ (b = 0x22 ∨ b < 0x20) := by
    rintro (rfl | hlow)
    · exact hquote (hfirst (by decide))
    · have hlow' : b.toNat < 0x20 := UInt8.lt_iff_toNat_lt.mp hlow
      have hc := hfirst (by omega)
      apply hcontrol
      have hrange : b.toNat.isValidChar := Or.inl (by omega)
      rw [hc, Char.ofNat, dif_pos hrange]
      exact hlow'
  rw [if_neg hnotSlash, if_neg hnotEnd, hdecode]
  simp only [hdrop]

/-- A written rune is read as itself. -/
theorem readRune_encodeRune (c : Char) (rest : Bytes) :
    readRune (encodeRune c ++ rest) = some (c, rest) := by
  unfold encodeRune
  by_cases hquote : c = '"'
  · rw [if_pos hquote, hquote]
    rfl
  by_cases hslash : c = '\\'
  · rw [if_neg hquote, if_pos hslash, hslash]
    rfl
  by_cases hb : c = '\x08'
  · rw [if_neg hquote, if_neg hslash, if_pos hb, hb]
    rfl
  by_cases hf : c = '\x0c'
  · rw [if_neg hquote, if_neg hslash, if_neg hb, if_pos hf, hf]
    rfl
  by_cases hn : c = '\n'
  · rw [if_neg hquote, if_neg hslash, if_neg hb, if_neg hf, if_pos hn, hn]
    rfl
  by_cases hr : c = '\r'
  · rw [if_neg hquote, if_neg hslash, if_neg hb, if_neg hf, if_neg hn, if_pos hr, hr]
    rfl
  by_cases ht : c = '\t'
  · rw [if_neg hquote, if_neg hslash, if_neg hb, if_neg hf, if_neg hn, if_neg hr, if_pos ht, ht]
    rfl
  rw [if_neg hquote, if_neg hslash, if_neg hb, if_neg hf, if_neg hn, if_neg hr, if_neg ht]
  by_cases hescape : (c.toNat < 0x20 || c = '<' || c = '>' || c = '&' || c = '\u2028'
      || c = '\u2029') = true
  · rw [if_pos hescape]
    have hsmall : c.toNat < 0xd800 := by
      simp only [Bool.or_eq_true, decide_eq_true_eq] at hescape
      rcases hescape with ((((h | rfl) | rfl) | rfl) | rfl) | rfl
      · omega
      · decide
      · decide
      · decide
      · decide
      · decide
    rw [readRune_unicodeEscape (Or.inl hsmall), Char.ofNat_toNat]
  · rw [if_neg hescape]
    have hcontrol : ¬ c.toNat < 0x20 := by
      intro h
      apply hescape
      simp [h]
    exact readRune_raw hquote hslash hcontrol rest

theorem readRune_encodePiece (p : Piece) (rest : Bytes) :
    readRune (encodePiece p ++ rest) = some (p.char, rest) := by
  cases p with
  | rune c => exact readRune_encodeRune c rest
  | bad b => exact readRune_unicodeEscape (Or.inr (by omega)) rest

theorem encodePiece_ne_nil (p : Piece) : encodePiece p ≠ [] := by
  intro h
  have hread := readRune_encodePiece p []
  rw [h] at hread
  cases hread

theorem readRunes_encode : ∀ (ps : List Piece) (n : Nat), ps.length ≤ n →
    readRunes n (ps.flatMap encodePiece) = some (ps.map Piece.char) := by
  intro ps
  induction ps with
  | nil =>
      intro n _
      cases n with
      | zero => rfl
      | succ n => rfl
  | cons p rest ih =>
      intro n hn
      obtain ⟨n, rfl⟩ : ∃ m, n = m + 1 := ⟨n - 1, by simp at hn; omega⟩
      obtain ⟨b, bs, hcons⟩ := List.exists_cons_of_ne_nil (encodePiece_ne_nil p)
      have hread := readRune_encodePiece p (rest.flatMap encodePiece)
      rw [List.flatMap_cons]
      rw [hcons, List.cons_append] at hread ⊢
      rw [readRunes, hread]
      simp only [Option.bind_eq_bind, Option.bind_some, ih n (by simpa using hn)]
      rfl

/-- What a string is read back as. -/
def repaired (s : Bytes) : Bytes :=
  ((pieces s.length s).map Piece.char).flatMap String.utf8EncodeChar

/-- **A written string is read back with its bad bytes replaced.** -/
theorem decodeString_encodeString (s : Bytes) : decodeString (encodeString s) = some (repaired s) := by
  unfold decodeString encodeString
  simp only [List.getLast?_append, List.getLast?_singleton, Option.some_or, if_true,
    List.dropLast_concat]
  rw [readRunes_encode _ _ (length_flatMap_le encodePiece_ne_nil _)]
  rfl

theorem pieces_repaired (s : Bytes) :
    pieces (repaired s).length (repaired s) = (pieces s.length s).map fun p => .rune p.char := by
  unfold repaired
  rw [pieces_utf8 _ _ (length_flatMap_le (fun c => String.utf8EncodeChar_ne_nil (c := c)) _),
      List.map_map]
  rfl

theorem encodeString_repaired (s : Bytes) :
    encodeString (repaired s)
      = 0x22 :: ((pieces s.length s).flatMap (fun p => encodeRune p.char) ++ [0x22]) := by
  unfold encodeString
  rw [pieces_repaired, List.flatMap_map]
  rfl

/-- The bad bytes of a string. -/
def badCount (s : Bytes) : Nat :=
  (pieces s.length s).countP Piece.isBad

/-- Each bad byte takes three bytes more the first time. -/
theorem length_encodeString (s : Bytes) :
    (encodeString s).length = (encodeString (repaired s)).length + 3 * badCount s := by
  rw [encodeString_repaired]
  unfold encodeString badCount
  simp only [List.length_cons, List.length_append, List.length_nil]
  have hall : ∀ ps : List Piece, (ps.flatMap encodePiece).length
      = (ps.flatMap fun p => encodeRune p.char).length + 3 * ps.countP Piece.isBad := by
    intro ps
    induction ps with
    | nil => rfl
    | cons p rest ih =>
        simp only [List.flatMap_cons, List.length_append, ih]
        cases p with
        | rune c =>
            rw [List.countP_cons_of_neg (by simp [Piece.isBad])]
            simp only [encodePiece, Piece.char]
            omega
        | bad b =>
            rw [List.countP_cons_of_pos (by simp [Piece.isBad])]
            have hescape : (encodePiece (.bad b)).length = 6 := rfl
            have hraw : (encodeRune '\uFFFD').length = 3 := by decide
            simp only [Piece.char] at *
            omega
  rw [hall]
  omega

theorem encodeString_of_valid {s : Bytes} (h : badCount s = 0) :
    encodeString (repaired s) = encodeString s := by
  rw [encodeString_repaired]
  unfold encodeString
  congr 2
  refine List.flatMap_congr fun p hp => ?_
  cases p with
  | rune c => rfl
  | bad b => exact absurd rfl (List.countP_eq_zero.mp h _ hp)

theorem badCount_eq_zero_iff (s : Bytes) : badCount s = 0 ↔ s.toByteArray.IsValidUTF8 := by
  rw [isValidUTF8_iff, badCount, List.countP_eq_zero]
  refine forall₂_congr fun p _ => ?_
  simp

theorem repaired_eq_nil_iff (s : Bytes) : repaired s = [] ↔ s = [] := by
  constructor
  · intro h
    have hlength := length_flatMap_le (fun c => String.utf8EncodeChar_ne_nil (c := c))
        ((pieces s.length s).map Piece.char)
    have hempty : pieces s.length s = [] := by
      unfold repaired at h
      rw [h] at hlength
      simpa using hlength
    rw [← bytes_pieces s.length s (Nat.le_refl _), hempty]
    rfl
  · rintro rfl
    rfl

end Go
