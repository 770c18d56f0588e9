/-
Base64, with and without its padding.

Three bytes are four characters of six bits.  The last characters of a text are padded with `=` to
four.  The URL-safe form has `-` and `_` in place of `+` and `/`.
-/
import Mathlib.Data.List.TakeWhile
import Mathlib.Tactic

namespace Base64

/-! ### Characters of six bits -/

/-- The character of six bits. -/
def charOf (n : Nat) : Char :=
  if n < 26 then Char.ofNat (65 + n)
  else if n < 52 then Char.ofNat (97 + (n - 26))
  else if n < 62 then Char.ofNat (48 + (n - 52))
  else if n = 62 then '+'
  else '/'

/-- The six bits of a character. -/
def sextetOf (c : Char) : Option Nat :=
  if 65 ≤ c.toNat ∧ c.toNat ≤ 90 then some (c.toNat - 65)
  else if 97 ≤ c.toNat ∧ c.toNat ≤ 122 then some (c.toNat - 97 + 26)
  else if 48 ≤ c.toNat ∧ c.toNat ≤ 57 then some (c.toNat - 48 + 52)
  else if c = '+' then some 62
  else if c = '/' then some 63
  else none

/-- The characters of base64, less the padding. -/
def isData (c : Char) : Bool :=
  (sextetOf c).isSome

theorem sextetOf_charOf {n : Nat} (h : n < 64) : sextetOf (charOf n) = some n := by
  have hall : ∀ m : Fin 64, sextetOf (charOf m) = some m.val := by decide
  exact hall ⟨n, h⟩

theorem charOf_isData {n : Nat} (h : n < 64) : isData (charOf n) = true := by
  rw [isData, sextetOf_charOf h]
  rfl

theorem pad_not_isData : isData '=' = false := by decide

theorem ne_pad_of_isData {c : Char} (h : isData c = true) : c ≠ '=' := by
  rintro rfl
  rw [pad_not_isData] at h
  cases h

/-! ### The codec -/

/-- `b64encode` -/
def encode : List UInt8 → List Char
  | a :: b :: c :: rest =>
    charOf (a.toNat / 4) :: charOf (a.toNat % 4 * 16 + b.toNat / 16) ::
      charOf (b.toNat % 16 * 4 + c.toNat / 64) :: charOf (c.toNat % 64) :: encode rest
  | [a, b] =>
    [charOf (a.toNat / 4), charOf (a.toNat % 4 * 16 + b.toNat / 16), charOf (b.toNat % 16 * 4), '=']
  | [a] => [charOf (a.toNat / 4), charOf (a.toNat % 4 * 16), '=', '=']
  | [] => []

/-- A strict decoder: only characters of the alphabet in groups of four, the last one padded. -/
def decode : List Char → Option (List UInt8)
  | a :: b :: c :: d :: rest => do
    let x ← sextetOf a
    let y ← sextetOf b
    let first := UInt8.ofNat (x * 4 + y / 16)
    if c = '=' ∧ d = '=' ∧ rest = [] then some [first]
    else
      let z ← sextetOf c
      let second := UInt8.ofNat (y % 16 * 16 + z / 4)
      if d = '=' ∧ rest = [] then some [first, second]
      else
        let w ← sextetOf d
        let later ← decode rest
        some (first :: second :: UInt8.ofNat (z % 4 * 64 + w) :: later)
  | [] => some []
  | _ => none

theorem sextets_lt {a b c : UInt8} : a.toNat / 4 < 64 ∧ a.toNat % 4 * 16 + b.toNat / 16 < 64 ∧
    b.toNat % 16 * 4 + c.toNat / 64 < 64 ∧ c.toNat % 64 < 64 := by
  have ha := a.toNat_lt
  have hb := b.toNat_lt
  have hc := c.toNat_lt
  omega

theorem ofNat_of_eq {a : UInt8} {n : Nat} (h : n = a.toNat) : UInt8.ofNat n = a := by
  rw [h]
  exact UInt8.ofNat_toNat

theorem decode_encode : ∀ bytes : List UInt8, decode (encode bytes) = some bytes := by
  intro bytes
  induction bytes using encode.induct with
  | case1 a b c rest ih =>
      obtain ⟨h₁, h₂, h₃, h₄⟩ := sextets_lt (a := a) (b := b) (c := c)
      have ha := a.toNat_lt
      have hb := b.toNat_lt
      have hc := c.toNat_lt
      have hthird : charOf (b.toNat % 16 * 4 + c.toNat / 64) ≠ '=' := ne_pad_of_isData (charOf_isData h₃)
      have hfourth : charOf (c.toNat % 64) ≠ '=' := ne_pad_of_isData (charOf_isData h₄)
      rw [encode, decode]
      simp only [sextetOf_charOf h₁, sextetOf_charOf h₂, sextetOf_charOf h₃, sextetOf_charOf h₄,
        Option.bind_eq_bind, Option.bind_some, hthird, hfourth, false_and, if_false, ih]
      rw [ofNat_of_eq (a := a) (by omega), ofNat_of_eq (a := b) (by omega),
        ofNat_of_eq (a := c) (by omega)]
  | case2 a b =>
      obtain ⟨h₁, h₂, -, -⟩ := sextets_lt (a := a) (b := b) (c := 0)
      have ha := a.toNat_lt
      have hb := b.toNat_lt
      have h₃ : b.toNat % 16 * 4 < 64 := by omega
      have hthird : charOf (b.toNat % 16 * 4) ≠ '=' := ne_pad_of_isData (charOf_isData h₃)
      rw [encode, decode]
      simp only [sextetOf_charOf h₁, sextetOf_charOf h₂, sextetOf_charOf h₃, Option.bind_eq_bind,
        Option.bind_some, hthird, false_and, if_false, and_self, if_true]
      rw [ofNat_of_eq (a := a) (by omega), ofNat_of_eq (a := b) (by omega)]
  | case3 a =>
      have ha := a.toNat_lt
      have h₁ : a.toNat / 4 < 64 := by omega
      have h₂ : a.toNat % 4 * 16 < 64 := by omega
      rw [encode, decode]
      simp only [sextetOf_charOf h₁, sextetOf_charOf h₂, Option.bind_eq_bind, Option.bind_some,
        and_self, if_true]
      rw [ofNat_of_eq (a := a) (by omega)]
  | case4 => rfl

/-! ### Padding -/

/-- `text.rstrip("=")` -/
def unpad (cs : List Char) : List Char :=
  (cs.reverse.dropWhile fun c => c = '=').reverse

/-- `"=" * (-len(text) % 4)` -/
def padding (cs : List Char) : List Char :=
  List.replicate ((4 - cs.length % 4) % 4) '='

/-- The encoded text: data, with at most two `=` up to a length of whole groups. -/
theorem encode_shape : ∀ bytes : List UInt8, ∃ body k, encode bytes = body ++ List.replicate k '=' ∧
    (∀ c ∈ body, isData c = true) ∧ k < 4 ∧ (body.length + k) % 4 = 0 ∧
    3 * body.length ≤ 4 * bytes.length + 2 ∧ (bytes ≠ [] → body ≠ []) := by
  intro bytes
  induction bytes using encode.induct with
  | case1 a b c rest ih =>
      obtain ⟨body, k, hbody, hdata, hk, hlength, hsize, -⟩ := ih
      obtain ⟨h₁, h₂, h₃, h₄⟩ := sextets_lt (a := a) (b := b) (c := c)
      refine ⟨_ :: _ :: _ :: _ :: body, k, by rw [encode, hbody]; rfl, ?_, hk, ?_, ?_, by simp⟩
      · intro x hx
        simp only [List.mem_cons] at hx
        rcases hx with rfl | rfl | rfl | rfl | hx
        · exact charOf_isData h₁
        · exact charOf_isData h₂
        · exact charOf_isData h₃
        · exact charOf_isData h₄
        · exact hdata x hx
      · simp only [List.length_cons]
        omega
      · simp only [List.length_cons]
        omega
  | case2 a b =>
      obtain ⟨h₁, h₂, -, -⟩ := sextets_lt (a := a) (b := b) (c := 0)
      have h₃ : b.toNat % 16 * 4 < 64 := by omega
      refine ⟨[_, _, _], 1, rfl, ?_, by omega, by simp, by simp, by simp⟩
      intro x hx
      simp only [List.mem_cons, List.not_mem_nil, or_false] at hx
      rcases hx with rfl | rfl | rfl
      · exact charOf_isData h₁
      · exact charOf_isData h₂
      · exact charOf_isData h₃
  | case3 a =>
      have ha := a.toNat_lt
      refine ⟨[_, _], 2, rfl, ?_, by omega, by simp, by simp, by simp⟩
      intro x hx
      simp only [List.mem_cons, List.not_mem_nil, or_false] at hx
      rcases hx with rfl | rfl
      · exact charOf_isData (by omega)
      · exact charOf_isData (by omega)
  | case4 => exact ⟨[], 0, rfl, by simp, by omega, by simp, by simp, by simp⟩

theorem unpad_append {body : List Char} (h : ∀ c ∈ body, isData c = true) (k : Nat) :
    unpad (body ++ List.replicate k '=') = body := by
  have hpads : (List.replicate k '=').dropWhile (fun c => decide (c = '=')) = [] := by
    rw [List.dropWhile_eq_nil_iff]
    intro c hc
    exact decide_eq_true (List.eq_of_mem_replicate hc)
  have hbody : body.reverse.dropWhile (fun c => decide (c = '=')) = body.reverse := by
    cases hrev : body.reverse with
    | nil => rfl
    | cons c rest =>
        have hc : c ∈ body := by
          rw [← List.mem_reverse, hrev]
          exact List.mem_cons_self
        rw [List.dropWhile_cons_of_neg (by simpa using ne_pad_of_isData (h c hc))]
  unfold unpad
  rw [List.reverse_append, List.reverse_replicate, List.dropWhile_append_of_pos, hbody,
    List.reverse_reverse]
  intro c hc
  exact decide_eq_true (List.eq_of_mem_replicate hc)

/-- Without its padding an encoded text is data only, and not long. -/
theorem unpad_encode (bytes : List UInt8) : (∀ c ∈ unpad (encode bytes), isData c = true) ∧
    3 * (unpad (encode bytes)).length ≤ 4 * bytes.length + 2 ∧
    (bytes ≠ [] → unpad (encode bytes) ≠ []) := by
  obtain ⟨body, k, hbody, hdata, -, -, hsize, hne⟩ := encode_shape bytes
  rw [hbody, unpad_append hdata]
  exact ⟨hdata, hsize, hne⟩

/-- The padding that was stripped is the one that is put back. -/
theorem unpad_padding (bytes : List UInt8) :
    unpad (encode bytes) ++ padding (unpad (encode bytes)) = encode bytes := by
  obtain ⟨body, k, hbody, hdata, hk, hlength, -, -⟩ := encode_shape bytes
  rw [hbody, unpad_append hdata, padding]
  have hcount : (4 - body.length % 4) % 4 = k := by omega
  rw [hcount]

/-- `base64.b64decode(text, validate=True)`.  Padding that comes first is refused; padding after
    whole groups is passed over. -/
def decodeStrict (cs : List Char) : Option (List UInt8) :=
  if cs.head? = some '=' then none
  else decode (if (unpad cs).length % 4 = 0 then unpad cs else cs)

theorem decodeStrict_encode (bytes : List UInt8) : decodeStrict (encode bytes) = some bytes := by
  obtain ⟨body, k, hbody, hdata, hk, hlength, -, hne⟩ := encode_shape bytes
  have hhead : (encode bytes).head? ≠ some '=' := by
    cases bytes with
    | nil => simp [encode]
    | cons byte rest =>
        obtain ⟨c, tail, hcons⟩ := List.exists_cons_of_ne_nil (hne (List.cons_ne_nil _ _))
        rw [hbody, hcons]
        intro heq
        exact ne_pad_of_isData (hdata c (by rw [hcons]; exact List.mem_cons_self))
          (Option.some.inj heq)
  have hgroups : (if (unpad (encode bytes)).length % 4 = 0 then unpad (encode bytes)
      else encode bytes) = encode bytes := by
    rw [hbody, unpad_append hdata]
    by_cases hwhole : body.length % 4 = 0
    · have hzero : k = 0 := by omega
      rw [if_pos hwhole, hzero]
      simp
    · rw [if_neg hwhole]
  unfold decodeStrict
  rw [if_neg hhead, hgroups, decode_encode]

/-! ### The URL-safe form -/

/-- `translate(maketrans("+/", "-_"))` -/
def toUrlSafe (c : Char) : Char :=
  if c = '+' then '-' else if c = '/' then '_' else c

theorem toUrlSafe_eq_pad_iff (c : Char) : toUrlSafe c = '=' ↔ c = '=' := by
  unfold toUrlSafe
  by_cases hplus : c = '+'
  · rw [if_pos hplus, hplus]
    decide
  · rw [if_neg hplus]
    by_cases hslash : c = '/'
    · rw [if_pos hslash, hslash]
      decide
    · rw [if_neg hslash]

theorem unpad_toUrlSafe (cs : List Char) : unpad (cs.map toUrlSafe) = (unpad cs).map toUrlSafe := by
  have hpad : (fun c : Char => decide (c = '=')) ∘ toUrlSafe = fun c => decide (c = '=') := by
    funext c
    exact decide_eq_decide.mpr (toUrlSafe_eq_pad_iff c)
  unfold unpad
  rw [← List.map_reverse, List.dropWhile_map, hpad, List.map_reverse]

/-- `translate(maketrans("-_", "+/"))` -/
def ofUrlSafe (c : Char) : Char :=
  if c = '-' then '+' else if c = '_' then '/' else c

theorem ofUrlSafe_toUrlSafe {c : Char} (h : isData c = true ∨ c = '=') :
    ofUrlSafe (toUrlSafe c) = c := by
  have hminus : isData '-' = false := by decide
  have hunder : isData '_' = false := by decide
  have hne : c ≠ '-' ∧ c ≠ '_' := by
    rcases h with h | rfl
    · constructor
      · rintro rfl
        rw [hminus] at h
        cases h
      · rintro rfl
        rw [hunder] at h
        cases h
    · decide
  unfold toUrlSafe
  by_cases hplus : c = '+'
  · rw [if_pos hplus, hplus]
    rfl
  · rw [if_neg hplus]
    by_cases hslash : c = '/'
    · rw [if_pos hslash, hslash]
      rfl
    · rw [if_neg hslash, ofUrlSafe, if_neg hne.1, if_neg hne.2]

end Base64
