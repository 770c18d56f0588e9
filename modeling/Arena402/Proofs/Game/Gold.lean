/-
Writing an amount of gold and reading it back.

`format_gold` writes every amount exactly.  `gold` multiplies in a context of 28 digits, so
what it reads is exact precisely for numbers of at most 28 significant digits: a longer
amount is written in full and comes back as another one.  At the other end a positive
number below the context's exponent range is read as no gold at all.
-/
import Arena402.Proofs.Game.Amounts

namespace Arena402

open Py Py.Decimal Game

/-! ### What a text denotes -/

/-- The number a text denotes, as `Decimal(text)` reads it. -/
def Denotes (text : List Char) (q : ℚ) : Prop :=
  ∃ negative d, ofText text = some (.finite negative d) ∧
    q = if negative then -d.val else d.val

/-- A number of at most 28 significant digits. -/
def WithinPrecision (q : ℚ) : Prop :=
  ∃ (c : Nat) (e : Int), c < 10 ^ defaultPrecision ∧ q = c * (10 : ℚ) ^ e

/-- Counting in millionths does not change the digits. -/
theorem withinPrecision_millionths {q : ℚ} :
    WithinPrecision (q / 10 ^ 6) ↔ WithinPrecision q := by
  have hshift : ∀ e : Int, (10 : ℚ) ^ (e + 6) = (10 : ℚ) ^ e * 10 ^ 6 := by
    intro e
    rw [zpow_add₀ (by norm_num)]
    norm_num
  constructor
  · rintro ⟨c, e, hc, hq⟩
    refine ⟨c, e + 6, hc, ?_⟩
    rw [hshift, ← mul_assoc, ← hq]
    field_simp
  · rintro ⟨c, e, hc, hq⟩
    refine ⟨c, e - 6, hc, ?_⟩
    have hback := hshift (e - 6)
    rw [sub_add_cancel] at hback
    rw [hq, hback]
    field_simp

/-! ### Dropping trailing zeros -/

/-- A run of digits is what is left of it and the zeros dropped from its end. -/
theorem exists_rstripZeros (cs : List Char) :
    ∃ k, cs = rstripZeros cs ++ List.replicate k '0' := by
  have hsplit := List.takeWhile_append_dropWhile (p := fun c => decide (c = '0')) (l := cs.reverse)
  have hzeros : cs.reverse.takeWhile (fun c => decide (c = '0'))
      = List.replicate (cs.reverse.takeWhile (fun c => decide (c = '0'))).length '0' := by
    refine List.eq_replicate_of_mem ?_
    intro c hc
    simpa using List.mem_takeWhile_imp hc
  refine ⟨(cs.reverse.takeWhile (fun c => decide (c = '0'))).length, ?_⟩
  have hrev := congrArg List.reverse hsplit
  rw [List.reverse_append, List.reverse_reverse, hzeros, List.reverse_replicate] at hrev
  exact hrev.symm

/-- Zeros are dropped from behind the point only, when there is another digit there. -/
theorem rstripZeros_point {int frac : List Char} (h : ∃ c ∈ frac, c ≠ '0') :
    rstripZeros (int ++ '.' :: frac) = int ++ '.' :: rstripZeros frac := by
  obtain ⟨c, hc, hne⟩ := h
  have hany : ¬ ∀ x ∈ frac.reverse, decide (x = '0') = true := by
    intro hall
    exact hne (by simpa using hall c (List.mem_reverse.mpr hc))
  unfold rstripZeros
  rw [List.reverse_append, List.reverse_cons, List.append_assoc, List.dropWhile_append,
    if_neg (by simpa [List.dropWhile_eq_nil_iff] using hany)]
  simp

theorem exists_ne_zero_of_value {cs : List Char} (h : Nat.ofDigitChars 10 cs 0 ≠ 0) :
    ∃ c ∈ cs, c ≠ '0' := by
  by_contra hall
  push Not at hall
  have hzeros : cs = List.replicate cs.length '0' := List.eq_replicate_of_mem hall
  have hvalue := ofDigitChars_replicate_zero cs.length []
  rw [List.append_nil, ← hzeros] at hvalue
  exact h hvalue

/-! ### The text of an amount -/

/-- Digits around a point, counted in millionths, with trailing zeros dropped. -/
theorem val_rstripZeros {int frac : List Char} (hlen : frac.length = 6) :
    Decimal.val ⟨Nat.ofDigitChars 10 (int ++ rstripZeros frac) 0, -((rstripZeros frac).length : Int)⟩
      = (Nat.ofDigitChars 10 (int ++ frac) 0 : ℚ) / 10 ^ 6 := by
  obtain ⟨k, hk⟩ := exists_rstripZeros frac
  have hsix : (rstripZeros frac).length + k = 6 := by
    have hlength := congrArg List.length hk
    rw [List.length_append, List.length_replicate] at hlength
    omega
  have hdigits : Nat.ofDigitChars 10 (int ++ frac) 0
      = Nat.ofDigitChars 10 (int ++ rstripZeros frac) 0 * 10 ^ k := by
    conv_lhs => rw [hk]
    rw [← List.append_assoc, Nat.ofDigitChars_append, Nat.ofDigitChars_replicate_zero]
    ring
  have hexp : -((rstripZeros frac).length : Int) = -6 + (k : Int) := by omega
  rw [hexp, val_shift, hdigits]
  norm_num
  ring

theorem fraction_lt (n : Nat) : n % goldScale < 10 ^ 6 :=
  Nat.mod_lt n (by decide)

/-- The digits behind the point of an amount that is not whole. -/
def fractionDigits (n : Nat) : List Char :=
  rstripZeros (padded 6 (n % goldScale)).toList

theorem isDigit_fractionDigits {n : Nat} : ∀ c ∈ fractionDigits n, c.isDigit = true := by
  obtain ⟨hfrac, -, -⟩ := padded_chars (fraction_lt n)
  intro c hc
  obtain ⟨k, hk⟩ := exists_rstripZeros (padded 6 (n % goldScale)).toList
  refine hfrac c ?_
  rw [hk]
  exact List.mem_append_left _ hc

theorem formatGold_whole {n : Nat} (h : n ≤ maxGoldAtomic) (hfraction : n % goldScale = 0) :
    formatGold (.int n) = .ok (Nat.toDigits 10 (n / goldScale)) := by
  have hmax : ¬ (maxGoldAtomic : Int) < n := by omega
  simp [formatGold, hmax, hfraction]

theorem formatGold_fraction {n : Nat} (h : n ≤ maxGoldAtomic) (hfraction : n % goldScale ≠ 0) :
    formatGold (.int n) = .ok (Nat.toDigits 10 (n / goldScale) ++ '.' :: fractionDigits n) := by
  have hmax : ¬ (maxGoldAtomic : Int) < n := by omega
  obtain ⟨-, -, hvalue⟩ := padded_chars (fraction_lt n)
  have hne : ∃ c ∈ (padded 6 (n % goldScale)).toList, c ≠ '0' :=
    exists_ne_zero_of_value (by rwa [hvalue])
  have hstrip : rstripZeros (Nat.toDigits 10 (n / goldScale) ++ '.' :: (padded 6 (n % goldScale)).toList)
      = Nat.toDigits 10 (n / goldScale) ++ '.' :: rstripZeros (padded 6 (n % goldScale)).toList :=
    rstripZeros_point hne
  simp [formatGold, hmax, hfraction, hstrip, fractionDigits]

/-- The text of an amount denotes the amount in millionths. -/
theorem formatGold_exact {n : Nat} (h : n ≤ maxGoldAtomic) :
    ∃ text d, formatGold (.int n) = .ok text ∧ ofText text = some (.finite false d) ∧
      d.val = (n : ℚ) / 10 ^ 6 := by
  have hsum : 10 ^ 6 * (n / goldScale) + n % goldScale = n := Nat.div_add_mod n goldScale
  by_cases hfraction : n % goldScale = 0
  · have hchars : ∀ c ∈ Nat.toDigits 10 (n / goldScale), c.isDigit = true ∨ c = '.' :=
      fun c hc => Or.inl (isDigit_toDigits c hc)
    refine ⟨_, ⟨n / goldScale, 0⟩, formatGold_whole h hfraction, ?_, ?_⟩
    · rw [ofText_eq_ofChars hchars, ofChars_of_unsigned hchars
        (parseUnsigned_int isDigit_toDigits Nat.toDigits_ne_nil), Nat.ofDigitChars_ten_toDigits]
    · have hcast : (n : ℚ) = 10 ^ 6 * (n / goldScale : Nat) := by
        rw [hfraction, add_zero] at hsum
        exact_mod_cast hsum.symm
      rw [hcast]
      simp [Decimal.val]
  · obtain ⟨-, hlen, hvalue⟩ := padded_chars (fraction_lt n)
    have hchars : ∀ c ∈ Nat.toDigits 10 (n / goldScale) ++ '.' :: fractionDigits n,
        c.isDigit = true ∨ c = '.' := by
      intro c hc
      rcases List.mem_append.mp hc with hc | hc
      · exact Or.inl (isDigit_toDigits c hc)
      rcases List.mem_cons.mp hc with rfl | hc
      · exact Or.inr rfl
      · exact Or.inl (isDigit_fractionDigits c hc)
    have hof := ofChars_point (isDigit_toDigits (n := n / goldScale))
      (isDigit_fractionDigits (n := n)) Nat.toDigits_ne_nil
    refine ⟨_, _, formatGold_fraction h hfraction, (ofText_eq_ofChars hchars).trans hof, ?_⟩
    unfold fractionDigits
    rw [val_rstripZeros hlen, ofDigitChars_six hlen, hvalue, hsum]

/-! ### What `gold` reads -/

/-- A decimal that is converted exactly: at most 28 significant digits, and no positive
    amount below one millionth. -/
def Readable (q : ℚ) : Prop :=
  WithinPrecision q ∧ (q = 0 ∨ 1 / 10 ^ 6 ≤ q)

theorem withinPrecision_zero : WithinPrecision 0 :=
  ⟨0, 0, by decide, by simp⟩

/-- A converted number is exactly the amount in millionths precisely when it is readable. -/
theorem goldAtomic_exact_iff {d : Decimal} {n : Nat} (h : goldAtomic d = .ok n) :
    d.val = (n : ℚ) / 10 ^ 6 ↔ Readable d.val := by
  obtain ⟨atomic, hmul, hval, -, -⟩ := goldAtomic_ok h
  have hscale : 0 < goldScale := by decide
  rcases fixIn_cases (by decide) hmul with ⟨hzero, hatomic⟩ | ⟨hpos, hsub, -, hsmall⟩ | ⟨hpos, -, hfix⟩
  · -- nothing is nothing
    have hcoeff : d.coeff = 0 := by
      rcases Nat.mul_eq_zero.mp hzero with hd | hs
      · exact hd
      · exact absurd hs hscale.ne'
    rw [val_of_coeff_zero hatomic] at hval
    rw [val_of_coeff_zero hcoeff, ← hval]
    simp [Readable, withinPrecision_zero]
  · -- below the range of the context: the amount is no gold, the number is positive
    have hcoeff : 0 < d.coeff := Nat.pos_of_mul_pos_right hpos
    have hdpos := val_pos hcoeff
    have hn : n = 0 := by
      have hlt : (n : ℚ) < 1 := by
        rw [← hval]
        refine hsmall.trans_lt ?_
        exact zpow_lt_one_of_neg₀ (by norm_num) (by decide)
      have : n < 1 := by exact_mod_cast hlt
      omega
    have hlow : d.val * 10 ^ 6 < 1 := by
      rw [← exactProduct_val]
      refine (val_lt_pow_adjusted _).trans_le ?_
      refine (zpow_le_zpow_right₀ (by norm_num) (Int.add_one_le_of_lt hsub)).trans ?_
      exact (zpow_lt_one_of_neg₀ (by norm_num) (by decide)).le
    constructor
    · intro heq
      rw [hn] at heq
      norm_num at heq
      exact absurd heq hdpos.ne'
    · rintro ⟨-, heq | hge⟩
      · exact absurd heq hdpos.ne'
      · norm_num at hlow hge
        linarith
  · have hcoeff : 0 < d.coeff := Nat.pos_of_mul_pos_right hpos
    have hdpos := val_pos hcoeff
    have hproduct : (atomicProduct d).val = (n : ℚ) := by
      rw [← hval, hfix]
      rfl
    have hexact := atomicProduct_val_iff hcoeff
    rw [hproduct] at hexact
    constructor
    · intro heq
      have hn : (n : ℚ) = d.val * 10 ^ 6 := by
        rw [heq]
        field_simp
      refine ⟨hexact.mp hn, Or.inr ?_⟩
      have hone : 1 ≤ n := by
        have hcast : (0 : ℚ) < n := by
          rw [hn]
          positivity
        exact_mod_cast hcast
      rw [heq]
      have hcast : (1 : ℚ) ≤ n := by exact_mod_cast hone
      gcongr
    · rintro ⟨hdigits, -⟩
      rw [hexact.mpr hdigits]
      field_simp

/-- What `gold` read from a text, it read from a number that is not negative. -/
theorem gold_text {text : List Char} {n : Nat} (h : gold (.text text) = .ok n) :
    ∃ negative d, ofText text = some (.finite negative d) ∧ (negative = true → d.coeff = 0) ∧
      goldAtomic d = .ok n := by
  unfold gold at h
  cases hof : ofText text with
  | none =>
      simp only [goldParsed, hof] at h
      cases h
  | some parsed =>
      simp only [goldParsed, hof] at h
      cases parsed with
      | finite negative d =>
          obtain ⟨hneg, h⟩ := ok_of_guard h
          refine ⟨negative, d, rfl, ?_, h⟩
          intro hnegative
          by_contra hne
          exact hneg (by simp [hnegative, hne])
      | infinite negative => cases h
      | nan => cases h

/-- A text without a sign that denotes a readable amount is read as the amount. -/
theorem goldAtomic_returns {d : Decimal} {n : Nat} (hval : d.val = (n : ℚ) / 10 ^ 6)
    (hle : n ≤ maxGoldAtomic) (hdigits : WithinPrecision d.val) : goldAtomic d = .ok n := by
  have hproduct : Decimal.val ⟨d.coeff * goldScale, d.exp + 0⟩ = (n : ℚ) := by
    rw [exactProduct_val, hval]
    field_simp
  have hread : ∀ atomic, Decimal.mulIn defaultContext d (Decimal.ofNat goldScale) = some atomic →
      atomic.val = (n : ℚ) → goldAtomic d = .ok n := by
    intro atomic hmul hatomic
    have hintegral := eq_toIntegralValue_of_integer hatomic
    have htoNat : atomic.toNat = n := by
      have := val_eq_toNat_of_integral hintegral
      rw [hatomic] at this
      exact_mod_cast this.symm
    unfold goldAtomic
    rw [hmul, goldOfProduct, hintegral, htoNat]
    simp [hle]
  rcases Nat.eq_zero_or_pos d.coeff with hzero | hpos
  · have hcoeff : d.coeff * goldScale = 0 := by
      rw [hzero, Nat.zero_mul]
    refine hread _ (if_pos hcoeff) ?_
    rw [← hproduct, exactProduct_val, val_of_coeff_zero hzero, zero_mul]
    exact val_of_coeff_zero rfl
  · have hcoeff : 0 < d.coeff * goldScale := Nat.mul_pos hpos (by decide)
    have hn : (1 : ℚ) ≤ n := by
      have hnpos : (0 : ℚ) < n := by
        rw [← hproduct]
        exact val_pos hcoeff
      exact_mod_cast hnpos
    have hlow : (-1 : Int) < Decimal.adjusted ⟨d.coeff * goldScale, d.exp + 0⟩ := by
      have hlt := val_lt_pow_adjusted ⟨d.coeff * goldScale, d.exp + 0⟩
      rw [hproduct] at hlt
      have hone := hn.trans_lt hlt
      rw [← zpow_zero (10 : ℚ)] at hone
      have := (zpow_lt_zpow_iff_right₀ (by norm_num)).mp hone
      omega
    have hhigh : Decimal.adjusted ⟨d.coeff * goldScale, d.exp + 0⟩ < 38 := by
      have hge := pow_adjusted_le_val (d := ⟨d.coeff * goldScale, d.exp + 0⟩) hcoeff
      rw [hproduct] at hge
      have hbound : (n : ℚ) < (10 : ℚ) ^ (38 : Int) := by
        have hnat : n < 10 ^ 38 := by
          unfold maxGoldAtomic at hle
          omega
        exact_mod_cast hnat
      exact (zpow_lt_zpow_iff_right₀ (by norm_num)).mp (hge.trans_lt hbound)
    have hmul : Decimal.mulIn defaultContext d (Decimal.ofNat goldScale)
        = some (atomicProduct d) := by
      refine fixIn_of_normal (by decide) hcoeff ?_ ?_
      · show (-999999 : Int) ≤ Decimal.adjusted ⟨d.coeff * goldScale, d.exp + 0⟩
        omega
      · show Decimal.adjusted ⟨d.coeff * goldScale, d.exp + 0⟩ < (999999 : Int)
        omega
    refine hread _ hmul ?_
    rw [(atomicProduct_val_iff hpos).mpr hdigits, hval]
    field_simp

/-! ### The round trips -/

/-- **Gold round trips.**  An amount within the bound is written and read back unchanged
    exactly when it has at most 28 significant digits.  A text that is accepted denotes
    exactly the amount it was read as, and the text of that amount denotes the same number,
    exactly when the number has at most 28 significant digits and is no positive number below
    a millionth. -/
theorem gold_formatGold_iff (n : Nat) (s : List Char) (k : Nat) :
    (n ≤ maxGoldAtomic →
      ((∃ text, formatGold (.int n) = .ok text ∧ gold (.text text) = .ok n) ↔
        WithinPrecision n)) ∧
    (gold (.text s) = .ok k → ∃ q, Denotes s q ∧
      ((q = (k : ℚ) / 10 ^ 6 ∧ ∃ text, formatGold (.int k) = .ok text ∧ Denotes text q) ↔
        Readable q)) := by
  constructor
  · intro hn
    obtain ⟨text, d, hformat, hof, hval⟩ := formatGold_exact hn
    have hgold : gold (.text text) = goldAtomic d := by
      simp [gold, goldParsed, hof]
    have hdigits : WithinPrecision d.val ↔ WithinPrecision n := by
      rw [hval]
      exact withinPrecision_millionths
    constructor
    · rintro ⟨text', hformat', hread⟩
      rw [hformat] at hformat'
      cases hformat'
      rw [hgold] at hread
      exact hdigits.mp ((goldAtomic_exact_iff hread).mp hval).1
    · intro hshort
      refine ⟨text, hformat, ?_⟩
      rw [hgold]
      exact goldAtomic_returns hval hn (hdigits.mpr hshort)
  · intro hread
    obtain ⟨negative, d, hof, hneg, hatomic⟩ := gold_text hread
    have hq : d.val = if negative then -d.val else d.val := by
      cases negative with
      | false => rfl
      | true =>
          rw [val_of_coeff_zero (hneg rfl)]
          simp
    refine ⟨d.val, ⟨negative, d, hof, hq⟩, ?_⟩
    have hexact := goldAtomic_exact_iff hatomic
    constructor
    · rintro ⟨heq, -⟩
      exact hexact.mp heq
    · intro hreadable
      have heq := hexact.mpr hreadable
      obtain ⟨-, -, -, hle, -⟩ := goldAtomic_ok hatomic
      obtain ⟨text, d', hformat, hof', hval'⟩ := formatGold_exact hle
      refine ⟨heq, text, hformat, false, d', hof', ?_⟩
      rw [heq, ← hval']
      rfl

theorem small_amount_comes_back :
    (∃ text, formatGold (.int 2123400) = .ok text ∧ gold (.text text) = .ok 2123400) ∧
      ∃ q, Denotes "2.1234".toList q ∧
        ((q = ((2123400 : Nat) : ℚ) / 10 ^ 6 ∧
          ∃ text, formatGold (.int (2123400 : Nat)) = .ok text ∧ Denotes text q) ↔ Readable q) :=
  ⟨((gold_formatGold_iff 2123400 "2.1234".toList 2123400).1 (by decide)).mpr
      ⟨2123400, 0, by decide, by norm_num⟩,
    (gold_formatGold_iff 2123400 "2.1234".toList 2123400).2 (by decide)⟩

/-- `10 ^ 28 + 1` millionths are written in full and read back as `10 ^ 28`. -/
theorem long_amount_comes_back_rounded :
    ¬ ((∀ n : Nat, n ≤ maxGoldAtomic →
        ∃ text, formatGold (.int n) = .ok text ∧ gold (.text text) = .ok n) ∧
      (∀ (s : List Char) (k : Nat), gold (.text s) = .ok k → Denotes s ((k : ℚ) / 10 ^ 6) ∧
        ∃ text, formatGold (.int k) = .ok text ∧ Denotes text ((k : ℚ) / 10 ^ 6))) := by
  rintro ⟨h, -⟩
  obtain ⟨text, hformat, hread⟩ := h (10 ^ 28 + 1) (by decide)
  have hwritten : formatGold (.int ((10 ^ 28 + 1 : Nat) : Int))
      = .ok "10000000000000000000000.000001".toList := by decide
  rw [hwritten] at hformat
  cases hformat
  have hback : gold (.text "10000000000000000000000.000001".toList) = .ok (10 ^ 28) := by
    decide
  rw [hback] at hread
  cases hread

end Arena402
