/-
What decimal arithmetic loses, and when it loses nothing.

Rounding to `prec` digits keeps the number exactly when the digits it drops are all
zero.  That is `fix_val_iff`, and every exactness question about a product comes down
to it.  The other facts are that comparison really compares the denoted numbers, that
`d == d.to_integral_value()` decides integrality, and that reading back what `str`
prints in positional notation gives the same coefficient and exponent.
-/
import Arena402.Lib.Decimal

namespace Py.Decimal

/-! ### Digits -/

theorem numDigits_pos (n : Nat) : 0 < numDigits n :=
  Nat.length_toDigits_pos

theorem numDigits_le_iff {n k : Nat} (hk : 0 < k) : numDigits n ≤ k ↔ n < 10 ^ k :=
  Nat.length_toDigits_le_iff (by decide) hk

theorem lt_pow_numDigits (n : Nat) : n < 10 ^ numDigits n :=
  (numDigits_le_iff (numDigits_pos n)).mp (Nat.le_refl _)

theorem pow_le_of_lt_numDigits {n k : Nat} (hk : 0 < k) (h : k < numDigits n) : 10 ^ k ≤ n := by
  by_contra hlt
  have := (numDigits_le_iff hk).mpr (Nat.lt_of_not_le hlt)
  omega

theorem numDigits_mul_pow {n : Nat} (hn : 0 < n) (j : Nat) :
    numDigits (n * 10 ^ j) = numDigits n + j := by
  have hpos := numDigits_pos n
  apply Nat.le_antisymm
  · rw [numDigits_le_iff (by omega), pow_add]
    exact Nat.mul_lt_mul_of_pos_right (lt_pow_numDigits n) (by positivity)
  · by_contra hlt
    have hle : numDigits (n * 10 ^ j) ≤ numDigits n + j - 1 := by omega
    rcases Nat.lt_or_ge 1 (numDigits n) with hone | hone
    · have hn10 : 10 ^ (numDigits n - 1) ≤ n := pow_le_of_lt_numDigits (by omega) (by omega)
      have := (numDigits_le_iff (by omega)).mp hle
      have hsplit : 10 ^ (numDigits n + j - 1) = 10 ^ (numDigits n - 1) * 10 ^ j := by
        rw [← pow_add]; congr 1; omega
      rw [hsplit] at this
      exact absurd (Nat.mul_le_mul_right _ hn10) (Nat.not_le_of_lt this)
    · -- A one-digit number: the product is at least `10 ^ j`, so has more than `j` digits.
      have hj : numDigits n = 1 := by omega
      rw [hj] at hle
      have hj0 : 0 < j := by have := numDigits_pos (n * 10 ^ j); omega
      have := (numDigits_le_iff (n := n * 10 ^ j) hj0).mp (by omega)
      have : 1 * 10 ^ j ≤ n * 10 ^ j := Nat.mul_le_mul_right _ hn
      omega

/-! ### Rounding -/

theorem roundHalfEven_le (n k : Nat) : roundHalfEven n k ≤ n / 10 ^ k + 1 := by
  unfold roundHalfEven
  simp only
  split_ifs <;> omega

/-- Rounding `k` digits away is exact when, and only when, they are zeros. -/
theorem roundHalfEven_mul_iff (n k : Nat) :
    roundHalfEven n k * 10 ^ k = n ↔ 10 ^ k ∣ n := by
  constructor
  · intro h
    exact Dvd.intro_left _ h
  · intro h
    have hmod : n % 10 ^ k = 0 := Nat.mod_eq_zero_of_dvd h
    have hpow : 0 < 10 ^ k := by positivity
    unfold roundHalfEven
    simp only [hmod, Nat.mul_zero, hpow, if_true]
    exact Nat.div_mul_cancel h

theorem val_shift (c : Nat) (e : Int) (k : Nat) :
    val ⟨c, e + k⟩ = ((c * 10 ^ k : Nat) : ℚ) * (10 : ℚ) ^ e := by
  unfold val
  rw [zpow_add₀ (by norm_num), zpow_natCast]
  push_cast
  ring

/-- A rounded coefficient that needs one digit too many is a power of ten, so the digit
    dropped for it is a zero. -/
theorem carry_dvd {prec n : Nat} (hprec : 0 < prec) (h : prec < numDigits n)
    (hc : prec < numDigits (roundHalfEven n (numDigits n - prec))) :
    10 ∣ roundHalfEven n (numDigits n - prec) := by
  have hlt : n / 10 ^ (numDigits n - prec) < 10 ^ prec := by
    rw [Nat.div_lt_iff_lt_mul (by positivity), ← pow_add]
    have : prec + (numDigits n - prec) = numDigits n := by omega
    rw [this]
    exact lt_pow_numDigits n
  have hge := pow_le_of_lt_numDigits hprec hc
  have hle := roundHalfEven_le n (numDigits n - prec)
  have heq : roundHalfEven n (numDigits n - prec) = 10 ^ prec := by omega
  rw [heq]
  exact dvd_pow_self 10 (by omega)

theorem fix_of_le {prec : Nat} {d : Decimal} (h : numDigits d.coeff ≤ prec) : fix prec d = d := by
  have hk : numDigits d.coeff - prec = 0 := by omega
  simp [fix, hk]

/-- What a result becomes when digits are dropped, read as a number. -/
theorem fix_val_of_lt {prec : Nat} (hprec : 0 < prec) {d : Decimal}
    (h : prec < numDigits d.coeff) :
    (fix prec d).val
      = ((roundHalfEven d.coeff (numDigits d.coeff - prec)
          * 10 ^ (numDigits d.coeff - prec) : Nat) : ℚ) * (10 : ℚ) ^ d.exp := by
  unfold fix
  simp only
  rw [if_neg (by omega)]
  split_ifs with hc
  · obtain ⟨m, hm⟩ := carry_dvd hprec h hc
    have hexp : d.exp + ((numDigits d.coeff - prec : Nat) : Int) + 1
        = d.exp + ((numDigits d.coeff - prec + 1 : Nat) : Int) := by push_cast; ring
    rw [hexp, val_shift, hm, Nat.mul_div_cancel_left m (by decide)]
    congr 2
    rw [pow_succ]
    ring
  · rw [val_shift]

/-- **Rounding keeps the number exactly when the dropped digits are zeros.** -/
theorem fix_val_iff {prec : Nat} (hprec : 0 < prec) (d : Decimal) :
    (fix prec d).val = d.val ↔ 10 ^ (numDigits d.coeff - prec) ∣ d.coeff := by
  rcases Nat.lt_or_ge prec (numDigits d.coeff) with h | h
  · rw [fix_val_of_lt hprec h, val, mul_left_inj' (zpow_ne_zero _ (by norm_num)),
      Nat.cast_inj]
    exact roundHalfEven_mul_iff _ _
  · have hk : numDigits d.coeff - prec = 0 := by omega
    simp [fix, hk]

/-- Having at most `n` significant digits is having only zeros beyond the first `n`. -/
theorem hasDigits_iff {n : Nat} (hn : 0 < n) (d : Decimal) :
    HasDigits n d ↔ 10 ^ (numDigits d.coeff - n) ∣ d.coeff := by
  constructor
  · rintro ⟨c, e, hc, hval⟩
    rcases Nat.lt_or_ge n (numDigits d.coeff) with h | h
    · have hbig : 10 ^ n ≤ d.coeff := pow_le_of_lt_numDigits hn h
      -- A longer coefficient for the same number means a smaller exponent.
      have hexp : d.exp ≤ e := by
        by_contra hlt
        have hpow : (10 : ℚ) ^ e ≤ (10 : ℚ) ^ d.exp :=
          zpow_le_zpow_right₀ (by norm_num) (by omega)
        have hcoeff : (c : ℚ) < d.coeff := by exact_mod_cast Nat.lt_of_lt_of_le hc hbig
        have hpos : (0 : ℚ) < (10 : ℚ) ^ d.exp := zpow_pos (by norm_num) _
        have : d.val < d.val := by
          calc d.val = c * (10 : ℚ) ^ e := hval
            _ ≤ c * (10 : ℚ) ^ d.exp := by gcongr
            _ < d.coeff * (10 : ℚ) ^ d.exp := by gcongr
        exact lt_irrefl _ this
      obtain ⟨j, rfl⟩ : ∃ j : Nat, e = d.exp + j := ⟨(e - d.exp).toNat, by omega⟩
      have hcoeff : d.coeff = c * 10 ^ j := by
        have hshift := val_shift c d.exp j
        rw [val] at hval hshift
        simp only at hshift
        rw [hshift] at hval
        have hpos : (10 : ℚ) ^ d.exp ≠ 0 := zpow_ne_zero _ (by norm_num)
        exact_mod_cast mul_right_cancel₀ hpos hval
      have hle : numDigits d.coeff ≤ n + j := by
        rw [numDigits_le_iff (by omega), hcoeff, pow_add]
        exact Nat.mul_lt_mul_of_pos_right hc (by positivity)
      rw [hcoeff]
      refine Dvd.dvd.mul_left (pow_dvd_pow 10 ?_) c
      rw [← hcoeff]
      omega
    · rw [Nat.sub_eq_zero_of_le h]
      simp
  · rintro ⟨c, hc⟩
    refine ⟨c, d.exp + (numDigits d.coeff - n : Nat), ?_, ?_⟩
    · rcases Nat.lt_or_ge n (numDigits d.coeff) with h | h
      · have hlt := lt_pow_numDigits d.coeff
        have hsplit : numDigits d.coeff = (numDigits d.coeff - n) + n := by omega
        rw [hsplit, pow_add] at hlt
        conv at hlt => lhs; rw [hc]
        exact Nat.lt_of_mul_lt_mul_left hlt
      · rw [Nat.sub_eq_zero_of_le h, pow_zero, one_mul] at hc
        rw [← hc]
        exact (numDigits_le_iff hn).mp h
    · have hshift := val_shift c d.exp (numDigits d.coeff - n)
      rw [val] at hshift
      simp only at hshift
      rw [hshift, val]
      congr 2
      rw [Nat.mul_comm]
      exact hc

/-! ### Rounding keeps the order -/

theorem le_roundHalfEven (n k : Nat) : n / 10 ^ k ≤ roundHalfEven n k := by
  unfold roundHalfEven
  simp only
  split_ifs <;> omega

/-- Rounding `k` digits away does not pass a multiple of `10 ^ k`. -/
theorem roundHalfEven_le_of_le {n k m : Nat} (h : n ≤ m * 10 ^ k) : roundHalfEven n k ≤ m := by
  have hpow : 0 < 10 ^ k := by positivity
  have hq : n / 10 ^ k ≤ m := by
    rw [Nat.div_le_iff_le_mul_add_pred hpow]
    have : 10 ^ k * m = m * 10 ^ k := Nat.mul_comm _ _
    omega
  rcases Nat.lt_or_ge (n / 10 ^ k) m with hlt | hge
  · exact (roundHalfEven_le n k).trans hlt
  · -- nothing is dropped from a multiple
    have heq : n / 10 ^ k = m := Nat.le_antisymm hq hge
    have hdiv := Nat.div_add_mod n (10 ^ k)
    rw [heq, Nat.mul_comm] at hdiv
    have hdvd : 10 ^ k ∣ n := Nat.dvd_of_mod_eq_zero (by omega)
    have hexact := (roundHalfEven_mul_iff n k).mpr hdvd
    exact Nat.le_of_mul_le_mul_right (hexact.le.trans h) hpow

theorem hasDigits_of_le {n : Nat} {d : Decimal} (h : d.coeff < 10 ^ n) : HasDigits n d :=
  ⟨d.coeff, d.exp, h, rfl⟩

/-- A rounded result has at most `prec` digits. -/
theorem hasDigits_fix {prec : Nat} (hprec : 0 < prec) (d : Decimal) : HasDigits prec (fix prec d) := by
  rcases Nat.lt_or_ge prec (numDigits d.coeff) with h | h
  · unfold fix
    simp only
    rw [if_neg (by omega)]
    split_ifs with hc
    · refine hasDigits_of_le ?_
      have hlt : d.coeff / 10 ^ (numDigits d.coeff - prec) < 10 ^ prec := by
        rw [Nat.div_lt_iff_lt_mul (by positivity), ← pow_add]
        have : prec + (numDigits d.coeff - prec) = numDigits d.coeff := by omega
        rw [this]
        exact lt_pow_numDigits d.coeff
      have hle := roundHalfEven_le d.coeff (numDigits d.coeff - prec)
      show roundHalfEven d.coeff (numDigits d.coeff - prec) / 10 < 10 ^ prec
      have hpow : 0 < 10 ^ prec := by positivity
      omega
    · exact hasDigits_of_le ((numDigits_le_iff hprec).mp (not_lt.mp hc))
  · rw [fix_of_le h]
    exact hasDigits_of_le ((numDigits_le_iff hprec).mp h)

theorem scaled_le_iff (a b : Nat) (m : Int) :
    (a : ℚ) * (10 : ℚ) ^ m ≤ b * (10 : ℚ) ^ m ↔ a ≤ b := by
  rw [mul_le_mul_iff_left₀ (zpow_pos (by norm_num) m), Nat.cast_le]

/-- A number of at most `prec` digits is below all numbers with as many digits that end at some
    power of ten, or it is a multiple of that power. -/
theorem HasDigits.below_or_multiple {prec : Nat} (hprec : 0 < prec) {x : Decimal}
    (hx : HasDigits prec x) (k : Nat) (m : Int) :
    x.val < ((10 ^ (prec - 1) * 10 ^ k : Nat) : ℚ) * (10 : ℚ) ^ m ∨
      ∃ n : Nat, x.val = ((n * 10 ^ k : Nat) : ℚ) * (10 : ℚ) ^ m := by
  obtain ⟨c, e, hc, hval⟩ := hx
  have hten : (0 : ℚ) < 10 := by norm_num
  rcases lt_or_ge e (m + k) with hfine | hcoarse
  · refine Or.inl ?_
    have hc' : (c : ℚ) < (10 : ℚ) ^ prec := by exact_mod_cast hc
    have hpow : (10 : ℚ) ^ e ≤ (10 : ℚ) ^ (m + k - 1) :=
      zpow_le_zpow_right₀ (by norm_num) (by omega)
    calc x.val = c * (10 : ℚ) ^ e := hval
      _ < (10 : ℚ) ^ prec * (10 : ℚ) ^ e := mul_lt_mul_of_pos_right hc' (zpow_pos hten e)
      _ ≤ (10 : ℚ) ^ prec * (10 : ℚ) ^ (m + k - 1) :=
          mul_le_mul_of_nonneg_left hpow (by positivity)
      _ = ((10 ^ (prec - 1) * 10 ^ k : Nat) : ℚ) * (10 : ℚ) ^ m := by
          push_cast
          rw [← zpow_natCast (10 : ℚ) prec, ← zpow_natCast (10 : ℚ) (prec - 1),
            ← zpow_natCast (10 : ℚ) k, ← zpow_add₀ hten.ne', ← zpow_add₀ hten.ne',
            ← zpow_add₀ hten.ne']
          congr 1
          omega
  · refine Or.inr ⟨c * 10 ^ (e - (m + k)).toNat, ?_⟩
    have hexp : e = m + ((k + (e - (m + k)).toNat : Nat) : Int) := by omega
    rw [hval, hexp, zpow_add₀ hten.ne', zpow_natCast, pow_add, ← hexp]
    push_cast
    ring

/-- The digits that are kept are `prec` many. -/
theorem leading_le {prec : Nat} (hprec : 0 < prec) {d : Decimal} (h : prec < numDigits d.coeff) :
    10 ^ (prec - 1) ≤ d.coeff / 10 ^ (numDigits d.coeff - prec) := by
  rw [Nat.le_div_iff_mul_le (by positivity), ← pow_add]
  exact pow_le_of_lt_numDigits (by omega) (by omega)

/-- Rounding does not pass a number that can be written with `prec` digits. -/
theorem fix_val_le {prec : Nat} (hprec : 0 < prec) {d x : Decimal} (hx : HasDigits prec x)
    (h : d.val ≤ x.val) : (fix prec d).val ≤ x.val := by
  rcases Nat.lt_or_ge prec (numDigits d.coeff) with hlong | hshort
  · rcases hx.below_or_multiple hprec (numDigits d.coeff - prec) d.exp with hlow | ⟨n, hn⟩
    · have hleading := (Nat.le_div_iff_mul_le (by positivity)).mp (leading_le hprec hlong)
      exact absurd (hlow.trans_le ((scaled_le_iff _ _ d.exp).mpr hleading)) (not_lt.mpr h)
    · rw [hn] at h ⊢
      have hcoeff : d.coeff ≤ n * 10 ^ (numDigits d.coeff - prec) := (scaled_le_iff _ _ _).mp h
      rw [fix_val_of_lt hprec hlong, scaled_le_iff]
      exact Nat.mul_le_mul_right _ (roundHalfEven_le_of_le hcoeff)
  · rw [fix_of_le hshort]
    exact h

/-- Rounding does not pass a number of at most `prec` digits from above either. -/
theorem le_fix_val {prec : Nat} (hprec : 0 < prec) {d x : Decimal} (hx : HasDigits prec x)
    (h : x.val ≤ d.val) : x.val ≤ (fix prec d).val := by
  rcases Nat.lt_or_ge prec (numDigits d.coeff) with hlong | hshort
  · have hfloor := le_roundHalfEven d.coeff (numDigits d.coeff - prec)
    rw [fix_val_of_lt hprec hlong]
    rcases hx.below_or_multiple hprec (numDigits d.coeff - prec) d.exp with hlow | ⟨n, hn⟩
    · have hround := Nat.mul_le_mul_right (10 ^ (numDigits d.coeff - prec))
        ((leading_le hprec hlong).trans hfloor)
      exact hlow.le.trans ((scaled_le_iff _ _ d.exp).mpr hround)
    · rw [hn] at h ⊢
      have hcoeff : n * 10 ^ (numDigits d.coeff - prec) ≤ d.coeff := (scaled_le_iff _ _ _).mp h
      rw [scaled_le_iff]
      exact Nat.mul_le_mul_right _
        (((Nat.le_div_iff_mul_le (by positivity)).mpr hcoeff).trans hfloor)
  · rw [fix_of_le hshort]
    exact h

/-- Rounding keeps a positive number positive. -/
theorem fix_val_pos {prec : Nat} (hprec : 0 < prec) {d : Decimal} (h : 0 < d.coeff) :
    0 < (fix prec d).val := by
  have hexp : (0 : ℚ) < (10 : ℚ) ^ d.exp := zpow_pos (by norm_num) _
  rcases Nat.lt_or_ge prec (numDigits d.coeff) with hlong | hshort
  · rw [fix_val_of_lt hprec hlong]
    have hq : 0 < roundHalfEven d.coeff (numDigits d.coeff - prec) :=
      Nat.lt_of_lt_of_le (by positivity) ((leading_le hprec hlong).trans (le_roundHalfEven _ _))
    have hprod : 0 < roundHalfEven d.coeff (numDigits d.coeff - prec) *
        10 ^ (numDigits d.coeff - prec) := Nat.mul_pos hq (by positivity)
    exact mul_pos (by exact_mod_cast hprod) hexp
  · rw [fix_of_le hshort, val]
    exact mul_pos (by exact_mod_cast h) hexp

/-! ### Comparison -/

theorem val_scaledTo {d : Decimal} {m : Int} (h : m ≤ d.exp) :
    d.val = (d.scaledTo m : ℚ) * (10 : ℚ) ^ m := by
  have hsplit : d = ⟨d.coeff, m + ((d.exp - m).toNat : Int)⟩ := by
    cases d
    simp only [Decimal.mk.injEq, true_and]
    simp only at h
    omega
  conv_lhs => rw [hsplit]
  rw [val_shift]
  rfl

theorem eq_iff (a b : Decimal) : a.eq b = true ↔ a.val = b.val := by
  unfold eq
  rw [decide_eq_true_iff, val_scaledTo (min_le_left a.exp b.exp),
    val_scaledTo (min_le_right a.exp b.exp), mul_left_inj' (zpow_ne_zero _ (by norm_num)),
    Nat.cast_inj]

theorem lt_iff (a b : Decimal) : a.lt b = true ↔ a.val < b.val := by
  unfold lt
  rw [decide_eq_true_iff, val_scaledTo (min_le_left a.exp b.exp),
    val_scaledTo (min_le_right a.exp b.exp),
    mul_lt_mul_iff_left₀ (zpow_pos (by norm_num : (0 : ℚ) < 10) _), Nat.cast_lt]

/-! ### Integers -/

theorem val_of_nonneg {d : Decimal} (h : 0 ≤ d.exp) : d.val = (d.toNat : ℚ) := by
  have hsplit : d = ⟨d.coeff, 0 + (d.exp.toNat : Int)⟩ := by
    cases d
    simp only [Decimal.mk.injEq, true_and]
    simp only at h
    omega
  conv_lhs => rw [hsplit]
  rw [val_shift, toNat, if_pos h]
  simp

/-- A number that equals its own rounding to an integer is the integer `int` returns. -/
theorem val_eq_toNat_of_integral {d : Decimal} (h : d.eq d.toIntegralValue = true) :
    d.val = (d.toNat : ℚ) := by
  by_cases hexp : 0 ≤ d.exp
  · exact val_of_nonneg hexp
  have hval := (eq_iff _ _).mp h
  rw [toIntegralValue, if_neg hexp] at hval
  set k := (-d.exp).toNat with hk
  have hexpk : d.exp = -(k : Int) := by omega
  have hround : val ⟨roundHalfEven d.coeff k, 0⟩ = (roundHalfEven d.coeff k : ℚ) := by
    simp [val]
  have hpow : (10 : ℚ) ^ k ≠ 0 := pow_ne_zero _ (by norm_num)
  have hcoeff : roundHalfEven d.coeff k * 10 ^ k = d.coeff := by
    rw [hround, val, hexpk, zpow_neg, zpow_natCast, ← div_eq_mul_inv, div_eq_iff hpow] at hval
    exact_mod_cast hval.symm
  have hquot : d.coeff / 10 ^ k = roundHalfEven d.coeff k := by
    conv_lhs => rw [← hcoeff]
    exact Nat.mul_div_cancel _ (by positivity)
  rw [hval, hround, toNat, if_neg hexp, ← hk, hquot]

/-- The coefficient of an integer ends in as many zeros as it has decimal places. -/
theorem coeff_of_integer {d : Decimal} {n : Nat} (hval : d.val = n) {k : Nat}
    (hexp : d.exp = -(k : Int)) : d.coeff = n * 10 ^ k := by
  rw [val, hexp, zpow_neg, zpow_natCast, ← div_eq_mul_inv, div_eq_iff (by positivity)] at hval
  exact_mod_cast hval

/-- An integer equals its own rounding to an integer. -/
theorem eq_toIntegralValue_of_integer {d : Decimal} {n : Nat} (hval : d.val = n) :
    d.eq d.toIntegralValue = true := by
  rw [eq_iff]
  by_cases hexp : 0 ≤ d.exp
  · rw [toIntegralValue, if_pos hexp]
  · obtain ⟨k, hk⟩ : ∃ k : Nat, d.exp = -(k : Int) := ⟨(-d.exp).toNat, by omega⟩
    have hcoeff := coeff_of_integer hval hk
    have hround : roundHalfEven d.coeff k = n := by
      have hexact := (roundHalfEven_mul_iff d.coeff k).mpr ⟨n, by rw [hcoeff, Nat.mul_comm]⟩
      rw [hcoeff] at hexact ⊢
      exact Nat.eq_of_mul_eq_mul_right (by positivity) hexact
    have htoNat : (-d.exp).toNat = k := by omega
    rw [toIntegralValue, if_neg hexp, htoNat, hround, hval]
    simp [val]

/-- Rounding an integer gives an integer. -/
theorem fix_integer {prec : Nat} (hprec : 0 < prec) {d : Decimal} {n : Nat} (hval : d.val = n) :
    ∃ m : Nat, (fix prec d).val = m := by
  rcases Nat.lt_or_ge prec (numDigits d.coeff) with hlong | hshort
  · by_cases hexact : (10 : Nat) ^ (numDigits d.coeff - prec) ∣ d.coeff
    · exact ⟨n, ((fix_val_iff hprec d).mpr hexact).trans hval⟩
    · -- more digits are dropped than there are decimal places
      have hexp : -((numDigits d.coeff - prec : Nat) : Int) ≤ d.exp := by
        by_contra hsmall
        obtain ⟨k, hk⟩ : ∃ k : Nat, d.exp = -(k : Int) := ⟨(-d.exp).toNat, by omega⟩
        have hdvd : 10 ^ (numDigits d.coeff - prec) ∣ 10 ^ k := pow_dvd_pow 10 (by omega)
        refine hexact ?_
        rw [coeff_of_integer hval hk] at hexact ⊢
        rw [coeff_of_integer hval hk] at hdvd
        exact Dvd.dvd.mul_left hdvd n
      obtain ⟨j, hj⟩ : ∃ j : Nat, ((numDigits d.coeff - prec : Nat) : Int) + d.exp = j :=
        ⟨(((numDigits d.coeff - prec : Nat) : Int) + d.exp).toNat, by omega⟩
      refine ⟨roundHalfEven d.coeff (numDigits d.coeff - prec) * 10 ^ j, ?_⟩
      rw [fix_val_of_lt hprec hlong]
      push_cast
      rw [mul_assoc, ← zpow_natCast (10 : ℚ) (numDigits d.coeff - prec),
        ← zpow_add₀ (by norm_num), hj, zpow_natCast]
  · have hk : numDigits d.coeff - prec = 0 := by omega
    exact ⟨n, by simpa [fix, hk] using hval⟩

/-! ### Results in a context -/

theorem val_pos {d : Decimal} (hpos : 0 < d.coeff) : 0 < d.val := by
  have hcoeff : (0 : ℚ) < d.coeff := by exact_mod_cast hpos
  exact mul_pos hcoeff (zpow_pos (by norm_num) _)

theorem val_of_coeff_zero {d : Decimal} (h : d.coeff = 0) : d.val = 0 := by
  unfold val
  rw [h]
  simp

theorem pow_adjusted_le_val {d : Decimal} (hpos : 0 < d.coeff) :
    (10 : ℚ) ^ d.adjusted ≤ d.val := by
  have hdigits := numDigits_pos d.coeff
  have hle : 10 ^ (numDigits d.coeff - 1) ≤ d.coeff := by
    rcases Nat.lt_or_ge 1 (numDigits d.coeff) with hone | hone
    · exact pow_le_of_lt_numDigits (by omega) (by omega)
    · have hzero : numDigits d.coeff - 1 = 0 := by omega
      rw [hzero]
      exact hpos
  have hcast : (10 : ℚ) ^ (numDigits d.coeff - 1) ≤ d.coeff := by exact_mod_cast hle
  have hexp : (0 : ℚ) < (10 : ℚ) ^ d.exp := zpow_pos (by norm_num) _
  calc (10 : ℚ) ^ d.adjusted
      = (10 : ℚ) ^ (numDigits d.coeff - 1) * (10 : ℚ) ^ d.exp := by
        rw [← zpow_natCast (10 : ℚ) (numDigits d.coeff - 1), ← zpow_add₀ (by norm_num)]
        congr 1
        unfold adjusted
        omega
    _ ≤ d.val := mul_le_mul_of_nonneg_right hcast hexp.le

theorem val_lt_pow_adjusted (d : Decimal) : d.val < (10 : ℚ) ^ (d.adjusted + 1) := by
  have hcast : (d.coeff : ℚ) < (10 : ℚ) ^ numDigits d.coeff := by
    exact_mod_cast lt_pow_numDigits d.coeff
  have hexp : (0 : ℚ) < (10 : ℚ) ^ d.exp := zpow_pos (by norm_num) _
  calc d.val < (10 : ℚ) ^ numDigits d.coeff * (10 : ℚ) ^ d.exp :=
        mul_lt_mul_of_pos_right hcast hexp
    _ = (10 : ℚ) ^ (d.adjusted + 1) := by
        rw [← zpow_natCast (10 : ℚ) (numDigits d.coeff), ← zpow_add₀ (by norm_num)]
        congr 1
        unfold adjusted
        omega

/-- A quotient by a power of ten has the digits that are left. -/
theorem div_pow_lt {n k j : Nat} (h : numDigits n ≤ k + j) : n / 10 ^ k < 10 ^ j := by
  rw [Nat.div_lt_iff_lt_mul (by positivity), ← pow_add]
  have hlt := lt_pow_numDigits n
  exact hlt.trans_le (Nat.pow_le_pow_right (by decide) (by omega))

/-- Rounding carries into one digit more at most. -/
theorem adjusted_fix_le {prec : Nat} (hprec : 0 < prec) (d : Decimal) :
    (fix prec d).adjusted ≤ d.adjusted + 1 := by
  rcases Nat.lt_or_ge prec (numDigits d.coeff) with hlong | hshort
  · have hquot : d.coeff / 10 ^ (numDigits d.coeff - prec) < 10 ^ prec := div_pow_lt (by omega)
    have hround := roundHalfEven_le d.coeff (numDigits d.coeff - prec)
    unfold fix adjusted
    dsimp only
    rw [if_neg (by omega)]
    split_ifs with hcarry
    · have hdigits : numDigits (roundHalfEven d.coeff (numDigits d.coeff - prec) / 10) ≤ prec := by
        rw [numDigits_le_iff hprec]
        have hpow : 0 < 10 ^ prec := by positivity
        omega
      dsimp only
      omega
    · dsimp only
      omega
  · have hk : numDigits d.coeff - prec = 0 := by omega
    have hfix : fix prec d = d := by simp [fix, hk]
    rw [hfix]
    omega

section Context

variable {ctx : Context} {d r : Decimal}

/-- Away from the limits a context only rounds. -/
theorem fixIn_of_normal (hprec : 0 < ctx.prec) (hpos : 0 < d.coeff) (hmin : ctx.emin ≤ d.adjusted)
    (hmax : d.adjusted < ctx.emax) : fixIn ctx d = some (fix ctx.prec d) := by
  have hle := adjusted_fix_le hprec d
  unfold fixIn
  rw [if_neg (by omega), if_neg (by omega), if_neg (by omega)]
  dsimp only
  rw [if_neg (by omega)]

/-- The three ways a context finishes a result. -/
theorem fixIn_cases (hprec : 0 < ctx.prec) (h : fixIn ctx d = some r) :
    (d.coeff = 0 ∧ r.coeff = 0) ∨
    (0 < d.coeff ∧ d.adjusted < ctx.emin ∧ r.coeff ≤ 10 ^ (ctx.prec - 1) ∧
      r.val ≤ (10 : ℚ) ^ ctx.emin) ∨
    (0 < d.coeff ∧ ctx.emin ≤ d.adjusted ∧ r = fix ctx.prec d) := by
  unfold fixIn at h
  split_ifs at h with hzero hover hsub htiny
  · cases h
    exact Or.inl ⟨hzero, rfl⟩
  · -- digits are rounded away: what is left has fewer than `prec` of them
    cases h
    have hquot : d.coeff / 10 ^ (ctx.etiny - d.exp).toNat < 10 ^ (ctx.prec - 1) := by
      refine div_pow_lt ?_
      unfold adjusted at hsub
      unfold Context.etiny at htiny ⊢
      omega
    have hround : roundHalfEven d.coeff (ctx.etiny - d.exp).toNat ≤ 10 ^ (ctx.prec - 1) :=
      (roundHalfEven_le _ _).trans hquot
    refine Or.inr (Or.inl ⟨Nat.pos_of_ne_zero hzero, hsub, hround, ?_⟩)
    have hcast : (roundHalfEven d.coeff (ctx.etiny - d.exp).toNat : ℚ)
        ≤ (10 : ℚ) ^ (ctx.prec - 1) := by exact_mod_cast hround
    have htens : (0 : ℚ) < (10 : ℚ) ^ ctx.etiny := zpow_pos (by norm_num) _
    calc val ⟨roundHalfEven d.coeff (ctx.etiny - d.exp).toNat, ctx.etiny⟩
        ≤ (10 : ℚ) ^ (ctx.prec - 1) * (10 : ℚ) ^ ctx.etiny :=
          mul_le_mul_of_nonneg_right hcast htens.le
      _ = (10 : ℚ) ^ ctx.emin := by
          rw [← zpow_natCast (10 : ℚ) (ctx.prec - 1), ← zpow_add₀ (by norm_num)]
          congr 1
          unfold Context.etiny
          omega
  · cases h
    have hdigits : numDigits d.coeff ≤ ctx.prec - 1 := by
      unfold adjusted at hsub
      unfold Context.etiny at htiny
      omega
    have hsmall : d.coeff ≤ 10 ^ (ctx.prec - 1) :=
      (lt_pow_numDigits d.coeff).le.trans (Nat.pow_le_pow_right (by decide) hdigits)
    have hval : d.val ≤ (10 : ℚ) ^ ctx.emin :=
      (val_lt_pow_adjusted d).le.trans (zpow_le_zpow_right₀ (by norm_num) (by omega))
    exact Or.inr (Or.inl ⟨Nat.pos_of_ne_zero hzero, hsub, hsmall, hval⟩)
  · dsimp only at h
    split_ifs at h with hcarry
    cases h
    exact Or.inr (Or.inr ⟨Nat.pos_of_ne_zero hzero, not_lt.mp hsub, rfl⟩)

/-- A finished result has at most `prec` digits. -/
theorem hasDigits_fixIn (hprec : 0 < ctx.prec) (h : fixIn ctx d = some r) :
    HasDigits ctx.prec r := by
  have hpow : (10 : Nat) ^ (ctx.prec - 1) < 10 ^ ctx.prec :=
    Nat.pow_lt_pow_right (by decide) (by omega)
  rcases fixIn_cases hprec h with ⟨-, hzero⟩ | ⟨-, -, hsmall, -⟩ | ⟨-, -, rfl⟩
  · refine hasDigits_of_le ?_
    rw [hzero]
    positivity
  · exact hasDigits_of_le (hsmall.trans_lt hpow)
  · exact hasDigits_fix hprec d

end Context

/-! ### Reading back what is printed -/

theorem ofDigitChars_replicate_zero (k : Nat) (cs : List Char) :
    Nat.ofDigitChars 10 (List.replicate k '0' ++ cs) 0 = Nat.ofDigitChars 10 cs 0 := by
  induction k with
  | zero => simp
  | succ k ih =>
      rw [List.replicate_succ, List.cons_append]
      simpa [Nat.ofDigitChars] using ih

theorem span_digits {cs rest : List Char} (h : ∀ c ∈ cs, c.isDigit = true)
    (hrest : ∀ c ∈ rest.head?, c.isDigit = false) :
    (cs ++ rest).span Char.isDigit = (cs, rest) := by
  induction cs with
  | nil =>
      cases rest with
      | nil => rfl
      | cons c tail =>
          have hc := hrest c (by simp)
          simp [List.span, List.span.loop, hc]
  | cons c tail ih =>
      have hc := h c (by simp)
      have := ih fun x hx => h x (by simp [hx])
      rw [List.span_eq_takeWhile_dropWhile] at this ⊢
      simp only [Prod.mk.injEq] at this
      simp [hc, this.1, this.2]

theorem span_digits_all {cs : List Char} (h : ∀ c ∈ cs, c.isDigit = true) :
    cs.span Char.isDigit = (cs, []) := by
  have hspan : (cs ++ []).span Char.isDigit = (cs, []) := span_digits h (by simp)
  rwa [List.append_nil] at hspan

theorem isDigit_toDigits {n : Nat} : ∀ c ∈ Nat.toDigits 10 n, c.isDigit = true :=
  fun _ hc => Nat.isDigit_of_mem_toDigits (by decide) (by decide) hc

/-- A numeral is below the power of ten of its length. -/
theorem ofDigitChars_lt {cs : List Char} (h : ∀ c ∈ cs, c.isDigit = true) :
    Nat.ofDigitChars 10 cs 0 < 10 ^ cs.length := by
  induction cs with
  | nil => simp
  | cons c rest ih =>
      have hc : 48 ≤ c.toNat ∧ c.toNat ≤ 57 := Char.isDigit_iff_toNat.mp (h c (by simp))
      have hrest := ih fun x hx => h x (by simp [hx])
      rw [Nat.ofDigitChars_cons, Nat.ofDigitChars_eq_ofDigitChars_zero, List.length_cons, pow_succ]
      have hdigit : 10 * 0 + (c.toNat - '0'.toNat) ≤ 9 := by
        show 10 * 0 + (c.toNat - 48) ≤ 9
        omega
      have hmul := Nat.mul_le_mul_left (10 ^ rest.length) hdigit
      omega

/-- A text made of digits and a point is not changed by `strip` or by dropping `_`. -/
theorem strip_filter_eq {cs : List Char} (h : ∀ c ∈ cs, c.isDigit = true ∨ c = '.') :
    (strip cs).filter (· ≠ '_') = cs := by
  have hspace : ∀ c ∈ cs, isSpace c = false := by
    intro c hc
    rcases h c hc with hd | rfl
    · have hrange : 48 ≤ c.toNat ∧ c.toNat ≤ 57 := Char.isDigit_iff_toNat.mp hd
      simp only [isSpace, Bool.or_eq_false_iff, Bool.and_eq_false_iff, decide_eq_false_iff_not]
      omega
    · decide
  rw [strip, trim_eq_self hspace, List.filter_eq_self]
  intro c hc
  rcases h c hc with hd | rfl
  · have : c ≠ '_' := by rintro rfl; simp at hd
    simpa using this
  · decide

theorem parseExponent_nil : parseExponent [] = some 0 := rfl

/-- The characters of a positional rendering. -/
theorem render_chars {d : Decimal} {dotplace : Int} :
    ∀ c ∈ render d dotplace, c.isDigit = true ∨ c = '.' := by
  have hzero : ∀ k, ∀ c ∈ List.replicate k '0', c.isDigit = true := by
    intro k c hc
    rw [(List.mem_replicate.mp hc).2]
    decide
  intro c hc
  unfold render at hc
  simp only at hc
  split_ifs at hc
  · rcases List.mem_cons.mp hc with rfl | hc
    · exact Or.inl (by decide)
    rcases List.mem_cons.mp hc with rfl | hc
    · exact Or.inr rfl
    rcases List.mem_append.mp hc with hc | hc
    · exact Or.inl (hzero _ c hc)
    · exact Or.inl (isDigit_toDigits c hc)
  · rcases List.mem_append.mp hc with hc | hc
    · exact Or.inl (isDigit_toDigits c hc)
    · exact Or.inl (hzero _ c hc)
  · rcases List.mem_append.mp hc with hc | hc
    · exact Or.inl (isDigit_toDigits c (List.mem_of_mem_take hc))
    rcases List.mem_cons.mp hc with rfl | hc
    · exact Or.inr rfl
    · exact Or.inl (isDigit_toDigits c (List.mem_of_mem_drop hc))

/-- A numeral split at its point is read as the digits joined, scaled by the fraction. -/
theorem parseUnsigned_point {int frac : List Char} (hint : ∀ c ∈ int, c.isDigit = true)
    (hfrac : ∀ c ∈ frac, c.isDigit = true) (hne : int ≠ []) :
    parseUnsigned (int ++ '.' :: frac)
      = some ⟨Nat.ofDigitChars 10 (int ++ frac) 0, -(frac.length : Int)⟩ := by
  have hspan : (int ++ '.' :: frac).span Char.isDigit = (int, '.' :: frac) :=
    span_digits hint (by simp)
  have hspan2 : frac.span Char.isDigit = (frac, []) := by
    exact span_digits_all hfrac
  have hempty : int.isEmpty = false := by simpa using hne
  unfold parseUnsigned
  simp only [hspan, spanFraction, if_true, hspan2, hempty, Bool.false_and, Bool.false_eq_true,
    if_false, parseExponent_nil, Option.map_some, zero_sub]

theorem parseUnsigned_int {int : List Char} (hint : ∀ c ∈ int, c.isDigit = true)
    (hne : int ≠ []) :
    parseUnsigned int = some ⟨Nat.ofDigitChars 10 int 0, 0⟩ := by
  have hspan : int.span Char.isDigit = (int, []) := by
    exact span_digits_all hint
  have hempty : int.isEmpty = false := by simpa using hne
  unfold parseUnsigned
  simp only [hspan, spanFraction, hempty, Bool.false_and, Bool.false_eq_true, if_false,
    parseExponent_nil, Option.map_some, List.append_nil, List.length_nil, Nat.cast_zero, sub_self]

/-- Positional notation determines the coefficient and the exponent. -/
theorem parseUnsigned_render {d : Decimal} (hexp : d.exp ≤ 0) :
    parseUnsigned (render d d.leftdigits) = some d := by
  have hlen : (Nat.toDigits 10 d.coeff).length = numDigits d.coeff := rfl
  have hcoeff : Nat.ofDigitChars 10 (Nat.toDigits 10 d.coeff) 0 = d.coeff :=
    Nat.ofDigitChars_ten_toDigits
  unfold render
  simp only [hlen]
  split_ifs with hdot hfull
  · rw [show '0' :: '.' :: (List.replicate (-d.leftdigits).toNat '0' ++ Nat.toDigits 10 d.coeff)
        = ['0'] ++ '.' :: (List.replicate (-d.leftdigits).toNat '0' ++ Nat.toDigits 10 d.coeff)
        from rfl, parseUnsigned_point (by simp) ?_ (by simp)]
    · rw [← List.append_assoc, ← List.replicate_one, List.replicate_append_replicate,
        ofDigitChars_replicate_zero, hcoeff]
      cases d
      simp only [leftdigits, List.length_append, List.length_replicate, Option.some.injEq,
        Decimal.mk.injEq, true_and, hlen] at *
      omega
    · intro c hc
      rcases List.mem_append.mp hc with hc | hc
      · rw [(List.mem_replicate.mp hc).2]; decide
      · exact isDigit_toDigits c hc
  · have hexp0 : d.exp = 0 := by unfold leftdigits at hfull; omega
    have hpad : (d.leftdigits - (numDigits d.coeff : Int)).toNat = 0 := by
      unfold leftdigits; omega
    rw [hpad, List.replicate_zero, List.append_nil,
      parseUnsigned_int isDigit_toDigits Nat.toDigits_ne_nil, hcoeff]
    cases d
    simp_all
  · have hne : (Nat.toDigits 10 d.coeff).take d.leftdigits.toNat ≠ [] := by
      rw [Ne, List.take_eq_nil_iff]
      rintro (h | h)
      · omega
      · exact Nat.toDigits_ne_nil h
    rw [parseUnsigned_point (fun c hc => isDigit_toDigits c (List.mem_of_mem_take hc))
      (fun c hc => isDigit_toDigits c (List.mem_of_mem_drop hc)) hne, List.take_append_drop,
      hcoeff, List.length_drop, hlen]
    cases d
    simp only [leftdigits, Option.some.injEq, Decimal.mk.injEq, true_and] at *
    omega

/-- A text of digits and points that reads as a numeral is read without a sign. -/
theorem ofChars_of_unsigned {cs : List Char} {d : Decimal}
    (hchars : ∀ c ∈ cs, c.isDigit = true ∨ c = '.') (hparse : parseUnsigned cs = some d) :
    ofChars cs = some (.finite false d) := by
  have hhead : ∀ c : Char, c ≠ '.' → c.isDigit = false → cs.head? ≠ some c := by
    intro c hdot hc hsome
    rcases hchars c (List.mem_of_mem_head? hsome) with hd | hd
    · rw [hc] at hd; cases hd
    · exact hdot hd
  have hminus := hhead '-' (by decide) (by decide)
  have hplus := hhead '+' (by decide) (by decide)
  unfold ofChars
  simp only [strip_filter_eq hchars, hminus, hplus, decide_false, Bool.or_self,
    Bool.false_eq_true, if_false, hparse]

/-- Digits and points are the same in every script's reading. -/
theorem ofText_eq_ofChars {cs : List Char} (h : ∀ c ∈ cs, c.isDigit = true ∨ c = '.') :
    ofText cs = ofChars cs := by
  have hascii : ∀ c ∈ cs, asciiDigit c = c := by
    intro c hc
    refine asciiDigit_of_ascii ?_
    rcases h c hc with hd | rfl
    · have hrange : 48 ≤ c.toNat ∧ c.toNat ≤ 57 := Char.isDigit_iff_toNat.mp hd
      omega
    · decide
  unfold ofText
  rw [List.map_congr_left hascii, List.map_id']

theorem ofChars_formatF {d : Decimal} (hexp : d.exp ≤ 0) :
    ofChars d.formatF = some (.finite false d) :=
  ofChars_of_unsigned render_chars (parseUnsigned_render hexp)

theorem ofText_formatF {d : Decimal} (hexp : d.exp ≤ 0) :
    ofText d.formatF = some (.finite false d) := by
  unfold formatF
  rw [ofText_eq_ofChars render_chars]
  exact ofChars_formatF hexp

/-- **`Decimal(str(d))` is `d`**, wherever `str` uses positional notation. -/
theorem ofText_str {d : Decimal} (hexp : d.exp ≤ 0) (hleft : -6 < d.leftdigits) :
    ofText d.str = some (.finite false d) := by
  have hpositional : d.str = d.formatF := by
    unfold str formatF
    rw [if_pos (by simp [hexp, hleft])]
  rw [hpositional]
  exact ofText_formatF hexp

/-- Positional notation adds at most a point and the zeros around it. -/
theorem length_formatF {d : Decimal} (hexp : d.exp ≤ 0) :
    d.formatF.length ≤ numDigits d.coeff + (-d.exp).toNat + 2 := by
  unfold formatF render leftdigits
  have hdigits : (Nat.toDigits 10 d.coeff).length = numDigits d.coeff := rfl
  dsimp only
  split
  · simp only [List.length_cons, List.length_append, List.length_replicate, hdigits]
    omega
  · split
    · simp only [List.length_append, List.length_replicate, hdigits]
      omega
    · simp only [List.length_append, List.length_cons, List.length_take, List.length_drop, hdigits]
      omega

end Py.Decimal
