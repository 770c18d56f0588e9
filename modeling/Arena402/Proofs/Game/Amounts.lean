/-
Atomic amounts and the decimals that tasks show for them.

A view writes an atomic amount with six decimals, so the wire decimal denotes exactly the
amount in millionths (`goldPrice_val`).  The other way an agent's price is rounded to 28
digits before it is counted in millionths; a price within a limit that was itself counted
that way stays within it (`atomic_le_limit`).
-/
import Arena402.Lib.Raise
import Arena402.Proofs.Core.Prices
import Arena402.Game.Views
import Arena402.Game.HostedNegotiation

namespace Arena402.Game

open Py Py.Decimal

/-! ### What a view writes -/

theorem ofChars_of_parseFixedDecimal {text : String} {d : Decimal}
    (h : parseFixedDecimal text = .ok d) : ofChars text.toList = some (.finite false d) := by
  unfold parseFixedDecimal parseFixedDecimalChars at h
  split at h
  · cases h
  simp only at h
  split at h
  · cases h
  split at h
  · cases h
  split at h
  · rename_i found hfound
    cases h
    exact hfound
  · cases h
  · cases h

theorem padded_chars {n : Nat} (h : n < 10 ^ 6) :
    (∀ c ∈ (padded 6 n).toList, c.isDigit = true) ∧ (padded 6 n).toList.length = 6 ∧
      Nat.ofDigitChars 10 (padded 6 n).toList 0 = n := by
  have hle : (Nat.toDigits 10 n).length ≤ 6 := (numDigits_le_iff (by decide)).mpr h
  have hlen : n.repr.length = (Nat.toDigits 10 n).length := by
    rw [← String.length_toList, Nat.toList_repr]
  have hchars : (padded 6 n).toList = List.replicate (6 - (Nat.toDigits 10 n).length) '0' ++
      Nat.toDigits 10 n := by
    simp [padded, hlen]
  rw [hchars]
  refine ⟨?_, ?_, ?_⟩
  · intro c hc
    rcases List.mem_append.mp hc with hc | hc
    · rw [(List.mem_replicate.mp hc).2]
      decide
    · exact isDigit_toDigits c hc
  · simp only [List.length_append, List.length_replicate]
    omega
  · rw [ofDigitChars_replicate_zero]
    exact Nat.ofDigitChars_ten_toDigits

/-- Two runs of digits around a point. -/
theorem ofChars_point {int frac : List Char} (hint : ∀ c ∈ int, c.isDigit = true)
    (hfrac : ∀ c ∈ frac, c.isDigit = true) (hne : int ≠ []) :
    ofChars (int ++ '.' :: frac)
      = some (.finite false ⟨Nat.ofDigitChars 10 (int ++ frac) 0, -(frac.length : Int)⟩) := by
  refine ofChars_of_unsigned ?_ (parseUnsigned_point hint hfrac hne)
  intro c hc
  rcases List.mem_append.mp hc with hc | hc
  · exact Or.inl (hint c hc)
  rcases List.mem_cons.mp hc with rfl | hc
  · exact Or.inr rfl
  · exact Or.inl (hfrac c hc)

/-- A whole part and six digits after the point, counted in millionths. -/
theorem ofDigitChars_six {n : Nat} {frac : List Char} (hlen : frac.length = 6) :
    Nat.ofDigitChars 10 (Nat.toDigits 10 n ++ frac) 0
      = 10 ^ 6 * n + Nat.ofDigitChars 10 frac 0 := by
  rw [Nat.ofDigitChars_append, Nat.ofDigitChars_ten_toDigits,
    Nat.ofDigitChars_eq_ofDigitChars_zero, hlen]

theorem toList_goldText (atomic : Nat) : (goldText atomic).toList
    = Nat.toDigits 10 (atomic / goldScale) ++ '.' :: (padded 6 (atomic % goldScale)).toList := by
  simp [goldText]

/-- The text of an amount is read back as the amount in millionths. -/
theorem parse_goldText {atomic : Nat} {d : Decimal}
    (h : parseFixedDecimal (goldText atomic) = .ok d) : d = ⟨atomic, -6⟩ := by
  have hlt : atomic % goldScale < 10 ^ 6 := Nat.mod_lt _ (by decide)
  obtain ⟨hfrac, hlen, hvalue⟩ := padded_chars hlt
  have hof := ofChars_of_parseFixedDecimal h
  rw [toList_goldText, ofChars_point isDigit_toDigits hfrac Nat.toDigits_ne_nil,
    ofDigitChars_six hlen, hvalue, hlen] at hof
  have hsum : 10 ^ 6 * (atomic / goldScale) + atomic % goldScale = atomic :=
    Nat.div_add_mod atomic goldScale
  rw [hsum] at hof
  simp only [Option.some.injEq, Parsed.finite.injEq, true_and] at hof
  rw [← hof]
  rfl

/-- What a decimal of six places denotes. -/
theorem val_millionths (atomic : Nat) : Decimal.val ⟨atomic, -6⟩ = (atomic : ℚ) / 10 ^ 6 := by
  unfold Decimal.val
  norm_num
  ring

theorem goldPrice_val {atomic : Nat} {p : PositiveFixedDecimal} (h : goldPrice atomic = .ok p) :
    p.value.val = (atomic : ℚ) / 10 ^ 6 := by
  unfold goldPrice at h
  split at h
  · rename_i d hparse
    split at h
    · cases h
      show d.val = _
      rw [parse_goldText hparse]
      exact val_millionths atomic
    · cases h
  · cases h

/-! ### Which amounts can be shown -/

/-- A positive number is written without a leading zero. -/
theorem head_toDigits : ∀ {n : Nat}, 0 < n → (Nat.toDigits 10 n).head? ≠ some '0' := by
  intro n
  induction n using Nat.strong_induction_on with
  | _ n ih =>
      intro hpos
      rw [Nat.toDigits_eq_if (by decide)]
      by_cases hlt : n < 10
      · rw [if_pos hlt]
        interval_cases n <;> decide
      · rw [if_neg hlt, List.head?_append_of_ne_nil _ Nat.toDigits_ne_nil]
        exact ih (n / 10) (by omega) (by omega)

/-- Whole digits, a point and digits behind it match the pattern of a price. -/
theorem fixedDecimalPattern_point {int frac : List Char} (hint : ∀ c ∈ int, c.isDigit = true)
    (hfrac : ∀ c ∈ frac, c.isDigit = true) (hne : frac ≠ [])
    (hhead : int = ['0'] ∨ (int ≠ [] ∧ int.head? ≠ some '0')) :
    fixedDecimalPattern (int ++ '.' :: frac) = true := by
  have hspan : (int ++ '.' :: frac).span Char.isDigit = (int, '.' :: frac) :=
    span_digits hint (by simp)
  unfold fixedDecimalPattern
  rw [hspan]
  have hall : frac.all Char.isDigit = true := List.all_eq_true.mpr hfrac
  have hempty : frac.isEmpty = false := by simpa using hne
  rcases hhead with hzero | ⟨hint', hhead⟩
  · simp [hzero, hall, hempty]
  · simp [hint', hhead, hall, hempty]

theorem whole_digits {atomic : Nat} :
    Nat.toDigits 10 (atomic / goldScale) = ['0'] ∨ (Nat.toDigits 10 (atomic / goldScale) ≠ [] ∧
      (Nat.toDigits 10 (atomic / goldScale)).head? ≠ some '0') := by
  rcases Nat.eq_zero_or_pos (atomic / goldScale) with hzero | hpos
  · rw [hzero]
    exact Or.inl (Nat.toDigits_zero 10)
  · exact Or.inr ⟨Nat.toDigits_ne_nil, head_toDigits hpos⟩

/-- The text of an amount up to the Arena bound is a price. -/
theorem parse_goldText_returns {atomic : Nat} (h : atomic ≤ maxGoldAtomic) :
    parseFixedDecimal (goldText atomic) = .ok ⟨atomic, -6⟩ := by
  have hlt : atomic % goldScale < 10 ^ 6 := Nat.mod_lt _ (by decide)
  obtain ⟨hfrac, hlen, hvalue⟩ := padded_chars hlt
  have hwhole : (Nat.toDigits 10 (atomic / goldScale)).length ≤ 32 := by
    refine (numDigits_le_iff (by decide)).mpr ?_
    have hbound : atomic < 10 ^ 32 * goldScale := by
      have hmax : maxGoldAtomic < 10 ^ 32 * goldScale := by decide
      omega
    exact Nat.div_lt_of_lt_mul (by rw [Nat.mul_comm]; exact hbound)
  have hne : (padded 6 (atomic % goldScale)).toList ≠ [] := by
    intro hnil
    rw [hnil] at hlen
    cases hlen
  have hof := ofChars_point isDigit_toDigits hfrac (Nat.toDigits_ne_nil (n := atomic / goldScale))
  have hsum : 10 ^ 6 * (atomic / goldScale) + atomic % goldScale = atomic :=
    Nat.div_add_mod atomic goldScale
  rw [ofDigitChars_six hlen, hvalue, hlen, hsum] at hof
  unfold parseFixedDecimal parseFixedDecimalChars
  rw [toList_goldText, fixedDecimalPattern_point isDigit_toDigits hfrac hne whole_digits,
    partitionPoint_point isDigit_toDigits, hof]
  dsimp only
  rw [if_neg (by simp), if_neg (by rw [hlen]; unfold maxDecimalDigits; omega),
    if_neg (by rw [hlen]; simp [maxDecimalPlaces])]
  rfl

theorem goldPrice_returns {atomic : Nat} (hpos : 0 < atomic) (h : atomic ≤ maxGoldAtomic) :
    ∃ p, goldPrice atomic = .ok p := by
  have hparse := parse_goldText_returns h
  unfold goldPrice
  split
  · rename_i d hd
    rw [hparse] at hd
    obtain rfl := Except.ok.inj hd
    rw [dif_pos hpos]
    exact ⟨_, rfl⟩
  · rename_i e he
    rw [hparse] at he
    cases he

theorem goldPrice?_returns {limit : Option Nat}
    (h : ∀ atomic, limit = some atomic → 0 < atomic ∧ atomic ≤ maxGoldAtomic) :
    ∃ p, goldPrice? limit = .ok p := by
  cases limit with
  | none => exact ⟨none, rfl⟩
  | some atomic =>
      obtain ⟨hpos, hle⟩ := h atomic rfl
      obtain ⟨p, hp⟩ := goldPrice_returns hpos hle
      refine ⟨some p, ?_⟩
      show (goldPrice atomic).map some = _
      rw [hp]
      rfl

theorem goldDecimal_returns {atomic : Int} (hnonneg : 0 ≤ atomic)
    (h : atomic ≤ maxGoldAtomic) : ∃ d, goldDecimal atomic = .ok d := by
  have hle : atomic.toNat ≤ maxGoldAtomic := by omega
  have hparse := parse_goldText_returns hle
  unfold goldDecimal
  rw [if_neg (not_lt.mpr hnonneg)]
  split
  · exact ⟨_, rfl⟩
  · rename_i e he
    rw [hparse] at he
    cases he

/-! ### What a price counts -/

/-- An amount that some decimal of 28 digits denotes, as every converted price does. -/
def Short (atomic : Nat) : Prop :=
  ∃ d : Decimal, d.val = (atomic : ℚ) ∧ d.HasDigits 28

/-- What a converted amount is: the integral product in the context, within the bound. -/
theorem goldAtomic_ok {d : Decimal} {n : Nat} (h : goldAtomic d = .ok n) :
    ∃ atomic, Decimal.mulIn defaultContext d (Decimal.ofNat goldScale) = some atomic ∧
      atomic.val = (n : ℚ) ∧ n ≤ maxGoldAtomic ∧ n = atomic.toNat := by
  unfold goldAtomic at h
  cases hmul : Decimal.mulIn defaultContext d (Decimal.ofNat goldScale) with
  | none =>
      rw [hmul] at h
      cases h
  | some atomic =>
      rw [hmul, goldOfProduct] at h
      obtain ⟨hintegral, h⟩ := ok_of_guard h
      obtain ⟨hbound, h⟩ := ok_of_guard h
      cases h
      exact ⟨atomic, rfl, Decimal.val_eq_toNat_of_integral (by simpa using hintegral),
        not_lt.mp hbound, rfl⟩

/-- An amount that was converted is short. -/
theorem short_of_gold {value : GoldValue} {n : Nat} (h : gold value = .ok n) : Short n := by
  unfold gold at h
  split at h
  · cases h
  · rename_i negative d _
    obtain ⟨-, h⟩ := ok_of_guard h
    obtain ⟨atomic, hmul, hintegral, -, rfl⟩ := goldAtomic_ok h
    exact ⟨atomic, hintegral, Decimal.hasDigits_fixIn (by decide) hmul⟩
  · cases h

theorem atomicProduct_val_le {p : PositiveFixedDecimal} {limit : Nat} (hlimit : Short limit)
    (hp : p.value.val ≤ (limit : ℚ) / 10 ^ 6) : (atomicProduct p.value).val ≤ limit := by
  obtain ⟨d, hd, hdigits⟩ := hlimit
  rw [← hd]
  refine fix_val_le (by decide) hdigits ?_
  have hexact : Decimal.val ⟨p.value.coeff * goldScale, p.value.exp + 0⟩ = p.value.val * 10 ^ 6 :=
    exactProduct_val p.value
  show Decimal.val ⟨p.value.coeff * goldScale, p.value.exp + 0⟩ ≤ d.val
  rw [hexact, hd]
  norm_num at hp ⊢
  linarith

theorem le_atomicProduct_val {p : PositiveFixedDecimal} {limit : Nat} (hlimit : Short limit)
    (hp : (limit : ℚ) / 10 ^ 6 ≤ p.value.val) : limit ≤ (atomicProduct p.value).val := by
  obtain ⟨d, hd, hdigits⟩ := hlimit
  rw [← hd]
  refine le_fix_val (by decide) hdigits ?_
  have hexact : Decimal.val ⟨p.value.coeff * goldScale, p.value.exp + 0⟩ = p.value.val * 10 ^ 6 :=
    exactProduct_val p.value
  show d.val ≤ Decimal.val ⟨p.value.coeff * goldScale, p.value.exp + 0⟩
  rw [hexact, hd]
  norm_num at hp ⊢
  linarith

section Convert

variable {p : PositiveFixedDecimal} (h : hasArenaMoneyPrecision p.value = true)

include h

/-- A price that passes the precision check converts unless it exceeds the bound. -/
theorem goldOf_of_precision :
    Pawnhouse.goldOf p = if maxGoldAtomic < (atomicProduct p.value).toNat then
        .error MoneyError.exceedsBound.message
      else .ok (atomicProduct p.value).toNat := by
  unfold Pawnhouse.goldOf
  rw [gold_of_precision h _ (by simp), goldAtomic_of_precision h]
  by_cases hbound : maxGoldAtomic < (atomicProduct p.value).toNat
  · rw [if_pos hbound, if_pos hbound]
  · rw [if_neg hbound, if_neg hbound]

theorem atomicProduct_pos : 0 < (atomicProduct p.value).toNat := by
  have hval : (atomicProduct p.value).val = ((atomicProduct p.value).toNat : ℚ) :=
    val_eq_toNat_of_integral h
  have hpos : 0 < (atomicProduct p.value).val := by
    refine fix_val_pos (by decide) ?_
    exact Nat.mul_pos p.pos (by decide)
  have hpos' : (0 : ℚ) < ((atomicProduct p.value).toNat : ℚ) := by
    rw [← hval]
    exact hpos
  exact_mod_cast hpos'

/-- A price within a short limit counts at most the limit. -/
theorem atomic_le_limit {limit : Nat} (hlimit : Short limit)
    (hp : p.value.val ≤ (limit : ℚ) / 10 ^ 6) : (atomicProduct p.value).toNat ≤ limit := by
  have hle := atomicProduct_val_le hlimit hp
  have hval : (atomicProduct p.value).val = ((atomicProduct p.value).toNat : ℚ) :=
    val_eq_toNat_of_integral h
  rw [hval] at hle
  exact_mod_cast hle

/-- A price that reaches a short limit counts at least the limit. -/
theorem limit_le_atomic {limit : Nat} (hlimit : Short limit)
    (hp : (limit : ℚ) / 10 ^ 6 ≤ p.value.val) : limit ≤ (atomicProduct p.value).toNat := by
  have hle := le_atomicProduct_val hlimit hp
  have hval : (atomicProduct p.value).val = ((atomicProduct p.value).toNat : ℚ) :=
    val_eq_toNat_of_integral h
  rw [hval] at hle
  exact_mod_cast hle

end Convert

end Arena402.Game
