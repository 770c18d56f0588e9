/-
What `NUMERIC` and the casts compute.

`NUMERIC` arithmetic loses nothing: a product and a comparison are those of the denoted
numbers, and `a = trunc(a)` decides integrality.  A cast reads back the text of a decimal or
an integer, and raises for an integer that its type cannot hold.
-/
import Arena402.Lib.Sql
import Arena402.Proofs.Lib.Decimal

namespace Sql

open Py

namespace Numeric

theorem pow_scale_pos (a : Numeric) : (0 : ℚ) < (10 : ℚ) ^ a.scale := by positivity

theorem lt_iff (a b : Numeric) : a.lt b = true ↔ a.val < b.val := by
  unfold lt val
  rw [decide_eq_true_iff, div_lt_div_iff₀ a.pow_scale_pos b.pow_scale_pos]
  exact_mod_cast Iff.rfl

theorem eq_iff (a b : Numeric) : a.eq b = true ↔ a.val = b.val := by
  unfold eq val
  rw [decide_eq_true_iff, div_eq_div_iff a.pow_scale_pos.ne' b.pow_scale_pos.ne']
  exact_mod_cast Iff.rfl

@[simp] theorem val_ofInt (n : Int) : (ofInt n).val = n := by
  simp [ofInt, val]

@[simp] theorem val_mul (a b : Numeric) : (a.mul b).val = a.val * b.val := by
  unfold mul val
  push_cast
  rw [pow_add, mul_div_mul_comm]

@[simp] theorem val_ofDecimal (d : Decimal) : (ofDecimal false d).val = d.val := by
  unfold ofDecimal
  dsimp only
  rw [if_neg Bool.false_ne_true]
  split_ifs with hexp
  · obtain ⟨k, hk⟩ : ∃ k : Nat, d.exp = -(k : Int) := ⟨(-d.exp).toNat, by omega⟩
    simp [val, Decimal.val, hk, div_eq_mul_inv]
  · obtain ⟨k, hk⟩ : ∃ k : Nat, d.exp = (k : Int) := ⟨d.exp.toNat, by omega⟩
    simp [val, Decimal.val, hk]

/-- `a = trunc(a)` says that `a` is an integer. -/
theorem eq_trunc_iff (a : Numeric) : a.eq a.trunc = true ↔ ∃ n : Int, a.val = n := by
  rw [eq_iff]
  constructor
  · intro h
    exact ⟨a.coeff.tdiv (10 ^ a.scale), by simpa [trunc, val] using h⟩
  · rintro ⟨n, hn⟩
    have hcoeff : a.coeff = n * 10 ^ a.scale := by
      unfold val at hn
      rw [div_eq_iff a.pow_scale_pos.ne'] at hn
      exact_mod_cast hn
    have htrunc : a.trunc = ofInt n := by
      unfold trunc ofInt
      rw [hcoeff, Int.mul_tdiv_cancel _ (by positivity)]
    rw [htrunc, val_ofInt, hn]

end Numeric

/-! ### Casts -/

/-- The text of a decimal without an exponent. -/
theorem toNumeric_formatF {d : Decimal} (hexp : d.exp ≤ 0) :
    toNumeric (some (String.ofList d.formatF)) = .ok (some (.ofDecimal false d)) := by
  unfold toNumeric
  dsimp only
  rw [String.toList_ofList, Decimal.ofChars_formatF hexp]

theorem parseSigned_toDigits (n : Nat) :
    Decimal.parseSigned (Nat.toDigits 10 n) = some (n : Int) := by
  have hall : ∀ c ∈ Nat.toDigits 10 n, c.isDigit = true := Decimal.isDigit_toDigits
  have hvalue : Nat.ofDigitChars 10 (Nat.toDigits 10 n) 0 = n := Nat.ofDigitChars_ten_toDigits
  generalize hcs : Nat.toDigits 10 n = cs at hall hvalue
  cases cs with
  | nil => exact absurd hcs Nat.toDigits_ne_nil
  | cons c rest =>
      have hc : c.isDigit = true := hall c List.mem_cons_self
      have hminus : c ≠ '-' := by
        rintro rfl
        exact absurd hc (by decide)
      have hplus : c ≠ '+' := by
        rintro rfl
        exact absurd hc (by decide)
      have hdigits : (c :: rest).all Char.isDigit = true := List.all_eq_true.mpr hall
      simp only [Decimal.parseSigned, hminus, hplus, decide_false, Bool.or_self, Bool.false_eq_true,
        if_false, List.isEmpty_cons, hdigits, Bool.not_true, hvalue]

/-- The text of an integer, cast to a type that holds it or does not. -/
theorem toSigned_toString (bits n : Nat) :
    toSigned bits (some (toString (n : Int))) =
      if n < 2 ^ (bits - 1) then .ok (some (n : Int)) else .error .numericValueOutOfRange := by
  have htext : (toString (n : Int)).toList = Nat.toDigits 10 n := by
    show (Nat.repr n).toList = _
    simp [Nat.repr]
  unfold toSigned
  dsimp only
  rw [htext, parseSigned_toDigits]
  dsimp only
  have hlow : -2 ^ (bits - 1) ≤ (n : Int) := by
    have hpos : (0 : Int) < 2 ^ (bits - 1) := by positivity
    omega
  have hbound : (n : Int) < 2 ^ (bits - 1) ↔ n < 2 ^ (bits - 1) := by exact_mod_cast Iff.rfl
  simp only [hlow, true_and, hbound]

theorem toInteger_toString (n : Nat) :
    toInteger (some (toString (n : Int))) =
      if n < 2 ^ 31 then .ok (some (n : Int)) else .error .numericValueOutOfRange :=
  toSigned_toString 32 n

theorem toBigint_toString (n : Nat) :
    toBigint (some (toString (n : Int))) =
      if n < 2 ^ 63 then .ok (some (n : Int)) else .error .numericValueOutOfRange :=
  toSigned_toString 64 n

end Sql
