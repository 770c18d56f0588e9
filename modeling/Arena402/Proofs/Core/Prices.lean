/-
From an accepted candidate to atomic gold.

A candidate's prices are checked for six decimal places by multiplying in a context of
28 digits, and `gold` multiplies in the same context before it tests for an integer and
for the Arena bound.  So the integrality test of `gold` never fails on a candidate;
what can fail is the bound, which no check before it applies, and exactness, because a
price of more than 28 significant digits has been rounded before it is looked at.

`candidate_prices_convert_iff` says that nothing else goes wrong.
-/
import Arena402.Proofs.Lib.Decimal
import Arena402.Core.ApplicationPolicy

namespace Arena402

open Py Py.Decimal

/-! ### What the wire grammar guarantees -/

theorem fixedDecimalPattern_cases {cs : List Char} (h : fixedDecimalPattern cs = true) :
    ∃ int, int ≠ [] ∧ (∀ c ∈ int, c.isDigit = true) ∧
      (cs = int ∨ ∃ frac, frac ≠ [] ∧ (∀ c ∈ frac, c.isDigit = true) ∧ cs = int ++ '.' :: frac) := by
  have hsplit : cs = cs.takeWhile Char.isDigit ++ cs.dropWhile Char.isDigit :=
    List.takeWhile_append_dropWhile.symm
  simp only [fixedDecimalPattern, List.span_eq_takeWhile_dropWhile, Bool.and_eq_true,
    Bool.or_eq_true, decide_eq_true_eq, Bool.not_eq_true', List.isEmpty_eq_false_iff] at h
  obtain ⟨hint, hrest⟩ := h
  have hne : cs.takeWhile Char.isDigit ≠ [] := by
    rcases hint with hz | hz
    · rw [hz]; simp
    · exact hz.1
  have hdigits : ∀ c ∈ cs.takeWhile Char.isDigit, c.isDigit = true :=
    fun c hc => List.all_eq_true.mp List.all_takeWhile c hc
  refine ⟨cs.takeWhile Char.isDigit, hne, hdigits, ?_⟩
  cases hd : cs.dropWhile Char.isDigit with
  | nil =>
      rw [hd, List.append_nil] at hsplit
      exact Or.inl hsplit
  | cons c frac =>
      rw [hd] at hrest hsplit
      simp only [Bool.and_eq_true, decide_eq_true_eq, Bool.not_eq_true',
        List.isEmpty_eq_false_iff, List.all_eq_true] at hrest
      obtain ⟨⟨rfl, hfrac⟩, hall⟩ := hrest
      exact Or.inr ⟨frac, hfrac, hall, hsplit⟩

theorem partitionPoint_point {int frac : List Char} (h : ∀ c ∈ int, c.isDigit = true) :
    partitionPoint (int ++ '.' :: frac) = (int, frac) := by
  have hne : ∀ c ∈ int, (decide (c ≠ '.')) = true := by
    intro c hc
    have : c ≠ '.' := by rintro rfl; exact absurd (h _ hc) (by decide)
    simpa using this
  unfold partitionPoint
  rw [List.takeWhile_append_of_pos hne, List.dropWhile_append_of_pos hne]
  simp

theorem partitionPoint_int {int : List Char} (h : ∀ c ∈ int, c.isDigit = true) :
    partitionPoint int = (int, []) := by
  have hne : ∀ c ∈ int, (decide (c ≠ '.')) = true := by
    intro c hc
    have : c ≠ '.' := by rintro rfl; exact absurd (h _ hc) (by decide)
    simpa using this
  unfold partitionPoint
  rw [List.takeWhile_eq_self_iff.mpr hne, List.dropWhile_eq_nil_iff.mpr hne]
  rfl

/-- The digits that a wire decimal was read from. -/
theorem parseFixedDecimal_digits {text : String} {d : Decimal}
    (h : parseFixedDecimal text = .ok d) :
    ∃ int frac : List Char, (∀ c ∈ int ++ frac, c.isDigit = true) ∧
      int.length + frac.length ≤ 38 ∧ frac.length ≤ 18 ∧
      d = ⟨Nat.ofDigitChars 10 (int ++ frac) 0, -(frac.length : Int)⟩ := by
  unfold parseFixedDecimal parseFixedDecimalChars at h
  split at h
  · cases h
  rename_i hpat
  simp only [Bool.not_eq_true, Bool.not_eq_false'] at hpat
  simp only at h
  split at h
  · cases h
  rename_i hdigits
  split at h
  · cases h
  rename_i hplaces
  obtain ⟨int, hne, hint, hint' | ⟨frac, -, hfrac, hcs⟩⟩ := fixedDecimalPattern_cases hpat
  · have hof : ofChars text.toList = some (.finite false ⟨Nat.ofDigitChars 10 int 0, 0⟩) := by
      rw [hint']
      exact ofChars_of_unsigned (fun c hc => Or.inl (hint c hc)) (parseUnsigned_int hint hne)
    rw [hof] at h
    rw [hint', partitionPoint_int hint, not_lt] at hdigits
    simp only [Except.ok.injEq] at h
    exact ⟨int, [], by simpa using hint, hdigits, by simp, by simpa using h.symm⟩
  · have hall : ∀ c ∈ int ++ frac, c.isDigit = true := by
      intro c hc
      rcases List.mem_append.mp hc with hc | hc
      · exact hint c hc
      · exact hfrac c hc
    have hchars : ∀ c ∈ int ++ '.' :: frac, c.isDigit = true ∨ c = '.' := by
      intro c hc
      rcases List.mem_append.mp hc with hc | hc
      · exact Or.inl (hint c hc)
      rcases List.mem_cons.mp hc with rfl | hc
      · exact Or.inr rfl
      · exact Or.inl (hfrac c hc)
    have hof := ofChars_of_unsigned hchars (parseUnsigned_point hint hfrac hne)
    rw [← hcs] at hof
    rw [hof] at h
    rw [hcs, partitionPoint_point hint, not_lt] at hdigits
    have hlen : frac.length ≤ 18 := by
      rw [hcs, partitionPoint_point hint] at hplaces
      have hpoint : (int ++ '.' :: frac).contains '.' = true := by simp
      rw [hpoint, Bool.true_and, decide_eq_true_iff, not_lt] at hplaces
      exact hplaces
    simp only [Except.ok.injEq] at h
    exact ⟨int, frac, hall, hdigits, hlen, h.symm⟩

/-- A wire decimal has between zero and eighteen decimal places. -/
theorem parseFixedDecimal_exp {text : String} {d : Decimal}
    (h : parseFixedDecimal text = .ok d) : -18 ≤ d.exp ∧ d.exp ≤ 0 := by
  obtain ⟨int, frac, -, -, hlen, rfl⟩ := parseFixedDecimal_digits h
  constructor
  · show (-18 : Int) ≤ -(frac.length : Int)
    omega
  · show -(frac.length : Int) ≤ 0
    omega

/-- A wire decimal has at most 38 digits. -/
theorem parseFixedDecimal_numDigits {text : String} {d : Decimal}
    (h : parseFixedDecimal text = .ok d) : numDigits d.coeff ≤ 38 := by
  obtain ⟨int, frac, hall, hlen, -, rfl⟩ := parseFixedDecimal_digits h
  rw [numDigits_le_iff (by decide)]
  have hlt := ofDigitChars_lt hall
  rw [List.length_append] at hlt
  exact lt_of_lt_of_le hlt (Nat.pow_le_pow_right (by decide) hlen)

/-! ### The atomic amount -/

/-- The product both `hasArenaMoneyPrecision` and `gold` look at. -/
def atomicProduct (d : Decimal) : Decimal :=
  Decimal.mul defaultPrecision d (Decimal.ofNat goldScale)

theorem exactProduct_val (d : Decimal) :
    Decimal.val ⟨d.coeff * goldScale, d.exp + 0⟩ = d.val * 10 ^ 6 := by
  simp only [Decimal.val, goldScale, add_zero]
  push_cast
  ring

/-- The product is exact exactly for prices of at most 28 significant digits. -/
theorem atomicProduct_val_iff {d : Decimal} (hpos : 0 < d.coeff) :
    (atomicProduct d).val = d.val * 10 ^ 6 ↔ d.HasDigits 28 := by
  have hscale : goldScale = 10 ^ 6 := by decide
  rw [hasDigits_iff (by decide), ← exactProduct_val]
  unfold atomicProduct Decimal.mul Decimal.ofNat
  rw [fix_val_iff (by decide)]
  simp only [hscale, numDigits_mul_pow hpos, defaultPrecision]
  rcases Nat.lt_or_ge 28 (numDigits d.coeff) with h | h
  · have hk : numDigits d.coeff + 6 - 28 = (numDigits d.coeff - 28) + 6 := by omega
    rw [hk, pow_add]
    exact Nat.mul_dvd_mul_iff_right (by positivity)
  · rw [Nat.sub_eq_zero_of_le h]
    simp only [pow_zero, one_dvd, iff_true]
    exact Dvd.dvd.mul_left (pow_dvd_pow 10 (by omega)) _

/-- A price that passes the precision check is at least one atomic unit, so `str` prints
    it in positional notation. -/
theorem leftdigits_of_precision {d : Decimal} (hpos : 0 < d.coeff) (hexp : -18 ≤ d.exp)
    (h : hasArenaMoneyPrecision d = true) : -6 < d.leftdigits := by
  by_contra hle
  have hsmall : numDigits d.coeff ≤ 28 := by unfold leftdigits at hle; omega
  have hexact : (atomicProduct d).val = d.val * 10 ^ 6 := by
    rw [atomicProduct_val_iff hpos, hasDigits_iff (by decide), Nat.sub_eq_zero_of_le hsmall]
    simp
  have hint : (atomicProduct d).val = ((atomicProduct d).toNat : ℚ) := val_eq_toNat_of_integral h
  have hten : (0 : ℚ) < 10 := by norm_num
  have hlt : d.val * 10 ^ 6 < 1 := by
    have hcoeff : (d.coeff : ℚ) < (10 : ℚ) ^ (numDigits d.coeff : Int) := by
      rw [zpow_natCast]
      exact_mod_cast lt_pow_numDigits d.coeff
    calc d.val * 10 ^ 6
        < (10 : ℚ) ^ (numDigits d.coeff : Int) * (10 : ℚ) ^ d.exp * 10 ^ 6 := by
          unfold Decimal.val
          have := zpow_pos hten d.exp
          gcongr
      _ = (10 : ℚ) ^ ((numDigits d.coeff : Int) + d.exp + 6) := by
          rw [zpow_add₀ hten.ne', zpow_add₀ hten.ne']
          norm_num
      _ ≤ (10 : ℚ) ^ (0 : Int) := by
          refine zpow_le_zpow_right₀ (by norm_num) ?_
          unfold leftdigits at hle
          omega
      _ = 1 := by simp
  have hgt : (0 : ℚ) < d.val * 10 ^ 6 := by
    unfold Decimal.val
    have h1 : (0 : ℚ) < d.coeff := by exact_mod_cast hpos
    have h2 := zpow_pos hten d.exp
    positivity
  rw [← hexact, hint] at hlt hgt
  have h1 : (atomicProduct d).toNat < 1 := by exact_mod_cast hlt
  have h2 : 0 < (atomicProduct d).toNat := by exact_mod_cast hgt
  omega

/-- The exponents of a wire price are nowhere near the limits of the context. -/
theorem mulIn_wire (p : PositiveFixedDecimal) :
    Decimal.mulIn defaultContext p.value (Decimal.ofNat goldScale)
      = some (atomicProduct p.value) := by
  obtain ⟨wireText, hwire⟩ := p.wire
  obtain ⟨hlow, hhigh⟩ := parseFixedDecimal_exp hwire
  have hdigits := parseFixedDecimal_numDigits hwire
  have hproduct : numDigits (p.value.coeff * goldScale) = numDigits p.value.coeff + 6 :=
    numDigits_mul_pow p.pos 6
  have hpos := numDigits_pos p.value.coeff
  have hadjusted : Decimal.adjusted ⟨p.value.coeff * goldScale, p.value.exp + 0⟩
      = p.value.exp + numDigits p.value.coeff + 5 := by
    unfold Decimal.adjusted
    dsimp only
    omega
  refine fixIn_of_normal (by decide) (Nat.mul_pos p.pos (by decide)) ?_ ?_
  · show (-999999 : Int) ≤ Decimal.adjusted ⟨p.value.coeff * goldScale, p.value.exp + 0⟩
    omega
  · show Decimal.adjusted ⟨p.value.coeff * goldScale, p.value.exp + 0⟩ < (999999 : Int)
    omega

/-- On a price that passes the precision check, `gold` can only fail at the bound. -/
theorem goldAtomic_of_precision {p : PositiveFixedDecimal}
    (h : hasArenaMoneyPrecision p.value = true) :
    goldAtomic p.value = if maxGoldAtomic < (atomicProduct p.value).toNat then .error .exceedsBound
      else .ok (atomicProduct p.value).toNat := by
  have h' : (atomicProduct p.value).eq (atomicProduct p.value).toIntegralValue = true := h
  unfold goldAtomic
  rw [mulIn_wire, goldOfProduct, h']
  simp

/-! ### One price -/

/-- The projectors' conversion of a price, from its Decimal or from the applied action's
    text, returns its amount in millionths and does not raise. -/
def ConvertsExactly (p : PositiveFixedDecimal) : Prop :=
  ∀ text ∈ [p.value.str, p.value.formatF],
    ∃ n : Nat, gold (.text text) = .ok n ∧ (n : ℚ) = p.value.val * 10 ^ 6

/-- A price gold amounts can hold: below `10 ^ 32` and of at most 28 significant digits. -/
def GoldRepresentable (p : PositiveFixedDecimal) : Prop :=
  p.value.val < 10 ^ 32 ∧ p.value.HasDigits 28

theorem gold_of_precision {p : PositiveFixedDecimal} (h : hasArenaMoneyPrecision p.value = true) :
    ∀ text ∈ [p.value.str, p.value.formatF], gold (.text text) = goldAtomic p.value := by
  obtain ⟨wireText, hwire⟩ := p.wire
  obtain ⟨hlow, hhigh⟩ := parseFixedDecimal_exp hwire
  intro text htext
  have hof : ofText text = some (.finite false p.value) := by
    simp only [List.mem_cons, List.not_mem_nil, or_false] at htext
    rcases htext with rfl | rfl
    · exact ofText_str hhigh (leftdigits_of_precision p.pos hlow h)
    · exact ofText_formatF hhigh
  simp [gold, goldParsed, hof]

/-- **A checked price converts exactly when gold can represent it.** -/
theorem convertsExactly_iff {p : PositiveFixedDecimal}
    (h : hasArenaMoneyPrecision p.value = true) : ConvertsExactly p ↔ GoldRepresentable p := by
  have hint : (atomicProduct p.value).val = ((atomicProduct p.value).toNat : ℚ) :=
    val_eq_toNat_of_integral h
  constructor
  · intro hconv
    obtain ⟨n, hgold, hn⟩ := hconv p.value.str (by simp)
    rw [gold_of_precision h _ (by simp), goldAtomic_of_precision h] at hgold
    split_ifs at hgold with hbound
    simp only [Except.ok.injEq] at hgold
    subst hgold
    refine ⟨?_, (atomicProduct_val_iff p.pos).mp (by rw [hint, hn])⟩
    have hlt : ((atomicProduct p.value).toNat : ℚ) < 10 ^ 38 := by
      have : (atomicProduct p.value).toNat < 10 ^ 38 := by
        simp only [maxGoldAtomic, not_lt] at hbound
        omega
      exact_mod_cast this
    rw [hn] at hlt
    norm_num at hlt ⊢
    linarith
  · rintro ⟨hlt, hdigits⟩ text htext
    have hexact := (atomicProduct_val_iff p.pos).mpr hdigits
    refine ⟨(atomicProduct p.value).toNat, ?_, by rw [← hint, hexact]⟩
    rw [gold_of_precision h _ htext, goldAtomic_of_precision h, if_neg]
    have : ((atomicProduct p.value).toNat : ℚ) < 10 ^ 38 := by
      rw [← hint, hexact]
      norm_num at hlt ⊢
      linarith
    have hnat : (atomicProduct p.value).toNat < 10 ^ 38 := by exact_mod_cast this
    simp only [maxGoldAtomic, not_lt]
    omega

/-! ### Every price of a candidate was checked -/

theorem rfqRequestsViolation_precision {v : ArenaMarketRfqInputV1} :
    ∀ {l : List NegotiationRequestCandidateV1}, rfqRequestsViolation v l = none →
      ∀ r ∈ l, hasArenaMoneyPrecision r.openingPrice.value = true := by
  intro l
  induction l with
  | nil => intro _ r hr; cases hr
  | cons request rest ih =>
      intro h r hr
      simp only [rfqRequestsViolation] at h
      split_ifs at h with _ hprec
      rcases List.mem_cons.mp hr with rfl | hr
      · simpa using hprec
      · exact ih h r hr

/-- A decide candidate has no public price, and its limit price, if any, was checked. -/
theorem decideOrderViolation_none {v : ArenaDecideInputV1} {side : Side} {o : Order}
    (h : decideOrderViolation v side o = none) :
    o.publicPrice = none ∧
      (o.limitPrice.any fun p => !hasArenaMoneyPrecision p.value) = false := by
  unfold decideOrderViolation at h
  split at h
  · cases h
  split at h
  · cases h
  rename_i hpublic
  split at h
  · cases h
  rename_i hlimit
  constructor
  · cases hp : o.publicPrice with
    | none => rfl
    | some p =>
        rw [hp] at hpublic
        exact absurd rfl hpublic
  · exact Bool.eq_false_of_not_eq_true hlimit

theorem decideOrderViolation_precision {v : ArenaDecideInputV1} {side : Side} {o : Order}
    (h : decideOrderViolation v side o = none) :
    ∀ p ∈ o.prices, hasArenaMoneyPrecision p.value = true := by
  obtain ⟨hpublic, hlimit⟩ := decideOrderViolation_none h
  intro p hp
  rw [Order.prices, hpublic, Option.toList_none, List.append_nil, Option.mem_toList] at hp
  rw [hp, Option.any_some] at hlimit
  cases hb : hasArenaMoneyPrecision p.value with
  | true => rfl
  | false =>
      rw [hb] at hlimit
      cases hlimit

theorem marketIntentOrderViolation_precision {v : ArenaMarketIntentInputV1} {side : Side}
    {o : Order} (h : marketIntentOrderViolation v side o = none) :
    ∀ p ∈ o.prices, hasArenaMoneyPrecision p.value = true := by
  unfold marketIntentOrderViolation at h
  split at h
  · cases h
  split at h
  · cases h
  split at h
  · rename_i publicPrice limitPrice hpub hlim
    by_cases hprec : (!hasArenaMoneyPrecision publicPrice.value ||
        !hasArenaMoneyPrecision limitPrice.value) = true
    · rw [if_pos hprec] at h
      cases h
    simp only [Bool.or_eq_true, Bool.not_eq_true', not_or, Bool.not_eq_false] at hprec
    intro p hp
    simp only [Order.prices, hpub, hlim, Option.toList_some, List.cons_append, List.nil_append,
      List.mem_cons, List.not_mem_nil, or_false] at hp
    rcases hp with rfl | rfl
    · exact hprec.2
    · exact hprec.1
  · cases h

theorem negotiationViolation_precision {v : ArenaNegotiateInputV1} {price : PositiveFixedDecimal}
    {m : PublicMessage} (h : negotiationViolation v (.propose price m) = none) :
    hasArenaMoneyPrecision price.value = true := by
  simp only [negotiationViolation] at h
  split_ifs at h with _ hprec
  simpa using hprec

/-- One case per branch of the projection: whatever price the action holds was checked. -/
theorem candidateViolation_precision {kind : TaskKind} {input : TaskInput} {a : Action}
    (h : candidateViolation kind input a = some none) :
    ∀ p ∈ a.prices, hasArenaMoneyPrecision p.value = true := by
  unfold candidateViolation at h
  split at h
  case h_1 | h_2 => exact decideOrderViolation_precision (by simpa using h)
  case h_7 | h_8 => exact marketIntentOrderViolation_precision (by simpa using h)
  case h_4 =>
    intro p hp
    simp only [Action.prices, List.mem_singleton] at hp
    subst hp
    exact negotiationViolation_precision (by simpa using h)
  case h_10 v l =>
    intro p hp
    obtain ⟨r, hr, rfl⟩ := List.mem_map.mp hp
    simp only [marketRfqViolation, Option.some.injEq] at h
    split_ifs at h
    exact rfqRequestsViolation_precision h r hr
  case h_14 => cases h
  all_goals
    intro p hp
    simp [Action.prices] at hp

/-- A candidate application carries the result's own action, free of violations. -/
theorem deriveApplication_candidate {t : ArenaAgentTaskV1} {r : AgentTaskResultV1}
    (h : (deriveApplication t r).outcome = .candidate) :
    ∃ a, r.action = some a ∧ (deriveApplication t r).action = some a ∧
      candidateViolation t.kind t.input a = some none := by
  have hdefault : ∀ reason, (defaultApplication t reason).outcome ≠ .candidate := by
    intro reason
    unfold defaultApplication
    cases t.kind <;> simp
  unfold deriveApplication at h ⊢
  split_ifs at h ⊢ with hs
  · exact absurd h (hdefault _)
  cases ha : r.action with
  | none =>
      rw [ha] at h
      exact absurd h (hdefault _)
  | some a =>
      rw [ha] at h
      simp only at h ⊢
      cases hv : candidateViolation t.kind t.input a with
      | none => rw [hv] at h; exact absurd h (hdefault _)
      | some violation =>
          cases violation with
          | some _ => rw [hv] at h; exact absurd h (hdefault _)
          | none => exact ⟨a, rfl, rfl, hv⟩

theorem deriveApplication_of_candidate {t : ArenaAgentTaskV1} {r : AgentTaskResultV1} {a : Action}
    (hs : r.status = .succeeded) (ha : r.action = some a)
    (hv : candidateViolation t.kind t.input a = some none) :
    deriveApplication t r = { accepted := true, outcome := .candidate, action := some a } := by
  unfold deriveApplication
  rw [if_neg (by simp [hs]), ha]
  simp only [hv]

/-- **A candidate's prices convert exactly when each is gold-representable**, for every
    task kind and every role. -/
theorem candidate_prices_convert_iff (t : ArenaAgentTaskV1) (r : AgentTaskResultV1)
    (hc : (deriveApplication t r).outcome = .candidate) :
    (∀ a, (deriveApplication t r).action = some a → ∀ p ∈ a.prices, ConvertsExactly p) ↔
      ∀ a, r.action = some a → ∀ p ∈ a.prices, GoldRepresentable p := by
  obtain ⟨a, hres, happ, hviol⟩ := deriveApplication_candidate hc
  have hprec := candidateViolation_precision hviol
  simp only [hres, happ, Option.some.injEq, forall_eq']
  exact forall₂_congr fun p hp => convertsExactly_iff (hprec p hp)

/-! ### A seller's price above the bound

A seller's limit price is compared with nothing, so a wire-valid `sell` at `10 ^ 32` gold
is a candidate, and its conversion raises.
-/

/-- The price a given text parses to. -/
def priceOfChars (cs : List Char) (d : Decimal) (h : parseFixedDecimalChars cs = .ok d)
    (hpos : 0 < d.coeff) : PositiveFixedDecimal :=
  ⟨d, ⟨String.ofList cs, by rw [parseFixedDecimal, String.toList_ofList]; exact h⟩, hpos⟩

def zeroCash : NonNegativeFixedDecimal :=
  ⟨⟨0, 0⟩, "0", by rw [parseFixedDecimal]; decide⟩

/-- A participant that holds one herb and may sell it. -/
def sellView : ArenaDecideInputV1 where
  gameId := "game-1"
  roundId := "round-1"
  roundIndex := 1
  cash := zeroCash
  holdings := [("herb", 1)]
  market := []
  failedNegotiations := 0
  deadlineAt := 1000

def sellTask : ArenaAgentTaskV1 where
  taskId := "task-1"
  kind := .decide
  gameId := "game-1"
  roundId := "round-1"
  gameAgentId := "agent-1"
  deadlineAt := 1000
  idempotencyKey := deriveIdempotencyKey id "agent-1" (.decide sellView)
  inputHash := "sha256:0000000000000000000000000000000000000000000000000000000000000000"
  input := .decide sellView

def sellResult (price : PositiveFixedDecimal) : AgentTaskResultV1 where
  resultId := "result-1"
  taskId := "task-1"
  status := .succeeded
  action := some (.sell { good := "herb", limitPrice := some price })
  shape := by simp

/-- `100000000000000000000000000000000`, a one followed by 32 zeros. -/
def oversizedPrice : PositiveFixedDecimal :=
  priceOfChars ('1' :: List.replicate 32 '0') ⟨10 ^ 32, 0⟩ (by decide) (by decide)

/-- `2.5` gold. -/
def smallPrice : PositiveFixedDecimal :=
  priceOfChars ['2', '.', '5'] ⟨25, -1⟩ (by decide) (by decide)

theorem sellResult_candidate (p : PositiveFixedDecimal)
    (h : hasArenaMoneyPrecision p.value = true) :
    (deriveApplication sellTask (sellResult p)).outcome = .candidate ∧
      (deriveApplication sellTask (sellResult p)).action = (sellResult p).action := by
  have hviol : decideOrderViolation sellView .sell { good := "herb", limitPrice := some p }
      = none := by
    have hheld : sellView.held "herb" = 1 := by decide
    unfold decideOrderViolation
    rw [if_neg (by decide), if_neg (by simp), if_neg (by rw [Option.any_some, h]; simp),
      if_neg (by simp [sellView]), if_neg (by simp [Order.quantity, orderQuantity, hheld]),
      if_neg (by simp)]
  have hv : candidateViolation .decide (.decide sellView)
      (.sell { good := "herb", limitPrice := some p }) = some none := by
    simp only [candidateViolation, hviol]
  have happ := deriveApplication_of_candidate (t := sellTask) (r := sellResult p) rfl rfl hv
  rw [happ]
  exact ⟨rfl, rfl⟩

theorem oversized_sell_does_not_convert :
    ¬ ∀ (t : ArenaAgentTaskV1) (r : AgentTaskResultV1), t.wireValid id = true →
      (deriveApplication t r).outcome = .candidate →
      ∀ a, (deriveApplication t r).action = some a → ∀ p ∈ a.prices, ConvertsExactly p := by
  intro h
  have hprec : hasArenaMoneyPrecision oversizedPrice.value = true := by decide
  obtain ⟨hc, ha⟩ := sellResult_candidate oversizedPrice hprec
  have hvalid : sellTask.wireValid id = true := by
    simp [ArenaAgentTaskV1.wireValid, sellTask, TaskInput.validate, ArenaDecideInputV1.validate,
      sellView, roundCountsValid, ArenaDecideLimitsV1.noDuplicates, TaskInput.kind,
      TaskInput.gameId, TaskInput.roundId, TaskInput.deadlineAt]
  have hconv := h sellTask (sellResult oversizedPrice) hvalid hc _ ha oversizedPrice
    (by simp [Action.prices, Order.prices])
  obtain ⟨n, hgold, -⟩ := hconv oversizedPrice.value.formatF (by simp)
  have herr : gold (.text oversizedPrice.value.formatF) = .error .exceedsBound := by
    decide
  rw [herr] at hgold
  cases hgold

theorem small_sell_converts :
    (deriveApplication sellTask (sellResult smallPrice)).outcome = .candidate ∧
      ∀ a, (deriveApplication sellTask (sellResult smallPrice)).action = some a →
        ∀ p ∈ a.prices, ConvertsExactly p := by
  have hc := (sellResult_candidate smallPrice (by decide)).1
  refine ⟨hc, (candidate_prices_convert_iff sellTask (sellResult smallPrice) hc).mpr ?_⟩
  intro a ha p hp
  simp only [sellResult, Option.some.injEq] at ha
  subst ha
  simp only [Action.prices, Order.prices, Option.toList_some, Option.toList_none,
    List.append_nil, List.mem_singleton] at hp
  subst hp
  refine ⟨?_, 25, -1, by norm_num, rfl⟩
  simp only [smallPrice, priceOfChars, Decimal.val]
  norm_num

end Arena402
