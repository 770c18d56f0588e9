/-
When an action the connector accepts is accepted on the wire.

The two validators agree on goods and prices.  They differ in two places: the connector allows ids
of 512 bytes where the wire model stops at 256 characters, and it trims less, so a message of the
characters U+001C to U+001F is blank on the wire only.
-/
import Mathlib
import Arena402.Connector.ActionContent
import Arena402.Lib.Raise
import Arena402.Proofs.Core.Prices
import Arena402.Proofs.Lib.GoDecode

namespace Arena402.Connector

open Py (Dict Json ok_of_bind toNat_of_isAlphanum toNat_of_isDigit utf8ByteSize_ascii)
open Go (Field FieldType Struct)

variable {text : String} {fields : List (String × Json)}

/-! ### Ids -/

theorem ascii_of_pattern (h : arenaIdentifierPattern text = true) :
    ∀ c ∈ text.toList, c.toNat < 128 := by
  unfold arenaIdentifierPattern at h
  cases hcs : text.toList with
  | nil => simp
  | cons first rest =>
      rw [hcs, Bool.and_eq_true, List.all_eq_true] at h
      intro c hc
      rcases List.mem_cons.mp hc with rfl | hc
      · exact toNat_of_isAlphanum h.1
      · have hrest := h.2 c hc
        simp only [isIdentifierRest, Bool.or_eq_true, decide_eq_true_eq] at hrest
        rcases hrest with (((hrest | rfl) | rfl) | rfl) | rfl
        · exact toNat_of_isAlphanum hrest
        all_goals decide

/-- The id check of the connector, in characters. -/
theorem identifier_iff {maxBytes : Nat} : identifier maxBytes text = true ↔
    text.length ≤ maxBytes ∧ arenaIdentifierPattern text = true := by
  unfold identifier
  rw [Bool.and_eq_true, decide_eq_true_eq]
  refine and_congr_left fun hpattern => ?_
  have hsize := utf8ByteSize_ascii (ascii_of_pattern hpattern)
  rw [String.ofList_toList] at hsize
  rw [hsize]
  rfl

theorem one_le_of_pattern (h : arenaIdentifierPattern text = true) : 1 ≤ text.length := by
  unfold arenaIdentifierPattern at h
  show 1 ≤ text.toList.length
  cases hcs : text.toList with
  | nil => rw [hcs] at h; cases h
  | cons c rest => simp

/-- An id of the connector is one of the wire when it is short enough. -/
theorem wire_identifier {maxBytes maxLength : Nat} (h : identifier maxBytes text = true) :
    Wire.patternText maxLength (.str text) = if text.length ≤ maxLength then some text else none := by
  have hpattern := (identifier_iff.mp h).2
  have hsame : Wire.identifierPattern text = true := hpattern
  unfold Wire.patternText
  simp [hsame, one_le_of_pattern hpattern]

/-! ### Prices -/

theorem ofDigitChars_pos {cs : List Char} (h : ∀ c ∈ cs, c.isDigit = true)
    (hpos : ∃ c ∈ cs, c ≠ '0') : 0 < Nat.ofDigitChars 10 cs 0 := by
  induction cs with
  | nil => simp at hpos
  | cons c rest ih =>
      rw [Nat.ofDigitChars_cons, Nat.ofDigitChars_eq_ofDigitChars_zero]
      by_cases hzero : c = '0'
      · obtain ⟨x, hx, hne⟩ := hpos
        have hx' : x ∈ rest := by
          rcases List.mem_cons.mp hx with rfl | hx
          · exact absurd hzero hne
          · exact hx
        have := ih (fun y hy => h y (List.mem_cons_of_mem c hy)) ⟨x, hx', hne⟩
        omega
      · have hrange : 48 ≤ c.toNat ∧ c.toNat ≤ 57 :=
          Char.isDigit_iff_toNat.mp (h c List.mem_cons_self)
        have hne : c.toNat ≠ 48 := fun heq => hzero (Char.toNat_inj.mp heq)
        have hdigit : 0 < 10 * 0 + (c.toNat - '0'.toNat) := by
          show 0 < 10 * 0 + (c.toNat - 48)
          omega
        have := Nat.mul_pos (Nat.pow_pos (a := 10) (n := rest.length) (by decide)) hdigit
        omega

/-- The numerals of the connector's pattern. -/
theorem decimalPattern_cases (h : arenaFixedDecimalPattern text = true) :
    ∃ int : List Char, int ≠ [] ∧ (∀ c ∈ int, c.isDigit = true) ∧
      (int = ['0'] ∨ int.head? ≠ some '0') ∧
      (text.toList = int ∧ int ≠ ['0'] ∨
        ∃ frac : List Char, frac ≠ [] ∧ (∀ c ∈ frac, c.isDigit = true) ∧
          text.toList = int ++ '.' :: frac ∧ (int = ['0'] → ∃ c ∈ frac, c ≠ '0')) := by
  have hsplit := (List.takeWhile_append_dropWhile (p := Char.isDigit) (l := text.toList)).symm
  have hdigits : ∀ c ∈ text.toList.takeWhile Char.isDigit, c.isDigit = true :=
    fun c hc => List.all_eq_true.mp List.all_takeWhile c hc
  unfold arenaFixedDecimalPattern at h
  simp only [List.span_eq_takeWhile_dropWhile] at h
  generalize hint : text.toList.takeWhile Char.isDigit = int at h hsplit hdigits
  generalize hrest : text.toList.dropWhile Char.isDigit = rest at h hsplit
  by_cases hzero : int = ['0']
  · rw [if_pos hzero] at h
    split at h
    · next frac =>
        rw [Bool.and_eq_true, List.all_eq_true, List.any_eq_true] at h
        obtain ⟨hfrac, c, hc, hne⟩ := h
        exact ⟨int, by simp [hzero], hdigits, Or.inl hzero, Or.inr ⟨frac,
          List.ne_nil_of_mem hc, hfrac, hsplit, fun _ => ⟨c, hc, of_decide_eq_true hne⟩⟩⟩
    · cases h
  · rw [if_neg hzero] at h
    simp only [Bool.and_eq_true, Bool.not_eq_true', List.isEmpty_eq_false_iff,
      decide_eq_true_eq] at h
    obtain ⟨⟨hne, hhead⟩, htail⟩ := h
    refine ⟨int, hne, hdigits, Or.inr hhead, ?_⟩
    cases rest with
    | nil => exact Or.inl ⟨by rw [hsplit, List.append_nil], hzero⟩
    | cons c frac =>
        simp only [Bool.and_eq_true, decide_eq_true_eq, Bool.not_eq_true',
          List.isEmpty_eq_false_iff, List.all_eq_true] at htail
        obtain ⟨⟨rfl, hfrac⟩, hall⟩ := htail
        exact Or.inr ⟨frac, hfrac, hall, hsplit, fun h => absurd h hzero⟩

theorem exists_ne_zero {int : List Char} (hne : int ≠ []) (hhead : int.head? ≠ some '0') :
    ∃ c ∈ int, c ≠ '0' := by
  cases int with
  | nil => exact absurd rfl hne
  | cons c rest => exact ⟨c, List.mem_cons_self, fun h => hhead (by rw [h]; rfl)⟩

theorem size_digits {cs : List Char} (h : ∀ c ∈ cs, c.isDigit = true) :
    (String.ofList cs).utf8ByteSize = cs.length :=
  utf8ByteSize_ascii fun c hc => toNat_of_isDigit (h c hc)

/-- A price of the connector is read by the wire model as a positive decimal. -/
theorem parse_of_fixedDecimal (h : fixedDecimal text = true) :
    ∃ d, parseFixedDecimal text = .ok d ∧ 0 < d.coeff := by
  unfold fixedDecimal at h
  simp only [Bool.and_eq_true, decide_eq_true_eq] at h
  obtain ⟨⟨hpattern, htotal⟩, hplaces⟩ := h
  obtain ⟨int, hne, hint, hhead, ⟨htext, hnotzero⟩ | ⟨frac, hfracne, hfrac, htext, hzero⟩⟩ :=
    decimalPattern_cases hpattern
  · have hparts : cutPoint text = (String.ofList int, "") := by
      have := partitionPoint_int hint
      unfold partitionPoint at this
      rw [Prod.mk.injEq] at this
      unfold cutPoint
      rw [htext, this.1, this.2]
    rw [hparts, size_digits hint] at htotal
    have hhead' := hhead.resolve_left hnotzero
    have hwire : fixedDecimalPattern text.toList = true := by
      unfold fixedDecimalPattern
      rw [htext, Py.Decimal.span_digits_all hint]
      simp [hne, hhead']
    have hof := Py.Decimal.ofChars_of_unsigned (fun c hc => Or.inl (hint c hc))
      (Py.Decimal.parseUnsigned_int hint hne)
    refine ⟨⟨Nat.ofDigitChars 10 int 0, 0⟩, ?_,
      ofDigitChars_pos hint (exists_ne_zero hne hhead')⟩
    unfold parseFixedDecimal parseFixedDecimalChars
    rw [hwire, htext, partitionPoint_int hint, hof]
    have hlength : int.length ≤ 38 := htotal
    simp [maxDecimalDigits, hlength]
  · have hparts : cutPoint text = (String.ofList int, String.ofList frac) := by
      have hsplit : partitionPoint (int ++ '.' :: frac) = (int, frac) := partitionPoint_point hint
      unfold partitionPoint at hsplit
      rw [Prod.mk.injEq] at hsplit
      unfold cutPoint
      rw [htext, hsplit.1, hsplit.2]
    rw [hparts] at htotal hplaces
    simp only [size_digits hint, size_digits hfrac] at htotal hplaces
    have hspan : (int ++ '.' :: frac).span Char.isDigit = (int, '.' :: frac) :=
      Py.Decimal.span_digits hint (by simp)
    have hwire : fixedDecimalPattern text.toList = true := by
      unfold fixedDecimalPattern
      rw [htext, hspan]
      rcases hhead with rfl | hhead
      · simpa [hfracne] using hfrac
      · simp [hne, hhead, hfracne]
        exact hfrac
    have hall : ∀ c ∈ int ++ frac, c.isDigit = true := by
      intro c hc
      rcases List.mem_append.mp hc with hc | hc
      · exact hint c hc
      · exact hfrac c hc
    have hchars : ∀ c ∈ int ++ '.' :: frac, c.isDigit = true ∨ c = '.' := by
      intro c hc
      rcases List.mem_append.mp hc with hc | hc
      · exact Or.inl (hint c hc)
      · rcases List.mem_cons.mp hc with rfl | hc
        · exact Or.inr rfl
        · exact Or.inl (hfrac c hc)
    have hof := Py.Decimal.ofChars_of_unsigned hchars (Py.Decimal.parseUnsigned_point hint hfrac hne)
    have hpos : ∃ c ∈ int ++ frac, c ≠ '0' := by
      rcases hhead with h | h
      · obtain ⟨c, hc, hne⟩ := hzero h
        exact ⟨c, List.mem_append_right int hc, hne⟩
      · obtain ⟨c, hc, hne⟩ := exists_ne_zero hne h
        exact ⟨c, List.mem_append_left frac hc, hne⟩
    refine ⟨⟨Nat.ofDigitChars 10 (int ++ frac) 0, -(frac.length : Int)⟩, ?_,
      ofDigitChars_pos hall hpos⟩
    unfold parseFixedDecimal parseFixedDecimalChars
    rw [hwire, htext, partitionPoint_point hint, hof]
    simp [maxDecimalDigits, maxDecimalPlaces, Nat.not_lt.mpr htotal, Nat.not_lt.mpr hplaces]

/-- The wire model takes a price of the connector, and at the same value. -/
theorem wire_price (h : fixedDecimal text = true) :
    ∃ p, Wire.positiveFixedDecimal (.str text) = some p ∧ saidPrice p = parseFixedDecimal text := by
  obtain ⟨d, hparse, hpos⟩ := parse_of_fixedDecimal h
  refine ⟨⟨d, ⟨text, hparse⟩, hpos⟩, ?_, hparse.symm⟩
  show Wire.positiveOfText text = _
  unfold Wire.positiveOfText
  split
  · next value hvalue =>
      obtain rfl := Except.ok.inj (hvalue.symm.trans hparse)
      rw [dif_pos hpos]
  · next raised hraised =>
      rw [hparse] at hraised
      cases hraised

/-! ### Messages -/

/-- A message of the connector is one of the wire when `str.strip` leaves something of it. -/
theorem wire_message (h : publicMessage text = true) (hvisible : Py.strip text.toList ≠ []) :
    ∃ m, Wire.publicMessage (.str text) = some m ∧ m.text = text := by
  unfold publicMessage at h
  rw [Bool.and_eq_true, decide_eq_true_eq] at h
  have hlength : 1 ≤ text.length := by
    show 1 ≤ text.toList.length
    cases hcs : text.toList with
    | nil => rw [hcs] at hvisible; exact absurd rfl hvisible
    | cons c rest => simp
  have hall : 1 ≤ text.length ∧ text.length ≤ maxPublicMessageLength ∧
      Py.strip text.toList ≠ [] := ⟨hlength, h.2, hvisible⟩
  exact ⟨⟨text, hall.1, hall.2.1, hall.2.2⟩, dif_pos hall, rfl⟩

/-- What the wire model takes is visible to it. -/
theorem visible_of_wire {m : PublicMessage} (h : Wire.publicMessage (.str text) = some m) :
    Py.strip text.toList ≠ [] := by
  by_contra hblank
  have hnone : Wire.publicMessage (.str text) = none := dif_neg fun hall => hall.2.2 hblank
  rw [hnone] at h
  cases h

theorem ne_empty_of_message (h : publicMessage text = true) : text ≠ "" := by
  rintro rfl
  revert h
  decide

theorem ne_empty_of_identifier {maxBytes : Nat} (h : identifier maxBytes text = true) : text ≠ "" := by
  rintro rfl
  exact absurd (identifier_iff.mp h).2 (by decide)

/-! ### The checks -/

theorem check_ok {condition : Bool} {message : String} (h : check condition message = .ok ()) :
    condition = true := by
  cases condition with
  | true => rfl
  | false => cases h

theorem checkText_ok {name message : String} {valid : String → Bool}
    (h : checkText name valid message fields = .ok ()) :
    ∀ text, textAt name fields = some text → valid text = true := by
  intro text htext
  unfold checkText at h
  rw [htext] at h
  exact check_ok h

/-- What the checks on the written fields establish. -/
structure Checked (action : String) (fields : List (String × Json)) : Prop where
  named : textAt "action" fields = some action
  good : ∀ text, textAt "good" fields = some text → identifier 128 text = true
  quantity : ∀ n, fields.lookup "quantity" = some (.int n) → n = 1
  price : ∀ text, textAt "price" fields = some text → fixedDecimal text = true
  publicPrice : ∀ text, textAt "publicPrice" fields = some text → fixedDecimal text = true
  limitPrice : ∀ text, textAt "limitPrice" fields = some text → fixedDecimal text = true
  message : ∀ text, textAt "message" fields = some text → publicMessage text = true
  requests : action = "request_negotiations" → checkRequests fields = .ok ()
  requestId : action = "engage" →
    identifier 512 ((textAt "requestId" fields).getD "") = true

theorem checked_of_ok {action : String} (h : checkFields action fields = .ok ()) :
    Checked action fields := by
  unfold checkFields at h
  obtain ⟨⟨⟩, haction, h⟩ := ok_of_bind h
  obtain ⟨⟨⟩, hgood, h⟩ := ok_of_bind h
  obtain ⟨⟨⟩, hquantity, h⟩ := ok_of_bind h
  obtain ⟨⟨⟩, hprice, h⟩ := ok_of_bind h
  obtain ⟨⟨⟩, hpublic, h⟩ := ok_of_bind h
  obtain ⟨⟨⟩, hlimit, h⟩ := ok_of_bind h
  obtain ⟨⟨⟩, hmessage, h⟩ := ok_of_bind h
  refine ⟨of_decide_eq_true (check_ok haction), checkText_ok hgood, ?_, checkText_ok hprice,
    checkText_ok hpublic, checkText_ok hlimit, checkText_ok hmessage, ?_, ?_⟩
  · intro n hn
    unfold checkQuantity at hquantity
    rw [hn] at hquantity
    exact of_decide_eq_true (check_ok hquantity)
  · intro hrequests
    rw [if_pos hrequests] at h
    obtain ⟨⟨⟩, hchecked, -⟩ := ok_of_bind h
    exact hchecked
  · intro hengage
    rw [if_neg (by rw [hengage]; decide)] at h
    rw [if_pos hengage] at h
    exact check_ok h

end Arena402.Connector
