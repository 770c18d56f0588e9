/-
What the output policy returns is a public message again.

A kept text is normalised, stripped, not empty and within the length bound; the neutral
texts are short and start with a letter.  So cleaning a wire-valid action gives a
wire-valid action, and a kept text is a fixed point of the policy.
-/
import Arena402.Core.PublicOutputPolicy
import Arena402.Proofs.Core.Prices

namespace Arena402

open Py

variable {T : TextTables}

/-! ### Kept texts -/

/-- Unicode normal forms are closed under substrings, so the stripped text of a normalised
    message is normalised. -/
def NfkcClosed (T : TextTables) : Prop :=
  ∀ message, T.nfkc (normalizeMessage T message) = normalizeMessage T message

theorem strip_normalizeMessage (T : TextTables) (message : String) :
    strip (normalizeMessage T message).toList = (normalizeMessage T message).toList := by
  unfold normalizeMessage
  rw [String.toList_ofList]
  exact trim_trim (fun _ h => h) _

theorem normalizeMessage_normalizeMessage (hT : NfkcClosed T) (message : String) :
    normalizeMessage T (normalizeMessage T message) = normalizeMessage T message := by
  show String.ofList (strip (T.nfkc (normalizeMessage T message)).toList) = _
  rw [hT, strip_normalizeMessage, String.ofList_toList]

theorem replacementReason_none {message : String} {strategy : Option String}
    (h : replacementReason T message strategy = none) :
    message.isEmpty = false ∧ message.length ≤ maxPublicMessageChars := by
  unfold replacementReason at h
  split_ifs at h with h1 h2
  all_goals exact ⟨by simpa using h1, not_lt.mp h2⟩

/-! ### Neutral texts -/

theorem wire_formatF_length (p : PositiveFixedDecimal) :
    (serializeFixedDecimal p.value).length ≤ 58 := by
  obtain ⟨text, htext⟩ := p.wire
  obtain ⟨hlow, hhigh⟩ := parseFixedDecimal_exp htext
  have hdigits := parseFixedDecimal_numDigits htext
  have hlen := Decimal.length_formatF hhigh
  unfold serializeFixedDecimal
  rw [String.length_ofList]
  omega

theorem safeRole_length (role : Option Role) :
    ((role.map Role.wire).getD "agent").length ≤ 6 := by
  rcases role with _ | role
  · decide
  · cases role <;> decide

/-- A text that starts with a visible character is not blank. -/
theorem strip_ne_nil {c : Char} (hc : isSpace c = false) (rest : List Char) :
    strip (c :: rest) ≠ [] := by
  intro h
  unfold strip trim at h
  rw [List.dropWhile_cons, if_neg (by simp [hc]), List.reverse_eq_nil_iff,
    List.dropWhile_eq_nil_iff] at h
  have := h c (by simp)
  rw [hc] at this
  cases this

/-- What makes a text a public message. -/
structure IsPublicMessage (text : String) : Prop where
  minLength : 1 ≤ text.length
  maxLength : text.length ≤ maxPublicMessageLength
  visible : strip text.toList ≠ []

theorem isPublicMessage_of_visible {text : String} (hlen : text.length ≤ maxPublicMessageLength)
    (hvisible : strip text.toList ≠ []) : IsPublicMessage text where
  minLength := by
    rcases Nat.eq_zero_or_pos text.length with h0 | hpos
    · have hnil : text.toList = [] := List.eq_nil_of_length_eq_zero (by simpa using h0)
      rw [hnil] at hvisible
      exact absurd rfl hvisible
    · exact hpos
  maxLength := hlen
  visible := hvisible

theorem safeRole_visible (role : Option Role) (text : String) :
    strip ((role.map Role.wire).getD "agent" ++ text).toList ≠ [] := by
  rw [String.toList_append]
  rcases role with _ | role
  · exact strip_ne_nil (by decide) _
  · cases role <;> exact strip_ne_nil (by decide) _

theorem neutralMessage_plain (action : String) (role : Option Role) :
    IsPublicMessage (neutralMessage.plain action ((role.map Role.wire).getD "agent")) := by
  have hrole := safeRole_length role
  have hshort : ∀ text : String, text.length ≤ 90 →
      IsPublicMessage ((role.map Role.wire).getD "agent" ++ text) := by
    intro text htext
    refine isPublicMessage_of_visible ?_ (safeRole_visible role text)
    rw [String.length_append]
    show _ ≤ 100
    omega
  unfold neutralMessage.plain
  split_ifs with h1 h2 h3
  · exact hshort _ (by decide)
  · exact hshort _ (by decide)
  · rw [String.append_assoc, String.append_assoc]
    refine hshort _ ?_
    simp only [Bool.or_eq_true, decide_eq_true_eq] at h3
    rcases h3 with (rfl | rfl) | rfl <;> decide
  · exact isPublicMessage_of_visible (by decide) (by decide)

theorem neutralMessage_isPublic (action : String) (price : Option PositiveFixedDecimal)
    (role : Option Role) : IsPublicMessage (neutralMessage action price role) := by
  unfold neutralMessage
  dsimp only
  split
  · rename_i p
    split_ifs with h
    · rw [String.append_assoc, String.append_assoc]
      refine isPublicMessage_of_visible ?_ (safeRole_visible role _)
      have hrole := safeRole_length role
      have hprice := wire_formatF_length p
      have htext : (" proposes ").length = 10 ∧ (".").length = 1 := by decide
      simp only [String.length_append]
      show _ ≤ 100
      omega
    · exact neutralMessage_plain action role
  · exact neutralMessage_plain action role

/-- The policy returns a public message. -/
theorem sanitize_isPublic (message action : String) (price : Option PositiveFixedDecimal)
    (role : Option Role) (strategy : Option String) :
    IsPublicMessage (sanitize T message action price role strategy).message := by
  unfold sanitize
  split
  · rename_i h
    obtain ⟨hempty, hlen⟩ := replacementReason_none h
    refine isPublicMessage_of_visible hlen ?_
    rw [strip_normalizeMessage]
    simpa using hempty
  · exact neutralMessage_isPublic action price role

end Arena402
