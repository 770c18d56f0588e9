/-
Which payloads keep their secrets out of the stored event.

The text of a container below the fourth level shows everything in it, so a secret is safe only
behind the cut.  `beforeSecret` is the text before the first value under a sensitive key: it does
not depend on the secrets, and an object and a list put there are told apart, since no pattern
removes a brace.
-/
import Arena402.Gateway.EventRedaction

namespace Arena402.Gateway.Redaction

open Py

variable {F : Type}

/-! ### Payloads that differ in secrets -/

mutual

/-- The same payload, apart from what stands under sensitive keys. -/
inductive Alike : Payload F → Payload F → Prop
  | same (v : Payload F) : Alike v v
  | list {items items' : List (Payload F)} (h : AlikeItems items items') :
      Alike (.list items) (.list items')
  | object {fields fields' : List (String × Payload F)} (h : AlikeFields fields fields') :
      Alike (.object fields) (.object fields')

inductive AlikeItems : List (Payload F) → List (Payload F) → Prop
  | nil : AlikeItems [] []
  | cons {v v' : Payload F} {rest rest' : List (Payload F)} (h : Alike v v')
      (hrest : AlikeItems rest rest') : AlikeItems (v :: rest) (v' :: rest')

inductive AlikeFields : List (String × Payload F) → List (String × Payload F) → Prop
  | nil : AlikeFields [] []
  | secret {key : String} {rest rest' : List (String × Payload F)} (v v' : Payload F)
      (hkey : sensitiveKey key = true) (hrest : AlikeFields rest rest') :
      AlikeFields ((key, v) :: rest) ((key, v') :: rest')
  | plain {key : String} {v v' : Payload F} {rest rest' : List (String × Payload F)}
      (h : Alike v v') (hrest : AlikeFields rest rest') :
      AlikeFields ((key, v) :: rest) ((key, v') :: rest')

end

theorem AlikeItems.refl : ∀ items : List (Payload F), AlikeItems items items
  | [] => .nil
  | v :: rest => .cons (.same v) (AlikeItems.refl rest)

theorem AlikeFields.refl : ∀ fields : List (String × Payload F), AlikeFields fields fields
  | [] => .nil
  | (_, v) :: rest => .plain (.same v) (AlikeFields.refl rest)

theorem AlikeItems.of_list {items : List (Payload F)} {v : Payload F} (h : Alike (.list items) v) :
    ∃ items', v = .list items' ∧ AlikeItems items items' := by
  cases h with
  | same => exact ⟨items, rfl, .refl items⟩
  | list h => exact ⟨_, rfl, h⟩

theorem AlikeFields.of_object {fields : List (String × Payload F)} {v : Payload F}
    (h : Alike (.object fields) v) :
    ∃ fields', v = .object fields' ∧ AlikeFields fields fields' := by
  cases h with
  | same => exact ⟨fields, rfl, .refl fields⟩
  | object h => exact ⟨_, rfl, h⟩

/-! ### The text before the first secret -/

/-- The text before the first secret of a value, or else of what follows it. -/
def firstSecret (front text : List Char) (before more : Option (List Char)) :
    Option (List Char) :=
  match before with
  | some u => some (front ++ u)
  | none => more.map (front ++ text ++ ·)

mutual

/-- The text of a value before the first secret in it, if there is one. -/
def beforeSecret (rt : Runtime F) : Payload F → Option (List Char)
  | .list items => (beforeSecretItems rt [] items).map ('[' :: ·)
  | .object fields => (beforeSecretFields rt [] fields).map ('{' :: ·)
  | _ => none

def beforeSecretItems (rt : Runtime F) : List Char → List (Payload F) → Option (List Char)
  | _, [] => none
  | separator, v :: rest =>
    firstSecret separator (rt.reprValue v) (beforeSecret rt v)
      (beforeSecretItems rt [',', ' '] rest)

def beforeSecretFields (rt : Runtime F) :
    List Char → List (String × Payload F) → Option (List Char)
  | _, [] => none
  | separator, (key, v) :: rest =>
    if sensitiveKey key then some (separator ++ rt.reprString key ++ [':', ' '])
    else
      firstSecret (separator ++ rt.reprString key ++ [':', ' ']) (rt.reprValue v)
        (beforeSecret rt v) (beforeSecretFields rt [',', ' '] rest)

end

/-- What is common to the texts of two values that differ in secrets: all of it, or what is before
    the first secret. -/
def SharedText (before : Option (List Char)) (text text' : List Char) : Prop :=
  match before with
  | none => text = text'
  | some u => ∃ rest rest', text = u ++ rest ∧ text' = u ++ rest'

theorem SharedText.append {before : Option (List Char)} {text text' : List Char} (front : List Char)
    (h : SharedText before text text') :
    SharedText (before.map (front ++ ·)) (front ++ text) (front ++ text') := by
  cases before with
  | none => exact congrArg (front ++ ·) h
  | some u =>
      obtain ⟨rest, rest', rfl, rfl⟩ := h
      exact ⟨rest, rest', by rw [List.append_assoc], by rw [List.append_assoc]⟩

/-- A value and what follows it. -/
theorem SharedText.both {before more : Option (List Char)} {text text' later later' : List Char}
    (front : List Char) (h : SharedText before text text') (hlater : SharedText more later later') :
    SharedText (firstSecret front text before more) (front ++ text ++ later)
      (front ++ text' ++ later') := by
  cases before with
  | none =>
      have heq : text = text' := h
      rw [← heq]
      exact hlater.append (front ++ text)
  | some u =>
      obtain ⟨rest, rest', rfl, rfl⟩ := h
      exact ⟨rest ++ later, rest' ++ later', by simp only [List.append_assoc], by
        simp only [List.append_assoc]⟩

mutual

/-- Texts of values that differ in secrets agree up to the first one. -/
theorem sharedText (rt : Runtime F) : ∀ v w : Payload F, Alike v w →
    SharedText (beforeSecret rt v) (rt.reprValue v) (rt.reprValue w)
  | .null, w, h => by
      cases h
      rfl
  | .bool b, w, h => by
      cases h
      rfl
  | .int n, w, h => by
      cases h
      rfl
  | .float x, w, h => by
      cases h
      rfl
  | .str s, w, h => by
      cases h
      rfl
  | .list items, w, h => by
      obtain ⟨items', rfl, hitems⟩ := AlikeItems.of_list h
      rw [beforeSecret, Runtime.reprValue, Runtime.reprValue]
      exact (sharedItems rt [] items items' hitems).append ['[']
  | .object fields, w, h => by
      obtain ⟨fields', rfl, hfields⟩ := AlikeFields.of_object h
      rw [beforeSecret, Runtime.reprValue, Runtime.reprValue]
      exact (sharedFields rt [] fields fields' hfields).append ['{']

theorem sharedItems (rt : Runtime F) :
    ∀ (separator : List Char) (items items' : List (Payload F)),
    AlikeItems items items' → SharedText (beforeSecretItems rt separator items)
      (rt.reprItems separator items) (rt.reprItems separator items')
  | separator, [], items', h => by
      cases h
      rfl
  | separator, v :: rest, items', h => by
      cases h with
      | cons hv hrest =>
          rw [beforeSecretItems, Runtime.reprItems, Runtime.reprItems]
          exact (sharedText rt v _ hv).both separator (sharedItems rt [',', ' '] rest _ hrest)

theorem sharedFields (rt : Runtime F) : ∀ (separator : List Char)
    (fields fields' : List (String × Payload F)), AlikeFields fields fields' →
    SharedText (beforeSecretFields rt separator fields)
      (rt.reprFields separator fields) (rt.reprFields separator fields')
  | separator, [], fields', h => by
      cases h
      rfl
  | separator, (key, v) :: rest, fields', h => by
      cases h with
      | secret _ v' hkey hrest =>
          rw [beforeSecretFields, if_pos hkey, Runtime.reprFields, Runtime.reprFields]
          exact ⟨_, _, by rw [List.append_assoc], by rw [List.append_assoc]⟩
      | plain hv hrest =>
          rw [beforeSecretFields, Runtime.reprFields, Runtime.reprFields]
          by_cases hkey : sensitiveKey key = true
          · rw [if_pos hkey]
            exact ⟨_, _, by rw [List.append_assoc], by rw [List.append_assoc]⟩
          · rw [if_neg hkey]
            exact (sharedText rt v _ hv).both (separator ++ rt.reprString key ++ [':', ' '])
              (sharedFields rt [',', ' '] rest _ hrest)

end

/-! ### Two payloads told apart by their text -/

mutual

/-- An object and a list in place of the first secret. -/
theorem told_apart (rt : Runtime F) :
    ∀ (v : Payload F) (u : List Char), beforeSecret rt v = some u →
    ∃ w w' rest, Alike v w ∧ Alike v w' ∧ rt.reprValue w = u ++ '{' :: '}' :: rest ∧
      rt.reprValue w' = u ++ '[' :: ']' :: rest
  | .null, u, h => by
      rw [beforeSecret] at h
      · cases h
      all_goals simp
  | .bool b, u, h => by
      rw [beforeSecret] at h
      · cases h
      all_goals simp
  | .int n, u, h => by
      rw [beforeSecret] at h
      · cases h
      all_goals simp
  | .float x, u, h => by
      rw [beforeSecret] at h
      · cases h
      all_goals simp
  | .str s, u, h => by
      rw [beforeSecret] at h
      · cases h
      all_goals simp
  | .list items, u, h => by
      rw [beforeSecret] at h
      obtain ⟨before, hbefore, rfl⟩ := Option.map_eq_some_iff.mp h
      obtain ⟨xs, ys, rest, hxs, hys, hx, hy⟩ := told_apart_items rt [] items before hbefore
      refine ⟨.list xs, .list ys, rest, .list hxs, .list hys, ?_, ?_⟩
      · rw [Runtime.reprValue, hx]
        rfl
      · rw [Runtime.reprValue, hy]
        rfl
  | .object fields, u, h => by
      rw [beforeSecret] at h
      obtain ⟨before, hbefore, rfl⟩ := Option.map_eq_some_iff.mp h
      obtain ⟨xs, ys, rest, hxs, hys, hx, hy⟩ := told_apart_fields rt [] fields before hbefore
      refine ⟨.object xs, .object ys, rest, .object hxs, .object hys, ?_, ?_⟩
      · rw [Runtime.reprValue, hx]
        rfl
      · rw [Runtime.reprValue, hy]
        rfl

theorem told_apart_items (rt : Runtime F) : ∀ (separator : List Char) (items : List (Payload F))
    (u : List Char), beforeSecretItems rt separator items = some u →
    ∃ xs ys rest, AlikeItems items xs ∧ AlikeItems items ys ∧
      rt.reprItems separator xs = u ++ '{' :: '}' :: rest ∧
      rt.reprItems separator ys = u ++ '[' :: ']' :: rest
  | separator, [], u, h => by
      rw [beforeSecretItems] at h
      cases h
  | separator, v :: rest, u, h => by
      rw [beforeSecretItems] at h
      cases hv : beforeSecret rt v with
      | some before =>
          rw [hv] at h
          obtain rfl := Option.some.inj h
          obtain ⟨w, w', more, hw, hw', hx, hy⟩ := told_apart rt v before hv
          refine ⟨w :: rest, w' :: rest, more ++ rt.reprItems [',', ' '] rest,
            .cons hw (.refl rest), .cons hw' (.refl rest), ?_, ?_⟩
          · rw [Runtime.reprItems, hx]
            simp only [List.append_assoc, List.cons_append]
          · rw [Runtime.reprItems, hy]
            simp only [List.append_assoc, List.cons_append]
      | none =>
          rw [hv] at h
          obtain ⟨before, hbefore, rfl⟩ := Option.map_eq_some_iff.mp h
          obtain ⟨xs, ys, more, hxs, hys, hx, hy⟩ :=
            told_apart_items rt [',', ' '] rest before hbefore
          refine ⟨v :: xs, v :: ys, more, .cons (.same v) hxs, .cons (.same v) hys, ?_, ?_⟩
          · rw [Runtime.reprItems, hx]
            simp only [List.append_assoc]
          · rw [Runtime.reprItems, hy]
            simp only [List.append_assoc]

theorem told_apart_fields (rt : Runtime F) : ∀ (separator : List Char)
    (fields : List (String × Payload F)) (u : List Char),
    beforeSecretFields rt separator fields = some u →
    ∃ xs ys rest, AlikeFields fields xs ∧ AlikeFields fields ys ∧
      rt.reprFields separator xs = u ++ '{' :: '}' :: rest ∧
      rt.reprFields separator ys = u ++ '[' :: ']' :: rest
  | separator, [], u, h => by
      rw [beforeSecretFields] at h
      cases h
  | separator, (key, v) :: rest, u, h => by
      rw [beforeSecretFields] at h
      by_cases hkey : sensitiveKey key = true
      · rw [if_pos hkey] at h
        obtain rfl := Option.some.inj h
        refine ⟨(key, .object []) :: rest, (key, .list []) :: rest,
          rt.reprFields [',', ' '] rest, .secret v _ hkey (.refl rest),
          .secret v _ hkey (.refl rest), ?_, ?_⟩
        · simp only [Runtime.reprFields, Runtime.reprValue, List.append_assoc, List.cons_append,
            List.nil_append]
        · simp only [Runtime.reprFields, Runtime.reprValue, Runtime.reprItems, List.append_assoc,
            List.cons_append, List.nil_append]
      · rw [if_neg hkey] at h
        cases hv : beforeSecret rt v with
        | some before =>
            rw [hv] at h
            obtain rfl := Option.some.inj h
            obtain ⟨w, w', more, hw, hw', hx, hy⟩ := told_apart rt v before hv
            refine ⟨(key, w) :: rest, (key, w') :: rest, more ++ rt.reprFields [',', ' '] rest,
              .plain hw (.refl rest), .plain hw' (.refl rest), ?_, ?_⟩
            · rw [Runtime.reprFields, hx]
              simp only [List.append_assoc, List.cons_append]
            · rw [Runtime.reprFields, hy]
              simp only [List.append_assoc, List.cons_append]
        | none =>
            rw [hv] at h
            obtain ⟨before, hbefore, rfl⟩ := Option.map_eq_some_iff.mp h
            obtain ⟨xs, ys, more, hxs, hys, hx, hy⟩ :=
              told_apart_fields rt [',', ' '] rest before hbefore
            refine ⟨(key, v) :: xs, (key, v) :: ys, more, .plain (.same v) hxs,
              .plain (.same v) hys, ?_, ?_⟩
            · rw [Runtime.reprFields, hx]
              simp only [List.append_assoc]
            · rw [Runtime.reprFields, hy]
              simp only [List.append_assoc]

end

/-! ### Patterns leave braces alone -/

/-- A search that neither removes a brace nor puts one in. -/
def LeavesBraces (find : Option Char → List Char → Option (Nat × List Char)) : Prop :=
  ∀ previous cs length replacement, find previous cs = some (length, replacement) →
    1 ≤ length ∧ '{' ∉ cs.take length ∧ '{' ∉ replacement

theorem count_subAll {find : Option Char → List Char → Option (Nat × List Char)}
    (h : LeavesBraces find) : ∀ (cs : List Char) (previous : Option Char) (skip : Nat),
    '{' ∉ cs.take skip → (subAll find previous skip cs).count '{' = cs.count '{' := by
  intro cs
  induction cs with
  | nil =>
      intro previous skip _
      simp [subAll]
  | cons c rest ih =>
      intro previous skip hskip
      cases skip with
      | succ skip =>
          rw [List.take_succ_cons, List.mem_cons, not_or] at hskip
          rw [subAll, ih (some c) skip hskip.2, List.count_cons_of_ne (Ne.symm hskip.1)]
      | zero =>
          unfold subAll
          cases hfind : find previous (c :: rest) with
          | none =>
              dsimp only
              rw [List.count_cons, List.count_cons, ih (some c) 0 (by simp)]
          | some found =>
              obtain ⟨length, replacement⟩ := found
              obtain ⟨hpos, htaken, hput⟩ := h _ _ _ _ hfind
              obtain ⟨k, rfl⟩ : ∃ k, length = k + 1 := ⟨length - 1, by omega⟩
              rw [List.take_succ_cons, List.mem_cons, not_or] at htaken
              dsimp only
              rw [List.count_append, List.count_eq_zero.mpr hput, Nat.zero_add, Nat.add_sub_cancel,
                ih (some c) k htaken.2, List.count_cons_of_ne (Ne.symm htaken.1)]

theorem literalAt_some : ∀ {literal cs rest : List Char}, '{' ∉ literal →
    literalAt literal cs = some rest →
    ∃ taken, cs = taken ++ rest ∧ taken.length = literal.length ∧ '{' ∉ taken := by
  intro literal
  induction literal with
  | nil =>
      intro cs rest _ h
      refine ⟨[], ?_, rfl, by simp⟩
      rw [literalAt] at h
      rw [Option.some.inj h, List.nil_append]
  | cons p ps ih =>
      intro cs rest hbrace h
      rw [List.mem_cons, not_or] at hbrace
      cases cs with
      | nil =>
          rw [literalAt] at h
          cases h
      | cons c cs =>
          rw [literalAt] at h
          by_cases hc : foldCase c = p
          · rw [if_pos hc] at h
            obtain ⟨taken, rfl, hlength, htaken⟩ := ih hbrace.2 h
            refine ⟨c :: taken, rfl, congrArg (· + 1) hlength, ?_⟩
            rw [List.mem_cons, not_or]
            refine ⟨?_, htaken⟩
            intro hc'
            apply hbrace.1
            rw [← hc, ← hc']
            decide
          · rw [if_neg hc] at h
            cases h

theorem not_mem_takeWhile {p : Char → Bool} (hp : p '{' = false) (cs : List Char) :
    '{' ∉ cs.takeWhile p := by
  intro hmem
  have hbrace := List.all_eq_true.mp List.all_takeWhile _ hmem
  rw [hp] at hbrace
  cases hbrace

theorem redacted_braceless : '{' ∉ redacted := by decide

theorem leavesBraces_tokenAt (rt : Runtime F) {lead : List Char} (hlead : '{' ∉ lead)
    (hne : lead ≠ []) (least : Nat) : LeavesBraces (rt.tokenAt lead least) := by
  intro previous cs length replacement h
  unfold Runtime.tokenAt at h
  by_cases hstart : (!rt.boundary previous cs.head?) = true
  · rw [if_pos hstart] at h
    cases h
  · rw [if_neg hstart] at h
    cases hliteral : literalAt lead cs with
    | none =>
        rw [hliteral] at h
        cases h
    | some rest =>
        rw [hliteral] at h
        dsimp only at h
        obtain ⟨taken, rfl, hlength, htaken⟩ := literalAt_some hlead hliteral
        have hpos : 0 < lead.length := List.length_pos_iff.mpr hne
        split at h
        · rename_i n hfound
          obtain ⟨rfl, rfl⟩ := Prod.mk.inj (Option.some.inj h)
          have hn : n ≤ (rest.takeWhile isTokenChar).length := by
            have hmem := List.mem_of_find?_eq_some hfound
            rw [List.mem_reverse, List.mem_range] at hmem
            omega
          refine ⟨by omega, ?_, redacted_braceless⟩
          rw [← hlength, List.take_length_add_append, List.mem_append, not_or]
          refine ⟨htaken, ?_⟩
          intro hmem
          have hrun : '{' ∈ rest.takeWhile isTokenChar := by
            obtain ⟨tail, htail⟩ := List.takeWhile_prefix (l := rest) isTokenChar
            rw [← htail, List.take_append_of_le_length hn] at hmem
            exact List.mem_of_mem_take hmem
          exact not_mem_takeWhile (by decide) rest hrun
        · cases h

theorem leavesBraces_bearerAt : LeavesBraces bearerAt := by
  intro previous cs length replacement h
  unfold bearerAt at h
  cases hfirst : literalAt "authorization".toList cs with
  | none =>
      rw [hfirst] at h
      cases h
  | some rest =>
      rw [hfirst] at h
      dsimp only at h
      split at h
      · rename_i more hcolon
        cases hsecond : literalAt "bearer".toList (more.dropWhile isSpace) with
        | none =>
            rw [hsecond] at h
            cases h
        | some spaced =>
            rw [hsecond] at h
            dsimp only at h
            split at h
            · cases h
            · rename_i hgiven
              obtain ⟨taken, hcs, -, htaken⟩ := literalAt_some (by decide) hfirst
              obtain ⟨taken', hmore, -, htaken'⟩ := literalAt_some (by decide) hsecond
              have hspace : ∀ l : List Char, '{' ∉ l.takeWhile isSpace :=
                not_mem_takeWhile (by decide)
              -- Everything before the token, piece by piece.
              have hsplit : cs = (taken ++ rest.takeWhile isSpace ++ [':'] ++
                  more.takeWhile isSpace ++ taken' ++ spaced.takeWhile isSpace) ++
                  spaced.dropWhile isSpace := by
                rw [hcs]
                conv_lhs => rw [← List.takeWhile_append_dropWhile (p := isSpace) (l := rest), hcolon,
                  ← List.takeWhile_append_dropWhile (p := isSpace) (l := more), hmore,
                  ← List.takeWhile_append_dropWhile (p := isSpace) (l := spaced)]
                simp only [List.append_assoc, List.cons_append, List.nil_append]
              obtain ⟨group, hgroup⟩ : ∃ group, group = taken ++ rest.takeWhile isSpace ++ [':'] ++
                  more.takeWhile isSpace ++ taken' ++ spaced.takeWhile isSpace := ⟨_, rfl⟩
              have hbraceless : '{' ∉ group := by
                rw [hgroup]
                simp only [List.mem_append, not_or, List.mem_singleton]
                exact ⟨⟨⟨⟨⟨htaken, hspace rest⟩, by decide⟩, hspace more⟩, htaken'⟩, hspace spaced⟩
              rw [← hgroup] at hsplit
              have hcut : cs.take (cs.length - (spaced.dropWhile isSpace).length) = group := by
                conv_lhs => rw [hsplit]
                rw [List.length_append, Nat.add_sub_cancel, List.take_left]
              rw [hcut] at h
              obtain ⟨rfl, rfl⟩ := Prod.mk.inj (Option.some.inj h)
              have htoken : ((spaced.dropWhile isSpace).takeWhile isBearerChar).length ≠ 0 := by
                intro hzero
                apply hgiven
                rw [List.length_eq_zero_iff.mp hzero]
                simp
              refine ⟨by omega, ?_, ?_⟩
              · have hrun : (spaced.dropWhile isSpace).takeWhile isBearerChar <+:
                    spaced.dropWhile isSpace := List.takeWhile_prefix isBearerChar
                rw [hsplit, List.take_length_add_append, List.mem_append, not_or,
                  ← List.prefix_iff_eq_take.mp hrun]
                exact ⟨hbraceless, not_mem_takeWhile (by decide) _⟩
              · rw [List.mem_append, not_or]
                exact ⟨hbraceless, redacted_braceless⟩
      · cases h

/-- Redaction keeps the number of opening braces. -/
theorem count_redactText (rt : Runtime F) (text : List Char) :
    (rt.redactText text).count '{' = text.count '{' := by
  unfold Runtime.redactText
  rw [count_subAll leavesBraces_bearerAt _ _ _ (by simp),
    count_subAll (leavesBraces_tokenAt rt (by decide) (by decide) 20) _ _ _ (by simp),
    count_subAll (leavesBraces_tokenAt rt (by decide) (by decide) 12) _ _ _ (by simp)]

theorem storedText_ne (rt : Runtime F) {u rest : List Char} (h : u.length < 8192) :
    rt.storedText (u ++ '{' :: '}' :: rest) ≠ rt.storedText (u ++ '[' :: ']' :: rest) := by
  intro heq
  unfold Runtime.storedText at heq
  have htext := congrArg String.toList (Payload.str.inj heq)
  rw [String.toList_ofList, String.toList_ofList] at htext
  have hcount := congrArg (List.count '{') htext
  obtain ⟨k, hk⟩ : ∃ k, 8192 = u.length + (k + 1) := ⟨8192 - u.length - 1, by omega⟩
  rw [count_redactText, count_redactText, hk, List.take_length_add_append,
    List.take_length_add_append, List.take_succ_cons, List.take_succ_cons, List.count_append,
    List.count_append, List.count_cons_self, List.count_cons_of_ne (by decide)] at hcount
  cases k with
  | zero => simp at hcount
  | succ k =>
      rw [List.take_succ_cons, List.take_succ_cons, List.count_cons_of_ne (by decide),
        List.count_cons_of_ne (by decide)] at hcount
      omega

/-! ### Which payloads leak -/

/-- A rendered container shows the beginning of a secret. -/
def exposed (rt : Runtime F) (v : Payload F) : Bool :=
  (beforeSecret rt v).any fun before => before.length < 8192

mutual

/-- A secret of the value is seen in what is stored. -/
def leaks (rt : Runtime F) : Payload F → String → Nat → Bool
  | .list items, key, depth =>
    !sensitiveKey key &&
      if 4 ≤ depth then exposed rt (.list items) else leaksItems rt items 100 key (depth + 1)
  | .object fields, key, depth =>
    !sensitiveKey key &&
      if 4 ≤ depth then exposed rt (.object fields) else leaksFields rt fields 100 (depth + 1)
  | _, _, _ => false

def leaksItems (rt : Runtime F) : List (Payload F) → Nat → String → Nat → Bool
  | [], _, _, _ => false
  | _ :: _, 0, _, _ => false
  | v :: rest, left + 1, key, depth => leaks rt v key depth || leaksItems rt rest left key depth

/-- A later member whose key is stored alike takes the place of a member. -/
def leaksFields (rt : Runtime F) : List (String × Payload F) → Nat → Nat → Bool
  | [], _, _ => false
  | _ :: _, 0, _ => false
  | (key, v) :: rest, left + 1, depth =>
    (leaks rt v key depth &&
      !((rest.take left).map fun field => Runtime.storedKey field.1).contains
        (Runtime.storedKey key)) || leaksFields rt rest left depth

end

/-- A secret of the data of an event is seen in what is stored. -/
def leaksData (rt : Runtime F) : Payload F → Bool
  | .object fields => leaksFields rt fields 100 0
  | value => leaks rt value "" 0

/-! ### Stored dictionaries -/

variable {α : Type} {k k' : String}

theorem set_between (d : Dict String α) (hne : k' ≠ k) (a b c : α) :
    ((d.set k a).set k' c).set k b = (d.set k b).set k' c := by
  induction d with
  | nil => simp [Dict.set, hne.symm]
  | cons e rest ih =>
      by_cases hk : e.1 = k
      · simp [Dict.set, hk, hne.symm]
      · by_cases hk' : e.1 = k'
        · simp [Dict.set, hk', hne, Dict.set_set]
        · simp [Dict.set, hk, hk', ih]

/-- What is set before a later value of the key does not matter. -/
theorem foldl_overwritten (a b : α) : ∀ (entries : List (String × α)) (d : Dict String α),
    k ∈ entries.map Prod.fst →
    entries.foldl (fun d e => d.set e.1 e.2) (d.set k a) =
      entries.foldl (fun d e => d.set e.1 e.2) (d.set k b) := by
  intro entries
  induction entries with
  | nil =>
      intro d h
      cases h
  | cons e rest ih =>
      intro d h
      rw [List.foldl_cons, List.foldl_cons]
      by_cases hk : e.1 = k
      · rw [hk, Dict.set_set, Dict.set_set]
      · have hrest : k ∈ rest.map Prod.fst := by
          rcases List.mem_cons.mp h with heq | hmem
          · exact absurd heq.symm hk
          · exact hmem
        rw [← set_between d hk b a e.2]
        have hback : ((d.set k b).set e.1 e.2).set k b = (d.set k b).set e.1 e.2 := by
          rw [set_between d hk b b e.2]
        rw [ih _ hrest, hback]

theorem get_foldl_absent : ∀ (entries : List (String × α)) (d : Dict String α),
    k ∉ entries.map Prod.fst → Dict.get (entries.foldl (fun d e => d.set e.1 e.2) d) k = d.get k := by
  intro entries
  induction entries with
  | nil =>
      intro d _
      rfl
  | cons e rest ih =>
      intro d h
      rw [List.map_cons, List.mem_cons, not_or] at h
      rw [List.foldl_cons, ih _ h.2, Dict.get_set_ne d e.2 h.1]

/-- Entries that differ only where a later one takes their place. -/
inductive SameOnceStored : List (String × α) → List (String × α) → Prop
  | nil : SameOnceStored [] []
  | cons {key : String} {a b : α} {rest rest' : List (String × α)}
      (h : a = b ∨ key ∈ rest.map Prod.fst) (hrest : SameOnceStored rest rest') :
      SameOnceStored ((key, a) :: rest) ((key, b) :: rest')

theorem SameOnceStored.foldl_eq {entries entries' : List (String × α)}
    (h : SameOnceStored entries entries') : ∀ d : Dict String α,
    entries.foldl (fun d e => d.set e.1 e.2) d = entries'.foldl (fun d e => d.set e.1 e.2) d := by
  induction h with
  | nil =>
      intro d
      rfl
  | cons hvalue _ ih =>
      intro d
      rw [List.foldl_cons, List.foldl_cons, ← ih]
      rcases hvalue with heq | hmem
      · rw [heq]
      · exact foldl_overwritten _ _ _ d hmem

/-! ### What does not leak is hidden -/

theorem bounded_sensitive (rt : Runtime F) {key : String} (hkey : sensitiveKey key = true)
    (v : Payload F) (depth : Nat) : rt.boundedEventValue v key depth = .str "[REDACTED]" := by
  cases v <;> rw [Runtime.boundedEventValue, if_pos hkey]

theorem storedText_eq (rt : Runtime F) {before : Option (List Char)} {text text' : List Char}
    (h : SharedText before text text') (hfar : (before.any fun u => u.length < 8192) = false) :
    rt.storedText text = rt.storedText text' := by
  cases before with
  | none => exact congrArg rt.storedText h
  | some u =>
      obtain ⟨rest, rest', rfl, rfl⟩ := h
      have hlong : 8192 ≤ u.length := by simpa using hfar
      unfold Runtime.storedText
      rw [List.take_append_of_le_length hlong, List.take_append_of_le_length hlong]

theorem boundedFields_keys (rt : Runtime F) : ∀ (fields : List (String × Payload F))
    (left depth : Nat), (rt.boundedFields fields left depth).map Prod.fst =
      (fields.take left).map fun field => Runtime.storedKey field.1 := by
  intro fields
  induction fields with
  | nil =>
      intro left depth
      rw [Runtime.boundedFields, List.take_nil]
      rfl
  | cons field rest ih =>
      intro left depth
      obtain ⟨key, v⟩ := field
      cases left with
      | zero => rw [Runtime.boundedFields, List.take_zero]; rfl
      | succ left => rw [Runtime.boundedFields, List.map_cons, ih, List.take_succ_cons, List.map_cons]

mutual

/-- A value that does not leak is stored the same whatever its secrets are. -/
theorem bounded_eq (rt : Runtime F) : ∀ (v w : Payload F) (key : String) (depth : Nat), Alike v w →
    leaks rt v key depth = false →
    rt.boundedEventValue v key depth = rt.boundedEventValue w key depth
  | .null, w, key, depth, h, _ => by
      cases h
      rfl
  | .bool b, w, key, depth, h, _ => by
      cases h
      rfl
  | .int n, w, key, depth, h, _ => by
      cases h
      rfl
  | .float x, w, key, depth, h, _ => by
      cases h
      rfl
  | .str s, w, key, depth, h, _ => by
      cases h
      rfl
  | .list items, w, key, depth, h, hleak => by
      obtain ⟨items', rfl, hitems⟩ := AlikeItems.of_list h
      by_cases hkey : sensitiveKey key = true
      · rw [bounded_sensitive rt hkey, bounded_sensitive rt hkey]
      · have hplain : sensitiveKey key = false := by simpa using hkey
        rw [leaks, hplain, Bool.not_false, Bool.true_and] at hleak
        rw [Runtime.boundedEventValue, Runtime.boundedEventValue, if_neg hkey, if_neg hkey]
        by_cases hdepth : 4 ≤ depth
        · rw [if_pos hdepth] at hleak ⊢
          rw [if_pos hdepth]
          exact storedText_eq rt (sharedText rt _ _ h) hleak
        · rw [if_neg hdepth] at hleak ⊢
          rw [if_neg hdepth, boundedItems_eq rt items items' 100 key (depth + 1) hitems hleak]
  | .object fields, w, key, depth, h, hleak => by
      obtain ⟨fields', rfl, hfields⟩ := AlikeFields.of_object h
      by_cases hkey : sensitiveKey key = true
      · rw [bounded_sensitive rt hkey, bounded_sensitive rt hkey]
      · have hplain : sensitiveKey key = false := by simpa using hkey
        rw [leaks, hplain, Bool.not_false, Bool.true_and] at hleak
        rw [Runtime.boundedEventValue, Runtime.boundedEventValue, if_neg hkey, if_neg hkey]
        by_cases hdepth : 4 ≤ depth
        · rw [if_pos hdepth] at hleak ⊢
          rw [if_pos hdepth]
          exact storedText_eq rt (sharedText rt _ _ h) hleak
        · rw [if_neg hdepth] at hleak ⊢
          rw [if_neg hdepth]
          have hsame := boundedFields_same rt fields fields' 100 (depth + 1) hfields hleak
          exact congrArg Payload.object (hsame.foldl_eq [])

theorem boundedItems_eq (rt : Runtime F) : ∀ (items items' : List (Payload F)) (left : Nat)
    (key : String) (depth : Nat), AlikeItems items items' →
    leaksItems rt items left key depth = false →
    rt.boundedItems items left key depth = rt.boundedItems items' left key depth
  | [], items', left, key, depth, h, _ => by
      cases h
      rfl
  | v :: rest, items', left, key, depth, h, hleak => by
      cases h with
      | cons hv hrest =>
          cases left with
          | zero => rw [Runtime.boundedItems, Runtime.boundedItems]
          | succ left =>
              rw [leaksItems, Bool.or_eq_false_iff] at hleak
              rw [Runtime.boundedItems, Runtime.boundedItems,
                bounded_eq rt v _ key depth hv hleak.1,
                boundedItems_eq rt rest _ left key depth hrest hleak.2]

theorem boundedFields_same (rt : Runtime F) : ∀ (fields fields' : List (String × Payload F))
    (left depth : Nat), AlikeFields fields fields' → leaksFields rt fields left depth = false →
    SameOnceStored (rt.boundedFields fields left depth) (rt.boundedFields fields' left depth)
  | [], fields', left, depth, h, _ => by
      cases h
      rw [Runtime.boundedFields]
      exact .nil
  | (key, v) :: rest, fields', left, depth, h, hleak => by
      cases left with
      | zero =>
          cases h with
          | secret | plain => rw [Runtime.boundedFields, Runtime.boundedFields]; exact .nil
      | succ left =>
          rw [leaksFields, Bool.or_eq_false_iff, Bool.and_eq_false_iff] at hleak
          cases h with
          | secret _ v' hkey hrest =>
              rw [Runtime.boundedFields, Runtime.boundedFields, bounded_sensitive rt hkey,
                bounded_sensitive rt hkey]
              exact .cons (.inl rfl) (boundedFields_same rt rest _ left depth hrest hleak.2)
          | plain hv hrest =>
              rw [Runtime.boundedFields, Runtime.boundedFields]
              refine .cons ?_ (boundedFields_same rt rest _ left depth hrest hleak.2)
              rcases hleak.1 with hquiet | hlater
              · exact Or.inl (bounded_eq rt v _ key depth hv hquiet)
              · rw [boundedFields_keys]
                exact Or.inr (by simpa using hlater)

end

/-! ### What leaks can be told apart -/

theorem exposed_iff {rt : Runtime F} {v : Payload F} :
    exposed rt v = true ↔ ∃ u, beforeSecret rt v = some u ∧ u.length < 8192 := by
  unfold exposed
  cases beforeSecret rt v with
  | none => simp
  | some u => simp

/-- Entries that give different values of a key, whatever was stored before them. -/
def ApartAt (entries entries' : List (String × Payload F)) : Prop :=
  ∃ key, ∀ d d' : Dict String (Payload F),
    Dict.get (entries.foldl (fun d e => d.set e.1 e.2) d) key ≠
      Dict.get (entries'.foldl (fun d e => d.set e.1 e.2) d') key

mutual

/-- Two payloads that differ in secrets and are stored differently. -/
theorem bounded_apart (rt : Runtime F) : ∀ (v : Payload F) (key : String) (depth : Nat),
    leaks rt v key depth = true → ∃ w w', Alike v w ∧ Alike v w' ∧
      rt.boundedEventValue w key depth ≠ rt.boundedEventValue w' key depth
  | .null, key, depth, h => by
      rw [leaks] at h
      · cases h
      all_goals simp
  | .bool b, key, depth, h => by
      rw [leaks] at h
      · cases h
      all_goals simp
  | .int n, key, depth, h => by
      rw [leaks] at h
      · cases h
      all_goals simp
  | .float x, key, depth, h => by
      rw [leaks] at h
      · cases h
      all_goals simp
  | .str s, key, depth, h => by
      rw [leaks] at h
      · cases h
      all_goals simp
  | .list items, key, depth, h => by
      rw [leaks, Bool.and_eq_true] at h
      have hkey : ¬ sensitiveKey key = true := by simpa using h.1
      by_cases hdepth : 4 ≤ depth
      · have hexposed := h.2
        rw [if_pos hdepth] at hexposed
        obtain ⟨u, hu, hnear⟩ := exposed_iff.mp hexposed
        obtain ⟨w, w', rest, hw, hw', htext, htext'⟩ := told_apart rt (.list items) u hu
        obtain ⟨xs, rfl, hxs⟩ := AlikeItems.of_list hw
        obtain ⟨ys, rfl, hys⟩ := AlikeItems.of_list hw'
        refine ⟨.list xs, .list ys, hw, hw', ?_⟩
        rw [Runtime.boundedEventValue, Runtime.boundedEventValue, if_neg hkey, if_neg hkey,
          if_pos hdepth, if_pos hdepth, htext, htext']
        exact storedText_ne rt hnear
      · have hitems := h.2
        rw [if_neg hdepth] at hitems
        obtain ⟨xs, ys, hxs, hys, hne⟩ := boundedItems_apart rt items 100 key (depth + 1) hitems
        refine ⟨.list xs, .list ys, .list hxs, .list hys, ?_⟩
        rw [Runtime.boundedEventValue, Runtime.boundedEventValue, if_neg hkey, if_neg hkey,
          if_neg hdepth, if_neg hdepth]
        exact fun heq => hne (Payload.list.inj heq)
  | .object fields, key, depth, h => by
      rw [leaks, Bool.and_eq_true] at h
      have hkey : ¬ sensitiveKey key = true := by simpa using h.1
      by_cases hdepth : 4 ≤ depth
      · have hexposed := h.2
        rw [if_pos hdepth] at hexposed
        obtain ⟨u, hu, hnear⟩ := exposed_iff.mp hexposed
        obtain ⟨w, w', rest, hw, hw', htext, htext'⟩ := told_apart rt (.object fields) u hu
        obtain ⟨xs, rfl, hxs⟩ := AlikeFields.of_object hw
        obtain ⟨ys, rfl, hys⟩ := AlikeFields.of_object hw'
        refine ⟨.object xs, .object ys, hw, hw', ?_⟩
        rw [Runtime.boundedEventValue, Runtime.boundedEventValue, if_neg hkey, if_neg hkey,
          if_pos hdepth, if_pos hdepth, htext, htext']
        exact storedText_ne rt hnear
      · have hfields := h.2
        rw [if_neg hdepth] at hfields
        obtain ⟨xs, ys, hxs, hys, place, hne⟩ :=
          boundedFields_apart rt fields 100 (depth + 1) hfields
        refine ⟨.object xs, .object ys, .object hxs, .object hys, ?_⟩
        rw [Runtime.boundedEventValue, Runtime.boundedEventValue, if_neg hkey, if_neg hkey,
          if_neg hdepth, if_neg hdepth]
        intro heq
        exact hne [] [] (congrArg (fun d => Dict.get d place) (Payload.object.inj heq))

theorem boundedItems_apart (rt : Runtime F) : ∀ (items : List (Payload F)) (left : Nat)
    (key : String) (depth : Nat), leaksItems rt items left key depth = true →
    ∃ xs ys, AlikeItems items xs ∧ AlikeItems items ys ∧
      rt.boundedItems xs left key depth ≠ rt.boundedItems ys left key depth
  | [], left, key, depth, h => by
      rw [leaksItems] at h
      cases h
  | _ :: _, 0, key, depth, h => by
      rw [leaksItems] at h
      cases h
  | v :: rest, left + 1, key, depth, h => by
      rw [leaksItems, Bool.or_eq_true] at h
      rcases h with hv | hrest
      · obtain ⟨w, w', hw, hw', hne⟩ := bounded_apart rt v key depth hv
        refine ⟨w :: rest, w' :: rest, .cons hw (.refl rest), .cons hw' (.refl rest), ?_⟩
        rw [Runtime.boundedItems, Runtime.boundedItems]
        exact fun heq => hne (List.cons.inj heq).1
      · obtain ⟨xs, ys, hxs, hys, hne⟩ := boundedItems_apart rt rest left key depth hrest
        refine ⟨v :: xs, v :: ys, .cons (.same v) hxs, .cons (.same v) hys, ?_⟩
        rw [Runtime.boundedItems, Runtime.boundedItems]
        exact fun heq => hne (List.cons.inj heq).2

theorem boundedFields_apart (rt : Runtime F) : ∀ (fields : List (String × Payload F))
    (left depth : Nat), leaksFields rt fields left depth = true →
    ∃ xs ys, AlikeFields fields xs ∧ AlikeFields fields ys ∧
      ApartAt (rt.boundedFields xs left depth) (rt.boundedFields ys left depth)
  | [], left, depth, h => by
      rw [leaksFields] at h
      cases h
  | _ :: _, 0, depth, h => by
      rw [leaksFields] at h
      cases h
  | (key, v) :: rest, left + 1, depth, h => by
      rw [leaksFields, Bool.or_eq_true, Bool.and_eq_true] at h
      rcases h with ⟨hv, hlast⟩ | hrest
      · obtain ⟨w, w', hw, hw', hne⟩ := bounded_apart rt v key depth hv
        refine ⟨(key, w) :: rest, (key, w') :: rest, .plain hw (.refl rest),
          .plain hw' (.refl rest), Runtime.storedKey key, ?_⟩
        intro d d'
        have habsent : Runtime.storedKey key ∉
            (rt.boundedFields rest left depth).map Prod.fst := by
          rw [boundedFields_keys]
          simpa using hlast
        rw [Runtime.boundedFields, Runtime.boundedFields, List.foldl_cons, List.foldl_cons,
          get_foldl_absent _ _ habsent, get_foldl_absent _ _ habsent, Dict.get_set_self,
          Dict.get_set_self]
        exact fun heq => hne (Option.some.inj heq)
      · obtain ⟨xs, ys, hxs, hys, place, hne⟩ := boundedFields_apart rt rest left depth hrest
        refine ⟨(key, v) :: xs, (key, v) :: ys, .plain (.same v) hxs, .plain (.same v) hys,
          place, ?_⟩
        intro d d'
        rw [Runtime.boundedFields, Runtime.boundedFields, List.foldl_cons, List.foldl_cons]
        exact hne _ _

end

/-- Data that is no object is stored under the key `value`. -/
theorem boundedEventData_value (rt : Runtime F) {data : Payload F}
    (h : ∀ fields, data ≠ .object fields) :
    rt.boundedEventData data = [("value", rt.boundedEventValue data "" 0)] ∧
      leaksData rt data = leaks rt data "" 0 := by
  cases data with
  | object fields => exact absurd rfl (h fields)
  | null | bool _ | int _ | float _ | str _ | list _ => exact ⟨rfl, rfl⟩

theorem Alike.not_object {v w : Payload F} (h : Alike v w) (hv : ∀ fields, v ≠ .object fields) :
    ∀ fields, w ≠ .object fields := by
  cases h with
  | same => exact hv
  | list => simp
  | object => exact absurd rfl (hv _)

/-- Data that leaks a secret is stored differently for different secrets. -/
theorem data_apart (rt : Runtime F) {data : Payload F} (h : leaksData rt data = true) :
    ∃ w w', Alike data w ∧ Alike data w' ∧ rt.boundedEventData w ≠ rt.boundedEventData w' := by
  by_cases hobject : ∃ fields, data = .object fields
  · obtain ⟨fields, rfl⟩ := hobject
    obtain ⟨xs, ys, hxs, hys, place, hne⟩ := boundedFields_apart rt fields 100 0 h
    refine ⟨.object xs, .object ys, .object hxs, .object hys, ?_⟩
    intro heq
    exact hne [] [] (congrArg (fun d => Dict.get d place) heq)
  · have hother : ∀ fields, data ≠ .object fields := fun fields heq => hobject ⟨fields, heq⟩
    rw [(boundedEventData_value rt hother).2] at h
    obtain ⟨w, w', hw, hw', hne⟩ := bounded_apart rt data "" 0 h
    refine ⟨w, w', hw, hw', ?_⟩
    rw [(boundedEventData_value rt (hw.not_object hother)).1,
      (boundedEventData_value rt (hw'.not_object hother)).1]
    simpa using hne

/-- **Which data keeps its secrets.**  What is stored of an event does not depend on the values under
    sensitive keys exactly when no text of a container shows the beginning of one. -/
theorem redaction_hides_iff (rt : Runtime F) (data : Payload F) :
    (∀ other, Alike data other → rt.boundedEventData data = rt.boundedEventData other) ↔
      leaksData rt data = false := by
  constructor
  · intro hhides
    by_contra hleak
    obtain ⟨w, w', hw, hw', hne⟩ := data_apart rt (Bool.not_eq_false _ ▸ hleak)
    exact hne ((hhides w hw).symm.trans (hhides w' hw'))
  · intro hleak other h
    by_cases hobject : ∃ fields, data = .object fields
    · obtain ⟨fields, rfl⟩ := hobject
      obtain ⟨fields', rfl, hfields⟩ := AlikeFields.of_object h
      exact (boundedFields_same rt fields fields' 100 0 hfields hleak).foldl_eq []
    · have hother : ∀ fields, data ≠ .object fields := fun fields heq => hobject ⟨fields, heq⟩
      rw [(boundedEventData_value rt hother).2] at hleak
      rw [(boundedEventData_value rt hother).1,
        (boundedEventData_value rt (h.not_object hother)).1, bounded_eq rt data other "" 0 h hleak]

/-- A Python for texts in ASCII and no floats. -/
def plainRuntime : Runtime Empty where
  isWord c := c.isAlphanum || c = '_'
  isPrintable c := c.toNat < 127
  reprFloat := Empty.elim

/-- A password six levels down. -/
def deepPassword (password : String) : Payload Empty :=
  .object [("a", .object [("b", .object [("c", .object [("d", .object [("e",
    .object [("password", .str password)])])])])])]

/-- Two payloads that differ in the password alone are stored differently: it is in the text of
    the fifth object. -/
theorem deep_password_stored :
    Alike (deepPassword "hunter2") (deepPassword "hunter3") ∧
      plainRuntime.boundedEventData (deepPassword "hunter2") ≠
        plainRuntime.boundedEventData (deepPassword "hunter3") := by
  have hstored : ∀ password ∈ ["hunter2", "hunter3"],
      plainRuntime.boundedEventData (deepPassword password) =
        [("a", .object [("b", .object [("c", .object [("d",
          .object [("e", .str ("\x7b'password': '" ++ password ++ "'\x7d"))])])])])] := by
    intro password hmem
    simp only [List.mem_cons, List.not_mem_nil, or_false] at hmem
    obtain rfl | rfl := hmem
    · rfl
    · rfl
  have hpassword : Alike (F := Empty) (.object [("password", .str "hunter2")])
      (.object [("password", .str "hunter3")]) :=
    .object (.secret _ _ (by decide +kernel) .nil)
  have hinside : ∀ {key : String} {v v' : Payload Empty}, Alike v v' →
      Alike (.object [(key, v)]) (.object [(key, v')]) := fun h => .object (.plain h .nil)
  refine ⟨hinside (hinside (hinside (hinside (hinside hpassword)))), ?_⟩
  rw [hstored _ (by decide), hstored _ (by decide)]
  intro heq
  simp at heq

end Arena402.Gateway.Redaction
