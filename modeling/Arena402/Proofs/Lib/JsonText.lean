/-
What the reader makes of what the writer wrote, and how deep it can go.

`scanOnce_agrees` says when a text is too deep for the reader, in terms of `opens` alone.
`scanOnce_render` reads a written value back: its texts come back with the surrogates joined, and
its members in the order of their keys.
-/
import Mathlib.Data.List.TakeWhile
import Arena402.Lib.JsonText

namespace JsonText

variable {F : Type}

namespace Value

/-! ### Folds -/

section

variable {α : Type} (alg : Algebra F α)

theorem foldItems_eq (items : List (Value F)) : foldItems alg items = items.map (fold alg) := by
  induction items with
  | nil => rfl
  | cons v rest ih => rw [foldItems, ih, List.map_cons]

theorem foldFields_eq (fields : List (Text × Value F)) :
    foldFields alg fields = fields.map fun e => (e.1, e.2.fold alg) := by
  induction fields with
  | nil => rfl
  | cons e rest ih => rw [foldFields, ih, List.map_cons]

theorem fold_list (items : List (Value F)) :
    (list items).fold alg = alg.list (items.map (fold alg)) := by
  rw [fold, foldItems_eq]

theorem fold_object (fields : List (Text × Value F)) :
    (object fields).fold alg = alg.object (fields.map fun e => (e.1, e.2.fold alg)) := by
  rw [fold, foldFields_eq]

end

/-- Induction over the values, with a hypothesis for each part of a container. -/
@[elab_as_elim]
theorem induct {motive : Value F → Prop} (null : motive null) (bool : ∀ b, motive (bool b))
    (int : ∀ n, motive (int n)) (float : ∀ x, motive (float x)) (str : ∀ s, motive (str s))
    (list : ∀ items, (∀ v ∈ items, motive v) → motive (list items))
    (object : ∀ fields, (∀ e ∈ fields, motive e.2) → motive (object fields)) :
    ∀ v, motive v
  | .null => null
  | .bool b => bool b
  | .int n => int n
  | .float x => float x
  | .str s => str s
  | .list items => list items fun v _ => induct null bool int float str list object v
  | .object fields => object fields fun e _ => induct null bool int float str list object e.2
termination_by v => sizeOf v
decreasing_by
  · have := List.sizeOf_lt_of_mem ‹v ∈ items›
    simp only [Value.list.sizeOf_spec]
    omega
  · have := List.sizeOf_lt_of_mem ‹e ∈ fields›
    have : sizeOf e = 1 + sizeOf e.1 + sizeOf e.2 := by cases e; rfl
    simp only [Value.object.sizeOf_spec]
    omega

@[simp] theorem canonical_null : (null : Value F).canonical = null := rfl

@[simp] theorem canonical_bool (b : Bool) : (bool b : Value F).canonical = bool b := rfl

@[simp] theorem canonical_int (n : Int) : (int n : Value F).canonical = int n := rfl

@[simp] theorem canonical_float (x : F) : (float x).canonical = float x := rfl

@[simp] theorem canonical_str (s : Text) : (str s : Value F).canonical = str s := rfl

@[simp] theorem canonical_list (items : List (Value F)) :
    (list items).canonical = list (items.map canonical) := by
  unfold canonical
  rw [fold_list]

@[simp] theorem canonical_object (fields : List (Text × Value F)) :
    (object fields).canonical = object (sortFields (fields.map fun e => (e.1, e.2.canonical))) := by
  unfold canonical
  rw [fold_object]

theorem sortFields_perm (fields : List (Text × Value F)) : (sortFields fields).Perm fields :=
  List.perm_insertionSort _ _

theorem sortFields_sorted (fields : List (Text × Value F)) :
    (sortFields fields).Pairwise fun a b => a.1 ≤ b.1 := by
  refine @List.pairwise_insertionSort _ (fun a b : Text × Value F => a.1 ≤ b.1) _ ⟨?_⟩ ⟨?_⟩ fields
  · intro a b
    exact le_total a.1 b.1
  · intro a b c
    exact le_trans

theorem sortFields_of_sorted {fields : List (Text × Value F)}
    (h : fields.Pairwise fun a b => a.1 ≤ b.1) : sortFields fields = fields :=
  List.Pairwise.insertionSort_eq h

theorem canonical_canonical (v : Value F) : v.canonical.canonical = v.canonical := by
  induction v using induct with
  | null => rfl
  | bool b => rfl
  | int n => rfl
  | float x => rfl
  | str s => rfl
  | list items ih =>
      rw [canonical_list, canonical_list, List.map_map]
      congr 1
      apply List.map_congr_left
      intro v hv
      exact ih v hv
  | object fields ih =>
      have hsame : (sortFields (fields.map fun e => (e.1, e.2.canonical))).map
          (fun e => (e.1, e.2.canonical)) =
            sortFields (fields.map fun e => (e.1, e.2.canonical)) := by
        conv_rhs => rw [← List.map_id (sortFields _)]
        apply List.map_congr_left
        intro e he
        have hmem := (sortFields_perm _).mem_iff.mp he
        rw [List.mem_map] at hmem
        obtain ⟨e', he', rfl⟩ := hmem
        rw [ih e' he']
        rfl
      rw [canonical_object, canonical_object, hsame, sortFields_of_sorted (sortFields_sorted _)]

/-! ### Measures -/

@[simp] theorem total_list (f : Text → Nat) (items : List (Value F)) :
    (list items).total f = (items.map (total f)).sum := by
  unfold total
  rw [fold_list]

@[simp] theorem total_object (f : Text → Nat) (fields : List (Text × Value F)) :
    (object fields).total f = (fields.map fun e => f e.1 + e.2.total f).sum := by
  unfold total
  rw [fold_object]
  dsimp only
  rw [List.map_map]
  rfl

theorem total_canonical (f : Text → Nat) (v : Value F) : v.canonical.total f = v.total f := by
  induction v using induct with
  | null => rfl
  | bool b => rfl
  | int n => rfl
  | float x => rfl
  | str s => rfl
  | list items ih =>
      rw [canonical_list, total_list, total_list, List.map_map]
      congr 1
      apply List.map_congr_left
      intro v hv
      exact ih v hv
  | object fields ih =>
      rw [canonical_object, total_object, total_object]
      rw [((sortFields_perm _).map _).sum_eq, List.map_map]
      congr 1
      apply List.map_congr_left
      intro e he
      show f e.1 + e.2.canonical.total f = _
      rw [ih e he]

@[simp] theorem nesting_list (items : List (Value F)) :
    (list items).nesting = (items.map nesting).foldr max 0 + 1 := by
  unfold nesting
  rw [fold_list]

@[simp] theorem nesting_object (fields : List (Text × Value F)) :
    (object fields).nesting = (fields.map fun e => e.2.nesting).foldr max 0 + 1 := by
  unfold nesting
  rw [fold_object]
  dsimp only
  rw [List.map_map]
  rfl

theorem foldr_max_perm {l l' : List Nat} (h : l.Perm l') : l.foldr max 0 = l'.foldr max 0 := by
  induction h with
  | nil => rfl
  | cons x _ ih => rw [List.foldr_cons, List.foldr_cons, ih]
  | swap x y l => simp only [List.foldr_cons]; omega
  | trans _ _ ih ih' => rw [ih, ih']

theorem nesting_canonical (v : Value F) : v.canonical.nesting = v.nesting := by
  induction v using induct with
  | null => rfl
  | bool b => rfl
  | int n => rfl
  | float x => rfl
  | str s => rfl
  | list items ih =>
      rw [canonical_list, nesting_list, nesting_list, List.map_map]
      congr 2
      apply List.map_congr_left
      intro v hv
      exact ih v hv
  | object fields ih =>
      rw [canonical_object, nesting_object, nesting_object]
      rw [foldr_max_perm ((sortFields_perm _).map _), List.map_map]
      congr 2
      apply List.map_congr_left
      intro e he
      exact ih e he

/-! ### Well-formed values -/

variable {fl : Floats F}

theorem wellFormed_list (items : List (Value F)) :
    (list items).WellFormed fl ↔ ∀ v ∈ items, v.WellFormed fl := by
  unfold WellFormed
  rw [fold_list]
  exact List.forall_mem_map

theorem wellFormed_object (fields : List (Text × Value F)) :
    (object fields).WellFormed fl ↔ (fields.map Prod.fst).Nodup ∧
      ∀ e ∈ fields, (∀ c ∈ e.1, c < 0x110000) ∧ e.2.WellFormed fl := by
  have hkeys : (fields.map fun e => (e.1, e.2.WellFormed fl)).map Prod.fst =
      fields.map Prod.fst := by
    rw [List.map_map]
    rfl
  unfold WellFormed
  rw [fold_object]
  show ((fields.map fun e => (e.1, e.2.WellFormed fl)).map Prod.fst).Nodup ∧ _ ↔ _
  rw [hkeys]
  exact and_congr_right fun _ => List.forall_mem_map

theorem WellFormed.canonical {v : Value F} (h : v.WellFormed fl) : v.canonical.WellFormed fl := by
  induction v using induct with
  | null => exact h
  | bool b => exact h
  | int n => exact h
  | float x => exact h
  | str s => exact h
  | list items ih =>
      rw [wellFormed_list] at h
      rw [canonical_list, wellFormed_list]
      intro v hv
      rw [List.mem_map] at hv
      obtain ⟨v', hv', rfl⟩ := hv
      exact ih v' hv' (h v' hv')
  | object fields ih =>
      rw [wellFormed_object] at h
      rw [canonical_object, wellFormed_object]
      have hperm := sortFields_perm (fields.map fun e => (e.1, e.2.canonical))
      constructor
      · rw [(hperm.map Prod.fst).nodup_iff, List.map_map]
        exact h.1
      · intro e he
        have hmem := hperm.mem_iff.mp he
        rw [List.mem_map] at hmem
        obtain ⟨e', he', rfl⟩ := hmem
        exact ⟨(h.2 e' he').1, ih e' he' (h.2 e' he').2⟩

end Value

/-! ### Strings -/

theorem hexValue_hexDigit {n : Nat} (h : n < 16) : hexValue (hexDigit n) = some n := by
  unfold hexDigit hexValue
  simp only [Char.reduceToNat]
  by_cases hten : n < 10
  · rw [if_pos hten, if_pos (by omega)]
    congr 1
    omega
  · rw [if_neg hten, if_neg (by omega), if_pos (by omega)]
    congr 1
    omega

theorem unitOf_hexDigits {u : Nat} (h : u < 0x10000) : unitOf (hexDigit (u / 4096 % 16))
    (hexDigit (u / 256 % 16)) (hexDigit (u / 16 % 16)) (hexDigit (u % 16)) = some u := by
  unfold unitOf
  rw [hexValue_hexDigit (by omega), hexValue_hexDigit (by omega), hexValue_hexDigit (by omega),
    hexValue_hexDigit (by omega)]
  simp only [Option.bind_eq_bind, Option.bind_some, Option.pure_def]
  congr 1
  omega

/-- The characters that are written as themselves or with one letter. -/
def isShort (c : Nat) : Bool :=
  c = '\n'.toNat || c = '\r'.toNat || c = '\t'.toNat || c = 0x0C || c = 0x08 ||
    (0x20 ≤ c && c ≤ 0x7E)

def tokensOf (c : Nat) : List Token :=
  if isShort c then [.char c]
  else if c < 0x10000 then [.unit c]
  else [.unit (highOf c), .unit (lowOf c)]

theorem scanTokens_unitEscape {u : Nat} (h : u < 0x10000) (rest : Text) :
    scanTokens (unitEscape u ++ rest) =
      (scanTokens rest).map fun r => (.unit u :: r.1, r.2) := by
  show scanTokens ('\\'.toNat :: 'u'.toNat :: _ :: _ :: _ :: _ :: rest) = _
  rw [scanTokens.eq_def]
  dsimp only
  rw [if_neg (by simp), if_pos rfl, if_pos rfl, unitOf_hexDigits h, Option.bind_some]

theorem scanTokens_escapeChar {c : Nat} (h : c < 0x110000) (rest : Text) :
    scanTokens (escapeChar c ++ rest) =
      (scanTokens rest).map fun r => (tokensOf c ++ r.1, r.2) := by
  have hletter : ∀ e, e ≠ 'u'.toNat → escaped e = some c → tokensOf c = [.char c] →
      scanTokens ('\\'.toNat :: e :: rest) =
        (scanTokens rest).map fun r => (tokensOf c ++ r.1, r.2) := by
    intro e he hescaped htokens
    rw [scanTokens.eq_def, htokens]
    dsimp only
    rw [if_neg (by simp), if_pos rfl, if_neg he, hescaped, Option.bind_some]
    rfl
  unfold escapeChar
  by_cases hquote : c = '"'.toNat
  · rw [if_pos hquote]
    exact hletter _ (by simp) (by subst hquote; rfl) (by subst hquote; rfl)
  rw [if_neg hquote]
  by_cases hslash : c = '\\'.toNat
  · rw [if_pos hslash]
    exact hletter _ (by simp) (by subst hslash; rfl) (by subst hslash; rfl)
  rw [if_neg hslash]
  by_cases hn : c = '\n'.toNat
  · rw [if_pos hn]
    exact hletter _ (by simp) (by subst hn; rfl) (by subst hn; rfl)
  rw [if_neg hn]
  by_cases hr : c = '\r'.toNat
  · rw [if_pos hr]
    exact hletter _ (by simp) (by subst hr; rfl) (by subst hr; rfl)
  rw [if_neg hr]
  by_cases ht : c = '\t'.toNat
  · rw [if_pos ht]
    exact hletter _ (by simp) (by subst ht; rfl) (by subst ht; rfl)
  rw [if_neg ht]
  by_cases hf : c = 0x0C
  · rw [if_pos hf]
    exact hletter _ (by simp) (by subst hf; rfl) (by subst hf; rfl)
  rw [if_neg hf]
  by_cases hb : c = 0x08
  · rw [if_pos hb]
    exact hletter _ (by simp) (by subst hb; rfl) (by subst hb; rfl)
  rw [if_neg hb]
  by_cases hprintable : 0x20 ≤ c ∧ c ≤ 0x7E
  · have htokens : tokensOf c = [.char c] := by
      have hshort : isShort c = true := by simp [isShort, hprintable.1, hprintable.2]
      rw [tokensOf, if_pos hshort]
    have hcontrol : ¬ c < 0x20 := by omega
    rw [if_pos hprintable, List.singleton_append, scanTokens.eq_def]
    dsimp only
    rw [if_neg hquote, if_neg hslash, if_neg hcontrol, htokens]
    rfl
  have hshort : ¬ isShort c = true := by
    simp only [Char.reduceToNat] at hn hr ht
    simp [isShort, hn, hr, ht, hf, hb]
    omega
  rw [if_neg hprintable, tokensOf, if_neg hshort]
  by_cases hplane : c < 0x10000
  · rw [if_pos hplane, if_pos hplane]
    exact scanTokens_unitEscape hplane rest
  · rw [if_neg hplane, if_neg hplane, List.append_assoc,
      scanTokens_unitEscape (by unfold highOf; omega),
      scanTokens_unitEscape (by unfold lowOf; omega), Option.map_map]
    rfl

theorem scanTokens_escapes {s : Text} (h : ∀ c ∈ s, c < 0x110000) (rest : Text) :
    scanTokens (escapes s ++ '"'.toNat :: rest) = some (s.flatMap tokensOf, rest) := by
  induction s with
  | nil =>
      show scanTokens ('"'.toNat :: rest) = _
      rw [scanTokens.eq_def]
      dsimp only
      rw [if_pos rfl]
      rfl
  | cons c s ih =>
      have hrest := ih fun c hc => h c (List.mem_cons_of_mem _ hc)
      show scanTokens (escapeChar c ++ escapes s ++ _) = _
      rw [List.append_assoc, scanTokens_escapeChar (h c List.mem_cons_self), hrest]
      rfl

/-! ### Surrogates -/

theorem joined_split {c : Nat} (hlow : 0x10000 ≤ c) (hhigh : c < 0x110000) :
    isHigh (highOf c) = true ∧ isLow (lowOf c) = true ∧ joined (highOf c) (lowOf c) = c := by
  have hhighOf : highOf c = 0xD800 + (c - 0x10000) / 0x400 := rfl
  have hlowOf : lowOf c = 0xDC00 + (c - 0x10000) % 0x400 := rfl
  unfold isHigh isLow joined
  simp only [Bool.and_eq_true, decide_eq_true_eq]
  omega

theorem joinTokens_unit {u : Nat} (h : isHigh u = false) (tokens : List Token) :
    joinTokens (.unit u :: tokens) = u :: joinTokens tokens := by
  cases tokens with
  | nil => rfl
  | cons t rest =>
      cases t with
      | char c => rfl
      | unit low =>
          rw [joinTokens, h]
          rfl

/-- A character that is no high surrogate is alone. -/
theorem joinTokens_tokensOf {c : Nat} (hc : c < 0x110000) (h : isHigh c = false)
    (tokens : List Token) : joinTokens (tokensOf c ++ tokens) = c :: joinTokens tokens := by
  unfold tokensOf
  by_cases hshort : isShort c = true
  · rw [if_pos hshort]
    rfl
  rw [if_neg hshort]
  by_cases hplane : c < 0x10000
  · rw [if_pos hplane]
    exact joinTokens_unit h tokens
  · obtain ⟨hhigh, hlow, hjoined⟩ := joined_split (not_lt.mp hplane) hc
    rw [if_neg hplane, List.cons_append, List.cons_append, joinTokens, hhigh, hlow, hjoined]
    rfl

theorem tokensOf_surrogate {c : Nat} (h : isHigh c = true ∨ isLow c = true) :
    tokensOf c = [.unit c] := by
  have hbounds : 0xD800 ≤ c ∧ c ≤ 0xDFFF := by
    simp only [isHigh, isLow, Bool.and_eq_true, decide_eq_true_eq] at h
    omega
  have hshort : ¬ isShort c = true := by
    simp [isShort]
    omega
  rw [tokensOf, if_neg hshort, if_pos (by omega)]

/-- A high surrogate before what is no low one. -/
theorem joinTokens_lone {high c : Nat} (hhigh : isHigh high = true) (hvalid : c < 0x110000)
    (hc : isLow c = false) (tokens : List Token) :
    joinTokens (.unit high :: (tokensOf c ++ tokens)) =
      high :: joinTokens (tokensOf c ++ tokens) := by
  have hunit : ∀ u, isLow u = false → ∀ tokens, joinTokens (.unit high :: .unit u :: tokens) =
      high :: joinTokens (.unit u :: tokens) := by
    intro u hu tokens
    rw [joinTokens, hhigh, hu]
    rfl
  unfold tokensOf
  by_cases hshort : isShort c = true
  · rw [if_pos hshort]
    rfl
  rw [if_neg hshort]
  by_cases hplane : c < 0x10000
  · rw [if_pos hplane]
    exact hunit c hc tokens
  · rw [if_neg hplane]
    apply hunit
    have hhighOf := (joined_split (not_lt.mp hplane) hvalid).1
    simp only [isHigh, isLow, Bool.and_eq_true, decide_eq_true_eq, Bool.and_eq_false_iff,
      decide_eq_false_iff_not] at hhighOf ⊢
    omega

theorem joinTokens_flatMap {s : Text} (h : ∀ c ∈ s, c < 0x110000) :
    joinTokens (s.flatMap tokensOf) = joinPairs s := by
  induction s using joinPairs.induct with
  | case1 high low rest hpair ih =>
      have hboth := Bool.and_eq_true_iff.mp hpair
      rw [List.flatMap_cons, List.flatMap_cons, tokensOf_surrogate (Or.inl hboth.1),
        tokensOf_surrogate (Or.inr hboth.2), joinPairs, if_pos hpair]
      show joinTokens (.unit high :: .unit low :: rest.flatMap tokensOf) = _
      rw [joinTokens, if_pos hpair, ih fun c hc => h c (by simp [hc])]
  | case2 high low rest hpair ih =>
      have hrest := ih fun c hc => h c (List.mem_cons_of_mem _ hc)
      rw [joinPairs, if_neg hpair, ← hrest]
      cases hhigh : isHigh high with
      | false =>
          rw [List.flatMap_cons]
          exact joinTokens_tokensOf (h high List.mem_cons_self) hhigh _
      | true =>
          have hlow : isLow low = false := by
            rw [hhigh, Bool.true_and, Bool.not_eq_true] at hpair
            exact hpair
          rw [List.flatMap_cons, tokensOf_surrogate (Or.inl hhigh), List.flatMap_cons]
          exact joinTokens_lone hhigh (h low (by simp)) hlow _
  | case3 s hshort =>
      match s, hshort with
      | [], _ => rfl
      | [c], _ =>
          cases hhigh : isHigh c with
          | false =>
              rw [List.flatMap_cons, joinTokens_tokensOf (h c List.mem_cons_self) hhigh]
              rfl
          | true =>
              rw [List.flatMap_cons, tokensOf_surrogate (Or.inl hhigh)]
              rfl
      | c :: d :: rest, hshort => exact absurd rfl (hshort c d rest)

/-- A written string reads back with its surrogates joined. -/
theorem scanString_escapes {s : Text} (h : ∀ c ∈ s, c < 0x110000) (rest : Text) :
    scanString (escapes s ++ '"'.toNat :: rest) = some (joinPairs s, rest) := by
  rw [scanString, scanTokens_escapes h, Option.map_some, joinTokens_flatMap h]

theorem length_joinPairs (s : Text) : (joinPairs s).length + splitPairs s = s.length := by
  induction s using joinPairs.induct with
  | case1 high low rest hpair ih =>
      rw [joinPairs, if_pos hpair, splitPairs, if_pos hpair]
      simp only [List.length_cons]
      omega
  | case2 high low rest hpair ih =>
      rw [joinPairs, if_neg hpair, splitPairs, if_neg hpair]
      simp only [List.length_cons] at ih ⊢
      omega
  | case3 s hshort =>
      match s, hshort with
      | [], _ => rfl
      | [c], _ => rfl
      | c :: d :: rest, hshort => exact absurd rfl (hshort c d rest)

theorem joinPairs_of_splitPairs {s : Text} (h : splitPairs s = 0) : joinPairs s = s := by
  induction s using joinPairs.induct with
  | case1 high low rest hpair ih =>
      rw [splitPairs, if_pos hpair] at h
      omega
  | case2 high low rest hpair ih =>
      rw [splitPairs, if_neg hpair] at h
      rw [joinPairs, if_neg hpair, ih h]
  | case3 s hshort =>
      match s, hshort with
      | [], _ => rfl
      | [c], _ => rfl
      | c :: d :: rest, hshort => exact absurd rfl (hshort c d rest)

/-! ### Numbers -/

/-- What may follow a value: nothing, a comma or a closing bracket. -/
def Ends (rest : Text) : Prop :=
  ∀ c ∈ rest.head?, c = ','.toNat ∨ c = ']'.toNat ∨ c = '\x7d'.toNat

theorem Ends.not_digit {rest : Text} (h : Ends rest) : ∀ c ∈ rest.head?, isDigit c = false := by
  intro c hc
  rcases h c hc with rfl | rfl | rfl <;> rfl

theorem span_append {p : Nat → Bool} {rest : Text} (h : ∀ c ∈ rest.head?, p c = false)
    (l : Text) : (l ++ rest).takeWhile p = l.takeWhile p ∧
      (l ++ rest).dropWhile p = l.dropWhile p ++ rest := by
  induction l with
  | nil =>
      cases rest with
      | nil => exact ⟨rfl, rfl⟩
      | cons c tail => simp [h c rfl]
  | cons c l ih =>
      cases hc : p c with
      | true => simp [hc, ih]
      | false => simp [hc]

theorem matchWhole_append {text whole r rest : Text} (hrest : Ends rest)
    (h : matchWhole text = some (whole, r)) :
    matchWhole (text ++ rest) = some (whole, r ++ rest) := by
  cases text with
  | nil => simp [matchWhole] at h
  | cons c tail =>
      have hspan := span_append hrest.not_digit tail
      rw [matchWhole] at h
      rw [List.cons_append, matchWhole, hspan.1, hspan.2]
      by_cases hzero : c = '0'.toNat
      · rw [if_pos hzero] at h ⊢
        cases h
        rfl
      · rw [if_neg hzero] at h ⊢
        by_cases hdigit : isDigit c = true
        · rw [if_pos hdigit] at h ⊢
          cases h
          rfl
        · rw [if_neg hdigit] at h
          cases h

theorem matchFraction_append {rest : Text} (hrest : Ends rest) (text : Text) :
    matchFraction (text ++ rest) = ((matchFraction text).1, (matchFraction text).2 ++ rest) := by
  have hnone : ∀ c, (∀ d ∈ rest.head?, ¬ (c = '.'.toNat ∧ isDigit d = true)) →
      matchFraction (c :: rest) = ([], c :: rest) := by
    intro c hc
    cases rest with
    | nil => rfl
    | cons d tail => rw [matchFraction, if_neg (hc d rfl)]
  match text with
  | [] =>
      cases rest with
      | nil => rfl
      | cons c tail =>
          have hpoint : c ≠ '.'.toNat := by
            rcases hrest c rfl with rfl | rfl | rfl <;> simp
          cases tail with
          | nil => rfl
          | cons d tail =>
              rw [List.nil_append, matchFraction, if_neg fun h => hpoint h.1]
              rfl
  | [c] =>
      refine hnone c ?_
      intro d hd hboth
      rw [hrest.not_digit d hd] at hboth
      exact absurd hboth.2 (by simp)
  | c :: d :: tail =>
      have hspan := span_append hrest.not_digit tail
      rw [List.cons_append, List.cons_append, matchFraction, matchFraction, hspan.1, hspan.2]
      by_cases hpoint : c = '.'.toNat ∧ isDigit d = true
      · rw [if_pos hpoint, if_pos hpoint]
      · rw [if_neg hpoint, if_neg hpoint]
        rfl

theorem matchExponent_append {rest : Text} (hrest : Ends rest) (text : Text) :
    matchExponent (text ++ rest) = ((matchExponent text).1, (matchExponent text).2 ++ rest) := by
  have hplain : ∀ c ∈ rest.head?, isExponent c = false ∧ isSign c = false ∧ isDigit c = false := by
    intro c hc
    rcases hrest c hc with rfl | rfl | rfl <;> exact ⟨rfl, rfl, rfl⟩
  match text with
  | [] =>
      match rest, hplain with
      | [], _ => rfl
      | [c], _ => rfl
      | c :: d :: tail, hplain =>
          rw [List.nil_append, matchExponent, (hplain c rfl).1]
          rfl
  | [e] =>
      match rest, hplain with
      | [], _ => rfl
      | c :: tail, hplain =>
          rw [List.singleton_append, matchExponent, (hplain c rfl).2.1, (hplain c rfl).2.2]
          simp [matchExponent]
  | e :: c :: tail =>
      have hspan := span_append hrest.not_digit tail
      have hhead : (tail ++ rest).head?.any isDigit = tail.head?.any isDigit := by
        cases tail with
        | nil =>
            cases rest with
            | nil => rfl
            | cons d tail => exact (hplain d rfl).2.2
        | cons d tail => rfl
      rw [List.cons_append, List.cons_append, matchExponent, matchExponent, hspan.1, hspan.2, hhead]
      by_cases hfirst : (isExponent e && isDigit c) = true
      · rw [if_pos hfirst, if_pos hfirst]
      rw [if_neg hfirst, if_neg hfirst]
      by_cases hsecond : (isExponent e && isSign c && tail.head?.any isDigit) = true
      · rw [if_pos hsecond, if_pos hsecond]
      · rw [if_neg hsecond, if_neg hsecond]
        rfl

/-- A number is read up to its end. -/
theorem matchNumber_append {text r rest : Text} {n : Numeral} (hrest : Ends rest)
    (h : matchNumber text = some (n, r)) : matchNumber (text ++ rest) = some (n, r ++ rest) := by
  have hne : text ≠ [] := by
    intro hnil
    rw [hnil] at h
    cases h
  obtain ⟨c, tail, rfl⟩ := List.exists_cons_of_ne_nil hne
  have hsign : isNegative (c :: tail ++ rest) = isNegative (c :: tail) := rfl
  have hunsigned : unsigned (c :: tail ++ rest) = unsigned (c :: tail) ++ rest := by
    unfold unsigned
    rw [hsign]
    cases isNegative (c :: tail) <;> rfl
  unfold matchNumber at h ⊢
  rw [Option.map_eq_some_iff] at h
  obtain ⟨whole, hwhole, hn⟩ := h
  rw [hunsigned, matchWhole_append hrest hwhole, Option.map_some, hsign]
  simp only [matchFraction_append hrest, matchExponent_append hrest]
  cases hn
  rfl

/-- The whole part of a number has a first digit. -/
theorem matchWhole_head {text : Text} {r : Text × Text} (h : matchWhole text = some r) :
    ∃ c tail, text = c :: tail ∧ isDigit c = true := by
  cases text with
  | nil => cases h
  | cons c tail =>
      rw [matchWhole] at h
      by_cases hzero : c = '0'.toNat
      · exact ⟨c, tail, rfl, by rw [hzero]; rfl⟩
      · rw [if_neg hzero] at h
        by_cases hdigit : isDigit c = true
        · exact ⟨c, tail, rfl, hdigit⟩
        · rw [if_neg hdigit] at h
          cases h

/-- A number starts with a digit, or with a minus and a digit. -/
theorem matchNumber_head {text : Text} {r : Numeral × Text} (h : matchNumber text = some r) :
    (∃ c tail, text = c :: tail ∧ isDigit c = true) ∨
      ∃ c tail, text = '-'.toNat :: c :: tail ∧ isDigit c = true := by
  unfold matchNumber at h
  rw [Option.map_eq_some_iff] at h
  obtain ⟨whole, hwhole, -⟩ := h
  obtain ⟨c, tail, htail, hdigit⟩ := matchWhole_head hwhole
  unfold unsigned at htail
  by_cases hminus : isNegative text = true
  · rw [if_pos hminus] at htail
    refine Or.inr ⟨c, tail, ?_, hdigit⟩
    cases text with
    | nil => cases htail
    | cons d text =>
        have hd : d = '-'.toNat := by simpa [isNegative] using hminus
        rw [hd]
        exact congrArg _ htail
  · rw [if_neg hminus] at htail
    exact Or.inl ⟨c, tail, htail, hdigit⟩

/-! ### What a scanner has read -/

theorem matchWhole_text {text : Text} {r : Text × Text} (h : matchWhole text = some r) :
    text = r.1 ++ r.2 := by
  cases text with
  | nil => cases h
  | cons c tail =>
      rw [matchWhole] at h
      by_cases hzero : c = '0'.toNat
      · rw [if_pos hzero] at h
        cases h
        rfl
      · rw [if_neg hzero] at h
        by_cases hdigit : isDigit c = true
        · rw [if_pos hdigit] at h
          cases h
          rw [List.cons_append, List.takeWhile_append_dropWhile]
        · rw [if_neg hdigit] at h
          cases h

theorem matchFraction_text (text : Text) :
    (matchFraction text).1 ++ (matchFraction text).2 = text := by
  match text with
  | [] => rfl
  | [_] => rfl
  | c :: d :: tail =>
      rw [matchFraction]
      by_cases hpoint : c = '.'.toNat ∧ isDigit d = true
      · rw [if_pos hpoint]
        simp
      · rw [if_neg hpoint]
        rfl

theorem matchExponent_text (text : Text) :
    (matchExponent text).1 ++ (matchExponent text).2 = text := by
  match text with
  | [] => rfl
  | [_] => rfl
  | e :: c :: tail =>
      rw [matchExponent]
      by_cases hfirst : (isExponent e && isDigit c) = true
      · rw [if_pos hfirst]
        simp
      rw [if_neg hfirst]
      by_cases hsecond : (isExponent e && isSign c && tail.head?.any isDigit) = true
      · rw [if_pos hsecond]
        simp
      · rw [if_neg hsecond]
        rfl

theorem matchNumber_text {text : Text} {r : Numeral × Text} (h : matchNumber text = some r) :
    text = r.1.text ++ r.2 := by
  unfold matchNumber at h
  rw [Option.map_eq_some_iff] at h
  obtain ⟨whole, hwhole, rfl⟩ := h
  have htext : text = (if isNegative text then ['-'.toNat] else []) ++ unsigned text := by
    unfold unsigned
    cases hminus : isNegative text with
    | false => rfl
    | true =>
        cases text with
        | nil => cases hminus
        | cons d text =>
            have hd : d = '-'.toNat := by simpa [isNegative] using hminus
            rw [hd]
            rfl
  conv_lhs => rw [htext, matchWhole_text hwhole, ← matchFraction_text whole.2,
    ← matchExponent_text (matchFraction whole.2).2]
  simp [Numeral.text]

theorem digit_ne {c : Nat} (h : isDigit c = true) (d : Nat) (hd : isDigit d = false) : c ≠ d := by
  intro heq
  rw [heq, hd] at h
  cases h

/-! ### Integers -/

theorem natText_digits (n : Nat) : ∀ c ∈ natText n, isDigit c = true := by
  intro c hc
  unfold natText at hc
  by_cases hzero : n = 0
  · rw [if_pos hzero, List.mem_singleton] at hc
    rw [hc]
    rfl
  · rw [if_neg hzero, List.mem_map] at hc
    obtain ⟨d, hd, rfl⟩ := hc
    have hlt := Nat.digits_lt_base (by omega : 1 < 10) (List.mem_reverse.mp hd)
    simp [isDigit]
    omega

/-- The digits that are written are read again. -/
theorem natOf_natText (n : Nat) : natOf (natText n) = n := by
  unfold natOf natText
  by_cases hzero : n = 0
  · rw [if_pos hzero, hzero]
    rfl
  · have hback : ((fun c : Nat => c - '0'.toNat) ∘ fun d => '0'.toNat + d) = id := by
      funext d
      simp
    rw [if_neg hzero, ← List.map_reverse, List.reverse_reverse, List.map_map, hback, List.map_id]
    exact Nat.ofDigits_digits 10 n

theorem matchWhole_natText (n : Nat) : matchWhole (natText n) = some (natText n, []) := by
  have hdigits := natText_digits n
  unfold natText at hdigits ⊢
  by_cases hzero : n = 0
  · rw [if_pos hzero]
    rfl
  · rw [if_neg hzero] at hdigits ⊢
    have hne : Nat.digits 10 n ≠ [] := Nat.digits_ne_nil_iff_ne_zero.mpr hzero
    have hlast := Nat.getLast_digit_ne_zero 10 hzero
    have hcons : (Nat.digits 10 n).reverse =
        (Nat.digits 10 n).getLast hne :: (Nat.digits 10 n).dropLast.reverse := by
      conv_lhs => rw [← List.dropLast_append_getLast hne]
      rw [List.reverse_append]
      rfl
    rw [hcons, List.map_cons] at hdigits ⊢
    have hfirst : '0'.toNat + (Nat.digits 10 n).getLast hne ≠ '0'.toNat := by omega
    rw [matchWhole, if_neg hfirst, if_pos (hdigits _ List.mem_cons_self)]
    have hall : ∀ c ∈ (Nat.digits 10 n).dropLast.reverse.map ('0'.toNat + ·), isDigit c = true :=
      fun c hc => hdigits c (List.mem_cons_of_mem _ hc)
    rw [List.takeWhile_eq_self_iff.mpr hall, List.dropWhile_eq_nil_iff.mpr hall]

theorem matchNumber_intText (n : Int) : matchNumber (intText n) =
    some ({ negative := decide (n < 0), whole := natText n.natAbs, fraction := [], exponent := [] },
      []) := by
  unfold intText
  by_cases hneg : n < 0
  · rw [if_pos hneg, decide_eq_true hneg]
    show (matchWhole (natText n.natAbs)).map _ = _
    rw [matchWhole_natText]
    rfl
  · have hminus : isNegative (natText n.natAbs) = false := by
      cases htext : natText n.natAbs with
      | nil => rfl
      | cons c tail =>
          have hdigit := natText_digits n.natAbs c (by rw [htext]; exact List.mem_cons_self)
          exact beq_eq_false_iff_ne.mpr fun heq => digit_ne hdigit _ rfl (Option.some.inj heq)
    rw [if_neg hneg, decide_eq_false hneg]
    unfold matchNumber unsigned
    rw [hminus]
    show (matchWhole (natText n.natAbs)).map _ = _
    rw [matchWhole_natText]
    rfl

theorem intOf_natText {n : Int} (h : (natText n.natAbs).length ≤ maxStrDigits) :
    intOf (decide (n < 0)) (natText n.natAbs) = some n := by
  unfold intOf
  rw [if_pos h, natOf_natText]
  by_cases hneg : n < 0
  · rw [decide_eq_true hneg, if_pos rfl]
    congr 1
    omega
  · rw [decide_eq_false hneg, if_neg Bool.false_ne_true]
    congr 1
    omega

/-! ### Values that are no containers -/

section

variable {fl : Floats F}

theorem bracketOf_cons {c : Nat} {rest : Text} (hsquare : c ≠ '['.toNat)
    (hcurly : c ≠ '\x7b'.toNat) : bracketOf (c :: rest) = none := by
  have hsquare' : after Bracket.square.opening (c :: rest) = none := if_neg hsquare
  have hcurly' : after Bracket.curly.opening (c :: rest) = none := if_neg hcurly
  rw [bracketOf, hsquare', hcurly']
  rfl

/-- A number is no keyword and no string, and opens nothing. -/
theorem scalar_of_matchNumber (fl : Floats F) {text rest : Text} {n : Numeral}
    (h : matchNumber text = some (n, rest)) :
    bracketOf text = none ∧ scalar fl text = number fl text := by
  have hkeyword : keyword fl text = none ∧ bracketOf text = none ∧ after '"'.toNat text = none := by
    rcases matchNumber_head h with ⟨c, tail, rfl, hdigit⟩ | ⟨c, tail, rfl, hdigit⟩
    · have hne : ∀ d, isDigit d = false → ¬ d = c := fun d hd heq => digit_ne hdigit d hd heq.symm
      refine ⟨?_, bracketOf_cons (digit_ne hdigit _ rfl) (digit_ne hdigit _ rfl), ?_⟩
      · simp [keyword, keywords, ascii, Special.word, hne 110 rfl, hne 116 rfl, hne 102 rfl,
          hne 78 rfl, hne 73 rfl, hne 45 rfl]
      · rw [after, if_neg (digit_ne hdigit _ rfl)]
    · have hne : ¬ 73 = c := fun heq => digit_ne hdigit 73 rfl heq.symm
      refine ⟨?_, rfl, rfl⟩
      simp [keyword, keywords, ascii, Special.word, hne]
  refine ⟨hkeyword.2.1, ?_⟩
  rw [scalar, hkeyword.2.2, hkeyword.1]
  rfl

theorem number_int {n : Int} (h : (natText n.natAbs).length ≤ maxStrDigits) {rest : Text}
    (hrest : Ends rest) : bracketOf (intText n ++ rest) = none ∧
      scalar fl (intText n ++ rest) = some (.int n, rest) := by
  have hmatch := matchNumber_append hrest (matchNumber_intText n)
  have hscalar := scalar_of_matchNumber fl hmatch
  refine ⟨hscalar.1, ?_⟩
  rw [hscalar.2, number, hmatch, Option.bind_some, if_pos ⟨rfl, rfl⟩, intOf_natText h]
  rfl

theorem number_float (hfl : fl.Lawful) {x : F} (h : fl.special x = none) {rest : Text}
    (hrest : Ends rest) : bracketOf (floatText fl x ++ rest) = none ∧
      scalar fl (floatText fl x ++ rest) = some (.float x, rest) := by
  have htext : floatText fl x = fl.repr x := by
    rw [floatText, h]
  obtain ⟨n, hnumber, hkind⟩ := hfl.number x h
  have hmatch := matchNumber_append hrest hnumber
  have hscalar := scalar_of_matchNumber fl hmatch
  have hfraction : ¬ (n.fraction = [] ∧ n.exponent = []) := by
    intro hboth
    exact hkind.elim (fun h => h hboth.1) fun h => h hboth.2
  have hback : fl.ofText n.text = x := by
    have hread := matchNumber_text hnumber
    rw [List.append_nil] at hread
    rw [← hread]
    exact hfl.ofText_repr x h
  rw [htext]
  refine ⟨hscalar.1, ?_⟩
  rw [hscalar.2, number, hmatch, Option.bind_some, if_neg hfraction, hback]
  rfl

end

/-! ### What is left after a scanner -/

theorem scanTokens_length (text : Text) :
    ∀ r, scanTokens text = some r → r.2.length < text.length := by
  fun_induction scanTokens text with
  | case1 => simp
  | case2 rest =>
      intro r h
      cases h
      simp
  | case3 => simp
  | case4 h₁ h₂ h₃ h₄ rest hslash ih =>
      intro r h
      simp only [Option.bind_eq_some_iff, Option.map_eq_some_iff] at h
      obtain ⟨u, -, r', hr', rfl⟩ := h
      have := ih r' hr'
      simp only [List.length_cons]
      omega
  | case5 => simp
  | case6 e rest hletter hslash ih =>
      intro r h
      simp only [Option.bind_eq_some_iff, Option.map_eq_some_iff] at h
      obtain ⟨u, -, r', hr', rfl⟩ := h
      have := ih r' hr'
      simp only [List.length_cons]
      omega
  | case7 => simp
  | case8 c rest hquote hslash hcontrol ih =>
      intro r h
      rw [Option.map_eq_some_iff] at h
      obtain ⟨r', hr', rfl⟩ := h
      have := ih r' hr'
      simp only [List.length_cons]
      omega

theorem scanString_length {text : Text} {r : Text × Text} (h : scanString text = some r) :
    r.2.length < text.length := by
  rw [scanString, Option.map_eq_some_iff] at h
  obtain ⟨r', hr', rfl⟩ := h
  exact scanTokens_length text r' hr'

theorem after_length {c : Nat} {text rest : Text} (h : after c text = some rest) :
    rest.length + 1 = text.length := by
  cases text with
  | nil => cases h
  | cons d tail =>
      rw [after] at h
      by_cases hd : d = c
      · rw [if_pos hd] at h
        cases h
        rfl
      · rw [if_neg hd] at h
        cases h

theorem skip_length (text : Text) : (skip text).length ≤ text.length :=
  List.length_dropWhile_le isSpace text

theorem label_length {b : Bracket} {text : Text} {r : Text × Text} (h : b.label text = some r) :
    r.2.length ≤ text.length := by
  cases b with
  | square =>
      cases h
      exact Nat.le_refl _
  | curly =>
      simp only [Bracket.label, Option.bind_eq_some_iff, Option.map_eq_some_iff] at h
      obtain ⟨rest, hrest, key, hkey, more, hmore, rfl⟩ := h
      have h₁ := after_length hrest
      have h₂ := scanString_length hkey
      have h₃ := skip_length key.2
      have h₄ := after_length hmore
      have h₅ := skip_length more
      show (skip more).length ≤ _
      omega

theorem bracketOf_length {b : Bracket} {text rest : Text} (h : bracketOf text = some (b, rest)) :
    rest.length + 1 = text.length := by
  rw [bracketOf] at h
  cases hsquare : after Bracket.square.opening text with
  | some r =>
      rw [hsquare] at h
      cases h
      exact after_length hsquare
  | none =>
      rw [hsquare] at h
      simp only [Option.map_eq_some_iff] at h
      obtain ⟨r, hcurly, heq⟩ := h
      cases heq
      exact after_length hcurly

section

variable {fl : Floats F}

theorem keyword_length {text : Text} {r : Value F × Text} (h : keyword fl text = some r) :
    r.2.length < text.length := by
  rw [keyword, List.findSome?_eq_some_iff] at h
  obtain ⟨before, w, later, hwords, hw, -⟩ := h
  have hmem : w ∈ keywords fl := by simp [hwords]
  have hword : w.1 ≠ [] := by
    simp only [keywords, List.mem_cons, List.not_mem_nil, or_false] at hmem
    rcases hmem with rfl | rfl | rfl | rfl | rfl | rfl <;> exact List.cons_ne_nil _ _
  by_cases hstart : w.1.isPrefixOf text = true
  · rw [if_pos hstart] at hw
    cases hw
    have hle := (List.isPrefixOf_iff_prefix.mp hstart).length_le
    have hpos := List.length_pos_of_ne_nil hword
    show (text.drop w.1.length).length < _
    rw [List.length_drop]
    omega
  · rw [if_neg hstart] at hw
    cases hw

theorem number_length {text : Text} {r : Value F × Text} (h : number fl text = some r) :
    r.2.length < text.length := by
  rw [number, Option.bind_eq_some_iff] at h
  obtain ⟨n, hn, hvalue⟩ := h
  have htext := matchNumber_text hn
  have hrest : r.2 = n.2 := by
    by_cases hint : n.1.fraction = [] ∧ n.1.exponent = []
    · rw [if_pos hint, Option.map_eq_some_iff] at hvalue
      obtain ⟨i, -, rfl⟩ := hvalue
      rfl
    · rw [if_neg hint] at hvalue
      cases hvalue
      rfl
  have hwhole : n.1.text ≠ [] := by
    intro hnil
    unfold matchNumber at hn
    rw [Option.map_eq_some_iff] at hn
    obtain ⟨whole, hwhole, rfl⟩ := hn
    simp only [Numeral.text, List.append_eq_nil_iff] at hnil
    obtain ⟨c, tail, htail, hdigit⟩ := matchWhole_head hwhole
    have heq := matchWhole_text hwhole
    rw [htail, matchWhole] at hwhole
    by_cases hzero : c = '0'.toNat
    · rw [if_pos hzero] at hwhole
      cases hwhole
      cases hnil.1.1.2
    · rw [if_neg hzero, if_pos hdigit] at hwhole
      cases hwhole
      cases hnil.1.1.2
  have hpos := List.length_pos_of_ne_nil hwhole
  rw [hrest, htext, List.length_append]
  omega

theorem scalar_length {text : Text} {r : Value F × Text} (h : scalar fl text = some r) :
    r.2.length < text.length := by
  rw [scalar] at h
  cases hquote : after '"'.toNat text with
  | some rest =>
      rw [hquote] at h
      simp only [Option.map_eq_some_iff] at h
      obtain ⟨s, hs, rfl⟩ := h
      have h₁ := after_length hquote
      have h₂ := scanString_length hs
      show s.2.length < _
      omega
  | none =>
      rw [hquote] at h
      cases hkeyword : keyword fl text with
      | some r' =>
          rw [hkeyword] at h
          cases h
          exact keyword_length hkeyword
      | none =>
          rw [hkeyword] at h
          exact number_length h

/-- A value takes a character at least, and an element takes one with what follows it. -/
theorem opens_length (fl : Floats F) (fuel : Nat) :
    (∀ text rest, (opens fl fuel text).2 = some rest → rest.length < text.length) ∧
      ∀ b text rest, (opensElements fl fuel b text).2 = some rest → rest.length < text.length := by
  induction fuel with
  | zero =>
      constructor
      · intro text rest h
        cases h
      · intro b text rest h
        cases h
  | succ fuel ih =>
      constructor
      · intro text rest h
        rw [opens] at h
        cases hbracket : bracketOf text with
        | none =>
            rw [hbracket] at h
            simp only [Option.map_eq_some_iff] at h
            obtain ⟨r, hr, rfl⟩ := h
            exact scalar_length hr
        | some bracket =>
            have hlength : bracket.2.length + 1 = text.length := bracketOf_length hbracket
            have hskip := skip_length bracket.2
            rw [hbracket] at h
            dsimp only at h
            cases hclosing : after bracket.1.closing (skip bracket.2) with
            | some more =>
                rw [hclosing] at h
                cases h
                have := after_length hclosing
                omega
            | none =>
                rw [hclosing] at h
                have := ih.2 bracket.1 (skip bracket.2) rest h
                omega
      · intro b text rest h
        rw [opensElements] at h
        cases hlabel : b.label text with
        | none =>
            rw [hlabel] at h
            cases h
        | some key =>
            have hkey := label_length hlabel
            rw [hlabel] at h
            dsimp only at h
            cases hvalue : (opens fl fuel key.2).2 with
            | none =>
                rw [hvalue] at h
                cases h
            | some next =>
                have hnext := ih.1 key.2 next hvalue
                have hskip := skip_length next
                rw [hvalue] at h
                dsimp only at h
                cases hclosing : after b.closing (skip next) with
                | some more =>
                    rw [hclosing] at h
                    cases h
                    have := after_length hclosing
                    omega
                | none =>
                    rw [hclosing] at h
                    dsimp only at h
                    cases hcomma : after ','.toNat (skip next) with
                    | none =>
                        rw [hcomma] at h
                        cases h
                    | some more =>
                        rw [hcomma] at h
                        have h₁ := after_length hcomma
                        have h₂ := skip_length more
                        have h₃ := ih.2 b (skip more) rest h
                        omega

/-! ### Which texts are too deep -/

/-- What a reader with so many levels does with a text that opens so many containers. -/
structure Agrees {α : Type} (levels : Nat) (r : Nat × Option Text)
    (x : Except Fault (α × Text)) : Prop where
  deep : levels < r.1 → x = .error .recursionError
  wrong : r.1 ≤ levels → r.2 = none → x = .error .valueError
  right : r.1 ≤ levels → ∀ rest, r.2 = some rest → ∃ v, x = .ok (v, rest)

theorem Agrees.ok {α : Type} {levels d : Nat} (h : d ≤ levels) (v : α) (rest : Text) :
    Agrees levels (d, some rest) (.ok (v, rest)) where
  deep hdeep := absurd h (not_le.mpr hdeep)
  wrong _ hnone := by cases hnone
  right _ rest' hrest := by
    cases hrest
    exact ⟨v, rfl⟩

theorem Agrees.error {α : Type} {levels d : Nat} (h : d ≤ levels) :
    Agrees (α := α) levels (d, none) (.error .valueError) where
  deep hdeep := absurd h (not_le.mpr hdeep)
  wrong _ _ := rfl
  right _ rest hrest := by cases hrest

theorem Agrees.recursionError {α : Type} {levels : Nat} {r : Nat × Option Text}
    (h : levels < r.1) : Agrees (α := α) levels r (.error .recursionError) where
  deep _ := rfl
  wrong hle := absurd h (not_lt.mpr hle)
  right hle := absurd h (not_lt.mpr hle)

/-- The reader and the count of the open containers go through a text alike. -/
theorem scanOnce_agrees (fl : Floats F) (fuel : Nat) :
    (∀ levels text, 2 * text.length < fuel →
      Agrees levels (opens fl fuel text) (scanOnce fl fuel levels text)) ∧
    ∀ b levels text, 2 * text.length + 1 < fuel →
      Agrees levels (opensElements fl fuel b text) (scanElements fl fuel b levels text) := by
  induction fuel with
  | zero =>
      constructor
      · intro levels text h
        omega
      · intro b levels text h
        omega
  | succ fuel ih =>
      constructor
      · intro levels text hfuel
        rw [opens, scanOnce]
        cases hbracket : bracketOf text with
        | none =>
            dsimp only
            cases hscalar : scalar fl text with
            | none => exact Agrees.error (Nat.zero_le _)
            | some r => exact Agrees.ok (Nat.zero_le _) r.1 r.2
        | some bracket =>
            have hlength : bracket.2.length + 1 = text.length := bracketOf_length hbracket
            have hskip := skip_length bracket.2
            dsimp only
            cases hclosing : after bracket.1.closing (skip bracket.2) with
            | some more =>
                cases levels with
                | zero => exact Agrees.recursionError Nat.zero_lt_one
                | succ levels => exact Agrees.ok (Nat.le_add_left 1 levels) _ more
            | none =>
                cases levels with
                | zero => exact Agrees.recursionError (Nat.succ_pos _)
                | succ levels =>
                    have hin := ih.2 bracket.1 levels (skip bracket.2) (by omega)
                    dsimp only
                    constructor
                    · intro hdeep
                      rw [hin.deep (Nat.lt_of_succ_lt_succ hdeep)]
                      rfl
                    · intro hle hnone
                      rw [hin.wrong (Nat.le_of_succ_le_succ hle) hnone]
                      rfl
                    · intro hle rest hrest
                      obtain ⟨v, hv⟩ := hin.right (Nat.le_of_succ_le_succ hle) rest hrest
                      rw [hv]
                      exact ⟨_, rfl⟩
      · intro b levels text hfuel
        rw [opensElements, scanElements]
        cases hlabel : b.label text with
        | none => exact Agrees.error (Nat.zero_le _)
        | some key =>
            have hkey := label_length hlabel
            have hvalue := ih.1 levels key.2 (by omega)
            dsimp only
            by_cases hdeep : levels < (opens fl fuel key.2).1
            · rw [hvalue.deep hdeep]
              refine Agrees.recursionError ?_
              cases hrest : (opens fl fuel key.2).2 with
              | none => exact hdeep
              | some next =>
                  dsimp only
                  cases after b.closing (skip next) with
                  | some more => exact hdeep
                  | none =>
                      cases after ','.toNat (skip next) with
                      | none => exact hdeep
                      | some more => exact lt_of_lt_of_le hdeep (le_max_left _ _)
            have hle := not_lt.mp hdeep
            cases hrest : (opens fl fuel key.2).2 with
            | none =>
                rw [hvalue.wrong hle hrest]
                exact Agrees.error hle
            | some next =>
                have hnext := (opens_length fl fuel).1 key.2 next hrest
                have hskip := skip_length next
                obtain ⟨v, hv⟩ := hvalue.right hle next hrest
                rw [hv]
                dsimp only [Bind.bind, Except.bind]
                cases hclosing : after b.closing (skip next) with
                | some more => exact Agrees.ok hle _ more
                | none =>
                    dsimp only
                    cases hcomma : after ','.toNat (skip next) with
                    | none => exact Agrees.error hle
                    | some more =>
                        have h₁ := after_length hcomma
                        have h₂ := skip_length more
                        have hmore := ih.2 b levels (skip more) (by omega)
                        dsimp only
                        constructor
                        · intro hdeep
                          rw [hmore.deep ((lt_max_iff.mp hdeep).resolve_left (not_lt.mpr hle))]
                        · intro hmax hnone
                          rw [hmore.wrong (le_trans (le_max_right _ _) hmax) hnone]
                        · intro hmax rest hrest
                          have hle' := le_trans (le_max_right _ _) hmax
                          obtain ⟨vs, hvs⟩ := hmore.right hle' rest hrest
                          rw [hvs]
                          exact ⟨_, rfl⟩

/-- **When `json.loads` runs out of levels.**  Any other text is read or is a `ValueError`. -/
theorem loads_recursionError_iff (fl : Floats F) (levels : Nat) (bytes : List Nat) :
    (loads fl levels bytes = .error .recursionError ↔ levels < deepest fl bytes) ∧
      loads fl levels bytes ≠ .error .outOfFuel := by
  unfold loads deepest
  cases decodeBytes bytes with
  | none => simp
  | some text =>
      have hagrees := (scanOnce_agrees fl (fuelFor (skip text))).1 levels (skip text)
        (Nat.lt_succ_self _)
      dsimp only
      by_cases hdeep : levels < (opens fl (fuelFor (skip text)) (skip text)).1
      · rw [hagrees.deep hdeep]
        exact ⟨⟨fun _ => hdeep, fun _ => rfl⟩, by simp [Bind.bind, Except.bind]⟩
      have hle := not_lt.mp hdeep
      cases hrest : (opens fl (fuelFor (skip text)) (skip text)).2 with
      | none =>
          rw [hagrees.wrong hle hrest]
          simp [Bind.bind, Except.bind, hle]
      | some rest =>
          obtain ⟨v, hv⟩ := hagrees.right hle rest hrest
          rw [hv]
          dsimp only [Bind.bind, Except.bind]
          by_cases hend : skip rest = []
          · rw [if_pos hend]
            simp [hle]
          · rw [if_neg hend]
            simp [hle]

end

/-! ### What a written value reads back as -/

namespace Value

/-- The value with the surrogates of its texts joined. -/
def reread (v : Value F) : Value F :=
  v.fold
    { null := .null, bool := .bool, int := .int, float := .float
      str := fun s => .str (joinPairs s)
      list := .list
      object := fun fields => Bracket.curly.build (fields.map fun e => (joinPairs e.1, e.2)) }

@[simp] theorem reread_list (items : List (Value F)) :
    (list items).reread = list (items.map reread) := by
  unfold reread
  rw [fold_list]

@[simp] theorem reread_object (fields : List (Text × Value F)) : (object fields).reread =
    Bracket.curly.build (fields.map fun e => (joinPairs e.1, e.2.reread)) := by
  unfold reread
  rw [fold_object]
  dsimp only
  rw [List.map_map]
  rfl

end Value

open Value

theorem foldl_set_of_nodup {α : Type} : ∀ (entries : List (Text × α)) (d : Py.Dict Text α),
    ((d ++ entries).map Prod.fst).Nodup →
      entries.foldl (fun d e => Py.Dict.set d e.1 e.2) d = d ++ entries := by
  intro entries
  induction entries with
  | nil =>
      intro d _
      rw [List.append_nil]
      rfl
  | cons e rest ih =>
      intro d hnodup
      have hfresh : Py.Dict.get d e.1 = none := by
        rw [← Option.not_isSome_iff_eq_none, ← Py.Dict.mem_keys_iff]
        intro hmem
        rw [List.map_append, List.nodup_append] at hnodup
        exact hnodup.2.2 e.1 hmem e.1 (by simp) rfl
      have hset : Py.Dict.set d e.1 e.2 = d ++ [e] := Py.Dict.set_of_get_none e.2 hfresh
      rw [List.foldl_cons, hset, ih _ (by rwa [List.append_assoc]), List.append_assoc]
      rfl

/-- A value without split pairs reads back as it was written. -/
theorem reread_of_unsplit {fl : Floats F} {v : Value F} (hv : v.WellFormed fl)
    (h : v.total splitPairs = 0) : v.reread = v := by
  induction v using Value.induct with
  | null => rfl
  | bool b => rfl
  | int n => rfl
  | float x => rfl
  | str s =>
      show Value.str (joinPairs s) = _
      rw [joinPairs_of_splitPairs h]
  | list items ih =>
      rw [total_list, List.sum_eq_zero_iff, List.forall_mem_map] at h
      rw [wellFormed_list] at hv
      rw [reread_list]
      congr 1
      conv_rhs => rw [← List.map_id items]
      apply List.map_congr_left
      intro v hmem
      exact ih v hmem (hv v hmem) (h v hmem)
  | object fields ih =>
      rw [total_object, List.sum_eq_zero_iff, List.forall_mem_map] at h
      rw [wellFormed_object] at hv
      have hsame : fields.map (fun e => (joinPairs e.1, e.2.reread)) = fields := by
        conv_rhs => rw [← List.map_id fields]
        apply List.map_congr_left
        intro e he
        have hzero := h e he
        rw [joinPairs_of_splitPairs (by omega), ih e he (hv.2 e he).2 (by omega)]
        rfl
      rw [reread_object, hsame]
      show Value.object (fields.foldl _ []) = _
      rw [foldl_set_of_nodup fields [] hv.1]
      rfl

/-- The code points in the texts of a value. -/
def weight (v : Value F) : Nat :=
  v.total List.length

theorem weight_set (d : Py.Dict Text (Value F)) (k : Text) (v : Value F) :
    ((Py.Dict.set d k v).map fun e => e.1.length + weight e.2).sum ≤
      (d.map fun e => e.1.length + weight e.2).sum + (k.length + weight v) := by
  induction d with
  | nil => simp [Py.Dict.set]
  | cons e rest ih =>
      rw [Py.Dict.set]
      by_cases he : e.1 = k
      · rw [if_pos he]
        simp only [List.map_cons, List.sum_cons]
        omega
      · rw [if_neg he]
        simp only [List.map_cons, List.sum_cons]
        omega

theorem weight_foldl_set : ∀ (entries : List (Text × Value F)) (d : Py.Dict Text (Value F)),
    ((entries.foldl (fun d e => Py.Dict.set d e.1 e.2) d).map
        fun e => e.1.length + weight e.2).sum ≤
      (d.map fun e => e.1.length + weight e.2).sum +
        (entries.map fun e => e.1.length + weight e.2).sum := by
  intro entries
  induction entries with
  | nil =>
      intro d
      simp
  | cons e rest ih =>
      intro d
      have hset := weight_set d e.1 e.2
      have hrest := ih (Py.Dict.set d e.1 e.2)
      rw [List.foldl_cons, List.map_cons, List.sum_cons]
      omega

theorem sum_map_add_le {α : Type} {f g h : α → Nat} : ∀ {l : List α},
    (∀ a ∈ l, f a + g a ≤ h a) → (l.map f).sum + (l.map g).sum ≤ (l.map h).sum := by
  intro l
  induction l with
  | nil =>
      intro _
      exact Nat.le_refl 0
  | cons a rest ih =>
      intro hle
      have hhead := hle a List.mem_cons_self
      have htail := ih fun b hb => hle b (List.mem_cons_of_mem _ hb)
      simp only [List.map_cons, List.sum_cons]
      omega

/-- Every split pair is a code point less in the value that comes back. -/
theorem weight_reread (v : Value F) : weight v.reread + v.total splitPairs ≤ weight v := by
  induction v using Value.induct with
  | null | bool _ | int _ | float _ => exact Nat.le_refl 0
  | str s => exact le_of_eq (length_joinPairs s)
  | list items ih =>
      rw [reread_list, weight, weight, total_list, total_list, total_list, List.map_map]
      exact sum_map_add_le ih
  | object fields ih =>
      rw [reread_object, total_object]
      show (Value.object (List.foldl _ [] _)).total List.length + _ ≤ weight (Value.object fields)
      rw [weight, total_object, total_object]
      have hset := weight_foldl_set (fields.map fun e => (joinPairs e.1, e.2.reread)) []
      have hsum : (fields.map fun e => (joinPairs e.1).length + weight e.2.reread).sum +
          (fields.map fun e => splitPairs e.1 + e.2.total splitPairs).sum ≤
          (fields.map fun e => e.1.length + weight e.2).sum := by
        apply sum_map_add_le
        intro e he
        have hkey := length_joinPairs e.1
        have hvalue := ih e he
        omega
      rw [List.map_map] at hset
      simp only [List.map_nil, List.sum_nil, Nat.zero_add] at hset
      exact le_trans (Nat.add_le_add_right hset _) hsum

/-! ### Reading what was written -/

section

variable {fl : Floats F}

@[simp] theorem render_list (items : List (Value F)) : render fl (.list items) =
    '['.toNat :: (commas (items.map (render fl)) ++ [']'.toNat]) := by
  unfold render
  rw [fold_list]

@[simp] theorem render_object (fields : List (Text × Value F)) : render fl (.object fields) =
    '\x7b'.toNat :: (commas (fields.map fun e => quoted e.1 ++ ':'.toNat :: render fl e.2) ++
      ['\x7d'.toNat]) := by
  unfold render
  rw [fold_object]
  dsimp only
  rw [List.map_map]
  rfl

theorem enter_none {α : Type} {f : α → Nat → Option Fault} {l : List α} {levels : Nat}
    (h : enter (l.map f) levels = none) : ∃ m, ∀ a ∈ l, f a m = none := by
  cases levels with
  | zero => cases h
  | succ m =>
      refine ⟨m, ?_⟩
      intro a ha
      exact List.findSome?_eq_none_iff.mp h (f a) (List.mem_map_of_mem ha)

theorem writeFault_list {items : List (Value F)} {levels : Nat}
    (h : writeFault (.list items) levels = none) : ∃ m, ∀ v ∈ items, writeFault v m = none := by
  unfold writeFault at h
  rw [fold_list] at h
  exact enter_none h

theorem writeFault_object {fields : List (Text × Value F)} {levels : Nat}
    (h : writeFault (.object fields) levels = none) :
    ∃ m, ∀ e ∈ fields, writeFault e.2 m = none := by
  unfold writeFault at h
  rw [fold_object] at h
  dsimp only at h
  rw [List.map_map] at h
  exact enter_none (f := fun e : Text × Value F => writeFault e.2) h

/-- How the text of a value begins: no space, no closing bracket. -/
def Begins (text : Text) : Prop :=
  ∃ c tail, text = c :: tail ∧ isSpace c = false ∧ c ≠ ']'.toNat ∧ c ≠ '\x7d'.toNat

theorem Begins.append {text : Text} (h : Begins text) (rest : Text) : Begins (text ++ rest) := by
  obtain ⟨c, tail, rfl, hc⟩ := h
  exact ⟨c, tail ++ rest, rfl, hc⟩

theorem Begins.skip {text : Text} (h : Begins text) : skip text = text := by
  obtain ⟨c, tail, rfl, hspace, -⟩ := h
  exact List.dropWhile_cons_of_neg (by rw [hspace]; exact Bool.false_ne_true)

theorem Begins.closing {text : Text} (h : Begins text) (b : Bracket) :
    after b.closing text = none := by
  obtain ⟨c, tail, rfl, -, hsquare, hcurly⟩ := h
  cases b with
  | square => exact if_neg hsquare
  | curly => exact if_neg hcurly

theorem begins_quoted (s rest : Text) : Begins (quoted s ++ rest) :=
  ⟨'"'.toNat, escapes s ++ ['"'.toNat] ++ rest, rfl, rfl, by simp, by simp⟩

theorem begins_of_matchNumber {text : Text} {r : Numeral × Text} (h : matchNumber text = some r) :
    Begins text := by
  have hspace : ∀ c, isDigit c = true → isSpace c = false := by
    intro c hc
    simp [isDigit] at hc
    simp [isSpace]
    omega
  rcases matchNumber_head h with ⟨c, tail, rfl, hc⟩ | ⟨c, tail, rfl, -⟩
  · exact ⟨c, tail, rfl, hspace c hc, digit_ne hc _ rfl, digit_ne hc _ rfl⟩
  · exact ⟨'-'.toNat, c :: tail, rfl, rfl, by simp, by simp⟩

theorem floatText_eq {x : F} (h : fl.special x = none) : floatText fl x = fl.repr x := by
  rw [floatText, h]

theorem begins_render (hfl : fl.Lawful) {v : Value F} (hv : v.WellFormed fl) :
    Begins (render fl v) := by
  cases v with
  | null => exact ⟨_, _, rfl, rfl, by simp, by simp⟩
  | bool b => cases b <;> exact ⟨_, _, rfl, rfl, by simp, by simp⟩
  | int n => exact begins_of_matchNumber (matchNumber_intText n)
  | float x =>
      obtain ⟨n, hn, -⟩ := hfl.number x hv
      show Begins (floatText fl x)
      rw [floatText_eq hv]
      exact begins_of_matchNumber hn
  | str s =>
      have h := begins_quoted s []
      rw [List.append_nil] at h
      exact h
  | list items =>
      rw [render_list]
      exact ⟨_, _, rfl, rfl, by simp, by simp⟩
  | object fields =>
      rw [render_object]
      exact ⟨_, _, rfl, rfl, by simp, by simp⟩

namespace Bracket

/-- What is written before a value. -/
def written : Bracket → Text → Text
  | square, _ => []
  | curly, key => quoted key ++ [':'.toNat]

/-- What is read before a value. -/
def readKey : Bracket → Text → Text
  | square, _ => []
  | curly, key => joinPairs key

theorem label_written (b : Bracket) {key text : Text} (hkey : ∀ c ∈ key, c < 0x110000)
    (htext : Begins text) : b.label (b.written key ++ text) = some (b.readKey key, text) := by
  cases b with
  | square => rfl
  | curly =>
      have hcolon : skip (':'.toNat :: text) = ':'.toNat :: text :=
        List.dropWhile_cons_of_neg (by simp [isSpace])
      have hlabel : curly.written key ++ text =
          '"'.toNat :: (escapes key ++ '"'.toNat :: ':'.toNat :: text) := by
        simp [written, quoted]
      rw [hlabel, label, after, if_pos rfl, Option.bind_some, scanString_escapes hkey,
        Option.bind_some, hcolon, after, if_pos rfl, Option.map_some, htext.skip]
      rfl

theorem begins_written (b : Bracket) (key : Text) {text : Text} (h : Begins text) :
    Begins (b.written key ++ text) := by
  cases b with
  | square => exact h
  | curly =>
      rw [written, List.append_assoc]
      exact begins_quoted key _

end Bracket

/-- A value that the reader gets back, when it has levels enough. -/
def ReadsBack (fl : Floats F) (v : Value F) : Prop :=
  ∀ rest fuel levels, Ends rest → 2 * (render fl v).length < fuel →
    scanOnce fl fuel levels (render fl v ++ rest) =
      if v.nesting ≤ levels then .ok (v.reread, rest) else .error .recursionError

/-- The text of an element. -/
def elementText (fl : Floats F) (b : Bracket) (e : Text × Value F) : Text :=
  b.written e.1 ++ render fl e.2

theorem ends_closing (b : Bracket) (rest : Text) : Ends (b.closing :: rest) := by
  intro c hc
  cases hc
  cases b with
  | square => exact Or.inr (Or.inl rfl)
  | curly => exact Or.inr (Or.inr rfl)

theorem skip_cons {c : Nat} (h : isSpace c = false) (rest : Text) : skip (c :: rest) = c :: rest :=
  List.dropWhile_cons_of_neg (by rw [h]; exact Bool.false_ne_true)

theorem commas_cons (text next : Text) (rest : List Text) :
    commas (text :: next :: rest) = text ++ ','.toNat :: commas (next :: rest) := rfl

/-- The elements of a container, read one after the other. -/
theorem scanElements_render (b : Bracket) (e : Text × Value F) (es : List (Text × Value F)) :
    (∀ e' ∈ e :: es, ReadsBack fl e'.2 ∧ Begins (render fl e'.2) ∧ ∀ c ∈ e'.1, c < 0x110000) →
    ∀ rest fuel levels,
      2 * (commas ((e :: es).map (elementText fl b))).length + 1 < fuel →
      scanElements fl fuel b levels
          (commas ((e :: es).map (elementText fl b)) ++ b.closing :: rest) =
        if ((e :: es).map fun e' => e'.2.nesting).foldr max 0 ≤ levels then
          .ok ((e :: es).map fun e' => (b.readKey e'.1, e'.2.reread), rest)
        else .error .recursionError := by
  induction es generalizing e with
  | nil =>
      intro hall rest fuel levels hfuel
      obtain ⟨hread, hbegins, hkey⟩ := hall e List.mem_cons_self
      obtain ⟨fuel, rfl⟩ := Nat.exists_eq_succ_of_ne_zero (Nat.ne_of_gt (Nat.zero_lt_of_lt hfuel))
      have hlength : (commas ([e].map (elementText fl b))).length =
          (b.written e.1).length + (render fl e.2).length := List.length_append
      have hspace : isSpace b.closing = false := by cases b <;> rfl
      show scanElements fl (fuel + 1) b levels
        (b.written e.1 ++ render fl e.2 ++ b.closing :: rest) = _
      rw [List.append_assoc, scanElements, b.label_written hkey (hbegins.append _)]
      dsimp only
      rw [hread _ _ levels (ends_closing b rest) (by omega)]
      by_cases hle : e.2.nesting ≤ levels
      · rw [if_pos hle, if_pos (by simpa using hle)]
        dsimp only [Bind.bind, Except.bind]
        rw [skip_cons hspace, after, if_pos rfl]
        rfl
      · rw [if_neg hle, if_neg (by simpa using hle)]
        rfl
  | cons e' es ih =>
      intro hall rest fuel levels hfuel
      obtain ⟨hread, hbegins, hkey⟩ := hall e List.mem_cons_self
      obtain ⟨-, hbegins', -⟩ := hall e' (by simp)
      obtain ⟨fuel, rfl⟩ := Nat.exists_eq_succ_of_ne_zero (Nat.ne_of_gt (Nat.zero_lt_of_lt hfuel))
      have hcommas : commas ((e :: e' :: es).map (elementText fl b)) =
          b.written e.1 ++ (render fl e.2 ++
            ','.toNat :: commas ((e' :: es).map (elementText fl b))) := by
        rw [List.map_cons, List.map_cons, commas_cons, elementText, List.append_assoc]
      have hlength := congrArg List.length hcommas
      simp only [List.length_append, List.length_cons] at hlength
      have hmore := ih e' (fun x hx => hall x (List.mem_cons_of_mem _ hx)) rest fuel levels
        (by omega)
      have hnext : Begins (commas ((e' :: es).map (elementText fl b)) ++ b.closing :: rest) := by
        apply Begins.append
        cases es with
        | nil => exact b.begins_written e'.1 hbegins'
        | cons e'' es =>
            rw [List.map_cons, List.map_cons, commas_cons]
            exact (b.begins_written e'.1 hbegins').append _
      have hends : Ends (','.toNat :: (commas ((e' :: es).map (elementText fl b)) ++
          b.closing :: rest)) := by
        intro c hc
        cases hc
        exact Or.inl rfl
      have hcomma : after b.closing (','.toNat :: (commas ((e' :: es).map (elementText fl b)) ++
          b.closing :: rest)) = none := by
        cases b with
        | square => rfl
        | curly => rfl
      have hmax : ((e :: e' :: es).map fun x => x.2.nesting).foldr max 0 =
          max e.2.nesting (((e' :: es).map fun x => x.2.nesting).foldr max 0) := rfl
      rw [hcommas, List.append_assoc, List.append_assoc, List.cons_append, scanElements,
        b.label_written hkey (hbegins.append _)]
      dsimp only
      rw [hread _ _ levels hends (by omega), hmax]
      by_cases hle : e.2.nesting ≤ levels
      · rw [if_pos hle]
        dsimp only [Bind.bind, Except.bind]
        rw [skip_cons rfl, hcomma]
        dsimp only
        rw [after, if_pos rfl]
        dsimp only
        rw [hnext.skip, hmore]
        by_cases hrest : ((e' :: es).map fun x => x.2.nesting).foldr max 0 ≤ levels
        · rw [if_pos hrest, if_pos (max_le hle hrest)]
          rfl
        · rw [if_neg hrest, if_neg fun h => hrest (le_trans (le_max_right _ _) h)]
      · rw [if_neg hle, if_neg fun h => hle (le_trans (le_max_left _ _) h)]
        rfl

/-- A container, from its elements. -/
theorem scanOnce_container (b : Bracket) (es : List (Text × Value F))
    (hall : ∀ e ∈ es, ReadsBack fl e.2 ∧ Begins (render fl e.2) ∧ ∀ c ∈ e.1, c < 0x110000)
    (rest : Text) (fuel levels : Nat)
    (hfuel : 2 * ((commas (es.map (elementText fl b))).length + 2) < fuel) :
    scanOnce fl fuel levels
        (b.opening :: (commas (es.map (elementText fl b)) ++ b.closing :: rest)) =
      if (es.map fun e => e.2.nesting).foldr max 0 + 1 ≤ levels then
        .ok (b.build (es.map fun e => (b.readKey e.1, e.2.reread)), rest)
      else .error .recursionError := by
  obtain ⟨fuel, rfl⟩ := Nat.exists_eq_succ_of_ne_zero (Nat.ne_of_gt (Nat.zero_lt_of_lt hfuel))
  have hbracket : ∀ text, bracketOf (b.opening :: text) = some (b, text) := by
    intro text
    cases b with
    | square => rfl
    | curly => rfl
  have hspace : isSpace b.closing = false := by cases b <;> rfl
  rw [scanOnce, hbracket]
  dsimp only
  cases levels with
  | zero => rw [if_neg (by omega)]
  | succ levels =>
      dsimp only
      cases es with
      | nil =>
          have hclosing : after b.closing
              (skip (commas (([] : List (Text × Value F)).map (elementText fl b)) ++
                b.closing :: rest)) = some rest := by
            show after b.closing (skip (b.closing :: rest)) = _
            rw [skip_cons hspace, after, if_pos rfl]
          have hdepth : (([] : List (Text × Value F)).map fun e => e.2.nesting).foldr max 0 + 1 ≤
              levels + 1 := Nat.le_add_left 1 levels
          rw [hclosing, if_pos hdepth]
          rfl
      | cons e es =>
          obtain ⟨-, hbegins, -⟩ := hall e List.mem_cons_self
          have hfirst : Begins (commas ((e :: es).map (elementText fl b)) ++
              b.closing :: rest) := by
            apply Begins.append
            cases es with
            | nil => exact b.begins_written e.1 hbegins
            | cons e' es =>
                rw [List.map_cons, List.map_cons, commas_cons]
                exact (b.begins_written e.1 hbegins).append _
          have helements := scanElements_render b e es hall rest fuel levels (by omega)
          rw [hfirst.skip, hfirst.closing b, helements]
          by_cases hle : ((e :: es).map fun e' => e'.2.nesting).foldr max 0 ≤ levels
          · rw [if_pos hle, if_pos (Nat.succ_le_succ hle)]
            rfl
          · rw [if_neg hle, if_neg fun h => hle (Nat.le_of_succ_le_succ h)]
            rfl

theorem readsBack_of_scalar {v w : Value F} (hdepth : v.nesting = 0) (hw : v.reread = w)
    (h : ∀ rest, Ends rest → bracketOf (render fl v ++ rest) = none ∧
      scalar fl (render fl v ++ rest) = some (w, rest)) : ReadsBack fl v := by
  intro rest fuel levels hrest hfuel
  obtain ⟨fuel, rfl⟩ := Nat.exists_eq_succ_of_ne_zero (Nat.ne_of_gt (Nat.zero_lt_of_lt hfuel))
  obtain ⟨hbracket, hscalar⟩ := h rest hrest
  rw [scanOnce, hbracket]
  dsimp only
  rw [hscalar, hdepth, if_pos (Nat.zero_le _), hw]

theorem readsBack (hfl : fl.Lawful) {v : Value F} (hv : v.WellFormed fl)
    (hwritten : ∃ m, writeFault v m = none) : ReadsBack fl v := by
  induction v using Value.induct with
  | null => exact readsBack_of_scalar rfl rfl fun _ _ => ⟨rfl, rfl⟩
  | bool b =>
      refine readsBack_of_scalar rfl rfl ?_
      intro rest _
      cases b with
      | false | true => exact ⟨rfl, rfl⟩
  | int n =>
      obtain ⟨m, hm⟩ := hwritten
      have hdigits : (natText n.natAbs).length ≤ maxStrDigits := by
        by_contra hlong
        have hfault : writeFault (.int n : Value F) m = some .valueError := if_neg hlong
        rw [hfault] at hm
        cases hm
      exact readsBack_of_scalar rfl rfl fun _ hrest => number_int hdigits hrest
  | float x => exact readsBack_of_scalar rfl rfl fun _ hrest => number_float hfl hv hrest
  | str s =>
      refine readsBack_of_scalar rfl rfl ?_
      intro rest _
      have htext : render fl (.str s) ++ rest =
          '"'.toNat :: (escapes s ++ '"'.toNat :: rest) := by
        show quoted s ++ rest = _
        rw [quoted, List.cons_append, List.append_assoc]
        rfl
      rw [htext]
      refine ⟨rfl, ?_⟩
      show (scanString (escapes s ++ '"'.toNat :: rest)).map _ = _
      rw [scanString_escapes hv]
      rfl
  | list items ih =>
      rw [wellFormed_list] at hv
      obtain ⟨m, hm⟩ := hwritten
      obtain ⟨m, hitems⟩ := writeFault_list hm
      intro rest fuel levels _ hfuel
      have htexts : items.map (render fl) =
          (items.map fun v => (([] : Text), v)).map (elementText fl .square) := by
        rw [List.map_map]
        rfl
      have hall : ∀ e ∈ items.map fun v => (([] : Text), v),
          ReadsBack fl e.2 ∧ Begins (render fl e.2) ∧ ∀ c ∈ e.1, c < 0x110000 := by
        rw [List.forall_mem_map]
        intro v hmem
        exact ⟨ih v hmem (hv v hmem) ⟨m, hitems v hmem⟩, begins_render hfl (hv v hmem), by simp⟩
      rw [render_list, htexts] at hfuel ⊢
      simp only [List.length_cons, List.length_append, List.length_nil] at hfuel
      have hcontainer := scanOnce_container .square _ hall rest fuel levels (by omega)
      rw [List.cons_append, List.append_assoc]
      refine Eq.trans hcontainer ?_
      rw [nesting_list, reread_list, List.map_map, List.map_map]
      show (if _ then Except.ok (Value.list (List.map _ (List.map _ items)), rest) else _) = _
      rw [List.map_map]
      rfl
  | object fields ih =>
      rw [wellFormed_object] at hv
      obtain ⟨m, hm⟩ := hwritten
      obtain ⟨m, hfields⟩ := writeFault_object hm
      intro rest fuel levels _ hfuel
      have htexts : (fields.map fun e => quoted e.1 ++ ':'.toNat :: render fl e.2) =
          fields.map (elementText fl .curly) := by
        apply List.map_congr_left
        intro e _
        rw [elementText, Bracket.written, List.append_assoc]
        rfl
      have hall : ∀ e ∈ fields,
          ReadsBack fl e.2 ∧ Begins (render fl e.2) ∧ ∀ c ∈ e.1, c < 0x110000 := by
        intro e he
        exact ⟨ih e he (hv.2 e he).2 ⟨m, hfields e he⟩, begins_render hfl (hv.2 e he).2,
          (hv.2 e he).1⟩
      rw [render_object, htexts] at hfuel ⊢
      simp only [List.length_cons, List.length_append, List.length_nil] at hfuel
      have hcontainer := scanOnce_container .curly fields hall rest fuel levels (by omega)
      rw [List.cons_append, List.append_assoc]
      refine Eq.trans hcontainer ?_
      rw [nesting_object, reread_object]
      rfl

end

/-! ### The bytes of a written value -/

def Printable (text : Text) : Prop :=
  ∀ c ∈ text, 0x20 ≤ c ∧ c ≤ 0x7E

theorem Printable.append {a b : Text} (ha : Printable a) (hb : Printable b) :
    Printable (a ++ b) := by
  intro c hc
  exact (List.mem_append.mp hc).elim (ha c) (hb c)

theorem Printable.cons {c : Nat} {text : Text} (hc : 0x20 ≤ c ∧ c ≤ 0x7E) (h : Printable text) :
    Printable (c :: text) := by
  intro d hd
  rcases List.mem_cons.mp hd with rfl | hd
  · exact hc
  · exact h d hd

theorem printable_nil : Printable [] := by
  intro c hc
  cases hc

theorem printable_of_digits {text : Text} (h : ∀ c ∈ text, isDigit c = true) : Printable text := by
  intro c hc
  have hdigit := h c hc
  simp [isDigit] at hdigit
  omega

theorem printable_takeWhile (text : Text) : Printable (text.takeWhile isDigit) :=
  printable_of_digits fun _ hc => List.mem_takeWhile_imp hc

theorem isDigit_bounds {c : Nat} (h : isDigit c = true) : 0x20 ≤ c ∧ c ≤ 0x7E :=
  @printable_of_digits [c] (by simpa using h) c List.mem_cons_self

theorem printable_matchWhole {text : Text} {r : Text × Text} (h : matchWhole text = some r) :
    Printable r.1 := by
  cases text with
  | nil => cases h
  | cons c tail =>
      rw [matchWhole] at h
      by_cases hzero : c = '0'.toNat
      · rw [if_pos hzero] at h
        cases h
        exact Printable.cons (by rw [hzero]; simp) printable_nil
      · rw [if_neg hzero] at h
        by_cases hdigit : isDigit c = true
        · rw [if_pos hdigit] at h
          cases h
          exact Printable.cons (isDigit_bounds hdigit) (printable_takeWhile tail)
        · rw [if_neg hdigit] at h
          cases h

theorem printable_matchFraction (text : Text) : Printable (matchFraction text).1 := by
  match text with
  | [] => exact printable_nil
  | [_] => exact printable_nil
  | c :: d :: tail =>
      rw [matchFraction]
      by_cases hpoint : c = '.'.toNat ∧ isDigit d = true
      · rw [if_pos hpoint]
        exact Printable.cons (by rw [hpoint.1]; simp)
          (Printable.cons (isDigit_bounds hpoint.2) (printable_takeWhile tail))
      · rw [if_neg hpoint]
        exact printable_nil

theorem printable_matchExponent (text : Text) : Printable (matchExponent text).1 := by
  have hexponent : ∀ {c}, isExponent c = true → 0x20 ≤ c ∧ c ≤ 0x7E := by
    intro c hc
    simp [isExponent] at hc
    omega
  have hsign : ∀ {c}, isSign c = true → 0x20 ≤ c ∧ c ≤ 0x7E := by
    intro c hc
    simp [isSign] at hc
    omega
  match text with
  | [] => exact printable_nil
  | [_] => exact printable_nil
  | e :: c :: tail =>
      rw [matchExponent]
      by_cases hfirst : (isExponent e && isDigit c) = true
      · rw [if_pos hfirst]
        rw [Bool.and_eq_true] at hfirst
        exact Printable.cons (hexponent hfirst.1)
          (Printable.cons (isDigit_bounds hfirst.2) (printable_takeWhile tail))
      rw [if_neg hfirst]
      by_cases hsecond : (isExponent e && isSign c && tail.head?.any isDigit) = true
      · rw [if_pos hsecond]
        rw [Bool.and_eq_true, Bool.and_eq_true] at hsecond
        exact Printable.cons (hexponent hsecond.1.1)
          (Printable.cons (hsign hsecond.1.2) (printable_takeWhile tail))
      · rw [if_neg hsecond]
        exact printable_nil

theorem printable_matchNumber {text : Text} {r : Numeral × Text} (h : matchNumber text = some r) :
    Printable r.1.text := by
  unfold matchNumber at h
  rw [Option.map_eq_some_iff] at h
  obtain ⟨whole, hwhole, rfl⟩ := h
  have hminus : Printable (if isNegative text then ['-'.toNat] else []) := by
    cases isNegative text with
    | false => exact printable_nil
    | true => exact Printable.cons (by simp) printable_nil
  exact ((hminus.append (printable_matchWhole hwhole)).append (printable_matchFraction _)).append
    (printable_matchExponent _)

theorem printable_unitEscape (u : Nat) : Printable (unitEscape u) := by
  have hhex : ∀ n, n < 16 → 0x20 ≤ hexDigit n ∧ hexDigit n ≤ 0x7E := by
    intro n hn
    unfold hexDigit
    by_cases hten : n < 10
    · rw [if_pos hten]
      simp
      omega
    · rw [if_neg hten]
      simp
      omega
  have h₁ := hhex (u / 4096 % 16) (Nat.mod_lt _ (by omega))
  have h₂ := hhex (u / 256 % 16) (Nat.mod_lt _ (by omega))
  have h₃ := hhex (u / 16 % 16) (Nat.mod_lt _ (by omega))
  have h₄ := hhex (u % 16) (Nat.mod_lt _ (by omega))
  exact Printable.cons (by simp) (Printable.cons (by simp)
    (Printable.cons h₁ (Printable.cons h₂ (Printable.cons h₃ (Printable.cons h₄ printable_nil)))))

theorem printable_escapeChar (c : Nat) : Printable (escapeChar c) := by
  have hletter : ∀ e : Char, 0x20 ≤ e.toNat ∧ e.toNat ≤ 0x7E → Printable (ascii ['\\', e]) := by
    intro e he
    exact Printable.cons (by simp) (Printable.cons he printable_nil)
  unfold escapeChar
  by_cases hquote : c = '"'.toNat
  · rw [if_pos hquote]
    exact hletter _ (by simp)
  rw [if_neg hquote]
  by_cases hslash : c = '\\'.toNat
  · rw [if_pos hslash]
    exact hletter _ (by simp)
  rw [if_neg hslash]
  by_cases hn : c = '\n'.toNat
  · rw [if_pos hn]
    exact hletter _ (by simp)
  rw [if_neg hn]
  by_cases hr : c = '\r'.toNat
  · rw [if_pos hr]
    exact hletter _ (by simp)
  rw [if_neg hr]
  by_cases ht : c = '\t'.toNat
  · rw [if_pos ht]
    exact hletter _ (by simp)
  rw [if_neg ht]
  by_cases hf : c = 0x0C
  · rw [if_pos hf]
    exact hletter _ (by simp)
  rw [if_neg hf]
  by_cases hb : c = 0x08
  · rw [if_pos hb]
    exact hletter _ (by simp)
  rw [if_neg hb]
  by_cases hprintable : 0x20 ≤ c ∧ c ≤ 0x7E
  · rw [if_pos hprintable]
    exact Printable.cons hprintable printable_nil
  rw [if_neg hprintable]
  by_cases hplane : c < 0x10000
  · rw [if_pos hplane]
    exact printable_unitEscape c
  · rw [if_neg hplane]
    exact (printable_unitEscape _).append (printable_unitEscape _)

theorem printable_quoted (s : Text) : Printable (quoted s) := by
  refine Printable.cons (by simp) (Printable.append ?_ (Printable.cons (by simp) printable_nil))
  induction s with
  | nil => exact printable_nil
  | cons c s ih => exact (printable_escapeChar c).append ih

theorem printable_commas {texts : List Text} (h : ∀ text ∈ texts, Printable text) :
    Printable (commas texts) := by
  induction texts with
  | nil => exact printable_nil
  | cons text rest ih =>
      have hrest := ih fun t ht => h t (List.mem_cons_of_mem _ ht)
      cases rest with
      | nil => exact h text List.mem_cons_self
      | cons next rest =>
          rw [commas_cons]
          exact (h text List.mem_cons_self).append (Printable.cons (by simp) hrest)

section

variable {fl : Floats F}

theorem printable_render (hfl : fl.Lawful) {v : Value F} (hv : v.WellFormed fl) :
    Printable (render fl v) := by
  induction v using Value.induct with
  | null =>
      show ∀ c ∈ ascii ['n', 'u', 'l', 'l'], 0x20 ≤ c ∧ c ≤ 0x7E
      decide
  | bool b =>
      cases b with
      | false =>
          show ∀ c ∈ ascii ['f', 'a', 'l', 's', 'e'], 0x20 ≤ c ∧ c ≤ 0x7E
          decide
      | true =>
          show ∀ c ∈ ascii ['t', 'r', 'u', 'e'], 0x20 ≤ c ∧ c ≤ 0x7E
          decide
  | int n =>
      have htext := matchNumber_text (matchNumber_intText n)
      rw [List.append_nil] at htext
      show Printable (intText n)
      rw [htext]
      exact printable_matchNumber (matchNumber_intText n)
  | float x =>
      obtain ⟨n, hn, -⟩ := hfl.number x hv
      have htext := matchNumber_text hn
      rw [List.append_nil] at htext
      show Printable (floatText fl x)
      rw [floatText_eq hv, htext]
      exact printable_matchNumber hn
  | str s => exact printable_quoted s
  | list items ih =>
      rw [wellFormed_list] at hv
      rw [render_list]
      refine Printable.cons (by simp)
        (Printable.append (printable_commas ?_) (Printable.cons (by simp) printable_nil))
      rw [List.forall_mem_map]
      intro v hmem
      exact ih v hmem (hv v hmem)
  | object fields ih =>
      rw [wellFormed_object] at hv
      rw [render_object]
      refine Printable.cons (by simp)
        (Printable.append (printable_commas ?_) (Printable.cons (by simp) printable_nil))
      rw [List.forall_mem_map]
      intro e he
      exact (printable_quoted e.1).append (Printable.cons (by simp) (ih e he (hv.2 e he).2))

theorem decodeUtf8_printable {text : Text} (h : Printable text) : decodeUtf8 text = some text := by
  induction text with
  | nil => rfl
  | cons c rest ih =>
      have hc := h c List.mem_cons_self
      rw [decodeUtf8.eq_def]
      dsimp only
      rw [if_pos (by omega), ih fun d hd => h d (List.mem_cons_of_mem _ hd)]
      rfl

/-- Printable bytes are taken for UTF-8. -/
theorem decodeBytes_printable {text : Text} (h : Printable text) :
    decodeBytes text = some text := by
  have hutf8 := decodeUtf8_printable h
  have hmark : ∀ (b : Nat) (more : List Nat), ¬ (0x20 ≤ b ∧ b ≤ 0x7E) →
      (b :: more).isPrefixOf text = false := by
    intro b more hb
    cases text with
    | nil => rfl
    | cons c rest =>
        have hne : (b == c) = false := by
          rw [beq_eq_false_iff_ne]
          intro heq
          exact hb (heq ▸ h c List.mem_cons_self)
        rw [List.isPrefixOf_cons_cons, hne]
        rfl
  have hzero : ∀ c ∈ text, ¬ c = 0 := by
    intro c hc heq
    have := h c hc
    omega
  unfold decodeBytes
  rw [hmark 0 _ (by omega), hmark 0xFF _ (by omega), hmark 0xFE _ (by omega),
    hmark 0xFF _ (by omega), hmark 0xEF _ (by omega)]
  simp only [Bool.false_eq_true, if_false]
  match text with
  | [] => exact hutf8
  | [_] => exact hutf8
  | [b₀, b₁] =>
      dsimp only
      rw [if_neg (hzero b₀ (by simp)), if_neg (hzero b₁ (by simp)), hutf8]
  | [_, _, _] => exact hutf8
  | b₀ :: b₁ :: b₂ :: b₃ :: rest =>
      dsimp only
      rw [if_neg (hzero b₀ (by simp)), if_neg (hzero b₁ (by simp)), hutf8]

/-- **What a written value reads back as.** -/
theorem loads_dumps (hfl : fl.Lawful) {v : Value F} (hv : v.WellFormed fl) {writeLevels : Nat}
    {text : Text} (h : dumps fl writeLevels v = .ok text) (levels : Nat) :
    Printable text ∧ loads fl levels text =
      if v.nesting ≤ levels then .ok v.canonical.reread else .error .recursionError := by
  have hcanonical := hv.canonical
  unfold dumps at h
  cases hfault : writeFault v.canonical writeLevels with
  | some fault =>
      rw [hfault] at h
      cases h
  | none =>
      rw [hfault] at h
      cases h
      have hprintable := printable_render hfl hcanonical
      have hskip := (begins_render hfl hcanonical).skip
      have hread := readsBack hfl hcanonical ⟨_, hfault⟩ [] (fuelFor (render fl v.canonical)) levels
        (by intro c hc; cases hc) (Nat.lt_succ_self _)
      rw [List.append_nil, nesting_canonical] at hread
      refine ⟨hprintable, ?_⟩
      unfold loads
      rw [decodeBytes_printable hprintable]
      dsimp only
      rw [hskip, hread]
      by_cases hle : v.nesting ≤ levels
      · rw [if_pos hle, if_pos hle]
        rfl
      · rw [if_neg hle, if_neg hle]
        rfl

/-- The value that comes back is the one that was written, up to the order of its members, exactly
    when no text of it has a pair of surrogates as two code points. -/
theorem canonical_reread_iff {v : Value F} (hv : v.WellFormed fl) :
    v.canonical.reread.canonical = v.canonical ↔ v.total splitPairs = 0 := by
  constructor
  · intro h
    have hweight := weight_reread v.canonical
    rw [total_canonical] at hweight
    have hsame : weight v.canonical.reread = weight v.canonical := by
      unfold weight
      rw [← total_canonical List.length v.canonical.reread, h]
    omega
  · intro h
    rw [← total_canonical] at h
    rw [reread_of_unsplit hv.canonical h, canonical_canonical]

end

end JsonText
