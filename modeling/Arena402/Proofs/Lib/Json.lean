/-
A JSON text determines the value it was written from.

No written value is the beginning of another one, except that a number may go on with more
digits; what follows a value inside a text is never a digit.  So texts are told apart from
the left (`render_append`), and two dumps agree only if the values agree up to the order of
keys.  A field can then be read off a dump whatever the order of the other fields
(`lookup_of_canonical`).
-/
import Arena402.Lib.Json
import Arena402.Proofs.Lib.Decimal

namespace Py.Json

/-! ### String literals -/

/-- The value of a hexadecimal digit. -/
def hexValue (c : Char) : Nat :=
  if c.isDigit then c.toNat - 48 else c.toNat - 87

/-- The first character a literal's text stands for, and what follows it. -/
def unescape : List Char → Option (Char × List Char)
  | '\\' :: 'u' :: '0' :: '0' :: a :: b :: rest =>
    some (Char.ofNat (16 * hexValue a + hexValue b), rest)
  | '\\' :: 'n' :: rest => some ('\n', rest)
  | '\\' :: 'r' :: rest => some ('\r', rest)
  | '\\' :: 't' :: rest => some ('\t', rest)
  | '\\' :: 'f' :: rest => some ('\x0c', rest)
  | '\\' :: 'b' :: rest => some ('\x08', rest)
  | '\\' :: c :: rest => some (c, rest)
  | c :: rest => some (c, rest)
  | [] => none

theorem hexValue_control {n : Nat} (h : n < 0x20) :
    16 * hexValue (Nat.digitChar (n / 16)) + hexValue (Nat.digitChar (n % 16)) = n := by
  interval_cases n <;> rfl

theorem unescape_escapeChar (c : Char) (rest : List Char) :
    unescape (escapeChar c ++ rest) = some (c, rest) := by
  unfold escapeChar
  split_ifs with hquote hslash hn hr ht hf hb hcontrol
  · rw [hquote]
    rfl
  · rw [hslash]
    rfl
  · rw [hn]
    rfl
  · rw [hr]
    rfl
  · rw [ht]
    rfl
  · rw [hf]
    rfl
  · rw [hb]
    rfl
  · show some (Char.ofNat _, rest) = _
    rw [hexValue_control hcontrol, Char.ofNat_toNat]
  · -- an ordinary character is not a backslash
    show unescape (c :: rest) = _
    unfold unescape
    split <;> simp_all

theorem escapeChar_ne_quote (c : Char) (rest : List Char) :
    ∀ tail, escapeChar c ++ rest ≠ '"' :: tail := by
  intro tail
  unfold escapeChar
  split_ifs with hquote <;> simp_all

/-- A literal ends where its text says it ends. -/
theorem literal_append : ∀ {a b r s : List Char},
    literal a ++ r = literal b ++ s → a = b ∧ r = s := by
  intro a
  induction a with
  | nil =>
      intro b r s h
      cases b with
      | nil => exact ⟨rfl, by simpa [literal] using h⟩
      | cons d bs =>
          rw [literal, literal, List.append_assoc] at h
          exact absurd h.symm (escapeChar_ne_quote d _ _)
  | cons c as ih =>
      intro b r s h
      cases b with
      | nil =>
          rw [literal, literal, List.append_assoc] at h
          exact absurd h (escapeChar_ne_quote c _ _)
      | cons d bs =>
          rw [literal, literal, List.append_assoc, List.append_assoc] at h
          have hread := congrArg unescape h
          rw [unescape_escapeChar, unescape_escapeChar] at hread
          simp only [Option.some.injEq, Prod.mk.injEq] at hread
          obtain ⟨rfl, hrest⟩ := ih hread.2
          exact ⟨by rw [hread.1], hrest⟩

/-! ### Numbers -/

/-- A text that does not go on with a digit. -/
def NoDigit (rest : List Char) : Prop :=
  ∀ c ∈ rest.head?, c.isDigit = false

theorem toDigits_append {m n : Nat} {r s : List Char} (hr : NoDigit r) (hs : NoDigit s)
    (h : Nat.toDigits 10 m ++ r = Nat.toDigits 10 n ++ s) : m = n ∧ r = s := by
  have hm := Decimal.span_digits (Decimal.isDigit_toDigits (n := m)) hr
  have hn := Decimal.span_digits (Decimal.isDigit_toDigits (n := n)) hs
  rw [h, hn] at hm
  simp only [Prod.mk.injEq] at hm
  have hvalue := congrArg (fun digits => Nat.ofDigitChars 10 digits 0) hm.1
  simp only [Nat.ofDigitChars_ten_toDigits] at hvalue
  exact ⟨hvalue.symm, hm.2.symm⟩

/-- The first digit of a numeral is not a sign. -/
theorem toDigits_ne_minus (n : Nat) (r tail : List Char) :
    Nat.toDigits 10 n ++ r ≠ '-' :: tail := by
  intro h
  cases hdigits : Nat.toDigits 10 n with
  | nil => exact Nat.toDigits_ne_nil hdigits
  | cons c rest =>
      have hc : c.isDigit = true := Decimal.isDigit_toDigits c (by rw [hdigits]; simp)
      rw [hdigits] at h
      simp only [List.cons_append, List.cons.injEq] at h
      rw [h.1] at hc
      cases hc

theorem intText_append {m n : Int} {r s : List Char} (hr : NoDigit r) (hs : NoDigit s)
    (h : intText m ++ r = intText n ++ s) : m = n ∧ r = s := by
  unfold intText at h
  split_ifs at h with hm hn hn
  · simp only [List.cons_append, List.cons.injEq, true_and] at h
    obtain ⟨habs, hrest⟩ := toDigits_append hr hs h
    exact ⟨by omega, hrest⟩
  · exact absurd h.symm (toDigits_ne_minus _ _ _)
  · exact absurd h (toDigits_ne_minus _ _ _)
  · obtain ⟨habs, hrest⟩ := toDigits_append hr hs h
    exact ⟨by omega, hrest⟩

/-! ### Values -/

/-- What the first character of a text says about the value. -/
inductive Shape
  | null
  | bool (b : Bool)
  | int
  | str
  | list
  | object
  | none
deriving DecidableEq

/-- The shape a first character announces. -/
def announced (c : Char) : Shape :=
  if c = 'n' then .null
  else if c = 't' then .bool true
  else if c = 'f' then .bool false
  else if c = '"' then .str
  else if c = '[' then .list
  else if c = '\x7b' then .object
  else if c = '-' || c.isDigit then .int
  else .none

def shape : Json → Shape
  | .null => .null
  | .bool b => .bool b
  | .int _ => .int
  | .str _ => .str
  | .list _ => .list
  | .object _ => .object

theorem announced_digit {c : Char} (h : c.isDigit = true) : announced c = .int := by
  have hne : ∀ d : Char, d.isDigit = false → c ≠ d := by
    rintro d hd rfl
    rw [h] at hd
    cases hd
  unfold announced
  rw [if_neg (hne _ (by decide)), if_neg (hne _ (by decide)), if_neg (hne _ (by decide)),
    if_neg (hne _ (by decide)), if_neg (hne _ (by decide)), if_neg (hne _ (by decide)),
    if_pos (by simp [h])]

/-- A written value starts with the character of its shape. -/
theorem render_head (v : Json) :
    ∃ c tail, render v = c :: tail ∧ announced c = v.shape := by
  cases v with
  | null => exact ⟨_, _, rfl, by decide⟩
  | bool b =>
      cases b with
      | true | false => exact ⟨_, _, rfl, by decide⟩
  | int n =>
      have hdigits : ∃ c tail, Nat.toDigits 10 n.natAbs = c :: tail ∧ c.isDigit = true := by
        cases h : Nat.toDigits 10 n.natAbs with
        | nil => exact absurd h Nat.toDigits_ne_nil
        | cons c tail => exact ⟨c, tail, rfl, Decimal.isDigit_toDigits c (by rw [h]; simp)⟩
      obtain ⟨c, tail, hcons, hc⟩ := hdigits
      rw [render, intText, hcons]
      split_ifs
      · exact ⟨_, _, rfl, rfl⟩
      · exact ⟨_, _, rfl, announced_digit hc⟩
  | str _ | list _ | object _ => exact ⟨_, _, by rw [render], rfl⟩

theorem shape_eq {a b : Json} {r s : List Char} (h : render a ++ r = render b ++ s) :
    a.shape = b.shape := by
  obtain ⟨c, tail, hc, hshape⟩ := render_head a
  obtain ⟨c', tail', hc', hshape'⟩ := render_head b
  rw [hc, hc', List.cons_append, List.cons_append, List.cons.injEq] at h
  rw [← hshape, ← hshape', h.1]

/-- A closing bracket opens no value. -/
theorem render_ne_cons {v : Json} {c : Char} (h : announced c = .none) (r tail : List Char) :
    render v ++ r ≠ c :: tail := by
  intro heq
  obtain ⟨c', tail', hc', hshape⟩ := render_head v
  rw [hc', List.cons_append, List.cons.injEq] at heq
  rw [heq.1, h] at hshape
  cases v <;> cases hshape

theorem noDigit_cons {c : Char} (h : c.isDigit = false) (rest : List Char) : NoDigit (c :: rest) := by
  intro d hd
  cases hd
  exact h

theorem noDigit_renderMoreItems (items : List Json) (r : List Char) :
    NoDigit (renderMoreItems items ++ r) := by
  cases items with
  | nil | cons _ _ => exact noDigit_cons (by decide) _

theorem noDigit_renderMoreFields (fields : List (String × Json)) (r : List Char) :
    NoDigit (renderMoreFields fields ++ r) := by
  cases fields with
  | nil | cons _ _ => exact noDigit_cons (by decide) _

/-- The rest of a list is what it is after a comma, too. -/
theorem renderMoreItems_of_renderItems {xs ys : List Json} {r s : List Char}
    (h : renderItems xs ++ r = renderItems ys ++ s) :
    renderMoreItems xs ++ r = renderMoreItems ys ++ s := by
  match xs, ys with
  | [], [] => exact h
  | [], y :: ys =>
      rw [renderItems, renderItems, List.append_assoc] at h
      exact absurd h.symm (render_ne_cons (by decide) _ _)
  | x :: xs, [] =>
      rw [renderItems, renderItems, List.append_assoc] at h
      exact absurd h (render_ne_cons (by decide) _ _)
  | x :: xs, y :: ys => exact congrArg (',' :: ·) h

theorem renderMoreFields_of_renderFields {xs ys : List (String × Json)} {r s : List Char}
    (h : renderFields xs ++ r = renderFields ys ++ s) :
    renderMoreFields xs ++ r = renderMoreFields ys ++ s := by
  match xs, ys with
  | [], [] => exact h
  | [], (k, y) :: ys => simp [renderFields] at h
  | (k, x) :: xs, [] => simp [renderFields] at h
  | (k, x) :: xs, (k', y) :: ys => exact congrArg (',' :: ·) h

mutual

/-- **A text is told apart from the left.** -/
theorem render_append : ∀ (a b : Json) (r s : List Char), NoDigit r → NoDigit s →
    render a ++ r = render b ++ s → a = b ∧ r = s
  | .null, b, r, s, _, _, h => by
      have hshape := shape_eq h
      cases b <;> cases hshape
      exact ⟨rfl, List.append_cancel_left h⟩
  | .bool x, b, r, s, _, _, h => by
      have hshape := shape_eq h
      cases b <;> cases hshape
      exact ⟨rfl, List.append_cancel_left h⟩
  | .int m, b, r, s, hr, hs, h => by
      have hshape := shape_eq h
      cases b <;> cases hshape
      rw [render, render] at h
      obtain ⟨rfl, hrest⟩ := intText_append hr hs h
      exact ⟨rfl, hrest⟩
  | .str x, b, r, s, _, _, h => by
      have hshape := shape_eq h
      cases b <;> cases hshape
      rw [render, render, List.cons_append, List.cons_append, List.cons.injEq] at h
      obtain ⟨hchars, hrest⟩ := literal_append h.2
      exact ⟨by rw [String.toList_inj.mp hchars], hrest⟩
  | .list xs, b, r, s, _, _, h => by
      have hshape := shape_eq h
      cases b <;> cases hshape
      rw [render, render, List.cons_append, List.cons_append, List.cons.injEq] at h
      obtain ⟨rfl, hrest⟩ := renderMoreItems_append xs _ r s (renderMoreItems_of_renderItems h.2)
      exact ⟨rfl, hrest⟩
  | .object xs, b, r, s, _, _, h => by
      have hshape := shape_eq h
      cases b <;> cases hshape
      rw [render, render, List.cons_append, List.cons_append, List.cons.injEq] at h
      obtain ⟨rfl, hrest⟩ := renderMoreFields_append xs _ r s (renderMoreFields_of_renderFields h.2)
      exact ⟨rfl, hrest⟩

theorem renderMoreItems_append : ∀ (xs ys : List Json) (r s : List Char),
    renderMoreItems xs ++ r = renderMoreItems ys ++ s → xs = ys ∧ r = s
  | [], [], r, s, h => ⟨rfl, List.append_cancel_left h⟩
  | [], y :: ys, r, s, h => by
      simp [renderMoreItems] at h
  | x :: xs, [], r, s, h => by
      simp [renderMoreItems] at h
  | x :: xs, y :: ys, r, s, h => by
      rw [renderMoreItems, renderMoreItems, List.cons_append, List.cons_append, List.cons.injEq,
        List.append_assoc, List.append_assoc] at h
      obtain ⟨rfl, hmore⟩ := render_append x y _ _ (noDigit_renderMoreItems xs r)
        (noDigit_renderMoreItems ys s) h.2
      obtain ⟨rfl, hrest⟩ := renderMoreItems_append xs ys r s hmore
      exact ⟨rfl, hrest⟩

theorem renderMoreFields_append : ∀ (xs ys : List (String × Json)) (r s : List Char),
    renderMoreFields xs ++ r = renderMoreFields ys ++ s → xs = ys ∧ r = s
  | [], [], r, s, h => ⟨rfl, List.append_cancel_left h⟩
  | [], (k, y) :: ys, r, s, h => by
      simp [renderMoreFields] at h
  | (k, x) :: xs, [], r, s, h => by
      simp [renderMoreFields] at h
  | (k, x) :: xs, (k', y) :: ys, r, s, h => by
      simp only [renderMoreFields, List.cons_append, List.append_assoc, List.cons.injEq,
        true_and] at h
      obtain ⟨hkey, hvalue⟩ := literal_append h
      simp only [List.cons.injEq, true_and] at hvalue
      obtain ⟨rfl, hmore⟩ := render_append x y _ _ (noDigit_renderMoreFields xs r)
        (noDigit_renderMoreFields ys s) hvalue
      obtain ⟨rfl, hrest⟩ := renderMoreFields_append xs ys r s hmore
      exact ⟨by rw [String.toList_inj.mp hkey], hrest⟩

end

theorem render_injective {a b : Json} (h : render a = render b) : a = b := by
  have hnil : NoDigit [] := by
    intro c hc
    cases hc
  have happend : render a ++ [] = render b ++ [] := by rw [h]
  exact (render_append a b [] [] hnil hnil happend).1

/-- **Two dumps agree exactly when the values agree up to the order of keys.** -/
theorem encode_eq_iff {a b : Json} : encode a = encode b ↔ canonical a = canonical b := by
  unfold encode dumps
  rw [String.toByteArray_inj, String.ofList_inj]
  exact ⟨render_injective, congrArg render⟩

/-! ### Reading a field off a dump -/

theorem keys_canonicalFields : ∀ fields : List (String × Json),
    (canonicalFields fields).map Prod.fst = fields.map Prod.fst := by
  intro fields
  induction fields with
  | nil => rfl
  | cons f rest ih => rw [canonicalFields, List.map_cons, List.map_cons, ih]

theorem lookup_canonicalFields (key : String) : ∀ fields : List (String × Json),
    (canonicalFields fields).lookup key = (fields.lookup key).map canonical := by
  intro fields
  induction fields with
  | nil => rfl
  | cons f rest ih =>
      obtain ⟨k, v⟩ := f
      rw [canonicalFields, List.lookup_cons, List.lookup_cons]
      cases key == k with
      | true => rfl
      | false => exact ih

/-- Under distinct keys, what is looked up is what is there. -/
theorem lookup_eq_some_iff {key : String} {v : Json} : ∀ {fields : List (String × Json)},
    (fields.map Prod.fst).Nodup → (fields.lookup key = some v ↔ (key, v) ∈ fields) := by
  intro fields
  induction fields with
  | nil => simp
  | cons f rest ih =>
      intro hnodup
      obtain ⟨k, w⟩ := f
      rw [List.map_cons, List.nodup_cons] at hnodup
      rw [List.lookup_cons]
      by_cases hk : key = k
      · subst hk
        have habsent : (key, v) ∉ rest := fun hmem => hnodup.1 (List.mem_map.mpr ⟨_, hmem, rfl⟩)
        simp only [beq_self_eq_true, List.mem_cons, Prod.mk.injEq, true_and, habsent, or_false,
          Option.some.injEq]
        exact eq_comm
      · have hne : (key == k) = false := by simpa using hk
        rw [hne]
        simp only [ih hnodup.2, List.mem_cons, Prod.mk.injEq, hk, false_and, false_or]

theorem lookup_sortFields {fields : List (String × Json)} (hnodup : (fields.map Prod.fst).Nodup)
    (key : String) : (sortFields fields).lookup key = fields.lookup key := by
  have hperm : (sortFields fields).Perm fields := List.perm_insertionSort _ _
  have hnodup' : ((sortFields fields).map Prod.fst).Nodup :=
    (hperm.map Prod.fst).nodup_iff.mpr hnodup
  ext v
  rw [lookup_eq_some_iff hnodup', lookup_eq_some_iff hnodup]
  exact hperm.mem_iff

/-- **Objects of distinct keys with the same dump agree on every field.** -/
theorem lookup_of_canonical {f g : List (String × Json)} (hf : (f.map Prod.fst).Nodup)
    (hg : (g.map Prod.fst).Nodup) (h : canonical (.object f) = canonical (.object g))
    (key : String) : (f.lookup key).map canonical = (g.lookup key).map canonical := by
  rw [canonical, canonical, Json.object.injEq] at h
  have hf' : ((canonicalFields f).map Prod.fst).Nodup := by rwa [keys_canonicalFields]
  have hg' : ((canonicalFields g).map Prod.fst).Nodup := by rwa [keys_canonicalFields]
  rw [← lookup_canonicalFields, ← lookup_canonicalFields, ← lookup_sortFields hf',
    ← lookup_sortFields hg', h]

theorem lookup_eq_none {key : String} {fields : List (String × Json)}
    (h : key ∉ fields.map Prod.fst) : fields.lookup key = none := by
  rw [List.lookup_eq_none_iff]
  intro p hp
  rw [bne_iff_ne]
  rintro rfl
  exact h (List.mem_map.mpr ⟨p, hp, rfl⟩)

/-- Fields of the same distinct keys in the same order are told apart by looking up. -/
theorem fields_eq_of_lookup : ∀ {f g : List (String × Json)},
    f.map Prod.fst = g.map Prod.fst → (f.map Prod.fst).Nodup →
    (∀ key, f.lookup key = g.lookup key) → f = g := by
  intro f
  induction f with
  | nil =>
      intro g hkeys _ _
      exact (List.map_eq_nil_iff.mp hkeys.symm).symm
  | cons p rest ih =>
      intro g hkeys hnodup hlookup
      obtain ⟨k, v⟩ := p
      cases g with
      | nil => cases hkeys
      | cons q rest' =>
          obtain ⟨k', v'⟩ := q
          simp only [List.map_cons, List.cons.injEq] at hkeys
          obtain ⟨rfl, hrest⟩ := hkeys
          rw [List.map_cons, List.nodup_cons] at hnodup
          have hhead := hlookup k
          rw [List.lookup_cons, List.lookup_cons, beq_self_eq_true] at hhead
          have htail : ∀ key, rest.lookup key = rest'.lookup key := by
            intro key
            by_cases hkey : key = k
            · rw [hkey, lookup_eq_none hnodup.1, lookup_eq_none (hrest ▸ hnodup.1)]
            · have hne : (key == k) = false := by simpa using hkey
              have hboth := hlookup key
              rwa [List.lookup_cons, List.lookup_cons, hne] at hboth
          rw [ih hrest hnodup.2 htail, Option.some.inj hhead]

/-- Two objects written with the same distinct keys agree in every value. -/
theorem canonicalFields_eq {f g : List (String × Json)} (hkeys : f.map Prod.fst = g.map Prod.fst)
    (hnodup : (f.map Prod.fst).Nodup) (h : canonical (.object f) = canonical (.object g)) :
    canonicalFields f = canonicalFields g := by
  refine fields_eq_of_lookup ?_ ?_ ?_
  · rw [keys_canonicalFields, keys_canonicalFields, hkeys]
  · rwa [keys_canonicalFields]
  · intro key
    rw [lookup_canonicalFields, lookup_canonicalFields]
    exact lookup_of_canonical hnodup (hkeys ▸ hnodup) h key

/-! ### Values that do not change -/

@[simp] theorem canonical_null : canonical .null = .null := by
  rw [canonical]

@[simp] theorem canonical_bool (b : Bool) : canonical (.bool b) = .bool b := by
  rw [canonical]

@[simp] theorem canonical_int (n : Int) : canonical (.int n) = .int n := by
  rw [canonical]

@[simp] theorem canonical_str (s : String) : canonical (.str s) = .str s := by
  rw [canonical]

@[simp] theorem canonical_intStr (n : Int) : canonical (intStr n) = intStr n :=
  canonical_str _

@[simp] theorem canonical_list (items : List Json) :
    canonical (.list items) = .list (items.map canonical) := by
  have hitems : ∀ l : List Json, canonicalItems l = l.map canonical := by
    intro l
    induction l with
    | nil => rfl
    | cons v rest ih => rw [canonicalItems, List.map_cons, ih]
  rw [canonical, hitems]

@[simp] theorem intStr_inj {m n : Int} : intStr m = intStr n ↔ m = n := by
  constructor
  · intro h
    have hnil : NoDigit [] := by
      intro c hc
      cases hc
    have htext : intText m ++ [] = intText n ++ [] := by
      simpa [intStr, String.ofList_inj] using h
    exact (intText_append hnil hnil htext).1
  · exact congrArg intStr

@[simp] theorem lookup_optField (key key' : String) (v : Option Json) :
    (optField key v).lookup key' = if key' = key then v else none := by
  cases v with
  | none => simp [optField]
  | some v =>
      by_cases h : key' = key
      · simp [optField, h]
      · have hne : (key' == key) = false := by simpa using h
        simp [optField, List.lookup_cons, hne, h]

/-! ### Values in their order -/

theorem canonicalFields_eq_map (fields : List (String × Json)) :
    canonicalFields fields = fields.map fun e => (e.1, canonical e.2) := by
  induction fields with
  | nil => rfl
  | cons e rest ih => rw [canonicalFields, List.map_cons, ih]

/-- Ordering the fields and rewriting their values commute. -/
theorem canonicalFields_sortFields (fields : List (String × Json)) :
    canonicalFields (sortFields fields) = sortFields (canonicalFields fields) := by
  rw [canonicalFields_eq_map, canonicalFields_eq_map]
  exact List.map_insertionSort _ _ _ _ fun a _ b _ => Iff.rfl

theorem sortFields_sortFields (fields : List (String × Json)) :
    sortFields (sortFields fields) = sortFields fields := by
  apply List.Pairwise.insertionSort_eq
  refine @List.pairwise_insertionSort _ (fun a b : String × Json => a.1 ≤ b.1) _ ⟨?_⟩ ⟨?_⟩ fields
  · intro a b
    exact String.le_total a.1 b.1
  · intro a b c
    exact String.le_trans

mutual

/-- A value in its order stays as it is. -/
theorem canonical_canonical : ∀ v : Json, canonical (canonical v) = canonical v
  | .null | .bool _ | .int _ | .str _ => by simp
  | .list items => by
      rw [canonical, canonical, canonicalItems_canonicalItems items]
  | .object fields => by
      rw [canonical, canonical, canonicalFields_sortFields,
        canonicalFields_canonicalFields fields, sortFields_sortFields]

theorem canonicalItems_canonicalItems : ∀ items : List Json,
    canonicalItems (canonicalItems items) = canonicalItems items
  | [] => rfl
  | v :: rest => by
      rw [canonicalItems, canonicalItems, canonical_canonical v, canonicalItems_canonicalItems rest]

theorem canonicalFields_canonicalFields : ∀ fields : List (String × Json),
    canonicalFields (canonicalFields fields) = canonicalFields fields
  | [] => rfl
  | (key, v) :: rest => by
      rw [canonicalFields, canonicalFields, canonical_canonical v,
        canonicalFields_canonicalFields rest]

end

end Py.Json
