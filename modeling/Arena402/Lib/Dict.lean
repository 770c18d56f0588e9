/-
Python dictionaries: association lists in insertion order.

Writing an existing key keeps its place, a new key goes to the end.  The lemmas say what
a read sees after a write, which entries there are, and how a total over the values moves.
-/
import Mathlib.Tactic

namespace Py

/-- A dictionary as its list of items. -/
abbrev Dict (κ α : Type) := List (κ × α)

namespace Dict

variable {κ α : Type} [DecidableEq κ]

/-- `d.get(k)`. -/
def get (d : Dict κ α) (k : κ) : Option α :=
  List.lookup k d

/-- `d[k] = v`. -/
def set : Dict κ α → κ → α → Dict κ α
  | [], k, v => [(k, v)]
  | e :: rest, k, v => if e.1 = k then (k, v) :: rest else e :: set rest k v

/-- `del d[k]`. -/
def erase (d : Dict κ α) (k : κ) : Dict κ α :=
  d.filter fun e => e.1 ≠ k

/-- `UPDATE .. SET .. WHERE ..`: the rows that match get the new value. -/
def update (d : Dict κ α) (matching : κ → α → Bool) (f : α → α) : Dict κ α :=
  d.map fun e => if matching e.1 e.2 then (e.1, f e.2) else e

/-- `d.values()`. -/
def values (d : Dict κ α) : List α :=
  d.map (·.2)

@[simp] theorem get_nil (k : κ) : get ([] : Dict κ α) k = none := rfl

theorem get_cons (e : κ × α) (d : Dict κ α) (k : κ) :
    get (e :: d) k = if e.1 = k then some e.2 else get d k := by
  obtain ⟨k', v⟩ := e
  by_cases h : k' = k
  · subst h
    rw [if_pos rfl]
    exact List.lookup_cons_self
  · have hbeq : (k == k') = false := by simpa using fun hc : k = k' => h hc.symm
    simp [get, List.lookup_cons, hbeq, h]

@[simp] theorem get_set_self (d : Dict κ α) (k : κ) (v : α) : (d.set k v).get k = some v := by
  induction d with
  | nil => simp [set, get_cons]
  | cons e rest ih =>
      by_cases h : e.1 = k
      · simp [set, h, get_cons]
      · simp [set, h, get_cons, ih]

theorem get_set_ne (d : Dict κ α) {k k' : κ} (v : α) (h : k' ≠ k) :
    (d.set k v).get k' = d.get k' := by
  induction d with
  | nil => simp [set, get_cons, Ne.symm h]
  | cons e rest ih =>
      by_cases he : e.1 = k
      · have hk : e.1 ≠ k' := fun hc => h (hc.symm.trans he)
        simp [set, he, get_cons, Ne.symm h]
      · simp [set, he, get_cons, ih]

theorem get_set (d : Dict κ α) (k k' : κ) (v : α) :
    (d.set k v).get k' = if k' = k then some v else d.get k' := by
  by_cases h : k' = k
  · subst h
    simp
  · rw [get_set_ne d v h, if_neg h]

/-- A write at a new key. -/
theorem get_set_fresh {d : Dict κ α} {k : κ} (v : α) (hfresh : d.get k = none) {k' : κ} {v' : α}
    (h : d.get k' = some v') : (d.set k v).get k' = some v' := by
  have hne : k' ≠ k := by
    rintro rfl
    rw [hfresh] at h
    cases h
  rw [get_set_ne d v hne]
  exact h

/-- A row that is read after a write is the one that was written or an old one. -/
theorem of_get_set {d : Dict κ α} {k id : κ} {v w : α} {P : Prop}
    (h : (d.set k v).get id = some w) (hnew : id = k → w = v → P)
    (hold : id ≠ k → d.get id = some w → P) : P := by
  rw [get_set] at h
  by_cases hid : id = k
  · rw [if_pos hid] at h
    exact hnew hid (Option.some.inj h).symm
  · rw [if_neg hid] at h
    exact hold hid h

/-- What a read sees after one value was written at two keys. -/
theorem get_set_set (d : Dict κ α) (k k' x : κ) (v : α) :
    ((d.set k v).set k' v).get x = if x = k ∨ x = k' then some v else d.get x := by
  rw [get_set, get_set]
  by_cases hk' : x = k'
  · simp [hk']
  · by_cases hk : x = k
    · simp [hk]
    · simp [hk, hk']

/-- The last of two writes at one key stays. -/
theorem set_set (d : Dict κ α) (k : κ) (v w : α) : (d.set k v).set k w = d.set k w := by
  induction d with
  | nil => simp [set]
  | cons e rest ih =>
      by_cases he : e.1 = k
      · simp [set, he]
      · simp [set, he, ih]

/-- A write forgets no key. -/
theorem isSome_get_set (d : Dict κ α) (k : κ) {k' : κ} (v : α) (h : (d.get k').isSome) :
    ((d.set k v).get k').isSome := by
  rw [get_set]
  by_cases hk : k' = k
  · rw [if_pos hk]
    rfl
  · rw [if_neg hk]
    exact h

/-- Writing what is there changes nothing. -/
theorem set_get_self {d : Dict κ α} {k : κ} {v : α} (h : d.get k = some v) : d.set k v = d := by
  induction d with
  | nil => cases h
  | cons e rest ih =>
      rw [get_cons] at h
      by_cases he : e.1 = k
      · rw [if_pos he] at h
        obtain rfl := Option.some.inj h
        rw [set, if_pos he, ← he]
      · rw [if_neg he] at h
        rw [set, if_neg he, ih h]

theorem mem_of_get {d : Dict κ α} {k : κ} {v : α} (h : d.get k = some v) : (k, v) ∈ d := by
  induction d with
  | nil => cases h
  | cons e rest ih =>
      rw [get_cons] at h
      by_cases he : e.1 = k
      · rw [if_pos he] at h
        obtain rfl := Option.some.inj h
        rw [← he]
        exact List.mem_cons_self
      · rw [if_neg he] at h
        exact List.mem_cons_of_mem _ (ih h)

theorem mem_set {d : Dict κ α} {k : κ} {v : α} {e : κ × α} (h : e ∈ d.set k v) :
    e = (k, v) ∨ e ∈ d := by
  induction d with
  | nil => exact Or.inl (by simpa [set] using h)
  | cons e' rest ih =>
      by_cases he : e'.1 = k
      · rw [set, if_pos he] at h
        rcases List.mem_cons.mp h with rfl | hmem
        · exact Or.inl rfl
        · exact Or.inr (List.mem_cons_of_mem _ hmem)
      · rw [set, if_neg he] at h
        rcases List.mem_cons.mp h with rfl | hmem
        · exact Or.inr List.mem_cons_self
        · rcases ih hmem with hnew | hold
          · exact Or.inl hnew
          · exact Or.inr (List.mem_cons_of_mem _ hold)

/-- What a read sees after a deletion. -/
theorem get_erase (d : Dict κ α) (k k' : κ) :
    (d.erase k).get k' = if k' = k then none else d.get k' := by
  induction d with
  | nil => simp [erase]
  | cons e rest ih =>
      by_cases hk : e.1 = k
      · have hskip : erase (e :: rest) k = erase rest k := by simp [erase, hk]
        rw [hskip, ih, get_cons]
        by_cases hk' : k' = k
        · rw [if_pos hk', if_pos hk']
        · have hne : e.1 ≠ k' := fun hc => hk' (hc.symm.trans hk)
          rw [if_neg hk', if_neg hk', if_neg hne]
      · have hkeep : erase (e :: rest) k = e :: erase rest k := by simp [erase, hk]
        rw [hkeep, get_cons, get_cons, ih]
        by_cases he : e.1 = k'
        · have hne : k' ≠ k := fun hc => hk (he.trans hc)
          rw [if_pos he, if_pos he, if_neg hne]
        · rw [if_neg he, if_neg he]

/-- A read after a deletion sees nothing new. -/
theorem get_of_get_erase {d : Dict κ α} {k k' : κ} {v : α} (h : (d.erase k).get k' = some v) :
    d.get k' = some v := by
  rw [get_erase] at h
  by_cases hk : k' = k
  · rw [if_pos hk] at h
    cases h
  · rw [if_neg hk] at h
    exact h

/-- What a read sees after every value was rewritten. -/
theorem get_map (d : Dict κ α) (f : α → α) (k : κ) :
    get (d.map fun e => (e.1, f e.2)) k = (d.get k).map f := by
  induction d with
  | nil => rfl
  | cons e rest ih =>
      rw [List.map_cons, get_cons, get_cons]
      by_cases he : e.1 = k
      · rw [if_pos he, if_pos he]
        rfl
      · rw [if_neg he, if_neg he]
        exact ih

/-- What a read sees after an update. -/
theorem get_update (d : Dict κ α) (matching : κ → α → Bool) (f : α → α) (k : κ) :
    (d.update matching f).get k = (d.get k).map fun v => if matching k v then f v else v := by
  induction d with
  | nil => rfl
  | cons e rest ih =>
      have hkey : (if matching e.1 e.2 then (e.1, f e.2) else e).1 = e.1 := by
        split <;> rfl
      rw [update, List.map_cons, get_cons, get_cons, hkey]
      by_cases he : e.1 = k
      · rw [if_pos he, if_pos he, ← he]
        split <;> simp_all
      · rw [if_neg he, if_neg he]
        exact ih

/-! ### Keys -/

/-- `list(d)`. -/
def keys (d : Dict κ α) : List κ :=
  d.map (·.1)

/-- A key that was not there goes to the end. -/
theorem set_of_get_none {d : Dict κ α} {k : κ} (v : α) (h : d.get k = none) :
    d.set k v = d ++ [(k, v)] := by
  induction d with
  | nil => rfl
  | cons e rest ih =>
      rw [get_cons] at h
      by_cases he : e.1 = k
      · rw [if_pos he] at h
        cases h
      · rw [if_neg he] at h
        rw [set, if_neg he, ih h]
        rfl

theorem mem_keys_iff {d : Dict κ α} {k : κ} : k ∈ d.keys ↔ (d.get k).isSome := by
  induction d with
  | nil => simp [keys]
  | cons e rest ih =>
      rw [get_cons, keys, List.map_cons, List.mem_cons]
      by_cases he : e.1 = k
      · simp [he]
      · rw [if_neg he, ← ih]
        exact ⟨fun h => h.resolve_left (Ne.symm he), Or.inr⟩

/-- A write adds its key at most. -/
theorem keys_set (d : Dict κ α) (k : κ) (v : α) :
    (d.set k v).keys = if k ∈ d.keys then d.keys else d.keys ++ [k] := by
  induction d with
  | nil => simp [set, keys]
  | cons e rest ih =>
      by_cases he : e.1 = k
      · simp [set, keys, he]
      · have hne : ¬ k = e.1 := fun hc => he hc.symm
        have hcons : (set (e :: rest) k v).keys = e.1 :: (set rest k v).keys := by
          simp [set, he, keys]
        have hmem : (k ∈ keys (e :: rest)) ↔ k ∈ keys rest := by
          simp [keys, hne]
        rw [hcons, ih]
        by_cases hk : k ∈ keys rest
        · rw [if_pos hk, if_pos (hmem.mpr hk)]
          rfl
        · rw [if_neg hk, if_neg (fun hc => hk (hmem.mp hc))]
          rfl

theorem nodup_keys_set {d : Dict κ α} (h : d.keys.Nodup) (k : κ) (v : α) :
    (d.set k v).keys.Nodup := by
  rw [keys_set]
  by_cases hk : k ∈ d.keys
  · rw [if_pos hk]
    exact h
  · rw [if_neg hk]
    exact List.nodup_append.mpr ⟨h, List.nodup_singleton k, by
      intro a ha b hb hab
      rw [List.mem_singleton.mp hb] at hab
      exact hk (hab ▸ ha)⟩

/-- With distinct keys an item is what a read of its key sees. -/
theorem get_of_mem {d : Dict κ α} (h : d.keys.Nodup) {k : κ} {v : α} (hmem : (k, v) ∈ d) :
    d.get k = some v := by
  induction d with
  | nil => cases hmem
  | cons e rest ih =>
      have hcons := List.nodup_cons.mp h
      rw [get_cons]
      rcases List.mem_cons.mp hmem with rfl | hrest
      · rw [if_pos rfl]
      · have hkey : k ∈ rest.map (·.1) := List.mem_map_of_mem hrest
        have hne : e.1 ≠ k := by
          rintro rfl
          exact hcons.1 hkey
        rw [if_neg hne]
        exact ih hcons.2 hrest

/-- With distinct keys a write at an existing key is an update of its row. -/
theorem update_key {d : Dict κ α} (h : d.keys.Nodup) {k : κ} {old : α} (hold : d.get k = some old)
    (f : α → α) : d.update (fun k' _ => k' = k) f = d.set k (f old) := by
  induction d with
  | nil => cases hold
  | cons e rest ih =>
      have hcons := List.nodup_cons.mp h
      rw [get_cons] at hold
      by_cases he : e.1 = k
      · rw [if_pos he] at hold
        obtain rfl := Option.some.inj hold
        have hrest : update rest (fun k' _ => k' = k) f = rest := by
          have hkeep : ∀ x ∈ rest, (if decide (x.1 = k) = true then (x.1, f x.2) else x) = x := by
            intro x hx
            have hne : x.1 ≠ k := by
              intro hk
              have hmem : x.1 ∈ keys rest := List.mem_map_of_mem hx
              rw [hk, ← he] at hmem
              exact hcons.1 hmem
            rw [if_neg (by simpa using hne)]
          exact (List.map_congr_left hkeep).trans (List.map_id' _)
        rw [set, if_pos he]
        show (if decide (e.1 = k) = true then (e.1, f e.2) else e) ::
          update rest (fun k' _ => k' = k) f = _
        rw [if_pos (decide_eq_true he), hrest, he]
      · rw [if_neg he] at hold
        rw [set, if_neg he, ← ih hcons.2 hold]
        show (if decide (e.1 = k) = true then (e.1, f e.2) else e) ::
          update rest (fun k' _ => k' = k) f = _
        rw [if_neg (by simpa using he)]

/-- `d.update(other)`: the keys of the other dictionary win. -/
theorem get_foldl_set : ∀ (other d : Dict κ α), other.keys.Nodup → ∀ k,
    (other.foldl (fun d e => d.set e.1 e.2) d).get k = (other.get k).or (d.get k) := by
  intro other
  induction other with
  | nil =>
      intro d _ k
      simp
  | cons e rest ih =>
      intro d h k
      have hcons := List.nodup_cons.mp h
      rw [List.foldl_cons, ih _ hcons.2, get_cons, get_set]
      by_cases he : e.1 = k
      · have hnone : get rest k = none := by
          by_contra hsome
          have hkey : k ∈ keys rest := mem_keys_iff.mpr (Option.isSome_iff_ne_none.mpr hsome)
          rw [← he] at hkey
          exact hcons.1 hkey
        rw [if_pos he, if_pos he.symm, hnone]
        rfl
      · rw [if_neg he, if_neg (Ne.symm he)]

/-- A write makes room for a new key. -/
theorem length_set (d : Dict κ α) (k : κ) (v : α) :
    (d.set k v).length = if k ∈ d.keys then d.length else d.length + 1 := by
  have hlength : (d.set k v).length = (d.set k v).keys.length := by simp [keys]
  rw [hlength, keys_set]
  by_cases hk : k ∈ d.keys
  · rw [if_pos hk, if_pos hk]
    simp [keys]
  · rw [if_neg hk, if_neg hk]
    simp [keys]

theorem length_foldl_set_le : ∀ other d : Dict κ α,
    (other.foldl (fun d e => Dict.set d e.1 e.2) d).length ≤ d.length + other.length := by
  intro other
  induction other with
  | nil => simp
  | cons e rest ih =>
      intro d
      have hrest := ih (Dict.set d e.1 e.2)
      have hset := length_set d e.1 e.2
      rw [List.foldl_cons, List.length_cons]
      split at hset <;> omega

/-- A dictionary with as many entries as were written has one entry for each of them. -/
theorem nodup_of_length_foldl_set : ∀ other d : Dict κ α,
    (other.foldl (fun d e => Dict.set d e.1 e.2) d).length = d.length + other.length →
      other.keys.Nodup ∧ ∀ k ∈ other.keys, k ∉ d.keys := by
  intro other
  induction other with
  | nil =>
      intro d _
      exact ⟨List.nodup_nil, by simp [keys]⟩
  | cons e rest ih =>
      intro d h
      rw [List.foldl_cons, List.length_cons] at h
      have hle := length_foldl_set_le rest (Dict.set d e.1 e.2)
      have hset := length_set d e.1 e.2
      have hfresh : e.1 ∉ d.keys := by
        intro hmem
        rw [if_pos hmem] at hset
        omega
      rw [if_neg hfresh] at hset
      obtain ⟨hnodup, hnew⟩ := ih (Dict.set d e.1 e.2) (by omega)
      rw [keys_set, if_neg hfresh] at hnew
      refine ⟨List.nodup_cons.mpr ⟨fun hmem => ?_, hnodup⟩, ?_⟩
      · exact hnew e.1 hmem (by simp)
      · intro k hk
        rcases List.mem_cons.mp hk with rfl | hk
        · exact hfresh
        · exact fun hmem => hnew k hk (List.mem_append_left _ hmem)

/-- After a write that keeps `f` of a row, every row has the `f` it had. -/
theorem kept_of_set {β : Type} (f : α → β) {d : Dict κ α} {k k' : κ} {v old w : α}
    (hold : d.get k = some old) (h : (d.set k v).get k' = some w) (hsame : f v = f old) :
    ∃ before, d.get k' = some before ∧ f w = f before := by
  refine of_get_set h ?_ fun _ hw => ⟨w, hw, rfl⟩
  rintro rfl rfl
  exact ⟨old, hold, hsame⟩

/-- A write that keeps the field of the row it replaces. -/
theorem map_get_set {β : Type} {f : α → β} {d : Dict κ α} {k : κ} {v old : α}
    (hold : d.get k = some old) (hf : f v = f old) (k' : κ) :
    ((d.set k v).get k').map f = (d.get k').map f := by
  rw [get_set]
  by_cases hk : k' = k
  · rw [if_pos hk, hk, hold, Option.map_some, Option.map_some, hf]
  · rw [if_neg hk]

/-! ### Indexes -/

section Index

variable {ρ ι : Type} [DecidableEq ρ] {wrap : κ → ι} {index : Dict ρ ι} {rows rows' : Dict κ α}
  {f : α → ρ}

/-- The second dictionary has the rows, and the first finds each of them by a field. -/
def Index (wrap : κ → ι) (index : Dict ρ ι) (rows : Dict κ α) (f : α → ρ) : Prop :=
  ∀ r i, index.get r = some i ↔ ∃ k v, i = wrap k ∧ rows.get k = some v ∧ f v = r

/-- A new row with a field that no row has. -/
theorem Index.set (h : Index wrap index rows f) {k : κ} {v : α} (hfresh : rows.get k = none)
    (hfree : index.get (f v) = none) :
    Index wrap (index.set (f v) (wrap k)) (rows.set k v) f := by
  intro r i
  rw [get_set]
  constructor
  · intro hi
    by_cases hr : r = f v
    · rw [if_pos hr] at hi
      exact ⟨k, v, (Option.some.inj hi).symm, get_set_self _ _ _, hr.symm⟩
    · rw [if_neg hr] at hi
      obtain ⟨k', v', hwrap, hv', hf⟩ := (h r i).mp hi
      exact ⟨k', v', hwrap, get_set_fresh _ hfresh hv', hf⟩
  · rintro ⟨k', v', rfl, hv', rfl⟩
    by_cases hk : k' = k
    · rw [hk, get_set_self] at hv'
      obtain rfl := Option.some.inj hv'
      rw [if_pos rfl, hk]
    · rw [get_set_ne _ _ hk] at hv'
      have hold : index.get (f v') = some (wrap k') := (h _ _).mpr ⟨k', v', rfl, hv', rfl⟩
      rw [if_neg, hold]
      intro hf
      rw [hf, hfree] at hold
      cases hold

/-- Rows that keep the field. -/
theorem Index.congr (h : Index wrap index rows f)
    (hsame : ∀ k, (rows'.get k).map f = (rows.get k).map f) : Index wrap index rows' f := by
  intro r i
  rw [h r i]
  constructor
  · rintro ⟨k, v, hwrap, hv, hf⟩
    have hmap := hsame k
    rw [hv, Option.map_some] at hmap
    obtain ⟨v', hv', hf'⟩ := Option.map_eq_some_iff.mp hmap
    exact ⟨k, v', hwrap, hv', hf'.trans hf⟩
  · rintro ⟨k, v, hwrap, hv, hf⟩
    have hmap := hsame k
    rw [hv, Option.map_some] at hmap
    obtain ⟨v', hv', hf'⟩ := Option.map_eq_some_iff.mp hmap.symm
    exact ⟨k, v', hwrap, hv', hf'.trans hf⟩

/-- A field under which no row is found. -/
theorem Index.free {index : Dict ρ κ} (h : Index id index rows f) {r : ρ}
    (hnone : (index.get r).bind rows.get = none) : index.get r = none := by
  by_contra hsome
  obtain ⟨i, hi⟩ := Option.ne_none_iff_exists'.mp hsome
  obtain ⟨k, v, rfl, hv, _⟩ := (h r i).mp hi
  rw [hi, Option.bind_some, hv] at hnone
  cases hnone

end Index

/-! ### Rows that are rewritten in place -/

/-- The same keys in the same order, with related values. -/
def Related (P : α → α → Prop) (d d' : Dict κ α) : Prop :=
  List.Forall₂ (fun e e' => e'.1 = e.1 ∧ P e.2 e'.2) d d'

section Related

variable {P : α → α → Prop} {d d' d'' : Dict κ α}

omit [DecidableEq κ] in
theorem Related.refl (hP : ∀ v, P v v) : ∀ d : Dict κ α, Related P d d := by
  intro d
  induction d with
  | nil => exact List.Forall₂.nil
  | cons e rest ih => exact List.Forall₂.cons ⟨rfl, hP e.2⟩ ih

omit [DecidableEq κ] in
theorem Related.trans (hP : ∀ a b c, P a b → P b c → P a c) (h : Related P d d')
    (h' : Related P d' d'') : Related P d d'' := by
  induction h generalizing d'' with
  | nil => exact h'
  | cons hhead _ ih =>
      cases h' with
      | cons hhead' htail' =>
          exact List.Forall₂.cons ⟨hhead'.1.trans hhead.1, hP _ _ _ hhead.2 hhead'.2⟩ (ih htail')

omit [DecidableEq κ] in
/-- An update relates every row to what it became. -/
theorem related_update {matching : κ → α → Bool} {f : α → α} (hP : ∀ v, P v v) :
    ∀ d : Dict κ α, (∀ e ∈ d, matching e.1 e.2 = true → P e.2 (f e.2)) →
      Related P d (d.update matching f) := by
  intro d
  induction d with
  | nil =>
      intro _
      exact List.Forall₂.nil
  | cons e rest ih =>
      intro h
      refine List.Forall₂.cons ?_ (ih fun x hx => h x (List.mem_cons_of_mem _ hx))
      dsimp only
      by_cases hm : matching e.1 e.2 = true
      · rw [if_pos hm]
        exact ⟨rfl, h e List.mem_cons_self hm⟩
      · rw [if_neg hm]
        exact ⟨rfl, hP e.2⟩

theorem Related.get (h : Related P d d') {k : κ} {v : α} (hv : d.get k = some v) :
    ∃ v', d'.get k = some v' ∧ P v v' := by
  induction h with
  | nil => cases hv
  | @cons e e' rest rest' hhead _ ih =>
      rw [get_cons] at hv ⊢
      rw [hhead.1]
      by_cases he : e.1 = k
      · rw [if_pos he] at hv ⊢
        obtain rfl := Option.some.inj hv
        exact ⟨e'.2, rfl, hhead.2⟩
      · rw [if_neg he] at hv ⊢
        exact ih hv

omit [DecidableEq κ] in
theorem Related.mem_back (h : Related P d d') {e' : κ × α} (he : e' ∈ d') :
    ∃ e ∈ d, e'.1 = e.1 ∧ P e.2 e'.2 := by
  induction h with
  | nil => cases he
  | @cons x x' rest rest' hhead _ ih =>
      rcases List.mem_cons.mp he with rfl | he
      · exact ⟨x, List.mem_cons_self, hhead⟩
      · obtain ⟨y, hy, hrel⟩ := ih he
        exact ⟨y, List.mem_cons_of_mem _ hy, hrel⟩

omit [DecidableEq κ] in
/-- A filter that the relation respects keeps related rows. -/
theorem Related.filter (h : Related P d d') {p : α → Bool} (hp : ∀ v v', P v v' → p v' = p v) :
    List.Forall₂ P (d.values.filter p) (d'.values.filter p) := by
  induction h with
  | nil => exact List.Forall₂.nil
  | @cons e e' rest rest' hhead _ ih =>
      have hsame := hp _ _ hhead.2
      show List.Forall₂ P ((e.2 :: values rest).filter p) ((e'.2 :: values rest').filter p)
      rw [List.filter_cons, List.filter_cons, hsame]
      by_cases hpe : p e.2 = true
      · rw [if_pos hpe, if_pos hpe]
        exact List.Forall₂.cons hhead.2 ih
      · rw [if_neg hpe, if_neg hpe]
        exact ih

/-- A write at an existing key relates its row to the new one. -/
theorem related_set {k : κ} {v : α} (hP : ∀ v, P v v) : ∀ d : Dict κ α,
    (∃ old, d.get k = some old ∧ P old v) → Related P d (d.set k v) := by
  intro d
  induction d with
  | nil =>
      rintro ⟨old, hold, _⟩
      cases hold
  | cons e rest ih =>
      rintro ⟨old, hold, hv⟩
      rw [get_cons] at hold
      by_cases he : e.1 = k
      · rw [if_pos he] at hold
        obtain rfl := Option.some.inj hold
        rw [set, if_pos he]
        exact List.Forall₂.cons ⟨he.symm, hv⟩ (Related.refl hP rest)
      · rw [if_neg he] at hold
        rw [set, if_neg he]
        exact List.Forall₂.cons ⟨rfl, hP e.2⟩ (ih ⟨old, hold, hv⟩)

omit [DecidableEq κ] in
/-- The rows that a filter keeps, with their keys. -/
theorem Related.filter_rows (h : Related P d d') {p : α → Bool} (hp : ∀ v v', P v v' → p v' = p v) :
    Related P (d.filter fun e => p e.2) (d'.filter fun e => p e.2) := by
  induction h with
  | nil => exact List.Forall₂.nil
  | @cons e e' rest rest' hhead _ ih =>
      rw [List.filter_cons, List.filter_cons, hp _ _ hhead.2]
      by_cases hpe : p e.2 = true
      · rw [if_pos hpe, if_pos hpe]
        exact List.Forall₂.cons hhead ih
      · rw [if_neg hpe, if_neg hpe]
        exact ih

omit [DecidableEq κ] in
/-- What the relation leaves alone. -/
theorem Related.map_eq {β : Type} (h : Related P d d') {g : κ × α → β}
    (hg : ∀ k v v', P v v' → g (k, v') = g (k, v)) : d'.map g = d.map g := by
  induction h with
  | nil => rfl
  | @cons e e' rest rest' hhead _ ih =>
      rw [List.map_cons, List.map_cons, ih]
      have hrow := hg e.1 e.2 e'.2 hhead.2
      rw [← hhead.1] at hrow
      rw [show e' = (e'.1, e'.2) from rfl, hrow, hhead.1]

omit [DecidableEq κ] in
/-- What the relation can only take away. -/
theorem Related.countP_le (h : Related P d d') {q : α → Bool}
    (hq : ∀ v v', P v v' → q v' = true → q v = true) :
    d'.countP (fun e => q e.2) ≤ d.countP fun e => q e.2 := by
  induction h with
  | nil => exact le_rfl
  | @cons e e' rest rest' hhead _ ih =>
      rw [List.countP_cons, List.countP_cons]
      by_cases hqe : q e'.2 = true
      · rw [if_pos hqe, if_pos (hq _ _ hhead.2 hqe)]
        omega
      · rw [if_neg hqe]
        omega

end Related

/-! ### Totals -/

/-- The sum of an amount over the items. -/
def total (f : κ → α → Int) (d : Dict κ α) : Int :=
  (d.map fun e => f e.1 e.2).sum

omit [DecidableEq κ] in
@[simp] theorem total_cons (f : κ → α → Int) (e : κ × α) (d : Dict κ α) :
    total f (e :: d) = f e.1 e.2 + total f d := by
  simp [total]

/-- A write moves the total by the difference at its key. -/
theorem total_set (f : κ → α → Int) (d : Dict κ α) (k : κ) (v : α) :
    total f (d.set k v) = total f d + f k v - ((d.get k).map (f k)).getD 0 := by
  induction d with
  | nil => simp [set, total]
  | cons e rest ih =>
      rw [get_cons]
      by_cases he : e.1 = k
      · rw [set, if_pos he, if_pos he, total_cons, total_cons]
        simp only [Option.map_some, Option.getD_some, he]
        omega
      · rw [set, if_neg he, if_neg he, total_cons, total_cons, ih]
        omega

/-- Two writes at different keys move the total by both differences. -/
theorem total_set_set (f : κ → α → Int) {d : Dict κ α} {k k' : κ} {v v' : α} (w w' : α)
    (hne : k' ≠ k) (h : d.get k = some v) (h' : d.get k' = some v') :
    total f ((d.set k w).set k' w') = total f d + (f k w - f k v) + (f k' w' - f k' v') := by
  rw [total_set, total_set, get_set_ne d w hne, h, h']
  simp only [Option.map_some, Option.getD_some]
  omega

omit [DecidableEq κ] in
theorem total_nonneg {f : κ → α → Int} (hf : ∀ k v, 0 ≤ f k v) (d : Dict κ α) : 0 ≤ total f d := by
  induction d with
  | nil => simp [total]
  | cons e rest ih =>
      rw [total_cons]
      have := hf e.1 e.2
      omega

/-- One item is part of the total. -/
theorem le_total {f : κ → α → Int} (hf : ∀ k v, 0 ≤ f k v) {d : Dict κ α} {k : κ} {v : α}
    (h : d.get k = some v) : f k v ≤ total f d := by
  induction d with
  | nil => cases h
  | cons e rest ih =>
      rw [get_cons] at h
      rw [total_cons]
      by_cases he : e.1 = k
      · rw [if_pos he] at h
        obtain rfl := Option.some.inj h
        have := total_nonneg hf rest
        rw [he]
        omega
      · rw [if_neg he] at h
        have := ih h
        have := hf e.1 e.2
        omega

omit [DecidableEq κ] in
/-- Nothing is held when no item counts. -/
theorem total_eq_zero {f : κ → α → Int} {d : Dict κ α} (h : ∀ e ∈ d, f e.1 e.2 = 0) : total f d = 0 := by
  induction d with
  | nil => simp [total]
  | cons e rest ih =>
      rw [total_cons, h e List.mem_cons_self,
        ih fun e' he' => h e' (List.mem_cons_of_mem _ he')]
      rfl

end Dict

end Py
