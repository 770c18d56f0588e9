/-
Selections of the rows of a dictionary.

A comprehension with an `if` keeps some of the rows.  When no key occurs twice, what it
keeps is decided row by row: a read after it is a read before it that passes the test.
-/
import Arena402.Lib.Dict

namespace Py.Dict

variable {κ α : Type} [DecidableEq κ] {d : Dict κ α} {k : κ} {v : α}

omit [DecidableEq κ] in
theorem nodup_keys_filter (h : d.keys.Nodup) (p : κ × α → Bool) :
    (keys (d.filter p)).Nodup :=
  h.sublist (List.filter_sublist.map _)

/-- Rows selected by their keys. -/
theorem get_filter_key (p : κ → Bool) (d : Dict κ α) (k : κ) :
    get (d.filter fun e => p e.1) k = if p k then d.get k else none := by
  induction d with
  | nil => simp
  | cons e rest ih =>
      by_cases he : p e.1 = true
      · rw [List.filter_cons_of_pos (by simpa using he), get_cons, get_cons, ih]
        by_cases hk : e.1 = k
        · rw [if_pos hk, if_pos hk, if_pos (hk ▸ he)]
        · rw [if_neg hk, if_neg hk]
      · rw [List.filter_cons_of_neg (by simpa using he), ih, get_cons]
        by_cases hk : e.1 = k
        · rw [if_neg (hk ▸ he), if_neg (hk ▸ he)]
        · rw [if_neg hk]

/-- Rows selected by their values. -/
theorem get_filter_value (h : d.keys.Nodup) (p : α → Bool) (k : κ) :
    get (d.filter fun e => p e.2) k = (d.get k).filter p := by
  induction d with
  | nil => rfl
  | cons e rest ih =>
      have hrest : keys rest = rest.map (·.1) := rfl
      obtain ⟨hfresh, hnodup⟩ := List.nodup_cons.mp h
      have ih := ih hnodup
      by_cases he : p e.2 = true
      · rw [List.filter_cons_of_pos (by simpa using he), get_cons, get_cons, ih]
        by_cases hk : e.1 = k
        · rw [if_pos hk, if_pos hk, Option.filter_some, if_pos he]
        · rw [if_neg hk, if_neg hk]
      · rw [List.filter_cons_of_neg (by simpa using he), ih, get_cons]
        by_cases hk : e.1 = k
        · have hnone : get rest k = none := by
            by_contra hsome
            have hmem := mem_keys_iff.mpr (Option.isSome_iff_ne_none.mpr hsome)
            rw [hrest, ← hk] at hmem
            exact hfresh hmem
          rw [if_pos hk, hnone, Option.filter_some, if_neg he, Option.filter_none]
        · rw [if_neg hk]

/-- A write, seen in the rows of some keys. -/
theorem filter_key_set (p : κ → Bool) (d : Dict κ α) (k : κ) (v : α) :
    (d.set k v).filter (fun e => p e.1) =
      if p k then set (d.filter fun e => p e.1) k v else d.filter fun e => p e.1 := by
  induction d with
  | nil => by_cases hp : p k = true <;> simp [set, hp]
  | cons e rest ih =>
      by_cases hk : e.1 = k
      · subst hk
        by_cases hp : p e.1 = true <;> simp [set, hp]
      · by_cases he : p e.1 = true
        · by_cases hp : p k = true <;> simp_all [set]
        · by_cases hp : p k = true <;> simp_all [set]

/-- An update of one row, seen in the rows of some keys. -/
theorem filter_key_update (p : κ → Bool) (d : Dict κ α) (k : κ) (f : α → α) :
    (d.update (fun key _ => key = k) f).filter (fun e => p e.1) =
      if p k then update (d.filter fun e => p e.1) (fun key _ => key = k) f
      else d.filter fun e => p e.1 := by
  induction d with
  | nil => by_cases hp : p k = true <;> simp [update, hp]
  | cons e rest ih =>
      by_cases hk : e.1 = k <;> by_cases he : p e.1 = true <;> by_cases hp : p k = true <;>
        simp_all [update]

/-- Rows rewritten with a look at their keys. -/
theorem get_map_entries (f : κ → α → α) (d : Dict κ α) (k : κ) :
    get (d.map fun e => (e.1, f e.1 e.2)) k = (d.get k).map (f k) := by
  induction d with
  | nil => rfl
  | cons e rest ih =>
      rw [List.map_cons, get_cons, get_cons, ih]
      by_cases hk : e.1 = k
      · rw [if_pos hk, if_pos hk, hk]
        rfl
      · rw [if_neg hk, if_neg hk]

/-- A row whose value still passes the test, or passes it no longer. -/
theorem length_filter_set_le {p : α → Bool} {old : α} (hget : d.get k = some old)
    (hp : p v = true → p old = true) :
    ((d.set k v).filter fun e => p e.2).length ≤ (d.filter fun e => p e.2).length := by
  have hrelated : Related (fun a b => p b = true → p a = true) d (d.set k v) :=
    related_set (fun _ h => h) d ⟨old, hget, hp⟩
  simpa only [List.countP_eq_length_filter] using hrelated.countP_le fun _ _ h => h

omit [DecidableEq κ] in
/-- Rewriting every row relates it to what it became. -/
theorem related_map {P : α → α → Prop} {f : κ × α → κ × α}
    (hP : ∀ e, (f e).1 = e.1 ∧ P e.2 (f e).2) : ∀ d : Dict κ α, Related P d (d.map f) := by
  intro d
  induction d with
  | nil => exact List.Forall₂.nil
  | cons e rest ih => exact List.Forall₂.cons (hP e) ih

omit [DecidableEq κ] in
/-- A test that the relation respects finds a row on both sides or on none. -/
theorem Related.exists_iff {P : α → α → Prop} {d d' : Dict κ α} (h : Related P d d')
    {p : α → Prop} (hp : ∀ a b, P a b → (p a ↔ p b)) :
    (∃ item ∈ d, p item.2) ↔ ∃ item ∈ d', p item.2 := by
  induction h with
  | nil => simp
  | cons hhead _ ih => simp [hp _ _ hhead.2, ih]

omit [DecidableEq κ] in
/-- A row found among those that were rewritten. -/
theorem exists_map_iff (f : κ × α → κ × α) (d : Dict κ α) (p : α → Prop) :
    (∃ item ∈ d.map f, p item.2) ↔ ∃ item ∈ d, p (f item).2 := by
  simp only [List.mem_map, exists_exists_and_eq_and]

/-- A row found after a write at an existing key. -/
theorem exists_set_iff (h : d.keys.Nodup) {old : α} (hold : d.get k = some old) (f : α → α)
    (p : α → Prop) :
    (∃ item ∈ d.set k (f old), p item.2) ↔
      ∃ item ∈ d, p (if item.1 = k then f item.2 else item.2) := by
  rw [← update_key h hold, update, exists_map_iff]
  refine exists_congr fun item => and_congr_right fun _ => ?_
  by_cases hk : item.1 = k
  · simp [hk]
  · simp [hk]

end Py.Dict
