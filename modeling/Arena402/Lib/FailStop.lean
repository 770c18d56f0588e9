/-
Loops that stop at the first item that fails.

Such a loop does `l.takeWhile ok`.  Leaving out an item that fails can only make the loop go on,
and it does go on unless an earlier item stops it anyway or there is nothing to do behind the
item: `takeWhile_without_iff` says exactly when the item makes no difference.
-/
import Mathlib.Tactic

namespace FailStop

variable {α κ : Type} [DecidableEq κ] {ok : α → Bool} {key : α → κ} {g : κ}

/-- The items before the one with key `g`. -/
def before (key : α → κ) (g : κ) (l : List α) : List α :=
  l.takeWhile fun x => key x ≠ g

/-- The items behind the one with key `g`. -/
def behind (key : α → κ) (g : κ) (l : List α) : List α :=
  (l.dropWhile fun x => key x ≠ g).tail

/-- The other items. -/
def without (key : α → κ) (g : κ) (l : List α) : List α :=
  l.filter fun x => key x ≠ g

theorem without_cons (x : α) (l : List α) :
    without key g (x :: l) = if key x = g then without key g l else x :: without key g l := by
  by_cases hx : key x = g
  · simp [without, hx]
  · simp [without, hx]

theorem without_eq_self {l : List α} (h : ∀ x ∈ l, key x ≠ g) : without key g l = l :=
  List.filter_eq_self.mpr fun x hx => by simpa using h x hx

theorem takeWhile_congr {ok' : α → Bool} {l : List α} (h : ∀ x ∈ l, ok x = ok' x) :
    l.takeWhile ok = l.takeWhile ok' := by
  induction l with
  | nil => rfl
  | cons x rest ih =>
      rw [List.takeWhile_cons, List.takeWhile_cons, h x List.mem_cons_self,
        ih fun y hy => h y (List.mem_cons_of_mem _ hy)]

theorem takeWhile_eq_nil_iff_head {l : List α} :
    l.takeWhile ok = [] ↔ ∀ y ∈ l.head?, ok y = false := by
  cases l with
  | nil => simp
  | cons x rest =>
      by_cases hx : ok x = true
      · simp [hx]
      · simp [hx]

/-- **A failing item makes no difference to what a loop does to the others exactly when an item
    before it fails too, or the next item behind it does, or there is none.** -/
theorem takeWhile_without_iff : ∀ {l : List α}, (l.map key).Nodup →
    (∀ x ∈ l, key x = g → ok x = false) →
    (l.takeWhile ok = (without key g l).takeWhile ok ↔
      (∃ y ∈ before key g l, ok y = false) ∨ ∀ y ∈ (behind key g l).head?, ok y = false) := by
  intro l
  induction l with
  | nil =>
      intro _ _
      simp [without, behind]
  | cons x rest ih =>
      intro hnodup hfails
      obtain ⟨hnew, hrest⟩ := List.nodup_cons.mp hnodup
      by_cases hx : key x = g
      · have hfail : ok x = false := hfails x List.mem_cons_self hx
        have hothers : ∀ y ∈ rest, key y ≠ g := by
          rintro y hy rfl
          exact hnew (hx ▸ List.mem_map_of_mem hy)
        have hwithout : without key g (x :: rest) = rest := by
          rw [without_cons, if_pos hx, without_eq_self hothers]
        have hbefore : before key g (x :: rest) = [] := by simp [before, hx]
        have hbehind : behind key g (x :: rest) = rest := by simp [behind, hx]
        rw [hwithout, hbefore, hbehind, List.takeWhile_cons, if_neg (by simp [hfail])]
        rw [← takeWhile_eq_nil_iff_head, eq_comm]
        simp
      · have hwithout : without key g (x :: rest) = x :: without key g rest := by
          rw [without_cons, if_neg hx]
        have hbefore : before key g (x :: rest) = x :: before key g rest := by simp [before, hx]
        have hbehind : behind key g (x :: rest) = behind key g rest := by simp [behind, hx]
        rw [hwithout, hbefore, hbehind, List.takeWhile_cons, List.takeWhile_cons]
        by_cases hok : ok x = true
        · rw [if_pos hok, if_pos hok, List.cons_inj_right,
            ih hrest fun y hy => hfails y (List.mem_cons_of_mem _ hy)]
          simp [hok]
        · rw [if_neg hok, if_neg hok]
          simp [hok]

end FailStop
