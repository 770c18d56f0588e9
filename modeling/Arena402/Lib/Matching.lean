/-
Matchings between two lists.

`firstFit` gives each left item, in order, the first right item that is left and allowed.  It passes
nobody over: an allowed pair that it did not make has a side that got an earlier partner
(`firstFit_earlier`), so it is maximal and at least half as large as any matching.

When a pair is allowed by a bound, the right item's at most the left item's, `sweep` walks both lists
in the order of their bounds.  It is a largest matching: a cut of the bounds covers no more items
than it has pairs, and every pair of a matching has a covered item (`length_le_cover`).
-/
import Mathlib.Tactic

namespace Matching

variable {α β ι : Type}

/-- A one-to-one assignment between items of two lists. -/
structure IsMatching (ok : α → β → Bool) (left : List α) (right : List β)
    (pairs : List (α × β)) : Prop where
  left : (pairs.map (·.1)).Subperm left
  right : (pairs.map (·.2)).Subperm right
  allowed : ∀ p ∈ pairs, ok p.1 p.2 = true

variable {ok : α → β → Bool} {left left' : List α} {right right' : List β} {pairs : List (α × β)}

theorem IsMatching.nil : IsMatching ok left right [] where
  left := List.nil_subperm
  right := List.nil_subperm
  allowed p hp := by cases hp

theorem IsMatching.cons {a : α} {b : β} (h : IsMatching ok left right pairs) (hab : ok a b = true) :
    IsMatching ok (a :: left) (b :: right) ((a, b) :: pairs) where
  left := (List.subperm_cons a).mpr h.left
  right := (List.subperm_cons b).mpr h.right
  allowed p hp := by
    rcases List.mem_cons.mp hp with rfl | hp
    · exact hab
    · exact h.allowed p hp

theorem IsMatching.mono (h : IsMatching ok left right pairs) (hleft : left.Subperm left')
    (hright : right.Subperm right') : IsMatching ok left' right' pairs :=
  ⟨h.left.trans hleft, h.right.trans hright, h.allowed⟩

/-- Only what is allowed between the two lists matters. -/
theorem IsMatching.congr {ok' : α → β → Bool} (h : IsMatching ok left right pairs)
    (hsame : ∀ a ∈ left, ∀ b ∈ right, ok a b = ok' a b) : IsMatching ok' left right pairs := by
  refine ⟨h.left, h.right, fun p hp => ?_⟩
  rw [← hsame p.1 (h.left.subset (List.mem_map_of_mem hp)) p.2
    (h.right.subset (List.mem_map_of_mem hp))]
  exact h.allowed p hp

/-! ### First fit -/

/-- Each left item takes the first right item that is left and allowed. -/
def firstFit (ok : α → β → Bool) : List α → List β → List (α × β)
  | [], _ => []
  | a :: left, right =>
    match right.find? (ok a) with
    | none => firstFit ok left right
    | some b => (a, b) :: firstFit ok left (right.eraseP (ok a))

theorem firstFit_cons_of_none {a : α} (h : right.find? (ok a) = none) :
    firstFit ok (a :: left) right = firstFit ok left right := by
  rw [firstFit, h]

theorem firstFit_cons_of_some {a : α} {b : β} (h : right.find? (ok a) = some b) :
    firstFit ok (a :: left) right = (a, b) :: firstFit ok left (right.eraseP (ok a)) := by
  rw [firstFit, h]

/-- What the first allowed item stands between. -/
theorem split_of_find {p : β → Bool} {b : β} (h : right.find? p = some b) :
    ∃ front rest, right = front ++ b :: rest ∧ (∀ x ∈ front, p x = false) ∧
      right.eraseP p = front ++ rest := by
  obtain ⟨hb, front, rest, rfl, hfront⟩ := List.find?_eq_some_iff_append.mp h
  have hnot : ∀ x ∈ front, ¬ p x = true := fun x hx => by simpa using hfront x hx
  refine ⟨front, rest, rfl, fun x hx => by simpa using hfront x hx, ?_⟩
  rw [List.eraseP_append_right _ hnot, List.eraseP_cons_of_pos hb]

theorem firstFit_isMatching : ∀ {left : List α} {right : List β},
    IsMatching ok left right (firstFit ok left right) := by
  intro left
  induction left with
  | nil =>
      intro right
      exact .nil
  | cons a left ih =>
      intro right
      cases hfind : right.find? (ok a) with
      | none =>
          rw [firstFit_cons_of_none hfind]
          exact ih.mono (List.sublist_cons_self a left).subperm (List.Subperm.refl right)
      | some b =>
          rw [firstFit_cons_of_some hfind]
          have hab : ok a b = true := (List.find?_eq_some_iff_append.mp hfind).1
          obtain ⟨front, rest, hright, -, herase⟩ := split_of_find hfind
          have hsame : (b :: right.eraseP (ok a)).Perm right := by
            rw [herase, hright]
            exact List.perm_middle.symm
          exact (ih.cons hab).mono (List.Subperm.refl _) hsame.subperm

/-- **Nobody is passed over: an allowed pair is made, or one of its sides has an earlier partner.** -/
theorem firstFit_earlier {before : α → α → Prop} {before' : β → β → Prop} {a : α} {b : β}
    (hab : ok a b = true) : ∀ {left : List α} {right : List β}, left.Pairwise before →
    right.Pairwise before' → a ∈ left → b ∈ right →
      (a, b) ∈ firstFit ok left right ∨ (∃ b', (a, b') ∈ firstFit ok left right ∧ before' b' b) ∨
        ∃ a', (a', b) ∈ firstFit ok left right ∧ before a' a := by
  intro left
  induction left with
  | nil =>
      intro right _ _ ha
      cases ha
  | cons c left ih =>
      intro right hleft hright ha hb
      obtain ⟨hfirst, hleft⟩ := List.pairwise_cons.mp hleft
      cases hfind : right.find? (ok c) with
      | none =>
          rw [firstFit_cons_of_none hfind]
          rcases List.mem_cons.mp ha with rfl | ha
          · exact absurd hab (List.find?_eq_none.mp hfind b hb)
          · exact ih hleft hright ha hb
      | some d =>
          rw [firstFit_cons_of_some hfind]
          obtain ⟨front, rest, rfl, hfront, herase⟩ := split_of_find hfind
          rw [herase]
          obtain ⟨-, hrest, -⟩ := List.pairwise_append.mp hright
          rcases List.mem_cons.mp ha with rfl | ha
          · rcases List.mem_append.mp hb with hb | hb
            · rw [hfront b hb] at hab
              cases hab
            rcases List.mem_cons.mp hb with rfl | hb
            · exact Or.inl List.mem_cons_self
            · exact Or.inr (Or.inl ⟨d, List.mem_cons_self, (List.pairwise_cons.mp hrest).1 b hb⟩)
          · by_cases hbd : b = d
            · subst hbd
              exact Or.inr (Or.inr ⟨c, List.mem_cons_self, hfirst a ha⟩)
            · have hb' : b ∈ front ++ rest := by
                rcases List.mem_append.mp hb with hb | hb
                · exact List.mem_append_left _ hb
                · exact List.mem_append_right _ ((List.mem_cons.mp hb).resolve_left hbd)
              have hsub : (front ++ rest).Sublist (front ++ d :: rest) :=
                (List.sublist_cons_self d rest).append_left front
              rcases ih hleft (hright.sublist hsub) ha hb' with h | ⟨b', h, hlt⟩ | ⟨a', h, hlt⟩
              · exact Or.inl (List.mem_cons_of_mem _ h)
              · exact Or.inr (Or.inl ⟨b', List.mem_cons_of_mem _ h, hlt⟩)
              · exact Or.inr (Or.inr ⟨a', List.mem_cons_of_mem _ h, hlt⟩)

/-- An allowed pair has a side that is matched. -/
theorem firstFit_maximal {a : α} {b : β} (hab : ok a b = true) (ha : a ∈ left) (hb : b ∈ right) :
    a ∈ (firstFit ok left right).map (·.1) ∨ b ∈ (firstFit ok left right).map (·.2) := by
  have hleft : left.Pairwise fun _ _ => True := List.pairwise_of_forall fun _ _ => trivial
  have hright : right.Pairwise fun _ _ => True := List.pairwise_of_forall fun _ _ => trivial
  rcases firstFit_earlier hab hleft hright ha hb with h | ⟨b', h, -⟩ | ⟨a', h, -⟩
  · exact Or.inl (List.mem_map_of_mem h)
  · exact Or.inl (List.mem_map_of_mem h)
  · exact Or.inr (List.mem_map_of_mem h)

theorem nodup_of_subperm {γ : Type} {l k : List γ} (h : l.Subperm k) (hk : k.Nodup) : l.Nodup := by
  obtain ⟨m, hperm, hsub⟩ := h
  exact hperm.nodup_iff.mp (hsub.nodup hk)

/-- Items that one of two predicates covers. -/
theorem length_le_countP_add {γ : Type} {p q : γ → Bool} : ∀ {l : List γ},
    (∀ x ∈ l, p x = true ∨ q x = true) → l.length ≤ l.countP p + l.countP q := by
  intro l
  induction l with
  | nil =>
      intro _
      exact Nat.zero_le _
  | cons x rest ih =>
      intro h
      have hrest := ih fun y hy => h y (List.mem_cons_of_mem _ hy)
      rw [List.countP_cons, List.countP_cons, List.length_cons]
      rcases h x List.mem_cons_self with hx | hx
      · rw [if_pos hx]
        omega
      · rw [if_pos hx]
        omega

/-- Distinct items that are all members of another list are no more than it has. -/
theorem countP_mem_le {γ δ : Type} [DecidableEq δ] {f : γ → δ} {l : List γ} {k : List δ}
    (hl : (l.map f).Nodup) : l.countP (fun x => f x ∈ k) ≤ k.length := by
  rw [List.countP_eq_length_filter, ← List.length_map f]
  refine (List.subperm_of_subset ((List.filter_sublist.map f).nodup hl) ?_).length_le
  intro y hy
  obtain ⟨x, hx, rfl⟩ := List.mem_map.mp hy
  simpa using (List.mem_filter.mp hx).2

/-- **No matching of distinct items has more than twice as many pairs.** -/
theorem length_le_two_mul [DecidableEq α] [DecidableEq β] (hleft : left.Nodup)
    (hright : right.Nodup) (h : IsMatching ok left right pairs) :
    pairs.length ≤ 2 * (firstFit ok left right).length := by
  have hcovered : ∀ p ∈ pairs, p.1 ∈ (firstFit ok left right).map (·.1) ∨
      p.2 ∈ (firstFit ok left right).map (·.2) := by
    intro p hp
    exact firstFit_maximal (h.allowed p hp) (h.left.subset (List.mem_map_of_mem hp))
      (h.right.subset (List.mem_map_of_mem hp))
  have hsplit : pairs.length ≤
      pairs.countP (fun p => p.1 ∈ (firstFit ok left right).map (·.1)) +
        pairs.countP (fun p => p.2 ∈ (firstFit ok left right).map (·.2)) :=
    length_le_countP_add fun p hp => by simpa using hcovered p hp
  have hfst := countP_mem_le (k := (firstFit ok left right).map (·.1)) (nodup_of_subperm h.left hleft)
  have hsnd := countP_mem_le (k := (firstFit ok left right).map (·.2)) (nodup_of_subperm h.right hright)
  rw [List.length_map] at hfst hsnd
  omega

/-! ### The sweep over bounds -/

variable [LinearOrder ι] {f : α → ι} {g : β → ι}

/-- A pair is allowed when the right bound is at most the left one. -/
def within (f : α → ι) (g : β → ι) (a : α) (b : β) : Bool :=
  g b ≤ f a

/-- Each left item takes the next right item when it is within its bound. -/
def sweep (f : α → ι) (g : β → ι) : List α → List β → List (α × β)
  | [], _ => []
  | _ :: _, [] => []
  | a :: left, b :: right =>
    if g b ≤ f a then (a, b) :: sweep f g left right else sweep f g left (b :: right)

theorem sweep_cons_of_le {a : α} {b : β} (h : g b ≤ f a) :
    sweep f g (a :: left) (b :: right) = (a, b) :: sweep f g left right := by
  rw [sweep, if_pos h]

theorem sweep_cons_of_lt {a : α} {b : β} (h : ¬ g b ≤ f a) :
    sweep f g (a :: left) (b :: right) = sweep f g left (b :: right) := by
  rw [sweep, if_neg h]

theorem sweep_isMatching : ∀ {left : List α} {right : List β},
    IsMatching (within f g) left right (sweep f g left right) := by
  intro left
  induction left with
  | nil =>
      intro right
      rw [sweep]
      exact .nil
  | cons a left ih =>
      intro right
      cases right with
      | nil =>
          rw [sweep]
          exact .nil
      | cons b right =>
          by_cases h : g b ≤ f a
          · rw [sweep_cons_of_le h]
            exact ih.cons (decide_eq_true h)
          · rw [sweep_cons_of_lt h]
            exact ih.mono (List.sublist_cons_self a left).subperm (List.Subperm.refl _)

/-- A cut of the bounds: what is above a bound that is in it is in it. -/
def IsCut (u : ι → Bool) : Prop :=
  ∀ x y, x ≤ y → u x = true → u y = true

/-- The left items in a cut and the right items outside. -/
def cover (f : α → ι) (g : β → ι) (u : ι → Bool) (left : List α) (right : List β) : Nat :=
  left.countP (fun a => u (f a)) + right.countP (fun b => !u (g b))

/-- **Every pair of a matching has a covered item.** -/
theorem length_le_cover {u : ι → Bool} (hu : IsCut u)
    (h : IsMatching (within f g) left right pairs) : pairs.length ≤ cover f g u left right := by
  have hcovered : ∀ p ∈ pairs, u (f p.1) = true ∨ (!u (g p.2)) = true := by
    intro p hp
    have hle : g p.2 ≤ f p.1 := of_decide_eq_true (h.allowed p hp)
    by_cases hb : u (g p.2) = true
    · exact Or.inl (hu _ _ hle hb)
    · exact Or.inr (by simpa using hb)
  have hleft := h.left.countP_le fun a => u (f a)
  have hright := h.right.countP_le fun b => !u (g b)
  rw [List.countP_map] at hleft hright
  exact (length_le_countP_add hcovered).trans (Nat.add_le_add hleft hright)

omit [LinearOrder ι] in
theorem cover_cons (u : ι → Bool) (a : α) (b : β) :
    cover f g u (a :: left) (b :: right) = cover f g u left right +
      (if u (f a) = true then 1 else 0) + (if (!u (g b)) = true then 1 else 0) := by
  rw [cover, cover, List.countP_cons, List.countP_cons]
  omega

/-- **Some cut covers no more items than the sweep has pairs.** -/
theorem exists_cover_le : ∀ {left : List α} {right : List β},
    left.Pairwise (fun a a' => f a ≤ f a') → right.Pairwise (fun b b' => g b ≤ g b') →
      ∃ u, IsCut u ∧ cover f g u left right ≤ (sweep f g left right).length := by
  intro left
  induction left with
  | nil =>
      intro right _ _
      refine ⟨fun _ => true, fun _ _ _ _ => rfl, ?_⟩
      simp [cover]
  | cons a left ih =>
      intro right hleft hright
      obtain ⟨hfirst, hleft⟩ := List.pairwise_cons.mp hleft
      cases right with
      | nil =>
          refine ⟨fun _ => false, fun _ _ _ h => h, ?_⟩
          simp [cover]
      | cons b right =>
          obtain ⟨hfirst', hright'⟩ := List.pairwise_cons.mp hright
          by_cases h : g b ≤ f a
          · rw [sweep_cons_of_le h, List.length_cons]
            obtain ⟨u, hu, hle⟩ := ih hleft hright'
            by_cases hboth : u (f a) = true ∧ u (g b) = false
            · -- the cut has all left items, so the cut of everything is as good
              have hall : left.countP (fun a => u (f a)) = left.length :=
                List.countP_eq_length.mpr fun x hx => hu _ _ (hfirst x hx) hboth.1
              refine ⟨fun _ => true, fun _ _ _ _ => rfl, ?_⟩
              have hcover : cover f g (fun _ => true) (a :: left) (b :: right) = left.length + 1 := by
                simp [cover]
              unfold cover at hle
              rw [hall] at hle
              omega
            · refine ⟨u, hu, ?_⟩
              rw [cover_cons]
              by_cases ha : u (f a) = true
              · have hb : u (g b) = true := by
                  by_contra hb
                  exact hboth ⟨ha, by simpa using hb⟩
                simp only [ha, hb, if_true, Bool.not_true, Bool.false_eq_true, if_false]
                omega
              · rw [if_neg ha]
                split
                · omega
                · omega
          · rw [sweep_cons_of_lt h]
            obtain ⟨u, hu, hle⟩ := ih hleft hright
            by_cases ha : u (f a) = true
            · -- the cut has all left items, so the cut behind `a` is as good
              have hall : left.countP (fun a => u (f a)) = left.length :=
                List.countP_eq_length.mpr fun x hx => hu _ _ (hfirst x hx) ha
              refine ⟨fun x => decide (f a < x), ?_, ?_⟩
              · intro x y hxy hx
                exact decide_eq_true ((of_decide_eq_true hx).trans_le hxy)
              · have hnone : (b :: right).countP (fun b => !decide (f a < g b)) = 0 := by
                  rw [List.countP_eq_zero]
                  intro x hx
                  have hlt : f a < g b := not_le.mp h
                  rcases List.mem_cons.mp hx with rfl | hx
                  · simp [hlt]
                  · simp [hlt.trans_le (hfirst' x hx)]
                have hself : (a :: left).countP (fun c => decide (f a < f c)) ≤ left.length := by
                  rw [List.countP_cons, if_neg (by simp)]
                  exact List.countP_le_length
                have hcover : cover f g (fun x => decide (f a < x)) (a :: left) (b :: right) ≤
                    left.length := by
                  unfold cover
                  rw [hnone]
                  exact hself
                unfold cover at hle
                rw [hall] at hle
                omega
            · refine ⟨u, hu, ?_⟩
              unfold cover at hle ⊢
              rw [List.countP_cons, if_neg ha]
              exact hle

/-- **The sweep over sorted lists is a largest matching.** -/
theorem length_le_sweep (hleft : left.Pairwise fun a a' => f a ≤ f a')
    (hright : right.Pairwise fun b b' => g b ≤ g b') (h : IsMatching (within f g) left right pairs) :
    pairs.length ≤ (sweep f g left right).length := by
  obtain ⟨u, hu, hle⟩ := exists_cover_le hleft hright
  exact (length_le_cover hu h).trans hle

end Matching
