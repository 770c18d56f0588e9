/-
Calls that raise: a guard that raises, and the rest of the call.

A call that returned passed every guard on its way, and a loop that returned keeps what each
round of it keeps.
-/
import Mathlib.Tactic

namespace Py

/-- `l[i]`: a negative index counts from the end. -/
def index {α : Type} (l : List α) (i : Int) : Except String α :=
  let place := if i < 0 then i + l.length else i
  if place < 0 then .error "IndexError"
  else
    match l[place.toNat]? with
    | some x => .ok x
    | none => .error "IndexError"

/-- The `k`-th element. -/
theorem index_natCast {α : Type} {l : List α} {k : Nat} {x : α} (h : l[k]? = some x) :
    index l k = .ok x := by
  unfold index
  have hnonneg : ¬ (k : Int) < 0 := by omega
  rw [if_neg hnonneg]
  dsimp only
  rw [if_neg hnonneg, Int.toNat_natCast, h]

variable {ε α : Type} {e : ε} {x : Except ε α} {r : α}

/-- A call that returned passed its guard. -/
theorem ok_of_guard {c : Prop} [Decidable c] (h : (if c then .error e else x) = .ok r) :
    ¬ c ∧ x = .ok r := by
  by_cases hc : c
  · rw [if_pos hc] at h
    cases h
  · rw [if_neg hc] at h
    exact ⟨hc, h⟩

/-- A call that returned got past each call it made. -/
theorem ok_of_bind {β : Type} {x : Except ε α} {f : α → Except ε β} {b : β}
    (h : (x >>= f) = .ok b) : ∃ a, x = .ok a ∧ f a = .ok b := by
  cases x with
  | error e => cases h
  | ok a => exact ⟨a, rfl, h⟩

/-- A call that raised did so in one of the calls it made. -/
theorem error_of_bind {β : Type} {x : Except ε α} {f : α → Except ε β}
    (h : (x >>= f) = .error e) : x = .error e ∨ ∃ a, x = .ok a ∧ f a = .error e := by
  cases x with
  | error e' =>
      cases h
      exact Or.inl rfl
  | ok a => exact Or.inr ⟨a, rfl, h⟩

/-- A call that returns exactly when a condition holds, and what holds of its result. -/
def ReturnsIff (x : Except ε α) (c : Prop) (post : α → Prop) : Prop :=
  match x with
  | .ok a => c ∧ post a
  | .error _ => ¬ c

section ReturnsIff

variable {β : Type} {c c' : Prop} {post post' : α → Prop}

theorem ReturnsIff.congr (h : ReturnsIff x c post) (hc : c ↔ c') (hpost : ∀ a, post a → post' a) :
    ReturnsIff x c' post' := by
  cases x with
  | ok a => exact ⟨hc.mp h.1, hpost a h.2⟩
  | error e => exact fun hc' => h (hc.mpr hc')

/-- Two calls in a row return when both do. -/
theorem ReturnsIff.bind {f : α → Except ε β} {after : β → Prop} (h : ReturnsIff x c post)
    (hf : ∀ a, c → post a → ReturnsIff (f a) c' after) : ReturnsIff (x >>= f) (c ∧ c') after := by
  cases x with
  | error e => exact fun hboth => h hboth.1
  | ok a =>
      have hrest := hf a h.1 h.2
      show ReturnsIff (f a) (c ∧ c') after
      cases hfa : f a with
      | ok b =>
          rw [hfa] at hrest
          exact ⟨⟨h.1, hrest.1⟩, hrest.2⟩
      | error e =>
          rw [hfa] at hrest
          exact fun hboth => hrest hboth.2

/-- A call whose result is wrapped. -/
theorem ReturnsIff.map {f : α → β} {after : β → Prop} (h : ReturnsIff x c post)
    (hf : ∀ a, post a → after (f a)) : ReturnsIff (x >>= fun a => pure (f a)) c after := by
  cases x with
  | ok a => exact ⟨h.1, hf a h.2⟩
  | error e => exact h

theorem ReturnsIff.isOk_iff (h : ReturnsIff x c post) : (∃ a, x = .ok a) ↔ c := by
  cases x with
  | ok a => exact ⟨fun _ => h.1, fun _ => ⟨a, rfl⟩⟩
  | error e =>
      constructor
      · rintro ⟨a, ha⟩
        cases ha
      · exact fun hc => absurd hc h

end ReturnsIff

variable {β σ : Type}

/-- What every round of a loop keeps holds after the loop. -/
theorem foldlM_keeps {f : σ → β → Except ε σ} {P : σ → Prop} : ∀ (l : List β) {s t : σ},
    (∀ x ∈ l, ∀ s t, P s → f s x = .ok t → P t) → P s → l.foldlM f s = .ok t → P t := by
  intro l
  induction l with
  | nil =>
      intro s t _ hs h
      cases h
      exact hs
  | cons x rest ih =>
      intro s t hstep hs h
      rw [List.foldlM_cons] at h
      obtain ⟨u, hu, h⟩ := ok_of_bind h
      exact ih (fun y hy => hstep y (List.mem_cons_of_mem _ hy))
        (hstep x List.mem_cons_self _ _ hs hu) h

/-- A loop returns when each of its rounds does, on a budget that covers them all. -/
theorem foldlM_returns {f : σ → β → Except ε σ} {P : Nat → σ → Prop} {weight : β → Nat} {K : Nat} :
    ∀ (l : List β) {k : Nat} {s : σ},
      (∀ x ∈ l, ∀ k s, P k s → k + weight x ≤ K → ∃ t, f s x = .ok t ∧ P (k + weight x) t) →
      P k s → k + (l.map weight).sum ≤ K →
      ∃ t, l.foldlM f s = .ok t ∧ P (k + (l.map weight).sum) t := by
  intro l
  induction l with
  | nil =>
      intro k s _ hs _
      exact ⟨s, rfl, hs⟩
  | cons x rest ih =>
      intro k s hstep hs hbudget
      rw [List.map_cons, List.sum_cons] at hbudget ⊢
      obtain ⟨t, ht, hP⟩ := hstep x List.mem_cons_self k s hs (by omega)
      obtain ⟨u, hu, hPu⟩ := ih (fun y hy => hstep y (List.mem_cons_of_mem _ hy)) hP (by omega)
      refine ⟨u, ?_, ?_⟩
      · rw [List.foldlM_cons, ht]
        exact hu
      · rw [← Nat.add_assoc]
        exact hPu

/-- A loop returns exactly when each of its rounds does, on the state that the rounds before it
    lead to. -/
theorem foldlM_returnsIff {f : σ → β → Except ε σ} (I : σ → Prop) (fits : σ → List β → Prop)
    (leads : List β → σ → σ → Prop) (hnil : ∀ s, fits s [] ∧ leads [] s s)
    (hhead : ∀ x xs s, fits s (x :: xs) → fits s [x])
    (hcons : ∀ x xs s t, leads [x] s t →
      ((fits s [x] ∧ fits t xs ↔ fits s (x :: xs)) ∧ ∀ u, leads xs t u → leads (x :: xs) s u)) :
    ∀ (l : List β) {s : σ},
      (∀ x ∈ l, ∀ s, I s → ReturnsIff (f s x) (fits s [x]) fun t => leads [x] s t ∧ I t) → I s →
      ReturnsIff (l.foldlM f s) (fits s l) fun t => leads l s t ∧ I t := by
  intro l
  induction l with
  | nil =>
      intro s _ hs
      exact ⟨(hnil s).1, (hnil s).2, hs⟩
  | cons x rest ih =>
      intro s hstep hs
      have hfirst := hstep x List.mem_cons_self s hs
      rw [List.foldlM_cons]
      cases hx : f s x with
      | error e =>
          rw [hx] at hfirst
          exact fun hfits => hfirst (hhead x rest s hfits)
      | ok t =>
          rw [hx] at hfirst
          obtain ⟨hfit, hleads, ht⟩ := hfirst
          obtain ⟨hiff, hnext⟩ := hcons x rest s t hleads
          have hrest := ih (fun y hy => hstep y (List.mem_cons_of_mem _ hy)) ht
          exact hrest.congr ⟨fun h => hiff.mp ⟨hfit, h⟩, fun h => (hiff.mpr h).2⟩
            fun u hu => ⟨hnext u hu.1, hu.2⟩

/-- A loop that raised did so in one of its rounds. -/
theorem error_of_foldlM {f : σ → β → Except ε σ} : ∀ (l : List β) {s : σ},
    l.foldlM f s = .error e → ∃ t, ∃ x ∈ l, f t x = .error e := by
  intro l
  induction l with
  | nil =>
      intro s h
      cases h
  | cons x rest ih =>
      intro s h
      rw [List.foldlM_cons] at h
      rcases error_of_bind h with h | ⟨u, _, h⟩
      · exact ⟨s, x, List.mem_cons_self, h⟩
      · obtain ⟨t, y, hy, hty⟩ := ih h
        exact ⟨t, y, List.mem_cons_of_mem _ hy, hty⟩

/-- A field of the results that each call takes from its argument. -/
theorem map_of_mapM {γ : Type} {f : β → Except ε α} {p : α → γ} {q : β → γ}
    (hfield : ∀ x y, f x = .ok y → p y = q x) :
    ∀ (l : List β) {ys : List α}, l.mapM f = .ok ys → ys.map p = l.map q := by
  intro l
  induction l with
  | nil =>
      intro ys h
      cases h
      rfl
  | cons x rest ih =>
      intro ys h
      rw [List.mapM_cons] at h
      obtain ⟨a, ha, h⟩ := ok_of_bind h
      obtain ⟨as, has, h⟩ := ok_of_bind h
      cases h
      rw [List.map_cons, List.map_cons, hfield x a ha, ih has]

/-- A map that returned computed a plain map, when each of its calls does. -/
theorem mapM_eq_map {f : β → Except ε α} {g : β → α} (hfg : ∀ x y, f x = .ok y → y = g x)
    (l : List β) {ys : List α} (h : l.mapM f = .ok ys) : ys = l.map g := by
  have hfield := map_of_mapM (p := id) (q := g) hfg l h
  rwa [List.map_id] at hfield

/-- A map of calls that give their arguments back. -/
theorem mapM_ok_self {f : α → Except ε α} : ∀ l : List α, (∀ x ∈ l, f x = .ok x) →
    l.mapM f = .ok l := by
  intro l
  induction l with
  | nil =>
      intro _
      rfl
  | cons x rest ih =>
      intro h
      rw [List.mapM_cons, h x List.mem_cons_self,
        ih fun y hy => h y (List.mem_cons_of_mem _ hy)]
      rfl

/-- The results of a map that returned come from the elements. -/
theorem mem_of_mapM {f : β → Except ε α} : ∀ (l : List β) {ys : List α}, l.mapM f = .ok ys →
    ∀ y ∈ ys, ∃ x ∈ l, f x = .ok y := by
  intro l
  induction l with
  | nil =>
      intro ys h
      cases h
      simp
  | cons x rest ih =>
      intro ys h
      rw [List.mapM_cons] at h
      obtain ⟨a, ha, h⟩ := ok_of_bind h
      obtain ⟨as, has, h⟩ := ok_of_bind h
      cases h
      intro y hy
      rcases List.mem_cons.mp hy with rfl | hy
      · exact ⟨x, List.mem_cons_self, ha⟩
      · obtain ⟨z, hz, hzy⟩ := ih has y hy
        exact ⟨z, List.mem_cons_of_mem _ hz, hzy⟩

/-- A step of the optional kind, of a call that may raise. -/
theorem ok_of_toOption {x : Except ε α} {a : α} (h : x.toOption = some a) : x = .ok a := by
  cases x with
  | error e => cases h
  | ok b => exact congrArg _ (Option.some.inj h)

end Py
