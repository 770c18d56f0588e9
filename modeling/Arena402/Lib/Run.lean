/-
Runs of a transition system.

A system is a function `step : σ → ε → Option σ`: the event `e` can happen in `s` when
`step s e` is a state.  A run is any number of such steps, each of which also meets a
condition `ok` on the state before it and the event.  Taking `ok` to be always true gives
every run; a stronger `ok` gives the runs of a more careful environment.
-/
import Mathlib.Tactic

namespace Trans

variable {σ ε : Type} {step : σ → ε → Option σ} {ok : σ → ε → Prop} {s t : σ}

/-- The states that a run from `s` reaches. -/
inductive Run (step : σ → ε → Option σ) (ok : σ → ε → Prop) (s : σ) : σ → Prop
  | refl : Run step ok s s
  | tail {t u : σ} {e : ε} :
      Run step ok s t → ok t e → step t e = some u → Run step ok s u

/-- What holds at the start and is kept by every allowed step holds in every state of a
    run. -/
theorem Run.invariant {I : σ → Prop} (h0 : I s)
    (hstep : ∀ t e u, I t → ok t e → step t e = some u → I u) (hr : Run step ok s t) : I t := by
  induction hr with
  | refl => exact h0
  | tail _ hok hs ih => exact hstep _ _ _ ih hok hs

theorem Run.trans {u : σ} (hst : Run step ok s t) (htu : Run step ok t u) : Run step ok s u := by
  induction htu with
  | refl => exact hst
  | tail _ hok hs ih => exact ih.tail hok hs

/-- A more careful run is a run. -/
theorem Run.mono {ok' : σ → ε → Prop} (h : ∀ s e, ok s e → ok' s e) (hr : Run step ok s t) :
    Run step ok' s t := by
  induction hr with
  | refl => exact Run.refl
  | tail _ hok hs ih => exact ih.tail (h _ _ hok) hs

/-- Along a run, an invariant may show that its steps meet another condition. -/
theorem Run.mono_of_invariant {ok' : σ → ε → Prop} {I : σ → Prop} (h0 : I s)
    (hstep : ∀ t e u, I t → ok t e → step t e = some u → I u)
    (h : ∀ s e, I s → ok s e → ok' s e) (hr : Run step ok s t) : Run step ok' s t := by
  induction hr with
  | refl => exact Run.refl
  | tail hrun hok hs ih => exact ih.tail (h _ _ (hrun.invariant h0 hstep) hok) hs

/-- The state after a schedule, when every event of it can happen and is allowed. -/
def exec (step : σ → ε → Option σ) (ok : σ → ε → Prop) [∀ s e, Decidable (ok s e)] :
    σ → List ε → Option σ
  | s, [] => some s
  | s, e :: es => if ok s e then (step s e).bind fun t => exec step ok t es else none

theorem exec_append [∀ s e, Decidable (ok s e)] : ∀ (es es' : List ε) (s : σ),
    exec step ok s (es ++ es') = (exec step ok s es).bind fun t => exec step ok t es' := by
  intro es es'
  induction es with
  | nil =>
      intro s
      rfl
  | cons e rest ih =>
      intro s
      rw [List.cons_append, exec, exec]
      by_cases hok : ok s e
      · rw [if_pos hok, if_pos hok, Option.bind_assoc]
        congr 1
        funext t
        exact ih t
      · rw [if_neg hok, if_neg hok]
        rfl

/-- A schedule is a run. -/
theorem run_of_exec [∀ s e, Decidable (ok s e)] : ∀ (es : List ε) {s t : σ},
    exec step ok s es = some t → Run step ok s t := by
  intro es
  induction es with
  | nil =>
      intro s t h
      obtain rfl : s = t := by simpa [exec] using h
      exact Run.refl
  | cons e rest ih =>
      intro s t h
      rw [exec] at h
      by_cases hok : ok s e
      · rw [if_pos hok] at h
        obtain ⟨u, hu, hrest⟩ := Option.bind_eq_some_iff.mp h
        exact (Run.refl.tail hok hu).trans (ih hrest)
      · rw [if_neg hok] at h
        cases h

end Trans
