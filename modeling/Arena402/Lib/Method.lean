/-
Methods that write in place and may raise.

What a method wrote before it raised stays written, so that a call which raises can leave
its object changed.  The lemmas run a method one statement at a time; a method whose checks
all stand before its writes is `Atomic`.
-/
import Mathlib.Tactic

namespace Py

/-- A method of an object `σ`, which may raise with a message. -/
abbrev Method (σ α : Type) := EStateM String σ α

namespace Method

variable {σ α β : Type}

/-- A call of a function that raises and does not write. -/
def check (x : Except String α) : Method σ α := fun s =>
  match x with
  | .ok a => .ok a s
  | .error e => .error e s

/-- A call of a method of an object that is held in a field. -/
def onField {τ : Type} (field : σ → τ) (write : σ → τ → σ) (m : Method τ α) : Method σ α :=
  fun s =>
    match m.run (field s) with
    | .ok a t => .ok a (write s t)
    | .error e t => .error e (write s t)

/-- The object after a call, whether it raised or not. -/
def after (m : Method σ α) (s : σ) : σ :=
  match m.run s with
  | .ok _ t => t
  | .error _ t => t

/-- What a call gave back. -/
def result (m : Method σ α) (s : σ) : Except String α :=
  match m.run s with
  | .ok a _ => .ok a
  | .error e _ => .error e

/-- A call that raises leaves the object as it was. -/
def Atomic (m : Method σ α) (s : σ) : Prop :=
  ∀ e t, m.run s = .error e t → t = s

@[simp] theorem run_pure (a : α) (s : σ) : (pure a : Method σ α).run s = .ok a s := rfl

@[simp] theorem run_throw (e : String) (s : σ) : (throw e : Method σ α).run s = .error e s := rfl

@[simp] theorem run_get_bind (f : σ → Method σ β) (s : σ) : (get >>= f).run s = (f s).run s := rfl

@[simp] theorem run_modify_bind (g : σ → σ) (f : PUnit → Method σ β) (s : σ) :
    (modify g >>= f).run s = (f ()).run (g s) := rfl

theorem run_onField {τ : Type} (field : σ → τ) (write : σ → τ → σ) (m : Method τ α) (s : σ) :
    (onField field write m).run s =
      match m.run (field s) with
      | .ok a t => .ok a (write s t)
      | .error e t => .error e (write s t) := rfl

@[simp] theorem run_check (x : Except String α) (s : σ) :
    (check x : Method σ α).run s =
      match x with
      | .ok a => .ok a s
      | .error e => .error e s := rfl

@[simp] theorem run_check_bind (x : Except String α) (f : α → Method σ β) (s : σ) :
    (check x >>= f).run s =
      match x with
      | .ok a => (f a).run s
      | .error e => .error e s := by
  cases x with
  | ok a => rfl
  | error e => rfl

@[simp] theorem run_ite (c : Prop) [Decidable c] (m m' : Method σ α) (s : σ) :
    (if c then m else m').run s = if c then m.run s else m'.run s := by
  split
  · rfl
  · rfl

theorem run_bind (m : Method σ α) (f : α → Method σ β) (s : σ) :
    (m >>= f).run s =
      match m.run s with
      | .ok a t => (f a).run t
      | .error e t => .error e t := by
  show EStateM.bind m f s = _
  unfold EStateM.bind EStateM.run
  cases m s with
  | ok a t => rfl
  | error e t => rfl

/-- A call whose value is dropped. -/
theorem run_drop (m : Method σ α) (s : σ) :
    (m >>= fun _ => pure ()).run s =
      match m.run s with
      | .ok _ t => .ok () t
      | .error e t => .error e t := by
  show EStateM.bind m (fun _ => pure ()) s = _
  unfold EStateM.bind EStateM.run
  cases m s with
  | ok a t => rfl
  | error e t => rfl

theorem after_drop (m : Method σ α) (s : σ) : (m >>= fun _ => pure ()).after s = m.after s := by
  unfold after
  rw [run_drop]
  cases m.run s with
  | ok a t => rfl
  | error e t => rfl

theorem Atomic.drop {m : Method σ α} {s : σ} (h : m.Atomic s) :
    Atomic (m >>= fun _ => pure () : Method σ Unit) s := by
  intro e t hraise
  rw [run_drop] at hraise
  cases hm : m.run s with
  | ok a u =>
      rw [hm] at hraise
      cases hraise
  | error e' u =>
      rw [hm] at hraise
      cases hraise
      exact h _ _ hm

/-! ### A method and the function it computes

A function of the object gives back the new object with the value, or the error with the
object that is left behind.  The rules follow the two programs side by side.
-/

/-- A method does to the object what a function says. -/
def Computes (m : Method σ α) (s : σ) (x : Except (String × σ) (σ × α)) : Prop :=
  m.run s = match x with
    | .ok (t, a) => .ok a t
    | .error (e, t) => .error e t

theorem Computes.pure (a : α) (s : σ) : Computes (Pure.pure a) s (.ok (s, a)) := rfl

theorem Computes.throw (e : String) (s : σ) :
    Computes (MonadExcept.throw e : Method σ α) s (.error (e, s)) := rfl

theorem Computes.get {f : σ → Method σ α} {s : σ} {x : Except (String × σ) (σ × α)}
    (h : (f s).Computes s x) : Computes (MonadState.get >>= f) s x := h

theorem Computes.modify {g : σ → σ} {f : PUnit → Method σ α} {s : σ}
    {x : Except (String × σ) (σ × α)} (h : (f ()).Computes (g s) x) :
    Computes (modifyThe σ g >>= f) s x := h

/-- A call that returned, and the rest of the method. -/
theorem Computes.bind {m : Method σ β} {f : β → Method σ α} {s t : σ} {b : β}
    {x : Except (String × σ) (σ × α)} (hm : m.run s = .ok b t) (h : (f b).Computes t x) :
    Computes (m >>= f) s x := by
  have hbind : (m >>= f).run s = (f b).run t := by
    show EStateM.bind m f s = _
    unfold EStateM.bind
    rw [show m s = .ok b t from hm]
    rfl
  unfold Computes
  rw [hbind]
  exact h

theorem Computes.ite {c : Prop} [Decidable c] {m m' : Method σ α} {s : σ}
    {x x' : Except (String × σ) (σ × α)} (hpos : c → m.Computes s x)
    (hneg : ¬ c → m'.Computes s x') :
    Computes (if c then m else m') s (if c then x else x') := by
  by_cases hc : c
  · rw [if_pos hc, if_pos hc]
    exact hpos hc
  · rw [if_neg hc, if_neg hc]
    exact hneg hc

/-- A check that raises leaves the object as it is. -/
theorem Computes.check {x : Except String β} {f : β → Method σ α} {s : σ}
    {g : β → Except (String × σ) (σ × α)} (h : ∀ b, x = .ok b → (f b).Computes s (g b)) :
    Computes (Method.check x >>= f) s (x.mapError (fun e => (e, s)) >>= g) := by
  cases x with
  | error e => rfl
  | ok b => exact h b rfl

/-- A method whose value is wrapped. -/
theorem Computes.map {m : Method σ α} {s : σ} {x : Except (String × σ) (σ × α)}
    (h : m.Computes s x) (f : α → β) :
    Computes (m >>= fun a => Pure.pure (f a)) s (x >>= fun r => .ok (r.1, f r.2)) := by
  cases x with
  | ok r => exact Computes.bind h rfl
  | error e =>
      show EStateM.bind m _ s = _
      unfold EStateM.bind
      rw [show m s = .error e.1 e.2 from h]
      rfl

end Method

end Py
