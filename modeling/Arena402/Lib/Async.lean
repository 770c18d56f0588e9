/-
Coroutines that share a state.

A coroutine is a tree of calls: each call is one atomic action, whose reply or exception
the rest of the coroutine goes on from.  A pool runs any number of them, one action at a
time and in any order, so that every await is a point where another coroutine can run.

To reason about one coroutine inside a pool, `Wp` follows its calls.  Before each call the
others may have moved the shared state along `rely`; the call has to keep the invariant
and to move the state along the `rely` of every other coroutine.  `run_safe` puts the
coroutines of a pool together.
-/
import Arena402.Lib.Run

namespace Async

open Trans

/-- A coroutine over the actions `Act`. -/
inductive Prog (Act : Type) (Reply : Act → Type) (Err α : Type) : Type
  | ret (value : α)
  | raise (error : Err)
  | call (act : Act) (next : Except Err (Reply act) → Prog Act Reply Err α)

variable {Act : Type} {Reply : Act → Type} {Err α β : Type}

namespace Prog

/-- `await x`, then `f`. -/
def bind (x : Prog Act Reply Err α) (f : α → Prog Act Reply Err β) : Prog Act Reply Err β :=
  match x with
  | ret value => f value
  | raise error => raise error
  | call act next => call act fun reply => (next reply).bind f

instance : Monad (Prog Act Reply Err) where
  pure := ret
  bind := bind

/-- One action; what it raises, the coroutine raises. -/
def perform (act : Act) : Prog Act Reply Err (Reply act) :=
  call act fun reply =>
    match reply with
    | .ok value => ret value
    | .error error => raise error

/-- `try: x`, with the exception as a value. -/
def attempt (x : Prog Act Reply Err α) : Prog Act Reply Err (Except Err α) :=
  match x with
  | ret value => ret (.ok value)
  | raise error => ret (.error error)
  | call act next => call act fun reply => (next reply).attempt

/-- `x` and then the cleanup `last`, also when `x` raises. -/
def ensuring (x : Prog Act Reply Err α) (last : Prog Act Reply Err Unit) : Prog Act Reply Err α := do
  match ← x.attempt with
  | .ok value =>
      last
      return value
  | .error error =>
      last
      raise error

end Prog

/-! ### Pools -/

/-- What an action does to the shared state when coroutine `task` performs it; `none` when
    it has to wait. -/
abbrev Semantics (Act : Type) (Reply : Act → Type) (Err σ ε : Type) :=
  σ → ε → Nat → (act : Act) → Option (σ × Except Err (Reply act))

/-- The shared state and the coroutines that were started, by number. -/
structure Pool (Act : Type) (Reply : Act → Type) (Err σ α : Type) where
  shared : σ
  tasks : List (Prog Act Reply Err α)

/-- A pool moves when a coroutine is started or performs its next action. -/
inductive Event (Op ε : Type)
  | spawn (op : Op)
  | advance (task : Nat) (choice : ε)
deriving Repr

variable {σ ε Op : Type}

/-- One step of a pool. -/
def Pool.step (run : Semantics Act Reply Err σ ε) (program : Op → Prog Act Reply Err α)
    (w : Pool Act Reply Err σ α) : Event Op ε → Option (Pool Act Reply Err σ α)
  | .spawn op => some { w with tasks := w.tasks ++ [program op] }
  | .advance task choice =>
      match w.tasks[task]? with
      | some (.call act next) =>
          match run w.shared choice task act with
          | some (shared, reply) => some { shared, tasks := w.tasks.set task (next reply) }
          | none => none
      | _ => none

/-- The steps that start allowed operations and perform allowed actions. -/
def Pool.Allowed (okOp : Op → Prop) (okAct : σ → ε → Nat → Act → Prop)
    (w : Pool Act Reply Err σ α) : Event Op ε → Prop
  | .spawn op => okOp op
  | .advance task choice =>
      ∀ act next, w.tasks[task]? = some (.call act next) → okAct w.shared choice task act

instance Pool.decidableAllowed {okOp : Op → Prop} {okAct : σ → ε → Nat → Act → Prop}
    [DecidablePred okOp] [∀ s choice task act, Decidable (okAct s choice task act)]
    (w : Pool Act Reply Err σ α) : DecidablePred (Pool.Allowed okOp okAct w)
  | .spawn op => inferInstanceAs (Decidable (okOp op))
  | .advance task choice =>
      match h : w.tasks[task]? with
      | some (.call act next) =>
          decidable_of_iff (okAct w.shared choice task act)
            ⟨fun hok act' next' h' => by
              obtain ⟨rfl, -⟩ := Prog.call.inj (Option.some.inj (h.symm.trans h'))
              exact hok,
            fun hok => hok act next h⟩
      | some (.ret value) => .isTrue fun act next h' => by simp [h] at h'
      | some (.raise error) => .isTrue fun act next h' => by simp [h] at h'
      | none => .isTrue fun act next h' => by simp [h] at h'

/-! ### One coroutine among others -/

/-- An invariant of the shared state, and for each coroutine what the others may do to it. -/
structure Discipline (σ : Type) where
  inv : σ → Prop
  rely : Nat → σ → σ → Prop
  refl : ∀ task s, rely task s s
  trans : ∀ task s t u, rely task s t → rely task t u → rely task s u

variable (run : Semantics Act Reply Err σ ε) (okAct : σ → ε → Nat → Act → Prop)
  (D : Discipline σ)

/-- From `s` on, coroutine `task` keeps the discipline, and ends in `post` or raises in
    `exc`. -/
def Wp (task : Nat) (post : α → σ → Prop) (exc : Err → σ → Prop) :
    Prog Act Reply Err α → σ → Prop
  | .ret value, s => post value s
  | .raise error, s => exc error s
  | .call act next, s =>
      ∀ s₁, D.rely task s s₁ → D.inv s₁ → ∀ choice s₂ reply, okAct s₁ choice task act →
        run s₁ choice task act = some (s₂, reply) →
        D.inv s₂ ∧ (∀ other, other ≠ task → D.rely other s₁ s₂) ∧
          Wp task post exc (next reply) s₂

variable {run okAct D} {task : Nat} {post : α → σ → Prop} {exc : Err → σ → Prop}

theorem Wp.bind {x : Prog Act Reply Err α} {f : α → Prog Act Reply Err β}
    {postβ : β → σ → Prop} :
    ∀ {s : σ}, Wp run okAct D task (fun a t => Wp run okAct D task postβ exc (f a) t) exc x s →
      Wp run okAct D task postβ exc (x >>= f) s := by
  induction x with
  | ret value => exact id
  | raise error => exact id
  | call act next ih =>
      intro s h s₁ hrely hinv choice s₂ reply hok hrun
      obtain ⟨hinv₂, hothers, hnext⟩ := h s₁ hrely hinv choice s₂ reply hok hrun
      exact ⟨hinv₂, hothers, ih reply hnext⟩

theorem Wp.attempt {x : Prog Act Reply Err α} {post : Except Err α → σ → Prop}
    {exc : Err → σ → Prop} :
    ∀ {s : σ}, Wp run okAct D task (fun a t => post (.ok a) t) (fun e t => post (.error e) t) x s →
      Wp run okAct D task post exc x.attempt s := by
  induction x with
  | ret value => exact id
  | raise error => exact id
  | call act next ih =>
      intro s h s₁ hrely hinv choice s₂ reply hok hrun
      obtain ⟨hinv₂, hothers, hnext⟩ := h s₁ hrely hinv choice s₂ reply hok hrun
      exact ⟨hinv₂, hothers, ih reply hnext⟩

theorem Wp.mono {x : Prog Act Reply Err α} {post' : α → σ → Prop} {exc' : Err → σ → Prop}
    (hpost : ∀ a s, post a s → post' a s) (hexc : ∀ e s, exc e s → exc' e s) :
    ∀ {s : σ}, Wp run okAct D task post exc x s → Wp run okAct D task post' exc' x s := by
  induction x with
  | ret value => exact hpost value _
  | raise error => exact hexc error _
  | call act next ih =>
      intro s h s₁ hrely hinv choice s₂ reply hok hrun
      obtain ⟨hinv₂, hothers, hnext⟩ := h s₁ hrely hinv choice s₂ reply hok hrun
      exact ⟨hinv₂, hothers, ih reply hnext⟩

/-- One action, from what it does whenever it is performed. -/
theorem Wp.perform {act : Act} {post : Reply act → σ → Prop} {s : σ}
    (h : ∀ s₁, D.rely task s s₁ → D.inv s₁ → ∀ choice s₂ reply, okAct s₁ choice task act →
      run s₁ choice task act = some (s₂, reply) →
      D.inv s₂ ∧ (∀ other, other ≠ task → D.rely other s₁ s₂) ∧
        match reply with
        | .ok value => post value s₂
        | .error error => exc error s₂) :
    Wp run okAct D task post exc (Prog.perform act) s := by
  intro s₁ hrely hinv choice s₂ reply hok hrun
  obtain ⟨hinv₂, hothers, hreply⟩ := h s₁ hrely hinv choice s₂ reply hok hrun
  refine ⟨hinv₂, hothers, ?_⟩
  cases reply with
  | ok value => exact hreply
  | error error => exact hreply

/-- An action that anyone may perform at any time. -/
def Harmless (run : Semantics Act Reply Err σ ε) (okAct : σ → ε → Nat → Act → Prop)
    (D : Discipline σ) (act : Act) : Prop :=
  ∀ task s choice s' reply, D.inv s → okAct s choice task act →
    run s choice task act = some (s', reply) →
    D.inv s' ∧ ∀ other, other ≠ task → D.rely other s s'

/-- Every action of the coroutine is one of `good`. -/
def Prog.Within (good : Act → Prop) : Prog Act Reply Err α → Prop
  | .ret _ => True
  | .raise _ => True
  | .call act next => good act ∧ ∀ reply, (next reply).Within good

namespace Prog.Within

variable {good : Act → Prop}

theorem bind {x : Prog Act Reply Err α} {f : α → Prog Act Reply Err β} (hx : x.Within good)
    (hf : ∀ a, (f a).Within good) : (x >>= f).Within good := by
  induction x with
  | ret value => exact hf value
  | raise error => trivial
  | call act next ih => exact ⟨hx.1, fun reply => ih reply (hx.2 reply)⟩

theorem mono {good' : Act → Prop} {x : Prog Act Reply Err α} (h : ∀ act, good act → good' act)
    (hx : x.Within good) : x.Within good' := by
  induction x with
  | ret value => trivial
  | raise error => trivial
  | call act next ih => exact ⟨h act hx.1, fun reply => ih reply (hx.2 reply)⟩

theorem attempt {x : Prog Act Reply Err α} (hx : x.Within good) : x.attempt.Within good := by
  induction x with
  | ret value => trivial
  | raise error => trivial
  | call act next ih => exact ⟨hx.1, fun reply => ih reply (hx.2 reply)⟩

theorem perform {act : Act} (h : good act) :
    (Prog.perform act : Prog Act Reply Err (Reply act)).Within good := by
  refine ⟨h, ?_⟩
  intro reply
  cases reply <;> trivial

theorem ensuring {x : Prog Act Reply Err α} {last : Prog Act Reply Err Unit} (hx : x.Within good)
    (hlast : last.Within good) : (x.ensuring last).Within good := by
  refine bind (attempt hx) ?_
  intro result
  cases result with
  | ok value => exact bind hlast fun _ => trivial
  | error error => exact bind hlast fun _ => trivial

end Prog.Within

/-- Every action of the coroutine is one of `good`, and what it returns is one of `fine`. -/
def Prog.Yields (good : Act → Prop) (fine : α → Prop) : Prog Act Reply Err α → Prop
  | .ret value => fine value
  | .raise _ => True
  | .call act next => good act ∧ ∀ reply, (next reply).Yields good fine

theorem Prog.Within.yields {good : Act → Prop} {fine : α → Prop} {x : Prog Act Reply Err β}
    {f : β → Prog Act Reply Err α} (hx : x.Within good) (hf : ∀ b, (f b).Yields good fine) :
    (x >>= f).Yields good fine := by
  induction x with
  | ret value => exact hf value
  | raise error => trivial
  | call act next ih => exact ⟨hx.1, fun reply => ih reply (hx.2 reply)⟩

/-- A coroutine of harmless actions keeps the discipline. -/
theorem Wp.of_within {good : Act → Prop} (hgood : ∀ act, good act → Harmless run okAct D act)
    {x : Prog Act Reply Err α} :
    ∀ {s : σ}, x.Within good →
      Wp run okAct D task (fun _ _ => True) (fun _ _ => True) x s := by
  induction x with
  | ret value => exact fun _ => trivial
  | raise error => exact fun _ => trivial
  | call act next ih =>
      intro s h s₁ _ hinv choice s₂ reply hok hrun
      obtain ⟨hinv₂, hothers⟩ := hgood act h.1 task s₁ choice s₂ reply hinv hok hrun
      exact ⟨hinv₂, hothers, ih reply (h.2 reply)⟩

/-- From any state on, coroutine `task` keeps the discipline. -/
def Keeps (run : Semantics Act Reply Err σ ε) (okAct : σ → ε → Nat → Act → Prop)
    (D : Discipline σ) (task : Nat) (x : Prog Act Reply Err α) : Prop :=
  ∀ s, Wp run okAct D task (fun _ _ => True) (fun _ _ => True) x s

namespace Keeps

variable {x : Prog Act Reply Err α}

theorem ret (value : α) : Keeps run okAct D task (.ret value : Prog Act Reply Err α) :=
  fun _ => trivial

theorem raise (error : Err) : Keeps run okAct D task (.raise error : Prog Act Reply Err α) :=
  fun _ => trivial

theorem bind {f : α → Prog Act Reply Err β} (hx : Keeps run okAct D task x)
    (hf : ∀ a, Keeps run okAct D task (f a)) : Keeps run okAct D task (x >>= f) :=
  fun s => Wp.bind (Wp.mono (fun a t _ => hf a t) (fun _ _ h => h) (hx s))

theorem attempt (hx : Keeps run okAct D task x) : Keeps run okAct D task x.attempt :=
  fun s => Wp.attempt (hx s)

theorem ensuring {last : Prog Act Reply Err Unit} (hx : Keeps run okAct D task x)
    (hlast : Keeps run okAct D task last) : Keeps run okAct D task (x.ensuring last) := by
  refine bind hx.attempt ?_
  intro result
  cases result with
  | ok value => exact hlast.bind fun _ => ret value
  | error error => exact hlast.bind fun _ => raise error

theorem of_within {good : Act → Prop} (hgood : ∀ act, good act → Harmless run okAct D act)
    (h : x.Within good) : Keeps run okAct D task x :=
  fun _ => Wp.of_within hgood h

end Keeps

/-- An action that moves the shared state along every `rely`, its own coroutine's too. -/
def Quiet (run : Semantics Act Reply Err σ ε) (okAct : σ → ε → Nat → Act → Prop)
    (D : Discipline σ) (act : Act) : Prop :=
  ∀ task s choice s' reply, D.inv s → okAct s choice task act →
    run s choice task act = some (s', reply) → D.inv s' ∧ ∀ other, D.rely other s s'

theorem Quiet.harmless {act : Act} (h : Quiet run okAct D act) : Harmless run okAct D act := by
  intro task s choice s' reply hinv hok hrun
  obtain ⟨hinv', hrely⟩ := h task s choice s' reply hinv hok hrun
  exact ⟨hinv', fun other _ => hrely other⟩

/-- What the others leave true, a coroutine of quiet actions leaves true. -/
theorem Wp.of_quiet {good : Act → Prop} (hgood : ∀ act, good act → Quiet run okAct D act)
    {P : σ → Prop} (hstable : ∀ s t, D.rely task s t → P s → P t) {x : Prog Act Reply Err α} :
    ∀ {s : σ}, x.Within good → P s →
      Wp run okAct D task (fun _ t => P t) (fun _ t => P t) x s := by
  induction x with
  | ret value => exact fun _ hP => hP
  | raise error => exact fun _ hP => hP
  | call act next ih =>
      intro s h hP s₁ hrely hinv choice s₂ reply hok hrun
      obtain ⟨hinv₂, hall⟩ := hgood act h.1 task s₁ choice s₂ reply hinv hok hrun
      refine ⟨hinv₂, fun other _ => hall other, ih reply (h.2 reply) ?_⟩
      exact hstable s₁ s₂ (hall task) (hstable s s₁ hrely hP)

/-! ### Runs of a pool -/

/-- The invariant holds and every coroutine keeps the discipline from here on. -/
structure Pool.Safe (run : Semantics Act Reply Err σ ε) (okAct : σ → ε → Nat → Act → Prop)
    (D : Discipline σ) (post : α → σ → Prop) (exc : Err → σ → Prop)
    (w : Pool Act Reply Err σ α) : Prop where
  inv : D.inv w.shared
  /-- A coroutine was safe at its own last step, and the others kept to its `rely` since. -/
  tasks : ∀ i x, w.tasks[i]? = some x →
    ∃ s, D.rely i s w.shared ∧ Wp run okAct D i post exc x s

namespace Pool

variable {okOp : Op → Prop} {program : Op → Prog Act Reply Err α}
  {w w' : Pool Act Reply Err σ α}

/-- A coroutine that moves performs the action it waits for. -/
theorem step_advance {choice : ε} (hstep : w.step run program (.advance task choice) = some w') :
    ∃ act next shared reply, w.tasks[task]? = some (.call act next) ∧
      run w.shared choice task act = some (shared, reply) ∧
      w' = { shared, tasks := w.tasks.set task (next reply) } := by
  cases htask : w.tasks[task]? with
  | none => simp [Pool.step, htask] at hstep
  | some x =>
      cases x with
      | ret value => simp [Pool.step, htask] at hstep
      | raise error => simp [Pool.step, htask] at hstep
      | call act next =>
          cases hact : run w.shared choice task act with
          | none => simp [Pool.step, htask, hact] at hstep
          | some result =>
              obtain ⟨shared, reply⟩ := result
              simp only [Pool.step, htask, hact, Option.some.injEq] at hstep
              exact ⟨act, next, shared, reply, rfl, hact, hstep.symm⟩

/-- An action of a safe pool keeps the invariant, and leaves its coroutine safe where it
    stands. -/
theorem Safe.advance (h : w.Safe run okAct D post exc) {choice : ε}
    (hok : w.Allowed okOp okAct (.advance task choice))
    (hstep : w.step run program (.advance task choice) = some w') :
    D.inv w'.shared ∧ (∀ other, other ≠ task → D.rely other w.shared w'.shared) ∧
      ∃ x, w'.tasks = w.tasks.set task x ∧ Wp run okAct D task post exc x w'.shared := by
  obtain ⟨act, next, shared, reply, htask, hrun, rfl⟩ := step_advance hstep
  obtain ⟨s, hrely, hwp⟩ := h.tasks task _ htask
  have hact := hok act next htask
  obtain ⟨hinv, hothers, hnext⟩ := hwp w.shared hrely h.inv choice shared reply hact hrun
  exact ⟨hinv, hothers, next reply, rfl, hnext⟩

theorem Safe.step (h : w.Safe run okAct D post exc)
    (hspawn : ∀ op, okOp op → ∀ i s, D.inv s → Wp run okAct D i post exc (program op) s)
    {e : Event Op ε} (hok : w.Allowed okOp okAct e) (hstep : w.step run program e = some w') :
    w'.Safe run okAct D post exc := by
  cases e with
  | spawn op =>
      obtain rfl := Option.some.inj hstep
      refine ⟨h.inv, ?_⟩
      intro i x hx
      by_cases hi : i < w.tasks.length
      · rw [List.getElem?_append_left hi] at hx
        exact h.tasks i x hx
      · rw [List.getElem?_append_right (Nat.le_of_not_lt hi)] at hx
        obtain rfl : program op = x := by
          cases hn : i - w.tasks.length with
          | zero => simpa [hn] using hx
          | succ n => simp [hn] at hx
        exact ⟨w.shared, D.refl i _, hspawn op hok i w.shared h.inv⟩
  | advance task choice =>
      obtain ⟨hinv, hothers, x, htasks, hwp⟩ := h.advance hok hstep
      refine ⟨hinv, ?_⟩
      intro i y hy
      rw [htasks, List.getElem?_set] at hy
      by_cases hi : task = i
      · rw [if_pos hi] at hy
        by_cases hlt : task < w.tasks.length
        · rw [if_pos hlt] at hy
          obtain rfl := Option.some.inj hy
          exact hi ▸ ⟨w'.shared, D.refl task _, hwp⟩
        · rw [if_neg hlt] at hy
          cases hy
      · rw [if_neg hi] at hy
        obtain ⟨s, hrely, hsafe⟩ := h.tasks i y hy
        exact ⟨s, D.trans i _ _ _ hrely (hothers i (Ne.symm hi)), hsafe⟩

/-- **Every state of a run of safe coroutines is safe.** -/
theorem Safe.ofRun (h : w.Safe run okAct D post exc)
    (hspawn : ∀ op, okOp op → ∀ i s, D.inv s → Wp run okAct D i post exc (program op) s)
    (hrun : Run (Pool.step run program) (Pool.Allowed okOp okAct) w w') :
    w'.Safe run okAct D post exc :=
  hrun.invariant h fun _ _ _ hsafe hok hstep => hsafe.step hspawn hok hstep

/-- In every state of a run, each coroutine is what is left of some operation's. -/
theorem yields_ofRun {good : Op → Act → Prop} {fine : Op → α → Prop}
    (hprogram : ∀ op, (program op).Yields (good op) (fine op))
    (h : ∀ x ∈ w.tasks, ∃ op, x.Yields (good op) (fine op))
    (hrun : Run (Pool.step run program) (Pool.Allowed okOp okAct) w w') :
    ∀ x ∈ w'.tasks, ∃ op, x.Yields (good op) (fine op) := by
  refine hrun.invariant (I := fun w => ∀ x ∈ w.tasks, ∃ op, x.Yields (good op) (fine op)) h ?_
  intro w e w' h _ hstep
  cases e with
  | spawn op =>
      obtain rfl := Option.some.inj hstep
      intro x hx
      rcases List.mem_append.mp hx with hx | hx
      · exact h x hx
      · obtain rfl := List.mem_singleton.mp hx
        exact ⟨op, hprogram op⟩
  | advance task choice =>
      obtain ⟨act, next, shared, reply, htask, -, rfl⟩ := step_advance hstep
      intro x hx
      rcases List.mem_or_eq_of_mem_set hx with hx | rfl
      · exact h x hx
      · obtain ⟨op, hop⟩ := h _ (List.mem_of_getElem? htask)
        exact ⟨op, hop.2 reply⟩

/-- A coroutine that returns, returns in its postcondition. -/
theorem Safe.returns (h : w.Safe run okAct D post exc) {choice : ε}
    (hok : w.Allowed okOp okAct (.advance task choice))
    (hstep : w.step run program (.advance task choice) = some w') {value : α}
    (hret : w'.tasks[task]? = some (.ret value)) : post value w'.shared := by
  obtain ⟨-, -, x, htasks, hwp⟩ := h.advance hok hstep
  rw [htasks, List.getElem?_set_self'] at hret
  obtain ⟨y, -, heq⟩ := Option.map_eq_some_iff.mp hret
  obtain rfl : x = .ret value := heq
  exact hwp

/-! ### Coroutines that have ended -/

/-- Pools with the same shared state and the same coroutines from `n` on. -/
structure AgreeFrom (n : Nat) (w w' : Pool Act Reply Err σ α) : Prop where
  shared : w.shared = w'.shared
  length : w.tasks.length = w'.tasks.length
  tasks : ∀ i, n ≤ i → w.tasks[i]? = w'.tasks[i]?

/-- An event that leaves the coroutines before `n` alone. -/
def After (n : Nat) : Event Op ε → Prop
  | .spawn _ => True
  | .advance task _ => n ≤ task

variable {n : Nat} {u : Pool Act Reply Err σ α}

theorem AgreeFrom.step (h : AgreeFrom n w w') {e : Event Op ε} (hafter : After n e)
    (hstep : w.step run program e = some u) :
    ∃ u', w'.step run program e = some u' ∧ AgreeFrom n u u' := by
  cases e with
  | spawn op =>
      obtain rfl := Option.some.inj hstep
      refine ⟨_, rfl, h.shared, ?_, ?_⟩
      · simp [h.length]
      · intro i hi
        show (w.tasks ++ [program op])[i]? = (w'.tasks ++ [program op])[i]?
        rw [List.getElem?_append, List.getElem?_append, h.length, h.tasks i hi]
  | advance task choice =>
      obtain ⟨act, next, shared, reply, htask, hrun, rfl⟩ := step_advance hstep
      have htask' : w'.tasks[task]? = some (.call act next) := by
        rw [← h.tasks task hafter]
        exact htask
      refine ⟨{ shared, tasks := w'.tasks.set task (next reply) }, ?_, rfl, ?_, ?_⟩
      · unfold Pool.step
        dsimp only
        rw [htask']
        dsimp only
        rw [← h.shared, hrun]
      · simp [h.length]
      · intro i hi
        show (w.tasks.set task (next reply))[i]? = (w'.tasks.set task (next reply))[i]?
        rw [List.getElem?_set, List.getElem?_set, h.length, h.tasks i hi]

/-- A schedule that leaves the coroutines before `n` alone does the same whatever they are. -/
theorem AgreeFrom.exec {ok : Pool Act Reply Err σ α → Event Op ε → Prop}
    [∀ w e, Decidable (ok w e)] (hok : ∀ w e, ok w e) :
    ∀ (es : List (Event Op ε)) {w w' u : Pool Act Reply Err σ α}, AgreeFrom n w w' →
      (∀ e ∈ es, After n e) → Trans.exec (Pool.step run program) ok w es = some u →
      ∃ u', Trans.exec (Pool.step run program) ok w' es = some u' ∧ AgreeFrom n u u' := by
  intro es
  induction es with
  | nil =>
      intro w w' u h _ hexec
      obtain rfl : w = u := by simpa [Trans.exec] using hexec
      exact ⟨w', rfl, h⟩
  | cons e rest ih =>
      intro w w' u h hafter hexec
      rw [Trans.exec, if_pos (hok w e)] at hexec
      obtain ⟨v, hv, hrest⟩ := Option.bind_eq_some_iff.mp hexec
      obtain ⟨v', hv', hagree⟩ := h.step (hafter e List.mem_cons_self) hv
      obtain ⟨u', hu', hend⟩ := ih hagree (fun e he => hafter e (List.mem_cons_of_mem _ he)) hrest
      refine ⟨u', ?_, hend⟩
      rw [Trans.exec, if_pos (hok w' e), hv']
      exact hu'

end Pool

end Async
