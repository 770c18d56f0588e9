/-
One broken game and the other games.

The loop of a cycle stops at the first transition that raises, so that a game whose transition
raises takes from the games behind it in the query what they would have got.  Compared with the
same games without it, the broken game makes no difference exactly when a game before it raises
too, or the next game behind it does, or there is none (`broken_game_harmless_iff`).
-/
import Arena402.Lib.FailStop
import Arena402.Lib.Rows
import Arena402.Game.Orchestrator

namespace Arena402.Game.Orchestrator

open Py FailStop

variable {t : Transitions} {d : Games} {g : String}

/-! ### Games without one of them -/

theorem nodup_erase (h : d.keys.Nodup) (g : String) : (d.erase g).keys.Nodup :=
  (List.filter_sublist.map _).nodup h

theorem erase_cons (x : String × GameEntry) (d : Games) :
    Dict.erase (x :: d) g = if x.1 = g then Dict.erase d g else x :: Dict.erase d g :=
  without_cons x d

theorem erase_set_ne {id : String} (hne : id ≠ g) (e : GameEntry) : ∀ d : Games,
    (d.set id e).erase g = (d.erase g).set id e := by
  intro d
  induction d with
  | nil => simp [Dict.set, Dict.erase, hne]
  | cons x rest ih =>
      have hset : ∀ (y : String × GameEntry) (l : Games), Dict.set (y :: l) id e =
          if y.1 = id then (id, e) :: l else y :: Dict.set l id e := fun _ _ => rfl
      rw [hset, erase_cons]
      by_cases hx : x.1 = id
      · have hxg : x.1 ≠ g := fun h => hne (hx.symm.trans h)
        rw [if_pos hx, if_neg hxg, erase_cons, if_neg hne, hset, if_pos hx]
      · rw [if_neg hx, erase_cons]
        by_cases hxg : x.1 = g
        · rw [if_pos hxg, if_pos hxg, ih]
        · rw [if_neg hxg, if_neg hxg, hset, if_neg hx, ih]

theorem erase_set_self (e : GameEntry) : ∀ d : Games, (d.set g e).erase g = d.erase g := by
  intro d
  induction d with
  | nil => simp [Dict.set, Dict.erase]
  | cons x rest ih =>
      have hset : Dict.set (x :: rest) g e =
          if x.1 = g then (g, e) :: rest else x :: Dict.set rest g e := rfl
      rw [hset, erase_cons]
      by_cases hx : x.1 = g
      · rw [if_pos hx, if_pos hx, erase_cons, if_pos rfl]
      · rw [if_neg hx, if_neg hx, erase_cons, if_neg hx, ih]

theorem erase_foldl_set : ∀ l d : Games,
    (l.foldl (fun d e => d.set e.1 e.2) d).erase g =
      (l.erase g).foldl (fun d e => d.set e.1 e.2) (d.erase g) := by
  intro l
  induction l with
  | nil =>
      intro d
      rfl
  | cons e rest ih =>
      intro d
      rw [List.foldl_cons, ih, erase_cons]
      by_cases he : e.1 = g
      · rw [if_pos he, he, erase_set_self]
      · rw [if_neg he, List.foldl_cons, erase_set_ne he]

theorem nodup_foldl_set : ∀ (l d : Games), d.keys.Nodup →
    (l.foldl (fun d e => d.set e.1 e.2) d).keys.Nodup := by
  intro l
  induction l with
  | nil =>
      intro d h
      exact h
  | cons e rest ih =>
      intro d h
      exact ih _ (Dict.nodup_keys_set h _ _)

/-! ### The order of the query -/

theorem listedBefore_total (a b : String × GameEntry) : listedBefore a b ∨ listedBefore b a := by
  unfold listedBefore
  cases a.2.startedAt with
  | none =>
      cases b.2.startedAt with
      | none => exact String.le_total _ _
      | some u => exact Or.inr trivial
  | some t =>
      cases b.2.startedAt with
      | none => exact Or.inl trivial
      | some u =>
          rcases lt_trichotomy t u with h | h | h
          · exact Or.inl (Or.inl h)
          · rcases String.le_total a.1 b.1 with hle | hle
            · exact Or.inl (Or.inr ⟨h, hle⟩)
            · exact Or.inr (Or.inr ⟨h.symm, hle⟩)
          · exact Or.inr (Or.inl h)

theorem listedBefore_trans {a b c : String × GameEntry} (hab : listedBefore a b)
    (hbc : listedBefore b c) : listedBefore a c := by
  unfold listedBefore at *
  cases ha : a.2.startedAt with
  | none =>
      rw [ha] at hab
      cases hb : b.2.startedAt with
      | none =>
          rw [hb] at hab hbc
          cases hc : c.2.startedAt with
          | none =>
              rw [hc] at hbc
              exact String.le_trans hab hbc
          | some v =>
              rw [hc] at hbc
              exact hbc.elim
      | some u =>
          rw [hb] at hab
          exact hab.elim
  | some t =>
      rw [ha] at hab
      cases hc : c.2.startedAt with
      | none => trivial
      | some v =>
          rw [hc] at hbc
          cases hb : b.2.startedAt with
          | none =>
              rw [hb] at hbc
              exact hbc.elim
          | some u =>
              rw [hb] at hab hbc
              dsimp only at hab hbc ⊢
              rcases hab with h | ⟨h, hle⟩
              · rcases hbc with h' | ⟨h', _⟩
                · exact Or.inl (h.trans h')
                · exact Or.inl (h'.symm ▸ h)
              · rcases hbc with h' | ⟨h', hle'⟩
                · exact Or.inl (h ▸ h')
                · exact Or.inr ⟨h.trans h', String.le_trans hle hle'⟩

theorem eq_of_listedBefore {a b : String × GameEntry} (hab : listedBefore a b)
    (hba : listedBefore b a) : a.1 = b.1 := by
  unfold listedBefore at *
  cases ha : a.2.startedAt with
  | none =>
      cases hb : b.2.startedAt with
      | none =>
          rw [ha, hb] at hab hba
          exact String.le_antisymm hab hba
      | some u =>
          rw [ha, hb] at hab
          exact hab.elim
  | some t =>
      cases hb : b.2.startedAt with
      | none =>
          rw [ha, hb] at hba
          exact hba.elim
      | some u =>
          rw [ha, hb] at hab hba
          dsimp only at hab hba
          rcases hab with h | ⟨_, hle⟩
          · rcases hba with h' | ⟨h', _⟩
            · exact absurd h (lt_asymm h')
            · exact absurd h'.symm (ne_of_lt h)
          · rcases hba with h' | ⟨_, hle'⟩
            · rename_i h
              exact absurd h.symm (ne_of_lt h')
            · exact String.le_antisymm hle hle'

theorem pairwise_sorted (d : Games) : (d.insertionSort listedBefore).Pairwise listedBefore := by
  have : Std.Total listedBefore := ⟨listedBefore_total⟩
  have : IsTrans (String × GameEntry) listedBefore := ⟨fun _ _ _ => listedBefore_trans⟩
  exact List.pairwise_insertionSort _ _

/-- The query of fewer games is the query without the games that are left out. -/
theorem sorted_erase (h : d.keys.Nodup) (g : String) :
    (d.erase g).insertionSort listedBefore = without (·.1) g (d.insertionSort listedBefore) := by
  have hperm : ((d.erase g).insertionSort listedBefore).Perm
      (without (·.1) g (d.insertionSort listedBefore)) :=
    (List.perm_insertionSort _ _).trans ((List.perm_insertionSort _ _).symm.filter _)
  refine hperm.eq_of_pairwise ?_ (pairwise_sorted _) ((pairwise_sorted d).filter _)
  intro a b ha hb hab hba
  have hkey : a.1 = b.1 := eq_of_listedBefore hab hba
  have hmem : ∀ x, x ∈ (d.erase g).insertionSort listedBefore → x ∈ d := by
    intro x hx
    exact List.mem_of_mem_filter ((List.perm_insertionSort _ _).mem_iff.mp hx)
  have hget := Dict.get_of_mem h (hmem a ha)
  have hget' := Dict.get_of_mem h (hmem b (hperm.mem_iff.mpr hb))
  rw [hkey, hget'] at hget
  exact Prod.ext hkey (Option.some.inj hget).symm

theorem executable_erase (h : d.keys.Nodup) (g : String) :
    executable (d.erase g) = without (·.1) g (executable d) := by
  unfold executable
  rw [sorted_erase h]
  generalize d.insertionSort listedBefore = l
  induction l with
  | nil => rfl
  | cons e rest ih =>
      rw [without_cons]
      cases haction : actionOf e.2 with
      | none =>
          by_cases hg : e.1 = g
          · simpa [hg, haction] using ih
          · simpa [hg, haction] using ih
      | some a =>
          by_cases hg : e.1 = g
          · simpa [hg, haction, without_cons] using ih
          · simpa [hg, haction, without_cons] using ih

/-- A game is listed once. -/
theorem nodup_executable (h : d.keys.Nodup) : ((executable d).map (·.1)).Nodup := by
  have hsorted : ((d.insertionSort listedBefore).map (·.1)).Nodup :=
    ((List.perm_insertionSort listedBefore d).map _).nodup_iff.mpr h
  have hsub : ((executable d).map (·.1)).Sublist ((d.insertionSort listedBefore).map (·.1)) := by
    unfold executable
    generalize d.insertionSort listedBefore = l
    induction l with
    | nil => exact List.Sublist.refl _
    | cons e rest ih =>
        cases haction : actionOf e.2 with
        | none => simpa [haction] using ih.cons e.1
        | some a => simpa [haction] using ih.cons_cons e.1
  exact hsub.nodup hsorted

/-! ### A cycle does what it can up to the first transition that raises -/

/-- The transition of a listed game commits. -/
def succeeds (t : Transitions) (d : Games) (x : String × Automation.Action) : Bool :=
  match d.get x.1 with
  | none => false
  | some entry => (t.perform x.2 entry.house).isOk

/-- The games after one transition. -/
def advance (t : Transitions) (d : Games) (x : String × Automation.Action) : Games :=
  match d.get x.1 with
  | none => d
  | some entry =>
    match t.perform x.2 entry.house with
    | .error _ => d
    | .ok house => d.set x.1 { entry with house }

theorem get_advance_ne {x : String × Automation.Action} {id : String} (hne : id ≠ x.1) :
    (advance t d x).get id = d.get id := by
  unfold advance
  cases d.get x.1 with
  | none => rfl
  | some entry =>
      dsimp only
      cases t.perform x.2 entry.house with
      | error e => rfl
      | ok house => exact Dict.get_set_ne _ _ hne

theorem succeeds_advance_ne {x y : String × Automation.Action} (hne : y.1 ≠ x.1) :
    succeeds t (advance t d x) y = succeeds t d y := by
  unfold succeeds
  rw [get_advance_ne hne]

theorem nodup_advance (h : d.keys.Nodup) (x : String × Automation.Action) :
    (advance t d x).keys.Nodup := by
  unfold advance
  cases d.get x.1 with
  | none => exact h
  | some entry =>
      dsimp only
      cases t.perform x.2 entry.house with
      | error e => exact h
      | ok house => exact Dict.nodup_keys_set h _ _

/-- One turn of the loop. -/
theorem runActions_cons (x : String × Automation.Action) (rest : List (String × Automation.Action))
    (d : Games) :
    (runActions t (x :: rest) d).performed =
        (if succeeds t d x then x :: (runActions t rest (advance t d x)).performed else []) ∧
      (runActions t (x :: rest) d).games =
        (if succeeds t d x then (runActions t rest (advance t d x)).games else d) := by
  obtain ⟨id, action⟩ := x
  cases hget : d.get id with
  | none => simp [runActions, succeeds, hget]
  | some entry =>
      cases hperform : t.perform action entry.house with
      | error e => simp [runActions, succeeds, hget, hperform, Except.isOk, Except.toBool]
      | ok house =>
          simp [runActions, succeeds, advance, hget, hperform, Except.isOk, Except.toBool]

theorem runActions_performed : ∀ (l : List (String × Automation.Action)) (d : Games),
    (l.map (·.1)).Nodup → (runActions t l d).performed = l.takeWhile (succeeds t d) := by
  intro l
  induction l with
  | nil =>
      intro d _
      rfl
  | cons x rest ih =>
      intro d hnodup
      obtain ⟨hnew, hrest⟩ := List.nodup_cons.mp hnodup
      rw [(runActions_cons x rest d).1, List.takeWhile_cons, ih _ hrest]
      have hothers : ∀ y ∈ rest, succeeds t (advance t d x) y = succeeds t d y := by
        intro y hy
        have hmem : y.1 ∈ rest.map (·.1) := List.mem_map_of_mem hy
        exact succeeds_advance_ne (ne_of_mem_of_not_mem hmem hnew)
      rw [takeWhile_congr hothers]

theorem runActions_games : ∀ (l : List (String × Automation.Action)) (d : Games),
    (runActions t l d).games = (runActions t l d).performed.foldl (advance t) d := by
  intro l
  induction l with
  | nil =>
      intro d
      rfl
  | cons x rest ih =>
      intro d
      rw [(runActions_cons x rest d).1, (runActions_cons x rest d).2]
      by_cases hx : succeeds t d x = true
      · rw [if_pos hx, if_pos hx, ih, List.foldl_cons]
      · rw [if_neg hx, if_neg hx, List.foldl_nil]

/-! ### A cycle without the broken game -/

theorem get_erase_ne {id : String} (hne : id ≠ g) (d : Games) : (d.erase g).get id = d.get id := by
  have hfilter := Dict.get_filter_key (fun k => decide (k ≠ g)) d id
  rw [if_pos (decide_eq_true hne)] at hfilter
  exact hfilter

theorem succeeds_erase {x : String × Automation.Action} (hne : x.1 ≠ g) :
    succeeds t (d.erase g) x = succeeds t d x := by
  unfold succeeds
  rw [get_erase_ne hne]

theorem advance_erase {x : String × Automation.Action} (hne : x.1 ≠ g) :
    (advance t d x).erase g = advance t (d.erase g) x := by
  unfold advance
  rw [get_erase_ne hne]
  cases d.get x.1 with
  | none => rfl
  | some entry =>
      dsimp only
      cases t.perform x.2 entry.house with
      | error e => rfl
      | ok house => exact erase_set_ne hne _ _

theorem foldl_advance_erase : ∀ (l : List (String × Automation.Action)) (d : Games),
    (∀ x ∈ l, x.1 ≠ g) →
    (l.foldl (advance t) d).erase g = l.foldl (advance t) (d.erase g) := by
  intro l
  induction l with
  | nil =>
      intro d _
      rfl
  | cons x rest ih =>
      intro d hne
      rw [List.foldl_cons, List.foldl_cons, ih _ fun y hy => hne y (List.mem_cons_of_mem _ hy),
        advance_erase (hne x List.mem_cons_self)]

/-- The transition of the game raises. -/
def Raises (t : Transitions) (d : Games) (g : String) : Prop :=
  ∀ entry action, d.get g = some entry → actionOf entry = some action →
    (t.perform action entry.house).isOk = false

/-- An earlier game of the query raises too, or the next game behind does, or there is none. -/
def Harmless (t : Transitions) (d : Games) (g : String) : Prop :=
  (∃ y ∈ before (·.1) g (executable d), succeeds t d y = false) ∨
    ∀ y ∈ (behind (·.1) g (executable d)).head?, succeeds t d y = false

/-- The other games have got the same transitions and are left the same. -/
def SameForOthers (g : String) (c c' : Cycle) : Prop :=
  c.performed = c'.performed ∧ c.games.erase g = c'.games

/-- The query lists all the games that can make a transition. -/
def AllListed (limit : Nat) (d : Games) : Prop :=
  actionableActions d limit = .ok (executable d)

theorem allListed_erase {limit : Nat} (h : d.keys.Nodup) (hlisted : AllListed limit d) :
    AllListed limit (d.erase g) := by
  unfold AllListed actionableActions at *
  by_cases hlimit : (limit < 1 || 500 < limit) = true
  · rw [if_pos hlimit] at hlisted
    cases hlisted
  · rw [if_neg hlimit] at hlisted ⊢
    have hlength : (executable d).length ≤ limit := List.take_eq_self_iff _ |>.mp (Except.ok.inj hlisted)
    have hless : (executable (d.erase g)).length ≤ (executable d).length := by
      rw [executable_erase h]
      exact List.length_filter_le _ _
    rw [List.take_of_length_le (hless.trans hlength)]

theorem runOnce_of_allListed {limit : Nat} (hlisted : AllListed limit d) :
    runOnce t limit d = runActions t (executable d) d := by
  unfold runOnce
  rw [hlisted]

theorem nodup_foldl_advance : ∀ (l : List (String × Automation.Action)) (d : Games), d.keys.Nodup →
    (l.foldl (advance t) d).keys.Nodup := by
  intro l
  induction l with
  | nil =>
      intro d h
      exact h
  | cons x rest ih =>
      intro d h
      exact ih _ (nodup_advance h x)

theorem runOnce_games {limit : Nat} (hlisted : AllListed limit d) :
    (runOnce t limit d).games = (runOnce t limit d).performed.foldl (advance t) d := by
  rw [runOnce_of_allListed hlisted, runActions_games]

theorem raises_not_succeeds (h : d.keys.Nodup) (hraises : Raises t d g) :
    ∀ x ∈ executable d, x.1 = g → succeeds t d x = false := by
  rintro x hx rfl
  obtain ⟨e, he, haction⟩ := List.mem_filterMap.mp hx
  obtain ⟨action, hsome, rfl⟩ := Option.map_eq_some_iff.mp haction
  have hget := Dict.get_of_mem h ((List.perm_insertionSort _ _).mem_iff.mp he)
  unfold succeeds
  rw [hget]
  exact hraises e.2 action hget hsome

/-- A cycle with a game whose transition raises, and without it. -/
theorem sameForOthers_iff {limit : Nat} (h : d.keys.Nodup) (hlisted : AllListed limit d)
    (hraises : Raises t d g) :
    SameForOthers g (runOnce t limit d) (runOnce t limit (d.erase g)) ↔ Harmless t d g := by
  have hfails := raises_not_succeeds h hraises
  have hnodup := nodup_executable h
  have hothers : ∀ x ∈ without (·.1) g (executable d), succeeds t (d.erase g) x = succeeds t d x := by
    intro x hx
    exact succeeds_erase (by simpa using (List.mem_filter.mp hx).2)
  have hperformed : (runOnce t limit d).performed = (executable d).takeWhile (succeeds t d) := by
    rw [runOnce_of_allListed hlisted, runActions_performed _ _ hnodup]
  have hperformed' : (runOnce t limit (d.erase g)).performed =
      (without (·.1) g (executable d)).takeWhile (succeeds t d) := by
    rw [runOnce_of_allListed (allListed_erase h hlisted),
      runActions_performed _ _ (nodup_executable (nodup_erase h g)), executable_erase h,
      takeWhile_congr hothers]
  have hsame := takeWhile_without_iff hnodup hfails
  constructor
  · rintro ⟨hp, _⟩
    exact hsame.mp (hperformed ▸ hperformed' ▸ hp)
  · intro hharmless
    have hp : (runOnce t limit d).performed = (runOnce t limit (d.erase g)).performed := by
      rw [hperformed, hperformed', hsame.mpr hharmless]
    refine ⟨hp, ?_⟩
    have hne : ∀ x ∈ (runOnce t limit d).performed, x.1 ≠ g := by
      rw [hp, hperformed']
      intro x hx
      have := List.takeWhile_sublist _ |>.subset hx
      simpa using (List.mem_filter.mp this).2
    rw [runOnce_games hlisted, runOnce_games (allListed_erase h hlisted),
      foldl_advance_erase _ _ hne, hp]

/-! ### Cycle after cycle -/

/-- The environment of the other games. -/
def Environment.without (env : Environment) (g : String) : Environment :=
  { env with started := fun k => (env.started k).erase g }

theorem nodup_step (env : Environment) (k : Nat) (h : d.keys.Nodup) : (env.step k d).keys.Nodup := by
  have hkeys : Dict.keys (d.map fun e => (e.1, env.change k e.1 e.2)) = d.keys := by
    simp [Dict.keys]
  exact nodup_foldl_set _ _ (hkeys ▸ h)

theorem step_erase (env : Environment) (k : Nat) (d : Games) :
    (env.step k d).erase g = (env.without g).step k (d.erase g) := by
  have hmap : Dict.erase (d.map fun e => (e.1, env.change k e.1 e.2)) g =
      (d.erase g).map fun e => (e.1, env.change k e.1 e.2) := by
    unfold Dict.erase
    rw [List.filter_map]
    rfl
  unfold Environment.step
  rw [erase_foldl_set, hmap]
  rfl

theorem nodup_beforeCycle {ts : Nat → Transitions} {env : Environment} {limit : Nat} {games : Games}
    (h : games.keys.Nodup) (hlisted : ∀ k, AllListed limit (beforeCycle ts env limit games k)) :
    ∀ k, (beforeCycle ts env limit games k).keys.Nodup := by
  intro k
  induction k with
  | zero => exact h
  | succ k ih =>
      unfold beforeCycle
      rw [runOnce_games (hlisted k)]
      exact nodup_step env k (nodup_foldl_advance _ _ ih)

/-- As long as the cycles are the same for the other games, so is what they start from. -/
theorem beforeCycle_erase {ts : Nat → Transitions} {env : Environment} {limit : Nat} {games : Games} :
    ∀ n, (∀ k < n, SameForOthers g (runOnce (ts k) limit (beforeCycle ts env limit games k))
        (runOnce (ts k) limit (beforeCycle ts (env.without g) limit (games.erase g) k))) →
      (beforeCycle ts env limit games n).erase g =
        beforeCycle ts (env.without g) limit (games.erase g) n := by
  intro n
  induction n with
  | zero =>
      intro _
      rfl
  | succ n ih =>
      intro hsame
      unfold beforeCycle
      rw [step_erase, (hsame n (Nat.lt_succ_self n)).2]

/-- **A game whose transition raises in every cycle makes no difference to the transitions of the
    others up to some cycle exactly when, in each cycle before, a game before it raises too, the
    next game behind it does, or there is none.** -/
theorem broken_game_harmless_iff (ts : Nat → Transitions) (env : Environment) (limit : Nat)
    (games : Games) (g : String) (h : games.keys.Nodup)
    (hlisted : ∀ k, AllListed limit (beforeCycle ts env limit games k))
    (hraises : ∀ k, Raises (ts k) (beforeCycle ts env limit games k) g) (n : Nat) :
    (∀ k < n, SameForOthers g (runOnce (ts k) limit (beforeCycle ts env limit games k))
        (runOnce (ts k) limit (beforeCycle ts (env.without g) limit (games.erase g) k))) ↔
      ∀ k < n, Harmless (ts k) (beforeCycle ts env limit games k) g := by
  have hnodup := nodup_beforeCycle h hlisted
  induction n with
  | zero => simp
  | succ n ih =>
      have hstep : (∀ k < n, SameForOthers g (runOnce (ts k) limit (beforeCycle ts env limit games k))
          (runOnce (ts k) limit (beforeCycle ts (env.without g) limit (games.erase g) k))) →
          (SameForOthers g (runOnce (ts n) limit (beforeCycle ts env limit games n))
            (runOnce (ts n) limit (beforeCycle ts (env.without g) limit (games.erase g) n)) ↔
          Harmless (ts n) (beforeCycle ts env limit games n) g) := by
        intro hsame
        rw [← beforeCycle_erase n hsame]
        exact sameForOthers_iff (hnodup n) (hlisted n) (hraises n)
      constructor
      · intro hsame k hk
        have hbefore := fun k (hk : k < n) => hsame k (Nat.lt_succ_of_lt hk)
        rcases Nat.lt_succ_iff_lt_or_eq.mp hk with hlt | rfl
        · exact ih.mp hbefore k hlt
        · exact (hstep hbefore).mp (hsame k hk)
      · intro hharmless k hk
        have hbefore := ih.mpr fun k hk => hharmless k (Nat.lt_succ_of_lt hk)
        rcases Nat.lt_succ_iff_lt_or_eq.mp hk with hlt | rfl
        · exact hbefore k hlt
        · exact (hstep hbefore).mpr (hharmless k hk)

/-! ### A broken game before a healthy one -/

/-- A game of one participant, which follows a rule and has nothing to sell. -/
def ruleHouse (gameId : String) : Pawnhouse where
  intents := []
  balances := [("trader", 20000000)]
  holdings := [(("trader", "grain"), 0)]
  participants :=
    [("trader", { gameId, status := .active, agentId := "agent:trader", runtimeKind := .rule })]
  pairings := []
  negotiations := []
  game :=
    { gameId, marketProtocol := .fcfsV1, roundCount := 3, currentRound := 2, actionTimeoutMs := 1000,
      maxNegotiationTurns := 3, authorizationMode := .none }
  rounds := [("round-2", ⟨2, .decide, some 100⟩)]

/-- The rule of each game: the older one's sells grain, the younger one's passes. -/
def ruleOf (gameId : String) : RuleStrategy where
  intent := if gameId = "game-1" then .sell else .pass
  good := .grain
  targetPriceAtomic := 2000000
  publicMessage := "grain"

def twoGames : Games :=
  [("game-1", ⟨some 1, ruleHouse "game-1"⟩), ("game-2", ⟨some 2, ruleHouse "game-2"⟩)]

/-- `run_rule_market` of the repository; neither game is listed for another action, and nothing is
    negotiated in them. -/
def ruleMarkets : Transitions where
  enqueueAgentRuntimeRun := .ok
  runRuleMarket house := house.runRuleMarket [("trader", ruleOf house.game.gameId)] (fun _ => 50) 51
    fun house _ => .ok house
  advanceRoundOrGame := .ok

/-- Nothing else happens. -/
def quiet : Environment where
  change _ _ entry := entry
  started _ := []

theorem beforeCycle_twoGames (k : Nat) :
    beforeCycle (fun _ => ruleMarkets) quiet 50 twoGames k = twoGames := by
  induction k with
  | zero => rfl
  | succ k ih =>
      unfold beforeCycle
      rw [ih]
      rfl

theorem allListed_twoGames : AllListed 50 twoGames := rfl

theorem raises_twoGames : Raises ruleMarkets twoGames "game-1" := by
  rintro entry action hget haction
  obtain rfl := Option.some.inj hget
  obtain rfl := Option.some.inj haction
  rfl

theorem broken_game_harmless_twoGames :
    (∀ k < 1, SameForOthers "game-1"
        (runOnce ruleMarkets 50 (beforeCycle (fun _ => ruleMarkets) quiet 50 twoGames k))
        (runOnce ruleMarkets 50 (beforeCycle (fun _ => ruleMarkets) (quiet.without "game-1") 50
          (twoGames.erase "game-1") k))) ↔
      ∀ k < 1, Harmless ruleMarkets (beforeCycle (fun _ => ruleMarkets) quiet 50 twoGames k) "game-1" :=
  broken_game_harmless_iff (fun _ => ruleMarkets) quiet 50 twoGames "game-1" (by decide)
    (fun k => (beforeCycle_twoGames k).symm ▸ allListed_twoGames)
    (fun k => (beforeCycle_twoGames k).symm ▸ raises_twoGames) 1

/-- The older game raises in every cycle and the market of the younger one is never run; without the
    older game it is run in the first cycle. -/
theorem broken_game_blocks :
    (∀ k, let games := beforeCycle (fun _ => ruleMarkets) quiet 50 twoGames k
      AllListed 50 games ∧ Raises ruleMarkets games "game-1" ∧
        (runOnce ruleMarkets 50 games).error = some "seller_has_no_inventory" ∧
        (runOnce ruleMarkets 50 games).performed = []) ∧
      (runOnce ruleMarkets 50 (twoGames.erase "game-1")).performed = [("game-2", .runRule)] := by
  refine ⟨?_, rfl⟩
  intro k
  rw [beforeCycle_twoGames]
  exact ⟨allListed_twoGames, raises_twoGames, rfl, rfl⟩

end Arena402.Game.Orchestrator
