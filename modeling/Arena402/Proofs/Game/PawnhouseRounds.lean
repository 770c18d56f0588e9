/-
The rounds of a game, over every list of calls.

The calls may come in any order, and each may raise.  The history of a game is the list of
rounds and phases it was in after its calls, each change written once; it grows by one phase
of the current round at a time.
-/
import Arena402.Proofs.Game.PawnhouseGame

namespace Arena402.Game.Aggregate

open Py

namespace PawnhouseGame

variable {digest : ByteArray → ByteArray} {g g' : PawnhouseGame}

/-! ### Runs -/

theorem run_append (g : PawnhouseGame) (calls more : List Call) :
    run digest g (calls ++ more) = run digest (run digest g calls) more :=
  List.foldl_append

theorem consistent_run : ∀ (calls : List Call) {g : PawnhouseGame}, Consistent g →
    Consistent (run digest g calls) := by
  intro calls
  induction calls with
  | nil =>
      intro g h
      exact h
  | cons c rest ih =>
      intro g h
      exact ih (consistent_step h (step_perform digest h c))

/-- What every call keeps holds after any calls. -/
theorem run_keeps {P : PawnhouseGame → Prop} (hstep : ∀ g g', Consistent g → Step g g' → P g → P g') :
    ∀ (calls : List Call) {g : PawnhouseGame}, Consistent g → P g → P (run digest g calls) := by
  intro calls
  induction calls with
  | nil =>
      intro g _ hP
      exact hP
  | cons c rest ih =>
      intro g h hP
      have hnext := step_perform digest h c
      exact ih (consistent_step h hnext) (hstep _ _ h hnext hP)

/-- The round counter never goes back. -/
theorem Step.currentRound_le (h : Consistent g) (hstep : Step g g') :
    g.currentRound ≤ g'.currentRound := by
  cases hstep with
  | same => exact le_refl _
  | enter hdue _ =>
      obtain ⟨k, hround, rfl, -, -⟩ := due_cases h hdue
      show g.currentRound ≤ k + 1
      omega
  | change hchange => cases hchange <;> exact le_refl _

/-- A game whose portfolios are locked. -/
def Closed (g : PawnhouseGame) : Prop :=
  g.phase ≠ .registration ∧ g.phase ≠ .portfolioSetup

/-- Once the portfolios are locked, they stay locked. -/
theorem Step.closed (hstep : Step g g') (hclosed : Closed g) : Closed g' := by
  cases hstep with
  | same => exact hclosed
  | enter _ _ => exact ⟨by simp [entered], by simp [entered]⟩
  | change hchange =>
      cases hchange with
      | joined hphase _ _ _ =>
          rcases hphase with hp | hp
          · exact absurd hp hclosed.1
          · exact absurd hp hclosed.2
      | configured hphase _ | locked hphase _ _ => exact absurd hphase hclosed.2
      | moved _ _ _ => exact hclosed
      | valued _ _ _ | ranked _ => exact ⟨by simp, by simp⟩

/-! ### History -/

/-- The round and the phase of a running game. -/
def position (g : PawnhouseGame) : Option (Int × RoundPhase) :=
  if g.phase = .running then g.roundPhase.map fun p => (g.currentRound, p) else none

/-- A position is written down when it is new. -/
def record (log : List (Int × RoundPhase)) (g : PawnhouseGame) : List (Int × RoundPhase) :=
  match g.position with
  | none => log
  | some here => if log.getLast? = some here then log else log ++ [here]

/-- The rounds and phases that a game was in before its calls and after each of them, each
    change once. -/
def history (digest : ByteArray → ByteArray) (g : PawnhouseGame) (calls : List Call) :
    List (Int × RoundPhase) :=
  (calls.scanl (fun g c => (perform digest c).after g) g).foldl record []

/-- The phases of a round, in order. -/
def roundPhases : List RoundPhase :=
  [.decide, .match, .negotiate, .settle, .roundClose, .completed]

/-- The history of the rounds `1` to `n`, each gone through once. -/
def wholeRounds (n : Nat) : List (Int × RoundPhase) :=
  (List.range n).flatMap fun k => roundPhases.map fun p => ((k : Int) + 1, p)

theorem wholeRounds_succ (n : Nat) :
    wholeRounds (n + 1) = wholeRounds n ++ roundPhases.map fun p => ((n : Int) + 1, p) := by
  simp [wholeRounds, List.range_succ]

/-- The phases that a round has gone through. -/
def gone : RoundPhase → List RoundPhase
  | .eventReveal => [.eventReveal]
  | .decide => [.decide]
  | .match => [.decide, .match]
  | .negotiate => [.decide, .match, .negotiate]
  | .settle => [.decide, .match, .negotiate, .settle]
  | .roundClose => [.decide, .match, .negotiate, .settle, .roundClose]
  | .completed => roundPhases

theorem gone_last (p : RoundPhase) : (gone p).getLast? = some p := by
  cases p <;> rfl

theorem gone_allowed {p q : RoundPhase} (h : allowed p = some q) : gone q = gone p ++ [q] := by
  cases p <;> cases h <;> rfl

theorem allowed_ne {p q : RoundPhase} (h : allowed p = some q) : p ≠ q := by
  cases p <;> cases h <;> decide

/-- The history of a game in each of its phases. -/
structure Logged (g : PawnhouseGame) (log : List (Int × RoundPhase)) : Prop where
  before : g.phase = .registration ∨ g.phase = .portfolioSetup ∨ g.phase = .portfolioLocked →
    log = []
  during : ∀ p, g.phase = .running → g.roundPhase = some p →
    log = wholeRounds (g.currentRound - 1).toNat ++ (gone p).map fun q => (g.currentRound, q)
  after : g.phase = .finalValuation ∨ g.phase = .completed →
    log = wholeRounds g.config.roundCount.toNat

/-- The last entry of a running game is its position. -/
theorem Logged.last {log : List (Int × RoundPhase)} (h : Logged g log) {p : RoundPhase}
    (hphase : g.phase = .running) (hp : g.roundPhase = some p) :
    log.getLast? = some (g.currentRound, p) := by
  rw [h.during p hphase hp, List.getLast?_append, List.getLast?_map, gone_last]
  rfl

/-- A completed round joins the whole ones. -/
theorem Logged.whole {log : List (Int × RoundPhase)} (h : Logged g log) (hphase : g.phase = .running)
    (hlow : 1 ≤ g.currentRound) (hp : g.roundPhase = some .completed) :
    log = wholeRounds g.currentRound.toNat := by
  have hround : g.currentRound.toNat = (g.currentRound - 1).toNat + 1 := by omega
  have hcast : (((g.currentRound - 1).toNat : Nat) : Int) + 1 = g.currentRound := by omega
  rw [h.during _ hphase hp, hround, wholeRounds_succ, hcast]
  rfl

theorem record_of_none {log : List (Int × RoundPhase)} (h : g.position = none) :
    record log g = log := by
  unfold record
  rw [h]

theorem record_of_new {log : List (Int × RoundPhase)} {here : Int × RoundPhase}
    (h : g.position = some here) (hnew : log.getLast? ≠ some here) :
    record log g = log ++ [here] := by
  unfold record
  rw [h]
  exact if_neg hnew

theorem logged_same {log : List (Int × RoundPhase)} (h : Logged g log) : record log g = log := by
  by_cases hphase : g.phase = .running
  · cases hp : g.roundPhase with
    | none => exact record_of_none (by simp [position, hp])
    | some p =>
        unfold record
        simp only [position, if_pos hphase, hp, Option.map_some]
        exact if_pos (h.last hphase hp)
  · exact record_of_none (by simp [position, hphase])

theorem logged_entered {log : List (Int × RoundPhase)} (hc : Consistent g) (h : Logged g log)
    {c : Call} {r : Int} {event : WorldEvent} {p : RoundPhase} (hdue : g.due c = some (r, event))
    (hp : p = .decide ∨ p = .eventReveal) :
    Logged (g.entered r event p) (record log (g.entered r event p)) := by
  obtain ⟨k, hround, rfl, -, hcall⟩ := due_cases hc hdue
  have hgone : gone p = [p] := by
    rcases hp with rfl | rfl <;> rfl
  have hwhole : log = wholeRounds k := by
    rcases hcall with ⟨-, hphase, rfl⟩ | ⟨-, hphase, hdone, -⟩
    · exact h.before (Or.inr (Or.inr hphase))
    · rw [h.whole hphase (hc.stage.during hphase).1 hdone, hround, Int.toNat_natCast]
  have hnew : log.getLast? ≠ some ((k : Int) + 1, p) := by
    rcases hcall with ⟨-, hphase, -⟩ | ⟨-, hphase, hdone, -⟩
    · rw [h.before (Or.inr (Or.inr hphase))]
      simp
    · rw [h.last hphase hdone, hround]
      simp
  have hrecord := record_of_new (g := g.entered (k + 1) event p) (by simp [position, entered]) hnew
  rw [hrecord]
  refine ⟨by simp [entered], ?_, by simp [entered]⟩
  intro q _ hq
  obtain rfl : p = q := Option.some.inj hq
  show log ++ [((k : Int) + 1, p)]
    = wholeRounds ((k : Int) + 1 - 1).toNat ++ (gone p).map fun q => ((k : Int) + 1, q)
  rw [add_sub_cancel_right, Int.toNat_natCast, hwhole, hgone]
  rfl

theorem logged_changes {log : List (Int × RoundPhase)} (hc : Consistent g) (h : Logged g log)
    (hchange : Changes g g') : Logged g' (record log g') := by
  cases hchange with
  | joined hphase _ _ _ =>
      rw [record_of_none (by simp [position])]
      refine ⟨fun _ => h.before (by rcases hphase with hp | hp <;> simp [hp]), ?_, ?_⟩
      · simp
      · simp
  | configured hphase _ =>
      rw [record_of_none (by simp [position, hphase])]
      exact ⟨h.before, h.during, h.after⟩
  | locked hphase _ _ =>
      rw [record_of_none (by simp [position])]
      exact ⟨fun _ => h.before (Or.inr (Or.inl hphase)), by simp, by simp⟩
  | @moved p q hphase hp hq =>
      have hnew : log.getLast? ≠ some (g.currentRound, q) := by
        rw [h.last hphase hp]
        intro heq
        exact allowed_ne hq (congrArg Prod.snd (Option.some.inj heq))
      have hposition : position { g with roundPhase := some q } = some (g.currentRound, q) := by
        simp [position, hphase]
      rw [record_of_new hposition hnew]
      refine ⟨by simp [hphase], ?_, by simp [hphase]⟩
      intro q' _ hq'
      obtain rfl : q = q' := Option.some.inj hq'
      show log ++ [(g.currentRound, q)] = _
      rw [h.during p hphase hp, gone_allowed hq, List.map_append, List.append_assoc]
      rfl
  | valued hphase hp hlast =>
      have hduring := hc.stage.during hphase
      have hwhole := h.whole hphase hduring.1 hp
      rw [record_of_none (by simp [position])]
      refine ⟨by simp, by simp, fun _ => ?_⟩
      rw [hwhole, le_antisymm hduring.2 hlast]
  | ranked hphase =>
      rw [record_of_none (by simp [position])]
      exact ⟨by simp, by simp, fun _ => h.after (Or.inl hphase)⟩

theorem logged_step {log : List (Int × RoundPhase)} (hc : Consistent g) (h : Logged g log)
    (hstep : Step g g') : Logged g' (record log g') := by
  cases hstep with
  | same =>
      rw [logged_same h]
      exact h
  | enter hdue hp => exact logged_entered hc h hdue hp
  | change hchange => exact logged_changes hc h hchange

theorem history_snoc (g : PawnhouseGame) (calls : List Call) (c : Call) :
    history digest g (calls ++ [c])
      = record (history digest g calls) (run digest g (calls ++ [c])) := by
  unfold history run
  rw [List.scanl_append, List.foldl_append, List.foldl_append]
  rfl

/-- The history of every run is the one that the game's phase stands for. -/
theorem logged_run (hc : Consistent g) (hphase : g.phase = .registration) :
    ∀ calls : List Call, Logged (run digest g calls) (history digest g calls) := by
  intro calls
  induction calls using List.reverseRecOn with
  | nil =>
      have hstart : history digest g [] = [] := by
        unfold history
        rw [List.scanl_nil, List.foldl_cons, List.foldl_nil]
        exact record_of_none (by simp [position, hphase])
      rw [hstart]
      refine ⟨fun _ => rfl, ?_, ?_⟩
      · intro p hrunning
        rw [show run digest g [] = g from rfl, hphase] at hrunning
        cases hrunning
      · intro hended
        rw [show run digest g [] = g from rfl, hphase] at hended
        simp at hended
  | append_singleton calls c ih =>
      have hlast : run digest g (calls ++ [c]) = (perform digest c).after (run digest g calls) := by
        rw [run_append]
        rfl
      have hbefore : Consistent (run digest g calls) := consistent_run calls hc
      rw [history_snoc, hlast]
      exact logged_step hbefore ih (step_perform digest hbefore c)

/-! ### The game over every run -/

/-- What a game keeps to, of a configuration and a schedule. -/
structure Orderly (config : GameConfig) (events : List WorldEvent) (g : PawnhouseGame) : Prop where
  users : (g.participants.map (·.2.userId)).Nodup
  agents : (g.participants.map (·.2.agentId)).Nodup
  room : (g.participants.length : Int) ≤ config.maxParticipants
  revealed : g.phase = .running → g.roundPhase ≠ some .eventReveal →
    g.world.revealedEventIds = (events.take g.currentRound.toNat).map (·.eventId)
  rounds : g.currentRound ≤ config.roundCount

theorem currentRound_le (h : Consistent g) : g.currentRound ≤ g.config.roundCount := by
  have hrounds := one_le_roundCount h.scheduled.config
  cases h.stage with
  | setup _ hround _ => omega
  | locked _ hround _ => omega
  | running _ _ hhigh _ => exact hhigh
  | ended _ hround _ => omega

theorem orderly_of_consistent (h : Consistent g) : Orderly g.config g.events g where
  users := by
    rw [← h.joined.listed]
    exact h.joined.users
  agents := by
    have hnames : g.participants.map (·.2.agentId) = g.participants.keys :=
      List.map_congr_left h.joined.named
    rw [hnames]
    exact h.joined.agents
  room := h.joined.room
  revealed _ _ := h.revealed
  rounds := currentRound_le h

/-- **A game stays in order through any calls, raising or not.**  Users and agents are
    distinct and no more than the game has room for; the revealed events are those of the
    rounds so far; the round counter neither goes back nor past the last round; the final
    valuation comes after every round went through all its phases in order; and from a
    `lock_portfolios` that returned on, every participant has a portfolio. -/
theorem game_orderly {hexdigest : ByteArray → String} {gameId : String} {config : GameConfig}
    {events : List WorldEvent} {eventSeed : String} (hconfig : config.postInit = .ok config)
    (hnew : new hexdigest gameId config events eventSeed = .ok g) (calls more : List Call) :
    Orderly config events (run digest g calls) ∧
      (run digest g calls).currentRound ≤ (run digest g (calls ++ more)).currentRound ∧
      ((run digest g calls).phase = .finalValuation ∨ (run digest g calls).phase = .completed →
        history digest g calls = wholeRounds config.roundCount.toNat) ∧
      ∀ locked, (lockPortfolios digest).run (run digest g calls) = .ok () locked →
        ∀ e ∈ (run digest g (calls ++ .lockPortfolios :: more)).participants,
          e.2.portfolio.isSome := by
  obtain ⟨hstart, hsame, hschedule, hphase⟩ := consistent_new hconfig hnew
  have hc : Consistent (run digest g calls) := consistent_run calls hstart
  have hkept : (run digest g calls).config = config ∧ (run digest g calls).events = events := by
    refine run_keeps (P := fun g => g.config = config ∧ g.events = events) ?_ calls hstart
      ⟨hsame, hschedule⟩
    intro g g' _ hstep hkept
    rw [hstep.kept.1, hstep.kept.2]
    exact hkept
  refine ⟨?_, ?_, ?_, ?_⟩
  · have horderly := orderly_of_consistent hc
    rw [hkept.1, hkept.2] at horderly
    exact horderly
  · rw [run_append]
    refine run_keeps (P := fun g' => (run digest g calls).currentRound ≤ g'.currentRound) ?_ more hc
      (le_refl _)
    intro g' g'' hc' hstep hle
    exact hle.trans (hstep.currentRound_le hc')
  · intro hended
    have hlog := (logged_run hstart hphase calls).after hended
    rw [hkept.1] at hlog
    exact hlog
  · intro locked hlock
    have hlocked : Closed locked := by
      rcases lockPortfolios_run digest hc.joined with ⟨e, hrun⟩ | ⟨ps, hrun, -, -, -⟩
      · rw [hrun] at hlock
        cases hlock
      · rw [hrun] at hlock
        cases hlock
        exact ⟨by simp, by simp⟩
    have hafter : (perform digest .lockPortfolios).after (run digest g calls) = locked := by
      unfold Method.after perform
      rw [hlock]
    have hnext : Consistent locked := by
      rw [← hafter]
      exact consistent_step hc (step_perform digest hc _)
    rw [run_append]
    show ∀ e ∈ (run digest ((perform digest .lockPortfolios).after (run digest g calls)) more).participants,
      e.2.portfolio.isSome
    rw [hafter]
    have hclosed : Closed (run digest locked more) :=
      run_keeps (fun _ _ _ hstep hclosed => hstep.closed hclosed) more hnext hlocked
    exact (consistent_run more hnext).configured hclosed.1 hclosed.2

/-! ### A game of one round -/

/-- A game of one round, with balanced portfolios. -/
def oneRound : PawnhouseGame where
  gameId := "one-round"
  config := { roundCount := 1, portfolioMode := .balancedAuto }
  events := [WorldState.rumor "rumor-one" 1]
  eventSeed := "seed"
  world := { eventCatalog := [("rumor-one", WorldState.rumor "rumor-one" 1)] }
  eventCommitment := "sha256:"

/-- Two participants, and every call that a game of one round needs. -/
def oneRoundCalls : List Call :=
  [.join "user-one" "agent-one", .join "user-two" "agent-two", .lockPortfolios, .start,
    .moveRoundPhase .decide .match, .moveRoundPhase .match .negotiate,
    .moveRoundPhase .negotiate .settle, .moveRoundPhase .settle .roundClose,
    .moveRoundPhase .roundClose .completed, .nextRound, .complete]

theorem oneRound_played :
    (run (fun _ => .empty) oneRound oneRoundCalls).phase = .completed ∧
      history (fun _ => .empty) oneRound oneRoundCalls = wholeRounds 1 := by
  have hcompleted : (run (fun _ => .empty) oneRound oneRoundCalls).phase = .completed := by
    decide +kernel
  have hnew : new (fun _ => "") "one-round" { roundCount := 1, portfolioMode := .balancedAuto }
      [WorldState.rumor "rumor-one" 1] "seed" = .ok oneRound := rfl
  exact ⟨hcompleted, (game_orderly rfl hnew oneRoundCalls []).2.2.1 (Or.inr hcompleted)⟩

end PawnhouseGame

end Arena402.Game.Aggregate
