/-
What holds of a game through any calls, raising or not.

The list of revealed events is never checked against the round counter, yet the two go
together: `start` and `next_round` are the only calls that reveal an event, each of them
moves the counter by one, and both are written before anything can raise.  So in every state
the revealed events are those of the first `current_round` rounds, also after a reveal that
failed; the game then stays in `event_reveal` for good.
-/
import Arena402.Game.PawnhouseGame
import Arena402.Proofs.Game.Events

namespace Arena402.Game.Aggregate

open Py

namespace PawnhouseGame

variable {digest : ByteArray → ByteArray} {g g' : PawnhouseGame}

/-! ### The schedule -/

theorem catalog_eq (events : List WorldEvent) :
    catalog events
      = (events.map fun e => (e.eventId, e)).foldl (fun d x => Dict.set d x.1 x.2) [] := by
  unfold catalog
  rw [List.foldl_map]

theorem keys_eq (events : List WorldEvent) :
    Dict.keys (events.map fun e => (e.eventId, e)) = events.map (·.eventId) := by
  simp [Dict.keys, Function.comp_def]

/-- The catalog has the events of a schedule without duplicates. -/
theorem catalog_get {events : List WorldEvent} (h : (events.map (·.eventId)).Nodup) {e : WorldEvent}
    (he : e ∈ events) : (catalog events).get e.eventId = some e := by
  rw [← keys_eq] at h
  have hitem : (e.eventId, e) ∈ events.map fun e => (e.eventId, e) :=
    List.mem_map.mpr ⟨e, he, rfl⟩
  rw [catalog_eq, Dict.get_foldl_set _ _ h, Dict.get_of_mem h hitem]
  rfl

/-- A catalog with an entry for each event has no duplicates. -/
theorem nodup_of_catalog {events : List WorldEvent}
    (h : (catalog events).length = events.length) : (events.map (·.eventId)).Nodup := by
  rw [← keys_eq]
  refine (Dict.nodup_of_length_foldl_set _ [] ?_).1
  rw [← catalog_eq, h]
  simp

/-- What the constructor checked of the schedule, which no call changes. -/
structure Scheduled (g : PawnhouseGame) : Prop where
  config : g.config.postInit = .ok g.config
  count : (g.events.length : Int) = g.config.roundCount
  distinct : (g.events.map (·.eventId)).Nodup
  rounds : ∀ (k : Nat) (e : WorldEvent), g.events[k]? = some e → e.revealRound = k + 1
  catalog : g.world.eventCatalog = catalog g.events
  prices : g.world.basePrices = initialPrices

theorem one_le_roundCount {c : GameConfig} (h : c.postInit = .ok c) : 1 ≤ c.roundCount := by
  unfold GameConfig.postInit at h
  have hrounds := (ok_of_guard h).1
  simp only [Bool.or_eq_true, decide_eq_true_eq, not_or] at hrounds
  omega

theorem maxParticipants_nonneg {c : GameConfig} (h : c.postInit = .ok c) : 0 ≤ c.maxParticipants := by
  unfold GameConfig.postInit at h
  have hbounds := (ok_of_guard (ok_of_guard (ok_of_guard (ok_of_guard h).2).2).2).1
  simp only [Bool.or_eq_true, decide_eq_true_eq, not_or] at hbounds
  omega

/-! ### Participants and progress -/

/-- One user and one agent to a participant, and no more of them than the game has room
    for. -/
structure Joined (g : PawnhouseGame) : Prop where
  agents : g.participants.keys.Nodup
  named : ∀ e ∈ g.participants, e.2.agentId = e.1
  listed : g.users = g.participants.map (·.2.userId)
  users : g.users.Nodup
  room : (g.participants.length : Int) ≤ g.config.maxParticipants

/-- Where a game can be. -/
inductive Stage (g : PawnhouseGame) : Prop
  | setup (hphase : g.phase = .registration ∨ g.phase = .portfolioSetup)
      (hround : g.currentRound = 0) (hnone : g.roundPhase = none)
  | locked (hphase : g.phase = .portfolioLocked) (hround : g.currentRound = 0)
      (hnone : g.roundPhase = none)
  | running {p : RoundPhase} (hphase : g.phase = .running) (hlow : 1 ≤ g.currentRound)
      (hhigh : g.currentRound ≤ g.config.roundCount) (hp : g.roundPhase = some p)
  | ended (hphase : g.phase = .finalValuation ∨ g.phase = .completed)
      (hround : g.currentRound = g.config.roundCount) (hnone : g.roundPhase = none)

theorem Stage.before (h : Stage g) (hphase : g.phase = .registration ∨ g.phase = .portfolioSetup ∨
    g.phase = .portfolioLocked) : g.currentRound = 0 ∧ g.roundPhase = none := by
  cases h with
  | setup _ hround hnone | locked _ hround hnone => exact ⟨hround, hnone⟩
  | running hp _ _ _ => simp [hp] at hphase
  | ended hp _ _ => rcases hp with hp | hp <;> simp [hp] at hphase

theorem Stage.during (h : Stage g) (hphase : g.phase = .running) :
    1 ≤ g.currentRound ∧ g.currentRound ≤ g.config.roundCount := by
  cases h with
  | setup hp _ _ | locked hp _ _ => simp [hphase] at hp
  | running _ hlow hhigh _ => exact ⟨hlow, hhigh⟩
  | ended hp _ _ => simp [hphase] at hp

theorem Stage.valued (h : Stage g) (hphase : g.phase = .finalValuation) :
    g.currentRound = g.config.roundCount ∧ g.roundPhase = none := by
  cases h with
  | setup hp _ _ | locked hp _ _ | running hp _ _ _ => simp [hphase] at hp
  | ended _ hround hnone => exact ⟨hround, hnone⟩

/-- A game that was built by the constructor and the eight methods. -/
structure Consistent (g : PawnhouseGame) : Prop where
  scheduled : Scheduled g
  joined : Joined g
  stage : Stage g
  revealed : g.world.revealedEventIds = (g.events.take g.currentRound.toNat).map (·.eventId)
  configured : g.phase ≠ .registration → g.phase ≠ .portfolioSetup →
    ∀ e ∈ g.participants, e.2.portfolio.isSome

/-- The constructor gives a consistent game. -/
theorem consistent_new {hexdigest : ByteArray → String} {gameId : String} {config : GameConfig}
    {events : List WorldEvent} {eventSeed : String} (hconfig : config.postInit = .ok config)
    (h : new hexdigest gameId config events eventSeed = .ok g) :
    Consistent g ∧ g.config = config ∧ g.events = events ∧ g.phase = .registration := by
  unfold new at h
  obtain ⟨-, h⟩ := ok_of_guard h
  obtain ⟨-, h⟩ := ok_of_guard h
  obtain ⟨hcount, h⟩ := ok_of_guard h
  obtain ⟨hrounds, h⟩ := ok_of_guard h
  obtain ⟨hlength, h⟩ := ok_of_guard h
  obtain ⟨world, hworld, h⟩ := ok_of_bind h
  obtain ⟨commitment, -, h⟩ := ok_of_bind h
  obtain rfl := Except.ok.inj h
  unfold WorldState.postInit at hworld
  obtain rfl := Except.ok.inj (ok_of_guard hworld).2
  refine ⟨⟨⟨hconfig, not_not.mp hcount, nodup_of_catalog (not_not.mp hlength), ?_, rfl, rfl⟩,
    ⟨List.nodup_nil, by simp, rfl, List.nodup_nil, maxParticipants_nonneg hconfig⟩,
    .setup (Or.inl rfl) rfl rfl, rfl, by simp⟩, rfl, rfl, rfl⟩
  intro k e hk
  have hround : (events.map (·.revealRound))[k]? = some e.revealRound := by
    rw [List.getElem?_map]
    dsimp only at hk
    rw [hk]
    rfl
  rw [not_not.mp hrounds, List.getElem?_map] at hround
  obtain ⟨j, hj, hround⟩ := Option.map_eq_some_iff.mp hround
  rw [List.getElem?_range] at hj
  · rw [← hround, ← Option.some.inj hj]
  · by_contra hge
    rw [List.getElem?_eq_none (by simpa using hge)] at hj
    cases hj

/-! ### Balanced portfolios -/

theorem initial_oneUnit (good : Good) :
    ∃ p, Portfolio.initial (initialNetWorthAtomic - initialPrices good) (oneUnit good) = .ok p := by
  cases good <;> exact ⟨_, rfl⟩

/-- Every distinct agent gets a portfolio. -/
theorem distribute_returns (digest : ByteArray → ByteArray) {agentIds : List String}
    (h : agentIds.Nodup) (seed : String) :
    ∃ portfolios, distributeBalancedPortfolios digest agentIds seed = .ok portfolios ∧
      portfolios.keys = agentIds := by
  have hloop : ∀ (l : List (String × Nat)) (d : Dict String Portfolio),
      (d.keys ++ l.map (·.1)).Nodup →
      ∃ portfolios, l.foldlM (fun portfolios entry => do
          let portfolio ← balancedPortfolio digest seed initialPrices entry
          return Dict.set portfolios entry.1 portfolio) d = (.ok portfolios : Except String _) ∧
        portfolios.keys = d.keys ++ l.map (·.1) := by
    intro l
    induction l with
    | nil =>
        intro d _
        exact ⟨d, rfl, by simp⟩
    | cons entry rest ih =>
        intro d hnodup
        obtain ⟨p, hp⟩ := initial_oneUnit (drawnGood digest seed entry.1 entry.2)
        have hportfolio : balancedPortfolio digest seed initialPrices entry = .ok p := hp
        have hfresh : entry.1 ∉ d.keys := by
          intro hmem
          rw [List.nodup_append] at hnodup
          exact hnodup.2.2 _ hmem _ (by simp) rfl
        have hkeys : (Dict.set d entry.1 p).keys ++ rest.map (·.1)
            = d.keys ++ (entry :: rest).map (·.1) := by
          rw [Dict.keys_set, if_neg hfresh]
          simp
        obtain ⟨portfolios, hrest, hall⟩ := ih (Dict.set d entry.1 p) (by rw [hkeys]; exact hnodup)
        refine ⟨portfolios, ?_, hall.trans hkeys⟩
        rw [List.foldlM_cons, hportfolio]
        exact hrest
  have hnames : agentIds.zipIdx.map (·.1) = agentIds := List.zipIdx_map_fst 0 agentIds
  unfold distributeBalancedPortfolios
  rw [h.dedup, if_neg (by simp)]
  obtain ⟨portfolios, hreturns, hkeys⟩ := hloop agentIds.zipIdx [] (by
    rw [hnames]
    exact h)
  refine ⟨portfolios, hreturns, ?_⟩
  rw [hkeys, hnames]
  rfl

/-- A participant keeps its user and its agent. -/
def Identified (p p' : GameParticipant) : Prop :=
  p'.userId = p.userId ∧ p'.agentId = p.agentId

theorem identified_refl (p : GameParticipant) : Identified p p :=
  ⟨rfl, rfl⟩

/-- The loop writes a portfolio for every agent it comes to. -/
theorem assignPortfolios_run : ∀ (l : List (String × Portfolio)) (g : PawnhouseGame),
    (∀ e ∈ l, (g.participants.get e.1).isSome) →
      ∃ ps, (assignPortfolios l).run g = .ok () { g with participants := ps } ∧
        Dict.Related Identified g.participants ps ∧
        ∀ k p, ps.get k = some p →
          p.portfolio.isSome ∨ (g.participants.get k = some p ∧ k ∉ l.map (·.1)) := by
  intro l
  induction l with
  | nil =>
      intro g _
      exact ⟨g.participants, rfl, Dict.Related.refl identified_refl _, fun k p hp => Or.inr ⟨hp, by simp⟩⟩
  | cons entry rest ih =>
      intro g hknown
      obtain ⟨old, hold⟩ := Option.isSome_iff_exists.mp (hknown entry List.mem_cons_self)
      let written := g.participants.set entry.1 { old with portfolio := some entry.2 }
      have hassign : assignPortfolio g.participants entry = .ok written := by
        unfold assignPortfolio
        rw [hold]
      obtain ⟨ps, hrun, hrel, hall⟩ := ih { g with participants := written } (fun e he =>
        Dict.isSome_get_set _ _ _ (hknown e (List.mem_cons_of_mem _ he)))
      refine ⟨ps, ?_, ?_, ?_⟩
      · unfold assignPortfolios
        rw [Method.run_get_bind, Method.run_check_bind, hassign]
        dsimp only
        rw [Method.run_modify_bind]
        exact hrun
      · have hwritten : Dict.Related Identified g.participants written :=
          Dict.related_set identified_refl _ ⟨old, hold, rfl, rfl⟩
        refine Dict.Related.trans ?_ hwritten hrel
        exact fun a b c hab hbc => ⟨hbc.1.trans hab.1, hbc.2.trans hab.2⟩
      · intro k p hp
        rcases hall k p hp with hsome | ⟨hget, hnot⟩
        · exact Or.inl hsome
        · refine Dict.of_get_set hget ?_ ?_
          · rintro rfl rfl
            exact Or.inl rfl
          · intro hne hbefore
            refine Or.inr ⟨hbefore, ?_⟩
            simp only [List.map_cons, List.mem_cons, not_or]
            exact ⟨hne, hnot⟩

/-! ### What a call can do -/

/-- A game that is about to reveal the event of a round. -/
def opened (g : PawnhouseGame) (r : Int) : PawnhouseGame :=
  { g with phase := .running, currentRound := r, roundPhase := some .eventReveal }

/-- A game that has entered a round and written its event down. -/
def entered (g : PawnhouseGame) (r : Int) (event : WorldEvent) (p : RoundPhase) : PawnhouseGame :=
  { g with
    phase := .running
    currentRound := r
    roundPhase := some p
    world := g.world.withEvent event.eventId }

/-- The round that a call enters, with its event. -/
def due (g : PawnhouseGame) : Call → Option (Int × WorldEvent)
  | .start =>
    if g.phase = .portfolioLocked then (g.events[0]?).map fun event => (1, event) else none
  | .nextRound =>
    if g.phase = .running ∧ g.roundPhase = some .completed ∧
        g.currentRound < g.config.roundCount then
      (g.events[g.currentRound.toNat]?).map fun event => (g.currentRound + 1, event)
    else none
  | _ => none

/-- What a call that enters no round can do to a game. -/
inductive Changes (g : PawnhouseGame) : PawnhouseGame → Prop
  | joined {userId agentId : String}
      (hphase : g.phase = .registration ∨ g.phase = .portfolioSetup) (huser : userId ∉ g.users)
      (hagent : g.participants.get agentId = none)
      (hroom : (g.participants.length : Int) < g.config.maxParticipants) :
      Changes g { g with
        users := g.users ++ [userId]
        participants := g.participants.set agentId { userId, agentId }
        phase := .portfolioSetup }
  | configured {ps : Dict String GameParticipant} (hphase : g.phase = .portfolioSetup)
      (hsame : Dict.Related Identified g.participants ps) : Changes g { g with participants := ps }
  | locked {ps : Dict String GameParticipant} (hphase : g.phase = .portfolioSetup)
      (hsame : Dict.Related Identified g.participants ps)
      (hall : ∀ e ∈ ps, e.2.portfolio.isSome) :
      Changes g { g with participants := ps, phase := .portfolioLocked }
  | moved {p q : RoundPhase} (hphase : g.phase = .running) (hp : g.roundPhase = some p)
      (hq : allowed p = some q) : Changes g { g with roundPhase := some q }
  | valued (hphase : g.phase = .running) (hp : g.roundPhase = some .completed)
      (hlast : g.config.roundCount ≤ g.currentRound) :
      Changes g { g with phase := .finalValuation, roundPhase := none }
  | ranked {rankings : List RankingEntry} (hphase : g.phase = .finalValuation) :
      Changes g { g with rankings := rankings, phase := .completed }

/-- A method that raises without a trace, or returns after one of the changes. -/
def Clean (m : Method PawnhouseGame Unit) (g : PawnhouseGame) : Prop :=
  (∃ e, m.run g = .error e g) ∨ ∃ g', m.run g = .ok () g' ∧ Changes g g'

theorem clean_join (userId agentId : String) : Clean (join userId agentId) g := by
  unfold Clean join
  rw [Method.run_get_bind]
  by_cases hphase : g.phase ≠ .registration ∧ g.phase ≠ .portfolioSetup
  · rw [if_pos hphase]
    exact Or.inl ⟨_, rfl⟩
  rw [if_neg hphase]
  by_cases hempty : userId.isEmpty ∨ agentId.isEmpty
  · rw [if_pos hempty]
    exact Or.inl ⟨_, rfl⟩
  rw [if_neg hempty]
  by_cases huser : userId ∈ g.users
  · rw [if_pos huser]
    exact Or.inl ⟨_, rfl⟩
  rw [if_neg huser]
  by_cases hagent : (g.participants.get agentId).isSome
  · rw [if_pos hagent]
    exact Or.inl ⟨_, rfl⟩
  rw [if_neg hagent]
  by_cases hroom : g.config.maxParticipants ≤ g.participants.length
  · rw [if_pos hroom]
    exact Or.inl ⟨_, rfl⟩
  rw [if_neg hroom]
  refine Or.inr ⟨_, rfl, .joined ?_ huser ?_ (not_le.mp hroom)⟩
  · by_contra hnot
    exact hphase (not_or.mp hnot)
  · exact Option.not_isSome_iff_eq_none.mp hagent

theorem clean_configurePortfolio (agentId : String) (portfolio : Portfolio) :
    Clean (configurePortfolio agentId portfolio) g := by
  unfold Clean configurePortfolio
  rw [Method.run_get_bind]
  by_cases hphase : g.phase ≠ .portfolioSetup
  · rw [if_pos hphase]
    exact Or.inl ⟨_, rfl⟩
  rw [if_neg hphase]
  cases hget : g.participants.get agentId with
  | none => exact Or.inl ⟨_, rfl⟩
  | some participant =>
      refine Or.inr ⟨_, rfl, .configured (not_not.mp hphase) ?_⟩
      exact Dict.related_set identified_refl _ ⟨participant, hget, rfl, rfl⟩

theorem clean_moveRoundPhase (expected target : RoundPhase) :
    Clean (moveRoundPhase expected target) g := by
  unfold Clean moveRoundPhase
  rw [Method.run_get_bind]
  by_cases hphase : g.phase ≠ .running ∨ g.roundPhase ≠ some expected
  · rw [if_pos hphase]
    exact Or.inl ⟨_, rfl⟩
  rw [if_neg hphase]
  rw [not_or, not_not, not_not] at hphase
  by_cases hallowed : allowed expected ≠ some target
  · rw [if_pos hallowed]
    exact Or.inl ⟨_, rfl⟩
  rw [if_neg hallowed]
  exact Or.inr ⟨_, rfl, .moved hphase.1 hphase.2 (not_not.mp hallowed)⟩

/-- The balanced mode gives everyone a portfolio, the manual one writes nothing. -/
theorem balance_run (digest : ByteArray → ByteArray) (h : Joined g) :
    ∃ ps, (balance digest).run g = .ok () { g with participants := ps } ∧
      Dict.Related Identified g.participants ps ∧
      (ps = g.participants ∨ ∀ e ∈ ps, e.2.portfolio.isSome) := by
  unfold balance
  rw [Method.run_get_bind]
  by_cases hmode : g.config.portfolioMode = .balancedAuto
  · rw [if_pos hmode]
    obtain ⟨portfolios, hdistribute, hkeys⟩ := distribute_returns digest h.agents g.eventSeed
    have hknown : ∀ e ∈ portfolios, (g.participants.get e.1).isSome := by
      intro e he
      rw [← Dict.mem_keys_iff, ← hkeys]
      exact List.mem_map_of_mem he
    obtain ⟨ps, hrun, hrel, hall⟩ := assignPortfolios_run portfolios g hknown
    refine ⟨ps, ?_, hrel, Or.inr ?_⟩
    · rw [Method.run_check_bind, hdistribute]
      exact hrun
    · intro e he
      have hsame : ps.keys = g.participants.keys := hrel.map_eq fun _ _ _ _ => rfl
      have hnodup : ps.keys.Nodup := by
        rw [hsame]
        exact h.agents
      rcases hall e.1 e.2 (Dict.get_of_mem hnodup he) with hsome | ⟨-, hnot⟩
      · exact hsome
      · refine absurd ?_ hnot
        have hmem : e.1 ∈ ps.keys := List.mem_map_of_mem he
        rw [hsame, ← hkeys] at hmem
        exact hmem
  · rw [if_neg hmode]
    exact ⟨g.participants, rfl, Dict.Related.refl identified_refl _, Or.inl rfl⟩

/-- `lock_portfolios` raises without a trace, or everyone has a portfolio. -/
theorem lockPortfolios_run (digest : ByteArray → ByteArray) (h : Joined g) :
    (∃ e, (lockPortfolios digest).run g = .error e g) ∨
      ∃ ps, (lockPortfolios digest).run g
          = .ok () { g with participants := ps, phase := .portfolioLocked } ∧
        g.phase = .portfolioSetup ∧ Dict.Related Identified g.participants ps ∧
        ∀ e ∈ ps, e.2.portfolio.isSome := by
  unfold lockPortfolios
  rw [Method.run_get_bind]
  by_cases hphase : g.phase ≠ .portfolioSetup
  · rw [if_pos hphase]
    exact Or.inl ⟨_, rfl⟩
  rw [if_neg hphase]
  by_cases hfew : (g.participants.length : Int) < g.config.minParticipants
  · rw [if_pos hfew]
    exact Or.inl ⟨_, rfl⟩
  rw [if_neg hfew]
  obtain ⟨ps, hrun, hrel, hps⟩ := balance_run digest h
  rw [Method.run_bind, hrun]
  dsimp only
  unfold lockConfigured
  rw [Method.run_get_bind]
  by_cases hmissing : (Dict.values ps).any (·.portfolio.isNone) = true
  · rw [if_pos hmissing]
    refine Or.inl ⟨"every participant must configure a portfolio", ?_⟩
    rcases hps with rfl | hall
    · rfl
    · exfalso
      obtain ⟨p, hp, hnone⟩ := List.any_eq_true.mp hmissing
      obtain ⟨e, he, rfl⟩ := List.mem_map.mp hp
      have hsome := hall e he
      rw [Option.isNone_iff_eq_none.mp hnone] at hsome
      cases hsome
  · rw [if_neg hmissing]
    refine Or.inr ⟨ps, rfl, not_not.mp hphase, hrel, ?_⟩
    intro e he
    by_contra hnone
    refine hmissing (List.any_eq_true.mpr ⟨e.2, List.mem_map_of_mem he, ?_⟩)
    rw [Option.not_isSome_iff_eq_none.mp hnone]
    rfl

theorem clean_lockPortfolios (h : Joined g) : Clean (lockPortfolios digest) g := by
  rcases lockPortfolios_run digest h with ⟨e, hrun⟩ | ⟨ps, hrun, hphase, hsame, hall⟩
  · exact Or.inl ⟨e, hrun⟩
  · exact Or.inr ⟨_, hrun, .locked hphase hsame hall⟩

theorem clean_complete : Clean (do let _ ← complete; return) g := by
  unfold Clean
  rw [Method.run_drop]
  unfold complete
  rw [Method.run_get_bind]
  by_cases hphase : g.phase ≠ .finalValuation
  · rw [if_pos hphase]
    exact Or.inl ⟨_, rfl⟩
  rw [if_neg hphase, Method.run_check_bind]
  cases g.world.snapshot g.config.roundCount with
  | error e => exact Or.inl ⟨e, rfl⟩
  | ok snapshot =>
      dsimp only
      rw [Method.run_check_bind]
      cases finalPortfolios g.participants with
      | error e => exact Or.inl ⟨e, rfl⟩
      | ok portfolios =>
          dsimp only
          rw [Method.run_check_bind]
          cases calculateRankings portfolios snapshot.finalPrices with
          | error e => exact Or.inl ⟨e, rfl⟩
          | ok rankings => exact Or.inr ⟨_, rfl, .ranked (not_not.mp hphase)⟩

/-! ### Entering a round -/

/-- The event of a round that has not been entered. -/
theorem revealError_none (h : Scheduled g) {k : Nat} {event : WorldEvent}
    (hevent : g.events[k]? = some event)
    (hrevealed : g.world.revealedEventIds = (g.events.take k).map (·.eventId)) :
    g.world.revealError event.eventId (k + 1) = none := by
  unfold WorldState.revealError
  rw [h.catalog, catalog_get h.distinct (List.mem_of_getElem? hevent)]
  dsimp only
  rw [if_neg (not_not.mpr (h.rounds k event hevent)), if_neg]
  rw [hrevealed, List.map_take]
  intro hmem
  -- the ids are distinct, so one of the first `k` cannot be the one at `k`
  obtain ⟨j, hj, hid⟩ := List.mem_take_iff_getElem.mp hmem
  have hk : (g.events.map (·.eventId))[k]? = some event.eventId := by
    rw [List.getElem?_map, hevent]
    rfl
  obtain ⟨hlt, hget⟩ := List.getElem?_eq_some_iff.mp hk
  have heq := (h.distinct.getElem_inj_iff).mp (hid.trans hget.symm)
  omega

/-- The event of a round that has been entered is not revealed again. -/
theorem revealError_some (h : Scheduled g) {k : Nat} {event : WorldEvent}
    (hevent : g.events[k]? = some event)
    (hrevealed : g.world.revealedEventIds = (g.events.take (k + 1)).map (·.eventId)) :
    g.world.revealError event.eventId (k + 1) = some "event was already revealed" := by
  unfold WorldState.revealError
  rw [h.catalog, catalog_get h.distinct (List.mem_of_getElem? hevent)]
  dsimp only
  rw [if_neg (not_not.mpr (h.rounds k event hevent)), if_pos]
  rw [hrevealed, List.take_add_one, hevent]
  simp

/-- The event of a round is revealed, and the snapshot decides whether the round goes on. -/
theorem revealCurrentEvent_run {k : Nat} {event : WorldEvent} (hevent : g.events[k]? = some event)
    (hphase : g.phase = .running) (hp : g.roundPhase = some .eventReveal)
    (hround : g.currentRound = k + 1)
    (hnew : g.world.revealError event.eventId (k + 1) = none) :
    revealCurrentEvent.run g =
      match (g.world.withEvent event.eventId).snapshot (k + 1) with
      | .ok snapshot => .ok snapshot (g.entered (k + 1) event .decide)
      | .error e => .error e (g.entered (k + 1) event .eventReveal) := by
  have hindex : index g.events (g.currentRound - 1) = .ok event := by
    rw [hround, add_sub_cancel_right]
    exact index_natCast hevent
  unfold revealCurrentEvent
  rw [Method.run_get_bind, if_neg (by simp [hphase, hp]), Method.run_check_bind, hindex]
  dsimp only
  have hreveal := WorldState.reveal_run g.world event.eventId (k + 1)
  rw [hnew] at hreveal
  rw [Method.run_bind, Method.run_onField, hround, hreveal]
  cases hsnapshot : (g.world.withEvent event.eventId).snapshot (k + 1) with
  | ok snapshot =>
      dsimp only
      rw [Method.run_modify_bind, Method.run_pure]
      unfold entered
      rw [hphase]
  | error e =>
      dsimp only
      unfold entered
      rw [hphase, hp]

/-- A call enters the round after the current one. -/
theorem due_cases (h : Consistent g) {c : Call} {r : Int} {event : WorldEvent}
    (hdue : g.due c = some (r, event)) :
    ∃ k : Nat, g.currentRound = k ∧ r = k + 1 ∧ g.events[k]? = some event ∧
      ((c = .start ∧ g.phase = .portfolioLocked ∧ k = 0) ∨
        (c = .nextRound ∧ g.phase = .running ∧ g.roundPhase = some .completed ∧
          g.currentRound < g.config.roundCount)) := by
  unfold due at hdue
  split at hdue
  · by_cases hphase : g.phase = .portfolioLocked
    · rw [if_pos hphase] at hdue
      obtain ⟨found, hfound, hpair⟩ := Option.map_eq_some_iff.mp hdue
      cases hpair
      have hround := (h.stage.before (Or.inr (Or.inr hphase))).1
      exact ⟨0, hround, rfl, hfound, Or.inl ⟨rfl, hphase, rfl⟩⟩
    · rw [if_neg hphase] at hdue
      cases hdue
  · by_cases hopen : g.phase = .running ∧ g.roundPhase = some .completed ∧
        g.currentRound < g.config.roundCount
    · rw [if_pos hopen] at hdue
      obtain ⟨found, hfound, hpair⟩ := Option.map_eq_some_iff.mp hdue
      cases hpair
      have hlow := (h.stage.during hopen.1).1
      have hnonneg : ((g.currentRound.toNat : Nat) : Int) = g.currentRound := by omega
      exact ⟨g.currentRound.toNat, hnonneg.symm, by rw [hnonneg], hfound,
        Or.inr ⟨rfl, hopen⟩⟩
    · rw [if_neg hopen] at hdue
      cases hdue
  · cases hdue

/-- A call that enters a round: the snapshot decides whether it returns. -/
theorem perform_due (h : Consistent g) {c : Call} {r : Int} {event : WorldEvent}
    (hdue : g.due c = some (r, event)) :
    (perform digest c).run g =
      match (g.world.withEvent event.eventId).snapshot r with
      | .ok _ => .ok () (g.entered r event .decide)
      | .error e => .error e (g.entered r event .eventReveal) := by
  obtain ⟨k, hround, rfl, hevent, hcall⟩ := due_cases h hdue
  have hrevealed := h.revealed
  rw [hround, Int.toNat_natCast] at hrevealed
  have hnew := revealError_none h.scheduled hevent hrevealed
  have hreveal : revealCurrentEvent.run (g.opened (k + 1)) =
      match (g.world.withEvent event.eventId).snapshot (k + 1) with
      | .ok snapshot => .ok snapshot (g.entered (k + 1) event .decide)
      | .error e => .error e (g.entered (k + 1) event .eventReveal) :=
    revealCurrentEvent_run (g := g.opened (k + 1)) hevent rfl rfl rfl hnew
  rcases hcall with ⟨rfl, hphase, rfl⟩ | ⟨rfl, hphase, hp, hopen⟩
  · show (do let _ ← start; return : Method PawnhouseGame Unit).run g = _
    have hstart : start.run g = revealCurrentEvent.run (g.opened ((0 : Nat) + 1)) := by
      unfold start
      rw [Method.run_get_bind, if_neg (not_not.mpr hphase)]
      rfl
    rw [Method.run_drop, hstart, hreveal]
    cases (g.world.withEvent event.eventId).snapshot ((0 : Nat) + 1) with
    | ok snapshot => rfl
    | error e => rfl
  · show (do let _ ← nextRound; return : Method PawnhouseGame Unit).run g = _
    have hopened : { g with currentRound := g.currentRound + 1, roundPhase := some .eventReveal }
        = g.opened (k + 1) := by
      unfold opened
      rw [hphase, hround]
    have hnext : nextRound.run g
        = (revealCurrentEvent >>= fun s => pure (some s)).run (g.opened (k + 1)) := by
      unfold nextRound
      rw [Method.run_get_bind, if_neg (by simp [hphase, hp]), if_neg (not_le.mpr hopen), ← hopened]
      rfl
    rw [Method.run_drop, hnext, Method.run_bind, hreveal]
    cases (g.world.withEvent event.eventId).snapshot (k + 1) with
    | ok snapshot => rfl
    | error e => rfl

/-- In every reachable state the event of the current round is revealed already. -/
theorem clean_revealCurrentEvent (h : Consistent g) :
    Clean (do let _ ← revealCurrentEvent; return) g := by
  unfold Clean
  rw [Method.run_drop]
  by_cases hready : g.phase ≠ .running ∨ g.roundPhase ≠ some .eventReveal
  · unfold revealCurrentEvent
    rw [Method.run_get_bind, if_pos hready]
    exact Or.inl ⟨_, rfl⟩
  have hnot := hready
  rw [not_or, not_not, not_not] at hnot
  obtain ⟨k, hk⟩ : ∃ k : Nat, g.currentRound = k + 1 ∧ k < g.events.length := by
    have hcount := h.scheduled.count
    have hrange := h.stage.during hnot.1
    exact ⟨(g.currentRound - 1).toNat, by omega, by omega⟩
  have hrevealed := h.revealed
  rw [hk.1, show ((k : Int) + 1).toNat = k + 1 by omega] at hrevealed
  have hevent := List.getElem?_eq_getElem hk.2
  have hagain := revealError_some h.scheduled hevent hrevealed
  have hindex : index g.events (g.currentRound - 1) = .ok g.events[k] := by
    rw [hk.1, add_sub_cancel_right]
    exact index_natCast hevent
  have hreveal := WorldState.reveal_run g.world g.events[k].eventId (k + 1)
  rw [hagain, ← hk.1] at hreveal
  refine Or.inl ⟨"event was already revealed", ?_⟩
  unfold revealCurrentEvent
  rw [Method.run_get_bind, if_neg hready, Method.run_check_bind, hindex]
  dsimp only
  rw [Method.run_bind, Method.run_onField, hreveal]

/-- A call that enters no round raises without a trace or makes one of the changes. -/
theorem perform_not_due (digest : ByteArray → ByteArray) (h : Consistent g) {c : Call}
    (hdue : g.due c = none) :
    Clean (perform digest c) g := by
  have hcount := h.scheduled.count
  have hrounds := one_le_roundCount h.scheduled.config
  cases c with
  | join userId agentId => exact clean_join userId agentId
  | configurePortfolio agentId portfolio => exact clean_configurePortfolio agentId portfolio
  | lockPortfolios => exact clean_lockPortfolios h.joined
  | start =>
      have hphase : g.phase ≠ .portfolioLocked := by
        intro hphase
        simp only [due, if_pos hphase, Option.map_eq_none_iff, List.getElem?_eq_none_iff] at hdue
        omega
      unfold Clean perform
      rw [Method.run_drop]
      unfold start
      rw [Method.run_get_bind, if_pos hphase]
      exact Or.inl ⟨_, rfl⟩
  | revealCurrentEvent => exact clean_revealCurrentEvent h
  | moveRoundPhase expected target => exact clean_moveRoundPhase expected target
  | nextRound =>
      unfold Clean perform
      rw [Method.run_drop]
      unfold nextRound
      rw [Method.run_get_bind]
      by_cases hready : g.phase ≠ .running ∨ g.roundPhase ≠ some .completed
      · rw [if_pos hready]
        exact Or.inl ⟨_, rfl⟩
      rw [if_neg hready]
      rw [not_or, not_not, not_not] at hready
      by_cases hlast : g.config.roundCount ≤ g.currentRound
      · rw [if_pos hlast]
        exact Or.inr ⟨_, rfl, .valued hready.1 hready.2 hlast⟩
      · exfalso
        simp only [due, if_pos (And.intro hready.1 (And.intro hready.2 (not_le.mp hlast))),
          Option.map_eq_none_iff, List.getElem?_eq_none_iff] at hdue
        omega
  | complete => exact clean_complete

/-! ### Every call keeps the game consistent -/

/-- What one call did to the game, whether it raised or not. -/
inductive Step (g : PawnhouseGame) : PawnhouseGame → Prop
  | same : Step g g
  | enter {c : Call} {r : Int} {event : WorldEvent} {p : RoundPhase}
      (hdue : g.due c = some (r, event)) (hp : p = .decide ∨ p = .eventReveal) :
      Step g (g.entered r event p)
  | change {g' : PawnhouseGame} (hchange : Changes g g') : Step g g'

theorem step_perform (digest : ByteArray → ByteArray) (h : Consistent g) (c : Call) :
    Step g ((perform digest c).after g) := by
  unfold Method.after
  cases hdue : g.due c with
  | none =>
      rcases perform_not_due digest h hdue with ⟨e, hrun⟩ | ⟨g', hrun, hchange⟩
      · rw [hrun]
        exact .same
      · rw [hrun]
        exact .change hchange
  | some found =>
      obtain ⟨r, event⟩ := found
      rw [perform_due h hdue]
      cases (g.world.withEvent event.eventId).snapshot r with
      | ok snapshot => exact .enter hdue (Or.inl rfl)
      | error e => exact .enter hdue (Or.inr rfl)

/-- No call touches the configuration or the schedule. -/
theorem Step.kept (h : Step g g') : g'.config = g.config ∧ g'.events = g.events := by
  cases h with
  | same | enter => exact ⟨rfl, rfl⟩
  | change hchange => cases hchange <;> exact ⟨rfl, rfl⟩

/-- Participants that keep their users and agents. -/
theorem Joined.identified (h : Joined g) {ps : Dict String GameParticipant}
    (hsame : Dict.Related Identified g.participants ps) (hnext : g'.participants = ps)
    (husers : g'.users = g.users) (hconfig : g'.config = g.config) : Joined g' := by
  have hkeys : ps.keys = g.participants.keys := hsame.map_eq fun _ _ _ _ => rfl
  have hids : ps.map (·.2.userId) = g.participants.map (·.2.userId) :=
    hsame.map_eq fun _ _ _ hid => hid.1
  refine ⟨?_, ?_, ?_, ?_, ?_⟩
  · rw [hnext, hkeys]
    exact h.agents
  · rw [hnext]
    intro e he
    obtain ⟨old, hold, hkey, -, hagent⟩ := hsame.mem_back he
    rw [hagent, hkey]
    exact h.named old hold
  · rw [husers, hnext, hids]
    exact h.listed
  · rw [husers]
    exact h.users
  · rw [hnext, hconfig, ← hsame.length_eq]
    exact h.room

theorem Joined.join (h : Joined g) {userId agentId : String} (huser : userId ∉ g.users)
    (hagent : g.participants.get agentId = none)
    (hroom : (g.participants.length : Int) < g.config.maxParticipants) :
    Joined { g with
      users := g.users ++ [userId]
      participants := g.participants.set agentId { userId, agentId }
      phase := .portfolioSetup } := by
  have hset := Dict.set_of_get_none (v := ({ userId, agentId } : GameParticipant)) hagent
  refine ⟨Dict.nodup_keys_set h.agents _ _, ?_, ?_, ?_, ?_⟩
  · intro e he
    rcases Dict.mem_set he with rfl | hold
    · rfl
    · exact h.named e hold
  · dsimp only
    rw [hset, h.listed]
    simp
  · exact List.nodup_append.mpr ⟨h.users, List.nodup_singleton _, by
      intro a ha b hb hab
      rw [List.mem_singleton.mp hb] at hab
      exact huser (hab ▸ ha)⟩
  · dsimp only
    rw [hset, List.length_append, List.length_singleton]
    omega

theorem Scheduled.congr (h : Scheduled g) (hconfig : g'.config = g.config)
    (hevents : g'.events = g.events)
    (hcatalog : g'.world.eventCatalog = g.world.eventCatalog)
    (hprices : g'.world.basePrices = g.world.basePrices) : Scheduled g' where
  config := by
    rw [hconfig]
    exact h.config
  count := by
    rw [hevents, hconfig]
    exact h.count
  distinct := by
    rw [hevents]
    exact h.distinct
  rounds := by
    rw [hevents]
    exact h.rounds
  catalog := by
    rw [hcatalog, hevents]
    exact h.catalog
  prices := by
    rw [hprices]
    exact h.prices

theorem consistent_changes (h : Consistent g) (hchange : Changes g g') : Consistent g' := by
  have hsame := Dict.Related.refl identified_refl g.participants
  cases hchange with
  | joined hphase huser hagent hroom =>
      have hbefore := h.stage.before (by rcases hphase with hp | hp <;> simp [hp])
      exact ⟨h.scheduled.congr rfl rfl rfl rfl, h.joined.join huser hagent hroom,
        .setup (Or.inr rfl) hbefore.1 hbefore.2, h.revealed, fun _ hsetup => absurd rfl hsetup⟩
  | configured hphase hsame =>
      have hbefore := h.stage.before (Or.inr (Or.inl hphase))
      exact ⟨h.scheduled.congr rfl rfl rfl rfl, h.joined.identified hsame rfl rfl rfl,
        .setup (Or.inr hphase) hbefore.1 hbefore.2, h.revealed,
        fun _ hsetup => absurd hphase hsetup⟩
  | locked hphase hsame hall =>
      have hbefore := h.stage.before (Or.inr (Or.inl hphase))
      exact ⟨h.scheduled.congr rfl rfl rfl rfl, h.joined.identified hsame rfl rfl rfl,
        .locked rfl hbefore.1 hbefore.2, h.revealed, fun _ _ => hall⟩
  | moved hphase hp hq =>
      have hduring := h.stage.during hphase
      exact ⟨h.scheduled.congr rfl rfl rfl rfl, h.joined.identified hsame rfl rfl rfl,
        .running hphase hduring.1 hduring.2 rfl, h.revealed, h.configured⟩
  | valued hphase hp hlast =>
      have hduring := h.stage.during hphase
      exact ⟨h.scheduled.congr rfl rfl rfl rfl, h.joined.identified hsame rfl rfl rfl,
        .ended (Or.inl rfl) (le_antisymm hduring.2 hlast) rfl, h.revealed,
        fun _ _ => h.configured (by simp [hphase]) (by simp [hphase])⟩
  | ranked hphase =>
      have hvalued := h.stage.valued hphase
      exact ⟨h.scheduled.congr rfl rfl rfl rfl, h.joined.identified hsame rfl rfl rfl,
        .ended (Or.inr rfl) hvalued.1 hvalued.2, h.revealed,
        fun _ _ => h.configured (by simp [hphase]) (by simp [hphase])⟩

theorem consistent_entered (h : Consistent g) {c : Call} {r : Int} {event : WorldEvent}
    {p : RoundPhase} (hdue : g.due c = some (r, event)) : Consistent (g.entered r event p) := by
  obtain ⟨k, hround, rfl, hevent, hcall⟩ := due_cases h hdue
  have hrevealed := h.revealed
  have hlt : k < g.events.length := by
    by_contra hge
    rw [List.getElem?_eq_none (by omega)] at hevent
    cases hevent
  have hcount := h.scheduled.count
  have hsame := Dict.Related.refl identified_refl g.participants
  refine ⟨h.scheduled.congr rfl rfl rfl rfl, h.joined.identified hsame rfl rfl rfl, ?_, ?_, ?_⟩
  · exact .running (p := p) rfl (by show (1 : Int) ≤ k + 1; omega)
      (by show (k : Int) + 1 ≤ g.config.roundCount; omega) rfl
  · show g.world.revealedEventIds ++ [event.eventId]
      = (g.events.take ((k : Int) + 1).toNat).map (·.eventId)
    rw [show ((k : Int) + 1).toNat = k + 1 by omega, List.take_add_one, hevent, hrevealed, hround]
    simp
  · intro _ _
    rcases hcall with ⟨-, hphase, -⟩ | ⟨-, hphase, -, -⟩
    · exact h.configured (by simp [hphase]) (by simp [hphase])
    · exact h.configured (by simp [hphase]) (by simp [hphase])

theorem consistent_step (h : Consistent g) (hstep : Step g g') : Consistent g' := by
  cases hstep with
  | same => exact h
  | enter hdue _ => exact consistent_entered h hdue
  | change hchange => exact consistent_changes h hchange

end PawnhouseGame

end Arena402.Game.Aggregate
