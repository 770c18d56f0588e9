/-
What the negotiation machine does with one more turn.

As long as a negotiation runs, every turn so far was a proposal, the roles alternate from
the buyer on, and a turn is left (`Bargaining`).  From there the machine takes a proposal
unless this is the last turn, and takes an acceptance or a rejection unless it is the first.
The rows of the repository replay to such a machine as long as their status says so.
-/
import Arena402.Lib.Raise
import Arena402.Game.Negotiation

namespace Arena402.Game

/-- The role of the `i`-th turn, counted from zero. -/
def roleAt (i : Nat) : Role :=
  if i % 2 = 0 then .buyer else .seller

theorem roleAt_ne_succ (i : Nat) : roleAt i ≠ roleAt (i + 1) := by
  unfold roleAt
  rcases Nat.mod_two_eq_zero_or_one i with h | h
  · have h' : (i + 1) % 2 = 1 := by omega
    simp [h, h']
  · have h' : (i + 1) % 2 = 0 := by omega
    simp [h, h']

/-- A proposal with a price. -/
def IsQuote (a : NegotiationAction) (price : Nat) : Prop :=
  a.action = .propose ∧ a.priceAtomic = some price ∧ 0 < price

theorem make_ok {action : NegotiationVerb} {price : Option Nat} {message : Option PublicMessage}
    {a : NegotiationAction} (h : NegotiationAction.make action price message = .ok a) :
    a = ⟨action, price, message⟩ ∧ (⟨action, price, message⟩ : NegotiationAction).postInit = none := by
  unfold NegotiationAction.make at h
  dsimp only at h
  split at h
  · cases h
  · rename_i hpost
    cases h
    exact ⟨rfl, hpost⟩

theorem make_of_postInit {a : NegotiationAction} (h : a.postInit = none) :
    NegotiationAction.make a.action a.priceAtomic a.message = .ok a := by
  unfold NegotiationAction.make
  have h' : (⟨a.action, a.priceAtomic, a.message⟩ : NegotiationAction).postInit = none := h
  simp only [h']

/-- A proposal that passes its check quotes a price. -/
theorem isQuote_of_postInit {a : NegotiationAction} (h : a.postInit = none)
    (hp : a.action = .propose) : ∃ price, IsQuote a price := by
  unfold NegotiationAction.postInit at h
  rw [hp] at h
  cases hprice : a.priceAtomic with
  | none => simp [hprice] at h
  | some price =>
      simp only [hprice, Option.all_some, decide_eq_true_eq] at h
      split at h
      · cases h
      · rename_i hne
        exact ⟨price, hp, hprice, Nat.pos_of_ne_zero hne⟩

namespace Negotiation

variable {n n' : Negotiation} {a : NegotiationAction}

/-- A negotiation in which only proposals were made and a turn is left. -/
structure Bargaining (n : Negotiation) : Prop where
  running : n.status = .negotiating
  noPrice : n.acceptedPriceAtomic = none
  turnLeft : n.turns.length < n.maxTurns
  roles : ∀ i t, n.turns[i]? = some t → t.role = roleAt i
  quotes : ∀ t ∈ n.turns, ∃ price, IsQuote t.action price

theorem nextRole_eq (n : Negotiation) : n.nextRole = roleAt n.turns.length := rfl

theorem bargaining_fresh {buyer seller : String} {maxTurns : Nat} (h : 0 < maxTurns) :
    Bargaining { buyerParticipantId := buyer, sellerParticipantId := seller, maxTurns := maxTurns } :=
  ⟨rfl, rfl, h, by simp, by simp⟩

/-- The last turn of a running negotiation is the other side's proposal. -/
theorem Bargaining.last (h : Bargaining n) (hne : n.turns ≠ []) :
    ∃ t price, n.turns.getLast? = some t ∧ t.role ≠ n.nextRole ∧ IsQuote t.action price := by
  have hlast := List.getLast?_eq_some_getLast hne
  have hmem : n.turns.getLast hne ∈ n.turns := List.getLast_mem hne
  obtain ⟨price, hprice⟩ := h.quotes _ hmem
  refine ⟨n.turns.getLast hne, price, hlast, ?_, hprice⟩
  have hlen : 0 < n.turns.length := List.length_pos_of_ne_nil hne
  have hget : n.turns[n.turns.length - 1]? = some (n.turns.getLast hne) := by
    rw [← List.getLast?_eq_getElem?, hlast]
  rw [h.roles _ _ hget, nextRole_eq]
  have hnext : n.turns.length = n.turns.length - 1 + 1 := by omega
  rw [hnext]
  exact roleAt_ne_succ _

/-- The roles after a turn of the next role. -/
theorem roles_push (h : Bargaining n) (a : NegotiationAction) :
    ∀ i t, (n.turns ++ [⟨n.nextRole, a⟩])[i]? = some t → t.role = roleAt i := by
  intro i t hi
  rw [List.getElem?_append] at hi
  by_cases hlt : i < n.turns.length
  · rw [if_pos hlt] at hi
    exact h.roles i t hi
  · rw [if_neg hlt] at hi
    have hzero : i - n.turns.length = 0 := by
      by_contra hpos
      have hge : [(⟨n.nextRole, a⟩ : NegotiationTurn)].length ≤ i - n.turns.length :=
        Nat.pos_of_ne_zero hpos
      rw [List.getElem?_eq_none hge] at hi
      cases hi
    rw [hzero] at hi
    obtain rfl : (⟨n.nextRole, a⟩ : NegotiationTurn) = t := by simpa using hi
    have hi' : i = n.turns.length := by omega
    rw [hi']
    exact nextRole_eq n

/-- A proposal is taken unless this is the last turn. -/
theorem Bargaining.apply_propose (h : Bargaining n) {price : Nat} (ha : IsQuote a price)
    (hlast : n.turns.length + 1 < n.maxTurns) :
    n.apply n.nextRole a = .ok (n.push n.nextRole a .negotiating none) ∧
      Bargaining (n.push n.nextRole a .negotiating none) := by
  have hleft := h.turnLeft
  constructor
  · unfold Negotiation.apply
    dsimp only
    rw [if_neg (by simp [h.running]), if_neg (by simp), if_neg (by omega),
      if_neg (by simp [ha.1]), if_neg (by simp; omega), ha.1]
    dsimp only
    rw [h.running, h.noPrice]
  · refine ⟨rfl, rfl, ?_, roles_push h a, ?_⟩
    · show (n.turns ++ [_]).length < n.maxTurns
      simp only [List.length_append, List.length_cons, List.length_nil]
      omega
    · intro t ht
      rcases List.mem_append.mp ht with hold | hnew
      · exact h.quotes t hold
      · rw [List.mem_singleton.mp hnew]
        exact ⟨price, ha⟩

/-- The last turn takes no proposal. -/
theorem Bargaining.apply_propose_last (h : Bargaining n) (ha : a.action = .propose)
    (hlast : n.turns.length + 1 = n.maxTurns) :
    n.apply n.nextRole a = .error "the last negotiation turn must accept or reject" := by
  unfold Negotiation.apply
  dsimp only
  rw [if_neg (by simp [h.running]), if_neg (by simp), if_neg (by omega), if_neg (by simp [ha]),
    if_pos (by simp [ha, hlast])]

/-- An acceptance takes the price of the last proposal. -/
theorem Bargaining.apply_accept (h : Bargaining n) (ha : a.action = .accept) (hne : n.turns ≠ []) :
    ∃ t price, n.turns.getLast? = some t ∧ t.role ≠ n.nextRole ∧ IsQuote t.action price ∧
      n.apply n.nextRole a =
        .ok (n.push n.nextRole a .acceptedPendingSettlement (some price)) := by
  obtain ⟨t, price, ht, hrole, hquote⟩ := h.last hne
  refine ⟨t, price, ht, hrole, hquote, ?_⟩
  have hleft := h.turnLeft
  unfold Negotiation.apply
  dsimp only
  rw [if_neg (by simp [h.running]), if_neg (by simp), if_neg (by omega),
    if_neg (by simp [hne]), if_neg (by simp [ha]), ha]
  dsimp only
  rw [ht]
  dsimp only
  rw [if_neg (by simp [hrole, hquote.1]), hquote.2.1]

/-- A rejection is taken from the second turn on. -/
theorem Bargaining.apply_reject (h : Bargaining n) (ha : a.action = .reject) (hne : n.turns ≠ []) :
    n.apply n.nextRole a = .ok (n.push n.nextRole a .rejected none) := by
  have hleft := h.turnLeft
  unfold Negotiation.apply
  dsimp only
  rw [if_neg (by simp [h.running]), if_neg (by simp), if_neg (by omega),
    if_neg (by simp [hne]), if_neg (by simp [ha]), ha]
  dsimp only
  rw [h.noPrice]

/-- The first turn of the machine is a proposal. -/
theorem apply_first (hempty : n.turns = []) (hrunning : n.status = .negotiating)
    (hmax : 0 < n.maxTurns) (ha : a.action ≠ .propose) :
    n.apply n.nextRole a = .error "buyer must open with a proposal" := by
  unfold Negotiation.apply
  dsimp only
  rw [hempty, if_neg (by simp [hrunning]), if_neg (by simp), if_neg (by simp; omega),
    if_pos (by simp [ha])]

/-- Every accepted turn of a running negotiation is one of the three. -/
theorem Bargaining.apply_ok (h : Bargaining n) (ha : a.postInit = none) {role : Role}
    (hok : n.apply role a = .ok n') :
    role = n.nextRole ∧
      ((∃ price, IsQuote a price ∧ n' = n.push n.nextRole a .negotiating none ∧ Bargaining n') ∨
      (a.action = .accept ∧ ∃ t price, n.turns.getLast? = some t ∧ t.role ≠ n.nextRole ∧
        IsQuote t.action price ∧
        n' = n.push n.nextRole a .acceptedPendingSettlement (some price)) ∨
      (a.action = .reject ∧ n.turns ≠ [] ∧ n' = n.push n.nextRole a .rejected none)) := by
  have hrole : role = n.nextRole := by
    by_contra hne
    unfold Negotiation.apply at hok
    dsimp only at hok
    rw [if_neg (by simp [h.running]), if_pos hne] at hok
    cases hok
  refine ⟨hrole, ?_⟩
  rw [hrole] at hok
  have hfirst : a.action ≠ .propose → n.turns ≠ [] := by
    intro hne hempty
    have hmax : 0 < n.maxTurns := lt_of_le_of_lt (Nat.zero_le _) h.turnLeft
    rw [apply_first hempty h.running hmax hne] at hok
    cases hok
  cases hact : a.action with
  | propose =>
      obtain ⟨price, hquote⟩ := isQuote_of_postInit ha hact
      by_cases hlast : n.turns.length + 1 < n.maxTurns
      · obtain ⟨happly, hb⟩ := h.apply_propose hquote hlast
        rw [happly] at hok
        cases hok
        exact Or.inl ⟨price, hquote, rfl, hb⟩
      · have hleft := h.turnLeft
        rw [h.apply_propose_last hact (by omega)] at hok
        cases hok
  | accept =>
      obtain ⟨t, price, ht, htr, hquote, happly⟩ := h.apply_accept hact (hfirst (by simp [hact]))
      rw [happly] at hok
      cases hok
      exact Or.inr (Or.inl ⟨rfl, t, price, ht, htr, hquote, rfl⟩)
  | reject =>
      have hne := hfirst (by simp [hact])
      rw [h.apply_reject hact hne] at hok
      cases hok
      exact Or.inr (Or.inr ⟨rfl, hne, rfl⟩)

/-! ### Replays -/

/-- The turn that a stored message is. -/
def applyMessage (n : Negotiation) (m : NegotiationMessage) : Except String Negotiation := do
  let action ← NegotiationAction.make m.action m.priceAtomic m.publicMessage
  n.apply m.actorRole action

theorem replay_append : ∀ (l l' : List NegotiationMessage) (n : Negotiation),
    n.replay (l ++ l') = (n.replay l).bind fun n' => n'.replay l' := by
  intro l
  induction l with
  | nil =>
      intro l' n
      rfl
  | cons m rest ih =>
      intro l' n
      show n.replay (m :: (rest ++ l')) = _
      simp only [replay]
      split
      · rfl
      · split
        · rfl
        · exact ih l' _

theorem replay_concat (l : List NegotiationMessage) (m : NegotiationMessage) (n : Negotiation) :
    n.replay (l ++ [m]) = (n.replay l).bind fun n' => n'.applyMessage m := by
  rw [replay_append]
  congr 1
  funext n'
  simp only [replay, applyMessage, bind, Except.bind]
  cases NegotiationAction.make m.action m.priceAtomic m.publicMessage with
  | error e => rfl
  | ok action =>
      dsimp only
      cases n'.apply m.actorRole action with
      | error e => rfl
      | ok n'' => rfl

/-- The turn that a stored message records. -/
def turnOfMessage (m : NegotiationMessage) : NegotiationTurn :=
  ⟨m.actorRole, ⟨m.action, m.priceAtomic, m.publicMessage⟩⟩

/-- What a turn of the machine keeps. -/
theorem apply_shape {role : Role} (h : n.apply role a = .ok n') :
    ∃ status price, n' = n.push role a status price := by
  unfold Negotiation.apply at h
  dsimp only at h
  obtain ⟨-, h⟩ := Py.ok_of_guard h
  obtain ⟨-, h⟩ := Py.ok_of_guard h
  obtain ⟨-, h⟩ := Py.ok_of_guard h
  obtain ⟨-, h⟩ := Py.ok_of_guard h
  obtain ⟨-, h⟩ := Py.ok_of_guard h
  cases hact : a.action with
  | propose | reject =>
      rw [hact] at h
      cases h
      exact ⟨_, _, rfl⟩
  | accept =>
      rw [hact] at h
      dsimp only at h
      cases hlast : n.turns.getLast? with
      | none =>
          rw [hlast] at h
          cases h
      | some previous =>
          rw [hlast] at h
          obtain ⟨-, h⟩ := Py.ok_of_guard h
          cases h
          exact ⟨_, _, rfl⟩

/-- A machine that ended takes no message. -/
theorem replay_ended : ∀ (l : List NegotiationMessage) (n : Negotiation) {n' : Negotiation},
    n.status ≠ .negotiating → n.replay l = .ok n' → n'.status ≠ .negotiating := by
  intro l n n' hended h
  cases l with
  | nil =>
      cases h
      exact hended
  | cons m rest =>
      simp only [replay] at h
      cases hmake : NegotiationAction.make m.action m.priceAtomic m.publicMessage with
      | error e =>
          rw [hmake] at h
          cases h
      | ok action =>
          rw [hmake] at h
          dsimp only at h
          have hraise : n.apply m.actorRole action = .error "negotiation is already terminal" := by
            unfold Negotiation.apply
            dsimp only
            rw [if_pos hended]
          rw [hraise] at h
          cases h

/-- A machine that still runs after some messages heard proposals only. -/
theorem bargaining_of_replay : ∀ (l : List NegotiationMessage) (n : Negotiation)
    {n' : Negotiation}, Bargaining n → n.replay l = .ok n' → n'.status = .negotiating →
      Bargaining n' := by
  intro l
  induction l with
  | nil =>
      intro n n' hb h _
      cases h
      exact hb
  | cons m rest ih =>
      intro n n' hb h hrunning
      simp only [replay] at h
      cases hmake : NegotiationAction.make m.action m.priceAtomic m.publicMessage with
      | error e =>
          rw [hmake] at h
          cases h
      | ok action =>
          rw [hmake] at h
          dsimp only at h
          cases happly : n.apply m.actorRole action with
          | error e =>
              rw [happly] at h
              cases h
          | ok n₁ =>
              rw [happly] at h
              obtain ⟨rfl, hpost⟩ := make_ok hmake
              obtain ⟨-, ⟨price, -, -, hb₁⟩ | ⟨-, t, price, -, -, -, rfl⟩ | ⟨-, -, rfl⟩⟩ :=
                hb.apply_ok hpost happly
              · exact ih n₁ hb₁ h hrunning
              · exact absurd hrunning (replay_ended rest _ (by simp [push]) h)
              · exact absurd hrunning (replay_ended rest _ (by simp [push]) h)

/-- The turns of a replayed machine are the messages. -/
theorem replay_turns : ∀ (l : List NegotiationMessage) (n : Negotiation) {n' : Negotiation},
    n.replay l = .ok n' →
      n'.turns = n.turns ++ l.map turnOfMessage ∧ n'.maxTurns = n.maxTurns := by
  intro l
  induction l with
  | nil =>
      intro n n' h
      cases h
      simp
  | cons m rest ih =>
      intro n n' h
      simp only [replay] at h
      cases hmake : NegotiationAction.make m.action m.priceAtomic m.publicMessage with
      | error e =>
          rw [hmake] at h
          cases h
      | ok action =>
          rw [hmake] at h
          dsimp only at h
          cases happly : n.apply m.actorRole action with
          | error e =>
              rw [happly] at h
              cases h
          | ok n₁ =>
              rw [happly] at h
              obtain ⟨hturns, hmax⟩ := ih n₁ h
              obtain ⟨status, price, rfl⟩ := apply_shape happly
              obtain ⟨rfl, -⟩ := make_ok hmake
              refine ⟨?_, hmax⟩
              rw [hturns]
              simp [push, turnOfMessage]

end Negotiation

end Arena402.Game
