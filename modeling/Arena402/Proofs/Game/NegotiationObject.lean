/-
What every sequence of calls leaves of a negotiation.

A call that raises has written nothing, since every check of `apply` stands before its first
write.  A call that returns adds one turn of the role whose turn it is (`apply_returns`), and
`Orderly` is what such turns keep: numbers, roles, and proposals up to the last turn.  That a
running negotiation has proposals only is what makes the price of an acceptance the one before
it.
-/
import Arena402.Game.NegotiationObject
import Arena402.Proofs.Game.Negotiation

namespace Arena402.Game.NegotiationObject

open Py

variable {n n' : NegotiationObject} {role : Role} {a : CheckedAction} {turn : NumberedTurn}

/-- A check that did not raise. -/
theorem none_of_guard {c : Prop} [Decidable c] {e : String} {x : Option String}
    (h : (if c then some e else x) = none) : ¬ c ∧ x = none := by
  by_cases hc : c
  · rw [if_pos hc] at h
    cases h
  · rw [if_neg hc] at h
    exact ⟨hc, h⟩

/-! ### One call -/

/-- The turn that a call adds. -/
def nextTurn (n : NegotiationObject) (role : Role) (a : CheckedAction) : NumberedTurn :=
  ⟨n.turns.length + 1, role, a⟩

/-- The object with one more turn. -/
def push (n : NegotiationObject) (role : Role) (a : CheckedAction) (status : DealStatus)
    (price : Option Int) : NegotiationObject :=
  { n with
    status := status
    acceptedPriceAtomic := price
    turns := n.turns ++ [n.nextTurn role a] }

/-- What a turn has to meet before the action is looked at. -/
structure InTurn (n : NegotiationObject) (role : Role) (a : CheckedAction) : Prop where
  running : n.status = .negotiating
  role : role = n.nextRole
  room : (n.turns.length : Int) + 1 ≤ n.maxTurns
  opening : n.turns = [] → a.action = .propose
  closing : (n.turns.length : Int) + 1 = n.maxTurns → a.action ≠ .propose

/-- What a call that returned has written. -/
inductive Took (n : NegotiationObject) (role : Role) (a : CheckedAction) :
    NegotiationObject → Prop
  | proposed (h : a.action = .propose) : Took n role a (n.push role a n.status n.acceptedPriceAtomic)
  | rejected (h : a.action = .reject) : Took n role a (n.push role a .rejected n.acceptedPriceAtomic)
  | accepted (h : a.action = .accept) {previous : NumberedTurn}
      (hlast : n.turns.getLast? = some previous) (hother : previous.role ≠ role)
      (hpropose : previous.action.action = .propose) :
      Took n role a (n.push role a .acceptedPendingSettlement previous.action.priceAtomic)

/-- `apply` raises and has written nothing, or returns and has taken one turn. -/
theorem apply_cases (role : Role) (a : CheckedAction) (n : NegotiationObject) :
    (∃ e, (apply role a).run n = .error e n) ∨
    ∃ n', (apply role a).run n = .ok (n.nextTurn role a) n' ∧ InTurn n role a ∧
      Took n role a n' := by
  unfold apply
  simp only [Method.run_get_bind, Method.run_ite, Method.run_throw]
  by_cases hrunning : n.status ≠ .negotiating
  · rw [if_pos hrunning]
    exact Or.inl ⟨_, rfl⟩
  rw [if_neg hrunning]
  by_cases hrole : role ≠ n.nextRole
  · rw [if_pos hrole]
    exact Or.inl ⟨_, rfl⟩
  rw [if_neg hrole]
  by_cases hroom : n.maxTurns < ((n.turns.length + 1 : Nat) : Int)
  · rw [if_pos hroom]
    exact Or.inl ⟨_, rfl⟩
  rw [if_neg hroom]
  by_cases hopening : (decide (n.turns.length + 1 = 1) && decide (a.action ≠ .propose)) = true
  · rw [if_pos hopening]
    exact Or.inl ⟨_, rfl⟩
  rw [if_neg hopening]
  by_cases hclosing : (decide (((n.turns.length + 1 : Nat) : Int) = n.maxTurns) &&
      decide (a.action = .propose)) = true
  · rw [if_pos hclosing]
    exact Or.inl ⟨_, rfl⟩
  rw [if_neg hclosing]
  have hin : InTurn n role a := by
    refine ⟨not_not.mp hrunning, not_not.mp hrole, by push_cast at hroom; omega, ?_, ?_⟩
    · intro hnil
      by_contra hne
      exact hopening (by simp [hnil, hne])
    · intro hlast hpropose
      refine hclosing ?_
      simp only [hpropose, decide_true, Bool.and_true, decide_eq_true_eq]
      push_cast
      exact hlast
  unfold writeStatus
  cases hact : a.action with
  | propose => exact Or.inr ⟨_, rfl, hin, .proposed hact⟩
  | reject => exact Or.inr ⟨_, rfl, hin, .rejected hact⟩
  | accept =>
      cases hlast : n.turns.getLast? with
      | none =>
          refine Or.inl ⟨"there is no proposal to accept", ?_⟩
          simp only [bind_assoc, Method.run_get_bind, hlast]
          rfl
      | some previous =>
          by_cases htarget : (decide (previous.role = role) ||
              decide (previous.action.action ≠ .propose)) = true
          · refine Or.inl ⟨"accept must target the counterparty's latest proposal", ?_⟩
            simp only [bind_assoc, Method.run_get_bind, hlast, if_pos htarget]
            rfl
          · have hgood : previous.role ≠ role ∧ previous.action.action = .propose := by
              simpa using htarget
            refine Or.inr ⟨_, ?_, hin, .accepted hact hlast hgood.1 hgood.2⟩
            simp only [bind_assoc, Method.run_get_bind, hlast, if_neg htarget]
            rfl

theorem expire_run (n : NegotiationObject) :
    expire.run n = .ok () (if n.status = .negotiating then { n with status := .timeout } else n) := by
  unfold expire
  simp only [Method.run_get_bind, Method.run_ite]
  by_cases hrunning : n.status = .negotiating
  · rw [if_pos hrunning, if_pos hrunning]
    rfl
  · rw [if_neg hrunning, if_neg hrunning]
    rfl

/-! ### What the turns keep -/

/-- The turns of a negotiation, its status and its price fit together. -/
structure Orderly (n : NegotiationObject) : Prop where
  /-- The turns are numbered from one. -/
  numbers : n.turns.map (·.sequence) = List.range' 1 n.turns.length
  /-- The buyer opens and the roles alternate. -/
  roles : ∀ i t, n.turns[i]? = some t → t.role = roleAt i
  /-- Only the last turn may be something else than a proposal. -/
  proposals : ∀ t ∈ n.turns.dropLast, t.action.action = .propose
  bounded : (n.turns.length : Int) ≤ n.maxTurns
  exhausted : (n.turns.length : Int) = n.maxTurns → n.status ≠ .negotiating
  accepted : n.status = .acceptedPendingSettlement ↔
    ∃ t, n.turns.getLast? = some t ∧ t.action.action = .accept
  /-- An accepted price is the one that the other side proposed just before. -/
  price : n.status = .acceptedPendingSettlement → ∃ rest previous last price,
    n.turns = rest ++ [previous, last] ∧ previous.action.action = .propose ∧
      previous.role ≠ last.role ∧ previous.action.priceAtomic = some price ∧ 0 < price ∧
      n.acceptedPriceAtomic = some price
  noPrice : n.status ≠ .acceptedPendingSettlement → n.acceptedPriceAtomic = none

/-- An orderly negotiation in which, while it runs, every turn was a proposal. -/
structure Kept (n : NegotiationObject) : Prop extends Orderly n where
  openings : n.status = .negotiating → ∀ t ∈ n.turns, t.action.action = .propose

theorem kept_fresh (id buyer seller : String) {maxTurns : Int} (h : 2 ≤ maxTurns) :
    Kept ⟨id, buyer, seller, maxTurns, .negotiating, [], none⟩ where
  numbers := rfl
  roles := by simp
  proposals := by simp
  bounded := by
    show (0 : Int) ≤ maxTurns
    omega
  exhausted := by
    intro hfull
    have hzero : (0 : Int) = maxTurns := hfull
    omega
  accepted := by simp
  price := by
    intro hc
    cases hc
  noPrice := fun _ => rfl
  openings := by simp

/-- A constructed proposal has a positive price. -/
theorem price_of_propose (h : a.action = .propose) : ∃ price, a.priceAtomic = some price ∧ 0 < price := by
  have hchecked := a.checked
  unfold ActionFields.postInit at hchecked
  cases hprice : a.priceAtomic with
  | none => simp [h, hprice] at hchecked
  | some price =>
      refine ⟨price, rfl, ?_⟩
      by_contra hle
      have hle' : price ≤ 0 := not_lt.mp hle
      simp [h, hprice, hle'] at hchecked

section Push

variable {status : DealStatus} {price : Option Int}

theorem numbers_push (h : Kept n) :
    (n.push role a status price).turns.map (·.sequence)
      = List.range' 1 (n.push role a status price).turns.length := by
  show (n.turns ++ [n.nextTurn role a]).map (·.sequence)
    = List.range' 1 (n.turns ++ [n.nextTurn role a]).length
  rw [List.map_append, h.numbers, List.length_append, List.length_singleton, List.range'_concat]
  simp [nextTurn, Nat.add_comm]

theorem roles_push (h : Kept n) (hrole : role = n.nextRole) :
    ∀ i t, (n.push role a status price).turns[i]? = some t → t.role = roleAt i := by
  intro i t hi
  have hi' : (n.turns ++ [n.nextTurn role a])[i]? = some t := hi
  rw [List.getElem?_append] at hi'
  by_cases hlt : i < n.turns.length
  · rw [if_pos hlt] at hi'
    exact h.roles i t hi'
  · rw [if_neg hlt] at hi'
    rw [List.getElem?_singleton] at hi'
    by_cases hzero : i - n.turns.length = 0
    · rw [if_pos hzero] at hi'
      obtain rfl := Option.some.inj hi'
      have hlast : i = n.turns.length := by omega
      rw [hlast]
      exact hrole
    · rw [if_neg hzero] at hi'
      cases hi'

theorem proposals_push (h : Kept n) (hrunning : n.status = .negotiating) :
    ∀ t ∈ (n.push role a status price).turns.dropLast, t.action.action = .propose := by
  intro t ht
  have ht' : t ∈ (n.turns ++ [n.nextTurn role a]).dropLast := ht
  rw [List.dropLast_concat] at ht'
  exact h.openings hrunning t ht'

theorem last_push : (n.push role a status price).turns.getLast? = some (n.nextTurn role a) := by
  show (n.turns ++ [n.nextTurn role a]).getLast? = _
  simp

theorem length_push : (n.push role a status price).turns.length = n.turns.length + 1 := by
  show (n.turns ++ [n.nextTurn role a]).length = _
  simp

end Push

/-- One turn keeps a negotiation orderly. -/
theorem Kept.took (h : Kept n) (hin : InTurn n role a) (ht : Took n role a n') :
    Kept n' ∧ n'.maxTurns = n.maxTurns := by
  have hnot : n.status ≠ .acceptedPendingSettlement := by simp [hin.running]
  have hroom : ((n.turns.length + 1 : Nat) : Int) ≤ n.maxTurns := by
    push_cast
    exact hin.room
  cases ht with
  | proposed hact =>
      refine ⟨⟨⟨numbers_push h, roles_push h hin.role, proposals_push h hin.running, ?_, ?_, ?_, ?_,
        ?_⟩, ?_⟩, rfl⟩
      · rw [length_push]
        exact hroom
      · rw [length_push]
        intro hfull
        have hlast : (n.turns.length : Int) + 1 = n.maxTurns := by
          have hfull' : ((n.turns.length + 1 : Nat) : Int) = n.maxTurns := hfull
          push_cast at hfull'
          exact hfull'
        exact absurd hact (hin.closing hlast)
      · rw [last_push]
        refine ⟨fun hc => absurd hc hnot, ?_⟩
        rintro ⟨t, ht, haccept⟩
        obtain rfl := Option.some.inj ht
        rw [show (n.nextTurn role a).action.action = a.action from rfl, hact] at haccept
        cases haccept
      · intro hc
        exact absurd hc hnot
      · intro _
        exact h.noPrice hnot
      · intro _ t ht
        have ht' : t ∈ n.turns ++ [n.nextTurn role a] := ht
        rcases List.mem_append.mp ht' with hold | hnew
        · exact h.openings hin.running t hold
        · rw [List.mem_singleton.mp hnew]
          exact hact
  | rejected hact =>
      refine ⟨⟨⟨numbers_push h, roles_push h hin.role, proposals_push h hin.running, ?_, ?_, ?_, ?_,
        ?_⟩, ?_⟩, rfl⟩
      · rw [length_push]
        exact hroom
      · intro _ hc
        cases hc
      · rw [last_push]
        refine ⟨fun hc => (by cases hc), ?_⟩
        rintro ⟨t, ht, haccept⟩
        obtain rfl := Option.some.inj ht
        rw [show (n.nextTurn role a).action.action = a.action from rfl, hact] at haccept
        cases haccept
      · intro hc
        cases hc
      · intro _
        exact h.noPrice hnot
      · intro hc
        cases hc
  | @accepted hact previous hlast hother hpropose =>
      refine ⟨⟨⟨numbers_push h, roles_push h hin.role, proposals_push h hin.running, ?_, ?_, ?_, ?_,
        ?_⟩, ?_⟩, rfl⟩
      · rw [length_push]
        exact hroom
      · intro _ hc
        cases hc
      · rw [last_push]
        exact ⟨fun _ => ⟨_, rfl, hact⟩, fun _ => rfl⟩
      · intro _
        obtain ⟨price, hprice, hpos⟩ := price_of_propose hpropose
        obtain ⟨rest, hrest⟩ := List.getLast?_eq_some_iff.mp hlast
        refine ⟨rest, previous, n.nextTurn role a, price, ?_, hpropose, hother, hprice, hpos, hprice⟩
        show n.turns ++ [n.nextTurn role a] = _
        rw [hrest]
        simp
      · intro hc
        exact absurd rfl hc
      · intro hc
        cases hc

theorem Kept.expired (h : Kept n) (hrunning : n.status = .negotiating) :
    Kept { n with status := .timeout } := by
  have hnot : n.status ≠ .acceptedPendingSettlement := by simp [hrunning]
  refine ⟨⟨h.numbers, h.roles, h.proposals, h.bounded, ?_, ?_, ?_, ?_⟩, ?_⟩
  · intro _ hc
    cases hc
  · refine ⟨fun hc => (by cases hc), fun hlast => ?_⟩
    exact absurd (h.accepted.mpr hlast) hnot
  · intro hc
    cases hc
  · intro _
    exact h.noPrice hnot
  · intro hc
    cases hc

/-! ### Sequences of calls -/

theorem atomic_apply (role : Role) (a : CheckedAction) (n : NegotiationObject) :
    (apply role a).Atomic n := by
  intro e n' hraise
  rcases apply_cases role a n with ⟨e', herr⟩ | ⟨m, hok, -⟩
  · rw [herr] at hraise
    cases hraise
    rfl
  · rw [hok] at hraise
    cases hraise

/-- A call that raises has written nothing. -/
theorem atomic_call (c : Call) (n : NegotiationObject) : c.method.Atomic n := by
  cases c with
  | apply role a => exact (atomic_apply role a n).drop
  | expire =>
      intro e n' hraise
      rw [show Call.expire.method = expire from rfl, expire_run] at hraise
      cases hraise

theorem Kept.call (h : Kept n) (c : Call) :
    Kept (c.method.after n) ∧ (c.method.after n).maxTurns = n.maxTurns := by
  cases c with
  | expire =>
      unfold Method.after
      rw [show Call.expire.method = expire from rfl, expire_run]
      dsimp only
      by_cases hrunning : n.status = .negotiating
      · rw [if_pos hrunning]
        exact ⟨h.expired hrunning, rfl⟩
      · rw [if_neg hrunning]
        exact ⟨h, rfl⟩
  | apply role a =>
      have hafter : (Call.apply role a).method.after n = (apply role a).after n :=
        Method.after_drop _ _
      rw [hafter]
      unfold Method.after
      rcases apply_cases role a n with ⟨e, herr⟩ | ⟨n', hok, hin, htook⟩
      · rw [herr]
        exact ⟨h, rfl⟩
      · rw [hok]
        exact h.took hin htook

theorem Kept.calls : ∀ (l : List Call) {n : NegotiationObject}, Kept n →
    Kept (n.calls l) ∧ (n.calls l).maxTurns = n.maxTurns := by
  intro l
  induction l with
  | nil =>
      intro n h
      exact ⟨h, rfl⟩
  | cons c rest ih =>
      intro n h
      obtain ⟨hcall, hmax⟩ := h.call c
      obtain ⟨hrest, hmax'⟩ := ih hcall
      exact ⟨hrest, hmax'.trans hmax⟩

/-- **Every sequence of calls leaves the turns of a negotiation in order**, and a call that
    raises changes nothing. -/
theorem turns_orderly (id buyer seller : String) (maxTurns : Int)
    (h : (⟨id, buyer, seller, maxTurns, .negotiating, [], none⟩ : NegotiationObject).postInit = none)
    (l : List Call) :
    let n := NegotiationObject.calls ⟨id, buyer, seller, maxTurns, .negotiating, [], none⟩ l
    Orderly n ∧ n.maxTurns = maxTurns ∧
      ∀ (c : Call) e n', c.method.run n = .error e n' → n' = n := by
  intro n
  have hmin : 2 ≤ maxTurns := by
    unfold postInit at h
    by_contra hlt
    have hlt' : maxTurns < 2 := not_le.mp hlt
    simp [hlt'] at h
  obtain ⟨hkept, hmax⟩ := Kept.calls l (kept_fresh id buyer seller hmin)
  exact ⟨hkept.toOrderly, hmax, fun c e n' hraise => atomic_call c n e n' hraise⟩

/-- A proposal of five. -/
def offerOfFive : CheckedAction where
  action := .propose
  priceAtomic := some 5
  message := some "five"
  checked := by decide

/-- An acceptance. -/
def acceptance : CheckedAction where
  action := .accept
  checked := by decide

/-- An opening, the same again out of turn, and the acceptance. -/
def haggled : NegotiationObject :=
  NegotiationObject.calls ⟨"negotiation", "buyer", "seller", 3, .negotiating, [], none⟩
    [.apply .buyer offerOfFive, .apply .buyer offerOfFive, .apply .seller acceptance, .expire]

theorem turns_orderly_accepted :
    haggled.status = .acceptedPendingSettlement ∧ haggled.acceptedPriceAtomic = some 5 ∧
      haggled.turns.length = 2 ∧ Orderly haggled :=
  ⟨rfl, rfl, rfl, (turns_orderly "negotiation" "buyer" "seller" 3 rfl _).1⟩

/-! ### The machine that the repository rebuilds -/

/-- The message of a constructed action has 1 to 100 characters, not all of them blank. -/
theorem message_checked {text : String} (h : a.message = some text) :
    isBlank text = false ∧ text.length ≤ maxPublicMessageLength := by
  have hchecked := a.checked
  unfold ActionFields.postInit at hchecked
  obtain ⟨-, hchecked⟩ := none_of_guard hchecked
  obtain ⟨-, hchecked⟩ := none_of_guard hchecked
  obtain ⟨-, hchecked⟩ := none_of_guard hchecked
  obtain ⟨-, hchecked⟩ := none_of_guard hchecked
  obtain ⟨hmessage, -⟩ := none_of_guard hchecked
  rw [h] at hmessage
  simpa [maxPublicMessageLength] using hmessage

/-- The message as the wire type. -/
def wireMessage (text : String) (h : isBlank text = false ∧ text.length ≤ maxPublicMessageLength) :
    PublicMessage where
  text := text
  minLength := by
    by_contra hlt
    have hempty : text.length = 0 := by omega
    have hnil : text.toList = [] := List.length_eq_zero_iff.mp hempty
    have hblank := h.1
    unfold isBlank at hblank
    rw [hnil] at hblank
    cases hblank
  maxLength := h.2
  visible := by
    intro hnil
    have hblank := h.1
    unfold isBlank at hblank
    rw [hnil] at hblank
    cases hblank

/-- The action as the repository stores it. -/
def wireAction (a : CheckedAction) : NegotiationAction where
  action := a.action
  priceAtomic := a.priceAtomic.map Int.toNat
  message := a.message.attach.map fun m => wireMessage m.1 (message_checked m.2)

/-- The machine with the same turns. -/
def machine (n : NegotiationObject) : Negotiation where
  buyerParticipantId := n.buyerParticipantId
  sellerParticipantId := n.sellerParticipantId
  maxTurns := n.maxTurns.toNat
  status := n.status
  turns := n.turns.map fun t => ⟨t.role, wireAction t.action⟩
  acceptedPriceAtomic := n.acceptedPriceAtomic.map Int.toNat

theorem machine_push (n : NegotiationObject) (role : Role) (a : CheckedAction) (status : DealStatus)
    (price : Option Int) :
    (n.push role a status price).machine
      = n.machine.push role (wireAction a) status (price.map Int.toNat) := by
  simp [machine, push, Negotiation.push, nextTurn]

/-- Each turn that the object takes is a turn of the machine. -/
theorem machine_took (hmax : 0 ≤ n.maxTurns) (hin : InTurn n role a) (ht : Took n role a n') :
    n.machine.apply role (wireAction a) = .ok n'.machine := by
  have hlength : n.machine.turns.length = n.turns.length := by simp [machine]
  have hroom := hin.room
  have hopening : ¬ (decide (n.machine.turns.length + 1 = 1) &&
      decide ((wireAction a).action ≠ .propose)) = true := by
    rw [hlength]
    intro hc
    simp only [Bool.and_eq_true, decide_eq_true_eq] at hc
    exact hc.2 (hin.opening (List.length_eq_zero_iff.mp (by omega)))
  have hclosing : ¬ (decide (n.machine.turns.length + 1 = n.machine.maxTurns) &&
      decide ((wireAction a).action = .propose)) = true := by
    rw [hlength]
    intro hc
    simp only [Bool.and_eq_true, decide_eq_true_eq] at hc
    have hfull : n.turns.length + 1 = n.maxTurns.toNat := hc.1
    exact hin.closing (by omega) hc.2
  unfold Negotiation.apply
  dsimp only
  rw [if_neg (not_not.mpr (show n.machine.status = .negotiating from hin.running)),
    if_neg (not_not.mpr (show role = n.machine.nextRole by
      rw [hin.role]
      unfold nextRole Negotiation.nextRole
      rw [hlength])),
    if_neg (show ¬ n.machine.maxTurns < n.machine.turns.length + 1 by
      rw [hlength]
      show ¬ n.maxTurns.toNat < n.turns.length + 1
      omega), if_neg hopening, if_neg hclosing]
  cases ht with
  | proposed hact =>
      rw [show (wireAction a).action = .propose from hact, machine_push]
      rfl
  | rejected hact =>
      rw [show (wireAction a).action = .reject from hact, machine_push]
      rfl
  | @accepted hact previous hlast hother hpropose =>
      have hlast' : n.machine.turns.getLast?
          = some ⟨previous.role, wireAction previous.action⟩ := by
        simp [machine, hlast]
      rw [show (wireAction a).action = .accept from hact, hlast', machine_push]
      dsimp only
      rw [if_neg (by simp [hother, wireAction, hpropose])]
      rfl

/-- The action that the repository makes of a stored turn. -/
theorem make_wireAction (a : CheckedAction) :
    NegotiationAction.make a.action (wireAction a).priceAtomic (wireAction a).message
      = .ok (wireAction a) := by
  have hnone : (wireAction a).postInit = none := by
    have hchecked := a.checked
    unfold ActionFields.postInit at hchecked
    obtain ⟨-, hchecked⟩ := none_of_guard hchecked
    obtain ⟨hmessage, hchecked⟩ := none_of_guard hchecked
    obtain ⟨hprice, hchecked⟩ := none_of_guard hchecked
    obtain ⟨hsilent, -⟩ := none_of_guard hchecked
    unfold NegotiationAction.postInit
    cases hact : a.action with
    | propose =>
        obtain ⟨price, hsome, hpos⟩ := price_of_propose hact
        have hgiven : a.message ≠ none := by
          intro hno
          simp [hact, hno] at hmessage
        simp [wireAction, hact, hsome, hgiven]
        omega
    | accept =>
        have hno : a.priceAtomic = none := by simpa [hact] using hprice
        have hquiet : a.message = none := by simpa [hact] using hsilent
        simp [wireAction, hact, hno, hquiet]
    | reject =>
        have hno : a.priceAtomic = none := by simpa [hact] using hprice
        simp [wireAction, hact, hno]
  unfold NegotiationAction.make
  dsimp only
  rw [show (⟨a.action, (wireAction a).priceAtomic, (wireAction a).message⟩ : NegotiationAction)
    = wireAction a from rfl, hnone]

/-- A turn as the repository stores it, with the id of its result. -/
def stored (id : String) (resultId : Nat → String) (t : NumberedTurn) : NegotiationMessage where
  negotiationId := id
  sourceResultId := resultId t.sequence
  turnSequence := t.sequence
  actorRole := t.role
  action := t.action.action
  priceAtomic := (wireAction t.action).priceAtomic
  publicMessage := (wireAction t.action).message

/-- The machine before the first turn. -/
def newMachine (n : NegotiationObject) : Negotiation where
  buyerParticipantId := n.buyerParticipantId
  sellerParticipantId := n.sellerParticipantId
  maxTurns := n.maxTurns.toNat

/-- The machine with the turns of the object; a timeout is not a turn. -/
def unexpired (n : NegotiationObject) : Negotiation :=
  if n.status = .timeout then { n.machine with status := .negotiating } else n.machine

/-- The stored turns lead to the machine. -/
structure Rebuilt (id : String) (resultId : Nat → String) (n : NegotiationObject) : Prop where
  max : 0 ≤ n.maxTurns
  replayed : n.newMachine.replay (n.turns.map (stored id resultId)) = .ok n.unexpired

theorem unexpired_running (h : n.status = .negotiating) : n.unexpired = n.machine :=
  if_neg (by rw [h]; decide)

theorem Took.status_ne (ht : Took n role a n') (hrunning : n.status = .negotiating) :
    n'.status ≠ .timeout := by
  cases ht with
  | proposed _ =>
      show n.status ≠ .timeout
      rw [hrunning]
      decide
  | rejected _ => exact fun hc => by cases hc
  | accepted _ _ _ _ => exact fun hc => by cases hc

/-- A turn is stored as a message that leads on. -/
theorem Rebuilt.took {id : String} {resultId : Nat → String} (h : Rebuilt id resultId n)
    (hin : InTurn n role a) (ht : Took n role a n') : Rebuilt id resultId n' := by
  have hshape : n'.newMachine = n.newMachine ∧ n'.maxTurns = n.maxTurns ∧
      n'.turns = n.turns ++ [n.nextTurn role a] := by
    cases ht <;> exact ⟨rfl, rfl, rfl⟩
  have happly := machine_took h.max hin ht
  refine ⟨by rw [hshape.2.1]; exact h.max, ?_⟩
  rw [hshape.1, hshape.2.2, List.map_append, List.map_singleton, Negotiation.replay_concat,
    h.replayed, unexpired_running hin.running]
  show n.machine.applyMessage (stored id resultId (n.nextTurn role a)) = _
  unfold Negotiation.applyMessage
  rw [show NegotiationAction.make (stored id resultId (n.nextTurn role a)).action
      (stored id resultId (n.nextTurn role a)).priceAtomic
      (stored id resultId (n.nextTurn role a)).publicMessage = .ok (wireAction a) from
    make_wireAction a]
  show n.machine.apply role (wireAction a) = _
  rw [happly, unexpired, if_neg (ht.status_ne hin.running)]

theorem Rebuilt.call {id : String} {resultId : Nat → String} (h : Rebuilt id resultId n)
    (c : Call) : Rebuilt id resultId (c.method.after n) := by
  cases c with
  | expire =>
      unfold Method.after
      rw [show Call.expire.method = expire from rfl, expire_run]
      dsimp only
      by_cases hrunning : n.status = .negotiating
      · rw [if_pos hrunning]
        refine ⟨h.max, ?_⟩
        have hreplayed := h.replayed
        rw [unexpired_running hrunning] at hreplayed
        show n.newMachine.replay (n.turns.map (stored id resultId)) = _
        rw [hreplayed, unexpired, if_pos rfl]
        unfold machine
        rw [hrunning]
      · rw [if_neg hrunning]
        exact h
  | apply role a =>
      rw [show (Call.apply role a).method.after n = (apply role a).after n from
        Method.after_drop _ _]
      unfold Method.after
      rcases apply_cases role a n with ⟨e, herr⟩ | ⟨n', hok, hin, htook⟩
      · rw [herr]
        exact h
      · rw [hok]
        exact h.took hin htook

theorem Rebuilt.calls {id : String} {resultId : Nat → String} : ∀ (l : List Call)
    {n : NegotiationObject}, Rebuilt id resultId n → Rebuilt id resultId (n.calls l) := by
  intro l
  induction l with
  | nil =>
      intro n h
      exact h
  | cons c rest ih =>
      intro n h
      exact ih (h.call c)

/-- **What was stored is what was negotiated.**  After any calls the messages of the turns rebuild
    the machine of the object, with its status, its turns and its price.  Only a timeout is no
    message: without it the negotiation is rebuilt as it was before. -/
theorem rebuilt_from_turns (id buyer seller : String) (maxTurns : Int)
    (h : (⟨id, buyer, seller, maxTurns, .negotiating, [], none⟩ : NegotiationObject).postInit = none)
    (resultId : Nat → String) (l : List Call) :
    let n := NegotiationObject.calls ⟨id, buyer, seller, maxTurns, .negotiating, [], none⟩ l
    n.newMachine.replay (n.turns.map (stored id resultId)) = .ok n.unexpired := by
  have hmax : 0 ≤ maxTurns := by
    unfold postInit at h
    by_contra hlt
    have hlt' : maxTurns < 2 := by omega
    simp [hlt'] at h
  exact (Rebuilt.calls l ⟨hmax, rfl⟩).replayed

theorem rebuilt_from_turns_accepted :
    haggled.newMachine.replay (haggled.turns.map (stored "negotiation" toString))
      = .ok haggled.unexpired ∧ haggled.unexpired.acceptedPriceAtomic = some 5 :=
  ⟨rebuilt_from_turns "negotiation" "buyer" "seller" 3 rfl toString _, rfl⟩

end Arena402.Game.NegotiationObject
