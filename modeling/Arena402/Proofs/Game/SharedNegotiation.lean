/-
Several coordinators on one negotiation do what one alone would do.

A coordinator that has read the turn the negotiation is at holds its context, and its task is
the one task of the turn.  A coordinator that has been overtaken holds a task whose single
result has been applied already, so its call finds the message of the result, or the end of
the negotiation, and writes nothing.  That is the invariant `Inv`: it also carries a run of
one coordinator alone that has reached the same tables.

It needs contexts that were read without a turn in between, tasks that are created before
their deadline, and derived actions that can be applied (`Steady`).
-/
import Arena402.Game.SharedNegotiation
import Arena402.Proofs.Core.ResultSink
import Arena402.Proofs.Core.TaskFactory
import Arena402.Proofs.Game.TurnContexts
import Arena402.Proofs.Game.FcfsRound

namespace Arena402.Game.SharedNegotiation

open Py Pawnhouse

variable {T : TextTables} {H : Hashes} {intentHash : String → Nat → String} {nid : String}

/-! ### The fetches of one context -/

/-- Fetches that see the same tables make up the context of these tables. -/
theorem assemble_eq {s : Pawnhouse} {n : NegotiationRow} (hrow : s.negotiations.get nid = some n)
    (hrunning : n.status = .negotiating) {c : NegotiationContext}
    (hc : s.hostedNegotiationContext nid = .ok (some c)) :
    assemble s nid n (fetchParticipant s n) (fetchCounterparty s n) (s.messagesOf nid) = .ok c := by
  unfold hostedNegotiationContext at hc
  simp only [hrow, hrunning, ne_eq, not_true_eq_false, if_false] at hc
  split at hc
  case h_2 => cases hc
  case h_3 => cases hc
  case h_1 role p round hrole hp hround =>
    split at hc
    case h_2 => cases hc
    case h_1 participant counterparty cash held hparticipant hcounterparty hcash hheld =>
      have hown : fetchParticipant s n = some ⟨cash, held, participant.configSnapshot⟩ := by
        unfold fetchParticipant
        simp [hrole, hp, hparticipant, hcash, hheld]
      have hother : fetchCounterparty s n = some ⟨counterparty.agentId, counterparty.name,
          s.failedNegotiations (turnOf n role).2⟩ := by
        unfold fetchCounterparty
        simp [hrole, hcounterparty]
      unfold assemble
      simp only [hrole, hp, hround, hown, hother]
      cases hc
      rfl

/-! ### The task of a turn -/

/-- The key of the task of a turn. -/
def turnKey (gameId roundId nid : String) (k : Nat) (agent : String) : String :=
  s!"{gameId}:{roundId}:{nid}:{k}:{agent}:negotiate"

theorem toString_inj {k k' : Nat} (h : toString k = toString k') : k = k' := by
  have hdigits : Nat.toDigits 10 k = Nat.toDigits 10 k' := by
    simpa [Nat.toString_eq_repr, Nat.repr_eq_ofList_toDigits] using congrArg String.toList h
  have hread := congrArg (fun digits => Nat.ofDigitChars 10 digits 0) hdigits
  simpa using hread

theorem turnKey_inj {gameId roundId agent : String} {k k' : Nat}
    (h : turnKey gameId roundId nid k agent = turnKey gameId roundId nid k' agent) : k = k' := by
  unfold turnKey at h
  simp only [String.append_assoc, String.append_right_inj, String.append_left_inj] at h
  exact toString_inj h

/-- What a view takes over from its context. -/
theorem negotiateView_envelope {c : NegotiationContext} {view : TaskInput}
    (h : negotiateView c = .ok view) : view.validate = true ∧ view.deadlineAt = c.deadlineAt ∧
      deriveIdempotencyKey H.text c.participantId view = turnKey c.round.gameId c.round.roundId
        c.negotiationId c.turnSequence c.participantId := by
  obtain ⟨history, -, h⟩ := ok_of_bind h
  obtain ⟨quote, -, h⟩ := ok_of_bind h
  obtain ⟨limitPrice, -, h⟩ := ok_of_bind h
  obtain ⟨cash, -, h⟩ := ok_of_bind h
  obtain ⟨inventory, -, h⟩ := ok_of_bind h
  unfold validated at h
  split at h
  · rename_i hvalid
    cases h
    exact ⟨hvalid, rfl, rfl⟩
  · cases h

/-- The task of a context is recorded. -/
structure Recorded (H : Hashes) (core : ArenaCore) (c : NegotiationContext)
    (task : ArenaAgentTaskV1) : Prop where
  view : ∃ view, negotiateView c = .ok view ∧
    task = ArenaCore.taskOf H task.taskId c.participantId view
  key : core.taskByIdempotency.get (task.gameAgentId, task.idempotencyKey) = some task.taskId
  record : ∃ record, core.tasks.get task.taskId = some record ∧ record.task = task ∧
    record.configHash = H.snapshot (.dict c.configSnapshot)

section Recorded

variable {core core' : ArenaCore} {c : NegotiationContext} {task task' : ArenaAgentTaskV1}

theorem Recorded.keyed (h : Recorded H core c task) : ∃ view, negotiateView c = .ok view ∧
    task = ArenaCore.taskOf H task.taskId c.participantId view ∧
    core.taskByIdempotency.get (c.participantId,
      deriveIdempotencyKey H.text c.participantId view) = some task.taskId := by
  obtain ⟨view, hview, htask⟩ := h.view
  have hkey := h.key
  rw [htask] at hkey
  exact ⟨view, hview, htask, hkey⟩

/-- A task of a context is found under the key of its view. -/
theorem Recorded.found (h : Recorded H core c task) {view : TaskInput}
    (hview : negotiateView c = .ok view) :
    ∃ record, core.getTaskByIdempotency c.participantId
        (deriveIdempotencyKey H.text c.participantId view) = some record ∧ record.task = task ∧
      record.configHash = H.snapshot (.dict c.configSnapshot) ∧
      task = ArenaCore.taskOf H task.taskId c.participantId view := by
  obtain ⟨found, hfound, htask, hkey⟩ := h.keyed
  obtain rfl : found = view := Except.ok.inj (hfound.symm.trans hview)
  obtain ⟨record, hrecord, hsame, hconfig⟩ := h.record
  refine ⟨record, ?_, hsame, hconfig, htask⟩
  unfold ArenaCore.getTaskByIdempotency
  rw [hkey]
  exact hrecord

/-- There is one task of a context. -/
theorem Recorded.unique (h : Recorded H core c task) (h' : Recorded H core c task') :
    task = task' := by
  obtain ⟨view, hview, -⟩ := h.view
  obtain ⟨record, hrecord, hsame, -, -⟩ := h.found hview
  obtain ⟨record', hrecord', hsame', -, -⟩ := h'.found hview
  obtain rfl : record = record' := Option.some.inj (hrecord.symm.trans hrecord')
  exact hsame.symm.trans hsame'

theorem Recorded.answers (h : Recorded H core c task) (ha : ArenaCore.Answers core core') :
    Recorded H core' c task where
  view := h.view
  key := by
    rw [ha.keys]
    exact h.key
  record := by
    obtain ⟨record, hrecord, hsame, hconfig⟩ := h.record
    obtain ⟨record', hrecord', hsame', hconfig'⟩ := ha.tasks _ _ hrecord
    exact ⟨record', hrecord', hsame'.trans hsame, hconfig'.trans hconfig⟩

/-- A task that is created under a new key leaves the others. -/
theorem Recorded.withTask (h : Recorded H core c task) {record : ArenaTaskRecord}
    {now : UtcDateTime} (hfresh : core.tasks.get record.task.taskId = none)
    (hnew : core.getTaskByIdempotency record.task.gameAgentId record.task.idempotencyKey = none) :
    Recorded H (core.withTask record now) c task where
  view := h.view
  key := by
    refine (Dict.get_set_ne _ _ ?_).trans h.key
    intro hsame
    obtain ⟨old, hold, -⟩ := h.record
    unfold ArenaCore.getTaskByIdempotency at hnew
    rw [← hsame, h.key] at hnew
    have hnone : core.tasks.get task.taskId = none := hnew
    rw [hold] at hnone
    cases hnone
  record := by
    obtain ⟨old, hold, hsame⟩ := h.record
    refine ⟨old, (Dict.get_set_ne _ _ ?_).trans hold, hsame⟩
    intro hid
    rw [hid, hfresh] at hold
    cases hold

end Recorded

/-! ### What the coordinators hold -/

/-- The context of the turn that the tables are at. -/
def Current (s : Pawnhouse) (nid : String) (c : NegotiationContext) : Prop :=
  s.hostedNegotiationContext nid = .ok (some c)

def Ended (s : Pawnhouse) (nid : String) : Prop :=
  ∃ row, s.negotiations.get nid = some row ∧ row.status ≠ .negotiating

/-- A turn whose result has been applied, or can no longer be. -/
def Played (s : Pawnhouse) (core : ArenaCore) (nid taskId : String) : Prop :=
  ∃ resultId, core.resultByTask.get taskId = some resultId ∧ (s.spoken resultId ∨ Ended s nid)

/-- A row of the negotiation that was read while it was running. -/
def Was (s : Pawnhouse) (nid : String) (n : NegotiationRow) : Prop :=
  n.status = .negotiating ∧ ∃ row, s.negotiations.get nid = some row ∧
    (row = n ∨ n.turnCount < row.turnCount ∨ row.status ≠ .negotiating)

/-- What a coordinator has read, as far as the row it started with still stands. -/
def Reads (s : Pawnhouse) (nid : String) (n : NegotiationRow) (facts : Prop) : Prop :=
  Was s nid n ∧ (s.negotiations.get nid = some n → facts)

/-- What a coordinator holds. -/
def Fits (H : Hashes) (nid : String) (s : Pawnhouse) (core : ArenaCore) : Coordinator → Prop
  | .idle => True
  | .row n => Reads s nid n True
  | .participant n own => Reads s nid n (own = fetchParticipant s n)
  | .counterparty n own other =>
    Reads s nid n (own = fetchParticipant s n ∧ other = fetchCounterparty s n)
  | .messages n own other history =>
    Reads s nid n (own = fetchParticipant s n ∧ other = fetchCounterparty s n ∧
      history = s.messagesOf nid)
  | .context c => Current s nid c ∨ ∃ task, Recorded H core c task ∧ Played s core nid task.taskId
  | .task task => ∃ c, Recorded H core c task ∧ (Current s nid c ∨ Played s core nid task.taskId)

theorem Current.unique {s : Pawnhouse} {c c' : NegotiationContext} (h : Current s nid c)
    (h' : Current s nid c') : c = c' :=
  Option.some.inj (Except.ok.inj (h.symm.trans h'))

theorem Current.running {s : Pawnhouse} {c : NegotiationContext} (h : Current s nid c) :
    ∃ row, s.negotiations.get nid = some row ∧ row.status = .negotiating := by
  obtain ⟨row, role, p, hof⟩ := context_cases h
  exact ⟨row, hof.stored, hof.running⟩

/-- The turn after `s`: one more message, or the end. -/
structure Advances (s s' : Pawnhouse) (nid : String) : Prop where
  rows : ∃ row row', s.negotiations.get nid = some row ∧ row.status = .negotiating ∧
    s'.negotiations.get nid = some row' ∧
    (row.turnCount < row'.turnCount ∨ row'.status ≠ .negotiating)
  spoken : ∀ resultId, s.spoken resultId → s'.spoken resultId

section Advances

variable {s s' : Pawnhouse} {core : ArenaCore} (h : Advances s s' nid)

include h

theorem Advances.not_ended : ¬ Ended s nid := by
  rintro ⟨row, hrow, hended⟩
  obtain ⟨found, -, hfound, hrunning, -⟩ := h.rows
  obtain rfl : row = found := Option.some.inj (hrow.symm.trans hfound)
  exact hended hrunning

theorem Advances.played {taskId : String} (hp : Played s core nid taskId) :
    Played s' core nid taskId := by
  obtain ⟨resultId, hresult, hspoken | hended⟩ := hp
  · exact ⟨resultId, hresult, Or.inl (h.spoken resultId hspoken)⟩
  · exact absurd hended h.not_ended

/-- A row that was read before is not the row any more. -/
theorem Advances.reads {n : NegotiationRow} {facts facts' : Prop} (hr : Reads s nid n facts) :
    Reads s' nid n facts' := by
  obtain ⟨⟨hrunning, row, hrow, hwas⟩, -⟩ := hr
  obtain ⟨found, row', hfound, hfrunning, hrow', hnext⟩ := h.rows
  obtain rfl : row = found := Option.some.inj (hrow.symm.trans hfound)
  have hlater : n.turnCount < row'.turnCount ∨ row'.status ≠ .negotiating := by
    rcases hnext with hlt | hended
    · rcases hwas with rfl | hbefore | hended
      · exact Or.inl hlt
      · exact Or.inl (hbefore.trans hlt)
      · exact absurd hfrunning hended
    · exact Or.inr hended
  refine ⟨⟨hrunning, row', hrow', Or.inr hlater⟩, ?_⟩
  intro hsame
  obtain rfl : n = row' := Option.some.inj (hsame.symm.trans hrow')
  rcases hlater with hlt | hended
  · exact absurd hlt (lt_irrefl _)
  · exact absurd hrunning hended

/-- Who held the turn that was played is overtaken. -/
theorem Advances.fits {c : NegotiationContext} {task : ArenaAgentTaskV1} (hcurrent : Current s nid c)
    (hrecorded : Recorded H core c task) (hplayed : Played s' core nid task.taskId)
    {x : Coordinator} (hx : Fits H nid s core x) : Fits H nid s' core x := by
  cases x with
  | idle => trivial
  | row _ | participant _ _ | counterparty _ _ _ | messages _ _ _ _ => exact h.reads hx
  | context c' =>
      rcases hx with hc' | ⟨task', htask', hplayed'⟩
      · obtain rfl := hcurrent.unique hc'
        exact Or.inr ⟨task, hrecorded, hplayed⟩
      · exact Or.inr ⟨task', htask', h.played hplayed'⟩
  | task task' =>
      obtain ⟨c', hc', hcurrent' | hplayed'⟩ := hx
      · obtain rfl := hcurrent.unique hcurrent'
        obtain rfl := hrecorded.unique hc'
        exact ⟨c, hrecorded, Or.inr hplayed⟩
      · exact ⟨c', hc', Or.inr (h.played hplayed')⟩

end Advances

/-- What a coordinator holds stays true when more tasks and results come in. -/
theorem Fits.grown {s : Pawnhouse} {core core' : ArenaCore} {x : Coordinator}
    (hx : Fits H nid s core x)
    (hrecorded : ∀ c task, Recorded H core c task → Recorded H core' c task)
    (hresults : ∀ id resultId, core.resultByTask.get id = some resultId →
      core'.resultByTask.get id = some resultId) : Fits H nid s core' x := by
  have hplayed : ∀ taskId, Played s core nid taskId → Played s core' nid taskId := by
    rintro taskId ⟨resultId, hresult, hwhy⟩
    exact ⟨resultId, hresults _ _ hresult, hwhy⟩
  cases x with
  | idle => trivial
  | row n => exact hx
  | participant n own => exact hx
  | counterparty n own other => exact hx
  | messages n own other history => exact hx
  | context c =>
      rcases hx with hc | ⟨task, htask, hp⟩
      · exact Or.inl hc
      · exact Or.inr ⟨task, hrecorded c task htask, hplayed _ hp⟩
  | task task =>
      obtain ⟨c, hc, hcurrent | hp⟩ := hx
      · exact ⟨c, hrecorded c task hc, Or.inl hcurrent⟩
      · exact ⟨c, hrecorded c task hc, Or.inr (hplayed _ hp)⟩

/-! ### The tables -/

/-- A negotiation that was just opened: no task of it exists, and nothing of it is claimed. -/
structure Opened (nid : String) (s : Pawnhouse) (core : ArenaCore) : Prop where
  running : ∃ row n p, s.Dealing nid row n p ∧ s.Readable nid row p ∧
    ∀ k agent, core.taskByIdempotency.get
      (agent, turnKey s.game.gameId row.roundId nid k agent) = none
  settleable : s.Settleable
  once : (s.messages.map (·.sourceResultId)).Nodup
  claimable : s.Claimable core nid
  consistent : core.Consistent
  named : core.Named
  owned : ∀ id resultId, core.resultByTask.get id = some resultId → (core.tasks.get id).isSome

/-- What the tables satisfy while the coordinators work. -/
structure Sound (H : Hashes) (nid : String) (s : Pawnhouse) (core : ArenaCore) : Prop where
  told : ∃ row n, s.Told nid row n
  running : ∀ row, s.negotiations.get nid = some row → row.status = .negotiating →
    ∃ n p, s.Dealing nid row n p ∧ s.Readable nid row p ∧ s.Claimable core nid
  settleable : s.Settleable
  once : (s.messages.map (·.sourceResultId)).Nodup
  consistent : core.Consistent
  named : core.Named
  owned : ∀ id resultId, core.resultByTask.get id = some resultId → (core.tasks.get id).isSome
  /-- No task of a later turn exists. -/
  ahead : ∀ row, s.negotiations.get nid = some row → row.status = .negotiating →
    ∀ k agent, row.turnCount + 1 < k →
      core.taskByIdempotency.get (agent, turnKey s.game.gameId row.roundId nid k agent) = none
  /-- A task of the turn is the task of its context. -/
  asked : ∀ c view id, Current s nid c → negotiateView c = .ok view →
    core.taskByIdempotency.get (c.participantId,
      deriveIdempotencyKey H.text c.participantId view) = some id →
    Recorded H core c (ArenaCore.taskOf H id c.participantId view)
  /-- The result of the turn is not claimed yet. -/
  unclaimed : ∀ c task resultId row, Current s nid c → Recorded H core c task →
    core.resultByTask.get task.taskId = some resultId → core.results.get resultId = some row →
    row.result.status = .succeeded → s.resultApplications.get resultId = none

/-- No task of the turn exists. -/
def Unasked (H : Hashes) (nid : String) (s : Pawnhouse) (core : ArenaCore) : Prop :=
  ∀ c view, Current s nid c → negotiateView c = .ok view →
    core.taskByIdempotency.get (c.participantId,
      deriveIdempotencyKey H.text c.participantId view) = none

section Tables

variable {s s' : Pawnhouse} {core core' : ArenaCore}

/-- The key of the turn that the tables are at. -/
theorem key_of_current (h : ∀ row, s.negotiations.get nid = some row → row.status = .negotiating →
      ∃ n p, s.Dealing nid row n p ∧ s.Readable nid row p ∧ s.Claimable core nid)
    {c : NegotiationContext} (hc : Current s nid c) {view : TaskInput}
    (hview : negotiateView c = .ok view) :
    ∃ row, s.negotiations.get nid = some row ∧ row.status = .negotiating ∧
      view.deadlineAt = row.actionDeadlineAt ∧
      deriveIdempotencyKey H.text c.participantId view
        = turnKey s.game.gameId row.roundId nid (row.turnCount + 1) c.participantId := by
  obtain ⟨row, role, p, hof⟩ := context_cases hc
  obtain ⟨n, p', hd, hr, -⟩ := h row hof.stored hof.running
  obtain ⟨found, hfound, hshown⟩ := context_returns hd hr
  obtain rfl := hc.unique hfound
  obtain ⟨-, hdeadline, hkey⟩ := negotiateView_envelope (H := H) hview
  refine ⟨row, hof.stored, hof.running, hdeadline.trans hof.deadline, ?_⟩
  rw [hkey, hshown.game, hshown.roundIs, hof.negotiation, hof.sequence]

theorem Opened.unasked (h : Opened nid s core) : Unasked H nid s core := by
  intro c view hc hview
  obtain ⟨row, n, p, hd, hr, hnone⟩ := h.running
  obtain ⟨found, hfound, hshown⟩ := context_returns hd hr
  obtain rfl := hc.unique hfound
  obtain ⟨row', role, p', hof⟩ := context_cases hc
  obtain ⟨-, -, hkey⟩ := negotiateView_envelope (H := H) hview
  rw [hkey, hshown.game, hshown.roundIs, hof.negotiation]
  exact hnone _ _

theorem Opened.sound (h : Opened nid s core) : Sound H nid s core := by
  have hkey : Unasked H nid s core := h.unasked
  obtain ⟨row, n, p, hd, hr, hnone⟩ := h.running
  refine
    { told := ⟨row, n, hd.toLive.told⟩
      running := ?_
      settleable := h.settleable
      once := h.once
      consistent := h.consistent
      named := h.named
      owned := h.owned
      ahead := ?_
      asked := ?_
      unclaimed := ?_ }
  · intro row' hrow' _
    obtain rfl : row = row' := Option.some.inj (hd.stored.symm.trans hrow')
    exact ⟨n, p, hd, hr, h.claimable⟩
  · intro row' hrow' _ k agent _
    obtain rfl : row = row' := Option.some.inj (hd.stored.symm.trans hrow')
    exact hnone k agent
  · intro c view id hc hview hid
    rw [hkey c view hc hview] at hid
    cases hid
  · intro c task resultId result hc htask
    obtain ⟨view, hview, -, hsome⟩ := htask.keyed
    rw [hkey c view hc hview] at hsome
    cases hsome

/-- Results come in, expire or are applied. -/
theorem Sound.answers (h : Sound H nid s core) (ha : ArenaCore.Answers core core')
    (hconsistent : core'.Consistent) : Sound H nid s core' where
  told := h.told
  running := by
    intro row hrow hrunning
    obtain ⟨n, p, hd, hr, hc⟩ := h.running row hrow hrunning
    exact ⟨n, p, hd, hr, hc.grown ha.rows⟩
  settleable := h.settleable
  once := h.once
  consistent := hconsistent
  named := ha.named h.named
  owned := by
    intro id resultId hid
    have hold : (core.tasks.get id).isSome := by
      rcases ha.linked id resultId hid with hold | hsome
      · exact h.owned id resultId hold
      · exact hsome
    obtain ⟨record, hrecord⟩ := Option.isSome_iff_exists.mp hold
    obtain ⟨record', hrecord', -⟩ := ha.tasks id record hrecord
    rw [hrecord']
    rfl
  ahead := by
    rw [ha.keys]
    exact h.ahead
  asked := by
    rw [ha.keys]
    intro c view id hc hview hid
    exact (h.asked c view id hc hview hid).answers ha
  unclaimed := by
    intro c task resultId row hc htask hresult hrow hstatus
    obtain ⟨nrow, hnrow, hrunning⟩ := hc.running
    obtain ⟨n, p, -, -, hclaimable⟩ := h.running nrow hnrow hrunning
    rcases ha.fresh task.taskId resultId row hresult hrow hstatus with
      hnew | ⟨hold, old, hget, hsame⟩
    · by_contra hclaimed
      have hknown := hclaimable.known resultId (Option.ne_none_iff_isSome.mp hclaimed)
      rw [hnew] at hknown
      cases hknown
    · obtain ⟨view, hview, heq, hkey⟩ := htask.keyed
      rw [ha.keys] at hkey
      have hrecorded := h.asked c view task.taskId hc hview hkey
      rw [← heq] at hrecorded
      exact h.unclaimed c task resultId old hc hrecorded hold hget (by rw [hsame]; exact hstatus)

/-- The task of the turn is created. -/
theorem Sound.create (h : Sound H nid s core) {c : NegotiationContext} (hc : Current s nid c)
    {view : TaskInput} (hview : negotiateView c = .ok view) {taskId : String} (now : UtcDateTime)
    (hfresh : core.tasks.get taskId = none) :
    Recorded H (core.withTask (ArenaCore.newRecord H taskId c.participantId view c.configSnapshot
        now) now) c (ArenaCore.taskOf H taskId c.participantId view) ∧
      Sound H nid s (core.withTask (ArenaCore.newRecord H taskId c.participantId view
        c.configSnapshot now) now) := by
  obtain ⟨row, hrow, hrunning, -, hkey⟩ := key_of_current h.running hc hview
  have hrecorded : Recorded H (core.withTask (ArenaCore.newRecord H taskId c.participantId view
      c.configSnapshot now) now) c (ArenaCore.taskOf H taskId c.participantId view) :=
    ⟨⟨view, hview, rfl⟩, Dict.get_set_self _ _ _, _, Dict.get_set_self _ _ _, rfl, rfl⟩
  have hmoves : ArenaCore.Moves core (core.withTask (ArenaCore.newRecord H taskId c.participantId
      view c.configSnapshot now) now) := .create _ hfresh rfl rfl rfl rfl
  refine ⟨hrecorded,
    { told := h.told
      running := ?_
      settleable := h.settleable
      once := h.once
      consistent := hmoves.consistent h.consistent
      named := h.named
      owned := fun id resultId hid => Dict.isSome_get_set _ _ _ (h.owned id resultId hid)
      ahead := ?_
      asked := ?_
      unclaimed := ?_ }⟩
  · intro row' hrow' hrunning'
    obtain ⟨n, p, hd, hr, hclaimable⟩ := h.running row' hrow' hrunning'
    exact ⟨n, p, hd, hr, hclaimable.grown fun _ hid => hid⟩
  · intro row' hrow' _ k agent hk
    obtain rfl : row = row' := Option.some.inj (hrow.symm.trans hrow')
    refine (Dict.get_set_ne _ _ ?_).trans (h.ahead row hrow hrunning k agent hk)
    intro hsame
    obtain ⟨hagent, hkeys⟩ := Prod.mk.inj hsame
    have hsamekey : turnKey s.game.gameId row.roundId nid k agent
        = deriveIdempotencyKey H.text c.participantId view := hkeys
    have hsameagent : agent = c.participantId := hagent
    rw [hkey, hsameagent] at hsamekey
    have hturn := turnKey_inj hsamekey
    omega
  · intro c' view' id hc' hview' hid
    obtain rfl := hc.unique hc'
    obtain rfl : view = view' := Except.ok.inj (hview.symm.trans hview')
    have hset : (core.taskByIdempotency.set (c.participantId,
        deriveIdempotencyKey H.text c.participantId view) taskId).get (c.participantId,
        deriveIdempotencyKey H.text c.participantId view) = some id := hid
    rw [Dict.get_set_self] at hset
    obtain rfl := Option.some.inj hset
    exact hrecorded
  · intro c' task resultId result hc' htask hresult
    obtain rfl := hc.unique hc'
    obtain rfl := hrecorded.unique htask
    have hold : core.resultByTask.get taskId = some resultId := hresult
    have hsome := h.owned taskId resultId hold
    rw [hfresh] at hsome
    cases hsome

/-- An action is derived from a result that succeeded. -/
theorem succeeded_of_derived {task : ArenaAgentTaskV1} {r : AgentTaskResultV1}
    (hkind : task.kind = .negotiate) (h : (FcfsRound.derivedAction task r).isSome) :
    r.status = .succeeded := by
  by_contra hstatus
  unfold FcfsRound.derivedAction deriveApplication at h
  rw [if_pos hstatus] at h
  unfold defaultApplication at h
  rw [hkind] at h
  cases h

/-- Results that were spoken stay spoken. -/
theorem spoken_append (messages : List NegotiationMessage) (h : s'.messages = s.messages ++ messages)
    {resultId : String} (hspoken : s.spoken resultId) : s'.spoken resultId := by
  obtain ⟨m, hm, hid⟩ := hspoken
  exact ⟨m, by rw [h]; exact List.mem_append_left _ hm, hid⟩

theorem once_append {m : NegotiationMessage} (h : s'.messages = s.messages ++ [m])
    (honce : (s.messages.map (·.sourceResultId)).Nodup) (hunspoken : ¬ s.spoken m.sourceResultId) :
    (s'.messages.map (·.sourceResultId)).Nodup := by
  rw [h, List.map_append, List.nodup_append]
  refine ⟨honce, List.nodup_singleton _, ?_⟩
  rintro id hid id' hid' rfl
  rw [List.map_singleton, List.mem_singleton] at hid'
  obtain ⟨found, hfound, hsame⟩ := List.mem_map.mp hid
  exact hunspoken ⟨found, hfound, hsame.trans hid'⟩

/-- The tables of a negotiation that ended. -/
theorem Sound.ended (h : Sound H nid s core) (hk : Kept nid s s') {row' : NegotiationRow}
    {n' : Negotiation} (htold : s'.Told nid row' n') (hstatus : row'.status ≠ .negotiating)
    (honce : (s'.messages.map (·.sourceResultId)).Nodup) : Sound H nid s' core := by
  have hnot : ∀ c, ¬ Current s' nid c := by
    intro c hc
    obtain ⟨found, hfound, hrunning⟩ := hc.running
    obtain rfl : row' = found := Option.some.inj (htold.stored.symm.trans hfound)
    exact hstatus hrunning
  exact
    { told := ⟨row', n', htold⟩
      running := by
        intro found hfound hrunning
        obtain rfl : row' = found := Option.some.inj (htold.stored.symm.trans hfound)
        exact absurd hrunning hstatus
      settleable := h.settleable.kept hk
      once := honce
      consistent := h.consistent
      named := h.named
      owned := h.owned
      ahead := by
        intro found hfound hrunning
        obtain rfl : row' = found := Option.some.inj (htold.stored.symm.trans hfound)
        exact absurd hrunning hstatus
      asked := fun c view id hc => absurd hc (hnot c)
      unclaimed := fun c task resultId result hc => absurd hc (hnot c) }

/-- The turn that the tables are at is played. -/
theorem Sound.turn (h : Sound H nid s core) {c : NegotiationContext} (hc : Current s nid c)
    {task : ArenaAgentTaskV1} (htask : Recorded H core c task) {resultId : String}
    {result : ArenaResultRecord} (hresult : core.resultByTask.get task.taskId = some resultId)
    (hrow : core.results.get resultId = some result) {now : UtcDateTime}
    (hok : s.applyHostedNegotiationAction intentHash core nid result.result.resultId
      (FcfsRound.derivedAction task result.result) now = .ok s') :
    Sound H nid s' core ∧
      (s' = s ∨ (Advances s s' nid ∧ Played s' core nid task.taskId ∧ Unasked H nid s' core)) := by
  obtain ⟨row, role, p, hof⟩ := context_cases hc
  obtain ⟨n, p', hd, hr, hclaimable⟩ := h.running row hof.stored hof.running
  have hname : result.result.resultId = resultId := h.named _ _ hrow
  rw [hname] at hok
  cases hd.toLive.turn_effect hok with
  | nothing hspoken hsame =>
      subst hsame
      exact ⟨h, Or.inl rfl⟩
  | ended hunspoken row' n' htold hparties hstatus hmessages =>
      have hadvances : Advances s s' nid := by
        refine ⟨⟨row, row', hof.stored, hof.running, htold.stored, Or.inr hstatus⟩, ?_⟩
        intro id hid
        rcases hmessages with hsame | ⟨m, -, -, hsame⟩
        · exact spoken_append [] (by rw [hsame, List.append_nil]) hid
        · exact spoken_append [m] hsame hid
      have hunasked : Unasked H nid s' core := by
        intro c' view' hc'
        obtain ⟨found, hfound, hrunning⟩ := hc'.running
        obtain rfl : row' = found := Option.some.inj (htold.stored.symm.trans hfound)
        exact absurd hrunning hstatus
      have honce : (s'.messages.map (·.sourceResultId)).Nodup := by
        rcases hmessages with hsame | ⟨m, hm, -, hsame⟩
        · rw [hsame]
          exact h.once
        · exact once_append hsame h.once (by rw [hm]; exact hunspoken)
      exact ⟨h.ended (turn_kept hok) htold hstatus honce,
        Or.inr ⟨hadvances, ⟨resultId, hresult, Or.inr ⟨row', htold.stored, hstatus⟩⟩, hunasked⟩⟩
  | proposed hunspoken hauthored price a n' hquote hbound hpost happly hlength hb hsame =>
      obtain ⟨view, hview, heq⟩ := htask.view
      have hkind : task.kind = .negotiate := by
        obtain ⟨v, rfl, -⟩ := negotiateView_cases hview
        rw [heq]
        rfl
      have hfree := h.unclaimed c task resultId result hc htask hresult hrow
        (succeeded_of_derived hkind hauthored)
      have hknown : (core.results.get resultId).isSome := by
        rw [hrow]
        rfl
      have hstored : s'.negotiations.get nid
          = some ((s.say (turnMessage nid resultId n.nextRole n' a)).turnRow row n' now) := by
        rw [hsame]
        exact Dict.get_set_self _ _ _
      have hcount : ((s.say (turnMessage nid resultId n.nextRole n' a)).turnRow row n' now).turnCount
          = row.turnCount + 1 := by
        rw [hd.turnCount]
        exact hlength
      have hrunning : ∀ row', s'.negotiations.get nid = some row' → row'.status = .negotiating →
          ∃ n p, s'.Dealing nid row' n p ∧ s'.Readable nid row' p ∧ s'.Claimable core nid := by
        intro row' hrow' hstatus'
        obtain ⟨n₂, hd'⟩ := hd.turn hok hrow' hstatus'
        obtain rfl := Option.some.inj (hstored.symm.trans hrow')
        refine ⟨n₂, p', hd', ?_, ?_⟩
        · rw [hsame]
          exact hr.proposed hquote hbound
        · rw [hsame]
          exact hclaimable.proposed hknown hfree
      have hahead : ∀ k agent, row.turnCount + 1 < k →
          core.taskByIdempotency.get (agent, turnKey s'.game.gameId row.roundId nid k agent)
            = none := by
        rw [hsame]
        exact h.ahead row hof.stored hof.running
      have hnone : Unasked H nid s' core := by
        intro c' view' hc' hview'
        obtain ⟨row', hrow', -, -, hkey⟩ := key_of_current (H := H) hrunning hc' hview'
        obtain rfl := Option.some.inj (hstored.symm.trans hrow')
        rw [hkey, hcount]
        exact hahead _ _ (Nat.lt_succ_self _)
      have hlive : ((s.say (turnMessage nid resultId n.nextRole n' a)).setTurn nid row n' now).Live nid
          _ n' := hd.toLive.proposed hpost happly hb
      have hspoken : s'.spoken resultId :=
        ⟨turnMessage nid resultId n.nextRole n' a, by rw [hsame]; simp [say, setTurn], rfl⟩
      refine ⟨?_, Or.inr ⟨⟨⟨row, _, hof.stored, hof.running, hstored, Or.inl ?_⟩, ?_⟩,
        ⟨resultId, hresult, Or.inl hspoken⟩, hnone⟩⟩
      · exact
          { told := ⟨_, n', by rw [hsame]; exact hlive.told⟩
            running := hrunning
            settleable := h.settleable.kept (turn_kept hok)
            once := once_append (m := turnMessage nid resultId n.nextRole n' a) (by rw [hsame]; rfl)
              h.once hunspoken
            consistent := h.consistent
            named := h.named
            owned := h.owned
            ahead := by
              intro row' hrow' _ k agent hk
              obtain rfl := Option.some.inj (hstored.symm.trans hrow')
              rw [hcount] at hk
              exact hahead k agent (by omega)
            asked := by
              intro c' view' id hc' hview' hid
              rw [hnone c' view' hc' hview'] at hid
              cases hid
            unclaimed := by
              intro c' task' resultId' result' hc' htask'
              obtain ⟨view', hview', -, hsome⟩ := htask'.keyed
              rw [hnone c' view' hc' hview'] at hsome
              cases hsome }
      · rw [hcount]
        exact Nat.lt_succ_self _
      · intro id hid
        exact spoken_append [turnMessage nid resultId n.nextRole n' a] (by rw [hsame]; rfl) hid

end Tables

/-! ### Steps of the coordinators -/

/-- The row that a coordinator reads a context for. -/
def Coordinator.reading : Coordinator → Option NegotiationRow
  | .row n | .participant n _ | .counterparty n _ _ | .messages n _ _ _ => some n
  | _ => none

/-- The calls that do not run into a turn of another coordinator or into the end of their
    time: no turn is committed while a context is read, a new task is created before its
    deadline and under a new id, its view passes the scan, and a turn that is played can be
    applied. -/
def Steady (T : TextTables) (H : Hashes) (nid : String) (t : Shared) : Move → Prop
  | .fetch i => ∀ n, (t.at i).reading = some n → t.house.negotiations.get nid = some n
  | .create i taskId now => ∀ c view, t.at i = .context c → negotiateView c = .ok view →
      secureConfigSnapshot T view.dump = none ∧
      secureConfigSnapshot T (.dict c.configSnapshot) = none ∧
      ((t.core.getTaskByIdempotency c.participantId
          (deriveIdempotencyKey H.text c.participantId view)).isSome ∨
        (t.core.tasks.get taskId = none ∧ now < c.deadlineAt))
  | .apply i _ => ∀ task resultId row, t.at i = .task task →
      t.core.resultByTask.get task.taskId = some resultId →
      t.core.results.get resultId = some row →
      t.house.spoken resultId ∨ Ended t.house nid ∨
        t.house.TurnOk nid (FcfsRound.derivedAction task row.result)
  | _ => True

/-- The calls of the first coordinator, and what happens to results. -/
def OnlyFirst (_ : Shared) : Move → Prop
  | .fetch i | .create i _ _ | .apply i _ | .stop i => i = 0
  | .core _ => True

@[simp] theorem go_house (t : Shared) (i : Nat) (x : Coordinator) : (t.go i x).house = t.house := rfl

@[simp] theorem go_core (t : Shared) (i : Nat) (x : Coordinator) : (t.go i x).core = t.core := rfl

@[simp] theorem go_at_self (t : Shared) (i : Nat) (x : Coordinator) : (t.go i x).at i = x := by
  simp [Shared.go]

theorem go_go (t : Shared) (i : Nat) (x y : Coordinator) : (t.go i x).go i y = t.go i y := by
  unfold Shared.go
  simp

/-- A coordinator that goes on with something true. -/
theorem fits_go {t : Shared} {s : Pawnhouse} {core : ArenaCore}
    (h : ∀ j, Fits H nid s core (t.at j)) {i : Nat} {x : Coordinator} (hx : Fits H nid s core x) :
    ∀ j, Fits H nid s core ((t.go i x).at j) := by
  intro j
  by_cases hj : j = i
  · subst hj
    rw [go_at_self]
    exact hx
  · have hsame : (t.go i x).at j = t.at j := by simp [Shared.go, hj]
    rw [hsame]
    exact h j

theorem step_of_call {t t' : Shared} {m : Move} (h : t.call T H intentHash nid m = some (.ok t')) :
    t.step T H intentHash nid m = some t' := by
  unfold Shared.step
  rw [h]
  rfl

theorem call_of_step {t t' : Shared} {m : Move} (h : t.step T H intentHash nid m = some t') :
    t.call T H intentHash nid m = some (.ok t') := by
  obtain ⟨outcome, hcall, hok⟩ := Option.bind_eq_some_iff.mp h
  rw [hcall, ok_of_toOption hok]

/-- One coordinator reads the context of the turn, from the row to the events. -/
theorem reads_context {t : Shared} {i : Nat} (hidle : t.at i = .idle) {c : NegotiationContext}
    (hc : Current t.house nid c) {ok : Shared → Move → Prop} (hok : ∀ u, ok u (.fetch i)) :
    Trans.Run (Shared.step T H intentHash nid) ok t (t.go i (.context c)) := by
  obtain ⟨n, hrow, hrunning⟩ := hc.running
  have hrun : ∀ {x : Coordinator} (y : Coordinator), Trans.Run (Shared.step T H intentHash nid) ok t
        (t.go i x) → (t.go i x).fetch nid i = some (.ok ((t.go i x).go i y)) →
      Trans.Run (Shared.step T H intentHash nid) ok t (t.go i y) := by
    intro x y hr hfetch
    rw [go_go] at hfetch
    exact hr.tail (hok _) (step_of_call hfetch)
  have hfirst : Trans.Run (Shared.step T H intentHash nid) ok t (t.go i (.row n)) := by
    refine Trans.Run.refl.tail (hok t) (step_of_call ?_)
    show t.fetch nid i = _
    unfold Shared.fetch
    rw [hidle, hrow]
    dsimp only
    rw [if_pos hrunning]
  have hsecond := hrun (.participant n (fetchParticipant t.house n)) hfirst (by
    unfold Shared.fetch
    rw [go_at_self]
    rfl)
  have hthird := hrun (.counterparty n (fetchParticipant t.house n)
    (fetchCounterparty t.house n)) hsecond (by
    unfold Shared.fetch
    rw [go_at_self]
    rfl)
  have hfourth := hrun (.messages n (fetchParticipant t.house n)
    (fetchCounterparty t.house n) (t.house.messagesOf nid)) hthird (by
    unfold Shared.fetch
    rw [go_at_self]
    rfl)
  refine hrun (.context c) hfourth ?_
  unfold Shared.fetch
  rw [go_at_self]
  dsimp only
  rw [go_house, assemble_eq hrow hrunning hc]

/-- A lone coordinator reads the context of the turn and creates its task. -/
theorem creates_task (intentHash : String → Nat → String) {t : Shared} (hidle : t.at 0 = .idle)
    {c : NegotiationContext} (hc : Current t.house nid c) {view : TaskInput}
    (hview : negotiateView c = .ok view)
    {taskId : String} {now : UtcDateTime} {core : ArenaCore} {record : ArenaTaskRecord}
    (hcreate : t.core.factoryCreate T H taskId c.participantId view c.configSnapshot now
      = .ok (core, record)) :
    ∃ t', Trans.Run (Shared.step T H intentHash nid) OnlyFirst t t' ∧ t'.house = t.house ∧
      t'.core = core ∧ t'.at 0 = .task record.task := by
  have hread : Trans.Run (Shared.step T H intentHash nid) OnlyFirst t (t.go 0 (.context c)) :=
    reads_context hidle hc fun _ => rfl
  have hcall : (t.go 0 (.context c)).call T H intentHash nid (.create 0 taskId now)
      = some (.ok (Shared.go ⟨t.house, core, (t.go 0 (.context c)).at⟩ 0 (.task record.task))) := by
    show (t.go 0 (.context c)).create T H 0 taskId now = _
    unfold Shared.create
    rw [go_at_self]
    simp only [hview, go_core, hcreate]
    rfl
  have hfirst : OnlyFirst (t.go 0 (.context c)) (.create 0 taskId now) := rfl
  exact ⟨_, hread.tail hfirst (step_of_call hcall), rfl, rfl, go_at_self _ _ _⟩

/-- How far the lone coordinator is: it has the task of the turn, if there is one. -/
def Abreast (H : Hashes) (nid : String) (t : Shared) : Prop :=
  (∃ task c, t.at 0 = .task task ∧ Current t.house nid c ∧ Recorded H t.core c task) ∨
    (t.at 0 = .idle ∧ Unasked H nid t.house t.core)

/-- The invariant of the coordinators. -/
structure Inv (T : TextTables) (H : Hashes) (intentHash : String → Nat → String) (nid : String)
    (start t : Shared) : Prop where
  sound : Sound H nid t.house t.core
  fits : ∀ i, Fits H nid t.house t.core (t.at i)
  /-- One coordinator alone gets to the same tables. -/
  alone : ∃ t₀, Trans.Run (Shared.step T H intentHash nid) OnlyFirst start t₀ ∧
    t₀.house = t.house ∧ t₀.core = t.core ∧ Abreast H nid t₀

section Step

variable {start t t' : Shared} {i : Nat}

/-- A step that leaves the tables alone. -/
theorem Inv.go (h : Inv T H intentHash nid start t) {x : Coordinator}
    (hx : Fits H nid t.house t.core x) : Inv T H intentHash nid start (t.go i x) :=
  ⟨h.sound, fits_go h.fits hx, h.alone⟩

theorem Inv.fetch (h : Inv T H intentHash nid start t) (hsteady : Steady T H nid t (.fetch i))
    {outcome : Except CallError Shared} (hcall : t.fetch nid i = some outcome) :
    ∃ t', outcome = .ok t' ∧ Inv T H intentHash nid start t' := by
  have hfits := h.fits i
  unfold Shared.fetch at hcall
  cases hat : t.at i with
  | idle =>
      rw [hat] at hcall
      obtain ⟨row, n, htold⟩ := h.sound.told
      simp only [htold.stored] at hcall
      obtain rfl := Option.some.inj hcall
      by_cases hrunning : row.status = .negotiating
      · rw [if_pos hrunning]
        exact ⟨_, rfl, h.go ⟨⟨hrunning, row, htold.stored, Or.inl rfl⟩, fun _ => trivial⟩⟩
      · rw [if_neg hrunning]
        exact ⟨t, rfl, h⟩
  | row n =>
      rw [hat] at hcall hfits
      obtain rfl := Option.some.inj hcall
      exact ⟨_, rfl, h.go ⟨hfits.1, fun _ => rfl⟩⟩
  | participant n own =>
      rw [hat] at hcall hfits
      obtain rfl := Option.some.inj hcall
      exact ⟨_, rfl, h.go ⟨hfits.1, fun hrow => ⟨hfits.2 hrow, rfl⟩⟩⟩
  | counterparty n own other =>
      rw [hat] at hcall hfits
      obtain rfl := Option.some.inj hcall
      exact ⟨_, rfl, h.go ⟨hfits.1, fun hrow => ⟨(hfits.2 hrow).1, (hfits.2 hrow).2, rfl⟩⟩⟩
  | messages n own other history =>
      rw [hat] at hcall hfits
      have hrow : t.house.negotiations.get nid = some n := hsteady n (by rw [hat]; rfl)
      obtain ⟨rfl, rfl, rfl⟩ := hfits.2 hrow
      obtain ⟨m, p, hd, hr, -⟩ := h.sound.running n hrow hfits.1.1
      obtain ⟨c, hc, -⟩ := context_returns hd hr
      simp only [assemble_eq hrow hfits.1.1 hc] at hcall
      obtain rfl := Option.some.inj hcall
      exact ⟨_, rfl, h.go (Or.inl hc)⟩
  | context _ | task _ =>
      rw [hat] at hcall
      cases hcall

/-- A context that a coordinator holds has a view. -/
theorem Inv.view (h : Inv T H intentHash nid start t) {c : NegotiationContext}
    (hat : t.at i = .context c) : ∃ view, negotiateView c = .ok view := by
  have hfits := h.fits i
  rw [hat] at hfits
  rcases hfits with hc | ⟨task, htask, -⟩
  · obtain ⟨row, role, p, hof⟩ := context_cases hc
    obtain ⟨n, p', hd, hr, -⟩ := h.sound.running row hof.stored hof.running
    exact view_returns hd hr hc
  · obtain ⟨view, hview, -⟩ := htask.view
    exact ⟨view, hview⟩

/-- The task that is found under the key of a context is its task. -/
theorem Inv.held (h : Inv T H intentHash nid start t) {c : NegotiationContext}
    (hat : t.at i = .context c) {view : TaskInput} (hview : negotiateView c = .ok view)
    {record : ArenaTaskRecord} (hrecord : t.core.getTaskByIdempotency c.participantId
      (deriveIdempotencyKey H.text c.participantId view) = some record) :
    Recorded H t.core c record.task ∧ record.configHash = H.snapshot (.dict c.configSnapshot) ∧
      (Current t.house nid c ∨ Played t.house t.core nid record.task.taskId) := by
  have hfits := h.fits i
  rw [hat] at hfits
  have hsame : ∀ {task : ArenaAgentTaskV1}, Recorded H t.core c task → record.task = task ∧
      record.configHash = H.snapshot (.dict c.configSnapshot) := by
    intro task htask
    obtain ⟨found, hfound, htask, hconfig, -⟩ := htask.found hview
    obtain rfl : found = record := Option.some.inj (hfound.symm.trans hrecord)
    exact ⟨htask, hconfig⟩
  rcases hfits with hc | ⟨task, htask, hplayed⟩
  · obtain ⟨id, hid, -⟩ := Option.bind_eq_some_iff.mp hrecord
    have hasked := h.sound.asked c view id hc hview hid
    obtain ⟨htask, hconfig⟩ := hsame hasked
    rw [← htask] at hasked
    exact ⟨hasked, hconfig, Or.inl hc⟩
  · obtain ⟨rfl, hconfig⟩ := hsame htask
    exact ⟨htask, hconfig, Or.inr hplayed⟩

theorem Inv.create (h : Inv T H intentHash nid start t) {taskId : String} {now : UtcDateTime}
    (hsteady : Steady T H nid t (.create i taskId now)) {outcome : Except CallError Shared}
    (hcall : t.create T H i taskId now = some outcome) :
    ∃ t', outcome = .ok t' ∧ Inv T H intentHash nid start t' := by
  unfold Shared.create at hcall
  split at hcall
  case h_2 => cases hcall
  case h_1 c hat =>
    obtain ⟨view, hview⟩ := h.view hat
    obtain ⟨hscan, hconfigScan, hwhen⟩ := hsteady c view hat hview
    obtain ⟨hvalid, hdeadline, -⟩ := negotiateView_envelope (H := H) hview
    rw [hview] at hcall
    dsimp only at hcall
    cases hrecord : t.core.getTaskByIdempotency c.participantId
        (deriveIdempotencyKey H.text c.participantId view) with
    | some record =>
        obtain ⟨htask, hconfig, hheld⟩ := h.held hat hview hrecord
        obtain ⟨-, -, -, -, heq⟩ := htask.found hview
        have hmatch : ArenaCore.Matches H c.participantId view c.configSnapshot record :=
          ⟨by rw [heq]; rfl, by rw [heq]; rfl, hconfig⟩
        rw [ArenaCore.factory_recovers hscan hconfigScan hvalid hrecord hmatch] at hcall
        obtain rfl := Option.some.inj hcall
        exact ⟨_, rfl, h.go ⟨c, htask, hheld⟩⟩
    | none =>
        rw [hrecord] at hwhen
        obtain ⟨hfresh, hahead⟩ := hwhen.resolve_left (by simp)
        have hcurrent : Current t.house nid c := by
          have hfits := h.fits i
          rw [hat] at hfits
          rcases hfits with hc | ⟨task, htask, -⟩
          · exact hc
          · obtain ⟨record, hfound, -⟩ := htask.found hview
            rw [hrecord] at hfound
            cases hfound
        have hcreated := ArenaCore.factory_creates (H := H) hscan hconfigScan hvalid hrecord hfresh
          (by rw [hdeadline]; exact hahead)
        rw [hcreated] at hcall
        obtain rfl := Option.some.inj hcall
        obtain ⟨hrecorded, hsound⟩ := h.sound.create hcurrent hview now hfresh
        refine ⟨_, rfl, hsound, ?_, ?_⟩
        · refine fits_go (fun j => ?_) ⟨c, hrecorded, Or.inl hcurrent⟩
          exact (h.fits j).grown (fun c task hr => hr.withTask hfresh hrecord) fun _ _ hid => hid
        · obtain ⟨t₀, hrun, hhouse, hcore, habreast⟩ := h.alone
          rcases habreast with ⟨task, c', -, hc', htask⟩ | ⟨hidle, -⟩
          · rw [hhouse] at hc'
            rw [hcore] at htask
            obtain rfl := hcurrent.unique hc'
            obtain ⟨record, hfound, -⟩ := htask.found hview
            rw [hrecord] at hfound
            cases hfound
          · rw [← hcore] at hcreated
            rw [← hhouse] at hcurrent
            obtain ⟨t₁, hrun₁, hhouse₁, hcore₁, hat₁⟩ :=
              creates_task intentHash hidle hcurrent hview hcreated
            refine ⟨t₁, hrun.trans hrun₁, hhouse₁.trans hhouse, ?_, Or.inl ⟨_, c, hat₁, ?_, ?_⟩⟩
            · rw [hcore₁, hcore]
              rfl
            · rw [hhouse₁]
              exact hcurrent
            · rw [hcore₁, hcore]
              exact hrecorded

/-- A result that was spoken, or comes after the end, changes nothing. -/
theorem apply_again {s : Pawnhouse} {core : ArenaCore} {resultId : String} {action : Option Action}
    {now : UtcDateTime} {row : NegotiationRow} (hrow : s.negotiations.get nid = some row)
    (h : s.spoken resultId ∨ Ended s nid) :
    s.applyHostedNegotiationAction intentHash core nid resultId action now = .ok s := by
  unfold applyHostedNegotiationAction
  simp only [hrow]
  by_cases hspoken : s.spoken resultId
  · rw [if_pos ((any_spoken _ _).mpr hspoken)]
  · rw [if_neg fun hc => hspoken ((any_spoken _ _).mp hc)]
    obtain ⟨found, hfound, hended⟩ := h.resolve_left hspoken
    obtain rfl : row = found := Option.some.inj (hrow.symm.trans hfound)
    rw [if_pos hended]

/-- The result of the turn can be applied. -/
theorem Sound.turn_returns (intentHash : String → Nat → String) {s : Pawnhouse} {core : ArenaCore}
    (h : Sound H nid s core) {c : NegotiationContext} (hc : Current s nid c) {task : ArenaAgentTaskV1}
    (htask : Recorded H core c task) {resultId : String} {result : ArenaResultRecord}
    (hresult : core.resultByTask.get task.taskId = some resultId)
    (hrow : core.results.get resultId = some result) (hunspoken : ¬ s.spoken resultId)
    (hok : s.TurnOk nid (FcfsRound.derivedAction task result.result)) (now : UtcDateTime) :
    ∃ s', s.applyHostedNegotiationAction intentHash core nid resultId
      (FcfsRound.derivedAction task result.result) now = .ok s' := by
  obtain ⟨row, role, p', hof⟩ := context_cases hc
  obtain ⟨n, p, hd, -, hclaimable⟩ := h.running row hof.stored hof.running
  obtain rfl : p = p' := Option.some.inj (hd.pairing.symm.trans hof.pairing)
  obtain ⟨view, hview, heq⟩ := htask.view
  obtain ⟨v, hw⟩ := waiting_of_context (H := H) hd hof hview
  rw [← heq] at hw
  cases hderived : FcfsRound.derivedAction task result.result with
  | none => exact turn_none_returns hd hunspoken
  | some a =>
      have hsucceeded := succeeded_of_derived hw.kind (by rw [hderived]; rfl)
      have hfree := h.unclaimed c task resultId result hc htask hresult hrow hsucceeded
      have hsyncs : s.Syncs core nid resultId row n now :=
        hclaimable.syncs hd.toLive hunspoken (by rw [hrow]; rfl) hfree now
      rw [← hderived]
      exact (turn_returns_iff h.settleable hd hw hunspoken hsyncs result.result).mpr hok

theorem Inv.apply (h : Inv T H intentHash nid start t) {now : UtcDateTime}
    (hsteady : Steady T H nid t (.apply i now)) {outcome : Except CallError Shared}
    (hcall : t.apply intentHash nid i now = some outcome) :
    ∃ t', outcome = .ok t' ∧ Inv T H intentHash nid start t' := by
  unfold Shared.apply at hcall
  split at hcall
  case h_2 => cases hcall
  case h_1 task hat =>
    obtain ⟨result, hfound, hcall⟩ := Option.map_eq_some_iff.mp hcall
    obtain ⟨resultId, hresult, hrow⟩ := Option.bind_eq_some_iff.mp hfound
    have hname : result.result.resultId = resultId := h.sound.named _ _ hrow
    obtain ⟨nrow, nm, htold⟩ := h.sound.told
    have hfits := h.fits i
    rw [hat] at hfits
    obtain ⟨c, htask, hwhen⟩ := hfits
    rw [hname] at hcall
    have hagain : t.house.spoken resultId ∨ Ended t.house nid →
        ∃ t', outcome = .ok t' ∧ Inv T H intentHash nid start t' := by
      intro hwhy
      rw [apply_again htold.stored hwhy] at hcall
      exact ⟨_, hcall.symm, h.go (x := .idle) trivial⟩
    by_cases hover : t.house.spoken resultId ∨ Ended t.house nid
    · exact hagain hover
    have hcurrent : Current t.house nid c := by
      rcases hwhen with hc | ⟨found, hfoundResult, hwhy⟩
      · exact hc
      · obtain rfl : resultId = found := Option.some.inj (hresult.symm.trans hfoundResult)
        exact absurd hwhy hover
    rw [not_or] at hover
    have hturn := ((hsteady task resultId result hat hresult hrow).resolve_left hover.1).resolve_left
      hover.2
    obtain ⟨s', hs'⟩ := h.sound.turn_returns intentHash hcurrent htask hresult hrow
      hover.1 hturn now
    rw [hs'] at hcall
    refine ⟨_, hcall.symm, ?_⟩
    have hnamed : t.house.applyHostedNegotiationAction intentHash t.core nid result.result.resultId
        (FcfsRound.derivedAction task result.result) now = .ok s' := by
      rw [hname]
      exact hs'
    obtain ⟨hsound, rfl | ⟨hadvances, hplayed, hunasked⟩⟩ :=
      h.sound.turn hcurrent htask hresult hrow hnamed
    · exact h.go trivial
    refine ⟨hsound, fits_go (fun j => hadvances.fits hcurrent htask hplayed (h.fits j)) trivial, ?_⟩
    obtain ⟨t₀, hrun, hhouse, hcore, ⟨task', c', hat', hc', htask'⟩ | ⟨-, hnone⟩⟩ := h.alone
    · rw [hhouse] at hc'
      rw [hcore] at htask'
      obtain rfl := hcurrent.unique hc'
      obtain rfl := htask.unique htask'
      have hcall₀ : t₀.call T H intentHash nid (.apply 0 now)
          = some (.ok (Shared.go ⟨s', t₀.core, t₀.at⟩ 0 .idle)) := by
        show t₀.apply intentHash nid 0 now = _
        unfold Shared.apply
        rw [hat']
        simp only [hcore, hhouse, hresult, Option.bind_some, hrow, Option.map_some, hnamed]
      have hfirst : OnlyFirst t₀ (.apply 0 now) := rfl
      refine ⟨_, hrun.tail hfirst (step_of_call hcall₀), rfl, hcore, Or.inr ⟨go_at_self _ _ _, ?_⟩⟩
      show Unasked H nid s' t₀.core
      rw [hcore]
      exact hunasked
    · rw [hhouse, hcore] at hnone
      obtain ⟨view, hview, -, hkey⟩ := htask.keyed
      rw [hnone c view hcurrent hview] at hkey
      cases hkey

/-- Calls on results only. -/
theorem answers_call {core : ArenaCore} (hc : core.Consistent) {call : ArenaCore.CoreCall}
    (h : ∀ task config configHash createdAt, call ≠ .createTask task config configHash createdAt) :
    ArenaCore.Answers core (core.call T H call) := by
  cases call with
  | createTask task config configHash createdAt => exact absurd rfl (h task config configHash createdAt)
  | submitResult r now messageReplaced policyVersion =>
      exact (ArenaCore.writes_submitResult hc r now messageReplaced policyVersion).answers
  | finalizeExpired now limit => exact (ArenaCore.writes_finalizeExpired hc now limit).answers
  | applyResult resultId now =>
      rw [ArenaCore.call]
      split
      · rename_i s' applied happly
        exact (ArenaCore.writes_applyResult (H := H) happly).answers
      · exact ArenaCore.Answers.refl core

theorem Inv.core (h : Inv T H intentHash nid start t) {call : ArenaCore.CoreCall}
    (hcall : ∀ task config configHash createdAt, call ≠ .createTask task config configHash createdAt) :
    Inv T H intentHash nid start { t with core := t.core.call T H call } := by
  have hanswers := answers_call (T := T) (H := H) h.sound.consistent hcall
  have hconsistent := (ArenaCore.steps_call (T := T) (H := H) h.sound.consistent call).moves.consistent
    h.sound.consistent
  refine ⟨h.sound.answers hanswers hconsistent, ?_, ?_⟩
  · intro i
    exact (h.fits i).grown (fun c task hr => hr.answers hanswers) hanswers.stable
  · obtain ⟨t₀, hrun, hhouse, hcore, habreast⟩ := h.alone
    have hcall₀ : t₀.call T H intentHash nid (.core call)
        = some (.ok { t₀ with core := t.core.call T H call }) := by
      rw [← hcore]
      cases call with
      | createTask task config configHash createdAt =>
          exact absurd rfl (hcall task config configHash createdAt)
      | submitResult r now messageReplaced policyVersion => rfl
      | finalizeExpired now limit => rfl
      | applyResult resultId now => rfl
    refine ⟨_, hrun.tail (e := .core call) trivial (step_of_call hcall₀), hhouse, rfl, ?_⟩
    rcases habreast with ⟨task, c, hat, hc, htask⟩ | ⟨hat, hnone⟩
    · refine Or.inl ⟨task, c, hat, hc, ?_⟩
      rw [hcore] at htask
      exact htask.answers hanswers
    · refine Or.inr ⟨hat, ?_⟩
      intro c view hc hview
      rw [hanswers.keys, ← hcore]
      exact hnone c view hc hview

/-- **A steady call returns, and keeps the invariant.** -/
theorem Inv.step (h : Inv T H intentHash nid start t) {m : Move} (hsteady : Steady T H nid t m)
    {outcome : Except CallError Shared} (hcall : t.call T H intentHash nid m = some outcome) :
    ∃ t', outcome = .ok t' ∧ Inv T H intentHash nid start t' := by
  cases m with
  | fetch i => exact h.fetch hsteady hcall
  | create i taskId now => exact h.create hsteady hcall
  | apply i now => exact h.apply hsteady hcall
  | stop i =>
      obtain rfl := Option.some.inj hcall
      exact ⟨_, rfl, h.go trivial⟩
  | core call =>
      cases call with
      | createTask task config configHash createdAt => cases hcall
      | submitResult _ _ _ _ | finalizeExpired _ _ | applyResult _ _ =>
          obtain rfl := Option.some.inj hcall
          exact ⟨_, rfl, h.core (by simp)⟩

/-- After the end no call changes the tables of the game. -/
theorem ended_step (h : Ended t.house nid) {m : Move}
    (hstep : t.step T H intentHash nid m = some t') : t'.house = t.house := by
  have hcall := call_of_step hstep
  cases m with
  | fetch i =>
      have hfetch : t.fetch nid i = some (.ok t') := hcall
      unfold Shared.fetch at hfetch
      split at hfetch
      · split at hfetch
        · cases hfetch
          split <;> rfl
        · cases hfetch
          rfl
      · cases hfetch
        rfl
      · cases hfetch
        rfl
      · cases hfetch
        rfl
      · split at hfetch
        · cases hfetch
          rfl
        · cases hfetch
      · cases hfetch
  | create i taskId now =>
      have hcreate : t.create T H i taskId now = some (.ok t') := hcall
      unfold Shared.create at hcreate
      split at hcreate
      · split at hcreate
        · cases hcreate
        · split at hcreate
          · cases hcreate
          · cases hcreate
            rfl
      · cases hcreate
  | apply i now =>
      have happly : t.apply intentHash nid i now = some (.ok t') := hcall
      unfold Shared.apply at happly
      obtain ⟨row, hrow, -⟩ := id h
      split at happly
      · obtain ⟨result, -, happly⟩ := Option.map_eq_some_iff.mp happly
        rw [apply_again hrow (Or.inr h)] at happly
        cases happly
        rfl
      · cases happly
  | stop i =>
      cases hcall
      rfl
  | core call =>
      cases call with
      | createTask task config configHash createdAt => cases hcall
      | submitResult _ _ _ _ | finalizeExpired _ _ | applyResult _ _ =>
          cases hcall
          rfl

end Step

/-- The coordinators before their first call. -/
def start (s : Pawnhouse) (core : ArenaCore) : Shared where
  house := s
  core := core

theorem inv_of_run {s : Pawnhouse} {core : ArenaCore} (h : Opened nid s core) {t : Shared}
    (hr : Trans.Run (Shared.step T H intentHash nid) (Steady T H nid) (start s core) t) :
    Inv T H intentHash nid (start s core) t := by
  have hstart : Inv T H intentHash nid (start s core) (start s core) :=
    ⟨h.sound, fun _ => trivial, start s core, Trans.Run.refl, rfl, rfl, Or.inr ⟨rfl, h.unasked⟩⟩
  refine hr.invariant hstart ?_
  intro u m u' hinv hsteady hstep
  obtain ⟨found, hfound, hinv'⟩ := hinv.step hsteady (call_of_step hstep)
  obtain rfl := Except.ok.inj hfound
  exact hinv'

/-- **Coordinators that drive one negotiation together, each call steady, do what one of them
    alone would do.**  The stored messages are a legal history of the length that the row says,
    with one message of a result at most; every steady call returns; nothing changes after the
    end; and a run of the first coordinator alone reaches the same tables. -/
theorem shared_negotiation {s : Pawnhouse} {core : ArenaCore} (h : Opened nid s core) {t : Shared}
    (hr : Trans.Run (Shared.step T H intentHash nid) (Steady T H nid) (start s core) t) :
    (∃ row n, t.house.Told nid row n) ∧
      (t.house.messages.map (·.sourceResultId)).Nodup ∧
      (∀ m outcome, Steady T H nid t m → t.call T H intentHash nid m = some outcome →
        ∃ t', outcome = .ok t') ∧
      (Ended t.house nid → ∀ t', Trans.Run (Shared.step T H intentHash nid) (Steady T H nid) t t' →
        t'.house = t.house) ∧
      ∃ t₀, Trans.Run (Shared.step T H intentHash nid) OnlyFirst (start s core) t₀ ∧
        t₀.house = t.house ∧ t₀.core = t.core := by
  have hinv := inv_of_run h hr
  refine ⟨hinv.sound.told, hinv.sound.once, ?_, ?_, ?_⟩
  · intro m outcome hsteady hcall
    obtain ⟨t', ht', -⟩ := hinv.step hsteady hcall
    exact ⟨t', ht'⟩
  · intro hended t' hrun
    refine hrun.invariant (I := fun u => u.house = t.house) rfl ?_
    intro u m u' hu _ hstep
    have hsame : u'.house = u.house := ended_step (by rw [hu]; exact hended) hstep
    exact hsame.trans hu
  · obtain ⟨t₀, hrun, hhouse, hcore, -⟩ := hinv.alone
    exact ⟨t₀, hrun, hhouse, hcore⟩

/-! ### A context that was read across a turn

The first coordinator fetches the row of a negotiation and is held up.  Its successor plays
the opening turn.  The first one then fetches the messages and shows the buyer, in the view
of the opening turn, the proposal that the buyer made with it.
-/

def barterPairing : PairingRow where
  roundId := "round-1"
  goodId := "grain"
  buyerEntryId := "entry-b"
  sellerEntryId := "entry-s"
  buyerParticipantId := "buyer"
  sellerParticipantId := "seller"
  pairingSequence := 1
  quantity := 1
  buyerLimitPriceAtomic := none
  sellerLimitPriceAtomic := none

def barterRow : NegotiationRow where
  pairingId := "pair-1"
  roundId := "round-1"
  buyerParticipantId := "buyer"
  sellerParticipantId := "seller"
  maxTurns := 3
  actionDeadlineAt := 100

/-- A negotiation that was just opened. -/
def barterHouse : Pawnhouse :=
  { FcfsRound.grainHouse with
    pairings := [("pair-1", barterPairing)]
    negotiations := [("neg-1", barterRow)] }

/-- Hashes that tell a view with a history from one without. -/
def barterHashes : Hashes where
  text := id
  snapshot
    | .dict entries =>
      match Value.get entries "history" with
      | .list [] => "opening"
      | _ => "spoken"
    | _ => ""
  result := fun _ => ""

/-- The buyer's proposal. -/
def barterResult : AgentTaskResultV1 :=
  { FcfsRound.resultOf "result-1" (.propose FcfsRound.tenGold FcfsRound.deal) with
    taskId := "task-1" }

def barterStep : Shared → Move → Option Shared :=
  Shared.step ArenaCore.Messages.tables barterHashes (fun _ _ => "") "neg-1"

/-- The successor's turn between two fetches of the first coordinator. -/
def tornRead : List Move :=
  [.fetch 0, .fetch 1, .fetch 1, .fetch 1, .fetch 1, .fetch 1, .create 1 "task-1" 10,
    .core (.submitResult barterResult 20 false none), .apply 1 30, .fetch 0, .fetch 0, .fetch 0,
    .fetch 0]

/-- What the first coordinator's task raises. -/
def tornError (t : Shared) : Option ArenaError :=
  match t.call ArenaCore.Messages.tables barterHashes (fun _ _ => "") "neg-1"
      (.create 0 "task-2" 150) with
  | some (.error (.arena e)) => some e
  | _ => none

theorem barter_opened : Opened "neg-1" barterHouse {} where
  running := by
    refine ⟨barterRow, freshMachine barterRow, barterPairing, ?_, ?_, fun _ _ => rfl⟩
    · exact
        { stored := rfl
          running := rfl
          partiesDiffer := by decide
          turnsBounded := by decide
          numbered := rfl
          replayed := rfl
          bargaining := Negotiation.bargaining_fresh (by decide)
          nextRole := rfl
          turnCount := rfl
          pairing := rfl
          quantityPos := by decide
          buyerHere := rfl
          sellerHere := rfl
          balance := rfl
          stock := ⟨1, rfl, by decide⟩
          limitShort := by
            intro limit hlimit
            cases hlimit
          unsettled := by simp [barterHouse, FcfsRound.grainHouse] }
    · exact
        { round := ⟨⟨1, .decide, some 100⟩, rfl, by decide, by decide⟩
          cash := by
            rintro id (rfl | rfl)
            · exact ⟨5000000, rfl, by decide, by decide⟩
            · exact ⟨0, rfl, by decide, by decide⟩
          goods := by
            rintro id (rfl | rfl)
            · exact ⟨0, rfl, by decide⟩
            · exact ⟨1, rfl, by decide⟩
          limits := by
            intro role limit hlimit
            cases role <;> cases hlimit
          prices := by
            intro m hm
            cases hm }
  settleable := ⟨FcfsRound.grainHouse_start.settleable.confirmations,
    FcfsRound.grainHouse_start.settleable.accounts⟩
  once := List.nodup_nil
  claimable :=
    { known := by
        intro id hid
        cases hid
      unended := by
        intro engagementId e hfind
        cases hfind
      said := by
        intro engagementId e r hfind
        cases hfind }
  consistent := ArenaCore.consistent_empty
  named := by
    intro id row hrow
    cases hrow
  owned := by
    intro id resultId hid
    cases hid

theorem torn_context_conflicts :
    ¬ ∀ (T : TextTables) (H : Hashes) (intentHash : String → Nat → String) (nid : String)
      (s : Pawnhouse) (core : ArenaCore) (t : Shared), Opened nid s core →
      Trans.Run (Shared.step T H intentHash nid) (fun _ _ => True) (start s core) t →
      ∀ m outcome, t.call T H intentHash nid m = some outcome → ∃ t', outcome = .ok t' := by
  intro hclaim
  have hraises : (Trans.exec barterStep (fun _ _ => True) (start barterHouse {}) tornRead).bind
      tornError = some (.idempotencyConflict
        "Elapsed Arena task recovery conflicts with its frozen snapshot") := by decide +kernel
  obtain ⟨t, ht, herror⟩ := Option.bind_eq_some_iff.mp hraises
  unfold tornError at herror
  split at herror
  · rename_i e hcall
    obtain ⟨t', ht'⟩ := hclaim _ _ _ _ _ _ t barter_opened (Trans.run_of_exec _ ht) _ _ hcall
    cases ht'
  · cases herror

/-! ### Two coordinators on one turn

Both read the opening turn, fetch by fetch, and ask for its task; the second one is answered
with the task of the first.  The result is applied by the first one, and then again by the
second one.
-/

/-- `Steady` in these tables, by evaluation; an acceptance does not pass. -/
def isSteady (t : Shared) : Move → Bool
  | .fetch i =>
    match (t.at i).reading with
    | some n => decide (t.house.negotiations.get "neg-1" = some n)
    | none => true
  | .create i taskId now =>
    match t.at i with
    | .context c =>
      match negotiateView c with
      | .ok view =>
        (secureConfigSnapshot ArenaCore.Messages.tables view.dump).isNone &&
          (secureConfigSnapshot ArenaCore.Messages.tables (.dict c.configSnapshot)).isNone &&
          ((t.core.getTaskByIdempotency c.participantId
            (deriveIdempotencyKey barterHashes.text c.participantId view)).isSome ||
            ((t.core.tasks.get taskId).isNone && now < c.deadlineAt))
      | .error _ => true
    | _ => true
  | .apply i _ =>
    match t.at i with
    | .task task =>
      match t.core.resultByTask.get task.taskId with
      | some resultId =>
        t.house.messages.any (fun m => m.sourceResultId = resultId) ||
          match t.core.results.get resultId with
          | some row =>
            match FcfsRound.derivedAction task row.result with
            | some (.propose price _) => (atomicProduct price.value).toNat ≤ maxGoldAtomic
            | some .accept => false
            | _ => true
          | none => true
      | none => true
    | _ => true
  | _ => true

theorem steady_of_isSteady {t : Shared} {m : Move} (h : isSteady t m = true) :
    Steady ArenaCore.Messages.tables barterHashes "neg-1" t m := by
  cases m with
  | fetch i =>
      intro n hn
      simpa [isSteady, hn] using h
  | create i taskId now =>
      intro c view hcontext hview
      simp only [isSteady, hcontext, hview, Bool.and_eq_true, Bool.or_eq_true,
        Option.isNone_iff_eq_none, decide_eq_true_eq] at h
      exact ⟨h.1.1, h.1.2, h.2⟩
  | apply i now =>
      intro task resultId row htask hresult hrow
      simp only [isSteady, htask, hresult, hrow, Bool.or_eq_true] at h
      rcases h with hspoken | hturn
      · obtain ⟨m, hm, hid⟩ := List.any_eq_true.mp hspoken
        exact Or.inl ⟨m, hm, of_decide_eq_true hid⟩
      · refine Or.inr (Or.inr ?_)
        cases haction : FcfsRound.derivedAction task row.result with
        | none => trivial
        | some a =>
            rw [haction] at hturn
            cases a with
            | propose price message =>
                exact of_decide_eq_true (p := (atomicProduct price.value).toNat ≤ maxGoldAtomic) hturn
            | accept => cases hturn
            | _ => trivial
  | stop i => trivial
  | core call => trivial

/-- Each coordinator reads the whole context, in turns. -/
def bothRead : List Move :=
  [.fetch 0, .fetch 1, .fetch 0, .fetch 1, .fetch 0, .fetch 1, .fetch 0, .fetch 1, .fetch 0,
    .fetch 1]

/-- Both create the task of the turn and, after its result, both apply it. -/
def bothApply : List Move :=
  [.create 0 "task-1" 10, .create 1 "task-2" 12, .core (.submitResult barterResult 20 false none),
    .apply 0 30, .apply 1 40]

/-- Both coordinators apply the one result, and the negotiation has one message. -/
theorem shared_negotiation_barter :
    ∃ t, Trans.Run barterStep (Steady ArenaCore.Messages.tables barterHashes "neg-1")
        (start barterHouse {}) t ∧ t.core.tasks.keys = ["task-1"] ∧
      t.house.messages.length = 1 ∧
      (∃ row n, t.house.Told "neg-1" row n) ∧
      ∃ t₀, Trans.Run barterStep OnlyFirst (start barterHouse {}) t₀ ∧
        t₀.house = t.house ∧ t₀.core = t.core := by
  have hplayed : ((Trans.exec barterStep (fun t m => isSteady t m = true) (start barterHouse {})
      (bothRead ++ bothApply)).any fun t => decide (t.core.tasks.keys = ["task-1"] ∧
        t.house.messages.length = 1)) = true := by decide +kernel
  obtain ⟨t, hexec, hend⟩ := (Option.any_eq_true _ _).mp hplayed
  obtain ⟨hkeys, hmessages⟩ := of_decide_eq_true hend
  have hrun := (Trans.run_of_exec _ hexec).mono fun _ _ h => steady_of_isSteady h
  obtain ⟨htold, -, -, -, halone⟩ := shared_negotiation barter_opened hrun
  exact ⟨t, hrun, hkeys, hmessages, htold, halone⟩

end Arena402.Game.SharedNegotiation
