/-
Which public messages reach durable state.

The sink cleans the messages of proposals and rejections.  A cleaned message is a fixed
point of the policy, unless even the neutral text repeats the strategy; a message of any
other action is stored as it came.  So what is stored is clean exactly when the messages
that bypass the policy were clean already, and two submissions that differ only in text
the policy rejects are then the same submission.
-/
import Arena402.Core.ResultSink
import Arena402.Core.TaskFactory

namespace Arena402

open Py

variable {T : TextTables} {H : Hashes} {record : ArenaTaskRecord}

/-! ### Clean messages -/

/-- The strategy that messages of a task must not repeat. -/
def ArenaTaskRecord.strategy (record : ArenaTaskRecord) : Option String :=
  strategyInstructions record.configSnapshot

/-- A text the policy returns as it is. -/
structure CleanText (T : TextTables) (record : ArenaTaskRecord) (text : String) : Prop where
  normal : normalizeMessage T text = text
  free : replacementReason T text record.strategy = none

/-- A message the policy of the task has nothing to say against: it is a fixed point, and
    free of unsafe Unicode, markup, secrets, contact data and strategy fragments. -/
structure Clean (T : TextTables) (record : ArenaTaskRecord) (m : PublicMessage) : Prop where
  fixed : ∀ action price, (decisionFor T record action price m).message = m.text
  free : replacementReason T m.text record.strategy = none

theorem clean_iff_cleanText {m : PublicMessage} : Clean T record m ↔ CleanText T record m.text := by
  constructor
  · intro h
    have hdecision : ∀ action price, decisionFor T record action price m =
        sanitize T m.text action price (roleOf record.task.input) record.strategy :=
      fun _ _ => rfl
    refine ⟨?_, h.free⟩
    -- two neutral texts differ, so a fixed point was not replaced
    by_contra hne
    have hprop := h.fixed "accept" none
    have hrej := h.fixed "reject" none
    rw [hdecision, sanitize] at hprop hrej
    cases hreason : replacementReason T (normalizeMessage T m.text) record.strategy with
    | none =>
        rw [hreason] at hprop
        exact hne hprop
    | some reason =>
        rw [hreason] at hprop hrej
        have hsame : neutralMessage "accept" none (roleOf record.task.input)
            = neutralMessage "reject" none (roleOf record.task.input) := hprop.trans hrej.symm
        revert hsame
        cases roleOf record.task.input with
        | none => decide
        | some role => cases role <;> decide
  · intro h
    refine ⟨?_, h.free⟩
    intro action price
    show (sanitize T m.text action price _ record.strategy).message = m.text
    unfold sanitize
    rw [h.normal, h.free]

/-- The policy rejects the message. -/
def Rejected (T : TextTables) (record : ArenaTaskRecord) (m : PublicMessage) : Prop :=
  replacementReason T (normalizeMessage T m.text) record.strategy ≠ none

/-- A text that was kept is clean. -/
theorem cleanText_normalizeMessage (hT : NfkcClosed T) {m : PublicMessage}
    (h : ¬ Rejected T record m) : CleanText T record (normalizeMessage T m.text) :=
  ⟨normalizeMessage_normalizeMessage hT m.text, not_not.mp h⟩

theorem not_rejected_of_clean {m : PublicMessage} (h : CleanText T record m.text) :
    ¬ Rejected T record m := by
  unfold Rejected
  rw [h.normal, h.free]
  exact not_not.mpr rfl

/-- The neutral text that stands in for a rejected message. -/
def neutralFor (record : ArenaTaskRecord) (action : String) (price : Option PositiveFixedDecimal) :
    String :=
  neutralMessage action price (roleOf record.task.input)

theorem decidedMessage_of_rejected (action : String) (price : Option PositiveFixedDecimal)
    {m : PublicMessage} (h : Rejected T record m) :
    (decidedMessage T record action price m).text = neutralFor record action price ∧
      (decisionFor T record action price m).messageReplaced = true := by
  obtain ⟨reason, hreason⟩ := Option.ne_none_iff_exists'.mp h
  have hdecision : decisionFor T record action price m =
      ⟨neutralFor record action price, true, some reason⟩ := by
    show sanitize T m.text action price _ record.strategy = _
    unfold sanitize
    rw [hreason]
    rfl
  constructor
  · show (decisionFor T record action price m).message = _
    rw [hdecision]
  · rw [hdecision]

theorem decidedMessage_of_kept {action : String} {price : Option PositiveFixedDecimal}
    {m : PublicMessage} (h : ¬ Rejected T record m) :
    (decidedMessage T record action price m).text = normalizeMessage T m.text := by
  show (sanitize T m.text action price _ record.strategy).message = _
  unfold sanitize
  rw [not_not.mp h]

/-- A message that went through the policy is clean, unless it was replaced by a neutral
    text that is not. -/
theorem clean_decidedMessage_iff (hT : NfkcClosed T) {action : String}
    {price : Option PositiveFixedDecimal} {m : PublicMessage} :
    Clean T record (decidedMessage T record action price m) ↔
      (Rejected T record m → CleanText T record (neutralFor record action price)) := by
  rw [clean_iff_cleanText]
  by_cases h : Rejected T record m
  · rw [(decidedMessage_of_rejected action price h).1]
    exact ⟨fun hc _ => hc, fun hc => hc h⟩
  · rw [decidedMessage_of_kept h]
    exact ⟨fun _ hr => absurd hr h, fun _ => cleanText_normalizeMessage hT h⟩

/-- The messages of an action that bypass the policy are clean already, and a rejected
    proposal or rejection has a clean neutral text. -/
def MessagesOk (T : TextTables) (record : ArenaTaskRecord) : Action → Prop
  | .propose price m => Rejected T record m → CleanText T record (neutralFor record "propose" price)
  | .reject m => ∀ x ∈ m, Rejected T record x → CleanText T record (neutralFor record "reject" none)
  | a => ∀ m ∈ a.messages, CleanText T record m.text

theorem sanitizedAction_clean_iff (hT : NfkcClosed T) (a : Action) :
    (∀ m ∈ (sanitizedAction T record a).1.messages, Clean T record m) ↔ MessagesOk T record a := by
  have hplain : ∀ b : Action, (∀ m ∈ b.messages, Clean T record m) ↔
      ∀ m ∈ b.messages, CleanText T record m.text :=
    fun b => forall₂_congr fun m _ => clean_iff_cleanText
  cases a with
  | propose price m =>
      show (∀ x ∈ [decidedMessage T record "propose" (some price) m], _) ↔ _
      rw [List.forall_mem_singleton]
      exact clean_decidedMessage_iff hT
  | reject m =>
      cases m with
      | none => simp [sanitizedAction, MessagesOk, Action.messages]
      | some m =>
          show (∀ x ∈ [decidedMessage T record "reject" none m], _) ↔ _
          rw [List.forall_mem_singleton, clean_decidedMessage_iff hT]
          simp [MessagesOk]
  | buy _ | sell _ | pass | accept | requestNegotiations _ | engage _ | rejectAll _ => exact hplain _

/-! ### What an accepted submission stores -/

namespace ArenaCore

variable {s s' : ArenaCore} {r : AgentTaskResultV1} {now : UtcDateTime}
  {receipt : ResultSubmissionReceipt}

theorem submitResult_accepted {replaced : Bool} {version : Option String}
    (h : s.submitResult T H r now replaced version = .ok (s', receipt))
    (hacc : receipt.disposition = .accepted) :
    ∃ id, receipt.authoritativeResultId = some id ∧
      s'.results.get id = some (submittedRow H r now replaced version) := by
  unfold submitResult at h
  split at h
  · cases h
  split at h
  · cases h
  dsimp only at h
  split at h
  · split_ifs at h
    obtain ⟨-, rfl⟩ := Prod.mk.inj (Except.ok.inj h)
    cases hacc
  · split_ifs at h
    · obtain ⟨-, rfl⟩ := Prod.mk.inj (Except.ok.inj h)
      cases hacc
    · obtain ⟨-, rfl⟩ := Prod.mk.inj (Except.ok.inj h)
      cases hacc
    · obtain ⟨rfl, rfl⟩ := Prod.mk.inj (Except.ok.inj h)
      exact ⟨_, rfl, Dict.get_set_self _ _ _⟩

/-- The public messages of a stored result. -/
def messagesOf (row : ArenaResultRecord) : List PublicMessage :=
  (row.result.action.map Action.messages).getD []

theorem sinkSubmit_accepted (h : s.sinkSubmit T H r now = .ok (s', receipt))
    (hacc : receipt.disposition = .accepted) :
    ∃ record id row, s.tasks.get r.taskId = some record ∧
      receipt.authoritativeResultId = some id ∧ s'.results.get id = some row ∧
      row.result.action = r.action.map fun a => (sanitizedAction T record a).1 := by
  unfold sinkSubmit at h
  split at h
  · cases h
  split at h
  · cases h
  rename_i record hrecord
  obtain ⟨id, hid, hrow⟩ := submitResult_accepted h hacc
  exact ⟨record, id, _, hrecord, hid, hrow, rfl⟩

/-- An open task takes the first result that reaches it in time. -/
theorem sinkSubmit_open (record : ArenaTaskRecord) (hids : validateRuntimeResultIdentifiers T r = none)
    (hids' : validateRuntimeResultIdentifiers T (sanitizedResult T record r).1 = none)
    (hrecord : s.tasks.get r.taskId = some record)
    (hnew : s.results.get ("runtime:" ++ H.text r.resultId) = none)
    (hopen : s.resultByTask.get r.taskId = none) (hstatus : record.status.terminal = false)
    (hnow : now < record.task.deadlineAt) :
    ∃ s' receipt, s.sinkSubmit T H r now = .ok (s', receipt) ∧ receipt.disposition = .accepted := by
  have htask : (sanitizedResult T record r).1.taskId = r.taskId := rfl
  have hid : (sanitizedResult T record r).1.resultId = r.resultId := rfl
  unfold sinkSubmit
  rw [hids, hrecord]
  dsimp only
  unfold submitResult
  rw [hids', htask, hid, hrecord, hnew, hopen]
  dsimp only
  rw [if_neg (by simp [hstatus]), if_neg (not_le.mpr hnow)]
  exact ⟨_, _, rfl, rfl⟩

/-! ### Two runs -/

/-- One submission in both runs: the second result is the first with other messages, each of
    them equal or rejected on both sides, and what bypasses the policy is clean. -/
def Twins (T : TextTables) (s : ArenaCore) (r r' : AgentTaskResultV1) : Prop :=
  r'.resultId = r.resultId ∧ r'.taskId = r.taskId ∧ r'.status = r.status ∧
    ∃ f, r'.action = r.action.map (Action.mapMessages f) ∧
      ∀ record, s.tasks.get r.taskId = some record → ∀ a ∈ r.action, MessagesOk T record a ∧
        ∀ m ∈ a.messages, f m = m ∨ Rejected T record m ∧ Rejected T record (f m)

theorem runtimeIdentifiers_mapMessages {r' : AgentTaskResultV1}
    {f : PublicMessage → PublicMessage} (hid : r'.resultId = r.resultId)
    (ha : r'.action = r.action.map (Action.mapMessages f)) :
    runtimeIdentifiers r' = runtimeIdentifiers r := by
  unfold runtimeIdentifiers
  rw [hid, ha]
  rcases r.action with _ | a
  · rfl
  · cases a with
    | requestNegotiations l =>
        simp only [Option.map_some, Action.mapMessages, RequestList.mapMessages, List.map_map]
        rfl
    | _ => rfl

/-- Messages that differ only where both are rejected become the same message. -/
theorem decidedMessage_eq {f : PublicMessage → PublicMessage} {m : PublicMessage} (action : String)
    (price : Option PositiveFixedDecimal)
    (h : f m = m ∨ Rejected T record m ∧ Rejected T record (f m)) :
    decidedMessage T record action price (f m) = decidedMessage T record action price m ∧
      (decisionFor T record action price (f m)).messageReplaced
        = (decisionFor T record action price m).messageReplaced := by
  rcases h with h | ⟨hm, hf⟩
  · rw [h]
    exact ⟨rfl, rfl⟩
  · obtain ⟨hm1, hm2⟩ := decidedMessage_of_rejected action price hm
    obtain ⟨hf1, hf2⟩ := decidedMessage_of_rejected action price hf
    refine ⟨?_, hf2.trans hm2.symm⟩
    have htext := hf1.trans hm1.symm
    revert htext
    generalize decidedMessage T record action price (f m) = x
    generalize decidedMessage T record action price m = y
    obtain ⟨_, _, _, _⟩ := x
    obtain ⟨_, _, _, _⟩ := y
    rintro rfl
    rfl

theorem sanitizedAction_eq {f : PublicMessage → PublicMessage} {a : Action}
    (hok : MessagesOk T record a)
    (h : ∀ m ∈ a.messages, f m = m ∨ Rejected T record m ∧ Rejected T record (f m)) :
    (sanitizedAction T record (a.mapMessages f)).1 = (sanitizedAction T record a).1 ∧
      (sanitizedAction T record (a.mapMessages f)).2.map (·.messageReplaced)
        = (sanitizedAction T record a).2.map (·.messageReplaced) := by
  -- an action whose messages are clean already is not changed at all
  have hsame : (∀ m ∈ a.messages, CleanText T record m.text) → a.mapMessages f = a := by
    intro hclean
    refine Action.mapMessages_eq_self fun m hm => ?_
    rcases h m hm with heq | ⟨hrej, -⟩
    · exact heq
    · exact absurd hrej (not_rejected_of_clean (hclean m hm))
  cases a with
  | propose price m =>
      obtain ⟨hmsg, hrep⟩ := decidedMessage_eq "propose" (some price) (h m (by simp [Action.messages]))
      exact ⟨congrArg (Action.propose price) hmsg, congrArg some hrep⟩
  | reject m =>
      cases m with
      | none => exact ⟨rfl, rfl⟩
      | some m =>
          obtain ⟨hmsg, hrep⟩ := decidedMessage_eq "reject" none (h m (by simp [Action.messages]))
          exact ⟨congrArg (fun x => Action.reject (some x)) hmsg, congrArg some hrep⟩
  | pass | accept | engage _ => exact ⟨rfl, rfl⟩
  | buy _ | sell _ | requestNegotiations _ | rejectAll _ => rw [hsame hok]; exact ⟨rfl, rfl⟩

/-- The repository sees the same result in both runs. -/
theorem sinkSubmit_twins {r' : AgentTaskResultV1} (h : Twins T s r r') :
    s.sinkSubmit T H r' now = s.sinkSubmit T H r now := by
  obtain ⟨hid, htask, hstatus, f, haction, hrec⟩ := h
  unfold sinkSubmit validateRuntimeResultIdentifiers
  rw [runtimeIdentifiers_mapMessages hid haction, htask]
  split
  · rfl
  split
  · rfl
  rename_i record hrecord
  have hact : (sanitizedResult T record r').1 = (sanitizedResult T record r).1 ∧
      (sanitizedResult T record r').2.map (·.messageReplaced)
        = (sanitizedResult T record r).2.map (·.messageReplaced) := by
    obtain ⟨resultId, taskId, status, action, shape⟩ := r
    obtain ⟨resultId', taskId', status', action', shape'⟩ := r'
    obtain rfl : resultId' = resultId := hid
    obtain rfl : taskId' = taskId := htask
    obtain rfl : status' = status := hstatus
    obtain rfl : action' = action.map (Action.mapMessages f) := haction
    cases action with
    | none => exact ⟨rfl, rfl⟩
    | some a =>
        obtain ⟨hok, hm⟩ := hrec record hrecord a rfl
        obtain ⟨h1, h2⟩ := sanitizedAction_eq hok hm
        refine ⟨?_, h2⟩
        simp only [sanitizedResult, Option.map_some, h1]
  have hversion : (sanitizedResult T record r').2.map (fun _ => publicOutputPolicyVersion)
      = (sanitizedResult T record r).2.map (fun _ => publicOutputPolicyVersion) := by
    have h2 := congrArg (Option.map fun _ => publicOutputPolicyVersion) hact.2
    rw [Option.map_map, Option.map_map] at h2
    exact h2
  dsimp only
  rw [hact.1, hact.2, hversion]

/-- The tables after one submission, whether it raised or not. -/
def sinkStep (T : TextTables) (H : Hashes) (s : ArenaCore) (x : AgentTaskResultV1 × UtcDateTime) :
    ArenaCore :=
  match s.sinkSubmit T H x.1 x.2 with
  | .ok (s', _) => s'
  | .error (_, s') => s'

/-- Two sequences of submissions at the same times that are twins at every step. -/
def TwinRuns (T : TextTables) (H : Hashes) :
    ArenaCore → List (AgentTaskResultV1 × UtcDateTime) → List (AgentTaskResultV1 × UtcDateTime) →
      Prop
  | _, [], [] => True
  | s, x :: rest, y :: rest' =>
    Twins T s x.1 y.1 ∧ y.2 = x.2 ∧ TwinRuns T H (s.sinkStep T H x) rest rest'
  | _, _, _ => False

theorem twinRuns_eq : ∀ (xs ys : List (AgentTaskResultV1 × UtcDateTime)) (s : ArenaCore),
    TwinRuns T H s xs ys → ys.foldl (sinkStep T H) s = xs.foldl (sinkStep T H) s := by
  intro xs
  induction xs with
  | nil =>
      intro ys s h
      cases ys with
      | nil => rfl
      | cons y rest => exact absurd h id
  | cons x rest ih =>
      intro ys s h
      cases ys with
      | nil => exact absurd h id
      | cons y rest' =>
          obtain ⟨htwin, htime, hrest⟩ := h
          have hstep : s.sinkStep T H y = s.sinkStep T H x := by
            unfold sinkStep
            rw [htime, sinkSubmit_twins htwin]
          rw [List.foldl_cons, List.foldl_cons, hstep]
          exact ih rest' _ hrest

/-- **What an accepted submission stores is clean exactly when the messages that bypass the
    policy are; and then two runs that differ only in rejected text store the same.** -/
theorem stored_messages_clean_iff (hT : NfkcClosed T) :
    (∀ (s s' : ArenaCore) (r : AgentTaskResultV1) (now : UtcDateTime)
        (receipt : ResultSubmissionReceipt),
      s.sinkSubmit T H r now = .ok (s', receipt) → receipt.disposition = .accepted →
      ∃ record id row, s.tasks.get r.taskId = some record ∧
        receipt.authoritativeResultId = some id ∧ s'.results.get id = some row ∧
        ((∀ m ∈ messagesOf row, Clean T record m) ↔ ∀ a ∈ r.action, MessagesOk T record a)) ∧
    ∀ (s : ArenaCore) (xs ys : List (AgentTaskResultV1 × UtcDateTime)), TwinRuns T H s xs ys →
      ys.foldl (sinkStep T H) s = xs.foldl (sinkStep T H) s := by
  refine ⟨?_, fun s xs ys h => twinRuns_eq xs ys s h⟩
  intro s s' r now receipt h hacc
  obtain ⟨record, id, row, hrecord, hid, hrow, haction⟩ := sinkSubmit_accepted h hacc
  refine ⟨record, id, row, hrecord, hid, hrow, ?_⟩
  unfold messagesOf
  rw [haction]
  cases r.action with
  | none => simp
  | some a =>
      simp only [Option.map_some, Option.getD_some, Option.mem_some_iff, forall_eq']
      exact sanitizedAction_clean_iff hT a

/-! ### A market message and a proposal -/

namespace Messages

/-- Tables that answer as the real ones do for the texts below: letters, digits, spaces,
    full stops and one zero-width space. -/
def tables : TextTables where
  nfkc := id
  casefold := lower
  isalnum := Char.isAlphanum
  category c := if c.toNat < 32 then "Cc" else if c = '\u200b' then "Cf" else "Ll"
  secretPatterns _ := false
  piiPatterns _ := false
  htmlPattern _ := false

def hashes : Hashes where
  text _ := "digest"
  snapshot _ := "sha256:snapshot"
  result _ := "sha256:result"

theorem tables_closed : NfkcClosed tables :=
  fun _ => rfl

/-- A message with a zero-width space between its two words. -/
def hidden : PublicMessage where
  text := "good\u200bdeal"
  minLength := by decide
  maxLength := by decide
  visible := by decide

def entry : ArenaMarketDirectoryEntryV1 where
  intentId := "intent:2"
  agentId := "agent-2"
  displayName := "Seller"
  good := "herb"
  publicPrice := smallPrice
  expiresAt := 100

def rfqView : ArenaMarketRfqInputV1 where
  gameId := "game-1"
  roundId := "round-1"
  roundIndex := 1
  buyerIntentId := "intent:1"
  good := "herb"
  publicPrice := smallPrice
  limitPrice := smallPrice
  cash := ⟨smallPrice.value, smallPrice.wire⟩
  directory := [entry]
  deadlineAt := 50

def negotiateView : ArenaNegotiateInputV1 where
  gameId := "game-1"
  roundId := "round-1"
  roundIndex := 1
  negotiationId := "negotiation-1"
  role := .seller
  good := "herb"
  quantity := 1
  cash := ⟨smallPrice.value, smallPrice.wire⟩
  inventoryAvailable := 1
  counterparty := { failedNegotiations := 0 }
  turnSequence := 2
  remainingTurns := 4
  deadlineAt := 50

def recordOf (view : TaskInput) : ArenaTaskRecord where
  task := taskOf hashes "task-1" "agent-1" view
  configSnapshot := [(.text "strategy_instructions", .str "never pay more than five gold")]
  configHash := "sha256:snapshot"
  status := .queued
  createdAt := 0

def start (view : TaskInput) : ArenaCore where
  tasks := [("task-1", recordOf view)]

def resultOf (action : Action) : AgentTaskResultV1 where
  resultId := "result-1"
  taskId := "task-1"
  status := .succeeded
  action := some action
  shape := by simp

def rfq : Action :=
  .requestNegotiations
    { requests := [⟨"intent:2", smallPrice, hidden⟩]
      minLength := by decide
      maxLength := by decide
      uniqueTargets := by decide }

/-- The zero-width space of an RFQ message is stored. -/
theorem rfq_message_stored_raw :
    ¬ ∀ (T : TextTables) (H : Hashes) (s s' : ArenaCore) (r : AgentTaskResultV1)
        (now : UtcDateTime) (receipt : ResultSubmissionReceipt), NfkcClosed T →
      s.sinkSubmit T H r now = .ok (s', receipt) → receipt.disposition = .accepted →
      ∀ record id row, s.tasks.get r.taskId = some record →
        receipt.authoritativeResultId = some id → s'.results.get id = some row →
        ∀ m ∈ messagesOf row, Clean T record m := by
  intro h
  have hopen : ∃ s' receipt, (start (.marketRfq rfqView)).sinkSubmit tables hashes (resultOf rfq) 10
      = .ok (s', receipt) ∧ receipt.disposition = .accepted :=
    sinkSubmit_open (recordOf (.marketRfq rfqView)) (by decide) (by decide) rfl rfl
      rfl rfl (by decide)
  obtain ⟨s', receipt, hsubmit, hacc⟩ := hopen
  obtain ⟨rec, id, row, hrec, hid, hrow, haction⟩ := sinkSubmit_accepted hsubmit hacc
  have hmem : hidden ∈ messagesOf row := by
    rw [messagesOf, haction]
    exact List.mem_singleton.mpr rfl
  have hclean := h tables hashes _ s' (resultOf rfq) 10 receipt tables_closed hsubmit hacc rec id row
    hrec hid hrow hidden hmem
  obtain rfl : recordOf (.marketRfq rfqView) = rec := Option.some.inj hrec
  have hreason : replacementReason tables hidden.text (recordOf (.marketRfq rfqView)).strategy
      = some .formatCharacter := by decide
  rw [hclean.free] at hreason
  cases hreason

/-- The same text in a proposal is replaced by a neutral one, which is clean. -/
theorem proposal_message_replaced :
    ∃ s' receipt id row, (start (.negotiate negotiateView)).sinkSubmit tables hashes
        (resultOf (.propose smallPrice hidden)) 10 = .ok (s', receipt) ∧
      s'.results.get id = some row ∧
      (messagesOf row).map (·.text) = ["seller proposes 2.5."] ∧
      ∀ m ∈ messagesOf row, Clean tables (recordOf (.negotiate negotiateView)) m := by
  have hopen : ∃ s' receipt, (start (.negotiate negotiateView)).sinkSubmit tables hashes
      (resultOf (.propose smallPrice hidden)) 10 = .ok (s', receipt) ∧
      receipt.disposition = .accepted :=
    sinkSubmit_open (recordOf (.negotiate negotiateView)) (by decide) (by decide) rfl
      rfl rfl rfl (by decide)
  obtain ⟨s', receipt, hsubmit, hacc⟩ := hopen
  obtain ⟨rec, id, row, hrec, hid, hrow, hiff⟩ :=
    (stored_messages_clean_iff tables_closed).1 _ _ _ _ _ hsubmit hacc
  obtain ⟨rec', id', row', hrec', hid', hrow', haction⟩ := sinkSubmit_accepted hsubmit hacc
  obtain rfl : recordOf (.negotiate negotiateView) = rec := Option.some.inj hrec
  obtain rfl : recordOf (.negotiate negotiateView) = rec' := Option.some.inj hrec'
  obtain rfl : id = id' := Option.some.inj (hid.symm.trans hid')
  obtain rfl : row = row' := Option.some.inj (hrow.symm.trans hrow')
  refine ⟨s', receipt, id, row, hsubmit, hrow, ?_, hiff.mpr ?_⟩
  · rw [messagesOf, haction]
    decide
  · rintro a ⟨⟩ -
    exact ⟨by decide, by decide⟩

end Messages

end ArenaCore

end Arena402
