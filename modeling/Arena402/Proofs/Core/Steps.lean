/-
What the calls on the repository write, one write at a time.

Every call, whichever process makes it and whether it returns or raises, is a sequence of
these steps: an event is noted, a task is created, an open task gets the result of its
Runtime before the deadline or the timeout after it, and a pending result is applied.  The
rejection of a result is not among them, because every result has an application.
-/
import Arena402.Lib.Raise
import Arena402.Core.Polling

namespace Arena402

open Py

variable {T : TextTables} {H : Hashes}

/-- Every result has an application, if only the default of its task. -/
theorem deriveApplication_accepted (t : ArenaAgentTaskV1) (r : AgentTaskResultV1) :
    (deriveApplication t r).accepted = true := by
  have hdefault : ∀ reason, (defaultApplication t reason).accepted = true := by
    intro reason
    unfold defaultApplication
    split <;> rfl
  unfold deriveApplication
  split
  · exact hdefault _
  · split
    · exact hdefault _
    · split
      · exact hdefault _
      · exact hdefault _
      · rfl

namespace ArenaCore

variable {s t u : ArenaCore}

/-! ### What a call can do to the tables -/

/-- One write to the tables that a poll reads. -/
inductive Moves : ArenaCore → ArenaCore → Prop
  | keep {s t : ArenaCore} (htasks : t.tasks = s.tasks) (hby : t.resultByTask = s.resultByTask)
      (hrows : ∀ id, (s.results.get id).isSome → (t.results.get id).isSome) : Moves s t
  | create {s t : ArenaCore} (record : ArenaTaskRecord)
      (hfresh : s.tasks.get record.task.taskId = none) (hopen : record.status = .queued)
      (htasks : t.tasks = s.tasks.set record.task.taskId record)
      (hby : t.resultByTask = s.resultByTask) (hrows : t.results = s.results) : Moves s t
  | close {s : ArenaCore} {record : ArenaTaskRecord} {status : TaskStatus} {now : UtcDateTime}
      {row : ArenaResultRecord} (htask : ∃ old, s.tasks.get record.task.taskId = some old ∧
        old.task = record.task) : Moves s (s.closeTask record status now row)
  | trans {s t u : ArenaCore} (hst : Moves s t) (htu : Moves t u) : Moves s u

theorem Moves.refl (s : ArenaCore) : Moves s s :=
  .keep rfl rfl fun _ h => h

theorem moves_appendEvent (s : ArenaCore) (taskId eventType : String) (now : UtcDateTime)
    (data : List (String × Value)) : Moves s (s.appendEvent taskId eventType now data) :=
  .keep rfl rfl fun _ h => h

/-- The keys and rows of the tables fit together. -/
structure Consistent (s : ArenaCore) : Prop where
  nodup : s.tasks.keys.Nodup
  ids : ∀ e ∈ s.tasks, e.2.task.taskId = e.1
  /-- A closed task has a result. -/
  closed : ∀ id record, s.tasks.get id = some record → record.status.terminal = true →
    (s.resultByTask.get id).isSome
  /-- A result that a task names exists. -/
  rows : ∀ id resultId, s.resultByTask.get id = some resultId → (s.results.get resultId).isSome

/-- What later states keep: results and the envelopes of tasks. -/
structure Grows (s t : ArenaCore) : Prop where
  results : ∀ id, (s.resultByTask.get id).isSome → (t.resultByTask.get id).isSome
  tasks : ∀ id record, s.tasks.get id = some record →
    ∃ record', t.tasks.get id = some record' ∧ record'.task = record.task

theorem consistent_empty : Consistent {} :=
  ⟨List.nodup_nil, by simp, by simp, by simp⟩

theorem Moves.grows (h : Moves s t) : Grows s t := by
  induction h with
  | keep htasks hby _ =>
      exact ⟨fun id h => hby ▸ h, fun id record h => ⟨record, htasks ▸ h, rfl⟩⟩
  | @create s t record hfresh _ htasks hby _ =>
      refine ⟨fun id h => hby ▸ h, fun id old h => ⟨old, ?_, rfl⟩⟩
      have hne : id ≠ record.task.taskId := by
        rintro rfl
        rw [hfresh] at h
        cases h
      rw [htasks, Dict.get_set_ne _ _ hne]
      exact h
  | @close s record status now row htask =>
      refine ⟨fun id h => Dict.isSome_get_set _ _ _ h, fun id old h => ?_⟩
      by_cases hid : id = record.task.taskId
      · obtain ⟨old', hold, htask⟩ := htask
        rw [hid, hold] at h
        obtain rfl := Option.some.inj h
        have hnew : (s.closeTask record status now row).tasks.get record.task.taskId
            = some { record with status := status, completedAt := some now } :=
          Dict.get_set_self _ _ _
        rw [hid]
        exact ⟨_, hnew, htask.symm⟩
      · exact ⟨old, (Dict.get_set_ne _ _ hid).trans h, rfl⟩
  | trans _ _ ih1 ih2 =>
      refine ⟨fun id h => ih2.results id (ih1.results id h), fun id record h => ?_⟩
      obtain ⟨record', h', heq⟩ := ih1.tasks id record h
      obtain ⟨record'', h'', heq'⟩ := ih2.tasks id record' h'
      exact ⟨record'', h'', heq'.trans heq⟩

theorem ids_set {d : Dict String ArenaTaskRecord} {id : String} {record : ArenaTaskRecord}
    (hid : record.task.taskId = id) (h : ∀ e ∈ d, e.2.task.taskId = e.1) :
    ∀ e ∈ d.set id record, e.2.task.taskId = e.1 := by
  intro e he
  rcases Dict.mem_set he with rfl | hmem
  · exact hid
  · exact h e hmem

theorem Moves.consistent (h : Moves s t) (hc : Consistent s) : Consistent t := by
  induction h with
  | keep htasks hby hrows =>
      refine ⟨htasks ▸ hc.nodup, htasks ▸ hc.ids, ?_, ?_⟩
      · rw [htasks, hby]
        exact hc.closed
      · rw [hby]
        exact fun id resultId h => hrows _ (hc.rows id resultId h)
  | @create s t record _ hopen htasks hby hrows =>
      refine ⟨htasks ▸ Dict.nodup_keys_set hc.nodup _ _, htasks ▸ ids_set rfl hc.ids, ?_, ?_⟩
      · intro id old hget hterm
        rw [hby]
        rw [htasks, Dict.get_set] at hget
        by_cases hid : id = record.task.taskId
        · rw [if_pos hid] at hget
          obtain rfl := Option.some.inj hget
          rw [hopen] at hterm
          cases hterm
        · rw [if_neg hid] at hget
          exact hc.closed id old hget hterm
      · rw [hby, hrows]
        exact hc.rows
  | @close s record status now row htask =>
      refine ⟨Dict.nodup_keys_set hc.nodup _ _, ids_set rfl hc.ids, ?_, ?_⟩
      · intro id old hget hterm
        show ((s.resultByTask.set _ _).get id).isSome
        by_cases hid : id = record.task.taskId
        · rw [hid, Dict.get_set_self]
          rfl
        · refine Dict.isSome_get_set _ _ _ (hc.closed id old ?_ hterm)
          exact (Dict.get_set_ne s.tasks _ hid).symm.trans hget
      · intro id resultId hget
        show ((s.results.set row.result.resultId row).get resultId).isSome
        have hget' : (s.resultByTask.set record.task.taskId row.result.resultId).get id
            = some resultId := hget
        by_cases hid : id = record.task.taskId
        · rw [hid, Dict.get_set_self] at hget'
          rw [← Option.some.inj hget', Dict.get_set_self]
          rfl
        · rw [Dict.get_set_ne _ _ hid] at hget'
          exact Dict.isSome_get_set _ _ _ (hc.rows id resultId hget')
  | trans _ _ ih1 ih2 => exact ih2 (ih1 hc)

/-- A task is stored under its own id. -/
theorem Consistent.taskId_of_get (hc : Consistent s) {id : String} {record : ArenaTaskRecord}
    (h : s.tasks.get id = some record) : record.task.taskId = id :=
  hc.ids _ (Dict.mem_of_get h)

theorem Consistent.get_of_mem_values (hc : Consistent s) {record : ArenaTaskRecord}
    (h : record ∈ s.tasks.values) : s.tasks.get record.task.taskId = some record := by
  obtain ⟨⟨id, record'⟩, hmem, rfl⟩ := List.mem_map.mp h
  have hid : record'.task.taskId = id := hc.ids _ hmem
  show s.tasks.get record'.task.taskId = some record'
  rw [hid]
  exact Dict.get_of_mem hc.nodup hmem

/-- The tables after a submission, whether it raised or not. -/
def afterSubmit (x : Except (ArenaError × ArenaCore) (ArenaCore × ResultSubmissionReceipt)) :
    ArenaCore :=
  match x with
  | .ok (s', _) => s'
  | .error (_, s') => s'

/-! ### The tasks that the finalizer closes -/

/-- A task the finalizer has to close: open, past its deadline, without a result. -/
def overdue (s : ArenaCore) (now : UtcDateTime) (record : ArenaTaskRecord) : Bool :=
  !record.status.terminal && record.task.deadlineAt ≤ now &&
    (s.resultByTask.get record.task.taskId).isNone

/-- The comparison of the finalizer's sort. -/
def sortsUpTo (a b : ArenaTaskRecord) : Bool :=
  a.task.deadlineAt < b.task.deadlineAt ||
    (a.task.deadlineAt = b.task.deadlineAt && a.task.taskId ≤ b.task.taskId)

/-- The overdue tasks in the order of the finalizer. -/
def queue (s : ArenaCore) (now : UtcDateTime) : List ArenaTaskRecord :=
  (s.tasks.values.filter (s.overdue now)).mergeSort sortsUpTo

theorem expiredTasks_eq (s : ArenaCore) (now : UtcDateTime) (limit : Nat) :
    s.expiredTasks now limit = (s.queue now).take limit := rfl

theorem mem_queue {now : UtcDateTime} {record : ArenaTaskRecord} :
    record ∈ s.queue now ↔ record ∈ s.tasks.values ∧ s.overdue now record = true := by
  rw [queue, List.mem_mergeSort, List.mem_filter]

theorem nodup_queue (hc : Consistent s) (now : UtcDateTime) : (s.queue now).Nodup := by
  have hkeys : s.tasks.values.map (·.task.taskId) = s.tasks.keys := by
    rw [Dict.values, List.map_map]
    exact List.map_congr_left fun e he => hc.ids e he
  have hvalues : s.tasks.values.Nodup := by
    refine List.Nodup.of_map (·.task.taskId) ?_
    rw [hkeys]
    exact hc.nodup
  exact (List.mergeSort_perm _ _).nodup_iff.mpr (hvalues.filter _)

theorem nodup_queue_ids (hc : Consistent s) (now : UtcDateTime) :
    ((s.queue now).map (·.task.taskId)).Nodup := by
  refine List.Nodup.map_on ?_ (nodup_queue hc now)
  intro a ha b hb hid
  have hga := hc.get_of_mem_values (mem_queue.mp ha).1
  have hgb := hc.get_of_mem_values (mem_queue.mp hb).1
  rw [hid, hgb] at hga
  exact (Option.some.inj hga).symm

/-! ### Writes -/

/-- The events that do not tell the end of a task. -/
def sideEvents : List String :=
  ["created", "result_conflict", "duplicate_result_ignored", "late_result_ignored", "result_applied"]

/-- A task that may get its result: it is stored, open and has none. -/
structure Open (s : ArenaCore) (record : ArenaTaskRecord) : Prop where
  stored : s.tasks.get record.task.taskId = some record
  running : record.status.terminal = false
  unanswered : s.resultByTask.get record.task.taskId = none

/-- A pending result with its task. -/
structure Pending (s : ArenaCore) (resultId : String) (row : ArenaResultRecord)
    (record : ArenaTaskRecord) : Prop where
  found : s.results.get resultId = some row
  pending : row.applyStatus = .pending
  stored : s.tasks.get row.result.taskId = some record

/-- The row of a result that was applied. -/
def appliedRow (row : ArenaResultRecord) (now : UtcDateTime) (reason : Option String) :
    ArenaResultRecord :=
  { row with
    applyStatus := .applied
    arenaAppliedAt := some now
    rejectionReason := reason }

/-- One write of a call on results. -/
inductive Write (H : Hashes) (s : ArenaCore) : ArenaCore → Prop
  | event (taskId eventType : String) (now : UtcDateTime) (data : List (String × Value))
      (hside : eventType ∈ sideEvents) : Write H s (s.appendEvent taskId eventType now data)
  | submit {record : ArenaTaskRecord} {r : AgentTaskResultV1} {now : UtcDateTime}
      (hopen : Open s record) (htask : r.taskId = record.task.taskId)
      (hnew : s.results.get ("runtime:" ++ H.text r.resultId) = none)
      (hearly : now < record.task.deadlineAt) (messageReplaced : Bool)
      (policyVersion : Option String) (data : List (String × Value)) :
      Write H s ((s.closeTask record (statusOfResult r.status) now
        (submittedRow H r now messageReplaced policyVersion)).appendEvent r.taskId
          "result_submitted" now data)
  | default {record : ArenaTaskRecord} {now : UtcDateTime} (hopen : Open s record)
      (hlate : record.task.deadlineAt ≤ now) :
      Write H s (s.createTimeoutResultLocked H record now).1
  | again {resultId : String} {row : ArenaResultRecord} {record : ArenaTaskRecord}
      {existing : AppliedArenaAction} (hpending : Pending s resultId row record)
      (hexisting : s.appliedByTask.get record.task.taskId = some existing)
      (hsame : existing.resultId = resultId) (now : UtcDateTime) :
      Write H s { s with results := s.results.set resultId (appliedRow row now row.rejectionReason) }
  | apply {resultId : String} {row : ArenaResultRecord} {record : ArenaTaskRecord}
      (hpending : Pending s resultId row record)
      (hnone : s.appliedByTask.get record.task.taskId = none) (now : UtcDateTime) :
      Write H s { s with
        results := s.results.set resultId
          (appliedRow row now (deriveApplication record.task row.result).rejectionReason)
        appliedByTask := s.appliedByTask.set record.task.taskId
          (appliedOf record row (deriveApplication record.task row.result) resultId now) }

/-- One write of a call, which may create a task. -/
inductive Step (H : Hashes) (s : ArenaCore) : ArenaCore → Prop
  | create (record : ArenaTaskRecord) (hfresh : s.tasks.get record.task.taskId = none)
      (hqueued : record.status = .queued) (keys : Dict (String × String) String) :
      Step H s { s with
        tasks := s.tasks.set record.task.taskId record
        taskByIdempotency := keys }
  | write {t : ArenaCore} (h : Write H s t) : Step H s t

/-- Some writes on results, one after another. -/
abbrev Writes (H : Hashes) : ArenaCore → ArenaCore → Prop :=
  Relation.ReflTransGen (Write H)

/-- Some steps, one after another. -/
abbrev Steps (H : Hashes) : ArenaCore → ArenaCore → Prop :=
  Relation.ReflTransGen (Step H)

theorem Writes.steps (h : Writes H s t) : Steps H s t :=
  Relation.ReflTransGen.mono (fun _ _ => Step.write) _ _ h

theorem writes_event (taskId eventType : String) (now : UtcDateTime) (data : List (String × Value))
    (hside : eventType ∈ sideEvents) : Writes H s (s.appendEvent taskId eventType now data) :=
  .single (.event taskId eventType now data hside)

theorem steps_createTask {task : ArenaAgentTaskV1} {config : Config} {configHash : String}
    {createdAt : UtcDateTime} {record : ArenaTaskRecord}
    (h : s.createTask T H task config configHash createdAt = .ok (t, record)) : Steps H s t := by
  unfold createTask at h
  split at h
  · cases h
  · cases h
  · obtain ⟨_, h⟩ := ok_of_guard h
    obtain ⟨_, h⟩ := ok_of_guard h
    split at h
    · obtain ⟨_, h⟩ := ok_of_guard h
      cases h
      exact .refl
    · obtain ⟨hfresh, h⟩ := ok_of_guard h
      cases h
      have hnone : s.tasks.get task.taskId = none := by simpa using hfresh
      exact .tail (.single (.create ⟨task, config, configHash, .queued, createdAt, none⟩ hnone rfl _))
        (.write (.event _ _ _ _ (by simp [sideEvents])))

theorem terminal_eq_false {status : TaskStatus} (h : ¬ status.terminal = true) :
    status.terminal = false := by
  simpa using h

theorem writes_submitResult (hc : Consistent s) (r : AgentTaskResultV1) (now : UtcDateTime)
    (messageReplaced : Bool) (policyVersion : Option String) :
    Writes H s (afterSubmit (s.submitResult T H r now messageReplaced policyVersion)) := by
  unfold submitResult
  split
  · exact .refl
  · split
    · exact .refl
    · rename_i record hrecord
      have hid : record.task.taskId = r.taskId := hc.taskId_of_get hrecord
      dsimp only
      split
      · split_ifs
        · exact writes_event _ _ _ _ (by simp [sideEvents])
        · exact writes_event _ _ _ _ (by simp [sideEvents])
        · exact writes_event _ _ _ _ (by simp [sideEvents])
      · rename_i hnew
        split_ifs with hclosed hdeadline
        · exact writes_event _ _ _ _ (by simp [sideEvents])
        · simp only [Bool.or_eq_true, not_or, Option.not_isSome_iff_eq_none] at hclosed
          have hopen : Open s record :=
            ⟨hid ▸ hrecord, terminal_eq_false hclosed.2, hid ▸ hclosed.1⟩
          exact .tail (.single (.default hopen hdeadline)) (.event _ _ _ _ (by simp [sideEvents]))
        · simp only [Bool.or_eq_true, not_or, Option.not_isSome_iff_eq_none] at hclosed
          have hopen : Open s record :=
            ⟨hid ▸ hrecord, terminal_eq_false hclosed.2, hid ▸ hclosed.1⟩
          exact .single (.submit hopen hid.symm hnew (not_le.mp hdeadline) messageReplaced
            policyVersion _)

/-- The timeouts of different tasks, one after another. -/
theorem writes_finalize : ∀ (l : List ArenaTaskRecord) (s : ArenaCore) (now : UtcDateTime),
    (l.map (·.task.taskId)).Nodup →
    (∀ record ∈ l, Open s record ∧ record.task.deadlineAt ≤ now) →
    Writes H s (l.foldl (fun s record => (s.createTimeoutResultLocked H record now).1) s) := by
  intro l
  induction l with
  | nil =>
      intro s now _ _
      exact .refl
  | cons record rest ih =>
      intro s now hnodup h
      obtain ⟨hopen, hlate⟩ := h record List.mem_cons_self
      rw [List.map_cons, List.nodup_cons] at hnodup
      refine .head (.default hopen hlate) (ih _ now hnodup.2 ?_)
      intro later hlater
      obtain ⟨hopen', hlate'⟩ := h later (List.mem_cons_of_mem _ hlater)
      have hne : later.task.taskId ≠ record.task.taskId := by
        intro heq
        exact hnodup.1 (heq ▸ List.mem_map_of_mem (f := (·.task.taskId)) hlater)
      exact ⟨⟨(Dict.get_set_ne _ _ hne).trans hopen'.stored, hopen'.running,
        (Dict.get_set_ne _ _ hne).trans hopen'.unanswered⟩, hlate'⟩

theorem writes_finalizeExpired (hc : Consistent s) (now : UtcDateTime) (limit : Nat) :
    Writes H s (s.finalizeExpired H now limit) := by
  refine writes_finalize _ s now ?_ ?_
  · rw [expiredTasks_eq, List.map_take]
    exact (nodup_queue_ids hc now).sublist (List.take_sublist _ _)
  · intro record hrecord
    rw [expiredTasks_eq] at hrecord
    obtain ⟨hmem, hover⟩ := mem_queue.mp (List.mem_of_mem_take hrecord)
    unfold overdue at hover
    simp only [Bool.and_eq_true, Bool.not_eq_true', decide_eq_true_eq] at hover
    exact ⟨⟨hc.get_of_mem_values hmem, hover.1.1, Option.isNone_iff_eq_none.mp hover.2⟩, hover.1.2⟩

theorem writes_applyResult {resultId : String} {now : UtcDateTime}
    {applied : Option AppliedArenaAction} (h : s.applyResult resultId now = .ok (t, applied)) :
    Writes H s t := by
  unfold applyResult at h
  split at h
  · cases h
  · rename_i row hrow
    split at h
    · cases h
      exact .refl
    · rename_i hpending
      split at h
      · cases h
      · rename_i record hrecord
        have hready : Pending s resultId row record := ⟨hrow, not_not.mp hpending, hrecord⟩
        dsimp only at h
        rw [if_neg (by simp [deriveApplication_accepted])] at h
        split at h
        · rename_i existing hexisting
          obtain ⟨hsame, h⟩ := ok_of_guard h
          cases h
          exact .single (.again hready hexisting (not_not.mp hsame) now)
        · rename_i hnone
          cases h
          exact .tail (.single (.apply hready hnone now)) (.event _ _ _ _ (by simp [sideEvents]))

/-- **Every call is a sequence of steps.** -/
theorem steps_call (hc : Consistent s) (c : CoreCall) : Steps H s (s.call T H c) := by
  cases c with
  | createTask task config configHash createdAt =>
      simp only [call]
      split
      · rename_i s' record h
        exact steps_createTask h
      · exact .refl
  | submitResult r now messageReplaced policyVersion =>
      exact (writes_submitResult hc r now messageReplaced policyVersion).steps
  | finalizeExpired now limit => exact (writes_finalizeExpired hc now limit).steps
  | applyResult resultId now =>
      simp only [call]
      split
      · rename_i s' applied h
        exact (writes_applyResult h).steps
      · exact .refl

/-! ### What steps keep -/

theorem Write.moves (h : Write H s t) : Moves s t := by
  cases h with
  | event => exact moves_appendEvent _ _ _ _ _
  | submit hopen | default hopen =>
      exact (Moves.close ⟨_, hopen.stored, rfl⟩).trans (moves_appendEvent _ _ _ _ _)
  | again => exact .keep rfl rfl fun id h => Dict.isSome_get_set _ _ _ h
  | apply => exact .keep rfl rfl fun id h => Dict.isSome_get_set _ _ _ h

theorem Step.moves (h : Step H s t) : Moves s t := by
  cases h with
  | create record hfresh hqueued keys => exact .create record hfresh hqueued rfl rfl rfl
  | write h => exact h.moves

theorem Steps.moves (h : Steps H s t) : Moves s t := by
  induction h with
  | refl => exact Moves.refl s
  | tail _ hstep ih => exact ih.trans hstep.moves

theorem steps_calls : ∀ (l : List CoreCall) (s : ArenaCore), Consistent s →
    Steps H s (s.calls T H l) := by
  intro l
  induction l with
  | nil =>
      intro s _
      exact .refl
  | cons c rest ih =>
      intro s hc
      have hnext : Consistent (s.call T H c) := (steps_call hc c).moves.consistent hc
      exact (steps_call hc c).trans (ih _ hnext)

end ArenaCore

end Arena402
