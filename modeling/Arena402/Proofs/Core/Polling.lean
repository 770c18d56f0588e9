/-
When a poll finds the results of its own expired tasks.

A task keeps its terminal result, so a poll can only miss one that the finalizer did not
write.  The finalizer takes the open expired tasks of the whole repository in the order of
their deadlines and ids and stops at its limit: it reaches a task exactly when fewer open
expired tasks come before it than the limit allows.  The limit counts the caller's own
tasks, so a backlog of other games is enough to starve them.
-/
import Mathlib.Data.String.Basic
import Mathlib.Data.Prod.Lex
import Arena402.Proofs.Core.ResultSink
import Arena402.Proofs.Core.Steps

/-! ### The first elements of a sorted list -/

namespace List

variable {α : Type}

/-- In a strictly sorted list the first `n` elements are those that fewer than `n` come
    before. -/
theorem mem_take_iff_countP_lt {r : α → α → Bool} (hirr : ∀ a, r a a = false)
    (hasymm : ∀ a b, r a b = true → r b a = false) :
    ∀ (l : List α) (n : Nat) {x : α}, l.Pairwise (fun a b => r a b = true) → x ∈ l →
      (x ∈ l.take n ↔ l.countP (fun y => r y x) < n) := by
  intro l
  induction l with
  | nil =>
      intro n x _ hx
      cases hx
  | cons y rest ih =>
      intro n x hl hx
      obtain ⟨hhead, hrest⟩ := List.pairwise_cons.mp hl
      cases n with
      | zero => simp
      | succ n =>
          rw [List.take_succ_cons, List.mem_cons, List.countP_cons]
          by_cases hxy : x = y
          · subst hxy
            have hnone : rest.countP (fun z => r z x) = 0 := by
              rw [List.countP_eq_zero]
              intro z hz
              rw [hasymm x z (hhead z hz)]
              exact Bool.false_ne_true
            rw [hnone, hirr x]
            simp
          · have hmem : x ∈ rest := (List.mem_cons.mp hx).resolve_left hxy
            have hiff := ih n hrest hmem
            rw [hhead x hmem]
            simp only [hxy, false_or, if_true]
            rw [hiff]
            omega

end List

namespace Arena402

open Py

variable {T : TextTables} {H : Hashes}

namespace ArenaCore

variable {s t u : ArenaCore}

/-! ### Which tasks the finalizer reaches -/

/-- The order of the finalizer: by deadline, then by id. -/
def sortKey (record : ArenaTaskRecord) : UtcDateTime ×ₗ String :=
  toLex (record.task.deadlineAt, record.task.taskId)

/-- Whether the finalizer takes a task before the one a coordinator waits for. -/
def comesBefore (record : ArenaTaskRecord) (ref : TaskWaitRef) : Bool :=
  record.task.deadlineAt < ref.deadlineAt ||
    (record.task.deadlineAt = ref.deadlineAt && record.task.taskId < ref.taskId)

/-- How many overdue tasks of the whole repository come before an own one. -/
def backlog (s : ArenaCore) (now : UtcDateTime) (ref : TaskWaitRef) : Nat :=
  s.tasks.values.countP fun record => s.overdue now record && comesBefore record ref

/-- A task that has its result, or that the finalizer reaches within its limit. -/
def Covered (s : ArenaCore) (now : UtcDateTime) (limit : Nat) (ref : TaskWaitRef) : Prop :=
  (s.resultByTask.get ref.taskId).isSome ∨
    (ref.deadlineAt ≤ now ∧ s.backlog now ref < limit)

theorem comesBefore_iff {record record' : ArenaTaskRecord} :
    comesBefore record ⟨record'.task.taskId, record'.task.deadlineAt⟩ = true ↔
      sortKey record < sortKey record' := by
  simp [comesBefore, sortKey, Prod.Lex.toLex_lt_toLex]

theorem sortsUpTo_iff {a b : ArenaTaskRecord} : sortsUpTo a b = true ↔ sortKey a ≤ sortKey b := by
  simp [sortsUpTo, sortKey, Prod.Lex.toLex_le_toLex]

theorem sorted_queue (hc : Consistent s) (now : UtcDateTime) :
    (s.queue now).Pairwise fun a b => sortKey a < sortKey b := by
  have htrans : ∀ a b c, sortsUpTo a b = true → sortsUpTo b c = true → sortsUpTo a c = true :=
    fun a b c hab hbc =>
      sortsUpTo_iff.mpr ((sortsUpTo_iff.mp hab).trans (sortsUpTo_iff.mp hbc))
  have htotal : ∀ a b, (sortsUpTo a b || sortsUpTo b a) = true := by
    intro a b
    rw [Bool.or_eq_true, sortsUpTo_iff, sortsUpTo_iff]
    exact le_total _ _
  have hsorted := List.pairwise_mergeSort htrans htotal (s.tasks.values.filter (s.overdue now))
  refine (hsorted.and (nodup_queue hc now)).imp_of_mem ?_
  rintro a b ha hb ⟨hab, hne⟩
  refine lt_of_le_of_ne (sortsUpTo_iff.mp hab) ?_
  intro hkey
  -- two tasks of one id are one task
  have hid : a.task.taskId = b.task.taskId := congrArg (fun k => (ofLex k).2) hkey
  have hga := hc.get_of_mem_values (mem_queue.mp ha).1
  have hgb := hc.get_of_mem_values (mem_queue.mp hb).1
  rw [hid, hgb] at hga
  exact hne (Option.some.inj hga).symm

theorem countP_queue (s : ArenaCore) (now : UtcDateTime) (record : ArenaTaskRecord) :
    (s.queue now).countP (fun a => decide (sortKey a < sortKey record))
      = s.backlog now ⟨record.task.taskId, record.task.deadlineAt⟩ := by
  rw [queue, (List.mergeSort_perm _ _).countP_eq, List.countP_filter]
  refine List.countP_congr fun a _ => ?_
  rw [Bool.and_eq_true, Bool.and_eq_true, comesBefore_iff, decide_eq_true_iff, and_comm]

/-- **The finalizer takes an overdue task exactly when fewer of them come before it than its
    limit.** -/
theorem mem_expiredTasks_iff (hc : Consistent s) {now : UtcDateTime} {limit : Nat}
    {record : ArenaTaskRecord} (hmem : record ∈ s.tasks.values)
    (hover : s.overdue now record = true) :
    record ∈ s.expiredTasks now limit ↔
      s.backlog now ⟨record.task.taskId, record.task.deadlineAt⟩ < limit := by
  have hsorted : (s.queue now).Pairwise fun a b => decide (sortKey a < sortKey b) = true :=
    (sorted_queue hc now).imp fun h => decide_eq_true h
  have hirr : ∀ a : ArenaTaskRecord, decide (sortKey a < sortKey a) = false := by simp
  have hasymm : ∀ a b : ArenaTaskRecord, decide (sortKey a < sortKey b) = true →
      decide (sortKey b < sortKey a) = false := by
    intro a b h
    simpa using le_of_lt (of_decide_eq_true h)
  rw [expiredTasks_eq, ← countP_queue]
  exact List.mem_take_iff_countP_lt hirr hasymm _ limit hsorted (mem_queue.mpr ⟨hmem, hover⟩)

/-! ### What the second read sees -/

theorem resultByTask_createTimeoutResultLocked (s : ArenaCore) (record : ArenaTaskRecord)
    (now : UtcDateTime) (id : String) :
    ((s.createTimeoutResultLocked H record now).1.resultByTask.get id).isSome =
      (decide (id = record.task.taskId) || (s.resultByTask.get id).isSome) := by
  show ((s.resultByTask.set record.task.taskId _).get id).isSome = _
  rw [Dict.get_set]
  by_cases hid : id = record.task.taskId
  · simp [hid]
  · simp [hid]

theorem resultByTask_finalize : ∀ (l : List ArenaTaskRecord) (s : ArenaCore) (now : UtcDateTime)
    (id : String),
    ((l.foldl (fun s record => (s.createTimeoutResultLocked H record now).1) s).resultByTask.get
      id).isSome = true ↔ (∃ record ∈ l, record.task.taskId = id) ∨ (s.resultByTask.get id).isSome := by
  intro l
  induction l with
  | nil =>
      intro s now id
      simp
  | cons record rest ih =>
      intro s now id
      rw [List.foldl_cons, ih, resultByTask_createTimeoutResultLocked, Bool.or_eq_true,
        decide_eq_true_iff]
      constructor
      · rintro (⟨later, hlater, hid⟩ | hid | hold)
        · exact Or.inl ⟨later, List.mem_cons_of_mem _ hlater, hid⟩
        · exact Or.inl ⟨record, List.mem_cons_self, hid.symm⟩
        · exact Or.inr hold
      · rintro (⟨later, hlater, hid⟩ | hold)
        · rcases List.mem_cons.mp hlater with rfl | hrest
          · exact Or.inr (Or.inl hid.symm)
          · exact Or.inl ⟨later, hrest, hid⟩
        · exact Or.inr (Or.inr hold)

/-- The tasks a coordinator waits for are the ones it created. -/
def Owns (s : ArenaCore) (pending : List TaskWaitRef) : Prop :=
  ∀ ref ∈ pending, ∃ record, s.tasks.get ref.taskId = some record ∧
    record.task.deadlineAt = ref.deadlineAt

theorem Owns.grows {pending : List TaskWaitRef} (h : Owns s pending) (hg : Grows s t) :
    Owns t pending := by
  intro ref href
  obtain ⟨record, hrecord, hdeadline⟩ := h ref href
  obtain ⟨record', hrecord', htask⟩ := hg.tasks _ record hrecord
  exact ⟨record', hrecord', by rw [htask]; exact hdeadline⟩

/-- A covered task has its result after the finalizer ran, any other has not. -/
theorem resultByTask_finalizeExpired_iff (hc : Consistent s) {pending : List TaskWaitRef}
    (hown : Owns s pending) {now : UtcDateTime} {limit : Nat} {ref : TaskWaitRef}
    (href : ref ∈ pending) :
    ((s.finalizeExpired H now limit).resultByTask.get ref.taskId).isSome = true ↔
      s.Covered now limit ref := by
  obtain ⟨record, hrecord, hdeadline⟩ := hown ref href
  have hid : record.task.taskId = ref.taskId := hc.taskId_of_get hrecord
  have hmem : record ∈ s.tasks.values := List.mem_map.mpr ⟨_, Dict.mem_of_get hrecord, rfl⟩
  have href' : (⟨record.task.taskId, record.task.deadlineAt⟩ : TaskWaitRef) = ref := by
    rw [hid, hdeadline]
  rw [finalizeExpired, resultByTask_finalize, Covered]
  by_cases hdone : (s.resultByTask.get ref.taskId).isSome
  · exact ⟨fun _ => Or.inl hdone, fun _ => Or.inr hdone⟩
  have hover : s.overdue now record = true ↔ ref.deadlineAt ≤ now := by
    have hopen : record.status.terminal = false := by
      by_contra hterm
      exact hdone (hc.closed _ record hrecord (by simpa using hterm))
    have hnone : (s.resultByTask.get record.task.taskId).isNone = true := by
      rw [hid]
      simpa using hdone
    rw [overdue, hopen, hnone, hdeadline]
    simp
  constructor
  · rintro (⟨taken, htaken, htid⟩ | hold)
    · -- the task that was taken under this id is the own one
      obtain ⟨hstored, hovr⟩ := mem_queue.mp (List.mem_of_mem_take htaken)
      have hget := hc.get_of_mem_values hstored
      rw [htid, hrecord] at hget
      obtain rfl := Option.some.inj hget
      have hlt := (mem_expiredTasks_iff hc hmem hovr).mp htaken
      rw [href'] at hlt
      exact Or.inr ⟨hover.mp hovr, hlt⟩
    · exact absurd hold hdone
  · rintro (hold | ⟨hdue, hlt⟩)
    · exact absurd hold hdone
    · rw [← href'] at hlt
      exact Or.inl ⟨record, (mem_expiredTasks_iff hc hmem (hover.mpr hdue)).mpr hlt, hid⟩

theorem get_getResultsForTasks (s : ArenaCore) (id : String) : ∀ (ids : List String), id ∈ ids →
    (s.getResultsForTasks ids).get id = (s.resultByTask.get id).bind s.results.get := by
  intro ids
  induction ids with
  | nil =>
      intro h
      cases h
  | cons first rest ih =>
      intro hmem
      unfold getResultsForTasks at ih ⊢
      rw [List.filterMap_cons]
      cases hfirst : (s.resultByTask.get first).bind s.results.get with
      | none =>
          by_cases hid : id = first
          · subst hid
            simp only [Option.map_none]
            by_cases hrest : id ∈ rest
            · rw [ih hrest, hfirst]
            · rw [hfirst]
              refine Option.eq_none_iff_forall_ne_some.mpr fun row hrow => ?_
              obtain ⟨id', hid', hmap⟩ := List.mem_filterMap.mp (Dict.mem_of_get hrow)
              obtain ⟨row', _, heq⟩ := Option.map_eq_some_iff.mp hmap
              obtain rfl : id' = id := congrArg Prod.fst heq
              exact hrest hid'
          · exact ih ((List.mem_cons.mp hmem).resolve_left hid)
      | some row =>
          simp only [Option.map_some]
          rw [Dict.get_cons]
          by_cases hid : first = id
          · rw [if_pos hid, ← hid, hfirst]
          · rw [if_neg hid]
            exact ih ((List.mem_cons.mp hmem).resolve_left fun hc => hid hc.symm)

/-- The second read raises exactly when one of the tasks has no result. -/
theorem readFinalized_ne_error_iff (hc : Consistent s) (expired : List TaskWaitRef) :
    s.readFinalized expired ≠ .error "terminal_runtime_result_missing" ↔
      ∀ ref ∈ expired, (s.resultByTask.get ref.taskId).isSome = true := by
  have hget : ∀ ref ∈ expired,
      ((s.getResultsForTasks (expired.map (·.taskId))).get ref.taskId).isNone = false ↔
        (s.resultByTask.get ref.taskId).isSome = true := by
    intro ref href
    rw [get_getResultsForTasks s ref.taskId _ (List.mem_map_of_mem href)]
    cases hby : s.resultByTask.get ref.taskId with
    | none => simp
    | some resultId =>
        have hrow := hc.rows _ _ hby
        rw [Option.bind_some]
        cases hres : s.results.get resultId with
        | none =>
            rw [hres] at hrow
            cases hrow
        | some row => simp
  have hmissing : (expired.filter fun ref =>
      ((s.getResultsForTasks (expired.map (·.taskId))).get ref.taskId).isNone).isEmpty = true ↔
        ∀ ref ∈ expired, (s.resultByTask.get ref.taskId).isSome = true := by
    rw [List.isEmpty_iff, List.filter_eq_nil_iff]
    refine forall₂_congr fun ref href => ?_
    rw [Bool.not_eq_true]
    exact hget ref href
  rw [readFinalized]
  by_cases hall : ∀ ref ∈ expired, (s.resultByTask.get ref.taskId).isSome = true
  · rw [if_pos (hmissing.mpr hall)]
    exact ⟨fun _ => hall, fun _ => by simp⟩
  · rw [if_neg fun h => hall (hmissing.mp h)]
    exact ⟨fun h => absurd rfl h, fun h => absurd h hall⟩

/-! ### The whole poll -/

section Poll

variable {pending : List TaskWaitRef} {now finalizeNow : UtcDateTime} {before after : List CoreCall}

theorem mem_pending_of_mem_expiredRefs {ref : TaskWaitRef} (h : ref ∈ expiredRefs pending now) :
    ref ∈ pending :=
  (List.mem_filter.mp h).1

/-- The poll that finds nothing and has expired tasks calls the finalizer. -/
theorem pollTerminalResults_finalize
    (hnone : s.getResultsForTasks (pending.map (·.taskId)) = [])
    (hexpired : expiredRefs pending now ≠ []) :
    (s.pollTerminalResults T H pending now finalizeNow before after).2 =
      (((s.calls T H before).finalizeExpired H finalizeNow
        (finalizeLimit (expiredRefs pending now))).calls T H after).readFinalized
          (expiredRefs pending now) := by
  have hempty : (expiredRefs pending now).isEmpty = false := by simpa using hexpired
  simp only [pollTerminalResults, hnone, hempty]
  rfl

theorem pollTerminalResults_raises (hc : Consistent s) (hown : Owns s pending)
    (hnone : s.getResultsForTasks (pending.map (·.taskId)) = []) {ref : TaskWaitRef}
    (href : ref ∈ expiredRefs pending now)
    (hnot : ¬ (s.calls T H before).Covered finalizeNow
      (finalizeLimit (expiredRefs pending now)) ref) :
    (s.pollTerminalResults T H pending now finalizeNow before []).2 =
      .error "terminal_runtime_result_missing" := by
  have hmoves := (steps_calls (T := T) (H := H) before s hc).moves
  have hc1 := hmoves.consistent hc
  have hc2 := (writes_finalizeExpired (H := H) hc1 finalizeNow
    (finalizeLimit (expiredRefs pending now))).steps.moves.consistent hc1
  rw [pollTerminalResults_finalize hnone (List.ne_nil_of_mem href)]
  by_contra hok
  have hall := (readFinalized_ne_error_iff hc2 _).mp hok ref href
  exact hnot ((resultByTask_finalizeExpired_iff hc1 (hown.grows hmoves.grows)
    (mem_pending_of_mem_expiredRefs href)).mp hall)

theorem pollTerminalResults_returns (hc : Consistent s) (hown : Owns s pending)
    (hcov : ∀ ref ∈ expiredRefs pending now, (s.calls T H before).Covered finalizeNow
      (finalizeLimit (expiredRefs pending now)) ref)
    (hnone : s.getResultsForTasks (pending.map (·.taskId)) = [])
    (hexpired : expiredRefs pending now ≠ []) :
    (s.pollTerminalResults T H pending now finalizeNow before after).2 ≠
      .error "terminal_runtime_result_missing" := by
  have hmoves := (steps_calls (T := T) (H := H) before s hc).moves
  have hc1 := hmoves.consistent hc
  have hc2 := (writes_finalizeExpired (H := H) hc1 finalizeNow
    (finalizeLimit (expiredRefs pending now))).steps.moves.consistent hc1
  have hafter := (steps_calls (T := T) (H := H) after _ hc2).moves
  rw [pollTerminalResults_finalize hnone hexpired]
  refine (readFinalized_ne_error_iff (hafter.consistent hc2) _).mpr ?_
  intro ref href
  refine hafter.grows.results _ ?_
  exact (resultByTask_finalizeExpired_iff hc1 (hown.grows hmoves.grows)
    (mem_pending_of_mem_expiredRefs href)).mpr (hcov ref href)

/-- The history of a repository leaves it consistent. -/
theorem consistent_calls (history : List CoreCall) : Consistent (calls T H {} history) :=
  (steps_calls history {} consistent_empty).moves.consistent consistent_empty

/-- **A poll never raises, whatever other processes do after the finalizer, exactly when each
    of its expired tasks has a result or is within the first `max(50, len(expired))` overdue
    tasks of the whole repository when the finalizer is called.** -/
theorem poll_never_raises_iff (T : TextTables) (H : Hashes) (history : List CoreCall)
    (pending : List TaskWaitRef) (now finalizeNow : UtcDateTime) (before : List CoreCall)
    (hown : Owns (calls T H {} history) pending) :
    (∀ after, ((calls T H {} history).pollTerminalResults T H pending now finalizeNow before
        after).2 ≠ .error "terminal_runtime_result_missing") ↔
      ((calls T H {} history).getResultsForTasks (pending.map (·.taskId)) = [] →
        ∀ ref ∈ expiredRefs pending now, ((calls T H {} history).calls T H before).Covered
          finalizeNow (finalizeLimit (expiredRefs pending now)) ref) := by
  have hc := consistent_calls (T := T) (H := H) history
  constructor
  · intro h hnone ref href
    by_contra hnot
    exact h [] (pollTerminalResults_raises hc hown hnone href hnot)
  · intro h after
    by_cases hnone : (calls T H {} history).getResultsForTasks (pending.map (·.taskId)) = []
    · by_cases hexpired : expiredRefs pending now = []
      · simp [pollTerminalResults, hnone, hexpired]
      · exact pollTerminalResults_returns hc hown (h hnone) hnone hexpired
    · have hfound : ((calls T H {} history).getResultsForTasks
          (pending.map (·.taskId))).isEmpty = false := by simpa using hnone
      simp [pollTerminalResults, hfound]

end Poll

/-! ### Fifty abandoned tasks and one own -/

/-- A task with a new id and key is created. -/
theorem call_createTask (task : ArenaAgentTaskV1) (config : Config) (configHash : String)
    (createdAt : UtcDateTime)
    (hview : secureConfigSnapshot T task.input.dump = none)
    (hconfig : secureConfigSnapshot T (.dict config) = none)
    (hinput : H.snapshot task.input.dump = task.inputHash)
    (hhash : H.snapshot (.dict config) = configHash)
    (hnew : s.getTaskByIdempotency task.gameAgentId task.idempotencyKey = none)
    (hfresh : s.tasks.get task.taskId = none) :
    (s.call T H (.createTask task config configHash createdAt)).tasks =
        s.tasks ++ [(task.taskId, ⟨task, config, configHash, .queued, createdAt, none⟩)] ∧
      (s.call T H (.createTask task config configHash createdAt)).resultByTask = s.resultByTask ∧
      ∀ e ∈ (s.call T H (.createTask task config configHash createdAt)).taskByIdempotency,
        e.1.1 = task.gameAgentId ∨ e ∈ s.taskByIdempotency := by
  have hfree : ¬ (s.tasks.get task.taskId).isSome = true := by
    rw [hfresh]
    exact Bool.false_ne_true
  simp only [call]
  unfold createTask
  rw [hview, hconfig]
  dsimp only
  rw [if_neg (not_not.mpr hinput), if_neg (not_not.mpr hhash), hnew]
  dsimp only
  rw [if_neg hfree]
  refine ⟨Dict.set_of_get_none _ hfresh, rfl, ?_⟩
  intro e he
  rcases Dict.mem_set he with rfl | hold
  · exact Or.inl rfl
  · exact Or.inr hold

namespace Backlog

open Messages

def taskAt (id : String) : ArenaAgentTaskV1 :=
  taskOf hashes id id (.marketRfq rfqView)

def createAt (id : String) : CoreCall :=
  .createTask (taskAt id) [] "sha256:snapshot" 0

def recordAt (id : String) : ArenaTaskRecord where
  task := taskAt id
  configSnapshot := []
  configHash := "sha256:snapshot"
  status := .queued
  createdAt := 0

/-- The id of the `i`-th abandoned task. -/
def abandonedId (i : Nat) : String :=
  String.ofList (List.replicate (i + 1) 'a')

theorem abandonedId_inj {i j : Nat} (h : abandonedId i = abandonedId j) : i = j := by
  have hlen := congrArg (fun id => id.toList.length) h
  simp only [abandonedId, String.toList_ofList, List.length_replicate] at hlen
  omega

theorem abandonedId_ne_own (i : Nat) : abandonedId i ≠ "own" := by
  intro h
  have hhead := congrArg (fun id => id.toList.head?) h
  simp [abandonedId, List.replicate_succ] at hhead

theorem abandonedId_lt_own (i : Nat) : abandonedId i < "own" := by
  rw [String.lt_iff_toList_lt, abandonedId, String.toList_ofList, List.replicate_succ]
  exact List.Lex.rel (by decide)

theorem scan_view : secureConfigSnapshot tables (TaskInput.marketRfq rfqView).dump = none := by
  decide

theorem scan_config : secureConfigSnapshot tables (.dict []) = none := by
  decide

theorem createTask_fresh {s : ArenaCore} {id : String} (hfresh : s.tasks.get id = none)
    (hkeys : ∀ e ∈ s.taskByIdempotency, e.1.1 ≠ id) :
    (s.call tables hashes (createAt id)).tasks =
        s.tasks ++ [(id, recordAt id)] ∧
      (s.call tables hashes (createAt id)).resultByTask = s.resultByTask ∧
      ∀ e ∈ (s.call tables hashes (createAt id)).taskByIdempotency,
        e.1.1 = id ∨ e ∈ s.taskByIdempotency := by
  have hnew : s.getTaskByIdempotency id (taskAt id).idempotencyKey = none := by
    have hget : s.taskByIdempotency.get (id, (taskAt id).idempotencyKey) = none := by
      refine Option.eq_none_iff_forall_ne_some.mpr fun taskId htask => ?_
      exact hkeys _ (Dict.mem_of_get htask) rfl
    rw [getTaskByIdempotency, hget]
    rfl
  exact call_createTask (taskAt id) [] "sha256:snapshot" 0 scan_view
    scan_config rfl rfl hnew hfresh

/-- The abandoned tasks of earlier games. -/
def abandon (n : Nat) : List CoreCall :=
  (List.range n).map fun i => createAt (abandonedId i)

theorem calls_nil (T : TextTables) (H : Hashes) (s : ArenaCore) : s.calls T H [] = s := rfl

theorem calls_append (T : TextTables) (H : Hashes) (s : ArenaCore) (l l' : List CoreCall) :
    s.calls T H (l ++ l') = (s.calls T H l).calls T H l' :=
  List.foldl_append

theorem calls_concat (T : TextTables) (H : Hashes) (s : ArenaCore) (l : List CoreCall)
    (c : CoreCall) : s.calls T H (l ++ [c]) = (s.calls T H l).call T H c := by
  rw [calls_append]
  rfl

theorem tasks_abandon (n : Nat) :
    (calls tables hashes {} (abandon n)).tasks =
        (List.range n).map (fun i => (abandonedId i, recordAt (abandonedId i))) ∧
      (calls tables hashes {} (abandon n)).resultByTask = [] ∧
      ∀ e ∈ (calls tables hashes {} (abandon n)).taskByIdempotency, ∃ i < n, e.1.1 = abandonedId i := by
  induction n with
  | zero => exact ⟨rfl, rfl, by simp [abandon, calls]⟩
  | succ n ih =>
      obtain ⟨htasks, hresults, hkeys⟩ := ih
      have hcalls : calls tables hashes {} (abandon (n + 1)) =
          (calls tables hashes {} (abandon n)).call tables hashes (createAt (abandonedId n)) := by
        rw [abandon, List.range_succ, List.map_append]
        exact calls_concat _ _ _ _ _
      have hfresh : (calls tables hashes {} (abandon n)).tasks.get (abandonedId n) = none := by
        refine Option.eq_none_iff_forall_ne_some.mpr fun record hrecord => ?_
        have hmem := Dict.mem_of_get hrecord
        rw [htasks] at hmem
        obtain ⟨i, hi, heq⟩ := List.mem_map.mp hmem
        have := abandonedId_inj (congrArg Prod.fst heq)
        have := List.mem_range.mp hi
        omega
      have hnew : ∀ e ∈ (calls tables hashes {} (abandon n)).taskByIdempotency,
          e.1.1 ≠ abandonedId n := by
        intro e he heq
        obtain ⟨i, hi, hid⟩ := hkeys e he
        have := abandonedId_inj (hid.symm.trans heq)
        omega
      obtain ⟨h1, h2, h3⟩ := createTask_fresh hfresh hnew
      rw [hcalls]
      refine ⟨?_, h2.trans hresults, ?_⟩
      · rw [h1, htasks, List.range_succ, List.map_append]
        rfl
      · intro e he
        rcases h3 e he with hid | hold
        · exact ⟨n, by omega, hid⟩
        · obtain ⟨i, hi, hid⟩ := hkeys e hold
          exact ⟨i, by omega, hid⟩

/-- The history of the repository: the abandoned tasks, then the own one. -/
def history (n : Nat) : List CoreCall :=
  abandon n ++ [createAt "own"]

def own : TaskWaitRef := ⟨"own", 50⟩

theorem tasks_history (n : Nat) :
    (calls tables hashes {} (history n)).tasks =
        (List.range n).map (fun i => (abandonedId i, recordAt (abandonedId i))) ++
          [("own", recordAt "own")] ∧
      (calls tables hashes {} (history n)).resultByTask = [] := by
  obtain ⟨htasks, hresults, hkeys⟩ := tasks_abandon n
  have hfresh : (calls tables hashes {} (abandon n)).tasks.get "own" = none := by
    refine Option.eq_none_iff_forall_ne_some.mpr fun record hrecord => ?_
    have hmem := Dict.mem_of_get hrecord
    rw [htasks] at hmem
    obtain ⟨i, _, heq⟩ := List.mem_map.mp hmem
    exact abandonedId_ne_own i (congrArg Prod.fst heq)
  have hnew : ∀ e ∈ (calls tables hashes {} (abandon n)).taskByIdempotency, e.1.1 ≠ "own" := by
    intro e he heq
    obtain ⟨i, _, hid⟩ := hkeys e he
    exact abandonedId_ne_own i (hid.symm.trans heq)
  obtain ⟨h1, h2, _⟩ := createTask_fresh hfresh hnew
  have hcalls : calls tables hashes {} (history n) =
      (calls tables hashes {} (abandon n)).call tables hashes (createAt "own") :=
    calls_concat _ _ _ _ _
  rw [hcalls]
  exact ⟨h1.trans (by rw [htasks]), h2.trans hresults⟩

theorem owns_history (n : Nat) : Owns (calls tables hashes {} (history n)) [own] := by
  intro ref href
  rw [List.mem_singleton.mp href]
  refine ⟨recordAt "own", ?_, rfl⟩
  refine Dict.get_of_mem (consistent_calls (history n)).nodup ?_
  rw [(tasks_history n).1]
  exact List.mem_append_right _ (List.mem_singleton.mpr rfl)

/-- Every abandoned task comes before the own one. -/
theorem backlog_history (n : Nat) : n ≤ (calls tables hashes {} (history n)).backlog 60 own := by
  obtain ⟨htasks, hresults⟩ := tasks_history n
  have hold : ((List.range n).map fun i => recordAt (abandonedId i)).countP
      (fun record => (calls tables hashes {} (history n)).overdue 60 record &&
        comesBefore record own) = n := by
    rw [List.countP_eq_length.mpr]
    · simp
    · intro record hrecord
      obtain ⟨i, _, rfl⟩ := List.mem_map.mp hrecord
      have hover : (calls tables hashes {} (history n)).overdue 60 (recordAt (abandonedId i)) = true := by
        simp only [overdue, hresults]
        rfl
      have hfirst : comesBefore (recordAt (abandonedId i)) own = true := by
        have hid : (recordAt (abandonedId i)).task.taskId < own.taskId := abandonedId_lt_own i
        rw [comesBefore, decide_eq_true hid]
        rfl
      rw [hover, hfirst]
      rfl
  have hold' : (List.map ((fun e => e.2) ∘ fun i =>
      (abandonedId i, recordAt (abandonedId i))) (List.range n)).countP
      (fun record => (calls tables hashes {} (history n)).overdue 60 record &&
        comesBefore record own) = n := hold
  rw [backlog, htasks, Dict.values, List.map_append, List.countP_append, List.map_map, hold']
  exact Nat.le_add_right _ _

theorem poll_raises_of_abandoned {n : Nat} (hn : 50 ≤ n) :
    ((calls tables hashes {} (history n)).pollTerminalResults tables hashes [own] 60 60 [] []).2 =
      .error "terminal_runtime_result_missing" := by
  have hnone : (calls tables hashes {} (history n)).getResultsForTasks ([own].map (·.taskId))
      = [] := by
    simp [getResultsForTasks, (tasks_history n).2]
  have hmem : own ∈ expiredRefs [own] 60 := by decide
  refine pollTerminalResults_raises (consistent_calls (history n)) (owns_history n) hnone hmem ?_
  rintro (hdone | ⟨_, hlt⟩)
  · have hresults : ((calls tables hashes {} (history n)).calls tables hashes []).resultByTask = [] :=
      (tasks_history n).2
    rw [hresults] at hdone
    cases hdone
  · have hback : n ≤ ((calls tables hashes {} (history n)).calls tables hashes []).backlog 60 own :=
      backlog_history n
    have hlimit : finalizeLimit (expiredRefs [own] 60) = 50 := by decide
    omega

/-- **Fifty older abandoned tasks make the poll of a later game raise.** -/
theorem poll_raises_behind_backlog :
    ¬ ∀ (T : TextTables) (H : Hashes) (history : List CoreCall) (pending : List TaskWaitRef)
        (now finalizeNow : UtcDateTime) (before after : List CoreCall), now ≤ finalizeNow →
      Owns (calls T H {} history) pending →
      ((calls T H {} history).pollTerminalResults T H pending now finalizeNow before after).2 ≠
        .error "terminal_runtime_result_missing" := by
  intro h
  have hraise := poll_raises_of_abandoned (n := 50) le_rfl
  exact h tables hashes (history 50) [own] 60 60 [] [] le_rfl (owns_history 50) hraise

/-- With no backlog the own task is covered. -/
theorem poll_returns_without_backlog :
    expiredRefs [own] 60 = [own] ∧
      ∀ after, ((calls tables hashes {} (history 0)).pollTerminalResults tables hashes [own] 60 60
        [] after).2 ≠ .error "terminal_runtime_result_missing" := by
  refine ⟨by decide, ?_⟩
  refine (poll_never_raises_iff tables hashes (history 0) [own] 60 60 [] (owns_history 0)).mpr ?_
  intro _ ref href
  have href' : ref = own := List.mem_singleton.mp (mem_pending_of_mem_expiredRefs href)
  rw [href']
  refine Or.inr ⟨by decide, ?_⟩
  have hlength : (calls tables hashes {} (history 0)).tasks.values.length = 1 := by
    rw [(tasks_history 0).1]
    rfl
  have hcount : (calls tables hashes {} (history 0)).backlog 60 own ≤ 1 :=
    List.countP_le_length.trans hlength.le
  have hlimit : finalizeLimit (expiredRefs [own] 60) = 50 := by decide
  rw [hlimit, calls_nil]
  omega

end Backlog

end ArenaCore

end Arena402
