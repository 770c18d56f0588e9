/-
The first writer of a result wins.

A task gets its result from the Runtime before the deadline, or from the deadline itself: a
late submission and the finalizer both write the timeout.  Each of them writes only when the
task is open and has no result, so that the first one stays.  The result of a timeout is
stored under the digest of its task, and two tasks whose digests were equal would share it;
`Distinguishes` says that the digests of the stored tasks differ.
-/
import Arena402.Proofs.Core.Polling

namespace Arena402

open Py

variable {T : TextTables} {H : Hashes}

namespace ArenaCore

variable {s t u : ArenaCore}

/-- The digests of the stored tasks differ. -/
def Distinguishes (H : Hashes) (s : ArenaCore) : Prop :=
  ∀ a b, (s.tasks.get a).isSome → (s.tasks.get b).isSome → H.text a = H.text b → a = b

/-- The result is the Runtime's and came before the deadline, or it is the timeout and came
    at the deadline or after it. -/
def Timely (H : Hashes) (record : ArenaTaskRecord) (resultId : String) (row : ArenaResultRecord) :
    Prop :=
  ((∃ digest, resultId = "runtime:" ++ digest) ∧ row.resultReceivedAt < record.task.deadlineAt) ∨
    (resultId = "default:" ++ H.text record.task.taskId ∧
      record.task.deadlineAt ≤ row.resultReceivedAt)

/-- The result of a task. -/
structure AnsweredBy (H : Hashes) (s : ArenaCore) (id resultId : String) (record : ArenaTaskRecord)
    (row : ArenaResultRecord) : Prop where
  stored : s.tasks.get id = some record
  found : s.results.get resultId = some row
  names : row.result.taskId = id
  timely : Timely H record resultId row

/-- How often the end of a task is told. -/
def endings (s : ArenaCore) (id : String) : Nat :=
  s.events.countP fun e => e.taskId = id &&
    (e.eventType = "result_submitted" || e.eventType = "defaulted")

/-- What every reachable repository keeps of its tasks and their results. -/
structure Settled (H : Hashes) (s : ArenaCore) : Prop where
  consistent : Consistent s
  status : ∀ id record, s.tasks.get id = some record →
    (record.status.terminal = true ↔ (s.resultByTask.get id).isSome)
  answers : ∀ id resultId, s.resultByTask.get id = some resultId →
    ∃ record row, AnsweredBy H s id resultId record row
  /-- Every stored result is the result of its task. -/
  owned : ∀ resultId row, s.results.get resultId = some row →
    s.resultByTask.get row.result.taskId = some resultId
  endings : ∀ id, s.endings id = if (s.resultByTask.get id).isSome then 1 else 0

/-- What later repositories keep of the results. -/
structure Keeps (s t : ArenaCore) : Prop where
  links : ∀ id resultId, s.resultByTask.get id = some resultId →
    t.resultByTask.get id = some resultId
  rows : ∀ resultId row, s.results.get resultId = some row → ∃ row',
    t.results.get resultId = some row' ∧ row'.result = row.result ∧
      row'.resultReceivedAt = row.resultReceivedAt ∧ row'.resultHash = row.resultHash

theorem Keeps.refl (s : ArenaCore) : Keeps s s :=
  ⟨fun _ _ h => h, fun _ row h => ⟨row, h, rfl, rfl, rfl⟩⟩

theorem Keeps.trans (h : Keeps s t) (h' : Keeps t u) : Keeps s u := by
  refine ⟨fun id resultId hlink => h'.links id resultId (h.links id resultId hlink), ?_⟩
  intro resultId row hrow
  obtain ⟨row', hrow', hresult, hreceived, hhash⟩ := h.rows resultId row hrow
  obtain ⟨row'', hrow'', hresult', hreceived', hhash'⟩ := h'.rows resultId row' hrow'
  exact ⟨row'', hrow'', hresult'.trans hresult, hreceived'.trans hreceived, hhash'.trans hhash⟩

theorem settled_empty (H : Hashes) : Settled H {} :=
  ⟨consistent_empty, by simp, by simp, by simp, fun _ => rfl⟩

theorem Distinguishes.back (h : Distinguishes H t) (hm : Moves s t) : Distinguishes H s := by
  have hkept : ∀ id, (s.tasks.get id).isSome → (t.tasks.get id).isSome := by
    intro id hid
    obtain ⟨record, hrecord⟩ := Option.isSome_iff_exists.mp hid
    obtain ⟨record', hrecord', _⟩ := hm.grows.tasks id record hrecord
    rw [hrecord']
    rfl
  exact fun a b ha hb => h a b (hkept a ha) (hkept b hb)

/-! ### The steps -/

theorem endings_appendEvent (s : ArenaCore) (taskId eventType : String) (now : UtcDateTime)
    (data : List (String × Value)) (id : String) :
    (s.appendEvent taskId eventType now data).endings id = s.endings id +
      if taskId = id ∧ (eventType = "result_submitted" ∨ eventType = "defaulted") then 1 else 0 := by
  unfold endings appendEvent
  rw [List.countP_append, List.countP_singleton]
  simp

/-- A side event is no ending. -/
theorem Settled.event (hs : Settled H s) {taskId eventType : String} {now : UtcDateTime}
    {data : List (String × Value)} (hside : eventType ∈ sideEvents) :
    Settled H (s.appendEvent taskId eventType now data) := by
  refine ⟨(moves_appendEvent s taskId eventType now data).consistent hs.consistent, hs.status,
    fun id resultId h => ?_, hs.owned, fun id => ?_⟩
  · obtain ⟨record, row, hanswer⟩ := hs.answers id resultId h
    exact ⟨record, row, hanswer.stored, hanswer.found, hanswer.names, hanswer.timely⟩
  · rw [endings_appendEvent, if_neg, Nat.add_zero]
    · exact hs.endings id
    · rintro ⟨_, rfl | rfl⟩
      · simp [sideEvents] at hside
      · simp [sideEvents] at hside

/-- A new task has no result. -/
theorem Settled.create (hs : Settled H s) {record : ArenaTaskRecord}
    (hfresh : s.tasks.get record.task.taskId = none) (hqueued : record.status = .queued)
    (keys : Dict (String × String) String) :
    Settled H { s with
      tasks := s.tasks.set record.task.taskId record
      taskByIdempotency := keys } := by
  have hmoves : Moves s { s with
      tasks := s.tasks.set record.task.taskId record
      taskByIdempotency := keys } := .create record hfresh hqueued rfl rfl rfl
  refine ⟨hmoves.consistent hs.consistent, ?_, ?_, hs.owned, hs.endings⟩
  · intro id found hfound
    refine Dict.of_get_set hfound ?_ fun _ hold => hs.status id found hold
    rintro rfl rfl
    have hnone : s.resultByTask.get found.task.taskId = none := by
      refine Option.eq_none_iff_forall_ne_some.mpr fun resultId hlink => ?_
      obtain ⟨old, _, hanswer⟩ := hs.answers _ _ hlink
      have hstored := hanswer.stored
      rw [hfresh] at hstored
      cases hstored
    show found.status.terminal = true ↔ (s.resultByTask.get found.task.taskId).isSome
    rw [hnone, hqueued]
    simp [TaskStatus.terminal]
  · intro id resultId h
    obtain ⟨old, row, hanswer⟩ := hs.answers id resultId h
    exact ⟨old, row, Dict.get_set_fresh _ hfresh hanswer.stored, hanswer.found, hanswer.names,
      hanswer.timely⟩

section Close

variable {record : ArenaTaskRecord} {status : TaskStatus} {now : UtcDateTime}
  {row : ArenaResultRecord} {eventType : String} {data : List (String × Value)}

/-- The first result of an open task. -/
theorem Settled.close (hs : Settled H s) (hopen : Open s record) (hterminal : status.terminal = true)
    (hfresh : s.results.get row.result.resultId = none)
    (hnames : row.result.taskId = record.task.taskId)
    (htimely : Timely H record row.result.resultId row)
    (hending : eventType = "result_submitted" ∨ eventType = "defaulted") :
    Settled H ((s.closeTask record status now row).appendEvent record.task.taskId eventType now
      data) := by
  have hmoves : Moves s ((s.closeTask record status now row).appendEvent record.task.taskId
      eventType now data) :=
    (Moves.close ⟨record, hopen.stored, rfl⟩).trans (moves_appendEvent _ _ _ _ _)
  have hlink : ∀ id, ((s.closeTask record status now row).appendEvent record.task.taskId eventType
      now data).resultByTask.get id = if id = record.task.taskId then some row.result.resultId
        else s.resultByTask.get id := fun id => Dict.get_set _ _ _ _
  refine ⟨hmoves.consistent hs.consistent, ?_, ?_, ?_, ?_⟩
  · intro id found hfound
    rw [hlink]
    refine Dict.of_get_set hfound ?_ fun hne hold => ?_
    · rintro rfl rfl
      simp [hterminal]
    · rw [if_neg hne]
      exact hs.status id found hold
  · intro id resultId h
    rw [hlink] at h
    by_cases hid : id = record.task.taskId
    · rw [if_pos hid] at h
      obtain rfl := Option.some.inj h
      subst hid
      exact ⟨{ record with status := status, completedAt := some now }, row,
        Dict.get_set_self _ _ _, Dict.get_set_self _ _ _, hnames, htimely⟩
    · rw [if_neg hid] at h
      obtain ⟨old, oldRow, hanswer⟩ := hs.answers id resultId h
      exact ⟨old, oldRow, (Dict.get_set_ne _ _ hid).trans hanswer.stored,
        Dict.get_set_fresh _ hfresh hanswer.found, hanswer.names, hanswer.timely⟩
  · intro resultId found hfound
    rw [hlink]
    refine Dict.of_get_set hfound ?_ fun _ hold => ?_
    · rintro rfl rfl
      rw [if_pos hnames]
    · have howned := hs.owned resultId found hold
      rw [if_neg, howned]
      intro htask
      rw [htask, hopen.unanswered] at howned
      cases howned
  · intro id
    rw [endings_appendEvent, hlink]
    have hold : (s.closeTask record status now row).endings id = s.endings id := rfl
    rw [hold, hs.endings id]
    by_cases hid : id = record.task.taskId
    · subst hid
      simp [hopen.unanswered, hending]
    · simp [hid, Ne.symm hid]

theorem keeps_close (hopen : Open s record) (hfresh : s.results.get row.result.resultId = none) :
    Keeps s ((s.closeTask record status now row).appendEvent record.task.taskId eventType now
      data) := by
  constructor
  · intro id resultId h
    exact Dict.get_set_fresh _ hopen.unanswered h
  · intro resultId old h
    exact ⟨old, Dict.get_set_fresh _ hfresh h, rfl, rfl, rfl⟩

end Close

section Mark

variable {resultId : String} {row : ArenaResultRecord}

/-- A result that was marked as applied. -/
theorem Settled.mark (hs : Settled H s) (hrow : s.results.get resultId = some row)
    (now : UtcDateTime) (reason : Option String) (applied : Dict String AppliedArenaAction) :
    Settled H { s with
      results := s.results.set resultId (appliedRow row now reason)
      appliedByTask := applied } := by
  have hmoves : Moves s { s with
      results := s.results.set resultId (appliedRow row now reason)
      appliedByTask := applied } := .keep rfl rfl fun id h => Dict.isSome_get_set _ _ _ h
  refine ⟨hmoves.consistent hs.consistent, hs.status, ?_, ?_, hs.endings⟩
  · intro id rid h
    obtain ⟨record, found, hanswer⟩ := hs.answers id rid h
    by_cases hid : rid = resultId
    · subst hid
      obtain rfl := Option.some.inj (hrow.symm.trans hanswer.found)
      exact ⟨record, appliedRow row now reason, hanswer.stored, Dict.get_set_self _ _ _,
        hanswer.names, hanswer.timely⟩
    · exact ⟨record, found, hanswer.stored, (Dict.get_set_ne _ _ hid).trans hanswer.found,
        hanswer.names, hanswer.timely⟩
  · intro rid found hfound
    refine Dict.of_get_set hfound ?_ fun _ hold => hs.owned rid found hold
    rintro rfl rfl
    exact hs.owned rid row hrow

theorem keeps_mark (hrow : s.results.get resultId = some row) (now : UtcDateTime)
    (reason : Option String) (applied : Dict String AppliedArenaAction) :
    Keeps s { s with
      results := s.results.set resultId (appliedRow row now reason)
      appliedByTask := applied } := by
  refine ⟨fun _ _ h => h, fun rid found h => ?_⟩
  by_cases hid : rid = resultId
  · subst hid
    obtain rfl := Option.some.inj (hrow.symm.trans h)
    exact ⟨appliedRow row now reason, Dict.get_set_self _ _ _, rfl, rfl, rfl⟩
  · exact ⟨found, (Dict.get_set_ne _ _ hid).trans h, rfl, rfl, rfl⟩

end Mark

/-- The two kinds of result ids differ. -/
theorem default_ne_runtime (digest digest' : String) : "default:" ++ digest ≠ "runtime:" ++ digest' := by
  intro h
  have hlist := congrArg String.toList h
  simp at hlist

/-- The timeout of an open task is stored under a new id. -/
theorem Settled.timeout_fresh (hs : Settled H s) (hd : Distinguishes H s) {record : ArenaTaskRecord}
    (hopen : Open s record) :
    s.results.get ("default:" ++ H.text record.task.taskId) = none := by
  refine Option.eq_none_iff_forall_ne_some.mpr fun row hrow => ?_
  have howned := hs.owned _ row hrow
  obtain ⟨other, row', hanswer⟩ := hs.answers _ _ howned
  have hother : other.task.taskId = row.result.taskId := hs.consistent.taskId_of_get hanswer.stored
  rcases hanswer.timely with ⟨⟨digest, hruntime⟩, _⟩ | ⟨hdefault, _⟩
  · exact default_ne_runtime _ _ hruntime
  · have hdigest := (String.append_right_inj _).mp hdefault
    rw [hother] at hdigest
    have hsame : record.task.taskId = row.result.taskId := by
      refine hd _ _ ?_ ?_ hdigest
      · rw [hopen.stored]
        rfl
      · rw [hanswer.stored]
        rfl
    rw [← hsame, hopen.unanswered] at howned
    cases howned

theorem Write.settled (h : Write H s t) (hs : Settled H s) (hd : Distinguishes H s) :
    Settled H t ∧ Keeps s t := by
  cases h with
  | event taskId eventType now data hside =>
      exact ⟨hs.event hside, fun _ _ h => h, fun _ row h => ⟨row, h, rfl, rfl, rfl⟩⟩
  | @submit record r now hopen htask hnew hearly messageReplaced policyVersion data =>
      rw [htask]
      have hterminal : (statusOfResult r.status).terminal = true := by
        cases r.status <;> rfl
      exact ⟨hs.close hopen hterminal hnew htask (Or.inl ⟨⟨_, rfl⟩, hearly⟩) (Or.inl rfl),
        keeps_close hopen hnew⟩
  | @default record now hopen hlate =>
      have hnew := hs.timeout_fresh hd hopen
      exact ⟨hs.close hopen rfl hnew rfl (Or.inr ⟨rfl, hlate⟩) (Or.inr rfl),
        keeps_close hopen hnew⟩
  | again hpending _ _ _ | apply hpending _ _ =>
      exact ⟨hs.mark hpending.found _ _ _, keeps_mark hpending.found _ _ _⟩

/-- **Every step keeps the first result of a task.** -/
theorem Step.settled (h : Step H s t) (hs : Settled H s) (hd : Distinguishes H s) :
    Settled H t ∧ Keeps s t := by
  cases h with
  | create record hfresh hqueued keys =>
      exact ⟨hs.create hfresh hqueued keys, fun _ _ h => h,
        fun _ row h => ⟨row, h, rfl, rfl, rfl⟩⟩
  | write h => exact h.settled hs hd

theorem Steps.settled (h : Steps H s t) (hs : Settled H s) (hd : Distinguishes H t) :
    Settled H t ∧ Keeps s t := by
  induction h with
  | refl => exact ⟨hs, .refl s⟩
  | tail hsteps hstep ih =>
      have hdu := hd.back hstep.moves
      obtain ⟨hsettled, hkeeps⟩ := ih hdu
      obtain ⟨hsettled', hkeeps'⟩ := hstep.settled hsettled hdu
      exact ⟨hsettled', hkeeps.trans hkeeps'⟩

/-! ### Runs -/

theorem settled_calls (l : List CoreCall) (hd : Distinguishes H (calls T H {} l)) :
    Settled H (calls T H {} l) :=
  ((steps_calls l {} consistent_empty).settled (settled_empty H) hd).1

/-- **A task is terminal exactly when it has a result; the result names its task and no other
    task has it; it came from the Runtime before the deadline or from the deadline; the end of
    a terminal task is told once; and no later call changes the result.** -/
theorem first_result_wins (T : TextTables) (H : Hashes) (l : List CoreCall)
    (hd : Distinguishes H (calls T H {} l)) :
    let s := calls T H {} l
    (∀ id record, s.tasks.get id = some record →
      (record.status.terminal = true ↔ (s.resultByTask.get id).isSome) ∧
      (record.status.terminal = true → s.endings id = 1)) ∧
    (∀ id resultId, s.resultByTask.get id = some resultId → ∃ record row,
      s.tasks.get id = some record ∧ s.results.get resultId = some row ∧ row.result.taskId = id ∧
      Timely H record resultId row) ∧
    (∀ id id' resultId, s.resultByTask.get id = some resultId →
      s.resultByTask.get id' = some resultId → id = id') ∧
    ∀ before later, l = before ++ later → Keeps (calls T H {} before) s := by
  intro s
  have hs : Settled H s := settled_calls l hd
  refine ⟨fun id record hrecord => ⟨hs.status id record hrecord, fun hterminal => ?_⟩, ?_, ?_, ?_⟩
  · rw [hs.endings id, if_pos ((hs.status id record hrecord).mp hterminal)]
  · intro id resultId hlink
    obtain ⟨record, row, hanswer⟩ := hs.answers id resultId hlink
    exact ⟨record, row, hanswer.stored, hanswer.found, hanswer.names, hanswer.timely⟩
  · intro id id' resultId hlink hlink'
    obtain ⟨_, row, hanswer⟩ := hs.answers id resultId hlink
    obtain ⟨_, row', hanswer'⟩ := hs.answers id' resultId hlink'
    obtain rfl := Option.some.inj (hanswer.found.symm.trans hanswer'.found)
    exact hanswer.names.symm.trans hanswer'.names
  · rintro before later rfl
    have hcalls : s = (calls T H {} before).calls T H later := List.foldl_append
    have hbefore : Consistent (calls T H {} before) := consistent_calls before
    have hsteps : Steps H (calls T H {} before) s := by
      rw [hcalls]
      exact steps_calls later _ hbefore
    exact (hsteps.settled (settled_calls before (hd.back hsteps.moves)) hd).2

namespace Race

open Messages

/-- The SHA-256 digests of the ids of two tasks. -/
def digests : Hashes :=
  { hashes with
    text := fun value =>
      if value = "own" then "5b3975651c3cab92d044c096dc30a1c2d9525497457472de48c51ecb363d1f4a"
      else if value = "a" then "ca978112ca1bbdcafac231b39a23dc4da786eff8147c4e72b9807785afee48bb"
      else value }

/-- A Runtime that gave up. -/
def failure (taskId : String) : AgentTaskResultV1 where
  resultId := "r1"
  taskId := taskId
  status := .failed
  action := none
  shape := by simp

/-- Two tasks: the Runtime answers one, and the finalizer times the other out. -/
def race : List CoreCall :=
  [Backlog.createAt "own", Backlog.createAt "a", .submitResult (failure "own") 10 false none,
    .finalizeExpired 60 5, .submitResult (failure "a") 20 false none]

theorem distinguishes_of_keys (hkeys : s.tasks.keys = ["own", "a"]) : Distinguishes digests s := by
  intro a b ha hb hdigest
  rw [← Dict.mem_keys_iff, hkeys] at ha hb
  simp only [List.mem_cons, List.not_mem_nil, or_false] at ha hb
  rcases ha with rfl | rfl
  · rcases hb with rfl | rfl
    · rfl
    · exact absurd hdigest (by decide)
  · rcases hb with rfl | rfl
    · exact absurd hdigest (by decide)
    · rfl

theorem race_keys : (calls tables digests {} race).tasks.keys = ["own", "a"] ∧
    (calls tables digests {} race).resultByTask.keys = ["own", "a"] := by
  decide +kernel

theorem distinguishes_race : Distinguishes digests (calls tables digests {} race) :=
  distinguishes_of_keys race_keys.1

end Race

/-- Both tasks of the race have ended, each told once. -/
theorem first_result_wins_race :
    (calls Messages.tables Race.digests {} Race.race).resultByTask.keys = ["own", "a"] ∧
    Distinguishes Race.digests (calls Messages.tables Race.digests {} Race.race) ∧
    ∀ id id' resultId,
      (calls Messages.tables Race.digests {} Race.race).resultByTask.get id = some resultId →
      (calls Messages.tables Race.digests {} Race.race).resultByTask.get id' = some resultId →
      id = id' :=
  ⟨Race.race_keys.2, Race.distinguishes_race,
    (first_result_wins Messages.tables Race.digests Race.race Race.distinguishes_race).2.2.1⟩

end ArenaCore

end Arena402
