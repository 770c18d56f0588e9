/-
Every result is applied once.

A stored result is the result of its task, so two results never compete for one task, and a
pending result is one whose task has no action yet (`Applications.rows`).  The branches of
`apply_result` that reject, or that find a different action, are therefore never taken, and
a result that was applied is left alone by every later call.
-/
import Arena402.Core.ResultConsumer
import Arena402.Proofs.Core.Authoritative

namespace Arena402

open Py

variable {T : TextTables} {H : Hashes}

namespace ArenaCore

variable {s t u : ArenaCore}

/-! ### The consumer is a sequence of steps -/

theorem steps_consistent (h : Steps H s t) (hc : Consistent s) : Consistent t :=
  h.moves.consistent hc

theorem steps_consumeLoop : ∀ (l : List (ArenaResultRecord × List CoreCall × UtcDateTime))
    (s : ArenaCore), Consistent s → Steps H s (s.consumeLoop T H l).1 := by
  intro l
  induction l with
  | nil =>
      intro s _
      exact .refl
  | cons turn rest ih =>
      intro s hc
      obtain ⟨record, others, now⟩ := turn
      have hothers : Steps H s (s.calls T H others) := steps_calls others s hc
      unfold consumeLoop
      dsimp only
      split
      · exact hothers
      · rename_i s' item happly
        have hnext : Steps H s s' := hothers.trans (writes_applyResult happly).steps
        exact hnext.trans (ih s' (steps_consistent hnext hc))

theorem steps_operate (hc : Consistent s) (op : CoreOp) : Steps H s (s.operate T H op) := by
  cases op with
  | call c => exact steps_call hc c
  | consumePending limit turns => exact steps_consumeLoop _ s hc

theorem steps_operates : ∀ (l : List CoreOp) (s : ArenaCore), Consistent s →
    Steps H s (s.operates T H l) := by
  intro l
  induction l with
  | nil =>
      intro s _
      exact .refl
  | cons op rest ih =>
      intro s hc
      have hfirst : Steps H s (s.operate T H op) := steps_operate hc op
      exact hfirst.trans (ih _ (steps_consistent hfirst hc))

/-! ### The applied actions -/

/-- The action of a task: what its own result was projected to. -/
structure AppliedFrom (s : ArenaCore) (id : String) (a : AppliedArenaAction)
    (record : ArenaTaskRecord) (row : ArenaResultRecord) : Prop where
  task : a.taskId = id
  stored : s.tasks.get id = some record
  authoritative : s.resultByTask.get id = some a.resultId
  found : s.results.get a.resultId = some row
  outcome : a.outcome = (deriveApplication record.task row.result).outcome
  action : a.action = (deriveApplication record.task row.result).action

/-- What every reachable repository keeps of its applied actions. -/
structure Applications (s : ArenaCore) : Prop where
  keys : s.appliedByTask.keys.Nodup
  /-- A result is pending until its task has its action. -/
  rows : ∀ resultId row, s.results.get resultId = some row →
    (row.applyStatus = .pending ∧ s.appliedByTask.get row.result.taskId = none) ∨
      (row.applyStatus = .applied ∧ ∃ a, s.appliedByTask.get row.result.taskId = some a ∧
        a.resultId = resultId)
  actions : ∀ id a, s.appliedByTask.get id = some a → ∃ record row, AppliedFrom s id a record row
  events : ∀ e ∈ s.events, e.eventType ≠ "result_rejected"

theorem applications_empty : Applications {} :=
  ⟨List.nodup_nil, by simp, by simp, by simp⟩

/-- The actions that were applied stay. -/
def KeepsApplied (s t : ArenaCore) : Prop :=
  ∀ id a, s.appliedByTask.get id = some a → t.appliedByTask.get id = some a

/-- A later repository has the same action from the same result. -/
theorem AppliedFrom.keeps {id : String} {a : AppliedArenaAction} {record : ArenaTaskRecord}
    {row : ArenaResultRecord} (h : AppliedFrom s id a record row) (hg : Grows s t)
    (hk : Keeps s t) : ∃ record' row', AppliedFrom t id a record' row' := by
  obtain ⟨record', hrecord', htask⟩ := hg.tasks id record h.stored
  obtain ⟨row', hrow', hresult, _⟩ := hk.rows _ row h.found
  refine ⟨record', row', h.task, hrecord', hk.links _ _ h.authoritative, hrow', ?_, ?_⟩
  · rw [htask, hresult]
    exact h.outcome
  · rw [htask, hresult]
    exact h.action

theorem events_appendEvent {taskId eventType : String} {now : UtcDateTime}
    {data : List (String × Value)} (h : ∀ e ∈ s.events, e.eventType ≠ "result_rejected")
    (hother : eventType ≠ "result_rejected") :
    ∀ e ∈ (s.appendEvent taskId eventType now data).events, e.eventType ≠ "result_rejected" := by
  intro e he
  rcases List.mem_append.mp he with he | he
  · exact h e he
  · obtain rfl := List.mem_singleton.mp he
    exact hother

/-- A task without a result has no action. -/
theorem Applications.none_of_open (h : Applications s) {record : ArenaTaskRecord}
    (hopen : Open s record) : s.appliedByTask.get record.task.taskId = none := by
  refine Option.eq_none_iff_forall_ne_some.mpr fun a ha => ?_
  obtain ⟨_, _, hfrom⟩ := h.actions _ a ha
  have hlink := hfrom.authoritative
  rw [hopen.unanswered] at hlink
  cases hlink

/-- A new result is pending. -/
theorem Applications.close (h : Applications s) {record : ArenaTaskRecord} {status : TaskStatus}
    {now : UtcDateTime} {row : ArenaResultRecord} {eventType : String}
    {data : List (String × Value)} (hopen : Open s record)
    (hnames : row.result.taskId = record.task.taskId) (hpending : row.applyStatus = .pending)
    (hfresh : s.results.get row.result.resultId = none) (hother : eventType ≠ "result_rejected") :
    Applications ((s.closeTask record status now row).appendEvent record.task.taskId eventType now
      data) := by
  have hmoves : Moves s ((s.closeTask record status now row).appendEvent record.task.taskId
      eventType now data) :=
    (Moves.close ⟨record, hopen.stored, rfl⟩).trans (moves_appendEvent _ _ _ _ _)
  refine ⟨h.keys, ?_, ?_, events_appendEvent h.events hother⟩
  · intro resultId found hfound
    refine Dict.of_get_set hfound ?_ fun _ hold => h.rows resultId found hold
    rintro rfl rfl
    refine Or.inl ⟨hpending, ?_⟩
    rw [hnames]
    exact h.none_of_open hopen
  · intro id a ha
    obtain ⟨old, oldRow, hfrom⟩ := h.actions id a ha
    exact hfrom.keeps hmoves.grows (keeps_close hopen hfresh)

/-- The action of a pending result. -/
theorem Applications.apply (h : Applications s) (hs : Settled H s) {resultId : String}
    {row : ArenaResultRecord} {record : ArenaTaskRecord} (hready : Pending s resultId row record)
    (now : UtcDateTime) :
    Applications { s with
      results := s.results.set resultId
        (appliedRow row now (deriveApplication record.task row.result).rejectionReason)
      appliedByTask := s.appliedByTask.set record.task.taskId
        (appliedOf record row (deriveApplication record.task row.result) resultId now) } := by
  have hid : record.task.taskId = row.result.taskId := hs.consistent.taskId_of_get hready.stored
  have howned := hs.owned resultId row hready.found
  refine ⟨Dict.nodup_keys_set h.keys _ _, ?_, ?_, h.events⟩
  · intro rid found hfound
    refine Dict.of_get_set hfound ?_ fun hne hold => ?_
    · rintro rfl rfl
      refine Or.inr ⟨rfl, appliedOf record row (deriveApplication record.task row.result) rid now,
        ?_, rfl⟩
      show (s.appliedByTask.set record.task.taskId _).get row.result.taskId = _
      rw [← hid]
      exact Dict.get_set_self _ _ _
    · -- another result is the result of another task
      have hother : found.result.taskId ≠ record.task.taskId := by
        intro htask
        have hfoundOwned := hs.owned rid found hold
        rw [htask, hid, howned] at hfoundOwned
        exact hne (Option.some.inj hfoundOwned).symm
      show (_ ∧ (s.appliedByTask.set _ _).get found.result.taskId = none) ∨
        (_ ∧ ∃ a, (s.appliedByTask.set _ _).get found.result.taskId = some a ∧ _)
      rw [Dict.get_set_ne _ _ hother]
      exact h.rows rid found hold
  · intro id a ha
    refine Dict.of_get_set ha ?_ fun _ hold => ?_
    · rintro rfl rfl
      exact ⟨record, appliedRow row now (deriveApplication record.task row.result).rejectionReason,
        rfl, hid ▸ hready.stored, hid ▸ howned, Dict.get_set_self _ _ _, rfl, rfl⟩
    · obtain ⟨old, oldRow, hfrom⟩ := h.actions id a hold
      exact hfrom.keeps ⟨fun _ h => h, fun _ record h => ⟨record, h, rfl⟩⟩
        (keeps_mark hready.found _ _ _)

/-- A pending result belongs to a task without an action. -/
theorem Applications.none_of_pending (h : Applications s) (hs : Settled H s) {resultId : String}
    {row : ArenaResultRecord} {record : ArenaTaskRecord} (hready : Pending s resultId row record) :
    s.appliedByTask.get record.task.taskId = none := by
  rw [hs.consistent.taskId_of_get hready.stored]
  rcases h.rows resultId row hready.found with ⟨_, hnone⟩ | ⟨happlied, _⟩
  · exact hnone
  · rw [hready.pending] at happlied
    cases happlied

theorem Step.applications (hstep : Step H s t) (h : Applications s) (hs : Settled H s)
    (hd : Distinguishes H s) : Applications t ∧ KeepsApplied s t := by
  have hkeeps := (hstep.settled hs hd).2
  have hgrows := hstep.moves.grows
  have hactions : ∀ id a, s.appliedByTask.get id = some a →
      ∃ record row, AppliedFrom t id a record row := by
    intro id a ha
    obtain ⟨record, row, hfrom⟩ := h.actions id a ha
    exact hfrom.keeps hgrows hkeeps
  cases hstep with
  | create record hfresh hqueued keys =>
      exact ⟨⟨h.keys, h.rows, hactions, h.events⟩, fun _ _ ha => ha⟩
  | write hwrite =>
    cases hwrite with
    | event taskId eventType now data hside =>
        have hother : eventType ≠ "result_rejected" := by
          rintro rfl
          simp [sideEvents] at hside
        exact ⟨⟨h.keys, h.rows, hactions, events_appendEvent h.events hother⟩, fun _ _ ha => ha⟩
    | submit hopen htask hnew hearly messageReplaced policyVersion data =>
        rw [htask]
        exact ⟨h.close hopen htask rfl hnew (by decide), fun _ _ ha => ha⟩
    | default hopen hlate =>
        exact ⟨h.close hopen rfl rfl (hs.timeout_fresh hd hopen) (by decide), fun _ _ ha => ha⟩
    | again hready hexisting hsame now =>
        rw [h.none_of_pending hs hready] at hexisting
        cases hexisting
    | apply hready hnone now =>
        exact ⟨h.apply hs hready now, fun _ _ ha => Dict.get_set_fresh _ hnone ha⟩

theorem Steps.applications (hsteps : Steps H s t) (h : Applications s) (hs : Settled H s)
    (hd : Distinguishes H t) : Applications t ∧ KeepsApplied s t := by
  induction hsteps with
  | refl => exact ⟨h, fun _ _ ha => ha⟩
  | tail hsteps hstep ih =>
      have hdu := hd.back hstep.moves
      obtain ⟨happlied, hkeeps⟩ := ih hdu
      have hsettled := (Steps.settled hsteps hs hdu).1
      obtain ⟨happlied', hkeeps'⟩ := hstep.applications happlied hsettled hdu
      exact ⟨happlied', fun id a ha => hkeeps' id a (hkeeps id a ha)⟩

/-! ### What `apply_result` answers -/

/-- A stored result has its task. -/
theorem Settled.task_of_result (hs : Settled H s) {resultId : String} {row : ArenaResultRecord}
    (hrow : s.results.get resultId = some row) :
    ∃ record, s.tasks.get row.result.taskId = some record := by
  obtain ⟨record, _, hanswer⟩ := hs.answers _ _ (hs.owned resultId row hrow)
  exact ⟨record, hanswer.stored⟩

/-- A result that is not there raises, one that was applied is left alone, and a pending one
    gives its task the action. -/
theorem Applications.applyResult_cases (h : Applications s) (hs : Settled H s) (resultId : String)
    (now : UtcDateTime) :
    (s.results.get resultId = none ∧
      s.applyResult resultId now = .error (.resultConflict "Arena result does not exist")) ∨
    ((∃ row, s.results.get resultId = some row ∧ row.applyStatus = .applied) ∧
      s.applyResult resultId now = .ok (s, none)) ∨
    ∃ row record t a, Pending s resultId row record ∧
      s.applyResult resultId now = .ok (t, some a) ∧
      t.results = s.results.set resultId
        (appliedRow row now (deriveApplication record.task row.result).rejectionReason) := by
  unfold applyResult
  split
  · rename_i hnone
    exact Or.inl ⟨hnone, rfl⟩
  · rename_i row hrow
    split
    · rename_i hended
      refine Or.inr (Or.inl ⟨⟨row, hrow, ?_⟩, rfl⟩)
      rcases h.rows resultId row hrow with ⟨hpending, _⟩ | ⟨happlied, _⟩
      · exact absurd hpending hended
      · exact happlied
    · rename_i hpending
      obtain ⟨record, hrecord⟩ := hs.task_of_result hrow
      have hready : Pending s resultId row record := ⟨hrow, not_not.mp hpending, hrecord⟩
      rw [hrecord]
      dsimp only
      rw [if_neg (by simp [deriveApplication_accepted]), h.none_of_pending hs hready]
      exact Or.inr (Or.inr ⟨row, record, _, _, hready, rfl, rfl⟩)

/-- After `apply_result` the result is applied. -/
theorem Applications.applied_of_applyResult (h : Applications s) (hs : Settled H s)
    {resultId : String} {now : UtcDateTime} {applied : Option AppliedArenaAction}
    (happly : s.applyResult resultId now = .ok (t, applied)) :
    ∃ row, t.results.get resultId = some row ∧ row.applyStatus = .applied := by
  rcases h.applyResult_cases hs resultId now with ⟨_, hraise⟩ | ⟨hended, hsame⟩ |
    ⟨row, record, t', a, _, hnew, hresults⟩
  · rw [hraise] at happly
    cases happly
  · rw [hsame] at happly
    cases happly
    exact hended
  · rw [hnew] at happly
    cases happly
    exact ⟨_, hresults ▸ Dict.get_set_self _ _ _, rfl⟩

/-- A result that was applied stays applied. -/
theorem Applications.applied_later (h : Applications s) (ht : Applications t)
    (hk : Keeps s t) (hka : KeepsApplied s t) {resultId : String} {row : ArenaResultRecord}
    (hrow : s.results.get resultId = some row) (happlied : row.applyStatus = .applied) :
    ∃ row', t.results.get resultId = some row' ∧ row'.applyStatus = .applied := by
  obtain ⟨row', hrow', hresult, _⟩ := hk.rows resultId row hrow
  refine ⟨row', hrow', ?_⟩
  rcases h.rows resultId row hrow with ⟨hpending, _⟩ | ⟨_, a, ha, _⟩
  · rw [happlied] at hpending
    cases hpending
  · rcases ht.rows resultId row' hrow' with ⟨_, hnone⟩ | ⟨happlied', _⟩
    · rw [hresult, hka _ a ha] at hnone
      cases hnone
    · exact happlied'

/-- An applied result is left alone. -/
theorem applyResult_of_applied {resultId : String} {row : ArenaResultRecord}
    (hrow : s.results.get resultId = some row) (happlied : row.applyStatus = .applied)
    (now : UtcDateTime) : s.applyResult resultId now = .ok (s, none) := by
  unfold applyResult
  rw [hrow]
  dsimp only
  rw [if_pos (by simp [happlied])]

/-! ### Runs -/

theorem settled_operates (l : List CoreOp) (hd : Distinguishes H (operates T H {} l)) :
    Settled H (operates T H {} l) ∧ Applications (operates T H {} l) := by
  have hsteps : Steps H {} (operates T H {} l) := steps_operates l {} consistent_empty
  exact ⟨(hsteps.settled (settled_empty H) hd).1,
    (Steps.applications hsteps applications_empty (settled_empty H) hd).1⟩

/-- **A task has at most one applied action, which is what its own result projects to and is
    never changed; `apply_result` raises for a result that is not stored and for nothing else,
    and never rejects; and once it returned for a result, every later call for that result
    returns nothing and changes nothing.** -/
theorem results_apply_once (T : TextTables) (H : Hashes) (ops : List CoreOp)
    (hd : Distinguishes H (operates T H {} ops)) :
    let s := operates T H {} ops
    s.appliedByTask.keys.Nodup ∧
    (∀ id a, s.appliedByTask.get id = some a → ∃ record row, AppliedFrom s id a record row) ∧
    (∀ before later, ops = before ++ later → KeepsApplied (operates T H {} before) s) ∧
    (∀ resultId now e, s.applyResult resultId now = .error e →
      e = .resultConflict "Arena result does not exist" ∧ s.results.get resultId = none) ∧
    ((∀ resultId row, s.results.get resultId = some row → row.applyStatus ≠ .rejected) ∧
      ∀ e ∈ s.events, e.eventType ≠ "result_rejected") ∧
    (∀ resultId now t applied, s.applyResult resultId now = .ok (t, applied) →
      ∀ later, Distinguishes H (t.operates T H later) → ∀ now',
        (t.operates T H later).applyResult resultId now' = .ok (t.operates T H later, none)) := by
  intro s
  obtain ⟨hs, happlied⟩ := settled_operates ops hd
  refine ⟨happlied.keys, happlied.actions, ?_, ?_, ⟨?_, happlied.events⟩, ?_⟩
  · rintro before later rfl
    have hrun : s = (operates T H {} before).operates T H later := List.foldl_append
    have hbefore : Steps H {} (operates T H {} before) :=
      steps_operates before {} consistent_empty
    have hsteps : Steps H (operates T H {} before) s := by
      rw [hrun]
      exact steps_operates later _ (steps_consistent hbefore consistent_empty)
    obtain ⟨hmid, hmidApplied⟩ := settled_operates before (hd.back hsteps.moves)
    exact (Steps.applications hsteps hmidApplied hmid hd).2
  · intro resultId now e herror
    rcases happlied.applyResult_cases hs resultId now with ⟨hnone, hraise⟩ | ⟨_, hsame⟩ |
      ⟨_, _, _, _, _, hnew, _⟩
    · rw [hraise] at herror
      exact ⟨(Except.error.inj herror).symm, hnone⟩
    · rw [hsame] at herror
      cases herror
    · rw [hnew] at herror
      cases herror
  · intro resultId row hrow hrejected
    rcases happlied.rows resultId row hrow with ⟨hpending, _⟩ | ⟨hdone, _⟩
    · rw [hrejected] at hpending
      cases hpending
    · rw [hrejected] at hdone
      cases hdone
  · intro resultId now t applied happly later hdlater now'
    obtain ⟨row, hrow, hdone⟩ := happlied.applied_of_applyResult hs happly
    have hfirst : Steps H s t := (writes_applyResult happly).steps
    have hmore : Steps H t (t.operates T H later) :=
      steps_operates later t (steps_consistent hfirst hs.consistent)
    have hdt : Distinguishes H t := hdlater.back hmore.moves
    obtain ⟨ht, _⟩ := hfirst.settled hs hdt
    obtain ⟨htApplied, _⟩ := Steps.applications hfirst happlied hs hdt
    obtain ⟨_, hkeeps⟩ := hmore.settled ht hdlater
    obtain ⟨hlast, hkeepsApplied⟩ := Steps.applications hmore htApplied ht hdlater
    obtain ⟨row', hrow', hdone'⟩ := htApplied.applied_later hlast hkeeps hkeepsApplied hrow hdone
    exact applyResult_of_applied hrow' hdone' now'

namespace Race

open Messages

/-- Both tasks end, and a consumer applies their results; another process applies the first one
    while the consumer works. -/
def consumed : List CoreOp :=
  race.map .call ++ [.consumePending 10
    [([.applyResult ("default:" ++ digests.text "a") 70], 71), ([], 72)]]

theorem consumed_keys : (operates tables digests {} consumed).tasks.keys = ["own", "a"] ∧
    (operates tables digests {} consumed).appliedByTask.keys = ["a", "own"] := by
  decide +kernel

theorem distinguishes_consumed : Distinguishes digests (operates tables digests {} consumed) :=
  distinguishes_of_keys consumed_keys.1

end Race

/-- Both actions are there, and applying a result again changes nothing. -/
theorem results_apply_once_race :
    (operates Messages.tables Race.digests {} Race.consumed).appliedByTask.keys = ["a", "own"] ∧
    Distinguishes Race.digests (operates Messages.tables Race.digests {} Race.consumed) ∧
    KeepsApplied {} (operates Messages.tables Race.digests {} Race.consumed) ∧
    ∀ resultId row,
      (operates Messages.tables Race.digests {} Race.consumed).results.get resultId = some row →
      row.applyStatus ≠ .rejected := by
  obtain ⟨_, _, hkeeps, _, ⟨hrows, _⟩, _⟩ := results_apply_once Messages.tables Race.digests
    Race.consumed Race.distinguishes_consumed
  exact ⟨Race.consumed_keys.2, Race.distinguishes_consumed, hkeeps [] Race.consumed rfl, hrows⟩

end ArenaCore

end Arena402
