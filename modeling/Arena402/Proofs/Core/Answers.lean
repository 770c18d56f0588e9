/-
A task has one authoritative result.

Once a task names a result it keeps naming it, whatever is submitted, finalized or applied
afterwards, and a result of the Runtime gets an id that no result had before.  `Answers` says
what such calls keep, and it composes, so it holds between any two states of the tables.
-/
import Arena402.Proofs.Core.Steps

namespace Arena402

open Py

variable {T : TextTables} {H : Hashes}

namespace ArenaCore

variable {s t u : ArenaCore}

/-- Every result is stored under its own id. -/
def Named (s : ArenaCore) : Prop :=
  ∀ id row, s.results.get id = some row → row.result.resultId = id

/-- What calls that bring or apply results keep. -/
structure Answers (s t : ArenaCore) : Prop where
  keys : t.taskByIdempotency = s.taskByIdempotency
  tasks : ∀ id record, s.tasks.get id = some record →
    ∃ record', t.tasks.get id = some record' ∧ record'.task = record.task ∧
      record'.configHash = record.configHash
  noTask : ∀ id, s.tasks.get id = none → t.tasks.get id = none
  stable : ∀ id resultId, s.resultByTask.get id = some resultId →
    t.resultByTask.get id = some resultId
  linked : ∀ id resultId, t.resultByTask.get id = some resultId →
    s.resultByTask.get id = some resultId ∨ (s.tasks.get id).isSome
  rows : ∀ resultId, (s.results.get resultId).isSome → (t.results.get resultId).isSome
  named : Named s → Named t
  /-- A result with an action is new, or was there with its task. -/
  fresh : ∀ id resultId row, t.resultByTask.get id = some resultId →
    t.results.get resultId = some row → row.result.status = .succeeded →
    s.results.get resultId = none ∨ s.resultByTask.get id = some resultId ∧
      ∃ old, s.results.get resultId = some old ∧ old.result = row.result

theorem Answers.refl (s : ArenaCore) : Answers s s where
  keys := rfl
  tasks := fun _ record h => ⟨record, h, rfl, rfl⟩
  noTask := fun _ h => h
  stable := fun _ _ h => h
  linked := fun _ _ h => Or.inl h
  rows := fun _ h => h
  named := fun h => h
  fresh := fun _ _ row h hrow _ => Or.inr ⟨h, row, hrow, rfl⟩

theorem Answers.trans (h : Answers s t) (h' : Answers t u) : Answers s u where
  keys := h'.keys.trans h.keys
  tasks := by
    intro id record hrecord
    obtain ⟨record', hrecord', htask, hconfig⟩ := h.tasks id record hrecord
    obtain ⟨record'', hrecord'', htask', hconfig'⟩ := h'.tasks id record' hrecord'
    exact ⟨record'', hrecord'', htask'.trans htask, hconfig'.trans hconfig⟩
  noTask := fun id hid => h'.noTask id (h.noTask id hid)
  stable := fun id resultId hid => h'.stable id resultId (h.stable id resultId hid)
  linked := by
    intro id resultId hid
    rcases h'.linked id resultId hid with hold | hsome
    · exact h.linked id resultId hold
    · refine Or.inr ?_
      by_contra hnone
      rw [h.noTask id (Option.not_isSome_iff_eq_none.mp hnone)] at hsome
      cases hsome
  rows := fun resultId hrow => h'.rows resultId (h.rows resultId hrow)
  named := fun hn => h'.named (h.named hn)
  fresh := by
    intro id resultId row hid hrow hstatus
    rcases h'.fresh id resultId row hid hrow hstatus with hnone | ⟨hold, old, hget, hsame⟩
    · refine Or.inl ?_
      by_contra hsome
      have hlater := h.rows resultId (Option.ne_none_iff_isSome.mp hsome)
      rw [hnone] at hlater
      cases hlater
    · rcases h.fresh id resultId old hold hget (by rw [hsame]; exact hstatus) with
        hnone | ⟨hfirst, old', hget', hsame'⟩
      · exact Or.inl hnone
      · exact Or.inr ⟨hfirst, old', hget', hsame'.trans hsame⟩

theorem answers_appendEvent (s : ArenaCore) (taskId eventType : String) (now : UtcDateTime)
    (data : List (String × Value)) : Answers s (s.appendEvent taskId eventType now data) :=
  { Answers.refl s with }

/-- A task that is closed for the first time, by a timeout or by a new result. -/
theorem answers_closeTask {record : ArenaTaskRecord} {status : TaskStatus} {now : UtcDateTime}
    {row : ArenaResultRecord} (htask : s.tasks.get record.task.taskId = some record)
    (hopen : s.resultByTask.get record.task.taskId = none)
    (hnew : row.result.status ≠ .succeeded ∨ s.results.get row.result.resultId = none) :
    Answers s (s.closeTask record status now row) where
  keys := rfl
  tasks := by
    intro id old hold
    by_cases hid : id = record.task.taskId
    · rw [hid, htask] at hold
      obtain rfl := Option.some.inj hold
      rw [hid]
      exact ⟨_, Dict.get_set_self _ _ _, rfl, rfl⟩
    · exact ⟨old, (Dict.get_set_ne _ _ hid).trans hold, rfl, rfl⟩
  noTask := by
    intro id hnone
    have hid : id ≠ record.task.taskId := by
      rintro rfl
      rw [htask] at hnone
      cases hnone
    exact (Dict.get_set_ne _ _ hid).trans hnone
  stable := by
    intro id resultId hold
    have hid : id ≠ record.task.taskId := by
      rintro rfl
      rw [hopen] at hold
      cases hold
    exact (Dict.get_set_ne _ _ hid).trans hold
  linked := by
    intro id resultId hnew
    by_cases hid : id = record.task.taskId
    · rw [hid, htask]
      exact Or.inr rfl
    · exact Or.inl ((Dict.get_set_ne _ _ hid).symm.trans hnew)
  rows := fun resultId hrow => Dict.isSome_get_set _ _ _ hrow
  named := by
    intro hn id found hfound
    have hrows : (s.results.set row.result.resultId row).get id = some found := hfound
    by_cases hid : id = row.result.resultId
    · rw [hid, Dict.get_set_self] at hrows
      obtain rfl := Option.some.inj hrows
      exact hid.symm
    · rw [Dict.get_set_ne _ _ hid] at hrows
      exact hn id found hrows
  fresh := by
    intro id resultId found hlink hfound hstatus
    have hrows : (s.results.set row.result.resultId row).get resultId = some found := hfound
    by_cases hsame : resultId = row.result.resultId
    · rw [hsame, Dict.get_set_self] at hrows
      obtain rfl := Option.some.inj hrows
      rcases hnew with hne | hnone
      · exact absurd hstatus hne
      · rw [hsame]
        exact Or.inl hnone
    · rw [Dict.get_set_ne _ _ hsame] at hrows
      have hid : id ≠ record.task.taskId := by
        rintro rfl
        have hset : (s.resultByTask.set record.task.taskId row.result.resultId).get
            record.task.taskId = some resultId := hlink
        rw [Dict.get_set_self] at hset
        exact hsame (Option.some.inj hset).symm
      exact Or.inr ⟨(Dict.get_set_ne _ _ hid).symm.trans hlink, found, hrows, rfl⟩

/-- Applying a result keeps what it says. -/
theorem answers_setResult {resultId : String} {row row' : ArenaResultRecord}
    (hrow : s.results.get resultId = some row)
    (ht : t.tasks = s.tasks ∧ t.taskByIdempotency = s.taskByIdempotency ∧
      t.resultByTask = s.resultByTask ∧ t.results = s.results.set resultId row')
    (hsame : row'.result = row.result) : Answers s t := by
  obtain ⟨htasks, hkeys, hby, hresults⟩ := ht
  refine
    { keys := hkeys
      tasks := fun id record h => ⟨record, by rw [htasks]; exact h, rfl, rfl⟩
      noTask := fun id h => by rw [htasks]; exact h
      stable := fun id rid h => by rw [hby]; exact h
      linked := fun id rid h => Or.inl (by rw [← hby]; exact h)
      rows := fun rid h => by rw [hresults]; exact Dict.isSome_get_set _ _ _ h
      named := ?_
      fresh := ?_ }
  · intro hn rid found hfound
    rw [hresults] at hfound
    by_cases hid : rid = resultId
    · rw [hid, Dict.get_set_self] at hfound
      obtain rfl := Option.some.inj hfound
      rw [hsame, hid]
      exact hn resultId row hrow
    · rw [Dict.get_set_ne _ _ hid] at hfound
      exact hn rid found hfound
  intro id rid found hlink hfound hstatus
  rw [hby] at hlink
  rw [hresults] at hfound
  by_cases hid : rid = resultId
  · rw [hid, Dict.get_set_self] at hfound
    obtain rfl := Option.some.inj hfound
    refine Or.inr ⟨hlink, row, ?_, hsame.symm⟩
    rw [hid]
    exact hrow
  · rw [Dict.get_set_ne _ _ hid] at hfound
    exact Or.inr ⟨hlink, found, hfound, rfl⟩

/-- **What is written about results keeps the answers.** -/
theorem Write.answers (h : Write H s t) : Answers s t := by
  cases h with
  | event => exact answers_appendEvent _ _ _ _ _
  | submit hopen htask hnew =>
      exact (answers_closeTask hopen.stored hopen.unanswered (Or.inr hnew)).trans
        (answers_appendEvent _ _ _ _ _)
  | default hopen =>
      refine (answers_closeTask hopen.stored hopen.unanswered (Or.inl ?_)).trans
        (answers_appendEvent _ _ _ _ _)
      simp [timeoutResult]
  | again hpending | apply hpending => exact answers_setResult hpending.found ⟨rfl, rfl, rfl, rfl⟩ rfl

theorem Writes.answers (h : Writes H s t) : Answers s t := by
  induction h with
  | refl => exact Answers.refl s
  | tail _ hwrite ih => exact ih.trans hwrite.answers

end ArenaCore

end Arena402
