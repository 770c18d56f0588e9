/-
Recovery of a staged event.

Recovery encodes an event that was decoded before, and the file of the outbox was written from
the original.  The two agree byte for byte exactly when every text of the event is valid UTF-8:
an invalid byte is written as six characters the first time and as three bytes after it was
read back.  So a crash between the write of the outbox and the clearing of the staged event
leaves an event that can never be recovered when a runtime printed such a byte.
-/
import Arena402.Connector.Events

namespace Arena402.Connector

open Py Go

/-! ### Encoding what was read back -/

theorem rereadString_eq (s : Bytes) : rereadString s = repaired s := by
  rw [rereadString, decodeString_encodeString]
  rfl

theorem isEmpty_rereadString (s : Bytes) : (rereadString s).isEmpty = s.isEmpty := by
  rw [rereadString_eq, Bool.eq_iff_iff, List.isEmpty_iff, List.isEmpty_iff]
  exact repaired_eq_nil_iff s

mutual

/-- The texts of a value. -/
def Value.texts : Value → List Bytes
  | .str s => [s]
  | .list items => textsOfItems items
  | .map entries => textsOfEntries entries
  | _ => []

def textsOfItems : List Value → List Bytes
  | [] => []
  | v :: rest => v.texts ++ textsOfItems rest

def textsOfEntries : List (String × Value) → List Bytes
  | [] => []
  | (_, v) :: rest => v.texts ++ textsOfEntries rest

end

/-- The texts of an event. -/
def RuntimeEvent.texts (e : RuntimeEvent) : List Bytes :=
  [e.eventId, e.bindingId, e.runtimeId, e.sessionId, e.taskId, e.type] ++ textsOfEntries e.data

/-- The bad bytes of a list of texts. -/
def badTotal (texts : List Bytes) : Nat :=
  (texts.map badCount).sum

@[simp] theorem badTotal_nil : badTotal [] = 0 := rfl

@[simp] theorem badTotal_cons (s : Bytes) (rest : List Bytes) :
    badTotal (s :: rest) = badCount s + badTotal rest := rfl

@[simp] theorem badTotal_append (l l' : List Bytes) :
    badTotal (l ++ l') = badTotal l + badTotal l' := by
  simp [badTotal]

theorem badTotal_eq_zero_iff (texts : List Bytes) :
    badTotal texts = 0 ↔ ∀ s ∈ texts, s.toByteArray.IsValidUTF8 := by
  induction texts with
  | nil => simp
  | cons s rest ih =>
      rw [badTotal_cons, Nat.add_eq_zero_iff, badCount_eq_zero_iff, ih, List.forall_mem_cons]

theorem length_encodeString_reread (s : Bytes) :
    (encodeString s).length = (encodeString (rereadString s)).length + 3 * badCount s := by
  rw [rereadString_eq]
  exact length_encodeString s

theorem encodeString_reread {s : Bytes} (h : badCount s = 0) :
    encodeString (rereadString s) = encodeString s := by
  rw [rereadString_eq]
  exact encodeString_of_valid h

theorem isEmpty_rereadItems (items : List Value) : (rereadItems items).isEmpty = items.isEmpty := by
  cases items with
  | nil => rfl
  | cons v rest => rfl

theorem isEmpty_rereadEntries (entries : List (String × Value)) :
    (rereadEntries entries).isEmpty = entries.isEmpty := by
  cases entries with
  | nil => rfl
  | cons entry rest => rfl

mutual

/-- Each bad byte of a value takes three bytes more the first time. -/
theorem Value.length_encode : ∀ v : Value,
    v.encode.length = v.reread.encode.length + 3 * badTotal v.texts
  | .null => rfl
  | .bool b => rfl
  | .number text => rfl
  | .str s => by
      simp only [Value.encode, Value.reread, Value.texts, badTotal_cons, badTotal_nil,
        Nat.add_zero]
      exact length_encodeString_reread s
  | .list items => by
      have ih := length_encodeItems items
      simp only [Value.encode, Value.reread, Value.texts, List.length_cons, List.length_append,
        List.length_nil]
      omega
  | .map entries => by
      have ih := length_encodeEntries entries
      simp only [Value.encode, Value.reread, Value.texts, List.length_cons, List.length_append,
        List.length_nil]
      omega

theorem length_encodeItems : ∀ items : List Value,
    (encodeItems items).length
      = (encodeItems (rereadItems items)).length + 3 * badTotal (textsOfItems items)
  | [] => rfl
  | v :: rest => by
      have ih := Value.length_encode v
      have ihrest := length_encodeItems rest
      simp only [encodeItems, rereadItems, textsOfItems, badTotal_append, List.length_append,
        isEmpty_rereadItems]
      by_cases hempty : rest.isEmpty = true
      · rw [List.isEmpty_iff.mp hempty]
        simp only [List.isEmpty_nil, if_true, List.length_nil, textsOfItems, badTotal_nil]
        omega
      · simp only [hempty, if_false, List.length_cons, Bool.false_eq_true]
        omega

theorem length_encodeEntries : ∀ entries : List (String × Value),
    (encodeEntries entries).length
      = (encodeEntries (rereadEntries entries)).length + 3 * badTotal (textsOfEntries entries)
  | [] => rfl
  | (key, v) :: rest => by
      have ih := Value.length_encode v
      have ihrest := length_encodeEntries rest
      simp only [encodeEntries, rereadEntries, textsOfEntries, badTotal_append, List.length_append,
        List.length_cons, isEmpty_rereadEntries]
      by_cases hempty : rest.isEmpty = true
      · rw [List.isEmpty_iff.mp hempty]
        simp only [List.isEmpty_nil, if_true, List.length_nil, textsOfEntries, badTotal_nil]
        omega
      · simp only [hempty, if_false, List.length_cons, Bool.false_eq_true]
        omega

end

mutual

/-- A value without bad bytes is written the same way after it was read back. -/
theorem Value.encode_reread : ∀ v : Value, badTotal v.texts = 0 → v.reread.encode = v.encode
  | .null, _ => rfl
  | .bool _, _ => rfl
  | .number _, _ => rfl
  | .str s, h => by
      simp only [Value.encode, Value.reread]
      exact encodeString_reread (by simpa [Value.texts] using h)
  | .list items, h => by
      simp only [Value.encode, Value.reread]
      rw [encodeItems_reread items h]
  | .map entries, h => by
      simp only [Value.encode, Value.reread]
      rw [encodeEntries_reread entries h]

theorem encodeItems_reread : ∀ items : List Value, badTotal (textsOfItems items) = 0 →
    encodeItems (rereadItems items) = encodeItems items
  | [], _ => rfl
  | v :: rest, h => by
      simp only [textsOfItems, badTotal_append, Nat.add_eq_zero_iff] at h
      simp only [encodeItems, rereadItems, isEmpty_rereadItems]
      rw [Value.encode_reread v h.1, encodeItems_reread rest h.2]

theorem encodeEntries_reread : ∀ entries : List (String × Value),
    badTotal (textsOfEntries entries) = 0 →
    encodeEntries (rereadEntries entries) = encodeEntries entries
  | [], _ => rfl
  | (key, v) :: rest, h => by
      simp only [textsOfEntries, badTotal_append, Nat.add_eq_zero_iff] at h
      simp only [encodeEntries, rereadEntries, isEmpty_rereadEntries]
      rw [Value.encode_reread v h.1, encodeEntries_reread rest h.2]

end

theorem length_field (name : String) (s : Bytes) :
    (field name (encodeString s)).length
      = (field name (encodeString (rereadString s))).length + 3 * badCount s := by
  have h := length_encodeString_reread s
  simp only [field, List.length_append]
  omega

theorem length_optionalText (name : String) (s : Bytes) :
    (optionalField name s.isEmpty (encodeString s)).length
      = (optionalField name (rereadString s).isEmpty (encodeString (rereadString s))).length
        + 3 * badCount s := by
  rw [isEmpty_rereadString]
  unfold optionalField
  by_cases hempty : s.isEmpty = true
  · rw [if_pos hempty, if_pos hempty, List.isEmpty_iff.mp hempty]
    rfl
  · rw [if_neg hempty, if_neg hempty]
    exact length_field name s

theorem length_optionalData (name : String) (data : List (String × Value)) :
    (optionalField name data.isEmpty (Value.encode (.map data))).length
      = (optionalField name (rereadEntries data).isEmpty
          (Value.encode (.map (rereadEntries data)))).length
        + 3 * badTotal (textsOfEntries data) := by
  rw [isEmpty_rereadEntries]
  unfold optionalField
  by_cases hempty : data.isEmpty = true
  · rw [if_pos hempty, if_pos hempty, List.isEmpty_iff.mp hempty]
    rfl
  · rw [if_neg hempty, if_neg hempty]
    have h := Value.length_encode (.map data)
    simp only [Value.reread, Value.texts] at h
    simp only [field, List.length_append]
    omega

theorem RuntimeEvent.length_encode (e : RuntimeEvent) :
    e.encode.length = e.reread.encode.length + 3 * badTotal e.texts := by
  have hid := length_encodeString_reread e.eventId
  have hbinding := length_optionalText "binding_id" e.bindingId
  have hruntime := length_field "runtime_id" e.runtimeId
  have hsession := length_field "session_id" e.sessionId
  have htask := length_optionalText "task_id" e.taskId
  have htype := length_field "type" e.type
  have hdata := length_optionalData "data" e.data
  simp only [RuntimeEvent.encode, RuntimeEvent.reread, RuntimeEvent.texts, List.length_append,
    badTotal_append, badTotal_cons, badTotal_nil]
  omega

theorem RuntimeEvent.encode_reread {e : RuntimeEvent} (h : badTotal e.texts = 0) :
    e.reread.encode = e.encode := by
  simp only [RuntimeEvent.texts, badTotal_append, badTotal_cons, badTotal_nil,
    Nat.add_eq_zero_iff] at h
  obtain ⟨⟨hid, hbinding, hruntime, hsession, htask, htype, -⟩, hdata⟩ := h
  have hmap : Value.encode (.map (rereadEntries e.data)) = Value.encode (.map e.data) :=
    Value.encode_reread (.map e.data) hdata
  unfold RuntimeEvent.encode RuntimeEvent.reread
  simp only [encodeString_reread hid, encodeString_reread hbinding, encodeString_reread hruntime,
    encodeString_reread hsession, encodeString_reread htask, encodeString_reread htype, hmap,
    isEmpty_rereadString, isEmpty_rereadEntries]

/-- Every text of an event is valid UTF-8. -/
def RuntimeEvent.ValidText (e : RuntimeEvent) : Prop :=
  ∀ s ∈ e.texts, s.toByteArray.IsValidUTF8

/-- **An event is written the same way after it was read back exactly when its texts are valid
    UTF-8.** -/
theorem RuntimeEvent.encode_reread_iff (e : RuntimeEvent) :
    e.reread.encode = e.encode ↔ e.ValidText := by
  unfold RuntimeEvent.ValidText
  rw [← badTotal_eq_zero_iff]
  refine ⟨fun h => ?_, RuntimeEvent.encode_reread⟩
  have hlength := e.length_encode
  rw [h] at hlength
  omega

/-! ### The disk -/

namespace Disk

variable {d d' : Disk} {e staged : RuntimeEvent}

/-! ### Recovery -/

/-- What `append` asks of an event: it has a number, and the file of that number is not there or it
    holds the same bytes. -/
def Appendable (d : Disk) (e : RuntimeEvent) : Prop :=
  e.sequence ≠ 0 ∧ ∀ file, d.outbox.get e.sequence = some file → file = e.encode

theorem append_of_appendable (h : d.Appendable e) :
    (append e).run d = .ok () { d with outbox := d.outbox.set e.sequence e.encode } := by
  obtain ⟨hpositive, hfile⟩ := h
  unfold append
  rw [if_neg hpositive, Method.run_get_bind]
  cases hget : d.outbox.get e.sequence with
  | none => rfl
  | some file =>
      have hsame : file = e.encode := hfile file hget
      have hkept : d.outbox.set e.sequence e.encode = d.outbox :=
        Dict.set_get_self (hsame ▸ hget)
      rw [hkept]
      simp only [hsame, ne_eq, not_true_eq_false, if_false]
      rfl

/-- An append that fails writes nothing. -/
theorem append_of_not (h : ¬ d.Appendable e) : ∃ error, (append e).run d = .error error d := by
  unfold append
  by_cases hzero : e.sequence = 0
  · rw [if_pos hzero]
    exact ⟨_, rfl⟩
  · rw [if_neg hzero, Method.run_get_bind]
    cases hget : d.outbox.get e.sequence with
    | none =>
        refine absurd ⟨hzero, fun file hfile => ?_⟩ h
        rw [hget] at hfile
        cases hfile
    | some file =>
        have hother : file ≠ e.encode := by
          intro hsame
          refine h ⟨hzero, fun file' hfile => ?_⟩
          rw [hget] at hfile
          rw [← Option.some.inj hfile, hsame]
        simp only [if_pos hother]
        exact ⟨_, rfl⟩

theorem clearStagedEvent_run {sequence : Nat} (h : d.stagedEvent = some staged)
    (hsequence : staged.sequence = sequence) :
    (clearStagedEvent sequence).run d = .ok () { d with stagedEvent := none } := by
  unfold clearStagedEvent
  rw [Method.run_get_bind]
  simp only [h, hsequence, ne_eq, not_true_eq_false, if_false]
  rfl

/-- The staged event, if there is one, can be written to the outbox as it is read back. -/
def Recoverable (d : Disk) : Prop :=
  ∀ staged, d.stagedEvent = some staged → d.Appendable staged.reread

/-- The disk between the two writes of a recovery. -/
def rewritten (d : Disk) (staged : RuntimeEvent) : Disk :=
  { d with outbox := d.outbox.set staged.sequence staged.reread.encode }

/-- The disk after a recovery that returns. -/
def recovered (d : Disk) (staged : RuntimeEvent) : Disk :=
  { d.rewritten staged with stagedEvent := none }

/-- A recovery that fails changes nothing, so that it fails again after every restart. -/
theorem recover_cases (d : Disk) :
    (d.stagedEvent = none ∧ rewriteStagedEvent.run d = .ok () d ∧
        recoverStagedEvent.run d = .ok () d) ∨
      (∃ staged, d.stagedEvent = some staged ∧ d.Recoverable ∧
        rewriteStagedEvent.run d = .ok () (d.rewritten staged) ∧
        recoverStagedEvent.run d = .ok () (d.recovered staged)) ∨
      (¬ d.Recoverable ∧ ∃ error, rewriteStagedEvent.run d = .error error d ∧
        recoverStagedEvent.run d = .error error d) := by
  unfold rewriteStagedEvent recoverStagedEvent
  simp only [Method.run_get_bind]
  cases h : d.stagedEvent with
  | none => exact Or.inl ⟨rfl, rfl, rfl⟩
  | some staged =>
      right
      simp only
      by_cases hwrite : d.Appendable staged.reread
      · refine Or.inl ⟨staged, rfl, fun staged' h' => ?_, append_of_appendable hwrite, ?_⟩
        · obtain rfl := Option.some.inj (h.symm.trans h')
          exact hwrite
        · rw [Method.run_bind, append_of_appendable hwrite]
          exact clearStagedEvent_run (d := d.rewritten staged) h rfl
      · obtain ⟨error, herror⟩ := append_of_not hwrite
        refine Or.inr ⟨fun hr => hwrite (hr staged h), error, herror, ?_⟩
        rw [Method.run_bind, herror]

/-! ### Histories -/

/-- The numbers of the files and of the staged event have been issued. -/
structure Numbered (d : Disk) : Prop where
  room : d.nextSequence < 2 ^ 64
  files : ∀ n, (d.outbox.get n).isSome → n ≤ d.nextSequence
  distinct : d.outbox.keys.Nodup
  staged : ∀ staged, d.stagedEvent = some staged → staged.sequence ≤ d.nextSequence

theorem numbered_rewritten (hn : d.Numbered) (h : d.stagedEvent = some staged) :
    (d.rewritten staged).Numbered := by
  refine ⟨hn.room, fun n hsome => ?_, Dict.nodup_keys_set hn.distinct _ _, hn.staged⟩
  rw [rewritten, Dict.get_set] at hsome
  by_cases hsame : n = staged.sequence
  · rw [hsame]
    exact hn.staged staged h
  · rw [if_neg hsame] at hsome
    exact hn.files n hsome

theorem numbered_recovered (hn : d.Numbered) (h : d.stagedEvent = some staged) :
    (d.recovered staged).Numbered :=
  ⟨hn.room, (numbered_rewritten hn h).files, (numbered_rewritten hn h).distinct,
    fun _ h' => by cases h'⟩

theorem recoverable_of_none (h : d.stagedEvent = none) : d.Recoverable := by
  intro staged h'
  rw [h] at h'
  cases h'

/-- A recovery that was cut off can be done again. -/
theorem recoverable_rewritten (hr : d.Recoverable) (h : d.stagedEvent = some staged) :
    (d.rewritten staged).Recoverable := by
  intro staged' h'
  obtain rfl := Option.some.inj (h.symm.trans h')
  refine ⟨(hr staged h).1, fun file hget => ?_⟩
  exact (Option.some.inj ((Dict.get_set_self _ _ _).symm.trans hget)).symm

/-- The numbers are used up: the staged event got none, and no recovery can write it. -/
def Exhausted (d : Disk) : Prop :=
  ∃ staged, d.stagedEvent = some staged ∧ staged.sequence = 0

theorem Exhausted.not_recoverable (h : d.Exhausted) : ¬ d.Recoverable := by
  obtain ⟨staged, hstaged, hzero⟩ := h
  exact fun hr => (hr staged hstaged).1 hzero

/-- The event with the next number. -/
def issued (d : Disk) (e : RuntimeEvent) : RuntimeEvent :=
  { e with sequence := (d.nextSequence + 1) % 2 ^ 64 }

/-- Whether a crash is after `StageEvent`. -/
def CrashPoint.stages : CrashPoint → Bool
  | .beforeRecovered | .beforeStage => false
  | .afterStage | .afterAppend | .afterClear => true

/-- The disk where `persistEvent` was cut off, from a disk with nothing staged. -/
def cutOff (d : Disk) (e : RuntimeEvent) : CrashPoint → Disk
  | .beforeRecovered | .beforeStage => d
  | .afterStage =>
    { d with
      nextSequence := (d.issued e).sequence
      stagedEvent := some (d.issued e) }
  | .afterAppend =>
    { nextSequence := (d.issued e).sequence
      stagedEvent := some (d.issued e)
      outbox := d.outbox.set (d.issued e).sequence (d.issued e).encode }
  | .afterClear =>
    { nextSequence := (d.issued e).sequence
      stagedEvent := none
      outbox := d.outbox.set (d.issued e).sequence (d.issued e).encode }

theorem stageEvent_run (hnone : d.stagedEvent = none) (he : e.sequence = 0) :
    (stageEvent e).run d = .ok (d.issued e) (d.cutOff e .afterStage) := by
  unfold stageEvent
  rw [Method.run_get_bind]
  simp only [hnone, he, Option.isSome_none, Bool.false_eq_true, if_false, ne_eq,
    not_true_eq_false]
  rfl

theorem issued_sequence (hroom : d.nextSequence + 1 < 2 ^ 64) (e : RuntimeEvent) :
    (d.issued e).sequence = d.nextSequence + 1 :=
  Nat.mod_eq_of_lt hroom

theorem fresh_of_numbered (hn : d.Numbered) : d.outbox.get (d.nextSequence + 1) = none := by
  by_contra hsome
  have hissued := hn.files _ (Option.isSome_iff_ne_none.mpr hsome)
  omega

/-- The next number has no file. -/
theorem fresh_issued (hn : d.Numbered) (hroom : d.nextSequence + 1 < 2 ^ 64) (e : RuntimeEvent) :
    d.outbox.get (d.issued e).sequence = none := by
  rw [issued_sequence hroom]
  exact fresh_of_numbered hn

theorem append_issued_run (hn : d.Numbered) (hroom : d.nextSequence + 1 < 2 ^ 64) :
    (append (d.issued e)).run (d.cutOff e .afterStage) = .ok () (d.cutOff e .afterAppend) := by
  refine append_of_appendable (d := d.cutOff e .afterStage) ⟨?_, fun file hget => ?_⟩
  · rw [issued_sequence hroom]
    exact Nat.succ_ne_zero _
  · rw [show (d.cutOff e .afterStage).outbox = d.outbox from rfl, fresh_issued hn hroom] at hget
    cases hget

theorem clear_issued_run (d : Disk) (e : RuntimeEvent) :
    (clearStagedEvent (d.issued e).sequence).run (d.cutOff e .afterAppend)
      = .ok () (d.cutOff e .afterClear) :=
  clearStagedEvent_run rfl rfl

/-- The disk after the statements before a crash. -/
theorem persistUntil_after {d₁ : Disk} (hrecover : recoverStagedEvent.run d = .ok () d₁)
    (hnone : d₁.stagedEvent = none) (hn : d₁.Numbered) (he : e.sequence = 0) {p : CrashPoint}
    (hp : p ≠ .beforeRecovered) (hroom : p.stages → d₁.nextSequence + 1 < 2 ^ 64) :
    (persistUntil e p).after d = d₁.cutOff e p := by
  have hnew : ¬ e.sequence ≠ 0 := by simp [he]
  have hstage := stageEvent_run hnone he
  unfold Method.after
  cases p with
  | beforeRecovered => exact absurd rfl hp
  | beforeStage =>
      simp only [persistUntil]
      rw [hrecover]
      rfl
  | afterStage =>
      simp only [persistUntil]
      rw [Method.run_bind, hrecover]
      simp only [if_neg hnew]
      rw [Method.run_drop, hstage]
  | afterAppend =>
      simp only [persistUntil]
      rw [Method.run_bind, hrecover]
      simp only [if_neg hnew]
      rw [Method.run_bind, hstage]
      simp only [append_issued_run hn (hroom rfl)]
  | afterClear =>
      simp only [persistUntil, persistEvent]
      rw [Method.run_drop, Method.run_bind, hrecover]
      simp only [if_neg hnew]
      rw [Method.run_bind, hstage]
      simp only
      rw [Method.run_bind, append_issued_run hn (hroom rfl)]
      simp only
      rw [Method.run_bind, clear_issued_run]
      rfl

/-- Without a number left, the event is staged and nothing else is written. -/
theorem persistUntil_after_full {d₁ : Disk} (hrecover : recoverStagedEvent.run d = .ok () d₁)
    (hnone : d₁.stagedEvent = none) (hzero : (d₁.issued e).sequence = 0) (he : e.sequence = 0)
    {p : CrashPoint} (hp : p.stages) : (persistUntil e p).after d = d₁.cutOff e .afterStage := by
  have hnew : ¬ e.sequence ≠ 0 := by simp [he]
  have hstage := stageEvent_run hnone he
  obtain ⟨error, happend⟩ : ∃ error,
      (append (d₁.issued e)).run (d₁.cutOff e .afterStage) = .error error _ :=
    append_of_not fun h => h.1 hzero
  unfold Method.after
  cases p with
  | beforeRecovered => cases hp
  | beforeStage => cases hp
  | afterStage =>
      simp only [persistUntil]
      rw [Method.run_bind, hrecover]
      simp only [if_neg hnew]
      rw [Method.run_drop, hstage]
  | afterAppend =>
      simp only [persistUntil]
      rw [Method.run_bind, hrecover]
      simp only [if_neg hnew]
      rw [Method.run_bind, hstage]
      simp only [happend]
  | afterClear =>
      simp only [persistUntil, persistEvent]
      rw [Method.run_drop, Method.run_bind, hrecover]
      simp only [if_neg hnew]
      rw [Method.run_bind, hstage]
      simp only
      rw [Method.run_bind, happend]

/-- An event that has a number already is not staged. -/
theorem persistUntil_after_old {d₁ : Disk} (hrecover : recoverStagedEvent.run d = .ok () d₁)
    (he : e.sequence ≠ 0) {p : CrashPoint} (hp : p ≠ .beforeRecovered) :
    (persistUntil e p).after d = d₁ := by
  unfold Method.after
  cases p with
  | beforeRecovered => exact absurd rfl hp
  | beforeStage =>
      simp only [persistUntil]
      rw [hrecover]
  | afterStage | afterAppend =>
      simp only [persistUntil]
      rw [Method.run_bind, hrecover]
      simp only [if_pos he]
      rfl
  | afterClear =>
      simp only [persistUntil, persistEvent]
      rw [Method.run_drop, Method.run_bind, hrecover]
      simp only [if_pos he]
      rfl

/-- Nothing is staged while the earlier event cannot be recovered. -/
theorem persistUntil_after_stuck {error : String}
    (hrewrite : rewriteStagedEvent.run d = .error error d)
    (hrecover : recoverStagedEvent.run d = .error error d) (p : CrashPoint) :
    (persistUntil e p).after d = d := by
  unfold Method.after
  cases p with
  | beforeRecovered =>
      simp only [persistUntil]
      rw [hrewrite]
  | beforeStage =>
      simp only [persistUntil]
      rw [hrecover]
  | afterStage | afterAppend =>
      simp only [persistUntil]
      rw [Method.run_bind, hrecover]
  | afterClear =>
      simp only [persistUntil, persistEvent]
      rw [Method.run_drop, Method.run_bind, hrecover]

/-- The disk `d₁` is what a recovery that returned has left of `d`. -/
structure Cleared (d d₁ : Disk) : Prop where
  recoverable : d.Recoverable
  numbered : d₁.Numbered
  unstaged : d₁.stagedEvent = none
  sequence : d₁.nextSequence = d.nextSequence

/-- What `persistEvent` leaves where it is cut off. -/
inductive Leaves (d : Disk) (e : RuntimeEvent) (p : CrashPoint) : Disk → Prop
  | stuck (h : ¬ d.Recoverable) : Leaves d e p d
  | rewritten {staged : RuntimeEvent} (hr : d.Recoverable) (h : d.stagedEvent = some staged)
      (hp : p = .beforeRecovered) : Leaves d e p (d.rewritten staged)
  | old {d₁ : Disk} (h : Cleared d d₁) (he : e.sequence ≠ 0) : Leaves d e p d₁
  | cut {d₁ : Disk} (h : Cleared d d₁) (hroom : p.stages → d.nextSequence + 1 < 2 ^ 64) :
      Leaves d e p (d₁.cutOff e p)
  | full {d₁ : Disk} (h : Cleared d d₁) (hp : p.stages)
      (hfull : ¬ d.nextSequence + 1 < 2 ^ 64) : Leaves d e p (d₁.cutOff e .afterStage)

theorem issued_full (hn : d.Numbered) (hfull : ¬ d.nextSequence + 1 < 2 ^ 64) (e : RuntimeEvent) :
    (d.issued e).sequence = 0 := by
  have hlast : d.nextSequence + 1 = 2 ^ 64 := by
    have := hn.room
    omega
  show (d.nextSequence + 1) % 2 ^ 64 = 0
  rw [hlast, Nat.mod_self]

theorem persistUntil_leaves_of_cleared {d₁ : Disk} (h : Cleared d d₁)
    (hrecover : recoverStagedEvent.run d = .ok () d₁) (e : RuntimeEvent) {p : CrashPoint}
    (hp : p ≠ .beforeRecovered) : Leaves d e p ((persistUntil e p).after d) := by
  by_cases he : e.sequence = 0
  · by_cases hroom : p.stages → d.nextSequence + 1 < 2 ^ 64
    · rw [persistUntil_after hrecover h.unstaged h.numbered he hp (h.sequence ▸ hroom)]
      exact .cut h hroom
    · push Not at hroom
      have hfull : ¬ d₁.nextSequence + 1 < 2 ^ 64 := by
        rw [h.sequence]
        exact Nat.not_lt.mpr hroom.2
      rw [persistUntil_after_full hrecover h.unstaged (issued_full h.numbered hfull e) he hroom.1]
      exact .full h hroom.1 (Nat.not_lt.mpr hroom.2)
  · rw [persistUntil_after_old hrecover he hp]
    exact .old h he

theorem persistUntil_leaves (hn : d.Numbered) (e : RuntimeEvent) (p : CrashPoint) :
    Leaves d e p ((persistUntil e p).after d) := by
  obtain ⟨hnone, hrewrite, hrecover⟩ | ⟨staged, hstaged, hr, hrewrite, hrecover⟩ |
    ⟨hstuck, error, hrewrite, hrecover⟩ := recover_cases d
  · have hcleared : Cleared d d := ⟨recoverable_of_none hnone, hn, hnone, rfl⟩
    by_cases hp : p = .beforeRecovered
    · subst hp
      rw [show (persistUntil e .beforeRecovered).after d = d by
        simp only [persistUntil, Method.after, hrewrite]]
      exact .cut (p := .beforeRecovered) hcleared (fun h => by cases h)
    · exact persistUntil_leaves_of_cleared hcleared hrecover e hp
  · by_cases hp : p = .beforeRecovered
    · subst hp
      rw [show (persistUntil e .beforeRecovered).after d = d.rewritten staged by
        simp only [persistUntil, Method.after, hrewrite]]
      exact .rewritten hr hstaged rfl
    · exact persistUntil_leaves_of_cleared ⟨hr, numbered_recovered hn hstaged, rfl, rfl⟩ hrecover
        e hp
  · rw [persistUntil_after_stuck hrewrite hrecover]
    exact .stuck hstuck

theorem numbered_cutOff (hn : d.Numbered) (e : RuntimeEvent) {p : CrashPoint}
    (hroom : p.stages → d.nextSequence + 1 < 2 ^ 64) : (d.cutOff e p).Numbered := by
  have hissued : p.stages → (d.issued e).sequence = d.nextSequence + 1 :=
    fun hp => issued_sequence (hroom hp) e
  have hfiles : (d.issued e).sequence = d.nextSequence + 1 →
      ∀ n, ((d.outbox.set (d.issued e).sequence (d.issued e).encode).get n).isSome →
        n ≤ (d.issued e).sequence := by
    intro hnext n hsome
    rw [Dict.get_set] at hsome
    by_cases hsame : n = (d.issued e).sequence
    · exact hsame.le
    · rw [if_neg hsame] at hsome
      have := hn.files n hsome
      omega
  have hlast : (d.issued e).sequence < 2 ^ 64 := Nat.mod_lt _ (by decide)
  cases p with
  | beforeRecovered => exact hn
  | beforeStage => exact hn
  | afterStage =>
      refine ⟨hlast, fun n hsome => ?_, hn.distinct, fun staged h => ?_⟩
      · have := hn.files n hsome
        show n ≤ (d.issued e).sequence
        rw [hissued rfl]
        omega
      · obtain rfl := Option.some.inj h
        exact Nat.le_refl _
  | afterAppend =>
      refine ⟨hlast, hfiles (hissued rfl), Dict.nodup_keys_set hn.distinct _ _, fun staged h => ?_⟩
      obtain rfl := Option.some.inj h
      exact Nat.le_refl _
  | afterClear =>
      exact ⟨hlast, hfiles (hissued rfl), Dict.nodup_keys_set hn.distinct _ _,
        fun staged h => by cases h⟩

/-- A cut-off call leaves the disk numbered, or it has used up the numbers. -/
theorem Leaves.numbered {p : CrashPoint} (h : Leaves d e p d') (hn : d.Numbered) :
    d'.Numbered ∨ d'.Exhausted := by
  cases h with
  | stuck => exact Or.inl hn
  | rewritten hr hstaged hp => exact Or.inl (numbered_rewritten hn hstaged)
  | old hcleared he => exact Or.inl hcleared.numbered
  | cut hcleared hroom =>
      exact Or.inl (numbered_cutOff hcleared.numbered e (hcleared.sequence ▸ hroom))
  | full hcleared hp hfull =>
      exact Or.inr ⟨_, rfl, issued_full hcleared.numbered (hcleared.sequence ▸ hfull) e⟩

theorem numbered_recover (hn : d.Numbered) : (recoverStagedEvent.after d).Numbered := by
  unfold Method.after
  obtain ⟨-, -, h⟩ | ⟨staged, hstaged, -, -, h⟩ | ⟨-, error, -, h⟩ := recover_cases d
  · rw [h]
    exact hn
  · rw [h]
    exact numbered_recovered hn hstaged
  · rw [h]
    exact hn

theorem get_of_ack {n sequence : Nat} {file : Bytes} (hn : d.Numbered)
    (h : ((ackThrough sequence).after d).outbox.get n = some file) :
    d.outbox.get n = some file :=
  Dict.get_of_mem hn.distinct (List.mem_of_mem_filter (Dict.mem_of_get h))

theorem numbered_ack (hn : d.Numbered) (sequence : Nat) : ((ackThrough sequence).after d).Numbered := by
  refine ⟨hn.room, fun n hsome => ?_, ?_, hn.staged⟩
  · obtain ⟨file, hget⟩ := Option.isSome_iff_exists.mp hsome
    exact hn.files n (Option.isSome_iff_exists.mpr ⟨file, get_of_ack hn hget⟩)
  · exact hn.distinct.sublist (List.filter_sublist.map _)

theorem numbered_empty : Numbered {} :=
  ⟨by decide, fun n h => (by cases h), List.nodup_nil, fun staged h => by cases h⟩

/-! ### A crash -/

/-- Recovery after the restart returns, clears the staged event and leaves one file with its
    number. -/
def Recovers (d : Disk) : Prop :=
  ∃ d', recoverStagedEvent.run d = .ok () d' ∧ d'.stagedEvent = none ∧
    ∀ staged, d.stagedEvent = some staged → d'.outbox.keys.count staged.sequence = 1

theorem Recovers.recoverable (h : d.Recovers) : d.Recoverable := by
  obtain ⟨d', hd', -⟩ := h
  obtain ⟨hnone, -⟩ | ⟨staged, -, hr, -⟩ | ⟨-, error, -, herror⟩ := recover_cases d
  · exact recoverable_of_none hnone
  · exact hr
  · rw [herror] at hd'
    cases hd'

theorem recovers_iff (hn : d.Numbered) : d.Recovers ↔ d.Recoverable := by
  refine ⟨Recovers.recoverable, fun hr => ?_⟩
  obtain ⟨hnone, -, h⟩ | ⟨staged, hstaged, -, -, h⟩ | ⟨hstuck, -⟩ := recover_cases d
  · refine ⟨d, h, hnone, fun staged hstaged => ?_⟩
    rw [hnone] at hstaged
    cases hstaged
  · refine ⟨_, h, rfl, fun staged' h' => ?_⟩
    obtain rfl := Option.some.inj (hstaged.symm.trans h')
    have hkey : staged.sequence ∈ (d.recovered staged).outbox.keys := by
      rw [Dict.mem_keys_iff]
      simp [recovered, rewritten]
    exact List.count_eq_one_of_mem (numbered_recovered hn hstaged).distinct hkey
  · exact absurd hr hstuck

theorem recoverable_cutOff_iff (hn : d.Numbered) (hnone : d.stagedEvent = none) (e : RuntimeEvent)
    {p : CrashPoint} (hroom : p.stages → d.nextSequence + 1 < 2 ^ 64) :
    (d.cutOff e p).Recoverable ↔ (p = .afterAppend → e.ValidText) := by
  have hnumber : p.stages → (d.issued e).sequence ≠ 0 := by
    intro hp
    rw [issued_sequence (hroom hp)]
    exact Nat.succ_ne_zero _
  cases p with
  | beforeRecovered => exact ⟨fun _ h => (by cases h), fun _ => recoverable_of_none hnone⟩
  | beforeStage => exact ⟨fun _ h => (by cases h), fun _ => recoverable_of_none hnone⟩
  | afterStage =>
      refine ⟨fun _ h => (by cases h), fun _ staged h => ?_⟩
      obtain rfl := Option.some.inj h
      refine ⟨hnumber rfl, fun file hget => ?_⟩
      have hfresh : d.outbox.get (d.issued e).sequence = some file := hget
      rw [fresh_issued hn (hroom rfl)] at hfresh
      cases hfresh
  | afterAppend =>
      have hfile : (d.cutOff e .afterAppend).outbox.get (d.issued e).sequence
          = some (d.issued e).encode := Dict.get_set_self _ _ _
      have htexts : (d.issued e).ValidText ↔ e.ValidText := Iff.rfl
      constructor
      · intro hr _
        have hsame := (hr (d.issued e) rfl).2 _ hfile
        exact htexts.mp ((RuntimeEvent.encode_reread_iff _).mp hsame.symm)
      · intro hvalid staged h
        obtain rfl := Option.some.inj h
        refine ⟨hnumber rfl, fun file hget => ?_⟩
        obtain rfl := Option.some.inj (hfile.symm.trans hget)
        exact ((RuntimeEvent.encode_reread_iff _).mpr (htexts.mpr (hvalid rfl))).symm
  | afterClear => exact ⟨fun _ h => (by cases h), fun _ => recoverable_of_none rfl⟩

/-- The event that an operation persists. -/
def Operation.event : Operation → Option RuntimeEvent
  | .persist e | .crash e _ => some e
  | .recover | .ack _ => none

theorem Leaves.recoverable {p : CrashPoint} (h : Leaves d e p d') (hr : d.Recoverable)
    (hroom : d.nextSequence + 1 < 2 ^ 64) (hvalid : e.ValidText) :
    d'.Recoverable ∧ d'.nextSequence ≤ d.nextSequence + 1 := by
  cases h with
  | stuck hstuck => exact absurd hr hstuck
  | rewritten _ hstaged _ => exact ⟨recoverable_rewritten hr hstaged, Nat.le_succ _⟩
  | old hcleared _ => exact ⟨recoverable_of_none hcleared.unstaged, hcleared.sequence ▸ Nat.le_succ _⟩
  | full _ _ hfull => exact absurd hroom hfull
  | cut hcleared hstages =>
      rename_i d₁
      have hroom₁ : p.stages → d₁.nextSequence + 1 < 2 ^ 64 := hcleared.sequence ▸ hstages
      refine ⟨(recoverable_cutOff_iff hcleared.numbered hcleared.unstaged e hroom₁).mpr
        fun _ => hvalid, ?_⟩
      have hissued := issued_sequence (d := d₁) (hcleared.sequence ▸ hroom) e
      rw [hcleared.sequence] at hissued
      cases p with
      | beforeRecovered | beforeStage => exact hcleared.sequence ▸ Nat.le_succ _
      | afterStage | afterAppend | afterClear => exact hissued.le

/-- What an operation keeps while the events are in UTF-8 and numbers are left. -/
theorem recoverable_step {op : Operation} (hn : d.Numbered) (hr : d.Recoverable)
    (hroom : d.nextSequence + 1 < 2 ^ 64) (hvalid : ∀ e ∈ op.event, e.ValidText) :
    (op.method.after d).Numbered ∧ (op.method.after d).Recoverable ∧
      (op.method.after d).nextSequence ≤ d.nextSequence + 1 := by
  have hpersist : ∀ e p, e.ValidText → ((persistUntil e p).after d).Numbered ∧
      ((persistUntil e p).after d).Recoverable ∧
        ((persistUntil e p).after d).nextSequence ≤ d.nextSequence + 1 := by
    intro e p hvalid
    have hleaves := persistUntil_leaves hn e p
    have hboth := hleaves.recoverable hr hroom hvalid
    exact ⟨(hleaves.numbered hn).resolve_right fun h => h.not_recoverable hboth.1, hboth⟩
  cases op with
  | persist e => exact hpersist e .afterClear (hvalid e rfl)
  | crash e p => exact hpersist e p (hvalid e rfl)
  | recover =>
      refine ⟨numbered_recover hn, ?_⟩
      unfold Operation.method Method.after
      obtain ⟨-, -, h⟩ | ⟨staged, -, -, -, h⟩ | ⟨hstuck, -⟩ := recover_cases d
      · rw [h]
        exact ⟨hr, Nat.le_succ _⟩
      · rw [h]
        exact ⟨recoverable_of_none rfl, Nat.le_succ _⟩
      · exact absurd hr hstuck
  | ack sequence =>
      refine ⟨numbered_ack hn sequence, fun staged hstaged => ?_, Nat.le_succ _⟩
      exact ⟨(hr staged hstaged).1, fun file hget => (hr staged hstaged).2 file (get_of_ack hn hget)⟩

/-- **Lines in UTF-8 never get the connector stuck.**  After any history of fewer than `2 ^ 64`
    operations whose events have only valid texts, wherever its calls were cut off, recovery
    returns. -/
theorem valid_run_recovers (ops : List Operation) (hroom : ops.length < 2 ^ 64)
    (hvalid : ∀ op ∈ ops, ∀ e ∈ op.event, e.ValidText) : (Disk.run {} ops).Recovers := by
  have hrun : ∀ (ops : List Operation) (d : Disk), d.Numbered → d.Recoverable →
      d.nextSequence + ops.length < 2 ^ 64 → (∀ op ∈ ops, ∀ e ∈ op.event, e.ValidText) →
      (d.run ops).Numbered ∧ (d.run ops).Recoverable := by
    intro ops
    induction ops with
    | nil => intro d hn hr _ _; exact ⟨hn, hr⟩
    | cons op rest ih =>
        intro d hn hr hroom hvalid
        rw [List.length_cons] at hroom
        obtain ⟨hn', hr', hle⟩ :=
          recoverable_step hn hr (by omega) (hvalid op List.mem_cons_self)
        exact ih (op.method.after d) hn' hr' (by omega) fun op' h => hvalid op' (List.mem_cons_of_mem _ h)
  obtain ⟨hn, hr⟩ := hrun ops {} numbered_empty (recoverable_of_none rfl)
    (by rw [Nat.zero_add]; exact hroom) hvalid
  exact (recovers_iff hn).mpr hr

/-! ### A line of a runtime -/

namespace Sample

end Sample

end Disk

end Arena402.Connector
