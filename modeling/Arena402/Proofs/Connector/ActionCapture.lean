/-
What a capture returns, and when that is the action its messages agree on.

After the first terminal message a capture either holds an action or has failed.  One that holds an
action keeps it while the later messages that validate repeat it, and one that has failed stays failed,
since its nil action is equal to no other.  So the first terminal message decides: when it does not
validate, no later action is captured.
-/
import Arena402.Connector.ActionCapture
import Arena402.Lib.Raise
import Arena402.Proofs.Lib.Json

namespace Arena402.Connector

open Py (Dict Json ok_of_toOption)

/-! ### One message -/

variable {taskKind : TaskKind} {message : RuntimeMessage} {messages : List RuntimeMessage}
  {c : ActionCapture} {a : ActionText}

/-- What the check says to a terminal message; `none` for any other message. -/
def checked (taskKind : TaskKind) (message : RuntimeMessage) : Option (Except ActionError ActionText) :=
  if isBlank (arenaTerminalText message) then none else some (validateTerminal taskKind message)

/-- An action is written with a character or more. -/
theorem checked_ne_nil (h : checked taskKind message = some (.ok a)) : a ≠ [] := by
  unfold checked at h
  by_cases hblank : isBlank (arenaTerminalText message) = true
  · rw [if_pos hblank] at h
    cases h
  · rw [if_neg hblank] at h
    have hvalid := Option.some.inj h
    unfold validateTerminal at hvalid
    dsimp only at hvalid
    split at hvalid <;>
    · rename_i hruntime
      generalize validateRuntimeAction _ taskKind _ = answer at hvalid
      cases answer with
      | error e => cases hvalid
      | ok canonical =>
          obtain ⟨head, tail, hhead, -⟩ := Json.render_head canonical
          have hrender : Json.render canonical = a := Except.ok.inj hvalid
          rw [← hrender, hhead]
          exact List.cons_ne_nil head tail

namespace ActionCapture

/-- A capture that reports an error. -/
structure Failed (c : ActionCapture) : Prop where
  action : c.action = none
  err : c.err.isSome = true

/-- A capture that has an action. -/
def holding (a : ActionText) : ActionCapture where
  action := some a

theorem observe_eq (c : ActionCapture) :
    c.observe taskKind message =
      match checked taskKind message with
      | some validated => c.take validated
      | none => c := by
  unfold observe checked
  split
  · rfl
  · rfl

theorem Failed.observe (h : Failed c) : Failed (c.observe taskKind message) := by
  obtain ⟨haction, herr⟩ := h
  rw [observe_eq]
  cases hchecked : checked taskKind message with
  | none => exact ⟨haction, herr⟩
  | some validated =>
      have hsettled : (c.action.isSome || c.err.isSome) = true := by rw [herr, Bool.or_true]
      dsimp only
      unfold take
      rw [if_pos hsettled]
      cases validated with
      | error e => exact ⟨haction, herr⟩
      | ok b =>
          dsimp only
          rw [haction, Option.getD_none, if_pos (checked_ne_nil hchecked).symm]
          exact ⟨rfl, rfl⟩

/-- A later action that is the same is let through, another one is a conflict. -/
theorem observe_holding (a : ActionText) :
    ((∀ b, checked taskKind message = some (.ok b) → b = a) ∧
      (holding a).observe taskKind message = holding a) ∨
    ((∃ b, checked taskKind message = some (.ok b) ∧ b ≠ a) ∧
      Failed ((holding a).observe taskKind message)) := by
  rw [observe_eq]
  cases hchecked : checked taskKind message with
  | none => exact Or.inl ⟨by simp, rfl⟩
  | some validated =>
      cases validated with
      | error e => exact Or.inl ⟨by simp, rfl⟩
      | ok b =>
          by_cases hb : b = a
          · refine Or.inl ⟨by simp [hb], ?_⟩
            show (if a ≠ b then _ else holding a) = holding a
            rw [if_neg (not_not.mpr hb.symm)]
          · refine Or.inr ⟨⟨b, rfl, hb⟩, ?_⟩
            show Failed (if a ≠ b then _ else holding a)
            rw [if_pos (Ne.symm hb)]
            exact ⟨rfl, rfl⟩

/-! ### The messages of a task -/

theorem Failed.foldl (h : Failed c) :
    Failed (messages.foldl (ActionCapture.observe taskKind) c) := by
  induction messages generalizing c with
  | nil => exact h
  | cons message rest ih => exact ih h.observe

theorem Failed.terminal (h : Failed c) : c.terminal ≠ .ok a := by
  unfold ActionCapture.terminal
  cases herr : c.err with
  | some e => simp
  | none =>
      have hsome := h.2
      rw [herr] at hsome
      cases hsome

theorem terminal_holding (h : a ≠ []) : (holding a).terminal = .ok a := by
  show (if a.length = 0 then _ else Except.ok a) = _
  rw [if_neg (fun hzero => h (List.length_eq_zero_iff.mp hzero))]

/-- A capture that holds an action returns it exactly when no later one differs. -/
theorem foldl_holding {b : ActionText} (ha : a ≠ []) :
    (messages.foldl (observe taskKind) (holding a)).terminal = .ok b ↔
      a = b ∧ ∀ message ∈ messages, ∀ b, checked taskKind message = some (.ok b) → b = a := by
  induction messages with
  | nil =>
      show (holding a).terminal = .ok b ↔ _
      rw [terminal_holding ha]
      simp
  | cons message rest ih =>
      rw [List.foldl_cons, List.forall_mem_cons]
      rcases @observe_holding taskKind message a with
        ⟨hsame, hobserve⟩ | ⟨⟨b', hb', hne⟩, hfailed⟩
      · rw [hobserve, ih]
        constructor
        · rintro ⟨hab, hrest⟩
          exact ⟨hab, hsame, hrest⟩
        · rintro ⟨hab, -, hrest⟩
          exact ⟨hab, hrest⟩
      · constructor
        · exact fun h => absurd h hfailed.foldl.terminal
        · rintro ⟨-, hsame, -⟩
          exact absurd (hsame b' hb') hne

end ActionCapture

open ActionCapture

/-- **The first terminal message decides.**  An action is returned exactly when the first terminal
    message validates to it and no later one validates to another. -/
theorem terminal_captured_iff :
    (captured taskKind messages).terminal = .ok a ↔
      messages.findSome? (checked taskKind) = some (.ok a) ∧
        ∀ message ∈ messages, ∀ b, checked taskKind message = some (.ok b) → b = a := by
  unfold captured
  induction messages with
  | nil =>
      refine iff_of_false ?_ (by simp)
      intro h
      cases h
  | cons message rest ih =>
      rw [List.foldl_cons, List.findSome?_cons, List.forall_mem_cons, observe_eq]
      cases hchecked : checked taskKind message with
      | none =>
          dsimp only
          rw [ih]
          simp
      | some validated =>
          dsimp only
          cases validated with
          | error e =>
              have hfailed : Failed (take {} (.error e)) := ⟨rfl, rfl⟩
              refine iff_of_false hfailed.foldl.terminal ?_
              rintro ⟨h, -⟩
              cases h
          | ok b =>
              have hholding : take {} (.ok b) = holding b := rfl
              rw [hholding, foldl_holding (checked_ne_nil hchecked)]
              simp only [Option.some.injEq, Except.ok.injEq]
              constructor
              · rintro ⟨rfl, hrest⟩
                exact ⟨rfl, fun b hb => hb.symm, hrest⟩
              · rintro ⟨rfl, -, hrest⟩
                exact ⟨rfl, hrest⟩

/-! ### Agreement -/

/-- One terminal message validates, and all that do give the same action. -/
def Agreed (taskKind : TaskKind) (messages : List RuntimeMessage) (a : ActionText) : Prop :=
  (∃ message ∈ messages, checked taskKind message = some (.ok a)) ∧
    ∀ message ∈ messages, ∀ b, checked taskKind message = some (.ok b) → b = a

/-- The first terminal message validates. -/
def FirstValidates (taskKind : TaskKind) (messages : List RuntimeMessage) : Prop :=
  ∃ a, messages.findSome? (checked taskKind) = some (.ok a)

theorem Agreed.perm {messages' : List RuntimeMessage} (h : messages.Perm messages') :
    Agreed taskKind messages a ↔ Agreed taskKind messages' a := by
  unfold Agreed
  simp only [h.mem_iff]

theorem agreed_of_terminal (h : (captured taskKind messages).terminal = .ok a) :
    Agreed taskKind messages a := by
  obtain ⟨hfirst, hsame⟩ := terminal_captured_iff.mp h
  exact ⟨List.exists_of_findSome?_eq_some hfirst, hsame⟩

theorem terminal_of_agreed (h : Agreed taskKind messages a)
    (hfirst : FirstValidates taskKind messages) :
    (captured taskKind messages).terminal = .ok a := by
  obtain ⟨b, hb⟩ := hfirst
  obtain ⟨message, hmessage, hchecked⟩ := List.exists_of_findSome?_eq_some hb
  obtain rfl := h.2 message hmessage b hchecked
  exact terminal_captured_iff.mpr ⟨hb, h.2⟩

/-- A message that failed the check, before an action that the messages agree on. -/
theorem terminal_of_invalid_first {e : ActionError} (h : checked taskKind message = some (.error e)) :
    (captured taskKind (message :: messages)).terminal ≠ .ok a := by
  intro hterminal
  have hfirst := (terminal_captured_iff.mp hterminal).1
  rw [List.findSome?_cons, h] at hfirst
  cases hfirst

/-- A terminal message that validates can be brought to the front. -/
theorem terminal_of_agreed_first (h : Agreed taskKind messages a) :
    ∃ messages', messages.Perm messages' ∧ (captured taskKind messages').terminal = .ok a := by
  obtain ⟨message, hmessage, hchecked⟩ := h.1
  obtain ⟨before, after, rfl⟩ := List.append_of_mem hmessage
  refine ⟨message :: (before ++ after), List.perm_middle, ?_⟩
  refine terminal_of_agreed ((Agreed.perm List.perm_middle).mp h) ⟨a, ?_⟩
  rw [List.findSome?_cons, hchecked]

/-- When every terminal message validates, the first one does. -/
theorem firstValidates_of_valid (h : Agreed taskKind messages a)
    (hvalid : ∀ message ∈ messages, ∀ e, checked taskKind message ≠ some (.error e)) :
    FirstValidates taskKind messages := by
  obtain ⟨message, hmessage, hchecked⟩ := h.1
  cases hfirst : messages.findSome? (checked taskKind) with
  | none =>
      have hnone := List.findSome?_eq_none_iff.mp hfirst message hmessage
      rw [hchecked] at hnone
      cases hnone
  | some validated =>
      cases validated with
      | ok b => exact ⟨b, hfirst⟩
      | error e =>
          obtain ⟨message', hmessage', herror⟩ := List.exists_of_findSome?_eq_some hfirst
          exact absurd herror (hvalid message' hmessage' e)

/-- **When the capture is the agreement of its messages.**  It returns an action if and only if they
    agree on it exactly when the first terminal message validates or there is no agreement; and its
    outcome is the same in every order exactly when every terminal message validates or there is no
    agreement. -/
theorem captured_agreed_iff (taskKind : TaskKind) (messages : List RuntimeMessage) :
    ((∀ a, (captured taskKind messages).terminal = .ok a ↔ Agreed taskKind messages a) ↔
      FirstValidates taskKind messages ∨ ¬ ∃ a, Agreed taskKind messages a) ∧
    ((∀ messages', messages.Perm messages' →
        (captured taskKind messages').terminal.toOption =
        (captured taskKind messages).terminal.toOption) ↔
      (∀ message ∈ messages, ∀ e, checked taskKind message ≠ some (.error e)) ∨
        ¬ ∃ a, Agreed taskKind messages a) := by
  refine ⟨⟨?_, ?_⟩, ⟨?_, ?_⟩⟩
  · intro hagreed
    by_cases hexists : ∃ a, Agreed taskKind messages a
    · obtain ⟨a, ha⟩ := hexists
      exact Or.inl ⟨a, (terminal_captured_iff.mp ((hagreed a).mpr ha)).1⟩
    · exact Or.inr hexists
  · intro hcondition a
    constructor
    · exact agreed_of_terminal
    · intro ha
      rcases hcondition with hfirst | hnone
      · exact terminal_of_agreed ha hfirst
      · exact absurd ⟨a, ha⟩ hnone
  · intro hsame
    by_cases hexists : ∃ a, Agreed taskKind messages a
    · obtain ⟨a, ha⟩ := hexists
      refine Or.inl ?_
      intro message hmessage e he
      obtain ⟨front, hfront, hterminal⟩ := terminal_of_agreed_first ha
      obtain ⟨before, after, rfl⟩ := List.append_of_mem hmessage
      have hinvalid := hsame (message :: (before ++ after)) List.perm_middle
      rw [← hsame front hfront, hterminal] at hinvalid
      exact terminal_of_invalid_first he (ok_of_toOption hinvalid)
    · exact Or.inr hexists
  · intro hcondition messages' hperm
    by_cases hexists : ∃ a, Agreed taskKind messages a
    · obtain ⟨a, ha⟩ := hexists
      have hvalid : ∀ message ∈ messages, ∀ e, checked taskKind message ≠ some (.error e) :=
        hcondition.resolve_right (not_not.mpr ⟨a, ha⟩)
      have ha' := (Agreed.perm hperm).mp ha
      rw [terminal_of_agreed ha (firstValidates_of_valid ha hvalid),
        terminal_of_agreed ha' (firstValidates_of_valid ha' fun message hmessage =>
          hvalid message (hperm.mem_iff.mpr hmessage))]
    · have hnone : ∀ messages', messages.Perm messages' →
          (captured taskKind messages').terminal.toOption = none := by
        intro messages' hperm
        cases hterminal : (captured taskKind messages').terminal with
        | error e => rfl
        | ok a => exact absurd ⟨a, (Agreed.perm hperm).mpr (agreed_of_terminal hterminal)⟩ hexists
      rw [hnone messages' hperm, hnone messages (List.Perm.refl messages)]

/-! ### A word before the action -/

namespace Sample

/-- A message of the agent, as Codex prints it. -/
def agentMessage (text : String) : RuntimeMessage :=
  [("type", .str "item.completed"),
    ("item", .object [("type", .str "agent_message"), ("text", .str text)])]

def thinking : RuntimeMessage :=
  agentMessage "I pass."

def passing : RuntimeMessage :=
  agentMessage "\x7b\"action\":\"pass\"\x7d"

/-- The canonical text of passing. -/
def passText : ActionText :=
  "\x7b\"action\":\"pass\"\x7d".toList

def isError : Option (Except ActionError ActionText) → Bool
  | some (.error _) => true
  | _ => false

def isAction (a : ActionText) : Option (Except ActionError ActionText) → Bool
  | some (.ok b) => a = b
  | _ => false

theorem checked_thinking : ∃ e, checked .decide thinking = some (.error e) := by
  have herror : isError (checked .decide thinking) = true := by decide +kernel
  unfold isError at herror
  split at herror
  · rename_i e he
    exact ⟨e, he⟩
  · cases herror

theorem checked_passing : checked .decide passing = some (.ok passText) := by
  have haction : isAction passText (checked .decide passing) = true := by decide +kernel
  unfold isAction at haction
  split at haction
  · rename_i b hb
    rw [hb, of_decide_eq_true haction]
  · cases haction

/-- The action after a word is the only one that validates, and it is not returned; before the word it
    is. -/
theorem thinking_discards_action :
    Agreed .decide [thinking, passing] passText ∧
      (captured .decide [thinking, passing]).terminal ≠ .ok passText ∧
      (captured .decide [passing, thinking]).terminal = .ok passText := by
  obtain ⟨e, he⟩ := checked_thinking
  have hagreed : Agreed .decide [thinking, passing] passText := by
    refine ⟨⟨passing, by simp, checked_passing⟩, ?_⟩
    intro message hmessage b hb
    simp only [List.mem_cons, List.not_mem_nil, or_false] at hmessage
    rcases hmessage with rfl | rfl
    · rw [he] at hb
      cases hb
    · rw [checked_passing] at hb
      cases hb
      rfl
  refine ⟨hagreed, terminal_of_invalid_first he, ?_⟩
  refine terminal_of_agreed ((Agreed.perm (List.Perm.swap passing thinking [])).mp hagreed)
      ⟨passText, ?_⟩
  rw [List.findSome?_cons, checked_passing]

end Sample

end Arena402.Connector
