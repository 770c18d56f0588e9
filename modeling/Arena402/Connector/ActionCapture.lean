/-
`arenaActionCapture`: the action that a runtime prints, among its other messages.

A runtime prints structured messages one after another.  A terminal message carries a text, which is
checked as an action; the capture keeps what it made of the first one and compares the later ones
with it.
-/
import Arena402.Connector.ArenaAction

namespace Arena402.Connector

open Py (Dict Json)

/-- A structured message of a runtime, a `map[string]any`. -/
abbrev RuntimeMessage := Dict String Go.Value

/-- The bytes of a canonical action, as the characters they encode.  Go writes some of them as
    escapes; nothing is asked of these bytes but whether two texts are the same. -/
abbrev ActionText := List Char

/-- `message[key].(string)`, or the empty string. -/
def stringAt (key : String) (message : RuntimeMessage) : String :=
  match message.get key with
  | some (.str text) => text
  | _ => ""

/-- `message[key].(map[string]any)`, or the nil map. -/
def mapAt (key : String) (message : RuntimeMessage) : RuntimeMessage :=
  ((message.get key).bind Go.Value.toMap).getD []

/-- `arenaTerminalText` -/
def arenaTerminalText (message : RuntimeMessage) : String :=
  if stringAt "type" message = "result" then stringAt "result" message
  else if stringAt "type" message = "item.completed" then
    if stringAt "type" (mapAt "item" message) ≠ "agent_message" then ""
    else stringAt "text" (mapAt "item" message)
  else ""

/-- The check of a terminal text: an item of Codex, or else a result of Claude. -/
def validateTerminal (taskKind : TaskKind) (message : RuntimeMessage) : Except ActionError ActionText :=
  let runtime := if stringAt "type" message = "item.completed" then Runtime.codex else Runtime.claude
  (validateRuntimeAction runtime taskKind (Go.utf8 (arenaTerminalText message))).map Json.render

/-- `arenaActionCapture`; a nil action is `none`. -/
structure ActionCapture where
  action : Option ActionText := none
  err : Option ActionError := none

namespace ActionCapture

/-- Two terminal actions that differ. -/
def conflict : ActionError :=
  .text "Runtime produced conflicting terminal Arena actions"

/-- What `observe` does with a terminal text that was checked. -/
def take (c : ActionCapture) (validated : Except ActionError ActionText) : ActionCapture :=
  if c.action.isSome || c.err.isSome then
    match validated with
    | .ok action => if c.action.getD [] ≠ action then { action := none, err := some conflict } else c
    | .error _ => c
  else
    match validated with
    | .ok action => { action := some action, err := none }
    | .error err => { action := none, err := some err }

/-- `observe` -/
def observe (taskKind : TaskKind) (c : ActionCapture) (message : RuntimeMessage) : ActionCapture :=
  if isBlank (arenaTerminalText message) then c else c.take (validateTerminal taskKind message)

/-- `terminal` -/
def terminal (c : ActionCapture) : Except ActionError ActionText :=
  match c.err with
  | some err => .error err
  | none =>
    if (c.action.getD []).length = 0 then
      .error (.text "Runtime did not produce a terminal Arena action")
    else .ok (c.action.getD [])

end ActionCapture

/-- The capture after the messages of a task. -/
def captured (taskKind : TaskKind) (messages : List RuntimeMessage) : ActionCapture :=
  messages.foldl (ActionCapture.observe taskKind) {}

end Arena402.Connector
