import FlowPilot.Assist.Console
import FlowPilot.Desk.Command

/-!
# The assisted session

The operator types commands, one a line. Whatever ends the session, the browser is closed.

## Main definitions

* `Assist.Line.ofText`: what a line asks for.
* `Assist.run`: the session, from its first prompt until the browser is closed.
-/

namespace FlowPilot

/-- The desk and the console. -/
structure Assist where
  desk : Desk
  console : Console

namespace Assist

/-- Why a session ends badly. -/
inductive Failure
  | unreadable
  | unwritable
  | fault (f : Fault)
  deriving DecidableEq, Repr

def Failure.message : Failure → String
  | unreadable => "falha lendo stdin"
  | unwritable => "Broken pipe (os error 32)"
  | fault f => f.message

/-- What a line asks for. -/
inductive Line
  | blank
  | quit
  | help
  | command (c : Desk.Command)
  | unknown (word : String)
  deriving DecidableEq, Repr

/-- The first word of a line and what follows it, without the blanks around them. -/
def wordAndRest (line : String) : String × String :=
  match Text.cutAt Text.isBlank (Text.trim line).toList with
  | some (word, rest) => (String.ofList word, Text.trim (String.ofList rest))
  | none => (Text.trim line, "")

/-- What a line asks for. -/
def Line.ofText (line : String) : Line :=
  match wordAndRest line with
  | ("", _) => .blank
  | ("quit", _) | ("exit", _) => .quit
  | ("help", _) => .help
  | ("open", _) => .command .openBrowser
  | ("goto", url) => .command (.goto url)
  | ("login", _) => .command .markLogin
  | ("status", _) => .command .status
  | ("plan", _) => .command .loadPlan
  | ("provider", _) => .command .openProvider
  | ("invoice", _) => .command .openInvoice
  | ("prepare", _) => .command .prepare
  | ("confirm", _) => .command .confirm
  | ("run", flow) => if flow = "" then .unknown "run" else .command (.run flow)
  | ("shot", label) => .command (.capture (some label))
  | (word, _) => .unknown word

def help : String :=
  "comandos: open | goto <url> | login | status | plan | provider | invoice |\n"
    ++ "          prepare | confirm | run <fluxo> | shot [rótulo] | quit\n"

def prompt : String := "sri> "

/-- A session that may end badly. -/
abbrev Talk : Type → Type := ExceptT Failure (StateM Assist)

def write (text : String) : Talk Unit := do
  let a ← get
  let c := a.console
  let jammed := c.jams c.writes
  -- A jammed write counts, but leaves nothing behind.
  let written := if jammed then c.written else c.written ++ [text]
  set { a with console := { c with writes := c.writes + 1, written } }
  if jammed then throw .unwritable

/-- Performs an act at the desk; its failure is its result. -/
def atDesk {α : Type} (act : Act Desk α) : Talk (Except Fault α) := do
  let a ← get
  let (result, desk) := act.run a.desk
  set { a with desk := desk }
  return result

def outcomeText (stamp : Nat → String) : Except Fault Desk.Reply → String
  | .ok reply => "✅ " ++ (reply.toJson stamp).pretty ++ "\n"
  | .error f => "❌ " ++ f.userMessage ++ "\n"

/-- Answers a line and tells whether the session goes on. -/
def answer (setup : Desk.Setup) (line : String) : Talk Bool := do
  match Line.ofText line with
  | .blank => return true
  | .quit => return false
  | .help =>
    write help
    return true
  | .command c =>
    let outcome ← atDesk (Desk.perform setup c)
    write (outcomeText setup.stamp outcome)
    return true
  | .unknown word =>
    write ("❓ comando desconhecido: " ++ word ++ "\n" ++ help)
    return true

def dropLine (rest : List (Option String)) : Talk Unit :=
  modify fun a => { a with console := { a.console with unread := rest } }

/-- Prompts and answers until the lines end or the operator quits. -/
def converse (setup : Desk.Setup) : (unread : List (Option String)) → Talk Unit
  | [] => write prompt
  | line :: rest => do
    write prompt
    dropLine rest
    match line with
    | none => throw .unreadable
    | some text => if ← answer setup text then converse setup rest

/-- The session: help, the conversation, and the end of the browser whatever happened. Of two
failures the first counts. -/
def run (setup : Desk.Setup) : StateM Assist (Except Failure Unit) := do
  let lines := (← get).console.unread
  let talked ← (do write help; converse setup lines : Talk Unit).run
  -- Also after a jammed console: only the desk is needed to close the browser.
  let closed ← (atDesk (Desk.perform setup .teardown)).run
  match talked, closed with
  | .error f, _ => return .error f
  | .ok (), .ok (.error f) => return .error (.fault f)
  | .ok (), .ok (.ok _) => return .ok ()
  | .ok (), .error f => return .error f

end Assist

end FlowPilot
